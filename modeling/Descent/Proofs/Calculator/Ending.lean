import Descent.Proofs.Calculator.Reading
import Descent.Proofs.Recursion.Ending

set_option autoImplicit false

namespace Descent.Calculator.Arithmetic

open Descent.Action (Halts)
open Descent.Parser (Advances Ends Located)

theorem oneSign_advances (s t : Sign) : Advances (oneSign s t) True := by
  have single : ∀ u, Located (sign u) := fun u => (Parser.literal_located _).map _
  rw [oneSign_eq]
  exact Advances.lexeme (.of_located ((single s).orElse (single t)) trivial)

theorem decimal_advances : Advances decimal True :=
  Advances.lexeme (.of_located ((Parser.pattern_located _ _).tryMap _) trivial)

theorem symbol_advances {s : String} (some : s ≠ "") :
    Advances (Parser.symbol s : Parser Empty String) False :=
  Advances.lexeme ((Advances.literal s).mono some)

theorem phrase_advances {sum : Parser Empty Number} (inner : Advances sum True) (phrase : Phrase) :
    Advances (phrase.parser sum) True := by
  have always : ∀ {empty : Prop} {p : Parser Empty Number}, Advances p empty → Advances p True :=
    fun advances => advances.mono fun _ => trivial
  have factor : Advances (factor sum) True := by
    rw [factor_eq]
    exact always ((((symbol_advances (by decide)).seqRight inner).seqLeft
      (symbol_advances (by decide))).orElse decimal_advances)
  have chained : ∀ s t {p : Parser Empty Number}, Advances p True → Advances (chained s t p) True :=
    fun s t _ operand => always ((operand.both (.of_located
      ((oneSign_advances s t).both operand).located.many trivial)).tryMap _)
  match phrase with
  | .factor => exact factor
  | .chain .product => exact chained _ _ factor
  | .chain .sum => exact chained _ _ (chained _ _ factor)

theorem expression_advances : Advances expression True :=
  Advances.fix (fun _ => True) (fun _ inner _ => phrase_advances (inner ()) (.chain .sum)) ()

variable {text : Text} {pos : Int} {ready : Prop}

theorem oneSign_ends (low : 0 ≤ pos) (s t : Sign) : Ends text pos True ready (oneSign s t) := by
  have single : ∀ u, Ends text pos True ready (sign u) :=
    fun u => ((Ends.literal u.text).map _).mono (fun _ => trivial) id
  rw [oneSign_eq]
  exact (((single s).orElse (single t)).mono (fun _ => trivial) id).lexeme low

theorem decimal_ends (low : 0 ≤ pos) : Ends text pos True ready decimal :=
  ((Ends.pattern _ _).tryMap _).lexeme low

theorem symbol_ends (low : 0 ≤ pos) {s : String} (some : s ≠ "") :
    Ends text pos False ready (Parser.symbol s : Parser Empty String) :=
  ((Ends.literal s).mono some id).lexeme low

/-- For a phrase to end at a place, sums need to end further on only: the parenthesis before one
takes a character. -/
theorem phrase_ends (low : 0 ≤ pos) {sum : Parser Empty Number}
    (inner : Ends text pos True False sum)
    (phrase : Phrase) : Ends text pos True ready (phrase.parser sum) := by
  have factor : Ends text pos True ready (factor sum) := by
    have opening : Ends text pos False ready (Parser.symbol "(") := symbol_ends low (by decide)
    have opened := opening.seqRight low (inner.mono id And.right)
    have closed := opened.seqLeft low (symbol_ends low (show ")" ≠ "" by decide))
    rw [factor_eq]
    exact (closed.orElse (decimal_ends low)).mono (fun _ => trivial) id
  have chained : ∀ s t {p : Parser Empty Number}, Ends text pos True ready p →
      Ends text pos True ready (chained s t p) := by
    intro s t p operand
    have link := (oneSign_ends low s t).both low (operand.mono id And.left)
    have parts := operand.both low ((link.many low).mono id And.left)
    exact (parts.tryMap _).mono (fun _ => trivial) id
  match phrase with
  | .factor => exact factor
  | .chain .product => exact chained _ _ factor
  | .chain .sum => exact chained _ _ (chained _ _ factor)

theorem expression_halts (text : Text) (pos : Int) (low : 0 ≤ pos) (high : pos ≤ text.length) :
    Halts (expression text pos) := by
  generalize left : (text.length - pos).toNat = rest
  induction rest using Nat.strongRecOn generalizing pos with
  | ind rest further =>
    have known : Ends text pos True False expression := by
      refine ⟨expression_advances, expression_stable, ?_⟩
      intro later after inside here
      have apart : later ≠ pos := here
      exact further (text.length - later).toNat (by omega) later (by omega) inside rfl
    have body := (phrase_ends low known (.chain .sum)).halts pos (Int.le_refl _) high id
    exact Parser.halts_fix body_regular body

end Descent.Calculator.Arithmetic
