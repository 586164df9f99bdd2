import Descent.Grammar.Meaning
import Descent.Proofs.Faultless.Parser
import Descent.Proofs.Table.Exact

set_option autoImplicit false

namespace Descent

open Descent.Parser (Faultless Total Total₂)

def Value.IsInt (v : Value) : Prop :=
  ∃ n : Int, v = .int n

namespace Grammar

/-- Started no earlier than the text begins, the grammar may yield the value. -/
def Gives (rules : Rules) (text : Text) (p : Grammar) : Value → Prop :=
  (p.meaning rules).Gives text

/-- What one of the grammars may yield on the text has the property. -/
def AllGive (rules : Rules) (text : Text) (good : Value → Prop) (ps : List Grammar) : Prop :=
  ∀ p ∈ ps, ∀ value, p.Gives rules text value → good value

/-- The author's part of the grammar raises nothing: neither the functions that are mapped, nor the
calls of operators, on what the grammar gives them on the text. What calling an operator's value
comes to is up to the author, and operands and results may be values of any kind on which the
calls are total. Every rule that the grammar names can be built; no parser is written by hand. -/
inductive Tame (rules : Rules) (text : Text) : Grammar → Prop where
  | literal (s : String) : Tame rules text (.literal s)
  | satisfy (expected : Option String) (accepts : Char → Bool) :
      Tame rules text (.satisfy expected accepts)
  | pattern (expected : String) (p : Pattern) : Tame rules text (.pattern expected p)
  | pure (value : Value) : Tame rules text (.pure value)
  | failWith (expected : Option String) : Tame rules text (.failWith expected)
  | eof : Tame rules text .eof
  | rule {name : String} {p : Grammar} (built : rules name = .ok p) : Tame rules text (.rule name)
  | lookAhead {p : Grammar} (inner : Tame rules text p) : Tame rules text (.lookAhead p)
  | notFollowedBy {p : Grammar} (inner : Tame rules text p) : Tame rules text (.notFollowedBy p)
  | sequence {ps : List Grammar} (parts : ∀ p ∈ ps, Tame rules text p) :
      Tame rules text (.sequence ps)
  | times (n : Nat) {p : Grammar} (inner : Tame rules text p) : Tame rules text (.times n p)
  | choice {ps : List Grammar} (parts : ∀ p ∈ ps, Tame rules text p) : Tame rules text (.choice ps)
  | many {p : Grammar} (inner : Tame rules text p) : Tame rules text (.many p)
  | many1 {p : Grammar} (inner : Tame rules text p) : Tame rules text (.many1 p)
  | sepBy1 {p separator : Grammar} (inner : Tame rules text p) (outer : Tame rules text separator) :
      Tame rules text (.sepBy1 p separator)
  | bind {p : Grammar} {next : Value → Grammar} (first : Tame rules text p)
      (rest : ∀ value, p.Gives rules text value → Tame rules text (next value)) :
      Tame rules text (.bind p next)
  | map {p : Grammar} {f : Value → Except Fault Value}
      (total : Total (p.Gives rules text) (fun _ => True) f) (inner : Tame rules text p) :
      Tame rules text (.map p f)
  | label {p : Grammar} (message : String) (inner : Tame rules text p) :
      Tame rules text (.label p message)
  | logged (tag : String) {p : Grammar} (inner : Tame rules text p) :
      Tame rules text (.logged tag p)
  | trace (name : String) : Tame rules text (.trace name)
  | traced (name : String) {p : Grammar} (inner : Tame rules text p) :
      Tame rules text (.traced name p)
  | chainl1 {calls : Calls} {p operator : Grammar} (kind : Value → Prop)
      (operands : ∀ value, p.Gives rules text value → kind value)
      (operators : ∀ f, operator.Gives rules text f → Total₂ kind kind (calls.two f))
      (operand : Tame rules text p) (between : Tame rules text operator) :
      Tame rules text (.chainl1 calls p operator)
  | chainr1 {calls : Calls} {p operator : Grammar} (kind : Value → Prop)
      (operands : ∀ value, p.Gives rules text value → kind value)
      (operators : ∀ f, operator.Gives rules text f → Total₂ kind kind (calls.two f))
      (operand : Tame rules text p) (between : Tame rules text operator) :
      Tame rules text (.chainr1 calls p operator)
  | level {calls : Calls} {before after left right single : List Grammar} {operand : Grammar}
      (kind : Value → Prop) (operands : ∀ value, operand.Gives rules text value → kind value)
      (before_total : AllGive rules text (fun f => Total kind kind (calls.affix f)) before)
      (after_total : AllGive rules text (fun f => Total kind kind (calls.affix f)) after)
      (left_total : AllGive rules text (fun f => Total₂ kind kind (calls.two f)) left)
      (right_total : AllGive rules text (fun f => Total₂ kind kind (calls.two f)) right)
      (single_total : AllGive rules text
        (fun f => Total₂ kind (fun _ => True) (calls.two f)) single)
      (in_before : ∀ p ∈ before, Tame rules text p) (in_after : ∀ p ∈ after, Tame rules text p)
      (in_left : ∀ p ∈ left, Tame rules text p) (in_right : ∀ p ∈ right, Tame rules text p)
      (in_single : ∀ p ∈ single, Tame rules text p) (inner : Tame rules text operand) :
      Tame rules text (.level calls before after left right single operand)

variable {rules : Rules} {text : Text} {p opening closing : Grammar} {kind : Value → Prop}

theorem Tame.between (opens : opening.Tame rules text) (closes : closing.Tame rules text)
    (inner : p.Tame rules text) : (between opening closing p).Tame rules text :=
  .bind (.bind opens fun _ _ => inner) fun value _ => .map (fun _ _ => ⟨value, rfl, trivial⟩) closes

theorem Tame.lexeme (inner : p.Tame rules text) : (lexeme p).Tame rules text :=
  .between (.pattern _ _) (.pattern _ _) inner

theorem symbol_tame (s : String) : (symbol s).Tame rules text :=
  .lexeme (.literal s)

/-- What a faultless grammar may yield is of the kind of its values. -/
theorem Gives.of_faultless {value : Value} (gives : p.Gives rules text value)
    (faultless : (p.meaning rules).Faultless text kind) : kind value := by
  obtain ⟨pos, budget, session, stop, reached, inside, ran⟩ := gives
  have sound := faultless pos budget session inside
  rw [ran] at sound
  cases sound with
  | success holds _ _ => exact holds

theorem lexeme_faultless (faultless : (p.meaning rules).Faultless text kind) :
    ((Grammar.lexeme p).meaning rules).Faultless text kind := by
  have blanks : (spaces.meaning rules).Faultless text fun _ => True :=
    (Faultless.pattern _ _).map fun _ _ => trivial
  exact (blanks.bind fun _ _ => faultless).bind fun value holds =>
    blanks.tryMap fun _ _ => ⟨value, rfl, holds⟩

/-- The digits that are found at a place are evaluated to a number if they are not too many. -/
theorem toInteger_total (short : text.ShortRuns) (expected : String) :
    Total ((pattern expected .digits).Gives rules text) Value.IsInt Transform.toInteger := by
  rintro v ⟨pos, budget, session, stop, reached, -, ran⟩
  change (Parser.pattern expected .digits).map Value.str text pos budget session = _ at ran
  rw [Parser.map, Action.bind_apply, Parser.pattern,
    Pattern.digits_matchEnd text _ (text.clamp_le_length pos)] at ran
  generalize text.clamp pos = start at ran
  by_cases none_found : ((text.remaining start).takeWhile isAsciiDigit).length < 1
  · simp only [none_found, ↓reduceIte] at ran
    cases ran
  · simp only [none_found, ↓reduceIte] at ran
    cases ran
    have ascii : ∀ c ∈ (text.remaining start).takeWhile isAsciiDigit, isAsciiDigit c = true :=
      fun c member => List.mem_takeWhile_imp member
    -- the row of digits stands in the text, where none is too long
    have stands : (text.remaining start).takeWhile isAsciiDigit <:+: text.toList :=
      (List.takeWhile_prefix _).isInfix.trans (List.drop_suffix start _).isInfix
    have some : (text.remaining start).takeWhile isAsciiDigit ≠ [] := by
      rintro empty
      simp [empty] at none_found
    have evaluates := Numeral.evaluate_ascii some ascii
    rw [if_neg (Nat.not_lt.mpr (short _ stands ascii)),
      ← text.toList_between_takeWhile] at evaluates
    exact ⟨_, congrArg (Except.map Value.int) evaluates, _, rfl⟩

theorem integer_tame (short : text.ShortRuns) : integer.Tame rules text := by
  have total :
      Total ((pattern "integer" .digits).Gives rules text) Value.IsInt Transform.toInteger :=
    toInteger_total short "integer"
  refine .lexeme (.map (fun v gives => ?_) (.pattern _ _))
  obtain ⟨w, evaluates, -⟩ := total v gives
  exact ⟨w, evaluates, trivial⟩

theorem integer_gives (short : text.ShortRuns) {v : Value} (gives : integer.Gives rules text v) :
    v.IsInt := by
  have digits : ((pattern "integer" .digits).meaning rules).Faultless text fun _ => True :=
    (Faultless.pattern _ _).map fun _ _ => trivial
  exact gives.of_faultless (lexeme_faultless (digits.gives.tryMap (toInteger_total short _)))

end Grammar

def Rules.Tame (rules : Rules) (text : Text) : Prop :=
  ∀ name p, rules name = .ok p → p.Tame rules text

end Descent
