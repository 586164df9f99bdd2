import Descent.Parser.Run
import Descent.Proofs.Table.Completeness

set_option autoImplicit false

namespace Descent

open Descent.Action (Ensures Settles)

namespace Text

variable {text : Text}

/-- Digits that stand in a row are never more than a numeral may have. -/
def ShortRuns (text : Text) : Prop :=
  ∀ run : List Char, run <:+: text.toList → (∀ c ∈ run, isAsciiDigit c = true) →
    run.length ≤ Numeral.maxDigits

theorem ShortRuns.numbers (short : text.ShortRuns) : text.ShortNumbers := by
  intro i digits rest next
  have spaced := Token.spaced_scan (text.remaining i)
  have member : Token.number digits ∈ text.tokens i := by
    rw [next]
    exact List.mem_cons_self
  have stands : digits <:+: text.remaining i := spaced.infix member
  have inside : text.remaining i <:+: text.toList := (List.drop_suffix i _).isInfix
  exact short digits (stands.trans inside) (Token.number_of_scan next).2

end Text

namespace Parser

end Parser

namespace SignTable

variable {σ α : Type} {table : SignTable α} {ofInt : Int → α} {text : Text}

def minus : SignTable Int where
  rows := [[.before ('-', fun x => -x)], [.between .left ('-', fun x y => x - y)]]
  leading_sign := by
    intro ops member c listed
    rcases List.mem_pair.mp member with rfl | rfl
    · rw [show c = '-' from List.mem_singleton.mp listed]
      decide
    · cases listed
  trailing_sign := by
    intro ops member c listed
    rcases List.mem_pair.mp member with rfl | rfl
    · cases listed
    · rw [show c = '-' from List.mem_singleton.mp listed]
      decide
  leading_nodup := by decide
  trailing_nodup := by decide

end SignTable

end Descent
