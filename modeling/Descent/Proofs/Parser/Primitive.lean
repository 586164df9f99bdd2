import Descent.Parser.Basic
import Descent.Proofs.Text.Remaining

set_option autoImplicit false

namespace Descent.Parser

variable {σ : Type} {text : Text} {i : Nat}

theorem literal_of_prefix {s : String} (within : i ≤ text.length)
    (stands : s.toList <+: text.remaining i) :
    (literal s : Parser σ String) text i = Pure.pure (.success s ((i + s.length : Nat) : Int)) := by
  unfold literal
  rw [if_pos ((text.startsWith_iff s i within).mpr stands), Int.natCast_add]

theorem literal_of_not_prefix {s : String} (within : i ≤ text.length)
    (absent : ¬ s.toList <+: text.remaining i) :
    (literal s : Parser σ String) text i = Pure.pure (.failure (.leaf i (some (textLabel s)))) := by
  unfold literal
  rw [if_neg (mt (text.startsWith_iff s i within).mp absent)]

theorem satisfy_of_some {expected : Option String} {accepts : Char → Bool} {c : Char}
    (next : text.toList[i]? = some c) :
    (satisfy expected accepts : Parser σ Char) text i =
      if accepts c then Pure.pure (.success c ((i + 1 : Nat) : Int))
      else Pure.pure (.failure (.leaf i expected)) := by
  have inside : (i : Int) < text.length := by
    have bound := (List.getElem?_eq_some_iff.mp next).1
    rw [Text.length_toList] at bound
    omega
  have char : text.char? i = some c := by
    rw [text.char?_of_nat i, ← Array.getElem?_toList]
    exact next
  unfold satisfy
  rw [if_pos inside, char]
  rfl

theorem satisfy_of_none {expected : Option String} {accepts : Char → Bool}
    (ended : text.toList[i]? = none) :
    (satisfy expected accepts : Parser σ Char) text i =
      Pure.pure (.failure (.leaf i expected)) := by
  have outside : ¬ (i : Int) < text.length := by
    have bound := List.getElem?_eq_none_iff.mp ended
    rw [Text.length_toList] at bound
    omega
  unfold satisfy
  rw [if_neg outside]

theorem pattern_of_some {expected : String} {p : Pattern} {j : Nat} (within : i ≤ text.length)
    (found : p.matchEnd? text i = some j) :
    (pattern expected p : Parser σ String) text i = Pure.pure (.success (text.between i j) j) := by
  unfold pattern
  rw [text.clamp_of_mem i within]
  simp only [found]

theorem pattern_of_none {expected : String} {p : Pattern} (within : i ≤ text.length)
    (absent : p.matchEnd? text i = none) :
    (pattern expected p : Parser σ String) text i =
      Pure.pure (.failure (.leaf i (some expected))) := by
  unfold pattern
  rw [text.clamp_of_mem i within]
  simp only [absent]

theorem eof_of_length :
    (eof : Parser σ Unit) text text.length = Pure.pure (.success () text.length) := by
  unfold eof
  rw [if_pos (Int.le_refl _)]

theorem eof_of_lt (left : i < text.length) :
    (eof : Parser σ Unit) text i = Pure.pure (.failure (.leaf i (some "end of input"))) := by
  unfold eof
  rw [if_neg (by omega)]

end Descent.Parser
