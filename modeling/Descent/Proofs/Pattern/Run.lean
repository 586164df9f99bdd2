import Descent.Pattern.Match
import Descent.Proofs.Text.Remaining

set_option autoImplicit false

namespace Descent.Pattern

variable {text : Text} {set : CharSet}

def width (text : Text) (set : CharSet) (index : Nat) : Nat :=
  ((text.remaining index).takeWhile set.contains).length

theorem width_of_some {index : Nat} {c : Char} (next : text.toList[index]? = some c) :
    width text set index = if set.contains c then width text set (index + 1) + 1 else 0 := by
  unfold width
  rw [Text.remaining_eq_cons next, List.takeWhile_cons]
  split <;> rfl

theorem width_of_none {index : Nat} (ended : text.toList[index]? = none) :
    width text set index = 0 := by
  unfold width
  rw [Text.remaining_eq_nil ended]
  rfl

theorem width_le (text : Text) (set : CharSet) (index : Nat) :
    width text set index ≤ text.length - index := by
  have front : (text.remaining index).takeWhile set.contains <+: text.remaining index :=
    List.takeWhile_prefix set.contains
  have bound := front.length_le
  rw [Text.length_remaining] at bound
  exact bound

theorem runEnd_eq (text : Text) (set : CharSet) (limit index : Nat) :
    Step.runEnd text set limit index = index + min limit (width text set index) := by
  induction limit generalizing index with
  | zero => simp [Step.runEnd]
  | succ limit ih =>
    unfold Step.runEnd
    cases next : text.chars[index]? with
    | none =>
      rw [← Array.getElem?_toList] at next
      simp [width_of_none next]
    | some c =>
      rw [← Array.getElem?_toList] at next
      rw [width_of_some next]
      by_cases inside : set.contains c = true
      · simp only [inside, ↓reduceIte, ih]
        omega
      · simp [inside]

/-- The characters after the first of a run are the rest of it. -/
theorem width_add {index count : Nat} (enough : count ≤ width text set index) :
    width text set (index + count) = width text set index - count := by
  induction count with
  | zero => rfl
  | succ count ih =>
    have before := ih (by omega)
    cases next : text.toList[index + count]? with
    | none =>
      rw [width_of_none next] at before
      omega
    | some c =>
      rw [width_of_some next] at before
      split at before
      · rw [← Nat.add_assoc]
        omega
      · omega

theorem lastFirst_success (index : Nat) (trail : Trail) (spare : Nat) (memory : Memory) :
    Step.lastFirst index trail Found.success spare memory =
      (some (trail.moveTo (index + spare)), memory) := by
  cases spare <;> rfl

/-- A run takes all the characters of its set that stand in a row. -/
theorem run_matchEnd (least : Nat) (set : CharSet) (text : Text) (start : Nat)
    (within : start ≤ text.length) :
    (run least set).matchEnd? text start =
      if width text set start < least then none else some (start + width text set start) := by
  have bound := width_le text set start
  have least_width : (run least set).leastWidth = least := by
    show 1 * least = least
    omega
  unfold matchEnd?
  rw [least_width]
  split
  · rw [if_pos (by omega)]
  · show (Step.run text set true least none ⟨start, []⟩ Found.success .blank).1.map Trail.place = _
    simp only [Step.run, Step.spareRounds, runEnd_eq, ↓reduceIte]
    by_cases short : width text set start < least
    · rw [if_pos short, if_pos (by omega)]
      rfl
    · have rest : width text set (start + least) = width text set start - least :=
        width_add (by omega)
      rw [if_neg short, if_neg (by omega), rest, lastFirst_success]
      show some (start + least + _) = some _
      congr 1
      omega

theorem blanks_matchEnd (text : Text) (start : Nat) (within : start ≤ text.length) :
    blanks.matchEnd? text start =
      some (start + ((text.remaining start).takeWhile isBlank).length) := by
  have kind : CharSet.contains ⟨[.inClass .blank false], false, .exact⟩ = isBlank := by
    funext c
    simp [CharSet.contains, SetItem.holds, CharClass.holds, Folding.swap]
  unfold blanks
  rw [run_matchEnd 0 _ text start within, if_neg (Nat.not_lt_zero _), width, kind]

theorem digits_matchEnd (text : Text) (start : Nat) (within : start ≤ text.length) :
    digits.matchEnd? text start =
      if ((text.remaining start).takeWhile isAsciiDigit).length < 1 then none
      else some (start + ((text.remaining start).takeWhile isAsciiDigit).length) := by
  have kind : CharSet.contains ⟨[.range ⟨0x30, 0x39⟩], false, .exact⟩ = isAsciiDigit := by
    funext c
    simp [CharSet.contains, SetItem.holds, isAsciiDigit, Folding.swap]
  unfold digits
  rw [run_matchEnd 1 _ text start within, width, kind]

end Descent.Pattern
