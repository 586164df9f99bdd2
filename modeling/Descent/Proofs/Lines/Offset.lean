import Descent.Proofs.Translation.Text
import Descent.SourcePos
import Mathlib.Data.Int.ModEq
import Mathlib.Data.List.DropRight
import Mathlib.Order.Bounds.Defs

set_option autoImplicit false

namespace Descent

namespace SourcePos

/-- The width of a line with one more character. A tab leads to the next multiple of `tabWidth`. -/
def widen (width : Int) (c : Char) : Int :=
  if c = '\t' then (width / tabWidth + 1) * tabWidth else width + 1

def width (line : List Char) : Int :=
  line.foldl widen 0

def lastLine (chars : List Char) : List Char :=
  chars.rtakeWhile (· ≠ '\n')

/-- The place is on an earlier line than the other, or on the same line in an earlier column. -/
def Before (place other : SourcePos) : Prop :=
  place.line < other.line ∨ place.line = other.line ∧ place.column < other.column

theorem lt_widen (width : Int) (c : Char) : width < widen width c := by
  unfold widen tabWidth
  split <;> omega

theorem nextTab_column (place : SourcePos) :
    place.nextTab.column = 1 + widen (place.column - 1) '\t' := by
  have remainder : (place.column - 1).fmod 8 = (place.column - 1) % 8 :=
    Int.fmod_eq_emod_of_nonneg _ (by decide)
  simp only [nextTab, widen, tabWidth, remainder, ↓reduceIte]
  omega

/-- A tab leads to the least column further on that is one more than a multiple of `tabWidth`, also
from a column that is not positive. -/
theorem nextTab_isLeast (place : SourcePos) :
    IsLeast {column | place.column < column ∧ column ≡ 1 [ZMOD tabWidth]} place.nextTab.column := by
  rw [nextTab_column]
  simp only [widen, tabWidth, ↓reduceIte, Int.ModEq]
  constructor
  · show _ ∧ _
    omega
  · rintro column ⟨further, aligned⟩
    omega

/-- On one line, the place after a character is further on by the width of the character. -/
theorem advance_eq (place : SourcePos) (c : Char) :
    place.advance c =
      if c = '\n' then place.nextLine
      else { place with column := 1 + widen (place.column - 1) c } := by
  unfold advance
  split
  · rfl
  · split
    · next tab => rw [tab, ← nextTab_column]; rfl
    · next other =>
      rw [widen, if_neg other]
      exact congrArg (SourcePos.mk place.line · place.name) (by omega)

theorem advanceAll_append (place : SourcePos) (chars others : List Char) :
    place.advanceAll (chars ++ others) = (place.advanceAll chars).advanceAll others :=
  List.foldl_append

theorem width_nonneg (line : List Char) : 0 ≤ width line := by
  induction line using List.reverseRecOn with
  | nil => exact Int.le_refl 0
  | append_singleton line c ih =>
    rw [width, List.foldl_append]
    exact Int.le_of_lt (Int.lt_of_le_of_lt ih (lt_widen _ c))

/-- The place after some characters: their new lines are counted, and the last line is as wide as it
is. -/
theorem advanceAll_start (name : String) (chars : List Char) :
    (start name).advanceAll chars = ⟨1 + chars.count '\n', 1 + width (lastLine chars), name⟩ := by
  -- from the end, since the last line is read off from there
  induction chars using List.reverseRecOn with
  | nil => rfl
  | append_singleton chars c ih =>
    rw [advanceAll_append, ih]
    show advance _ c = _
    rw [advance_eq]
    by_cases ends : c = '\n'
    · subst ends
      have ended : lastLine (chars ++ ['\n']) = [] :=
        List.rtakeWhile_concat_neg _ chars '\n' (by decide)
      rw [if_pos rfl, ended, List.count_append, List.count_singleton_self]
      exact congrArg (SourcePos.mk · 1 name) (by dsimp only; omega)
    · have longer : lastLine (chars ++ [c]) = lastLine chars ++ [c] :=
        List.rtakeWhile_concat_pos _ chars c (by simpa using ends)
      have lines : (chars ++ [c]).count '\n' = chars.count '\n' := by
        rw [List.count_append, List.count_singleton, if_neg (by simpa using ends), Nat.add_zero]
      rw [if_neg ends, longer, lines, width, width, List.foldl_append]
      exact congrArg (fun before => SourcePos.mk _ (1 + widen before c) name) (by dsimp only; omega)

theorem Before.trans {place other third : SourcePos} (first : place.Before other)
    (second : other.Before third) : place.Before third := by
  unfold Before at *
  omega

theorem before_advance (place : SourcePos) (c : Char) : place.Before (place.advance c) := by
  have wider := lt_widen (place.column - 1) c
  rw [advance_eq]
  split
  · exact .inl (Int.lt_succ place.line)
  · exact .inr ⟨rfl, by dsimp only; omega⟩

theorem before_advanceAll (place : SourcePos) {chars : List Char} (some : chars ≠ []) :
    place.Before (place.advanceAll chars) := by
  induction chars generalizing place with
  | nil => exact absurd rfl some
  | cons c rest ih =>
    have first := before_advance place c
    cases rest with
    | nil => exact first
    | cons d rest => exact first.trans (ih (place.advance c) (List.cons_ne_nil d rest))

variable {text : Text} {name : String} {i j : Nat}

/-- The place of an offset is reached from that of an earlier one by the characters between them. -/
theorem ofOffset_advanceAll (name : String) (ordered : i ≤ j) (within : j ≤ text.length) :
    ofOffset text j name = (ofOffset text i name).advanceAll (text.slice i j) := by
  have parts : text.slice (0 : Nat) j = text.slice (0 : Nat) i ++ text.slice i j :=
    Text.slice_append (Nat.zero_le i) ordered within
  rw [ofOffset, ← Int.natCast_zero, parts, advanceAll_append]
  rfl

theorem ofOffset_before (name : String) (ordered : i < j) (within : j ≤ text.length) :
    (ofOffset text i name).Before (ofOffset text j name) := by
  have some : (text.slice i j).length = j - i := Text.length_slice (Nat.le_of_lt ordered) within
  rw [ofOffset_advanceAll name (Nat.le_of_lt ordered) within]
  exact before_advanceAll _ (List.length_pos_iff.mp (by omega))

/-- Distinct offsets never share a place. -/
theorem ofOffset_distinct (name : String) (first : i ≤ text.length) (second : j ≤ text.length)
    (distinct : i ≠ j) :
    ((ofOffset text i name).line, (ofOffset text i name).column) ≠
      ((ofOffset text j name).line, (ofOffset text j name).column) := by
  intro same
  obtain ⟨line, column⟩ := Prod.mk.inj same
  rcases Nat.lt_or_gt_of_ne distinct with earlier | later
  · have before := ofOffset_before name earlier second
    unfold Before at before
    omega
  · have before := ofOffset_before name later first
    unfold Before at before
    omega

/-- The places of the offsets of a text. That of a later offset is reached from that of an earlier
one by the characters between them. The line counts the new lines before the offset; the column is
at least one, and counts the width of what stands after the last of them. Later offsets have later
places, and so no two offsets share one. From every column, be it positive or not, a tab leads to
the next one after a multiple of `tabWidth`. -/
theorem offsets_placed (text : Text) (name : String) :
    (∀ i j : Nat, i ≤ j → j ≤ text.length →
      ofOffset text j name = (ofOffset text i name).advanceAll (text.slice i j)) ∧
    (∀ j : Nat, j ≤ text.length → 1 ≤ (ofOffset text j name).column ∧
      ofOffset text j name =
        ⟨1 + (text.slice 0 j).count '\n', 1 + width (lastLine (text.slice 0 j)), name⟩) ∧
    (∀ i j : Nat, i < j → j ≤ text.length → (ofOffset text i name).Before (ofOffset text j name)) ∧
    (∀ i j : Nat, i ≤ text.length → j ≤ text.length → i ≠ j →
      ((ofOffset text i name).line, (ofOffset text i name).column) ≠
        ((ofOffset text j name).line, (ofOffset text j name).column)) ∧
    ∀ place : SourcePos, IsLeast {column | place.column < column ∧ column ≡ 1 [ZMOD tabWidth]}
      (place.advance '\t').column := by
  refine ⟨fun i j => ofOffset_advanceAll name, fun j _ => ⟨?_, advanceAll_start name _⟩,
    fun i j => ofOffset_before name, fun i j => ofOffset_distinct name, nextTab_isLeast⟩
  have wide := width_nonneg (lastLine (text.slice 0 j))
  rw [ofOffset, advanceAll_start]
  dsimp only
  omega

/-- Two lines with a tab in each: the letter after the first tab and the one after the second are in
the same column. From a column before the first one, a tab leads to the first one. -/
theorem tabs_placed :
    let text := Text.ofString "a\tb\n\tc"
    let place (offset : Nat) := ofOffset text offset "notes"
    place 2 = ⟨1, 9, "notes"⟩ ∧ place 5 = ⟨2, 9, "notes"⟩ ∧
      place 5 = (place 2).advanceAll (text.slice 2 5) ∧ 1 ≤ (place 5).column ∧
      place 5 = ⟨1 + (text.slice 0 5).count '\n', 1 + width (lastLine (text.slice 0 5)), "notes"⟩ ∧
      (place 2).Before (place 5) ∧
      ((place 2).line, (place 2).column) ≠ ((place 5).line, (place 5).column) ∧
      IsLeast {column | (-3 : Int) < column ∧ column ≡ 1 [ZMOD tabWidth]} 1 := by
  intro text place
  obtain ⟨onwards, closed, later, distinct, tab⟩ := offsets_placed text "notes"
  exact ⟨by rfl, by rfl, onwards 2 5 (by decide) (by decide), (closed 5 (by decide)).1,
    (closed 5 (by decide)).2, later 2 5 (by decide) (by decide),
    distinct 2 5 (by decide) (by decide) (by decide), tab ⟨1, -3, "notes"⟩⟩

end SourcePos

end Descent
