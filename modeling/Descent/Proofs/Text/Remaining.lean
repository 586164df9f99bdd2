import Descent.Text.Basic

set_option autoImplicit false

namespace Descent.Text

@[simp] theorem length_toList (text : Text) : text.toList.length = text.length :=
  Array.length_toList

@[simp] theorem toList_ofList (chars : List Char) : (ofList chars).toList = chars :=
  rfl

def remaining (text : Text) (index : Nat) : List Char :=
  text.toList.drop index

@[simp] theorem length_remaining (text : Text) (index : Nat) :
    (text.remaining index).length = text.length - index := by
  rw [remaining, List.length_drop, length_toList]

theorem remaining_ofList (before after : List Char) :
    (ofList (before ++ after)).remaining before.length = after :=
  List.drop_left' rfl

theorem le_length_ofList (before after : List Char) :
    before.length ≤ (ofList (before ++ after)).length := by
  rw [← length_toList, toList_ofList, List.length_append]
  exact Nat.le_add_right _ _

theorem remaining_eq_cons {text : Text} {index : Nat} {c : Char}
    (next : text.toList[index]? = some c) :
    text.remaining index = c :: text.remaining (index + 1) := by
  obtain ⟨inside, rfl⟩ := List.getElem?_eq_some_iff.mp next
  exact List.drop_eq_getElem_cons inside

theorem remaining_eq_cons_iff {text : Text} {index : Nat} {c : Char} {later : List Char} :
    text.remaining index = c :: later ↔
      text.toList[index]? = some c ∧ text.remaining (index + 1) = later := by
  constructor
  · intro left
    have next : text.toList[index]? = some c := by
      rw [← List.head?_drop]
      exact congrArg List.head? left
    have parts := (remaining_eq_cons next).symm.trans left
    exact ⟨next, (List.cons.inj parts).2⟩
  · rintro ⟨next, rfl⟩
    exact remaining_eq_cons next

theorem remaining_eq_nil {text : Text} {index : Nat} (ended : text.toList[index]? = none) :
    text.remaining index = [] :=
  List.drop_eq_nil_of_le (List.getElem?_eq_none_iff.mp ended)

theorem remaining_add (text : Text) (index count : Nat) :
    text.remaining (index + count) = (text.remaining index).drop count :=
  (List.drop_drop).symm

theorem append_prefix_remaining {text : Text} {index : Nat} {chars others : List Char}
    (stands : chars <+: text.remaining index) :
    chars ++ others <+: text.remaining index ↔
      others <+: text.remaining (index + chars.length) := by
  obtain ⟨rest, parts⟩ := stands
  rw [remaining_add, ← parts, List.drop_left, List.prefix_append_right_inj]

/-- Past the characters of a kind that stand in a row comes what is left without them. -/
theorem remaining_takeWhile (text : Text) (index : Nat) (kind : Char → Bool) :
    text.remaining (index + ((text.remaining index).takeWhile kind).length) =
      (text.remaining index).dropWhile kind := by
  rw [remaining_add]
  generalize text.remaining index = chars
  have parts : chars.takeWhile kind ++ chars.dropWhile kind = chars :=
    List.takeWhile_append_dropWhile
  calc chars.drop (chars.takeWhile kind).length
      = (chars.takeWhile kind ++ chars.dropWhile kind).drop (chars.takeWhile kind).length := by
        rw [parts]
    _ = chars.dropWhile kind := List.drop_left' rfl

/-- Characters of a kind are all taken, if none of the kind comes next. -/
theorem takeWhile_exact {kind : Char → Bool} {run after : List Char}
    (inside : ∀ c ∈ run, kind c = true) (ended : ∀ c, after.head? = some c → kind c = false) :
    (run ++ after).takeWhile kind = run := by
  rw [List.takeWhile_append_of_pos inside]
  cases after with
  | nil => exact List.append_nil run
  | cons c later => rw [List.takeWhile_cons_of_neg (by simp [ended c rfl]), List.append_nil]

/-- The characters of a kind that stand in a row end within the text. -/
theorem takeWhile_within (text : Text) {index : Nat} (kind : Char → Bool)
    (within : index ≤ text.length) :
    index + ((text.remaining index).takeWhile kind).length ≤ text.length := by
  have count := (List.takeWhile_sublist (l := text.remaining index) kind).length_le
  rw [length_remaining] at count
  omega

theorem toList_between (text : Text) (start count : Nat) :
    (text.between start (start + count)).toList = (text.remaining start).take count := by
  rw [between, String.toList_ofList, Array.toList_extract, List.extract_eq_take_drop,
    Nat.add_sub_cancel_left]
  rfl

/-- The characters of a kind that stand in a row are those up to the first of another kind. -/
theorem toList_between_takeWhile (text : Text) (index : Nat) (kind : Char → Bool) :
    (text.between index (index + ((text.remaining index).takeWhile kind).length)).toList =
      (text.remaining index).takeWhile kind := by
  rw [toList_between]
  exact (List.prefix_iff_eq_take.mp (List.takeWhile_prefix kind)).symm

theorem char?_eq_head (text : Text) (index : Nat) :
    text.char? index = (text.remaining index).head? := by
  rw [char?_of_nat, ← Array.getElem?_toList, remaining, List.head?_drop]
  rfl

theorem reads_iff (text : Text) (chars : List Char) (index : Nat) :
    text.reads chars index = true ↔ chars <+: text.remaining index := by
  induction chars generalizing index with
  | nil => simp [reads]
  | cons c rest ih =>
    rw [reads, Bool.and_eq_true, beq_iff_eq, ih, ← Array.getElem?_toList]
    show text.toList[index]? = some c ∧ _ ↔ _
    cases next : text.toList[index]? with
    | none => simp [remaining_eq_nil next]
    | some d =>
      rw [remaining_eq_cons next, List.cons_prefix_cons, Option.some_inj]
      exact and_congr_left fun _ => eq_comm

theorem startsWith_iff (text : Text) (s : String) (index : Nat) (within : index ≤ text.length) :
    text.startsWith s index = true ↔ s.toList <+: text.remaining index := by
  have inside : (index : Int) ≤ text.length := by omega
  rw [startsWith, decide_eq_true inside, Bool.true_and, text.cut_of_mem index within]
  exact text.reads_iff s.toList index

end Descent.Text
