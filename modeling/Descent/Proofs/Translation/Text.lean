import Descent.Failure
import Descent.Proofs.Text.Remaining

set_option autoImplicit false

namespace Descent

namespace Text

variable {text : Text} {start : Nat}

def onwards (text : Text) (start : Nat) : Text :=
  ofList (text.remaining start)

@[simp] theorem length_onwards (text : Text) (start : Nat) :
    (text.onwards start).length = text.length - start :=
  text.length_remaining start

/-- Within the text, an index that is moved on stays within the whole text. -/
theorem within_onwards {index : Nat} (from_start : start ≤ text.length)
    (within : index ≤ (text.onwards start).length) : start + index ≤ text.length := by
  rw [length_onwards] at within
  omega

@[simp] theorem remaining_onwards (text : Text) (start index : Nat) :
    (text.onwards start).remaining index = text.remaining (start + index) :=
  (text.remaining_add start index).symm

theorem getElem?_onwards (text : Text) (start index : Nat) :
    (text.onwards start).toList[index]? = text.toList[start + index]? :=
  List.getElem?_drop

theorem between_onwards (text : Text) (start index count : Nat) :
    (text.onwards start).between index (index + count) =
      text.between (start + index) (start + index + count) := by
  apply String.toList_injective
  rw [toList_between, toList_between, remaining_onwards]

theorem slice_of_mem {index stop : Nat} (first : index ≤ text.length) (last : stop ≤ text.length) :
    text.slice index stop = (text.remaining index).take (stop - index) := by
  rw [slice, text.cut_of_mem index first, text.cut_of_mem stop last, Array.toList_extract,
    List.extract_eq_take_drop]
  rfl

theorem length_slice {stop : Nat} (ordered : start ≤ stop) (within : stop ≤ text.length) :
    (text.slice start stop).length = stop - start := by
  rw [slice_of_mem (Nat.le_trans ordered within) within, List.length_take, length_remaining]
  omega

theorem slice_append_remaining {stop : Nat} (ordered : start ≤ stop) (within : stop ≤ text.length) :
    text.slice start stop ++ text.remaining stop = text.remaining start := by
  have rest := text.remaining_add start (stop - start)
  rw [Nat.add_sub_cancel' ordered] at rest
  rw [slice_of_mem (Nat.le_trans ordered within) within, rest, List.take_append_drop]

/-- What stands between two indices is what stands before one between them and what stands after
it. -/
theorem slice_append {middle stop : Nat} (first : start ≤ middle) (second : middle ≤ stop)
    (within : stop ≤ text.length) :
    text.slice start stop = text.slice start middle ++ text.slice middle stop := by
  apply (List.append_left_inj (text.remaining stop)).mp
  rw [List.append_assoc, slice_append_remaining second within,
    slice_append_remaining first (Nat.le_trans second within),
    slice_append_remaining (Nat.le_trans first second) within]

theorem slice_ofList (before run after : List Char) :
    (ofList (before ++ run ++ after)).slice before.length (before ++ run).length = run := by
  have last := le_length_ofList (before ++ run) after
  have first : before.length ≤ (ofList (before ++ run ++ after)).length := by
    rw [List.append_assoc]
    exact le_length_ofList before (run ++ after)
  rw [slice_of_mem first last, List.length_append, Nat.add_sub_cancel_left, List.append_assoc,
    remaining_ofList, List.take_left' rfl]

theorem slice_onwards {index stop : Nat} (from_start : start ≤ text.length)
    (first : index ≤ (text.onwards start).length) (last : stop ≤ (text.onwards start).length) :
    (text.onwards start).slice index stop =
      text.slice (start + index : Nat) (start + stop : Nat) := by
  rw [slice_of_mem first last, remaining_onwards,
    slice_of_mem (within_onwards from_start first) (within_onwards from_start last),
    Nat.add_sub_add_left]

end Text

def Frame.moved (shift : Int) (frame : Frame) : Frame :=
  { frame with pos := frame.pos + shift }

namespace Failure

/-- The failure with all of its places moved on, its own and those of its causes. -/
def moved (shift : Int) (failure : Failure) : Failure :=
  ⟨failure.frame.moved shift, failure.causes.map (Frame.moved shift)⟩

@[simp] theorem leaf_moved (shift pos : Int) (expected : Option String) :
    (leaf pos expected).moved shift = leaf (pos + shift) expected :=
  rfl

/-- A failure is reported elsewhere just as well after its places were moved. -/
theorem anchor_moved (shift pos : Int) (failure : Failure) :
    (failure.anchor pos).moved shift = (failure.moved shift).anchor (pos + shift) := by
  have moved_pos : (failure.moved shift).pos = failure.pos + shift := rfl
  unfold anchor
  rw [moved_pos]
  by_cases same : pos = failure.pos
  · rw [if_pos same, if_pos (by omega)]
  · rw [if_neg same, if_neg (by omega)]
    rfl

end Failure

end Descent
