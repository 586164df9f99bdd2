import Descent.Parser.Expression
import Descent.Value.Function
import Descent.Value.Transform
import Mathlib.Data.List.Induction

set_option autoImplicit false

namespace Descent.Parts

/-- The item of a list at an index; a negative index counts from the end. What is no list has no
items here, a text included, so that a value of the wrong shape is never taken apart. -/
def item (index : Int) : Value → Except Fault Value
  | .list parts =>
    match Transform.itemAt? parts index with
    | some v => .ok v
    | none => .error .listIndex
  | v => .error (.notIndexed v.typeName)

def items : Value → Except Fault (List Value)
  | .list parts => .ok parts
  | v => .error (.notIndexed v.typeName)

def unpackFault (wanted given : Nat) : Fault :=
  .raised .value <|
    if given < wanted then
      "not enough values to unpack (expected " ++ toString wanted ++
        ", got " ++ toString given ++ ")"
    else "too many values to unpack (expected " ++ toString wanted ++ ")"

def two (v : Value) : Except Fault (Value × Value) := do
  match ← items v with
  | [a, b] => .ok (a, b)
  | parts => .error (unpackFault 2 parts.length)

def three (v : Value) : Except Fault (Value × Value × Value) := do
  match ← items v with
  | [a, b, c] => .ok (a, b, c)
  | parts => .error (unpackFault 3 parts.length)

def prepend (first rest : Value) : Except Fault Value := do
  return .list (first :: (← items rest))

/-- The first part in front of the list that is the second one. -/
def joined (parts : Value) : Except Fault Value := do
  prepend (← item 0 parts) (← item 1 parts)

def throughLinks (calls : Calls) (acc : Value) : List Value → Except Fault Value
  | [] => .ok acc
  | link :: rest => do
    let (f, operand) ← two link
    throughLinks calls (← calls.two f acc operand) rest

/-- The first part combined from the left with the links that are the second one. -/
def chainedLeft (calls : Calls) (parts : Value) : Except Fault Value := do
  throughLinks calls (← item 0 parts) (← items (← item 1 parts))

def seconds : List Value → Except Fault (List Value)
  | [] => .ok []
  | link :: rest => do
    let (_, operand) ← two link
    return operand :: (← seconds rest)

/-- Combines operands from the right: counts down the index of a link, and of the operand before it.
-/
def downTo (calls : Calls) (links operands : Value) : Nat → Value → Except Fault Value
  | 0, acc => .ok acc
  | index + 1, acc => do
    let f ← item 0 (← item index links)
    downTo calls links operands index (← calls.two f (← item index operands) acc)

def chainedRight (calls : Calls) (parts : Value) : Except Fault Value := do
  let (first, rest) ← two parts
  let links ← items rest
  if links.isEmpty then return first
  let operands := Value.list (first :: (← seconds links))
  downTo calls rest operands links.length (← item (-1) operands)

/-- The operator that is the first part applied to the second one, and then the one that is the
third; null is no operator. -/
def affixed (calls : Calls) (parts : Value) : Except Fault Value := do
  let (before, operand, after) ← three parts
  calls.affix after (← calls.affix before operand)

/-- The first part alone, if the second one is null, or combined with the operand of that link. -/
def appliedOnce (calls : Calls) (parts : Value) : Except Fault Value := do
  let (first, tail) ← two parts
  match tail with
  | .null => return first
  | link => calls.two (← item 0 link) first (← item 1 link)

def packed (link : Value × Value) : Value :=
  .list [link.1, link.2]

def opened (calls : Calls) (link : Value × Value) : (Value → Value → Except Fault Value) × Value :=
  (calls.two link.1, link.2)

theorem two_list (a b : Value) : two (.list [a, b]) = .ok (a, b) :=
  rfl

theorem item_of_getElem? {parts : List Value} {index : Nat} {v : Value}
    (stands : parts[index]? = some v) : item index (.list parts) = .ok v := by
  have place : Transform.itemAt? parts index = some v := by
    rw [Transform.itemAt?, Transform.indexIn, if_neg (by omega), if_neg (by omega),
      Int.toNat_natCast,
      stands]
  rw [item, place]

/-- The operand after some others is their last, or the first of all. -/
theorem operand_after (first : Value) (before after : List Value) :
    (first :: (before ++ after))[before.length]? = some (before.getLastD first) := by
  have last := List.getLast?_eq_getElem? (l := first :: before)
  rw [List.getLast?_cons, List.length_cons, Nat.add_sub_cancel, ← List.getLastD_eq_getLast?] at last
  rw [← List.cons_append, List.getElem?_append_left (by simp), last]

theorem item_last (first : Value) (rest : List Value) :
    item (-1) (.list (first :: rest)) = .ok (rest.getLastD first) := by
  have last := operand_after first rest []
  rw [List.append_nil] at last
  have end_index : Transform.indexIn (first :: rest).length (-1) = (rest.length : Int) := by
    rw [Transform.indexIn, if_pos (by decide), List.length_cons]
    omega
  have place : Transform.itemAt? (first :: rest) (-1) = some (rest.getLastD first) := by
    rw [Transform.itemAt?, end_index, if_neg (by omega), Int.toNat_natCast, last]
  rw [item, place]

theorem joined_list (first : Value) (rest : List Value) :
    joined (.list [first, .list rest]) = .ok (.list (first :: rest)) :=
  rfl

/-- One round for each link, whether or not the operators go through. -/
theorem chainedLeft_list (calls : Calls) (first : Value) (links : List (Value × Value)) :
    chainedLeft calls (.list [first, .list (links.map packed)]) =
      Parser.foldLeft first (links.map (opened calls)) := by
  show throughLinks calls first (links.map packed) = _
  induction links generalizing first with
  | nil => rfl
  | cons link links ih =>
    rw [List.map_cons, throughLinks, packed, two_list, List.map_cons, Parser.foldLeft]
    exact bind_congr fun acc => ih acc

theorem seconds_packed (links : List (Value × Value)) :
    seconds (links.map packed) = .ok (links.map Prod.snd) := by
  induction links with
  | nil => rfl
  | cons link links ih =>
    rw [List.map_cons, seconds, packed, two_list, ih]
    rfl

/-- Counting down from the links after which `after` is left combines what those links and `after`
combine. The index of a link is that of the operand before it. -/
theorem downTo_packed (calls : Calls) (first : Value) (before after : List (Value × Value)) :
    (Parser.foldRight ((before.map Prod.snd).getLastD first) (after.map (opened calls)) >>=
        downTo calls (.list ((before ++ after).map packed))
          (.list (first :: (before ++ after).map Prod.snd)) before.length) =
      Parser.foldRight first ((before ++ after).map (opened calls)) := by
  induction before using List.reverseRecOn generalizing after with
  | nil => exact bind_pure _
  | append_singleton before link ih =>
    -- the round at this index combines `link` with what the links after it came to, so `link` joins
    -- those links and the rounds that are left are those of `before`
    have link_at : item before.length
        (.list ((before ++ (link :: after)).map packed)) = .ok (packed link) := by
      apply item_of_getElem?
      rw [List.map_append, List.getElem?_append_right (by simp)]
      simp
    have operand_at : item before.length
        (.list (first :: (before ++ (link :: after)).map Prod.snd)) =
          .ok ((before.map Prod.snd).getLastD first) := by
      apply item_of_getElem?
      have stands := operand_after first (before.map Prod.snd) ((link :: after).map Prod.snd)
      rwa [List.length_map, ← List.map_append] at stands
    have last : ((before ++ [link]).map Prod.snd).getLastD first = link.2 := by
      rw [List.map_append, List.map_singleton, List.getLastD_concat]
    rw [List.append_assoc, List.singleton_append, last, List.length_append, List.length_singleton,
      ← ih (link :: after), List.map_cons, Parser.foldRight, bind_assoc]
    refine bind_congr fun acc => ?_
    rw [downTo, link_at, operand_at]
    rfl

theorem chainedRight_list (calls : Calls) (first : Value) (links : List (Value × Value)) :
    chainedRight calls (.list [first, .list (links.map packed)]) =
      Parser.foldRight first (links.map (opened calls)) := by
  cases links with
  | nil => rfl
  | cons link links =>
    have whole := downTo_packed calls first (link :: links) []
    rw [List.append_nil] at whole
    rw [← whole]
    show (seconds ((link :: links).map packed) >>= fun operands =>
      item (-1) (.list (first :: operands)) >>=
        downTo calls (.list ((link :: links).map packed)) (.list (first :: operands))
          ((link :: links).map packed).length) = _
    rw [seconds_packed, List.length_map]
    show (item (-1) (.list (first :: (link :: links).map Prod.snd)) >>= _) = _
    rw [item_last]
    rfl

theorem affixed_list (calls : Calls) (before after : Option Value) (operand : Value) :
    affixed calls (.list [before.getD .null, operand, after.getD .null]) =
      Parser.applyAffixes (before.map calls.affix) operand (after.map calls.affix) := by
  cases before <;> cases after <;> rfl

theorem appliedOnce_list (calls : Calls) (first : Value) (tail : Option (Value × Value)) :
    appliedOnce calls (.list [first, (tail.map packed).getD .null]) =
      Parser.applyOnce first (tail.map (opened calls)) := by
  cases tail <;> rfl

end Descent.Parts
