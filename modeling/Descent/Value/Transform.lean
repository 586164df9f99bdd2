import Descent.Value.Basic

set_option autoImplicit false

namespace Descent.Transform

/-- The integer that a text spells, or that a number is up to its point. -/
def integerOf : Value → Except Fault Int
  | .str s => Numeral.evaluate s.toList
  | v =>
    match v.number? with
    | some a => a.truncate
    | none => .error (.notNumeral v.typeName)

def toInteger (v : Value) : Except Fault Value :=
  (integerOf v).map .int

def size : Value → Except Fault Value
  | .str s => .ok (.int s.length)
  | .list items => .ok (.int items.length)
  | v => .error (.notSized v.typeName)

/-- The texts of a list, the first of which has the given index. -/
def textsFrom : Nat → List Value → Except Fault (List String)
  | _, [] => .ok []
  | index, .str s :: rest => do return s :: (← textsFrom (index + 1) rest)
  | index, v :: _ => .error (.itemNotText index v.typeName)

def join : Value → Except Fault Value
  | .list items => (textsFrom 0 items).map fun texts => .str (String.join texts)
  | .str s => .ok (.str s)
  | _ => .error .notJoinable

def reverse : Value → Except Fault Value
  | .str s => .ok (.str (String.ofList s.toList.reverse))
  | .list items => .ok (.list items.reverse)
  | v => .error (.notIndexed v.typeName)

/-- The place of an item in a sequence; a negative index counts from the end. -/
def indexIn (length : Nat) (index : Int) : Int :=
  if index < 0 then index + length else index

/-- An index fits a machine word of 64 bits. -/
def isIndex (index : Int) : Bool :=
  decide (-0x8000000000000000 ≤ index) && decide (index < 0x8000000000000000)

def itemAt? {α : Type} (items : List α) (index : Int) : Option α :=
  let place := indexIn items.length index
  if place < 0 then none else items[place.toNat]?

def nth (index : Int) : Value → Except Fault Value
  | .list items =>
    if !isIndex index then .error .indexTooLarge
    else
      match itemAt? items index with
      | some v => .ok v
      | none => .error .listIndex
  | .str s =>
    if !isIndex index then .error .indexTooLarge
    else
      match itemAt? s.toList index with
      | some c => .ok (.str (String.singleton c))
      | none => .error .textIndex
  | v => .error (.notIndexed v.typeName)

def tagged (tag v : Value) : Except Fault Value :=
  .ok (.list [tag, v])

def constant (result : Value) (_ : Value) : Except Fault Value :=
  .ok result

def raise (kind : ErrorKind) (message : String) (_ : Value) : Except Fault Value :=
  .error (.raised kind message)

end Descent.Transform
