import Descent.Number.Order

set_option autoImplicit false

namespace Descent

inductive Function where
  | add
  | sub
  | mul
  | floorDiv
  | mod
  | pow
  | div
  | eq
  | lt
  | le
  | neg
  | factorial
  deriving DecidableEq, Repr

def Function.name : Function → String
  | add => "add"
  | sub => "sub"
  | mul => "mul"
  | floorDiv => "floordiv"
  | mod => "mod"
  | pow => "pow"
  | div => "div"
  | eq => "eq"
  | lt => "lt"
  | le => "le"
  | neg => "neg"
  | factorial => "fact"

/-- A value. A node builder is a function that puts its label before its arguments. -/
inductive Value where
  | null
  | bool (b : Bool)
  | int (n : Int)
  | float (x : Float)
  | str (s : String)
  | list (items : List Value)
  | function (f : Function)
  | node (label : Value)
  deriving Repr, Inhabited

namespace Value

def typeName : Value → String
  | null => "NoneType"
  | bool _ => "bool"
  | int _ => "int"
  | float _ => "float"
  | str _ => "str"
  | list _ => "list"
  | function _ => "function"
  | node _ => "function"

/-- The number that a value is. A truth value counts as 0 or 1. -/
def number? : Value → Option Number
  | bool b => some (.int (if b then 1 else 0))
  | int n => some (.int n)
  | float x => some (.float x)
  | _ => none

def ofNumber : Number → Value
  | .int n => int n
  | .float x => float x

mutual

/-- Two values are equal. Numbers are compared by value, so that a truth value may equal one;
functions are equal if they are the same. -/
def equal : Value → Value → Bool
  | null, null => true
  | str s, str t => s == t
  | list xs, list ys => equalLists xs ys
  | function f, function g => f == g
  | node x, node y => equal x y
  | x, y =>
    match x.number?, y.number? with
    | some a, some b => a.eq b
    | _, _ => false

def equalLists : List Value → List Value → Bool
  | [], [] => true
  | x :: xs, y :: ys => equal x y && equalLists xs ys
  | _, _ => false

end

end Value

end Descent
