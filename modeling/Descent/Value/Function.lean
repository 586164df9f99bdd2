import Descent.Number.Floor
import Descent.Value.Basic

set_option autoImplicit false

namespace Descent

namespace Value

def arithmetic (sign : String) (f : Number → Number → Except Fault Number) (x y : Value) :
    Except Fault Value :=
  match x.number?, y.number? with
  | some a, some b => (f a b).map ofNumber
  | _, _ => .error (.operandTypes sign x.typeName y.typeName)

def compare (sign : String) (numbers : Number → Number → Bool) (texts : String → String → Bool)
    (x y : Value) : Except Fault Value :=
  match x, y with
  | str s, str t => .ok (bool (texts s t))
  | x, y =>
    match x.number?, y.number? with
    | some a, some b => .ok (bool (numbers a b))
    | _, _ => .error (.notOrdered sign x.typeName y.typeName)

end Value

def factorial : Nat → Nat
  | 0 => 1
  | n + 1 => (n + 1) * factorial n

namespace Function

def negate (x : Value) : Except Fault Value :=
  match x.number? with
  | some a => .ok (Value.ofNumber a.neg)
  | none => .error (.operandType "unary -" x.typeName)

/-- The factorial of the absolute value of an integer. -/
def factorialOf (x : Value) : Except Fault Value :=
  match x.number? with
  | some (.int n) => .ok (.int (Descent.factorial n.natAbs))
  | some (.float _) => .error (.notInteger x.typeName)
  | none => .error (.operandType "abs()" x.typeName)

def apply1 (f : Function) (x : Value) : Except Fault Value :=
  match f with
  | neg => negate x
  | factorial => factorialOf x
  | _ => .error (.wrongArity f.name 2 1)

/-- The function applied to two arguments. Quotients are rounded to the floor, so that a remainder
has the sign of its divisor. -/
def apply2 (f : Function) (x y : Value) : Except Fault Value :=
  match f with
  | add => Value.arithmetic "+" Number.add x y
  | sub => Value.arithmetic "-" Number.sub x y
  | mul => Value.arithmetic "*" Number.mul x y
  | div => Value.arithmetic "/" Number.div x y
  | floorDiv => Value.arithmetic "//" Number.floorDiv x y
  | mod => Value.arithmetic "%" Number.floorMod x y
  | pow => Value.arithmetic "** or pow()" Number.pow x y
  | eq => .ok (.bool (x.equal y))
  | lt => Value.compare "<" Number.lt (fun s t => decide (s < t)) x y
  | le => Value.compare "<=" Number.le (fun s t => decide (s ≤ t)) x y
  | neg => .error (.wrongArity f.name 1 2)
  | factorial => .error (.wrongArity f.name 1 2)

end Function

namespace Value

def call1 (f x : Value) : Except Fault Value :=
  match f with
  | function g => g.apply1 x
  | node label => .ok (list [label, x])
  | _ => .error (.notCallable f.typeName)

def call2 (f x y : Value) : Except Fault Value :=
  match f with
  | function g => g.apply2 x y
  | node label => .ok (list [label, x, y])
  | _ => .error (.notCallable f.typeName)

end Value

/-- What comes of calling a value with one argument, and with two. -/
structure Calls where
  one : Value → Value → Except Fault Value
  two : Value → Value → Value → Except Fault Value

namespace Calls

/-- The calls of the functions that are values, and of no others. -/
def ofFunctions : Calls :=
  ⟨Value.call1, Value.call2⟩

/-- A value called as an affix: nothing is called if there is none. -/
def affix (calls : Calls) (f x : Value) : Except Fault Value :=
  match f with
  | .null => .ok x
  | _ => calls.one f x

end Calls

end Descent
