import Descent.Fault
import Descent.Number.Decimal

set_option autoImplicit false

namespace Descent

inductive Number where
  | int (n : Int)
  | float (x : Float)
  deriving Repr

namespace Number

def toFloat : Number → Except Fault Float
  | int n =>
    match Binary64.ofInt? n with
    | some x => .ok x
    | none => .error .integerTooLarge
  | float x => .ok x

/-- The integer that a number is, what is behind the point left out. -/
def truncate : Number → Except Fault Int
  | int n => .ok n
  | float x =>
    match Binary64.content x with
    | .finite parts => .ok parts.truncate
    | .infinite _ => .error .infiniteInteger
    | .undefined => .error .undefinedInteger

/-- Works on two numbers, on doubles unless both are integers. The left one is rounded first. -/
def combine (ints : Int → Int → Except Fault Number) (floats : Float → Float → Except Fault Number)
    (a b : Number) : Except Fault Number :=
  match a, b with
  | int m, int n => ints m n
  | a, b => do
    let x ← a.toFloat
    let y ← b.toFloat
    floats x y

def add : Number → Number → Except Fault Number :=
  combine (fun m n => .ok (int (m + n))) fun x y => .ok (float (x + y))

def sub : Number → Number → Except Fault Number :=
  combine (fun m n => .ok (int (m - n))) fun x y => .ok (float (x - y))

def mul : Number → Number → Except Fault Number :=
  combine (fun m n => .ok (int (m * n))) fun x y => .ok (float (x * y))

def neg : Number → Number
  | int n => int (-n)
  | float x => float (-x)

/-- The number is zero, of either sign. -/
def isZero : Number → Bool
  | int n => n == 0
  | float x => x == 0

/-- The exact quotient of two integers, rounded to a double. -/
def quotient (m n : Int) : Except Fault Number :=
  if n = 0 then .error (.zeroDivisor .exact false)
  else
    match Binary64.ofQuotient? m n with
    | some x => .ok (float x)
    | none => .error .quotientTooLarge

/-- The quotient, always a double. -/
def div : Number → Number → Except Fault Number :=
  combine quotient fun x y =>
    if y == 0 then .error (.zeroDivisor .exact true) else .ok (float (x / y))

def write : Number → String
  | int n => toString n
  | float x => writeFloat x

end Number

end Descent
