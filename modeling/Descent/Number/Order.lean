import Descent.Number.Basic

set_option autoImplicit false

namespace Descent

/-- A place on the line of numbers, in units of the smallest positive double, or beyond all numbers
on one side. Every integer is a whole number of units too, so nothing is rounded to compare. -/
inductive Standing where
  | below
  | point (units : Int)
  | above
  deriving DecidableEq, Repr

namespace Standing

def compare : Standing → Standing → Ordering
  | point m, point n => Ord.compare m n
  | below, below => .eq
  | above, above => .eq
  | below, _ => .lt
  | _, below => .gt
  | above, _ => .gt
  | _, above => .lt

end Standing

namespace Number

def standing? : Number → Option Standing
  | int n => some (.point (n * Binary64.unitsPerOne))
  | float x =>
    match Binary64.content x with
    | .finite parts => some (.point (if parts.negative then -(parts.units : Int) else parts.units))
    | .infinite negative => some (if negative then .below else .above)
    | .undefined => none

/-- The order of two numbers; none if one of them has no place. -/
def compare? (a b : Number) : Option Ordering :=
  match a, b with
  | int m, int n => some (Ord.compare m n)
  | a, b => do return (← a.standing?).compare (← b.standing?)

def eq (a b : Number) : Bool :=
  a.compare? b == some .eq

def lt (a b : Number) : Bool :=
  a.compare? b == some .lt

def le (a b : Number) : Bool :=
  a.lt b || a.eq b

end Number

end Descent
