set_option autoImplicit false

namespace Descent.Binary64

/-- The quotient rounded to the nearest natural, a tie to the even one. -/
def roundedQuotient (numerator denominator : Nat) : Nat :=
  let quotient := numerator / denominator
  let twice := 2 * (numerator % denominator)
  if twice < denominator then quotient
  else if denominator < twice then quotient + 1
  else quotient + quotient % 2

/-- Numerator and denominator of `numerator / denominator / 2 ^ exponent`. -/
def scaled (numerator denominator : Nat) (exponent : Int) : Nat × Nat :=
  if exponent < 0 then (numerator <<< (-exponent).toNat, denominator)
  else (numerator, denominator <<< exponent.toNat)

/-- The exponent of the last place that a quotient is rounded at: the integer part of the scaled
quotient has 53 binary digits, unless that would pass below the smallest exponent. -/
def lastPlace (numerator denominator : Nat) : Int :=
  let guess : Int := (numerator.log2 : Int) - denominator.log2 - 53
  let (n, d) := scaled numerator denominator guess
  max (-1074) (if n / d < 1 <<< 53 then guess else guess + 1)

/-- The bits of the number `significand * 2 ^ exponent` for a significand of at most `2 ^ 53`; a
significand below `2 ^ 52` belongs to the smallest exponent. None if the number is too large. -/
def encode? (significand : Nat) (exponent : Int) : Option Nat :=
  if significand < 1 <<< 52 then some significand
  else
    let bits := (exponent + 1075).toNat <<< 52 + (significand - 1 <<< 52)
    if bits < 0x7FF0000000000000 then some bits else none

/-- The bits of the double nearest to `numerator / denominator`; none if it is too large. -/
def quotientBits? (numerator denominator : Nat) : Option Nat :=
  if numerator = 0 then some 0
  else
    let place := lastPlace numerator denominator
    let (n, d) := scaled numerator denominator place
    encode? (roundedQuotient n d) place

def ofBits (negative : Bool) (bits : Nat) : Float :=
  Float.ofBits (UInt64.ofNat (if negative then bits + 1 <<< 63 else bits))

/-- The double nearest to the quotient of two integers, negative exactly when their signs differ. -/
def ofQuotient? (numerator denominator : Int) : Option Float :=
  let negative := decide (numerator < 0) != decide (denominator < 0)
  (quotientBits? numerator.natAbs denominator.natAbs).map (ofBits negative)

def ofInt? (n : Int) : Option Float :=
  ofQuotient? n 1

/-- A finite double as sign, significand and exponent: `significand * 2 ^ exponent`. -/
structure Parts where
  negative : Bool
  significand : Nat
  exponent : Int
  deriving DecidableEq, Repr

/-- What a double stands for: a number, an infinity, or nothing. -/
inductive Content where
  | finite (parts : Parts)
  | infinite (negative : Bool)
  | undefined
  deriving DecidableEq, Repr

def content (x : Float) : Content :=
  let bits := x.toBits.toNat
  let negative := decide (1 <<< 63 ≤ bits)
  let biased := bits >>> 52 % 1 <<< 11
  let fraction := bits % 1 <<< 52
  if biased = 2047 then if fraction = 0 then .infinite negative else .undefined
  else if biased = 0 then .finite ⟨negative, fraction, -1074⟩
  else .finite ⟨negative, fraction + 1 <<< 52, Int.ofNat biased - 1075⟩

/-- How often the smallest positive double goes into the number one. -/
def unitsPerOne : Nat := 1 <<< 1074

/-- The magnitude of a finite double in units of the smallest positive one. -/
def Parts.units (parts : Parts) : Nat :=
  parts.significand <<< (parts.exponent + 1074).toNat

def Parts.truncate (parts : Parts) : Int :=
  let ones := parts.units / unitsPerOne
  if parts.negative then -(ones : Int) else ones

/-- The double nearest to a number of units; zero if that is too large. -/
def ofUnits (negative : Bool) (units : Nat) : Float :=
  ofBits negative ((quotientBits? units unitsPerOne).getD 0)

/-- What is left of a double when a divisor is taken away from it as often as it goes in. It has
the sign of the double, and is exact. -/
def remainder (x y : Float) : Float :=
  match content x, content y with
  | .finite a, .finite b => ofUnits a.negative (a.units % b.units)
  | .finite _, .infinite _ => x
  | _, _ => 0 / 0

/-- The sign of a double is set, also of a zero. -/
def isNegative (x : Float) : Bool :=
  decide (1 <<< 63 ≤ x.toBits.toNat)

def zeroLike (x : Float) : Float :=
  ofBits (isNegative x) 0

/-- The remainder of a division to the floor: it has the sign of the divisor. -/
def floorRemainder (x y : Float) : Float :=
  let left := remainder x y
  if left == 0 then zeroLike y
  else if decide (y < 0) != decide (left < 0) then left + y
  else left

/-- The quotient of a division to the floor. It is computed from the remainder and then moved to
the nearest whole number; a zero has the sign of the exact quotient. -/
def floorQuotient (x y : Float) : Float :=
  let left := remainder x y
  let rough := (x - left) / y
  let rough := if left != 0 && decide (y < 0) != decide (left < 0) then rough - 1 else rough
  if rough == 0 then zeroLike (x / y)
  else
    let whole := rough.floor
    if 0.5 < rough - whole then whole + 1 else whole

end Descent.Binary64
