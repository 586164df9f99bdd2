import Descent.Number.Binary64

set_option autoImplicit false

namespace Descent

/-- A decimal fraction: `digits * 10 ^ exponent`. -/
structure Decimal where
  digits : Nat
  exponent : Int
  deriving DecidableEq, Repr

namespace Decimal

def maxDigits : Nat := 17

/-- The interval of the reals that round to a double, ends included when its significand is even:
the double and the two ends, as naturals over a common denominator. -/
structure Interval where
  low : Nat
  value : Nat
  high : Nat
  denominator : Nat
  closed : Bool

/-- The interval of a significand and an exponent. Below a power of two the next double is half
as far away. -/
def Interval.ofParts (significand : Nat) (exponent : Int) : Interval :=
  let below := if significand = 1 <<< 52 && decide (-1074 < exponent) then 1 else 2
  let up := if exponent < 0 then 1 else 1 <<< exponent.toNat
  let down := if exponent < 0 then 1 <<< (-exponent).toNat else 1
  { low := (4 * significand - below) * up
    value := 4 * significand * up
    high := (4 * significand + 2) * up
    denominator := 4 * down
    closed := significand % 2 == 0 }

namespace Interval

def inUnits (interval : Interval) (place : Int) : Interval :=
  if place < 0 then
    let scale := Nat.pow 10 (-place).toNat
    { interval with
      low := interval.low * scale
      value := interval.value * scale
      high := interval.high * scale }
  else { interval with denominator := interval.denominator * Nat.pow 10 place.toNat }

def holds (interval : Interval) (n : Nat) : Bool :=
  let scaled := n * interval.denominator
  if interval.closed then decide (interval.low ≤ scaled) && decide (scaled ≤ interval.high)
  else decide (interval.low < scaled) && decide (scaled < interval.high)

/-- The multiple of the unit that stands for the interval: the nearer of the two around the value,
a tie going to the even one, if it lies in the interval, else the other if that does. -/
def nearest? (interval : Interval) : Option Nat :=
  let floor := interval.value / interval.denominator
  let twice := 2 * (interval.value % interval.denominator)
  let upper := interval.denominator < twice || (twice = interval.denominator && floor % 2 = 1)
  let first := if upper then floor + 1 else floor
  let second := if upper then floor else floor + 1
  if interval.holds first then some first
  else if interval.holds second then some second
  else none

def leadingPlace (interval : Interval) : Int :=
  let guess : Int := (toString interval.value).length - (toString interval.denominator).length
  let scaled := interval.inUnits guess
  if scaled.value < scaled.denominator then guess - 1 else guess

end Interval

/-- The first decimal of an interval with at least the given number of digits. -/
def search (interval : Interval) (leading : Int) : Nat → Nat → Option Decimal
  | 0, _ => none
  | more + 1, digits =>
    let place := leading - digits + 1
    match (interval.inUnits place).nearest? with
    | some n => some ⟨n, place⟩
    | none => search interval leading more (digits + 1)

/-- The shortest decimal that reads back as `significand * 2 ^ exponent`. -/
def shortest? (significand : Nat) (exponent : Int) : Option Decimal :=
  if significand = 0 then some ⟨0, 0⟩
  else
    let interval := Interval.ofParts significand exponent
    search interval interval.leadingPlace maxDigits 1

/-- The digits without the zeros at their end, which go into the exponent. -/
def trim : Nat → Decimal → Decimal
  | 0, decimal => decimal
  | rounds + 1, decimal =>
    if decimal.digits % 10 = 0 && decimal.digits ≠ 0 then
      trim rounds ⟨decimal.digits / 10, decimal.exponent + 1⟩
    else decimal

/-- How decimals are written: between which exponents of the leading digit they are written without
an exponent, and how many digits an exponent has at least. -/
structure Style where
  least : Int
  most : Int
  exponentDigits : Nat

/-- Numbers from `0.0001` up to below `10 ^ 16` have no exponent; others have one of at least two
digits. -/
def plainStyle : Style := ⟨-4, 15, 2⟩

def padded (width : Nat) (digits : String) : String :=
  String.ofList (List.replicate (width - digits.length) '0') ++ digits

/-- The decimal in writing. Without an exponent there is at least one digit after the point. -/
def write (style : Style) (decimal : Decimal) : String :=
  let decimal := decimal.trim maxDigits
  let digits := (toString decimal.digits).toList
  let leading : Int := decimal.exponent + digits.length - 1
  if style.least ≤ leading && leading ≤ style.most then
    if leading < 0 then
      "0." ++ String.ofList (List.replicate (-leading - 1).toNat '0') ++ String.ofList digits
    else
      let whole := leading.toNat + 1
      let front := digits.take whole ++ List.replicate (whole - digits.length) '0'
      let back := if digits.length ≤ whole then ['0'] else digits.drop whole
      String.ofList front ++ "." ++ String.ofList back
  else
    let back := if digits.length = 1 then "" else "." ++ String.ofList (digits.drop 1)
    let sign := if leading < 0 then "-" else "+"
    String.ofList (digits.take 1) ++ back ++ "e" ++ sign ++
      padded style.exponentDigits (toString leading.natAbs)

end Decimal

def writeFloat (x : Float) : String :=
  match Binary64.content x with
  | .undefined => "nan"
  | .infinite negative => if negative then "-inf" else "inf"
  | .finite parts =>
    let written := match Decimal.shortest? parts.significand parts.exponent with
      | some decimal => decimal.write Decimal.plainStyle
      | none => ""
    (if parts.negative then "-" else "") ++ written

end Descent
