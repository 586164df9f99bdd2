import Descent.Number.Basic

set_option autoImplicit false

namespace Descent.Number

def floorDiv : Number → Number → Except Fault Number :=
  combine
    (fun m n => if n = 0 then .error (.zeroDivisor .floor false) else .ok (int (m.fdiv n)))
    fun x y =>
      if y == 0 then .error (.zeroDivisor .floor true)
      else .ok (float (Binary64.floorQuotient x y))

def floorMod : Number → Number → Except Fault Number :=
  combine
    (fun m n => if n = 0 then .error (.zeroDivisor .remainder false) else .ok (int (m.fmod n)))
    fun x y =>
      if y == 0 then .error (.zeroDivisor .remainder true)
      else .ok (float (Binary64.floorRemainder x y))

/-- A power of doubles. One that is too large is refused, and so is a finite negative power of
zero. -/
def floatPow (x y : Float) : Except Fault Number :=
  if x == 0 && y < 0 && y.isFinite then .error .zeroToNegative
  else
    let power := x.pow y
    if power.isInf && x.isFinite && y.isFinite then .error .powerTooLarge
    else .ok (float power)

/-- The power. With a negative exponent it is a double. -/
def pow : Number → Number → Except Fault Number :=
  combine
    (fun m n =>
      if 0 ≤ n then .ok (int (Int.pow m n.toNat))
      else do floatPow (← (int m).toFloat) (← (int n).toFloat))
    floatPow

end Descent.Number
