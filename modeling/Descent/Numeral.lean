import Descent.Text.Blank
import Descent.Text.Digit

set_option autoImplicit false

namespace Descent.Numeral

inductive Refusal where
  | malformed
  | tooLong (digits : Nat)
  deriving DecidableEq, Repr

/-- The greatest number of digits that is evaluated. -/
def maxDigits : Nat := 4300

def limitMessage (detail : String) : String :=
  "Exceeds the limit (" ++ toString maxDigits ++ " digits) for integer string conversion" ++
    detail ++ "; use sys.set_int_max_str_digits() to increase the limit"

def tooLongMessage (digits : Nat) : String :=
  limitMessage (": value has " ++ toString digits ++ " digits")

def tooLongToWriteMessage : String :=
  limitMessage ""

/-- The blanks that may stand around a numeral: all but the information separators. -/
def isPadding (c : Char) : Bool :=
  isBlank c && !CodeRange.contains ⟨0x1C, 0x1F⟩ c

/-- The character may stand inside a numeral, after its sign. -/
def isInner (c : Char) : Bool :=
  c == '_' || isDecimal c

/-- The text begins and ends with a digit, and each low line stands between two digits. -/
def grouped : List Char → Bool
  | [] => false
  | [c] => isDecimal c
  | c :: d :: rest => isDecimal c && (if d = '_' then grouped rest else grouped (d :: rest))

/-- The number that a run of digits spells; what is no digit is passed over. -/
def digitsValue (chars : List Char) : Nat :=
  (chars.filterMap decimalValue?).foldl (fun value digit => 10 * value + digit) 0

/-- The number spelled by an unsigned numeral that may be followed by blanks. -/
def readUnsigned (chars : List Char) : Except Refusal Nat :=
  let run := chars.takeWhile isInner
  let digits := (run.filter isDecimal).length
  if !grouped run then .error .malformed
  else if maxDigits < digits then .error (.tooLong digits)
  else if !(chars.dropWhile isInner).all isPadding then .error .malformed
  else .ok (digitsValue run)

/-- The number spelled by a numeral: an optional sign and at least one decimal digit of any script,
with single low lines allowed between digits and blanks around the whole. -/
def read (chars : List Char) : Except Refusal Int :=
  match chars.dropWhile isPadding with
  | '-' :: rest => (readUnsigned rest).map fun n => -(n : Int)
  | '+' :: rest => (readUnsigned rest).map Int.ofNat
  | rest => (readUnsigned rest).map Int.ofNat

end Descent.Numeral
