import Descent.Numeral
import Descent.Pattern.Flaw

set_option autoImplicit false

namespace Descent

inductive Division where
  | floor
  | remainder
  | exact
  deriving DecidableEq, Repr

/-- The kinds of error that an action of the author may raise. -/
inductive ErrorKind where
  | value
  | runtime
  deriving DecidableEq, Repr

/-- Why a run, or the construction of a parser, ends without an answer. A failure to match is no
fault; it is an answer. Types of values are given by name. -/
inductive Fault where
  | textIndex
  | listIndex
  | indexTooLarge
  | notCallable (type : String)
  | wrongArity (name : String) (expected given : Nat)
  | notParser (type : String)
  | negativeCount (n : Int)
  | countTooLarge
  | outOfMemory
  | malformedNumeral (text : List Char)
  | numeralTooLong (digits : Nat)
  | notNumeral (type : String)
  | zeroDivisor (division : Division) (floating : Bool)
  | zeroToNegative
  | powerTooLarge
  | quotientTooLarge
  | integerTooLarge
  | integerTooLong
  | infiniteInteger
  | undefinedInteger
  | notInteger (type : String)
  | flawedPattern (error : Pattern.Error)
  | optionsOfCompiled
  | raised (kind : ErrorKind) (message : String)
  | operandType (sign : String) (type : String)
  | operandTypes (sign : String) (left right : String)
  | notOrdered (sign : String) (left right : String)
  | notSized (type : String)
  | notIndexed (type : String)
  | notText (type : String)
  | notHashable (type : String)
  | itemNotText (index : Nat) (type : String)
  | notJoinable
  deriving DecidableEq, Repr, Inhabited

namespace Fault

def zeroDivisorMessage : Division → Bool → String
  | .floor, false => "integer division or modulo by zero"
  | .remainder, false => "integer modulo by zero"
  | .exact, false => "division by zero"
  | .floor, true => "float floor division by zero"
  | .remainder, true => "float modulo"
  | .exact, true => "float division by zero"

/-- The most characters of the quoted text that a report on a numeral shows. -/
def numeralExcerpt : Nat := 200

def wordSizeMessage : String :=
  "cannot fit 'int' into an index-sized integer"

def message : Fault → String
  | textIndex => "string index out of range"
  | listIndex => "list index out of range"
  | indexTooLarge => wordSizeMessage
  | notCallable type => "'" ++ type ++ "' object is not callable"
  | wrongArity name expected given =>
    name ++ "() takes " ++ toString expected ++ " positional argument" ++
      (if expected = 1 then "" else "s") ++ " but " ++ toString given ++
      (if given = 1 then " was given" else " were given")
  | notParser type => "lazy: thunk returned " ++ type ++ ", not a Parser"
  | negativeCount n => "count: n must be non-negative, got " ++ toString n
  | countTooLarge => wordSizeMessage
  | outOfMemory => ""
  | malformedNumeral text =>
    "invalid literal for int() with base 10: " ++
      String.ofList ((Quoted.encode text).take numeralExcerpt)
  | numeralTooLong digits => Numeral.tooLongMessage digits
  | notNumeral type =>
    "int() argument must be a string, a bytes-like object or a real number, not '" ++ type ++ "'"
  | zeroDivisor division floating => zeroDivisorMessage division floating
  | zeroToNegative => "0.0 cannot be raised to a negative power"
  | powerTooLarge => "(34, 'Numerical result out of range')"
  | quotientTooLarge => "integer division result too large for a float"
  | integerTooLarge => "int too large to convert to float"
  | integerTooLong => Numeral.tooLongToWriteMessage
  | infiniteInteger => "cannot convert float infinity to integer"
  | undefinedInteger => "cannot convert float NaN to integer"
  | notInteger type => "'" ++ type ++ "' object cannot be interpreted as an integer"
  | flawedPattern error => error.message
  | optionsOfCompiled => "cannot process flags argument with a compiled pattern"
  | raised _ message => message
  | operandType sign type => "bad operand type for " ++ sign ++ ": '" ++ type ++ "'"
  | operandTypes sign left right =>
    "unsupported operand type(s) for " ++ sign ++ ": '" ++ left ++ "' and '" ++ right ++ "'"
  | notOrdered sign left right =>
    "'" ++ sign ++ "' not supported between instances of '" ++ left ++ "' and '" ++ right ++ "'"
  | notSized type => "object of type '" ++ type ++ "' has no len()"
  | notIndexed type => "'" ++ type ++ "' object is not subscriptable"
  | notHashable type => "unhashable type: '" ++ type ++ "'"
  | notText type => "startswith first arg must be str or a tuple of str, not " ++ type
  | itemNotText index type =>
    "sequence item " ++ toString index ++ ": expected str instance, " ++ type ++ " found"
  | notJoinable => "can only join an iterable"

end Fault

/-- The integer that a text spells, or the fault of a text that spells none. -/
def Numeral.evaluate (text : List Char) : Except Fault Int :=
  match read text with
  | .ok n => .ok n
  | .error .malformed => .error (.malformedNumeral text)
  | .error (.tooLong digits) => .error (.numeralTooLong digits)

end Descent
