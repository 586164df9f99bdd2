import Descent.Number.Basic
import Descent.Parser.Char
import Descent.Parser.Rule

set_option autoImplicit false

namespace Descent.Calculator.Arithmetic

open Descent.Parser

inductive Sign where
  | plus
  | minus
  | times
  | dividedBy
  deriving DecidableEq, Repr

namespace Sign

def text : Sign → String
  | plus => "+"
  | minus => "-"
  | times => "*"
  | dividedBy => "/"

def apply : Sign → Number → Number → Except Fault Number
  | plus => Number.add
  | minus => Number.sub
  | times => Number.mul
  | dividedBy => Number.div

end Sign

def sign (s : Sign) : Parser Empty Sign :=
  (literal s.text).map fun _ => s

/-- One of two signs, with blanks around it. -/
def oneSign (s t : Sign) : Parser Empty Sign :=
  lexeme (choice [sign s, sign t])

def decimal : Parser Empty Number :=
  lexeme ((pattern "/[0-9]+/" .digits).tryMap fun digits =>
    (Numeral.evaluate digits.toList).map .int)

def fold (first : Number) : List (Sign × Number) → Except Fault Number
  | [] => .ok first
  | (s, operand) :: rest => do fold (← s.apply first operand) rest

def chained (s t : Sign) (operand : Parser Empty Number) : Parser Empty Number :=
  (both operand (many (both (oneSign s t) operand))).tryMap fun (first, rest) => fold first rest

def factor (sum : Parser Empty Number) : Parser Empty Number :=
  choice [between (lexeme (literal "(")) (lexeme (literal ")")) sum, decimal]

def product (sum : Parser Empty Number) : Parser Empty Number :=
  chained .times .dividedBy (factor sum)

/-- Products that are added or subtracted, given the parser of the sums inside parentheses. -/
def sumBody (sum : Parser Empty Number) : Parser Empty Number :=
  chained .plus .minus (product sum)

def expression : Parser Empty Number :=
  fix (fun self (_ : Unit) => sumBody (self ())) ()

end Descent.Calculator.Arithmetic
