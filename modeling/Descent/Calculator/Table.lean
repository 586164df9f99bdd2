import Descent.Number.Basic
import Descent.Parser.Char
import Descent.Parser.Expression
import Descent.Parser.Rule

set_option autoImplicit false

namespace Descent.Calculator.Table

open Descent.Parser

/-- The quotient; a zero divisor is refused, whatever its type. -/
def divide (x y : Number) : Except Fault Number :=
  if y.isZero then .error (.raised .value "Division by zero") else x.div y

def named {σ β : Type} (s : String) (operation : β) : Parser σ β :=
  (symbol s).map fun _ => operation

def negate (x : Number) : Except Fault Number :=
  .ok x.neg

/-- The operators, from the tightest row to the loosest. -/
def table : List (List (Operator (Unary Empty Number) (Binary Empty Number))) :=
  [[.before (named "-" negate)],
    [.between .left (named "*" Number.mul), .between .left (named "/" divide)],
    [.between .left (named "+" Number.add), .between .left (named "-" Number.sub)]]

def term (whole : Parser Empty Number) : Parser Empty Number :=
  (between (symbol "(") (symbol ")") whole).orElse (integer.map .int)

/-- The expression, given the parser of the expressions inside parentheses. -/
def body (whole : Parser Empty Number) : Parser Empty Number :=
  Parser.expression table (term whole)

def expression : Parser Empty Number :=
  fix (fun self (_ : Unit) => body (self ())) ()

end Descent.Calculator.Table
