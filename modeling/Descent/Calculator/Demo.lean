import Descent.Calculator.Arithmetic
import Descent.Calculator.Table
import Descent.Parser.Run

set_option autoImplicit false

namespace Descent.Calculator.Demo

/-- The rounds and the depth that a demonstration is run with. -/
def budget : Nat := 1000000

def leftWidth : Nat := 20

def rightWidth : Nat := 10

def ruleLength : Nat := 35

def padded (width : Nat) (s : String) : String :=
  s ++ String.ofList (List.replicate (width - s.length) ' ')

def line (left right : String) : String :=
  padded leftWidth left ++ " | " ++ right ++ "\n"

def heading : String :=
  line "Expression" (padded rightWidth "Result") ++
    String.ofList (List.replicate ruleLength '-') ++ "\n"

def result (calculator : Parser Empty Number) (expression : String) : String :=
  match calculator.run (Text.ofString expression) "" true budget .fresh with
  | .done (.ok value) _ => value.write
  | .done (.error error) _ => "Error: " ++ error.describe
  | .stopped (.fault fault) _ => "Runtime Error: " ++ fault.message
  | .stopped .exhausted _ => ""

def report (calculator : Parser Empty Number) (expressions : List String) : String :=
  heading ++ String.join (expressions.map fun e => line e (result calculator e))

def arithmeticCases : List String :=
  ["3 + 4", "10 - 3", "3 + 4 * 2", "(3 + 4) * 2", "3 + 4 * (2 - 1)", "100", "3 + "]

def tableCases : List String :=
  ["2 + 3", "2 * 3", "2 + 3 * 4", "(2 + 3) * 4", "-2 + 3", "10 / 2 + 3", "10 / (2 - 2)"]

def arithmetic : String :=
  report Arithmetic.expression arithmeticCases

def table : String :=
  report Table.expression tableCases

end Descent.Calculator.Demo
