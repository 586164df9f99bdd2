import Descent.Text.Quoted
import Descent.Value.Basic

set_option autoImplicit false

namespace Descent.Value

def writeInt (n : Int) : Except Fault String :=
  if Nat.pow 10 Numeral.maxDigits ≤ n.natAbs then .error .integerTooLong else .ok (toString n)

mutual

/-- A value as it is written inside a list. -/
def writeItem : Value → Except Fault String
  | null => .ok "None"
  | bool true => .ok "True"
  | bool false => .ok "False"
  | int n => writeInt n
  | float x => .ok (writeFloat x)
  | str s => .ok (quoted s.toList)
  | list items => do return "[" ++ String.intercalate ", " (← writeItems items) ++ "]"
  | function f => .ok ("<function " ++ f.name ++ ">")
  | node _ => .ok "<function>"

def writeItems : List Value → Except Fault (List String)
  | [] => .ok []
  | v :: rest => do return (← writeItem v) :: (← writeItems rest)

end

/-- A text stands for itself, but is quoted inside a list. -/
def write : Value → Except Fault String
  | str s => .ok s
  | v => writeItem v

end Descent.Value
