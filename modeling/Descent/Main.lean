import Descent.Calculator.Demo

set_option autoImplicit false

namespace Descent

def demonstrations (arguments : List String) : String :=
  match arguments with
  | ["arithmetic"] => Calculator.Demo.arithmetic
  | ["table"] => Calculator.Demo.table
  | _ => Calculator.Demo.arithmetic ++ Calculator.Demo.table

end Descent

def main (arguments : List String) : IO Unit :=
  IO.print (Descent.demonstrations arguments)
