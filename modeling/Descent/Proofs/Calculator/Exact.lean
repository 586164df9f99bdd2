import Descent.Proofs.Calculator.Reading
import Descent.Proofs.Table.Exact

set_option autoImplicit false

namespace Descent.Calculator.Arithmetic

open Descent.Action (Comes Ensures Settles)
open Descent.SignTable (Stops)

variable {text : Text}

def Tree.alone (t : Tree .factor) : Tree (.chain .product) :=
  @Tree.chain .product t .nil

end Descent.Calculator.Arithmetic
