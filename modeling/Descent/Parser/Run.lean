import Descent.Parser.Basic
import Descent.ParseError

set_option autoImplicit false

namespace Descent.Parser

variable {σ α : Type}

/-- The value of a success or the report of a failure. If the whole text has to be consumed, input
that is left over counts as a failure to meet its end. -/
def verdict (text : Text) (source : String) (consumeAll : Bool) :
    Reply α → Except ParseError α
  | .failure failure => .error (ParseError.ofFailure failure text source)
  | .success value stop =>
    if consumeAll && decide (stop < text.length) then
      .error (ParseError.ofFailure (.leaf stop (some "end of input")) text source)
    else .ok value

def run (p : Parser σ α) (text : Text) (source : String) (consumeAll : Bool) :
    Action σ (Except ParseError α) := do
  return verdict text source consumeAll (← p text 0)

end Descent.Parser
