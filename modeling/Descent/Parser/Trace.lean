import Descent.Parser.Basic

set_option autoImplicit false

namespace Descent.Parser

variable {σ α : Type}

/-- How many characters of what is left of the text a line shows. -/
def traceWidth : Nat := 30

/-- What is left of a text at a position, cut short if it is long. -/
def preview (text : Text) (pos : Int) : String :=
  let start := text.cut pos
  text.between start (start + traceWidth) ++
    (if start + traceWidth < text.length then "..." else "")

def traceLine (label : String) (text : Text) (pos : Int) : String :=
  label ++ ": \"" ++ preview text pos ++ "\" at offset " ++ toString pos ++ "\n"

def trace (label : String) : Parser σ Unit := fun text pos => do
  Action.record (.printed (traceLine label text pos))
  return .success () pos

/-- Prints a line before the parser is run, and another if it fails. -/
def traced (label : String) (p : Parser σ α) : Parser σ α :=
  (trace label).seqRight
    (p.orElse ((trace (label ++ " backtracked")).seqRight (fail (label ++ " failed"))))

def logged (tag : String) (p : Parser σ Value) : Parser σ Value := fun text pos => do
  match ← p text pos with
  | .success value stop =>
    Action.record (.logged tag value)
    return .success value stop
  | .failure failure => return .failure failure

end Descent.Parser
