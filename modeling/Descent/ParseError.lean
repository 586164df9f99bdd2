import Descent.Failure
import Descent.SourcePos
import Descent.Text.Quoted

set_option autoImplicit false

namespace Descent

/-- A failure as it is told to the user. -/
structure ParseError where
  place : SourcePos
  message : String
  deriving DecidableEq, Repr

namespace ParseError

/-- How many characters of the text a report shows. -/
def excerptLength : Int := 10

/-- What was expected, in words. An empty label says nothing. -/
def expectation : Option String → String
  | none => "no match"
  | some label => if label = "" then "no match" else "expecting " ++ label

def finding (excerpt : List Char) : String :=
  if excerpt = [] then "end of input" else quoted excerpt

/-- The report of a failure: it tells the place of its innermost cause. -/
def ofFailure (failure : Failure) (text : Text) (source : String) : ParseError :=
  let frame := failure.deepestFrame
  let excerpt := text.slice frame.pos (frame.pos + excerptLength)
  { place := SourcePos.ofOffset text frame.pos source
    message := expectation frame.expected ++ ", found " ++ finding excerpt }

def describe (error : ParseError) : String :=
  "Parse error at " ++ error.place.describe ++ ": " ++ error.message

end ParseError

end Descent
