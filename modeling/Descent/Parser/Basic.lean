import Descent.Action
import Descent.Failure
import Descent.Pattern.Match
import Descent.Text.Quoted

set_option autoImplicit false

namespace Descent

/-- What a parser replies. -/
inductive Reply (α : Type) where
  | success (value : α) (pos : Int)
  | failure (refusal : Failure)
  deriving Repr

namespace Reply

variable {α β : Type}

def map (f : α → β) : Reply α → Reply β
  | success value pos => success (f value) pos
  | failure refusal => .failure refusal

/-- The reply with a failure reported at `pos`. -/
def anchor (pos : Int) : Reply α → Reply α
  | success value stop => success value stop
  | failure refusal => .failure (refusal.anchor pos)

@[simp] theorem anchor_success (pos : Int) (value : α) (stop : Int) :
    (success value stop).anchor pos = success value stop :=
  rfl

@[simp] theorem anchor_failure (pos : Int) (refusal : Failure) :
    (failure refusal : Reply α).anchor pos = failure (refusal.anchor pos) :=
  rfl

@[simp] theorem anchor_anchor (pos : Int) (reply : Reply α) :
    (reply.anchor pos).anchor pos = reply.anchor pos := by
  cases reply <;> simp

end Reply

/-- Run on a text at a position, a parser replies with a value and the position after the match, or
with a failure. -/
def Parser (σ α : Type) : Type :=
  Text → Int → Action σ (Reply α)

namespace Parser

variable {σ α β : Type}

protected def pure (value : α) : Parser σ α := fun _ pos =>
  return .success value pos

def failWith (expected : Option String) : Parser σ α := fun _ pos =>
  return .failure (.leaf pos expected)

def fail (message : String) : Parser σ α :=
  failWith (some message)

def raise (fault : Fault) : Parser σ α := fun _ _ =>
  Action.raise fault

def ofReply (reply : Text → Int → Reply α) : Parser σ α := fun text pos =>
  return reply text pos

def textLabel (s : String) : String :=
  "'" ++ s ++ "'"

/-- Matches a text literally. The position moves on by its length, whatever it was. -/
def literal (s : String) : Parser σ String := fun text pos =>
  if text.startsWith s pos then return .success s (pos + s.length)
  else return .failure (.leaf pos (some (textLabel s)))

/-- Matches one character that is accepted. A negative position counts from the end; before the
first character there is nothing to read, which is a fault. -/
def satisfy (expected : Option String) (accepts : Char → Bool) : Parser σ Char := fun text pos =>
  if pos < text.length then
    match text.char? pos with
    | none => Action.raise .textIndex
    | some c =>
      if accepts c then return .success c (pos + 1)
      else return .failure (.leaf pos expected)
  else return .failure (.leaf pos expected)

/-- Matches a pattern at the nearest index of the text, and yields what it matched. -/
def pattern (expected : String) (p : Pattern) : Parser σ String := fun text pos =>
  let start := text.clamp pos
  match p.matchEnd? text start with
  | some stop => return .success (text.between start stop) stop
  | none => return .failure (.leaf pos (some expected))

def eof : Parser σ Unit := fun text pos =>
  if text.length ≤ pos then return .success () pos
  else return .failure (.leaf pos (some "end of input"))

def lookAhead (p : Parser σ α) : Parser σ α := fun text pos => do
  match ← p text pos with
  | .success value _ => return .success value pos
  | .failure failure => return .failure failure

/-- Succeeds, and consumes nothing, where the parser fails. -/
def notFollowedBy (p : Parser σ α) : Parser σ Unit := fun text pos => do
  match ← p text pos with
  | .success _ stop => return .failure (.leaf pos (some ("not " ++ quoted (text.slice pos stop))))
  | .failure _ => return .success () pos

def map (f : α → β) (p : Parser σ α) : Parser σ β := fun text pos => do
  return (← p text pos).map f

/-- Changes the value of a success by a function that may end the run. -/
def tryMap (f : α → Except Fault β) (p : Parser σ α) : Parser σ β := fun text pos => do
  match ← p text pos with
  | .success value stop => return .success (← Action.ofExcept (f value)) stop
  | .failure failure => return .failure failure

/-- Reports failures at the position where the parser was started. -/
def anchored (p : Parser σ α) : Parser σ α := fun text pos => do
  return (← p text pos).anchor pos

def label (message : String) (p : Parser σ α) : Parser σ α := fun text pos => do
  match ← p text pos with
  | .success value stop => return .success value stop
  | .failure failure => return .failure (failure.relabel message)

/-- Goes on with a parser that depends on the value of the first. If it fails, what the first one
consumed is given back. -/
protected def bind (p : Parser σ α) (next : α → Parser σ β) : Parser σ β := fun text pos => do
  match ← p text pos with
  | .success value stop => return (← next value text stop).anchor pos
  | .failure failure => return .failure (failure.anchor pos)

def orElse (p q : Parser σ α) : Parser σ α := fun text pos => do
  match ← p text pos with
  | .success value stop => return .success value stop
  | .failure _ => return (← q text pos).anchor pos

def both (p : Parser σ α) (q : Parser σ β) : Parser σ (α × β) :=
  p.bind fun a => q.map fun b => (a, b)

def seqRight (p : Parser σ α) (q : Parser σ β) : Parser σ β :=
  p.bind fun _ => q

def seqLeft (p : Parser σ α) (q : Parser σ β) : Parser σ α :=
  p.bind fun a => q.map fun _ => a

def between (opening : Parser σ β) (closing : Parser σ β) (p : Parser σ α) : Parser σ α :=
  (opening.seqRight p).seqLeft closing

end Parser

end Descent
