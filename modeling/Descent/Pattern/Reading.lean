import Descent.Pattern.Flaw
import Descent.Pattern.Options
import Descent.Pattern.Piece

set_option autoImplicit false

namespace Descent.Pattern

inductive Token where
  | plain (c : Char)
  | escaped (c : Char)
  | dangling
  deriving DecidableEq, Repr

namespace Token

def text : Token → String
  | plain c => String.singleton c
  | escaped c => String.ofList ['\\', c]
  | dangling => "\\"

def width : Token → Nat
  | plain _ => 1
  | escaped _ => 2
  | dangling => 1

def ofSource : List Char → List Token
  | [] => []
  | ['\\'] => [dangling]
  | '\\' :: c :: rest => escaped c :: ofSource rest
  | c :: rest => plain c :: ofSource rest

end Token

/-- The state of reading: what is left of the source, and the groups seen so far. One token is
always in view, so a backslash that ends the source is refused as soon as it comes into view. -/
structure ReaderState where
  /-- The tokens that are left. -/
  rest : List Token
  /-- Where the next token begins. -/
  place : Nat
  /-- The options set for the whole pattern. -/
  options : Options
  /-- The widths of the groups; an open group has none. The whole pattern is group 0 and stays
open. -/
  groups : List (Option Width)
  /-- The groups that have a name. -/
  names : List (String × Nat)
  /-- Within a look-behind, the number of groups there were when the outermost began. -/
  behind : Option Nat
  /-- The flaw of the first look-behind that has one, an outer one before those inside it. -/
  behindFlaw : Option Flaw

/-- A step of reading: a result or a flaw and its place. -/
abbrev Reading := StateT ReaderState (Except (Flaw × Option Nat))

namespace Reading

def peek : Reading (Option Token) := do
  return (← get).rest.head?

def place : Reading Nat := do
  return (← get).place

def refuse {α : Type} (flaw : Flaw) (place : Nat) : Reading α :=
  throw (flaw, some place)

/-- Gives up if the next token is a backslash that ends the source. -/
def checkView : Reading Unit := do
  if (← peek) = some .dangling then refuse .danglingBackslash (← place)

def next : Reading (Option Token) := do
  match (← get).rest with
  | [] => return none
  | token :: rest =>
    modify fun state => { state with rest := rest, place := state.place + token.width }
    checkView
    return some token

def accept (c : Char) : Reading Bool := do
  if (← peek) = some (.plain c) then
    let _ ← next
    return true
  else return false

/-- Takes up to `limit` characters of a class. -/
def takeWhile (holds : Char → Bool) : Nat → Reading (List Char)
  | 0 => return []
  | limit + 1 => do
    match ← peek with
    | some (.plain c) =>
      if holds c then
        let _ ← next
        return c :: (← takeWhile holds limit)
      else return []
    | _ => return []

/-- Takes the text up to a terminator, and the terminator. `start` is where the text began. -/
def takeName (terminator : Char) (start : Nat) : Nat → String → Reading String
  | 0, _ => refuse .missingName start
  | fuel + 1, name => do
    let before ← place
    match ← next with
    | none =>
      if name.isEmpty then refuse .missingName before
      else refuse (.unterminatedName terminator) start
    | some token =>
      if token = .plain terminator then
        if name.isEmpty then refuse .missingName before else return name
      else takeName terminator start fuel (name ++ token.text)

def left : Reading Nat := do
  return (← get).rest.length

end Reading

end Descent.Pattern
