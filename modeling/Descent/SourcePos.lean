import Descent.Text.Basic

set_option autoImplicit false

namespace Descent

/-- A line and a column of a named source, both counted from one. -/
structure SourcePos where
  line : Int
  column : Int
  name : String
  deriving DecidableEq, Repr

namespace SourcePos

/-- The distance between tab stops. -/
def tabWidth : Int := 8

def start (name : String) : SourcePos :=
  ⟨1, 1, name⟩

def nextLine (place : SourcePos) : SourcePos :=
  { place with line := place.line + 1, column := 1 }

/-- The place after a tab: the next column that is one more than a multiple of `tabWidth`. -/
def nextTab (place : SourcePos) : SourcePos :=
  { place with column := place.column + tabWidth - (place.column - 1).fmod tabWidth }

def nextColumn (place : SourcePos) : SourcePos :=
  { place with column := place.column + 1 }

def advance (place : SourcePos) (c : Char) : SourcePos :=
  if c = '\n' then place.nextLine
  else if c = '\t' then place.nextTab
  else place.nextColumn

/-- The place after a token. A token that is not just one character is as wide as one. -/
def advanceToken (place : SourcePos) (token : String) : SourcePos :=
  match token.toList with
  | [c] => place.advance c
  | _ => place.nextColumn

def advanceAll (place : SourcePos) (chars : List Char) : SourcePos :=
  chars.foldl advance place

/-- The place of an offset of a text: the one after all characters before the cut there. -/
def ofOffset (text : Text) (offset : Int) (name : String) : SourcePos :=
  (start name).advanceAll (text.slice 0 offset)

/-- The place in words, after the name of the source if it has one. -/
def describe (place : SourcePos) : String :=
  (if place.name = "" then "" else place.name ++ " ") ++
    "line " ++ toString place.line ++ ", column " ++ toString place.column

end SourcePos

end Descent
