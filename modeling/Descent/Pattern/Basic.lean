import Descent.Text.Blank
import Descent.Text.Digit
import Descent.Text.Word

set_option autoImplicit false

namespace Descent

/-- Which characters count as the same letter in two cases. -/
inductive Folding where
  | exact
  | ascii
  | latin
  deriving DecidableEq, Repr, Inhabited

namespace Folding

def shifted (c : Char) (up : Nat) (down : Nat) : Char :=
  Char.ofNat (c.toNat + up - down)

/-- The letter in the other case among the letters of ASCII, else the character itself. -/
def swapAscii (c : Char) : Char :=
  if CodeRange.contains ⟨0x41, 0x5A⟩ c then shifted c 0x20 0
  else if CodeRange.contains ⟨0x61, 0x7A⟩ c then shifted c 0 0x20
  else c

/-- The letter in the other case among the first 256 characters, else the character itself. The
signs for multiplication and division stand among the letters but are none. -/
def swapLatin (c : Char) : Char :=
  if c = '×' || c = '÷' then c
  else if CodeRange.contains ⟨0xC0, 0xDE⟩ c then shifted c 0x20 0
  else if CodeRange.contains ⟨0xE0, 0xFE⟩ c then shifted c 0 0x20
  else swapAscii c

def swap : Folding → Char → Char
  | exact, c => c
  | ascii, c => swapAscii c
  | latin, c => swapLatin c

/-- The two characters are equal but for case. -/
def same (folding : Folding) (c d : Char) : Bool :=
  c == d || folding.swap c == d

end Folding

/-- The classes of characters that have a name of their own in a pattern. -/
inductive CharClass where
  | digit
  | blank
  | word
  deriving DecidableEq, Repr

/-- The character belongs to the class, of ASCII only or of all scripts. -/
def CharClass.holds (cls : CharClass) (ascii : Bool) (c : Char) : Bool :=
  match cls, ascii with
  | .digit, true => isAsciiDigit c
  | .digit, false => isDecimal c
  | .blank, true => isAsciiBlank c
  | .blank, false => isBlank c
  | .word, true => isAsciiWordChar c
  | .word, false => isWordChar c

inductive SetItem where
  | range (codes : CodeRange)
  | inClass (cls : CharClass) (ascii : Bool)
  | outsideClass (cls : CharClass) (ascii : Bool)
  deriving DecidableEq, Repr

def SetItem.holds : SetItem → Char → Bool
  | range codes, c => codes.contains c
  | inClass cls ascii, c => cls.holds ascii c
  | outsideClass cls ascii, c => !cls.holds ascii c

/-- A set of characters: the union of its parts, or all others if it is negated. -/
structure CharSet where
  items : List SetItem
  negated : Bool
  folding : Folding
  deriving DecidableEq, Repr

namespace CharSet

def single (code : Nat) (folding : Folding) : CharSet :=
  ⟨[.range ⟨code, code⟩], false, folding⟩

/-- Two sets that are not negated and treat case alike, in one. -/
def union? (a b : CharSet) : Option CharSet :=
  if !a.negated && !b.negated && a.folding == b.folding then
    some ⟨a.items ++ b.items, false, a.folding⟩
  else none

def allBut (items : List SetItem) : CharSet :=
  ⟨items, true, .exact⟩

/-- The character belongs to the set, in one of its cases if case is ignored. -/
def contains (set : CharSet) (c : Char) : Bool :=
  (set.items.any fun item => item.holds c || item.holds (set.folding.swap c)) != set.negated

end CharSet

/-- Places that a pattern can ask for without consuming a character. -/
inductive Anchor where
  | textStart
  | lineStart
  | textEnd
  | lineEnd
  | lastLineEnd
  | wordEdge (ascii : Bool)
  | insideWord (ascii : Bool)
  deriving DecidableEq, Repr

inductive Pattern where
  | empty
  | one (set : CharSet)
  | seq (first second : Pattern)
  | alt (first second : Pattern)
  | repeated (greedy : Bool) (least : Nat) (most : Option Nat) (body : Pattern)
  | capture (group : Nat) (body : Pattern)
  | reference (group : Nat) (folding : Folding)
  | atomic (body : Pattern)
  | ahead (positive : Bool) (body : Pattern)
  | behind (positive : Bool) (width : Nat) (body : Pattern)
  | anchor (place : Anchor)
  deriving DecidableEq, Repr, Inhabited

namespace Pattern

/-- One pattern after another, nested to the left. -/
def sequence : List Pattern → Pattern
  | [] => .empty
  | p :: rest => rest.foldl .seq p

/-- The set of a pattern that is just one character of it. -/
def asSet? : Pattern → Option CharSet
  | .one set => some set
  | _ => none

/-- Either of two patterns. Two sets of characters are made one where that is possible. -/
def either (p q : Pattern) : Pattern :=
  match (do (← p.asSet?).union? (← q.asSet?)) with
  | some set => .one set
  | none => .alt p q

/-- The first of the patterns that lets the whole match. -/
def choice (p : Pattern) : List Pattern → Pattern
  | [] => p
  | q :: rest => either p (choice q rest)

/-- A repetition that takes the most rounds it can, and no round another way. -/
def possessive (least : Nat) (most : Option Nat) (body : Pattern) : Pattern :=
  .atomic (.repeated true least most (.atomic body))

def references : Pattern → List Nat
  | .seq p q | .alt p q => p.references ++ q.references
  | .repeated _ _ _ p | .capture _ p | .atomic p | .ahead _ p | .behind _ _ p => p.references
  | .reference group _ => [group]
  | .empty | .one _ | .anchor _ => []

/-- A number of characters that every match has. A back reference counts for none. -/
def leastWidth : Pattern → Nat
  | .one _ => 1
  | .seq p q => p.leastWidth + q.leastWidth
  | .alt p q => min p.leastWidth q.leastWidth
  | .repeated _ least _ p => p.leastWidth * least
  | .capture _ p | .atomic p => p.leastWidth
  | .empty | .reference _ _ | .ahead _ _ | .behind _ _ _ | .anchor _ => 0

def run (least : Nat) (set : CharSet) : Pattern :=
  .repeated true least none (.one set)

def blanks : Pattern :=
  run 0 ⟨[.inClass .blank false], false, .exact⟩

def digits : Pattern :=
  run 1 ⟨[.range ⟨0x30, 0x39⟩], false, .exact⟩

end Pattern

end Descent
