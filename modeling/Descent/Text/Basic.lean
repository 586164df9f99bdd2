set_option autoImplicit false

namespace Descent

/-- A text, read by index. Positions are integers, and nothing keeps them inside the text. -/
structure Text where
  chars : Array Char
  deriving DecidableEq, Repr, Inhabited

namespace Text

def ofList (chars : List Char) : Text :=
  ⟨chars.toArray⟩

def ofString (s : String) : Text :=
  ofList s.toList

def toList (text : Text) : List Char :=
  text.chars.toList

def length (text : Text) : Nat :=
  text.chars.size

/-- The index at which a cut at `pos` falls: a negative position counts from the end, and the
index never leaves the text. -/
def cut (text : Text) (pos : Int) : Nat :=
  if pos < 0 then (pos + text.length).toNat else min pos.toNat text.length

/-- The nearest index of the text: 0 for a negative position, the end for one past it. -/
def clamp (text : Text) (pos : Int) : Nat :=
  min pos.toNat text.length

/-- The characters between two cuts; none if the second does not lie after the first. -/
def slice (text : Text) (start stop : Int) : List Char :=
  (text.chars.extract (text.cut start) (text.cut stop)).toList

def between (text : Text) (start stop : Nat) : String :=
  String.ofList (text.chars.extract start stop).toList

/-- The character at a position. A negative position counts from the end; before the first
character and from the end on there is none. -/
def char? (text : Text) (pos : Int) : Option Char :=
  let index := if pos < 0 then pos + text.length else pos
  if index < 0 then none else text.chars[index.toNat]?

/-- The given characters stand in the text one after another, from the index on. -/
def reads (text : Text) : List Char → Nat → Bool
  | [], _ => true
  | c :: rest, index => text.chars[index]? == some c && text.reads rest (index + 1)

/-- The string stands at the cut of `pos`. Past the end no string stands, not even the empty one. -/
def startsWith (text : Text) (s : String) (pos : Int) : Bool :=
  decide (pos ≤ text.length) && text.reads s.toList (text.cut pos)

theorem cut_le_length (text : Text) (pos : Int) : text.cut pos ≤ text.length := by
  unfold cut
  split <;> omega

theorem cut_of_mem (text : Text) (index : Nat) (within : index ≤ text.length) :
    text.cut index = index := by
  unfold cut
  split <;> omega

theorem clamp_le_length (text : Text) (pos : Int) : text.clamp pos ≤ text.length :=
  Nat.min_le_right _ _

theorem clamp_of_mem (text : Text) (index : Nat) (within : index ≤ text.length) :
    text.clamp index = index := by
  simp only [clamp, Int.toNat_natCast]
  omega

theorem char?_of_nat (text : Text) (index : Nat) : text.char? index = text.chars[index]? := by
  have not_negative : ¬((index : Int) < 0) := by omega
  simp [char?, not_negative]

end Text

end Descent
