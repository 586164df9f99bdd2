set_option autoImplicit false

namespace Descent

/-- The code points from `first` to `last`, both included. -/
structure CodeRange where
  first : Nat
  last : Nat
  deriving DecidableEq, Repr

namespace CodeRange

def contains (range : CodeRange) (c : Char) : Bool :=
  decide (range.first ≤ c.toNat) && decide (c.toNat ≤ range.last)

theorem contains_iff (range : CodeRange) (c : Char) :
    range.contains c = true ↔ range.first ≤ c.toNat ∧ c.toNat ≤ range.last := by
  simp [contains]

def covers (ranges : List CodeRange) (c : Char) : Bool :=
  ranges.any (·.contains c)

/-- Searches the ranges of a table from the index `low` up to `high` by halves. -/
def search (table : Array CodeRange) (c : Char) : Nat → Nat → Nat → Option CodeRange
  | 0, _, _ => none
  | fuel + 1, low, high =>
    let middle := (low + high) / 2
    match table[middle]? with
    | none => none
    | some range =>
      if high ≤ low then none
      else if c.toNat < range.first then search table c fuel low middle
      else if range.last < c.toNat then search table c fuel (middle + 1) high
      else some range

/-- The range of a table that holds the character. The ranges of a table are in ascending order and
lie apart. -/
def find? (table : Array CodeRange) (c : Char) : Option CodeRange :=
  search table c table.size 0 table.size

def holds (table : Array CodeRange) (c : Char) : Bool :=
  (find? table c).isSome

end CodeRange

end Descent
