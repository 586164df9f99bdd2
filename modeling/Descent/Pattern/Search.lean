import Std.Data.HashSet.Basic

set_option autoImplicit false

namespace Descent.Pattern

/-- The place reached by a match, and where the groups that it keeps were last captured. -/
structure Trail where
  place : Nat
  captures : List (Nat × Nat × Nat)
  deriving DecidableEq, Hashable, Repr

namespace Trail

def moveTo (trail : Trail) (place : Nat) : Trail :=
  { trail with place := place }

/-- The trail with a group captured from `start` to where it stands. -/
def capture (trail : Trail) (group start : Nat) : Trail :=
  let others := trail.captures.filter fun entry => entry.1 != group
  { trail with captures := (group, start, trail.place) :: others }

def captured? (trail : Trail) (group : Nat) : Option (Nat × Nat) :=
  trail.captures.lookup group

end Trail

/-- A point of a search from which all is determined: a site of the pattern at work, the rounds that
a repetition there still owes and those that it may add, and the trail so far. Ways that differ at
first may meet at a junction; one that came to nothing once is not tried again. -/
structure Junction where
  site : Nat
  owed : Nat
  spare : Nat
  trail : Trail
  deriving DecidableEq, Hashable, Repr

/-- What a search has learnt: how many sites it has numbered, and which junctions lead nowhere. -/
structure Memory where
  sites : Nat
  deadEnds : Std.HashSet Junction

namespace Memory

def blank : Memory :=
  ⟨0, ∅⟩

def newSite (memory : Memory) : Nat × Memory :=
  (memory.sites, { memory with sites := memory.sites + 1 })

def close (memory : Memory) (junction : Junction) : Memory :=
  { memory with deadEnds := memory.deadEnds.insert junction }

end Memory

/-- What a search comes to: the trail of a match, if there is one, and what it has learnt. -/
abbrev Found : Type := Option Trail × Memory

/-- What has to match after a part of a pattern. -/
abbrev Rest : Type := Trail → Memory → Found

/-- A part of a pattern at work: it extends a trail in some way that lets the rest match. -/
abbrev Step : Type := Trail → Rest → Memory → Found

namespace Found

def success : Rest := fun trail memory =>
  (some trail, memory)

def failure (memory : Memory) : Found :=
  (none, memory)

@[inline] def orElse (first : Found) (second : Memory → Found) : Found :=
  match first with
  | (none, memory) => second memory
  | (some trail, memory) => (some trail, memory)

end Found

/-- Goes on from a junction, unless it is a dead end. A junction that no two ways meet at is
`passing`, and not worth remembering. -/
@[inline] def Memory.enter (memory : Memory) (passing : Bool) (junction : Junction)
    (go : Memory → Found) : Found :=
  if passing then go memory
  else if memory.deadEnds.contains junction then Found.failure memory
  else
    match go memory with
    | (none, memory) => Found.failure (memory.close junction)
    | (some trail, memory) => (some trail, memory)

end Descent.Pattern
