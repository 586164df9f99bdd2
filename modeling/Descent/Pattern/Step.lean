import Descent.Pattern.Basic
import Descent.Pattern.Search
import Descent.Text.Basic

set_option autoImplicit false

namespace Descent

namespace Pattern

/-- Two stretches of the text are equal, case left to the folding. -/
def sameText (text : Text) (folding : Folding) : Nat → Nat → Nat → Bool
  | 0, _, _ => true
  | length + 1, i, j =>
    match text.chars[i]?, text.chars[j]? with
    | some c, some d => folding.same c d && sameText text folding length (i + 1) (j + 1)
    | _, _ => false

def wordAt (text : Text) (ascii : Bool) (index : Nat) : Bool :=
  match text.chars[index]? with
  | some c => CharClass.word.holds ascii c
  | none => false

/-- A word character stands on just one side of the index. -/
def atWordEdge (text : Text) (ascii : Bool) (index : Nat) : Bool :=
  (decide (0 < index) && wordAt text ascii (index - 1)) != wordAt text ascii index

end Pattern

/-- The index is a place that the anchor asks for. An empty text has no place inside a word. -/
def Anchor.holds (text : Text) (index : Nat) : Anchor → Bool
  | .textStart => index == 0
  | .lineStart => index == 0 || text.chars[index - 1]? == some '\n'
  | .textEnd => index == text.length
  | .lineEnd => index == text.length || text.chars[index]? == some '\n'
  | .lastLineEnd =>
    index == text.length || (index + 1 == text.length && text.chars[index]? == some '\n')
  | .wordEdge ascii => Pattern.atWordEdge text ascii index
  | .insideWord ascii => text.length != 0 && !Pattern.atWordEdge text ascii index

namespace Pattern

namespace Step

def one (text : Text) (set : CharSet) : Step := fun trail rest memory =>
  match text.chars[trail.place]? with
  | some c =>
    if set.contains c then rest (trail.moveTo (trail.place + 1)) memory else .failure memory
  | none => .failure memory

/-- One step and then another. Ways through the first one may meet where the second begins. -/
def andThen (passing : Bool) (first second : Step) : Step := fun trail rest memory =>
  let (site, memory) := memory.newSite
  first trail
    (fun next memory => memory.enter passing ⟨site, 0, 0, next⟩ (second next rest)) memory

/-- One step, or another if that lets the rest not match. -/
def either (first second : Step) : Step := fun trail rest memory =>
  (first trail rest memory).orElse (second trail rest)

/-- The end of the characters of a set that stand in a row from an index on, up to a limit. -/
def runEnd (text : Text) (set : CharSet) : Nat → Nat → Nat
  | 0, index => index
  | limit + 1, index =>
    match text.chars[index]? with
    | some c => if set.contains c then runEnd text set limit (index + 1) else index
    | none => index

/-- Goes on from up to `spare` places after an index, from the last of them first. -/
def lastFirst (index : Nat) (trail : Trail) (rest : Rest) : Nat → Memory → Found
  | 0, memory => rest (trail.moveTo index) memory
  | spare + 1, memory =>
    (rest (trail.moveTo (index + (spare + 1))) memory).orElse
      (lastFirst index trail rest spare)

/-- Goes on from an index, else from the places after it as long as characters of a set stand
there, up to a limit. -/
def firstFirst (text : Text) (set : CharSet) (trail : Trail) (rest : Rest) :
    Nat → Nat → Memory → Found
  | 0, index, memory => rest (trail.moveTo index) memory
  | spare + 1, index, memory =>
    (rest (trail.moveTo index) memory).orElse fun memory =>
      if text.chars[index]?.any set.contains then
        firstFirst text set trail rest spare (index + 1) memory
      else .failure memory

/-- The most rounds that are left after those owed, with no more than there is room for. -/
def spareRounds (least : Nat) (most : Option Nat) (room : Nat) : Nat :=
  match most with
  | some most => min (most - least) room
  | none => room

def run (text : Text) (set : CharSet) (greedy : Bool) (least : Nat) (most : Option Nat) : Step :=
  fun trail rest memory =>
    let first := trail.place + least
    let spare := spareRounds least most (text.length - first)
    if runEnd text set least trail.place < first then .failure memory
    else if greedy then lastFirst first trail rest (runEnd text set spare first - first) memory
    else firstFirst text set trail rest spare first memory

def times (passing : Bool) (site : Nat) (step : Step) : Nat → Step
  | 0, trail, rest, memory => rest trail memory
  | n + 1, trail, rest, memory =>
    memory.enter passing ⟨site, n + 1, 0, trail⟩ fun memory =>
      step trail (fun next memory => times passing site step n next rest memory) memory

/-- A step taken up to a number of times. A round that consumes nothing is the last one, so no more
rounds count than there are characters left, and one. -/
def upTo (text : Text) (passing : Bool) (site : Nat) (greedy : Bool) (step : Step) : Nat → Step
  | 0, trail, rest, memory => rest trail memory
  | n + 1, trail, rest, memory =>
    let spare := min (n + 1) (text.length - trail.place + 1)
    memory.enter passing ⟨site, 0, spare, trail⟩ fun memory =>
      let again : Memory → Found := step trail fun next memory =>
        if next.place = trail.place then rest next memory
        else upTo text passing site greedy step n next rest memory
      if greedy then (again memory).orElse (rest trail)
      else (rest trail memory).orElse again

def rounds (text : Text) (passing greedy : Bool) (least : Nat) (most : Option Nat) (step : Step) :
    Step := fun trail rest memory =>
  let (site, memory) := memory.newSite
  times passing site step least trail
    (fun next memory =>
      let spare := spareRounds least most (text.length - next.place + 1)
      upTo text passing site greedy step spare next rest memory)
    memory

/-- A step whose stretch of the text is captured. -/
def capture (group : Nat) (step : Step) : Step := fun trail rest memory =>
  step trail (fun next memory => rest (next.capture group trail.place) memory) memory

def reference (text : Text) (group : Nat) (folding : Folding) : Step := fun trail rest memory =>
  match trail.captured? group with
  | some (start, stop) =>
    if sameText text folding (stop - start) start trail.place then
      rest (trail.moveTo (trail.place + (stop - start))) memory
    else .failure memory
  | none => .failure memory

/-- The first way through a step, whether or not it lets the rest match. -/
def atomic (step : Step) : Step := fun trail rest memory =>
  match step trail Found.success memory with
  | (some found, memory) => rest found memory
  | (none, memory) => .failure memory

/-- Goes on from the place of the trail if a look at the text from `start` comes out as wanted. -/
def look (positive : Bool) (start : Nat) (step : Step) : Step := fun trail rest memory =>
  match step (trail.moveTo start) Found.success memory with
  | (some found, memory) =>
    if positive then rest (found.moveTo trail.place) memory else .failure memory
  | (none, memory) => if positive then .failure memory else rest trail memory

def ahead (positive : Bool) (step : Step) : Step := fun trail rest memory =>
  look positive trail.place step trail rest memory

/-- Looks at the last `width` characters. With fewer before it nothing is found. -/
def behind (positive : Bool) (width : Nat) (step : Step) : Step := fun trail rest memory =>
  if width ≤ trail.place then look positive (trail.place - width) step trail rest memory
  else if positive then .failure memory
  else rest trail memory

def anchor (text : Text) (place : Anchor) : Step := fun trail rest memory =>
  if place.holds text trail.place then rest trail memory else .failure memory

end Step

end Pattern

end Descent
