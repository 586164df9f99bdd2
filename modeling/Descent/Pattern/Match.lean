import Descent.Pattern.Step

set_option autoImplicit false

namespace Descent.Pattern

/-- How a part of a pattern leads on from a trail: in one way at most, in several ways to different
trails, or in several ways that may meet. -/
inductive Reach where
  | single
  | distinct
  | meeting
  deriving DecidableEq, Repr

namespace Reach

def andThen : Reach → Reach → Reach
  | single, second => second
  | distinct, _ => meeting
  | meeting, _ => meeting

def rounds (least : Nat) (most : Option Nat) : Reach → Reach
  | single => if most = some least then single else distinct
  | distinct => meeting
  | meeting => meeting

end Reach

/-- A part of a pattern made ready for a text: how it leads on, the set it takes a character of, if
that is all it does, and the step. -/
structure Machine where
  reach : Reach
  set? : Option CharSet
  step : Step

/-- The pattern made ready for a text. Only the captures of the groups in `kept` are recorded. -/
def machine (text : Text) (kept : List Nat) : Pattern → Machine
  | .empty => ⟨.single, none, fun trail rest memory => rest trail memory⟩
  | .one set => ⟨.single, some set, Step.one text set⟩
  | .seq p q =>
    let first := machine text kept p
    let second := machine text kept q
    ⟨first.reach.andThen second.reach, none,
      Step.andThen (first.reach != .meeting) first.step second.step⟩
  | .alt p q =>
    ⟨.meeting, none, Step.either (machine text kept p).step (machine text kept q).step⟩
  | .repeated greedy least most p =>
    let body := machine text kept p
    ⟨body.reach.rounds least most, none,
      match body.set? with
      | some set => Step.run text set greedy least most
      | none => Step.rounds text (body.reach == .single) greedy least most body.step⟩
  | .capture group p =>
    let body := machine text kept p
    if kept.contains group then ⟨body.reach, none, Step.capture group body.step⟩ else body
  | .reference group folding => ⟨.single, none, Step.reference text group folding⟩
  | .atomic p => ⟨.single, none, Step.atomic (machine text kept p).step⟩
  | .ahead positive p => ⟨.single, none, Step.ahead positive (machine text kept p).step⟩
  | .behind positive width p =>
    ⟨.single, none, Step.behind positive width (machine text kept p).step⟩
  | .anchor place => ⟨.single, none, Step.anchor text place⟩

/-- The end of the match at an index, if there is one. Nothing matches where fewer characters are
left than every match has. -/
def matchEnd? (pattern : Pattern) (text : Text) (start : Nat) : Option Nat :=
  if text.length < start + pattern.leastWidth then none
  else
    let step := (machine text pattern.references pattern).step
    (step ⟨start, []⟩ Found.success .blank).1.map Trail.place

end Descent.Pattern
