set_option autoImplicit false

namespace Descent

/-- A place where a match was refused, and what was expected there. -/
structure Frame where
  pos : Int
  expected : Option String
  deriving DecidableEq, Repr, Inhabited

/-- A failure: the frame it is reported with, and the frames of its causes, the latest first. A
composite parser reports a failure at its own start and keeps what it re-anchored as the cause. -/
structure Failure where
  frame : Frame
  causes : List Frame
  deriving DecidableEq, Repr, Inhabited

namespace Failure

/-- A failure without a cause. -/
def leaf (pos : Int) (expected : Option String) : Failure :=
  ⟨⟨pos, expected⟩, []⟩

def pos (failure : Failure) : Int :=
  failure.frame.pos

def expected (failure : Failure) : Option String :=
  failure.frame.expected

/-- The frames of the failure and of its causes, the outermost first. -/
def chain (failure : Failure) : List Frame :=
  failure.frame :: failure.causes

/-- The failure reported at `pos`, with the former report as its cause. Nothing changes if it is
reported there already. -/
def anchor (failure : Failure) (pos : Int) : Failure :=
  if pos = failure.pos then failure
  else ⟨⟨pos, failure.expected⟩, failure.chain⟩

def deepestFrame (failure : Failure) : Frame :=
  failure.causes.getLastD failure.frame

/-- The innermost cause: the failure itself if it has none. -/
def deepest (failure : Failure) : Failure :=
  ⟨failure.deepestFrame, []⟩

/-- The failure with another text for what was expected; its place and its causes stay. -/
def relabel (failure : Failure) (expected : String) : Failure :=
  ⟨⟨failure.pos, some expected⟩, failure.causes⟩

/-- The failure with the given frames, the first of them outermost. -/
def ofChain? : List Frame → Option Failure
  | [] => none
  | frame :: causes => some ⟨frame, causes⟩

@[simp] theorem anchor_pos (failure : Failure) (pos : Int) : (failure.anchor pos).pos = pos := by
  unfold anchor
  split
  · next same => exact same.symm
  · rfl

@[simp] theorem anchor_expected (failure : Failure) (pos : Int) :
    (failure.anchor pos).expected = failure.expected := by
  unfold anchor
  split <;> rfl

@[simp] theorem anchor_self (failure : Failure) : failure.anchor failure.pos = failure := by
  simp [anchor]

@[simp] theorem anchor_anchor (failure : Failure) (pos : Int) :
    (failure.anchor pos).anchor pos = failure.anchor pos := by
  have same : pos = (failure.anchor pos).pos := (anchor_pos failure pos).symm
  rw [anchor, if_pos same]

@[simp] theorem deepestFrame_anchor (failure : Failure) (pos : Int) :
    (failure.anchor pos).deepestFrame = failure.deepestFrame := by
  unfold anchor
  split
  · rfl
  · obtain ⟨frame, causes⟩ := failure
    cases causes with
    | nil => rfl
    | cons first rest => rfl

@[simp] theorem deepest_anchor (failure : Failure) (pos : Int) :
    (failure.anchor pos).deepest = failure.deepest := by
  simp [deepest]

end Failure

end Descent
