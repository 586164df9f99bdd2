import Descent.Parser.Basic

set_option autoImplicit false

namespace Descent

namespace Failure

/-- The places of the failure and of its causes, the outermost first. -/
def positions (failure : Failure) : List Int :=
  failure.chain.map Frame.pos

@[simp] theorem positions_leaf (pos : Int) (expected : Option String) :
    (leaf pos expected).positions = [pos] := rfl

theorem positions_anchor (failure : Failure) (pos : Int) :
    (failure.anchor pos).positions =
      if pos = failure.pos then failure.positions else pos :: failure.positions := by
  unfold anchor
  split <;> rfl

theorem positions_eq_cons (failure : Failure) :
    failure.positions = failure.pos :: failure.causes.map Frame.pos := rfl

/-- The innermost cause stands at the last of the places. -/
theorem deepestFrame_pos (failure : Failure) :
    failure.deepestFrame.pos = (failure.causes.map Frame.pos).getLastD failure.pos :=
  List.getLastD_map.symm

/-- Each cause lies after what it causes, and all lie in a text of the given length. -/
structure Descends (length : Int) (failure : Failure) : Prop where
  increasing : failure.positions.Pairwise (· < ·)
  inside : ∀ pos ∈ failure.positions, pos ≤ length

theorem leaf_descends {length pos : Int} (expected : Option String) (inside : pos ≤ length) :
    (leaf pos expected).Descends length := by
  refine ⟨List.pairwise_singleton _ _, ?_⟩
  intro place member
  rw [positions_leaf, List.mem_singleton] at member
  omega

theorem Descends.relabel {length : Int} {failure : Failure} (descends : failure.Descends length)
    (expected : String) : (failure.relabel expected).Descends length :=
  ⟨descends.increasing, descends.inside⟩

theorem Descends.pos_le {length : Int} {failure : Failure} (descends : failure.Descends length) :
    failure.pos ≤ length :=
  descends.inside failure.pos (by rw [positions_eq_cons]; exact List.mem_cons_self)

/-- The innermost cause stands no earlier than the failure is reported, and in the text. -/
theorem Descends.deepest_bounds {length : Int} {failure : Failure}
    (descends : failure.Descends length) :
    failure.pos ≤ failure.deepestFrame.pos ∧ failure.deepestFrame.pos ≤ length := by
  have increasing := descends.increasing
  have inside := descends.inside
  have last := failure.deepestFrame_pos
  rw [positions_eq_cons] at increasing inside
  have member : failure.deepestFrame.pos ∈ failure.pos :: failure.causes.map Frame.pos := by
    rw [last]
    exact List.getLastD_mem_cons
  refine ⟨?_, inside _ member⟩
  rcases List.mem_cons.mp member with same | deeper
  · exact Int.le_of_eq same.symm
  · exact Int.le_of_lt ((List.pairwise_cons.mp increasing).1 _ deeper)

/-- Re-anchoring no further on than the failure was reported puts the new place in front. -/
theorem Descends.anchor {length start : Int} {failure : Failure}
    (descends : failure.Descends length) (before : start ≤ failure.pos) :
    (failure.anchor start).Descends length := by
  by_cases same : start = failure.pos
  · rw [Failure.anchor, if_pos same]
    exact descends
  · have earlier : start < failure.pos := by omega
    have bound := descends.pos_le
    constructor
    · rw [positions_anchor, if_neg same, List.pairwise_cons]
      refine ⟨?_, descends.increasing⟩
      intro place member
      have later := descends.increasing
      rw [positions_eq_cons] at member later
      rcases List.mem_cons.mp member with rfl | deeper
      · exact earlier
      · exact Int.lt_trans earlier ((List.pairwise_cons.mp later).1 place deeper)
    · rw [positions_anchor, if_neg same]
      intro place member
      rcases List.mem_cons.mp member with rfl | deeper
      · omega
      · exact descends.inside place deeper

end Failure

namespace Reply

variable {α β : Type}

/-- The reply of a parser started at `start` stands where it should. -/
def Placed (length start : Int) : Reply α → Prop
  | success _ stop => start ≤ stop ∧ stop ≤ length
  | failure refusal => refusal.pos = start ∧ refusal.Descends length

/-- The reply is one of a part that was started at `start` or after it. -/
def Onward (length start : Int) : Reply α → Prop
  | success _ stop => start ≤ stop ∧ stop ≤ length
  | failure refusal => start ≤ refusal.pos ∧ refusal.Descends length

def Reached (length start : Int) : Reply α → Prop
  | success _ stop => start ≤ stop ∧ stop ≤ length
  | failure _ => False

variable {length start : Int} {reply : Reply α}

theorem Reached.placed (reached : reply.Reached length start) : reply.Placed length start := by
  cases reply with
  | success value stop => exact reached
  | failure refusal => exact reached.elim

theorem Reached.mapEarlier {before : Int} (f : α → β) (reached : reply.Reached length start)
    (le : before ≤ start) : (reply.map f).Reached length before := by
  cases reply with
  | success value stop => exact ⟨Int.le_trans le reached.1, reached.2⟩
  | failure refusal => exact reached.elim

theorem Placed.onward (placed : reply.Placed length start) : reply.Onward length start := by
  cases reply with
  | success value stop => exact placed
  | failure refusal => exact ⟨Int.le_of_eq placed.1.symm, placed.2⟩

theorem Onward.earlier {before : Int} (onward : reply.Onward length start)
    (le : before ≤ start) : reply.Onward length before := by
  cases reply with
  | success value stop => exact ⟨Int.le_trans le onward.1, onward.2⟩
  | failure refusal => exact ⟨Int.le_trans le onward.1, onward.2⟩

theorem Onward.anchor (onward : reply.Onward length start) :
    (reply.anchor start).Placed length start := by
  cases reply with
  | success value stop => exact onward
  | failure refusal => exact ⟨refusal.anchor_pos start, onward.2.anchor onward.1⟩

theorem Onward.map (f : α → β) (onward : reply.Onward length start) :
    (reply.map f).Onward length start := by
  cases reply with
  | success value stop => exact onward
  | failure refusal => exact onward

theorem Placed.map (f : α → β) (placed : reply.Placed length start) :
    (reply.map f).Placed length start := by
  cases reply with
  | success value stop => exact placed
  | failure refusal => exact placed

end Reply

end Descent
