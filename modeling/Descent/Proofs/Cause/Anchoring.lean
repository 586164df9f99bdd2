import Descent.Proofs.Sequencing.Reports

set_option autoImplicit false

namespace Descent.Failure

/-- The failure reported at each of the places in turn. -/
def anchorAll (failure : Failure) (places : List Int) : Failure :=
  places.foldl anchor failure

/-- The places that differ from the one before them. Before the first of them comes `start`. -/
def moves (start : Int) (places : List Int) : List Int :=
  ((start :: places).zip places).filterMap fun (before, place) =>
    if place = before then none else some place

theorem chain_anchor_of_ne {failure : Failure} {place : Int} (other : place ≠ failure.pos) :
    (failure.anchor place).chain = ⟨place, failure.expected⟩ :: failure.chain := by
  rw [anchor, if_neg other]
  rfl

theorem moves_cons_self (place : Int) (rest : List Int) :
    moves place (place :: rest) = moves place rest := by
  simp [moves]

theorem moves_cons_of_ne {start place : Int} (other : place ≠ start) (rest : List Int) :
    moves start (place :: rest) = place :: moves place rest := by
  simp [moves, other]

theorem anchorAll_cons (failure : Failure) (place : Int) (rest : List Int) :
    failure.anchorAll (place :: rest) = (failure.anchor place).anchorAll rest :=
  rfl

theorem pos_anchorAll (failure : Failure) (places : List Int) :
    (failure.anchorAll places).pos = places.getLastD failure.pos := by
  induction places generalizing failure with
  | nil => rfl
  | cons place rest ih => rw [anchorAll_cons, ih, anchor_pos, List.getLastD_cons]

theorem deepest_anchorAll (failure : Failure) (places : List Int) :
    (failure.anchorAll places).deepest = failure.deepest := by
  induction places generalizing failure with
  | nil => rfl
  | cons place rest ih => rw [anchorAll_cons, ih, deepest_anchor]

theorem chain_anchorAll (failure : Failure) (places : List Int) :
    (failure.anchorAll places).chain =
      (moves failure.pos places).reverse.map (fun place => ⟨place, failure.expected⟩) ++
        failure.chain := by
  -- whether a place adds a frame depends on the failure so far, so that is left general
  induction places generalizing failure with
  | nil => rfl
  | cons place rest ih =>
    have later := ih (failure.anchor place)
    rw [anchor_pos, anchor_expected] at later
    rw [anchorAll_cons, later]
    by_cases same : place = failure.pos
    · rw [same, anchor_self, moves_cons_self]
    · rw [chain_anchor_of_ne same, moves_cons_of_ne same, List.reverse_cons, List.map_append,
        List.append_assoc]
      rfl

/-- Reports of a failure at other places only add frames in front of it. There is one frame for each
place that differs from the one before, the latest first, and each expects what the failure itself
expects. The failure ends up at the last place; its innermost cause and every report to the user
stay the same. -/
theorem anchors_add_frames (failure : Failure) (places : List Int) :
    let moved := failure.anchorAll places
    moved.chain = (moves failure.pos places).reverse.map (fun place => ⟨place, failure.expected⟩) ++
      failure.chain ∧
    moved.pos = places.getLastD failure.pos ∧ moved.deepest = failure.deepest ∧
    ∀ (text : Text) (source : String),
      ParseError.ofFailure moved text source = ParseError.ofFailure failure text source := by
  intro moved
  have deepest := deepest_anchorAll failure places
  exact ⟨chain_anchorAll failure places, pos_anchorAll failure places, deepest,
    ParseError.ofFailure_congr deepest⟩

example : ((leaf 4 (some "digit")).anchorAll [4, 0, 0, 4]).chain =
    [⟨4, some "digit"⟩, ⟨0, some "digit"⟩, ⟨4, some "digit"⟩] := by
  decide

end Descent.Failure
