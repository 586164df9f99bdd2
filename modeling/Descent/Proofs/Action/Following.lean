import Descent.Proofs.Action.Agreement
import Descent.Proofs.Parser.Result

set_option autoImplicit false

namespace Descent.Action

variable {σ α β γ δ : Type}

/-- Whatever the first action settles on in a session, the second one settles on in every session:
on a value that stands in the relation to that of the first, or on the same fault. -/
def Follows (values : α → β → Prop) (first : Action σ α) (second : Action σ β) : Prop :=
  ∀ session other outcome, Settles first session outcome →
    ∃ outcome', Settles second other outcome' ∧ SameEnd values outcome.result outcome'.result

namespace Follows

variable {values : α → β → Prop} {results : γ → δ → Prop}

theorem pure {x : α} {y : β} (related : values x y) :
    Follows values (Pure.pure x : Action σ α) (Pure.pure y : Action σ β) := by
  intro session other outcome settles
  obtain rfl := settles.unique (Settles.pure x session)
  exact ⟨_, Settles.pure y other, .value related⟩

theorem raise (fault : Fault) :
    Follows values (raise fault : Action σ α) (raise fault : Action σ β) := by
  intro session other outcome settles
  obtain rfl := settles.unique (Settles.raise fault session)
  exact ⟨_, Settles.raise fault other, .stopped _⟩

theorem bind {first : Action σ α} {second : Action σ β} {next : α → Action σ γ}
    {after : β → Action σ δ} (stable : Stable first) (follows : Follows values first second)
    (rest : ∀ x y, values x y → Follows results (next x) (after y)) :
    Follows results (first >>= next) (second >>= after) := by
  intro session other outcome settles
  obtain ⟨x, later, starts, goes⟩ | ⟨fault, later, faults, rfl⟩ := settles.of_bind stable
  · obtain ⟨outcome', settles', same⟩ := follows session other _ starts
    cases outcome' with
    | stopped reason later' => cases same
    | done y later' =>
      cases same with
      | value related =>
        obtain ⟨last, ends, alike⟩ := rest x y related later later' outcome goes
        exact ⟨last, settles'.bind ends, alike⟩
  · obtain ⟨outcome', settles', same⟩ := follows session other _ faults
    cases outcome' with
    | done y later' => cases same
    | stopped reason later' =>
      cases same
      exact ⟨_, settles'.bind_fault, .stopped _⟩

end Follows

end Descent.Action
