import Descent.Action

set_option autoImplicit false

namespace Descent

variable {σ α β : Type}

/-- The outcome says more than that the budget did not suffice. -/
def Outcome.Settled : Outcome σ α → Prop
  | .stopped .exhausted _ => False
  | _ => True

@[simp] theorem Outcome.not_settled_exhausted (session : Session σ) :
    ¬ (Outcome.stopped .exhausted session : Outcome σ α).Settled := id

namespace Action

/-- What the first action settles with little budget, the second settles alike with more. -/
def Extends (little more : Nat) (first second : Action σ α) : Prop :=
  ∀ session, (first little session).Settled → second more session = first little session

def Stable (action : Action σ α) : Prop :=
  ∀ little more, little ≤ more → Extends little more action action

variable {little more : Nat}

theorem pure_extends (value : α) : Extends little more (pure value : Action σ α) (pure value) :=
  fun _ _ => rfl

theorem raise_extends (fault : Fault) :
    Extends little more (raise fault : Action σ α) (raise fault) :=
  fun _ _ => rfl

theorem record_extends (event : Event) :
    Extends little more (record event : Action σ Unit) (record event) :=
  fun _ _ => rfl

theorem ofExcept_extends (result : Except Fault α) :
    Extends little more (ofExcept result : Action σ α) (ofExcept result) := by
  cases result with
  | ok value => exact pure_extends value
  | error fault => exact raise_extends fault

theorem exhausted_extends (action : Action σ α) : Extends little more exhausted action := by
  intro session settled
  exact (Outcome.not_settled_exhausted session settled).elim

theorem Extends.bind {first second : Action σ α} {next after : α → Action σ β}
    (starts : Extends little more first second)
    (goes : ∀ value, Extends little more (next value) (after value)) :
    Extends little more (first >>= next) (second >>= after) := by
  intro session settled
  rw [bind_apply] at settled ⊢
  rw [bind_apply]
  cases ran : first little session with
  | done value reached =>
    rw [ran] at settled
    have same := starts session (by rw [ran]; trivial)
    rw [same, ran]
    exact goes value reached settled
  | stopped reason reached =>
    rw [ran] at settled
    cases reason with
    | exhausted => exact settled.elim
    | fault fault =>
      have same := starts session (by rw [ran]; trivial)
      rw [same, ran]

/-- With every budget from some bound on the action comes to this outcome, which is not for want of
budget. -/
def Settles (action : Action σ α) (session : Session σ) (outcome : Outcome σ α) : Prop :=
  outcome.Settled ∧ ∃ bound, ∀ budget, bound ≤ budget → action budget session = outcome

theorem settles_of_ran {action : Action σ α} {session : Session σ} {outcome : Outcome σ α}
    {budget : Nat}
    (stable : Stable action) (ran : action budget session = outcome) (settled : outcome.Settled) :
    Settles action session outcome := by
  refine ⟨settled, budget, ?_⟩
  intro more enough
  rw [← ran]
  exact stable budget more enough session (by rw [ran]; exact settled)

theorem Settles.ran {action : Action σ α} {session : Session σ} {outcome : Outcome σ α}
    (settles : Settles action session outcome) : ∃ budget, action budget session = outcome := by
  obtain ⟨_, bound, comes⟩ := settles
  exact ⟨bound, comes bound (Nat.le_refl _)⟩

/-- An action settles on one outcome at most. -/
theorem Settles.unique {action : Action σ α} {session : Session σ} {first second : Outcome σ α}
    (one : Settles action session first) (other : Settles action session second) :
    first = second := by
  obtain ⟨_, bound, comes⟩ := one
  obtain ⟨_, other_bound, other_comes⟩ := other
  rw [← comes (max bound other_bound) (Nat.le_max_left _ _),
    other_comes _ (Nat.le_max_right _ _)]

theorem Settles.pure (value : α) (session : Session σ) :
    Settles (Pure.pure value : Action σ α) session (.done value session) :=
  ⟨trivial, 0, fun _ _ => rfl⟩

theorem Settles.raise (fault : Fault) (session : Session σ) :
    Settles (raise fault : Action σ α) session (.stopped (.fault fault) session) :=
  ⟨trivial, 0, fun _ _ => rfl⟩

theorem Settles.bind {action : Action σ α} {next : α → Action σ β} {session reached : Session σ}
    {value : α} {outcome : Outcome σ β} (first : Settles action session (.done value reached))
    (rest : Settles (next value) reached outcome) : Settles (action >>= next) session outcome := by
  obtain ⟨_, bound, comes⟩ := first
  obtain ⟨settled, rest_bound, goes⟩ := rest
  refine ⟨settled, max bound rest_bound, ?_⟩
  intro budget enough
  rw [bind_apply, comes budget (by omega)]
  exact goes budget (by omega)

theorem Settles.bind_fault {action : Action σ α} {next : α → Action σ β}
    {session reached : Session σ}
    {fault : Fault} (first : Settles action session (.stopped (.fault fault) reached)) :
    Settles (action >>= next) session (.stopped (.fault fault) reached) := by
  obtain ⟨_, bound, comes⟩ := first
  refine ⟨trivial, bound, ?_⟩
  intro budget enough
  rw [bind_apply, comes budget enough]

end Action

end Descent
