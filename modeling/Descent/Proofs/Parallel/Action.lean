import Descent.Action

set_option autoImplicit false

namespace Descent

/-- What goes together in two runs side by side: the sessions of runs that go on, and the faults
that end both with the sessions that they leave. -/
structure Pairing (σ τ : Type) where
  sessions : Session σ → Session τ → Prop
  stops : Fault → Session σ → Fault → Session τ → Prop

namespace Pairing

variable {σ τ α β γ δ : Type}

/-- Raising the faults in sessions that go together ends both runs. -/
def faults (pairing : Pairing σ τ) (fault fault' : Fault) : Prop :=
  ∀ s t, pairing.sessions s t → pairing.stops fault s fault' t

inductive Outcomes (pairing : Pairing σ τ) (values : α → β → Prop) :
    Outcome σ α → Outcome τ β → Prop where
  | done {x : α} {y : β} {s : Session σ} {t : Session τ} (together : values x y)
      (sessions : pairing.sessions s t) :
      Outcomes pairing values (.done x s) (.done y t)
  | fault {fault fault' : Fault} {s : Session σ} {t : Session τ}
      (together : pairing.stops fault s fault' t) :
      Outcomes pairing values (.stopped (.fault fault) s) (.stopped (.fault fault') t)
  | exhausted {s : Session σ} {t : Session τ} (sessions : pairing.sessions s t) :
      Outcomes pairing values (.stopped .exhausted s) (.stopped .exhausted t)

/-- The two results go together: both are values, or both are faults. -/
inductive Results (pairing : Pairing σ τ) (values : α → β → Prop) :
    Except Fault α → Except Fault β → Prop where
  | ok {x : α} {y : β} (together : values x y) : Results pairing values (.ok x) (.ok y)
  | error {fault fault' : Fault} (together : pairing.faults fault fault') :
      Results pairing values (.error fault) (.error fault')

/-- From sessions that go together the two actions come to outcomes that do. -/
def Actions (pairing : Pairing σ τ) (values : α → β → Prop) (first : Action σ α)
    (second : Action τ β) : Prop :=
  ∀ budget s t, pairing.sessions s t →
    pairing.Outcomes values (first budget s) (second budget t)

variable {pairing : Pairing σ τ} {values : α → β → Prop} {results : γ → δ → Prop}

theorem Outcomes.mono {weaker : α → β → Prop} {first : Outcome σ α} {second : Outcome τ β}
    (together : pairing.Outcomes values first second) (weaken : ∀ x y, values x y → weaker x y) :
    pairing.Outcomes weaker first second := by
  cases together with
  | done holds sessions => exact .done (weaken _ _ holds) sessions
  | fault holds => exact .fault holds
  | exhausted sessions => exact .exhausted sessions

namespace Actions

theorem mono {weaker : α → β → Prop} {first : Action σ α} {second : Action τ β}
    (together : pairing.Actions values first second) (weaken : ∀ x y, values x y → weaker x y) :
    pairing.Actions weaker first second :=
  fun budget s t sessions => (together budget s t sessions).mono weaken

theorem pure {x : α} {y : β} (together : values x y) :
    pairing.Actions values (Pure.pure x) (Pure.pure y) :=
  fun _ _ _ sessions => .done together sessions

theorem raise {fault fault' : Fault} (together : pairing.faults fault fault') :
    pairing.Actions values (Action.raise fault) (Action.raise fault') :=
  fun _ s t sessions => .fault (together s t sessions)

theorem exhausted : pairing.Actions values Action.exhausted Action.exhausted :=
  fun _ _ _ sessions => .exhausted sessions

theorem record {event event' : Event}
    (kept : ∀ s t, pairing.sessions s t → pairing.sessions (s.record event) (t.record event')) :
    pairing.Actions (fun _ _ => True) (Action.record event) (Action.record event') :=
  fun _ s t sessions => .done trivial (kept s t sessions)

theorem ofExcept {first : Except Fault α} {second : Except Fault β}
    (together : pairing.Results values first second) :
    pairing.Actions values (Action.ofExcept first) (Action.ofExcept second) := by
  cases together with
  | ok holds => exact pure holds
  | error holds => exact raise holds

theorem bind {first : Action σ α} {second : Action τ β} {next : α → Action σ γ}
    {next' : β → Action τ δ} (together : pairing.Actions values first second)
    (rest : ∀ x y, values x y → pairing.Actions results (next x) (next' y)) :
    pairing.Actions results (first >>= next) (second >>= next') := by
  intro budget s t sessions
  have outcomes := together budget s t sessions
  rw [Action.bind_apply, Action.bind_apply]
  generalize first budget s = came, second budget t = came' at outcomes
  cases outcomes with
  | done holds later => exact rest _ _ holds budget _ _ later
  | fault holds => exact .fault holds
  | exhausted later => exact .exhausted later

end Actions

/-- The value may be changed on the first side only. -/
theorem Results.map_first {f : α → γ} {others : γ → β → Prop} {first : Except Fault α}
    {second : Except Fault β} (together : pairing.Results values first second)
    (maps : ∀ x y, values x y → others (f x) y) :
    pairing.Results others (first.map f) second := by
  cases together with
  | ok holds => exact .ok (maps _ _ holds)
  | error holds => exact .error holds

/-- One step of an evaluation after another keeps results together. -/
theorem Results.bind {first : Except Fault α} {second : Except Fault β}
    {next : α → Except Fault γ} {next' : β → Except Fault δ}
    (together : pairing.Results values first second)
    (rest : ∀ x y, values x y → pairing.Results results (next x) (next' y)) :
    pairing.Results results (first >>= next) (second >>= next') := by
  cases together with
  | ok holds => exact rest _ _ holds
  | error holds => exact .error holds

end Pairing

end Descent
