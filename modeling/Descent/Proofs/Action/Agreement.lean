import Descent.Proofs.Action.Promise

set_option autoImplicit false

namespace Descent.Action

variable {σ α β : Type}

/-- In every session the actions settle alike. -/
def Agree (first second : Action σ α) : Prop :=
  ∀ session outcome, Settles first session outcome ↔ Settles second session outcome

namespace Agree

theorem refl (action : Action σ α) : Agree action action :=
  fun _ _ => Iff.rfl

theorem symm {first second : Action σ α} (agree : Agree first second) : Agree second first :=
  fun session outcome => (agree session outcome).symm

theorem trans {first second third : Action σ α} (one : Agree first second)
    (two : Agree second third) : Agree first third :=
  fun session outcome => (one session outcome).trans (two session outcome)

theorem of_eq {first second : Action σ α} (same : first = second) : Agree first second :=
  same ▸ refl first

theorem ensures {first second : Action σ α} {good : α → Prop} (agree : Agree first second)
    (stable : Stable second) (ensures : Ensures first good) : Ensures second good :=
  fun _ session _ _ ran =>
    ((agree session _).mpr (settles_of_ran stable ran trivial)).ensured ensures

end Agree

/-- Two stable actions agree if each settles wherever the other does, and alike. -/
theorem agree_of_settles {first second : Action σ α}
    (onward : ∀ session outcome, Settles first session outcome → Settles second session outcome)
    (back : ∀ session outcome, Settles second session outcome →
      ∃ other, Settles first session other) :
    Agree first second := by
  intro session outcome
  constructor
  · exact onward session outcome
  · intro settles
    obtain ⟨other, reaches⟩ := back session outcome settles
    rwa [(onward session other reaches).unique settles] at reaches

/-- A run of one action after another that comes to a value is a run of the first and one of the
second. -/
theorem done_of_bind {action : Action σ α} {next : α → Action σ β} {budget : Nat}
    {session reached : Session σ} {result : β}
    (ran : (action >>= next) budget session = .done result reached) :
    ∃ value later, action budget session = .done value later ∧
      next value budget later = .done result reached := by
  rw [bind_apply] at ran
  cases started : action budget session with
  | done value later =>
    rw [started] at ran
    exact ⟨value, later, rfl, ran⟩
  | stopped reason later =>
    rw [started] at ran
    cases ran

/-- One action after another settles if the first does: on a fault, which is that of both, or on a
value, and what comes after it settles on the outcome of both. -/
theorem Settles.of_bind {action : Action σ α} {next : α → Action σ β} {session : Session σ}
    {outcome : Outcome σ β} (stable : Stable action)
    (settles : Settles (action >>= next) session outcome) :
    (∃ value later, Settles action session (.done value later) ∧
      Settles (next value) later outcome) ∨
    ∃ fault later, Settles action session (.stopped (.fault fault) later) ∧
      outcome = .stopped (.fault fault) later := by
  obtain ⟨settled, bound, comes⟩ := settles
  have ran := comes bound (Nat.le_refl _)
  rw [bind_apply] at ran
  cases started : action bound session with
  | done value later =>
    have first := settles_of_ran stable started trivial
    refine .inl ⟨value, later, first, settled, bound, ?_⟩
    intro budget enough
    have more := comes budget enough
    rwa [bind_apply, stable bound budget enough session (by rw [started]; trivial), started] at more
  | stopped reason later =>
    rw [started] at ran
    subst ran
    cases reason with
    | fault fault => exact .inr ⟨fault, later, settles_of_ran stable started trivial, rfl⟩
    | exhausted => exact settled.elim

theorem Settles.bind_congr {first second : Action σ α} {next after : α → Action σ β}
    {good : α → Prop} {session : Session σ} {outcome : Outcome σ β} (stable : Stable first)
    (onward : ∀ session outcome, Settles first session outcome → Settles second session outcome)
    (ensures : Ensures first good)
    (rest : ∀ value, good value → ∀ session outcome, Settles (next value) session outcome →
      Settles (after value) session outcome)
    (settles : Settles (first >>= next) session outcome) :
    Settles (second >>= after) session outcome := by
  obtain ⟨value, later, starts, goes⟩ | ⟨fault, later, faults, rfl⟩ := settles.of_bind stable
  · have holds := starts.ensured ensures
    exact (onward _ _ starts).bind (rest value holds _ _ goes)
  · exact (onward _ _ faults).bind_fault

/-- After actions that agree, only what the first one ensures counts. -/
theorem Agree.bind {first second : Action σ α} {next after : α → Action σ β} {good : α → Prop}
    (stable : Stable first) (stable_second : Stable second) (agree : Agree first second)
    (ensures : Ensures first good) (rest : ∀ value, good value → Agree (next value) (after value)) :
    Agree (first >>= next) (second >>= after) := by
  intro session outcome
  constructor
  · exact Settles.bind_congr stable (fun _ _ => (agree _ _).mp) ensures
      fun value holds _ _ => (rest value holds _ _).mp
  · exact Settles.bind_congr stable_second (fun _ _ => (agree _ _).mpr)
      (agree.ensures stable_second ensures) fun value holds _ _ => (rest value holds _ _).mpr

/-- What is done after an action agrees if it does for each value that the action ensures. -/
theorem Agree.bind_right {action : Action σ α} {next after : α → Action σ β} {good : α → Prop}
    (stable : Stable action) (ensures : Ensures action good)
    (rest : ∀ value, good value → Agree (next value) (after value)) :
    Agree (action >>= next) (action >>= after) :=
  .bind stable stable (.refl action) ensures rest

/-- Actions that agree may be replaced by one another before the same action. -/
theorem Agree.bind_left {first second : Action σ α} (next : α → Action σ β) (stable : Stable first)
    (stable_second : Stable second) (agree : Agree first second) :
    Agree (first >>= next) (second >>= next) :=
  .bind stable stable_second agree (Ensures.always first) fun value _ => .refl (next value)

end Descent.Action
