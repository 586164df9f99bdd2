import Descent.Proofs.Action.Budget

set_option autoImplicit false

namespace Descent.Action

variable {σ α β : Type}

/-- Every value that the action comes to has the property. -/
def Ensures (action : Action σ α) (good : α → Prop) : Prop :=
  ∀ budget session value reached, action budget session = .done value reached → good value

theorem Ensures.mono {action : Action σ α} {good better : α → Prop} (ensures : Ensures action good)
    (weaker : ∀ value, good value → better value) : Ensures action better :=
  fun budget session value reached ran => weaker value (ensures budget session value reached ran)

theorem Ensures.and {action : Action σ α} {good other : α → Prop} (one : Ensures action good)
    (two : Ensures action other) : Ensures action fun value => good value ∧ other value :=
  fun budget session value reached ran =>
    ⟨one budget session value reached ran, two budget session value reached ran⟩

theorem Ensures.pure {value : α} {good : α → Prop} (holds : good value) :
    Ensures (Pure.pure value : Action σ α) good := by
  intro budget session result reached ran
  rw [pure_apply] at ran
  cases ran
  exact holds

theorem Ensures.raise (fault : Fault) (good : α → Prop) :
    Ensures (raise fault : Action σ α) good := by
  intro budget session result reached ran
  cases ran

theorem Ensures.exhausted (good : α → Prop) : Ensures (exhausted : Action σ α) good := by
  intro budget session result reached ran
  cases ran

theorem Ensures.ofExcept {result : Except Fault α} {good : α → Prop}
    (holds : ∀ value, result = .ok value → good value) :
    Ensures (ofExcept result : Action σ α) good := by
  cases result with
  | ok value => exact Ensures.pure (holds value rfl)
  | error fault => exact Ensures.raise fault good

theorem Ensures.bind {action : Action σ α} {next : α → Action σ β} {between : α → Prop}
    {good : β → Prop} (first : Ensures action between)
    (rest : ∀ value, between value → Ensures (next value) good) :
    Ensures (action >>= next) good := by
  intro budget session result reached ran
  rw [bind_apply] at ran
  cases started : action budget session with
  | done value later =>
    rw [started] at ran
    exact rest value (first budget session value later started) budget later result reached ran
  | stopped reason later =>
    rw [started] at ran
    cases ran

/-- After an action only what it ensures counts. -/
theorem Ensures.bind_congr {action : Action σ α} {next other : α → Action σ β} {good : α → Prop}
    (ensures : Ensures action good) (same : ∀ value, good value → next value = other value) :
    action >>= next = action >>= other := by
  funext budget session
  rw [bind_apply, bind_apply]
  cases ran : action budget session with
  | done value later =>
    dsimp only
    rw [same value (ensures budget session value later ran)]
  | stopped reason later => rfl

theorem Ensures.always (action : Action σ α) : Ensures action fun _ => True :=
  fun _ _ _ _ _ => trivial

/-- In every session the action settles on a value with the property. -/
def Yields (action : Action σ α) (good : α → Prop) : Prop :=
  ∀ session, ∃ value reached, Settles action session (.done value reached) ∧ good value

theorem Yields.mono {action : Action σ α} {good better : α → Prop} (yields : Yields action good)
    (weaker : ∀ value, good value → better value) : Yields action better := by
  intro session
  obtain ⟨value, reached, settles, holds⟩ := yields session
  exact ⟨value, reached, settles, weaker value holds⟩

theorem Yields.pure {value : α} {good : α → Prop} (holds : good value) :
    Yields (Pure.pure value : Action σ α) good :=
  fun session => ⟨value, session, Settles.pure value session, holds⟩

theorem Yields.bind {action : Action σ α} {next : α → Action σ β} {between : α → Prop}
    {good : β → Prop} (first : Yields action between)
    (rest : ∀ value, between value → Yields (next value) good) :
    Yields (action >>= next) good := by
  intro session
  obtain ⟨value, later, settles, holds⟩ := first session
  obtain ⟨result, reached, ends, wanted⟩ := rest value holds later
  exact ⟨result, reached, settles.bind ends, wanted⟩

/-- If an action with something done to its value settles, so does the action. -/
theorem Yields.before {action : Action σ α} {f : α → β} {good : β → Prop} (stable : Stable action)
    (yields : Yields (action >>= fun value => Pure.pure (f value)) good) :
    Yields action fun value => good (f value) := by
  intro session
  obtain ⟨result, reached, settles, holds⟩ := yields session
  obtain ⟨budget, ran⟩ := settles.ran
  rw [bind_apply] at ran
  cases started : action budget session with
  | done value later =>
    rw [started] at ran
    cases ran
    exact ⟨value, _, settles_of_ran stable started trivial, holds⟩
  | stopped reason later =>
    rw [started] at ran
    cases ran

/-- What an action ensures holds of the value it settles on. -/
theorem Settles.ensured {action : Action σ α} {session reached : Session σ} {value : α}
    {good : α → Prop} (settles : Settles action session (.done value reached))
    (ensures : Ensures action good) : good value := by
  obtain ⟨budget, ran⟩ := settles.ran
  exact ensures budget session value reached ran

def Halts (action : Action σ α) : Prop :=
  ∀ session, ∃ outcome, Settles action session outcome

theorem Halts.pure (value : α) : Halts (Pure.pure value : Action σ α) :=
  fun session => ⟨_, Settles.pure value session⟩

theorem Halts.raise (fault : Fault) : Halts (Action.raise fault : Action σ α) :=
  fun session => ⟨_, Settles.raise fault session⟩

theorem Halts.record (event : Event) : Halts (Action.record event : Action σ Unit) :=
  fun session => ⟨.done () (session.record event), trivial, 0, fun _ _ => rfl⟩

theorem Halts.ofExcept (result : Except Fault α) : Halts (ofExcept result : Action σ α) := by
  cases result with
  | ok value => exact Halts.pure value
  | error fault => exact Halts.raise fault

theorem Halts.bind {action : Action σ α} {next : α → Action σ β} {between : α → Prop}
    (first : Halts action) (ensures : Ensures action between)
    (rest : ∀ value, between value → Halts (next value)) : Halts (action >>= next) := by
  intro session
  obtain ⟨outcome, settles⟩ := first session
  cases outcome with
  | done value later =>
    obtain ⟨result, ends⟩ := rest value (settles.ensured ensures) later
    exact ⟨result, settles.bind ends⟩
  | stopped reason later =>
    cases reason with
    | exhausted => exact settles.1.elim
    | fault fault => exact ⟨_, settles.bind_fault⟩

theorem Halts.andThen {action : Action σ α} {next : α → Action σ β} (first : Halts action)
    (rest : ∀ value, Halts (next value)) : Halts (action >>= next) :=
  first.bind (Ensures.always action) fun value _ => rest value

/-- In every session the action settles, on a value with the first property or on a fault with the
second. -/
def Comes (action : Action σ α) (good : α → Prop) (bad : Fault → Prop) : Prop :=
  ∀ session, (∃ value reached, Settles action session (.done value reached) ∧ good value) ∨
    ∃ fault reached, Settles action session (.stopped (.fault fault) reached) ∧ bad fault

theorem Yields.comes {action : Action σ α} {good : α → Prop} (yields : Yields action good)
    (bad : Fault → Prop) : Comes action good bad :=
  fun session => .inl (yields session)

theorem Comes.mono {action : Action σ α} {good better : α → Prop} {bad worse : Fault → Prop}
    (comes : Comes action good bad) (weaker : ∀ value, good value → better value)
    (weaker_fault : ∀ fault, bad fault → worse fault) : Comes action better worse := by
  intro session
  obtain ⟨value, reached, settles, holds⟩ | ⟨fault, reached, settles, holds⟩ := comes session
  · exact .inl ⟨value, reached, settles, weaker value holds⟩
  · exact .inr ⟨fault, reached, settles, weaker_fault fault holds⟩

theorem Comes.pure {value : α} {good : α → Prop} {bad : Fault → Prop} (holds : good value) :
    Comes (Pure.pure value : Action σ α) good bad :=
  (Yields.pure holds).comes bad

theorem Comes.raise {fault : Fault} {good : α → Prop} {bad : Fault → Prop} (holds : bad fault) :
    Comes (Action.raise fault : Action σ α) good bad :=
  fun session => .inr ⟨fault, session, Settles.raise fault session, holds⟩

theorem Comes.ofExcept {result : Except Fault α} {good : α → Prop} {bad : Fault → Prop}
    (ok : ∀ value, result = .ok value → good value)
    (error : ∀ fault, result = .error fault → bad fault) :
    Comes (ofExcept result : Action σ α) good bad := by
  cases result with
  | ok value => exact Comes.pure (ok value rfl)
  | error fault => exact Comes.raise (error fault rfl)

theorem Comes.bind {action : Action σ α} {next : α → Action σ β} {between : α → Prop}
    {good : β → Prop} {bad : Fault → Prop} (first : Comes action between bad)
    (rest : ∀ value, between value → Comes (next value) good bad) :
    Comes (action >>= next) good bad := by
  intro session
  obtain ⟨value, later, settles, holds⟩ | ⟨fault, reached, settles, holds⟩ := first session
  · obtain ⟨result, reached, ends, wanted⟩ | ⟨fault, reached, ends, wanted⟩ :=
      rest value holds later
    · exact .inl ⟨result, reached, settles.bind ends, wanted⟩
    · exact .inr ⟨fault, reached, settles.bind ends, wanted⟩
  · exact .inr ⟨fault, reached, settles.bind_fault, holds⟩

end Descent.Action
