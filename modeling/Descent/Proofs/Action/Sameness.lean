import Descent.Action

set_option autoImplicit false

namespace Descent

/-- The two outcomes leave the same session, and either both runs go on, with values that stand in
the relation, or both end for the same reason. -/
inductive Outcome.Same {σ α : Type} (values : α → α → Prop) : Outcome σ α → Outcome σ α → Prop where
  | done {x y : α} {session : Session σ} (related : values x y) :
      Same values (.done x session) (.done y session)
  | stopped (reason : Stop) (session : Session σ) :
      Same values (.stopped reason session) (.stopped reason session)

namespace Action

variable {σ α β : Type} {values : α → α → Prop}

/-- With every budget and in every session the two actions come to the same outcome, up to a
relation on its value. -/
def Same (values : α → α → Prop) (first second : Action σ α) : Prop :=
  ∀ budget session, Outcome.Same values (first budget session) (second budget session)

namespace Same

theorem refl (related : ∀ x, values x x) (action : Action σ α) : Same values action action := by
  intro budget session
  cases action budget session with
  | done x later => exact .done (related x)
  | stopped reason later => exact .stopped reason later

theorem pure {x y : α} (related : values x y) :
    Same values (Pure.pure x : Action σ α) (Pure.pure y) :=
  fun _ _ => .done related

theorem trans {first second third : Action σ α}
    (compose : ∀ x y z, values x y → values y z → values x z) (one : Same values first second)
    (two : Same values second third) : Same values first third := by
  intro budget session
  have left := one budget session
  have right := two budget session
  generalize first budget session = a, second budget session = b, third budget session = c
    at left right
  cases left with
  | done related =>
    cases right with
    | done further => exact .done (compose _ _ _ related further)
  | stopped reason later => exact right

theorem bind {results : β → β → Prop} {first second : Action σ α} {next after : α → Action σ β}
    (same : Same values first second)
    (rest : ∀ x y, values x y → Same results (next x) (after y)) :
    Same results (first >>= next) (second >>= after) := by
  intro budget session
  have outcomes := same budget session
  rw [bind_apply, bind_apply]
  generalize first budget session = a, second budget session = b at outcomes
  cases outcomes with
  | done related => exact rest _ _ related budget _
  | stopped reason later => exact .stopped reason later

/-- After the same action only what is done with its value counts. -/
theorem bind_right {results : β → β → Prop} (action : Action σ α) {next after : α → Action σ β}
    (rest : ∀ x, Same results (next x) (after x)) :
    Same results (action >>= next) (action >>= after) := by
  have same : Same Eq action action := refl (fun _ => rfl) action
  apply same.bind
  rintro x _ rfl
  exact rest x

end Same

end Action

end Descent
