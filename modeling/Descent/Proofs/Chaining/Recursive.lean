import Descent.Proofs.Parser.Agreement
import Descent.Proofs.Parser.Mapping
import Descent.Proofs.Recursion.Advance

set_option autoImplicit false

namespace Descent.Parser

open Descent.Action (Agree Ensures)

variable {σ α β γ : Type}

def after (result : Except Fault α) (next : α → Parser σ β) : Parser σ β :=
  match result with
  | .ok value => next value
  | .error fault => raise fault

/-- What follows the operands that have been combined so far: an operator and an operand, which are
combined with them at once, and whatever follows then; or nothing. -/
def restLeft (p : Parser σ α) (operator : Binary σ α) : α → Parser σ α :=
  fix fun rest acc =>
    (operator.bind fun f => p.bind fun operand => after (f acc operand) rest).orElse
      (Parser.pure acc)

def leftRecursive (p : Parser σ α) (operator : Binary σ α) : Parser σ α :=
  p.bind (restLeft p operator)

/-- What follows an operand: an operator and a whole chain, combined with the operand; or nothing.
-/
def restRight (operator : Binary σ α) (whole : Parser σ α) (operand : α) : Parser σ α :=
  (operator.bind fun f => whole.bind fun combined => after (f operand combined) Parser.pure).orElse
    (Parser.pure operand)

def rightRecursive (p : Parser σ α) (operator : Binary σ α) : Parser σ α :=
  fix (fun whole (_ : Unit) => p.bind (restRight operator (whole ()))) ()

/-- Goes on with another parser after a match; where there is none, consumes nothing and has a
default. -/
def linked (p : Parser σ α) (default : β) (next : α → Parser σ β) : Parser σ β := fun text pos => do
  match ← p text pos with
  | .success value stop => next value text stop
  | .failure _ => return .success default pos

section Budget

variable {little more : Nat}

theorem Extends.after (result : Except Fault α) {next next' : α → Parser σ β}
    (rest : ∀ value, Extends little more (next value) (next' value)) :
    Extends little more (Parser.after result next) (Parser.after result next') := by
  cases result with
  | ok value => exact rest value
  | error fault => exact raise_extends fault

theorem Extends.restRight {operator operator' : Binary σ α} {whole whole' : Parser σ α}
    (between : Extends little more operator operator') (again : Extends little more whole whole')
    (operand : α) :
    Extends little more (restRight operator whole operand) (restRight operator' whole' operand) :=
  (between.bind fun f => again.bind fun combined =>
    .after (f operand combined) pure_extends).orElse (pure_extends operand)

end Budget

variable {p : Parser σ α} {operator : Binary σ α}

theorem restLeft_regular (stable : p.Stable) (operator_stable : operator.Stable) :
    Regular fun (rest : α → Parser σ α) acc =>
      (operator.bind fun f => p.bind fun operand => after (f acc operand) rest).orElse
        (Parser.pure acc) :=
  fun _ _ enough _ _ extended acc =>
    ((operator_stable _ _ enough).bind fun f => (stable _ _ enough).bind fun operand =>
      .after (f acc operand) extended).orElse (pure_extends acc)

theorem restLeft_stable (stable : p.Stable) (operator_stable : operator.Stable) (acc : α) :
    (restLeft p operator acc).Stable :=
  fix_stable (restLeft_regular stable operator_stable) acc

theorem rightRecursive_regular (stable : p.Stable) (operator_stable : operator.Stable) :
    Regular fun (whole : Unit → Parser σ α) _ => p.bind (restRight operator (whole ())) :=
  fun _ _ enough _ _ extended _ => (stable _ _ enough).bind fun operand =>
    (operator_stable _ _ enough).restRight (extended ()) operand

theorem rightRecursive_stable (stable : p.Stable) (operator_stable : operator.Stable) :
    (rightRecursive p operator).Stable :=
  fix_stable (rightRecursive_regular stable operator_stable) ()

theorem restRight_stable (operator_stable : operator.Stable) {whole : Parser σ α}
    (again : whole.Stable) (operand : α) : (restRight operator whole operand).Stable :=
  fun _ _ enough => (operator_stable _ _ enough).restRight (again _ _ enough) operand

/-- The parser has no reply but successes. -/
def Matches (p : Parser σ α) : Prop :=
  ∀ text pos, Ensures (p text pos) fun reply => ∃ value stop, reply = .success value stop

theorem matches_orElse_pure (p : Parser σ α) (default : α) :
    (p.orElse (Parser.pure default)).Matches := by
  intro text pos
  refine (Ensures.always (p text pos)).bind ?_
  intro reply _
  cases reply with
  | success value stop => exact Ensures.pure ⟨value, stop, rfl⟩
  | failure refusal => exact Ensures.pure ⟨default, pos, rfl⟩

theorem Matches.tryMap (f : α → Except Fault β) (sure : p.Matches) : (p.tryMap f).Matches := by
  intro text pos
  refine (sure text pos).bind ?_
  intro reply matched
  obtain ⟨value, stop, rfl⟩ := matched
  refine (Ensures.always (Action.ofExcept (f value))).bind ?_
  exact fun result _ => Ensures.pure ⟨result, stop, rfl⟩

theorem Matches.after (result : Except Fault α) {next : α → Parser σ β}
    (rest : ∀ value, (next value).Matches) : (Parser.after result next).Matches := by
  cases result with
  | ok value => exact rest value
  | error fault => exact fun _ _ => Ensures.raise fault _

theorem restLeft_matches (p : Parser σ α) (operator : Binary σ α) (acc : α) :
    (restLeft p operator acc).Matches := by
  intro text pos
  -- at every depth but the first it has an alternative that never fails
  apply fix_ensures
  intro depth
  cases depth with
  | zero => exact Ensures.exhausted _
  | succ depth => exact matches_orElse_pure _ acc text pos

/-- Where an operator, an operand, or what follows them is missing, nothing is consumed. As what
follows is never missing, that is where there is no link. -/
theorem orElse_eq_linked {next : (α → α → Except Fault α) → α → Parser σ α}
    (sure : ∀ f operand, (next f operand).Matches) (default : α) :
    (operator.bind fun f => p.bind fun operand => next f operand).orElse (Parser.pure default) =
      linked (operator.both p) default fun link => next link.1 link.2 := by
  funext text pos
  simp only [orElse, linked, both, Parser.bind, map, bind_assoc]
  refine bind_congr fun reply => ?_
  cases reply with
  | failure refusal => rfl
  | success f middle =>
    simp only [bind_assoc, pure_bind]
    refine bind_congr fun reply => ?_
    cases reply with
    | failure refusal => rfl
    | success operand stop =>
      -- what follows matches, so the default is not tried and no failure is anchored
      rw [bind_assoc]
      refine Eq.trans ?_ (bind_pure _)
      apply (sure f operand text stop).bind_congr
      intro reply matched
      obtain ⟨value, last, rfl⟩ := matched
      rfl

/-- A chain that is combined with an operand is an operand, what follows it, and then the operation.
-/
theorem bind_after_eq {next : α → Parser σ β} (sure : ∀ operand, (next operand).Matches)
    (f : β → Except Fault γ) :
    ((p.bind next).bind fun combined => after (f combined) Parser.pure) =
      p.bind fun operand => (next operand).tryMap f := by
  funext text pos
  simp only [Parser.bind, tryMap, bind_assoc]
  refine bind_congr fun reply => ?_
  cases reply with
  | failure refusal =>
    show (pure (.failure ((refusal.anchor pos).anchor pos)) : Action σ (Reply γ)) =
      pure (.failure (refusal.anchor pos))
    rw [Failure.anchor_anchor]
  | success operand middle =>
    simp only [bind_assoc]
    apply (sure operand text middle).bind_congr
    intro reply matched
    obtain ⟨value, stop, rfl⟩ := matched
    rw [pure_bind, Reply.anchor_success]
    cases called : f value with
    | ok result => simp only [after, called]; rfl
    | error fault => simp only [after, called]; rfl

end Descent.Parser
