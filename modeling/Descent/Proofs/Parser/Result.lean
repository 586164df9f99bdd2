import Descent.Proofs.Parser.Functional

set_option autoImplicit false

namespace Descent

/-- Two runs end alike: with values that stand in the relation, or for the same reason without one.
-/
inductive SameEnd {α β : Type} (values : α → β → Prop) : Except Stop α → Except Stop β → Prop where
  | value {x : α} {y : β} (related : values x y) : SameEnd values (.ok x) (.ok y)
  | stopped (reason : Stop) : SameEnd values (.error reason) (.error reason)

theorem SameEnd.refl {α : Type} {values : α → α → Prop} (related : ∀ x, values x x)
    (result : Except Stop α) : SameEnd values result result := by
  cases result with
  | ok x => exact .value (related x)
  | error reason => exact .stopped reason

theorem SameEnd.eq {α : Type} {values : α → α → Prop} (equal : ∀ x y, values x y → x = y)
    {result result' : Except Stop α} (same : SameEnd values result result') : result = result' := by
  cases same with
  | value related => rw [equal _ _ related]
  | stopped reason => rfl

namespace Action

variable {σ α β : Type}

def Sessionless (action : Action σ α) : Prop :=
  ∀ budget session other, (action budget session).result = (action budget other).result

/-- What the action comes to with a budget, when nothing happened before. -/
def result (action : Action σ α) (budget : Nat) : Except Stop α :=
  (action budget .fresh).result

theorem Sessionless.result_eq {action : Action σ α} (sessionless : action.Sessionless)
    (budget : Nat) (session : Session σ) : (action budget session).result = action.result budget :=
  sessionless budget session .fresh

theorem Sessionless.pure (value : α) : (Pure.pure value : Action σ α).Sessionless :=
  fun _ _ _ => rfl

theorem Sessionless.bind {action : Action σ α} {next : α → Action σ β}
    (sessionless : action.Sessionless) (rest : ∀ value, (next value).Sessionless) :
    (action >>= next).Sessionless :=
  fun budget => Parser.Functional.bind_result (sessionless budget) fun value => rest value budget

theorem result_bind {action : Action σ α} {next : α → Action σ β}
    (rest : ∀ value, (next value).Sessionless) (budget : Nat) :
    (action >>= next).result budget =
      action.result budget >>= fun value => (next value).result budget := by
  unfold result
  rw [bind_apply]
  cases action budget .fresh with
  | done value later => exact (rest value).result_eq budget later
  | stopped reason later => rfl

/-- A function of the value changes the result and nothing else. -/
theorem result_bind_pure (action : Action σ α) (f : α → β) (budget : Nat) :
    (action >>= fun value => Pure.pure (f value)).result budget = (action.result budget).map f := by
  rw [result_bind fun value => .pure (f value)]
  cases action.result budget <;> rfl

end Action

namespace Parser

open Descent.Action (Sessionless)

variable {σ α β : Type} {p : Parser σ α} {text : Text} {pos : Int} {budget : Nat}

theorem Functional.sessionless (functional : p.Functional) (text : Text) (pos : Int) :
    Sessionless (p text pos) :=
  functional.sessions text pos

/-- From some budget on a reply is the result. -/
theorem Replies.result {reply : Reply α} (replies : p.Replies text pos reply) :
    ∃ bound, ∀ budget, bound ≤ budget → (p text pos).result budget = .ok reply := by
  obtain ⟨_, reached, ⟨_, bound, comes⟩, rfl⟩ := replies .fresh
  refine ⟨bound, fun budget enough => ?_⟩
  rw [Action.result, comes budget enough]
  rfl

namespace Functional

theorem anchored (functional : p.Functional) : p.anchored.Functional where
  stable := functional.stable.anchored
  sessions text pos := (functional.sessionless text pos).bind fun _ => .pure _

theorem notFollowedBy (functional : p.Functional) : p.notFollowedBy.Functional where
  stable _ _ enough := (functional.stable _ _ enough).notFollowedBy
  sessions text pos := by
    apply (functional.sessionless text pos).bind
    intro reply
    cases reply <;> exact .pure _

theorem firstOf {ps : List (Parser σ α)} (functional : p.Functional)
    (all : ∀ q ∈ ps, q.Functional) : (firstOf p ps).Functional where
  stable _ _ enough := (functional.stable _ _ enough).firstOf <|
    List.forall₂_same.mpr fun q member => (all q member).stable _ _ enough
  sessions text pos := by
    show Sessionless (Parser.firstOf p ps text pos)
    induction ps generalizing p with
    | nil => exact functional.sessionless text pos
    | cons q qs ih =>
      obtain ⟨next, others⟩ := List.forall_mem_cons.mp all
      apply (functional.sessionless text pos).bind
      intro reply
      cases reply with
      | success value stop => exact .pure _
      | failure refusal => exact ih next others

theorem choice {ps : List (Parser σ α)} (all : ∀ p ∈ ps, p.Functional) :
    (choice ps).Functional := by
  cases ps with
  | nil => exact ⟨fun _ _ _ => failWith_extends _, fun _ _ => Sessionless.pure _⟩
  | cons p ps =>
    obtain ⟨first, others⟩ := List.forall_mem_cons.mp all
    exact (first.firstOf others).anchored

end Functional

theorem result_map (f : α → β) (p : Parser σ α) :
    (p.map f text pos).result budget = ((p text pos).result budget).map (Reply.map f) :=
  Action.result_bind_pure _ _ budget

theorem result_anchored (p : Parser σ α) :
    (p.anchored text pos).result budget = ((p text pos).result budget).map (Reply.anchor pos) :=
  Action.result_bind_pure _ _ budget

theorem result_bind (p : Parser σ α) {next : α → Parser σ β}
    (rest : ∀ value, (next value).Functional) :
    (p.bind next text pos).result budget = (p text pos).result budget >>= fun
      | .success value stop => ((next value text stop).result budget).map (Reply.anchor pos)
      | .failure refusal => .ok (.failure (refusal.anchor pos)) := by
  rw [Parser.bind, Action.result_bind]
  · refine bind_congr fun reply => ?_
    cases reply with
    | success value stop => exact Action.result_bind_pure _ _ budget
    | failure refusal => rfl
  · intro reply
    cases reply with
    | success value stop => exact ((rest value).sessionless text stop).bind fun _ => .pure _
    | failure refusal => exact .pure _

theorem result_orElse (p : Parser σ α) {q : Parser σ α} (other : q.Functional) :
    (p.orElse q text pos).result budget = (p text pos).result budget >>= fun
      | .success value stop => .ok (.success value stop)
      | .failure _ => ((q text pos).result budget).map (Reply.anchor pos) := by
  rw [orElse, Action.result_bind]
  · refine bind_congr fun reply => ?_
    cases reply with
    | success value stop => rfl
    | failure refusal => exact Action.result_bind_pure _ _ budget
  · intro reply
    cases reply with
    | success value stop => exact .pure _
    | failure refusal => exact (other.sessionless text pos).bind fun _ => .pure _

theorem result_firstOf_cons (p : Parser σ α) {q : Parser σ α} {qs : List (Parser σ α)}
    (next : q.Functional) (others : ∀ r ∈ qs, r.Functional) :
    (firstOf p (q :: qs) text pos).result budget = (p text pos).result budget >>= fun
      | .success value stop => .ok (.success value stop)
      | .failure _ => (firstOf q qs text pos).result budget := by
  rw [firstOf, Action.result_bind]
  · refine bind_congr fun reply => ?_
    cases reply <;> rfl
  · intro reply
    cases reply with
    | success value stop => exact .pure _
    | failure refusal => exact (next.firstOf others).sessionless text pos

theorem result_notFollowedBy (p : Parser σ α) :
    (p.notFollowedBy text pos).result budget = (p text pos).result budget >>= fun
      | .success _ stop =>
        .ok (.failure (.leaf pos (some ("not " ++ quoted (text.slice pos stop)))))
      | .failure _ => .ok (.success () pos) := by
  rw [notFollowedBy, Action.result_bind]
  · refine bind_congr fun reply => ?_
    cases reply <;> rfl
  · intro reply
    cases reply <;> exact .pure _

end Parser

end Descent
