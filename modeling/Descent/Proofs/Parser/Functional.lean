import Descent.Proofs.Cache.Uncached
import Descent.Proofs.Grammar.Budget
import Descent.Proofs.Parser.Agreement
import Descent.Proofs.Parser.Promise

set_option autoImplicit false

namespace Descent

namespace Outcome

variable {σ α : Type}

theorem result_eq_ok {outcome : Outcome σ α} {value : α} (same : outcome.result = .ok value) :
    ∃ reached, outcome = .done value reached := by
  cases outcome with
  | done other reached =>
    cases same
    exact ⟨reached, rfl⟩
  | stopped reason reached => cases same

theorem result_eq_error {outcome : Outcome σ α} {reason : Stop}
    (same : outcome.result = .error reason) : ∃ reached, outcome = .stopped reason reached := by
  cases outcome with
  | done value reached => cases same
  | stopped other reached =>
    cases same
    exact ⟨reached, rfl⟩

end Outcome

namespace Parser

open Descent.Action (Yields)

variable {σ α β : Type}

/-- What the parser comes to is a function of the text and the place: no session changes it, and
with more budget it comes to nothing else. -/
structure Functional (p : Parser σ α) : Prop where
  stable : p.Stable
  sessions : ∀ text pos budget session other,
    (p text pos budget session).result = (p text pos budget other).result

/-- In every session the parser settles on this reply. -/
def Replies (p : Parser σ α) (text : Text) (pos : Int) (reply : Reply α) : Prop :=
  Yields (p text pos) (· = reply)

variable {p : Parser σ α} {text : Text} {pos : Int} {reply : Reply α}

namespace Replies

/-- A parser has one reply at most. -/
theorem unique {other : Reply α} (one : p.Replies text pos reply) (two : p.Replies text pos other) :
    reply = other := by
  obtain ⟨came, reached, settles, rfl⟩ := one .fresh
  obtain ⟨came', reached', settles', rfl⟩ := two .fresh
  exact (Outcome.done.inj (settles.unique settles')).1

theorem ran (replies : p.Replies text pos reply) :
    ∃ budget reached, p text pos budget .fresh = .done reply reached := by
  obtain ⟨came, reached, settles, rfl⟩ := replies .fresh
  obtain ⟨budget, ran⟩ := settles.ran
  exact ⟨budget, reached, ran⟩

/-- What a parser ensures of its replies holds of the reply that it has. -/
theorem ensured {good : Reply α → Prop} (replies : p.Replies text pos reply)
    (ensures : Action.Ensures (p text pos) good) : good reply := by
  obtain ⟨budget, reached, ran⟩ := replies.ran
  exact ensures budget .fresh reply reached ran

theorem of_eq_pure {q : Parser σ α} (same : q text pos = Pure.pure reply) :
    q.Replies text pos reply := by
  rw [Replies, same]
  exact Yields.pure rfl

/-- After a parser only what is done with its reply counts. -/
theorem bind {next : Reply α → Action σ β} {good : β → Prop} (replies : p.Replies text pos reply)
    (rest : Yields (next reply) good) : Yields (p text pos >>= next) good := by
  apply Yields.bind replies
  intro came same
  rw [same]
  exact rest

theorem anchored (replies : p.Replies text pos reply) :
    p.anchored.Replies text pos (reply.anchor pos) := by
  apply replies.bind
  exact Yields.pure rfl

theorem map (replies : p.Replies text pos reply) (f : α → β) :
    (p.map f).Replies text pos (reply.map f) := by
  apply replies.bind
  exact Yields.pure rfl

theorem pure (value : α) : (Parser.pure value : Parser σ α).Replies text pos (.success value pos) :=
  .of_eq_pure rfl

theorem bind_match {value : α} {middle : Int} {other : Reply β}
    (matched : p.Replies text pos (.success value middle)) (next : α → Parser σ β)
    (rest : (next value).Replies text middle other) :
    (p.bind next).Replies text pos (other.anchor pos) := by
  apply Replies.bind matched
  apply Replies.bind rest
  exact Yields.pure rfl

theorem bind_refused {refusal : Failure} (refused : p.Replies text pos (.failure refusal))
    (next : α → Parser σ β) : (p.bind next).Replies text pos (.failure (refusal.anchor pos)) := by
  apply Replies.bind refused
  exact Yields.pure rfl

theorem both {q : Parser σ β} {a : α} {b : β} {middle stop : Int}
    (first : p.Replies text pos (.success a middle))
    (second : q.Replies text middle (.success b stop)) :
    (p.both q).Replies text pos (.success (a, b) stop) := by
  have paired : (q.map fun b => (a, b)).Replies text middle (.success (a, b) stop) := second.map _
  exact first.bind_match (fun a => q.map fun b => (a, b)) paired

theorem seqRight {q : Parser σ β} {value : α} {middle : Int} {other : Reply β}
    (first : p.Replies text pos (.success value middle)) (second : q.Replies text middle other) :
    (p.seqRight q).Replies text pos (other.anchor pos) :=
  first.bind_match (fun _ => q) second

theorem orElse_match {value : α} {stop : Int} (matched : p.Replies text pos (.success value stop))
    (q : Parser σ α) : (p.orElse q).Replies text pos (.success value stop) := by
  apply matched.bind
  exact Yields.pure rfl

theorem orElse_refused {q : Parser σ α} {refusal : Failure} {other : Reply α}
    (refused : p.Replies text pos (.failure refusal)) (next : q.Replies text pos other) :
    (p.orElse q).Replies text pos (other.anchor pos) := by
  apply refused.bind
  apply next.bind
  exact Yields.pure rfl

end Replies

namespace Functional

/-- The reply of one run is the reply in every session. -/
theorem replies_of_ran (functional : p.Functional) {budget : Nat} {session reached : Session σ}
    (ran : p text pos budget session = .done reply reached) : p.Replies text pos reply := by
  intro other
  have same : (p text pos budget other).result = .ok reply := by
    rw [functional.sessions text pos budget other session, ran]
    rfl
  obtain ⟨later, ran_other⟩ := Outcome.result_eq_ok same
  have settles := Action.settles_of_ran (functional.stable.at_place text pos) ran_other trivial
  exact ⟨reply, later, settles, rfl⟩

/-- A run of the parser and of what is done with its reply: it is the reply that the parser has. -/
theorem of_bind_ran (functional : p.Functional) {next : Reply α → Action σ β} {budget : Nat}
    {session reached : Session σ} {result : β}
    (ran : (p text pos >>= next) budget session = .done result reached) :
    ∃ reply later, p.Replies text pos reply ∧ next reply budget later = .done result reached := by
  obtain ⟨reply, later, started, goes⟩ := Action.done_of_bind ran
  exact ⟨reply, later, functional.replies_of_ran started, goes⟩

/-- If neither an action nor what is done with its value looks at the session, both together do not.
-/
theorem bind_result {action : Action σ α} {next : α → Action σ β} {budget : Nat}
    (first : ∀ session other, (action budget session).result = (action budget other).result)
    (rest : ∀ value session other,
      (next value budget session).result = (next value budget other).result)
    (session other : Session σ) :
    ((action >>= next) budget session).result = ((action >>= next) budget other).result := by
  rw [Action.bind_apply, Action.bind_apply]
  have same := first session other
  cases ran : action budget session with
  | done value later =>
    rw [ran] at same
    obtain ⟨later', ran'⟩ := Outcome.result_eq_ok same.symm
    rw [ran']
    exact rest value later later'
  | stopped reason later =>
    rw [ran] at same
    obtain ⟨later', ran'⟩ := Outcome.result_eq_error same.symm
    rw [ran']
    rfl

theorem ofExcept_result (result : Except Fault α) (budget : Nat) (session other : Session σ) :
    (Action.ofExcept result budget session).result =
      (Action.ofExcept result budget other).result := by
  cases result <;> rfl

theorem map (f : α → β) (functional : p.Functional) : (p.map f).Functional where
  stable little more enough := (functional.stable little more enough).map f
  sessions text pos budget :=
    bind_result (functional.sessions text pos budget) fun _ _ _ => rfl

theorem tryMap (f : α → Except Fault β) (functional : p.Functional) : (p.tryMap f).Functional where
  stable := functional.stable.tryMap f
  sessions text pos budget := by
    apply bind_result (functional.sessions text pos budget)
    intro reply
    cases reply with
    | success value stop => exact bind_result (ofExcept_result (f value) budget) fun _ _ _ => rfl
    | failure refusal => exact fun _ _ => rfl

theorem bind {next : α → Parser σ β} (functional : p.Functional)
    (rest : ∀ value, (next value).Functional) : (p.bind next).Functional where
  stable := functional.stable.bind fun value => (rest value).stable
  sessions text pos budget := by
    apply bind_result (functional.sessions text pos budget)
    intro reply
    cases reply with
    | success value stop =>
      exact bind_result ((rest value).sessions text stop budget) fun _ _ _ => rfl
    | failure refusal => exact fun _ _ => rfl

theorem both {q : Parser σ β} (functional : p.Functional) (second : q.Functional) :
    (p.both q).Functional :=
  functional.bind fun _ => second.map _

theorem repeatUpTo_result (functional : p.Functional) (text : Text) (pos : Int)
    (rounds budget : Nat) (session other : Session σ) :
    (p.repeatUpTo rounds text pos budget session).result =
      (p.repeatUpTo rounds text pos budget other).result := by
  induction rounds generalizing pos session other with
  | zero => rfl
  | succ rounds ih =>
    refine bind_result (functional.sessions text pos budget) ?_ session other
    intro reply
    cases reply with
    | success value stop =>
      by_cases stays : stop = pos
      · simp only [stays, ↓reduceIte]
        exact fun _ _ => rfl
      · simp only [stays, ↓reduceIte]
        exact bind_result (ih stop) fun _ _ _ => rfl
    | failure refusal => exact fun _ _ => rfl

theorem many (functional : p.Functional) : p.many.Functional where
  stable := functional.stable.many
  sessions text pos budget := functional.repeatUpTo_result text pos budget budget

/-- A sequence of two succeeds just if the first does and then the second. -/
theorem bind_replies_iff {next : α → Parser σ β} (functional : p.Functional)
    (rest : ∀ value, (next value).Functional) {result : β} {stop : Int} :
    (p.bind next).Replies text pos (.success result stop) ↔
      ∃ value middle, p.Replies text pos (.success value middle) ∧
        (next value).Replies text middle (.success result stop) := by
  constructor
  · intro replies
    obtain ⟨budget, reached, ran⟩ := replies.ran
    obtain ⟨reply, later, matched, goes⟩ := functional.of_bind_ran ran
    cases reply with
    | failure refusal => cases goes
    | success value middle =>
      obtain ⟨other, after, rest_replies, ends⟩ := (rest value).of_bind_ran goes
      cases other with
      | failure refusal => cases ends
      | success result stop =>
        cases ends
        exact ⟨value, middle, matched, rest_replies⟩
  · intro parts
    obtain ⟨value, middle, matched, rest_replies⟩ := parts
    exact matched.bind_match next rest_replies

/-- A parser with a step that may raise a fault succeeds just if the parser does and the step goes
through. -/
theorem tryMap_replies_iff {f : α → Except Fault β} (functional : p.Functional) {result : β}
    {stop : Int} :
    (p.tryMap f).Replies text pos (.success result stop) ↔
      ∃ value, p.Replies text pos (.success value stop) ∧ f value = .ok result := by
  constructor
  · intro replies
    obtain ⟨budget, reached, ran⟩ := replies.ran
    obtain ⟨reply, later, matched, goes⟩ := functional.of_bind_ran ran
    cases reply with
    | failure refusal => cases goes
    | success value middle =>
      cases made : f value with
      | error fault =>
        simp only [made] at goes
        cases goes
      | ok other =>
        simp only [made] at goes
        cases goes
        exact ⟨value, matched, made⟩
  · intro parts
    obtain ⟨value, matched, made⟩ := parts
    apply matched.bind
    dsimp only
    rw [made]
    exact Yields.pure rfl

end Functional

end Parser

/-- Whatever a grammar and its rules are made of, its parser is a function of the text and the
place. -/
theorem Grammar.meaning_functional (rules : Rules) (p : Grammar) :
    (p.meaning rules).Functional where
  stable := p.meaning_stable rules
  sessions text pos budget session other :=
    (p.meaning_replays rules text pos budget session).1.trans
      (p.meaning_replays rules text pos budget other).1.symm

end Descent
