import Descent.Proofs.Action.Following
import Descent.Proofs.Parser.Mapping
import Descent.Proofs.Repetition.Greedy

set_option autoImplicit false

namespace Descent

/-- The replies are the same, and a match ends at one of the places. -/
inductive Reply.SameWithin {α : Type} (place : Int → Prop) : Reply α → Reply α → Prop where
  | success (value : α) {stop : Int} (reached : place stop) :
      SameWithin place (.success value stop) (.success value stop)
  | failure (refusal : Failure) : SameWithin place (.failure refusal) (.failure refusal)

theorem Reply.SameWithin.eq {α : Type} {place : Int → Prop} {reply reply' : Reply α}
    (same : reply.SameWithin place reply') : reply = reply' := by
  cases same <;> rfl

namespace Parser

open Descent.Action (Ensures Settles)
open Reply (MatchHas SameWithin)

variable {σ α β : Type} {text : Text} {place : Int → Prop}

/-- Started at one of the places of the text, the second parser simulates the first: in all sessions
it settles on what the first one settles on in some, and a match ends at one of the places. -/
def Simulated (text : Text) (place : Int → Prop) (p q : Parser σ α) : Prop :=
  ∀ pos, place pos → Action.Follows (SameWithin place) (p text pos) (q text pos)

/-- Started at one of the places of the text, each of the parsers settles on what the other does. -/
structure Interchangeable (text : Text) (place : Int → Prop) (p q : Parser σ α) : Prop where
  stable : p.Stable
  stable_second : q.Stable
  onward : Simulated text place p q
  back : Simulated text place q p

/-- The parser is a function of the text and the place, and on this text it leads from each of the
places to one of them. -/
structure Within (text : Text) (place : Int → Prop) (p : Parser σ α) : Prop where
  functional : p.Functional
  stays : ∀ pos, place pos → Ensures (p text pos) (MatchHas fun _ stop => place stop)

namespace Simulated

variable {p q : Parser σ α}

theorem tryMap (f : α → Except Fault β) (stable : p.Stable) (simulated : Simulated text place p q) :
    Simulated text place (p.tryMap f) (q.tryMap f) := by
  intro pos here
  apply (simulated pos here).bind (stable.at_place text pos)
  intro reply reply' same
  cases same with
  | failure refusal => exact .pure (.failure refusal)
  | success value reached =>
    cases came : f value with
    | error fault =>
      simp only [came]
      exact .raise fault
    | ok result =>
      simp only [came]
      exact .pure (.success result reached)

theorem anchored_reply {first second : Action σ (Reply α)} (stable : Action.Stable first)
    (follows : Action.Follows (SameWithin place) first second) (pos : Int) :
    Action.Follows (SameWithin place) (first >>= fun reply => pure (reply.anchor pos))
      (second >>= fun reply => pure (reply.anchor pos)) := by
  apply follows.bind stable
  intro reply reply' same
  cases same with
  | failure refusal => exact .pure (.failure (refusal.anchor pos))
  | success value reached => exact .pure (.success value reached)

theorem bind {next after : α → Parser σ β} (stable : p.Stable) (next_stable : ∀ x, (next x).Stable)
    (simulated : Simulated text place p q) (rest : ∀ x, Simulated text place (next x) (after x)) :
    Simulated text place (p.bind next) (q.bind after) := by
  intro pos here
  apply (simulated pos here).bind (stable.at_place text pos)
  intro reply reply' same
  cases same with
  | failure refusal => exact .pure (.failure (refusal.anchor pos))
  | @success value stop reached =>
    exact anchored_reply ((next_stable value).at_place text stop) (rest value stop reached) pos

theorem orElse {r s : Parser σ α} (stable : p.Stable) (other_stable : r.Stable)
    (simulated : Simulated text place p q) (other : Simulated text place r s) :
    Simulated text place (p.orElse r) (q.orElse s) := by
  intro pos here
  apply (simulated pos here).bind (stable.at_place text pos)
  intro reply reply' same
  cases same with
  | failure refusal => exact anchored_reply (other_stable.at_place text pos) (other pos here) pos
  | success value reached => exact .pure (.success value reached)

theorem round {rest after : Parser σ (List α)} (stable : p.Stable) (rest_stable : rest.Stable)
    (simulated : Simulated text place p q) (again : Simulated text place rest after) :
    Simulated text place (p.round rest) (q.round after) := by
  intro pos here
  apply (simulated pos here).bind (stable.at_place text pos)
  intro reply reply' same
  cases same with
  | failure refusal => exact .pure (.success [] here)
  | @success value stop reached =>
    by_cases moved : stop = pos
    · simp only [moved, ↓reduceIte]
      exact .pure (.success [] here)
    · simp only [moved, ↓reduceIte]
      apply (again stop reached).bind (rest_stable.at_place text stop)
      intro reply reply' same
      cases same with
      | failure refusal => exact .pure (.failure refusal)
      | success values last => exact .pure (.success (value :: values) last)

/-- However many rounds are allowed, the other repetition settles on what they settle on. -/
theorem repeatUpTo (stable : p.Stable) (stable_second : q.Stable)
    (simulated : Simulated text place p q)
    (rounds : Nat) : Simulated text place (p.repeatUpTo rounds) q.many := by
  induction rounds with
  | zero =>
    rintro pos here session other outcome ⟨settled, bound, comes⟩
    have ran := comes bound (Nat.le_refl _)
    subst ran
    exact settled.elim
  | succ rounds ih =>
    have rest_stable : (p.repeatUpTo rounds).Stable := fun _ _ enough =>
      (stable _ _ enough).repeatUpTo rounds rounds (Nat.le_refl _)
    intro pos here session other outcome settles
    rw [repeatUpTo_succ] at settles
    obtain ⟨outcome', settles', same⟩ :=
      simulated.round stable rest_stable ih pos here session other outcome settles
    exact ⟨outcome', settles_many stable_second settles', same⟩

theorem many (stable : p.Stable) (stable_second : q.Stable) (simulated : Simulated text place p q) :
    Simulated text place p.many q.many := by
  rintro pos here session other outcome ⟨settled, bound, comes⟩
  -- the rounds that the budget of this run allows are enough
  have ran : p.repeatUpTo bound text pos bound session = outcome := comes bound (Nat.le_refl _)
  have rounds_stable : (p.repeatUpTo bound).Stable := fun _ _ enough =>
    (stable _ _ enough).repeatUpTo bound bound (Nat.le_refl _)
  have settles := Action.settles_of_ran (rounds_stable.at_place text pos) ran settled
  exact simulated.repeatUpTo stable stable_second bound pos here session other outcome settles

/-- Up to what happened before, both parsers come to one result. -/
theorem same_result (simulated : Simulated text place p q) {pos : Int} (here : place pos)
    (session other : Session σ) {outcome : Outcome σ (Reply α)}
    (settles : Settles (p text pos) session outcome) :
    ∃ outcome', Settles (q text pos) other outcome' ∧ outcome'.result = outcome.result := by
  obtain ⟨outcome', settles', same⟩ := simulated pos here session other outcome settles
  exact ⟨outcome', settles', (same.eq fun _ _ => SameWithin.eq).symm⟩

/-- Parsers that reply the same simulate one another. -/
theorem of_replies (each : ∀ pos, place pos → ∃ reply, SameWithin place reply reply ∧
      p.Replies text pos reply ∧ q.Replies text pos reply) : Simulated text place p q := by
  intro pos here session other outcome settles
  obtain ⟨reply, within, first, second⟩ := each pos here
  obtain ⟨_, reached, settles_first, rfl⟩ := first session
  obtain ⟨_, reached', settles_second, rfl⟩ := second other
  obtain rfl := settles.unique settles_first
  exact ⟨_, settles_second, .value within⟩

end Simulated

namespace Interchangeable

variable {p q : Parser σ α}

theorem of_replies (stable : p.Stable) (stable_second : q.Stable)
    (each : ∀ pos, place pos → ∃ reply, SameWithin place reply reply ∧
      p.Replies text pos reply ∧ q.Replies text pos reply) : Interchangeable text place p q where
  stable := stable
  stable_second := stable_second
  onward := .of_replies each
  back := .of_replies fun pos here =>
    let ⟨reply, within, first, second⟩ := each pos here
    ⟨reply, within, second, first⟩

theorem pure (value : α) :
    Interchangeable text place (Parser.pure value : Parser σ α) (Parser.pure value : Parser σ α) :=
  .of_replies (fun _ _ _ => pure_extends value) (fun _ _ _ => pure_extends value) fun pos here =>
    ⟨.success value pos, .success value here, .pure value, .pure value⟩

theorem tryMap (f : α → Except Fault β) (same : Interchangeable text place p q) :
    Interchangeable text place (p.tryMap f) (q.tryMap f) where
  stable := same.stable.tryMap f
  stable_second := same.stable_second.tryMap f
  onward := same.onward.tryMap f same.stable
  back := same.back.tryMap f same.stable_second

theorem map (f : α → β) (same : Interchangeable text place p q) :
    Interchangeable text place (p.map f) (q.map f) := by
  rw [← tryMap_ok, ← tryMap_ok]
  exact same.tryMap _

theorem bind {next after : α → Parser σ β} (same : Interchangeable text place p q)
    (rest : ∀ x, Interchangeable text place (next x) (after x)) :
    Interchangeable text place (p.bind next) (q.bind after) where
  stable := same.stable.bind fun x => (rest x).stable
  stable_second := same.stable_second.bind fun x => (rest x).stable_second
  onward := same.onward.bind same.stable (fun x => (rest x).stable) fun x => (rest x).onward
  back := same.back.bind same.stable_second (fun x => (rest x).stable_second) fun x => (rest x).back

theorem both {r s : Parser σ β} (same : Interchangeable text place p q)
    (second : Interchangeable text place r s) :
    Interchangeable text place (p.both r) (q.both s) :=
  same.bind fun _ => second.map _

theorem orElse {r s : Parser σ α} (same : Interchangeable text place p q)
    (other : Interchangeable text place r s) :
    Interchangeable text place (p.orElse r) (q.orElse s) where
  stable _ _ enough := (same.stable _ _ enough).orElse (other.stable _ _ enough)
  stable_second _ _ enough :=
    (same.stable_second _ _ enough).orElse (other.stable_second _ _ enough)
  onward := same.onward.orElse same.stable other.stable other.onward
  back := same.back.orElse same.stable_second other.stable_second other.back

theorem optional (same : Interchangeable text place p q) :
    Interchangeable text place p.optional q.optional :=
  (same.map some).orElse (pure none)

theorem many (same : Interchangeable text place p q) :
    Interchangeable text place p.many q.many where
  stable := same.stable.many
  stable_second := same.stable_second.many
  onward := same.onward.many same.stable same.stable_second
  back := same.back.many same.stable_second same.stable

end Interchangeable

namespace Within

variable {p : Parser σ α}

theorem simulated (within : p.Within text place) : Simulated text place p p := by
  intro pos here session other outcome settles
  obtain ⟨budget, ran⟩ := settles.ran
  have stable := within.functional.stable.at_place text pos
  have same : (p text pos budget other).result = outcome.result := by
    rw [← ran]
    exact within.functional.sessions text pos budget other session
  cases outcome with
  | done reply reached =>
    obtain ⟨later, ran'⟩ := Outcome.result_eq_ok same
    refine ⟨_, Action.settles_of_ran stable ran' trivial, .value ?_⟩
    have arrives := settles.ensured (within.stays pos here)
    cases reply with
    | success value stop => exact .success value arrives
    | failure refusal => exact .failure refusal
  | stopped reason reached =>
    obtain ⟨later, ran'⟩ := Outcome.result_eq_error same
    cases reason with
    | exhausted => exact settles.1.elim
    | fault fault => exact ⟨_, Action.settles_of_ran stable ran' trivial, .stopped _⟩

/-- A parser that stays within the places may be put for itself: nothing that happened before shows.
-/
theorem interchangeable (within : p.Within text place) : Interchangeable text place p p :=
  ⟨within.functional.stable, within.functional.stable, within.simulated, within.simulated⟩

theorem map (f : α → β) (within : p.Within text place) : (p.map f).Within text place where
  functional := within.functional.map f
  stays pos here := (within.stays pos here).bind fun _ arrives => Ensures.pure (arrives.map f)

theorem anchored (within : p.Within text place) : p.anchored.Within text place where
  functional := within.functional.anchored
  stays pos here :=
    (within.stays pos here).bind fun _ arrives => Ensures.pure (arrives.anchor pos)

theorem firstOf {ps : List (Parser σ α)} (within : p.Within text place)
    (all : ∀ q ∈ ps, q.Within text place) : (firstOf p ps).Within text place where
  functional := within.functional.firstOf fun q member => (all q member).functional
  stays pos here := by
    induction ps generalizing p with
    | nil => exact within.stays pos here
    | cons q qs ih =>
      obtain ⟨next, others⟩ := List.forall_mem_cons.mp all
      refine (within.stays pos here).bind ?_
      intro reply arrives
      cases reply with
      | success value stop => exact Ensures.pure arrives
      | failure refusal => exact ih next others

theorem choice {ps : List (Parser σ α)} (all : ∀ p ∈ ps, p.Within text place) :
    (Parser.choice ps).Within text place := by
  cases ps with
  | nil => exact ⟨.choice nofun, fun _ _ => Ensures.pure trivial⟩
  | cons p ps =>
    obtain ⟨first, others⟩ := List.forall_mem_cons.mp all
    exact (first.firstOf others).anchored

end Within

/-- Nothing is asked of where a match of a literal text ends if all integers are places. -/
theorem literal_within (s : String) (text : Text) :
    (literal s : Parser σ String).Within text fun _ => True where
  functional := ⟨fun _ _ _ => literal_extends s, fun text pos _ _ _ => by
    unfold literal
    split <;> rfl⟩
  stays pos _ := by
    unfold literal
    split
    · exact Ensures.pure trivial
    · exact Ensures.pure trivial

end Parser

end Descent
