import Descent.Grammar.Meaning
import Descent.Proofs.Parser.Rule

set_option autoImplicit false

namespace Descent

namespace Event

def isCallOf (name : String) : Event → Bool
  | forced rule => rule == name
  | _ => false

def isVisible : Event → Bool
  | forced _ => false
  | _ => true

def callsOf (name : String) (events : List Event) : Nat :=
  events.countP (isCallOf name)

theorem isCallOf_iff {name : String} {event : Event} :
    event.isCallOf name = true ↔ event = .forced name := by
  cases event <;> simp [isCallOf]

@[simp] theorem callsOf_nil (name : String) : callsOf name [] = 0 :=
  rfl

theorem callsOf_cons (name : String) (event : Event) (events : List Event) :
    callsOf name (event :: events) =
      callsOf name events + if event.isCallOf name then 1 else 0 :=
  List.countP_cons

@[simp] theorem callsOf_append (name : String) (earlier later : List Event) :
    callsOf name (earlier ++ later) = callsOf name earlier + callsOf name later :=
  List.countP_append

end Event

namespace Session

variable {σ : Type} {rules : Rules} {session : Session (Resolved rules)}

def trace (session : Session σ) : List Event :=
  session.events.toList

def visible (session : Session σ) : List Event :=
  session.trace.filter Event.isVisible

@[simp] theorem trace_record (session : Session σ) (event : Event) :
    (session.record event).trace = session.trace ++ [event] :=
  Array.toList_push

theorem callsOf_record (name : String) (session : Session σ) (event : Event) :
    Event.callsOf name (session.record event).trace =
      Event.callsOf name session.trace + if event.isCallOf name then 1 else 0 := by
  rw [trace_record, Event.callsOf_append, Event.callsOf_cons]
  exact congrArg _ (Nat.zero_add _)

def resolved (session : Session (Resolved rules)) : List String :=
  session.stored.map Resolved.name

/-- A rule that cannot be built is never stored. -/
theorem not_mem_resolved {name : String} {fault : Fault} (failed : rules name = .error fault)
    (session : Session (Resolved rules)) : name ∉ session.resolved := by
  intro member
  obtain ⟨rule, _, rfl⟩ := List.mem_map.mp member
  exact nomatch rule.built.symm.trans failed

theorem built_of_mem (rule : Resolved rules) (known : rule.name ∈ session.resolved) :
    session.built (rules.definition rule.name) rule = session := by
  obtain ⟨stored, member, same⟩ := List.mem_map.mp known
  have found : (session.find? (rules.definition rule.name)).isSome = true :=
    List.find?_isSome.mpr ⟨stored, member, beq_iff_eq.mpr same⟩
  rw [built]
  cases stands : session.find? (rules.definition rule.name) with
  | some other => rfl
  | none =>
    rw [stands] at found
    cases found

theorem built_of_not_mem (rule : Resolved rules) (new : rule.name ∉ session.resolved) :
    session.built (rules.definition rule.name) rule =
      (session.record (.forced rule.name)).store rule := by
  have missing : session.find? (rules.definition rule.name) = none := by
    apply List.find?_eq_none.mpr
    intro stored member same
    exact new (List.mem_map.mpr ⟨stored, member, beq_iff_eq.mp same⟩)
  rw [built, missing]
  rfl

/-- A session with a cache after what was an event without one. -/
def absorb (session : Session (Resolved rules)) : Event → Session (Resolved rules)
  | .forced name =>
    match rules.build name with
    | .ok rule => session.built (rules.definition name) rule
    | .error _ => session.record (.forced name)
  | event => session.record event

/-- A session with a cache after what were some events without one. -/
def replay (session : Session (Resolved rules)) (events : List Event) : Session (Resolved rules) :=
  events.foldl absorb session

theorem replay_record (session other : Session (Resolved rules)) (event : Event) :
    session.replay (other.record event).trace = (session.replay other.trace).absorb event := by
  rw [replay, trace_record, List.foldl_append]
  rfl

theorem replay_append (session : Session (Resolved rules)) (earlier later : List Event) :
    session.replay (earlier ++ later) = (session.replay earlier).replay later :=
  List.foldl_append

theorem absorb_rule (session : Session (Resolved rules)) (rule : Resolved rules) :
    session.absorb (.forced rule.name) = session.built (rules.definition rule.name) rule := by
  rw [absorb, Rules.build_of_ok rule.built]

theorem absorb_error {name : String} {fault : Fault} (failed : rules name = .error fault)
    (session : Session (Resolved rules)) :
    session.absorb (.forced name) = session.record (.forced name) := by
  rw [absorb, Rules.build_of_error failed]

/-- How an event changes a session: it is recorded and the rule that it calls may be stored, unless
it calls a rule that is stored already. -/
theorem absorb_cases (session : Session (Resolved rules)) (event : Event) :
    (∃ name, event = .forced name ∧ session.absorb event = session) ∨
    (∃ rule : Resolved rules, event = .forced rule.name ∧ rule.name ∉ session.resolved ∧
      session.absorb event = (session.record event).store rule) ∨
    session.absorb event = session.record event := by
  cases event with
  | forced name =>
    cases defined : rules name with
    | ok p =>
      let rule : Resolved rules := ⟨name, p, defined⟩
      by_cases known : name ∈ session.resolved
      · exact .inl ⟨name, rfl, (session.absorb_rule rule).trans (built_of_mem rule known)⟩
      · exact .inr (.inl ⟨rule, rfl, known,
          (session.absorb_rule rule).trans (built_of_not_mem rule known)⟩)
    | error fault => exact .inr (.inr (absorb_error defined session))
  | printed text => exact .inr (.inr rfl)
  | logged tag value => exact .inr (.inr rfl)

theorem visible_absorb (session : Session (Resolved rules)) (event : Event) :
    (session.absorb event).visible = session.visible ++ [event].filter Event.isVisible := by
  obtain ⟨_, rfl, same⟩ | ⟨_, rfl, _, stored⟩ | recorded := absorb_cases session event
  · rw [same]
    exact (List.append_nil _).symm
  · rw [stored]
    show (session.record _).trace.filter _ = _
    rw [trace_record, List.filter_append]
    rfl
  · rw [recorded, visible, trace_record, List.filter_append]
    rfl

/-- What is visible does not depend on the cache. -/
theorem visible_replay (session : Session (Resolved rules)) (events : List Event) :
    (session.replay events).visible = session.visible ++ events.filter Event.isVisible := by
  induction events generalizing session with
  | nil => exact (List.append_nil _).symm
  | cons event events ih =>
    calc ((session.absorb event).replay events).visible
        = (session.absorb event).visible ++ events.filter Event.isVisible := ih _
      _ = session.visible ++ (event :: events).filter Event.isVisible := by
        rw [visible_absorb, List.append_assoc, ← List.filter_append, List.singleton_append]

/-- What is stored stays, and no rule is stored twice. -/
theorem stored_absorb (event : Event) :
    session.stored <:+ (session.absorb event).stored ∧
      (session.resolved.Nodup → (session.absorb event).resolved.Nodup) := by
  obtain ⟨_, _, same⟩ | ⟨rule, _, new, stored⟩ | recorded := absorb_cases session event
  · rw [same]
    exact ⟨List.suffix_rfl, id⟩
  · rw [stored]
    exact ⟨List.suffix_cons rule session.stored, List.nodup_cons.mpr ∘ And.intro new⟩
  · rw [recorded]
    exact ⟨List.suffix_rfl, id⟩

theorem stored_replay (session : Session (Resolved rules)) (events : List Event) :
    session.stored <:+ (session.replay events).stored ∧
      (session.resolved.Nodup → (session.replay events).resolved.Nodup) := by
  induction events generalizing session with
  | nil => exact ⟨List.suffix_rfl, id⟩
  | cons event events ih =>
    obtain ⟨stays, distinct⟩ := session.stored_absorb event
    obtain ⟨stays', distinct'⟩ := ih (session.absorb event)
    exact ⟨stays.trans stays', distinct' ∘ distinct⟩

/-- An event that does not call a rule leaves it as resolved as it was. -/
theorem absorb_other {name : String} {event : Event} (other : event.isCallOf name = false)
    (session : Session (Resolved rules)) :
    Event.callsOf name (session.absorb event).trace = Event.callsOf name session.trace ∧
      (name ∈ (session.absorb event).resolved ↔ name ∈ session.resolved) := by
  have unrecorded : Event.callsOf name (session.record event).trace =
      Event.callsOf name session.trace := by
    rw [callsOf_record, other]
    rfl
  obtain ⟨_, _, same⟩ | ⟨rule, rfl, _, stored⟩ | recorded := absorb_cases session event
  · rw [same]
    exact ⟨rfl, Iff.rfl⟩
  · have distinct : rule.name ≠ name := beq_eq_false_iff_ne.mp other
    rw [stored]
    refine ⟨unrecorded, ?_⟩
    show name ∈ rule.name :: session.resolved ↔ _
    rw [List.mem_cons, or_iff_right (Ne.symm distinct)]
  · rw [recorded]
    exact ⟨unrecorded, Iff.rfl⟩

/-- The event that calls a rule that can be built leaves it stored, and is recorded unless it was
stored before. -/
theorem absorb_call (session : Session (Resolved rules)) (rule : Resolved rules) :
    rule.name ∈ (session.absorb (.forced rule.name)).resolved ∧
      Event.callsOf rule.name (session.absorb (.forced rule.name)).trace =
        Event.callsOf rule.name session.trace + if rule.name ∈ session.resolved then 0 else 1 := by
  rw [absorb_rule]
  by_cases known : rule.name ∈ session.resolved
  · rw [built_of_mem rule known, if_pos known]
    exact ⟨known, rfl⟩
  · rw [built_of_not_mem rule known, if_neg known]
    refine ⟨List.mem_cons_self, (callsOf_record rule.name session _).trans ?_⟩
    rw [if_pos (Event.isCallOf_iff.mpr rfl)]

/-- The definition of a rule that can be built is asked for at most once, when the rule is first
used, and from then on the rule is stored. -/
theorem replay_built (rule : Resolved rules) (session : Session (Resolved rules))
    (events : List Event) :
    (rule.name ∈ (session.replay events).resolved ↔
        rule.name ∈ session.resolved ∨ Event.callsOf rule.name events ≠ 0) ∧
      Event.callsOf rule.name (session.replay events).trace =
        Event.callsOf rule.name session.trace +
          if rule.name ∈ session.resolved then 0 else min 1 (Event.callsOf rule.name events) := by
  induction events generalizing session with
  | nil => simp [replay, Event.callsOf]
  | cons event events ih =>
    obtain ⟨stored, count⟩ := ih (session.absorb event)
    show (_ ∈ ((session.absorb event).replay events).resolved ↔ _) ∧
      Event.callsOf _ ((session.absorb event).replay events).trace = _
    rw [stored, count, Event.callsOf_cons]
    cases calls : event.isCallOf rule.name with
    | false =>
      obtain ⟨same_count, same_stored⟩ := absorb_other calls session
      simp only [same_count, same_stored, Bool.false_eq_true, ↓reduceIte, Nat.add_zero, and_self]
    | true =>
      obtain rfl := Event.isCallOf_iff.mp calls
      obtain ⟨stored_now, counted⟩ := session.absorb_call rule
      simp only [stored_now, counted, ↓reduceIte]
      by_cases known : rule.name ∈ session.resolved
      · simp only [known, ↓reduceIte, true_or, true_and]
      · have called : Event.callsOf rule.name events + 1 ≠ 0 := Nat.succ_ne_zero _
        have least : min 1 (Event.callsOf rule.name events + 1) = 1 := by omega
        simp only [known, called, least, ↓reduceIte, true_or, ne_eq, not_false_eq_true, or_true,
          Nat.add_zero, and_self]

/-- The definition of a rule that cannot be built is asked for at each use of the rule. -/
theorem replay_failed {name : String} {fault : Fault} (failed : rules name = .error fault)
    (session : Session (Resolved rules)) (events : List Event) :
    Event.callsOf name (session.replay events).trace =
      Event.callsOf name session.trace + Event.callsOf name events := by
  induction events generalizing session with
  | nil => rfl
  | cons event events ih =>
    show Event.callsOf name ((session.absorb event).replay events).trace = _
    rw [ih, Event.callsOf_cons]
    cases calls : event.isCallOf name with
    | false =>
      rw [(absorb_other calls session).1]
      rfl
    | true =>
      obtain rfl := Event.isCallOf_iff.mp calls
      rw [absorb_error failed, callsOf_record, calls]
      simp only [↓reduceIte]
      omega

/-- What stands in front of the events of a session stays there. -/
theorem absorb_after {later : Session (Resolved rules)} (front : List Event)
    (stored : session.stored = later.stored) (trace : session.trace = front ++ later.trace)
    (event : Event) :
    (session.absorb event).stored = (later.absorb event).stored ∧
      (session.absorb event).trace = front ++ (later.absorb event).trace := by
  have recorded : (session.record event).trace = front ++ (later.record event).trace := by
    rw [trace_record, trace_record, trace, List.append_assoc]
  cases event with
  | forced name =>
    simp only [absorb]
    cases rules.build name with
    | ok rule =>
      have found : session.find? (rules.definition name) = later.find? (rules.definition name) := by
        rw [find?, stored, find?]
      simp only [built, found]
      cases later.find? (rules.definition name) with
      | some known => exact ⟨stored, trace⟩
      | none => exact ⟨congrArg (rule :: ·) stored, recorded⟩
    | error fault => exact ⟨stored, recorded⟩
  | printed text => exact ⟨stored, recorded⟩
  | logged tag value => exact ⟨stored, recorded⟩

theorem replay_after (session later : Session (Resolved rules)) (front : List Event)
    (stored : session.stored = later.stored) (trace : session.trace = front ++ later.trace)
    (events : List Event) :
    (session.replay events).stored = (later.replay events).stored ∧
      (session.replay events).trace = front ++ (later.replay events).trace := by
  induction events generalizing session later with
  | nil => exact ⟨stored, trace⟩
  | cons event events ih =>
    have absorbed := absorb_after front stored trace event
    exact ih _ _ absorbed.1 absorbed.2

/-- A session that goes on behind the events of the runs before it sees what the next run sees. -/
theorem replay_nextRun (session : Session (Resolved rules)) (events : List Event) :
    (session.replay events).stored = (session.nextRun.replay events).stored ∧
      (session.replay events).trace =
        session.trace ++ (session.nextRun.replay events).trace := by
  have parted : session.trace = session.trace ++ session.nextRun.trace :=
    (List.append_nil _).symm
  exact replay_after session session.nextRun session.trace rfl parted events

end Session

end Descent
