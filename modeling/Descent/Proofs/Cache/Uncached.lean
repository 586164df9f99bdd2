import Descent.Proofs.Cache.Replay
import Descent.Proofs.Parallel.OneText

set_option autoImplicit false

namespace Descent

namespace Parser

variable {σ α : Type} {definition : Definition σ} {run : σ → Parser σ α}

/-- The use of a rule without a cache: its definition is called, whatever is stored. -/
def called (definition : Definition σ) (run : σ → Parser σ α) : Parser σ α :=
  fun text pos => do run (← Action.force definition) text pos

theorem called_ok {item : σ} (built : definition.build = .ok item) (text : Text) (pos : Int)
    (budget : Nat) (session : Session σ) :
    called definition run text pos budget session =
      run item text pos budget (session.record (.forced definition.name)) := by
  simp only [called, Action.force, Action.bind_apply, built]
  rfl

theorem called_error {fault : Fault} (failed : definition.build = .error fault) (text : Text)
    (pos : Int) (budget : Nat) (session : Session σ) :
    called definition run text pos budget session =
      .stopped (.fault fault) (session.record (.forced definition.name)) := by
  simp only [called, Action.force, Action.bind_apply, failed]
  rfl

end Parser

def Grammar.uncached (rules : Rules) (p : Grammar) : Parser (Resolved rules) Value :=
  p.parser (rules.parserBy Parser.called)

namespace Outcome

variable {σ α : Type}

/-- The value that an outcome comes to, or why there is none. -/
def result : Outcome σ α → Except Stop α
  | .done value _ => .ok value
  | .stopped reason _ => .error reason

def session : Outcome σ α → Session σ
  | .done _ session => session
  | .stopped _ session => session

end Outcome

namespace Parallel

/-- A run in a session with a cache beside a run without. No rule that cannot be built was used
as long as the runs go on; if one was used, its fault is what ended them. -/
def cached {rules : Rules} (start : Session (Resolved rules)) (text : Text) :
    Parallel (Resolved rules) (Resolved rules) where
  sessions := fun s t => s = start.replay t.trace ∧
    ∀ name fault, rules name = .error fault → Event.callsOf name t.trace = 0
  stops := fun fault s fault' t => fault = fault' ∧ s = start.replay t.trace ∧
    ∀ name cause, rules name = .error cause → Event.callsOf name t.trace ≠ 0 → cause = fault'
  first := text
  second := text
  shift := 0
  failures := Eq
  anchors := by
    rintro f _ pos rfl
    rw [Int.add_zero]

namespace Cached

variable {rules : Rules} {start : Session (Resolved rules)} {text : Text}

theorem record {event : Event} (silent : ∀ name, event.isCallOf name = false)
    (absorbed : ∀ s : Session (Resolved rules), s.absorb event = s.record event)
    (s t : Session (Resolved rules)) (together : (cached start text).sessions s t) :
    (cached start text).sessions (s.record event) (t.record event) := by
  obtain ⟨rfl, unused⟩ := together
  constructor
  · rw [Session.replay_record, absorbed]
  · intro name fault failed
    rw [Session.callsOf_record, unused name fault failed, silent]
    rfl

theorem uniform : (cached start text).Uniform fun _ => True where
  faults := by
    rintro fault s t ⟨replays, unused⟩
    refine ⟨rfl, replays, ?_⟩
    intro name cause failed used
    exact absurd (unused name cause failed) used
  leaves pos expected _ := congrArg (Failure.leaf · expected) (Int.add_zero pos)
  labels f g message same := congrArg (Failure.relabel · message) same
  slices start stop _ _ := slices_still rfl rfl start stop
  logs s t _ _ together := record (fun _ => rfl) (fun _ => rfl) s t together

theorem oneText : (cached start text).OneText where
  texts := rfl
  still := rfl
  failures _ := rfl
  faults := uniform.faults
  prints s t _ together := record (fun _ => rfl) (fun _ => rfl) s t together

theorem parts : (cached start text).Parts (fun _ => True) Grammar.Primitive :=
  oneText.parts uniform

/-- With a cache and without, using a rule takes sessions that go together to sessions that do;
using one that cannot be built ends both runs with its fault. -/
theorem uses : (cached start text).Uses (fun _ => True) Parser.rule Parser.called := by
  intro name run run' alike pos starts budget s t together
  obtain ⟨rfl, unused⟩ := together
  cases defined : rules name with
  | ok p =>
    have built := Rules.build_of_ok defined
    rw [Parser.rule_ok built, Parser.called_ok built, Rules.definition_name]
    apply alike ⟨name, p, defined⟩ pos starts budget
    constructor
    · rw [Session.replay_record]
      exact (Session.absorb_rule _ ⟨name, p, defined⟩).symm
    · intro failing fault failed
      have other : (Event.forced name).isCallOf failing = false := by
        apply beq_eq_false_iff_ne.mpr
        rintro rfl
        exact nomatch defined.symm.trans failed
      rw [Session.callsOf_record, unused failing fault failed, other]
      rfl
  | error fault =>
    have failed := Rules.build_of_error defined
    rw [Parser.rule_error failed, Parser.called_error failed, Rules.definition_name]
    refine .fault ⟨rfl, ?_, ?_⟩
    · rw [Session.replay_record, Session.absorb_error defined]
    · intro failing cause failed' used
      cases calls : (Event.forced name).isCallOf failing with
      | true =>
        obtain rfl := beq_iff_eq.mp calls
        exact Except.error.inj (failed'.symm.trans defined)
      | false =>
        rw [Session.callsOf_record, unused failing cause failed', calls] at used
        exact absurd rfl used

end Cached

end Parallel

/-- A run with a cache comes to the result of the run without, in the session that the events of the
latter replay to. If a rule was used that cannot be built, its fault is the result. -/
theorem Grammar.meaning_replays (rules : Rules) (p : Grammar) (text : Text) (pos : Int)
    (budget : Nat) (start : Session (Resolved rules)) :
    let plain := p.uncached rules text pos budget .fresh
    let outcome := p.meaning rules text pos budget start
    outcome.result = plain.result ∧ outcome.session = start.replay plain.session.trace ∧
      ∀ name fault, rules name = .error fault → Event.callsOf name plain.session.trace ≠ 0 →
        plain.result = .error (.fault fault) := by
  have alike : (Parallel.cached start text).Alike (fun _ => True) (p.meaning rules)
      (p.uncached rules) :=
    Parallel.Cached.parts.meaning Parallel.Cached.uses (fun _ p _ => p.builtFrom_primitive)
      p.builtFrom_primitive
  have outcomes := Parallel.Cached.oneText.outcomes alike pos budget
    (s := start) (t := .fresh) ⟨rfl, fun _ _ _ => rfl⟩
  change Pairing.Outcomes _ _ (p.meaning rules text pos budget start)
    (p.uncached rules text pos budget .fresh) at outcomes
  generalize p.meaning rules text pos budget start = outcome,
    p.uncached rules text pos budget .fresh = plain at outcomes
  cases outcomes with
  | @done reply reply' _ _ replies together =>
    obtain ⟨replays, unused⟩ := together
    have same : reply = reply' := by
      obtain ⟨value, stop, rfl, rfl⟩ | ⟨f, _, rfl, rfl, rfl⟩ := replies.same_or_refused rfl <;> rfl
    exact ⟨congrArg Except.ok same, replays,
      fun name fault failed used => absurd (unused name fault failed) used⟩
  | fault together =>
    obtain ⟨rfl, replays, caused⟩ := together
    refine ⟨rfl, replays, ?_⟩
    intro name fault failed used
    rw [caused name fault failed used]
    rfl
  | exhausted together =>
    obtain ⟨replays, unused⟩ := together
    exact ⟨rfl, replays, fun name fault failed used => absurd (unused name fault failed) used⟩

end Descent
