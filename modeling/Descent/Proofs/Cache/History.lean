import Descent.Proofs.Cache.Uncached

set_option autoImplicit false

namespace Descent

structure Call where
  text : Text
  pos : Int
  budget : Nat

section

variable {σ α : Type}

def Call.run (call : Call) (p : Parser σ α) (session : Session σ) : Outcome σ (Reply α) :=
  p call.text call.pos call.budget session

namespace Parser

/-- The outcomes of running a parser time and again, each run in the session that the one before it
left. -/
def history (p : Parser σ α) : Session σ → List Call → List (Outcome σ (Reply α))
  | _, [] => []
  | session, call :: calls =>
    let outcome := call.run p session.nextRun
    outcome :: p.history outcome.session calls

def sessionAfter (p : Parser σ α) : Session σ → List Call → Session σ
  | session, [] => session
  | session, call :: calls => p.sessionAfter (call.run p session.nextRun).session calls

theorem history_cons (p : Parser σ α) (session : Session σ) (call : Call) (calls : List Call) :
    p.history session (call :: calls) =
      call.run p session.nextRun :: p.history (call.run p session.nextRun).session calls :=
  rfl

end Parser

namespace Outcome

/-- What can be seen of an outcome besides calls of definitions: the result and the other events. -/
def answer (outcome : Outcome σ α) : Except Stop α × List Event :=
  (outcome.result, outcome.session.visible)

def traces (outcomes : List (Outcome σ α)) : List Event :=
  outcomes.flatMap fun outcome => outcome.session.trace

end Outcome

theorem Session.nextRun_trace (session : Session σ) : session.nextRun.trace = [] :=
  rfl

end

namespace Grammar

variable {rules : Rules} {session : Session (Resolved rules)}

/-- The outcomes without a cache, each run for itself. -/
def uncachedRuns (p : Grammar) (rules : Rules) (calls : List Call) :
    List (Outcome (Resolved rules) (Reply Value)) :=
  calls.map fun call => call.run (p.uncached rules) .fresh

theorem run_replays (p : Grammar) (call : Call) (session : Session (Resolved rules)) :
    (call.run (p.meaning rules) session).session =
      session.replay (call.run (p.uncached rules) .fresh).session.trace :=
  (meaning_replays rules p call.text call.pos call.budget session).2.1

/-- A run answers as it does without a cache. -/
theorem answer_run (p : Grammar) (call : Call) (session : Session (Resolved rules)) :
    (call.run (p.meaning rules) session.nextRun).answer =
      (call.run (p.uncached rules) .fresh).answer := by
  have result := (meaning_replays rules p call.text call.pos call.budget session.nextRun).1
  have visible := congrArg Session.visible (run_replays p call session.nextRun)
  rw [Session.visible_replay] at visible
  exact Prod.ext result visible

theorem history_answers (p : Grammar) (session : Session (Resolved rules)) (calls : List Call) :
    ((p.meaning rules).history session calls).map Outcome.answer =
      (p.uncachedRuns rules calls).map Outcome.answer := by
  induction calls generalizing session with
  | nil => rfl
  | cons call calls ih => exact List.cons_eq_cons.mpr ⟨answer_run p call session, ih _⟩

/-- The events of a history are those of the runs without a cache, replayed one after another, and
so is what is stored in the end. -/
theorem history_traces (p : Grammar) (session : Session (Resolved rules)) (calls : List Call) :
    let replayed := session.nextRun.replay (Outcome.traces (p.uncachedRuns rules calls))
    Outcome.traces ((p.meaning rules).history session calls) = replayed.trace ∧
      ((p.meaning rules).sessionAfter session calls).stored = replayed.stored := by
  induction calls generalizing session with
  | nil => exact ⟨rfl, rfl⟩
  | cons call calls ih =>
    have replays := run_replays p call session.nextRun
    obtain ⟨traces, stored⟩ := ih (call.run (p.meaning rules) session.nextRun).session
    show (call.run (p.meaning rules) session.nextRun).session.trace ++ Outcome.traces _ =
        (session.nextRun.replay ((call.run (p.uncached rules) .fresh).session.trace ++
          Outcome.traces (p.uncachedRuns rules calls))).trace ∧
      ((p.meaning rules).sessionAfter (call.run (p.meaning rules) session.nextRun).session
          calls).stored =
        (session.nextRun.replay ((call.run (p.uncached rules) .fresh).session.trace ++
          Outcome.traces (p.uncachedRuns rules calls))).stored
    rw [traces, stored, Session.replay_append, ← replays]
    obtain ⟨same_stored, parted⟩ := Session.replay_nextRun
      (call.run (p.meaning rules) session.nextRun).session
      (Outcome.traces (p.uncachedRuns rules calls))
    exact ⟨parted.symm, same_stored.symm⟩

/-- In a history a rule that cannot be built is never stored, and a run that uses one ends with its
fault. -/
theorem history_failed (p : Grammar) (calls : List Call) {name : String} {fault : Fault}
    (failed : rules name = .error fault) :
    ∀ outcome ∈ (p.meaning rules).history session calls, name ∉ outcome.session.resolved ∧
      (Event.callsOf name outcome.session.trace ≠ 0 →
        outcome.result = .error (.fault fault)) := by
  induction calls generalizing session with
  | nil => exact nofun
  | cons call calls ih =>
    have caused : Event.callsOf name
        (call.run (p.meaning rules) session.nextRun).session.trace ≠ 0 →
        (call.run (p.meaning rules) session.nextRun).result = .error (.fault fault) := by
      obtain ⟨result, replays, cause⟩ :=
        meaning_replays rules p call.text call.pos call.budget session.nextRun
      have count := Session.replay_failed failed session.nextRun
        (call.run (p.uncached rules) .fresh).session.trace
      rw [Session.nextRun_trace, Event.callsOf_nil, Nat.zero_add] at count
      intro used
      rw [run_replays, count] at used
      exact result.trans (cause name fault failed used)
    rw [Parser.history_cons]
    exact List.forall_mem_cons.mpr ⟨⟨Session.not_mem_resolved failed _, caused⟩, ih⟩

end Grammar

/-- The cache of rules is transparent, and it is written at most once for each rule. Take any runs
with one parser, whatever they are run on and however they end.

Each run answers as it would with a parser that was just built. What happens besides is what happens
if definitions are called at every use of a rule, but for the calls of rules that are stored. So the
definition of a rule that can be built is called once, if the rule is used at all, and then the rule
is stored: what is stored are the used rules, each once, with the grammars that their definitions
build. A rule that cannot be built is never stored: its definition is called at every use, which
ends the run with the same fault each time. -/
theorem Grammar.cache_transparent (rules : Rules) (p : Grammar) (calls : List Call) :
    let outcomes := (p.meaning rules).history .fresh calls
    let reached := (p.meaning rules).sessionAfter .fresh calls
    let uses := Outcome.traces (p.uncachedRuns rules calls)
    outcomes.map Outcome.answer =
        calls.map (fun call => (call.run (p.meaning rules) .fresh).answer) ∧
      Outcome.traces outcomes = (Session.replay .fresh uses : Session (Resolved rules)).trace ∧
      (∀ name definition, rules name = .ok definition →
        Event.callsOf name (Outcome.traces outcomes) = min 1 (Event.callsOf name uses) ∧
        (name ∈ reached.resolved ↔ Event.callsOf name uses ≠ 0)) ∧
      (reached.resolved.Nodup ∧ ∀ rule ∈ reached.stored, rules rule.name = .ok rule.grammar) ∧
      ∀ name fault, rules name = .error fault →
        Event.callsOf name (Outcome.traces outcomes) = Event.callsOf name uses ∧
        ∀ outcome ∈ outcomes, name ∉ outcome.session.resolved ∧
          (Event.callsOf name outcome.session.trace ≠ 0 →
            outcome.result = .error (.fault fault)) := by
  obtain ⟨traces, stored⟩ := history_traces p (.fresh : Session (Resolved rules)) calls
  have resolved := congrArg (List.map Resolved.name) stored
  refine ⟨?_, traces, ?_, ⟨?_, fun rule _ => rule.built⟩, ?_⟩
  · rw [history_answers, uncachedRuns, List.map_map]
    apply List.map_congr_left
    intro call _
    exact (answer_run p call .fresh).symm
  · intro name definition defined
    obtain ⟨used, count⟩ := Session.replay_built ⟨name, definition, defined⟩ .fresh
      (Outcome.traces (p.uncachedRuns rules calls))
    rw [traces, Session.resolved, resolved]
    exact ⟨count.trans (Nat.zero_add _), used.trans (or_iff_right List.not_mem_nil)⟩
  · rw [Session.resolved, resolved]
    exact (Session.stored_replay _ _).2 List.nodup_nil
  · intro name fault failed
    refine ⟨?_, history_failed p calls failed⟩
    rw [traces, Session.replay_failed failed]
    exact Nat.zero_add _

def Rules.wordsAndBroken : Rules :=
  ofList [("word", .ok Grammar.word), ("broken", .error (.raised .value "broken"))]

/-- Two words are read, and twice no word. Of the six uses of `word` the first builds it, and what
it builds is stored; `broken` is tried at both its uses and never stored. -/
theorem Grammar.broken_tried_again :
    let calls := [['a', 'b'], ['c'], ['a', 'c'], ['b']].map fun chars =>
      Call.mk (.ofList chars) 0 10
    let p := choice [.rule "word", .rule "broken"]
    let outcomes := (p.meaning Rules.wordsAndBroken).history .fresh calls
    let reached := (p.meaning Rules.wordsAndBroken).sessionAfter .fresh calls
    let uses := Outcome.traces (p.uncachedRuns Rules.wordsAndBroken calls)
    (Event.callsOf "word" uses = 6 ∧ Event.callsOf "word" (Outcome.traces outcomes) = 1 ∧
      "word" ∈ reached.resolved) ∧
    (Event.callsOf "broken" uses = 2 ∧ Event.callsOf "broken" (Outcome.traces outcomes) = 2 ∧
      "broken" ∉ reached.resolved) := by
  intro calls p outcomes reached uses
  obtain ⟨_, _, built, _, failed⟩ := cache_transparent Rules.wordsAndBroken p calls
  obtain ⟨called, stored⟩ := built "word" word rfl
  have words : Event.callsOf "word" uses = 6 := by decide
  have broken : Event.callsOf "broken" uses = 2 := by decide
  refine ⟨⟨words, called.trans ?_, stored.mpr ?_⟩, broken,
    (failed "broken" _ rfl).1.trans broken, Session.not_mem_resolved rfl reached⟩
  · exact congrArg (min 1) words
  · rw [words]
    decide

end Descent
