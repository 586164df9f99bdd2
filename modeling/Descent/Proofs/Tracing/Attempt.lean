import Descent.Proofs.Tracing.Events

set_option autoImplicit false

namespace Descent

namespace Event

/-- The same events were added, here to the first, there to the second. -/
def AddedTo (before after : List Event) (events others : List Event) : Prop :=
  ∃ output, events = before ++ output ∧ others = after ++ output

theorem AddedTo.snoc {before after : List Event} (event : Event) (events others : List Event)
    (added : AddedTo before after events others) :
    AddedTo before after (events ++ [event]) (others ++ [event]) := by
  obtain ⟨output, here, there⟩ := added
  refine ⟨output ++ [event], ?_, ?_⟩
  · rw [here, List.append_assoc]
  · rw [there, List.append_assoc]

end Event

/-- Whatever happened before, the parser does the same. -/
def Parser.Oblivious {rules : Rules} {α : Type} (p : Parser (Resolved rules) α) : Prop :=
  ∀ text before after,
    (Parallel.tracked rules rules text (Event.AddedTo before after)).Alike (fun _ => True) p p

theorem Grammar.parser_oblivious {rules : Rules} {self : String → Parser (Resolved rules) Value}
    (each : ∀ name, (self name).Oblivious) (p : Grammar) : (p.parser self).Oblivious :=
  fun text before after => (Parallel.Tracked.parts Event.AddedTo.snoc).grammar
    (fun name => each name text before after) p.builtFrom_primitive

namespace Rules

variable (rules : Rules)

theorem body_oblivious {self : String → Parser (Resolved rules) Value}
    (each : ∀ name, (self name).Oblivious) (name : String) : (rules.body self name).Oblivious := by
  intro text before after
  cases defined : rules name with
  | ok p =>
    let rule : Resolved rules := ⟨name, p, defined⟩
    have built := build_of_ok rule.built
    exact Parallel.Alike.rule built built
      (fun _ _ => Parallel.Tracked.built Event.AddedTo.snoc rule rule rfl)
      (p.parser_oblivious each text before after)
  | error fault =>
    have failed := build_of_error defined
    exact Parallel.Alike.rule_error failed failed fun _ _ together =>
      ⟨rfl, Parallel.Tracked.record Event.AddedTo.snoc (.forced name) together⟩

/-- At every depth to which the rules are unrolled they are oblivious of what happened before. -/
theorem unroll_oblivious (depth : Nat) (name : String) :
    (Parser.unroll rules.body depth name).Oblivious := by
  induction depth generalizing name with
  | zero => exact fun _ _ _ _ _ => Pairing.Actions.exhausted
  | succ depth ih => exact rules.body_oblivious ih name

theorem parser_oblivious (name : String) : (rules.parser name).Oblivious :=
  fun text before after pos starts budget =>
    rules.unroll_oblivious budget name text before after pos starts budget

end Rules

namespace Event

def entered (name : String) (text : Text) (pos : Int) : Event :=
  .printed (Parser.traceLine name text pos)

def backtracked (name : String) (text : Text) (pos : Int) : Event :=
  entered (name ++ " backtracked") text pos

end Event

namespace Parser

variable {σ α : Type}

/-- A traced run is a run in a session with the line of the trace; if that run fails, there is a
second line, and the trace fails in its place. -/
theorem traced_apply (name : String) (p : Parser σ α) (text : Text) (pos : Int) (budget : Nat)
    (session : Session σ) :
    traced name p text pos budget session =
      match p text pos budget (session.record (.entered name text pos)) with
      | .done (.success value stop) later => .done (.success value stop) later
      | .done (.failure _) later =>
        .done (.failure (.leaf pos (some (name ++ " failed"))))
          (later.record (.backtracked name text pos))
      | .stopped reason later => .stopped reason later := by
  have entered : traced name p text pos budget session =
      ((p.orElse ((trace (name ++ " backtracked")).seqRight (fail (name ++ " failed")))) text pos
        >>= fun reply => return reply.anchor pos) budget
        (session.record (.entered name text pos)) := rfl
  rw [entered, Action.bind_apply, orElse, Action.bind_apply]
  cases p text pos budget (session.record (.entered name text pos)) with
  | done reply later =>
    cases reply with
    | success value stop => rfl
    | failure failure =>
      -- the failure of the trace is reported where it stands, so anchoring it changes nothing
      have stands : (Failure.leaf pos (some (name ++ " failed"))).anchor pos =
          .leaf pos (some (name ++ " failed")) := Failure.anchor_self _
      simp only [seqRight, Parser.bind, trace, fail, failWith, Action.bind_apply, Action.record,
        Action.pure_apply, Reply.anchor_failure, stands]
      rfl
  | stopped reason later => rfl

end Parser

end Descent
