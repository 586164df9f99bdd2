import Descent.Parser.Run
import Descent.Proofs.Action.Sameness
import Descent.Proofs.Parser.Mapping
import Descent.Proofs.Parser.Reporting

set_option autoImplicit false

namespace Descent

/-- A report tells nothing of a failure but its innermost cause. -/
theorem ParseError.ofFailure_congr {failure failure' : Failure}
    (same : failure.deepest = failure'.deepest) (text : Text) (source : String) :
    ofFailure failure text source = ofFailure failure' text source := by
  have frame : failure.deepestFrame = failure'.deepestFrame := congrArg Failure.frame same
  rw [ofFailure, frame]
  rfl

namespace Parser

open Descent.Action (Same)

variable {σ α β : Type}

theorem verdict_congr {reply reply' : Reply α} (same : reply.SameReport reply') (text : Text)
    (source : String) (consumeAll : Bool) :
    verdict text source consumeAll reply = verdict text source consumeAll reply' := by
  cases same with
  | success value stop => rfl
  | failure pos expected deepest =>
    exact congrArg Except.error (ParseError.ofFailure_congr deepest text source)

/-- From every place of every text, with every budget and in every session, the two parsers leave
the same events and come to the same match, to failures reported alike, or to the same fault. -/
def SameReports (p q : Parser σ α) : Prop :=
  ∀ text pos, Same Reply.SameReport (p text pos) (q text pos)

namespace SameReports

theorem refl (p : Parser σ α) : p.SameReports p :=
  fun _ _ => .refl Reply.SameReport.refl _

theorem trans {p q r : Parser σ α} (first : p.SameReports q) (second : q.SameReports r) :
    p.SameReports r :=
  fun text pos => (first text pos).trans (fun _ _ _ => .trans) (second text pos)

theorem map {p q : Parser σ α} (f : α → β) (same : p.SameReports q) :
    (p.map f).SameReports (q.map f) :=
  fun text pos => (same text pos).bind fun _ _ replies => .pure (replies.map f)

theorem bind {p q : Parser σ α} {next after : α → Parser σ β} (same : p.SameReports q)
    (rest : ∀ value, (next value).SameReports (after value)) :
    (p.bind next).SameReports (q.bind after) := by
  intro text pos
  apply (same text pos).bind
  intro reply reply' replies
  cases replies with
  | success value stop =>
    exact (rest value text stop).bind fun _ _ later => .pure (later.anchored pos)
  | failure here expected deepest =>
    exact .pure (Reply.SameReport.anchored (.failure here expected deepest) pos)

/-- A run tells the same of parsers that report alike. -/
theorem run_eq {p q : Parser σ α} (same : p.SameReports q) (text : Text) (source : String)
    (consumeAll : Bool) : p.run text source consumeAll = q.run text source consumeAll := by
  have verdicts : Same Eq (p.run text source consumeAll) (q.run text source consumeAll) :=
    (same text 0).bind fun _ _ replies => .pure (verdict_congr replies text source consumeAll)
  funext budget session
  have outcomes := verdicts budget session
  generalize p.run text source consumeAll budget session = a,
    q.run text source consumeAll budget session = b at outcomes
  cases outcomes with
  | done same => rw [same]
  | stopped reason later => rfl

end SameReports

end Parser

end Descent
