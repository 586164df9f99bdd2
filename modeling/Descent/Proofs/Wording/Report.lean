import Descent.Parser.Run
import Descent.Proofs.Placement.Reply

set_option autoImplicit false

namespace Descent

namespace Reply

variable {α : Type}

/-- The two replies are the same match, or failures with the same places from the outermost to the
innermost cause. -/
def SameButWording : Reply α → Reply α → Prop
  | success value stop, success value' stop' => value = value' ∧ stop = stop'
  | failure refusal, failure refusal' => refusal.positions = refusal'.positions
  | _, _ => False

end Reply

namespace ParseError

/-- The two reports tell the same place, and that the same was found at one offset of the text. They
may differ in what they say was expected there. -/
def SameButWording (text : Text) (source : String) (report report' : ParseError) : Prop :=
  ∃ (offset : Int) (expected expected' : Option String),
    let found := finding (text.slice offset (offset + excerptLength))
    report.place = SourcePos.ofOffset text offset source ∧
      report'.place = SourcePos.ofOffset text offset source ∧
      report.message = expectation expected ++ ", found " ++ found ∧
      report'.message = expectation expected' ++ ", found " ++ found

end ParseError

namespace Parser

/-- The two runs have the same value, or reports that differ in their wording at most. -/
def SameVerdict {α : Type} (text : Text) (source : String) :
    Except ParseError α → Except ParseError α → Prop
  | .ok value, .ok value' => value = value'
  | .error report, .error report' => report.SameButWording text source report'
  | _, _ => False

end Parser

variable {α : Type}

/-- Failures with the same places are reported alike. -/
theorem ParseError.ofFailure_sameButWording {failure failure' : Failure} (text : Text)
    (source : String) (same : failure.positions = failure'.positions) :
    (ofFailure failure text source).SameButWording text source
    (ofFailure failure' text source) := by
  obtain ⟨outermost, causes⟩ := List.cons.inj same
  have deepest : failure.deepestFrame.pos = failure'.deepestFrame.pos := by
    rw [Failure.deepestFrame_pos, Failure.deepestFrame_pos, causes]
    exact congrArg (List.getLastD _) outermost
  refine ⟨failure.deepestFrame.pos, failure.deepestFrame.expected, failure'.deepestFrame.expected,
    rfl, ?_, rfl, ?_⟩ <;> rw [deepest] <;> rfl

/-- Whether input is left over, and where, is not a matter of wording. -/
theorem Parser.verdict_sameButWording {reply reply' : Reply α} (text : Text) (source : String)
    (consumeAll : Bool) (same : reply.SameButWording reply') :
    SameVerdict text source (verdict text source consumeAll reply)
      (verdict text source consumeAll reply') := by
  cases reply with
  | success value stop =>
    cases reply' with
    | failure refusal => exact same.elim
    | success value' stop' =>
      obtain ⟨rfl, rfl⟩ := same
      by_cases left : (consumeAll && decide (stop < text.length)) = true
      · simp only [verdict, left, ↓reduceIte]
        exact ParseError.ofFailure_sameButWording text source rfl
      · simp only [verdict, left]
        rfl
  | failure refusal =>
    cases reply' with
    | success value stop => exact same.elim
    | failure refusal' => exact ParseError.ofFailure_sameButWording text source same

end Descent
