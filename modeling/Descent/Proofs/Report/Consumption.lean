import Descent.Proofs.Sequencing.Reports

set_option autoImplicit false

namespace Descent.Parser

variable {σ α : Type}

/-- Where a failure is reported does not show in what is told of it. -/
theorem verdict_anchor (text : Text) (source : String) (consumeAll : Bool) (reply : Reply α)
    (pos : Int) :
    verdict text source consumeAll (reply.anchor pos) = verdict text source consumeAll reply := by
  cases reply with
  | success value stop => rfl
  | failure refusal =>
    exact congrArg Except.error
      (ParseError.ofFailure_congr (refusal.deepest_anchor pos) text source)

/-- The reply of the end of the text behind a match that ends at `stop`. -/
def atEnd (text : Text) (value : α) (stop : Int) : Reply α :=
  if text.length ≤ stop then .success value stop
  else .failure (.leaf stop (some "end of input"))

theorem eof_as (value : α) (text : Text) (stop : Int) :
    ((eof : Parser σ Unit).map fun _ => value) text stop = pure (atEnd text value stop) := by
  unfold eof atEnd
  by_cases ended : text.length ≤ stop
  · simp only [map, ended, ↓reduceIte, pure_bind]
    rfl
  · simp only [map, ended, ↓reduceIte, pure_bind]
    rfl

/-- A match that the end of the text has followed is at its end, so nothing more is demanded of it.
-/
theorem verdict_atEnd (text : Text) (source : String) (consumeAll : Bool) (value : α) (stop : Int) :
    verdict text source consumeAll (atEnd text value stop) =
      verdict text source true (.success value stop) := by
  unfold atEnd
  by_cases ended : text.length ≤ stop
  · have nothing_left : ¬ stop < text.length := by omega
    simp only [ended, ↓reduceIte, verdict, nothing_left, decide_false, Bool.and_false,
      Bool.false_eq_true]
  · have left : stop < text.length := by omega
    simp only [ended, ↓reduceIte, verdict, left, decide_true, Bool.and_true]

/-- Demanding that the whole text be consumed is the same as putting the end of the text behind the
parser, whether or not it is demanded there as well: the two runs yield the same value, or the same
report, or end with the same fault, and leave the same events. -/
theorem run_consuming (p : Parser σ α) (text : Text) (source : String) (consumeAll : Bool) :
    p.run text source true = (p.seqLeft eof).run text source consumeAll := by
  simp only [run, seqLeft, Parser.bind, bind_assoc]
  refine bind_congr fun reply => ?_
  cases reply with
  | failure refusal =>
    rw [pure_bind, ← Reply.anchor_failure, verdict_anchor]
    rfl
  | success value stop =>
    simp only [eof_as, pure_bind]
    rw [verdict_anchor, verdict_atEnd]

end Descent.Parser
