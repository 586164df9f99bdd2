import Descent.Proofs.Action.Promise
import Descent.Proofs.Parser.Budget

set_option autoImplicit false

namespace Descent.Parser

open Descent.Action (Comes Ensures Halts Yields)

variable {σ α ι : Type}

theorem rule_ensures {definition : Definition σ} {run : σ → Parser σ α} {text : Text} {pos : Int}
    {good : Reply α → Prop}
    (each : ∀ item, definition.build = .ok item → Ensures (run item text pos) good) :
    Ensures (rule definition run text pos) good := by
  intro budget session reply reached ran
  cases built : definition.build with
  | ok item =>
    rw [rule_ok built] at ran
    exact each item built budget _ reply reached ran
  | error fault =>
    rw [rule_error built] at ran
    cases ran

/-- What holds of a parser that is never settled, and of the body wherever it holds of the parsers
that the body uses, holds at every depth. -/
theorem unroll_induction {body : (ι → Parser σ α) → ι → Parser σ α} (good : ι → Parser σ α → Prop)
    (start : ∀ i, good i fun _ _ => Action.exhausted)
    (step : ∀ self, (∀ i, good i (self i)) → ∀ i, good i (body self i)) (depth : Nat) (i : ι) :
    good i (unroll body depth i) := by
  induction depth generalizing i with
  | zero => exact start i
  | succ depth ih => exact step _ ih i

theorem fix_ensures {body : (ι → Parser σ α) → ι → Parser σ α} {i : ι} {text : Text} {pos : Int}
    {good : Reply α → Prop} (each : ∀ depth, Ensures (unroll body depth i text pos) good) :
    Ensures (fix body i text pos) good :=
  fun budget => each budget budget

theorem many_ensures {p : Parser σ α} {text : Text} {pos : Int} {good : Reply (List α) → Prop}
    (each : ∀ rounds, Ensures (p.repeatUpTo rounds text pos) good) :
    Ensures (p.many text pos) good :=
  fun budget => each budget budget

theorem yields_many {p : Parser σ α} (stable : p.Stable) {text : Text} {pos : Int}
    {good : Reply (List α) → Prop} (yields : Yields (p.round p.many text pos) good) :
    Yields (p.many text pos) good := by
  intro session
  obtain ⟨reply, reached, settles, holds⟩ := yields session
  exact ⟨reply, reached, settles_many stable settles, holds⟩

theorem halts_fix {body : (ι → Parser σ α) → ι → Parser σ α} (regular : Regular body) {i : ι}
    {text : Text} {pos : Int} (halts : Halts (body (fix body) i text pos)) :
    Halts (fix body i text pos) := by
  intro session
  obtain ⟨outcome, settles⟩ := halts session
  exact ⟨outcome, settles_fix regular settles⟩

theorem comes_fix {body : (ι → Parser σ α) → ι → Parser σ α} (regular : Regular body) {i : ι}
    {text : Text} {pos : Int} {good : Reply α → Prop} {bad : Fault → Prop}
    (comes : Comes (body (fix body) i text pos) good bad) :
    Comes (fix body i text pos) good bad := by
  intro session
  obtain ⟨reply, reached, settles, holds⟩ | ⟨fault, reached, settles, holds⟩ := comes session
  · exact .inl ⟨reply, reached, settles_fix regular settles, holds⟩
  · exact .inr ⟨fault, reached, settles_fix regular settles, holds⟩

theorem comes_many {p : Parser σ α} (stable : p.Stable) {text : Text} {pos : Int}
    {good : Reply (List α) → Prop} {bad : Fault → Prop}
    (comes : Comes (p.round p.many text pos) good bad) : Comes (p.many text pos) good bad := by
  intro session
  obtain ⟨reply, reached, settles, holds⟩ | ⟨fault, reached, settles, holds⟩ := comes session
  · exact .inl ⟨reply, reached, settles_many stable settles, holds⟩
  · exact .inr ⟨fault, reached, settles_many stable settles, holds⟩

end Descent.Parser
