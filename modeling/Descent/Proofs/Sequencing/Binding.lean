import Descent.Proofs.Sequencing.Reports

set_option autoImplicit false

namespace Descent.Parser

open Descent.Action (Same)

variable {σ α β γ : Type}

/-- Wherever a failure comes from, grouping to the right adds one cause at most: the one for the
start of the second parser. -/
theorem bind_grouped (p : Parser σ α) (f : α → Parser σ β) (g : β → Parser σ γ) :
    ((p.bind f).bind g).SameReports (p.bind fun value => (f value).bind g) := by
  intro text pos
  simp only [Parser.bind, bind_assoc]
  refine .bind_right _ fun reply => ?_
  cases reply with
  | failure refusal =>
    simp only [pure_bind, Failure.anchor_anchor]
    exact .pure (.refl _)
  | success value middle =>
    simp only [bind_assoc, pure_bind]
    refine .bind_right _ fun reply => ?_
    cases reply with
    | failure refusal =>
      simp only [pure_bind, Reply.anchor_failure, Failure.anchor_anchor]
      exact .pure (Reply.SameReport.anchor (.failure refusal) middle pos)
    | success other stop =>
      simp only [bind_assoc, pure_bind, Reply.anchor_success]
      exact .bind_right _ fun reply => .pure (Reply.SameReport.anchor reply middle pos)

/-- Binding obeys the laws of a monad, up to causes between the outermost and the innermost one.
Grouped to the left or to the right, three parsers come to the same match, or to failures at the
same place that expect the same there and have the same innermost cause, or to the same fault, and
leave the same events; so running them gives the same value or the same report. If failures are
reported at the start, a value in front of what is bound to it changes nothing at all, and neither
does yielding the value once more. -/
theorem bind_laws (p : Parser σ α) (f : α → Parser σ β) (g : β → Parser σ γ) :
    let left := (p.bind f).bind g
    let right := p.bind fun value => (f value).bind g
    left.SameReports right ∧
    (∀ text source consumeAll, left.run text source consumeAll = right.run text source consumeAll) ∧
    ((∀ value, (f value).ReportsAtStart) → ∀ value, (Parser.pure value).bind f = f value) ∧
    (p.ReportsAtStart → p.bind Parser.pure = p) := by
  intro left right
  have grouped : left.SameReports right := bind_grouped p f g
  refine ⟨grouped, grouped.run_eq, ?_, ?_⟩
  · intro reports value
    rw [pure_bind_eq_anchored]
    exact (reports value).anchored_eq
  · intro reports
    rw [bind_pure_eq_anchored]
    exact reports.anchored_eq

/-- Of `abd` the third letter is wrong. Grouped to the right, the letters leave a cause at the place
of the second one, and the report is the same. -/
theorem letters_bound :
    let second (_ : String) : Parser Empty String := literal "b"
    let left := ((literal "a").bind second).bind fun _ => literal "c"
    let right := (literal "a").bind fun x => (second x).bind fun _ => literal "c"
    let text := Text.ofList ['a', 'b', 'd']
    left text 0 0 .fresh =
        .done (.failure ⟨⟨0, some "'c'"⟩, [⟨2, some "'c'"⟩]⟩) .fresh ∧
      right text 0 0 .fresh =
        .done (.failure ⟨⟨0, some "'c'"⟩, [⟨1, some "'c'"⟩, ⟨2, some "'c'"⟩]⟩) .fresh ∧
      left.SameReports right ∧
      (∀ source consumeAll, left.run text source consumeAll = right.run text source consumeAll) ∧
      (Parser.pure "a").bind second = second "a" ∧
        (literal "a" : Parser Empty String).bind Parser.pure = literal "a" := by
  intro second left right text
  obtain ⟨alike, runs, front, last⟩ := bind_laws (literal "a") second fun _ => literal "c"
  exact ⟨by rfl, by rfl, alike, runs text, front (fun _ => literal_reportsAtStart "b") "a",
    last (literal_reportsAtStart "a")⟩

end Descent.Parser
