import Descent.Proofs.Action.Sameness
import Descent.Proofs.Parallel.OneText
import Descent.Proofs.Parallel.Rewriting
import Descent.Proofs.Wording.Report

set_option autoImplicit false

namespace Descent

def Rewriting.unlabeled : Rewriting :=
  ⟨fun _ p => p, Grammar.traced⟩

/-- The grammar without the labels that were put on its parts. -/
def Grammar.unlabeled (p : Grammar) : Grammar :=
  p.rewritten .unlabeled

def Rules.unlabeled (rules : Rules) : Rules :=
  rules.rewritten .unlabeled

section

variable {rules : Rules}

def Session.unlabeled (session : Session (Resolved rules)) : Session (Resolved rules.unlabeled) :=
  session.rewritten .unlabeled

/-- The outcome, what is stored being without labels. -/
def Outcome.unlabeled {α : Type} (outcome : Outcome (Resolved rules) α) :
    Outcome (Resolved rules.unlabeled) α :=
  outcome.rewritten .unlabeled

end

namespace Parallel

/-- Two runs on one text that differ in what their failures expect at most, and in the labels of
what they store. -/
def reworded (rules : Rules) (text : Text) :
    Parallel (Resolved rules) (Resolved rules.unlabeled) where
  sessions := fun s t => s.unlabeled = t
  stops := fun fault s fault' t => fault = fault' ∧ s.unlabeled = t
  first := text
  second := text
  shift := 0
  failures := fun f g => f.positions = g.positions
  anchors := by
    intro f g pos same
    have outermost : f.pos = g.pos := (List.cons.inj same).1
    rw [Failure.positions_anchor, Failure.positions_anchor, Int.add_zero, outermost, same]

namespace Reworded

variable {rules : Rules} {text : Text}

theorem uniform : (reworded rules text).Uniform fun _ => True where
  faults _ _ _ same := ⟨rfl, same⟩
  leaves pos _ _ := congrArg (fun place => [place]) (Int.add_zero pos)
  labels _ _ _ same := same
  slices start stop _ _ := slices_still rfl rfl start stop
  logs s t tag value same := by
    obtain rfl : s.unlabeled = t := same
    rfl

theorem oneText : (reworded rules text).OneText where
  texts := rfl
  still := rfl
  failures _ := rfl
  faults := uniform.faults
  prints s t line same := by
    obtain rfl : s.unlabeled = t := same
    rfl

/-- A label on the first side only: it leaves the places of a failure as they are. -/
theorem label_first {α : Type} {p : Parser (Resolved rules) α}
    {q : Parser (Resolved rules.unlabeled) α} (message : String)
    (alike : (reworded rules text).Alike (fun _ => True) p q) :
    (reworded rules text).Alike (fun _ => True) (p.label message) q := by
  intro pos starts
  rw [← bind_pure (q (reworded rules text).second pos)]
  apply (alike pos starts).bind
  intro reply reply' replies
  cases replies with
  | success stop same reached => exact Pairing.Actions.pure (.success stop same reached)
  | failure same => exact Pairing.Actions.pure (.failure same)

theorem built (s : Session (Resolved rules)) (t : Session (Resolved rules.unlabeled))
    (rule : Resolved rules) (same : (reworded rules text).sessions s t) :
    (reworded rules text).sessions (s.built (rules.definition rule.name) rule)
      (t.built (rules.unlabeled.definition rule.name) (rule.rewritten .unlabeled)) := by
  obtain rfl : s.unlabeled = t := same
  exact Session.rewritten_built .unlabeled rule s

theorem tried {s : Session (Resolved rules)} {t : Session (Resolved rules.unlabeled)}
    {name : String} {fault : Fault} (same : (reworded rules text).sessions s t) :
    (reworded rules text).stops fault (s.record (.forced name)) fault
      (t.record (.forced name)) := by
  obtain rfl : s.unlabeled = t := same
  exact ⟨rfl, rfl⟩

theorem rewrites : (reworded rules text).Rewrites (fun _ => True) .unlabeled where
  label message _ _ _ _ alike := label_first message alike
  traced name _ _ _ _ alike :=
    Alike.traced uniform name (oneText.trace name) (oneText.trace _) alike

theorem sameButWording {α : Type} {first : Outcome (Resolved rules) (Reply α)}
    {second : Outcome (Resolved rules.unlabeled) (Reply α)}
    (outcomes : (reworded rules text).Outcomes ((reworded rules text).Replies (fun _ => True) Eq)
      first second) :
    Outcome.Same Reply.SameButWording first.unlabeled second := by
  cases outcomes with
  | done replies sessions =>
    cases sessions
    obtain ⟨value, stop, rfl, rfl⟩ | ⟨f, g, rfl, rfl, same⟩ := replies.same_or_refused rfl
    · exact .done ⟨rfl, rfl⟩
    · exact .done same
  | fault same =>
    obtain ⟨rfl, rfl⟩ := same
    exact .stopped _ _
  | exhausted sessions =>
    cases sessions
    exact .stopped _ _

end Reworded

end Parallel

theorem Grammar.meaning_sameButWording (rules : Rules) (p : Grammar) (text : Text) (pos : Int)
    (budget : Nat) (session : Session (Resolved rules)) :
    Outcome.Same Reply.SameButWording (p.meaning rules text pos budget session).unlabeled
      (p.unlabeled.meaning rules.unlabeled text pos budget session.unlabeled) := by
  have one : (Parallel.reworded rules text).OneText := Parallel.Reworded.oneText
  have alike := (one.parts Parallel.Reworded.uniform).rewritten_meaning
    Parallel.Reworded.rewrites Parallel.Reworded.built (fun _ _ _ _ => Parallel.Reworded.tried) p
  exact Parallel.Reworded.sameButWording (one.outcomes alike pos budget rfl)

/-- Labels affect the wording of failures and nothing else. A grammar and the same grammar without
labels, whatever else they and their rules are made of, match alike with the same value and the same
end, or fail with the same places along the whole chain of causes, or end with the same fault, and
leave the same events. So running them gives the same value, or reports of the same place with the
same text found there. -/
theorem Grammar.labels_reword (rules : Rules) (p : Grammar) (text : Text) (budget : Nat)
    (session : Session (Resolved rules)) :
    (∀ pos, Outcome.Same Reply.SameButWording (p.meaning rules text pos budget session).unlabeled
      (p.unlabeled.meaning rules.unlabeled text pos budget session.unlabeled)) ∧
    ∀ source consumeAll, Outcome.Same (Parser.SameVerdict text source)
      ((p.meaning rules).run text source consumeAll budget session).unlabeled
      ((p.unlabeled.meaning rules.unlabeled).run text source consumeAll budget
        session.unlabeled) := by
  refine ⟨fun pos => p.meaning_sameButWording rules text pos budget session, ?_⟩
  intro source consumeAll
  have same := p.meaning_sameButWording rules text 0 budget session
  unfold Parser.run
  rw [Action.bind_apply, Action.bind_apply]
  generalize p.meaning rules text 0 budget session = first,
    p.unlabeled.meaning rules.unlabeled text 0 budget session.unlabeled = second at same
  cases first with
  | done reply reached =>
    cases same with
    | done related => exact .done (Parser.verdict_sameButWording text source consumeAll related)
  | stopped reason reached =>
    cases same
    exact .stopped reason reached.unlabeled

end Descent
