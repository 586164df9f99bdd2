import Descent.Proofs.Parallel.Rewriting
import Descent.Proofs.Tracing.Attempt
import Mathlib.Data.List.Induction

set_option autoImplicit false

namespace Descent

def Rewriting.untraced : Rewriting :=
  ⟨fun message p => .label p message, fun _ p => p⟩

def Grammar.untraced (p : Grammar) : Grammar :=
  p.rewritten .untraced

def Rules.untraced (rules : Rules) : Rules :=
  rules.rewritten .untraced

def Session.untraced {rules : Rules} (session : Session (Resolved rules)) :
    Session (Resolved rules.untraced) :=
  session.rewritten .untraced

/-- The second events are the first without some lines of traces. -/
inductive Event.Thinned (text : Text) : List Event → List Event → Prop where
  | nil : Thinned text [] []
  | keep (event : Event) (events others : List Event) (earlier : Thinned text events others) :
      Thinned text (events ++ [event]) (others ++ [event])
  | drop (name : String) (pos : Int) {events others : List Event}
      (earlier : Thinned text events others) :
      Thinned text (events ++ [.entered name text pos]) others

theorem Event.Thinned.refl (text : Text) (events : List Event) : Thinned text events events := by
  induction events using List.reverseRecOn with
  | nil => exact .nil
  | append_singleton events event earlier => exact .keep event events events earlier

namespace Parallel.Untracing

variable {rules rules' : Rules} {text : Text}

/-- The first run may print a line of a trace that the second does not print. -/
theorem record_first {s : Session (Resolved rules)} {t : Session (Resolved rules')} (name : String)
    (pos : Int) (together : (tracked rules rules' text (Event.Thinned text)).sessions s t) :
    (tracked rules rules' text (Event.Thinned text)).sessions
      (s.record (.entered name text pos)) t := by
  obtain ⟨resolved, thinned⟩ := together
  refine ⟨resolved, ?_⟩
  rw [Session.trace_record]
  exact .drop name pos thinned

/-- A trace on the first side only: both runs match, fail or end together, whatever the trace puts
in the place of a failure. -/
theorem traced_first {α : Type} {p : Parser (Resolved rules) α} {q : Parser (Resolved rules') α}
    (name : String)
    (alike : (tracked rules rules' text (Event.Thinned text)).Alike (fun _ => True) p q) :
    (tracked rules rules' text (Event.Thinned text)).Alike (fun _ => True) (p.traced name) q := by
  intro pos starts budget s t together
  have place : pos + (tracked rules rules' text (Event.Thinned text)).shift = pos :=
    Int.add_zero pos
  have here : (tracked rules rules' text (Event.Thinned text)).first = text := rfl
  have outcomes := alike pos starts budget _ t (record_first name pos together)
  rw [place, here] at outcomes ⊢
  rw [Parser.traced_apply]
  generalize p text pos budget (s.record (.entered name text pos)) = first,
    q (tracked rules rules' text (Event.Thinned text)).second pos budget t = second at outcomes
  cases outcomes with
  | done replies later =>
    cases replies with
    | success stop same reached => exact .done (.success stop same reached) later
    | failure _ => exact .done (.failure trivial) (record_first _ pos later)
  | fault same => exact .fault same
  | exhausted later => exact .exhausted later

theorem rewrites :
    (tracked rules rules' text (Event.Thinned text)).Rewrites (fun _ => True) .untraced where
  label message _ _ _ _ alike := Alike.label (Tracked.uniform .keep) message alike
  traced name _ _ _ _ alike := traced_first name alike

end Parallel.Untracing

end Descent
