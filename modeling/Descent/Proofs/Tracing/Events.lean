import Descent.Proofs.Cache.Replay
import Descent.Proofs.Parallel.OneText

set_option autoImplicit false

namespace Descent

namespace Parallel

/-- Two runs on one text that store rules of the same names and whose events stand in a relation.
Any two failures go together. -/
def tracked (rules rules' : Rules) (text : Text) (events : List Event → List Event → Prop) :
    Parallel (Resolved rules) (Resolved rules') where
  sessions := fun s t => s.resolved = t.resolved ∧ events s.trace t.trace
  stops := fun fault s fault' t =>
    fault = fault' ∧ s.resolved = t.resolved ∧ events s.trace t.trace
  first := text
  second := text
  shift := 0
  failures := fun _ _ => True
  anchors := fun _ _ => trivial

namespace Tracked

variable {rules rules' : Rules} {text : Text} {events : List Event → List Event → Prop}
  {s : Session (Resolved rules)} {t : Session (Resolved rules')}

section

variable (kept : ∀ event xs ys, events xs ys → events (xs ++ [event]) (ys ++ [event]))
include kept

theorem record (event : Event) (together : (tracked rules rules' text events).sessions s t) :
    (tracked rules rules' text events).sessions (s.record event) (t.record event) := by
  obtain ⟨resolved, related⟩ := together
  refine ⟨resolved, ?_⟩
  rw [Session.trace_record, Session.trace_record]
  exact kept event _ _ related

theorem built (rule : Resolved rules) (rule' : Resolved rules') (same : rule'.name = rule.name)
    (together : (tracked rules rules' text events).sessions s t) :
    (tracked rules rules' text events).sessions (s.built (rules.definition rule.name) rule)
      (t.built (rules'.definition rule'.name) rule') := by
  by_cases known : rule.name ∈ s.resolved
  · rw [Session.built_of_mem rule known, Session.built_of_mem rule' (by rwa [same, ← together.1])]
    exact together
  · rw [Session.built_of_not_mem rule known,
      Session.built_of_not_mem rule' (by rwa [same, ← together.1]), same]
    obtain ⟨resolved, related⟩ := record kept (.forced rule.name) together
    exact ⟨List.cons_eq_cons.mpr ⟨same.symm, resolved⟩, related⟩

theorem uniform : (tracked rules rules' text events).Uniform fun _ => True where
  faults _ _ _ together := ⟨rfl, together⟩
  leaves _ _ _ := trivial
  labels _ _ _ _ := trivial
  slices start stop _ _ := slices_still rfl rfl start stop
  logs _ _ _ _ together := record kept _ together

theorem oneText : (tracked rules rules' text events).OneText where
  texts := rfl
  still := rfl
  failures _ := trivial
  faults := (uniform kept).faults
  prints _ _ _ together := record kept _ together

theorem parts : (tracked rules rules' text events).Parts (fun _ => True) Grammar.Primitive :=
  (oneText kept).parts (uniform kept)

end

end Tracked

end Parallel

end Descent
