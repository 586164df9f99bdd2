import Descent.Parser.Rule

set_option autoImplicit false

namespace Descent

variable {σ α : Type} {definition : Definition σ} {item : σ} {fault : Fault}

namespace Session

theorem build_of_find? {session : Session σ} (found : session.find? definition = some item) :
    definition.build = .ok item :=
  definition.sound item (List.find?_some found)

theorem find?_of_error (failed : definition.build = .error fault) (session : Session σ) :
    session.find? definition = none := by
  cases found : session.find? definition with
  | none => rfl
  | some item => exact nomatch (build_of_find? found).symm.trans failed

/-- The session once a definition has been resolved to what it builds. -/
def built (session : Session σ) (definition : Definition σ) (item : σ) : Session σ :=
  match session.find? definition with
  | some _ => session
  | none => (session.record (.forced definition.name)).store item

end Session

theorem Action.resolve_ok (built : definition.build = .ok item) (budget : Nat)
    (session : Session σ) :
    resolve definition budget session = .done item (session.built definition item) := by
  unfold resolve force
  simp only [bind_apply, find?, Session.built]
  cases found : session.find? definition with
  | none =>
    rw [built]
    rfl
  | some stored =>
    rw [Except.ok.inj (built.symm.trans (Session.build_of_find? found))]
    rfl

theorem Action.resolve_error (failed : definition.build = .error fault) (budget : Nat)
    (session : Session σ) :
    resolve definition budget session =
      .stopped (.fault fault) (session.record (.forced definition.name)) := by
  unfold resolve force
  simp only [bind_apply, find?, Session.find?_of_error failed, failed]
  rfl

namespace Parser

variable {run : σ → Parser σ α}

theorem rule_ok (built : definition.build = .ok item) (text : Text) (pos : Int) (budget : Nat)
    (session : Session σ) :
    rule definition run text pos budget session =
      run item text pos budget (session.built definition item) := by
  rw [rule, Action.bind_apply, Action.resolve_ok built]

theorem rule_error (failed : definition.build = .error fault) (text : Text) (pos : Int)
    (budget : Nat) (session : Session σ) :
    rule definition run text pos budget session =
      .stopped (.fault fault) (session.record (.forced definition.name)) := by
  rw [rule, Action.bind_apply, Action.resolve_error failed]

end Parser

end Descent
