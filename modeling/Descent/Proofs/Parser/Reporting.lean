import Descent.Parser.Sequence
import Descent.Proofs.Action.Promise

set_option autoImplicit false

namespace Descent

namespace Reply

variable {σ α : Type}

/-- The replies are the same match, or failures at the same place that expect the same there and
have the same innermost cause. -/
inductive SameReport : Reply α → Reply α → Prop where
  | success (value : α) (stop : Int) : SameReport (.success value stop) (.success value stop)
  | failure {f g : Failure} (pos : f.pos = g.pos) (expected : f.expected = g.expected)
      (deepest : f.deepest = g.deepest) : SameReport (.failure f) (.failure g)

theorem SameReport.refl (reply : Reply α) : reply.SameReport reply := by
  cases reply with
  | success value stop => exact .success value stop
  | failure refusal => exact .failure rfl rfl rfl

theorem SameReport.trans {one two three : Reply α} (first : one.SameReport two)
    (second : two.SameReport three) : one.SameReport three := by
  cases first with
  | success value stop => exact second
  | failure pos expected deepest =>
    cases second with
    | failure pos' expected' deepest' =>
      exact .failure (pos.trans pos') (expected.trans expected') (deepest.trans deepest')

/-- Replies that report alike do so wherever their failures are anchored. -/
theorem SameReport.anchored {reply reply' : Reply α} (same : reply.SameReport reply') (pos : Int) :
    (reply.anchor pos).SameReport (reply'.anchor pos) := by
  cases same with
  | success value stop => exact .success value stop
  | failure _ expected deepest => exact .failure (by simp) (by simpa) (by simpa)

theorem SameReport.map {β : Type} {reply reply' : Reply α} (f : α → β)
    (same : reply.SameReport reply') : (reply.map f).SameReport (reply'.map f) := by
  cases same with
  | success value stop => exact .success (f value) stop
  | failure pos expected deepest => exact .failure pos expected deepest

/-- Anchoring a failure elsewhere before it is anchored where it is reported adds a cause at most.
-/
theorem SameReport.anchor (reply : Reply α) (between pos : Int) :
    (reply.anchor pos).SameReport ((reply.anchor between).anchor pos) := by
  cases reply with
  | success value stop => exact .success value stop
  | failure refusal => exact .failure (by simp) (by simp) (by simp)

end Reply

namespace Parser

open Descent.Action (Ensures)

variable {σ α β : Type} {p : Parser σ α}

/-- Wherever the parser is started, it reports its failures there. -/
def ReportsAtStart (p : Parser σ α) : Prop :=
  ∀ text pos, Ensures (p text pos) fun reply =>
    ∀ refusal, reply = .failure refusal → refusal.pos = pos

/-- To report once more what is reported at the start changes nothing. -/
theorem ReportsAtStart.anchored_eq (reports : p.ReportsAtStart) : p.anchored = p := by
  funext text pos
  refine Eq.trans ?_ (bind_pure (p text pos))
  apply (reports text pos).bind_congr
  intro reply here
  cases reply with
  | success value stop => rfl
  | failure refusal =>
    obtain rfl : refusal.pos = pos := here refusal rfl
    rw [Reply.anchor_failure, Failure.anchor_self]

theorem anchored_reportsAtStart (p : Parser σ α) : p.anchored.ReportsAtStart := by
  intro text pos
  refine (Ensures.always (p text pos)).bind fun reply _ => Ensures.pure ?_
  intro refusal same
  cases reply with
  | success value stop => cases same
  | failure inner =>
    cases same
    exact inner.anchor_pos pos

/-- Binding reports failures at the start already. -/
theorem bind_anchored (p : Parser σ α) (next : α → Parser σ β) :
    (p.bind next).anchored = p.bind next := by
  funext text pos
  simp only [anchored, Parser.bind, bind_assoc]
  refine bind_congr fun reply => ?_
  cases reply with
  | success value stop => simp only [bind_assoc, pure_bind, Reply.anchor_anchor]
  | failure refusal => simp only [pure_bind, Reply.anchor_failure, Failure.anchor_anchor]

theorem pure_bind_eq_anchored (value : α) (next : α → Parser σ β) :
    (Parser.pure value).bind next = (next value).anchored :=
  rfl

theorem bind_pure_eq_anchored (p : Parser σ α) : p.bind Parser.pure = p.anchored := by
  funext text pos
  simp only [Parser.bind, anchored]
  refine bind_congr fun reply => ?_
  cases reply <;> rfl

theorem bind_reportsAtStart (p : Parser σ α) (next : α → Parser σ β) :
    (p.bind next).ReportsAtStart := by
  rw [← bind_anchored]
  exact anchored_reportsAtStart _

theorem literal_reportsAtStart (s : String) : (literal s : Parser σ String).ReportsAtStart := by
  intro text pos
  unfold literal
  split
  · exact Ensures.pure nofun
  · exact Ensures.pure fun refusal same => by cases same; rfl

/-- Failures are passed on by what goes on from a parser, if it keeps their place and has none of
its own. -/
theorem ReportsAtStart.passed_on {next : Int → Reply α → Action σ (Reply β)}
    (reports : p.ReportsAtStart)
    (on_match : ∀ pos value stop, Ensures (next pos (.success value stop)) fun reply =>
      ∀ refusal, reply ≠ .failure refusal)
    (on_refusal : ∀ pos refusal, Ensures (next pos (.failure refusal)) fun reply =>
      ∀ other, reply = .failure other → other.pos = refusal.pos) :
    ReportsAtStart fun text pos => p text pos >>= next pos := by
  intro text pos
  refine (reports text pos).bind ?_
  intro reply here
  cases reply with
  | success value stop =>
    exact (on_match pos value stop).mono fun _ matched refusal same => absurd same (matched refusal)
  | failure refusal =>
    exact (on_refusal pos refusal).mono fun _ kept other same =>
      (kept other same).trans (here refusal rfl)

theorem ReportsAtStart.map (f : α → β) (reports : p.ReportsAtStart) :
    (p.map f).ReportsAtStart :=
  reports.passed_on (fun _ _ _ => Ensures.pure nofun)
    fun _ _ => Ensures.pure fun _ same => by cases same; rfl

theorem ReportsAtStart.tryMap (f : α → Except Fault β) (reports : p.ReportsAtStart) :
    (p.tryMap f).ReportsAtStart :=
  reports.passed_on (fun _ _ _ => (Ensures.always _).bind fun _ _ => Ensures.pure nofun)
    fun _ _ => Ensures.pure fun _ same => by cases same; rfl

theorem ReportsAtStart.firstOf {ps : List (Parser σ α)} (reports : p.ReportsAtStart)
    (all : ∀ q ∈ ps, q.ReportsAtStart) : (firstOf p ps).ReportsAtStart := by
  induction ps generalizing p with
  | nil => exact reports
  | cons q qs ih =>
    obtain ⟨next, others⟩ := List.forall_mem_cons.mp all
    intro text pos
    refine (Ensures.always (p text pos)).bind ?_
    intro reply _
    cases reply with
    | success value stop => exact Ensures.pure nofun
    | failure refusal => exact ih next others text pos

end Parser

end Descent
