import Descent.Proofs.Action.Agreement
import Descent.Proofs.Parser.Budget

set_option autoImplicit false

namespace Descent.Parser

open Descent.Action (Agree)

variable {σ α β ι : Type}

namespace Stable

variable {p : Parser σ α}

theorem at_place (stable : p.Stable) (text : Text) (pos : Int) : Action.Stable (p text pos) :=
  fun _ _ enough => stable _ _ enough text pos

theorem tryMap (f : α → Except Fault β) (stable : p.Stable) : (p.tryMap f).Stable :=
  fun _ _ enough => (stable _ _ enough).tryMap f

theorem bind {next : α → Parser σ β} (stable : p.Stable) (rest : ∀ value, (next value).Stable) :
    (p.bind next).Stable :=
  fun _ _ enough => (stable _ _ enough).bind fun value => rest value _ _ enough

theorem both {q : Parser σ β} (stable : p.Stable) (second : q.Stable) : (p.both q).Stable :=
  fun _ _ enough => (stable _ _ enough).both (second _ _ enough)

theorem round {rest : Parser σ (List α)} (stable : p.Stable) (again : rest.Stable) :
    (p.round rest).Stable :=
  fun _ _ enough => (stable _ _ enough).round (again _ _ enough)

theorem many (stable : p.Stable) : p.many.Stable :=
  fun _ _ enough => (stable _ _ enough).many enough

end Stable

theorem many_agrees {p : Parser σ α} (stable : p.Stable) (text : Text) (pos : Int) :
    Agree (p.many text pos) (p.round p.many text pos) := by
  have round_stable := (stable.round stable.many).at_place text pos
  refine (Action.agree_of_settles (fun _ _ => settles_many stable) ?_).symm
  intro session outcome settles
  obtain ⟨settled, bound, comes⟩ := settles
  -- all rounds after the first one are allowed one round more by `many` itself
  have same : Extends (bound + 1) (bound + 1) p p := stable _ _ (Nat.le_refl _)
  have rest : Extends (bound + 1) (bound + 1) (p.repeatUpTo bound) p.many :=
    fun text pos => same.repeatUpTo _ _ (Nat.le_succ _) text pos
  have ran : p.round (p.repeatUpTo bound) text pos (bound + 1) session = outcome :=
    comes (bound + 1) (Nat.le_succ _)
  have round_ran : p.round p.many text pos (bound + 1) session = outcome := by
    rw [← ran]
    exact same.round rest text pos session (by rw [ran]; exact settled)
  exact ⟨outcome, Action.settles_of_ran round_stable round_ran settled⟩

variable {body : (ι → Parser σ α) → ι → Parser σ α}

theorem body_stable (regular : Regular body) (i : ι) : (body (fix body) i).Stable :=
  fun little more enough => regular little more enough _ _
    (fun j => fix_stable regular j little more enough) i

theorem fix_agrees (regular : Regular body) (i : ι) (text : Text) (pos : Int) :
    Agree (fix body i text pos) (body (fix body) i text pos) := by
  have step_stable := (body_stable regular i).at_place text pos
  refine (Action.agree_of_settles (fun _ _ => settles_fix regular) ?_).symm
  intro session outcome settles
  obtain ⟨settled, bound, comes⟩ := settles
  -- the family itself is unrolled one step deeper than the parsers that the body was given
  have below : ∀ j, Extends (bound + 1) (bound + 1) (unroll body bound j) (fix body j) :=
    fun j text pos =>
      unroll_extends regular (Nat.le_refl _) bound (bound + 1) (Nat.le_succ _) j text pos
  have ran : body (unroll body bound) i text pos (bound + 1) session = outcome :=
    comes (bound + 1) (Nat.le_succ _)
  have step_ran : body (fix body) i text pos (bound + 1) session = outcome := by
    rw [← ran]
    exact regular _ _ (Nat.le_refl _) _ _ below i text pos session (by rw [ran]; exact settled)
  exact ⟨outcome, Action.settles_of_ran step_stable step_ran settled⟩

end Descent.Parser
