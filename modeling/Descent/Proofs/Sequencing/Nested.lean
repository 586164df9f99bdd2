import Descent.Proofs.Sequencing.Reports

set_option autoImplicit false

namespace Descent.Parser

variable {σ α : Type}

/-- The parsers bound one to the next, to yield their values in order, behind the given ones. -/
def bindAll (values : List α) : List (Parser σ α) → Parser σ (List α)
  | [] => Parser.pure values
  | p :: ps => p.bind fun value => bindAll (values ++ [value]) ps

def part (index : Nat) (parts : List α) : Except Fault α :=
  match parts[index]? with
  | some value => .ok value
  | none => .error .listIndex

/-- Behind the first parser the others are a sequence of their own. -/
theorem sequence_cons (p : Parser σ α) (ps : List (Parser σ α)) :
    (sequence (p :: ps)).SameReports (p.bind fun value => (sequence ps).map (value :: ·)) := by
  intro text pos
  simp only [sequence, anchored, inTurn, Parser.bind, Parser.map, bind_assoc]
  refine .bind_right _ fun reply => ?_
  cases reply with
  | failure refusal =>
    simp only [pure_bind]
    exact .pure (.refl _)
  | success value middle =>
    simp only [bind_assoc, pure_bind, ← Reply.anchor_map]
    exact .bind_right _ fun reply => .pure (Reply.SameReport.anchor (reply.map _) middle pos)

/-- The sequence behind some values, wherever it begins. -/
theorem sequence_behind (values : List α) (ps : List (Parser σ α)) :
    ((sequence ps).map (values ++ ·)).SameReports (bindAll values ps) := by
  induction ps generalizing values with
  | nil =>
    have none : (sequence [] : Parser σ (List α)).map (values ++ ·) = bindAll values [] := by
      funext text pos
      exact congrArg (fun all => (pure (.success all pos) : Action σ (Reply (List α))))
        (List.append_nil values)
    rw [none]
    exact .refl _
  | cons p ps ih =>
    have step := (sequence_cons p ps).map (values ++ ·)
    simp only [map_bind, map_map] at step
    have rest (value : α) : ((sequence ps).map fun others => values ++ value :: others).SameReports
        (bindAll (values ++ [value]) ps) := by
      simpa only [List.append_assoc, List.singleton_append] using ih (values ++ [value])
    exact step.trans ((SameReports.refl p).bind rest)

theorem sequence_pair_part (p q : Parser σ α) (index : Nat) :
    (sequence [p, q]).tryMap (part index) = (p.both q).tryMap fun (a, b) => part index [a, b] := by
  rw [sequence_pair, tryMap_map]

/-- A sequence is its parsers bound one to the next and a last step that yields all values: both
come to the same match, or to failures at the same place that expect the same there and have the
same innermost cause, or to the same fault, and leave the same events. Of two parsers, keeping both
values is the sequence of them, and keeping one of the values is the sequence with that one picked
from its list: these are the same parsers, with the same chains of causes. -/
theorem sequence_binds :
    (∀ ps : List (Parser σ α), (sequence ps).SameReports (bindAll [] ps)) ∧
    ∀ p q : Parser σ α,
      (p.both q).map (fun (a, b) => [a, b]) = sequence [p, q] ∧
      p.seqRight q = (sequence [p, q]).tryMap (part 1) ∧
      p.seqLeft q = (sequence [p, q]).tryMap (part 0) := by
  refine ⟨fun ps => ?_, fun p q => ⟨(sequence_pair p q).symm, ?_, ?_⟩⟩
  · have alike := sequence_behind [] ps
    rwa [show (([] : List α) ++ ·) = id from rfl, map_id] at alike
  · rw [sequence_pair_part, ← both_snd, ← tryMap_ok]
    rfl
  · rw [sequence_pair_part, ← both_fst, ← tryMap_ok]
    rfl

example (p q : Parser σ α) :
    bindAll [] [p, q] = p.bind fun a => q.bind fun b => Parser.pure [a, b] := rfl

end Descent.Parser
