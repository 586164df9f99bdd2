import Descent.Parser.Sequence

set_option autoImplicit false

namespace Descent.Parser

variable {σ α : Type}

theorem anchored_anchored (p : Parser σ α) : p.anchored.anchored = p.anchored := by
  funext text pos
  simp only [anchored, bind_assoc, pure_bind, Reply.anchor_anchor]

theorem orElse_anchored (p q : Parser σ α) : (p.orElse q).anchored = p.orElse q := by
  funext text pos
  unfold anchored orElse
  rw [bind_assoc]
  apply bind_congr
  intro reply
  cases reply with
  | success value stop => rfl
  | failure refusal => simp

/-- Where the failure of the first alternative is reported does not matter: it is dropped. -/
theorem anchored_orElse (p q : Parser σ α) : p.anchored.orElse q = p.orElse q := by
  funext text pos
  simp only [anchored, orElse, bind_assoc, pure_bind]
  refine bind_congr fun reply => ?_
  cases reply <;> rfl

theorem orElse_anchored_right (p q : Parser σ α) : p.orElse q.anchored = p.orElse q := by
  funext text pos
  simp only [anchored, orElse, bind_assoc, pure_bind, Reply.anchor_anchor]

theorem orElse_assoc (p q r : Parser σ α) : (p.orElse q).orElse r = p.orElse (q.orElse r) := by
  funext text pos
  simp only [orElse, bind_assoc]
  refine bind_congr fun reply => ?_
  cases reply with
  | success value stop => rfl
  | failure refusal =>
    simp only [bind_assoc, pure_bind]
    refine bind_congr fun reply => ?_
    cases reply with
    | success value stop => rfl
    | failure refusal =>
      simp only [Reply.anchor_failure, bind_assoc, pure_bind, Reply.anchor_anchor]

/-- Behind the first alternative the others are a choice of their own. -/
theorem choice_cons (p q : Parser σ α) (qs : List (Parser σ α)) :
    choice (p :: q :: qs) = p.orElse (choice (q :: qs)) := by
  rw [choice, choice, orElse_anchored_right]
  funext text pos
  simp only [anchored, firstOf, orElse, bind_assoc]
  refine bind_congr fun reply => ?_
  cases reply <;> rfl

theorem choice_anchored (ps : List (Parser σ α)) : (choice ps).anchored = choice ps := by
  cases ps with
  | nil =>
    funext text pos
    exact congrArg (fun refusal => (pure (.failure refusal) : Action σ (Reply α)))
      (Failure.anchor_self (.leaf pos (some "no alternatives")))
  | cons p ps => exact anchored_anchored _

/-- A choice of alternatives and others is one or the other choice. -/
theorem choice_append {ps qs : List (Parser σ α)} (some : ps ≠ []) (others : qs ≠ []) :
    choice (ps ++ qs) = (choice ps).orElse (choice qs) := by
  obtain ⟨q, qs, rfl⟩ := List.exists_cons_of_ne_nil others
  induction ps with
  | nil => exact absurd rfl some
  | cons p ps ih =>
    cases ps with
    | nil =>
      rw [List.singleton_append, choice_cons]
      exact (anchored_orElse p _).symm
    | cons p' ps =>
      rw [List.cons_append, List.cons_append, choice_cons, ← List.cons_append,
        ih (List.cons_ne_nil _ _), choice_cons, orElse_assoc]

/-- Alternatives with the same choice may be replaced by one another among others. -/
theorem choice_replace {qs qs' : List (Parser σ α)} (some : qs ≠ []) (some' : qs' ≠ [])
    (same : choice qs = choice qs') (ps rs : List (Parser σ α)) :
    choice (ps ++ qs ++ rs) = choice (ps ++ qs' ++ rs) := by
  have front : choice (ps ++ qs) = choice (ps ++ qs') := by
    cases ps with
    | nil => exact same
    | cons p ps =>
      rw [choice_append (List.cons_ne_nil p ps) some, same,
        ← choice_append (List.cons_ne_nil p ps) some']
  cases rs with
  | nil => rwa [List.append_nil, List.append_nil]
  | cons r rs =>
    rw [choice_append (List.append_ne_nil_of_right_ne_nil ps some) (List.cons_ne_nil r rs), front,
      ← choice_append (List.append_ne_nil_of_right_ne_nil ps some') (List.cons_ne_nil r rs)]

inductive Grouping (σ α : Type) where
  | one (p : Parser σ α)
  | either (left right : Grouping σ α)

namespace Grouping

def members : Grouping σ α → List (Parser σ α)
  | one p => [p]
  | either left right => left.members ++ right.members

/-- The second group is tried where the first one fails. -/
def parser : Grouping σ α → Parser σ α
  | one p => p
  | either left right => left.parser.orElse right.parser

theorem members_ne_nil (grouping : Grouping σ α) : grouping.members ≠ [] := by
  induction grouping with
  | one p => exact List.cons_ne_nil p []
  | either left right ih _ => exact List.append_ne_nil_of_left_ne_nil ih _

/-- Reported at its start, a group is the choice of its members. -/
theorem parser_anchored (grouping : Grouping σ α) :
    grouping.parser.anchored = choice grouping.members := by
  induction grouping with
  | one p => rfl
  | either left right ih ih' =>
    calc (left.parser.orElse right.parser).anchored
        = left.parser.orElse right.parser := orElse_anchored _ _
      _ = left.parser.anchored.orElse right.parser.anchored := by
          rw [anchored_orElse, orElse_anchored_right]
      _ = choice (left.members ++ right.members) := by
          rw [ih, ih', choice_append left.members_ne_nil right.members_ne_nil]

/-- A group of more than one reports its failures at the start already. -/
theorem parser_eq_choice {grouping : Grouping σ α} (more : 2 ≤ grouping.members.length) :
    grouping.parser = choice grouping.members := by
  cases grouping with
  | one p => exact absurd more (Nat.not_succ_le_self 1)
  | either left right =>
    rw [← parser_anchored]
    exact (orElse_anchored _ _).symm

end Grouping

/-- A choice among the alternatives of another may be replaced by its own alternatives, and with
more than one alternative in all, every way to try them two at a time is the choice of them all.
These are the same parsers: from every place of every text they come to the same match, or to a
failure with the same chain of causes, or to the same fault, and leave the same events. -/
theorem choices_flatten (ps : List (Parser σ α)) {qs : List (Parser σ α)} (some : qs ≠ [])
    (rs : List (Parser σ α)) :
    choice (ps ++ choice qs :: rs) = choice (ps ++ qs ++ rs) ∧
    (2 ≤ (ps ++ qs ++ rs).length → ∀ grouping : Grouping σ α,
      grouping.members = ps ++ qs ++ rs → grouping.parser = choice (ps ++ qs ++ rs)) := by
  constructor
  · have alone : choice [choice qs] = choice qs := choice_anchored qs
    rw [← choice_replace (List.cons_ne_nil _ _) some alone, List.append_assoc,
      List.singleton_append]
  · intro more grouping same
    rw [← same] at more ⊢
    exact Grouping.parser_eq_choice more

/-- A text and two parsers that report their failures before their start, put together in three
ways. -/
theorem strayed_flatten :
    let stray (n : Int) : Parser Empty String :=
      ofReply fun _ pos => .failure (.leaf (pos - n) none)
    choice [literal "a", choice [stray 1, stray 2]] = choice [literal "a", stray 1, stray 2] ∧
      ((literal "a").orElse (stray 1)).orElse (stray 2) =
        choice [literal "a", stray 1, stray 2] := by
  intro stray
  obtain ⟨flat, grouped⟩ := choices_flatten [literal "a"] (List.cons_ne_nil (stray 1) [stray 2]) []
  exact ⟨flat, grouped (Nat.le_succ 2)
    (.either (.either (.one (literal "a")) (.one (stray 1))) (.one (stray 2))) rfl⟩

end Descent.Parser
