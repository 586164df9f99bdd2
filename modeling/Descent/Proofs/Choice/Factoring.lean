import Descent.Proofs.Choice.Flattening
import Descent.Proofs.Parser.Mapping
import Descent.Proofs.Parser.Reporting
import Descent.Proofs.Parser.Result

set_option autoImplicit false

namespace Descent.Parser

variable {σ α : Type} {p q : Parser σ α} {qs : List (Parser σ α)} {text : Text} {pos : Int}
  {budget : Nat}

theorem sequence_pair_eq_bind (p q : Parser σ α) :
    sequence [p, q] = p.bind fun first => q.map fun second => [first, second] := by
  rw [sequence_pair, both, map_bind]
  simp only [map_map]

theorem Functional.sequence_pair (functional : p.Functional) (second : q.Functional) :
    (sequence [p, q]).Functional := by
  rw [sequence_pair_eq_bind]
  exact functional.bind fun _ => second.map _

theorem result_sequence_pair (p : Parser σ α) (second : q.Functional) :
    (sequence [p, q] text pos).result budget = (p text pos).result budget >>= fun
      | .success value stop => ((q text stop).result budget).map fun reply =>
          (reply.map fun other => [value, other]).anchor pos
      | .failure refusal => .ok (.failure (refusal.anchor pos)) := by
  rw [sequence_pair_eq_bind, result_bind p fun value => second.map _]
  refine bind_congr fun reply => ?_
  cases reply with
  | success value stop =>
    dsimp only
    rw [result_map]
    cases (q text stop).result budget <;> rfl
  | failure refusal => rfl

theorem sequence_anchored (ps : List (Parser σ α)) : (sequence ps).anchored = sequence ps :=
  anchored_anchored _

/-- Where the parser in front has matched, trying the alternatives is trying what follows it in
each; where it fails, all of them fail as it does. -/
theorem firstOf_sequences (functional : p.Functional) (first : q.Functional)
    (all : ∀ r ∈ qs, r.Functional) :
    (firstOf (sequence [p, q]) (qs.map fun r => sequence [p, r]) text pos).result budget =
      (sequence [p, firstOf q qs] text pos).result budget := by
  induction qs generalizing q with
  | nil => rfl
  | cons r rs ih =>
    obtain ⟨next, others⟩ := List.forall_mem_cons.mp all
    have branches : ∀ s ∈ rs.map fun r => sequence [p, r], s.Functional :=
      List.forall_mem_map.mpr fun s member => functional.sequence_pair (others s member)
    have tail := ih next others
    rw [result_sequence_pair p (next.firstOf others)] at tail
    rw [List.map_cons, result_firstOf_cons _ (functional.sequence_pair next) branches, tail,
      result_sequence_pair p first, result_sequence_pair p (first.firstOf all)]
    cases (p text pos).result budget with
    | error reason => rfl
    | ok reply =>
      cases reply with
      | failure refusal => rfl
      | success value stop =>
        show _ = ((firstOf q (r :: rs) text stop).result budget).map _
        rw [result_firstOf_cons q next others]
        cases came : (q text stop).result budget with
        | error reason => simp only [bind, Except.bind, came, Except.map]
        | ok second =>
          simp only [bind, Except.bind, came, Except.map]
          cases second <;> rfl

/-- Whether the second parser reports its failures where it begins shows in the causes only. -/
theorem sequence_anchored_second (p : Parser σ α) (second : q.Functional) :
    SameEnd Reply.SameReport ((sequence [p, q] text pos).result budget)
      ((sequence [p, q.anchored] text pos).result budget) := by
  rw [result_sequence_pair p second, result_sequence_pair p second.anchored]
  cases (p text pos).result budget with
  | error reason => exact .stopped reason
  | ok reply =>
    cases reply with
    | failure refusal => exact .value (.refl _)
    | success value stop =>
      simp only [bind, Except.bind, result_anchored]
      cases (q text stop).result budget with
      | error reason => exact .stopped reason
      | ok reply =>
        have moved := Reply.SameReport.anchor (reply.map fun other => [value, other]) stop pos
        rw [Reply.anchor_map _ stop] at moved
        exact .value moved

/-- A parser in front of every alternative may be put in front of the choice. With every budget and
in all sessions both ways end alike: with the same match; with failures at the same place that
expect the same there and have the same innermost cause; or for the same reason without a reply. If
the alternatives report failures at their own start, the chains of causes are the same as well. -/
theorem left_factored (functional : p.Functional) (some : qs ≠ []) (all : ∀ q ∈ qs, q.Functional)
    (text : Text) (pos : Int) (budget : Nat) (session other : Session σ) :
    let branches := choice (qs.map fun q => sequence [p, q])
    let factored := sequence [p, choice qs]
    SameEnd Reply.SameReport (branches text pos budget session).result
      (factored text pos budget other).result ∧
    ((∀ q ∈ qs, q.ReportsAtStart) →
      (branches text pos budget session).result = (factored text pos budget other).result) := by
  intro branches factored
  obtain ⟨q, rest, rfl⟩ := List.exists_cons_of_ne_nil some
  obtain ⟨first, others⟩ := List.forall_mem_cons.mp all
  have branches_functional : branches.Functional :=
    .choice (List.forall_mem_map.mpr fun r member => functional.sequence_pair (all r member))
  have factored_functional : factored.Functional := functional.sequence_pair (.choice all)
  rw [(branches_functional.sessionless text pos).result_eq,
    (factored_functional.sessionless text pos).result_eq]
  -- the choice of the branches is anchored where they are, so it is the sequence with what is tried
  -- behind the parser, not anchored there
  have joined : (branches text pos).result budget =
      (sequence [p, firstOf q rest] text pos).result budget := by
    show ((firstOf _ (rest.map _)).anchored text pos).result budget = _
    rw [result_anchored, firstOf_sequences functional first others, ← result_anchored,
      sequence_anchored]
  rw [joined]
  constructor
  · exact sequence_anchored_second p (first.firstOf others)
  · intro reports
    obtain ⟨here, others_here⟩ := List.forall_mem_cons.mp reports
    have plain : choice (q :: rest) = firstOf q rest := (here.firstOf others_here).anchored_eq
    show _ = (sequence [p, choice (q :: rest)] text pos).result budget
    rw [plain]

/-- Of `ad` neither `ab` nor `ac` is read: both ways report at the start that `c` is missing after
the first letter. -/
theorem letters_factored :
    let letter (s : String) := (Grammar.literal s).meaning .none
    let text := Text.ofList ['a', 'd']
    let branches := choice [sequence [letter "a", letter "b"], sequence [letter "a", letter "c"]]
    let factored := sequence [letter "a", choice [letter "b", letter "c"]]
    (branches text 0 1 .fresh).result =
        .ok (.failure ⟨⟨0, some "'c'"⟩, [⟨1, some "'c'"⟩]⟩) ∧
      SameEnd Reply.SameReport (branches text 0 1 .fresh).result (factored text 0 1 .fresh).result ∧
      (branches text 0 1 .fresh).result = (factored text 0 1 .fresh).result := by
  intro letter text branches factored
  have functional (s : String) : (letter s).Functional :=
    (Grammar.literal s).meaning_functional .none
  have reports (s : String) : (letter s).ReportsAtStart := (literal_reportsAtStart s).map _
  obtain ⟨alike, same⟩ :=
    left_factored (functional "a") (List.cons_ne_nil (letter "b") [letter "c"])
    (List.forall_mem_cons.mpr ⟨functional "b", List.forall_mem_singleton.mpr (functional "c")⟩)
    text 0 1 .fresh .fresh
  exact ⟨by rfl, alike, same (List.forall_mem_cons.mpr
    ⟨reports "b", List.forall_mem_singleton.mpr (reports "c")⟩)⟩

end Descent.Parser
