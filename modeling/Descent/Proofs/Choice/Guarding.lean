import Descent.Proofs.Choice.Flattening
import Descent.Proofs.Parser.Result

set_option autoImplicit false

namespace Descent

/-- The replies are the same match, or both are failures. -/
inductive Reply.SameMatch {α : Type} : Reply α → Reply α → Prop where
  | success (value : α) (stop : Int) : SameMatch (.success value stop) (.success value stop)
  | failure (f g : Failure) : SameMatch (.failure f) (.failure g)

theorem Reply.SameMatch.refl {α : Type} (reply : Reply α) : reply.SameMatch reply := by
  cases reply with
  | success value stop => exact .success value stop
  | failure refusal => exact .failure refusal refusal

namespace Parser

variable {σ α : Type}

/-- A parser that is tried only where none of the earlier ones matches. -/
def guardedBy (earlier : List (Parser σ α)) (p : Parser σ α) : Parser σ α :=
  (choice earlier).notFollowedBy.seqRight p

def guarded (ps : List (Parser σ α)) : List (Parser σ α) :=
  ps.mapIdx fun index p => guardedBy (ps.take index) p

def Succeeds (p : Parser σ α) (text : Text) (pos : Int) : Prop :=
  ∃ value stop, p.Replies text pos (.success value stop)

def Refuses (p : Parser σ α) (text : Text) (pos : Int) (budget : Nat) : Prop :=
  ∃ refusal, (p text pos).result budget = .ok (.failure refusal)

variable {p : Parser σ α} {ps : List (Parser σ α)} {text : Text} {pos : Int} {budget : Nat}

/-- Anchoring touches nothing but failures. -/
theorem result_anchored_of_decided (decided : ¬ p.Refuses text pos budget) :
    (p.anchored text pos).result budget = (p text pos).result budget := by
  rw [result_anchored]
  cases came : (p text pos).result budget with
  | error reason => rfl
  | ok reply =>
    cases reply with
    | success value stop => rfl
    | failure refusal => exact absurd ⟨refusal, came⟩ decided

theorem Refuses.anchored (refuses : p.Refuses text pos budget) :
    p.anchored.Refuses text pos budget := by
  obtain ⟨refusal, came⟩ := refuses
  refine ⟨refusal.anchor pos, ?_⟩
  rw [result_anchored, came]
  rfl

theorem result_choice_of_decided (all : ∀ q ∈ ps, q.Functional)
    (decided : ¬ p.Refuses text pos budget) :
    (choice (p :: ps) text pos).result budget = (p text pos).result budget := by
  cases ps with
  | nil => exact result_anchored_of_decided decided
  | cons q qs =>
    rw [choice_cons, result_orElse p (.choice all)]
    cases came : (p text pos).result budget with
    | error reason => rfl
    | ok reply =>
      cases reply with
      | success value stop => rfl
      | failure refusal => exact absurd ⟨refusal, came⟩ decided

theorem Refuses.result_choice (refuses : p.Refuses text pos budget) (some : ps ≠ [])
    (all : ∀ q ∈ ps, q.Functional) :
    (choice (p :: ps) text pos).result budget = (choice ps text pos).result budget := by
  obtain ⟨q, qs, rfl⟩ := List.exists_cons_of_ne_nil some
  obtain ⟨refusal, came⟩ := refuses
  rw [choice_cons, result_orElse p (.choice all), came, ← choice_anchored (q :: qs),
    result_anchored]
  cases (choice (q :: qs) text pos).result budget with
  | error reason => rfl
  | ok reply => simp only [bind, Except.bind, Except.map, Reply.anchor_anchor]

/-- Behind alternatives that fail, the first that does not decides. -/
theorem result_choice_append {before after : List (Parser σ α)}
    (all : ∀ q ∈ before ++ p :: after, q.Functional)
    (refuse : ∀ q ∈ before, q.Refuses text pos budget) (decided : ¬ p.Refuses text pos budget) :
    (choice (before ++ p :: after) text pos).result budget = (p text pos).result budget := by
  induction before with
  | nil => exact result_choice_of_decided (List.forall_mem_cons.mp all).2 decided
  | cons q before ih =>
    obtain ⟨_, others⟩ := List.forall_mem_cons.mp all
    obtain ⟨first, rest⟩ := List.forall_mem_cons.mp refuse
    have more : before ++ p :: after ≠ [] := by simp
    rw [List.cons_append, first.result_choice more others]
    exact ih others rest

/-- All parsers fail, or there is a first that does not. -/
theorem refuse_or_decided (ps : List (Parser σ α)) (text : Text) (pos : Int) (budget : Nat) :
    (∀ p ∈ ps, p.Refuses text pos budget) ∨
    ∃ before p after, ps = before ++ p :: after ∧ (∀ q ∈ before, q.Refuses text pos budget) ∧
      ¬ p.Refuses text pos budget := by
  classical
  cases found : ps.find? fun p => decide (¬ p.Refuses text pos budget) with
  | none =>
    refine .inl fun p member => ?_
    have refuses := List.find?_eq_none.mp found p member
    simpa using refuses
  | some p =>
    obtain ⟨decided, before, after, rfl, refuse⟩ := List.find?_eq_some_iff_append.mp found
    refine .inr ⟨before, p, after, rfl, fun q member => ?_, by simpa using decided⟩
    simpa using refuse q member

theorem choice_refuses_iff (all : ∀ p ∈ ps, p.Functional) :
    (choice ps).Refuses text pos budget ↔ ∀ p ∈ ps, p.Refuses text pos budget := by
  constructor
  · intro refuses
    obtain each | ⟨before, p, after, rfl, each, decided⟩ := refuse_or_decided ps text pos budget
    · exact each
    · rw [Refuses, result_choice_append all each decided] at refuses
      exact absurd refuses decided
  · intro each
    induction ps with
    | nil => exact ⟨_, rfl⟩
    | cons p ps ih =>
      obtain ⟨_, others⟩ := List.forall_mem_cons.mp all
      obtain ⟨first, rest⟩ := List.forall_mem_cons.mp each
      by_cases alone : ps = []
      · subst alone
        exact first.anchored
      · rw [Refuses, first.result_choice alone others]
        exact ih others rest

/-- If each of the alternatives fails or comes to one and the same result, and one comes to it, so
does the choice, in whatever order they stand. -/
theorem result_choice_of_agreement (all : ∀ q ∈ ps, q.Functional)
    (decided : ¬ p.Refuses text pos budget)
    (each : ∀ q ∈ ps, q.Refuses text pos budget ∨
      (q text pos).result budget = (p text pos).result budget)
    (some : ∃ q ∈ ps, (q text pos).result budget = (p text pos).result budget) :
    (choice ps text pos).result budget = (p text pos).result budget := by
  obtain refuse | ⟨before, q, after, rfl, refuse, first⟩ := refuse_or_decided ps text pos budget
  · obtain ⟨q, member, same⟩ := some
    have refuses := refuse q member
    rw [Refuses, same] at refuses
    exact absurd refuses decided
  · rw [result_choice_append all refuse first]
    exact (each q (by simp)).resolve_left first

variable {earlier : List (Parser σ α)}

theorem Functional.guardedBy (functional : p.Functional) (all : ∀ q ∈ earlier, q.Functional) :
    (guardedBy earlier p).Functional :=
  (Functional.choice all).notFollowedBy.bind fun _ => functional

/-- The result of a guarded parser, by that of the choice of the earlier ones. -/
theorem result_guardedBy (functional : p.Functional) (earlier : List (Parser σ α)) :
    (guardedBy earlier p text pos).result budget =
      (choice earlier text pos).result budget >>= fun
        | .success _ stop =>
          .ok (.failure (.leaf pos (some ("not " ++ quoted (text.slice pos stop)))))
        | .failure _ => (p.anchored text pos).result budget := by
  rw [guardedBy, seqRight, result_bind _ fun _ => functional, result_notFollowedBy]
  cases (choice earlier text pos).result budget with
  | error reason => rfl
  | ok reply =>
    cases reply with
    | success value stop =>
      exact congrArg (fun f => Except.ok (Reply.failure f)) (Failure.anchor_self (.leaf pos _))
    | failure refusal => exact (result_anchored p).symm

/-- Where all earlier ones fail, the guard does not show. -/
theorem result_guardedBy_open (functional : p.Functional) (all : ∀ q ∈ earlier, q.Functional)
    (refuse : ∀ q ∈ earlier, q.Refuses text pos budget) :
    (guardedBy earlier p text pos).result budget = (p.anchored text pos).result budget := by
  obtain ⟨refusal, came⟩ := (choice_refuses_iff all).mpr refuse
  rw [result_guardedBy functional, came]
  rfl

/-- Where one of the earlier ones decides their choice, the guarded parser fails or ends as that
does. -/
theorem guardedBy_closed (functional : p.Functional) {before between : List (Parser σ α)}
    {q : Parser σ α} (all : ∀ r ∈ before ++ q :: between, r.Functional)
    (refuse : ∀ r ∈ before, r.Refuses text pos budget) (decided : ¬ q.Refuses text pos budget) :
    (guardedBy (before ++ q :: between) p).Refuses text pos budget ∨
      ∃ reason, (q text pos).result budget = .error reason ∧
        (guardedBy (before ++ q :: between) p text pos).result budget = .error reason := by
  rw [Refuses, result_guardedBy functional, result_choice_append all refuse decided]
  cases came : (q text pos).result budget with
  | error reason => exact .inr ⟨reason, rfl, rfl⟩
  | ok reply =>
    cases reply with
    | success value stop => exact .inl ⟨_, rfl⟩
    | failure refusal => exact absurd ⟨refusal, came⟩ decided

theorem exists_of_mem_guarded {g : Parser σ α} (member : g ∈ guarded ps) :
    ∃ earlier p later, ps = earlier ++ p :: later ∧ g = guardedBy earlier p := by
  obtain ⟨index, inside, rfl⟩ := List.mem_mapIdx.mp member
  refine ⟨ps.take index, ps[index], ps.drop (index + 1), ?_, rfl⟩
  rw [← List.drop_eq_getElem_cons inside, List.take_append_drop]

theorem guardedBy_mem_guarded (before : List (Parser σ α)) (p : Parser σ α)
    (after : List (Parser σ α)) : guardedBy before p ∈ guarded (before ++ p :: after) := by
  refine List.mem_mapIdx.mpr ⟨before.length, by simp, ?_⟩
  rw [List.take_left, List.getElem_append_right (Nat.le_refl _)]
  simp

theorem guarded_functional (all : ∀ p ∈ ps, p.Functional) : ∀ g ∈ guarded ps, g.Functional := by
  intro g member
  obtain ⟨earlier, p, later, rfl, rfl⟩ := exists_of_mem_guarded member
  obtain ⟨all_earlier, others⟩ := List.forall_mem_append.mp all
  exact (others p List.mem_cons_self).guardedBy all_earlier

/-- Where an alternative decides the choice, its guard does not show. -/
theorem result_guardedBy_of_decided {before after : List (Parser σ α)}
    (all : ∀ q ∈ before ++ p :: after, q.Functional)
    (refuse : ∀ q ∈ before, q.Refuses text pos budget) (decided : ¬ p.Refuses text pos budget) :
    (guardedBy before p text pos).result budget = (p text pos).result budget := by
  obtain ⟨all_before, others⟩ := List.forall_mem_append.mp all
  rw [result_guardedBy_open (others p List.mem_cons_self) all_before refuse,
    result_anchored_of_decided decided]

/-- Of two members of a list one is the other, or stands before it, or behind it. -/
theorem member_places {before after earlier later : List α} {x y : α}
    (same : before ++ x :: after = earlier ++ y :: later) :
    (before = earlier ∧ x = y ∧ after = later) ∨
      (∃ between, earlier = before ++ x :: between ∧ after = between ++ y :: later) ∨
      ∃ between, before = earlier ++ y :: between ∧ later = between ++ x :: after := by
  obtain ⟨between, rfl, rest⟩ | ⟨between, rfl, rest⟩ := List.append_eq_append_iff.mp same
  · cases between with
    | nil =>
      obtain ⟨rfl, rfl⟩ := List.cons.inj rest
      exact .inl ⟨(List.append_nil before).symm, rfl, rfl⟩
    | cons z between =>
      obtain ⟨rfl, rfl⟩ := List.cons.inj rest
      exact .inr (.inl ⟨between, rfl, rfl⟩)
  · cases between with
    | nil =>
      obtain ⟨rfl, rfl⟩ := List.cons.inj rest
      exact .inl ⟨List.append_nil earlier, rfl, rfl⟩
    | cons z between =>
      obtain ⟨rfl, rfl⟩ := List.cons.inj rest
      exact .inr (.inr ⟨between, rfl, rfl⟩)

/-- Where an alternative decides the choice, each of the guarded ones fails or comes to what that
one comes to. -/
theorem guarded_agree {before after : List (Parser σ α)}
    (all : ∀ q ∈ before ++ p :: after, q.Functional)
    (refuse : ∀ q ∈ before, q.Refuses text pos budget) (decided : ¬ p.Refuses text pos budget) :
    ∀ g ∈ guarded (before ++ p :: after), g.Refuses text pos budget ∨
      (g text pos).result budget = (p text pos).result budget := by
  intro g member
  obtain ⟨earlier, q, later, same, rfl⟩ := exists_of_mem_guarded member
  have functional : q.Functional := all q (by simp [same])
  have others : ∀ r ∈ earlier, r.Functional := fun r among => all r (by simp [same, among])
  obtain ⟨rfl, rfl, rfl⟩ | ⟨between, rfl, rfl⟩ | ⟨between, rfl, rfl⟩ := member_places same
  · exact .inr (result_guardedBy_of_decided all refuse decided)
  · obtain refuses | ⟨reason, stops, same⟩ := guardedBy_closed functional others refuse decided
    · exact .inl refuses
    · exact .inr (same.trans stops.symm)
  · obtain ⟨open_before, open_after⟩ := List.forall_mem_append.mp refuse
    rw [Refuses, result_guardedBy_open functional others open_before]
    exact .inl (open_after q List.mem_cons_self).anchored

/-- Where all alternatives fail, so do the guarded ones. -/
theorem guarded_refuse (all : ∀ p ∈ ps, p.Functional)
    (refuse : ∀ p ∈ ps, p.Refuses text pos budget) :
    ∀ g ∈ guarded ps, g.Refuses text pos budget := by
  intro g member
  obtain ⟨earlier, p, later, rfl, rfl⟩ := exists_of_mem_guarded member
  obtain ⟨all_earlier, others⟩ := List.forall_mem_append.mp all
  obtain ⟨refuse_earlier, rest⟩ := List.forall_mem_append.mp refuse
  rw [Refuses, result_guardedBy_open (others p List.mem_cons_self) all_earlier refuse_earlier]
  exact (rest p List.mem_cons_self).anchored

/-- The guarded alternatives in any order come to what the choice comes to, but for where a failure
is and what it says. -/
theorem result_choice_of_perm {gs : List (Parser σ α)} (all : ∀ p ∈ ps, p.Functional)
    (perm : gs.Perm (guarded ps)) (text : Text) (pos : Int) (budget : Nat) :
    SameEnd Reply.SameMatch ((choice gs text pos).result budget)
      ((choice ps text pos).result budget) := by
  have functional : ∀ g ∈ gs, g.Functional := fun g member =>
    guarded_functional all g (perm.mem_iff.mp member)
  obtain refuse | ⟨before, p, after, rfl, refuse, decided⟩ := refuse_or_decided ps text pos budget
  · have refused : ∀ g ∈ gs, g.Refuses text pos budget := fun g member =>
      guarded_refuse all refuse g (perm.mem_iff.mp member)
    obtain ⟨left, left_came⟩ := (choice_refuses_iff functional).mpr refused
    obtain ⟨right, right_came⟩ := (choice_refuses_iff all).mpr refuse
    rw [left_came, right_came]
    exact .value (.failure left right)
  · have same : (choice gs text pos).result budget = (p text pos).result budget := by
      apply result_choice_of_agreement functional decided
      · exact fun g member => guarded_agree all refuse decided g (perm.mem_iff.mp member)
      · exact ⟨guardedBy before p, perm.mem_iff.mpr (guardedBy_mem_guarded before p after),
          result_guardedBy_of_decided all refuse decided⟩
    rw [same, result_choice_append all refuse decided]
    exact .refl .refl _

/-- A guarded parser that matches has refusals before it, and does not refuse itself. -/
theorem open_of_success (functional : p.Functional) (all : ∀ q ∈ earlier, q.Functional) {value : α}
    {stop : Int} (came : (guardedBy earlier p text pos).result budget = .ok (.success value stop)) :
    (∀ q ∈ earlier, q.Refuses text pos budget) ∧ ¬ p.Refuses text pos budget := by
  have refuse : ∀ q ∈ earlier, q.Refuses text pos budget := by
    obtain refuse | ⟨before, q, between, rfl, refuse, decided⟩ :=
      refuse_or_decided earlier text pos budget
    · exact refuse
    · obtain ⟨_, refused⟩ | ⟨_, _, stopped⟩ := guardedBy_closed functional all refuse decided
      · exact nomatch came.symm.trans refused
      · exact nomatch came.symm.trans stopped
  refine ⟨refuse, fun refuses => ?_⟩
  obtain ⟨_, refused⟩ := refuses.anchored
  rw [result_guardedBy_open functional all refuse] at came
  exact nomatch came.symm.trans refused

/-- Of two guarded parsers only one matches. -/
theorem guards_exclude {before between : List (Parser σ α)} {q : Parser σ α}
    (all : ∀ r ∈ before ++ p :: between, r.Functional) (functional : q.Functional) :
    ¬ ((guardedBy before p).Succeeds text pos ∧
      (guardedBy (before ++ p :: between) q).Succeeds text pos) := by
  rintro ⟨⟨value, stop, replies⟩, ⟨value', stop', replies'⟩⟩
  obtain ⟨bound, comes⟩ := replies.result
  obtain ⟨bound', comes'⟩ := replies'.result
  have came := comes (max bound bound') (Nat.le_max_left ..)
  have came' := comes' (max bound bound') (Nat.le_max_right ..)
  obtain ⟨all_before, others⟩ := List.forall_mem_append.mp all
  obtain ⟨_, decided⟩ := open_of_success (others p List.mem_cons_self) all_before came
  obtain ⟨refuse, _⟩ := open_of_success functional all came'
  exact decided (refuse p (by simp))

theorem guarded_pairwise (all : ∀ p ∈ ps, p.Functional) (text : Text) (pos : Int) :
    (guarded ps).Pairwise fun g h => ¬ (g.Succeeds text pos ∧ h.Succeeds text pos) := by
  rw [List.pairwise_iff_getElem]
  intro i j inside inside' ordered
  rw [guarded, List.length_mapIdx] at inside inside'
  simp only [guarded, List.getElem_mapIdx]
  have split : ps.take j = ps.take i ++ ps[i] :: (ps.take j).drop (i + 1) := by
    have within : i < (ps.take j).length := by simp; omega
    conv_lhs => rw [← List.take_append_drop i (ps.take j), List.drop_eq_getElem_cons within]
    rw [List.take_take, Nat.min_eq_left (Nat.le_of_lt ordered), List.getElem_take]
  rw [split]
  refine guards_exclude (fun r among => all r ?_) (all _ (List.getElem_mem inside'))
  rw [← split] at among
  exact List.mem_of_mem_take among

/-- Parsers with guards against all that come before them may be tried in any order. The choice of
them matches where the choice of the parsers does, with the same value and the same end, fails where
that fails, and stops as that does; and nowhere does more than one of them match. -/
theorem guards_in_any_order (all : ∀ p ∈ ps, p.Functional) (text : Text) (pos : Int) :
    (∀ gs, gs.Perm (guarded ps) → ∀ budget session other,
      SameEnd Reply.SameMatch (choice gs text pos budget session).result
        (choice ps text pos budget other).result) ∧
    (guarded ps).Pairwise fun g h => ¬ (g.Succeeds text pos ∧ h.Succeeds text pos) := by
  refine ⟨fun gs perm budget session other => ?_, guarded_pairwise all text pos⟩
  have functional : ∀ g ∈ gs, g.Functional := fun g member =>
    guarded_functional all g (perm.mem_iff.mp member)
  rw [((Functional.choice functional).sessionless text pos).result_eq,
    ((Functional.choice all).sessionless text pos).result_eq]
  exact result_choice_of_perm all perm text pos budget

/-- `ab` stands behind `a`, so it is not matched, and with guards not even if it is tried first. -/
theorem words_in_any_order :
    let word (s : String) := (Grammar.literal s).meaning .none
    let words := [word "a", word "ab", word "b"]
    let text := Text.ofList ['a', 'b']
    (choice words.reverse text 0 1 .fresh).result = .ok (.success (.str "ab") 2) ∧
      (choice (guarded words).reverse text 0 1 .fresh).result = .ok (.success (.str "a") 1) ∧
      SameEnd Reply.SameMatch (choice (guarded words).reverse text 0 1 .fresh).result
        (choice words text 0 1 .fresh).result ∧
      (guarded words).Pairwise fun g h => ¬ (g.Succeeds text 0 ∧ h.Succeeds text 0) := by
  intro word words text
  have functional (s : String) : (word s).Functional := (Grammar.literal s).meaning_functional .none
  have all : ∀ p ∈ words, p.Functional :=
    List.forall_mem_cons.mpr ⟨functional "a", List.forall_mem_cons.mpr
      ⟨functional "ab", List.forall_mem_singleton.mpr (functional "b")⟩⟩
  obtain ⟨alike, excluded⟩ := guards_in_any_order all text 0
  exact ⟨by rfl, by rfl, alike _ (List.reverse_perm _) 1 .fresh .fresh, excluded⟩

end Parser

end Descent
