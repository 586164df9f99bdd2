import Descent.Parser.Repeat

set_option autoImplicit false

namespace Descent

theorem Reply.map_failure {α β : Type} (f : α → β) (refusal : Failure) :
    (failure refusal : Reply α).map f = failure refusal :=
  rfl

theorem Reply.map_map {α β γ : Type} (f : α → β) (g : β → γ) (reply : Reply α) :
    (reply.map f).map g = reply.map fun value => g (f value) := by
  cases reply <;> rfl

theorem Reply.anchor_map {α β : Type} (f : α → β) (pos : Int) (reply : Reply α) :
    (reply.map f).anchor pos = (reply.anchor pos).map f := by
  cases reply <;> rfl

namespace Parser

variable {σ α β γ δ : Type}

theorem map_id (p : Parser σ α) : p.map id = p := by
  funext text pos
  refine Eq.trans ?_ (bind_pure (p text pos))
  refine bind_congr ?_
  rintro (⟨value, stop⟩ | refusal) <;> rfl

theorem map_map (f : α → β) (g : β → γ) (p : Parser σ α) :
    (p.map f).map g = p.map fun value => g (f value) := by
  funext text pos
  simp only [map, bind_assoc, pure_bind, Reply.map_map]

theorem anchored_map (f : α → β) (p : Parser σ α) : (p.map f).anchored = p.anchored.map f := by
  funext text pos
  simp only [anchored, map, bind_assoc, pure_bind, Reply.anchor_map]

theorem tryMap_map (f : α → β) (g : β → Except Fault γ) (p : Parser σ α) :
    (p.map f).tryMap g = p.tryMap fun value => g (f value) := by
  funext text pos
  simp only [tryMap, map, bind_assoc, pure_bind]
  refine bind_congr ?_
  rintro (⟨value, stop⟩ | refusal) <;> rfl

/-- Two steps that may raise faults are one. -/
theorem tryMap_tryMap (f : α → Except Fault β) (g : β → Except Fault γ) (p : Parser σ α) :
    (p.tryMap f).tryMap g = p.tryMap fun value => f value >>= g := by
  funext text pos
  simp only [tryMap, bind_assoc]
  refine bind_congr fun reply => ?_
  cases reply with
  | success value stop =>
    simp only [bind_assoc, pure_bind]
    cases f value <;> rfl
  | failure refusal => rfl

/-- A function that never fails is mapped as any other. -/
theorem tryMap_ok (f : α → β) (p : Parser σ α) :
    (p.tryMap fun value => .ok (f value)) = p.map f := by
  funext text pos
  simp only [tryMap, map]
  refine bind_congr ?_
  rintro (⟨value, stop⟩ | refusal) <;> rfl

theorem tryMap_exceptMap {β γ : Type} (f : α → Except Fault β) (g : β → γ) (p : Parser σ α) :
    (p.tryMap fun value => (f value).map g) = (p.tryMap f).map g := by
  rw [← tryMap_ok, tryMap_tryMap]
  rfl

theorem bind_map (f : α → β) (p : Parser σ α) (next : β → Parser σ γ) :
    (p.map f).bind next = p.bind fun value => next (f value) := by
  funext text pos
  simp only [Parser.bind, map, bind_assoc, pure_bind]
  refine bind_congr ?_
  rintro (⟨value, stop⟩ | refusal) <;> rfl

theorem seqRight_map (f : α → β) (p : Parser σ α) (q : Parser σ γ) :
    (p.map f).seqRight q = p.seqRight q :=
  bind_map f p fun _ => q

theorem map_bind (p : Parser σ α) (next : α → Parser σ β) (f : β → γ) :
    (p.bind next).map f = p.bind fun value => (next value).map f := by
  funext text pos
  simp only [Parser.bind, map, bind_assoc]
  refine bind_congr ?_
  rintro (⟨value, stop⟩ | refusal)
  · simp only [bind_assoc, pure_bind, Reply.anchor_map]
  · rfl

theorem both_map (f : α → γ) (g : β → δ) (p : Parser σ α) (q : Parser σ β) :
    (p.map f).both (q.map g) = (p.both q).map (Prod.map f g) := by
  simp only [both, bind_map, map_bind, map_map, Prod.map]

theorem map_both (f : α → γ) (p : Parser σ α) (q : Parser σ β) :
    (p.map f).both q = (p.both q).map (Prod.map f id) := by
  rw [← both_map, map_id]

theorem both_map_second (g : β → δ) (p : Parser σ α) (q : Parser σ β) :
    p.both (q.map g) = (p.both q).map (Prod.map id g) := by
  rw [← both_map, map_id]

theorem both_fst (p : Parser σ α) (q : Parser σ β) : (p.both q).map Prod.fst = p.seqLeft q := by
  simp only [both, seqLeft, map_bind, map_map]

theorem both_snd (p : Parser σ α) (q : Parser σ β) : (p.both q).map Prod.snd = p.seqRight q := by
  simp only [both, seqRight, map_bind, map_map]
  exact congrArg _ (funext fun _ => map_id q)

/-- A step after a sequence of two, which may raise a fault, is a step after the second one. -/
theorem both_tryMap (p : Parser σ α) (q : Parser σ β) (f : α × β → Except Fault γ) :
    (p.both q).tryMap f = p.bind fun a => q.tryMap fun b => f (a, b) := by
  funext text pos
  simp only [both, Parser.bind, map, tryMap, bind_assoc]
  refine bind_congr fun reply => ?_
  cases reply with
  | success a middle =>
    simp only [bind_assoc]
    refine bind_congr fun reply => ?_
    cases reply with
    | success b stop => simp only [pure_bind, Reply.map, Reply.anchor_success, bind_assoc]
    | failure refusal => rfl
  | failure refusal => rfl

theorem orElse_map (f : α → β) (p q : Parser σ α) :
    (p.map f).orElse (q.map f) = (p.orElse q).map f := by
  funext text pos
  simp only [orElse, map, bind_assoc, pure_bind]
  refine bind_congr ?_
  rintro (⟨value, stop⟩ | refusal)
  · rfl
  · simp only [Reply.map_failure, bind_assoc, pure_bind, Reply.anchor_map]

theorem option_map (f : α → β) (default : α) (p : Parser σ α) :
    (p.map f).option (f default) = (p.option default).map f :=
  orElse_map f p (Parser.pure default)

theorem optional_map (f : α → β) (p : Parser σ α) :
    optional (p.map f) = (optional p).map (Option.map f) := by
  rw [optional, map_map, optional, ← option_map, map_map]
  rfl

/-- A parser with a default yields the default where there is no value. -/
theorem option_eq_optional (default : α) (p : Parser σ α) :
    p.option default = (optional p).map (Option.getD · default) := by
  rw [optional, ← option_map, map_map]
  show p.option default = (p.map id).option default
  rw [map_id]

theorem sequence_pair (p q : Parser σ α) :
    sequence [p, q] = (p.both q).map fun (a, b) => [a, b] := by
  funext text pos
  simp only [sequence, anchored, both, Parser.bind, map, inTurn, bind_assoc]
  refine bind_congr ?_
  rintro (⟨value, stop⟩ | refusal)
  · simp only [bind_assoc, pure_bind]
    refine bind_congr ?_
    rintro (⟨value, stop⟩ | refusal) <;> rfl
  · rfl

/-- Anchoring the first two of three parsers once more where they were started changes nothing. -/
theorem sequence_triple (p q r : Parser σ α) :
    sequence [p, q, r] = ((p.both q).both r).map fun ((a, b), c) => [a, b, c] := by
  funext text pos
  simp only [sequence, anchored, both, Parser.bind, map, inTurn, bind_assoc]
  refine bind_congr ?_
  rintro (⟨value, stop⟩ | refusal)
  · simp only [bind_assoc, pure_bind]
    refine bind_congr ?_
    rintro (⟨value, stop⟩ | refusal)
    · simp only [Reply.map, Reply.anchor, bind_assoc, pure_bind]
      refine bind_congr ?_
      rintro (⟨value, stop⟩ | refusal) <;> rfl
    · simp only [Reply.map, Reply.anchor, pure_bind, Failure.anchor_anchor]
  · simp only [Reply.map, Reply.anchor, pure_bind, Failure.anchor_anchor]

theorem inTurn_map (f : α → β) (ps : List (Parser σ α)) :
    inTurn (ps.map (map f)) = (inTurn ps).map (List.map f) := by
  induction ps with
  | nil => rfl
  | cons p ps ih =>
    funext text pos
    simp only [List.map_cons, inTurn, ih, map, bind_assoc, pure_bind]
    refine bind_congr ?_
    rintro (⟨value, stop⟩ | refusal)
    · simp only [Reply.map, bind_assoc, pure_bind]
      refine bind_congr ?_
      rintro (⟨value, stop⟩ | refusal) <;> rfl
    · rfl

theorem sequence_map (f : α → β) (ps : List (Parser σ α)) :
    sequence (ps.map (map f)) = (sequence ps).map (List.map f) := by
  rw [sequence, inTurn_map, anchored_map]
  rfl

theorem firstOf_map (f : α → β) (p : Parser σ α) (ps : List (Parser σ α)) :
    firstOf (p.map f) (ps.map (map f)) = (firstOf p ps).map f := by
  induction ps generalizing p with
  | nil => rfl
  | cons q qs ih =>
    funext text pos
    simp only [List.map_cons, firstOf, map, bind_assoc, pure_bind]
    refine bind_congr ?_
    rintro (⟨value, stop⟩ | refusal)
    · rfl
    · exact congrFun (congrFun (ih q) text) pos

theorem choice_map (f : α → β) (ps : List (Parser σ α)) :
    choice (ps.map (map f)) = (choice ps).map f := by
  cases ps with
  | nil => rfl
  | cons p ps =>
    rw [List.map_cons, choice, firstOf_map, anchored_map]
    rfl

theorem repeatUpTo_map (f : α → β) (p : Parser σ α) (rounds : Nat) :
    (p.map f).repeatUpTo rounds = (p.repeatUpTo rounds).map (List.map f) := by
  induction rounds with
  | zero => rfl
  | succ rounds ih =>
    funext text pos
    simp only [repeatUpTo, map, bind_assoc, pure_bind]
    refine bind_congr ?_
    rintro (⟨value, stop⟩ | refusal)
    · by_cases stays : stop = pos
      · simp only [Reply.map, stays, ↓reduceIte, pure_bind, List.map_nil]
      · simp only [Reply.map, stays, ↓reduceIte, ih, map, bind_assoc, pure_bind]
        refine bind_congr ?_
        rintro (⟨values, stop⟩ | refusal) <;> rfl
    · rfl

theorem many_map (f : α → β) (p : Parser σ α) : (p.map f).many = p.many.map (List.map f) := by
  funext text pos
  simp only [many, map, bind_assoc]
  refine bind_congr fun budget => ?_
  rw [repeatUpTo_map]
  rfl

theorem many1_map (f : α → β) (p : Parser σ α) : (p.map f).many1 = p.many1.map (List.map f) := by
  funext text pos
  simp only [many1, map, bind_assoc, pure_bind]
  refine bind_congr ?_
  rintro (⟨value, stop⟩ | refusal)
  · by_cases stays : stop = pos
    · simp only [Reply.map, stays, ↓reduceIte, pure_bind, List.map_nil]
    · simp only [Reply.map, stays, ↓reduceIte, many_map, map, bind_assoc, pure_bind]
      refine bind_congr ?_
      rintro (⟨values, stop⟩ | refusal) <;> rfl
  · rfl

/-- The values of separators are dropped. -/
theorem sepBy_map_separator (f : β → γ) (p : Parser σ α) (separator : Parser σ β) :
    p.sepBy (separator.map f) = p.sepBy separator := by
  rw [sepBy, sepBy1, seqRight_map]
  rfl

end Parser

end Descent
