import Descent.Proofs.Chaining.Recursive
import Descent.Proofs.Faultless.Parser
import Descent.Proofs.Repetition.Greedy

set_option autoImplicit false

namespace Descent.Parser

open Descent.Action (Agree Ensures)
open Reply (MatchHas)

variable {σ α β γ : Type} {text : Text} {pos : Int}

/-- After a parser, parsers agree that agree for each of its values, where the match ends. -/
theorem bind_agrees {p : Parser σ α} {next other : α → Parser σ β} {good : α → Int → Prop}
    (stable : p.Stable) (next_stable : ∀ value, (next value).Stable)
    (other_stable : ∀ value, (other value).Stable) (ensures : Ensures (p text pos) (MatchHas good))
    (agree : ∀ value stop, good value stop → Agree (next value text stop) (other value text stop)) :
    Agree (p.bind next text pos) (p.bind other text pos) := by
  refine Agree.bind_right (stable.at_place text pos) ensures ?_
  intro reply holds
  cases reply with
  | failure refusal => exact .refl _
  | success value stop =>
    exact (agree value stop holds).bind_left _ ((next_stable value).at_place text stop)
      ((other_stable value).at_place text stop)

/-- A repetition whose matches move, and what is made of its values: without a match, what is made
of none; after a match, the repetition again. -/
theorem many_tryMap_agrees {b : Parser σ β} (stable : b.Stable)
    (moves : Ensures (b text pos) fun reply => ¬ reply.Stays pos)
    {fold : List β → Except Fault γ} {default : γ} (none : fold [] = .ok default) :
    Agree (b.many.tryMap fold text pos)
      (linked b default (fun value => b.many.tryMap fun rest => fold (value :: rest))
        text pos) := by
  have once : Agree (b.many.tryMap fold text pos) ((b.round b.many).tryMap fold text pos) :=
    (many_agrees stable text pos).bind_left _ (stable.many.at_place text pos)
      ((stable.round stable.many).at_place text pos)
  refine once.trans (.of_eq ?_)
  -- no match stays where it began, so the round goes on after each of them
  simp only [tryMap, round, linked, bind_assoc]
  apply moves.bind_congr
  intro reply moved
  cases reply with
  | failure refusal =>
    simp only [pure_bind, none]
    rfl
  | success value stop =>
    have moved : ¬ stop = pos := moved
    simp only [moved, ↓reduceIte, bind_assoc]
    refine bind_congr fun rest => ?_
    cases rest <;> rfl

/-- Two ways to go on from an operand agree if both take a link or end, and agree on what they do
after a link whenever they agree where it ends. -/
theorem agree_of_linked {b : Parser σ β} (kind : α → Prop) {holds : β → Prop} (stable : b.Stable)
    (ensures : ∀ pos : Int, 0 ≤ pos → pos ≤ text.length → Ensures (b text pos)
      (MatchHas fun value stop => (pos < stop ∧ stop ≤ text.length) ∧ holds value))
    {first second : α → Parser σ α} {next other : α → β → Parser σ α}
    (one : ∀ x (pos : Int), 0 ≤ pos → pos ≤ text.length →
      Agree (first x text pos) (linked b x (next x) text pos))
    (two : ∀ x (pos : Int), Agree (second x text pos) (linked b x (other x) text pos))
    (rest : ∀ x value stop, kind x → holds value →
      (∀ y, kind y → Agree (first y text stop) (second y text stop)) →
      Agree (next x value text stop) (other x value text stop))
    {x : α} (start : kind x) (low : 0 ≤ pos) (high : pos ≤ text.length) :
    Agree (first x text pos) (second x text pos) := by
  -- on what is left of the text, of which a link takes a character at least
  generalize left : (text.length - pos).toNat = rounds
  induction rounds using Nat.strongRecOn generalizing x pos with
  | ind rounds ih =>
    have link_first := one x pos low high
    have link_second := two x pos
    refine link_first.trans (Agree.trans ?_ link_second.symm)
    refine Agree.bind_right (stable.at_place text pos) (ensures pos low high) ?_
    intro reply reached
    cases reply with
    | failure refusal => exact .refl _
    | success value stop =>
      obtain ⟨⟨further, inside⟩, linking⟩ := reached
      have shorter : (text.length - stop).toNat < rounds := by omega
      exact rest x value stop start linking fun y good =>
        ih _ shorter good (by omega) inside rfl

/-- Wherever the parser is started in the text, its values have the property. -/
theorem ensures_of_gives {p : Parser σ α} {kind : α → Prop}
    (good : ∀ value, p.Gives text value → kind value) (low : 0 ≤ pos) :
    Ensures (p text pos) (MatchHas fun value _ => kind value) := by
  intro budget session reply reached ran
  cases reply with
  | success value stop => exact good value ⟨pos, budget, session, stop, reached, low, ran⟩
  | failure refusal => trivial

/-- What holds of the value of the first parser, and of the values of the second one where the first
one ends, holds of both values. -/
theorem both_ensures {p : Parser σ α} {q : Parser σ β} {good : α → Prop} {kind : β → Prop}
    (first : Ensures (p text pos) (MatchHas fun a middle => good a ∧
      Ensures (q text middle) (MatchHas fun b _ => kind b))) :
    Ensures (p.both q text pos) (MatchHas fun parts _ => good parts.1 ∧ kind parts.2) := by
  refine first.bind ?_
  intro reply holds
  cases reply with
  | failure refusal => exact Ensures.pure trivial
  | success a middle =>
    obtain ⟨good_first, second⟩ := holds
    have mapped : Ensures (q.map (fun b => (a, b)) text middle)
        (MatchHas fun parts _ => good parts.1 ∧ kind parts.2) := by
      refine second.bind ?_
      intro reply given
      cases reply with
      | failure refusal => exact Ensures.pure trivial
      | success b stop => exact Ensures.pure ⟨good_first, given⟩
    exact mapped.bind fun _ given => Ensures.pure (given.anchor pos)

/-- Within the text the operand and the operator reply where they should, and an operator with an
operand after it takes a character at least. -/
structure Links (text : Text) (p : Parser σ α) (operator : Binary σ α) : Prop where
  stable : p.Stable
  operator_stable : operator.Stable
  located : Located p
  operator_located : Located operator
  moves : ∀ pos : Int, 0 ≤ pos → pos ≤ text.length →
    Ensures (operator.both p text pos) fun reply => ¬ reply.Stays pos

variable {p : Parser σ α} {operator : Binary σ α}

/-- What holds of the operators and of the operands holds of the links of both. -/
theorem Links.ensures (links : Links text p operator) {kind : α → Prop}
    {good : (α → α → Except Fault α) → Prop} (operands : ∀ value, p.Gives text value → kind value)
    (operators : ∀ f, operator.Gives text f → good f) (low : 0 ≤ pos) (high : pos ≤ text.length) :
    Ensures (operator.both p text pos) (MatchHas fun link stop =>
      (pos < stop ∧ stop ≤ text.length) ∧ good link.1 ∧ kind link.2) := by
  have first : Ensures (operator text pos) (MatchHas fun f middle => good f ∧
      Ensures (p text middle) (MatchHas fun operand _ => kind operand)) := by
    refine ((links.operator_located text pos low high).and (ensures_of_gives operators low)).mono ?_
    intro reply holds
    cases reply with
    | failure refusal => trivial
    | success f middle =>
      have onward : pos ≤ middle := holds.1.1
      exact ⟨holds.2, ensures_of_gives operands (Int.le_trans low onward)⟩
  have placed := (links.operator_located.both links.located) text pos low high
  refine ((placed.and (links.moves pos low high)).and (both_ensures first)).mono ?_
  intro reply holds
  cases reply with
  | failure refusal => trivial
  | success link stop =>
    obtain ⟨⟨⟨onward, inside⟩, moved⟩, parts⟩ := holds
    have moved : ¬ stop = pos := moved
    exact ⟨⟨by omega, inside⟩, parts⟩

theorem Links.operand_ensures (links : Links text p operator) {kind : α → Prop}
    (operands : ∀ value, p.Gives text value → kind value) (low : 0 ≤ pos)
    (high : pos ≤ text.length) :
    Ensures (p text pos) (MatchHas fun value stop =>
      (pos ≤ stop ∧ stop ≤ text.length) ∧ kind value) := by
  refine ((links.located text pos low high).and (ensures_of_gives operands low)).mono ?_
  intro reply holds
  cases reply with
  | failure refusal => trivial
  | success value stop => exact holds

theorem restLeft_agrees (stable : p.Stable) (operator_stable : operator.Stable) (acc : α)
    (pos : Int) : Agree (restLeft p operator acc text pos)
      (linked (operator.both p) acc (fun link => after (link.1 acc link.2) (restLeft p operator))
        text pos) := by
  refine (fix_agrees (restLeft_regular stable operator_stable) acc text pos).trans (.of_eq ?_)
  have sure (f : α → α → Except Fault α) (operand : α) :=
    Matches.after (f acc operand) (restLeft_matches p operator)
  exact congrFun (congrFun (orElse_eq_linked sure acc) text) pos

/-- What follows the operands combined so far is the links collected and combined with them, if no
operation on them raises a fault. -/
theorem Links.collected_left (links : Links text p operator) {kind : α → Prop}
    (operands : ∀ value, p.Gives text value → kind value)
    (operators : ∀ f, operator.Gives text f → Total₂ kind kind f) {acc : α} (holds : kind acc)
    (low : 0 ≤ pos) (high : pos ≤ text.length) :
    Agree ((operator.both p).many.tryMap (foldLeft acc) text pos)
      (restLeft p operator acc text pos) := by
  have link_stable := links.operator_stable.both links.stable
  refine agree_of_linked kind link_stable
    (fun pos low high => links.ensures operands operators low high)
    (fun acc pos low high => many_tryMap_agrees link_stable (links.moves pos low high) rfl)
    (restLeft_agrees links.stable links.operator_stable) ?_ holds low high
  intro acc link stop holds given agree
  obtain ⟨combined, comes, kept⟩ := given.1 acc holds link.2 given.2
  -- applied before the rest is collected or afterwards, the operation comes to the same operand
  have folds : (fun rest => foldLeft acc (link :: rest)) = foldLeft combined := by
    funext rest
    rw [foldLeft, comes]
    rfl
  rw [folds, comes]
  exact agree combined kept

theorem Links.chainl1_agrees (links : Links text p operator) {kind : α → Prop}
    (operands : ∀ value, p.Gives text value → kind value)
    (operators : ∀ f, operator.Gives text f → Total₂ kind kind f) (low : 0 ≤ pos)
    (high : pos ≤ text.length) :
    Agree (chainl1 p operator text pos) (leftRecursive p operator text pos) := by
  have link_stable := links.operator_stable.both links.stable
  rw [chainl1, chain, both_tryMap, leftRecursive]
  refine bind_agrees links.stable (fun _ => link_stable.many.tryMap _)
    (restLeft_stable links.stable links.operator_stable)
    (links.operand_ensures operands low high) ?_
  intro operand stop holds
  obtain ⟨⟨onward, inside⟩, given⟩ := holds
  exact links.collected_left operands operators given (Int.le_trans low onward) inside

/-- The chain that follows an operator may be replaced by one that agrees with it. -/
theorem restRight_agrees_of {whole other : Parser σ α} (operator_stable : operator.Stable)
    (stable : whole.Stable) (stable_other : other.Stable)
    (agree : ∀ pos, Agree (whole text pos) (other text pos)) (operand : α) (pos : Int) :
    Agree (restRight operator whole operand text pos)
      (restRight operator other operand text pos) := by
  have combining (f : α → α → Except Fault α) {q : Parser σ α} (stable : q.Stable) :
      (q.bind fun combined => after (f operand combined) Parser.pure).Stable :=
    stable.bind fun combined _ _ _ => .after (f operand combined) pure_extends
  have linking : Agree
      (operator.bind (fun f => whole.bind fun combined => after (f operand combined) Parser.pure)
        text pos)
      (operator.bind (fun f => other.bind fun combined => after (f operand combined) Parser.pure)
        text pos) := by
    have anything : Ensures (operator text pos) (MatchHas fun _ _ => True) :=
      (Ensures.always _).mono fun reply _ => by cases reply <;> trivial
    refine bind_agrees operator_stable (fun f => combining f stable)
      (fun f => combining f stable_other) anything ?_
    intro f middle _
    exact (agree middle).bind_left _ (stable.at_place text middle)
      (stable_other.at_place text middle)
  exact linking.bind_left _ ((operator_stable.bind fun f => combining f stable).at_place text pos)
    ((operator_stable.bind fun f => combining f stable_other).at_place text pos)

theorem rightRecursive_agrees (stable : p.Stable) (operator_stable : operator.Stable) (pos : Int) :
    Agree (rightRecursive p operator text pos)
      (p.bind (restRight operator (rightRecursive p operator)) text pos) :=
  fix_agrees (rightRecursive_regular stable operator_stable) () text pos

theorem restRight_agrees (stable : p.Stable) (operator_stable : operator.Stable) (operand : α)
    (pos : Int) :
    let rest := restRight operator (rightRecursive p operator)
    Agree (rest operand text pos)
      (linked (operator.both p) operand (fun link => (rest link.2).tryMap (link.1 operand))
        text pos) := by
  intro rest
  have whole_stable := rightRecursive_stable stable operator_stable
  have sure (operand : α) : (rest operand).Matches := matches_orElse_pure _ operand
  -- first the chain after the operator is taken apart into its first operand and the rest of it
  refine (restRight_agrees_of operator_stable whole_stable
    (stable.bind fun operand => restRight_stable operator_stable whole_stable operand)
    (rightRecursive_agrees stable operator_stable) operand pos).trans (.of_eq ?_)
  have taken_apart : restRight operator (p.bind rest) operand =
      (operator.bind fun f => p.bind fun second => (rest second).tryMap (f operand)).orElse
        (Parser.pure operand) :=
    congrArg (fun next => (operator.bind next).orElse (Parser.pure operand))
      (funext fun f => bind_after_eq sure (f operand))
  rw [taken_apart, orElse_eq_linked fun f second => (sure second).tryMap (f operand)]

/-- What follows an operand is the links collected and combined with it, whether or not the
operations raise faults: in both cases the last of them is the first to be applied. -/
theorem Links.collected_right (links : Links text p operator) (operand : α) (low : 0 ≤ pos)
    (high : pos ≤ text.length) :
    Agree ((operator.both p).many.tryMap (foldRight operand) text pos)
      (restRight operator (rightRecursive p operator) operand text pos) := by
  have link_stable := links.operator_stable.both links.stable
  have rest_stable := restRight_stable links.operator_stable
    (rightRecursive_stable links.stable links.operator_stable)
  refine agree_of_linked (fun _ => True) link_stable
    (fun pos low high => links.ensures (fun _ _ => trivial) (fun _ _ => trivial) low high)
    (fun operand pos low high => many_tryMap_agrees link_stable (links.moves pos low high) rfl)
    (restRight_agrees links.stable links.operator_stable) ?_ trivial low high
  intro operand link stop _ _ agree
  have folds : ((operator.both p).many.tryMap fun rest => foldRight operand (link :: rest)) =
      ((operator.both p).many.tryMap (foldRight link.2)).tryMap (link.1 operand) := by
    rw [tryMap_tryMap]
    rfl
  rw [folds]
  exact (agree link.2 trivial).bind_left _ ((link_stable.many.tryMap _).at_place text stop)
    ((rest_stable link.2).at_place text stop)

theorem Links.chainr1_agrees (links : Links text p operator) (low : 0 ≤ pos)
    (high : pos ≤ text.length) :
    Agree (chainr1 p operator text pos) (rightRecursive p operator text pos) := by
  have link_stable := links.operator_stable.both links.stable
  have whole_stable := rightRecursive_stable links.stable links.operator_stable
  refine Agree.trans ?_ (rightRecursive_agrees links.stable links.operator_stable pos).symm
  rw [chainr1, chain, both_tryMap]
  refine bind_agrees links.stable (fun _ => link_stable.many.tryMap _)
    (restRight_stable links.operator_stable whole_stable)
    (links.operand_ensures (fun _ _ => trivial) low high) ?_
  intro operand stop holds
  obtain ⟨⟨onward, inside⟩, _⟩ := holds
  exact links.collected_right operand (Int.le_trans low onward) inside

end Descent.Parser
