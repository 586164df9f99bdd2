import Descent.Proofs.Parser.Reporting
import Descent.Proofs.Placement.Grammar
import Descent.Proofs.Table.Interchange
import Descent.Proofs.Text.Remaining

set_option autoImplicit false

namespace Descent.Parser

open Descent.Action (Ensures Settles)

variable {σ α β : Type} {text : Text} {place : Int → Prop} {p q : Parser σ α}
  {row : Row (Unary σ α) (Binary σ α)}

/-- The parser fails, and raises no fault, wherever it is started at one of the places. -/
structure Idle (text : Text) (place : Int → Prop) (p : Parser σ α) : Prop where
  stable : p.Stable
  refuses : ∀ pos, place pos → ∃ refusal, p.Replies text pos (.failure refusal)

namespace Idle

theorem anchored (idle : p.Idle text place) : p.anchored.Idle text place where
  stable := idle.stable.anchored
  refuses pos here := by
    obtain ⟨refusal, replies⟩ := idle.refuses pos here
    exact ⟨_, replies.anchored⟩

theorem firstOf {ps : List (Parser σ α)} (idle : p.Idle text place)
    (all : ∀ q ∈ ps, q.Idle text place) : (firstOf p ps).Idle text place where
  stable _ _ enough := (idle.stable _ _ enough).firstOf <|
    List.forall₂_same.mpr fun q member => (all q member).stable _ _ enough
  refuses pos here := by
    induction ps generalizing p with
    | nil => exact idle.refuses pos here
    | cons q qs ih =>
      obtain ⟨next, others⟩ := List.forall_mem_cons.mp all
      obtain ⟨_, first⟩ := idle.refuses pos here
      obtain ⟨refusal, rest⟩ := ih next others
      exact ⟨refusal, first.bind rest⟩

/-- A choice among operators that do not occur does not occur, and without any there is none. -/
theorem choice {ps : List (Parser σ α)} (all : ∀ p ∈ ps, p.Idle text place) :
    (Parser.choice ps).Idle text place := by
  cases ps with
  | nil => exact ⟨fun _ _ _ => failWith_extends _, fun _ _ => ⟨_, .of_eq_pure rfl⟩⟩
  | cons p ps =>
    obtain ⟨first, others⟩ := List.forall_mem_cons.mp all
    exact (first.firstOf others).anchored

/-- An operator that does not occur never gets to an operand. -/
theorem both {r : Parser σ β} (idle : p.Idle text place) (stable : r.Stable) :
    (p.both r).Idle text place where
  stable := idle.stable.both stable
  refuses pos here := by
    obtain ⟨refusal, replies⟩ := idle.refuses pos here
    exact ⟨_, replies.bind_refused _⟩

theorem optional (idle : p.Idle text place) :
    Interchangeable text place p.optional (Parser.pure none) := by
  refine .of_replies (fun _ _ enough => (idle.stable _ _ enough).optional)
    (fun _ _ _ => pure_extends none) fun pos here => ?_
  obtain ⟨refusal, replies⟩ := idle.refuses pos here
  exact ⟨_, .success none here, (replies.map some).orElse_refused (.pure none), .pure none⟩

theorem many (idle : p.Idle text place) :
    Interchangeable text place p.many (Parser.pure []) := by
  refine .of_replies idle.stable.many (fun _ _ _ => pure_extends []) fun pos here => ?_
  obtain ⟨refusal, replies⟩ := idle.refuses pos here
  exact ⟨_, .success [] here, Rests.many idle.stable (.refused refusal replies), .pure []⟩

theorem map (f : α → β) (idle : p.Idle text place) : (p.map f).Idle text place where
  stable _ _ enough := (idle.stable _ _ enough).map f
  refuses pos here := by
    obtain ⟨refusal, replies⟩ := idle.refuses pos here
    exact ⟨refusal, replies.map f⟩

end Idle

/-- A text that stands nowhere in another one is refused there wherever it is tried, be that before
the start or past the end. -/
theorem literal_idle {s : String} (absent : ¬ s.toList <:+: text.toList) (place : Int → Prop) :
    (literal s : Parser σ String).Idle text place where
  stable _ _ _ := literal_extends s
  refuses pos _ := by
    refine ⟨.leaf pos (some (textLabel s)), .of_eq_pure ?_⟩
    unfold literal
    rw [if_neg]
    intro stands
    have here := (text.reads_iff _ _).mp (Bool.and_eq_true_iff.mp stands).2
    exact absent (here.isInfix.trans (List.drop_suffix _ _).isInfix)

/-- What follows an operand without being there is left out by the step that is done with both. -/
theorem both_pure_tryMap (p : Parser σ α) {default : β} {f : α × β → Except Fault α}
    (plain : ∀ x, f (x, default) = .ok x) :
    (p.both (Parser.pure default)).tryMap f = p.anchored := by
  have last (x : α) :
      ((Parser.pure default : Parser σ β).tryMap fun y => f (x, y)) = Parser.pure x := by
    funext text pos
    show (Action.ofExcept (f (x, default)) >>= fun y => pure (Reply.success y pos)) = _
    rw [plain]
    rfl
  rw [both_tryMap, funext last, bind_pure_eq_anchored]

theorem pure_both (default : β) (p : Parser σ α) :
    (Parser.pure default).both p = p.anchored.map fun x => (default, x) := by
  rw [both, pure_bind_eq_anchored, anchored_map]

theorem affixStage_idle {operand : Parser σ α} (same : Interchangeable text place p operand)
    (reports : operand.ReportsAtStart) (before : ∀ r ∈ row.before, r.Idle text place)
    (after : ∀ r ∈ row.after, r.Idle text place) :
    Interchangeable text place (affixStage row p) operand := by
  unfold affixStage
  split
  · exact same
  · have parts := ((Idle.choice before).optional.both same).both (Idle.choice after).optional
    have applied := parts.tryMap fun parts => applyAffixes parts.1.1 parts.1.2 parts.2
    rw [pure_both, reports.anchored_eq, map_both, tryMap_map,
      both_pure_tryMap operand fun _ => rfl, reports.anchored_eq] at applied
    exact applied

theorem chainStage_idle {operand : Parser σ α} {operators : List (Binary σ α)}
    (fold : α → List ((α → α → Except Fault α) × α) → Except Fault α)
    (alone : ∀ x, fold x [] = .ok x) (same : Interchangeable text place p operand)
    (reports : operand.ReportsAtStart) (all : ∀ r ∈ operators, r.Idle text place) :
    Interchangeable text place (chainStage fold operators p) operand := by
  unfold chainStage
  split
  · exact same
  · have links := ((Idle.choice all).both same.stable).many
    have folded := (same.both links).tryMap fun chained => fold chained.1 chained.2
    rw [both_pure_tryMap operand alone, reports.anchored_eq] at folded
    exact folded

theorem singleStage_idle {operand : Parser σ α} (same : Interchangeable text place p operand)
    (reports : operand.ReportsAtStart) (all : ∀ r ∈ row.single, r.Idle text place) :
    Interchangeable text place (singleStage row p) operand := by
  unfold singleStage
  split
  · exact same
  · have tail := ((Idle.choice all).both same.stable).optional
    have applied := (same.both tail).tryMap fun parts => applyOnce parts.1 parts.2
    rw [both_pure_tryMap operand fun _ => rfl, reports.anchored_eq] at applied
    exact applied

/-- A row whose operators do not occur is its operand. -/
theorem level_idle (same : Interchangeable text place p p) (reports : p.ReportsAtStart)
    (idle : row.Each (Idle text place) (Idle text place)) :
    Interchangeable text place (level row p) p := by
  rw [level_eq_stages]
  have affixes := affixStage_idle same reports idle.before idle.after
  have lefts := chainStage_idle foldLeft (fun _ => rfl) affixes reports idle.left
  have rights := chainStage_idle foldRight (fun _ => rfl) lefts reports idle.right
  exact singleStage_idle rights reports idle.single

namespace ReportsAtStart

-- Each step of a row is its operand, or begins by binding a part of it.

theorem affixStage (reports : p.ReportsAtStart) (row : Row (Unary σ α) (Binary σ α)) :
    (affixStage row p).ReportsAtStart := by
  unfold Parser.affixStage
  split
  · exact reports
  · exact (bind_reportsAtStart _ _).tryMap _

theorem chainStage (reports : p.ReportsAtStart)
    (fold : α → List ((α → α → Except Fault α) × α) → Except Fault α)
    (operators : List (Binary σ α)) :
    (chainStage fold operators p).ReportsAtStart := by
  unfold Parser.chainStage
  split
  · exact reports
  · exact (bind_reportsAtStart _ _).tryMap _

theorem singleStage (reports : p.ReportsAtStart) (row : Row (Unary σ α) (Binary σ α)) :
    (singleStage row p).ReportsAtStart := by
  unfold Parser.singleStage
  split
  · exact reports
  · exact (bind_reportsAtStart _ _).tryMap _

theorem level (reports : p.ReportsAtStart) (row : Row (Unary σ α) (Binary σ α)) :
    (Parser.level row p).ReportsAtStart := by
  rw [level_eq_stages]
  exact (((reports.affixStage row).chainStage foldLeft _).chainStage foldRight _).singleStage row

theorem expression (reports : p.ReportsAtStart)
    (table : List (List (Operator (Unary σ α) (Binary σ α)))) :
    (Parser.expression table p).ReportsAtStart := by
  induction table generalizing p with
  | nil => exact reports
  | cons operators rest ih => exact ih (reports.level _)

end ReportsAtStart

variable {before after : List (List (Operator (Unary σ α) (Binary σ α)))}
  {operators : List (Operator (Unary σ α) (Binary σ α))} {term : Parser σ α}

theorem expression_append (before after : List (List (Operator (Unary σ α) (Binary σ α))))
    (term : Parser σ α) :
    expression (before ++ after) term = expression after (expression before term) :=
  List.foldl_append

/-- The expressions with and without the row may be put for one another. -/
theorem expression_idle
    (others : ∀ operators ∈ before ++ after, ∀ operator ∈ operators,
      operator.Each (Within text place) (Within text place))
    (idle : ∀ operator ∈ operators, operator.Each (Idle text place) (Idle text place))
    (within : term.Within text place) (reports : term.ReportsAtStart) :
    Interchangeable text place (expression (before ++ operators :: after) term)
      (expression (before ++ after) term) := by
  obtain ⟨tighter, looser⟩ := List.forall_mem_append.mp others
  -- what the row takes for its operands
  have operand := within.interchangeable.expression tighter
  have row := level_idle operand (reports.expression before) (Row.each_ofOperators idle)
  rw [expression_append, expression_append]
  exact row.expression looser

/-- If the operators of a row occur nowhere in a text, the row may be left out of the table,
whatever stands before and after it: from every place of the text, both expressions settle on the
same match or the same failure with its whole chain of causes, or both raise the same fault. The
term reports its failures at its start; the term and the other operators are functions of the text
and the place. The places may be all integers, and otherwise the term and the other operators lead
from each of them to another. -/
theorem idle_row_transparent
    (others : ∀ operators ∈ before ++ after, ∀ operator ∈ operators,
      operator.Each (Within text place) (Within text place))
    (idle : ∀ operator ∈ operators, operator.Each (Idle text place) (Idle text place))
    (within : term.Within text place) (reports : term.ReportsAtStart) {pos : Int} (here : place pos)
    (session other : Session σ) :
    let longer := expression (before ++ operators :: after) term text pos
    let shorter := expression (before ++ after) term text pos
    (∀ outcome, Settles longer session outcome →
      ∃ outcome', Settles shorter other outcome' ∧ outcome'.result = outcome.result) ∧
    (∀ outcome, Settles shorter other outcome →
      ∃ outcome', Settles longer session outcome' ∧ outcome'.result = outcome.result) := by
  have same := expression_idle others idle within reports
  exact ⟨fun _ => same.onward.same_result here session other,
    fun _ => same.back.same_result here other session⟩

/-- In `2+2*2` there is no sign of the row between the products and the sums. -/
theorem signs_left_out :
    let sign (s : String) (f : Int → Int → Int) : Binary Empty Int :=
      (literal s).map fun _ x y => .ok (f x y)
    let two : Parser Empty Int := (literal "2").map fun _ => 2
    let products : List (Operator (Unary Empty Int) (Binary Empty Int)) :=
      [.between .left (sign "*" (· * ·))]
    let sums : List (Operator (Unary Empty Int) (Binary Empty Int)) :=
      [.between .left (sign "+" (· + ·))]
    let row : List (Operator (Unary Empty Int) (Binary Empty Int)) :=
      [.before ((literal "-").map fun _ x => .ok (-x)),
        .after ((literal "!").map fun _ x => .ok x.natAbs),
        .between .left (sign "/" (· / ·)), .between .right (sign "^" fun x y => x.pow y.toNat),
        .between .none (sign "%" (· % ·))]
    let text := Text.ofString "2+2*2"
    let longer := expression [products, row, sums] two text 0
    let shorter := expression [products, sums] two text 0
    shorter 9 .fresh = .done (.success 6 5) .fresh ∧
      ∃ outcome, Settles longer .fresh outcome ∧ outcome.result = .ok (.success 6 5) := by
  intro sign two products sums row text longer shorter
  have occurs (s : String) : (literal s : Parser Empty String).Within text fun _ => True :=
    literal_within s text
  have others : ∀ operators ∈ [products] ++ [sums], ∀ operator ∈ operators,
      operator.Each (Within text fun _ => True) (Within text fun _ => True) := by
    simp only [products, sums, List.cons_append, List.nil_append, List.forall_mem_cons]
    exact ⟨⟨(occurs "*").map _, nofun⟩, ⟨(occurs "+").map _, nofun⟩, nofun⟩
  have idle : ∀ operator ∈ row,
      operator.Each (Idle text fun _ => True) (Idle text fun _ => True) := by
    simp only [row, List.forall_mem_cons]
    refine ⟨?_, ?_, ?_, ?_, ?_, nofun⟩
    all_goals exact (literal_idle (by decide) _).map _
  have within : two.Within text fun _ => True := (occurs "2").map _
  have reports : two.ReportsAtStart := (literal_reportsAtStart "2").map _
  have ran : shorter 9 .fresh = .done (.success 6 5) .fresh := by rfl
  have stable := (within.interchangeable.expression others).stable.at_place text 0
  have settles := Action.settles_of_ran stable ran trivial
  exact ⟨ran, (idle_row_transparent others idle within reports trivial .fresh .fresh).2 _ settles⟩

end Descent.Parser

namespace Descent

/-- Grammars of this library do not lead out of a text, so that for them the places inside it will
do. -/
theorem Grammar.Library.within {rules : Rules} {p : Grammar} (library : p.Library)
    (library_rules : rules.Library) (text : Text) :
    (p.meaning rules).Within text fun pos => 0 ≤ pos ∧ pos ≤ text.length where
  functional := p.meaning_functional rules
  stays pos here := by
    refine (library.meaning_located library_rules text pos here.1 here.2).mono ?_
    intro reply placed
    cases reply with
    | success value stop => exact ⟨Int.le_trans here.1 placed.1, placed.2⟩
    | failure refusal => trivial

end Descent
