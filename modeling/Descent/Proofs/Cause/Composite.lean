import Descent.Proofs.Cause.Origin
import Descent.Proofs.Choice.Flattening
import Descent.Proofs.Parser.Promise
import Descent.Proofs.Table.Idle
import Descent.Proofs.Table.Unmixed

set_option autoImplicit false

namespace Descent

namespace Row

variable {unary binary : Type}

theorem cons_ne_empty {operator : Operator unary binary} (placed : operator.kind ≠ .nowhere)
    (row : Row unary binary) : row.cons operator ≠ empty := by
  cases operator with
  | between associativity parser => cases associativity <;> simp [cons, empty]
  | before parser => simp [cons, empty]
  | after parser => simp [cons, empty]
  | nowhere parser => exact absurd rfl placed

/-- A row with an operator of some position is not empty. -/
theorem ofOperators_ne_empty {operators : List (Operator unary binary)}
    (placed : ∃ operator ∈ operators, operator.kind ≠ .nowhere) :
    ofOperators operators ≠ empty := by
  obtain ⟨operator, member, placed⟩ := placed
  induction member with
  | head rest => exact cons_ne_empty placed _
  | @tail first rest _ ih =>
    cases first with
    | nowhere parser => exact ih
    | between associativity parser => exact cons_ne_empty (by simp [Operator.kind]) _
    | before parser => exact cons_ne_empty (by simp [Operator.kind]) _
    | after parser => exact cons_ne_empty (by simp [Operator.kind]) _

end Row

namespace Parser

open Descent.Action (Ensures done_of_bind)

variable {σ α β ι : Type}

theorem many1_reportsAtStart (p : Parser σ α) : p.many1.ReportsAtStart := by
  rintro text pos budget session _ later ran refusal rfl
  obtain ⟨inner, _, rfl⟩ := FailsFrom.many1_failure ran
  exact inner.anchor_pos pos

section

variable {row : Row (Unary σ α) (Binary σ α)} {p : Parser σ α}

-- A step of a row that has operators for it begins by binding a part of it.

theorem affixStage_reportsAtStart
    (without : row.before = [] → row.after = [] → p.ReportsAtStart) :
    (affixStage row p).ReportsAtStart := by
  unfold affixStage
  split
  · next none =>
    obtain ⟨before, after⟩ := Bool.and_eq_true_iff.mp none
    exact without (List.isEmpty_iff.mp before) (List.isEmpty_iff.mp after)
  · exact (bind_reportsAtStart _ _).tryMap _

theorem chainStage_reportsAtStart (fold : α → List ((α → α → Except Fault α) × α) → Except Fault α)
    {operators : List (Binary σ α)} (without : operators = [] → p.ReportsAtStart) :
    (chainStage fold operators p).ReportsAtStart := by
  unfold chainStage
  split
  · next none => exact without (List.isEmpty_iff.mp none)
  · exact (bind_reportsAtStart _ _).tryMap _

theorem singleStage_reportsAtStart (without : row.single = [] → p.ReportsAtStart) :
    (singleStage row p).ReportsAtStart := by
  unfold singleStage
  split
  · next none => exact without (List.isEmpty_iff.mp none)
  · exact (bind_reportsAtStart _ _).tryMap _

/-- A row that is not empty reports failures at its start, wherever its operand reports them. -/
theorem level_reportsAtStart (some : row ≠ .empty) (operand : Parser σ α) :
    (level row operand).ReportsAtStart := by
  rw [level_eq_stages]
  -- a stage without operators is the one before it; not all of them are
  refine singleStage_reportsAtStart fun single => ?_
  refine chainStage_reportsAtStart foldRight fun right => ?_
  refine chainStage_reportsAtStart foldLeft fun left => ?_
  refine affixStage_reportsAtStart fun before after => ?_
  exact absurd ((Row.mk.injEq ..).mpr ⟨before, after, left, right, single⟩) some

end

theorem expression_reportsAtStart {table : List (List (Operator (Unary σ α) (Binary σ α)))}
    (placed : ∃ operators ∈ table, ∃ operator ∈ operators, operator.kind ≠ .nowhere)
    (term : Parser σ α) : (expression table term).ReportsAtStart := by
  obtain ⟨operators, member, placed⟩ := placed
  -- the row with an operator reports at its start, and the looser rows keep that
  obtain ⟨tighter, looser, rfl⟩ := List.append_of_mem member
  rw [expression_append]
  exact (level_reportsAtStart (Row.ofOperators_ne_empty placed)
    (expression tighter term)).expression
    looser

namespace FailsFrom

variable {p : Parser σ α} {origin : Origin σ}

theorem chain (operator : Binary σ α) (fails : p.FailsFrom origin) :
    (p.chain operator).FailsFrom origin :=
  fails.both_first (.many _)

theorem level (fails : p.FailsFrom origin) (row : Row (Unary σ α) (Binary σ α)) :
    (level row p).FailsFrom (.ofLevel row origin) := by
  have affixes : (affixStage row p).FailsFrom (.ofLevel row origin) := by
    unfold affixStage Origin.ofLevel
    split
    · exact fails
    · exact (((optional _).both_second fails).both_first (.optional _)).tryMap _
  have chained (fold : α → List ((α → α → Except Fault α) × α) → Except Fault α)
      (operators : List (Binary σ α)) {operand : Parser σ α}
      (fails : operand.FailsFrom (.ofLevel row origin)) :
      (chainStage fold operators operand).FailsFrom (.ofLevel row origin) := by
    unfold chainStage
    split
    · exact fails
    · exact (fails.chain _).tryMap _
  have rights := chained foldRight row.right (chained foldLeft row.left affixes)
  rw [level_eq_stages, singleStage]
  split
  · exact rights
  · exact (rights.both_first (.optional _)).tryMap _

theorem expression (fails : p.FailsFrom origin)
    (table : List (List (Operator (Unary σ α) (Binary σ α)))) :
    (expression table p).FailsFrom
      (table.foldl (fun operand operators => .ofLevel (Row.ofOperators operators) operand)
        origin) := by
  induction table generalizing p origin with
  | nil => exact fails
  | cons operators rest ih => exact ih (fails.level _)

/-- The parts of a parser between two others are called one after another. -/
theorem between (opening closing : Parser σ β) (p : Parser σ α) :
    (between opening closing p).FailsFrom
      ((Origin.call opening).either (.after opening fun _ => .oneOf p closing)) := by
  have front : (opening.seqRight p).FailsFrom (.oneOf opening p) :=
    (call opening).bind fun _ => call p
  apply (front.bind fun _ => (call closing).map _).mono
  rintro text pos budget session cause later
    ((first | second) | ⟨value, stop, between, matched, last⟩)
  · exact .inl first
  · obtain ⟨_, middle, _, opened, called⟩ := second
    exact .inr ⟨_, middle, _, opened, .inl called⟩
  · obtain ⟨reply, opened, started, goes⟩ := done_of_bind matched
    cases reply with
    | failure inner => cases goes
    | success value' middle =>
      obtain ⟨reply, closed, called, ends⟩ := done_of_bind goes
      cases reply with
      | failure inner => cases ends
      | success value stop =>
        cases ends
        exact .inr ⟨value', middle, opened, started, .inr ⟨value, stop, _, called, last⟩⟩

end FailsFrom

/-- A parser that is put together from any others, and the call that decides its failures. -/
inductive Composite : {α : Type} → Parser σ α → Origin σ → Prop where
  | sequence {α : Type} (ps : List (Parser σ α)) : Composite (sequence ps) (.inTurn ps)
  | choice {α : Type} (p : Parser σ α) (ps : List (Parser σ α)) :
      Composite (choice (p :: ps)) (.last p ps)
  | orElse {α : Type} (p q : Parser σ α) : Composite (p.orElse q) (.instead p (.call q))
  | bind {α β : Type} (p : Parser σ α) (next : α → Parser σ β) :
      Composite (p.bind next) ((Origin.call p).either (.after p fun value => .call (next value)))
  | both {α β : Type} (p : Parser σ α) (q : Parser σ β) : Composite (p.both q) (.oneOf p q)
  | seqRight {α β : Type} (p : Parser σ α) (q : Parser σ β) : Composite (p.seqRight q) (.oneOf p q)
  | seqLeft {α β : Type} (p : Parser σ α) (q : Parser σ β) : Composite (p.seqLeft q) (.oneOf p q)
  | many1 {α : Type} (p : Parser σ α) : Composite p.many1 (.call p)
  | between {α β : Type} (opening closing : Parser σ β) (p : Parser σ α) :
      Composite (between opening closing p)
        ((Origin.call opening).either (.after opening fun _ => .oneOf p closing))
  | count {α : Type} (n : Nat) (p : Parser σ α) :
      Composite (count n p) (.inTurn (List.replicate n p))
  | sepBy1 {α β : Type} (p : Parser σ α) (separator : Parser σ β) :
      Composite (p.sepBy1 separator) (.call p)
  | chainl1 {α : Type} (p : Parser σ α) (operator : Binary σ α) :
      Composite (p.chainl1 operator) (.call p)
  | chainr1 {α : Type} (p : Parser σ α) (operator : Binary σ α) :
      Composite (p.chainr1 operator) (.call p)
  | expression {α : Type} (table : List (List (Operator (Unary σ α) (Binary σ α))))
      (term : Parser σ α)
      (placed : ∃ operators ∈ table, ∃ operator ∈ operators, operator.kind ≠ .nowhere) :
      Composite (expression table term) (.ofTable table term)

namespace Composite

variable {p : Parser σ α} {origin : Origin σ}

theorem failsFrom (composite : Composite p origin) : p.FailsFrom origin := by
  cases composite with
  | sequence ps => exact (FailsFrom.inTurn ps).anchored
  | choice p ps => exact (FailsFrom.firstOf p ps).anchored
  | orElse p q => exact .orElse p (.call q)
  | bind p next => exact (FailsFrom.call p).bind fun value => .call (next value)
  | both p q => exact (FailsFrom.call p).bind fun _ => (FailsFrom.call q).map _
  | seqRight p q => exact (FailsFrom.call p).bind fun _ => .call q
  | seqLeft p q => exact (FailsFrom.call p).bind fun _ => (FailsFrom.call q).map _
  | many1 p => exact .many1 p
  | between opening closing p => exact .between opening closing p
  | count n p =>
    rw [count_eq_sequence]
    exact (FailsFrom.inTurn _).anchored
  | sepBy1 p separator => exact ((FailsFrom.call p).both_first (.many _)).map _
  | chainl1 p operator => exact ((FailsFrom.call p).chain operator).tryMap _
  | chainr1 p operator => exact ((FailsFrom.call p).chain operator).tryMap _
  | expression table term placed => exact (FailsFrom.call term).expression table

theorem reportsAtStart (composite : Composite p origin) : p.ReportsAtStart := by
  cases composite with
  | sequence ps => exact anchored_reportsAtStart _
  | choice p ps => exact anchored_reportsAtStart _
  | orElse p q =>
    rw [← orElse_anchored]
    exact anchored_reportsAtStart _
  | bind p next => exact bind_reportsAtStart p next
  | both p q => exact bind_reportsAtStart p _
  | seqRight p q => exact bind_reportsAtStart p _
  | seqLeft p q => exact bind_reportsAtStart p _
  | many1 p => exact many1_reportsAtStart p
  | between opening closing p => exact bind_reportsAtStart _ _
  | count n p => exact anchored_reportsAtStart _
  | sepBy1 p separator => exact (bind_reportsAtStart p _).map _
  | chainl1 p operator => exact (bind_reportsAtStart p _).tryMap _
  | chainr1 p operator => exact (bind_reportsAtStart p _).tryMap _
  | expression table term placed => exact expression_reportsAtStart placed term

end Composite

/-- A composite parser inside any number of parsers that pass its failures on: steps on its values,
labels, look-ahead, rules, and recursion. A recursion counts if it does however deep it is unrolled;
where it is not unrolled any more it never replies. -/
inductive Nested : {α : Type} → Parser σ α → Prop where
  | composite {α : Type} {p : Parser σ α} {origin : Origin σ} (composite : Composite p origin) :
      Nested p
  | tryMap {α β : Type} {p : Parser σ α} (f : α → Except Fault β) (nested : Nested p) :
      Nested (p.tryMap f)
  | label {α : Type} {p : Parser σ α} (message : String) (nested : Nested p) :
      Nested (p.label message)
  | lookAhead {α : Type} {p : Parser σ α} (nested : Nested p) : Nested p.lookAhead
  | skip {α : Type} {p : Parser σ α} (nested : Nested p) : Nested p.skip
  | rule {α : Type} (definition : Definition σ) {run : σ → Parser σ α}
      (nested : ∀ item, definition.build = .ok item → Nested (run item)) :
      Nested (rule definition run)
  | fix {α ι : Type} {body : (ι → Parser σ α) → ι → Parser σ α} {i : ι}
      (nested : ∀ depth, Nested (unroll body depth i)) : Nested (fix body i)
  | exhausted {α : Type} : Nested fun _ _ => (Action.exhausted : Action σ (Reply α))

namespace ReportsAtStart

variable {p : Parser σ α}

theorem label (message : String) (reports : p.ReportsAtStart) : (p.label message).ReportsAtStart :=
  reports.passed_on (fun _ _ _ => Ensures.pure nofun)
    fun _ _ => Ensures.pure fun _ same => by cases same; rfl

theorem lookAhead (reports : p.ReportsAtStart) : p.lookAhead.ReportsAtStart :=
  reports.passed_on (fun _ _ _ => Ensures.pure nofun)
    fun _ _ => Ensures.pure fun _ same => by cases same; rfl

end ReportsAtStart

theorem Nested.reportsAtStart {p : Parser σ α} (nested : Nested p) : p.ReportsAtStart := by
  induction nested with
  | composite composite => exact composite.reportsAtStart
  | tryMap f _ ih => exact ih.tryMap f
  | label message _ ih => exact ih.label message
  | lookAhead _ ih => exact ih.lookAhead
  | skip _ ih => exact ih.map _
  | rule definition _ ih =>
    exact fun text pos => rule_ensures fun item built => ih item built text pos
  | fix _ ih => exact fun text pos => fix_ensures fun depth => ih depth text pos
  | exhausted => exact fun _ _ => Ensures.exhausted _

/-- Composite parsers give back what they consumed. Whatever its parts report, and wherever it was
started, a composite parser that fails reports that at its start, and the innermost cause is that of
the failure which the deciding call returned: of the first part that did not match, of the last
alternative, and for repetitions, chains and tables of the first call of what is repeated or of the
term. A parser that passes failures on from composite parsers reports them at its start as well. -/
theorem composites_give_back :
    (∀ {σ α : Type} {p : Parser σ α} {origin : Origin σ}, Composite p origin →
      ∀ text start budget session refusal later,
        p text start budget session = .done (.failure refusal) later →
        refusal.pos = start ∧ ∃ cause, origin text start budget session cause later ∧
          refusal.deepest = cause.deepest) ∧
    ∀ {σ α : Type} {p : Parser σ α}, Nested p → ∀ text start budget session refusal later,
      p text start budget session = .done (.failure refusal) later → refusal.pos = start := by
  constructor
  · intro σ α p origin composite text start budget session refusal later ran
    exact ⟨composite.reportsAtStart text start budget session _ later ran refusal rfl,
      composite.failsFrom text start budget session refusal later ran⟩
  · intro σ α p nested text start budget session refusal later ran
    exact nested.reportsAtStart text start budget session _ later ran refusal rfl

/-- A parser that reports its failures before its start, with causes elsewhere, as the second of a
sequence and as the operand after a sign; and a rule for parentheses that uses itself, with a label.
-/
theorem strays_given_back :
    let stray : Parser Unit Int := ofReply fun _ pos =>
      .failure ⟨⟨pos - 3, some "stray"⟩, [⟨pos + 5, none⟩, ⟨7, some "digit"⟩]⟩
    let minus : Unary Unit Int := (literal "-").map fun _ x => .ok (-x)
    let ones := [(literal "1").map fun _ => 1, stray]
    let table : List (List (Operator (Unary Unit Int) (Binary Unit Int))) :=
      [[.nowhere minus], [.before minus]]
    let refusal : Failure :=
      ⟨⟨0, some "stray"⟩, [⟨-2, some "stray"⟩, ⟨6, none⟩, ⟨7, some "digit"⟩]⟩
    let group (self : Unit → Parser Unit String) (_ : Unit) : Parser Unit String :=
      rule (.only "group") fun _ =>
        (between (literal "(") (literal ")") (self ())).label "group"
    let opened : Failure := ⟨⟨0, some "group"⟩, [⟨1, some "group"⟩]⟩
    (sequence ones (.ofString "1") 0 1 .fresh = .done (.failure refusal) .fresh ∧ refusal.pos = 0 ∧
      ∃ cause, Origin.inTurn ones (.ofString "1") 0 1 .fresh cause .fresh ∧
        refusal.deepest = cause.deepest) ∧
    (expression table stray (.ofString "-") 0 1 .fresh = .done (.failure refusal) .fresh ∧
      refusal.pos = 0 ∧ ∃ cause,
        Origin.ofTable table stray (.ofString "-") 0 1 .fresh cause .fresh ∧
        refusal.deepest = cause.deepest) ∧
    ∃ later, fix group () (.ofString "(") 0 2 .fresh = .done (.failure opened) later ∧
      opened.pos = 0 := by
  intro stray minus ones table refusal group opened
  obtain ⟨composites, nested⟩ := composites_give_back
  have first : sequence ones (.ofString "1") 0 1 .fresh = .done (.failure refusal) .fresh := by rfl
  have second :
      expression table stray (.ofString "-") 0 1 .fresh = .done (.failure refusal) .fresh := by
    rfl
  have third : fix group () (.ofString "(") 0 2 .fresh =
      .done (.failure opened) (Session.built .fresh (.only "group") ()) := by
    rfl
  have signed : ∃ operators ∈ table, ∃ operator ∈ operators, operator.kind ≠ .nowhere :=
    ⟨[.before minus], List.mem_cons_of_mem _ List.mem_cons_self, .before minus, List.mem_cons_self,
      nofun⟩
  have recursive : Nested (fix group ()) := by
    refine .fix fun depth => ?_
    cases depth with
    | zero => exact .exhausted
    | succ depth =>
      refine .rule (.only "group") fun _ _ => ?_
      exact .label "group" (.composite (.between _ _ _))
  exact ⟨⟨first, composites (.sequence ones) _ _ _ _ _ _ first⟩,
    ⟨second, composites (.expression table stray signed) _ _ _ _ _ _ second⟩,
    _, third, nested recursive _ _ _ _ _ _ third⟩

end Parser

end Descent
