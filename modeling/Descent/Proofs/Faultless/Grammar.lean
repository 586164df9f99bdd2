import Descent.Proofs.Faultless.Tame
import Descent.Proofs.Grammar.Budget
import Descent.Proofs.Grammar.Library
import Descent.Proofs.Parts.Grammar

set_option autoImplicit false

namespace Descent

open Descent.Parser (Faultless)

namespace Rules

/-- What these parsers come to, the parsers of the rules come to with more budget. -/
def Approximates (rules : Rules) (self : String → Parser (Resolved rules) Value) : Prop :=
  ∀ little, ∃ more, little ≤ more ∧
    ∀ name, Parser.Extends little more (self name) (rules.parser name)

theorem unroll_approximates (rules : Rules) (depth : Nat) :
    rules.Approximates (Parser.unroll rules.body depth) := by
  intro little
  have enough : little ≤ max little depth := Nat.le_max_left _ _
  refine ⟨max little depth, enough, ?_⟩
  intro name text pos
  exact Parser.unroll_extends rules.body_regular enough depth _ (Nat.le_max_right _ _) name text pos

theorem parser_approximates (rules : Rules) : rules.Approximates rules.parser :=
  fun little => ⟨little, Nat.le_refl _, fun name => rules.parser_stable name _ _ (Nat.le_refl _)⟩

end Rules

namespace Grammar

variable {rules : Rules} {text : Text} {self : String → Parser (Resolved rules) Value} {p : Grammar}

theorem Gives.of_parser (approximates : rules.Approximates self) {value : Value}
    (gives : (p.parser self).Gives text value) : p.Gives rules text value := by
  obtain ⟨pos, budget, session, stop, reached, inside, ran⟩ := gives
  obtain ⟨more, enough, extended⟩ := approximates budget
  refine ⟨pos, more, session, stop, reached, inside, ?_⟩
  have same := parser_extends enough extended p text pos session (by rw [ran]; trivial)
  rwa [ran] at same

/-- The values of a faultless parser of the grammar are those that the grammar gives. -/
theorem given (approximates : rules.Approximates self) {kind : Value → Prop}
    (faultless : (p.parser self).Faultless text kind) :
    (p.parser self).Faultless text (p.Gives rules text) :=
  faultless.gives.mono fun _ => Gives.of_parser approximates

/-- One case for each constructor. -/
theorem Tame.faultless (tame : p.Tame rules text) (approximates : rules.Approximates self)
    (below : ∀ name q, rules name = .ok q → (self name).Faultless text fun _ => True) :
    (p.parser self).Faultless text fun _ => True := by
  -- what is handed on to a function of the author is what the grammar gives, not any value at all
  have given {q : Grammar} (plain : (q.parser self).Faultless text fun _ => True) :=
    given approximates plain
  induction tame with
  | literal s => exact (Faultless.literal s).map fun _ _ => trivial
  | satisfy expected accepts => exact (Faultless.satisfy expected accepts).map fun _ _ => trivial
  | pattern expected p => exact (Faultless.pattern expected p).map fun _ _ => trivial
  | pure value => exact Faultless.pure trivial
  | failWith expected => exact Faultless.failWith expected
  | eof => exact Faultless.eof.map fun _ _ => trivial
  | rule built => exact below _ _ built
  | lookAhead _ inner => exact inner.lookAhead
  | notFollowedBy _ inner => exact inner.notFollowedBy.map fun _ _ => trivial
  | sequence _ parts => exact (Faultless.sequence (forall_mem_parsers parts)).map fun _ _ => trivial
  | times n _ inner => exact (inner.count n).map fun _ _ => trivial
  | choice _ parts => exact Faultless.choice (forall_mem_parsers parts)
  | many _ inner => exact inner.many.map fun _ _ => trivial
  | many1 _ inner => exact inner.many1.map fun _ _ => trivial
  | sepBy1 _ _ inner outer => exact (inner.sepBy1 outer).map fun _ _ => trivial
  | bind _ _ first rest => exact (given first).bind rest
  | map total _ inner => exact (given inner).tryMap total
  | label message _ inner => exact inner.label message
  | logged tag _ inner => exact inner.logged tag
  | trace name => exact (Faultless.trace name).map fun _ _ => trivial
  | traced name _ inner => exact inner.traced name
  | @chainl1 calls _ _ kind operands operators _ _ operand between =>
    have links := (given between).map (f := calls.two) operators
    exact (((given operand).mono operands).chainl1 links).mono fun _ _ => trivial
  | @chainr1 calls _ _ kind operands operators _ _ operand between =>
    have links := (given between).map (f := calls.two) operators
    exact (((given operand).mono operands).chainr1 links).mono fun _ _ => trivial
  | level kind operands before_total after_total left_total right_total single_total _ _ _ _ _ _
      before after left right single inner =>
    exact ((given inner).mono operands).level {
      before := forall_mem_unaries fun p inside =>
        (given (before p inside)).map (before_total p inside)
      after := forall_mem_unaries fun p inside =>
        (given (after p inside)).map (after_total p inside)
      left := forall_mem_binaries fun p inside => (given (left p inside)).map (left_total p inside)
      right := forall_mem_binaries fun p inside =>
        (given (right p inside)).map (right_total p inside)
      single := forall_mem_binaries fun p inside =>
        (given (single p inside)).map (single_total p inside) }

end Grammar

theorem Rules.Tame.unrolled_faultless {rules : Rules} {text : Text} (tame : rules.Tame text)
    (depth : Nat) : ∀ name p, rules name = .ok p →
      (Parser.unroll rules.body depth name).Faultless text fun _ => True := by
  induction depth with
  | zero => exact fun _ _ _ _ _ session _ => .exhausted session
  | succ depth ih =>
    -- the rules that a definition uses are unrolled one step less
    intro name p built
    show (rules.body (Parser.unroll rules.body depth) name).Faultless text _
    exact .rule (build_of_ok built)
      ((tame name p built).faultless (rules.unroll_approximates depth) ih)

/-- With any budget a rule is what it is unrolled as deep. -/
theorem Grammar.Tame.meaning_faultless {rules : Rules} {text : Text} {p : Grammar}
    (tame_rules : rules.Tame text) (tame : p.Tame rules text) :
    (p.meaning rules).Faultless text fun _ => True := by
  apply tame.faultless rules.parser_approximates
  intro name q built pos budget session inside
  exact tame_rules.unrolled_faultless budget name q built pos budget session inside

/-- A grammar whose author's functions raise nothing on a text raises nothing itself. From no place
from the start of the text on, also past its end, its parser comes to a fault; if the parse
terminates, it is with a success or a failure. That holds of the parser that hands its parts on in
lists, so each of them is found where it is looked for; and of what stands between two others it
picks the second of three parts. -/
theorem Grammar.Tame.never_raises {rules : Rules} {p : Grammar} (text : Text)
    (tame_rules : rules.Tame text) (tame : p.Tame rules text) (pos : Int) (inside : 0 ≤ pos)
    (session : Session (Resolved rules))
    (terminates : ∃ outcome, Action.Settles (p.loosely rules text pos) session outcome) :
    (∃ reply reached, Action.Settles (p.loosely rules text pos) session (.done reply reached)) ∧
      (∀ budget fault reached,
        p.loosely rules text pos budget session ≠ .stopped (.fault fault) reached) ∧
      p.loosely rules = p.meaning rules ∧
      ∀ opening closing, (Grammar.between opening closing p).loosely rules =
        Parts.between (opening.loosely rules) (closing.loosely rules) (p.loosely rules) := by
  have faultless := tame.meaning_faultless tame_rules
  rw [← p.loosely_eq rules] at faultless
  refine ⟨?_, fun budget fault reached => faultless.no_fault inside budget session reached fault,
    p.loosely_eq rules, fun opening closing => loosely_between rules opening closing p⟩
  obtain ⟨outcome, settles⟩ := terminates
  obtain ⟨budget, ran⟩ := settles.ran
  cases outcome with
  | done reply reached => exact ⟨reply, reached, settles⟩
  | stopped reason reached =>
    cases reason with
    | fault fault => exact (faultless.no_fault inside budget session reached fault ran).elim
    | exhausted => exact settles.1.elim

namespace Grammar

def sums : Grammar :=
  chainl1 .ofFunctions integer ((symbol "+").as (.function .add))

theorem sums_tame (rules : Rules) {text : Text} (short : text.ShortRuns) :
    sums.Tame rules text := by
  have plus : ((symbol "+").meaning rules).Faultless text fun _ => True :=
    lexeme_faultless ((Faultless.literal "+").map fun _ _ => trivial)
  refine .chainl1 Value.IsInt (fun _ gives => integer_gives short gives) ?_ (integer_tame short)
    (.map (fun _ _ => ⟨_, rfl, trivial⟩) (symbol_tame "+"))
  intro f gives
  obtain rfl : .function .add = f :=
    gives.of_faultless (plus.tryMap fun _ _ => ⟨.function .add, rfl, rfl⟩)
  rintro _ ⟨m, rfl⟩ _ ⟨n, rfl⟩
  exact ⟨.int (m + n), rfl, m + n, rfl⟩

end Grammar

/-- The sum at the start of `1+2+` is found, and the sign that is left over is no fault. -/
theorem Grammar.sums_never_raise :
    let text := Text.ofList ['1', '+', '2', '+']
    (∃ reply reached,
      Action.Settles (sums.loosely Rules.none text 0) .fresh (.done reply reached)) ∧
      (∀ budget fault reached,
        sums.loosely Rules.none text 0 budget .fresh ≠ .stopped (.fault fault) reached) ∧
      sums.loosely Rules.none = sums.meaning Rules.none ∧
      ∀ opening closing, (between opening closing sums).loosely Rules.none =
        Parts.between (opening.loosely Rules.none) (closing.loosely Rules.none)
          (sums.loosely Rules.none) := by
  have tame_rules : Rules.none.Tame (Text.ofList ['1', '+', '2', '+']) := nofun
  have short : (Text.ofList ['1', '+', '2', '+']).ShortRuns := by
    intro run inside _
    exact Nat.le_trans inside.length_le (by decide)
  have ran : sums.meaning Rules.none (Text.ofList ['1', '+', '2', '+']) 0 4 .fresh =
      .done (.success (.int 3) 3) .fresh := by rfl
  refine Tame.never_raises _ tame_rules (sums_tame Rules.none short) 0 (Int.le_refl 0) .fresh ?_
  rw [loosely_eq]
  exact ⟨_, settles_of_ran ran trivial⟩

end Descent
