import Descent.Proofs.Grammar.Library
import Descent.Proofs.Placement.Parser

set_option autoImplicit false

namespace Descent

open Descent.Parser (Located)

namespace Grammar

variable {σ : Type} {self : String → Parser σ Value}

/-- One case for each constructor: each keeps replies where they should stand. -/
theorem Library.located {p : Grammar} (library : p.Library)
    (rules : ∀ name, Located (self name)) : Located (p.parser self) := by
  induction library with
  | literal s => exact (Parser.literal_located s).map _
  | satisfy expected accepts => exact (Parser.satisfy_located expected accepts).map _
  | pattern expected p => exact (Parser.pattern_located expected p).map _
  | pure value => exact Parser.pure_located value
  | failWith expected => exact Parser.failWith_located expected
  | raise fault => exact Parser.raise_located fault
  | eof => exact Parser.eof_located.map _
  | rule name => exact rules name
  | lookAhead _ inner => exact inner.lookAhead
  | notFollowedBy _ inner => exact inner.notFollowedBy.map _
  | sequence _ parts => exact (Located.sequence (forall_mem_parsers parts)).map _
  | times n _ inner => exact (inner.count n).map _
  | choice _ parts => exact Located.choice (forall_mem_parsers parts)
  | many _ inner => exact inner.many.map _
  | many1 _ inner => exact inner.many1.map _
  | sepBy1 _ _ inner outer => exact (inner.sepBy1 outer).map _
  | bind _ _ first rest => exact first.bind rest
  | map f _ inner => exact inner.tryMap f
  | label message _ inner => exact inner.label message
  | logged tag _ inner => exact inner.logged tag
  | trace name => exact (Parser.trace_located name).map _
  | traced name _ inner => exact inner.traced name
  | chainl1 _ _ operand between => exact operand.chainl1 (between.map _)
  | chainr1 _ _ operand between => exact operand.chainr1 (between.map _)
  | level _ _ _ _ _ _ before after left right single operand =>
    exact Located.level (forall_mem_unaries fun p member => (before p member).map _)
      (forall_mem_unaries fun p member => (after p member).map _)
      (forall_mem_binaries fun p member => (left p member).map _)
      (forall_mem_binaries fun p member => (right p member).map _)
      (forall_mem_binaries fun p member => (single p member).map _) operand

end Grammar

theorem Rules.Library.parser_located {rules : Rules} (library : rules.Library) (name : String) :
    Located (rules.parser name) := by
  refine Located.fix ?_ name
  intro self located name
  exact Located.rule _ fun rule _ => (library rule.name rule.grammar rule.built).located located

theorem Grammar.Library.meaning_located {rules : Rules} {p : Grammar} (library : p.Library)
    (library_rules : rules.Library) : Located (p.meaning rules) :=
  library.located library_rules.parser_located

/-- However a grammar of this library is nested, and whatever its rules refer to, a match started
within the text ends between its start and the end of the text; a failure is reported at the start,
and the places of its causes strictly increase and never lie past the end of the text. -/
theorem Grammar.reply_placed {rules : Rules} {p : Grammar} (library_rules : rules.Library)
    (library : p.Library) (text : Text) (start : Int) (low : 0 ≤ start)
    (high : start ≤ text.length) (budget : Nat) (session reached : Session (Resolved rules))
    (reply : Reply Value) (ran : p.meaning rules text start budget session = .done reply reached) :
    match reply with
    | .success _ stop => start ≤ stop ∧ stop ≤ text.length
    | .failure refusal =>
      refusal.pos = start ∧ refusal.positions.Pairwise (· < ·) ∧
        ∀ pos ∈ refusal.positions, pos ≤ text.length := by
  have placed := library.meaning_located library_rules text start low high budget session reply
    reached ran
  cases reply with
  | success value stop => exact placed
  | failure refusal => exact ⟨placed.1, placed.2.increasing, placed.2.inside⟩

/-- The word `aac` is refused at its start, because of the letters after it. -/
theorem Grammar.word_refused_onward :
    let refusal : Failure := ⟨⟨0, some "a"⟩, [⟨1, some "a"⟩, ⟨2, some "a"⟩]⟩
    refusal.pos = 0 ∧ refusal.positions.Pairwise (· < ·) ∧
      ∀ pos ∈ refusal.positions, pos ≤ (Text.ofList ['a', 'a', 'c']).length :=
  reply_placed Rules.words_library word_library (Text.ofList ['a', 'a', 'c']) 0 (by decide)
    (by decide) 10 .fresh ⟨[Rules.wordRule], #[.forced "word"]⟩
    (.failure ⟨⟨0, some "a"⟩, [⟨1, some "a"⟩, ⟨2, some "a"⟩]⟩) (by rfl)

end Descent
