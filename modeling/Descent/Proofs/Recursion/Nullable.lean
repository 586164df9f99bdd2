import Descent.Proofs.Recursion.Advance

set_option autoImplicit false

namespace Descent

variable {σ : Type}

open Descent.Action (Ensures)
open Descent.Parser (Advances Located)

namespace Grammar

variable {rules : Rules} {self : String → Parser σ Value}

theorem inTurn_idle {ps : List Grammar}
    (each : ∀ p ∈ ps, Advances (p.parser self) (p.Nullable rules)) (text : Text) (start : Int)
    (low : 0 ≤ start) (high : start ≤ text.length) :
    Ensures (Parser.inTurn (parsers self ps) text start) fun reply =>
      reply.Stays start → ∀ p ∈ ps, p.Nullable rules := by
  induction ps generalizing start with
  | nil => exact Ensures.pure fun _ _ member => absurd member List.not_mem_nil
  | cons p ps ih =>
    have others := fun q member => each q (List.mem_cons_of_mem p member)
    have located := forall_mem_parsers fun q member => (others q member).located
    refine ((each p List.mem_cons_self).ensures low high).bind ?_
    intro reply told
    cases reply with
    | failure refusal => exact Ensures.pure False.elim
    | success value stop =>
      have placed : start ≤ stop ∧ stop ≤ text.length := told.1
      have low_stop : 0 ≤ stop := by omega
      refine ((Located.inTurn located text stop low_stop placed.2).and
        (ih others stop low_stop placed.2)).bind ?_
      intro last later
      apply Ensures.pure
      intro stays
      cases last with
      | failure refusal => exact stays.elim
      | success values ending =>
        have after : stop ≤ ending := later.1.1
        have ends : ending = start := stays
        have still : stop = start := by omega
        have rest_still : ending = stop := by omega
        exact List.forall_mem_cons.mpr ⟨told.2 still, later.2 rest_still⟩

theorem sequence_advances {ps : List Grammar}
    (each : ∀ p ∈ ps, Advances (p.parser self) (p.Nullable rules)) :
    Advances (Parser.sequence (parsers self ps)) (∀ p ∈ ps, p.Nullable rules) := by
  refine ⟨.sequence (forall_mem_parsers fun p member => (each p member).located), ?_⟩
  intro text start low high
  refine (inTurn_idle each text start low high).bind ?_
  intro reply idle
  exact Ensures.pure fun stays => idle ((reply.stays_anchor start start).mp stays)

theorem count_eq_sequence (n : Nat) (p : Grammar) :
    Parser.count n (p.parser self) = Parser.sequence (parsers self (List.replicate n p)) := by
  rw [Parser.count_eq_sequence, parsers_eq_map, List.map_replicate]

/-- A grammar that matches without consuming is nullable, if this holds of the rules. -/
theorem Library.advances {p : Grammar} (library : p.Library)
    (known : ∀ name, Advances (self name) ((Grammar.rule name).Nullable rules)) :
    Advances (p.parser self) (p.Nullable rules) := by
  induction library with
  | literal s =>
    apply ((Advances.literal s).map _).mono
    intro none
    rw [none]
    exact .literal
  | satisfy expected accepts => exact ((Advances.satisfy expected accepts).map _).mono False.elim
  | pattern expected p =>
    apply ((Advances.pattern expected p).map _).mono
    intro stays
    obtain ⟨text, i, within, empty⟩ := stays
    exact .pattern expected within empty
  | pure value => exact .of_located (Parser.pure_located value) (.pure value)
  | failWith expected => exact (Advances.failWith expected).mono False.elim
  | raise fault => exact (Advances.raise fault).mono False.elim
  | eof => exact .of_located (Parser.eof_located.map _) .eof
  | rule name => exact known name
  | lookAhead _ ih => exact .of_located ih.located.lookAhead (.lookAhead _)
  | notFollowedBy _ ih => exact .of_located (ih.located.notFollowedBy.map _) (.notFollowedBy _)
  | sequence _ ih => exact ((sequence_advances ih).map _).mono .sequence
  | @times n p _ ih =>
    have each : ∀ q ∈ List.replicate n p, Advances (q.parser self) (q.Nullable rules) := by
      intro q member
      rw [List.eq_of_mem_replicate member]
      exact ih
    rw [parser, count_eq_sequence]
    apply ((sequence_advances each).map _).mono
    intro all
    cases n with
    | zero => exact .times_zero p
    | succ n => exact .times (n + 1) (all p List.mem_cons_self)
  | choice _ ih =>
    exact Advances.choice (forall_mem_parsers fun p member => (ih p member).mono (.choice member))
  | many _ ih => exact .of_located (ih.located.many.map _) (.many _)
  | many1 _ ih => exact (ih.many1.map _).mono .many1
  | sepBy1 _ _ inner outer => exact ((inner.sepBy1 outer.located).map _).mono (.sepBy1 _)
  | bind _ _ first rest =>
    apply (first.bind rest).mono
    intro stays
    obtain ⟨nullable, value, nullable_rest⟩ := stays
    exact .bind value nullable nullable_rest
  | map f _ ih => exact (ih.tryMap f).mono (.map f)
  | label message _ ih => exact (ih.label message).mono (.label message)
  | logged tag _ ih => exact (ih.logged tag).mono (.logged tag)
  | trace name => exact .of_located ((Parser.trace_located name).map _) (.trace name)
  | traced name _ ih => exact (ih.traced name).mono (.traced name)
  | chainl1 _ _ operand between =>
    exact (operand.chainl1 (between.located.map _)).mono (.chainl1 _)
  | chainr1 _ _ operand between =>
    exact (operand.chainr1 (between.located.map _)).mono (.chainr1 _)
  | level _ _ _ _ _ _ before after left right single operand =>
    exact (Advances.level (forall_mem_unaries fun p member => (before p member).located.map _)
      (forall_mem_unaries fun p member => (after p member).located.map _)
      (forall_mem_binaries fun p member => (left p member).located.map _)
      (forall_mem_binaries fun p member => (right p member).located.map _)
      (forall_mem_binaries fun p member => (single p member).located.map _)
      operand).mono (.level _ _ _ _ _)

end Grammar

theorem Rules.Library.parser_advances {rules : Rules} (library : rules.Library) (name : String) :
    Advances (rules.parser name) ((Grammar.rule name).Nullable rules) := by
  refine Advances.fix (fun name => (Grammar.rule name).Nullable rules) ?_ name
  intro self known name
  apply Advances.rule
  intro rule built
  obtain rfl := Rules.name_of_build built
  exact ((library rule.name rule.grammar rule.built).advances known).mono (.rule rule.built)

end Descent
