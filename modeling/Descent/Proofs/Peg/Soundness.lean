import Descent.Proofs.Grammar.Library
import Descent.Proofs.Parser.Primitive
import Descent.Proofs.Parser.Telling
import Descent.Proofs.Peg.Derivation

set_option autoImplicit false

namespace Descent

open Descent.Action (Ensures)

namespace Parser

variable {σ α β : Type}

/-- Every reply within the text tells a result that stands in the relation. -/
def Follows (p : Parser σ α) (text : Text) (tells : Nat → Option Nat → Prop) : Prop :=
  ∀ i, i ≤ text.length →
    Ensures (p text i) fun reply => ∃ result, reply.Means result ∧ tells i result

namespace Follows

variable {p : Parser σ α} {text : Text} {tells : Nat → Option Nat → Prop}

/-- What goes on from a match or from a failure may use what the parser told of it. -/
theorem bind {next : Reply α → Action σ β} {good : β → Prop} {i : Nat}
    (follows : p.Follows text tells) (within : i ≤ text.length)
    (on_match : ∀ value (j : Nat), tells i (some j) → Ensures (next (.success value j)) good)
    (on_refusal : ∀ refusal, tells i none → Ensures (next (.failure refusal)) good) :
    Ensures (p text i >>= next) good := by
  refine (follows i within).bind ?_
  intro reply told
  obtain ⟨result, means, holds⟩ := told
  cases reply with
  | success value stop =>
    obtain ⟨j, rfl, rfl⟩ := means.success
    exact on_match value j holds
  | failure refusal =>
    rw [means.failure] at holds
    exact on_refusal refusal holds

theorem map (f : α → β) (follows : p.Follows text tells) : (p.map f).Follows text tells := by
  intro i within
  refine (follows i within).bind ?_
  intro reply told
  obtain ⟨result, means, holds⟩ := told
  exact Ensures.pure ⟨result, (Reply.means_map f reply result).mpr means, holds⟩

theorem anchored (follows : p.Follows text tells) : p.anchored.Follows text tells := by
  intro i within
  refine (follows i within).bind ?_
  intro reply told
  obtain ⟨result, means, holds⟩ := told
  exact Ensures.pure ⟨result, (Reply.means_anchor i reply result).mpr means, holds⟩

end Follows

end Parser

namespace Grammar.Peg

open Descent.Parser (Follows)

variable {σ : Type} {rules : Rules} {text : Text} {self : String → Parser σ Value} {p : Grammar}

theorem literal_follows (s : String) :
    (Parser.literal s : Parser σ String).Follows text (Derives rules text (.literal s)) := by
  intro i within
  by_cases stands : s.toList <+: text.remaining i
  · rw [Parser.literal_of_prefix within stands]
    exact Ensures.pure ⟨some (i + s.length), rfl, .literal_match stands⟩
  · rw [Parser.literal_of_not_prefix within stands]
    exact Ensures.pure ⟨none, trivial, .literal_refuse stands⟩

theorem satisfy_follows (expected : Option String) (accepts : Char → Bool) :
    (Parser.satisfy expected accepts : Parser σ Char).Follows text
      (Derives rules text (.satisfy expected accepts)) := by
  intro i within
  cases next : text.toList[i]? with
  | none =>
    rw [Parser.satisfy_of_none next]
    refine Ensures.pure ⟨none, trivial, .satisfy_refuse ?_⟩
    intro c same
    cases next.symm.trans same
  | some c =>
    rw [Parser.satisfy_of_some next]
    cases accepted : accepts c with
    | true => exact Ensures.pure ⟨some (i + 1), rfl, .satisfy_match next accepted⟩
    | false =>
      refine Ensures.pure ⟨none, trivial, .satisfy_refuse ?_⟩
      intro d same
      cases next.symm.trans same
      exact accepted

theorem pattern_follows (expected : String) (p : Pattern) :
    (Parser.pattern expected p : Parser σ String).Follows text
      (Derives rules text (.pattern expected p)) := by
  intro i within
  cases found : p.matchEnd? text i with
  | some j =>
    rw [Parser.pattern_of_some within found]
    exact Ensures.pure ⟨some j, rfl, found ▸ .pattern⟩
  | none =>
    rw [Parser.pattern_of_none within found]
    exact Ensures.pure ⟨none, trivial, found ▸ .pattern⟩

theorem eof_follows :
    (Parser.eof : Parser σ Unit).Follows text (Derives rules text .eof) := by
  intro i within
  by_cases left : i < text.length
  · rw [Parser.eof_of_lt left]
    exact Ensures.pure ⟨none, trivial, .eof_refuse left⟩
  · have ended : i = text.length := by omega
    rw [ended, Parser.eof_of_length]
    exact Ensures.pure ⟨some text.length, rfl, .eof_match⟩

theorem lookAhead_follows (follows : (p.parser self).Follows text (Derives rules text p)) :
    (p.parser self).lookAhead.Follows text (Derives rules text (.lookAhead p)) := by
  intro i within
  refine follows.bind within ?_ ?_
  · intro value j derives
    exact Ensures.pure ⟨some i, rfl, .lookAhead_match derives⟩
  · intro refusal derives
    exact Ensures.pure ⟨none, trivial, .lookAhead_refuse derives⟩

theorem notFollowedBy_follows (follows : (p.parser self).Follows text (Derives rules text p)) :
    (p.parser self).notFollowedBy.Follows text (Derives rules text (.notFollowedBy p)) := by
  intro i within
  refine follows.bind within ?_ ?_
  · intro value j derives
    exact Ensures.pure ⟨none, trivial, .notFollowedBy_refuse derives⟩
  · intro refusal derives
    exact Ensures.pure ⟨some i, rfl, .notFollowedBy_match derives⟩

theorem inTurn_follows {ps : List Grammar}
    (each : ∀ p ∈ ps, (p.parser self).Follows text (Derives rules text p)) :
    (Parser.inTurn (parsers self ps)).Follows text (Derives rules text (.sequence ps)) := by
  induction ps with
  | nil => exact fun i _ => Ensures.pure ⟨some i, rfl, .sequence_nil⟩
  | cons p ps ih =>
    have later := ih fun q member => each q (List.mem_cons_of_mem _ member)
    intro i within
    refine (each p List.mem_cons_self).bind within ?_ ?_
    · intro value j derives
      refine (later j (derives.bounds within j rfl).2).bind ?_
      intro reply told
      obtain ⟨result, means, rest⟩ := told
      exact Ensures.pure
        ⟨result, (Reply.means_map _ reply result).mpr means, .sequence_cons derives rest⟩
    · intro refusal derives
      exact Ensures.pure ⟨none, trivial, .sequence_refuse derives⟩

theorem firstOf_follows {ps : List Grammar}
    (first : (p.parser self).Follows text (Derives rules text p))
    (each : ∀ q ∈ ps, (q.parser self).Follows text (Derives rules text q)) :
    (Parser.firstOf (p.parser self) (parsers self ps)).Follows text
      (Derives rules text (.choice (p :: ps))) := by
  induction ps generalizing p with
  | nil =>
    intro i within
    refine (first i within).mono ?_
    intro reply told
    obtain ⟨result, means, derives⟩ := told
    refine ⟨result, means, ?_⟩
    cases result with
    | some j => exact .choice_take derives
    | none => exact .choice_next derives .choice_nil
  | cons q qs ih =>
    have later := ih (each q List.mem_cons_self)
      fun r member => each r (List.mem_cons_of_mem _ member)
    intro i within
    refine first.bind within ?_ ?_
    · intro value j derives
      exact Ensures.pure ⟨some j, rfl, .choice_take derives⟩
    · intro refusal derives
      refine (later i within).mono ?_
      intro reply told
      obtain ⟨result, means, rest⟩ := told
      exact ⟨result, means, .choice_next derives rest⟩

theorem choice_follows {ps : List Grammar}
    (each : ∀ p ∈ ps, (p.parser self).Follows text (Derives rules text p)) :
    (Parser.choice (parsers self ps)).Follows text (Derives rules text (.choice ps)) := by
  cases ps with
  | nil => exact fun i _ => Ensures.pure ⟨none, trivial, .choice_nil⟩
  | cons p ps =>
    exact (firstOf_follows (each p List.mem_cons_self)
      fun q member => each q (List.mem_cons_of_mem _ member)).anchored

theorem repeatUpTo_follows (follows : (p.parser self).Follows text (Derives rules text p))
    (rounds : Nat) :
    ((p.parser self).repeatUpTo rounds).Follows text (Derives rules text (.many p)) := by
  induction rounds with
  | zero => exact fun _ _ => Ensures.exhausted _
  | succ rounds ih =>
    intro i within
    refine follows.bind within ?_ ?_
    · intro value j derives
      by_cases stays : j = i
      · simp only [stays, ↓reduceIte]
        exact Ensures.pure ⟨some i, rfl, .many_still (stays ▸ derives)⟩
      · simp only [Int.ofNat_inj, stays, ↓reduceIte]
        refine (ih j (derives.bounds within j rfl).2).bind ?_
        intro reply told
        obtain ⟨result, means, rest⟩ := told
        exact Ensures.pure
          ⟨result, (Reply.means_map _ reply result).mpr means, .many_next derives stays rest⟩
    · intro refusal derives
      exact Ensures.pure ⟨some i, rfl, .many_end derives⟩

theorem many_follows (follows : (p.parser self).Follows text (Derives rules text p)) :
    (p.parser self).many.Follows text (Derives rules text (.many p)) :=
  fun i within => Parser.many_ensures fun rounds => repeatUpTo_follows follows rounds i within

theorem many1_follows (follows : (p.parser self).Follows text (Derives rules text p)) :
    (p.parser self).many1.Follows text (Derives rules text (.many1 p)) := by
  intro i within
  refine follows.bind within ?_ ?_
  · intro value j derives
    by_cases stays : j = i
    · simp only [stays, ↓reduceIte]
      exact Ensures.pure ⟨some i, rfl, .many1_still (stays ▸ derives)⟩
    · simp only [Int.ofNat_inj, stays, ↓reduceIte]
      refine (many_follows follows j (derives.bounds within j rfl).2).bind ?_
      intro reply told
      obtain ⟨result, means, rest⟩ := told
      exact Ensures.pure
        ⟨result, (Reply.means_map _ reply result).mpr means, .many1_next derives stays rest⟩
  · intro refusal derives
    exact Ensures.pure ⟨none, trivial, .many1_refuse derives⟩

/-- The parser of an expression follows the relation if the rules do. -/
theorem follows (peg : p.Peg)
    (known : ∀ name, (self name).Follows text (Derives rules text (.rule name))) :
    (p.parser self).Follows text (Derives rules text p) := by
  induction peg with
  | literal s => exact (literal_follows s).map _
  | satisfy expected accepts => exact (satisfy_follows expected accepts).map _
  | pattern expected p => exact (pattern_follows expected p).map _
  | pure value => exact fun i _ => Ensures.pure ⟨some i, rfl, .pure⟩
  | failWith expected => exact fun i _ => Ensures.pure ⟨none, trivial, .failWith⟩
  | eof => exact eof_follows.map _
  | rule name => exact known name
  | lookAhead _ ih => exact lookAhead_follows ih
  | notFollowedBy _ ih => exact (notFollowedBy_follows ih).map _
  | sequence _ ih => exact (inTurn_follows ih).anchored.map _
  | choice _ ih => exact choice_follows ih
  | many _ ih => exact (many_follows ih).map _
  | many1 _ ih => exact (many1_follows ih).map _

theorem rule_follows (pegs : rules.Peg) (name : String) :
    (rules.parser name).Follows text (Derives rules text (.rule name)) := by
  have unrolled : ∀ depth, (Parser.unroll rules.body depth name).Follows text
      (Derives rules text (.rule name)) := by
    intro depth
    refine Parser.unroll_induction (fun name q => q.Follows text (Derives rules text (.rule name)))
      (fun _ _ _ => Ensures.exhausted _) ?_ depth name
    intro self known name i within
    refine Parser.rule_ensures ?_
    intro rule built
    obtain rfl := Rules.name_of_build built
    refine ((pegs rule.name rule.grammar rule.built).follows known i within).mono ?_
    intro reply told
    obtain ⟨result, means, derives⟩ := told
    exact ⟨result, means, .rule rule.built derives⟩
  exact fun i within => Parser.fix_ensures fun depth => unrolled depth i within

/-- Whatever the budget is, the relation derives what the parser of an expression replies. -/
theorem derives_of_reply (pegs : rules.Peg) (peg : p.Peg) {i : Nat} (within : i ≤ text.length) :
    Ensures (p.meaning rules text i)
      fun reply => ∃ result, reply.Means result ∧ Derives rules text p i result :=
  peg.follows (rule_follows pegs) i within

end Grammar.Peg

end Descent
