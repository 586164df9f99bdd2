import Descent.Proofs.Grammar.Budget
import Descent.Proofs.Peg.Soundness

set_option autoImplicit false

namespace Descent

open Descent.Action (Settles Yields)

namespace Derives

open Descent.Parser (Tells)

variable {rules : Rules} {text : Text} {p : Grammar} {i : Nat} {result : Option Nat}

theorem satisfy_tells_refusal {expected : Option String} {accepts : Char → Bool}
    (refused : ∀ c, text.toList[i]? = some c → accepts c = false) :
    (Parser.satisfy expected accepts : Parser (Resolved rules) Char).Tells text i none := by
  cases next : text.toList[i]? with
  | none => exact .of_refusal (Parser.satisfy_of_none next)
  | some c =>
    apply Tells.of_refusal
    rw [Parser.satisfy_of_some next, refused c next]
    rfl

theorem pattern_tells {expected : String} {p : Pattern} (within : i ≤ text.length) :
    (Parser.pattern expected p : Parser (Resolved rules) String).Tells text i
      (p.matchEnd? text i) := by
  cases found : p.matchEnd? text i with
  | none => exact .of_refusal (Parser.pattern_of_none within found)
  | some j => exact .of_match (Parser.pattern_of_some within found)

/-- Whatever is derived is told by the parser; the induction is on the derivation. -/
theorem tells (derives : Derives rules text p i result) (within : i ≤ text.length) :
    (p.meaning rules).Tells text i result := by
  induction derives with
  | literal_match stands => exact (Tells.of_match (Parser.literal_of_prefix within stands)).map _
  | literal_refuse absent =>
    exact (Tells.of_refusal (Parser.literal_of_not_prefix within absent)).map _
  | satisfy_match next accepted =>
    apply Tells.map
    apply Tells.of_match
    rw [Parser.satisfy_of_some next, if_pos accepted]
  | satisfy_refuse refused => exact (satisfy_tells_refusal refused).map _
  | pattern => exact (pattern_tells within).map _
  | pure => exact Yields.pure rfl
  | failWith => exact Yields.pure trivial
  | eof_match => exact (Tells.of_match Parser.eof_of_length).map _
  | eof_refuse left => exact (Tells.of_refusal (Parser.eof_of_lt left)).map _
  | rule defined body ih =>
    intro session
    obtain ⟨reply, reached, settles, means⟩ := ih within (session.built _ _)
    exact ⟨reply, reached, Grammar.settles_rule defined settles, means⟩
  | lookAhead_match inner ih => exact (ih within).bind_match fun _ => Yields.pure rfl
  | lookAhead_refuse inner ih => exact (ih within).bind_refusal fun _ => Yields.pure trivial
  | notFollowedBy_match inner ih =>
    exact Tells.map _ ((ih within).bind_refusal fun _ => Yields.pure rfl)
  | notFollowedBy_refuse inner ih =>
    exact Tells.map _ ((ih within).bind_match fun _ => Yields.pure trivial)
  | sequence_nil => exact Yields.pure rfl
  | @sequence_cons p ps i j result first rest first_ih rest_ih =>
    have stable := Grammar.inTurn_stable rules ps
    have later := rest_ih (first.bounds within j rfl).2
    have parts := (later.of_map stable.anchored).of_anchored stable
    exact Tells.map _ (Tells.anchored ((first_ih within).bind_match fun _ => parts.map _))
  | sequence_refuse first ih =>
    exact Tells.map _ (Tells.anchored ((ih within).bind_refusal fun _ => Yields.pure trivial))
  | choice_nil => exact Yields.pure trivial
  | choice_take first ih => exact Tells.anchored (ih within).firstOf_take
  | @choice_next p ps i result first rest first_ih rest_ih =>
    cases ps with
    | nil =>
      cases rest
      exact Tells.anchored (first_ih within)
    | cons q qs =>
      have later := (rest_ih within).of_anchored (Grammar.firstOf_stable rules q qs)
      exact Tells.anchored ((first_ih within).firstOf_next later)
  | @many_end p i inner ih => exact ((ih within).many_end (p.meaning_stable rules)).map _
  | @many_still p i inner ih => exact ((ih within).many_still (p.meaning_stable rules)).map _
  | @many_next p i j result inner moved rest inner_ih rest_ih =>
    have later := (rest_ih (inner.bounds within j rfl).2).of_map (p.many_stable rules)
    exact ((inner_ih within).many_next (p.meaning_stable rules) moved later).map _
  | many1_refuse inner ih =>
    exact Tells.map _ ((ih within).bind_refusal fun _ => Yields.pure trivial)
  | many1_still inner ih => exact (ih within).many1_still.map _
  | @many1_next p i j result inner moved rest inner_ih rest_ih =>
    have later := (rest_ih (inner.bounds within j rfl).2).of_map (p.many_stable rules)
    exact ((inner_ih within).many1_next moved later).map _

end Derives

/-- The parser of a parsing expression and the relation agree, whatever the rules refer to: it
replies with a match up to an index if and only if the relation derives that much to be consumed,
and with a failure if and only if the relation derives one. -/
theorem Grammar.Peg.replies_iff {rules : Rules} (pegs : rules.Peg) {p : Grammar} (peg : p.Peg)
    (text : Text) (i : Nat) (within : i ≤ text.length) (session : Session (Resolved rules)) :
    (∀ stop : Int,
      (∃ value reached,
        Settles (p.meaning rules text i) session (.done (.success value stop) reached)) ↔
      ∃ j : Nat, stop = j ∧ Derives rules text p i (some j)) ∧
    ((∃ refusal reached,
        Settles (p.meaning rules text i) session (.done (.failure refusal) reached)) ↔
      Derives rules text p i none) := by
  have sound := derives_of_reply pegs peg within
  refine ⟨fun stop => ⟨?_, ?_⟩, ?_, ?_⟩
  · intro ⟨value, reached, settles⟩
    obtain ⟨result, means, derives⟩ := settles.ensured sound
    obtain ⟨j, same, rfl⟩ := means.success
    exact ⟨j, same, derives⟩
  · intro ⟨j, same, derives⟩
    obtain ⟨reply, reached, settles, means⟩ := derives.tells within session
    cases reply with
    | success value last =>
      have ends : last = j := means
      rw [ends, ← same] at settles
      exact ⟨value, reached, settles⟩
    | failure refusal => exact means.elim
  · intro ⟨refusal, reached, settles⟩
    obtain ⟨result, means, derives⟩ := settles.ensured sound
    rw [means.failure] at derives
    exact derives
  · intro derives
    obtain ⟨reply, reached, settles, means⟩ := derives.tells within session
    cases reply with
    | success value last => exact means.elim
    | failure refusal => exact ⟨refusal, reached, settles⟩

theorem Grammar.word_peg : word.Peg := by
  have step : (Grammar.sequence [.satisfy (some "a") (· == 'a'), .rule "word"]).Peg :=
    .sequence (List.forall_mem_cons.mpr ⟨.satisfy _ _, List.forall_mem_singleton.mpr (.rule _)⟩)
  exact .choice (List.forall_mem_cons.mpr ⟨.satisfy _ _, List.forall_mem_singleton.mpr step⟩)

theorem Rules.words_peg : words.Peg := by
  intro name p defined
  rw [(words_eq_ok defined).2]
  exact Grammar.word_peg

theorem Grammar.word_derived :
    Derives Rules.words (Text.ofList ['a', 'b']) word 0 (some 2) ∧
      Derives Rules.words (Text.ofList ['a', 'c']) word 0 none := by
  constructor
  · have ran : word.meaning Rules.words (Text.ofList ['a', 'b']) 0 10 .fresh =
        .done (.success (.list [.str "a", .str "b"]) 2)
          ⟨[Rules.wordRule], #[.forced "word"]⟩ := by rfl
    have agrees := Peg.replies_iff Rules.words_peg word_peg (Text.ofList ['a', 'b']) 0
      (Nat.zero_le _) .fresh
    obtain ⟨j, same, derives⟩ := (agrees.1 2).mp ⟨_, _, settles_of_ran ran trivial⟩
    rw [show j = 2 by omega] at derives
    exact derives
  · have ran : word.meaning Rules.words (Text.ofList ['a', 'c']) 0 10 .fresh =
        .done (.failure ⟨⟨0, some "a"⟩, [⟨1, some "a"⟩]⟩)
          ⟨[Rules.wordRule], #[.forced "word"]⟩ := by rfl
    have agrees := Peg.replies_iff Rules.words_peg word_peg (Text.ofList ['a', 'c']) 0
      (Nat.zero_le _) .fresh
    exact agrees.2.mp ⟨_, _, settles_of_ran ran trivial⟩

end Descent
