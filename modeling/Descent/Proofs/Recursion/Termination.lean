import Descent.Proofs.Grammar.Budget
import Descent.Proofs.Recursion.Ending
import Descent.Proofs.Recursion.Nullable
import Mathlib.Data.Fintype.Card
import Mathlib.Data.Set.Finite.Basic

set_option autoImplicit false

namespace Descent

variable {σ : Type}

open Descent.Action (Ensures Halts)
open Descent.Parser (Ends)

namespace Grammar

variable {rules : Rules} {self : String → Parser σ Value} {text : Text} {pos : Int}
  {settled : String → Prop}

def Ready (rules : Rules) (settled : String → Prop) (p : Grammar) : Prop :=
  ∀ name, p.Leads rules name → settled name

theorem inTurn_halts {ps : List Grammar} (low : 0 ≤ pos)
    (each : ∀ p ∈ ps, Ends text pos (p.Nullable rules) (p.Ready rules settled) (p.parser self))
    (later : Int) (after : pos ≤ later) (high : later ≤ text.length)
    (here : later = pos → (sequence ps).Ready rules settled) :
    Halts (Parser.inTurn (parsers self ps) text later) := by
  induction ps generalizing later with
  | nil => exact Halts.pure _
  | cons p ps ih =>
    refine (each p List.mem_cons_self).halts_bind low after high
      (fun same name leads => here same name (.sequence_first leads))
      (fun refusal => Halts.pure _) ?_
    intro value stop further inside idle
    have rest := ih (fun q member => each q (List.mem_cons_of_mem p member)) stop
      (Int.le_trans after further) inside ?_
    · exact rest.andThen fun _ => Halts.pure _
    · intro same name leads
      have still : stop = later := by omega
      exact here (by omega) name (.sequence_rest (idle still) leads)

theorem sequence_ends {ps : List Grammar} (low : 0 ≤ pos)
    (each : ∀ p ∈ ps, Ends text pos (p.Nullable rules) (p.Ready rules settled) (p.parser self)) :
    Ends text pos (∀ p ∈ ps, p.Nullable rules) ((sequence ps).Ready rules settled)
      (Parser.sequence (parsers self ps)) := by
  refine ⟨sequence_advances fun p member => (each p member).advances, ?_, ?_⟩
  · intro little more enough
    apply Parser.Extends.sequence
    rw [List.forall₂_same]
    exact forall_mem_parsers fun p member => (each p member).stable little more enough
  · intro later after high here
    exact (inTurn_halts low each later after high here).andThen fun _ => Halts.pure _

theorem Leads.of_replicate {n : Nat} {p : Grammar} {name : String}
    (leads : (sequence (List.replicate n p)).Leads rules name) :
    (Grammar.times n p).Leads rules name := by
  have inner : ∀ n, (Grammar.sequence (List.replicate n p)).Leads rules name →
      n ≠ 0 ∧ p.Leads rules name := by
    intro n leads
    induction n with
    | zero => cases leads
    | succ n ih =>
      refine ⟨Nat.succ_ne_zero n, ?_⟩
      cases leads with
      | sequence_first first => exact first
      | sequence_rest passed rest => exact (ih rest).2
  exact .times (inner n leads).1 (inner n leads).2

/-- A grammar settles on whatever it is given from a place on, and at the place itself if the rules
do that it leads to. -/
theorem Library.ends {p : Grammar} (library : p.Library) (low : 0 ≤ pos)
    (known : ∀ name, Ends text pos ((Grammar.rule name).Nullable rules) (settled name)
      (self name)) :
    Ends text pos (p.Nullable rules) (p.Ready rules settled) (p.parser self) := by
  have advances : ∀ {q : Grammar}, q.Library →
      Parser.Advances (q.parser self) (q.Nullable rules) :=
    fun library => library.advances fun name => (known name).advances
  induction library with
  | literal s =>
    exact .of_halts (advances (.literal s)) (fun _ _ _ => (Parser.literal_extends s).map _)
      fun later => (Parser.literal_halts s text later).andThen fun _ => Halts.pure _
  | satisfy expected accepts =>
    exact .of_halts (advances (.satisfy expected accepts))
      (fun _ _ _ => (Parser.satisfy_extends expected accepts).map _)
      fun later => (Parser.satisfy_halts expected accepts text later).andThen fun _ => Halts.pure _
  | pattern expected p =>
    exact .of_halts (advances (.pattern expected p))
      (fun _ _ _ => (Parser.pattern_extends expected p).map _)
      fun later => (Parser.pattern_halts expected p text later).andThen fun _ => Halts.pure _
  | pure value =>
    exact .of_halts (advances (.pure value)) (fun _ _ _ => Parser.pure_extends value)
      fun _ => Halts.pure _
  | failWith expected =>
    exact .of_halts (advances (.failWith expected))
      (fun _ _ _ => Parser.failWith_extends expected) fun _ => Halts.pure _
  | raise fault =>
    exact .of_halts (advances (.raise fault)) (fun _ _ _ => Parser.raise_extends fault)
      fun _ => Halts.raise _
  | eof =>
    exact .of_halts (advances .eof) (fun _ _ _ => Parser.eof_extends.map _)
      fun later => (Parser.eof_halts text later).andThen fun _ => Halts.pure _
  | rule name => exact (known name).mono id fun ready => ready name (.rule name)
  | @lookAhead p _ ih =>
    exact ih.lookAhead.mono (fun _ => .lookAhead p) fun ready name leads =>
      ready name (.lookAhead leads)
  | @notFollowedBy p _ ih =>
    exact (ih.notFollowedBy.map _).mono (fun _ => .notFollowedBy p) fun ready name leads =>
      ready name (.notFollowedBy leads)
  | sequence _ ih => exact ((sequence_ends low ih).map _).mono .sequence id
  | @times n p inner ih =>
    have each : ∀ q ∈ List.replicate n p,
        Ends text pos (q.Nullable rules) (q.Ready rules settled) (q.parser self) := by
      intro q member
      rw [List.eq_of_mem_replicate member]
      exact ih
    have parts := (sequence_ends low each).map Value.list
    rw [← count_eq_sequence] at parts
    exact ⟨advances (.times n inner), parts.stable, fun later after high here =>
      parts.halts later after high fun same name leads => here same name leads.of_replicate⟩
  | choice _ ih =>
    refine Ends.choice (forall_mem_parsers ?_)
    intro p member
    exact (ih p member).mono (.choice member) fun ready name leads =>
      ready name (.choice member leads)
  | @many p _ ih =>
    exact ((ih.many low).map _).mono (fun _ => .many p) fun ready name leads =>
      ready name (.many leads)
  | many1 _ ih =>
    exact ((ih.many1 low).map _).mono .many1 fun ready name leads => ready name (.many1 leads)
  | @sepBy1 p separator _ _ inner outer =>
    have first := inner.mono id
      fun (ready : (Grammar.sepBy1 p separator).Ready rules settled) name leads =>
        ready name (.sepBy1_first leads)
    refine ((first.sepBy1 low (outer.mono id ?_)).map _).mono (.sepBy1 separator) id
    intro ready name leads
    exact ready.1 name (.sepBy1_rest ready.2 leads)
  | @bind p next _ _ first rest =>
    have start := first.mono id
      fun (ready : (Grammar.bind p next).Ready rules settled) name leads =>
        ready name (.bind_first leads)
    refine (start.bind low fun value => (rest value).mono id ?_).mono ?_ id
    · intro ready name leads
      exact ready.1 name (.bind_rest value ready.2 leads)
    · intro stays
      obtain ⟨nullable, value, nullable_rest⟩ := stays
      exact .bind value nullable nullable_rest
  | map f _ ih =>
    exact (ih.tryMap f).mono (.map f) fun ready name leads => ready name (.map leads)
  | label message _ ih =>
    exact (ih.label message).mono (.label message) fun ready name leads =>
      ready name (.label leads)
  | logged tag _ ih =>
    exact (ih.logged tag).mono (.logged tag) fun ready name leads => ready name (.logged leads)
  | trace line =>
    exact .of_halts (advances (.trace line)) (fun _ _ _ => (Parser.trace_extends line).map _)
      fun later => (Parser.trace_halts line text later).andThen fun _ => Halts.pure _
  | traced tag _ ih =>
    exact (ih.traced low tag).mono (.traced tag) fun ready name leads =>
      ready name (.traced leads)
  | @chainl1 calls p operator _ _ operand between =>
    have first := operand.mono id
      fun (ready : (Grammar.chainl1 calls p operator).Ready rules settled) name leads =>
        ready name (.chainl1_operand leads)
    refine (first.chainl1 low ((between.map _).mono id ?_)).mono (.chainl1 operator) id
    intro ready name leads
    exact ready.1 name (.chainl1_operator ready.2 leads)
  | @chainr1 calls p operator _ _ operand between =>
    have first := operand.mono id
      fun (ready : (Grammar.chainr1 calls p operator).Ready rules settled) name leads =>
        ready name (.chainr1_operand leads)
    refine (first.chainr1 low ((between.map _).mono id ?_)).mono (.chainr1 operator) id
    intro ready name leads
    exact ready.1 name (.chainr1_operator ready.2 leads)
  | @level calls before after left right single operand _ _ _ _ _ _ front back lefts rights alone
      inner =>
    have first := inner.mono id fun
        (ready : (Grammar.level calls before after left right single operand).Ready rules settled)
        name leads => ready name (.level_operand leads)
    have operator {p : Grammar} (member : p ∈ after ++ left ++ right ++ single)
        (ends : Ends text pos (p.Nullable rules) (p.Ready rules settled) (p.parser self)) :
        Ends text pos True ((Grammar.level calls before after left right single operand).Ready rules
          settled ∧ operand.Nullable rules) (p.parser self) :=
      ends.mono (fun _ => trivial) fun ready name leads =>
        ready.1 name (.level_operator ready.2 member leads)
    suffices whole : Ends text pos (operand.Nullable rules)
        ((Grammar.level calls before after left right single operand).Ready rules settled)
        ((Grammar.level calls before after left right single operand).parser self) from
      whole.mono (.level before after left right single) id
    refine Ends.level low (forall_mem_unaries ?_) (forall_mem_unaries ?_)
      (forall_mem_binaries ?_) (forall_mem_binaries ?_) (forall_mem_binaries ?_) first
    · intro p member
      exact ((front p member).map _).mono (fun _ => trivial) fun ready name leads =>
        ready name (.level_before member leads)
    · intro p member
      exact (operator (by simp [member]) (back p member)).map _
    · intro p member
      exact (operator (by simp [member]) (lefts p member)).map _
    · intro p member
      exact (operator (by simp [member]) (rights p member)).map _
    · intro p member
      exact (operator (by simp [member]) (alone p member)).map _

end Grammar

namespace Rules

variable {rules : Rules} {text : Text}

theorem acc_of_undefined {name : String} (undefined : ¬ ∃ p, rules name = .ok p) :
    Acc (fun other name => rules.Leads name other) name := by
  refine ⟨_, ?_⟩
  intro other leads
  obtain ⟨p, defined, _⟩ := leads
  exact absurd ⟨p, defined⟩ undefined

/-- If no rule leads back to itself, going on to a rule that one leads to comes to an end. -/
theorem leads_wellFounded (finite : {name | ∃ p, rules name = .ok p}.Finite)
    (acyclic : ∀ name, ¬ Relation.TransGen rules.Leads name name) :
    WellFounded fun other name => rules.Leads name other := by
  have trans : IsTrans {name | ∃ p, rules name = .ok p} fun other name =>
      Relation.TransGen rules.Leads name other := ⟨fun _ _ _ first second => second.trans first⟩
  have irrefl : Std.Irrefl fun (other name : {name | ∃ p, rules name = .ok p}) =>
      Relation.TransGen rules.Leads name other := ⟨fun name => acyclic name⟩
  have finite_names : Finite {name | ∃ p, rules name = .ok p} := finite
  have among := Finite.wellFounded_of_trans_of_irrefl
    fun (other name : {name | ∃ p, rules name = .ok p}) => Relation.TransGen rules.Leads name other
  have acc : ∀ name : {name | ∃ p, rules name = .ok p},
      Acc (fun other name => rules.Leads name other) (name : String) := by
    intro name
    induction name using among.induction with
    | _ name ih =>
      refine ⟨_, ?_⟩
      intro other leads
      by_cases defined : ∃ p, rules other = .ok p
      · exact ih ⟨other, defined⟩ (.single leads)
      · exact acc_of_undefined defined
  refine ⟨?_⟩
  intro name
  by_cases defined : ∃ p, rules name = .ok p
  · exact acc ⟨name, defined⟩
  · exact acc_of_undefined defined

/-- A rule settles at a place if all rules settle further on. -/
theorem Library.rule_ends (library : rules.Library)
    (founded : WellFounded fun other name => rules.Leads name other) (pos : Int) (low : 0 ≤ pos)
    (high : pos ≤ text.length) (name : String) :
    Ends text pos ((Grammar.rule name).Nullable rules) True (rules.parser name) := by
  generalize left : (text.length - pos).toNat = rest
  induction rest using Nat.strongRecOn generalizing pos name with
  | ind rest further =>
    -- past this place the rules settle by the induction on what is left of the text
    have known : ∀ name, Ends text pos ((Grammar.rule name).Nullable rules)
        (Halts (rules.parser name text pos)) (rules.parser name) := by
      intro name
      refine ⟨library.parser_advances name, rules.parser_stable name, ?_⟩
      intro later after inside here
      by_cases same : later = pos
      · rw [same]
        exact here same
      · exact (further (text.length - later).toNat (by omega) later (by omega) inside name
          rfl).halts later (Int.le_refl _) inside fun _ => trivial
    refine (known name).mono id fun _ => ?_
    induction name using founded.induction with
    | _ name ih =>
      cases defined : rules name with
      | error fault =>
        intro session
        exact ⟨_, Grammar.settles_rule_error defined text pos session⟩
      | ok p =>
        have body := ((library name p defined).ends low known).halts pos (Int.le_refl _) high
          fun _ other leads => ih other ⟨p, defined, leads⟩
        intro session
        obtain ⟨outcome, settles⟩ := body (session.built (rules.definition name) ⟨name, p, defined⟩)
        exact ⟨outcome, Grammar.settles_rule defined settles⟩

end Rules

/-- Among finitely many rules that never come to themselves before they have consumed something,
every parse ends: with enough budget it comes to an outcome that no more budget changes. -/
theorem Grammar.Library.settles {rules : Rules} (library_rules : rules.Library)
    (finite : {name | ∃ p, rules name = .ok p}.Finite)
    (acyclic : ∀ name, ¬ Relation.TransGen rules.Leads name name) {p : Grammar}
    (library : p.Library) (text : Text) (pos : Int) (low : 0 ≤ pos) (high : pos ≤ text.length)
    (session : Session (Resolved rules)) :
    ∃ outcome, Action.Settles (p.meaning rules text pos) session outcome := by
  have founded := Rules.leads_wellFounded finite acyclic
  have known := fun name => library_rules.rule_ends founded pos low high name
  exact (library.ends low known).halts pos (Int.le_refl _) high (fun _ _ _ => trivial) session

theorem Grammar.word_leads_nowhere {rules : Rules} {name : String} : ¬ word.Leads rules name := by
  intro leads
  cases leads with
  | choice member inner =>
    rcases List.mem_cons.mp member with rfl | other
    · cases inner
    · rw [List.mem_singleton.mp other] at inner
      cases inner with
      | sequence_first first => cases first
      | sequence_rest passed _ => cases passed

theorem Rules.words_finite : {name | ∃ p, words name = .ok p}.Finite := by
  apply (Set.finite_singleton "word").subset
  intro name defined
  obtain ⟨p, same⟩ := defined
  exact (words_eq_ok same).1

theorem Rules.words_acyclic (name : String) : ¬ Relation.TransGen words.Leads name name := by
  intro cycle
  obtain ⟨other, leads, _⟩ := Relation.TransGen.head'_iff.mp cycle
  obtain ⟨p, defined, inner⟩ := leads
  rw [(words_eq_ok defined).2] at inner
  exact Grammar.word_leads_nowhere inner

/-- Also words repeated each of which may be left out come to an end. -/
theorem Grammar.optional_words_settle :
    ∃ outcome, Action.Settles ((many (optional (.rule "word"))).meaning Rules.words
      (Text.ofList ['a', 'b']) 0) .fresh outcome :=
  Library.settles Rules.words_library Rules.words_finite Rules.words_acyclic
    (.many (.choice (List.forall_mem_cons.mpr
      ⟨.rule "word", List.forall_mem_singleton.mpr (.pure .null)⟩)))
    (Text.ofList ['a', 'b']) 0 (by decide) (by decide) .fresh

end Descent
