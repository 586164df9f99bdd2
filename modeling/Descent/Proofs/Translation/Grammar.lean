import Descent.Proofs.Parallel.Grammar
import Descent.Proofs.Parser.Primitive
import Descent.Proofs.Pattern.Run
import Descent.Proofs.Translation.Text

set_option autoImplicit false

namespace Descent

/-- The reply with all of its places moved on: the end of a match, or the places of a failure. -/
def Reply.moved {α : Type} (shift : Int) : Reply α → Reply α
  | .success value stop => .success value (stop + shift)
  | .failure refusal => .failure (refusal.moved shift)

/-- The grammar is a part that looks only at characters from its start on: what is printed tells
where it stands, a hand-written parser may ask for anything, and a pattern may look back. Runs of
blanks or digits do not. -/
inductive Grammar.PortablePart : Grammar → Prop where
  | literal (s : String) : PortablePart (.literal s)
  | satisfy (expected : Option String) (accepts : Char → Bool) :
      PortablePart (.satisfy expected accepts)
  | blanks (expected : String) : PortablePart (.pattern expected .blanks)
  | digits (expected : String) : PortablePart (.pattern expected .digits)
  | pure (value : Value) : PortablePart (.pure value)
  | failWith (expected : Option String) : PortablePart (.failWith expected)
  | raise (fault : Fault) : PortablePart (.raise fault)
  | eof : PortablePart .eof

def Grammar.Portable : Grammar → Prop :=
  Grammar.BuiltFrom PortablePart

def Rules.Portable : Rules → Prop :=
  Rules.BuiltFrom Grammar.PortablePart

namespace Parallel

/-- A run on a text from an index on beside a run on what is left of the text there. -/
def relocated (σ : Type) (text : Text) (start : Nat) : Parallel σ σ where
  sessions := Eq
  stops := fun fault s fault' t => fault = fault' ∧ s = t
  first := text
  second := text.onwards start
  shift := start
  failures := fun f g => f = g.moved start
  anchors := by
    rintro f g pos rfl
    exact (g.anchor_moved start pos).symm

def Within (text : Text) (pos : Int) : Prop :=
  ∃ index : Nat, pos = index ∧ index ≤ text.length

namespace Relocated

variable {σ α : Type} {text : Text} {start : Nat}

/-- Outcomes that go together are the same but for where they stand. -/
theorem outcome_eq {after : Int → Prop} {first second : Action σ (Reply α)}
    (together : (relocated σ text start).Actions ((relocated σ text start).Replies after Eq)
      first second) :
    first = Reply.moved start <$> second := by
  funext budget session
  have outcomes := together budget session session rfl
  rw [← bind_pure_comp, Action.bind_apply]
  generalize first budget session = came, second budget session = came' at outcomes
  cases outcomes with
  | done replies sessions =>
    cases sessions
    cases replies with
    | success stop same reached =>
      cases same
      rfl
    | failure same =>
      cases same
      rfl
  | fault same =>
    obtain ⟨rfl, rfl⟩ := same
    rfl
  | exhausted sessions =>
    cases sessions
    rfl

variable {p q : Parser σ α}

/-- Two parsers are alike if they reply alike at each index. -/
theorem alike_of_index
    (replies : ∀ index, index ≤ (text.onwards start).length →
      (relocated σ text start).Actions
        ((relocated σ text start).Replies (Within (text.onwards start)) Eq)
        (p text (start + index : Nat)) (q (text.onwards start) index)) :
    (relocated σ text start).Alike (Within (text.onwards start)) p q := by
  rintro _ ⟨index, rfl, within⟩
  have place : (index : Int) + (relocated σ text start).shift =
      ((start + index : Nat) : Int) := by
    show (index : Int) + (start : Int) = _
    omega
  rw [place]
  exact replies index within

/-- Matches that end at places that correspond. -/
theorem matched (value : α) {stop : Nat} (within : stop ≤ (text.onwards start).length) :
    (relocated σ text start).Actions
      ((relocated σ text start).Replies (Within (text.onwards start)) Eq)
      (pure (.success value ((start + stop : Nat) : Int)) : Action σ (Reply α))
      (pure (.success value stop)) := by
  have place : ((start + stop : Nat) : Int) =
      (stop : Int) + (relocated σ text start).shift := by
    show _ = (stop : Int) + (start : Int)
    omega
  rw [place]
  exact Pairing.Actions.pure (.success _ rfl ⟨stop, rfl, within⟩)

/-- Refusals at places that correspond. -/
theorem refused (index : Nat) (expected : Option String) :
    (relocated σ text start).Actions
      ((relocated σ text start).Replies (Within (text.onwards start)) Eq)
      (pure (.failure (.leaf ((start + index : Nat) : Int) expected)) : Action σ (Reply α))
      (pure (.failure (.leaf index expected))) := by
  have leaf : Failure.leaf ((start + index : Nat) : Int) expected =
      (Failure.leaf index expected).moved start := by
    rw [Failure.leaf_moved, Int.natCast_add, Int.add_comm]
  exact Pairing.Actions.pure (.failure leaf)

variable (within : start ≤ text.length)

include within in
theorem literal (s : String) :
    (relocated σ text start).Alike (Within (text.onwards start))
      (Parser.literal s : Parser σ String) (Parser.literal s) := by
  apply alike_of_index
  intro index inside
  have inside_whole := Text.within_onwards within inside
  by_cases stands : s.toList <+: text.remaining (start + index)
  · have stands_onwards := text.remaining_onwards start index ▸ stands
    have room := stands_onwards.length_le
    rw [Text.length_remaining, String.length_toList] at room
    rw [Parser.literal_of_prefix inside_whole stands,
      Parser.literal_of_prefix inside stands_onwards, Nat.add_assoc]
    exact matched s (by omega)
  · rw [Parser.literal_of_not_prefix inside_whole stands,
      Parser.literal_of_not_prefix inside (by rwa [Text.remaining_onwards])]
    exact refused index _

theorem satisfy (expected : Option String) (accepts : Char → Bool) :
    (relocated σ text start).Alike (Within (text.onwards start))
      (Parser.satisfy expected accepts : Parser σ Char) (Parser.satisfy expected accepts) := by
  apply alike_of_index
  intro index inside
  have same := text.getElem?_onwards start index
  cases next : (text.onwards start).toList[index]? with
  | none =>
    rw [Parser.satisfy_of_none next, Parser.satisfy_of_none (same.symm.trans next)]
    exact refused index expected
  | some c =>
    rw [Parser.satisfy_of_some next, Parser.satisfy_of_some (same.symm.trans next)]
    have room := (List.getElem?_eq_some_iff.mp next).1
    rw [Text.length_toList] at room
    split
    · exact matched c room
    · exact refused index expected

include within in
/-- A pattern goes as far here as there if what is left of the text decides how far it goes. -/
theorem pattern (expected : String) {p : Pattern} (width : List Char → Option Nat)
    (ends : ∀ (text : Text) (index : Nat), index ≤ text.length →
      p.matchEnd? text index = (width (text.remaining index)).map (index + ·))
    (short : ∀ chars count, width chars = some count → count ≤ chars.length) :
    (relocated σ text start).Alike (Within (text.onwards start))
      (Parser.pattern expected p : Parser σ String) (Parser.pattern expected p) := by
  apply alike_of_index
  intro index inside
  have inside_whole := Text.within_onwards within inside
  have whole := ends text (start + index) inside_whole
  have onwards := ends (text.onwards start) index inside
  rw [Text.remaining_onwards] at onwards
  cases found : width (text.remaining (start + index)) with
  | none =>
    rw [found] at whole onwards
    rw [Parser.pattern_of_none inside_whole whole, Parser.pattern_of_none inside onwards]
    exact refused index _
  | some count =>
    have room := short _ _ found
    rw [Text.length_remaining] at room
    rw [found] at whole onwards
    rw [Parser.pattern_of_some inside_whole whole, Parser.pattern_of_some inside onwards,
      Text.between_onwards]
    simp only [Nat.add_assoc]
    apply matched
    rw [Text.length_onwards]
    omega

include within in
theorem blanks (expected : String) :
    (relocated σ text start).Alike (Within (text.onwards start))
      (Parser.pattern expected .blanks : Parser σ String) (Parser.pattern expected .blanks) := by
  apply pattern within expected fun chars => some (chars.takeWhile isBlank).length
  · intro text index inside
    exact Pattern.blanks_matchEnd text index inside
  · intro chars count found
    cases found
    exact (List.takeWhile_prefix isBlank).length_le

include within in
theorem digits (expected : String) :
    (relocated σ text start).Alike (Within (text.onwards start))
      (Parser.pattern expected .digits : Parser σ String) (Parser.pattern expected .digits) := by
  apply pattern within expected fun chars =>
    if (chars.takeWhile isAsciiDigit).length < 1 then none
    else some (chars.takeWhile isAsciiDigit).length
  · intro text index inside
    rw [Pattern.digits_matchEnd text index inside]
    split <;> rfl
  · intro chars count found
    split at found
    · cases found
    · cases found
      exact (List.takeWhile_prefix isAsciiDigit).length_le

include within in
theorem eof :
    (relocated σ text start).Alike (Within (text.onwards start))
      (Parser.eof : Parser σ Unit) Parser.eof := by
  apply alike_of_index
  intro index inside
  have length := text.length_onwards start
  by_cases ended : index = (text.onwards start).length
  · have whole : start + index = text.length := by omega
    rw [whole, ended, Parser.eof_of_length, Parser.eof_of_length, ← whole, ended]
    exact matched () (Nat.le_refl _)
  · rw [Parser.eof_of_lt (by omega), Parser.eof_of_lt (by omega)]
    exact refused index _

include within in
theorem uniform : (relocated σ text start).Uniform (Within (text.onwards start)) where
  faults _ _ _ same := ⟨rfl, same⟩
  leaves _ _ _ := rfl
  labels f g message same := by
    cases same
    rfl
  slices := by
    rintro _ _ ⟨index, rfl, inside⟩ ⟨stop, rfl, inside_stop⟩
    have slices := Text.slice_onwards within inside inside_stop
    rw [Int.natCast_add, Int.natCast_add, Int.add_comm, Int.add_comm start stop] at slices
    exact slices.symm
  logs s t tag value same := by
    cases same
    rfl

include within in
theorem parts :
    (relocated σ text start).Parts (Within (text.onwards start)) Grammar.PortablePart where
  uniform := uniform within
  alike := by
    intro p portable self self'
    cases portable with
    | literal s => exact (literal within s).map _
    | satisfy expected accepts => exact (satisfy expected accepts).map _
    | blanks expected => exact (blanks within expected).map _
    | digits expected => exact (digits within expected).map _
    | pure value => exact Alike.pure value
    | failWith expected => exact Alike.failWith (uniform within) expected
    | raise fault => exact Alike.raise (uniform within) fault
    | eof => exact (eof within).map _
  lines := by
    intro name portable
    cases portable

theorem uses (rules : Rules) :
    (relocated (Resolved rules) text start).Uses
      (Within (text.onwards start)) Parser.rule Parser.rule := by
  intro name run run' alike
  cases built : rules.build name with
  | ok rule =>
    refine Alike.rule built built ?_ (alike rule)
    rintro s t rfl
    rfl
  | error fault =>
    refine Alike.rule_error built built ?_
    rintro s t rfl
    exact ⟨rfl, rfl⟩

end Relocated

end Parallel

/-- Parsing is invariant under translation: run on a text from an index on, a grammar gives the
outcome that it gives on what is left of the text there, with the end of a match and all the places
of a failure moved on by the index. Values, what was expected, faults and events are the same. -/
theorem Grammar.Portable.meaning_moved {rules : Rules} {p : Grammar}
    (portable_rules : rules.Portable) (portable : p.Portable) (text : Text) (start : Nat)
    (within : start ≤ text.length) :
    p.meaning rules text start = Reply.moved start <$> p.meaning rules (text.onwards start) 0 := by
  have alike := (Parallel.Relocated.parts within).meaning (Parallel.Relocated.uses rules)
    portable_rules portable
  have together := alike 0 ⟨0, rfl, Nat.zero_le _⟩
  have place : (0 : Int) + (Parallel.relocated (Resolved rules) text start).shift = start :=
    Int.zero_add _
  rw [place] at together
  exact Parallel.Relocated.outcome_eq together

theorem Grammar.word_portable : word.Portable := by
  have step : (Grammar.sequence [.satisfy (some "a") (· == 'a'), .rule "word"]).Portable :=
    .sequence (List.forall_mem_cons.mpr
      ⟨.part (.satisfy _ _), List.forall_mem_singleton.mpr (.rule _)⟩)
  exact .choice (List.forall_mem_cons.mpr
    ⟨.part (.satisfy _ _), List.forall_mem_singleton.mpr step⟩)

theorem Rules.words_portable : words.Portable := by
  intro name p defined
  rw [(words_eq_ok defined).2]
  exact Grammar.word_portable

/-- The word `aac` after another letter is refused as it is at the start of a text, with all the
places of the refusal one further on. -/
theorem Grammar.word_refused_later :
    word.meaning Rules.words (Text.ofList ['x', 'a', 'a', 'c']) 1 10 .fresh =
      .done (.failure ⟨⟨1, some "a"⟩, [⟨2, some "a"⟩, ⟨3, some "a"⟩]⟩)
        ⟨[Rules.wordRule], #[.forced "word"]⟩ := by
  have moved : word.meaning Rules.words (Text.ofList ['x', 'a', 'a', 'c']) 1 =
      Reply.moved 1 <$>
        word.meaning Rules.words ((Text.ofList ['x', 'a', 'a', 'c']).onwards 1) 0 :=
    Portable.meaning_moved Rules.words_portable word_portable _ 1 (by decide)
  rw [moved]
  rfl

end Descent
