import Descent.Proofs.Grammar.Library
import Descent.Proofs.Spelling.Parser
import Descent.Proofs.Translation.Text

set_option autoImplicit false

namespace Descent

namespace Value

mutual

def strings : Value → List String
  | str s => [s]
  | list items => stringsOf items
  | node label => strings label
  | _ => []

def stringsOf : List Value → List String
  | [] => []
  | v :: rest => strings v ++ stringsOf rest

end

def spelling (v : Value) : List Char :=
  v.strings.flatMap String.toList

@[simp] theorem spelling_null : null.spelling = [] :=
  rfl

@[simp] theorem spelling_str (s : String) : (str s).spelling = s.toList := by
  rw [spelling, strings, List.flatMap_singleton]

@[simp] theorem spelling_list (items : List Value) :
    (list items).spelling = items.flatMap spelling := by
  rw [spelling, strings]
  induction items with
  | nil => rfl
  | cons v rest ih => rw [stringsOf, List.flatMap_append, ih, List.flatMap_cons, spelling]

theorem spelling_charValue (c : Char) : (Grammar.charValue c).spelling = [c] := by
  rw [Grammar.charValue, spelling_str, String.toList_singleton]

end Value

/-- The grammar keeps what it consumes: it is made of texts, characters, patterns, values without
strings and tests that consume nothing, put together so that no part's value is dropped. -/
inductive Grammar.Verbatim : Grammar → Prop where
  | literal (s : String) : Verbatim (.literal s)
  | satisfy (expected : Option String) (accepts : Char → Bool) :
      Verbatim (.satisfy expected accepts)
  | pattern (expected : String) (p : Pattern) : Verbatim (.pattern expected p)
  | pure {value : Value} (silent : value.strings = []) : Verbatim (.pure value)
  | failWith (expected : Option String) : Verbatim (.failWith expected)
  | raise (fault : Fault) : Verbatim (.raise fault)
  | eof : Verbatim .eof
  | rule (name : String) : Verbatim (.rule name)
  | notFollowedBy (p : Grammar) : Verbatim (.notFollowedBy p)
  | sequence {ps : List Grammar} (parts : ∀ p ∈ ps, Verbatim p) : Verbatim (.sequence ps)
  | times (n : Nat) {p : Grammar} (inner : Verbatim p) : Verbatim (.times n p)
  | choice {ps : List Grammar} (parts : ∀ p ∈ ps, Verbatim p) : Verbatim (.choice ps)
  | many {p : Grammar} (inner : Verbatim p) : Verbatim (.many p)
  | many1 {p : Grammar} (inner : Verbatim p) : Verbatim (.many1 p)
  | label {p : Grammar} (message : String) (inner : Verbatim p) : Verbatim (.label p message)
  | logged (tag : String) {p : Grammar} (inner : Verbatim p) : Verbatim (.logged tag p)
  | trace (name : String) : Verbatim (.trace name)
  | traced (name : String) {p : Grammar} (inner : Verbatim p) : Verbatim (.traced name p)

def Rules.Verbatim (rules : Rules) : Prop :=
  ∀ name p, rules name = .ok p → p.Verbatim

namespace Grammar

open Descent.Parser (Spells)

variable {σ : Type} {self : String → Parser σ Value}

/-- Where nothing matches, the null that stands for the match spells nothing. -/
theorem Verbatim.optional {p : Grammar} (inner : p.Verbatim) : p.optional.Verbatim :=
  .choice (List.forall_mem_cons.mpr ⟨inner, List.forall_mem_singleton.mpr (.pure rfl)⟩)

theorem Verbatim.both {p q : Grammar} (first : p.Verbatim) (second : q.Verbatim) :
    (p.both q).Verbatim :=
  .sequence (List.forall_mem_cons.mpr ⟨first, List.forall_mem_singleton.mpr second⟩)

/-- One case for each constructor. -/
theorem Verbatim.spells {p : Grammar} (verbatim : p.Verbatim)
    (rules : ∀ name, Spells Value.spelling (self name)) :
    Spells Value.spelling (p.parser self) := by
  induction verbatim with
  | literal s => exact (Parser.literal_spells s).map _ Value.spelling_str
  | satisfy expected accepts =>
    exact (Parser.satisfy_spells expected accepts).map _ Value.spelling_charValue
  | pattern expected p => exact (Parser.pattern_spells expected p).map _ Value.spelling_str
  | @pure value silent =>
    have nothing : value.spelling = [] := by rw [Value.spelling, silent, List.flatMap_nil]
    exact Parser.pure_spells nothing
  | failWith expected => exact Parser.failWith_spells expected
  | raise fault => exact Parser.raise_spells fault
  | eof => exact Parser.eof_silent.map _ fun _ => Value.spelling_null
  | rule name => exact rules name
  | notFollowedBy p => exact (Parser.notFollowedBy_silent _).map _ fun _ => Value.spelling_null
  | sequence _ parts =>
    exact (Spells.sequence (forall_mem_parsers parts)).map _ Value.spelling_list
  | times n _ inner => exact (inner.count n).map _ Value.spelling_list
  | choice _ parts => exact Spells.choice (forall_mem_parsers parts)
  | many _ inner => exact inner.many.map _ Value.spelling_list
  | many1 _ inner => exact inner.many1.map _ Value.spelling_list
  | label message _ inner => exact inner.label message
  | logged tag _ inner => exact inner.logged tag
  | trace name => exact (Parser.trace_silent name).map _ fun _ => Value.spelling_null
  | traced name _ inner => exact inner.traced name

end Grammar

theorem Rules.Verbatim.parser_spells {rules : Rules} (verbatim : rules.Verbatim) (name : String) :
    Parser.Spells Value.spelling (rules.parser name) := by
  refine Parser.Spells.fix ?_ name
  intro self spells name
  exact Parser.Spells.rule _ fun rule _ =>
    (verbatim rule.name rule.grammar rule.built).spells spells

/-- What is read off the value of a match is the stretch of the text that it consumed. -/
theorem Reply.Spells.slice {α : Type} {read : α → List Char} {text : Text} {start : Nat}
    {value : α} {stop : Int} (within : start ≤ text.length)
    (spells : (Reply.success value stop).Spells read text start) :
    read value = text.slice start stop := by
  obtain ⟨reached, rfl, bound, split⟩ := spells
  have lengths := congrArg List.length split
  rw [List.length_append, Text.length_remaining, Text.length_remaining] at lengths
  have length : reached - start = (read value).length := by omega
  rw [Text.slice_of_mem within bound, ← split, length, List.take_left']
  rfl

/-- No input is lost, doubled or moved: the strings in the value of a match, put together from left
to right, are the characters of the text from the start of the match to its end. -/
theorem Grammar.Verbatim.join_strings {rules : Rules} {p : Grammar}
    (verbatim_rules : rules.Verbatim) (verbatim : p.Verbatim) (text : Text) (start : Int)
    (low : 0 ≤ start) (high : start ≤ text.length) (budget : Nat)
    (session reached : Session (Resolved rules))
    (value : Value) (stop : Int)
    (ran : p.meaning rules text start budget session = .done (.success value stop) reached) :
    String.join value.strings = String.ofList (text.slice start stop) := by
  obtain ⟨index, rfl⟩ := Int.eq_ofNat_of_zero_le low
  have within : index ≤ text.length := by omega
  have spells := verbatim.spells verbatim_rules.parser_spells text index within budget session _
    reached ran
  apply String.toList_injective
  rw [String.toList_join, String.toList_ofList]
  exact spells.slice within

theorem Rules.words_verbatim : words.Verbatim := by
  intro name p defined
  rw [(words_eq_ok defined).2]
  have step : (Grammar.sequence [.satisfy (some "a") (· == 'a'), .rule "word"]).Verbatim :=
    .sequence (List.forall_mem_cons.mpr ⟨.satisfy _ _, List.forall_mem_singleton.mpr (.rule _)⟩)
  exact .choice (List.forall_mem_cons.mpr ⟨.satisfy _ _, List.forall_mem_singleton.mpr step⟩)

namespace Grammar

def sentence : Grammar :=
  (many (.rule "word")).both ((literal ".").optional.both .eof)

theorem sentence_verbatim : sentence.Verbatim :=
  .both (.many (.rule _)) (.both (.optional (.literal _)) .eof)

/-- The words `aab` and `b` and the full stop, put together as they are nested in the value. -/
theorem sentence_spelled :
    String.join ["a", "a", "b", "b", "."] =
      String.ofList ((Text.ofList ['a', 'a', 'b', 'b', '.']).slice 0 5) :=
  Verbatim.join_strings Rules.words_verbatim sentence_verbatim
    (Text.ofList ['a', 'a', 'b', 'b', '.']) 0 (by decide) (by decide) 10 .fresh
    ⟨[Rules.wordRule], #[.forced "word"]⟩
    (.list [.list [.list [.str "a", .list [.str "a", .str "b"]], .str "b"],
      .list [.str ".", .null]]) 5 (by rfl)

end Grammar

end Descent
