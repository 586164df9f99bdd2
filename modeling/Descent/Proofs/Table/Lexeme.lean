import Descent.Parser.Char
import Descent.Proofs.Parser.Composed
import Descent.Proofs.Parser.Primitive
import Descent.Proofs.Pattern.Bounds
import Descent.Proofs.Pattern.Run
import Descent.Proofs.Table.Token

set_option autoImplicit false

namespace Descent

def Text.tokens (text : Text) (index : Nat) : List Token :=
  Token.scan (text.remaining index)

/-- No number that comes next anywhere has more digits than a numeral may have. -/
def Text.ShortNumbers (text : Text) : Prop :=
  ∀ (i : Nat) (digits : List Char) (rest : List Token),
    text.tokens i = .number digits :: rest → digits.length ≤ Numeral.maxDigits

/-- The index is that of a place in the text where no blank stands. -/
structure Text.Fresh (text : Text) (index : Nat) : Prop where
  within : index ≤ text.length
  blank : (text.remaining index).head?.any isBlank = false

def Text.pastBlanks (text : Text) (index : Nat) : Nat :=
  index + ((text.remaining index).takeWhile isBlank).length

theorem Text.remaining_pastBlanks (text : Text) (index : Nat) :
    text.remaining (text.pastBlanks index) = (text.remaining index).dropWhile isBlank :=
  text.remaining_takeWhile index isBlank

theorem Text.tokens_pastBlanks (text : Text) (index : Nat) :
    text.tokens (text.pastBlanks index) = text.tokens index := by
  rw [tokens, text.remaining_pastBlanks, Token.scan_dropWhile]
  rfl

theorem Text.fresh_pastBlanks (text : Text) {index : Nat} (within : index ≤ text.length) :
    text.Fresh (text.pastBlanks index) := by
  constructor
  · exact text.takeWhile_within isBlank within
  · rw [text.remaining_pastBlanks]
    exact Token.head_dropWhile isBlank _

/-- The index past the blanks that stand at an index, one character, and the blanks after it. -/
def Text.pastSign (text : Text) (index : Nat) : Nat :=
  text.pastBlanks (text.pastBlanks index + 1)

theorem Text.remaining_of_sign {text : Text} {index : Nat} {c : Char} {rest : List Token}
    (next : text.tokens index = .sign c :: rest) :
    ∃ later, text.remaining (text.pastBlanks index) = c :: later ∧ Token.scan later = rest := by
  obtain ⟨later, head, left⟩ := Token.sign_of_scan next
  exact ⟨later, (text.remaining_pastBlanks index).trans head, left⟩

/-- After a sign come the other tokens. -/
theorem Text.pastSign_of_sign {text : Text} {index : Nat} {c : Char} {rest : List Token}
    (next : text.tokens index = .sign c :: rest) :
    text.pastBlanks index + 1 ≤ text.length ∧ text.Fresh (text.pastSign index) ∧
      text.tokens (text.pastSign index) = rest := by
  obtain ⟨later, stands, left⟩ := Text.remaining_of_sign next
  have count := congrArg List.length stands
  rw [text.length_remaining, List.length_cons] at count
  have inside : text.pastBlanks index + 1 ≤ text.length := by omega
  refine ⟨inside, text.fresh_pastBlanks inside, ?_⟩
  rw [pastSign, text.tokens_pastBlanks, tokens, text.remaining_add, stands]
  exact left

namespace Parser

variable {σ α : Type} {text : Text} {i : Nat}

theorem spaces_eq (within : i ≤ text.length) :
    (spaces : Parser σ String) text i =
      Pure.pure (.success (text.between i (text.pastBlanks i)) (text.pastBlanks i)) :=
  pattern_of_some within (Pattern.blanks_matchEnd text i within)

/-- A parser with blanks around it matches where it does past those in front, and goes past those
behind. -/
theorem lexeme_of_success {p : Parser σ α} {value : α} {k : Nat} (within : i ≤ text.length)
    (replies : p text (text.pastBlanks i) = Pure.pure (.success value k))
    (inside : k ≤ text.length) :
    lexeme p text i = Pure.pure (.success value (text.pastBlanks k)) := by
  have first : spaces.seqRight p text i = Pure.pure (.success value k) := by
    rw [seqRight, bind_of_success (spaces_eq within), replies, pure_bind]
    rfl
  rw [lexeme, between, seqLeft, bind_of_success first, map_of_success _ (spaces_eq inside),
    pure_bind]
  rfl

theorem lexeme_of_failure {p : Parser σ α} {refusal : Failure} (within : i ≤ text.length)
    (replies : p text (text.pastBlanks i) = Pure.pure (.failure refusal)) :
    lexeme p text i = Pure.pure (.failure (refusal.anchor i)) := by
  have first : spaces.seqRight p text i = Pure.pure (.failure (refusal.anchor i)) := by
    rw [seqRight, bind_of_success (spaces_eq within), replies, pure_bind]
    rfl
  rw [lexeme, between, seqLeft, bind_of_failure first, Failure.anchor_anchor]

/-- A fault that ends a parser within blanks ends the whole. -/
theorem lexeme_of_raise {p : Parser σ α} {fault : Fault} (within : i ≤ text.length)
    (raises : p text (text.pastBlanks i) = Action.raise fault) :
    lexeme p text i = Action.raise fault := by
  have first : spaces.seqRight p text i = Action.raise fault := by
    rw [seqRight, bind_of_success (spaces_eq within), raises]
    rfl
  rw [lexeme, between, seqLeft, Parser.bind, first]
  rfl

theorem literal_of_sign {c : Char} {later : List Char} (within : i ≤ text.length)
    (stands : text.remaining i = c :: later) :
    (literal (String.singleton c) : Parser σ String) text i =
      Pure.pure (.success (String.singleton c) ((i + 1 : Nat) : Int)) := by
  have first : (String.singleton c).toList <+: text.remaining i := by
    rw [stands, String.toList_singleton]
    exact List.prefix_append [c] later
  have replies : (literal (String.singleton c) : Parser σ String) text i = _ :=
    literal_of_prefix within first
  rwa [String.length_singleton] at replies

theorem literal_of_other {c : Char} (within : i ≤ text.length)
    (absent : ∀ later, text.remaining i ≠ c :: later) :
    (literal (String.singleton c) : Parser σ String) text i =
      Pure.pure (.failure (.leaf i (some (textLabel (String.singleton c))))) := by
  apply literal_of_not_prefix within
  rintro ⟨later, parts⟩
  rw [String.toList_singleton] at parts
  exact absent later parts.symm

theorem symbol_of_sign {c : Char} {rest : List Token} (within : i ≤ text.length)
    (next : text.tokens i = .sign c :: rest) :
    (symbol (String.singleton c) : Parser σ String) text i =
      Pure.pure (.success (String.singleton c) (text.pastSign i)) := by
  obtain ⟨later, stands, _⟩ := Text.remaining_of_sign next
  exact lexeme_of_success within
    (literal_of_sign (text.fresh_pastBlanks within).within stands) (Text.pastSign_of_sign next).1

theorem absent_of_tokens {c : Char} (blank : isBlank c = false) (digit : isAsciiDigit c = false)
    (absent : ∀ rest, text.tokens i ≠ .sign c :: rest) (later : List Char) :
    text.remaining (text.pastBlanks i) ≠ c :: later :=
  fun stands => absent _ (Token.scan_of_sign blank digit
    ((text.remaining_pastBlanks i).symm.trans stands))

theorem symbol_of_other {c : Char} (blank : isBlank c = false) (digit : isAsciiDigit c = false)
    (within : i ≤ text.length) (absent : ∀ rest, text.tokens i ≠ .sign c :: rest) :
    (symbol (String.singleton c) : Parser σ String) text i =
      Pure.pure (.failure ((Failure.leaf (text.pastBlanks i)
        (some (textLabel (String.singleton c)))).anchor i)) :=
  lexeme_of_failure within (literal_of_other (text.fresh_pastBlanks within).within
    (absent_of_tokens blank digit absent))

theorem symbol_match {c : Char} {rest : List Token} (within : i ≤ text.length)
    (next : text.tokens i = .sign c :: rest) :
    ∃ j : Nat, (symbol (String.singleton c) : Parser σ String) text i =
        Pure.pure (.success (String.singleton c) j) ∧ text.Fresh j ∧ text.tokens j = rest :=
  ⟨text.pastSign i, symbol_of_sign within next, (Text.pastSign_of_sign next).2⟩

theorem symbol_refuse {c : Char} (blank : isBlank c = false) (digit : isAsciiDigit c = false)
    (within : i ≤ text.length) (absent : ∀ rest, text.tokens i ≠ .sign c :: rest) :
    ∃ refusal, (symbol (String.singleton c) : Parser σ String) text i =
      Pure.pure (.failure refusal) :=
  ⟨_, symbol_of_other blank digit within absent⟩

/-- The pattern of digits takes all that stand in a row. -/
theorem digits_of_some (expected : String) (within : i ≤ text.length)
    (some : (text.remaining i).takeWhile isAsciiDigit ≠ []) :
    (pattern expected .digits : Parser σ String) text i =
      Pure.pure (.success (String.ofList ((text.remaining i).takeWhile isAsciiDigit))
        ((i + ((text.remaining i).takeWhile isAsciiDigit).length : Nat) : Int)) := by
  have found := Pattern.digits_matchEnd text i within
  rw [if_neg (by simpa using some)] at found
  have spelled : text.between i (i + ((text.remaining i).takeWhile isAsciiDigit).length) =
      String.ofList ((text.remaining i).takeWhile isAsciiDigit) := by
    apply String.toList_injective
    rw [text.toList_between_takeWhile, String.toList_ofList]
  rw [pattern_of_some within found, spelled]

theorem digits_of_none (expected : String) (within : i ≤ text.length)
    (none : (text.remaining i).takeWhile isAsciiDigit = []) :
    (pattern expected .digits : Parser σ String) text i =
      Pure.pure (.failure (.leaf i (some expected))) := by
  have absent := Pattern.digits_matchEnd text i within
  rw [none] at absent
  exact pattern_of_none within absent

/-- A number with blanks around it that is evaluated in some way. -/
theorem numeral_match {digits : List Char} {rest : List Token} (expected : String)
    (f : String → Except Fault α) {value : α} (within : i ≤ text.length)
    (next : text.tokens i = .number digits :: rest)
    (evaluates : f (String.ofList digits) = .ok value) :
    ∃ j : Nat, lexeme ((pattern expected .digits : Parser σ String).tryMap f) text i =
        Pure.pure (.success value j) ∧ text.Fresh j ∧ text.tokens j = rest := by
  generalize start : text.pastBlanks i = j
  have inside : j ≤ text.length := start ▸ (text.fresh_pastBlanks within).within
  have same : text.remaining j = (text.remaining i).dropWhile isBlank :=
    start ▸ text.remaining_pastBlanks i
  obtain ⟨some, _⟩ := Token.number_of_scan next
  obtain ⟨rfl, left⟩ := Token.longest_of_scan next
  rw [← same] at some left evaluates
  have ended := text.takeWhile_within isAsciiDigit inside
  have replies : ((pattern expected .digits : Parser σ String).tryMap f) text j = _ :=
    tryMap_of_success f (digits_of_some expected inside some)
  rw [evaluates] at replies
  refine ⟨_, lexeme_of_success within (start ▸ replies) ended, text.fresh_pastBlanks ended, ?_⟩
  rw [text.tokens_pastBlanks, Text.tokens, text.remaining_takeWhile j isAsciiDigit]
  exact left

/-- A number that comes next is evaluated to the number that it spells, if it is short enough. -/
theorem evaluate_of_scan {digits : List Char} {rest : List Token}
    (next : text.tokens i = .number digits :: rest) (short : digits.length ≤ Numeral.maxDigits) :
    Numeral.evaluate (String.ofList digits).toList = .ok (Numeral.asciiValue digits : Int) := by
  obtain ⟨some, ascii⟩ := Token.number_of_scan next
  rw [String.toList_ofList, Numeral.evaluate_ascii some ascii, if_neg (by omega)]

end Parser

end Descent
