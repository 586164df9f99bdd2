import Descent.Calculator.Table
import Descent.Proofs.Calculator.Reading
import Descent.Proofs.Calculator.Unsigned
import Descent.Proofs.Choice.Flattening
import Descent.Proofs.Number.Zero
import Descent.Proofs.Parallel.Parser

set_option autoImplicit false

namespace Descent

namespace Parser

variable {α : Type} {text : Text} {i : Nat}

theorem optional_of_failure {p : Parser Empty α} {refusal : Failure}
    (refused : p text i = pure (.failure refusal)) :
    p.optional text i = pure (.success none i) := by
  have mapped : p.map some text i = pure (.failure refusal) := by
    rw [Parser.map, refused, pure_bind]
    rfl
  have default : (Parser.pure none : Parser Empty (Option α)) text i = pure (.success none i) := rfl
  exact orElse_of_failure mapped default

/-- Where the one operator before an operand does not match, nothing changes but where a failure of
the operand is reported. -/
theorem affixed_of_failure {operator : Unary Empty α} {refusal : Failure}
    (refused : operator text i = pure (.failure refusal)) (p : Parser Empty α) :
    affixed [operator] [] p text i = p.anchored text i := by
  have none_before : choice [operator] text i = pure (.failure (refusal.anchor i)) := by
    rw [choice, anchored, firstOf, refused, pure_bind]
    rfl
  have none_after : ∀ stop, (choice ([] : List (Unary Empty α))).optional text stop =
      pure (.success none stop) := fun _ => rfl
  unfold affixed tryMap both Parser.bind
  rw [optional_of_failure none_before]
  funext budget session
  simp only [pure_bind, Action.bind_apply, anchored, Parser.map, none_after]
  cases p text i budget session with
  | done reply later =>
    cases reply with
    | success value stop => rfl
    | failure other => simp [Reply.map, Action.pure_apply]
  | stopped reason later => rfl

end Parser

namespace Calculator

open Arithmetic (Sign)
open Descent.Parser (lexeme symbol spaces pattern choice)

/-- How the faults of the two calculators compare: where the first divides by zero, the second says
so. -/
def Refused (fault fault' : Fault) : Prop :=
  fault.isZeroDivision = true → fault' = .raised .value "Division by zero"

/-- The two calculators run over one text. Failures are compared by where they are reported and
where they come from. -/
def pairing (text : Text) : Parallel Empty Empty where
  sessions _ _ := True
  stops fault _ fault' _ := Refused fault fault'
  first := text
  second := text
  shift := 0
  failures f g := f.pos = g.pos ∧ f.deepest.pos = g.deepest.pos
  anchors pos together := by
    rw [Int.add_zero, Failure.anchor_pos, Failure.anchor_pos, Failure.deepest_anchor,
      Failure.deepest_anchor]
    exact ⟨rfl, together.2⟩

def At (good : Nat → Prop) (pos : Int) : Prop :=
  ∃ i : Nat, pos = i ∧ good i

/-- Parsers that go together over a text, from indices with one property to indices with another. -/
abbrev Together {α β : Type} (text : Text) (before after : Nat → Prop) (values : α → β → Prop)
    (p : Parser Empty α) (q : Parser Empty β) : Prop :=
  (pairing text).Parsers (At before) (At after) values p q

section

variable {α β : Type} {text : Text} {before after : Nat → Prop} {values : α → β → Prop}
  {p : Parser Empty α} {q : Parser Empty β}

theorem success_together {x : α} {y : β} {k : Nat} (holds : values x y) (reached : after k) :
    (pairing text).Replies (At after) values (.success x k) (.success y k) := by
  have together : (pairing text).Replies (At after) values (.success x ((k : Int) + 0))
      (.success y k) := Parallel.Replies.success (k : Int) holds ⟨k, rfl, reached⟩
  rwa [Int.add_zero] at together

/-- Parsers that do nothing but reply go together if their replies do. -/
theorem together_of_replies
    (replies : ∀ i, before i → ∃ reply reply', p text i = pure reply ∧ q text i = pure reply' ∧
      (pairing text).Replies (At after) values reply reply') :
    Together text before after values p q := by
  rintro pos ⟨i, rfl, starts⟩
  obtain ⟨reply, reply', first, second, together⟩ := replies i starts
  show (pairing text).Actions _ (p text ((i : Int) + 0)) (q text i)
  rw [Int.add_zero, first, second]
  exact Pairing.Actions.pure together

/-- A parser that does nothing but reply goes together with itself. -/
theorem together_self
    (replies : ∀ i, before i → (∃ x, ∃ k : Nat, p text i = pure (.success x k) ∧ after k) ∨
      ∃ refusal, p text i = pure (.failure refusal)) :
    Together text before after Eq p p := by
  apply together_of_replies
  intro i starts
  obtain ⟨x, k, replied, reached⟩ | ⟨refusal, replied⟩ := replies i starts
  · exact ⟨_, _, replied, replied, success_together rfl reached⟩
  · exact ⟨_, _, replied, replied, .failure ⟨rfl, rfl⟩⟩

theorem spaces_together (text : Text) :
    Together text (· ≤ text.length) (· ≤ text.length) Eq spaces spaces :=
  together_self fun _ within =>
    .inl ⟨_, _, Parser.spaces_eq within, (text.fresh_pastBlanks within).within⟩

theorem lexeme_together (together : Together text (· ≤ text.length) (· ≤ text.length) values p q) :
    Together text (· ≤ text.length) (· ≤ text.length) values (lexeme p) (lexeme q) :=
  ((spaces_together text).seqRight together).seqLeft (spaces_together text)

theorem symbol_together {c : Char} (blank : isBlank c = false) (digit : isAsciiDigit c = false)
    (within : ∀ i, before i → i ≤ text.length)
    (later : ∀ i j, text.tokens i = .sign c :: text.tokens j → j ≤ text.length → after j) :
    Together text before after Eq (symbol (String.singleton c)) (symbol (String.singleton c)) := by
  apply together_self
  intro i starts
  by_cases next : ∃ rest, text.tokens i = .sign c :: rest
  · obtain ⟨rest, next⟩ := next
    obtain ⟨j, replied, fresh, left⟩ := Parser.symbol_match (within i starts) next
    exact .inl ⟨_, j, replied, later i j (next.trans (by rw [left])) fresh.within⟩
  · exact .inr (Parser.symbol_refuse blank digit (within i starts)
      fun rest same => next ⟨rest, same⟩)

theorem digits_together (text : Text) (label label' : String) :
    Together text (· ≤ text.length) (· ≤ text.length) Eq (pattern label .digits)
      (pattern label' .digits) := by
  apply together_of_replies
  intro i within
  cases found : Pattern.digits.matchEnd? text i with
  | none =>
    exact ⟨_, _, Parser.pattern_of_none within found, Parser.pattern_of_none within found,
      .failure ⟨rfl, rfl⟩⟩
  | some j =>
    exact ⟨_, _, Parser.pattern_of_some within found, Parser.pattern_of_some within found,
      success_together rfl (Pattern.matchEnd_bounds within found).2⟩

theorem evaluate_fault {digits : List Char} {fault : Fault}
    (failed : Numeral.evaluate digits = .error fault) : fault.isZeroDivision = false := by
  unfold Numeral.evaluate at failed
  split at failed <;> cases failed <;> rfl

/-- A result goes together with itself if it is no division by zero. -/
theorem result_together {result : Except Fault α}
    (apart : ∀ fault, result = .error fault → fault.isZeroDivision = false) :
    (pairing text).Results Eq result result := by
  cases result with
  | ok x => exact .ok rfl
  | error fault =>
    refine .error fun _ _ _ refused => ?_
    rw [apart fault rfl] at refused
    cases refused

theorem decimal_together (text : Text) :
    Together text (· ≤ text.length) (· ≤ text.length) Eq Arithmetic.decimal
      (Parser.integer.map .int) := by
  have digits := digits_together text "/[0-9]+/" "integer"
  have evaluated : Together text (· ≤ text.length) (· ≤ text.length) (fun x n => x = Number.int n)
      ((pattern "/[0-9]+/" .digits).tryMap fun s => (Numeral.evaluate s.toList).map Number.int)
      ((pattern "integer" .digits).tryMap fun s => Numeral.evaluate s.toList) := by
    apply digits.tryMap
    rintro s _ rfl
    exact (result_together fun _ => evaluate_fault).map_first fun _ _ same => congrArg _ same
  exact (lexeme_together evaluated).map_second fun _ _ same => same

def operation : Sign → Number → Number → Except Fault Number
  | .plus => Number.add
  | .minus => Number.sub
  | .times => Number.mul
  | .dividedBy => Table.divide

/-- An operation that is never refused itself goes together with itself. -/
theorem combine_together (text : Text) (ints : Int → Int → Number) (floats : Float → Float → Number)
    (x y : Number) :
    (pairing text).Results Eq
      (Number.combine (fun m n => .ok (ints m n)) (fun a b => .ok (floats a b)) x y)
      (Number.combine (fun m n => .ok (ints m n)) (fun a b => .ok (floats a b)) x y) := by
  apply result_together
  intro fault failed
  obtain rfl | ⟨_, _, _, _, done⟩ | ⟨_, _, _, _, done⟩ := Number.combine_error failed
  · rfl
  · cases done
  · cases done

/-- The table refuses a zero divisor itself. Any other divisor it leaves to the division, which then
does not refuse it. -/
theorem divide_together (text : Text) (x y : Number) :
    (pairing text).Results Eq (x.div y) (Table.divide x y) := by
  unfold Table.divide
  cases zero : y.isZero with
  | true =>
    obtain ⟨fault, failed⟩ := Number.div_of_isZero x zero
    rw [failed]
    exact .error fun _ _ _ _ => rfl
  | false =>
    apply result_together
    intro fault failed
    rw [Bool.eq_false_iff]
    intro refused
    rw [Number.isZero_of_div failed refused] at zero
    cases zero

/-- The operations of both calculators give the same, or both are refused. -/
theorem operation_together (text : Text) (s : Sign) (x y : Number) :
    (pairing text).Results Eq (s.apply x y) (operation s x y) := by
  cases s with
  | plus => exact combine_together text _ _ x y
  | minus => exact combine_together text _ _ x y
  | times => exact combine_together text _ _ x y
  | dividedBy => exact divide_together text x y

abbrev entry (s : Sign) : Parser.Binary Empty Number :=
  Table.named s.text (operation s)

variable {s t u : Sign} {i : Nat} {rest : List Token}

theorem named_of_sign {c : Char} (operation : α) (within : i ≤ text.length)
    (next : text.tokens i = .sign c :: rest) :
    (Table.named (String.singleton c) operation : Parser Empty α) text i =
      pure (.success operation (text.pastSign i)) :=
  Parser.map_of_success _ (Parser.symbol_of_sign within next)

theorem named_of_other {c : Char} (blank : isBlank c = false) (digit : isAsciiDigit c = false)
    (operation : α) (within : i ≤ text.length) (absent : ∀ rest, text.tokens i ≠ .sign c :: rest) :
    (Table.named (String.singleton c) operation : Parser Empty α) text i =
      pure (.failure ((Failure.leaf (text.pastBlanks i)
        (some (Parser.textLabel (String.singleton c)))).anchor i)) := by
  rw [Table.named, Parser.map, Parser.symbol_of_other blank digit within absent, pure_bind]
  rfl

theorem entry_of_sign (within : i ≤ text.length) (next : text.tokens i = .sign s.char :: rest) :
    entry s text i = pure (.success (operation s) (text.pastSign i)) := by
  rw [entry, s.text_eq]
  exact named_of_sign (operation s) within next

theorem entry_of_other (within : i ≤ text.length)
    (absent : ∀ rest, text.tokens i ≠ .sign s.char :: rest) :
    entry s text i = pure (.failure ((Failure.leaf (text.pastBlanks i)
      (some (Parser.textLabel s.text))).anchor i)) := by
  rw [entry, s.text_eq]
  exact named_of_other s.not_blank s.not_digit (operation s) within absent

theorem entries_of_sign (joins : u = s ∨ u = t) (within : i ≤ text.length)
    (next : text.tokens i = .sign u.char :: rest) :
    choice [entry s, entry t] text i = pure (.success (operation u) (text.pastSign i)) := by
  rw [Parser.choice_pair]
  apply Arithmetic.orElse_of_sign joins (entry_of_sign within next)
  intro v other
  refine ⟨_, entry_of_other within ?_⟩
  intro others next'
  have same_char := Token.sign.inj (List.cons.inj (next.symm.trans next')).1
  exact other (Arithmetic.Sign.char_injective same_char).symm

theorem entries_of_other (within : i ≤ text.length)
    (absent : SignTable.Stops [s.char, t.char] (text.tokens i)) :
    choice [entry s, entry t] text i = pure (.failure ((Failure.leaf (text.pastBlanks i)
      (some (Parser.textLabel t.text))).anchor i)) := by
  have other : ∀ u : Sign, u.char ∈ [s.char, t.char] → entry u text i =
      pure (.failure ((Failure.leaf (text.pastBlanks i)
        (some (Parser.textLabel u.text))).anchor i)) :=
    fun u listed => entry_of_other within fun others next => absent u.char others next listed
  have second := Parser.orElse_of_failure (other s List.mem_cons_self)
    (other t (List.mem_cons_of_mem _ List.mem_cons_self))
  rwa [Reply.anchor_failure, Failure.anchor_anchor, ← Parser.choice_pair] at second

/-- Whichever of two signs comes next, both calculators take it; if neither does, both refuse. -/
theorem signs_together (unsigned : text.Unsigned) (s t : Sign) :
    Together text (· ≤ text.length) text.Operand (fun u f => f = operation u)
      (Arithmetic.oneSign s t) (choice [entry s, entry t]) := by
  apply together_of_replies
  intro i within
  obtain ⟨u, rest, joins, next⟩ | absent := Arithmetic.oneSign_cases s t (text.tokens i)
  · obtain ⟨_, fresh, left⟩ := Text.pastSign_of_sign next
    have listed : u.char ∈ ['(', '+', '-', '*', '/'] := by cases u <;> decide
    refine ⟨_, _, Arithmetic.oneSign_of_sign joins within next, entries_of_sign joins within next,
      success_together rfl (unsigned.operand_after listed (left ▸ next) fresh.within)⟩
  · exact ⟨_, _, Arithmetic.oneSign_of_other within absent, entries_of_other within absent,
      .failure ⟨rfl, rfl⟩⟩

/-- A number or what stands in parentheses, given that both calculators agree on that. -/
theorem factor_together (unsigned : text.Unsigned) {sum whole : Parser Empty Number}
    (inner : Together text text.Operand (· ≤ text.length) Eq sum whole) :
    Together text text.Operand (· ≤ text.length) Eq (Arithmetic.factor sum) (Table.term whole) := by
  have opening : Together text text.Operand text.Operand Eq (symbol "(") (symbol "(") :=
    symbol_together (c := '(') (by decide) (by decide) (fun _ operand => operand.within)
      fun _ _ next inside => unsigned.operand_after (by decide) next inside
  have closing : Together text (· ≤ text.length) (· ≤ text.length) Eq (symbol ")") (symbol ")") :=
    symbol_together (c := ')') (by decide) (by decide) (fun _ inside => inside)
      fun _ _ _ inside => inside
  have number : Together text text.Operand (· ≤ text.length) Eq Arithmetic.decimal
      (Parser.integer.map .int) :=
    (decimal_together text).mono (fun _ ⟨i, same, operand⟩ => ⟨i, same, operand.within⟩)
      (fun _ reached => reached) fun _ _ same => same
  rw [Arithmetic.factor_eq]
  exact ((opening.seqRight inner).seqLeft closing).orElse number

/-- The row that takes a minus sign never does. -/
theorem affixed_together {p q : Parser Empty Number}
    (operand : Together text text.Operand (· ≤ text.length) Eq p.anchored q.anchored) :
    Together text text.Operand (· ≤ text.length) Eq p.anchored
      (Parser.affixed [Table.named "-" Table.negate] [] q) := by
  rintro pos ⟨i, rfl, starts⟩
  have refused := named_of_other (c := '-') (by decide) (by decide) Table.negate starts.within
    starts.unsigned
  have row : Parser.affixed [Table.named "-" Table.negate] [] q text i = q.anchored text i :=
    Parser.affixed_of_failure refused q
  show (pairing text).Actions _ (p.anchored text ((i : Int) + 0))
    (Parser.affixed [Table.named "-" Table.negate] [] q text i)
  rw [row]
  exact operand i ⟨i, rfl, starts⟩

/-- Chains of operands on which both calculators agree. -/
theorem chained_together (unsigned : text.Unsigned) (s t : Sign) {p q : Parser Empty Number}
    (operand : Together text text.Operand (· ≤ text.length) Eq p q) :
    Together text text.Operand (· ≤ text.length) Eq (Arithmetic.chained s t p)
      (Parser.chainl1 q (choice [entry s, entry t])) := by
  have link := (signs_together unsigned s t).both operand
  apply (operand.both link.many).tryMap
  rintro ⟨x, links⟩ ⟨_, links'⟩ ⟨rfl, alike⟩
  show (pairing text).Results Eq (Arithmetic.fold x links) (Parser.foldLeft x links')
  change List.Forall₂ _ links links' at alike
  induction alike generalizing x with
  | nil => exact .ok rfl
  | @cons link link' _ _ holds _ ih =>
    obtain ⟨u, y⟩ := link
    obtain ⟨f, _⟩ := link'
    obtain ⟨rfl, rfl⟩ := holds
    apply (operation_together text u x y).bind
    rintro z _ rfl
    exact ih z

/-- Both calculators agree if they do on what stands in parentheses. -/
theorem body_together (unsigned : text.Unsigned) {sum whole : Parser Empty Number}
    (inner : Together text text.Operand (· ≤ text.length) Eq sum whole) :
    Together text text.Operand (· ≤ text.length) Eq (Arithmetic.sumBody sum)
      (Table.body whole) := by
  have factor := (factor_together unsigned inner).anchored
  have operand := affixed_together factor
  rw [Arithmetic.factor_eq, Parser.orElse_anchored, ← Arithmetic.factor_eq] at operand
  exact chained_together unsigned .plus .minus
    (chained_together unsigned .times .dividedBy operand)

/-- The two calculators go together wherever an operand may be read. -/
theorem expressions_together (unsigned : text.Unsigned) :
    Together text text.Operand (· ≤ text.length) Eq Arithmetic.expression Table.expression :=
  Parallel.Parsers.fix (fun _ _ inner _ => body_together unsigned (inner ())) ()

end

end Calculator

end Descent
