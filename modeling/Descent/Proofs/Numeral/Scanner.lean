import Descent.Grammar.Meaning
import Descent.Proofs.Parser.Mapping
import Descent.Proofs.Table.Lexeme
import Descent.Proofs.Translation.Text
import Mathlib.Data.List.Basic
import Mathlib.Data.Nat.Digits.Defs

set_option autoImplicit false

namespace Descent

/-- The characters from `start` to `stop` are of a kind, and none of the kind comes next. -/
structure Text.LongestRun (text : Text) (kind : Char → Bool) (start stop : Nat) : Prop where
  ordered : start ≤ stop
  within : stop ≤ text.length
  inside : ∀ c ∈ text.slice start stop, kind c = true
  ended : ∀ c, text.char? stop = some c → kind c = false

namespace Text.LongestRun

variable {text : Text} {kind : Char → Bool} {start stop : Nat}

theorem of_takeWhile (kind : Char → Bool) (within : start ≤ text.length) :
    text.LongestRun kind start (start + ((text.remaining start).takeWhile kind).length) := by
  have inside := text.takeWhile_within kind within
  refine ⟨Nat.le_add_right _ _, inside, fun c member => ?_, fun c next => ?_⟩
  · rw [slice_of_mem within inside, Nat.add_sub_cancel_left,
      ← List.prefix_iff_eq_take.mp (List.takeWhile_prefix kind)] at member
    exact List.mem_takeWhile_imp member
  · rw [char?_eq_head, remaining_takeWhile] at next
    have other := Token.head_dropWhile kind (text.remaining start)
    rw [next] at other
    exact other

theorem exists_of_le (kind : Char → Bool) (within : start ≤ text.length) :
    ∃ stop, text.LongestRun kind start stop :=
  ⟨_, of_takeWhile kind within⟩

theorem slice_eq (run : text.LongestRun kind start stop) :
    text.slice start stop = (text.remaining start).takeWhile kind := by
  rw [← slice_append_remaining run.ordered run.within]
  refine (takeWhile_exact run.inside fun c next => run.ended c ?_).symm
  rw [char?_eq_head, next]

/-- A longest run ends in one place only. -/
theorem stop_eq (run : text.LongestRun kind start stop) :
    stop = start + ((text.remaining start).takeWhile kind).length := by
  have count := length_slice run.ordered run.within
  have ordered := run.ordered
  rw [run.slice_eq] at count
  omega

theorem ofList {before run after : List Char} (inside : ∀ c ∈ run, kind c = true)
    (ended : ∀ c, after.head? = some c → kind c = false) :
    (Text.ofList (before ++ run ++ after)).LongestRun kind before.length
      (before ++ run).length := by
  rw [List.append_assoc]
  have longest := of_takeWhile kind (le_length_ofList before (run ++ after))
  rwa [remaining_ofList, takeWhile_exact inside ended, ← List.length_append] at longest

end Text.LongestRun

namespace Parser

variable {σ α : Type} {text : Text} {i j k pos : Nat}

theorem pastBlanks_of_run (blanks : text.LongestRun isBlank pos i) : text.pastBlanks pos = i :=
  blanks.stop_eq.symm

/-- The pattern of digits takes a whole run of them. -/
theorem digits_of_run (expected : String) (digits : text.LongestRun isAsciiDigit i j)
    (some : i < j) :
    (pattern expected .digits : Parser σ String) text i =
      Pure.pure (.success (String.ofList (text.slice i j)) j) := by
  have within : i ≤ text.length := Nat.le_trans digits.ordered digits.within
  have stop := digits.stop_eq
  have nonempty : (text.remaining i).takeWhile isAsciiDigit ≠ [] :=
    List.length_pos_iff.mp (by omega)
  rw [digits_of_some expected within nonempty, ← stop, digits.slice_eq]

theorem evaluate_of_run (digits : text.LongestRun isAsciiDigit i j) (some : i < j) :
    Numeral.evaluate (String.ofList (text.slice i j)).toList =
      if Numeral.maxDigits < j - i then .error (.numeralTooLong (j - i))
      else .ok (Nat.ofDigitChars 10 (text.slice i j) 0 : Int) := by
  have count := Text.length_slice digits.ordered digits.within
  have nonempty : text.slice i j ≠ [] := List.length_pos_iff.mp (by omega)
  rw [String.toList_ofList, Numeral.evaluate_ascii nonempty digits.inside, count]
  rfl

variable (within : pos ≤ text.length) (front : text.LongestRun isBlank pos i)

include within front

theorem integer_of_short (digits : text.LongestRun isAsciiDigit i j)
    (back : text.LongestRun isBlank j k) (some : i < j) (short : j - i ≤ Numeral.maxDigits) :
    (integer : Parser σ Int) text pos =
      Pure.pure (.success (Nat.ofDigitChars 10 (text.slice i j) 0) k) := by
  have value := evaluate_of_run digits some
  rw [if_neg (by omega)] at value
  rw [← pastBlanks_of_run back]
  refine lexeme_of_success within ?_ digits.within
  rw [pastBlanks_of_run front, tryMap_of_success _ (digits_of_run "integer" digits some), value]
  rfl

theorem integer_of_long (digits : text.LongestRun isAsciiDigit i j)
    (long : Numeral.maxDigits < j - i) :
    (integer : Parser σ Int) text pos = Action.raise (.numeralTooLong (j - i)) := by
  have some : i < j := by omega
  have refused := evaluate_of_run digits some
  rw [if_pos long] at refused
  refine lexeme_of_raise within ?_
  rw [pastBlanks_of_run front]
  exact tryMap_of_error (digits_of_run "integer" digits some) refused

theorem integer_of_none (digits : text.LongestRun isAsciiDigit i i) :
    (integer : Parser σ Int) text pos =
      Pure.pure (.failure ((Failure.leaf i (some "integer")).anchor pos)) := by
  have stop := digits.stop_eq
  have none : (text.remaining i).takeWhile isAsciiDigit = [] :=
    List.eq_nil_of_length_eq_zero (by omega)
  refine lexeme_of_failure within ?_
  rw [pastBlanks_of_run front]
  exact tryMap_of_failure _ (digits_of_none "integer" digits.within none)

omit within front

theorem not_isAsciiDigit_of_isBlank {c : Char} (blank : isBlank c = true) :
    isAsciiDigit c = false := by
  cases digit : isAsciiDigit c with
  | false => rfl
  | true => rw [not_isBlank_of_isAsciiDigit digit] at blank; cases blank

/-- Digits with blanks around them are read, whatever stands before them. After them stands neither
a blank nor a digit. -/
theorem integer_of_digits (before : List Char) {front digits back after : List Char}
    (front_blank : ∀ c ∈ front, isBlank c = true) (ascii : ∀ c ∈ digits, isAsciiDigit c = true)
    (nonempty : digits ≠ []) (short : digits.length ≤ Numeral.maxDigits)
    (back_blank : ∀ c ∈ back, isBlank c = true)
    (ended : ∀ c, after.head? = some c → isBlank c = false ∧ isAsciiDigit c = false) :
    (integer : Parser σ Int)
      (Text.ofList (before ++ front ++ digits ++ back ++ after)) before.length =
      Pure.pure (.success (Nat.ofDigitChars 10 digits 0)
        (before ++ front ++ digits ++ back).length) := by
  generalize same : Text.ofList (before ++ front ++ digits ++ back ++ after) = text
  -- each run ends where the next begins: a digit is no blank, and a blank is no digit
  have front_run : text.LongestRun isBlank before.length (before ++ front).length := by
    rw [← same, List.append_assoc (before ++ front ++ digits), List.append_assoc (before ++ front)]
    refine .ofList front_blank fun c next => not_isBlank_of_isAsciiDigit (ascii c ?_)
    rw [List.head?_append_of_ne_nil digits nonempty] at next
    exact List.mem_of_head? next
  have digits_run : text.LongestRun isAsciiDigit (before ++ front).length
      (before ++ front ++ digits).length := by
    rw [← same, List.append_assoc (before ++ front ++ digits)]
    refine .ofList ascii fun c next => ?_
    cases back with
    | nil => exact (ended c next).2
    | cons b rest =>
      obtain rfl : b = c := Option.some.inj next
      exact not_isAsciiDigit_of_isBlank (back_blank b List.mem_cons_self)
  have back_run : text.LongestRun isBlank (before ++ front ++ digits).length
      (before ++ front ++ digits ++ back).length := by
    rw [← same]
    exact .ofList back_blank fun c next => (ended c next).1
  have within : before.length ≤ text.length := by
    rw [← same]
    simp only [List.append_assoc]
    exact Text.le_length_ofList before _
  have read : text.slice (before ++ front).length (before ++ front ++ digits).length = digits := by
    rw [← same, List.append_assoc (before ++ front ++ digits)]
    exact Text.slice_ofList (before ++ front) digits (back ++ after)
  have count : (before ++ front ++ digits).length - (before ++ front).length = digits.length := by
    simp only [List.length_append]
    omega
  have some := List.length_pos_iff.mpr nonempty
  have value := integer_of_short (σ := σ) within front_run digits_run back_run (by omega) (by omega)
  rwa [read] at value

/-- Integers that are not too long are written with the digits of the decimal system. -/
theorem write_natural {n : Nat} (small : n < 10 ^ Numeral.maxDigits) :
    Value.write (.int n) = .ok (String.ofList (Nat.toDigits 10 n)) := by
  have written : Value.write (.int n) = Value.writeInt n := by
    rw [Value.write, Value.writeItem]
    exact fun s same => nomatch same
  rw [written, Value.writeInt, Nat.pow_eq, Int.natAbs_natCast, if_neg (Nat.not_le.mpr small)]
  rfl

theorem isAsciiDigit_of_toDigits {n : Nat} {c : Char} (member : c ∈ Nat.toDigits 10 n) :
    isAsciiDigit c = true := by
  have digit := Nat.isDigit_of_mem_toDigits (by decide) (by decide) member
  rw [Char.isDigit, Bool.and_eq_true, decide_eq_true_eq, decide_eq_true_eq] at digit
  exact (CodeRange.contains_iff _ c).mpr digit

theorem lexeme_map {β : Type} (f : α → β) (p : Parser σ α) :
    lexeme (p.map f) = (lexeme p).map f := by
  have inner : spaces.seqRight (p.map f) = (spaces.seqRight p).map f := (map_bind spaces _ f).symm
  simp only [lexeme, between, inner, seqLeft, bind_map, map_bind, map_map]

end Parser

namespace Grammar

variable {rules : Rules}

theorem lexeme_meaning (p : Grammar) :
    (lexeme p).meaning rules = Parser.lexeme (p.meaning rules) := by
  show ((Parser.spaces.map Value.str).bind fun _ => p.meaning rules).bind
    (fun value => (Parser.spaces.map Value.str).tryMap fun _ => .ok value) = _
  simp only [Parser.bind_map, Parser.tryMap_map, Parser.tryMap_ok]
  rfl

theorem integer_meaning (rules : Rules) : integer.meaning rules = Parser.integer.map .int := by
  have digits : (map (pattern "integer" .digits) Transform.toInteger).meaning rules =
      ((Parser.pattern "integer" .digits).tryMap fun s => Numeral.evaluate s.toList).map .int := by
    rw [← Parser.tryMap_exceptMap]
    exact Parser.tryMap_map Value.str Transform.toInteger _
  rw [integer, lexeme_meaning, digits, Parser.lexeme_map]
  rfl

/-- Integers are read exactly. From every place of a text on stand some blanks, then some digits,
then some blanks again, each as many as there are, maybe none. If there are digits but not too many,
the grammar of integers yields the number that they spell and stops past the last blanks. Too many
digits are a fault. Without a digit the grammar fails at its start, and the innermost cause is where
the digits should be. So what an integer is written as is read back, with any blanks around it and
wherever it stands, if neither a blank nor a digit comes next. -/
theorem integer_exact (rules : Rules) :
    (∀ (text : Text) (pos : Nat), pos ≤ text.length → ∃ i j k : Nat,
      text.LongestRun isBlank pos i ∧ text.LongestRun isAsciiDigit i j ∧
      text.LongestRun isBlank j k ∧
      (i < j → j - i ≤ Numeral.maxDigits → integer.meaning rules text pos =
        Pure.pure (.success (.int (Nat.ofDigitChars 10 (text.slice i j) 0)) k)) ∧
      (Numeral.maxDigits < j - i →
        integer.meaning rules text pos = Action.raise (.numeralTooLong (j - i))) ∧
      (i = j → ∃ refusal, integer.meaning rules text pos = Pure.pure (.failure refusal) ∧
        refusal.pos = pos ∧ refusal.expected = some "integer" ∧
        refusal.deepest = .leaf i (some "integer"))) ∧
    ∀ n : Nat, n < 10 ^ Numeral.maxDigits →
      ∃ written : String, Value.write (.int n) = .ok written ∧
        ∀ before front back after : List Char, (∀ c ∈ front, isBlank c = true) →
          (∀ c ∈ back, isBlank c = true) →
          (∀ c, after.head? = some c → isBlank c = false ∧ isAsciiDigit c = false) →
          integer.meaning rules
              (Text.ofList (before ++ front ++ written.toList ++ back ++ after)) before.length =
            Pure.pure (.success (.int n) (before ++ front ++ written.toList ++ back).length) := by
  rw [integer_meaning]
  constructor
  · intro text pos within
    obtain ⟨i, front⟩ := Text.LongestRun.exists_of_le isBlank within
    obtain ⟨j, digits⟩ := Text.LongestRun.exists_of_le isAsciiDigit front.within
    obtain ⟨k, back⟩ := Text.LongestRun.exists_of_le isBlank digits.within
    refine ⟨i, j, k, front, digits, back, fun some short => ?matched, fun long => ?long, ?refused⟩
    case matched =>
      exact Parser.map_of_success _ (Parser.integer_of_short within front digits back some short)
    case long =>
      rw [Parser.map, Parser.integer_of_long within front digits long]
      rfl
    case refused =>
      rintro rfl
      refine ⟨(Failure.leaf i (some "integer")).anchor pos, ?_, Failure.anchor_pos _ _,
        Failure.anchor_expected _ _, Failure.deepest_anchor _ _⟩
      rw [Parser.map, Parser.integer_of_none within front digits, pure_bind]
      rfl
  · intro n small
    refine ⟨_, Parser.write_natural small, ?_⟩
    intro before front back after front_blank back_blank ended
    have short := Nat.toDigits_length 10 n Numeral.maxDigits (by decide) small
    have read := Parser.integer_of_digits (σ := Resolved rules) before front_blank
      (fun c => Parser.isAsciiDigit_of_toDigits) Nat.toDigits_ne_nil short back_blank ended
    rw [Nat.ofDigitChars_ten_toDigits] at read
    rw [String.toList_ofList]
    exact Parser.map_of_success _ read

/-- Zeros may come first, a letter is refused past the blanks before it, and one digit more than
there may be is a fault. -/
theorem sevens_exact :
    let text := Text.ofString " 007\t x"
    let sevens := Text.ofList (List.replicate 4301 '7')
    integer.meaning .none text (0 : Nat) = Pure.pure (.success (.int 7) 6) ∧
      (∃ refusal, integer.meaning .none text (4 : Nat) = Pure.pure (.failure refusal) ∧
        refusal.pos = 4 ∧ refusal.expected = some "integer" ∧
        refusal.deepest = .leaf 6 (some "integer")) ∧
      integer.meaning .none sevens (0 : Nat) = Action.raise (.numeralTooLong 4301) ∧
      integer.meaning .none (Text.ofList "a 42 b".toList) (1 : Nat) =
        Pure.pure (.success (.int 42) 5) := by
  intro text sevens
  obtain ⟨scans, reads⟩ := integer_exact .none
  refine ⟨?_, ?_, ?_, ?_⟩
  · obtain ⟨i, j, k, front, digits, back, matched, -, -⟩ := scans text 0 (by decide)
    obtain rfl : i = 1 := front.stop_eq
    obtain rfl : j = 4 := digits.stop_eq
    obtain rfl : k = 6 := back.stop_eq
    exact matched (by decide) (by decide)
  · obtain ⟨i, j, k, front, digits, -, -, -, refused⟩ := scans text 4 (by decide)
    obtain rfl : i = 6 := front.stop_eq
    obtain rfl : j = 6 := digits.stop_eq
    exact refused rfl
  · obtain ⟨i, j, k, front, digits, -, -, long, -⟩ := scans sevens 0 (Nat.zero_le _)
    obtain rfl : i = 0 := front.stop_eq
    have every : (sevens.remaining 0).takeWhile isAsciiDigit = List.replicate 4301 '7' :=
      List.takeWhile_replicate
    obtain rfl : j = 4301 := by
      rw [digits.stop_eq, every, List.length_replicate]
    exact long (by decide)
  · have small : 42 < 10 ^ Numeral.maxDigits :=
      Nat.lt_of_lt_of_le (by decide : 42 < 10 ^ 2) (Nat.pow_le_pow_right (by decide) (by decide))
    obtain ⟨written, spelled, read⟩ := reads 42 small
    obtain rfl := Except.ok.inj ((Parser.write_natural small).symm.trans spelled)
    have blank : ∀ c ∈ [' '], isBlank c = true := by
      intro c member
      cases List.mem_singleton.mp member
      decide
    exact read ['a'] [' '] [' '] ['b'] blank blank (by rintro c ⟨⟩; decide)

end Grammar

end Descent
