import Descent.Fault
import Mathlib.Data.List.TakeWhile

set_option autoImplicit false

namespace Descent

/-- What holds of each of the ten ASCII digits holds of every ASCII digit. -/
@[elab_as_elim]
theorem forall_asciiDigit {motive : Char → Prop} {c : Char} (digit : isAsciiDigit c = true)
    (each : ∀ n < 10, motive (Char.ofNat (48 + n))) : motive c := by
  have range : 0x30 ≤ c.toNat ∧ c.toNat ≤ 0x39 := (CodeRange.contains_iff _ c).mp digit
  have holds := each (c.toNat - 48) (by omega)
  rw [show 48 + (c.toNat - 48) = c.toNat by omega, Char.ofNat_toNat] at holds
  exact holds

theorem isDecimal_of_isAsciiDigit {c : Char} (digit : isAsciiDigit c = true) :
    isDecimal c = true := by
  have all : ∀ n < 10, isDecimal (Char.ofNat (48 + n)) = true := by decide
  exact forall_asciiDigit digit all

theorem decimalValue_of_isAsciiDigit {c : Char} (digit : isAsciiDigit c = true) :
    decimalValue? c = some (c.toNat - '0'.toNat) := by
  have all : ∀ n < 10, decimalValue? (Char.ofNat (48 + n)) =
      some ((Char.ofNat (48 + n)).toNat - '0'.toNat) := by decide
  exact forall_asciiDigit digit all

theorem not_isBlank_of_isAsciiDigit {c : Char} (digit : isAsciiDigit c = true) :
    isBlank c = false := by
  have all : ∀ n < 10, isBlank (Char.ofNat (48 + n)) = false := by decide
  exact forall_asciiDigit digit all

theorem ne_of_isAsciiDigit {c d : Char} (digit : isAsciiDigit c = true)
    (other : isAsciiDigit d = false) : c ≠ d := by
  intro same
  rw [same, other] at digit
  cases digit

namespace Numeral

def asciiValue (digits : List Char) : Nat :=
  digits.foldl (fun value digit => 10 * value + (digit.toNat - '0'.toNat)) 0

variable {digits : List Char}

theorem filterMap_decimalValue (ascii : ∀ c ∈ digits, isAsciiDigit c = true) :
    digits.filterMap decimalValue? = digits.map fun c => c.toNat - '0'.toNat := by
  induction digits with
  | nil => rfl
  | cons c rest ih =>
    have value := decimalValue_of_isAsciiDigit (ascii c List.mem_cons_self)
    rw [List.filterMap_cons_some value, List.map_cons,
      ih fun d member => ascii d (List.mem_cons_of_mem c member)]

theorem digitsValue_eq_asciiValue (ascii : ∀ c ∈ digits, isAsciiDigit c = true) :
    digitsValue digits = asciiValue digits := by
  rw [digitsValue, filterMap_decimalValue ascii, List.foldl_map, asciiValue]

theorem grouped_of_ascii (some : digits ≠ []) (ascii : ∀ c ∈ digits, isAsciiDigit c = true) :
    grouped digits = true := by
  induction digits with
  | nil => exact absurd rfl some
  | cons c rest ih =>
    have decimal := isDecimal_of_isAsciiDigit (ascii c List.mem_cons_self)
    cases rest with
    | nil => exact decimal
    | cons d others =>
      have low_line : isAsciiDigit '_' = false := by decide
      have not_low_line := ne_of_isAsciiDigit (ascii d (by simp)) low_line
      rw [grouped, decimal, if_neg not_low_line, Bool.true_and]
      exact ih (List.cons_ne_nil _ _) fun e member => ascii e (List.mem_cons_of_mem c member)

theorem readUnsigned_ascii (some : digits ≠ []) (ascii : ∀ c ∈ digits, isAsciiDigit c = true) :
    readUnsigned digits =
      if maxDigits < digits.length then .error (.tooLong digits.length)
      else .ok (asciiValue digits) := by
  have inner : ∀ c ∈ digits, isInner c = true := by
    intro c member
    rw [isInner, isDecimal_of_isAsciiDigit (ascii c member), Bool.or_true]
  have run : digits.takeWhile isInner = digits := List.takeWhile_eq_self_iff.mpr inner
  have rest : digits.dropWhile isInner = [] := List.dropWhile_eq_nil_iff.mpr inner
  have decimals : digits.filter isDecimal = digits :=
    List.filter_eq_self.mpr fun c member => isDecimal_of_isAsciiDigit (ascii c member)
  simp only [readUnsigned, run, rest, decimals, grouped_of_ascii some ascii,
    digitsValue_eq_asciiValue ascii]
  rfl

theorem read_ascii (some : digits ≠ []) (ascii : ∀ c ∈ digits, isAsciiDigit c = true) :
    read digits = (readUnsigned digits).map Int.ofNat := by
  cases digits with
  | nil => exact absurd rfl some
  | cons c rest =>
    have digit := ascii c List.mem_cons_self
    have not_padding : isPadding c = false := by
      rw [isPadding, not_isBlank_of_isAsciiDigit digit, Bool.false_and]
    have not_minus := ne_of_isAsciiDigit digit (show isAsciiDigit '-' = false by decide)
    have not_plus := ne_of_isAsciiDigit digit (show isAsciiDigit '+' = false by decide)
    rw [read, List.dropWhile_cons, not_padding]
    split
    · rename_i same
      exact absurd (List.cons.inj same).1 not_minus
    · rename_i same
      exact absurd (List.cons.inj same).1 not_plus
    · rename_i same _ _
      rfl

/-- A row of ASCII digits is evaluated to the number that it spells, unless it is too long. -/
theorem evaluate_ascii (some : digits ≠ []) (ascii : ∀ c ∈ digits, isAsciiDigit c = true) :
    evaluate digits =
      if maxDigits < digits.length then .error (.numeralTooLong digits.length)
      else .ok (asciiValue digits : Int) := by
  rw [evaluate, read_ascii some ascii, readUnsigned_ascii some ascii]
  by_cases long : maxDigits < digits.length
  · rw [if_pos long, if_pos long]
    rfl
  · rw [if_neg long, if_neg long]
    rfl

end Numeral

end Descent
