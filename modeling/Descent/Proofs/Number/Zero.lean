import Descent.Number.Basic
import Mathlib

set_option autoImplicit false

namespace Descent

namespace Binary64

open Float.Model (Format)
open Float.Model.UnpackedFloat (isNaNBits pack_unpack unpackExponent)

/-- Bits that, without the sign, are less than those of an infinity are the bits of their double. -/
theorem toBits_ofBits {bits : UInt64} (finite : bits.toNat % 2 ^ 63 < 0x7FF0000000000000) :
    (Float.ofBits bits).toBits = bits := by
  have exponent : (@unpackExponent Format.binary64 bits.toBitVec).toNat =
      bits.toNat / 2 ^ 52 % 2 ^ 11 := by
    simp [unpackExponent, Nat.shiftRight_eq_div_pow]
  have number : @isNaNBits Format.binary64 bits.toBitVec = false := by
    apply decide_eq_false
    rintro ⟨infinite, _⟩
    rw [infinite] at exponent
    change 2047 = _ at exponent
    omega
  apply UInt64.toBitVec_inj.mp
  exact (@pack_unpack Format.binary64 bits.toBitVec (by decide)).trans (by rw [number]; rfl)

/-- A double that is equal to zero has no bits but its sign. -/
theorem toBits_of_eq_zero {x : Float} (zero : (x == 0) = true) : x.toBits.toNat % 2 ^ 63 = 0 := by
  obtain ⟨_, _, rfl | ⟨rfl, _⟩ | ⟨rfl, _⟩⟩ := Float.beq_iff_ne_nan_and_eq.mp zero <;> rfl

theorem ofBits_eq_zero {negative : Bool} {bits : Nat} (finite : bits < 0x7FF0000000000000)
    (zero : (ofBits negative bits == 0) = true) : bits = 0 := by
  have magnitude : (UInt64.ofNat (if negative then bits + 1 <<< 63 else bits)).toNat % 2 ^ 63 =
      bits := by
    change (if negative then bits + 2 ^ 63 else bits) % 2 ^ 64 % 2 ^ 63 = bits
    split <;> omega
  have none := toBits_of_eq_zero zero
  rw [ofBits, toBits_ofBits (by rw [magnitude]; exact finite), magnitude] at none
  exact none

/-- A significand that is not zero has a double that is not zero, at a place that doubles have. -/
theorem encode?_bounds {significand bits : Nat} {place : Int} (some : significand ≠ 0)
    (least : -1074 ≤ place) (encoded : encode? significand place = .some bits) :
    bits ≠ 0 ∧ bits < 0x7FF0000000000000 := by
  have biased : 1 ≤ (place + 1075).toNat := by omega
  unfold encode? at encoded
  simp only [Nat.shiftLeft_eq] at encoded
  split at encoded
  · obtain rfl := Option.some.inj encoded
    omega
  · split at encoded
    · obtain rfl := Option.some.inj encoded
      omega
    · cases encoded

theorem roundedQuotient_ge (numerator denominator : Nat) :
    numerator / denominator ≤ roundedQuotient numerator denominator := by
  unfold roundedQuotient
  dsimp only
  split
  · exact Nat.le_refl _
  · split <;> omega

theorem lastPlace_one (n : Nat) : -1074 ≤ lastPlace n 1 ∧ lastPlace n 1 ≤ n.log2 := by
  have one : Nat.log2 1 = 0 := by decide
  unfold lastPlace
  rw [one]
  dsimp only
  split <;> omega

/-- An integer is rounded at a place that it reaches. -/
theorem scaled_lastPlace_pos {n : Nat} (some : n ≠ 0) :
    1 ≤ (scaled n 1 (lastPlace n 1)).1 / (scaled n 1 (lastPlace n 1)).2 := by
  have place := (lastPlace_one n).2
  unfold scaled
  split
  · rw [Nat.div_one, Nat.shiftLeft_eq]
    exact Nat.mul_pos (Nat.pos_of_ne_zero some) (Nat.two_pow_pos _)
  · rw [Nat.shiftLeft_eq, Nat.one_mul, Nat.one_le_div_iff (Nat.two_pow_pos _)]
    calc 2 ^ (lastPlace n 1).toNat ≤ 2 ^ n.log2 :=
          Nat.pow_le_pow_right Nat.two_pos (by omega)
      _ ≤ n := Nat.log2_self_le some

/-- The double of an integer is equal to zero only if the integer is. -/
theorem ofInt?_eq_zero {n : Int} {x : Float} (rounded : ofInt? n = some x)
    (zero : (x == 0) = true) : n = 0 := by
  apply Decidable.byContradiction
  intro some
  obtain ⟨bits, encoded, rfl⟩ := Option.map_eq_some_iff.mp rounded
  have magnitude : n.natAbs ≠ 0 := Int.natAbs_ne_zero.mpr some
  unfold quotientBits? at encoded
  rw [if_neg magnitude] at encoded
  have significand := Nat.le_trans (scaled_lastPlace_pos magnitude) (roundedQuotient_ge _ _)
  have bounds := encode?_bounds (Nat.one_le_iff_ne_zero.mp significand)
    (lastPlace_one n.natAbs).1 encoded
  exact bounds.1 (ofBits_eq_zero bounds.2 zero)

end Binary64

def Fault.isZeroDivision : Fault → Bool
  | zeroDivisor _ _ => true
  | zeroToNegative => true
  | _ => false

namespace Number

/-- A number and its double are zero together. -/
theorem toFloat_eq_zero {y : Number} {b : Float} (rounded : y.toFloat = .ok b) :
    (b == 0) = y.isZero := by
  cases y with
  | float x =>
    cases rounded
    rfl
  | int n =>
    simp only [toFloat] at rounded
    split at rounded
    · rename_i found
      cases rounded
      by_cases none : n = 0
      · subst none
        cases found
        decide
      · have apart : (b == 0) = false :=
          Bool.eq_false_iff.mpr fun zero => none (Binary64.ofInt?_eq_zero found zero)
        rw [apart]
        exact (beq_eq_false_iff_ne.mpr none).symm
    · cases rounded

theorem toFloat_fault {x : Number} {fault : Fault} (failed : x.toFloat = .error fault) :
    fault = .integerTooLarge := by
  cases x with
  | float x => cases failed
  | int n =>
    simp only [toFloat] at failed
    split at failed
    · cases failed
    · cases failed
      rfl

/-- Two numbers are combined as integers, or as the doubles of the numbers. -/
theorem combine_cases (ints : Int → Int → Except Fault Number)
    (floats : Float → Float → Except Fault Number) (x y : Number) :
    (∃ m n, x = int m ∧ y = int n ∧ combine ints floats x y = ints m n) ∨
    combine ints floats x y = (do
      let a ← x.toFloat
      let b ← y.toFloat
      floats a b) := by
  cases x with
  | float a => exact .inr rfl
  | int m =>
    cases y with
    | float b => exact .inr rfl
    | int n => exact .inl ⟨m, n, rfl, rfl, rfl⟩

/-- Two numbers are not combined if one of them has no double, or if what they are combined by does
not work on them. -/
theorem combine_error {ints : Int → Int → Except Fault Number}
    {floats : Float → Float → Except Fault Number} {x y : Number} {fault : Fault}
    (failed : combine ints floats x y = .error fault) :
    fault = .integerTooLarge ∨
    (∃ m n, x = int m ∧ y = int n ∧ ints m n = .error fault) ∨
    ∃ a b, x.toFloat = .ok a ∧ y.toFloat = .ok b ∧ floats a b = .error fault := by
  obtain ⟨m, n, rfl, rfl, same⟩ | same := combine_cases ints floats x y
  · exact .inr (.inl ⟨m, n, rfl, rfl, same.symm.trans failed⟩)
  · rw [same] at failed
    cases first : x.toFloat with
    | error other =>
      rw [first] at failed
      cases failed
      exact .inl (toFloat_fault first)
    | ok a =>
      cases second : y.toFloat with
      | error other =>
        rw [first, second] at failed
        cases failed
        exact .inl (toFloat_fault second)
      | ok b =>
        rw [first, second] at failed
        exact .inr (.inr ⟨a, b, rfl, rfl, failed⟩)

/-- The quotient is that of two integers, or that of the doubles of the numbers. -/
theorem div_cases (x y : Number) :
    (∃ m n, x = int m ∧ y = int n ∧ x.div y = quotient m n) ∨
    x.div y = (do
      let a ← x.toFloat
      let b ← y.toFloat
      if b == 0 then .error (.zeroDivisor .exact true) else .ok (float (a / b))) :=
  combine_cases quotient _ x y

/-- There is no quotient by zero. -/
theorem div_of_isZero (x : Number) {y : Number} (zero : y.isZero = true) :
    ∃ fault, x.div y = .error fault := by
  obtain ⟨m, n, rfl, rfl, same⟩ | same := div_cases x y
  · have none : n = 0 := eq_of_beq zero
    rw [same, quotient, if_pos none]
    exact ⟨_, rfl⟩
  · rw [same]
    cases first : x.toFloat with
    | error fault => exact ⟨fault, rfl⟩
    | ok a =>
      cases second : y.toFloat with
      | error fault => exact ⟨fault, rfl⟩
      | ok b =>
        have divisor : (b == 0) = true := (toFloat_eq_zero second).trans zero
        exact ⟨.zeroDivisor .exact true, if_pos divisor⟩

/-- Only a zero is refused as a divisor. -/
theorem isZero_of_div {x y : Number} {fault : Fault} (failed : x.div y = .error fault)
    (refused : fault.isZeroDivision = true) : y.isZero = true := by
  obtain rfl | ⟨m, n, rfl, rfl, exactly⟩ | ⟨a, b, _, rounded, nearly⟩ := combine_error failed
  · cases refused
  · by_cases none : n = 0
    · exact beq_iff_eq.mpr none
    · rw [quotient, if_neg none] at exactly
      split at exactly
      · cases exactly
      · cases exactly
        cases refused
  · rw [← toFloat_eq_zero rounded]
    by_contra divisor
    rw [if_neg divisor] at nearly
    cases nearly

end Number

end Descent
