import Descent.Grammar.Meaning
import Descent.Proofs.Pattern.Bounds
import Descent.Proofs.Text.Remaining

set_option autoImplicit false

namespace Descent

/-- The grammar is a parsing expression: texts, characters, patterns, sequences, ordered choices,
repetitions, look-ahead, negation and references to rules. -/
inductive Grammar.Peg : Grammar → Prop where
  | literal (s : String) : Peg (.literal s)
  | satisfy (expected : Option String) (accepts : Char → Bool) : Peg (.satisfy expected accepts)
  | pattern (expected : String) (p : Pattern) : Peg (.pattern expected p)
  | pure (value : Value) : Peg (.pure value)
  | failWith (expected : Option String) : Peg (.failWith expected)
  | eof : Peg .eof
  | rule (name : String) : Peg (.rule name)
  | lookAhead {p : Grammar} (inner : Peg p) : Peg (.lookAhead p)
  | notFollowedBy {p : Grammar} (inner : Peg p) : Peg (.notFollowedBy p)
  | sequence {ps : List Grammar} (parts : ∀ p ∈ ps, Peg p) : Peg (.sequence ps)
  | choice {ps : List Grammar} (parts : ∀ p ∈ ps, Peg p) : Peg (.choice ps)
  | many {p : Grammar} (inner : Peg p) : Peg (.many p)
  | many1 {p : Grammar} (inner : Peg p) : Peg (.many1 p)

theorem Grammar.Peg.optional {p : Grammar} (inner : p.Peg) : p.optional.Peg :=
  .choice (List.forall_mem_cons.mpr ⟨inner, List.forall_mem_singleton.mpr (.pure .null)⟩)

def Rules.Peg (rules : Rules) : Prop :=
  ∀ name p, rules name = .ok p → p.Peg

/-- At an index of the text the expression consumes up to the resulting index, or fails if there is
none. -/
inductive Derives (rules : Rules) (text : Text) : Grammar → Nat → Option Nat → Prop where
  | literal_match {s : String} {i : Nat} (stands : s.toList <+: text.remaining i) :
      Derives rules text (.literal s) i (some (i + s.length))
  | literal_refuse {s : String} {i : Nat} (absent : ¬ s.toList <+: text.remaining i) :
      Derives rules text (.literal s) i none
  | satisfy_match {expected : Option String} {accepts : Char → Bool} {i : Nat} {c : Char}
      (next : text.toList[i]? = some c) (accepted : accepts c = true) :
      Derives rules text (.satisfy expected accepts) i (some (i + 1))
  | satisfy_refuse {expected : Option String} {accepts : Char → Bool} {i : Nat}
      (refused : ∀ c, text.toList[i]? = some c → accepts c = false) :
      Derives rules text (.satisfy expected accepts) i none
  | pattern {expected : String} {p : Pattern} {i : Nat} :
      Derives rules text (.pattern expected p) i (p.matchEnd? text i)
  | pure {value : Value} {i : Nat} : Derives rules text (.pure value) i (some i)
  | failWith {expected : Option String} {i : Nat} : Derives rules text (.failWith expected) i none
  | eof_match : Derives rules text .eof text.length (some text.length)
  | eof_refuse {i : Nat} (left : i < text.length) : Derives rules text .eof i none
  | rule {name : String} {p : Grammar} {i : Nat} {result : Option Nat}
      (defined : rules name = .ok p) (body : Derives rules text p i result) :
      Derives rules text (.rule name) i result
  | lookAhead_match {p : Grammar} {i j : Nat} (inner : Derives rules text p i (some j)) :
      Derives rules text (.lookAhead p) i (some i)
  | lookAhead_refuse {p : Grammar} {i : Nat} (inner : Derives rules text p i none) :
      Derives rules text (.lookAhead p) i none
  | notFollowedBy_match {p : Grammar} {i : Nat} (inner : Derives rules text p i none) :
      Derives rules text (.notFollowedBy p) i (some i)
  | notFollowedBy_refuse {p : Grammar} {i j : Nat} (inner : Derives rules text p i (some j)) :
      Derives rules text (.notFollowedBy p) i none
  | sequence_nil {i : Nat} : Derives rules text (.sequence []) i (some i)
  | sequence_cons {p : Grammar} {ps : List Grammar} {i j : Nat} {result : Option Nat}
      (first : Derives rules text p i (some j))
      (rest : Derives rules text (.sequence ps) j result) :
      Derives rules text (.sequence (p :: ps)) i result
  | sequence_refuse {p : Grammar} {ps : List Grammar} {i : Nat}
      (first : Derives rules text p i none) : Derives rules text (.sequence (p :: ps)) i none
  | choice_nil {i : Nat} : Derives rules text (.choice []) i none
  | choice_take {p : Grammar} {ps : List Grammar} {i j : Nat}
      (first : Derives rules text p i (some j)) :
      Derives rules text (.choice (p :: ps)) i (some j)
  | choice_next {p : Grammar} {ps : List Grammar} {i : Nat} {result : Option Nat}
      (first : Derives rules text p i none) (rest : Derives rules text (.choice ps) i result) :
      Derives rules text (.choice (p :: ps)) i result
  | many_end {p : Grammar} {i : Nat} (inner : Derives rules text p i none) :
      Derives rules text (.many p) i (some i)
  | many_still {p : Grammar} {i : Nat} (inner : Derives rules text p i (some i)) :
      Derives rules text (.many p) i (some i)
  | many_next {p : Grammar} {i j : Nat} {result : Option Nat}
      (inner : Derives rules text p i (some j)) (moved : j ≠ i)
      (rest : Derives rules text (.many p) j result) : Derives rules text (.many p) i result
  | many1_refuse {p : Grammar} {i : Nat} (inner : Derives rules text p i none) :
      Derives rules text (.many1 p) i none
  | many1_still {p : Grammar} {i : Nat} (inner : Derives rules text p i (some i)) :
      Derives rules text (.many1 p) i (some i)
  | many1_next {p : Grammar} {i j : Nat} {result : Option Nat}
      (inner : Derives rules text p i (some j)) (moved : j ≠ i)
      (rest : Derives rules text (.many p) j result) : Derives rules text (.many1 p) i result

namespace Derives

variable {rules : Rules} {text : Text}

/-- An optional expression never fails, and consumes nothing where its expression fails. -/
theorem optional_iff {p : Grammar} {i : Nat} {result : Option Nat} :
    Derives rules text p.optional i result ↔
      ∃ j, result = some j ∧
        (Derives rules text p i (some j) ∨ Derives rules text p i none ∧ j = i) := by
  constructor
  · intro derives
    cases derives with
    | choice_take first => exact ⟨_, rfl, .inl first⟩
    | choice_next first rest =>
      cases rest with
      | choice_take none =>
        cases none
        exact ⟨i, rfl, .inr ⟨first, rfl⟩⟩
      | choice_next none _ => cases none
  · rintro ⟨j, rfl, taken | ⟨refused, rfl⟩⟩
    · exact .choice_take taken
    · exact .choice_next refused (.choice_take .pure)

/-- What is consumed begins at the start and lies within the text. -/
theorem bounds {p : Grammar} {i : Nat} {result : Option Nat}
    (derives : Derives rules text p i result) (within : i ≤ text.length) (j : Nat)
    (consumed : result = some j) : i ≤ j ∧ j ≤ text.length := by
  induction derives generalizing j with
  | literal_match stands =>
    cases consumed
    have bound := stands.length_le
    rw [Text.length_remaining, String.length_toList] at bound
    omega
  | satisfy_match next accepted =>
    cases consumed
    have inside := (List.getElem?_eq_some_iff.mp next).1
    rw [Text.length_toList] at inside
    exact ⟨Nat.le_succ _, inside⟩
  | pattern => exact Pattern.matchEnd_bounds within consumed
  | pure => cases consumed; exact ⟨Nat.le_refl _, within⟩
  | eof_match => cases consumed; exact ⟨Nat.le_refl _, within⟩
  | rule defined body ih => exact ih within j consumed
  | lookAhead_match inner ih => cases consumed; exact ⟨Nat.le_refl _, within⟩
  | notFollowedBy_match inner ih => cases consumed; exact ⟨Nat.le_refl _, within⟩
  | sequence_nil => cases consumed; exact ⟨Nat.le_refl _, within⟩
  | sequence_cons first rest first_ih rest_ih =>
    have middle := first_ih within _ rfl
    have later := rest_ih middle.2 j consumed
    exact ⟨Nat.le_trans middle.1 later.1, later.2⟩
  | choice_take first ih => exact ih within j consumed
  | choice_next first rest first_ih rest_ih => exact rest_ih within j consumed
  | many_end inner ih => cases consumed; exact ⟨Nat.le_refl _, within⟩
  | many_still inner ih => cases consumed; exact ⟨Nat.le_refl _, within⟩
  | many_next inner moved rest inner_ih rest_ih
  | many1_next inner moved rest inner_ih rest_ih =>
    have middle := inner_ih within _ rfl
    have later := rest_ih middle.2 j consumed
    exact ⟨Nat.le_trans middle.1 later.1, later.2⟩
  | many1_still inner ih => cases consumed; exact ⟨Nat.le_refl _, within⟩
  | _ => cases consumed

end Derives

end Descent
