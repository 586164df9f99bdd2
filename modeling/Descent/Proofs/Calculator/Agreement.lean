import Descent.Proofs.Calculator.Ending
import Descent.Proofs.Calculator.Lockstep

set_option autoImplicit false

namespace Descent.Calculator

open Descent.Action (Settles)
open Descent.Parser (Extends)

namespace Table

variable {little more : Nat}

theorem named_extends {β : Type} (s : String) (operation : β) :
    Extends little more (named s operation : Parser Empty β) (named s operation) :=
  (SignTable.symbol_extends s).map _

theorem term_extends {whole whole' : Parser Empty Number}
    (inner : Extends little more whole whole') : Extends little more (term whole) (term whole') :=
  SignTable.term_extends Number.int inner

theorem body_extends (enough : little ≤ more) {whole whole' : Parser Empty Number}
    (inner : Extends little more whole whole') :
    Extends little more (body whole) (body whole') := by
  have times : List.Forall₂ (Extends little more) [named "*" Number.mul, named "/" divide]
      [named "*" Number.mul, named "/" divide] :=
    .cons (named_extends "*" Number.mul) (.cons (named_extends "/" divide) .nil)
  have plus : List.Forall₂ (Extends little more) [named "+" Number.add, named "-" Number.sub]
      [named "+" Number.add, named "-" Number.sub] :=
    .cons (named_extends "+" Number.add) (.cons (named_extends "-" Number.sub) .nil)
  have operand := Extends.affixed (.cons (named_extends "-" negate) .nil) .nil (term_extends inner)
  have products := operand.chainl1 enough (Extends.choice times)
  exact products.chainl1 enough (Extends.choice plus)

theorem body_regular :
    Parser.Regular fun (self : Unit → Parser Empty Number) (_ : Unit) => body (self ()) :=
  fun _ _ enough _ _ extended _ => body_extends enough (extended ())

theorem expression_stable : expression.Stable :=
  Parser.fix_stable body_regular ()

end Table

/-- The outcomes of two calculators agree. -/
inductive Agree : Outcome Empty (Reply Number) → Outcome Empty (Reply Number) → Prop where
  | success (value : Number) (stop : Int) {s t : Session Empty} :
      Agree (.done (.success value stop) s) (.done (.success value stop) t)
  | failure {f g : Failure} (reported : f.pos = g.pos) (caused : f.deepest.pos = g.deepest.pos)
      {s t : Session Empty} : Agree (.done (.failure f) s) (.done (.failure g) t)
  | fault {fault fault' : Fault} (refused : Refused fault fault') {s t : Session Empty} :
      Agree (.stopped (.fault fault) s) (.stopped (.fault fault') t)

theorem Agree.settled {first second : Outcome Empty (Reply Number)} (agree : Agree first second) :
    second.Settled := by
  cases agree <;> trivial

theorem agree_of_outcomes {text : Text} {after : Int → Prop}
    {first second : Outcome Empty (Reply Number)}
    (outcomes : (pairing text).Outcomes ((pairing text).Replies after Eq) first second)
    (settled : first.Settled) : Agree first second := by
  cases outcomes with
  | exhausted => exact settled.elim
  | fault refused => exact .fault refused
  | done together =>
    obtain ⟨value, stop, rfl, rfl⟩ | ⟨f, g, rfl, rfl, same⟩ := together.same_or_refused rfl
    · exact .success value stop
    · exact .failure same.1 same.2

/-- On a text in which no minus sign comes first or directly after an opening parenthesis or another
sign, the two calculators agree. Started at the beginning of the text, both come to an end, and they
yield the same value up to the same place, or fail with the same place reported and the same place
the failure comes from, or both end with a fault; and where the first one divides by zero, the
second one says so. -/
theorem expressions_agree (text : Text) (unsigned : text.Unsigned)
    (session session' : Session Empty) :
    ∃ first second, Settles (Arithmetic.expression text 0) session first ∧
      Settles (Table.expression text 0) session' second ∧ Agree first second := by
  obtain ⟨first, settles⟩ := Arithmetic.expression_halts text 0 (Int.le_refl 0) (by omega) session
  obtain ⟨budget, ran⟩ := settles.ran
  have outcomes := expressions_together unsigned 0 ⟨0, rfl, unsigned.operand_zero⟩ budget session
    session' trivial
  rw [show (pairing text).first = text from rfl, show (0 : Int) + (pairing text).shift = 0 from rfl,
    ran] at outcomes
  have agree := agree_of_outcomes outcomes settles.1
  exact ⟨first, _, settles, Action.settles_of_ran (fun _ _ enough =>
    Table.expression_stable _ _ enough text 0) rfl agree.settled, agree⟩

/-- A quotient by a difference that is zero, in writing. -/
def nothingBelow : Text :=
  Text.ofList ['1', '/', '(', '2', ' ', '-', '2', ')']

theorem nothingBelow_unsigned : nothingBelow.Unsigned := by
  have solid : nothingBelow.solid = ['1', '/', '(', '2', '-', '2', ')'] := by decide
  constructor
  · rw [solid]
    decide
  · rw [solid]
    simp [List.infix_cons_iff]

theorem nothingBelow_agrees : ∃ first second,
    Settles (Arithmetic.expression nothingBelow 0) .fresh first ∧
      Settles (Table.expression nothingBelow 0) .fresh second ∧ Agree first second :=
  expressions_agree nothingBelow nothingBelow_unsigned .fresh .fresh

end Descent.Calculator
