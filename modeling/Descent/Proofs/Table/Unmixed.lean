import Descent.Parser.Char
import Descent.Parser.Expression
import Mathlib.Data.List.Forall2

set_option autoImplicit false

namespace Descent

inductive Operator.Kind where
  | before
  | after
  | between (associativity : Associativity)
  | nowhere
  deriving DecidableEq, Repr

variable {unary binary : Type}

namespace Operator

def kind : Operator unary binary → Kind
  | .between associativity _ => .between associativity
  | .before _ => .before
  | .after _ => .after
  | .nowhere _ => .nowhere

def ofKinds (kinds : List Kind) (operators : List (Operator unary binary)) :
    List (Operator unary binary) :=
  operators.filter fun operator => kinds.contains operator.kind

/-- A row as rows of few kinds, the tightest first: affixes, then what groups to the left, what
groups to the right, and what does not group. -/
def unmixed (operators : List (Operator unary binary)) : List (List (Operator unary binary)) :=
  [ofKinds [.before, .after] operators, ofKinds [.between .left] operators,
    ofKinds [.between .right] operators, ofKinds [.between .none] operators]

/-- Two rows have the same operators of each kind in the same order. How the kinds are mixed may
differ, and so may operators of no position. -/
def SameOfEachKind (operators others : List (Operator unary binary)) : Prop :=
  ∀ kind, kind ≠ .nowhere → ofKinds [kind] operators = ofKinds [kind] others

end Operator

namespace Row

def only (kinds : List Operator.Kind) (row : Row unary binary) : Row unary binary where
  before := if kinds.contains .before then row.before else []
  after := if kinds.contains .after then row.after else []
  left := if kinds.contains (.between .left) then row.left else []
  right := if kinds.contains (.between .right) then row.right else []
  single := if kinds.contains (.between .none) then row.single else []

/-- An operator of another kind is left out. -/
theorem only_cons (kinds : List Operator.Kind) (operator : Operator unary binary)
    (row : Row unary binary) :
    (row.cons operator).only kinds =
      if kinds.contains operator.kind then (row.only kinds).cons operator else row.only kinds := by
  cases operator with
  | between associativity parser =>
    cases listed : kinds.contains (.between associativity) <;>
      cases associativity <;> simp only [Operator.kind, only, cons, listed] <;> rfl
  | before parser =>
    cases listed : kinds.contains .before <;> simp only [Operator.kind, only, cons, listed] <;> rfl
  | after parser =>
    cases listed : kinds.contains .after <;> simp only [Operator.kind, only, cons, listed] <;> rfl
  | nowhere parser => exact (ite_self _).symm

/-- Sorted by kind, the operators of some kinds are the row without the others. -/
theorem ofOperators_ofKinds (kinds : List Operator.Kind)
    (operators : List (Operator unary binary)) :
    ofOperators (Operator.ofKinds kinds operators) = (ofOperators operators).only kinds := by
  induction operators with
  | nil => simp [Operator.ofKinds, ofOperators, only, empty]
  | cons operator rest ih =>
    rw [ofOperators, only_cons, ← ih, Operator.ofKinds, List.filter_cons]
    split <;> rfl

theorem ofOperators_congr {operators others : List (Operator unary binary)}
    (same : Operator.SameOfEachKind operators others) :
    ofOperators operators = ofOperators others := by
  have each (kind : Operator.Kind) (placed : kind ≠ .nowhere) :
      (ofOperators operators).only [kind] = (ofOperators others).only [kind] := by
    rw [← ofOperators_ofKinds, same kind placed, ofOperators_ofKinds]
  exact (Row.mk.injEq ..).mpr
    ⟨(congrArg before (each .before nofun) :), (congrArg after (each .after nofun) :),
      (congrArg left (each (.between .left) nofun) :),
      (congrArg right (each (.between .right) nofun) :),
      (congrArg single (each (.between .none) nofun) :)⟩

end Row

namespace Parser

variable {σ α : Type}

/-- A row is built in the same steps as the rows of its few kinds. -/
theorem level_unmixed (operators : List (Operator (Unary σ α) (Binary σ α)))
    (operand : Parser σ α) :
    expression (Operator.unmixed operators) operand =
      level (Row.ofOperators operators) operand := by
  simp only [expression, Operator.unmixed, List.foldl_cons, List.foldl_nil, Row.ofOperators_ofKinds]
  simp [level, Row.only]

theorem expression_unmixed (table : List (List (Operator (Unary σ α) (Binary σ α))))
    (term : Parser σ α) :
    expression (table.flatMap Operator.unmixed) term = expression table term := by
  induction table generalizing term with
  | nil => rfl
  | cons operators rest ih =>
    calc expression (Operator.unmixed operators ++ rest.flatMap Operator.unmixed) term
        = expression (rest.flatMap Operator.unmixed)
          (expression (Operator.unmixed operators) term) :=
          List.foldl_append
      _ = expression rest (level (Row.ofOperators operators) term) := by rw [ih, level_unmixed]

theorem expression_congr {table others : List (List (Operator (Unary σ α) (Binary σ α)))}
    (same : List.Forall₂ Operator.SameOfEachKind table others) (term : Parser σ α) :
    expression others term = expression table term := by
  induction same generalizing term with
  | nil => rfl
  | cons first _ ih =>
    rw [expression, List.foldl_cons, ← Row.ofOperators_congr first]
    exact ih _

/-- A table is the table with each row taken apart: first its operators before and after an operand,
then those that group to the left, those that group to the right, and those that do not group, each
in their order, while operators of no position are left out. These are the same parsers: from every
place of every text they come to the same match, or to a failure with the same chain of causes, or
to the same fault, and leave the same events. So within a row what groups to the left binds tighter
than what groups to the right, and that tighter than what does not group, and how operators of
different kinds are mixed does not matter. -/
theorem rows_unmixed (table : List (List (Operator (Unary σ α) (Binary σ α)))) (term : Parser σ α) :
    expression (table.flatMap Operator.unmixed) term = expression table term ∧
    ∀ others, List.Forall₂ Operator.SameOfEachKind table others →
      expression others term = expression table term :=
  ⟨expression_unmixed table term, fun _ same => expression_congr same term⟩

/-- A row with operators of all kinds, the same row mixed in another way, and taken apart. In
`2^1+1` the sum is taken first, because it groups to the left. -/
theorem signs_unmixed :
    let sign (s : String) (f : Int → Int → Int) : Binary Empty Int :=
      (literal s).map fun _ x y => .ok (f x y)
    let affix (s : String) (f : Int → Int) : Unary Empty Int := (literal s).map fun _ x => .ok (f x)
    let number : Parser Empty Int := anyChar.map fun c => c.toNat - '0'.toNat
    let row : List (Operator (Unary Empty Int) (Binary Empty Int)) :=
      [.between .right (sign "^" fun x y => x.pow y.toNat), .nowhere (affix "~" id),
        .before (affix "-" Int.neg), .between .left (sign "+" (· + ·)), .after (affix "!" Int.sign),
        .between .none (sign "%" (· % ·)), .between .left (sign "-" (· - ·))]
    let mixed : List (Operator (Unary Empty Int) (Binary Empty Int)) :=
      [.after (affix "!" Int.sign), .between .left (sign "+" (· + ·)),
        .between .left (sign "-" (· - ·)), .between .none (sign "%" (· % ·)),
        .between .right (sign "^" fun x y => x.pow y.toNat), .before (affix "-" Int.neg)]
    expression [row] number (.ofString "2^1+1") 0 9 .fresh = .done (.success 4 5) .fresh ∧
      expression (Operator.unmixed row) number = expression [row] number ∧
      expression [mixed] number = expression [row] number := by
  intro sign affix number row mixed
  have same : Operator.SameOfEachKind row mixed := by
    intro kind placed
    cases kind with
    | between associativity => cases associativity <;> rfl
    | before => rfl
    | after => rfl
    | nowhere => exact absurd rfl placed
  obtain ⟨apart, each⟩ := rows_unmixed [row] number
  exact ⟨by rfl, apart, each [mixed] (.cons same .nil)⟩

end Parser

end Descent
