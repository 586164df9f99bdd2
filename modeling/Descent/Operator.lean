set_option autoImplicit false

namespace Descent

/-- How a chain of infix operators of one row groups. Without grouping there is at most one. -/
inductive Associativity where
  | left
  | right
  | none
  deriving DecidableEq, Repr

/-- An operator: parsers of one type for what takes one operand, and of another for what takes
two. An operator of no position belongs to no group. -/
inductive Operator (unary binary : Type) where
  | between (associativity : Associativity) (parser : binary)
  | before (parser : unary)
  | after (parser : unary)
  | nowhere (parser : unary)
  deriving Repr

/-- The operators of a row by kind, each kind in the order of the row. -/
structure Row (unary binary : Type) where
  before : List unary
  after : List unary
  left : List binary
  right : List binary
  single : List binary
  deriving Repr

namespace Row

variable {unary binary : Type}

def empty : Row unary binary :=
  ⟨[], [], [], [], []⟩

def cons (operator : Operator unary binary) (row : Row unary binary) : Row unary binary :=
  match operator with
  | .between .left parser => { row with left := parser :: row.left }
  | .between .right parser => { row with right := parser :: row.right }
  | .between .none parser => { row with single := parser :: row.single }
  | .before parser => { row with before := parser :: row.before }
  | .after parser => { row with after := parser :: row.after }
  | .nowhere _ => row

def ofOperators : List (Operator unary binary) → Row unary binary
  | [] => empty
  | operator :: rest => cons operator (ofOperators rest)

end Row

end Descent
