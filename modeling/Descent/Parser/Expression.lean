import Descent.Operator
import Descent.Parser.Repeat

set_option autoImplicit false

namespace Descent.Parser

variable {σ α : Type}

abbrev Unary (σ α : Type) : Type := Parser σ (α → Except Fault α)

abbrev Binary (σ α : Type) : Type := Parser σ (α → α → Except Fault α)

def applyAffix (operation : Option (α → Except Fault α)) (operand : α) : Except Fault α :=
  match operation with
  | none => .ok operand
  | some f => f operand

/-- Applies the operation before an operand and then the one after it. -/
def applyAffixes (before : Option (α → Except Fault α)) (operand : α)
    (after : Option (α → Except Fault α)) : Except Fault α := do
  applyAffix after (← applyAffix before operand)

/-- An operand with at most one operator before it and one after it. -/
def affixed (before after : List (Unary σ α)) (operand : Parser σ α) : Parser σ α :=
  (both (both (optional (choice before)) operand) (optional (choice after))).tryMap
    fun ((f, x), g) => applyAffixes f x g

def applyOnce (first : α) (tail : Option ((α → α → Except Fault α) × α)) : Except Fault α :=
  match tail with
  | none => .ok first
  | some (f, second) => f first second

/-- An operand, and maybe one operator with another operand. -/
def single (operators : List (Binary σ α)) (operand : Parser σ α) : Parser σ α :=
  (both operand (optional (both (choice operators) operand))).tryMap
    fun (first, tail) => applyOnce first tail

/-- The parser of a row: affixes first, then the chains that group to the left, those that group to
the right, and at most one operator that does not group. A kind of operator that the row does not
have leaves no trace. -/
def level (row : Row (Unary σ α) (Binary σ α)) (operand : Parser σ α) : Parser σ α :=
  let operand := if row.before.isEmpty && row.after.isEmpty then operand
    else affixed row.before row.after operand
  let operand := if row.left.isEmpty then operand else chainl1 operand (choice row.left)
  let operand := if row.right.isEmpty then operand else chainr1 operand (choice row.right)
  if row.single.isEmpty then operand else single row.single operand

/-- The parser of a table, whose rows go from the tightest to the loosest. -/
def expression (table : List (List (Operator (Unary σ α) (Binary σ α)))) (term : Parser σ α) :
    Parser σ α :=
  table.foldl (fun operand row => level (Row.ofOperators row) operand) term

end Descent.Parser
