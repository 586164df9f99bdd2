import Descent.Parser.Basic

set_option autoImplicit false

namespace Descent.Parser

variable {σ α ι : Type}

/-- A rule: what is stored for its definition is run. If nothing is, the definition is built first;
one that ends in a fault is built again at the next use. -/
def rule (definition : Definition σ) (run : σ → Parser σ α) : Parser σ α := fun text pos => do
  run (← Action.resolve definition) text pos

/-- A family of parsers defined from itself, unrolled to a depth. -/
def unroll (body : (ι → Parser σ α) → ι → Parser σ α) : Nat → ι → Parser σ α
  | 0, _, _, _ => Action.exhausted
  | depth + 1, i, text, pos => body (unroll body depth) i text pos

/-- A family of parsers defined from itself, unrolled as deep as the budget of the run allows. -/
def fix (body : (ι → Parser σ α) → ι → Parser σ α) (i : ι) : Parser σ α := fun text pos => do
  unroll body (← Action.budget) i text pos

end Descent.Parser
