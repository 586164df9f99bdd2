import Descent.Parser.Sequence

set_option autoImplicit false

namespace Descent.Parser

variable {σ α β : Type}

/-- Repeats a parser, with a bound on the number of rounds. -/
def repeatUpTo (p : Parser σ α) : Nat → Parser σ (List α)
  | 0, _, _ => Action.exhausted
  | rounds + 1, text, pos => do
    match ← p text pos with
    | .failure _ => return .success [] pos
    | .success value stop =>
      if stop = pos then return .success [] pos
      else return (← repeatUpTo p rounds text stop).map (value :: ·)

/-- Repeats a parser as often as it matches and moves. Never fails. -/
def many (p : Parser σ α) : Parser σ (List α) := fun text pos => do
  repeatUpTo p (← Action.budget) text pos

/-- Repeats a parser that has to match once. If that match consumes nothing, nothing is
collected. -/
def many1 (p : Parser σ α) : Parser σ (List α) := fun text pos => do
  match ← p text pos with
  | .failure failure => return .failure (failure.anchor pos)
  | .success value stop =>
    if stop = pos then return .success [] pos
    else return (← many p text stop).map (value :: ·)

/-- One or more matches with separators between them. A separator that no match follows is not
consumed. -/
def sepBy1 (p : Parser σ α) (separator : Parser σ β) : Parser σ (List α) :=
  (both p (many (separator.seqRight p))).map fun (first, rest) => first :: rest

def sepBy (p : Parser σ α) (separator : Parser σ β) : Parser σ (List α) :=
  option [] (sepBy1 p separator)

def foldLeft (first : α) : List ((α → α → Except Fault α) × α) → Except Fault α
  | [] => .ok first
  | (f, operand) :: rest => do foldLeft (← f first operand) rest

def foldRight (first : α) : List ((α → α → Except Fault α) × α) → Except Fault α
  | [] => .ok first
  | (f, operand) :: rest => do f first (← foldRight operand rest)

def chain (p : Parser σ α) (operator : Parser σ (α → α → Except Fault α)) :
    Parser σ (α × List ((α → α → Except Fault α) × α)) :=
  both p (many (both operator p))

/-- Operands with operators between them, combined from the left. -/
def chainl1 (p : Parser σ α) (operator : Parser σ (α → α → Except Fault α)) : Parser σ α :=
  (chain p operator).tryMap fun (first, rest) => foldLeft first rest

def chainr1 (p : Parser σ α) (operator : Parser σ (α → α → Except Fault α)) : Parser σ α :=
  (chain p operator).tryMap fun (first, rest) => foldRight first rest

end Descent.Parser
