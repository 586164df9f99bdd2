import Descent.Parser.Basic

set_option autoImplicit false

namespace Descent.Parser

variable {σ α : Type}

/-- Runs parsers one after another and leaves a failure as it is reported. -/
def inTurn : List (Parser σ α) → Parser σ (List α)
  | [], _, pos => return .success [] pos
  | p :: ps, text, pos => do
    match ← p text pos with
    | .success value stop => return (← inTurn ps text stop).map (value :: ·)
    | .failure failure => return .failure failure

def sequence (ps : List (Parser σ α)) : Parser σ (List α) :=
  anchored (inTurn ps)

/-- The first success of a parser and others; if there is none, the failure of the last. -/
def firstOf (p : Parser σ α) : List (Parser σ α) → Parser σ α
  | [], text, pos => p text pos
  | q :: qs, text, pos => do
    match ← p text pos with
    | .success value stop => return .success value stop
    | .failure _ => firstOf q qs text pos

/-- The first success, even if a later parser would match more. Without alternatives it fails. -/
def choice : List (Parser σ α) → Parser σ α
  | [] => fail "no alternatives"
  | p :: ps => anchored (firstOf p ps)

def option (default : α) (p : Parser σ α) : Parser σ α :=
  p.orElse (Parser.pure default)

def optional (p : Parser σ α) : Parser σ (Option α) :=
  option none (p.map some)

def skip (p : Parser σ α) : Parser σ Unit :=
  p.map fun _ => ()

/-- Runs a parser a number of times and leaves a failure as it is reported. -/
def inRow (p : Parser σ α) : Nat → Parser σ (List α)
  | 0, _, pos => return .success [] pos
  | n + 1, text, pos => do
    match ← p text pos with
    | .success value stop => return (← inRow p n text stop).map (value :: ·)
    | .failure failure => return .failure failure

def count (n : Nat) (p : Parser σ α) : Parser σ (List α) :=
  anchored (inRow p n)

/-- Of two alternatives the second is tried where the first one fails. -/
theorem choice_pair (p q : Parser σ α) : choice [p, q] = p.orElse q := by
  funext text pos budget session
  simp only [choice, anchored, firstOf, orElse, Action.bind_apply]
  cases p text pos budget session with
  | done reply later => cases reply <;> rfl
  | stopped reason later => rfl

theorem inRow_eq_inTurn (p : Parser σ α) (n : Nat) : inRow p n = inTurn (List.replicate n p) := by
  induction n with
  | zero => rfl
  | succ n ih =>
    funext text pos
    simp only [inRow, List.replicate_succ, inTurn, ih]

theorem count_eq_sequence (p : Parser σ α) (n : Nat) :
    count n p = sequence (List.replicate n p) := by
  rw [count, inRow_eq_inTurn, sequence]

end Descent.Parser
