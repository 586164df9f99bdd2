import Descent.Calculator.Arithmetic
import Descent.Proofs.Table.Token

set_option autoImplicit false

namespace Descent.Calculator.Arithmetic

def Sign.char : Sign → Char
  | plus => '+'
  | minus => '-'
  | times => '*'
  | dividedBy => '/'

inductive Chain where
  | product
  | sum

/-- What the grammar has a name for: a factor, or a chain. -/
inductive Phrase where
  | factor
  | chain (kind : Chain)

namespace Chain

def operand : Chain → Phrase
  | product => .factor
  | sum => .chain product

def first : Chain → Sign
  | product => .times
  | sum => .plus

def second : Chain → Sign
  | product => .dividedBy
  | sum => .minus

def Joins (kind : Chain) (s : Sign) : Prop :=
  s = kind.first ∨ s = kind.second

end Chain

mutual

inductive Tree : Phrase → Type where
  | number (digits : List Char) (nonempty : digits ≠ [])
      (ascii : ∀ c ∈ digits, isAsciiDigit c = true) : Tree .factor
  | parentheses (inner : Tree (.chain .sum)) : Tree .factor
  | chain {kind : Chain} (first : Tree kind.operand) (rest : Links kind) : Tree (.chain kind)

/-- The signs and operands of a chain after its first operand. -/
inductive Links : Chain → Type where
  | nil {kind : Chain} : Links kind
  | cons {kind : Chain} (s : Sign) (joins : kind.Joins s) (operand : Tree kind.operand)
      (rest : Links kind) : Links kind

end

mutual

def Tree.tokens {phrase : Phrase} : Tree phrase → List Token
  | .number digits _ _ => [.number digits]
  | .parentheses inner => .sign '(' :: (inner.tokens ++ [.sign ')'])
  | .chain first rest => first.tokens ++ rest.tokens

def Links.tokens {kind : Chain} : Links kind → List Token
  | .nil => []
  | .cons s _ operand rest => .sign s.char :: (operand.tokens ++ rest.tokens)

end

def combined (first : Number) (links : List (Sign × Number)) : Except Fault Number :=
  links.foldlM (fun value (s, operand) => s.apply value operand) first

mutual

/-- The value of a tree, or the fault that evaluating it ends in. The operands of a chain are
evaluated before they are combined. -/
def Tree.value {phrase : Phrase} : Tree phrase → Except Fault Number
  | .number digits _ _ => .ok (.int (Numeral.asciiValue digits))
  | .parentheses inner => inner.value
  | .chain first rest => do combined (← first.value) (← rest.values)

def Links.values {kind : Chain} : Links kind → Except Fault (List (Sign × Number))
  | .nil => .ok []
  | .cons s _ operand rest => do
    let value ← operand.value
    return (s, value) :: (← rest.values)

end

theorem Sign.text_eq (s : Sign) : s.text = String.singleton s.char := by
  cases s <;> rfl

theorem Sign.not_blank (s : Sign) : isBlank s.char = false := by
  cases s <;> decide

theorem Sign.not_digit (s : Sign) : isAsciiDigit s.char = false := by
  cases s <;> decide

theorem Sign.char_injective {s t : Sign} (same : s.char = t.char) : s = t := by
  revert same
  cases s <;> cases t <;> decide

/-- The signs that go on with a phrase when they come after it. -/
def Phrase.signs : Phrase → List Char
  | .factor => []
  | .chain .product => ['*', '/']
  | .chain .sum => ['*', '/', '+', '-']

theorem Chain.signs_eq (kind : Chain) :
    (Phrase.chain kind).signs = kind.operand.signs ++ [kind.first.char, kind.second.char] := by
  cases kind <;> rfl

theorem Chain.Joins.fresh {kind : Chain} {s : Sign} (joins : kind.Joins s) :
    s.char ∉ kind.operand.signs := by
  rcases joins with rfl | rfl <;> cases kind <;> decide

mutual

theorem Tree.readable {phrase : Phrase} : (t : Tree phrase) → Token.Readable t.tokens
  | .number _ nonempty ascii => .number nonempty ascii (fun others => nofun) .nil
  | .parentheses inner =>
    .sign (by decide) (by decide) (inner.readable.append (by decide) (by decide) .nil)
  | .chain first rest => rest.readable_after first.readable

theorem Links.readable_after {kind : Chain} {front : List Token} (readable : Token.Readable front) :
    (links : Links kind) → Token.Readable (front ++ links.tokens)
  | .nil => by
    rw [Links.tokens, List.append_nil]
    exact readable
  | .cons s _ operand rest => by
    have longer := rest.readable_after
      (readable.append s.not_blank s.not_digit operand.readable)
    rw [List.append_assoc] at longer
    exact longer

end

end Descent.Calculator.Arithmetic
