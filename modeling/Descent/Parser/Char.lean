import Descent.Parser.Repeat

set_option autoImplicit false

namespace Descent.Parser

variable {σ α : Type}

def isOnly (s : String) (c : Char) : Bool :=
  s.toList == [c]

theorem isOnly_singleton (c : Char) : isOnly (String.singleton c) = (· == c) := by
  funext d
  rw [isOnly, String.toList_singleton, Bool.eq_iff_iff, beq_iff_eq, beq_iff_eq, List.singleton_inj]
  exact eq_comm

/-- The characters among some choices; a choice that is not just one character counts for none. -/
def singles (choices : List String) : List Char :=
  choices.filterMap fun choice =>
    match choice.toList with
    | [c] => some c
    | _ => none

/-- The one character of a text; a text that is not just one character never matches. -/
def char (s : String) : Parser σ Char :=
  satisfy (some (textLabel s)) (isOnly s)

/-- The texts of a list, those left out that equal the one after them. -/
def dropRepeats : List String → List String
  | [] => []
  | [s] => [s]
  | s :: t :: rest => if s = t then dropRepeats (t :: rest) else s :: dropRepeats (t :: rest)

def sortedDistinct (choices : List String) : List String :=
  dropRepeats (choices.mergeSort fun a b => decide (a ≤ b))

def choicesLabel (lead : String) (choices : List String) : String :=
  lead ++ String.join (sortedDistinct choices)

def oneOf (choices : List String) : Parser σ Char :=
  let chars := singles choices
  satisfy (some (choicesLabel "one of " choices)) fun c => chars.contains c

def noneOf (choices : List String) : Parser σ Char :=
  let chars := singles choices
  satisfy (some (choicesLabel "none of " choices)) fun c => !chars.contains c

def anyChar : Parser σ Char :=
  satisfy (some "any character") fun _ => true

def digit : Parser σ Char :=
  satisfy (some "digit") isDigit

def letter : Parser σ Char :=
  satisfy (some "letter") isLetter

def space : Parser σ Char :=
  satisfy (some "space") isBlank

/-- The blanks at a place. Never fails. -/
def spaces : Parser σ String :=
  pattern "/\\s*/" .blanks

def lexeme (p : Parser σ α) : Parser σ α :=
  between spaces spaces p

def symbol (s : String) : Parser σ String :=
  lexeme (literal s)

/-- A decimal number without a sign, with blanks around it. -/
def integer : Parser σ Int :=
  lexeme ((pattern "integer" .digits).tryMap fun digits => Numeral.evaluate digits.toList)

end Descent.Parser
