import Descent.Operator
import Descent.Pattern.Reader
import Descent.Parser.Char
import Descent.Value.Function
import Descent.Value.Transform
import Descent.Value.Write

set_option autoImplicit false

namespace Descent

/-- A grammar whose parser yields values. -/
inductive Grammar where
  | literal (s : String)
  | satisfy (expected : Option String) (accepts : Char → Bool)
  | pattern (expected : String) (p : Pattern)
  | pure (value : Value)
  | failWith (expected : Option String)
  | raise (fault : Fault)
  | eof
  | rule (name : String)
  | custom (reply : Text → Int → Reply Value)
  | lookAhead (p : Grammar)
  | notFollowedBy (p : Grammar)
  | sequence (ps : List Grammar)
  | times (n : Nat) (p : Grammar)
  | choice (ps : List Grammar)
  | many (p : Grammar)
  | many1 (p : Grammar)
  | sepBy1 (p separator : Grammar)
  | bind (p : Grammar) (next : Value → Grammar)
  | map (p : Grammar) (f : Value → Except Fault Value)
  | label (p : Grammar) (message : String)
  | logged (tag : String) (p : Grammar)
  | trace (name : String)
  | traced (name : String) (p : Grammar)
  | chainl1 (calls : Calls) (p operator : Grammar)
  | chainr1 (calls : Calls) (p operator : Grammar)
  | level (calls : Calls) (before after left right single : List Grammar) (operand : Grammar)

instance : Inhabited Grammar :=
  ⟨.eof⟩

namespace Grammar

def char (c : String) : Grammar :=
  satisfy (some (Parser.textLabel c)) (Parser.isOnly c)

def oneOf (choices : List String) : Grammar :=
  let chars := Parser.singles choices
  satisfy (some (Parser.choicesLabel "one of " choices)) fun c => chars.contains c

def noneOf (choices : List String) : Grammar :=
  let chars := Parser.singles choices
  satisfy (some (Parser.choicesLabel "none of " choices)) fun c => !chars.contains c

def anyChar : Grammar :=
  satisfy (some "any character") fun _ => true

/-- A digit of some script. -/
def digit : Grammar :=
  satisfy (some "digit") isDigit

def letter : Grammar :=
  satisfy (some "letter") isLetter

def space : Grammar :=
  satisfy (some "space") isBlank

/-- A pattern given by its source and the letters of its options. -/
def regex (source : String) (options : String) : Except Fault Grammar :=
  match Pattern.read source.toList (.ofLetters options.toList) with
  | .ok p => .ok (pattern ("/" ++ source ++ "/") p)
  | .error error => .error (.flawedPattern error)

/-- A pattern that is compiled without options, with options given on top. There may be none. -/
def regexOfCompiled (source : String) (options : String) : Except Fault Grammar := do
  let compiled ← regex source ""
  if options.isEmpty then return compiled else throw .optionsOfCompiled

def spaces : Grammar :=
  pattern "/\\s*/" .blanks

def fail (message : String) : Grammar :=
  failWith (some message)

def orElse (p q : Grammar) : Grammar :=
  choice [p, q]

/-- Both values in a list. -/
def both (p q : Grammar) : Grammar :=
  sequence [p, q]

def seqRight (p q : Grammar) : Grammar :=
  bind p fun _ => q

/-- The value of the grammar, whatever it yields. -/
def as (value : Value) (p : Grammar) : Grammar :=
  map p fun _ => .ok value

def seqLeft (p q : Grammar) : Grammar :=
  bind p fun value => q.as value

def between (opening closing p : Grammar) : Grammar :=
  (opening.seqRight p).seqLeft closing

def option (default : Value) (p : Grammar) : Grammar :=
  p.orElse (pure default)

/-- The value of the grammar, or null. -/
def optional (p : Grammar) : Grammar :=
  option .null p

def skip (p : Grammar) : Grammar :=
  p.as .null

/-- No grammar has as many parts as this. -/
def partLimit : Int := 0x200000000

/-- Exactly `n` matches; `n` must not be negative, and must leave room for as many parts. -/
def count (n : Int) (p : Grammar) : Except Fault Grammar :=
  if n < 0 then .error (.negativeCount n)
  else if 0x8000000000000000 ≤ n then .error .countTooLarge
  else if partLimit ≤ n then .error .outOfMemory
  else .ok (times n.toNat p)

def sepBy (p separator : Grammar) : Grammar :=
  option (.list []) (sepBy1 p separator)

def lexeme (p : Grammar) : Grammar :=
  between spaces spaces p

def symbol (s : String) : Grammar :=
  lexeme (literal s)

def integer : Grammar :=
  lexeme (map (pattern "integer" .digits) Transform.toInteger)

/-- The grammar, or a fault in its place when it is run. -/
def deferred : Except Fault Grammar → Grammar
  | .ok p => p
  | .error fault => raise fault

def row (calls : Calls) (operators : List (Operator Grammar Grammar)) (operand : Grammar) :
    Grammar :=
  let sorted := Row.ofOperators operators
  level calls sorted.before sorted.after sorted.left sorted.right sorted.single operand

/-- The grammar of an operator table, whose rows go from the tightest to the loosest. -/
def expression (calls : Calls) (table : List (List (Operator Grammar Grammar))) (term : Grammar) :
    Grammar :=
  table.foldl (fun operand operators => row calls operators operand) term

def literalOf : Value → Grammar
  | .str s => literal s
  | v => raise (.notText v.typeName)

/-- The character that a value is; what is no text matches no character. -/
def charOf : Value → Grammar
  | .str s => char s
  | v =>
    match v.write with
    | .ok written => satisfy (some (Parser.textLabel written)) fun _ => false
    | .error fault => raise fault

/-- A failure with the message that a value is, if it is a text. -/
def failOf : Value → Grammar
  | .str s => fail s
  | _ => failWith none

/-- Both places of a list taken by the value. -/
def twiceOf (v : Value) : Grammar :=
  pure (.list [v, v])

def countOf (p : Grammar) (v : Value) : Grammar :=
  deferred (do count (← Transform.integerOf v) p)

/-- The grammar that a table has for a value. A list is no key of any table. -/
def lookupOf (table : List (String × Grammar)) : Value → Grammar
  | .str s => (table.lookup s).getD (fail "no entry")
  | .list items => raise (.notHashable (Value.list items).typeName)
  | _ => fail "no entry"

end Grammar

end Descent
