import Descent.Pattern.Reading

set_option autoImplicit false

namespace Descent.Pattern

open Reading

def isOctal (c : Char) : Bool := CodeRange.contains ⟨0x30, 0x37⟩ c

def hexValue (c : Char) : Nat :=
  if isAsciiDigit c then c.toNat - 0x30
  else if CodeRange.contains ⟨0x61, 0x66⟩ c then c.toNat - 0x61 + 10
  else c.toNat - 0x41 + 10

def isHex (c : Char) : Bool :=
  isAsciiDigit c || CodeRange.contains ⟨0x61, 0x66⟩ c || CodeRange.contains ⟨0x41, 0x46⟩ c

def valueIn (base : Nat) (digits : List Char) : Nat :=
  digits.foldl (fun value c => base * value + hexValue c) 0

def isAsciiLetter (c : Char) : Bool :=
  CodeRange.contains ⟨0x41, 0x5A⟩ c || CodeRange.contains ⟨0x61, 0x7A⟩ c

/-- The control character that a letter after a backslash stands for. -/
def controlCode? : Char → Option Nat
  | 'a' => some 0x07
  | 'b' => some 0x08
  | 'f' => some 0x0C
  | 'n' => some 0x0A
  | 'r' => some 0x0D
  | 't' => some 0x09
  | 'v' => some 0x0B
  | _ => none

/-- The class that a letter after a backslash stands for. -/
def classItem? (ascii : Bool) : Char → Option SetItem
  | 'd' => some (.inClass .digit ascii)
  | 'D' => some (.outsideClass .digit ascii)
  | 's' => some (.inClass .blank ascii)
  | 'S' => some (.outsideClass .blank ascii)
  | 'w' => some (.inClass .word ascii)
  | 'W' => some (.outsideClass .word ascii)
  | _ => none

/-- The code point of an escape with a fixed number of hexadecimal digits. -/
def hexEscape (c : Char) (digits : Nat) (start : Nat) : Reading Nat := do
  let found ← takeWhile isHex digits
  let written := String.ofList ('\\' :: c :: found)
  if found.length ≠ digits then refuse (.incompleteEscape written) start
  else if 0x10FFFF < valueIn 16 found then refuse (.badEscape written) start
  else return valueIn 16 found

/-- The code point of an escape that means the same inside a set and outside; `start` is where
its backslash stands. -/
def plainEscape (c : Char) (start : Nat) : Reading Nat := do
  match controlCode? c with
  | some code => return code
  | none =>
    if c = 'x' then hexEscape c 2 start
    else if c = 'u' then hexEscape c 4 start
    else if c = 'U' then hexEscape c 8 start
    else if isAsciiLetter c || isAsciiDigit c then
      refuse (.badEscape (Token.escaped c).text) start
    else return c.toNat

/-- The code point of an octal escape that begins with the given digits. -/
def octalCode (digits : List Char) (start : Nat) : Reading Nat := do
  if 0o377 < valueIn 8 digits then
    refuse (.octalTooLarge (String.ofList ('\\' :: digits))) start
  else return valueIn 8 digits

def setEscape (options : Options) (c : Char) (start : Nat) : Reading SetItem := do
  match classItem? options.ascii c with
  | some item => return item
  | none =>
    let code ←
      if isOctal c then octalCode (c :: (← takeWhile isOctal 2)) start
      else plainEscape c start
    return .range ⟨code, code⟩

def setItem (options : Options) (token : Token) (start : Nat) : Reading SetItem := do
  match token with
  | .escaped c => setEscape options c start
  | .plain c => return .range ⟨c.toNat, c.toNat⟩
  | .dangling => refuse .danglingBackslash start

/-- The range between two items, each a single code point. -/
def rangeItem? : SetItem → SetItem → Option SetItem
  | .range first, .range last =>
    if last.first < first.first then none else some (.range ⟨first.first, last.first⟩)
  | _, _ => none

/-- Reads the items of a set up to its closing bracket; `start` is where the set began. -/
def setItems (options : Options) (start : Nat) : Nat → List SetItem → Reading (List SetItem)
  | 0, _ => refuse .unterminatedSet start
  | fuel + 1, items => do
    let before ← place
    match ← next with
    | none => refuse .unterminatedSet start
    | some token =>
      if token = .plain ']' && !items.isEmpty then return items
      let first ← setItem options token before
      if ← accept '-' then
        let middle ← place
        match ← next with
        | none => refuse .unterminatedSet start
        | some other =>
          if other = .plain ']' then return items ++ [first, .range ⟨0x2D, 0x2D⟩]
          let last ← setItem options other middle
          match rangeItem? first last with
          | some item => setItems options start fuel (items ++ [item])
          | none =>
            let written := token.width + 1 + other.width
            refuse (.badRange token.text other.text) ((← place) - written)
      else setItems options start fuel (items ++ [first])

def charSet (options : Options) (start : Nat) : Reading CharSet := do
  let negated ← accept '^'
  let items ← setItems options start ((← left) + 1) []
  return ⟨items, negated, options.folding⟩

end Descent.Pattern
