import Descent.Pattern.Escape

set_option autoImplicit false

namespace Descent.Pattern

open Reading

def literalPiece (options : Options) (code : Nat) : Piece :=
  .one (.single code options.folding)

/-- A back reference to a group that is closed. `start` is where its number or name begins. -/
def referencePiece (options : Options) (group start : Nat) : Reading Piece := do
  let state ← get
  match state.groups[group]? with
  | some (some width) =>
    match state.behind with
    | some former =>
      if former ≤ group then refuse .groupOfSameLookBehind (← place)
      else return ⟨.reference group options.folding, width, .other⟩
    | none => return ⟨.reference group options.folding, width, .other⟩
  | _ => refuse .openGroup start

/-- Reads the rest of an escape that begins with a digit other than zero: three octal digits are a
code point, one or two digits the number of a group. -/
def numberEscape (options : Options) (c : Char) (start : Nat) : Reading Piece := do
  let more ← takeWhile isAsciiDigit 1
  let digits := c :: more
  if more ≠ [] && digits.all isOctal then
    match ← takeWhile isOctal 1 with
    | [third] => return literalPiece options (← octalCode (digits ++ [third]) start)
    | _ => pure ()
  let group := valueIn 10 digits
  if group < (← get).groups.length then referencePiece options group start
  else refuse (.unknownGroup group) (start + 1)

def escapePiece (options : Options) (c : Char) (start : Nat) : Reading Piece := do
  match classItem? options.ascii c with
  | some item => return .one ⟨[item], false, options.folding⟩
  | none =>
    match c with
    | 'A' => return .place .textStart
    | 'Z' => return .place .textEnd
    | 'b' => return .place (.wordEdge options.ascii)
    | 'B' => return .place (.insideWord options.ascii)
    | '0' => return literalPiece options (valueIn 8 (← takeWhile isOctal 2))
    | _ =>
      if isAsciiDigit c then numberEscape options c start
      else return literalPiece options (← plainEscape c start)

/-- No bound of a repetition reaches this number, and no look-behind goes over more characters. -/
def countLimit : Nat := 0xFFFFFFFF

def boundValue (digits : List Char) : Reading Nat :=
  if Numeral.maxDigits < digits.length then throw (.boundTooLong digits.length, none)
  else if countLimit ≤ valueIn 10 digits then throw (.boundTooLarge, none)
  else return valueIn 10 digits

/-- The bounds of a repetition after its sign. None if the text after a brace is not of the form
of a repetition; then nothing is taken. -/
def bounds? (sign : Char) : Reading (Option (Nat × Option Nat)) := do
  match sign with
  | '?' => return some (0, some 1)
  | '*' => return some (0, none)
  | '+' => return some (1, none)
  | _ =>
    let start ← get
    if (← peek) = some (.plain '}') then return none
    let low ← takeWhile isAsciiDigit (← left)
    let high ← if ← accept ',' then takeWhile isAsciiDigit (← left) else pure low
    if ← accept '}' then
      let least ← boundValue low
      if high.isEmpty then return some (least, none)
      let most ← boundValue high
      if most < least then refuse .boundsReversed start.place
      return some (least, some most)
    else
      set start
      return none

/-- Repeats the last of the pieces, which are in reverse order. `start` is where the sign of the
repetition stands. -/
def repeatLast (start least : Nat) (most : Option Nat) : List Piece → Reading (List Piece)
  | [] => refuse .nothingToRepeat start
  | piece :: others => do
    match piece.kind with
    | .anchor => refuse .nothingToRepeat start
    | .repetition => refuse .multipleRepeat start
    | .other =>
      let width := piece.width.times least most
      if ← accept '?' then
        return ⟨.repeated false least most piece.pattern, width, .repetition⟩ :: others
      else if ← accept '+' then
        return ⟨.possessive least most piece.pattern, width, .repetition⟩ :: others
      else return ⟨.repeated true least most piece.pattern, width, .repetition⟩ :: others

/-- The name of a group, ended by the terminator. -/
def groupName (terminator : Char) : Reading (String × Nat) := do
  let start ← place
  let name ← takeName terminator start ((← left) + 1) ""
  let inner := fun c => isLetter c || isDecimal c || c == '_'
  let proper := match name.toList with
    | [] => false
    | c :: rest => (isLetter c || c == '_') && rest.all inner
  if proper then return (name, start) else refuse (.badName name) start

def openGroup (name : Option (String × Nat)) : Reading Nat := do
  let state ← get
  let group := state.groups.length
  match name with
  | none => set { state with groups := state.groups ++ [none] }
  | some (name, start) =>
    match state.names.lookup name with
    | some former => refuse (.repeatedName name group former) start
    | none =>
      set { state with groups := state.groups ++ [none], names := (name, group) :: state.names }
  return group

def closeGroup (group : Nat) (width : Width) : Reading Unit :=
  modify fun state => { state with groups := state.groups.set group (some width) }

/-- The options that a group sets: for the whole pattern, or for itself, with those it clears. -/
inductive OptionGroup where
  | whole (added : Options)
  | scoped (added removed : Options)

/-- Reads the letters of options that a group clears, up to the colon. -/
def removedOptions : Nat → Options → Reading Options
  | 0, _ => do refuse (.optionsUnfinished ":") (← place)
  | fuel + 1, removed => do
    let before ← place
    match ← next with
    | none => refuse (.optionsUnfinished (if removed = .none then "flag" else ":")) before
    | some (.plain ':') =>
      if removed = .none then refuse (.optionsUnfinished "flag") before else return removed
    | some token =>
      match token with
      | .plain c =>
        if c = 'a' || c = 'u' || c = 'L' then refuse .fixedOption (← place)
        match Options.ofLetter? c with
        | some option => removedOptions fuel (removed.union option)
        | none =>
          if isLetter c then refuse .unknownOption before
          else refuse (.optionsUnfinished (if removed = .none then "flag" else ":")) before
      | _ => refuse (.optionsUnfinished (if removed = .none then "flag" else ":")) before

/-- Reads the letters of options of a group, of which `c` is the first. -/
def optionGroup (c : Char) : Nat → Options → Reading OptionGroup
  | 0, _ => do refuse (.optionsUnfinished "-, : or )") (← place)
  | fuel + 1, added => do
    if c = '-' then
      let removed ← removedOptions ((← left) + 1) .none
      let both := added.without (added.without removed)
      if both = .none then return .scoped added removed
      else refuse .contradictoryOption ((← place) - 1)
    else if c = ':' then return .scoped added .none
    else if c = ')' then return .whole added
    else if c = 'L' then refuse .localeOption (← place)
    else
      match Options.ofLetter? c with
      | none => refuse .unknownOption ((← place) - 1)
      | some option =>
        let added := added.union option
        if added.clash then refuse .exclusiveOptions (← place)
        let before ← place
        match ← next with
        | none => refuse (.optionsUnfinished "-, : or )") before
        | some (.plain d) =>
          if d = '-' || d = ':' || d = ')' || d = 'L' || (Options.ofLetter? d).isSome then
            optionGroup d fuel added
          else if isLetter d then refuse .unknownOption before
          else refuse (.optionsUnfinished "-, : or )") before
        | some _ => refuse (.optionsUnfinished "-, : or )") before

def skipComment : Nat → Reading Unit
  | 0 => return ()
  | fuel + 1 => do
    match ← next with
    | none => return ()
    | some token => if token = .plain '\n' then return () else skipComment fuel

/-- Skips a comment in parentheses that began at `start`. -/
def skipRemark (start : Nat) : Nat → Reading Unit
  | 0 => refuse .unterminatedComment start
  | fuel + 1 => do
    match ← next with
    | none => refuse .unterminatedComment start
    | some token => if token = .plain ')' then return () else skipRemark start fuel

def behindFlaw? (width : Width) : Option Flaw :=
  if countLimit < width.least then some .distantLookBehind
  else if width.most ≠ some width.least then some .variableLookBehind
  else none

/-- Takes the closing parenthesis of a group that began at `start`. -/
def closeParenthesis (start : Nat) : Reading Unit := do
  if !(← accept ')') then refuse .missingParenthesis start

mutual

/-- Reads alternatives. `outermost` tells that they are the whole pattern, whose options they then
take from the state. -/
def alternatives : Nat → Options → Bool → Reading Piece
  | 0, _, _ => return .sequence []
  | fuel + 1, options, outermost => do
    let first ← pieces fuel options outermost []
    moreAlternatives fuel options outermost first []

/-- Reads the alternatives after those already read, which are in reverse order. -/
def moreAlternatives : Nat → Options → Bool → Piece → List Piece → Reading Piece
  | 0, _, _, first, others => return .choice first others.reverse
  | fuel + 1, options, outermost, first, others => do
    if ← accept '|' then
      let state ← get
      let options := if outermost then state.options else options
      let piece ← pieces fuel options false []
      moreAlternatives fuel options outermost first (piece :: others)
    else return .choice first others.reverse

/-- Reads pieces up to a bar, a closing parenthesis or the end, after those already read, which are
in reverse order. `opening` tells that options for the whole pattern may come first. A verbose
pattern passes over blanks and comments, but not over escaped blanks. -/
def pieces : Nat → Options → Bool → List Piece → Reading Piece
  | 0, _, _, done => return .sequence done.reverse
  | fuel + 1, options, opening, done => do
    let start ← place
    match ← peek with
    | none => return .sequence done.reverse
    | some .dangling => refuse .danglingBackslash start
    | some (.escaped c) =>
      let _ ← next
      pieces fuel options opening ((← escapePiece options c start) :: done)
    | some (.plain c) =>
      if c = '|' || c = ')' then return .sequence done.reverse
      let _ ← next
      if options.verbose && isAsciiBlank c then pieces fuel options opening done
      else if options.verbose && c = '#' then
        skipComment ((← left) + 1)
        pieces fuel options opening done
      else
        match c with
        | '[' =>
          let set ← charSet options start
          pieces fuel options opening (.one set :: done)
        | '.' =>
          let set := CharSet.allBut (if options.dotAll then [] else [.range ⟨0x0A, 0x0A⟩])
          pieces fuel options opening (.one set :: done)
        | '^' =>
          let anchor := if options.multiline then Anchor.lineStart else .textStart
          pieces fuel options opening (.place anchor :: done)
        | '$' =>
          let anchor := if options.multiline then Anchor.lineEnd else .lastLineEnd
          pieces fuel options opening (.place anchor :: done)
        | '(' => group fuel options opening start done
        | _ =>
          if c = '?' || c = '*' || c = '+' || c = '\x7b' then
            match ← bounds? c with
            | some (least, most) =>
              pieces fuel options opening (← repeatLast start least most done)
            | none => pieces fuel options opening (literalPiece options c.toNat :: done)
          else pieces fuel options opening (literalPiece options c.toNat :: done)

def group : Nat → Options → Bool → Nat → List Piece → Reading Piece
  | 0, _, _, start, _ => refuse .missingParenthesis start
  | fuel + 1, options, opening, start, done => do
    if !(← accept '?') then captured fuel options opening start none done
    else
      let mark ← place
      match ← next with
      | none => refuse .unexpectedEnd mark
      | some (.plain ':') => grouped fuel id options options opening start done
      | some (.plain '>') => grouped fuel .atomic options options opening start done
      | some (.plain '#') =>
        skipRemark start ((← left) + 1)
        pieces fuel options opening done
      | some (.plain '=') => look fuel options opening start true false done
      | some (.plain '!') => look fuel options opening start false false done
      | some (.plain '<') =>
        let side ← place
        match ← next with
        | none => refuse .unexpectedEnd side
        | some (.plain '=') => look fuel options opening start true true done
        | some (.plain '!') => look fuel options opening start false true done
        | some token => refuse (.unknownExtension ("?<" ++ token.text)) (start + 1)
      | some (.plain 'P') =>
        if ← accept '<' then
          let name ← groupName '>'
          captured fuel options opening start (some name) done
        else if ← accept '=' then
          let (name, nameStart) ← groupName ')'
          match (← get).names.lookup name with
          | none => refuse (.unknownName name) nameStart
          | some group =>
            let piece ← referencePiece options group nameStart
            pieces fuel options opening (piece :: done)
        else
          let side ← place
          match ← next with
          | none => refuse .unexpectedEnd side
          | some token => refuse (.unknownExtension ("?P" ++ token.text)) (start + 1)
      | some token =>
        match token with
        | .plain c =>
          if c = '-' || c = 'L' || (Options.ofLetter? c).isSome then
            match ← optionGroup c ((← left) + 2) .none with
            | .whole added =>
              if !opening || !done.isEmpty then refuse .lateOptions start
              modify fun state => { state with options := state.options.union added }
              pieces fuel (options.union added) opening done
            | .scoped added removed =>
              grouped fuel id options (options.within added removed) opening start done
          else refuse (.unknownExtension ("?" ++ token.text)) (start + 1)
        | _ => refuse (.unknownExtension ("?" ++ token.text)) (start + 1)

/-- Reads a group without a capture whose inside has options of its own, and makes something of its
pattern. -/
def grouped : Nat → (Pattern → Pattern) → Options → Options → Bool → Nat → List Piece →
    Reading Piece
  | 0, _, _, _, _, start, _ => refuse .missingParenthesis start
  | fuel + 1, make, options, inside, opening, start, done => do
    let piece ← alternatives fuel inside false
    closeParenthesis start
    pieces fuel options opening (⟨make piece.pattern, piece.width, .other⟩ :: done)

def captured : Nat → Options → Bool → Nat → Option (String × Nat) → List Piece → Reading Piece
  | 0, _, _, start, _, _ => refuse .missingParenthesis start
  | fuel + 1, options, opening, start, name, done => do
    let number ← openGroup name
    let piece ← alternatives fuel options false
    closeParenthesis start
    closeGroup number piece.width
    pieces fuel options opening (⟨.capture number piece.pattern, piece.width, .other⟩ :: done)

def look : Nat → Options → Bool → Nat → Bool → Bool → List Piece → Reading Piece
  | 0, _, _, start, _, _, _ => refuse .missingParenthesis start
  | fuel + 1, options, opening, start, positive, backward, done => do
    let before ← get
    if backward && before.behind.isNone then
      set { before with behind := some before.groups.length }
    let piece ← alternatives fuel options false
    modify fun state => { state with behind := before.behind }
    closeParenthesis start
    if backward then
      let flaw := before.behindFlaw.or (behindFlaw? piece.width)
      modify fun state => { state with behindFlaw := flaw.or state.behindFlaw }
      let pattern := Pattern.behind positive piece.width.least piece.pattern
      pieces fuel options opening (⟨pattern, .exactly 0, .other⟩ :: done)
    else
      pieces fuel options opening (⟨.ahead positive piece.pattern, .exactly 0, .other⟩ :: done)

end

def whole (options : Options) (fuel : Nat) : Reading Pattern := do
  checkView
  let piece ← alternatives fuel options true
  if (← get).options.clash then throw (.clashingOptions, none)
  if (← peek).isSome then refuse .unbalancedParenthesis (← place)
  match (← get).behindFlaw with
  | some flaw => throw (flaw, none)
  | none => return piece.pattern

/-- The pattern that a source spells under the given options. The functions that read it call each
other, and every call uses up one unit of fuel. No token is read with more than four calls. -/
def read (source : List Char) (options : Options) : Except Error Pattern :=
  let tokens := Token.ofSource source
  let start : ReaderState := ⟨tokens, 0, options, [none], [], none, none⟩
  match (whole options (4 * tokens.length + 4)).run start with
  | .ok (pattern, _) => .ok pattern
  | .error (flaw, place) => .error ⟨flaw, place, source⟩

end Descent.Pattern
