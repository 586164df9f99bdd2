import Descent.Numeral
import Descent.Text.Quoted

set_option autoImplicit false

namespace Descent.Pattern

inductive Flaw where
  | danglingBackslash
  | badEscape (escape : String)
  | incompleteEscape (escape : String)
  | octalTooLarge (escape : String)
  | unterminatedSet
  | badRange (first last : String)
  | nothingToRepeat
  | multipleRepeat
  | boundTooLong (digits : Nat)
  | boundTooLarge
  | boundsReversed
  | missingParenthesis
  | unterminatedComment
  | unbalancedParenthesis
  | unexpectedEnd
  | unknownExtension (text : String)
  | missingName
  | unterminatedName (terminator : Char)
  | badName (name : String)
  | unknownName (name : String)
  | repeatedName (name : String) (group former : Nat)
  | unknownGroup (group : Nat)
  | openGroup
  | groupOfSameLookBehind
  | lateOptions
  | unknownOption
  | localeOption
  | exclusiveOptions
  | fixedOption
  | contradictoryOption
  | optionsUnfinished (wanted : String)
  | clashingOptions
  | distantLookBehind
  | variableLookBehind
  deriving DecidableEq, Repr

def Flaw.describe : Flaw → String
  | danglingBackslash => "bad escape (end of pattern)"
  | badEscape escape => "bad escape " ++ escape
  | incompleteEscape escape => "incomplete escape " ++ escape
  | octalTooLarge escape => "octal escape value " ++ escape ++ " outside of range 0-0o377"
  | unterminatedSet => "unterminated character set"
  | badRange first last => "bad character range " ++ first ++ "-" ++ last
  | nothingToRepeat => "nothing to repeat"
  | multipleRepeat => "multiple repeat"
  | boundTooLong digits => Numeral.tooLongMessage digits
  | boundTooLarge => "the repetition number is too large"
  | boundsReversed => "min repeat greater than max repeat"
  | missingParenthesis => "missing ), unterminated subpattern"
  | unterminatedComment => "missing ), unterminated comment"
  | unbalancedParenthesis => "unbalanced parenthesis"
  | unexpectedEnd => "unexpected end of pattern"
  | unknownExtension text => "unknown extension " ++ text
  | missingName => "missing group name"
  | unterminatedName terminator => "missing " ++ terminator.toString ++ ", unterminated name"
  | badName name => "bad character in group name " ++ quoted name.toList
  | unknownName name => "unknown group name " ++ quoted name.toList
  | repeatedName name group former =>
    "redefinition of group name " ++ quoted name.toList ++ " as group " ++ toString group ++
      "; was group " ++ toString former
  | unknownGroup group => "invalid group reference " ++ toString group
  | openGroup => "cannot refer to an open group"
  | groupOfSameLookBehind => "cannot refer to group defined in the same lookbehind subpattern"
  | lateOptions => "global flags not at the start of the expression"
  | unknownOption => "unknown flag"
  | localeOption => "bad inline flags: cannot use 'L' flag with a str pattern"
  | exclusiveOptions => "bad inline flags: flags 'a', 'u' and 'L' are incompatible"
  | fixedOption => "bad inline flags: cannot turn off flags 'a', 'u' and 'L'"
  | contradictoryOption => "bad inline flags: flag turned on and off"
  | optionsUnfinished wanted => "missing " ++ wanted
  | clashingOptions => "ASCII and UNICODE flags are incompatible"
  | distantLookBehind => "looks too much behind"
  | variableLookBehind => "look-behind requires fixed-width pattern"

/-- A flaw and the place of the source where it is found, if it has one. -/
structure Error where
  flaw : Flaw
  place : Option Nat
  source : List Char
  deriving DecidableEq, Repr

namespace Error

/-- The line of a place, counted from one. -/
def line (source : List Char) (place : Nat) : Nat :=
  (source.take place).count '\n' + 1

def column (source : List Char) (place : Nat) : Nat :=
  ((source.take place).reverse.takeWhile (· != '\n')).length + 1

/-- The error in words. Line and column are told when the source has more than one line. -/
def message (error : Error) : String :=
  match error.place with
  | none => error.flaw.describe
  | some place =>
    let told := error.flaw.describe ++ " at position " ++ toString place
    if error.source.contains '\n' then
      told ++ " (line " ++ toString (line error.source place) ++ ", column " ++
        toString (column error.source place) ++ ")"
    else told

end Error

end Descent.Pattern
