import Descent.Pattern.Basic

set_option autoImplicit false

namespace Descent.Pattern

structure Options where
  ignoreCase : Bool
  multiline : Bool
  dotAll : Bool
  verbose : Bool
  ascii : Bool
  unicode : Bool
  deriving DecidableEq, Repr, Inhabited

namespace Options

protected def none : Options := ⟨false, false, false, false, false, false⟩

def union (a b : Options) : Options :=
  ⟨a.ignoreCase || b.ignoreCase, a.multiline || b.multiline, a.dotAll || b.dotAll,
    a.verbose || b.verbose, a.ascii || b.ascii, a.unicode || b.unicode⟩

def without (a b : Options) : Options :=
  ⟨a.ignoreCase && !b.ignoreCase, a.multiline && !b.multiline, a.dotAll && !b.dotAll,
    a.verbose && !b.verbose, a.ascii && !b.ascii, a.unicode && !b.unicode⟩

/-- The options ask for characters of ASCII only and of all scripts. -/
def clash (options : Options) : Bool :=
  options.ascii && options.unicode

/-- The options inside a group that adds some and removes others. What it says about scripts takes
the place of what held before. -/
def within (outer added removed : Options) : Options :=
  let outer := if added.ascii || added.unicode then
      { outer with ascii := false, unicode := false }
    else outer
  (outer.union added).without removed

def ofLetter? : Char → Option Options
  | 'i' => some { Options.none with ignoreCase := true }
  | 'm' => some { Options.none with multiline := true }
  | 's' => some { Options.none with dotAll := true }
  | 'x' => some { Options.none with verbose := true }
  | 'a' => some { Options.none with ascii := true }
  | 'u' => some { Options.none with unicode := true }
  | _ => none

/-- The options named by some letters; a letter that names none is passed over. -/
def ofLetters (letters : List Char) : Options :=
  (letters.filterMap ofLetter?).foldl union Options.none

def folding (options : Options) : Folding :=
  if !options.ignoreCase then .exact else if options.ascii then .ascii else .latin

end Options

end Descent.Pattern
