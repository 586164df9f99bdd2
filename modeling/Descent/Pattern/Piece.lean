import Descent.Pattern.Basic

set_option autoImplicit false

namespace Descent.Pattern

/-- The least and the greatest number of characters that a pattern matches. -/
structure Width where
  least : Nat
  most : Option Nat
  deriving DecidableEq, Repr, Inhabited

namespace Width

def exactly (n : Nat) : Width := ⟨n, some n⟩

def add (a b : Width) : Width :=
  ⟨a.least + b.least, do return (← a.most) + (← b.most)⟩

def join (a b : Width) : Width :=
  ⟨min a.least b.least, do return max (← a.most) (← b.most)⟩

def times (a : Width) (least : Nat) (most : Option Nat) : Width :=
  ⟨a.least * least,
    if a.most = some 0 || most = some 0 then some 0 else do return (← a.most) * (← most)⟩

end Width

/-- What a piece of a pattern is to a repetition that follows it. -/
inductive PieceKind where
  | anchor
  | repetition
  | other
  deriving DecidableEq, Repr

structure Piece where
  pattern : Pattern
  width : Width
  kind : PieceKind
  deriving Repr

namespace Piece

def one (set : CharSet) : Piece := ⟨.one set, .exactly 1, .other⟩

/-- A piece that consumes nothing and cannot be repeated. -/
def place (anchor : Anchor) : Piece := ⟨.anchor anchor, .exactly 0, .anchor⟩

def sequence (pieces : List Piece) : Piece :=
  ⟨Pattern.sequence (pieces.map (·.pattern)),
    (pieces.map (·.width)).foldl Width.add (.exactly 0), .other⟩

def choice (first : Piece) (others : List Piece) : Piece :=
  ⟨Pattern.choice first.pattern (others.map (·.pattern)),
    (others.map (·.width)).foldl Width.join first.width, .other⟩

end Piece

end Descent.Pattern
