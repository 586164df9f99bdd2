import Descent.Proofs.Table.Parser
import Descent.Proofs.Table.Taking

set_option autoImplicit false

namespace Descent.SignTable

open Descent.Action (Ensures)
open Descent.Parser (Takes foldLeft foldRight)

variable {σ α : Type} {table : SignTable α} {ofInt : Int → α} {text : Text} {k : Nat}
  {row : SignRow α} {p : Parser σ α}

def yielded (links : List ((α → α → α) × α)) : List ((α → α → Except Fault α) × α) :=
  links.map fun (f, y) => (binary f, y)

def Linked (ops : List (Char × (α → α → α))) (operand : List Token → α → Prop)
    (taken : List Token) (link : (α → α → Except Fault α) × α) : Prop :=
  ∃ c f others, (c, f) ∈ ops ∧ taken = .sign c :: others ∧ link.1 = binary f ∧
    operand others link.2

def Chained (ops : List (Char × (α → α → α))) (operand : List Token → α → Prop)
    (taken : List Token) (parts : α × List ((α → α → Except Fault α) × α)) : Prop :=
  ∃ front back links, taken = front ++ back ∧ parts.2 = yielded links ∧ operand front parts.1 ∧
    Links ops operand back links

section

variable {ops : List (Char × (α → α → α))} {operand : List Token → α → Prop}

end

end Descent.SignTable
