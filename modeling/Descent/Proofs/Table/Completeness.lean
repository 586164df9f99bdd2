import Descent.Proofs.Table.Accepting
import Descent.Proofs.Table.Soundness

set_option autoImplicit false

namespace Descent.SignTable

open Descent.Parser (Accepts Binary Tells Unary)

variable {σ α : Type} {table : SignTable α} {ofInt : Int → α} {text : Text} {k size : Nat}
  {row : SignRow α} {p : Parser σ α} {signs : List Char} {i : Nat} {tokens rest : List Token}
  {x : α}

/-- The first of the tokens is none of the signs. -/
def Stops (signs : List Char) (rest : List Token) : Prop :=
  ∀ c others, rest = .sign c :: others → c ∉ signs

theorem Stops.nil (signs : List Char) : Stops signs [] := by
  intro c others same
  cases same

theorem Stops.sign {c : Char} (absent : c ∉ signs) (rest : List Token) :
    Stops signs (.sign c :: rest) := by
  intro d others same
  cases same
  exact absent

theorem Stops.left {others : List Char} (stops : Stops (signs ++ others) rest) :
    Stops signs rest :=
  fun c later same member => stops c later same (List.mem_append_left _ member)

theorem Stops.right {others : List Char} (stops : Stops (signs ++ others) rest) :
    Stops others rest :=
  fun c later same member => stops c later same (List.mem_append_right _ member)

theorem Stops.listed {β : Type} {ops : List (Char × β)} {c : Char} {f : β}
    (nodup : (signs ++ ops.map Prod.fst).Nodup) (listed : (c, f) ∈ ops) (rest : List Token) :
    Stops signs (.sign c :: rest) := by
  apply Stops.sign
  intro earlier
  exact (List.nodup_append.mp nodup).2.2 c earlier c (List.mem_map_of_mem listed) rfl

/-- Where no sign of the list comes next, the parser matches each of the phrases that has no more
tokens than the size. -/
structure Reads (p : Parser σ α) (text : Text) (size : Nat) (signs : List Char)
    (phrase : List Token → α → Prop) : Prop where
  stable : p.Stable
  accepts : ∀ (i : Nat) (tokens : List Token) (x : α) (rest : List Token), i ≤ text.length →
    text.tokens i = tokens ++ rest → tokens.length ≤ size → phrase tokens x → Stops signs rest →
    p.Accepts text i x rest

theorem Reads.mono {phrase other : List Token → α → Prop} (reads : Reads p text size signs phrase)
    (weaker : ∀ tokens x, other tokens x → phrase tokens x) : Reads p text size signs other :=
  ⟨reads.stable, fun i tokens x rest within next short holds stops =>
    reads.accepts i tokens x rest within next short (weaker tokens x holds) stops⟩

section

variable {β γ : Type} {ops : List (Char × β)}

end

theorem link_stable (ops : List (Char × (α → α → α))) (stable : p.Stable) :
    ((Parser.choice (ops.map (signOf binary))).both p).Stable :=
  fun _ _ enough =>
    (Parser.Extends.choice (operators_extends binary ops)).both (stable _ _ enough)

section

variable {ops : List (Char × (α → α → α))} {operand : List Token → α → Prop}
  {links : List ((α → α → α) × α)}

/-- An operand ends where the links after it begin. -/
theorem Links.stops (chained : Links ops operand tokens links)
    (nodup : (signs ++ ops.map Prod.fst).Nodup) (stops : Stops signs rest) :
    Stops signs (tokens ++ rest) := by
  cases chained with
  | nil => exact stops
  | cons listed _ _ => exact Stops.listed nodup listed _

end

end Descent.SignTable
