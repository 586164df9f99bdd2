import Descent.Proofs.Parser.Interchange
import Descent.Proofs.Table.Parser

set_option autoImplicit false

namespace Descent

section

variable {unary binary : Type} {one : unary → Prop} {two : binary → Prop}

/-- The parser of the operator has the property for its kind. An operator of no position may be of
any parser. -/
def Operator.Each (one : unary → Prop) (two : binary → Prop) : Operator unary binary → Prop
  | .between _ parser => two parser
  | .before parser => one parser
  | .after parser => one parser
  | .nowhere _ => True

structure Row.Each (one : unary → Prop) (two : binary → Prop) (row : Row unary binary) : Prop where
  before : ∀ p ∈ row.before, one p
  after : ∀ p ∈ row.after, one p
  left : ∀ p ∈ row.left, two p
  right : ∀ p ∈ row.right, two p
  single : ∀ p ∈ row.single, two p

theorem Row.Each.cons {operator : Operator unary binary} {row : Row unary binary}
    (first : operator.Each one two) (rest : row.Each one two) :
    (row.cons operator).Each one two := by
  cases operator with
  | between associativity parser =>
    have more {parsers : List binary} (all : ∀ p ∈ parsers, two p) :
        ∀ p ∈ parser :: parsers, two p :=
      List.forall_mem_cons.mpr ⟨first, all⟩
    cases associativity with
    | left => exact { rest with left := more rest.left }
    | right => exact { rest with right := more rest.right }
    | none => exact { rest with single := more rest.single }
  | before parser => exact { rest with before := List.forall_mem_cons.mpr ⟨first, rest.before⟩ }
  | after parser => exact { rest with after := List.forall_mem_cons.mpr ⟨first, rest.after⟩ }
  | nowhere parser => exact rest

theorem Row.each_ofOperators {operators : List (Operator unary binary)}
    (all : ∀ operator ∈ operators, operator.Each one two) :
    (Row.ofOperators operators).Each one two := by
  induction operators with
  | nil => exact ⟨nofun, nofun, nofun, nofun, nofun⟩
  | cons operator rest ih =>
    obtain ⟨first, others⟩ := List.forall_mem_cons.mp all
    exact (ih others).cons first

end

namespace Parser

variable {σ α : Type} {text : Text} {place : Int → Prop} {p q : Parser σ α}
  {row : Row (Unary σ α) (Binary σ α)}

namespace Interchangeable

theorem chain {operator : Binary σ α} (same : Interchangeable text place p q)
    (within : operator.Within text place) :
    Interchangeable text place (p.chain operator) (q.chain operator) :=
  same.both (within.interchangeable.both same).many

theorem affixStage (same : Interchangeable text place p q)
    (before : ∀ r ∈ row.before, r.Within text place)
    (after : ∀ r ∈ row.after, r.Within text place) :
    Interchangeable text place (affixStage row p) (affixStage row q) := by
  unfold Parser.affixStage
  split
  · exact same
  · have front := (Within.choice before).interchangeable.optional
    have back := (Within.choice after).interchangeable.optional
    exact ((front.both same).both back).tryMap _

theorem chainStage (fold : α → List ((α → α → Except Fault α) × α) → Except Fault α)
    {operators : List (Binary σ α)} (same : Interchangeable text place p q)
    (all : ∀ r ∈ operators, r.Within text place) :
    Interchangeable text place (chainStage fold operators p) (chainStage fold operators q) := by
  unfold Parser.chainStage
  split
  · exact same
  · exact (same.chain (.choice all)).tryMap _

theorem singleStage (same : Interchangeable text place p q)
    (all : ∀ r ∈ row.single, r.Within text place) :
    Interchangeable text place (singleStage row p) (singleStage row q) := by
  unfold Parser.singleStage
  split
  · exact same
  · have links := (Within.choice all).interchangeable.both same
    exact (same.both links.optional).tryMap _

theorem level (same : Interchangeable text place p q)
    (each : row.Each (Within text place) (Within text place)) :
    Interchangeable text place (Parser.level row p) (Parser.level row q) := by
  rw [level_eq_stages, level_eq_stages]
  have affixes := same.affixStage each.before each.after
  have lefts := affixes.chainStage foldLeft each.left
  have rights := lefts.chainStage foldRight each.right
  exact rights.singleStage each.single

theorem expression {table : List (List (Operator (Unary σ α) (Binary σ α)))}
    (same : Interchangeable text place p q)
    (each : ∀ operators ∈ table, ∀ operator ∈ operators,
      operator.Each (Within text place) (Within text place)) :
    Interchangeable text place (Parser.expression table p) (Parser.expression table q) := by
  induction table generalizing p q with
  | nil => exact same
  | cons operators rest ih =>
    obtain ⟨first, others⟩ := List.forall_mem_cons.mp each
    exact ih (same.level (Row.each_ofOperators first)) others

end Interchangeable

end Parser

end Descent
