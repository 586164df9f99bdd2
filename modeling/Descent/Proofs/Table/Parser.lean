import Descent.Calculator.Table
import Descent.Proofs.Parser.Budget
import Descent.Proofs.Table.Layer

set_option autoImplicit false

namespace Descent

namespace Parser

variable {σ α : Type}

def affixStage (row : Row (Unary σ α) (Binary σ α)) (operand : Parser σ α) : Parser σ α :=
  if row.before.isEmpty && row.after.isEmpty then operand
  else affixed row.before row.after operand

def chainStage (fold : α → List ((α → α → Except Fault α) × α) → Except Fault α)
    (operators : List (Binary σ α)) (operand : Parser σ α) : Parser σ α :=
  if operators.isEmpty then operand
  else (chain operand (choice operators)).tryMap fun (first, rest) => fold first rest

def singleStage (row : Row (Unary σ α) (Binary σ α)) (operand : Parser σ α) : Parser σ α :=
  if row.single.isEmpty then operand else single row.single operand

theorem level_eq_stages (row : Row (Unary σ α) (Binary σ α)) (operand : Parser σ α) :
    level row operand =
      singleStage row (chainStage foldRight row.right
        (chainStage foldLeft row.left (affixStage row operand))) :=
  rfl

end Parser

namespace SignTable

open Descent.Parser (Unary Binary Extends)

variable {σ α : Type}

def unary (f : α → α) (x : α) : Except Fault α :=
  .ok (f x)

def binary (f : α → α → α) (x y : α) : Except Fault α :=
  .ok (f x y)

def signOf {β γ : Type} (meaning : β → γ) (op : Char × β) : Parser σ γ :=
  Calculator.Table.named (String.singleton op.1) (meaning op.2)

def rowOf (row : SignRow α) : Row (Unary σ α) (Binary σ α) :=
  ⟨row.before.map (signOf unary), row.after.map (signOf unary), row.left.map (signOf binary),
    row.right.map (signOf binary), row.single.map (signOf binary)⟩

def operatorOf :
    Operator (Char × (α → α)) (Char × (α → α → α)) → Operator (Unary σ α) (Binary σ α)
  | .between associativity op => .between associativity (signOf binary op)
  | .before op => .before (signOf unary op)
  | .after op => .after (signOf unary op)
  | .nowhere op => .nowhere (signOf unary op)

def term (ofInt : Int → α) (whole : Parser σ α) : Parser σ α :=
  (Parser.between (Parser.symbol "(") (Parser.symbol ")") whole).orElse (Parser.integer.map ofInt)

/-- The parser of a table, given the parser of the rule for what stands in parentheses. -/
def body (table : SignTable α) (ofInt : Int → α) (name : String) (self : Unit → Parser Unit α)
    (_ : Unit) : Parser Unit α :=
  Parser.expression (table.rows.map (List.map operatorOf))
    (term ofInt (Parser.rule (.only name) self))

/-- The parser of a table. What stands in parentheses is parsed by a rule for the whole. -/
def parser (table : SignTable α) (ofInt : Int → α) (name : String) : Parser Unit α :=
  Parser.fix (table.body ofInt name) ()

def levelParser (table : SignTable α) (term : Parser σ α) (k : Nat) : Parser σ α :=
  Parser.expression ((table.rows.take k).map (List.map operatorOf)) term

theorem ofOperators_map (ops : List (Operator (Char × (α → α)) (Char × (α → α → α)))) :
    Row.ofOperators (ops.map operatorOf) =
      (rowOf (Row.ofOperators ops) : Row (Unary σ α) (Binary σ α)) := by
  induction ops with
  | nil => rfl
  | cons op rest ih =>
    rw [List.map_cons, Row.ofOperators, Row.ofOperators, ih]
    cases op with
    | between associativity op => cases associativity <;> rfl
    | before op => rfl
    | after op => rfl
    | nowhere op => rfl

theorem RowAt.levelParser_succ {table : SignTable α} {k : Nat} {row : SignRow α}
    (at_row : table.RowAt k row) (term : Parser σ α) :
    table.levelParser term (k + 1) = Parser.level (rowOf row) (table.levelParser term k) := by
  obtain ⟨ops, found, rfl⟩ := at_row
  unfold levelParser Parser.expression
  rw [List.take_add_one, found, Option.toList_some, List.map_append, List.foldl_append,
    List.map_singleton, List.foldl_cons, List.foldl_nil, ofOperators_map]

theorem body_eq_levelParser (table : SignTable α) (ofInt : Int → α) (name : String)
    (self : Unit → Parser Unit α) (i : Unit) :
    table.body ofInt name self i =
      table.levelParser (term ofInt (Parser.rule (.only name) self)) table.rows.length := by
  rw [levelParser, List.take_length]
  rfl

variable {little more : Nat}

theorem symbol_extends (s : String) :
    Extends little more (Parser.symbol s : Parser σ String) (Parser.symbol s) :=
  (Parser.pattern_extends _ _).between (Parser.pattern_extends _ _) (Parser.literal_extends s)

theorem term_extends (ofInt : Int → α) {whole whole' : Parser σ α}
    (inner : Extends little more whole whole') :
    Extends little more (term ofInt whole) (term ofInt whole') := by
  have integer : Extends little more (Parser.integer : Parser σ Int) Parser.integer :=
    (Parser.pattern_extends _ _).between (Parser.pattern_extends _ _)
      ((Parser.pattern_extends _ _).tryMap _)
  exact ((symbol_extends "(").between (symbol_extends ")") inner).orElse (integer.map ofInt)

theorem signOf_extends {β γ : Type} (meaning : β → γ) (op : Char × β) :
    Extends little more (signOf meaning op : Parser σ γ) (signOf meaning op) :=
  (symbol_extends _).map _

theorem operators_extends {β γ : Type} (meaning : β → γ) (ops : List (Char × β)) :
    List.Forall₂ (Extends little more) (ops.map (signOf meaning) : List (Parser σ γ))
      (ops.map (signOf meaning)) := by
  rw [List.forall₂_same]
  intro q member
  obtain ⟨op, _, rfl⟩ := List.mem_map.mp member
  exact signOf_extends meaning op

theorem rowOf_extends (row : SignRow α) :
    Parser.RowExtends little more (rowOf row : Row (Unary σ α) (Binary σ α)) (rowOf row) :=
  ⟨operators_extends unary row.before, operators_extends unary row.after,
    operators_extends binary row.left, operators_extends binary row.right,
    operators_extends binary row.single⟩

theorem levelParser_extends (table : SignTable α) (enough : little ≤ more)
    {term term' : Parser σ α} (lowest : Extends little more term term') (k : Nat)
    (within : k ≤ table.rows.length) :
    Extends little more (table.levelParser term k) (table.levelParser term' k) := by
  induction k with
  | zero => exact lowest
  | succ k ih =>
    have at_row := table.rowAt_of_lt within
    rw [at_row.levelParser_succ, at_row.levelParser_succ]
    exact Extends.level enough (rowOf_extends _) (ih (Nat.le_of_lt within))

theorem body_regular (table : SignTable α) (ofInt : Int → α) (name : String) :
    Parser.Regular (table.body ofInt name) := by
  intro little more enough self self' extended i
  rw [body_eq_levelParser, body_eq_levelParser]
  exact table.levelParser_extends enough (term_extends ofInt
    (Extends.rule _ fun _ _ => extended _)) _
    (Nat.le_refl _)

theorem parser_stable (table : SignTable α) (ofInt : Int → α) (name : String) :
    (table.parser ofInt name).Stable :=
  Parser.fix_stable (table.body_regular ofInt name) ()

end SignTable

end Descent
