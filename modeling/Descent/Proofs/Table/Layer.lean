import Descent.Operator
import Descent.Proofs.Table.Token

set_option autoImplicit false

namespace Descent

/-- The character may be written for an operator: it is neither a blank nor a digit nor a
parenthesis. -/
structure IsOperatorSign (c : Char) : Prop where
  blank : isBlank c = false
  digit : isAsciiDigit c = false
  opening : c ≠ '('
  closing : c ≠ ')'

instance (c : Char) : Decidable (IsOperatorSign c) :=
  decidable_of_iff (isBlank c = false ∧ isAsciiDigit c = false ∧ c ≠ '(' ∧ c ≠ ')')
    ⟨fun ⟨blank, digit, opening, closing⟩ => ⟨blank, digit, opening, closing⟩,
      fun sign => ⟨sign.blank, sign.digit, sign.opening, sign.closing⟩⟩

namespace Row

variable {unary binary : Type}

def leading (row : Row (Char × unary) (Char × binary)) : List Char :=
  row.before.map Prod.fst

def trailing (row : Row (Char × unary) (Char × binary)) : List Char :=
  row.after.map Prod.fst ++ row.left.map Prod.fst ++ row.right.map Prod.fst ++
    row.single.map Prod.fst

end Row

/-- A row of operators that are written as signs, each with its operation. -/
abbrev SignRow (α : Type) : Type :=
  Row (Char × (α → α)) (Char × (α → α → α))

/-- An operator table, from the tightest row to the loosest, with the sign and the operation of each
operator. The signs before operands are all different, and so are the signs after operands; one of
the former may be one of the latter. -/
structure SignTable (α : Type) where
  rows : List (List (Operator (Char × (α → α)) (Char × (α → α → α))))
  leading_sign : ∀ ops ∈ rows, ∀ c ∈ (Row.ofOperators ops).leading, IsOperatorSign c
  trailing_sign : ∀ ops ∈ rows, ∀ c ∈ (Row.ofOperators ops).trailing, IsOperatorSign c
  leading_nodup : (rows.flatMap fun ops => (Row.ofOperators ops).leading).Nodup
  trailing_nodup : (rows.flatMap fun ops => (Row.ofOperators ops).trailing).Nodup

/-- A layer of the grammar: what the first `k` rows make, and what the next row adds to it step by
step. -/
inductive Layer where
  | level (k : Nat)
  | prefixed (k : Nat)
  | affixed (k : Nat)
  | left (k : Nat)
  | right (k : Nat)
  deriving DecidableEq, Repr

def Layer.height : Layer → Nat
  | level k => k
  | prefixed k | affixed k | left k | right k => k + 1

namespace SignTable

variable {α : Type}

def RowAt (table : SignTable α) (k : Nat) (row : SignRow α) : Prop :=
  ∃ ops, table.rows[k]? = some ops ∧ row = Row.ofOperators ops

/-- The tokens are an expression of the layer, and it has the value. -/
inductive Derives (table : SignTable α) (ofInt : Int → α) : Layer → List Token → α → Prop where
  | number {digits : List Char} (some : digits ≠ [])
      (ascii : ∀ c ∈ digits, isAsciiDigit c = true) :
      Derives table ofInt (.level 0) [.number digits] (ofInt (Numeral.asciiValue digits))
  | parentheses {tokens : List Token} {x : α}
      (inner : Derives table ofInt (.level table.rows.length) tokens x) :
      Derives table ofInt (.level 0) (.sign '(' :: (tokens ++ [.sign ')'])) x
  | operand {k : Nat} {tokens : List Token} {x : α}
      (inner : Derives table ofInt (.level k) tokens x) :
      Derives table ofInt (.prefixed k) tokens x
  | before {k : Nat} {row : SignRow α} {c : Char} {f : α → α}
      {tokens : List Token} {x : α} (at_row : table.RowAt k row) (listed : (c, f) ∈ row.before)
      (inner : Derives table ofInt (.level k) tokens x) :
      Derives table ofInt (.prefixed k) (.sign c :: tokens) (f x)
  | bare {k : Nat} {tokens : List Token} {x : α}
      (inner : Derives table ofInt (.prefixed k) tokens x) :
      Derives table ofInt (.affixed k) tokens x
  | after {k : Nat} {row : SignRow α} {c : Char} {f : α → α}
      {tokens : List Token} {x : α} (at_row : table.RowAt k row) (listed : (c, f) ∈ row.after)
      (inner : Derives table ofInt (.prefixed k) tokens x) :
      Derives table ofInt (.affixed k) (tokens ++ [.sign c]) (f x)
  | left_first {k : Nat} {tokens : List Token} {x : α}
      (inner : Derives table ofInt (.affixed k) tokens x) : Derives table ofInt (.left k) tokens x
  | left_next {k : Nat} {row : SignRow α} {c : Char}
      {f : α → α → α} {tokens others : List Token} {x y : α} (at_row : table.RowAt k row)
      (listed : (c, f) ∈ row.left) (first : Derives table ofInt (.left k) tokens x)
      (second : Derives table ofInt (.affixed k) others y) :
      Derives table ofInt (.left k) (tokens ++ .sign c :: others) (f x y)
  | right_last {k : Nat} {tokens : List Token} {x : α}
      (inner : Derives table ofInt (.left k) tokens x) : Derives table ofInt (.right k) tokens x
  | right_next {k : Nat} {row : SignRow α} {c : Char}
      {f : α → α → α} {tokens others : List Token} {x y : α} (at_row : table.RowAt k row)
      (listed : (c, f) ∈ row.right) (first : Derives table ofInt (.left k) tokens x)
      (second : Derives table ofInt (.right k) others y) :
      Derives table ofInt (.right k) (tokens ++ .sign c :: others) (f x y)
  | alone {k : Nat} {tokens : List Token} {x : α}
      (inner : Derives table ofInt (.right k) tokens x) :
      Derives table ofInt (.level (k + 1)) tokens x
  | single {k : Nat} {row : SignRow α} {c : Char}
      {f : α → α → α} {tokens others : List Token} {x y : α} (at_row : table.RowAt k row)
      (listed : (c, f) ∈ row.single) (first : Derives table ofInt (.right k) tokens x)
      (second : Derives table ofInt (.right k) others y) :
      Derives table ofInt (.level (k + 1)) (tokens ++ .sign c :: others) (f x y)

def leadingBelow (table : SignTable α) (k : Nat) : List Char :=
  (table.rows.take k).flatMap fun ops => (Row.ofOperators ops).leading

theorem flatMap_take_succ {β γ : Type} {rows : List β} {k : Nat} {row : β} (f : β → List γ)
    (at_row : rows[k]? = some row) :
    (rows.take (k + 1)).flatMap f = (rows.take k).flatMap f ++ f row := by
  rw [List.take_add_one, at_row]
  simp

variable {table : SignTable α} {k : Nat} {row : SignRow α}

theorem rowAt_of_lt (table : SignTable α) {k : Nat} (within : k < table.rows.length) :
    table.RowAt k (Row.ofOperators table.rows[k]) :=
  ⟨table.rows[k], List.getElem?_eq_getElem within, rfl⟩

theorem RowAt.unique {other : SignRow α} (at_row : table.RowAt k row)
    (at_other : table.RowAt k other) : row = other := by
  obtain ⟨ops, found, rfl⟩ := at_row
  obtain ⟨ops', found', rfl⟩ := at_other
  cases found.symm.trans found'
  rfl

theorem RowAt.leadingBelow_succ (at_row : table.RowAt k row) :
    table.leadingBelow (k + 1) = table.leadingBelow k ++ row.leading := by
  obtain ⟨ops, found, rfl⟩ := at_row
  exact flatMap_take_succ _ found

theorem leadingBelow_mono (table : SignTable α) (k : Nat) :
    table.leadingBelow k ⊆ table.leadingBelow (k + 1) := by
  unfold leadingBelow
  rw [List.take_add_one, List.flatMap_append]
  exact List.subset_append_left _ _

theorem RowAt.leading_sign (at_row : table.RowAt k row) {c : Char} (listed : c ∈ row.leading) :
    IsOperatorSign c := by
  obtain ⟨ops, found, rfl⟩ := at_row
  exact table.leading_sign ops (List.mem_of_getElem? found) c listed

theorem RowAt.trailing_sign (at_row : table.RowAt k row) {c : Char} (listed : c ∈ row.trailing) :
    IsOperatorSign c := by
  obtain ⟨ops, found, rfl⟩ := at_row
  exact table.trailing_sign ops (List.mem_of_getElem? found) c listed

theorem RowAt.before_sign (at_row : table.RowAt k row) {c : Char} {f : α → α}
    (listed : (c, f) ∈ row.before) : IsOperatorSign c :=
  at_row.leading_sign (List.mem_map_of_mem listed)

theorem RowAt.after_sign (at_row : table.RowAt k row) {c : Char} {f : α → α}
    (listed : (c, f) ∈ row.after) : IsOperatorSign c := by
  apply at_row.trailing_sign
  have member : c ∈ row.after.map Prod.fst := List.mem_map_of_mem listed
  simp only [Row.trailing, List.mem_append]
  exact .inl (.inl (.inl member))

theorem RowAt.left_sign (at_row : table.RowAt k row) {c : Char} {f : α → α → α}
    (listed : (c, f) ∈ row.left) : IsOperatorSign c := by
  apply at_row.trailing_sign
  have member : c ∈ row.left.map Prod.fst := List.mem_map_of_mem listed
  simp only [Row.trailing, List.mem_append]
  exact .inl (.inl (.inr member))

theorem RowAt.right_sign (at_row : table.RowAt k row) {c : Char} {f : α → α → α}
    (listed : (c, f) ∈ row.right) : IsOperatorSign c := by
  apply at_row.trailing_sign
  have member : c ∈ row.right.map Prod.fst := List.mem_map_of_mem listed
  simp only [Row.trailing, List.mem_append]
  exact .inl (.inr member)

theorem RowAt.single_sign (at_row : table.RowAt k row) {c : Char} {f : α → α → α}
    (listed : (c, f) ∈ row.single) : IsOperatorSign c := by
  apply at_row.trailing_sign
  have member : c ∈ row.single.map Prod.fst := List.mem_map_of_mem listed
  simp only [Row.trailing, List.mem_append]
  exact .inr member

/-- The tokens are operators of a list, each with an operand after it; the links are their
operations and the values of the operands. -/
inductive Links (ops : List (Char × (α → α → α))) (operand : List Token → α → Prop) :
    List Token → List ((α → α → α) × α) → Prop where
  | nil : Links ops operand [] []
  | cons {c : Char} {f : α → α → α} {tokens others : List Token} {y : α}
      {links : List ((α → α → α) × α)} (listed : (c, f) ∈ ops) (first : operand tokens y)
      (rest : Links ops operand others links) :
      Links ops operand (.sign c :: (tokens ++ others)) ((f, y) :: links)

theorem Links.append {ops : List (Char × (α → α → α))} {operand : List Token → α → Prop}
    {tokens others : List Token} {links : List ((α → α → α) × α)} {c : Char} {f : α → α → α} {y : α}
    (chained : Links ops operand tokens links) (listed : (c, f) ∈ ops) (last : operand others y) :
    Links ops operand (tokens ++ .sign c :: others) (links ++ [(f, y)]) := by
  induction chained with
  | nil =>
    have one := Links.cons listed last Links.nil
    rw [List.append_nil] at one
    exact one
  | cons first_listed first _ ih =>
    have longer := Links.cons first_listed first ih
    rw [← List.append_assoc] at longer
    exact longer

namespace Derives

variable {ofInt : Int → α} {tokens others : List Token} {x : α} {links : List ((α → α → α) × α)}

end Derives

namespace Derives

variable {ofInt : Int → α} {layer : Layer} {tokens : List Token} {x : α}

/-- An expression begins with a number, a parenthesis, or a sign before operands of a row that has a
part in its layer. -/
theorem starts (derives : table.Derives ofInt layer tokens x) :
    ∃ t rest, tokens = t :: rest ∧
      ∀ c, t = .sign c → c = '(' ∨ c ∈ table.leadingBelow layer.height := by
  induction derives with
  | number some ascii => exact ⟨_, _, rfl, fun c same => by cases same⟩
  | parentheses inner _ =>
    refine ⟨_, _, rfl, ?_⟩
    intro c same
    cases same
    exact .inl rfl
  | @operand k tokens x inner ih =>
    obtain ⟨t, rest, first, lead⟩ := ih
    exact ⟨t, rest, first, fun c same => (lead c same).imp_right (table.leadingBelow_mono k ·)⟩
  | @before k row c f tokens x at_row listed inner _ =>
    refine ⟨_, _, rfl, ?_⟩
    intro d same
    cases same
    right
    show c ∈ table.leadingBelow (k + 1)
    rw [at_row.leadingBelow_succ]
    exact List.mem_append_right _ (List.mem_map_of_mem listed)
  | bare inner ih | left_first inner ih | right_last inner ih | alone inner ih => exact ih
  | after _ _ inner ih | left_next _ _ inner _ ih | right_next _ _ inner _ ih
  | single _ _ inner _ ih =>
    obtain ⟨t, rest, rfl, lead⟩ := ih
    exact ⟨t, _, List.cons_append, lead⟩

theorem readable (derives : table.Derives ofInt layer tokens x) : Token.Readable tokens := by
  induction derives with
  | number some ascii => exact .number some ascii (fun others => by simp) .nil
  | parentheses inner ih =>
    have closed := ih.append (show isBlank ')' = false by decide) (by decide) .nil
    exact .sign (by decide) (by decide) closed
  | operand inner ih | bare inner ih | left_first inner ih | right_last inner ih
  | alone inner ih => exact ih
  | before at_row listed inner ih =>
    have sign := at_row.before_sign listed
    exact .sign sign.blank sign.digit ih
  | after at_row listed inner ih =>
    have sign := at_row.after_sign listed
    exact ih.append sign.blank sign.digit .nil
  | left_next at_row listed first second first_ih second_ih =>
    have sign := at_row.left_sign listed
    exact first_ih.append sign.blank sign.digit second_ih
  | right_next at_row listed first second first_ih second_ih =>
    have sign := at_row.right_sign listed
    exact first_ih.append sign.blank sign.digit second_ih
  | single at_row listed first second first_ih second_ih =>
    have sign := at_row.single_sign listed
    exact first_ih.append sign.blank sign.digit second_ih

end Derives

end SignTable

end Descent
