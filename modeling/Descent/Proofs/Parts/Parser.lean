import Descent.Grammar.Meaning
import Descent.Proofs.Parser.Mapping
import Descent.Proofs.Parser.Promise
import Descent.Proofs.Parts.Value

set_option autoImplicit false

namespace Descent

variable {σ : Type}

/-- The value of a reply; a failure has null in its place. -/
def Reply.valueOrNull : Reply Value → Value
  | success value _ => value
  | failure _ => .null

/-- Where a match ends, or where a failure is reported. -/
def Reply.place {α : Type} : Reply α → Int
  | success _ stop => stop
  | failure refusal => refusal.pos

namespace Parts

open Descent.Action (Ensures)
open Descent.Grammar (unary binary)

def list (ps : List (Parser σ Value)) : Parser σ Value :=
  (Parser.sequence ps).map .list

def pair (p q : Parser σ Value) : Parser σ Value :=
  p.bind fun a => q.map fun b => .list [a, b]

def many (p : Parser σ Value) : Parser σ Value :=
  p.many.map .list

/-- The value of a match in front of the list that the repetition after it is said to have. -/
def many1 (p : Parser σ Value) : Parser σ Value := fun text pos => do
  match ← p text pos with
  | .failure failure => return .failure (failure.anchor pos)
  | .success value stop =>
    if stop = pos then return .success (.list []) pos
    else
      let tail ← many p text stop
      return .success (← Action.ofExcept (prepend value tail.valueOrNull)) tail.place

def sepBy1 (p separator : Parser σ Value) : Parser σ Value :=
  (list [p, many (separator.seqRight p)]).tryMap joined

def chainl1 (calls : Calls) (p operator : Parser σ Value) : Parser σ Value :=
  (list [p, many (pair operator p)]).tryMap (chainedLeft calls)

def chainr1 (calls : Calls) (p operator : Parser σ Value) : Parser σ Value :=
  (list [p, many (pair operator p)]).tryMap (chainedRight calls)

def between (opening closing p : Parser σ Value) : Parser σ Value :=
  (list [opening, p, closing]).tryMap (item 1)

/-- One of some operators, or null. -/
def affix (operators : List (Parser σ Value)) : Parser σ Value :=
  Parser.option .null (Parser.choice operators)

def affixes (calls : Calls) (before after : List (Parser σ Value)) (operand : Parser σ Value) :
    Parser σ Value :=
  (list [affix before, operand, affix after]).tryMap (affixed calls)

def single (calls : Calls) (operators : List (Parser σ Value)) (operand : Parser σ Value) :
    Parser σ Value :=
  (list [operand, Parser.option .null (pair (Parser.choice operators) operand)]).tryMap
    (appliedOnce calls)

def level (calls : Calls) (row : Row (Parser σ Value) (Parser σ Value)) (operand : Parser σ Value) :
    Parser σ Value :=
  let operand := if row.before.isEmpty && row.after.isEmpty then operand
    else affixes calls row.before row.after operand
  let operand :=
    if row.left.isEmpty then operand else chainl1 calls operand (Parser.choice row.left)
  let operand :=
    if row.right.isEmpty then operand else chainr1 calls operand (Parser.choice row.right)
  if row.single.isEmpty then operand else single calls row.single operand

theorem list_pair (p q : Parser σ Value) :
    list [p, q] = (p.both q).map fun (a, b) => .list [a, b] := by
  rw [list, Parser.sequence_pair, Parser.map_map]

theorem list_triple (p q r : Parser σ Value) :
    list [p, q, r] = ((p.both q).both r).map fun ((a, b), c) => .list [a, b, c] := by
  rw [list, Parser.sequence_triple, Parser.map_map]

theorem pair_eq (p q : Parser σ Value) : pair p q = (p.both q).map packed := by
  simp only [pair, Parser.both, Parser.map_bind, Parser.map_map, packed]

/-- A repetition never fails, so there is a list to put the first value in front of. -/
theorem many_matches (p : Parser σ Value) (text : Text) (pos : Int) :
    Ensures (p.many text pos) fun reply => ∃ values stop, reply = .success values stop := by
  apply Parser.many_ensures
  intro rounds
  induction rounds generalizing pos with
  | zero => exact Ensures.exhausted _
  | succ rounds ih =>
    refine (Ensures.always (p text pos)).bind ?_
    rintro (⟨value, stop⟩ | refusal) -
    · by_cases stays : stop = pos
      · simp only [stays, ↓reduceIte]
        exact Ensures.pure ⟨_, _, rfl⟩
      · simp only [stays, ↓reduceIte]
        refine (ih stop).bind ?_
        rintro _ ⟨values, last, rfl⟩
        exact Ensures.pure ⟨_, _, rfl⟩
    · exact Ensures.pure ⟨_, _, rfl⟩

theorem many1_eq (p : Parser σ Value) : many1 p = p.many1.map .list := by
  funext text pos
  simp only [many1, Parser.map, Parser.many1, bind_assoc]
  refine bind_congr ?_
  rintro (⟨value, stop⟩ | refusal)
  · by_cases stays : stop = pos
    · simp only [stays, ↓reduceIte, pure_bind]
      rfl
    · simp only [stays, ↓reduceIte, many, Parser.map, bind_assoc, pure_bind]
      -- a tail that failed would have null in place of its values
      apply (many_matches p text stop).bind_congr
      rintro _ ⟨values, last, rfl⟩
      rfl
  · rfl

theorem sepBy1_eq (p separator : Parser σ Value) :
    sepBy1 p separator = (p.sepBy1 separator).map .list := by
  rw [sepBy1, list_pair, many, Parser.both_map_second, Parser.map_map, Parser.tryMap_map,
    Parser.sepBy1, Parser.map_map, ← Parser.tryMap_ok]
  exact congrArg (Parser.tryMap · _) (funext fun parts => joined_list parts.1 parts.2)

/-- The parts of a chain in a list are what the typed chain has. -/
theorem chain_eq (p operator : Parser σ Value) :
    list [p, many (pair operator p)] = (p.both (operator.both p).many).map fun (first, links) =>
      .list [first, .list (links.map packed)] := by
  rw [list_pair, many, pair_eq, Parser.many_map, Parser.map_map, Parser.both_map_second,
    Parser.map_map]
  rfl

theorem chain_binary (calls : Calls) (p operator : Parser σ Value) :
    p.chain (binary calls operator) = (p.both (operator.both p).many).map fun (first, links) =>
      (first, links.map (opened calls)) := by
  rw [Parser.chain, binary, Parser.map_both]
  show p.both (((operator.both p).map (opened calls)).many) = _
  rw [Parser.many_map, Parser.both_map_second]
  rfl

theorem chainl1_eq (calls : Calls) (p operator : Parser σ Value) :
    chainl1 calls p operator = Parser.chainl1 p (binary calls operator) := by
  rw [chainl1, chain_eq, Parser.tryMap_map, Parser.chainl1, chain_binary, Parser.tryMap_map]
  congr
  funext (first, links)
  exact chainedLeft_list calls first links

theorem chainr1_eq (calls : Calls) (p operator : Parser σ Value) :
    chainr1 calls p operator = Parser.chainr1 p (binary calls operator) := by
  rw [chainr1, chain_eq, Parser.tryMap_map, Parser.chainr1, chain_binary, Parser.tryMap_map]
  congr
  funext (first, links)
  exact chainedRight_list calls first links

theorem between_eq (opening closing p : Parser σ Value) :
    between opening closing p = Parser.between opening closing p := by
  have picked : between opening closing p =
      ((opening.both p).both closing).tryMap fun parts => .ok parts.1.2 := by
    rw [between, list_triple, Parser.tryMap_map]
    rfl
  rw [picked, Parser.tryMap_ok, Parser.between, Parser.seqLeft, ← Parser.both_snd, Parser.bind_map]
  simp only [Parser.both, Parser.map_bind, Parser.map_map]

theorem affix_eq (operators : List (Parser σ Value)) :
    affix operators = (Parser.optional (Parser.choice operators)).map (Option.getD · .null) := by
  rw [affix, Parser.option_eq_optional]

theorem choice_unary (calls : Calls) (operators : List (Parser σ Value)) :
    Parser.choice (operators.map (unary calls)) = unary calls (Parser.choice operators) :=
  Parser.choice_map calls.affix operators

theorem choice_binary (calls : Calls) (operators : List (Parser σ Value)) :
    Parser.choice (operators.map (binary calls)) = binary calls (Parser.choice operators) :=
  Parser.choice_map calls.two operators

/-- Null stands for no operator just where there is none. -/
theorem affixes_eq (calls : Calls) (before after : List (Parser σ Value))
    (operand : Parser σ Value) : affixes calls before after operand =
      Parser.affixed (before.map (unary calls)) (after.map (unary calls)) operand := by
  rw [affixes, list_triple, affix_eq, affix_eq, Parser.map_both, Parser.both_map, Parser.map_map,
    Parser.tryMap_map, Parser.affixed, choice_unary, choice_unary, unary, unary,
    Parser.optional_map, Parser.optional_map, Parser.map_both, Parser.both_map, Parser.tryMap_map]
  congr
  funext ((before, operand), after)
  exact affixed_list calls before after operand

theorem single_eq (calls : Calls) (operators : List (Parser σ Value)) (operand : Parser σ Value) :
    single calls operators operand = Parser.single (operators.map (binary calls)) operand := by
  rw [single, pair_eq, Parser.option_eq_optional, Parser.optional_map, Parser.map_map, list_pair,
    Parser.both_map_second, Parser.map_map, Parser.tryMap_map, Parser.single, choice_binary, binary,
    Parser.map_both]
  show _ = (operand.both (Parser.optional (((Parser.choice operators).both operand).map
    (opened calls)))).tryMap _
  rw [Parser.optional_map, Parser.both_map_second, Parser.tryMap_map]
  congr
  funext (first, tail)
  exact appliedOnce_list calls first tail

theorem level_eq (calls : Calls) (row : Row (Parser σ Value) (Parser σ Value))
    (operand : Parser σ Value) : level calls row operand =
      Parser.level ⟨row.before.map (unary calls), row.after.map (unary calls),
        row.left.map (binary calls),
        row.right.map (binary calls), row.single.map (binary calls)⟩ operand := by
  simp only [level, Parser.level, List.isEmpty_map, affixes_eq, chainl1_eq, chainr1_eq, single_eq,
    choice_binary]

end Parts

end Descent
