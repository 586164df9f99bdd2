import Descent.Proofs.Parser.Mapping
import Descent.Proofs.Separation.Field
import Mathlib.Data.List.TakeWhile

set_option autoImplicit false

namespace Descent

variable {σ : Type}

theorem Transform.textsFrom_chars (index : Nat) (chars : List Char) :
    textsFrom index (chars.map Grammar.charValue) = .ok (chars.map String.singleton) := by
  induction chars generalizing index with
  | nil => rfl
  | cons c chars ih =>
    rw [List.map_cons, Grammar.charValue, textsFrom, ih]
    rfl

theorem Transform.join_chars (chars : List Char) :
    join (.list (chars.map Grammar.charValue)) = .ok (.str (String.ofList chars)) := by
  have joined : String.join (chars.map String.singleton) = String.ofList chars := by
    apply String.toList_injective
    rw [String.toList_join, String.toList_ofList, List.flatMap_map]
    simp
  rw [join, textsFrom_chars, Except.map, joined]

namespace Grammar

def field (c : Char) : Grammar :=
  .map (.many (noneOf [String.singleton c])) Transform.join

def filledField (c : Char) : Grammar :=
  .map (.many1 (noneOf [String.singleton c])) Transform.join

def pieceValue (piece : List Char) : Value :=
  .str (String.ofList piece)

variable (rules : Rules) (c : Char)

theorem char_meaning : (char (String.singleton c)).meaning rules =
    (Parser.satisfy (some (Parser.textLabel (String.singleton c))) (· == c)).map charValue := by
  rw [meaning, char, parser, Parser.isOnly_singleton]

theorem noneOf_meaning : (noneOf [String.singleton c]).meaning rules =
    (Parser.satisfy (some (Parser.choicesLabel "none of " [String.singleton c])) (· != c)).map
      charValue := by
  have others : (fun d => !(Parser.singles [String.singleton c]).contains d) = (· != c) := by
    funext d
    rw [Bool.eq_iff_iff]
    simp [Parser.singles]
  rw [meaning, noneOf, parser, others]

/-- Joining the characters of a row is one more function of its values. -/
theorem join_row (row : Parser σ (List Char)) :
    ((row.map (List.map charValue)).map .list).tryMap Transform.join = row.map pieceValue := by
  rw [Parser.map_map, Parser.tryMap_map]
  simp only [Transform.join_chars]
  exact Parser.tryMap_ok pieceValue row

theorem field_readsPieces (text : Text) :
    ((field c).meaning rules).ReadsPieces text c (fun _ => true) pieceValue := by
  have same : (field c).meaning rules =
    (((noneOf [String.singleton c]).meaning rules).many.map .list).tryMap Transform.join := rfl
  rw [same, noneOf_meaning, Parser.many_map, join_row]
  exact (Parser.many_readsPieces _ text c).map pieceValue

theorem filledField_readsPieces (text : Text) :
    ((filledField c).meaning rules).ReadsPieces text c
      (fun piece => !piece.isEmpty) pieceValue := by
  have same : (filledField c).meaning rules =
    (((noneOf [String.singleton c]).meaning rules).many1.map .list).tryMap Transform.join := rfl
  rw [same, noneOf_meaning, Parser.many1_map, join_row]
  exact (Parser.many1_readsPieces _ text c).map pieceValue

theorem sepBy_meaning (p separator : Grammar) : (p.sepBy separator).meaning rules =
    ((p.meaning rules).sepBy (separator.meaning rules)).map .list := by
  have same : (p.sepBy separator).meaning rules = Parser.choice
    [((p.meaning rules).sepBy1 (separator.meaning rules)).map .list, Parser.pure (.list [])] := rfl
  rw [same, Parser.choice_pair]
  exact Parser.option_map Value.list [] _

/-- Fields between separators are the pieces of the text that are taken, up to the first that is
not. -/
theorem fields_reply {p : Grammar} {text : Text} {takes : List Char → Bool}
    (reads : (p.meaning rules).ReadsPieces text c takes pieceValue) :
    let taken := (text.toList.splitOn c).takeWhile takes
    ((p.sepBy (char (String.singleton c))).meaning rules).Replies text 0
      (.success (.list (taken.map pieceValue)) ([c].intercalate taken).length) := by
  intro taken
  have stable : (p.meaning rules).Stable := p.meaning_stable rules
  rw [sepBy_meaning, char_meaning, Parser.sepBy_map_separator]
  have whole : text.remaining 0 = text.toList := rfl
  have fields := (reads.sepBy stable (some (Parser.textLabel (String.singleton c))) 0).map
    Value.list
  simp only [whole, Nat.zero_add] at fields
  exact fields

/-- A list of fields between separators is the text split at the separator, all of it. If no field
may be empty, it is what stands before the first empty piece: the list ends behind its last field,
and a separator at the end, or in front of another, is left. -/
theorem separated_fields (text : Text) :
    let separator := char (String.singleton c)
    let pieces := text.toList.splitOn c
    let filled := pieces.takeWhile fun piece => !piece.isEmpty
    (((field c).sepBy separator).meaning rules).Replies text 0
        (.success (.list (pieces.map pieceValue)) text.length) ∧
      (((filledField c).sepBy separator).meaning rules).Replies text 0
        (.success (.list (filled.map pieceValue)) ([c].intercalate filled).length) := by
  intro separator pieces filled
  have all : pieces.takeWhile (fun _ => true) = pieces :=
    List.takeWhile_eq_self_iff.mpr fun _ _ => rfl
  have fields := fields_reply rules c (field_readsPieces rules c text)
  dsimp only at fields
  rw [all, List.intercalate_splitOn, Text.length_toList] at fields
  exact ⟨fields, fields_reply rules c (filledField_readsPieces rules c text)⟩

example : (((filledField ',').sepBy (char ",")).meaning .none (Text.ofList ['a', ',', ',', 'b']) 0 9
    .fresh).result = .ok (.success (.list [.str "a"]) 1) := by
  rfl

end Grammar

end Descent
