import Descent.Proofs.Parser.Primitive
import Descent.Proofs.Repetition.Agreement

set_option autoImplicit false

namespace Descent

variable {c : Char}

/-- A list falls into a first piece and others behind separators, and no separator is left in them.
-/
theorem splitOn_pieces (c : Char) (chars : List Char) :
    ∃ first rest, chars.splitOn c = first :: rest ∧ chars = first ++ rest.flatMap (c :: ·) ∧
      ∀ piece ∈ first :: rest, c ∉ piece := by
  induction chars with
  | nil => exact ⟨[], [], List.splitOn_nil c, rfl, by simp⟩
  | cons d chars ih =>
    obtain ⟨first, rest, split, rfl, free⟩ := ih
    rw [List.splitOn_cons_eq_if_modifyHead, split]
    by_cases separates : d = c
    · subst separates
      exact ⟨[], first :: rest, if_pos (beq_self_eq_true d), rfl,
        List.forall_mem_cons.mpr ⟨List.not_mem_nil, free⟩⟩
    · obtain ⟨free_first, free_rest⟩ := List.forall_mem_cons.mp free
      refine ⟨d :: first, rest, if_neg (by simpa using separates), rfl,
        List.forall_mem_cons.mpr ⟨?_, free_rest⟩⟩
      simp [free_first, Ne.symm separates]

theorem intercalate_singleton_cons (c : Char) (first : List Char) (rest : List (List Char)) :
    [c].intercalate (first :: rest) = first ++ rest.flatMap (c :: ·) := by
  induction rest generalizing first with
  | nil => simp
  | cons piece rest ih =>
    rw [List.intercalate_cons_cons, ih, List.flatMap_cons, List.append_assoc, List.singleton_append,
      List.cons_append]

theorem takeWhile_piece {piece : List Char} (free : c ∉ piece) (rest : List (List Char)) :
    (piece ++ rest.flatMap (c :: ·)).takeWhile (· != c) = piece := by
  have before : ∀ d ∈ piece, (d != c) = true := fun d member =>
    bne_iff_ne.mpr fun same => free (same ▸ member)
  apply Text.takeWhile_exact before
  intro d next
  cases rest with
  | nil => cases next
  | cons first rest =>
    cases next
    exact bne_self_eq_false c

/-- Where a piece stands, it ends before the next separator, and behind it the others are left. -/
theorem Text.remaining_piece {text : Text} {i : Nat} {piece : List Char} {rest : List (List Char)}
    (free : c ∉ piece) (left : text.remaining i = piece ++ rest.flatMap (c :: ·)) :
    (text.remaining i).takeWhile (· != c) = piece ∧
      text.remaining (i + piece.length) = rest.flatMap (c :: ·) := by
  rw [Text.remaining_add, left, takeWhile_piece free, List.drop_left]
  exact ⟨rfl, rfl⟩

namespace Parser

variable {σ α β : Type} {p : Parser σ α} {text : Text} {i : Nat}

variable {expected : Option String} {accepts : Char → Bool}

theorem satisfy_stable (expected : Option String) (accepts : Char → Bool) :
    (satisfy expected accepts : Parser σ Char).Stable :=
  fun _ _ _ => satisfy_extends expected accepts

/-- A character that is accepted stands at the index and is matched, or none does and the parser
fails. -/
theorem satisfy_cases (expected : Option String) (accepts : Char → Bool) (text : Text) (i : Nat) :
    (∃ c, text.remaining i = c :: text.remaining (i + 1) ∧ accepts c = true ∧
      (satisfy expected accepts : Parser σ Char).Replies text i (.success c (i + 1 : Nat))) ∨
    (text.remaining i).takeWhile accepts = [] ∧
      (satisfy expected accepts : Parser σ Char).Replies text i (.failure (.leaf i expected)) := by
  cases next : text.toList[i]? with
  | none =>
    rw [Text.remaining_eq_nil next]
    exact .inr ⟨rfl, .of_eq_pure (satisfy_of_none next)⟩
  | some c =>
    by_cases accepted : accepts c = true
    · have matched : (satisfy expected accepts : Parser σ Char) text i =
          pure (.success c (i + 1 : Nat)) := by
        rw [satisfy_of_some next, if_pos accepted]
      exact .inl ⟨c, Text.remaining_eq_cons next, accepted, .of_eq_pure matched⟩
    · have refused : (satisfy expected accepts : Parser σ Char) text i =
          pure (.failure (.leaf i expected)) := by
        rw [satisfy_of_some next, if_neg accepted]
      rw [Text.remaining_eq_cons next, List.takeWhile_cons_of_neg accepted]
      exact .inr ⟨rfl, .of_eq_pure refused⟩

/-- The characters that are accepted in a row are the longest row of matches. -/
theorem satisfy_greedy (expected : Option String) (accepts : Char → Bool) (text : Text) (i : Nat) :
    (satisfy expected accepts : Parser σ Char).Greedy text i ((text.remaining i).takeWhile accepts)
      (i + ((text.remaining i).takeWhile accepts).length : Nat) := by
  induction left : text.remaining i generalizing i with
  | nil =>
    obtain ⟨c, more, _⟩ | ⟨_, refused⟩ := satisfy_cases expected accepts text i
    · exact nomatch left.symm.trans more
    · exact ⟨.none i, .refused _ refused⟩
  | cons c rest ih =>
    obtain ⟨d, more, accepted, matched⟩ | ⟨ended, refused⟩ := satisfy_cases expected accepts text i
    · obtain ⟨rfl, behind⟩ := List.cons.inj (left.symm.trans more)
      obtain ⟨rounds, rests⟩ := ih (i + 1) behind.symm
      rw [List.takeWhile_cons_of_pos accepted, List.length_cons, Nat.add_comm _ 1, ← Nat.add_assoc]
      exact ⟨.next matched (by omega) rounds, rests⟩
    · rw [← left, ended]
      exact ⟨.none i, .refused _ refused⟩

/-- The parser reads the piece that stands before the next separator, wherever it is one that it
takes, and fails where it is not. -/
structure ReadsPieces (p : Parser σ α) (text : Text) (c : Char) (takes : List Char → Bool)
    (value : List Char → α) : Prop where
  matched : ∀ (i : Nat) piece, (text.remaining i).takeWhile (· != c) = piece → takes piece = true →
    p.Replies text i (.success (value piece) (i + piece.length : Nat))
  refused : ∀ (i : Nat) piece, (text.remaining i).takeWhile (· != c) = piece →
    ¬ takes piece = true →
    ∃ refusal, p.Replies text i (.failure refusal)

theorem ReadsPieces.map {takes : List Char → Bool} {value : List Char → α}
    (reads : p.ReadsPieces text c takes value) (f : α → β) :
    (p.map f).ReadsPieces text c takes fun piece => f (value piece) where
  matched i piece stands taken := (reads.matched i piece stands taken).map f
  refused i piece stands left := by
    obtain ⟨refusal, refused⟩ := reads.refused i piece stands left
    exact ⟨refusal, refused.map f⟩

/-- Any characters but the separator are a field, and no character is one too. -/
theorem many_readsPieces (expected : Option String) (text : Text) (c : Char) :
    (satisfy expected (· != c) : Parser σ Char).many.ReadsPieces text c (fun _ => true) id where
  matched i piece stands _ := by
    subst stands
    exact (satisfy_greedy expected (· != c) text i).many (satisfy_stable expected _)
  refused _ _ _ left := absurd rfl left

/-- Characters that are not the separator are a field if there is one at least. -/
theorem many1_readsPieces (expected : Option String) (text : Text) (c : Char) :
    (satisfy expected (· != c) : Parser σ Char).many1.ReadsPieces text c
      (fun piece => !piece.isEmpty) id where
  matched i piece stands taken := by
    subst stands
    obtain ⟨_, _, _, replies⟩ | ⟨refusal, refused, _⟩ :=
      (satisfy_greedy expected (· != c) text i).many1 (satisfy_stable expected _)
    · exact replies
    · obtain ⟨d, _, _, matched⟩ | ⟨ended, _⟩ := satisfy_cases expected (· != c) text i
      · exact nomatch matched.unique refused
      · simp [ended] at taken
  refused i piece stands left := by
    subst stands
    obtain ⟨d, more, accepted, _⟩ | ⟨_, refused⟩ := satisfy_cases expected (· != c) text i
    · simp [more, accepted] at left
    · exact ⟨_, refused.many1_refused⟩

theorem Replies.sepBy1 {separator : Parser σ β} {pos middle stop : Int} {value : α}
    {values : List α} (first : p.Replies text pos (.success value middle))
    (others : (separator.seqRight p).many.Replies text middle (.success values stop)) :
    (p.sepBy1 separator).Replies text pos (.success (value :: values) stop) :=
  (first.both others).map _

theorem Replies.sepBy1_refused {pos : Int} {refusal : Failure}
    (refused : p.Replies text pos (.failure refusal)) (separator : Parser σ β) :
    (p.sepBy1 separator).Replies text pos (.failure (refusal.anchor pos)) :=
  (refused.bind_refused _).map _

variable {takes : List Char → Bool} {value : List Char → α}

/-- A separator and the piece behind it are one round if the parser takes the piece; otherwise both
are left. -/
theorem ReadsPieces.round (reads : p.ReadsPieces text c takes value) (separator : Option String)
    {piece : List Char} {rest : List (List Char)} (free : c ∉ piece)
    (left : text.remaining i = c :: piece ++ rest.flatMap (c :: ·)) :
    (takes piece = true ∧ text.remaining (i + (1 + piece.length)) = rest.flatMap (c :: ·) ∧
      ((satisfy separator (· == c)).seqRight p).Replies text i
        (.success (value piece) (i + (1 + piece.length) : Nat))) ∨
    ¬ takes piece = true ∧ ∃ refusal,
      ((satisfy separator (· == c)).seqRight p).Replies text i (.failure refusal) := by
  obtain ⟨d, more, _, matched⟩ | ⟨ended, _⟩ := satisfy_cases separator (· == c) text i
  · obtain ⟨rfl, behind⟩ := List.cons.inj (left.symm.trans more)
    obtain ⟨stands, after⟩ := Text.remaining_piece free behind.symm
    by_cases taken : takes piece = true
    · rw [← Nat.add_assoc]
      exact .inl ⟨taken, after, matched.seqRight (reads.matched (i + 1) piece stands taken)⟩
    · obtain ⟨refusal, refused⟩ := reads.refused (i + 1) piece stands taken
      exact .inr ⟨taken, _, matched.seqRight refused⟩
  · simp [left] at ended

/-- Behind a field the next ones are read, each with the separator in front of it, as long as the
parser takes them. -/
theorem ReadsPieces.greedy (reads : p.ReadsPieces text c takes value) (separator : Option String)
    {rest : List (List Char)} (free : ∀ piece ∈ rest, c ∉ piece)
    (left : text.remaining i = rest.flatMap (c :: ·)) :
    ((satisfy separator (· == c)).seqRight p).Greedy text i ((rest.takeWhile takes).map value)
      (i + ((rest.takeWhile takes).flatMap (c :: ·)).length : Nat) := by
  induction rest generalizing i with
  | nil =>
    obtain ⟨d, more, _⟩ | ⟨_, refused⟩ := satisfy_cases separator (· == c) text i
    · exact nomatch left.symm.trans more
    · exact ⟨.none i, .refused _ (refused.bind_refused _)⟩
  | cons piece rest ih =>
    obtain ⟨free_piece, free_rest⟩ := List.forall_mem_cons.mp free
    obtain ⟨taken, after, matched⟩ | ⟨left, refusal, refused⟩ :=
      reads.round separator free_piece left
    · obtain ⟨rounds, rests⟩ := ih free_rest after
      have stop : i + (c :: piece ++ (rest.takeWhile takes).flatMap (c :: ·)).length =
          i + (1 + piece.length) + ((rest.takeWhile takes).flatMap (c :: ·)).length := by
        rw [List.length_append, List.length_cons]
        omega
      rw [List.takeWhile_cons_of_pos taken, List.map_cons, List.flatMap_cons, stop]
      exact ⟨.next matched (by omega) rounds, rests⟩
    · rw [List.takeWhile_cons_of_neg left]
      exact ⟨.none i, .refused refusal refused⟩

/-- A list of fields is the longest row of pieces that the parser takes, from the first piece on,
and ends behind them with the separators between them. -/
theorem ReadsPieces.sepBy (reads : p.ReadsPieces text c takes value) (stable : p.Stable)
    (separator : Option String) (i : Nat) :
    let taken := ((text.remaining i).splitOn c).takeWhile takes
    (p.sepBy (satisfy separator (· == c))).Replies text i
      (.success (taken.map value) (i + ([c].intercalate taken).length : Nat)) := by
  intro taken
  obtain ⟨first, rest, split, left, free⟩ := splitOn_pieces c (text.remaining i)
  obtain ⟨free_first, free_rest⟩ := List.forall_mem_cons.mp free
  obtain ⟨stands, behind⟩ := Text.remaining_piece free_first left
  by_cases takes_first : takes first = true
  · have all : taken = first :: rest.takeWhile takes := by
      show ((text.remaining i).splitOn c).takeWhile takes = _
      rw [split, List.takeWhile_cons_of_pos takes_first]
    have stable_round : ((satisfy separator (· == c)).seqRight p).Stable := fun _ _ enough =>
      (satisfy_extends separator _).seqRight (stable _ _ enough)
    have others := (reads.greedy separator free_rest behind).many stable_round
    rw [all, intercalate_singleton_cons, List.length_append, ← Nat.add_assoc]
    exact ((reads.matched i first stands takes_first).sepBy1 others).orElse_match _
  · have none : taken = [] := by
      show ((text.remaining i).splitOn c).takeWhile takes = _
      rw [split, List.takeWhile_cons_of_neg takes_first]
    obtain ⟨refusal, refused⟩ := reads.refused i first stands takes_first
    rw [none]
    exact (refused.sepBy1_refused _).orElse_refused (.pure [])

end Parser

end Descent
