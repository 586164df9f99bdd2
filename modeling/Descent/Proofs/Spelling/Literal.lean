import Descent.Proofs.Parser.Composed
import Descent.Proofs.Parser.Mapping
import Descent.Proofs.Parser.Primitive
import Descent.Proofs.Separation.Grammar

set_option autoImplicit false

namespace Descent

variable {σ : Type}

/-- The longest list that two lists begin with. -/
def commonPrefix : List Char → List Char → List Char
  | c :: rest, d :: others => if c = d then c :: commonPrefix rest others else []
  | _, _ => []

/-- What both lists begin with is just what their common prefix begins with, so there is no longer
one. -/
theorem isPrefix_commonPrefix_iff {start left right : List Char} :
    start <+: commonPrefix left right ↔ start <+: left ∧ start <+: right := by
  induction left generalizing start right with
  | nil => cases start <;> simp [commonPrefix]
  | cons c rest ih =>
    cases right with
    | nil => cases start <;> simp [commonPrefix]
    | cons d others =>
      cases start with
      | nil => simp
      | cons e start =>
        -- what begins with `e` begins both lists only if `e` is the head of each
        rw [commonPrefix]
        by_cases same : c = d
        · subst same
          rw [if_pos rfl, List.cons_prefix_cons, List.cons_prefix_cons, List.cons_prefix_cons, ih]
          exact and_and_left
        · rw [if_neg same, List.cons_prefix_cons, List.cons_prefix_cons]
          constructor
          · intro none
            exact absurd (List.prefix_nil.mp none) (List.cons_ne_nil e start)
          · rintro ⟨⟨rfl, -⟩, rfl, -⟩
            exact absurd rfl same

theorem commonPrefix_left (left right : List Char) : commonPrefix left right <+: left :=
  (isPrefix_commonPrefix_iff.mp (List.prefix_refl _)).1

theorem commonPrefix_right (left right : List Char) : commonPrefix left right <+: right :=
  (isPrefix_commonPrefix_iff.mp (List.prefix_refl _)).2

section

variable {left right later : List Char} {c : Char}
  (split : left = commonPrefix left right ++ c :: later)

include split

theorem past_common_left : commonPrefix left right ++ [c] <+: left := by
  refine ⟨later, ?_⟩
  rw [List.append_assoc]
  exact split.symm

/-- What comes next in one list does not come next in the other. -/
theorem past_common_right : ¬ commonPrefix left right ++ [c] <+: right := by
  intro further
  have bound := (isPrefix_commonPrefix_iff.mpr ⟨past_common_left split, further⟩).length_le
  rw [List.length_append, List.length_singleton] at bound
  omega

end

namespace Parser

variable {text : Text} {i : Nat} {c : Char}

def characters (chars : List Char) : List (Parser σ Char) :=
  chars.map fun c => char (String.singleton c)

theorem char_of_next {later : List Char} (left : text.remaining i = c :: later) :
    (char (String.singleton c) : Parser σ Char) text i =
      Pure.pure (.success c ((i + 1 : Nat) : Int)) := by
  have next := (Text.remaining_eq_cons_iff.mp left).1
  rw [char, satisfy_of_some next, isOnly_singleton, if_pos (beq_self_eq_true c)]

theorem char_of_other (absent : ¬ [c] <+: text.remaining i) :
    (char (String.singleton c) : Parser σ Char) text i =
      Pure.pure (.failure (.leaf i (some (textLabel (String.singleton c))))) := by
  rw [char, isOnly_singleton]
  cases next : text.toList[i]? with
  | none => exact satisfy_of_none next
  | some d =>
    have other : ¬ (d == c) = true := by
      intro same
      rw [Text.remaining_eq_cons next, eq_of_beq same] at absent
      exact absent (List.prefix_append [c] _)
    rw [satisfy_of_some next, if_neg other]

/-- Characters that stand in the text match in turn, and the others go on behind them. -/
theorem characters_past {shared others : List Char} {reply : Reply (List Char)}
    (stands : shared <+: text.remaining i)
    (replies : inTurn (characters others : List (Parser σ Char)) text
      ((i + shared.length : Nat) : Int) = Pure.pure reply) :
    inTurn (characters (shared ++ others) : List (Parser σ Char)) text i =
      Pure.pure (reply.map (shared ++ ·)) := by
  -- the place where the others begin stays while one character after another is taken off
  induction shared generalizing i with
  | nil => cases reply <;> exact replies
  | cons d shared ih =>
    obtain ⟨rest, parts⟩ := stands
    have behind := (Text.remaining_eq_cons_iff.mp parts.symm).2
    have stop : i + (d :: shared).length = i + 1 + shared.length := by
      rw [List.length_cons]
      omega
    rw [stop] at replies
    have later := ih ⟨rest, behind.symm⟩ replies
    have all := inTurn_of_success (char_of_next parts.symm) later
    rw [Reply.map_map] at all
    exact all

theorem characters_match {chars : List Char} (stands : chars <+: text.remaining i) :
    inTurn (characters chars : List (Parser σ Char)) text i =
      Pure.pure (.success chars ((i + chars.length : Nat) : Int)) := by
  have ended : inTurn (characters [] : List (Parser σ Char)) text ((i + chars.length : Nat) : Int) =
      Pure.pure (.success [] ((i + chars.length : Nat) : Int)) := rfl
  have all := characters_past stands ended
  rw [Reply.map, List.append_nil] at all
  exact all

/-- Characters match in turn up to the first that is missing, which refuses. -/
theorem characters_refuse {shared : List Char} (stands : shared <+: text.remaining i)
    (absent : ¬ shared ++ [c] <+: text.remaining i) (later : List Char) :
    inTurn (characters (shared ++ c :: later) : List (Parser σ Char)) text i =
      Pure.pure (.failure (.leaf ((i + shared.length : Nat) : Int)
        (some (textLabel (String.singleton c))))) := by
  have missing : ¬ [c] <+: text.remaining (i + shared.length) :=
    fun next => absent ((Text.append_prefix_remaining stands).mpr next)
  have refused : inTurn (characters (c :: later) : List (Parser σ Char)) text
      ((i + shared.length : Nat) : Int) =
      Pure.pure (.failure (.leaf ((i + shared.length : Nat) : Int)
        (some (textLabel (String.singleton c))))) :=
    inTurn_of_failure (char_of_other missing) (characters later)
  exact characters_past stands refused

/-- A match ends at one place. -/
theorem matches_iff {α : Type} {value : α} {stop stop' : Int} :
    (∃ other, (Pure.pure (.success value stop) : Action σ (Reply α)) =
      Pure.pure (.success other stop')) ↔ stop = stop' := by
  simp [Action.pure_inj]

variable {s : String}

/-- Where a text stands, the literal and its characters match it. -/
theorem spelled_match (within : i ≤ text.length)
    (all : commonPrefix s.toList (text.remaining i) = s.toList) :
    (literal s : Parser σ String) text i = Pure.pure (.success s ((i + s.length : Nat) : Int)) ∧
      sequence (characters s.toList : List (Parser σ Char)) text i =
        Pure.pure (.success s.toList ((i + s.length : Nat) : Int)) := by
  have stands : s.toList <+: text.remaining i := by
    rw [← all]
    exact commonPrefix_right _ _
  have whole := literal_of_prefix (σ := σ) within stands
  refine ⟨whole, ?_⟩
  have each := anchored_of_reply (characters_match (σ := σ) stands)
  rwa [String.length_toList] at each

/-- Where a text does not stand, the literal and its characters fail. -/
theorem spelled_refuse {later : List Char} (within : i ≤ text.length)
    (split : s.toList = commonPrefix s.toList (text.remaining i) ++ c :: later) :
    (literal s : Parser σ String) text i = Pure.pure (.failure (.leaf i (some (textLabel s)))) ∧
      sequence (characters s.toList : List (Parser σ Char)) text i =
        Pure.pure (.failure ((Failure.leaf
          ((i + (commonPrefix s.toList (text.remaining i)).length : Nat) : Int)
          (some (textLabel (String.singleton c)))).anchor i)) := by
  have missing := past_common_right split
  have shared := commonPrefix_right s.toList (text.remaining i)
  have absent : ¬ s.toList <+: text.remaining i := fun stands =>
    missing ((past_common_left split).trans stands)
  have whole := literal_of_not_prefix (σ := σ) within absent
  refine ⟨whole, ?_⟩
  have refused := characters_refuse (σ := σ) shared missing later
  rw [← split] at refused
  exact anchored_of_reply refused

end Parser

namespace Grammar

def characters (chars : List Char) : List Grammar :=
  chars.map fun c => char (String.singleton c)

theorem characters_meaning (rules : Rules) (chars : List Char) :
    (sequence (characters chars)).meaning rules =
      (Parser.sequence (Parser.characters chars)).map fun values =>
        .list (values.map charValue) := by
  have parts : parsers rules.parser (characters chars) =
      (Parser.characters chars).map (Parser.map charValue) := by
    rw [parsers_eq_map, characters, Parser.characters, List.map_map, List.map_map]
    rfl
  show (Parser.sequence (parsers rules.parser (characters chars))).map Value.list = _
  rw [parts, Parser.sequence_map, Parser.map_map]

/-- A literal text agrees with its characters one after another. From a place of a text on both
match to the same end, or neither does; and both always answer. They match where the text stands:
the literal yields it, and the characters yield what is joined to it. Elsewhere both fail at their
start, and the innermost cause of the failure of the characters lies behind what the text shares
with what stands there, and is labelled with the character of the text that comes next. -/
theorem literal_spelled_out (rules : Rules) (s : String) (text : Text) (pos : Nat)
    (within : pos ≤ text.length) :
    let whole := (literal s).meaning rules text pos
    let spelled := (sequence (characters s.toList)).meaning rules text pos
    let shared := commonPrefix s.toList (text.remaining pos)
    (∀ stop : Int, (∃ value, whole = Pure.pure (.success value stop)) ↔
      ∃ value, spelled = Pure.pure (.success value stop)) ∧
    ((shared = s.toList ∧ whole = Pure.pure (.success (.str s) (pos + s.length : Nat)) ∧
        ∃ values, spelled = Pure.pure (.success (.list values) (pos + s.length : Nat)) ∧
          Transform.join (.list values) = .ok (.str s)) ∨
      ∃ c later refusal, s.toList = shared ++ c :: later ∧
        whole = Pure.pure (.failure (.leaf pos (some (Parser.textLabel s)))) ∧
        spelled = Pure.pure (.failure refusal) ∧ refusal.pos = pos ∧
        refusal.deepest =
          .leaf (pos + shared.length : Nat) (some (Parser.textLabel (String.singleton c)))) := by
  intro whole spelled shared
  have spelled_eq : spelled = (Parser.sequence (Parser.characters s.toList)).map
      (fun values => .list (values.map charValue)) text pos :=
    congrArg (fun parser => parser text pos) (characters_meaning rules s.toList)
  obtain ⟨rest, split⟩ := commonPrefix_left s.toList (text.remaining pos)
  -- behind the common prefix the text has ended, or it goes on with a character that is missing
  cases rest with
  | nil =>
    have all : shared = s.toList := (List.append_nil shared).symm.trans split
    obtain ⟨one, each⟩ := Parser.spelled_match within all
    have first : whole = Pure.pure (.success (.str s) (pos + s.length : Nat)) :=
      Parser.map_of_success Value.str one
    have second := spelled_eq.trans (Parser.map_of_success _ each)
    have joined := Transform.join_chars s.toList
    rw [String.ofList_toList] at joined
    refine ⟨fun stop => ?_, .inl ⟨all, first, _, second, joined⟩⟩
    rw [first, second, Parser.matches_iff, Parser.matches_iff]
  | cons c later =>
    obtain ⟨one, each⟩ := Parser.spelled_refuse within split.symm
    have first : whole = Pure.pure (.failure (.leaf pos (some (Parser.textLabel s)))) :=
      Parser.map_of_reply Value.str one
    have second : spelled = Pure.pure (.failure _) :=
      spelled_eq.trans (Parser.map_of_reply _ each)
    refine ⟨fun stop => ?_, .inr ⟨c, later, _, split.symm, first, second, Failure.anchor_pos _ _,
      Failure.deepest_anchor _ _⟩⟩
    simp only [first, second, Action.pure_inj, reduceCtorEq, exists_false]

/-- The word `abc` stands behind an `x` and is matched. Of `abd` the last letter is missing there,
and of `abc` at the second `a` there is none left to be the last. -/
theorem letters_spelled_out :
    let text := Text.ofString "xabcab"
    let spelled (s : String) := (sequence (characters s.toList)).meaning .none text
    ((literal "abc").meaning .none text 1 = Pure.pure (.success (.str "abc") 4) ∧
      ∃ values, spelled "abc" 1 = Pure.pure (.success (.list values) 4) ∧
        Transform.join (.list values) = .ok (.str "abc")) ∧
    (∃ refusal, spelled "abd" 1 = Pure.pure (.failure refusal) ∧ refusal.pos = 1 ∧
      refusal.deepest = .leaf 3 (some "'d'")) ∧
    ∃ refusal, spelled "abc" 4 = Pure.pure (.failure refusal) ∧ refusal.pos = 4 ∧
      refusal.deepest = .leaf 6 (some "'c'") := by
  intro text spelled
  refine ⟨?_, ?_, ?_⟩
  · obtain ⟨-, ⟨-, whole, each⟩ | ⟨c, later, -, split, -⟩⟩ :=
      literal_spelled_out .none "abc" text 1 (by decide)
    · exact ⟨whole, each⟩
    · cases split
  · obtain ⟨-, ⟨all, -⟩ | ⟨c, later, refusal, split, -, each, place, deepest⟩⟩ :=
      literal_spelled_out .none "abd" text 1 (by decide)
    · cases all
    · cases split
      exact ⟨refusal, each, place, deepest⟩
  · obtain ⟨-, ⟨all, -⟩ | ⟨c, later, refusal, split, -, each, place, deepest⟩⟩ :=
      literal_spelled_out .none "abc" text 4 (by decide)
    · cases all
    · cases split
      exact ⟨refusal, each, place, deepest⟩

end Grammar

end Descent
