import Descent.Proofs.Parser.Budget
import Descent.Proofs.Recursion.Advance

set_option autoImplicit false

namespace Descent.Parser

open Descent.Action (Ensures Halts)

variable {σ α β : Type}

theorem literal_halts (s : String) (text : Text) (pos : Int) :
    Halts ((literal s : Parser σ String) text pos) := by
  unfold literal
  split <;> exact Halts.pure _

theorem satisfy_halts (expected : Option String) (accepts : Char → Bool) (text : Text)
    (pos : Int) : Halts ((satisfy expected accepts : Parser σ Char) text pos) := by
  unfold satisfy
  split
  · split
    · exact Halts.raise _
    · split <;> exact Halts.pure _
  · exact Halts.pure _

theorem pattern_halts (expected : String) (p : Pattern) (text : Text) (pos : Int) :
    Halts ((pattern expected p : Parser σ String) text pos) := by
  unfold pattern
  dsimp only
  split <;> exact Halts.pure _

theorem eof_halts (text : Text) (pos : Int) : Halts ((eof : Parser σ Unit) text pos) := by
  unfold eof
  split <;> exact Halts.pure _

theorem trace_halts (line : String) (text : Text) (pos : Int) :
    Halts ((trace line : Parser σ Unit) text pos) :=
  (Halts.record _).andThen fun _ => Halts.pure _

/-- The parser advances unless it may be empty, and settles from the place on; at the place itself
it does if the condition holds. -/
structure Ends (text : Text) (pos : Int) (empty ready : Prop) (p : Parser σ α) : Prop where
  advances : Advances p empty
  stable : p.Stable
  halts : ∀ later, pos ≤ later → later ≤ text.length → (later = pos → ready) →
    Halts (p text later)

namespace Ends

variable {text : Text} {pos : Int} {empty other ready : Prop} {p : Parser σ α} {q : Parser σ β}

theorem mono (ends : Ends text pos empty ready p) {sooner : Prop} (weaker : empty → other)
    (stronger : sooner → ready) : Ends text pos other sooner p :=
  ⟨ends.advances.mono weaker, ends.stable, fun later after high here =>
    ends.halts later after high fun same => stronger (here same)⟩

theorem of_halts (advances : Advances p empty) (stable : p.Stable)
    (halts : ∀ later, Halts (p text later)) : Ends text pos empty ready p :=
  ⟨advances, stable, fun later _ _ _ => halts later⟩

theorem literal (s : String) : Ends text pos (s = "") ready (literal s : Parser σ String) :=
  .of_halts (.literal s) (fun _ _ _ => literal_extends s) (literal_halts s text)

theorem pattern (expected : String) (p : Pattern) :
    Ends text pos True ready (pattern expected p : Parser σ String) :=
  .of_halts (.of_located (pattern_located expected p) trivial)
    (fun _ _ _ => pattern_extends expected p) (pattern_halts expected p text)

/-- After the parser something else settles if it does after each match from there on. -/
theorem halts_bind {next : Reply α → Action σ β} (ends : Ends text pos empty ready p)
    (low : 0 ≤ pos) {later : Int} (after : pos ≤ later) (high : later ≤ text.length)
    (here : later = pos → ready) (on_refusal : ∀ refusal, Halts (next (.failure refusal)))
    (on_match : ∀ value stop, later ≤ stop → stop ≤ text.length → (stop = later → empty) →
      Halts (next (.success value stop))) :
    Halts (p text later >>= next) := by
  refine (ends.halts later after high here).bind
    (ends.advances.ensures (Int.le_trans low after) high) ?_
  intro reply told
  cases reply with
  | success value stop => exact on_match value stop told.1.1 told.1.2 told.2
  | failure refusal => exact on_refusal refusal

theorem map (f : α → β) (ends : Ends text pos empty ready p) :
    Ends text pos empty ready (p.map f) :=
  ⟨ends.advances.map f, fun l m e => (ends.stable l m e).map f, fun later after high here =>
    (ends.halts later after high here).andThen fun _ => Halts.pure _⟩

theorem anchored (ends : Ends text pos empty ready p) (advances : Advances p.anchored empty) :
    Ends text pos empty ready p.anchored :=
  ⟨advances, fun l m e => (ends.stable l m e).anchored, fun later after high here =>
    (ends.halts later after high here).andThen fun _ => Halts.pure _⟩

theorem tryMap (f : α → Except Fault β) (ends : Ends text pos empty ready p) :
    Ends text pos empty ready (p.tryMap f) := by
  refine ⟨ends.advances.tryMap f, fun l m e => (ends.stable l m e).tryMap f, ?_⟩
  intro later after high here
  apply (ends.halts later after high here).andThen
  intro reply
  cases reply with
  | success value stop =>
    exact (Halts.ofExcept _).andThen fun _ => Halts.pure _
  | failure refusal => exact Halts.pure _

theorem label (message : String) (ends : Ends text pos empty ready p) :
    Ends text pos empty ready (p.label message) := by
  refine ⟨ends.advances.label message, fun l m e => (ends.stable l m e).label message, ?_⟩
  intro later after high here
  apply (ends.halts later after high here).andThen
  intro reply
  cases reply <;> exact Halts.pure _

theorem logged {p : Parser σ Value} (tag : String) (ends : Ends text pos empty ready p) :
    Ends text pos empty ready (p.logged tag) := by
  refine ⟨ends.advances.logged tag, fun l m e => (ends.stable l m e).logged tag, ?_⟩
  intro later after high here
  apply (ends.halts later after high here).andThen
  intro reply
  cases reply with
  | success value stop =>
    exact (Halts.record _).andThen fun _ => Halts.pure _
  | failure refusal => exact Halts.pure _

theorem lookAhead (ends : Ends text pos empty ready p) :
    Ends text pos True ready p.lookAhead := by
  refine ⟨.of_located ends.advances.located.lookAhead trivial,
    fun l m e => (ends.stable l m e).lookAhead, ?_⟩
  intro later after high here
  apply (ends.halts later after high here).andThen
  intro reply
  cases reply <;> exact Halts.pure _

theorem notFollowedBy (ends : Ends text pos empty ready p) :
    Ends text pos True ready p.notFollowedBy := by
  refine ⟨.of_located ends.advances.located.notFollowedBy trivial,
    fun l m e => (ends.stable l m e).notFollowedBy, ?_⟩
  intro later after high here
  apply (ends.halts later after high here).andThen
  intro reply
  cases reply <;> exact Halts.pure _

theorem bind {next : α → Parser σ β} {later_empty : α → Prop} (low : 0 ≤ pos)
    (first : Ends text pos empty ready p)
    (rest : ∀ value, Ends text pos (later_empty value) (ready ∧ empty) (next value)) :
    Ends text pos (empty ∧ ∃ value, later_empty value) ready (p.bind next) := by
  refine ⟨first.advances.bind fun value => (rest value).advances,
    fun l m e => (first.stable l m e).bind fun value => (rest value).stable l m e, ?_⟩
  intro later after high here
  refine first.halts_bind low after high here (fun refusal => Halts.pure _) ?_
  intro value stop further inside idle
  have second := (rest value).halts stop (Int.le_trans after further) inside
  refine (second ?_).andThen fun _ => Halts.pure _
  intro same
  have still : later = pos := by omega
  exact ⟨here still, idle (by omega)⟩

theorem both (low : 0 ≤ pos) (first : Ends text pos empty ready p)
    (second : Ends text pos other (ready ∧ empty) q) :
    Ends text pos (empty ∧ other) ready (p.both q) := by
  refine (first.bind low fun _ => second.map _).mono ?_ id
  intro stays
  obtain ⟨value, second_stays⟩ := stays.2
  exact ⟨stays.1, second_stays⟩

theorem seqRight (low : 0 ≤ pos) (first : Ends text pos empty ready p)
    (second : Ends text pos other (ready ∧ empty) q) :
    Ends text pos (empty ∧ other) ready (p.seqRight q) := by
  refine (first.bind low fun _ => second).mono ?_ id
  intro stays
  obtain ⟨value, second_stays⟩ := stays.2
  exact ⟨stays.1, second_stays⟩

theorem seqLeft (low : 0 ≤ pos) (first : Ends text pos empty ready p)
    (second : Ends text pos other (ready ∧ empty) q) :
    Ends text pos (empty ∧ other) ready (p.seqLeft q) := by
  refine (first.bind low fun _ => second.map _).mono ?_ id
  intro stays
  obtain ⟨value, second_stays⟩ := stays.2
  exact ⟨stays.1, second_stays⟩

theorem lexeme (low : 0 ≤ pos) (ends : Ends text pos empty ready p) :
    Ends text pos empty ready (lexeme p) := by
  have blanks (needed : Prop) : Ends text pos True needed (spaces : Parser σ String) :=
    pattern _ _
  have inner := (blanks ready).seqRight low (ends.mono id And.left)
  exact (inner.seqLeft low (blanks _)).mono (fun stays => stays.1.2) id

theorem orElse {r : Parser σ α} (first : Ends text pos empty ready p)
    (second : Ends text pos other ready r) :
    Ends text pos (empty ∨ other) ready (p.orElse r) := by
  refine ⟨first.advances.orElse second.advances,
    fun l m e => (first.stable l m e).orElse (second.stable l m e), ?_⟩
  intro later after high here
  apply (first.halts later after high here).andThen
  intro reply
  cases reply with
  | success value stop => exact Halts.pure _
  | failure refusal =>
    exact (second.halts later after high here).andThen fun _ => Halts.pure _

theorem optional (ends : Ends text pos empty ready p) : Ends text pos True ready p.optional := by
  have default : Ends text pos True ready (Parser.pure none : Parser σ (Option α)) :=
    .of_halts (.of_located (pure_located none) trivial) (fun _ _ _ => pure_extends none)
      fun _ => Halts.pure _
  exact ((ends.map some).orElse default).mono (fun _ => trivial) id

theorem traced (low : 0 ≤ pos) (name : String) (ends : Ends text pos empty ready p) :
    Ends text pos empty ready (p.traced name) := by
  have printed (line : String) (needed : Prop) :
      Ends text pos True needed (trace line : Parser σ Unit) :=
    .of_halts (.of_located (trace_located line) trivial) (fun _ _ _ => trace_extends line)
      (trace_halts line text)
  have refused : Ends text pos False (ready ∧ True)
      (Parser.fail (name ++ " failed") : Parser σ α) :=
    .of_halts (.failWith _) (fun _ _ _ => failWith_extends _) fun _ => Halts.pure _
  have tried := ends.orElse ((printed (name ++ " backtracked") ready).seqRight low refused)
  refine ((printed name ready).seqRight low (tried.mono id And.left)).mono ?_ id
  intro stays
  exact stays.2.resolve_right And.right

theorem firstOf {ps : List (Parser σ α)} (first : Ends text pos empty ready p)
    (each : ∀ q ∈ ps, Ends text pos empty ready q) :
    Ends text pos empty ready (firstOf p ps) := by
  induction ps generalizing p with
  | nil => exact first
  | cons q qs ih =>
    have rest := ih (each q List.mem_cons_self)
      fun r member => each r (List.mem_cons_of_mem q member)
    refine ⟨.firstOf first.advances fun r member => (each r member).advances, ?_, ?_⟩
    · intro little more enough text pos
      apply (first.stable little more enough text pos).bind
      intro reply
      cases reply with
      | success value stop => exact Action.pure_extends _
      | failure refusal => exact rest.stable little more enough text pos
    · intro later after high here
      apply (first.halts later after high here).andThen
      intro reply
      cases reply with
      | success value stop => exact Halts.pure _
      | failure refusal => exact rest.halts later after high here

theorem choice {ps : List (Parser σ α)} (each : ∀ q ∈ ps, Ends text pos empty ready q) :
    Ends text pos empty ready (choice ps) := by
  have advances := Advances.choice fun q member => (each q member).advances
  cases ps with
  | nil => exact .of_halts advances (fun _ _ _ => failWith_extends _) fun _ => Halts.pure _
  | cons p ps =>
    exact (firstOf (each p List.mem_cons_self)
      fun q member => each q (List.mem_cons_of_mem p member)).anchored advances

/-- A repetition ends whether or not its body may be empty: a round that is empty is the last, and
each other round starts further on. -/
theorem many (low : 0 ≤ pos) (ends : Ends text pos empty ready p) :
    Ends text pos True ready p.many := by
  refine ⟨.of_located ends.advances.located.many trivial,
    fun l m e => (ends.stable l m e).many e, ?_⟩
  intro later after high here
  generalize left : (text.length - later).toNat = rounds
  induction rounds using Nat.strongRecOn generalizing later with
  | ind rounds ih =>
    have round : Halts (p.round p.many text later) := by
      refine ends.halts_bind low after high here (fun refusal => Halts.pure _) ?_
      intro value stop further inside _
      by_cases stays : stop = later
      · simp only [stays, ↓reduceIte]
        exact Halts.pure _
      · simp only [stays, ↓reduceIte]
        have rest := ih (text.length - stop).toNat (by omega) stop (by omega) inside
          (fun same => by omega) rfl
        exact rest.andThen fun _ => Halts.pure _
    intro session
    obtain ⟨outcome, settles⟩ := round session
    exact ⟨outcome, settles_many ends.stable settles⟩

theorem many1 (low : 0 ≤ pos) (ends : Ends text pos empty ready p) :
    Ends text pos empty ready p.many1 := by
  refine ⟨ends.advances.many1, fun l m e => (ends.stable l m e).many1 e, ?_⟩
  intro later after high here
  refine ends.halts_bind low after high here (fun refusal => Halts.pure _) ?_
  intro value stop further inside _
  by_cases stays : stop = later
  · simp only [stays, ↓reduceIte]
    exact Halts.pure _
  · simp only [stays, ↓reduceIte]
    refine (((ends.many low).halts stop (by omega) inside ?_).andThen fun _ => Halts.pure _)
    intro same
    omega

theorem sepBy1 (low : 0 ≤ pos) (ends : Ends text pos empty ready p)
    (separator : Ends text pos other (ready ∧ empty) q) :
    Ends text pos empty ready (p.sepBy1 q) := by
  have again := separator.seqRight low (ends.mono id fun needed => needed.1.1)
  exact ((ends.both low (again.many low)).map _).mono And.left id

theorem chain {operator : Binary σ α} (low : 0 ≤ pos) (operand : Ends text pos empty ready p)
    (between : Ends text pos other (ready ∧ empty) operator) :
    Ends text pos empty ready (p.chain operator) := by
  have again := between.both low (operand.mono id fun needed => needed.1.1)
  exact (operand.both low (again.many low)).mono And.left id

theorem chainl1 {operator : Binary σ α} (low : 0 ≤ pos) (operand : Ends text pos empty ready p)
    (between : Ends text pos other (ready ∧ empty) operator) :
    Ends text pos empty ready (p.chainl1 operator) :=
  (operand.chain low between).tryMap _

theorem chainr1 {operator : Binary σ α} (low : 0 ≤ pos) (operand : Ends text pos empty ready p)
    (between : Ends text pos other (ready ∧ empty) operator) :
    Ends text pos empty ready (p.chainr1 operator) :=
  (operand.chain low between).tryMap _

theorem affixed {before after : List (Unary σ α)} (low : 0 ≤ pos)
    (front : ∀ q ∈ before, Ends text pos True ready q)
    (back : ∀ q ∈ after, Ends text pos True (ready ∧ empty) q)
    (operand : Ends text pos empty ready p) :
    Ends text pos empty ready (affixed before after p) := by
  have lead := ((choice front).optional.both low (operand.mono id And.left)).mono And.right id
  exact ((lead.both low (choice back).optional).tryMap _).mono And.left id

theorem single {operators : List (Binary σ α)} (low : 0 ≤ pos)
    (each : ∀ q ∈ operators, Ends text pos True (ready ∧ empty) q)
    (operand : Ends text pos empty ready p) : Ends text pos empty ready (single operators p) := by
  have again := (choice each).both low (operand.mono id fun needed => needed.1.1)
  exact ((operand.both low again.optional).tryMap _).mono And.left id

theorem ite {r : Parser σ α} (condition : Prop) [Decidable condition]
    (yes : Ends text pos empty ready p) (no : Ends text pos empty ready r) :
    Ends text pos empty ready (if condition then p else r) := by
  split
  · exact yes
  · exact no

theorem level {row : Row (Unary σ α) (Binary σ α)} (low : 0 ≤ pos)
    (front : ∀ q ∈ row.before, Ends text pos True ready q)
    (back : ∀ q ∈ row.after, Ends text pos True (ready ∧ empty) q)
    (left : ∀ q ∈ row.left, Ends text pos True (ready ∧ empty) q)
    (right : ∀ q ∈ row.right, Ends text pos True (ready ∧ empty) q)
    (alone : ∀ q ∈ row.single, Ends text pos True (ready ∧ empty) q)
    (operand : Ends text pos empty ready p) : Ends text pos empty ready (level row p) := by
  have affixes := ite (row.before.isEmpty && row.after.isEmpty) operand
    (operand.affixed low front back)
  have lefts := ite row.left.isEmpty affixes (affixes.chainl1 low (choice left))
  have rights := ite row.right.isEmpty lefts (lefts.chainr1 low (choice right))
  exact ite row.single.isEmpty rights (rights.single low alone)

end Ends

end Descent.Parser
