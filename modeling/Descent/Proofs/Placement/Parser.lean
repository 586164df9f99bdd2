import Descent.Parser.Expression
import Descent.Parser.Trace
import Descent.Proofs.Parser.Promise
import Descent.Proofs.Pattern.Bounds
import Descent.Proofs.Placement.Reply

set_option autoImplicit false

namespace Descent

theorem Text.reads_bound (text : Text) (chars : List Char) (index : Nat)
    (within : index ≤ text.length) (reads : text.reads chars index = true) :
    index + chars.length ≤ text.length := by
  induction chars generalizing index with
  | nil => exact within
  | cons c rest ih =>
    simp only [Text.reads, Bool.and_eq_true, beq_iff_eq] at reads
    have inside : index < text.length := (Array.getElem?_eq_some_iff.mp reads.1).1
    have bound := ih (index + 1) inside reads.2
    rw [List.length_cons]
    omega

namespace Parser

open Descent.Action (Ensures)
open Reply (Placed Onward Reached)

variable {σ α β ι : Type}

/-- Started within a text, the parser replies where it should. -/
def Located (p : Parser σ α) : Prop :=
  ∀ (text : Text) (start : Int), 0 ≤ start → start ≤ text.length →
    Ensures (p text start) (Placed text.length start)

theorem pure_located (value : α) : Located (Parser.pure value : Parser σ α) :=
  fun _ _ _ high => Ensures.pure ⟨Int.le_refl _, high⟩

theorem failWith_located (expected : Option String) : Located (failWith expected : Parser σ α) :=
  fun _ _ _ high => Ensures.pure ⟨rfl, Failure.leaf_descends expected high⟩

theorem raise_located (fault : Fault) : Located (raise fault : Parser σ α) :=
  fun _ _ _ _ => Ensures.raise fault _

theorem literal_located (s : String) : Located (literal s : Parser σ String) := by
  intro text start low high
  unfold literal
  split
  · rename_i stands
    simp only [Text.startsWith, Bool.and_eq_true] at stands
    have index : start = (text.cut start : Int) := by
      unfold Text.cut
      split <;> omega
    have bound := text.reads_bound s.toList (text.cut start) (text.cut_le_length start) stands.2
    rw [String.length_toList] at bound
    exact Ensures.pure ⟨by omega, by omega⟩
  · exact Ensures.pure ⟨rfl, Failure.leaf_descends _ high⟩

theorem satisfy_located (expected : Option String) (accepts : Char → Bool) :
    Located (satisfy expected accepts : Parser σ Char) := by
  intro text start low high
  unfold satisfy
  split
  · split
    · exact Ensures.raise _ _
    · split
      · exact Ensures.pure ⟨by omega, by omega⟩
      · exact Ensures.pure ⟨rfl, Failure.leaf_descends _ high⟩
  · exact Ensures.pure ⟨rfl, Failure.leaf_descends _ high⟩

theorem pattern_located (expected : String) (p : Pattern) :
    Located (pattern expected p : Parser σ String) := by
  intro text start low high
  have index : start = (text.clamp start : Int) := by
    unfold Text.clamp
    omega
  unfold pattern
  dsimp only
  split
  · rename_i stop found
    have bounds := Pattern.matchEnd_bounds (text.clamp_le_length start) found
    exact Ensures.pure ⟨by omega, by omega⟩
  · exact Ensures.pure ⟨rfl, Failure.leaf_descends _ high⟩

theorem eof_located : Located (eof : Parser σ Unit) := by
  intro text start low high
  unfold eof
  split
  · exact Ensures.pure ⟨Int.le_refl _, high⟩
  · exact Ensures.pure ⟨rfl, Failure.leaf_descends _ high⟩

theorem trace_located (name : String) : Located (trace name : Parser σ Unit) :=
  fun _ _ _ high =>
    (Ensures.always _).bind fun _ _ => Ensures.pure ⟨Int.le_refl _, high⟩

namespace Located

variable {p : Parser σ α} {q : Parser σ β}

theorem lookAhead (located : Located p) : Located p.lookAhead := by
  intro text start low high
  refine (located text start low high).bind ?_
  rintro (⟨value, stop⟩ | refusal) placed
  · exact Ensures.pure ⟨Int.le_refl _, high⟩
  · exact Ensures.pure placed

theorem notFollowedBy (located : Located p) : Located p.notFollowedBy := by
  intro text start low high
  refine (located text start low high).bind ?_
  rintro (⟨value, stop⟩ | refusal) placed
  · exact Ensures.pure ⟨rfl, Failure.leaf_descends _ high⟩
  · exact Ensures.pure ⟨Int.le_refl _, high⟩

theorem map (f : α → β) (located : Located p) : Located (p.map f) :=
  fun text start low high =>
    (located text start low high).bind fun _ placed => Ensures.pure (placed.map f)

theorem tryMap (f : α → Except Fault β) (located : Located p) : Located (p.tryMap f) := by
  intro text start low high
  refine (located text start low high).bind ?_
  rintro (⟨value, stop⟩ | refusal) placed
  · exact (Ensures.always _).bind fun _ _ => Ensures.pure placed
  · exact Ensures.pure placed

theorem label (message : String) (located : Located p) : Located (p.label message) := by
  intro text start low high
  refine (located text start low high).bind ?_
  rintro (⟨value, stop⟩ | refusal) placed
  · exact Ensures.pure placed
  · exact Ensures.pure ⟨placed.1, placed.2.relabel message⟩

theorem logged {p : Parser σ Value} (tag : String) (located : Located p) :
    Located (p.logged tag) := by
  intro text start low high
  refine (located text start low high).bind ?_
  rintro (⟨value, stop⟩ | refusal) placed
  · exact (Ensures.always _).bind fun _ _ => Ensures.pure placed
  · exact Ensures.pure placed

theorem bind {next : α → Parser σ β} (located : Located p)
    (rest : ∀ value, Located (next value)) : Located (p.bind next) := by
  intro text start low high
  refine (located text start low high).bind ?_
  rintro (⟨value, stop⟩ | refusal) placed
  · refine (rest value text stop (Int.le_trans low placed.1) placed.2).bind ?_
    intro reply later
    exact Ensures.pure (later.onward.earlier placed.1).anchor
  · exact Ensures.pure placed.onward.anchor

theorem orElse {r : Parser σ α} (one : Located p) (two : Located r) : Located (p.orElse r) := by
  intro text start low high
  refine (one text start low high).bind ?_
  rintro (⟨value, stop⟩ | refusal) placed
  · exact Ensures.pure placed
  · exact (two text start low high).bind fun _ later => Ensures.pure later.onward.anchor

theorem both (first : Located p) (second : Located q) : Located (p.both q) :=
  first.bind fun _ => second.map _

theorem seqRight (first : Located p) (second : Located q) : Located (p.seqRight q) :=
  first.bind fun _ => second

theorem option (default : α) (first : Located p) : Located (p.option default) :=
  first.orElse (pure_located default)

theorem optional (first : Located p) : Located p.optional :=
  (first.map _).option _

theorem traced (name : String) (inner : Located p) : Located (p.traced name) :=
  (trace_located name).seqRight
    (inner.orElse ((trace_located _).seqRight (failWith_located _)))

variable {ps : List (Parser σ α)}

theorem inTurn (each : ∀ p ∈ ps, Located p) (text : Text) (start : Int) (low : 0 ≤ start)
    (high : start ≤ text.length) : Ensures (inTurn ps text start) (Onward text.length start) := by
  induction ps generalizing start with
  | nil => exact Ensures.pure ⟨Int.le_refl _, high⟩
  | cons p ps ih =>
    refine (each p List.mem_cons_self text start low high).bind ?_
    rintro (⟨value, stop⟩ | refusal) placed
    · have rest := ih (fun q member => each q (List.mem_cons_of_mem _ member)) stop
        (Int.le_trans low placed.1) placed.2
      refine rest.bind fun reply onward => Ensures.pure ?_
      exact (onward.map _).earlier placed.1
    · exact Ensures.pure placed.onward

theorem sequence (each : ∀ p ∈ ps, Located p) : Located (sequence ps) :=
  fun text start low high =>
    (inTurn each text start low high).bind fun _ onward => Ensures.pure onward.anchor

theorem firstOf (first : Located p) (each : ∀ q ∈ ps, Located q) : Located (firstOf p ps) := by
  induction ps generalizing p with
  | nil => exact first
  | cons q qs ih =>
    intro text start low high
    refine (first text start low high).bind ?_
    rintro (⟨value, stop⟩ | refusal) placed
    · exact Ensures.pure placed
    · exact ih (each q List.mem_cons_self)
        (fun r member => each r (List.mem_cons_of_mem _ member)) text start low high

theorem choice (each : ∀ p ∈ ps, Located p) : Located (choice ps) := by
  cases ps with
  | nil => exact failWith_located _
  | cons p ps =>
    have tried := firstOf (each p List.mem_cons_self)
      fun q member => each q (List.mem_cons_of_mem _ member)
    exact fun text start low high =>
      (tried text start low high).bind fun _ placed => Ensures.pure placed.onward.anchor

theorem count (n : Nat) (located : Located p) : Located (count n p) := by
  rw [count_eq_sequence]
  apply sequence
  intro q member
  rw [List.eq_of_mem_replicate member]
  exact located

theorem repeatUpTo (located : Located p) (rounds : Nat) (text : Text) (start : Int)
    (low : 0 ≤ start) (high : start ≤ text.length) :
    Ensures (p.repeatUpTo rounds text start) (Reached text.length start) := by
  induction rounds generalizing start with
  | zero => exact Ensures.exhausted _
  | succ rounds ih =>
    refine (located text start low high).bind ?_
    rintro (⟨value, stop⟩ | refusal) placed
    · by_cases stays : stop = start
      · simp only [stays, ↓reduceIte]
        exact Ensures.pure ⟨Int.le_refl _, high⟩
      · simp only [stays, ↓reduceIte]
        exact (ih stop (Int.le_trans low placed.1) placed.2).bind fun _ reached =>
          Ensures.pure (reached.mapEarlier _ placed.1)
    · exact Ensures.pure ⟨Int.le_refl _, high⟩

theorem many_reached (located : Located p) (text : Text) (start : Int) (low : 0 ≤ start)
    (high : start ≤ text.length) : Ensures (p.many text start) (Reached text.length start) :=
  many_ensures fun rounds => repeatUpTo located rounds text start low high

theorem many (located : Located p) : Located p.many :=
  fun text start low high => (many_reached located text start low high).mono fun _ => Reached.placed

theorem many1 (located : Located p) : Located p.many1 := by
  intro text start low high
  refine (located text start low high).bind ?_
  rintro (⟨value, stop⟩ | refusal) placed
  · by_cases stays : stop = start
    · simp only [stays, ↓reduceIte]
      exact Ensures.pure ⟨Int.le_refl _, high⟩
    · simp only [stays, ↓reduceIte]
      refine (many_reached located text stop (Int.le_trans low placed.1) placed.2).bind ?_
      exact fun _ reached => Ensures.pure (reached.mapEarlier _ placed.1).placed
  · exact Ensures.pure placed.onward.anchor

theorem sepBy1 (first : Located p) (separator : Located q) : Located (p.sepBy1 q) :=
  (first.both (separator.seqRight first).many).map _

theorem chain {operator : Binary σ α} (first : Located p) (between : Located operator) :
    Located (p.chain operator) :=
  first.both (between.both first).many

theorem chainl1 {operator : Binary σ α} (first : Located p) (between : Located operator) :
    Located (p.chainl1 operator) :=
  (first.chain between).tryMap _

theorem chainr1 {operator : Binary σ α} (first : Located p) (between : Located operator) :
    Located (p.chainr1 operator) :=
  (first.chain between).tryMap _

theorem affixed {before after : List (Unary σ α)} (front : ∀ q ∈ before, Located q)
    (back : ∀ q ∈ after, Located q) (operand : Located p) : Located (affixed before after p) :=
  (((choice front).optional.both operand).both (choice back).optional).tryMap _

theorem single {operators : List (Binary σ α)} (each : ∀ q ∈ operators, Located q)
    (operand : Located p) : Located (single operators p) :=
  (operand.both ((choice each).both operand).optional).tryMap _

theorem ite {r : Parser σ α} (condition : Prop) [Decidable condition] (yes : Located p)
    (no : Located r) : Located (if condition then p else r) := by
  split
  · exact yes
  · exact no

theorem level {row : Row (Unary σ α) (Binary σ α)} (front : ∀ q ∈ row.before, Located q)
    (back : ∀ q ∈ row.after, Located q) (left : ∀ q ∈ row.left, Located q)
    (right : ∀ q ∈ row.right, Located q) (alone : ∀ q ∈ row.single, Located q)
    (operand : Located p) : Located (level row p) := by
  have affixes := ite (row.before.isEmpty && row.after.isEmpty) operand
    (operand.affixed front back)
  have lefts := ite row.left.isEmpty affixes (affixes.chainl1 (choice left))
  have rights := ite row.right.isEmpty lefts (lefts.chainr1 (choice right))
  exact ite row.single.isEmpty rights (rights.single alone)

theorem rule (definition : Definition σ) {run : σ → Parser σ α}
    (each : ∀ item, definition.build = .ok item → Located (run item)) :
    Located (rule definition run) :=
  fun text start low high => rule_ensures fun item built => each item built text start low high

theorem fix {body : (ι → Parser σ α) → ι → Parser σ α}
    (step : ∀ self, (∀ i, Located (self i)) → ∀ i, Located (body self i)) (i : ι) :
    Located (fix body i) := by
  have unrolled : ∀ depth, Located (unroll body depth i) := fun depth =>
    unroll_induction (fun _ => Located) (fun _ _ _ _ _ => Ensures.exhausted _) step depth i
  exact fun text start low high => fix_ensures fun depth => unrolled depth text start low high

end Located

end Parser

end Descent
