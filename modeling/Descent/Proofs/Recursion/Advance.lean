import Descent.Proofs.Placement.Grammar
import Descent.Proofs.Recursion.Analysis

set_option autoImplicit false

namespace Descent

namespace Reply

variable {σ α β : Type}

def Stays (start : Int) : Reply α → Prop
  | success _ stop => stop = start
  | failure _ => False

@[simp] theorem stays_map (start : Int) (f : α → β) (reply : Reply α) :
    (reply.map f).Stays start ↔ reply.Stays start := by
  cases reply <;> rfl

@[simp] theorem stays_anchor (start pos : Int) (reply : Reply α) :
    (reply.anchor pos).Stays start ↔ reply.Stays start := by
  cases reply <;> rfl

end Reply

namespace Parser

open Descent.Action (Ensures)

variable {σ α β ι : Type}

/-- The parser replies where it should, and a match of it ends after its start, unless the
condition holds. -/
structure Advances (p : Parser σ α) (empty : Prop) : Prop where
  located : Located p
  idle : ∀ (text : Text) (start : Int), 0 ≤ start → start ≤ text.length →
    Ensures (p text start) fun reply => reply.Stays start → empty

namespace Advances

variable {p : Parser σ α} {q : Parser σ β} {empty other : Prop}

theorem of_located (located : Located p) (holds : empty) : Advances p empty :=
  ⟨located, fun _ _ _ _ => (Ensures.always _).mono fun _ _ _ => holds⟩

theorem mono (advances : Advances p empty) (weaker : empty → other) : Advances p other :=
  ⟨advances.located, fun text start low high =>
    (advances.idle text start low high).mono fun _ idle stays => weaker (idle stays)⟩

/-- What a match within the text lets the parsers after it rely on. -/
theorem ensures (advances : Advances p empty) {text : Text} {start : Int} (low : 0 ≤ start)
    (high : start ≤ text.length) :
    Ensures (p text start) fun reply =>
      reply.Placed text.length start ∧ (reply.Stays start → empty) :=
  (advances.located text start low high).and (advances.idle text start low high)

theorem failWith (expected : Option String) : Advances (failWith expected : Parser σ α) False :=
  ⟨failWith_located expected, fun _ _ _ _ => Ensures.pure id⟩

theorem raise (fault : Fault) : Advances (raise fault : Parser σ α) False :=
  ⟨raise_located fault, fun _ _ _ _ => Ensures.raise _ _⟩

theorem literal (s : String) : Advances (literal s : Parser σ String) (s = "") := by
  refine ⟨literal_located s, ?_⟩
  intro text start low high
  unfold Parser.literal
  split
  · apply Ensures.pure
    intro stays
    have ends : start + s.length = start := stays
    have none : s.length = 0 := by omega
    exact String.length_eq_zero_iff.mp none
  · exact Ensures.pure False.elim

theorem satisfy (expected : Option String) (accepts : Char → Bool) :
    Advances (satisfy expected accepts : Parser σ Char) False := by
  refine ⟨satisfy_located expected accepts, ?_⟩
  intro text start low high
  unfold Parser.satisfy
  split
  · split
    · exact Ensures.raise _ _
    · split
      · apply Ensures.pure
        intro stays
        have ends : start + 1 = start := stays
        omega
      · exact Ensures.pure id
  · exact Ensures.pure id

theorem pattern (expected : String) (p : Pattern) :
    Advances (pattern expected p : Parser σ String) (∃ (text : Text) (i : Nat), i ≤ text.length ∧
      p.matchEnd? text i = some i) := by
  refine ⟨pattern_located expected p, ?_⟩
  intro text start low high
  have index : start = (text.clamp start : Int) := by
    unfold Text.clamp
    omega
  unfold Parser.pattern
  dsimp only
  split
  · rename_i stop found
    apply Ensures.pure
    intro stays
    have ends : (stop : Int) = start := stays
    have same : stop = text.clamp start := by omega
    exact ⟨text, text.clamp start, text.clamp_le_length start, same ▸ found⟩
  · exact Ensures.pure False.elim

theorem map (f : α → β) (advances : Advances p empty) : Advances (p.map f) empty :=
  ⟨advances.located.map f, fun text start low high =>
    (advances.idle text start low high).bind fun reply idle =>
      Ensures.pure fun stays => idle ((reply.stays_map start f).mp stays)⟩

theorem tryMap (f : α → Except Fault β) (advances : Advances p empty) :
    Advances (p.tryMap f) empty := by
  refine ⟨advances.located.tryMap f, ?_⟩
  intro text start low high
  refine (advances.idle text start low high).bind ?_
  intro reply idle
  cases reply with
  | success value stop => exact (Ensures.always _).bind fun _ _ => Ensures.pure idle
  | failure refusal => exact Ensures.pure False.elim

theorem label (message : String) (advances : Advances p empty) :
    Advances (p.label message) empty := by
  refine ⟨advances.located.label message, ?_⟩
  intro text start low high
  refine (advances.idle text start low high).bind ?_
  intro reply idle
  cases reply with
  | success value stop => exact Ensures.pure idle
  | failure refusal => exact Ensures.pure False.elim

theorem logged {p : Parser σ Value} (tag : String) (advances : Advances p empty) :
    Advances (p.logged tag) empty := by
  refine ⟨advances.located.logged tag, ?_⟩
  intro text start low high
  refine (advances.idle text start low high).bind ?_
  intro reply idle
  cases reply with
  | success value stop => exact (Ensures.always _).bind fun _ _ => Ensures.pure idle
  | failure refusal => exact Ensures.pure False.elim

/-- Two parsers one after the other stay only where both do. -/
theorem bind {next : α → Parser σ β} {later_empty : α → Prop} (first : Advances p empty)
    (rest : ∀ value, Advances (next value) (later_empty value)) :
    Advances (p.bind next) (empty ∧ ∃ value, later_empty value) := by
  refine ⟨first.located.bind fun value => (rest value).located, ?_⟩
  intro text start low high
  refine (first.ensures low high).bind ?_
  intro reply told
  cases reply with
  | failure refusal => exact Ensures.pure False.elim
  | success value stop =>
    have placed : start ≤ stop ∧ stop ≤ text.length := told.1
    refine ((rest value).ensures (Int.le_trans low placed.1) placed.2).bind ?_
    intro last later
    apply Ensures.pure
    intro stays
    cases last with
    | failure refusal => exact stays.elim
    | success result ending =>
      have after : stop ≤ ending := later.1.1
      have ends : ending = start := stays
      have still : stop = start := by omega
      exact ⟨told.2 still, value, later.2 (by show ending = stop; omega)⟩

theorem both (first : Advances p empty) (second : Advances q other) :
    Advances (p.both q) (empty ∧ other) := by
  apply (first.bind fun _ => second.map _).mono
  intro stays
  obtain ⟨value, second_stays⟩ := stays.2
  exact ⟨stays.1, second_stays⟩

theorem seqRight (first : Advances p empty) (second : Advances q other) :
    Advances (p.seqRight q) (empty ∧ other) := by
  apply (first.bind fun _ => second).mono
  intro stays
  obtain ⟨value, second_stays⟩ := stays.2
  exact ⟨stays.1, second_stays⟩

theorem seqLeft (first : Advances p empty) (second : Advances q other) :
    Advances (p.seqLeft q) (empty ∧ other) := by
  apply (first.bind fun _ => second.map _).mono
  intro stays
  obtain ⟨value, second_stays⟩ := stays.2
  exact ⟨stays.1, second_stays⟩

theorem lexeme (advances : Advances p empty) : Advances (lexeme p) empty := by
  have blanks : Advances (spaces : Parser σ String) True := of_located (pattern_located _ _) trivial
  exact ((blanks.seqRight advances).seqLeft blanks).mono fun stays => stays.1.2

theorem orElse {r : Parser σ α} (first : Advances p empty) (second : Advances r other) :
    Advances (p.orElse r) (empty ∨ other) := by
  refine ⟨first.located.orElse second.located, ?_⟩
  intro text start low high
  refine (first.idle text start low high).bind ?_
  intro reply idle
  cases reply with
  | success value stop => exact Ensures.pure fun stays => .inl (idle stays)
  | failure refusal =>
    refine (second.idle text start low high).bind ?_
    intro last later
    exact Ensures.pure fun stays => .inr (later ((last.stays_anchor start start).mp stays))

theorem firstOf {ps : List (Parser σ α)} (first : Advances p empty)
    (each : ∀ q ∈ ps, Advances q empty) : Advances (firstOf p ps) empty := by
  induction ps generalizing p with
  | nil => exact first
  | cons q qs ih =>
    have others := fun r member => each r (List.mem_cons_of_mem q member)
    have rest := ih (each q List.mem_cons_self) others
    refine ⟨.firstOf first.located fun r member => (each r member).located, ?_⟩
    intro text start low high
    refine (first.idle text start low high).bind ?_
    intro reply idle
    cases reply with
    | success value stop => exact Ensures.pure idle
    | failure refusal => exact rest.idle text start low high

theorem choice {ps : List (Parser σ α)} (each : ∀ q ∈ ps, Advances q empty) :
    Advances (choice ps) empty := by
  refine ⟨.choice fun q member => (each q member).located, ?_⟩
  intro text start low high
  cases ps with
  | nil => exact Ensures.pure False.elim
  | cons p ps =>
    have tried := firstOf (each p List.mem_cons_self)
      fun q member => each q (List.mem_cons_of_mem p member)
    refine (tried.idle text start low high).bind ?_
    intro reply idle
    exact Ensures.pure fun stays => idle ((reply.stays_anchor start start).mp stays)

theorem traced (name : String) (inner : Advances p empty) :
    Advances (p.traced name) empty := by
  have printed : Advances (trace name : Parser σ Unit) True :=
    of_located (trace_located name) trivial
  have gave_up : Advances ((trace (name ++ " backtracked")).seqRight
      (Parser.fail (name ++ " failed")) : Parser σ α) (True ∧ False) :=
    (of_located (trace_located _) trivial).seqRight (failWith _)
  apply (printed.seqRight (inner.orElse gave_up)).mono
  intro stays
  exact stays.2.resolve_right And.right

theorem many1 (inner : Advances p empty) : Advances p.many1 empty := by
  refine ⟨inner.located.many1, ?_⟩
  intro text start low high
  refine (inner.ensures low high).bind ?_
  intro reply told
  cases reply with
  | failure refusal => exact Ensures.pure False.elim
  | success value stop =>
    have placed : start ≤ stop ∧ stop ≤ text.length := told.1
    by_cases still : stop = start
    · exact (Ensures.always _).mono fun _ _ _ => told.2 still
    · simp only [still, ↓reduceIte]
      refine (Located.many_reached inner.located text stop (Int.le_trans low placed.1)
        placed.2).bind ?_
      intro last reached
      apply Ensures.pure
      intro stays
      cases last with
      | failure refusal => exact stays.elim
      | success values ending =>
        have after : stop ≤ ending := reached.1
        have ends : ending = start := stays
        omega

theorem sepBy1 (inner : Advances p empty) (separator : Located q) :
    Advances (p.sepBy1 q) empty :=
  ((inner.both (of_located (separator.seqRight inner.located).many trivial)).map _).mono And.left

theorem chain {operator : Binary σ α} (operand : Advances p empty) (between : Located operator) :
    Advances (p.chain operator) empty :=
  (operand.both (of_located (between.both operand.located).many trivial)).mono And.left

theorem chainl1 {operator : Binary σ α} (operand : Advances p empty)
    (between : Located operator) : Advances (p.chainl1 operator) empty :=
  (operand.chain between).tryMap _

theorem chainr1 {operator : Binary σ α} (operand : Advances p empty)
    (between : Located operator) : Advances (p.chainr1 operator) empty :=
  (operand.chain between).tryMap _

theorem affixed {before after : List (Unary σ α)} (front : ∀ q ∈ before, Located q)
    (back : ∀ q ∈ after, Located q) (operand : Advances p empty) :
    Advances (affixed before after p) empty := by
  have lead : Advances (Parser.choice before).optional True :=
    of_located (Located.choice front).optional trivial
  have trail : Advances (Parser.choice after).optional True :=
    of_located (Located.choice back).optional trivial
  exact (((lead.both operand).both trail).tryMap _).mono fun stays => stays.1.2

theorem single {operators : List (Binary σ α)} (each : ∀ q ∈ operators, Located q)
    (operand : Advances p empty) : Advances (single operators p) empty := by
  have trail : Advances ((Parser.choice operators).both p).optional True :=
    of_located ((Located.choice each).both operand.located).optional trivial
  exact ((operand.both trail).tryMap _).mono And.left

theorem ite {r : Parser σ α} (condition : Prop) [Decidable condition] (yes : Advances p empty)
    (no : Advances r empty) : Advances (if condition then p else r) empty := by
  split
  · exact yes
  · exact no

theorem level {row : Row (Unary σ α) (Binary σ α)} (front : ∀ q ∈ row.before, Located q)
    (back : ∀ q ∈ row.after, Located q) (left : ∀ q ∈ row.left, Located q)
    (right : ∀ q ∈ row.right, Located q) (alone : ∀ q ∈ row.single, Located q)
    (operand : Advances p empty) : Advances (level row p) empty := by
  have affixes := ite (row.before.isEmpty && row.after.isEmpty) operand
    (operand.affixed front back)
  have lefts := ite row.left.isEmpty affixes (affixes.chainl1 (Located.choice left))
  have rights := ite row.right.isEmpty lefts (lefts.chainr1 (Located.choice right))
  exact ite row.single.isEmpty rights (rights.single alone)

theorem rule (definition : Definition σ) {run : σ → Parser σ α}
    (each : ∀ item, definition.build = .ok item → Advances (run item) empty) :
    Advances (rule definition run) empty :=
  ⟨.rule definition fun item built => (each item built).located,
    fun text start low high =>
      rule_ensures fun item built => (each item built).idle text start low high⟩

theorem fix {body : (ι → Parser σ α) → ι → Parser σ α} (empties : ι → Prop)
    (step : ∀ self, (∀ i, Advances (self i) (empties i)) → ∀ i, Advances (body self i) (empties i))
    (i : ι) : Advances (fix body i) (empties i) := by
  have unrolled : ∀ depth, Advances (unroll body depth i) (empties i) := fun depth =>
    unroll_induction (fun i q => Advances q (empties i))
      (fun _ => ⟨fun _ _ _ _ => Ensures.exhausted _, fun _ _ _ _ => Ensures.exhausted _⟩) step
      depth i
  exact ⟨fun text start low high =>
      fix_ensures fun depth => (unrolled depth).located text start low high,
    fun text start low high => fix_ensures fun depth => (unrolled depth).idle text start low high⟩

end Advances

end Parser

end Descent
