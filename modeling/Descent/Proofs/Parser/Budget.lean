import Descent.Parser.Char
import Descent.Parser.Expression
import Descent.Parser.Trace
import Descent.Proofs.Action.Budget
import Descent.Proofs.Parser.Rule
import Mathlib.Data.List.Forall2

set_option autoImplicit false

namespace Descent.Parser

variable {σ α β ι : Type}

/-- What the first parser settles with little budget, the second settles alike with more. -/
def Extends (little more : Nat) (first second : Parser σ α) : Prop :=
  ∀ text pos, (first text pos).Extends little more (second text pos)

def Stable (p : Parser σ α) : Prop :=
  ∀ little more, little ≤ more → Extends little more p p

variable {little more : Nat}

theorem pure_extends (value : α) :
    Extends little more (Parser.pure value : Parser σ α) (Parser.pure value) :=
  fun _ _ => Action.pure_extends _

theorem failWith_extends (expected : Option String) :
    Extends little more (failWith expected : Parser σ α) (failWith expected) :=
  fun _ _ => Action.pure_extends _

theorem raise_extends (fault : Fault) :
    Extends little more (raise fault : Parser σ α) (raise fault) :=
  fun _ _ => Action.raise_extends fault

theorem ofReply_extends (reply : Text → Int → Reply α) :
    Extends little more (ofReply reply : Parser σ α) (ofReply reply) :=
  fun _ _ => Action.pure_extends _

theorem literal_extends (s : String) :
    Extends little more (literal s : Parser σ String) (literal s) := by
  intro text pos
  unfold literal
  split <;> exact Action.pure_extends _

theorem satisfy_extends (expected : Option String) (accepts : Char → Bool) :
    Extends little more (satisfy expected accepts : Parser σ Char) (satisfy expected accepts) := by
  intro text pos
  unfold satisfy
  split
  · split
    · exact Action.raise_extends _
    · split <;> exact Action.pure_extends _
  · exact Action.pure_extends _

theorem pattern_extends (expected : String) (p : Pattern) :
    Extends little more (pattern expected p : Parser σ String) (pattern expected p) := by
  intro text pos
  unfold pattern
  dsimp only
  split <;> exact Action.pure_extends _

theorem eof_extends : Extends little more (eof : Parser σ Unit) eof := by
  intro text pos
  unfold eof
  split <;> exact Action.pure_extends _

theorem trace_extends (name : String) :
    Extends little more (trace name : Parser σ Unit) (trace name) :=
  fun _ _ => (Action.record_extends _).bind fun _ => Action.pure_extends _

/-- One round of a repetition, given the parser of the rounds after it. -/
def round (p : Parser σ α) (rest : Parser σ (List α)) : Parser σ (List α) := fun text pos => do
  match ← p text pos with
  | .failure _ => return .success [] pos
  | .success value stop =>
    if stop = pos then return .success [] pos
    else return (← rest text stop).map (value :: ·)

theorem repeatUpTo_succ (p : Parser σ α) (rounds : Nat) :
    p.repeatUpTo (rounds + 1) = p.round (p.repeatUpTo rounds) :=
  rfl

namespace Extends

variable {p p' : Parser σ α} {q q' : Parser σ β}

theorem lookAhead (first : Extends little more p p') :
    Extends little more p.lookAhead p'.lookAhead := by
  intro text pos
  apply (first text pos).bind
  rintro (⟨value, stop⟩ | refusal) <;> exact Action.pure_extends _

theorem notFollowedBy (first : Extends little more p p') :
    Extends little more p.notFollowedBy p'.notFollowedBy := by
  intro text pos
  apply (first text pos).bind
  rintro (⟨value, stop⟩ | refusal) <;> exact Action.pure_extends _

theorem map (f : α → β) (first : Extends little more p p') :
    Extends little more (p.map f) (p'.map f) :=
  fun text pos => (first text pos).bind fun _ => Action.pure_extends _

theorem tryMap (f : α → Except Fault β) (first : Extends little more p p') :
    Extends little more (p.tryMap f) (p'.tryMap f) := by
  intro text pos
  apply (first text pos).bind
  rintro (⟨value, stop⟩ | refusal)
  · exact (Action.ofExcept_extends _).bind fun _ => Action.pure_extends _
  · exact Action.pure_extends _

theorem anchored (first : Extends little more p p') :
    Extends little more p.anchored p'.anchored :=
  fun text pos => (first text pos).bind fun _ => Action.pure_extends _

theorem label (message : String) (first : Extends little more p p') :
    Extends little more (p.label message) (p'.label message) := by
  intro text pos
  apply (first text pos).bind
  rintro (⟨value, stop⟩ | refusal) <;> exact Action.pure_extends _

theorem logged {p p' : Parser σ Value} (tag : String) (first : Extends little more p p') :
    Extends little more (p.logged tag) (p'.logged tag) := by
  intro text pos
  apply (first text pos).bind
  rintro (⟨value, stop⟩ | refusal)
  · exact (Action.record_extends _).bind fun _ => Action.pure_extends _
  · exact Action.pure_extends _

theorem bind {next next' : α → Parser σ β} (first : Extends little more p p')
    (rest : ∀ value, Extends little more (next value) (next' value)) :
    Extends little more (p.bind next) (p'.bind next') := by
  intro text pos
  apply (first text pos).bind
  rintro (⟨value, stop⟩ | refusal)
  · exact (rest value text stop).bind fun _ => Action.pure_extends _
  · exact Action.pure_extends _

theorem orElse {r r' : Parser σ α} (first : Extends little more p p')
    (second : Extends little more r r') : Extends little more (p.orElse r) (p'.orElse r') := by
  intro text pos
  apply (first text pos).bind
  rintro (⟨value, stop⟩ | refusal)
  · exact Action.pure_extends _
  · exact (second text pos).bind fun _ => Action.pure_extends _

theorem both (first : Extends little more p p') (second : Extends little more q q') :
    Extends little more (p.both q) (p'.both q') :=
  first.bind fun _ => second.map _

theorem seqRight (first : Extends little more p p') (second : Extends little more q q') :
    Extends little more (p.seqRight q) (p'.seqRight q') :=
  first.bind fun _ => second

theorem seqLeft (first : Extends little more p p') (second : Extends little more q q') :
    Extends little more (p.seqLeft q) (p'.seqLeft q') :=
  first.bind fun _ => second.map _

theorem between {closing closing' : Parser σ β} (opens : Extends little more q q')
    (closes : Extends little more closing closing') (inner : Extends little more p p') :
    Extends little more (q.between closing p) (q'.between closing' p') :=
  (opens.seqRight inner).seqLeft closes

theorem option (default : α) (first : Extends little more p p') :
    Extends little more (p.option default) (p'.option default) :=
  first.orElse (pure_extends default)

theorem optional (first : Extends little more p p') :
    Extends little more p.optional p'.optional :=
  (first.map _).option _

theorem traced (name : String) (first : Extends little more p p') :
    Extends little more (p.traced name) (p'.traced name) :=
  (trace_extends name).seqRight
    (first.orElse ((trace_extends _).seqRight (failWith_extends _)))

variable {ps ps' : List (Parser σ α)}

theorem inTurn (all : List.Forall₂ (Extends little more) ps ps') :
    Extends little more (inTurn ps) (inTurn ps') := by
  induction all with
  | nil => exact fun _ _ => Action.pure_extends _
  | cons first _ rest =>
    intro text pos
    apply (first text pos).bind
    rintro (⟨value, stop⟩ | refusal)
    · exact (rest text stop).bind fun _ => Action.pure_extends _
    · exact Action.pure_extends _

theorem sequence (all : List.Forall₂ (Extends little more) ps ps') :
    Extends little more (sequence ps) (sequence ps') :=
  (inTurn all).anchored

theorem firstOf (first : Extends little more p p')
    (all : List.Forall₂ (Extends little more) ps ps') :
    Extends little more (firstOf p ps) (firstOf p' ps') := by
  induction all generalizing p p' with
  | nil => exact first
  | cons second _ rest =>
    intro text pos
    apply (first text pos).bind
    rintro (⟨value, stop⟩ | refusal)
    · exact Action.pure_extends _
    · exact rest second text pos

theorem choice (all : List.Forall₂ (Extends little more) ps ps') :
    Extends little more (choice ps) (choice ps') := by
  cases all with
  | nil => exact failWith_extends _
  | cons first rest => exact (firstOf first rest).anchored

theorem count (n : Nat) (first : Extends little more p p') :
    Extends little more (count n p) (count n p') := by
  rw [count_eq_sequence, count_eq_sequence]
  apply sequence
  induction n with
  | zero => exact .nil
  | succ n ih => exact .cons first ih

theorem round {rest rest' : Parser σ (List α)} (first : Extends little more p p')
    (again : Extends little more rest rest') :
    Extends little more (round p rest) (round p' rest') := by
  intro text pos
  apply (first text pos).bind
  rintro (⟨value, stop⟩ | refusal)
  · by_cases stays : stop = pos
    · simp only [stays, ↓reduceIte]
      exact Action.pure_extends _
    · simp only [stays, ↓reduceIte]
      exact (again text stop).bind fun _ => Action.pure_extends _
  · exact Action.pure_extends _

theorem repeatUpTo (first : Extends little more p p') (rounds rounds' : Nat)
    (enough : rounds ≤ rounds') :
    Extends little more (p.repeatUpTo rounds) (p'.repeatUpTo rounds') := by
  induction rounds generalizing rounds' with
  | zero => exact fun _ _ => Action.exhausted_extends _
  | succ rounds ih =>
    obtain ⟨extra, rfl⟩ := Nat.exists_eq_add_of_lt enough
    rw [repeatUpTo_succ, repeatUpTo_succ]
    exact first.round (ih _ (by omega))

theorem many (enough : little ≤ more) (first : Extends little more p p') :
    Extends little more p.many p'.many :=
  fun text pos => repeatUpTo first little more enough text pos

theorem many1 (enough : little ≤ more) (first : Extends little more p p') :
    Extends little more p.many1 p'.many1 := by
  intro text pos
  apply (first text pos).bind
  rintro (⟨value, stop⟩ | refusal)
  · by_cases stays : stop = pos
    · simp only [stays, ↓reduceIte]
      exact Action.pure_extends _
    · simp only [stays, ↓reduceIte]
      exact (first.many enough text stop).bind fun _ => Action.pure_extends _
  · exact Action.pure_extends _

theorem sepBy1 (enough : little ≤ more) (first : Extends little more p p')
    (second : Extends little more q q') : Extends little more (p.sepBy1 q) (p'.sepBy1 q') :=
  (first.both ((second.seqRight first).many enough)).map _

variable {operator operator' : Binary σ α}

theorem chain (enough : little ≤ more) (first : Extends little more p p')
    (second : Extends little more operator operator') :
    Extends little more (p.chain operator) (p'.chain operator') :=
  first.both ((second.both first).many enough)

theorem chainl1 (enough : little ≤ more) (first : Extends little more p p')
    (second : Extends little more operator operator') :
    Extends little more (p.chainl1 operator) (p'.chainl1 operator') :=
  (first.chain enough second).tryMap _

theorem chainr1 (enough : little ≤ more) (first : Extends little more p p')
    (second : Extends little more operator operator') :
    Extends little more (p.chainr1 operator) (p'.chainr1 operator') :=
  (first.chain enough second).tryMap _

theorem affixed {before before' after after' : List (Unary σ α)}
    (front : List.Forall₂ (Extends little more) before before')
    (back : List.Forall₂ (Extends little more) after after') (first : Extends little more p p') :
    Extends little more (affixed before after p) (affixed before' after' p') :=
  (((choice front).optional.both first).both (choice back).optional).tryMap _

theorem single {operators operators' : List (Binary σ α)}
    (all : List.Forall₂ (Extends little more) operators operators')
    (first : Extends little more p p') :
    Extends little more (single operators p) (single operators' p') :=
  (first.both ((choice all).both first).optional).tryMap _

theorem ite {p p' r r' : Parser σ α} (condition : Prop) [Decidable condition]
    (yes : Extends little more p p') (no : Extends little more r r') :
    Extends little more (if condition then p else r) (if condition then p' else r') := by
  split
  · exact yes
  · exact no

theorem isEmpty_eq {ps ps' : List (Parser σ α)} (all : List.Forall₂ (Extends little more) ps ps') :
    ps.isEmpty = ps'.isEmpty := by
  cases all <;> rfl

end Extends

structure RowExtends (little more : Nat) (row row' : Row (Unary σ α) (Binary σ α)) : Prop where
  before : List.Forall₂ (Extends little more) row.before row'.before
  after : List.Forall₂ (Extends little more) row.after row'.after
  left : List.Forall₂ (Extends little more) row.left row'.left
  right : List.Forall₂ (Extends little more) row.right row'.right
  single : List.Forall₂ (Extends little more) row.single row'.single

theorem Extends.level {row row' : Row (Unary σ α) (Binary σ α)} {p p' : Parser σ α}
    (enough : little ≤ more) (all : RowExtends little more row row')
    (operand : Extends little more p p') :
    Extends little more (Parser.level row p) (Parser.level row' p') := by
  unfold Parser.level
  rw [isEmpty_eq all.before, isEmpty_eq all.after, isEmpty_eq all.left, isEmpty_eq all.right,
    isEmpty_eq all.single]
  have affixes := Extends.ite (row'.before.isEmpty && row'.after.isEmpty) operand
    (operand.affixed all.before all.after)
  have lefts := Extends.ite row'.left.isEmpty affixes
    (affixes.chainl1 enough (Extends.choice all.left))
  have rights := Extends.ite row'.right.isEmpty lefts
    (lefts.chainr1 enough (Extends.choice all.right))
  exact Extends.ite row'.single.isEmpty rights (Extends.single all.single rights)

/-- A repetition settles on what one round of it settles on when the repetition itself goes on from
there. -/
theorem settles_many {p : Parser σ α} (stable : p.Stable) {text : Text} {pos : Int}
    {session : Session σ} {outcome : Outcome σ (Reply (List α))}
    (settles : Action.Settles (p.round p.many text pos) session outcome) :
    Action.Settles (p.many text pos) session outcome := by
  obtain ⟨settled, bound, comes⟩ := settles
  refine ⟨settled, bound + 1, ?_⟩
  intro budget enough
  obtain ⟨less, rfl⟩ := Nat.exists_eq_add_of_lt enough
  -- with this budget the first of the rounds leaves `bound + less` to the others
  have first : Extends (bound + less) (bound + less + 1) p p := stable _ _ (Nat.le_succ _)
  have below : Extends (bound + less) (bound + less + 1) p.many (p.repeatUpTo (bound + less)) :=
    fun text pos => first.repeatUpTo _ _ (Nat.le_refl _) text pos
  have ran := comes (bound + less) (by omega)
  rw [← ran]
  exact first.round below text pos session (by rw [ran]; exact settled)

theorem Stable.anchored {p : Parser σ α} (stable : p.Stable) : p.anchored.Stable :=
  fun _ _ enough => (stable _ _ enough).anchored

/-- Replacing the parsers that a body uses by ones that extend them extends the parsers that it
defines. -/
def Regular (body : (ι → Parser σ α) → ι → Parser σ α) : Prop :=
  ∀ little more, little ≤ more → ∀ self self', (∀ i, Extends little more (self i) (self' i)) →
    ∀ i, Extends little more (body self i) (body self' i)

theorem Extends.rule (definition : Definition σ) {run run' : σ → Parser σ α}
    (extended : ∀ item, definition.build = .ok item → Extends little more (run item) (run' item)) :
    Extends little more (Parser.rule definition run) (Parser.rule definition run') := by
  intro text pos session settled
  cases built : definition.build with
  | ok item =>
    rw [rule_ok built] at settled ⊢
    rw [rule_ok built]
    exact extended item built text pos _ settled
  | error fault => rw [rule_error built, rule_error built]

/-- A rule settles on what its parser settles on in a session in which the rule is built. -/
theorem settles_rule {definition : Definition σ} {item : σ} {run : σ → Parser σ α} {text : Text}
    {pos : Int} {session : Session σ} {outcome : Outcome σ (Reply α)}
    (built : definition.build = .ok item)
    (settles : Action.Settles (run item text pos) (session.built definition item) outcome) :
    Action.Settles (rule definition run text pos) session outcome := by
  obtain ⟨settled, bound, comes⟩ := settles
  refine ⟨settled, bound, ?_⟩
  intro budget enough
  rw [rule_ok built]
  exact comes budget enough

theorem settles_rule_error {definition : Definition σ} {fault : Fault}
    (failed : definition.build = .error fault) (run : σ → Parser σ α) (text : Text) (pos : Int)
    (session : Session σ) :
    Action.Settles (rule definition run text pos) session
      (.stopped (.fault fault) (session.record (.forced definition.name))) :=
  ⟨trivial, 0, fun budget _ => rule_error failed text pos budget session⟩

variable {body : (ι → Parser σ α) → ι → Parser σ α}

theorem unroll_extends (regular : Regular body) (enough : little ≤ more) (depth depth' : Nat)
    (deeper : depth ≤ depth') (i : ι) :
    Extends little more (unroll body depth i) (unroll body depth' i) := by
  induction depth generalizing depth' i with
  | zero => exact fun _ _ => Action.exhausted_extends _
  | succ depth ih =>
    obtain ⟨extra, rfl⟩ := Nat.exists_eq_add_of_lt deeper
    exact regular little more enough _ _ (fun j => ih _ (by omega) j) i

theorem fix_stable (regular : Regular body) (i : ι) : Stable (fix body i) :=
  fun little more enough text pos =>
    unroll_extends regular enough little more enough i text pos

/-- A family defined from itself settles on what its body settles on when it is given the family
itself. -/
theorem settles_fix (regular : Regular body) {i : ι} {text : Text} {pos : Int} {session : Session σ}
    {outcome : Outcome σ (Reply α)}
    (settles : Action.Settles (body (fix body) i text pos) session outcome) :
    Action.Settles (fix body i text pos) session outcome := by
  obtain ⟨settled, bound, comes⟩ := settles
  refine ⟨settled, bound + 1, ?_⟩
  intro budget enough
  obtain ⟨less, rfl⟩ := Nat.exists_eq_add_of_lt enough
  -- with this budget the family is what it is at depth `bound + less`
  have below : ∀ j, Extends (bound + less) (bound + less + 1) (fix body j)
      (unroll body (bound + less) j) :=
    fun j text pos => unroll_extends regular (Nat.le_succ _) _ _ (Nat.le_refl _) j text pos
  have ran := comes (bound + less) (by omega)
  rw [← ran]
  exact regular _ _ (Nat.le_succ _) _ _ below i text pos session (by rw [ran]; exact settled)

end Descent.Parser
