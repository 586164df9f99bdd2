import Descent.Parser.Char
import Descent.Parser.Trace
import Descent.Proofs.Parser.Primitive
import Descent.Proofs.Parser.Promise
import Descent.Proofs.Pattern.Bounds

set_option autoImplicit false

namespace Descent

/-- What is read off the value of the match, and then what is left of the text, is what was left at
the start. -/
def Reply.Spells {α : Type} (read : α → List Char) (text : Text) (start : Nat) : Reply α → Prop
  | .success value stop => ∃ reached : Nat, stop = reached ∧ reached ≤ text.length ∧
      read value ++ text.remaining reached = text.remaining start
  | .failure _ => True

namespace Parser

open Descent.Action (Ensures)

variable {σ α β ι : Type} {read : α → List Char}

def Spells (read : α → List Char) (p : Parser σ α) : Prop :=
  ∀ (text : Text) (start : Nat), start ≤ text.length →
    Ensures (p text start) (Reply.Spells read text start)

/-- What is read off a match of this kind is nothing. -/
abbrev Silent (p : Parser σ α) : Prop :=
  Spells (fun _ => []) p

/-- A match where the parser was started, with nothing to read. -/
theorem spells_here {text : Text} {start : Nat} {value : α} (within : start ≤ text.length)
    (nothing : read value = []) :
    Ensures (pure (.success value start) : Action σ (Reply α)) (Reply.Spells read text start) :=
  Ensures.pure ⟨start, rfl, within, by rw [nothing, List.nil_append]⟩

theorem spells_failure {text : Text} {start : Nat} (refusal : Failure) :
    Ensures (pure (.failure refusal) : Action σ (Reply α)) (Reply.Spells read text start) :=
  Ensures.pure trivial

theorem pure_spells {value : α} (nothing : read value = []) :
    Spells read (Parser.pure value : Parser σ α) :=
  fun _ _ within => spells_here within nothing

theorem failWith_spells (expected : Option String) : Spells read (failWith expected : Parser σ α) :=
  fun _ _ _ => spells_failure _

theorem raise_spells (fault : Fault) : Spells read (raise fault : Parser σ α) :=
  fun _ _ _ => Ensures.raise fault _

theorem literal_spells (s : String) : Spells String.toList (literal s : Parser σ String) := by
  intro text start within
  by_cases stands : s.toList <+: text.remaining start
  · rw [Parser.literal_of_prefix within stands]
    have room := stands.length_le
    rw [Text.length_remaining, String.length_toList] at room
    refine Ensures.pure ⟨start + s.length, rfl, by omega, ?_⟩
    obtain ⟨rest, split⟩ := stands
    rw [text.remaining_add, ← split, List.drop_left' String.length_toList]
  · rw [Parser.literal_of_not_prefix within stands]
    exact spells_failure _

theorem satisfy_spells (expected : Option String) (accepts : Char → Bool) :
    Spells (fun c => [c]) (satisfy expected accepts : Parser σ Char) := by
  intro text start within
  cases next : text.toList[start]? with
  | none =>
    rw [satisfy_of_none next]
    exact spells_failure _
  | some c =>
    rw [satisfy_of_some next]
    have room := (List.getElem?_eq_some_iff.mp next).1
    rw [Text.length_toList] at room
    split
    · exact Ensures.pure ⟨start + 1, rfl, room, (Text.remaining_eq_cons next).symm⟩
    · exact spells_failure _

theorem pattern_spells (expected : String) (p : Pattern) :
    Spells String.toList (pattern expected p : Parser σ String) := by
  intro text start within
  cases found : p.matchEnd? text start with
  | none =>
    rw [pattern_of_none within found]
    exact spells_failure _
  | some stop =>
    rw [pattern_of_some within found]
    obtain ⟨onward, bound⟩ := Pattern.matchEnd_bounds within found
    obtain ⟨count, rfl⟩ := Nat.exists_eq_add_of_le onward
    refine Ensures.pure ⟨start + count, rfl, bound, ?_⟩
    rw [text.toList_between, text.remaining_add, List.take_append_drop]

theorem eof_silent : Silent (eof : Parser σ Unit) := by
  intro text start within
  by_cases left : start < text.length
  · rw [eof_of_lt left]
    exact spells_failure _
  · have ended : start = text.length := by omega
    rw [ended, eof_of_length]
    exact spells_here (Nat.le_refl _) rfl

theorem trace_silent (name : String) : Silent (trace name : Parser σ Unit) :=
  fun _ _ within => (Ensures.always _).bind fun _ _ => spells_here within rfl

/-- Looking whether a parser fails reads nothing, whatever the parser does. -/
theorem notFollowedBy_silent (p : Parser σ α) : Silent p.notFollowedBy := by
  intro text start within
  refine (Ensures.always (p text start)).bind ?_
  rintro (⟨value, stop⟩ | refusal) -
  · exact spells_failure _
  · exact spells_here within rfl

namespace Spells

variable {p q : Parser σ α}

theorem map {reads : β → List Char} (f : α → β) (same : ∀ value, reads (f value) = read value)
    (spells : Spells read p) : Spells reads (p.map f) := by
  intro text start within
  refine (spells text start within).bind ?_
  rintro (⟨value, stop⟩ | refusal) told
  · obtain ⟨reached, place, bound, split⟩ := told
    exact Ensures.pure ⟨reached, place, bound, by rw [same, split]⟩
  · exact spells_failure _

theorem anchored (spells : Spells read p) : Spells read p.anchored := by
  intro text start within
  refine (spells text start within).bind ?_
  rintro (⟨value, stop⟩ | refusal) told
  · exact Ensures.pure told
  · exact spells_failure _

theorem label (message : String) (spells : Spells read p) : Spells read (p.label message) := by
  intro text start within
  refine (spells text start within).bind ?_
  rintro (⟨value, stop⟩ | refusal) told
  · exact Ensures.pure told
  · exact spells_failure _

theorem logged {read : Value → List Char} {p : Parser σ Value} (tag : String)
    (spells : Spells read p) : Spells read (p.logged tag) := by
  intro text start within
  refine (spells text start within).bind ?_
  rintro (⟨value, stop⟩ | refusal) told
  · exact (Ensures.always _).bind fun _ _ => Ensures.pure told
  · exact spells_failure _

/-- Nothing is lost if there was nothing to read off the first value. -/
theorem seqRight {first : Parser σ β} (silent : Silent first) (spells : Spells read p) :
    Spells read (first.seqRight p) := by
  intro text start within
  refine (silent text start within).bind ?_
  rintro (⟨value, stop⟩ | refusal) told
  · obtain ⟨reached, rfl, bound, same⟩ := told
    refine (spells text reached bound).bind ?_
    rintro (⟨value, stop⟩ | refusal) later
    · obtain ⟨last, place, bound, split⟩ := later
      exact Ensures.pure ⟨last, place, bound, split.trans same⟩
    · exact spells_failure _
  · exact spells_failure _

theorem orElse (spells : Spells read p) (other : Spells read q) : Spells read (p.orElse q) := by
  intro text start within
  refine (spells text start within).bind ?_
  rintro (⟨value, stop⟩ | refusal) told
  · exact Ensures.pure told
  · exact other.anchored text start within

theorem traced (name : String) (spells : Spells read p) : Spells read (p.traced name) :=
  seqRight (trace_silent name)
    (spells.orElse (seqRight (trace_silent _) (failWith_spells _)))

/-- The first value and what comes after it are read one after another. -/
theorem cons {rest : Parser σ (List α)} {text : Text} {start reached : Nat} {value : α}
    (split : read value ++ text.remaining reached = text.remaining start)
    (spells : Ensures (rest text reached) (Reply.Spells (List.flatMap read) text reached)) :
    Ensures (rest text reached >>= fun reply => pure (reply.map (value :: ·)))
      (Reply.Spells (List.flatMap read) text start) := by
  refine spells.bind ?_
  rintro (⟨values, stop⟩ | refusal) told
  · obtain ⟨last, place, bound, rest_split⟩ := told
    refine Ensures.pure ⟨last, place, bound, ?_⟩
    rw [List.flatMap_cons, List.append_assoc, rest_split, split]
  · exact spells_failure _

theorem inTurn {ps : List (Parser σ α)} (each : ∀ p ∈ ps, Spells read p) :
    Spells (List.flatMap read) (inTurn ps) := by
  induction ps with
  | nil => exact fun _ _ within => spells_here within rfl
  | cons p ps ih =>
    intro text start within
    refine (each p List.mem_cons_self text start within).bind ?_
    rintro (⟨value, stop⟩ | refusal) told
    · obtain ⟨reached, rfl, bound, split⟩ := told
      exact cons split (ih (fun q member => each q (List.mem_cons_of_mem _ member)) text reached
        bound)
    · exact spells_failure _

theorem sequence {ps : List (Parser σ α)} (each : ∀ p ∈ ps, Spells read p) :
    Spells (List.flatMap read) (sequence ps) :=
  (inTurn each).anchored

theorem count (n : Nat) (spells : Spells read p) : Spells (List.flatMap read) (count n p) := by
  rw [count_eq_sequence]
  apply sequence
  intro q member
  rw [List.eq_of_mem_replicate member]
  exact spells

/-- What an alternative consumed before it failed counts for nothing: the next one starts anew. -/
theorem firstOf {ps : List (Parser σ α)} (spells : Spells read p) (each : ∀ q ∈ ps, Spells read q) :
    Spells read (firstOf p ps) := by
  induction ps generalizing p with
  | nil => exact spells
  | cons q qs ih =>
    intro text start within
    refine (spells text start within).bind ?_
    rintro (⟨value, stop⟩ | refusal) told
    · exact Ensures.pure told
    · exact ih (each q List.mem_cons_self)
        (fun r member => each r (List.mem_cons_of_mem _ member)) text start within

theorem choice {ps : List (Parser σ α)} (each : ∀ p ∈ ps, Spells read p) :
    Spells read (choice ps) := by
  cases ps with
  | nil => exact failWith_spells _
  | cons p ps =>
    exact (firstOf (each p List.mem_cons_self)
      fun q member => each q (List.mem_cons_of_mem _ member)).anchored

/-- A match that stays where it is has nothing to read, so a repetition may drop it. -/
theorem repeatUpTo (spells : Spells read p) (rounds : Nat) :
    Spells (List.flatMap read) (p.repeatUpTo rounds) := by
  induction rounds with
  | zero => exact fun _ _ _ => Ensures.exhausted _
  | succ rounds ih =>
    intro text start within
    refine (spells text start within).bind ?_
    rintro (⟨value, stop⟩ | refusal) told
    · obtain ⟨reached, rfl, bound, split⟩ := told
      by_cases stays : (reached : Int) = start
      · simp only [stays, ↓reduceIte]
        exact spells_here within rfl
      · simp only [stays, ↓reduceIte]
        exact cons split (ih text reached bound)
    · exact spells_here within rfl

theorem many (spells : Spells read p) : Spells (List.flatMap read) p.many :=
  fun text start within => many_ensures fun rounds => spells.repeatUpTo rounds text start within

theorem many1 (spells : Spells read p) : Spells (List.flatMap read) p.many1 := by
  intro text start within
  refine (spells text start within).bind ?_
  rintro (⟨value, stop⟩ | refusal) told
  · obtain ⟨reached, rfl, bound, split⟩ := told
    by_cases stays : (reached : Int) = start
    · simp only [stays, ↓reduceIte]
      exact spells_here within rfl
    · simp only [stays, ↓reduceIte]
      exact cons split (spells.many text reached bound)
  · exact spells_failure _

theorem rule (definition : Definition σ) {run : σ → Parser σ α}
    (each : ∀ item, definition.build = .ok item → Spells read (run item)) :
    Spells read (rule definition run) :=
  fun text start within => rule_ensures fun item built => each item built text start within

theorem fix {body : (ι → Parser σ α) → ι → Parser σ α}
    (step : ∀ self, (∀ i, Spells read (self i)) → ∀ i, Spells read (body self i)) (i : ι) :
    Spells read (fix body i) := by
  have unrolled : ∀ depth, Spells read (unroll body depth i) := fun depth =>
    unroll_induction (fun _ => Spells read) (fun _ _ _ _ => Ensures.exhausted _) step depth i
  exact fun text start within => fix_ensures fun depth => unrolled depth text start within

end Spells

end Parser

end Descent
