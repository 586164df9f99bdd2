import Descent.Parser.Expression
import Descent.Proofs.Parser.Promise
import Descent.Proofs.Table.Lexeme

set_option autoImplicit false

namespace Descent

open Descent.Action (Ensures)

/-- A match takes tokens from the index on that make up a phrase with its value. -/
def Reply.Took {α : Type} (text : Text) (i : Nat) (phrase : List Token → α → Prop) :
    Reply α → Prop
  | .success value stop => ∃ (j : Nat) (taken : List Token), stop = j ∧ j ≤ text.length ∧
      text.tokens i = taken ++ text.tokens j ∧ phrase taken value
  | .failure _ => True

namespace Parser

variable {σ α β : Type}

/-- Each match takes tokens that make up a phrase. -/
def Takes (p : Parser σ α) (text : Text) (phrase : List Token → α → Prop) : Prop :=
  ∀ i : Nat, i ≤ text.length → Ensures (p text i) (Reply.Took text i phrase)

namespace Takes

variable {text : Text} {p r : Parser σ α} {q : Parser σ β} {phrase other : List Token → α → Prop}
  {second : List Token → β → Prop}

theorem mono (takes : p.Takes text phrase) (weaker : ∀ taken x, phrase taken x → other taken x) :
    p.Takes text other := by
  intro i within
  refine (takes i within).mono ?_
  intro reply took
  cases reply with
  | failure refusal => trivial
  | success value stop =>
    obtain ⟨j, taken, ends, inside, tokens, holds⟩ := took
    exact ⟨j, taken, ends, inside, tokens, weaker taken value holds⟩

theorem fail (message : String) : (fail message : Parser σ α).Takes text phrase :=
  fun _ _ => Ensures.pure trivial

/-- Two parsers one after the other take what both take. -/
theorem bind {next : α → Parser σ β} {after : α → List Token → β → Prop}
    (first : p.Takes text phrase) (rest : ∀ x, (next x).Takes text (after x))
    (joined : ∀ taken others x y, phrase taken x → after x others y → second (taken ++ others) y) :
    (p.bind next).Takes text second := by
  intro i within
  refine (first i within).bind ?_
  intro reply took
  cases reply with
  | failure refusal => exact Ensures.pure trivial
  | success value stop =>
    obtain ⟨j, taken, rfl, inside, tokens, holds⟩ := took
    refine (rest value j inside).bind ?_
    intro last later
    cases last with
    | failure refusal => exact Ensures.pure trivial
    | success result ending =>
      obtain ⟨k, others, ends, inside_later, tokens_later, holds_later⟩ := later
      refine Ensures.pure ⟨k, taken ++ others, ends, inside_later, ?_, ?_⟩
      · rw [tokens, tokens_later, List.append_assoc]
      · exact joined taken others value result holds holds_later

theorem map {f : α → β} (takes : p.Takes text phrase)
    (mapped : ∀ taken x, phrase taken x → second taken (f x)) : (p.map f).Takes text second := by
  intro i within
  refine (takes i within).bind ?_
  intro reply took
  cases reply with
  | failure refusal => exact Ensures.pure trivial
  | success value stop =>
    obtain ⟨j, taken, ends, inside, tokens, holds⟩ := took
    exact Ensures.pure ⟨j, taken, ends, inside, tokens, mapped taken value holds⟩

theorem tryMap {f : α → Except Fault β} (takes : p.Takes text phrase)
    (mapped : ∀ taken x y, phrase taken x → f x = .ok y → second taken y) :
    (p.tryMap f).Takes text second := by
  intro i within
  refine (takes i within).bind ?_
  intro reply took
  cases reply with
  | failure refusal => exact Ensures.pure trivial
  | success value stop =>
    obtain ⟨j, taken, ends, inside, tokens, holds⟩ := took
    have computed : Ensures (Action.ofExcept (f value) : Action σ β) fun y => f value = .ok y :=
      Ensures.ofExcept fun _ same => same
    refine computed.bind ?_
    intro result same
    exact Ensures.pure ⟨j, taken, ends, inside, tokens, mapped taken value result holds same⟩

theorem orElse (first : p.Takes text phrase) (rest : r.Takes text phrase) :
    (p.orElse r).Takes text phrase := by
  intro i within
  refine (first i within).bind ?_
  intro reply took
  cases reply with
  | success value stop => exact Ensures.pure took
  | failure refusal =>
    refine (rest i within).bind ?_
    intro last later
    cases last <;> exact Ensures.pure later

theorem both {joined : List Token → α × β → Prop} (first : p.Takes text phrase)
    (rest : q.Takes text second) (parts : ∀ taken others x y, phrase taken x → second others y →
      joined (taken ++ others) (x, y)) : (p.both q).Takes text joined := by
  have paired : ∀ x : α, (q.map fun y => (x, y)).Takes text fun others pair =>
      ∃ y, second others y ∧ pair = (x, y) :=
    fun x => rest.map fun _ y holds => ⟨y, holds, rfl⟩
  apply first.bind paired
  intro taken others x pair holds later
  obtain ⟨y, holds_later, rfl⟩ := later
  exact parts taken others x y holds holds_later

/-- An optional parser takes nothing, or what its parser takes. -/
theorem optional {maybe : List Token → Option α → Prop} (takes : p.Takes text phrase)
    (none : maybe [] none) (some : ∀ taken x, phrase taken x → maybe taken (some x)) :
    p.optional.Takes text maybe := by
  apply (takes.map some).orElse
  exact fun i within => Ensures.pure ⟨i, [], rfl, within, rfl, none⟩

theorem firstOf {ps : List (Parser σ α)} (first : p.Takes text phrase)
    (each : ∀ q ∈ ps, q.Takes text phrase) : (firstOf p ps).Takes text phrase := by
  induction ps generalizing p with
  | nil => exact first
  | cons q qs ih =>
    have rest := ih (each q List.mem_cons_self)
      fun r member => each r (List.mem_cons_of_mem q member)
    intro i within
    refine (first i within).bind ?_
    intro reply took
    cases reply with
    | success value stop => exact Ensures.pure took
    | failure refusal => exact rest i within

theorem choice {ps : List (Parser σ α)} (each : ∀ q ∈ ps, q.Takes text phrase) :
    (choice ps).Takes text phrase := by
  cases ps with
  | nil => exact fail _
  | cons p ps =>
    have tried := firstOf (each p List.mem_cons_self)
      fun q member => each q (List.mem_cons_of_mem p member)
    intro i within
    refine (tried i within).bind ?_
    intro reply took
    cases reply <;> exact Ensures.pure took

/-- A repetition takes what its rounds take. -/
theorem many {rounds : List Token → List α → Prop} (takes : p.Takes text phrase)
    (none : rounds [] []) (more : ∀ taken others x xs, phrase taken x → rounds others xs →
      rounds (taken ++ others) (x :: xs)) : p.many.Takes text rounds := by
  have bounded : ∀ n, (p.repeatUpTo n).Takes text rounds := by
    intro n
    induction n with
    | zero => exact fun _ _ => Ensures.exhausted _
    | succ n ih =>
      intro i within
      refine (takes i within).bind ?_
      intro reply took
      cases reply with
      | failure refusal => exact Ensures.pure ⟨i, [], rfl, within, rfl, none⟩
      | success value stop =>
        obtain ⟨j, taken, rfl, inside, tokens, holds⟩ := took
        by_cases stays : (j : Int) = i
        · simp only [stays, ↓reduceIte]
          exact Ensures.pure ⟨i, [], rfl, within, rfl, none⟩
        · simp only [stays, ↓reduceIte]
          refine (ih j inside).bind ?_
          intro last later
          cases last with
          | failure refusal => exact Ensures.pure trivial
          | success values ending =>
            obtain ⟨k, others, ends, inside_later, tokens_later, holds_later⟩ := later
            refine Ensures.pure ⟨k, taken ++ others, ends, inside_later, ?_, ?_⟩
            · rw [tokens, tokens_later, List.append_assoc]
            · exact more taken others value values holds holds_later
  exact fun i within => many_ensures fun n => bounded n i within

end Takes

end Parser

end Descent
