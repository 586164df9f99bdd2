import Descent.Proofs.Parser.Functional
import Descent.Proofs.Placement.Grammar
import Descent.Proofs.Recursion.Ending

set_option autoImplicit false

namespace Descent

/-- If the reply is a match, its value and its end stand in the relation. -/
def Reply.MatchHas {α : Type} (good : α → Int → Prop) : Reply α → Prop
  | .success value stop => good value stop
  | .failure _ => True

theorem Reply.MatchHas.map {α β : Type} {good : β → Int → Prop} {reply : Reply α} (f : α → β)
    (holds : reply.MatchHas fun value => good (f value)) : (reply.map f).MatchHas good := by
  cases reply with
  | success value stop => exact holds
  | failure refusal => trivial

theorem Reply.MatchHas.anchor {α : Type} {good : α → Int → Prop} {reply : Reply α}
    (holds : reply.MatchHas good) (pos : Int) : (reply.anchor pos).MatchHas good := by
  cases reply with
  | success value stop => exact holds
  | failure refusal => trivial

namespace Parser

open Descent.Action (Ensures Halts Yields)

variable {σ α : Type}

/-- From one place to another there is a row of matches of the parser with these values, each of
which moves. -/
inductive Rounds (p : Parser σ α) (text : Text) : Int → List α → Int → Prop where
  | none (pos : Int) : Rounds p text pos [] pos
  | next {pos middle stop : Int} {value : α} {values : List α}
      (matched : p.Replies text pos (.success value middle)) (moves : middle ≠ pos)
      (rest : Rounds p text middle values stop) : Rounds p text pos (value :: values) stop

/-- At the place the parser fails or matches without moving. -/
inductive Rests (p : Parser σ α) (text : Text) (pos : Int) : Prop where
  | refused (refusal : Failure) (replies : p.Replies text pos (.failure refusal))
  | stays (value : α) (replies : p.Replies text pos (.success value pos))

/-- The values are those of a row of matches that cannot be made longer. -/
structure Greedy (p : Parser σ α) (text : Text) (start : Int) (values : List α) (stop : Int) :
    Prop where
  rounds : p.Rounds text start values stop
  rests : p.Rests text stop

variable {p : Parser σ α} {text : Text} {start stop : Int} {values : List α}

theorem Rests.many (stable : p.Stable) (rests : p.Rests text stop) :
    p.many.Replies text stop (.success [] stop) := by
  apply yields_many stable
  cases rests with
  | refused refusal replies =>
    apply replies.bind
    exact Yields.pure rfl
  | stays value replies =>
    apply replies.bind
    simp only [↓reduceIte]
    exact Yields.pure rfl

/-- One more round in front. -/
theorem Replies.many_next (stable : p.Stable) {middle : Int} {value : α} {reply : Reply (List α)}
    (matched : p.Replies text start (.success value middle)) (moves : middle ≠ start)
    (rest : p.many.Replies text middle reply) :
    p.many.Replies text start (reply.map (value :: ·)) := by
  apply yields_many stable
  apply matched.bind
  simp only [moves, ↓reduceIte]
  apply rest.bind
  exact Yields.pure rfl

theorem Greedy.many (stable : p.Stable) (greedy : p.Greedy text start values stop) :
    p.many.Replies text start (.success values stop) := by
  obtain ⟨rounds, rests⟩ := greedy
  induction rounds with
  | none pos => exact rests.many stable
  | next matched moves _ ih => exact matched.many_next stable moves (ih rests)

/-- However many rounds are allowed, if they suffice, the row of matches cannot be made longer. -/
theorem Functional.greedy_of_ran (functional : p.Functional) {rounds budget : Nat}
    {session reached : Session σ} {reply : Reply (List α)}
    (ran : p.repeatUpTo rounds text start budget session = .done reply reached) :
    ∃ values stop, reply = .success values stop ∧ p.Greedy text start values stop := by
  -- on the rounds that are allowed: each that is taken is the first match of the row
  induction rounds generalizing start session reply reached with
  | zero => cases ran
  | succ rounds ih =>
    obtain ⟨first, later, replies, goes⟩ := functional.of_bind_ran ran
    cases first with
    | failure refusal =>
      cases goes
      exact ⟨[], start, rfl, .none start, .refused refusal replies⟩
    | success value middle =>
      by_cases stays : middle = start
      · subst stays
        simp only [↓reduceIte] at goes
        cases goes
        exact ⟨[], middle, rfl, .none middle, .stays value replies⟩
      · simp only [stays, ↓reduceIte] at goes
        obtain ⟨others, after, again, ends⟩ := Action.done_of_bind goes
        obtain ⟨values, stop, rfl, greedy⟩ := ih again
        cases ends
        exact ⟨value :: values, stop, rfl, .next replies stays greedy.rounds, greedy.rests⟩

/-- What a repetition replies is the longest row of matches. -/
theorem Functional.many_replies_iff (functional : p.Functional) {reply : Reply (List α)} :
    p.many.Replies text start reply ↔
      ∃ values stop, reply = .success values stop ∧ p.Greedy text start values stop := by
  constructor
  · intro replies
    obtain ⟨budget, reached, ran⟩ := replies.ran
    exact functional.greedy_of_ran ran
  · intro taken
    obtain ⟨values, stop, rfl, greedy⟩ := taken
    exact greedy.many functional.stable

/-- Each round that moves within a text takes a character at least. -/
theorem Rounds.length_le (located : Located p) (rounds : p.Rounds text start values stop)
    (low : 0 ≤ start) (high : start ≤ text.length) :
    values.length ≤ stop - start ∧ stop ≤ text.length := by
  induction rounds with
  | none pos => exact ⟨by simp, high⟩
  | @next pos middle stop value values matched moves _ ih =>
    have placed : pos ≤ middle ∧ middle ≤ text.length :=
      matched.ensured (located text pos low high)
    have rest := ih (by omega) placed.2
    rw [List.length_cons]
    omega

/-- What holds of the values of all matches within the text holds of those of a row of matches. -/
theorem Rounds.forall_mem {good : α → Prop} (rounds : p.Rounds text start values stop)
    (low : 0 ≤ start) (high : start ≤ text.length)
    (ensures : ∀ pos : Int, 0 ≤ pos → pos ≤ text.length → Ensures (p text pos)
      (Reply.MatchHas fun value stop => (pos < stop ∧ stop ≤ text.length) ∧ good value)) :
    ∀ value ∈ values, good value := by
  induction rounds with
  | none pos => exact nofun
  | @next pos middle stop value values matched _ _ ih =>
    obtain ⟨⟨further, inside⟩, holds⟩ := matched.ensured (ensures pos low high)
    exact List.forall_mem_cons.mpr ⟨holds, ih (by omega) inside⟩

end Parser

namespace Grammar

open Descent.Action (Halts)

/-- A repetition is the longest row of matches that move, and always ends. If a run of it ends with
a reply at all, that is a success with the values and the end of such a row; at that end the parser
fails or matches without moving, and repeating it again there yields nothing. The repetition of a
grammar of this library halts if the grammar does wherever it may be called, and takes not more
rounds than it takes characters. -/
theorem repetition_greedy :
    (∀ {σ α : Type} (p : Parser σ α), p.Functional → ∀ text start budget session reply reached,
      p.many text start budget session = .done reply reached →
      ∃ values stop, reply = .success values stop ∧ p.Greedy text start values stop ∧
        p.many.Replies text stop (.success [] stop)) ∧
    ∀ (rules : Rules) (p : Grammar), rules.Library → p.Library → ∀ (text : Text) (start : Int),
      0 ≤ start → start ≤ text.length →
      (∀ pos, start ≤ pos → pos ≤ text.length → Halts (p.meaning rules text pos)) →
      Halts ((p.meaning rules).many text start) ∧
        ∀ budget session values stop reached,
          (p.meaning rules).many text start budget session = .done (.success values stop) reached →
          values.length ≤ stop - start := by
  constructor
  · intro σ α p functional text start budget session reply reached ran
    obtain ⟨values, stop, rfl, greedy⟩ := functional.greedy_of_ran ran
    exact ⟨values, stop, rfl, greedy, greedy.rests.many functional.stable⟩
  · intro rules p library_rules library text start low high calls
    have located := library.meaning_located library_rules
    have ends : Parser.Ends text start True True (p.meaning rules) :=
      ⟨.of_located located trivial, p.meaning_stable rules,
        fun later after within _ => calls later after within⟩
    refine ⟨(ends.many low).halts start (Int.le_refl _) high fun _ => trivial, ?_⟩
    intro budget session values stop reached ran
    obtain ⟨taken, reach, same, greedy⟩ := (p.meaning_functional rules).greedy_of_ran ran
    cases same
    exact (greedy.rounds.length_le located low high).1

def maybeA : Grammar :=
  .optional (.satisfy (some "a") (· == 'a'))

theorem maybeA_library : maybeA.Library :=
  .choice (List.forall_mem_cons.mpr ⟨.satisfy _ _, List.forall_mem_singleton.mpr (.pure _)⟩)

theorem maybeA_halts (rules : Rules) (text : Text) (pos : Int) :
    Halts (maybeA.meaning rules text pos) := by
  have letter : Halts (((Grammar.satisfy (some "a") (· == 'a')).meaning rules) text pos) :=
    (Parser.satisfy_halts _ _ text pos).andThen fun _ => Halts.pure _
  have first : Halts (Parser.firstOf ((Grammar.satisfy (some "a") (· == 'a')).meaning rules)
      [Parser.pure .null] text pos) := by
    apply letter.andThen
    intro reply
    cases reply <;> exact Halts.pure _
  exact first.andThen fun _ => Halts.pure _

/-- Of `aab` the letters are taken; the empty match after them is not. -/
theorem maybeA_repeated_greedy :
    let text := Text.ofList ['a', 'a', 'b']
    (∃ values stop, (.success [.str "a", .str "a"] 2 : Reply (List Value)) = .success values stop ∧
      (maybeA.meaning .none).Greedy text 0 values stop ∧
        (maybeA.meaning .none).many.Replies text stop (.success [] stop)) ∧
    Halts ((maybeA.meaning .none).many text 0) ∧
      ([.str "a", .str "a"] : List Value).length ≤ (2 : Int) - 0 := by
  have ends := repetition_greedy.2 .none maybeA nofun maybeA_library (Text.ofList ['a', 'a', 'b']) 0
    (by decide) (by decide) fun pos _ _ => maybeA_halts _ _ pos
  exact ⟨repetition_greedy.1 (maybeA.meaning .none) (maybeA.meaning_functional .none)
      (Text.ofList ['a', 'a', 'b']) 0 10 .fresh (.success [.str "a", .str "a"] 2) .fresh (by rfl),
    ends.1, ends.2 10 .fresh [.str "a", .str "a"] 2 .fresh (by rfl)⟩

end Grammar

end Descent
