import Descent.Proofs.Repetition.Greedy

set_option autoImplicit false

namespace Descent.Parser

open Descent.Action (Yields)

variable {σ α : Type} {p : Parser σ α} {text : Text} {start middle stop : Int} {values : List α}

/-- The front of a row of matches is a row of matches. -/
theorem Rounds.split {front back : List α} (rounds : p.Rounds text start (front ++ back) stop) :
    ∃ middle, p.Rounds text start front middle ∧ p.Rounds text middle back stop := by
  induction front generalizing start with
  | nil => exact ⟨start, .none start, rounds⟩
  | cons value front ih =>
    cases rounds with
    | next matched moves rest =>
      obtain ⟨middle, first, second⟩ := ih rest
      exact ⟨middle, .next matched moves first, second⟩

theorem inRow_zero_replies (p : Parser σ α) (text : Text) (pos : Int) :
    (p.inRow 0).Replies text pos (.success [] pos) :=
  .of_eq_pure rfl

/-- One more match in front. -/
theorem Replies.inRow_next {value : α} {n : Nat} {reply : Reply (List α)}
    (matched : p.Replies text start (.success value middle))
    (rest : (p.inRow n).Replies text middle reply) :
    (p.inRow (n + 1)).Replies text start (reply.map (value :: ·)) := by
  apply matched.bind
  apply rest.bind
  exact Yields.pure rfl

theorem Replies.inRow_refused {refusal : Failure}
    (refused : p.Replies text start (.failure refusal))
    (n : Nat) : (p.inRow (n + 1)).Replies text start (.failure refusal) := by
  apply refused.bind
  exact Yields.pure rfl

/-- A match that does not move may be had any number of times. -/
theorem Replies.inRow_stays {value : α} (stays : p.Replies text start (.success value start))
    (n : Nat) : (p.inRow n).Replies text start (.success (List.replicate n value) start) := by
  induction n with
  | zero => exact inRow_zero_replies p text start
  | succ n ih => exact stays.inRow_next ih

/-- After a row of matches the others are asked for where it stops. -/
theorem Rounds.inRow_append (rounds : p.Rounds text start values middle) {more : Nat}
    {reply : Reply (List α)} (rest : (p.inRow more).Replies text middle reply) :
    (p.inRow (values.length + more)).Replies text start (reply.map (values ++ ·)) := by
  induction rounds with
  | none pos =>
    have same : reply.map (([] : List α) ++ ·) = reply := by
      cases reply <;> rfl
    rw [same, List.length_nil, Nat.zero_add]
    exact rest
  | @next pos middle stop value values matched _ _ ih =>
    have one_more : (value :: values).length + more = values.length + more + 1 := by
      rw [List.length_cons]
      omega
    have same : (reply.map (values ++ ·)).map (value :: ·) =
        reply.map ((value :: values) ++ ·) := by
      cases reply <;> rfl
    rw [one_more, ← same]
    exact matched.inRow_next (ih rest)

/-- As many matches as there are in a row. -/
theorem Rounds.count (rounds : p.Rounds text start values stop) :
    (count values.length p).Replies text start (.success values stop) := by
  have row := rounds.inRow_append (inRow_zero_replies p text stop)
  rw [Reply.map, List.append_nil] at row
  exact row.anchored

/-- Fewer matches than there are in a row. -/
theorem Rounds.count_fewer (rounds : p.Rounds text start values stop) {n : Nat}
    (fewer : n ≤ values.length) :
    ∃ later, (Parser.count n p).Replies text start (.success (values.take n) later) := by
  rw [← List.take_append_drop n values] at rounds
  obtain ⟨later, front, _⟩ := rounds.split
  have counted := front.count
  rw [List.length_take_of_le fewer] at counted
  exact ⟨later, counted⟩

/-- More matches than the repetition takes: none of them moves, or there are not as many. -/
theorem Greedy.count_more (greedy : p.Greedy text start values stop) {n : Nat}
    (more : values.length < n) :
    (∃ refusal, p.Replies text stop (.failure refusal) ∧
      (Parser.count n p).Replies text start (.failure (refusal.anchor start))) ∨
    ∃ value, p.Replies text stop (.success value stop) ∧
      (Parser.count n p).Replies text start
        (.success (values ++ List.replicate (n - values.length) value) stop) := by
  obtain ⟨extra, rfl⟩ := Nat.exists_eq_add_of_lt more
  rw [Nat.add_assoc, Nat.add_sub_cancel_left]
  cases greedy.rests with
  | refused refusal refused =>
    exact .inl ⟨refusal, refused,
      (greedy.rounds.inRow_append (refused.inRow_refused extra)).anchored⟩
  | stays value stays =>
    exact .inr ⟨value, stays, (greedy.rounds.inRow_append (stays.inRow_stays (extra + 1))).anchored⟩

theorem Replies.many1_refused {refusal : Failure}
    (refused : p.Replies text start (.failure refusal)) :
    p.many1.Replies text start (.failure (refusal.anchor start)) := by
  apply refused.bind
  exact Yields.pure rfl

/-- Where the parser matches, even without moving, asking for one match at least changes nothing;
where it fails, so does the repetition, at its start. -/
theorem Greedy.many1 (stable : p.Stable) (greedy : p.Greedy text start values stop) :
    (∃ value later, p.Replies text start (.success value later) ∧
      p.many1.Replies text start (.success values stop)) ∨
    ∃ refusal, p.Replies text start (.failure refusal) ∧
      p.many1.Replies text start (.failure (refusal.anchor start)) := by
  obtain ⟨rounds, rests⟩ := greedy
  cases rounds with
  | none =>
    cases rests with
    | refused refusal refused => exact .inr ⟨refusal, refused, refused.many1_refused⟩
    | stays value stays =>
      refine .inl ⟨value, start, stays, ?_⟩
      apply stays.bind
      simp only [↓reduceIte]
      exact Yields.pure rfl
  | @next _ middle _ value others matched moves rest =>
    refine .inl ⟨value, middle, matched, ?_⟩
    have others_taken : p.many.Replies text middle (.success others stop) :=
      Greedy.many stable ⟨rest, rests⟩
    apply matched.bind
    simp only [moves, ↓reduceIte]
    apply others_taken.bind
    exact Yields.pure rfl

/-- The repetitions of a parser agree wherever the open-ended one matches. Any smaller number of
matches are the first of its matches, and the same number ends where it ends. A larger number fails
at the start if the parser fails where the open-ended one ends; otherwise the parser matches there
without moving, and the matches that are missing are that one. Asking for one match at least changes
nothing if the parser matches at the start, and fails there as the parser does if it does not. -/
theorem repetitions_agree (functional : p.Functional) {budget : Nat} {session reached : Session σ}
    (ran : p.many text start budget session = .done (.success values stop) reached) :
    (∀ n ≤ values.length, ∃ later,
      (Parser.count n p).Replies text start (.success (values.take n) later)) ∧
    (Parser.count values.length p).Replies text start (.success values stop) ∧
    (∀ n > values.length,
      (∃ refusal, p.Replies text stop (.failure refusal) ∧
        (Parser.count n p).Replies text start (.failure (refusal.anchor start))) ∨
      ∃ value, p.Replies text stop (.success value stop) ∧
        (Parser.count n p).Replies text start
          (.success (values ++ List.replicate (n - values.length) value) stop)) ∧
    ((∃ value later, p.Replies text start (.success value later) ∧
        p.many1.Replies text start (.success values stop)) ∨
      ∃ refusal, p.Replies text start (.failure refusal) ∧
        p.many1.Replies text start (.failure (refusal.anchor start))) := by
  obtain ⟨taken, reach, same, greedy⟩ := functional.greedy_of_ran ran
  cases same
  exact ⟨fun n fewer => greedy.rounds.count_fewer fewer, greedy.rounds.count,
    fun n more => greedy.count_more more, greedy.many1 functional.stable⟩

end Descent.Parser

namespace Descent.Grammar

/-- Of `aab` the letter or nothing may be had five times: twice it is the letter. -/
theorem maybeA_counted :
    let text := Text.ofList ['a', 'a', 'b']
    let p := maybeA.meaning .none
    (∃ later, (Parser.count 1 p).Replies text 0 (.success [.str "a"] later)) ∧
      (Parser.count 2 p).Replies text 0 (.success [.str "a", .str "a"] 2) ∧
      (Parser.count 5 p).Replies text 0 (.success [.str "a", .str "a", .null, .null, .null] 2) ∧
      p.many1.Replies text 0 (.success [.str "a", .str "a"] 2) := by
  intro text p
  have functional : p.Functional := maybeA.meaning_functional .none
  have letter : p.Replies text 0 (.success (.str "a") 1) :=
    functional.replies_of_ran (show p text 0 1 .fresh = .done (.success (.str "a") 1) .fresh by rfl)
  have nothing : p.Replies text 2 (.success .null 2) :=
    functional.replies_of_ran (show p text 2 1 .fresh = .done (.success .null 2) .fresh by rfl)
  obtain ⟨fewer, same, more, once⟩ := Parser.repetitions_agree functional
    (show p.many text 0 10 .fresh = .done (.success [.str "a", .str "a"] 2) .fresh by rfl)
  refine ⟨fewer 1 (by decide), same, ?_, ?_⟩
  · obtain ⟨refusal, refused, _⟩ | ⟨value, stays, counted⟩ := more 5 (by decide)
    · cases nothing.unique refused
    · cases nothing.unique stays
      exact counted
  · obtain ⟨value, later, _, taken⟩ | ⟨refusal, refused, _⟩ := once
    · exact taken
    · cases letter.unique refused

end Descent.Grammar
