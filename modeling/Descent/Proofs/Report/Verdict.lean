import Descent.Proofs.Action.Agreement
import Descent.Proofs.Grammar.Budget
import Descent.Proofs.Placement.Grammar
import Descent.Proofs.Report.Finding

set_option autoImplicit false

namespace Descent

namespace Parser

variable {σ α : Type}

/-- The offset that a report on this reply has to tell of: the place of the innermost cause of a
failure, or the end of a match that leaves input over. -/
inductive Stops (text : Text) (consumeAll : Bool) (offset : Nat) : Reply α → Prop where
  | refused {refusal : Failure} (deepest : refusal.deepest.pos = offset) :
      Stops text consumeAll offset (.failure refusal)
  | leftOver (value : α) (demanded : consumeAll = true) (left : offset < text.length) :
      Stops text consumeAll offset (.success value offset)

/-- A match counts if it may end anywhere, or if it ends at the end of the text. -/
theorem verdict_eq_ok_iff {text : Text} {source : String} {consumeAll : Bool} {reply : Reply α}
    (placed : reply.Placed text.length 0) (value : α) :
    verdict text source consumeAll reply = .ok value ↔
      ∃ stop, reply = .success value stop ∧ (consumeAll = false ∨ stop = text.length) := by
  cases reply with
  | failure refusal => simp [verdict]
  | success found stop =>
    have bound := placed.2
    rw [verdict]
    by_cases leftover : (consumeAll && decide (stop < text.length)) = true
    · rw [if_pos leftover]
      rw [Bool.and_eq_true, decide_eq_true_eq] at leftover
      refine iff_of_false nofun ?_
      rintro ⟨last, same, anywhere | ended⟩
      · exact absurd (leftover.1.symm.trans anywhere) (by decide)
      · cases same
        omega
    · rw [if_neg leftover]
      constructor
      · intro same
        cases same
        refine ⟨stop, rfl, ?_⟩
        cases consumeAll with
        | false => exact .inl rfl
        | true =>
          rw [Bool.true_and, decide_eq_true_eq] at leftover
          exact .inr (by omega)
      · rintro ⟨last, same, -⟩
        cases same
        rfl

theorem verdict_error {text : Text} {source : String} {consumeAll : Bool} {reply : Reply α}
    {report : ParseError} (placed : reply.Placed text.length 0)
    (refused : verdict text source consumeAll reply = .error report) :
    ∃ offset : Nat, Stops text consumeAll offset reply ∧ report.TellsOf text source offset := by
  cases reply with
  | failure refusal =>
    cases refused
    have bounds := placed.2.deepest_bounds
    rw [placed.1] at bounds
    obtain ⟨offset, deepest⟩ := Int.eq_ofNat_of_zero_le bounds.1
    exact ⟨offset, .refused deepest, ParseError.ofFailure_tellsOf source (by omega) deepest⟩
  | success value stop =>
    rw [verdict] at refused
    split at refused
    · next leftover =>
      cases refused
      rw [Bool.and_eq_true, decide_eq_true_eq] at leftover
      obtain ⟨offset, rfl⟩ := Int.eq_ofNat_of_zero_le placed.1
      exact ⟨offset, .leftOver value leftover.1 (by omega),
        ParseError.ofFailure_tellsOf source (by omega) rfl⟩
    · cases refused

/-- What has to be answered on a reply: its value, just if it is a match that ends where it has to,
and else a report that tells of the offset where matching stopped. -/
structure Answers (text : Text) (source : String) (consumeAll : Bool) (reply : Reply α)
    (answer : Except ParseError α) : Prop where
  value : ∀ value, answer = .ok value ↔
    ∃ stop, reply = .success value stop ∧ (consumeAll = false ∨ stop = text.length)
  report : ∀ report, answer = .error report → ∃ offset : Nat,
    Stops text consumeAll offset reply ∧ report.TellsOf text source offset

theorem verdict_answers {text : Text} {reply : Reply α} (placed : reply.Placed text.length 0)
    (source : String) (consumeAll : Bool) :
    Answers text source consumeAll reply (verdict text source consumeAll reply) :=
  ⟨verdict_eq_ok_iff placed, fun _ => verdict_error placed⟩

section

variable {p : Parser σ α} {text : Text} {source : String} {consumeAll : Bool} {budget : Nat}
  {session reached : Session σ}

theorem run_of_done {reply : Reply α} (parsed : p text 0 budget session = .done reply reached) :
    p.run text source consumeAll budget session =
      .done (verdict text source consumeAll reply) reached := by
  rw [run, Action.bind_apply, parsed]
  rfl

theorem run_eq_done {answer : Except ParseError α}
    (ran : p.run text source consumeAll budget session = .done answer reached) :
    ∃ reply, p text 0 budget session = .done reply reached ∧
      answer = verdict text source consumeAll reply := by
  obtain ⟨reply, later, parsed, ends⟩ := Action.done_of_bind ran
  cases ends
  exact ⟨reply, parsed, rfl⟩

/-- A run ends without an answer just where the parse ends without a reply. -/
theorem run_eq_stopped_iff {reason : Stop} :
    p.run text source consumeAll budget session = .stopped reason reached ↔
      p text 0 budget session = .stopped reason reached := by
  rw [run, Action.bind_apply]
  cases p text 0 budget session with
  | done reply later => exact iff_of_false nofun nofun
  | stopped reason' later =>
    constructor
    · rintro ⟨⟩
      rfl
    · rintro ⟨⟩
      rfl

theorem run_settles {reply : Reply α}
    (settles : Action.Settles (p text 0) session (.done reply reached)) :
    Action.Settles (p.run text source consumeAll) session
      (.done (verdict text source consumeAll reply) reached) :=
  settles.bind (.pure _ _)

end

end Parser

/-- The answer of a run of a grammar of this library is right. Where the parse from the start of the
text comes to a reply, or settles on one, the run comes to an answer, or settles on it, in the same
session, and there are no other answers: a run ends without one just if the parse ends without a
reply.

The answer is the value of the parse, just when that is a match which, if the whole text has to be
consumed, ends at its end. Any other answer is a report that tells of an offset of the text: the
place of the innermost cause of the failure, or the end of the match where input is left over. -/
theorem Grammar.run_answers {rules : Rules} {p : Grammar} (library_rules : rules.Library)
    (library : p.Library) (text : Text) (source : String) (consumeAll : Bool)
    (session reached : Session (Resolved rules)) :
    let parse := p.meaning rules text 0
    let run := (p.meaning rules).run text source consumeAll
    (∀ reply, Action.Settles parse session (.done reply reached) →
      ∃ answer, Action.Settles run session (.done answer reached) ∧
        Parser.Answers text source consumeAll reply answer) ∧
    ∀ budget,
      (∀ reply, parse budget session = .done reply reached →
        ∃ answer, run budget session = .done answer reached ∧
          Parser.Answers text source consumeAll reply answer) ∧
      (∀ answer, run budget session = .done answer reached →
        ∃ reply, parse budget session = .done reply reached ∧
          Parser.Answers text source consumeAll reply answer) ∧
      ∀ reason, run budget session = .stopped reason reached ↔
        parse budget session = .stopped reason reached := by
  intro parse run
  have right budget reply (parsed : parse budget session = .done reply reached) :
      Parser.Answers text source consumeAll reply (Parser.verdict text source consumeAll reply) :=
    Parser.verdict_answers (library.meaning_located library_rules text 0 (Int.le_refl 0) (by omega)
      budget session reply reached parsed) source consumeAll
  refine ⟨?_, fun budget => ⟨?_, ?_, fun reason => Parser.run_eq_stopped_iff⟩⟩
  · intro reply settles
    obtain ⟨budget, parsed⟩ := settles.ran
    exact ⟨_, Parser.run_settles settles, right budget reply parsed⟩
  · intro reply parsed
    exact ⟨_, Parser.run_of_done parsed, right budget reply parsed⟩
  · intro answer ran
    obtain ⟨reply, parsed, rfl⟩ := Parser.run_eq_done ran
    exact ⟨reply, parsed, right budget reply parsed⟩

/-- On the word `ab` the run settles on its value. After it a letter is left over, and there the run
settles on a report that tells where. -/
theorem Grammar.word_left_over :
    let run (chars : List Char) := (word.meaning Rules.words).run (Text.ofList chars) "line" true
    let reached : Session (Resolved Rules.words) := ⟨[Rules.wordRule], #[.forced "word"]⟩
    Action.Settles (run ['a', 'b']) .fresh (.done (.ok (.list [.str "a", .str "b"])) reached) ∧
    ∃ report, Action.Settles (run ['a', 'b', 'c']) .fresh (.done (.error report) reached) ∧
      report.TellsOf (Text.ofList ['a', 'b', 'c']) "line" 2 := by
  intro run reached
  have settles (chars : List Char)
      (parsed : word.meaning Rules.words (Text.ofList chars) 0 10 .fresh =
        .done (.success (.list [.str "a", .str "b"]) 2) reached) :=
    settles_of_ran parsed trivial
  constructor
  · obtain ⟨answer, answered, right⟩ := (run_answers Rules.words_library word_library
      (Text.ofList ['a', 'b']) "line" true .fresh reached).1 _ (settles ['a', 'b'] (by rfl))
    rw [(right.value _).mpr ⟨2, rfl, .inr rfl⟩] at answered
    exact answered
  · obtain ⟨answer, answered, right⟩ := (run_answers Rules.words_library word_library
      (Text.ofList ['a', 'b', 'c']) "line" true .fresh reached).1 _
        (settles ['a', 'b', 'c'] (by rfl))
    cases answer with
    | ok value =>
      obtain ⟨stop, same, unasked | ended⟩ := (right.value value).mp rfl
      · cases unasked
      · cases same
        exact absurd ended (by decide)
    | error report =>
      obtain ⟨offset, stops, tells⟩ := right.report report rfl
      cases stops with
      | leftOver value demanded left => exact ⟨report, answered, tells⟩

end Descent
