import Descent.Parser.Expression
import Descent.Proofs.Action.Agreement

set_option autoImplicit false

namespace Descent.Parser

/-- What may be said of a call that failed within the run of a parser: of the text and the place
where the parser was started, of the budget of the run and the session before it, of the failure,
and of the session after the call. -/
def Origin (σ : Type) : Type :=
  Text → Int → Nat → Session σ → Failure → Session σ → Prop

variable {σ α β : Type}

namespace Origin

def never : Origin σ := fun _ _ _ _ _ _ =>
  False

/-- The parser is called where the whole was started. -/
def call (p : Parser σ α) : Origin σ := fun text pos budget session cause later =>
  p text pos budget session = .done (.failure cause) later

def either (first second : Origin σ) : Origin σ := fun text pos budget session cause later =>
  first text pos budget session cause later ∨ second text pos budget session cause later

/-- The parser matches before the call, which is one after its match. -/
def after (p : Parser σ α) (next : α → Origin σ) : Origin σ :=
  fun text pos budget session cause later =>
  ∃ value middle between, p text pos budget session = .done (.success value middle) between ∧
    next value text middle budget between cause later

/-- The parser fails before the call, which is one in its place. -/
def instead (p : Parser σ α) (next : Origin σ) : Origin σ :=
  fun text pos budget session cause later =>
  ∃ refusal between, p text pos budget session = .done (.failure refusal) between ∧
    next text pos budget between cause later

/-- The first of two parsers is called, or it matches and the second is called. -/
def oneOf (p : Parser σ α) (q : Parser σ β) : Origin σ :=
  (call p).either (.after p fun _ => call q)

/-- The first of some parsers that does not match is called, after those before it. -/
def inTurn : List (Parser σ α) → Origin σ
  | [] => never
  | p :: ps => (call p).either (.after p fun _ => inTurn ps)

/-- The last of some alternatives is called, in place of those before it. -/
def last (p : Parser σ α) : List (Parser σ α) → Origin σ
  | [] => call p
  | q :: qs => .instead p (last q qs)

/-- It is a call that the operand of a row makes, after the operators before it. -/
def ofLevel (row : Row (Unary σ α) (Binary σ α)) (operand : Origin σ) : Origin σ :=
  if row.before.isEmpty && row.after.isEmpty then operand
  else .after (optional (choice row.before)) fun _ => operand

/-- The first call of the term of a table, after the operators before the operands of each row,
those of the loosest row first. -/
def ofTable (table : List (List (Operator (Unary σ α) (Binary σ α)))) (term : Parser σ α) :
    Origin σ :=
  table.foldl (fun operand operators => ofLevel (Row.ofOperators operators) operand) (call term)

end Origin

/-- Each failure has the innermost cause of the failure of a call of this origin, which was the last
one. -/
def FailsFrom (p : Parser σ α) (origin : Origin σ) : Prop :=
  ∀ text pos budget session refusal later,
    p text pos budget session = .done (.failure refusal) later →
      ∃ cause, origin text pos budget session cause later ∧ refusal.deepest = cause.deepest

namespace FailsFrom

open Descent.Action (done_of_bind)

variable {p : Parser σ α} {q : Parser σ β} {origin other : Origin σ}

theorem mono (fails : p.FailsFrom origin)
    (weaker : ∀ text pos budget session cause later,
      origin text pos budget session cause later → other text pos budget session cause later) :
    p.FailsFrom other := by
  intro text pos budget session refusal later ran
  obtain ⟨cause, decided, same⟩ := fails text pos budget session refusal later ran
  exact ⟨cause, weaker _ _ _ _ _ _ decided, same⟩

theorem call (p : Parser σ α) : p.FailsFrom (.call p) :=
  fun _ _ _ _ refusal _ ran => ⟨refusal, ran, rfl⟩

theorem pure (value : α) : (Parser.pure value : Parser σ α).FailsFrom .never := by
  intro text pos budget session refusal later ran
  cases ran

theorem map (f : α → β) (fails : p.FailsFrom origin) : (p.map f).FailsFrom origin := by
  intro text pos budget session refusal later ran
  obtain ⟨reply, between, started, goes⟩ := done_of_bind ran
  cases reply with
  | success value stop => cases goes
  | failure inner =>
    cases goes
    exact fails text pos budget session refusal later started

theorem tryMap (f : α → Except Fault β) (fails : p.FailsFrom origin) :
    (p.tryMap f).FailsFrom origin := by
  intro text pos budget session refusal later ran
  obtain ⟨reply, between, started, goes⟩ := done_of_bind ran
  cases reply with
  | success value stop =>
    obtain ⟨result, _, _, ends⟩ := done_of_bind goes
    cases ends
  | failure inner =>
    cases goes
    exact fails text pos budget session refusal later started

/-- To report a failure at another place keeps its innermost cause. -/
theorem anchored_reply {action : Action σ (Reply α)} {pos : Int} {budget : Nat}
    {session later : Session σ} {refusal : Failure}
    (ran : (action >>= fun reply => Pure.pure (reply.anchor pos)) budget session =
      .done (.failure refusal) later) :
    ∃ inner, action budget session = .done (.failure inner) later ∧
      refusal.deepest = inner.deepest := by
  obtain ⟨reply, between, started, goes⟩ := done_of_bind ran
  cases reply with
  | success value stop => cases goes
  | failure inner =>
    cases goes
    exact ⟨inner, started, Failure.deepest_anchor inner pos⟩

theorem anchored (fails : p.FailsFrom origin) : p.anchored.FailsFrom origin := by
  intro text pos budget session refusal later ran
  obtain ⟨inner, started, same⟩ := anchored_reply ran
  obtain ⟨cause, decided, deepest⟩ := fails text pos budget session inner later started
  exact ⟨cause, decided, same.trans deepest⟩

theorem bind {next : α → Parser σ β} {others : α → Origin σ} (fails : p.FailsFrom origin)
    (rest : ∀ value, (next value).FailsFrom (others value)) :
    (p.bind next).FailsFrom (origin.either (.after p others)) := by
  intro text pos budget session refusal later ran
  obtain ⟨reply, between, started, goes⟩ := done_of_bind ran
  cases reply with
  | success value middle =>
    obtain ⟨inner, called, same⟩ := anchored_reply goes
    obtain ⟨cause, decided, deepest⟩ := rest value text middle budget between inner later called
    exact ⟨cause, .inr ⟨value, middle, between, started, decided⟩, same.trans deepest⟩
  | failure inner =>
    cases goes
    obtain ⟨cause, decided, deepest⟩ := fails text pos budget session inner later started
    exact ⟨cause, .inl decided, (inner.deepest_anchor pos).trans deepest⟩

theorem orElse {r : Parser σ α} (p : Parser σ α) (fails : r.FailsFrom origin) :
    (p.orElse r).FailsFrom (.instead p origin) := by
  intro text pos budget session refusal later ran
  obtain ⟨reply, between, started, goes⟩ := done_of_bind ran
  cases reply with
  | success value stop => cases goes
  | failure first =>
    obtain ⟨inner, called, same⟩ := anchored_reply goes
    obtain ⟨cause, decided, deepest⟩ := fails text pos budget between inner later called
    exact ⟨cause, ⟨first, between, started, decided⟩, same.trans deepest⟩

theorem optional (p : Parser σ α) : p.optional.FailsFrom .never := by
  have fails : p.optional.FailsFrom (.instead (p.map some) .never) := orElse _ (.pure none)
  apply fails.mono
  rintro text pos budget session cause later ⟨_, _, _, impossible⟩
  exact impossible

theorem repeatUpTo (p : Parser σ α) (rounds : Nat) : (p.repeatUpTo rounds).FailsFrom .never := by
  -- a round that fails ends the repetition, so only the rounds after a match remain
  induction rounds with
  | zero =>
    intro text pos budget session refusal later ran
    cases ran
  | succ rounds ih =>
    intro text pos budget session refusal later ran
    obtain ⟨reply, between, started, goes⟩ := done_of_bind ran
    cases reply with
    | failure inner => cases goes
    | success value stop =>
      dsimp only at goes
      split at goes
      · cases goes
      · exact (ih.map (value :: ·)) text stop budget between refusal later goes

theorem many (p : Parser σ α) : p.many.FailsFrom .never :=
  fun text pos budget => repeatUpTo p budget text pos budget

/-- What comes after the first match of a repetition never fails. -/
theorem many1_failure {p : Parser σ α} {text : Text} {pos : Int} {budget : Nat}
    {session later : Session σ}
    {refusal : Failure} (ran : p.many1 text pos budget session = .done (.failure refusal) later) :
    ∃ inner, p text pos budget session = .done (.failure inner) later ∧
      refusal = inner.anchor pos := by
  obtain ⟨reply, between, started, goes⟩ := done_of_bind ran
  cases reply with
  | failure inner =>
    cases goes
    exact ⟨inner, started, rfl⟩
  | success value stop =>
    dsimp only at goes
    split at goes
    · cases goes
    · obtain ⟨_, impossible, _⟩ :=
        ((many p).map (value :: ·)) text stop budget between refusal later goes
      exact impossible.elim

theorem many1 (p : Parser σ α) : p.many1.FailsFrom (.call p) := by
  intro text pos budget session refusal later ran
  obtain ⟨inner, failed, rfl⟩ := many1_failure ran
  exact ⟨inner, failed, inner.deepest_anchor pos⟩

/-- What never fails does not decide the failure of a pair. -/
theorem both_first (fails : p.FailsFrom origin) (certain : q.FailsFrom .never) :
    (p.both q).FailsFrom origin := by
  apply (fails.bind fun _ => certain.map _).mono
  rintro text pos budget session cause later (decided | ⟨_, _, _, _, impossible⟩)
  · exact decided
  · exact impossible.elim

theorem both_second (certain : p.FailsFrom .never) (fails : q.FailsFrom origin) :
    (p.both q).FailsFrom (.after p fun _ => origin) := by
  apply (certain.bind fun _ => fails.map _).mono
  rintro text pos budget session cause later (impossible | decided)
  · exact impossible.elim
  · exact decided

theorem inTurn (ps : List (Parser σ α)) : (inTurn ps).FailsFrom (.inTurn ps) := by
  induction ps with
  | nil =>
    intro text pos budget session refusal later ran
    cases ran
  | cons p ps ih =>
    intro text pos budget session refusal later ran
    obtain ⟨reply, between, started, goes⟩ := done_of_bind ran
    cases reply with
    | failure inner =>
      cases goes
      exact ⟨refusal, .inl started, rfl⟩
    | success value middle =>
      obtain ⟨cause, decided, same⟩ :=
        (ih.map (value :: ·)) text middle budget between refusal later goes
      exact ⟨cause, .inr ⟨value, middle, between, started, decided⟩, same⟩

theorem firstOf (p : Parser σ α) (ps : List (Parser σ α)) :
    (firstOf p ps).FailsFrom (.last p ps) := by
  induction ps generalizing p with
  | nil => exact call p
  | cons q qs ih =>
    intro text pos budget session refusal later ran
    obtain ⟨reply, between, started, goes⟩ := done_of_bind ran
    cases reply with
    | success value stop => cases goes
    | failure first =>
      obtain ⟨cause, decided, same⟩ := ih q text pos budget between refusal later goes
      exact ⟨cause, ⟨first, between, started, decided⟩, same⟩

end FailsFrom

end Descent.Parser
