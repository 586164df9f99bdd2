import Descent.Parser.Char
import Descent.Parser.Expression
import Descent.Parser.Trace
import Descent.Proofs.Parallel.Action
import Descent.Proofs.Parser.Rule
import Mathlib.Data.List.Forall2

set_option autoImplicit false

namespace Descent

/-- How two parsers run side by side: what they read, how much further on the first one reads, and
which failures go together. Reporting two failures at places that correspond keeps them together. -/
structure Parallel (σ τ : Type) extends Pairing σ τ where
  first : Text
  second : Text
  shift : Int
  failures : Failure → Failure → Prop
  anchors : ∀ {f g : Failure} (pos : Int), failures f g →
    failures (f.anchor (pos + shift)) (g.anchor pos)

namespace Parallel

variable {σ τ α β γ δ ι : Type}

/-- Both replies are matches that end at places that correspond, or both are failures. -/
inductive Replies (par : Parallel σ τ) (after : Int → Prop) (values : α → β → Prop) :
    Reply α → Reply β → Prop where
  | success {x : α} {y : β} (stop : Int) (together : values x y) (reached : after stop) :
      Replies par after values (.success x (stop + par.shift)) (.success y stop)
  | failure {f g : Failure} (together : par.failures f g) :
      Replies par after values (.failure f) (.failure g)

/-- Started at places that correspond and have the first property, the parsers give replies that go
together; the places where matches end have the second property. -/
def Parsers (par : Parallel σ τ) (before after : Int → Prop) (values : α → β → Prop)
    (p : Parser σ α) (q : Parser τ β) : Prop :=
  ∀ pos, before pos →
    par.Actions (par.Replies after values) (p par.first (pos + par.shift)) (q par.second pos)

variable {par : Parallel σ τ} {before between after : Int → Prop} {values : α → β → Prop}
  {results : γ → δ → Prop}

namespace Replies

variable {reply : Reply α} {reply' : Reply β}

theorem anchor (together : par.Replies after values reply reply') (pos : Int) :
    par.Replies after values (reply.anchor (pos + par.shift)) (reply'.anchor pos) := by
  cases together with
  | success stop holds reached => exact .success stop holds reached
  | failure holds => exact .failure (par.anchors pos holds)

theorem map {f : α → γ} {g : β → δ} (together : par.Replies after values reply reply')
    (maps : ∀ x y, values x y → results (f x) (g y)) :
    par.Replies after results (reply.map f) (reply'.map g) := by
  cases together with
  | success stop holds reached => exact .success stop (maps _ _ holds) reached
  | failure holds => exact .failure holds

theorem mono {later : Int → Prop} {weaker : α → β → Prop}
    (together : par.Replies after values reply reply') (reach : ∀ pos, after pos → later pos)
    (weaken : ∀ x y, values x y → weaker x y) : par.Replies later weaker reply reply' := by
  cases together with
  | success stop holds reached => exact .success stop (weaken _ _ holds) (reach stop reached)
  | failure holds => exact .failure holds

/-- Where both runs stand at the same place, a reply goes together with itself. -/
theorem same (still : par.shift = 0) (failures : ∀ f, par.failures f f) (reply : Reply α)
    (reached : ∀ value stop, reply = .success value stop → after stop) :
    par.Replies after Eq reply reply := by
  cases reply with
  | success value stop =>
    have together : par.Replies after Eq (.success value (stop + par.shift))
        (.success value stop) := .success stop rfl (reached value stop rfl)
    rwa [still, Int.add_zero] at together
  | failure f => exact .failure (failures f)

/-- Where both runs stand at the same place, replies that go together are the same match, or are
failures that go together. -/
theorem same_or_refused {reply reply' : Reply α} (still : par.shift = 0)
    (together : par.Replies after Eq reply reply') :
    (∃ value stop, reply = .success value stop ∧ reply' = .success value stop) ∨
      ∃ f g, reply = .failure f ∧ reply' = .failure g ∧ par.failures f g := by
  cases together with
  | success stop same reached =>
    cases same
    refine .inl ⟨_, stop, ?_, rfl⟩
    rw [still, Int.add_zero]
  | failure holds => exact .inr ⟨_, _, rfl, rfl, holds⟩

end Replies

namespace Parsers

variable {p : Parser σ α} {q : Parser τ β}

theorem mono {earlier later : Int → Prop} {weaker : α → β → Prop}
    (together : par.Parsers before after values p q) (start : ∀ pos, earlier pos → before pos)
    (reach : ∀ pos, after pos → later pos) (weaken : ∀ x y, values x y → weaker x y) :
    par.Parsers earlier later weaker p q :=
  fun pos starts => (together pos (start pos starts)).mono fun _ _ replies =>
    replies.mono reach weaken

theorem pure {x : α} {y : β} (together : values x y) :
    par.Parsers before before values (Parser.pure x) (Parser.pure y) :=
  fun pos starts => Pairing.Actions.pure (.success pos together starts)

theorem failWith {expected expected' : Option String}
    (leaves : ∀ pos, before pos →
      par.failures (.leaf (pos + par.shift) expected) (.leaf pos expected')) :
    par.Parsers before after values (Parser.failWith expected) (Parser.failWith expected') :=
  fun pos starts => Pairing.Actions.pure (.failure (leaves pos starts))

theorem raise {fault fault' : Fault} (together : par.faults fault fault') :
    par.Parsers before after values (Parser.raise fault) (Parser.raise fault') :=
  fun _ _ => Pairing.Actions.raise together

theorem map {f : α → γ} {g : β → δ} (together : par.Parsers before after values p q)
    (maps : ∀ x y, values x y → results (f x) (g y)) :
    par.Parsers before after results (p.map f) (q.map g) :=
  fun pos starts => (together pos starts).bind fun _ _ replies =>
    Pairing.Actions.pure (replies.map maps)

/-- The values may be changed on the second side only. -/
theorem map_second {g : β → δ} {others : α → δ → Prop}
    (together : par.Parsers before after values p q)
    (maps : ∀ x y, values x y → others x (g y)) :
    par.Parsers before after others p (q.map g) := by
  intro pos starts
  rw [← bind_pure (p par.first (pos + par.shift))]
  apply (together pos starts).bind
  intro reply reply' replies
  cases replies with
  | success stop holds reached =>
    exact Pairing.Actions.pure (.success stop (maps _ _ holds) reached)
  | failure holds => exact Pairing.Actions.pure (.failure holds)

theorem tryMap {f : α → Except Fault γ} {g : β → Except Fault δ}
    (together : par.Parsers before after values p q)
    (maps : ∀ x y, values x y → par.Results results (f x) (g y)) :
    par.Parsers before after results (p.tryMap f) (q.tryMap g) := by
  intro pos starts
  apply (together pos starts).bind
  intro reply reply' replies
  cases replies with
  | success stop holds reached =>
    apply (Pairing.Actions.ofExcept (maps _ _ holds)).bind
    intro x y result
    exact Pairing.Actions.pure (.success stop result reached)
  | failure holds => exact Pairing.Actions.pure (.failure holds)

theorem anchored (together : par.Parsers before after values p q) :
    par.Parsers before after values p.anchored q.anchored :=
  fun pos starts => (together pos starts).bind fun _ _ replies =>
    Pairing.Actions.pure (replies.anchor pos)

theorem lookAhead (together : par.Parsers before after values p q) :
    par.Parsers before before values p.lookAhead q.lookAhead := by
  intro pos starts
  apply (together pos starts).bind
  intro reply reply' replies
  cases replies with
  | success stop holds reached => exact Pairing.Actions.pure (.success pos holds starts)
  | failure holds => exact Pairing.Actions.pure (.failure holds)

theorem label {message message' : String}
    (labels : ∀ f g, par.failures f g → par.failures (f.relabel message) (g.relabel message'))
    (together : par.Parsers before after values p q) :
    par.Parsers before after values (p.label message) (q.label message') := by
  intro pos starts
  apply (together pos starts).bind
  intro reply reply' replies
  cases replies with
  | success stop holds reached => exact Pairing.Actions.pure (.success stop holds reached)
  | failure holds => exact Pairing.Actions.pure (.failure (labels _ _ holds))

theorem bind {next : α → Parser σ γ} {next' : β → Parser τ δ}
    (together : par.Parsers before between values p q)
    (rest : ∀ x y, values x y → par.Parsers between after results (next x) (next' y)) :
    par.Parsers before after results (p.bind next) (q.bind next') := by
  intro pos starts
  apply (together pos starts).bind
  intro reply reply' replies
  cases replies with
  | success stop holds reached =>
    exact (rest _ _ holds stop reached).bind fun _ _ later =>
      Pairing.Actions.pure (later.anchor pos)
  | failure holds => exact Pairing.Actions.pure (.failure (par.anchors pos holds))

theorem both {r : Parser σ γ} {r' : Parser τ δ} (together : par.Parsers before between values p q)
    (rest : par.Parsers between after results r r') :
    par.Parsers before after (fun a b => values a.1 b.1 ∧ results a.2 b.2) (p.both r)
      (q.both r') :=
  together.bind fun _ _ holds => rest.map fun _ _ later => ⟨holds, later⟩

theorem seqRight {r : Parser σ γ} {r' : Parser τ δ}
    (together : par.Parsers before between values p q)
    (rest : par.Parsers between after results r r') :
    par.Parsers before after results (p.seqRight r) (q.seqRight r') :=
  together.bind fun _ _ _ => rest

theorem seqLeft {r : Parser σ γ} {r' : Parser τ δ}
    (together : par.Parsers before between values p q)
    (rest : par.Parsers between after results r r') :
    par.Parsers before after values (p.seqLeft r) (q.seqLeft r') :=
  together.bind fun _ _ holds => rest.map fun _ _ _ => holds

theorem orElse {r : Parser σ α} {r' : Parser τ β} (together : par.Parsers before after values p q)
    (other : par.Parsers before after values r r') :
    par.Parsers before after values (p.orElse r) (q.orElse r') := by
  intro pos starts
  apply (together pos starts).bind
  intro reply reply' replies
  cases replies with
  | success stop holds reached => exact Pairing.Actions.pure (.success stop holds reached)
  | failure _ =>
    exact (other pos starts).bind fun _ _ later => Pairing.Actions.pure (later.anchor pos)

theorem inTurn {ps : List (Parser σ α)} {qs : List (Parser τ β)}
    (all : List.Forall₂ (par.Parsers before before values) ps qs) :
    par.Parsers before before (List.Forall₂ values) (Parser.inTurn ps) (Parser.inTurn qs) := by
  induction all with
  | nil => exact fun pos starts => Pairing.Actions.pure (.success pos .nil starts)
  | cons together _ ih =>
    intro pos starts
    apply (together pos starts).bind
    intro reply reply' replies
    cases replies with
    | success stop holds reached =>
      exact (ih stop reached).bind fun _ _ later =>
        Pairing.Actions.pure (later.map fun _ _ rest => .cons holds rest)
    | failure holds => exact Pairing.Actions.pure (.failure holds)

theorem firstOf {ps : List (Parser σ α)} {qs : List (Parser τ β)}
    (together : par.Parsers before after values p q)
    (all : List.Forall₂ (par.Parsers before after values) ps qs) :
    par.Parsers before after values (Parser.firstOf p ps) (Parser.firstOf q qs) := by
  induction all generalizing p q with
  | nil => exact together
  | cons other _ ih =>
    intro pos starts
    apply (together pos starts).bind
    intro reply reply' replies
    cases replies with
    | success stop holds reached => exact Pairing.Actions.pure (.success stop holds reached)
    | failure _ => exact ih other pos starts

/-- Both repetitions go on for as many rounds: their places always correspond, so both move or
neither does. -/
theorem repeatUpTo (together : par.Parsers before before values p q) (rounds : Nat) :
    par.Parsers before before (List.Forall₂ values) (p.repeatUpTo rounds)
      (q.repeatUpTo rounds) := by
  induction rounds with
  | zero => exact fun _ _ => Pairing.Actions.exhausted
  | succ rounds ih =>
    intro pos starts
    apply (together pos starts).bind
    intro reply reply' replies
    cases replies with
    | success stop holds reached =>
      by_cases stays : stop = pos
      · simp only [stays, ↓reduceIte]
        exact Pairing.Actions.pure (.success pos .nil starts)
      · have moves : ¬ stop + par.shift = pos + par.shift := by omega
        simp only [stays, moves, ↓reduceIte]
        exact (ih stop reached).bind fun _ _ later =>
          Pairing.Actions.pure (later.map fun _ _ rest => .cons holds rest)
    | failure _ => exact Pairing.Actions.pure (.success pos .nil starts)

theorem many (together : par.Parsers before before values p q) :
    par.Parsers before before (List.Forall₂ values) p.many q.many :=
  fun pos starts budget => together.repeatUpTo budget pos starts budget

theorem many1 (together : par.Parsers before before values p q) :
    par.Parsers before before (List.Forall₂ values) p.many1 q.many1 := by
  intro pos starts
  apply (together pos starts).bind
  intro reply reply' replies
  cases replies with
  | success stop holds reached =>
    by_cases stays : stop = pos
    · simp only [stays, ↓reduceIte]
      exact Pairing.Actions.pure (.success pos .nil starts)
    · have moves : ¬ stop + par.shift = pos + par.shift := by omega
      simp only [stays, moves, ↓reduceIte]
      exact (together.many stop reached).bind fun _ _ later =>
        Pairing.Actions.pure (later.map fun _ _ rest => .cons holds rest)
  | failure holds => exact Pairing.Actions.pure (.failure (par.anchors pos holds))

/-- Two families defined from themselves go together if their bodies do whenever the parsers that
they use do. -/
theorem fix {body : (ι → Parser σ α) → ι → Parser σ α} {body' : (ι → Parser τ β) → ι → Parser τ β}
    (step : ∀ self self', (∀ i, par.Parsers before after values (self i) (self' i)) →
      ∀ i, par.Parsers before after values (body self i) (body' self' i)) (i : ι) :
    par.Parsers before after values (Parser.fix body i) (Parser.fix body' i) := by
  have unrolled : ∀ depth i,
      par.Parsers before after values (Parser.unroll body depth i)
        (Parser.unroll body' depth i) := by
    intro depth
    induction depth with
    | zero => exact fun _ _ _ => Pairing.Actions.exhausted
    | succ depth ih => exact step _ _ ih
  exact fun pos starts budget => unrolled budget i pos starts budget

end Parsers

end Parallel

end Descent
