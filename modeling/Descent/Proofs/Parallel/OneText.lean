import Descent.Proofs.Parallel.Grammar

set_option autoImplicit false

namespace Descent.Parallel

variable {σ τ α : Type} {par : Parallel σ τ}

/-- Both runs read the same text at the same places, each failure goes together with itself, and so
does printing a line. -/
structure OneText (par : Parallel σ τ) : Prop where
  texts : par.first = par.second
  still : par.shift = 0
  failures : ∀ f, par.failures f f
  faults : ∀ fault, par.faults fault fault
  prints : ∀ s t line, par.sessions s t →
    par.sessions (s.record (.printed line)) (t.record (.printed line))

namespace OneText

variable (one : par.OneText)
include one

/-- Two actions go together where the first parser runs as the second one does. -/
theorem at_place {β : Type} {values : α → β → Prop} {p : Parser σ α} {q : Parser τ β} {pos : Int}
    (together : par.Actions (par.Replies (fun _ => True) values) (p par.second pos)
      (q par.second pos)) :
    par.Actions (par.Replies (fun _ => True) values) (p par.first (pos + par.shift))
      (q par.second pos) := by
  rw [one.texts, one.still, Int.add_zero]
  exact together

theorem outcomes {p : Parser σ α} {q : Parser τ α} (alike : par.Alike (fun _ => True) p q)
    (pos : Int) (budget : Nat) {s : Session σ} {t : Session τ} (together : par.sessions s t) :
    par.Outcomes (par.Replies (fun _ => True) Eq) (p par.first pos budget s)
      (q par.second pos budget t) := by
  have outcomes := alike pos trivial budget s t together
  rwa [one.still, Int.add_zero] at outcomes

theorem reply_same (reply : Reply α) :
    par.Actions (par.Replies (fun _ => True) Eq) (pure reply : Action σ (Reply α))
      (pure reply : Action τ (Reply α)) :=
  Pairing.Actions.pure (.same one.still one.failures reply fun _ _ _ => trivial)

/-- Parsers are alike if they do nothing but reply or raise a fault, and both do the same. -/
theorem alike_of_plain {p : Parser σ α} {q : Parser τ α}
    (plain : ∀ text pos,
      (∃ reply, p text pos = pure reply ∧ q text pos = pure reply) ∨
        ∃ fault, p text pos = Action.raise fault ∧ q text pos = Action.raise fault) :
    par.Alike (fun _ => True) p q := by
  intro pos _
  apply one.at_place
  obtain ⟨reply, replies, replies'⟩ | ⟨fault, raises, raises'⟩ := plain par.second pos
  · rw [replies, replies']
    exact one.reply_same reply
  · rw [raises, raises']
    exact Pairing.Actions.raise (one.faults fault)

theorem trace (name : String) :
    par.Alike (fun _ => True) (Parser.trace name) (Parser.trace name) := by
  intro pos _
  apply one.at_place
  apply (Pairing.Actions.record fun s t => one.prints s t _).bind
  exact fun _ _ _ => one.reply_same _

theorem primitive {p : Grammar} (primitive : p.Primitive) (self : String → Parser σ Value)
    (self' : String → Parser τ Value) :
    par.Alike (fun _ => True) (p.parser self) (p.parser self') := by
  cases primitive with
  | literal s =>
    apply Alike.map
    apply one.alike_of_plain
    intro text pos
    unfold Parser.literal
    split <;> exact .inl ⟨_, rfl, rfl⟩
  | satisfy expected accepts =>
    apply Alike.map
    apply one.alike_of_plain
    intro text pos
    unfold Parser.satisfy
    split
    · split
      · exact .inr ⟨_, rfl, rfl⟩
      · split <;> exact .inl ⟨_, rfl, rfl⟩
    · exact .inl ⟨_, rfl, rfl⟩
  | pattern expected p =>
    apply Alike.map
    apply one.alike_of_plain
    intro text pos
    unfold Parser.pattern
    dsimp only
    split <;> exact .inl ⟨_, rfl, rfl⟩
  | pure value => exact Alike.pure value
  | failWith expected => exact one.alike_of_plain fun _ _ => .inl ⟨_, rfl, rfl⟩
  | raise fault => exact Parsers.raise (one.faults fault)
  | eof =>
    apply Alike.map
    apply one.alike_of_plain
    intro text pos
    unfold Parser.eof
    split <;> exact .inl ⟨_, rfl, rfl⟩
  | custom reply => exact one.alike_of_plain fun _ _ => .inl ⟨_, rfl, rfl⟩
  | trace name => exact (one.trace name).map _

theorem parts (uniform : par.Uniform fun _ => True) :
    par.Parts (fun _ => True) Grammar.Primitive where
  uniform := uniform
  alike _ holds self self' := one.primitive holds self self'
  lines name _ := one.trace name

end OneText

end Descent.Parallel
