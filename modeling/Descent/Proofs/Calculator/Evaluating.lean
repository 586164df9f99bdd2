import Descent.Proofs.Table.Accepting

set_option autoImplicit false

namespace Descent.Parser

open Descent.Action (Comes)

variable {α β : Type}

/-- In every session the parser matches with the value of the result and leaves the tokens, or the
result is a fault and ends the run. -/
def Evaluates (p : Parser Empty α) (text : Text) (i : Nat) (result : Except Fault α)
    (rest : List Token) : Prop :=
  Comes (p text i)
    (fun reply => ∃ (x : α) (j : Nat), result = .ok x ∧ reply = .success x j ∧
      text.Reaches i j ∧ text.tokens j = rest)
    fun fault => result = .error fault

namespace Accepts

variable {p : Parser Empty α} {q : Parser Empty β} {text : Text} {i : Nat} {x : α}
  {middle rest : List Token} {result : Except Fault β}

theorem evaluates (accepts : p.Accepts text i x rest) : p.Evaluates text i (.ok x) rest := by
  apply (accepts.comes _).mono
  · rintro reply ⟨j, replied, reaches, left⟩
    exact ⟨x, j, rfl, replied, reaches, left⟩
  · exact fun _ same => same

end Accepts

namespace Evaluates

variable {p q : Parser Empty α} {r : Parser Empty β} {text : Text} {i : Nat}
    {result : Except Fault α}
  {middle rest : List Token}

/-- After an evaluation the parser goes on from it, unless it ended the run. -/
theorem goes_on {next : Reply α → Action Empty β} {good : β → Prop} {bad : Fault → Prop}
    (evaluates : p.Evaluates text i result rest)
    (later : ∀ (x : α) (j : Nat), result = .ok x → text.Reaches i j → text.tokens j = rest →
      Comes (next (.success x j)) good bad)
    (fails : ∀ fault, result = .error fault → bad fault) : Comes (p text i >>= next) good bad := by
  apply (evaluates.mono (fun _ replied => replied) fails).bind
  rintro reply ⟨x, j, same, rfl, reaches, left⟩
  exact later x j same reaches left

theorem map (f : α → β) (evaluates : p.Evaluates text i result rest) :
    (p.map f).Evaluates text i (result.map f) rest := by
  apply evaluates.goes_on
  · rintro x j rfl reaches left
    exact Comes.pure ⟨f x, j, rfl, rfl, reaches, left⟩
  · rintro fault rfl
    rfl

theorem tryMap (f : α → Except Fault β) (evaluates : p.Evaluates text i result rest) :
    (p.tryMap f).Evaluates text i (result >>= f) rest := by
  apply evaluates.goes_on
  · rintro x j rfl reaches left
    apply (Comes.ofExcept (fun _ same => same) fun _ same => same).bind
    intro y computed
    exact Comes.pure ⟨y, j, computed, rfl, reaches, left⟩
  · rintro fault rfl
    rfl

theorem bind {next : α → Parser Empty β} {second : α → Except Fault β}
    (first : p.Evaluates text i result middle)
    (later : ∀ x j, result = .ok x → j ≤ text.length → text.tokens j = middle →
      (next x).Evaluates text j (second x) rest) :
    (p.bind next).Evaluates text i (result >>= second) rest := by
  apply first.goes_on
  · rintro x j rfl reaches left
    apply (later x j rfl reaches.within left).goes_on
    · intro y k same further remain
      exact Comes.pure ⟨y, k, same, rfl, reaches.trans further, remain⟩
    · exact fun _ same => same
  · rintro fault rfl
    rfl

/-- Both values, the first one evaluated first. -/
theorem both {other : Except Fault β} (first : p.Evaluates text i result middle)
    (second : ∀ j, j ≤ text.length → text.tokens j = middle → r.Evaluates text j other rest) :
    (p.both r).Evaluates text i (do return (← result, ← other)) rest :=
  first.bind fun _ j _ within left => (second j within left).map _

theorem seqRight {x : β} (first : r.Accepts text i x middle)
    (second : ∀ j, j ≤ text.length → text.tokens j = middle → p.Evaluates text j result rest) :
    (r.seqRight p).Evaluates text i result rest :=
  first.evaluates.bind fun _ j _ within left => second j within left

theorem seqLeft {y : β} (first : p.Evaluates text i result middle)
    (second : ∀ j, j ≤ text.length → text.tokens j = middle → r.Accepts text j y rest) :
    (p.seqLeft r).Evaluates text i result rest := by
  have kept : (p.seqLeft r).Evaluates text i (result >>= Except.ok) rest :=
    first.bind fun x j _ within left => ((second j within left).map fun _ => x).evaluates
  cases result <;> exact kept

theorem orElse_left (evaluates : p.Evaluates text i result rest) :
    (p.orElse q).Evaluates text i result rest :=
  evaluates.goes_on (fun x j same reaches left => Comes.pure ⟨x, j, same, rfl, reaches, left⟩)
    fun _ same => same

theorem orElse_right (refuses : p.Tells text i none) (evaluates : q.Evaluates text i result rest) :
    (p.orElse q).Evaluates text i result rest := by
  apply (refuses.comes _).bind
  intro reply means
  cases reply with
  | success value stop => exact means.elim
  | failure refusal =>
    exact evaluates.goes_on
      (fun x j same reaches left => Comes.pure ⟨x, j, same, rfl, reaches, left⟩)
      fun _ same => same

/-- A repetition evaluates its rounds one after another. -/
theorem many_next {others : Except Fault (List α)} (stable : p.Stable)
    (one : p.Evaluates text i result middle) (moved : middle ≠ text.tokens i)
    (more : ∀ j, j ≤ text.length → text.tokens j = middle → p.many.Evaluates text j others rest) :
    p.many.Evaluates text i (do return (← result) :: (← others)) rest := by
  apply comes_many stable
  apply one.goes_on
  · rintro x j rfl reaches left
    have apart : j ≠ i := by
      intro same
      rw [same] at left
      exact moved left.symm
    simp only [Int.ofNat_inj, apart, ↓reduceIte]
    apply (more j reaches.within left).goes_on
    · rintro xs k rfl further remain
      exact Comes.pure ⟨x :: xs, k, rfl, rfl, reaches.trans further, remain⟩
    · rintro fault rfl
      rfl
  · rintro fault rfl
    rfl

theorem between {opening closing : Char} {tokens : List Token} (within : i ≤ text.length)
    (next : text.tokens i = .sign opening :: (tokens ++ .sign closing :: rest))
    (inner : ∀ j, j ≤ text.length → text.tokens j = tokens ++ .sign closing :: rest →
      p.Evaluates text j result (.sign closing :: rest)) :
    (Parser.between (symbol (String.singleton opening)) (symbol (String.singleton closing))
      p).Evaluates text i result rest :=
  (seqRight (symbol_accepts within next) inner).seqLeft fun _ inside left =>
    symbol_accepts inside left

end Evaluates

end Descent.Parser
