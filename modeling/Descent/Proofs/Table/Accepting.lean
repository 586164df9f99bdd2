import Descent.Proofs.Parser.Telling
import Descent.Proofs.Table.Lexeme

set_option autoImplicit false

namespace Descent

open Descent.Action (Yields)

/-- A parser that began at the first index may have stopped at the second. -/
structure Text.Reaches (text : Text) (i j : Nat) : Prop where
  within : j ≤ text.length
  fresh : j = i ∨ text.Fresh j

namespace Text

variable {text : Text} {i j k : Nat}

theorem Reaches.refl (within : i ≤ text.length) : text.Reaches i i :=
  ⟨within, .inl rfl⟩

theorem Fresh.reaches (fresh : text.Fresh j) (i : Nat) : text.Reaches i j :=
  ⟨fresh.within, .inr fresh⟩

theorem Reaches.trans (first : text.Reaches i j) (second : text.Reaches j k) :
    text.Reaches i k := by
  rcases second.fresh with rfl | fresh
  · exact first
  · exact fresh.reaches i

end Text

namespace Parser

variable {σ α β : Type}

/-- In every session the parser matches with the value and leaves the tokens. -/
def Accepts (p : Parser σ α) (text : Text) (i : Nat) (x : α) (rest : List Token) : Prop :=
  Yields (p text i) fun reply =>
    ∃ j : Nat, reply = .success x j ∧ text.Reaches i j ∧ text.tokens j = rest

namespace Accepts

variable {p q : Parser σ α} {r : Parser σ β} {text : Text} {i : Nat} {x : α} {y : β}
  {between rest : List Token}

theorem of_match {j : Nat} (replies : p text i = Pure.pure (.success x j)) (fresh : text.Fresh j)
    (left : text.tokens j = rest) : p.Accepts text i x rest := by
  unfold Accepts
  rw [replies]
  exact Yields.pure ⟨j, rfl, fresh.reaches i, left⟩

/-- After a match the parser goes on from it. -/
theorem goes_on {next : Reply α → Action σ β} {good : β → Prop} (accepts : p.Accepts text i x rest)
    (later : ∀ j : Nat, text.Reaches i j → text.tokens j = rest →
      Yields (next (.success x j)) good) : Yields (p text i >>= next) good := by
  apply Yields.bind accepts
  intro reply matched
  obtain ⟨j, rfl, reaches, left⟩ := matched
  exact later j reaches left

theorem map (f : α → β) (accepts : p.Accepts text i x rest) :
    (p.map f).Accepts text i (f x) rest :=
  accepts.goes_on fun j reaches left => Yields.pure ⟨j, rfl, reaches, left⟩

theorem tryMap {f : α → Except Fault β} (accepts : p.Accepts text i x rest) (same : f x = .ok y) :
    (p.tryMap f).Accepts text i y rest := by
  apply accepts.goes_on
  intro j reaches left
  simp only [same]
  exact Yields.pure ⟨j, rfl, reaches, left⟩

theorem anchored (accepts : p.Accepts text i x rest) : p.anchored.Accepts text i x rest :=
  accepts.goes_on fun j reaches left => Yields.pure ⟨j, rfl, reaches, left⟩

theorem bind {next : α → Parser σ β} (first : p.Accepts text i x between)
    (second : ∀ j, j ≤ text.length → text.tokens j = between →
      (next x).Accepts text j y rest) : (p.bind next).Accepts text i y rest := by
  apply first.goes_on
  intro j reaches left
  apply (second j reaches.within left).goes_on
  intro k further remain
  exact Yields.pure ⟨k, rfl, reaches.trans further, remain⟩

theorem both (first : p.Accepts text i x between)
    (second : ∀ j, j ≤ text.length → text.tokens j = between → r.Accepts text j y rest) :
    (p.both r).Accepts text i (x, y) rest :=
  first.bind fun j within left => (second j within left).map _

theorem seqRight (first : p.Accepts text i x between)
    (second : ∀ j, j ≤ text.length → text.tokens j = between → r.Accepts text j y rest) :
    (p.seqRight r).Accepts text i y rest :=
  first.bind second

theorem seqLeft (first : p.Accepts text i x between)
    (second : ∀ j, j ≤ text.length → text.tokens j = between → r.Accepts text j y rest) :
    (p.seqLeft r).Accepts text i x rest :=
  first.bind fun j within left => (second j within left).map _

theorem orElse_left (accepts : p.Accepts text i x rest) : (p.orElse q).Accepts text i x rest :=
  accepts.goes_on fun j reaches left => Yields.pure ⟨j, rfl, reaches, left⟩

theorem orElse_right (refuses : p.Tells text i none) (accepts : q.Accepts text i x rest) :
    (p.orElse q).Accepts text i x rest :=
  refuses.bind_refusal fun _ => accepts.anchored

theorem firstOf_here {ps : List (Parser σ α)} (accepts : p.Accepts text i x rest) :
    (firstOf p ps).Accepts text i x rest := by
  cases ps with
  | nil => exact accepts
  | cons q qs => exact accepts.goes_on fun j reaches left => Yields.pure ⟨j, rfl, reaches, left⟩

theorem firstOf_later {front : List (Parser σ α)} (back : List (Parser σ α))
    (first : q.Tells text i none) (refuse : ∀ r ∈ front, r.Tells text i none)
    (accepts : p.Accepts text i x rest) :
    (firstOf q (front ++ p :: back)).Accepts text i x rest := by
  induction front generalizing q with
  | nil => exact first.bind_refusal fun _ => accepts.firstOf_here
  | cons r front ih =>
    have later := ih (refuse r List.mem_cons_self)
      fun s member => refuse s (List.mem_cons_of_mem r member)
    exact first.bind_refusal fun _ => later

theorem choice {front : List (Parser σ α)} (back : List (Parser σ α))
    (refuse : ∀ r ∈ front, r.Tells text i none) (accepts : p.Accepts text i x rest) :
    (choice (front ++ p :: back)).Accepts text i x rest := by
  cases front with
  | nil => exact accepts.firstOf_here.anchored
  | cons q front =>
    have later := firstOf_later back (refuse q List.mem_cons_self)
      (fun r member => refuse r (List.mem_cons_of_mem q member)) accepts
    exact later.anchored

theorem many_end (stable : p.Stable) (within : i ≤ text.length) (refuses : p.Tells text i none) :
    p.many.Accepts text i [] (text.tokens i) := by
  apply yields_many stable
  exact refuses.bind_refusal fun _ => Yields.pure ⟨i, rfl, .refl within, rfl⟩

theorem many_next {xs : List α} (stable : p.Stable) (one : p.Accepts text i x between)
    (moved : between ≠ text.tokens i)
    (more : ∀ j, j ≤ text.length → text.tokens j = between → p.many.Accepts text j xs rest) :
    p.many.Accepts text i (x :: xs) rest := by
  apply yields_many stable
  apply one.goes_on
  intro j reaches left
  have apart : j ≠ i := by
    intro same
    rw [same] at left
    exact moved left.symm
  simp only [Int.ofNat_inj, apart, ↓reduceIte]
  apply (more j reaches.within left).goes_on
  intro k further remain
  exact Yields.pure ⟨k, rfl, reaches.trans further, remain⟩

end Accepts

namespace Tells

variable {p : Parser σ α} {text : Text} {i : Nat}

theorem bind_refuses {next : α → Parser σ β} (refuses : p.Tells text i none) :
    (p.bind next).Tells text i none :=
  refuses.bind_refusal fun _ => Yields.pure trivial

end Tells

section

variable {text : Text} {i : Nat} {rest : List Token}

theorem symbol_accepts {c : Char} (within : i ≤ text.length)
    (next : text.tokens i = .sign c :: rest) :
    (symbol (String.singleton c) : Parser σ String).Accepts text i (String.singleton c) rest := by
  obtain ⟨j, replies, fresh, left⟩ := symbol_match within next
  exact .of_match replies fresh left

theorem symbol_refuses {c : Char} (blank : isBlank c = false) (digit : isAsciiDigit c = false)
    (within : i ≤ text.length) (absent : ∀ rest, text.tokens i ≠ .sign c :: rest) :
    (symbol (String.singleton c) : Parser σ String).Tells text i none := by
  obtain ⟨refusal, replies⟩ := symbol_refuse blank digit within absent
  exact .of_refusal replies

end

end Parser

end Descent
