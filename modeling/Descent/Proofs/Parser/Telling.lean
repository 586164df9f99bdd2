import Descent.Proofs.Parser.Budget
import Descent.Proofs.Parser.Promise

set_option autoImplicit false

namespace Descent

open Descent.Action (Yields)

namespace Reply

variable {σ α β : Type}

/-- The reply is a success that ends at the resulting index, or a failure if there is none. -/
def Means : Reply α → Option Nat → Prop
  | success _ stop, some j => stop = j
  | failure _, none => True
  | _, _ => False

@[simp] theorem means_map (f : α → β) (reply : Reply α) (result : Option Nat) :
    (reply.map f).Means result ↔ reply.Means result := by
  cases reply <;> cases result <;> rfl

@[simp] theorem means_anchor (pos : Int) (reply : Reply α) (result : Option Nat) :
    (reply.anchor pos).Means result ↔ reply.Means result := by
  cases reply <;> cases result <;> rfl

theorem Means.success {value : α} {stop : Int} {result : Option Nat}
    (means : (success value stop).Means result) : ∃ j : Nat, stop = j ∧ result = some j := by
  cases result with
  | some j => exact ⟨j, means, rfl⟩
  | none => exact means.elim

theorem Means.failure {refusal : Failure} {result : Option Nat}
    (means : (failure refusal : Reply α).Means result) : result = none := by
  cases result with
  | some j => exact means.elim
  | none => rfl

end Reply

namespace Parser

variable {σ α β : Type}

/-- With enough budget the parser replies what the result says. -/
def Tells (p : Parser σ α) (text : Text) (i : Nat) (result : Option Nat) : Prop :=
  Yields (p text i) fun reply => reply.Means result

namespace Tells

variable {p : Parser σ α} {text : Text} {i : Nat} {result : Option Nat}

theorem of_match {value : α} {j : Nat} (replies : p text i = Pure.pure (.success value j)) :
    p.Tells text i (some j) := by
  unfold Tells
  rw [replies]
  exact Yields.pure rfl

theorem of_refusal {refusal : Failure} (replies : p text i = Pure.pure (.failure refusal)) :
    p.Tells text i none := by
  unfold Tells
  rw [replies]
  exact Yields.pure trivial

theorem map (f : α → β) (tells : p.Tells text i result) : (p.map f).Tells text i result := by
  apply tells.bind
  intro reply means
  exact Yields.pure ((Reply.means_map f reply result).mpr means)

theorem of_map {f : α → β} (stable : p.Stable) (tells : (p.map f).Tells text i result) :
    p.Tells text i result := by
  apply (Yields.before (fun little more enough => stable little more enough text i) tells).mono
  intro reply means
  exact (Reply.means_map f reply result).mp means

theorem anchored (tells : p.Tells text i result) : p.anchored.Tells text i result := by
  apply tells.bind
  intro reply means
  exact Yields.pure ((Reply.means_anchor i reply result).mpr means)

theorem of_anchored (stable : p.Stable) (tells : p.anchored.Tells text i result) :
    p.Tells text i result := by
  apply (Yields.before (fun little more enough => stable little more enough text i) tells).mono
  intro reply means
  exact (Reply.means_anchor i reply result).mp means

/-- After a match that is told the parser goes on from it. -/
theorem bind_match {next : Reply α → Action σ β} {good : β → Prop} {j : Nat}
    (tells : p.Tells text i (some j))
    (rest : ∀ value, Yields (next (.success value j)) good) : Yields (p text i >>= next) good := by
  apply Yields.bind tells
  intro reply means
  cases reply with
  | success value stop =>
    rw [show stop = j from means]
    exact rest value
  | failure refusal => exact means.elim

/-- After a failure that is told the parser goes on from it. -/
theorem bind_refusal {next : Reply α → Action σ β} {good : β → Prop}
    (tells : p.Tells text i none) (rest : ∀ refusal, Yields (next (.failure refusal)) good) :
    Yields (p text i >>= next) good := by
  apply Yields.bind tells
  intro reply means
  cases reply with
  | success value stop => exact means.elim
  | failure refusal => exact rest refusal

variable {q : Parser σ α} {qs : List (Parser σ α)}

theorem firstOf_take {j : Nat} (first : p.Tells text i (some j)) :
    (firstOf p qs).Tells text i (some j) := by
  cases qs with
  | nil => exact first
  | cons q qs => exact first.bind_match fun value => Yields.pure rfl

theorem firstOf_next (first : p.Tells text i none) (rest : (firstOf q qs).Tells text i result) :
    (firstOf p (q :: qs)).Tells text i result :=
  first.bind_refusal fun _ => rest

theorem many_end (stable : p.Stable) (tells : p.Tells text i none) :
    p.many.Tells text i (some i) :=
  yields_many stable (tells.bind_refusal fun _ => Yields.pure rfl)

theorem many_still (stable : p.Stable) (tells : p.Tells text i (some i)) :
    p.many.Tells text i (some i) := by
  apply yields_many stable
  apply tells.bind_match
  intro value
  simp only [↓reduceIte]
  exact Yields.pure rfl

theorem many_next (stable : p.Stable) {j : Nat} (tells : p.Tells text i (some j)) (moved : j ≠ i)
    (rest : p.many.Tells text j result) : p.many.Tells text i result := by
  apply yields_many stable
  apply tells.bind_match
  intro value
  simp only [Int.ofNat_inj, moved, ↓reduceIte]
  exact rest.map _

theorem many1_still (tells : p.Tells text i (some i)) : p.many1.Tells text i (some i) := by
  apply tells.bind_match
  intro value
  simp only [↓reduceIte]
  exact Yields.pure rfl

theorem many1_next {j : Nat} (tells : p.Tells text i (some j)) (moved : j ≠ i)
    (rest : p.many.Tells text j result) : p.many1.Tells text i result := by
  apply tells.bind_match
  intro value
  simp only [Int.ofNat_inj, moved, ↓reduceIte]
  exact rest.map _

end Tells

end Parser

end Descent
