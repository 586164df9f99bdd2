import Descent.Proofs.Parallel.Parser

set_option autoImplicit false

namespace Descent

/-- A run beside itself on a text; any failures go together, and no fault goes together with any. -/
def Parallel.beside {σ : Type} (text : Text) : Parallel σ σ where
  sessions := Eq
  stops _ _ _ _ := False
  first := text
  second := text
  shift := 0
  failures _ _ := True
  anchors _ _ := trivial

namespace Parser

variable {σ α β : Type}

/-- The outcome is no fault; a match has a value of the kind and ends no earlier than the text
begins. -/
inductive Sound (kind : α → Prop) : Outcome σ (Reply α) → Prop where
  | success {value : α} {stop : Int} (holds : kind value) (inside : 0 ≤ stop)
      (reached : Session σ) :
      Sound kind (.done (.success value stop) reached)
  | failure (refusal : Failure) (reached : Session σ) :
      Sound kind (.done (.failure refusal) reached)
  | exhausted (reached : Session σ) : Sound kind (.stopped .exhausted reached)

/-- Started no earlier than the text begins, also past its end, the parser ends with no fault, and
its values are of the kind. -/
def Faultless (text : Text) (kind : α → Prop) (p : Parser σ α) : Prop :=
  ∀ pos budget session, 0 ≤ pos → Sound kind (p text pos budget session)

/-- Started no earlier than the text begins, the parser may yield the value. -/
def Gives (text : Text) (p : Parser σ α) (value : α) : Prop :=
  ∃ pos budget session stop reached, 0 ≤ pos ∧
    p text pos budget session = .done (.success value stop) reached

/-- On values of a kind the function has results of a kind, and no fault. -/
def Total (kind : α → Prop) (results : β → Prop) (f : α → Except Fault β) : Prop :=
  ∀ x, kind x → ∃ y, f x = .ok y ∧ results y

def Total₂ (kind results : α → Prop) (f : α → α → Except Fault α) : Prop :=
  ∀ x, kind x → Total kind results (f x)

variable {text : Text} {kind : α → Prop} {results : β → Prop} {p : Parser σ α} {q : Parser σ β}

namespace Faultless

theorem no_fault (faultless : p.Faultless text kind) {pos : Int} (inside : 0 ≤ pos)
    (budget : Nat) (session reached : Session σ) (fault : Fault) :
    p text pos budget session ≠ .stopped (.fault fault) reached := by
  intro ran
  have sound := faultless pos budget session inside
  rw [ran] at sound
  cases sound

theorem mono {weaker : α → Prop} (faultless : p.Faultless text kind)
    (weaken : ∀ value, kind value → weaker value) : p.Faultless text weaker := by
  intro pos budget session inside
  have sound := faultless pos budget session inside
  generalize p text pos budget session = outcome at sound ⊢
  cases sound with
  | success holds inside reached => exact .success (weaken _ holds) inside reached
  | failure refusal reached => exact .failure refusal reached
  | exhausted reached => exact .exhausted reached

/-- The values of a faultless parser are those that it gives. -/
theorem gives (faultless : p.Faultless text kind) : p.Faultless text (p.Gives text) := by
  intro pos budget session inside
  have sound := faultless pos budget session inside
  generalize ran : p text pos budget session = outcome at sound ⊢
  cases sound with
  | success _ later reached =>
    exact .success ⟨pos, budget, session, _, reached, inside, ran⟩ later reached
  | failure refusal reached => exact .failure refusal reached
  | exhausted reached => exact .exhausted reached

theorem beside (faultless : p.Faultless text kind) :
    (Parallel.beside text).Parsers (0 ≤ ·) (0 ≤ ·) (fun x y => x = y ∧ kind x) p p := by
  intro pos inside budget session _ same
  cases same
  have sound := faultless pos budget session inside
  show (Parallel.beside text).Outcomes ((Parallel.beside text).Replies _ _)
    (p text (pos + 0) budget session) (p text pos budget session)
  rw [Int.add_zero]
  generalize p text pos budget session = outcome at sound
  cases sound with
  | @success value stop holds later reached =>
    have together : (Parallel.beside (σ := σ) text).Replies (0 ≤ ·) (fun x y => x = y ∧ kind x)
        (.success value (stop + 0)) (.success value stop) := .success stop ⟨rfl, holds⟩ later
    rw [Int.add_zero] at together
    exact .done together (Eq.refl reached)
  | failure refusal reached =>
    exact .done (.failure trivial) (Eq.refl reached)
  | exhausted reached => exact .exhausted (Eq.refl reached)

theorem of_beside
    (together :
      (Parallel.beside text).Parsers (0 ≤ ·) (0 ≤ ·) (fun x y => x = y ∧ kind x) p p) :
    p.Faultless text kind := by
  intro pos budget session inside
  have outcomes := together pos inside budget session session (Eq.refl session)
  generalize p (Parallel.beside text).first _ budget session = one at outcomes
  change (Parallel.beside text).Outcomes _ one (p text pos budget session) at outcomes
  generalize p text pos budget session = other at outcomes ⊢
  cases outcomes with
  | done replies _ =>
    cases replies with
    | success stop holds reached => exact .success (holds.1 ▸ holds.2) reached _
    | failure _ => exact .failure _ _
  | fault never =>
    -- no two faults go together
    exact never.elim
  | exhausted _ => exact .exhausted _

theorem pure {value : α} (holds : kind value) :
    (Parser.pure value : Parser σ α).Faultless text kind :=
  fun _ _ session inside => .success holds inside session

theorem failWith (expected : Option String) :
    (Parser.failWith expected : Parser σ α).Faultless text kind :=
  fun _ _ session _ => .failure _ session

theorem literal (s : String) :
    (Parser.literal s : Parser σ String).Faultless text fun _ => True := by
  intro pos budget session inside
  unfold Parser.literal
  split
  · exact .success trivial (by omega) session
  · exact .failure _ session

/-- There is a character at every index before the end, and no negative one is read. -/
theorem satisfy (expected : Option String) (accepts : Char → Bool) :
    (Parser.satisfy expected accepts : Parser σ Char).Faultless text fun _ => True := by
  intro pos budget session inside
  obtain ⟨i, rfl⟩ := Int.eq_ofNat_of_zero_le inside
  unfold Parser.satisfy
  split
  · next before =>
    have bound : i < text.chars.size := Int.ofNat_lt.mp before
    rw [text.char?_of_nat, Array.getElem?_eq_getElem bound]
    dsimp only
    split
    · exact .success trivial (by omega) session
    · exact .failure _ session
  · exact .failure _ session

theorem pattern (expected : String) (pattern : Pattern) :
    (Parser.pattern expected pattern : Parser σ String).Faultless text fun _ => True := by
  intro pos budget session inside
  unfold Parser.pattern
  cases pattern.matchEnd? text (text.clamp pos) with
  | some stop => exact .success trivial (Int.natCast_nonneg stop) session
  | none => exact .failure _ session

theorem eof : (Parser.eof : Parser σ Unit).Faultless text fun _ => True := by
  intro pos budget session inside
  unfold Parser.eof
  split
  · exact .success trivial inside session
  · exact .failure _ session

theorem trace (name : String) : (Parser.trace name : Parser σ Unit).Faultless text fun _ => True :=
  fun _ _ _ inside => .success trivial inside _

theorem map {f : α → β} (faultless : p.Faultless text kind) (maps : ∀ x, kind x → results (f x)) :
    (p.map f).Faultless text results := by
  apply of_beside
  apply faultless.beside.map
  rintro x _ ⟨rfl, holds⟩
  exact ⟨rfl, maps x holds⟩

theorem tryMap {f : α → Except Fault β} (faultless : p.Faultless text kind)
    (total : Total kind results f) : (p.tryMap f).Faultless text results := by
  apply of_beside
  apply faultless.beside.tryMap
  rintro x _ ⟨rfl, holds⟩
  obtain ⟨y, comes, wanted⟩ := total x holds
  rw [comes]
  exact .ok ⟨rfl, wanted⟩

theorem anchored (faultless : p.Faultless text kind) : p.anchored.Faultless text kind :=
  of_beside faultless.beside.anchored

theorem lookAhead (faultless : p.Faultless text kind) : p.lookAhead.Faultless text kind :=
  of_beside faultless.beside.lookAhead

theorem label (message : String) (faultless : p.Faultless text kind) :
    (p.label message).Faultless text kind :=
  of_beside (faultless.beside.label fun _ _ _ => trivial)

theorem notFollowedBy (faultless : p.Faultless text kind) :
    p.notFollowedBy.Faultless text fun _ => True := by
  intro pos budget session inside
  have sound := faultless pos budget session inside
  unfold Parser.notFollowedBy
  rw [Action.bind_apply]
  generalize p text pos budget session = outcome at sound ⊢
  cases sound with
  | success holds later reached => exact .failure _ reached
  | failure refusal reached => exact .success trivial inside reached
  | exhausted reached => exact .exhausted reached

theorem logged {p : Parser σ Value} {kind : Value → Prop} (tag : String)
    (faultless : p.Faultless text kind) : (p.logged tag).Faultless text kind := by
  intro pos budget session inside
  have sound := faultless pos budget session inside
  unfold Parser.logged
  rw [Action.bind_apply]
  generalize p text pos budget session = outcome at sound ⊢
  cases sound with
  | success holds later reached => exact .success holds later _
  | failure refusal reached => exact .failure refusal reached
  | exhausted reached => exact .exhausted reached

theorem bind {next : α → Parser σ β} (faultless : p.Faultless text kind)
    (rest : ∀ x, kind x → (next x).Faultless text results) :
    (p.bind next).Faultless text results := by
  apply of_beside
  apply faultless.beside.bind
  rintro x _ ⟨rfl, holds⟩
  exact (rest x holds).beside

theorem both (faultless : p.Faultless text kind) (rest : q.Faultless text results) :
    (p.both q).Faultless text fun parts => kind parts.1 ∧ results parts.2 :=
  faultless.bind fun _ holds => rest.map fun _ later => ⟨holds, later⟩

theorem seqRight (faultless : p.Faultless text kind) (rest : q.Faultless text results) :
    (p.seqRight q).Faultless text results :=
  faultless.bind fun _ _ => rest

theorem orElse {other : Parser σ α} (faultless : p.Faultless text kind)
    (rest : other.Faultless text kind) : (p.orElse other).Faultless text kind :=
  of_beside (faultless.beside.orElse rest.beside)

theorem optional (faultless : p.Faultless text kind) :
    p.optional.Faultless text fun found => ∀ value, found = some value → kind value := by
  apply (faultless.map _).orElse (pure nofun)
  intro x holds value same
  cases same
  exact holds

theorem traced (name : String) (faultless : p.Faultless text kind) :
    (p.traced name).Faultless text kind :=
  (trace name).seqRight (faultless.orElse ((trace _).seqRight (failWith _)))

/-- Lists whose items are the same, and of the kind, are the same. -/
theorem of_beside_lists {p : Parser σ (List α)}
    (together : (Parallel.beside text).Parsers (0 ≤ ·) (0 ≤ ·)
      (List.Forall₂ fun x y => x = y ∧ kind x) p p) :
    p.Faultless text fun values => ∀ value ∈ values, kind value := by
  apply of_beside
  apply together.mono (fun _ start => start) (fun _ reach => reach)
  intro xs ys same
  induction same with
  | nil => exact ⟨rfl, nofun⟩
  | cons first _ ih => exact ⟨congrArg₂ _ first.1 ih.1, List.forall_mem_cons.mpr ⟨first.2, ih.2⟩⟩

/-- Faultless parsers in a list, beside themselves. -/
theorem all_beside {ps : List (Parser σ α)} (all : ∀ p ∈ ps, p.Faultless text kind) :
    List.Forall₂ ((Parallel.beside text).Parsers (0 ≤ ·) (0 ≤ ·) fun x y => x = y ∧ kind x)
      ps ps :=
  List.forall₂_same.mpr fun p member => (all p member).beside

theorem sequence {ps : List (Parser σ α)} (all : ∀ p ∈ ps, p.Faultless text kind) :
    (Parser.sequence ps).Faultless text fun values => ∀ value ∈ values, kind value :=
  (of_beside_lists (Parallel.Parsers.inTurn (all_beside all))).anchored

theorem choice {ps : List (Parser σ α)} (all : ∀ p ∈ ps, p.Faultless text kind) :
    (Parser.choice ps).Faultless text kind := by
  cases ps with
  | nil => exact failWith _
  | cons p ps =>
    obtain ⟨first, rest⟩ := List.forall_mem_cons.mp all
    exact (of_beside (first.beside.firstOf (all_beside rest))).anchored

theorem count (n : Nat) (faultless : p.Faultless text kind) :
    (Parser.count n p).Faultless text fun values => ∀ value ∈ values, kind value := by
  rw [Parser.count_eq_sequence]
  exact sequence fun q member => (List.eq_of_mem_replicate member) ▸ faultless

theorem many (faultless : p.Faultless text kind) :
    p.many.Faultless text fun values => ∀ value ∈ values, kind value :=
  of_beside_lists faultless.beside.many

theorem many1 (faultless : p.Faultless text kind) :
    p.many1.Faultless text fun values => ∀ value ∈ values, kind value :=
  of_beside_lists faultless.beside.many1

theorem sepBy1 {separator : Parser σ β} (faultless : p.Faultless text kind)
    (between : separator.Faultless text results) :
    (p.sepBy1 separator).Faultless text fun _ => True :=
  (faultless.both (between.seqRight faultless).many).map fun _ _ => trivial

end Faultless

/-- Links whose operators are total on a kind of operands, and whose operands are of it. -/
def Linked (kind : α → Prop) (links : List ((α → α → Except Fault α) × α)) : Prop :=
  ∀ link ∈ links, Total₂ kind kind link.1 ∧ kind link.2

theorem foldLeft_total {first : α} {links : List ((α → α → Except Fault α) × α)}
    (holds : kind first) (linked : Linked kind links) :
    ∃ result, foldLeft first links = .ok result ∧ kind result := by
  induction links generalizing first with
  | nil => exact ⟨first, rfl, holds⟩
  | cons link links ih =>
    obtain ⟨⟨total, operand⟩, rest⟩ := List.forall_mem_cons.mp linked
    obtain ⟨acc, comes, kept⟩ := total first holds link.2 operand
    obtain ⟨result, folds, wanted⟩ := ih kept rest
    refine ⟨result, ?_, wanted⟩
    rw [foldLeft, comes]
    exact folds

theorem foldRight_total {first : α} {links : List ((α → α → Except Fault α) × α)}
    (holds : kind first) (linked : Linked kind links) :
    ∃ result, foldRight first links = .ok result ∧ kind result := by
  induction links generalizing first with
  | nil => exact ⟨first, rfl, holds⟩
  | cons link links ih =>
    obtain ⟨⟨total, operand⟩, rest⟩ := List.forall_mem_cons.mp linked
    obtain ⟨acc, folds, kept⟩ := ih operand rest
    obtain ⟨result, comes, wanted⟩ := total first holds acc kept
    refine ⟨result, ?_, wanted⟩
    rw [foldRight, folds]
    exact comes

namespace Faultless

variable {operator : Binary σ α} {operators : List (Binary σ α)}

theorem chain (faultless : p.Faultless text kind)
    (between : operator.Faultless text (Total₂ kind kind)) :
    (p.chain operator).Faultless text fun parts => kind parts.1 ∧ Linked kind parts.2 :=
  faultless.both (between.both faultless).many

theorem chainl1 (faultless : p.Faultless text kind)
    (between : operator.Faultless text (Total₂ kind kind)) :
    (p.chainl1 operator).Faultless text kind :=
  (faultless.chain between).tryMap fun _ parts => foldLeft_total parts.1 parts.2

theorem chainr1 (faultless : p.Faultless text kind)
    (between : operator.Faultless text (Total₂ kind kind)) :
    (p.chainr1 operator).Faultless text kind :=
  (faultless.chain between).tryMap fun _ parts => foldRight_total parts.1 parts.2

theorem applyAffix_total {operation : Option (α → Except Fault α)} {operand : α}
    (total : ∀ f, operation = some f → Total kind kind f) (holds : kind operand) :
    ∃ result, applyAffix operation operand = .ok result ∧ kind result := by
  cases operation with
  | none => exact ⟨operand, rfl, holds⟩
  | some f => exact total f rfl operand holds

theorem affixed {before after : List (Unary σ α)} (faultless : p.Faultless text kind)
    (front : ∀ q ∈ before, q.Faultless text (Total kind kind))
    (back : ∀ q ∈ after, q.Faultless text (Total kind kind)) :
    (Parser.affixed before after p).Faultless text kind := by
  apply (((choice front).optional.both faultless).both (choice back).optional).tryMap
  rintro ⟨⟨f, operand⟩, g⟩ ⟨⟨opening, holds⟩, closing⟩
  obtain ⟨inner, comes, kept⟩ := applyAffix_total opening holds
  obtain ⟨result, ends, wanted⟩ := applyAffix_total closing kept
  refine ⟨result, ?_, wanted⟩
  show applyAffixes f operand g = _
  rw [applyAffixes, comes]
  exact ends

theorem single (faultless : p.Faultless text kind)
    (all : ∀ q ∈ operators, q.Faultless text (Total₂ kind fun _ => True)) :
    (Parser.single operators p).Faultless text fun _ => True := by
  apply (faultless.both ((choice all).both faultless).optional).tryMap
  rintro ⟨first, tail⟩ ⟨holds, links⟩
  cases tail with
  | none => exact ⟨first, rfl, trivial⟩
  | some link =>
    obtain ⟨total, operand⟩ := links link rfl
    exact total first holds link.2 operand

end Faultless

/-- On operands of a kind all operators of the row are total, and those that can be followed by
others keep the kind. -/
structure RowTotal (text : Text) (kind : α → Prop) (row : Row (Unary σ α) (Binary σ α)) : Prop where
  before : ∀ q ∈ row.before, q.Faultless text (Total kind kind)
  after : ∀ q ∈ row.after, q.Faultless text (Total kind kind)
  left : ∀ q ∈ row.left, q.Faultless text (Total₂ kind kind)
  right : ∀ q ∈ row.right, q.Faultless text (Total₂ kind kind)
  single : ∀ q ∈ row.single, q.Faultless text (Total₂ kind fun _ => True)

theorem Faultless.ite {other : Parser σ α} (condition : Prop) [Decidable condition]
    (yes : p.Faultless text kind) (no : other.Faultless text kind) :
    (if condition then p else other).Faultless text kind := by
  split
  · exact yes
  · exact no

theorem Faultless.level {row : Row (Unary σ α) (Binary σ α)} (faultless : p.Faultless text kind)
    (total : RowTotal text kind row) : (Parser.level row p).Faultless text fun _ => True := by
  unfold Parser.level
  have affixes := ite (row.before.isEmpty && row.after.isEmpty) faultless
    (faultless.affixed total.before total.after)
  have lefts := ite row.left.isEmpty affixes (affixes.chainl1 (choice total.left))
  have rights := ite row.right.isEmpty lefts (lefts.chainr1 (choice total.right))
  exact ite row.single.isEmpty (rights.mono fun _ _ => trivial) (rights.single total.single)

theorem Faultless.rule {definition : Definition σ} {run : σ → Parser σ α} {item : σ}
    (built : definition.build = .ok item) (faultless : (run item).Faultless text kind) :
    (Parser.rule definition run).Faultless text kind := by
  intro pos budget session inside
  rw [rule_ok built]
  exact faultless pos budget (session.built definition item) inside

end Parser

end Descent
