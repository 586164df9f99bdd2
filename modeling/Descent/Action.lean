import Descent.Value.Basic

set_option autoImplicit false

namespace Descent

inductive Event where
  | printed (text : String)
  | forced (rule : String)
  | logged (tag : String) (value : Value)
  deriving Repr

namespace Event

/-- Events, after some texts that were printed one right after another and are joined into one. -/
def afterPrinted (texts : List String) (events : List Event) : List Event :=
  if texts.isEmpty then events else printed (String.join texts) :: events

/-- Puts an event in front of others, which begin with some printed texts. -/
def consMerged (event : Event) (others : List String × List Event) : List String × List Event :=
  match event with
  | printed s => (s :: others.1, others.2)
  | event => ([], event :: afterPrinted others.1 others.2)

/-- The events with texts printed one right after another joined into one. -/
def merge (events : List Event) : List Event :=
  let (texts, rest) := events.foldr consMerged ([], [])
  afterPrinted texts rest

end Event

/-- What lasts from one step of a run to the next, and from one run to the next: what was built and
is stored, the latest first, and the events in order. It is kept when a run ends without an answer.
-/
structure Session (σ : Type) where
  stored : List σ
  events : Array Event
  deriving Repr, Inhabited

/-- How something is built, and how it is told from whatever else is stored. What is taken for it is
what building it gives. -/
structure Definition (σ : Type) where
  name : String
  build : Except Fault σ
  isIt : σ → Bool
  sound : ∀ item, isIt item = true → build = .ok item

/-- The one definition there is. What it gives is known, so no more is stored than that it was
built. -/
def Definition.only (name : String) : Definition Unit where
  name := name
  build := .ok ()
  isIt _ := true
  sound _ _ := rfl

variable {σ : Type}

namespace Session

def fresh : Session σ :=
  ⟨[], #[]⟩

def record (session : Session σ) (event : Event) : Session σ :=
  { session with events := session.events.push event }

def store (session : Session σ) (item : σ) : Session σ :=
  { session with stored := item :: session.stored }

def find? (session : Session σ) (definition : Definition σ) : Option σ :=
  session.stored.find? definition.isIt

/-- The session at the start of the next run: what is stored stays, the events begin anew. -/
def nextRun (session : Session σ) : Session σ :=
  { session with events := #[] }

end Session

/-- Why a run ends without an answer. -/
inductive Stop where
  | fault (fault : Fault)
  | exhausted
  deriving Repr

inductive Outcome (σ α : Type) where
  | done (value : α) (session : Session σ)
  | stopped (reason : Stop) (session : Session σ)
  deriving Repr

/-- With a budget and in a session an action comes to an outcome. The budget bounds every repetition
and every nesting of rules; a run that it does not suffice for says so, which is different from
every answer and every fault. -/
def Action (σ α : Type) : Type :=
  Nat → Session σ → Outcome σ α

namespace Action

variable {α β : Type}

protected def pure (value : α) : Action σ α :=
  fun _ session => .done value session

protected def bind (action : Action σ α) (next : α → Action σ β) : Action σ β :=
  fun budget session =>
    match action budget session with
    | .done value session => next value budget session
    | .stopped reason session => .stopped reason session

instance : Monad (Action σ) where
  pure := Action.pure
  bind := Action.bind

def raise (fault : Fault) : Action σ α :=
  fun _ session => .stopped (.fault fault) session

/-- Ends the run for want of budget. -/
def exhausted : Action σ α :=
  fun _ session => .stopped .exhausted session

def budget : Action σ Nat :=
  fun budget session => .done budget session

def record (event : Event) : Action σ Unit :=
  fun _ session => .done () (session.record event)

def find? (definition : Definition σ) : Action σ (Option σ) :=
  fun _ session => .done (session.find? definition) session

def store (item : σ) : Action σ Unit :=
  fun _ session => .done () (session.store item)

/-- Yields a result, or ends the run with its fault. -/
def ofExcept : Except Fault α → Action σ α
  | .ok value => pure value
  | .error fault => raise fault

def force (definition : Definition σ) : Action σ σ := do
  record (.forced definition.name)
  ofExcept definition.build

/-- What is stored for a definition; if nothing is, the definition is called, and what it builds is
stored. Nothing is stored if it ends in a fault. -/
def resolve (definition : Definition σ) : Action σ σ := do
  match ← find? definition with
  | some item => return item
  | none =>
    let item ← force definition
    store item
    return item

theorem bind_apply (action : Action σ α) (next : α → Action σ β) (budget : Nat)
    (session : Session σ) :
    (action >>= next) budget session =
      match action budget session with
      | .done value session => next value budget session
      | .stopped reason session => .stopped reason session :=
  rfl

theorem pure_apply (value : α) (budget : Nat) (session : Session σ) :
    (pure value : Action σ α) budget session = .done value session :=
  rfl

theorem pure_inj {value other : α} : (pure value : Action σ α) = pure other ↔ value = other := by
  constructor
  · intro same
    exact (Outcome.done.inj (congrFun (congrFun same 0) .fresh)).1
  · rintro rfl
    rfl

theorem bind_pure_id (action : Action σ α) :
    (action >>= fun value => pure (id value)) = action := by
  funext budget session
  rw [bind_apply]
  cases action budget session <;> rfl

theorem bind_bind {γ : Type} (action : Action σ α) (f : α → Action σ β) (g : β → Action σ γ) :
    action >>= f >>= g = action >>= fun value => f value >>= g := by
  funext budget session
  simp only [bind_apply]
  cases action budget session <;> rfl

instance : LawfulMonad (Action σ) :=
  LawfulMonad.mk' (Action σ) bind_pure_id (fun _ _ => rfl) bind_bind

end Action

end Descent
