import Descent.Proofs.Parallel.Parser

set_option autoImplicit false

namespace Descent.Parallel

variable {σ τ α β ι : Type} {par : Parallel σ τ} {place : Int → Prop}

/-- Two runs are told apart neither by faults nor by what failures expect nor by the stretches of
the texts, and recording the same value on both sides keeps sessions together. -/
structure Uniform (par : Parallel σ τ) (place : Int → Prop) : Prop where
  faults : ∀ fault, par.faults fault fault
  leaves : ∀ pos expected, place pos →
    par.failures (.leaf (pos + par.shift) expected) (.leaf pos expected)
  labels : ∀ f g message, par.failures f g →
    par.failures (f.relabel message) (g.relabel message)
  slices : ∀ start stop, place start → place stop →
    par.first.slice (start + par.shift) (stop + par.shift) = par.second.slice start stop
  logs : ∀ s t tag value, par.sessions s t →
    par.sessions (s.record (.logged tag value)) (t.record (.logged tag value))

/-- Side by side the parsers yield equal values. -/
abbrev Alike (par : Parallel σ τ) (place : Int → Prop) (p : Parser σ α) (q : Parser τ α) : Prop :=
  par.Parsers place place Eq p q

abbrev AllAlike (par : Parallel σ τ) (place : Int → Prop) (ps : List (Parser σ α))
    (qs : List (Parser τ α)) : Prop :=
  List.Forall₂ (par.Alike place) ps qs

/-- Both runs take the same stretches of one text. -/
theorem slices_still (texts : par.first = par.second) (still : par.shift = 0) (start stop : Int) :
    par.first.slice (start + par.shift) (stop + par.shift) = par.second.slice start stop := by
  rw [texts, still, Int.add_zero, Int.add_zero]

theorem Uniform.results (uniform : par.Uniform place) (result : Except Fault α) :
    par.Results Eq result result := by
  cases result with
  | ok x => exact .ok rfl
  | error fault => exact .error (uniform.faults fault)

theorem Parsers.eq_lists {p : Parser σ (List α)} {q : Parser τ (List α)}
    (together : par.Parsers place place (List.Forall₂ Eq) p q) : par.Alike place p q :=
  together.mono (fun _ start => start) (fun _ reach => reach) fun _ _ same => by
    rwa [List.forall₂_eq_eq_eq] at same

namespace Alike

variable {p : Parser σ α} {q : Parser τ α} {r : Parser σ β} {s : Parser τ β}

theorem pure (x : α) :
    par.Alike place (Parser.pure x : Parser σ α) (Parser.pure x : Parser τ α) :=
  Parsers.pure rfl

theorem failWith (uniform : par.Uniform place) (expected : Option String) :
    par.Alike place (Parser.failWith expected : Parser σ α)
      (Parser.failWith expected : Parser τ α) :=
  Parsers.failWith fun pos => uniform.leaves pos expected

theorem raise (uniform : par.Uniform place) (fault : Fault) :
    par.Alike place (Parser.raise fault : Parser σ α) (Parser.raise fault : Parser τ α) :=
  Parsers.raise (uniform.faults fault)

theorem map (f : α → β) (alike : par.Alike place p q) : par.Alike place (p.map f) (q.map f) :=
  Parsers.map alike fun _ _ same => congrArg f same

theorem tryMap (uniform : par.Uniform place) (f : α → Except Fault β)
    (alike : par.Alike place p q) : par.Alike place (p.tryMap f) (q.tryMap f) := by
  apply Parsers.tryMap alike
  rintro x y rfl
  exact uniform.results (f x)

theorem label (uniform : par.Uniform place) (message : String) (alike : par.Alike place p q) :
    par.Alike place (p.label message) (q.label message) :=
  Parsers.label (fun f g => uniform.labels f g message) alike

theorem notFollowedBy (uniform : par.Uniform place) (alike : par.Alike place p q) :
    par.Alike place p.notFollowedBy q.notFollowedBy := by
  intro pos starts
  apply (alike pos starts).bind
  intro reply reply' replies
  cases replies with
  | success stop holds reached =>
    simp only [uniform.slices pos stop starts reached]
    exact Pairing.Actions.pure (.failure (uniform.leaves pos _ starts))
  | failure _ => exact Pairing.Actions.pure (.success pos rfl starts)

theorem logged {p : Parser σ Value} {q : Parser τ Value} (uniform : par.Uniform place)
    (tag : String)
    (alike : par.Alike place p q) : par.Alike place (p.logged tag) (q.logged tag) := by
  intro pos starts
  apply (alike pos starts).bind
  intro reply reply' replies
  cases replies with
  | @success x y stop holds reached =>
    rw [holds]
    apply (Pairing.Actions.record fun s t => uniform.logs s t tag y).bind
    exact fun _ _ _ => Pairing.Actions.pure (.success stop rfl reached)
  | failure holds => exact Pairing.Actions.pure (.failure holds)

theorem bind {next : α → Parser σ β} {next' : α → Parser τ β} (alike : par.Alike place p q)
    (rest : ∀ x, par.Alike place (next x) (next' x)) :
    par.Alike place (p.bind next) (q.bind next') := by
  apply Parsers.bind alike
  rintro x y rfl
  exact rest x

theorem both (alike : par.Alike place p q) (rest : par.Alike place r s) :
    par.Alike place (p.both r) (q.both s) :=
  alike.bind fun _ => rest.map _

theorem seqRight (alike : par.Alike place p q) (rest : par.Alike place r s) :
    par.Alike place (p.seqRight r) (q.seqRight s) :=
  alike.bind fun _ => rest

theorem option (default : α) (alike : par.Alike place p q) :
    par.Alike place (p.option default) (q.option default) :=
  Parsers.orElse alike (pure default)

theorem optional (alike : par.Alike place p q) : par.Alike place p.optional q.optional :=
  (alike.map some).option none

theorem traced (uniform : par.Uniform place) (name : String)
    (line : par.Alike place (Parser.trace name) (Parser.trace name))
    (backtracked : par.Alike place (Parser.trace (name ++ " backtracked"))
      (Parser.trace (name ++ " backtracked")))
    (alike : par.Alike place p q) : par.Alike place (p.traced name) (q.traced name) :=
  line.seqRight (Parsers.orElse alike (backtracked.seqRight (failWith uniform _)))

theorem sequence {ps : List (Parser σ α)} {qs : List (Parser τ α)}
    (all : par.AllAlike place ps qs) : par.Alike place (Parser.sequence ps) (Parser.sequence qs) :=
  (Parsers.inTurn all).eq_lists.anchored

theorem choice {ps : List (Parser σ α)} {qs : List (Parser τ α)} (uniform : par.Uniform place)
    (all : par.AllAlike place ps qs) :
    par.Alike place (Parser.choice ps) (Parser.choice qs) := by
  cases all with
  | nil => exact failWith uniform _
  | cons alike rest => exact (Parsers.firstOf alike rest).anchored

theorem count (n : Nat) (alike : par.Alike place p q) :
    par.Alike place (Parser.count n p) (Parser.count n q) := by
  rw [Parser.count_eq_sequence, Parser.count_eq_sequence]
  apply sequence
  induction n with
  | zero => exact .nil
  | succ n ih => exact .cons alike ih

theorem many (alike : par.Alike place p q) : par.Alike place p.many q.many :=
  (Parsers.many alike).eq_lists

theorem many1 (alike : par.Alike place p q) : par.Alike place p.many1 q.many1 :=
  (Parsers.many1 alike).eq_lists

theorem sepBy1 (alike : par.Alike place p q) (separator : par.Alike place r s) :
    par.Alike place (p.sepBy1 r) (q.sepBy1 s) :=
  (alike.both (separator.seqRight alike).many).map _

variable {operator : Parser.Binary σ α} {operator' : Parser.Binary τ α}

theorem chain (alike : par.Alike place p q) (operators : par.Alike place operator operator') :
    par.Alike place (p.chain operator) (q.chain operator') :=
  alike.both (operators.both alike).many

theorem chainl1 (uniform : par.Uniform place) (alike : par.Alike place p q)
    (operators : par.Alike place operator operator') :
    par.Alike place (p.chainl1 operator) (q.chainl1 operator') :=
  (alike.chain operators).tryMap uniform _

theorem chainr1 (uniform : par.Uniform place) (alike : par.Alike place p q)
    (operators : par.Alike place operator operator') :
    par.Alike place (p.chainr1 operator) (q.chainr1 operator') :=
  (alike.chain operators).tryMap uniform _

theorem affixed {before after : List (Parser.Unary σ α)}
    {before' after' : List (Parser.Unary τ α)} (uniform : par.Uniform place)
    (front : par.AllAlike place before before')
    (back : par.AllAlike place after after') (alike : par.Alike place p q) :
    par.Alike place (Parser.affixed before after p) (Parser.affixed before' after' q) :=
  (((choice uniform front).optional.both alike).both (choice uniform back).optional).tryMap
    uniform _

theorem single {operators : List (Parser.Binary σ α)} {operators' : List (Parser.Binary τ α)}
    (uniform : par.Uniform place) (all : par.AllAlike place operators operators')
    (alike : par.Alike place p q) :
    par.Alike place (Parser.single operators p) (Parser.single operators' q) :=
  (alike.both ((choice uniform all).both alike).optional).tryMap uniform _

theorem ite {p' : Parser σ α} {q' : Parser τ α} (condition : Prop) [Decidable condition]
    (yes : par.Alike place p q) (no : par.Alike place p' q') :
    par.Alike place (if condition then p else p') (if condition then q else q') := by
  split
  · exact yes
  · exact no

theorem isEmpty_eq {ps : List (Parser σ α)} {qs : List (Parser τ α)}
    (all : par.AllAlike place ps qs) : ps.isEmpty = qs.isEmpty := by
  cases all <;> rfl

theorem level {row : Row (Parser.Unary σ α) (Parser.Binary σ α)}
    {row' : Row (Parser.Unary τ α) (Parser.Binary τ α)} (uniform : par.Uniform place)
    (before : par.AllAlike place row.before row'.before)
    (after : par.AllAlike place row.after row'.after)
    (left : par.AllAlike place row.left row'.left)
    (right : par.AllAlike place row.right row'.right)
    (alone : par.AllAlike place row.single row'.single) (alike : par.Alike place p q) :
    par.Alike place (Parser.level row p) (Parser.level row' q) := by
  unfold Parser.level
  rw [isEmpty_eq before, isEmpty_eq after, isEmpty_eq left, isEmpty_eq right, isEmpty_eq alone]
  have affixes := ite (row'.before.isEmpty && row'.after.isEmpty) alike
    (affixed uniform before after alike)
  have lefts := ite row'.left.isEmpty affixes (affixes.chainl1 uniform (choice uniform left))
  have rights := ite row'.right.isEmpty lefts (lefts.chainr1 uniform (choice uniform right))
  exact ite row'.single.isEmpty rights (single uniform alone rights)

variable {definition : Definition σ} {definition' : Definition τ} {run : σ → Parser σ α}
  {run' : τ → Parser τ α}

theorem rule {item : σ} {item' : τ} (built : definition.build = .ok item)
    (built' : definition'.build = .ok item')
    (builds : ∀ s t, par.sessions s t →
      par.sessions (s.built definition item) (t.built definition' item'))
    (alike : par.Alike place (run item) (run' item')) :
    par.Alike place (Parser.rule definition run) (Parser.rule definition' run') := by
  intro pos starts budget s t sessions
  rw [Parser.rule_ok built, Parser.rule_ok built']
  exact alike pos starts budget _ _ (builds s t sessions)

theorem rule_error {fault : Fault} (failed : definition.build = .error fault)
    (failed' : definition'.build = .error fault)
    (tries : ∀ s t, par.sessions s t →
      par.stops fault (s.record (.forced definition.name)) fault
        (t.record (.forced definition'.name))) :
    par.Alike place (Parser.rule definition run) (Parser.rule definition' run') := by
  intro pos starts budget s t sessions
  rw [Parser.rule_error failed, Parser.rule_error failed']
  exact .fault (tries s t sessions)

end Alike

end Descent.Parallel
