import Descent.Grammar.Meaning
import Descent.Proofs.Grammar.Library
import Descent.Proofs.Parallel.Alike

set_option autoImplicit false

namespace Descent

/-- The grammar is built from parts of a kind, and from rules, by the ways to combine grammars.
Tracing a grammar takes the lines that are printed for parts. -/
inductive Grammar.BuiltFrom (part : Grammar → Prop) : Grammar → Prop where
  | part {p : Grammar} (holds : part p) : BuiltFrom part p
  | rule (name : String) : BuiltFrom part (.rule name)
  | lookAhead {p : Grammar} (inner : BuiltFrom part p) : BuiltFrom part (.lookAhead p)
  | notFollowedBy {p : Grammar} (inner : BuiltFrom part p) : BuiltFrom part (.notFollowedBy p)
  | sequence {ps : List Grammar} (parts : ∀ p ∈ ps, BuiltFrom part p) :
      BuiltFrom part (.sequence ps)
  | times (n : Nat) {p : Grammar} (inner : BuiltFrom part p) : BuiltFrom part (.times n p)
  | choice {ps : List Grammar} (parts : ∀ p ∈ ps, BuiltFrom part p) : BuiltFrom part (.choice ps)
  | many {p : Grammar} (inner : BuiltFrom part p) : BuiltFrom part (.many p)
  | many1 {p : Grammar} (inner : BuiltFrom part p) : BuiltFrom part (.many1 p)
  | sepBy1 {p separator : Grammar} (inner : BuiltFrom part p) (outer : BuiltFrom part separator) :
      BuiltFrom part (.sepBy1 p separator)
  | bind {p : Grammar} {next : Value → Grammar} (first : BuiltFrom part p)
      (rest : ∀ value, BuiltFrom part (next value)) : BuiltFrom part (.bind p next)
  | map {p : Grammar} (f : Value → Except Fault Value) (inner : BuiltFrom part p) :
      BuiltFrom part (.map p f)
  | label {p : Grammar} (message : String) (inner : BuiltFrom part p) :
      BuiltFrom part (.label p message)
  | logged (tag : String) {p : Grammar} (inner : BuiltFrom part p) : BuiltFrom part (.logged tag p)
  | traced (name : String) {p : Grammar} (line : part (.trace name))
      (backtracked : part (.trace (name ++ " backtracked"))) (inner : BuiltFrom part p) :
      BuiltFrom part (.traced name p)
  | chainl1 {calls : Calls} {p operator : Grammar} (operand : BuiltFrom part p)
      (between : BuiltFrom part operator) : BuiltFrom part (.chainl1 calls p operator)
  | chainr1 {calls : Calls} {p operator : Grammar} (operand : BuiltFrom part p)
      (between : BuiltFrom part operator) : BuiltFrom part (.chainr1 calls p operator)
  | level {calls : Calls} {before after left right single : List Grammar} {operand : Grammar}
      (in_before : ∀ p ∈ before, BuiltFrom part p) (in_after : ∀ p ∈ after, BuiltFrom part p)
      (in_left : ∀ p ∈ left, BuiltFrom part p) (in_right : ∀ p ∈ right, BuiltFrom part p)
      (in_single : ∀ p ∈ single, BuiltFrom part p) (inner : BuiltFrom part operand) :
      BuiltFrom part (.level calls before after left right single operand)

def Rules.BuiltFrom (part : Grammar → Prop) (rules : Rules) : Prop :=
  ∀ name p, rules name = .ok p → p.BuiltFrom part

/-- The grammar is not made of others: it replies at once, raises a fault, or prints a line. -/
inductive Grammar.Primitive : Grammar → Prop where
  | literal (s : String) : Primitive (.literal s)
  | satisfy (expected : Option String) (accepts : Char → Bool) :
      Primitive (.satisfy expected accepts)
  | pattern (expected : String) (p : Pattern) : Primitive (.pattern expected p)
  | pure (value : Value) : Primitive (.pure value)
  | failWith (expected : Option String) : Primitive (.failWith expected)
  | raise (fault : Fault) : Primitive (.raise fault)
  | eof : Primitive .eof
  | custom (reply : Text → Int → Reply Value) : Primitive (.custom reply)
  | trace (name : String) : Primitive (.trace name)

mutual

/-- Every grammar is built from primitives. -/
theorem Grammar.builtFrom_primitive : (p : Grammar) → p.BuiltFrom Primitive
  | .literal s => .part (.literal s)
  | .satisfy expected accepts => .part (.satisfy expected accepts)
  | .pattern expected p => .part (.pattern expected p)
  | .pure value => .part (.pure value)
  | .failWith expected => .part (.failWith expected)
  | .raise fault => .part (.raise fault)
  | .eof => .part .eof
  | .rule name => .rule name
  | .custom reply => .part (.custom reply)
  | .lookAhead p => .lookAhead p.builtFrom_primitive
  | .notFollowedBy p => .notFollowedBy p.builtFrom_primitive
  | .sequence ps => .sequence (builtFrom_primitives ps)
  | .times n p => .times n p.builtFrom_primitive
  | .choice ps => .choice (builtFrom_primitives ps)
  | .many p => .many p.builtFrom_primitive
  | .many1 p => .many1 p.builtFrom_primitive
  | .sepBy1 p separator => .sepBy1 p.builtFrom_primitive separator.builtFrom_primitive
  | .bind p next => .bind p.builtFrom_primitive fun value => (next value).builtFrom_primitive
  | .map p f => .map f p.builtFrom_primitive
  | .label p message => .label message p.builtFrom_primitive
  | .logged tag p => .logged tag p.builtFrom_primitive
  | .trace name => .part (.trace name)
  | .traced name p => .traced name (.trace _) (.trace _) p.builtFrom_primitive
  | .chainl1 _ p operator => .chainl1 p.builtFrom_primitive operator.builtFrom_primitive
  | .chainr1 _ p operator => .chainr1 p.builtFrom_primitive operator.builtFrom_primitive
  | .level _ before after left right single operand =>
    .level (builtFrom_primitives before) (builtFrom_primitives after) (builtFrom_primitives left)
      (builtFrom_primitives right) (builtFrom_primitives single) operand.builtFrom_primitive

theorem Grammar.builtFrom_primitives : (ps : List Grammar) → ∀ p ∈ ps, p.BuiltFrom Primitive
  | [] => nofun
  | p :: ps => List.forall_mem_cons.mpr ⟨p.builtFrom_primitive, builtFrom_primitives ps⟩

end

/-- What using a rule comes to, given its definition and the parser of what the definition builds.
-/
abbrev RuleUse (σ : Type) : Type :=
  Definition σ → (σ → Parser σ Value) → Parser σ Value

def Rules.parserBy (rules : Rules) (use : RuleUse (Resolved rules)) :
    String → Parser (Resolved rules) Value :=
  Parser.fix fun self name => use (rules.definition name) fun rule => rule.grammar.parser self

namespace Parallel

section

variable {σ τ : Type} {par : Parallel σ τ} {place : Int → Prop} {part : Grammar → Prop}
  {self : String → Parser σ Value} {self' : String → Parser τ Value}

/-- What a kind of parts has to do so that all grammars built from them are alike in the two runs:
each part is, and each line that is traced. -/
structure Parts (par : Parallel σ τ) (place : Int → Prop) (part : Grammar → Prop) : Prop where
  uniform : par.Uniform place
  alike : ∀ p, part p → ∀ self self', par.Alike place (p.parser self) (p.parser self')
  lines : ∀ name, part (.trace name) → par.Alike place (Parser.trace name) (Parser.trace name)

theorem parsers_alike {ps : List Grammar}
    (each : ∀ p ∈ ps, par.Alike place (p.parser self) (p.parser self')) :
    par.AllAlike place (Grammar.parsers self ps) (Grammar.parsers self' ps) := by
  rw [Grammar.parsers_eq_map, Grammar.parsers_eq_map, AllAlike, List.forall₂_map_left_iff,
    List.forall₂_map_right_iff, List.forall₂_same]
  exact each

theorem mapped_alike {α : Type} {ps : List (Parser σ Value)} {qs : List (Parser τ Value)}
    (f : Value → α) (all : par.AllAlike place ps qs) :
    par.AllAlike place (ps.map (Parser.map f)) (qs.map (Parser.map f)) := by
  rw [AllAlike, List.forall₂_map_left_iff, List.forall₂_map_right_iff]
  exact all.imp fun _ _ alike => alike.map f

/-- One case for each way to combine grammars. -/
theorem Parts.grammar (parts : par.Parts place part)
    (rules : ∀ name, par.Alike place (self name) (self' name)) {p : Grammar}
    (built : p.BuiltFrom part) : par.Alike place (p.parser self) (p.parser self') := by
  have uniform := parts.uniform
  induction built with
  | part holds => exact parts.alike _ holds self self'
  | rule name => exact rules name
  | lookAhead _ inner => exact inner.lookAhead
  | notFollowedBy _ inner => exact (Alike.notFollowedBy uniform inner).map _
  | sequence _ inner => exact (Alike.sequence (parsers_alike inner)).map _
  | times n _ inner => exact (Alike.count n inner).map _
  | choice _ inner => exact Alike.choice uniform (parsers_alike inner)
  | many _ inner => exact (Alike.many inner).map _
  | many1 _ inner => exact (Alike.many1 inner).map _
  | sepBy1 _ _ inner outer => exact (Alike.sepBy1 inner outer).map _
  | bind _ _ first rest => exact Alike.bind first rest
  | map f _ inner => exact Alike.tryMap uniform f inner
  | label message _ inner => exact Alike.label uniform message inner
  | logged tag _ inner => exact Alike.logged uniform tag inner
  | traced name line backtracked _ inner =>
    exact Alike.traced uniform name (parts.lines _ line) (parts.lines _ backtracked) inner
  | chainl1 _ _ operand between => exact Alike.chainl1 uniform operand (Alike.map _ between)
  | chainr1 _ _ operand between => exact Alike.chainr1 uniform operand (Alike.map _ between)
  | level _ _ _ _ _ _ before after left right single operand =>
    exact Alike.level uniform (mapped_alike _ (parsers_alike before))
      (mapped_alike _ (parsers_alike after)) (mapped_alike _ (parsers_alike left))
      (mapped_alike _ (parsers_alike right)) (mapped_alike _ (parsers_alike single)) operand

end

variable {rules : Rules} {par : Parallel (Resolved rules) (Resolved rules)} {place : Int → Prop}
  {part : Grammar → Prop} {use use' : RuleUse (Resolved rules)}

/-- Given parsers that go together for what a definition builds, two ways to use a rule go together,
whether or not the rule can be built. -/
def Uses (par : Parallel (Resolved rules) (Resolved rules)) (place : Int → Prop)
    (use use' : RuleUse (Resolved rules)) : Prop :=
  ∀ name run run', (∀ rule : Resolved rules, par.Alike place (run rule) (run' rule)) →
    par.Alike place (use (rules.definition name) run) (use' (rules.definition name) run')

theorem Parts.rule (parts : par.Parts place part) (uses : par.Uses place use use')
    (built : rules.BuiltFrom part) (name : String) :
    par.Alike place (rules.parserBy use name) (rules.parserBy use' name) := by
  apply Parsers.fix
  intro self self' together name
  exact uses name _ _ fun rule => parts.grammar together (built rule.name rule.grammar rule.built)

/-- A grammar that is built from such parts, as its rules are, is alike in the two runs. -/
theorem Parts.meaning (parts : par.Parts place part) (uses : par.Uses place use use')
    (built_rules : rules.BuiltFrom part) {p : Grammar} (built : p.BuiltFrom part) :
    par.Alike place (p.parser (rules.parserBy use)) (p.parser (rules.parserBy use')) :=
  parts.grammar (parts.rule uses built_rules) built

end Parallel

end Descent
