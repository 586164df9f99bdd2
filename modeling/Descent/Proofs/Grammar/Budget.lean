import Descent.Grammar.Meaning
import Descent.Proofs.Parser.Budget

set_option autoImplicit false

namespace Descent.Grammar

variable {σ : Type}

open Descent.Parser (Extends)

variable {little more : Nat} {self self' : String → Parser σ Value}

theorem unaries_extend (calls : Calls) {ps ps' : List (Parser σ Value)}
    (all : List.Forall₂ (Extends little more) ps ps') :
    List.Forall₂ (Extends little more) (ps.map (unary calls)) (ps'.map (unary calls)) := by
  induction all with
  | nil => exact .nil
  | cons first _ rest => exact .cons (first.map _) rest

theorem binaries_extend (calls : Calls) {ps ps' : List (Parser σ Value)}
    (all : List.Forall₂ (Extends little more) ps ps') :
    List.Forall₂ (Extends little more) (ps.map (binary calls)) (ps'.map (binary calls)) := by
  induction all with
  | nil => exact .nil
  | cons first _ rest => exact .cons (first.map _) rest

mutual

theorem parser_extends (enough : little ≤ more)
    (rules : ∀ name, Extends little more (self name) (self' name)) :
    (p : Grammar) → Extends little more (p.parser self) (p.parser self')
  | .literal s => (Parser.literal_extends s).map _
  | .satisfy expected accepts => (Parser.satisfy_extends expected accepts).map _
  | .pattern expected p => (Parser.pattern_extends expected p).map _
  | .pure value => Parser.pure_extends value
  | .failWith expected => Parser.failWith_extends expected
  | .raise fault => Parser.raise_extends fault
  | .eof => Parser.eof_extends.map _
  | .rule name => rules name
  | .custom reply => Parser.ofReply_extends reply
  | .lookAhead p => (parser_extends enough rules p).lookAhead
  | .notFollowedBy p => (parser_extends enough rules p).notFollowedBy.map _
  | .sequence ps => (Extends.sequence (parsers_extend enough rules ps)).map _
  | .times n p => ((parser_extends enough rules p).count n).map _
  | .choice ps => Extends.choice (parsers_extend enough rules ps)
  | .many p => ((parser_extends enough rules p).many enough).map _
  | .many1 p => ((parser_extends enough rules p).many1 enough).map _
  | .sepBy1 p separator =>
    ((parser_extends enough rules p).sepBy1 enough (parser_extends enough rules separator)).map _
  | .bind p next =>
    (parser_extends enough rules p).bind fun value => parser_extends enough rules (next value)
  | .map p f => (parser_extends enough rules p).tryMap f
  | .label p message => (parser_extends enough rules p).label message
  | .logged tag p => (parser_extends enough rules p).logged tag
  | .trace name => (Parser.trace_extends name).map _
  | .traced name p => (parser_extends enough rules p).traced name
  | .chainl1 _ p operator =>
    (parser_extends enough rules p).chainl1 enough ((parser_extends enough rules operator).map _)
  | .chainr1 _ p operator =>
    (parser_extends enough rules p).chainr1 enough ((parser_extends enough rules operator).map _)
  | .level calls before after left right single operand =>
    Extends.level enough
      ⟨unaries_extend calls (parsers_extend enough rules before),
        unaries_extend calls (parsers_extend enough rules after),
        binaries_extend calls (parsers_extend enough rules left),
        binaries_extend calls (parsers_extend enough rules right),
        binaries_extend calls (parsers_extend enough rules single)⟩
      (parser_extends enough rules operand)

theorem parsers_extend (enough : little ≤ more)
    (rules : ∀ name, Extends little more (self name) (self' name)) :
    (ps : List Grammar) → List.Forall₂ (Extends little more) (parsers self ps) (parsers self' ps)
  | [] => .nil
  | p :: ps => .cons (parser_extends enough rules p) (parsers_extend enough rules ps)

end

end Descent.Grammar

namespace Descent.Rules

open Descent.Parser (Extends)

theorem body_regular (rules : Rules) : Parser.Regular rules.body := by
  intro little more enough self self' extended name
  exact Extends.rule _ fun rule _ => Grammar.parser_extends enough extended rule.grammar

theorem parser_stable (rules : Rules) (name : String) : (rules.parser name).Stable :=
  Parser.fix_stable rules.body_regular name

end Descent.Rules

namespace Descent.Grammar

theorem meaning_stable (rules : Rules) (p : Grammar) : (p.meaning rules).Stable :=
  fun _ _ enough => parser_extends enough (fun name => rules.parser_stable name _ _ enough) p

/-- A grammar settles on what one run of it came to, unless the budget did not suffice. -/
theorem settles_of_ran {rules : Rules} {p : Grammar} {text : Text} {pos : Int} {budget : Nat}
    {session : Session (Resolved rules)} {outcome : Outcome (Resolved rules) (Reply Value)}
    (ran : p.meaning rules text pos budget session = outcome) (settled : outcome.Settled) :
    Action.Settles (p.meaning rules text pos) session outcome :=
  Action.settles_of_ran (fun _ _ enough => p.meaning_stable rules _ _ enough text pos) ran settled

theorem inTurn_stable (rules : Rules) (ps : List Grammar) :
    (Parser.inTurn (parsers rules.parser ps)).Stable :=
  fun _ _ enough => Parser.Extends.inTurn
    (parsers_extend enough (fun name => rules.parser_stable name _ _ enough) ps)

theorem firstOf_stable (rules : Rules) (p : Grammar) (ps : List Grammar) :
    (Parser.firstOf (p.meaning rules) (parsers rules.parser ps)).Stable :=
  fun _ _ enough => Parser.Extends.firstOf (p.meaning_stable rules _ _ enough)
    (parsers_extend enough (fun name => rules.parser_stable name _ _ enough) ps)

theorem many_stable (rules : Rules) (p : Grammar) : (p.meaning rules).many.Stable :=
  fun _ _ enough => (p.meaning_stable rules _ _ enough).many enough

/-- A rule settles on what its grammar settles on once the rule is built. -/
theorem settles_rule {rules : Rules} {name : String} {p : Grammar} (defined : rules name = .ok p)
    {text : Text} {pos : Int} {session : Session (Resolved rules)}
    {outcome : Outcome (Resolved rules) (Reply Value)}
    (settles : Action.Settles (p.meaning rules text pos)
      (session.built (rules.definition name) ⟨name, p, defined⟩) outcome) :
    Action.Settles ((rule name).meaning rules text pos) session outcome := by
  apply Parser.settles_fix rules.body_regular
  exact Parser.settles_rule (Rules.build_of_ok defined) settles

/-- A rule that cannot be built settles on its fault. -/
theorem settles_rule_error {rules : Rules} {name : String} {fault : Fault}
    (undefined : rules name = .error fault) (text : Text) (pos : Int)
    (session : Session (Resolved rules)) :
    Action.Settles ((rule name).meaning rules text pos) session
      (.stopped (.fault fault) (session.record (.forced name))) := by
  apply Parser.settles_fix rules.body_regular
  exact Parser.settles_rule_error (Rules.build_of_error undefined) _ text pos session

end Descent.Grammar
