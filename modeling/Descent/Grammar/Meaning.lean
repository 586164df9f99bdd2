import Descent.Grammar.Basic
import Descent.Parser.Expression
import Descent.Parser.Rule
import Descent.Parser.Run
import Descent.Parser.Trace
import Descent.Value.Function

set_option autoImplicit false

namespace Descent

variable {σ : Type}

/-- A set of rules: for each name a grammar, or the fault that building it ends in. -/
abbrev Rules : Type := String → Except Fault Grammar

namespace Rules

def none : Rules := fun _ => .error (.notParser Value.null.typeName)

/-- The rules of a list; the first of a name counts. A name that is not in the list stands for
nothing. -/
def ofList (rules : List (String × Except Fault Grammar)) : Rules := fun name =>
  (rules.lookup name).getD (none name)

end Rules

/-- What a session stores for a rule: the grammar, with the proof that the definition builds it. -/
structure Resolved (rules : Rules) where
  name : String
  grammar : Grammar
  built : rules name = .ok grammar

namespace Rules

def build (rules : Rules) (name : String) : Except Fault (Resolved rules) :=
  match built : rules name with
  | .ok p => .ok ⟨name, p, built⟩
  | .error fault => .error fault

theorem build_of_ok {rules : Rules} {name : String} {p : Grammar} (built : rules name = .ok p) :
    rules.build name = .ok ⟨name, p, built⟩ := by
  unfold build
  split
  · next q built' =>
    obtain rfl : p = q := Except.ok.inj (built.symm.trans built')
    rfl
  · next fault failed => exact nomatch built.symm.trans failed

theorem build_of_error {rules : Rules} {name : String} {fault : Fault}
    (failed : rules name = .error fault) : rules.build name = .error fault := by
  unfold build
  split
  · next p built => exact nomatch failed.symm.trans built
  · next fault' failed' => rw [Except.error.inj (failed.symm.trans failed')]

theorem name_of_build {rules : Rules} {name : String} {rule : Resolved rules}
    (built : rules.build name = .ok rule) : rule.name = name := by
  cases defined : rules name with
  | ok p =>
    rw [build_of_ok defined] at built
    cases built
    rfl
  | error fault => exact nomatch (build_of_error defined).symm.trans built

/-- The definition of a rule, which is stored with its name. -/
def definition (rules : Rules) (name : String) : Definition (Resolved rules) where
  name := name
  build := rules.build name
  isIt rule := rule.name == name
  sound := by
    intro rule same
    obtain rfl := beq_iff_eq.mp same
    exact build_of_ok rule.built

@[simp] theorem definition_name (rules : Rules) (name : String) :
    (rules.definition name).name = name :=
  rfl

end Rules

namespace Grammar

/-- The operation on one operand that a value stands for; null stands for none. -/
def unary (calls : Calls) (p : Parser σ Value) : Parser.Unary σ Value :=
  p.map calls.affix

def binary (calls : Calls) (p : Parser σ Value) : Parser.Binary σ Value :=
  p.map calls.two

def charValue (c : Char) : Value :=
  .str (String.singleton c)

mutual

/-- The parser of a grammar, given the parsers of the rules. -/
def parser (self : String → Parser σ Value) : Grammar → Parser σ Value
  | .literal s => (Parser.literal s).map .str
  | .satisfy expected accepts => (Parser.satisfy expected accepts).map charValue
  | .pattern expected p => (Parser.pattern expected p).map .str
  | .pure value => Parser.pure value
  | .failWith expected => Parser.failWith expected
  | .raise fault => Parser.raise fault
  | .eof => Parser.eof.map fun _ => .null
  | .rule name => self name
  | .custom reply => Parser.ofReply reply
  | .lookAhead p => (p.parser self).lookAhead
  | .notFollowedBy p => (p.parser self).notFollowedBy.map fun _ => .null
  | .sequence ps => (Parser.sequence (parsers self ps)).map .list
  | .times n p => (Parser.count n (p.parser self)).map .list
  | .choice ps => Parser.choice (parsers self ps)
  | .many p => (p.parser self).many.map .list
  | .many1 p => (p.parser self).many1.map .list
  | .sepBy1 p separator => ((p.parser self).sepBy1 (separator.parser self)).map .list
  | .bind p next => (p.parser self).bind fun value => (next value).parser self
  | .map p f => (p.parser self).tryMap f
  | .label p message => (p.parser self).label message
  | .logged tag p => (p.parser self).logged tag
  | .trace name => (Parser.trace name).map fun _ => .null
  | .traced name p => Parser.traced name (p.parser self)
  | .chainl1 calls p operator =>
    Parser.chainl1 (p.parser self) (binary calls (operator.parser self))
  | .chainr1 calls p operator =>
    Parser.chainr1 (p.parser self) (binary calls (operator.parser self))
  | .level calls before after left right single operand =>
    Parser.level
      ⟨(parsers self before).map (unary calls), (parsers self after).map (unary calls),
        (parsers self left).map (binary calls), (parsers self right).map (binary calls),
        (parsers self single).map (binary calls)⟩
      (operand.parser self)

def parsers (self : String → Parser σ Value) : List Grammar → List (Parser σ Value)
  | [] => []
  | p :: ps => p.parser self :: parsers self ps

end

end Grammar

namespace Rules

/-- One step of unrolling: the parser of a rule, given the parsers of the rules it uses. -/
def body (rules : Rules) (self : String → Parser (Resolved rules) Value) (name : String) :
    Parser (Resolved rules) Value :=
  Parser.rule (rules.definition name) fun rule => rule.grammar.parser self

def parser (rules : Rules) : String → Parser (Resolved rules) Value :=
  Parser.fix rules.body

end Rules

/-- The parser of a grammar that may use the rules. -/
def Grammar.meaning (rules : Rules) (p : Grammar) : Parser (Resolved rules) Value :=
  p.parser rules.parser

end Descent
