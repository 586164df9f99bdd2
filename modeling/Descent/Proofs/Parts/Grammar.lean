import Descent.Proofs.Parts.Parser

set_option autoImplicit false

namespace Descent

variable {σ : Type}

namespace Grammar

mutual

/-- The parser of a grammar, its parts in lists, given the parsers of the rules. What has no parts
is read as before. -/
def looseParser (self : String → Parser σ Value) : Grammar → Parser σ Value
  | .lookAhead p => (p.looseParser self).lookAhead
  | .notFollowedBy p => (p.looseParser self).notFollowedBy.map fun _ => .null
  | .sequence ps => Parts.list (looseParsers self ps)
  | .times n p => Parts.list (List.replicate n (p.looseParser self))
  | .choice ps => Parser.choice (looseParsers self ps)
  | .many p => Parts.many (p.looseParser self)
  | .many1 p => Parts.many1 (p.looseParser self)
  | .sepBy1 p separator => Parts.sepBy1 (p.looseParser self) (separator.looseParser self)
  | .bind p next => (p.looseParser self).bind fun value => (next value).looseParser self
  | .map p f => (p.looseParser self).tryMap f
  | .label p message => (p.looseParser self).label message
  | .logged tag p => (p.looseParser self).logged tag
  | .traced name p => Parser.traced name (p.looseParser self)
  | .chainl1 calls p operator =>
    Parts.chainl1 calls (p.looseParser self) (operator.looseParser self)
  | .chainr1 calls p operator =>
    Parts.chainr1 calls (p.looseParser self) (operator.looseParser self)
  | .level calls before after left right single operand =>
    Parts.level calls
      ⟨looseParsers self before, looseParsers self after, looseParsers self left,
        looseParsers self right, looseParsers self single⟩
      (operand.looseParser self)
  | p => p.parser self

def looseParsers (self : String → Parser σ Value) : List Grammar → List (Parser σ Value)
  | [] => []
  | p :: ps => p.looseParser self :: looseParsers self ps

end

mutual

/-- One case for each constructor. -/
theorem looseParser_eq (self : String → Parser σ Value) :
    (p : Grammar) → p.looseParser self = p.parser self
  | .literal _ => rfl
  | .satisfy _ _ => rfl
  | .pattern _ _ => rfl
  | .pure _ => rfl
  | .failWith _ => rfl
  | .raise _ => rfl
  | .eof => rfl
  | .rule _ => rfl
  | .custom _ => rfl
  | .trace _ => rfl
  | .lookAhead p => by rw [looseParser, looseParser_eq self p, parser]
  | .notFollowedBy p => by rw [looseParser, looseParser_eq self p, parser]
  | .sequence ps => by rw [looseParser, looseParsers_eq self ps, parser, Parts.list]
  | .times n p => by
    rw [looseParser, looseParser_eq self p, parser, Parser.count_eq_sequence, Parts.list]
  | .choice ps => by rw [looseParser, looseParsers_eq self ps, parser]
  | .many p => by rw [looseParser, looseParser_eq self p, parser, Parts.many]
  | .many1 p => by rw [looseParser, looseParser_eq self p, parser, Parts.many1_eq]
  | .sepBy1 p separator => by
    rw [looseParser, looseParser_eq self p, looseParser_eq self separator, parser, Parts.sepBy1_eq]
  | .bind p next => by
    rw [looseParser, looseParser_eq self p, parser]
    exact congrArg _ (funext fun value => looseParser_eq self (next value))
  | .map p f => by rw [looseParser, looseParser_eq self p, parser]
  | .label p message => by rw [looseParser, looseParser_eq self p, parser]
  | .logged tag p => by rw [looseParser, looseParser_eq self p, parser]
  | .traced name p => by rw [looseParser, looseParser_eq self p, parser]
  | .chainl1 _ p operator => by
    rw [looseParser, looseParser_eq self p, looseParser_eq self operator, parser, Parts.chainl1_eq]
  | .chainr1 _ p operator => by
    rw [looseParser, looseParser_eq self p, looseParser_eq self operator, parser, Parts.chainr1_eq]
  | .level _ before after left right single operand => by
    rw [looseParser, looseParsers_eq self before, looseParsers_eq self after,
      looseParsers_eq self left, looseParsers_eq self right, looseParsers_eq self single,
      looseParser_eq self operand, parser, Parts.level_eq]

theorem looseParsers_eq (self : String → Parser σ Value) :
    (ps : List Grammar) → looseParsers self ps = parsers self ps
  | [] => rfl
  | p :: ps => by rw [looseParsers, looseParser_eq self p, looseParsers_eq self ps, parsers]

end

end Grammar

def Rules.looseParser (rules : Rules) : String → Parser (Resolved rules) Value :=
  Parser.fix fun self name =>
    Parser.rule (rules.definition name) fun rule => rule.grammar.looseParser self

/-- The parser of a grammar, its parts in lists, as are those of the rules that it may use. -/
def Grammar.loosely (rules : Rules) (p : Grammar) : Parser (Resolved rules) Value :=
  p.looseParser rules.looseParser

theorem Rules.looseParser_eq (rules : Rules) : rules.looseParser = rules.parser := by
  have same : @Grammar.looseParser (Resolved rules) = Grammar.parser :=
    funext fun self => funext fun p => Grammar.looseParser_eq self p
  rw [looseParser, same]
  rfl

/-- Whether the parts are in lists or typed, the grammar has the same parser. -/
theorem Grammar.loosely_eq (rules : Rules) (p : Grammar) : p.loosely rules = p.meaning rules := by
  rw [loosely, looseParser_eq, rules.looseParser_eq, meaning]

/-- What stands between two others is the second part of three. -/
theorem Grammar.loosely_between (rules : Rules) (opening closing p : Grammar) :
    (between opening closing p).loosely rules =
      Parts.between (opening.loosely rules) (closing.loosely rules) (p.loosely rules) := by
  rw [Parts.between_eq, Parser.between, Parser.seqLeft, loosely, between, seqLeft, looseParser]
  refine congrArg _ (funext fun value => ?_)
  rw [as, looseParser, Parser.tryMap_ok]
  rfl

end Descent
