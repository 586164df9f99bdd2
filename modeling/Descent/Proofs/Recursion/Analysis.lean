import Descent.Grammar.Meaning

set_option autoImplicit false

namespace Descent

namespace Grammar

inductive Nullable (rules : Rules) : Grammar → Prop where
  | literal : Nullable rules (.literal "")
  | pattern (expected : String) {p : Pattern} {text : Text} {i : Nat} (within : i ≤ text.length)
      (empty : p.matchEnd? text i = some i) : Nullable rules (.pattern expected p)
  | pure (value : Value) : Nullable rules (.pure value)
  | eof : Nullable rules .eof
  | rule {name : String} {p : Grammar} (defined : rules name = .ok p) (body : Nullable rules p) :
      Nullable rules (.rule name)
  | lookAhead (p : Grammar) : Nullable rules (.lookAhead p)
  | notFollowedBy (p : Grammar) : Nullable rules (.notFollowedBy p)
  | sequence {ps : List Grammar} (parts : ∀ p ∈ ps, Nullable rules p) :
      Nullable rules (.sequence ps)
  | times_zero (p : Grammar) : Nullable rules (.times 0 p)
  | times (n : Nat) {p : Grammar} (inner : Nullable rules p) : Nullable rules (.times n p)
  | choice {ps : List Grammar} {p : Grammar} (member : p ∈ ps) (inner : Nullable rules p) :
      Nullable rules (.choice ps)
  | many (p : Grammar) : Nullable rules (.many p)
  | many1 {p : Grammar} (inner : Nullable rules p) : Nullable rules (.many1 p)
  | sepBy1 {p : Grammar} (separator : Grammar) (inner : Nullable rules p) :
      Nullable rules (.sepBy1 p separator)
  | bind {p : Grammar} {next : Value → Grammar} (value : Value) (first : Nullable rules p)
      (rest : Nullable rules (next value)) : Nullable rules (.bind p next)
  | map {p : Grammar} (f : Value → Except Fault Value) (inner : Nullable rules p) :
      Nullable rules (.map p f)
  | label {p : Grammar} (message : String) (inner : Nullable rules p) :
      Nullable rules (.label p message)
  | logged (tag : String) {p : Grammar} (inner : Nullable rules p) :
      Nullable rules (.logged tag p)
  | trace (name : String) : Nullable rules (.trace name)
  | traced (name : String) {p : Grammar} (inner : Nullable rules p) :
      Nullable rules (.traced name p)
  | chainl1 {calls : Calls} {p : Grammar} (operator : Grammar) (operand : Nullable rules p) :
      Nullable rules (.chainl1 calls p operator)
  | chainr1 {calls : Calls} {p : Grammar} (operator : Grammar) (operand : Nullable rules p) :
      Nullable rules (.chainr1 calls p operator)
  | level {calls : Calls} (before after left right single : List Grammar) {operand : Grammar}
      (inner : Nullable rules operand) :
      Nullable rules (.level calls before after left right single operand)

/-- The grammar may come to the rule of this name without having consumed anything. -/
inductive Leads (rules : Rules) : Grammar → String → Prop where
  | rule (name : String) : Leads rules (.rule name) name
  | lookAhead {p : Grammar} {name : String} (inner : Leads rules p name) :
      Leads rules (.lookAhead p) name
  | notFollowedBy {p : Grammar} {name : String} (inner : Leads rules p name) :
      Leads rules (.notFollowedBy p) name
  | sequence_first {p : Grammar} {ps : List Grammar} {name : String}
      (first : Leads rules p name) : Leads rules (.sequence (p :: ps)) name
  | sequence_rest {p : Grammar} {ps : List Grammar} {name : String} (passed : Nullable rules p)
      (rest : Leads rules (.sequence ps) name) : Leads rules (.sequence (p :: ps)) name
  | times {n : Nat} {p : Grammar} {name : String} (some : n ≠ 0) (inner : Leads rules p name) :
      Leads rules (.times n p) name
  | choice {ps : List Grammar} {p : Grammar} {name : String} (member : p ∈ ps)
      (inner : Leads rules p name) : Leads rules (.choice ps) name
  | many {p : Grammar} {name : String} (inner : Leads rules p name) : Leads rules (.many p) name
  | many1 {p : Grammar} {name : String} (inner : Leads rules p name) : Leads rules (.many1 p) name
  | sepBy1_first {p separator : Grammar} {name : String} (inner : Leads rules p name) :
      Leads rules (.sepBy1 p separator) name
  | sepBy1_rest {p separator : Grammar} {name : String} (passed : Nullable rules p)
      (outer : Leads rules separator name) : Leads rules (.sepBy1 p separator) name
  | bind_first {p : Grammar} {next : Value → Grammar} {name : String}
      (first : Leads rules p name) : Leads rules (.bind p next) name
  | bind_rest {p : Grammar} {next : Value → Grammar} {name : String} (value : Value)
      (passed : Nullable rules p) (rest : Leads rules (next value) name) :
      Leads rules (.bind p next) name
  | map {p : Grammar} {f : Value → Except Fault Value} {name : String}
      (inner : Leads rules p name) : Leads rules (.map p f) name
  | label {p : Grammar} {message : String} {name : String} (inner : Leads rules p name) :
      Leads rules (.label p message) name
  | logged {tag : String} {p : Grammar} {name : String} (inner : Leads rules p name) :
      Leads rules (.logged tag p) name
  | traced {tag : String} {p : Grammar} {name : String} (inner : Leads rules p name) :
      Leads rules (.traced tag p) name
  | chainl1_operand {calls : Calls} {p operator : Grammar} {name : String}
      (operand : Leads rules p name) :
      Leads rules (.chainl1 calls p operator) name
  | chainl1_operator {calls : Calls} {p operator : Grammar} {name : String}
      (passed : Nullable rules p)
      (between : Leads rules operator name) : Leads rules (.chainl1 calls p operator) name
  | chainr1_operand {calls : Calls} {p operator : Grammar} {name : String}
      (operand : Leads rules p name) :
      Leads rules (.chainr1 calls p operator) name
  | chainr1_operator {calls : Calls} {p operator : Grammar} {name : String}
      (passed : Nullable rules p)
      (between : Leads rules operator name) : Leads rules (.chainr1 calls p operator) name
  | level_before {calls : Calls} {before after left right single : List Grammar}
      {operand p : Grammar}
      {name : String} (member : p ∈ before) (inner : Leads rules p name) :
      Leads rules (.level calls before after left right single operand) name
  | level_operand {calls : Calls} {before after left right single : List Grammar}
      {operand : Grammar}
      {name : String} (inner : Leads rules operand name) :
      Leads rules (.level calls before after left right single operand) name
  | level_operator {calls : Calls} {before after left right single : List Grammar}
      {operand p : Grammar}
      {name : String} (passed : Nullable rules operand)
      (member : p ∈ after ++ left ++ right ++ single) (inner : Leads rules p name) :
      Leads rules (.level calls before after left right single operand) name

end Grammar

def Rules.Leads (rules : Rules) (name other : String) : Prop :=
  ∃ p, rules name = .ok p ∧ p.Leads rules other

end Descent
