import Descent.Grammar.Meaning

set_option autoImplicit false

namespace Descent

variable {σ : Type}

/-- The grammar holds no hand-written parser. -/
inductive Grammar.Library : Grammar → Prop where
  | literal (s : String) : Library (.literal s)
  | satisfy (expected : Option String) (accepts : Char → Bool) :
      Library (.satisfy expected accepts)
  | pattern (expected : String) (p : Pattern) : Library (.pattern expected p)
  | pure (value : Value) : Library (.pure value)
  | failWith (expected : Option String) : Library (.failWith expected)
  | raise (fault : Fault) : Library (.raise fault)
  | eof : Library .eof
  | rule (name : String) : Library (.rule name)
  | lookAhead {p : Grammar} (inner : Library p) : Library (.lookAhead p)
  | notFollowedBy {p : Grammar} (inner : Library p) : Library (.notFollowedBy p)
  | sequence {ps : List Grammar} (parts : ∀ p ∈ ps, Library p) : Library (.sequence ps)
  | times (n : Nat) {p : Grammar} (inner : Library p) : Library (.times n p)
  | choice {ps : List Grammar} (parts : ∀ p ∈ ps, Library p) : Library (.choice ps)
  | many {p : Grammar} (inner : Library p) : Library (.many p)
  | many1 {p : Grammar} (inner : Library p) : Library (.many1 p)
  | sepBy1 {p separator : Grammar} (inner : Library p) (outer : Library separator) :
      Library (.sepBy1 p separator)
  | bind {p : Grammar} {next : Value → Grammar} (first : Library p)
      (rest : ∀ value, Library (next value)) : Library (.bind p next)
  | map {p : Grammar} (f : Value → Except Fault Value) (inner : Library p) : Library (.map p f)
  | label {p : Grammar} (message : String) (inner : Library p) : Library (.label p message)
  | logged (tag : String) {p : Grammar} (inner : Library p) : Library (.logged tag p)
  | trace (name : String) : Library (.trace name)
  | traced (name : String) {p : Grammar} (inner : Library p) : Library (.traced name p)
  | chainl1 {calls : Calls} {p operator : Grammar} (operand : Library p)
      (between : Library operator) :
      Library (.chainl1 calls p operator)
  | chainr1 {calls : Calls} {p operator : Grammar} (operand : Library p)
      (between : Library operator) :
      Library (.chainr1 calls p operator)
  | level {calls : Calls} {before after left right single : List Grammar} {operand : Grammar}
      (in_before : ∀ p ∈ before, Library p) (in_after : ∀ p ∈ after, Library p)
      (in_left : ∀ p ∈ left, Library p) (in_right : ∀ p ∈ right, Library p)
      (in_single : ∀ p ∈ single, Library p) (inner : Library operand) :
      Library (.level calls before after left right single operand)

def Rules.Library (rules : Rules) : Prop :=
  ∀ name p, rules name = .ok p → p.Library

theorem Grammar.parsers_eq_map (self : String → Parser σ Value) (ps : List Grammar) :
    parsers self ps = ps.map (parser self) := by
  induction ps with
  | nil => rfl
  | cons p ps ih => rw [parsers, List.map_cons, ih]

/-- What holds of the parser of each grammar of a list holds of each of the list's parsers. -/
theorem Grammar.forall_mem_parsers {self : String → Parser σ Value} {ps : List Grammar}
    {good : Parser σ Value → Prop} (each : ∀ p ∈ ps, good (p.parser self)) :
    ∀ q ∈ parsers self ps, good q := by
  rw [parsers_eq_map]
  intro q member
  obtain ⟨p, inside, rfl⟩ := List.mem_map.mp member
  exact each p inside

/-- What holds of the operation on one operand that each grammar of a list yields holds of each of
the list's operations. -/
theorem Grammar.forall_mem_unaries {calls : Calls} {self : String → Parser σ Value}
    {ps : List Grammar}
    {good : Parser.Unary σ Value → Prop} (each : ∀ p ∈ ps, good (unary calls (p.parser self))) :
    ∀ q ∈ (parsers self ps).map (unary calls), good q := by
  intro q member
  obtain ⟨p, inside, rfl⟩ := List.mem_map.mp member
  exact @forall_mem_parsers σ self ps (fun p => good (unary calls p)) each p inside

theorem Grammar.forall_mem_binaries {calls : Calls} {self : String → Parser σ Value}
    {ps : List Grammar}
    {good : Parser.Binary σ Value → Prop} (each : ∀ p ∈ ps, good (binary calls (p.parser self))) :
    ∀ q ∈ (parsers self ps).map (binary calls), good q := by
  intro q member
  obtain ⟨p, inside, rfl⟩ := List.mem_map.mp member
  exact @forall_mem_parsers σ self ps (fun p => good (binary calls p)) each p inside

namespace Grammar

/-- Letters `a`, as many as there are, and the letter `b` after them. -/
def word : Grammar :=
  .choice [.satisfy (some "b") (· == 'b'),
    .sequence [.satisfy (some "a") (· == 'a'), .rule "word"]]

theorem word_library : word.Library := by
  have step : (Grammar.sequence [.satisfy (some "a") (· == 'a'), .rule "word"]).Library :=
    .sequence (List.forall_mem_cons.mpr ⟨.satisfy _ _, List.forall_mem_singleton.mpr (.rule _)⟩)
  exact .choice (List.forall_mem_cons.mpr ⟨.satisfy _ _, List.forall_mem_singleton.mpr step⟩)

end Grammar

namespace Rules

def words : Rules :=
  ofList [("word", .ok Grammar.word)]

def wordRule : Resolved words :=
  ⟨"word", Grammar.word, rfl⟩

theorem words_eq_ok {name : String} {p : Grammar} (defined : words name = .ok p) :
    name = "word" ∧ p = Grammar.word := by
  by_cases same : name = "word"
  · subst same
    cases defined
    exact ⟨rfl, rfl⟩
  · have missing : (name == "word") = false := beq_eq_false_iff_ne.mpr same
    rw [words, ofList, List.lookup_cons, missing] at defined
    cases defined

theorem words_library : words.Library := by
  intro name p defined
  rw [(words_eq_ok defined).2]
  exact Grammar.word_library

end Rules

end Descent
