import Descent.Proofs.Chaining.Agreement
import Descent.Proofs.Faultless.Tame
import Descent.Proofs.Parts.Grammar
import Descent.Proofs.Repetition.Greedy

set_option autoImplicit false

namespace Descent

namespace Parser

variable {σ α β γ : Type} {text : Text} {pos stop : Int}

/-- At the place there is an operand, and after it a row of links up to a place where there is no
other link. -/
structure Chained (p : Parser σ α) (link : Parser σ β) (text : Text) (pos : Int) (first : α)
    (links : List β) (stop : Int) : Prop where
  row : ∃ between, p.Replies text pos (.success first between) ∧ link.Rounds text between links stop
  ended : ∃ refusal, link.Replies text stop (.failure refusal)

theorem Replies.gives {p : Parser σ α} {value : α} (low : 0 ≤ pos)
    (replies : p.Replies text pos (.success value stop)) : p.Gives text value := by
  obtain ⟨budget, reached, ran⟩ := replies.ran
  exact ⟨pos, budget, .fresh, stop, reached, low, ran⟩

/-- An operand and a repetition, of which something is made, reply with a success just if there are
the operand and the longest row of matches, and what is made of them is no fault. -/
theorem chained_replies_iff {p : Parser σ α} {link : Parser σ β}
    {fold : α → List β → Except Fault γ}
    (functional : p.Functional) (link_functional : link.Functional) {value : γ} :
    ((p.both link.many).tryMap fun parts => fold parts.1 parts.2).Replies text pos
        (.success value stop) ↔
      ∃ first between links, p.Replies text pos (.success first between) ∧
        link.Greedy text between links stop ∧ fold first links = .ok value := by
  have again := link_functional.many
  rw [both_tryMap, functional.bind_replies_iff fun first => again.tryMap (fold first)]
  constructor
  · intro parts
    obtain ⟨first, between, matched, rest⟩ := parts
    obtain ⟨links, taken, combined⟩ := again.tryMap_replies_iff.mp rest
    obtain ⟨_, _, same, greedy⟩ := link_functional.many_replies_iff.mp taken
    cases same
    exact ⟨first, between, links, matched, greedy, combined⟩
  · intro parts
    obtain ⟨first, between, links, matched, greedy, combined⟩ := parts
    exact ⟨first, between, matched, again.tryMap_replies_iff.mpr
      ⟨links, greedy.many link_functional.stable, combined⟩⟩

variable {p : Parser σ α} {operator : Binary σ α}

/-- Where the longest row of links ends there is no other link, because none stays where it began.
-/
theorem Links.chained_iff (links : Links text p operator) (low : 0 ≤ pos) (high : pos ≤ text.length)
    {first : α} {parts : List ((α → α → Except Fault α) × α)} :
    p.Chained (operator.both p) text pos first parts stop ↔
      ∃ between, p.Replies text pos (.success first between) ∧
        (operator.both p).Greedy text between parts stop := by
  constructor
  · intro chained
    obtain ⟨between, matched, rounds⟩ := chained.row
    obtain ⟨refusal, refused⟩ := chained.ended
    exact ⟨between, matched, rounds, .refused refusal refused⟩
  · intro row
    obtain ⟨between, matched, rounds, rests⟩ := row
    refine ⟨⟨between, matched, rounds⟩, ?_⟩
    cases rests with
    | refused refusal refused => exact ⟨refusal, refused⟩
    | stays value stays =>
      have onward : pos ≤ between ∧ between ≤ text.length :=
        matched.ensured (links.located text pos low high)
      have bound := rounds.length_le (links.operator_located.both links.located) (by omega) onward.2
      exact (stays.ensured (links.moves stop (by omega) bound.2) rfl).elim

/-- A chain succeeds just if there are operands with operators between them and combining them
raises no fault. -/
theorem Links.chain_replies_iff (links : Links text p operator) (functional : p.Functional)
    (operator_functional : operator.Functional) (low : 0 ≤ pos) (high : pos ≤ text.length)
    {fold : α → List ((α → α → Except Fault α) × α) → Except Fault α} {value : α} :
    ((p.chain operator).tryMap fun parts => fold parts.1 parts.2).Replies text pos
        (.success value stop) ↔
      ∃ first parts, p.Chained (operator.both p) text pos first parts stop ∧
        fold first parts = .ok value := by
  rw [chain, chained_replies_iff functional (operator_functional.both functional)]
  simp only [links.chained_iff low high]
  constructor
  · rintro ⟨first, between, parts, matched, greedy, combined⟩
    exact ⟨first, parts, ⟨between, matched, greedy⟩, combined⟩
  · rintro ⟨first, parts, ⟨between, matched, greedy⟩, combined⟩
    exact ⟨first, between, parts, matched, greedy, combined⟩

/-- The parts of a chain are operands of the kind, and operators that are total on it. -/
theorem Links.chained_linked (links : Links text p operator) {kind : α → Prop}
    (operands : ∀ value, p.Gives text value → kind value)
    (operators : ∀ f, operator.Gives text f → Total₂ kind kind f) (low : 0 ≤ pos)
    (high : pos ≤ text.length) {first : α} {parts : List ((α → α → Except Fault α) × α)}
    (chained : p.Chained (operator.both p) text pos first parts stop) :
    kind first ∧ Linked kind parts := by
  obtain ⟨between, matched, rounds⟩ := chained.row
  have onward : pos ≤ between ∧ between ≤ text.length :=
    matched.ensured (links.located text pos low high)
  refine ⟨operands first (matched.gives low), ?_⟩
  exact rounds.forall_mem (by omega) onward.2 fun pos low high =>
    links.ensures operands operators low high

theorem Gives.of_map {q : Parser σ β} {f : β → γ} {result : γ}
    (gives : (q.map f).Gives text result) : ∃ value, q.Gives text value ∧ f value = result := by
  obtain ⟨pos, budget, session, stop, reached, low, ran⟩ := gives
  obtain ⟨reply, later, started, ends⟩ := Action.done_of_bind ran
  cases reply with
  | failure refusal => cases ends
  | success value last =>
    cases ends
    exact ⟨value, ⟨pos, budget, session, _, _, low, started⟩, rfl⟩

end Parser

namespace Grammar

open Descent.Action (Agree Ensures)

def link (calls : Calls) (rules : Rules) (p operator : Grammar) :
    Parser (Resolved rules) ((Value → Value → Except Fault Value) × Value) :=
  (binary calls (operator.meaning rules)).both (p.meaning rules)

section

variable {calls : Calls} {rules : Rules} {p operator : Grammar} {text : Text}

theorem link_functional (calls : Calls) (rules : Rules) (p operator : Grammar) :
    (link calls rules p operator).Functional :=
  ((operator.meaning_functional rules).map _).both (p.meaning_functional rules)

/-- A link that never matches without consuming takes a character at least. -/
theorem links (library_rules : rules.Library) (library : p.Library)
    (library_operator : operator.Library)
    (moves : ∀ place : Int, 0 ≤ place → place ≤ text.length → ∀ parts,
      ¬ (link calls rules p operator).Replies text place (.success parts place)) :
    Parser.Links text (p.meaning rules) (binary calls (operator.meaning rules)) where
  stable := p.meaning_stable rules
  operator_stable := ((operator.meaning_functional rules).map _).stable
  located := library.meaning_located library_rules
  operator_located := (library_operator.meaning_located library_rules).map _
  moves := by
    intro place low high budget session reply reached ran stays
    have replies := (link_functional calls rules p operator).replies_of_ran ran
    cases reply with
    | success parts stop =>
      obtain rfl : stop = place := stays
      exact moves stop low high parts replies
    | failure refusal => exact stays

end

/-- The chains agree with their definitions by recursion, whatever calling an operator's value comes
to, if the calls raise no fault on what the grammar gives them and an operator with an operand after
it never matches without consuming. From every place of the text, each chain settles just where its
definition does, on the same success, failure or fault. Each of them reads an operand and the links
after it up to where there is no other link; the one combines them from the left, the other from the
right. So both consume the same, and an operator without an operand after it is not consumed. -/
theorem chains_recursive (calls : Calls) {rules : Rules} {p operator : Grammar}
    (library_rules : rules.Library) (library : p.Library) (library_operator : operator.Library)
    {text : Text} (kind : Value → Prop) (operands : ∀ value, p.Gives rules text value → kind value)
    (operators : ∀ f, operator.Gives rules text f → Parser.Total₂ kind kind (calls.two f))
    (moves : ∀ place : Int, 0 ≤ place → place ≤ text.length → ∀ parts,
      ¬ (link calls rules p operator).Replies text place (.success parts place))
    {pos : Int} (low : 0 ≤ pos) (high : pos ≤ text.length) :
    let left := (chainl1 calls p operator).loosely rules
    let right := (chainr1 calls p operator).loosely rules
    let operand := p.meaning rules
    let operation := binary calls (operator.meaning rules)
    Agree (left text pos) (operand.leftRecursive operation text pos) ∧
    Agree (right text pos) (operand.rightRecursive operation text pos) ∧
    (∀ value stop, left.Replies text pos (.success value stop) ↔
      ∃ first links, operand.Chained (link calls rules p operator) text pos first links stop ∧
        Parser.foldLeft first links = .ok value) ∧
    (∀ value stop, right.Replies text pos (.success value stop) ↔
      ∃ first links, operand.Chained (link calls rules p operator) text pos first links stop ∧
        Parser.foldRight first links = .ok value) ∧
    ∀ stop, (∃ value, left.Replies text pos (.success value stop)) ↔
      ∃ value, right.Replies text pos (.success value stop) := by
  intro left right operand operation
  have linking := links library_rules library library_operator moves
  have functional : operand.Functional := p.meaning_functional rules
  have operation_functional : operation.Functional := (operator.meaning_functional rules).map _
  have operations : ∀ f, operation.Gives text f → Parser.Total₂ kind kind f := by
    intro f gives
    obtain ⟨value, given, rfl⟩ := gives.of_map
    exact operators value given
  have left_eq : left = operand.chainl1 operation := loosely_eq rules _
  have right_eq : right = operand.chainr1 operation := loosely_eq rules _
  have left_replies value stop : left.Replies text pos (.success value stop) ↔
      ∃ first parts, operand.Chained (link calls rules p operator) text pos first parts stop ∧
        Parser.foldLeft first parts = .ok value := by
    rw [left_eq]
    exact linking.chain_replies_iff functional operation_functional low high
  have right_replies value stop : right.Replies text pos (.success value stop) ↔
      ∃ first parts, operand.Chained (link calls rules p operator) text pos first parts stop ∧
        Parser.foldRight first parts = .ok value := by
    rw [right_eq]
    exact linking.chain_replies_iff functional operation_functional low high
  refine ⟨?_, ?_, left_replies, right_replies, ?_⟩
  · rw [left_eq]
    exact linking.chainl1_agrees operands operations low high
  · rw [right_eq]
    exact linking.chainr1_agrees low high
  · intro stop
    simp only [left_replies, right_replies]
    constructor
    · rintro ⟨_, first, parts, chained, _⟩
      obtain ⟨kept, linked⟩ := linking.chained_linked operands operations low high chained
      obtain ⟨value, combined, _⟩ := Parser.foldRight_total kept linked
      exact ⟨value, first, parts, chained, combined⟩
    · rintro ⟨_, first, parts, chained, _⟩
      obtain ⟨kept, linked⟩ := linking.chained_linked operands operations low high chained
      obtain ⟨value, combined, _⟩ := Parser.foldLeft_total kept linked
      exact ⟨value, first, parts, chained, combined⟩

def term : Grammar :=
  .satisfy (some "term") (· != '-')

def minus : Grammar :=
  (Grammar.satisfy (some "-") (· == '-')).as (.node (.str "-"))

/-- A minus with a term after it never matches without consuming. -/
theorem minus_moves (text : Text) (place : Int) (low : 0 ≤ place) (high : place ≤ text.length)
    (parts : (Value → Value → Except Fault Value) × Value) :
    ¬ (link .ofFunctions .none term minus).Replies text place (.success parts place) := by
  intro replies
  have operator : Parser.Advances (binary .ofFunctions (minus.meaning .none)) False :=
    (((Parser.Advances.satisfy (some "-") (· == '-')).map _).tryMap _).map _
  have operand : Parser.Advances (term.meaning .none) False :=
    (Parser.Advances.satisfy (some "term") (· != '-')).map _
  exact (replies.ensured ((operator.both operand).idle text place low high) rfl).1

theorem minus_gives {text : Text} {f : Value} (gives : minus.Gives .none text f) :
    f = .node (.str "-") := by
  have plain :
      ((Grammar.satisfy (some "-") (· == '-')).meaning .none).Faultless text fun _ => True :=
    (Parser.Faultless.satisfy _ _).map fun _ _ => trivial
  exact (gives.of_faultless (plain.tryMap fun _ _ => ⟨.node (.str "-"), rfl, rfl⟩)).symm

/-- Of `a-b-c-` both chains take all but the last minus; the one groups to the left, the other to
the right. -/
theorem terms_chained :
    let text := Text.ofList ['a', '-', 'b', '-', 'c', '-']
    let node (x y : Value) := Value.list [.str "-", x, y]
    let operand := term.meaning .none
    let operation := binary .ofFunctions (minus.meaning .none)
    Agree ((chainl1 .ofFunctions term minus).loosely .none text 0)
      (operand.leftRecursive operation text 0) ∧
    Agree ((chainr1 .ofFunctions term minus).loosely .none text 0)
      (operand.rightRecursive operation text 0) ∧
    (∃ first links, operand.Chained (link .ofFunctions .none term minus) text 0 first links 5 ∧
      Parser.foldLeft first links = .ok (node (node (.str "a") (.str "b")) (.str "c"))) ∧
    (∃ first links, operand.Chained (link .ofFunctions .none term minus) text 0 first links 5 ∧
      Parser.foldRight first links = .ok (node (.str "a") (node (.str "b") (.str "c")))) ∧
    ∃ value, ((chainr1 .ofFunctions term minus).loosely .none).Replies text 0
      (.success value 5) := by
  intro text node operand operation
  have operators : ∀ f, minus.Gives .none text f →
      Parser.Total₂ (fun _ => True) (fun _ => True) (f.call2) := by
    rintro f gives x - y -
    rw [minus_gives gives]
    exact ⟨node x y, rfl, trivial⟩
  obtain ⟨left_agrees, right_agrees, left_replies, right_replies, same_stop⟩ :=
    chains_recursive .ofFunctions (nofun : Rules.none.Library) (.satisfy _ _)
      (.map _ (.satisfy _ _))
      (fun _ => True) (fun _ _ => trivial) operators (minus_moves text) (Int.le_refl 0) (by decide)
  have left_ran : ((chainl1 .ofFunctions term minus).loosely .none).Replies text 0
      (.success (node (node (.str "a") (.str "b")) (.str "c")) 5) := by
    rw [loosely_eq]
    exact ((chainl1 .ofFunctions term minus).meaning_functional .none).replies_of_ran
      (show (chainl1 .ofFunctions term minus).meaning .none text 0 9 .fresh = .done _ .fresh by rfl)
  have right_ran : ((chainr1 .ofFunctions term minus).loosely .none).Replies text 0
      (.success (node (.str "a") (node (.str "b") (.str "c"))) 5) := by
    rw [loosely_eq]
    exact ((chainr1 .ofFunctions term minus).meaning_functional .none).replies_of_ran
      (show (chainr1 .ofFunctions term minus).meaning .none text 0 9 .fresh = .done _ .fresh by rfl)
  exact ⟨left_agrees, right_agrees, (left_replies _ _).mp left_ran,
    (right_replies _ _).mp right_ran,
    (same_stop 5).mp ⟨_, left_ran⟩⟩

end Grammar

end Descent
