import Descent.Proofs.Calculator.Evaluating
import Descent.Proofs.Calculator.Tree
import Descent.Proofs.Table.Completeness

set_option autoImplicit false

namespace Descent.Calculator.Arithmetic

open Descent.Action (Comes Ensures)
open Descent.Parser (Accepts Evaluates Takes Tells)
open Descent.SignTable (Stops)

variable {text : Text} {i : Nat} {rest : List Token} {s t u : Sign}

/-- The parser of a phrase, given the parser of the sums inside parentheses. -/
def Phrase.parser (sum : Parser Empty Number) : Phrase → Parser Empty Number
  | .factor => Arithmetic.factor sum
  | .chain .product => Arithmetic.product sum
  | .chain .sum => sumBody sum

theorem Chain.parser_eq (kind : Chain) (sum : Parser Empty Number) :
    (Phrase.chain kind).parser sum =
      chained kind.first kind.second (kind.operand.parser sum) := by
  cases kind <;> rfl

theorem fold_eq_combined (first : Number) (links : List (Sign × Number)) :
    fold first links = combined first links := by
  induction links generalizing first with
  | nil => rfl
  | cons link links ih =>
    obtain ⟨s, operand⟩ := link
    show (s.apply first operand >>= fun value => fold value links) =
      s.apply first operand >>= fun value => combined value links
    simp only [ih]

theorem factor_eq (sum : Parser Empty Number) :
    factor sum =
      (Parser.between (Parser.symbol "(") (Parser.symbol ")") sum).orElse decimal :=
  Parser.choice_pair _ _

theorem oneSign_eq (s t : Sign) : oneSign s t = Parser.lexeme ((sign s).orElse (sign t)) := by
  rw [oneSign, Parser.choice_pair]

theorem sign_of_stands {later : List Char} (within : i ≤ text.length)
    (stands : text.remaining i = s.char :: later) :
    sign s text i = pure (.success s ((i + 1 : Nat) : Int)) := by
  rw [sign, s.text_eq]
  exact Parser.map_of_success _ (Parser.literal_of_sign within stands)

theorem sign_of_other (within : i ≤ text.length)
    (absent : ∀ later, text.remaining i ≠ s.char :: later) :
    sign s text i = pure (.failure (.leaf i (some (Parser.textLabel s.text)))) := by
  rw [sign, s.text_eq, Parser.map, Parser.literal_of_other within absent]
  rfl

/-- Of the parsers of two signs the one matches whose sign it is. -/
theorem orElse_of_sign {β : Type} {p : Sign → Parser Empty β} {x : β} {stop : Int}
    (joins : u = s ∨ u = t) (here : p u text i = pure (.success x stop))
    (others : ∀ v, v ≠ u → ∃ refusal, p v text i = pure (.failure refusal)) :
    (p s).orElse (p t) text i = pure (.success x stop) := by
  by_cases first : s = u
  · exact Parser.orElse_of_success (first ▸ here)
  · obtain ⟨refusal, refused⟩ := others s first
    obtain rfl := joins.resolve_left (Ne.symm first)
    exact Parser.orElse_of_failure refused here

theorem oneSign_of_sign (joins : u = s ∨ u = t) (within : i ≤ text.length)
    (next : text.tokens i = .sign u.char :: rest) :
    oneSign s t text i = pure (.success u (text.pastSign i)) := by
  obtain ⟨later, stands, _⟩ := Text.remaining_of_sign next
  have inside := (text.fresh_pastBlanks within).within
  rw [oneSign_eq]
  apply Parser.lexeme_of_success within _ (Text.pastSign_of_sign next).1
  apply orElse_of_sign joins (sign_of_stands inside stands)
  intro v other
  refine ⟨_, sign_of_other inside ?_⟩
  intro others stands'
  have same_char := (List.cons.inj (stands.symm.trans stands')).1
  exact other (Sign.char_injective same_char).symm

/-- Where neither of two signs comes next, what is reported last is that the second one does not. -/
theorem oneSign_of_other (within : i ≤ text.length)
    (absent : Stops [s.char, t.char] (text.tokens i)) :
    oneSign s t text i = pure (.failure ((Failure.leaf (text.pastBlanks i)
      (some (Parser.textLabel t.text))).anchor i)) := by
  have inside := (text.fresh_pastBlanks within).within
  have other : ∀ u : Sign, u.char ∈ [s.char, t.char] → sign u text (text.pastBlanks i) =
      pure (.failure (.leaf (text.pastBlanks i) (some (Parser.textLabel u.text)))) :=
    fun u listed => sign_of_other inside (Parser.absent_of_tokens u.not_blank u.not_digit
      fun others next => absent u.char others next listed)
  have second := Parser.orElse_of_failure (other s List.mem_cons_self)
    (other t (List.mem_cons_of_mem _ List.mem_cons_self))
  have last : (Failure.leaf (text.pastBlanks i) (some (Parser.textLabel t.text))).anchor
      (text.pastBlanks i) = .leaf (text.pastBlanks i) (some (Parser.textLabel t.text)) :=
    Failure.anchor_self _
  rw [Reply.anchor_failure, last] at second
  rw [oneSign_eq]
  exact Parser.lexeme_of_failure within second

/-- One of two signs comes next, or neither does. -/
theorem oneSign_cases (s t : Sign) (tokens : List Token) :
    (∃ u rest, (u = s ∨ u = t) ∧ tokens = .sign u.char :: rest) ∨
      Stops [s.char, t.char] tokens := by
  by_cases present : ∃ u rest, (u = s ∨ u = t) ∧ tokens = .sign u.char :: rest
  · exact .inl present
  · right
    rintro c others next listed
    rcases List.mem_pair.mp listed with rfl | rfl
    · exact present ⟨s, others, .inl rfl, next⟩
    · exact present ⟨t, others, .inr rfl, next⟩

theorem oneSign_refuses (within : i ≤ text.length)
    (absent : Stops [s.char, t.char] (text.tokens i)) : (oneSign s t).Tells text i none :=
  .of_refusal (oneSign_of_other within absent)

theorem oneSign_accepts (joins : u = s ∨ u = t) (within : i ≤ text.length)
    (next : text.tokens i = .sign u.char :: rest) : (oneSign s t).Accepts text i u rest := by
  obtain ⟨_, fresh, left⟩ := Text.pastSign_of_sign next
  exact .of_match (oneSign_of_sign joins within next) fresh left

theorem decimal_match {digits : List Char} (within : i ≤ text.length)
    (next : text.tokens i = .number digits :: rest) (short : digits.length ≤ Numeral.maxDigits) :
    ∃ j : Nat, decimal text i = pure (.success (.int (Numeral.asciiValue digits)) j) ∧
      text.Fresh j ∧ text.tokens j = rest := by
  apply Parser.numeral_match _ _ within next
  rw [Parser.evaluate_of_scan next short]
  rfl

theorem oneSign_extends {little more : Nat} (s t : Sign) :
    Parser.Extends little more (oneSign s t) (oneSign s t) := by
  have alternatives : List.Forall₂ (Parser.Extends little more) [sign s, sign t]
      [sign s, sign t] :=
    .cons ((Parser.literal_extends _).map _) (.cons ((Parser.literal_extends _).map _) .nil)
  exact (Parser.pattern_extends _ _).between (Parser.pattern_extends _ _)
    (Parser.Extends.choice alternatives)

theorem phrase_extends {little more : Nat} (enough : little ≤ more) {sum sum' : Parser Empty Number}
    (inner : Parser.Extends little more sum sum') (phrase : Phrase) :
    Parser.Extends little more (phrase.parser sum) (phrase.parser sum') := by
  have chained : ∀ s t {p p' : Parser Empty Number}, Parser.Extends little more p p' →
      Parser.Extends little more (chained s t p) (chained s t p') :=
    fun s t _ _ operand =>
      (operand.both (((oneSign_extends s t).both operand).many enough)).tryMap _
  have number : Parser.Extends little more decimal decimal :=
    (Parser.pattern_extends _ _).between (Parser.pattern_extends _ _)
      ((Parser.pattern_extends _ _).tryMap _)
  have factor : Parser.Extends little more (factor sum) (factor sum') := by
    rw [factor_eq, factor_eq]
    exact ((SignTable.symbol_extends "(").between (SignTable.symbol_extends ")") inner).orElse
      number
  match phrase with
  | .factor => exact factor
  | .chain .product => exact chained _ _ factor
  | .chain .sum => exact chained _ _ (chained _ _ factor)

theorem body_regular :
    Parser.Regular fun (self : Unit → Parser Empty Number) (_ : Unit) => sumBody (self ()) :=
  fun _ _ enough _ _ extended _ => phrase_extends enough (extended ()) (.chain .sum)

theorem expression_stable : expression.Stable :=
  Parser.fix_stable body_regular ()

theorem phrase_stable (phrase : Phrase) : (phrase.parser expression).Stable :=
  fun _ _ enough => phrase_extends enough (expression_stable _ _ enough) phrase

theorem link_stable (kind : Chain) :
    ((oneSign kind.first kind.second).both (kind.operand.parser expression)).Stable :=
  fun _ _ enough => (oneSign_extends _ _).both (phrase_stable kind.operand _ _ enough)

theorem Links.stops {kind : Chain} (links : Links kind)
    (stops : Stops (Phrase.chain kind).signs rest) :
    Stops kind.operand.signs (links.tokens ++ rest) := by
  cases links with
  | nil =>
    rw [Chain.signs_eq] at stops
    exact stops.left
  | cons s joins operand links => exact Stops.sign joins.fresh _

mutual

theorem Tree.evaluates (short : text.ShortNumbers) {phrase : Phrase} {i : Nat} {rest : List Token}
    (within : i ≤ text.length) : (t : Tree phrase) → text.tokens i = t.tokens ++ rest →
      Stops phrase.signs rest → (phrase.parser expression).Evaluates text i t.value rest
  | .number digits nonempty ascii, next, _ => by
    have refuses := Parser.symbol_refuses (σ := Empty)
      (show isBlank '(' = false by decide) (by decide) within
      fun others same => by
        rw [next] at same
        cases same
    obtain ⟨j, replies, fresh, left⟩ := decimal_match within next (short i digits rest next)
    show (factor expression).Evaluates text i _ rest
    rw [factor_eq]
    apply Evaluates.orElse_right refuses.bind_refuses.bind_refuses
    exact (Accepts.of_match replies fresh left).evaluates
  | .parentheses inner, next, _ => by
    have closing : Stops (Phrase.chain .sum).signs (.sign ')' :: rest) := .sign (by decide) rest
    rw [Tree.tokens, List.cons_append, List.append_assoc] at next
    show (factor expression).Evaluates text i _ rest
    rw [factor_eq]
    apply Evaluates.orElse_left
    apply Evaluates.between within next
    intro j inside left
    exact Parser.comes_fix body_regular (inner.evaluates short inside left closing)
  | @Tree.chain kind first links, next, stops => by
    rw [Tree.tokens, List.append_assoc] at next
    have operand := first.evaluates short within next (links.stops stops)
    have parts := operand.both fun j inside left => links.evaluates short inside left stops
    have folded := parts.tryMap fun (x, values) => fold x values
    have value : (Tree.chain first links).value =
        (do return (← first.value, ← links.values)) >>= fun (x, values) => fold x values := by
      simp only [Tree.value, bind_assoc, pure_bind, fold_eq_combined]
    rw [Chain.parser_eq, value]
    exact folded

theorem Links.evaluates (short : text.ShortNumbers) {kind : Chain} {i : Nat} {rest : List Token}
    (within : i ≤ text.length) : (links : Links kind) → text.tokens i = links.tokens ++ rest →
      Stops (Phrase.chain kind).signs rest →
      ((oneSign kind.first kind.second).both (kind.operand.parser expression)).many.Evaluates text i
        links.values rest
  | .nil, next, stops => by
    rw [Links.tokens, List.nil_append] at next
    rw [Chain.signs_eq, ← next] at stops
    have refuses : ((oneSign kind.first kind.second).both
        (kind.operand.parser expression)).Tells text i none :=
      (oneSign_refuses within stops.right).bind_refuses
    have ended := (Accepts.many_end (link_stable kind) within refuses).evaluates
    rw [next] at ended
    exact ended
  | .cons s joins operand links, next, stops => by
    rw [Links.tokens, List.cons_append, List.append_assoc] at next
    have sign := (oneSign_accepts joins within next).evaluates
    have link := sign.both fun j inside left =>
      operand.evaluates short inside left (links.stops stops)
    have values : (Links.cons s joins operand links).values = (do
        let link ← (do return (← Except.ok s, ← operand.value) : Except Fault (Sign × Number))
        return link :: (← links.values)) := by
      rw [Links.values]
      cases operand.value <;> rfl
    rw [values]
    apply Evaluates.many_next (link_stable kind) link
    -- a round that takes nothing would be the last, but each link has its sign
    · intro same
      have lengths := congrArg List.length (same.trans next)
      simp only [List.length_cons, List.length_append] at lengths
      omega
    · intro j inside left
      exact links.evaluates short inside left stops

end

end Descent.Calculator.Arithmetic
