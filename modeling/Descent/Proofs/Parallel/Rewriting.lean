import Descent.Proofs.Parallel.Grammar

set_option autoImplicit false

namespace Descent

/-- What becomes of the labels and the traces in a grammar. -/
structure Rewriting where
  label : String → Grammar → Grammar
  traced : String → Grammar → Grammar

namespace Grammar

mutual

/-- The grammar with each label and each trace in it rewritten, at any depth. -/
def rewritten (rewriting : Rewriting) : Grammar → Grammar
  | .lookAhead p => .lookAhead (p.rewritten rewriting)
  | .notFollowedBy p => .notFollowedBy (p.rewritten rewriting)
  | .sequence ps => .sequence (rewrittenAll rewriting ps)
  | .times n p => .times n (p.rewritten rewriting)
  | .choice ps => .choice (rewrittenAll rewriting ps)
  | .many p => .many (p.rewritten rewriting)
  | .many1 p => .many1 (p.rewritten rewriting)
  | .sepBy1 p separator => .sepBy1 (p.rewritten rewriting) (separator.rewritten rewriting)
  | .bind p next => .bind (p.rewritten rewriting) fun value => (next value).rewritten rewriting
  | .map p f => .map (p.rewritten rewriting) f
  | .label p message => rewriting.label message (p.rewritten rewriting)
  | .logged tag p => .logged tag (p.rewritten rewriting)
  | .traced name p => rewriting.traced name (p.rewritten rewriting)
  | .chainl1 calls p operator =>
    .chainl1 calls (p.rewritten rewriting) (operator.rewritten rewriting)
  | .chainr1 calls p operator =>
    .chainr1 calls (p.rewritten rewriting) (operator.rewritten rewriting)
  | .level calls before after left right single operand =>
    .level calls (rewrittenAll rewriting before) (rewrittenAll rewriting after)
      (rewrittenAll rewriting left) (rewrittenAll rewriting right)
      (rewrittenAll rewriting single) (operand.rewritten rewriting)
  | p => p

def rewrittenAll (rewriting : Rewriting) : List Grammar → List Grammar
  | [] => []
  | p :: ps => p.rewritten rewriting :: rewrittenAll rewriting ps

end

theorem rewrittenAll_eq_map (rewriting : Rewriting) (ps : List Grammar) :
    rewrittenAll rewriting ps = ps.map (rewritten rewriting) := by
  induction ps with
  | nil => rfl
  | cons p ps ih => rw [rewrittenAll, List.map_cons, ih]

end Grammar

def Rules.rewritten (rewriting : Rewriting) (rules : Rules) : Rules :=
  fun name => (rules name).map (Grammar.rewritten rewriting)

def Resolved.rewritten {rules : Rules} (rewriting : Rewriting) (rule : Resolved rules) :
    Resolved (rules.rewritten rewriting) where
  name := rule.name
  grammar := rule.grammar.rewritten rewriting
  built := by rw [Rules.rewritten, rule.built]; rfl

def Session.rewritten {rules : Rules} (rewriting : Rewriting) (session : Session (Resolved rules)) :
    Session (Resolved (rules.rewritten rewriting)) :=
  ⟨session.stored.map (Resolved.rewritten rewriting), session.events⟩

theorem Session.rewritten_built {rules : Rules} (rewriting : Rewriting) (rule : Resolved rules)
    (session : Session (Resolved rules)) :
    (session.built (rules.definition rule.name) rule).rewritten rewriting =
      (session.rewritten rewriting).built ((rules.rewritten rewriting).definition rule.name)
        (rule.rewritten rewriting) := by
  have found : (session.rewritten rewriting).find?
      ((rules.rewritten rewriting).definition rule.name) =
        (session.find? (rules.definition rule.name)).map (Resolved.rewritten rewriting) :=
    List.find?_map
  rw [built, built, found]
  cases session.find? (rules.definition rule.name) <;> rfl

def Outcome.rewritten {α : Type} {rules : Rules} (rewriting : Rewriting) :
    Outcome (Resolved rules) α → Outcome (Resolved (rules.rewritten rewriting)) α
  | .done value session => .done value (session.rewritten rewriting)
  | .stopped reason session => .stopped reason (session.rewritten rewriting)

namespace Parallel

section

variable {σ τ : Type} {par : Parallel σ τ} {place : Int → Prop} {self : String → Parser σ Value}
  {self' : String → Parser τ Value} {rewriting : Rewriting}

/-- The two runs cannot tell a label or a trace from what becomes of it. -/
structure Rewrites (par : Parallel σ τ) (place : Int → Prop) (rewriting : Rewriting) : Prop where
  label : ∀ message (p q : Grammar) self self', par.Alike place (p.parser self) (q.parser self') →
    par.Alike place ((p.label message).parser self) ((rewriting.label message q).parser self')
  traced : ∀ name (p q : Grammar) self self', par.Alike place (p.parser self) (q.parser self') →
    par.Alike place ((p.traced name).parser self) ((rewriting.traced name q).parser self')

theorem rewrittenAll_alike {ps : List Grammar}
    (each : ∀ p ∈ ps, par.Alike place (p.parser self) ((p.rewritten rewriting).parser self')) :
    par.AllAlike place (Grammar.parsers self ps)
      (Grammar.parsers self' (Grammar.rewrittenAll rewriting ps)) := by
  rw [Grammar.parsers_eq_map, Grammar.parsers_eq_map, Grammar.rewrittenAll_eq_map, AllAlike,
    List.forall₂_map_left_iff, List.forall₂_map_right_iff, List.forall₂_map_right_iff,
    List.forall₂_same]
  exact each

/-- One case for each way to combine grammars. -/
theorem Parts.rewritten (parts : par.Parts place Grammar.Primitive)
    (rewrites : par.Rewrites place rewriting)
    (rules : ∀ name, par.Alike place (self name) (self' name)) (p : Grammar) :
    par.Alike place (p.parser self) ((p.rewritten rewriting).parser self') := by
  have uniform := parts.uniform
  induction p.builtFrom_primitive with
  | @part p primitive =>
    have same : p.rewritten rewriting = p := by
      cases primitive <;> rfl
    rw [same]
    exact parts.alike p primitive self self'
  | rule name => exact rules name
  | lookAhead _ inner => exact inner.lookAhead
  | notFollowedBy _ inner => exact (Alike.notFollowedBy uniform inner).map _
  | sequence _ inner => exact (Alike.sequence (rewrittenAll_alike inner)).map _
  | times n _ inner => exact (Alike.count n inner).map _
  | choice _ inner => exact Alike.choice uniform (rewrittenAll_alike inner)
  | many _ inner => exact (Alike.many inner).map _
  | many1 _ inner => exact (Alike.many1 inner).map _
  | sepBy1 _ _ inner outer => exact (Alike.sepBy1 inner outer).map _
  | bind _ _ first rest => exact Alike.bind first rest
  | map f _ inner => exact Alike.tryMap uniform f inner
  | label message _ inner => exact rewrites.label message _ _ self self' inner
  | logged tag _ inner => exact Alike.logged uniform tag inner
  | traced name _ _ _ inner => exact rewrites.traced name _ _ self self' inner
  | chainl1 _ _ operand between => exact Alike.chainl1 uniform operand (Alike.map _ between)
  | chainr1 _ _ operand between => exact Alike.chainr1 uniform operand (Alike.map _ between)
  | level _ _ _ _ _ _ before after left right single operand =>
    exact Alike.level uniform (mapped_alike _ (rewrittenAll_alike before))
      (mapped_alike _ (rewrittenAll_alike after)) (mapped_alike _ (rewrittenAll_alike left))
      (mapped_alike _ (rewrittenAll_alike right)) (mapped_alike _ (rewrittenAll_alike single))
      operand

end

/-- A grammar with its rules and the rewritten grammar with the rewritten rules are alike. -/
theorem Parts.rewritten_meaning {rules : Rules} {rewriting : Rewriting}
    {par : Parallel (Resolved rules) (Resolved (rules.rewritten rewriting))} {place : Int → Prop}
    (parts : par.Parts place Grammar.Primitive) (rewrites : par.Rewrites place rewriting)
    (forces : ∀ s t (rule : Resolved rules), par.sessions s t →
      par.sessions (s.built (rules.definition rule.name) rule)
        (t.built ((rules.rewritten rewriting).definition rule.name) (rule.rewritten rewriting)))
    (tries : ∀ s t name fault, par.sessions s t →
      par.stops fault (s.record (.forced name)) fault (t.record (.forced name)))
    (p : Grammar) :
    par.Alike place (p.meaning rules)
      ((p.rewritten rewriting).meaning (rules.rewritten rewriting)) := by
  apply parts.rewritten rewrites
  apply Parsers.fix
  intro self self' together name
  cases defined : rules name with
  | ok p =>
    let rule : Resolved rules := ⟨name, p, defined⟩
    exact Alike.rule (Rules.build_of_ok rule.built)
      (Rules.build_of_ok (rule.rewritten rewriting).built)
      (fun s t => forces s t rule) (parts.rewritten rewrites together p)
  | error fault =>
    have failed : rules.rewritten rewriting name = .error fault := by
      rw [Rules.rewritten, defined]
      rfl
    exact Alike.rule_error (Rules.build_of_error defined) (Rules.build_of_error failed)
      fun s t => tries s t name fault

end Parallel

end Descent
