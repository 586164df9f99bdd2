import Descent.Pattern.Match

set_option autoImplicit false

namespace Descent.Pattern

/-- If the search succeeds, it does so by what is left to match from some place between the two
bounds. -/
def Found.From (low high : Nat) (rest : Rest) (found : Found) : Prop :=
  ∀ trail after, found = (some trail, after) →
    ∃ next memory, low ≤ next.place ∧ next.place ≤ high ∧ rest next memory = (some trail, after)

namespace Found.From

variable {low high : Nat} {rest : Rest}

theorem failure (memory : Memory) : From low high rest (Found.failure memory) := by
  intro trail after found
  cases found

theorem here {next : Trail} (memory : Memory) (lower : low ≤ next.place)
    (upper : next.place ≤ high) : From low high rest (rest next memory) :=
  fun _ _ found => ⟨next, memory, lower, upper, found⟩

theorem orElse {first : Found} {second : Memory → Found} (one : From low high rest first)
    (two : ∀ memory, From low high rest (second memory)) :
    From low high rest (first.orElse second) := by
  obtain ⟨result, memory⟩ := first
  cases result with
  | none => exact two memory
  | some trail => exact one

theorem enter {memory : Memory} {passing : Bool} {junction : Junction} {go : Memory → Found}
    (goes : ∀ memory, From low high rest (go memory)) :
    From low high rest (memory.enter passing junction go) := by
  unfold Memory.enter
  split
  · exact goes memory
  · split
    · exact failure memory
    · split
      · exact failure _
      · rename_i trail after reached
        intro found later same
        exact goes memory found later (reached.trans same)

theorem trans {middle : Rest} {found : Found} (first : From low high middle found)
    (second : ∀ next memory, low ≤ next.place → next.place ≤ high →
      From low high rest (middle next memory)) : From low high rest found := by
  intro trail after same
  obtain ⟨next, memory, lower, upper, reached⟩ := first trail after same
  exact second next memory lower upper trail after reached

theorem mono {lower : Nat} {found : Found} (starts : From low high rest found)
    (below : lower ≤ low) : From lower high rest found := by
  intro trail after same
  obtain ⟨next, memory, bound, upper, reached⟩ := starts trail after same
  exact ⟨next, memory, by omega, upper, reached⟩

end Found.From

open Found (From)

/-- The step hands on trails that stand between where it began and the end. -/
def Step.Forward (high : Nat) (step : Step) : Prop :=
  ∀ trail rest memory, trail.place ≤ high → From trail.place high rest (step trail rest memory)

namespace Step.Forward

variable {text : Text} {high : Nat}

theorem one (text : Text) (set : CharSet) : Forward text.length (Step.one text set) := by
  intro trail rest memory _
  unfold Step.one
  split
  · rename_i c present
    have inside : trail.place < text.length := (Array.getElem?_eq_some_iff.mp present).1
    split
    · exact From.here memory (Nat.le_succ _) inside
    · exact From.failure memory
  · exact From.failure memory

theorem andThen {passing : Bool} {first second : Step} (goes : Forward high first)
    (ends : Forward high second) : Forward high (Step.andThen passing first second) := by
  intro trail rest memory within
  apply (goes trail _ _ within).trans
  intro next memory lower upper
  exact From.enter fun memory => (ends next rest memory upper).mono lower

theorem either {first second : Step} (one : Forward high first) (two : Forward high second) :
    Forward high (Step.either first second) := by
  intro trail rest memory within
  exact (one trail rest memory within).orElse fun memory => two trail rest memory within

theorem le_runEnd (text : Text) (set : CharSet) (limit index : Nat) :
    index ≤ runEnd text set limit index := by
  induction limit generalizing index with
  | zero => exact Nat.le_refl _
  | succ limit ih =>
    unfold runEnd
    split
    · split
      · exact Nat.le_trans (Nat.le_succ _) (ih (index + 1))
      · exact Nat.le_refl _
    · exact Nat.le_refl _

theorem runEnd_le_length (text : Text) (set : CharSet) (limit index : Nat)
    (within : index ≤ text.length) : runEnd text set limit index ≤ text.length := by
  induction limit generalizing index with
  | zero => exact within
  | succ limit ih =>
    unfold runEnd
    split
    · rename_i c present
      have inside : index < text.length := (Array.getElem?_eq_some_iff.mp present).1
      split
      · exact ih (index + 1) inside
      · exact within
    · exact within

theorem lastFirst (index : Nat) (trail : Trail) (rest : Rest) (spare : Nat) (memory : Memory)
    (lower : trail.place ≤ index) (upper : index + spare ≤ high) :
    From trail.place high rest (Step.lastFirst index trail rest spare memory) := by
  induction spare generalizing memory with
  | zero => exact From.here memory lower upper
  | succ spare ih =>
    refine From.orElse (From.here memory ?_ upper) fun memory => ih memory (by omega)
    exact Nat.le_add_right_of_le lower

theorem firstFirst (text : Text) (set : CharSet) (trail : Trail) (rest : Rest)
    (spare index : Nat) (memory : Memory) (lower : trail.place ≤ index)
    (upper : index ≤ text.length) :
    From trail.place text.length rest (Step.firstFirst text set trail rest spare index memory) := by
  induction spare generalizing index memory with
  | zero => exact From.here memory lower upper
  | succ spare ih =>
    refine From.orElse (From.here memory lower upper) fun memory => ?_
    split
    · rename_i present
      obtain ⟨c, found, _⟩ := (Option.any_eq_true _ _).mp present
      have inside : index < text.length := (Array.getElem?_eq_some_iff.mp found).1
      exact ih (index + 1) memory (by omega) inside
    · exact From.failure memory

theorem run (text : Text) (set : CharSet) (greedy : Bool) (least : Nat) (most : Option Nat) :
    Forward text.length (Step.run text set greedy least most) := by
  intro trail rest memory within
  unfold Step.run
  dsimp only
  split
  · exact From.failure memory
  · rename_i enough
    have owed := runEnd_le_length text set least trail.place within
    have inside : trail.place + least ≤ text.length := by omega
    split
    · apply lastFirst _ trail rest _ memory (Nat.le_add_right _ _)
      have past := runEnd_le_length text set
        (spareRounds least most (text.length - (trail.place + least))) _ inside
      have start := le_runEnd text set
        (spareRounds least most (text.length - (trail.place + least))) (trail.place + least)
      omega
    · exact firstFirst text set trail rest _ _ memory (Nat.le_add_right _ _) inside

theorem times (passing : Bool) (site : Nat) {step : Step} (goes : Forward high step) (n : Nat) :
    Forward high (Step.times passing site step n) := by
  induction n with
  | zero =>
    intro trail rest memory within
    exact From.here memory (Nat.le_refl _) within
  | succ n ih =>
    intro trail rest memory within
    refine From.enter fun memory => (goes trail _ memory within).trans ?_
    intro next memory lower upper
    exact (ih next rest memory upper).mono lower

theorem upTo (text : Text) (passing : Bool) (site : Nat) (greedy : Bool) {step : Step}
    (goes : Forward text.length step) (n : Nat) :
    Forward text.length (Step.upTo text passing site greedy step n) := by
  induction n with
  | zero =>
    intro trail rest memory within
    exact From.here memory (Nat.le_refl _) within
  | succ n ih =>
    intro trail rest memory within
    have again : ∀ memory, From trail.place text.length rest (step trail (fun next memory =>
        if next.place = trail.place then rest next memory
        else Step.upTo text passing site greedy step n next rest memory) memory) := by
      intro memory
      apply (goes trail _ memory within).trans
      intro next memory lower upper
      split
      · exact From.here memory lower upper
      · exact (ih next rest memory upper).mono lower
    unfold Step.upTo
    refine From.enter fun memory => ?_
    split
    · exact (again memory).orElse fun memory => From.here memory (Nat.le_refl _) within
    · exact (From.here memory (Nat.le_refl _) within).orElse again

theorem rounds (text : Text) (passing greedy : Bool) (least : Nat) (most : Option Nat)
    {step : Step} (goes : Forward text.length step) :
    Forward text.length (Step.rounds text passing greedy least most step) := by
  intro trail rest memory within
  apply (times passing _ goes least trail _ _ within).trans
  intro next memory lower upper
  exact (upTo text passing _ greedy goes _ next rest memory upper).mono lower

theorem capture (group : Nat) {step : Step} (goes : Forward high step) :
    Forward high (Step.capture group step) := by
  intro trail rest memory within
  apply (goes trail _ memory within).trans
  intro next memory lower upper
  exact From.here memory lower upper

theorem sameText_bound (text : Text) (folding : Folding) (length i j : Nat)
    (same : sameText text folding length i j = true) : length = 0 ∨ j + length ≤ text.length := by
  induction length generalizing i j with
  | zero => exact .inl rfl
  | succ length ih =>
    unfold sameText at same
    split at same
    · rename_i c d _ present
      rw [Bool.and_eq_true] at same
      have inside : j < text.length := (Array.getElem?_eq_some_iff.mp present).1
      rcases ih (i + 1) (j + 1) same.2 with none_left | more
      · right
        omega
      · right
        omega
    · cases same

theorem reference (text : Text) (group : Nat) (folding : Folding) :
    Forward text.length (Step.reference text group folding) := by
  intro trail rest memory within
  unfold Step.reference
  split
  · rename_i start stop _
    split
    · rename_i same
      apply From.here memory (Nat.le_add_right _ _)
      have bound := sameText_bound text folding (stop - start) start trail.place same
      dsimp only [Trail.moveTo]
      omega
    · exact From.failure memory
  · exact From.failure memory

theorem atomic {step : Step} (goes : Forward high step) : Forward high (Step.atomic step) := by
  intro trail rest memory within
  unfold Step.atomic
  split
  · rename_i found after reached
    obtain ⟨next, later, lower, upper, same⟩ := goes trail _ memory within found after reached
    cases same
    exact From.here after lower upper
  · exact From.failure _

theorem look (positive : Bool) (start : Nat) (step : Step) :
    Forward high (Step.look positive start step) := by
  intro trail rest memory within
  unfold Step.look
  split
  · rename_i found after _
    have stays : (found.moveTo trail.place).place = trail.place := rfl
    split
    · exact From.here after (Nat.le_of_eq stays.symm) within
    · exact From.failure after
  · split
    · exact From.failure _
    · exact From.here _ (Nat.le_refl _) within

theorem behind (positive : Bool) (width : Nat) (step : Step) :
    Forward high (Step.behind positive width step) := by
  intro trail rest memory within
  unfold Step.behind
  split
  · exact look positive _ step trail rest memory within
  · split
    · exact From.failure memory
    · exact From.here memory (Nat.le_refl _) within

theorem anchor (text : Text) (place : Anchor) : Forward high (Step.anchor text place) := by
  intro trail rest memory within
  unfold Step.anchor
  split
  · exact From.here memory (Nat.le_refl _) within
  · exact From.failure memory

end Step.Forward

theorem machine_forward (text : Text) (kept : List Nat) (p : Pattern) :
    Step.Forward text.length (machine text kept p).step := by
  induction p with
  | empty =>
    intro trail rest memory within
    exact From.here memory (Nat.le_refl _) within
  | one set => exact Step.Forward.one text set
  | seq p q first second => exact first.andThen second
  | alt p q first second => exact first.either second
  | repeated greedy least most p body =>
    unfold machine
    dsimp only
    split
    · exact Step.Forward.run text _ greedy least most
    · exact Step.Forward.rounds text _ greedy least most body
  | capture group p body =>
    unfold machine
    dsimp only
    split
    · exact body.capture group
    · exact body
  | reference group folding => exact Step.Forward.reference text group folding
  | atomic p body => exact body.atomic
  | ahead positive p _ => exact fun trail => Step.Forward.look positive trail.place _ trail
  | behind positive width p _ => exact Step.Forward.behind positive width _
  | anchor place => exact Step.Forward.anchor text place

/-- A match ends between its start and the end of the text. -/
theorem matchEnd_bounds {p : Pattern} {text : Text} {start stop : Nat}
    (within : start ≤ text.length) (found : p.matchEnd? text start = some stop) :
    start ≤ stop ∧ stop ≤ text.length := by
  unfold matchEnd? at found
  split at found
  · cases found
  · obtain ⟨trail, reached, rfl⟩ := Option.map_eq_some_iff.mp found
    obtain ⟨next, memory, lower, upper, same⟩ := machine_forward text p.references p ⟨start, []⟩
      Found.success .blank within trail _ (Prod.ext reached rfl)
    cases same
    exact ⟨lower, upper⟩

end Descent.Pattern
