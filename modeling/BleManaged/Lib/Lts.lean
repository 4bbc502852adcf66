import Mathlib.Data.List.Induction
import Mathlib.Tactic.Common

/-! Labelled machines, their finite runs, and what holds along every run. -/

/-- A machine that takes or refuses a label, and says what can be observed of a step it takes. -/
structure Lts (σ ε ω : Type) where
  /-- Where every run starts. -/
  init : σ
  /-- The effect of one label, or none when the label is not possible. -/
  step : σ → ε → Option (σ × List ω)

namespace Lts

variable {σ τ ε δ ω χ : Type}

/-- The runs of a machine: the labels taken, all that was observed, and the state reached. -/
inductive Run (m : Lts σ ε ω) : List ε → List ω → σ → Prop where
  /-- Nothing has happened yet. -/
  | start : Run m [] [] m.init
  /-- One more label has been taken. -/
  | snoc {labels seen state label out next} (before : Run m labels seen state)
      (taken : m.step state label = some (next, out)) :
      Run m (labels ++ [label]) (seen ++ out) next

/-- Take labels one after the other, stopping with none at the first refusal. -/
def exec (m : Lts σ ε ω) : σ → List ε → Option (σ × List ω)
  | state, [] => some (state, [])
  | state, label :: labels =>
    match m.step state label with
    -- One refused label makes the whole list impossible.
    | none => none
    | some (next, out) => (m.exec next labels).map fun rest => (rest.1, out ++ rest.2)

/-- What executing a first label and then more labels comes to. -/
theorem exec_cons {m : Lts σ ε ω} {state last : σ} {label : ε} {labels : List ε} {out : List ω}
    (executed : m.exec state (label :: labels) = some (last, out)) :
    ∃ next first rest, m.step state label = some (next, first) ∧
      m.exec next labels = some (last, rest) ∧ out = first ++ rest := by
  simp only [exec] at executed
  cases taken : m.step state label with
  | none => simp [taken] at executed
  | some result =>
    simp only [taken, Option.map_eq_some_iff, Prod.mk.injEq] at executed
    obtain ⟨rest, executed, rfl, rfl⟩ := executed
    exact ⟨result.1, result.2, rest.2, rfl, executed, rfl⟩

/-- Executing more labels extends a run. -/
theorem Run.extend {m : Lts σ ε ω} {labels more : List ε} {seen out : List ω} {state last : σ}
    (run : m.Run labels seen state) (executed : m.exec state more = some (last, out)) :
    m.Run (labels ++ more) (seen ++ out) last := by
  -- Each executed label is one more step at the end of the run.
  induction more generalizing labels seen state out with
  | nil =>
    simp only [exec, Option.some.injEq, Prod.mk.injEq] at executed
    obtain ⟨rfl, rfl⟩ := executed
    simpa using run
  | cons label more ih =>
    obtain ⟨next, first, rest, taken, others, rfl⟩ := exec_cons executed
    simpa using ih (run.snoc taken) others

/-- What can be executed from the start is a run. -/
theorem Run.of_exec {m : Lts σ ε ω} {labels : List ε} {out : List ω} {last : σ}
    (executed : m.exec m.init labels = some (last, out)) : m.Run labels out last := by
  -- The labels extend the run in which nothing has happened yet.
  simpa using Run.start.extend executed

/-- A run that took a last label took it in a state reached by the labels before. -/
theorem Run.last {m : Lts σ ε ω} {labels : List ε} {label : ε} {seen : List ω} {state : σ}
    (run : m.Run (labels ++ [label]) seen state) :
    ∃ before earlier out, m.Run labels earlier before ∧
      m.step before label = some (state, out) ∧ seen = earlier ++ out := by
  -- Only a step can have produced the last label.
  generalize whole : labels ++ [label] = all at run
  cases run with
  | start => simp at whole
  | snoc before taken =>
    obtain ⟨rfl, rfl⟩ := List.append_singleton_inj.mp whole
    exact ⟨_, _, _, before, taken, rfl⟩

/-- The labels of a run determine what was observed and where it ended. -/
theorem Run.unique {m : Lts σ ε ω} {labels : List ε} {seen other : List ω} {state last : σ}
    (run : m.Run labels seen state) (again : m.Run labels other last) :
    seen = other ∧ state = last := by
  -- Both runs end in the same label, and the runs before it agree by induction.
  induction run generalizing other last with
  | start =>
    generalize none : ([] : List ε) = all at again
    cases again with
    | start => exact ⟨rfl, rfl⟩
    | snoc => simp at none
  | snoc before taken ih =>
    obtain ⟨_, _, _, earlier, same, rfl⟩ := again.last
    obtain ⟨rfl, rfl⟩ := ih earlier
    rw [taken] at same
    cases same
    exact ⟨rfl, rfl⟩

/-- What holds at the start and is kept by every step of a run holds of every run. -/
theorem Run.invariant {m : Lts σ ε ω} {labels : List ε} {seen : List ω} {state : σ}
    (run : m.Run labels seen state) (holds : List ω → σ → Prop) (start : holds [] m.init)
    (keeps : ∀ {before earlier prior label next out}, m.Run before earlier prior →
      holds earlier prior → m.step prior label = some (next, out) →
      holds (earlier ++ out) next) :
    holds seen state := by
  -- The run up to a step is at hand, so a step may rest on invariants proved before.
  induction run with
  | start => exact start
  | snoc before taken ih => exact keeps before ih taken

/-- A condition met at every step of a run, judged in the state in which the step is taken. -/
def EachStep (m : Lts σ ε ω) (condition : σ → ε → Prop) (labels : List ε) : Prop :=
  -- A step is a label together with the state its predecessors lead to.
  ∀ before label after, labels = before ++ label :: after →
    ∀ seen state, m.Run before seen state → condition state label

/-- A condition on every step is one on every step of a shorter list. -/
theorem EachStep.left {m : Lts σ ε ω} {condition : σ → ε → Prop} {labels more : List ε}
    (each : m.EachStep condition (labels ++ more)) : m.EachStep condition labels := by
  -- A step among the first labels is followed by more labels in the longer list.
  intro before label after split
  subst split
  exact each before label (after ++ more) (by simp)

/-- Dropping the last label keeps a condition on all the others. -/
theorem EachStep.init {m : Lts σ ε ω} {condition : σ → ε → Prop} {labels : List ε} {label : ε}
    (each : m.EachStep condition (labels ++ [label])) : m.EachStep condition labels :=
  each.left

/-- The last label of a run meets a condition met at every step. -/
theorem EachStep.last {m : Lts σ ε ω} {condition : σ → ε → Prop} {labels : List ε} {label : ε}
    (each : m.EachStep condition (labels ++ [label])) {seen : List ω} {state : σ}
    (run : m.Run labels seen state) : condition state label :=
  each labels label [] rfl seen state run

/-- A condition on every step is one on all but the last, and one on the last. -/
theorem EachStep.snoc {m : Lts σ ε ω} {condition : σ → ε → Prop} {labels : List ε} {label : ε}
    {seen : List ω} {state : σ} (each : m.EachStep condition labels)
    (run : m.Run labels seen state) (last : condition state label) :
    m.EachStep condition (labels ++ [label]) := by
  intro before other after split earlier reached reaching
  -- The step in question is the new one exactly when nothing comes after it.
  rcases List.eq_nil_or_concat after with rfl | ⟨init, final, rfl⟩
  · obtain ⟨rfl, rfl⟩ := List.append_singleton_inj.mp split
    obtain ⟨rfl, rfl⟩ := run.unique reaching
    exact last
  · rw [List.concat_eq_append, ← List.cons_append, ← List.append_assoc] at split
    obtain ⟨rfl, rfl⟩ := List.append_singleton_inj.mp split
    exact each before other init rfl earlier reached reaching

/-- A weaker condition is met at every step as well. -/
theorem EachStep.imp {m : Lts σ ε ω} {condition weaker : σ → ε → Prop} {labels : List ε}
    (each : m.EachStep condition labels)
    (implies : ∀ state label, condition state label → weaker state label) :
    m.EachStep weaker labels := by
  -- The steps and their states are the same.
  intro before label after split seen state reaching
  exact implies state label (each before label after split seen state reaching)

/-- A condition that no label of a run can violate is met at every step. -/
theorem EachStep.of_labels {m : Lts σ ε ω} {condition : σ → ε → Prop} {labels : List ε}
    (always : ∀ label ∈ labels, ∀ state, condition state label) : m.EachStep condition labels := by
  -- The state in which the label is taken does not matter.
  intro before label after split _ state _
  subst split
  exact always label (by simp) state

/-- Labels that cannot violate a condition may follow those that meet it. -/
theorem EachStep.append {m : Lts σ ε ω} {condition : σ → ε → Prop} {labels more : List ε}
    (each : m.EachStep condition labels)
    (always : ∀ label ∈ more, ∀ state, condition state label) :
    m.EachStep condition (labels ++ more) := by
  intro before label after split seen state reaching
  -- A step is either among the first labels, or one of those that follow.
  rcases List.append_eq_append_iff.mp split with ⟨middle, _, later⟩ | ⟨middle, earlier, later⟩
  · exact always label (by simp [later]) state
  · cases middle with
    | nil =>
      rw [List.nil_append] at later
      exact always label (by simp [← later]) state
    | cons head middle =>
      obtain ⟨rfl, _⟩ := List.cons.inj later
      exact each before label middle earlier seen state reaching

/-- A condition that only the first label could violate need be checked at the start only. -/
theorem EachStep.of_first {m : Lts σ ε ω} {condition : σ → ε → Prop} {label : ε} {labels : List ε}
    (first : condition m.init label) (others : ∀ later ∈ labels, ∀ state, condition state later) :
    m.EachStep condition (label :: labels) := by
  -- A step is either the first one, taken at the start, or one of the others.
  intro before later after split seen state reaching
  cases before with
  | nil =>
    obtain ⟨rfl, _⟩ := List.cons.inj split
    obtain ⟨_, rfl⟩ := Run.start.unique reaching
    exact first
  | cons head before =>
    obtain ⟨_, rfl⟩ := List.cons.inj split
    exact others later (by simp) state

/-- What holds of every state that the labels of a run pass through. -/
def EachState (m : Lts σ ε ω) (holds : σ → Prop) (labels : List ε) : Prop :=
  -- A state is passed through when some of the labels, taken from the start, lead to it.
  ∀ before after, labels = before ++ after → ∀ seen state, m.Run before seen state → holds state

/-- The empty run passes through the initial state only. -/
theorem EachState.nil {m : Lts σ ε ω} {holds : σ → Prop} (start : holds m.init) :
    m.EachState holds [] := by
  -- No label leads anywhere else.
  intro before after split seen state reaching
  obtain ⟨rfl, _⟩ := List.append_eq_nil_iff.mp split.symm
  obtain ⟨_, rfl⟩ := Run.start.unique reaching
  exact start

/-- A shorter run passes through fewer states. -/
theorem EachState.init {m : Lts σ ε ω} {holds : σ → Prop} {labels : List ε} {label : ε}
    (each : m.EachState holds (labels ++ [label])) : m.EachState holds labels := by
  -- A state passed through by the first labels is passed through by all of them.
  intro before after split
  subst split
  exact each before (after ++ [label]) (by simp)

/-- What holds of every state holds of the last one. -/
theorem EachState.last {m : Lts σ ε ω} {holds : σ → Prop} {labels : List ε}
    (each : m.EachState holds labels) {seen : List ω} {state : σ}
    (run : m.Run labels seen state) : holds state :=
  each labels [] (by simp) seen state run

/-- What holds of the last state as well holds of every state of the longer run. -/
theorem EachState.snoc {m : Lts σ ε ω} {holds : σ → Prop} {labels : List ε} {label : ε}
    {seen : List ω} {state : σ} (each : m.EachState holds labels)
    (run : m.Run (labels ++ [label]) seen state) (last : holds state) :
    m.EachState holds (labels ++ [label]) := by
  intro before after split earlier reached reaching
  -- The state in question is the new one exactly when nothing comes after it.
  rcases List.eq_nil_or_concat after with rfl | ⟨init, final, rfl⟩
  · rw [List.append_nil] at split
    subst split
    obtain ⟨_, rfl⟩ := run.unique reaching
    exact last
  · rw [List.concat_eq_append, ← List.append_assoc] at split
    obtain ⟨rfl, _⟩ := List.append_singleton_inj.mp split
    exact each before init rfl earlier reached reaching

/-- If what holds is kept exactly by the steps that meet a condition, then it holds of every state
of a run exactly when every step meets the condition. -/
theorem Run.eachState_iff {m : Lts σ ε ω} {holds : σ → Prop} {condition : σ → ε → Prop}
    {labels : List ε} {seen : List ω} {state : σ} (run : m.Run labels seen state)
    (start : holds m.init)
    (keeps : ∀ {before earlier prior label next out}, m.Run before earlier prior →
      holds prior → m.step prior label = some (next, out) → (holds next ↔ condition prior label)) :
    m.EachState holds labels ↔ m.EachStep condition labels := by
  -- A run and its conditions grow by one step at a time.
  induction run with
  | start => exact ⟨fun _ => by simp [EachStep], fun _ => .nil start⟩
  | snoc before taken ih =>
    constructor
    · intro each
      have prior := each.init.last before
      exact (ih.mp each.init).snoc before
        ((keeps before prior taken).mp (each.last (before.snoc taken)))
    · intro each
      have earlier := ih.mpr each.init
      exact earlier.snoc (before.snoc taken)
        ((keeps before (earlier.last before) taken).mpr (each.last before))

/-- A condition on labels alone is met at every step of a run exactly when every label meets it. -/
theorem Run.eachStep_labels_iff {m : Lts σ ε ω} {condition : ε → Prop} {labels : List ε}
    {seen : List ω} {state : σ} (run : m.Run labels seen state) :
    m.EachStep (fun _ label => condition label) labels ↔ ∀ label ∈ labels, condition label := by
  refine ⟨?_, fun always => .of_labels fun label member _ => always label member⟩
  -- Every label of a run has been taken in some state.
  induction run with
  | start => simp
  | snoc before taken ih =>
    intro each label member
    rcases List.mem_append.mp member with earlier | last
    · exact ih each.init label earlier
    · rw [List.mem_singleton.mp last]
      exact each.last before

/-- What is kept by the steps that meet a condition holds of the runs whose steps all do. -/
theorem Run.invariant_where {m : Lts σ ε ω} {condition : σ → ε → Prop} {labels : List ε}
    {seen : List ω} {state : σ} (run : m.Run labels seen state)
    (each : m.EachStep condition labels) (holds : List ω → σ → Prop) (start : holds [] m.init)
    (keeps : ∀ {before earlier prior label next out}, m.Run before earlier prior →
      condition prior label → holds earlier prior → m.step prior label = some (next, out) →
      holds (earlier ++ out) next) :
    holds seen state := by
  -- The last step meets the condition, and so do all the steps of the run before it.
  induction run with
  | start => exact start
  | snoc before taken ih => exact keeps before (each.last before) (ih each.init) taken

/-- The first labels of a run are a run. -/
theorem Run.prior {m : Lts σ ε ω} {labels more : List ε} {seen : List ω} {state : σ}
    (run : m.Run (labels ++ more) seen state) : ∃ earlier before, m.Run labels earlier before := by
  -- The other labels are taken away one by one, the last one first.
  induction more using List.reverseRecOn generalizing seen state with
  | nil => exact ⟨seen, state, by simpa using run⟩
  | append_singleton more label ih =>
    rw [← List.append_assoc] at run
    obtain ⟨before, earlier, _, reached, _⟩ := run.last
    exact ih reached

/-- Every label of a run has been taken in a state reached by the labels before it. -/
theorem Run.taken {m : Lts σ ε ω} {before after : List ε} {label : ε} {seen : List ω} {state : σ}
    (run : m.Run (before ++ label :: after) seen state) :
    ∃ earlier prior next out, m.Run before earlier prior ∧
      m.step prior label = some (next, out) := by
  -- The run up to the label ends in the step that takes it.
  rw [List.append_cons] at run
  obtain ⟨_, _, reached⟩ := run.prior
  obtain ⟨prior, earlier, out, came, taken, _⟩ := reached.last
  exact ⟨earlier, prior, _, out, came, taken⟩

/-- What holds after some labels, and is kept by all the others, holds at the end of the run. -/
theorem Run.stays {m : Lts σ ε ω} {labels more : List ε} {earlier seen : List ω}
    {before state : σ} (run : m.Run (labels ++ more) seen state)
    (prior : m.Run labels earlier before) (holds : σ → Prop) (start : holds before)
    (keeps : ∀ {label prior next out}, label ∈ more → holds prior →
      m.step prior label = some (next, out) → holds next) :
    holds state := by
  -- The labels since then are taken one by one.
  induction more using List.reverseRecOn generalizing seen state with
  | nil =>
    rw [List.append_nil] at run
    obtain ⟨_, rfl⟩ := prior.unique run
    exact start
  | append_singleton more label ih =>
    rw [← List.append_assoc] at run
    obtain ⟨middle, _, _, reached, taken, _⟩ := run.last
    have kept := ih reached fun among => keeps (List.mem_append_left _ among)
    exact keeps (by simp) kept taken

/-- Labels under which something stays true that makes them meet a condition may follow those that
meet it anyway. -/
theorem EachStep.extend {m : Lts σ ε ω} {condition : σ → ε → Prop} {labels more : List ε}
    {seen : List ω} {state : σ} (each : m.EachStep condition labels)
    (run : m.Run labels seen state) (holds : σ → Prop) (start : holds state)
    (keeps : ∀ {label prior next out}, label ∈ more → holds prior →
      m.step prior label = some (next, out) → holds next)
    (meets : ∀ {label prior}, label ∈ more → holds prior → condition prior label) :
    m.EachStep condition (labels ++ more) := by
  intro before label after split earlier prior reached
  -- A step is either among the first labels, or one of those that follow.
  rcases List.append_eq_append_iff.mp split with ⟨middle, rfl, rfl⟩ | ⟨middle, first, later⟩
  · have kept := reached.stays run holds start fun among => keeps (List.mem_append_left _ among)
    exact meets (by simp) kept
  · cases middle with
    | nil =>
      -- It is the very first one of those that follow.
      rw [List.append_nil] at first
      rw [List.nil_append] at later
      subst first
      obtain ⟨_, rfl⟩ := run.unique reached
      exact meets (by simp [← later]) start
    | cons head middle =>
      obtain ⟨rfl, _⟩ := List.cons.inj later
      exact each before label middle first earlier prior reached

/-- What holds of every step of a run, of what was observed before it and of where it leads. -/
def EachTurn (m : Lts σ ε ω) (holds : List ω → σ → ε → σ → List ω → Prop) (labels : List ε) :
    Prop :=
  ∀ before label after, labels = before ++ label :: after →
    ∀ seen prior next out, m.Run before seen prior → m.step prior label = some (next, out) →
      holds seen prior label next out

/-- What holds of every step holds of the steps of a shorter list. -/
theorem EachTurn.init {m : Lts σ ε ω} {holds : List ω → σ → ε → σ → List ω → Prop}
    {labels : List ε} {label : ε} (each : m.EachTurn holds (labels ++ [label])) :
    m.EachTurn holds labels := by
  -- A step among the first labels is followed by more labels in the longer list.
  intro before other after split
  subst split
  exact each before other (after ++ [label]) (by simp)

/-- If what holds of a step is that its label meets a condition, provided all the labels before it
do, then it holds of every step of a run exactly when every label meets the condition. -/
theorem Run.eachTurn_iff {m : Lts σ ε ω} {holds : List ω → σ → ε → σ → List ω → Prop}
    {condition : ε → Prop} {labels : List ε} {seen : List ω} {state : σ}
    (run : m.Run labels seen state)
    (decides : ∀ {before earlier prior label next out}, m.Run before earlier prior →
      (∀ other ∈ before, condition other) → m.step prior label = some (next, out) →
      (holds earlier prior label next out ↔ condition label)) :
    m.EachTurn holds labels ↔ ∀ label ∈ labels, condition label := by
  constructor
  · -- A run and its conditions grow by one step at a time.
    intro each
    induction run with
    | start => simp
    | @snoc labels _ _ label _ _ before taken ih =>
      have earlier := ih each.init
      have last := each labels label [] rfl _ _ _ _ before taken
      intro other member
      rcases List.mem_append.mp member with among | final
      · exact earlier other among
      · rw [List.mem_singleton.mp final]
        exact (decides before earlier taken).mp last
  · intro always before label after split earlier prior next out reached taken
    subst split
    refine (decides reached (fun other among => always other ?_) taken).mpr (always label (by simp))
    exact List.mem_append_left _ among

/-- A projection of states and observations under which every step is one step or none. -/
structure Projection (m : Lts σ ε ω) (coarse : Lts τ δ χ) where
  /-- The part of the state the coarser machine has. -/
  state : σ → τ
  /-- The observations the coarser machine makes. -/
  see : ω → Option χ
  /-- Which labels of the coarser machine a label may stand for. -/
  names : ε → δ → Prop
  /-- Both machines start alike. -/
  start : state m.init = coarse.init
  /-- A step is not seen by the coarser machine, or is one step of it. -/
  step : ∀ {s label next out}, m.step s label = some (next, out) →
    (state next = state s ∧ out.filterMap see = []) ∨
      ∃ other, names label other ∧
        coarse.step (state s) other = some (state next, out.filterMap see)

/-- Every run projects to a run of the coarser machine, under labels that stand for its own. -/
theorem Projection.run {m : Lts σ ε ω} {coarse : Lts τ δ χ} (projection : m.Projection coarse)
    {labels : List ε} {seen : List ω} {state : σ} (run : m.Run labels seen state) :
    ∃ others, coarse.Run others (seen.filterMap projection.see) (projection.state state) ∧
      ∀ other ∈ others, ∃ label ∈ labels, projection.names label other := by
  -- Each step either leaves the projected run alone or extends it by one step.
  induction run with
  | start => exact ⟨[], by simpa [projection.start] using Run.start, by simp⟩
  | @snoc labels _ _ label _ _ _ taken ih =>
    obtain ⟨others, projected, named⟩ := ih
    have earlier : ∀ other ∈ others, ∃ old ∈ labels ++ [label], projection.names old other := by
      intro other member
      obtain ⟨old, among, names⟩ := named other member
      exact ⟨old, List.mem_append_left _ among, names⟩
    rw [List.filterMap_append]
    rcases projection.step taken with ⟨kept, silent⟩ | ⟨other, names, step⟩
    · exact ⟨others, by simpa [kept, silent] using projected, earlier⟩
    · refine ⟨others ++ [other], projected.snoc step, fun last member => ?_⟩
      rcases List.mem_append.mp member with before | final
      · exact earlier last before
      · rw [List.mem_singleton.mp final]
        exact ⟨label, by simp, names⟩

end Lts
