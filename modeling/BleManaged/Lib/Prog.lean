import Mathlib.Tactic.Common

/-! Programs that pause on a question and resume with its answer. -/

/-- A finite program: it has finished, or it asks and continues with whatever is answered. -/
inductive Prog (ι ο α : Type) where
  /-- The program has finished. -/
  | done (value : α)
  /-- The program is paused until its question is answered. -/
  | ask (question : ι) (resume : ο → Prog ι ο α)

namespace Prog

variable {ι ο κ π α β σ τ υ : Type}

/-- Continue with a second program once the first has finished. -/
def bind : Prog ι ο α → (α → Prog ι ο β) → Prog ι ο β
  | .done value, next => next value
  -- The question stays the same, and what comes after its answer gets longer.
  | .ask question resume, next => .ask question fun answer => (resume answer).bind next

instance : Monad (Prog ι ο) where
  pure := .done
  bind := bind

/-- Sequencing in do-notation is sequencing of programs. -/
@[simp] theorem bind_eq (program : Prog ι ο α) (next : α → Prog ι ο β) :
    program >>= next = program.bind next := rfl

/-- Returning in do-notation finishes the program. -/
@[simp] theorem pure_eq (value : α) : (pure value : Prog ι ο α) = .done value := rfl

/-- Nothing is asked before the continuation of a finished program. -/
@[simp] theorem done_bind (value : α) (next : α → Prog ι ο β) :
    (Prog.done value).bind next = next value := rfl

/-- A paused program stays paused on the same question when more work is queued behind it. -/
@[simp] theorem ask_bind (question : ι) (resume : ο → Prog ι ο α) (next : α → Prog ι ο β) :
    (Prog.ask question resume).bind next =
      .ask question fun answer => (resume answer).bind next := rfl

/-- Ask one question and finish with its answer. -/
def query (question : ι) : Prog ι ο ο :=
  .ask question .done

/-- Answer every question from a state until the program finishes. -/
def run (answer : ι → σ → ο × σ) : Prog ι ο α → σ → α × σ
  | .done value, state => (value, state)
  | .ask question resume, state =>
    -- The answer decides how the program continues, and may move the state.
    run answer (resume (answer question state).1) (answer question state).2

/-- A finished program asks nothing. -/
@[simp] theorem run_done (answer : ι → σ → ο × σ) (value : α) (state : σ) :
    (Prog.done value).run answer state = (value, state) := rfl

/-- A paused program gets its answer and goes on. -/
@[simp] theorem run_ask (answer : ι → σ → ο × σ) (question : ι) (resume : ο → Prog ι ο α)
    (state : σ) :
    (Prog.ask question resume).run answer state =
      (resume (answer question state).1).run answer (answer question state).2 := rfl

/-- A sequence of programs runs its second part from where the first part stopped. -/
theorem run_bind (answer : ι → σ → ο × σ) (program : Prog ι ο α) (next : α → Prog ι ο β)
    (state : σ) :
    (program.bind next).run answer state =
      (next (program.run answer state).1).run answer (program.run answer state).2 := by
  -- The induction follows the questions of the first program, whose answers move the state.
  induction program generalizing state with
  | done value => rfl
  | ask question resume ih => exact ih _ _

/-- Carry out every question by a program over lower-level questions, threading a state. -/
def through (carry : ι → σ → Prog κ π (ο × σ)) : Prog ι ο α → σ → Prog κ π (α × σ)
  | .done value, state => .done (value, state)
  | .ask question resume, state =>
    -- The lower program ends with the answer and the state for the next question.
    (carry question state).bind fun result => through carry (resume result.1) result.2

/-- A program carried out on a lower level goes on from where its first question left that level. -/
theorem run_through_ask (carry : ι → σ → Prog κ π (ο × σ)) (lower : κ → τ → π × τ)
    (question : ι) (resume : ο → Prog ι ο α) (middle : σ) (low : τ) :
    ((Prog.ask question resume).through carry middle).run lower low =
      ((resume ((carry question middle).run lower low).1.1).through carry
        ((carry question middle).run lower low).1.2).run lower
          ((carry question middle).run lower low).2 :=
  -- The carried question comes first, and everything else continues from its end.
  run_bind _ _ _ _

/-- A lower level gives the answers of an upper level, under a relation between their states. -/
def Implements (carry : ι → σ → Prog κ π (ο × σ)) (lower : κ → τ → π × τ)
    (upper : ι → υ → ο × υ) (related : σ → τ → υ → Prop) : Prop :=
  -- Every single question is answered alike, and the states stay related.
  ∀ question middle low high, related middle low high →
    ((carry question middle).run lower low).1.1 = (upper question high).1 ∧
      related ((carry question middle).run lower low).1.2
        ((carry question middle).run lower low).2 (upper question high).2

/-- A program finishes with the same value on a level that implements the other. -/
theorem run_through {carry : ι → σ → Prog κ π (ο × σ)} {lower : κ → τ → π × τ}
    {upper : ι → υ → ο × υ} {related : σ → τ → υ → Prop}
    (implements : Implements carry lower upper related) (program : Prog ι ο α)
    {middle : σ} {low : τ} {high : υ} (start : related middle low high) :
    ((program.through carry middle).run lower low).1.1 = (program.run upper high).1 ∧
      related ((program.through carry middle).run lower low).1.2
        ((program.through carry middle).run lower low).2 (program.run upper high).2 := by
  -- Each question is answered alike on both levels, so both continue with the same program.
  induction program generalizing middle low high with
  | done value => exact ⟨rfl, start⟩
  | ask question resume ih =>
    obtain ⟨answers, kept⟩ := implements question middle low high start
    rw [run_through_ask, run_ask, ← answers]
    exact ih _ kept

/-- A quantity that no single question can raise is not raised by a whole program. -/
theorem run_through_le {carry : ι → σ → Prog κ π (ο × σ)} {lower : κ → τ → π × τ}
    (measure : σ → τ → Nat)
    (each : ∀ question middle low,
      measure ((carry question middle).run lower low).1.2
        ((carry question middle).run lower low).2 ≤ measure middle low)
    (program : Prog ι ο α) (middle : σ) (low : τ) :
    measure ((program.through carry middle).run lower low).1.2
      ((program.through carry middle).run lower low).2 ≤ measure middle low := by
  -- The measure is compared before and after each question in turn.
  induction program generalizing middle low with
  | done value => exact Nat.le_refl _
  | ask question resume ih =>
    rw [run_through_ask]
    exact Nat.le_trans (ih _ _ _) (each question middle low)

/-- Whatever a program is answered, it can only finish with a good value. -/
def Ends (good : α → Prop) : Prog ι ο α → Prop
  | .done value => good value
  -- No answer is ruled out, whether or not anything would ever give it.
  | .ask _ resume => ∀ answer, (resume answer).Ends good

/-- A program ends well when its last part does, whatever the first part finishes with. -/
theorem Ends.bind {first : α → Prop} {good : β → Prop} {program : Prog ι ο α}
    {next : α → Prog ι ο β} (ends : program.Ends first)
    (goes : ∀ value, first value → (next value).Ends good) : (program.bind next).Ends good := by
  -- The first part is answered question by question, and then the last part goes on.
  induction program with
  | done value => exact goes value ends
  | ask question resume ih => exact fun answer => ih answer (ends answer)

/-- Every program finishes with some value. -/
theorem ends_of_all {good : α → Prop} (all : ∀ value, good value) (program : Prog ι ο α) :
    program.Ends good := by
  induction program with
  | done value => exact all value
  | ask question resume ih => exact ih

/-- A program carried out on a lower level finishes with values it could have finished with. -/
theorem Ends.through {good : α → Prop} {program : Prog ι ο α} (ends : program.Ends good)
    (carry : ι → σ → Prog κ π (ο × σ)) (state : σ) :
    (program.through carry state).Ends fun result => good result.1 := by
  -- The lower level gives some answer to each question, and no answer is ruled out.
  induction program generalizing state with
  | done value => exact ends
  | ask question resume ih =>
    refine Ends.bind (ends_of_all (fun _ => trivial) (carry question state)) ?_
    intro result _
    exact ih result.1 (ends result.1) result.2

/-- A program with fallible answers that ends in a certain way as soon as one of them fails. -/
def Strict {ε : Type} (gives : α → Prop) : Prog ι (Except ε ο) α → Prop
  | .done _ => True
  | .ask _ resume =>
    (∀ error, ∃ value, resume (.error error) = .done value ∧ gives value) ∧
      ∀ answer, (resume (.ok answer)).Strict gives

/-- Answer receives from the messages of a channel on which nothing more is sent. -/
def receive {μ : Type} : Unit → List μ → Option μ × List μ
  -- A closed channel still yields its remaining messages, and only then fails.
  | (), [] => (none, [])
  | (), message :: rest => (some message, rest)

end Prog

/-- A task that receives messages: none tells it that the channel is empty and closed. -/
abbrev Receiving (μ α : Type) := Prog Unit (Option μ) α

/-- What a task does with the remaining messages of a channel that is then closed. -/
def Receiving.finish {μ α : Type} (task : Receiving μ α) (queue : List μ) : α × List μ :=
  Prog.run Prog.receive task queue

namespace Receiving

variable {μ α : Type}

/-- A task that ends in a certain way as soon as it is told that its channel is closed. -/
def Impatient (gives : α → Prop) : Receiving μ α → Prop
  | .done _ => True
  | .ask _ resume =>
    (∃ value, resume none = .done value ∧ gives value) ∧
      ∀ message, Impatient gives (resume (some message))

/-- A finished task leaves the channel alone. -/
@[simp] theorem finish_done (value : α) (queue : List μ) :
    Receiving.finish (Prog.done value) queue = (value, queue) := rfl

/-- A message that has arrived is consumed before the ones behind it. -/
@[simp] theorem finish_cons (resume : Option μ → Receiving μ α) (message : μ) (queue : List μ) :
    Receiving.finish (Prog.ask () resume) (message :: queue) =
      (resume (some message)).finish queue := rfl

/-- On an empty and closed channel the task is told so. -/
@[simp] theorem finish_nil (resume : Option μ → Receiving μ α) :
    Receiving.finish (Prog.ask () resume) ([] : List μ) = (resume none).finish [] := rfl

end Receiving
