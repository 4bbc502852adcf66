import BleManaged.Lib.Lts

/-! Machines that come to rest: some labels lower a rank, and as long as nothing raises it one of
them is possible until there is nothing left to do. -/

namespace Lts

variable {σ ε ω : Type}

/-- A state that some run of the machine ends in. -/
def Reachable (m : Lts σ ε ω) (state : σ) : Prop :=
  ∃ labels seen, m.Run labels seen state

/-- One more step leads to a state that is reachable as well. -/
theorem Reachable.step {m : Lts σ ε ω} {state next : σ} {label : ε} {out : List ω}
    (reachable : m.Reachable state) (taken : m.step state label = some (next, out)) :
    m.Reachable next := by
  obtain ⟨labels, seen, run⟩ := reachable
  exact ⟨_, _, run.snoc taken⟩

/-- Labels by which a machine works off what it has to do, until it rests. -/
structure Settling (m : Lts σ ε ω) where
  /-- The labels by which it works. -/
  works : ε → Bool
  /-- The labels in between that give it nothing more to do. -/
  Quiet : ε → Prop
  /-- The states in which it has nothing to do. -/
  Rests : σ → Prop
  /-- How many steps of work there can be left. -/
  rank : σ → Nat
  /-- Work is done by every step of it. -/
  lowers : ∀ {state label next out}, m.Reachable state → works label = true →
    m.step state label = some (next, out) → rank next < rank state
  /-- What comes in between undoes nothing. -/
  stays : ∀ {state label next out}, m.Reachable state → works label = false → Quiet label →
    m.step state label = some (next, out) → rank next ≤ rank state
  /-- The machine is never stuck with work left. -/
  goes : ∀ {state}, m.Reachable state → ¬Rests state →
    ∃ label next out, works label = true ∧ m.step state label = some (next, out)

namespace Settling

variable {m : Lts σ ε ω} (settling : m.Settling)

/-- However other labels come in between, no more steps of work are taken than are left. -/
theorem count_le {state last : σ} (reachable : m.Reachable state) {labels : List ε} {out : List ω}
    (quiet : ∀ label ∈ labels, settling.works label = false → settling.Quiet label)
    (executed : m.exec state labels = some (last, out)) :
    labels.countP settling.works + settling.rank last ≤ settling.rank state := by
  -- Each label is either a step of work, which is paid for by the rank, or leaves the rank alone.
  induction labels generalizing state out with
  | nil =>
    simp only [exec, Option.some.injEq, Prod.mk.injEq] at executed
    obtain ⟨rfl, _⟩ := executed
    simp
  | cons label labels ih =>
    obtain ⟨next, first, rest, taken, remaining, rfl⟩ := exec_cons executed
    have others := ih (reachable.step taken)
      (fun other member => quiet other (List.mem_cons_of_mem _ member)) remaining
    cases working : settling.works label with
    | true =>
      have lower := settling.lowers reachable working taken
      rw [List.countP_cons_of_pos working]
      omega
    | false =>
      have kept := settling.stays reachable working (quiet label List.mem_cons_self working) taken
      rw [List.countP_cons_of_neg (by simp [working])]
      omega

/-- Where no step of work is possible the machine rests. -/
theorem rests_of_stuck {state : σ} (reachable : m.Reachable state)
    (stuck : ∀ label, settling.works label = true → m.step state label = none) :
    settling.Rests state := by
  by_contra unsettled
  obtain ⟨label, next, out, working, taken⟩ := settling.goes reachable unsettled
  rw [stuck label working] at taken
  cases taken

/-- From every reachable state the machine can come to rest by work alone. -/
theorem settles {state : σ} (reachable : m.Reachable state) :
    ∃ labels last out, (∀ label ∈ labels, settling.works label = true) ∧
      m.exec state labels = some (last, out) ∧ settling.Rests last := by
  -- The induction is on the rank, which the first step of work lowers.
  induction left : settling.rank state using Nat.strongRecOn generalizing state with
  | ind left ih =>
    by_cases rests : settling.Rests state
    · exact ⟨[], state, [], by simp, rfl, rests⟩
    · obtain ⟨label, next, out, working, taken⟩ := settling.goes reachable rests
      have lower := settling.lowers reachable working taken
      rw [left] at lower
      obtain ⟨labels, last, more, works, executed, rests⟩ :=
        ih _ lower (reachable.step taken) rfl
      refine ⟨label :: labels, last, out ++ more, ?_, ?_, rests⟩
      · intro other member
        rcases List.mem_cons.mp member with same | later
        · rw [same, working]
        · exact works other later
      · simp only [exec, taken, executed, Option.map_some]

end Settling

end Lts
