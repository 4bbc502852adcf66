import BleManaged.Forwarder.Process

/-! Whether `start_forwarder` goes on listening while it is up. -/

namespace BleManaged

namespace Process

/-- Whenever the loop of `start_forwarder` is waiting, its accept branch is armed, and a connection
that arrives now is passed to `add_tcp_stream`. -/
def Listening (process : Process) : Prop :=
  ∀ mux streams accepting,
    process.phase = .forwarding mux (.selecting streams accepting) →
      accepting = true ∧
        ∃ next out, process.step .accepted = some (next, out) ∧
          ∃ result, .mux (.added mux.calls result) ∈ out

/-- A call of `add_tcp_stream` shows what it returns, an error or not. -/
theorem added_mem (mux : Mux) : ∃ result, .added mux.calls result ∈ mux.addTcpStream.2 := by
  have step := Mux.addTcpStream_cases mux
  generalize mux.addTcpStream = added at step ⊢
  obtain ⟨next, out⟩ := added
  -- Each of the three ways out of the call ends with its return.
  cases step with
  | refused => exact ⟨.error .tooManyOpenConnections, by simp⟩
  | unsent => exact ⟨.error .send, by simp⟩
  | added => exact ⟨.ok (), by simp⟩

/-- Where the accept branch is armed, a connection that arrives is passed to `add_tcp_stream`. -/
theorem accept_shows {process : Process} {mux : Mux} {streams : SignalStreams}
    (phase : process.phase = .forwarding mux (.selecting streams true)) :
    ∃ next out, process.step .accepted = some (next, out) ∧
      ∃ result, .mux (.added mux.calls result) ∈ out := by
  obtain ⟨result, shown⟩ := added_mem mux
  refine ⟨_, _, by simp only [step, phase]; rfl, result, ?_⟩
  -- The events of the call are shown whether or not `start_forwarder` returns after it.
  cases failed : addError mux.addTcpStream.2 with
  | none => simpa [accept, failed] using shown
  | some error => simp [shown]

/-- The process listens exactly where the accept branch of a waiting loop is armed. -/
theorem listening_iff_armed (process : Process) :
    process.Listening ↔
      ∀ mux streams, process.phase ≠ .forwarding mux (.selecting streams false) := by
  constructor
  · intro listening mux streams phase
    obtain ⟨armed, _⟩ := listening mux streams false phase
    cases armed
  · intro armed mux streams accepting phase
    cases accepting with
    | false => exact absurd phase (armed mux streams)
    | true => exact ⟨rfl, accept_shows phase⟩

/-- A step goes on listening exactly when it is not a failed accept. -/
theorem Step.listening {process next : Process} {label : Label} {out : List ProcessEvent}
    (listening : process.Listening) (step : Step process label next out) :
    next.Listening ↔ label ≠ .acceptFailed := by
  rw [listening_iff_armed] at listening ⊢
  -- Only the loop itself arms or disables its branch.
  cases step with
  | acceptFailed => simp [goto]
  | deliver => simpa [Process.deliver] using listening
  | mux phase =>
    -- The tasks of the multiplexer do not arm or disable the branch.
    simp only [ne_eq, reduceCtorEq, not_false_eq_true, iff_true]
    intro mux streams same
    cases same
    exact listening _ _ phase
  | lost | found | bound | connected | createdSigterm | createdSigint | accepted => simp [goto]
  | stopped | interrupted | disconnectNotice | slept | stillConnected => simp [goto]
  | refused => simp [Process.returned, after, goto]
  | returned returns =>
    refine ⟨fun _ => returns.label_ne.1, fun _ mux streams => ?_⟩
    exact after_ne_forwarding _ mux _

/-- `start_forwarder` goes on listening in every state of a run exactly if no accept fails. -/
theorem listening_iff {labels : List Label} {seen : List ProcessEvent} {process : Process}
    (run : machine.Run labels seen process) :
    machine.EachState Listening labels ↔ ∀ label ∈ labels, label ≠ .acceptFailed := by
  rw [← run.eachStep_labels_iff]
  refine run.eachState_iff ?_ ?_
  · exact fun mux streams accepting phase => nomatch phase
  · intro labels seen state label next out _ listening taken
    exact (step_cases taken).listening listening

/-- After one failed accept the loop goes on waiting, and listens no more. -/
theorem deaf_after_failed_accept :
    ¬∀ labels seen process, machine.Run labels seen process →
      machine.EachState Listening labels := by
  intro always
  have run : machine.Run (intoLoop ++ [.acceptFailed]) _ _ := Lts.Run.of_exec rfl
  -- The branch is disabled in the last state of the run.
  have armed := (listening_iff_armed _).mp ((always _ _ _ run).last run)
  exact armed _ _ rfl

/-- A forwarder that has accepted one stream has been listening all along. -/
theorem listening_iff_one_stream :
    ∃ seen process, machine.Run (intoLoop ++ [.accepted]) seen process ∧
      machine.EachState Listening (intoLoop ++ [.accepted]) := by
  obtain ⟨seen, process, run⟩ : ∃ seen process,
      machine.Run (intoLoop ++ [.accepted]) seen process := ⟨_, _, Lts.Run.of_exec rfl⟩
  exact ⟨seen, process, run, (listening_iff run).mpr (by simp [intoLoop])⟩

/-- The stages up to the end of the loop of `start_forwarder`. -/
def Up : Stage → Prop
  | .creatingSigterm | .creatingSigint _ | .selecting _ _ => True
  | .sleeping _ | .checking _ | .disconnecting _ => False

/-- The multiplexer inside the process has been brought about by the calls of its owner, who does
not stop it before the end of the loop. -/
def Owned (process : Process) : Prop :=
  ∀ mux stage, process.phase = .forwarding mux stage →
    (∃ labels seen, OwnedMux.machine.Run labels seen { mux, dropped := false }) ∧
      (Up stage → mux.stopped = false)

/-- A process that has left the loop of `start_forwarder`, or not begun it, owns no multiplexer. -/
theorem owned_of_other {process : Process}
    (other : ∀ mux stage, process.phase ≠ .forwarding mux stage) : process.Owned :=
  fun mux stage phase => absurd phase (other mux stage)

/-- A step of the multiplexer inside the process is a step in the hands of its owner. -/
theorem owned_goto {process : Process} (owned : process.Owned) {mux next : Mux} {stage now : Stage}
    (phase : process.phase = .forwarding mux stage) {label : Mux.Label} {out : List Event}
    (taken : mux.step label = some (next, out)) (held : label ≠ .drop)
    (up : Up now → next.stopped = false) : (process.goto (.forwarding next now)).Owned := by
  obtain ⟨⟨labels, seen, run⟩, _⟩ := owned mux stage phase
  have kept : OwnedMux.droppedBy { mux, dropped := false } label = false := by
    cases label <;> first | rfl | exact absurd rfl held
  have further := @OwnedMux.step_of_held { mux, dropped := false } rfl label next out taken
  rw [kept] at further
  intro other later same
  cases same
  exact ⟨⟨_, _, run.snoc further⟩, up⟩

/-- Every step keeps the multiplexer in the hands of its owner. -/
theorem Step.owned {process next : Process} {label : Label} {out : List ProcessEvent}
    (owned : process.Owned) (step : Step process label next out) : next.Owned := by
  cases step with
  | deliver => exact owned
  | connected =>
    intro mux stage same
    cases same
    exact ⟨⟨[], [], .start⟩, fun _ => rfl⟩
  | createdSigterm phase | createdSigint phase =>
    -- The mux stays as it is, and has been up before.
    obtain ⟨run, up⟩ := owned _ _ phase
    intro mux stage same
    cases same
    exact ⟨run, fun _ => up trivial⟩
  | acceptFailed phase =>
    obtain ⟨run, up⟩ := owned _ _ phase
    intro mux stage same
    cases same
    exact ⟨run, fun _ => up trivial⟩
  | interrupted phase | slept phase | stillConnected phase =>
    -- After the loop nothing is promised about a stop.
    obtain ⟨run, _⟩ := owned _ _ phase
    intro mux stage same
    cases same
    exact ⟨run, fun up => up.elim⟩
  | accepted phase =>
    have up := (owned _ _ phase).2 trivial
    refine owned_goto owned phase (by rfl : Mux.step _ .addTcpStream = _) (by simp) fun _ => ?_
    -- A call of `add_tcp_stream` does not stop the mux.
    exact (Mux.addTcpStream_cases _).up_iff.mpr ⟨up, by simp [Mux.Label.Stops]⟩
  | disconnectNotice phase noticed =>
    exact owned_goto owned phase noticed (by simp) (by simp [Up])
  | @mux label mux stage next out phase free taken =>
    -- The tasks of the mux neither stop nor drop it.
    have held : label ≠ .drop := by
      rintro rfl
      exact free trivial
    have going : ¬label.Stops := by
      rintro (rfl | rfl) <;> exact free trivial
    refine owned_goto owned phase taken held fun stage => ?_
    exact (Mux.step_cases taken).up_iff.mpr ⟨(owned _ _ phase).2 stage, going⟩
  | found | lost | bound | stopped => exact owned_of_other fun mux stage => by simp [goto]
  | @refused _ _ error => exact owned_of_other (after_ne_forwarding (.error (.addTcpStream error)))
  | @returned label result => exact owned_of_other (after_ne_forwarding result)

/-- In every run the multiplexer is in the hands of its owner. -/
theorem owned {labels : List Label} {seen : List ProcessEvent} {process : Process}
    (run : machine.Run labels seen process) : process.Owned := by
  refine run.invariant (fun _ process => process.Owned) ?_ ?_
  · exact owned_of_other fun mux stage => by simp [machine]
  · intro labels seen state label next out _ owned taken
    exact (step_cases taken).owned owned

end Process

end BleManaged
