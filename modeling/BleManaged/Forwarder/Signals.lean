import BleManaged.Forwarder.Process

/-! Which signals the process can miss while it waits in one of its loops. -/

namespace BleManaged

/-- The streams that `start_forwarder` polls at a stage, which are none outside its loop. -/
def Stage.looping : Stage → Option SignalStreams
  | .selecting streams _ => some streams
  | _ => none

/-- The streams that the loop of `start_forwarder` polls, while it is waiting. -/
def Phase.looping : Phase → Option SignalStreams
  | .forwarding _ stage => stage.looping
  | _ => none

namespace Process

/-- The streams polled by the loop in which the process is waiting, if it is in one of them. -/
def polled (process : Process) : Option SignalStreams :=
  match process.phase with
  | .scanning => some process.streams
  | phase => phase.looping

/-- The process waits in a loop, and none of the streams it polls has a notification pending for
some delivery of a signal. -/
def Missed (process : Process) : Prop :=
  ∃ streams signal number, process.polled = some streams ∧
    number < process.delivered signal ∧ ¬(streams.get signal).Pending number

/-- When `start_forwarder` creates its second stream of signals, no signal has been delivered
before the creation of its own stream. -/
def InTime (process : Process) (label : Label) : Prop :=
  label = .created (.ok ()) → ∀ mux sigterm,
    process.phase = .forwarding mux (.creatingSigint sigterm) →
      sigterm.seen = 0 ∧ process.delivered .interrupt = 0

/-- The streams of `main` were created before any delivery, and no stream is ahead of its signal. -/
structure Notified (process : Process) : Prop where
  /-- Nothing is received from the streams of `main` before the process stops. -/
  main : process.phase = .stopped ∨ ∀ signal, (process.streams.get signal).seen = 0
  /-- The first stream of `start_forwarder` is not ahead. -/
  creating : ∀ mux sigterm, process.phase = .forwarding mux (.creatingSigint sigterm) →
    sigterm.seen ≤ process.delivered .terminate
  /-- The streams that its loop polls are not ahead. -/
  looping : ∀ streams, process.phase.looping = some streams →
    ∀ signal, (streams.get signal).seen ≤ process.delivered signal

/-- A signal is missed exactly by a loop of `start_forwarder` whose stream has missed some. -/
theorem Notified.missed_iff {process : Process} (notified : process.Notified) :
    process.Missed ↔
      ∃ streams signal, process.phase.looping = some streams ∧ 0 < (streams.get signal).seen := by
  constructor
  · intro missed
    obtain ⟨streams, signal, number, polled, _, unseen⟩ := missed
    simp only [SignalStream.Pending, Nat.not_le] at unseen
    simp only [Process.polled] at polled
    split at polled
    · -- The streams of `main` are notified of everything.
      rename_i phase
      cases polled
      rcases notified.main with stopped | all
      · simp [phase] at stopped
      · simp [all] at unseen
    · exact ⟨streams, signal, polled, Nat.zero_lt_of_lt unseen⟩
  · -- A stream that is behind some deliveries is not notified of the first of them.
    intro late
    obtain ⟨streams, signal, looping, positive⟩ := late
    refine ⟨streams, signal, 0, ?_, ?_, Nat.not_le.mpr positive⟩
    · simp only [Process.polled]
      split
      · rename_i phase
        simp [phase, Phase.looping] at looping
      · exact looping
    · exact Nat.lt_of_lt_of_le positive (notified.looping streams looping signal)

/-- A process stays notified when it goes to a phase in which no new stream is held. -/
theorem Notified.goto {process : Process} (notified : process.Notified)
    (up : process.phase ≠ .stopped) {phase : Phase}
    (creating : ∀ mux sigterm, phase ≠ .forwarding mux (.creatingSigint sigterm))
    (looping : ∀ streams, phase.looping = some streams → process.phase.looping = some streams) :
    (process.goto phase).Notified where
  main := .inr (notified.main.resolve_left up)
  creating := fun mux sigterm same => absurd same (creating mux sigterm)
  looping := fun streams same => notified.looping streams (looping streams same)

/-- After `start_forwarder` has returned, no loop of its own is waiting. -/
theorem after_looping (result : Except ForwarderError Bool) : (after result).looping = none := by
  cases result with
  | error error => rfl
  | ok restart => cases restart <;> rfl

/-- An await that makes `start_forwarder` return is not met in a process that has stopped. -/
theorem Returns.running {phase : Phase} {label : Label} {result : Except ForwarderError Bool}
    (returns : Returns phase label result) : phase ≠ .stopped := by
  cases returns <;> simp

/-- Every step keeps the process notified. -/
theorem Notified.step {process next : Process} {label : Label} {out : List ProcessEvent}
    (notified : process.Notified) (step : Step process label next out) : next.Notified := by
  -- Only the creation of a stream starts to count, and no step forgets a delivery.
  cases step with
  | @deliver signal =>
    -- One more delivery can only put the signal further ahead of its streams.
    have more : ∀ other, process.delivered other ≤ (process.deliver signal).delivered other := by
      intro other
      by_cases same : other = signal
      · subst same
        simp [Process.deliver]
      · simp [Process.deliver, same]
    refine ⟨notified.main, ?_, ?_⟩
    · intro mux sigterm phase
      exact Nat.le_trans (notified.creating mux sigterm phase) (more _)
    · intro streams looping other
      exact Nat.le_trans (notified.looping streams looping other) (more other)
  | stopped => exact ⟨.inl rfl, by simp, by simp [Phase.looping]⟩
  | createdSigterm phase =>
    refine ⟨.inr (notified.main.resolve_left (by simp [phase])), ?_, ?_⟩
    · intro mux sigterm same
      cases same
      exact Nat.le_refl _
    · simp [Phase.looping, Stage.looping]
  | createdSigint phase =>
    refine ⟨.inr (notified.main.resolve_left (by simp [phase])), by simp, ?_⟩
    intro streams same signal
    cases same
    -- One stream is as old as the phase before, and the other is new.
    cases signal with
    | terminate => exact notified.creating _ _ phase
    | interrupt => exact Nat.le_refl _
  | accepted phase | acceptFailed phase =>
    exact notified.goto (by simp [phase]) (by simp)
      (by simp [phase, Phase.looping, Stage.looping])
  | @mux label mux stage next out phase =>
    refine ⟨.inr (notified.main.resolve_left (by simp [phase])), ?_, ?_⟩
    · intro other sigterm same
      cases same
      exact notified.creating _ _ phase
    · intro streams same
      refine notified.looping streams ?_
      -- The turn leaves the stage alone, and with it the streams.
      rw [phase]
      exact same
  | refused phase =>
    exact notified.goto (by simp [phase]) (fun mux _ => after_ne_forwarding _ mux _)
      (by simp [after_looping])
  | returned returns =>
    exact notified.goto returns.running (fun mux _ => after_ne_forwarding _ mux _)
      (by simp [after_looping])
  | lost phase | found phase | bound phase | connected phase | interrupted phase
  | disconnectNotice phase | slept phase | stillConnected phase =>
    exact notified.goto (by simp [phase]) (by simp) (by simp [Phase.looping, Stage.looping])

/-- In every run the process is notified. -/
theorem notified {labels : List Label} {seen : List ProcessEvent} {process : Process}
    (run : machine.Run labels seen process) : process.Notified := by
  refine run.invariant (fun _ process => process.Notified) ?_ ?_
  · refine ⟨.inr ?_, by simp [machine], by simp [machine, Phase.looping]⟩
    intro signal
    cases signal <;> rfl
  · intro labels seen state label next out _ notified taken
    exact notified.step (step_cases taken)

/-- The loop of `start_forwarder` is waiting with a stream that has missed a delivery. -/
def Late (process : Process) : Prop :=
  ∃ streams signal, process.phase.looping = some streams ∧ 0 < (streams.get signal).seen

/-- A process that waits in the same loop as before, if in any, is not late if it was not. -/
theorem timely_of_looping {process next : Process} (timely : ¬process.Late)
    (looping : ∀ streams, next.phase.looping = some streams →
      process.phase.looping = some streams) : ¬next.Late := by
  intro late
  obtain ⟨streams, signal, same, positive⟩ := late
  exact timely ⟨streams, signal, looping streams same, positive⟩

/-- Only the creation of a stream can be out of time. -/
theorem inTime_of_ne {process : Process} {label : Label} (other : label ≠ .created (.ok ())) :
    process.InTime label := fun same => absurd same other

/-- A step lets a loop be late exactly when it creates the streams of that loop out of time. -/
theorem Step.timely {process next : Process} {label : Label} {out : List ProcessEvent}
    (timely : ¬process.Late) (step : Step process label next out) :
    ¬next.Late ↔ process.InTime label := by
  -- Being late is decided when the second stream is created; no other step changes it.
  cases step with
  | @createdSigint mux sigterm phase =>
    constructor
    · -- Streams that are not late have seen no delivery from the start.
      intro still _ other stream same
      rw [phase] at same
      cases same
      constructor
      · exact Nat.eq_zero_of_not_pos fun positive => still ⟨_, .terminate, rfl, positive⟩
      · exact Nat.eq_zero_of_not_pos fun positive => still ⟨_, .interrupt, rfl, positive⟩
    · intro inTime late
      obtain ⟨terminate, interrupt⟩ := inTime rfl mux sigterm phase
      obtain ⟨streams, signal, same, positive⟩ := late
      cases same
      cases signal with
      | terminate => simp [SignalStreams.get, terminate] at positive
      | interrupt => simp [SignalStreams.get, SignalStream.create, interrupt] at positive
  | createdSigterm phase =>
    refine iff_of_true ?_ ?_
    · exact timely_of_looping timely (by simp [Phase.looping, Stage.looping])
    · intro _ mux sigterm same
      simp [phase] at same
  | deliver => exact iff_of_true (timely_of_looping timely fun _ => id) (inTime_of_ne (by simp))
  | accepted phase | acceptFailed phase =>
    -- A new execution of the `select!` polls the same two streams.
    refine iff_of_true (timely_of_looping timely ?_) (inTime_of_ne (by simp))
    simp [phase, Phase.looping, Stage.looping]
  | mux phase =>
    refine iff_of_true (timely_of_looping timely fun streams same => ?_) (inTime_of_ne (by simp))
    rw [phase]
    exact same
  | refused =>
    exact iff_of_true (timely_of_looping timely (by simp [Process.returned, after_looping]))
      (inTime_of_ne (by simp))
  | returned returns =>
    exact iff_of_true (timely_of_looping timely (by simp [Process.returned, after_looping]))
      (inTime_of_ne returns.label_ne.2)
  | found | lost | stopped | interrupted | bound | connected | disconnectNotice | slept
  | stillConnected =>
    exact iff_of_true (timely_of_looping timely (by simp [Phase.looping, Stage.looping]))
      (inTime_of_ne (by simp))

/-- No signal is missed in any state of a run exactly if each forwarder comes to its loop without
an earlier delivery. -/
theorem no_signal_missed_iff {labels : List Label} {seen : List ProcessEvent} {process : Process}
    (run : machine.Run labels seen process) :
    machine.EachState (fun process => ¬process.Missed) labels ↔ machine.EachStep InTime labels := by
  refine run.eachState_iff ?_ ?_
  · -- Before the first step nothing has been delivered.
    intro missed
    obtain ⟨_, _, _, _, delivered, _⟩ := missed
    exact absurd delivered (Nat.not_lt_zero _)
  · intro labels seen state label next out reached timely taken
    -- In reachable states, to miss a signal is to be late.
    have step := step_cases taken
    rw [(notified reached).missed_iff] at timely
    rw [((notified reached).step step).missed_iff]
    exact step.timely timely

/-- A signal that arrives while the L2CAP stream is being connected is missed by the loop. -/
theorem missed_while_connecting :
    ¬∀ labels seen process, machine.Run labels seen process →
      machine.EachState (fun process => ¬process.Missed) labels := by
  intro always
  have run : machine.Run [.found (.ok ()), .bound (.ok ()), .deliver .terminate,
    .connected (.ok ()), .created (.ok ()), .created (.ok ())] _ _ := Lts.Run.of_exec rfl
  -- The loop waits with a stream that was created after the only delivery.
  exact (always _ _ _ run).last run ⟨_, .terminate, 0, rfl, Nat.zero_lt_one, Nat.not_succ_le_zero 0⟩

/-- A signal that arrives in the loop of `start_forwarder`, behind the creation of its streams, is
not missed: the loop has a notification pending for it. -/
theorem no_signal_missed_iff_forwarding :
    ∃ seen process streams, machine.Run (intoLoop ++ [.deliver .terminate]) seen process ∧
      process.phase.looping = some streams ∧ (streams.get .terminate).Pending 0 ∧
      machine.EachState (fun process => ¬process.Missed) (intoLoop ++ [.deliver .terminate]) := by
  obtain ⟨seen, process, streams, run, looping, pending⟩ : ∃ seen process streams,
      machine.Run (intoLoop ++ [.deliver .terminate]) seen process ∧
      process.phase.looping = some streams ∧ (streams.get .terminate).Pending 0 := by
    refine ⟨_, _, _, Lts.Run.of_exec rfl, rfl, ?_⟩
    exact Nat.le_refl 0
  -- Nothing has been delivered when the two streams of the forwarder are created.
  have connected : machine.EachStep InTime (intoLoop.take 3) :=
    .of_labels fun label member state => inTime_of_ne (by rintro rfl; simp [intoLoop] at member)
  have first : machine.Run (intoLoop.take 3) [] _ := Lts.Run.of_exec rfl
  have second : machine.Run (intoLoop.take 4) [] _ := Lts.Run.of_exec rfl
  have sigterm : machine.EachStep InTime (intoLoop.take 4) :=
    connected.snoc first fun _ mux sigterm phase => nomatch phase
  have sigint : machine.EachStep InTime intoLoop :=
    sigterm.snoc second fun _ mux sigterm phase => by
      cases phase
      exact ⟨rfl, rfl⟩
  have inTime : machine.EachStep InTime (intoLoop ++ [.deliver .terminate]) :=
    sigint.append fun label member state => inTime_of_ne (by rintro rfl; simp at member)
  exact ⟨seen, process, streams, run, looping, pending, (no_signal_missed_iff run).mpr inTime⟩

end Process

end BleManaged
