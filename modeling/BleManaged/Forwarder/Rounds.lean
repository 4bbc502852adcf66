import BleManaged.Forwarder.Accepting
import BleManaged.Forwarder.Signals

/-! What has happened in a call of `start_forwarder`, told from what it returns. -/

namespace BleManaged

namespace Mux

/-- Whoever asks for a stop has not been able to deserialize a packet. -/
structure Blames (seen : List Event) (mux : Mux) : Prop where
  signalling : mux.pipeOutTcp = .signalling → ∃ error, .undecoded error ∈ seen
  requested : mux.stopDueToDisconnect ≠ [] →
    .stopSignal ∈ seen ∧ ∃ error, .undecoded error ∈ seen

/-- More events do not change what can be blamed on the earlier ones. -/
theorem Blames.of_same {seen out : List Event} {mux next : Mux} (blames : mux.Blames seen)
    (turn : next.pipeOutTcp = .signalling → mux.pipeOutTcp = .signalling)
    (requests : next.stopDueToDisconnect ≠ [] → mux.stopDueToDisconnect ≠ []) :
    next.Blames (seen ++ out) where
  signalling := fun signalling => by
    obtain ⟨error, member⟩ := blames.signalling (turn signalling)
    exact ⟨error, List.mem_append_left _ member⟩
  requested := fun requested => by
    obtain ⟨signal, error, member⟩ := blames.requested (requests requested)
    exact ⟨List.mem_append_left _ signal, error, List.mem_append_left _ member⟩

/-- An aborted task asks for nothing. -/
theorem stop_signalling {mux : Mux} (signalling : mux.stop.pipeOutTcp = .signalling) :
    mux.pipeOutTcp = .signalling := by
  -- An abort does not leave the task signalling.
  by_cases stopped : mux.stopped = true
  · rwa [stop_of_stopped stopped] at signalling
  · rw [stop_pipeOutTcp (by simpa using stopped)] at signalling
    split at signalling
    · cases turn : mux.pipeOutTcp <;> simp [PipeOutTcp.abort, turn] at signalling
    · exact signalling

/-- Every step keeps the blame where it belongs. -/
theorem Blames.step {seen out : List Event} {mux next : Mux} {label : Label}
    (blames : mux.Blames seen) (step : Step mux label next out) : next.Blames (seen ++ out) := by
  cases step with
  | @undecoded error =>
    refine ⟨fun _ => ⟨error, by simp⟩, fun requested => ?_⟩
    exact (blames.of_same (fun turn => turn) (fun requests => requests)).requested requested
  | sendStop turn =>
    -- The packet in question has been met before the task came to signal.
    obtain ⟨error, member⟩ := blames.signalling turn
    exact ⟨by simp, fun _ => ⟨by simp, error, List.mem_append_left _ member⟩⟩
  | stopRequested requested =>
    exact blames.of_same stop_signalling fun _ => by simp [requested]
  | drop => exact blames.of_same stop_signalling (by simp)
  | offered => exact blames.of_same (by simp) id
  | wroteTcp => exact blames.of_same (by simp) id
  | read | sendKeepalive => exact blames.of_same (by simp) (by simp)
  | readerEnded => exact blames.of_same (by simp [closeReader]) (by simp [closeReader])
  | added | refused | unsent | l2capClosed | skipped | unknownData | unknownClosed | closed
  | pipeInTcp => exact blames.of_same id id

/-- In every run a stop request has its cause. -/
theorem blames {labels : List Label} {seen : List Event} {mux : Mux}
    (run : machine.Run labels seen mux) : mux.Blames seen := by
  -- At the start nobody signals and nothing is requested.
  refine run.invariant (fun seen mux => mux.Blames seen) ?_ ?_
  · exact ⟨by simp [machine, createAndStart], by simp [machine, createAndStart]⟩
  · intro labels seen mux label next out _ blames taken
    exact blames.step (step_cases taken)

end Mux

namespace Process

/-- A call of `start_forwarder`: the labels since, with those of its multiplexer and what that one
has shown. -/
structure Round where
  labels : List Label
  tasks : List Mux.Label
  events : List Event

namespace Round

/-- The multiplexer could not deserialize a packet, and has asked for its stop. -/
def Disconnected (round : Round) : Prop :=
  .stopSignal ∈ round.events ∧ ∃ error, .undecoded error ∈ round.events

/-- A signal has been delivered since `start_forwarder` was called. -/
def Signalled (round : Round) : Prop :=
  ∃ signal, .deliver signal ∈ round.labels

/-- The loop of `start_forwarder` has been left for a reason. -/
def Left (round : Round) : Bool → Prop
  | true => round.Disconnected
  | false => round.Signalled

/-- The multiplexer has not been stopped. -/
def Up (round : Round) : Prop := ∀ label ∈ round.tasks, ¬label.Stops

/-- No TCP stream has been passed to the multiplexer. -/
def Untouched (round : Round) : Prop := ∀ stream result, .added stream result ∉ round.events

/-- What has happened when `start_forwarder` returns this. -/
def Warrants (round : Round) : Except ForwarderError Bool → Prop
  | .ok restart => round.Left restart
  -- There is no multiplexer yet.
  | .error (.bind _) | .error (.connectL2cap _) => round.tasks = [] ∧ round.events = []
  | .error (.signal _) => round.Up ∧ round.Untouched
  -- The channel to the L2CAP stream is open as long as the loop runs.
  | .error (.addTcpStream error) =>
    round.Up ∧ error = .tooManyOpenConnections ∧
      ∃ stream, .added stream (.error error) ∈ round.events
  | .error (.isConnected _) => ∃ restart, round.Left restart

/-- What has happened when the multiplexer of the round is at a stage, given how often each signal
had been delivered before the round. -/
def At (round : Round) (delivered : Signal → Nat) : Stage → Prop
  | .creatingSigterm => round.Up ∧ round.Untouched
  | .creatingSigint sigterm =>
    round.Up ∧ round.Untouched ∧ delivered .terminate ≤ sigterm.seen
  | .selecting streams _ =>
    round.Up ∧ ∀ signal, delivered signal ≤ (streams.get signal).seen
  | .sleeping restart | .checking restart | .disconnecting restart => round.Left restart

/-- What has happened when the process is in a phase of the round. -/
def In (round : Round) (delivered : Signal → Nat) : Phase → Prop
  | .scanning | .stopped => False
  | .binding | .connecting => round.tasks = [] ∧ round.events = []
  | .forwarding mux stage =>
    Mux.machine.Run round.tasks round.events mux ∧ round.At delivered stage

/-- The round after one more label of the process, with what its multiplexer did meanwhile. -/
def extended (round : Round) (label : Label) (turns : List Mux.Label) (shown : List Event) :
    Round where
  labels := round.labels ++ [label]
  tasks := round.tasks ++ turns
  events := round.events ++ shown

/-- A reason to leave the loop remains one. -/
theorem Left.extended {round : Round} {restart : Bool} (left : round.Left restart) {label : Label}
    {turns : List Mux.Label} {shown : List Event} :
    (round.extended label turns shown).Left restart := by
  -- The reason is in the events or in the labels of the round, which only grow.
  cases restart with
  | true =>
    obtain ⟨signal, error, member⟩ := left
    exact ⟨List.mem_append_left _ signal, error, List.mem_append_left _ member⟩
  | false =>
    obtain ⟨signal, member⟩ := left
    exact ⟨signal, List.mem_append_left _ member⟩

/-- What does not stop the multiplexer leaves it up. -/
theorem Up.extended {round : Round} (up : round.Up) {label : Label} {turns : List Mux.Label}
    {shown : List Event} (harmless : ∀ turn ∈ turns, ¬turn.Stops) :
    (round.extended label turns shown).Up := fun turn member =>
  (List.mem_append.mp member).elim (up turn) (harmless turn)

/-- What adds no stream leaves the multiplexer untouched. -/
theorem Untouched.extended {round : Round} (untouched : round.Untouched) {label : Label}
    {turns : List Mux.Label} {shown : List Event}
    (harmless : ∀ stream result, .added stream result ∉ shown) :
    (round.extended label turns shown).Untouched := fun stream result member =>
  (List.mem_append.mp member).elim (untouched stream result) (harmless stream result)

/-- Whatever neither stops the multiplexer nor adds a stream to it keeps the round at its stage. -/
theorem At.extended {round : Round} {delivered : Signal → Nat} {stage : Stage}
    (reached : round.At delivered stage) {label : Label} {turns : List Mux.Label}
    {shown : List Event} (harmless : ∀ turn ∈ turns, ¬turn.Stops)
    (quiet : ∀ stream result, .added stream result ∉ shown) :
    (round.extended label turns shown).At delivered stage := by
  -- Up to the end of the loop the mux must not be stopped, and later only the reason counts.
  cases stage with
  | creatingSigterm => exact ⟨reached.1.extended harmless, reached.2.extended quiet⟩
  | creatingSigint =>
    exact ⟨reached.1.extended harmless, reached.2.1.extended quiet, reached.2.2⟩
  | selecting => exact ⟨reached.1.extended harmless, reached.2⟩
  | sleeping | checking | disconnecting => exact Left.extended reached

/-- A label of the process alone keeps the round in its phase. -/
theorem In.extended {round : Round} {delivered : Signal → Nat} {phase : Phase}
    (inside : round.In delivered phase) {label : Label} :
    (round.extended label [] []).In delivered phase := by
  cases phase with
  | scanning | stopped => exact inside.elim
  | binding | connecting => simpa [In, Round.extended] using inside
  | forwarding mux stage =>
    refine ⟨?_, inside.2.extended (by simp) (by simp)⟩
    simpa [Round.extended] using inside.1

/-- The round under way: how often signals have been delivered since, and where it is. -/
structure Fits (round : Round) (delivered : Signal → Nat) (process : Process) : Prop where
  grows : ∀ signal, delivered signal ≤ process.delivered signal
  counted : ∀ signal, delivered signal < process.delivered signal →
    .deliver signal ∈ round.labels
  inside : round.In delivered process.phase

end Round

end Process

/-- Only `add_tcp_stream` tells what it has returned. -/
theorem Mux.Step.added_not_mem {mux next : Mux} {label : Label} {out : List Event}
    (step : Step mux label next out) (other : label ≠ .addTcpStream) (stream : StreamId)
    (result : Except AddError Unit) : .added stream result ∉ out := by
  -- The events of the other steps are listed case by case.
  cases step with
  | refused | unsent | added => exact absurd rfl other
  | @read reader port bytes =>
    obtain ⟨_, sent⟩ | ⟨_, sent⟩ := mux.enqueue_cases (.reader reader) (.data port bytes)
    all_goals simp [sent]
  | @readerEnded reader port =>
    obtain ⟨_, sent⟩ | ⟨_, sent⟩ := Mux.enqueue_cases
      { mux with readers := Function.update mux.readers reader (some { port, state := .ended }) }
      (.reader reader) (Packet.controlSocketClosed port)
    all_goals simp [closeReader, sent]
  | sendKeepalive =>
    obtain ⟨_, sent⟩ | ⟨_, sent⟩ := mux.enqueue_cases .keepalive Packet.keepalive
    all_goals simp [sent]
  | _ => simp

/-- A multiplexer that has not been stopped refuses a stream only for want of a port. -/
theorem Mux.addError_of_up {labels : List Label} {seen : List Event} {mux : Mux}
    (run : machine.Run labels seen mux) (up : ∀ label ∈ labels, ¬label.Stops) {error : AddError}
    (refused : Process.addError mux.addTcpStream.2 = some error) :
    error = .tooManyOpenConnections ∧ .added mux.calls (.error error) ∈ mux.addTcpStream.2 := by
  have step := mux.addTcpStream_cases
  generalize mux.addTcpStream = result at step refused
  cases result with
  | mk next out =>
    cases step with
    | refused =>
      simp only [Process.addError] at refused
      obtain rfl : AddError.tooManyOpenConnections = error := by simpa using refused
      exact ⟨rfl, by simp⟩
    | unsent _ gone =>
      -- The receiver is gone only when the mux has been stopped.
      obtain ⟨label, member, stops⟩ := (stopped_iff run).mp ((sound run).closed.mpr gone)
      exact absurd stops (up label member)
    | added => simp [Process.addError] at refused

namespace Process

/-- What the multiplexer of a round has done is a run of it, which has not begun before there is
one. -/
theorem Round.In.run {round : Round} {delivered : Signal → Nat} {phase : Phase}
    (inside : round.In delivered phase) : ∃ mux, Mux.machine.Run round.tasks round.events mux := by
  -- Before there is a multiplexer the round has taken none of its turns.
  cases phase with
  | scanning | stopped => exact inside.elim
  | binding | connecting =>
    obtain ⟨tasks, events⟩ := inside
    rw [tasks, events]
    exact ⟨_, .start⟩
  | forwarding mux stage => exact ⟨mux, inside.1⟩

/-- How a round goes on with a label, or ends with it. -/
def Round.GoesOn (round : Round) (delivered : Signal → Nat) (label : Label) (next : Process)
    (out : List ProcessEvent) : Prop :=
  ∃ turns shown, (∃ mux, Mux.machine.Run (round.tasks ++ turns) (round.events ++ shown) mux) ∧
    ((round.extended label turns shown).Fits delivered next ∧ out = shown.map .mux ∨
      ∃ result, (round.extended label turns shown).Warrants result ∧
        out = shown.map .mux ++ [.returned result] ∧ next.phase = after result)

/-- A round goes on when it comes to another phase without its multiplexer. -/
theorem Round.Fits.goto {round : Round} {delivered : Signal → Nat} {process : Process}
    (fits : round.Fits delivered process) {label : Label} {phase : Phase}
    (inside : (round.extended label [] []).In delivered phase) :
    round.GoesOn delivered label (process.goto phase) [] := by
  refine ⟨[], [], by simpa using fits.inside.run, .inl ⟨⟨fits.grows, ?_, inside⟩, rfl⟩⟩
  exact fun signal more => List.mem_append_left _ (fits.counted signal more)

/-- A round goes on when its multiplexer takes a step. -/
theorem Round.Fits.turn {round : Round} {delivered : Signal → Nat} {process : Process}
    (fits : round.Fits delivered process) {mux next : Mux} {stage now : Stage}
    (phase : process.phase = .forwarding mux stage) {label : Label} {turn : Mux.Label}
    {shown : List Event} (taken : mux.step turn = some (next, shown))
    (reached : (round.extended label [turn] shown).At delivered now) :
    round.GoesOn delivered label (process.goto (.forwarding next now)) (shown.map .mux) := by
  have inside := fits.inside
  rw [phase] at inside
  have run := inside.1.snoc taken
  refine ⟨[turn], shown, ⟨next, run⟩, .inl ⟨⟨fits.grows, ?_, run, reached⟩, rfl⟩⟩
  exact fun signal more => List.mem_append_left _ (fits.counted signal more)

/-- A round ends when `start_forwarder` returns what is warranted already. -/
theorem Round.Fits.returned {round : Round} {delivered : Signal → Nat} {process : Process}
    (fits : round.Fits delivered process) {label : Label} {result : Except ForwarderError Bool}
    (warrants : (round.extended label [] []).Warrants result) :
    round.GoesOn delivered label (process.returned result).1 (process.returned result).2 :=
  ⟨[], [], by simpa using fits.inside.run, .inr ⟨result, warrants, rfl, rfl⟩⟩

/-- A step of a round goes on with the round, or ends it with a result that it warrants. -/
theorem Round.Fits.step {round : Round} {delivered : Signal → Nat} {process next : Process}
    {label : Label} {out : List ProcessEvent} (fits : round.Fits delivered process)
    (step : Step process label next out) : round.GoesOn delivered label next out := by
  have inside := fits.inside
  have kept : (round.extended label [] []).In delivered process.phase := inside.extended
  cases step with
  | @deliver signal =>
    refine ⟨[], [], by simpa using inside.run, .inl ⟨⟨?_, ?_, kept⟩, rfl⟩⟩
    · intro other
      refine Nat.le_trans (fits.grows other) ?_
      by_cases same : other = signal
      · simp [Process.deliver, same]
      · simp [Process.deliver, same]
    · intro other more
      by_cases same : other = signal
      · simp [extended, same]
      · have more : delivered other < process.delivered other := by
          simpa [Process.deliver, same] using more
        exact List.mem_append_left _ (fits.counted other more)
  | found phase | lost phase | stopped phase => exact (phase ▸ inside).elim
  | @interrupted signal mux streams accepting stream phase notified =>
    rw [phase] at inside kept
    refine fits.goto ⟨kept.1, signal, List.mem_append_left _ (fits.counted signal ?_)⟩
    -- The stream was created after the beginning of the round, and there is something to receive.
    have fresh := inside.2.2 signal
    simp only [SignalStream.recv, Option.ite_none_right_eq_some] at notified
    exact Nat.lt_of_le_of_lt fresh notified.1
  | bound phase =>
    rw [phase] at kept
    exact fits.goto kept
  | connected phase =>
    rw [phase] at kept
    obtain ⟨tasks, events⟩ := kept
    refine fits.goto ⟨?_, by simp [Up, tasks], by simp [Untouched, events]⟩
    rw [tasks, events]
    exact .start
  | createdSigterm phase =>
    rw [phase] at kept
    exact fits.goto ⟨kept.1, kept.2.1, kept.2.2, fits.grows .terminate⟩
  | createdSigint phase =>
    rw [phase] at kept
    obtain ⟨run, up, _, sigterm⟩ := kept
    refine fits.goto ⟨run, up, fun signal => ?_⟩
    cases signal with
    | terminate => exact sigterm
    | interrupt => exact fits.grows .interrupt
  | @accepted mux _ phase =>
    rw [phase] at inside
    have added : mux.step .addTcpStream = some mux.addTcpStream := rfl
    refine fits.turn phase added ⟨inside.2.1.extended ?_, inside.2.2⟩
    simp [Mux.Label.Stops]
  | @refused mux streams error phase refused =>
    rw [phase] at inside
    obtain ⟨run, up, _⟩ := inside
    obtain ⟨full, shown⟩ := Mux.addError_of_up run up refused
    have added : Mux.machine.step mux .addTcpStream = some mux.addTcpStream := rfl
    refine ⟨[.addTcpStream], mux.addTcpStream.2, ⟨_, run.snoc added⟩, .inr ⟨_, ?_, rfl, rfl⟩⟩
    exact ⟨up.extended (by simp [Mux.Label.Stops]), full, mux.calls, List.mem_append_right _ shown⟩
  | acceptFailed phase =>
    rw [phase] at kept
    exact fits.goto kept
  | @disconnectNotice mux streams accepting next shown phase noticed =>
    rw [phase] at inside
    have left : round.Left true := by
      -- There is a request, and it has its cause.
      refine (Mux.blames inside.1).requested fun none => ?_
      simp [Mux.step, Mux.waitForStopDueToDisconnect, none] at noticed
    exact fits.turn phase noticed left.extended
  | slept phase | stillConnected phase =>
    rw [phase] at kept
    exact fits.goto kept
  | returned returns =>
    generalize process.phase = now at returns kept
    refine fits.returned ?_
    cases returns with
    | bind | connectL2cap => exact kept
    | sigterm => exact kept.2
    | sigint => exact ⟨kept.2.1, kept.2.2.1⟩
    | isConnected => exact ⟨_, kept.2⟩
    | gone | disconnected => exact kept.2
  | @mux turn mux stage next shown phase free taken =>
    rw [phase] at inside
    refine fits.turn phase taken (inside.2.extended ?_ ?_)
    · intro other member stops
      obtain rfl := List.mem_singleton.mp member
      -- Both labels that stop a mux are calls of its owner.
      rcases stops with rfl | rfl <;> exact free trivial
    · refine (Mux.step_cases taken).added_not_mem fun call => ?_
      subst call
      exact free trivial

/-- The round is what has happened in a run since the last call of `start_forwarder`, before which
signals had been delivered this often. -/
def Round.Since (round : Round) (delivered : Signal → Nat) (labels : List Label)
    (seen : List ProcessEvent) : Prop :=
  ∃ earlier before prior, labels = earlier ++ .found (.ok ()) :: round.labels ∧
    machine.Run earlier before prior ∧ prior.phase = .scanning ∧ prior.delivered = delivered ∧
    seen = before ++ round.events.map .mux

/-- One more label of a run belongs to the round under way. -/
theorem Round.Since.extended {round : Round} {delivered : Signal → Nat} {labels : List Label}
    {seen : List ProcessEvent} (since : round.Since delivered labels seen) {label : Label}
    {turns : List Mux.Label} {shown : List Event} :
    (round.extended label turns shown).Since delivered (labels ++ [label])
      (seen ++ shown.map .mux) := by
  obtain ⟨earlier, before, prior, whole, run, scanning, counts, told⟩ := since
  refine ⟨earlier, before, prior, ?_, run, scanning, counts, ?_⟩
  · simp [whole, Round.extended]
  · simp [told, Round.extended]

/-- A run is in a call of `start_forwarder` whenever it is not in the loop of `main` or past it. -/
def Calling (labels : List Label) (seen : List ProcessEvent) (process : Process) : Prop :=
  process.phase = .scanning ∨ process.phase = .stopped ∨
    ∃ (round : Round) (delivered : Signal → Nat),
      round.Since delivered labels seen ∧ round.Fits delivered process

/-- `main` goes on searching or ends when `start_forwarder` returns. -/
theorem after_cases (result : Except ForwarderError Bool) :
    after result = .scanning ∨ result = .ok false ∧ after result = .stopped := by
  -- The three arms of the match in `main` come to two phases.
  cases result with
  | error => exact .inl rfl
  | ok restart =>
    cases restart with
    | true => exact .inl rfl
    | false => exact .inr ⟨rfl, rfl⟩

/-- In every run the calls of `start_forwarder` come one after the other. -/
theorem calling {labels : List Label} {seen : List ProcessEvent} {process : Process}
    (run : machine.Run labels seen process) : Calling labels seen process := by
  induction run with
  | start => exact .inl rfl
  | @snoc labels seen process label out next before taken ih =>
    have step := step_cases taken
    rcases ih with scanning | stopped | ⟨round, delivered, since, fits⟩
    · cases step with
      | deliver => exact .inl scanning
      | lost => exact .inl rfl
      | stopped => exact .inr (.inl rfl)
      | found =>
        -- The round begins with nothing done.
        refine .inr (.inr ⟨⟨[], [], []⟩, process.delivered, ?_, ?_⟩)
        · exact ⟨labels, seen, process, rfl, before, scanning, rfl, by simp⟩
        · exact ⟨fun _ => Nat.le_refl _, fun _ more => absurd more (Nat.lt_irrefl _), rfl, rfl⟩
      | returned returns =>
        rw [scanning] at returns
        cases returns
      | interrupted phase | bound phase | connected phase | createdSigterm phase
      | createdSigint phase | accepted phase | refused phase | acceptFailed phase
      | disconnectNotice phase | slept phase | stillConnected phase | mux phase =>
        simp [scanning] at phase
    · cases step with
      | deliver => exact .inr (.inl stopped)
      | returned returns => exact absurd stopped returns.running
      | lost phase | stopped phase | found phase | interrupted phase | bound phase
      | connected phase | createdSigterm phase | createdSigint phase | accepted phase
      | refused phase | acceptFailed phase | disconnectNotice phase | slept phase
      | stillConnected phase | mux phase => simp [stopped] at phase
    · obtain ⟨turns, shown, _, ⟨fits, rfl⟩ | ⟨result, _, rfl, left⟩⟩ := fits.step step
      · exact .inr (.inr ⟨_, delivered, since.extended, fits⟩)
      · rw [Calling, left]
        rcases after_cases result with again | ⟨_, ended⟩
        · exact .inl again
        · exact .inr (.inl ended)

/-- Outside the calls of `start_forwarder` nothing is returned by it. -/
theorem Step.returned_inside {process next : Process} {label : Label} {out : List ProcessEvent}
    {result : Except ForwarderError Bool} (step : Step process label next out)
    (returned : .returned result ∈ out) :
    process.phase ≠ .scanning ∧ process.phase ≠ .stopped := by
  -- `start_forwarder` returns out of its loop or out of one of its awaits.
  cases step with
  | refused phase => simp [phase]
  | returned returns =>
    refine ⟨fun scanning => ?_, returns.running⟩
    rw [scanning] at returns
    cases returns
  | accepted | disconnectNotice | mux => simp at returned
  | _ => cases returned

/-- Whatever `start_forwarder` returns is warranted by what has happened since it was called: that
its multiplexer asked for a stop because it could not deserialize a packet, that a signal was
delivered, or that the call it blames has failed. -/
theorem start_forwarder_warranted {labels : List Label} {seen out : List ProcessEvent}
    {process next : Process} {label : Label} {result : Except ForwarderError Bool}
    (run : machine.Run labels seen process) (taken : machine.step process label = some (next, out))
    (returned : .returned result ∈ out) :
    ∃ (round : Round) (delivered : Signal → Nat) (shown : List ProcessEvent),
      round.Since delivered (labels ++ [label]) (seen ++ shown) ∧
      out = shown ++ [.returned result] ∧
      (∃ mux, Mux.machine.Run round.tasks round.events mux) ∧
      round.Warrants result ∧ next.phase = after result := by
  have step := step_cases taken
  obtain ⟨searching, ended⟩ := step.returned_inside returned
  -- The label is taken inside a round, and the round cannot go on after it.
  obtain ⟨round, delivered, since, fits⟩ :=
    ((calling run).resolve_left searching).resolve_left ended
  obtain ⟨turns, shown, inner, ⟨_, rfl⟩ | ⟨other, warrants, rfl, left⟩⟩ := fits.step step
  · simp at returned
  · obtain rfl : result = other := by simpa using returned
    exact ⟨_, delivered, _, since.extended, rfl, inner, warrants, left⟩

/-- A packet is cut off by the end of the stream, and the search starts again. -/
theorem start_forwarder_warranted_cut_off :
    ∃ labels seen process next, ∃ (round : Round) (delivered : Signal → Nat) (shown : _),
      machine.Run labels seen process ∧
      machine.step process (.checkedConnected (.ok false)) =
        some (next, shown ++ [.returned (.ok true)]) ∧
      round.Since delivered (labels ++ [.checkedConnected (.ok false)]) (seen ++ shown) ∧
      round.Warrants (.ok true) ∧ next.phase = .scanning := by
  obtain ⟨seen, process, next, run, taken⟩ : ∃ seen process next,
      machine.Run (intoLoop ++ [.mux (.deserialized (.error (.port .recv))), .mux .sendStop,
        .disconnectNotice, .slept]) seen process ∧
      machine.step process (.checkedConnected (.ok false)) = some (next, [.returned (.ok true)]) :=
    ⟨_, _, _, Lts.Run.of_exec rfl, rfl⟩
  obtain ⟨round, delivered, shown, since, out, _, warrants, left⟩ :=
    start_forwarder_warranted run taken (List.mem_singleton_self _)
  exact ⟨_, seen, process, next, round, delivered, shown, run, out ▸ taken, since, warrants, left⟩

/-- A signal has been delivered exactly when its label has been taken. -/
theorem delivered_iff {labels : List Label} {seen : List ProcessEvent} {process : Process}
    (run : machine.Run labels seen process) (signal : Signal) :
    0 < process.delivered signal ↔ .deliver signal ∈ labels := by
  -- The induction is on the run, and only a delivery counts.
  induction run with
  | start => simp [machine]
  | @snoc labels seen process label out next before taken ih =>
    rw [List.mem_append, List.mem_singleton, ← ih]
    cases step_cases taken with
    | @deliver other =>
      by_cases same : signal = other
      · simp [deliver, same]
      · simp [deliver, same]
    | returned returns =>
      have other : .deliver signal ≠ label := by
        rintro rfl
        generalize process.phase = phase at returns
        cases returns
      simp [Process.returned, goto_delivered, other]
    | _ => simp [Process.returned, goto_delivered]

/-- A call of `start_forwarder` keeps `main` in its loop unless a signal ends it. -/
theorem Round.Since.signalled {round : Round} {delivered : Signal → Nat} {labels : List Label}
    {seen : List ProcessEvent} (since : round.Since delivered labels seen)
    (signalled : round.Signalled) : ∃ signal, .deliver signal ∈ labels := by
  -- The labels of the round are the last labels of the run.
  obtain ⟨earlier, _, _, rfl, _⟩ := since
  obtain ⟨signal, member⟩ := signalled
  exact ⟨signal, List.mem_append_right _ (List.mem_cons_of_mem _ member)⟩

/-- The process ends only after a signal. -/
theorem signal_of_stopped {labels : List Label} {seen : List ProcessEvent} {process : Process}
    (run : machine.Run labels seen process) (stopped : process.phase = .stopped) :
    ∃ signal, .deliver signal ∈ labels := by
  induction run with
  | start => cases stopped
  | @snoc labels seen process label out next before taken ih =>
    by_cases already : process.phase = .stopped
    · obtain ⟨signal, member⟩ := ih already
      exact ⟨signal, List.mem_append_left _ member⟩
    have step := step_cases taken
    rcases (calling before) with scanning | ended | ⟨round, delivered, since, fits⟩
    · cases step with
      | deliver => exact absurd stopped already
      | @stopped signal stream phase notified =>
        -- Nothing can be received that has not been delivered.
        simp only [SignalStream.recv, Option.ite_none_right_eq_some] at notified
        have member := (delivered_iff before signal).mp (Nat.zero_lt_of_lt notified.1)
        exact ⟨signal, List.mem_append_left _ member⟩
      | returned returns =>
        rw [scanning] at returns
        cases returns
      | refused phase => simp [scanning] at phase
      | _ => cases stopped
    · exact absurd ended already
    · obtain ⟨turns, shown, _, ⟨fits, _⟩ | ⟨result, warrants, _, left⟩⟩ := fits.step step
      · have inside := fits.inside
        rw [stopped] at inside
        exact inside.elim
      · rcases after_cases result with again | ⟨rfl, _⟩
        · rw [left, again] at stopped
          cases stopped
        · exact since.extended.signalled warrants

/-- `main` leaves its loop only after a signal, and once a signal has been delivered, at whatever
moment, it can leave whenever it waits there. -/
theorem main_stops_on_signal {labels : List Label} {seen : List ProcessEvent} {process : Process}
    (run : machine.Run labels seen process) :
    (process.phase = .stopped → ∃ signal, .deliver signal ∈ labels) ∧
    (process.phase = .scanning → ∀ signal, .deliver signal ∈ labels →
      ∃ next, machine.step process (.signalled signal) = some (next, []) ∧
        next.phase = .stopped) := by
  refine ⟨signal_of_stopped run, fun scanning signal member => ?_⟩
  have fresh := (notified run).main.resolve_left (by simp [scanning]) signal
  have positive := (delivered_iff run signal).mpr member
  -- The streams of `main` have not been received from, so the delivery is still pending.
  have pending : (process.streams.get signal).recv (process.delivered signal) =
      some { seen := process.delivered signal } := by
    simp [SignalStream.recv, fresh, positive]
  exact ⟨_, by simp [machine, step, signalled, scanning, pending]; rfl, rfl⟩

/-- A signal that comes while the L2CAP stream is being connected is met in the loop of `main`,
after the connection has failed. -/
theorem main_stops_on_signal_connecting :
    ∃ seen process next,
      machine.Run [.found (.ok ()), .bound (.ok ()), .deliver .terminate, .connected (.error "")]
        seen process ∧
      machine.step process (.signalled .terminate) = some (next, []) ∧ next.phase = .stopped := by
  obtain ⟨seen, process, run, scanning⟩ : ∃ seen process,
      machine.Run [.found (.ok ()), .bound (.ok ()), .deliver .terminate, .connected (.error "")]
        seen process ∧ process.phase = .scanning := ⟨_, _, Lts.Run.of_exec rfl, rfl⟩
  obtain ⟨next, taken, stopped⟩ := (main_stops_on_signal run).2 scanning .terminate (by simp)
  exact ⟨seen, process, next, run, taken, stopped⟩

end Process

end BleManaged
