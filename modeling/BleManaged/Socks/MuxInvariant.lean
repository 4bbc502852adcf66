import BleManaged.Socks.MuxLaws

/-! What holds of the multiplexer in every reachable state. -/

namespace BleManaged

/-- A turn of `pipe_in_tcp` neither aborts it nor revives it. -/
theorem TcpToL2cap.turn_alive {channel next : TcpToL2cap} {turn : Turn} {out : List OutboundEvent}
    (taken : channel.turn turn = some (next, out)) :
    channel.task ≠ .aborted ∧ next.task ≠ .aborted := by
  -- The task is at one of its await points before and after the turn.
  cases turn_cases taken with
  | recv | accept =>
    simp only [writeAll]
    split <;> simp
  | drop | fail => simp

namespace Mux

/-- The counter, the tracked tasks and the two halves of the streams agree with each other. -/
structure Sound (mux : Mux) : Prop where
  /-- No port is zero. -/
  ported : 1 ≤ mux.nextPort.toNat
  /-- Reader tasks belong to calls that have been made. -/
  fresh : ∀ stream, mux.calls ≤ stream → mux.readers stream = none
  /-- The receiver of `tcp_to_l2cap` is dropped by `stop` only, and always. -/
  closed : mux.stopped = true ↔ mux.tcpToL2cap.task = .aborted
  /-- The receiver of `tcp_to_l2cap` is in a tracked task. -/
  receiver : mux.stopped = false → .pipeInTcp ∈ mux.tasks
  /-- What pipes out is tracked while it has not been stopped. -/
  sender : mux.stopped = false → .pipeOutTcp ∈ mux.tasks ∧ mux.pipeOutTcp ≠ .aborted
  /-- Running reader tasks are tracked, and none is left after a stop. -/
  tracked : ∀ stream port, mux.readers stream = some { port, state := .running } →
    mux.stopped = false ∧ .reader stream ∈ mux.tasks
  /-- A registered stream has had its reader spawned for the same port. -/
  owned : mux.stopped = false → ∀ port stream, mux.portToTcpStream port = some stream →
    ∃ state, mux.readers stream.writer = some { port, state }

/-- A new multiplexer is sound. -/
theorem createAndStart_sound : createAndStart.Sound where
  ported := by decide
  fresh := fun _ _ => rfl
  closed := by decide
  receiver := by decide
  sender := by decide
  tracked := by simp [createAndStart]
  owned := by simp [createAndStart]

/-- The candidate port is never zero and never the largest one. -/
theorem candidatePort_range {mux : Mux} (ported : 1 ≤ mux.nextPort.toNat) :
    1 ≤ mux.candidatePort.toNat ∧ mux.candidatePort.toNat ≤ 65534 := by
  -- The counter is reset before it can hand out the largest port.
  unfold candidatePort
  split
  · decide
  · rename_i small
    rw [gt_iff_lt, UInt16.not_lt, UInt16.le_iff_toNat_le] at small
    exact ⟨ported, small⟩

/-- Counting one more call never wraps the counter to zero. -/
theorem counted_ported {mux : Mux} (ported : 1 ≤ mux.nextPort.toNat) :
    1 ≤ mux.counted.nextPort.toNat := by
  -- The largest candidate is below the largest counter.
  have range := candidatePort_range ported
  simp only [counted, UInt16.toNat_add]
  simp
  omega

/-- A sound multiplexer stays sound when only the outbound queue or other tasks move. -/
theorem Sound.of_same {mux next : Mux} (sound : mux.Sound)
    (nextPort : next.nextPort = mux.nextPort) (calls : next.calls = mux.calls)
    (readers : next.readers = mux.readers)
    (tasks : next.tasks = mux.tasks) (stopped : next.stopped = mux.stopped)
    (table : next.portToTcpStream = mux.portToTcpStream)
    (task : next.tcpToL2cap.task = .aborted ↔ mux.tcpToL2cap.task = .aborted)
    (piping : mux.pipeOutTcp ≠ .aborted → next.pipeOutTcp ≠ .aborted) : next.Sound where
  ported := by simpa only [nextPort] using sound.ported
  fresh := by simpa only [calls, readers] using sound.fresh
  closed := by simpa only [stopped, task] using sound.closed
  receiver := by simpa only [stopped, tasks] using sound.receiver
  sender := by
    rw [stopped, tasks]
    exact fun running => ⟨(sound.sender running).1, piping (sound.sender running).2⟩
  tracked := by simpa only [readers, stopped, tasks] using sound.tracked
  owned := by simpa only [stopped, table, readers] using sound.owned

/-- Stopping keeps the multiplexer sound. -/
theorem Sound.stop {mux : Mux} (sound : mux.Sound) : mux.stop.Sound := by
  -- Stopping is idempotent.
  by_cases already : mux.stopped = true
  · rwa [stop_of_stopped already]
  have running : mux.stopped = false := by simpa using already
  have readers := stop_readers running
  refine ⟨by simpa using sound.ported, ?_, ?_, by simp, by simp, ?_, by simp⟩
  · intro stream later
    rw [stop_calls] at later
    rw [readers, sound.fresh stream later]
    simp
  · -- The receiver goes with its task, which is among those that are aborted.
    rw [stop_tcpToL2cap running, if_pos (sound.receiver running)]
    simp [TcpToL2cap.abort]
  · -- A reader that still ran would have been tracked, and so aborted.
    intro stream port still
    rw [readers] at still
    split at still
    · obtain ⟨reader, _, same⟩ := Option.map_eq_some_iff.mp still
      have state := congrArg ReaderTask.state same
      cases before : reader.state <;> simp [ReaderTask.abort, TaskState.abort, before] at state
    · rename_i untracked
      exact absurd (sound.tracked stream port still).2 untracked

/-- A refused call only moves the counters. -/
theorem Sound.counted {mux : Mux} (sound : mux.Sound) : mux.counted.Sound where
  ported := counted_ported sound.ported
  fresh := fun stream later => sound.fresh stream (Nat.le_of_succ_le later)
  closed := sound.closed
  receiver := sound.receiver
  sender := sound.sender
  tracked := sound.tracked
  owned := sound.owned

/-- A call whose open packet cannot be sent leaves a stream registered that has no reader. -/
theorem Sound.registered {mux : Mux} (sound : mux.Sound)
    (gone : mux.tcpToL2cap.task = .aborted) : mux.registered.Sound where
  ported := counted_ported sound.ported
  fresh := fun stream later => sound.fresh stream (Nat.le_of_succ_le later)
  closed := sound.closed
  receiver := sound.receiver
  sender := sound.sender
  tracked := sound.tracked
  owned := by
    -- The receiver is gone, so the multiplexer has been stopped and promises nothing here.
    intro running
    have stopped := sound.closed.mpr gone
    rw [Mux.registered, Mux.counted] at running
    simp [stopped] at running

/-- A call that succeeds registers a stream and spawns its reader. -/
theorem Sound.spawnReader {mux : Mux} (sound : mux.Sound) {tcpToL2cap : TcpToL2cap}
    (sent : mux.tcpToL2cap.send (Packet.controlSocketOpen mux.candidatePort) =
      some tcpToL2cap) :
    ({ mux.registered with tcpToL2cap }.spawnReader mux.calls mux.candidatePort).Sound := by
  obtain ⟨alive, rfl⟩ := TcpToL2cap.send_eq_some sent
  -- The open packet is in the queue, so the mux has not been stopped.
  have running : mux.stopped = false := by
    simpa using mt sound.closed.mp alive
  refine ⟨counted_ported sound.ported, ?_, sound.closed, ?_, ?_, ?_, ?_⟩
  · intro stream later
    -- A stream of a later call is not the one that is added.
    have other : stream ≠ mux.calls := by
      intro same
      subst same
      exact absurd later (Nat.not_succ_le_self _)
    simpa [Mux.spawnReader, Mux.registered, Mux.counted, other] using
      sound.fresh stream (Nat.le_of_succ_le later)
  · intro _
    exact List.mem_append_left _ (sound.receiver running)
  · intro _
    exact ⟨List.mem_append_left _ (sound.sender running).1, (sound.sender running).2⟩
  · intro stream port still
    refine ⟨running, ?_⟩
    -- The new reader has just been tracked, and the others were before.
    by_cases new : stream = mux.calls
    · simp [Mux.spawnReader, new]
    · have before : mux.readers stream = some { port, state := .running } := by
        simpa [Mux.spawnReader, Mux.registered, Mux.counted, new] using still
      exact List.mem_append_left _ (sound.tracked stream port before).2
  · intro _ port stream found
    by_cases candidate : port = mux.candidatePort
    · subst candidate
      obtain rfl : { writer := mux.calls } = stream := by
        simpa [Mux.spawnReader, Mux.registered] using found
      exact ⟨.running, by simp [Mux.spawnReader]⟩
    · -- Another registered stream keeps its reader, because its call was an earlier one.
      have before : mux.portToTcpStream port = some stream := by
        simpa [Mux.spawnReader, Mux.registered, candidate] using found
      obtain ⟨state, owner⟩ := sound.owned running port stream before
      have old : stream.writer ≠ mux.calls := by
        intro same
        rw [same, sound.fresh mux.calls (Nat.le_refl _)] at owner
        cases owner
      exact ⟨state, by simpa [Mux.spawnReader, Mux.registered, Mux.counted, old] using owner⟩

/-- A reader that ends keeps its port on record. -/
theorem Sound.readerEnded {mux : Mux} (sound : mux.Sound) {stream : StreamId} {port : UInt16}
    (running : mux.readers stream = some { port, state := .running }) :
    { mux with
      readers := Function.update mux.readers stream (some { port, state := .ended }) }.Sound where
  ported := sound.ported
  fresh := by
    intro other later
    -- The reader belongs to a call that has been made.
    have different : other ≠ stream := by
      intro same
      subst same
      simp [sound.fresh other later] at running
    simpa [different] using sound.fresh other later
  closed := sound.closed
  receiver := sound.receiver
  sender := sound.sender
  tracked := by
    intro other owned still
    -- A reader that still runs is another one.
    by_cases same : other = stream
    · simp [same] at still
    · exact sound.tracked other owned (by simpa [same] using still)
  owned := by
    intro unstopped another registered found
    obtain ⟨state, owner⟩ := sound.owned unstopped another registered found
    by_cases same : registered.writer = stream
    · -- The reader has ended, and its port is still the one of the entry.
      rw [same, running] at owner
      cases owner
      exact ⟨.ended, by simp [same]⟩
    · exact ⟨state, by simpa [same] using owner⟩

/-- Handling the close of a port forgets one registration. -/
theorem Sound.forget {mux : Mux} (sound : mux.Sound) (port : UInt16) :
    { mux with portToTcpStream := Function.update mux.portToTcpStream port none }.Sound where
  ported := sound.ported
  fresh := sound.fresh
  closed := sound.closed
  receiver := sound.receiver
  sender := sound.sender
  tracked := sound.tracked
  owned := by
    intro unstopped other stream found
    have different : other ≠ port := by
      intro same
      subst same
      simp at found
    exact sound.owned unstopped other stream (by simpa [different] using found)

/-- Every step keeps the multiplexer sound. -/
theorem Sound.step {mux next : Mux} {label : Label} {out : List Event} (sound : mux.Sound)
    (step : Step mux label next out) : next.Sound := by
  -- Most steps move a task or the queue, which the invariant does not look at.
  cases step with
  | refused => exact sound.counted
  | unsent _ gone => exact sound.registered gone
  | added _ sent => exact sound.spawnReader sent
  | readerEnded running =>
    refine (sound.readerEnded running).of_same ?_ ?_ ?_ ?_ ?_ ?_ ?_ ?_ <;> simp [closeReader]
  | closed => exact sound.forget _
  | stopRequested => exact Sound.stop (sound.of_same rfl rfl rfl rfl rfl rfl .rfl id)
  | drop => exact sound.stop
  | pipeInTcp turned =>
    have alive := TcpToL2cap.turn_alive turned
    exact sound.of_same rfl rfl rfl rfl rfl rfl (by simp [alive]) id
  | read | sendKeepalive => apply sound.of_same <;> simp
  | l2capClosed | skipped | unknownData | unknownClosed =>
    exact sound.of_same rfl rfl rfl rfl rfl rfl .rfl id
  | undecoded | offered | wroteTcp | sendStop =>
    exact sound.of_same rfl rfl rfl rfl rfl rfl .rfl (by simp)

/-- Every reachable multiplexer is sound. -/
theorem sound {labels : List Label} {seen : List Event} {mux : Mux}
    (run : machine.Run labels seen mux) : mux.Sound := by
  -- Soundness does not depend on what has been observed.
  refine run.invariant (fun _ mux => mux.Sound) createAndStart_sound ?_
  intro labels seen state label next out _ sound taken
  exact sound.step (step_cases taken)

/-- A mux has been stopped when one of the labels stopped it. -/
theorem stopped_iff {labels : List Label} {seen : List Event} {mux : Mux}
    (run : machine.Run labels seen mux) :
    mux.stopped = true ↔ ∃ label ∈ labels, label.Stops := by
  -- The induction is on the run, whose last label stops the mux or leaves the flag alone.
  induction run with
  | start => simp [machine, createAndStart]
  | snoc before taken ih =>
    rw [(step_cases taken).stopped_iff, ih]
    simp [or_and_right, exists_or]

end Mux

end BleManaged
