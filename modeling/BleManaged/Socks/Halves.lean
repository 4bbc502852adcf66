import BleManaged.Socks.MuxInvariant

/-! The two halves of a TCP stream: its entry in the map of ports, and its reader task. -/

namespace BleManaged

namespace Mux

/-- A stream that was added is registered exactly as long as its reader task runs. -/
def Together (mux : Mux) : Prop :=
  -- The entry must be the stream's own, not that of a later stream on its port.
  ∀ stream reader, mux.readers stream = some reader →
    (mux.portToTcpStream reader.port = some { writer := stream } ↔ reader.state = .running)

/-- The end of one half: a reader sees the end of its stream, or the peer closes a known port. -/
def Teardown (mux : Mux) : Label → Prop
  | .readTcp _ result => result = .ok [] ∨ result = .error
  -- A close of an unknown port is dropped, and ends nothing.
  | .deserialized (.ok (.control msgType port status _)) =>
    msgType = 1 ∧ status = 0 ∧ mux.portToTcpStream port ≠ none
  | _ => False

/-- A new stream has both halves, and takes the port of no stream that has one. -/
theorem Together.added {mux : Mux} (together : mux.Together)
    (free : mux.portToTcpStream mux.candidatePort = none) (tcpToL2cap : TcpToL2cap) :
    ({ mux.registered with tcpToL2cap }.spawnReader mux.calls mux.candidatePort).Together := by
  intro stream reader found
  by_cases new : stream = mux.calls
  · -- The new stream is registered and has just had its reader spawned.
    subst new
    obtain rfl : { port := mux.candidatePort, state := .running } = reader := by
      simpa [spawnReader] using found
    simp [spawnReader, registered]
  · have before : mux.readers stream = some reader := by
      simpa [spawnReader, registered, counted, new] using found
    have halves := together stream reader before
    -- An older stream keeps both halves, unless its port is the one that is handed out.
    by_cases port : reader.port = mux.candidatePort
    · -- The port was free, so an older stream on it had neither half.
      rw [port, free] at halves
      simpa [spawnReader, registered, port, Ne.symm new] using halves
    · simpa [spawnReader, registered, port] using halves

/-- A reader that ends leaves its stream registered. -/
theorem Together.readerEnded {mux : Mux} (together : mux.Together) {stream : StreamId}
    {port : UInt16} (running : mux.readers stream = some { port, state := .running }) :
    ¬(mux.closeReader stream port).1.Together := by
  -- The stream was registered while its reader ran, and nobody has removed it since.
  intro after
  have registered := (together stream _ running).mpr rfl
  have halves := after stream { port, state := .ended } (by simp [closeReader])
  simp [closeReader, registered] at halves

/-- A peer that closes a known port leaves the reader of its stream running. -/
theorem Together.closed {mux : Mux} (together : mux.Together) (sound : mux.Sound)
    (running : mux.stopped = false) {port : UInt16} {stream : MuxedTCPStream}
    (known : mux.portToTcpStream port = some stream) :
    ¬{ mux with
        portToTcpStream := Function.update mux.portToTcpStream port none }.Together := by
  -- The entry belonged to a stream whose reader ran, and still runs without it.
  intro after
  obtain ⟨state, owner⟩ := sound.owned running port stream known
  obtain rfl := (together stream.writer _ owner).mp known
  have halves := after stream.writer _ owner
  simp at halves

/-- A step keeps the halves together exactly when it does not end one of them. -/
theorem Together.step {mux next : Mux} {label : Label} {out : List Event}
    (together : mux.Together) (sound : mux.Sound) (running : next.stopped = false)
    (step : Step mux label next out) : next.Together ↔ ¬Teardown mux label := by
  -- Only a reader that ends and a close that is handled change one half alone.
  have before := (step.up_iff.mp running).1
  cases step with
  | unsent _ gone => simp [sound.closed.mpr gone] at before
  | added free => exact iff_of_true (together.added free _) (by simp [Teardown])
  | readerEnded reading final =>
    exact iff_of_false (together.readerEnded reading) (not_not.mpr final)
  | closed _ _ known =>
    exact iff_of_false (together.closed sound before known) (by simp [Teardown, known])
  | skipped _ unserved =>
    refine iff_of_true together ?_
    cases unserved <;> simp_all [Teardown]
  | unknownClosed _ _ unknown => exact iff_of_true together (by simp [Teardown, unknown])
  | read reading positive =>
    refine iff_of_true ?_ ?_
    · simpa [Together] using together
    · simpa [Teardown] using List.length_pos_iff.mp positive
  | sendKeepalive => exact iff_of_true (by simpa [Together] using together) (by simp [Teardown])
  | stopRequested | drop => simp at running
  | refused | l2capClosed | undecoded | unknownData | offered | wroteTcp | sendStop | pipeInTcp =>
    exact iff_of_true together (by simp [Teardown])

/-- The halves of all streams stay together exactly as long as no half ends. -/
theorem together_iff {labels : List Label} {seen : List Event} {mux : Mux}
    (run : machine.Run labels seen mux) (running : mux.stopped = false) :
    machine.EachState Together labels ↔
      machine.EachStep (fun mux label => ¬Teardown mux label) labels := by
  -- Up to the last step both sides agree, and the last step decides them alike.
  induction run with
  | start =>
    refine iff_of_true (.nil ?_) (.of_labels (by simp))
    intro stream reader found
    cases found
  | @snoc labels seen mux label out next before taken ih =>
    have step := step_cases taken
    have earlier := ih ((step.up_iff.mp running).1)
    constructor
    · intro each
      refine (earlier.mp each.init).snoc before ?_
      exact ((each.init.last before).step (sound before) running step).mp
        (each.last (before.snoc taken))
    · intro each
      have together := earlier.mpr each.init
      refine together.snoc (before.snoc taken) ?_
      exact ((together.last before).step (sound before) running step).mpr (each.last before)

/-- A stream that is only read from keeps both halves. -/
theorem together_iff_reading :
    machine.EachState Together [.addTcpStream, .readTcp 0 (.ok [7])] := by
  -- Neither label ends a half.
  obtain ⟨seen, mux, run, running⟩ : ∃ seen mux,
      machine.Run [.addTcpStream, .readTcp 0 (.ok [7])] seen mux ∧ mux.stopped = false :=
    ⟨_, _, Lts.Run.of_exec rfl, rfl⟩
  refine (together_iff run running).mpr (.of_labels ?_)
  simp [Teardown]

/-- After a close from the peer, the reader of an unregistered stream is still running. -/
theorem together_after_close :
    ¬∀ labels seen mux, machine.Run labels seen mux → mux.stopped = false → mux.Together := by
  -- The entry of the stream is gone, and its reader waits for more bytes.
  intro always
  obtain ⟨seen, mux, run, running, reading, table⟩ : ∃ seen mux,
      machine.Run [.addTcpStream, .deserialized (.ok (Packet.controlSocketClosed 1))] seen mux ∧
      mux.stopped = false ∧ mux.readers 0 = some { port := 1, state := .running } ∧
      mux.portToTcpStream 1 = none :=
    ⟨_, _, Lts.Run.of_exec rfl, rfl, rfl, rfl⟩
  have halves := always _ seen mux run running 0 _ reading
  simp [table] at halves

end Mux

end BleManaged
