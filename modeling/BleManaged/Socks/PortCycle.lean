import BleManaged.Socks.Sessions

/-! Many calls of `add_tcp_stream` in a row, and what happens when they take the ports round. -/

namespace BleManaged

namespace Mux

/-- The multiplexer after a number of calls that all found their ports free. -/
structure CallsLater (mux later : Mux) (count : Nat) : Prop where
  /-- Each call takes one port, and the counter has not been reset. -/
  nextPort : later.nextPort.toNat = mux.nextPort.toNat + count
  calls : later.calls = mux.calls + count
  stopped : later.stopped = false
  pipeOutTcp : later.pipeOutTcp = mux.pipeOutTcp
  /-- The ports that have not been reached yet are still free. -/
  free : ∀ port, later.nextPort ≤ port → later.portToTcpStream port = none
  /-- The ports from before the calls are as they were. -/
  kept : ∀ port, port < mux.nextPort → later.portToTcpStream port = mux.portToTcpStream port
  /-- The readers from before the calls are as they were. -/
  readers : ∀ stream, stream < mux.calls → later.readers stream = mux.readers stream

/-- A call that finds its port free succeeds while the multiplexer has not been stopped. -/
theorem Sound.added {mux : Mux} (sound : mux.Sound) (running : mux.stopped = false)
    (free : mux.portToTcpStream mux.candidatePort = none) :
    machine.step mux .addTcpStream = some
      ({ mux.registered with
          tcpToL2cap :=
            { mux.tcpToL2cap with
              queue := mux.tcpToL2cap.queue ++ [Packet.controlSocketOpen mux.candidatePort] }
        }.spawnReader mux.calls mux.candidatePort,
        [.table (.containsKey mux.candidatePort), .table (.insert mux.candidatePort mux.calls),
          .enqueued (.addTcpStream mux.calls) (Packet.controlSocketOpen mux.candidatePort),
          .added mux.calls (.ok ())]) := by
  -- The receiver is alive, so the open packet is sent.
  cases sent : mux.tcpToL2cap.send (Packet.controlSocketOpen mux.candidatePort) with
  | none =>
    have stopped := sound.closed.mpr (TcpToL2cap.send_eq_none sent)
    simp [running] at stopped
  | some tcpToL2cap =>
    obtain ⟨_, rfl⟩ := TcpToL2cap.send_eq_some sent
    simp [machine, Mux.step, addTcpStream, free, sent]

/-- A call whose candidate port is registered is refused, whatever other ports there are. -/
theorem step_refused {mux : Mux} (known : mux.portToTcpStream mux.candidatePort ≠ none) :
    mux.step .addTcpStream = some (mux.counted,
      [.table (.containsKey mux.candidatePort),
        .added mux.calls (.error .tooManyOpenConnections)]) := by
  -- Only the candidate is looked up.
  obtain ⟨stream, found⟩ := Option.ne_none_iff_exists'.mp known
  simp [Mux.step, addTcpStream, found]

/-- One more call opens a stream on the next port. -/
theorem CallsLater.succ {mux later : Mux} {count : Nat} (calls : CallsLater mux later count)
    (sound : later.Sound) (room : mux.nextPort.toNat + count ≤ 65534) :
    ∃ out next, machine.step later .addTcpStream = some (next, out) ∧
      CallsLater mux next (count + 1) ∧
      enqueued out = [(.addTcpStream later.calls, Packet.controlSocketOpen later.nextPort)] := by
  -- The counter is not reset yet, and the port it names is free.
  have small : later.nextPort.toNat ≤ 65534 := by rw [calls.nextPort]; exact room
  have candidate : later.candidatePort = later.nextPort := by
    rw [candidatePort, if_neg]
    rw [gt_iff_lt, UInt16.not_lt, UInt16.le_iff_toNat_le]
    exact small
  have unused := calls.free later.nextPort (UInt16.le_refl _)
  have moved : (later.nextPort + 1).toNat = later.nextPort.toNat + 1 := by
    rw [UInt16.toNat_add]
    simp
    omega
  have taken := sound.added calls.stopped (candidate ▸ unused)
  rw [candidate] at taken
  refine ⟨_, _, taken, ⟨?_, ?_, calls.stopped, calls.pipeOutTcp, ?_, ?_, ?_⟩, rfl⟩
  · have next := calls.nextPort
    show (later.candidatePort + 1).toNat = _
    rw [candidate, moved]
    omega
  · have made := calls.calls
    show later.calls + 1 = _
    omega
  · -- The port just taken is not among those ahead.
    intro port above
    change later.candidatePort + 1 ≤ port at above
    rw [candidate, UInt16.le_iff_toNat_le, moved] at above
    have other : port ≠ later.nextPort := by
      intro same
      subst same
      omega
    have before := calls.free port (by rw [UInt16.le_iff_toNat_le]; omega)
    simpa [spawnReader, registered, candidate, other] using before
  · -- Nor is it among those from before the calls.
    intro port below
    have old := calls.nextPort
    rw [UInt16.lt_iff_toNat_lt] at below
    have other : port ≠ later.nextPort := by
      intro same
      subst same
      omega
    have before := calls.kept port (by rwa [UInt16.lt_iff_toNat_lt])
    simpa [spawnReader, registered, candidate, other] using before
  · intro stream older
    have made := calls.calls
    have other : stream ≠ later.calls := by omega
    simpa [spawnReader, registered, counted, other] using calls.readers stream older

/-- From any state with free ports ahead, calls in a row take them one after the other. -/
theorem calls_later {labels : List Label} {seen : List Event} {mux : Mux}
    (run : machine.Run labels seen mux) (running : mux.stopped = false)
    (free : ∀ port, mux.nextPort ≤ port → mux.portToTcpStream port = none) (count : Nat)
    (room : mux.nextPort.toNat + count ≤ 65535) :
    ∃ more later, machine.Run (labels ++ List.replicate count .addTcpStream) (seen ++ more) later ∧
      CallsLater mux later count ∧
      ∀ port, port < mux.nextPort → ofPort port (enqueued more) = [] := by
  -- One call follows another while there is room below the largest port.
  induction count with
  | zero =>
    refine ⟨[], mux, by simpa using run, ?_, fun _ _ => rfl⟩
    exact ⟨rfl, rfl, running, rfl, free, fun _ _ => rfl, fun _ _ => rfl⟩
  | succ count ih =>
    obtain ⟨more, later, reached, calls, quiet⟩ := ih (by omega)
    obtain ⟨out, next, taken, further, sent⟩ := calls.succ (sound reached) (by omega)
    refine ⟨more ++ out, next, ?_, further, ?_⟩
    · rw [List.replicate_succ', ← List.append_assoc, ← List.append_assoc]
      exact reached.snoc taken
    · intro port below
      have other : later.nextPort ≠ port := by
        intro same
        subst same
        have old := calls.nextPort
        rw [UInt16.lt_iff_toNat_lt] at below
        omega
      rw [enqueued_append, ofPort_append, quiet port below, sent]
      simp [ofPort, Packet.forPort?_controlSocketOpen, other]

/-- Once the calls have taken all the ports that were ahead, the next one tries port one again. -/
theorem CallsLater.around {mux later : Mux} {count : Nat} (calls : CallsLater mux later count)
    (whole : mux.nextPort.toNat + count = 65535) : later.candidatePort = 1 := by
  -- The counter has reached the largest port, which is reset and not handed out.
  have last : later.nextPort = 65535 := by
    apply UInt16.toNat_inj.mp
    simp [calls.nextPort, whole]
  simp [candidatePort, last]

/-- A running reader passes on whatever it reads. -/
theorem Sound.reads {mux : Mux} (sound : mux.Sound) {port : UInt16} {stream : StreamId}
    (running : mux.Reading port stream) (bytes : Bytes) (positive : 0 < bytes.length)
    (bounded : bytes.length ≤ 1024) :
    ∃ out next, machine.step mux (.readTcp stream (.ok bytes)) = some (next, out) ∧
      enqueued out = [(.reader stream, .data port bytes)] := by
  -- The reader does not know whether its port is still registered.
  have sent := sound.enqueue (sound.tracked stream port running).1 (.reader stream)
    (.data port bytes)
  have taken : machine.step mux (.readTcp stream (.ok bytes)) =
      some ((mux.enqueue (.reader stream) (.data port bytes)).1,
        [.tcpRead stream bytes, (mux.enqueue (.reader stream) (.data port bytes)).2]) := by
    rw [Reading] at running
    simp [machine, Mux.step, readTcp, running, positive, Nat.not_lt.mpr bounded]
  refine ⟨_, _, taken, ?_⟩
  rw [sent]
  rfl

/-- When all ports are free behind the first one, it is handed out again after a whole round of
calls, and the readers from before the round are as they were. -/
theorem handed_out_again {labels : List Label} {seen : List Event} {mux : Mux}
    (run : machine.Run labels seen mux) (running : mux.stopped = false)
    (nextPort : mux.nextPort = 2) (table : ∀ port, mux.portToTcpStream port = none) :
    ∃ more next, machine.Run (labels ++ List.replicate 65534 .addTcpStream) (seen ++ more) next ∧
      ofPort 1 (enqueued more) =
        [(.addTcpStream (mux.calls + 65533), Packet.controlSocketOpen 1)] ∧
      next.Reading 1 (mux.calls + 65533) ∧
      ∀ stream, stream < mux.calls → next.readers stream = mux.readers stream := by
  -- All the ports behind the first one are taken in turn, and the next call starts again at one.
  obtain ⟨more, later, reached, calls, quiet⟩ :=
    calls_later run running (fun port _ => table port) 65533 (by simp [nextPort])
  have small : (1 : UInt16) < mux.nextPort := by simp [nextPort]
  have candidate := calls.around (by simp [nextPort])
  obtain ⟨out, next, taken, opened, reading, others⟩ : ∃ out next,
      machine.step later .addTcpStream = some (next, out) ∧
      enqueued out = [(.addTcpStream later.calls, Packet.controlSocketOpen later.candidatePort)] ∧
      next.Reading later.candidatePort later.calls ∧
      ∀ stream, stream ≠ later.calls → next.readers stream = later.readers stream := by
    have free : later.portToTcpStream later.candidatePort = none := by
      rw [candidate, calls.kept 1 small, table]
    refine ⟨_, _, (sound reached).added calls.stopped free, rfl, ?_, fun stream other => ?_⟩
    · simp [Reading, spawnReader]
    · simp [spawnReader, registered, counted, other]
  rw [candidate] at opened reading
  refine ⟨more ++ out, next, ?_, ?_, calls.calls ▸ reading, fun stream older => ?_⟩
  · rw [List.replicate_succ', ← List.append_assoc, ← List.append_assoc]
    exact reached.snoc taken
  · rw [enqueued_append, ofPort_append, quiet 1 small, opened, calls.calls]
    rfl
  · have made := calls.calls
    rw [others stream (by omega), calls.readers stream older]

/-- The port that was closed first is given out again after all others. -/
theorem reader_outlives_port :
    ∃ labels seen mux, machine.Run labels seen mux ∧
      ofPort 1 (enqueued seen) =
        [(.addTcpStream 0, Packet.controlSocketOpen 1),
          (.addTcpStream 65534, Packet.controlSocketOpen 1), (.reader 0, .data 1 [7])] := by
  -- The first stream gets port one, and the peer closes it.
  obtain ⟨first, mux, run, running, nextPort, made, reading, table, sent⟩ : ∃ seen mux,
      machine.Run [.addTcpStream, .deserialized (.ok (Packet.controlSocketClosed 1))] seen mux ∧
      mux.stopped = false ∧ mux.nextPort = 2 ∧ mux.calls = 1 ∧ mux.Reading 1 0 ∧
      (∀ port, mux.portToTcpStream port = none) ∧
      ofPort 1 (enqueued seen) = [(.addTcpStream 0, Packet.controlSocketOpen 1)] := by
    refine ⟨_, _, Lts.Run.of_exec rfl, rfl, rfl, rfl, rfl, ?_, rfl⟩
    intro port
    show Function.update (Function.update (fun _ => none) (1 : UInt16) _) 1 none port = none
    simp [Function.update_apply]
  obtain ⟨more, next, reached, reopened, _, kept⟩ := handed_out_again run running nextPort table
  -- The reader of the first stream has been running all along, and now passes on one more byte.
  have still : next.Reading 1 0 := by rwa [Reading, kept 0 (by simp [made])]
  obtain ⟨out, final, taken, carried⟩ := (sound reached).reads still [7] (by simp) (by simp)
  refine ⟨_, _, _, reached.snoc taken, ?_⟩
  rw [enqueued_append, enqueued_append, ofPort_append, ofPort_append, sent, reopened, carried, made]
  rfl

/-- A reader that outlives its port sends into the session of the next stream there. -/
theorem sessions_after_reuse :
    ¬∀ labels seen mux, machine.Run labels seen mux →
      ∀ port, (portSessions port).Sessions (ofPort port (enqueued seen)) := by
  -- Sessions would have the first stream opened again before its reader sends.
  intro always
  obtain ⟨labels, seen, mux, run, log⟩ := reader_outlives_port
  have sessions := always labels seen mux run 1
  rw [log] at sessions
  have used : (portSessions 1).carries 0 (.reader 0, .data 1 [7]) := ⟨[7], rfl⟩
  have split : [(Producer.addTcpStream 0, Packet.controlSocketOpen 1),
      (.addTcpStream 65534, Packet.controlSocketOpen 1), (.reader 0, .data 1 [7])] =
      [(.addTcpStream 0, Packet.controlSocketOpen 1)] ++
        (.addTcpStream 65534, Packet.controlSocketOpen 1) :: [(.reader 0, .data 1 [7])] := rfl
  -- Nothing from the second opening on opens the first stream again.
  obtain ⟨first, since, opens⟩ := sessions.opened_since (portSessions_unambiguous 1) split
    (rfl : (portSessions 1).opens 65534 _) (by simp) (.inl used)
  cases opens
  simp at since

/-- Every reader that runs is that of the stream which is registered for its port. -/
def ReadersRegistered (mux : Mux) : Prop :=
  ∀ port stream, mux.Reading port stream → mux.portToTcpStream port = some { writer := stream }

/-- A port that is free has no reader then, and is handed over properly. -/
theorem ReadersRegistered.handover {mux : Mux} (registered : mux.ReadersRegistered)
    (label : Label) : Handover mux label := by
  intro _ free stream running
  rw [registered _ stream running] at free
  cases free

/-- A call that adds a stream keeps the running readers registered. -/
theorem ReadersRegistered.added {mux next : Mux} {out : List Event}
    (registered : mux.ReadersRegistered) (sound : mux.Sound)
    (step : Step mux .addTcpStream next out) : next.ReadersRegistered := by
  intro port stream running
  cases step with
  | refused => exact registered port stream running
  | unsent free gone =>
    -- A mux whose receiver is gone has no running readers.
    have up := (sound.tracked stream port running).1
    rw [sound.closed.mpr gone] at up
    cases up
  | added free sent =>
    by_cases new : stream = mux.calls
    · obtain rfl : mux.candidatePort = port := by
        simpa [Reading, spawnReader, new] using running
      simp [spawnReader, Mux.registered, new]
    · have before : mux.Reading port stream := by
        simpa [Reading, spawnReader, Mux.registered, counted, new] using running
      have known := registered port stream before
      -- The port of the new stream was free, so it is another one.
      have other : port ≠ mux.candidatePort := by
        rintro rfl
        rw [free] at known
        cases known
      simpa [spawnReader, Mux.registered, other] using known

/-- A port whose first stream has been closed on both sides is handed over to a later one, and its
two sessions do not overlap. -/
theorem sessions_of_handover_next_stream :
    ∃ labels seen mux before after, machine.Run labels seen mux ∧
      before = [(.addTcpStream 0, Packet.controlSocketOpen 1), (.reader 0, .data 1 [7]),
        (.reader 0, Packet.controlSocketClosed 1)] ∧
      after = [(.reader 65534, .data 1 [8])] ∧
      ofPort 1 (enqueued seen) =
        before ++ (.addTcpStream 65534, Packet.controlSocketOpen 1) :: after ∧
      (portSessions 1).Sessions (ofPort 1 (enqueued seen)) ∧
      ∀ stream packet, (.reader stream, packet) ∈ after → 65534 ≤ stream := by
  -- The first stream ends, and the peer answers its close with another one.
  obtain ⟨first, mux, run, running, nextPort, made, table, quiet, sent⟩ : ∃ seen mux,
      machine.Run [.addTcpStream, .readTcp 0 (.ok [7]), .readTcp 0 (.ok []),
        .deserialized (.ok (Packet.controlSocketClosed 1))] seen mux ∧
      mux.stopped = false ∧ mux.nextPort = 2 ∧ mux.calls = 1 ∧
      (∀ port, mux.portToTcpStream port = none) ∧ (∀ port stream, ¬mux.Reading port stream) ∧
      ofPort 1 (enqueued seen) = [(.addTcpStream 0, Packet.controlSocketOpen 1),
        (.reader 0, .data 1 [7]), (.reader 0, Packet.controlSocketClosed 1)] := by
    refine ⟨_, _, Lts.Run.of_exec rfl, rfl, rfl, rfl, ?_, ?_, rfl⟩
    · intro port
      show Function.update (Function.update (fun _ => none) (1 : UInt16) _) 1 none port = none
      simp [Function.update_apply]
    · intro port stream still
      -- The only reader that there has been is at its end.
      change Function.update (Function.update (fun _ => none) 0 _) 0
        (some (ReaderTask.mk 1 .ended)) stream = some (ReaderTask.mk port .running) at still
      by_cases same : stream = 0 <;> simp [same] at still
  obtain ⟨more, next, reached, reopened, reading, _⟩ := handed_out_again run running nextPort table
  obtain ⟨out, final, taken, carried⟩ := (sound reached).reads reading [8] (by simp) (by simp)
  have log : ofPort 1 (enqueued (first ++ more ++ out)) =
      [(.addTcpStream 0, Packet.controlSocketOpen 1), (.reader 0, .data 1 [7]),
        (.reader 0, Packet.controlSocketClosed 1)] ++
        (.addTcpStream 65534, Packet.controlSocketOpen 1) :: [(.reader 65534, .data 1 [8])] := by
    rw [enqueued_append, enqueued_append, ofPort_append, ofPort_append, sent, reopened, carried,
      made]
    rfl
  -- No reader is left when the round of calls begins, and the calls register all theirs.
  have prepared : machine.EachStep Handover [.addTcpStream, .readTcp 0 (.ok [7]),
      .readTcp 0 (.ok []), .deserialized (.ok (Packet.controlSocketClosed 1))] :=
    .of_first (by simp [Handover, Reading, machine, createAndStart]) (by simp [Handover])
  have handover : machine.EachStep Handover
      ([.addTcpStream, .readTcp 0 (.ok [7]), .readTcp 0 (.ok []),
        .deserialized (.ok (Packet.controlSocketClosed 1))] ++
        List.replicate 65534 .addTcpStream) := by
    refine prepared.extend run (fun mux => mux.Sound ∧ mux.ReadersRegistered) ?_ ?_ ?_
    · exact ⟨sound run, fun port stream running => absurd running (quiet port stream)⟩
    · intro label prior next out among holds taken
      obtain rfl := List.eq_of_mem_replicate among
      have taken : prior.step .addTcpStream = some (next, _) := taken
      have step := step_cases taken
      exact ⟨holds.1.step step, holds.2.added holds.1 step⟩
    · intro label prior _ holds
      exact holds.2.handover label
  have proper : machine.EachStep Handover (_ ++ [.readTcp (mux.calls + 65533) (.ok [8])]) :=
    handover.snoc reached (by simp [Handover])
  obtain ⟨sessions, later⟩ := sessions_of_handover (reached.snoc taken) proper 1
  exact ⟨_, _, final, _, _, reached.snoc taken, rfl, rfl, log, sessions,
    later _ _ _ log⟩

end Mux

end BleManaged
