import BleManaged.Socks.Mux
import Mathlib.Data.List.Basic

/-! Every step of the multiplexer, and the parts of it that a send or a stop leaves alone. -/

namespace BleManaged

/-- Aborting twice is aborting once. -/
@[simp] theorem TaskState.abort_abort (state : TaskState) : state.abort.abort = state.abort := by
  cases state <;> rfl

namespace Mux

/-- The packets that `pipe_out_tcp` passes over without looking at the map of ports. -/
inductive Unserved : Packet → Skip → Prop where
  | emptyPacket {port} : Unserved (.data port []) .emptyPacket
  /-- A keep alive, whatever its other fields are. -/
  | keepalive {forPort status rawData} : Unserved (.control 0 forPort status rawData) .keepalive
  | unknownMsgType {msgType forPort status rawData} (notKeepalive : msgType ≠ 0)
      (notStatus : msgType ≠ 1) :
      Unserved (.control msgType forPort status rawData) (.unknownMsgType msgType)
  /-- A request to open a TCP stream, which this side cannot accept. -/
  | openRequest {forPort rawData} : Unserved (.control 1 forPort 1 rawData) .openRequest
  | unknownStatus {forPort status rawData} (notClosed : status ≠ 0) (notOpen : status ≠ 1) :
      Unserved (.control 1 forPort status rawData) (.unknownStatus forPort status)

/-- Every step, with the branch of the source it takes. -/
inductive Step (mux : Mux) : Label → Mux → List Event → Prop where
  /-- There are too many open connections. -/
  | refused (known : mux.portToTcpStream mux.candidatePort ≠ none) :
      Step mux .addTcpStream mux.counted
        [.table (.containsKey mux.candidatePort),
          .added mux.calls (.error .tooManyOpenConnections)]
  /-- The open packet cannot be sent, and the call returns an error. -/
  | unsent (free : mux.portToTcpStream mux.candidatePort = none)
      (gone : mux.tcpToL2cap.task = .aborted) :
      Step mux .addTcpStream mux.registered
        [.table (.containsKey mux.candidatePort), .table (.insert mux.candidatePort mux.calls),
          .sendFailed (.addTcpStream mux.calls) (Packet.controlSocketOpen mux.candidatePort),
          .added mux.calls (.error .send)]
  /-- The stream is registered and announced, and its reader is spawned. -/
  | added {tcpToL2cap} (free : mux.portToTcpStream mux.candidatePort = none)
      (sent : mux.tcpToL2cap.send (Packet.controlSocketOpen mux.candidatePort) =
        some tcpToL2cap) :
      Step mux .addTcpStream
        ({ mux.registered with tcpToL2cap }.spawnReader mux.calls mux.candidatePort)
        [.table (.containsKey mux.candidatePort), .table (.insert mux.candidatePort mux.calls),
          .enqueued (.addTcpStream mux.calls) (Packet.controlSocketOpen mux.candidatePort),
          .added mux.calls (.ok ())]
  | read {stream port bytes} (running : mux.readers stream = some { port, state := .running })
      (positive : 0 < bytes.length) (bounded : bytes.length ≤ 1024) :
      Step mux (.readTcp stream (.ok bytes))
        (mux.enqueue (.reader stream) (.data port bytes)).1
        [.tcpRead stream bytes, (mux.enqueue (.reader stream) (.data port bytes)).2]
  /-- A reader sends a close packet and ends. -/
  | readerEnded {stream port result}
      (running : mux.readers stream = some { port, state := .running })
      (final : result = .ok [] ∨ result = .error) :
      Step mux (.readTcp stream result) (mux.closeReader stream port).1
        (mux.closeReader stream port).2
  | l2capClosed (running : mux.pipeInL2cap = .running) :
      Step mux .l2capClosed { mux with pipeInL2cap := .ended } []
  | undecoded {error} (turn : mux.pipeOutTcp = .deserializing) :
      Step mux (.deserialized (.error error)) { mux with pipeOutTcp := .signalling }
        [.undecoded error]
  | skipped {packet reason} (turn : mux.pipeOutTcp = .deserializing)
      (unserved : Unserved packet reason) :
      Step mux (.deserialized (.ok packet)) mux
        [.dispatched packet (mux.addressee packet), .skipped reason]
  /-- Data for a port that is not registered is dropped. -/
  | unknownData {port data} (turn : mux.pipeOutTcp = .deserializing) (nonempty : data ≠ [])
      (unknown : mux.portToTcpStream port = none) :
      Step mux (.deserialized (.ok (.data port data))) mux
        [.dispatched (.data port data) none, .table (.getMut port), .skipped (.unknownPort port)]
  | offered {port stream data} (turn : mux.pipeOutTcp = .deserializing) (nonempty : data ≠ [])
      (known : mux.portToTcpStream port = some stream) :
      Step mux (.deserialized (.ok (.data port data)))
        { mux with pipeOutTcp := .writing port stream.writer data }
        [.dispatched (.data port data) (some stream.writer), .table (.getMut port),
          .offered port stream.writer data]
  /-- A close of a port that is not registered is dropped. -/
  | unknownClosed {port} (rawData : Bytes) (turn : mux.pipeOutTcp = .deserializing)
      (unknown : mux.portToTcpStream port = none) :
      Step mux (.deserialized (.ok (.control 1 port 0 rawData))) mux
        [.dispatched (.control 1 port 0 rawData) none, .table (.containsKey port),
          .skipped (.unknownPort port)]
  /-- A close removes the entry of its port. -/
  | closed {port stream} (rawData : Bytes) (turn : mux.pipeOutTcp = .deserializing)
      (known : mux.portToTcpStream port = some stream) :
      Step mux (.deserialized (.ok (.control 1 port 0 rawData)))
        { mux with portToTcpStream := Function.update mux.portToTcpStream port none }
        [.dispatched (.control 1 port 0 rawData) (some stream.writer),
          .table (.containsKey port), .table (.remove port)]
  | wroteTcp {port stream data answer} (turn : mux.pipeOutTcp = .writing port stream data)
      (fits : answer.Fits data) :
      Step mux (.wroteTcp answer) { mux with pipeOutTcp := .deserializing }
        [.answered stream data answer]
  /-- The stop request is sent, and the loop breaks. -/
  | sendStop (turn : mux.pipeOutTcp = .signalling) (room : mux.stopDueToDisconnect = []) :
      Step mux .sendStop { mux with stopDueToDisconnect := [true], pipeOutTcp := .ended }
        [.stopSignal]
  | sendKeepalive (running : mux.keepalive = .running) :
      Step mux .sendKeepalive (mux.enqueue .keepalive Packet.keepalive).1
        [(mux.enqueue .keepalive Packet.keepalive).2]
  | pipeInTcp {turn tcpToL2cap out} (turned : mux.tcpToL2cap.turn turn = some (tcpToL2cap, out)) :
      Step mux (.pipeInTcp turn) { mux with tcpToL2cap } (out.map .l2cap)
  | stopRequested {request requests} (requested : mux.stopDueToDisconnect = request :: requests) :
      Step mux .waitForStopDueToDisconnect { mux with stopDueToDisconnect := requests }.stop []
  | drop : Step mux .drop mux.stop []

/-- Truncating the buffer gives back what was read into it. -/
theorem take_buffer (bytes : Bytes) (padding : Bytes) :
    (bytes ++ padding).take bytes.length = bytes := by simp

/-- The outcomes of a call of `add_tcp_stream`. -/
theorem addTcpStream_cases (mux : Mux) :
    Step mux .addTcpStream mux.addTcpStream.1 mux.addTcpStream.2 := by
  -- The call asks the map first, and then the channel.
  cases found : mux.portToTcpStream mux.candidatePort with
  | some stream =>
    have known : mux.portToTcpStream mux.candidatePort ≠ none := by simp [found]
    simpa [addTcpStream, found] using Step.refused known
  | none =>
    cases sent : mux.tcpToL2cap.send (Packet.controlSocketOpen mux.candidatePort) with
    | some tcpToL2cap => simpa [addTcpStream, found, sent] using Step.added found sent
    | none =>
      simpa [addTcpStream, found, sent] using Step.unsent found (TcpToL2cap.send_eq_none sent)

/-- The steps of a reader task. -/
theorem readTcp_cases {mux next : Mux} {stream : StreamId} {result : ReadResult} {out : List Event}
    (taken : mux.readTcp stream result = some (next, out)) :
    Step mux (.readTcp stream result) next out := by
  -- The branches of the loop are those on the number of bytes that were read.
  simp only [readTcp, take_buffer] at taken
  split at taken
  · rename_i port running
    cases result with
    | error =>
      cases taken
      exact .readerEnded running (.inr rfl)
    | ok bytes =>
      simp only at taken
      split at taken
      · cases taken
      split at taken
      · rename_i bounded positive
        cases taken
        exact .read running positive (Nat.le_of_not_lt bounded)
      · rename_i none
        obtain rfl : bytes = [] := List.length_eq_zero_iff.mp (Nat.eq_zero_of_not_pos none)
        cases taken
        exact .readerEnded running (.inl rfl)
  · cases taken

/-- The steps of `pipe_out_tcp` that dispatch a packet. -/
theorem dispatch_cases {mux : Mux} (turn : mux.pipeOutTcp = .deserializing) (packet : Packet) :
    Step mux (.deserialized (.ok packet)) (mux.dispatch packet).1
      (.dispatched packet (mux.addressee packet) :: (mux.dispatch packet).2) := by
  -- The cases are tried in the order of the source, each with the earlier ones ruled out.
  cases packet with
  | data port data =>
    by_cases empty : data = []
    · subst empty
      exact .skipped turn .emptyPacket
    · cases found : mux.portToTcpStream port with
      | none =>
        simpa [dispatch, empty, found, addressee, Packet.forPort?] using
          Step.unknownData turn empty found
      | some stream =>
        simpa [dispatch, empty, found, addressee, Packet.forPort?] using
          Step.offered turn empty found
  | control msgType port status rawData =>
    by_cases keepalive : msgType = 0
    · subst keepalive
      exact .skipped turn .keepalive
    by_cases known : msgType = 1
    · subst known
      by_cases closed : status = 0
      · subst closed
        cases found : mux.portToTcpStream port with
        | none =>
          simpa [dispatch, found, addressee, Packet.forPort?] using
            Step.unknownClosed rawData turn found
        | some stream =>
          simpa [dispatch, found, addressee, Packet.forPort?] using
            Step.closed rawData turn found
      by_cases opened : status = 1
      · subst opened
        exact .skipped turn .openRequest
      · have unserved : Unserved (.control 1 port status rawData) (.unknownStatus port status) :=
          .unknownStatus closed opened
        simpa [dispatch, closed, opened] using Step.skipped turn unserved
    · have unserved : Unserved (.control msgType port status rawData) (.unknownMsgType msgType) :=
        .unknownMsgType keepalive known
      simpa [dispatch, keepalive, known] using Step.skipped turn unserved

/-- The multiplexer takes no other steps. -/
theorem step_cases {mux next : Mux} {label : Label} {out : List Event}
    (taken : mux.step label = some (next, out)) : Step mux label next out := by
  -- A label that is not possible now would have been refused.
  cases label with
  | addTcpStream =>
    have step := addTcpStream_cases mux
    rwa [Option.some.inj taken] at step
  | readTcp stream result => exact readTcp_cases taken
  | l2capClosed =>
    simp only [step] at taken
    split at taken
    · rename_i running
      cases taken
      exact .l2capClosed running
    · cases taken
  | deserialized result =>
    simp only [step, deserialized] at taken
    split at taken
    · rename_i packet turn
      cases taken
      exact dispatch_cases turn packet
    · rename_i error turn
      cases taken
      exact .undecoded turn
    · cases taken
  | wroteTcp answer =>
    simp only [step, wroteTcp] at taken
    split at taken
    · rename_i port stream data turn
      split at taken
      · rename_i fits
        cases taken
        exact .wroteTcp turn fits
      · cases taken
    · cases taken
  | sendStop =>
    simp only [step, Mux.sendStop] at taken
    split at taken
    · rename_i turn
      split at taken
      · -- There is room for one request only, so the channel must have been empty.
        rename_i room
        have empty := List.length_eq_zero_iff.mp (Nat.lt_one_iff.mp room)
        cases taken
        rw [empty]
        exact .sendStop turn empty
      · cases taken
    · cases taken
  | sendKeepalive =>
    simp only [step, Mux.sendKeepalive] at taken
    split at taken
    · rename_i running
      cases taken
      exact .sendKeepalive running
    · cases taken
  | pipeInTcp turn =>
    simp only [step, Option.map_eq_some_iff] at taken
    obtain ⟨⟨tcpToL2cap, seen⟩, turned, same⟩ := taken
    cases same
    exact .pipeInTcp turned
  | waitForStopDueToDisconnect =>
    simp only [step, Mux.waitForStopDueToDisconnect] at taken
    split at taken
    · rename_i requested
      cases taken
      exact .stopRequested requested
    · cases taken
  | drop =>
    cases taken
    exact .drop

/-- A send succeeds exactly while the receiver of `tcp_to_l2cap` is alive. -/
theorem enqueue_cases (mux : Mux) (producer : Producer) (packet : Packet) :
    (mux.tcpToL2cap.task ≠ .aborted ∧
      mux.enqueue producer packet =
        ({ mux with tcpToL2cap :=
            { mux.tcpToL2cap with queue := mux.tcpToL2cap.queue ++ [packet] } },
          .enqueued producer packet)) ∨
    (mux.tcpToL2cap.task = .aborted ∧
      mux.enqueue producer packet = (mux, .sendFailed producer packet)) := by
  -- The two outcomes are those of the send on the channel.
  cases sent : mux.tcpToL2cap.send packet with
  | none => exact .inr ⟨TcpToL2cap.send_eq_none sent, by simp [enqueue, sent]⟩
  | some tcpToL2cap =>
    obtain ⟨alive, rfl⟩ := TcpToL2cap.send_eq_some sent
    exact .inl ⟨alive, by simp [enqueue, sent]⟩

section Frame

variable (mux : Mux) (producer : Producer) (packet : Packet)

/-- A send does not touch the port counter. -/
@[simp] theorem enqueue_nextPort : (mux.enqueue producer packet).1.nextPort = mux.nextPort := by
  rcases enqueue_cases mux producer packet with ⟨_, same⟩ | ⟨_, same⟩ <;> rw [same]

/-- A send does not touch the map of ports. -/
@[simp] theorem enqueue_portToTcpStream :
    (mux.enqueue producer packet).1.portToTcpStream = mux.portToTcpStream := by
  rcases enqueue_cases mux producer packet with ⟨_, same⟩ | ⟨_, same⟩ <;> rw [same]

/-- A send spawns no task. -/
@[simp] theorem enqueue_tasks : (mux.enqueue producer packet).1.tasks = mux.tasks := by
  rcases enqueue_cases mux producer packet with ⟨_, same⟩ | ⟨_, same⟩ <;> rw [same]

/-- A send does not stop the mux. -/
@[simp] theorem enqueue_stopped : (mux.enqueue producer packet).1.stopped = mux.stopped := by
  rcases enqueue_cases mux producer packet with ⟨_, same⟩ | ⟨_, same⟩ <;> rw [same]

/-- A send is not a call. -/
@[simp] theorem enqueue_calls : (mux.enqueue producer packet).1.calls = mux.calls := by
  rcases enqueue_cases mux producer packet with ⟨_, same⟩ | ⟨_, same⟩ <;> rw [same]

/-- A send does not touch the reader tasks. -/
@[simp] theorem enqueue_readers : (mux.enqueue producer packet).1.readers = mux.readers := by
  rcases enqueue_cases mux producer packet with ⟨_, same⟩ | ⟨_, same⟩ <;> rw [same]

/-- A send does not touch `pipe_out_tcp`. -/
@[simp] theorem enqueue_pipeOutTcp :
    (mux.enqueue producer packet).1.pipeOutTcp = mux.pipeOutTcp := by
  rcases enqueue_cases mux producer packet with ⟨_, same⟩ | ⟨_, same⟩ <;> rw [same]

/-- A send does not touch `pipe_in_l2cap`. -/
@[simp] theorem enqueue_pipeInL2cap :
    (mux.enqueue producer packet).1.pipeInL2cap = mux.pipeInL2cap := by
  rcases enqueue_cases mux producer packet with ⟨_, same⟩ | ⟨_, same⟩ <;> rw [same]

/-- A send requests no stop. -/
@[simp] theorem enqueue_stopDueToDisconnect :
    (mux.enqueue producer packet).1.stopDueToDisconnect = mux.stopDueToDisconnect := by
  rcases enqueue_cases mux producer packet with ⟨_, same⟩ | ⟨_, same⟩ <;> rw [same]

/-- A send does not touch the task of the keep alives. -/
@[simp] theorem enqueue_keepalive :
    (mux.enqueue producer packet).1.keepalive = mux.keepalive := by
  rcases enqueue_cases mux producer packet with ⟨_, same⟩ | ⟨_, same⟩ <;> rw [same]

/-- A send neither aborts the receiving task nor moves it. -/
@[simp] theorem enqueue_task :
    (mux.enqueue producer packet).1.tcpToL2cap.task = mux.tcpToL2cap.task := by
  rcases enqueue_cases mux producer packet with ⟨_, same⟩ | ⟨_, same⟩ <;> rw [same]

end Frame

/-- An observer who does not watch sends sees nothing of one. -/
theorem enqueue_unseen {α : Type} {see : Event → Option α} {producer : Producer} {packet : Packet}
    (sent : see (.enqueued producer packet) = none)
    (failed : see (.sendFailed producer packet) = none) (mux : Mux) :
    [(mux.enqueue producer packet).2].filterMap see = [] := by
  -- A send shows nothing but its success or failure.
  rcases enqueue_cases mux producer packet with ⟨_, same⟩ | ⟨_, same⟩
  · simp [same, sent]
  · simp [same, failed]

/-- An observer who does not watch reads and sends sees nothing of one turn of a reader task. -/
theorem reader_unseen {α : Type} {see : Event → Option α} {event : Event} {producer : Producer}
    {packet : Packet} (first : see event = none) (sent : see (.enqueued producer packet) = none)
    (failed : see (.sendFailed producer packet) = none) (mux : Mux) :
    [event, (mux.enqueue producer packet).2].filterMap see = [] := by
  rw [List.filterMap_cons_none first]
  exact enqueue_unseen sent failed mux

/-- An observer who does not watch the L2CAP stream sees nothing of `pipe_in_tcp`. -/
theorem l2cap_unseen {α : Type} {see : Event → Option α}
    (unseen : ∀ event, see (.l2cap event) = none) (out : List OutboundEvent) :
    (out.map Event.l2cap).filterMap see = [] := by
  -- Each of the events is hidden from the observer.
  simp [unseen]

/-- A part of the multiplexer that aborting one task keeps is kept by aborting many. -/
theorem abortAll_keeps {α : Type} (part : Mux → α)
    (aborted : ∀ mux task, part (mux.abort task) = part mux) (mux : Mux) (tasks : List Task) :
    part (mux.abortAll tasks) = part mux := by
  -- The first task of the list is the last one to be aborted.
  induction tasks with
  | nil => rfl
  | cons task tasks ih =>
    show part ((mux.abortAll tasks).abort task) = part mux
    rw [aborted, ih]

/-- A part of the multiplexer that one task can change is changed once, if the task is listed. -/
theorem abortAll_part {α : Type} (part : Mux → α) (change : α → α) (one : Task)
    (twice : ∀ value, change (change value) = change value)
    (changed : ∀ mux, part (mux.abort one) = change (part mux))
    (kept : ∀ mux task, task ≠ one → part (mux.abort task) = part mux)
    (mux : Mux) (tasks : List Task) :
    part (mux.abortAll tasks) = if one ∈ tasks then change (part mux) else part mux := by
  -- A task may be listed more than once, so its abort must be idempotent.
  induction tasks with
  | nil => rfl
  | cons task tasks ih =>
    show part ((mux.abortAll tasks).abort task) = _
    by_cases same : task = one
    · subst same
      rw [changed, ih, if_pos (List.mem_cons_self : task ∈ task :: tasks)]
      split
      · exact twice _
      · rfl
    · rw [kept _ _ same, ih]
      simp [Ne.symm same]

/-- A stop does not touch the port counter. -/
@[simp] theorem stop_nextPort (mux : Mux) : mux.stop.nextPort = mux.nextPort := by
  unfold stop
  split
  · rfl
  · exact abortAll_keeps Mux.nextPort (fun _ task => by cases task <;> rfl) mux _

/-- A stop does not touch the map of ports. -/
@[simp] theorem stop_portToTcpStream (mux : Mux) :
    mux.stop.portToTcpStream = mux.portToTcpStream := by
  unfold stop
  split
  · rfl
  · exact abortAll_keeps Mux.portToTcpStream (fun _ task => by cases task <;> rfl) mux _

/-- A stop is not a call. -/
@[simp] theorem stop_calls (mux : Mux) : mux.stop.calls = mux.calls := by
  unfold stop
  split
  · rfl
  · exact abortAll_keeps Mux.calls (fun _ task => by cases task <;> rfl) mux _

/-- A stop takes no request from its channel. -/
@[simp] theorem stop_stopDueToDisconnect (mux : Mux) :
    mux.stop.stopDueToDisconnect = mux.stopDueToDisconnect := by
  unfold stop
  split
  · rfl
  · exact abortAll_keeps Mux.stopDueToDisconnect (fun _ task => by cases task <;> rfl) mux _

/-- A stopped mux stays stopped. -/
@[simp] theorem stop_stopped (mux : Mux) : mux.stop.stopped = true := by
  unfold stop
  split
  · assumption
  · rfl

/-- Stopping once more does nothing. -/
theorem stop_of_stopped {mux : Mux} (stopped : mux.stopped = true) : mux.stop = mux := by
  -- The flag is asked before any task is aborted.
  rw [stop, if_pos stopped]

/-- Stopping aborts the tracked reader tasks. -/
theorem stop_readers {mux : Mux} (running : mux.stopped = false) (stream : StreamId) :
    mux.stop.readers stream =
      if .reader stream ∈ mux.tasks then (mux.readers stream).map ReaderTask.abort
      else mux.readers stream := by
  -- The part that can change is the entry of this one stream.
  rw [stop, if_neg (by simp [running])]
  refine abortAll_part (fun mux => mux.readers stream) (Option.map ReaderTask.abort)
    (.reader stream) ?_ (fun _ => by simp [abort]) ?_ mux mux.tasks
  · intro reader
    cases reader <;> simp [ReaderTask.abort]
  · intro mux task other
    cases task with
    | reader another =>
      have different : stream ≠ another := by
        intro same
        exact other (by rw [same])
      simp [abort, different]
    | pipeInL2cap | pipeOutTcp | pipeInTcp | keepalive => rfl

/-- Stopping aborts `pipe_in_tcp`, which closes the `tcp_to_l2cap` channel. -/
theorem stop_tcpToL2cap {mux : Mux} (running : mux.stopped = false) :
    mux.stop.tcpToL2cap =
      if .pipeInTcp ∈ mux.tasks then mux.tcpToL2cap.abort else mux.tcpToL2cap := by
  rw [stop, if_neg (by simp [running])]
  exact abortAll_part Mux.tcpToL2cap TcpToL2cap.abort .pipeInTcp (fun _ => rfl) (fun _ => rfl)
    (fun _ task other => by cases task <;> first | rfl | exact absurd rfl other) mux mux.tasks

/-- Stopping aborts `pipe_in_l2cap`. -/
theorem stop_pipeInL2cap_eq {mux : Mux} (running : mux.stopped = false) :
    mux.stop.pipeInL2cap =
      if .pipeInL2cap ∈ mux.tasks then mux.pipeInL2cap.abort else mux.pipeInL2cap := by
  rw [stop, if_neg (by simp [running])]
  exact abortAll_part Mux.pipeInL2cap TaskState.abort .pipeInL2cap (by simp) (fun _ => rfl)
    (fun _ task other => by cases task <;> first | rfl | exact absurd rfl other) mux mux.tasks

/-- Stopping aborts `pipe_out_tcp`. -/
theorem stop_pipeOutTcp {mux : Mux} (running : mux.stopped = false) :
    mux.stop.pipeOutTcp =
      if .pipeOutTcp ∈ mux.tasks then mux.pipeOutTcp.abort else mux.pipeOutTcp := by
  rw [stop, if_neg (by simp [running])]
  exact abortAll_part Mux.pipeOutTcp PipeOutTcp.abort .pipeOutTcp
    (fun task => by cases task <;> rfl) (fun _ => rfl)
    (fun _ task other => by cases task <;> first | rfl | exact absurd rfl other) mux mux.tasks

/-- The labels that stop the mux. -/
def Label.Stops (label : Label) : Prop :=
  label = .drop ∨ label = .waitForStopDueToDisconnect

/-- The mux is stopped by a drop or a request, and by nothing else. -/
theorem Step.stopped_iff {mux next : Mux} {label : Label} {out : List Event}
    (step : Step mux label next out) : next.stopped = true ↔ mux.stopped = true ∨ label.Stops := by
  -- Two of the steps stop the mux, and the others leave the flag alone.
  cases step <;> simp [Label.Stops, spawnReader, registered, counted, closeReader]

/-- A mux is up after a step if it was up before and the step is no stop. -/
theorem Step.up_iff {mux next : Mux} {label : Label} {out : List Event}
    (step : Step mux label next out) :
    next.stopped = false ↔ mux.stopped = false ∧ ¬label.Stops := by
  rw [← Bool.not_eq_true, step.stopped_iff, not_or, Bool.not_eq_true]

end Mux

end BleManaged
