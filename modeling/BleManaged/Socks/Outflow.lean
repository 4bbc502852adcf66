import BleManaged.Socks.MuxInvariant

/-! What the tasks of the multiplexer put in the outbound queue, and what they read for it. -/

namespace BleManaged

namespace Mux

/-- The packet an event puts in the queue, with the task that sent it. -/
def enqueuing : Event → Option (Producer × Packet)
  | .enqueued producer packet => some (producer, packet)
  | _ => none

/-- The packets put in the queue, in order, with the tasks that sent them. -/
def enqueued (seen : List Event) : List (Producer × Packet) :=
  seen.filterMap enqueuing

/-- The bytes an event reads from a TCP stream. -/
def reading (stream : StreamId) : Event → Option Bytes
  | .tcpRead reader bytes => if reader = stream then some bytes else none
  | _ => none

/-- The bytes read from a TCP stream. -/
def bytesRead (stream : StreamId) (seen : List Event) : Bytes :=
  -- The cuts between reads are forgotten.
  (seen.filterMap (reading stream)).flatten

/-- The queue is filled in order. -/
@[simp] theorem enqueued_append (seen more : List Event) :
    enqueued (seen ++ more) = enqueued seen ++ enqueued more := List.filterMap_append

/-- The bytes of later reads come behind those of earlier ones. -/
@[simp] theorem bytesRead_append (stream : StreamId) (seen more : List Event) :
    bytesRead stream (seen ++ more) = bytesRead stream seen ++ bytesRead stream more := by
  simp [bytesRead]

/-- The reader task of a stream is running on a port. -/
def Reading (mux : Mux) (port : UInt16) (stream : StreamId) : Prop :=
  mux.readers stream = some { port, state := .running }

/-- What one step does to the outbound side: at most one packet is put in the queue. -/
inductive Outflow (mux : Mux) (label : Label) (next : Mux) (out : List Event) : Prop where
  /-- Nothing is sent and nothing is read, but readers may be aborted. -/
  | quiet (nothing : enqueued out = []) (unread : ∀ stream, bytesRead stream out = [])
      (calls : mux.calls ≤ next.calls)
      (readers : ∀ stream, next.readers stream = mux.readers stream ∨
        next.readers stream = (mux.readers stream).map ReaderTask.abort)
  /-- A stream is added on a free port, and its reader is spawned. -/
  | opened (added : label = .addTcpStream) (free : mux.portToTcpStream mux.candidatePort = none)
      (sent : enqueued out =
        [(.addTcpStream mux.calls, Packet.controlSocketOpen mux.candidatePort)])
      (unread : ∀ stream, bytesRead stream out = []) (calls : next.calls = mux.calls + 1)
      (readers : next.readers = Function.update mux.readers mux.calls
        (some { port := mux.candidatePort, state := .running }))
  /-- A reader passes on what it has read. -/
  | carried {stream port bytes} (running : mux.Reading port stream)
      (sent : enqueued out = [(.reader stream, .data port bytes)])
      (positive : 0 < bytes.length) (bounded : bytes.length ≤ 1024)
      (mine : bytesRead stream out = bytes)
      (unread : ∀ other, other ≠ stream → bytesRead other out = []) (calls : next.calls = mux.calls)
      (readers : next.readers = mux.readers)
  /-- A reader comes to the end of its stream. -/
  | closed {stream port} (running : mux.Reading port stream)
      (sent : enqueued out = [(.reader stream, Packet.controlSocketClosed port)])
      (ended : .tcpEnded stream ∈ out) (unread : ∀ other, bytesRead other out = [])
      (calls : next.calls = mux.calls)
      (readers : next.readers =
        Function.update mux.readers stream (some { port, state := .ended }))
  /-- A keep alive is sent. -/
  | alive (sent : enqueued out = [(.keepalive, Packet.keepalive)])
      (unread : ∀ stream, bytesRead stream out = []) (calls : next.calls = mux.calls)
      (readers : next.readers = mux.readers)

/-- A send that succeeds is one entry of the queue. -/
theorem Sound.enqueue {mux : Mux} (sound : mux.Sound) (running : mux.stopped = false)
    (producer : Producer) (packet : Packet) :
    (mux.enqueue producer packet).2 = .enqueued producer packet := by
  -- The channel is closed by a stop only.
  rcases enqueue_cases mux producer packet with ⟨_, same⟩ | ⟨gone, _⟩
  · rw [same]
  · simp [sound.closed.mpr gone] at running

/-- Stopping aborts some readers and keeps the others. -/
theorem stop_readers_cases (mux : Mux) (stream : StreamId) :
    mux.stop.readers stream = mux.readers stream ∨
      mux.stop.readers stream = (mux.readers stream).map ReaderTask.abort := by
  -- Tracked readers are aborted, and a second stop does nothing.
  by_cases stopped : mux.stopped = true
  · rw [stop_of_stopped stopped]
    exact .inl rfl
  · rw [stop_readers (by simpa using stopped)]
    split
    · exact .inr rfl
    · exact .inl rfl

/-- A reader that runs after others may have been aborted ran before. -/
theorem reading_of_abort {mux next : Mux} {stream : StreamId} {port : UInt16}
    (readers : next.readers stream = mux.readers stream ∨
      next.readers stream = (mux.readers stream).map ReaderTask.abort)
    (running : next.Reading port stream) : mux.Reading port stream := by
  rcases readers with same | aborted
  · rwa [Reading, ← same]
  · -- An aborted reader does not run.
    rw [Reading, aborted] at running
    obtain ⟨reader, _, same⟩ := Option.map_eq_some_iff.mp running
    have state := congrArg ReaderTask.state same
    cases before : reader.state <;> simp [ReaderTask.abort, TaskState.abort, before] at state

/-- A step that neither sends nor reads and keeps the readers is quiet. -/
theorem Outflow.of_same {mux next : Mux} {label : Label} {out : List Event}
    (nothing : enqueued out = []) (unread : ∀ stream, bytesRead stream out = [])
    (calls : mux.calls ≤ next.calls) (readers : next.readers = mux.readers) :
    Outflow mux label next out :=
  -- No reader is aborted.
  .quiet nothing unread calls fun stream => .inl (by rw [readers])

/-- Every step of a sound multiplexer has such an effect on the outbound side. -/
theorem Step.outflow {mux next : Mux} {label : Label} {out : List Event}
    (step : Step mux label next out) (sound : mux.Sound) : Outflow mux label next out := by
  cases step with
  | added free sent =>
    exact .opened rfl free rfl (fun _ => rfl) rfl rfl
  | @read stream port bytes running positive bounded =>
    -- A running reader is never left without a receiver for what it sends.
    have sent := sound.enqueue (sound.tracked stream port running).1 (.reader stream)
      (.data port bytes)
    refine .carried running ?_ positive bounded ?_ ?_ (by simp) (by simp)
    · rw [sent]
      rfl
    · simp [sent, bytesRead, reading, List.filterMap_cons]
    · intro other different
      simp [sent, bytesRead, reading, List.filterMap_cons, Ne.symm different]
  | @readerEnded stream port result running =>
    have unstopped := (sound.tracked stream port running).1
    have sent := (sound.readerEnded running).enqueue unstopped (.reader stream)
      (Packet.controlSocketClosed port)
    refine .closed running ?_ ?_ ?_ ?_ ?_
    · rw [closeReader, sent]
      rfl
    · simp [closeReader]
    · intro other
      rw [closeReader, sent]
      rfl
    · simp [closeReader]
    · simp [closeReader]
  | sendKeepalive =>
    -- The keep alive task may be told that the receiver is gone.
    rcases enqueue_cases mux .keepalive Packet.keepalive with ⟨_, same⟩ | ⟨_, same⟩
    · rw [same]
      exact .alive rfl (fun _ => rfl) rfl rfl
    · rw [same]
      exact .of_same rfl (fun _ => rfl) (Nat.le_refl _) rfl
  | pipeInTcp =>
    exact .of_same (l2cap_unseen (fun _ => rfl) _)
      (fun _ => congrArg List.flatten (l2cap_unseen (fun _ => rfl) _)) (Nat.le_refl _) rfl
  | stopRequested | drop =>
    exact .quiet rfl (fun _ => rfl) (by simp) (stop_readers_cases _)
  | refused | unsent => exact .of_same rfl (fun _ => rfl) (Nat.le_succ _) rfl
  | l2capClosed | undecoded | skipped | unknownData | offered | unknownClosed | closed
  | wroteTcp | sendStop => exact .of_same rfl (fun _ => rfl) (Nat.le_refl _) rfl

/-- What holds of the ports of all readers goes on to hold, if it holds of the port that a call
gives to a new reader. -/
theorem Outflow.readers_keep {mux next : Mux} {label : Label} {out : List Event}
    (outflow : Outflow mux label next out) (holds : StreamId → UInt16 → Prop)
    (spawned : holds mux.calls mux.candidatePort)
    (before : ∀ stream reader, mux.readers stream = some reader → holds stream reader.port) :
    ∀ stream reader, next.readers stream = some reader → holds stream reader.port := by
  intro stream reader found
  cases outflow with
  | quiet _ _ _ readers =>
    -- An aborted reader has the port it had before.
    rcases readers stream with same | aborted
    · exact before stream reader (by rwa [← same])
    · rw [aborted] at found
      obtain ⟨old, known, rfl⟩ := Option.map_eq_some_iff.mp found
      exact before stream old known
  | opened _ _ _ _ _ readers =>
    by_cases new : stream = mux.calls
    · rw [readers, new, Function.update_self] at found
      cases found
      rwa [new]
    · exact before stream reader (by rwa [readers, Function.update_of_ne new] at found)
  | @closed ending port running _ _ _ _ readers =>
    by_cases same : stream = ending
    · -- A reader that ends keeps its port on record.
      rw [readers, same, Function.update_self] at found
      cases found
      rw [same]
      exact before ending { port, state := .running } running
    · exact before stream reader (by rwa [readers, Function.update_of_ne same] at found)
  | carried _ _ _ _ _ _ _ readers => exact before stream reader (by rwa [← readers])
  | alive _ _ _ readers => exact before stream reader (by rwa [← readers])

end Mux

end BleManaged
