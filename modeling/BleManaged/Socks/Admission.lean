import BleManaged.Socks.PortCycle

/-! Who holds the ends of the `tcp_to_l2cap` channel, and what a call of `add_tcp_stream` does. -/

namespace BleManaged

/-- The multiplexer, and whether its owner has dropped it. -/
structure OwnedMux where
  mux : Mux
  /-- Whether the mux has been dropped, and with it the sender it holds itself. -/
  dropped : Bool

namespace OwnedMux

/-- Who can hold a sender of the `tcp_to_l2cap` channel. -/
inductive Holder where
  /-- The mux holds one until it is dropped. -/
  | mux
  /-- The keepalive task holds a clone while it runs. -/
  | keepalive
  /-- A reader task holds a clone while it runs. -/
  | reader (stream : StreamId)
  deriving DecidableEq, Repr

/-- A reader task that has neither ended nor been aborted. -/
def runs (mux : Mux) (stream : StreamId) : Bool :=
  match mux.readers stream with
  | some { state := .running, .. } => true
  | _ => false

/-- The holders of a sender, by which the channel is kept open. -/
def senders (owned : OwnedMux) : List Holder :=
  (if owned.dropped then [] else [.mux]) ++
    (if owned.mux.keepalive = .running then [.keepalive] else []) ++
      -- No reader task is older than the first call or newer than the last one.
      ((List.range owned.mux.calls).filter (runs owned.mux)).map .reader

/-- The receive of `pipe_in_tcp` fails once the queue is empty and every sender is dropped. -/
def recvClosed (owned : OwnedMux) : Option (OwnedMux × List Event) :=
  match owned.mux.tcpToL2cap.task, owned.mux.tcpToL2cap.queue with
  | .receiving, [] =>
    if owned.senders = [] then
      -- The loop breaks, which drops the receiver as an abort would.
      some ({ owned with
        mux := { owned.mux with tcpToL2cap := owned.mux.tcpToL2cap.abort } }, [])
    else none
  | _, _ => none

/-- What can happen next. -/
inductive Label where
  | mux (label : Mux.Label)
  /-- The receive of `pipe_in_tcp` fails. -/
  | recvClosed

/-- Only the owner of a mux can call it. -/
def Called : Mux.Label → Prop
  | .addTcpStream | .waitForStopDueToDisconnect | .drop => True
  | _ => False

instance : (label : Mux.Label) → Decidable (Called label)
  | .addTcpStream | .waitForStopDueToDisconnect | .drop => inferInstanceAs (Decidable True)
  | .readTcp _ _ | .l2capClosed | .deserialized _ | .wroteTcp _ | .sendStop | .sendKeepalive
  | .pipeInTcp _ => inferInstanceAs (Decidable False)

/-- Whether the owner has dropped the mux once a label has been taken. -/
def droppedBy (owned : OwnedMux) : Mux.Label → Bool
  | .drop => true
  | _ => owned.dropped

/-- The effect of one label. -/
def step (owned : OwnedMux) : Label → Option (OwnedMux × List Event)
  | .mux label =>
    -- A mux that has been dropped is not called any more.
    if owned.dropped ∧ Called label then none
    else
      (owned.mux.step label).map fun result =>
        ({ mux := result.1, dropped := owned.droppedBy label }, result.2)
  | .recvClosed => owned.recvClosed

/-- The multiplexer in the hands of its owner. -/
def machine : Lts OwnedMux Label Event where
  init := { mux := Mux.createAndStart, dropped := false }
  step := step

/-- The receiver of the `tcp_to_l2cap` channel is alive while its task is. -/
def ReceiverAlive (owned : OwnedMux) : Prop :=
  owned.mux.tcpToL2cap.task ≠ .aborted

/-- Something was sent on the `tcp_to_l2cap` channel in vain. -/
def SendFailed (seen : List Event) : Prop :=
  ∃ producer packet, .sendFailed producer packet ∈ seen

/-- The mux is sound, its senders outlive its receiver, and no send has failed before a stop. -/
structure Attended (seen : List Event) (owned : OwnedMux) : Prop where
  /-- The ends of the channel are in tracked tasks. -/
  sound : owned.mux.Sound
  /-- A mux that is dropped is stopped first. -/
  stopped : owned.dropped = true → owned.mux.stopped = true
  /-- While the mux has not been stopped, every packet has been put in the queue. -/
  sent : owned.mux.stopped = false → ¬SendFailed seen

/-- The mux holds a sender itself as long as it is not dropped. -/
theorem mux_mem_senders {owned : OwnedMux} (held : owned.dropped = false) :
    .mux ∈ owned.senders := by
  simp [senders, held]

/-- The receive of `pipe_in_tcp` never fails. -/
theorem Attended.recvClosed {owned : OwnedMux} {seen : List Event}
    (attended : Attended seen owned) : owned.recvClosed = none := by
  -- Its task ends with the mux, and until then the mux holds a sender.
  by_cases dropped : owned.dropped = true
  · have aborted := attended.sound.closed.mp (attended.stopped dropped)
    simp [OwnedMux.recvClosed, aborted]
  · have member := mux_mem_senders (by simpa using dropped)
    have held : owned.senders ≠ [] := List.ne_nil_of_mem member
    simp only [OwnedMux.recvClosed, if_neg held]
    split <;> rfl

/-- No step of a mux that has not been stopped fails to send. -/
theorem step_sent {mux next : Mux} {label : Mux.Label} {out : List Event} (sound : mux.Sound)
    (running : mux.stopped = false) (step : Mux.Step mux label next out) : ¬SendFailed out := by
  intro failed
  obtain ⟨producer, packet, failed⟩ := failed
  -- The steps that send are those of the three producers.
  cases step with
  | unsent _ gone =>
    have stopped := sound.closed.mpr gone
    simp [running] at stopped
  | read still => simp [sound.enqueue running] at failed
  | readerEnded still =>
    have sent := (sound.readerEnded still).enqueue running
    simp [Mux.closeReader, sent] at failed
  | sendKeepalive => simp [sound.enqueue running] at failed
  | _ => simp at failed

/-- Every step of the owned mux is one of the multiplexer. -/
theorem Attended.step_cases {owned next : OwnedMux} {seen out : List Event} {label : Label}
    (attended : Attended seen owned) (taken : owned.step label = some (next, out)) :
    ∃ inner mux, label = .mux inner ∧ Mux.Step owned.mux inner mux out ∧
      next = { mux, dropped := owned.droppedBy inner } := by
  cases label with
  | recvClosed =>
    -- While the receiver lives some sender is left, so the channel is not closed.
    rw [OwnedMux.step, attended.recvClosed] at taken
    cases taken
  | mux inner =>
    simp only [OwnedMux.step] at taken
    -- A mux that has been dropped is not called any more.
    split at taken
    · cases taken
    · obtain ⟨⟨mux, seen⟩, went, same⟩ := Option.map_eq_some_iff.mp taken
      cases same
      exact ⟨inner, mux, rfl, Mux.step_cases went, rfl⟩

/-- Every step keeps the ends of the channel attended. -/
theorem Attended.step {owned next : OwnedMux} {seen out : List Event} {label : Label}
    (attended : Attended seen owned) (taken : owned.step label = some (next, out)) :
    Attended (seen ++ out) next := by
  obtain ⟨inner, mux, rfl, step, rfl⟩ := attended.step_cases taken
  refine ⟨attended.sound.step step, ?_, ?_⟩
  · intro dropped
    -- The mux was dropped before, or it is dropped now.
    cases step with
    | drop | stopRequested => simp
    | readerEnded => simpa [Mux.closeReader] using attended.stopped dropped
    | read | sendKeepalive => simpa using attended.stopped dropped
    | _ => exact attended.stopped dropped
  · intro running failed
    obtain ⟨producer, packet, failed⟩ := failed
    have before := (step.up_iff.mp running).1
    rcases List.mem_append.mp failed with earlier | now
    · exact attended.sent before ⟨producer, packet, earlier⟩
    · exact step_sent attended.sound before step ⟨producer, packet, now⟩

/-- In every run the ends of the channel are attended. -/
theorem attended {labels : List Label} {seen : List Event} {owned : OwnedMux}
    (run : machine.Run labels seen owned) : Attended seen owned := by
  refine run.invariant Attended ?_ ?_
  · exact ⟨Mux.createAndStart_sound, by simp [machine], by simp [SendFailed]⟩
  · intro labels seen state label next out _ attended taken
    exact attended.step taken

/-- What a call of `add_tcp_stream` returned. -/
def Returned (owned : OwnedMux) (result : Except AddError Unit) (out : List Event) : Prop :=
  .added owned.mux.calls result ∈ out

/-- All or nothing: a refused call leaves the table, the queue and the tasks alone, and any other
call adds one entry, one open packet and one reader. -/
structure AllOrNothing (owned next : OwnedMux) (out : List Event) : Prop where
  /-- An error is returned exactly when the candidate port is registered. -/
  refused : (∃ error, Returned owned (.error error) out) ↔
    owned.mux.portToTcpStream owned.mux.candidatePort ≠ none
  succeeded : Returned owned (.ok ()) out ↔
    owned.mux.portToTcpStream owned.mux.candidatePort = none
  /-- A refused call changes nothing but the counters. -/
  nothing : owned.mux.portToTcpStream owned.mux.candidatePort ≠ none →
    next.mux.portToTcpStream = owned.mux.portToTcpStream ∧
      next.mux.tcpToL2cap = owned.mux.tcpToL2cap ∧ next.mux.tasks = owned.mux.tasks ∧
      next.mux.readers = owned.mux.readers ∧ Mux.enqueued out = []
  all : owned.mux.portToTcpStream owned.mux.candidatePort = none →
    next.mux.portToTcpStream =
        Function.update owned.mux.portToTcpStream owned.mux.candidatePort
          (some { writer := owned.mux.calls }) ∧
      next.mux.tcpToL2cap.queue =
        owned.mux.tcpToL2cap.queue ++ [Packet.controlSocketOpen owned.mux.candidatePort] ∧
      next.mux.tasks = owned.mux.tasks ++ [.reader owned.mux.calls] ∧
      next.mux.readers = Function.update owned.mux.readers owned.mux.calls
        (some { port := owned.mux.candidatePort, state := .running }) ∧
      Mux.enqueued out = [(.addTcpStream owned.mux.calls,
        Packet.controlSocketOpen owned.mux.candidatePort)]

/-- As long as the mux is not dropped, whatever it can do it does in the hands of its owner. -/
theorem step_of_held {owned : OwnedMux} (held : owned.dropped = false) {label : Mux.Label}
    {next : Mux} {out : List Event} (taken : owned.mux.step label = some (next, out)) :
    machine.step owned (.mux label) =
      some ({ mux := next, dropped := owned.droppedBy label }, out) := by
  simp [machine, OwnedMux.step, held, taken]

/-- A call of a mux that has not been stopped is all or nothing. -/
theorem Attended.addTcpStream {owned : OwnedMux} {seen : List Event}
    (attended : Attended seen owned) (running : owned.mux.stopped = false) :
    ∃ next out, machine.step owned (.mux .addTcpStream) = some (next, out) ∧
      AllOrNothing owned next out := by
  have held : owned.dropped = false := by
    simpa [running] using mt attended.stopped
  -- The call depends on its candidate port only.
  by_cases free : owned.mux.portToTcpStream owned.mux.candidatePort = none
  · refine ⟨_, _, step_of_held held (attended.sound.added running free), ?_⟩
    exact ⟨by simp [Returned, free], by simp [Returned, free], fun known => absurd free known,
      fun _ => ⟨rfl, rfl, rfl, rfl, rfl⟩⟩
  · refine ⟨_, _, step_of_held held (Mux.step_refused free), ?_⟩
    exact ⟨by simp [Returned, free], by simp [Returned, free],
      fun _ => ⟨rfl, rfl, rfl, rfl, rfl⟩, fun unused => absurd unused free⟩

end OwnedMux

end BleManaged
