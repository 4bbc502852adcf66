import BleManaged.Lib.Settling
import BleManaged.Socks.Parse

/-! What has arrived from the L2CAP stream is worked off, and the end of the stream is noticed. -/

namespace BleManaged

namespace Chunker

/-- A read that finds its channel closed ends what goes on behind it, if its failure does. -/
theorem read_impatient {α : Type} {gives : α → Prop}
    {next : Except ChunkerError Bytes × Chunker → Receiving Bytes α}
    (fails : ∀ error chunker, ∃ value, next (.error error, chunker) = .done value ∧ gives value)
    (goes : ∀ bytes chunker, Receiving.Impatient gives (next (.ok bytes, chunker)))
    (n : Nat) (chunker : Chunker) :
    Receiving.Impatient gives ((read n chunker).bind next) := by
  -- The induction follows the loop of the read, which goes on behind a chunk that is not empty.
  induction missing : n - chunker.chunk.length using Nat.strongRecOn generalizing chunker with
  | ind missing ih =>
    by_cases short : chunker.chunk.length < n
    · rw [read, dif_pos short]
      refine ⟨fails .recv chunker, fun newChunk => ?_⟩
      by_cases positive : newChunk.length > 0
      · simp only [dif_pos positive]
        refine ih _ ?_ _ rfl
        simp only [List.length_append]
        omega
      · simp only [dif_neg positive]
        obtain ⟨value, ends, _⟩ := fails .overflowed chunker
        rw [Prog.done_bind, ends]
        trivial
    · rw [read, dif_neg short]
      exact goes _ _

/-- A program of reads that ends with its first failure ends when the channel is closed. -/
theorem through_impatient {α : Type} {gives : α → Prop}
    {program : Prog Nat (Except ChunkerError Bytes) α} (strict : program.Strict gives)
    (chunker : Chunker) :
    Receiving.Impatient (fun result : α × Chunker => gives result.1)
      (program.through read chunker) := by
  -- The induction is on the reads that the program still makes.
  induction program generalizing chunker with
  | done value => trivial
  | ask n resume ih =>
    refine read_impatient ?_ (fun bytes chunker => ih _ (strict.2 bytes) chunker) n chunker
    intro error left
    obtain ⟨value, ends, given⟩ := strict.1 error
    exact ⟨(value, left), by simp [ends, Prog.through], given⟩

end Chunker

namespace Packet

/-- What `Packet::deserialize` ends with when a read fails. -/
def Undecodable (result : Except DeserializeError Packet) : Prop :=
  ∃ error, result = .error error

/-- The body of `Packet::deserialize` ends with its first failing read. -/
theorem deserializer_strict : deserializer.Strict Undecodable := by
  simp only [deserializer, Prog.query, Prog.bind_eq, Prog.ask_bind, Prog.done_bind, Prog.pure_eq]
  -- The program is followed through its reads, each of which may be the last one.
  refine ⟨fun error => ⟨_, rfl, _, rfl⟩, fun portBytes => ?_⟩
  dsimp only
  split
  · refine ⟨fun error => ⟨_, rfl, _, rfl⟩, fun msgTypeByte => ?_⟩
    dsimp only
    split
    · trivial
    split
    · trivial
    · refine ⟨fun error => ⟨_, rfl, _, rfl⟩, fun forPortBytes => ?_⟩
      refine ⟨fun error => ⟨_, rfl, _, rfl⟩, fun statusByte => ?_⟩
      dsimp only
      split
      · trivial
      split <;> trivial
  · refine ⟨fun error => ⟨_, rfl, _, rfl⟩, fun lengthBytes => ?_⟩
    dsimp only
    split
    · trivial
    · exact ⟨fun error => ⟨_, rfl, _, rfl⟩, fun bytes => trivial⟩

/-- A call of `Packet::deserialize` fails as soon as it is told that its channel is closed. -/
theorem deserialize_impatient (chunker : Chunker) :
    Receiving.Impatient (fun result => Undecodable result.1) (deserialize chunker) :=
  Chunker.through_impatient deserializer_strict chunker

end Packet

namespace Mux

/-- The stop request is in its channel from the end of `pipe_out_tcp` until the mux is stopped. -/
structure Notifies (mux : Mux) : Prop where
  /-- Nobody else requests a stop. -/
  silent : mux.pipeOutTcp ≠ .ended → mux.stopDueToDisconnect = []
  noticed : mux.pipeOutTcp = .ended → mux.stopped = false → mux.stopDueToDisconnect = [true]

/-- Stopping does nothing to a task that has ended. -/
theorem stop_ended {mux : Mux} (ended : mux.pipeOutTcp = .ended) :
    mux.stop.pipeOutTcp = .ended := by
  have passes := stop_passes mux
  rw [ended] at passes
  exact (Inbound.passes_ended passes).2

/-- A stop leaves at most an old request behind. -/
theorem Notifies.stop {mux : Mux} (notifies : mux.Notifies) : mux.stop.Notifies := by
  refine ⟨fun going => ?_, fun _ running => by simp at running⟩
  rw [stop_stopDueToDisconnect]
  exact notifies.silent fun ended => going (stop_ended ended)

/-- Every step keeps the request in its channel until the mux is stopped. -/
theorem Notifies.step {mux next : Mux} {label : Label} {out : List Event}
    (notifies : mux.Notifies) (step : Step mux label next out) : next.Notifies := by
  cases step with
  | @stopRequested request requests requested =>
    -- A request can be taken only behind the end of the task.
    have ended : mux.pipeOutTcp = .ended := by
      by_contra going
      simp [notifies.silent going] at requested
    have still : { mux with stopDueToDisconnect := requests }.stop.pipeOutTcp = .ended :=
      stop_ended ended
    exact ⟨fun going => absurd still going, fun _ running => by simp at running⟩
  | drop => exact notifies.stop
  | readerEnded =>
    exact ⟨by simpa [closeReader] using notifies.silent,
      by simpa [closeReader] using notifies.noticed⟩
  | read | sendKeepalive =>
    exact ⟨by simpa using notifies.silent, by simpa using notifies.noticed⟩
  | undecoded turn | offered turn =>
    exact ⟨fun _ => notifies.silent (by simp [turn]), by simp⟩
  | wroteTcp turn => exact ⟨fun _ => notifies.silent (by simp [turn]), by simp⟩
  | sendStop => exact ⟨fun going => absurd rfl going, fun _ _ => rfl⟩
  | refused | unsent | added | l2capClosed | skipped | unknownData | unknownClosed | closed
  | pipeInTcp => exact ⟨notifies.silent, notifies.noticed⟩

/-- In every run the request of a stop is kept until the mux is stopped. -/
theorem notifies {labels : List Label} {seen : List Event} {mux : Mux}
    (run : machine.Run labels seen mux) : mux.Notifies := by
  -- At the start nothing has been requested, and the task has not ended.
  refine run.invariant (fun _ mux => mux.Notifies) ⟨fun _ => rfl, fun ended => ?_⟩ ?_
  · cases ended
  · intro labels seen mux label next out _ notifies taken
    exact notifies.step (step_cases taken)

end Mux

namespace Inbound

/-- The steps by which `pipe_out_tcp` works. -/
def works : Label → Bool
  | .recv | .returned | .mux (.wroteTcp _) | .mux .sendStop => true
  | _ => false

/-- Whatever brings no more bytes. -/
def Quiet : Label → Prop
  | .pipeInL2cap (.ok chunk) => chunk = []
  | _ => True

/-- One more receive is to be made by a call that waits for it. -/
def asking : Receiving Bytes (Except DeserializeError Packet × Chunker) → Nat
  | .done _ => 0
  | .ask _ _ => 1

/-- There is at most one receive to be waited for. -/
theorem asking_le (call : Receiving Bytes (Except DeserializeError Packet × Chunker)) :
    asking call ≤ 1 := by
  cases call <;> simp [asking]

/-- How many steps the chunks that have arrived can still take, packet by packet. -/
def toCome (inbound : Inbound) : Nat :=
  3 * (ahead inbound.call inbound.l2capToTcp).length + inbound.l2capToTcp.length +
    asking inbound.call

/-- How many steps `pipe_out_tcp` can still take if no more bytes arrive. -/
def workLeft (inbound : Inbound) : Nat :=
  match inbound.mux.pipeOutTcp with
  | .deserializing => inbound.toCome + 2
  -- The write comes first.
  | .writing _ _ _ => inbound.toCome + 3
  | .signalling => 1
  | .ended | .aborted => 0

/-- The task is gone, or it waits for bytes that have not arrived. -/
def Rests (inbound : Inbound) : Prop :=
  inbound.mux.pipeOutTcp = .ended ∨ inbound.mux.pipeOutTcp = .aborted ∨
    inbound.mux.pipeOutTcp = .deserializing ∧ inbound.mux.pipeInL2cap = .running ∧
      inbound.l2capToTcp = [] ∧ ∃ resume, inbound.call = .ask () resume

/-- The call in progress fails as soon as it is told that the channel is closed. -/
def Impatient (inbound : Inbound) : Prop :=
  Receiving.Impatient (fun result => Packet.Undecodable result.1) inbound.call

/-- Every step leaves such a call behind. -/
theorem Step.impatient {inbound next : Inbound} {label : Label} {out : List InboundEvent}
    (impatient : inbound.Impatient) (step : Step inbound label next out) : next.Impatient := by
  -- A receive leads on inside the call, and a return begins the next call.
  cases step with
  | recv turn call =>
    rw [Impatient, call] at impatient
    exact impatient.2 _
  | recvClosed turn call =>
    rw [Impatient, call] at impatient
    obtain ⟨value, ends, _⟩ := impatient.1
    simp only [Impatient, ends]
    trivial
  | returned => exact Packet.deserialize_impatient _
  | read | dropped | closed | mux => exact impatient

/-- In every run the call in progress is such a call. -/
theorem impatient {labels : List Label} {seen : List InboundEvent} {inbound : Inbound}
    (run : machine.Run labels seen inbound) : inbound.Impatient := by
  refine run.invariant (fun _ inbound => inbound.Impatient) (Packet.deserialize_impatient _) ?_
  intro labels seen inbound label next out _ impatient taken
  exact (step_cases taken).impatient impatient

/-- A call that waits on an empty channel has no packet ahead of it. -/
theorem Impatient.ahead {inbound : Inbound} (impatient : inbound.Impatient)
    {resume : Option Bytes → Receiving Bytes (Except DeserializeError Packet × Chunker)}
    (call : inbound.call = .ask () resume) : ahead inbound.call [] = [] := by
  -- Told that the channel is closed, the call fails instead of returning a packet.
  rw [Impatient, call] at impatient
  obtain ⟨⟨result, chunker⟩, ends, error, failed⟩ := impatient.1
  simp only at failed
  simp [Inbound.ahead, call, ends, failed]

/-- What `pipe_out_tcp` passes through without its call gives it nothing more to do. -/
theorem workLeft_passes {inbound : Inbound} {mux : Mux} {log : List Obtained}
    (passes : Mux.Passes inbound.mux.pipeOutTcp mux.pipeOutTcp log) :
    workLeft { inbound with mux } ≤ inbound.workLeft := by
  -- None of these ways gives the task more to do than its write or its stop request.
  have same : toCome { inbound with mux } = inbound.toCome := rfl
  simp only [workLeft, same]
  generalize inbound.mux.pipeOutTcp = task at passes
  generalize mux.pipeOutTcp = next at passes
  cases passes with
  | same => exact Nat.le_refl _
  | wrote => simp
  | signalled => simp
  | aborted => cases task <;> simp [PipeOutTcp.abort]

/-- Every step by which `pipe_out_tcp` works leaves it less to do. -/
theorem Step.workLeft_lt {inbound next : Inbound} {label : Label} {out : List InboundEvent}
    (impatient : inbound.Impatient) (step : Step inbound label next out)
    (working : works label = true) : next.workLeft < inbound.workLeft := by
  cases step with
  | @recv resume chunk queue turn call arrived =>
    -- A chunk goes from the channel to the call, which has the same packets ahead.
    have same : ahead (.ask () resume) (chunk :: queue) = ahead (resume (some chunk)) queue := rfl
    have once := asking_le (resume (some chunk))
    have waiting : asking (.ask () resume) = 1 := rfl
    simp only [workLeft, turn, toCome, arrived, call, same, waiting, List.length_cons]
    omega
  | @recvClosed resume turn call empty closed =>
    -- The call fails at once.
    have same : ahead (.ask () resume) [] = ahead (resume none) [] := rfl
    rw [Impatient, call] at impatient
    obtain ⟨value, ends, _⟩ := impatient.1
    have now : asking (resume none) = 0 := by rw [ends]; rfl
    have waiting : asking (.ask () resume) = 1 := rfl
    simp only [workLeft, turn, toCome, empty, call, same, now, waiting]
    omega
  | @returned result chunker mux out call taken =>
    have step := Mux.step_cases taken
    have turn := step.deserializing
    cases result with
    | ok packet =>
      -- The packet was the first one ahead, and its write may have to be waited for.
      obtain ⟨_, _, after⟩ := step.dispatched
      have fewer : (ahead inbound.call inbound.l2capToTcp).length =
          (ahead (Packet.deserialize chunker) inbound.l2capToTcp).length + 1 := by
        rw [call, ahead_deserialize]
        rfl
      have once := asking_le (Packet.deserialize chunker)
      rcases after with after | ⟨port, stream, data, after⟩
      · simp only [workLeft, turn, after, toCome, fewer]
        omega
      · simp only [workLeft, turn, after, toCome, fewer]
        omega
    | error error =>
      obtain ⟨_, _, after⟩ := step.failed
      simp only [workLeft, turn, after]
      omega
  | @mux label mux out other taken =>
    cases label with
    | wroteTcp answer =>
      cases Mux.step_cases taken with
      | wroteTcp turn =>
        have same : toCome { inbound with
            mux := { inbound.mux with pipeOutTcp := .deserializing } } = inbound.toCome := rfl
        simp [workLeft, turn, same]
    | sendStop =>
      cases Mux.step_cases taken with
      | sendStop turn => simp [workLeft, turn]
    | addTcpStream | readTcp | l2capClosed | deserialized | sendKeepalive | pipeInTcp
    | waitForStopDueToDisconnect | drop => simp [Inbound.works] at working
  | read | dropped | closed => simp [Inbound.works] at working

/-- A step that brings no bytes gives `pipe_out_tcp` nothing more to do. -/
theorem Step.workLeft_le {inbound next : Inbound} {label : Label} {out : List InboundEvent}
    (step : Step inbound label next out) (resting : works label = false) (quiet : Quiet label) :
    next.workLeft ≤ inbound.workLeft := by
  -- Only a read that brings bytes could add to what is to come.
  cases step with
  | read _ positive => exact absurd quiet positive
  | dropped _ positive => exact absurd quiet positive
  | closed _ taken => exact workLeft_passes ((Mux.step_cases taken).passes (by simp)).1
  | mux other taken => exact workLeft_passes ((Mux.step_cases taken).passes other).1
  | recv | recvClosed | returned => simp [Inbound.works] at resting

/-- `pipe_out_tcp` is never stuck but where it rests. -/
theorem goes {inbound : Inbound} (notifies : inbound.mux.Notifies) (busy : ¬inbound.Rests) :
    ∃ label next out, works label = true ∧ machine.step inbound label = some (next, out) := by
  cases turn : inbound.mux.pipeOutTcp with
  | deserializing =>
    cases call : inbound.call with
    | done value =>
      obtain ⟨result, chunker⟩ := value
      obtain ⟨⟨mux, out⟩, taken⟩ : ∃ after,
          inbound.mux.step (.deserialized result) = some after := by
        cases result <;> simp [Mux.step, Mux.deserialized, turn]
      refine ⟨.returned, { inbound with mux, call := Packet.deserialize chunker }, out.map .mux,
        rfl, ?_⟩
      simp only [machine, step, Inbound.returned, call, lift, taken, Option.map_some]
    | ask question resume =>
      cases arrived : inbound.l2capToTcp with
      | cons chunk queue =>
        refine ⟨.recv, { inbound with l2capToTcp := queue, call := resume (some chunk) }, [],
          rfl, ?_⟩
        simp only [machine, step, Inbound.recv, turn, call, arrived]
      | nil =>
        -- An empty channel is waited for while it is open.
        by_cases running : inbound.mux.pipeInL2cap = .running
        · exact absurd (.inr (.inr ⟨turn, running, arrived, resume, call⟩)) busy
        · refine ⟨.recv, { inbound with call := resume none }, [], rfl, ?_⟩
          simp only [machine, step, Inbound.recv, turn, call, arrived, if_neg running]
  | writing port stream data =>
    -- The write may be answered in some way.
    have taken : inbound.mux.step (.wroteTcp .error) =
        some ({ inbound.mux with pipeOutTcp := .deserializing },
          [.answered stream data .error]) := by
      simp [Mux.step, Mux.wroteTcp, turn, WriteAnswer.Fits]
    exact ⟨_, _, _, rfl, step_mux taken (by simp) (by simp)⟩
  | signalling =>
    have room := notifies.silent (by simp [turn])
    have taken : inbound.mux.step .sendStop =
        some ({ inbound.mux with
          stopDueToDisconnect := inbound.mux.stopDueToDisconnect ++ [true],
          pipeOutTcp := .ended }, [.stopSignal]) := by
      simp [Mux.step, Mux.sendStop, turn, room]
    exact ⟨_, _, _, rfl, step_mux taken (by simp) (by simp)⟩
  | ended => exact absurd (.inl turn) busy
  | aborted => exact absurd (.inr (.inl turn)) busy

/-- `pipe_out_tcp` works off what has arrived, and rests. -/
def settling : machine.Settling where
  works := works
  Quiet := Quiet
  Rests := Rests
  rank := workLeft
  lowers := by
    rintro state label next out ⟨labels, seen, run⟩ working taken
    exact (step_cases taken).workLeft_lt (impatient run) working
  stays _ resting quiet taken := (step_cases taken).workLeft_le resting quiet
  goes := by
    rintro state ⟨labels, seen, run⟩ busy
    obtain ⟨others, inner⟩ := runs_multiplexer run
    exact goes (Mux.notifies inner) busy

/-- Nothing that has arrived is left to be done. -/
inductive Settled (seen : List InboundEvent) (inbound : Inbound) : Prop where
  /-- Every whole packet has been dispatched, and the next bytes are waited for. -/
  | waiting (running : inbound.mux.pipeInL2cap = .running)
      (turn : inbound.mux.pipeOutTcp = .deserializing)
      (all : outcome seen = (parse (received seen)).map .packet)
  /-- Every packet up to the end or the first malformed one has been dispatched, and the stop
  request is there to be received. -/
  | noticed (turn : inbound.mux.pipeOutTcp = .ended)
      (all : outcome seen = (parse (received seen)).map .packet ++ [.stop])
      (request : inbound.mux.waitForStopDueToDisconnect ≠ none)
  /-- The mux has been stopped. -/
  | stopped (stopped : inbound.mux.stopped = true)

/-- Where `pipe_out_tcp` rests, nothing that has arrived is left to be done. -/
theorem Rests.settled {labels : List Label} {seen : List InboundEvent} {inbound : Inbound}
    (run : machine.Run labels seen inbound) (rests : inbound.Rests) : Settled seen inbound := by
  obtain ⟨others, inner⟩ := runs_multiplexer run
  have reached := consistent run [] (by simp) fun _ => rfl
  simp only [List.flatten_nil, List.append_nil] at reached
  -- The pipeline rests for one of three reasons, each of which says how it has settled.
  rcases rests with ended | aborted | ⟨turn, running, empty, resume, call⟩
  · by_cases stopped : inbound.mux.stopped = true
    · exact .stopped stopped
    · have request := (Mux.notifies inner).noticed ended (by simpa using stopped)
      refine .noticed ended (reached.outcome.2 ended) ?_
      simp [Mux.waitForStopDueToDisconnect, request]
  · -- Only a stop aborts the task.
    refine .stopped ?_
    by_contra running
    exact ((Mux.sound inner).sender (by simpa using running)).2 aborted
  · -- No packet is ahead of a call that waits, so those of all bytes are behind it.
    rw [empty, (impatient run).ahead call] at reached
    obtain ⟨done, split, log⟩ := reached.split turn
    rw [List.append_nil] at split
    exact .waiting running turn (by rw [log, split])

/-- If no more bytes arrive, `pipe_out_tcp` works off what has arrived in a bounded number of
steps, whatever the other tasks do in between, and it is never stuck before it has. -/
theorem pipe_out_tcp_settles {labels : List Label} {seen : List InboundEvent} {inbound : Inbound}
    (run : machine.Run labels seen inbound) :
    (∀ more last out, (∀ label ∈ more, Quiet label) →
      machine.exec inbound more = some (last, out) → more.countP works ≤ inbound.workLeft) ∧
    ((∀ label, works label = true → machine.step inbound label = none) → Settled seen inbound) ∧
    ∃ more last out, (∀ label ∈ more, works label = true) ∧
      machine.exec inbound more = some (last, out) ∧ Settled (seen ++ out) last := by
  have reachable : machine.Reachable inbound := ⟨labels, seen, run⟩
  refine ⟨?_, ?_, ?_⟩
  · intro more last out quiet executed
    have bound := settling.count_le reachable (fun label member _ => quiet label member) executed
    exact Nat.le_trans (Nat.le_add_right _ _) bound
  · intro stuck
    exact Rests.settled run (settling.rests_of_stuck reachable stuck)
  · obtain ⟨more, last, out, working, executed, rests⟩ := settling.settles reachable
    exact ⟨more, last, out, working, executed, Rests.settled (run.extend executed) rests⟩

/-- A keep alive and one more byte arrive before the end of the stream, and are worked off. -/
theorem pipe_out_tcp_settles_end_of_stream :
    ∃ seen inbound, machine.Run [.pipeInL2cap (.ok [0, 0, 0, 0]), .pipeInL2cap (.ok [])] seen
        inbound ∧ received seen = [0, 0, 0, 0] ∧ inbound.mux.pipeInL2cap = .ended ∧
      ∃ more last out, (∀ label ∈ more, works label = true) ∧
        machine.exec inbound more = some (last, out) ∧ Settled (seen ++ out) last := by
  obtain ⟨seen, inbound, run, bytes, ended⟩ : ∃ seen inbound,
      machine.Run [.pipeInL2cap (.ok [0, 0, 0, 0]), .pipeInL2cap (.ok [])] seen inbound ∧
      received seen = [0, 0, 0, 0] ∧ inbound.mux.pipeInL2cap = .ended :=
    ⟨_, _, Lts.Run.of_exec rfl, rfl, rfl⟩
  exact ⟨seen, inbound, run, bytes, ended, (pipe_out_tcp_settles run).2.2⟩

end Inbound

end BleManaged
