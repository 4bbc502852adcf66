import BleManaged.Socks.Inbound
import Mathlib.Data.List.Infix

/-! The packets that are dispatched depend on the bytes received, not on how they were cut. -/

namespace BleManaged

/-- What `pipe_out_tcp` does with what it obtains: it dispatches packets, or asks for a stop. -/
inductive Obtained where
  | packet (packet : Packet)
  | stop
  deriving DecidableEq, Repr

namespace Mux

/-- A packet that is dispatched, or a stop request that is sent. -/
def obtaining : Event → Option Obtained
  | .dispatched packet _ => some (.packet packet)
  | .stopSignal => some .stop
  | _ => none

/-- The packets that have been dispatched and the stop requests that have been sent, in order. -/
def obtained (seen : List Event) : List Obtained :=
  seen.filterMap obtaining

/-- What is obtained is listed in order. -/
@[simp] theorem obtained_append (seen more : List Event) :
    obtained (seen ++ more) = obtained seen ++ obtained more := List.filterMap_append

/-- Whatever `pipe_out_tcp` comes to after leaving its call alone. -/
inductive Passes : PipeOutTcp → PipeOutTcp → List Obtained → Prop where
  | same {task} : Passes task task []
  /-- The write is answered, and the next call begins. -/
  | wrote {port stream data} : Passes (.writing port stream data) .deserializing []
  /-- The stop request is sent, and the loop breaks. -/
  | signalled : Passes .signalling .ended [.stop]
  /-- The task is aborted, unless it has ended. -/
  | aborted {task} : Passes task task.abort []

/-- Stopping aborts `pipe_out_tcp` or leaves it alone. -/
theorem stop_passes (mux : Mux) : Passes mux.pipeOutTcp mux.stop.pipeOutTcp [] := by
  -- A second stop does nothing.
  by_cases stopped : mux.stopped = true
  · rw [stop_of_stopped stopped]
    exact .same
  · rw [stop_pipeOutTcp (by simpa using stopped)]
    split
    · exact .aborted
    · exact .same

/-- A task that has been aborted, if it was, does not run again. -/
theorem stop_pipeInL2cap {mux : Mux} (running : mux.stop.pipeInL2cap = .running) :
    mux.pipeInL2cap = .running := by
  -- The task is tracked or not, and in neither case is it started again.
  by_cases stopped : mux.stopped = true
  · rwa [stop_of_stopped stopped] at running
  · rw [stop_pipeInL2cap_eq (by simpa using stopped)] at running
    split at running
    · cases before : mux.pipeInL2cap <;> simp [before, TaskState.abort] at running ⊢
    · exact running

/-- A step that is not a return of `Packet::deserialize` dispatches nothing. -/
theorem Step.passes {mux next : Mux} {label : Label} {out : List Event}
    (step : Step mux label next out) (other : ∀ result, label ≠ .deserialized result) :
    Passes mux.pipeOutTcp next.pipeOutTcp (obtained out) ∧
      (next.pipeInL2cap = .running → mux.pipeInL2cap = .running) := by
  -- Most steps leave both inbound tasks alone.
  cases step with
  | refused | unsent | added => exact ⟨.same, id⟩
  | @read stream port bytes =>
    rw [obtained, reader_unseen rfl rfl rfl, enqueue_pipeOutTcp, enqueue_pipeInL2cap]
    exact ⟨.same, id⟩
  | @readerEnded stream port result =>
    rw [closeReader, obtained, reader_unseen rfl rfl rfl, enqueue_pipeOutTcp, enqueue_pipeInL2cap]
    exact ⟨.same, id⟩
  | sendKeepalive =>
    rw [obtained, enqueue_unseen rfl rfl, enqueue_pipeOutTcp, enqueue_pipeInL2cap]
    exact ⟨.same, id⟩
  | pipeInTcp =>
    rw [obtained, l2cap_unseen (fun _ => rfl)]
    exact ⟨.same, id⟩
  | l2capClosed running => exact ⟨.same, fun _ => running⟩
  | wroteTcp turn =>
    rw [turn]
    exact ⟨.wrote, id⟩
  | sendStop turn =>
    rw [turn]
    exact ⟨.signalled, id⟩
  | @stopRequested request requests =>
    have passes := stop_passes { mux with stopDueToDisconnect := requests }
    exact ⟨passes, stop_pipeInL2cap⟩
  | drop => exact ⟨stop_passes _, stop_pipeInL2cap⟩
  | undecoded | skipped | unknownData | offered | unknownClosed | closed =>
    exact absurd rfl (other _)

/-- A packet that is returned by `Packet::deserialize` is dispatched, and nothing else is. -/
theorem Step.dispatched {mux next : Mux} {packet : Packet} {out : List Event}
    (step : Step mux (.deserialized (.ok packet)) next out) :
    obtained out = [.packet packet] ∧ next.pipeInL2cap = mux.pipeInL2cap ∧
      (next.pipeOutTcp = .deserializing ∨
        ∃ port stream data, next.pipeOutTcp = .writing port stream data) := by
  -- Only data for a registered port makes the task wait before its next call.
  cases step with
  | skipped turn | unknownData turn | unknownClosed _ turn => exact ⟨rfl, rfl, .inl turn⟩
  | closed _ turn => exact ⟨rfl, rfl, .inl turn⟩
  | offered => exact ⟨rfl, rfl, .inr ⟨_, _, _, rfl⟩⟩

/-- What `Packet::deserialize` returns is handled between two calls. -/
theorem Step.deserializing {mux next : Mux} {result : Except DeserializeError Packet}
    {out : List Event} (step : Step mux (.deserialized result) next out) :
    mux.pipeOutTcp = .deserializing := by
  -- Every branch of the loop starts there.
  cases step <;> assumption

/-- A failure of `Packet::deserialize` is followed by a stop request only. -/
theorem Step.failed {mux next : Mux} {error : DeserializeError} {out : List Event}
    (step : Step mux (.deserialized (.error error)) next out) :
    obtained out = [] ∧ next.pipeInL2cap = mux.pipeInL2cap ∧ next.pipeOutTcp = .signalling := by
  cases step with
  | undecoded => exact ⟨rfl, rfl, rfl⟩

end Mux

/-- The packets deserialized from bytes that arrive as one single chunk, up to the first error. -/
def parse (bytes : Bytes) : List Packet :=
  -- The channel is closed behind the chunk, so the drain ends for want of bytes at the latest.
  (Packet.chunkSource.drain (Chunker.new, [bytes])).1

/-- Parsing one chunk is decoding packet after packet. -/
theorem parse_eq (bytes : Bytes) : parse bytes = (Packet.bytesSource.drain bytes).1 := by
  by_cases empty : bytes = []
  · -- An empty chunk makes the first read fail, and so does the lack of bytes.
    subst empty
    have fails : Packet.chunkSource.next (Chunker.new, [[]]) =
        (.error (.port .overflowed), Chunker.new, []) := by decide +kernel
    rw [parse, Packet.chunkSource.drain_error fails, Packet.drain_nil]
  · have holds : Chunker.new.Holds [bytes] bytes := by
      simp [Chunker.Holds, Chunker.unread, Chunker.new, empty]
    exact (Packet.drain_chunks holds).1

namespace Inbound

open Packet (chunkSource)

/-- The bytes read from the L2CAP stream. -/
def received (seen : List InboundEvent) : Bytes :=
  (seen.filterMap fun
    | .l2capRead bytes => some bytes
    | _ => none).flatten

/-- What `pipe_out_tcp` has done with what it obtained. -/
def outcome (seen : List InboundEvent) : List Obtained :=
  -- Reads of the L2CAP stream are not outcomes.
  Mux.obtained (seen.filterMap toMux)

/-- Bytes are received in the order of the reads. -/
@[simp] theorem received_append (seen more : List InboundEvent) :
    received (seen ++ more) = received seen ++ received more := by
  simp [received]

/-- Outcomes are listed in order. -/
@[simp] theorem outcome_append (seen more : List InboundEvent) :
    outcome (seen ++ more) = outcome seen ++ outcome more := by
  simp [outcome]

/-- The rest of the multiplexer receives nothing. -/
@[simp] theorem received_mux (out : List Event) : received (out.map .mux) = [] := by
  simp [received, List.filterMap_map]

/-- Outcomes are those that the multiplexer shows. -/
@[simp] theorem outcome_mux (out : List Event) :
    outcome (out.map .mux) = Mux.obtained out := by
  simp [outcome, List.filterMap_map, Function.comp_def, toMux]

/-- The packets that the call in progress and the calls after it obtain from a channel that is
closed behind these chunks. -/
def ahead (call : Receiving Bytes (Except DeserializeError Packet × Chunker))
    (chunks : List Bytes) : List Packet :=
  -- The first failure ends the loop, whatever bytes are behind it.
  match call.finish chunks with
  | ((.ok packet, chunker), rest) => packet :: (chunkSource.drain (chunker, rest)).1
  | ((.error _, _), _) => []

/-- A call that has just begun obtains what the chunks are drained to. -/
theorem ahead_deserialize (chunker : Chunker) (chunks : List Bytes) :
    ahead (Packet.deserialize chunker) chunks = (chunkSource.drain (chunker, chunks)).1 := by
  -- The drain takes the same first step as the call.
  unfold ahead
  cases finished : (Packet.deserialize chunker).finish chunks with
  | mk returned rest =>
    obtain ⟨result, left⟩ := returned
    have next : chunkSource.next (chunker, chunks) = (result, left, rest) := by
      simp [Packet.chunkSource, finished]
    cases result with
    | ok packet => rw [chunkSource.drain_ok next]
    | error error => rw [chunkSource.drain_error next]

/-- How far `pipe_out_tcp` has come in a list of packets, when these are still ahead of it. -/
inductive Reached (packets : List Packet) : PipeOutTcp → List Packet → List Obtained → Prop where
  /-- Some packets are done, and the others are ahead. -/
  | working {task done rest} (split : packets = done ++ rest)
      (turn : task = .deserializing ∨ ∃ port stream data, task = .writing port stream data) :
      Reached packets task rest (done.map .packet)
  /-- All packets are done, and the stop request is still to be sent. -/
  | signalling {rest} : Reached packets .signalling rest (packets.map .packet)
  /-- The stop request has been sent. -/
  | ended {rest} : Reached packets .ended rest (packets.map .packet ++ [.stop])
  /-- The task was aborted at one of these points. -/
  | aborted {task rest others done} (before : Reached packets task others done) :
      Reached packets .aborted rest done

/-- At work, the task has done a first part of the packets and has the others ahead of it. -/
theorem Reached.split {packets rest : List Packet} {task : PipeOutTcp} {log : List Obtained}
    (reached : Reached packets task rest log) (turn : task = .deserializing) :
    ∃ done, packets = done ++ rest ∧ log = done.map .packet := by
  -- At the other points no packet is ahead any more.
  cases reached with
  | working split => exact ⟨_, split, rfl⟩
  | signalling | ended | aborted => cases turn

/-- A task that is gone has nothing ahead of it. -/
theorem Reached.gone {packets rest : List Packet} {task : PipeOutTcp} {log : List Obtained}
    (reached : Reached packets task rest log) (gone : ¬(task ≠ .ended ∧ task ≠ .aborted))
    (other : List Packet) : Reached packets task other log := by
  -- Where the task has ended or been aborted, what is ahead is not looked at.
  cases reached with
  | working _ turn => rcases turn with rfl | ⟨_, _, _, rfl⟩ <;> simp at gone
  | signalling => simp at gone
  | ended => exact .ended
  | aborted before => exact .aborted before

/-- What `pipe_out_tcp` passes through without its call leaves the packets ahead where they are. -/
theorem Reached.passes {packets rest : List Packet} {task next : PipeOutTcp}
    {log more : List Obtained} (reached : Reached packets task rest log)
    (passes : Mux.Passes task next more) : Reached packets next rest (log ++ more) := by
  -- The packets ahead change with the call only, which no case touches.
  cases passes with
  | same => rwa [List.append_nil]
  | wrote =>
    rw [List.append_nil]
    cases reached with
    | working split => exact .working split (.inl rfl)
  | signalled =>
    cases reached with
    | working _ turn => rcases turn with turn | ⟨_, _, _, turn⟩ <;> cases turn
    | signalling => exact .ended
  | aborted =>
    rw [List.append_nil]
    cases task with
    | ended => exact reached
    | deserializing | writing | signalling | aborted => exact .aborted reached

/-- Whatever chunks are still to come, the task is on its way through the packets of all bytes. -/
def Consistent (seen : List InboundEvent) (inbound : Inbound) : Prop :=
  -- With all chunks to come given, the packets are those of one fixed byte string.
  ∀ future : List Bytes, (∀ chunk ∈ future, chunk ≠ []) →
    (inbound.mux.pipeInL2cap ≠ .running → future = []) →
    Reached (parse (received seen ++ future.flatten)) inbound.mux.pipeOutTcp
      (ahead inbound.call (inbound.l2capToTcp ++ future)) (outcome seen)

/-- Every step takes the task on through the packets, or leaves it where it is. -/
theorem Consistent.step {seen out : List InboundEvent} {inbound next : Inbound} {label : Label}
    (consistent : Consistent seen inbound) (step : Step inbound label next out) :
    Consistent (seen ++ out) next := by
  intro future nonempty closed
  rw [received_append, outcome_append]
  cases step with
  | @read chunk running positive alive =>
    -- The chunk was the first of those still to come.
    have before := consistent (chunk :: future) (by simpa [positive] using nonempty)
      (fun stopped => absurd running stopped)
    have heard : received [.l2capRead chunk] = chunk := by simp [received]
    have quiet : outcome [.l2capRead chunk] = [] := rfl
    rw [heard, quiet]
    simpa using before
  | @dropped chunk running positive gone =>
    -- The chunk counts as received, but the task that would have parsed it is gone.
    have before := consistent (chunk :: future) (by simpa [positive] using nonempty)
      (fun stopped => absurd running stopped)
    have after := before.gone gone (ahead inbound.call (inbound.l2capToTcp ++ future))
    have heard : received [.l2capRead chunk, .chunkDropped] = chunk := by simp [received]
    have quiet : outcome [.l2capRead chunk, .chunkDropped] = [] := rfl
    rw [heard, quiet]
    simpa using after
  | closed running taken =>
    have before := consistent future nonempty fun stopped => absurd running stopped
    have passes := (Mux.step_cases taken).passes (by simp)
    simpa using before.passes passes.1
  | @recv resume chunk l2capToTcp turn call queue =>
    -- The chunk moves from the channel into the call.
    have before := consistent future nonempty closed
    rw [call, queue] at before
    simpa [received, outcome, Mux.obtained, ahead] using before
  | @recvClosed resume turn call queue stopped =>
    -- No chunk is to come, and the channel is empty.
    obtain rfl := closed stopped
    have before := consistent [] nonempty closed
    rw [call, queue] at before
    simpa [received, outcome, Mux.obtained, ahead, queue] using before
  | @returned result chunker mux out call taken =>
    have step := Mux.step_cases taken
    have turn := step.deserializing
    rw [received_mux, outcome_mux, List.append_nil, ahead_deserialize]
    cases result with
    | ok packet =>
      -- The packet was the first one ahead.
      obtain ⟨dispatched, kept, next⟩ := step.dispatched
      have before := consistent future nonempty (by rwa [← kept])
      rw [call] at before
      obtain ⟨done, split, log⟩ := before.split turn
      have longer : outcome seen ++ [.packet packet] = (done ++ [packet]).map .packet := by
        rw [log, List.map_append]
        rfl
      rw [dispatched, longer]
      exact .working (by simpa [ahead] using split) next
    | error error =>
      -- A call that fails had nothing ahead, so all packets are done.
      obtain ⟨dispatched, kept, next⟩ := step.failed
      have before := consistent future nonempty (by rwa [← kept])
      rw [call] at before
      obtain ⟨done, split, log⟩ := before.split turn
      have all : parse (received seen ++ future.flatten) = done := by simpa [ahead] using split
      rw [next, dispatched, log, all, List.append_nil]
      exact .signalling
  | mux other taken =>
    have passes := (Mux.step_cases taken).passes other
    have before := consistent future nonempty fun stopped =>
      closed fun running => stopped (passes.2 running)
    simpa using before.passes passes.1

/-- In every reachable state the task is on its way through the packets of all bytes. -/
theorem consistent {labels : List Label} {seen : List InboundEvent} {inbound : Inbound}
    (run : machine.Run labels seen inbound) : Consistent seen inbound := by
  refine run.invariant Consistent ?_ ?_
  · -- At the start everything is ahead, and is the same however it will be cut.
    intro future nonempty _
    have holds : Chunker.new.Holds future future.flatten :=
      ⟨by simp [Chunker.unread, Chunker.new], nonempty⟩
    have all : parse future.flatten = (chunkSource.drain (Chunker.new, future)).1 := by
      rw [parse_eq, (Packet.drain_chunks holds).1]
    show Reached (parse future.flatten) .deserializing
      (ahead (Packet.deserialize Chunker.new) future) (([] : List Packet).map .packet)
    rw [ahead_deserialize, all]
    exact .working rfl (.inl rfl)
  · intro labels seen state label next out _ consistent taken
    exact consistent.step (step_cases taken)

/-- The task does nothing but dispatch the packets in order and ask for one stop at their end. -/
theorem Reached.outcome {packets rest : List Packet} {task : PipeOutTcp} {log : List Obtained}
    (reached : Reached packets task rest log) :
    log <+: packets.map .packet ++ [.stop] ∧
      (task = .ended → log = packets.map .packet ++ [.stop]) := by
  -- An aborted task has done what it had done before.
  induction reached with
  | working split turn =>
    subst split
    refine ⟨by simp, ?_⟩
    intro ended
    subst ended
    rcases turn with turn | ⟨_, _, _, turn⟩ <;> cases turn
  | signalling => exact ⟨List.prefix_append _ _, by simp⟩
  | ended => exact ⟨List.prefix_rfl, fun _ => rfl⟩
  | aborted _ ih => exact ⟨ih.1, by simp⟩

/-- A task that has ended passes through nothing else. -/
theorem passes_ended {next : PipeOutTcp} {log : List Obtained}
    (passes : Mux.Passes .ended next log) : log = [] ∧ next = .ended := by
  -- An abort of an ended task does nothing.
  generalize start : PipeOutTcp.ended = task at passes
  cases passes with
  | same => exact ⟨rfl, rfl⟩
  | wrote | signalled => cases start
  | aborted =>
    subst start
    exact ⟨rfl, rfl⟩

/-- No step follows the end of `pipe_out_tcp` with another dispatch or stop request. -/
theorem Step.ended {inbound next : Inbound} {label : Label} {out : List InboundEvent}
    (step : Step inbound label next out) (ended : inbound.mux.pipeOutTcp = .ended) :
    outcome out = [] ∧ next.mux.pipeOutTcp = .ended := by
  -- The steps that dispatch or signal start from another point of the loop.
  cases step with
  | read | dropped => exact ⟨rfl, ended⟩
  | closed _ taken =>
    have passes := ((Mux.step_cases taken).passes (by simp)).1
    rw [ended] at passes
    rw [outcome_mux]
    exact passes_ended passes
  | mux other taken =>
    have passes := ((Mux.step_cases taken).passes other).1
    rw [ended] at passes
    rw [outcome_mux]
    exact passes_ended passes
  | recv turn | recvClosed turn =>
    rw [ended] at turn
    cases turn
  | returned _ taken =>
    have turn := (Mux.step_cases taken).deserializing
    rw [ended] at turn
    cases turn

/-- Once `pipe_out_tcp` has ended, it stays so and does nothing more. -/
theorem ended_silent {labels : List Label} {inbound last : Inbound} {out : List InboundEvent}
    (ended : inbound.mux.pipeOutTcp = .ended)
    (executed : machine.exec inbound labels = some (last, out)) : outcome out = [] := by
  -- Each step is silent and leaves the task ended for the next one.
  induction labels generalizing inbound out with
  | nil =>
    simp only [Lts.exec, Option.some.injEq, Prod.mk.injEq] at executed
    obtain ⟨_, rfl⟩ := executed
    rfl
  | cons label labels ih =>
    simp only [Lts.exec] at executed
    split at executed
    · cases executed
    · rename_i next first taken
      obtain ⟨⟨final, later⟩, rest, same⟩ := Option.map_eq_some_iff.mp executed
      cases same
      obtain ⟨silent, still⟩ := (step_cases taken).ended ended
      rw [outcome_append, silent, ih still rest, List.append_nil]

/-- However the bytes were cut and the tasks took turns, exactly the packets parsed from the bytes
are dispatched in order, then one stop is requested, and nothing follows it. -/
theorem outcome_of_bytes {labels : List Label} {seen : List InboundEvent} {inbound : Inbound}
    (run : machine.Run labels seen inbound) {bytes more : Bytes}
    (whole : bytes = received seen ++ more)
    (closed : inbound.mux.pipeInL2cap ≠ .running → more = []) :
    outcome seen <+: (parse bytes).map .packet ++ [.stop] ∧
      (inbound.mux.pipeOutTcp = .ended → outcome seen = (parse bytes).map .packet ++ [.stop] ∧
        ∀ later last out, machine.exec inbound later = some (last, out) → outcome out = []) := by
  -- What has not been read yet is taken for one more chunk, if it is anything at all.
  subst whole
  obtain ⟨future, flat, nonempty, done⟩ : ∃ future : List Bytes, future.flatten = more ∧
      (∀ chunk ∈ future, chunk ≠ []) ∧ (more = [] → future = []) := by
    by_cases empty : more = []
    · exact ⟨[], by simp [empty], by simp, fun _ => rfl⟩
    · exact ⟨[more], by simp, by simpa using empty, fun none => absurd none empty⟩
  have reached := consistent run future nonempty fun stopped => done (closed stopped)
  rw [flat] at reached
  obtain ⟨part, all⟩ := reached.outcome
  exact ⟨part, fun ended => ⟨all ended, fun _ _ _ executed => ended_silent ended executed⟩⟩

/-- A keep alive in two reads, and then the end of the stream, run through all of the pipeline. -/
theorem outcome_of_bytes_keepalive :
    ∃ seen inbound, machine.Run
        [.pipeInL2cap (.ok [0, 0]), .recv, .pipeInL2cap (.ok [0]), .recv, .returned,
          .pipeInL2cap (.ok []), .recv, .returned, .mux .sendStop] seen inbound ∧
      received seen = [0, 0, 0] ∧ inbound.mux.pipeOutTcp = .ended ∧
      outcome seen = (parse [0, 0, 0]).map .packet ++ [.stop] := by
  -- The second chunk completes the packet, and the end of the stream makes the next call fail.
  have reached : (machine.exec machine.init
      [.pipeInL2cap (.ok [0, 0]), .recv, .pipeInL2cap (.ok [0]), .recv, .returned,
        .pipeInL2cap (.ok []), .recv, .returned, .mux .sendStop]).map
          (fun result => (received result.2, result.1.mux.pipeOutTcp)) =
      some ([0, 0, 0], .ended) := by decide +kernel
  obtain ⟨⟨inbound, seen⟩, executed, facts⟩ := Option.map_eq_some_iff.mp reached
  obtain ⟨bytes, ended⟩ := Prod.mk.inj facts
  have run := Lts.Run.of_exec executed
  have whole : [0, 0, 0] = received seen ++ [] := by rw [bytes]; rfl
  exact ⟨seen, inbound, run, bytes, ended,
    ((outcome_of_bytes run whole fun _ => rfl).2 ended).1⟩

/-- What a step of the pipeline is for the multiplexer. -/
def NamesMux : Label → Mux.Label → Prop
  -- A read is seen by the multiplexer only when it is the last one.
  | .pipeInL2cap _, other => other = .l2capClosed
  | .recv, _ => False
  | .returned, other => ∃ result, other = .deserialized result
  | .mux label, other => other = label

/-- Running the pipeline is a way of running the multiplexer. -/
def toMultiplexer : machine.Projection Mux.machine where
  state := Inbound.mux
  see := toMux
  names := NamesMux
  start := rfl
  step := by
    intro inbound label next out taken
    have lifted : ∀ seen : List Event, (seen.map InboundEvent.mux).filterMap toMux = seen := by
      intro seen
      simp [List.filterMap_map, Function.comp_def, toMux]
    -- The chunks and the call in progress are not part of the multiplexer.
    cases step_cases taken with
    | read | dropped | recv | recvClosed => exact .inl ⟨rfl, rfl⟩
    | closed _ went =>
      rw [lifted]
      exact .inr ⟨.l2capClosed, rfl, went⟩
    | @returned result _ _ _ _ went =>
      rw [lifted]
      exact .inr ⟨.deserialized result, ⟨result, rfl⟩, went⟩
    | @mux label _ _ _ went =>
      rw [lifted]
      exact .inr ⟨label, rfl, went⟩

/-- Whatever holds of every run of the multiplexer holds of it inside the pipeline. -/
theorem runs_multiplexer {labels : List Label} {seen : List InboundEvent} {inbound : Inbound}
    (run : machine.Run labels seen inbound) :
    ∃ others, Mux.machine.Run others (seen.filterMap toMux) inbound.mux :=
  -- The labels of that run are those that the projection names.
  let ⟨others, projected, _⟩ := toMultiplexer.run run
  ⟨others, projected⟩

end Inbound

end BleManaged
