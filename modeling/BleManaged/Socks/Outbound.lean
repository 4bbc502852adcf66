import BleManaged.Socks.Conversation
import BleManaged.Socks.WriteAll

/-! From the TCP streams to the bytes on the L2CAP stream. -/

namespace BleManaged

namespace Mux

open Packet (wireBytes bytesSource)

/-- What an event is for the channel and the task at its receiving end. -/
def toOutbound : Event → Option OutboundEvent
  | .enqueued _ packet => some (.queued packet)
  -- Turns of `pipe_in_tcp` put nothing in the queue.
  | .l2cap (.queued _) => none
  | .l2cap event => some event
  | _ => none

/-- A send of the multiplexer is a send on its channel, or nothing once that is closed. -/
theorem enqueue_outbound (mux : Mux) (producer : Producer) (packet : Packet) :
    ((mux.enqueue producer packet).1.tcpToL2cap = mux.tcpToL2cap ∧
      [(mux.enqueue producer packet).2].filterMap toOutbound = []) ∨
    TcpToL2cap.machine.step mux.tcpToL2cap (.send packet) =
      some ((mux.enqueue producer packet).1.tcpToL2cap,
        [(mux.enqueue producer packet).2].filterMap toOutbound) := by
  -- A failed send is not seen on the channel.
  rcases enqueue_cases mux producer packet with ⟨alive, same⟩ | ⟨_, same⟩
  · rw [same]
    refine .inr ?_
    simp [TcpToL2cap.machine, TcpToL2cap.step, TcpToL2cap.send_alive alive, toOutbound]
  · rw [same]
    exact .inl ⟨rfl, rfl⟩

/-- Stopping the multiplexer aborts `pipe_in_tcp`, or leaves it alone. -/
theorem stop_outbound (mux : Mux) :
    mux.stop.tcpToL2cap = mux.tcpToL2cap ∨ mux.stop.tcpToL2cap = mux.tcpToL2cap.abort := by
  -- A second stop does nothing.
  by_cases stopped : mux.stopped = true
  · rw [stop_of_stopped stopped]
    exact .inl rfl
  · rw [stop_tcpToL2cap (by simpa using stopped)]
    split
    · exact .inr rfl
    · exact .inl rfl

/-- A failed write of the channel is a failed write of the multiplexer. -/
def NamesOutbound (label : Label) (other : TcpToL2cap.Label) : Prop :=
  -- Nothing needs to be known about the other labels.
  other = .turn .fail → label = .pipeInTcp .fail

/-- A step does nothing to the channel, or it is one step of the channel. -/
def StepsOutbound (mux : Mux) (label : Label) (next : Mux) (out : List Event) : Prop :=
  (next.tcpToL2cap = mux.tcpToL2cap ∧ out.filterMap toOutbound = []) ∨
    ∃ other, NamesOutbound label other ∧ TcpToL2cap.machine.step mux.tcpToL2cap other =
      some (next.tcpToL2cap, out.filterMap toOutbound)

/-- A send is a step of the channel that is no failed write. -/
theorem enqueue_stepsOutbound (mux : Mux) (label : Label) (producer : Producer) (packet : Packet) :
    StepsOutbound mux label (mux.enqueue producer packet).1
      [(mux.enqueue producer packet).2] := by
  -- On a closed channel the send does nothing.
  rcases enqueue_outbound mux producer packet with silent | sent
  · exact .inl silent
  · exact .inr ⟨.send packet, by rintro ⟨⟩, sent⟩

/-- A stop is an abort of the channel that is no failed write. -/
theorem stop_stepsOutbound (mux : Mux) (label : Label) : StepsOutbound mux label mux.stop [] := by
  -- A stop can be observed by its effect on the channel only.
  rcases stop_outbound mux with same | aborted
  · exact .inl ⟨same, rfl⟩
  · exact .inr ⟨.abort, by rintro ⟨⟩, by rw [aborted]; rfl⟩

/-- The channel sees every turn of the task at its receiving end. -/
theorem turn_toOutbound {channel next : TcpToL2cap} {turn : TcpToL2cap.Turn}
    {out : List OutboundEvent} (turned : channel.turn turn = some (next, out)) :
    (out.map Event.l2cap).filterMap toOutbound = out := by
  -- No turn puts a packet in the queue, so no event of a turn is hidden.
  cases TcpToL2cap.turn_cases turned <;> rfl

/-- Every step of the multiplexer is one step of its outbound channel, or none. -/
theorem Step.outbound {mux next : Mux} {label : Label} {out : List Event}
    (step : Step mux label next out) : StepsOutbound mux label next out := by
  -- The channel is touched by sends, by its own task and by a stop.
  cases step with
  | @added tcpToL2cap free sent =>
    refine .inr ⟨.send (Packet.controlSocketOpen mux.candidatePort), by rintro ⟨⟩, ?_⟩
    simp [TcpToL2cap.machine, TcpToL2cap.step, sent, spawnReader, toOutbound, List.filterMap_cons]
  | @read stream port bytes =>
    exact enqueue_stepsOutbound mux _ (.reader stream) (.data port bytes)
  | @readerEnded stream port result =>
    exact enqueue_stepsOutbound
      { mux with
        readers := Function.update mux.readers stream (some { port, state := .ended }) }
      _ (.reader stream) (Packet.controlSocketClosed port)
  | sendKeepalive => exact enqueue_stepsOutbound mux _ .keepalive Packet.keepalive
  | @pipeInTcp turn tcpToL2cap out turned =>
    refine .inr ⟨.turn turn, by rintro ⟨⟩; rfl, ?_⟩
    rw [turn_toOutbound turned]
    exact turned
  | @stopRequested request requests =>
    exact stop_stepsOutbound { mux with stopDueToDisconnect := requests } _
  | drop => exact stop_stepsOutbound mux _
  | refused | unsent | l2capClosed | undecoded | skipped | unknownData | offered | unknownClosed
  | closed | wroteTcp | sendStop => exact .inl ⟨rfl, rfl⟩

/-- The multiplexer seen through its outbound channel. -/
def outbound : machine.Projection TcpToL2cap.machine where
  state := Mux.tcpToL2cap
  see := toOutbound
  names := NamesOutbound
  start := rfl
  step taken := (step_cases taken).outbound

/-- The bytes that the L2CAP stream has accepted. -/
def written (seen : List Event) : Bytes :=
  (seen.filterMap fun
    | .l2cap (.wrote bytes) => some bytes
    | _ => none).flatten

/-- The channel has accepted the same bytes. -/
theorem wrote_toOutbound (seen : List Event) :
    TcpToL2cap.wrote (seen.filterMap toOutbound) = written seen := by
  -- Both sides pick the same events, one of them in two passes.
  rw [TcpToL2cap.wrote, written, List.filterMap_filterMap]
  congr 2
  funext event
  cases event with
  | l2cap event => cases event <;> rfl
  | _ => rfl

/-- The channel has been sent the same packets. -/
theorem queued_toOutbound (seen : List Event) :
    TcpToL2cap.queued (seen.filterMap toOutbound) = (enqueued seen).map Prod.snd := by
  -- The channel does not know who sent a packet.
  rw [TcpToL2cap.queued, enqueued, List.filterMap_filterMap, List.map_filterMap]
  congr 1
  funext event
  cases event with
  | l2cap event => cases event <;> rfl
  | _ => rfl

/-- While no write fails, the L2CAP stream has the packets of the queue in order, cut off at most
inside one of them. -/
theorem written_split {labels : List Label} {seen : List Event} {mux : Mux}
    (run : machine.Run labels seen mux) (succeed : .pipeInTcp .fail ∉ labels) :
    ∃ sent part, sent <+: enqueued seen ∧
      written seen = (sent.map Prod.snd).flatMap wireBytes ++ part ∧
      (part = [] ∨ ∃ packet rest,
        sent.map Prod.snd ++ [packet] <+: (enqueued seen).map Prod.snd ∧
        packet.wireBytes = part ++ rest ∧ rest ≠ []) ∧
      (mux.tcpToL2cap = { queue := [], task := .receiving } →
        sent = enqueued seen ∧ part = []) := by
  -- The run is one of the channel, in which no write fails either.
  obtain ⟨others, projected, named⟩ := outbound.run run
  have succeeds : .turn .fail ∉ others := by
    intro failed
    obtain ⟨label, member, names⟩ := named _ failed
    exact succeed (names rfl ▸ member)
  have queue := TcpToL2cap.queued_eq projected
  have progress := TcpToL2cap.progress projected succeeds
  change TcpToL2cap.queued (seen.filterMap toOutbound) =
    TcpToL2cap.taken (seen.filterMap toOutbound) ++ mux.tcpToL2cap.queue at queue
  change TcpToL2cap.Progress mux.tcpToL2cap.task (TcpToL2cap.taken (seen.filterMap toOutbound))
    (TcpToL2cap.wrote (seen.filterMap toOutbound)) at progress
  rw [queued_toOutbound] at queue
  rw [wrote_toOutbound] at progress
  obtain ⟨packets, part, whole, first, more, idle⟩ := progress.split
  have taken : TcpToL2cap.taken (seen.filterMap toOutbound) <+: (enqueued seen).map Prod.snd := by
    rw [queue]
    exact List.prefix_append _ _
  -- The packets that are through are those of the first entries of the log.
  have entries := List.prefix_iff_eq_take.mp (first.trans taken)
  rw [← List.map_take] at entries
  refine ⟨(enqueued seen).take packets.length, part, List.take_prefix _ _, ?_, ?_, ?_⟩
  · rw [← entries, whole]
  · rw [← entries]
    refine more.imp_right ?_
    rintro ⟨packet, rest, next, split, missing⟩
    exact ⟨packet, rest, next.trans taken, split, missing⟩
  · intro drained
    rw [drained] at queue idle
    obtain ⟨all, nothing⟩ := idle rfl
    rw [List.append_nil, ← all] at queue
    refine ⟨?_, nothing⟩
    rw [← queue, List.length_map, List.take_length]

/-- A strict part of a packet that can be sent is not decoded. -/
theorem drain_part {packet : Packet} (sendable : packet.Sendable) {part rest : Bytes}
    (split : packet.wireBytes = part ++ rest) (missing : rest ≠ []) :
    (bytesSource.drain part).1 = [] := by
  -- Decoding fails on it before any packet is returned.
  obtain ⟨error, fails⟩ := sendable.frame.decode_part split missing
  rw [bytesSource.drain_error fails]

/-- The peer decodes the packets of the queue in order, and each stream's own packets among them
are its conversation so far. -/
theorem outbound_faithful {labels : List Label} {seen : List Event} {mux : Mux}
    (run : machine.Run labels seen mux) (succeed : .pipeInTcp .fail ∉ labels) :
    ∃ sent part, sent <+: enqueued seen ∧
      written seen = (sent.map Prod.snd).flatMap wireBytes ++ part ∧
      (bytesSource.drain (written seen)).1 = sent.map Prod.snd ∧
      (mux.tcpToL2cap = { queue := [], task := .receiving } →
        sent = enqueued seen ∧ part = []) ∧
      ∀ stream, ofStream stream sent = [] ∨ ∃ port bytes, bytes <+: bytesRead stream seen ∧
        Conversation port bytes (.tcpEnded stream ∈ seen) (ofStream stream sent) ∧
        (sent = enqueued seen → bytes = bytesRead stream seen) := by
  obtain ⟨sent, part, first, whole, more, idle⟩ := written_split run succeed
  have sendable := (enqueued_sendable run).2
  refine ⟨sent, part, first, whole, ?_, idle, ?_⟩
  · -- Whole packets are decoded one by one, and a part of one is not decoded.
    have each : ∀ packet ∈ sent.map Prod.snd, Packet.Sendable packet := by
      intro packet member
      obtain ⟨entry, among, rfl⟩ := List.mem_map.mp member
      exact sendable entry (first.subset among)
    have nothing : (bytesSource.drain part).1 = [] := by
      rcases more with rfl | ⟨packet, rest, next, split, missing⟩
      · rw [Packet.drain_nil]
      · obtain ⟨entry, among, rfl⟩ := List.mem_map.mp (next.subset (by simp : packet ∈ _))
        exact drain_part (sendable entry among) split missing
    rw [whole, Packet.drain_wireBytes each, nothing, List.append_nil]
  · intro stream
    have conversing := conversing run stream
    have part : ofStream stream sent <+: ofStream stream (enqueued seen) := first.filterMap _
    cases found : mux.readers stream with
    | none =>
      -- No packet was ever sent for this stream.
      rw [(conversing.silent found).1] at part
      exact .inl (List.prefix_nil.mp part)
    | some reader =>
      have said := conversing.said reader found
      -- The packets that are through are a first part of the conversation, or all of it.
      by_cases all : sent = enqueued seen
      · rw [all]
        exact .inr ⟨reader.port, _, List.prefix_rfl, said, fun _ => rfl⟩
      · refine (said.cut part).imp_right ?_
        rintro ⟨fewer, shorter, talked⟩
        exact ⟨reader.port, fewer, shorter, talked, fun whole => absurd whole all⟩

/-- Two streams and a keep alive share the L2CAP stream, which stops inside the first data. -/
theorem outbound_faithful_two_streams :
    ∃ seen mux, machine.Run
        [.addTcpStream, .readTcp 0 (.ok [7, 8]), .addTcpStream, .sendKeepalive, .pipeInTcp .recv,
          .pipeInTcp (.accept 6), .pipeInTcp .recv, .pipeInTcp (.accept 3)] seen mux ∧
      written seen = [0, 0, 1, 1, 0, 1, 1, 0, 2] ∧
      ∃ sent part, sent <+: enqueued seen ∧
        written seen = (sent.map Prod.snd).flatMap wireBytes ++ part ∧
        (bytesSource.drain (written seen)).1 = sent.map Prod.snd := by
  have succeed : (.pipeInTcp .fail : Label) ∉
      [.addTcpStream, .readTcp 0 (.ok [7, 8]), .addTcpStream, .sendKeepalive, .pipeInTcp .recv,
        .pipeInTcp (.accept 6), .pipeInTcp .recv, .pipeInTcp (.accept 3)] := by simp
  obtain ⟨seen, mux, run, bytes⟩ : ∃ seen mux, machine.Run
      [.addTcpStream, .readTcp 0 (.ok [7, 8]), .addTcpStream, .sendKeepalive, .pipeInTcp .recv,
        .pipeInTcp (.accept 6), .pipeInTcp .recv, .pipeInTcp (.accept 3)] seen mux ∧
      written seen = [0, 0, 1, 1, 0, 1, 1, 0, 2] :=
    ⟨_, _, Lts.Run.of_exec rfl, rfl⟩
  obtain ⟨sent, part, first, whole, decoded, _⟩ := outbound_faithful run succeed
  exact ⟨seen, mux, run, bytes, sent, part, first, whole, decoded⟩

end Mux

end BleManaged
