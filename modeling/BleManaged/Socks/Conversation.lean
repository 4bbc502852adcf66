import BleManaged.Socks.Outflow
import BleManaged.Socks.RoundTrip
import Mathlib.Data.List.Infix

/-! What the outbound queue holds of one TCP stream: an open, its data, and at most one close. -/

namespace BleManaged

/-- The TCP stream a packet is sent for, which a keep alive does not have. -/
def Producer.stream? : Producer → Option StreamId
  | .addTcpStream stream => some stream
  | .reader stream => some stream
  | .keepalive => none

namespace Mux

/-- The packets of a log that are sent for one stream. -/
def ofStream (stream : StreamId) (log : List (Producer × Packet)) : List Packet :=
  -- The order of the packets is that of the whole log.
  log.filterMap fun entry => if entry.1.stream? = some stream then some entry.2 else none

/-- The packets of a stream are cut where the log is cut. -/
@[simp] theorem ofStream_append (stream : StreamId) (log more : List (Producer × Packet)) :
    ofStream stream (log ++ more) = ofStream stream log ++ ofStream stream more :=
  List.filterMap_append

/-- An open packet for a port, and then data packets that carry these bytes. -/
def Talking (port : UInt16) (bytes : Bytes) (packets : List Packet) : Prop :=
  -- How the bytes were cut into packets does not matter.
  ∃ chunks : List Bytes, packets = Packet.controlSocketOpen port :: chunks.map (Packet.data port) ∧
    chunks.flatten = bytes

/-- An open packet, data packets that carry these bytes, and a close only if the stream ended. -/
def Conversation (port : UInt16) (bytes : Bytes) (ended : Prop) (packets : List Packet) : Prop :=
  -- A stream that has ended may be cut off before its close.
  Talking port bytes packets ∨
    ended ∧ ∃ body, packets = body ++ [Packet.controlSocketClosed port] ∧ Talking port bytes body

/-- Opening a port starts with no bytes. -/
theorem talking_opened (port : UInt16) : Talking port [] [Packet.controlSocketOpen port] :=
  -- There are no data packets yet.
  ⟨[], rfl, rfl⟩

/-- One more data packet carries more bytes. -/
theorem Talking.carried {port : UInt16} {bytes : Bytes} {packets : List Packet}
    (talking : Talking port bytes packets) (more : Bytes) :
    Talking port (bytes ++ more) (packets ++ [.data port more]) := by
  -- The new bytes are one more chunk, behind all others.
  obtain ⟨chunks, rfl, rfl⟩ := talking
  exact ⟨chunks ++ [more], by simp, by simp⟩

/-- Cut off anywhere, the packets still open the port first and carry a prefix of the bytes. -/
theorem Talking.cut {port : UInt16} {bytes : Bytes} {packets part : List Packet}
    (talking : Talking port bytes packets) (isPrefix : part <+: packets) :
    part = [] ∨ ∃ fewer, fewer <+: bytes ∧ Talking port fewer part := by
  -- The cut leaves nothing at all, or the open packet and some of the data.
  obtain ⟨chunks, rfl, rfl⟩ := talking
  rcases List.prefix_cons_iff.mp isPrefix with empty | ⟨rest, rfl, shorter⟩
  · exact .inl empty
  · -- The data packets that are left are those of the first chunks.
    rw [List.prefix_iff_eq_take, ← List.map_take] at shorter
    have first := List.take_prefix rest.length chunks
    exact .inr ⟨_, first.flatten, chunks.take rest.length, by rw [← shorter], rfl⟩

/-- Cut off anywhere, a conversation is one about a prefix of the bytes. -/
theorem Conversation.cut {port : UInt16} {bytes : Bytes} {ended : Prop}
    {packets part : List Packet} (conversation : Conversation port bytes ended packets)
    (isPrefix : part <+: packets) :
    part = [] ∨ ∃ fewer, fewer <+: bytes ∧ Conversation port fewer ended part := by
  -- The close packet is the first to be cut off.
  rcases conversation with talking | ⟨finished, body, rfl, talking⟩
  · rcases talking.cut isPrefix with empty | ⟨fewer, shorter, talked⟩
    · exact .inl empty
    · exact .inr ⟨fewer, shorter, .inl talked⟩
  · rcases List.prefix_concat_iff.mp isPrefix with whole | inside
    · exact .inr ⟨bytes, List.prefix_rfl, .inr ⟨finished, body, whole, talking⟩⟩
    · rcases talking.cut inside with empty | ⟨fewer, shorter, talked⟩
      · exact .inl empty
      · exact .inr ⟨fewer, shorter, .inl talked⟩

/-- What was said before a stream ended is still said afterwards. -/
theorem Conversation.mono {port : UInt16} {bytes : Bytes} {before after : Prop}
    {packets : List Packet} (conversation : Conversation port bytes before packets)
    (later : before → after) : Conversation port bytes after packets :=
  -- Only the close packet depends on the end of the stream.
  conversation.imp_right fun closed => ⟨later closed.1, closed.2⟩

/-- The queue has held exactly the conversation that a stream has had. -/
structure Conversing (stream : StreamId) (seen : List Event) (mux : Mux) : Prop where
  /-- A stream without a reader has said nothing and has been told nothing. -/
  silent : mux.readers stream = none →
    ofStream stream (enqueued seen) = [] ∧ bytesRead stream seen = []
  /-- A running reader has passed on every byte it has read. -/
  talking : ∀ port, mux.Reading port stream →
    Talking port (bytesRead stream seen) (ofStream stream (enqueued seen))
  /-- A reader that no longer runs has said what it read, and perhaps a close. -/
  said : ∀ reader, mux.readers stream = some reader →
    Conversation reader.port (bytesRead stream seen) (.tcpEnded stream ∈ seen)
      (ofStream stream (enqueued seen))

variable {stream : StreamId} {seen out : List Event} {mux next : Mux} {label : Label}

/-- A step that neither sends nor reads for a stream leaves its conversation as it is. -/
theorem Conversing.quiet (conversing : Conversing stream seen mux)
    (nothing : ofStream stream (enqueued out) = []) (unread : bytesRead stream out = [])
    (readers : next.readers stream = mux.readers stream ∨
      next.readers stream = (mux.readers stream).map ReaderTask.abort) :
    Conversing stream (seen ++ out) next := by
  -- The packets and the bytes stay the same, and a reader keeps its port when it is aborted.
  have packets : ofStream stream (enqueued (seen ++ out)) = ofStream stream (enqueued seen) := by
    rw [enqueued_append, ofStream_append, nothing, List.append_nil]
  have bytes : bytesRead stream (seen ++ out) = bytesRead stream seen := by
    rw [bytesRead_append, unread, List.append_nil]
  refine ⟨?_, ?_, ?_⟩
  · intro absent
    rw [packets, bytes]
    apply conversing.silent
    rcases readers with same | aborted
    · rwa [← same]
    · rw [aborted] at absent
      exact Option.map_eq_none_iff.mp absent
  · intro port running
    rw [packets, bytes]
    exact conversing.talking port (reading_of_abort readers running)
  · intro reader found
    rw [packets, bytes]
    obtain ⟨before, known, port⟩ : ∃ before, mux.readers stream = some before ∧
        before.port = reader.port := by
      rcases readers with same | aborted
      · exact ⟨reader, by rwa [← same], rfl⟩
      · rw [aborted] at found
        obtain ⟨before, known, rfl⟩ := Option.map_eq_some_iff.mp found
        exact ⟨before, known, rfl⟩
    rw [← port]
    exact (conversing.said before known).mono (List.mem_append_left _)

/-- A stream with a reader is judged by that reader alone. -/
theorem Conversing.of_reader {reader : ReaderTask} (found : mux.readers stream = some reader)
    (talking : reader.state = .running →
      Talking reader.port (bytesRead stream seen) (ofStream stream (enqueued seen)))
    (said : Conversation reader.port (bytesRead stream seen) (.tcpEnded stream ∈ seen)
      (ofStream stream (enqueued seen))) : Conversing stream seen mux := by
  -- The other cases are about streams that have no reader, or another one.
  refine ⟨?_, ?_, ?_⟩
  · intro absent
    simp [absent] at found
  · intro port running
    rw [Reading, found] at running
    cases running
    exact talking rfl
  · intro other same
    rw [found] at same
    cases same
    exact said

/-- Every step goes on with the conversation of a stream. -/
theorem Conversing.step (conversing : Conversing stream seen mux) (sound : mux.Sound)
    (step : Step mux label next out) : Conversing stream (seen ++ out) next := by
  cases step.outflow sound with
  | quiet nothing unread _ readers =>
    exact conversing.quiet (by simp [nothing, ofStream]) (unread stream) (readers stream)
  | opened _ _ sent unread _ readers =>
    by_cases mine : stream = mux.calls
    · -- No packet was sent for the stream before its call.
      subst mine
      obtain ⟨unsent, unheard⟩ := conversing.silent (sound.fresh mux.calls (Nat.le_refl _))
      have packets : ofStream mux.calls (enqueued (seen ++ out)) =
          [Packet.controlSocketOpen mux.candidatePort] := by
        rw [enqueued_append, ofStream_append, unsent, sent]
        simp [ofStream, Producer.stream?]
      have bytes : bytesRead mux.calls (seen ++ out) = [] := by simp [unheard, unread]
      have talking := talking_opened mux.candidatePort
      rw [← packets, ← bytes] at talking
      exact .of_reader (by rw [readers, Function.update_self]) (fun _ => talking) (.inl talking)
    · exact conversing.quiet (by simp [sent, ofStream, Producer.stream?, Ne.symm mine])
        (unread stream) (.inl (by rw [readers, Function.update_of_ne mine]))
  | @carried reader port bytes running sent _ _ read unread _ readers =>
    by_cases mine : stream = reader
    · -- The packet carries exactly the bytes that were read in this step.
      subst mine
      have packets : ofStream stream (enqueued (seen ++ out)) =
          ofStream stream (enqueued seen) ++ [.data port bytes] := by
        simp [sent, ofStream, Producer.stream?]
      have talking := (conversing.talking port running).carried bytes
      rw [← packets, ← read, ← bytesRead_append] at talking
      exact .of_reader (by rw [readers, running]) (fun _ => talking) (.inl talking)
    · exact conversing.quiet (by simp [sent, ofStream, Producer.stream?, Ne.symm mine])
        (unread stream mine) (.inl (by rw [readers]))
  | @closed reader port running sent ended unread _ readers =>
    by_cases mine : stream = reader
    · subst mine
      have packets : ofStream stream (enqueued (seen ++ out)) =
          ofStream stream (enqueued seen) ++ [Packet.controlSocketClosed port] := by
        simp [sent, ofStream, Producer.stream?]
      have bytes : bytesRead stream (seen ++ out) = bytesRead stream seen := by simp [unread]
      -- The end of the stream has been seen in this very step.
      refine .of_reader (by rw [readers, Function.update_self]) (by simp) (.inr ?_)
      rw [packets, bytes]
      exact ⟨List.mem_append_right _ ended, _, rfl, conversing.talking port running⟩
    · exact conversing.quiet (by simp [sent, ofStream, Producer.stream?, Ne.symm mine])
        (unread stream) (.inl (by rw [readers, Function.update_of_ne mine]))
  | alive sent unread _ readers =>
    exact conversing.quiet (by simp [sent, ofStream, Producer.stream?]) (unread stream)
      (.inl (by rw [readers]))

/-- In every reachable state the queue has held exactly what each stream has said. -/
theorem conversing {labels : List Label} (run : machine.Run labels seen mux)
    (stream : StreamId) : Conversing stream seen mux := by
  -- A new multiplexer has no readers, and nobody has said anything.
  refine run.invariant (Conversing stream) ?_ ?_
  · exact ⟨fun _ => ⟨rfl, rfl⟩, by simp [Reading, machine, createAndStart],
      by simp [machine, createAndStart]⟩
  · intro labels seen state label next out before conversing taken
    exact conversing.step (sound before) (step_cases taken)

/-- The ports that readers send for are real ones. -/
def ReadersNamed (mux : Mux) : Prop :=
  ∀ stream reader, mux.readers stream = some reader → reader.port ≠ 0

/-- A step gives a new reader a real port, and lets the other readers keep theirs. -/
theorem Outflow.readersNamed (outflow : Outflow mux label next out) (sound : mux.Sound)
    (named : mux.ReadersNamed) : next.ReadersNamed := by
  refine outflow.readers_keep (fun _ port => port ≠ 0) ?_ named
  -- The candidate port is never zero.
  intro zero
  have range := candidatePort_range sound.ported
  simp [zero] at range

/-- What a step puts in the queue can be serialized, and decoded by the peer. -/
theorem Outflow.sendable (outflow : Outflow mux label next out) (named : mux.ReadersNamed) :
    ∀ entry ∈ enqueued out, entry.2.Sendable := by
  intro entry member
  cases outflow with
  | quiet nothing => simp [nothing] at member
  | opened _ _ sent =>
    rw [sent, List.mem_singleton] at member
    exact member ▸ .opened _
  | carried running sent positive bounded =>
    -- A read buffer is far smaller than the largest packet.
    rw [sent, List.mem_singleton] at member
    exact member ▸ .data _ _ (named _ _ running) positive (by omega)
  | closed _ sent =>
    rw [sent, List.mem_singleton] at member
    exact member ▸ .closed _
  | alive sent =>
    rw [sent, List.mem_singleton] at member
    exact member ▸ .keepalive

/-- In every reachable state whatever has been put in the queue can be sent and decoded. -/
theorem enqueued_sendable {labels : List Label} (run : machine.Run labels seen mux) :
    mux.ReadersNamed ∧ ∀ entry ∈ enqueued seen, entry.2.Sendable := by
  -- Data packets can be decoded only because readers have real ports.
  refine run.invariant (fun seen mux =>
    mux.ReadersNamed ∧ ∀ entry ∈ enqueued seen, entry.2.Sendable) ?_ ?_
  · exact ⟨by simp [ReadersNamed, machine, createAndStart], by simp [enqueued]⟩
  · intro labels seen state label next out before holds taken
    have outflow := (step_cases taken).outflow (sound before)
    refine ⟨outflow.readersNamed (sound before) holds.1, ?_⟩
    intro entry member
    rw [enqueued_append] at member
    rcases List.mem_append.mp member with earlier | final
    · exact holds.2 entry earlier
    · exact outflow.sendable holds.1 entry final

end Mux

end BleManaged
