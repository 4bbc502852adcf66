import BleManaged.Socks.Inbound

/-! What `Packet::deserialize` accepts, and what the dispatcher may assume of it. -/

namespace BleManaged

open LittleEndian

namespace Packet

/-- The grammar of the protocol, byte by byte. -/
inductive Word : Bytes → Prop where
  /-- A keep alive: three zero bytes. -/
  | keepalive : Word [0, 0, 0]
  /-- A connection status: a port, and closed or open. -/
  | status (low high : UInt8) {status : UInt8} (known : status = 0 ∨ status = 1) :
      Word [0, 0, 1, low, high, status]
  /-- Data: a port that is not zero, a length of four bytes, and that many bytes. -/
  | data {low high : UInt8} (a b c d : UInt8) {payload : Bytes} (port : ¬(low = 0 ∧ high = 0))
      (length : payload.length =
        a.toNat + 256 * b.toNat + 65536 * c.toNat + 16777216 * d.toNat) :
      Word ([low, high, a, b, c, d] ++ payload)

/-- The fields of a packet that its word encodes, at their places in the word. -/
inductive Carries : Bytes → Packet → Prop where
  /-- A keep alive encodes its type only. -/
  | keepalive {forPort : UInt16} {status : UInt8} {rawData : Bytes} :
      Carries [0, 0, 0] (.control 0 forPort status rawData)
  /-- A connection status encodes a port and a status. -/
  | status {low high status : UInt8} {forPort : UInt16} {rawData : Bytes}
      (named : forPort.toNat = low.toNat + 256 * high.toNat) :
      Carries [0, 0, 1, low, high, status] (.control 1 forPort status rawData)
  /-- Data encodes its port, and its payload unless that is empty. -/
  | data {low high a b c d : UInt8} {payload bytes : Bytes} {port : UInt16}
      (named : port.toNat = low.toNat + 256 * high.toNat)
      (whole : payload ≠ [] → bytes = payload) :
      Carries ([low, high, a, b, c, d] ++ payload) (.data port bytes)

/-- Every word of the grammar stands for a packet. -/
theorem Word.frame {word : Bytes} (member : Word word) : ∃ packet, Frame word packet := by
  cases member with
  | keepalive => exact ⟨_, .keepalive⟩
  | @status low high status known =>
    rcases known with rfl | rfl
    · exact ⟨_, .closed low high⟩
    · exact ⟨_, .opened low high⟩
  | data a b c d port length =>
    -- The port and the length are what the decoder reads.
    exact ⟨_, .data (mt (readU16_eq_zero _ _).mp port) (length.trans (readU32_toNat a b c d).symm)⟩

/-- What stands for a packet is a word of the grammar, and encodes the fields of the packet. -/
theorem Frame.word {word : Bytes} {packet : Packet} (frame : Frame word packet) :
    Word word ∧ Carries word packet := by
  cases frame with
  | keepalive => exact ⟨.keepalive, .keepalive⟩
  | closed low high => exact ⟨.status low high (.inl rfl), .status (readU16_toNat low high)⟩
  | opened low high => exact ⟨.status low high (.inr rfl), .status (readU16_toNat low high)⟩
  | @data low high a b c d payload port length =>
    refine ⟨.data a b c d (mt (readU16_eq_zero low high).mpr port)
      (length.trans (readU32_toNat a b c d)), .data (readU16_toNat low high) ?_⟩
    intro nonempty
    rw [if_neg nonempty]

/-- What a call of `Packet::deserialize` returns, on bytes that stand in a closed channel. -/
def result (chunker : Chunker) (queue : List Bytes) : Except DeserializeError Packet :=
  ((deserialize chunker).finish queue).1.1

/-- A packet is returned exactly when the bytes start with a word of the grammar. -/
theorem deserialize_ok_iff {chunker : Chunker} {queue : List Bytes} {bytes : Bytes}
    (holds : chunker.Holds queue bytes) :
    (∃ packet, result chunker queue = .ok packet) ↔
      ∃ word rest, bytes = word ++ rest ∧ Word word := by
  rw [result, (deserialize_decode holds).1]
  -- A frame that is read is a word of the format, and each word is the frame of a packet.
  constructor
  · intro returned
    obtain ⟨packet, ok⟩ := returned
    obtain ⟨word, split, frame⟩ := frame_of_decode (Prod.ext ok rfl : decode bytes = (_, _))
    exact ⟨word, _, split, frame.word.1⟩
  · intro starts
    obtain ⟨word, rest, rfl, member⟩ := starts
    obtain ⟨packet, frame⟩ := member.frame
    exact ⟨packet, by rw [frame.decode]⟩

/-- When a packet is returned, its word has been consumed and all other bytes are left. -/
theorem deserialize_consumes {chunker : Chunker} {queue : List Bytes} {word rest : Bytes}
    (holds : chunker.Holds queue (word ++ rest)) (member : Word word) :
    ∃ packet, result chunker queue = .ok packet ∧ Carries word packet ∧
      ((deserialize chunker).finish queue).1.2.Holds
        ((deserialize chunker).finish queue).2 rest := by
  obtain ⟨packet, frame⟩ := member.frame
  have alike := deserialize_decode holds
  rw [frame.decode] at alike
  exact ⟨packet, alike.1, frame.word.2, alike.2⟩

/-- The packets that the dispatcher knows how to handle. -/
def Recognised : Packet → Prop
  | .data _ _ => True
  -- The status of a keep alive is not looked at.
  | .control msgType _ status _ => msgType = 0 ∨ msgType = 1 ∧ (status = 0 ∨ status = 1)

/-- What is known of a result: a packet that is returned is recognised. -/
def Reliable (result : Except DeserializeError Packet) : Prop :=
  ∀ packet, result = .ok packet → packet.Recognised

/-- A failure returns no packet. -/
theorem reliable_error (error : DeserializeError) : Reliable (.error error) := by
  simp [Reliable]

/-- A result that is a recognised packet is reliable. -/
theorem reliable_ok {packet : Packet} (recognised : packet.Recognised) :
    Reliable (.ok packet) := by
  simpa [Reliable] using recognised

/-- A program that fails without its bytes is reliable if it is reliable with them. -/
private theorem reliable_read {n : Nat} {resume : Except ChunkerError Bytes →
      Prog Nat (Except ChunkerError Bytes) (Except DeserializeError Packet)}
    (failure : ChunkerError → DeserializeError)
    (fails : ∀ error, resume (.error error) = .done (.error (failure error)))
    (goes : ∀ bytes, (resume (.ok bytes)).Ends Reliable) : (Prog.ask n resume).Ends Reliable := by
  intro read
  cases read with
  | error error =>
    rw [fails error]
    exact reliable_error _
  | ok bytes => exact goes bytes

/-- Whatever the reads of `Packet::deserialize` give, a packet it returns is recognised. -/
theorem deserializer_reliable : deserializer.Ends Reliable := by
  simp only [deserializer, Prog.query, Prog.bind_eq, Prog.ask_bind, Prog.done_bind, Prog.pure_eq]
  -- The program is followed through its reads, down to each of its returns.
  refine reliable_read .port (fun _ => rfl) fun portBytes => ?_
  dsimp only
  split
  · refine reliable_read .msgType (fun _ => rfl) fun msgTypeByte => ?_
    dsimp only
    split
    · exact reliable_ok (.inl rfl)
    split
    · exact reliable_error _
    · refine reliable_read .forPort (fun _ => rfl) fun forPortBytes => ?_
      refine reliable_read .status (fun _ => rfl) fun statusByte => ?_
      dsimp only
      split
      · exact reliable_ok (.inr ⟨rfl, .inl rfl⟩)
      split
      · exact reliable_ok (.inr ⟨rfl, .inr rfl⟩)
      · exact reliable_error _
  · refine reliable_read .length (fun _ => rfl) fun lengthBytes => ?_
    dsimp only
    split
    · exact reliable_ok trivial
    · exact reliable_read (.data _) (fun _ => rfl) fun bytes => reliable_ok trivial

/-- A call of `Packet::deserialize` is reliable, whatever chunks it will receive. -/
theorem deserialize_reliable (chunker : Chunker) :
    (deserialize chunker).Ends fun returned => Reliable returned.1 :=
  deserializer_reliable.through Chunker.read chunker

end Packet

namespace Mux

/-- Why an event says that a packet was passed over. -/
def skipping : Event → Option Skip
  | .skipped reason => some reason
  | _ => none

/-- The reasons for which packets were passed over. -/
def skips (seen : List Event) : List Skip :=
  seen.filterMap skipping

/-- Packets are passed over one after the other. -/
theorem skips_append (seen more : List Event) : skips (seen ++ more) = skips seen ++ skips more :=
  List.filterMap_append

/-- Only a packet that is dispatched is passed over. -/
theorem Step.skipped_cases {mux next : Mux} {label : Label} {out : List Event}
    (step : Step mux label next out) {reason : Skip} (skipped : reason ∈ skips out) :
    ∃ packet, label = .deserialized (.ok packet) ∧
      (Unserved packet reason ∨ ∃ port, reason = .unknownPort port) := by
  cases step with
  | skipped turn unserved =>
    obtain rfl : reason = _ := by simpa [skips, skipping, List.filterMap_cons] using skipped
    exact ⟨_, rfl, .inl unserved⟩
  | @unknownData port | @unknownClosed port =>
    have unknown : reason = .unknownPort port := by
      simpa [skips, skipping, List.filterMap_cons] using skipped
    exact ⟨_, rfl, .inr ⟨port, unknown⟩⟩
  -- The other steps pass over nothing.
  | read =>
    rw [skips, reader_unseen rfl rfl rfl] at skipped
    cases skipped
  | readerEnded =>
    rw [skips, closeReader, reader_unseen rfl rfl rfl] at skipped
    cases skipped
  | sendKeepalive =>
    rw [skips, enqueue_unseen rfl rfl] at skipped
    cases skipped
  | pipeInTcp => simp [skips, skipping] at skipped
  | _ => simp [skips, skipping, List.filterMap_cons] at skipped

/-- The branches of the dispatcher for a message type and for a status it does not know. -/
def Skip.Unknown : Skip → Prop
  | .unknownMsgType _ => True
  | .unknownStatus _ _ => True
  | _ => False

/-- No packet is passed over in such a branch unless it is not recognised. -/
theorem Step.known {mux next : Mux} {label : Label} {out : List Event}
    (step : Step mux label next out)
    (reliable : ∀ result, label = .deserialized result → Packet.Reliable result) {reason : Skip}
    (skipped : reason ∈ skips out) : ¬Skip.Unknown reason := by
  -- A step skips a packet because of its fields, or because of its port.
  obtain ⟨packet, rfl, why⟩ := step.skipped_cases skipped
  have recognised := reliable _ rfl packet rfl
  rcases why with unserved | ⟨port, rfl⟩
  · -- The field in question is one of those that a recognised packet has.
    cases unserved with
    | unknownMsgType notKeepalive notStatus =>
      simp [Packet.Recognised, notKeepalive, notStatus] at recognised
    | unknownStatus notClosed notOpen =>
      simp [Packet.Recognised, notClosed, notOpen] at recognised
    | _ => exact id
  · exact id

end Mux

namespace Inbound

/-- The part of a run of the pipeline in which packets are passed over. -/
def skips (seen : List InboundEvent) : List Skip :=
  Mux.skips (seen.filterMap toMux)

/-- The call in progress is reliable, and no field has been unknown so far. -/
structure Recognising (seen : List InboundEvent) (inbound : Inbound) : Prop where
  /-- Whatever chunks are received next, a packet that is returned is recognised. -/
  call : inbound.call.Ends fun returned => Packet.Reliable returned.1
  /-- The dispatcher has not come to a branch for an unknown field. -/
  known : ∀ reason ∈ skips seen, ¬Mux.Skip.Unknown reason

/-- A step that shows only events of the multiplexer passes over what these say. -/
theorem Recognising.append {seen : List InboundEvent} {inbound next : Inbound}
    (recognising : Recognising seen inbound) {out : List Event}
    (call : next.call.Ends fun returned => Packet.Reliable returned.1)
    (known : ∀ reason ∈ Mux.skips out, ¬Mux.Skip.Unknown reason) :
    Recognising (seen ++ out.map .mux) next := by
  refine ⟨call, ?_⟩
  intro reason member
  have whole : (out.map InboundEvent.mux).filterMap toMux = out := by
    simp [List.filterMap_map, Function.comp_def, toMux]
  rw [skips, List.filterMap_append, whole, Mux.skips_append] at member
  rcases List.mem_append.mp member with earlier | now
  · exact recognising.known reason earlier
  · exact known reason now

/-- A step of the multiplexer that dispatches nothing unreliable comes to no unknown field. -/
theorem known_of_taken {mux next : Mux} {label : Mux.Label} {out : List Event}
    (taken : mux.step label = some (next, out))
    (reliable : ∀ result, label = .deserialized result → Packet.Reliable result) :
    ∀ reason ∈ Mux.skips out, ¬Mux.Skip.Unknown reason :=
  fun _ member => (Mux.step_cases taken).known reliable member

/-- Every step of the pipeline keeps its call reliable and its fields known. -/
theorem Recognising.step {seen out : List InboundEvent} {inbound next : Inbound} {label : Label}
    (recognising : Recognising seen inbound) (step : Step inbound label next out) :
    Recognising (seen ++ out) next := by
  cases step with
  | read | dropped =>
    refine ⟨recognising.call, ?_⟩
    simpa [skips, toMux, List.filterMap_cons] using recognising.known
  | closed _ taken =>
    exact recognising.append recognising.call (known_of_taken taken (by simp))
  | recv _ call | recvClosed _ call =>
    -- The call goes on from an answer, and no answer is ruled out.
    have ends := recognising.call
    rw [call] at ends
    refine ⟨ends _, ?_⟩
    simpa using recognising.known
  | returned call taken =>
    -- What is dispatched is what the call has come to, and the next call is as reliable.
    have ends := recognising.call
    rw [call] at ends
    refine recognising.append (Packet.deserialize_reliable _) (known_of_taken taken ?_)
    intro result same
    cases same
    exact ends
  | mux other taken =>
    exact recognising.append recognising.call
      (known_of_taken taken fun result same => absurd same (other result))

/-- In no run does the dispatcher come to a branch for an unknown message type or status. -/
theorem recognising {labels : List Label} {seen : List InboundEvent} {inbound : Inbound}
    (run : machine.Run labels seen inbound) : Recognising seen inbound := by
  refine run.invariant Recognising ?_ ?_
  · exact ⟨Packet.deserialize_reliable Chunker.new, by simp [skips, Mux.skips]⟩
  · intro labels seen state label next out _ recognising taken
    exact recognising.step (step_cases taken)

/-- `Packet::deserialize` accepts exactly the grammar, and the dispatcher meets no other field. That
a chunker holds bytes includes that no chunk is empty: `pipe_in_l2cap` ends its loop on a read of no
bytes, so it sends none (`pipeline_lossless` says so of every run). -/
theorem parser_exact :
    (∀ (chunker : Chunker) (queue : List Bytes) (bytes : Bytes), chunker.Holds queue bytes →
      ((∃ packet, Packet.result chunker queue = .ok packet) ↔
        ∃ word rest, bytes = word ++ rest ∧ Packet.Word word) ∧
      ∀ word rest, bytes = word ++ rest → Packet.Word word →
        ∃ packet, Packet.result chunker queue = .ok packet ∧ Packet.Carries word packet ∧
          ((Packet.deserialize chunker).finish queue).1.2.Holds
            ((Packet.deserialize chunker).finish queue).2 rest) ∧
    ∀ (labels : List Label) (seen : List InboundEvent) (inbound : Inbound),
      machine.Run labels seen inbound → ∀ reason ∈ skips seen, ¬Mux.Skip.Unknown reason := by
  -- What is skipped along a run comes from packets that have been recognised.
  refine ⟨?_, fun labels seen inbound run => (recognising run).known⟩
  intro chunker queue bytes holds
  refine ⟨Packet.deserialize_ok_iff holds, ?_⟩
  intro word rest split member
  subst split
  exact Packet.deserialize_consumes holds member

/-- A keep alive in two chunks is read from the front, and a dispatched one is no unknown field. -/
theorem parser_exact_keepalive :
    (∃ packet, Packet.result Chunker.new [[0, 0], [0, 7]] = .ok packet ∧
      Packet.Carries [0, 0, 0] packet ∧
      ((Packet.deserialize Chunker.new).finish [[0, 0], [0, 7]]).1.2.Holds
        ((Packet.deserialize Chunker.new).finish [[0, 0], [0, 7]]).2 [7]) ∧
    ∃ seen inbound, machine.Run [.pipeInL2cap (.ok [0, 0, 0]), .recv, .returned] seen inbound ∧
      skips seen = [.keepalive] ∧ ∀ reason ∈ skips seen, ¬Mux.Skip.Unknown reason := by
  have holds : Chunker.new.Holds [[0, 0], [0, 7]] [0, 0, 0, 7] := by
    simp [Chunker.Holds, Chunker.unread, Chunker.new]
  have reached : (machine.exec machine.init
      [.pipeInL2cap (.ok [0, 0, 0]), .recv, .returned]).map (fun result => skips result.2) =
      some [.keepalive] := by decide +kernel
  obtain ⟨⟨inbound, seen⟩, executed, shown⟩ := Option.map_eq_some_iff.mp reached
  have run := Lts.Run.of_exec executed
  exact ⟨(parser_exact.1 _ _ _ holds).2 [0, 0, 0] [7] rfl .keepalive, seen, inbound, run, shown,
    parser_exact.2 _ _ _ run⟩

end Inbound

end BleManaged
