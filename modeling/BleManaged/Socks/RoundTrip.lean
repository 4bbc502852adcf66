import BleManaged.Socks.Wire

/-! Serialization and deserialization undo each other, except for the empty data packet. -/

namespace BleManaged

open LittleEndian

namespace Packet

/-- The packets a sender builds: data for a real port that fits its length, or a control packet. -/
inductive Sendable : Packet → Prop where
  | data (port : UInt16) (bytes : Bytes) (named : port ≠ 0) (positive : 1 ≤ bytes.length)
      (bounded : bytes.length ≤ 4294967295) : Sendable (.data port bytes)
  | opened (forPort : UInt16) : Sendable (controlSocketOpen forPort)
  | closed (forPort : UInt16) : Sendable (controlSocketClosed forPort)
  | keepalive : Sendable keepalive

/-- The bytes a packet contributes to a stream, which are none if it cannot be serialized. -/
def wireBytes (packet : Packet) : Bytes :=
  match packet.serialize with
  | .ok bytes => bytes
  -- A packet that cannot be serialized is dropped by its sender.
  | .error _ => []

/-- The packets a sender builds can be serialized. -/
theorem Sendable.serialize {packet : Packet} (sendable : Sendable packet) :
    packet.serialize = .ok packet.wireBytes := by
  -- Only the length of data could be in the way.
  cases sendable with
  | data port bytes named positive bounded =>
    simp [wireBytes, Packet.serialize, Nat.not_lt.mpr bounded]
  | opened forPort => rfl
  | closed forPort => rfl
  | keepalive => rfl

/-- Written data is a word of the grammar when its length fits and is not zero. -/
theorem Frame.data_written {port : UInt16} {bytes : Bytes} (named : port ≠ 0)
    (nonempty : bytes ≠ []) (bounded : bytes.length ≤ 4294967295) :
    Frame (writeU16 port ++ writeU32 (UInt32.ofNat bytes.length) ++ bytes)
      (.data port bytes) := by
  -- The length is announced without loss, because it fits 32 bits.
  have announced : bytes.length = (readU32 (writeU32 (UInt32.ofNat bytes.length))).toNat := by
    rw [readU32_writeU32, UInt32.toNat_ofNat_of_lt' (by simp only [UInt32.size]; omega)]
  have frame := Frame.data (by rwa [← readU16_writeU16 port] at named) announced
  rw [if_neg nonempty] at frame
  -- The port is announced without loss as well.
  change Frame (writeU16 port ++ writeU32 (UInt32.ofNat bytes.length) ++ bytes)
    (.data (readU16 (writeU16 port)) bytes) at frame
  rwa [readU16_writeU16] at frame

/-- The packets a sender builds are serialized to words of the grammar. -/
theorem Sendable.frame {packet : Packet} (sendable : Sendable packet) :
    Frame packet.wireBytes packet := by
  -- Each kind of packet has its own rule of the grammar, and ports survive being written.
  cases sendable with
  | data port bytes named positive bounded =>
    simpa [wireBytes, Packet.serialize, Nat.not_lt.mpr bounded] using
      Frame.data_written named (List.length_pos_iff.mp positive) bounded
  | opened forPort =>
    have frame := Frame.opened (UInt8.ofNat forPort.toNat) (UInt8.ofNat (forPort.toNat / 256))
    change Frame (controlSocketOpen forPort).wireBytes
      (controlSocketOpen (readU16 (writeU16 forPort))) at frame
    rwa [readU16_writeU16] at frame
  | closed forPort =>
    have frame := Frame.closed (UInt8.ofNat forPort.toNat) (UInt8.ofNat (forPort.toNat / 256))
    change Frame (controlSocketClosed forPort).wireBytes
      (controlSocketClosed (readU16 (writeU16 forPort))) at frame
    rwa [readU16_writeU16] at frame
  | keepalive => exact .keepalive

/-- Serialized packets laid end to end are decoded one by one, whatever follows them. -/
theorem drain_wireBytes {packets : List Packet} (sendable : ∀ packet ∈ packets, Sendable packet)
    (rest : Bytes) :
    bytesSource.drain (packets.flatMap wireBytes ++ rest) =
      (packets ++ (bytesSource.drain rest).1, (bytesSource.drain rest).2) :=
  -- Each serialization is a word of the grammar, which is decoded without what follows it.
  Source.drain_encoded packets (fun packet member => (sendable packet member).frame.decode) rest

/-- With no byte left, decoding fails for want of the two bytes of a port. -/
theorem drain_nil : bytesSource.drain [] = ([], .port .recv, []) :=
  -- The very first read fails.
  bytesSource.drain_error rfl

/-- Serializing a list of packets that all can be gives the list of their bytes. -/
theorem mapM_serialize {packets : List Packet} (sendable : ∀ packet ∈ packets, Sendable packet) :
    packets.mapM Packet.serialize = .ok (packets.map wireBytes) := by
  -- No packet of the list makes the whole of it fail.
  induction packets with
  | nil => rfl
  | cons packet packets ih =>
    rw [List.mapM_cons, (sendable packet (by simp)).serialize,
      ih fun other member => sendable other (by simp [member])]
    rfl

/-- Over any chunking, deserialization returns the packets that were serialized, and only them. -/
theorem drain_serialized {packets : List Packet}
    (sendable : ∀ packet ∈ packets, Sendable packet) :
    ∃ outputs, packets.mapM Packet.serialize = .ok outputs ∧
      ∀ chunks : List Bytes, (∀ chunk ∈ chunks, chunk ≠ []) → chunks.flatten = outputs.flatten →
        chunkSource.drain (Chunker.new, chunks) = (packets, .port .recv, Chunker.new, []) := by
  refine ⟨packets.map wireBytes, mapM_serialize sendable, ?_⟩
  intro chunks nonempty split
  -- The chunks hold the flat stream, which is drained packet by packet.
  have holds : Chunker.new.Holds chunks (packets.flatMap wireBytes) :=
    ⟨by simp [Chunker.unread, Chunker.new, split, List.flatMap_def], nonempty⟩
  have flat := drain_wireBytes sendable []
  rw [List.append_nil, drain_nil, List.append_nil] at flat
  obtain ⟨items, failure, unread, others⟩ := drain_chunks holds
  rw [flat] at items failure unread
  -- Nothing is left unread, so the buffer and the channel are both empty.
  cases drained : chunkSource.drain (Chunker.new, chunks) with
  | mk found ending =>
    obtain ⟨error, ⟨chunk⟩, queue⟩ := ending
    rw [drained] at items failure unread others
    simp only [Chunker.unread] at items failure unread others
    obtain ⟨rfl, empty⟩ := List.append_eq_nil_iff.mp unread.symm
    have none : queue = [] := by
      cases queue with
      | nil => rfl
      | cons first queue =>
        exact absurd (List.append_eq_nil_iff.mp empty).1 (others first (by simp))
    subst none
    rw [items, failure]
    rfl

/-- A data packet, an open, a close and a keep alive survive being sent as one stream. -/
theorem drain_serialized_each_kind :
    ∃ outputs, [Packet.data 7 [1, 2, 3], controlSocketOpen 7, controlSocketClosed 7,
        Packet.keepalive].mapM Packet.serialize = .ok outputs ∧
      ∀ chunks : List Bytes, (∀ chunk ∈ chunks, chunk ≠ []) → chunks.flatten = outputs.flatten →
        chunkSource.drain (Chunker.new, chunks) =
          ([Packet.data 7 [1, 2, 3], controlSocketOpen 7, controlSocketClosed 7,
            Packet.keepalive], .port .recv, Chunker.new, []) := by
  -- Each of the four is a packet that a sender builds.
  apply drain_serialized
  intro packet member
  simp only [List.mem_cons, List.not_mem_nil, or_false] at member
  rcases member with rfl | rfl | rfl | rfl
  · exact .data 7 [1, 2, 3] (by decide) (by decide) (by decide)
  · exact .opened 7
  · exact .closed 7
  · exact .keepalive

/-- A data packet on the wire: a real port, a length, and that many bytes. -/
def OnWire (consumed : Bytes) (bytes : Bytes) : Prop :=
  -- The header is the port in two bytes and the length in four.
  ∃ header, consumed = header ++ bytes ∧ header.length = 6 ∧
    bytes.length = (readU32 (header.drop 2)).toNat

/-- What is deserialized can be serialized to exactly the bytes that were consumed for it. -/
def EncodesConsumed (chunker : Chunker) (queue : List Bytes) : Prop :=
  -- Nothing is said about bytes that are not accepted.
  ∀ packet left remaining,
    (deserialize chunker).finish queue = ((.ok packet, left), remaining) →
      ∃ consumed, chunker.unread queue = consumed ++ left.unread remaining ∧
        packet.serialize = .ok consumed ∧
        ∀ port bytes, packet = .data port bytes → OnWire consumed bytes

/-- Bytes that start with a data packet for a real port whose length field is zero. -/
def StartsEmptyData (bytes : Bytes) : Prop :=
  ∃ low high rest, ¬(low = 0 ∧ high = 0) ∧ bytes = [low, high, 0, 0, 0, 0] ++ rest

/-- A word of the grammar is what its packet is serialized to, unless it is an empty data packet. -/
theorem Frame.serialize {word : Bytes} {packet : Packet} (frame : Frame word packet)
    (loaded : ¬StartsEmptyData word) :
    packet.serialize = .ok word ∧ ∀ port bytes, packet = .data port bytes → OnWire word bytes := by
  -- Control packets are rebuilt from the port they name, and data packets keep their payload.
  cases frame with
  | keepalive => exact ⟨rfl, by simp [Packet.keepalive]⟩
  | closed low high =>
    refine ⟨?_, by simp [controlSocketClosed, controlSocket]⟩
    simp [Packet.serialize, controlSocketClosed, controlSocket, writeU16_readU16]
    rfl
  | opened low high =>
    refine ⟨?_, by simp [controlSocketOpen, controlSocket]⟩
    simp [Packet.serialize, controlSocketOpen, controlSocket, writeU16_readU16]
    rfl
  | @data low high a b c d payload port length =>
    have nonempty : payload ≠ [] := by
      -- An empty payload would have the length zero on the wire.
      intro empty
      subst empty
      obtain ⟨rfl, rfl, rfl, rfl⟩ := (readU32_eq_zero a b c d).mp (UInt32.toNat_inj.mp length.symm)
      exact loaded ⟨low, high, [], fun zero => port ((readU16_eq_zero low high).mpr zero), by simp⟩
    have bound := (readU32 [a, b, c, d]).toNat_lt
    have fits : ¬payload.length > 4294967295 := by omega
    have announced : UInt32.ofNat payload.length = readU32 [a, b, c, d] := by
      rw [length, UInt32.ofNat_toNat]
    constructor
    · simp [Packet.serialize, nonempty, fits, announced, writeU16_readU16, writeU32_readU32]
    · intro _ _ same
      cases same
      exact ⟨[low, high, a, b, c, d], by simp [nonempty], rfl, by simpa [nonempty] using length⟩

/-- An empty data packet is decoded to a packet of two bytes that were not on the wire. -/
theorem decode_emptyData {low high : UInt8} (port : ¬(low = 0 ∧ high = 0)) (rest : Bytes) :
    decode ([low, high, 0, 0, 0, 0] ++ rest) =
      (.ok (.data (readU16 [low, high]) [0, 0]), rest) := by
  -- The grammar accepts the word, with the two bytes that the source makes up for it.
  have frame : Frame ([low, high, 0, 0, 0, 0] ++ []) (.data (readU16 [low, high]) [0, 0]) :=
    .data (fun zero => port ((readU16_eq_zero low high).mp zero)) rfl
  exact frame.decode rest

/-- Deserialization is undone by serialization exactly when no empty data packet comes first. -/
theorem encodesConsumed_iff {chunker : Chunker} {queue : List Bytes}
    (nonempty : ∀ chunk ∈ queue, chunk ≠ []) :
    EncodesConsumed chunker queue ↔ ¬StartsEmptyData (chunker.unread queue) := by
  obtain ⟨answers, unread, _⟩ := deserialize_decode (⟨rfl, nonempty⟩ : chunker.Holds queue _)
  constructor
  · -- The empty data packet is accepted, and its two extra bytes make the serialization longer.
    intro encodes starts
    obtain ⟨low, high, rest, port, start⟩ := starts
    rw [start, decode_emptyData port rest] at answers unread
    obtain ⟨consumed, split, _, payload⟩ := encodes _ _ _ (Prod.ext (Prod.ext answers rfl) rfl)
    rw [← unread, start] at split
    obtain ⟨header, rfl, size, _⟩ := payload _ _ rfl
    have sizes := congrArg List.length split
    simp only [List.length_append, List.length_cons, List.length_nil] at sizes
    omega
  · -- What is accepted is a word of the grammar, and no empty data packet.
    intro loaded packet left remaining read
    rw [read] at answers unread
    obtain ⟨word, split, frame⟩ := frame_of_decode (Prod.ext answers.symm unread)
    refine ⟨word, split, frame.serialize ?_⟩
    intro starts
    obtain ⟨low, high, rest, port, start⟩ := starts
    exact loaded ⟨low, high, rest ++ left.unread remaining, port, by
      rw [split, start, List.append_assoc]
      rfl⟩

/-- A data packet of three bytes is undone by serialization, cut into two chunks or not. -/
theorem encodesConsumed_three_bytes :
    EncodesConsumed Chunker.new [[7, 0, 3], [0, 0, 0, 1, 2, 3]] := by
  -- The bytes of the length are not all zero.
  apply (encodesConsumed_iff (by decide)).mpr
  intro starts
  obtain ⟨low, high, rest, _, start⟩ := starts
  simp [Chunker.unread, Chunker.new] at start

/-- An empty data packet for port one is not undone: it would be sent with two zero bytes. -/
theorem encodesConsumed_empty_data : ¬EncodesConsumed Chunker.new [[1, 0, 0, 0, 0, 0]] := by
  -- Six bytes are consumed, and eight would be sent for the packet that is returned.
  intro encodes
  have read : (deserialize Chunker.new).finish [[1, 0, 0, 0, 0, 0]] =
      ((.ok (.data 1 [0, 0]), Chunker.new), []) := by decide +kernel
  obtain ⟨consumed, split, written, _⟩ := encodes _ _ _ read
  have sent : Packet.serialize (.data 1 [0, 0]) = .ok [1, 0, 2, 0, 0, 0, 0, 0] := by decide
  rw [sent] at written
  cases written
  simp [Chunker.unread, Chunker.new] at split

end Packet

end BleManaged
