import BleManaged.Socks.Packet
import Mathlib.Data.List.Basic

/-! Decoding accepts exactly the wire grammar, and undoes serialization over whole streams. -/

namespace BleManaged

open LittleEndian

namespace Packet

/-- A program that succeeds after a read, and would fail without it, has found its bytes. -/
private theorem found {n : Nat} {resume : Except ChunkerError Bytes →
      Prog Nat (Except ChunkerError Bytes) (Except DeserializeError Packet)}
    {bytes rest : Bytes} {packet : Packet} {error : DeserializeError}
    (needed : resume (.error .recv) = .done (.error error))
    (decoded : (Prog.ask n resume).run takeBytes bytes = (.ok packet, rest)) :
    ∃ front behind, bytes = front ++ behind ∧ front.length = n ∧
      (resume (.ok front)).run takeBytes behind = (.ok packet, rest) := by
  -- Too few bytes would have made the program fail.
  rcases takeBytes_cases n bytes with ⟨front, behind, split, size, taken⟩ | ⟨_, taken⟩
  · refine ⟨front, behind, split, size, ?_⟩
    simpa [taken] using decoded
  · simp [taken, needed] at decoded

/-- Whatever is decoded is a word of the grammar, and exactly that word has been consumed. -/
theorem frame_of_decode {bytes rest : Bytes} {packet : Packet}
    (decoded : decode bytes = (.ok packet, rest)) :
    ∃ word, bytes = word ++ rest ∧ Frame word packet := by
  -- The cases follow the reads of the decoder, each of which must have found its bytes.
  simp only [decode, deserializer, Prog.query, Prog.bind_eq, Prog.ask_bind, Prog.done_bind,
    Prog.pure_eq] at decoded
  obtain ⟨portBytes, behind, rfl, size, afterPort⟩ := found rfl decoded
  obtain ⟨low, high, rfl⟩ := List.length_eq_two.mp size
  clear decoded
  dsimp only at afterPort
  split at afterPort
  · -- Port zero: the message type selects a keep alive or a connection status.
    rename_i port
    obtain ⟨rfl, rfl⟩ := (readU16_eq_zero low high).mp port
    obtain ⟨msgTypeByte, behind, rfl, size, afterType⟩ := found rfl afterPort
    obtain ⟨msgType, rfl⟩ := List.length_eq_one_iff.mp size
    simp only [List.getElem!_cons_zero] at afterType
    split at afterType
    · -- Type zero is complete without any other field.
      rename_i alive
      subst alive
      simp only [Prog.run_done, Prod.mk.injEq, Except.ok.injEq] at afterType
      obtain ⟨rfl, rfl⟩ := afterType
      exact ⟨[0, 0, 0], rfl, .keepalive⟩
    split at afterType
    · simp at afterType
    · -- Type one names a port and the status of its connection.
      rename_i known
      obtain rfl : msgType = 1 := not_not.mp known
      obtain ⟨forPortBytes, behind, rfl, size, afterForPort⟩ := found rfl afterType
      obtain ⟨forLow, forHigh, rfl⟩ := List.length_eq_two.mp size
      obtain ⟨statusByte, behind, rfl, size, afterStatus⟩ := found rfl afterForPort
      obtain ⟨status, rfl⟩ := List.length_eq_one_iff.mp size
      simp only [List.getElem!_cons_zero] at afterStatus
      split at afterStatus
      · rename_i closed
        subst closed
        simp only [Prog.run_done, Prod.mk.injEq, Except.ok.injEq] at afterStatus
        obtain ⟨rfl, rfl⟩ := afterStatus
        exact ⟨[0, 0, 1, forLow, forHigh, 0], rfl, .closed forLow forHigh⟩
      split at afterStatus
      · rename_i opened
        subst opened
        simp only [Prog.run_done, Prod.mk.injEq, Except.ok.injEq] at afterStatus
        obtain ⟨rfl, rfl⟩ := afterStatus
        exact ⟨[0, 0, 1, forLow, forHigh, 1], rfl, .opened forLow forHigh⟩
      · simp at afterStatus
  · -- Any other port: a length, and a payload of that length unless it is zero.
    rename_i port
    obtain ⟨lengthBytes, behind, rfl, size, afterLength⟩ := found rfl afterPort
    obtain ⟨a, b, c, d, rfl⟩ := List.length_eq_four.mp size
    dsimp only at afterLength
    split at afterLength
    · -- The length zero stands for the empty payload, which is not read.
      rename_i zero
      simp only [Prog.run_done, Prod.mk.injEq, Except.ok.injEq] at afterLength
      obtain ⟨rfl, rfl⟩ := afterLength
      have frame : Frame ([low, high, a, b, c, d] ++ []) (.data (readU16 [low, high]) [0, 0]) :=
        .data port (by rw [zero]; rfl)
      exact ⟨_, by simp, frame⟩
    · rename_i positive
      obtain ⟨payload, behind, rfl, size, afterData⟩ := found rfl afterLength
      simp only [Prog.run_done, Prod.mk.injEq, Except.ok.injEq] at afterData
      obtain ⟨rfl, rfl⟩ := afterData
      have nonempty : payload ≠ [] := by
        intro empty
        subst empty
        exact positive (UInt32.toNat_inj.mp size.symm)
      refine ⟨[low, high, a, b, c, d] ++ payload, by simp, ?_⟩
      simpa [nonempty] using Frame.data port size

/-- A word of the grammar has at least one byte. -/
theorem Frame.length_pos {word : Bytes} {packet : Packet} (frame : Frame word packet) :
    0 < word.length := by
  -- Even the shortest word starts with a port.
  cases frame <;> simp

/-- No packet is decoded without consuming bytes. -/
theorem decode_shrinks {bytes rest : Bytes} {packet : Packet}
    (decoded : decode bytes = (.ok packet, rest)) : rest.length < bytes.length := by
  -- What is consumed is a word of the grammar, and no word is empty.
  obtain ⟨word, rfl, frame⟩ := frame_of_decode decoded
  have positive := frame.length_pos
  simp only [List.length_append]
  omega

/-- A word of the grammar is not decoded before its last byte is there. -/
theorem Frame.decode_part {word part more : Bytes} {packet : Packet} (frame : Frame word packet)
    (split : word = part ++ more) (missing : more ≠ []) :
    ∃ error, Packet.decode part = (.error error, (Packet.decode part).2) := by
  -- A packet decoded from the part would also be decoded from the word, leaving bytes behind.
  cases early : Packet.decode part with
  | mk result rest =>
    cases result with
    | error error => exact ⟨error, rfl⟩
    | ok other =>
      -- The bytes left behind would include the missing ones.
      obtain ⟨start, rfl, inner⟩ := frame_of_decode early
      have whole := frame.decode []
      rw [List.append_nil, split, List.append_assoc, inner.decode] at whole
      have nothing := congrArg Prod.snd whole
      simp [missing] at nothing

/-- Decoding packet after packet from bytes that are all there. -/
def bytesSource : Source Bytes DeserializeError Packet where
  next := decode
  size := List.length
  shrinks := decode_shrinks

/-- A packet deserialized from a channel leaves fewer bytes unread, however they were chunked. -/
theorem deserialize_shrinks {chunker left : Chunker} {queue remaining : List Bytes}
    {packet : Packet}
    (read : (deserialize chunker).finish queue = ((.ok packet, left), remaining)) :
    (left.unread remaining).length < (chunker.unread queue).length := by
  -- The first read takes the two bytes of the port, and no later read puts bytes back.
  obtain ⟨resume, first, fails⟩ := deserializer_first
  rw [deserialize, first, Receiving.finish, Prog.run_through_ask] at read
  cases taken : (Chunker.read 2 chunker).finish queue with
  | mk portRead arriving =>
    obtain ⟨portBytes, held⟩ := portRead
    have lossless := congrArg List.length (Chunker.read_lossless 2 chunker queue)
    rw [taken, List.length_append] at lossless
    rw [Receiving.finish] at taken
    rw [taken] at read
    cases portBytes with
    | error error => simp [fails, Prog.through] at read
    | ok portBytes =>
      -- Two bytes are gone after the port, and the other reads can only take more.
      have two : portBytes.length = 2 :=
        Chunker.read_length 2 chunker queue (by rw [Receiving.finish, taken])
      have later := Chunker.finish_through_le (resume (.ok portBytes)) held arriving read
      simp only [Chunker.returned] at lossless later
      omega

/-- Deserializing packet after packet from a chunker whose channel is closed behind its chunks. -/
def chunkSource : Source (Chunker × List Bytes) DeserializeError Packet where
  next held :=
    let result := (deserialize held.1).finish held.2
    (result.1.1, result.1.2, result.2)
  size held := (held.1.unread held.2).length
  shrinks := by
    -- The pairs are regrouped, and the rest is the lemma above.
    intro ⟨chunker, queue⟩ packet ⟨left, remaining⟩ read
    simp only [Prod.mk.injEq] at read
    obtain ⟨ok, rfl, rfl⟩ := read
    exact deserialize_shrinks (Prod.ext (Prod.ext ok rfl) rfl)

/-- The packets, the failure and the unread bytes do not depend on how bytes were chunked. -/
theorem drain_chunks {chunker : Chunker} {queue : List Bytes} {bytes : Bytes}
    (holds : chunker.Holds queue bytes) :
    (chunkSource.drain (chunker, queue)).1 = (bytesSource.drain bytes).1 ∧
      (chunkSource.drain (chunker, queue)).2.1 = (bytesSource.drain bytes).2.1 ∧
      (chunkSource.drain (chunker, queue)).2.2.1.Holds
        (chunkSource.drain (chunker, queue)).2.2.2 (bytesSource.drain bytes).2.2 :=
  -- Each packet is decoded alike on both sides, which hold the same bytes afterwards.
  Source.drain_related (fun (held : Chunker × List Bytes) bytes => held.1.Holds held.2 bytes)
    (fun _ _ related => deserialize_decode related) holds

end Packet

end BleManaged
