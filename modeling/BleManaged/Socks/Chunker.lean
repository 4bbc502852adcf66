import BleManaged.Lib.Prog
import BleManaged.Socks.Bytes

/-! The chunker cuts the chunks of a channel into reads of a given size. -/

namespace BleManaged

/-- How a read of the chunker fails; writing to a `Vec` cannot, so that failure has no case. -/
inductive ChunkerError where
  /-- The channel is closed and has no chunk left. -/
  | recv
  /-- A new chunk added no byte to the buffer. -/
  | overflowed
  deriving DecidableEq, Repr

/-- The text of a chunker error. -/
def ChunkerError.message : ChunkerError → String
  | .recv => "could not get new chunk: receiving from an empty and closed channel"
  | .overflowed => "overflowed writing to chunk"

/-- The buffer of a chunker; its `reader` is the channel the reading task receives from. -/
structure Chunker where
  chunk : Bytes
  deriving DecidableEq, Repr

namespace Chunker

/-- A chunker with nothing buffered. -/
def new : Chunker := { chunk := [] }

/-- Read `n` bytes, receiving new chunks while fewer are buffered. -/
def read (n : Nat) (chunker : Chunker) :
    Receiving Bytes (Except ChunkerError Bytes × Chunker) :=
  if _short : chunker.chunk.length < n then
    .ask () fun received =>
      match received with
      -- What is buffered stays buffered when no chunk comes any more.
      | none => .done (.error .recv, chunker)
      | some newChunk =>
        -- The write appends the whole chunk, so its count is zero only for an empty chunk.
        if _positive : newChunk.length > 0 then
          read n { chunk := chunker.chunk ++ newChunk }
        else .done (.error .overflowed, chunker)
  -- The loop is left with enough bytes buffered, and the surplus stays behind.
  else .done (.ok (chunker.chunk.take n), { chunk := chunker.chunk.drop n })
termination_by n - chunker.chunk.length
decreasing_by
  -- A chunk with at least one byte leaves fewer bytes missing.
  simp only [List.length_append]
  omega

/-- With enough bytes buffered a read receives nothing. -/
theorem finish_read_enough {n : Nat} {chunker : Chunker} (enough : n ≤ chunker.chunk.length)
    (queue : List Bytes) :
    (read n chunker).finish queue =
      ((.ok (chunker.chunk.take n), { chunk := chunker.chunk.drop n }), queue) := by
  -- The condition of the loop is false at once.
  rw [read, dif_neg (Nat.not_lt.mpr enough), Receiving.finish_done]

/-- With too few bytes buffered a read fails once the channel is closed and empty. -/
theorem finish_read_nil {n : Nat} {chunker : Chunker} (short : chunker.chunk.length < n) :
    (read n chunker).finish [] = ((.error .recv, chunker), []) := by
  rw [read, dif_pos short, Receiving.finish_nil, Receiving.finish_done]

/-- With too few bytes buffered a read appends the next chunk and goes on. -/
theorem finish_read_cons {n : Nat} {chunker : Chunker} (short : chunker.chunk.length < n)
    {newChunk : Bytes} (nonempty : newChunk ≠ []) (queue : List Bytes) :
    (read n chunker).finish (newChunk :: queue) =
      (read n { chunk := chunker.chunk ++ newChunk }).finish queue := by
  -- The chunk is not empty, so the write of it is counted as progress.
  rw [read, dif_pos short, Receiving.finish_cons]
  dsimp only
  rw [dif_pos (List.length_pos_iff.mpr nonempty)]

/-- An empty chunk makes a read that needs it fail. -/
theorem finish_read_empty {n : Nat} {chunker : Chunker} (short : chunker.chunk.length < n)
    (queue : List Bytes) :
    (read n chunker).finish ([] :: queue) = ((.error .overflowed, chunker), queue) := by
  -- A write of no bytes is taken for an overflow.
  rw [read, dif_pos short, Receiving.finish_cons]
  rfl

/-- All bytes that have arrived and have not been read: the buffer, then the channel. -/
def unread (chunker : Chunker) (queue : List Bytes) : Bytes :=
  -- Buffered bytes arrived before the chunks that are still in the channel.
  chunker.chunk ++ queue.flatten

/-- The bytes a read hands on, which are none when it fails. -/
def returned : Except ChunkerError Bytes → Bytes
  | .ok bytes => bytes
  | .error _ => []

/-- A read hands on the first unread bytes and keeps all others, also when it fails. -/
theorem read_lossless (n : Nat) (chunker : Chunker) (queue : List Bytes) :
    returned ((read n chunker).finish queue).1.1 ++
        unread ((read n chunker).finish queue).1.2 ((read n chunker).finish queue).2 =
      unread chunker queue := by
  -- The induction follows the loop, which moves chunks from the channel to the buffer.
  induction queue generalizing chunker with
  | nil =>
    by_cases short : chunker.chunk.length < n
    · simp [finish_read_nil short, returned]
    · simp [finish_read_enough (Nat.le_of_not_lt short), returned, unread]
  | cons newChunk queue ih =>
    by_cases short : chunker.chunk.length < n
    · by_cases empty : newChunk = []
      · subst empty
        simp [finish_read_empty short, returned, unread]
      · rw [finish_read_cons short empty, ih]
        simp [unread]
    · -- What is taken and what is kept make up the buffer again.
      rw [finish_read_enough (Nat.le_of_not_lt short)]
      simp only [returned, unread]
      rw [← List.append_assoc, List.take_append_drop]

/-- A successful read returns exactly the number of bytes it was asked for. -/
theorem read_length (n : Nat) (chunker : Chunker) (queue : List Bytes) {bytes : Bytes}
    (ok : ((read n chunker).finish queue).1.1 = .ok bytes) : bytes.length = n := by
  -- Only the way out of the loop with enough bytes is a success.
  induction queue generalizing chunker with
  | nil =>
    by_cases short : chunker.chunk.length < n
    · simp [finish_read_nil short] at ok
    · rw [finish_read_enough (Nat.le_of_not_lt short)] at ok
      cases ok
      simp [Nat.le_of_not_lt short]
  | cons newChunk queue ih =>
    by_cases short : chunker.chunk.length < n
    · by_cases empty : newChunk = []
      · subst empty
        simp [finish_read_empty short] at ok
      · rw [finish_read_cons short empty] at ok
        exact ih _ ok
    · rw [finish_read_enough (Nat.le_of_not_lt short)] at ok
      cases ok
      simp [Nat.le_of_not_lt short]

/-- A program of reads never makes the unread bytes longer. -/
theorem finish_through_le {α : Type} (program : Prog Nat (Except ChunkerError Bytes) α)
    (chunker : Chunker) (queue : List Bytes) {result : (α × Chunker) × List Bytes}
    (finished : Receiving.finish (program.through read chunker) queue = result) :
    (unread result.1.2 result.2).length ≤ (unread chunker queue).length := by
  -- Each single read loses no byte, and keeps those that it does not hand on.
  subst finished
  refine Prog.run_through_le (fun held arriving => (unread held arriving).length) ?_ _ _ _
  intro n held arriving
  have lossless := congrArg List.length (read_lossless n held arriving)
  simp only [List.length_append, Receiving.finish] at lossless
  omega

end Chunker

/-- The meaning of a read on bytes that are all there: the first `n` of them, or a failure. -/
def takeBytes (n : Nat) (bytes : Bytes) : Except ChunkerError Bytes × Bytes :=
  if n ≤ bytes.length then (.ok (bytes.take n), bytes.drop n) else (.error .recv, bytes)

/-- A read either splits its bytes off the front or finds too few and takes none. -/
theorem takeBytes_cases (n : Nat) (bytes : Bytes) :
    (∃ front rest, bytes = front ++ rest ∧ front.length = n ∧
      takeBytes n bytes = (.ok front, rest)) ∨
    (bytes.length < n ∧ takeBytes n bytes = (.error .recv, bytes)) := by
  -- The bytes are cut behind the first `n`, if there are so many.
  by_cases enough : n ≤ bytes.length
  · refine .inl ⟨bytes.take n, bytes.drop n, by simp, ?_, by simp [takeBytes, enough]⟩
    simp only [List.length_take]
    omega
  · exact .inr ⟨by omega, by simp [takeBytes, enough]⟩

namespace Chunker

/-- A chunker and its channel stand for the flat bytes they hold, in chunks that are not empty. -/
def Holds (chunker : Chunker) (queue : List Bytes) (bytes : Bytes) : Prop :=
  -- An empty chunk would make a read fail that has bytes behind it.
  bytes = unread chunker queue ∧ ∀ chunk ∈ queue, chunk ≠ []

/-- Reads through the chunker depend on the bytes only, not on how they were chunked. -/
theorem read_implements : Prog.Implements read Prog.receive takeBytes Holds := by
  intro n chunker queue bytes holds
  obtain ⟨rfl, nonempty⟩ := holds
  show ((read n chunker).finish queue).1.1 = _ ∧
    Holds ((read n chunker).finish queue).1.2 ((read n chunker).finish queue).2 _
  -- The induction follows the loop, which moves chunks from the channel to the buffer.
  induction queue generalizing chunker with
  | nil =>
    by_cases short : chunker.chunk.length < n
    · simp [finish_read_nil short, Holds, unread, takeBytes, Nat.not_le.mpr short]
    · have enough := Nat.le_of_not_lt short
      simp [finish_read_enough enough, Holds, unread, takeBytes, enough]
  | cons newChunk queue ih =>
    by_cases short : chunker.chunk.length < n
    · have moved : unread chunker (newChunk :: queue) =
          unread { chunk := chunker.chunk ++ newChunk } queue := by simp [unread]
      -- A chunk moves to the buffer, which changes neither the bytes nor their order.
      rw [finish_read_cons short (nonempty newChunk (by simp)), moved]
      exact ih _ fun chunk member => nonempty chunk (by simp [member])
    · have enough := Nat.le_of_not_lt short
      have front : n ≤ (unread chunker (newChunk :: queue)).length := by
        simp only [unread, List.length_append]
        omega
      -- The buffer alone has enough bytes, and they are the first of all.
      rw [finish_read_enough enough, takeBytes, if_pos front]
      refine ⟨?_, ?_, nonempty⟩
      · simp [unread, List.take_append_of_le_length enough]
      · simp [unread, List.drop_append_of_le_length enough]

end Chunker

end BleManaged
