import BleManaged.Lib.Lts
import BleManaged.Socks.Chunker

/-! The chunker on its channel, with reads of any size and chunks that arrive at any time. -/

namespace BleManaged

/-- Where the task that reads from the chunker is. -/
inductive ReadCall where
  | idle (chunker : Chunker)
  /-- Inside `read(n)`, waiting for the channel. -/
  | reading (n : Nat) (rest : Receiving Bytes (Except ChunkerError Bytes × Chunker))

/-- The channel of chunks, with the task at its receiving end. -/
structure Intake where
  /-- The chunks that have been sent and not received, in order. -/
  queue : List Bytes
  /-- The sender is gone. -/
  closed : Bool
  call : ReadCall

/-- What can be observed of the channel and the reads. -/
inductive IntakeEvent where
  | sent (chunk : Bytes)
  | received (chunk : Bytes)
  | returned (n : Nat) (result : Except ChunkerError Bytes)
  deriving DecidableEq, Repr

namespace Intake

/-- A read that goes on returns, or it waits for the channel. -/
def settle (intake : Intake) (n : Nat) :
    Receiving Bytes (Except ChunkerError Bytes × Chunker) → Intake × List IntakeEvent
  | .done (result, chunker) => ({ intake with call := .idle chunker }, [.returned n result])
  | .ask () resume => ({ intake with call := .reading n (.ask () resume) }, [])

/-- What can happen next: a send, the end of the sender, a call, or a receive. -/
inductive Label where
  | send (chunk : Bytes)
  | close
  | read (n : Nat)
  | recv
  deriving DecidableEq, Repr

/-- The waiting read receives a chunk, or learns that the channel is empty and closed. -/
def recv (intake : Intake) : Option (Intake × List IntakeEvent) :=
  match intake.call with
  | .reading n (.ask () resume) =>
    match intake.queue with
    | chunk :: queue =>
      let settled := { intake with queue }.settle n (resume (some chunk))
      some (settled.1, .received chunk :: settled.2)
    | [] => if intake.closed then some (intake.settle n (resume none)) else none
  | _ => none

/-- The effect of one label. -/
def step (intake : Intake) : Label → Option (Intake × List IntakeEvent)
  | .send chunk =>
    -- Nothing can be sent once the sender is gone.
    if intake.closed then none
    else some ({ intake with queue := intake.queue ++ [chunk] }, [.sent chunk])
  | .close => some ({ intake with closed := true }, [])
  | .read n =>
    match intake.call with
    | .idle chunker => some (intake.settle n (chunker.read n))
    -- A read borrows the chunker, so there is one at a time.
    | .reading _ _ => none
  | .recv => intake.recv

/-- A new chunker on an empty channel, with any chunks and any reads to come. -/
def machine : Lts Intake Label IntakeEvent where
  init := { queue := [], closed := false, call := .idle Chunker.new }
  step := step

/-- The chunks that have been sent, in order. -/
def sent (seen : List IntakeEvent) : List Bytes :=
  seen.filterMap fun
    | .sent chunk => some chunk
    | _ => none

/-- The chunks that have been received, in order. -/
def received (seen : List IntakeEvent) : List Bytes :=
  seen.filterMap fun
    | .received chunk => some chunk
    | _ => none

/-- The bytes that the reads have returned, in order; a read that failed has returned none. -/
def returnedBytes (seen : List IntakeEvent) : Bytes :=
  (seen.filterMap fun
    | .returned _ result => some (Chunker.returned result)
    | _ => none).flatten

/-- Chunks are sent in order. -/
@[simp] theorem sent_append (seen more : List IntakeEvent) :
    sent (seen ++ more) = sent seen ++ sent more := List.filterMap_append

/-- Chunks are received in order. -/
@[simp] theorem received_append (seen more : List IntakeEvent) :
    received (seen ++ more) = received seen ++ received more := List.filterMap_append

/-- What later reads return comes behind what earlier ones have returned. -/
@[simp] theorem returnedBytes_append (seen more : List IntakeEvent) :
    returnedBytes (seen ++ more) = returnedBytes seen ++ returnedBytes more := by
  simp [returnedBytes]

/-- The chunker as it stands: between two reads, or at the head of the loop of a read that waits
because too few bytes are buffered. -/
def Holds (intake : Intake) (chunker : Chunker) : Prop :=
  intake.call = .idle chunker ∨
    ∃ n, intake.call = .reading n (chunker.read n) ∧ chunker.chunk.length < n

/-- A read that finds enough bytes in the buffer returns the first ones. -/
theorem settle_enough {n : Nat} {chunker : Chunker} (enough : n ≤ chunker.chunk.length)
    (intake : Intake) :
    intake.settle n (chunker.read n) =
      ({ intake with call := .idle { chunk := chunker.chunk.drop n } },
        [.returned n (.ok (chunker.chunk.take n))]) := by
  -- The condition of the loop is false at once.
  rw [Chunker.read, dif_neg (Nat.not_lt.mpr enough)]
  rfl

/-- A read that finds too few bytes in the buffer waits at the head of its loop. -/
theorem settle_short {n : Nat} {chunker : Chunker} (short : chunker.chunk.length < n)
    (intake : Intake) :
    intake.settle n (chunker.read n) =
      ({ intake with call := .reading n (chunker.read n) }, []) := by
  -- The loop is entered, and begins with a receive.
  rw [Chunker.read, dif_pos short]
  rfl

/-- Every step while the chunks are not empty, with the branch of the loop it takes. -/
inductive Step (intake : Intake) : Label → Intake → List IntakeEvent → Prop where
  | sent (chunk : Bytes) :
      Step intake (.send chunk) { intake with queue := intake.queue ++ [chunk] } [.sent chunk]
  | closed : Step intake .close { intake with closed := true } []
  /-- A call finds enough bytes in the buffer. -/
  | enough {n : Nat} {chunker : Chunker} (idle : intake.call = .idle chunker)
      (enough : n ≤ chunker.chunk.length) :
      Step intake (.read n) { intake with call := .idle { chunk := chunker.chunk.drop n } }
        [.returned n (.ok (chunker.chunk.take n))]
  /-- A call finds too few bytes in the buffer, and waits. -/
  | called {n : Nat} {chunker : Chunker} (idle : intake.call = .idle chunker)
      (short : chunker.chunk.length < n) :
      Step intake (.read n) { intake with call := .reading n (chunker.read n) } []
  /-- The read fails, and keeps what is buffered. -/
  | failed {n : Nat} {chunker : Chunker}
      (reading : intake.call = .reading n (chunker.read n))
      (short : chunker.chunk.length < n) (empty : intake.queue = [])
      (closed : intake.closed = true) :
      Step intake .recv { intake with call := .idle chunker } [.returned n (.error .recv)]
  /-- A chunk is appended to the buffer, and there are still too few bytes. -/
  | absorbed {n : Nat} {chunker : Chunker} {chunk : Bytes} {queue : List Bytes}
      (reading : intake.call = .reading n (chunker.read n))
      (short : chunker.chunk.length < n) (arrived : intake.queue = chunk :: queue)
      (still : (chunker.chunk ++ chunk).length < n) :
      Step intake .recv
        { intake with
          queue
          call := .reading n (Chunker.read n { chunk := chunker.chunk ++ chunk }) }
        [.received chunk]
  /-- A chunk is appended to the buffer, and the read returns. -/
  | completed {n : Nat} {chunker : Chunker} {chunk : Bytes} {queue : List Bytes}
      (reading : intake.call = .reading n (chunker.read n))
      (short : chunker.chunk.length < n) (arrived : intake.queue = chunk :: queue)
      (enough : n ≤ (chunker.chunk ++ chunk).length) :
      Step intake .recv
        { intake with queue, call := .idle { chunk := (chunker.chunk ++ chunk).drop n } }
        [.received chunk, .returned n (.ok ((chunker.chunk ++ chunk).take n))]

/-- A read that waits appends the next chunk to its buffer, and goes on. -/
theorem recv_arrived {n : Nat} {chunker : Chunker} (short : chunker.chunk.length < n)
    {chunk : Bytes} (nonempty : chunk ≠ []) (queue : List Bytes) (closed : Bool) :
    recv { queue := chunk :: queue, closed, call := .reading n (chunker.read n) } =
      let settled := settle { queue, closed, call := .reading n (chunker.read n) } n
        (Chunker.read n { chunk := chunker.chunk ++ chunk })
      some (settled.1, .received chunk :: settled.2) := by
  have positive := List.length_pos_iff.mpr nonempty
  -- The chunk is not empty, so the write of it is counted as progress.
  rw [Chunker.read, dif_pos short]
  simp only [recv, dif_pos positive]

/-- A read that waits fails when the channel is empty and closed, and else waits on. -/
theorem recv_empty {n : Nat} {chunker : Chunker} (short : chunker.chunk.length < n)
    (closed : Bool) :
    recv { queue := [], closed, call := .reading n (chunker.read n) } =
      if closed then
        some ({ queue := [], closed, call := .idle chunker }, [.returned n (.error .recv)])
      else none := by
  -- The chunker that comes back is the one that the read began to wait with.
  rw [Chunker.read, dif_pos short]
  rfl

/-- The steps of a read that waits. -/
theorem recv_cases {intake next : Intake} {n : Nat} {chunker : Chunker} {out : List IntakeEvent}
    (reading : intake.call = .reading n (chunker.read n)) (short : chunker.chunk.length < n)
    (nonempty : ∀ chunk ∈ intake.queue, chunk ≠ [])
    (taken : intake.recv = some (next, out)) : Step intake .recv next out := by
  obtain ⟨queue, closed, call⟩ := intake
  subst reading
  -- What can be received decides how the read goes on.
  cases queue with
  | nil =>
    rw [recv_empty short] at taken
    split at taken
    · rename_i gone
      cases taken
      exact .failed rfl short rfl gone
    · cases taken
  | cons chunk queue =>
    rw [recv_arrived short (nonempty chunk (by simp))] at taken
    by_cases still : (chunker.chunk ++ chunk).length < n
    · rw [@settle_short n { chunk := chunker.chunk ++ chunk } still] at taken
      cases taken
      exact .absorbed rfl short rfl still
    · have enough := Nat.le_of_not_lt still
      rw [@settle_enough n { chunk := chunker.chunk ++ chunk } enough] at taken
      cases taken
      exact .completed rfl short rfl enough

/-- There are no other steps while the chunks are not empty. -/
theorem step_cases {intake next : Intake} {chunker : Chunker} {label : Label}
    {out : List IntakeEvent} (holds : intake.Holds chunker)
    (nonempty : ∀ chunk ∈ intake.queue, chunk ≠ [])
    (taken : intake.step label = some (next, out)) : Step intake label next out := by
  -- A read can be called only when none waits, and only a read that waits receives.
  cases label with
  | send chunk =>
    simp only [step] at taken
    split at taken
    · cases taken
    · cases taken
      exact .sent chunk
  | close =>
    cases taken
    exact .closed
  | read n =>
    rcases holds with idle | ⟨m, reading, _⟩
    · simp only [step, idle, Option.some.injEq] at taken
      by_cases short : chunker.chunk.length < n
      · rw [settle_short short] at taken
        cases taken
        exact .called idle short
      · have enough := Nat.le_of_not_lt short
        rw [settle_enough enough] at taken
        cases taken
        exact .enough idle enough
    · simp [step, reading] at taken
  | recv =>
    rcases holds with idle | ⟨n, reading, short⟩
    · simp [step, recv, idle] at taken
    · exact recv_cases reading short nonempty taken

/-- There is one buffer that a state can hold. -/
theorem Holds.unique {intake : Intake} {chunker other : Chunker} (holds : intake.Holds chunker)
    (again : intake.Holds other) : chunker = other := by
  rcases holds with idle | ⟨n, reading, short⟩
  · rcases again with same | ⟨m, same, _⟩
    · rw [idle] at same
      cases same
      rfl
    · rw [idle] at same
      cases same
  · rcases again with same | ⟨m, same, less⟩
    · rw [reading] at same
      cases same
    · rw [reading] at same
      obtain ⟨rfl, body⟩ := ReadCall.reading.inj same
      -- Both reads would leave their own buffer behind if the channel were closed.
      rw [Chunker.read, Chunker.read, dif_pos short, dif_pos less] at body
      have failed := congrFun (Prog.ask.inj body).2 none
      simpa using failed

/-- No byte has been lost, doubled or moved between the channel and the results. -/
structure Lossless (seen : List IntakeEvent) (intake : Intake) : Prop where
  /-- What has been returned and what is buffered are the chunks received, end to end. -/
  bytes : ∃ chunker, intake.Holds chunker ∧
    returnedBytes seen ++ chunker.chunk = (received seen).flatten
  /-- The channel yields the chunks in the order in which they were sent. -/
  order : sent seen = received seen ++ intake.queue
  /-- No chunk that is still to be received is empty. -/
  nonempty : ∀ chunk ∈ intake.queue, chunk ≠ []

variable {seen out : List IntakeEvent} {intake next : Intake} {label : Label}

/-- A step changes the buffer by what it receives and returns. -/
theorem Step.bytes {chunker : Chunker} (holds : intake.Holds chunker)
    (step : Step intake label next out) :
    ∃ later, next.Holds later ∧
      returnedBytes out ++ later.chunk = chunker.chunk ++ (received out).flatten := by
  -- What is taken off the front of the buffer is what is returned.
  cases step with
  | sent | closed => exact ⟨chunker, holds, by simp [returnedBytes, received]⟩
  | @enough n held idle enough =>
    obtain rfl := holds.unique (.inl idle)
    refine ⟨_, .inl rfl, ?_⟩
    simp [returnedBytes, received, Chunker.returned]
  | @called n held idle short =>
    obtain rfl := holds.unique (.inl idle)
    exact ⟨chunker, .inr ⟨n, rfl, short⟩, by simp [returnedBytes, received]⟩
  | @failed n held reading short =>
    -- What has been absorbed by a read that fails stays buffered.
    obtain rfl := holds.unique (.inr ⟨n, reading, short⟩)
    exact ⟨chunker, .inl rfl, by simp [returnedBytes, received, Chunker.returned]⟩
  | @absorbed n held chunk queue reading short arrived still =>
    obtain rfl := holds.unique (.inr ⟨n, reading, short⟩)
    exact ⟨_, .inr ⟨n, rfl, still⟩, by simp [returnedBytes, received]⟩
  | @completed n held chunk queue reading short =>
    obtain rfl := holds.unique (.inr ⟨n, reading, short⟩)
    refine ⟨_, .inl rfl, ?_⟩
    rw [returnedBytes, List.filterMap_cons_none rfl]
    simp [received, Chunker.returned]

/-- A step moves the first chunk out of the channel, or puts one behind the others. -/
theorem Step.order (step : Step intake label next out) :
    intake.queue ++ Intake.sent out = received out ++ next.queue := by
  -- Only the two steps in which a chunk arrives shorten the channel.
  cases step with
  | sent | closed | enough | called | failed => simp [Intake.sent, received]
  | absorbed _ _ arrived | completed _ _ arrived =>
    simp [Intake.sent, received, arrived]

/-- Every step on chunks that are not empty keeps the bytes together. -/
theorem Lossless.step (lossless : Lossless seen intake) (filled : label ≠ .send [])
    (taken : intake.step label = some (next, out)) : Lossless (seen ++ out) next := by
  obtain ⟨chunker, holds, before⟩ := lossless.bytes
  have step := step_cases holds lossless.nonempty taken
  refine ⟨?_, ?_, ?_⟩
  · obtain ⟨later, held, moved⟩ := step.bytes holds
    refine ⟨later, held, ?_⟩
    -- The old equation and the one of the step are laid end to end.
    rw [returnedBytes_append, received_append, List.flatten_append, ← before, List.append_assoc,
      List.append_assoc, moved]
  · rw [sent_append, received_append, lossless.order, List.append_assoc, List.append_assoc,
      step.order]
  · cases step with
    | sent chunk =>
      intro other member
      rcases List.mem_append.mp member with earlier | last
      · exact lossless.nonempty other earlier
      · rw [List.mem_singleton.mp last]
        rintro rfl
        exact filled rfl
    | closed | enough | called | failed => exact lossless.nonempty
    | absorbed _ _ arrived | completed _ _ arrived =>
      exact fun other member => lossless.nonempty other (by simp [arrived, member])

/-- In every run on chunks that are not empty, no byte has been lost, doubled or moved. -/
theorem lossless {labels : List Label} (run : machine.Run labels seen intake)
    (filled : ∀ chunk, .send chunk ∈ labels → chunk ≠ []) : Lossless seen intake := by
  -- That no chunk is empty is a condition on the labels, whatever state they are taken in.
  have each : machine.EachStep (fun _ label => label ≠ .send []) labels := by
    refine .of_labels fun label member _ => ?_
    rintro rfl
    exact filled [] member rfl
  refine run.invariant_where each Lossless ?_ ?_
  · exact ⟨⟨Chunker.new, .inl rfl, rfl⟩, rfl, by simp [machine]⟩
  · intro labels seen state label next out _ filled lossless taken
    exact lossless.step filled taken

/-- What is observed of a step is faithful to the state it was taken in. -/
structure Faithful (prior : Intake) (out : List IntakeEvent) : Prop where
  /-- A read that succeeds returns as many bytes as it was asked for. -/
  length : ∀ n bytes, .returned n (.ok bytes) ∈ out → bytes.length = n
  /-- A read fails only for want of bytes, in the buffer and in a channel that is closed. -/
  fails : ∀ n error, .returned n (.error error) ∈ out →
    error = .recv ∧ prior.closed = true ∧
      ∃ chunker, prior.Holds chunker ∧ (chunker.unread prior.queue).length < n
  /-- A chunk is received only by a read that has too few bytes buffered. -/
  takes : ∀ chunk, .received chunk ∈ out →
    ∃ n chunker, prior.call = .reading n (Chunker.read n chunker) ∧ chunker.chunk.length < n

/-- Every step on chunks that are not empty is faithful. -/
theorem Step.faithful (step : Step intake label next out) : Faithful intake out := by
  cases step with
  | sent | closed | called => exact ⟨by simp, by simp, by simp⟩
  | @enough n chunker _ enough =>
    refine ⟨?_, by simp, by simp⟩
    intro m bytes member
    obtain ⟨rfl, rfl⟩ : m = n ∧ bytes = chunker.chunk.take n := by simpa using member
    exact List.length_take_of_le enough
  | @failed n chunker reading short empty closed =>
    refine ⟨by simp, ?_, by simp⟩
    intro m error member
    obtain ⟨rfl, rfl⟩ : m = n ∧ error = .recv := by simpa using member
    -- Nothing is left in the channel, and the buffer alone is too short.
    exact ⟨rfl, closed, chunker, .inr ⟨m, reading, short⟩, by simpa [Chunker.unread, empty]⟩
  | @absorbed n chunker _ _ reading short =>
    exact ⟨by simp, by simp, fun _ _ => ⟨n, chunker, reading, short⟩⟩
  | @completed n chunker chunk _ reading short _ enough =>
    refine ⟨?_, by simp, fun _ _ => ⟨n, chunker, reading, short⟩⟩
    intro m bytes member
    obtain ⟨rfl, rfl⟩ : m = n ∧ bytes = (chunker.chunk ++ chunk).take n := by simpa using member
    exact List.length_take_of_le enough

/-- The chunker is a lossless queue of bytes: at every moment of every run on chunks that are not
empty, what was returned and what is buffered make up what was received, and every read is
faithful. -/
theorem lossless_fifo {labels : List Label} (run : machine.Run labels seen intake)
    (filled : ∀ chunk, .send chunk ∈ labels → chunk ≠ []) :
    (∃ chunker, intake.Holds chunker) ∧
      (∀ chunker, intake.Holds chunker →
        returnedBytes seen ++ chunker.chunk = (received seen).flatten) ∧
      Intake.sent seen = received seen ++ intake.queue ∧
      machine.EachTurn (fun _ prior _ _ out => Faithful prior out) labels := by
  obtain ⟨held, holds, bytes⟩ := (lossless run filled).bytes
  refine ⟨⟨held, holds⟩, ?_, (lossless run filled).order, ?_⟩
  · intro chunker again
    rw [again.unique holds]
    exact bytes
  · intro before label after split earlier prior next out reached taken
    subst split
    have lossless := lossless reached fun chunk sent => filled chunk (List.mem_append_left _ sent)
    obtain ⟨chunker, holds, _⟩ := lossless.bytes
    exact (step_cases holds lossless.nonempty taken).faithful

/-- A read that takes two chunks leaves a byte behind, which a read that fails leaves there. -/
theorem lossless_fifo_two_chunks :
    ∃ seen intake, machine.Run
        [.send [1, 2], .read 3, .recv, .send [3, 4], .recv, .read 2, .close, .recv] seen intake ∧
      .returned 2 (.error .recv) ∈ seen ∧ intake.Holds { chunk := [4] } ∧
      returnedBytes seen ++ [4] = [[1, 2], [3, 4]].flatten := by
  have executed : ∃ seen intake, machine.exec machine.init
      [.send [1, 2], .read 3, .recv, .send [3, 4], .recv, .read 2, .close, .recv] =
        some (intake, seen) ∧
      .returned 2 (.error .recv) ∈ seen ∧ intake.call = .idle { chunk := [4] } ∧
      received seen = [[1, 2], [3, 4]] := by
    simp [Lts.exec, machine, step, settle_short, settle_enough, recv_arrived, recv_empty,
      Chunker.new, received]
  obtain ⟨seen, intake, executed, failed, idle, chunks⟩ := executed
  have run := Lts.Run.of_exec executed
  have bytes := (lossless_fifo run (by simp)).2.1 _ (.inl idle)
  rw [chunks] at bytes
  exact ⟨seen, intake, run, failed, .inl idle, bytes⟩

end Intake

end BleManaged
