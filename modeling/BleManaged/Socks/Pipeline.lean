import BleManaged.Socks.Fifo
import BleManaged.Socks.Parse

/-! The inbound pipeline uses its chunker as reads of a channel of chunks that are not empty. -/

namespace BleManaged

namespace Intake

variable {α : Type}

/-- A call that reads from the chunker is at one of its reads, or it is through with all of them. -/
inductive Carries : Receiving Bytes (α × Chunker) → ReadCall → Prop where
  | done (result : α) (chunker : Chunker) : Carries (.done (result, chunker)) (.idle chunker)
  | reading (n : Nat) (waits : Option Bytes → Receiving Bytes (Except ChunkerError Bytes × Chunker))
      (resume : Except ChunkerError Bytes → Prog Nat (Except ChunkerError Bytes) α) :
      Carries
        ((Prog.ask () waits).bind fun read => (resume read.1).through Chunker.read read.2)
        (.reading n (.ask () waits))

/-- By calling reads, and without a receive, the task comes to where a call is. -/
def Reaches (intake : Intake) (call : Receiving Bytes (α × Chunker)) : Prop :=
  ∃ labels seen next, machine.exec intake labels = some (next, seen) ∧ Carries call next.call ∧
    next.queue = intake.queue ∧ next.closed = intake.closed ∧ sent seen = [] ∧
    ∀ label ∈ labels, ∃ n, label = .read n

/-- A read that goes on without a receive leaves the channel alone. -/
theorem settle_channel (intake : Intake) (n : Nat)
    (rest : Receiving Bytes (Except ChunkerError Bytes × Chunker)) :
    (intake.settle n rest).1.queue = intake.queue ∧
      (intake.settle n rest).1.closed = intake.closed ∧ sent (intake.settle n rest).2 = [] := by
  -- Whether the read returns or waits, only the call changes.
  cases rest <;> exact ⟨rfl, rfl, rfl⟩

/-- A read that goes on comes to where the call behind it is. -/
theorem reaches_settle (intake : Intake) (n : Nat)
    (rest : Receiving Bytes (Except ChunkerError Bytes × Chunker))
    (resume : Except ChunkerError Bytes → Prog Nat (Except ChunkerError Bytes) α)
    (later : ∀ result (intake : Intake) chunker, intake.call = .idle chunker →
      intake.Reaches ((resume result).through Chunker.read chunker)) :
    (intake.settle n rest).1.Reaches
      (rest.bind fun read => (resume read.1).through Chunker.read read.2) := by
  cases rest with
  | done result =>
    -- The read returns at once, and what is behind it goes on.
    exact later result.1 _ result.2 rfl
  | ask question waits =>
    -- The read waits, and the call waits with it.
    exact ⟨[], [], _, rfl, .reading n waits resume, rfl, rfl, rfl, by simp⟩

/-- A program of reads comes to its first receive, or to its end. -/
theorem reaches_through (program : Prog Nat (Except ChunkerError Bytes) α) (intake : Intake)
    (chunker : Chunker) (idle : intake.call = .idle chunker) :
    intake.Reaches (program.through Chunker.read chunker) := by
  -- The induction is on the reads that the program still makes.
  induction program generalizing intake chunker with
  | done value =>
    refine ⟨[], [], intake, rfl, ?_, rfl, rfl, rfl, by simp⟩
    -- No read is left, and the chunker is as the last one left it.
    rw [idle]
    exact .done value chunker
  | ask n resume ih =>
    obtain ⟨labels, seen, next, executed, carries, queue, closed, unsent, reads⟩ :=
      reaches_settle intake n (chunker.read n) resume ih
    obtain ⟨sameQueue, sameClosed, nothing⟩ := settle_channel intake n (chunker.read n)
    have called : machine.step intake (.read n) =
        some (intake.settle n (chunker.read n)) := by simp [machine, step, idle]
    refine ⟨.read n :: labels, (intake.settle n (chunker.read n)).2 ++ seen, next, ?_, carries,
      queue.trans sameQueue, closed.trans sameClosed, ?_, ?_⟩
    · simp only [Lts.exec, called, executed, Option.map_some]
    · rw [sent_append, nothing, unsent, List.append_nil]
    · simpa using reads

/-- A call that waits for the channel goes on with whatever it is answered. -/
theorem Carries.answered {resume : Option Bytes → Receiving Bytes (α × Chunker)} {call : ReadCall}
    (carries : Carries (.ask () resume) call) :
    ∃ n waits, call = .reading n (.ask () waits) ∧
      ∀ answer (intake : Intake), (intake.settle n (waits answer)).1.Reaches (resume answer) := by
  -- A call that is through does not wait, so the call is at a read, and the read is what waits.
  generalize whole : Prog.ask () resume = program at carries
  cases carries with
  | done result chunker => cases whole
  | reading n waits further =>
    obtain ⟨_, rfl⟩ := Prog.ask.inj whole
    refine ⟨n, waits, rfl, fun answer intake => ?_⟩
    exact reaches_settle intake n (waits answer) further fun result => reaches_through _

/-- A call that has returned leaves no read behind. -/
theorem Carries.returned {result : α} {chunker : Chunker} {call : ReadCall}
    (carries : Carries (.done (result, chunker)) call) : call = .idle chunker := by
  generalize whole : Prog.done (result, chunker) = program at carries
  cases carries with
  | done => cases whole; rfl
  | reading => cases whole

end Intake

namespace Inbound

open Intake (Carries Reaches)

/-- What the task of `pipe_out_tcp` has of the channel and the chunker. -/
structure Feeds (inbound : Inbound) (intake : Intake) : Prop where
  queue : intake.queue = inbound.l2capToTcp
  /-- The sender is dropped with the task of `pipe_in_l2cap`. -/
  closed : intake.closed = true ↔ inbound.mux.pipeInL2cap ≠ .running
  call : Carries inbound.call intake.call

/-- A run of the chunker on its channel that the pipeline has made: no chunk was empty, and while
the receiver lives all that was read from the L2CAP stream has been sent. -/
structure Fed (seen : List InboundEvent) (inbound : Inbound) (labels : List Intake.Label)
    (shown : List IntakeEvent) (intake : Intake) : Prop where
  run : Intake.machine.Run labels shown intake
  filled : ∀ chunk, .send chunk ∈ labels → chunk ≠ []
  sent : inbound.ReceiverAlive → (Intake.sent shown).flatten = received seen

/-- The pipeline has used its chunker as a run of reads. -/
def Uses (seen : List InboundEvent) (inbound : Inbound) : Prop :=
  ∃ labels shown intake, Fed seen inbound labels shown intake ∧ inbound.Feeds intake

variable {seen : List InboundEvent} {inbound next : Inbound} {label : Label}
  {out : List InboundEvent} {labels : List Intake.Label} {shown : List IntakeEvent}
  {intake : Intake}

/-- What the task of the chunker comes to by reads alone extends a run. -/
theorem Fed.reaches (fed : Fed seen inbound labels shown intake)
    (queue : intake.queue = inbound.l2capToTcp)
    (closed : intake.closed = true ↔ inbound.mux.pipeInL2cap ≠ .running)
    (reaches : intake.Reaches inbound.call) : Uses seen inbound := by
  obtain ⟨more, events, last, executed, carries, sameQueue, sameClosed, unsent, reads⟩ := reaches
  refine ⟨labels ++ more, shown ++ events, last, ⟨fed.run.extend executed, ?_, ?_⟩,
    ⟨sameQueue.trans queue, by rw [sameClosed, closed], carries⟩⟩
  · -- A read sends nothing.
    intro chunk member
    rcases List.mem_append.mp member with earlier | reading
    · exact fed.filled chunk earlier
    · obtain ⟨n, same⟩ := reads _ reading
      cases same
  · rw [Intake.sent_append, unsent, List.append_nil]
    exact fed.sent

/-- A read that waits is answered, and the call goes on to its next receive or to its end. -/
theorem Fed.answered (fed : Fed seen inbound labels shown intake) (feeds : inbound.Feeds intake)
    (queue : List Bytes) (events : List IntakeEvent) (unsent : Intake.sent events = [])
    {n : Nat} {rest : Receiving Bytes (Except ChunkerError Bytes × Chunker)}
    (taken : Intake.machine.step intake .recv =
      some (({ intake with queue }.settle n rest).1,
        events ++ ({ intake with queue }.settle n rest).2))
    {call : Receiving Bytes (Except DeserializeError Packet × Chunker)}
    (goes : ({ intake with queue }.settle n rest).1.Reaches call) :
    Uses seen { inbound with l2capToTcp := queue, call } := by
  -- The receive comes first, and then the reads that the call makes without another one.
  obtain ⟨sameQueue, sameClosed, nothing⟩ := Intake.settle_channel { intake with queue } n rest
  have received : Fed seen { inbound with l2capToTcp := queue, call } (labels ++ [.recv])
      (shown ++ (events ++ ({ intake with queue }.settle n rest).2))
      ({ intake with queue }.settle n rest).1 := by
    refine ⟨fed.run.snoc taken, by simpa using fed.filled, ?_⟩
    rw [Intake.sent_append, Intake.sent_append, unsent, nothing, List.append_nil, List.append_nil]
    exact fed.sent
  refine received.reaches sameQueue ?_ goes
  rw [sameClosed]
  exact feeds.closed

/-- A step of the multiplexer feeds nothing, and the end of `pipe_in_l2cap` closes the channel. -/
theorem Uses.mux (uses : Uses seen inbound) {mux : Mux} {out : List Event}
    (stays : mux.pipeInL2cap = .running → inbound.mux.pipeInL2cap = .running)
    (lives : ReceiverAlive { inbound with mux } → inbound.ReceiverAlive) :
    Uses (seen ++ out.map .mux) { inbound with mux } := by
  obtain ⟨labels, shown, intake, fed, feeds⟩ := uses
  by_cases running : mux.pipeInL2cap = .running
  · -- The sender is still there, and the chunker sees nothing of the step.
    refine ⟨labels, shown, intake, ⟨fed.run, fed.filled, fun alive => ?_⟩,
      ⟨feeds.queue, ?_, feeds.call⟩⟩
    · simpa using fed.sent (lives alive)
    · rw [feeds.closed]
      simp [running, stays running]
  · -- The sender is gone, now or before, and the chunker's channel is closed with it.
    refine ⟨labels ++ [.close], shown ++ [], { intake with closed := true },
      ⟨fed.run.snoc rfl, by simpa using fed.filled, fun alive => ?_⟩,
      ⟨feeds.queue, by simp [running], feeds.call⟩⟩
    simpa using fed.sent (lives alive)

/-- The receiver lived before whatever `pipe_out_tcp` passes through. -/
theorem alive_of_passes {task after : PipeOutTcp} {more : List Obtained}
    (passes : Mux.Passes task after more) (alive : after ≠ .ended ∧ after ≠ .aborted) :
    task ≠ .ended ∧ task ≠ .aborted := by
  -- What ends the task leaves it ended or aborted, and so does whatever comes after.
  cases passes with
  | same => exact alive
  | wrote => simp
  | signalled => simp at alive
  | aborted => cases task <;> simp [PipeOutTcp.abort] at alive

/-- Every step of the pipeline is some steps of the chunker on its channel. -/
theorem Step.uses (step : Step inbound label next out) (uses : Uses seen inbound) :
    Uses (seen ++ out) next := by
  cases step with
  | @read chunk running positive alive =>
    obtain ⟨labels, shown, intake, fed, feeds⟩ := uses
    -- While `pipe_in_l2cap` runs its sender is there.
    have opened : intake.closed = false := by
      simpa [running] using feeds.closed
    have taken : Intake.machine.step intake (.send chunk) =
        some ({ intake with queue := intake.queue ++ [chunk] }, [.sent chunk]) := by
      simp [Intake.machine, Intake.step, opened]
    refine ⟨_, _, _, ⟨fed.run.snoc taken, ?_, fun _ => ?_⟩,
      ⟨by rw [feeds.queue], feeds.closed, feeds.call⟩⟩
    · -- The chunk that was read has at least one byte.
      intro other member
      rcases List.mem_append.mp member with earlier | last
      · exact fed.filled other earlier
      · cases List.mem_singleton.mp last
        exact positive
    · rw [Intake.sent_append, List.flatten_append, fed.sent alive, received_append]
      simp [Intake.sent, received]
  | dropped _ _ gone =>
    -- The receiver is gone, and nothing is promised any more.
    obtain ⟨labels, shown, intake, fed, feeds⟩ := uses
    exact ⟨labels, shown, intake, ⟨fed.run, fed.filled, fun alive => absurd alive gone⟩, feeds⟩
  | closed running taken =>
    have passes := (Mux.step_cases taken).passes (by simp)
    exact uses.mux passes.2 (alive_of_passes passes.1)
  | @recv resume chunk queue turn call arrived =>
    obtain ⟨labels, shown, intake, fed, feeds⟩ := uses
    obtain ⟨n, waits, reading, goes⟩ := (call ▸ feeds.call).answered
    -- The read that waits takes the chunk that the call takes.
    rw [List.append_nil]
    refine fed.answered feeds queue [.received chunk] rfl ?_ (goes (some chunk) _)
    simp [Intake.machine, Intake.step, Intake.recv, reading, feeds.queue, arrived]
  | @recvClosed resume turn call empty closed =>
    obtain ⟨labels, shown, intake, fed, feeds⟩ := uses
    obtain ⟨n, waits, reading, goes⟩ := (call ▸ feeds.call).answered
    -- The channel is empty and closed for both, and the read fails.
    have same : { intake with queue := inbound.l2capToTcp } = intake := by rw [← feeds.queue]
    rw [List.append_nil]
    refine fed.answered feeds inbound.l2capToTcp [] rfl ?_ (goes none _)
    rw [same]
    simp [Intake.machine, Intake.step, Intake.recv, reading, feeds.queue, empty,
      feeds.closed.mpr closed]
  | @returned result chunker mux out call taken =>
    obtain ⟨labels, shown, intake, fed, feeds⟩ := uses
    -- The call has made all its reads, and the next call starts with the chunker it leaves.
    have idle := (call ▸ feeds.call).returned
    have kept : mux.pipeInL2cap = inbound.mux.pipeInL2cap := by
      cases Mux.step_cases taken <;> rfl
    have turn : inbound.mux.pipeOutTcp = .deserializing := by
      cases Mux.step_cases taken <;> assumption
    have again : Fed (seen ++ out.map .mux)
        { inbound with mux, call := Packet.deserialize chunker } labels shown intake := by
      refine ⟨fed.run, fed.filled, fun _ => ?_⟩
      rw [received_append, received_mux, List.append_nil]
      exact fed.sent (by simp [ReceiverAlive, turn])
    refine again.reaches feeds.queue ?_ (Intake.reaches_through _ intake chunker idle)
    rw [kept]
    exact feeds.closed
  | mux other taken =>
    have passes := (Mux.step_cases taken).passes other
    exact uses.mux passes.2 (alive_of_passes passes.1)

/-- In every reachable state the pipeline has used its chunker as a run of reads on a channel of
chunks that are not empty. -/
theorem uses {labels : List Label} (run : machine.Run labels seen inbound) : Uses seen inbound := by
  refine run.invariant Uses ?_ ?_
  · -- The first call of `Packet::deserialize` starts with a read.
    have start : Fed [] machine.init [] [] Intake.machine.init := ⟨.start, by simp, fun _ => rfl⟩
    exact start.reaches rfl (by simp [Intake.machine, machine, Mux.createAndStart])
      (Intake.reaches_through _ _ _ rfl)
  · intro labels seen inbound label next out _ uses taken
    exact (step_cases taken).uses uses

/-- Every run of the pipeline is a run of reads on a channel of chunks that are not empty. In it
what the chunker has returned, what it has buffered and what is in its channel are what has been
sent, which is all that was read from the L2CAP stream while the receiver lives. -/
theorem pipeline_lossless {labels : List Label} (run : machine.Run labels seen inbound) :
    ∃ reads shown intake chunker, Intake.machine.Run reads shown intake ∧
      (∀ chunk, .send chunk ∈ reads → chunk ≠ []) ∧ inbound.Feeds intake ∧
        intake.Holds chunker ∧
          Intake.returnedBytes shown ++ chunker.chunk ++ inbound.l2capToTcp.flatten =
            (Intake.sent shown).flatten ∧
              (inbound.ReceiverAlive → (Intake.sent shown).flatten = received seen) := by
  obtain ⟨reads, shown, intake, fed, feeds⟩ := uses run
  have lossless := Intake.lossless fed.run fed.filled
  obtain ⟨chunker, holds, bytes⟩ := lossless.bytes
  refine ⟨reads, shown, intake, chunker, fed.run, fed.filled, feeds, holds, ?_, fed.sent⟩
  rw [bytes, ← feeds.queue, ← List.flatten_append, ← lossless.order]

/-- A packet is begun in one chunk, and the next chunk waits in the channel. -/
theorem pipeline_lossless_second_chunk :
    ∃ seen inbound, machine.Run [.pipeInL2cap (.ok [1, 0, 0]), .recv, .pipeInL2cap (.ok [0])]
        seen inbound ∧
      ∃ reads shown intake chunker, Intake.machine.Run reads shown intake ∧
        inbound.Feeds intake ∧ intake.Holds chunker ∧
          Intake.returnedBytes shown ++ chunker.chunk ++ [0] = [1, 0, 0, 0] := by
  have reached : (machine.exec machine.init
      [.pipeInL2cap (.ok [1, 0, 0]), .recv, .pipeInL2cap (.ok [0])]).map
        (fun result => (received result.2, result.1.l2capToTcp, decide result.1.ReceiverAlive)) =
      some ([1, 0, 0, 0], [[0]], true) := by decide +kernel
  obtain ⟨⟨inbound, seen⟩, executed, facts⟩ := Option.map_eq_some_iff.mp reached
  simp only [Prod.mk.injEq, decide_eq_true_eq] at facts
  obtain ⟨all, queue, alive⟩ := facts
  have run := Lts.Run.of_exec executed
  obtain ⟨reads, shown, intake, chunker, reading, _, feeds, holds, bytes, sent⟩ :=
    pipeline_lossless run
  refine ⟨seen, inbound, run, reads, shown, intake, chunker, reading, feeds, holds, ?_⟩
  rw [sent alive, all, queue] at bytes
  exact bytes

end Inbound

end BleManaged
