import BleManaged.Socks.MuxInvariant
import Mathlib.Data.List.Infix

/-! Which of the bytes dispatched to a TCP stream its writer has accepted. -/

namespace BleManaged

namespace Mux

/-- The payload of a data packet that is dispatched while a stream is registered. -/
def arrival (stream : StreamId) : Event → Option Bytes
  -- The packet counts for the stream that is registered for its port when it is dispatched.
  | .dispatched (.data _ data) (some registered) => if registered = stream then some data else none
  | _ => none

/-- The payloads dispatched while a stream was registered, in arrival order. -/
def arrived (stream : StreamId) (seen : List Event) : List Bytes :=
  seen.filterMap (arrival stream)

/-- The write of a stream that has been answered. -/
def answer (stream : StreamId) : Event → Option (Bytes × WriteAnswer)
  | .answered writer data answer => if writer = stream then some (data, answer) else none
  | _ => none

/-- The answers of a stream to its writes, with the buffers it was offered. -/
def answers (stream : StreamId) (seen : List Event) : List (Bytes × WriteAnswer) :=
  seen.filterMap (answer stream)

/-- The bytes a stream has accepted. -/
def accepted (stream : StreamId) (seen : List Event) : Bytes :=
  (answers stream seen).flatMap fun entry => entry.2.accepted entry.1

/-- Payloads are listed in the order of their packets. -/
@[simp] theorem arrived_append (stream : StreamId) (seen more : List Event) :
    arrived stream (seen ++ more) = arrived stream seen ++ arrived stream more :=
  List.filterMap_append

/-- Answers are listed in the order of their writes. -/
@[simp] theorem answers_append (stream : StreamId) (seen more : List Event) :
    answers stream (seen ++ more) = answers stream seen ++ answers stream more :=
  List.filterMap_append

/-- A stream accepts nothing more once it has accepted less than a whole buffer. -/
def Gapless (log : List (Bytes × WriteAnswer)) : Prop :=
  -- A failed write accepts nothing of its buffer, which is never empty.
  log.Pairwise fun earlier later =>
    earlier.2.accepted earlier.1 = earlier.1 ∨ later.2.accepted later.1 = []

/-- A write accepts the first bytes of its buffer. -/
theorem accepted_isPrefix (data : Bytes) (answer : WriteAnswer) :
    answer.accepted data <+: data := by
  -- A failed write accepts no bytes.
  cases answer with
  | ok count => exact List.take_prefix count data
  | error => exact List.nil_prefix

/-- Without a gap the accepted bytes are a prefix of the buffers laid end to end. -/
theorem Gapless.isPrefix {log : List (Bytes × WriteAnswer)} (gapless : Gapless log) :
    (log.flatMap fun entry => entry.2.accepted entry.1) <+: log.flatMap Prod.fst := by
  -- Either the first buffer was accepted whole, or nothing behind it was accepted.
  induction log with
  | nil => exact List.prefix_rfl
  | cons first log ih =>
    obtain ⟨ahead, behind⟩ := List.pairwise_cons.mp gapless
    rw [List.flatMap_cons, List.flatMap_cons]
    by_cases whole : first.2.accepted first.1 = first.1
    · rw [whole]
      exact (List.prefix_append_right_inj _).mpr (ih behind)
    · have nothing : (log.flatMap fun entry => entry.2.accepted entry.1) = [] := by
        rw [List.flatMap_eq_nil_iff]
        exact fun later member => (ahead later member).resolve_left whole
      rw [nothing, List.append_nil]
      exact (accepted_isPrefix _ _).trans (List.prefix_append _ _)

/-- The buffer that `pipe_out_tcp` is writing to a stream. -/
def pending (stream : StreamId) : PipeOutTcp → Bytes
  | .writing _ writer data => if writer = stream then data else []
  | _ => []

/-- Everything that arrived has been answered, but for the buffer being written. -/
def Delivering (stream : StreamId) (seen : List Event) (mux : Mux) : Prop :=
  -- Once the task has been aborted, the rest is what it was writing then.
  ∃ rest, (arrived stream seen).flatten = (answers stream seen).flatMap Prod.fst ++ rest ∧
    (mux.pipeOutTcp ≠ .aborted → rest = pending stream mux.pipeOutTcp)

/-- A step that neither dispatches to a stream nor answers it changes nothing for it. -/
theorem Delivering.silent {stream : StreamId} {seen out : List Event} {mux next : Mux}
    (delivering : Delivering stream seen mux) (nothing : arrived stream out = [])
    (none : answers stream out = [])
    (kept : next.pipeOutTcp ≠ .aborted →
      mux.pipeOutTcp ≠ .aborted ∧
        pending stream next.pipeOutTcp = pending stream mux.pipeOutTcp) :
    Delivering stream (seen ++ out) next := by
  -- The rest stays the same, because the buffer being written does.
  obtain ⟨rest, split, current⟩ := delivering
  refine ⟨rest, by simpa [nothing, none] using split, fun alive => ?_⟩
  rw [(kept alive).2]
  exact current (kept alive).1

/-- Stopping drops the buffer being written, or leaves it where it is. -/
theorem stop_pending (stream : StreamId) (mux : Mux) (alive : mux.stop.pipeOutTcp ≠ .aborted) :
    mux.pipeOutTcp ≠ .aborted ∧
      pending stream mux.stop.pipeOutTcp = pending stream mux.pipeOutTcp := by
  by_cases stopped : mux.stopped = true
  · rw [stop_of_stopped stopped] at alive ⊢
    exact ⟨alive, rfl⟩
  · rw [stop_pipeOutTcp (by simpa using stopped)] at alive ⊢
    split at alive
    · -- Only a task that has ended survives the abort, and it has no buffer.
      cases task : mux.pipeOutTcp <;> simp_all [PipeOutTcp.abort, pending]
    · exact ⟨alive, by simp [*]⟩

/-- Every step keeps account of what arrived for a stream. -/
theorem Delivering.step {stream : StreamId} {seen out : List Event} {mux next : Mux}
    {label : Label} (delivering : Delivering stream seen mux) (step : Step mux label next out) :
    Delivering stream (seen ++ out) next := by
  cases step with
  | @offered port writer data turn =>
    -- The new buffer is the only one that has arrived and has not been answered.
    obtain ⟨rest, split, current⟩ := delivering
    obtain rfl : rest = [] := by simpa [turn, pending] using current
    refine ⟨pending stream (.writing port writer.writer data), ?_, fun _ => rfl⟩
    rw [List.append_nil] at split
    rw [arrived_append, answers_append, List.flatten_append, List.flatMap_append, split]
    by_cases mine : writer.writer = stream
    · simp [arrived, arrival, answers, answer, pending, mine, List.filterMap_cons]
    · simp [arrived, arrival, answers, answer, pending, mine, List.filterMap_cons]
  | @wroteTcp port writer data result turn =>
    -- The buffer that was being written is now answered.
    obtain ⟨rest, split, current⟩ := delivering
    obtain rfl : rest = pending stream (.writing port writer data) := by
      simpa [turn] using current
    refine ⟨[], ?_, fun _ => rfl⟩
    rw [arrived_append, answers_append, List.flatten_append, List.flatMap_append, split]
    by_cases mine : writer = stream
    · simp [arrived, arrival, answers, answer, pending, mine, List.filterMap_cons]
    · simp [arrived, arrival, answers, answer, pending, mine, List.filterMap_cons]
  | skipped turn unserved =>
    -- Only an empty payload can have arrived, and it adds no bytes.
    obtain ⟨rest, split, current⟩ := delivering
    refine ⟨rest, ?_, current⟩
    cases unserved with
    | emptyPacket =>
      rw [arrived_append, answers_append, List.flatten_append, List.flatMap_append, split]
      cases mux.addressee (.data _ []) with
      | none => simp [arrived, arrival, answers, answer, List.filterMap_cons]
      | some writer =>
        by_cases mine : writer = stream
        · simp [arrived, arrival, answers, answer, mine, List.filterMap_cons]
        · simp [arrived, arrival, answers, answer, mine, List.filterMap_cons]
    | keepalive | unknownMsgType | openRequest | unknownStatus =>
      simpa [arrived, arrival, answers, answer, List.filterMap_cons] using split
  | read | readerEnded =>
    exact delivering.silent (reader_unseen rfl rfl rfl _) (reader_unseen rfl rfl rfl _)
      (by simp [closeReader])
  | sendKeepalive =>
    exact delivering.silent (enqueue_unseen rfl rfl _) (enqueue_unseen rfl rfl _) (by simp)
  | pipeInTcp =>
    exact delivering.silent (l2cap_unseen (fun _ => rfl) _) (l2cap_unseen (fun _ => rfl) _)
      fun alive => ⟨alive, rfl⟩
  | stopRequested | drop => exact delivering.silent rfl rfl (stop_pending stream _)
  | undecoded turn | sendStop turn => exact delivering.silent rfl rfl (by simp [turn, pending])
  | refused | unsent | added | l2capClosed | unknownData | unknownClosed | closed =>
    exact delivering.silent rfl rfl fun alive => ⟨alive, rfl⟩

/-- In every reachable state all that arrived is accounted for. -/
theorem delivering {labels : List Label} {seen : List Event} {mux : Mux}
    (run : machine.Run labels seen mux) (stream : StreamId) : Delivering stream seen mux := by
  -- Nothing has arrived at the start.
  refine run.invariant (Delivering stream) ⟨[], rfl, fun _ => rfl⟩ ?_
  intro labels seen state label next out _ delivering taken
  exact delivering.step (step_cases taken)

/-- A stream accepts a prefix of what arrived for it, if no write follows one it cut short. -/
theorem accepted_prefix_arrived {labels : List Label} {seen : List Event} {mux : Mux}
    (run : machine.Run labels seen mux) {stream : StreamId}
    (gapless : Gapless (answers stream seen)) :
    accepted stream seen <+: (arrived stream seen).flatten := by
  -- What was accepted is a prefix of what was offered, which is a prefix of what arrived.
  obtain ⟨rest, split, _⟩ := delivering run stream
  exact gapless.isPrefix.trans ⟨rest, split.symm⟩

/-- Two whole writes and a short one leave a prefix when nothing follows them. -/
theorem accepted_prefix_arrived_last_short :
    ∃ seen mux, machine.Run
        [.addTcpStream, .deserialized (.ok (.data 1 [1, 2])), .wroteTcp (.ok 2),
          .deserialized (.ok (.data 1 [3, 4])), .wroteTcp (.ok 1)] seen mux ∧
      accepted 0 seen = [1, 2, 3] ∧ accepted 0 seen <+: (arrived 0 seen).flatten := by
  obtain ⟨seen, mux, run, shown, gapless⟩ : ∃ seen mux, machine.Run
      [.addTcpStream, .deserialized (.ok (.data 1 [1, 2])), .wroteTcp (.ok 2),
        .deserialized (.ok (.data 1 [3, 4])), .wroteTcp (.ok 1)] seen mux ∧
      accepted 0 seen = [1, 2, 3] ∧ Gapless (answers 0 seen) :=
    ⟨_, _, Lts.Run.of_exec rfl, rfl, by unfold Gapless; decide⟩
  exact ⟨seen, mux, run, shown, accepted_prefix_arrived run gapless⟩

/-- A short write followed by another write leaves a hole in the bytes accepted. -/
theorem accepted_after_short_write :
    ¬∀ labels seen mux, machine.Run labels seen mux →
      ∀ stream, accepted stream seen <+: (arrived stream seen).flatten := by
  -- The second byte of the first packet is lost, and the second packet is accepted.
  intro always
  have kept := always
    [.addTcpStream, .deserialized (.ok (.data 1 [1, 2])), .wroteTcp (.ok 1),
      .deserialized (.ok (.data 1 [3])), .wroteTcp (.ok 1)] _ _ (Lts.Run.of_exec rfl) 0
  exact absurd kept (by decide)

end Mux

end BleManaged
