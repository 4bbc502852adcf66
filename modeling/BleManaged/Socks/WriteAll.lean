import BleManaged.Socks.RoundTrip
import BleManaged.Socks.TcpToL2cap
import Mathlib.Data.List.Infix

/-! What reaches the L2CAP stream of the packets taken from the queue. -/

namespace BleManaged

namespace TcpToL2cap

open Packet (wireBytes)

/-- The bytes written while no write has failed: whole packets, and a part of the current one. -/
inductive Progress : PipeInTcp → List Packet → Bytes → Prop where
  /-- Every packet that was taken has been written whole. -/
  | between {sent} : Progress .receiving sent (sent.flatMap wireBytes)
  /-- The last packet that was taken has been written in part. -/
  | inside {sent packet part rest} (split : packet.wireBytes = part ++ rest)
      (missing : rest ≠ []) :
      Progress (.writing rest) (sent ++ [packet]) (sent.flatMap wireBytes ++ part)
  /-- The task was aborted at one of these points. -/
  | aborted {task sent bytes} (before : Progress task sent bytes) : Progress .aborted sent bytes

/-- A `write_all` that has written a part of its packet continues with the rest of it. -/
theorem Progress.writeAll {sent : List Packet} {packet : Packet} {part rest : Bytes}
    (split : packet.wireBytes = part ++ rest) :
    Progress (writeAll rest) (sent ++ [packet]) (sent.flatMap wireBytes ++ part) := by
  -- With nothing left of it, the packet counts as one of those written whole.
  by_cases finished : rest = []
  · subst finished
    have whole : sent.flatMap wireBytes ++ part = (sent ++ [packet]).flatMap wireBytes := by
      simp [split]
    rw [TcpToL2cap.writeAll, if_pos rfl, whole]
    exact .between
  · rw [TcpToL2cap.writeAll, if_neg finished]
    exact .inside split finished

/-- A turn that is not a failure goes on with the packets taken so far. -/
theorem Progress.turn {channel next : TcpToL2cap} {turn : Turn} {out : List OutboundEvent}
    {sent : List Packet} {bytes : Bytes} (progress : Progress channel.task sent bytes)
    (turned : Turned channel turn next out) (succeeds : turn ≠ .fail) :
    Progress next.task (sent ++ taken out) (bytes ++ wrote out) := by
  -- Only a turn that receives a packet starts a new one, and then the last one is complete.
  cases turned with
  | @recv packet queue serialization serialized =>
    obtain ⟨⟩ := progress
    have all : packet.wireBytes = [] ++ serialization := by simp [Packet.wireBytes, serialized]
    exact .writeAll all
  | @drop packet queue error failed =>
    obtain ⟨⟩ := progress
    -- A packet that cannot be serialized is as good as written, since it has no bytes.
    have nothing : packet.wireBytes = [] ++ [] := by simp [Packet.wireBytes, failed]
    exact .writeAll nothing
  | @accept queue rest count positive bounded =>
    obtain ⟨⟩ | @⟨done, packet, part, _, split, _⟩ := progress
    -- The accepted bytes move from what is left to what is written.
    have later : packet.wireBytes = (part ++ rest.take count) ++ rest.drop count := by
      rw [split, List.append_assoc, List.take_append_drop]
    simpa [taken, wrote] using Progress.writeAll later
  | fail => exact absurd rfl succeeds

/-- A step that is not a failed write goes on with the packets taken so far. -/
theorem Progress.step {channel next : TcpToL2cap} {label : Label} {out : List OutboundEvent}
    {sent : List Packet} {bytes : Bytes} (progress : Progress channel.task sent bytes)
    (step : channel.step label = some (next, out)) (succeeds : label ≠ .turn .fail) :
    Progress next.task (sent ++ taken out) (bytes ++ wrote out) := by
  cases label with
  | send packet =>
    -- A send changes the queue only.
    obtain ⟨sending, accepted, same⟩ := Option.map_eq_some_iff.mp step
    obtain ⟨_, rfl⟩ := send_eq_some accepted
    cases same
    show Progress channel.task (sent ++ []) (bytes ++ [])
    rwa [List.append_nil, List.append_nil]
  | turn turn =>
    refine progress.turn (turn_cases step) ?_
    intro failed
    exact succeeds (by rw [failed])
  | abort =>
    cases step
    show Progress .aborted (sent ++ []) (bytes ++ [])
    rw [List.append_nil, List.append_nil]
    exact .aborted progress

/-- As long as no write fails, the stream has whole packets and a part of the current one. -/
theorem progress {labels : List Label} {seen : List OutboundEvent} {channel : TcpToL2cap}
    (run : machine.Run labels seen channel) (succeed : .turn .fail ∉ labels) :
    Progress channel.task (taken seen) (wrote seen) := by
  -- No label of the run is a failed write, so every step goes on.
  have succeeds : machine.EachStep (fun _ label => label ≠ .turn .fail) labels := by
    refine .of_labels ?_
    intro label member _ failed
    exact succeed (failed ▸ member)
  refine run.invariant_where succeeds (fun seen channel =>
    Progress channel.task (taken seen) (wrote seen)) .between ?_
  intro labels seen channel label next out _ passes before taken
  rw [taken_append, wrote_append]
  exact before.step taken passes

/-- The stream has whole packets, and a strict part of the one that comes next, if any. -/
theorem Progress.split {task : PipeInTcp} {all : List Packet} {bytes : Bytes}
    (progress : Progress task all bytes) :
    ∃ sent part, bytes = sent.flatMap wireBytes ++ part ∧ sent <+: all ∧
      (part = [] ∨ ∃ packet rest, sent ++ [packet] <+: all ∧
        packet.wireBytes = part ++ rest ∧ rest ≠ []) ∧
      (task = .receiving → sent = all ∧ part = []) := by
  -- An abort does not change what has been written.
  induction progress with
  | @between sent => exact ⟨sent, [], by simp, List.prefix_rfl, .inl rfl, fun _ => ⟨rfl, rfl⟩⟩
  | @inside sent packet part rest split missing =>
    exact ⟨sent, part, rfl, List.prefix_append _ _,
      .inr ⟨packet, rest, List.prefix_rfl, split, missing⟩, by simp⟩
  | aborted _ ih =>
    obtain ⟨sent, part, whole, first, more, _⟩ := ih
    exact ⟨sent, part, whole, first, more, by simp⟩

/-- Packets are taken from the queue in the order in which they were put there. -/
theorem queued_eq {labels : List Label} {seen : List OutboundEvent} {channel : TcpToL2cap}
    (run : machine.Run labels seen channel) : queued seen = taken seen ++ channel.queue := by
  -- A send adds to the end of the queue, and a turn takes from its front.
  refine run.invariant (fun seen channel => queued seen = taken seen ++ channel.queue) rfl ?_
  intro labels seen channel label next out _ before step
  rw [queued_append, taken_append, before]
  cases label with
  | send packet =>
    obtain ⟨sent, accepted, same⟩ := Option.map_eq_some_iff.mp step
    obtain ⟨_, rfl⟩ := send_eq_some accepted
    cases same
    simp [queued, taken]
  | turn turn =>
    cases turn_cases step with
    | recv | drop => simp [queued, taken]
    | accept | fail => simp [queued, taken]
  | abort =>
    cases step
    simp [queued, taken, TcpToL2cap.abort]

/-- Whole packets and a part of one are a prefix of the packets laid end to end. -/
theorem Progress.isPrefix {task : PipeInTcp} {sent : List Packet} {bytes : Bytes}
    (progress : Progress task sent bytes) : bytes <+: sent.flatMap wireBytes := by
  -- What is missing is the rest of the packet being written, if there is one.
  induction progress with
  | between => exact List.prefix_rfl
  | @inside sent packet part rest split _ => exact ⟨rest, by simp [split]⟩
  | aborted _ ih => exact ih

/-- After a failed write the L2CAP stream accepts nothing more. -/
def SilentAfterFailure (labels : List Label) : Prop :=
  -- Packets may still be taken, and their writes may fail at once.
  labels.Pairwise fun earlier later =>
    earlier = .turn .fail → ∀ count, later ≠ .turn (.accept count)

/-- A step by which the L2CAP stream accepts nothing leaves the bytes on it as they are. -/
theorem wrote_silent {channel next : TcpToL2cap} {label : Label} {out : List OutboundEvent}
    (step : channel.step label = some (next, out))
    (silent : ∀ count, label ≠ .turn (.accept count)) :
    wrote out = [] := by
  -- The other labels and turns show no bytes at all.
  cases label with
  | send packet =>
    obtain ⟨sent, _, same⟩ := Option.map_eq_some_iff.mp step
    cases same
    rfl
  | turn turn =>
    cases turn_cases step with
    | accept positive bounded => exact absurd rfl (silent _)
    | recv | drop | fail => rfl
  | abort =>
    cases step
    rfl

/-- The bytes on the L2CAP stream follow the packets taken, if none is accepted after a failure. -/
theorem wrote_prefix_taken {labels : List Label} {seen : List OutboundEvent}
    {channel : TcpToL2cap} (run : machine.Run labels seen channel)
    (silent : SilentAfterFailure labels) : wrote seen <+: (taken seen).flatMap wireBytes := by
  -- Without a failure the task is in the middle of its last packet; after one nothing is added.
  induction run with
  | start => exact List.prefix_rfl
  | @snoc labels seen channel label out next before step ih =>
    obtain ⟨earlier, _, across⟩ := List.pairwise_append.mp silent
    by_cases accepts : ∃ count, label = .turn (.accept count)
    · -- Bytes are accepted now, so no write can have failed before.
      obtain ⟨count, rfl⟩ := accepts
      have succeed : .turn .fail ∉ labels ++ [.turn (.accept count)] := by
        intro failed
        rcases List.mem_append.mp failed with failed | failed
        · exact across _ failed _ (by simp) rfl count rfl
        · simp at failed
      exact (progress (before.snoc step) succeed).isPrefix
    · -- Nothing is accepted, and packets that are taken only make the whole longer.
      rw [wrote_append, taken_append, List.flatMap_append,
        wrote_silent step (fun count same => accepts ⟨count, same⟩), List.append_nil]
      exact (ih earlier).trans (List.prefix_append _ _)

/-- A write of seven bytes that fails after one leaves a prefix when nothing follows it. -/
theorem wrote_prefix_taken_partial :
    ∃ seen channel, machine.Run [.send (.data 1 [7]), .turn .recv, .turn (.accept 1), .turn .fail]
        seen channel ∧
      wrote seen = [1] ∧ wrote seen <+: (taken seen).flatMap wireBytes := by
  have silent : SilentAfterFailure
      [.send (.data 1 [7]), .turn .recv, .turn (.accept 1), .turn .fail] := by
    simp [SilentAfterFailure]
  exact ⟨_, _, Lts.Run.of_exec rfl, rfl, wrote_prefix_taken (Lts.Run.of_exec rfl) silent⟩

/-- A keep alive written after such a failure is read by the peer as the rest of the data. -/
theorem wrote_after_failure :
    ¬∀ labels seen channel, machine.Run labels seen channel →
      wrote seen <+: (taken seen).flatMap wireBytes := by
  -- The first byte of the data packet is followed by the three bytes of the keep alive.
  intro always
  have kept := always [.send (.data 1 [7]), .send Packet.keepalive, .turn .recv,
    .turn (.accept 1), .turn .fail, .turn .recv, .turn (.accept 3)] _ _ (Lts.Run.of_exec rfl)
  exact absurd kept (by decide)

end TcpToL2cap

end BleManaged
