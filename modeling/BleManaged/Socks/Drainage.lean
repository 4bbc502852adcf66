import BleManaged.Lib.Settling
import BleManaged.Socks.MuxInvariant
import BleManaged.Socks.Outbound
import Mathlib.Algebra.GroupWithZero.Nat

/-! What has been put in the queue for the L2CAP stream is written to it. -/

namespace BleManaged

namespace TcpToL2cap

open Packet (wireBytes)

/-- A `write_all` in progress has something left to write. -/
def Missing (channel : TcpToL2cap) : Prop :=
  ∀ rest, channel.task = .writing rest → rest ≠ []

/-- A `write_all` is in progress only with something left of it. -/
theorem writeAll_missing (queue : List Packet) (rest : Bytes) :
    Missing { queue, task := writeAll rest } := by
  -- A `write_all` of nothing is over at once.
  intro other writing
  by_cases finished : rest = []
  · simp [writeAll, finished] at writing
  · simp only [writeAll, if_neg finished, PipeInTcp.writing.injEq] at writing
    rwa [← writing]

/-- Every step leaves something to write, if it leaves a write in progress. -/
theorem Missing.step {channel next : TcpToL2cap} {label : Label} {out : List OutboundEvent}
    (missing : channel.Missing) (step : channel.step label = some (next, out)) : next.Missing := by
  -- Only a turn that receives or writes on leaves a write in progress.
  cases label with
  | send packet =>
    obtain ⟨sent, accepted, same⟩ := Option.map_eq_some_iff.mp step
    obtain ⟨_, rfl⟩ := send_eq_some accepted
    cases same
    exact missing
  | turn turn =>
    cases turn_cases step with
    | recv | accept => exact writeAll_missing _ _
    | drop | fail => simp [Missing]
  | abort =>
    cases step
    simp [Missing, TcpToL2cap.abort]

/-- In every run a write in progress has something left to write. -/
theorem missing {labels : List Label} {seen : List OutboundEvent} {channel : TcpToL2cap}
    (run : machine.Run labels seen channel) : channel.Missing := by
  refine run.invariant (fun _ channel => channel.Missing) (by simp [Missing, machine]) ?_
  intro labels seen channel label next out _ missing taken
  exact missing.step taken

/-- How many turns a write can take, if each of them accepts at least one byte. -/
def inWrite : PipeInTcp → Nat
  | .writing rest => rest.length
  | .receiving | .aborted => 0

/-- How many turns a packet in the queue can take: one to receive it, and those of its write. -/
def turnsOf (packet : Packet) : Nat := packet.wireBytes.length + 1

/-- How many turns the packets in the queue and the write in progress can take. -/
def writeLeft (channel : TcpToL2cap) : Nat :=
  match channel.task with
  | .aborted => 0
  | task => (channel.queue.map turnsOf).sum + inWrite task

/-- A `write_all` has no more turns than bytes. -/
theorem writeLeft_writeAll (queue : List Packet) (rest : Bytes) :
    writeLeft { queue, task := writeAll rest } = (queue.map turnsOf).sum + rest.length := by
  by_cases finished : rest = []
  · simp [writeLeft, writeAll, finished, inWrite]
  · simp [writeLeft, writeAll, finished, inWrite]

/-- Every turn but a failure leaves fewer turns, and a failure does not leave more. -/
theorem Turned.writeLeft {channel next : TcpToL2cap} {turn : Turn} {out : List OutboundEvent}
    (turned : Turned channel turn next out) :
    next.writeLeft ≤ channel.writeLeft ∧
      (turn ≠ .fail → next.writeLeft < channel.writeLeft) := by
  cases turned with
  | @recv packet queue bytes serialized =>
    have all : packet.wireBytes = bytes := by simp [Packet.wireBytes, serialized]
    have before : TcpToL2cap.writeLeft { queue := packet :: queue, task := .receiving } =
        (bytes.length + 1) + (queue.map turnsOf).sum := by
      simp [TcpToL2cap.writeLeft, inWrite, turnsOf, all]
    rw [writeLeft_writeAll, before]
    omega
  | @drop packet queue error failed =>
    -- A packet that cannot be serialized takes one turn all the same.
    simp [TcpToL2cap.writeLeft, inWrite, turnsOf]
  | @accept queue rest count positive bounded =>
    have before : TcpToL2cap.writeLeft { queue, task := .writing rest } =
        (queue.map turnsOf).sum + rest.length := rfl
    rw [writeLeft_writeAll, before, List.length_drop]
    omega
  | fail => simp [TcpToL2cap.writeLeft, inWrite]

end TcpToL2cap

namespace Mux

open Packet (wireBytes)

/-- The turns of `pipe_in_tcp` in which no write fails. -/
def writes : Label → Bool
  | .pipeInTcp .recv | .pipeInTcp (.accept _) => true
  | _ => false

/-- The queue is empty and its task waits for it, or the task is gone. -/
def Idle (mux : Mux) : Prop :=
  mux.tcpToL2cap.task = .aborted ∨ mux.tcpToL2cap = { queue := [], task := .receiving }

/-- Everything that was put in the queue has been taken from it and, if no write has failed, is on
the L2CAP stream. -/
inductive Drained (labels : List Label) (seen : List Event) (mux : Mux) : Prop where
  | written (empty : mux.tcpToL2cap.queue = [])
      (all : .pipeInTcp .fail ∉ labels →
        written seen = ((enqueued seen).map Prod.snd).flatMap wireBytes)
  /-- The mux has been stopped. -/
  | stopped (stopped : mux.stopped = true)

/-- Where `pipe_in_tcp` is idle, nothing is left to be written. -/
theorem Idle.drained {labels : List Label} {seen : List Event} {mux : Mux}
    (run : machine.Run labels seen mux) (idle : mux.Idle) : Drained labels seen mux := by
  -- Either a stop has aborted the task, or the queue is empty and no write is in progress.
  rcases idle with aborted | drained
  · exact .stopped ((sound run).closed.mpr aborted)
  · refine .written (by rw [drained]) fun succeed => ?_
    obtain ⟨sent, part, _, whole, _, all⟩ := written_split run succeed
    obtain ⟨rfl, rfl⟩ := all drained
    rw [whole, List.append_nil]

end Mux

end BleManaged
