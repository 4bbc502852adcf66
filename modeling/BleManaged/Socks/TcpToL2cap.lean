import BleManaged.Lib.Lts
import BleManaged.Socks.RoundTrip

/-! The queue of outbound packets and the task that writes them to the L2CAP stream. -/

namespace BleManaged

/-- Where the task of `pipe_in_tcp` is. -/
inductive PipeInTcp where
  | receiving
  /-- Inside `write_all`, with these bytes not accepted yet. -/
  | writing (rest : Bytes)
  /-- Aborted, which drops the receiver and closes the channel. -/
  | aborted
  deriving DecidableEq, Repr

/-- The `tcp_to_l2cap` channel and the task at its receiving end. -/
structure TcpToL2cap where
  /-- The packets that have been sent and not received, in order. -/
  queue : List Packet
  task : PipeInTcp
  deriving DecidableEq, Repr

/-- What can be seen of the channel and of the task at its receiving end. -/
inductive OutboundEvent where
  | queued (packet : Packet)
  | taken (packet : Packet)
  /-- A packet could not be serialized and was dropped. -/
  | unserializable (error : SerializeError)
  | wrote (bytes : Bytes)
  /-- A `write_all` failed, and the rest of its packet was dropped. -/
  | writeFailed
  deriving DecidableEq, Repr

namespace TcpToL2cap

/-- Send on the channel, which is unbounded and fails only once the receiver is dropped. -/
def send (channel : TcpToL2cap) (packet : Packet) : Option TcpToL2cap :=
  match channel.task with
  | .aborted => none
  -- There is always room, so the send does not wait.
  | _ => some { channel with queue := channel.queue ++ [packet] }

/-- The task inside `write_all` with this much left, which returns once nothing is. -/
def writeAll (rest : Bytes) : PipeInTcp :=
  if rest = [] then .receiving else .writing rest

/-- One turn of the loop of `pipe_in_tcp`: receive, serialize, and start writing. -/
def recv (channel : TcpToL2cap) : Option (TcpToL2cap × List OutboundEvent) :=
  match channel.task, channel.queue with
  | .receiving, packet :: queue =>
    match packet.serialize with
    | .ok bytes => some ({ queue, task := writeAll bytes }, [.taken packet])
    | .error error =>
      -- The packet is dropped, and the loop goes on with the next one.
      some ({ channel with queue }, [.taken packet, .unserializable error])
  | _, _ => none

/-- The L2CAP stream accepts some of the bytes that `write_all` still has to write. -/
def accept (count : Nat) (channel : TcpToL2cap) : Option (TcpToL2cap × List OutboundEvent) :=
  match channel.task with
  | .writing rest =>
    -- A write of no bytes is reported as a failure by `write_all`.
    if 0 < count ∧ count ≤ rest.length then
      some ({ channel with task := writeAll (rest.drop count) }, [.wrote (rest.take count)])
    else none
  | _ => none

/-- The L2CAP stream fails a `write_all`, and the loop continues with the next packet. -/
def fail (channel : TcpToL2cap) : Option (TcpToL2cap × List OutboundEvent) :=
  match channel.task with
  -- What has been accepted of the packet stays on the stream, and the rest is dropped.
  | .writing _ => some ({ channel with task := .receiving }, [.writeFailed])
  | _ => none

/-- Aborting the task drops it at its await point, and the receiver with it. -/
def abort (channel : TcpToL2cap) : TcpToL2cap := { channel with task := .aborted }

/-- How the task of `pipe_in_tcp` goes on. -/
inductive Turn where
  | recv
  /-- The L2CAP stream accepts this many of its bytes. -/
  | accept (count : Nat)
  | fail
  deriving DecidableEq, Repr

/-- The effect of the task on its channel. -/
def turn (channel : TcpToL2cap) : Turn → Option (TcpToL2cap × List OutboundEvent)
  | .recv => channel.recv
  | .accept count => channel.accept count
  | .fail => channel.fail

/-- What happens to the outbound channel. -/
inductive Label where
  | send (packet : Packet)
  | turn (turn : Turn)
  | abort
  deriving DecidableEq, Repr

/-- The effect of one label. -/
def step (channel : TcpToL2cap) : Label → Option (TcpToL2cap × List OutboundEvent)
  | .send packet => (channel.send packet).map fun sent => (sent, [.queued packet])
  | .turn turn => channel.turn turn
  | .abort => some (channel.abort, [])

/-- The outbound task on its own, fed with arbitrary packets. -/
def machine : Lts TcpToL2cap Label OutboundEvent where
  init := { queue := [], task := .receiving }
  step := step

/-- The packets put in the queue, in order. -/
def queued (seen : List OutboundEvent) : List Packet :=
  seen.filterMap fun
    | .queued packet => some packet
    | _ => none

/-- The packets taken from the queue, in order. -/
def taken (seen : List OutboundEvent) : List Packet :=
  seen.filterMap fun
    | .taken packet => some packet
    | _ => none

/-- The bytes the L2CAP stream has accepted, in order. -/
def wrote (seen : List OutboundEvent) : Bytes :=
  (seen.filterMap fun
    | .wrote bytes => some bytes
    | _ => none).flatten

/-- What is put in the queue is listed in order. -/
@[simp] theorem queued_append (seen more : List OutboundEvent) :
    queued (seen ++ more) = queued seen ++ queued more := List.filterMap_append

/-- What is taken from the queue is listed in order. -/
@[simp] theorem taken_append (seen more : List OutboundEvent) :
    taken (seen ++ more) = taken seen ++ taken more := List.filterMap_append

/-- What is accepted is laid end to end. -/
@[simp] theorem wrote_append (seen more : List OutboundEvent) :
    wrote (seen ++ more) = wrote seen ++ wrote more := by
  simp [wrote]

/-- A send on a channel whose receiver is alive puts the packet behind the others. -/
theorem send_eq_some {channel sent : TcpToL2cap} {packet : Packet}
    (accepted : channel.send packet = some sent) :
    channel.task ≠ .aborted ∧ sent = { channel with queue := channel.queue ++ [packet] } := by
  -- A send to an aborted task would have been refused.
  simp only [TcpToL2cap.send] at accepted
  split at accepted
  · cases accepted
  · rename_i alive
    exact ⟨alive, (Option.some.inj accepted).symm⟩

/-- A send succeeds while the receiver is alive. -/
theorem send_alive {channel : TcpToL2cap} (alive : channel.task ≠ .aborted) (packet : Packet) :
    channel.send packet = some { channel with queue := channel.queue ++ [packet] } := by
  -- Whether the task is receiving or writing makes no difference.
  cases task : channel.task with
  | aborted => exact absurd task alive
  | receiving => simp [TcpToL2cap.send, task]
  | writing rest => simp [TcpToL2cap.send, task]

/-- A send fails only when the receiver is gone. -/
theorem send_eq_none {channel : TcpToL2cap} {packet : Packet}
    (refused : channel.send packet = none) : channel.task = .aborted := by
  -- No other state of the task refuses a send.
  simp only [TcpToL2cap.send] at refused
  split at refused
  · assumption
  · cases refused

/-- Every turn of the task, with the branch of its loop. -/
inductive Turned : TcpToL2cap → Turn → TcpToL2cap → List OutboundEvent → Prop where
  /-- A packet is received, and its bytes are to be written. -/
  | recv {packet queue bytes} (serialized : packet.serialize = .ok bytes) :
      Turned { queue := packet :: queue, task := .receiving } .recv
        { queue, task := writeAll bytes } [.taken packet]
  /-- A packet is received and dropped, because it cannot be serialized. -/
  | drop {packet queue error} (failed : packet.serialize = .error error) :
      Turned { queue := packet :: queue, task := .receiving } .recv
        { queue, task := .receiving } [.taken packet, .unserializable error]
  | accept {queue rest count} (positive : 0 < count) (bounded : count ≤ rest.length) :
      Turned { queue, task := .writing rest } (.accept count)
        { queue, task := writeAll (rest.drop count) } [.wrote (rest.take count)]
  /-- The rest of the bytes is dropped. -/
  | fail {queue rest} :
      Turned { queue, task := .writing rest } .fail { queue, task := .receiving } [.writeFailed]

/-- The loop takes no other turns. -/
theorem turn_cases {channel next : TcpToL2cap} {turn : Turn} {out : List OutboundEvent}
    (taken : channel.turn turn = some (next, out)) : Turned channel turn next out := by
  -- Each turn is possible at one await point of the loop only.
  obtain ⟨queue, task⟩ := channel
  cases turn with
  | recv =>
    simp only [TcpToL2cap.turn, TcpToL2cap.recv] at taken
    split at taken
    · rename_i packet queue
      split at taken
      · rename_i serialized
        cases taken
        exact .recv serialized
      · rename_i failed
        cases taken
        exact .drop failed
    · cases taken
  | accept count =>
    simp only [TcpToL2cap.turn, TcpToL2cap.accept] at taken
    split at taken
    · split at taken
      · rename_i inside
        cases taken
        exact .accept inside.1 inside.2
      · cases taken
    · cases taken
  | fail =>
    simp only [TcpToL2cap.turn, TcpToL2cap.fail] at taken
    split at taken
    · cases taken
      exact .fail
    · cases taken

end TcpToL2cap

end BleManaged
