import BleManaged.Socks.TcpToL2cap
import Mathlib.Logic.Function.Basic

/-! The multiplexer: its port table, its tasks, and what each task does between two awaits. -/

namespace BleManaged

/-- A TCP stream, named by the number of the `add_tcp_stream` call it was passed to. -/
abbrev StreamId := Nat

/-- The write half of a TCP stream; its read half is owned by the reader task. -/
structure MuxedTCPStream where
  writer : StreamId
  deriving DecidableEq, Repr

/-- The map of ports to TCP streams. -/
abbrev PortTable := UInt16 → Option MuxedTCPStream

/-- A call on the map of ports, which locks the shard of its port. -/
inductive TableOp where
  /-- The shared lock is held during the call. -/
  | containsKey (port : UInt16)
  /-- The exclusive lock is held during the call. -/
  | insert (port : UInt16) (stream : StreamId)
  /-- The exclusive lock is held until the guard that is returned is dropped. -/
  | getMut (port : UInt16)
  /-- The exclusive lock is held during the call. -/
  | remove (port : UInt16)
  deriving DecidableEq, Repr

/-- The port a call on the map is about. -/
def TableOp.port : TableOp → UInt16
  | .containsKey port => port
  | .insert port _ => port
  | .getMut port => port
  | .remove port => port

/-- Whether a spawned task is still there. -/
inductive TaskState where
  | running
  | ended
  | aborted
  deriving DecidableEq, Repr

/-- Aborting drops a task that is still running. -/
def TaskState.abort : TaskState → TaskState
  | .running => .aborted
  -- An abort of a finished task does nothing.
  | .ended => .ended
  | .aborted => .aborted

/-- The task that `add_tcp_stream` spawns to read from a TCP stream. -/
structure ReaderTask where
  port : UInt16
  state : TaskState
  deriving DecidableEq, Repr

/-- Aborting a reader task keeps its port. -/
def ReaderTask.abort (reader : ReaderTask) : ReaderTask :=
  -- No close packet is sent, since the task is dropped at its await point.
  { reader with state := reader.state.abort }

/-- Where the task of `pipe_out_tcp` is. -/
inductive PipeOutTcp where
  | deserializing
  /-- Inside the write of this data, holding the guard that `get_mut` returned for the port. -/
  | writing (port : UInt16) (stream : StreamId) (data : Bytes)
  | signalling
  | ended
  | aborted
  deriving DecidableEq, Repr

/-- Aborting drops the task at its await point, with the guard it may hold. -/
def PipeOutTcp.abort : PipeOutTcp → PipeOutTcp
  -- An abort of a finished task does nothing.
  | .ended => .ended
  | _ => .aborted

/-- The tasks that are tracked in order to be aborted. -/
inductive Task where
  | pipeInL2cap
  | pipeOutTcp
  | pipeInTcp
  | keepalive
  | reader (stream : StreamId)
  deriving DecidableEq, Repr

/-- The multiplexer and the states of its tasks. -/
structure Mux where
  /-- Next port to assign to an incoming TCP stream. -/
  nextPort : UInt16
  /-- The write halves of the TCP streams, by port. -/
  portToTcpStream : PortTable
  /-- The packets for the L2CAP stream, and the task that writes them. -/
  tcpToL2cap : TcpToL2cap
  /-- The tasks that `stop` will abort. -/
  tasks : List Task
  stopped : Bool
  /-- The channel of stop requests, which holds at most one. -/
  stopDueToDisconnect : List Bool
  /-- How often `add_tcp_stream` has been called. -/
  calls : Nat
  /-- The reader tasks that have been spawned. -/
  readers : StreamId → Option ReaderTask
  pipeInL2cap : TaskState
  pipeOutTcp : PipeOutTcp
  keepalive : TaskState

/-- Who sends on the `tcp_to_l2cap` channel. -/
inductive Producer where
  | addTcpStream (stream : StreamId)
  | reader (stream : StreamId)
  | keepalive
  deriving DecidableEq, Repr

/-- Why `pipe_out_tcp` goes on to the next packet without serving a TCP stream. -/
inductive Skip where
  | emptyPacket
  | unknownPort (port : UInt16)
  | keepalive
  | unknownMsgType (msgType : UInt8)
  /-- Only this side opens TCP streams. -/
  | openRequest
  | unknownStatus (forPort : UInt16) (status : UInt8)
  deriving DecidableEq, Repr

/-- How `add_tcp_stream` fails. -/
inductive AddError where
  | tooManyOpenConnections
  /-- The receiver of `tcp_to_l2cap` is gone. -/
  | send
  deriving DecidableEq, Repr

/-- The text of an error of `add_tcp_stream`. -/
def AddError.message : AddError → String
  | .tooManyOpenConnections => "too many open connections"
  | .send => "sending into a closed channel"

/-- What a stream answers to a read; no bytes mean that it is closed. -/
inductive ReadResult where
  | ok (bytes : Bytes)
  | error
  deriving DecidableEq, Repr

/-- What a TCP stream answers to a write: how many of the bytes it accepted, or a failure. -/
inductive WriteAnswer where
  | ok (count : Nat)
  | error
  deriving DecidableEq, Repr

/-- No write accepts more bytes than it was offered. -/
def WriteAnswer.Fits (data : Bytes) : WriteAnswer → Prop
  | .ok count => count ≤ data.length
  | .error => True

instance (data : Bytes) : (answer : WriteAnswer) → Decidable (answer.Fits data)
  | .ok count => inferInstanceAs (Decidable (count ≤ data.length))
  | .error => inferInstanceAs (Decidable True)

/-- The bytes a write accepted, which are the first ones. -/
def WriteAnswer.accepted (data : Bytes) : WriteAnswer → Bytes
  -- The first bytes are accepted, and the rest is lost with the buffer.
  | .ok count => data.take count
  | .error => []

/-- What can be observed of the multiplexer. -/
inductive Event where
  | table (op : TableOp)
  /-- A packet was put in the queue for the L2CAP stream. -/
  | enqueued (producer : Producer) (packet : Packet)
  /-- A packet was dropped, because the receiver of that queue is gone. -/
  | sendFailed (producer : Producer) (packet : Packet)
  | added (stream : StreamId) (result : Except AddError Unit)
  | tcpRead (stream : StreamId) (bytes : Bytes)
  /-- A reader task met the end of its stream, or a read error. -/
  | tcpEnded (stream : StreamId)
  /-- A packet was dispatched while this stream was registered for its port. -/
  | dispatched (packet : Packet) (registered : Option StreamId)
  | skipped (reason : Skip)
  /-- The writer of a stream was passed a buffer. -/
  | offered (port : UInt16) (stream : StreamId) (data : Bytes)
  | answered (stream : StreamId) (data : Bytes) (answer : WriteAnswer)
  | undecoded (error : DeserializeError)
  | stopSignal
  | l2cap (event : OutboundEvent)
  deriving DecidableEq, Repr

/-- The port a packet is about, which a keep alive does not have. -/
def Packet.forPort? : Packet → Option UInt16
  | .data port _ => some port
  -- Other control packets have the field, but it means nothing in them.
  | .control msgType forPort _ _ => if msgType = 1 then some forPort else none

namespace Mux

/-- The multiplexer that `create_and_start` returns, with its four tasks started. -/
def createAndStart : Mux where
  -- Start at 1 to distinguish between control packets.
  nextPort := 1
  portToTcpStream := fun _ => none
  tcpToL2cap := TcpToL2cap.machine.init
  -- Every task is tracked as it is spawned.
  tasks := [.pipeInL2cap, .pipeOutTcp, .pipeInTcp, .keepalive]
  stopped := false
  stopDueToDisconnect := []
  calls := 0
  readers := fun _ => none
  pipeInL2cap := .running
  pipeOutTcp := .deserializing
  keepalive := .running

/-- Send a packet on the `tcp_to_l2cap` channel. -/
def enqueue (mux : Mux) (producer : Producer) (packet : Packet) : Mux × Event :=
  match mux.tcpToL2cap.send packet with
  | some tcpToL2cap => ({ mux with tcpToL2cap }, .enqueued producer packet)
  -- The sender is told of the failure, logs it and goes on.
  | none => (mux, .sendFailed producer packet)

/-- The port the next call of `add_tcp_stream` tries: start at 1 if overflow. -/
def candidatePort (mux : Mux) : UInt16 :=
  if mux.nextPort > 65534 then 1 else mux.nextPort

/-- The multiplexer after the port of one more call has been taken from the counter. -/
def counted (mux : Mux) : Mux :=
  -- The counter moves on whether or not the port turns out to be free.
  { mux with nextPort := mux.candidatePort + 1, calls := mux.calls + 1 }

/-- The multiplexer after the stream of one more call has been put in the map. -/
def registered (mux : Mux) : Mux :=
  -- Only the write half is put in the map, and the read half stays with the call.
  { mux.counted with
    portToTcpStream :=
      Function.update mux.portToTcpStream mux.candidatePort (some { writer := mux.calls }) }

/-- Spawn the task that reads from a TCP stream, and track it. -/
def spawnReader (mux : Mux) (stream : StreamId) (port : UInt16) : Mux :=
  { mux with
    readers := Function.update mux.readers stream (some { port, state := .running })
    tasks := mux.tasks ++ [.reader stream] }

/-- Incorporate a new TCP stream into the multiplexer. -/
def addTcpStream (mux : Mux) : Mux × List Event :=
  let stream := mux.calls
  let port := mux.candidatePort
  match mux.portToTcpStream port with
  | some _ =>
    (mux.counted, [.table (.containsKey port), .added stream (.error .tooManyOpenConnections)])
  | none =>
    let seen := [.table (.containsKey port), .table (.insert port stream)]
    let controlPacket := Packet.controlSocketOpen port
    match mux.tcpToL2cap.send controlPacket with
    | none =>
      -- The error is returned at once, and the stream stays in the map without a reader.
      (mux.registered,
        seen ++ [.sendFailed (.addTcpStream stream) controlPacket, .added stream (.error .send)])
    | some tcpToL2cap =>
      ({ mux.registered with tcpToL2cap }.spawnReader stream port,
        seen ++ [.enqueued (.addTcpStream stream) controlPacket, .added stream (.ok ())])

/-- The end of a reader task, which sends a close packet first. -/
def closeReader (mux : Mux) (stream : StreamId) (port : UInt16) : Mux × List Event :=
  let ended :=
    { mux with readers := Function.update mux.readers stream (some { port, state := .ended }) }
  -- The map of ports is not touched, so the stream stays registered.
  let closed := ended.enqueue (.reader stream) (Packet.controlSocketClosed port)
  (closed.1, [.tcpEnded stream, closed.2])

/-- One turn of the loop of a reader task, whose buffer has 1024 bytes. -/
def readTcp (mux : Mux) (stream : StreamId) (result : ReadResult) : Option (Mux × List Event) :=
  match mux.readers stream with
  | some { port, state := .running } =>
    match result with
    | .ok bytes =>
      let n := bytes.length
      -- No read returns more than its buffer holds.
      if n > 1024 then none
      else if n > 0 then
        -- The read fills the front of the buffer, and the message is truncated to it.
        let data := bytes ++ List.replicate (1024 - n) 0
        let sent := mux.enqueue (.reader stream) (.data port (data.take n))
        some (sent.1, [.tcpRead stream bytes, sent.2])
      else some (mux.closeReader stream port)
    | .error => some (mux.closeReader stream port)
  | _ => none

/-- What `pipe_out_tcp` does with a packet before its next await. -/
def dispatch (mux : Mux) : Packet → Mux × List Event
  | .data port data =>
    if data.length = 0 then (mux, [.skipped .emptyPacket])
    else
      match mux.portToTcpStream port with
      | none => (mux, [.table (.getMut port), .skipped (.unknownPort port)])
      | some muxedStream =>
        -- One write is started for the whole packet, and the guard is kept across it.
        ({ mux with pipeOutTcp := .writing port muxedStream.writer data },
          [.table (.getMut port), .offered port muxedStream.writer data])
  | .control msgType forPort status _ =>
    if msgType = 0 then (mux, [.skipped .keepalive])
    else if msgType ≠ 1 then (mux, [.skipped (.unknownMsgType msgType)])
    else if status = 0 then
      -- The entry is removed, and the reader task of its stream is not told.
      match mux.portToTcpStream forPort with
      | none => (mux, [.table (.containsKey forPort), .skipped (.unknownPort forPort)])
      | some _ =>
        ({ mux with portToTcpStream := Function.update mux.portToTcpStream forPort none },
          [.table (.containsKey forPort), .table (.remove forPort)])
    else if status = 1 then (mux, [.skipped .openRequest])
    else (mux, [.skipped (.unknownStatus forPort status)])

/-- The stream registered for the port of a packet. -/
def addressee (mux : Mux) (packet : Packet) : Option StreamId := do
  let port ← packet.forPort?
  let muxedStream ← mux.portToTcpStream port
  return muxedStream.writer

/-- The loop of `pipe_out_tcp` goes on with what `Packet::deserialize` returned. -/
def deserialized (mux : Mux) (result : Except DeserializeError Packet) :
    Option (Mux × List Event) :=
  match mux.pipeOutTcp, result with
  | .deserializing, .ok packet =>
    let served := mux.dispatch packet
    some (served.1, .dispatched packet (mux.addressee packet) :: served.2)
  -- Inability to deserialize is taken for degradation or disconnection.
  | .deserializing, .error error =>
    some ({ mux with pipeOutTcp := .signalling }, [.undecoded error])
  | _, _ => none

/-- A TCP stream answers the write, which drops the guard and ends this turn of the loop. -/
def wroteTcp (mux : Mux) (answer : WriteAnswer) : Option (Mux × List Event) :=
  match mux.pipeOutTcp with
  | .writing _ stream data =>
    -- Neither the count nor a failure is looked at, but for the log.
    if answer.Fits data then
      some ({ mux with pipeOutTcp := .deserializing }, [.answered stream data answer])
    else none
  | _ => none

/-- The stop request is sent once its channel has room, and the loop breaks. -/
def sendStop (mux : Mux) : Option (Mux × List Event) :=
  match mux.pipeOutTcp with
  | .signalling =>
    if mux.stopDueToDisconnect.length < 1 then
      some ({ mux with
        stopDueToDisconnect := mux.stopDueToDisconnect ++ [true], pipeOutTcp := .ended },
        [.stopSignal])
    else none
  | _ => none

/-- One turn of the loop that sends keepalives. -/
def sendKeepalive (mux : Mux) : Option (Mux × List Event) :=
  match mux.keepalive with
  | .running =>
    let sent := mux.enqueue .keepalive Packet.keepalive
    -- The sleep between two turns is not modelled, so a turn is possible at any time.
    some (sent.1, [sent.2])
  | _ => none

/-- Abort one tracked task. -/
def abort (mux : Mux) : Task → Mux
  | .pipeInL2cap => { mux with pipeInL2cap := mux.pipeInL2cap.abort }
  | .pipeOutTcp => { mux with pipeOutTcp := mux.pipeOutTcp.abort }
  | .pipeInTcp => { mux with tcpToL2cap := mux.tcpToL2cap.abort }
  | .keepalive => { mux with keepalive := mux.keepalive.abort }
  | .reader stream =>
    { mux with
      readers :=
        Function.update mux.readers stream ((mux.readers stream).map ReaderTask.abort) }

/-- Abort tasks as they are popped, the last one first. -/
def abortAll (mux : Mux) (tasks : List Task) : Mux :=
  -- The fold starts at the end of the list, where the loop pops.
  tasks.foldr (fun task mux => mux.abort task) mux

/-- Idempotently stop the mux. The scheduler drops the tasks some time after they have been aborted,
which nobody can tell who does not call the mux in between, so here they are dropped at once. -/
def stop (mux : Mux) : Mux :=
  if mux.stopped then mux
  -- The map of ports keeps its entries.
  else { mux.abortAll mux.tasks with tasks := [], stopped := true }

/-- Receive a stop request and stop the mux. -/
def waitForStopDueToDisconnect (mux : Mux) : Option (Mux × List Event) :=
  match mux.stopDueToDisconnect with
  | _ :: requests => some ({ mux with stopDueToDisconnect := requests }.stop, [])
  -- The mux holds a sender itself, so the channel is never closed and the call waits.
  | [] => none

/-- What can happen next: a call, an answer of the outside, or a task going on. -/
inductive Label where
  | addTcpStream
  | readTcp (stream : StreamId) (result : ReadResult)
  /-- The read of `pipe_in_l2cap` returned nothing or failed, and its loop breaks. -/
  | l2capClosed
  | deserialized (result : Except DeserializeError Packet)
  | wroteTcp (answer : WriteAnswer)
  | sendStop
  | sendKeepalive
  | pipeInTcp (turn : TcpToL2cap.Turn)
  | waitForStopDueToDisconnect
  | drop

/-- The effect of one label. -/
def step (mux : Mux) : Label → Option (Mux × List Event)
  | .addTcpStream => some mux.addTcpStream
  | .readTcp stream result => mux.readTcp stream result
  | .l2capClosed =>
    if mux.pipeInL2cap = .running then some ({ mux with pipeInL2cap := .ended }, []) else none
  | .deserialized result => mux.deserialized result
  | .wroteTcp answer => mux.wroteTcp answer
  | .sendStop => mux.sendStop
  | .sendKeepalive => mux.sendKeepalive
  | .pipeInTcp turn =>
    (mux.tcpToL2cap.turn turn).map fun result =>
      ({ mux with tcpToL2cap := result.1 }, result.2.map .l2cap)
  | .waitForStopDueToDisconnect => mux.waitForStopDueToDisconnect
  | .drop => some (mux.stop, [])

/-- The multiplexer, with whatever `Packet::deserialize` returns to it. -/
def machine : Lts Mux Label Event where
  init := createAndStart
  step := step

end Mux

end BleManaged
