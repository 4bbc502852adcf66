import BleManaged.Socks.MuxInvariant
import BleManaged.Socks.Wire

/-! The inbound pipeline: from the reads of the L2CAP stream to the packets that are dispatched. -/

namespace BleManaged

/-- Value set for the incoming maximum-transmission-unit, and the size of a read buffer. -/
def recvMtu : Nat := 65535

/-- The multiplexer with its `l2cap_to_tcp` channel and the call that receives from it. -/
structure Inbound where
  mux : Mux
  /-- The chunks that have been read from the L2CAP stream and not received, in order. -/
  l2capToTcp : List Bytes
  /-- What `pipe_out_tcp` has still to do of its call of `Packet::deserialize`. -/
  call : Receiving Bytes (Except DeserializeError Packet × Chunker)

/-- What can be observed of the inbound pipeline. -/
inductive InboundEvent where
  | l2capRead (bytes : Bytes)
  /-- The chunker at the receiving end is gone. -/
  | chunkDropped
  | mux (event : Event)
  deriving DecidableEq, Repr

namespace Inbound

/-- The receiver of `l2cap_to_tcp` lives as long as the task of `pipe_out_tcp`. -/
def ReceiverAlive (inbound : Inbound) : Prop :=
  inbound.mux.pipeOutTcp ≠ .ended ∧ inbound.mux.pipeOutTcp ≠ .aborted

instance (inbound : Inbound) : Decidable inbound.ReceiverAlive :=
  inferInstanceAs (Decidable (_ ∧ _))

/-- A step of the multiplexer, seen from the pipeline. -/
def lift (inbound : Inbound) (call : Receiving Bytes (Except DeserializeError Packet × Chunker))
    (result : Option (Mux × List Event)) : Option (Inbound × List InboundEvent) :=
  result.map fun step => ({ inbound with mux := step.1, call }, step.2.map .mux)

/-- One turn of the loop of `pipe_in_l2cap`. -/
def pipeInL2cap (inbound : Inbound) (result : ReadResult) :
    Option (Inbound × List InboundEvent) :=
  match inbound.mux.pipeInL2cap, result with
  | .running, .ok chunk =>
    let n := chunk.length
    -- No read returns more than its buffer holds.
    if n > recvMtu then none
    else if n > 0 then
      -- The read fills the front of the buffer, and the chunk is truncated to it.
      let chunkBuf := (chunk ++ List.replicate (recvMtu - n) 0).take n
      if inbound.ReceiverAlive then
        some ({ inbound with l2capToTcp := inbound.l2capToTcp ++ [chunkBuf] }, [.l2capRead chunk])
      -- The chunk is dropped, and the loop goes on reading.
      else some (inbound, [.l2capRead chunk, .chunkDropped])
    else inbound.lift inbound.call (inbound.mux.step .l2capClosed)
  | .running, .error => inbound.lift inbound.call (inbound.mux.step .l2capClosed)
  | _, _ => none

/-- The chunker receives a chunk, or learns that the channel is empty and closed. -/
def recv (inbound : Inbound) : Option (Inbound × List InboundEvent) :=
  match inbound.mux.pipeOutTcp, inbound.call with
  | .deserializing, .ask () resume =>
    match inbound.l2capToTcp with
    | chunk :: l2capToTcp => some ({ inbound with l2capToTcp, call := resume (some chunk) }, [])
    | [] =>
      -- The sender is dropped with the task of `pipe_in_l2cap`.
      if inbound.mux.pipeInL2cap = .running then none
      else some ({ inbound with call := resume none }, [])
  | _, _ => none

/-- The call of `Packet::deserialize` returns, and the next one will start where it left off. -/
def returned (inbound : Inbound) : Option (Inbound × List InboundEvent) :=
  match inbound.call with
  | .done (result, chunker) =>
    -- What is left in the chunker is where the next packet begins.
    inbound.lift (Packet.deserialize chunker) (inbound.mux.step (.deserialized result))
  | .ask _ _ => none

/-- What can happen next in the pipeline or in the rest of the multiplexer. -/
inductive Label where
  /-- The read of `pipe_in_l2cap` returns. -/
  | pipeInL2cap (result : ReadResult)
  | recv
  | returned
  | mux (label : Mux.Label)

/-- The effect of one label. -/
def step (inbound : Inbound) : Label → Option (Inbound × List InboundEvent)
  | .pipeInL2cap result => inbound.pipeInL2cap result
  | .recv => inbound.recv
  | .returned => inbound.returned
  -- These two are the steps of the pipeline itself.
  | .mux .l2capClosed => none
  | .mux (.deserialized _) => none
  | .mux label => inbound.lift inbound.call (inbound.mux.step label)

/-- The multiplexer with everything that comes in from the L2CAP stream. -/
def machine : Lts Inbound Label InboundEvent where
  init :=
    { mux := Mux.createAndStart, l2capToTcp := [], call := Packet.deserialize Chunker.new }
  step := step

/-- What an event is for the multiplexer. -/
def toMux : InboundEvent → Option Event
  | .mux event => some event
  | _ => none

/-- Every step, with the branch of the source it takes. -/
inductive Step (inbound : Inbound) : Label → Inbound → List InboundEvent → Prop where
  | read {chunk} (running : inbound.mux.pipeInL2cap = .running) (positive : chunk ≠ [])
      (alive : inbound.ReceiverAlive) :
      Step inbound (.pipeInL2cap (.ok chunk))
        { inbound with l2capToTcp := inbound.l2capToTcp ++ [chunk] } [.l2capRead chunk]
  /-- A chunk is read and dropped. -/
  | dropped {chunk} (running : inbound.mux.pipeInL2cap = .running) (positive : chunk ≠ [])
      (gone : ¬inbound.ReceiverAlive) :
      Step inbound (.pipeInL2cap (.ok chunk)) inbound [.l2capRead chunk, .chunkDropped]
  /-- The loop of `pipe_in_l2cap` breaks. -/
  | closed {result mux out} (running : inbound.mux.pipeInL2cap = .running)
      (taken : inbound.mux.step .l2capClosed = some (mux, out)) :
      Step inbound (.pipeInL2cap result) { inbound with mux } (out.map .mux)
  | recv {resume chunk l2capToTcp} (turn : inbound.mux.pipeOutTcp = .deserializing)
      (call : inbound.call = .ask () resume) (queue : inbound.l2capToTcp = chunk :: l2capToTcp) :
      Step inbound .recv { inbound with l2capToTcp, call := resume (some chunk) } []
  /-- The chunker learns that no chunk will come. -/
  | recvClosed {resume} (turn : inbound.mux.pipeOutTcp = .deserializing)
      (call : inbound.call = .ask () resume) (queue : inbound.l2capToTcp = [])
      (closed : inbound.mux.pipeInL2cap ≠ .running) :
      Step inbound .recv { inbound with call := resume none } []
  /-- The loop of `pipe_out_tcp` goes on, and a new call begins. -/
  | returned {result chunker mux out} (call : inbound.call = .done (result, chunker))
      (taken : inbound.mux.step (.deserialized result) = some (mux, out)) :
      Step inbound .returned { inbound with mux, call := Packet.deserialize chunker }
        (out.map .mux)
  | mux {label mux out} (other : ∀ result, label ≠ .deserialized result)
      (taken : inbound.mux.step label = some (mux, out)) :
      Step inbound (.mux label) { inbound with mux } (out.map .mux)

/-- A lifted step is a step of the multiplexer. -/
theorem lift_eq_some {inbound next : Inbound}
    {call : Receiving Bytes (Except DeserializeError Packet × Chunker)}
    {result : Option (Mux × List Event)} {out : List InboundEvent}
    (lifted : inbound.lift call result = some (next, out)) :
    ∃ mux seen, result = some (mux, seen) ∧ next = { inbound with mux, call } ∧
      out = seen.map .mux := by
  -- The label was possible for the multiplexer.
  obtain ⟨⟨mux, seen⟩, taken, same⟩ := Option.map_eq_some_iff.mp lifted
  cases same
  exact ⟨mux, seen, taken, rfl, rfl⟩

/-- A step of the multiplexer that is none of the pipeline itself is a step of it as well. -/
theorem step_mux {inbound : Inbound} {label : Mux.Label} {next : Mux} {out : List Event}
    (taken : inbound.mux.step label = some (next, out)) (reads : label ≠ .l2capClosed)
    (outside : ∀ result, label ≠ .deserialized result) :
    machine.step inbound (.mux label) = some ({ inbound with mux := next }, out.map .mux) := by
  cases label with
  | l2capClosed => exact absurd rfl reads
  | deserialized result => exact absurd rfl (outside result)
  | _ => simp [machine, step, lift, taken]

/-- The pipeline takes no other steps. -/
theorem step_cases {inbound next : Inbound} {label : Label} {out : List InboundEvent}
    (taken : inbound.step label = some (next, out)) : Step inbound label next out := by
  -- The cases follow the loops of the two tasks, each at its own await point.
  cases label with
  | pipeInL2cap result =>
    simp only [step, pipeInL2cap, Mux.take_buffer] at taken
    split at taken
    · rename_i chunk running
      -- A read of bytes goes to the channel, unless `pipe_out_tcp` has dropped its receiver.
      split at taken
      · cases taken
      split at taken
      · rename_i positive
        split at taken
        · rename_i alive
          cases taken
          exact .read running (List.length_pos_iff.mp positive) alive
        · rename_i gone
          cases taken
          exact .dropped running (List.length_pos_iff.mp positive) gone
      · obtain ⟨mux, seen, closed, rfl, rfl⟩ := lift_eq_some taken
        exact .closed running closed
    · rename_i running
      obtain ⟨mux, seen, closed, rfl, rfl⟩ := lift_eq_some taken
      exact .closed running closed
    · cases taken
  | recv =>
    simp only [step, Inbound.recv] at taken
    split at taken
    · rename_i resume turn call
      split at taken
      · rename_i queue
        cases taken
        exact .recv turn call queue
      · rename_i queue
        split at taken
        · cases taken
        · rename_i closed
          cases taken
          exact .recvClosed turn call queue closed
    · cases taken
  | returned =>
    simp only [step, Inbound.returned] at taken
    split at taken
    · rename_i result chunker call
      obtain ⟨mux, seen, went, rfl, rfl⟩ := lift_eq_some taken
      exact .returned call went
    · cases taken
  | mux label =>
    cases label with
    -- These two turns have labels of their own, since they involve the channel.
    | l2capClosed | deserialized => cases taken
    | _ =>
      obtain ⟨mux, seen, went, rfl, rfl⟩ := lift_eq_some taken
      exact .mux (by simp) went

end Inbound

end BleManaged
