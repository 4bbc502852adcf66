import BleManaged.Lib.RoundRobin
import BleManaged.Socks.FreePort
import BleManaged.Socks.Outbound

/-! The ports that calls of `add_tcp_stream` use go round in a cycle that leaves out port zero. -/

namespace BleManaged

namespace Mux

/-- How many ports there are in a round. -/
def portCount : Nat := 65534

/-- The port that a call uses, by the number of calls before it. -/
def portNumber (calls : Nat) : Nat := RoundRobin.number portCount calls

/-- The port of a call can be handed out. -/
theorem portNumber_range (calls : Nat) : 1 ≤ portNumber calls ∧ portNumber calls ≤ 65534 :=
  RoundRobin.number_range (by decide) calls

/-- A port with the number of a call can be handed out. -/
theorem assignable_of_eq {port : UInt16} {calls : Nat} (number : port.toNat = portNumber calls) :
    Assignable port := by
  rw [Assignable, number]
  exact portNumber_range calls

/-- After a call the counter is one above the port of the call, and has not wrapped. -/
theorem counted_nextPort {mux : Mux} (assignable : Assignable mux.candidatePort) :
    mux.counted.nextPort.toNat = mux.candidatePort.toNat + 1 := by
  have bound := assignable.2
  simp only [counted, UInt16.toNat_add]
  simp
  omega

/-- The port of the next call comes after the port of this one. -/
theorem counted_candidatePort {mux : Mux} (assignable : Assignable mux.candidatePort) :
    mux.counted.candidatePort.toNat = RoundRobin.next portCount mux.candidatePort.toNat := by
  have moved := counted_nextPort assignable
  have bound := assignable.2
  unfold RoundRobin.next portCount
  by_cases last : mux.candidatePort.toNat < 65534
  · -- The counter is still in the cycle.
    have small : ¬mux.counted.nextPort > 65534 := by
      rw [gt_iff_lt, UInt16.lt_iff_toNat_lt, moved]
      simp
      omega
    rw [candidatePort, if_neg small, if_pos last, moved]
  · -- The counter has passed the last port, and is reset.
    have large : mux.counted.nextPort > 65534 := by
      rw [gt_iff_lt, UInt16.lt_iff_toNat_lt, moved]
      simp
      omega
    rw [candidatePort, if_pos large, if_neg last]
    rfl

/-- The counter, the map of ports and what has been put in it bear the numbers of their calls. -/
structure Numbered (seen : List Event) (mux : Mux) : Prop where
  /-- The next call will use its own number. -/
  candidate : mux.candidatePort.toNat = portNumber mux.calls
  /-- A registered stream is under the number of its call. -/
  table : ∀ port stream, mux.portToTcpStream port = some stream →
    port.toNat = portNumber stream.writer
  /-- Every stream that was put in the map was put under the number of its call. -/
  inserted : ∀ port stream, .table (.insert port stream) ∈ seen → port.toNat = portNumber stream

variable {seen out : List Event} {mux next : Mux} {label : Label}

/-- A send is no call on the map of ports. -/
theorem enqueue_ne_table (mux : Mux) (producer : Producer) (packet : Packet) (op : TableOp) :
    (mux.enqueue producer packet).2 ≠ .table op := by
  rcases enqueue_cases mux producer packet with ⟨_, same⟩ | ⟨_, same⟩ <;> simp [same]

/-- A step that takes no port keeps the numbers. -/
theorem Numbered.of_same (numbered : Numbered seen mux) (nextPort : next.nextPort = mux.nextPort)
    (calls : next.calls = mux.calls)
    (table : ∀ port stream, next.portToTcpStream port = some stream →
      mux.portToTcpStream port = some stream)
    (nothing : ∀ port stream, .table (.insert port stream) ∉ out) :
    Numbered (seen ++ out) next where
  candidate := by
    -- The candidate depends on the counter only.
    have number := numbered.candidate
    rwa [candidatePort, ← nextPort, ← calls] at number
  table := fun port stream found => numbered.table port stream (table port stream found)
  inserted := by
    intro port stream member
    rcases List.mem_append.mp member with earlier | now
    · exact numbered.inserted port stream earlier
    · exact absurd now (nothing port stream)

/-- The port that was used is the number of its call, so the next one is the next number. -/
theorem Numbered.counted (numbered : Numbered seen mux) :
    mux.counted.candidatePort.toNat = portNumber mux.counted.calls := by
  rw [counted_candidatePort (assignable_of_eq numbered.candidate), numbered.candidate]
  rfl

/-- A call that puts its stream in the map puts it under its own number. -/
theorem Numbered.registered (numbered : Numbered seen mux)
    (nextPort : next.nextPort = mux.counted.nextPort) (calls : next.calls = mux.counted.calls)
    (table : next.portToTcpStream = mux.registered.portToTcpStream)
    (only : ∀ port stream, .table (.insert port stream) ∈ out →
      port = mux.candidatePort ∧ stream = mux.calls) :
    Numbered (seen ++ out) next where
  candidate := by
    have number := numbered.counted
    rwa [candidatePort, ← nextPort, ← calls] at number
  table := by
    intro port stream found
    rw [table] at found
    by_cases own : port = mux.candidatePort
    · -- The new entry is the only one that the call has made.
      subst own
      obtain rfl : { writer := mux.calls } = stream := by simpa [Mux.registered] using found
      exact numbered.candidate
    · exact numbered.table port stream (by simpa [Mux.registered, own] using found)
  inserted := by
    intro port stream member
    -- What has been inserted in this call has the port of its number.
    rcases List.mem_append.mp member with earlier | now
    · exact numbered.inserted port stream earlier
    · obtain ⟨rfl, rfl⟩ := only port stream now
      exact numbered.candidate

/-- Every step keeps the numbers. -/
theorem Numbered.step (numbered : Numbered seen mux) (step : Step mux label next out) :
    Numbered (seen ++ out) next := by
  cases step with
  | refused =>
    -- The number is used up, although nothing is registered.
    refine ⟨numbered.counted, numbered.table, ?_⟩
    simpa using numbered.inserted
  | unsent => exact numbered.registered rfl rfl rfl (by simp)
  | added => exact numbered.registered rfl rfl rfl (by simp)
  | closed =>
    refine numbered.of_same rfl rfl ?_ (by simp)
    intro port stream found
    simp only [Function.update_apply] at found
    split at found
    · cases found
    · exact found
  | read | readerEnded | sendKeepalive =>
    -- A task that sends a packet neither takes a port nor touches the map.
    refine numbered.of_same ?_ ?_ ?_ ?_ <;>
      simp [closeReader, Ne.symm (enqueue_ne_table _ _ _ _)]
  | pipeInTcp => exact numbered.of_same rfl rfl (fun _ _ => id) (by simp)
  | stopRequested | drop => exact numbered.of_same (by simp) (by simp) (by simp) (by simp)
  | l2capClosed | undecoded | skipped | unknownData | offered | unknownClosed | wroteTcp
  | sendStop => exact numbered.of_same rfl rfl (fun _ _ => id) (by simp)

/-- In every reachable state the counter and the map of ports bear the numbers of the calls. -/
theorem numbered {labels : List Label} (run : machine.Run labels seen mux) : Numbered seen mux := by
  -- The counter of a new multiplexer stands at the number of the first call.
  refine run.invariant Numbered ⟨rfl, by simp [machine, createAndStart], by simp⟩ ?_
  intro labels seen state label next out _ numbered taken
  exact numbered.step (step_cases taken)

/-- Whether a label is a call of `add_tcp_stream`. -/
def Label.isCall : Label → Bool
  | .addTcpStream => true
  | _ => false

/-- The calls of a run have all been counted, those that were refused too. -/
theorem calls_eq {labels : List Label} (run : machine.Run labels seen mux) :
    mux.calls = labels.countP Label.isCall := by
  -- One call more is counted exactly by the steps that are calls.
  induction run with
  | start => rfl
  | snoc before taken ih =>
    rw [List.countP_append, ← ih]
    cases step_cases taken <;> simp [Label.isCall, counted, registered, spawnReader, closeReader]

/-- A packet that was put in the queue for the L2CAP stream, or taken from it to be written. -/
def Emitted (seen : List Event) (packet : Packet) : Prop :=
  (∃ producer, .enqueued producer packet ∈ seen) ∨ .l2cap (.taken packet) ∈ seen

/-- A call asks the map for its own port, and has the counter go on behind it. -/
theorem Numbered.call (numbered : Numbered seen mux)
    (step : Step mux .addTcpStream next out) :
    .table (.containsKey mux.candidatePort) ∈ out ∧
      (∀ op, .table op ∈ out → op.port = mux.candidatePort) ∧
      (∀ packet, Emitted out packet → packet.forPort? = some mux.candidatePort) ∧
      next.nextPort.toNat = mux.candidatePort.toNat + 1 := by
  have moved := counted_nextPort (assignable_of_eq numbered.candidate)
  -- A refused call asks the map only, and one that goes on asks and then inserts.
  cases step with
  | refused => exact ⟨by simp, by simp [TableOp.port], by simp [Emitted], moved⟩
  | unsent => exact ⟨by simp, by simp [TableOp.port], by simp [Emitted], moved⟩
  | added =>
    refine ⟨by simp, by simp [TableOp.port], ?_, moved⟩
    simp [Emitted, Packet.forPort?_controlSocketOpen]

/-- Every reader runs on the port with the number of the call that spawned it. -/
def ReadersNumbered (mux : Mux) : Prop :=
  ∀ stream reader, mux.readers stream = some reader → reader.port.toNat = portNumber stream

/-- A step spawns a reader on the port of its call, or leaves the readers their ports. -/
theorem Outflow.readersNumbered (outflow : Outflow mux label next out)
    (numbered : Numbered seen mux) (readers : mux.ReadersNumbered) : next.ReadersNumbered :=
  outflow.readers_keep (fun stream port => port.toNat = portNumber stream) numbered.candidate
    readers

/-- What a step puts in the queue is about a port that can be handed out, or about none. -/
theorem Outflow.assignable (outflow : Outflow mux label next out) (numbered : Numbered seen mux)
    (readers : mux.ReadersNumbered) :
    ∀ entry ∈ enqueued out, ∀ port, entry.2.forPort? = some port → Assignable port := by
  intro entry member port about
  -- A call names its own port, and a reader the port that its call gave to it.
  cases outflow with
  | quiet nothing => simp [nothing] at member
  | opened _ _ sent =>
    rw [sent, List.mem_singleton] at member
    subst member
    cases about
    exact assignable_of_eq numbered.candidate
  | carried running sent =>
    rw [sent, List.mem_singleton] at member
    subst member
    cases about
    exact assignable_of_eq (readers _ _ running)
  | closed running sent =>
    rw [sent, List.mem_singleton] at member
    subst member
    cases about
    exact assignable_of_eq (readers _ _ running)
  | alive sent =>
    rw [sent, List.mem_singleton] at member
    subst member
    cases about

/-- In every reachable state the readers have the ports of their calls, and no packet was ever put
in the queue for any other port. -/
theorem enqueued_assignable {labels : List Label} (run : machine.Run labels seen mux) :
    mux.ReadersNumbered ∧
      ∀ entry ∈ enqueued seen, ∀ port, entry.2.forPort? = some port → Assignable port := by
  -- What readers send later is about the ports they have now.
  refine run.invariant (fun seen mux => mux.ReadersNumbered ∧
    ∀ entry ∈ enqueued seen, ∀ port, entry.2.forPort? = some port → Assignable port) ?_ ?_
  · exact ⟨by simp [ReadersNumbered, machine, createAndStart], by simp [enqueued]⟩
  · intro labels seen state label next out before holds taken
    have outflow := (step_cases taken).outflow (sound before)
    refine ⟨outflow.readersNumbered (numbered before) holds.1, ?_⟩
    intro entry member
    rw [enqueued_append] at member
    rcases List.mem_append.mp member with earlier | final
    · exact holds.2 entry earlier
    · exact outflow.assignable (numbered before) holds.1 entry final

/-- Whatever is emitted has been put in the queue. -/
theorem Emitted.enqueued {labels : List Label} (run : machine.Run labels seen mux)
    {packet : Packet} (emitted : Emitted seen packet) :
    ∃ entry ∈ enqueued seen, entry.2 = packet := by
  rcases emitted with ⟨producer, sent⟩ | taken
  · exact ⟨(producer, packet), List.mem_filterMap.mpr ⟨_, sent, rfl⟩, rfl⟩
  · -- Nothing is taken from the queue that was not put in it.
    obtain ⟨others, projected, _⟩ := outbound.run run
    have queue := TcpToL2cap.queued_eq projected
    change TcpToL2cap.queued (seen.filterMap toOutbound) =
      TcpToL2cap.taken (seen.filterMap toOutbound) ++ mux.tcpToL2cap.queue at queue
    have among : packet ∈ TcpToL2cap.taken (seen.filterMap toOutbound) := by
      refine List.mem_filterMap.mpr ⟨.taken packet, ?_, rfl⟩
      exact List.mem_filterMap.mpr ⟨_, taken, rfl⟩
    rw [queued_toOutbound] at queue
    have member : packet ∈ (Mux.enqueued seen).map Prod.snd := by
      rw [queue]
      exact List.mem_append_left _ among
    exact List.mem_map.mp member

/-- A data packet that is emitted is decoded to itself by the peer, however its bytes arrive. -/
theorem Emitted.decoded {labels : List Label} (run : machine.Run labels seen mux)
    {packet : Packet} (emitted : Emitted seen packet) :
    packet.serialize = .ok packet.wireBytes ∧
      ∀ (chunker : Chunker) (queue : List Bytes) (rest : Bytes),
        chunker.Holds queue (packet.wireBytes ++ rest) →
        ((Packet.deserialize chunker).finish queue).1.1 = .ok packet := by
  obtain ⟨entry, among, rfl⟩ := emitted.enqueued run
  have sendable := (enqueued_sendable run).2 entry among
  refine ⟨sendable.serialize, fun chunker queue rest holds => ?_⟩
  -- How the bytes are cut into chunks does not matter to what is decoded.
  rw [(Packet.deserialize_decode holds).1, sendable.frame.decode]

/-- The ports that the calls of a run use, and what becomes of them. -/
structure CleanCycle (labels : List Label) (seen : List Event) (mux : Mux) : Prop where
  /-- The k-th call uses the port that its number gives it, and the counter does not wrap. -/
  call : ∀ k before after, labels = before ++ .addTcpStream :: after →
    k = before.countP Label.isCall + 1 →
    ∃ earlier prior out next port, machine.Run before earlier prior ∧
      machine.step prior .addTcpStream = some (next, out) ∧
      .table (.containsKey port) ∈ out ∧ (∀ op, .table op ∈ out → op.port = port) ∧
      (∀ packet, Emitted out packet → packet.forPort? = some port) ∧
      port.toNat = (k - 1) % 65534 + 1 ∧ next.nextPort.toNat = port.toNat + 1
  /-- The counter is never zero. -/
  nextPort : 1 ≤ mux.nextPort.toNat ∧ mux.nextPort.toNat ≤ 65535
  /-- The keys of the map can be handed out. -/
  keys : ∀ port, mux.portToTcpStream port ≠ none → Assignable port
  /-- So can the ports of the packets that are emitted. -/
  emitted : ∀ packet, Emitted seen packet → ∀ port, packet.forPort? = some port → Assignable port
  /-- No data packet that is emitted is decoded as anything else. -/
  decoded : ∀ port data, Emitted seen (.data port data) →
    ∃ word, (Packet.data port data).serialize = .ok word ∧
      ∀ (chunker : Chunker) (queue : List Bytes) (rest : Bytes),
        chunker.Holds queue (word ++ rest) →
        ((Packet.deserialize chunker).finish queue).1.1 = .ok (.data port data)
  /-- Two streams get the same port only if their calls are whole rounds apart. -/
  apart : ∀ port first second, .table (.insert port first) ∈ seen →
    .table (.insert port second) ∈ seen → first ≡ second [MOD 65534]

/-- In every run the ports of the calls go round in a cycle that leaves out port zero. -/
theorem ports_clean_cycle {labels : List Label} (run : machine.Run labels seen mux) :
    CleanCycle labels seen mux where
  call := by
    intro k before after split count
    subst split
    obtain ⟨earlier, prior, next, out, reached, taken⟩ := run.taken
    have number := (numbered reached).candidate
    obtain ⟨asked, only, opened, moved⟩ := (numbered reached).call (step_cases taken)
    refine ⟨earlier, prior, out, next, prior.candidatePort, reached, taken, asked, only, opened, ?_,
      moved⟩
    -- As many calls have been counted as there are among the labels before.
    rw [number, calls_eq reached, portNumber, RoundRobin.number_eq (by decide), count]
    rfl
  nextPort := ⟨(sound run).ported, Nat.le_of_lt_succ mux.nextPort.toNat_lt⟩
  keys := by
    intro port known
    obtain ⟨stream, found⟩ := Option.ne_none_iff_exists'.mp known
    exact assignable_of_eq ((numbered run).table port stream found)
  emitted := by
    intro packet emitted port about
    obtain ⟨entry, among, rfl⟩ := emitted.enqueued run
    exact (enqueued_assignable run).2 entry among port about
  decoded := fun _ _ emitted => ⟨_, emitted.decoded run⟩
  apart := by
    intro port first second one other
    have before := (numbered run).inserted port first one
    have again := (numbered run).inserted port second other
    -- Both calls have the number of this one port.
    exact (RoundRobin.number_eq_iff (by decide)).mp (before.symm.trans again)

/-- Two streams use the first two ports, and the data of the first one is emitted. -/
theorem ports_clean_cycle_two_streams :
    ∃ seen mux, machine.Run
        [.addTcpStream, .addTcpStream, .readTcp 0 (.ok [7]), .pipeInTcp .recv] seen mux ∧
      mux.nextPort = 3 ∧ .table (.insert 2 1) ∈ seen ∧ Emitted seen (.data 1 [7]) ∧
      CleanCycle [.addTcpStream, .addTcpStream, .readTcp 0 (.ok [7]), .pipeInTcp .recv]
        seen mux := by
  obtain ⟨seen, mux, run, counter, inserted, sent⟩ : ∃ seen mux, machine.Run
      [.addTcpStream, .addTcpStream, .readTcp 0 (.ok [7]), .pipeInTcp .recv] seen mux ∧
      mux.nextPort = 3 ∧ .table (.insert 2 1) ∈ seen ∧
      .enqueued (.reader 0) (.data 1 [7]) ∈ seen :=
    ⟨_, _, Lts.Run.of_exec rfl, rfl, by decide, by decide⟩
  exact ⟨seen, mux, run, counter, inserted, .inl ⟨_, sent⟩, ports_clean_cycle run⟩

end Mux

end BleManaged
