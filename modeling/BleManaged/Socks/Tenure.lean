import BleManaged.Socks.Delivery
import BleManaged.Socks.Parse
import Mathlib.Data.List.TakeWhile

/-! Which of the packets parsed from the L2CAP stream are for a TCP stream. -/

namespace BleManaged

namespace Mux

/-- The packet of a dispatch. -/
def handling : Event → Option Packet
  | .dispatched packet _ => some packet
  | _ => none

/-- The packets that have been dispatched, in order. -/
def handled (seen : List Event) : List Packet := seen.filterMap handling

/-- The data of a packet for a port. -/
def payload (port : UInt16) : Packet → Option Bytes
  | .data named data => if named = port then some data else none
  | .control .. => none

/-- The data of the packets for a port, in order. -/
def payloads (port : UInt16) (packets : List Packet) : List Bytes :=
  packets.filterMap (payload port)

/-- The port that a packet closes. -/
def closes : Packet → Option UInt16
  | .control msgType forPort status _ =>
    if msgType = 1 ∧ status = 0 then some forPort else none
  | .data .. => none

/-- The packets up to the first one that closes a port. -/
def untilClosed (port : UInt16) (packets : List Packet) : List Packet :=
  packets.takeWhile fun packet => closes packet ≠ some port

/-- The port under which an event registers a stream. -/
def registering (stream : StreamId) : Event → Option UInt16
  | .table (.insert port registered) => if registered = stream then some port else none
  | _ => none

/-- The ports under which a stream is registered, in order. -/
def registrations (stream : StreamId) (seen : List Event) : List UInt16 :=
  seen.filterMap (registering stream)

/-- None of the packets closes the port. -/
def StaysOpen (port : UInt16) (packets : List Packet) : Prop :=
  ∀ packet ∈ packets, closes packet ≠ some port

/-- Packets are dispatched in the order of the steps. -/
theorem handled_append (seen more : List Event) :
    handled (seen ++ more) = handled seen ++ handled more := List.filterMap_append

/-- Data is listed in the order of its packets. -/
theorem payloads_append (port : UInt16) (packets more : List Packet) :
    payloads port (packets ++ more) = payloads port packets ++ payloads port more :=
  List.filterMap_append

/-- While the port stays open all packets lie before its close. -/
theorem untilClosed_open {port : UInt16} {packets : List Packet} (stays : StaysOpen port packets)
    (more : List Packet) :
    untilClosed port (packets ++ more) = packets ++ untilClosed port more :=
  List.takeWhile_append_of_pos fun packet member => by simpa using stays packet member

/-- While the port stays open nothing lies behind its close. -/
theorem untilClosed_whole {port : UInt16} {packets : List Packet} (stays : StaysOpen port packets) :
    untilClosed port packets = packets := by
  have whole := untilClosed_open stays []
  rw [List.append_nil] at whole
  exact whole.trans (List.append_nil _)

/-- The data of one packet for a port, which a packet that closes the port does not have. -/
theorem payloads_untilClosed (port : UInt16) (packet : Packet) :
    payloads port (untilClosed port [packet]) = (payload port packet).toList := by
  -- A control packet has no data, whether or not it closes the port.
  cases packet with
  | data named data =>
    by_cases same : named = port <;> simp [payloads, untilClosed, closes, payload, same]
  | control msgType forPort status rawData =>
    have none : ∀ packets, packets <+: [Packet.control msgType forPort status rawData] →
        payloads port packets = [] := by
      intro packets first
      refine List.filterMap_eq_nil_iff.mpr fun packet member => ?_
      rw [List.mem_singleton.mp (first.subset member)]
      rfl
    exact none _ (List.takeWhile_prefix _)

/-- Behind the close of the port nothing lies before it any more. -/
theorem untilClosed_closed {port : UInt16} {packets : List Packet}
    (closed : ¬StaysOpen port packets) (more : List Packet) :
    untilClosed port (packets ++ more) = untilClosed port packets := by
  rw [untilClosed, List.takeWhile_append, if_neg fun whole => ?_]
  · rfl
  · -- Taking all of them would mean that none closes the port.
    have all := (List.takeWhile_prefix _).eq_of_length whole
    exact closed fun packet member => by simpa using List.takeWhile_eq_self_iff.mp all packet member

/-- More packets do not change what lies before the close but at its end. -/
theorem untilClosed_prefix {port : UInt16} {packets more : List Packet} (first : packets <+: more) :
    untilClosed port packets <+: untilClosed port more := by
  -- Either the packets so far leave the port open, or the close is among them.
  obtain ⟨rest, rfl⟩ := first
  by_cases stays : StaysOpen port packets
  · rw [untilClosed_open stays]
    exact (List.takeWhile_prefix _).trans (List.prefix_append _ _)
  · rw [untilClosed_closed stays]

/-- Every registered stream is one of an earlier call, and is registered once. -/
structure Placed (mux : Mux) : Prop where
  called : ∀ port stream, mux.portToTcpStream port = some stream → stream.writer < mux.calls
  once : ∀ port other stream, mux.portToTcpStream port = some stream →
    mux.portToTcpStream other = some stream → port = other

/-- The table without the entry of a port that is closed. -/
def without (mux : Mux) : Option UInt16 → PortTable
  | some port => Function.update mux.portToTcpStream port none
  | none => mux.portToTcpStream

variable {mux next : Mux} {label : Label} {seen out : List Event} {stream : StreamId}

/-- A table has no new entry without some of its entries. -/
theorem without_of {closed : Option UInt16} {port : UInt16} {writer : MuxedTCPStream}
    (found : mux.without closed port = some writer) : mux.portToTcpStream port = some writer := by
  -- The closed port has no entry any more, and the others keep theirs.
  cases closed with
  | none => exact found
  | some other =>
    by_cases same : port = other
    · simp [without, same] at found
    · simpa [without, same] using found

/-- An entry of another port is kept. -/
theorem without_ne {closed : Option UInt16} {port : UInt16} (other : closed ≠ some port) :
    mux.without closed port = mux.portToTcpStream port := by
  cases closed with
  | none => rfl
  | some named =>
    have different : port ≠ named := fun same => other (congrArg some same.symm)
    simp [without, different]

/-- Nothing in the events is for any stream: neither a registration nor a packet. -/
structure Immaterial (out : List Event) : Prop where
  handled : handled out = []
  arrived : ∀ stream, arrived stream out = []
  registrations : ∀ stream, registrations stream out = []

/-- What a step does to the port table, and which packet it dispatches. -/
inductive Booking (mux next : Mux) : List Event → Prop where
  /-- A call is refused, or the step is none. -/
  | idle {shown} (table : next.portToTcpStream = mux.portToTcpStream)
      (calls : mux.calls ≤ next.calls) (idle : Immaterial shown) : Booking mux next shown
  /-- A call registers its stream under a free port. -/
  | registered {port first rest} (free : mux.portToTcpStream port = none)
      (table : next.portToTcpStream =
        Function.update mux.portToTcpStream port (some { writer := mux.calls }))
      (calls : next.calls = mux.calls + 1) (before : Immaterial first) (behind : Immaterial rest) :
      Booking mux next (first ++ .table (.insert port mux.calls) :: rest)
  /-- A packet is dispatched, and removes the entry of the port that it closes. -/
  | dispatched {packet rest} (calls : next.calls = mux.calls)
      (table : next.portToTcpStream = mux.without (closes packet)) (behind : Immaterial rest) :
      Booking mux next (.dispatched packet (mux.addressee packet) :: rest)

/-- A packet that is skipped closes no port. -/
theorem Unserved.closes {packet : Packet} {reason : Skip} (unserved : Unserved packet reason) :
    Mux.closes packet = none := by
  cases unserved <;> simp_all [Mux.closes]

/-- What the multiplexer sends is for no stream. -/
theorem idle_enqueue (producer : Producer) (packet : Packet) :
    Immaterial [(mux.enqueue producer packet).2] :=
  ⟨enqueue_unseen rfl rfl _, fun _ => enqueue_unseen rfl rfl _, fun _ => enqueue_unseen rfl rfl _⟩

/-- What a reader does is for no stream. -/
theorem idle_reader {event : Event} {producer : Producer} {packet : Packet}
    (unhandled : handling event = none) (nothing : ∀ stream, arrival stream event = none)
    (unregistered : ∀ stream, registering stream event = none) :
    Immaterial [event, (mux.enqueue producer packet).2] :=
  ⟨reader_unseen unhandled rfl rfl _, fun stream => reader_unseen (nothing stream) rfl rfl _,
    fun stream => reader_unseen (unregistered stream) rfl rfl _⟩

/-- No step does anything else. -/
theorem Step.booking (step : Step mux label next out) : Booking mux next out := by
  have none : Immaterial [] := ⟨rfl, fun _ => rfl, fun _ => rfl⟩
  cases step with
  | refused => exact .idle rfl (Nat.le_succ _) ⟨rfl, fun _ => rfl, fun _ => rfl⟩
  | unsent free | added free =>
    have before : Immaterial [.table (.containsKey mux.candidatePort)] :=
      ⟨rfl, fun _ => rfl, fun _ => rfl⟩
    exact .registered free rfl rfl before ⟨rfl, fun _ => rfl, fun _ => rfl⟩
  | read =>
    exact .idle (by simp) (by simp) (idle_reader rfl (fun _ => rfl) fun _ => rfl)
  | readerEnded =>
    exact .idle (by simp [closeReader]) (by simp [closeReader])
      (idle_reader rfl (fun _ => rfl) fun _ => rfl)
  | sendKeepalive => exact .idle (by simp) (by simp) (idle_enqueue _ _)
  | pipeInTcp =>
    exact .idle rfl (Nat.le_refl _) ⟨l2cap_unseen (fun _ => rfl) _,
      fun _ => l2cap_unseen (fun _ => rfl) _, fun _ => l2cap_unseen (fun _ => rfl) _⟩
  | l2capClosed => exact .idle rfl (Nat.le_refl _) none
  | undecoded | wroteTcp | sendStop =>
    exact .idle rfl (Nat.le_refl _) ⟨rfl, fun _ => rfl, fun _ => rfl⟩
  | stopRequested | drop => exact .idle (by simp) (by simp) none
  | skipped turn unserved =>
    refine .dispatched rfl ?_ ⟨rfl, fun _ => rfl, fun _ => rfl⟩
    rw [unserved.closes]
    rfl
  | @unknownData port data turn nonempty unknown =>
    have same : mux.addressee (.data port data) = .none := by
      simp [addressee, Packet.forPort?, unknown]
    rw [← same]
    exact .dispatched rfl rfl ⟨rfl, fun _ => rfl, fun _ => rfl⟩
  | @offered port stream data turn nonempty known =>
    have same : mux.addressee (.data port data) = some stream.writer := by
      simp [addressee, Packet.forPort?, known]
    rw [← same]
    exact .dispatched rfl rfl ⟨rfl, fun _ => rfl, fun _ => rfl⟩
  | @unknownClosed port rawData turn unknown =>
    have same : mux.addressee (.control 1 port 0 rawData) = .none := by
      simp [addressee, Packet.forPort?, unknown]
    -- There is nothing to remove.
    have kept : Function.update mux.portToTcpStream port .none = mux.portToTcpStream :=
      Function.update_eq_self_iff.mpr unknown.symm
    rw [← same]
    exact .dispatched rfl kept.symm ⟨rfl, fun _ => rfl, fun _ => rfl⟩
  | @closed port stream rawData turn known =>
    have same : mux.addressee (.control 1 port 0 rawData) = some stream.writer := by
      simp [addressee, Packet.forPort?, known]
    rw [← same]
    exact .dispatched rfl rfl ⟨rfl, fun _ => rfl, fun _ => rfl⟩

/-- Every step places the streams as before. -/
theorem Booking.placed (booking : Booking mux next out) (placed : mux.Placed) : next.Placed := by
  -- Only a registration puts a stream at a port, and a `Close` takes one away.
  cases booking with
  | idle table calls =>
    refine ⟨fun port stream found => ?_, by rw [table]; exact placed.once⟩
    rw [table] at found
    exact Nat.lt_of_lt_of_le (placed.called port stream found) calls
  | @registered port first rest free table calls =>
    refine ⟨fun other stream found => ?_, fun other another stream found again => ?_⟩
    · rw [table] at found
      rw [calls]
      by_cases same : other = port
      · obtain rfl : { writer := mux.calls } = stream := by simpa [same] using found
        exact Nat.lt_succ_self _
      · exact Nat.lt_succ_of_lt (placed.called other stream (by simpa [same] using found))
    · -- The new stream is none of an earlier call, so it is at no other port.
      have elsewhere (place : UInt16) :
          mux.portToTcpStream place ≠ some { writer := mux.calls } :=
        fun held => absurd (placed.called place _ held) (Nat.lt_irrefl _)
      rw [table] at found again
      by_cases first : other = port
      · by_cases second : another = port
        · exact first.trans second.symm
        · obtain rfl : { writer := mux.calls } = stream := by simpa [first] using found
          exact absurd (by simpa [second] using again) (elsewhere another)
      · by_cases second : another = port
        · obtain rfl : { writer := mux.calls } = stream := by simpa [second] using again
          exact absurd (by simpa [first] using found) (elsewhere other)
        · exact placed.once other another stream (by simpa [first] using found)
            (by simpa [second] using again)
  | dispatched calls table =>
    refine ⟨fun port stream found => ?_, fun port other stream found again => ?_⟩
    · rw [table] at found
      rw [calls]
      exact placed.called port stream (without_of found)
    · rw [table] at found again
      exact placed.once port other stream (without_of found) (without_of again)

/-- In every run each registered stream is placed so. -/
theorem placed {labels : List Label} (run : machine.Run labels seen mux) : mux.Placed := by
  refine run.invariant (fun _ mux => mux.Placed)
    ⟨fun _ _ found => (nomatch found), fun _ _ _ found => (nomatch found)⟩ ?_
  intro labels seen mux label next out _ placed taken
  exact (step_cases taken).booking.placed placed

/-- Data for its port is what a registered stream is sent. -/
theorem Placed.arrival_of_known (placed : mux.Placed) {port : UInt16}
    (known : mux.portToTcpStream port = some ⟨stream⟩) (packet : Packet) :
    arrival stream (.dispatched packet (mux.addressee packet)) = payload port packet := by
  cases packet with
  | control => rfl
  | data named data =>
    by_cases same : named = port
    · subst same
      simp [arrival, addressee, Packet.forPort?, known, payload]
    · cases found : mux.portToTcpStream named with
      | none => simp [arrival, addressee, Packet.forPort?, found, payload, same]
      | some other =>
        -- The stream is at its own port only.
        have different : other.writer ≠ stream := by
          rintro rfl
          exact same (placed.once named port other found known)
        simp [arrival, addressee, Packet.forPort?, found, payload, same, different]

/-- The stream is at no port. -/
def Unplaced (stream : StreamId) (mux : Mux) : Prop :=
  ∀ port, mux.portToTcpStream port ≠ some ⟨stream⟩

/-- A stream of a later call is at no port. -/
theorem Placed.unplaced (placed : mux.Placed) (later : mux.calls ≤ stream) :
    Unplaced stream mux :=
  fun port found => absurd (placed.called port _ found) (Nat.not_lt.mpr later)

/-- A stream that is at no port is sent nothing. -/
theorem Unplaced.arrival (unplaced : Unplaced stream mux) (packet : Packet) :
    Mux.arrival stream (.dispatched packet (mux.addressee packet)) = none := by
  -- Whoever is found under the port of the data is another stream.
  cases packet with
  | control => rfl
  | data named data =>
    cases found : mux.portToTcpStream named with
    | none => simp [Mux.arrival, addressee, Packet.forPort?, found]
    | some other =>
      have different : other.writer ≠ stream := by
        rintro rfl
        exact unplaced named found
      simp [Mux.arrival, addressee, Packet.forPort?, found, different]

/-- Registrations are listed in order. -/
theorem registrations_append (stream : StreamId) (seen more : List Event) :
    registrations stream (seen ++ more) =
      registrations stream seen ++ registrations stream more := List.filterMap_append

/-- What a step that dispatches a packet adds for a stream. -/
theorem dispatched_adds (stream : StreamId) (mux : Mux) (packet : Packet) {rest : List Event}
    (behind : Immaterial rest) :
    handled (.dispatched packet (mux.addressee packet) :: rest) = [packet] ∧
      arrived stream (.dispatched packet (mux.addressee packet) :: rest) =
        (arrival stream (.dispatched packet (mux.addressee packet))).toList ∧
        registrations stream (.dispatched packet (mux.addressee packet) :: rest) = [] := by
  -- Behind the dispatch nothing is for any stream.
  refine ⟨congrArg (packet :: ·) behind.handled, ?_, behind.registrations stream⟩
  have later := behind.arrived stream
  rw [arrived] at later ⊢
  rw [List.filterMap_cons]
  cases arrival stream (.dispatched packet (mux.addressee packet)) <;> simp [later]

/-- What a step that registers a stream adds for it and for the others. -/
theorem registered_adds (stream : StreamId) (port : UInt16) (registered : StreamId)
    {first rest : List Event} (before : Immaterial first) (behind : Immaterial rest) :
    handled (first ++ .table (.insert port registered) :: rest) = [] ∧
      arrived stream (first ++ .table (.insert port registered) :: rest) = [] ∧
        (registered ≠ stream →
          registrations stream (first ++ .table (.insert port registered) :: rest) = []) := by
  -- Around the registration nothing is for any stream.
  refine ⟨?_, ?_, fun other => ?_⟩
  · rw [handled_append, before.handled]
    exact behind.handled
  · rw [arrived_append, before.arrived stream]
    exact behind.arrived stream
  · have none : registrations stream (.table (.insert port registered) :: rest) = [] := by
      have later := behind.registrations stream
      rw [registrations] at later ⊢
      simp [registering, other, later]
    rw [registrations_append, before.registrations stream, none, List.append_nil]

/-- What has become of a stream: it is sent the data for its port from its registration up to the
close of the port, and nothing else. -/
inductive Tenure (stream : StreamId) (seen : List Event) (mux : Mux) : Prop where
  /-- Its call is still to come, or was refused. -/
  | never (unplaced : Unplaced stream mux) (nothing : arrived stream seen = [])
      (unregistered : registrations stream seen = [])
  | registered {port first rest} (called : stream < mux.calls)
      (split : seen = first ++ .table (.insert port stream) :: rest)
      (before : registrations stream first = []) (behind : registrations stream rest = [])
      (arrives : arrived stream seen = payloads port (untilClosed port (handled rest)))
      (stays : StaysOpen port (handled rest) → mux.portToTcpStream port = some ⟨stream⟩)
      (ends : ¬StaysOpen port (handled rest) → Unplaced stream mux)

/-- A stream that has never been registered stays so, or is registered now. -/
theorem Tenure.step_never (unplaced : Unplaced stream mux)
    (nothing : arrived stream seen = []) (unregistered : registrations stream seen = [])
    (booking : Booking mux next out) : Tenure stream (seen ++ out) next := by
  -- Only its own registration can give the stream a port.
  cases booking with
  | idle table calls idle =>
    refine .never (by rwa [Unplaced, table]) ?_ ?_
    · rw [arrived_append, nothing, idle.arrived stream, List.append_nil]
    · rw [registrations_append, unregistered, idle.registrations stream, List.append_nil]
  | @registered port first rest free table calls before behind =>
    obtain ⟨_, arrives, others⟩ := registered_adds stream port mux.calls before behind
    by_cases own : mux.calls = stream
    · subst own
      have split : seen ++ (first ++ .table (.insert port mux.calls) :: rest) =
          (seen ++ first) ++ .table (.insert port mux.calls) :: rest := (List.append_assoc ..).symm
      refine .registered (calls ▸ Nat.lt_succ_self _) split ?_ (behind.registrations _) ?_
        (fun _ => ?_) fun closed => ?_
      · rw [registrations_append, unregistered, before.registrations, List.append_nil]
      · rw [arrived_append, nothing, arrives, behind.handled]
        rfl
      · rw [table, Function.update_self]
      · rw [behind.handled] at closed
        exact absurd (fun _ member => nomatch member) closed
    · refine .never (fun other found => ?_) ?_ ?_
      · rw [table] at found
        by_cases same : other = port
        · exact own (by simpa [same] using found)
        · exact unplaced other (by simpa [same] using found)
      · rw [arrived_append, nothing, arrives, List.append_nil]
      · rw [registrations_append, unregistered, others own, List.append_nil]
  | @dispatched packet rest calls table behind =>
    obtain ⟨_, arrives, none⟩ := dispatched_adds stream mux packet behind
    refine .never (fun other found => ?_) ?_ ?_
    · rw [table] at found
      exact unplaced other (without_of found)
    · rw [arrived_append, nothing, arrives, unplaced.arrival]
      rfl
    · rw [registrations_append, unregistered, none, List.append_nil]

/-- A stream that has been registered is sent the data for its port up to the close of the port. -/
theorem Tenure.step_registered (placed : mux.Placed) {port : UInt16} {first rest : List Event}
    (called : stream < mux.calls) (split : seen = first ++ .table (.insert port stream) :: rest)
    (before : registrations stream first = []) (behind : registrations stream rest = [])
    (arrives : arrived stream seen = payloads port (untilClosed port (handled rest)))
    (stays : StaysOpen port (handled rest) → mux.portToTcpStream port = some ⟨stream⟩)
    (ends : ¬StaysOpen port (handled rest) → Unplaced stream mux)
    (booking : Booking mux next out) : Tenure stream (seen ++ out) next := by
  have longer : seen ++ out = first ++ .table (.insert port stream) :: (rest ++ out) := by
    rw [split, List.append_assoc, List.cons_append]
  -- The insertion stays where it was, and each kind of step adds something behind it.
  cases booking with
  | idle table calls idle =>
    have packets : handled (rest ++ out) = handled rest := by
      rw [handled_append, idle.handled, List.append_nil]
    refine .registered (Nat.lt_of_lt_of_le called calls) longer before ?_ ?_ ?_ ?_
    · rw [registrations_append, behind, idle.registrations stream, List.append_nil]
    · rw [arrived_append, idle.arrived stream, List.append_nil, packets, arrives]
    · rwa [packets, table]
    · rwa [packets, Unplaced, table]
  | @registered other earlier later free table calls idle idle' =>
    obtain ⟨none, nothing, others⟩ := registered_adds stream other mux.calls idle idle'
    -- Each call inserts a stream of its own.
    have different : mux.calls ≠ stream := Nat.ne_of_gt called
    have packets : handled (rest ++ (earlier ++ .table (.insert other mux.calls) :: later)) =
        handled rest := by
      rw [handled_append, none, List.append_nil]
    refine .registered (calls ▸ Nat.lt_succ_of_lt called) longer before ?_ ?_ ?_ ?_
    · rw [registrations_append, behind, others different, List.append_nil]
    · rw [arrived_append, nothing, List.append_nil, packets, arrives]
    · -- The new stream is registered under a port that is free.
      intro open'
      rw [packets] at open'
      have apart : port ≠ other := by
        rintro rfl
        rw [stays open'] at free
        cases free
      rw [table, Function.update_of_ne apart, stays open']
    · intro closed place found
      rw [packets] at closed
      rw [table] at found
      by_cases same : place = other
      · exact different (by simpa [same] using found)
      · exact ends closed place (by simpa [same] using found)
  | @dispatched packet later calls table idle =>
    obtain ⟨one, arrival, none⟩ := dispatched_adds stream mux packet idle
    have packets : handled (rest ++ .dispatched packet (mux.addressee packet) :: later) =
        handled rest ++ [packet] := by
      rw [handled_append, one]
    refine .registered (calls ▸ called) longer before ?_ ?_ ?_ ?_
    · rw [registrations_append, behind, none, List.append_nil]
    · rw [arrived_append, arrives, arrival, packets]
      -- While the port is open its packets go to the stream, and none does after the `Close`.
      by_cases open' : StaysOpen port (handled rest)
      · rw [untilClosed_open open', placed.arrival_of_known (stays open'), payloads_append,
          untilClosed_whole open', payloads_untilClosed]
      · rw [untilClosed_closed open', (ends open').arrival]
        exact List.append_nil _
    · intro open'
      rw [packets] at open'
      have still : closes packet ≠ some port := open' packet (by simp)
      rw [table, without_ne still]
      exact stays fun other member => open' other (List.mem_append_left _ member)
    · intro closed place found
      rw [table] at found
      -- What is still placed was placed before the packet.
      have held := without_of found
      by_cases open' : StaysOpen port (handled rest)
      · -- The packet closes the port, and the stream was at no other one.
        obtain rfl := placed.once port place _ (stays open') held
        by_cases closes' : closes packet = some port
        · simp [closes', without] at found
        · refine closed fun other member => ?_
          rw [packets, List.mem_append, List.mem_singleton] at member
          rcases member with earlier | rfl
          · exact open' other earlier
          · exact closes'
      · exact ends open' place held

/-- In every run each stream has its tenure. -/
theorem tenure {labels : List Label} (run : machine.Run labels seen mux) (stream : StreamId) :
    Tenure stream seen mux := by
  -- The induction is on the run, and each step is booked.
  induction run with
  | start => exact .never (fun port found => nomatch found) rfl rfl
  | snoc before taken ih =>
    have booking := (step_cases taken).booking
    cases ih with
    | never unplaced nothing unregistered =>
      exact Tenure.step_never unplaced nothing unregistered booking
    | registered called split none behind arrives stays ends =>
      exact Tenure.step_registered (placed before) called split none behind arrives stays ends
        booking

/-- Whenever a stream has been registered, what arrives for it is the data for its port in the
packets dispatched from then on, up to the first one that closes the port. -/
theorem arrived_since {labels : List Label} (run : machine.Run labels seen mux)
    {first rest : List Event} {port : UInt16}
    (split : seen = first ++ .table (.insert port stream) :: rest) :
    arrived stream seen = payloads port (untilClosed port (handled rest)) := by
  -- The stream is registered once, so this is the registration of its tenure.
  have some : registrations stream [.table (.insert port stream)] = [port] := by
    simp [registrations, registering]
  cases tenure run stream with
  | never _ _ unregistered =>
    rw [split, List.append_cons, registrations_append, registrations_append, some] at unregistered
    simp at unregistered
  | @registered other before behind _ again none later arrives =>
    have absent {events : List Event} (nothing : registrations stream events = []) :
        .table (.insert port stream) ∉ events := by
      intro member
      have found := List.filterMap_eq_nil_iff.mp nothing _ member
      simp [registering] at found
    have same := again.symm.trans split
    rw [List.append_cons_inj_of_notMem] at same
    · obtain ⟨rfl, event, rfl⟩ := same
      cases event
      exact arrives
    · exact absent none
    · exact absent later

/-- The packet among what is obtained. -/
def packet? : Obtained → Option Packet
  | .packet packet => some packet
  | .stop => none

/-- The packets dispatched are those among what is obtained. -/
theorem handled_of_obtained (seen : List Event) :
    handled seen = (obtained seen).filterMap packet? := by
  rw [obtained, List.filterMap_filterMap, handled]
  refine List.filterMap_congr fun event _ => ?_
  cases event <;> rfl

/-- Packets in a row are those among them as things obtained. -/
theorem filterMap_packet? (packets : List Packet) (more : List Obtained) :
    (packets.map Obtained.packet ++ more).filterMap packet? =
      packets ++ more.filterMap packet? := by
  simp [List.filterMap_map, Function.comp_def, packet?]

end Mux

namespace Inbound

/-- The packets dispatched are the first ones parsed from the bytes, and all of them at the end. -/
theorem handled_of_bytes {labels : List Label} {seen : List InboundEvent} {inbound : Inbound}
    (run : machine.Run labels seen inbound) {more : Bytes}
    (closed : inbound.mux.pipeInL2cap ≠ .running → more = []) :
    Mux.handled (seen.filterMap toMux) <+: parse (received seen ++ more) ∧
      (inbound.mux.pipeOutTcp = .ended →
        Mux.handled (seen.filterMap toMux) = parse (received seen ++ more)) := by
  -- What has not been read yet is taken for one more chunk, if it is anything at all.
  obtain ⟨future, flat, nonempty, done⟩ : ∃ future : List Bytes, future.flatten = more ∧
      (∀ chunk ∈ future, chunk ≠ []) ∧ (more = [] → future = []) := by
    by_cases empty : more = []
    · exact ⟨[], by simp [empty], by simp, fun _ => rfl⟩
    · exact ⟨[more], by simp, by simpa using empty, fun none => absurd none empty⟩
  have reached := consistent run future nonempty fun stopped => done (closed stopped)
  rw [flat] at reached
  obtain ⟨part, all⟩ := reached.outcome
  have packets : ((parse (received seen ++ more)).map Obtained.packet ++
      [Obtained.stop]).filterMap Mux.packet? = parse (received seen ++ more) := by
    rw [Mux.filterMap_packet?]
    exact List.append_nil _
  rw [Mux.handled_of_obtained]
  refine ⟨?_, fun ended => ?_⟩
  · have kept := part.filterMap Mux.packet?
    rwa [packets] at kept
  · have kept := congrArg (List.filterMap Mux.packet?) (all ended)
    rwa [packets] at kept

/-- What is sent to a stream: the data for its port in the packets of the bytes, from behind those
that were dispatched before its registration up to the first one that closes the port. -/
def sentTo (port : UInt16) (first : List Event) (bytes : Bytes) : Bytes :=
  (Mux.payloads port
    (Mux.untilClosed port ((parse bytes).drop (Mux.handled first).length))).flatten

/-- A registered stream is given the first part of what is sent to it, and all of it at the end. -/
theorem given_of_bytes {labels : List Label} {seen : List InboundEvent} {inbound : Inbound}
    (run : machine.Run labels seen inbound) {more : Bytes}
    (closed : inbound.mux.pipeInL2cap ≠ .running → more = []) {first rest : List Event}
    {port : UInt16} {stream : StreamId}
    (split : seen.filterMap toMux = first ++ .table (.insert port stream) :: rest) :
    (Mux.answers stream (seen.filterMap toMux)).flatMap Prod.fst <+:
        sentTo port first (received seen ++ more) ∧
      (inbound.mux.pipeOutTcp = .ended →
        (Mux.answers stream (seen.filterMap toMux)).flatMap Prod.fst =
          sentTo port first (received seen ++ more)) := by
  obtain ⟨part, all⟩ := handled_of_bytes run closed
  obtain ⟨others, projected⟩ := runs_multiplexer run
  obtain ⟨buffer, account, current⟩ := Mux.delivering projected stream
  -- The packets dispatched since the registration are the next ones in the bytes.
  have packets : Mux.handled (seen.filterMap toMux) = Mux.handled first ++ Mux.handled rest := by
    rw [split, Mux.handled_append]
    rfl
  have arrives := Mux.arrived_since projected split
  constructor
  · have later : Mux.handled rest <+:
        (parse (received seen ++ more)).drop (Mux.handled first).length := by
      have dropped := part.drop (Mux.handled first).length
      rwa [packets, List.drop_left] at dropped
    have given : (Mux.arrived stream (seen.filterMap toMux)).flatten <+:
        sentTo port first (received seen ++ more) := by
      rw [arrives]
      exact ((Mux.untilClosed_prefix later).filterMap _).flatten
    exact List.IsPrefix.trans ⟨buffer, account.symm⟩ given
  · -- At the end nothing is being written, and no packet is left.
    intro ended
    have whole : Mux.handled rest =
        (parse (received seen ++ more)).drop (Mux.handled first).length := by
      have dropped := congrArg (List.drop (Mux.handled first).length) (all ended)
      rwa [packets, List.drop_left] at dropped
    have idle : buffer = [] := by
      rw [current (by rw [ended]; simp), ended]
      rfl
    rw [idle, List.append_nil, arrives, whole] at account
    exact account.symm

/-- Inbound demultiplexing is faithful end to end. Whatever else is in the byte stream and however
the tasks take turns, a stream that is registered under a port is given the data for that port in
the packets parsed from the bytes behind those dispatched before, up to the first packet that closes
the port, and all of that data once the stream of bytes has ended. -/
theorem inbound_faithful {labels : List Label} {seen : List InboundEvent} {inbound : Inbound}
    (run : machine.Run labels seen inbound) {more : Bytes}
    (closed : inbound.mux.pipeInL2cap ≠ .running → more = []) {first rest : List Event}
    {port : UInt16} {stream : StreamId}
    (split : seen.filterMap toMux = first ++ .table (.insert port stream) :: rest) :
    let sent := sentTo port first (received seen ++ more)
    let answered := Mux.answers stream (seen.filterMap toMux)
    answered.flatMap Prod.fst <+: sent ∧
      (inbound.mux.pipeOutTcp = .ended → answered.flatMap Prod.fst = sent) ∧
        (Mux.Gapless answered → Mux.accepted stream (seen.filterMap toMux) <+: sent) := by
  obtain ⟨part, all⟩ := given_of_bytes run closed split
  exact ⟨part, all, fun gapless => gapless.isPrefix.trans part⟩

/-- A stream is sent two bytes, its port is closed, and the byte behind the close is not for it. -/
theorem inbound_faithful_closed_port :
    ∃ seen inbound, machine.Run
        [.mux .addTcpStream,
          .pipeInL2cap (.ok [1, 0, 2, 0, 0, 0, 7, 8, 0, 0, 1, 1, 0, 0, 1, 0, 1, 0, 0, 0, 9]), .recv,
          .returned, .mux (.wroteTcp (.ok 2)), .returned, .returned, .pipeInL2cap (.ok []), .recv,
          .returned, .mux .sendStop] seen inbound ∧
      (Mux.answers 0 (seen.filterMap toMux)).flatMap Prod.fst = [7, 8] ∧
        sentTo 1 [.table (.containsKey 1)]
          [1, 0, 2, 0, 0, 0, 7, 8, 0, 0, 1, 1, 0, 0, 1, 0, 1, 0, 0, 0, 9] = [7, 8] := by
  have reached : (machine.exec machine.init
      [.mux .addTcpStream,
        .pipeInL2cap (.ok [1, 0, 2, 0, 0, 0, 7, 8, 0, 0, 1, 1, 0, 0, 1, 0, 1, 0, 0, 0, 9]), .recv,
        .returned, .mux (.wroteTcp (.ok 2)), .returned, .returned, .pipeInL2cap (.ok []), .recv,
        .returned, .mux .sendStop]).map (fun result =>
          (received result.2, result.1.mux.pipeOutTcp, (result.2.filterMap toMux).take 2,
            (Mux.answers 0 (result.2.filterMap toMux)).flatMap Prod.fst)) =
      some ([1, 0, 2, 0, 0, 0, 7, 8, 0, 0, 1, 1, 0, 0, 1, 0, 1, 0, 0, 0, 9], .ended,
        [.table (.containsKey 1), .table (.insert 1 0)], [7, 8]) := by
    decide +kernel
  obtain ⟨⟨inbound, seen⟩, executed, facts⟩ := Option.map_eq_some_iff.mp reached
  simp only [Prod.mk.injEq] at facts
  obtain ⟨bytes, ended, start, given⟩ := facts
  have run := Lts.Run.of_exec executed
  have split : seen.filterMap toMux = [.table (.containsKey 1)] ++
      .table (.insert 1 0) :: (seen.filterMap toMux).drop 2 := by
    rw [← List.take_append_drop 2 (seen.filterMap toMux), start]
    simp
  have faithful := (inbound_faithful run (fun _ => rfl) split).2.1 ended
  rw [given, bytes, List.append_nil] at faithful
  exact ⟨seen, inbound, run, given, faithful.symm⟩

end Inbound

end BleManaged
