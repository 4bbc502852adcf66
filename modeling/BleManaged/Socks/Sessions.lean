import BleManaged.Lib.Session
import BleManaged.Socks.Outflow

/-! The sessions of a port in the outbound queue. -/

namespace BleManaged

/-- A data packet is about its own port. -/
theorem Packet.forPort?_data (port : UInt16) (data : Bytes) :
    (Packet.data port data).forPort? = some port := rfl

/-- An open packet is about the port it opens. -/
theorem Packet.forPort?_controlSocketOpen (port : UInt16) :
    (Packet.controlSocketOpen port).forPort? = some port := rfl

/-- A close packet is about the port it closes. -/
theorem Packet.forPort?_controlSocketClosed (port : UInt16) :
    (Packet.controlSocketClosed port).forPort? = some port := rfl

/-- A keep alive is about no port. -/
theorem Packet.forPort?_keepalive : Packet.keepalive.forPort? = none := rfl

namespace Mux

/-- The part of a log of sent packets that is about one port. -/
def ofPort (port : UInt16) (log : List (Producer × Packet)) : List (Producer × Packet) :=
  log.filter fun entry => entry.2.forPort? = some port

/-- The part that is about a port is cut where the log is cut. -/
@[simp] theorem ofPort_append (port : UInt16) (log more : List (Producer × Packet)) :
    ofPort port (log ++ more) = ofPort port log ++ ofPort port more := List.filter_append ..

/-- A session of a port: opened for a stream, then used and closed by the reader of that stream. -/
def portSessions (port : UInt16) : SessionGrammar StreamId (Producer × Packet) where
  -- The opening is sent by the call itself, and the rest by the task it spawned.
  opens stream entry := entry = (.addTcpStream stream, Packet.controlSocketOpen port)
  carries stream entry := ∃ data, entry = (.reader stream, .data port data)
  closes stream entry := entry = (.reader stream, Packet.controlSocketClosed port)

/-- A new stream gets a free port only when no reader of an earlier stream still runs on it. -/
def Handover (mux : Mux) (label : Label) : Prop :=
  -- A call that finds its port registered is refused, and hands nothing over.
  label = .addTcpStream → mux.portToTcpStream mux.candidatePort = none →
    ∀ stream, ¬mux.Reading mux.candidatePort stream

/-- The log of a port consists of sessions, and a running reader owns the last one. -/
structure Orderly (port : UInt16) (seen : List Event) (mux : Mux) : Prop where
  /-- The log is made of whole sessions. -/
  sessions : (portSessions port).Sessions (ofPort port (enqueued seen))
  /-- A running reader can go on with the last session. -/
  current : ∀ stream, mux.Reading port stream →
    (portSessions port).OpenAtEnd stream (ofPort port (enqueued seen))
  /-- At most one reader runs on the port. -/
  one : ∀ stream other, mux.Reading port stream → mux.Reading port other → stream = other

variable {port : UInt16} {seen out : List Event} {mux next : Mux} {label : Label}

/-- A step that sends nothing for a port and starts no reader on it keeps its log in order. -/
theorem Orderly.silent (orderly : Orderly port seen mux)
    (nothing : ofPort port (enqueued out) = [])
    (fewer : ∀ stream, next.Reading port stream → mux.Reading port stream) :
    Orderly port (seen ++ out) next := by
  -- The log stays the same, and each part of the invariant is about fewer readers.
  have same : ofPort port (enqueued (seen ++ out)) = ofPort port (enqueued seen) := by
    rw [enqueued_append, ofPort_append, nothing, List.append_nil]
  refine ⟨same ▸ orderly.sessions, ?_, ?_⟩
  · intro stream running
    exact same ▸ orderly.current stream (fewer stream running)
  · intro stream other running again
    exact orderly.one stream other (fewer stream running) (fewer other again)

/-- A step that adds a stream opens a session, and no reader is left on the port. -/
theorem Orderly.opened (orderly : Orderly port seen mux) (handover : Handover mux label)
    (added : label = .addTcpStream) (free : mux.portToTcpStream mux.candidatePort = none)
    (sent : enqueued out =
      [(.addTcpStream mux.calls, Packet.controlSocketOpen mux.candidatePort)])
    (readers : next.readers = Function.update mux.readers mux.calls
      (some { port := mux.candidatePort, state := .running })) :
    Orderly port (seen ++ out) next := by
  have left := handover added free
  by_cases mine : mux.candidatePort = port
  · have log : ofPort port (enqueued (seen ++ out)) = ofPort port (enqueued seen) ++
        [(.addTcpStream mux.calls, Packet.controlSocketOpen port)] := by
      simp [sent, ofPort, Packet.forPort?_controlSocketOpen, mine]
    have opened := orderly.sessions.opened
      (rfl : (portSessions port).opens mux.calls
        (.addTcpStream mux.calls, Packet.controlSocketOpen port))
    -- No earlier reader runs on the port, so the new one is alone.
    have only : ∀ stream, next.Reading port stream → stream = mux.calls := by
      intro stream running
      by_contra old
      rw [Reading, readers, Function.update_of_ne old] at running
      exact left stream (by rwa [mine])
    refine ⟨log ▸ opened.sessions, ?_, ?_⟩
    · intro stream running
      rw [only stream running, log]
      exact opened
    · intro stream other running again
      rw [only stream running, only other again]
  · -- The new reader runs on another port.
    have nothing : ofPort port (enqueued out) = [] := by
      simp [sent, ofPort, Packet.forPort?_controlSocketOpen, mine]
    refine orderly.silent nothing fun stream running => ?_
    by_cases new : stream = mux.calls
    · rw [Reading, readers, new, Function.update_self] at running
      simp [mine] at running
    · rwa [Reading, readers, Function.update_of_ne new] at running

/-- Every step that hands ports over properly keeps the log of a port in order. -/
theorem Orderly.step (orderly : Orderly port seen mux) (handover : Handover mux label)
    (sound : mux.Sound) (step : Step mux label next out) : Orderly port (seen ++ out) next := by
  cases step.outflow sound with
  | quiet nothing _ _ readers =>
    exact orderly.silent (by simp [nothing, ofPort])
      fun stream running => reading_of_abort (readers stream) running
  | opened added free sent _ _ readers => exact orderly.opened handover added free sent readers
  | @carried stream named bytes running sent _ _ _ _ _ readers =>
    have kept : ∀ other, next.Reading port other → mux.Reading port other := by
      simp [Reading, readers]
    by_cases mine : named = port
    · -- The reader that sends is the one that owns the last session.
      subst mine
      have log : ofPort named (enqueued (seen ++ out)) =
          ofPort named (enqueued seen) ++ [(.reader stream, .data named bytes)] := by
        simp [sent, ofPort, Packet.forPort?_data]
      have carried := (orderly.current stream running).carried ⟨bytes, rfl⟩
      refine ⟨log ▸ carried.sessions, ?_, ?_⟩
      · intro other again
        rw [orderly.one other stream (kept other again) running, log]
        exact carried
      · intro other another again too
        exact orderly.one other another (kept other again) (kept another too)
    · exact orderly.silent (by simp [sent, ofPort, Packet.forPort?_data, mine]) kept
  | @closed stream named running sent _ _ _ readers =>
    have kept : ∀ other, next.Reading port other → other ≠ stream ∧ mux.Reading port other := by
      intro other again
      by_cases same : other = stream
      · simp [Reading, readers, same] at again
      · exact ⟨same, by rwa [Reading, readers, Function.update_of_ne same] at again⟩
    by_cases mine : named = port
    · subst mine
      have log : ofPort named (enqueued (seen ++ out)) = ofPort named (enqueued seen) ++
          [(.reader stream, Packet.controlSocketClosed named)] := by
        simp [sent, ofPort, Packet.forPort?_controlSocketClosed]
      -- The reader that closes the session was the only one on the port.
      have gone : ∀ other, ¬next.Reading named other := by
        intro other again
        exact (kept other again).1 (orderly.one other stream (kept other again).2 running)
      refine ⟨log ▸ (orderly.current stream running).closed rfl, ?_, ?_⟩
      · intro other again
        exact absurd again (gone other)
      · intro other _ again
        exact absurd again (gone other)
    · refine orderly.silent ?_ fun other again => (kept other again).2
      simp [sent, ofPort, Packet.forPort?_controlSocketClosed, mine]
  | alive sent _ _ readers =>
    have nothing : ofPort port (enqueued out) = [] := by
      simp [sent, ofPort, Packet.forPort?_keepalive]
    exact orderly.silent nothing (by simp [Reading, readers])

/-- In a run that hands ports over properly, the log of every port is in order. -/
theorem orderly {labels : List Label} (run : machine.Run labels seen mux)
    (handover : machine.EachStep Handover labels) (port : UInt16) : Orderly port seen mux := by
  -- A new multiplexer has an empty log and no readers.
  refine run.invariant_where handover (Orderly port) ?_ ?_
  · exact ⟨SessionGrammar.sessions_nil, by simp [Reading, machine, createAndStart],
      by simp [Reading, machine, createAndStart]⟩
  · intro labels seen state label next out before proper orderly taken
    exact orderly.step proper (sound before) (step_cases taken)

/-- Of two packets that open a stream, the later one opens the later stream. -/
def InCallOrder (earlier later : Producer × Packet) : Prop :=
  -- Packets that open nothing are in order with all others.
  ∀ first second, earlier.1 = .addTcpStream first → later.1 = .addTcpStream second → first < second

/-- Streams have been opened in the order of their calls, and only calls that were made. -/
structure CallOrdered (log : List (Producer × Packet)) (calls : Nat) : Prop where
  /-- No stream is opened behind a later one. -/
  ordered : log.Pairwise InCallOrder
  /-- Every stream that is opened has been passed to a call. -/
  made : ∀ entry ∈ log, ∀ stream, entry.1 = .addTcpStream stream → stream < calls

/-- One more packet keeps the order, if it opens the newest stream or none. -/
theorem CallOrdered.concat {log : List (Producer × Packet)} {calls later : Nat}
    (called : CallOrdered log calls) (more : calls ≤ later) {entry : Producer × Packet}
    (opens : ∀ stream, entry.1 = .addTcpStream stream → calls ≤ stream ∧ stream < later) :
    CallOrdered (log ++ [entry]) later := by
  refine ⟨List.pairwise_append.mpr ⟨called.ordered, List.pairwise_singleton _ _, ?_⟩, ?_⟩
  · -- Whatever the log opens was passed to an earlier call than the newest stream.
    intro old among new member first second left right
    rw [List.mem_singleton.mp member] at right
    exact Nat.lt_of_lt_of_le (called.made old among first left) (opens second right).1
  · intro old member stream same
    rcases List.mem_append.mp member with earlier | final
    · exact Nat.lt_of_lt_of_le (called.made old earlier stream same) more
    · rw [List.mem_singleton.mp final] at same
      exact (opens stream same).2

/-- Every step keeps the order, because only a call of `add_tcp_stream` opens a stream. -/
theorem CallOrdered.step (called : CallOrdered (enqueued seen) mux.calls) (sound : mux.Sound)
    (step : Step mux label next out) : CallOrdered (enqueued (seen ++ out)) next.calls := by
  rw [enqueued_append]
  -- Each step sends at most one packet, and only a call raises the number of calls.
  cases step.outflow sound with
  | quiet nothing _ calls _ =>
    rw [nothing, List.append_nil]
    refine ⟨called.ordered, ?_⟩
    intro entry member stream same
    exact Nat.lt_of_lt_of_le (called.made entry member stream same) calls
  | opened _ _ sent _ calls _ =>
    rw [sent]
    refine called.concat (by omega) ?_
    -- The packet of the call comes behind those of the earlier calls.
    intro stream same
    cases same
    rw [calls]
    exact ⟨Nat.le_refl _, Nat.lt_succ_self _⟩
  | carried _ sent _ _ _ _ calls _ =>
    rw [sent]
    exact called.concat (by omega) (by simp)
  | closed _ sent _ _ calls _ =>
    rw [sent]
    exact called.concat (by omega) (by simp)
  | alive sent _ calls _ =>
    rw [sent]
    exact called.concat (by omega) (by simp)

/-- In every reachable state streams have been opened in the order of their calls. -/
theorem opened_in_call_order {labels : List Label} (run : machine.Run labels seen mux) :
    CallOrdered (enqueued seen) mux.calls := by
  -- Soundness says what each step has put in the queue.
  refine run.invariant (fun seen mux => CallOrdered (enqueued seen) mux.calls) ?_ ?_
  · exact ⟨.nil, by simp [enqueued]⟩
  · intro labels seen state label next out before called taken
    exact called.step (sound before) (step_cases taken)

/-- The entries of a port name their stream. -/
theorem portSessions_unambiguous (port : UInt16) : (portSessions port).Unambiguous where
  owner := by
    -- Both the data and the close of a session name the reader that sent them.
    intro i j entry used again
    rcases used with ⟨data, rfl⟩ | rfl
    · rcases again with ⟨other, same⟩ | same
      · cases same
        rfl
      · cases same
    · rcases again with ⟨other, same⟩ | same
      · cases same
      · cases same
        rfl
  opening := by
    -- An opening is not sent by a reader.
    intro i j entry opens used
    subst opens
    rcases used with ⟨data, same⟩ | same
    · cases same
    · cases same

/-- Whatever a reader task sends uses or closes a session of its own. -/
theorem used_by_reader {log : List (Producer × Packet)}
    (sessions : (portSessions port).Sessions log) {stream : StreamId} {packet : Packet}
    (member : (.reader stream, packet) ∈ log) :
    (portSessions port).carries stream (.reader stream, packet) ∨
      (portSessions port).closes stream (.reader stream, packet) := by
  -- The packet is in one of the sessions, and is not its opening.
  obtain ⟨parts, rfl, each⟩ := sessions
  obtain ⟨part, among, held⟩ := List.mem_flatten.mp member
  obtain ⟨owner, first, body, rfl, opens, uses⟩ := (each part among).head
  rcases List.mem_cons.mp held with rfl | inside
  · cases opens
  · rcases uses _ inside with ⟨data, same⟩ | same
    · cases same
      exact .inl ⟨data, rfl⟩
    · cases same
      exact .inr rfl

/-- Sessions of a port do not overlap, and no reader sends behind the opening of a later stream. -/
theorem sessions_of_handover {labels : List Label} (run : machine.Run labels seen mux)
    (handover : machine.EachStep Handover labels) (port : UInt16) :
    (portSessions port).Sessions (ofPort port (enqueued seen)) ∧
      ∀ before after opener, ofPort port (enqueued seen) =
          before ++ (.addTcpStream opener, Packet.controlSocketOpen port) :: after →
        ∀ stream packet, (.reader stream, packet) ∈ after → opener ≤ stream := by
  have sessions := (orderly run handover port).sessions
  refine ⟨sessions, ?_⟩
  intro before after opener split stream packet member
  have among : (.reader stream, packet) ∈ ofPort port (enqueued seen) := by
    rw [split]
    simp [member]
  have used := used_by_reader sessions among
  obtain ⟨first, since, rfl⟩ :=
    sessions.opened_since (portSessions_unambiguous port) split rfl member used
  -- The sender was opened there or later, and streams are opened in the order of their calls.
  rcases List.mem_cons.mp since with same | later
  · cases same
    exact Nat.le_refl _
  · have ordered := (opened_in_call_order run).ordered.filter
      fun entry => entry.2.forPort? = some port
    change (ofPort port (enqueued seen)).Pairwise InCallOrder at ordered
    rw [split] at ordered
    have behind := (List.pairwise_cons.mp (List.pairwise_append.mp ordered).2.1).1
    exact Nat.le_of_lt (behind _ later opener stream rfl rfl)

end Mux

end BleManaged
