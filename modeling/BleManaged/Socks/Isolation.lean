import BleManaged.Socks.MuxLaws

/-! Each port is served as if it were the only one. -/

namespace BleManaged

/-- What happens to one port of the map. -/
inductive PortItem where
  /-- A stream is registered. -/
  | registered
  /-- A data packet arrives. -/
  | data (data : Bytes)
  /-- A close packet arrives. -/
  | closed
  deriving DecidableEq, Repr

/-- What is done for one port of the map. -/
inductive PortService where
  /-- A new writer is served from now on. -/
  | writer
  /-- The current writer is offered a buffer. -/
  | buffer (data : Bytes)
  deriving DecidableEq, Repr

namespace PortService

/-- A port on its own: whether it is registered, and what one item makes of it. -/
def serve : Bool → PortItem → Bool × List PortService
  | _, .registered => (true, [.writer])
  -- Empty data is dropped before the map is asked.
  | true, .data data => (true, if data = [] then [] else [.buffer data])
  | false, .data _ => (false, [])
  | _, .closed => (false, [])

/-- What a sequence of items makes of a port that starts out unregistered. -/
def serveAll (items : List PortItem) : Bool × List PortService :=
  -- The services are collected in the order of the items.
  items.foldl (fun before item =>
    ((serve before.1 item).1, before.2 ++ (serve before.1 item).2)) (false, [])

/-- One more item is served from the state the others have led to. -/
theorem serveAll_concat (items : List PortItem) (item : PortItem) :
    serveAll (items ++ [item]) =
      ((serve (serveAll items).1 item).1,
        (serveAll items).2 ++ (serve (serveAll items).1 item).2) := by
  -- The fold ends with the new item.
  simp [serveAll]

end PortService

namespace Mux

/-- The item by which an event concerns a port. -/
def concern (port : UInt16) : Event → Option PortItem
  -- A refused call inserts nothing, and so does not concern the port.
  | .table (.insert named _) => if named = port then some .registered else none
  | .dispatched (.data named data) _ => if named = port then some (.data data) else none
  | .dispatched (.control msgType named status _) _ =>
    if msgType = 1 ∧ status = 0 ∧ named = port then some .closed else none
  | _ => none

/-- The registrations, data packets and close packets of a port, in order. -/
def concerning (port : UInt16) (seen : List Event) : List PortItem :=
  seen.filterMap (concern port)

/-- The service an event is to a port. -/
def service (port : UInt16) : Event → Option PortService
  | .table (.insert named _) => if named = port then some .writer else none
  | .offered named _ data => if named = port then some (.buffer data) else none
  | _ => none

/-- The writers of a port and the buffers each of them was offered, in order. -/
def served (port : UInt16) (seen : List Event) : List PortService :=
  seen.filterMap (service port)

/-- The multiplexer has served a port as the port on its own would have been. -/
def Refines (port : UInt16) (seen : List Event) (mux : Mux) : Prop :=
  -- What the other ports were sent does not appear on the left.
  PortService.serveAll (concerning port seen) =
    ((mux.portToTcpStream port).isSome, served port seen)

variable {port : UInt16} {seen out : List Event} {mux next : Mux} {label : Label}

/-- A step that does not concern a port does nothing for it. -/
theorem Refines.silent (refines : Refines port seen mux) (nothing : concerning port out = [])
    (none : served port out = [])
    (kept : (next.portToTcpStream port).isSome = (mux.portToTcpStream port).isSome) :
    Refines port (seen ++ out) next := by
  -- Both sides stay as they are.
  simp only [Refines, concerning, served, List.filterMap_append] at *
  rw [nothing, none, List.append_nil, List.append_nil, refines, kept]

/-- A step that is one item for a port does for it what the item asks. -/
theorem Refines.item (refines : Refines port seen mux) (item : PortItem)
    (heard : concerning port out = [item])
    (done : PortService.serve (mux.portToTcpStream port).isSome item =
      ((next.portToTcpStream port).isSome, served port out)) :
    Refines port (seen ++ out) next := by
  -- Both sides serve the same item from the same state.
  simp only [Refines, concerning, served, List.filterMap_append] at *
  rw [heard, PortService.serveAll_concat, refines, done]

/-- A step is one item for the port it names, and nothing for any other port. -/
theorem Refines.about (refines : Refines port seen mux) (named : UInt16) (item : PortItem)
    (mine : named = port → concerning port out = [item] ∧
      PortService.serve (mux.portToTcpStream port).isSome item =
        ((next.portToTcpStream port).isSome, served port out))
    (other : named ≠ port → concerning port out = [] ∧ served port out = [] ∧
      (next.portToTcpStream port).isSome = (mux.portToTcpStream port).isSome) :
    Refines port (seen ++ out) next := by
  by_cases same : named = port
  · obtain ⟨heard, done⟩ := mine same
    exact refines.item item heard done
  · obtain ⟨nothing, none, kept⟩ := other same
    exact refines.silent nothing none kept

/-- Every step serves the port it concerns, and no other. -/
theorem Refines.step (refines : Refines port seen mux) (step : Step mux label next out) :
    Refines port (seen ++ out) next := by
  -- Each branch either names a port and is one item for it, or leaves all entries alone.
  cases step with
  | unsent | added =>
    refine refines.about mux.candidatePort .registered ?_ ?_
    · intro mine
      simp [concerning, concern, served, service, mine, List.filterMap_cons, PortService.serve,
        registered, spawnReader]
    · intro other
      simp [concerning, concern, served, service, other, List.filterMap_cons, registered, counted,
        spawnReader, Ne.symm other]
  | @offered named writer data turn nonempty known =>
    refine refines.about named (.data data) ?_ ?_
    · intro mine
      subst mine
      simp [concerning, concern, served, service, List.filterMap_cons, PortService.serve, known,
        nonempty]
    · intro other
      simp [concerning, concern, served, service, List.filterMap_cons, other]
  | @unknownData named data turn nonempty unknown =>
    -- The item finds no writer, and the map stays as it is.
    refine refines.about named (.data data) ?_ ?_
    · intro mine
      subst mine
      simp [concerning, concern, served, service, List.filterMap_cons, PortService.serve, unknown]
    · intro other
      simp [concerning, concern, served, service, List.filterMap_cons, other]
  | @closed named writer rawData turn known =>
    refine refines.about named .closed ?_ ?_
    · intro mine
      subst mine
      simp [concerning, concern, served, service, List.filterMap_cons, PortService.serve]
    · intro other
      simp [concerning, concern, served, service, List.filterMap_cons, other, Ne.symm other]
  | @unknownClosed named rawData turn unknown =>
    refine refines.about named .closed ?_ ?_
    · intro mine
      subst mine
      simp [concerning, concern, served, service, List.filterMap_cons, PortService.serve, unknown]
    · intro other
      simp [concerning, concern, served, service, List.filterMap_cons, other]
  | skipped turn unserved =>
    cases unserved with
    | @emptyPacket named =>
      -- An empty data packet is an item of its port, but no buffer is offered for it.
      refine refines.about named (.data []) ?_ ?_
      · intro mine
        subst mine
        refine ⟨by simp [concerning, concern, List.filterMap_cons], ?_⟩
        cases (mux.portToTcpStream named).isSome with
        | true => simp [served, service, List.filterMap_cons, PortService.serve]
        | false => simp [served, service, List.filterMap_cons, PortService.serve]
      · intro other
        simp [concerning, concern, served, service, List.filterMap_cons, other]
    | keepalive | openRequest => exact refines.silent rfl rfl rfl
    | unknownMsgType _ notStatus =>
      exact refines.silent (by simp [concerning, concern, notStatus, List.filterMap_cons]) rfl rfl
    | unknownStatus notClosed _ =>
      exact refines.silent (by simp [concerning, concern, notClosed, List.filterMap_cons]) rfl rfl
  | read | readerEnded =>
    exact refines.silent (reader_unseen rfl rfl rfl _) (reader_unseen rfl rfl rfl _)
      (by simp [closeReader])
  | sendKeepalive =>
    exact refines.silent (enqueue_unseen rfl rfl _) (enqueue_unseen rfl rfl _) (by simp)
  | pipeInTcp =>
    exact refines.silent (l2cap_unseen (fun _ => rfl) _) (l2cap_unseen (fun _ => rfl) _) rfl
  | stopRequested | drop => exact refines.silent rfl rfl (by simp)
  | refused | l2capClosed | undecoded | wroteTcp | sendStop => exact refines.silent rfl rfl rfl

/-- In every reachable state each port has been served as if it were the only one. -/
theorem refines {labels : List Label} {seen : List Event} {mux : Mux}
    (run : machine.Run labels seen mux) (port : UInt16) : Refines port seen mux := by
  -- A new multiplexer has served nobody.
  refine run.invariant (Refines port) rfl ?_
  intro labels seen state label next out _ refines taken
  exact refines.step (step_cases taken)

/-- Runs that agree on what concerns a port agree on its buffers and on its registration. -/
theorem served_of_concerning {labels others : List Label} {seen shown : List Event}
    {mux other : Mux} (run : machine.Run labels seen mux) (again : machine.Run others shown other)
    {port : UInt16} (agree : concerning port seen = concerning port shown) :
    served port seen = served port shown ∧
      (mux.portToTcpStream port).isSome = (other.portToTcpStream port).isSome := by
  -- Both runs have done what the port on its own does with the same items.
  have first := refines run port
  have second := refines again port
  rw [Refines, agree, second] at first
  obtain ⟨kept, same⟩ := Prod.ext_iff.mp first
  exact ⟨same.symm, kept.symm⟩

/-- A failing stream on another port changes nothing for port one. -/
theorem served_of_concerning_failing_neighbour :
    ∃ seen mux shown other,
      machine.Run [.addTcpStream, .deserialized (.ok (.data 1 [7]))] seen mux ∧
      machine.Run [.addTcpStream, .addTcpStream, .deserialized (.ok (.data 2 [9])),
        .wroteTcp .error, .deserialized (.ok (.data 1 [7]))] shown other ∧
      served 1 seen = [.writer, .buffer [7]] ∧ served 1 seen = served 1 shown ∧
      (mux.portToTcpStream 1).isSome = (other.portToTcpStream 1).isSome := by
  obtain ⟨seen, mux, run, quiet, heard⟩ : ∃ seen mux,
      machine.Run [.addTcpStream, .deserialized (.ok (.data 1 [7]))] seen mux ∧
      concerning 1 seen = [.registered, .data [7]] ∧ served 1 seen = [.writer, .buffer [7]] :=
    ⟨_, _, Lts.Run.of_exec rfl, rfl, rfl⟩
  obtain ⟨shown, other, again, busy⟩ : ∃ shown other,
      machine.Run [.addTcpStream, .addTcpStream, .deserialized (.ok (.data 2 [9])),
        .wroteTcp .error, .deserialized (.ok (.data 1 [7]))] shown other ∧
      concerning 1 shown = [.registered, .data [7]] :=
    ⟨_, _, Lts.Run.of_exec rfl, rfl⟩
  have agree : concerning 1 seen = concerning 1 shown := by rw [quiet, busy]
  exact ⟨seen, mux, shown, other, run, again, heard, served_of_concerning run again agree⟩

end Mux

end BleManaged
