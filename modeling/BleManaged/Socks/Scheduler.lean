import BleManaged.Socks.Admission
import Mathlib.Data.List.Nodup

/-! The multiplexer when the scheduler drops the tasks that have been aborted. -/

namespace BleManaged

namespace Mux

/-- The task that takes a turn with a label, which a call of the owner is not. -/
def Label.task? : Label → Option Task
  | .addTcpStream | .waitForStopDueToDisconnect | .drop => none
  | .readTcp stream _ => some (.reader stream)
  | .l2capClosed => some .pipeInL2cap
  | .deserialized _ | .wroteTcp _ | .sendStop => some .pipeOutTcp
  | .sendKeepalive => some .keepalive
  | .pipeInTcp _ => some .pipeInTcp

/-- A task is there and has not ended. -/
def Runs (mux : Mux) : Task → Prop
  | .pipeInL2cap => mux.pipeInL2cap = .running
  | .pipeOutTcp => mux.pipeOutTcp ≠ .ended ∧ mux.pipeOutTcp ≠ .aborted
  | .pipeInTcp => mux.tcpToL2cap.task ≠ .aborted
  | .keepalive => mux.keepalive = .running
  | .reader stream => ∃ port, mux.readers stream = some { port, state := .running }

/-- The streams whose calls of `add_tcp_stream` have succeeded, in order. -/
def admitted (seen : List Event) : List StreamId :=
  seen.filterMap fun
    | .added stream (.ok _) => some stream
    | _ => none

/-- What is admitted is listed in order. -/
@[simp] theorem admitted_append (seen more : List Event) :
    admitted (seen ++ more) = admitted seen ++ admitted more := List.filterMap_append

/-- A task that takes a turn has not ended. -/
theorem Step.runs {mux next : Mux} {label : Label} {out : List Event} {task : Task}
    (step : Step mux label next out) (takes : label.task? = some task) : mux.Runs task := by
  -- Each step of a task has asked for the point at which the task is.
  cases step with
  | refused | unsent | added | stopRequested | drop => cases takes
  | read running | readerEnded running =>
    cases takes
    exact ⟨_, running⟩
  | l2capClosed running | sendKeepalive running =>
    cases takes
    exact running
  | pipeInTcp turned =>
    cases takes
    exact (TcpToL2cap.turn_alive turned).1
  | undecoded turn | skipped turn | unknownData turn | offered turn | unknownClosed _ turn
  | closed _ turn | wroteTcp turn | sendStop turn =>
    cases takes
    simp [Runs, turn]

/-- What a step that does not stop the mux spawns: nothing, or the reader of the present call. -/
inductive Spawns (mux next : Mux) : List StreamId → Prop where
  | nothing (tasks : next.tasks = mux.tasks) (calls : mux.calls ≤ next.calls)
      (runs : ∀ task, next.Runs task → mux.Runs task) : Spawns mux next []
  /-- The call has put its open packet in the queue, so the receiver is not dropped yet. -/
  | reader (alive : mux.tcpToL2cap.task ≠ .aborted)
      (tasks : next.tasks = mux.tasks ++ [.reader mux.calls]) (calls : next.calls = mux.calls + 1)
      (runs : ∀ task, next.Runs task → mux.Runs task ∨ task = .reader mux.calls) :
      Spawns mux next [mux.calls]

/-- A send admits no stream. -/
theorem admitted_enqueue (mux : Mux) (producer : Producer) (packet : Packet) (seen : List Event) :
    admitted ((mux.enqueue producer packet).2 :: seen) = admitted seen := by
  -- Whether it is put in the queue or not, a packet is no call.
  rcases enqueue_cases mux producer packet with ⟨_, same⟩ | ⟨_, same⟩ <;> rw [same] <;> rfl

/-- What can be seen of `pipe_in_tcp` admits no stream. -/
theorem admitted_l2cap (seen : List OutboundEvent) : admitted (seen.map .l2cap) = [] := by
  simp [admitted, List.filterMap_map]

/-- A send starts no task. -/
theorem enqueue_runs {mux : Mux} {producer : Producer} {packet : Packet} {task : Task} :
    (mux.enqueue producer packet).1.Runs task ↔ mux.Runs task := by
  cases task <;> simp [Runs]

/-- A call whose stream is added spawns its reader. -/
theorem spawns_added {mux : Mux} {tcpToL2cap : TcpToL2cap}
    (sent : mux.tcpToL2cap.send (Packet.controlSocketOpen mux.candidatePort) = some tcpToL2cap) :
    Spawns mux ({ mux.registered with tcpToL2cap }.spawnReader mux.calls mux.candidatePort)
      [mux.calls] := by
  obtain ⟨alive, rfl⟩ := TcpToL2cap.send_eq_some sent
  refine .reader alive rfl rfl fun task still => ?_
  cases task with
  | reader stream =>
    -- Another reader was there before the call.
    obtain ⟨port, still⟩ := still
    by_cases same : stream = mux.calls
    · exact .inr (by rw [same])
    · exact .inl ⟨port, by simpa [spawnReader, registered, counted, same] using still⟩
  | pipeInL2cap | pipeOutTcp | pipeInTcp | keepalive => exact .inl still

/-- A reader that ends leaves the other tasks alone. -/
theorem spawns_closeReader (mux : Mux) (stream : StreamId) (port : UInt16) :
    Spawns mux (mux.closeReader stream port).1 [] := by
  refine .nothing (by simp [closeReader]) (by simp [closeReader]) fun task still => ?_
  rw [closeReader, enqueue_runs] at still
  -- The reader itself is over, and it is the only one that has changed.
  cases task with
  | reader other =>
    obtain ⟨another, still⟩ := still
    by_cases same : other = stream
    · simp [same] at still
    · exact ⟨another, by simpa [same] using still⟩
  | pipeInL2cap | pipeOutTcp | pipeInTcp | keepalive => exact still

/-- A step that does not stop the mux spawns the readers of the calls it admits. -/
theorem Step.spawns {mux next : Mux} {label : Label} {out : List Event}
    (step : Step mux label next out) (stopless : ¬label.Stops) :
    Spawns mux next (admitted out) := by
  -- Only a call that goes through spawns a task, and no step revives one.
  cases step with
  | refused | unsent =>
    refine .nothing rfl (Nat.le_succ _) fun task still => ?_
    -- The counter has moved on, and a refused call leaves no other trace among the tasks.
    cases task <;> exact still
  | added _ sent => exact spawns_added sent
  | @readerEnded stream port =>
    have none : admitted (mux.closeReader stream port).2 = [] := admitted_enqueue _ _ _ []
    rw [none]
    exact spawns_closeReader mux stream port
  | @read stream port bytes =>
    have none : admitted [.tcpRead stream bytes,
        (mux.enqueue (.reader stream) (.data port bytes)).2] = [] := admitted_enqueue _ _ _ []
    rw [none]
    exact .nothing (by simp) (by simp) fun task => enqueue_runs.mp
  | sendKeepalive =>
    have none : admitted [(mux.enqueue .keepalive Packet.keepalive).2] = [] :=
      admitted_enqueue _ _ _ []
    rw [none]
    exact .nothing (by simp) (by simp) fun task => enqueue_runs.mp
  | pipeInTcp turned =>
    rw [admitted_l2cap]
    refine .nothing rfl (Nat.le_refl _) fun task still => ?_
    cases task <;> first | exact still | exact (TcpToL2cap.turn_alive turned).1
  | l2capClosed running =>
    refine .nothing rfl (Nat.le_refl _) fun task still => ?_
    cases task <;> first | exact still | exact running
  | undecoded turn | offered turn | wroteTcp turn | sendStop turn =>
    -- The task that moves has been running before.
    refine .nothing rfl (Nat.le_refl _) fun task still => ?_
    cases task <;> first | exact still | simp [Runs, turn]
  | skipped | unknownData | unknownClosed | closed =>
    refine .nothing rfl (Nat.le_refl _) fun task still => ?_
    cases task <;> exact still
  | stopRequested => exact absurd (.inr rfl) stopless
  | drop => exact absurd (.inl rfl) stopless

/-- A step that does not stop the mux neither drops nor revives the receiver of `tcp_to_l2cap`. -/
theorem Step.receiver {mux next : Mux} {label : Label} {out : List Event}
    (step : Step mux label next out) (stopless : ¬label.Stops) :
    next.tcpToL2cap.task = .aborted ↔ mux.tcpToL2cap.task = .aborted := by
  -- The receiver lives in its task, which only an abort ends.
  cases step with
  | added _ sent =>
    obtain ⟨_, rfl⟩ := TcpToL2cap.send_eq_some sent
    rfl
  | pipeInTcp turned =>
    have alive := TcpToL2cap.turn_alive turned
    exact iff_of_false alive.2 alive.1
  | read | sendKeepalive => simp
  | readerEnded => simp [closeReader]
  | stopRequested => exact absurd (.inr rfl) stopless
  | drop => exact absurd (.inl rfl) stopless
  | _ => rfl

end Mux

/-- The multiplexer in the hands of its owner, and the tasks that it has aborted and that the
scheduler has yet to drop. -/
structure ScheduledMux extends OwnedMux where
  aborting : List Task

namespace ScheduledMux

/-- Idempotently stop the mux. -/
def stop (scheduled : ScheduledMux) : ScheduledMux :=
  if scheduled.mux.stopped then scheduled
  else
    { scheduled with
      mux := { scheduled.mux with tasks := [], stopped := true }
      -- An abort returns at once, and the task keeps what it holds until it is dropped.
      aborting := scheduled.aborting ++ scheduled.mux.tasks }

/-- Receive a stop request and stop the mux. -/
def waitForStopDueToDisconnect (scheduled : ScheduledMux) : Option ScheduledMux :=
  match scheduled.mux.stopDueToDisconnect with
  | _ :: requests =>
    some
      { scheduled with mux := { scheduled.mux with stopDueToDisconnect := requests } }.stop
  | [] => none

/-- What can happen next. -/
inductive Label where
  /-- A call or a turn. A receive of `pipe_in_tcp` does not fail: until the stop the mux holds a
  sender, and from then on the task takes no turn. -/
  | mux (label : Mux.Label)
  /-- The scheduler comes to a task that has been aborted, and drops it. -/
  | dropped (task : Task)

/-- What a label is for a mux whose tasks are dropped as soon as they are aborted. -/
def Label.owned? : Label → Option OwnedMux.Label
  | .mux label => some (.mux label)
  | .dropped _ => none

/-- The labels that stop the mux. -/
def Label.Stops (label : Label) : Prop :=
  label = .mux .drop ∨ label = .mux .waitForStopDueToDisconnect

/-- What a call of the owner or a turn of a task does. -/
def muxStep (scheduled : ScheduledMux) : Mux.Label → Option (ScheduledMux × List Event)
  | .drop => some ({ scheduled.stop with dropped := true }, [])
  | .waitForStopDueToDisconnect =>
    scheduled.waitForStopDueToDisconnect.map fun stopped => (stopped, [])
  | label =>
    (scheduled.mux.step label).map fun result => ({ scheduled with mux := result.1 }, result.2)

/-- The effect of one label. -/
def step (scheduled : ScheduledMux) : Label → Option (ScheduledMux × List Event)
  | .mux label =>
    -- A mux that has been dropped is not called any more.
    if scheduled.dropped ∧ OwnedMux.Called label then none
    -- A task that has been aborted takes no turn any more, though it is still there. The runtime
    -- has one thread, so no task is amid a turn when it is aborted.
    else if ∃ task ∈ scheduled.aborting, label.task? = some task then none
    else scheduled.muxStep label
  | .dropped task =>
    if task ∈ scheduled.aborting then
      some ({ scheduled with
        mux := scheduled.mux.abort task, aborting := scheduled.aborting.erase task }, [])
    else none

/-- The multiplexer, its owner and the scheduler. -/
def machine : Lts ScheduledMux Label Event where
  init := { mux := Mux.createAndStart, dropped := false, aborting := [] }
  step := step

/-- A task is there and can take another turn. -/
def GoesOn (scheduled : ScheduledMux) (task : Task) : Prop :=
  scheduled.mux.Runs task ∧ task ∉ scheduled.aborting

/-- The mux once the scheduler has come to all the tasks that have been aborted. -/
def settled (scheduled : ScheduledMux) : OwnedMux :=
  { scheduled.toOwnedMux with mux := scheduled.mux.abortAll scheduled.aborting }

/-- Every step, with what it does to the tasks. -/
inductive Step (scheduled : ScheduledMux) : Label → ScheduledMux → List Event → Prop where
  /-- A call that does not stop the mux, or a turn of a task that has not been aborted. -/
  | mux {label mux out} (stopless : ¬label.Stops)
      (called : scheduled.dropped = true → ¬OwnedMux.Called label)
      (present : ∀ task, label.task? = some task → task ∉ scheduled.aborting)
      (taken : scheduled.mux.step label = some (mux, out)) :
      Step scheduled (.mux label) { scheduled with mux } out
  | stopRequested {request requests} (held : scheduled.dropped = false)
      (requested : scheduled.mux.stopDueToDisconnect = request :: requests) :
      Step scheduled (.mux .waitForStopDueToDisconnect)
        { scheduled with mux := { scheduled.mux with stopDueToDisconnect := requests } }.stop []
  | drop (held : scheduled.dropped = false) :
      Step scheduled (.mux .drop) { scheduled.stop with dropped := true } []
  | dropped {task} (aborted : task ∈ scheduled.aborting) :
      Step scheduled (.dropped task)
        { scheduled with
          mux := scheduled.mux.abort task, aborting := scheduled.aborting.erase task } []

/-- What does not stop the mux is done by the mux alone. -/
theorem muxStep_stopless {scheduled : ScheduledMux} {label : Mux.Label} (stopless : ¬label.Stops) :
    scheduled.muxStep label = (scheduled.mux.step label).map fun result =>
      ({ scheduled with mux := result.1 }, result.2) := by
  -- The two labels that stop the mux are excluded, and all others are taken alike.
  cases label with
  | drop => exact absurd (.inl rfl) stopless
  | waitForStopDueToDisconnect => exact absurd (.inr rfl) stopless
  | _ => rfl

/-- The scheduler and the mux take no other steps. -/
theorem step_cases {scheduled next : ScheduledMux} {label : Label} {out : List Event}
    (taken : scheduled.step label = some (next, out)) : Step scheduled label next out := by
  cases label with
  | dropped task =>
    simp only [step] at taken
    split at taken
    · rename_i aborted
      cases taken
      exact .dropped aborted
    · cases taken
  | mux label =>
    simp only [step] at taken
    -- A call of a dropped mux and a turn of an aborted task are refused.
    split at taken
    · cases taken
    rename_i called
    split at taken
    · cases taken
    rename_i present
    by_cases stops : label.Stops
    · have held : scheduled.dropped = false := by
        rcases stops with rfl | rfl <;> simpa [OwnedMux.Called] using called
      rcases stops with rfl | rfl
      · cases taken
        exact .drop held
      · -- A stop request is taken only if there is one.
        simp only [muxStep, waitForStopDueToDisconnect, Option.map_eq_some_iff] at taken
        obtain ⟨stopped, received, same⟩ := taken
        cases same
        split at received
        · rename_i requested
          cases received
          exact .stopRequested held requested
        · cases received
    · rw [muxStep_stopless stops] at taken
      obtain ⟨⟨mux, seen⟩, went, same⟩ := Option.map_eq_some_iff.mp taken
      cases same
      exact .mux stops (not_and.mp called)
        (fun task turn aborted => present ⟨task, aborted, turn⟩) went

end ScheduledMux

end BleManaged
