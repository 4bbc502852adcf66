import BleManaged.Socks.Scheduler
import Mathlib.Data.List.Perm.Basic

/-! What is left of the multiplexer when it is stopped. -/

namespace BleManaged

/-- What can be observed of calls of `add_tcp_stream` that return an error, and of nothing else. -/
def Event.Refusal : Event → Prop
  | .table (.containsKey _) | .table (.insert _ _) => True
  | .sendFailed (.addTcpStream _) _ => True
  | .added _ (.error _) => True
  | _ => False

/-- An aborted task does not run. -/
theorem TaskState.abort_ne_running (state : TaskState) : state.abort ≠ .running := by
  cases state <;> simp [TaskState.abort]

namespace Mux

/-- A task that is dropped does not run, and the other tasks do not notice. -/
theorem abort_runs {mux : Mux} {dropped task : Task} (runs : (mux.abort dropped).Runs task) :
    mux.Runs task ∧ task ≠ dropped := by
  -- Each kind of task has its own state, and dropping it touches that one only.
  cases dropped with
  | reader stream =>
    cases task with
    | reader other =>
      obtain ⟨port, still⟩ := runs
      by_cases same : other = stream
      · -- The reader itself is aborted, if it is there at all.
        subst same
        simp only [abort, Function.update_self, Option.map_eq_some_iff] at still
        obtain ⟨reader, _, aborted⟩ := still
        exact absurd (congrArg ReaderTask.state aborted) (TaskState.abort_ne_running _)
      · exact ⟨⟨port, by simpa [abort, same] using still⟩, by simp [same]⟩
    | pipeInL2cap | pipeOutTcp | pipeInTcp | keepalive => exact ⟨runs, by simp⟩
  | pipeInL2cap =>
    cases task <;> first | exact ⟨runs, by simp⟩ | exact absurd runs (TaskState.abort_ne_running _)
  | keepalive =>
    cases task <;> first | exact ⟨runs, by simp⟩ | exact absurd runs (TaskState.abort_ne_running _)
  | pipeInTcp => cases task <;> first | exact ⟨runs, by simp⟩ | exact absurd rfl runs
  | pipeOutTcp =>
    cases task with
    | pipeOutTcp =>
      obtain ⟨ended, aborted⟩ := runs
      cases state : mux.pipeOutTcp <;> simp [abort, PipeOutTcp.abort, state] at ended aborted
    | pipeInL2cap | pipeInTcp | keepalive | reader stream => exact ⟨runs, by simp⟩

/-- It does not matter in which order two tasks are dropped. -/
theorem abort_comm (mux : Mux) (one other : Task) :
    (mux.abort one).abort other = (mux.abort other).abort one := by
  -- Two tasks of different kinds have nothing in common, and two readers differ in their streams.
  cases one with
  | reader stream =>
    cases other with
    | reader another =>
      by_cases same : another = stream
      · rw [same]
      · simp [abort, same, Ne.symm same, Function.update_comm same]
    | pipeInL2cap | pipeOutTcp | pipeInTcp | keepalive => rfl
  | pipeInL2cap | pipeOutTcp | pipeInTcp | keepalive => cases other <;> rfl

/-- A change of the mux that no abort notices can be made before all of them. -/
theorem abortAll_commutes (change : Mux → Mux)
    (unnoticed : ∀ mux task, (change mux).abort task = change (mux.abort task))
    (mux : Mux) (tasks : List Task) :
    (change mux).abortAll tasks = change (mux.abortAll tasks) := by
  -- The first task of the list is the last one to be aborted.
  induction tasks with
  | nil => rfl
  | cons task tasks ih =>
    show ((change mux).abortAll tasks).abort task = change ((mux.abortAll tasks).abort task)
    rw [ih, unnoticed]

/-- It does not matter in which order all the tasks are dropped. -/
theorem abortAll_perm (mux : Mux) {tasks others : List Task} (perm : tasks.Perm others) :
    mux.abortAll tasks = mux.abortAll others :=
  perm.foldr_eq' (fun one _ other _ prior => abort_comm prior one other) mux

/-- A mux stopped at once is one whose tasks are dropped after it has been stopped. -/
theorem stop_eq {mux : Mux} (running : mux.stopped = false) :
    mux.stop = { mux with tasks := [], stopped := true }.abortAll mux.tasks := by
  have later := abortAll_commutes (fun mux => { mux with tasks := [], stopped := true })
    (fun _ task => by cases task <;> rfl) mux mux.tasks
  rw [stop, if_neg (by simp [running])]
  exact later.symm

/-- Once the receiver is gone, a call does not notice whether another task has been dropped. -/
theorem addTcpStream_abort {mux : Mux} (gone : mux.tcpToL2cap.task = .aborted) (task : Task) :
    (mux.abort task).addTcpStream = (mux.addTcpStream.1.abort task, mux.addTcpStream.2) := by
  have failed (packet : Packet) : mux.tcpToL2cap.send packet = none := by
    simp [TcpToL2cap.send, gone]
  -- A dropped task takes no receiver along that is not gone already.
  have still (packet : Packet) : (mux.abort task).tcpToL2cap.send packet = none := by
    cases task <;> first | exact failed packet | rfl
  have port : (mux.abort task).candidatePort = mux.candidatePort := by cases task <;> rfl
  have table : (mux.abort task).portToTcpStream = mux.portToTcpStream := by cases task <;> rfl
  have calls : (mux.abort task).calls = mux.calls := by cases task <;> rfl
  have counted : (mux.abort task).counted = mux.counted.abort task := by cases task <;> rfl
  have registered : (mux.abort task).registered = mux.registered.abort task := by
    cases task <;> rfl
  -- The call asks for its port, which is the same one, and then sends in vain.
  simp only [addTcpStream, port, table, calls, failed, still]
  split <;> simp [counted, registered]

/-- A task that is dropped does not revive the receiver. -/
theorem abortAll_gone {mux : Mux} (gone : mux.tcpToL2cap.task = .aborted) (tasks : List Task) :
    (mux.abortAll tasks).tcpToL2cap.task = .aborted := by
  -- Each task on its own leaves the receiver gone.
  induction tasks with
  | nil => exact gone
  | cons task tasks ih =>
    show ((mux.abortAll tasks).abort task).tcpToL2cap.task = .aborted
    cases task <;> first | exact ih | rfl

/-- Once the receiver is gone, a call does not notice which other tasks have been dropped. -/
theorem addTcpStream_abortAll {mux : Mux} (gone : mux.tcpToL2cap.task = .aborted)
    (tasks : List Task) :
    (mux.abortAll tasks).addTcpStream =
      (mux.addTcpStream.1.abortAll tasks, mux.addTcpStream.2) := by
  -- The tasks are dropped one by one, and the call notices none of them.
  induction tasks with
  | nil => rfl
  | cons task tasks ih =>
    show ((mux.abortAll tasks).abort task).addTcpStream = _
    rw [addTcpStream_abort (abortAll_gone gone tasks), ih]
    rfl

end Mux

namespace ScheduledMux

/-- What runs is tracked or has been aborted, once, and so has the receiver of `tcp_to_l2cap`. -/
structure Tracked (scheduled : ScheduledMux) : Prop where
  tracked : ∀ task, scheduled.mux.Runs task →
    task ∈ scheduled.aborting ∨ task ∈ scheduled.mux.tasks
  once : (scheduled.aborting ++ scheduled.mux.tasks).Nodup
  /-- Reader tasks belong to calls that have been made. -/
  fresh : ∀ stream, .reader stream ∈ scheduled.aborting ++ scheduled.mux.tasks →
    stream < scheduled.mux.calls
  /-- Nothing is aborted before the mux is stopped. -/
  running : scheduled.mux.stopped = false →
    scheduled.aborting = [] ∧ .pipeInTcp ∈ scheduled.mux.tasks
  /-- The receiver is dropped with its task, and not before. -/
  receiver : scheduled.mux.stopped = true →
    .pipeInTcp ∈ scheduled.aborting ∨ scheduled.mux.tcpToL2cap.task = .aborted

/-- The four tasks of `create_and_start` are tracked from the beginning. -/
theorem tracked_init : machine.init.Tracked where
  tracked := by
    -- Before the first call there are no readers.
    intro task runs
    cases task with
    | reader stream =>
      obtain ⟨port, still⟩ := runs
      cases still
    | pipeInL2cap | pipeOutTcp | pipeInTcp | keepalive =>
      simp [machine, Mux.createAndStart]
  once := by decide
  fresh := by simp [machine, Mux.createAndStart]
  running := fun _ => ⟨rfl, by decide⟩
  receiver := fun stopped => by cases stopped

/-- A stop moves the tracked tasks to those that the scheduler has yet to drop. -/
theorem Tracked.stop {scheduled : ScheduledMux} (tracked : scheduled.Tracked) :
    scheduled.stop.Tracked := by
  -- A mux that has been stopped before is left as it is.
  by_cases stopped : scheduled.mux.stopped = true
  · rwa [ScheduledMux.stop, if_pos stopped]
  have running : scheduled.mux.stopped = false := by simpa using stopped
  rw [ScheduledMux.stop, if_neg stopped]
  refine ⟨fun task runs => ?_, ?_, ?_, fun still => ?_, fun _ => ?_⟩
  · have among : scheduled.mux.Runs task := by cases task <;> exact runs
    exact .inl (List.mem_append.mpr (tracked.tracked task among))
  · simpa using tracked.once
  · simpa using tracked.fresh
  · cases still
  · exact .inl (List.mem_append_right _ (tracked.running running).2)

/-- A task that is dropped neither runs nor is it still to be dropped. -/
theorem Tracked.dropped {scheduled : ScheduledMux} (tracked : scheduled.Tracked) {task : Task}
    (aborted : task ∈ scheduled.aborting) :
    Tracked { scheduled with
      mux := scheduled.mux.abort task, aborting := scheduled.aborting.erase task } := by
  have tasks : (scheduled.mux.abort task).tasks = scheduled.mux.tasks := by cases task <;> rfl
  have calls : (scheduled.mux.abort task).calls = scheduled.mux.calls := by cases task <;> rfl
  have stopped : (scheduled.mux.abort task).stopped = scheduled.mux.stopped := by
    cases task <;> rfl
  -- One task less is to be dropped, and the tracked ones stay as they are.
  have fewer : (scheduled.aborting.erase task ++ scheduled.mux.tasks).Sublist
      (scheduled.aborting ++ scheduled.mux.tasks) := List.erase_sublist.append_right _
  refine ⟨fun other runs => ?_, ?_, ?_, fun running => ?_, fun halted => ?_⟩
  · obtain ⟨before, differ⟩ := Mux.abort_runs runs
    rw [tasks]
    exact (tracked.tracked other before).imp_left (List.mem_erase_of_ne differ).mpr
  · rw [tasks]
    exact tracked.once.sublist fewer
  · rw [tasks, calls]
    exact fun stream member => tracked.fresh stream (fewer.mem member)
  · -- Before the stop there is nothing to be dropped.
    rw [stopped] at running
    rw [(tracked.running running).1] at aborted
    cases aborted
  · rw [stopped] at halted
    by_cases own : task = .pipeInTcp
    · -- The receiver is dropped with its own task.
      subst own
      exact .inr rfl
    · refine (tracked.receiver halted).imp (List.mem_erase_of_ne (Ne.symm own)).mpr ?_
      cases task <;> first | exact id | exact absurd rfl own

/-- What does not stop the mux tracks what it spawns. -/
theorem Tracked.mux {scheduled : ScheduledMux} (tracked : scheduled.Tracked) {mux : Mux}
    {label : Mux.Label} {out : List Event} (stopless : ¬label.Stops)
    (step : Mux.Step scheduled.mux label mux out) : Tracked { scheduled with mux } := by
  have same : mux.stopped = scheduled.mux.stopped := by
    rw [Bool.eq_iff_iff, step.stopped_iff, or_iff_left stopless]
  have receiver := step.receiver stopless
  have spawns := step.spawns stopless
  generalize Mux.admitted out = streams at spawns
  obtain ⟨all, once, fresh, running, closing⟩ := tracked
  -- A step spawns at most the reader of its own call.
  cases spawns with
  | nothing tasks calls runs =>
    refine ⟨fun task still => ?_, ?_, ?_, ?_, ?_⟩ <;> simp only [tasks, same, receiver]
    · exact all task (runs task still)
    · exact once
    · exact fun stream member => Nat.lt_of_lt_of_le (fresh stream member) calls
    · exact running
    · exact closing
  | reader alive tasks calls runs =>
    -- The reader of the present call is new, since all the others belong to earlier calls.
    have new : .reader scheduled.mux.calls ∉ scheduled.aborting ++ scheduled.mux.tasks :=
      fun member => Nat.lt_irrefl _ (fresh _ member)
    refine ⟨fun task still => ?_, ?_, ?_, ?_, ?_⟩ <;> simp only [tasks, same, receiver, calls]
    · rcases runs task still with before | rfl
      · exact (all task before).imp_right (List.mem_append_left _)
      · simp
    · rw [← List.append_assoc, List.nodup_append_comm, List.singleton_append, List.nodup_cons]
      exact ⟨new, once⟩
    · intro stream member
      rw [← List.append_assoc, List.mem_append, List.mem_singleton] at member
      rcases member with before | own
      · exact Nat.lt_succ_of_lt (fresh stream before)
      · cases own
        exact Nat.lt_succ_self _
    · exact fun up => (running up).imp_right (List.mem_append_left _)
    · exact closing

/-- A stop request that is received leaves the tasks alone. -/
theorem Tracked.received {scheduled : ScheduledMux} (tracked : scheduled.Tracked)
    (requests : List Bool) :
    Tracked { scheduled with
      mux := { scheduled.mux with stopDueToDisconnect := requests } } where
  tracked := fun task runs => tracked.tracked task (by cases task <;> exact runs)
  once := tracked.once
  fresh := tracked.fresh
  running := tracked.running
  receiver := tracked.receiver

/-- Every step keeps the tasks tracked. -/
theorem Tracked.step {scheduled next : ScheduledMux} {label : Label} {out : List Event}
    (tracked : scheduled.Tracked) (step : Step scheduled label next out) : next.Tracked := by
  -- Stops move the tasks from one list to the other, and the scheduler empties the second one.
  cases step with
  | mux stopless _ _ taken => exact tracked.mux stopless (Mux.step_cases taken)
  | @stopRequested _ requests => exact (tracked.received requests).stop
  | drop =>
    obtain ⟨all, once, fresh, running, receiver⟩ := tracked.stop
    exact ⟨all, once, fresh, running, receiver⟩
  | dropped aborted => exact tracked.dropped aborted

/-- In every run the tasks are tracked. -/
theorem tracked {labels : List Label} {seen : List Event} {scheduled : ScheduledMux}
    (run : machine.Run labels seen scheduled) : scheduled.Tracked := by
  -- The induction is on the run, and what is observed does not matter.
  refine run.invariant (fun _ scheduled => scheduled.Tracked) tracked_init ?_
  intro labels seen scheduled label next out _ tracked taken
  exact tracked.step (step_cases taken)

/-- A stopped mux stays stopped. -/
@[simp] theorem stop_stopped (scheduled : ScheduledMux) : scheduled.stop.mux.stopped = true := by
  unfold ScheduledMux.stop
  split
  · assumption
  · rfl

/-- Stopping once more does nothing. -/
theorem stop_of_stopped {scheduled : ScheduledMux} (stopped : scheduled.mux.stopped = true) :
    scheduled.stop = scheduled := by
  -- The flag is asked before any task is aborted.
  rw [ScheduledMux.stop, if_pos stopped]

/-- The mux is stopped by a drop or a request, and by nothing else. -/
theorem Step.stopped_iff {scheduled next : ScheduledMux} {label : Label} {out : List Event}
    (step : Step scheduled label next out) :
    next.mux.stopped = true ↔ scheduled.mux.stopped = true ∨ label.Stops := by
  -- Only the two stops set the flag, and nothing clears it.
  cases step with
  | @mux label _ _ stopless _ _ taken =>
    have other : ¬(Label.mux label).Stops := by
      simpa [Label.Stops, Mux.Label.Stops] using stopless
    rw [(Mux.step_cases taken).stopped_iff, or_iff_left stopless, or_iff_left other]
  | stopRequested | drop => simp [Label.Stops]
  | @dropped task => cases task <;> simp [Label.Stops, Mux.abort]

/-- A mux has been stopped when one of the labels stopped it. -/
theorem stopped_iff {labels : List Label} {seen : List Event} {scheduled : ScheduledMux}
    (run : machine.Run labels seen scheduled) :
    scheduled.mux.stopped = true ↔ ∃ label ∈ labels, label.Stops := by
  -- The induction is on the run, whose last label stops the mux or leaves the flag alone.
  induction run with
  | start => simp [machine, Mux.createAndStart]
  | snoc before taken ih =>
    rw [(step_cases taken).stopped_iff, ih]
    simp [or_and_right, exists_or]

/-- What a stopped mux does from one moment to a later one. -/
structure Remains (scheduled last : ScheduledMux) (out : List Event) : Prop where
  stopped : last.mux.stopped = true
  /-- No more tasks are aborted. -/
  aborting : last.aborting.Sublist scheduled.aborting
  /-- Only the readers of the calls that have succeeded are tracked since. -/
  tasks : last.mux.tasks = scheduled.mux.tasks ++ (Mux.admitted out).map .reader
  /-- No call succeeds once `pipe_in_tcp` has been dropped. -/
  admitted : .pipeInTcp ∉ scheduled.aborting → Mux.admitted out = []
  /-- If no task is tracked then, only refused calls can be observed. -/
  refusals : .pipeInTcp ∉ scheduled.aborting → scheduled.mux.tasks = [] →
    ∀ event ∈ out, event.Refusal

/-- What a stopped mux does at no moment is nothing. -/
theorem Remains.refl {scheduled : ScheduledMux} (stopped : scheduled.mux.stopped = true) :
    Remains scheduled scheduled [] :=
  ⟨stopped, .refl _, by simp [Mux.admitted], fun _ => rfl, by simp⟩

/-- What a stopped mux does until later it does first and then. -/
theorem Remains.trans {scheduled middle last : ScheduledMux} {first out : List Event}
    (earlier : Remains scheduled middle first) (later : Remains middle last out) :
    Remains scheduled last (first ++ out) := by
  -- What has been dropped before is not to be dropped again.
  have gone (dropped : .pipeInTcp ∉ scheduled.aborting) : .pipeInTcp ∉ middle.aborting :=
    fun member => dropped (earlier.aborting.mem member)
  refine ⟨later.stopped, later.aborting.trans earlier.aborting, ?_, fun dropped => ?_,
    fun dropped none => ?_⟩
  · rw [later.tasks, earlier.tasks, Mux.admitted_append, List.map_append, List.append_assoc]
  · rw [Mux.admitted_append, earlier.admitted dropped, later.admitted (gone dropped),
      List.append_nil]
  · have still : middle.mux.tasks = [] := by
      rw [earlier.tasks, none, earlier.admitted dropped]
      rfl
    intro event member
    rcases List.mem_append.mp member with before | after
    · exact earlier.refusals dropped none event before
    · exact later.refusals (gone dropped) still event after

/-- A task that can take a turn is tracked. -/
theorem Tracked.goesOn {scheduled : ScheduledMux} (tracked : scheduled.Tracked) {task : Task}
    (goesOn : scheduled.GoesOn task) : task ∈ scheduled.mux.tasks :=
  (tracked.tracked task goesOn.1).resolve_left goesOn.2

/-- If no task is tracked, a step that does not stop the mux is a call. -/
theorem Tracked.called {scheduled : ScheduledMux} (tracked : scheduled.Tracked)
    (none : scheduled.mux.tasks = []) {mux : Mux} {label : Mux.Label} {out : List Event}
    (stopless : ¬label.Stops)
    (present : ∀ task, label.task? = some task → task ∉ scheduled.aborting)
    (step : Mux.Step scheduled.mux label mux out) : label = .addTcpStream := by
  -- Any other label is a turn, and its task would have to be tracked.
  cases takes : label.task? with
  | some task =>
    have member := tracked.goesOn ⟨step.runs takes, present task takes⟩
    rw [none] at member
    cases member
  | none =>
    cases label with
    | addTcpStream => rfl
    | drop => exact absurd (.inl rfl) stopless
    | waitForStopDueToDisconnect => exact absurd (.inr rfl) stopless
    | _ => cases takes

/-- A step of a stopped mux that is not one of the scheduler. -/
theorem Tracked.remains_mux {scheduled : ScheduledMux} (tracked : scheduled.Tracked)
    (stopped : scheduled.mux.stopped = true) {mux : Mux} {label : Mux.Label} {out : List Event}
    (stopless : ¬label.Stops)
    (present : ∀ task, label.task? = some task → task ∉ scheduled.aborting)
    (step : Mux.Step scheduled.mux label mux out) :
    Remains scheduled { scheduled with mux } out := by
  have closed (dropped : .pipeInTcp ∉ scheduled.aborting) :
      scheduled.mux.tcpToL2cap.task = .aborted :=
    (tracked.receiver stopped).resolve_left dropped
  have spawns := step.spawns stopless
  refine ⟨step.stopped_iff.mpr (.inl stopped), .refl _, ?_, fun dropped => ?_,
    fun dropped none => ?_⟩
  · generalize Mux.admitted out = streams at spawns
    cases spawns with
    | nothing tasks => simpa using tasks
    | reader _ tasks => exact tasks
  · -- Whoever is admitted has put a packet in a queue that is still there.
    generalize Mux.admitted out = streams at spawns
    cases spawns with
    | nothing => rfl
    | reader alive => exact absurd (closed dropped) alive
  · obtain rfl := tracked.called none stopless present step
    -- The call finds its port taken, or sends in vain.
    cases step with
    | refused | unsent => simp [Event.Refusal]
    | added _ sent => exact absurd (closed dropped) (TcpToL2cap.send_eq_some sent).1

/-- What one step of a stopped mux does. -/
theorem Tracked.remains {scheduled next : ScheduledMux} {label : Label} {out : List Event}
    (tracked : scheduled.Tracked) (stopped : scheduled.mux.stopped = true)
    (step : Step scheduled label next out) : Remains scheduled next out := by
  -- The other steps neither spawn a task nor show anything.
  have silent := Remains.refl stopped
  cases step with
  | mux stopless _ present taken =>
    exact tracked.remains_mux stopped stopless present (Mux.step_cases taken)
  | stopRequested =>
    rw [stop_of_stopped]
    · exact ⟨stopped, silent.aborting, silent.tasks, silent.admitted, silent.refusals⟩
    · exact stopped
  | drop =>
    rw [stop_of_stopped stopped]
    exact ⟨stopped, silent.aborting, silent.tasks, silent.admitted, silent.refusals⟩
  | @dropped task =>
    refine ⟨?_, List.erase_sublist, ?_, silent.admitted, silent.refusals⟩
    · cases task <;> exact stopped
    · cases task <;> exact silent.tasks

/-- What a stopped mux does as long as it is kept. -/
theorem remains {labels more : List Label} {seen out : List Event} {scheduled last : ScheduledMux}
    (run : machine.Run labels seen scheduled) (stopped : scheduled.mux.stopped = true)
    (goneOn : machine.exec scheduled more = some (last, out)) : Remains scheduled last out := by
  -- The induction is on the labels after the stop.
  induction more generalizing labels seen scheduled out with
  | nil =>
    cases goneOn
    exact .refl stopped
  | cons label more ih =>
    obtain ⟨next, first, rest, taken, executed, rfl⟩ := Lts.exec_cons goneOn
    have earlier := (tracked run).remains stopped (step_cases taken)
    exact earlier.trans (ih (run.snoc taken) earlier.stopped executed)

/-- The stop moves all the tracked tasks to those that the scheduler has yet to drop. -/
theorem Tracked.stops {scheduled next : ScheduledMux} {label : Label} {out : List Event}
    (tracked : scheduled.Tracked) (running : scheduled.mux.stopped = false) (stops : label.Stops)
    (step : Step scheduled label next out) :
    out = [] ∧ next.mux.tasks = [] ∧ next.aborting = scheduled.mux.tasks := by
  -- Nothing has been aborted before.
  have none := (tracked.running running).1
  cases step with
  | mux stopless =>
    refine absurd ?_ stopless
    simpa [Label.Stops, Mux.Label.Stops] using stops
  | drop | stopRequested => simp [ScheduledMux.stop, running, none]
  | dropped aborted =>
    rw [none] at aborted
    cases aborted

/-- The mux is stopped by a request while it has one stream. -/
def stoppedLabels : List Label :=
  [.mux .addTcpStream, .mux (.deserialized (.error (.port .recv))), .mux .sendStop,
    .mux .waitForStopDueToDisconnect]

/-- No stream is passed to a mux between its stop and the moment when `pipe_in_tcp` is dropped. -/
def Waits (scheduled : ScheduledMux) (label : Label) : Prop :=
  label = .mux .addTcpStream → .pipeInTcp ∉ scheduled.aborting

/-- Dropping one of the aborted tasks brings the mux nearer to the same end. -/
theorem settled_dropped {scheduled : ScheduledMux} {task : Task}
    (aborted : task ∈ scheduled.aborting) :
    settled { scheduled with
      mux := scheduled.mux.abort task, aborting := scheduled.aborting.erase task } =
        scheduled.settled := by
  have sooner := Mux.abortAll_commutes (fun mux => mux.abort task)
    (fun mux other => Mux.abort_comm mux task other) scheduled.mux (scheduled.aborting.erase task)
  -- It does not matter that this task is dropped first.
  have order := Mux.abortAll_perm scheduled.mux (List.perm_cons_erase aborted)
  simp only [settled, order]
  congr 1

/-- A stop comes to the same as one that drops the tasks at once. -/
theorem Tracked.settled_stop {scheduled : ScheduledMux} (tracked : scheduled.Tracked) :
    scheduled.stop.settled = { scheduled.settled with mux := scheduled.settled.mux.stop } := by
  have flag : (scheduled.mux.abortAll scheduled.aborting).stopped = scheduled.mux.stopped :=
    Mux.abortAll_keeps Mux.stopped (fun _ task => by cases task <;> rfl) _ _
  by_cases stopped : scheduled.mux.stopped = true
  · rw [stop_of_stopped stopped, settled, Mux.stop_of_stopped (flag.trans stopped)]
  · have running : scheduled.mux.stopped = false := by simpa using stopped
    -- Nothing has been aborted before, so all that is dropped is what the stop aborts.
    have none := (tracked.running running).1
    have now : scheduled.mux.abortAll [] = scheduled.mux := rfl
    simp only [settled, ScheduledMux.stop, if_neg stopped, none, List.nil_append, now,
      Mux.stop_eq running]

/-- A stop request is received on both sides, whatever has been dropped. -/
theorem Tracked.settled_request {scheduled : ScheduledMux} (tracked : scheduled.Tracked)
    (held : scheduled.dropped = false) {request : Bool} {requests : List Bool}
    (requested : scheduled.mux.stopDueToDisconnect = request :: requests) :
    OwnedMux.machine.step scheduled.settled (.mux .waitForStopDueToDisconnect) =
      some (settled { scheduled with
        mux := { scheduled.mux with stopDueToDisconnect := requests } }.stop, []) := by
  have received : Tracked { scheduled with
      mux := { scheduled.mux with stopDueToDisconnect := requests } } := tracked.received requests
  have later := Mux.abortAll_commutes (fun mux => { mux with stopDueToDisconnect := requests })
    (fun _ task => by cases task <;> rfl) scheduled.mux scheduled.aborting
  have same := Mux.abortAll_keeps Mux.stopDueToDisconnect (fun _ task => by cases task <;> rfl)
    scheduled.mux scheduled.aborting
  -- Aborts do not touch the channel of the requests.
  rw [received.settled_stop]
  simp [OwnedMux.machine, OwnedMux.step, settled, held, Mux.step, OwnedMux.droppedBy,
    Mux.waitForStopDueToDisconnect, same, requested, later]

/-- A call is refused on both sides once the receiver is gone, whatever else has been dropped. -/
theorem settled_call {scheduled : ScheduledMux} (held : scheduled.dropped = false)
    (gone : scheduled.mux.tcpToL2cap.task = .aborted) {mux : Mux} {out : List Event}
    (made : scheduled.mux.addTcpStream = (mux, out)) :
    OwnedMux.machine.step scheduled.settled (.mux .addTcpStream) =
      some (settled { scheduled with mux }, out) := by
  have call := Mux.addTcpStream_abortAll gone scheduled.aborting
  rw [made] at call
  simp [OwnedMux.machine, OwnedMux.step, settled, held, Mux.step, OwnedMux.droppedBy, call]

/-- Before the stop nothing is aborted, and both sides take the same steps. -/
theorem settled_step {scheduled : ScheduledMux} (none : scheduled.aborting = [])
    {label : Mux.Label} (stopless : ¬label.Stops)
    (called : scheduled.dropped = true → ¬OwnedMux.Called label) {mux : Mux} {out : List Event}
    (taken : scheduled.mux.step label = some (mux, out)) :
    OwnedMux.machine.step scheduled.settled (.mux label) =
      some (settled { scheduled with mux }, out) := by
  have same (mux : Mux) : settled { scheduled with mux } = { scheduled.toOwnedMux with mux } := by
    simp only [settled, none]
    rfl
  have alone : scheduled.settled = scheduled.toOwnedMux := same scheduled.mux
  have dropped : scheduled.toOwnedMux.droppedBy label = scheduled.dropped := by
    cases label with
    | drop => exact absurd (.inl rfl) stopless
    | _ => rfl
  have held : ¬(scheduled.dropped = true ∧ OwnedMux.Called label) := not_and.mpr called
  rw [same mux, alone]
  simp only [OwnedMux.machine, OwnedMux.step, if_neg held, taken, dropped, Option.map_some]

/-- Without calls that come too early, a step is silent or one of a mux whose tasks are dropped as
soon as they are aborted. -/
theorem Tracked.settles {scheduled next : ScheduledMux} {label : Label} {out : List Event}
    (tracked : scheduled.Tracked) (none : scheduled.mux.stopped = true → scheduled.mux.tasks = [])
    (waits : Waits scheduled label) (step : Step scheduled label next out) :
    (label.owned? = .none ∧ next.settled = scheduled.settled ∧ out = []) ∨
      ∃ owned, label.owned? = some owned ∧
        OwnedMux.machine.step scheduled.settled owned = some (next.settled, out) := by
  cases step with
  | dropped aborted => exact .inl ⟨rfl, settled_dropped aborted, rfl⟩
  | drop held =>
    refine .inr ⟨_, rfl, ?_⟩
    have stop : settled { scheduled.stop with dropped := true } =
        { mux := scheduled.settled.mux.stop, dropped := true } :=
      congrArg (fun owned : OwnedMux => { owned with dropped := true }) tracked.settled_stop
    rw [stop]
    simp [OwnedMux.machine, OwnedMux.step, settled, held, Mux.step, OwnedMux.droppedBy]
  | stopRequested held requested => exact .inr ⟨_, rfl, tracked.settled_request held requested⟩
  | mux stopless called present taken =>
    refine .inr ⟨_, rfl, ?_⟩
    by_cases stopped : scheduled.mux.stopped = true
    · -- All that a stopped mux can do is a call, and its receiver is gone.
      obtain rfl := tracked.called (none stopped) stopless present (Mux.step_cases taken)
      have held : scheduled.dropped = false := by
        simpa [OwnedMux.Called] using mt called
      have gone := (tracked.receiver stopped).resolve_left (waits rfl)
      exact settled_call held gone (Option.some.inj taken)
    · have running : scheduled.mux.stopped = false := by simpa using stopped
      exact settled_step (tracked.running running).1 stopless called taken

/-- A mux that has been stopped tracks no task, as long as no call comes too early. -/
theorem stopped_tasks {labels : List Label} {seen : List Event} {scheduled : ScheduledMux}
    (run : machine.Run labels seen scheduled) (waits : machine.EachStep Waits labels) :
    scheduled.mux.stopped = true → scheduled.mux.tasks = [] := by
  refine run.invariant_where waits
    (fun _ scheduled => scheduled.mux.stopped = true → scheduled.mux.tasks = []) ?_ ?_
  · intro stopped
    cases stopped
  · intro labels seen scheduled label next out before waits none taken halted
    have tracked := tracked before
    have step : Step scheduled label next out := step_cases taken
    by_cases stopped : scheduled.mux.stopped = true
    · -- A call finds the receiver gone, and nothing else spawns a task.
      have remains := tracked.remains stopped step
      have spawned : Mux.admitted out = [] := by
        cases step with
        | mux stopless _ present taken =>
          obtain rfl := tracked.called (none stopped) stopless present (Mux.step_cases taken)
          exact remains.admitted (waits rfl)
        | drop | stopRequested | dropped => rfl
      rw [remains.tasks, none stopped, spawned]
      rfl
    · have running : scheduled.mux.stopped = false := by simpa using stopped
      -- The step is the stop itself, which leaves no task tracked.
      have stops := (step.stopped_iff.mp halted).resolve_left stopped
      exact (tracked.stops running stops step).2.1

/-- In whatever order the scheduler comes to the aborted tasks, it gets to the same mux, unseen. -/
theorem exec_dropped {order : List Task} {scheduled : ScheduledMux}
    (perm : order.Perm scheduled.aborting) :
    machine.exec scheduled (order.map .dropped) =
      some ({ toOwnedMux := scheduled.settled, aborting := [] }, []) := by
  -- The induction is on the tasks that are still to be dropped.
  induction order generalizing scheduled with
  | nil =>
    have none := List.nil_perm.mp perm
    obtain ⟨owned, aborting⟩ := scheduled
    obtain rfl : aborting = [] := none
    rfl
  | cons task order ih =>
    have aborted : task ∈ scheduled.aborting := perm.subset List.mem_cons_self
    -- Behind the first task the others are still to be dropped, and lead to the same mux.
    have rest := @ih { scheduled with
      mux := scheduled.mux.abort task, aborting := scheduled.aborting.erase task }
      (List.cons_perm_iff_perm_erase.mp perm).2
    rw [settled_dropped aborted] at rest
    have taken : machine.step scheduled (.dropped task) = some ({ scheduled with
        mux := scheduled.mux.abort task, aborting := scheduled.aborting.erase task }, []) :=
      if_pos aborted
    simp [Lts.exec, taken, rest]

/-- As long as no call comes between a stop and the moment when `pipe_in_tcp` is dropped, nobody can
tell the mux from one whose tasks are dropped as soon as they are aborted, and the scheduler gets to
the state of that one, in whatever order it drops the tasks. -/
theorem abort_later_refines {labels : List Label} {seen : List Event} {scheduled : ScheduledMux}
    (run : machine.Run labels seen scheduled) (waits : machine.EachStep Waits labels) :
    OwnedMux.machine.Run (labels.filterMap Label.owned?) seen scheduled.settled ∧
      ∀ order : List Task, order.Perm scheduled.aborting →
        machine.exec scheduled (order.map .dropped) =
          some ({ toOwnedMux := scheduled.settled, aborting := [] }, []) := by
  refine ⟨?_, fun order => exec_dropped⟩
  -- The induction is on the run, each step of which is silent or a step of the other mux.
  induction run with
  | start => exact .start
  | snoc before taken ih =>
    have earlier := ih waits.init
    have step := (tracked before).settles (stopped_tasks before waits.init) (waits.last before)
      (step_cases taken)
    rw [List.filterMap_append]
    rcases step with ⟨silent, same, rfl⟩ | ⟨owned, label, went⟩
    · simpa [silent, same] using earlier
    · simpa [label] using earlier.snoc went

/-- A stream is refused after `pipe_in_tcp` has been dropped, and the other tasks are dropped
later. -/
theorem abort_later_refines_one_stream :
    ∃ seen scheduled, machine.Run (stoppedLabels ++ [.dropped .pipeInTcp, .mux .addTcpStream])
        seen scheduled ∧
      scheduled.aborting = [.pipeInL2cap, .pipeOutTcp, .keepalive, .reader 0] ∧
      OwnedMux.machine.Run [.mux .addTcpStream, .mux (.deserialized (.error (.port .recv))),
        .mux .sendStop, .mux .waitForStopDueToDisconnect, .mux .addTcpStream] seen
          scheduled.settled ∧
      machine.exec scheduled
        [.dropped (.reader 0), .dropped .keepalive, .dropped .pipeOutTcp, .dropped .pipeInL2cap] =
          some ({ toOwnedMux := scheduled.settled, aborting := [] }, []) := by
  obtain ⟨seen, before, scheduled, out, run, taken, dropped, aborting⟩ :
      ∃ seen before scheduled out,
        machine.Run (stoppedLabels ++ [.dropped .pipeInTcp]) seen before ∧
        machine.step before (.mux .addTcpStream) = some (scheduled, out) ∧
        .pipeInTcp ∉ before.aborting ∧
        scheduled.aborting = [.pipeInL2cap, .pipeOutTcp, .keepalive, .reader 0] :=
    ⟨_, _, _, _, Lts.Run.of_exec rfl, rfl, by decide, rfl⟩
  -- The first call is made before the stop, and the other one after the drop.
  have early : machine.EachStep Waits (stoppedLabels ++ [.dropped .pipeInTcp]) :=
    .of_first (by simp [Waits, machine]) (by simp [Waits])
  have waits : machine.EachStep Waits (_ ++ [.mux .addTcpStream]) :=
    early.snoc run fun _ => dropped
  obtain ⟨immediate, order⟩ := abort_later_refines (run.snoc taken) waits
  exact ⟨_, scheduled, run.snoc taken, aborting, immediate,
    order [.reader 0, .keepalive, .pipeOutTcp, .pipeInL2cap] (by rw [aborting]; decide)⟩

end ScheduledMux

end BleManaged
