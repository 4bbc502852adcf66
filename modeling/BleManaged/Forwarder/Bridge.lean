import BleManaged.Forwarder.Accepting
import BleManaged.Socks.Parse

/-! The bridge: the forwarder process with the inbound pipeline of its multiplexer. -/

namespace BleManaged

/-- The process, with the channel and the call of the pipeline of its multiplexer. -/
structure Bridge where
  process : Process
  l2capToTcp : List Bytes
  call : Receiving Bytes (Except DeserializeError Packet × Chunker)

/-- What can be observed of the bridge. -/
inductive BridgeEvent where
  | inbound (event : InboundEvent)
  | returned (result : Except ForwarderError Bool)
  deriving DecidableEq, Repr

/-- Which turns of the pipeline are calls of its mux. -/
def Inbound.Label.Called : Inbound.Label → Prop
  | .mux label => OwnedMux.Called label
  | _ => False

instance : (label : Inbound.Label) → Decidable label.Called
  | .mux label => inferInstanceAs (Decidable (OwnedMux.Called label))
  | .pipeInL2cap _ | .recv | .returned => inferInstanceAs (Decidable False)

/-- The owner of a mux neither reads from the L2CAP stream nor returns from
`Packet::deserialize`. -/
theorem OwnedMux.Called.outside {label : Mux.Label} (called : OwnedMux.Called label) :
    label ≠ .l2capClosed ∧ ∀ result, label ≠ .deserialized result := by
  refine ⟨?_, fun result => ?_⟩
  · rintro rfl
    exact called
  · rintro rfl
    exact called

namespace Bridge

/-- What can happen next: a step of the process itself, or a turn of the pipeline. -/
inductive Label where
  | process (label : Process.Label)
  | inbound (label : Inbound.Label)

/-- The pipeline of a multiplexer. -/
def pipeline (bridge : Bridge) (mux : Mux) : Inbound :=
  { mux, l2capToTcp := bridge.l2capToTcp, call := bridge.call }

/-- What the process shows, as it is seen of the bridge. -/
def ofProcess : ProcessEvent → BridgeEvent
  | .mux event => .inbound (.mux event)
  | .returned result => .returned result

/-- The bridge after a step of the process. -/
def follow (bridge : Bridge) (label : Process.Label) (process : Process) : Bridge :=
  match label with
  -- A multiplexer is created with a new channel and a new chunker at the end of it.
  | .connected _ =>
    { process, l2capToTcp := [], call := Packet.deserialize Chunker.new }
  | _ => { bridge with process }

/-- The bridge follows the process. -/
@[simp] theorem follow_process (bridge : Bridge) (label : Process.Label) (process : Process) :
    (bridge.follow label process).process = process := by
  cases label <;> rfl

/-- The bridge after a turn of the pipeline. -/
def turned (bridge : Bridge) (stage : Stage) (inbound : Inbound) : Bridge :=
  { process := bridge.process.goto (.forwarding inbound.mux stage)
    l2capToTcp := inbound.l2capToTcp
    call := inbound.call }

/-- The effect of one label. -/
def step (bridge : Bridge) : Label → Option (Bridge × List BridgeEvent)
  -- The tasks of the multiplexer take their turns in the pipeline.
  | .process (.mux _) => none
  | .process label =>
    (bridge.process.step label).map fun result =>
      (bridge.follow label result.1, result.2.map ofProcess)
  | .inbound label =>
    match bridge.process.phase with
    | .forwarding mux stage =>
      if label.Called then none
      else
        ((bridge.pipeline mux).step label).map fun result =>
          (bridge.turned stage result.1, result.2.map .inbound)
    | _ => none

/-- The bridge, from the moment `main` has registered its handlers. -/
def machine : Lts Bridge Label BridgeEvent where
  init :=
    { process := Process.machine.init, l2capToTcp := [], call := Packet.deserialize Chunker.new }
  step := step

/-- Every step, with the part of the program that takes it. -/
inductive Step (bridge : Bridge) : Label → Bridge → List BridgeEvent → Prop where
  | process {label process out} (own : ∀ turn, label ≠ .mux turn)
      (taken : bridge.process.step label = some (process, out)) :
      Step bridge (.process label) (bridge.follow label process) (out.map ofProcess)
  | inbound {mux stage label inbound out} (phase : bridge.process.phase = .forwarding mux stage)
      (free : ¬label.Called) (taken : (bridge.pipeline mux).step label = some (inbound, out)) :
      Step bridge (.inbound label) (bridge.turned stage inbound) (out.map .inbound)

/-- The bridge takes no other steps. -/
theorem step_cases {bridge next : Bridge} {label : Label} {out : List BridgeEvent}
    (taken : bridge.step label = some (next, out)) : Step bridge label next out := by
  cases label with
  | process label =>
    -- The turns of the mux come through the inbound side, so the process takes none of them.
    by_cases turn : ∃ other, label = .mux other
    · obtain ⟨other, rfl⟩ := turn
      cases taken
    · -- The step is the one of the process.
      have whole : bridge.step (.process label) = (bridge.process.step label).map fun result =>
          (bridge.follow label result.1, result.2.map ofProcess) := by
        cases label with
        | mux other => exact absurd ⟨other, rfl⟩ turn
        | _ => rfl
      rw [whole] at taken
      obtain ⟨⟨process, shown⟩, went, same⟩ := Option.map_eq_some_iff.mp taken
      cases same
      exact .process (fun other same => turn ⟨other, same⟩) went
  | inbound label =>
    simp only [step] at taken
    -- Chunks arrive only while a mux is there, and only in the phase of `start_forwarder`.
    split at taken
    · rename_i mux stage phase
      split at taken
      · cases taken
      · rename_i free
        obtain ⟨⟨inbound, shown⟩, went, same⟩ := Option.map_eq_some_iff.mp taken
        cases same
        exact .inbound phase free went
    · cases taken

/-- What an event is for the process. -/
def toProcessEvent : BridgeEvent → Option ProcessEvent
  | .inbound (.mux event) => some (.mux event)
  | .inbound _ => none
  | .returned result => some (.returned result)

/-- What a step of the bridge is for the process. -/
def NamesProcess : Label → Process.Label → Prop
  | .process label, other => other = label
  | .inbound label, other => ∃ turn, Inbound.NamesMux label turn ∧ other = .mux turn

/-- What the process shows is seen of the bridge as it is. -/
theorem filterMap_ofProcess (out : List ProcessEvent) :
    (out.map ofProcess).filterMap toProcessEvent = out := by
  have each : ∀ event, toProcessEvent (ofProcess event) = some event := by
    intro event
    cases event <;> rfl
  simp [List.filterMap_map, each]

/-- Of the pipeline the process sees what its multiplexer shows. -/
theorem filterMap_inbound (out : List InboundEvent) :
    (out.map .inbound).filterMap toProcessEvent = (out.filterMap Inbound.toMux).map .mux := by
  rw [List.filterMap_map, List.map_filterMap]
  refine List.filterMap_congr fun event _ => ?_
  cases event <;> rfl

/-- Only a call of the mux is one of its turns in the pipeline. -/
theorem free_of_names {label : Inbound.Label} {turn : Mux.Label}
    (names : Inbound.NamesMux label turn) (free : ¬label.Called) : ¬OwnedMux.Called turn := by
  -- A read or a return stands for a label of the tasks, not of the owner.
  cases label with
  | pipeInL2cap => rw [show turn = .l2capClosed from names]; exact id
  | recv => exact names.elim
  | returned =>
    obtain ⟨result, rfl⟩ := names
    exact id
  | mux label =>
    obtain rfl : turn = label := names
    exact free

/-- Running the bridge is a way of running the process. -/
def toProcess : machine.Projection Process.machine where
  state := Bridge.process
  see := toProcessEvent
  names := NamesProcess
  start := rfl
  step := by
    intro bridge label next out taken
    cases step_cases taken with
    | @process label process shown own went =>
      rw [filterMap_ofProcess]
      refine .inr ⟨label, rfl, ?_⟩
      rw [follow_process]
      exact went
    | @inbound mux stage label inbound shown phase free went =>
      rw [filterMap_inbound]
      -- The pipeline lets its multiplexer alone, or takes one of its turns.
      rcases Inbound.toMultiplexer.step went with ⟨kept, silent⟩ | ⟨turn, names, stepped⟩
      · have kept : inbound.mux = mux := kept
        have silent : shown.filterMap Inbound.toMux = [] := silent
        refine .inl ⟨?_, by rw [silent]; rfl⟩
        simp only [turned, kept, Process.goto, ← phase]
      · have stepped : mux.step turn = some (inbound.mux, shown.filterMap Inbound.toMux) := stepped
        refine .inr ⟨.mux turn, ⟨turn, names, rfl⟩, ?_⟩
        have free := free_of_names names free
        simp only [Process.machine, Process.step, phase, if_neg free, stepped, Option.map_some]
        rfl

/-- Whatever holds of every run of the process holds of it with the pipeline. -/
theorem runs_process {labels : List Label} {seen : List BridgeEvent} {bridge : Bridge}
    (run : machine.Run labels seen bridge) :
    ∃ others, Process.machine.Run others (seen.filterMap toProcessEvent) bridge.process :=
  let ⟨others, projected, _⟩ := toProcess.run run
  ⟨others, projected⟩

/-- While there is a multiplexer, its pipeline has come to where it is by a run of its own, which
has begun when the L2CAP stream was connected and has shown all that has been observed since. -/
def Piped (labels : List Label) (seen : List BridgeEvent) (bridge : Bridge) : Prop :=
  ∀ mux stage, bridge.process.phase = .forwarding mux stage →
    ∃ before after earlier prior inner shown,
      labels = before ++ .process (.connected (.ok ())) :: after ∧
        machine.Run before earlier prior ∧ seen = earlier ++ shown.map .inbound ∧
          Inbound.machine.Run inner shown (bridge.pipeline mux)

variable {labels : List Label} {seen : List BridgeEvent} {bridge : Bridge}

/-- Without a multiplexer there is no pipeline. -/
theorem piped_of_other (other : ∀ mux stage, bridge.process.phase ≠ .forwarding mux stage) :
    Piped labels seen bridge := fun mux stage phase => absurd phase (other mux stage)

/-- A step that leaves the multiplexer alone leaves its pipeline alone. -/
theorem Piped.keep (piped : Piped labels seen bridge) (label : Label) {process : Process}
    (kept : ∀ mux stage, process.phase = .forwarding mux stage →
      ∃ before, bridge.process.phase = .forwarding mux before) :
    Piped (labels ++ [label]) (seen ++ []) { bridge with process } := by
  -- The run of the pipeline is the same one, seen from a later label.
  intro mux stage phase
  obtain ⟨was, same⟩ := kept mux stage phase
  obtain ⟨before, after, earlier, prior, inner, shown, split, reached, told, run⟩ :=
    piped mux was same
  refine ⟨before, after ++ [label], earlier, prior, inner, shown, ?_, reached, ?_, run⟩
  · rw [split, List.append_assoc, List.cons_append]
  · rw [List.append_nil, told]

/-- A turn of the pipeline extends its run. -/
theorem Piped.snoc (piped : Piped labels seen bridge) {mux : Mux} {stage : Stage}
    (phase : bridge.process.phase = .forwarding mux stage) (label : Label) {turn : Inbound.Label}
    {inbound : Inbound} {out : List InboundEvent}
    (taken : Inbound.machine.step (bridge.pipeline mux) turn = some (inbound, out)) (now : Stage) :
    Piped (labels ++ [label]) (seen ++ out.map .inbound) (bridge.turned now inbound) := by
  -- The turn is one more step of the same run.
  intro other later same
  cases same
  obtain ⟨before, after, earlier, prior, inner, shown, split, reached, told, run⟩ :=
    piped mux stage phase
  refine ⟨before, after ++ [label], earlier, prior, _, shown ++ out, ?_, reached, ?_,
    run.snoc taken⟩
  · rw [split, List.append_assoc, List.cons_append]
  · rw [told, List.append_assoc, List.map_append]

/-- A call of the mux extends the run of its pipeline. -/
theorem Piped.call (piped : Piped labels seen bridge) {mux next : Mux} {stage : Stage}
    (phase : bridge.process.phase = .forwarding mux stage) (label : Label) {turn : Mux.Label}
    {out : List Event} (called : OwnedMux.Called turn) (taken : mux.step turn = some (next, out))
    (now : Stage) :
    Piped (labels ++ [label]) (seen ++ (out.map .mux).map ofProcess)
      { bridge with process := bridge.process.goto (.forwarding next now) } := by
  have further : Inbound.machine.step (bridge.pipeline mux) (.mux turn) =
      some (bridge.pipeline next, out.map .mux) :=
    Inbound.step_mux taken called.outside.1 called.outside.2
  have same : (out.map .mux).map ofProcess = (out.map InboundEvent.mux).map .inbound := by
    simp [ofProcess]
  rw [same]
  exact piped.snoc phase label further now

/-- Every step of the process goes with the pipeline. -/
theorem Piped.process (run : machine.Run labels seen bridge) (piped : Piped labels seen bridge)
    {label : Process.Label} {process : Process} {out : List ProcessEvent}
    (own : ∀ turn, label ≠ .mux turn) (step : Process.Step bridge.process label process out) :
    Piped (labels ++ [.process label]) (seen ++ out.map ofProcess)
      (bridge.follow label process) := by
  cases step with
  | deliver => exact piped.keep _ fun mux stage phase => ⟨stage, phase⟩
  | found | lost | stopped | bound =>
    exact piped_of_other fun mux stage phase => by simp at phase
  | connected =>
    -- The run of the new pipeline begins here.
    intro mux stage same
    cases same
    exact ⟨labels, [], seen, bridge, [], [], rfl, run, rfl, .start⟩
  | @interrupted _ mux _ _ _ phase | @createdSigterm mux phase | @createdSigint mux _ phase
  | @acceptFailed mux _ phase | @slept mux _ phase | @stillConnected mux _ phase =>
    refine piped.keep _ fun other stage same => ?_
    cases same
    exact ⟨_, phase⟩
  | @accepted mux _ phase =>
    have called : OwnedMux.Called .addTcpStream := trivial
    have taken : mux.step .addTcpStream = some mux.addTcpStream := rfl
    exact piped.call phase _ called taken _
  | disconnectNotice phase noticed =>
    have called : OwnedMux.Called .waitForStopDueToDisconnect := trivial
    exact piped.call phase _ called noticed _
  | @refused _ _ error =>
    exact piped_of_other (Process.after_ne_forwarding (.error (.addTcpStream error)))
  | @returned _ result =>
    refine piped_of_other fun mux stage => ?_
    rw [follow_process]
    exact Process.after_ne_forwarding result mux stage
  | mux => exact absurd rfl (own _)

/-- In every run each call of `start_forwarder` has the pipeline of its own L2CAP stream. -/
theorem piped (run : machine.Run labels seen bridge) : Piped labels seen bridge := by
  -- The induction is on the run, and a pipeline lives as long as its multiplexer.
  induction run with
  | start => exact piped_of_other fun mux stage => by simp [machine, Process.machine]
  | snoc before taken ih =>
    cases step_cases taken with
    | process own went => exact ih.process before own (Process.step_cases went)
    | inbound phase free went => exact ih.snoc phase _ went _

/-- The program with its pipeline runs as the process does, and each call of `start_forwarder`
starts with an empty channel and a new chunker, so that no byte of an earlier L2CAP stream is left
in it. -/
theorem each_call_starts_afresh (run : machine.Run labels seen bridge) :
    (∃ others, Process.machine.Run others (seen.filterMap toProcessEvent) bridge.process) ∧
      Piped labels seen bridge :=
  ⟨runs_process run, piped run⟩

/-- A byte is left in the channel when `start_forwarder` fails, and is not there in the next call.
-/
theorem each_call_starts_afresh_second_call :
    ∃ labels seen bridge, machine.Run labels seen bridge ∧
      .inbound (.l2capRead [1]) ∈ seen ∧ bridge.l2capToTcp = [] ∧
        ∃ inner shown, Inbound.machine.Run inner shown (bridge.pipeline Mux.createAndStart) := by
  obtain ⟨labels, seen, bridge, run, read, empty, phase⟩ : ∃ labels seen bridge,
      machine.Run labels seen bridge ∧ .inbound (.l2capRead [1]) ∈ seen ∧
        bridge.l2capToTcp = [] ∧
          bridge.process.phase = .forwarding Mux.createAndStart .creatingSigterm := by
    refine ⟨[.process (.found (.ok ())), .process (.bound (.ok ())), .process (.connected (.ok ())),
      .inbound (.pipeInL2cap (.ok [1])), .process (.created (.error "")),
      .process (.found (.ok ())), .process (.bound (.ok ())), .process (.connected (.ok ()))],
      _, _, Lts.Run.of_exec rfl, by decide, rfl, rfl⟩
  obtain ⟨_, _, _, _, inner, shown, _, _, _, own⟩ :=
    (each_call_starts_afresh run).2 _ _ phase
  exact ⟨labels, seen, bridge, run, read, empty, inner, shown, own⟩

end Bridge

end BleManaged
