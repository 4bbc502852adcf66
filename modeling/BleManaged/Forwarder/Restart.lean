import BleManaged.Forwarder.Bridge
import BleManaged.Forwarder.Rounds
import BleManaged.Socks.Promptness
import BleManaged.Socks.Tenure

/-! How a call of `start_forwarder` ends once its L2CAP stream has. -/

namespace BleManaged

namespace Bridge

/-- The labels by which the forwarder itself goes on: those of `pipe_out_tcp`, and the awaits of
`start_forwarder` other than an accept or a signal. -/
def works : Label → Bool
  | .inbound label => Inbound.works label
  | .process (.created _) | .process .disconnectNotice | .process .slept
  | .process (.checkedConnected _) | .process .disconnected => true
  | .process _ => false

/-- Whatever brings no more bytes and connects no other L2CAP stream. -/
def Quiet : Label → Prop
  | .inbound label => Inbound.Quiet label
  | .process (.connected _) => False
  | .process _ => True

/-- How many awaits `start_forwarder` still has from a stage on. -/
def awaitsLeft : Stage → Nat
  | .creatingSigterm => 6
  | .creatingSigint _ => 5
  | .selecting _ _ => 4
  | .sleeping _ => 3
  | .checking _ => 2
  | .disconnecting _ => 1

/-- How many steps the forwarder can still take if no more bytes arrive. -/
def workLeft (bridge : Bridge) : Nat :=
  match bridge.process.phase with
  | .forwarding mux stage => (bridge.pipeline mux).workLeft + awaitsLeft stage
  | _ => 0

/-- There is no multiplexer, or it waits for bytes of an L2CAP stream that has not ended. -/
def Rests (bridge : Bridge) : Prop :=
  ∀ mux stage, bridge.process.phase = .forwarding mux stage →
    (∃ streams accepting, stage = .selecting streams accepting) ∧
      mux.pipeInL2cap = .running ∧ mux.pipeOutTcp = .deserializing ∧ bridge.l2capToTcp = []

variable {labels : List Label} {seen out : List BridgeEvent} {bridge next : Bridge} {label : Label}

/-- What is left of a call of `start_forwarder` at a stage. -/
theorem workLeft_forwarding {mux : Mux} {stage : Stage}
    (phase : bridge.process.phase = .forwarding mux stage) :
    bridge.workLeft = (bridge.pipeline mux).workLeft + awaitsLeft stage := by
  rw [workLeft, phase]

/-- Without a multiplexer nothing is left. -/
theorem workLeft_other (other : ∀ mux stage, bridge.process.phase ≠ .forwarding mux stage) :
    bridge.workLeft = 0 := by
  cases phase : bridge.process.phase with
  | forwarding mux stage => exact absurd phase (other mux stage)
  | scanning | binding | connecting | stopped => rw [workLeft, phase]

/-- The step at hand is still to be done. -/
theorem awaitsLeft_pos (stage : Stage) : 1 ≤ awaitsLeft stage := by
  cases stage <;> simp [awaitsLeft]

/-- The forwarder goes on by itself without more bytes and without another L2CAP stream. -/
theorem quiet_of_works (working : works label = true) : Quiet label := by
  -- A read is no step of `pipe_out_tcp`, and a connection no await of `start_forwarder`.
  cases label with
  | process label =>
    cases label with
    | connected => simp [works] at working
    | _ => trivial
  | inbound label =>
    cases label with
    | pipeInL2cap => simp [works, Inbound.works] at working
    | recv | returned | mux => trivial

/-- The process goes on with the same multiplexer. -/
theorem workLeft_keep {mux : Mux} {stage now : Stage} {process : Process}
    (phase : bridge.process.phase = .forwarding mux stage)
    (after : process.phase = .forwarding mux now) {paid : Nat}
    (less : awaitsLeft now + paid ≤ awaitsLeft stage) :
    ({ bridge with process } : Bridge).workLeft + paid ≤ bridge.workLeft := by
  -- The pipeline is the same, and the stage is a later one or the same.
  have later : ({ bridge with process } : Bridge).workLeft =
      (bridge.pipeline mux).workLeft + awaitsLeft now := workLeft_forwarding after
  rw [later, workLeft_forwarding phase]
  omega

/-- A call of the mux gives `pipe_out_tcp` nothing more to do. -/
theorem workLeft_call {mux other : Mux} {stage now : Stage}
    (phase : bridge.process.phase = .forwarding mux stage) {turn : Mux.Label} {shown : List Event}
    (called : OwnedMux.Called turn) (taken : mux.step turn = some (other, shown)) {paid : Nat}
    (less : awaitsLeft now + paid ≤ awaitsLeft stage) :
    ({ bridge with process := bridge.process.goto (.forwarding other now) } : Bridge).workLeft +
      paid ≤ bridge.workLeft := by
  -- The call does not return from `Packet::deserialize`, so it dispatches nothing.
  have passes := ((Mux.step_cases taken).passes called.outside.2).1
  have fewer : Inbound.workLeft { bridge.pipeline mux with mux := other } ≤
      (bridge.pipeline mux).workLeft := Inbound.workLeft_passes passes
  have same : { bridge.pipeline mux with mux := other } = bridge.pipeline other := rfl
  have later : ({ bridge with process := bridge.process.goto (.forwarding other now) } :
      Bridge).workLeft = (bridge.pipeline other).workLeft + awaitsLeft now :=
    workLeft_forwarding rfl
  rw [same] at fewer
  rw [later, workLeft_forwarding phase]
  omega

/-- A step of the process is paid for by what is left. -/
theorem workLeft_process {label : Process.Label} {process : Process} {out : List ProcessEvent}
    (own : ∀ turn, label ≠ .mux turn) (step : Process.Step bridge.process label process out)
    (quiet : Quiet (.process label)) :
    (bridge.follow label process).workLeft + (works (.process label)).toNat ≤ bridge.workLeft := by
  cases step with
  | deliver => exact Nat.le_refl _
  | found | lost | stopped | bound =>
    rw [workLeft_other fun mux stage => by simp]
    exact Nat.zero_le _
  | connected => exact quiet.elim
  | interrupted phase | createdSigterm phase | createdSigint phase | acceptFailed phase
  | slept phase | stillConnected phase =>
    exact workLeft_keep phase rfl (by simp [awaitsLeft, works])
  | @accepted mux _ phase =>
    have called : OwnedMux.Called .addTcpStream := trivial
    have taken : mux.step .addTcpStream = some mux.addTcpStream := rfl
    exact workLeft_call phase called taken (Nat.le_refl _)
  | disconnectNotice phase noticed =>
    have called : OwnedMux.Called .waitForStopDueToDisconnect := trivial
    exact workLeft_call phase called noticed (Nat.le_refl _)
  | @refused _ _ error =>
    rw [workLeft_other (Process.after_ne_forwarding (.error (.addTcpStream error)))]
    exact Nat.zero_le _
  | @returned _ result returns =>
    have gone : (bridge.follow label (bridge.process.returned result).1).workLeft = 0 := by
      refine workLeft_other fun mux stage => ?_
      rw [follow_process]
      exact Process.after_ne_forwarding result mux stage
    rw [gone, Nat.zero_add]
    cases working : works (.process label) with
    | false => exact Nat.zero_le _
    | true =>
      -- Only with a multiplexer there is an await to be paid for.
      obtain ⟨mux, stage, phase⟩ : ∃ mux stage, bridge.process.phase = .forwarding mux stage := by
        generalize bridge.process.phase = phase at returns
        cases returns with
        | bind | connectL2cap => simp [works] at working
        | sigterm | sigint | isConnected | gone | disconnected => exact ⟨_, _, rfl⟩
      rw [workLeft_forwarding phase]
      exact Nat.le_trans (awaitsLeft_pos stage) (Nat.le_add_left _ _)
  | mux => exact absurd rfl (own _)

/-- Every step that brings no more bytes and no other stream is paid for by what is left. -/
theorem Step.workLeft (run : machine.Run labels seen bridge) (step : Step bridge label next out)
    (quiet : Quiet label) : next.workLeft + (works label).toNat ≤ bridge.workLeft := by
  -- A turn of the pipeline is paid for by what the pipeline has left.
  cases step with
  | process own taken => exact workLeft_process own (Process.step_cases taken) quiet
  | @inbound mux stage label inbound shown phase free taken =>
    have later : (bridge.turned stage inbound).workLeft = inbound.workLeft + awaitsLeft stage :=
      workLeft_forwarding rfl
    obtain ⟨_, _, _, _, inner, _, _, _, _, reached⟩ := piped run mux stage phase
    have step := Inbound.step_cases taken
    rw [later, workLeft_forwarding phase]
    cases working : Inbound.works label with
    | true =>
      have less := step.workLeft_lt (Inbound.impatient reached) working
      simp only [works, working, Bool.toNat_true]
      omega
    | false =>
      have less := step.workLeft_le working quiet
      simp only [works, working, Bool.toNat_false]
      omega

/-- The bridge takes every step of the process that is not one of its multiplexer. -/
theorem step_process {label : Process.Label} {process : Process} {shown : List ProcessEvent}
    (own : ∀ turn, label ≠ .mux turn) (taken : bridge.process.step label = some (process, shown)) :
    machine.step bridge (.process label) =
      some (bridge.follow label process, shown.map ofProcess) := by
  cases label with
  | mux turn => exact absurd rfl (own turn)
  | _ => simp only [machine, step, taken, Option.map_some]

/-- An await of the process that can come to its end is one by which the forwarder goes on. -/
theorem goes_process {label : Process.Label} (own : ∀ turn, label ≠ .mux turn)
    (working : works (.process label) = true) (taken : (bridge.process.step label).isSome) :
    ∃ label next out, works label = true ∧ machine.step bridge label = some (next, out) := by
  obtain ⟨⟨process, shown⟩, taken⟩ := Option.isSome_iff_exists.mp taken
  exact ⟨_, _, _, working, step_process own taken⟩

/-- The bridge takes every turn of `pipe_out_tcp` in the pipeline. -/
theorem step_inbound {mux : Mux} {stage : Stage} {label : Inbound.Label} {inbound : Inbound}
    {shown : List InboundEvent} (phase : bridge.process.phase = .forwarding mux stage)
    (working : Inbound.works label = true)
    (taken : Inbound.machine.step (bridge.pipeline mux) label = some (inbound, shown)) :
    machine.step bridge (.inbound label) =
      some (bridge.turned stage inbound, shown.map .inbound) := by
  -- The labels of `pipe_out_tcp` are none of the calls of the mux.
  have taken : (bridge.pipeline mux).step label = some (inbound, shown) := taken
  have free : ¬label.Called := by
    cases label with
    | pipeInL2cap | recv | returned => exact id
    | mux turn =>
      cases turn with
      | addTcpStream | waitForStopDueToDisconnect | drop => simp [Inbound.works] at working
      | readTcp | l2capClosed | deserialized | wroteTcp | sendStop | sendKeepalive | pipeInTcp =>
        exact id
  simp only [machine, step, phase, if_neg free, taken, Option.map_some]

/-- Whoever waits in the loop of `start_forwarder` has not stopped the multiplexer. -/
theorem running_of_selecting (run : machine.Run labels seen bridge) {mux : Mux}
    {streams : SignalStreams} {accepting : Bool}
    (phase : bridge.process.phase = .forwarding mux (.selecting streams accepting)) :
    mux.stopped = false := by
  -- The owner of the mux stops it after the loop only.
  obtain ⟨others, projected⟩ := runs_process run
  exact (Process.owned projected mux _ phase).2 trivial

/-- The loop of `start_forwarder` can be left, or something else goes on, unless it waits for bytes
of a stream that has not ended. -/
theorem goes_selecting (run : machine.Run labels seen bridge) {mux : Mux}
    {streams : SignalStreams} {accepting : Bool}
    (phase : bridge.process.phase = .forwarding mux (.selecting streams accepting)) :
    (∃ label next out, works label = true ∧ machine.step bridge label = some (next, out)) ∨
      mux.pipeInL2cap = .running ∧ mux.pipeOutTcp = .deserializing ∧ bridge.l2capToTcp = [] := by
  obtain ⟨_, _, _, _, inner, shown, _, _, _, reached⟩ := piped run mux _ phase
  obtain ⟨others, alone⟩ := Inbound.runs_multiplexer reached
  have up := running_of_selecting run phase
  -- While the pipeline can go on there is a turn, and when it rests it has stopped or waits.
  by_cases rests : (bridge.pipeline mux).Rests
  · rcases rests with ended | aborted | ⟨turn, running, empty, _⟩
    · -- The stop request is there, and the loop receives it.
      have request : mux.stopDueToDisconnect = [true] :=
        (Mux.notifies alone).noticed ended up
      have taken : (bridge.process.step .disconnectNotice).isSome := by
        simp [Process.step, phase, Mux.waitForStopDueToDisconnect, request]
      exact .inl (goes_process (by simp) rfl taken)
    · -- The task is aborted by a stop only, and the mux runs.
      exact absurd aborted ((Mux.sound alone).sender up).2
    · exact .inr ⟨running, turn, empty⟩
  · obtain ⟨label, next, out, working, taken⟩ := Inbound.goes (Mux.notifies alone) rests
    exact .inl ⟨.inbound label, _, _, working, step_inbound phase working taken⟩

/-- The forwarder is never stuck but where it rests. -/
theorem goes (run : machine.Run labels seen bridge) (busy : ¬bridge.Rests) :
    ∃ label next out, works label = true ∧ machine.step bridge label = some (next, out) := by
  -- The cases follow the stages of `start_forwarder`, each with its await.
  simp only [Rests, not_forall] at busy
  obtain ⟨mux, stage, phase, busy⟩ := busy
  cases stage with
  | creatingSigterm | creatingSigint =>
    have taken : (bridge.process.step (.created (.ok ()))).isSome := by simp [Process.step, phase]
    exact goes_process (by simp) rfl taken
  | selecting streams accepting =>
    rcases goes_selecting run phase with goes | waits
    · exact goes
    · exact absurd ⟨⟨streams, accepting, rfl⟩, waits⟩ busy
  | sleeping =>
    have taken : (bridge.process.step .slept).isSome := by simp [Process.step, phase]
    exact goes_process (by simp) rfl taken
  | checking =>
    have taken : (bridge.process.step (.checkedConnected (.ok false))).isSome := by
      simp [Process.step, phase]
    exact goes_process (by simp) rfl taken
  | disconnecting =>
    have taken : (bridge.process.step .disconnected).isSome := by simp [Process.step, phase]
    exact goes_process (by simp) rfl taken

/-- The forwarder comes to rest if no more bytes arrive. -/
def settling : machine.Settling where
  works := works
  Quiet := Quiet
  Rests := Rests
  rank := workLeft
  lowers := by
    rintro bridge label next out ⟨labels, seen, run⟩ working taken
    have paid := (step_cases taken).workLeft run (quiet_of_works working)
    rw [working] at paid
    exact paid
  stays := by
    rintro bridge label next out ⟨labels, seen, run⟩ resting quiet taken
    have paid := (step_cases taken).workLeft run quiet
    rwa [resting] at paid
  goes := by
    rintro bridge ⟨labels, seen, run⟩ busy
    exact goes run busy

/-- There is a multiplexer, and its L2CAP stream has ended. -/
def Cut (bridge : Bridge) : Prop :=
  ∃ mux stage, bridge.process.phase = .forwarding mux stage ∧ mux.pipeInL2cap ≠ .running

/-- No call of the mux reads from the L2CAP stream again. -/
theorem cut_of_call {mux other : Mux} {turn : Mux.Label} {shown : List Event}
    (called : OwnedMux.Called turn) (taken : mux.step turn = some (other, shown))
    (ended : mux.pipeInL2cap ≠ .running) : other.pipeInL2cap ≠ .running :=
  fun running => ended (((Mux.step_cases taken).passes called.outside.2).2 running)

/-- No turn of the pipeline reads from an L2CAP stream that has ended. -/
theorem cut_of_turn {inbound other : Inbound} {turn : Inbound.Label} {shown : List InboundEvent}
    (step : Inbound.Step inbound turn other shown) (ended : inbound.mux.pipeInL2cap ≠ .running) :
    other.mux.pipeInL2cap ≠ .running := by
  -- The two kinds of read need a stream that has not ended.
  cases step with
  | read running | dropped running | closed running => exact absurd running ended
  | recv | recvClosed => exact ended
  | @returned result _ _ _ _ taken =>
    have step := Mux.step_cases taken
    cases result with
    | ok packet => rwa [step.dispatched.2.1]
    | error error => rwa [step.failed.2.1]
  | mux outside taken =>
    exact fun running => ended (((Mux.step_cases taken).passes outside).2 running)

/-- The stream stays ended until `start_forwarder` returns. -/
theorem Step.cut (step : Step bridge label next out) (cut : bridge.Cut) :
    next.Cut ∨ ∃ result, .returned result ∈ out ∧ next.process.phase = Process.after result := by
  -- The process is in a call of `start_forwarder`, which goes on or returns.
  obtain ⟨mux, stage, phase, ended⟩ := cut
  cases step with
  | @process label process shown own taken =>
    cases Process.step_cases taken with
    | deliver => exact .inl ⟨mux, stage, phase, ended⟩
    | found other | lost other | stopped other | bound other | connected other =>
      rw [phase] at other
      cases other
    | interrupted same | createdSigterm same | createdSigint same | acceptFailed same
    | slept same | stillConnected same =>
      rw [phase] at same
      cases same
      exact .inl ⟨mux, _, rfl, ended⟩
    | accepted same =>
      rw [phase] at same
      cases same
      have called : OwnedMux.Called .addTcpStream := trivial
      have taken : mux.step .addTcpStream = some mux.addTcpStream := rfl
      exact .inl ⟨_, _, rfl, cut_of_call called taken ended⟩
    | disconnectNotice same noticed =>
      rw [phase] at same
      cases same
      have called : OwnedMux.Called .waitForStopDueToDisconnect := trivial
      exact .inl ⟨_, _, rfl, cut_of_call called noticed ended⟩
    | @refused _ _ error =>
      refine .inr ⟨.error (.addTcpStream error), ?_, rfl⟩
      simp [Process.returned, ofProcess]
    | @returned _ result =>
      refine .inr ⟨result, by simp [Process.returned, ofProcess], ?_⟩
      rw [follow_process]
      rfl
    | mux => exact absurd rfl (own _)
  | inbound same _ taken =>
    rw [phase] at same
    cases same
    exact .inl ⟨_, stage, rfl, cut_of_turn (Inbound.step_cases taken) ended⟩

/-- Once `start_forwarder` has returned, the forwarder does not go on by itself. -/
theorem stuck_after {result : Except ForwarderError Bool}
    (left : bridge.process.phase = Process.after result) (working : works label = true) :
    machine.step bridge label = none := by
  -- In the loop of `main` none of these awaits is there.
  cases label with
  | inbound label =>
    rcases Process.after_cases result with again | ⟨_, ended⟩
    · simp [machine, step, left, again]
    · simp [machine, step, left, ended]
  | process label =>
    have none : bridge.process.step label = none := by
      rcases Process.after_cases result with again | ⟨_, ended⟩
      · cases label <;> simp [works] at working <;> simp [Process.step, left, again]
      · cases label <;> simp [works] at working <;> simp [Process.step, left, ended]
    cases label <;> simp [machine, step, none]

/-- Going on by itself, the forwarder comes from an ended stream to a return at most. -/
theorem cut_or_returned {more : List Label} {last : Bridge} (cut : bridge.Cut)
    (working : ∀ label ∈ more, works label = true)
    (executed : machine.exec bridge more = some (last, out)) :
    last.Cut ∨ ∃ result, .returned result ∈ out ∧ last.process.phase = Process.after result := by
  -- The induction is on the labels after the cut, the first of which may be the return.
  induction more generalizing bridge out with
  | nil =>
    cases executed
    exact .inl cut
  | cons label more ih =>
    obtain ⟨next, first, rest, taken, remaining, rfl⟩ := Lts.exec_cons executed
    have others : ∀ label ∈ more, works label = true :=
      fun other member => working other (List.mem_cons_of_mem _ member)
    rcases (step_cases taken).cut cut with cut | ⟨result, returned, left⟩
    · rcases ih cut others remaining with cut | ⟨result, returned, left⟩
      · exact .inl cut
      · exact .inr ⟨result, List.mem_append_right _ returned, left⟩
    · -- Nothing follows the return.
      cases more with
      | nil =>
        cases remaining
        exact .inr ⟨result, List.mem_append_left _ returned, left⟩
      | cons later more =>
        obtain ⟨_, _, _, impossible, _⟩ := Lts.exec_cons remaining
        rw [stuck_after left (others later List.mem_cons_self)] at impossible
        cases impossible

/-- If no more bytes arrive, the forwarder goes on by itself for a bounded number of steps, whatever
else happens meanwhile, and it is never stuck unless it waits for bytes of a stream that has not
ended. Once the stream has ended, these steps lead `start_forwarder` to its return. -/
theorem start_forwarder_returns (run : machine.Run labels seen bridge) :
    (∀ more last out, (∀ label ∈ more, Quiet label) →
      machine.exec bridge more = some (last, out) → more.countP works ≤ bridge.workLeft) ∧
    ((∀ label, works label = true → machine.step bridge label = none) → bridge.Rests) ∧
    (bridge.Cut → ∃ more last out result, (∀ label ∈ more, works label = true) ∧
      machine.exec bridge more = some (last, out) ∧ .returned result ∈ out ∧
        last.process.phase = Process.after result) := by
  -- The rank adds the awaits of the stage to what `pipe_out_tcp` has left.
  have reachable : machine.Reachable bridge := ⟨labels, seen, run⟩
  refine ⟨?_, ?_, ?_⟩
  · intro more last out quiet executed
    have bound := settling.count_le reachable (fun label member _ => quiet label member) executed
    exact Nat.le_trans (Nat.le_add_right _ _) bound
  · exact settling.rests_of_stuck reachable
  · intro cut
    obtain ⟨more, last, out, working, executed, rests⟩ := settling.settles reachable
    rcases cut_or_returned cut working executed with ⟨mux, stage, phase, ended⟩ | returned
    · -- Where it rests its stream has not ended.
      exact absurd (rests mux stage phase).2.1 ended
    · obtain ⟨result, returned, left⟩ := returned
      exact ⟨more, last, out, result, working, executed, returned, left⟩

/-- The L2CAP stream ends as soon as the forwarder is up. -/
theorem start_forwarder_returns_end_of_stream :
    ∃ seen bridge, machine.Run
        [.process (.found (.ok ())), .process (.bound (.ok ())), .process (.connected (.ok ())),
          .inbound (.pipeInL2cap (.ok []))] seen bridge ∧
      ∃ more last out result, (∀ label ∈ more, works label = true) ∧
        machine.exec bridge more = some (last, out) ∧ .returned result ∈ out ∧
          last.process.phase = Process.after result := by
  obtain ⟨seen, bridge, run, cut⟩ : ∃ seen bridge, machine.Run
      [.process (.found (.ok ())), .process (.bound (.ok ())), .process (.connected (.ok ())),
        .inbound (.pipeInL2cap (.ok []))] seen bridge ∧ bridge.Cut :=
    ⟨_, _, Lts.Run.of_exec rfl, _, _, rfl, by simp⟩
  exact ⟨seen, bridge, run, (start_forwarder_returns run).2.2 cut⟩

/-- The loop of `start_forwarder` is left on a disconnect only after every packet of what has been
read from the L2CAP stream has been dispatched, and every TCP stream that was registered has been
given all that was sent to it. -/
theorem disconnect_loses_nothing (run : machine.Run labels seen bridge)
    (taken : machine.step bridge (.process .disconnectNotice) = some (next, out)) :
    ∃ mux streams accepting earlier inner shown,
      bridge.process.phase = .forwarding mux (.selecting streams accepting) ∧
        seen = earlier ++ shown.map .inbound ∧
          Inbound.machine.Run inner shown (bridge.pipeline mux) ∧
            Mux.handled (shown.filterMap Inbound.toMux) = parse (Inbound.received shown) ∧
              ∀ first rest port stream,
                shown.filterMap Inbound.toMux = first ++ .table (.insert port stream) :: rest →
                  (Mux.answers stream (shown.filterMap Inbound.toMux)).flatMap Prod.fst =
                    Inbound.sentTo port first (Inbound.received shown) := by
  have taken : bridge.step (.process .disconnectNotice) = some (next, out) := taken
  cases step_cases taken with
  | process own went =>
    cases Process.step_cases went with
    | returned returns =>
      generalize bridge.process.phase = phase at returns
      cases returns
    | @disconnectNotice mux streams accepting _ _ phase noticed =>
      obtain ⟨_, _, earlier, _, inner, shown, _, _, told, reached⟩ := piped run mux _ phase
      obtain ⟨others, alone⟩ := Inbound.runs_multiplexer reached
      -- Only `pipe_out_tcp` asks for the stop, and it does so at its end.
      have ended : mux.pipeOutTcp = .ended := by
        by_contra goes
        have none : mux.stopDueToDisconnect = [] := (Mux.notifies alone).silent goes
        simp [Mux.step, Mux.waitForStopDueToDisconnect, none] at noticed
      have all := (Inbound.handled_of_bytes reached fun _ => rfl).2 ended
      rw [List.append_nil] at all
      refine ⟨mux, streams, accepting, earlier, inner, shown, phase, told, reached, all, ?_⟩
      intro first rest port stream split
      have given := (Inbound.given_of_bytes reached (fun _ => rfl) split).2 ended
      rwa [List.append_nil] at given

/-- Two bytes are given to a TCP stream before the end of the L2CAP stream is noticed. -/
theorem disconnect_loses_nothing_two_bytes :
    ∃ seen bridge next out, machine.Run
        [.process (.found (.ok ())), .process (.bound (.ok ())), .process (.connected (.ok ())),
          .process (.created (.ok ())), .process (.created (.ok ())), .process .accepted,
          .inbound (.pipeInL2cap (.ok [1, 0, 2, 0, 0, 0, 7, 8])), .inbound .recv,
          .inbound .returned, .inbound (.mux (.wroteTcp (.ok 2))),
          .inbound (.pipeInL2cap (.ok [])), .inbound .recv, .inbound .returned,
          .inbound (.mux .sendStop)] seen bridge ∧
      .inbound (.mux (.answered 0 [7, 8] (.ok 2))) ∈ seen ∧
        machine.step bridge (.process .disconnectNotice) = some (next, out) ∧
          ∃ (earlier : List BridgeEvent) (shown : List InboundEvent),
            seen = earlier ++ shown.map .inbound ∧
              Mux.handled (shown.filterMap Inbound.toMux) = parse (Inbound.received shown) := by
  have reached : (machine.exec machine.init
      [.process (.found (.ok ())), .process (.bound (.ok ())), .process (.connected (.ok ())),
        .process (.created (.ok ())), .process (.created (.ok ())), .process .accepted,
        .inbound (.pipeInL2cap (.ok [1, 0, 2, 0, 0, 0, 7, 8])), .inbound .recv,
        .inbound .returned, .inbound (.mux (.wroteTcp (.ok 2))),
        .inbound (.pipeInL2cap (.ok [])), .inbound .recv, .inbound .returned,
        .inbound (.mux .sendStop)]).map (fun result =>
          (decide (.inbound (.mux (.answered 0 [7, 8] (.ok 2))) ∈ result.2),
            (machine.step result.1 (.process .disconnectNotice)).isSome)) =
      some (true, true) := by decide +kernel
  obtain ⟨⟨bridge, seen⟩, executed, facts⟩ := Option.map_eq_some_iff.mp reached
  simp only [Prod.mk.injEq, decide_eq_true_eq] at facts
  obtain ⟨answered, notices⟩ := facts
  obtain ⟨⟨next, out⟩, taken⟩ := Option.isSome_iff_exists.mp notices
  have run := Lts.Run.of_exec executed
  obtain ⟨_, _, _, earlier, _, shown, _, told, _, all, _⟩ := disconnect_loses_nothing run taken
  exact ⟨seen, bridge, next, out, run, answered, taken, earlier, shown, told, all⟩

end Bridge

end BleManaged
