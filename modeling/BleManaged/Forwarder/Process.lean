import BleManaged.Socks.Admission

/-! The forwarder process: the loop of `main`, the loop of `start_forwarder`, and the signals. -/

namespace BleManaged

/-- The signals that stop the process: SIGTERM and SIGINT. -/
inductive Signal where
  | terminate
  | interrupt
  deriving DecidableEq, Repr

/-- A stream of notifications of one signal. -/
structure SignalStream where
  /-- How many deliveries of the signal the stream will not be notified of any more. -/
  seen : Nat
  deriving DecidableEq, Repr

namespace SignalStream

/-- A stream that is created now is notified of later deliveries only. -/
def create (delivered : Nat) : SignalStream := { seen := delivered }

/-- The stream has a notification pending for the delivery with this number. -/
def Pending (stream : SignalStream) (number : Nat) : Prop := stream.seen ≤ number

/-- Receive a notification, which stands for all the deliveries so far. -/
def recv (stream : SignalStream) (delivered : Nat) : Option SignalStream :=
  if stream.seen < delivered then some { seen := delivered } else none

end SignalStream

/-- The two streams that a loop polls. -/
structure SignalStreams where
  sigterm : SignalStream
  sigint : SignalStream
  deriving DecidableEq, Repr

namespace SignalStreams

/-- The stream of one of the signals. -/
def get (streams : SignalStreams) : Signal → SignalStream
  | .terminate => streams.sigterm
  | .interrupt => streams.sigint

/-- The streams after one of them has been received from. -/
def set (streams : SignalStreams) (stream : SignalStream) : Signal → SignalStreams
  | .terminate => { streams with sigterm := stream }
  | .interrupt => { streams with sigint := stream }

end SignalStreams

/-- How `start_forwarder` fails, with the text of the failure underneath. -/
inductive ForwarderError where
  | bind (error : String)
  | connectL2cap (error : String)
  | signal (error : String)
  | addTcpStream (error : AddError)
  | isConnected (error : String)
  deriving DecidableEq, Repr

/-- The text of an error of `start_forwarder`. -/
def ForwarderError.message : ForwarderError → String
  | .bind error => error
  | .connectL2cap error => "Error creating L2CAP stream: " ++ error
  | .signal error => error
  | .addTcpStream error => "could not add mux TCP stream: " ++ error.message
  | .isConnected error => error

/-- Where `start_forwarder` is once it has created its multiplexer. -/
inductive Stage where
  | creatingSigterm
  | creatingSigint (sigterm : SignalStream)
  /-- Waiting in its loop, with the branch of `accept` armed or disabled. -/
  | selecting (streams : SignalStreams) (accepting : Bool)
  /-- Sleeping for a couple of seconds, with what it will return. -/
  | sleeping (shouldRestartMainProgram : Bool)
  | checking (shouldRestartMainProgram : Bool)
  | disconnecting (shouldRestartMainProgram : Bool)
  deriving DecidableEq, Repr

/-- Where the process is. -/
inductive Phase where
  /-- Waiting in the loop of `main`, while `find_viam_mobile_device_and_psm` runs. -/
  | scanning
  | binding
  | connecting
  | forwarding (mux : Mux) (stage : Stage)
  /-- Out of the loop of `main`. -/
  | stopped

/-- The process since `main` registered its handlers. -/
structure Process where
  /-- How often each signal has been delivered. -/
  delivered : Signal → Nat
  /-- The streams that the loop of `main` polls. -/
  streams : SignalStreams
  phase : Phase

/-- What can be observed of the process. -/
inductive ProcessEvent where
  | mux (event : Event)
  | returned (result : Except ForwarderError Bool)
  deriving DecidableEq, Repr

namespace Process

/-- What can happen next: a signal, or one of the awaits of the process coming to its end. -/
inductive Label where
  | deliver (signal : Signal)
  /-- `find_viam_mobile_device_and_psm` returns. -/
  | found (result : Except String Unit)
  /-- The loop that is waiting receives a notification. -/
  | signalled (signal : Signal)
  | bound (result : Except String Unit)
  | connected (result : Except String Unit)
  /-- The creation of a stream of signals returns. -/
  | created (result : Except String Unit)
  | accepted
  | acceptFailed
  /-- `wait_for_stop_due_to_disconnect` returns. -/
  | disconnectNotice
  | slept
  | checkedConnected (result : Except String Bool)
  /-- The disconnect has finished, failed or timed out. -/
  | disconnected
  | mux (label : Mux.Label)

/-- The process in another phase. -/
def goto (process : Process) (phase : Phase) : Process := { process with phase }

/-- Going to a phase leads there. -/
@[simp] theorem goto_phase (process : Process) (phase : Phase) :
    (process.goto phase).phase = phase := rfl

/-- Going to a phase delivers no signal. -/
theorem goto_delivered (process : Process) (phase : Phase) :
    (process.goto phase).delivered = process.delivered := rfl

/-- The process after one more delivery of a signal. -/
def deliver (process : Process) (signal : Signal) : Process :=
  { process with
    delivered := Function.update process.delivered signal (process.delivered signal + 1) }

/-- Where the loop of `main` goes when `start_forwarder` returns. -/
def after : Except ForwarderError Bool → Phase
  | .ok true => .scanning
  | .ok false => .stopped
  -- The error is logged, and the search starts again.
  | .error _ => .scanning

/-- The process after `start_forwarder` has returned, which drops its multiplexer. -/
def returned (process : Process) (result : Except ForwarderError Bool) :
    Process × List ProcessEvent :=
  (process.goto (after result), [.returned result])

/-- The error that a call of `add_tcp_stream` returned, if it did. -/
def addError (seen : List Event) : Option AddError :=
  seen.findSome? fun
    | .added _ (.error error) => some error
    | _ => none

/-- The accepted stream is passed to the multiplexer, and a new `select!` begins. -/
def accept (process : Process) (mux : Mux) (streams : SignalStreams) :
    Process × List ProcessEvent :=
  let added := mux.addTcpStream
  match addError added.2 with
  | none => (process.goto (.forwarding added.1 (.selecting streams true)), added.2.map .mux)
  | some error =>
    -- The forwarder gives up, and all of its streams are dropped with it.
    let failed := process.returned (.error (.addTcpStream error))
    (failed.1, added.2.map .mux ++ failed.2)

/-- A loop that is waiting receives a notification of a signal. -/
def signalled (process : Process) (signal : Signal) : Option (Process × List ProcessEvent) :=
  match process.phase with
  | .scanning =>
    ((process.streams.get signal).recv (process.delivered signal)).map fun stream =>
      ({ process with streams := process.streams.set stream signal, phase := .stopped }, [])
  | .forwarding mux (.selecting streams _) =>
    -- The stream is not used again, so what it has seen does not matter any more.
    ((streams.get signal).recv (process.delivered signal)).map fun _ =>
      (process.goto (.forwarding mux (.sleeping false)), [])
  | _ => none

/-- The effect of one label. -/
def step (process : Process) : Label → Option (Process × List ProcessEvent)
  | .deliver signal => some (process.deliver signal, [])
  | .found result =>
    match process.phase, result with
    | .scanning, .ok () => some (process.goto .binding, [])
    -- The error is logged, and the search starts again.
    | .scanning, .error _ => some (process.goto .scanning, [])
    | _, _ => none
  | .signalled signal => process.signalled signal
  | .bound result =>
    match process.phase, result with
    | .binding, .ok () => some (process.goto .connecting, [])
    | .binding, .error error => some (process.returned (.error (.bind error)))
    | _, _ => none
  | .connected result =>
    match process.phase, result with
    | .connecting, .ok () =>
      some (process.goto (.forwarding Mux.createAndStart .creatingSigterm), [])
    | .connecting, .error error => some (process.returned (.error (.connectL2cap error)))
    | _, _ => none
  | .created result =>
    match process.phase, result with
    | .forwarding mux .creatingSigterm, .ok () =>
      let sigterm := SignalStream.create (process.delivered .terminate)
      some (process.goto (.forwarding mux (.creatingSigint sigterm)), [])
    | .forwarding mux (.creatingSigint sigterm), .ok () =>
      let sigint := SignalStream.create (process.delivered .interrupt)
      some (process.goto (.forwarding mux (.selecting { sigterm, sigint } true)), [])
    | .forwarding _ .creatingSigterm, .error error
    | .forwarding _ (.creatingSigint _), .error error =>
      some (process.returned (.error (.signal error)))
    | _, _ => none
  | .accepted =>
    match process.phase with
    | .forwarding mux (.selecting streams true) => some (process.accept mux streams)
    | _ => none
  | .acceptFailed =>
    match process.phase with
    -- The pattern of the branch does not match, which disables it for the rest of the `select!`.
    | .forwarding mux (.selecting streams true) =>
      some (process.goto (.forwarding mux (.selecting streams false)), [])
    | _ => none
  | .disconnectNotice =>
    match process.phase with
    | .forwarding mux (.selecting _ _) =>
      mux.waitForStopDueToDisconnect.map fun result =>
        (process.goto (.forwarding result.1 (.sleeping true)), result.2.map .mux)
    | _ => none
  | .slept =>
    match process.phase with
    | .forwarding mux (.sleeping restart) =>
      some (process.goto (.forwarding mux (.checking restart)), [])
    | _ => none
  | .checkedConnected result =>
    match process.phase, result with
    | .forwarding mux (.checking restart), .ok true =>
      some (process.goto (.forwarding mux (.disconnecting restart)), [])
    | .forwarding _ (.checking restart), .ok false => some (process.returned (.ok restart))
    | .forwarding _ (.checking _), .error error =>
      some (process.returned (.error (.isConnected error)))
    | _, _ => none
  | .disconnected =>
    match process.phase with
    -- A failed or late disconnect is logged only.
    | .forwarding _ (.disconnecting restart) => some (process.returned (.ok restart))
    | _ => none
  | .mux label =>
    match process.phase with
    | .forwarding mux stage =>
      -- Calls of the mux are made by the loop itself.
      if OwnedMux.Called label then none
      else
        (mux.step label).map fun result =>
          (process.goto (.forwarding result.1 stage), result.2.map .mux)
    | _ => none

/-- The process, from the moment `main` has registered its handlers. -/
def machine : Lts Process Label ProcessEvent where
  init :=
    { delivered := fun _ => 0
      streams := { sigterm := SignalStream.create 0, sigint := SignalStream.create 0 }
      phase := .scanning }
  step := step

/-- The awaits outside its loop that make `start_forwarder` return, and what it returns. -/
inductive Returns : Phase → Label → Except ForwarderError Bool → Prop where
  | bind {error} : Returns .binding (.bound (.error error)) (.error (.bind error))
  | connectL2cap {error} :
      Returns .connecting (.connected (.error error)) (.error (.connectL2cap error))
  | sigterm {mux error} :
      Returns (.forwarding mux .creatingSigterm) (.created (.error error))
        (.error (.signal error))
  | sigint {mux sigterm error} :
      Returns (.forwarding mux (.creatingSigint sigterm)) (.created (.error error))
        (.error (.signal error))
  | isConnected {mux restart error} :
      Returns (.forwarding mux (.checking restart)) (.checkedConnected (.error error))
        (.error (.isConnected error))
  | gone {mux restart} :
      Returns (.forwarding mux (.checking restart)) (.checkedConnected (.ok false)) (.ok restart)
  | disconnected {mux restart} :
      Returns (.forwarding mux (.disconnecting restart)) .disconnected (.ok restart)

/-- Every step, with the branch of the source it takes. -/
inductive Step (process : Process) : Label → Process → List ProcessEvent → Prop where
  | deliver {signal} : Step process (.deliver signal) (process.deliver signal) []
  /-- A device has been found, and `start_forwarder` is called. -/
  | found (phase : process.phase = .scanning) :
      Step process (.found (.ok ())) (process.goto .binding) []
  /-- No device has been found, and the search starts again. -/
  | lost {error} (phase : process.phase = .scanning) :
      Step process (.found (.error error)) (process.goto .scanning) []
  /-- The loop of `main` is left on a signal. -/
  | stopped {signal stream} (phase : process.phase = .scanning)
      (notified : (process.streams.get signal).recv (process.delivered signal) = some stream) :
      Step process (.signalled signal)
        { process with streams := process.streams.set stream signal, phase := .stopped } []
  /-- The loop of `start_forwarder` is left on a signal. -/
  | interrupted {signal mux streams accepting stream}
      (phase : process.phase = .forwarding mux (.selecting streams accepting))
      (notified : (streams.get signal).recv (process.delivered signal) = some stream) :
      Step process (.signalled signal) (process.goto (.forwarding mux (.sleeping false))) []
  | bound (phase : process.phase = .binding) :
      Step process (.bound (.ok ())) (process.goto .connecting) []
  /-- The L2CAP stream is connected, and a multiplexer is created. -/
  | connected (phase : process.phase = .connecting) :
      Step process (.connected (.ok ()))
        (process.goto (.forwarding Mux.createAndStart .creatingSigterm)) []
  | createdSigterm {mux} (phase : process.phase = .forwarding mux .creatingSigterm) :
      Step process (.created (.ok ()))
        (process.goto (.forwarding mux
          (.creatingSigint (SignalStream.create (process.delivered .terminate))))) []
  /-- The stream of SIGINT is created, and the loop begins. -/
  | createdSigint {mux sigterm}
      (phase : process.phase = .forwarding mux (.creatingSigint sigterm)) :
      Step process (.created (.ok ()))
        (process.goto (.forwarding mux
          (.selecting { sigterm, sigint := SignalStream.create (process.delivered .interrupt) }
            true))) []
  | accepted {mux streams}
      (phase : process.phase = .forwarding mux (.selecting streams true))
      (added : addError mux.addTcpStream.2 = none) :
      Step process .accepted
        (process.goto (.forwarding mux.addTcpStream.1 (.selecting streams true)))
        (mux.addTcpStream.2.map .mux)
  /-- A TCP stream is accepted and refused. -/
  | refused {mux streams error}
      (phase : process.phase = .forwarding mux (.selecting streams true))
      (refused : addError mux.addTcpStream.2 = some error) :
      Step process .accepted (process.returned (.error (.addTcpStream error))).1
        (mux.addTcpStream.2.map .mux ++
          (process.returned (.error (.addTcpStream error))).2)
  /-- An accept fails, and its branch is disabled. -/
  | acceptFailed {mux streams}
      (phase : process.phase = .forwarding mux (.selecting streams true)) :
      Step process .acceptFailed
        (process.goto (.forwarding mux (.selecting streams false))) []
  /-- The loop of `start_forwarder` is left on a disconnect notice. -/
  | disconnectNotice {mux streams accepting next out}
      (phase : process.phase = .forwarding mux (.selecting streams accepting))
      (noticed : mux.step .waitForStopDueToDisconnect = some (next, out)) :
      Step process .disconnectNotice (process.goto (.forwarding next (.sleeping true)))
        (out.map .mux)
  | slept {mux restart} (phase : process.phase = .forwarding mux (.sleeping restart)) :
      Step process .slept (process.goto (.forwarding mux (.checking restart))) []
  | stillConnected {mux restart} (phase : process.phase = .forwarding mux (.checking restart)) :
      Step process (.checkedConnected (.ok true))
        (process.goto (.forwarding mux (.disconnecting restart))) []
  /-- An await of `start_forwarder` makes it return. -/
  | returned {label result} (returns : Returns process.phase label result) :
      Step process label (process.returned result).1 (process.returned result).2
  | mux {label mux stage next out} (phase : process.phase = .forwarding mux stage)
      (free : ¬OwnedMux.Called label) (taken : mux.step label = some (next, out)) :
      Step process (.mux label) (process.goto (.forwarding next stage)) (out.map .mux)

/-- An await that makes `start_forwarder` return is none of the steps of its loop. -/
theorem Returns.label_ne {phase : Phase} {label : Label} {result : Except ForwarderError Bool}
    (returns : Returns phase label result) : label ≠ .acceptFailed ∧ label ≠ .created (.ok ()) := by
  cases returns <;> simp

/-- Once `start_forwarder` has returned, its multiplexer is gone. -/
theorem after_ne_forwarding (result : Except ForwarderError Bool) (mux : Mux) (stage : Stage) :
    after result ≠ .forwarding mux stage := by
  cases result with
  | error error => simp [after]
  | ok restart => cases restart <;> simp [after]

/-- The steps of a loop that receives a notification. -/
theorem signalled_cases {process next : Process} {signal : Signal} {out : List ProcessEvent}
    (taken : process.signalled signal = some (next, out)) :
    Step process (.signalled signal) next out := by
  simp only [signalled] at taken
  -- `main` and the loop of `start_forwarder` each have their own pair of streams.
  split at taken
  · rename_i phase
    obtain ⟨stream, notified, same⟩ := Option.map_eq_some_iff.mp taken
    cases same
    exact .stopped phase notified
  · rename_i phase
    obtain ⟨stream, notified, same⟩ := Option.map_eq_some_iff.mp taken
    cases same
    exact .interrupted phase notified
  · cases taken

/-- The steps of a loop that accepts a TCP stream. -/
theorem accept_cases {process : Process} {mux : Mux} {streams : SignalStreams}
    (phase : process.phase = .forwarding mux (.selecting streams true)) :
    Step process .accepted (process.accept mux streams).1 (process.accept mux streams).2 := by
  cases added : addError mux.addTcpStream.2 with
  | none => simpa [accept, added] using Step.accepted phase added
  | some error => simpa [accept, added] using Step.refused phase added

/-- The process takes no other steps. -/
theorem step_cases {process next : Process} {label : Label} {out : List ProcessEvent}
    (taken : process.step label = some (next, out)) : Step process label next out := by
  -- A label that does not fit the phase would have been refused.
  cases label with
  | deliver signal =>
    cases taken
    exact .deliver
  | found result =>
    simp only [step] at taken
    split at taken
    · cases taken
      exact .found ‹_›
    · cases taken
      exact .lost ‹_›
    · cases taken
  | signalled signal => exact signalled_cases taken
  | bound result =>
    simp only [step] at taken
    split at taken
    · cases taken
      exact .bound ‹_›
    · rename_i phase
      cases taken
      -- `?` passes the error on, and so do the other errors below.
      exact .returned (phase ▸ .bind)
    · cases taken
  | connected result =>
    simp only [step] at taken
    split at taken
    · cases taken
      exact .connected ‹_›
    · rename_i phase
      cases taken
      exact .returned (phase ▸ .connectL2cap)
    · cases taken
  | created result =>
    simp only [step] at taken
    split at taken
    · cases taken
      exact .createdSigterm ‹_›
    · cases taken
      exact .createdSigint ‹_›
    · rename_i phase
      cases taken
      exact .returned (phase ▸ .sigterm)
    · rename_i phase
      cases taken
      exact .returned (phase ▸ .sigint)
    · cases taken
  | accepted =>
    simp only [step] at taken
    split at taken
    · rename_i phase
      -- Whether the stream is added is decided by the mux.
      obtain ⟨rfl, rfl⟩ := Prod.mk.inj (Option.some.inj taken)
      exact accept_cases phase
    · cases taken
  | acceptFailed =>
    simp only [step] at taken
    split at taken
    · cases taken
      exact .acceptFailed ‹_›
    · cases taken
  | disconnectNotice =>
    simp only [step] at taken
    split at taken
    · rename_i phase
      -- The branch is ready only if the mux has a stop request.
      obtain ⟨⟨mux, seen⟩, noticed, same⟩ := Option.map_eq_some_iff.mp taken
      cases same
      exact .disconnectNotice phase noticed
    · cases taken
  | slept =>
    simp only [step] at taken
    split at taken
    · cases taken
      exact .slept ‹_›
    · cases taken
  | checkedConnected result =>
    simp only [step] at taken
    split at taken
    · cases taken
      exact .stillConnected ‹_›
    · rename_i phase
      cases taken
      exact .returned (phase ▸ .gone)
    · rename_i phase
      cases taken
      exact .returned (phase ▸ .isConnected)
    · cases taken
  | disconnected =>
    simp only [step] at taken
    split at taken
    · rename_i phase
      cases taken
      exact .returned (phase ▸ .disconnected)
    · cases taken
  | mux label =>
    simp only [step] at taken
    split at taken
    · rename_i phase
      split at taken
      · cases taken
      · rename_i free
        obtain ⟨⟨mux, seen⟩, went, same⟩ := Option.map_eq_some_iff.mp taken
        cases same
        exact .mux phase free went
    · cases taken

/-- The labels that lead from the search for a device into the loop of `start_forwarder`. -/
def intoLoop : List Label :=
  [.found (.ok ()), .bound (.ok ()), .connected (.ok ()), .created (.ok ()), .created (.ok ())]

end Process

end BleManaged
