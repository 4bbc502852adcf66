import BleManaged.Phone.Proxy

/-! The steps of the phone proxy, one for each branch of the source. -/

namespace BleManaged

namespace Phone

/-- What the peripheral part of a start goes through. -/
inductive PeripheralMove (index : Nat) : Label → PeripheralPhase → PeripheralPhase → Prop where
  | created : PeripheralMove index (.peripheralCreated index (.ok ())) .creating .waitingForPower
  | notCreated {error} :
      PeripheralMove index (.peripheralCreated index (.error error)) .creating .failed
  /-- It is powered on, and `initializeProxy` is called. -/
  | poweredOn : PeripheralMove index (.peripheralState index true) .waitingForPower .publishing
  /-- An await of `initializeProxy` is over. -/
  | done {before after} (next : peripheralAfter before = some after) :
      PeripheralMove index (.peripheralDone index (.ok ())) before after
  | failed {before after error} (next : peripheralAfter before = some after) :
      PeripheralMove index (.peripheralDone index (.error error)) before .failed

/-- Every step of a start, with the branch of the source it takes. -/
inductive StartStep (phone : Phone) : Label → Phone → List PhoneEvent → Prop where
  /-- A request is answered, and the next one is made. -/
  | answered {index answered} (started : phone.starts[index]? = some (.requesting answered))
      (more : answered < 2) :
      StartStep phone (.permission index (.ok ()))
        (phone.setStart index (.requesting (answered + 1))) []
  | requested {index answered} (started : phone.starts[index]? = some (.requesting answered))
      (last : ¬answered < 2) :
      StartStep phone (.permission index (.ok ()))
        (phone.setStart index (.requested .creating .creating)) []
  | refused {index answered error} (started : phone.starts[index]? = some (.requesting answered)) :
      StartStep phone (.permission index (.error error)) (phone.setStart index .refused) []
  | centralCreated {index peripheral}
      (started : phone.starts[index]? = some (.requested .creating peripheral)) :
      StartStep phone (.centralCreated index (.ok ()))
        (phone.setStart index (.requested .waitingForPower peripheral)) []
  | centralFailed {index peripheral error}
      (started : phone.starts[index]? = some (.requested .creating peripheral)) :
      StartStep phone (.centralCreated index (.error error))
        (phone.setStart index (.requested .over peripheral)) []
  /-- The central is powered on, and `manageMachine` is called. -/
  | poweredOn {index peripheral}
      (started : phone.starts[index]? = some (.requested .waitingForPower peripheral)) :
      StartStep phone (.centralState index true)
        (phone.setStart index (.requested .over peripheral)).manageMachine.1
        (phone.setStart index (.requested .over peripheral)).manageMachine.2
  | notPowered {index peripheral}
      (started : phone.starts[index]? = some (.requested .waitingForPower peripheral)) :
      StartStep phone (.centralState index false) phone []
  /-- The peripheral part goes on, or fails. -/
  | peripheral {label index central before after}
      (started : phone.starts[index]? = some (.requested central before))
      (moves : PeripheralMove index label before after) :
      StartStep phone label (phone.setStart index (.requested central after)) []
  | peripheralWaits {index central}
      (started : phone.starts[index]? = some (.requested central .waitingForPower)) :
      StartStep phone (.peripheralState index false) phone []
  /-- A channel arrives, and a bridge is established. -/
  | channelArrived {index central}
      (started : phone.starts[index]? = some (.requested central .listening)) :
      StartStep phone (.channelArrived index) { phone with bridgeEstablished := true }
        [.bridge true]
  /-- The bridge is lost, and `mainLoop` is called once more. -/
  | disconnectReported {index start} (started : phone.starts[index]? = some start) :
      StartStep phone (.disconnectReported index)
        { phone with bridgeEstablished := false }.mainLoop [.bridge false]

/-- The starts take no other steps. -/
theorem stepStart_cases {phone next : Phone} {label : Label} {events : List PhoneEvent}
    (taken : phone.stepStart label = some (next, events)) : StartStep phone label next events := by
  cases label with
  | permission index answer =>
    simp only [stepStart] at taken
    split at taken
    · -- Only the third answer lets the start go on, whatever the answers are.
      rename_i answered started
      by_cases more : answered < 2
      · rw [if_pos more] at taken
        cases taken
        exact .answered started more
      · rw [if_neg more] at taken
        cases taken
        exact .requested started more
    · cases taken
      exact .refused ‹_›
    · cases taken
  -- A central that is not created ends its own part of the start only.
  | centralCreated index result =>
    simp only [stepStart] at taken
    split at taken
    · cases taken
      exact .centralCreated ‹_›
    · cases taken
      exact .centralFailed ‹_›
    · cases taken
  | centralState index poweredOn =>
    simp only [stepStart] at taken
    split at taken
    · rename_i peripheral started
      -- A central that is not powered on now may be so later.
      cases poweredOn with
      | true =>
        cases taken
        exact .poweredOn started
      | false =>
        cases taken
        exact .notPowered started
    · cases taken
  -- The peripheral has its own await, which neither needs nor stops the central.
  | peripheralCreated index result =>
    simp only [stepStart] at taken
    split at taken
    · cases taken
      exact .peripheral ‹_› .created
    · cases taken
      exact .peripheral ‹_› .notCreated
    · cases taken
  | peripheralState index poweredOn =>
    simp only [stepStart] at taken
    split at taken
    · rename_i central started
      cases poweredOn with
      | true =>
        cases taken
        exact .peripheral started .poweredOn
      | false =>
        cases taken
        exact .peripheralWaits started
    · cases taken
  | peripheralDone index result =>
    simp only [stepStart] at taken
    split at taken
    · rename_i central before started
      -- Which await is over is told by the phase of the peripheral.
      obtain ⟨after, goes, same⟩ := Option.map_eq_some_iff.mp taken
      cases result with
      | ok done =>
        cases same
        exact .peripheral started (.done goes)
      | error error =>
        cases same
        exact .peripheral started (.failed goes)
    · cases taken
  | channelArrived index =>
    simp only [stepStart] at taken
    split at taken
    · cases taken
      exact .channelArrived ‹_›
    · cases taken
  -- Any start may report a lost bridge, however far it has come.
  | disconnectReported index =>
    simp only [stepStart] at taken
    split at taken
    · cases taken
      exact .disconnectReported ‹_›
    · cases taken
  -- The other labels are about searches and attempts.
  | found | scanError | connected | nameRead | delayed | disconnected | nameWritten | polled
  | timedOut => cases taken

/-- Every step of a search or an attempt, with the branch of the source it takes. -/
inductive AttemptStep (mobileDevice machineToManage : String) (phone : Phone) :
    Label → Phone → List PhoneEvent → Prop where
  /-- A device that was tried recently is skipped. -/
  | skipped {search periph now} (listening : phone.searches[search]? = some .listening)
      (recent : phone.triedRecently periph now = true) :
      AttemptStep mobileDevice machineToManage phone (.found search periph now) phone []
  | tried {search periph now} (listening : phone.searches[search]? = some .listening)
      (recent : phone.triedRecently periph now = false) :
      AttemptStep mobileDevice machineToManage phone (.found search periph now)
        { phone.setSearch search .paused with
          lastTried := Function.update phone.lastTried periph (some now)
          attempts := phone.attempts ++ [{ search, periph, phase := .connecting }] }
        [.connecting phone.attempts.length]
  /-- An error of the scan is logged. -/
  | scanError {search} (listening : phone.searches[search]? = some .listening) :
      AttemptStep mobileDevice machineToManage phone (.scanError search) phone []
  | connected {index search periph services}
      (attempt : phone.attempts[index]? = some ⟨search, periph, .connecting⟩) :
      AttemptStep mobileDevice machineToManage phone (.connected index (.ok services))
        (phone.connected index services).1
        (.connected index :: (phone.connected index services).2)
  | connectFailed {index search periph error}
      (attempt : phone.attempts[index]? = some ⟨search, periph, .connecting⟩) :
      AttemptStep mobileDevice machineToManage phone (.connected index (.error error))
        (phone.catchError index).1 (phone.catchError index).2
  | nameRead {index search periph viamSvc result periphName}
      (attempt : phone.attempts[index]? = some ⟨search, periph, .reading viamSvc⟩)
      (read : readName result = some periphName) :
      AttemptStep mobileDevice machineToManage phone (.nameRead index result)
        (nameRead mobileDevice machineToManage phone index search viamSvc periphName).1
        (nameRead mobileDevice machineToManage phone index search viamSvc periphName).2
  /-- It is not read, or is no name. -/
  | nameUnread {index search periph viamSvc result}
      (attempt : phone.attempts[index]? = some ⟨search, periph, .reading viamSvc⟩)
      (unread : readName result = none) :
      AttemptStep mobileDevice machineToManage phone (.nameRead index result)
        (phone.catchError index).1 (phone.catchError index).2
  | delayed {index search periph}
      (attempt : phone.attempts[index]? = some ⟨search, periph, .delaying⟩) :
      AttemptStep mobileDevice machineToManage phone (.delayed index)
        (phone.disconnect index .restart).1 (phone.disconnect index .restart).2
  | disconnected {index search periph after}
      (attempt : phone.attempts[index]? = some ⟨search, periph, .disconnecting after⟩) :
      AttemptStep mobileDevice machineToManage phone (.disconnected index (.ok ()))
        (phone.disconnected index search after).1 (phone.disconnected index search after).2
  | disconnectFailed {index search periph after error}
      (attempt : phone.attempts[index]? = some ⟨search, periph, .disconnecting after⟩) :
      AttemptStep mobileDevice machineToManage phone (.disconnected index (.error error))
        (phone.catchError index).1 (phone.catchError index).2
  | written {index search periph}
      (attempt : phone.attempts[index]? = some ⟨search, periph, .writing⟩) :
      AttemptStep mobileDevice machineToManage phone (.nameWritten index (.ok ()))
        (phone.setPhase index .waiting) [.written index]
  | notWritten {index search periph error}
      (attempt : phone.attempts[index]? = some ⟨search, periph, .writing⟩) :
      AttemptStep mobileDevice machineToManage phone (.nameWritten index (.error error))
        (phone.disconnect index .restart).1 (phone.disconnect index .restart).2
  /-- There is a bridge, and the attempt is over. -/
  | bridged {index search periph}
      (attempt : phone.attempts[index]? = some ⟨search, periph, .waiting⟩)
      (bridge : phone.bridgeEstablished = true) :
      AttemptStep mobileDevice machineToManage phone (.polled index)
        (phone.setPhase index .finished) []
  | notBridged {index search periph}
      (attempt : phone.attempts[index]? = some ⟨search, periph, .waiting⟩)
      (bridge : phone.bridgeEstablished = false) :
      AttemptStep mobileDevice machineToManage phone (.polled index) phone []
  /-- The wait for a bridge is over. -/
  | timedOut {index search periph}
      (attempt : phone.attempts[index]? = some ⟨search, periph, .waiting⟩) :
      AttemptStep mobileDevice machineToManage phone (.timedOut index)
        (phone.catchError index).1
        (.timedOut index :: .disconnecting index :: (phone.catchError index).2)

/-- The searches and attempts take no other steps. -/
theorem stepAttempt_cases {mobileDevice machineToManage : String} {phone next : Phone}
    {label : Label} {events : List PhoneEvent}
    (taken : phone.stepAttempt mobileDevice machineToManage label = some (next, events)) :
    AttemptStep mobileDevice machineToManage phone label next events := by
  cases label with
  | found search periph now =>
    simp only [stepAttempt] at taken
    split at taken
    · -- A device that was tried recently is not connected to again.
      rename_i listening
      cases recent : phone.triedRecently periph now with
      | true =>
        simp only [Phone.found, recent, if_true] at taken
        cases taken
        exact .skipped listening recent
      | false =>
        simp only [Phone.found, recent] at taken
        cases taken
        exact .tried listening recent
    · cases taken
  | scanError search =>
    simp only [stepAttempt] at taken
    split at taken
    · cases taken
      exact .scanError ‹_›
    · cases taken
  -- A connection that fails comes to the handler that all failures share.
  | connected index result =>
    simp only [stepAttempt] at taken
    split at taken
    · cases taken
      exact .connected ‹_›
    · obtain ⟨rfl, rfl⟩ := Prod.mk.inj (Option.some.inj taken)
      exact .connectFailed ‹_›
    · cases taken
  | nameRead index result =>
    simp only [stepAttempt] at taken
    split at taken
    · rename_i attempt read
      obtain ⟨rfl, rfl⟩ := Prod.mk.inj (Option.some.inj taken)
      exact .nameRead attempt read
    · -- So does a read that gives no name, with the device still connected.
      rename_i attempt unread
      obtain ⟨rfl, rfl⟩ := Prod.mk.inj (Option.some.inj taken)
      exact .nameUnread attempt unread
    · cases taken
  | delayed index =>
    simp only [stepAttempt] at taken
    split at taken
    · obtain ⟨rfl, rfl⟩ := Prod.mk.inj (Option.some.inj taken)
      exact .delayed ‹_›
    · cases taken
  -- The handler does not ask what the disconnect was for.
  | disconnected index result =>
    simp only [stepAttempt] at taken
    split at taken
    · obtain ⟨rfl, rfl⟩ := Prod.mk.inj (Option.some.inj taken)
      exact .disconnected ‹_›
    · obtain ⟨rfl, rfl⟩ := Prod.mk.inj (Option.some.inj taken)
      exact .disconnectFailed ‹_›
    · cases taken
  -- Without the write the device is let go of before another search begins.
  | nameWritten index result =>
    simp only [stepAttempt] at taken
    split at taken
    · cases taken
      exact .written ‹_›
    · obtain ⟨rfl, rfl⟩ := Prod.mk.inj (Option.some.inj taken)
      exact .notWritten ‹_›
    · cases taken
  | polled index =>
    simp only [stepAttempt] at taken
    split at taken
    · rename_i attempt
      -- A look that finds no bridge changes nothing.
      cases bridge : phone.bridgeEstablished with
      | true =>
        rw [if_pos bridge] at taken
        cases taken
        exact .bridged attempt bridge
      | false =>
        rw [if_neg (by simp [bridge])] at taken
        cases taken
        exact .notBridged attempt bridge
    · cases taken
  -- The end of the time comes without another look at the bridge.
  | timedOut index =>
    simp only [stepAttempt] at taken
    split at taken
    · cases taken
      exact .timedOut ‹_›
    · cases taken
  -- The other labels are about the starts.
  | permission | centralCreated | centralState | peripheralCreated | peripheralState
  | peripheralDone | channelArrived | disconnectReported => cases taken

/-- The phone takes no other steps than these. -/
theorem step_cases {mobileDevice machineToManage : String} {phone next : Phone} {label : Label}
    {events : List PhoneEvent}
    (taken : step mobileDevice machineToManage phone label = some (next, events)) :
    StartStep phone label next events ∨
      AttemptStep mobileDevice machineToManage phone label next events := by
  -- No label is one of both kinds.
  rcases Option.or_eq_some_iff.mp taken with start | ⟨_, attempt⟩
  · exact .inl (stepStart_cases start)
  · exact .inr (stepAttempt_cases attempt)

end Phone

end BleManaged
