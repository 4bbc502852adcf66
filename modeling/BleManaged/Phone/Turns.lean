import BleManaged.Lib.Slots
import BleManaged.Phone.Steps

/-! What a step of the phone proxy does to its attempts and to its bridge. -/

namespace BleManaged

namespace Phone

/-- The attempt that a label is about. -/
def Label.attempt? : Label → Option Nat
  | .connected index _ | .nameRead index _ | .delayed index | .disconnected index _
  | .nameWritten index _ | .polled index | .timedOut index => some index
  | _ => none

/-- Whether there is a bridge, if a label changes that. -/
def Label.bridge? : Label → Option Bool
  | .channelArrived _ => some true
  | .disconnectReported _ => some false
  | _ => none

/-- What an attempt goes through, and what can be observed of it; whether there is a bridge
matters only to an attempt that waits for one. -/
inductive AttemptMove (bridge : Bool) (index : Nat) :
    Label → AttemptPhase → AttemptPhase → List PhoneEvent → Prop where
  /-- The service or the characteristic with the name is missing. -/
  | missing {services} :
      AttemptMove bridge index (.connected index (.ok services)) .connecting
        (.disconnecting .resume) [.connected index, .disconnecting index]
  | connected {services viamSvc} :
      AttemptMove bridge index (.connected index (.ok services)) .connecting (.reading viamSvc)
        [.connected index]
  | unconnected {error search} :
      AttemptMove bridge index (.connected index (.error error)) .connecting .finished
        [.scanning search]
  /-- It is the name of another machine. -/
  | different {result viamSvc periphName} (read : readName result = some periphName) :
      AttemptMove bridge index (.nameRead index result) (.reading viamSvc)
        (.disconnecting .resume) [.disconnecting index]
  /-- The characteristic to write to is missing. -/
  | delaying {result viamSvc periphName} (read : readName result = some periphName) :
      AttemptMove bridge index (.nameRead index result) (.reading viamSvc) .delaying []
  | matched {result viamSvc periphName value} (read : readName result = some periphName) :
      AttemptMove bridge index (.nameRead index result) (.reading viamSvc) .writing
        [.writing index value]
  /-- The name is not read, or is no name. -/
  | unread {result viamSvc search} (unread : readName result = none) :
      AttemptMove bridge index (.nameRead index result) (.reading viamSvc) .finished
        [.scanning search]
  | delayed :
      AttemptMove bridge index (.delayed index) .delaying (.disconnecting .restart)
        [.disconnecting index]
  | resumed :
      AttemptMove bridge index (.disconnected index (.ok ())) (.disconnecting .resume) .finished []
  | restarted {result after search} :
      AttemptMove bridge index (.disconnected index result) (.disconnecting after) .finished
        [.scanning search]
  | written :
      AttemptMove bridge index (.nameWritten index (.ok ())) .writing .waiting [.written index]
  | notWritten {error} :
      AttemptMove bridge index (.nameWritten index (.error error)) .writing
        (.disconnecting .restart) [.disconnecting index]
  /-- There is a bridge. -/
  | bridged (established : bridge = true) :
      AttemptMove bridge index (.polled index) .waiting .finished []
  | timedOut {search} :
      AttemptMove bridge index (.timedOut index) .waiting .finished
        [.timedOut index, .disconnecting index, .scanning search]

/-- What a step does to the attempts and to the bridge. -/
inductive Turn (phone : Phone) : Label → Phone → List PhoneEvent → Prop where
  /-- Nothing happens to them, but a search may begin. -/
  | quiet {label next out} (other : label.attempt? = none ∧ label.bridge? = none)
      (attempts : next.attempts = phone.attempts)
      (bridge : next.bridgeEstablished = phone.bridgeEstablished)
      (shown : out = [] ∨ ∃ search, out = [.scanning search]) : Turn phone label next out
  /-- A bridge is established or lost. -/
  | bridge {label next established} (other : label.attempt? = none)
      (changed : label.bridge? = some established) (attempts : next.attempts = phone.attempts)
      (bridge : next.bridgeEstablished = established) :
      Turn phone label next [.bridge established]
  /-- An attempt begins. -/
  | tried {search periph now next}
      (attempts : next.attempts = phone.attempts ++ [⟨search, periph, .connecting⟩])
      (bridge : next.bridgeEstablished = phone.bridgeEstablished) :
      Turn phone (.found search periph now) next [.connecting phone.attempts.length]
  /-- An attempt looks for a bridge, and there is none. -/
  | waited {index attempt} (trying : phone.attempts[index]? = some attempt)
      (waiting : attempt.phase = .waiting) (bridge : phone.bridgeEstablished = false) :
      Turn phone (.polled index) phone []
  /-- An attempt goes on. -/
  | moved {index attempt label phase next out}
      (trying : phone.attempts[index]? = some attempt)
      (moves : AttemptMove phone.bridgeEstablished index label attempt.phase phase out)
      (attempts : next.attempts =
        phone.attempts.modify index fun attempt => { attempt with phase := phase })
      (bridge : next.bridgeEstablished = phone.bridgeEstablished) : Turn phone label next out

/-- An attempt that goes on is the one that the label is about, and the bridge stays as it is. -/
theorem AttemptMove.about {bridge : Bool} {index : Nat} {label : Label}
    {before after : AttemptPhase} {out : List PhoneEvent}
    (moves : AttemptMove bridge index label before after out) :
    label.attempt? = some index ∧ label.bridge? = none := by
  -- Each move is named by the attempt that makes it.
  cases moves <;> exact ⟨rfl, rfl⟩

/-- What a step of a start does. -/
theorem StartStep.turn {phone next : Phone} {label : Label} {events : List PhoneEvent}
    (step : StartStep phone label next events) : Turn phone label next events := by
  -- A start touches no attempt, and its handlers set and clear the flag.
  cases step with
  | poweredOn started => exact .quiet ⟨rfl, rfl⟩ rfl rfl (.inr ⟨_, rfl⟩)
  | channelArrived started => exact .bridge rfl rfl rfl rfl
  | disconnectReported started => exact .bridge rfl rfl rfl rfl
  | peripheral started moves =>
    refine .quiet ?_ rfl rfl (.inl rfl)
    cases moves <;> exact ⟨rfl, rfl⟩
  | answered | requested | refused | centralCreated | centralFailed | notPowered
  | peripheralWaits => exact .quiet ⟨rfl, rfl⟩ rfl rfl (.inl rfl)

/-- What becomes of an attempt that is connected. -/
theorem connected_turn {phone : Phone} {index search : Nat} {periph : String}
    (services : List BleService)
    (trying : phone.attempts[index]? = some ⟨search, periph, .connecting⟩) :
    Turn phone (.connected index (.ok services)) (phone.connected index services).1
      (.connected index :: (phone.connected index services).2) := by
  -- The service is looked for first, and then the characteristic with the name.
  simp only [connected]
  split
  · exact .moved trying .missing rfl rfl
  · split
    · exact .moved trying .missing rfl rfl
    · exact .moved trying .connected rfl rfl

/-- What becomes of an attempt that has read a name. -/
theorem nameRead_turn {mobileDevice machineToManage : String} {phone : Phone}
    {index search : Nat} {periph : String} {viamSvc : BleService}
    {result : Except String (Option (List UInt8))} {periphName : String}
    (trying : phone.attempts[index]? = some ⟨search, periph, .reading viamSvc⟩)
    (read : readName result = some periphName) :
    Turn phone (.nameRead index result)
      (nameRead mobileDevice machineToManage phone index search viamSvc periphName).1
      (nameRead mobileDevice machineToManage phone index search viamSvc periphName).2 := by
  simp only [nameRead]
  split
  · exact .moved trying (.different read) rfl rfl
  · -- The machine has been found, with or without the characteristic to write to.
    split
    · exact .moved trying (.delaying read) rfl rfl
    · exact .moved trying (.matched read) rfl rfl

/-- What a step of a search or an attempt does. -/
theorem AttemptStep.turn {mobileDevice machineToManage : String} {phone next : Phone}
    {label : Label} {events : List PhoneEvent}
    (step : AttemptStep mobileDevice machineToManage phone label next events) :
    Turn phone label next events := by
  -- Each branch of the source moves one attempt, begins one or leaves them all.
  cases step with
  | skipped | scanError => exact .quiet ⟨rfl, rfl⟩ rfl rfl (.inl rfl)
  | tried => exact .tried rfl rfl
  | connected trying => exact connected_turn _ trying
  | connectFailed trying => exact .moved trying .unconnected rfl rfl
  | nameRead trying read => exact nameRead_turn trying read
  | nameUnread trying unread => exact .moved trying (.unread unread) rfl rfl
  | delayed trying => exact .moved trying .delayed rfl rfl
  | @disconnected _ _ _ after trying =>
    -- The same label ends both kinds of disconnect.
    cases after with
    | resume => exact .moved trying .resumed rfl rfl
    | restart => exact .moved trying .restarted rfl rfl
  | disconnectFailed trying => exact .moved trying .restarted rfl rfl
  | written trying => exact .moved trying .written rfl rfl
  | notWritten trying => exact .moved trying .notWritten rfl rfl
  | bridged trying bridge => exact .moved trying (.bridged bridge) rfl rfl
  | notBridged trying bridge => exact .waited trying rfl bridge
  | timedOut trying => exact .moved trying .timedOut rfl rfl

/-- The phone does nothing else to its attempts and its bridge. -/
theorem turn_cases {mobileDevice machineToManage : String} {phone next : Phone} {label : Label}
    {events : List PhoneEvent}
    (taken : step mobileDevice machineToManage phone label = some (next, events)) :
    Turn phone label next events := by
  -- A start never moves an attempt, and an attempt never sets the flag.
  rcases step_cases taken with start | attempt
  · exact start.turn
  · exact attempt.turn

/-- The phase of an attempt. -/
def phaseOf (phone : Phone) (index : Nat) : Option AttemptPhase :=
  phone.attempts[index]?.map Attempt.phase

variable {phone next : Phone} {label : Label} {out : List PhoneEvent} {index : Nat}

/-- What a step does to one attempt that has begun. -/
theorem Turn.attempt (turn : Turn phone label next out) {phase : AttemptPhase}
    (held : phone.phaseOf index = some phase) :
    (next.phaseOf index = some phase ∧
      (label.attempt? = some index →
        label = .polled index ∧ phase = .waiting ∧ phone.bridgeEstablished = false)) ∨
    ∃ after, AttemptMove phone.bridgeEstablished index label phase after out ∧
      next.phaseOf index = some after := by
  cases turn with
  | quiet other attempts => exact .inl ⟨by rwa [phaseOf, attempts], by simp [other.1]⟩
  | bridge other _ attempts => exact .inl ⟨by rwa [phaseOf, attempts], by simp [other]⟩
  | tried attempts =>
    refine .inl ⟨?_, by simp [Label.attempt?]⟩
    -- The new attempt is behind all that have begun.
    obtain ⟨attempt, found, same⟩ := Option.map_eq_some_iff.mp held
    have within := (List.getElem?_eq_some_iff.mp found).1
    rw [phaseOf, attempts, List.getElem?_append_left within, found]
    exact congrArg some same
  | @waited number attempt trying waiting bridge =>
    refine .inl ⟨held, fun about => ?_⟩
    cases about
    rw [phaseOf, trying] at held
    cases held
    exact ⟨rfl, waiting, bridge⟩
  | @moved number attempt _ after _ _ trying moves attempts =>
    by_cases same : number = index
    · subst same
      rw [phaseOf, trying] at held
      cases held
      -- This attempt is the one that goes on.
      refine .inr ⟨after, moves, ?_⟩
      rw [phaseOf, attempts, List.getElem?_modify, trying]
      simp
    · refine .inl ⟨?_, fun about => ?_⟩
      · simpa [phaseOf, attempts, List.getElem?_modify, same] using held
      · rw [moves.about.1] at about
        exact absurd (Option.some.inj about) same

/-- A step that is about an attempt moves it, or the attempt looks for a bridge in vain. -/
theorem Turn.own (turn : Turn phone label next out) (about : label.attempt? = some index) :
    label = .polled index ∨
      ∃ before after, AttemptMove phone.bridgeEstablished index label before after out ∧
        next.phaseOf index = some after := by
  cases turn with
  | quiet other => simp [other.1] at about
  | bridge other => simp [other] at about
  | tried => cases about
  | waited =>
    cases about
    exact .inl rfl
  | moved trying moves attempts =>
    -- The attempt that goes on is the one that the label names.
    obtain rfl := Option.some.inj (moves.about.1.symm.trans about)
    exact .inr ⟨_, _, moves, by simp [phaseOf, attempts, trying]⟩

/-- A step changes whether there is a bridge as its label says. -/
theorem Turn.bridgeEstablished (turn : Turn phone label next out) :
    next.bridgeEstablished = label.bridge?.getD phone.bridgeEstablished := by
  -- Attempts leave the flag to the starts.
  cases turn with
  | quiet other _ bridge => rw [other.2, bridge]; rfl
  | bridge _ changed _ bridge => rw [changed, bridge]; rfl
  | tried _ bridge => exact bridge
  | waited => rfl
  | moved _ moves _ bridge => rw [moves.about.2, bridge]; rfl

end Phone

end BleManaged
