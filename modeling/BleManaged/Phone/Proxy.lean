import BleManaged.Lib.Lts
import BleManaged.Lib.Unicode
import BleManaged.Bluetooth.Handshake

/-! The phone proxy: the starts of `mainLoop`, and the searches and attempts of `manageMachine`. -/

namespace BleManaged

open Unicode

/-- The service that the phone looks for. -/
def viamSvcUUID : String := "79cf4eca-116a-4ded-8426-fb83e53bc1d7"

/-- The characteristic of the name of a machine. -/
def viamManagedMachineNameCharUUID : String := "918ce61c-199f-419e-b6d5-59883a0049d7"

/-- The characteristic to which the phone writes its name. -/
def viamSocksProxyNameCharUUID : String := "918ce61c-199f-419e-b6d5-59883a0049d8"

/-- Give some BLE operations a few retries for resiliency. -/
def numRetries : Nat := 3

/-- Don't retry same device within this time. -/
def trySeconds : Int := 5

/-- A service of a peripheral, with the IDs of its characteristics. -/
structure BleService where
  id : String
  characteristics : List String
  deriving DecidableEq, Repr

/-- Look a few times for something that does not change in between. -/
def lookRepeatedly {α : Type} : Nat → Option α → Option α
  | 0, _ => none
  | _ + 1, some found => some found
  | retries + 1, none => lookRepeatedly retries none

/-- The text of some bytes, without a byte order mark. -/
def utf8Decode : List UInt8 → Except Utf8Error String
  | 0xEF :: 0xBB :: 0xBF :: bytes => fromUtf8 bytes
  | bytes => fromUtf8 bytes

/-- How far the part of a start has come that looks for the machine. -/
inductive CentralPhase where
  | creating
  | waitingForPower
  /-- It has called `manageMachine`, or it has failed. -/
  | over
  deriving DecidableEq, Repr

/-- How far the other part of a start has come. -/
inductive PeripheralPhase where
  | creating
  | waitingForPower
  | publishing
  | addingService
  | startingAdvertising
  /-- It listens for channels. -/
  | listening
  | failed
  deriving DecidableEq, Repr

/-- A call of `startBLESocksPhoneProxy`. -/
inductive Start where
  /-- It requests permissions, so many of which have been answered. -/
  | requesting (answered : Nat)
  | refused
  /-- Its two parts go on independently. -/
  | requested (central : CentralPhase) (peripheral : PeripheralPhase)
  deriving DecidableEq, Repr

/-- The subscription of a call of `manageMachine`. -/
inductive Subscription where
  | listening
  | paused
  | cancelled
  deriving DecidableEq, Repr

/-- What an attempt does once it has disconnected. -/
inductive AfterDisconnect where
  /-- It resumes its subscription. -/
  | resume
  /-- It calls `manageMachine` again. -/
  | restart
  deriving DecidableEq, Repr

/-- What an attempt is waiting for. -/
inductive AttemptPhase where
  | connecting
  | reading (viamSvc : BleService)
  /-- A second goes by before the disconnect. -/
  | delaying
  | disconnecting (after : AfterDisconnect)
  | writing
  /-- The machine is to establish a bridge. -/
  | waiting
  | finished
  deriving DecidableEq, Repr

/-- An attempt to connect to a device that a search has found. -/
structure Attempt where
  /-- Which call of `manageMachine` has begun it. -/
  search : Nat
  periph : String
  phase : AttemptPhase
  deriving DecidableEq, Repr

/-- The phone since the first call of `mainLoop`. -/
structure Phone where
  /-- One for each call of `mainLoop`. -/
  starts : List Start
  /-- One for each call of `manageMachine`. -/
  searches : List Subscription
  attempts : List Attempt
  bridgeEstablished : Bool
  /-- When a device has last been tried, in milliseconds. -/
  lastTried : String → Option Int

/-- What can be observed of the phone. -/
inductive PhoneEvent where
  | scanning (search : Nat)
  | connecting (attempt : Nat)
  | connected (attempt : Nat)
  /-- It calls the disconnect of its device. -/
  | disconnecting (attempt : Nat)
  | writing (attempt : Nat) (value : List UInt8)
  | written (attempt : Nat)
  | timedOut (attempt : Nat)
  | bridge (established : Bool)
  deriving DecidableEq, Repr

namespace Phone

/-- What can happen next. -/
inductive Label where
  | permission (start : Nat) (answer : Except String Unit)
  | centralCreated (start : Nat) (result : Except String Unit)
  | centralState (start : Nat) (poweredOn : Bool)
  | peripheralCreated (start : Nat) (result : Except String Unit)
  | peripheralState (start : Nat) (poweredOn : Bool)
  /-- What the peripheral is doing has been done. -/
  | peripheralDone (start : Nat) (result : Except String Unit)
  | channelArrived (start : Nat)
  /-- An `L2CapDisconnectedError` comes to the handler of a start. -/
  | disconnectReported (start : Nat)
  | found (search : Nat) (periph : String) (now : Int)
  | scanError (search : Nat)
  /-- The connection of an attempt is made, with the services of its device. -/
  | connected (attempt : Nat) (result : Except String (List BleService))
  | nameRead (attempt : Nat) (result : Except String (Option (List UInt8)))
  /-- The second before a disconnect is over. -/
  | delayed (attempt : Nat)
  /-- The disconnect that an attempt waits for is made. -/
  | disconnected (attempt : Nat) (result : Except String Unit)
  | nameWritten (attempt : Nat) (result : Except String Unit)
  /-- An attempt looks whether there is a bridge. -/
  | polled (attempt : Nat)
  /-- The 45 seconds of an attempt are over. -/
  | timedOut (attempt : Nat)

/-- The phone with a start that has come further. -/
def setStart (phone : Phone) (index : Nat) (start : Start) : Phone :=
  { phone with starts := phone.starts.set index start }

/-- The phone with another state of a subscription. -/
def setSearch (phone : Phone) (index : Nat) (subscription : Subscription) : Phone :=
  { phone with searches := phone.searches.set index subscription }

/-- The phone with an attempt in another phase. -/
def setPhase (phone : Phone) (index : Nat) (phase : AttemptPhase) : Phone :=
  { phone with
    attempts := phone.attempts.modify index fun attempt => { attempt with phase := phase } }

/-- Scan for the machine, with a new subscription. -/
def manageMachine (phone : Phone) : Phone × List PhoneEvent :=
  ({ phone with searches := phone.searches ++ [.listening] },
    [.scanning phone.searches.length])

/-- Start once more, in a new zone. -/
def mainLoop (phone : Phone) : Phone := { phone with starts := phone.starts ++ [.requesting 0] }

/-- The shared error handler: call `manageMachine` again, whatever became of the subscription. -/
def catchError (phone : Phone) (index : Nat) : Phone × List PhoneEvent :=
  (phone.setPhase index .finished).manageMachine

/-- An attempt disconnects its device and waits until that is done. -/
def disconnect (phone : Phone) (index : Nat) (after : AfterDisconnect) :
    Phone × List PhoneEvent :=
  (phone.setPhase index (.disconnecting after), [.disconnecting index])

/-- Whether a device was tried within the last few seconds. -/
def triedRecently (phone : Phone) (periph : String) (now : Int) : Bool :=
  match phone.lastTried periph with
  | some lastTriedTime => (now - lastTriedTime).tdiv 1000 < trySeconds
  | none => false

/-- A listening subscription is told of a device. -/
def found (phone : Phone) (search : Nat) (periph : String) (now : Int) :
    Phone × List PhoneEvent :=
  if phone.triedRecently periph now then (phone, [])
  else
    let paused := phone.setSearch search .paused
    ({ paused with
      lastTried := Function.update phone.lastTried periph (some now)
      attempts := phone.attempts ++ [{ search, periph, phase := .connecting }] },
      [.connecting phone.attempts.length])

/-- An attempt is connected, and looks for the service and the characteristic with the name. -/
def connected (phone : Phone) (index : Nat) (services : List BleService) :
    Phone × List PhoneEvent :=
  match lookRepeatedly numRetries (services.find? (·.id = viamSvcUUID)) with
  | none => phone.disconnect index .resume
  | some viamSvc =>
    match lookRepeatedly numRetries
      (viamSvc.characteristics.find? (· = viamManagedMachineNameCharUUID)) with
    | none => phone.disconnect index .resume
    | some _ => (phone.setPhase index (.reading viamSvc), [])

/-- The name of the machine has been read, if it is a name. -/
def nameRead (mobileDevice machineToManage : String) (phone : Phone) (index search : Nat)
    (viamSvc : BleService) (periphName : String) : Phone × List PhoneEvent :=
  -- Another machine is left alone.
  if periphName ≠ machineToManage then phone.disconnect index .resume
  else
    let matched := phone.setSearch search .cancelled
    match viamSvc.characteristics.find? (· = viamSocksProxyNameCharUUID) with
    | none => (matched.setPhase index .delaying, [])
    | some _ =>
      (matched.setPhase index .writing, [.writing index (writtenName mobileDevice)])

/-- An attempt has disconnected its device. -/
def disconnected (phone : Phone) (index search : Nat) : AfterDisconnect → Phone × List PhoneEvent
  | .resume => ((phone.setSearch search .listening).setPhase index .finished, [])
  | .restart => (phone.setPhase index .finished).manageMachine

/-- What the name of a machine is, if reading it has not failed. -/
def readName : Except String (Option (List UInt8)) → Option String
  | .ok (some bytes) => (utf8Decode bytes).toOption
  -- Nothing has been read, which throws as a failure does.
  | .ok none => none
  | .error _ => none

/-- The next phase of a peripheral that has done what it was doing. -/
def peripheralAfter : PeripheralPhase → Option PeripheralPhase
  | .publishing => some .addingService
  | .addingService => some .startingAdvertising
  | .startingAdvertising => some .listening
  | _ => none

/-- The effect of one label on the starts. -/
def stepStart (phone : Phone) : Label → Option (Phone × List PhoneEvent)
  | .permission index answer =>
    match phone.starts[index]?, answer with
    | some (.requesting answered), .ok () =>
      -- Whether a permission is granted is not looked at.
      if answered < 2 then some (phone.setStart index (.requesting (answered + 1)), [])
      else some (phone.setStart index (.requested .creating .creating), [])
    | some (.requesting _), .error _ => some (phone.setStart index .refused, [])
    | _, _ => none
  | .centralCreated index result =>
    match phone.starts[index]?, result with
    | some (.requested .creating peripheral), .ok () =>
      some (phone.setStart index (.requested .waitingForPower peripheral), [])
    -- Nothing catches the error but the zone, which logs it.
    | some (.requested .creating peripheral), .error _ =>
      some (phone.setStart index (.requested .over peripheral), [])
    | _, _ => none
  | .centralState index poweredOn =>
    match phone.starts[index]? with
    | some (.requested .waitingForPower peripheral) =>
      if poweredOn then
        some (phone.setStart index (.requested .over peripheral)).manageMachine
      else some (phone, [])
    | _ => none
  | .peripheralCreated index result =>
    match phone.starts[index]?, result with
    | some (.requested central .creating), .ok () =>
      some (phone.setStart index (.requested central .waitingForPower), [])
    | some (.requested central .creating), .error _ =>
      some (phone.setStart index (.requested central .failed), [])
    | _, _ => none
  | .peripheralState index poweredOn =>
    match phone.starts[index]? with
    | some (.requested central .waitingForPower) =>
      if poweredOn then some (phone.setStart index (.requested central .publishing), [])
      else some (phone, [])
    | _ => none
  | .peripheralDone index result =>
    match phone.starts[index]? with
    | some (.requested central peripheral) =>
      (peripheralAfter peripheral).map fun next =>
        match result with
        | .ok () => (phone.setStart index (.requested central next), [])
        | .error _ => (phone.setStart index (.requested central .failed), [])
    | _ => none
  | .channelArrived index =>
    match phone.starts[index]? with
    | some (.requested _ .listening) =>
      some ({ phone with bridgeEstablished := true }, [.bridge true])
    | _ => none
  | .disconnectReported index =>
    match phone.starts[index]? with
    | some _ => some ({ phone with bridgeEstablished := false }.mainLoop, [.bridge false])
    | none => none
  | _ => none

/-- The effect of one label on the searches and their attempts. -/
def stepAttempt (mobileDevice machineToManage : String) (phone : Phone) :
    Label → Option (Phone × List PhoneEvent)
  | .found search periph now =>
    match phone.searches[search]? with
    | some .listening => some (phone.found search periph now)
    | _ => none
  | .scanError search =>
    match phone.searches[search]? with
    -- The error is logged.
    | some .listening => some (phone, [])
    | _ => none
  | .connected index result =>
    match phone.attempts[index]?, result with
    | some { phase := .connecting, .. }, .ok services =>
      let next := phone.connected index services
      some (next.1, .connected index :: next.2)
    | some { phase := .connecting, .. }, .error _ => some (phone.catchError index)
    | _, _ => none
  | .nameRead index result =>
    match phone.attempts[index]?, readName result with
    | some { search, phase := .reading viamSvc, .. }, some periphName =>
      some (phone.nameRead mobileDevice machineToManage index search viamSvc periphName)
    | some { phase := .reading _, .. }, none => some (phone.catchError index)
    | _, _ => none
  | .delayed index =>
    match phone.attempts[index]? with
    | some { phase := .delaying, .. } => some (phone.disconnect index .restart)
    | _ => none
  | .disconnected index result =>
    match phone.attempts[index]?, result with
    | some { search, phase := .disconnecting after, .. }, .ok () =>
      some (phone.disconnected index search after)
    | some { phase := .disconnecting _, .. }, .error _ => some (phone.catchError index)
    | _, _ => none
  | .nameWritten index result =>
    match phone.attempts[index]?, result with
    | some { phase := .writing, .. }, .ok () =>
      some (phone.setPhase index .waiting, [.written index])
    | some { phase := .writing, .. }, .error _ => some (phone.disconnect index .restart)
    | _, _ => none
  | .polled index =>
    match phone.attempts[index]? with
    | some { phase := .waiting, .. } =>
      if phone.bridgeEstablished then some (phone.setPhase index .finished, [])
      else some (phone, [])
    | _ => none
  | .timedOut index =>
    match phone.attempts[index]? with
    | some { phase := .waiting, .. } =>
      -- The disconnect is not waited for, and then the handler comes in.
      let next := phone.catchError index
      some (next.1, .timedOut index :: .disconnecting index :: next.2)
    | _ => none
  | _ => none

/-- The effect of one label. -/
def step (mobileDevice machineToManage : String) (phone : Phone) (label : Label) :
    Option (Phone × List PhoneEvent) :=
  (phone.stepStart label).or (phone.stepAttempt mobileDevice machineToManage label)

/-- The phone proxy, from the first call of `mainLoop`. -/
def machine (mobileDevice machineToManage : String) : Lts Phone Label PhoneEvent where
  init :=
    { starts := [.requesting 0]
      searches := []
      attempts := []
      bridgeEstablished := false
      lastTried := fun _ => none }
  step := step mobileDevice machineToManage

end Phone

end BleManaged
