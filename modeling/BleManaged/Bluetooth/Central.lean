import BleManaged.Bluetooth.Calls
import BleManaged.Lib.Scan
import BleManaged.Lib.Unicode

/-! The search for a device and its PSM, against whatever its Bluetooth calls answer. -/

namespace BleManaged

open Unicode

/-- How a text fails to be a number. -/
inductive IntErrorKind where
  | empty
  | invalidDigit
  | posOverflow
  deriving DecidableEq, Repr

/-- The text of a failure to read a number. -/
def IntErrorKind.message : IntErrorKind → String
  | .empty => "cannot parse integer from empty string"
  | .invalidDigit => "invalid digit found in string"
  | .posOverflow => "number too large to fit in target type"

/-- Read more decimal digits of a 16-bit number. -/
def parseDigits (value : Nat) : List Char → Except IntErrorKind Nat
  | [] => .ok value
  | char :: chars =>
    if char.isDigit then
      let next := value * 10 + (char.toNat - '0'.toNat)
      if next ≤ 65535 then parseDigits next chars else .error .posOverflow
    else .error .invalidDigit

/-- Read a 16-bit number, which may have a plus sign. -/
def parseU16 (text : String) : Except IntErrorKind UInt16 :=
  match text.toList with
  | [] => .error .empty
  -- A sign alone is not a number.
  | ['+'] => .error .invalidDigit
  | '+' :: digits => (parseDigits 0 digits).map UInt16.ofNat
  | digits => (parseDigits 0 digits).map UInt16.ofNat

/-- What the calls on a characteristic answer. -/
structure CharacteristicAnswers where
  uuid : Except BluerError Uuid
  /-- Whether the flags allow to read it. -/
  readable : Except BluerError Bool
  read : Except BluerError (List UInt8)

/-- What the calls on a service answer. -/
structure ServiceAnswers where
  uuid : Except BluerError Uuid
  /-- The characteristics among which the name is looked for. -/
  characteristics : Except BluerError (List CharacteristicAnswers)
  /-- The characteristics among which the PSM is looked for, in a second call. -/
  psmCharacteristics : Except BluerError (List CharacteristicAnswers)

/-- A change of a device that arrives while its services are being resolved. -/
inductive Change where
  | servicesResolved
  /-- The connection has been lost, and the device is connected to once more. -/
  | connectionLost (connect : Except BluerError Unit)
  /-- Anything else, upon which the device is asked whether its services are resolved. -/
  | other (resolved : Except BluerError Bool)

/-- What the calls on a device answer while one of its events is handled. -/
structure DeviceAnswers where
  device : Except BluerError Unit
  remoteAddress : Except BluerError Unit
  rssi : Except BluerError (Option Int)
  /-- Whether the device is connected, asked if it has no RSSI. -/
  connectedWithoutRssi : Except BluerError Bool
  /-- Whether it is connected, asked before it is connected to. -/
  connected : Except BluerError Bool
  connect : Except BluerError Unit
  /-- What is asked for a message of the log. -/
  loggedConnected : Except BluerError Bool
  loggedPaired : Except BluerError Bool
  loggedTrusted : Except BluerError Bool
  uuids : Except BluerError (Option (List Uuid))
  loggedAddressType : Except BluerError Unit
  /-- The device is asked for the stream of its changes. -/
  events : Except BluerError Unit
  servicesResolved : Except BluerError Bool
  /-- Whether it is connected, asked before the wait for its services. -/
  connectedBeforeWait : Except BluerError Bool
  reconnect : Except BluerError Unit
  /-- The changes that arrive before their stream ends or the timeout fires. -/
  changes : List Change
  services : Except BluerError (List ServiceAnswers)

/-- An event of the discovery. -/
inductive AdapterEvent where
  | deviceAdded (addr : Address) (answers : DeviceAnswers)
  | other

/-- What the calls on the adapter answer. -/
structure AdapterAnswers where
  loggedAddress : Except BluerError Unit
  setDiscoveryFilter : Except BluerError Unit
  isDiscovering : Except BluerError Bool
  discoverDevices : Except BluerError Unit

/-- The arguments of the search. -/
structure Search where
  deviceName : String
  svcUuid : Uuid
  mobileDeviceNameCharUuid : Uuid
  psmCharUuid : Uuid
  /-- Whether messages of level info are logged, since only then their arguments are asked for. -/
  logInfo : Bool

/-- How the search fails. -/
inductive FindError where
  | bluer (error : BluerError)
  | alreadyDiscovering
  | invalidPsm (error : IntErrorKind)
  | notFound
  deriving DecidableEq, Repr

instance : FromBluer FindError := ⟨.bluer⟩

/-- The text of an error of the search. -/
def FindError.message : FindError → String
  | .bluer error => error.message
  | .alreadyDiscovering => "must stop discovering outside of this process"
  | .invalidPsm error => "found PSM is not a valid u16: " ++ error.message
  | .notFound => "Desired service and characteristic combination not found"

/-- Whether the device is in range, or else connected. -/
def DeviceAnswers.inReach (answers : DeviceAnswers) : Except BluerError Bool := do
  match ← answers.rssi with
  | some rssi => return decide (-200 < rssi)
  | none => answers.connectedWithoutRssi

/-- It is possible that the connection was lost, so try to reconnect if so. -/
def DeviceAnswers.ensureConnected (answers : DeviceAnswers) : Except BluerError Unit :=
  ensure answers.connected answers.connect

/-- The state of the device is asked for where it is logged. -/
def DeviceAnswers.logState (answers : DeviceAnswers) (logInfo : Bool) : Except BluerError Unit := do
  if logInfo then
    let _ ← answers.loggedConnected
    let _ ← answers.loggedPaired
    let _ ← answers.loggedTrusted
    return ()
  else return ()

/-- The type of the address is asked for where it is logged. -/
def DeviceAnswers.logAddressType (answers : DeviceAnswers) (logInfo : Bool) :
    Except BluerError Unit :=
  if logInfo then answers.loggedAddressType else .ok ()

/-- One change ends the wait, fails it, or leaves it waiting. -/
def Change.visit : Change → Except BluerError (Option Unit)
  | .servicesResolved => .ok (some ())
  | .connectionLost connect => do
    connect
    return none
  -- Check anyway.
  | .other resolved => do
    if ← resolved then return some () else return none

/-- Whether the services are resolved, at once or before the changes end or the timeout fires. -/
def DeviceAnswers.resolve (answers : DeviceAnswers) : Except BluerError Bool := do
  if ← answers.servicesResolved then return true
  else
    ensure answers.connectedBeforeWait answers.reconnect
    let resolved ← answers.changes.findSomeM? Change.visit
    return resolved.isSome

/-- Look at one characteristic for the name of the device. -/
def CharacteristicAnswers.visitName (search : Search) (answers : CharacteristicAnswers) :
    Except BluerError (Option Unit) := do
  if (← answers.uuid) = search.mobileDeviceNameCharUuid then
    if ← answers.readable then
      let foundDeviceName := fromUtf8Lossy (← answers.read)
      return if foundDeviceName = search.deviceName then some () else none
    else return none
  else return none

/-- Look at one characteristic for the PSM. -/
def CharacteristicAnswers.visitPsm (search : Search) (answers : CharacteristicAnswers) :
    Except FindError (Option UInt16) := do
  if (← answers.uuid) = search.psmCharUuid then
    if ← answers.readable then
      let strPsm := fromUtf8Lossy (← answers.read)
      match parseU16 strPsm with
      | .ok psm => return some psm
      | .error error => throw (.invalidPsm error)
    else return none
  else return none

/-- Look at one service for the name and then, if it has the name, for the PSM. -/
def ServiceAnswers.visit (search : Search) (answers : ServiceAnswers) :
    Except FindError (Option UInt16) := do
  if (← answers.uuid) = search.svcUuid then
    let foundName ← (← answers.characteristics).findSomeM? (·.visitName search)
    -- Another service of the device may still have the name.
    if foundName.isNone then return none
    else (← answers.psmCharacteristics).findSomeM? (·.visitPsm search)
  else return none

/-- Look at the services of a device that is to provide the desired one. -/
def DeviceAnswers.visitServices (search : Search) (answers : DeviceAnswers) :
    Except FindError (Option UInt16) := do
  answers.logAddressType search.logInfo
  answers.events
  if ← answers.resolve then (← answers.services).findSomeM? (·.visit search)
  else return none

/-- Look at one device. -/
def DeviceAnswers.visit (search : Search) (answers : DeviceAnswers) :
    Except FindError (Option UInt16) := do
  answers.device
  answers.remoteAddress
  if ← answers.inReach then
    answers.ensureConnected
    answers.logState search.logInfo
    let uuids := (← answers.uuids).getD []
    if search.svcUuid ∈ uuids then answers.visitServices search else return none
  else return none

/-- One turn of the loop over the events. -/
def AdapterEvent.visit (search : Search) :
    AdapterEvent → Except FindError (Option (Address × UInt16))
  | .deviceAdded addr answers => do
    let psm ← answers.visit search
    return psm.map fun psm => (addr, psm)
  -- Ignore all events beyond added devices.
  | .other => return none

/-- The address of the adapter is asked for where it is logged. -/
def AdapterAnswers.logAddress (adapter : AdapterAnswers) (logInfo : Bool) :
    Except BluerError Unit :=
  if logInfo then adapter.loggedAddress else .ok ()

/-- Start the discovery, unless another one is going on. -/
def AdapterAnswers.startDiscovery (search : Search) (adapter : AdapterAnswers) :
    Except FindError Unit := do
  adapter.logAddress search.logInfo
  adapter.setDiscoveryFilter
  if ← adapter.isDiscovering then throw .alreadyDiscovering else adapter.discoverDevices

/-- Find a device and the PSM it is advertising, among the events up to the end of the discovery. -/
def findDeviceAndPsm (adapter : AdapterAnswers) (search : Search) (events : List AdapterEvent) :
    Except FindError (Address × UInt16) := do
  adapter.startDiscovery search
  match ← events.findSomeM? (·.visit search) with
  | some found => return found
  | none => throw .notFound

end BleManaged
