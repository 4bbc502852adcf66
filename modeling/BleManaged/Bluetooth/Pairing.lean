import BleManaged.Bluetooth.Peripheral
import BleManaged.Bluetooth.Search

/-! The device that is found need not be the one that was paired with. -/

namespace BleManaged

/-- BLE service UUID for all Viam characteristics. -/
def viamServiceUuid : Uuid := 0x79cf4eca116a4ded8426fb83e53bc1d7

/-- BLE characteristic UUID of mobile device names. -/
def mobileDeviceNameCharUuid : Uuid := 0x918ce61c199f419eb6d559883a0049d8

/-- BLE characteristic UUID for the remote PSM. -/
def psmCharacteristicUuid : Uuid := 0xab76ead2b6e64f12a05361cd0eed19f9

/-- What the forwarder looks for once a device has written its name. -/
def viamSearch (mobileDeviceName : String) (logInfo : Bool) : Search where
  deviceName := mobileDeviceName
  svcUuid := viamServiceUuid
  mobileDeviceNameCharUuid := mobileDeviceNameCharUuid
  psmCharUuid := psmCharacteristicUuid
  logInfo := logInfo

/-- All that the forwarder meets on its way to a device, once its machine part ID is known. -/
structure Environment where
  session : Except BluerError Unit
  registerAgent : Except BluerError Unit
  defaultAdapter : Except BluerError Unit
  isPowered : Except BluerError Bool
  setPowered : Except BluerError Unit
  setAlias : Except BluerError Unit
  advertising : AdvertiseAnswers
  /-- The events of the characteristic to which names are written. -/
  controlEvents : List CharacteristicControlEvent
  adapter : AdapterAnswers
  events : List AdapterEvent
  /-- The address of the device that has been found is asked for. -/
  loggedRemoteAddress : Except BluerError Unit
  logInfo : Bool

/-- How the forwarder fails to come to a device. -/
inductive ScanError where
  | bluer (error : BluerError)
  | advertise (error : AdvertiseError)
  | find (error : FindError)
  deriving DecidableEq, Repr

instance : FromBluer ScanError := ⟨.bluer⟩

/-- The text of an error of the scan. -/
def ScanError.message : ScanError → String
  | .bluer error => error.message
  | .advertise error => error.message
  | .find error => error.message

/-- Everything before the advertisement. -/
def Environment.setUp (env : Environment) : Except BluerError Unit := do
  env.session
  env.registerAgent
  env.defaultAdapter
  ensure env.isPowered env.setPowered
  -- This alias is what shows up in pairing requests.
  env.setAlias

/-- The address is asked for where it is logged. -/
def Environment.logRemoteAddress (env : Environment) : Except BluerError Unit :=
  if env.logInfo then env.loggedRemoteAddress else .ok ()

/-- Advertise, wait for a name, and then look for a device with that name and its PSM. -/
def findViamMobileDeviceAndPsm (env : Environment) : Except ScanError (Address × UInt16) := do
  env.setUp
  let mobileDeviceName ←
    (advertiseAndFindMobileDeviceName env.advertising env.controlEvents).mapError .advertise
  let found ←
    (findDeviceAndPsm env.adapter (viamSearch mobileDeviceName env.logInfo) env.events).mapError
      .find
  env.logRemoteAddress
  return found

/-- Whatever device is returned is the one that wrote its name, left paired and trusted. -/
def Environment.OnlyWriter (env : Environment) : Prop :=
  ∀ device psm, findViamMobileDeviceAndPsm env = .ok (device, psm) →
    ∃ req, firstWrite env.controlEvents = some req ∧ req.deviceAddress = device ∧
      Ensured req.isPaired req.pair ∧ Ensured req.isTrusted req.setTrusted

/-- A device has written its name, and the forwarder has come to look for that name. -/
structure Environment.Handshake (env : Environment) (req : WriteRequest) (name : String) :
    Prop where
  session : env.session = .ok ()
  agent : env.registerAgent = .ok ()
  found : env.defaultAdapter = .ok ()
  powered : Ensured env.isPowered env.setPowered
  named : env.setAlias = .ok ()
  advertised : env.advertising.advertise = .ok ()
  served : env.advertising.serveGattApplication = .ok ()
  first : firstWrite env.controlEvents = some req
  accepted : req.Accepted name
  ready : env.adapter.Ready (viamSearch name env.logInfo)

/-- The address of what is found is answered if it is asked for. -/
def Environment.RemoteAddressLogged (env : Environment) : Prop :=
  env.logInfo = true → env.loggedRemoteAddress = .ok ()

/-- The first event that the search for the name does not pass over is not of another device that
has the service, the name and a PSM. -/
def Environment.WriterFirst (env : Environment) : Prop :=
  ∀ req name, env.Handshake req name → env.RemoteAddressLogged →
    ∀ before addr answers after psm, env.events = before ++ .deviceAdded addr answers :: after →
      (∀ event ∈ before, event.PassedOver (viamSearch name env.logInfo)) →
      answers.Visit (viamSearch name env.logInfo) (some psm) → addr = req.deviceAddress

/-- Everything before the advertisement succeeds call by call. -/
theorem Environment.setUp_eq_ok_iff {env : Environment} :
    env.setUp = .ok () ↔ env.session = .ok () ∧ env.registerAgent = .ok () ∧
      env.defaultAdapter = .ok () ∧ Ensured env.isPowered env.setPowered ∧
        env.setAlias = .ok () := by
  -- The five calls are made in this order, each behind the success of the one before.
  constructor
  · intro done
    obtain ⟨_, session, done⟩ := bind_eq_ok_iff.mp done
    obtain ⟨_, agent, done⟩ := bind_eq_ok_iff.mp done
    obtain ⟨_, found, done⟩ := bind_eq_ok_iff.mp done
    obtain ⟨_, powered, named⟩ := bind_eq_ok_iff.mp done
    exact ⟨session, agent, found, ensure_eq_ok_iff.mp powered, named⟩
  · intro calls
    obtain ⟨session, agent, found, powered, named⟩ := calls
    have powered := ensure_eq_ok_iff.mpr powered
    simp [setUp, session, agent, found, powered, named]

/-- The address of what is found is asked for in just that way. -/
theorem Environment.logRemoteAddress_eq_ok_iff {env : Environment} :
    env.logRemoteAddress = .ok () ↔ env.RemoteAddressLogged := by
  -- What is not logged is not asked for.
  cases logInfo : env.logInfo with
  | false => simp [logRemoteAddress, RemoteAddressLogged, logInfo]
  | true => simp [logRemoteAddress, RemoteAddressLogged, logInfo]

/-- The forwarder comes to a device exactly when the search for a written name finds it. -/
theorem findViamMobileDeviceAndPsm_eq_ok_iff {env : Environment} {found : Address × UInt16} :
    findViamMobileDeviceAndPsm env = .ok found ↔
      ∃ req name, env.Handshake req name ∧ env.RemoteAddressLogged ∧
        env.events.findSomeM? (AdapterEvent.visit (viamSearch name env.logInfo)) =
          .ok (some found) := by
  constructor
  · intro returned
    -- The calls are followed in their order, and the name leads from the wait to the search.
    obtain ⟨_, setUp, returned⟩ := call_bind_eq_ok_iff.mp returned
    rw [Environment.setUp_eq_ok_iff] at setUp
    obtain ⟨session, agent, adapter, powered, named⟩ := setUp
    obtain ⟨name, advertised, returned⟩ := bind_eq_ok_iff.mp returned
    rw [mapError_eq_ok_iff, advertiseAndFindMobileDeviceName_eq_ok_iff] at advertised
    obtain ⟨advertised, served, req, first, accepted⟩ := advertised
    obtain ⟨result, searched, returned⟩ := bind_eq_ok_iff.mp returned
    rw [mapError_eq_ok_iff, findDeviceAndPsm_eq_ok_iff] at searched
    obtain ⟨ready, decided⟩ := searched
    -- The address is logged behind the search, so a failure here loses what was found.
    obtain ⟨_, logged, returned⟩ := call_bind_eq_ok_iff.mp returned
    rw [Environment.logRemoteAddress_eq_ok_iff] at logged
    cases returned
    exact ⟨req, name, ⟨session, agent, adapter, powered, named, advertised, served, first,
      accepted, ready⟩, logged, decided⟩
  · intro handshake
    obtain ⟨req, name, handshake, logged, decided⟩ := handshake
    -- Backwards, each part succeeds with what the handshake says of it.
    have setUp := Environment.setUp_eq_ok_iff.mpr ⟨handshake.session, handshake.agent,
      handshake.found, handshake.powered, handshake.named⟩
    have advertised := advertiseAndFindMobileDeviceName_eq_ok_iff.mpr
      ⟨handshake.advertised, handshake.served, req, handshake.first, handshake.accepted⟩
    have searched := findDeviceAndPsm_eq_ok_iff.mpr ⟨handshake.ready, decided⟩
    have logged := Environment.logRemoteAddress_eq_ok_iff.mpr logged
    simp [findViamMobileDeviceAndPsm, setUp, advertised, searched, logged, Except.mapError]

/-- The loop over the events finds a device exactly when the first event that is not passed over
adds it with what is looked for. -/
theorem AdapterEvent.loop_eq_some_iff {search : Search} {events : List AdapterEvent}
    {device : Address} {psm : UInt16} :
    events.findSomeM? (AdapterEvent.visit search) = .ok (some (device, psm)) ↔
      ∃ before answers after, events = before ++ .deviceAdded device answers :: after ∧
        (∀ event ∈ before, event.PassedOver search) ∧ answers.Visit search (some psm) := by
  -- What decides is an added device, since no other event finds anything.
  rw [Scan.eq_ok_iff fun _ _ => visit_eq_ok_iff]
  constructor
  · intro comes
    obtain ⟨before, event, after, split, passed, visit⟩ := comes
    cases visit with
    | found visited => exact ⟨before, _, after, split, passed, visited⟩
  · intro first
    obtain ⟨before, answers, after, split, passed, visited⟩ := first
    exact ⟨before, _, after, split, passed, .found visited⟩

/-- Only the writer is returned exactly when no other device with its name comes first. -/
theorem onlyWriter_iff (env : Environment) : env.OnlyWriter ↔ env.WriterFirst := by
  constructor
  · -- What comes first is returned, and so it is the writer.
    intro only req name handshake logged before addr answers after psm split passed visited
    have decided := AdapterEvent.loop_eq_some_iff.mpr
      ⟨before, answers, after, split, passed, visited⟩
    obtain ⟨writer, first, same, _⟩ := only addr psm
      (findViamMobileDeviceAndPsm_eq_ok_iff.mpr ⟨req, name, handshake, logged, decided⟩)
    have unique : some writer = some req := first.symm.trans handshake.first
    rw [← same, Option.some.inj unique]
  · -- What is returned comes first, and so it is the writer.
    intro first device psm returned
    obtain ⟨req, name, handshake, logged, decided⟩ :=
      findViamMobileDeviceAndPsm_eq_ok_iff.mp returned
    obtain ⟨before, answers, after, split, passed, visited⟩ :=
      AdapterEvent.loop_eq_some_iff.mp decided
    have same := first req name handshake logged before device answers after psm split passed
      visited
    exact ⟨req, handshake.first, same.symm, handshake.accepted.paired, handshake.accepted.trusted⟩

/-- A phone at address 1 that writes the name p and is paired with. -/
def examplePhone : WriteRequest where
  deviceAddress := 1
  mtu := 20
  accept := .ok ()
  written := .ok [112]
  device := .ok ()
  isPaired := .ok false
  pair := .ok ()
  isTrusted := .ok false
  setTrusted := .ok ()

/-- A device that is not paired but exposes the service, the name and a PSM. -/
def exampleStranger : SteadyDevice where
  rssi := some (-50)
  connected := true
  connectedLater := true
  paired := false
  trusted := false
  uuids := some [viamServiceUuid]
  resolvedAtOnce := true
  changes := []
  services := [{
    uuid := viamServiceUuid
    characteristics := [
      { uuid := mobileDeviceNameCharUuid, readable := true, value := [112] },
      { uuid := psmCharacteristicUuid, readable := true, value := [56, 48] }] }]

/-- The stranger is discovered after the phone has written its name. -/
def exampleEnvironment : Environment where
  session := .ok ()
  registerAgent := .ok ()
  defaultAdapter := .ok ()
  isPowered := .ok true
  setPowered := .ok ()
  setAlias := .ok ()
  advertising := { advertise := .ok (), serveGattApplication := .ok () }
  controlEvents := [.write examplePhone]
  adapter := exampleAdapter
  events := [.deviceAdded 2 exampleStranger.answers]
  loggedRemoteAddress := .ok ()
  logInfo := true

/-- The forwarder returns a device that it has not paired with. -/
theorem stranger_returned : ¬∀ env : Environment, env.OnlyWriter := by
  intro only
  -- The phone does not turn up among the events, and the stranger has its name.
  have returned : findViamMobileDeviceAndPsm exampleEnvironment = .ok (2, 80) := by
    decide +kernel
  obtain ⟨req, first, same, _⟩ := only exampleEnvironment 2 80 returned
  cases first
  exact absurd same (by decide)

end BleManaged
