import BleManaged.Bluetooth.Neighbours
import BleManaged.Bluetooth.Pairing
import BleManaged.Bluetooth.PsmText
import BleManaged.Phone.Proxy

/-! What a machine and a phone that reach each other come to. -/

namespace BleManaged

open Unicode

/-- The value of a hexadecimal digit. -/
def hexDigit (char : Char) : Nat :=
  if char.isDigit then char.toNat - '0'.toNat else char.toNat - 'a'.toNat + 10

/-- The UUID with a text. -/
def uuidOf (text : String) : Uuid :=
  text.toList.foldl
    (fun uuid char => if char = '-' then uuid else uuid * 16 + BitVec.ofNat 128 (hexDigit char)) 0

/-- The characteristic of the PSM of a phone. -/
def viamSocksProxyPSMCharUUID : String := "ab76ead2-b6e6-4f12-a053-61cd0eed19f9"

/-- BLE characteristic UUID of the machine part ID. -/
def machinePartIdCharUuid : Uuid := 0x918ce61c199f419eb6d559883a0049d7

/-- The phone and the machine name the same service and the same characteristics. -/
theorem uuids_agree :
    uuidOf viamSvcUUID = viamServiceUuid ∧
      uuidOf viamManagedMachineNameCharUUID = machinePartIdCharUuid ∧
        uuidOf viamSocksProxyNameCharUUID = mobileDeviceNameCharUuid ∧
          uuidOf viamSocksProxyPSMCharUUID = psmCharacteristicUuid := by
  decide +kernel

/-- A read only service has a readable characteristic for each entry, with the bytes of its text. -/
def addReadOnlyService (svc : String) (characteristics : List (String × String)) :
    SteadyService where
  uuid := uuidOf svc
  characteristics := characteristics.map fun entry =>
    { uuid := uuidOf entry.1, readable := true, value := utf8 entry.2 }

/-- The service under which a phone publishes its name and its PSM. -/
def advertiseProxyPSM (psm : Int) (mobileDevice : String) : SteadyService :=
  addReadOnlyService viamSvcUUID
    [(viamSocksProxyNameCharUUID, mobileDevice), (viamSocksProxyPSMCharUUID, toString psm)]

/-- A device in reach that publishes this service, and no other one of its kind. -/
structure SteadyDevice.Publishes (device : SteadyDevice) (psm : Int) (mobileDevice : String) :
    Prop where
  reached : device.InReach
  advertises : viamServiceUuid ∈ device.uuids.getD []
  resolves : device.Resolves
  services : device.services.filter (·.uuid = viamServiceUuid) =
    [advertiseProxyPSM psm mobileDevice]

/-- A report of a device exposes no name but this one, whatever else it comes with and whichever of
its calls fail. -/
def DeviceAnswers.ExposesOnly (answers : DeviceAnswers) (mobileDevice : String) : Prop :=
  ∀ name logInfo, answers.ExposesName (viamSearch name logInfo) → name = mobileDevice

/-- A phone writes its name and is then discovered at the address, before any other device that
would end the search and without any call that fails. It may be reported there again later, since
its changes are reported as well, but under no other name. -/
structure Environment.Meets (env : Environment) (psm : Int) (mobileDevice : String)
    (addr : Address) : Prop where
  setUp : env.setUp = .ok ()
  advertised : env.advertising.advertise = .ok ()
  served : env.advertising.serveGattApplication = .ok ()
  written : ∃ req, firstWrite env.controlEvents = some req ∧ req.Brings mobileDevice
  ready : ∀ name, env.adapter.Ready (viamSearch name env.logInfo)
  discovered : ∃ (before : List AdapterEvent) (device : SteadyDevice) (after : List AdapterEvent),
    env.events = before ++ .deviceAdded addr device.answers :: after ∧
      device.Publishes psm mobileDevice ∧
        (∀ name, receivedName mobileDevice = .ok name →
          ∀ event ∈ before, event.PassedOver (viamSearch name env.logInfo)) ∧
            ∀ answers : DeviceAnswers, .deviceAdded addr answers ∈ after →
              answers.ExposesOnly mobileDevice
  logged : env.RemoteAddressLogged

/-- The characteristic under which the PSM is published. -/
def publishedPsm (psm : Int) : SteadyCharacteristic :=
  { uuid := psmCharacteristicUuid, readable := true, value := utf8 (toString psm) }

/-- What a phone publishes, in the words of the machine. -/
theorem advertiseProxyPSM_eq (psm : Int) (mobileDevice : String) :
    advertiseProxyPSM psm mobileDevice =
      { uuid := viamServiceUuid
        characteristics := [
          { uuid := mobileDeviceNameCharUuid, readable := true, value := utf8 mobileDevice },
          publishedPsm psm] } := by
  -- Both programs spell the same identifiers.
  obtain ⟨svc, _, name, number⟩ := uuids_agree
  simp [advertiseProxyPSM, addReadOnlyService, publishedPsm, svc, name, number]

/-- What a phone publishes qualifies for a search exactly when it is for the name of the phone. -/
theorem advertiseProxyPSM_qualifies_iff {psm : Int} {mobileDevice name : String} {logInfo : Bool} :
    (advertiseProxyPSM psm mobileDevice).Qualifies (viamSearch name logInfo) ↔
      mobileDevice = name := by
  -- Only the name characteristic can have the name, and the other one is readable anyway.
  have differ : psmCharacteristicUuid ≠ mobileDeviceNameCharUuid := by decide
  rw [advertiseProxyPSM_eq]
  simp [SteadyService.Qualifies, SteadyCharacteristic.HasName, SteadyCharacteristic.HoldsPsm,
    viamSearch, publishedPsm, fromUtf8Lossy_utf8, differ]

/-- The first characteristic for a PSM in what a phone publishes is the one with its PSM. -/
theorem advertiseProxyPSM_psmCharacteristic {psm : Int} {mobileDevice name : String}
    {logInfo : Bool} :
    (advertiseProxyPSM psm mobileDevice).psmCharacteristic (viamSearch name logInfo) =
      some (publishedPsm psm) := by
  have differ : mobileDeviceNameCharUuid ≠ psmCharacteristicUuid := by decide
  rw [advertiseProxyPSM_eq]
  simp [SteadyService.psmCharacteristic, SteadyCharacteristic.HoldsPsm, viamSearch,
    publishedPsm, differ]

/-- What the number under the PSM characteristic of a phone is read as. -/
theorem psm_publishedPsm (psm : Int) :
    (publishedPsm psm).psm =
      if psm < 0 then .error (.invalidPsm .invalidDigit)
      else if psm ≤ 65535 then .ok (UInt16.ofNat psm.toNat)
      else .error (.invalidPsm .posOverflow) := by
  -- The text of the number is read back, and rejected outside of its range.
  rw [SteadyCharacteristic.psm, publishedPsm, fromUtf8Lossy_utf8, parseU16_toString]
  split
  · rfl
  split <;> rfl

section Publishes

variable {device : SteadyDevice} {psm : Int} {mobileDevice name : String} {logInfo : Bool}

/-- Only what it publishes can make a service of the device qualify. -/
theorem SteadyDevice.Publishes.service (publishes : device.Publishes psm mobileDevice)
    {service : SteadyService} (member : service ∈ device.services)
    (qualifies : service.Qualifies (viamSearch name logInfo)) :
    service = advertiseProxyPSM psm mobileDevice := by
  -- A service that qualifies has the identifier of the one that is published.
  have uuid : service.uuid = viamServiceUuid := qualifies.1
  have kept : service ∈ device.services.filter (·.uuid = viamServiceUuid) :=
    List.mem_filter.mpr ⟨member, by simpa using uuid⟩
  rw [publishes.services] at kept
  exact List.mem_singleton.mp kept

/-- The device has what it publishes. -/
theorem SteadyDevice.Publishes.mem (publishes : device.Publishes psm mobileDevice) :
    advertiseProxyPSM psm mobileDevice ∈ device.services := by
  have kept : advertiseProxyPSM psm mobileDevice ∈
      device.services.filter (·.uuid = viamServiceUuid) := by
    rw [publishes.services]
    exact List.mem_singleton.mpr rfl
  exact (List.mem_filter.mp kept).1

/-- The device is the one that is looked for exactly when the search is for its name. -/
theorem SteadyDevice.Publishes.qualifies_iff (publishes : device.Publishes psm mobileDevice) :
    device.Qualifies (viamSearch name logInfo) ↔ mobileDevice = name := by
  -- The device is in reach and advertises, so its service decides.
  constructor
  · intro qualifies
    obtain ⟨_, _, _, service, member, fits⟩ := qualifies
    rw [publishes.service member fits] at fits
    exact advertiseProxyPSM_qualifies_iff.mp fits
  · intro same
    exact ⟨publishes.reached, publishes.advertises, publishes.resolves, _, publishes.mem,
      advertiseProxyPSM_qualifies_iff.mpr same⟩

/-- A search for its name settles on the PSM of the device. -/
theorem SteadyDevice.Publishes.psmCharacteristic (publishes : device.Publishes psm mobileDevice)
    (same : mobileDevice = name) :
    device.psmCharacteristic (viamSearch name logInfo) = some (publishedPsm psm) := by
  -- The first service that qualifies can only be the published one.
  have qualifies : device.Qualifies (viamSearch name logInfo) :=
    publishes.qualifies_iff.mpr same
  obtain ⟨_, _, _, service, member, fits⟩ := qualifies
  have some : (device.services.find?
      fun service => service.Qualifies (viamSearch name logInfo)).isSome :=
    List.find?_isSome.mpr ⟨service, member, by simpa using fits⟩
  obtain ⟨first, found⟩ := Option.isSome_iff_exists.mp some
  have fits : first.Qualifies (viamSearch name logInfo) := by simpa using List.find?_some found
  have published := publishes.service (List.mem_of_find?_eq_some found) fits
  rw [SteadyDevice.psmCharacteristic, found, published]
  exact advertiseProxyPSM_psmCharacteristic

/-- A device that publishes the service of the phone, in reach or not, exposes the name of the phone
only. -/
theorem SteadyDevice.exposesOnly
    (services : device.services.filter (·.uuid = viamServiceUuid) =
      [advertiseProxyPSM psm mobileDevice]) :
    device.answers.ExposesOnly mobileDevice := by
  rintro name logInfo ⟨_, listed, answers, among, asked, characteristics, again, held⟩
  cases listed
  obtain ⟨service, member, rfl⟩ := List.mem_map.mp among
  -- The service that exposes the name has the identifier of the one that is published.
  have own : service.uuid = viamServiceUuid := Except.ok.inj asked
  have kept : service ∈ device.services.filter (·.uuid = viamServiceUuid) :=
    List.mem_filter.mpr ⟨member, by simpa using own⟩
  rw [services, List.mem_singleton, advertiseProxyPSM_eq] at kept
  subst kept
  cases again
  -- Of its two characteristics only the first one is for a name.
  have differ : psmCharacteristicUuid ≠ mobileDeviceNameCharUuid := by decide
  obtain ⟨characteristic, one, same, _, value, read, reads⟩ := held
  simp only [List.map_cons, List.map_nil, List.mem_cons, List.not_mem_nil, or_false] at one
  rcases one with rfl | rfl
  · cases read
    rw [← fromUtf8Lossy_utf8 mobileDevice]
    exact reads.symm
  · exact absurd (Except.ok.inj same) differ

/-- What its turn of the loop comes to. -/
theorem SteadyDevice.Publishes.visit (publishes : device.Publishes psm mobileDevice)
    (addr : Address) :
    (AdapterEvent.deviceAdded addr device.answers).visit (viamSearch name logInfo) =
      if mobileDevice = name then
        (publishedPsm psm).psm.map fun number => some (addr, number)
      else .ok none := by
  -- A steady device is offered, with its PSM, exactly when it qualifies.
  have visited := SteadyEvent.visit_answers (viamSearch name logInfo) (.deviceAdded addr device)
  rw [SteadyEvent.answers] at visited
  rw [visited, SteadyEvent.offered]
  by_cases same : mobileDevice = name
  · rw [if_pos (publishes.qualifies_iff.mpr same), if_pos same, publishes.psmCharacteristic same]
    simp only [Option.map_some, Scan.settled]
    cases (publishedPsm psm).psm <;> rfl
  · rw [if_neg fun qualifies => same (publishes.qualifies_iff.mp qualifies), if_neg same]
    rfl

end Publishes

/-- The wait for a name comes to what the name of the phone is received as. -/
theorem Environment.Meets.received {env : Environment} {psm : Int} {mobileDevice : String}
    {addr : Address} (meets : env.Meets psm mobileDevice addr) :
    advertiseAndFindMobileDeviceName env.advertising env.controlEvents =
      receivedName mobileDevice := by
  obtain ⟨req, first, brings⟩ := meets.written
  exact receives_iff.mp
    ⟨_, _, req, meets.advertised, meets.served, first, brings, rfl⟩

/-- The machine searches for what it has received, among the events with the phone. -/
theorem Environment.Meets.searches {env : Environment} {psm : Int} {mobileDevice name : String}
    {addr : Address} (meets : env.Meets psm mobileDevice addr)
    (received : receivedName mobileDevice = .ok name) :
    findViamMobileDeviceAndPsm env =
      ((env.events.findSomeM? (AdapterEvent.visit (viamSearch name env.logInfo))).bind
        concluded).mapError .find := by
  -- Everything before the search succeeds, and the log line behind it as well.
  have logged := Environment.logRemoteAddress_eq_ok_iff.mpr meets.logged
  have searched := findDeviceAndPsm_of_ready (meets.ready name) env.events
  simp only [findViamMobileDeviceAndPsm, meets.setUp, meets.received, received, searched, logged,
    Except.mapError, liftM_ok, ok_bind]
  cases (env.events.findSomeM? (AdapterEvent.visit (viamSearch name env.logInfo))).bind
    concluded <;> rfl

/-- A machine that has received the name as it is comes to the phone and to what its PSM is read as.
-/
theorem Environment.Meets.returns {env : Environment} {psm : Int} {mobileDevice : String}
    {addr : Address} (meets : env.Meets psm mobileDevice addr)
    (received : receivedName mobileDevice = .ok mobileDevice) :
    findViamMobileDeviceAndPsm env =
      ((publishedPsm psm).psm.map fun number => (addr, number)).mapError .find := by
  obtain ⟨before, device, after, split, publishes, passed, _⟩ := meets.discovered
  have visit : (AdapterEvent.deviceAdded addr device.answers).visit
      (viamSearch mobileDevice env.logInfo) =
        (publishedPsm psm).psm.map fun number => some (addr, number) := by
    rw [publishes.visit, if_pos rfl]
  -- The turn of the phone fails or finds, so the loop ends with it.
  have decides : ¬Scan.Passes (AdapterEvent.visit (viamSearch mobileDevice env.logInfo))
      (.deviceAdded addr device.answers) := by
    intro passes
    rw [Scan.Passes, visit] at passes
    cases read : (publishedPsm psm).psm with
    | error error => simp [read, Except.map] at passes
    | ok number => simp [read, Except.map] at passes
  have passes := fun event member =>
    AdapterEvent.passes_iff.mpr (passed mobileDevice received event member)
  rw [meets.searches received, split, Scan.of_split passes decides, visit]
  cases (publishedPsm psm).psm <;> rfl

/-- What a machine comes to that has received another name is not at the address of the phone. -/
theorem Environment.Meets.misses {env : Environment} {psm : Int} {mobileDevice : String}
    {addr : Address} (meets : env.Meets psm mobileDevice addr)
    (garbled : receivedName mobileDevice ≠ .ok mobileDevice) (number : UInt16) :
    findViamMobileDeviceAndPsm env ≠ .ok (addr, number) := by
  intro returned
  cases received : receivedName mobileDevice with
  | error error =>
    -- The wait fails, and the search is never started.
    simp [findViamMobileDeviceAndPsm, meets.setUp, meets.received, received, Except.mapError]
      at returned
  | ok name =>
    have other : mobileDevice ≠ name := fun same => garbled (by rw [received, same])
    obtain ⟨earlier, device, later, split, publishes, passed, only⟩ := meets.discovered
    rw [meets.searches received, mapError_eq_ok_iff] at returned
    obtain ⟨found, loop, concludes⟩ := bind_eq_ok_iff.mp returned
    cases found with
    | none => cases concludes
    | some found =>
      cases concludes
      have passes : ∀ event ∈ earlier ++ [.deviceAdded addr device.answers],
          event.PassedOver (viamSearch name env.logInfo) := by
        intro event member
        rcases List.mem_append.mp member with member | member
        · exact passed name received event member
        · rw [List.mem_singleton.mp member, ← AdapterEvent.passes_iff, Scan.Passes,
            publishes.visit, if_neg other]
      -- So what is found comes behind the phone.
      have behind := Scan.append_of_passes later fun event member =>
        AdapterEvent.passes_iff.mpr (passes event member)
      rw [split, List.append_cons, behind, AdapterEvent.loop_eq_some_iff] at loop
      obtain ⟨before, answers, after, rest, _, visited⟩ := loop
      -- At the address of the phone no other name is exposed there either.
      exact other (only answers (by simp [rest]) name env.logInfo visited.exposes).symm

/-- A machine that a phone meets comes to that phone exactly when the name of the phone is below
128 and its PSM is one, and then to this PSM; where only the PSM is none, the search fails on it. -/
theorem rendezvous {env : Environment} {psm : Int} {mobileDevice : String} {addr : Address}
    (meets : env.Meets psm mobileDevice addr) :
    (∀ number, findViamMobileDeviceAndPsm env = .ok (addr, number) ↔
      Ascii mobileDevice ∧ (number.toNat : Int) = psm) ∧
    (Ascii mobileDevice → psm < 0 →
      findViamMobileDeviceAndPsm env = .error (.find (.invalidPsm .invalidDigit))) ∧
    (Ascii mobileDevice → 65535 < psm →
      findViamMobileDeviceAndPsm env = .error (.find (.invalidPsm .posOverflow))) := by
  -- Any other name is received garbled or not at all, and then the phone is passed over.
  have reads (ascii : Ascii mobileDevice) := meets.returns (receivedName_eq_ok_iff.mpr ascii)
  simp only [psm_publishedPsm] at reads
  refine ⟨fun number => ?_, fun ascii negative => ?_, fun ascii large => ?_⟩
  · by_cases ascii : Ascii mobileDevice
    · rw [reads ascii]
      have bound := number.toNat_lt
      split
      · simp [Except.map, Except.mapError, ascii]
        omega
      split
      · rename_i fits
        simp [Except.map, Except.mapError, ascii, UInt16.ofNat_eq_iff_mod_eq_toNat]
        omega
      · simp [Except.map, Except.mapError, ascii]
        omega
    · have garbled := mt receivedName_eq_ok_iff.mp ascii
      exact iff_of_false (meets.misses garbled number) fun both => ascii both.1
  · rw [reads ascii, if_pos negative]
    rfl
  · rw [reads ascii, if_neg (by omega), if_neg (by omega)]
    rfl

/-- A connected device with the name p and the PSM 193, and with a service of another kind. -/
def exampleProxy : SteadyDevice where
  rssi := some (-60)
  connected := true
  connectedLater := true
  paired := true
  trusted := true
  uuids := some [viamServiceUuid]
  resolvedAtOnce := false
  changes := [.connectionLost, .servicesResolved]
  services := [{ uuid := 1, characteristics := [] }, advertiseProxyPSM 193 "p"]

/-- It is discovered after it has written its name, and reported once more when it has gone away. -/
def exampleMeeting : Environment :=
  { exampleEnvironment with
    controlEvents := [.notify, .write (phoneRequest "p")]
    events := [.other, .deviceAdded 1 exampleProxy.answers,
      .deviceAdded 1 { exampleProxy with rssi := some (-200) }.answers] }

/-- The machine comes to the phone and its PSM. -/
theorem rendezvous_at_second_event :
    exampleMeeting.Meets 193 "p" 1 ∧ findViamMobileDeviceAndPsm exampleMeeting = .ok (1, 193) := by
  -- The request brings the name whole, and the phone is paired with.
  have brings : (phoneRequest "p").Brings "p" :=
    ⟨rfl, rfl, Nat.le_refl _, rfl, .inr ⟨rfl, rfl⟩, .inr ⟨rfl, rfl⟩⟩
  -- Its other service is of another kind, so only the published one is kept.
  have services : exampleProxy.services.filter (·.uuid = viamServiceUuid) =
      [advertiseProxyPSM 193 "p"] := by
    have own : (advertiseProxyPSM 193 "p").uuid = viamServiceUuid := by
      rw [advertiseProxyPSM_eq]
    simp only [exampleProxy, List.filter_cons, own]
    rfl
  have publishes : exampleProxy.Publishes 193 "p" :=
    ⟨by decide, by decide, by decide, services⟩
  have meets : exampleMeeting.Meets 193 "p" 1 := by
    refine ⟨rfl, rfl, rfl, ⟨_, rfl, brings⟩, fun name => ⟨fun _ => rfl, rfl, rfl, rfl⟩, ?_,
      fun _ => rfl⟩
    refine ⟨[.other], exampleProxy, [_], rfl, publishes, fun name _ event member => ?_, ?_⟩
    · rw [List.mem_singleton.mp member]
      exact .other
    · intro answers member
      obtain ⟨_, rfl⟩ := AdapterEvent.deviceAdded.inj (List.mem_singleton.mp member)
      exact @SteadyDevice.exposesOnly { exampleProxy with rssi := some (-200) } 193 "p" services
  have ascii : Ascii "p" := by
    intro char member
    obtain rfl : char = 'p' := by simpa using member
    decide
  have same : ((193 : UInt16).toNat : Int) = 193 := by decide
  exact ⟨meets, ((rendezvous meets).1 193).mpr ⟨ascii, same⟩⟩

end BleManaged
