import BleManaged.Bluetooth.Outcome

/-! The search over devices whose calls succeed is the first match of its specification. -/

namespace BleManaged

open Unicode

/-- A characteristic whose calls succeed. -/
structure SteadyCharacteristic where
  uuid : Uuid
  readable : Bool
  value : List UInt8

/-- What its calls answer. -/
def SteadyCharacteristic.answers (characteristic : SteadyCharacteristic) :
    CharacteristicAnswers where
  uuid := .ok characteristic.uuid
  readable := .ok characteristic.readable
  read := .ok characteristic.value

/-- A service whose calls succeed, with the same characteristics each time. -/
structure SteadyService where
  uuid : Uuid
  characteristics : List SteadyCharacteristic

/-- What its calls answer. -/
def SteadyService.answers (service : SteadyService) : ServiceAnswers where
  uuid := .ok service.uuid
  characteristics := .ok (service.characteristics.map SteadyCharacteristic.answers)
  psmCharacteristics := .ok (service.characteristics.map SteadyCharacteristic.answers)

/-- A change while the services are being resolved, upon which the calls succeed. -/
inductive SteadyChange where
  | servicesResolved
  | connectionLost
  | other (resolved : Bool)

/-- What the calls upon it answer. -/
def SteadyChange.answers : SteadyChange → Change
  | .servicesResolved => .servicesResolved
  | .connectionLost => .connectionLost (.ok ())
  | .other resolved => .other (.ok resolved)

/-- A device whose calls succeed while an event is handled. -/
structure SteadyDevice where
  rssi : Option Int
  connected : Bool
  /-- What it answers once the code has made sure of the connection. -/
  connectedLater : Bool
  paired : Bool
  trusted : Bool
  uuids : Option (List Uuid)
  resolvedAtOnce : Bool
  /-- The changes that arrive before their stream ends or the timeout fires. -/
  changes : List SteadyChange
  services : List SteadyService

/-- What its calls answer. -/
def SteadyDevice.answers (device : SteadyDevice) : DeviceAnswers where
  device := .ok ()
  remoteAddress := .ok ()
  rssi := .ok device.rssi
  connectedWithoutRssi := .ok device.connected
  connected := .ok device.connected
  connect := .ok ()
  loggedConnected := .ok device.connectedLater
  loggedPaired := .ok device.paired
  loggedTrusted := .ok device.trusted
  uuids := .ok device.uuids
  loggedAddressType := .ok ()
  events := .ok ()
  servicesResolved := .ok device.resolvedAtOnce
  connectedBeforeWait := .ok device.connectedLater
  reconnect := .ok ()
  changes := device.changes.map SteadyChange.answers
  services := .ok (device.services.map SteadyService.answers)

/-- An event of the discovery, with a device whose calls succeed. -/
inductive SteadyEvent where
  | deviceAdded (addr : Address) (device : SteadyDevice)
  | other

/-- What the calls of its turn answer. -/
def SteadyEvent.answers : SteadyEvent → AdapterEvent
  | .deviceAdded addr device => .deviceAdded addr device.answers
  | .other => .other

section Specification

variable (search : Search)

/-- A readable characteristic with the name that is looked for. -/
def SteadyCharacteristic.HasName (characteristic : SteadyCharacteristic) : Prop :=
  characteristic.uuid = search.mobileDeviceNameCharUuid ∧ characteristic.readable = true ∧
    fromUtf8Lossy characteristic.value = search.deviceName

instance : DecidablePred (SteadyCharacteristic.HasName search) :=
  fun _ => inferInstanceAs (Decidable (_ ∧ _ ∧ _))

/-- A readable characteristic for the PSM. -/
def SteadyCharacteristic.HoldsPsm (characteristic : SteadyCharacteristic) : Prop :=
  characteristic.uuid = search.psmCharUuid ∧ characteristic.readable = true

instance : DecidablePred (SteadyCharacteristic.HoldsPsm search) :=
  fun _ => inferInstanceAs (Decidable (_ ∧ _))

/-- A service of the right kind that has both. -/
def SteadyService.Qualifies (service : SteadyService) : Prop :=
  service.uuid = search.svcUuid ∧
    (∃ characteristic ∈ service.characteristics, characteristic.HasName search) ∧
    ∃ characteristic ∈ service.characteristics, characteristic.HoldsPsm search

instance : DecidablePred (SteadyService.Qualifies search) :=
  fun _ => inferInstanceAs (Decidable (_ ∧ _ ∧ _))

/-- Whether a change finds the services resolved. -/
def SteadyChange.Resolved : SteadyChange → Prop
  | .servicesResolved => True
  | .connectionLost => False
  | .other resolved => resolved = true

instance : DecidablePred SteadyChange.Resolved
  | .servicesResolved => inferInstanceAs (Decidable True)
  | .connectionLost => inferInstanceAs (Decidable False)
  | .other resolved => inferInstanceAs (Decidable (resolved = true))

/-- The RSSI is above -200, or there is none but a connection. -/
def SteadyDevice.InReach (device : SteadyDevice) : Prop :=
  (∃ rssi ∈ device.rssi, -200 < rssi) ∨ device.rssi = none ∧ device.connected = true

instance : DecidablePred SteadyDevice.InReach :=
  fun _ => inferInstanceAs (Decidable (_ ∨ _ ∧ _))

/-- The services are resolved at once or in time. -/
def SteadyDevice.Resolves (device : SteadyDevice) : Prop :=
  device.resolvedAtOnce = true ∨ ∃ change ∈ device.changes, change.Resolved

instance : DecidablePred SteadyDevice.Resolves :=
  fun _ => inferInstanceAs (Decidable (_ ∨ _))

/-- A device that has what is looked for. -/
def SteadyDevice.Qualifies (device : SteadyDevice) : Prop :=
  device.InReach ∧ search.svcUuid ∈ device.uuids.getD [] ∧ device.Resolves ∧
    ∃ service ∈ device.services, service.Qualifies search

instance : DecidablePred (SteadyDevice.Qualifies search) :=
  fun _ => inferInstanceAs (Decidable (_ ∧ _ ∧ _ ∧ _))

/-- The first readable PSM characteristic of a service. -/
def SteadyService.psmCharacteristic (service : SteadyService) : Option SteadyCharacteristic :=
  service.characteristics.find? fun characteristic => characteristic.HoldsPsm search

/-- The one of the first service that qualifies. -/
def SteadyDevice.psmCharacteristic (device : SteadyDevice) : Option SteadyCharacteristic :=
  (device.services.find? fun service => service.Qualifies search).bind
    (SteadyService.psmCharacteristic search)

/-- What the event offers if its device qualifies. -/
def SteadyEvent.offered : SteadyEvent → Option (Address × SteadyCharacteristic)
  | .deviceAdded addr device =>
    if device.Qualifies search then
      (device.psmCharacteristic search).map fun characteristic => (addr, characteristic)
    else none
  | .other => none

end Specification

/-- The PSM that a characteristic holds, if it is a number. -/
def SteadyCharacteristic.psm (characteristic : SteadyCharacteristic) : Except FindError UInt16 :=
  (parseU16 (fromUtf8Lossy characteristic.value)).mapError .invalidPsm

/-- What the search is to return: what the first device offers that qualifies. -/
def specified (search : Search) (events : List SteadyEvent) : Except FindError (Address × UInt16) :=
  match events.findSome? (SteadyEvent.offered search) with
  | some (addr, characteristic) => characteristic.psm.map fun psm => (addr, psm)
  | none => .error .notFound

/-- A characteristic has the name, or is passed over. -/
theorem SteadyCharacteristic.visitName_answers (search : Search)
    (characteristic : SteadyCharacteristic) :
    characteristic.answers.visitName search =
      .ok (if characteristic.HasName search then some () else none) := by
  -- Whether it has the name is asked in the order of the three calls.
  by_cases uuid : characteristic.uuid = search.mobileDeviceNameCharUuid
  · cases readable : characteristic.readable with
    | false =>
      simp [CharacteristicAnswers.visitName, answers, HasName, uuid, readable]
    | true =>
      simp [CharacteristicAnswers.visitName, answers, HasName, uuid, readable]
  · simp [CharacteristicAnswers.visitName, answers, HasName, uuid]

/-- A characteristic for the PSM settles the search, or is passed over. -/
theorem SteadyCharacteristic.visitPsm_answers (search : Search)
    (characteristic : SteadyCharacteristic) :
    characteristic.answers.visitPsm search =
      Scan.settled psm (if characteristic.HoldsPsm search then some characteristic else none) := by
  -- A characteristic of another kind, or an unreadable one, is passed over.
  by_cases uuid : characteristic.uuid = search.psmCharUuid
  · cases readable : characteristic.readable with
    | false =>
      simp [CharacteristicAnswers.visitPsm, answers, HoldsPsm, uuid, readable, Scan.settled]
    | true =>
      -- The text is a number, or the search fails.
      cases parsed : parseU16 (fromUtf8Lossy characteristic.value) with
      | ok number =>
        simp [CharacteristicAnswers.visitPsm, answers, HoldsPsm, uuid, readable, parsed, psm,
          Scan.settled, Except.mapError, Except.map]
      | error error =>
        simp [CharacteristicAnswers.visitPsm, answers, HoldsPsm, uuid, readable, parsed, psm,
          Scan.settled, Except.mapError, Except.map]
  · simp [CharacteristicAnswers.visitPsm, answers, HoldsPsm, uuid, Scan.settled]

/-- The loop over the characteristics finds the name if one of them has it. -/
theorem SteadyCharacteristic.nameLoop (search : Search)
    (characteristics : List SteadyCharacteristic) :
    (characteristics.map answers).findSomeM?
        (fun item => (liftM (item.visitName search) : Except FindError _)) =
      .ok (if ∃ characteristic ∈ characteristics, characteristic.HasName search then some ()
        else none) := by
  -- No turn of the loop fails, so it only looks for one that has the name.
  rw [Scan.of_map, Scan.of_ok fun item _ => by rw [visitName_answers search item, liftM_ok],
    Scan.findSome?_exists]

/-- The loop over the characteristics settles on the first one for the PSM. -/
theorem SteadyService.psmLoop (search : Search) (service : SteadyService) :
    (service.characteristics.map SteadyCharacteristic.answers).findSomeM? (·.visitPsm search) =
      Scan.settled SteadyCharacteristic.psm (service.psmCharacteristic search) := by
  -- The first one for the PSM settles the loop, even if its text is no number.
  rw [Scan.of_map, Scan.of_picks fun item _ => item.visitPsm_answers search]
  congr 1
  rw [Scan.findSome?_ite _ _ some (by simp)]
  simp [SteadyService.psmCharacteristic]

/-- A service settles the search if it qualifies, or is passed over. -/
theorem SteadyService.visit_answers (search : Search) (service : SteadyService) :
    service.answers.visit search =
      Scan.settled SteadyCharacteristic.psm
        (if service.Qualifies search then service.psmCharacteristic search else none) := by
  by_cases uuid : service.uuid = search.svcUuid
  · have names := SteadyCharacteristic.nameLoop search service.characteristics
    have psms := service.psmLoop search
    by_cases named : ∃ characteristic ∈ service.characteristics, characteristic.HasName search
    · rw [if_pos named] at names
      by_cases holds : ∃ characteristic ∈ service.characteristics, characteristic.HoldsPsm search
      · have qualifies : service.Qualifies search := ⟨uuid, named, holds⟩
        simp [ServiceAnswers.visit, answers, uuid, names, psms, qualifies]
      · -- Without a PSM characteristic the loop passes the service over.
        have other : ¬service.Qualifies search := fun qualifies => holds qualifies.2.2
        have missing : service.psmCharacteristic search = none := by
          simpa [psmCharacteristic] using holds
        simp [ServiceAnswers.visit, answers, uuid, names, psms, other, missing]
    · -- Without the name the PSM is not even looked for.
      rw [if_neg named] at names
      have other : ¬service.Qualifies search := fun qualifies => named qualifies.2.1
      simp [ServiceAnswers.visit, answers, uuid, names, other, Scan.settled]
  · have other : ¬service.Qualifies search := fun qualifies => uuid qualifies.1
    simp [ServiceAnswers.visit, answers, uuid, other, Scan.settled]

/-- A service that qualifies has a PSM characteristic. -/
theorem SteadyService.Qualifies.isSome {search : Search} {service : SteadyService}
    (qualifies : service.Qualifies search) : (service.psmCharacteristic search).isSome := by
  obtain ⟨_, _, characteristic, member, holds⟩ := qualifies
  exact List.find?_isSome.mpr ⟨characteristic, member, by simpa using holds⟩

/-- The loop over the services settles on the first one that qualifies. -/
theorem SteadyDevice.serviceLoop (search : Search) (device : SteadyDevice) :
    (device.services.map SteadyService.answers).findSomeM? (·.visit search) =
      Scan.settled SteadyCharacteristic.psm (device.psmCharacteristic search) := by
  -- A service that has the name but no PSM is passed over like any other.
  rw [Scan.of_map, Scan.of_picks fun service _ => service.visit_answers search]
  congr 1
  exact Scan.findSome?_ite _ _ _ fun service _ qualifies => qualifies.isSome

/-- A change ends the wait if it finds the services resolved. -/
theorem SteadyChange.visit_answers (change : SteadyChange) :
    change.answers.visit = .ok (if change.Resolved then some () else none) := by
  cases change with
  | servicesResolved | connectionLost => rfl
  | other resolved => cases resolved <;> rfl

/-- The wait for the services comes to whether they are resolved at once or in time. -/
theorem SteadyDevice.resolve_answers (device : SteadyDevice) :
    device.answers.resolve = .ok (decide device.Resolves) := by
  -- The first change that finds the services resolved ends the wait.
  have changed : device.answers.changes.findSomeM? Change.visit =
      .ok (if ∃ change ∈ device.changes, change.Resolved then some () else none) := by
    show (device.changes.map SteadyChange.answers).findSomeM? Change.visit = _
    rw [Scan.of_map, Scan.of_ok fun change _ => change.visit_answers, Scan.findSome?_exists]
  -- The device is connected once more before the wait, whether it was connected or not.
  have connected : ensure device.answers.connectedBeforeWait device.answers.reconnect =
      .ok () := by
    refine ensure_eq_ok_iff.mpr ?_
    cases later : device.connectedLater with
    | true => exact .inl (by rw [← later]; rfl)
    | false => exact .inr ⟨by rw [← later]; rfl, rfl⟩
  cases atOnce : device.resolvedAtOnce with
  | true =>
    have resolves : device.Resolves := .inl atOnce
    simp [DeviceAnswers.resolve, answers, atOnce, resolves]
  | false =>
    have asked : device.answers.servicesResolved = .ok false := by rw [← atOnce]; rfl
    simp only [DeviceAnswers.resolve, asked, connected, changed]
    by_cases inTime : ∃ change ∈ device.changes, change.Resolved
    · have resolves : device.Resolves := .inr inTime
      simp [inTime, resolves]
    · have unresolved : ¬device.Resolves := fun resolves => by
        rcases resolves with now | later
        · simp [atOnce] at now
        · exact inTime later
      simp [inTime, unresolved]

/-- The code judges the reach of the device as the specification does. -/
theorem SteadyDevice.inReach_answers (device : SteadyDevice) :
    device.answers.inReach = .ok (decide device.InReach) := by
  -- Without an RSSI the connection decides.
  cases rssi : device.rssi with
  | none =>
    cases connected : device.connected with
    | true => simp [DeviceAnswers.inReach, answers, InReach, rssi, connected]
    | false => simp [DeviceAnswers.inReach, answers, InReach, rssi, connected]
  | some strength =>
    simp [DeviceAnswers.inReach, answers, InReach, rssi]

/-- What the device is asked for the log is answered. -/
theorem SteadyDevice.logState_answers (device : SteadyDevice) (logInfo : Bool) :
    device.answers.logState logInfo = .ok () := by
  cases logInfo with
  | false => rfl
  | true => rfl

/-- The services of a device settle the search once they are resolved. -/
theorem SteadyDevice.visitServices_answers (search : Search) (device : SteadyDevice) :
    device.answers.visitServices search =
      Scan.settled SteadyCharacteristic.psm
        (if device.Resolves then device.psmCharacteristic search else none) := by
  have logged : device.answers.logAddressType search.logInfo = .ok () := ite_self _
  have listened : device.answers.events = .ok () := rfl
  have listed : device.answers.services = .ok (device.services.map SteadyService.answers) := rfl
  have waited := device.resolve_answers
  -- Services that are not resolved are not looked at.
  by_cases resolves : device.Resolves
  · rw [if_pos resolves, ← device.serviceLoop search]
    simp [DeviceAnswers.visitServices, logged, listened, waited, listed, resolves]
  · rw [if_neg resolves]
    simp [DeviceAnswers.visitServices, logged, listened, waited, resolves, Scan.settled]

/-- A device settles the search if it qualifies, or is passed over. -/
theorem SteadyDevice.visit_answers (search : Search) (device : SteadyDevice) :
    device.answers.visit search =
      Scan.settled SteadyCharacteristic.psm
        (if device.Qualifies search then device.psmCharacteristic search else none) := by
  have asked : device.answers.device = .ok () := rfl
  have addressed : device.answers.remoteAddress = .ok () := rfl
  have answered : device.answers.uuids = .ok device.uuids := rfl
  have reach := device.inReach_answers
  have logged := device.logState_answers search.logInfo
  -- The code makes sure of the connection, whether there was one or not.
  have connected : device.answers.ensureConnected = .ok () := by
    refine ensure_eq_ok_iff.mpr ?_
    cases now : device.connected with
    | true => exact .inl (by rw [← now]; rfl)
    | false => exact .inr ⟨by rw [← now]; rfl, rfl⟩
  -- The three questions are asked in this order, and the first no ends the turn.
  by_cases reached : device.InReach
  · by_cases provides : search.svcUuid ∈ device.uuids.getD []
    · have services := device.visitServices_answers search
      have visited : device.answers.visit search = device.answers.visitServices search := by
        simp [DeviceAnswers.visit, asked, addressed, answered, reach, reached, connected, logged,
          provides]
      rw [visited, services]
      congr 1
      -- Without a service that qualifies there is no PSM characteristic either.
      by_cases has : ∃ service ∈ device.services, service.Qualifies search
      · simp [Qualifies, reached, provides, has]
      · have unqualified : (device.services.find? fun service => service.Qualifies search) = none :=
          List.find?_eq_none.mpr fun service member => by
            simpa using fun qualifies => has ⟨service, member, qualifies⟩
        simp [psmCharacteristic, unqualified]
    · have other : ¬device.Qualifies search := fun qualifies => provides qualifies.2.1
      simp [DeviceAnswers.visit, asked, addressed, answered, reach, reached, connected, logged,
        provides, other, Scan.settled]
  · have other : ¬device.Qualifies search := fun qualifies => reached qualifies.1
    simp [DeviceAnswers.visit, asked, addressed, reach, reached, other, Scan.settled]

/-- A turn of the loop settles the search on what the event offers. -/
theorem SteadyEvent.visit_answers (search : Search) (event : SteadyEvent) :
    event.answers.visit search =
      Scan.settled (fun offered => offered.2.psm.map fun psm => (offered.1, psm))
        (event.offered search) := by
  -- Only an added device can be offered.
  cases event with
  | other => rfl
  | deviceAdded addr device =>
    have visited := device.visit_answers search
    by_cases qualifies : device.Qualifies search
    · rw [if_pos qualifies] at visited
      cases found : device.psmCharacteristic search with
      | none =>
        simp [answers, offered, AdapterEvent.visit, visited, qualifies, found, Scan.settled]
      | some characteristic =>
        -- The PSM is a number, or the search fails.
        cases parsed : characteristic.psm with
        | error error =>
          simp [answers, offered, AdapterEvent.visit, visited, qualifies, found, parsed,
            Scan.settled, Except.map]
        | ok psm =>
          simp [answers, offered, AdapterEvent.visit, visited, qualifies, found, parsed,
            Scan.settled, Except.map]
    · rw [if_neg qualifies] at visited
      simp [answers, offered, AdapterEvent.visit, visited, qualifies, Scan.settled]

/-- The loop over the events settles on the first offer. -/
theorem SteadyEvent.eventLoop (search : Search) (events : List SteadyEvent) :
    (events.map answers).findSomeM? (AdapterEvent.visit search) =
      Scan.settled (fun offered => offered.2.psm.map fun psm => (offered.1, psm))
        (events.findSome? (offered search)) := by
  rw [Scan.of_map, Scan.of_picks fun event _ => event.visit_answers search]

/-- What an event offers comes from one service that has the name and the PSM. -/
theorem SteadyEvent.offered_eq_some {search : Search} {event : SteadyEvent} {addr : Address}
    {characteristic : SteadyCharacteristic}
    (offer : event.offered search = some (addr, characteristic)) :
    ∃ device, event = .deviceAdded addr device ∧ device.Qualifies search ∧
      ∃ service ∈ device.services, service.Qualifies search ∧
        characteristic ∈ service.characteristics ∧ characteristic.HoldsPsm search := by
  cases event with
  | other => cases offer
  | deviceAdded other device =>
    by_cases qualifies : device.Qualifies search
    · simp only [offered, qualifies, if_true, Option.map_eq_some_iff, Prod.mk.injEq] at offer
      obtain ⟨_, chosen, rfl, rfl⟩ := offer
      -- The PSM is that of the first service that qualifies, and has the name beside it.
      obtain ⟨service, first, holds⟩ := Option.bind_eq_some_iff.mp chosen
      have fits : service.Qualifies search := by simpa using List.find?_some first
      refine ⟨device, rfl, qualifies, service, List.mem_of_find?_eq_some first, fits, ?_⟩
      exact ⟨List.mem_of_find?_eq_some holds, by simpa using List.find?_some holds⟩
    · rw [offered, if_neg qualifies] at offer
      cases offer

/-- Over devices whose calls succeed the search returns what is specified, and what it returns is
the number of a PSM characteristic beside a name characteristic with the name that is looked for. -/
theorem findDeviceAndPsm_specified {adapter : AdapterAnswers} {search : Search}
    (ready : adapter.Ready search) (events : List SteadyEvent) :
    findDeviceAndPsm adapter search (events.map SteadyEvent.answers) = specified search events ∧
      ∀ addr psm, findDeviceAndPsm adapter search (events.map SteadyEvent.answers) =
        .ok (addr, psm) →
          ∃ device, .deviceAdded addr device ∈ events ∧ device.Qualifies search ∧
            ∃ service ∈ device.services, service.uuid = search.svcUuid ∧
              (∃ name ∈ service.characteristics, name.HasName search) ∧
              ∃ characteristic ∈ service.characteristics,
                characteristic.HoldsPsm search ∧ characteristic.psm = .ok psm := by
  -- Once the discovery is started, the search is the loop over the events.
  have returned : findDeviceAndPsm adapter search (events.map SteadyEvent.answers) =
      specified search events := by
    rw [findDeviceAndPsm_of_ready ready, SteadyEvent.eventLoop, specified]
    cases events.findSome? (SteadyEvent.offered search) with
    | none => rfl
    | some offer =>
      obtain ⟨addr, characteristic⟩ := offer
      -- The PSM that is offered is a number, or it fails the search.
      cases parsed : characteristic.psm with
      | ok psm => simp [Scan.settled, parsed, Except.map, Except.bind, concluded]
      | error error => simp [Scan.settled, parsed, Except.map, Except.bind]
  refine ⟨returned, fun addr psm found => ?_⟩
  rw [returned, specified] at found
  cases first : events.findSome? (SteadyEvent.offered search) with
  | none =>
    rw [first] at found
    cases found
  | some offer =>
    obtain ⟨other, characteristic⟩ := offer
    rw [first] at found
    -- What is returned was offered by one of the events.
    obtain ⟨event, member, offer⟩ := List.exists_of_findSome?_eq_some first
    obtain ⟨device, rfl, qualifies, service, offers, fits, held, holds⟩ :=
      SteadyEvent.offered_eq_some offer
    cases parsed : characteristic.psm with
    | error error =>
      simp only [parsed, Except.map] at found
      cases found
    | ok number =>
      simp only [parsed, Except.map] at found
      cases found
      exact ⟨device, member, qualifies, service, offers, fits.1, fits.2.1, characteristic, held,
        holds, parsed⟩

/-- A search for the phone named p. -/
def exampleSearch : Search where
  deviceName := "p"
  svcUuid := 1
  mobileDeviceNameCharUuid := 2
  psmCharUuid := 3
  logInfo := true

/-- An adapter on which the discovery can be started. -/
def exampleAdapter : AdapterAnswers where
  loggedAddress := .ok ()
  setDiscoveryFilter := .ok ()
  isDiscovering := .ok false
  discoverDevices := .ok ()

/-- A characteristic with the name. -/
def exampleName : SteadyCharacteristic := { uuid := 2, readable := true, value := [112] }

/-- A characteristic with the PSM 80, or with an unreadable one. -/
def examplePsm (readable : Bool) : SteadyCharacteristic :=
  { uuid := 3, readable := readable, value := [56, 48] }

/-- A connected device without an RSSI, whose services are resolved after a lost connection. -/
def exampleDevice : SteadyDevice where
  rssi := none
  connected := true
  connectedLater := false
  paired := true
  trusted := true
  uuids := some [1]
  resolvedAtOnce := false
  changes := [.connectionLost, .other false, .servicesResolved]
  services := [
    { uuid := 1, characteristics := [exampleName, examplePsm false] },
    { uuid := 1, characteristics := [examplePsm true] },
    { uuid := 1, characteristics := [examplePsm true, exampleName] }]

/-- The search finds the device, by the only one of its services that has both. -/
theorem findDeviceAndPsm_specified_third_service :
    exampleAdapter.Ready exampleSearch ∧
      findDeviceAndPsm exampleAdapter exampleSearch
        ([.other, .deviceAdded 7 exampleDevice].map SteadyEvent.answers) = .ok (7, 80) := by
  have ready : exampleAdapter.Ready exampleSearch := ⟨fun _ => rfl, rfl, rfl, rfl⟩
  refine ⟨ready, ?_⟩
  -- The first service has no readable PSM, and the second one has no name.
  rw [(findDeviceAndPsm_specified ready _).1]
  decide +kernel

end BleManaged
