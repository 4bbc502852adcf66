import BleManaged.Bluetooth.Search

/-! What devices that the search does not look for can do to it. -/

namespace BleManaged

open Unicode

/-- The characteristic can be read and has the name that is looked for. -/
def CharacteristicAnswers.ExposesName (search : Search) (answers : CharacteristicAnswers) : Prop :=
  answers.uuid = .ok search.mobileDeviceNameCharUuid ∧ answers.readable = .ok true ∧
    ∃ value, answers.read = .ok value ∧ fromUtf8Lossy value = search.deviceName

/-- The service is of the right kind and has such a characteristic. -/
def ServiceAnswers.ExposesName (search : Search) (answers : ServiceAnswers) : Prop :=
  answers.uuid = .ok search.svcUuid ∧
    ∃ characteristics, answers.characteristics = .ok characteristics ∧
      ∃ characteristic ∈ characteristics, characteristic.ExposesName search

/-- The device has such a service. -/
def DeviceAnswers.ExposesName (search : Search) (answers : DeviceAnswers) : Prop :=
  ∃ services, answers.services = .ok services ∧ ∃ service ∈ services, service.ExposesName search

/-- The event adds another device, which does not expose the name that is looked for. -/
def AdapterEvent.Unrelated (search : Search) (device : Address) (event : AdapterEvent) : Prop :=
  ∃ addr answers, event = .deviceAdded addr answers ∧ addr ≠ device ∧ ¬answers.ExposesName search

/-- A characteristic that decides on the name exposes it. -/
theorem CharacteristicAnswers.NameVisit.exposes {search : Search} {answers : CharacteristicAnswers}
    (visit : answers.NameVisit search (some ())) : answers.ExposesName search := by
  cases visit with
  | named asked readable read same => exact ⟨asked, readable, _, read, same⟩

/-- A service that decides on a PSM exposes the name. -/
theorem ServiceAnswers.Visit.exposes {search : Search} {answers : ServiceAnswers} {psm : UInt16}
    (visit : answers.Visit search (some psm)) : answers.ExposesName search := by
  -- The PSM of a service is asked for behind its name only.
  cases visit with
  | named asked listed named listedAgain visited =>
    obtain ⟨before, characteristic, after, split, _, decides⟩ := named
    exact ⟨asked, _, listed, characteristic, by simp [split], decides.exposes⟩

/-- A device that decides on a PSM exposes the name. -/
theorem DeviceAnswers.Visit.exposes {search : Search} {answers : DeviceAnswers} {psm : UInt16}
    (visit : answers.Visit search (some psm)) : answers.ExposesName search := by
  -- A device that is out of reach or without the service offers no PSM.
  cases visit with
  | provides asked addressed reached connects logged answered provides visited =>
    cases visited with
    | resolved logged listened resolved listed visited =>
      obtain ⟨before, service, after, split, _, decides⟩ := visited
      exact ⟨_, listed, service, by simp [split], decides.exposes⟩

/-- An unrelated event never decides. -/
theorem AdapterEvent.Unrelated.never_decides {search : Search} {device : Address}
    {event : AdapterEvent} (unrelated : event.Unrelated search device)
    (found : Address × UInt16) : event.visit search ≠ .ok (some found) := by
  obtain ⟨addr, answers, rfl, _, hidden⟩ := unrelated
  intro decided
  -- To decide, its device would have to expose the name.
  cases visit_eq_ok_iff.mp decided with
  | found visited => exact hidden visited.exposes

/-- Unrelated events leave what is found exactly when the first event that is not passed over is
one of those that were there without them. -/
theorem findDeviceAndPsm_insert_iff {adapter : AdapterAnswers} {search : Search}
    {entries : List (Scan.Origin × AdapterEvent)} {device : Address} {psm : UInt16}
    (found : findDeviceAndPsm adapter search (Scan.originals entries) = .ok (device, psm))
    (unrelated : ∀ event, (.inserted, event) ∈ entries → event.Unrelated search device) :
    findDeviceAndPsm adapter search (Scan.all entries) = .ok (device, psm) ↔
      Scan.FirstOriginal (AdapterEvent.PassedOver search) entries := by
  obtain ⟨ready, decided⟩ := findDeviceAndPsm_eq_ok_iff.mp found
  have passes : Scan.Passes (AdapterEvent.visit search) = AdapterEvent.PassedOver search :=
    funext fun event => propext AdapterEvent.passes_iff
  -- No unrelated event decides, so the general law of inserted items applies.
  have kept := Scan.insert_iff decided fun event member => (unrelated event member).never_decides
  rw [passes] at kept
  rw [findDeviceAndPsm_eq_ok_iff, kept]
  exact and_iff_right ready

/-- A neighbour with the given RSSI that cannot be connected to and has no services. -/
def exampleNeighbour (rssi : Int) : DeviceAnswers :=
  { { exampleDevice with rssi := some rssi, connected := false, services := [] }.answers with
    connect := .error ⟨"br-connection-page-timeout"⟩ }

/-- It is unrelated to the search. -/
theorem exampleNeighbour_unrelated (rssi : Int) :
    (AdapterEvent.deviceAdded 8 (exampleNeighbour rssi)).Unrelated exampleSearch 7 := by
  refine ⟨8, exampleNeighbour rssi, rfl, by decide, ?_⟩
  intro exposes
  obtain ⟨services, listed, service, member, _⟩ := exposes
  -- It has no services that could expose anything.
  cases listed
  cases member

/-- Without neighbours the search finds the device. -/
theorem exampleDevice_found :
    findDeviceAndPsm exampleAdapter exampleSearch [.deviceAdded 7 exampleDevice.answers] =
      .ok (7, 80) := by
  decide +kernel

/-- A neighbour that is out of range or comes later leaves what is found. -/
theorem findDeviceAndPsm_insert_iff_out_of_range :
    findDeviceAndPsm exampleAdapter exampleSearch
      (Scan.all [(.inserted, .deviceAdded 8 (exampleNeighbour (-210))),
        (.original, .deviceAdded 7 exampleDevice.answers),
        (.inserted, .deviceAdded 8 (exampleNeighbour (-60)))]) = .ok (7, 80) := by
  -- The first event is passed over, and the second one ends the search.
  refine (findDeviceAndPsm_insert_iff exampleDevice_found ?_).mpr ?_
  · intro event member
    simp only [List.mem_cons, Prod.mk.injEq, List.not_mem_nil, or_false, reduceCtorEq, false_and,
      true_and, false_or] at member
    rcases member with rfl | rfl
    · exact exampleNeighbour_unrelated _
    · exact exampleNeighbour_unrelated _
  · have passed : (AdapterEvent.deviceAdded 8 (exampleNeighbour (-210))).PassedOver exampleSearch :=
      AdapterEvent.passes_iff.mp rfl
    have decides :
        ¬(AdapterEvent.deviceAdded 7 exampleDevice.answers).PassedOver exampleSearch := by
      -- If it were passed over, the search would not find it.
      intro passes
      have decided := (findDeviceAndPsm_eq_ok_iff.mp exampleDevice_found).2
      rw [Scan.of_all (by simpa using AdapterEvent.passes_iff.mpr passes)] at decided
      cases decided
    rw [Scan.firstOriginal_cons_of_passes passed, Scan.firstOriginal_cons_of_not_passes decides]

/-- A neighbour in range that comes first makes the search fail, even though it is unrelated. -/
theorem found_not_kept :
    ¬∀ (adapter : AdapterAnswers) (search : Search) (entries : List (Scan.Origin × AdapterEvent))
      (device : Address) (psm : UInt16),
      findDeviceAndPsm adapter search (Scan.originals entries) = .ok (device, psm) →
      (∀ event, (.inserted, event) ∈ entries → event.Unrelated search device) →
      findDeviceAndPsm adapter search (Scan.all entries) = .ok (device, psm) := by
  intro kept
  have found := kept exampleAdapter exampleSearch
    [(.inserted, .deviceAdded 8 (exampleNeighbour (-60))),
      (.original, .deviceAdded 7 exampleDevice.answers)] 7 80 exampleDevice_found ?_
  · -- The neighbour is in range and not connected, so the code connects to it and fails.
    have failed : findDeviceAndPsm exampleAdapter exampleSearch
        [.deviceAdded 8 (exampleNeighbour (-60)), .deviceAdded 7 exampleDevice.answers] =
        .error (.bluer ⟨"br-connection-page-timeout"⟩) := by
      decide +kernel
    exact nomatch found.symm.trans failed
  · intro event member
    simp only [List.mem_cons, Prod.mk.injEq, List.not_mem_nil, or_false, reduceCtorEq, false_and,
      true_and] at member
    rw [member]
    exact exampleNeighbour_unrelated _

end BleManaged
