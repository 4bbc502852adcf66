import BleManaged.Bluetooth.Peripheral
import BleManaged.Bluetooth.Outcome

/-! The name of a phone as the machine receives it and as the machine looks for it. -/

namespace BleManaged

open Unicode

/-- A list of bytes keeps the low 8 bits of each element. -/
def uint8ListFromList (elements : List UInt16) : List UInt8 := elements.map UInt16.toUInt8

/-- What the phone writes to the machine. -/
def writtenName (mobileDevice : String) : List UInt8 := uint8ListFromList (utf16 mobileDevice)

/-- What the phone publishes under its name characteristic. -/
def publishedName (mobileDevice : String) : List UInt8 := utf8 mobileDevice

/-- The characteristic under which a phone publishes its name. -/
def publishedCharacteristic (search : Search) (mobileDevice : String) : CharacteristicAnswers where
  uuid := .ok search.mobileDeviceNameCharUuid
  readable := .ok true
  read := .ok (publishedName mobileDevice)

/-- The first request is of the phone, is read whole, and every call upon it succeeds. -/
structure WriteRequest.Brings (req : WriteRequest) (mobileDevice : String) : Prop where
  accepted : req.accept = .ok ()
  written : req.written = .ok (writtenName mobileDevice)
  whole : (writtenName mobileDevice).length ≤ req.mtu
  device : req.device = .ok ()
  paired : Ensured req.isPaired req.pair
  trusted : Ensured req.isTrusted req.setTrusted

/-- Some wait in which the name of the phone arrives whole comes to the outcome. -/
def Receives (mobileDevice : String) (outcome : Except AdvertiseError String) : Prop :=
  ∃ answers events req, answers.advertise = .ok () ∧ answers.serveGattApplication = .ok () ∧
    firstWrite events = some req ∧ req.Brings mobileDevice ∧
      advertiseAndFindMobileDeviceName answers events = outcome

/-- The name is received as it is, and the machine recognises the phone that publishes it. -/
structure NameAgrees (mobileDevice : String) : Prop where
  /-- Whenever the name arrives whole, the wait returns it. -/
  received : ∀ outcome, Receives mobileDevice outcome → outcome = .ok mobileDevice
  /-- It is what the search decodes from the characteristic of the phone. -/
  decoded : fromUtf8Lossy (publishedName mobileDevice) = mobileDevice
  /-- The search for it decides on that characteristic. -/
  recognised : ∀ search : Search, search.deviceName = mobileDevice →
    (publishedCharacteristic search mobileDevice).visitName search = .ok (some ())

/-- Two different names are never received as the same name. -/
def NamesApart (first second : String) : Prop :=
  first ≠ second → ∀ name, ¬(Receives first (.ok name) ∧ Receives second (.ok name))

/-- What the name of a phone is received as. -/
def receivedName (mobileDevice : String) : Except AdvertiseError String :=
  (fromUtf8 (writtenName mobileDevice)).mapError .notUtf8

/-- A request that brings a name is handled as receiving it. -/
theorem WriteRequest.Brings.handle {req : WriteRequest} {mobileDevice : String}
    (brings : req.Brings mobileDevice) : req.handle = receivedName mobileDevice := by
  have paired := ensure_eq_ok_iff.mpr brings.paired
  have trusted := ensure_eq_ok_iff.mpr brings.trusted
  -- One read takes the whole name, so nothing of it is cut off.
  have whole := List.take_of_length_le brings.whole
  cases decoded : fromUtf8 (writtenName mobileDevice) with
  | error error =>
    simp [WriteRequest.handle, receivedName, brings.accepted, brings.written, whole, decoded,
      Except.mapError]
  | ok name =>
    simp [WriteRequest.handle, receivedName, brings.accepted, brings.written, whole, decoded,
      brings.device, paired, trusted, Except.mapError]

/-- A phone that is paired with and trusted when it writes its name. -/
def phoneRequest (mobileDevice : String) : WriteRequest where
  deviceAddress := 1
  mtu := (writtenName mobileDevice).length
  accept := .ok ()
  written := .ok (writtenName mobileDevice)
  device := .ok ()
  isPaired := .ok false
  pair := .ok ()
  isTrusted := .ok false
  setTrusted := .ok ()

/-- Every wait in which a name arrives whole comes to what the name is received as. -/
theorem receives_iff {mobileDevice : String} {outcome : Except AdvertiseError String} :
    Receives mobileDevice outcome ↔ outcome = receivedName mobileDevice := by
  -- The loop ends with the first request, and fails or returns as handling the request does.
  have ends {answers : AdvertiseAnswers} {events : List CharacteristicControlEvent}
      {req : WriteRequest} (advertised : answers.advertise = .ok ())
      (served : answers.serveGattApplication = .ok ()) (first : firstWrite events = some req)
      (brings : req.Brings mobileDevice) :
      advertiseAndFindMobileDeviceName answers events = receivedName mobileDevice := by
    have loop := firstWrite_loop events
    rw [first, Scan.settled, brings.handle] at loop
    cases result : receivedName mobileDevice with
    | error error =>
      rw [result] at loop
      simp [advertiseAndFindMobileDeviceName, advertised, served, loop, Except.map]
    | ok name =>
      rw [result] at loop
      simp [advertiseAndFindMobileDeviceName, advertised, served, loop, Except.map]
  constructor
  · intro receives
    obtain ⟨answers, events, req, advertised, served, first, brings, returned⟩ := receives
    rw [← returned, ends advertised served first brings]
  · intro same
    -- There is such a wait for every name: the phone writes it at once.
    have brings : (phoneRequest mobileDevice).Brings mobileDevice :=
      ⟨rfl, rfl, Nat.le_refl _, rfl, .inr ⟨rfl, rfl⟩, .inr ⟨rfl, rfl⟩⟩
    refine ⟨⟨.ok (), .ok ()⟩, [.write (phoneRequest mobileDevice)], _, rfl, rfl, rfl, brings, ?_⟩
    rw [same, ends rfl rfl rfl brings]

/-- A name is received as it is exactly when it is below 128. -/
theorem receivedName_eq_ok_iff {mobileDevice : String} :
    receivedName mobileDevice = .ok mobileDevice ↔ Ascii mobileDevice := by
  rw [receivedName, mapError_eq_ok_iff, fromUtf8_eq_ok_iff]
  exact utf16_toUInt8_eq_utf8_iff mobileDevice

/-- The search for a name decides on the characteristic of a phone that publishes it. -/
theorem visitName_publishedCharacteristic {search : Search} {mobileDevice : String}
    (named : search.deviceName = mobileDevice) :
    (publishedCharacteristic search mobileDevice).visitName search = .ok (some ()) := by
  -- What the phone publishes is well formed, so nothing of it is replaced.
  have decoded : fromUtf8Lossy (publishedName mobileDevice) = search.deviceName := by
    rw [named, publishedName, fromUtf8Lossy_utf8]
  exact CharacteristicAnswers.visitName_eq_ok_iff.mpr (.named rfl rfl rfl decoded)

/-- The handshake agrees on a name exactly when the name is below 128. -/
theorem nameAgrees_iff {mobileDevice : String} : NameAgrees mobileDevice ↔ Ascii mobileDevice := by
  constructor
  · intro agrees
    exact receivedName_eq_ok_iff.mp (agrees.received _ (receives_iff.mpr rfl))
  · intro ascii
    -- What is published is found for every name, so only what is received is at stake.
    refine ⟨fun outcome receives => ?_, fromUtf8Lossy_utf8 mobileDevice,
      fun search named => visitName_publishedCharacteristic named⟩
    rw [receives_iff.mp receives, receivedName_eq_ok_iff.mpr ascii]

/-- The handshake agrees on two names and keeps them apart exactly when both are below 128. -/
theorem names_agree_iff (first second : String) :
    NameAgrees first ∧ NameAgrees second ∧ NamesApart first second ↔
      Ascii first ∧ Ascii second := by
  constructor
  · intro agree
    exact ⟨nameAgrees_iff.mp agree.1, nameAgrees_iff.mp agree.2.1⟩
  · intro ascii
    have agrees := nameAgrees_iff.mpr ascii.1
    have other := nameAgrees_iff.mpr ascii.2
    refine ⟨agrees, other, fun different name both => different ?_⟩
    -- Each of the two is received as itself, so they are the same.
    have same := agrees.received _ both.1
    rw [other.received _ both.2] at same
    exact (Except.ok.inj same).symm

/-- The name é fails the wait, and the name Ā is received as another one. -/
theorem names_disagree :
    (∃ error, Receives "é" (.error error)) ∧ Receives "Ā" (.ok "\x00") ∧
      ¬∀ first second : String,
        NameAgrees first ∧ NameAgrees second ∧ NamesApart first second := by
  -- Both names are written as one byte: 0xE9 is no UTF-8, and 0x00 is another character.
  refine ⟨⟨.notUtf8 ⟨0, none⟩, receives_iff.mpr ?_⟩, receives_iff.mpr ?_, fun agree => ?_⟩
  · decide +kernel
  · decide +kernel
  · have ascii := nameAgrees_iff.mp (agree "é" "Ā").1
    have small := ascii 'é' (by simp)
    exact absurd small (by decide)

end BleManaged
