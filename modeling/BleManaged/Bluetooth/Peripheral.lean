import BleManaged.Bluetooth.Calls
import BleManaged.Lib.Scan
import BleManaged.Lib.Unicode

/-! The machine advertises itself until a device writes its name, and pairs with that device. -/

namespace BleManaged

open Unicode

/-- A request to write, with what the calls upon it answer. -/
structure WriteRequest where
  deviceAddress : Address
  /-- How many bytes a single read takes at most. -/
  mtu : Nat
  accept : Except BluerError Unit
  /-- What there is to read once the request is accepted. -/
  written : Except BluerError (List UInt8)
  device : Except BluerError Unit
  isPaired : Except BluerError Bool
  pair : Except BluerError Unit
  isTrusted : Except BluerError Bool
  setTrusted : Except BluerError Unit

/-- An event of the characteristic to which the name is written. -/
inductive CharacteristicControlEvent where
  | write (req : WriteRequest)
  | notify

/-- What the calls on the adapter answer that start the advertisement. -/
structure AdvertiseAnswers where
  advertise : Except BluerError Unit
  serveGattApplication : Except BluerError Unit

/-- How the wait for a name fails. -/
inductive AdvertiseError where
  | bluer (error : BluerError)
  | notUtf8 (error : Utf8Error)
  | noName
  deriving DecidableEq, Repr

instance : FromBluer AdvertiseError := ⟨.bluer⟩

/-- The text of an error of the wait. -/
def AdvertiseError.message : AdvertiseError → String
  | .bluer error => error.message
  | .notUtf8 error =>
    "written mobile device name is not a UT8-encoded string: " ++ error.message
  | .noName => "failed to collect a mobile device name"

/-- Handle a request to write: read the name, then pair with the device and trust it. -/
def WriteRequest.handle (req : WriteRequest) : Except AdvertiseError String := do
  req.accept
  let trimmedReadBuf := (← req.written).take req.mtu
  match fromUtf8 trimmedReadBuf with
  | .ok mobileDeviceName =>
    req.device
    ensure req.isPaired req.pair
    ensure req.isTrusted req.setTrusted
    return mobileDeviceName
  | .error error => throw (.notUtf8 error)

/-- One turn of the loop over the events. -/
def CharacteristicControlEvent.visit :
    CharacteristicControlEvent → Except AdvertiseError (Option String)
  | .write req => return some (← req.handle)
  -- Should not happen.
  | .notify => return none

/-- Advertise and wait for a name, among the events up to the end of the control. -/
def advertiseAndFindMobileDeviceName (answers : AdvertiseAnswers)
    (events : List CharacteristicControlEvent) : Except AdvertiseError String := do
  answers.advertise
  answers.serveGattApplication
  match ← events.findSomeM? CharacteristicControlEvent.visit with
  | some mobileDeviceName => return mobileDeviceName
  | none => throw .noName

/-- A request is accepted with a name, and leaves the device that wrote it paired and trusted. -/
structure WriteRequest.Accepted (req : WriteRequest) (name : String) : Prop where
  accepted : req.accept = .ok ()
  /-- What one read takes of what was written is the name. -/
  named : ∃ written, req.written = .ok written ∧ fromUtf8 (written.take req.mtu) = .ok name
  device : req.device = .ok ()
  paired : Ensured req.isPaired req.pair
  trusted : Ensured req.isTrusted req.setTrusted

/-- The code accepts a request in just that way. -/
theorem WriteRequest.handle_eq_ok_iff {req : WriteRequest} {name : String} :
    req.handle = .ok name ↔ req.Accepted name := by
  constructor
  · intro handled
    obtain ⟨done, accepted, handled⟩ := call_bind_eq_ok_iff.mp handled
    obtain ⟨written, read, handled⟩ := call_bind_eq_ok_iff.mp handled
    -- The name is decoded before the device is looked at, so bad bytes leave it unpaired.
    cases decoded : fromUtf8 (written.take req.mtu) with
    | error error =>
      simp only [decoded] at handled
      cases handled
    | ok decodedName =>
      simp only [decoded] at handled
      obtain ⟨done, device, handled⟩ := call_bind_eq_ok_iff.mp handled
      -- A device that is paired or trusted already is left so.
      obtain ⟨done, paired, handled⟩ := call_bind_eq_ok_iff.mp handled
      rw [ensure_eq_ok_iff] at paired
      obtain ⟨done, trusted, handled⟩ := call_bind_eq_ok_iff.mp handled
      rw [ensure_eq_ok_iff] at trusted
      cases handled
      exact ⟨accepted, ⟨written, read, decoded⟩, device, paired, trusted⟩
  · intro accepted
    obtain ⟨written, read, decoded⟩ := accepted.named
    have paired := ensure_eq_ok_iff.mpr accepted.paired
    have trusted := ensure_eq_ok_iff.mpr accepted.trusted
    simp [handle, accepted.accepted, read, decoded, accepted.device, paired, trusted]

/-- The request of an event, if it is one. -/
def CharacteristicControlEvent.request : CharacteristicControlEvent → Option WriteRequest
  | .write req => some req
  | .notify => none

/-- The first request to write. -/
def firstWrite (events : List CharacteristicControlEvent) : Option WriteRequest :=
  events.findSome? CharacteristicControlEvent.request

/-- The loop settles on the first request. -/
theorem firstWrite_loop (events : List CharacteristicControlEvent) :
    events.findSomeM? CharacteristicControlEvent.visit =
      Scan.settled WriteRequest.handle (firstWrite events) := by
  -- No event but a request ends the loop, and a request always does.
  refine Scan.of_picks fun event _ => ?_
  cases event with
  | notify => rfl
  | write req =>
    show (do return some (← req.handle)) = (req.handle).map some
    cases req.handle with
    | error error => rfl
    | ok name => rfl

/-- The wait ends with a name exactly when the first request to write is accepted with it. -/
theorem advertiseAndFindMobileDeviceName_eq_ok_iff {answers : AdvertiseAnswers}
    {events : List CharacteristicControlEvent} {name : String} :
    advertiseAndFindMobileDeviceName answers events = .ok name ↔
      answers.advertise = .ok () ∧ answers.serveGattApplication = .ok () ∧
        ∃ req, firstWrite events = some req ∧ req.Accepted name := by
  constructor
  · intro returned
    obtain ⟨done, advertised, returned⟩ := call_bind_eq_ok_iff.mp returned
    obtain ⟨done, served, returned⟩ := call_bind_eq_ok_iff.mp returned
    obtain ⟨found, loop, returned⟩ := bind_eq_ok_iff.mp returned
    rw [firstWrite_loop] at loop
    cases first : firstWrite events with
    | none =>
      -- Without a request there is no name.
      rw [first] at loop
      cases loop
      cases returned
    | some req =>
      rw [first] at loop
      -- Whatever comes of the first request comes of the wait.
      cases handled : req.handle with
      | error error =>
        rw [Scan.settled, handled] at loop
        cases loop
      | ok accepted =>
        rw [Scan.settled, handled] at loop
        cases loop
        cases returned
        exact ⟨advertised, served, req, rfl, WriteRequest.handle_eq_ok_iff.mp handled⟩
  · intro accepted
    obtain ⟨advertised, served, req, first, accepted⟩ := accepted
    have loop := firstWrite_loop events
    rw [first, Scan.settled, WriteRequest.handle_eq_ok_iff.mpr accepted] at loop
    simp [advertiseAndFindMobileDeviceName, advertised, served, loop, Except.map]

end BleManaged
