import BleManaged.Bluetooth.Central

/-! What the search comes to when none of the calls it makes fails. -/

namespace BleManaged

open Unicode

/-- What looking at a characteristic for the name comes to. -/
inductive CharacteristicAnswers.NameVisit (search : Search) (answers : CharacteristicAnswers) :
    Option Unit → Prop where
  | other {uuid : Uuid} (asked : answers.uuid = .ok uuid)
      (other : uuid ≠ search.mobileDeviceNameCharUuid) : NameVisit search answers none
  | unreadable (asked : answers.uuid = .ok search.mobileDeviceNameCharUuid)
      (readable : answers.readable = .ok false) : NameVisit search answers none
  | different {value : List UInt8} (asked : answers.uuid = .ok search.mobileDeviceNameCharUuid)
      (readable : answers.readable = .ok true) (read : answers.read = .ok value)
      (different : fromUtf8Lossy value ≠ search.deviceName) : NameVisit search answers none
  /-- It has the name that is looked for. -/
  | named {value : List UInt8} (asked : answers.uuid = .ok search.mobileDeviceNameCharUuid)
      (readable : answers.readable = .ok true) (read : answers.read = .ok value)
      (same : fromUtf8Lossy value = search.deviceName) : NameVisit search answers (some ())

/-- The code looks at a characteristic for the name in just that way. -/
theorem CharacteristicAnswers.visitName_eq_ok_iff {search : Search}
    {answers : CharacteristicAnswers} {outcome : Option Unit} :
    answers.visitName search = .ok outcome ↔ answers.NameVisit search outcome := by
  constructor
  · intro visited
    -- The calls are followed in their order, and each of them has succeeded.
    obtain ⟨uuid, asked, visited⟩ := bind_eq_ok_iff.mp visited
    by_cases same : uuid = search.mobileDeviceNameCharUuid
    · subst same
      rw [if_pos rfl] at visited
      obtain ⟨readable, flags, visited⟩ := bind_eq_ok_iff.mp visited
      cases readable with
      | false =>
        -- A characteristic that cannot be read is passed over unread.
        cases visited
        exact .unreadable asked flags
      | true =>
        obtain ⟨value, read, visited⟩ := bind_eq_ok_iff.mp visited
        -- Whatever bytes have been read, they make a text.
        by_cases named : fromUtf8Lossy value = search.deviceName
        · simp only [named, if_true, pure_eq_ok_iff] at visited
          subst visited
          exact .named asked flags read named
        · simp only [named, if_false, pure_eq_ok_iff] at visited
          subst visited
          exact .different asked flags read named
    · rw [if_neg same] at visited
      cases visited
      exact .other asked same
  · -- Backwards, the answers decide every branch of the code.
    intro visit
    cases visit with
    | other asked other => simp [visitName, asked, other]
    | unreadable asked readable => simp [visitName, asked, readable]
    | different asked readable read different =>
      simp [visitName, asked, readable, read, different]
    | named asked readable read same =>
      simp [visitName, asked, readable, read, same]

/-- What looking at a characteristic for the PSM comes to. -/
inductive CharacteristicAnswers.PsmVisit (search : Search) (answers : CharacteristicAnswers) :
    Option UInt16 → Prop where
  | other {uuid : Uuid} (asked : answers.uuid = .ok uuid) (other : uuid ≠ search.psmCharUuid) :
      PsmVisit search answers none
  | unreadable (asked : answers.uuid = .ok search.psmCharUuid)
      (readable : answers.readable = .ok false) : PsmVisit search answers none
  /-- It holds a number. -/
  | number {value : List UInt8} {psm : UInt16} (asked : answers.uuid = .ok search.psmCharUuid)
      (readable : answers.readable = .ok true) (read : answers.read = .ok value)
      (number : parseU16 (fromUtf8Lossy value) = .ok psm) : PsmVisit search answers (some psm)

/-- The code looks at a characteristic for the PSM in just that way. -/
theorem CharacteristicAnswers.visitPsm_eq_ok_iff {search : Search}
    {answers : CharacteristicAnswers} {outcome : Option UInt16} :
    answers.visitPsm search = .ok outcome ↔ answers.PsmVisit search outcome := by
  constructor
  · intro visited
    obtain ⟨uuid, asked, visited⟩ := call_bind_eq_ok_iff.mp visited
    -- Only a characteristic for the PSM is asked for more than its identifier.
    by_cases same : uuid = search.psmCharUuid
    · subst same
      rw [if_pos rfl] at visited
      obtain ⟨readable, flags, visited⟩ := call_bind_eq_ok_iff.mp visited
      cases readable with
      | false =>
        cases visited
        exact .unreadable asked flags
      | true =>
        obtain ⟨value, read, visited⟩ := call_bind_eq_ok_iff.mp visited
        -- A text that is not a number fails the search.
        cases parsed : parseU16 (fromUtf8Lossy value) with
        | error error =>
          simp only [parsed] at visited
          cases visited
        | ok psm =>
          simp only [parsed, pure_eq_ok_iff] at visited
          subst visited
          exact .number asked flags read parsed
    · rw [if_neg same] at visited
      cases visited
      exact .other asked same
  · intro visit
    cases visit with
    | other asked other => simp [visitPsm, asked, other]
    | unreadable asked readable => simp [visitPsm, asked, readable]
    | number asked readable read number =>
      simp [visitPsm, asked, readable, read, number]

/-- What looking at a service comes to. -/
inductive ServiceAnswers.Visit (search : Search) (answers : ServiceAnswers) :
    Option UInt16 → Prop where
  | other {uuid : Uuid} (asked : answers.uuid = .ok uuid) (other : uuid ≠ search.svcUuid) :
      Visit search answers none
  /-- None of its characteristics has the name. -/
  | unnamed {characteristics : List CharacteristicAnswers}
      (asked : answers.uuid = .ok search.svcUuid)
      (listed : answers.characteristics = .ok characteristics)
      (unnamed : Scan.Comes (·.NameVisit search) characteristics none) :
      Visit search answers none
  /-- One of them has it, and then the PSM is looked for. -/
  | named {characteristics psmCharacteristics : List CharacteristicAnswers}
      {outcome : Option UInt16} (asked : answers.uuid = .ok search.svcUuid)
      (listed : answers.characteristics = .ok characteristics)
      (named : Scan.Comes (·.NameVisit search) characteristics (some ()))
      (listedAgain : answers.psmCharacteristics = .ok psmCharacteristics)
      (visited : Scan.Comes (·.PsmVisit search) psmCharacteristics outcome) :
      Visit search answers outcome

/-- The code looks at a service in just that way. -/
theorem ServiceAnswers.visit_eq_ok_iff {search : Search} {answers : ServiceAnswers}
    {outcome : Option UInt16} :
    answers.visit search = .ok outcome ↔ answers.Visit search outcome := by
  -- The two loops come to what looking at their characteristics comes to.
  have names {items : List CharacteristicAnswers} {found : Option Unit} :
      items.findSomeM? (fun item => (liftM (item.visitName search) : Except FindError _)) =
        .ok found ↔ Scan.Comes (·.NameVisit search) items found :=
    Scan.eq_ok_iff fun _ _ => liftM_eq_ok_iff.trans CharacteristicAnswers.visitName_eq_ok_iff
  have psms {items : List CharacteristicAnswers} {found : Option UInt16} :
      items.findSomeM? (·.visitPsm search) = .ok found ↔
        Scan.Comes (·.PsmVisit search) items found :=
    Scan.eq_ok_iff fun _ _ => CharacteristicAnswers.visitPsm_eq_ok_iff
  constructor
  · intro visited
    obtain ⟨uuid, asked, visited⟩ := call_bind_eq_ok_iff.mp visited
    by_cases same : uuid = search.svcUuid
    · subst same
      rw [if_pos rfl] at visited
      obtain ⟨characteristics, listed, visited⟩ := call_bind_eq_ok_iff.mp visited
      obtain ⟨found, searched, visited⟩ := bind_eq_ok_iff.mp visited
      rw [names] at searched
      -- Without the name the service is passed over, whatever PSM it may hold.
      cases found with
      | none =>
        cases visited
        exact .unnamed asked listed searched
      | some found =>
        -- With the name its characteristics are asked for once more.
        obtain ⟨psmCharacteristics, listedAgain, visited⟩ := call_bind_eq_ok_iff.mp visited
        exact .named asked listed searched listedAgain (psms.mp visited)
    · rw [if_neg same] at visited
      cases visited
      exact .other asked same
  · intro visit
    cases visit with
    | other asked other => simp [ServiceAnswers.visit, asked, other]
    | unnamed asked listed unnamed =>
      have searched := names.mpr unnamed
      simp [ServiceAnswers.visit, asked, listed, searched]
    | named asked listed named listedAgain visited =>
      have searched := names.mpr named
      have found := psms.mpr visited
      simp [ServiceAnswers.visit, asked, listed, searched, listedAgain, found]

/-- What a change comes to while the services are waited for. -/
inductive Change.Visit : Change → Option Unit → Prop where
  | servicesResolved : Visit .servicesResolved (some ())
  /-- The device is connected to once more. -/
  | reconnected {connect : Except BluerError Unit} (connected : connect = .ok ()) :
      Visit (.connectionLost connect) none
  | resolved : Visit (.other (.ok true)) (some ())
  | unresolved : Visit (.other (.ok false)) none

/-- The code handles a change in just that way. -/
theorem Change.visit_eq_ok_iff {change : Change} {outcome : Option Unit} :
    change.visit = .ok outcome ↔ change.Visit outcome := by
  constructor
  · intro visited
    cases change with
    | servicesResolved =>
      cases visited
      exact .servicesResolved
    | connectionLost connect =>
      -- A lost connection is made again, and the wait goes on.
      obtain ⟨done, connected, visited⟩ := bind_eq_ok_iff.mp visited
      cases visited
      exact .reconnected connected
    | other resolved =>
      -- Any other change makes the code ask whether the services are resolved by now.
      obtain ⟨answer, asked, visited⟩ := bind_eq_ok_iff.mp visited
      subst asked
      cases answer with
      | true =>
        cases visited
        exact .resolved
      | false =>
        cases visited
        exact .unresolved
  · intro visit
    cases visit with
    | reconnected connected =>
      subst connected
      rfl
    | servicesResolved | resolved | unresolved => rfl

/-- What the wait for the services comes to: whether they are resolved in time. -/
inductive DeviceAnswers.Resolution (answers : DeviceAnswers) : Bool → Prop where
  | atOnce (asked : answers.servicesResolved = .ok true) : Resolution answers true
  /-- One of the changes finds them resolved. -/
  | inTime (asked : answers.servicesResolved = .ok false)
      (connects : Ensured answers.connectedBeforeWait answers.reconnect)
      (changed : Scan.Comes Change.Visit answers.changes (some ())) : Resolution answers true
  /-- None of the changes does. -/
  | unresolved (asked : answers.servicesResolved = .ok false)
      (connects : Ensured answers.connectedBeforeWait answers.reconnect)
      (unchanged : Scan.Comes Change.Visit answers.changes none) : Resolution answers false

/-- The code waits for the services in just that way. -/
theorem DeviceAnswers.resolve_eq_ok_iff {answers : DeviceAnswers} {outcome : Bool} :
    answers.resolve = .ok outcome ↔ answers.Resolution outcome := by
  -- The loop over the changes comes to what handling them one by one comes to.
  have changes {items : List Change} {found : Option Unit} :
      items.findSomeM? Change.visit = .ok found ↔ Scan.Comes Change.Visit items found :=
    Scan.eq_ok_iff fun _ _ => Change.visit_eq_ok_iff
  constructor
  · intro visited
    obtain ⟨resolved, asked, visited⟩ := bind_eq_ok_iff.mp visited
    cases resolved with
    | true =>
      cases visited
      exact .atOnce asked
    | false =>
      -- Before it waits, the code makes sure that the device is connected.
      obtain ⟨done, connects, visited⟩ := bind_eq_ok_iff.mp visited
      rw [ensure_eq_ok_iff] at connects
      obtain ⟨found, changed, visited⟩ := bind_eq_ok_iff.mp visited
      rw [changes] at changed
      -- The wait ends in time exactly when one of the changes ends it.
      cases found with
      | none =>
        cases visited
        exact .unresolved asked connects changed
      | some found =>
        cases visited
        exact .inTime asked connects changed
  · intro resolution
    cases resolution with
    | atOnce asked => simp [resolve, asked]
    | inTime asked connects changed =>
      have searched := changes.mpr changed
      have connected := ensure_eq_ok_iff.mpr connects
      simp [resolve, asked, connected, searched]
    | unresolved asked connects unchanged =>
      have searched := changes.mpr unchanged
      have connected := ensure_eq_ok_iff.mpr connects
      simp [resolve, asked, connected, searched]

/-- Whether the device is in reach, as it answers. -/
inductive DeviceAnswers.Reach (answers : DeviceAnswers) : Bool → Prop where
  /-- Its RSSI decides. -/
  | rssi {rssi : Int} (asked : answers.rssi = .ok (some rssi)) :
      Reach answers (decide (-200 < rssi))
  /-- Without an RSSI its connection decides. -/
  | connection {connected : Bool} (asked : answers.rssi = .ok none)
      (answered : answers.connectedWithoutRssi = .ok connected) : Reach answers connected

/-- The code judges the reach in just that way. -/
theorem DeviceAnswers.inReach_eq_ok_iff {answers : DeviceAnswers} {outcome : Bool} :
    answers.inReach = .ok outcome ↔ answers.Reach outcome := by
  constructor
  · intro asked
    obtain ⟨rssi, answered, asked⟩ := bind_eq_ok_iff.mp asked
    -- A device without an RSSI may be connected already, and that is near enough.
    cases rssi with
    | none => exact .connection answered asked
    | some rssi =>
      cases asked
      exact .rssi answered
  · intro reach
    cases reach with
    | rssi asked => simp [inReach, asked]
    | connection asked answered => simp [inReach, asked, answered]

/-- What is asked for the log is answered. -/
structure DeviceAnswers.StateLogged (search : Search) (answers : DeviceAnswers) : Prop where
  connected : search.logInfo = true → ∃ connected, answers.loggedConnected = .ok connected
  paired : search.logInfo = true → ∃ paired, answers.loggedPaired = .ok paired
  trusted : search.logInfo = true → ∃ trusted, answers.loggedTrusted = .ok trusted

/-- The code asks for the state in just that way. -/
theorem DeviceAnswers.logState_eq_ok_iff {search : Search} {answers : DeviceAnswers} :
    answers.logState search.logInfo = .ok () ↔ answers.StateLogged search := by
  -- What is not logged is not asked for either.
  cases logInfo : search.logInfo with
  | false =>
    refine ⟨fun _ => ⟨?_, ?_, ?_⟩, fun _ => rfl⟩ <;> simp [logInfo]
  | true =>
    constructor
    · intro asked
      -- The first of the three questions that fails ends the search.
      obtain ⟨connected, answeredConnected, asked⟩ := bind_eq_ok_iff.mp asked
      obtain ⟨paired, answeredPaired, asked⟩ := bind_eq_ok_iff.mp asked
      obtain ⟨trusted, answeredTrusted, asked⟩ := bind_eq_ok_iff.mp asked
      exact ⟨fun _ => ⟨connected, answeredConnected⟩, fun _ => ⟨paired, answeredPaired⟩,
        fun _ => ⟨trusted, answeredTrusted⟩⟩
    · intro logged
      obtain ⟨connected, answeredConnected⟩ := logged.connected logInfo
      obtain ⟨paired, answeredPaired⟩ := logged.paired logInfo
      obtain ⟨trusted, answeredTrusted⟩ := logged.trusted logInfo
      simp [logState, answeredConnected, answeredPaired, answeredTrusted]

/-- The type of the address is answered if it is asked for. -/
def DeviceAnswers.AddressTypeLogged (search : Search) (answers : DeviceAnswers) : Prop :=
  search.logInfo = true → answers.loggedAddressType = .ok ()

/-- The code asks for the type of the address in just that way. -/
theorem DeviceAnswers.logAddressType_eq_ok_iff {search : Search} {answers : DeviceAnswers} :
    answers.logAddressType search.logInfo = .ok () ↔ answers.AddressTypeLogged search := by
  cases logInfo : search.logInfo with
  | false => simp [logAddressType, AddressTypeLogged, logInfo]
  | true => simp [logAddressType, AddressTypeLogged, logInfo]

/-- What looking at the services of a device comes to. -/
inductive DeviceAnswers.ServicesVisit (search : Search) (answers : DeviceAnswers) :
    Option UInt16 → Prop where
  /-- They are not resolved in time. -/
  | unresolved (logged : answers.AddressTypeLogged search) (listened : answers.events = .ok ())
      (unresolved : answers.Resolution false) : ServicesVisit search answers none
  /-- They are, and the code looks at one after the other. -/
  | resolved {services : List ServiceAnswers} {outcome : Option UInt16}
      (logged : answers.AddressTypeLogged search) (listened : answers.events = .ok ())
      (resolved : answers.Resolution true) (listed : answers.services = .ok services)
      (visited : Scan.Comes (·.Visit search) services outcome) :
      ServicesVisit search answers outcome

/-- The code looks at the services in just that way. -/
theorem DeviceAnswers.visitServices_eq_ok_iff {search : Search} {answers : DeviceAnswers}
    {outcome : Option UInt16} :
    answers.visitServices search = .ok outcome ↔ answers.ServicesVisit search outcome := by
  -- The loop over the services comes to what looking at them comes to.
  have searches {items : List ServiceAnswers} {found : Option UInt16} :
      items.findSomeM? (·.visit search) = .ok found ↔ Scan.Comes (·.Visit search) items found :=
    Scan.eq_ok_iff fun _ _ => ServiceAnswers.visit_eq_ok_iff
  constructor
  · intro visited
    obtain ⟨done, logged, visited⟩ := call_bind_eq_ok_iff.mp visited
    rw [logAddressType_eq_ok_iff] at logged
    -- The code listens for changes before it waits, so that it misses none.
    obtain ⟨done, listened, visited⟩ := call_bind_eq_ok_iff.mp visited
    obtain ⟨resolved, waited, visited⟩ := call_bind_eq_ok_iff.mp visited
    rw [resolve_eq_ok_iff] at waited
    cases resolved with
    | false =>
      -- Services that are not resolved in time are not looked at.
      cases visited
      exact .unresolved logged listened waited
    | true =>
      obtain ⟨services, listed, visited⟩ := call_bind_eq_ok_iff.mp visited
      exact .resolved logged listened waited listed (searches.mp visited)
  · intro visit
    cases visit with
    | unresolved logged listened unresolved =>
      have logged := logAddressType_eq_ok_iff.mpr logged
      have waited := resolve_eq_ok_iff.mpr unresolved
      simp [visitServices, logged, listened, waited]
    | resolved logged listened resolved listed visited =>
      have logged := logAddressType_eq_ok_iff.mpr logged
      have waited := resolve_eq_ok_iff.mpr resolved
      have found := searches.mpr visited
      simp [visitServices, logged, listened, waited, listed, found]

/-- What looking at a device comes to. -/
inductive DeviceAnswers.Visit (search : Search) (answers : DeviceAnswers) :
    Option UInt16 → Prop where
  | outOfReach (asked : answers.device = .ok ()) (addressed : answers.remoteAddress = .ok ())
      (outOfReach : answers.Reach false) : Visit search answers none
  /-- It does not provide the service. -/
  | otherServices {uuids : Option (List Uuid)} (asked : answers.device = .ok ())
      (addressed : answers.remoteAddress = .ok ()) (reached : answers.Reach true)
      (connects : Ensured answers.connected answers.connect)
      (logged : answers.StateLogged search) (answered : answers.uuids = .ok uuids)
      (other : search.svcUuid ∉ uuids.getD []) : Visit search answers none
  /-- It does, and the code looks at its services. -/
  | provides {uuids : Option (List Uuid)} {outcome : Option UInt16}
      (asked : answers.device = .ok ()) (addressed : answers.remoteAddress = .ok ())
      (reached : answers.Reach true) (connects : Ensured answers.connected answers.connect)
      (logged : answers.StateLogged search) (answered : answers.uuids = .ok uuids)
      (provides : search.svcUuid ∈ uuids.getD [])
      (visited : answers.ServicesVisit search outcome) : Visit search answers outcome

/-- The code looks at a device in just that way. -/
theorem DeviceAnswers.visit_eq_ok_iff {search : Search} {answers : DeviceAnswers}
    {outcome : Option UInt16} :
    answers.visit search = .ok outcome ↔ answers.Visit search outcome := by
  constructor
  · intro visited
    -- These calls are made for every device that is added.
    obtain ⟨done, asked, visited⟩ := call_bind_eq_ok_iff.mp visited
    obtain ⟨done, addressed, visited⟩ := call_bind_eq_ok_iff.mp visited
    obtain ⟨reached, reach, visited⟩ := call_bind_eq_ok_iff.mp visited
    rw [inReach_eq_ok_iff] at reach
    cases reached with
    | false =>
      -- A device that is out of reach is not connected to.
      cases visited
      exact .outOfReach asked addressed reach
    | true =>
      -- One in reach is connected to, and only then asked what it provides.
      obtain ⟨done, connects, visited⟩ := call_bind_eq_ok_iff.mp visited
      have connects := ensure_eq_ok_iff.mp connects
      obtain ⟨done, logged, visited⟩ := call_bind_eq_ok_iff.mp visited
      rw [logState_eq_ok_iff] at logged
      obtain ⟨uuids, answered, visited⟩ := call_bind_eq_ok_iff.mp visited
      by_cases provides : search.svcUuid ∈ uuids.getD []
      · simp only [provides, if_true] at visited
        exact .provides asked addressed reach connects logged answered provides
          (visitServices_eq_ok_iff.mp visited)
      · simp only [provides, if_false, pure_eq_ok_iff] at visited
        subst visited
        exact .otherServices asked addressed reach connects logged answered provides
  · intro visit
    -- Backwards, every call of the case succeeds with the answer it names.
    cases visit with
    | outOfReach asked addressed outOfReach =>
      have reach := inReach_eq_ok_iff.mpr outOfReach
      simp [DeviceAnswers.visit, asked, addressed, reach]
    | otherServices asked addressed reached connects logged answered other =>
      have reach := inReach_eq_ok_iff.mpr reached
      have connected : answers.ensureConnected = .ok () := ensure_eq_ok_iff.mpr connects
      have logged := logState_eq_ok_iff.mpr logged
      simp [DeviceAnswers.visit, asked, addressed, reach, connected, logged, answered, other]
    | provides asked addressed reached connects logged answered provides visited =>
      have reach := inReach_eq_ok_iff.mpr reached
      have connected : answers.ensureConnected = .ok () := ensure_eq_ok_iff.mpr connects
      have logged := logState_eq_ok_iff.mpr logged
      have found := visitServices_eq_ok_iff.mpr visited
      simp [DeviceAnswers.visit, asked, addressed, reach, connected, logged, answered, provides,
        found]

/-- What a turn of the loop comes to. -/
inductive AdapterEvent.Visit (search : Search) :
    AdapterEvent → Option (Address × UInt16) → Prop where
  /-- An added device does not have what is looked for. -/
  | passed {addr : Address} {answers : DeviceAnswers} (visited : answers.Visit search none) :
      Visit search (.deviceAdded addr answers) none
  /-- An added device has it. -/
  | found {addr : Address} {answers : DeviceAnswers} {psm : UInt16}
      (visited : answers.Visit search (some psm)) :
      Visit search (.deviceAdded addr answers) (some (addr, psm))
  | other : Visit search .other none

/-- The code handles an event in just that way. -/
theorem AdapterEvent.visit_eq_ok_iff {search : Search} {event : AdapterEvent}
    {outcome : Option (Address × UInt16)} :
    event.visit search = .ok outcome ↔ event.Visit search outcome := by
  constructor
  · intro visited
    cases event with
    | other =>
      cases visited
      exact .other
    | deviceAdded addr answers =>
      -- The address of the event is returned with the PSM that its device holds.
      obtain ⟨psm, found, visited⟩ := bind_eq_ok_iff.mp visited
      rw [DeviceAnswers.visit_eq_ok_iff] at found
      cases psm with
      | none =>
        cases visited
        exact .passed found
      | some psm =>
        cases visited
        exact .found found
  · intro visit
    cases visit with
    | other => rfl
    | passed visited | found visited =>
      have found := DeviceAnswers.visit_eq_ok_iff.mpr visited
      simp [AdapterEvent.visit, found]

/-- The search goes on behind the event, and no call it makes for it fails. -/
def AdapterEvent.PassedOver (search : Search) (event : AdapterEvent) : Prop :=
  event.Visit search none

/-- An event is passed over exactly when the loop goes on behind it. -/
theorem AdapterEvent.passes_iff {search : Search} {event : AdapterEvent} :
    Scan.Passes (AdapterEvent.visit search) event ↔ event.PassedOver search :=
  visit_eq_ok_iff

/-- The discovery can be started, and no other one is going on. -/
structure AdapterAnswers.Ready (search : Search) (adapter : AdapterAnswers) : Prop where
  logged : search.logInfo = true → adapter.loggedAddress = .ok ()
  filtered : adapter.setDiscoveryFilter = .ok ()
  idle : adapter.isDiscovering = .ok false
  discovers : adapter.discoverDevices = .ok ()

/-- The code starts the discovery in just that way. -/
theorem AdapterAnswers.startDiscovery_eq_ok_iff {search : Search} {adapter : AdapterAnswers} :
    adapter.startDiscovery search = .ok () ↔ adapter.Ready search := by
  constructor
  · intro started
    obtain ⟨done, logged, started⟩ := call_bind_eq_ok_iff.mp started
    obtain ⟨done, filtered, started⟩ := call_bind_eq_ok_iff.mp started
    obtain ⟨discovering, idle, started⟩ := call_bind_eq_ok_iff.mp started
    -- A discovery that is going on already fails the search.
    cases discovering with
    | true => cases started
    | false =>
      rw [if_neg (by simp), liftM_eq_ok_iff] at started
      refine ⟨fun logInfo => ?_, filtered, idle, started⟩
      rw [logAddress, if_pos logInfo] at logged
      exact logged
  · intro ready
    -- The address of the adapter is asked for only if it is to be logged.
    have logged : adapter.logAddress search.logInfo = .ok () := by
      by_cases logInfo : search.logInfo = true
      · rw [logAddress, if_pos logInfo]
        exact ready.logged logInfo
      · rw [logAddress, if_neg logInfo]
    simp [startDiscovery, logged, ready.filtered, ready.idle, ready.discovers]

/-- What the search returns in the end. -/
def concluded : Option (Address × UInt16) → Except FindError (Address × UInt16)
  | some found => .ok found
  | none => .error .notFound

/-- Once the discovery is started, the search is the loop over its events. -/
theorem findDeviceAndPsm_of_ready {adapter : AdapterAnswers} {search : Search}
    (ready : adapter.Ready search) (events : List AdapterEvent) :
    findDeviceAndPsm adapter search events =
      (events.findSomeM? (AdapterEvent.visit search)).bind concluded := by
  have started := AdapterAnswers.startDiscovery_eq_ok_iff.mpr ready
  simp only [findDeviceAndPsm, started]
  -- The loop fails, finds a device or runs out of events.
  cases events.findSomeM? (AdapterEvent.visit search) with
  | error error => rfl
  | ok found => cases found <;> rfl

/-- The search finds a device exactly when the loop does, once the discovery is started. -/
theorem findDeviceAndPsm_eq_ok_iff {adapter : AdapterAnswers} {search : Search}
    {events : List AdapterEvent} {found : Address × UInt16} :
    findDeviceAndPsm adapter search events = .ok found ↔
      adapter.Ready search ∧ events.findSomeM? (AdapterEvent.visit search) = .ok (some found) := by
  constructor
  · intro returned
    -- The discovery is started before the first event is looked at.
    obtain ⟨done, started, _⟩ := bind_eq_ok_iff.mp returned
    have ready := AdapterAnswers.startDiscovery_eq_ok_iff.mp started
    rw [findDeviceAndPsm_of_ready ready] at returned
    obtain ⟨result, loop, concludes⟩ := bind_eq_ok_iff.mp returned
    -- A loop that ends without a device makes the search fail.
    cases result with
    | none => cases concludes
    | some result =>
      cases concludes
      exact ⟨ready, loop⟩
  · intro found
    obtain ⟨ready, loop⟩ := found
    rw [findDeviceAndPsm_of_ready ready, loop]
    rfl

end BleManaged
