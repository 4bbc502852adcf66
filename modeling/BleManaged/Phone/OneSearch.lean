import BleManaged.Lib.Slots
import BleManaged.Phone.Steps

/-! How many searches for the machine go on at a time. -/

namespace BleManaged

/-- The attempt has come past the connection and is not over. -/
def Attempt.PastConnection (attempt : Attempt) : Prop :=
  attempt.phase ≠ .connecting ∧ attempt.phase ≠ .finished

/-- The attempt is not over. -/
def Attempt.Pending (attempt : Attempt) : Prop := attempt.phase ≠ .finished

/-- The phases in which the subscription of an attempt is paused. -/
def AttemptPhase.BeforeMatch : AttemptPhase → Prop
  | .connecting | .reading _ | .disconnecting .resume => True
  | _ => False

namespace Phone

/-- At most one subscription is not cancelled, and at most one attempt is past the connection. -/
def SingleSearch (phone : Phone) : Prop :=
  Slots.AtMostOne phone.searches (· ≠ .cancelled) ∧
    Slots.AtMostOne phone.attempts Attempt.PastConnection

/-- Every subscription is cancelled, and every attempt is over. -/
def AtRest (phone : Phone) : Prop :=
  (∀ subscription ∈ phone.searches, subscription = .cancelled) ∧
    ∀ attempt ∈ phone.attempts, attempt.phase = .finished

/-- Nothing is thrown while the subscription of an attempt is only paused, and a start calls
`manageMachine` only while nothing else goes on. -/
def InOrder (phone : Phone) : Label → Prop
  | .connected _ result => ∃ services, result = .ok services
  | .nameRead _ result => ∃ periphName, readName result = some periphName
  | .disconnected index (.error _) =>
    ∀ attempt, phone.attempts[index]? = some attempt → attempt.phase ≠ .disconnecting .resume
  | .centralState _ true => phone.AtRest
  | _ => True

/-- What goes on: a search that listens, or an attempt. -/
inductive Chain where
  | searching (search : Nat)
  | trying (attempt : Nat)

/-- Nothing else goes on than the search or the attempt. -/
structure OneChain (phone : Phone) (chain : Chain) : Prop where
  /-- A subscription that is not cancelled listens by itself or is paused by the attempt. -/
  searches : ∀ search subscription, phone.searches[search]? = some subscription →
    subscription ≠ .cancelled →
      (chain = .searching search ∧ subscription = .listening) ∨
        ∃ index attempt, chain = .trying index ∧ phone.attempts[index]? = some attempt ∧
          attempt.search = search ∧ attempt.phase.BeforeMatch ∧ subscription = .paused
  /-- An attempt that is not over is the one. -/
  attempts : ∀ index attempt, phone.attempts[index]? = some attempt → attempt.Pending →
    chain = .trying index

/-- What a step does to the searches and the attempts, whether or not it is in order. -/
inductive Change (phone : Phone) (label : Label) (next : Phone) : Prop where
  | quiet (searches : next.searches = phone.searches) (attempts : next.attempts = phone.attempts)
  /-- A start begins a search. -/
  | begun (rest : phone.InOrder label → phone.AtRest)
      (searches : next.searches = phone.searches ++ [.listening])
      (attempts : next.attempts = phone.attempts)
  /-- A search begins an attempt. -/
  | tried {search periph} (listening : phone.searches[search]? = some .listening)
      (searches : next.searches = phone.searches.set search .paused)
      (attempts : next.attempts = phone.attempts ++ [⟨search, periph, .connecting⟩])
  /-- An attempt goes on and leaves its subscription as it is. -/
  | moved {index attempt phase} (trying : phone.attempts[index]? = some attempt)
      (pending : attempt.Pending) (stays : attempt.phase.BeforeMatch ↔ phase.BeforeMatch)
      (searches : next.searches = phone.searches)
      (attempts : next.attempts =
        phone.attempts.modify index fun attempt => { attempt with phase := phase })
  /-- An attempt has found the machine, and cancels its subscription. -/
  | matched {index attempt phase} (trying : phone.attempts[index]? = some attempt)
      (pending : attempt.Pending) (found : ¬phase.BeforeMatch)
      (searches : next.searches = phone.searches.set attempt.search .cancelled)
      (attempts : next.attempts =
        phone.attempts.modify index fun attempt => { attempt with phase := phase })
  /-- An attempt has not found the machine, and resumes its subscription. -/
  | resumed {index attempt} (trying : phone.attempts[index]? = some attempt)
      (pending : attempt.Pending) (before : attempt.phase.BeforeMatch)
      (searches : next.searches = phone.searches.set attempt.search .listening)
      (attempts : next.attempts =
        phone.attempts.modify index fun attempt => { attempt with phase := .finished })
  /-- An attempt is over and begins another search, whatever became of its subscription. -/
  | restarted {index attempt} (trying : phone.attempts[index]? = some attempt)
      (pending : attempt.Pending) (matched : phone.InOrder label → ¬attempt.phase.BeforeMatch)
      (searches : next.searches = phone.searches ++ [.listening])
      (attempts : next.attempts =
        phone.attempts.modify index fun attempt => { attempt with phase := .finished })

/-- The starts do nothing else than to begin a search. -/
theorem StartStep.change {phone next : Phone} {label : Label} {events : List PhoneEvent}
    (step : StartStep phone label next events) : Change phone label next := by
  -- A start touches the searches when its adapter is powered on, and at no other time.
  cases step with
  | poweredOn => exact .begun id rfl rfl
  | answered | requested | refused | centralCreated | centralFailed | notPowered | peripheral
  | peripheralWaits | channelArrived | disconnectReported => exact .quiet rfl rfl

/-- An attempt goes on in another phase, on the same side of the match. -/
theorem Change.setPhase {phone : Phone} {label : Label} {index : Nat} {attempt : Attempt}
    (phase : AttemptPhase) (trying : phone.attempts[index]? = some attempt)
    (pending : attempt.Pending) (stays : attempt.phase.BeforeMatch ↔ phase.BeforeMatch) :
    Change phone label (phone.setPhase index phase) :=
  .moved trying pending stays rfl rfl

/-- The error handler begins another search. -/
theorem Change.catchError {phone : Phone} {label : Label} {index : Nat} {attempt : Attempt}
    (trying : phone.attempts[index]? = some attempt) (pending : attempt.Pending)
    (matched : phone.InOrder label → ¬attempt.phase.BeforeMatch) :
    Change phone label (phone.catchError index).1 :=
  .restarted trying pending matched rfl rfl

/-- What becomes of an attempt that is connected. -/
theorem connected_change {phone : Phone} {label : Label} {index search : Nat} {periph : String}
    (services : List BleService)
    (trying : phone.attempts[index]? = some ⟨search, periph, .connecting⟩) :
    Change phone label (phone.connected index services).1 := by
  -- The three ways on differ in what the device serves, and none of them is behind the match.
  have pending : Attempt.Pending ⟨search, periph, .connecting⟩ := by simp [Attempt.Pending]
  simp only [connected]
  split
  · exact .setPhase (.disconnecting .resume) trying pending (iff_of_true trivial trivial)
  · rename_i viamSvc _
    split
    · exact .setPhase (.disconnecting .resume) trying pending (iff_of_true trivial trivial)
    · exact .setPhase (.reading viamSvc) trying pending (iff_of_true trivial trivial)

/-- What becomes of an attempt that has read a name. -/
theorem nameRead_change {mobileDevice machineToManage : String} {phone : Phone} {label : Label}
    {index search : Nat} {periph : String} {viamSvc : BleService} (periphName : String)
    (trying : phone.attempts[index]? = some ⟨search, periph, .reading viamSvc⟩) :
    Change phone label
      (nameRead mobileDevice machineToManage phone index search viamSvc periphName).1 := by
  -- The subscription is cancelled only for the machine that is looked for.
  have pending : Attempt.Pending ⟨search, periph, .reading viamSvc⟩ := by simp [Attempt.Pending]
  simp only [nameRead]
  split
  · exact .setPhase (.disconnecting .resume) trying pending (iff_of_true trivial trivial)
  · -- The machine has been found, with or without the characteristic to write to.
    split
    · exact .matched trying pending id rfl rfl
    · exact .matched trying pending id rfl rfl

/-- What becomes of an attempt that has disconnected. -/
theorem disconnected_change {phone : Phone} {label : Label} {index search : Nat} {periph : String}
    {after : AfterDisconnect}
    (trying : phone.attempts[index]? = some ⟨search, periph, .disconnecting after⟩) :
    Change phone label (phone.disconnected index search after).1 := by
  have pending : Attempt.Pending ⟨search, periph, .disconnecting after⟩ := by
    simp [Attempt.Pending]
  -- Before the match the subscription is resumed, and behind it there is none to resume.
  cases after with
  | resume => exact .resumed trying pending trivial rfl rfl
  | restart => exact .restarted trying pending (fun _ => id) rfl rfl

/-- The searches and attempts do nothing else. -/
theorem AttemptStep.change {mobileDevice machineToManage : String} {phone next : Phone}
    {label : Label} {events : List PhoneEvent}
    (step : AttemptStep mobileDevice machineToManage phone label next events) :
    Change phone label next := by
  -- The cases follow the awaits of one attempt.
  cases step with
  | skipped | scanError | notBridged => exact .quiet rfl rfl
  | tried listening => exact .tried listening rfl rfl
  | connected trying => exact connected_change _ trying
  | connectFailed trying =>
    -- Nothing is thrown here in order, since the subscription would be left paused.
    refine .catchError trying (by simp [Attempt.Pending]) fun inOrder => ?_
    obtain ⟨services, same⟩ := inOrder
    cases same
  | nameRead trying => exact nameRead_change _ trying
  | nameUnread trying unread =>
    refine .catchError trying (by simp [Attempt.Pending]) fun inOrder => ?_
    obtain ⟨periphName, read⟩ := inOrder
    rw [unread] at read
    cases read
  | delayed trying | notWritten trying =>
    exact .setPhase (.disconnecting .restart) trying (by simp [Attempt.Pending])
      (iff_of_false id id)
  | disconnected trying => exact disconnected_change trying
  | @disconnectFailed _ _ _ after _ trying =>
    refine .catchError trying (by simp [Attempt.Pending]) fun inOrder => ?_
    -- In order only the disconnect before a restart may fail.
    have restarts := inOrder _ trying
    cases after with
    | resume => exact absurd rfl restarts
    | restart => exact id
  | written trying =>
    exact .setPhase .waiting trying (by simp [Attempt.Pending]) (iff_of_false id id)
  | bridged trying =>
    exact .setPhase .finished trying (by simp [Attempt.Pending]) (iff_of_false id id)
  | timedOut trying => exact .catchError trying (by simp [Attempt.Pending]) fun _ => id

/-- The phone takes no step that does anything else. -/
theorem change_of_step {mobileDevice machineToManage : String} {phone next : Phone} {label : Label}
    {events : List PhoneEvent}
    (taken : step mobileDevice machineToManage phone label = some (next, events)) :
    Change phone label next := by
  -- A start begins searches only, and an attempt touches its own search only.
  rcases step_cases taken with start | attempt
  · exact start.change
  · exact attempt.change

/-- While an attempt is pending, a subscription that is not cancelled is the one that it has
paused. -/
theorem OneChain.paused_by {phone : Phone} {chain : Chain} (one : phone.OneChain chain)
    {index : Nat} {attempt : Attempt} (trying : phone.attempts[index]? = some attempt)
    (pending : attempt.Pending) {search : Nat} {subscription : Subscription}
    (held : phone.searches[search]? = some subscription) (uncancelled : subscription ≠ .cancelled) :
    attempt.search = search ∧ attempt.phase.BeforeMatch ∧ subscription = .paused := by
  -- The attempt is the chain, so no search listens beside it.
  have chained := one.attempts index attempt trying pending
  rcases one.searches search subscription held uncancelled with
    ⟨searching, _⟩ | ⟨other, another, tried, found, same⟩
  · rw [chained] at searching
    cases searching
  · rw [chained] at tried
    cases tried
    rw [trying] at found
    cases found
    exact same

/-- While a search listens, it is the chain. -/
theorem OneChain.listens {phone : Phone} {chain : Chain} (one : phone.OneChain chain) {search : Nat}
    (listening : phone.searches[search]? = some .listening) : chain = .searching search := by
  -- An attempt holds its subscription paused, so it cannot be the chain.
  rcases one.searches search .listening listening (by simp) with
    ⟨searching, _⟩ | ⟨_, _, _, _, _, _, paused⟩
  · exact searching
  · cases paused

/-- A new search is the only one if every other subscription is cancelled. -/
theorem OneChain.of_new {phone next : Phone}
    (cancelled : ∀ (search : Nat) (subscription : Subscription),
      phone.searches[search]? = some subscription → subscription = .cancelled)
    (ended : ∀ (index : Nat) (attempt : Attempt),
      next.attempts[index]? = some attempt → ¬attempt.Pending)
    (searches : next.searches = phone.searches ++ [.listening]) :
    next.OneChain (.searching phone.searches.length) := by
  constructor
  · intro search subscription held uncancelled
    rw [searches] at held
    -- A subscription that is not cancelled can only be the new one.
    rcases Slots.of_push held with ⟨rfl, rfl⟩ | held
    · exact .inl ⟨rfl, rfl⟩
    · exact absurd (cancelled search subscription held) uncancelled
  · intro index attempt held pending
    exact absurd pending (ended index attempt held)

/-- Behind the end of the attempt of the chain no attempt is pending. -/
theorem OneChain.none_pending {phone : Phone} {chain : Chain} (one : phone.OneChain chain)
    {index : Nat} {attempt : Attempt} (trying : phone.attempts[index]? = some attempt)
    (pending : attempt.Pending) {other : Nat} {another : Attempt}
    (held : (phone.attempts.modify index fun attempt =>
      { attempt with phase := .finished })[other]? = some another) : ¬another.Pending := by
  intro goes
  -- Any other attempt that is pending would be a second chain.
  rcases Slots.of_modify held with ⟨_, before, _, rfl⟩ | ⟨different, held⟩
  · exact goes rfl
  · have chained := one.attempts index attempt trying pending
    rw [one.attempts other another held goes] at chained
    cases chained
    exact different rfl

/-- While the attempt of the chain goes on it stays the only one that is pending. -/
theorem OneChain.stays {phone : Phone} {chain : Chain} (one : phone.OneChain chain)
    {index : Nat} {attempt : Attempt} (trying : phone.attempts[index]? = some attempt)
    (pending : attempt.Pending) {phase : AttemptPhase} {other : Nat} {another : Attempt}
    (held : (phone.attempts.modify index fun attempt =>
      { attempt with phase := phase })[other]? = some another) (goes : another.Pending) :
    Chain.trying index = .trying other := by
  -- Going on in another phase does not make another attempt pending.
  rcases Slots.of_modify held with ⟨same, _⟩ | ⟨_, held⟩
  · rw [same]
  · exact (one.attempts index attempt trying pending).symm.trans
      (one.attempts other another held goes)

/-- Every step in order leaves one chain. -/
theorem Change.oneChain {phone next : Phone} {label : Label} {chain : Chain}
    (change : Change phone label next) (inOrder : phone.InOrder label)
    (one : phone.OneChain chain) : ∃ chain, next.OneChain chain := by
  cases change with
  | quiet searches attempts =>
    refine ⟨chain, ?_, ?_⟩
    · rw [searches, attempts]
      exact one.searches
    · rw [attempts]
      exact one.attempts
  | begun rest searches attempts =>
    -- In order a start begins its search at rest, so the new search is alone.
    refine ⟨_, .of_new (fun search subscription held => ?_) (fun index attempt held goes => ?_)
      searches⟩
    · exact (rest inOrder).1 subscription (List.mem_of_getElem? held)
    · rw [attempts] at held
      exact goes ((rest inOrder).2 attempt (List.mem_of_getElem? held))
  | @tried search periph listening searches attempts =>
    -- The search that listens is the chain, so nothing else goes on.
    have chained := one.listens listening
    refine ⟨.trying phone.attempts.length, ?_, ?_⟩
    · intro other subscription held uncancelled
      rw [searches] at held
      rcases Slots.of_set held with ⟨rfl, rfl⟩ | ⟨different, held⟩
      · refine .inr ⟨_, ⟨other, periph, .connecting⟩, rfl, ?_, rfl, trivial, rfl⟩
        rw [attempts]
        simp
      · exfalso
        rcases one.searches other _ held uncancelled with ⟨searching, _⟩ | ⟨_, _, tried, _⟩
        · rw [chained] at searching
          cases searching
          exact different rfl
        · rw [chained] at tried
          cases tried
    · intro index attempt held pending
      rw [attempts] at held
      rcases Slots.of_push held with ⟨rfl, rfl⟩ | held
      · rfl
      · have tried := one.attempts index attempt held pending
        rw [chained] at tried
        cases tried
  | @moved index attempt phase trying pending stays searches attempts =>
    refine ⟨.trying index, ?_, ?_⟩
    · intro search subscription held uncancelled
      rw [searches] at held
      -- The subscription is the one of the attempt, which is still before the match.
      obtain ⟨same, before, paused⟩ := one.paused_by trying pending held uncancelled
      refine .inr ⟨index, { attempt with phase := phase }, rfl, ?_, same, stays.mp before, paused⟩
      rw [attempts, List.getElem?_modify, trying]
      simp
    · intro other another held goes
      rw [attempts] at held
      exact one.stays trying pending held goes
  | @matched index attempt phase trying pending _ searches attempts =>
    refine ⟨.trying index, ?_, ?_⟩
    · intro search subscription held uncancelled
      rw [searches] at held
      exfalso
      rcases Slots.of_set held with ⟨_, rfl⟩ | ⟨different, held⟩
      · exact uncancelled rfl
      · exact different (one.paused_by trying pending held uncancelled).1.symm
    · intro other another held goes
      rw [attempts] at held
      exact one.stays trying pending held goes
  | @resumed index attempt trying pending _ searches attempts =>
    -- The search takes over from its attempt.
    refine ⟨.searching attempt.search, ?_, ?_⟩
    · intro search subscription held uncancelled
      rw [searches] at held
      rcases Slots.of_set held with ⟨rfl, rfl⟩ | ⟨different, held⟩
      · exact .inl ⟨rfl, rfl⟩
      · exact absurd (one.paused_by trying pending held uncancelled).1.symm different
    · intro other another held goes
      rw [attempts] at held
      exact absurd goes (one.none_pending trying pending held)
  | @restarted index attempt trying pending matched searches attempts =>
    refine ⟨_, .of_new (fun search subscription held => ?_) (fun other another held => ?_)
      searches⟩
    · -- In order the attempt is behind its match, so its subscription is cancelled.
      by_contra uncancelled
      exact matched inOrder (one.paused_by trying pending held uncancelled).2.1
    · rw [attempts] at held
      exact one.none_pending trying pending held

/-- In one chain there is at most one search and at most one attempt past the connection. -/
theorem OneChain.single {phone : Phone} {chain : Chain} (one : phone.OneChain chain) :
    phone.SingleSearch := by
  constructor
  · intro search other subscription another held found uncancelled uncancelled'
    -- Two subscriptions that are not cancelled belong to the same chain.
    rcases one.searches search subscription held uncancelled with
      ⟨searching, _⟩ | ⟨index, attempt, trying, has, same, _⟩
    · rcases one.searches other another found uncancelled' with
        ⟨searching', _⟩ | ⟨_, _, trying', _⟩
      · rw [searching] at searching'
        cases searching'
        rfl
      · rw [searching] at trying'
        cases trying'
    · rcases one.searches other another found uncancelled' with
        ⟨searching', _⟩ | ⟨_, _, trying', has', same', _⟩
      · rw [trying] at searching'
        cases searching'
      · rw [trying] at trying'
        cases trying'
        rw [has] at has'
        cases has'
        exact same.symm.trans same'
  · intro index other attempt another held found past past'
    -- An attempt past the connection is pending, and so it is the chain.
    have trying := one.attempts index attempt held past.2
    rw [one.attempts other another found past'.2] at trying
    cases trying
    rfl

/-- At the start nothing goes on. -/
theorem machine_oneChain (mobileDevice machineToManage : String) :
    (machine mobileDevice machineToManage).init.OneChain (.searching 0) := by
  -- There are neither searches nor attempts before the first start comes to its central.
  constructor
  · intro search subscription held
    cases held
  · intro index attempt held
    cases held

/-- If every step is in order, there is at most one search for the machine at a time. -/
theorem singleSearch_of_inOrder {mobileDevice machineToManage : String} {labels : List Label}
    (inOrder : (machine mobileDevice machineToManage).EachStep InOrder labels) :
    (machine mobileDevice machineToManage).EachState SingleSearch labels := by
  -- Every state that is passed through is the end of a run in order, which leaves one chain.
  intro before after split seen phone reached
  subst split
  have one : ∃ chain, phone.OneChain chain := by
    refine reached.invariant_where inOrder.left (fun _ phone => ∃ chain, phone.OneChain chain)
      ⟨_, machine_oneChain mobileDevice machineToManage⟩ ?_
    intro labels seen prior label next out _ inOrder one taken
    obtain ⟨chain, one⟩ := one
    exact (change_of_step taken).oneChain inOrder one
  obtain ⟨chain, one⟩ := one
  exact one.single

/-- A start that comes to its call of `manageMachine`. -/
def examplePowerOn : List Label :=
  [.permission 0 (.ok ()), .permission 0 (.ok ()), .permission 0 (.ok ()),
    .centralCreated 0 (.ok ()), .centralState 0 true]

/-- The services of a machine. -/
def exampleServices : List BleService :=
  [⟨viamSvcUUID, [viamManagedMachineNameCharUUID, viamSocksProxyNameCharUUID]⟩]

/-- Another machine is left alone, then the right one is found and does not answer in time. -/
def exampleAttempts : List Label :=
  [.found 0 "a" 0, .connected 0 (.ok exampleServices), .nameRead 0 (.ok (some [110])),
    .disconnected 0 (.ok ()), .found 0 "b" 1000, .connected 1 (.ok exampleServices),
    .nameRead 1 (.ok (some [109])), .nameWritten 1 (.ok ()), .polled 1, .timedOut 1]

/-- Over these attempts there is at most one search at a time, and then there are two of them. -/
theorem singleSearch_of_inOrder_two_attempts :
    (∃ seen phone, (machine "p" "m").Run (examplePowerOn ++ exampleAttempts) seen phone ∧
      phone.searches = [.cancelled, .listening]) ∧
      (machine "p" "m").EachState SingleSearch (examplePowerOn ++ exampleAttempts) := by
  -- The power comes on at rest, and then nothing is thrown before a match.
  have prepared : (machine "p" "m").EachStep InOrder (examplePowerOn.take 4) :=
    .of_labels (by simp [examplePowerOn, InOrder])
  have before : (machine "p" "m").Run (examplePowerOn.take 4) [] _ := Lts.Run.of_exec rfl
  have powered : (machine "p" "m").EachStep InOrder examplePowerOn :=
    prepared.snoc before ⟨fun _ member => (nomatch member), fun _ member => (nomatch member)⟩
  refine ⟨⟨_, _, Lts.Run.of_exec rfl, by decide +kernel⟩,
    singleSearch_of_inOrder (powered.append ?_)⟩
  intro label member phone
  simp only [exampleAttempts, List.mem_cons, List.not_mem_nil, or_false] at member
  rcases member with rfl | rfl | rfl | rfl | rfl | rfl | rfl | rfl | rfl | rfl
  · exact trivial
  · exact ⟨exampleServices, rfl⟩
  · exact ⟨"n", by decide +kernel⟩
  · exact trivial
  · exact trivial
  · exact ⟨exampleServices, rfl⟩
  · exact ⟨"m", by decide +kernel⟩
  · exact trivial
  · exact trivial
  · exact trivial

/-- A connection that is not made leaves a paused subscription beside a new one. -/
theorem two_searches :
    ¬∀ (mobileDevice machineToManage : String) (labels : List Label) (seen : List PhoneEvent)
      (phone : Phone), (machine mobileDevice machineToManage).Run labels seen phone →
        phone.SingleSearch := by
  intro single
  have run : (machine "p" "m").Run
      (examplePowerOn ++ [.found 0 "a" 0, .connected 0 (.error "GATT error 133")]) _ _ :=
    Lts.Run.of_exec rfl
  -- The paused subscription 0 is never cancelled, and the handler begins search 1.
  have both := (single _ _ _ _ _ run).1 0 1 .paused .listening rfl rfl (by decide) (by decide)
  cases both

end Phone

end BleManaged
