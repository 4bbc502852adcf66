import BleManaged.Phone.Searches

/-! The phone goes on looking for the machine until it has told it its name. -/

namespace BleManaged

/-- The attempt goes on, and has not written the name yet. -/
def AttemptPhase.tries : AttemptPhase → Bool
  | .waiting | .finished => false
  | _ => true

/-- The attempt waits for the machine. -/
def AttemptPhase.waits : AttemptPhase → Bool
  | .waiting => true
  | _ => false

/-- The name has been written in an attempt. -/
def PhoneEvent.isWritten : PhoneEvent → Bool
  | .written _ => true
  | _ => false

/-- The time of an attempt is up. -/
def PhoneEvent.isTimedOut : PhoneEvent → Bool
  | .timedOut _ => true
  | _ => false

namespace Phone

/-- How many searches listen. -/
def listening (phone : Phone) : Nat := phone.searches.countP (· = .listening)

/-- How many attempts are in phases of a kind. -/
def attemptsIn (phone : Phone) (kind : AttemptPhase → Bool) : Nat :=
  phone.attempts.countP fun attempt => kind attempt.phase

/-- How many attempts go on that have not written the name yet. -/
def trying (phone : Phone) : Nat := phone.attemptsIn AttemptPhase.tries

/-- How many attempts wait for the machine. -/
def waiting (phone : Phone) : Nat := phone.attemptsIn AttemptPhase.waits

/-- How many times the name has been written. -/
def namesWritten (seen : List PhoneEvent) : Nat := seen.countP PhoneEvent.isWritten

/-- How many times the time of an attempt was up. -/
def timeouts (seen : List PhoneEvent) : Nat := seen.countP PhoneEvent.isTimedOut

/-- A start comes to its search. -/
def Label.begins : Label → Bool
  | .centralState _ true => true
  | _ => false

/-- What a step adds to one side of the account it adds to the other, and for every time that is up
an attempt has waited. -/
structure Balanced (phone : Phone) (label : Label) (next : Phone) (out : List PhoneEvent) :
    Prop where
  looking : next.listening + next.trying + namesWritten out =
    phone.listening + phone.trying + label.begins.toNat + timeouts out
  waited : timeouts out + next.waiting ≤ phone.waiting + namesWritten out

variable {mobileDevice machineToManage : String} {phone next : Phone} {label : Label}
  {out : List PhoneEvent} {index search : Nat} {attempt : Attempt}

/-- Names that are written later are counted on. -/
theorem namesWritten_append (seen out : List PhoneEvent) :
    namesWritten (seen ++ out) = namesWritten seen + namesWritten out := List.countP_append

/-- Times that are up later are counted on. -/
theorem timeouts_append (seen out : List PhoneEvent) :
    timeouts (seen ++ out) = timeouts seen + timeouts out := List.countP_append

/-- How many attempts are in phases of a kind after one of them has gone on. -/
theorem attemptsIn_setPhase (trying : phone.attempts[index]? = some attempt)
    (phase : AttemptPhase) (kind : AttemptPhase → Bool) :
    (phone.setPhase index phase).attemptsIn kind + (kind attempt.phase).toNat =
      phone.attemptsIn kind + (kind phase).toNat := by
  -- One entry of the list is replaced, and the others are counted as before.
  simp only [attemptsIn, setPhase]
  rw [Slots.modify_eq_set trying]
  exact Slots.countP_set trying fun attempt => kind attempt.phase

/-- How many searches listen after the subscription of one of them has changed. -/
theorem listening_setSearch {before : Subscription}
    (held : phone.searches[search]? = some before) (after : Subscription) :
    (phone.setSearch search after).listening + (decide (before = .listening)).toNat =
      phone.listening + (decide (after = .listening)).toNat :=
  Slots.countP_set held _

/-- The counts of the phone with an attempt in another phase. -/
theorem counts_setPhase (trying : phone.attempts[index]? = some attempt) (phase : AttemptPhase) :
    (phone.setPhase index phase).listening = phone.listening ∧
      (phone.setPhase index phase).trying + attempt.phase.tries.toNat =
        phone.trying + phase.tries.toNat ∧
      (phone.setPhase index phase).waiting + attempt.phase.waits.toNat =
        phone.waiting + phase.waits.toNat :=
  ⟨rfl, attemptsIn_setPhase trying phase _, attemptsIn_setPhase trying phase _⟩

/-- The counts of the phone with one more search, and what is seen of it. -/
theorem counts_manageMachine :
    phone.manageMachine.1.listening = phone.listening + 1 ∧
      phone.manageMachine.1.trying = phone.trying ∧
        phone.manageMachine.1.waiting = phone.waiting ∧
          namesWritten phone.manageMachine.2 = 0 ∧ timeouts phone.manageMachine.2 = 0 :=
  ⟨by simp [listening, manageMachine], rfl, rfl, rfl, rfl⟩

/-- A step that changes neither searches nor attempts is balanced. -/
theorem Balanced.quiet (searches : next.searches = phone.searches)
    (attempts : next.attempts = phone.attempts) (begins : label.begins = false)
    (quiet : ∀ event ∈ out, event.isWritten = false ∧ event.isTimedOut = false) :
    Balanced phone label next out := by
  -- Nothing is counted among these events, and nothing that is counted has changed.
  have written : namesWritten out = 0 :=
    List.countP_eq_zero.mpr fun event member => by simp [(quiet event member).1]
  have late : timeouts out = 0 :=
    List.countP_eq_zero.mpr fun event member => by simp [(quiet event member).2]
  refine ⟨?_, ?_⟩
  · rw [listening, trying, attemptsIn, searches, attempts, written, late, begins]
    rfl
  · rw [waiting, attemptsIn, attempts, written, late]
    simp [waiting, attemptsIn]

/-- A start adds a search when it begins one. -/
theorem StartStep.balanced (step : StartStep phone label next out) :
    Balanced phone label next out := by
  -- Only the adapter that is powered on begins a search.
  cases step with
  | @poweredOn index peripheral =>
    obtain ⟨listens, tries, waits, written, late⟩ :=
      (phone.setStart index (.requested .over peripheral)).counts_manageMachine
    refine ⟨?_, ?_⟩
    · rw [listens, tries, written, late]
      exact Nat.add_right_comm _ 1 _
    · rw [waits, written, late]
      exact Nat.le_of_eq (Nat.zero_add _)
  | peripheral started moves => exact .quiet rfl rfl (by cases moves <;> rfl) (by simp)
  | answered | requested | refused | centralCreated | centralFailed | notPowered
  | peripheralWaits => exact .quiet rfl rfl rfl (by simp)
  | channelArrived | disconnectReported =>
    exact .quiet rfl rfl rfl (by simp [PhoneEvent.isWritten, PhoneEvent.isTimedOut])

/-- An attempt that goes on in another phase is balanced if what is seen of it is. -/
theorem Balanced.setPhase (trying : phone.attempts[index]? = some attempt) (phase : AttemptPhase)
    (begins : label.begins = false)
    (looks : phase.tries.toNat + namesWritten out = attempt.phase.tries.toNat + timeouts out)
    (waits : timeouts out + phase.waits.toNat ≤ attempt.phase.waits.toNat + namesWritten out) :
    Balanced phone label (phone.setPhase index phase) out := by
  -- The phase is one summand of the counts, before and after.
  obtain ⟨listens, tries, held⟩ := counts_setPhase trying phase
  refine ⟨?_, by omega⟩
  rw [listens, begins]
  simp only [Bool.toNat_false]
  omega

/-- An attempt that ends and begins another search is balanced if its time was up or it had not
written the name. -/
theorem Balanced.catchError (trying : phone.attempts[index]? = some attempt)
    (begins : label.begins = false) (first : List PhoneEvent)
    (looks : 1 + namesWritten first = attempt.phase.tries.toNat + timeouts first)
    (waits : timeouts first ≤ attempt.phase.waits.toNat + namesWritten first) :
    Balanced phone label (phone.catchError index).1 (first ++ (phone.catchError index).2) := by
  -- The new search takes the place of the attempt.
  obtain ⟨listens, tries, held⟩ := counts_setPhase trying .finished
  obtain ⟨more, same, still, written, late⟩ := (phone.setPhase index .finished).counts_manageMachine
  have finished : AttemptPhase.finished.tries.toNat = 0 ∧ AttemptPhase.finished.waits.toNat = 0 :=
    ⟨rfl, rfl⟩
  refine ⟨?_, ?_⟩
  · rw [namesWritten_append, timeouts_append, begins, Phone.catchError, more, same, written, late]
    simp only [Bool.toNat_false]
    omega
  · rw [namesWritten_append, timeouts_append, Phone.catchError, still, written, late]
    omega

/-- An attempt that is connected goes on, whatever it finds. -/
theorem connected_balanced {services : List BleService}
    (trying : phone.attempts[index]? = some attempt) (phase : attempt.phase = .connecting) :
    Balanced phone (.connected index (.ok services)) (phone.connected index services).1
      (.connected index :: (phone.connected index services).2) := by
  -- In each case the attempt goes on without having written the name.
  simp only [connected]
  split
  · exact .setPhase trying _ rfl (by rw [phase]; rfl) (by rw [phase]; exact Nat.le_refl _)
  · split
    · exact .setPhase trying _ rfl (by rw [phase]; rfl) (by rw [phase]; exact Nat.le_refl _)
    · exact .setPhase trying _ rfl (by rw [phase]; rfl) (by rw [phase]; exact Nat.le_refl _)

/-- What is balanced from a phone is so from one with the same counts. -/
theorem Balanced.of_same {other : Phone} (balanced : Balanced other label next out)
    (listens : other.listening = phone.listening) (attempts : other.attempts = phone.attempts) :
    Balanced phone label next out := by
  -- The counts look at the subscriptions and the phases only.
  have tries : other.trying = phone.trying := by rw [trying, attemptsIn, attempts]; rfl
  have waits : other.waiting = phone.waiting := by rw [waiting, attemptsIn, attempts]; rfl
  obtain ⟨looking, waited⟩ := balanced
  rw [listens, tries] at looking
  rw [waits] at waited
  exact ⟨looking, waited⟩

/-- An attempt that has read a name goes on, and cancels only a subscription that is paused. -/
theorem nameRead_balanced {viamSvc : BleService} {result : Except String (Option (List UInt8))}
    (periphName : String) (trying : phone.attempts[index]? = some attempt)
    (phase : attempt.phase = .reading viamSvc)
    (paused : phone.searches[search]? = some .paused) :
    Balanced phone (.nameRead index result)
      (nameRead mobileDevice machineToManage phone index search viamSvc periphName).1
      (nameRead mobileDevice machineToManage phone index search viamSvc periphName).2 := by
  -- The subscription that is cancelled was paused, so no search stops listening.
  have same := listening_setSearch paused .cancelled
  have found : (phone.setSearch search .cancelled).attempts[index]? = some attempt := trying
  simp only [nameRead]
  split
  · exact .setPhase trying _ rfl (by rw [phase]; rfl) (by rw [phase]; exact Nat.le_refl _)
  · split
    · -- The match is balanced by itself: the attempt has not written the name yet.
      refine Balanced.of_same (.setPhase found _ rfl ?_ ?_) same rfl
      · rw [phase]; rfl
      · rw [phase]; exact Nat.le_refl _
    · refine Balanced.of_same (.setPhase found _ rfl ?_ ?_) same rfl
      · rw [phase]; rfl
      · rw [phase]; exact Nat.le_refl _

/-- An attempt that lets its search go on leaves it to listen in its place. -/
theorem resumed_balanced (trying : phone.attempts[index]? = some attempt)
    (phase : attempt.phase = .disconnecting .resume)
    (paused : phone.searches[search]? = some .paused) :
    Balanced phone (.disconnected index (.ok ()))
      ((phone.setSearch search .listening).setPhase index .finished) [] := by
  -- The search that listens again takes the place of the attempt.
  have found : (phone.setSearch search .listening).attempts[index]? = some attempt := trying
  have more : (phone.setSearch search .listening).listening = phone.listening + 1 :=
    listening_setSearch paused .listening
  obtain ⟨listens, tries, held⟩ := counts_setPhase found .finished
  rw [phase] at tries held
  refine ⟨?_, ?_⟩
  · rw [listens, more]
    have fewer : ((phone.setSearch search .listening).setPhase index .finished).trying + 1 =
        phone.trying := tries
    exact (Nat.add_right_comm _ 1 _).trans (congrArg (phone.listening + ·) fewer)
  · exact Nat.le_of_eq ((Nat.zero_add _).trans held)

/-- A search that finds a device leaves it to the attempt to go on. -/
theorem tried_balanced {periph : String} {now : Int}
    (listens : phone.searches[search]? = some .listening)
    (attempts : next.attempts = phone.attempts ++ [⟨search, periph, .connecting⟩])
    (searches : next.searches = phone.searches.set search .paused) :
    Balanced phone (.found search periph now) next [.connecting phone.attempts.length] := by
  -- The attempt takes the place of the search that listened.
  have fewer : (phone.setSearch search .paused).listening + 1 = phone.listening :=
    listening_setSearch listens .paused
  have same : next.listening = (phone.setSearch search .paused).listening := by
    rw [listening, searches]
    rfl
  have tries : next.trying = phone.trying + 1 := by
    simp [trying, attemptsIn, attempts, AttemptPhase.tries]
  have waits : next.waiting = phone.waiting := by
    simp [waiting, attemptsIn, attempts, AttemptPhase.waits]
  refine ⟨?_, ?_⟩
  · rw [same, tries, ← fewer]
    exact (Nat.add_right_comm _ 1 _).symm
  · rw [waits]
    exact Nat.le_of_eq (Nat.zero_add _)

/-- Every step of a search or an attempt is balanced. -/
theorem AttemptStep.balanced (step : AttemptStep mobileDevice machineToManage phone label next out)
    (one : phone.OneByOne) : Balanced phone label next out := by
  -- A pending attempt holds the subscription of its search paused.
  cases step with
  | skipped | scanError | notBridged => exact .quiet rfl rfl rfl (by simp)
  | tried listens => exact tried_balanced listens rfl rfl
  | connected trying => exact connected_balanced trying rfl
  | connectFailed trying =>
    exact Balanced.catchError trying rfl [] rfl (Nat.zero_le _)
  | nameRead trying =>
    have paused := (one.holds _ _ trying (by simp [Attempt.Pending])).1 trivial
    exact nameRead_balanced _ trying rfl paused
  | nameUnread trying => exact Balanced.catchError trying rfl [] rfl (Nat.zero_le _)
  | delayed trying | notWritten trying =>
    exact .setPhase trying _ rfl rfl (Nat.le_refl _)
  | @disconnected _ _ _ after trying =>
    cases after with
    | resume =>
      have paused := (one.holds _ _ trying (by simp [Attempt.Pending])).1 trivial
      exact resumed_balanced trying rfl paused
    | restart => exact Balanced.catchError trying rfl [] rfl (Nat.zero_le _)
  | disconnectFailed trying => exact Balanced.catchError trying rfl [] rfl (Nat.zero_le _)
  | written trying => exact .setPhase trying _ rfl rfl (Nat.le_refl _)
  | bridged trying => exact .setPhase trying _ rfl rfl (Nat.zero_le _)
  | @timedOut index _ _ trying =>
    -- The time that is up makes up for the name that was written.
    exact Balanced.catchError trying rfl [.timedOut index, .disconnecting index] rfl (Nat.le_refl _)

/-- How many searches the starts have begun. -/
def begun (labels : List Label) : Nat := labels.countP Label.begins

/-- Whatever happens, every search that a start begins goes on as one search that listens or one
attempt that has not written the name yet, until the name is written, and goes on once more when
the time is up behind it. So the phone never gives up before the name is written, and what goes on
or waits for the machine is never more than what the starts have begun. -/
theorem looking_goes_on {labels : List Label} {seen : List PhoneEvent}
    (run : (machine mobileDevice machineToManage).Run labels seen phone) :
    phone.listening + phone.trying + namesWritten seen = begun labels + timeouts seen ∧
      timeouts seen + phone.waiting ≤ namesWritten seen := by
  -- The account is balanced by each step, so it is over the whole run.
  induction run with
  | start => exact ⟨rfl, Nat.le_refl _⟩
  | @snoc labels seen phone label out next before taken ih =>
    have balanced : Balanced phone label next out := by
      rcases step_cases taken with start | attempt
      · exact start.balanced
      · exact attempt.balanced (oneByOne before)
    obtain ⟨looking, waited⟩ := balanced
    -- The label is counted once it has been taken.
    have more : begun (labels ++ [label]) = begun labels + label.begins.toNat := by
      cases begins : label.begins <;> simp [begun, begins]
    rw [namesWritten_append, timeouts_append, more]
    omega

/-- The search of a start comes to nothing with one machine and to a timeout with another, and so it
goes on. -/
theorem looking_goes_on_timed_out :
    ∃ seen phone, (machine "p" "m").Run (examplePowerOn ++ exampleAttempts) seen phone ∧
      namesWritten seen = 1 ∧ timeouts seen = 1 ∧ phone.listening + phone.trying = 1 ∧
        phone.waiting = 0 := by
  obtain ⟨seen, phone, run, written, late⟩ : ∃ seen phone,
      (machine "p" "m").Run (examplePowerOn ++ exampleAttempts) seen phone ∧
        namesWritten seen = 1 ∧ timeouts seen = 1 :=
    ⟨_, _, Lts.Run.of_exec rfl, by decide +kernel, by decide +kernel⟩
  -- One search was begun, one name written and one time up, so one of them goes on.
  obtain ⟨looking, waited⟩ := looking_goes_on run
  have one : begun (examplePowerOn ++ exampleAttempts) = 1 := by decide +kernel
  exact ⟨seen, phone, run, written, late, by omega, by omega⟩

end Phone

end BleManaged
