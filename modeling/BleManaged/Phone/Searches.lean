import BleManaged.Phone.OneSearch

/-! The attempts of one search: one device at a time, and no device again too soon. -/

namespace BleManaged

namespace Phone

/-- The subscription of an attempt is paused until the machine is found, and then cancelled. -/
def Holds (searches : List Subscription) (attempt : Attempt) : Prop :=
  (attempt.phase.BeforeMatch → searches[attempt.search]? = some .paused) ∧
    (¬attempt.phase.BeforeMatch → searches[attempt.search]? = some .cancelled)

/-- Every attempt that goes on holds its subscription, and no other attempt of that search goes on.
-/
structure OneByOne (phone : Phone) : Prop where
  holds : ∀ (index : Nat) (attempt : Attempt), phone.attempts[index]? = some attempt →
    attempt.Pending → Holds phone.searches attempt
  alone : ∀ search,
    Slots.AtMostOne phone.attempts fun attempt => attempt.Pending ∧ attempt.search = search

/-- A subscription that is held does not listen. -/
theorem Holds.not_listening {searches : List Subscription} {attempt : Attempt}
    (holds : Holds searches attempt) : searches[attempt.search]? ≠ some .listening := by
  -- It is paused before the match and cancelled behind it.
  by_cases before : attempt.phase.BeforeMatch
  · simp [holds.1 before]
  · simp [holds.2 before]

/-- An attempt that is not revived stays alone in its search. -/
theorem OneByOne.alone_modify {phone : Phone} (one : phone.OneByOne) {index : Nat}
    {phase : AttemptPhase}
    (revives : ∀ attempt, phone.attempts[index]? = some attempt → phase ≠ .finished →
      attempt.Pending) (search : Nat) :
    Slots.AtMostOne (phone.attempts.modify index fun attempt => { attempt with phase := phase })
      fun attempt => attempt.Pending ∧ attempt.search = search := by
  -- Whoever goes on now has gone on before, for the same search.
  have earlier : ∀ (place : Nat) (attempt : Attempt),
      (phone.attempts.modify index fun attempt =>
        { attempt with phase := phase })[place]? = some attempt →
      attempt.Pending ∧ attempt.search = search →
      ∃ before, phone.attempts[place]? = some before ∧ before.Pending ∧ before.search = search := by
    rintro place attempt held ⟨pending, same⟩
    rcases Slots.of_modify held with ⟨rfl, before, found, rfl⟩ | ⟨_, found⟩
    · exact ⟨before, found, revives before found pending, same⟩
    · exact ⟨attempt, found, pending, same⟩
  intro place other attempt another held found goes goes'
  obtain ⟨_, held, goes⟩ := earlier place attempt held goes
  obtain ⟨_, found, goes'⟩ := earlier other another found goes'
  exact one.alone search place other _ _ held found goes goes'

/-- The subscriptions of the other attempts are not touched with that of an attempt that goes on. -/
theorem OneByOne.holds_set {phone : Phone} (one : phone.OneByOne) {index other : Nat}
    {attempt another : Attempt} (trying : phone.attempts[index]? = some attempt)
    (pending : attempt.Pending) (held : phone.attempts[other]? = some another)
    (goes : another.Pending) (different : other ≠ index) (subscription : Subscription) :
    Holds (phone.searches.set attempt.search subscription) another := by
  -- The other attempt belongs to another search, since each search has only one.
  have apart : attempt.search ≠ another.search := fun same =>
    different (one.alone attempt.search other index another attempt held trying
      ⟨goes, same.symm⟩ ⟨pending, rfl⟩)
  simpa [Holds, List.getElem?_set_ne apart] using one.holds other another held goes

/-- A new search leaves the held subscriptions as they are. -/
theorem Holds.push {searches : List Subscription} {attempt : Attempt}
    (holds : Holds searches attempt) {subscription : Subscription} :
    Holds (searches ++ [subscription]) attempt :=
  ⟨fun before => Slots.push_of (holds.1 before), fun found => Slots.push_of (holds.2 found)⟩

/-- Every step keeps the attempts of each search one by one. -/
theorem Change.oneByOne {phone next : Phone} {label : Label} (change : Change phone label next)
    (one : phone.OneByOne) : next.OneByOne := by
  cases change with
  | quiet searches attempts =>
    refine ⟨?_, ?_⟩
    · rw [searches, attempts]
      exact one.holds
    · rw [attempts]
      exact one.alone
  | begun _ searches attempts =>
    refine ⟨?_, ?_⟩
    · rw [searches, attempts]
      -- A new search is behind all the others in the list.
      exact fun index attempt trying pending => (one.holds index attempt trying pending).push
    · rw [attempts]
      exact one.alone
  | @tried search periph listening searches attempts =>
    -- A subscription that listens is held by no attempt, so the new one is alone.
    have free : ∀ (index : Nat) (attempt : Attempt), phone.attempts[index]? = some attempt →
        attempt.Pending → search ≠ attempt.search := by
      rintro index attempt trying pending rfl
      exact (one.holds index attempt trying pending).not_listening listening
    refine ⟨fun index attempt trying pending => ?_, fun other => ?_⟩
    · rw [attempts] at trying
      rw [searches]
      rcases Slots.of_push trying with ⟨rfl, rfl⟩ | trying
      · exact ⟨fun _ => Slots.set_of listening, fun found => absurd trivial found⟩
      · have holds := one.holds index attempt trying pending
        simpa [Holds, List.getElem?_set_ne (free index attempt trying pending)] using holds
    · rw [attempts]
      rintro place another attempt attempt' held found ⟨goes, same⟩ ⟨goes', same'⟩
      rcases Slots.of_push held with ⟨rfl, rfl⟩ | held
      · rcases Slots.of_push found with ⟨rfl, rfl⟩ | found
        · rfl
        · exact absurd (same.trans same'.symm) (free another attempt' found goes')
      · rcases Slots.of_push found with ⟨rfl, rfl⟩ | found
        · exact absurd (same'.trans same.symm) (free place attempt held goes)
        · exact one.alone other place another _ _ held found ⟨goes, same⟩ ⟨goes', same'⟩
  | @moved index attempt phase trying pending stays searches attempts =>
    refine ⟨fun other another held goes => ?_, fun search => ?_⟩
    · rw [attempts] at held
      rw [searches]
      rcases Slots.of_modify held with ⟨rfl, before, found, rfl⟩ | ⟨_, held⟩
      · rw [trying] at found
        cases found
        have holds := one.holds _ _ trying pending
        exact ⟨fun before => holds.1 (stays.mpr before), fun found => holds.2 (mt stays.mp found)⟩
      · exact one.holds other another held goes
    · rw [attempts]
      refine one.alone_modify (fun before found _ => ?_) search
      rw [trying] at found
      cases found
      exact pending
  | @matched index attempt phase trying pending found searches attempts =>
    refine ⟨fun other another held goes => ?_, fun search => ?_⟩
    · rw [attempts] at held
      rw [searches]
      rcases Slots.of_modify held with ⟨rfl, before, same, rfl⟩ | ⟨different, held⟩
      · rw [trying] at same
        cases same
        refine ⟨fun before => absurd before found, fun _ => ?_⟩
        -- There is a subscription to cancel, since the attempt holds it.
        have holds := one.holds _ _ trying pending
        by_cases before : attempt.phase.BeforeMatch
        · exact Slots.set_of (holds.1 before)
        · exact Slots.set_of (holds.2 before)
      · exact one.holds_set trying pending held goes different .cancelled
    · rw [attempts]
      refine one.alone_modify (fun before same _ => ?_) search
      rw [trying] at same
      cases same
      exact pending
  | @resumed index attempt trying pending _ searches attempts =>
    refine ⟨fun other another held goes => ?_, fun search => ?_⟩
    · rw [attempts] at held
      rw [searches]
      -- The attempt itself is over, and the others hold subscriptions of their own.
      rcases Slots.of_modify held with ⟨rfl, before, same, rfl⟩ | ⟨different, held⟩
      · exact absurd rfl goes
      · exact one.holds_set trying pending held goes different .listening
    · rw [attempts]
      exact one.alone_modify (fun _ _ unfinished => absurd rfl unfinished) search
  | @restarted index attempt _ _ _ searches attempts =>
    refine ⟨fun other another held goes => ?_, fun search => ?_⟩
    · rw [attempts] at held
      rw [searches]
      rcases Slots.of_modify held with ⟨rfl, before, same, rfl⟩ | ⟨_, held⟩
      · exact absurd rfl goes
      · exact (one.holds other another held goes).push
    · rw [attempts]
      exact one.alone_modify (fun _ _ unfinished => absurd rfl unfinished) search

/-- In every run the attempts of each search are made one by one. -/
theorem oneByOne {mobileDevice machineToManage : String} {labels : List Label}
    {seen : List PhoneEvent} {phone : Phone}
    (run : (machine mobileDevice machineToManage).Run labels seen phone) : phone.OneByOne := by
  -- At the start there are neither searches nor attempts.
  refine run.invariant (fun _ phone => phone.OneByOne) ⟨by simp [machine], ?_⟩ ?_
  · exact fun search place other attempt another held => nomatch held
  · intro labels seen phone label next out _ one taken
    exact (change_of_step taken).oneByOne one

/-- The attempts of a search are those that it has begun before. -/
def NoMore (search : Nat) (phone next : Phone) : Prop :=
  ∀ (index : Nat) (attempt : Attempt), next.attempts[index]? = some attempt →
    attempt.search = search →
      ∃ before, phone.attempts[index]? = some before ∧ before.search = search

/-- An attempt that goes on belongs to the same search as before. -/
theorem NoMore.of_modify {search index : Nat} {phase : AttemptPhase} {phone next : Phone}
    (attempts : next.attempts =
      phone.attempts.modify index fun attempt => { attempt with phase := phase }) :
    NoMore search phone next := by
  -- Going on does not change which search an attempt belongs to.
  intro place attempt held same
  rw [attempts] at held
  rcases Slots.of_modify held with ⟨rfl, before, found, rfl⟩ | ⟨_, found⟩
  · exact ⟨before, found, same⟩
  · exact ⟨attempt, found, same⟩

/-- Where no attempt begins there are no more of them. -/
theorem NoMore.of_same {search : Nat} {phone next : Phone}
    (attempts : next.attempts = phone.attempts) : NoMore search phone next := by
  intro index attempt held same
  exact ⟨attempt, attempts ▸ held, same⟩

/-- A search that has found its machine stays cancelled, and begins no attempt any more. -/
theorem Change.cancelled {phone next : Phone} {label : Label} (change : Change phone label next)
    (one : phone.OneByOne) {search : Nat} (cancelled : phone.searches[search]? = some .cancelled) :
    next.searches[search]? = some .cancelled ∧ NoMore search phone next := by
  cases change with
  | quiet searches attempts => exact ⟨by rw [searches, cancelled], .of_same attempts⟩
  | begun _ searches attempts =>
    exact ⟨by rw [searches, Slots.push_of cancelled], .of_same attempts⟩
  | @tried other periph listening searches attempts =>
    -- The search that begins an attempt listens, so it is another one.
    have different : other ≠ search := by
      rintro rfl
      rw [listening] at cancelled
      cases cancelled
    refine ⟨by rw [searches, List.getElem?_set_ne different, cancelled], ?_⟩
    intro index attempt held same
    rw [attempts] at held
    rcases Slots.of_push held with ⟨_, rfl⟩ | held
    · exact absurd same different
    · exact ⟨attempt, held, same⟩
  | moved _ _ _ searches attempts => exact ⟨by rw [searches, cancelled], .of_modify attempts⟩
  | @matched index attempt _ _ _ _ searches attempts =>
    refine ⟨?_, .of_modify attempts⟩
    rw [searches]
    -- Cancelling once more leaves it cancelled.
    by_cases same : attempt.search = search
    · rw [same]
      exact Slots.set_of cancelled
    · rw [List.getElem?_set_ne same, cancelled]
  | @resumed index attempt trying pending before searches attempts =>
    -- The subscription that is resumed was paused.
    have different : attempt.search ≠ search := by
      rintro rfl
      rw [(one.holds index attempt trying pending).1 before] at cancelled
      cases cancelled
    exact ⟨by rw [searches, List.getElem?_set_ne different, cancelled], .of_modify attempts⟩
  | restarted _ _ _ searches attempts =>
    exact ⟨by rw [searches, Slots.push_of cancelled], .of_modify attempts⟩

/-- Whatever happens, a search tries one device at a time, and as soon as it has found its machine
it tries no other device any more. -/
theorem one_device_at_a_time {mobileDevice machineToManage : String} {labels : List Label}
    {seen : List PhoneEvent} {phone : Phone}
    (run : (machine mobileDevice machineToManage).Run labels seen phone) (search : Nat) :
    Slots.AtMostOne phone.attempts (fun attempt => attempt.Pending ∧ attempt.search = search) ∧
    (phone.searches[search]? = some .cancelled → ∀ more last out,
      (machine mobileDevice machineToManage).exec phone more = some (last, out) →
        last.searches[search]? = some .cancelled ∧ NoMore search phone last) := by
  refine ⟨(oneByOne run).alone search, fun cancelled more => ?_⟩
  -- The induction is on what happens after the machine has been found.
  induction more generalizing labels seen phone with
  | nil =>
    intro last out executed
    cases executed
    exact ⟨cancelled, .of_same rfl⟩
  | cons label more ih =>
    intro last out executed
    obtain ⟨next, _, rest, taken, remaining, _⟩ := Lts.exec_cons executed
    -- The first label leaves the search cancelled, and the others go on from there.
    obtain ⟨still, first⟩ := (change_of_step taken).cancelled (oneByOne run) cancelled
    obtain ⟨ended, later⟩ := ih (run.snoc taken) still last rest remaining
    refine ⟨ended, fun index attempt held same => ?_⟩
    obtain ⟨middle, found, belongs⟩ := later index attempt held same
    exact first index middle found belongs

/-- The machine is found at once, and does not answer in time. -/
theorem one_device_at_a_time_timed_out :
    ∃ seen phone last out, (machine "p" "m").Run
        (examplePowerOn ++ [.found 0 "b" 0, .connected 0 (.ok exampleServices),
          .nameRead 0 (.ok (some [109]))]) seen phone ∧
      (machine "p" "m").exec phone [.nameWritten 0 (.ok ()), .timedOut 0] = some (last, out) ∧
      last.searches[0]? = some .cancelled ∧ NoMore 0 phone last := by
  obtain ⟨seen, phone, last, out, run, cancelled, executed⟩ : ∃ seen phone last out,
      (machine "p" "m").Run
        (examplePowerOn ++ [.found 0 "b" 0, .connected 0 (.ok exampleServices),
          .nameRead 0 (.ok (some [109]))]) seen phone ∧
      phone.searches[0]? = some .cancelled ∧
      (machine "p" "m").exec phone [.nameWritten 0 (.ok ()), .timedOut 0] = some (last, out) :=
    ⟨_, _, _, _, Lts.Run.of_exec rfl, rfl, rfl⟩
  -- The handler begins another search, and search 0 stays as it is.
  have ended := (one_device_at_a_time run 0).2 cancelled _ last out executed
  exact ⟨seen, phone, last, out, run, executed, ended⟩

/-- The attempt at a device that a label begins, in whatever search it is found. -/
def Tries (mobileDevice machineToManage : String) (phone : Phone) (search : Nat) (periph : String)
    (now : Int) : Prop :=
  ∃ next index, (machine mobileDevice machineToManage).step phone (.found search periph now) =
    some (next, [.connecting index])

/-- A device has been tried at a time. -/
def Tried (mobileDevice machineToManage : String) (labels : List Label) (periph : String)
    (time : Int) : Prop :=
  ∃ before search after, labels = before ++ .found search periph time :: after ∧
    ∃ seen phone, (machine mobileDevice machineToManage).Run before seen phone ∧
      Tries mobileDevice machineToManage phone search periph time

section Tried

variable {mobileDevice machineToManage : String} {labels : List Label} {seen : List PhoneEvent}
  {phone : Phone}

/-- What has been tried after one more label is what had been tried, or is tried by the label. -/
theorem tried_snoc (run : (machine mobileDevice machineToManage).Run labels seen phone)
    {label : Label} {periph : String} {time : Int} :
    Tried mobileDevice machineToManage (labels ++ [label]) periph time ↔
      Tried mobileDevice machineToManage labels periph time ∨
        ∃ search, label = .found search periph time ∧
          Tries mobileDevice machineToManage phone search periph time := by
  -- The attempt in question is at the new label exactly when no label comes after it.
  constructor
  · rintro ⟨before, search, after, split, earlier, prior, reached, tries⟩
    rcases List.eq_nil_or_concat after with rfl | ⟨init, final, rfl⟩
    · obtain ⟨rfl, rfl⟩ := List.append_singleton_inj.mp split
      obtain ⟨_, rfl⟩ := run.unique reached
      exact .inr ⟨search, rfl, tries⟩
    · rw [List.concat_eq_append, ← List.cons_append, ← List.append_assoc] at split
      obtain ⟨rfl, _⟩ := List.append_singleton_inj.mp split
      exact .inl ⟨before, search, init, rfl, earlier, prior, reached, tries⟩
  · rintro (⟨before, search, after, rfl, earlier, prior, reached, tries⟩ | ⟨search, rfl, tries⟩)
    · exact ⟨before, search, after ++ [label], by simp, earlier, prior, reached, tries⟩
    · exact ⟨labels, search, [], rfl, seen, phone, run, tries⟩

/-- Whole seconds are counted towards zero, so fewer than five of them are less than 5000 ms. -/
theorem seconds_lt_iff (elapsed : Int) : elapsed.tdiv 1000 < trySeconds ↔ elapsed < 5000 := by
  have sign : Int.sign 1000 = 1 := rfl
  rw [Int.tdiv_eq_ediv, sign, trySeconds]
  split <;> omega

/-- When a device is recently tried. -/
theorem triedRecently_iff (phone : Phone) (periph : String) (now : Int) :
    phone.triedRecently periph now = true ↔
      ∃ last, phone.lastTried periph = some last ∧ now < last + 5000 := by
  -- Less than five whole seconds are less than five thousand milliseconds.
  simp only [triedRecently]
  split
  · rename_i last tried
    simp only [decide_eq_true_eq, seconds_lt_iff, tried, Option.some.injEq, exists_eq_left']
    omega
  · rename_i never
    simp [never]

/-- A search that listens tries a device exactly when it was not tried recently. -/
theorem tries_iff {search : Nat} (listening : phone.searches[search]? = some .listening)
    (periph : String) (now : Int) :
    Tries mobileDevice machineToManage phone search periph now ↔
      phone.triedRecently periph now = false := by
  -- A search that listens takes the label in any case, and connects only in one branch.
  have taken : (machine mobileDevice machineToManage).step phone (.found search periph now) =
      some (phone.found search periph now) := by
    simp [machine, step, stepStart, stepAttempt, listening]
  simp only [Tries, taken, Phone.found]
  -- A device that was tried recently is passed over without an event.
  cases phone.triedRecently periph now <;> simp

/-- A start tries no device. -/
theorem StartStep.lastTried {next : Phone} {label : Label} {out : List PhoneEvent}
    (step : StartStep phone label next out) :
    next.lastTried = phone.lastTried ∧ ∀ search periph time, label ≠ .found search periph time := by
  -- The times are kept across a call of `mainLoop`, as the map is a global of the program.
  cases step with
  | peripheral started moves =>
    refine ⟨rfl, ?_⟩
    cases moves <;> simp
  | _ => exact ⟨rfl, by simp⟩

/-- What a step of a search or an attempt does to the times: it sets that of the device it tries. -/
theorem AttemptStep.lastTried {next : Phone} {label : Label} {out : List PhoneEvent}
    (step : AttemptStep mobileDevice machineToManage phone label next out) :
    (next.lastTried = phone.lastTried ∧ ∀ search periph now, label = .found search periph now →
      ¬Tries mobileDevice machineToManage phone search periph now) ∨
    ∃ search periph now, label = .found search periph now ∧
      Tries mobileDevice machineToManage phone search periph now ∧
      phone.triedRecently periph now = false ∧
      next.lastTried = Function.update phone.lastTried periph (some now) := by
  -- Only the branch that connects writes to the map.
  cases step with
  | skipped listening recent =>
    refine .inl ⟨rfl, fun search periph now same => ?_⟩
    cases same
    simp [tries_iff listening, recent]
  | tried listening recent =>
    exact .inr ⟨_, _, _, rfl, (tries_iff listening _ _).mpr recent, recent, rfl⟩
  -- What comes behind the connection asks for no time.
  | @connected _ _ _ services =>
    refine .inl ⟨?_, by simp⟩
    simp only [Phone.connected]
    split
    · rfl
    · split <;> rfl
  | nameRead =>
    refine .inl ⟨?_, by simp⟩
    simp only [Phone.nameRead]
    split
    · rfl
    · split <;> rfl
  | @disconnected _ _ _ after => cases after <;> exact .inl ⟨rfl, by simp⟩
  | _ => exact .inl ⟨rfl, by simp⟩

/-- The time of a device is one at which it was tried, and none is later. -/
theorem lastTried_latest (run : (machine mobileDevice machineToManage).Run labels seen phone)
    (periph : String) :
    (∀ last, phone.lastTried periph = some last →
      Tried mobileDevice machineToManage labels periph last) ∧
    ∀ time, Tried mobileDevice machineToManage labels periph time →
      ∃ last, phone.lastTried periph = some last ∧ time ≤ last := by
  -- The induction is on the run; the five seconds between attempts keep the times in order.
  induction run with
  | start =>
    refine ⟨fun last held => (nomatch held), fun time tried => ?_⟩
    obtain ⟨before, search, after, split, _⟩ := tried
    simp at split
  | @snoc labels seen phone label out next before taken ih =>
    -- A start leaves the times alone, and an attempt sets at most one of them.
    have change : (next.lastTried = phone.lastTried ∧
        ∀ search periph now, label = .found search periph now →
          ¬Tries mobileDevice machineToManage phone search periph now) ∨
        ∃ search periph now, label = .found search periph now ∧
          Tries mobileDevice machineToManage phone search periph now ∧
          phone.triedRecently periph now = false ∧
          next.lastTried = Function.update phone.lastTried periph (some now) := by
      rcases step_cases taken with start | attempt
      · obtain ⟨same, other⟩ := start.lastTried
        exact .inl ⟨same, fun search periph now found => absurd found (other search periph now)⟩
      · exact attempt.lastTried
    simp only [tried_snoc before]
    rcases change with ⟨same, skipped⟩ | ⟨search, device, now, rfl, tries, recent, set⟩
    · rw [same]
      refine ⟨fun last held => .inl (ih.1 last held), ?_⟩
      rintro time (tried | ⟨search, found, tries⟩)
      · exact ih.2 time tried
      · exact absurd tries (skipped search periph time found)
    · rw [set]
      -- Only the time of the device that is tried now has changed.
      by_cases this : periph = device
      · subst this
        rw [Function.update_self]
        refine ⟨?_, ?_⟩
        · rintro last ⟨⟩
          exact .inr ⟨search, rfl, tries⟩
        · rintro time (tried | ⟨_, found, _⟩)
          · -- The device was tried long ago, or it would have been skipped.
            obtain ⟨last, held, later⟩ := ih.2 time tried
            rw [← Bool.not_eq_true, triedRecently_iff] at recent
            have long : last + 5000 ≤ now := by
              by_contra soon
              exact recent ⟨last, held, by omega⟩
            exact ⟨now, rfl, by omega⟩
          · cases found
            exact ⟨now, rfl, Int.le_refl _⟩
      · rw [Function.update_of_ne this]
        refine ⟨fun last held => .inl (ih.1 last held), ?_⟩
        rintro time (tried | ⟨_, found, _⟩)
        · exact ih.2 time tried
        · -- The label tries one device only, and this is another one.
          cases found
          exact absurd rfl this

/-- Attempts at one device are at least five seconds apart by the clock, and a search that listens
makes one whenever they would be; a clock that is set back puts the next attempt off. -/
theorem tried_again_iff (run : (machine mobileDevice machineToManage).Run labels seen phone)
    {search : Nat} (listening : phone.searches[search]? = some .listening) (periph : String)
    (now : Int) :
    Tries mobileDevice machineToManage phone search periph now ↔
      ∀ time, Tried mobileDevice machineToManage labels periph time → time + 5000 ≤ now := by
  -- The map holds the latest time of all, so it is enough to look at that one.
  obtain ⟨earlier, latest⟩ := lastTried_latest run periph
  rw [tries_iff listening, ← Bool.not_eq_true, triedRecently_iff]
  constructor
  · intro free time tried
    obtain ⟨last, held, later⟩ := latest time tried
    by_contra soon
    exact free ⟨last, held, by omega⟩
  · rintro apart ⟨last, held, soon⟩
    exact absurd (apart last (earlier last held)) (by omega)

/-- A device that was found to be another machine is skipped after four seconds, and is tried again
after five. -/
theorem tried_again_iff_after_resume :
    ∃ seen phone, (machine "p" "m").Run (examplePowerOn ++ exampleAttempts.take 4) seen phone ∧
      ¬Tries "p" "m" phone 0 "a" 4999 ∧ Tries "p" "m" phone 0 "a" 5000 := by
  obtain ⟨seen, phone, run, listening, held⟩ : ∃ seen phone,
      (machine "p" "m").Run (examplePowerOn ++ exampleAttempts.take 4) seen phone ∧
      phone.searches[0]? = some .listening ∧ phone.lastTried "a" = some 0 :=
    ⟨_, _, Lts.Run.of_exec rfl, rfl, rfl⟩
  -- The only attempt at the device was made at time 0.
  obtain ⟨earlier, latest⟩ := lastTried_latest run "a"
  refine ⟨seen, phone, run, fun tries => ?_, (tried_again_iff run listening "a" 5000).mpr ?_⟩
  · have apart := (tried_again_iff run listening "a" 4999).mp tries 0 (earlier 0 held)
    omega
  · intro time tried
    obtain ⟨last, same, later⟩ := latest time tried
    rw [held] at same
    cases same
    omega

end Tried

end Phone

end BleManaged
