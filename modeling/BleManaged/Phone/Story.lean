import BleManaged.Phone.Release

/-! The story of each attempt: what can be observed of it, in its order. -/

namespace BleManaged

namespace Phone

/-- What has been observed of an attempt when it is in a phase; the name is what the phone writes.
-/
inductive Story (name : List UInt8) (index : Nat) : AttemptPhase → List PhoneEvent → Prop where
  | connecting : Story name index .connecting [.connecting index]
  | unconnected : Story name index .finished [.connecting index]
  | reading {viamSvc} : Story name index (.reading viamSvc) [.connecting index, .connected index]
  | delaying : Story name index .delaying [.connecting index, .connected index]
  /-- The name of the machine is not read, or is no name. -/
  | unread : Story name index .finished [.connecting index, .connected index]
  /-- Nothing is written to a device that lacks something, or that is another machine. -/
  | disconnecting {after} :
      Story name index (.disconnecting after)
        [.connecting index, .connected index, .disconnecting index]
  | released :
      Story name index .finished [.connecting index, .connected index, .disconnecting index]
  | writing :
      Story name index .writing [.connecting index, .connected index, .writing index name]
  | notWritten :
      Story name index (.disconnecting .restart)
        [.connecting index, .connected index, .writing index name, .disconnecting index]
  | gaveUp :
      Story name index .finished
        [.connecting index, .connected index, .writing index name, .disconnecting index]
  | waiting :
      Story name index .waiting
        [.connecting index, .connected index, .writing index name, .written index]
  | bridged :
      Story name index .finished
        [.connecting index, .connected index, .writing index name, .written index]
  | timedOut :
      Story name index .finished
        [.connecting index, .connected index, .writing index name, .written index,
          .timedOut index, .disconnecting index]

/-- What has been observed of an attempt. -/
def told (seen : List PhoneEvent) (index : Nat) : List PhoneEvent :=
  seen.filter fun event => event.attempt? = some index

variable {mobileDevice machineToManage : String} {seen out : List PhoneEvent} {phone next : Phone}
  {label : Label} {index : Nat}

/-- What is observed later comes later in the story. -/
theorem told_append : told (seen ++ out) index = told seen index ++ told out index :=
  List.filter_append ..

/-- Events about nothing or about others are not in the story. -/
theorem told_quiet (untouched : ∀ event ∈ out, event.attempt? ≠ some index) :
    told (seen ++ out) index = told seen index := by
  simpa [told_append, told] using untouched

/-- Each step of an attempt goes on with its story. -/
theorem AttemptMove.story {bridge : Bool} {name : List UInt8} {before after : AttemptPhase}
    (moves : AttemptMove bridge index label before after out)
    (named : ∀ value, .writing index value ∈ out → value = name)
    (story : Story name index before (told seen index)) :
    Story name index after (told (seen ++ out) index) := by
  rw [told_append]
  -- What was told before is a story of the phase before, and each branch adds its events.
  generalize told seen index = earlier at story
  cases moves with
  | missing =>
    cases story
    simpa [told, PhoneEvent.attempt?] using Story.disconnecting
  | connected =>
    cases story
    simpa [told, PhoneEvent.attempt?] using Story.reading
  | unconnected =>
    cases story
    simpa [told, PhoneEvent.attempt?] using Story.unconnected
  | different =>
    cases story
    simpa [told, PhoneEvent.attempt?] using Story.disconnecting
  | delaying =>
    cases story
    exact Story.delaying
  | @matched _ _ _ value =>
    cases story
    -- All that a match tells is that it writes, and what it writes is the name.
    obtain rfl := named value (by simp)
    simpa [told, PhoneEvent.attempt?] using Story.writing
  | unread =>
    cases story
    simpa [told, PhoneEvent.attempt?] using Story.unread
  | delayed =>
    cases story
    simpa [told, PhoneEvent.attempt?] using Story.disconnecting
  | resumed =>
    -- Before the match there has been nothing to write.
    cases story
    exact Story.released
  | restarted =>
    -- A restart follows a disconnect, made with or without an attempt to write.
    cases story with
    | disconnecting => simpa [told, PhoneEvent.attempt?] using Story.released
    | notWritten => simpa [told, PhoneEvent.attempt?] using Story.gaveUp
  | written =>
    cases story
    simpa [told, PhoneEvent.attempt?] using Story.waiting
  | notWritten =>
    cases story
    simpa [told, PhoneEvent.attempt?] using Story.notWritten
  | bridged =>
    cases story
    exact Story.bridged
  | timedOut =>
    cases story
    simpa [told, PhoneEvent.attempt?] using Story.timedOut

/-- The name that the phone writes is its own, and only the machine that it manages is told. -/
theorem AttemptStep.writing {value : List UInt8}
    (step : AttemptStep mobileDevice machineToManage phone label next out)
    (writes : .writing index value ∈ out) :
    value = writtenName mobileDevice ∧
      ∃ result, label = .nameRead index result ∧ readName result = some machineToManage := by
  cases step with
  | @connected number _ _ services =>
    -- Nothing is written before the name has been read.
    simp only [Phone.connected] at writes
    split at writes
    · simp [disconnect] at writes
    · split at writes <;> simp [disconnect] at writes
  | @nameRead number search periph viamSvc result periphName _ read =>
    simp only [Phone.nameRead] at writes
    split at writes
    · simp [disconnect] at writes
    · rename_i same
      split at writes
      · simp at writes
      · -- The name that was read is the one of the machine.
        obtain ⟨rfl, rfl⟩ : index = number ∧ value = writtenName mobileDevice := by
          simpa using writes
        exact ⟨rfl, result, rfl, by rw [read, of_not_not same]⟩
  -- What comes behind a disconnect, a failure or a write is no write.
  | @disconnected _ _ _ after => cases after <;> simp [Phone.disconnected, manageMachine] at writes
  | connectFailed | nameUnread | disconnectFailed | timedOut =>
    simp [catchError, manageMachine] at writes
  | delayed | notWritten => simp [disconnect] at writes
  | skipped | tried | scanError | written | bridged | notBridged => simp at writes

/-- A start writes no name. -/
theorem StartStep.not_writing {value : List UInt8} (step : StartStep phone label next out) :
    .writing index value ∉ out := by
  -- All that can be observed of a start is a scan or its bridge.
  cases step <;> simp [manageMachine]

/-- The phone writes its own name, and only after the name that it looks for has been read. -/
theorem step_writing {value : List UInt8}
    (taken : step mobileDevice machineToManage phone label = some (next, out))
    (writes : .writing index value ∈ out) :
    value = writtenName mobileDevice ∧
      ∃ result, label = .nameRead index result ∧ readName result = some machineToManage := by
  -- No start writes, and an attempt writes in one branch of `manageMachine` only.
  rcases step_cases taken with start | attempt
  · exact absurd writes start.not_writing
  · exact attempt.writing writes

/-- Every attempt has its story, and there is nothing to tell of attempts that have not begun. -/
structure Told (name : List UInt8) (seen : List PhoneEvent) (phone : Phone) : Prop where
  story : ∀ index attempt, phone.attempts[index]? = some attempt →
    Story name index attempt.phase (told seen index)
  fresh : ∀ index, phone.attempts.length ≤ index → told seen index = []

/-- A step that is about no attempt goes on with no story. -/
theorem Told.quiet {name : List UInt8} (tells : Told name seen phone)
    (attempts : next.attempts = phone.attempts)
    (untouched : ∀ event ∈ out, event.attempt? = none) : Told name (seen ++ out) next := by
  -- What is told of each attempt stays the same.
  have same : ∀ index, told (seen ++ out) index = told seen index := fun index =>
    told_quiet fun event member => by simp [untouched event member]
  refine ⟨fun index attempt held => ?_, fun index later => ?_⟩
  · rw [same]
    rw [attempts] at held
    exact tells.story index attempt held
  · rw [same]
    rw [attempts] at later
    exact tells.fresh index later

/-- Every step goes on with the stories. -/
theorem Told.turn {name : List UInt8} (tells : Told name seen phone)
    (turn : Turn phone label next out)
    (named : ∀ index value, .writing index value ∈ out → value = name) :
    Told name (seen ++ out) next := by
  cases turn with
  | quiet _ attempts _ shown =>
    refine tells.quiet attempts ?_
    -- A scan is told of no attempt.
    rcases shown with rfl | ⟨search, rfl⟩ <;> simp [PhoneEvent.attempt?]
  | bridge _ _ attempts => exact tells.quiet attempts (by simp [PhoneEvent.attempt?])
  | waited => simpa using tells
  | tried attempts =>
    refine ⟨fun index attempt held => ?_, fun index later => ?_⟩
    · rw [attempts] at held
      rcases Slots.of_push held with ⟨rfl, rfl⟩ | held
      · -- The index is new, so its story begins here.
        rw [told_append, tells.fresh _ (Nat.le_refl _)]
        simpa [told, PhoneEvent.attempt?] using Story.connecting
      · have within := (List.getElem?_eq_some_iff.mp held).1
        rw [told_quiet (by simp [PhoneEvent.attempt?, Nat.ne_of_gt within])]
        exact tells.story index attempt held
    · rw [attempts, List.length_append] at later
      have different : phone.attempts.length ≠ index := by
        simp at later
        omega
      rw [told_quiet (by simp [PhoneEvent.attempt?, different])]
      exact tells.fresh index (by omega)
  | @moved number attempt _ phase _ _ trying moves attempts =>
    refine ⟨fun index attempt held => ?_, fun index later => ?_⟩
    · rw [attempts] at held
      -- The story of one attempt goes on, and those of the others stay.
      rcases Slots.of_modify held with ⟨rfl, before, found, rfl⟩ | ⟨different, held⟩
      · rw [trying] at found
        cases found
        exact moves.story (named _) (tells.story _ _ trying)
      · rw [told_quiet (moves.untouched different)]
        exact tells.story index attempt held
    · rw [attempts, List.length_modify] at later
      have different : index ≠ number := by
        rintro rfl
        rw [List.getElem?_eq_none later] at trying
        cases trying
      rw [told_quiet (moves.untouched different)]
      exact tells.fresh index later

/-- In every run the stories go on from the first call of `mainLoop`. -/
theorem told_of_run {labels : List Label}
    (run : (machine mobileDevice machineToManage).Run labels seen phone) :
    Told (writtenName mobileDevice) seen phone := by
  -- At the start there are no attempts and nothing has been told.
  refine run.invariant (fun seen phone => Told (writtenName mobileDevice) seen phone)
    ⟨by simp [machine], fun _ _ => rfl⟩ ?_
  intro labels seen phone label next out _ tells taken
  exact tells.turn (turn_cases taken) fun index value writes => (step_writing taken writes).1

/-- What has been written in a run was written after the name that is looked for has been read. -/
theorem read_of_writing {labels : List Label}
    (run : (machine mobileDevice machineToManage).Run labels seen phone) {index : Nat}
    {value : List UInt8} (writes : .writing index value ∈ seen) :
    ∃ result, .nameRead index result ∈ labels ∧ readName result = some machineToManage := by
  -- The write is shown by the very step that takes the result of the read.
  induction run with
  | start => cases writes
  | snoc before taken ih =>
    rcases List.mem_append.mp writes with earlier | now
    · obtain ⟨result, member, read⟩ := ih earlier
      exact ⟨result, List.mem_append_left _ member, read⟩
    · obtain ⟨_, result, rfl, read⟩ := step_writing taken now
      exact ⟨result, by simp, read⟩

/-- In every run what can be observed of an attempt is one of the stories of its phase, so that its
device is connected at most once and is written to at most once. The phone writes nothing but its
name, and writes it to no machine but the one that it manages. -/
theorem attempt_story {labels : List Label}
    (run : (machine mobileDevice machineToManage).Run labels seen phone) :
    (∀ index attempt, phone.attempts[index]? = some attempt →
      Story (writtenName mobileDevice) index attempt.phase (told seen index)) ∧
    ∀ index value, .writing index value ∈ seen →
      ∃ result, .nameRead index result ∈ labels ∧ readName result = some machineToManage :=
  ⟨(told_of_run run).story, fun _ _ writes => read_of_writing run writes⟩

/-- Another machine is left alone, and the right one is told the name and does not answer. -/
theorem attempt_story_two_attempts :
    ∃ seen phone, (machine "p" "m").Run (examplePowerOn ++ exampleAttempts) seen phone ∧
      Story [112] 0 .finished (told seen 0) ∧ Story [112] 1 .finished (told seen 1) := by
  have run : (machine "p" "m").Run (examplePowerOn ++ exampleAttempts) _ _ := Lts.Run.of_exec rfl
  -- Both attempts are over, each with one of the stories of that phase.
  have story := (attempt_story run).1
  exact ⟨_, _, run, story 0 ⟨0, "a", .finished⟩ rfl, story 1 ⟨0, "b", .finished⟩ rfl⟩

end Phone

end BleManaged
