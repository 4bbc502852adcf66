import BleManaged.Phone.OneSearch
import BleManaged.Phone.Turns

/-! Whether the end of the 45 seconds of an attempt undoes a bridge. -/

namespace BleManaged

namespace Phone

/-- A moment at which an attempt would look for a bridge, or at which its time would be up, goes by
once the attempt is over. -/
def goesBy (phone : Phone) : Label → Option (Phone × List PhoneEvent)
  | .polled index | .timedOut index =>
    match phone.attempts[index]? with
    -- The timeout does not end the loop, and a bridge that was noticed ends both.
    | some { phase := .finished, .. } => some (phone, [])
    | _ => none
  | _ => none

/-- The phone with clocks that run on when an attempt is over. -/
def clocked (mobileDevice machineToManage : String) : Lts Phone Label PhoneEvent where
  init := (machine mobileDevice machineToManage).init
  step phone label := (step mobileDevice machineToManage phone label).or (phone.goesBy label)

/-- A channel has arrived after an attempt has written its name. -/
def BridgedSince (index : Nat) (labels : List Label) : Prop :=
  ∃ before since start, labels = before ++ .nameWritten index (.ok ()) :: since ∧
    .channelArrived start ∈ since

/-- When the time of an attempt is up and a bridge has been established since its write, the device
is not disconnected, and no search is started. -/
def TimeoutKeepsBridge (m : Lts Phone Label PhoneEvent) (labels : List Label) : Prop :=
  ∀ before index after, labels = before ++ .timedOut index :: after → BridgedSince index before →
    ∀ seen prior next out, m.Run before seen prior →
      m.step prior (.timedOut index) = some (next, out) →
      .disconnecting index ∉ out ∧ ∀ search, .scanning search ∉ out

/-- Whether there is a bridge after some labels, which the last arrival or loss decides. -/
def bridgeUp (labels : List Label) : Bool :=
  labels.foldl (fun up label => label.bridge?.getD up) false

/-- After the first labels, an attempt looks for a bridge while there is one. -/
def SeesBridge (before : List Label) (index : Nat) (since : List Label) : Prop :=
  ∃ first rest, since = first ++ .polled index :: rest ∧ bridgeUp (before ++ first) = true

/-- If a channel arrives between the write of an attempt and the end of its time, then the attempt
looks for a bridge between the two while there is one. -/
def PollsInTime (labels : List Label) : Prop :=
  ∀ before index since after,
    labels = (before ++ [.nameWritten index (.ok ())]) ++ since ++ .timedOut index :: after →
    .timedOut index ∉ since → (∃ start, .channelArrived start ∈ since) →
    SeesBridge (before ++ [.nameWritten index (.ok ())]) index since

variable {mobileDevice machineToManage : String} {phone next : Phone} {label : Label}
  {out : List PhoneEvent} {index : Nat}

/-- A run of the phone is one with clocks that run on. -/
theorem run_clocked {labels : List Label} {seen : List PhoneEvent}
    (run : (machine mobileDevice machineToManage).Run labels seen phone) :
    (clocked mobileDevice machineToManage).Run labels seen phone := by
  -- The clocks only add steps where the phone has none.
  induction run with
  | start => exact .start
  | snoc before taken ih =>
    refine ih.snoc ?_
    change step mobileDevice machineToManage _ _ = _ at taken
    simp [clocked, taken]

/-- With clocks that run on a step is one of the phone, or nothing happens. -/
theorem clocked_cases
    (taken : (clocked mobileDevice machineToManage).step phone label = some (next, out)) :
    Turn phone label next out ∨
      ∃ index, (label = .polled index ∨ label = .timedOut index) ∧
        phone.phaseOf index = some .finished ∧ next = phone ∧ out = [] := by
  rcases Option.or_eq_some_iff.mp taken with stepped | ⟨_, passed⟩
  · exact .inl (turn_cases stepped)
  · -- What goes by is a look for a bridge or the end of the time.
    right
    cases label with
    | polled index | timedOut index =>
      simp only [goesBy] at passed
      split at passed
      · rename_i ended
        cases passed
        exact ⟨index, by simp, by simp [phaseOf, ended], rfl, rfl⟩
      · cases passed
    | permission | centralCreated | centralState | peripheralCreated | peripheralState
    | peripheralDone | channelArrived | disconnectReported | found | scanError | connected
    | nameRead | delayed | disconnected | nameWritten => cases passed

/-- An attempt that is over stays over, and the end of its time does nothing. -/
theorem over_stays
    (taken : (clocked mobileDevice machineToManage).step phone label = some (next, out))
    (ended : phone.phaseOf index = some .finished) :
    next.phaseOf index = some .finished ∧ (label = .timedOut index → out = []) := by
  -- No branch of the source goes on with an attempt that is over.
  rcases clocked_cases taken with turn | ⟨_, _, _, rfl, rfl⟩
  · rcases turn.attempt ended with ⟨stays, about⟩ | ⟨after, moves, _⟩
    · refine ⟨stays, ?_⟩
      rintro rfl
      cases (about rfl).1
    · cases moves
  · exact ⟨ended, fun _ => rfl⟩

/-- An attempt that waits goes on to wait, unless it notices a bridge or its time is up. -/
theorem waiting_steps
    (taken : (clocked mobileDevice machineToManage).step phone label = some (next, out))
    (waiting : phone.phaseOf index = some .waiting) :
    (label = .timedOut index ∧ .disconnecting index ∈ out) ∨
      (label = .polled index ∧ phone.bridgeEstablished = true ∧
        next.phaseOf index = some .finished) ∨
      (next.phaseOf index = some .waiting ∧
        (label = .polled index → phone.bridgeEstablished = false)) := by
  -- A step that is about another attempt leaves this one waiting.
  rcases clocked_cases taken with turn | ⟨other, named, ended, rfl, rfl⟩
  · rcases turn.attempt waiting with ⟨stays, about⟩ | ⟨after, moves, moved⟩
    · refine .inr (.inr ⟨stays, ?_⟩)
      rintro rfl
      exact (about rfl).2.2
    · -- The wait ends in one of two ways.
      cases moves with
      | bridged established => exact .inr (.inl ⟨rfl, established, moved⟩)
      | timedOut => exact .inl ⟨rfl, by simp⟩
  · -- The moment that goes by is one of another attempt.
    refine .inr (.inr ⟨waiting, ?_⟩)
    rintro rfl
    rcases named with same | same
    · cases same
      rw [waiting] at ended
      cases ended
    · cases same

/-- When its time is up, an attempt is over. -/
theorem timedOut_over
    (taken : (clocked mobileDevice machineToManage).step phone (.timedOut index) =
      some (next, out)) : next.phaseOf index = some .finished := by
  -- The handler ends the attempt, unless it was over before.
  rcases clocked_cases taken with turn | ⟨other, named, ended, rfl, rfl⟩
  · rcases turn.own rfl with looked | ⟨before, after, moves, moved⟩
    · cases looked
    · cases moves
      exact moved
  · rcases named with same | same
    · cases same
    · cases same
      exact ended

/-- When it has written its name, an attempt waits. -/
theorem nameWritten_waits
    (taken : (clocked mobileDevice machineToManage).step phone (.nameWritten index (.ok ())) =
      some (next, out)) : next.phaseOf index = some .waiting := by
  -- Only the attempt that writes takes this label, and it waits then.
  rcases clocked_cases taken with turn | ⟨other, named, ended, rfl, rfl⟩
  · rcases turn.own rfl with looked | ⟨before, after, moves, moved⟩
    · cases looked
    · cases moves
      exact moved
  · rcases named with same | same <;> cases same

variable {labels : List Label} {seen : List PhoneEvent}

/-- In every run the last arrival or loss decides whether there is a bridge. -/
theorem bridge_eq (run : (clocked mobileDevice machineToManage).Run labels seen phone) :
    phone.bridgeEstablished = bridgeUp labels := by
  -- The flag is changed by arrivals and losses only, and starts unset.
  induction run with
  | start => rfl
  | snoc before taken ih =>
    rw [bridgeUp, List.foldl_append, ← bridgeUp, ← ih]
    rcases clocked_cases taken with turn | ⟨_, named, _, rfl, _⟩
    · exact turn.bridgeEstablished
    · rcases named with rfl | rfl <;> rfl

/-- One more label can only be one more look for a bridge. -/
theorem seesBridge_concat {before since : List Label} :
    SeesBridge before index (since ++ [label]) ↔
      SeesBridge before index since ∨
        label = .polled index ∧ bridgeUp (before ++ since) = true := by
  constructor
  · rintro ⟨first, rest, split, up⟩
    -- The look is the last label exactly when nothing comes after it.
    rcases List.eq_nil_or_concat rest with rfl | ⟨init, last, rfl⟩
    · obtain ⟨rfl, rfl⟩ := List.append_singleton_inj.mp split
      exact .inr ⟨rfl, up⟩
    · rw [List.concat_eq_append, ← List.cons_append, ← List.append_assoc] at split
      obtain ⟨rfl, _⟩ := List.append_singleton_inj.mp split
      exact .inl ⟨first, init, rfl, up⟩
  · -- A look that was in time before stays so with one more label.
    rintro (⟨first, rest, rfl, up⟩ | ⟨rfl, up⟩)
    · exact ⟨first, rest ++ [label], by simp, up⟩
    · exact ⟨since, [], rfl, up⟩

/-- Until its time is up, an attempt that waits goes on to wait exactly as long as it has not looked
for a bridge while there was one. -/
theorem waits_until_seen {before since : List Label} {earlier : List PhoneEvent} {prior : Phone}
    (reached : (clocked mobileDevice machineToManage).Run before earlier prior)
    (waiting : prior.phaseOf index = some .waiting)
    (run : (clocked mobileDevice machineToManage).Run (before ++ since) seen phone)
    (inTime : .timedOut index ∉ since) :
    (phone.phaseOf index = some .waiting ∧ ¬SeesBridge before index since) ∨
      (phone.phaseOf index = some .finished ∧ SeesBridge before index since) := by
  -- The induction adds the labels since the write one by one, and the time is never up.
  induction since using List.reverseRecOn generalizing seen phone with
  | nil =>
    rw [List.append_nil] at run
    obtain ⟨_, rfl⟩ := reached.unique run
    exact .inl ⟨waiting, by simp [SeesBridge]⟩
  | append_singleton since label ih =>
    rw [← List.append_assoc] at run
    obtain ⟨middle, shown, out, came, taken, _⟩ := run.last
    rw [seesBridge_concat, ← bridge_eq came]
    rcases ih came (fun late => inTime (List.mem_append_left _ late)) with
      ⟨waits, unseen⟩ | ⟨ended, sees⟩
    · rcases waiting_steps taken waits with ⟨rfl, _⟩ | ⟨rfl, up, ended⟩ | ⟨still, down⟩
      · exact absurd (by simp) inTime
      · -- This label is the look that notices the bridge.
        exact .inr ⟨ended, .inr ⟨rfl, up⟩⟩
      · refine .inl ⟨still, ?_⟩
        -- It has not looked at a bridge before, and now there is none.
        rintro (sees | ⟨looked, up⟩)
        · exact unseen sees
        · rw [down looked] at up
          cases up
    · -- An attempt that is over has noticed its bridge already.
      exact .inr ⟨(over_stays taken ended).1, .inl sees⟩

/-- After the end of its time an attempt is over for the rest of the run. -/
theorem over_since {before after : List Label}
    (run : (clocked mobileDevice machineToManage).Run (before ++ .timedOut index :: after) seen
      phone) : phone.phaseOf index = some .finished := by
  -- It is over when its time is up, and no later step changes that.
  obtain ⟨earlier, prior, next, out, reached, taken⟩ := run.taken
  rw [List.append_cons] at run
  exact run.stays (reached.snoc taken) (fun phone => phone.phaseOf index = some .finished)
    (timedOut_over taken) fun _ ended taken => (over_stays taken ended).1

/-- Attempts that have written their names wait when the write is done. -/
theorem waits_since_write {before since : List Label}
    (run : (clocked mobileDevice machineToManage).Run
      (before ++ [.nameWritten index (.ok ())] ++ since) seen phone) :
    ∃ earlier prior, (clocked mobileDevice machineToManage).Run
        (before ++ [.nameWritten index (.ok ())]) earlier prior ∧
      prior.phaseOf index = some .waiting := by
  -- The run up to the write ends in the step that writes.
  obtain ⟨earlier, prior, written⟩ := run.prior
  obtain ⟨_, _, _, _, taken, _⟩ := written.last
  exact ⟨earlier, prior, written, nameWritten_waits taken⟩

/-- In a run, the end of the time of an attempt never undoes a bridge that was established since its
write, exactly when every attempt with such a bridge looks for one in time while there is one. -/
theorem timeout_keeps_bridge_iff
    (run : (clocked mobileDevice machineToManage).Run labels seen phone) :
    TimeoutKeepsBridge (clocked mobileDevice machineToManage) labels ↔ PollsInTime labels := by
  constructor
  · intro keeps before index since after split inTime arrived
    obtain ⟨start, arrived⟩ := arrived
    subst split
    obtain ⟨earlier, prior, next, out, reached, taken⟩ := run.taken
    -- The attempt waits from its write on, until it notices a bridge.
    obtain ⟨_, _, written, waiting⟩ := waits_since_write reached
    rcases waits_until_seen written waiting reached inTime with ⟨waits, _⟩ | ⟨_, sees⟩
    · -- An attempt that still waits would disconnect the device.
      have kept := (keeps _ index after rfl ⟨before, since, start, by simp, arrived⟩ _ _ _ _ reached
        taken).1
      rcases waiting_steps taken waits with ⟨_, disconnects⟩ | ⟨looked, _⟩ | ⟨still, _⟩
      · exact absurd disconnects kept
      · cases looked
      · rw [timedOut_over taken] at still
        cases still
    · exact sees
  · intro polls whole index after split bridged seen prior next out reached taken
    obtain ⟨before, since, start, rfl, arrived⟩ := bridged
    rw [List.append_cons] at reached
    -- The time does nothing if the attempt is over by then.
    have ended : prior.phaseOf index = some .finished := by
      by_cases late : .timedOut index ∈ since
      · -- Its time has been up before.
        obtain ⟨first, rest, rfl⟩ := List.append_of_mem late
        rw [← List.append_assoc] at reached
        exact over_since reached
      · have sees := polls before index since after (by simpa using split) late ⟨start, arrived⟩
        obtain ⟨_, _, written, waiting⟩ := waits_since_write reached
        rcases waits_until_seen written waiting reached late with ⟨_, unseen⟩ | ⟨ended, _⟩
        · exact absurd sees unseen
        · exact ended
    rw [(over_stays taken ended).2 rfl]
    simp

/-- A start whose peripheral listens for channels, and an attempt that has written its name. -/
def exampleWaiting : List Label :=
  examplePowerOn ++
    [.peripheralCreated 0 (.ok ()), .peripheralState 0 true, .peripheralDone 0 (.ok ()),
      .peripheralDone 0 (.ok ()), .peripheralDone 0 (.ok ()), .found 0 "b" 0,
      .connected 0 (.ok exampleServices), .nameRead 0 (.ok (some [109])), .nameWritten 0 (.ok ())]

/-- A look for a bridge right behind the arrival of a channel is in time. -/
theorem exampleWaiting_polls :
    PollsInTime (exampleWaiting ++ [.channelArrived 0] ++ [.polled 0] ++ [.timedOut 0]) := by
  intro before index since after split _ arrived
  rcases List.eq_nil_or_concat after with rfl | ⟨init, last, rfl⟩
  · -- The end of the time is the last label, and the look for a bridge is the one before it.
    obtain ⟨split, same⟩ := List.append_singleton_inj.mp split
    cases same
    rcases List.eq_nil_or_concat since with rfl | ⟨first, last, rfl⟩
    · -- There is a channel to be looked for, so something comes between the two.
      simp at arrived
    · rw [List.concat_eq_append, ← List.append_assoc] at split
      obtain ⟨earlier, rfl⟩ := List.append_singleton_inj.mp split
      exact ⟨first, [], by simp, by rw [← earlier]; rfl⟩
  · -- No attempt has its time up before that.
    rw [List.concat_eq_append, ← List.cons_append, ← List.append_assoc] at split
    obtain ⟨split, _⟩ := List.append_singleton_inj.mp split
    have early : .timedOut index ∈ exampleWaiting ++ [.channelArrived 0] ++ [.polled 0] := by
      simp [split]
    simp [exampleWaiting, examplePowerOn] at early

/-- A channel arrives and is noticed a moment later, long before the time of the attempt is up. -/
theorem timeout_keeps_bridge_iff_noticed :
    (∃ seen phone, (clocked "p" "m").Run
        (exampleWaiting ++ [.channelArrived 0] ++ [.polled 0] ++ [.timedOut 0]) seen phone ∧
      phone.bridgeEstablished = true ∧ phone.searches = [.cancelled]) ∧
      TimeoutKeepsBridge (clocked "p" "m")
        (exampleWaiting ++ [.channelArrived 0] ++ [.polled 0] ++ [.timedOut 0]) := by
  have run : (clocked "p" "m").Run
      (exampleWaiting ++ [.channelArrived 0] ++ [.polled 0] ++ [.timedOut 0]) _ _ :=
    Lts.Run.of_exec rfl
  -- The end of the time finds the attempt over, and the search stays cancelled.
  exact ⟨⟨_, _, run, rfl, by decide +kernel⟩,
    (timeout_keeps_bridge_iff run).mpr exampleWaiting_polls⟩

/-- A channel that arrives between the last look for a bridge and the end of the time is undone. -/
theorem timeout_undoes_bridge :
    ¬∀ (mobileDevice machineToManage : String) (labels : List Label) (seen : List PhoneEvent)
      (phone : Phone), (machine mobileDevice machineToManage).Run labels seen phone →
        TimeoutKeepsBridge (clocked mobileDevice machineToManage) labels := by
  intro always
  have run : (machine "p" "m").Run
      (exampleWaiting ++ [.polled 0, .channelArrived 0, .timedOut 0]) _ _ := Lts.Run.of_exec rfl
  have reached : (machine "p" "m").Run (exampleWaiting ++ [.polled 0, .channelArrived 0]) _ _ :=
    Lts.Run.of_exec rfl
  -- The channel comes behind the write and behind the last look.
  have bridged : BridgedSince 0 (exampleWaiting ++ [.polled 0, .channelArrived 0]) :=
    ⟨exampleWaiting.dropLast, [.polled 0, .channelArrived 0], 0, rfl, by simp⟩
  have kept := (always _ _ _ _ _ run (exampleWaiting ++ [.polled 0, .channelArrived 0]) 0 [] rfl
    bridged _ _ _ _ (run_clocked reached) rfl).1
  -- The handler disconnects the device all the same.
  revert kept
  decide +kernel

end Phone

end BleManaged
