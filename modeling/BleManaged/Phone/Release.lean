import BleManaged.Phone.OneSearch
import BleManaged.Phone.Turns

/-! Whether an attempt that has failed lets go of its device. -/

namespace BleManaged

/-- The attempt that an event is about. -/
def PhoneEvent.attempt? : PhoneEvent → Option Nat
  | .connecting index | .connected index | .disconnecting index | .writing index _
  | .written index | .timedOut index => some index
  | .scanning _ | .bridge _ => none

/-- The events that start a scan or a connection. -/
def PhoneEvent.Starts : PhoneEvent → Prop
  | .scanning _ | .connecting _ => True
  | _ => False

namespace Phone

/-- The name has been written, and a bridge has been established before the time was up. -/
def Succeeded (seen : List PhoneEvent) (index : Nat) : Prop :=
  .written index ∈ seen ∧ .bridge true ∈ seen ∧ .timedOut index ∉ seen

instance (seen : List PhoneEvent) (index : Nat) : Decidable (Succeeded seen index) :=
  inferInstanceAs (Decidable (_ ∧ _))

/-- An attempt that was connected is over, and has not succeeded. -/
structure Failed (seen : List PhoneEvent) (phone : Phone) (index : Nat) : Prop where
  ended : ∃ attempt, phone.attempts[index]? = some attempt ∧ attempt.phase = .finished
  connected : .connected index ∈ seen
  unsuccessful : ¬Succeeded seen index

/-- Whenever a scan or a connection is started, every attempt that has failed by then has called the
disconnect of its device. -/
def Released (seen : List PhoneEvent) (next : Phone) (out : List PhoneEvent) : Prop :=
  ∀ first event rest, out = first ++ event :: rest → event.Starts →
    ∀ index, Failed (seen ++ first) next index → .disconnecting index ∈ seen ++ first

/-- A read of the name of a machine gives a name. -/
def Label.Readable : Label → Prop
  | .nameRead _ result => ∃ periphName, readName result = some periphName
  | _ => True

/-- Nothing has been seen yet of the end of an attempt. -/
def Untold (seen : List PhoneEvent) (index : Nat) : Prop :=
  .disconnecting index ∉ seen ∧ .written index ∉ seen ∧ .timedOut index ∉ seen

/-- What has been seen of an attempt, by its phase. -/
def Tracks (seen : List PhoneEvent) (index : Nat) : AttemptPhase → Prop
  | .connecting => .connected index ∉ seen ∧ Untold seen index
  | .reading _ | .delaying | .writing => .connected index ∈ seen ∧ Untold seen index
  | .disconnecting _ => .disconnecting index ∈ seen
  | .waiting => .written index ∈ seen ∧ .timedOut index ∉ seen
  | .finished =>
    .connected index ∈ seen → .disconnecting index ∈ seen ∨ Succeeded seen index

variable {seen out : List PhoneEvent} {phone next : Phone} {label : Label} {index : Nat}

/-- Events that are not about an attempt do not change what was told about it. -/
theorem told_iff (untouched : ∀ event ∈ out, event.attempt? ≠ some index) {event : PhoneEvent}
    (about : event.attempt? = some index) : event ∈ seen ++ out ↔ event ∈ seen := by
  rw [List.mem_append]
  refine ⟨?_, .inl⟩
  -- What is told now is about other attempts or about none.
  rintro (earlier | now)
  · exact earlier
  · exact absurd about (untouched event now)

/-- Events that are not about an attempt leave its story as it is. -/
theorem Tracks.frame {phase : AttemptPhase} (tracks : Tracks seen index phase)
    (untouched : ∀ event ∈ out, event.attempt? ≠ some index) :
    Tracks (seen ++ out) index phase := by
  -- Each event that a story is about has been seen before or not at all.
  have connected : .connected index ∈ seen ++ out ↔ .connected index ∈ seen :=
    told_iff untouched rfl
  have disconnecting : .disconnecting index ∈ seen ++ out ↔ .disconnecting index ∈ seen :=
    told_iff untouched rfl
  have written : .written index ∈ seen ++ out ↔ .written index ∈ seen := told_iff untouched rfl
  have timedOut : .timedOut index ∈ seen ++ out ↔ .timedOut index ∈ seen := told_iff untouched rfl
  cases phase with
  | connecting | reading | delaying | writing | disconnecting | waiting =>
    simpa only [Tracks, Untold, connected, disconnecting, written, timedOut] using tracks
  | finished =>
    intro told
    rcases tracks (connected.mp told) with released | succeeded
    · exact .inl (disconnecting.mpr released)
    · -- A bridge that has been established stays established.
      obtain ⟨wrote, bridge, inTime⟩ := succeeded
      exact .inr ⟨written.mpr wrote, List.mem_append_left _ bridge, fun late =>
        inTime (timedOut.mp late)⟩

/-- An attempt that goes on tells nothing about the others. -/
theorem AttemptMove.untouched {bridge : Bool} {before after : AttemptPhase}
    (moves : AttemptMove bridge index label before after out) {other : Nat}
    (different : other ≠ index) : ∀ event ∈ out, event.attempt? ≠ some other := by
  cases moves <;> simp [PhoneEvent.attempt?, Ne.symm different]

/-- An attempt that goes on goes on with its story, unless it fails to read the name. -/
theorem AttemptMove.tracks {bridge : Bool} {before after : AttemptPhase}
    (moves : AttemptMove bridge index label before after out) (readable : label.Readable)
    (established : bridge = true → .bridge true ∈ seen) (tracks : Tracks seen index before) :
    Tracks (seen ++ out) index after := by
  -- One case for each branch of the source, which either disconnects or has nothing to disconnect.
  cases moves with
  | missing | delayed | notWritten => simp [Tracks]
  | connected =>
    obtain ⟨_, untold⟩ := tracks
    exact ⟨by simp, by simpa [Untold] using untold⟩
  | unconnected =>
    -- There is nothing to disconnect.
    intro told
    exact absurd (by simpa using told) tracks.1
  | different => simp [Tracks]
  | delaying =>
    rw [List.append_nil]
    exact tracks
  | matched =>
    obtain ⟨connected, untold⟩ := tracks
    exact ⟨List.mem_append_left _ connected, by simpa [Untold] using untold⟩
  | unread unread =>
    -- Nothing is disconnected here, which the condition rules out.
    obtain ⟨periphName, read⟩ := readable
    rw [unread] at read
    cases read
  | resumed | restarted =>
    intro _
    exact .inl (List.mem_append_left _ tracks)
  | written =>
    obtain ⟨_, _, _, inTime⟩ := tracks
    exact ⟨by simp, by simpa using inTime⟩
  | bridged there =>
    -- The name was written and there is a bridge, so the attempt has succeeded.
    obtain ⟨wrote, inTime⟩ := tracks
    rw [List.append_nil]
    exact fun _ => .inr ⟨wrote, established there, inTime⟩
  | timedOut =>
    intro _
    exact .inl (by simp)

/-- What has been seen agrees with the attempts and the bridge. -/
structure Tracked (seen : List PhoneEvent) (phone : Phone) : Prop where
  /-- The story of every attempt is that of its phase. -/
  attempts : ∀ index attempt, phone.attempts[index]? = some attempt →
    Tracks seen index attempt.phase
  /-- Nothing has been seen of attempts that have not begun. -/
  fresh : ∀ event ∈ seen, ∀ index, event.attempt? = some index → index < phone.attempts.length
  /-- A bridge has been seen to be established. -/
  bridge : phone.bridgeEstablished = true → .bridge true ∈ seen

/-- A step that is about no attempt keeps all stories. -/
theorem Tracked.quiet (tracked : Tracked seen phone) (attempts : next.attempts = phone.attempts)
    (untouched : ∀ event ∈ out, event.attempt? = none)
    (bridge : next.bridgeEstablished = true → .bridge true ∈ seen ++ out) :
    Tracked (seen ++ out) next := by
  -- The attempts are as they were, and so are their stories.
  refine ⟨?_, ?_, bridge⟩
  · intro index attempt held
    rw [attempts] at held
    exact (tracked.attempts index attempt held).frame fun event member => by
      simp [untouched event member]
  · intro event member index about
    rw [attempts]
    rcases List.mem_append.mp member with earlier | now
    · exact tracked.fresh event earlier index about
    · rw [untouched event now] at about
      cases about

/-- Every step keeps all stories, unless an attempt fails to read the name. -/
theorem Tracked.turn (tracked : Tracked seen phone) (turn : Turn phone label next out)
    (readable : label.Readable) : Tracked (seen ++ out) next := by
  cases turn with
  | quiet _ attempts bridge shown =>
    refine tracked.quiet attempts ?_ fun there =>
      List.mem_append_left _ (tracked.bridge (bridge ▸ there))
    rcases shown with rfl | ⟨search, rfl⟩ <;> simp [PhoneEvent.attempt?]
  | @bridge _ _ established _ _ attempts bridge =>
    -- The flag follows the event, and no attempt is told of.
    refine tracked.quiet attempts (by simp [PhoneEvent.attempt?]) ?_
    intro there
    rw [bridge] at there
    simp [there]
  | waited => simpa using tracked
  | tried attempts bridge =>
    refine ⟨?_, ?_, fun there => List.mem_append_left _ (tracked.bridge (bridge ▸ there))⟩
    · intro index attempt held
      rw [attempts] at held
      rcases Slots.of_push held with ⟨rfl, rfl⟩ | held
      · -- The index is new, so nothing was seen of it.
        have nothing : ∀ event ∈ seen, event.attempt? ≠ some phone.attempts.length :=
          fun event member about => absurd (tracked.fresh event member _ about) (by simp)
        refine ⟨fun told => ?_, fun told => ?_, fun told => ?_, fun told => ?_⟩
        all_goals exact nothing _ (by simpa using told) rfl
      · refine (tracked.attempts index attempt held).frame ?_
        have within := (List.getElem?_eq_some_iff.mp held).1
        simp [PhoneEvent.attempt?, Nat.ne_of_gt within]
    · intro event member index about
      rw [attempts, List.length_append]
      rcases List.mem_append.mp member with earlier | now
      · exact Nat.lt_add_right 1 (tracked.fresh event earlier index about)
      · obtain rfl := List.mem_singleton.mp now
        cases about
        simp
  | @moved index attempt _ phase _ _ trying moves attempts bridge =>
    refine ⟨?_, ?_, fun there => List.mem_append_left _ (tracked.bridge (bridge ▸ there))⟩
    · intro other another held
      rw [attempts] at held
      -- One story goes on, and the others are left as they are.
      rcases Slots.of_modify held with ⟨rfl, before, same, rfl⟩ | ⟨different, held⟩
      · exact moves.tracks readable tracked.bridge (tracked.attempts other attempt trying)
      · exact (tracked.attempts other another held).frame (moves.untouched different)
    · intro event member other about
      rw [attempts, List.length_modify]
      rcases List.mem_append.mp member with earlier | now
      · exact tracked.fresh event earlier other about
      · by_cases same : other = index
        · subst same
          exact (List.getElem?_eq_some_iff.mp trying).1
        · exact absurd about (moves.untouched same event now)

variable {mobileDevice machineToManage : String} {labels : List Label}

/-- In every run in which the names are read, the events tell the story of each attempt. -/
theorem tracked (run : (machine mobileDevice machineToManage).Run labels seen phone)
    (readable : ∀ label ∈ labels, label.Readable) : Tracked seen phone := by
  -- Before the first step nothing has been told, and there are no attempts.
  refine run.invariant_where (.of_labels fun label member _ => readable label member) Tracked ?_ ?_
  · exact ⟨by simp [machine], by simp, by simp [machine]⟩
  · intro labels seen prior label next out _ readable tracked taken
    exact tracked.turn (turn_cases taken) readable

/-- An attempt that goes on starts a scan last, if at all. -/
theorem AttemptMove.early {bridge : Bool} {before after : AttemptPhase}
    (moves : AttemptMove bridge index label before after out) :
    ∀ event ∈ out.dropLast, ¬event.Starts := by
  cases moves <;> simp [PhoneEvent.Starts]

/-- Only the last event of a step can start a scan or a connection. -/
theorem Turn.starts_last (turn : Turn phone label next out) {first rest : List PhoneEvent}
    {event : PhoneEvent} (split : out = first ++ event :: rest) (starts : event.Starts) :
    rest = [] := by
  have early : ∀ event ∈ out.dropLast, ¬event.Starts := by
    cases turn with
    | quiet _ _ _ shown => rcases shown with rfl | ⟨search, rfl⟩ <;> simp
    | moved _ moves => exact moves.early
    | bridge | tried | waited => simp
  -- With more behind it the event would be an early one.
  by_contra more
  refine early event ?_ starts
  rw [split, List.dropLast_append_of_ne_nil (by simp), List.dropLast_cons_of_ne_nil more]
  simp

/-- A step that keeps all stories starts nothing while a device is still held. -/
theorem Tracked.released (tracked : Tracked (seen ++ out) next)
    (turn : Turn phone label next out) : Released seen next out := by
  intro first event rest split starts index failed
  obtain rfl := turn.starts_last split starts
  subst split
  -- What starts a scan or a connection tells nothing of how an attempt ends.
  have before : ∀ other, ¬other.Starts → other ∈ seen ++ (first ++ [event]) →
      other ∈ seen ++ first := by
    intro other apart member
    rw [← List.append_assoc] at member
    rcases List.mem_append.mp member with earlier | last
    · exact earlier
    · rw [List.mem_singleton.mp last] at apart
      exact absurd starts apart
  have after : ∀ other, other ∈ seen ++ first → other ∈ seen ++ (first ++ [event]) := by
    intro other member
    rw [← List.append_assoc]
    exact List.mem_append_left _ member
  -- The story of an attempt that is over names its disconnect or its success.
  obtain ⟨attempt, held, ended⟩ := failed.ended
  have story := tracked.attempts index attempt held
  rw [ended] at story
  rcases story (after _ failed.connected) with released | ⟨wrote, bridge, inTime⟩
  · exact before _ (by simp [PhoneEvent.Starts]) released
  · have succeeded : Succeeded (seen ++ first) index :=
      ⟨before _ (by simp [PhoneEvent.Starts]) wrote, before _ (by simp [PhoneEvent.Starts]) bridge,
        fun late => inTime (after _ late)⟩
    exact absurd succeeded failed.unsuccessful

/-- An attempt that fails to read the name starts a scan and still holds its device. -/
theorem Tracked.unreleased (tracked : Tracked seen phone) (turn : Turn phone label next out)
    (unreadable : ¬label.Readable) : ¬Released seen next out := by
  intro released
  cases label with
  | nameRead number result =>
    -- The label moves an attempt that reads, and the read gives no name.
    cases turn with
    | quiet other => cases other.1
    | bridge other => cases other
    | @moved index attempt _ phase _ _ trying moves attempts =>
      obtain ⟨search, periph, before⟩ := attempt
      cases moves with
      | different read | delaying read | matched read => exact unreadable ⟨_, read⟩
      | @unread _ viamSvc again unread =>
        obtain ⟨connected, untold⟩ := tracked.attempts number _ trying
        have failed : Failed (seen ++ []) next number := by
          refine ⟨⟨⟨search, periph, .finished⟩, ?_, rfl⟩, by simpa using connected, ?_⟩
          · rw [attempts, List.getElem?_modify, trying]
            simp
          · intro succeeded
            exact untold.2.1 (by simpa using succeeded.1)
        -- The scan is the first thing that is seen of this step.
        have disconnected := released [] (.scanning again) [] rfl trivial number failed
        exact untold.1 (by simpa using disconnected)
  | permission | centralCreated | centralState | peripheralCreated | peripheralState
  | peripheralDone | channelArrived | disconnectReported | found | scanError | connected | delayed
  | disconnected | nameWritten | polled | timedOut => exact unreadable trivial

/-- In a run, every attempt that has failed disconnects its device before any scan or connection is
started, exactly when every read of the name of a machine gives a name. -/
theorem released_iff_readable
    (run : (machine mobileDevice machineToManage).Run labels seen phone) :
    (machine mobileDevice machineToManage).EachTurn
        (fun seen _ _ next out => Released seen next out) labels ↔
      ∀ label ∈ labels, label.Readable := by
  -- As long as every name has been read the stories are complete, so the next step decides.
  refine run.eachTurn_iff ?_
  intro before earlier prior label next out reached readable taken
  have tracked := tracked reached readable
  constructor
  · intro released
    by_contra unreadable
    exact tracked.unreleased (turn_cases taken) unreadable released
  · intro reads
    exact (tracked.turn (turn_cases taken) reads).released (turn_cases taken)

/-- Two attempts that read a name disconnect their devices before the next scan and the next
connection. -/
theorem released_iff_readable_two_attempts :
    (∃ seen phone, (machine "p" "m").Run (examplePowerOn ++ exampleAttempts) seen phone ∧
      Failed seen phone 0 ∧ Failed seen phone 1) ∧
      (machine "p" "m").EachTurn (fun seen _ _ next out => Released seen next out)
        (examplePowerOn ++ exampleAttempts) := by
  have run : (machine "p" "m").Run (examplePowerOn ++ exampleAttempts) _ _ := Lts.Run.of_exec rfl
  refine ⟨⟨_, _, run, ?_, ?_⟩, (released_iff_readable run).mpr ?_⟩
  · exact ⟨⟨_, rfl, by decide +kernel⟩, by decide +kernel, by decide +kernel⟩
  · exact ⟨⟨_, rfl, by decide +kernel⟩, by decide +kernel, by decide +kernel⟩
  · intro label member
    simp only [examplePowerOn, exampleAttempts, List.cons_append, List.nil_append, List.mem_cons,
      List.not_mem_nil, or_false] at member
    rcases member with rfl | rfl | rfl | rfl | rfl | rfl | rfl | rfl | rfl | rfl | rfl | rfl |
      rfl | rfl | rfl
    -- Two of the labels read a name, and the others read nothing.
    all_goals first
      | exact trivial
      | exact ⟨"n", by decide +kernel⟩
      | exact ⟨"m", by decide +kernel⟩

/-- An attempt whose read of the name fails starts a scan and holds its device. -/
theorem unread_holds_device :
    ¬∀ (mobileDevice machineToManage : String) (labels : List Label) (seen : List PhoneEvent)
      (phone : Phone), (machine mobileDevice machineToManage).Run labels seen phone →
        (machine mobileDevice machineToManage).EachTurn
          (fun seen _ _ next out => Released seen next out) labels := by
  intro always
  have run : (machine "p" "m").Run (examplePowerOn ++
      [.found 0 "a" 0, .connected 0 (.ok exampleServices), .nameRead 0 (.error "GATT error 133")])
      _ _ := Lts.Run.of_exec rfl
  have reached : (machine "p" "m").Run (examplePowerOn ++
      [.found 0 "a" 0, .connected 0 (.ok exampleServices)]) _ _ := Lts.Run.of_exec rfl
  -- The last label is the read, and the scan is the first thing seen of it.
  have released := always _ _ _ _ _ run
    (examplePowerOn ++ [.found 0 "a" 0, .connected 0 (.ok exampleServices)])
    (.nameRead 0 (.error "GATT error 133")) [] rfl _ _ _ _ reached rfl
  have failed := released [] (.scanning 1) [] rfl trivial 0
    ⟨⟨_, rfl, by decide +kernel⟩, by decide +kernel, by decide +kernel⟩
  revert failed
  decide +kernel

end Phone

end BleManaged
