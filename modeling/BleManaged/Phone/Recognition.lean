import BleManaged.Phone.Story

/-! The phone recognises the machine that it manages by the part ID that the machine serves. -/

namespace BleManaged

open Unicode

/-- The characters of a text behind one byte order mark in front, if there is one. -/
def withoutMark (text : String) : String :=
  match text.toList with
  | '\uFEFF' :: chars => String.ofList chars
  | _ => text

/-- The bytes of a byte order mark are the character that it is. -/
theorem pieces_mark (bytes : List UInt8) :
    pieces (0xEF :: 0xBB :: 0xBF :: bytes) = .char '\uFEFF' :: pieces bytes := by
  have mark : String.utf8EncodeChar '\uFEFF' = [0xEF, 0xBB, 0xBF] := by decide +kernel
  have encoded := pieces_encode '\uFEFF' bytes
  rwa [mark] at encoded

/-- What a text is decoded as from its bytes. -/
theorem utf8Decode_utf8 (text : String) : utf8Decode (utf8 text) = .ok (withoutMark text) := by
  have whole : pieces (utf8 text) = text.toList.map .char := pieces_utf8Chars text.toList
  unfold utf8Decode
  split
  · -- A byte order mark in front is a character of the text.
    rename_i bytes marked
    rw [marked, pieces_mark] at whole
    cases chars : text.toList with
    | nil => simp [chars] at whole
    | cons char rest =>
      rw [chars, List.map_cons, List.cons.injEq] at whole
      obtain ⟨first, others⟩ := whole
      cases first
      rw [fromUtf8_eq_ok_iff, utf8Chars_of_pieces others, utf8, withoutMark, chars]
      simp
  · rename_i unmarked
    -- Without a mark in front of the bytes there is none in front of the text.
    have same : withoutMark text = text := by
      unfold withoutMark
      split
      · rename_i chars marked
        have bytes : utf8 text = 0xEF :: 0xBB :: 0xBF :: utf8Chars chars := by
          have mark : String.utf8EncodeChar '\uFEFF' = [0xEF, 0xBB, 0xBF] := by decide +kernel
          rw [utf8, marked, utf8Chars, List.flatMap_cons, mark]
          rfl
        exact absurd bytes (unmarked _)
      · rfl
    rw [same, fromUtf8_eq_ok_iff]

/-- What the phone reads is the part ID, without one byte order mark in front. -/
theorem Phone.readName_utf8 (machinePartId : String) :
    Phone.readName (.ok (some (utf8 machinePartId))) = some (withoutMark machinePartId) := by
  rw [Phone.readName, utf8Decode_utf8]
  rfl

namespace Phone

/-- What a machine serves, as the phone sees it. -/
def servedService : BleService where
  id := viamSvcUUID
  characteristics := [viamManagedMachineNameCharUUID, viamSocksProxyNameCharUUID]

/-- Every device that an attempt connects to is a machine, and serves its part ID. -/
def Label.Served (partId : Nat → String) : Label → Prop
  | .connected _ (.ok services) => services.find? (·.id = viamSvcUUID) = some servedService
  | .nameRead index (.ok (some bytes)) => bytes = utf8 (partId index)
  | _ => True

/-- Looking at all for something that is there finds it. -/
theorem lookRepeatedly_eq {α : Type} (found : Option α) :
    lookRepeatedly numRetries found = found := by
  -- What is not there at the first look is not there later, since nothing changes in between.
  cases found <;> rfl

variable {mobileDevice machineToManage : String} {seen out : List PhoneEvent} {phone next : Phone}
  {label : Label} {index : Nat}

/-- The attempts that read a name read it from what a machine serves. -/
def ReadsServed (phone : Phone) : Prop :=
  ∀ index viamSvc, phone.phaseOf index = some (.reading viamSvc) → viamSvc = servedService

/-- An attempt that has only just begun is connecting. -/
theorem Turn.begun (turn : Turn phone label next out) (none : phone.phaseOf index = none)
    {phase : AttemptPhase} (held : next.phaseOf index = some phase) : phase = .connecting := by
  -- Any other turn leaves the attempt unmade.
  have absent : phone.attempts[index]? = .none := Option.map_eq_none_iff.mp none
  obtain ⟨attempt, found, rfl⟩ := Option.map_eq_some_iff.mp held
  cases turn with
  | quiet _ attempts | bridge _ _ attempts =>
    rw [attempts, absent] at found
    cases found
  | waited =>
    rw [absent] at found
    cases found
  | tried attempts =>
    rw [attempts] at found
    rcases Slots.of_push found with ⟨_, rfl⟩ | earlier
    · rfl
    · rw [absent] at earlier
      cases earlier
  | moved _ _ attempts =>
    rw [attempts, List.getElem?_modify, absent] at found
    cases found

/-- An attempt comes to read a name only by being connected. -/
theorem AttemptMove.reading {bridge : Bool} {before : AttemptPhase} {viamSvc : BleService}
    (moves : AttemptMove bridge index label before (.reading viamSvc) out) :
    before = .connecting ∧ ∃ services, label = .connected index (.ok services) := by
  -- No other phase leads to a read.
  cases moves
  exact ⟨rfl, _, rfl⟩

/-- An attempt that is connected to a machine finds what the machine serves. -/
theorem connected_served {services : List BleService}
    (taken : step mobileDevice machineToManage phone (.connected index (.ok services)) =
      some (next, out)) (held : phone.phaseOf index = some .connecting)
    (serves : services.find? (·.id = viamSvcUUID) = some servedService) :
    next.phaseOf index = some (.reading servedService) := by
  -- The service is found at the first look, and the characteristic in it too.
  obtain ⟨⟨search, periph, _⟩, found, rfl⟩ := Option.map_eq_some_iff.mp held
  have named : servedService.characteristics.find? (· = viamManagedMachineNameCharUUID) =
      some viamManagedMachineNameCharUUID := by decide +kernel
  simp only [step, stepStart, Option.none_or, stepAttempt, found, connected, lookRepeatedly_eq,
    serves, named] at taken
  cases taken
  simp [phaseOf, setPhase, found]

/-- Every step keeps this. -/
theorem ReadsServed.step {partId : Nat → String} (reads : phone.ReadsServed)
    (taken : Phone.step mobileDevice machineToManage phone label = some (next, out))
    (served : label.Served partId) : next.ReadsServed := by
  -- An attempt comes to read only by the step that connects it.
  intro index viamSvc held
  have turn := turn_cases taken
  cases before : phone.phaseOf index with
  | none => cases turn.begun before held
  | some phase =>
    rcases turn.attempt before with ⟨same, _⟩ | ⟨after, moves, comes⟩
    · rw [same] at held
      exact reads index viamSvc (before.trans held)
    · rw [comes] at held
      cases held
      obtain ⟨rfl, services, rfl⟩ := moves.reading
      have finds := connected_served taken before served
      rw [comes] at finds
      cases finds
      rfl

/-- A phone that reads the name it looks for from a machine writes its own name. -/
theorem nameRead_served {result : Except String (Option (List UInt8))}
    (taken : step mobileDevice machineToManage phone (.nameRead index result) = some (next, out))
    (reads : phone.ReadsServed) (read : readName result = some machineToManage) :
    .writing index (writtenName mobileDevice) ∈ out := by
  -- The attempt reads from what the machine serves, so it finds where to write.
  simp only [step, stepStart, Option.none_or, stepAttempt, read] at taken
  split at taken
  · rename_i found same
    cases same
    have service := reads index _ (by rw [phaseOf, found]; rfl)
    subst service
    have named : servedService.characteristics.find? (· = viamSocksProxyNameCharUUID) =
        some viamSocksProxyNameCharUUID := by decide +kernel
    simp only [nameRead, ne_eq, not_true_eq_false, if_false, named, Option.some.injEq,
      Prod.mk.injEq] at taken
    simp [← taken.2]
  · rename_i same
    cases same
  · cases taken

/-- In every run among machines that serve their part ID the attempts read from what they serve. -/
theorem readsServed_of_run {partId : Nat → String} {labels : List Label}
    (run : (machine mobileDevice machineToManage).Run labels seen phone)
    (served : ∀ label ∈ labels, label.Served partId) : phone.ReadsServed := by
  -- The induction is on the run, of which each label is served.
  induction run with
  | start => exact fun index viamSvc held => by simp [phaseOf, machine] at held
  | snoc before taken ih =>
    have reads := ih fun label member => served label (List.mem_append_left _ member)
    exact reads.step taken (served _ (by simp))

/-- Among machines that serve their part ID, a phone that has read the part ID of a machine writes
its name to this machine exactly when the part ID, without one byte order mark in front, is the one
of the machine that it manages. -/
theorem machine_recognised {partId : Nat → String} {labels : List Label}
    (run : (machine mobileDevice machineToManage).Run labels seen phone)
    (served : ∀ label ∈ labels, label.Served partId) {index : Nat} {bytes : List UInt8}
    (read : .nameRead index (.ok (some bytes)) ∈ labels) :
    .writing index (writtenName mobileDevice) ∈ seen ↔
      withoutMark (partId index) = machineToManage := by
  constructor
  · intro writes
    obtain ⟨result, member, name⟩ := read_of_writing run writes
    -- A result that is a name is what the machine serves.
    match result with
    | .ok (some other) =>
      have serves : other = utf8 (partId index) := served _ member
      rw [serves, readName_utf8] at name
      exact Option.some.inj name
  · intro same
    have name : readName (.ok (some bytes)) = some machineToManage := by
      have serves : bytes = utf8 (partId index) := served _ read
      rw [serves, readName_utf8, same]
    -- The read is the last label, or one of an earlier part of the run.
    induction run with
    | start => cases read
    | snoc before taken ih =>
      have earlier := fun label member => served label (List.mem_append_left _ member)
      rcases List.mem_append.mp read with first | last
      · exact List.mem_append_left _ (ih earlier first)
      · obtain rfl := List.mem_singleton.mp last
        -- The phone has only read from machines before, so it finds where to write.
        have reads := readsServed_of_run before earlier
        exact List.mem_append_right _ (nameRead_served taken reads name)

/-- The machine n is left alone, and the machine m is told the name. -/
theorem machine_recognised_two_attempts :
    ∃ seen phone, (machine "p" "m").Run (examplePowerOn ++ exampleAttempts) seen phone ∧
      .writing 0 (writtenName "p") ∉ seen ∧ .writing 1 (writtenName "p") ∈ seen := by
  have run : (machine "p" "m").Run (examplePowerOn ++ exampleAttempts) _ _ := Lts.Run.of_exec rfl
  have served : ∀ label ∈ examplePowerOn ++ exampleAttempts,
      label.Served fun index => if index = 0 then "n" else "m" := by
    simp only [examplePowerOn, exampleAttempts, List.forall_mem_append, List.forall_mem_cons]
    simp [Label.Served]
    decide +kernel
  have first : .nameRead 0 (.ok (some [110])) ∈ examplePowerOn ++ exampleAttempts := by
    simp [exampleAttempts]
  have second : .nameRead 1 (.ok (some [109])) ∈ examplePowerOn ++ exampleAttempts := by
    simp [exampleAttempts]
  -- Only the name that is looked for is answered.
  refine ⟨_, _, run, fun writes => ?_, ?_⟩
  · have same := (machine_recognised run served first).mp writes
    exact absurd same (by decide +kernel)
  · exact (machine_recognised run served second).mpr (by decide +kernel)

end Phone

end BleManaged
