import Mathlib.Tactic.Common

/-! Calls that may fail, and what follows when they do not. -/

namespace BleManaged

/-- A UUID of a service or a characteristic. -/
abbrev Uuid := BitVec 128

/-- The address of a device. -/
abbrev Address := BitVec 48

/-- The failure of a Bluetooth call. -/
structure BluerError where
  message : String
  deriving DecidableEq, Repr

/-- An error that the failure of a Bluetooth call is turned into. -/
class FromBluer (ε : Type) where
  fromBluer : BluerError → ε

/-- A failed Bluetooth call makes its caller fail. -/
instance {ε : Type} [FromBluer ε] : MonadLift (Except BluerError) (Except ε) where
  monadLift := Except.mapError FromBluer.fromBluer

/-- Make a call, unless the device answers that what the call is for is so already. -/
def ensure (already : Except BluerError Bool) (call : Except BluerError Unit) :
    Except BluerError Unit := do
  if ← already then return () else call

/-- A sequence goes on behind a success. -/
@[simp] theorem ok_bind {ε α β : Type} (value : α) (next : α → Except ε β) :
    ((.ok value : Except ε α) >>= next) = next value := rfl

/-- A sequence ends with a failure. -/
@[simp] theorem error_bind {ε α β : Type} (error : ε) (next : α → Except ε β) :
    ((.error error : Except ε α) >>= next) = .error error := rfl

/-- To return is to succeed. -/
@[simp] theorem pure_eq_ok {ε α : Type} (value : α) : (pure value : Except ε α) = .ok value := rfl

/-- To throw is to fail. -/
@[simp] theorem throw_eq_error {ε α : Type} (error : ε) :
    (throw error : Except ε α) = .error error := rfl

/-- A sequence succeeds when both of its parts do. -/
theorem bind_eq_ok_iff {ε α β : Type} {first : Except ε α} {next : α → Except ε β} {value : β} :
    (first >>= next) = .ok value ↔ ∃ middle, first = .ok middle ∧ next middle = .ok value := by
  -- A failure of the first part is the failure of the whole.
  cases first with
  | error error => simp
  | ok middle => simp

/-- A Bluetooth call succeeds for its caller as it does by itself. -/
theorem liftM_eq_ok_iff {ε α : Type} [FromBluer ε] {call : Except BluerError α} {value : α} :
    (liftM call : Except ε α) = .ok value ↔ call = .ok value := by
  -- Only the type of the error changes on the way to the caller.
  cases call with
  | error error => exact ⟨(nomatch ·), (nomatch ·)⟩
  | ok result =>
    show (.ok result : Except ε α) = .ok value ↔ _
    simp

/-- A sequence that begins with a Bluetooth call succeeds when the call and the rest do. -/
theorem call_bind_eq_ok_iff {ε α β : Type} [FromBluer ε] {call : Except BluerError α}
    {next : α → Except ε β} {value : β} :
    ((liftM call : Except ε α) >>= next) = .ok value ↔
      ∃ middle, call = .ok middle ∧ next middle = .ok value := by
  simp only [bind_eq_ok_iff, liftM_eq_ok_iff]

/-- A Bluetooth call that succeeds lets its caller go on with the answer. -/
@[simp] theorem liftM_ok {ε α : Type} [FromBluer ε] (value : α) :
    (liftM (.ok value : Except BluerError α) : Except ε α) = .ok value := rfl

/-- An error that is passed on does not change a success. -/
theorem mapError_eq_ok_iff {ε δ α : Type} {call : Except ε α} {error : ε → δ} {value : α} :
    call.mapError error = .ok value ↔ call = .ok value := by
  cases call with
  | error failed => simp [Except.mapError]
  | ok result => simp [Except.mapError]

/-- What is returned is the value of the sequence. -/
theorem pure_eq_ok_iff {ε α : Type} {value other : α} :
    (pure value : Except ε α) = .ok other ↔ value = other := by
  simp [pure, Except.pure]

/-- What a call is for is so already, or else the call succeeds. -/
def Ensured (already : Except BluerError Bool) (call : Except BluerError Unit) : Prop :=
  already = .ok true ∨ already = .ok false ∧ call = .ok ()

/-- The code makes the call in just that way. -/
theorem ensure_eq_ok_iff {already : Except BluerError Bool} {call : Except BluerError Unit} :
    ensure already call = .ok () ↔ Ensured already call := by
  -- The call is made only behind the answer that it is needed.
  cases already with
  | error error => simp [ensure, Ensured]
  | ok answer =>
    cases answer with
    | true => simp [ensure, Ensured]
    | false => simp [ensure, Ensured]

end BleManaged
