import Mathlib.Data.Nat.ModEq

/-! Numbers that are given out in turn, from one up to the last and then from one again. -/

namespace RoundRobin

/-- The number that comes after another one. -/
def next (size number : Nat) : Nat :=
  if number < size then number + 1 else 1

/-- The number given out at a position, the first one at position zero. -/
def number (size : Nat) : Nat → Nat
  | 0 => 1
  | position + 1 => next size (number size position)

variable {size : Nat}

/-- No number is zero, and none is above the last one. -/
theorem number_range (positive : 0 < size) (position : Nat) :
    1 ≤ number size position ∧ number size position ≤ size := by
  induction position with
  | zero => exact ⟨Nat.le_refl 1, positive⟩
  | succ position ih =>
    -- The next number is one more, or the first one again.
    unfold number next
    split <;> omega

/-- The number at a position is one more than what is left of it by whole rounds. -/
theorem number_eq (positive : 0 < size) (position : Nat) :
    number size position = position % size + 1 := by
  induction position with
  | zero => simp [number]
  | succ position ih =>
    have below := Nat.mod_lt position positive
    have moved : (position + 1) % size = (position % size + 1) % size := by simp
    unfold number next
    rw [ih, moved]
    -- A round is over exactly when the position before was its last one.
    by_cases last : position % size + 1 = size
    · rw [if_neg (by omega), last, Nat.mod_self]
    · have within : position % size + 1 < size := by omega
      rw [if_pos within, Nat.mod_eq_of_lt within]

/-- A number is given out twice only at positions that are whole rounds apart. -/
theorem number_eq_iff (positive : 0 < size) {position other : Nat} :
    number size position = number size other ↔ position ≡ other [MOD size] := by
  rw [number_eq positive, number_eq positive, Nat.ModEq]
  omega

end RoundRobin
