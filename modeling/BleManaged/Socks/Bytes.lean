import Mathlib.Tactic.Common

/-! Byte strings and the little-endian integers of the wire format. -/

namespace BleManaged

/-- A `Vec<u8>`. -/
abbrev Bytes := List UInt8

namespace LittleEndian

/-- The 16-bit integer stored low byte first. -/
def readU16 (bytes : Bytes) : UInt16 :=
  -- Only the first two bytes count, as in the slice that is read from.
  UInt16.ofNat (bytes[0]!.toNat + 256 * bytes[1]!.toNat)

/-- The 32-bit integer stored low byte first. -/
def readU32 (bytes : Bytes) : UInt32 :=
  -- The sum stays below two to the power of 32, so nothing is lost.
  UInt32.ofNat (bytes[0]!.toNat + 256 * bytes[1]!.toNat +
    65536 * bytes[2]!.toNat + 16777216 * bytes[3]!.toNat)

/-- Reading a 16-bit integer loses nothing of its two bytes. -/
theorem readU16_toNat (low high : UInt8) :
    (readU16 [low, high]).toNat = low.toNat + 256 * high.toNat := by
  -- Two bytes make up less than two to the power of 16.
  have lowBound := low.toNat_lt
  have highBound := high.toNat_lt
  simp only [readU16, List.getElem!_cons_zero, List.getElem!_cons_succ, UInt16.toNat_ofNat']
  omega

/-- Reading a 32-bit integer loses nothing of its four bytes. -/
theorem readU32_toNat (a b c d : UInt8) :
    (readU32 [a, b, c, d]).toNat =
      a.toNat + 256 * b.toNat + 65536 * c.toNat + 16777216 * d.toNat := by
  -- Four bytes make up less than two to the power of 32.
  have aBound := a.toNat_lt
  have bBound := b.toNat_lt
  have cBound := c.toNat_lt
  have dBound := d.toNat_lt
  simp only [readU32, List.getElem!_cons_zero, List.getElem!_cons_succ, UInt32.toNat_ofNat']
  omega

/-- The two bytes of a 16-bit integer, low byte first. -/
def writeU16 (value : UInt16) : Bytes :=
  -- Each byte keeps the lowest eight bits of its quotient.
  [UInt8.ofNat value.toNat, UInt8.ofNat (value.toNat / 256)]

/-- The four bytes of a 32-bit integer, low byte first. -/
def writeU32 (value : UInt32) : Bytes :=
  [UInt8.ofNat value.toNat, UInt8.ofNat (value.toNat / 256),
    UInt8.ofNat (value.toNat / 65536), UInt8.ofNat (value.toNat / 16777216)]

/-- A 16-bit integer survives being written and read back. -/
@[simp] theorem readU16_writeU16 (value : UInt16) : readU16 (writeU16 value) = value := by
  -- Both bytes are remainders of the value, which has no third byte.
  apply UInt16.toNat_inj.mp
  have bound := value.toNat_lt
  simp [readU16, writeU16]
  omega

/-- A 32-bit integer survives being written and read back. -/
@[simp] theorem readU32_writeU32 (value : UInt32) : readU32 (writeU32 value) = value := by
  -- The four bytes are the digits of the value to the base of 256.
  apply UInt32.toNat_inj.mp
  have bound := value.toNat_lt
  simp [readU32, writeU32]
  omega

/-- Two bytes are exactly what is written for the integer they are read as. -/
theorem writeU16_readU16 (low high : UInt8) : writeU16 (readU16 [low, high]) = [low, high] := by
  -- Each byte is recovered as the remainder or quotient of the sum it took part in.
  have lowBound := low.toNat_lt
  have highBound := high.toNat_lt
  simp only [writeU16, readU16, List.cons.injEq, and_true]
  constructor
  · apply UInt8.toNat_inj.mp
    simp
  · apply UInt8.toNat_inj.mp
    simp
    omega

/-- Four bytes are exactly what is written for the integer they are read as. -/
theorem writeU32_readU32 (a b c d : UInt8) :
    writeU32 (readU32 [a, b, c, d]) = [a, b, c, d] := by
  -- The bytes are below 256, so they are the only digits that make up this sum.
  have aBound := a.toNat_lt
  have bBound := b.toNat_lt
  have cBound := c.toNat_lt
  have dBound := d.toNat_lt
  simp only [writeU32, readU32, List.cons.injEq, and_true]
  refine ⟨?_, ?_, ?_, ?_⟩ <;> apply UInt8.toNat_inj.mp <;> simp <;> omega

/-- Only two zero bytes read as zero. -/
theorem readU16_eq_zero (low high : UInt8) :
    readU16 [low, high] = 0 ↔ low = 0 ∧ high = 0 := by
  constructor
  · -- What is written for zero are two zero bytes, and these are the bytes read.
    intro zero
    have written := writeU16_readU16 low high
    rw [zero] at written
    simpa [writeU16, eq_comm] using written
  · intro zeros
    rw [zeros.1, zeros.2]
    rfl

/-- Only four zero bytes read as zero. -/
theorem readU32_eq_zero (a b c d : UInt8) :
    readU32 [a, b, c, d] = 0 ↔ a = 0 ∧ b = 0 ∧ c = 0 ∧ d = 0 := by
  constructor
  · -- What is written for zero are four zero bytes, and these are the bytes read.
    intro zero
    have written := writeU32_readU32 a b c d
    rw [zero] at written
    simpa [writeU32, eq_comm] using written
  · intro zeros
    obtain ⟨rfl, rfl, rfl, rfl⟩ := zeros
    rfl

end LittleEndian

end BleManaged
