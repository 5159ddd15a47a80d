import Mathlib.Data.UInt

namespace WirelessSimu.Kernel

/-! The error numbers, conversions and bit-field macros of the kernel headers
that the driver uses. Functions return the negated error number. -/

def eio : Int := 5

def enomem : Int := 12

def ebusy : Int := 16

def einval : Int := 22

def enospc : Int := 28

def enobufs : Int := 105

/-- The conversion from `u32` to `int`. -/
def toInt (value : UInt32) : Int := value.toBitVec.toInt

theorem toInt_of_lt {value : UInt32} (small : value.toNat < 2 ^ 31) :
    toInt value = value.toNat := by
  rw [toInt, BitVec.toInt_eq_toNat_of_lt]
  · rfl
  · have : value.toBitVec.toNat = value.toNat := rfl
    omega

/-- A positive `int` stays below the sign bit as a `u32`. -/
theorem toUInt32_lt_of_pos {value : Int32} (positive : 1 ≤ value.toInt) :
    1 ≤ value.toUInt32.toNat ∧ value.toUInt32.toNat < 2 ^ 31 := by
  have bits : value.toUInt32.toNat = value.toBitVec.toNat := rfl
  have signed : value.toInt = value.toBitVec.toInt := rfl
  rw [signed, BitVec.toInt_eq_toNat_cond] at positive
  have bound := value.toBitVec.isLt
  rw [bits]
  split at positive <;> omega

/-- `GENMASK(high, low)` on a 64-bit machine. -/
def genmask (high low : UInt64) : UInt64 :=
  (0xffffffffffffffff <<< low) &&& (0xffffffffffffffff >>> (63 - high))

def bit (index : UInt64) : UInt64 := 1 <<< index

/-- `FIELD_PREP(GENMASK(high, low), value)`. -/
def fieldPrep (high low value : UInt64) : UInt64 :=
  (value <<< low) &&& genmask high low

end WirelessSimu.Kernel
