import WirelessSimu.Data.BitField
import WirelessSimu.Kernel.Base

namespace WirelessSimu.Kernel

open Data

/-! `FIELD_PREP` puts its value into the field of its mask. -/

theorem toNat_genmask {high low : UInt64} (ordered : low ≤ high) (small : high < 64) :
    (genmask high low).toNat =
      (2 ^ (high.toNat - low.toNat + 1) - 1) <<< low.toNat := by
  have table : ∀ high low : Fin 64, low ≤ high →
      (genmask (UInt64.ofNat high) (UInt64.ofNat low)).toNat =
        (2 ^ (high.val - low.val + 1) - 1) <<< low.val := by decide +kernel
  have highLt : high.toNat < 64 := UInt64.lt_iff_toNat_lt.mp small
  have lowLe : low.toNat ≤ high.toNat := UInt64.le_iff_toNat_le.mp ordered
  have entry := table ⟨high.toNat, highLt⟩ ⟨low.toNat, by omega⟩ lowLe
  simpa only [UInt64.ofNat_toNat] using entry

theorem toNat_fieldPrep {high low : UInt64} (ordered : low ≤ high) (small : high < 64)
    (value : UInt64) :
    (fieldPrep high low value).toNat =
      fieldPut low.toNat (high.toNat - low.toNat + 1) value.toNat := by
  have highLt : high.toNat < 64 := UInt64.lt_iff_toNat_lt.mp small
  have lowLe : low.toNat ≤ high.toNat := UInt64.le_iff_toNat_le.mp ordered
  have shift : low.toNat % 64 = low.toNat := Nat.mod_eq_of_lt (by omega)
  apply Nat.eq_of_testBit_eq
  intro index
  rw [fieldPrep, UInt64.toNat_and, toNat_genmask ordered small, UInt64.toNat_shiftLeft,
    shift, Nat.testBit_and, Nat.testBit_mod_two_pow, Nat.testBit_shiftLeft,
    Nat.testBit_shiftLeft, Nat.testBit_two_pow_sub_one, testBit_fieldPut]
  by_cases inside : index < 64
  · simp only [inside, decide_true, Bool.true_and]
    cases decide (low.toNat ≤ index) <;> simp [Bool.and_comm]
  · -- Above the word the mask ends.
    have outside : ¬ index - low.toNat < high.toNat - low.toNat + 1 := by omega
    simp [inside, outside]

/-- A value that fits its field is only moved there. -/
theorem toNat_fieldPrep_of_lt {high low value : UInt64} (ordered : low ≤ high)
    (small : high < 64) (fits : value.toNat < 2 ^ (high.toNat - low.toNat + 1)) :
    (fieldPrep high low value).toNat = value.toNat <<< low.toNat := by
  rw [toNat_fieldPrep ordered small, fieldPut, Nat.mod_eq_of_lt fits]

/-! An address in two words, the second with the high byte in its first field. -/

def addressFields (low info : UInt32) : Nat :=
  low.toNat + 2 ^ 32 * fieldGet 0 8 info.toNat

theorem toNat_low_word (paddr : UInt64) :
    (paddr &&& 0xffffffff).toUInt32.toNat = paddr.toNat % 2 ^ 32 := by
  rw [UInt64.toNat_toUInt32, UInt64.toNat_and,
    show (0xffffffff : UInt64).toNat = 2 ^ 32 - 1 from rfl,
    Nat.and_two_pow_sub_one_eq_mod, Nat.mod_mod]

theorem toNat_high_word (paddr : UInt64) :
    (paddr >>> 32).toNat = paddr.toNat / 2 ^ 32 := by
  rw [UInt64.toNat_shiftRight, show (32 : UInt64).toNat % 64 = 32 from rfl,
    Nat.shiftRight_eq_div_pow]

theorem addressFields_eq {paddr : UInt64} {low info : UInt32}
    (small : paddr.toNat < 2 ^ 40) (lowEq : low.toNat = paddr.toNat % 2 ^ 32)
    (highEq : fieldGet 0 8 info.toNat = paddr.toNat / 2 ^ 32 % 2 ^ 8) :
    addressFields low info = paddr.toNat := by
  rw [addressFields, lowEq, highEq,
    Nat.mod_eq_of_lt (b := 2 ^ 8) (Nat.div_lt_of_lt_mul (by omega))]
  exact Nat.mod_add_div _ _

end WirelessSimu.Kernel
