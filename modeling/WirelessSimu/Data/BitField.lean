import Mathlib.Data.Nat.Bitwise

namespace WirelessSimu.Data

/-! Fields of a word: `width` bits from bit `low` on. A word is packed by taking
the `or` of its fields, and a field reads back whatever the others hold as long as
they do not overlap. -/

def fieldGet (low width word : Nat) : Nat := word / 2 ^ low % 2 ^ width

def fieldPut (low width value : Nat) : Nat := (value % 2 ^ width) <<< low

theorem testBit_fieldGet (low width word index : Nat) :
    (fieldGet low width word).testBit index =
      (decide (index < width) && word.testBit (low + index)) := by
  rw [fieldGet, Nat.testBit_mod_two_pow, Nat.testBit_div_two_pow, Nat.add_comm index]

theorem testBit_fieldPut (low width value index : Nat) :
    (fieldPut low width value).testBit index =
      (decide (low ≤ index) && (decide (index - low < width) &&
        value.testBit (index - low))) := by
  rw [fieldPut, Nat.testBit_shiftLeft, Nat.testBit_mod_two_pow]

@[simp] theorem fieldGet_or (low width first second : Nat) :
    fieldGet low width (first ||| second) =
      fieldGet low width first ||| fieldGet low width second := by
  apply Nat.eq_of_testBit_eq
  intro index
  simp only [testBit_fieldGet, Nat.testBit_or]
  cases decide (index < width) <;> rfl

@[simp] theorem fieldGet_fieldPut (low width value : Nat) :
    fieldGet low width (fieldPut low width value) = value % 2 ^ width := by
  apply Nat.eq_of_testBit_eq
  intro index
  rw [testBit_fieldGet, testBit_fieldPut, Nat.add_sub_cancel_left,
    Nat.testBit_mod_two_pow]
  cases decide (index < width) <;> simp

theorem fieldGet_fieldPut_of_apart {low width low' width' : Nat}
    (apart : low + width ≤ low' ∨ low' + width' ≤ low) (value : Nat) :
    fieldGet low width (fieldPut low' width' value) = 0 := by
  apply Nat.eq_of_testBit_eq
  intro index
  rw [testBit_fieldGet, testBit_fieldPut, Nat.zero_testBit]
  rcases apart with above | below
  · by_cases inside : index < width
    · have outside : ¬ low' ≤ low + index := by omega
      simp [outside]
    · simp [inside]
  · have outside : ¬ low + index - low' < width' := by omega
    simp [outside]

/-- A word cut off above the field. -/
theorem fieldGet_mod {low width size : Nat} (fits : low + width ≤ size) (word : Nat) :
    fieldGet low width (word % 2 ^ size) = fieldGet low width word := by
  apply Nat.eq_of_testBit_eq
  intro index
  rw [testBit_fieldGet, testBit_fieldGet, Nat.testBit_mod_two_pow]
  by_cases inside : index < width
  · have below : low + index < size := by omega
    simp [below]
  · simp [inside]

end WirelessSimu.Data
