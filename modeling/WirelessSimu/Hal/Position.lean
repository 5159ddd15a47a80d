import WirelessSimu.Data.WordMemory
import WirelessSimu.Hal.Access
import WirelessSimu.Hal.Setup

namespace WirelessSimu

open Data Kernel

/-! The pointers of a ring as positions: a pointer stands at `count` when it is
the word offset of the `count`-th entry ever handed out on the ring. -/

structure RingShape (srng : HalSrng) (entries size : Nat) : Prop where
  entries_pos : 0 < entries
  size_pos : 0 < size
  entrySize_eq : srng.entrySize.toNat = size
  ringSize_eq : srng.ringSize.toNat = entries * size

def StandsAt (entries size : Nat) (pointer : UInt32) (count : Nat) : Prop :=
  pointer.toNat = slotOffset entries size count

theorem StandsAt.eq_iff {entries size low high : Nat} {first second : UInt32}
    (sizePos : 0 < size)
    (atFirst : StandsAt entries size first low)
    (atSecond : StandsAt entries size second high)
    (lower : low ≤ high) (upper : high < low + entries) :
    first = second ↔ low = high := by
  rw [← UInt32.toNat_inj, atFirst, atSecond]
  constructor
  · exact slotOffset_inj sizePos lower upper
  · rintro rfl
    rfl

theorem StandsAt.zero (entries size : Nat) : StandsAt entries size 0 0 := by
  simp [StandsAt, slotOffset_zero]

namespace RingShape

variable {srng : HalSrng} {entries size : Nat}

theorem fits (shape : RingShape srng entries size) : entries * size < 2 ^ 32 := by
  rw [← shape.ringSize_eq]
  exact srng.ringSize.toNat_lt

/-- One step forward never overflows 32 bits. -/
theorem toNat_add_entrySize (shape : RingShape srng entries size)
    {pointer : UInt32} {count : Nat} (at_ : StandsAt entries size pointer count) :
    (pointer + srng.entrySize).toNat = slotOffset entries size count + size := by
  have bound := @slotOffset_add_size_le entries size shape.entries_pos count
  have fits := shape.fits
  rw [UInt32.toNat_add, at_, shape.entrySize_eq, Nat.mod_eq_of_lt (by omega)]

theorem advance_mod (shape : RingShape srng entries size)
    {pointer : UInt32} {count : Nat} (at_ : StandsAt entries size pointer count) :
    StandsAt entries size ((pointer + srng.entrySize) % srng.ringSize)
      (count + 1) := by
  rw [StandsAt, UInt32.toNat_mod, shape.toNat_add_entrySize at_,
    shape.ringSize_eq, slotOffset_succ]

theorem advance_compare (shape : RingShape srng entries size)
    {pointer : UInt32} {count : Nat} (at_ : StandsAt entries size pointer count) :
    StandsAt entries size
      (if pointer + srng.entrySize = srng.ringSize then 0
        else pointer + srng.entrySize) (count + 1) := by
  have sum := shape.toNat_add_entrySize at_
  rw [StandsAt, ← slotOffset_succ_of_compare shape.entries_pos size count]
  have test : pointer + srng.entrySize = srng.ringSize ↔
      slotOffset entries size count + size = entries * size := by
    rw [← UInt32.toNat_inj, sum, shape.ringSize_eq]
  simp only [test]
  split
  next => rfl
  next => exact sum

theorem descPtr_eq (_ : RingShape srng entries size)
    {pointer : UInt32} {count : Nat} (at_ : StandsAt entries size pointer count) :
    descPtr srng pointer =
      slotAddr srng.ringBaseVaddr size (count % entries) := by
  rw [descPtr, at_, slotAddr, slotOffset]

end RingShape

/-- The ring that `setup` fills in has the shape its configuration gives. -/
theorem srngSetupRing_shape {hal : Hal} {type : HalRingType}
    {params : HalSrngParams} (old : HalSrng) (id : Nat) {entries size : Nat}
    (entriesEq : params.numEntries.toUInt32.toNat = entries)
    (sizeEq : (hal.srngConfig type).entrySize.toNat = size)
    (entriesPos : 0 < entries) (sizePos : 0 < size)
    (fits : entries * size < 2 ^ 32) :
    RingShape (srngSetupRing hal old type id params) entries size where
  entries_pos := entriesPos
  size_pos := sizePos
  entrySize_eq := by
    rw [← sizeEq]
    exact UInt16.toNat_toUInt32 _
  ringSize_eq := by
    simp only [srngSetupRing]
    rw [UInt32.toNat_mul, entriesEq, UInt16.toNat_toUInt32, sizeEq,
      Nat.mul_comm size entries, Nat.mod_eq_of_lt fits]

section Arithmetic

variable {srng : HalSrng} {entries size filled cached : Nat} {hp tp : UInt32}

/-- The full test of `src_get_next_entry`: one more entry would make the head
meet the cached tail. -/
theorem nextHp_eq_iff (shape : RingShape srng entries size)
    (atHp : StandsAt entries size hp filled)
    (atTp : StandsAt entries size tp cached)
    (lower : cached ≤ filled) (upper : filled < cached + entries) :
    (hp + srng.entrySize) % srng.ringSize = tp ↔
      filled + 1 = cached + entries := by
  have atNext := shape.advance_mod atHp
  have entriesPos := shape.entries_pos
  by_cases full : filled + 1 = cached + entries
  · -- A full ring: the next head is the cached tail, one lap ahead.
    have sameSlot : slotOffset entries size (filled + 1) =
        slotOffset entries size cached := by
      rw [full, slotOffset, slotOffset, Nat.add_mod_right]
    simp only [full, iff_true]
    rw [← UInt32.toNat_inj, atNext, atTp, sameSlot]
  · rw [eq_comm, StandsAt.eq_iff shape.size_pos atTp atNext (by omega) (by omega)]
    omega

/-- The free count is the capacity less the entries between tail and head. -/
theorem srcFreeEntries_eq (shape : RingShape srng entries size)
    (small : entries ≤ 2 ^ 31)
    (atHp : StandsAt entries size hp filled)
    (atTp : StandsAt entries size tp cached)
    (lower : cached ≤ filled) (upper : filled < cached + entries) :
    srcFreeEntries srng hp tp = (entries - 1 - (filled - cached) : Nat) := by
  have fits := shape.fits
  have hpLt := slotOffset_lt shape.entries_pos shape.size_pos filled
  have tpLt := slotOffset_lt shape.entries_pos shape.size_pos cached
  have distance := slotOffset_distance shape.entries_pos shape.size_pos lower upper
  have ringSize := shape.ringSize_eq
  have one : (1 : UInt32).toNat = 1 := rfl
  have hpLe : hp ≤ srng.ringSize := by
    rw [UInt32.le_iff_toNat_le, atHp, ringSize]
    omega
  rw [StandsAt] at atHp atTp
  -- A quotient equal to the distance leaves the free count after the decrement.
  have decrement : ∀ quotient : UInt32,
      quotient.toNat = entries - (filled - cached) →
      toInt (quotient - 1) = (entries - 1 - (filled - cached) : Nat) := by
    intro quotient equal
    have less : (quotient - 1).toNat = entries - 1 - (filled - cached) := by
      rw [UInt32.toNat_sub_of_le, equal, one]
      · omega
      · rw [UInt32.le_iff_toNat_le, equal, one]
        omega
    rw [toInt_of_lt (by omega), less]
  unfold srcFreeEntries
  split
  next ahead =>
      apply decrement
      rw [gt_iff_lt, UInt32.lt_iff_toNat_lt, atHp, atTp] at ahead
      rw [UInt32.toNat_div, shape.entrySize_eq, UInt32.toNat_sub_of_le, atHp, atTp,
        ← distance, if_pos ahead]
      rw [UInt32.le_iff_toNat_le, atHp, atTp]
      omega
  next behind =>
      apply decrement
      rw [gt_iff_lt, UInt32.lt_iff_toNat_lt, atHp, atTp] at behind
      rw [UInt32.toNat_div, shape.entrySize_eq, UInt32.toNat_add,
        UInt32.toNat_sub_of_le _ _ hpLe, atHp, atTp, ringSize,
        Nat.mod_eq_of_lt (by omega), ← distance, if_neg behind]

end Arithmetic

end WirelessSimu
