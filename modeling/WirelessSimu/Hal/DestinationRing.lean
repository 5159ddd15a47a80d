import WirelessSimu.Hal.View

namespace WirelessSimu

open Data Kernel

/-! The counts behind the pointers of a destination ring: `taken` entries were read
by the driver, `cached` and `head` are those that the cached and the stored head
stand for. -/

structure DstPositions (entries size : Nat) (view : DstView)
    (taken cached head : Nat) : Prop where
  atTp : StandsAt entries size view.tp taken
  atCached : StandsAt entries size view.cachedHp cached
  atShadow : StandsAt entries size view.shadow head
  taken_le : taken ≤ cached
  cached_le : cached ≤ head
  head_lt : head < taken + entries

namespace DstPositions

variable {entries size taken cached head : Nat} {view : DstView}

theorem sync (positions : DstPositions entries size view taken cached head) :
    DstPositions entries size { view with cachedHp := view.shadow } taken head head :=
  { positions with
    atCached := positions.atShadow
    taken_le := Nat.le_trans positions.taken_le positions.cached_le
    cached_le := Nat.le_refl head }

/-- The device stores a later head. -/
theorem store (positions : DstPositions entries size view taken cached head)
    {pointer : UInt32} {later : Nat} (at_ : StandsAt entries size pointer later)
    (lower : head ≤ later) (upper : later < taken + entries) :
    DstPositions entries size { view with shadow := pointer } taken cached later :=
  { positions with
    atShadow := at_
    cached_le := Nat.le_trans positions.cached_le lower
    head_lt := upper }

end DstPositions

theorem SetupDone.dstPositions {hal hal' : Hal} {type : HalRingType} {id : Nat}
    {params : HalSrngParams} (done : SetupDone hal hal' type id params)
    (destination : (hal.srngConfig type).ringDir = .dst)
    (entriesPos : 0 < params.numEntries.toUInt32.toNat)
    (shared : SharedWordsClear hal type id) (size : Nat) :
    DstPositions params.numEntries.toUInt32.toNat size (hal'.dstView id) 0 0 0 := by
  have pointers : (hal'.srngList id).dstRing.tp = 0 ∧
      (hal'.srngList id).dstRing.cachedHp = 0 := by
    rw [done.ring_eq]
    simp [srngSetupRing, destination]
  simp only [Hal.dstView, done.shadow_zero shared, pointers]
  exact
    { atTp := .zero _ _
      atCached := .zero _ _
      atShadow := .zero _ _
      taken_le := Nat.le_refl 0
      cached_le := Nat.le_refl 0
      head_lt := by omega }

/-- `dst_get_next_entry` returns the next entry unless the driver has caught up with
the cached head. -/
theorem halSrngDstGetNextEntry_spec {hal : Hal} {id base entries size : Nat}
    {taken cached head : Nat} (ready : RingReady hal id .dst base entries size)
    (positions : DstPositions entries size (hal.dstView id) taken cached head) :
    (taken = cached ∧ halSrngDstGetNextEntry hal id = (hal, none)) ∨
    (taken < cached ∧ ∃ tp,
      halSrngDstGetNextEntry hal id =
        (hal.setDst id tp (hal.dstView id).cachedHp (hal.srngList id).dstRing.lastHp,
          some (slotAddr base size (taken % entries))) ∧
      DstPositions entries size { hal.dstView id with tp := tp } (taken + 1) cached
        head) := by
  have shape := ready.shape
  have takenLe := positions.taken_le
  have cachedLe := positions.cached_le
  have headLt := positions.head_lt
  have caught := StandsAt.eq_iff shape.size_pos positions.atTp positions.atCached
    takenLe (by omega)
  rw [halSrngDstGetNextEntry_def]
  by_cases test : taken = cached
  · left
    exact ⟨test, if_pos (caught.mpr test)⟩
  · right
    rw [if_neg (mt caught.mp test)]
    have desc := shape.descPtr_eq positions.atTp
    rw [ready.base_eq] at desc
    refine ⟨by omega, _, by rw [desc], ?_⟩
    exact { positions with
      atTp := shape.advance_compare positions.atTp
      taken_le := by omega
      head_lt := by omega }

end WirelessSimu
