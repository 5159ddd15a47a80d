import WirelessSimu.Hal.View

namespace WirelessSimu

open Data Kernel

/-! The counts behind the pointers of a source ring. `Progress` says how many
entries the published head, the stored tail and the cached tail stand for; the
number of entries handed out belongs to the user of the ring. -/

structure Progress where
  published : Nat
  stored : Nat
  cached : Nat

/-- The driver is never a full lap ahead of its cached tail. `reap` carries the
argument for `src_get_next_reaped`: its bound is the last slot of the first lap,
or the head itself from the first success of `src_get_next_entry` on. -/
structure SrcPositions (entries size : Nat) (at_ : Progress) (view : SrcView)
    (handedOut : Nat) : Prop where
  atHp : StandsAt entries size view.hp handedOut
  atCached : StandsAt entries size view.cachedTp at_.cached
  atShadow : StandsAt entries size view.shadow at_.stored
  atPublished : StandsAt entries size view.published at_.published
  cached_le : at_.cached ≤ at_.stored
  stored_le : at_.stored ≤ handedOut
  handedOut_lt : handedOut < at_.cached + entries
  reap : StandsAt entries size view.reapHp (entries - 1) ∧ handedOut < entries ∨
    view.reapHp = view.hp

namespace SrcPositions

variable {entries size handedOut : Nat} {at_ : Progress} {view : SrcView}

theorem sync (positions : SrcPositions entries size at_ view handedOut) :
    SrcPositions entries size { at_ with cached := at_.stored }
      { view with cachedTp := view.shadow } handedOut :=
  { positions with
    atCached := positions.atShadow
    cached_le := Nat.le_refl _
    handedOut_lt := by
      have := positions.handedOut_lt
      have := positions.cached_le
      simp only
      omega }

theorem publish (positions : SrcPositions entries size at_ view handedOut) :
    SrcPositions entries size { at_ with published := handedOut }
      { view with published := view.hp } handedOut :=
  { positions with atPublished := positions.atHp }

theorem store (positions : SrcPositions entries size at_ view handedOut)
    {tail : UInt32} {count : Nat} (atTail : StandsAt entries size tail count)
    (later : at_.stored ≤ count) (bound : count ≤ handedOut) :
    SrcPositions entries size { at_ with stored := count }
      { view with shadow := tail } handedOut :=
  { positions with
    atShadow := atTail
    cached_le := Nat.le_trans positions.cached_le later
    stored_le := bound }

theorem fresh {srng : HalSrng} (shape : RingShape srng entries size) :
    SrcPositions entries size ⟨0, 0, 0⟩
      { hp := 0, reapHp := srng.ringSize - srng.entrySize, cachedTp := 0,
        shadow := 0, published := 0 } 0 where
  atHp := .zero _ _
  atCached := .zero _ _
  atShadow := .zero _ _
  atPublished := .zero _ _
  cached_le := Nat.le_refl _
  stored_le := Nat.le_refl _
  handedOut_lt := by
    have := shape.entries_pos
    simp only
    omega
  reap := by
    left
    have entriesPos := shape.entries_pos
    refine ⟨?_, entriesPos⟩
    have last : size ≤ entries * size := Nat.le_mul_of_pos_left size entriesPos
    rw [StandsAt, slotOffset, Nat.mod_eq_of_lt (by omega),
      UInt32.toNat_sub_of_le, shape.ringSize_eq, shape.entrySize_eq,
      Nat.mul_comm size, Nat.sub_mul, Nat.one_mul]
    rw [UInt32.le_iff_toNat_le, shape.entrySize_eq, shape.ringSize_eq]
    exact last

end SrcPositions

theorem SetupDone.srcPositions {hal hal' : Hal} {type : HalRingType} {id : Nat}
    {params : HalSrngParams} (done : SetupDone hal hal' type id params)
    (source : (hal.srngConfig type).ringDir = .src)
    (entriesPos : 0 < params.numEntries.toUInt32.toNat)
    (sizePos : 0 < (hal.srngConfig type).entrySize.toNat)
    (fits : params.numEntries.toUInt32.toNat *
      (hal.srngConfig type).entrySize.toNat < 2 ^ 32)
    (shared : SharedWordsClear hal type id) :
    SrcPositions params.numEntries.toUInt32.toNat
      (hal.srngConfig type).entrySize.toNat ⟨0, 0, 0⟩ (hal'.srcView id) 0 := by
  have pointers : (hal'.srngList id).srcRing.hp = 0 ∧
      (hal'.srngList id).srcRing.cachedTp = 0 ∧
      (hal'.srngList id).srcRing.reapHp =
        (hal'.srngList id).ringSize - (hal'.srngList id).entrySize := by
    rw [done.ring_eq]
    simp [srngSetupRing, source]
  have fresh := SrcPositions.fresh (done.ready source entriesPos sizePos fits).shape
  simp only [Hal.srcView, done.shadow_zero shared, done.publish_zero shared, pointers]
  exact fresh

section Operations

variable {hal : Hal} {id base entries size handedOut : Nat} {at_ : Progress}

/-- A get-next function that handed out the slot of entry `handedOut`. -/
structure HandsOut (hal : Hal) (id base entries size handedOut : Nat)
    (at_ : Progress) (result : Hal × Option Nat) : Prop where
  desc : result.2 = some (slotAddr base size (handedOut % entries))
  update : ∃ hp reapHp, result.1 =
    hal.setSrc id hp reapHp (hal.srcView id).cachedTp
      (hal.srngList id).srcRing.lastTp
  positions : SrcPositions entries size at_ (result.1.srcView id) (handedOut + 1)

/-- Both get-next functions go on by one slot and differ in what they make of
`reap_hp`. -/
theorem SrcPositions.handsOut (ready : RingReady hal id .src base entries size)
    (positions : SrcPositions entries size at_ (hal.srcView id) handedOut)
    {nextHp reapHp : UInt32} (atNext : StandsAt entries size nextHp (handedOut + 1))
    (room : handedOut + 1 < at_.cached + entries)
    (reap : StandsAt entries size reapHp (entries - 1) ∧ handedOut + 1 < entries ∨
      reapHp = nextHp) :
    HandsOut hal id base entries size handedOut at_
      (hal.setSrc id nextHp reapHp (hal.srcView id).cachedTp
          (hal.srngList id).srcRing.lastTp,
        some (descPtr (hal.srngList id) (hal.srcView id).hp)) where
  desc := by rw [ready.shape.descPtr_eq positions.atHp, ready.base_eq]
  update := ⟨_, _, rfl⟩
  positions := by
    rw [Hal.srcView_setSrc]
    exact { positions with
      atHp := atNext
      stored_le := Nat.le_succ_of_le positions.stored_le
      handedOut_lt := room
      reap := reap }

/-- `src_get_next_entry` hands out the next slot unless the ring is full with
respect to the cached tail. -/
theorem halSrngSrcGetNextEntry_spec
    (ready : RingReady hal id .src base entries size)
    (positions : SrcPositions entries size at_ (hal.srcView id) handedOut) :
    (handedOut + 1 = at_.cached + entries ∧
      halSrngSrcGetNextEntry hal id = (hal, none)) ∨
    (handedOut + 1 < at_.cached + entries ∧
      HandsOut hal id base entries size handedOut at_
        (halSrngSrcGetNextEntry hal id)) := by
  have shape := ready.shape
  have bound := positions.handedOut_lt
  have full := nextHp_eq_iff shape positions.atHp positions.atCached
    (Nat.le_trans positions.cached_le positions.stored_le) bound
  have atNext := shape.advance_mod positions.atHp
  rw [halSrngSrcGetNextEntry_def]
  by_cases test : handedOut + 1 = at_.cached + entries
  · left
    exact ⟨test, if_pos (full.mpr test)⟩
  · right
    have room : handedOut + 1 < at_.cached + entries := by omega
    refine ⟨room, ?_⟩
    simp only [if_neg (mt full.mp test)]
    exact positions.handsOut ready atNext room (.inr rfl)

/-- `src_get_next_reaped` looks at `reap_hp` only, and still never overruns the
cached tail. -/
theorem halSrngSrcGetNextReaped_spec
    (ready : RingReady hal id .src base entries size)
    (positions : SrcPositions entries size at_ (hal.srcView id) handedOut) :
    halSrngSrcGetNextReaped hal id = (hal, none) ∨
      HandsOut hal id base entries size handedOut at_
        (halSrngSrcGetNextReaped hal id) := by
  have shape := ready.shape
  have atNext := shape.advance_mod positions.atHp
  rw [halSrngSrcGetNextReaped_eq]
  by_cases test : (hal.srcView id).hp = (hal.srcView id).reapHp
  · left
    rw [if_pos test]
  · right
    rw [if_neg test]
    obtain ⟨atReap, firstLap⟩ | equal := positions.reap
    · -- Still in the first lap, before the last slot.
      have before : handedOut ≠ entries - 1 := by
        intro last
        rw [← last] at atReap
        apply test
        rw [← UInt32.toNat_inj, positions.atHp, atReap]
      have inLap : handedOut + 1 < entries := by omega
      exact positions.handsOut ready atNext (by omega) (.inl ⟨atReap, inLap⟩)
    · exact absurd equal.symm test

end Operations

end WirelessSimu
