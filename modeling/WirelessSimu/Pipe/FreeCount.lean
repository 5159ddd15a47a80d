import WirelessSimu.Data.CircularTable
import WirelessSimu.Hal.SourceFifo
import WirelessSimu.Pipe.Transfer

namespace WirelessSimu

open Data Kernel

/-! The free count of a source ring against what `src_get_next_entry` gives out. -/

/-- One slot stays empty, and the slots from the tail to the head are in use. -/
def freeSlots (entries tail head : Nat) : Nat :=
  entries - 1 - cyclicDistance entries tail head

/-- The free slots with respect to the tail that the device stored last. -/
def SourceFifo.free (ring : SourceFifo) (entries size : Nat) : Nat :=
  freeSlots entries ((ring.hal.load ring.srng.srcRing.tpAddr).toNat / size)
    (ring.srng.srcRing.hp.toNat / size)

/-- The HAL after `count` calls of `src_get_next_entry`. -/
def nextEntries (id count : Nat) (hal : Hal) : Hal :=
  (fun hal => (halSrngSrcGetNextEntry hal id).1)^[count] hal

theorem StandsAt.slot {entries size count : Nat} {pointer : UInt32}
    (stands : StandsAt entries size pointer count) (sizePos : 0 < size) :
    pointer.toNat / size = count % entries := by
  rw [stands, slotOffset, Nat.mul_div_cancel_left _ sizePos]

section Counting

variable {hal : Hal} {id base entries size handedOut : Nat} {at_ : Progress}

/-- The count with the cached tail. -/
theorem srcNumFree_cached_eq (ready : RingReady hal id .src base entries size)
    (positions : SrcPositions entries size at_ (hal.srcView id) handedOut)
    (small : entries ≤ 2 ^ 31) :
    (halSrngSrcNumFree hal id false).2 =
      (entries - 1 - (handedOut - at_.cached) : Nat) := by
  rw [halSrngSrcNumFree_cached]
  exact srcFreeEntries_eq ready.shape small positions.atHp positions.atCached
    (Nat.le_trans positions.cached_le positions.stored_le) positions.handedOut_lt

/-- The count with the stored tail. -/
theorem srcNumFree_sync_eq (ready : RingReady hal id .src base entries size)
    (positions : SrcPositions entries size at_ (hal.srcView id) handedOut)
    (small : entries ≤ 2 ^ 31) :
    (halSrngSrcNumFree hal id true).2 =
      (entries - 1 - (handedOut - at_.stored) : Nat) := by
  have bound := positions.handedOut_lt
  have later := positions.cached_le
  rw [halSrngSrcNumFree_sync ready.dir_eq]
  exact srcFreeEntries_eq ready.shape small positions.atHp positions.atShadow
    positions.stored_le (by omega)

/-- As long as the count says so, every call hands out one more entry. -/
theorem nextEntries_positions (ready : RingReady hal id .src base entries size)
    (positions : SrcPositions entries size at_ (hal.srcView id) handedOut)
    {count : Nat} (room : handedOut + count < at_.cached + entries) :
    RingReady (nextEntries id count hal) id .src base entries size ∧
      SrcPositions entries size at_ ((nextEntries id count hal).srcView id)
        (handedOut + count) := by
  induction count with
  | zero => exact ⟨ready, positions⟩
  | succ count ih =>
      obtain ⟨readyThen, positionsThen⟩ := ih (by omega)
      rw [nextEntries, Function.iterate_succ_apply']
      obtain ⟨full, _⟩ | ⟨_, handsOut⟩ :=
        halSrngSrcGetNextEntry_spec readyThen positionsThen
      · omega
      · exact ⟨readyThen.of_same (same_srcGetNextEntry id), handsOut.positions⟩

theorem nextEntries_isSome (ready : RingReady hal id .src base entries size)
    (positions : SrcPositions entries size at_ (hal.srcView id) handedOut)
    {count : Nat} (room : handedOut + count < at_.cached + entries) :
    (halSrngSrcGetNextEntry (nextEntries id count hal) id).2.isSome ↔
      handedOut + count + 1 < at_.cached + entries := by
  obtain ⟨readyThen, positionsThen⟩ := nextEntries_positions ready positions room
  obtain ⟨full, refused⟩ | ⟨more, handsOut⟩ :=
    halSrngSrcGetNextEntry_spec readyThen positionsThen
  · rw [refused]
    simp only [Option.isSome_none, Bool.false_eq_true, false_iff]
    omega
  · rw [handsOut.desc]
    simp only [Option.isSome_some, true_iff]
    exact more

end Counting

namespace SourceFifo

variable {base entries size : Nat} {ring : SourceFifo} {at_ : Progress}

theorem Inv.free_eq (inv : Inv base entries size ring at_) :
    ring.free entries size = entries - 1 - (ring.handedOut - at_.stored) := by
  have sizePos := inv.ready.shape.size_pos
  have shadow : ring.hal.load ring.srng.srcRing.tpAddr =
      (ring.hal.srcView ring.id).shadow := by
    simp only [Hal.srcView, HalSrng.shadowAddr, inv.ready.dir_eq, srng]
  have bound := inv.positions.handedOut_lt
  have later := inv.positions.cached_le
  rw [free, shadow, freeSlots, inv.positions.atShadow.slot sizePos]
  have head := inv.positions.atHp.slot sizePos
  rw [show ring.srng.srcRing.hp.toNat / size = ring.handedOut % entries from head,
    cyclicDistance_mod inv.ready.shape.entries_pos inv.positions.stored_le (by omega)]

/-- The free count says how many entries `src_get_next_entry` still gives, and it
errs on the safe side only, by the entries that the cached tail lags behind. -/
theorem Inv.free_count (inv : Inv base entries size ring at_) (small : entries ≤ 2 ^ 31) :
    ∃ count : Nat, (halSrngSrcNumFree ring.hal ring.id false).2 = count ∧
      count ≤ entries - 1 ∧
      (∀ calls < count,
        (halSrngSrcGetNextEntry (nextEntries ring.id calls ring.hal) ring.id).2.isSome) ∧
      (halSrngSrcGetNextEntry (nextEntries ring.id count ring.hal) ring.id).2 = none ∧
      count ≤ ring.free entries size ∧
      (halSrngSrcNumFree ring.hal ring.id true).2 = ring.free entries size := by
  have bound := inv.positions.handedOut_lt
  have later := inv.positions.cached_le
  have stored := inv.positions.stored_le
  have entriesPos := inv.ready.shape.entries_pos
  refine ⟨_, srcNumFree_cached_eq inv.ready inv.positions small, by omega, ?_, ?_, ?_, ?_⟩
  · intro calls few
    rw [nextEntries_isSome inv.ready inv.positions (by omega)]
    omega
  · rw [← Option.not_isSome_iff_eq_none,
      nextEntries_isSome inv.ready inv.positions (by omega)]
    omega
  · rw [inv.free_eq]
    omega
  · rw [srcNumFree_sync_eq inv.ready inv.positions small, inv.free_eq]

/-- Where the count is positive, the entry is there: a call that refuses does so for
the count. -/
theorem Inv.refused_few (inv : Inv base entries size ring at_) (small : entries ≤ 2 ^ 31)
    (reason : (halSrngSrcNumFree ring.hal ring.id false).2 < 1 ∨
      halSrngSrcGetNextEntry ring.hal ring.id = (ring.hal, none)) :
    (halSrngSrcNumFree ring.hal ring.id false).2 < 1 := by
  obtain few | none := reason
  · exact few
  · obtain ⟨count, countEq, _, some, _⟩ := inv.free_count small
    by_contra positive
    have first := some 0 (by omega)
    rw [nextEntries, Function.iterate_zero, id_eq, none] at first
    contradiction

/-- In every reachable state the free count is exact, so that the second refusal of
`test_send` and `enqueue_pipe` never happens. -/
theorem free_count_exact {hal hal' : Hal} {mem mem' : Nat → UInt32}
    {type : HalRingType} {ringNum macId : Int} {params : HalSrngParams} {id : Nat}
    (setup : halSrngSetup hal mem type ringNum macId params = (hal', mem', (id : Int)))
    (source : (hal.srngConfig type).ringDir = .src)
    (entriesPos : 1 ≤ params.numEntries.toInt)
    (sizePos : 1 ≤ (hal.srngConfig type).entrySize.toNat)
    (fits : params.numEntries.toUInt32.toNat *
      (hal.srngConfig type).entrySize.toNat < 2 ^ 32)
    (shared : SharedWordsClear hal type id)
    {events : List Event} {ring : SourceFifo}
    (reached : run step (start hal' mem' id) events = some ring) :
    (∃ count : Nat, (halSrngSrcNumFree ring.hal ring.id false).2 = count ∧
      count ≤ params.numEntries.toUInt32.toNat - 1 ∧
      (∀ calls < count,
        (halSrngSrcGetNextEntry (nextEntries ring.id calls ring.hal) ring.id).2.isSome) ∧
      (halSrngSrcGetNextEntry (nextEntries ring.id count ring.hal) ring.id).2 = none ∧
      count ≤ ring.free params.numEntries.toUInt32.toNat
        (hal.srngConfig type).entrySize.toNat ∧
      (halSrngSrcNumFree ring.hal ring.id true).2 =
        ring.free params.numEntries.toUInt32.toNat
          (hal.srngConfig type).entrySize.toNat) ∧
    ∀ (table : SrngTestRing), table.halRingId.toNat = ring.id →
      (∀ skb data transferId writeIndex,
        (halSrngTestSend ring.hal table skb data transferId writeIndex).2.2 ≠ 0 →
        (halSrngSrcNumFree ring.hal ring.id false).2 < 1) ∧
      (∀ pipe skb paddr writeIndex,
        (testDstEnqueuePipe ring.hal pipe table skb paddr writeIndex).2.2 ≠ 0 →
        (halSrngSrcNumFree ring.hal ring.id false).2 < 1) := by
  obtain ⟨positive, small⟩ := toUInt32_lt_of_pos entriesPos
  obtain ⟨at_, inv⟩ := run_inv reached
    (start_inv setup source positive sizePos fits shared)
  refine ⟨inv.free_count (Nat.le_of_lt small), ?_⟩
  intro table own
  refine ⟨?_, ?_⟩
  · intro skb data transferId writeIndex refused
    obtain ⟨_, reason⟩ | ⟨_, _, _, stored⟩ := storeEntry_cases ring.hal table enobufs skb
      writeIndex (testSrcSetDesc data transferId 0 writeIndex)
    · rw [own] at reason
      exact inv.refused_few (Nat.le_of_lt small) reason
    · rw [halSrngTestSend, stored] at refused
      exact absurd rfl refused
  · intro pipe skb paddr writeIndex refused
    obtain ⟨_, reason⟩ | ⟨_, _, _, stored⟩ :=
      testDstEnqueuePipe_cases ring.hal pipe table skb paddr writeIndex
    · rw [own] at reason
      exact inv.refused_few (Nat.le_of_lt small) reason
    · rw [stored] at refused
      exact absurd rfl refused

/-- One of three entries filled and taken again, before the driver looks at the new
tail. -/
def fillOne : List Event :=
  [.accessBegin, .srcGetNextEntry, .fill [1, 2, 3, 4, 5], .accessEnd, .deviceConsume,
    .deviceStoreTail]

theorem free_count_exact_lagging :
    let params : HalSrngParams :=
      { ringBasePaddr := 0x1000, ringBaseVaddr := 0x8000, numEntries := 3,
        intrBatchCntrThresEntries := 0, intrTimerThresUs := 0, flags := 0,
        lowThreshold := 0, msiAddr := 0, msiData := 0 }
    let setup := halSrngSetup (halSrngInit false 0x2000 fun _ => 0) (fun _ => 0)
      .testSrng 0 0 params
    ∃ ring, run step (start setup.1 setup.2.1 125) fillOne = some ring ∧
      (halSrngSrcNumFree ring.hal ring.id false).2 = 1 ∧
      (halSrngSrcNumFree ring.hal ring.id true).2 = ring.free 3 5 := by
  intro params setup
  have counted : (run step (start setup.1 setup.2.1 125) fillOne).map
      (fun ring => (halSrngSrcNumFree ring.hal ring.id false).2) = some 1 := by
    decide +kernel
  obtain ⟨ring, reached, lagging⟩ := Option.map_eq_some_iff.mp counted
  have setupEq : setup = (setup.1, setup.2.1, ((125 : Nat) : Int)) :=
    Prod.ext rfl (Prod.ext rfl (by decide +kernel))
  have clear : SharedWordsClear (halSrngInit false 0x2000 fun _ => 0) .testSrng 125 := by
    simp [SharedWordsClear, halSrngInit, hwSrngConfigTemplate]
  obtain ⟨⟨_, _, _, _, _, _, synced⟩, _⟩ := free_count_exact setupEq rfl (by decide)
    (by decide) (by decide) clear reached
  exact ⟨ring, reached, lagging, synced⟩

end SourceFifo

end WirelessSimu
