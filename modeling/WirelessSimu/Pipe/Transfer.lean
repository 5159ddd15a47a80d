import WirelessSimu.Kernel.Buffer
import WirelessSimu.Pipe.Ring

namespace WirelessSimu

open Data Kernel

/-! The three functions that move buffers through a test ring. Each is cut where
the device may act between two accesses to shared memory: the part up to
`access_begin`, the part that works on the ring, and `access_end`. The middle
parts take the index that the source keeps in a local variable since the first
part. -/

def testSrcSetDesc (skb : SkBuff) (id : UInt32) (byteSwapData : UInt8)
    (writeIndex : UInt32) : List UInt32 :=
  [(skb.paddr &&& 0xffffffff).toUInt32,
    (fieldPrep 7 0 (skb.paddr >>> 32) ||| fieldPrep 9 9 byteSwapData.toUInt64 |||
      fieldPrep 11 11 0 ||| fieldPrep 31 16 skb.len.toUInt64).toUInt32,
    (fieldPrep 15 0 id.toUInt64).toUInt32, writeIndex, 0x114514ff]

def testDstSetDesc (paddr : UInt64) : List UInt32 :=
  [(paddr &&& 0xffffffff).toUInt32,
    (fieldPrep 7 0 (paddr >>> 32)).toUInt32, 0x114514aa]

/-- `buffer_length` is the first word of `struct hal_test_dst_status`. -/
def testDstGetLength (mem : Nat → UInt32) (desc : Nat) : UInt32 := mem desc

/-- `nentries_mask` stands in for a modulo. -/
def SrngTestRing.nextIndex (ring : SrngTestRing) (index : UInt32) : UInt32 :=
  (index + 1) &&& ring.nentriesMask

def SrngTestRing.fill (ring : SrngTestRing) (desc : Nat) (words : List UInt32)
    (skb : Nat) (writeIndex : UInt32) : SrngTestRing :=
  { ring with
    mem := storeWords ring.mem desc words
    skb := Function.update ring.skb writeIndex.toNat (some skb)
    writeIndex := ring.nextIndex writeIndex }

def SrngTestRing.take (ring : SrngTestRing) (swIndex : UInt32) : SrngTestRing :=
  { ring with
    skb := Function.update ring.skb swIndex.toNat none
    swIndex := ring.nextIndex swIndex }

/-- The pipe with one more buffer posted on its destination ring `dst`. -/
def SrngTestPipe.fill (pipe : SrngTestPipe) (dst : SrngTestRing) (desc : Nat)
    (words : List UInt32) (skb : Nat) (writeIndex : UInt32) : SrngTestPipe :=
  { pipe with
    dstRing := some (dst.fill desc words skb writeIndex)
    rxBufNeeded := pipe.rxBufNeeded - 1 }

/-- The pipe with one buffer received from its destination ring `dst`. -/
def SrngTestPipe.take (pipe : SrngTestPipe) (dst : SrngTestRing) (swIndex : UInt32) :
    SrngTestPipe :=
  { pipe with
    dstRing := some (dst.take swIndex)
    rxBufNeeded := pipe.rxBufNeeded + 1 }

/-- The middle part that `test_send` and `enqueue_pipe` share: refuse with `full`
or write `words` into the next entry and `skb` into the table. -/
def storeEntry (hal : Hal) (ring : SrngTestRing) (full : Int) (skb : Nat)
    (writeIndex : UInt32) (words : List UInt32) : Hal × SrngTestRing × Int :=
  let (hal, free) := halSrngSrcNumFree hal ring.halRingId.toNat false
  if free < 1 then (hal, ring, -full)
  else
    match halSrngSrcGetNextEntry hal ring.halRingId.toNat with
    | (hal, none) => (hal, ring, -full)
    | (hal, some desc) =>
        (hal, ring.fill desc words skb writeIndex, 0)

/-- `wireless_simu_hal_srng_test_send` between its two accesses. -/
def halSrngTestSend (hal : Hal) (ring : SrngTestRing) (skb : Nat) (data : SkBuff)
    (transferId : UInt32) (writeIndex : UInt32) : Hal × SrngTestRing × Int :=
  storeEntry hal ring enobufs skb writeIndex
    (testSrcSetDesc data transferId 0 writeIndex)

/-- `wireless_simu_test_dst_enqueue_pipe` between its two accesses, for a pipe
whose destination ring is `ring`. -/
def testDstEnqueuePipe (hal : Hal) (pipe : SrngTestPipe) (ring : SrngTestRing)
    (skb : Nat) (paddr : UInt64) (writeIndex : UInt32) : Hal × SrngTestPipe × Int :=
  let (hal, ring, ret) :=
    storeEntry hal ring enospc skb writeIndex (testDstSetDesc paddr)
  if ret = 0 then
    (hal, { pipe with dstRing := some ring, rxBufNeeded := pipe.rxBufNeeded - 1 }, 0)
  else (hal, pipe, ret)

/-- `wireless_simu_test_dst_recv_next` between its two accesses, for a pipe with
the rings `dst` and `status`. -/
def testDstRecvNext (hal : Hal) (pipe : SrngTestPipe) (dst status : SrngTestRing)
    (swIndex : UInt32) : Hal × SrngTestPipe × Except Int (Option Nat × UInt32) :=
  match halSrngDstGetNextEntry hal status.halRingId.toNat with
  | (hal, none) => (hal, pipe, .error (-eio))
  | (hal, some desc) =>
      let nbytes := testDstGetLength status.mem desc
      if nbytes = 0 then (hal, pipe, .error (-eio))
      else
        (hal, pipe.take dst swIndex, .ok (dst.skb swIndex.toNat, nbytes))

/-! What each middle part can do. -/

theorem storeEntry_cases (hal : Hal) (ring : SrngTestRing) (full : Int) (skb : Nat)
    (writeIndex : UInt32) (words : List UInt32) :
    (storeEntry hal ring full skb writeIndex words = (hal, ring, -full) ∧
      ((halSrngSrcNumFree hal ring.halRingId.toNat false).2 < 1 ∨
        halSrngSrcGetNextEntry hal ring.halRingId.toNat = (hal, none))) ∨
    (∃ hal' desc,
      halSrngSrcGetNextEntry hal ring.halRingId.toNat = (hal', some desc) ∧
      storeEntry hal ring full skb writeIndex words =
        (hal', ring.fill desc words skb writeIndex, 0)) := by
  have unchanged : ∀ hal', halSrngSrcGetNextEntry hal ring.halRingId.toNat =
      (hal', none) → hal' = hal := by
    intro hal' result
    rw [halSrngSrcGetNextEntry_def] at result
    simp only at result
    split at result
    · cases result
      rfl
    · simp at result
  unfold storeEntry
  rw [halSrngSrcNumFree_cached]
  simp only
  split
  next few => exact .inl ⟨rfl, .inl few⟩
  next =>
      split
      next hal' result =>
          cases unchanged hal' result
          exact .inl ⟨rfl, .inr result⟩
      next hal' desc result => exact .inr ⟨hal', desc, result, rfl⟩

theorem testDstEnqueuePipe_cases (hal : Hal) (pipe : SrngTestPipe)
    (ring : SrngTestRing) (skb : Nat) (paddr : UInt64) (writeIndex : UInt32) :
    (testDstEnqueuePipe hal pipe ring skb paddr writeIndex =
        (hal, pipe, -enospc) ∧
      ((halSrngSrcNumFree hal ring.halRingId.toNat false).2 < 1 ∨
        halSrngSrcGetNextEntry hal ring.halRingId.toNat = (hal, none))) ∨
    (∃ hal' desc,
      halSrngSrcGetNextEntry hal ring.halRingId.toNat = (hal', some desc) ∧
      testDstEnqueuePipe hal pipe ring skb paddr writeIndex =
        (hal', pipe.fill ring desc (testDstSetDesc paddr) skb writeIndex, 0)) := by
  have nonzero : -enospc ≠ 0 := by decide
  unfold testDstEnqueuePipe
  obtain ⟨refused, reason⟩ | ⟨hal', desc, result, stored⟩ :=
    storeEntry_cases hal ring enospc skb writeIndex (testDstSetDesc paddr)
  · left
    refine ⟨?_, reason⟩
    simp only [refused, if_neg nonzero]
  · right
    refine ⟨hal', desc, result, ?_⟩
    simp only [stored, if_true]
    rfl

theorem testDstRecvNext_cases (hal : Hal) (pipe : SrngTestPipe)
    (dst status : SrngTestRing) (swIndex : UInt32) :
    (halSrngDstGetNextEntry hal status.halRingId.toNat = (hal, none) ∧
      testDstRecvNext hal pipe dst status swIndex = (hal, pipe, .error (-eio))) ∨
    (∃ hal' desc,
      halSrngDstGetNextEntry hal status.halRingId.toNat = (hal', some desc) ∧
      testDstGetLength status.mem desc = 0 ∧
      testDstRecvNext hal pipe dst status swIndex = (hal', pipe, .error (-eio))) ∨
    (∃ hal' desc,
      halSrngDstGetNextEntry hal status.halRingId.toNat = (hal', some desc) ∧
      testDstGetLength status.mem desc ≠ 0 ∧
      testDstRecvNext hal pipe dst status swIndex =
        (hal', pipe.take dst swIndex,
          .ok (dst.skb swIndex.toNat, testDstGetLength status.mem desc))) := by
  have unchanged : ∀ hal', halSrngDstGetNextEntry hal status.halRingId.toNat =
      (hal', none) → hal' = hal := by
    intro hal' result
    rw [halSrngDstGetNextEntry_def] at result
    split at result
    · cases result
      rfl
    · simp at result
  unfold testDstRecvNext
  split
  next hal' result =>
      cases unchanged hal' result
      exact .inl ⟨result, rfl⟩
  next hal' desc result =>
      simp only
      split
      next empty => exact .inr (.inl ⟨hal', desc, result, empty, rfl⟩)
      next filled => exact .inr (.inr ⟨hal', desc, result, filled, rfl⟩)

/-! Of the HAL each middle part changes what its get-next function changes. -/

theorem storeEntry_hal_cases (hal : Hal) (ring : SrngTestRing) (full : Int) (skb : Nat)
    (writeIndex : UInt32) (words : List UInt32) :
    (storeEntry hal ring full skb writeIndex words).1 = hal ∨
      (storeEntry hal ring full skb writeIndex words).1 =
        (halSrngSrcGetNextEntry hal ring.halRingId.toNat).1 := by
  obtain ⟨refused, _⟩ | ⟨_, _, result, stored⟩ :=
    storeEntry_cases hal ring full skb writeIndex words
  · exact .inl (by rw [refused])
  · exact .inr (by rw [result, stored])

theorem testDstEnqueuePipe_hal (hal : Hal) (pipe : SrngTestPipe) (ring : SrngTestRing)
    (skb : Nat) (paddr : UInt64) (writeIndex : UInt32) :
    (testDstEnqueuePipe hal pipe ring skb paddr writeIndex).1 =
      (storeEntry hal ring enospc skb writeIndex (testDstSetDesc paddr)).1 := by
  unfold testDstEnqueuePipe
  simp only
  split <;> rfl

theorem testDstRecvNext_hal (hal : Hal) (pipe : SrngTestPipe) (dst status : SrngTestRing)
    (swIndex : UInt32) :
    (testDstRecvNext hal pipe dst status swIndex).1 =
      (halSrngDstGetNextEntry hal status.halRingId.toNat).1 := by
  obtain ⟨result, refused⟩ | ⟨_, _, result, _, refused⟩ | ⟨_, _, result, _, taken⟩ :=
    testDstRecvNext_cases hal pipe dst status swIndex
  · rw [result, refused]
  · rw [result, refused]
  · rw [result, taken]

/-! The index arithmetic of the tables. -/

structure TableShape (ring : SrngTestRing) (entries : Nat) : Prop where
  nentries_eq : ring.nentries.toNat = entries
  mask_eq : ring.nentriesMask = ring.nentries - 1
  power : ∃ exponent, entries = 2 ^ exponent

namespace TableShape

variable {ring : SrngTestRing} {entries : Nat}

theorem entries_pos (shape : TableShape ring entries) : 0 < entries := by
  obtain ⟨exponent, rfl⟩ := shape.power
  exact Nat.two_pow_pos exponent

theorem toNat_mask (shape : TableShape ring entries) :
    ring.nentriesMask.toNat = entries - 1 := by
  rw [shape.mask_eq, UInt32.toNat_sub_of_le, shape.nentries_eq]
  · rfl
  · rw [UInt32.le_iff_toNat_le, shape.nentries_eq]
    exact shape.entries_pos

theorem nextIndex_mod (shape : TableShape ring entries) (index : UInt32) :
    (ring.nextIndex index).toNat = (index.toNat + 1) % entries := by
  rw [SrngTestRing.nextIndex, UInt32.toNat_and, shape.toNat_mask,
    UInt32.toNat_add, show (1 : UInt32).toNat = 1 from rfl]
  have bound : entries < 2 ^ 32 := by
    rw [← shape.nentries_eq]
    exact ring.nentries.toNat_lt
  obtain ⟨exponent, rfl⟩ := shape.power
  have divides : 2 ^ exponent ∣ 2 ^ 32 := Nat.pow_dvd_pow 2
    (Nat.le_of_lt ((Nat.pow_lt_pow_iff_right (by decide)).mp bound))
  rw [Nat.and_two_pow_sub_one_eq_mod, Nat.mod_mod_of_dvd _ divides]

theorem nextIndex_lt (shape : TableShape ring entries) (index : UInt32) :
    (ring.nextIndex index).toNat < entries := by
  rw [shape.nextIndex_mod]
  exact Nat.mod_lt _ shape.entries_pos

/-- An index that counts modulo the table size keeps doing so. -/
theorem nextIndex_count (shape : TableShape ring entries) {index : UInt32}
    {count : Nat} (counts : index.toNat = count % entries) :
    (ring.nextIndex index).toNat = (count + 1) % entries := by
  rw [shape.nextIndex_mod, counts, Nat.mod_add_mod]

end TableShape

theorem FreshRing.shape {ring : SrngTestRing} {entries : Nat}
    (fresh : FreshRing ring entries) : TableShape ring entries :=
  ⟨fresh.nentries_eq, fresh.mask_eq, fresh.power⟩

end WirelessSimu
