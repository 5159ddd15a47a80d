import WirelessSimu.Hal.Registers
import WirelessSimu.Rx.Invariant

namespace WirelessSimu

open Data Kernel

/-! What the receive module shares with the rest of the driver: it leaves alone every
register that is not the pointer register of a ring, and every ring that is not its
own. Conversely it stays in order as long as its own rings are left alone. -/

section Registers

variable {hal : Hal} {id base entries size : Nat} {address : UInt32}

theorem load_accessBegin (pointer : WordPtr) :
    (halSrngAccessBegin hal id).load pointer = hal.load pointer := by
  unfold halSrngAccessBegin
  simp only
  split
  · rw [Hal.load_setSrng]
  · rw [Hal.load_setSrng]

theorem load_srcGetNextEntry (pointer : WordPtr) :
    (halSrngSrcGetNextEntry hal id).1.load pointer = hal.load pointer := by
  unfold halSrngSrcGetNextEntry
  simp only
  split
  · rfl
  · rw [Hal.load_setSrng]

theorem load_dstGetNextEntry (pointer : WordPtr) :
    (halSrngDstGetNextEntry hal id).1.load pointer = hal.load pointer := by
  unfold halSrngDstGetNextEntry
  simp only
  split
  · rfl
  · rw [Hal.load_setSrng]

theorem RingDirect.plain_ne_publish (direct : RingDirect hal id)
    (plain : PlainRegister address) :
    WordPtr.mmio address ≠ (hal.srngList id).publishAddr := by
  rw [direct.publish, ne_eq, WordPtr.mmio.injEq]
  exact plain id direct.small

theorem load_accessEnd {dir : HalSrngDir}
    (ready : RingReady hal id dir base entries size) (direct : RingDirect hal id)
    (plain : PlainRegister address) :
    (halSrngAccessEnd hal id).load (.mmio address) = hal.load (.mmio address) := by
  have different := direct.plain_ne_publish plain
  cases dir with
  | src =>
      rw [halSrngAccessEnd_src ready, Hal.load_store_of_ne _ _ different,
        Hal.load_setSrc]
  | dst =>
      rw [halSrngAccessEnd_dst ready, Hal.load_store_of_ne _ _ different,
        Hal.load_setDst]

/-- The device stores to the `rdp` word of a ring. -/
theorem load_store_shadow (direct : RingDirect hal id) (value : UInt32) :
    (hal.store (hal.srngList id).shadowAddr value).load (.mmio address) =
      hal.load (.mmio address) := by
  rw [direct.shadow]
  exact Hal.load_store_of_ne _ _ (by simp)

theorem load_storeEntry (ring : SrngTestRing) (full : Int) (skb : Nat)
    (writeIndex : UInt32) (words : List UInt32) (pointer : WordPtr) :
    (storeEntry hal ring full skb writeIndex words).1.load pointer =
      hal.load pointer := by
  obtain same | moved := storeEntry_hal_cases hal ring full skb writeIndex words
  · rw [same]
  · rw [moved, load_srcGetNextEntry]

theorem load_testDstRecvNext (pipe : SrngTestPipe) (dst status : SrngTestRing)
    (swIndex : UInt32) (pointer : WordPtr) :
    (testDstRecvNext hal pipe dst status swIndex).1.load pointer =
      hal.load pointer := by
  rw [testDstRecvNext_hal, load_dstGetNextEntry]

theorem load_testDstEnqueuePipe (pipe : SrngTestPipe) (ring : SrngTestRing) (skb : Nat)
    (paddr : UInt64) (writeIndex : UInt32) (pointer : WordPtr) :
    (testDstEnqueuePipe hal pipe ring skb paddr writeIndex).1.load pointer =
      hal.load pointer := by
  rw [testDstEnqueuePipe_hal, load_storeEntry]

end Registers

section Rings

variable {hal : Hal} {other : Nat}

theorem agree_storeEntry (ring : SrngTestRing) (full : Int) (skb : Nat)
    (writeIndex : UInt32) (words : List UInt32)
    (different : other ≠ ring.halRingId.toNat) :
    Agree hal (storeEntry hal ring full skb writeIndex words).1 other := by
  obtain same | moved := storeEntry_hal_cases hal ring full skb writeIndex words
  · rw [same]
    exact .refl _ _
  · rw [moved]
    exact agree_srcGetNextEntry different

theorem agree_testDstRecvNext (pipe : SrngTestPipe) (dst status : SrngTestRing)
    (swIndex : UInt32) (different : other ≠ status.halRingId.toNat) :
    Agree hal (testDstRecvNext hal pipe dst status swIndex).1 other := by
  rw [testDstRecvNext_hal]
  exact agree_dstGetNextEntry different

theorem agree_testDstEnqueuePipe (pipe : SrngTestPipe) (ring : SrngTestRing)
    (skb : Nat) (paddr : UInt64) (writeIndex : UInt32)
    (different : other ≠ ring.halRingId.toNat) :
    Agree hal (testDstEnqueuePipe hal pipe ring skb paddr writeIndex).1 other := by
  rw [testDstEnqueuePipe_hal]
  exact agree_storeEntry _ _ _ _ _ different

end Rings

/-! No operation of a ring changes what the setups have recorded. -/

structure SameSetup (hal hal' : Hal) : Prop where
  config : hal'.srngConfig = hal.srngConfig
  initialized : ∀ id, (hal'.srngList id).initialized = (hal.srngList id).initialized

namespace SameSetup

variable {hal : Hal} {id : Nat}

theorem refl (hal : Hal) : SameSetup hal hal := ⟨rfl, fun _ => rfl⟩

theorem trans {hal' third : Hal} (left : SameSetup hal hal')
    (right : SameSetup hal' third) : SameSetup hal third where
  config := right.config.trans left.config
  initialized := fun id => (right.initialized id).trans (left.initialized id)

theorem setSrng {srng : HalSrng}
    (kept : srng.initialized = (hal.srngList id).initialized) :
    SameSetup hal (hal.setSrng id srng) where
  config := rfl
  initialized := by
    intro other
    by_cases same : other = id
    · rw [same, Hal.srngList_setSrng_self, kept]
    · rw [Hal.srngList_setSrng_of_ne _ _ same]

theorem store (hal : Hal) (pointer : WordPtr) (value : UInt32) :
    SameSetup hal (hal.store pointer value) where
  config := Hal.srngConfig_store _ _ _
  initialized := fun _ => by rw [Hal.srngList_store]

theorem accessBegin : SameSetup hal (halSrngAccessBegin hal id) := by
  unfold halSrngAccessBegin
  simp only
  split
  · exact setSrng rfl
  · exact setSrng rfl

theorem accessEnd : SameSetup hal (halSrngAccessEnd hal id) := by
  unfold halSrngAccessEnd
  simp only [hifWrite32]
  split
  · split
    · refine trans ?_ (store _ _ _)
      exact setSrng rfl
    · refine trans ?_ (store _ _ _)
      exact setSrng rfl
  · split
    · refine trans ?_ (store _ _ _)
      exact setSrng rfl
    · refine trans ?_ (store _ _ _)
      exact setSrng rfl

theorem srcGetNextEntry : SameSetup hal (halSrngSrcGetNextEntry hal id).1 := by
  unfold halSrngSrcGetNextEntry
  simp only
  split
  · exact .refl _
  · exact setSrng rfl

theorem dstGetNextEntry : SameSetup hal (halSrngDstGetNextEntry hal id).1 := by
  unfold halSrngDstGetNextEntry
  simp only
  split
  · exact .refl _
  · exact setSrng rfl

theorem storeEntry (ring : SrngTestRing) (full : Int) (skb : Nat)
    (writeIndex : UInt32) (words : List UInt32) :
    SameSetup hal (WirelessSimu.storeEntry hal ring full skb writeIndex words).1 := by
  obtain same | moved := storeEntry_hal_cases hal ring full skb writeIndex words
  · rw [same]
    exact .refl _
  · rw [moved]
    exact .srcGetNextEntry

theorem testDstRecvNext (pipe : SrngTestPipe) (dst status : SrngTestRing)
    (swIndex : UInt32) :
    SameSetup hal (WirelessSimu.testDstRecvNext hal pipe dst status swIndex).1 := by
  rw [testDstRecvNext_hal]
  exact .dstGetNextEntry

theorem testDstEnqueuePipe (pipe : SrngTestPipe) (ring : SrngTestRing)
    (skb : Nat) (paddr : UInt64) (writeIndex : UInt32) :
    SameSetup hal
      (WirelessSimu.testDstEnqueuePipe hal pipe ring skb paddr writeIndex).1 := by
  rw [testDstEnqueuePipe_hal]
  exact .storeEntry _ _ _ _ _

end SameSetup

section Receive

variable {layout : RxLayout} {rx next : Rx} {event : Rx.Event} {index : Nat}

theorem RxInv.load_plain (inv : RxInv layout rx) (stepped : Rx.Step rx event next)
    {address : UInt32} (plain : PlainRegister address) :
    next.hal.load (.mmio address) = rx.hal.load (.mmio address) := by
  have lock := inv.lock
  rw [LockInv] at lock
  cases stepped with
  | recvBegin free receiving rings => exact load_accessBegin _
  | recvTake held rings => exact load_testDstRecvNext _ _ _ _ _
  | recvEnd held receiving rings =>
      have inRange := inv.drains_lt _ (by rw [receiving]; simp)
      obtain ⟨counts, at_⟩ := inv.at_rings inRange rings
      exact load_accessEnd at_.inv.rings.statusReady at_.inv.rings.statusDirect plain
  | enqueueBegin held needed ring => exact load_accessBegin _
  | enqueueStore held ring => exact load_testDstEnqueuePipe _ _ _ _ _ _
  | enqueueEnd held ring =>
      rw [held] at lock
      obtain ⟨status, counts, at_⟩ := inv.at_dst lock.1 ring
      exact load_accessEnd at_.inv.rings.dstReady at_.inv.rings.dstDirect plain
  | enqueueUndo held failed ring => exact absurd (inv.enqueue_zero held ring) failed
  | deviceStoreTail inRange ring =>
      obtain ⟨status, counts, at_⟩ := inv.at_dst inRange ring
      simp only [at_.tpAddr_eq]
      exact load_store_shadow at_.inv.rings.dstDirect _
  | deviceStoreHead inRange ring =>
      obtain ⟨dst, counts, at_⟩ := inv.at_status inRange ring
      simp only [at_.hpAddr_eq]
      exact load_store_shadow at_.inv.rings.statusDirect _
  | postBufNull | postBufWait | postBufDone | postBufOn | postBufStop => rw [Rx.hal_setPostBuf]
  | postDone | postNoMemory | postUnmapped => rw [Rx.hal_postExit]
  | _ => rfl

/-- The ring `other` is none of the rings of the module. -/
def RxLayout.Avoids (layout : RxLayout) (count other : Nat) : Prop :=
  ∀ index < count, other ≠ layout.dstId index ∧ other ≠ layout.statusId index

theorem RxInv.agree_step (inv : RxInv layout rx) (stepped : Rx.Step rx event next)
    {other : Nat} (avoids : layout.Avoids rx.pipesCount other)
    (direct : RingDirect rx.hal other) : Agree rx.hal next.hal other := by
  have lock := inv.lock
  rw [LockInv] at lock
  cases stepped with
  | recvBegin free receiving rings =>
      have inRange := inv.drains_lt _ (by rw [receiving]; simp)
      obtain ⟨counts, at_⟩ := inv.at_rings inRange rings
      exact agree_accessBegin (by rw [at_.statusId_eq]; exact (avoids _ inRange).2)
  | recvTake held rings =>
      rw [held] at lock
      obtain ⟨counts, at_⟩ := inv.at_rings lock.1 rings
      exact agree_testDstRecvNext _ _ _ _
        (by rw [at_.statusId_eq]; exact (avoids _ lock.1).2)
  | recvEnd held receiving rings =>
      have inRange := inv.drains_lt _ (by rw [receiving]; simp)
      obtain ⟨counts, at_⟩ := inv.at_rings inRange rings
      exact agree_accessEnd at_.inv.rings.statusReady at_.inv.rings.statusDirect direct
        (by rw [at_.statusId_eq]; exact (avoids _ inRange).2)
  | enqueueBegin held needed ring =>
      rw [held] at lock
      obtain ⟨status, counts, at_⟩ := inv.at_dst lock.1 ring
      exact agree_accessBegin (by rw [at_.dstId_eq]; exact (avoids _ lock.1).1)
  | enqueueStore held ring =>
      rw [held] at lock
      obtain ⟨status, counts, at_⟩ := inv.at_dst lock.1 ring
      exact agree_testDstEnqueuePipe _ _ _ _ _
        (by rw [at_.dstId_eq]; exact (avoids _ lock.1).1)
  | enqueueEnd held ring =>
      rw [held] at lock
      obtain ⟨status, counts, at_⟩ := inv.at_dst lock.1 ring
      exact agree_accessEnd at_.inv.rings.dstReady at_.inv.rings.dstDirect direct
        (by rw [at_.dstId_eq]; exact (avoids _ lock.1).1)
  | enqueueUndo held failed ring => exact absurd (inv.enqueue_zero held ring) failed
  | deviceStoreTail inRange ring =>
      obtain ⟨status, counts, at_⟩ := inv.at_dst inRange ring
      simp only [at_.tpAddr_eq]
      exact agree_store_shadow at_.inv.rings.dstDirect direct
        (by rw [RxPipe.dstId, Rx.pipe, at_.dstId_eq]; exact (avoids _ inRange).1) _
  | deviceStoreHead inRange ring =>
      obtain ⟨dst, counts, at_⟩ := inv.at_status inRange ring
      simp only [at_.hpAddr_eq]
      exact agree_store_shadow at_.inv.rings.statusDirect direct
        (by rw [RxPipe.statusId, Rx.pipe, at_.statusId_eq]; exact (avoids _ inRange).2) _
  | postBufNull | postBufWait | postBufDone | postBufOn | postBufStop =>
      rw [Rx.hal_setPostBuf]
      exact .refl _ _
  | postDone | postNoMemory | postUnmapped =>
      rw [Rx.hal_postExit]
      exact .refl _ _
  | _ => exact .refl _ _

/-- The rest of the driver leaves the rings of the module alone. -/
theorem RxInv.of_agree (inv : RxInv layout rx) {hal : Hal}
    (agree : ∀ index < rx.pipesCount, Agree rx.hal hal (layout.dstId index) ∧
      Agree rx.hal hal (layout.statusId index)) :
    RxInv layout { rx with hal := hal } where
  apart := inv.apart
  pipes := by
    intro index inRange
    obtain ⟨dst, status, counts, at_⟩ := inv.pipes index inRange
    obtain ⟨dstAgree, statusAgree⟩ := agree index inRange
    exact ⟨dst, status, counts,
      at_.frame rfl rfl rfl rfl dstAgree statusAgree fun _ claim => claim⟩
  drains_lt := inv.drains_lt
  waits_lt := inv.waits_lt
  lock := inv.lock
  blank := inv.blank.setAside hal (Nat.le_refl _) fun _ _ => rfl

theorem RxInv.agree_register (inv : RxInv layout rx) {address : UInt32}
    (plain : PlainRegister address) (value : UInt32) :
    ∀ index < rx.pipesCount,
      Agree rx.hal (hifWrite32 rx.hal address value) (layout.dstId index) ∧
        Agree rx.hal (hifWrite32 rx.hal address value) (layout.statusId index) := by
  intro index inRange
  obtain ⟨dst, status, counts, at_⟩ := inv.pipes index inRange
  have outside : ∀ id, RingDirect rx.hal id →
      Agree rx.hal (hifWrite32 rx.hal address value) id := by
    intro id direct
    refine .store rx.hal value ?_ (direct.plain_ne_publish plain).symm
    rw [direct.shadow]
    simp
  exact ⟨outside _ at_.dstDirect, outside _ at_.statusDirect⟩

/-- The memory of the two receive rings of a pipe, as the device addresses it. -/
def SrngTestPipe.receiveBases (pipe : SrngTestPipe) : Option UInt64 × Option UInt64 :=
  (pipe.dstRing.map (·.baseAddrTestSpace), pipe.statusRing.map (·.baseAddrTestSpace))

/-- What the traffic never changes of a ring, and of a pipe with its receive rings. -/
def SrngTestRing.fixed (ring : SrngTestRing) : SrngTestRing :=
  { ring with swIndex := 0, writeIndex := 0, skb := fun _ => none, mem := fun _ => 0 }

def SrngTestPipe.fixed (pipe : SrngTestPipe) : SrngTestPipe :=
  { pipe with
    rxBufNeeded := 0
    dstRing := pipe.dstRing.map SrngTestRing.fixed
    statusRing := pipe.statusRing.map SrngTestRing.fixed }

theorem SrngTestPipe.receiveBases_fixed (pipe : SrngTestPipe) :
    pipe.fixed.receiveBases = pipe.receiveBases := by
  simp only [receiveBases, fixed, Option.map_map]
  rfl

theorem fixed_testDstRecvNext {hal : Hal} {pipe : SrngTestPipe}
    {dst : SrngTestRing} (ring : pipe.dstRing = some dst) (status : SrngTestRing)
    (swIndex : UInt32) :
    (testDstRecvNext hal pipe dst status swIndex).2.1.fixed = pipe.fixed := by
  obtain ⟨_, outcome⟩ | ⟨_, _, _, _, outcome⟩ | ⟨_, _, _, _, outcome⟩ :=
    testDstRecvNext_cases hal pipe dst status swIndex
  · rw [outcome]
  · rw [outcome]
  · rw [outcome, SrngTestPipe.fixed, SrngTestPipe.fixed, ring]
    rfl

theorem fixed_testDstEnqueuePipe {hal : Hal} {pipe : SrngTestPipe}
    {dst : SrngTestRing} (ring : pipe.dstRing = some dst) (skb : Nat) (paddr : UInt64)
    (writeIndex : UInt32) :
    (testDstEnqueuePipe hal pipe dst skb paddr writeIndex).2.1.fixed = pipe.fixed := by
  obtain ⟨outcome, _⟩ | ⟨_, _, _, outcome⟩ :=
    testDstEnqueuePipe_cases hal pipe dst skb paddr writeIndex
  · rw [outcome]
  · rw [outcome, SrngTestPipe.fixed, SrngTestPipe.fixed, ring]
    rfl

theorem Rx.Step.sameSetup (stepped : Rx.Step rx event next) :
    SameSetup rx.hal next.hal := by
  cases stepped with
  | recvBegin | enqueueBegin => exact .accessBegin
  | recvTake => exact .testDstRecvNext _ _ _ _
  | recvEnd | enqueueEnd => exact .accessEnd
  | enqueueStore => exact .testDstEnqueuePipe _ _ _ _ _
  | enqueueUndo =>
      rw [Rx.hal_postExit]
      exact .accessEnd
  | deviceStoreTail | deviceStoreHead => exact .store _ _ _
  | postBufNull | postBufWait | postBufDone | postBufOn | postBufStop =>
      rw [Rx.hal_setPostBuf]
      exact .refl _
  | postDone | postNoMemory | postUnmapped =>
      rw [Rx.hal_postExit]
      exact .refl _
  | _ => exact .refl _

theorem Rx.Step.fixed_eq (stepped : Rx.Step rx event next) (live : next.live = true)
    (index : Nat) : (next.pipes index).fixed = (rx.pipes index).fixed := by
  have written : ∀ touched pipe, pipe.fixed = (rx.pipes touched).fixed →
      (Function.update rx.pipes touched pipe index).fixed = (rx.pipes index).fixed := by
    intro touched pipe kept
    by_cases same : index = touched
    · rw [same, Function.update_self, kept]
    · rw [Function.update_of_ne same]
  cases stepped with
  | recvTake held rings =>
      exact written _ _ (fixed_testDstRecvNext (Rx.rings_eq_some.mp rings).1 _ _)
  | enqueueStore held ring =>
      exact written _ _ (fixed_testDstEnqueuePipe ring _ _ _)
  | deviceReport inRange ring =>
      refine written _ _ ?_
      rw [SrngTestPipe.fixed, SrngTestPipe.fixed, ring]
      rfl
  | deinit => contradiction
  | postBufNull | postBufWait | postBufDone | postBufOn | postBufStop => rw [Rx.pipes_setPostBuf]
  | postDone | postNoMemory | postUnmapped | enqueueUndo => rw [Rx.pipes_postExit]
  | _ => rfl

/-- A running module keeps its ring memory. -/
theorem Rx.Step.receiveBases_eq (stepped : Rx.Step rx event next)
    (live : next.live = true) (index : Nat) :
    (next.pipes index).receiveBases = (rx.pipes index).receiveBases := by
  rw [← SrngTestPipe.receiveBases_fixed, stepped.fixed_eq live,
    SrngTestPipe.receiveBases_fixed]

end Receive

end WirelessSimu
