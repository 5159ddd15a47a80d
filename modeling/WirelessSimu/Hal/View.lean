import WirelessSimu.Hal.Position

namespace WirelessSimu

open Data Kernel

/-! What a ring is to its two users: the driver's own pointers, the shadow word
that the device stores and the word that `access_end` publishes. Every ring
operation is an update of this view. -/

structure SrcView where
  hp : UInt32
  reapHp : UInt32
  cachedTp : UInt32
  shadow : UInt32
  published : UInt32

structure DstView where
  tp : UInt32
  cachedHp : UInt32
  shadow : UInt32
  published : UInt32

def Hal.srcView (hal : Hal) (id : Nat) : SrcView where
  hp := (hal.srngList id).srcRing.hp
  reapHp := (hal.srngList id).srcRing.reapHp
  cachedTp := (hal.srngList id).srcRing.cachedTp
  shadow := hal.load (hal.srngList id).shadowAddr
  published := hal.load (hal.srngList id).publishAddr

def Hal.dstView (hal : Hal) (id : Nat) : DstView where
  tp := (hal.srngList id).dstRing.tp
  cachedHp := (hal.srngList id).dstRing.cachedHp
  shadow := hal.load (hal.srngList id).shadowAddr
  published := hal.load (hal.srngList id).publishAddr

/-- The part of a ring that no operation changes. -/
structure RingReady (hal : Hal) (id : Nat) (dir : HalSrngDir)
    (base entries size : Nat) : Prop where
  shape : RingShape (hal.srngList id) entries size
  wired : RingWired (hal.srngList id) id
  dir_eq : (hal.srngList id).ringDir = dir
  base_eq : (hal.srngList id).ringBaseVaddr = base

/-- The ring after an operation that changed nothing but its pointers. -/
structure SameRing (srng srng' : HalSrng) : Prop where
  ringDir : srng'.ringDir = srng.ringDir
  ringBasePaddr : srng'.ringBasePaddr = srng.ringBasePaddr
  ringBaseVaddr : srng'.ringBaseVaddr = srng.ringBaseVaddr
  entrySize : srng'.entrySize = srng.entrySize
  ringSize : srng'.ringSize = srng.ringSize
  flags : srng'.flags = srng.flags
  shadowAddr : srng'.shadowAddr = srng.shadowAddr
  publishAddr : srng'.publishAddr = srng.publishAddr

theorem SameRing.refl (srng : HalSrng) : SameRing srng srng :=
  ⟨rfl, rfl, rfl, rfl, rfl, rfl, rfl, rfl⟩

theorem SameRing.trans {first second third : HalSrng}
    (left : SameRing first second) (right : SameRing second third) :
    SameRing first third where
  ringDir := right.ringDir.trans left.ringDir
  ringBasePaddr := right.ringBasePaddr.trans left.ringBasePaddr
  ringBaseVaddr := right.ringBaseVaddr.trans left.ringBaseVaddr
  entrySize := right.entrySize.trans left.entrySize
  ringSize := right.ringSize.trans left.ringSize
  flags := right.flags.trans left.flags
  shadowAddr := right.shadowAddr.trans left.shadowAddr
  publishAddr := right.publishAddr.trans left.publishAddr

theorem RingReady.of_same {hal hal' : Hal} {id : Nat} {dir : HalSrngDir}
    {base entries size : Nat} (ready : RingReady hal id dir base entries size)
    (same : SameRing (hal.srngList id) (hal'.srngList id)) :
    RingReady hal' id dir base entries size where
  shape :=
    { entries_pos := ready.shape.entries_pos
      size_pos := ready.shape.size_pos
      entrySize_eq := by rw [same.entrySize, ready.shape.entrySize_eq]
      ringSize_eq := by rw [same.ringSize, ready.shape.ringSize_eq] }
  wired :=
    { shadow := by rw [same.shadowAddr, ready.wired.shadow]
      publish := by
        rw [same.publishAddr, same.flags]
        exact ready.wired.publish }
  dir_eq := by rw [same.ringDir, ready.dir_eq]
  base_eq := by rw [same.ringBaseVaddr, ready.base_eq]

/-- `setup` clears the pointer words of a ring except for one that keeps them in
shared memory; those are zero as `dma_alloc_coherent` returned them. -/
def SharedWordsClear (hal : Hal) (type : HalRingType) (id : Nat) : Prop :=
  (hal.srngConfig type).lmacRing = true → hal.rdp id = 0 ∧ ∀ index, hal.wrp index = 0

namespace SetupDone

variable {hal hal' : Hal} {type : HalRingType} {id : Nat} {params : HalSrngParams}

theorem ring_eq (done : SetupDone hal hal' type id params) :
    hal'.srngList id = srngSetupRing hal (hal.srngList id) type id params := by
  rw [done.srngList, Function.update_self]

theorem ready (done : SetupDone hal hal' type id params) {dir : HalSrngDir}
    (dirEq : (hal.srngConfig type).ringDir = dir)
    (entriesPos : 0 < params.numEntries.toUInt32.toNat)
    (sizePos : 0 < (hal.srngConfig type).entrySize.toNat)
    (fits : params.numEntries.toUInt32.toNat *
      (hal.srngConfig type).entrySize.toNat < 2 ^ 32) :
    RingReady hal' id dir params.ringBaseVaddr params.numEntries.toUInt32.toNat
      (hal.srngConfig type).entrySize.toNat where
  shape := by
    rw [done.ring_eq]
    exact srngSetupRing_shape _ _ rfl rfl entriesPos sizePos fits
  wired := by
    rw [done.ring_eq]
    exact srngSetupRing_wired ..
  dir_eq := by
    rw [done.ring_eq]
    exact dirEq
  base_eq := by
    rw [done.ring_eq]
    rfl

theorem shadow_zero (done : SetupDone hal hal' type id params)
    (shared : SharedWordsClear hal type id) :
    hal'.load (hal'.srngList id).shadowAddr = 0 := by
  rw [done.ring_eq, (srngSetupRing_wired ..).shadow, done.shadow]
  split
  next lmac => exact (shared lmac).1
  next => rfl

theorem publish_zero (done : SetupDone hal hal' type id params)
    (shared : SharedWordsClear hal type id) :
    hal'.load (hal'.srngList id).publishAddr = 0 := by
  rw [done.publish]
  split
  next lmac =>
      have address : ∃ index, (hal'.srngList id).publishAddr = .wrp index := by
        rw [done.ring_eq]
        cases dir : (hal.srngConfig type).ringDir <;>
          simp [HalSrng.publishAddr, srngSetupRing, dir, lmac]
      obtain ⟨index, address⟩ := address
      rw [address]
      exact (shared lmac).2 index
  next => rfl

end SetupDone

/-! The two updates that all operations are made of. -/

def Hal.setSrc (hal : Hal) (id : Nat) (hp reapHp cachedTp lastTp : UInt32) : Hal :=
  hal.setSrng id
    { hal.srngList id with
      srcRing :=
        { (hal.srngList id).srcRing with
          hp := hp, reapHp := reapHp, cachedTp := cachedTp, lastTp := lastTp } }

def Hal.setDst (hal : Hal) (id : Nat) (tp cachedHp lastHp : UInt32) : Hal :=
  hal.setSrng id
    { hal.srngList id with
      dstRing :=
        { (hal.srngList id).dstRing with
          tp := tp, cachedHp := cachedHp, lastHp := lastHp } }

section Updates

variable (hal : Hal) (id : Nat)

theorem Hal.same_setSrng {hal : Hal} {id : Nat} {srng : HalSrng}
    (same : SameRing (hal.srngList id) srng) (other : Nat) :
    SameRing (hal.srngList other) ((hal.setSrng id srng).srngList other) := by
  by_cases own : other = id
  · subst own
    rw [Hal.srngList_setSrng_self]
    exact same
  · rw [Hal.srngList_setSrng_of_ne _ _ own]
    exact .refl _

theorem Hal.same_setSrc (other : Nat) (hp reapHp cachedTp lastTp : UInt32) :
    SameRing (hal.srngList other)
      ((hal.setSrc id hp reapHp cachedTp lastTp).srngList other) := by
  apply Hal.same_setSrng
  exact ⟨rfl, rfl, rfl, rfl, rfl, rfl, rfl, rfl⟩

theorem Hal.same_setDst (other : Nat) (tp cachedHp lastHp : UInt32) :
    SameRing (hal.srngList other)
      ((hal.setDst id tp cachedHp lastHp).srngList other) := by
  apply Hal.same_setSrng
  exact ⟨rfl, rfl, rfl, rfl, rfl, rfl, rfl, rfl⟩

theorem Hal.same_store (other : Nat) (pointer : WordPtr) (value : UInt32) :
    SameRing (hal.srngList other)
      ((hal.store pointer value).srngList other) := by
  rw [Hal.srngList_store]
  exact .refl _

/-! No access moves a ring or turns it round. -/

theorem same_accessBegin {hal : Hal} {id : Nat} (other : Nat) :
    SameRing (hal.srngList other) ((halSrngAccessBegin hal id).srngList other) := by
  unfold halSrngAccessBegin
  simp only
  split
  · apply Hal.same_setSrng
    exact ⟨rfl, rfl, rfl, rfl, rfl, rfl, rfl, rfl⟩
  · apply Hal.same_setSrng
    exact ⟨rfl, rfl, rfl, rfl, rfl, rfl, rfl, rfl⟩

theorem same_accessEnd {hal : Hal} {id : Nat} (other : Nat) :
    SameRing (hal.srngList other) ((halSrngAccessEnd hal id).srngList other) := by
  unfold halSrngAccessEnd
  simp only [hifWrite32]
  split
  · split
    all_goals
      refine (Hal.same_setSrng ?_ other).trans (Hal.same_store ..)
      exact ⟨rfl, rfl, rfl, rfl, rfl, rfl, rfl, rfl⟩
  · split
    all_goals
      refine (Hal.same_setSrng ?_ other).trans (Hal.same_store ..)
      exact ⟨rfl, rfl, rfl, rfl, rfl, rfl, rfl, rfl⟩

theorem same_srcGetNextEntry {hal : Hal} {id : Nat} (other : Nat) :
    SameRing (hal.srngList other) ((halSrngSrcGetNextEntry hal id).1.srngList other) := by
  unfold halSrngSrcGetNextEntry
  simp only
  split
  · exact .refl _
  · apply Hal.same_setSrng
    exact ⟨rfl, rfl, rfl, rfl, rfl, rfl, rfl, rfl⟩

theorem same_dstGetNextEntry {hal : Hal} {id : Nat} (other : Nat) :
    SameRing (hal.srngList other) ((halSrngDstGetNextEntry hal id).1.srngList other) := by
  unfold halSrngDstGetNextEntry
  simp only
  split
  · exact .refl _
  · apply Hal.same_setSrng
    exact ⟨rfl, rfl, rfl, rfl, rfl, rfl, rfl, rfl⟩

@[simp] theorem Hal.load_setSrc (pointer : WordPtr)
    (hp reapHp cachedTp lastTp : UInt32) :
    (hal.setSrc id hp reapHp cachedTp lastTp).load pointer = hal.load pointer :=
  Hal.load_setSrng ..

@[simp] theorem Hal.load_setDst (pointer : WordPtr) (tp cachedHp lastHp : UInt32) :
    (hal.setDst id tp cachedHp lastHp).load pointer = hal.load pointer :=
  Hal.load_setSrng ..

theorem Hal.srcView_setSrc (hp reapHp cachedTp lastTp : UInt32) :
    (hal.setSrc id hp reapHp cachedTp lastTp).srcView id =
      { hal.srcView id with hp := hp, reapHp := reapHp, cachedTp := cachedTp } := by
  have same := hal.same_setSrc id id hp reapHp cachedTp lastTp
  simp only [Hal.srcView, Hal.load_setSrc, same.shadowAddr, same.publishAddr]
  simp [Hal.setSrc]

theorem Hal.dstView_setDst (tp cachedHp lastHp : UInt32) :
    (hal.setDst id tp cachedHp lastHp).dstView id =
      { hal.dstView id with tp := tp, cachedHp := cachedHp } := by
  have same := hal.same_setDst id id tp cachedHp lastHp
  simp only [Hal.dstView, Hal.load_setDst, same.shadowAddr, same.publishAddr]
  simp [Hal.setDst]

end Updates

section Operations

variable {hal : Hal} {id base entries size : Nat}

theorem RingReady.shadowAddr_ne_publishAddr {dir : HalSrngDir}
    (ready : RingReady hal id dir base entries size) :
    (hal.srngList id).shadowAddr ≠ (hal.srngList id).publishAddr := by
  rw [ready.wired.shadow]
  obtain ⟨⟨index, address⟩, _⟩ | address := ready.wired.publish
  · simp [address]
  · simp [address]

/-- The device's store to the shadow word. -/
theorem srcView_store_shadow {dir : HalSrngDir}
    (ready : RingReady hal id dir base entries size) (value : UInt32) :
    (hal.store (hal.srngList id).shadowAddr value).srcView id =
      { hal.srcView id with shadow := value } := by
  simp only [Hal.srcView, Hal.srngList_store, Hal.load_store_self,
    Hal.load_store_of_ne _ _ ready.shadowAddr_ne_publishAddr.symm]

theorem dstView_store_shadow {dir : HalSrngDir}
    (ready : RingReady hal id dir base entries size) (value : UInt32) :
    (hal.store (hal.srngList id).shadowAddr value).dstView id =
      { hal.dstView id with shadow := value } := by
  simp only [Hal.dstView, Hal.srngList_store, Hal.load_store_self,
    Hal.load_store_of_ne _ _ ready.shadowAddr_ne_publishAddr.symm]

/-- The driver's store to the publish word. -/
theorem srcView_store_publish {dir : HalSrngDir}
    (ready : RingReady hal id dir base entries size) (value : UInt32) :
    (hal.store (hal.srngList id).publishAddr value).srcView id =
      { hal.srcView id with published := value } := by
  simp only [Hal.srcView, Hal.srngList_store, Hal.load_store_self,
    Hal.load_store_of_ne _ _ ready.shadowAddr_ne_publishAddr]

theorem dstView_store_publish {dir : HalSrngDir}
    (ready : RingReady hal id dir base entries size) (value : UInt32) :
    (hal.store (hal.srngList id).publishAddr value).dstView id =
      { hal.dstView id with published := value } := by
  simp only [Hal.dstView, Hal.srngList_store, Hal.load_store_self,
    Hal.load_store_of_ne _ _ ready.shadowAddr_ne_publishAddr]

theorem halSrngAccessBegin_src (dir : (hal.srngList id).ringDir = .src) :
    halSrngAccessBegin hal id =
      hal.setSrc id (hal.srcView id).hp (hal.srcView id).reapHp
        (hal.srcView id).shadow (hal.srngList id).srcRing.lastTp := by
  simp only [halSrngAccessBegin, dir, Hal.setSrc, Hal.srcView, HalSrng.shadowAddr]

theorem halSrngAccessBegin_dst (dir : (hal.srngList id).ringDir = .dst) :
    halSrngAccessBegin hal id =
      hal.setDst id (hal.dstView id).tp (hal.dstView id).shadow
        (hal.srngList id).dstRing.lastHp := by
  simp only [halSrngAccessBegin, dir, Hal.setDst, Hal.dstView, HalSrng.shadowAddr]

theorem halSrngAccessEnd_src (ready : RingReady hal id .src base entries size) :
    halSrngAccessEnd hal id =
      (hal.setSrc id (hal.srcView id).hp (hal.srcView id).reapHp
        (hal.srcView id).cachedTp (hal.srcView id).shadow).store
        (hal.srngList id).publishAddr (hal.srcView id).hp := by
  have publish := ready.wired.publish
  simp only [HalSrng.publishAddr, ready.dir_eq] at publish
  simp only [halSrngAccessEnd, ready.dir_eq, Hal.setSrc, Hal.srcView,
    HalSrng.shadowAddr, HalSrng.publishAddr]
  split
  next => rfl
  next direct =>
      obtain ⟨_, flag⟩ | address := publish
      · exact absurd flag direct
      · simp [hifWrite32, address, WordPtr.byteOffset]

theorem halSrngAccessEnd_dst (ready : RingReady hal id .dst base entries size) :
    halSrngAccessEnd hal id =
      (hal.setDst id (hal.dstView id).tp (hal.dstView id).cachedHp
        (hal.dstView id).shadow).store
        (hal.srngList id).publishAddr (hal.dstView id).tp := by
  have publish := ready.wired.publish
  simp only [HalSrng.publishAddr, ready.dir_eq] at publish
  simp only [halSrngAccessEnd, ready.dir_eq, Hal.setDst, Hal.dstView,
    HalSrng.shadowAddr, HalSrng.publishAddr]
  split
  next => rfl
  next direct =>
      obtain ⟨_, flag⟩ | address := publish
      · exact absurd flag direct
      · simp [hifWrite32, address, WordPtr.byteOffset]

/-! Each operation on the view. -/

theorem srcView_accessBegin (ready : RingReady hal id .src base entries size) :
    (halSrngAccessBegin hal id).srcView id =
      { hal.srcView id with cachedTp := (hal.srcView id).shadow } := by
  rw [halSrngAccessBegin_src ready.dir_eq, Hal.srcView_setSrc]

theorem dstView_accessBegin (ready : RingReady hal id .dst base entries size) :
    (halSrngAccessBegin hal id).dstView id =
      { hal.dstView id with cachedHp := (hal.dstView id).shadow } := by
  rw [halSrngAccessBegin_dst ready.dir_eq, Hal.dstView_setDst]

theorem srcView_accessEnd (ready : RingReady hal id .src base entries size) :
    (halSrngAccessEnd hal id).srcView id =
      { hal.srcView id with published := (hal.srcView id).hp } := by
  have same := hal.same_setSrc id id (hal.srcView id).hp (hal.srcView id).reapHp
    (hal.srcView id).cachedTp (hal.srcView id).shadow
  rw [halSrngAccessEnd_src ready, ← same.publishAddr,
    srcView_store_publish (ready.of_same same), Hal.srcView_setSrc]

theorem dstView_accessEnd (ready : RingReady hal id .dst base entries size) :
    (halSrngAccessEnd hal id).dstView id =
      { hal.dstView id with published := (hal.dstView id).tp } := by
  have same := hal.same_setDst id id (hal.dstView id).tp (hal.dstView id).cachedHp
    (hal.dstView id).shadow
  rw [halSrngAccessEnd_dst ready, ← same.publishAddr,
    dstView_store_publish (ready.of_same same), Hal.dstView_setDst]

theorem halSrngSrcNumFree_sync (dir : (hal.srngList id).ringDir = .src) :
    halSrngSrcNumFree hal id true =
      (hal.setSrc id (hal.srcView id).hp (hal.srcView id).reapHp
        (hal.srcView id).shadow (hal.srngList id).srcRing.lastTp,
        srcFreeEntries (hal.srngList id) (hal.srcView id).hp
          (hal.srcView id).shadow) := by
  simp only [halSrngSrcNumFree, if_true, Hal.setSrc, Hal.srcView,
    HalSrng.shadowAddr, dir]

theorem halSrngSrcNumFree_cached :
    halSrngSrcNumFree hal id false =
      (hal, srcFreeEntries (hal.srngList id) (hal.srcView id).hp
        (hal.srcView id).cachedTp) := rfl

theorem halSrngSrcGetNextReaped_eq :
    halSrngSrcGetNextReaped hal id =
      if (hal.srcView id).hp = (hal.srcView id).reapHp then (hal, none)
      else
        (hal.setSrc id
          (((hal.srcView id).hp + (hal.srngList id).entrySize) %
            (hal.srngList id).ringSize)
          (hal.srcView id).reapHp (hal.srcView id).cachedTp
          (hal.srngList id).srcRing.lastTp,
          some (descPtr (hal.srngList id) (hal.srcView id).hp)) := rfl

theorem halSrngSrcGetNextEntry_def :
    halSrngSrcGetNextEntry hal id =
      let nextHp := ((hal.srcView id).hp + (hal.srngList id).entrySize) %
        (hal.srngList id).ringSize
      if nextHp = (hal.srcView id).cachedTp then (hal, none)
      else
        (hal.setSrc id nextHp nextHp (hal.srcView id).cachedTp
          (hal.srngList id).srcRing.lastTp,
          some (descPtr (hal.srngList id) (hal.srcView id).hp)) := rfl

theorem halSrngDstGetNextEntry_def :
    halSrngDstGetNextEntry hal id =
      if (hal.dstView id).tp = (hal.dstView id).cachedHp then (hal, none)
      else
        (hal.setDst id
          (if (hal.dstView id).tp + (hal.srngList id).entrySize =
              (hal.srngList id).ringSize then 0
            else (hal.dstView id).tp + (hal.srngList id).entrySize)
          (hal.dstView id).cachedHp (hal.srngList id).dstRing.lastHp,
          some (descPtr (hal.srngList id) (hal.dstView id).tp)) := rfl

end Operations

end WirelessSimu
