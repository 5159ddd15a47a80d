import WirelessSimu.Data.Run
import WirelessSimu.Pipe.Transfer

namespace WirelessSimu

open Data Kernel

/-! The operations on all rings of one HAL, cut where another thread or the device may
come in between: a call of `test_send`, `enqueue_pipe` or `recv_next` is
`access_begin`, its middle part and `access_end`. The test rings and pipes are
arguments of the middle parts only. -/

inductive RingOp where
  | setup (type : HalRingType) (ringNum macId : Int) (params : HalSrngParams)
  | accessBegin (id : Nat)
  | srcNumFree (id : Nat) (syncHwPtr : Bool)
  | srcGetNextEntry (id : Nat)
  | srcGetNextReaped (id : Nat)
  | dstGetNextEntry (id : Nat)
  | testSend (ring : SrngTestRing) (skb : Nat) (data : SkBuff)
      (transferId writeIndex : UInt32)
  | enqueuePipe (pipe : SrngTestPipe) (ring : SrngTestRing) (skb : Nat)
      (paddr : UInt64) (writeIndex : UInt32)
  | recvNext (pipe : SrngTestPipe) (dst status : SrngTestRing) (swIndex : UInt32)
  | accessEnd (id : Nat)
  | deviceStore (id : Nat) (value : UInt32)

namespace RingOp

/-- The ring that the operation works on; a setup that fails has none. -/
def ring (hal : Hal) : RingOp → Option Nat
  | .setup type ringNum macId _ =>
      let ringId := halSrngGetRingId hal type ringNum macId
      if ringId < 0 then none else some ringId.toNat
  | .accessBegin id => some id
  | .srcNumFree id _ => some id
  | .srcGetNextEntry id => some id
  | .srcGetNextReaped id => some id
  | .dstGetNextEntry id => some id
  | .testSend ring _ _ _ _ => some ring.halRingId.toNat
  | .enqueuePipe _ ring _ _ _ => some ring.halRingId.toNat
  | .recvNext _ _ status _ => some status.halRingId.toNat
  | .accessEnd id => some id
  | .deviceStore id _ => some id

def act (hal : Hal) : RingOp → Hal
  | .setup type ringNum macId params =>
      (halSrngSetup hal (fun _ => 0) type ringNum macId params).1
  | .accessBegin id => halSrngAccessBegin hal id
  | .srcNumFree id syncHwPtr => (halSrngSrcNumFree hal id syncHwPtr).1
  | .srcGetNextEntry id => (halSrngSrcGetNextEntry hal id).1
  | .srcGetNextReaped id => (halSrngSrcGetNextReaped hal id).1
  | .dstGetNextEntry id => (halSrngDstGetNextEntry hal id).1
  | .testSend ring skb data transferId writeIndex =>
      (halSrngTestSend hal ring skb data transferId writeIndex).1
  | .enqueuePipe pipe ring skb paddr writeIndex =>
      (testDstEnqueuePipe hal pipe ring skb paddr writeIndex).1
  | .recvNext pipe dst status swIndex =>
      (testDstRecvNext hal pipe dst status swIndex).1
  | .accessEnd id => halSrngAccessEnd hal id
  | .deviceStore id value => hal.store (.rdp id) value

/-- The direction of the rings that an operation is called for. -/
def dir : RingOp → Option HalSrngDir
  | .srcNumFree _ _ => some .src
  | .srcGetNextEntry _ => some .src
  | .srcGetNextReaped _ => some .src
  | .testSend _ _ _ _ _ => some .src
  | .enqueuePipe _ _ _ _ _ => some .src
  | .dstGetNextEntry _ => some .dst
  | .recvNext _ _ _ _ => some .dst
  | _ => none

def isSetup : RingOp → Bool
  | .setup _ _ _ _ => true
  | _ => false

/-- The driver has the number of a ring from its setup only. -/
def enabled (hal : Hal) (op : RingOp) : Bool :=
  match op.ring hal with
  | none => true
  | some id => op.isSetup ||
      ((hal.srngList id).initialized ≠ 0 &&
        op.dir.all fun dir => (hal.srngList id).ringDir = dir)

def step (hal : Hal) (op : RingOp) : Option Hal :=
  if op.enabled hal then some (op.act hal) else none

end RingOp

/-! What belongs to ring `id`: its entry of `srng_list`, its word of `rdp` and its
register block. -/

def RingWord (id : Nat) : WordPtr → Prop
  | .rdp index => index = id
  | .wrp _ => False
  | .mmio address => InBlock id address

/-- The ring is the same in both states, and so are the fields that never change. -/
structure RingSame (id : Nat) (hal hal' : Hal) : Prop where
  srng : hal'.srngList id = hal.srngList id
  word : ∀ pointer, RingWord id pointer → hal'.load pointer = hal.load pointer
  config : hal'.srngConfig = hal.srngConfig
  order : hal'.cpuBigEndian = hal.cpuBigEndian
  paddr : hal'.rdpPaddr = hal.rdpPaddr

/-- Nothing but ring `id` changed. -/
structure Confined (id : Nat) (hal hal' : Hal) : Prop where
  srng : ∀ other, other ≠ id → hal'.srngList other = hal.srngList other
  word : ∀ pointer, ¬ RingWord id pointer → hal'.load pointer = hal.load pointer
  config : hal'.srngConfig = hal.srngConfig
  order : hal'.cpuBigEndian = hal.cpuBigEndian
  paddr : hal'.rdpPaddr = hal.rdpPaddr

theorem RingSame.refl (id : Nat) (hal : Hal) : RingSame id hal hal :=
  ⟨rfl, fun _ _ => rfl, rfl, rfl, rfl⟩

theorem RingSame.symm {id : Nat} {hal hal' : Hal} (same : RingSame id hal hal') :
    RingSame id hal' hal where
  srng := same.srng.symm
  word := fun pointer own => (same.word pointer own).symm
  config := same.config.symm
  order := same.order.symm
  paddr := same.paddr.symm

theorem RingSame.trans {id : Nat} {hal hal' hal'' : Hal} (left : RingSame id hal hal')
    (right : RingSame id hal' hal'') : RingSame id hal hal'' where
  srng := right.srng.trans left.srng
  word := fun pointer own => (right.word pointer own).trans (left.word pointer own)
  config := right.config.trans left.config
  order := right.order.trans left.order
  paddr := right.paddr.trans left.paddr

/-- The words of two rings are apart. -/
theorem RingWord.inj {id other : Nat} {pointer : WordPtr} (own : RingWord id pointer)
    (others : RingWord other pointer) : other = id := by
  cases pointer with
  | rdp index => exact others.symm.trans own
  | wrp index => exact own.elim
  | mmio address =>
      simp only [RingWord, InBlock] at own others
      omega

theorem Confined.same_other {id other : Nat} {hal hal' : Hal}
    (confined : Confined id hal hal') (different : other ≠ id) :
    RingSame other hal hal' where
  srng := confined.srng other different
  word := fun pointer others =>
    confined.word pointer fun own => different (own.inj others)
  config := confined.config
  order := confined.order
  paddr := confined.paddr

/-! All operations have one form: a new entry for the ring, then stores to words of
the ring. -/

def storeAll (hal : Hal) : List (WordPtr × UInt32) → Hal
  | [] => hal
  | (pointer, value) :: writes => storeAll (hal.store pointer value) writes

def Hal.put (hal : Hal) (id : Nat) (srng : HalSrng)
    (writes : List (WordPtr × UInt32)) : Hal :=
  storeAll (hal.setSrng id srng) writes

theorem Hal.load_store_congr {hal hal' : Hal} {pointer : WordPtr} (target : WordPtr)
    (value : UInt32) (same : hal'.load pointer = hal.load pointer) :
    (hal'.store target value).load pointer = (hal.store target value).load pointer := by
  by_cases hit : pointer = target
  · subst hit
    rw [Hal.load_store_self, Hal.load_store_self]
  · rw [Hal.load_store_of_ne _ _ hit, Hal.load_store_of_ne _ _ hit, same]

section Put

variable {id : Nat} {hal hal' : Hal}

theorem storeAll_append (first second : List (WordPtr × UInt32)) :
    storeAll hal (first ++ second) = storeAll (storeAll hal first) second := by
  induction first generalizing hal with
  | nil => rfl
  | cons write first ih => exact ih

theorem RingSame.store (same : RingSame id hal hal') (pointer : WordPtr)
    (value : UInt32) :
    RingSame id (hal.store pointer value) (hal'.store pointer value) where
  srng := by rw [Hal.srngList_store, Hal.srngList_store, same.srng]
  word := fun target own => Hal.load_store_congr pointer value (same.word target own)
  config := by rw [Hal.srngConfig_store, Hal.srngConfig_store, same.config]
  order := by cases pointer <;> exact same.order
  paddr := by cases pointer <;> exact same.paddr

theorem RingSame.storeAll (same : RingSame id hal hal')
    (writes : List (WordPtr × UInt32)) :
    RingSame id (storeAll hal writes) (WirelessSimu.storeAll hal' writes) := by
  induction writes generalizing hal hal' with
  | nil => exact same
  | cons write writes ih => exact ih (same.store write.1 write.2)

theorem RingSame.put (same : RingSame id hal hal') (srng : HalSrng)
    (writes : List (WordPtr × UInt32)) :
    RingSame id (hal.put id srng writes) (hal'.put id srng writes) := by
  apply RingSame.storeAll
  exact
    { srng := by rw [Hal.srngList_setSrng_self, Hal.srngList_setSrng_self]
      word := fun pointer own => by
        rw [Hal.load_setSrng, Hal.load_setSrng, same.word pointer own]
      config := same.config
      order := same.order
      paddr := same.paddr }

theorem Confined.trans {hal'' : Hal} (left : Confined id hal hal')
    (right : Confined id hal' hal'') : Confined id hal hal'' where
  srng := fun other different =>
    (right.srng other different).trans (left.srng other different)
  word := fun pointer outside =>
    (right.word pointer outside).trans (left.word pointer outside)
  config := right.config.trans left.config
  order := right.order.trans left.order
  paddr := right.paddr.trans left.paddr

theorem Confined.store {pointer : WordPtr} (own : RingWord id pointer)
    (value : UInt32) : Confined id hal (hal.store pointer value) where
  srng := fun _ _ => by rw [Hal.srngList_store]
  word := by
    intro target outside
    apply Hal.load_store_of_ne
    rintro rfl
    exact outside own
  config := Hal.srngConfig_store ..
  order := by cases pointer <;> rfl
  paddr := by cases pointer <;> rfl

theorem Confined.storeAll {writes : List (WordPtr × UInt32)}
    (own : ∀ write ∈ writes, RingWord id write.1) :
    Confined id hal (storeAll hal writes) := by
  induction writes generalizing hal with
  | nil => exact ⟨fun _ _ => rfl, fun _ _ => rfl, rfl, rfl, rfl⟩
  | cons write writes ih =>
      have first : Confined id hal (hal.store write.1 write.2) :=
        .store (own write List.mem_cons_self) _
      exact first.trans (ih fun later member => own later (List.mem_cons_of_mem _ member))

theorem Confined.put (srng : HalSrng) {writes : List (WordPtr × UInt32)}
    (own : ∀ write ∈ writes, RingWord id write.1) :
    Confined id hal (hal.put id srng writes) := by
  have entry : Confined id hal (hal.setSrng id srng) :=
    { srng := fun _ different => Hal.srngList_setSrng_of_ne _ _ different
      word := fun _ _ => Hal.load_setSrng ..
      config := rfl
      order := rfl
      paddr := rfl }
  exact entry.trans (.storeAll own)

end Put

/-- In `hal` the operation works on ring `id` alone and looks at nothing else. -/
def Local (id : Nat) (act : Hal → Hal) (hal : Hal) : Prop :=
  ∃ srng writes, (∀ write ∈ writes, RingWord id write.1) ∧
    ∀ other, RingSame id hal other → act other = other.put id srng writes

section Local

variable {id : Nat} {hal : Hal} {act : Hal → Hal}

theorem Local.confined (local_ : Local id act hal) : Confined id hal (act hal) := by
  obtain ⟨srng, writes, own, acts⟩ := local_
  rw [acts hal (.refl id hal)]
  exact .put srng own

theorem Local.same (local_ : Local id act hal) {other : Hal}
    (same : RingSame id hal other) : RingSame id (act hal) (act other) := by
  obtain ⟨srng, writes, own, acts⟩ := local_
  rw [acts hal (.refl id hal), acts other same]
  exact same.put srng writes

/-- An operation that only changes the entry of the ring. -/
theorem Local.of_entry (srng : HalSrng)
    (acts : ∀ other, RingSame id hal other → act other = other.setSrng id srng) :
    Local id act hal :=
  ⟨srng, [], by simp, acts⟩

theorem Hal.setSrng_self : hal.setSrng id (hal.srngList id) = hal := by
  rw [Hal.setSrng, Function.update_eq_self]

/-- An operation that only looks at the entry of the ring, too. -/
theorem Local.of_update (update : HalSrng → HalSrng)
    (acts : ∀ other, act other = other.setSrng id (update (other.srngList id))) :
    Local id act hal := by
  refine .of_entry (update (hal.srngList id)) fun other same => ?_
  rw [acts, same.srng]

theorem RingSame.load_shadow {other : Hal} (same : RingSame id hal other)
    (direct : RingDirect hal id) :
    other.load (hal.srngList id).shadowAddr = hal.load (hal.srngList id).shadowAddr := by
  rw [direct.shadow]
  exact same.word _ rfl

theorem local_accessBegin (direct : RingDirect hal id) :
    Local id (fun hal => halSrngAccessBegin hal id) hal := by
  cases dir : (hal.srngList id).ringDir with
  | src =>
      refine .of_entry
        { hal.srngList id with
          srcRing := { (hal.srngList id).srcRing with
            cachedTp := hal.load (hal.srngList id).srcRing.tpAddr } } ?_
      intro other same
      have word := same.load_shadow direct
      simp only [HalSrng.shadowAddr, dir] at word
      simp only [halSrngAccessBegin, same.srng, dir, word]
  | dst =>
      refine .of_entry
        { hal.srngList id with
          dstRing := { (hal.srngList id).dstRing with
            cachedHp := hal.load (hal.srngList id).dstRing.hpAddr } } ?_
      intro other same
      have word := same.load_shadow direct
      simp only [HalSrng.shadowAddr, dir] at word
      simp only [halSrngAccessBegin, same.srng, dir, word]

theorem local_srcNumFree (direct : RingDirect hal id)
    (source : (hal.srngList id).ringDir = .src) (syncHwPtr : Bool) :
    Local id (fun hal => (halSrngSrcNumFree hal id syncHwPtr).1) hal := by
  cases syncHwPtr with
  | false => exact .of_update (fun srng => srng) fun _ => Hal.setSrng_self.symm
  | true =>
      refine .of_entry
        { hal.srngList id with
          srcRing := { (hal.srngList id).srcRing with
            cachedTp := hal.load (hal.srngList id).srcRing.tpAddr } } ?_
      intro other same
      have word := same.load_shadow direct
      simp only [HalSrng.shadowAddr, source] at word
      simp only [halSrngSrcNumFree, same.srng, word, if_true]

/-- The entry after `src_get_next_entry`. -/
def nextEntrySrng (srng : HalSrng) : HalSrng :=
  let nextHp := (srng.srcRing.hp + srng.entrySize) % srng.ringSize
  if nextHp = srng.srcRing.cachedTp then srng
  else { srng with srcRing := { srng.srcRing with hp := nextHp, reapHp := nextHp } }

theorem srcGetNextEntry_hal (hal : Hal) (id : Nat) :
    (halSrngSrcGetNextEntry hal id).1 =
      hal.setSrng id (nextEntrySrng (hal.srngList id)) := by
  simp only [halSrngSrcGetNextEntry, nextEntrySrng]
  split
  · exact Hal.setSrng_self.symm
  · rfl

theorem local_srcGetNextEntry :
    Local id (fun hal => (halSrngSrcGetNextEntry hal id).1) hal :=
  .of_update nextEntrySrng fun other => srcGetNextEntry_hal other id

theorem local_srcGetNextReaped :
    Local id (fun hal => (halSrngSrcGetNextReaped hal id).1) hal := by
  refine .of_update (fun srng =>
    if srng.srcRing.hp = srng.srcRing.reapHp then srng
    else { srng with srcRing :=
      { srng.srcRing with hp := (srng.srcRing.hp + srng.entrySize) % srng.ringSize } })
    fun other => ?_
  simp only [halSrngSrcGetNextReaped]
  split
  · exact Hal.setSrng_self.symm
  · rfl

theorem local_dstGetNextEntry :
    Local id (fun hal => (halSrngDstGetNextEntry hal id).1) hal := by
  refine .of_update (fun srng =>
    if srng.dstRing.tp = srng.dstRing.cachedHp then srng
    else { srng with dstRing := { srng.dstRing with
      tp := if srng.dstRing.tp + srng.entrySize = srng.ringSize then 0
        else srng.dstRing.tp + srng.entrySize } })
    fun other => ?_
  simp only [halSrngDstGetNextEntry]
  split
  · exact Hal.setSrng_self.symm
  · rfl

/-- The count with the cached tail. -/
def cachedFree (srng : HalSrng) : Int :=
  srcFreeEntries srng srng.srcRing.hp srng.srcRing.cachedTp

/-- Posting moves the head of the ring, if the count allows it. -/
theorem storeEntry_hal (hal : Hal) (ring : SrngTestRing) (full : Int) (skb : Nat)
    (writeIndex : UInt32) (words : List UInt32) :
    (storeEntry hal ring full skb writeIndex words).1 =
      if cachedFree (hal.srngList ring.halRingId.toNat) < 1 then hal
      else (halSrngSrcGetNextEntry hal ring.halRingId.toNat).1 := by
  unfold storeEntry
  rw [halSrngSrcNumFree_cached]
  simp only
  split
  next few => exact (if_pos few).symm
  next enough =>
      refine Eq.trans ?_ (if_neg enough).symm
      split
      next result => rw [result]
      next result => rw [result]

theorem local_storeEntry (ring : SrngTestRing) (full : Int) (skb : Nat)
    (writeIndex : UInt32) (words : List UInt32) :
    Local ring.halRingId.toNat
      (fun hal => (storeEntry hal ring full skb writeIndex words).1) hal := by
  refine .of_update (fun srng => if cachedFree srng < 1 then srng else nextEntrySrng srng)
    fun other => ?_
  rw [storeEntry_hal]
  split
  · exact Hal.setSrng_self.symm
  · exact srcGetNextEntry_hal ..

theorem local_accessEnd (direct : RingDirect hal id) :
    Local id (fun hal => halSrngAccessEnd hal id) hal := by
  have block : RingWord id (.mmio (hwregBase id halSrngRegGrpR2)) :=
    hwregBaseR2_inBlock direct.small
  cases dir : (hal.srngList id).ringDir with
  | src =>
      refine ⟨{ hal.srngList id with
          srcRing := { (hal.srngList id).srcRing with
            lastTp := hal.load (hal.srngList id).srcRing.tpAddr } },
        [(.mmio (hwregBase id halSrngRegGrpR2), (hal.srngList id).srcRing.hp)],
        by simpa using block, ?_⟩
      intro other same
      have word := same.load_shadow direct
      have publish := direct.publish
      simp only [HalSrng.shadowAddr, HalSrng.publishAddr, dir] at word publish
      simp only [halSrngAccessEnd, same.srng, dir, word, publish]
      split
      · rfl
      · simp [hifWrite32, WordPtr.byteOffset, Hal.put, storeAll]
  | dst =>
      refine ⟨{ hal.srngList id with
          dstRing := { (hal.srngList id).dstRing with
            lastHp := hal.load (hal.srngList id).dstRing.hpAddr } },
        [(.mmio (hwregBase id halSrngRegGrpR2), (hal.srngList id).dstRing.tp)],
        by simpa using block, ?_⟩
      intro other same
      have word := same.load_shadow direct
      have publish := direct.publish
      simp only [HalSrng.shadowAddr, HalSrng.publishAddr, dir] at word publish
      simp only [halSrngAccessEnd, same.srng, dir, word, publish]
      split
      · rfl
      · simp [hifWrite32, WordPtr.byteOffset, Hal.put, storeAll]

theorem local_deviceStore (value : UInt32) :
    Local id (fun hal => hal.store (.rdp id) value) hal := by
  refine ⟨hal.srngList id, [(.rdp id, value)], by simp [RingWord], ?_⟩
  intro other same
  rw [Hal.put, ← same.srng, Hal.setSrng_self]
  rfl

/-- The stores of `hal_srng_src_hw_init` and `hal_srng_dst_hw_init`. -/
def hwInitStores (rdpPaddr : UInt64) (srng : HalSrng) : List (WordPtr × UInt32) :=
  let misc : WordPtr := .mmio (srng.hwregBaseR0 + halSrngRegRGroupOffset 7)
  match srng.ringDir with
  | .src =>
      (srcHwInitWrites rdpPaddr srng).map (fun write => (.mmio write.1, write.2)) ++
        [(srng.srcRing.tpAddr, 0),
          (misc, (ringMiscSwap srng.flags ||| bit 1 ||| ringMiscSrngEnable).toUInt32)]
  | .dst =>
      (dstHwInitWrites rdpPaddr srng).map (fun write => (.mmio write.1, write.2)) ++
        [(srng.dstRing.hpAddr, 0),
          (misc, (ringMiscSwap srng.flags ||| ringMiscSrngEnable).toUInt32)]

theorem hifWriteList_eq_storeAll (writes : List (UInt32 × UInt32)) :
    hifWriteList hal writes =
      storeAll hal (writes.map fun write => (.mmio write.1, write.2)) := by
  induction writes generalizing hal with
  | nil => rfl
  | cons write writes ih => exact ih

theorem halSrngHwInit_eq_storeAll (hal : Hal) (srng : HalSrng) :
    halSrngHwInit hal srng = storeAll hal (hwInitStores hal.rdpPaddr srng) := by
  unfold halSrngHwInit hwInitStores
  cases srng.ringDir with
  | src =>
      rw [halSrngSrcHwInit, storeAll_append, ← hifWriteList_eq_storeAll]
      rfl
  | dst =>
      rw [halSrngDstHwInit, storeAll_append, ← hifWriteList_eq_storeAll]
      rfl

theorem hwInitStores_own {srng : HalSrng} (small : id < 256)
    (r0 : srng.hwregBaseR0 = hwregBase id halSrngRegGrpR0)
    (r2 : srng.hwregBaseR2 = hwregBase id halSrngRegGrpR2)
    (shadow : srng.shadowAddr = .rdp id) (rdpPaddr : UInt64) :
    ∀ write ∈ hwInitStores rdpPaddr srng, RingWord id write.1 := by
  have misc : InBlock id (srng.hwregBaseR0 + halSrngRegRGroupOffset 7) := by
    rw [r0]
    exact inBlock_hwregBase small (by decide) (by decide)
  intro write member
  unfold HalSrng.shadowAddr at shadow
  cases dir : srng.ringDir with
  | src =>
      simp only [dir] at shadow
      simp only [hwInitStores, dir, List.mem_append, List.mem_map, List.mem_cons,
        List.not_mem_nil, or_false, shadow] at member
      obtain ⟨register, written, rfl⟩ | rfl | rfl := member
      · exact (srcHwInitWrites_register r0 r2 _ register written).inBlock small
      · rfl
      · exact misc
  | dst =>
      simp only [dir] at shadow
      simp only [hwInitStores, dir, List.mem_append, List.mem_map, List.mem_cons,
        List.not_mem_nil, or_false, shadow] at member
      obtain ⟨register, written, rfl⟩ | rfl | rfl := member
      · exact (dstHwInitWrites_register r0 r2 _ register written).inBlock small
      · rfl
      · exact misc

theorem local_setup {type : HalRingType} {ringNum macId : Int}
    (params : HalSrngParams)
    (found : halSrngGetRingId hal type ringNum macId = (id : Int))
    (lmac : (hal.srngConfig type).lmacRing = false) :
    Local id (fun hal =>
      (halSrngSetup hal (fun _ => 0) type ringNum macId params).1) hal := by
  have ring := srngSetupRing_wired hal (hal.srngList id) type id params
  refine ⟨srngSetupRing hal (hal.srngList id) type id params,
    hwInitStores hal.rdpPaddr (srngSetupRing hal (hal.srngList id) type id params),
    hwInitStores_own (halSrngGetRingId_lt found) rfl rfl ring.shadow _, ?_⟩
  intro other same
  have foundThen : halSrngGetRingId other type ringNum macId = (id : Int) := by
    rw [halSrngGetRingId, same.config]
    exact found
  have entry : srngSetupRing other (other.srngList id) type id params =
      srngSetupRing hal (hal.srngList id) type id params := by
    rw [srngSetupRing, srngSetupRing, same.config, same.order, same.srng]
  have config : ∀ srng, (other.setSrng id srng).srngConfig = hal.srngConfig :=
    fun _ => same.config
  have paddr : ∀ srng, (other.setSrng id srng).rdpPaddr = hal.rdpPaddr :=
    fun _ => same.paddr
  simp only [halSrngSetup, foundThen, Int.toNat_natCast, config, lmac, entry]
  rw [if_neg (Int.not_lt.mpr (Int.natCast_nonneg _)), if_neg Bool.false_ne_true,
    halSrngHwInit_eq_storeAll, paddr]
  rfl

end Local

/-- What an operation makes of the entry of its ring, a setup apart: the cursor moves by
one entry or not at all, and the cached pointer is the old one or the shadow word. -/
structure Moves (hal : Hal) (srng srng' : HalSrng) : Prop where
  rest : srng' = { srng with srcRing := srng'.srcRing, dstRing := srng'.dstRing }
  srcAddr : srng'.srcRing.tpAddr = srng.srcRing.tpAddr ∧
    srng'.srcRing.hpAddr = srng.srcRing.hpAddr
  dstAddr : srng'.dstRing.hpAddr = srng.dstRing.hpAddr ∧
    srng'.dstRing.tpAddr = srng.dstRing.tpAddr
  hp : srng'.srcRing.hp = srng.srcRing.hp ∨
    srng'.srcRing.hp = (srng.srcRing.hp + srng.entrySize) % srng.ringSize
  cachedTp : srng'.srcRing.cachedTp = srng.srcRing.cachedTp ∨
    srng'.srcRing.cachedTp = hal.load srng.srcRing.tpAddr
  tp : srng'.dstRing.tp = srng.dstRing.tp ∨
    srng'.dstRing.tp = if srng.dstRing.tp + srng.entrySize = srng.ringSize then 0
      else srng.dstRing.tp + srng.entrySize

section Moves

variable {hal : Hal} {srng srng' : HalSrng}

theorem Moves.refl (hal : Hal) (srng : HalSrng) : Moves hal srng srng :=
  ⟨rfl, ⟨rfl, rfl⟩, ⟨rfl, rfl⟩, .inl rfl, .inl rfl, .inl rfl⟩

theorem Moves.same (moves : Moves hal srng srng') : SameRing srng srng' := by
  have rest := moves.rest
  exact
    { ringDir := by rw [rest]
      ringBasePaddr := by rw [rest]
      ringBaseVaddr := by rw [rest]
      entrySize := by rw [rest]
      ringSize := by rw [rest]
      flags := by rw [rest]
      shadowAddr := by
        rw [HalSrng.shadowAddr, HalSrng.shadowAddr, moves.srcAddr.1, moves.dstAddr.1, rest]
      publishAddr := by
        rw [HalSrng.publishAddr, HalSrng.publishAddr, moves.srcAddr.2, moves.dstAddr.2,
          rest] }

theorem Moves.initialized (moves : Moves hal srng srng') :
    srng'.initialized = srng.initialized := by
  rw [moves.rest]

end Moves

namespace RingOp

variable {hal : Hal} {op : RingOp} {id : Nat}

theorem moves_accessBegin (hal : Hal) (id : Nat) :
    Moves hal (hal.srngList id) ((halSrngAccessBegin hal id).srngList id) := by
  unfold halSrngAccessBegin
  simp only
  split
  · simp only [Hal.srngList_setSrng_self]
    exact ⟨rfl, ⟨rfl, rfl⟩, ⟨rfl, rfl⟩, .inl rfl, .inr rfl, .inl rfl⟩
  · simp only [Hal.srngList_setSrng_self]
    exact ⟨rfl, ⟨rfl, rfl⟩, ⟨rfl, rfl⟩, .inl rfl, .inl rfl, .inl rfl⟩

theorem moves_accessEnd (hal : Hal) (id : Nat) :
    Moves hal (hal.srngList id) ((halSrngAccessEnd hal id).srngList id) := by
  have stored : ∀ (hal : Hal) (pointer : WordPtr) (address value : UInt32) (test : Prop)
      [Decidable test], (if test then hal.store pointer value
        else hifWrite32 hal address value).srngList = hal.srngList := by
    intro hal pointer address value test _
    split
    · exact Hal.srngList_store ..
    · rfl
  unfold halSrngAccessEnd
  simp only
  split
  · rw [stored, Hal.srngList_setSrng_self]
    exact ⟨rfl, ⟨rfl, rfl⟩, ⟨rfl, rfl⟩, .inl rfl, .inl rfl, .inl rfl⟩
  · rw [stored, Hal.srngList_setSrng_self]
    exact ⟨rfl, ⟨rfl, rfl⟩, ⟨rfl, rfl⟩, .inl rfl, .inl rfl, .inl rfl⟩

theorem moves_srcNumFree (hal : Hal) (id : Nat) (syncHwPtr : Bool) :
    Moves hal (hal.srngList id) ((halSrngSrcNumFree hal id syncHwPtr).1.srngList id) := by
  cases syncHwPtr with
  | false => exact .refl ..
  | true =>
      simp only [halSrngSrcNumFree, if_true, Hal.srngList_setSrng_self]
      exact ⟨rfl, ⟨rfl, rfl⟩, ⟨rfl, rfl⟩, .inl rfl, .inr rfl, .inl rfl⟩

theorem moves_srcGetNextEntry (hal : Hal) (id : Nat) :
    Moves hal (hal.srngList id) ((halSrngSrcGetNextEntry hal id).1.srngList id) := by
  rw [srcGetNextEntry_hal, Hal.srngList_setSrng_self, nextEntrySrng]
  simp only
  split
  · exact .refl ..
  · exact ⟨rfl, ⟨rfl, rfl⟩, ⟨rfl, rfl⟩, .inr rfl, .inl rfl, .inl rfl⟩

theorem moves_srcGetNextReaped (hal : Hal) (id : Nat) :
    Moves hal (hal.srngList id) ((halSrngSrcGetNextReaped hal id).1.srngList id) := by
  simp only [halSrngSrcGetNextReaped]
  split
  · exact .refl ..
  · simp only [Hal.srngList_setSrng_self]
    exact ⟨rfl, ⟨rfl, rfl⟩, ⟨rfl, rfl⟩, .inr rfl, .inl rfl, .inl rfl⟩

theorem moves_dstGetNextEntry (hal : Hal) (id : Nat) :
    Moves hal (hal.srngList id) ((halSrngDstGetNextEntry hal id).1.srngList id) := by
  simp only [halSrngDstGetNextEntry]
  split
  · exact .refl ..
  · simp only [Hal.srngList_setSrng_self]
    exact ⟨rfl, ⟨rfl, rfl⟩, ⟨rfl, rfl⟩, .inl rfl, .inl rfl, .inr rfl⟩

theorem moves_storeEntry (hal : Hal) (ring : SrngTestRing) (full : Int) (skb : Nat)
    (writeIndex : UInt32) (words : List UInt32) :
    Moves hal (hal.srngList ring.halRingId.toNat)
      ((storeEntry hal ring full skb writeIndex words).1.srngList ring.halRingId.toNat) := by
  rw [storeEntry_hal]
  split
  · exact .refl ..
  · exact moves_srcGetNextEntry ..

theorem act_moves (own : op.ring hal = some id) (other : op.isSetup = false) :
    Moves hal (hal.srngList id) ((op.act hal).srngList id) := by
  cases op with
  | setup type ringNum macId params => exact Bool.noConfusion other
  | accessBegin id =>
      cases own
      exact moves_accessBegin ..
  | srcNumFree id syncHwPtr =>
      cases own
      exact moves_srcNumFree ..
  | srcGetNextEntry id =>
      cases own
      exact moves_srcGetNextEntry ..
  | srcGetNextReaped id =>
      cases own
      exact moves_srcGetNextReaped ..
  | dstGetNextEntry id =>
      cases own
      exact moves_dstGetNextEntry ..
  | testSend ring skb data transferId writeIndex =>
      cases own
      exact moves_storeEntry ..
  | enqueuePipe pipe ring skb paddr writeIndex =>
      cases own
      rw [act, testDstEnqueuePipe_hal]
      exact moves_storeEntry ..
  | recvNext pipe dst status swIndex =>
      cases own
      rw [act, testDstRecvNext_hal]
      exact moves_dstGetNextEntry ..
  | accessEnd id =>
      cases own
      exact moves_accessEnd ..
  | deviceStore id value =>
      cases own
      rw [act, Hal.srngList_store]
      exact .refl ..

theorem enabled_spec (enabled : op.enabled hal = true) (own : op.ring hal = some id)
    (other : op.isSetup = false) :
    (hal.srngList id).initialized ≠ 0 ∧
      ∀ dir, op.dir = some dir → (hal.srngList id).ringDir = dir := by
  simp only [RingOp.enabled, own, other, Bool.false_or, Bool.and_eq_true,
    decide_eq_true_eq] at enabled
  refine ⟨enabled.1, fun dir named => ?_⟩
  have checked := enabled.2
  rw [named, Option.all_some, decide_eq_true_eq] at checked
  exact checked

theorem act_none (own : op.ring hal = none) : op.act hal = hal := by
  cases op with
  | setup type ringNum macId params =>
      simp only [ring] at own
      split at own
      next failed => simp only [act, halSrngSetup, if_pos failed]
      next => contradiction
  | _ => contradiction

end RingOp

/-- No ring keeps its pointers in shared memory, and the rings that are set up publish in
their own blocks. -/
structure HalWired (hal : Hal) : Prop where
  config : ∀ type, (hal.srngConfig type).lmacRing = false
  direct : ∀ id, (hal.srngList id).initialized ≠ 0 → RingDirect hal id

namespace RingOp

variable {hal next : Hal} {op : RingOp} {id : Nat}

theorem setup_ring {type : HalRingType} {ringNum macId : Int} {params : HalSrngParams}
    (own : (RingOp.setup type ringNum macId params).ring hal = some id) :
    halSrngGetRingId hal type ringNum macId = (id : Int) := by
  simp only [ring] at own
  split at own
  next => contradiction
  next found =>
      cases own
      exact (Int.toNat_of_nonneg (Int.not_lt.mp found)).symm

theorem act_local (wired : HalWired hal) (enabled : op.enabled hal = true)
    (own : op.ring hal = some id) : Local id (fun hal => op.act hal) hal := by
  have live : op.isSetup = false → RingDirect hal id := fun other =>
    wired.direct id (enabled_spec enabled own other).1
  cases op with
  | setup type ringNum macId params =>
      exact local_setup params (setup_ring own) (wired.config type)
  | accessBegin id =>
      cases own
      exact local_accessBegin (live rfl)
  | srcNumFree id syncHwPtr =>
      have source := (enabled_spec enabled own rfl).2 .src rfl
      cases own
      exact local_srcNumFree (live rfl) source syncHwPtr
  | srcGetNextEntry id =>
      cases own
      exact local_srcGetNextEntry
  | srcGetNextReaped id =>
      cases own
      exact local_srcGetNextReaped
  | dstGetNextEntry id =>
      cases own
      exact local_dstGetNextEntry
  | testSend ring skb data transferId writeIndex =>
      cases own
      exact local_storeEntry ..
  | enqueuePipe pipe ring skb paddr writeIndex =>
      cases own
      simp only [act, testDstEnqueuePipe_hal]
      exact local_storeEntry ..
  | recvNext pipe dst status swIndex =>
      cases own
      simp only [act, testDstRecvNext_hal]
      exact local_dstGetNextEntry
  | accessEnd id =>
      cases own
      exact local_accessEnd (live rfl)
  | deviceStore id value =>
      cases own
      exact local_deviceStore value

theorem rdp_accessEnd (direct : RingDirect hal id) :
    (halSrngAccessEnd hal id).rdp = hal.rdp := by
  have publish := direct.publish
  unfold HalSrng.publishAddr at publish
  cases dir : (hal.srngList id).ringDir with
  | src =>
      simp only [dir] at publish
      simp only [halSrngAccessEnd, dir, publish]
      split <;> rfl
  | dst =>
      simp only [dir] at publish
      simp only [halSrngAccessEnd, dir, publish]
      split <;> rfl

/-- Only the device stores to the shadow word of a ring that is set up. -/
theorem act_rdp (wired : HalWired hal) (enabled : op.enabled hal = true)
    (own : op.ring hal = some id) (other : op.isSetup = false) :
    (op.act hal).rdp = hal.rdp ∨ ∃ value, op = .deviceStore id value := by
  have direct := wired.direct id (enabled_spec enabled own other).1
  have stored : ∀ ring full skb writeIndex words,
      (storeEntry hal ring full skb writeIndex words).1.rdp = hal.rdp := by
    intro ring full skb writeIndex words
    rw [storeEntry_hal, srcGetNextEntry_hal]
    split <;> rfl
  cases op with
  | setup type ringNum macId params => exact Bool.noConfusion other
  | accessBegin id =>
      left
      simp only [act, halSrngAccessBegin]
      split <;> rfl
  | srcNumFree id syncHwPtr =>
      left
      simp only [act, halSrngSrcNumFree]
      split <;> rfl
  | srcGetNextEntry id =>
      left
      rw [act, srcGetNextEntry_hal]
      rfl
  | srcGetNextReaped id =>
      left
      simp only [act, halSrngSrcGetNextReaped]
      split <;> rfl
  | dstGetNextEntry id =>
      left
      simp only [act, halSrngDstGetNextEntry]
      split <;> rfl
  | testSend ring skb data transferId writeIndex => exact .inl (stored ..)
  | enqueuePipe pipe ring skb paddr writeIndex =>
      left
      rw [act, testDstEnqueuePipe_hal, stored]
  | recvNext pipe dst status swIndex =>
      left
      rw [act, testDstRecvNext_hal]
      simp only [halSrngDstGetNextEntry]
      split <;> rfl
  | accessEnd id =>
      cases own
      exact .inl (rdp_accessEnd direct)
  | deviceStore id value =>
      cases own
      exact .inr ⟨value, rfl⟩

/-- The operation changes nothing but its own ring. -/
theorem act_confined (wired : HalWired hal) (enabled : op.enabled hal = true)
    (own : op.ring hal = some id) : Confined id hal (op.act hal) :=
  (act_local wired enabled own).confined

theorem step_eq_some : op.step hal = some next ↔ op.enabled hal = true ∧ op.act hal = next := by
  simp only [step, Option.ite_none_right_eq_some, Option.some.injEq]

theorem wired_step (wired : HalWired hal) (stepped : op.step hal = some next) :
    HalWired next := by
  obtain ⟨enabled, rfl⟩ := step_eq_some.mp stepped
  cases own : op.ring hal with
  | none =>
      rw [act_none own]
      exact wired
  | some id =>
      have confined := act_confined wired enabled own
      refine ⟨fun type => by rw [confined.config, wired.config type], ?_⟩
      intro other initialized
      by_cases same : other = id
      · subst same
        cases kind : op.isSetup with
        | false =>
            have moves := act_moves own kind
            rw [moves.initialized] at initialized
            exact (wired.direct other initialized).of_same moves.same
        | true =>
            cases op with
            | setup type ringNum macId params =>
                have found := setup_ring own
                have setup : halSrngSetup hal (fun _ => 0) type ringNum macId params =
                    ((RingOp.setup type ringNum macId params).act hal,
                      (halSrngSetup hal (fun _ => 0) type ringNum macId params).2.1,
                      (other : Int)) :=
                  Prod.ext rfl (Prod.ext rfl ((halSrngSetup_ret ..).trans found))
                exact halSrngSetup_direct setup (wired.config type)
            | _ => cases kind
      · rw [confined.srng other same] at initialized
        apply (wired.direct other initialized).of_same
        rw [confined.srng other same]
        exact .refl _

end RingOp

end WirelessSimu
