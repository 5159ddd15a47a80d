import WirelessSimu.Data.CircularTable
import WirelessSimu.Hal.DestinationRing
import WirelessSimu.Hal.SourceRing
import WirelessSimu.Rx.System

namespace WirelessSimu

open Data Kernel

/-! One receive pipe. The buffers posted on it are counted from the start, and every
cursor of the driver and of the device is the count of the buffers that went past
it: posted, published, taken by the device, tail stored, reported, head stored, head
cached, received. The counts are ordered in this way, and the first is never more
than `N - 2` ahead of the last. -/

structure RxPipe where
  dst : SrngTestRing
  status : SrngTestRing
  needed : UInt32
  device : RxDevice
  enqueued : List (Nat × UInt64)
  received : List (Option Nat × UInt32)

def RxPipe.dstId (pipe : RxPipe) : Nat := pipe.dst.halRingId.toNat

def RxPipe.statusId (pipe : RxPipe) : Nat := pipe.status.halRingId.toNat

/-- The descriptors of the posted buffers. -/
def RxPipe.descs (pipe : RxPipe) : List (List UInt32) :=
  pipe.enqueued.map fun entry => testDstSetDesc entry.2

/-- The status entries that the device wrote. -/
def RxPipe.statuses (pipe : RxPipe) : List (List UInt32) :=
  pipe.device.reported.map fun entry => [entry.1, entry.2]

structure RxCounts where
  progress : Progress
  cachedHead : Nat
  head : Nat

structure PipeRings (entries : Nat) (hal : Hal) (pipe : RxPipe) : Prop where
  two_le : 2 ≤ entries
  table : TableShape pipe.dst entries
  dstReady : RingReady hal pipe.dstId .src pipe.dst.baseAddrOwnerSpace entries 3
  statusReady : RingReady hal pipe.statusId .dst pipe.status.baseAddrOwnerSpace entries 2
  dstDirect : RingDirect hal pipe.dstId
  statusDirect : RingDirect hal pipe.statusId
  dstPaddr : (hal.srngList pipe.dstId).ringBasePaddr = pipe.dst.baseAddrTestSpace
  statusPaddr : (hal.srngList pipe.statusId).ringBasePaddr =
    pipe.status.baseAddrTestSpace
  apart : pipe.dstId ≠ pipe.statusId

structure DeviceSide (entries : Nat) (pipe : RxPipe) (counts : RxCounts) : Prop where
  atTail : StandsAt entries 3 pipe.device.tail pipe.device.taken.length
  atHead : StandsAt entries 2 pipe.device.head pipe.device.reported.length
  stored_eq : counts.progress.stored = pipe.device.storedTail
  head_le : counts.head ≤ pipe.device.reported.length
  reported_le : pipe.device.reported.length ≤ pipe.device.storedTail
  storedTail_le : pipe.device.storedTail ≤ pipe.device.taken.length
  taken_le : pipe.device.taken.length ≤ counts.progress.published
  published_le : counts.progress.published ≤ pipe.enqueued.length

structure TableSide (entries : Nat) (pipe : RxPipe) : Prop where
  writeIndex_eq : pipe.dst.writeIndex.toNat = pipe.enqueued.length % entries
  swIndex_eq : pipe.dst.swIndex.toNat = pipe.received.length % entries
  needed_eq : pipe.needed.toNat + (pipe.enqueued.length - pipe.received.length) =
    entries - 2
  slots : CircularTable entries pipe.dst.skb (pipe.enqueued.map Prod.fst)
    pipe.received.length

/-- The `index`-th success of `recv_next` is the `index`-th posted buffer with the
length that the device reported for it. -/
def Agrees (pipe : RxPipe) (index : Nat) (entry : Option Nat × UInt32) : Prop :=
  ∃ posted report, pipe.enqueued[index]? = some posted ∧
    pipe.device.reported[index]? = some report ∧ entry = (some posted.1, report.1)

structure PipeLogs (entries : Nat) (pipe : RxPipe) : Prop where
  taken_prefix : pipe.device.taken <+: pipe.descs
  descs : Window entries (slotWords pipe.dst.mem pipe.dst.baseAddrOwnerSpace 3)
    pipe.descs pipe.device.taken.length
  statuses : Window entries
    (slotWords pipe.status.mem pipe.status.baseAddrOwnerSpace 2) pipe.statuses
    pipe.received.length
  lengths : ∀ entry ∈ pipe.device.reported, entry.1 ≠ 0
  received_eq : ∀ index entry, pipe.received[index]? = some entry →
    Agrees pipe index entry

structure PipeInv (entries : Nat) (hal : Hal) (pipe : RxPipe) (counts : RxCounts) :
    Prop where
  rings : PipeRings entries hal pipe
  source : SrcPositions entries 3 counts.progress (hal.srcView pipe.dstId)
    pipe.enqueued.length
  sink : DstPositions entries 2 (hal.dstView pipe.statusId) pipe.received.length
    counts.cachedHead counts.head
  device : DeviceSide entries pipe counts
  table : TableSide entries pipe
  logs : PipeLogs entries pipe

section Facts

variable {entries : Nat} {hal hal' : Hal} {pipe : RxPipe} {counts : RxCounts}

theorem PipeRings.of_same (rings : PipeRings entries hal pipe)
    (dstSame : SameRing (hal.srngList pipe.dstId) (hal'.srngList pipe.dstId))
    (statusSame : SameRing (hal.srngList pipe.statusId)
      (hal'.srngList pipe.statusId)) : PipeRings entries hal' pipe :=
  { rings with
    dstReady := rings.dstReady.of_same dstSame
    statusReady := rings.statusReady.of_same statusSame
    dstDirect := rings.dstDirect.of_same dstSame
    statusDirect := rings.statusDirect.of_same statusSame
    dstPaddr := by rw [dstSame.ringBasePaddr, rings.dstPaddr]
    statusPaddr := by rw [statusSame.ringBasePaddr, rings.statusPaddr] }

theorem PipeInv.of_agree (inv : PipeInv entries hal pipe counts)
    (dstAgree : Agree hal hal' pipe.dstId)
    (statusAgree : Agree hal hal' pipe.statusId) :
    PipeInv entries hal' pipe counts :=
  { inv with
    rings := inv.rings.of_same dstAgree.same statusAgree.same
    source := by
      rw [dstAgree.srcView]
      exact inv.source
    sink := by
      rw [statusAgree.dstView]
      exact inv.sink }

theorem PipeInv.received_le (inv : PipeInv entries hal pipe counts) :
    pipe.received.length ≤ pipe.device.reported.length :=
  Nat.le_trans (Nat.le_trans inv.sink.taken_le inv.sink.cached_le) inv.device.head_le

theorem PipeInv.stored_le (inv : PipeInv entries hal pipe counts) :
    pipe.device.storedTail ≤ pipe.enqueued.length :=
  Nat.le_trans inv.device.storedTail_le
    (Nat.le_trans inv.device.taken_le inv.device.published_le)

theorem PipeInv.received_le_enqueued (inv : PipeInv entries hal pipe counts) :
    pipe.received.length ≤ pipe.enqueued.length :=
  Nat.le_trans inv.received_le
    (Nat.le_trans inv.device.reported_le inv.stored_le)

theorem PipeInv.posted_bound (inv : PipeInv entries hal pipe counts) :
    pipe.needed.toNat + pipe.enqueued.length + 2 =
      pipe.received.length + entries := by
  have ordered := inv.received_le_enqueued
  have twoLe := inv.rings.two_le
  have needed := inv.table.needed_eq
  omega

end Facts

/-! The segments of `recv_next`. -/

section Receive

variable {entries : Nat} {hal : Hal} {pipe : RxPipe} {counts : RxCounts}

theorem PipeInv.recvBegin (inv : PipeInv entries hal pipe counts) :
    PipeInv entries (halSrngAccessBegin hal pipe.statusId) pipe
      { counts with cachedHead := counts.head } := by
  have dstAgree : Agree hal (halSrngAccessBegin hal pipe.statusId) pipe.dstId :=
    agree_accessBegin inv.rings.apart
  have ready := inv.rings.statusReady
  exact
    { rings := inv.rings.of_same dstAgree.same (same_accessBegin _)
      source := by
        rw [dstAgree.srcView]
        exact inv.source
      sink := by
        rw [dstView_accessBegin ready]
        exact inv.sink.sync
      device := { inv.device with }
      table := inv.table
      logs := inv.logs }

theorem PipeInv.recvEnd (inv : PipeInv entries hal pipe counts) :
    PipeInv entries (halSrngAccessEnd hal pipe.statusId) pipe counts := by
  have ready := inv.rings.statusReady
  have dstAgree : Agree hal (halSrngAccessEnd hal pipe.statusId) pipe.dstId :=
    agree_accessEnd ready inv.rings.statusDirect inv.rings.dstDirect inv.rings.apart
  exact
    { inv with
      rings := inv.rings.of_same dstAgree.same (same_accessEnd _)
      source := by
        rw [dstAgree.srcView]
        exact inv.source
      sink := by
        rw [dstView_accessEnd ready]
        exact { inv.sink with } }

/-- The pipe after a success of `recv_next` with `entry`. -/
def RxPipe.receive (pipe : RxPipe) (swIndex : UInt32)
    (entry : Option Nat × UInt32) : RxPipe :=
  { pipe with
    dst := pipe.dst.take swIndex
    needed := pipe.needed + 1
    received := pipe.received ++ [entry] }

theorem PipeInv.status_length (inv : PipeInv entries hal pipe counts)
    (ahead : pipe.received.length < pipe.device.reported.length) :
    testDstGetLength pipe.status.mem
        (slotAddr pipe.status.baseAddrOwnerSpace 2 (pipe.received.length % entries)) =
      pipe.device.reported[pipe.received.length].1 := by
  have words := inv.logs.statuses pipe.received.length
    [pipe.device.reported[pipe.received.length].1,
      pipe.device.reported[pipe.received.length].2] (Nat.le_refl _) (by
      rw [RxPipe.statuses, List.getElem?_map, List.getElem?_eq_getElem ahead]
      rfl)
  rw [slotWords, loadWords] at words
  exact (List.cons.inj words).1

theorem PipeInv.slot_front (inv : PipeInv entries hal pipe counts)
    (ahead : pipe.received.length < pipe.enqueued.length) :
    pipe.dst.skb pipe.dst.swIndex.toNat =
      some pipe.enqueued[pipe.received.length].1 := by
  have slotLt : pipe.received.length < (pipe.enqueued.map Prod.fst).length := by
    rw [List.length_map]
    exact ahead
  have front := inv.table.slots.front slotLt
  rw [List.getElem_map] at front
  rw [inv.table.swIndex_eq, front]

theorem TableSide.receive (table : TableSide entries pipe)
    (shape : TableShape pipe.dst entries) (fits : entries < 2 ^ 32)
    (ahead : pipe.received.length < pipe.enqueued.length)
    (entry : Option Nat × UInt32) :
    TableSide entries (pipe.receive pipe.dst.swIndex entry) where
  writeIndex_eq := table.writeIndex_eq
  swIndex_eq := by
    simp only [RxPipe.receive, SrngTestRing.take, List.length_append,
      List.length_singleton]
    exact shape.nextIndex_count table.swIndex_eq
  needed_eq := by
    have needed := table.needed_eq
    have sum : (pipe.needed + 1).toNat = pipe.needed.toNat + 1 := by
      rw [UInt32.toNat_add, show (1 : UInt32).toNat = 1 from rfl,
        Nat.mod_eq_of_lt (by omega)]
    simp only [RxPipe.receive, List.length_append, List.length_singleton, sum]
    omega
  slots := by
    have needed := table.needed_eq
    have popped := table.slots.pop (by rw [List.length_map]; omega)
    simp only [RxPipe.receive, SrngTestRing.take, List.length_append,
      List.length_singleton, table.swIndex_eq]
    exact popped

theorem PipeLogs.receive (logs : PipeLogs entries pipe) {entry : Option Nat × UInt32}
    (agrees : Agrees pipe pipe.received.length entry) (swIndex : UInt32) :
    PipeLogs entries (pipe.receive swIndex entry) where
  taken_prefix := logs.taken_prefix
  descs := logs.descs
  statuses := logs.statuses.mono (by simp [RxPipe.receive])
  lengths := logs.lengths
  received_eq := by
    intro index found lookup
    obtain ⟨_, old⟩ | ⟨rfl, rfl⟩ := lookup_concat lookup
    · exact logs.received_eq index found old
    · exact agrees

theorem PipeInv.receive (inv : PipeInv entries hal pipe counts) {tp : UInt32}
    (positions : DstPositions entries 2 { hal.dstView pipe.statusId with tp := tp }
      (pipe.received.length + 1) counts.cachedHead counts.head)
    {entry : Option Nat × UInt32}
    (agrees : Agrees pipe pipe.received.length entry) (lastHp : UInt32) :
    PipeInv entries
      (hal.setDst pipe.statusId tp (hal.dstView pipe.statusId).cachedHp lastHp)
      (pipe.receive pipe.dst.swIndex entry) counts := by
  have dstAgree : Agree hal
      (hal.setDst pipe.statusId tp (hal.dstView pipe.statusId).cachedHp lastHp)
      pipe.dstId := .setDst hal _ _ _ inv.rings.apart
  have rings := inv.rings.of_same dstAgree.same (Hal.same_setDst ..)
  have table := inv.rings.table
  have fits := inv.rings.dstReady.shape.fits
  have ahead : pipe.received.length < pipe.enqueued.length := by
    obtain ⟨posted, _, lookup, _⟩ := agrees
    exact (List.getElem?_eq_some_iff.mp lookup).1
  exact
    { rings :=
        { rings with table := ⟨table.nentries_eq, table.mask_eq, table.power⟩ }
      source := by
        have source := inv.source
        rw [← dstAgree.srcView] at source
        exact source
      sink := by
        rw [← Hal.dstView_setDst hal pipe.statusId tp _ lastHp] at positions
        simp only [RxPipe.receive, List.length_append, List.length_singleton]
        exact positions
      device := { inv.device with }
      table := inv.table.receive table (by omega) ahead entry
      logs := inv.logs.receive agrees pipe.dst.swIndex }

/-- `recv_next` reports nothing, or hands over the next posted buffer with its
length. -/
theorem PipeInv.recvTake (inv : PipeInv entries hal pipe counts)
    (testPipe : SrngTestPipe) :
    (pipe.received.length = counts.cachedHead ∧
      testDstRecvNext hal testPipe pipe.dst pipe.status pipe.dst.swIndex =
        (hal, testPipe, .error (-eio))) ∨
    (pipe.received.length < counts.cachedHead ∧ ∃ hal' skb nbytes,
      testDstRecvNext hal testPipe pipe.dst pipe.status pipe.dst.swIndex =
        (hal', testPipe.take pipe.dst pipe.dst.swIndex, .ok (some skb, nbytes)) ∧
      Agrees pipe pipe.received.length (some skb, nbytes) ∧
      (∀ other, other ≠ pipe.statusId → Agree hal hal' other) ∧
      PipeInv entries hal' (pipe.receive pipe.dst.swIndex (some skb, nbytes))
        counts) := by
  obtain ⟨caught, nothing⟩ | ⟨ahead, tp, found, positions⟩ :=
    halSrngDstGetNextEntry_spec inv.rings.statusReady inv.sink
  · left
    rw [RxPipe.statusId] at nothing
    rw [testDstRecvNext, nothing]
    exact ⟨caught, rfl⟩
  · right
    have reportedLt : pipe.received.length < pipe.device.reported.length :=
      Nat.lt_of_lt_of_le ahead (Nat.le_trans inv.sink.cached_le inv.device.head_le)
    have enqueuedLt : pipe.received.length < pipe.enqueued.length :=
      Nat.lt_of_lt_of_le reportedLt
        (Nat.le_trans inv.device.reported_le inv.stored_le)
    have nonzero := inv.logs.lengths pipe.device.reported[pipe.received.length]
      (List.getElem_mem reportedLt)
    have agrees : Agrees pipe pipe.received.length
        (some pipe.enqueued[pipe.received.length].1,
          pipe.device.reported[pipe.received.length].1) :=
      ⟨_, _, List.getElem?_eq_getElem enqueuedLt,
        List.getElem?_eq_getElem reportedLt, rfl⟩
    refine ⟨ahead, _, _, _, ?_, agrees,
      fun other different => .setDst hal _ _ _ different,
      inv.receive positions agrees (hal.srngList pipe.statusId).dstRing.lastHp⟩
    rw [RxPipe.statusId] at found
    rw [testDstRecvNext, found]
    simp only
    rw [inv.status_length reportedLt, if_neg nonzero, inv.slot_front enqueuedLt]
    rfl

end Receive

/-! The segments of `enqueue_pipe`. -/

section Post

variable {entries : Nat} {hal : Hal} {pipe : RxPipe} {counts : RxCounts}

theorem PipeInv.enqueueBegin (inv : PipeInv entries hal pipe counts) :
    PipeInv entries (halSrngAccessBegin hal pipe.dstId) pipe
      { counts with
        progress := { counts.progress with cached := counts.progress.stored } } := by
  have ready := inv.rings.dstReady
  have statusAgree : Agree hal (halSrngAccessBegin hal pipe.dstId) pipe.statusId :=
    agree_accessBegin inv.rings.apart.symm
  exact
    { rings := inv.rings.of_same (same_accessBegin _) statusAgree.same
      source := by
        rw [srcView_accessBegin ready]
        exact inv.source.sync
      sink := by
        rw [statusAgree.dstView]
        exact inv.sink
      device := { inv.device with }
      table := inv.table
      logs := inv.logs }

theorem PipeInv.enqueueEnd (inv : PipeInv entries hal pipe counts) :
    PipeInv entries (halSrngAccessEnd hal pipe.dstId) pipe
      { counts with
        progress := { counts.progress with published := pipe.enqueued.length } } := by
  have ready := inv.rings.dstReady
  have statusAgree : Agree hal (halSrngAccessEnd hal pipe.dstId) pipe.statusId :=
    agree_accessEnd ready inv.rings.dstDirect inv.rings.statusDirect
      inv.rings.apart.symm
  exact
    { rings := inv.rings.of_same (same_accessEnd _) statusAgree.same
      source := by
        rw [srcView_accessEnd ready]
        exact inv.source.publish
      sink := by
        rw [statusAgree.dstView]
        exact inv.sink
      device :=
        { inv.device with
          taken_le := Nat.le_trans inv.device.taken_le inv.device.published_le
          published_le := Nat.le_refl _ }
      table := inv.table
      logs := inv.logs }

/-- The pipe after `enqueue_pipe` wrote the entry at `desc`. -/
def RxPipe.post (pipe : RxPipe) (desc : Nat) (skb : Nat) (paddr : UInt64) : RxPipe :=
  { pipe with
    dst := pipe.dst.fill desc (testDstSetDesc paddr) skb pipe.dst.writeIndex
    needed := pipe.needed - 1
    enqueued := pipe.enqueued ++ [(skb, paddr)] }

theorem RxPipe.descs_post (pipe : RxPipe) (desc skb : Nat) (paddr : UInt64) :
    (pipe.post desc skb paddr).descs = pipe.descs ++ [testDstSetDesc paddr] := by
  simp [RxPipe.descs, RxPipe.post]

theorem RxPipe.length_descs (pipe : RxPipe) :
    pipe.descs.length = pipe.enqueued.length := by
  simp [RxPipe.descs]

theorem TableSide.post (table : TableSide entries pipe)
    (shape : TableShape pipe.dst entries) (needed : pipe.needed ≠ 0)
    (ordered : pipe.received.length ≤ pipe.enqueued.length) (desc skb : Nat)
    (paddr : UInt64) : TableSide entries (pipe.post desc skb paddr) := by
  have neededEq := table.needed_eq
  have neededPos : 0 < pipe.needed.toNat := by
    rw [Nat.pos_iff_ne_zero, ne_eq, ← UInt32.toNat_zero, UInt32.toNat_inj]
    exact needed
  exact
    { writeIndex_eq := by
        simp only [RxPipe.post, SrngTestRing.fill, List.length_append,
          List.length_singleton]
        exact shape.nextIndex_count table.writeIndex_eq
      swIndex_eq := table.swIndex_eq
      needed_eq := by
        have less : (pipe.needed - 1).toNat = pipe.needed.toNat - 1 := by
          rw [UInt32.toNat_sub_of_le]
          · rfl
          · rw [UInt32.le_iff_toNat_le]
            exact neededPos
        simp only [RxPipe.post, List.length_append, List.length_singleton, less]
        omega
      slots := by
        have pushed := table.slots.push (by rw [List.length_map]; exact ordered)
          (by rw [List.length_map]; omega) skb
        simp only [RxPipe.post, SrngTestRing.fill, List.map_append, List.map_cons,
          List.map_nil, table.writeIndex_eq]
        rw [List.length_map] at pushed
        exact pushed }

theorem PipeLogs.post (logs : PipeLogs entries pipe)
    (room : pipe.enqueued.length < pipe.device.taken.length + entries) (skb : Nat)
    (paddr : UInt64) :
    PipeLogs entries
      (pipe.post (slotAddr pipe.dst.baseAddrOwnerSpace 3
        (pipe.enqueued.length % entries)) skb paddr) where
  taken_prefix := by
    rw [RxPipe.descs_post]
    exact logs.taken_prefix.trans (List.prefix_append _ _)
  descs := by
    have full : (testDstSetDesc paddr).length = 3 := rfl
    have stored := logs.descs.store (by rw [RxPipe.length_descs]; exact room) full
    rw [RxPipe.length_descs] at stored
    rw [RxPipe.descs_post]
    exact stored
  statuses := logs.statuses
  lengths := logs.lengths
  received_eq := by
    intro index entry lookup
    obtain ⟨posted, report, atPosted, atReport, equal⟩ :=
      logs.received_eq index entry lookup
    refine ⟨posted, report, ?_, atReport, equal⟩
    simp only [RxPipe.post]
    rw [List.getElem?_append_left (List.getElem?_eq_some_iff.mp atPosted).1]
    exact atPosted

/-- With a buffer needed and a tail read since the last receive, the ring has room:
`enqueue_pipe` succeeds. -/
theorem PipeInv.enqueueStore (inv : PipeInv entries hal pipe counts)
    (needed : pipe.needed ≠ 0)
    (fresh : pipe.received.length ≤ counts.progress.cached) (testPipe : SrngTestPipe)
    (skb : Nat) (paddr : UInt64) :
    ∃ hal' desc,
      testDstEnqueuePipe hal testPipe pipe.dst skb paddr pipe.dst.writeIndex =
        (hal', testPipe.fill pipe.dst desc (testDstSetDesc paddr) skb
          pipe.dst.writeIndex, 0) ∧
      (∀ other, other ≠ pipe.dstId → Agree hal hal' other) ∧
      PipeInv entries hal' (pipe.post desc skb paddr) counts := by
  have ready := inv.rings.dstReady
  have bound := inv.posted_bound
  have fits := ready.shape.fits
  have ordered := inv.received_le_enqueued
  have neededPos : 0 < pipe.needed.toNat := by
    rw [Nat.pos_iff_ne_zero, ne_eq, ← UInt32.toNat_zero, UInt32.toNat_inj]
    exact needed
  have cachedLe := Nat.le_trans inv.source.cached_le inv.source.stored_le
  have free : (halSrngSrcNumFree hal pipe.dst.halRingId.toNat false).2 =
      (entries - 1 - (pipe.enqueued.length - counts.progress.cached) : Nat) :=
    srcFreeEntries_eq ready.shape (by omega) inv.source.atHp inv.source.atCached
      cachedLe (by omega)
  obtain ⟨full, _⟩ | ⟨_, handsOut⟩ := halSrngSrcGetNextEntry_spec ready inv.source
  · omega
  · obtain ⟨desc, ⟨hp, reapHp, update⟩, positions⟩ := handsOut
    obtain ⟨_, few | noDesc⟩ | ⟨hal', found, result, stored⟩ :=
      testDstEnqueuePipe_cases hal testPipe pipe.dst skb paddr pipe.dst.writeIndex
    · omega
    · rw [RxPipe.dstId, noDesc] at desc
      cases desc
    · rw [RxPipe.dstId, result] at desc update positions
      have statusAgree := Agree.setSrc hal hp reapHp (hal.srcView pipe.dstId).cachedTp
        (hal.srngList pipe.dstId).srcRing.lastTp inv.rings.apart.symm
      cases Option.some.inj desc
      simp only at update
      subst update
      refine ⟨_, _, stored, fun other different => .setSrc hal _ _ _ _ different, ?_⟩
      have rings := inv.rings.of_same (Hal.same_setSrc ..) statusAgree.same
      exact
        { rings :=
            { rings with
              table := ⟨rings.table.nentries_eq, rings.table.mask_eq,
                rings.table.power⟩ }
          source := by
            simp only [RxPipe.post, List.length_append, List.length_singleton]
            exact positions
          sink := by
            have sink := inv.sink
            rw [← statusAgree.dstView] at sink
            exact sink
          device :=
            { inv.device with
              published_le := by
                have := inv.device.published_le
                simp only [RxPipe.post, List.length_append, List.length_singleton]
                omega }
          table := inv.table.post inv.rings.table needed ordered _ skb paddr
          logs := inv.logs.post (by
            have := inv.device.storedTail_le
            have := inv.device.stored_eq
            have := inv.source.cached_le
            omega) skb paddr }

end Post

/-! The steps of the device. -/

section Device

variable {entries : Nat} {hal : Hal} {pipe : RxPipe} {counts : RxCounts}

theorem PipeInv.deviceConsume (inv : PipeInv entries hal pipe counts)
    (behind : pipe.device.tail ≠
      hal.load (hal.srngList pipe.dstId).srcRing.hpAddr) :
    PipeInv entries hal
      { pipe with
        device := pipe.device.consume (hal.srngList pipe.dstId) pipe.dst.mem }
      counts := by
  have ready := inv.rings.dstReady
  have shape := ready.shape
  have published : hal.load (hal.srngList pipe.dstId).srcRing.hpAddr =
      (hal.srcView pipe.dstId).published := by
    simp only [Hal.srcView, HalSrng.publishAddr, ready.dir_eq]
  have publishedLt : pipe.device.taken.length < counts.progress.published := by
    apply Nat.lt_of_le_of_ne inv.device.taken_le
    intro equal
    apply behind
    rw [published, ← UInt32.toNat_inj, inv.source.atPublished, inv.device.atTail,
      equal]
  have read : loadWords pipe.dst.mem
      (descPtr (hal.srngList pipe.dstId) pipe.device.tail)
      (hal.srngList pipe.dstId).entrySize.toNat =
      slotWords pipe.dst.mem pipe.dst.baseAddrOwnerSpace 3
        (pipe.device.taken.length % entries) := by
    rw [shape.descPtr_eq inv.device.atTail, shape.entrySize_eq, ready.base_eq,
      slotWords]
  have length : (pipe.device.taken ++
      [slotWords pipe.dst.mem pipe.dst.baseAddrOwnerSpace 3
        (pipe.device.taken.length % entries)]).length =
      pipe.device.taken.length + 1 := by simp
  rw [RxDevice.consume, read]
  exact
    { inv with
      rings := { inv.rings with }
      device :=
        { inv.device with
          atTail := by
            rw [length]
            exact shape.advance_mod inv.device.atTail
          storedTail_le := by
            rw [length]
            exact Nat.le_succ_of_le inv.device.storedTail_le
          taken_le := by
            rw [length]
            exact publishedLt }
      table := { inv.table with }
      logs :=
        { inv.logs with
          taken_prefix := inv.logs.descs.consume inv.logs.taken_prefix (by
            rw [RxPipe.length_descs]
            exact Nat.lt_of_lt_of_le publishedLt inv.device.published_le)
          descs := inv.logs.descs.mono (by simp) } }

theorem PipeInv.deviceStoreTail (inv : PipeInv entries hal pipe counts) :
    PipeInv entries
      (hal.store (hal.srngList pipe.dstId).shadowAddr pipe.device.tail)
      { pipe with
        device := { pipe.device with storedTail := pipe.device.taken.length } }
      { counts with
        progress := { counts.progress with stored := pipe.device.taken.length } } := by
  have rings := inv.rings
  have statusAgree := agree_store_shadow rings.dstDirect rings.statusDirect
    rings.apart.symm pipe.device.tail
  have later : counts.progress.stored ≤ pipe.device.taken.length := by
    rw [inv.device.stored_eq]
    exact inv.device.storedTail_le
  exact
    { rings := { rings.of_same (Hal.same_store ..) statusAgree.same with }
      source := by
        rw [show ({ pipe with
            device := { pipe.device with storedTail := pipe.device.taken.length } } :
            RxPipe).dstId = pipe.dstId from rfl, srcView_store_shadow rings.dstReady]
        exact inv.source.store inv.device.atTail later
          (Nat.le_trans inv.device.taken_le inv.device.published_le)
      sink := by
        have sink := inv.sink
        rw [← statusAgree.dstView] at sink
        exact sink
      device :=
        { inv.device with
          stored_eq := rfl
          reported_le := Nat.le_trans inv.device.reported_le inv.device.storedTail_le
          storedTail_le := Nat.le_refl _ }
      table := { inv.table with }
      logs := { inv.logs with } }

/-- The pipe after the device reported a buffer. -/
def RxPipe.report (pipe : RxPipe) (srng : HalSrng) (length flag : UInt32) : RxPipe :=
  { pipe with
    status :=
      { pipe.status with
        mem := storeWords pipe.status.mem (descPtr srng pipe.device.head)
          [length, flag] }
    device :=
      { pipe.device with
        head := (pipe.device.head + srng.entrySize) % srng.ringSize
        reported := pipe.device.reported ++ [(length, flag)] } }

theorem PipeInv.deviceReport (inv : PipeInv entries hal pipe counts)
    {length flag : UInt32} (nonzero : length ≠ 0)
    (allowed : pipe.device.reported.length < pipe.device.storedTail) :
    PipeInv entries hal (pipe.report (hal.srngList pipe.statusId) length flag)
      counts := by
  have ready := inv.rings.statusReady
  have shape := ready.shape
  have bound := inv.posted_bound
  have storedLe := inv.stored_le
  have room : pipe.statuses.length < pipe.received.length + entries := by
    rw [RxPipe.statuses, List.length_map]
    omega
  have written := inv.logs.statuses.store room (show [length, flag].length = 2 from rfl)
  exact
    { inv with
      rings := { inv.rings with }
      device :=
        { inv.device with
          atHead := by
            simp only [RxPipe.report, List.length_append, List.length_singleton]
            exact shape.advance_mod inv.device.atHead
          head_le := by
            simp only [RxPipe.report, List.length_append, List.length_singleton]
            exact Nat.le_succ_of_le inv.device.head_le
          reported_le := by
            simp only [RxPipe.report, List.length_append, List.length_singleton]
            exact allowed }
      table := { inv.table with }
      logs :=
        { inv.logs with
          statuses := by
            rw [RxPipe.statuses, List.length_map] at written
            simp only [RxPipe.report, RxPipe.statuses, List.map_append, List.map_cons,
              List.map_nil]
            rw [shape.descPtr_eq inv.device.atHead, ready.base_eq]
            exact written
          lengths := by
            intro entry member
            obtain old | last := List.mem_append.mp member
            · exact inv.logs.lengths entry old
            · rw [List.mem_singleton.mp last]
              exact nonzero
          received_eq := by
            intro index entry lookup
            obtain ⟨posted, report, atPosted, atReport, equal⟩ :=
              inv.logs.received_eq index entry lookup
            refine ⟨posted, report, atPosted, ?_, equal⟩
            simp only [RxPipe.report]
            rw [List.getElem?_append_left (List.getElem?_eq_some_iff.mp atReport).1]
            exact atReport } }

theorem PipeInv.deviceStoreHead (inv : PipeInv entries hal pipe counts) :
    PipeInv entries
      (hal.store (hal.srngList pipe.statusId).shadowAddr pipe.device.head) pipe
      { counts with head := pipe.device.reported.length } := by
  have rings := inv.rings
  have bound := inv.posted_bound
  have storedLe := inv.stored_le
  have reportedLe := inv.device.reported_le
  have upper : pipe.device.reported.length < pipe.received.length + entries := by
    omega
  have dstAgree := agree_store_shadow rings.statusDirect rings.dstDirect
    rings.apart pipe.device.head
  exact
    { rings := rings.of_same dstAgree.same (Hal.same_store ..)
      source := by
        rw [dstAgree.srcView]
        exact inv.source
      sink := by
        rw [dstView_store_shadow rings.statusReady]
        exact inv.sink.store inv.device.atHead inv.device.head_le upper
      device := { inv.device with head_le := Nat.le_refl _ }
      table := inv.table
      logs := inv.logs }

end Device

end WirelessSimu
