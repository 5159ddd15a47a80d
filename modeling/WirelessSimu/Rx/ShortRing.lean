import WirelessSimu.Rx.Footprint
import WirelessSimu.Rx.Ownership

namespace WirelessSimu

open Data Kernel

/-! A table may ask for a ring of one entry, or for so many that their number is cut to
zero. On such a ring no position is ever free: nothing is posted, so that the device
never takes or reports anything, and all positions stay at zero. -/

/-- The destination ring at its start, without room. -/
structure SilentSrc (hal : Hal) (id : Nat) : Prop where
  dir_eq : (hal.srngList id).ringDir = .src
  full : srcFreeEntries (hal.srngList id) 0 0 < 1
  hp_eq : (hal.srngList id).srcRing.hp = 0
  cachedTp_eq : (hal.srngList id).srcRing.cachedTp = 0
  tail_eq : hal.load (hal.srngList id).srcRing.tpAddr = 0
  published_eq : hal.load (hal.srngList id).srcRing.hpAddr = 0

/-- The status ring at its start. -/
structure SilentDst (hal : Hal) (id : Nat) : Prop where
  dir_eq : (hal.srngList id).ringDir = .dst
  tp_eq : (hal.srngList id).dstRing.tp = 0
  cachedHp_eq : (hal.srngList id).dstRing.cachedHp = 0
  head_eq : hal.load (hal.srngList id).dstRing.hpAddr = 0

/-- No word that is zero changes. -/
def ZeroKept (hal hal' : Hal) : Prop :=
  ∀ pointer, hal.load pointer = 0 → hal'.load pointer = 0

section Words

variable {hal hal' : Hal} {id other : Nat}

theorem ZeroKept.store (hal : Hal) (pointer : WordPtr) :
    ZeroKept hal (hal.store pointer 0) := by
  intro word zero
  by_cases same : word = pointer
  · rw [same, Hal.load_store_self]
  · rw [Hal.load_store_of_ne hal 0 same]
    exact zero

theorem ZeroKept.setSrng (hal : Hal) (id : Nat) (srng : HalSrng) :
    ZeroKept hal (hal.setSrng id srng) := by
  intro word zero
  rw [Hal.load_setSrng]
  exact zero

theorem ZeroKept.trans {hal'' : Hal} (first : ZeroKept hal hal')
    (second : ZeroKept hal' hal'') : ZeroKept hal hal'' :=
  fun word zero => second word (first word zero)

theorem SilentSrc.keep (silent : SilentSrc hal id)
    (same : hal'.srngList id = hal.srngList id) (zero : ZeroKept hal hal') :
    SilentSrc hal' id := by
  refine ⟨?_, ?_, ?_, ?_, ?_, ?_⟩ <;> rw [same]
  · exact silent.dir_eq
  · exact silent.full
  · exact silent.hp_eq
  · exact silent.cachedTp_eq
  · exact zero _ silent.tail_eq
  · exact zero _ silent.published_eq

theorem SilentDst.keep (silent : SilentDst hal id)
    (same : hal'.srngList id = hal.srngList id) (zero : ZeroKept hal hal') :
    SilentDst hal' id := by
  refine ⟨?_, ?_, ?_, ?_⟩ <;> rw [same]
  · exact silent.dir_eq
  · exact silent.tp_eq
  · exact silent.cachedHp_eq
  · exact zero _ silent.head_eq

/-- An access to a ring leaves the entries of the others alone. -/
theorem srngList_accessBegin_of_ne (different : other ≠ id) :
    (halSrngAccessBegin hal id).srngList other = hal.srngList other := by
  unfold halSrngAccessBegin
  simp only
  split
  · exact Hal.srngList_setSrng_of_ne _ _ different
  · exact Hal.srngList_setSrng_of_ne _ _ different

theorem srngList_accessEnd_of_ne (different : other ≠ id) :
    (halSrngAccessEnd hal id).srngList other = hal.srngList other := by
  unfold halSrngAccessEnd
  simp only
  split
  · split
    · rw [Hal.srngList_store, Hal.srngList_setSrng_of_ne _ _ different]
    · rw [srngList_hifWrite32, Hal.srngList_setSrng_of_ne _ _ different]
  · split
    · rw [Hal.srngList_store, Hal.srngList_setSrng_of_ne _ _ different]
    · rw [srngList_hifWrite32, Hal.srngList_setSrng_of_ne _ _ different]

theorem ZeroKept.accessBegin : ZeroKept hal (halSrngAccessBegin hal id) := by
  intro word zero
  rw [load_accessBegin]
  exact zero

theorem SilentSrc.accessEnd_zero (silent : SilentSrc hal id) :
    ZeroKept hal (halSrngAccessEnd hal id) := by
  unfold halSrngAccessEnd
  simp only [silent.dir_eq, silent.hp_eq]
  split
  · exact ZeroKept.trans (.setSrng _ _ _) (.store _ _)
  · exact ZeroKept.trans (.setSrng _ _ _) (.store _ _)

theorem SilentDst.accessEnd_zero (silent : SilentDst hal id) :
    ZeroKept hal (halSrngAccessEnd hal id) := by
  unfold halSrngAccessEnd
  simp only [silent.dir_eq, silent.tp_eq]
  split
  · exact ZeroKept.trans (.setSrng _ _ _) (.store _ _)
  · exact ZeroKept.trans (.setSrng _ _ _) (.store _ _)

theorem SilentSrc.accessBegin (silent : SilentSrc hal id) :
    SilentSrc (halSrngAccessBegin hal id) id := by
  have zero : ∀ word, hal.load word = 0 → (halSrngAccessBegin hal id).load word = 0 :=
    ZeroKept.accessBegin
  have ring : (halSrngAccessBegin hal id).srngList id =
      { hal.srngList id with
        srcRing := { (hal.srngList id).srcRing with cachedTp := 0 } } := by
    unfold halSrngAccessBegin
    simp only [silent.dir_eq, silent.tail_eq, Hal.srngList_setSrng_self]
  refine ⟨?_, ?_, ?_, ?_, ?_, ?_⟩ <;> rw [ring]
  · exact silent.dir_eq
  · exact silent.full
  · exact silent.hp_eq
  · exact zero _ silent.tail_eq
  · exact zero _ silent.published_eq

theorem SilentDst.accessBegin (silent : SilentDst hal id) :
    SilentDst (halSrngAccessBegin hal id) id := by
  have zero : ∀ word, hal.load word = 0 → (halSrngAccessBegin hal id).load word = 0 :=
    ZeroKept.accessBegin
  have ring : (halSrngAccessBegin hal id).srngList id =
      { hal.srngList id with
        dstRing := { (hal.srngList id).dstRing with cachedHp := 0 } } := by
    unfold halSrngAccessBegin
    simp only [silent.dir_eq, silent.head_eq, Hal.srngList_setSrng_self]
  refine ⟨?_, ?_, ?_, ?_⟩ <;> rw [ring]
  · exact silent.dir_eq
  · exact silent.tp_eq
  · exact zero _ silent.head_eq

theorem SilentSrc.accessEnd (silent : SilentSrc hal id) :
    SilentSrc (halSrngAccessEnd hal id) id := by
  have zero := silent.accessEnd_zero
  have ring : (halSrngAccessEnd hal id).srngList id =
      { hal.srngList id with
        srcRing := { (hal.srngList id).srcRing with lastTp := 0 } } := by
    unfold halSrngAccessEnd
    simp only [silent.dir_eq, silent.tail_eq]
    split
    · rw [Hal.srngList_store, Hal.srngList_setSrng_self]
    · rw [srngList_hifWrite32, Hal.srngList_setSrng_self]
  refine ⟨?_, ?_, ?_, ?_, ?_, ?_⟩ <;> rw [ring]
  · exact silent.dir_eq
  · exact silent.full
  · exact silent.hp_eq
  · exact silent.cachedTp_eq
  · exact zero _ silent.tail_eq
  · exact zero _ silent.published_eq

theorem SilentDst.accessEnd (silent : SilentDst hal id) :
    SilentDst (halSrngAccessEnd hal id) id := by
  have zero := silent.accessEnd_zero
  have ring : (halSrngAccessEnd hal id).srngList id =
      { hal.srngList id with
        dstRing := { (hal.srngList id).dstRing with lastHp := 0 } } := by
    unfold halSrngAccessEnd
    simp only [silent.dir_eq, silent.head_eq]
    split
    · rw [Hal.srngList_store, Hal.srngList_setSrng_self]
    · rw [srngList_hifWrite32, Hal.srngList_setSrng_self]
  refine ⟨?_, ?_, ?_, ?_⟩ <;> rw [ring]
  · exact silent.dir_eq
  · exact silent.tp_eq
  · exact silent.cachedHp_eq
  · exact zero _ silent.head_eq

end Words

theorem SilentDst.recvNext {hal : Hal} {dst status : SrngTestRing}
    (silent : SilentDst hal status.halRingId.toNat) (pipe : SrngTestPipe)
    (swIndex : UInt32) :
    testDstRecvNext hal pipe dst status swIndex = (hal, pipe, .error (-eio)) := by
  have nothing : halSrngDstGetNextEntry hal status.halRingId.toNat = (hal, none) := by
    rw [halSrngDstGetNextEntry]
    simp only [silent.tp_eq, silent.cachedHp_eq, if_true]
  rw [testDstRecvNext, nothing]

theorem SilentSrc.enqueue {hal : Hal} {dst : SrngTestRing}
    (silent : SilentSrc hal dst.halRingId.toNat) (pipe : SrngTestPipe) (skb : Nat)
    (paddr : UInt64) (writeIndex : UInt32) :
    testDstEnqueuePipe hal pipe dst skb paddr writeIndex = (hal, pipe, -enospc) := by
  have few : srcFreeEntries (hal.srngList dst.halRingId.toNat)
      (hal.srngList dst.halRingId.toNat).srcRing.hp
      (hal.srngList dst.halRingId.toNat).srcRing.cachedTp < 1 := by
    rw [silent.hp_eq, silent.cachedTp_eq]
    exact silent.full
  have nonzero : -enospc ≠ 0 := by decide
  simp only [testDstEnqueuePipe, storeEntry, halSrngSrcNumFree, Bool.false_eq_true,
    if_false, if_pos few, if_neg nonzero]

/-! A receive module with one such pipe. -/

structure ShortSide (dst status : SrngTestRing) (rx : Rx) : Prop where
  count : rx.pipesCount = 1
  rings : rx.rings 0 = some (dst, status)
  source : SilentSrc rx.hal dst.halRingId.toNat
  sink : SilentDst rx.hal status.halRingId.toNat
  apart : dst.halRingId.toNat ≠ status.halRingId.toNat
  slots : ∀ slot, dst.skb slot = none
  device : rx.devices 0 =
    { tail := 0, head := 0, storedTail := 0, taken := [], reported := [] }

def Drain.Blank : Drain → Prop
  | .idle | .recv [] | .flush [] | .post | .wait | .posted _ => True
  | _ => False

/-- Nothing is received and nothing is posted. -/
def RxLock.Short (buffers : Buffers) : RxLock → Prop
  | .recvDone _ result => ∃ code, result = .error code
  | .enqueueBegun _ _ skb paddr _ => (buffers.skb skb).paddr = paddr
  | .enqueueDone _ _ skb paddr ret => (buffers.skb skb).paddr = paddr ∧ ret ≠ 0
  | _ => True

/-- The buffer between its mapping and the end of `enqueue_pipe`. -/
def RxLock.hand : RxLock → Multiset Nat
  | .enqueueBegun _ _ skb _ _ | .enqueueDone _ _ skb _ _ => {skb}
  | _ => 0

structure ShortControl (rx : Rx) : Prop where
  blank : ∀ index, (rx.drains index).Blank
  lock : rx.lock.Short rx.buffers

section Steps

variable {rx next : Rx} {event : Rx.Event} {dst status : SrngTestRing}
  {lost : Multiset Nat}

theorem ShortSide.dst_eq (side : ShortSide dst status rx) {found : SrngTestRing}
    (ring : (rx.pipes 0).dstRing = some found) : found = dst := by
  have rings := Rx.rings_eq_some.mp side.rings
  rw [ring] at rings
  exact Option.some.inj rings.1

theorem ShortSide.rings_eq (side : ShortSide dst status rx) {dst' status' : SrngTestRing}
    (rings : rx.rings 0 = some (dst', status')) : dst' = dst ∧ status' = status := by
  rw [side.rings] at rings
  cases rings
  exact ⟨rfl, rfl⟩

theorem ShortSide.first (side : ShortSide dst status rx) {index : Nat}
    (inRange : index < rx.pipesCount) : index = 0 := by
  rw [side.count] at inRange
  omega

theorem ShortSide.onHal (side : ShortSide dst status rx)
    (count : next.pipesCount = rx.pipesCount) (pipes : next.pipes = rx.pipes)
    (devices : next.devices 0 = rx.devices 0)
    (source : SilentSrc next.hal dst.halRingId.toNat)
    (sink : SilentDst next.hal status.halRingId.toNat) : ShortSide dst status next where
  count := count.trans side.count
  rings := by
    rw [Rx.rings, pipes]
    exact side.rings
  source := source
  sink := sink
  apart := side.apart
  slots := side.slots
  device := devices.trans side.device

theorem ShortSide.still (side : ShortSide dst status rx)
    (count : next.pipesCount = rx.pipesCount) (pipes : next.pipes = rx.pipes)
    (devices : next.devices = rx.devices) (hal : next.hal = rx.hal) :
    ShortSide dst status next := by
  refine side.onHal count pipes (by rw [devices]) ?_ ?_
  · rw [hal]
    exact side.source
  · rw [hal]
    exact side.sink

theorem ShortSide.storeZero (side : ShortSide dst status rx) {pointer : WordPtr}
    (count : next.pipesCount = rx.pipesCount) (pipes : next.pipes = rx.pipes)
    (devices : next.devices 0 = rx.devices 0)
    (hal : next.hal = rx.hal.store pointer 0) : ShortSide dst status next := by
  refine side.onHal count pipes devices ?_ ?_
  · rw [hal]
    exact side.source.keep (by rw [Hal.srngList_store]) (.store _ _)
  · rw [hal]
    exact side.sink.keep (by rw [Hal.srngList_store]) (.store _ _)

theorem ShortSide.step (side : ShortSide dst status rx) (inv : ControlInv rx)
    (control : ShortControl rx) (stepped : Rx.Step rx event next)
    (live : next.live = true) : ShortSide dst status next := by
  have lock := control.lock
  have place := inv.lock
  rw [LockInv] at place
  cases stepped with
  | @recvBegin index list dst' status' free receiving rings =>
      obtain rfl := side.first (inv.drains_lt index (by simp [receiving]))
      obtain ⟨rfl, rfl⟩ := side.rings_eq rings
      exact side.onHal rfl rfl rfl
        (side.source.keep (srngList_accessBegin_of_ne side.apart) .accessBegin)
        side.sink.accessBegin
  | recvTake held rings =>
      rw [held] at place
      obtain rfl := side.first place.1
      obtain ⟨rfl, rfl⟩ := side.rings_eq rings
      rw [side.sink.recvNext]
      exact side.still rfl (by simp [Rx.recvResult, Rx.setPipe]) rfl rfl
  | @recvEnd index result list dst' status' held receiving rings =>
      obtain rfl := side.first (inv.drains_lt index (by simp [receiving]))
      obtain ⟨rfl, rfl⟩ := side.rings_eq rings
      exact side.onHal rfl rfl rfl
        (side.source.keep (srngList_accessEnd_of_ne side.apart) side.sink.accessEnd_zero)
        side.sink.accessEnd
  | enqueueBegin held needed ring =>
      rw [held] at place
      obtain rfl := side.first place.1
      obtain rfl := side.dst_eq ring
      exact side.onHal rfl rfl rfl side.source.accessBegin
        (side.sink.keep (srngList_accessBegin_of_ne side.apart.symm) .accessBegin)
  | enqueueStore held ring =>
      rw [held] at place
      obtain rfl := side.first place.1
      obtain rfl := side.dst_eq ring
      rw [side.source.enqueue]
      exact side.still rfl (by simp [Rx.enqueueResult, Rx.setPipe]) rfl rfl
  | enqueueEnd held ring =>
      rw [held] at lock
      exact absurd rfl lock.2
  | enqueueUndo held failed ring =>
      rw [held] at place
      obtain rfl := side.first place.1
      obtain rfl := side.dst_eq ring
      refine side.onHal (by simp) (by simp) (by simp) ?_ ?_
      · rw [Rx.hal_postExit]
        exact side.source.accessEnd
      · rw [Rx.hal_postExit]
        exact side.sink.keep (srngList_accessEnd_of_ne side.apart.symm)
          side.source.accessEnd_zero
  | @deviceConsume index dst' inRange ring behind =>
      rw [side.count] at inRange
      obtain rfl : index = 0 := by omega
      obtain rfl := side.dst_eq ring
      rw [side.device, side.source.published_eq] at behind
      exact absurd rfl behind
  | @deviceStoreTail index dst' inRange ring =>
      rw [side.count] at inRange
      obtain rfl : index = 0 := by omega
      refine side.storeZero rfl rfl ?_ (by rw [side.device])
      simp [Rx.setDevice, side.device]
  | @deviceReport index status' length flag inRange ring nonzero allowed =>
      rw [side.count] at inRange
      obtain rfl : index = 0 := by omega
      rw [side.device] at allowed
      exact absurd allowed (Nat.lt_irrefl 0)
  | @deviceStoreHead index status' inRange ring =>
      rw [side.count] at inRange
      obtain rfl : index = 0 := by omega
      exact side.storeZero rfl rfl rfl (by rw [side.device])
  | deinit => contradiction
  | postBufNull | postBufWait | postBufDone | postBufOn | postBufStop | postDone | postNoMemory
  | postUnmapped => exact side.still (by simp) (by simp) (by simp) (by simp)
  | _ => exact side.still rfl rfl rfl rfl

theorem ShortControl.setDrain (control : ShortControl rx) {index : Nat} {drain : Drain}
    (drains : next.drains = Function.update rx.drains index drain) (blank : drain.Blank)
    (lock : next.lock.Short next.buffers) : ShortControl next := by
  refine ⟨fun other => ?_, lock⟩
  rw [drains]
  by_cases same : other = index
  · rw [same, Function.update_self]
    exact blank
  · rw [Function.update_of_ne same]
    exact control.blank other

theorem ShortControl.still (control : ShortControl rx) (drains : next.drains = rx.drains)
    (lock : next.lock.Short next.buffers) : ShortControl next := by
  refine ⟨?_, lock⟩
  rw [drains]
  exact control.blank

theorem ShortControl.postExit (control : ShortControl rx) {left : Rx}
    (drains : left.drains = rx.drains) (poster : Poster) (index : Nat) (ret : Int) :
    ShortControl (left.postExit poster index ret) := by
  cases poster with
  | init => exact control.still drains trivial
  | timer => exact control.still drains trivial
  | drain pipe =>
      have moved : (left.postExit (.drain pipe) index ret).drains =
          Function.update rx.drains pipe (.posted ret) := by
        simp [Rx.postExit, Rx.setDrain, drains]
      exact control.setDrain moved trivial trivial

theorem ShortControl.step (control : ShortControl rx) (inv : ControlInv rx)
    (side : ShortSide dst status rx) (stepped : Rx.Step rx event next)
    (live : next.live = true) : ShortControl next := by
  have lock := control.lock
  have blank := control.blank
  have place := inv.lock
  rw [LockInv] at place
  cases stepped with
  | drainStart inRange idle => exact control.setDrain rfl trivial lock
  | recvBegin | drainLock | postBufLock => exact control.still rfl trivial
  | recvTake held rings =>
      rw [held] at place
      obtain rfl := side.first place.1
      obtain ⟨rfl, rfl⟩ := side.rings_eq rings
      rw [side.sink.recvNext]
      exact control.still rfl ⟨_, rfl⟩
  | @recvEnd index result list dst' status' held receiving rings =>
      rw [held] at lock
      obtain ⟨code, rfl⟩ := lock
      have empty := blank index
      rw [receiving] at empty
      cases list with
      | nil => exact control.setDrain rfl trivial trivial
      | cons => exact empty.elim
  | @drainOverlong index skb list nbytes took =>
      have empty := blank index
      rw [took] at empty
      exact empty.elim
  | @drainKeep index skb list nbytes buffers took =>
      have empty := blank index
      rw [took] at empty
      exact empty.elim
  | @flushOne index skb list flushing =>
      have empty := blank index
      rw [flushing] at empty
      exact empty.elim
  | flushDone | drainPostNull | drainPost | drainReturn =>
      exact control.setDrain rfl trivial lock
  | postBufNull | postBufWait | postBufDone | postBufOn | postBufStop =>
      exact control.still (by simp) (by simpa using lock)
  | postDone | postNoMemory | postUnmapped | enqueueUndo =>
      refine control.postExit ?_ _ _ _
      rfl
  | enqueueBegin held needed ring =>
      refine control.still rfl ?_
      simp [RxLock.Short, Rx.mapped, Buffers.setPaddr, Buffers.dmaMapSingle,
        Buffers.devAllocSkb]
  | enqueueStore held ring =>
      rw [held] at lock place
      obtain rfl := side.first place.1
      obtain rfl := side.dst_eq ring
      rw [side.source.enqueue]
      exact control.still rfl ⟨lock, by simp [enospc]⟩
  | enqueueEnd held ring =>
      rw [held] at lock
      exact absurd rfl lock.2
  | deinit => contradiction
  | _ => exact control.still rfl lock

/-- The one buffer that may be in hand is accounted for. -/
def ShortOwned (lost : Multiset Nat) (rx : Rx) : Prop :=
  Ledger rx.buffers rx.lock.hand lost

theorem ShortOwned.step (owned : ShortOwned lost rx) (inv : ControlInv rx)
    (control : ShortControl rx) (side : ShortSide dst status rx)
    (maps : rx.MappingHolds event) (stepped : Rx.Step rx event next)
    (live : next.live = true) : ShortOwned lost next := by
  have lock := control.lock
  have place := inv.lock
  rw [LockInv] at place
  have blank := control.blank
  have ledger : Ledger rx.buffers rx.lock.hand lost := owned
  unfold ShortOwned
  cases stepped with
  | recvTake held rings =>
      rw [held] at place ledger
      obtain rfl := side.first place.1
      obtain ⟨rfl, rfl⟩ := side.rings_eq rings
      rw [side.sink.recvNext]
      exact ledger
  | recvBegin free | drainLock _ free | postBufLock _ free =>
      rw [free] at ledger
      exact ledger
  | recvEnd held =>
      rw [held] at ledger
      exact ledger
  | @drainOverlong index skb list nbytes took =>
      have empty := blank index
      rw [took] at empty
      exact empty.elim
  | @drainKeep index skb list nbytes buffers took =>
      have empty := blank index
      rw [took] at empty
      exact empty.elim
  | @flushOne index skb list flushing =>
      have empty := blank index
      rw [flushing] at empty
      exact empty.elim
  | postBufNull | postBufWait | postBufDone | postBufOn | postBufStop => simpa using ledger
  | postDone held | postNoMemory held =>
      rw [held] at ledger
      simp only [Rx.buffers_postExit, Rx.lock_postExit]
      exact ledger
  | postUnmapped held needed => exact absurd rfl (maps _ _ _ held needed)
  | @enqueueBegin poster index tailroom paddr dst' held needed ring =>
      rw [held] at ledger
      exact ledger.allocate tailroom paddr
  | enqueueStore held ring =>
      rw [held] at ledger place
      obtain rfl := side.first place.1
      obtain rfl := side.dst_eq ring
      rw [side.source.enqueue]
      exact ledger
  | enqueueEnd held ring =>
      rw [held] at lock
      exact absurd rfl lock.2
  | @enqueueUndo poster index skb paddr ret dst' held failed ring =>
      rw [held] at ledger lock
      obtain ⟨address, _⟩ := lock
      have undone : Ledger _ 0 lost := ledger.unmap.free
      rw [address] at undone
      simp only [Rx.buffers_postExit, Rx.lock_postExit]
      exact undone
  | deinit => contradiction
  | _ => exact ledger

theorem ShortOwned.lose (owned : ShortOwned lost rx) {poster : Poster} {index : Nat}
    (held : rx.lock = .postLoop poster index) (tailroom : UInt32) (ret : Int) :
    ShortOwned (rx.buffers.allocated ::ₘ lost)
      ({ rx with buffers := (rx.buffers.devAllocSkb tailroom).1 }.postExit poster index
        ret) := by
  have ledger : Ledger rx.buffers rx.lock.hand lost := owned
  rw [held] at ledger
  unfold ShortOwned
  simp only [Rx.buffers_postExit, Rx.lock_postExit]
  exact ledger.adopt tailroom

end Steps

/-! Such a pipe right after its setup. -/

section Start

variable {hal hal' : Hal} {ring ring' : SrngTestRing} {index id : Nat}

theorem Registered.silentSrc
    (done : Registered hal hal' ring ring' index .testSrngDst id)
    (table : RxTable hal.srngConfig) (short : ring.nentries.toNat < 2) :
    SilentSrc hal' id := by
  have setup := halSrngSetup_done done.setup
  have found := setup.ring_eq
  have clear : SharedWordsClear hal .testSrngDst id := by
    intro lmac
    rw [table.dstLmac] at lmac
    contradiction
  have dir : (hal'.srngList id).ringDir = .src := by
    rw [found]
    exact table.dstDir
  have tail := setup.shadow_zero clear
  have published := setup.publish_zero clear
  simp only [HalSrng.shadowAddr, HalSrng.publishAddr, dir] at tail published
  refine ⟨dir, ?_, ?_, ?_, tail, published⟩
  · have entries : ring.nentries = 0 ∨ ring.nentries = 1 := by
      rw [← UInt32.toNat_inj, ← UInt32.toNat_inj]
      have one : (1 : UInt32).toNat = 1 := rfl
      have zero : (0 : UInt32).toNat = 0 := rfl
      omega
    rw [found]
    simp only [srngSetupRing, SrngTestRing.params, UInt32.toUInt32_toInt32,
      srcFreeEntries, table.dstSize]
    rcases entries with zero | one
    · rw [zero]
      decide
    · rw [one]
      decide
  · rw [found]
    simp only [srngSetupRing, table.dstDir]
  · rw [found]
    simp only [srngSetupRing, table.dstDir]

theorem Registered.silentDst
    (done : Registered hal hal' ring ring' index .testSrngDstStatus id)
    (table : RxTable hal.srngConfig) : SilentDst hal' id := by
  have setup := halSrngSetup_done done.setup
  have found := setup.ring_eq
  have clear : SharedWordsClear hal .testSrngDstStatus id := by
    intro lmac
    rw [table.statusLmac] at lmac
    contradiction
  have dir : (hal'.srngList id).ringDir = .dst := by
    rw [found]
    exact table.statusDir
  have head := setup.shadow_zero clear
  simp only [HalSrng.shadowAddr, dir] at head
  refine ⟨dir, ?_, ?_, head⟩
  · rw [found]
    simp only [srngSetupRing, table.statusDir]
  · rw [found]
    simp only [srngSetupRing, table.statusDir]

/-- The destination ring of an allocated pipe has the size of the table and no
buffers. -/
theorem halSrngTestAllocPipe_dstRing {memory : Fin 3 → RingMemory} {attr : SrngTestAttr}
    {dst : SrngTestRing}
    (found : (halSrngTestAllocPipe memory .zero index attr).1.dstRing = some dst) :
    dst.nentries = ringEntries attr.destNentries ∧ ∀ slot, dst.skb slot = none := by
  have allocated : ∀ {memory : RingMemory} {nentries : UInt32} {size : Nat}
      {ring : SrngTestRing}, halSrngTestAllocRing memory nentries size = .ok ring →
      ring.nentries = nentries ∧ ∀ slot, ring.skb slot = none := by
    intro memory nentries size ring ok
    unfold halSrngTestAllocRing at ok
    split at ok
    · contradiction
    · split at ok
      · contradiction
      · cases ok
        exact ⟨rfl, fun _ => rfl⟩
  obtain ⟨noDst, _⟩ := allocSrcRing_receive (memory 0)
    { SrngTestPipe.zero with
      attrFlags := attr.flags, pipeNum := index, bufSz := attr.srcSzMax } attr
  unfold halSrngTestAllocPipe at found
  simp only at found
  split at found
  · rw [noDst] at found
    cases found
  · unfold allocDstRings at found
    split at found
    · rw [noDst] at found
      cases found
    · split at found
      · rw [noDst] at found
        cases found
      next ring ok =>
          split at found
          · cases found
            exact allocated ok
          · cases found
            exact allocated ok

theorem SilentSrc.of_agree (silent : SilentSrc hal id) (agree : Agree hal hal' id) :
    SilentSrc hal' id := by
  have shadow := agree.shadow
  have published := agree.published
  simp only [HalSrng.shadowAddr, HalSrng.publishAddr, silent.dir_eq] at shadow published
  refine ⟨?_, ?_, ?_, ?_, ?_, ?_⟩ <;> rw [agree.ring]
  · exact silent.dir_eq
  · exact silent.full
  · exact silent.hp_eq
  · exact silent.cachedTp_eq
  · exact shadow.trans silent.tail_eq
  · exact published.trans silent.published_eq

theorem ShortSide.start {memory : Nat → Fin 3 → RingMemory} {attrs : Nat → SrngTestAttr}
    {pipes : Nat → SrngTestPipe} (table : RxTable hal.srngConfig)
    (short : (ringEntries (attrs 0).destNentries).toNat < 2)
    (done : dstTestSetup hal 1 memory attrs = (hal', pipes, none)) :
    ∃ dst status, ShortSide dst status (.start hal' 1 pipes) := by
  obtain ⟨_, registered⟩ := dstTestSetup_done done
  generalize allocated : halSrngTestAllocPipe (memory 0) .zero 0 (attrs 0) = result
  obtain ⟨pipe, ret⟩ := result
  simp only [initPipes, allocPipes, dstTestInitNext, ne_eq, not_true_eq_false,
    if_false, allocated, Function.update_self] at registered
  generalize last : dstTestInitPipe hal pipe 0 = result at registered
  obtain ⟨after, pipe', code⟩ := result
  cases registered
  obtain ⟨dst, status, dst', status', middle, dstId, statusId, dstFound, _, first, second,
    rfl⟩ := dstTestInitPipe_registered last
  have lmacStatus : (middle.srngConfig .testSrngDstStatus).lmacRing = false := by
    rw [first.config]
    exact table.statusLmac
  obtain ⟨dstRingId, dstLt, dstIdEq⟩ := first.ringId table.dstLmac
  obtain ⟨statusRingId, statusLt, statusIdEq⟩ := second.ringId lmacStatus
  have apart : dstId ≠ statusId := by
    have ids := table.apart 0 0 dstLt (by rw [← first.config]; exact statusLt)
    rw [first.config] at statusIdEq
    omega
  obtain ⟨entries, blank⟩ := @halSrngTestAllocPipe_dstRing 0 (memory 0) (attrs 0) dst
    (by rw [allocated]; exact dstFound)
  have silent := first.silentSrc table (by rw [entries]; exact short)
  have keeps := agree_setup second.setup lmacStatus
    (halSrngSetup_direct first.setup table.dstLmac) apart
  have slots : ∀ slot, dst'.skb slot = none := by
    rw [first.ring_eq]
    exact blank
  refine ⟨{ dst' with writeIndex := 0, swIndex := 0 },
    { status' with writeIndex := 0, swIndex := 0 }, rfl, ?_, ?_, ?_, ?_, slots, rfl⟩
  · simp [Rx.rings_eq_some, Rx.start]
  · simp only [dstRingId]
    exact silent.of_agree keeps
  · simp only [statusRingId]
    refine second.silentDst ?_
    rw [first.config]
    exact table
  · simp only [dstRingId, statusRingId]
    exact apart

theorem ShortControl.start (hal : Hal) (count : Nat) (pipes : Nat → SrngTestPipe) :
    ShortControl (.start hal count pipes) :=
  ⟨fun _ => trivial, trivial⟩

end Start

end WirelessSimu
