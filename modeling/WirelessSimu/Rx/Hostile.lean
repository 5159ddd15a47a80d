import WirelessSimu.Rx.Footprint
import WirelessSimu.Rx.Start

namespace WirelessSimu

open Data Kernel

/-! The receive module with a device that keeps no rule: at any time it stores any value
into the pointer words of the rings and into the status rings. What the module keeps up
by itself is the tail of each status ring and the table of posted buffers, as long as it
takes no buffer that is not there. -/

namespace Rx

inductive HostileEvent where
  | module (event : Event)
  | storeWord (id : Nat) (value : UInt32)
  | storeStatus (index address : Nat) (value : UInt32)

def storeStatus (rx : Rx) (index address : Nat) (value : UInt32) : Option Rx :=
  match (rx.pipes index).statusRing with
  | none => none
  | some status =>
      some (rx.setPipe index
        { rx.pipes index with
          statusRing := some
            { status with mem := Function.update status.mem address value } })

def hostileStep (rx : Rx) : HostileEvent → Option Rx
  | .module event => rx.step event
  | .storeWord id value => some { rx with hal := rx.hal.store (.rdp id) value }
  | .storeStatus index address value =>
      if index < rx.pipesCount then rx.storeStatus index address value else none

/-- The drain of the pipe has a NULL buffer in hand, which it is about to dereference. -/
def Doomed (rx : Rx) (index : Nat) : Prop :=
  (∃ nbytes, rx.lock = .recvDone index (.ok (none, nbytes))) ∨
    ∃ list nbytes, rx.drains index = .took list none nbytes

section Doomed

variable {rx next : Rx} {event : Event} {index : Nat}

theorem Step.keeps_took (stepped : Step rx event next) (lock : LockInv rx)
    {list : List Nat} {nbytes : UInt32} (took : rx.drains index = .took list none nbytes) :
    next.drains index = .took list none nbytes := by
  have other : ∀ touched drain, rx.drains touched ≠ .took list none nbytes →
      Function.update rx.drains touched drain index = .took list none nbytes := by
    intro touched drain different
    rw [Function.update_of_ne]
    · exact took
    · rintro rfl
      exact different took
  have exits : ∀ poster held ret, PosterAt rx held poster →
      (rx.postExit poster held ret).drains index = .took list none nbytes := by
    intro poster held ret at_
    cases poster with
    | init => exact took
    | timer => exact took
    | drain pipe =>
        obtain ⟨rfl, posting⟩ := at_
        exact other _ _ (by simp [posting])
  rw [LockInv] at lock
  cases stepped with
  | drainStart _ idle => exact other _ _ (by simp [idle])
  | recvEnd _ receiving _ => exact other _ _ (by simp [receiving])
  | drainOverlong taken _ | drainKeep taken _ => exact other _ _ (by simp [taken])
  | flushOne flushing | flushDone flushing => exact other _ _ (by simp [flushing])
  | drainPostNull posting _ | drainPost posting _ => exact other _ _ (by simp [posting])
  | drainReturn posted => exact other _ _ (by simp [posted])
  | postBufNull | postBufWait | postBufDone | postBufOn | postBufStop =>
      simp only [drains_setPostBuf]
      exact took
  | postDone held _ | postNoMemory held _ =>
      rw [held] at lock
      exact exits _ _ _ lock.2
  | @postUnmapped poster _ _ held _ | @enqueueUndo poster _ _ _ _ _ held _ _ =>
      rw [held] at lock
      cases poster with
      | init => exact took
      | timer => exact took
      | drain pipe => exact exits (.drain pipe) _ _ lock.2
  | _ => exact took

theorem Step.keeps_result (stepped : Step rx event next)
    {result : Except Int (Option Nat × UInt32)} (done : rx.lock = .recvDone index result) :
    next.lock = .recvDone index result ∨
      ∃ list, next.drains index = afterRecv list result := by
  have busy : ∀ lock, rx.lock = lock → lock = .recvDone index result := by
    intro lock held
    rw [← held, done]
  cases stepped with
  | recvEnd held receiving rings =>
      cases busy _ held
      exact .inr ⟨_, Function.update_self ..⟩
  | recvBegin free _ _ | drainLock _ free | postBufLock _ free =>
      exact absurd (busy _ free) (by simp)
  | recvTake held _ | postDone held _ | postNoMemory held _ | postUnmapped held _
  | enqueueBegin held _ _ | enqueueStore held _ | enqueueEnd held _
  | enqueueUndo held _ _ => exact absurd (busy _ held) (by simp)
  | postBufNull | postBufWait | postBufDone | postBufOn | postBufStop =>
      left
      simp only [lock_setPostBuf]
      exact done
  | _ => exact .inl done

/-- There is no way out: the drain is stuck with what it has. -/
theorem Doomed.step (doomed : rx.Doomed index) (lock : LockInv rx)
    (stepped : Step rx event next) : next.Doomed index := by
  obtain ⟨nbytes, done⟩ | ⟨list, nbytes, took⟩ := doomed
  · obtain held | ⟨list, drain⟩ := stepped.keeps_result done
    · exact .inl ⟨nbytes, held⟩
    · exact .inr ⟨list, nbytes, drain⟩
  · exact .inr ⟨list, nbytes, stepped.keeps_took lock took⟩

end Doomed

end Rx

/-- What the holder of the lock knows about the pipe, whatever the device does. -/
def RxLock.Knows (index : Nat) (dst : SrngTestRing) (needed : UInt32) : RxLock → Prop
  | .recvBegun held swIndex => held = index → swIndex = dst.swIndex
  | .enqueueBegun _ held _ _ writeIndex => held = index →
      writeIndex = dst.writeIndex ∧ needed ≠ 0
  | _ => True

/-- The holder is between the two halves of `recv_next` on the pipe. -/
def RxLock.Taking (index : Nat) : RxLock → Prop
  | .recvDone held _ => held = index
  | _ => False

structure HostileAt (layout : RxLayout) (rx : Rx) (index : Nat)
    (dst status : SrngTestRing) : Prop where
  rings : rx.rings index = some (dst, status)
  dstId_eq : dst.halRingId.toNat = layout.dstId index
  statusId_eq : status.halRingId.toNat = layout.statusId index
  held : PipeRings (layout.entries index) rx.hal (rx.pipe index dst status)
  stands : ∃ count, StandsAt (layout.entries index) 2
    (rx.hal.dstView status.halRingId.toNat).tp count
  published : rx.lock.Taking index ∨
    (rx.hal.dstView status.halRingId.toNat).published =
      (rx.hal.dstView status.halRingId.toNat).tp
  knows : rx.lock.Knows index dst (rx.pipes index).rxBufNeeded
  table : rx.Doomed index ∨
    TableSide (layout.entries index) (rx.pipe index dst status) ∧
      (rx.received index).length ≤ (rx.enqueued index).length

def HostilePipes (layout : RxLayout) (rx : Rx) : Prop :=
  ∀ index, index < rx.pipesCount → ∃ dst status, HostileAt layout rx index dst status

structure HostileInv (layout : RxLayout) (rx : Rx) : Prop where
  apart : layout.Apart rx.pipesCount
  pipes : HostilePipes layout rx
  control : ControlInv rx
  blank : rx.BlankHeld

/-- The ring is the same but for its pointers, and both tails are as they were. -/
structure SameTail (hal hal' : Hal) (id : Nat) : Prop where
  same : SameRing (hal.srngList id) (hal'.srngList id)
  tp : (hal'.dstView id).tp = (hal.dstView id).tp
  published : (hal'.dstView id).published = (hal.dstView id).published

theorem Agree.sameTail {hal hal' : Hal} {id : Nat} (agree : Agree hal hal' id) :
    SameTail hal hal' id where
  same := agree.same
  tp := by rw [agree.dstView]
  published := by rw [agree.dstView]

theorem SameTail.refl (hal : Hal) (id : Nat) : SameTail hal hal id :=
  ⟨.refl _, rfl, rfl⟩

section Frame

variable {layout : RxLayout} {rx next : Rx} {index : Nat} {dst status : SrngTestRing}

theorem TableSide.congr {entries : Nat} {pipe pipe' : RxPipe}
    (table : TableSide entries pipe) (dst : pipe'.dst = pipe.dst)
    (needed : pipe'.needed = pipe.needed) (enqueued : pipe'.enqueued = pipe.enqueued)
    (received : pipe'.received = pipe.received) : TableSide entries pipe' where
  writeIndex_eq := by rw [dst, enqueued, table.writeIndex_eq]
  swIndex_eq := by rw [dst, received, table.swIndex_eq]
  needed_eq := by rw [needed, enqueued, received, table.needed_eq]
  slots := by
    rw [dst, enqueued, received]
    exact table.slots

/-- A step that leaves the table of the pipe alone and both tails of its status ring. -/
theorem HostileAt.frame (at_ : HostileAt layout rx index dst status)
    (samePipe : next.pipes index = rx.pipes index)
    (sameEnqueued : next.enqueued index = rx.enqueued index)
    (sameReceived : next.received index = rx.received index)
    (dstSame : SameRing (rx.hal.srngList dst.halRingId.toNat)
      (next.hal.srngList dst.halRingId.toNat))
    (tail : SameTail rx.hal next.hal status.halRingId.toNat)
    (taking : rx.lock.Taking index → next.lock.Taking index)
    (knows : rx.lock.Knows index dst (rx.pipes index).rxBufNeeded →
      next.lock.Knows index dst (rx.pipes index).rxBufNeeded)
    (doomed : rx.Doomed index → next.Doomed index) :
    HostileAt layout next index dst status := by
  have rings := at_.rings
  rw [Rx.rings_eq_some] at rings
  refine ⟨?_, at_.dstId_eq, at_.statusId_eq, ?_, ?_, ?_, ?_, ?_⟩
  · rw [Rx.rings_eq_some, samePipe]
    exact rings
  · have held := at_.held.of_same dstSame tail.same
    exact ⟨held.two_le, held.table, held.dstReady, held.statusReady, held.dstDirect,
      held.statusDirect, held.dstPaddr, held.statusPaddr, held.apart⟩
  · rw [tail.tp]
    exact at_.stands
  · rw [tail.tp, tail.published]
    exact at_.published.imp_left taking
  · rw [samePipe]
    exact knows at_.knows
  · rw [sameEnqueued, sameReceived]
    refine at_.table.imp doomed fun side => ⟨side.1.congr rfl ?_ sameEnqueued sameReceived,
      side.2⟩
    exact congrArg SrngTestPipe.rxBufNeeded samePipe

/-- What a step on the pipe `index` leaves alone in the others. -/
structure Aside (rx next : Rx) (index : Nat) : Prop where
  count : next.pipesCount = rx.pipesCount
  pipes : ∀ other, other ≠ index → next.pipes other = rx.pipes other
  enqueued : ∀ other, other ≠ index → next.enqueued other = rx.enqueued other
  received : ∀ other, other ≠ index → next.received other = rx.received other
  taking : ∀ other, other ≠ index → rx.lock.Taking other → next.lock.Taking other
  knows : ∀ other dst needed, other ≠ index →
    rx.lock.Knows other dst needed → next.lock.Knows other dst needed

/-- The step leaves the tables of all pipes alone. -/
structure SameTables (rx next : Rx) : Prop where
  count : next.pipesCount = rx.pipesCount
  pipes : next.pipes = rx.pipes
  enqueued : next.enqueued = rx.enqueued
  received : next.received = rx.received

theorem HostileInv.still (inv : HostileInv layout rx)
    (doomed : ∀ index, rx.Doomed index → next.Doomed index) (same : SameTables rx next)
    (hal : next.hal = rx.hal)
    (taking : ∀ index, rx.lock.Taking index → next.lock.Taking index)
    (knows : ∀ index dst needed, rx.lock.Knows index dst needed →
      next.lock.Knows index dst needed) : HostilePipes layout next := by
  intro index inRange
  rw [same.count] at inRange
  obtain ⟨dst, status, at_⟩ := inv.pipes index inRange
  refine ⟨dst, status, at_.frame ?_ ?_ ?_ ?_ ?_ (taking index) (knows index _ _)
    (doomed index)⟩
  · rw [same.pipes]
  · rw [same.enqueued]
  · rw [same.received]
  · rw [hal]
    exact .refl _
  · rw [hal]
    exact .refl _ _

theorem HostileAt.dstDirect (at_ : HostileAt layout rx index dst status) :
    RingDirect rx.hal (layout.dstId index) := by
  rw [← at_.dstId_eq]
  exact at_.held.dstDirect

theorem HostileAt.statusDirect (at_ : HostileAt layout rx index dst status) :
    RingDirect rx.hal (layout.statusId index) := by
  rw [← at_.statusId_eq]
  exact at_.held.statusDirect

theorem HostileInv.onRing {id : Nat} {dst' status' : SrngTestRing}
    (inv : HostileInv layout rx) (inRange : index < rx.pipesCount)
    (mine : id = layout.dstId index ∨ id = layout.statusId index)
    (agree : ∀ other, RingDirect rx.hal other → other ≠ id →
      Agree rx.hal next.hal other)
    (aside : Aside rx next index) (doomed : ∀ other, rx.Doomed other → next.Doomed other)
    (own : HostileAt layout next index dst' status') : HostilePipes layout next := by
  intro other otherRange
  rw [aside.count] at otherRange
  by_cases same : other = index
  · subst same
    exact ⟨_, _, own⟩
  · obtain ⟨dst, status, at_⟩ := inv.pipes other otherRange
    obtain ⟨dstApart, statusApart⟩ := inv.apart.off_ring inRange otherRange same mine
    have dstAgree := agree _ at_.dstDirect dstApart
    have statusAgree := agree _ at_.statusDirect statusApart
    rw [← at_.dstId_eq] at dstAgree
    rw [← at_.statusId_eq] at statusAgree
    exact ⟨dst, status, at_.frame (aside.pipes other same) (aside.enqueued other same)
      (aside.received other same) dstAgree.same statusAgree.sameTail
      (aside.taking other same) (aside.knows other _ _ same) (doomed other)⟩

theorem HostileInv.at_rings (inv : HostileInv layout rx) (inRange : index < rx.pipesCount)
    (rings : rx.rings index = some (dst, status)) :
    HostileAt layout rx index dst status := by
  obtain ⟨dst', status', at_⟩ := inv.pipes index inRange
  rw [at_.rings] at rings
  cases rings
  exact at_

theorem HostileInv.at_dst (inv : HostileInv layout rx) (inRange : index < rx.pipesCount)
    (ring : (rx.pipes index).dstRing = some dst) :
    ∃ status, HostileAt layout rx index dst status := by
  obtain ⟨dst', status, at_⟩ := inv.pipes index inRange
  have found := (Rx.rings_eq_some.mp at_.rings).1
  rw [found] at ring
  cases ring
  exact ⟨status, at_⟩

theorem HostileInv.at_status (inv : HostileInv layout rx) (inRange : index < rx.pipesCount)
    (ring : (rx.pipes index).statusRing = some status) :
    ∃ dst, HostileAt layout rx index dst status := by
  obtain ⟨dst, status', at_⟩ := inv.pipes index inRange
  have found := (Rx.rings_eq_some.mp at_.rings).2
  rw [found] at ring
  cases ring
  exact ⟨dst, at_⟩

end Frame

/-! One lemma for each step that works on a ring. -/

section Receive

variable {layout : RxLayout} {rx : Rx} {index : Nat} {dst status : SrngTestRing}

theorem HostileAt.accessBegin_tail (at_ : HostileAt layout rx index dst status) :
    SameTail rx.hal (halSrngAccessBegin rx.hal status.halRingId.toNat)
      status.halRingId.toNat := by
  have ready := at_.held.statusReady
  have view := dstView_accessBegin ready
  refine ⟨same_accessBegin _, ?_, ?_⟩
  · have tp := congrArg DstView.tp view
    exact tp
  · have published := congrArg DstView.published view
    exact published

theorem HostileInv.recvBegin (inv : HostileInv layout rx) {list : List Nat}
    (free : rx.lock = .free) (receiving : rx.drains index = .recv list)
    (rings : rx.rings index = some (dst, status))
    (doomed : ∀ other, rx.Doomed other → Rx.Doomed
      { rx with
        hal := halSrngAccessBegin rx.hal status.halRingId.toNat
        lock := .recvBegun index dst.swIndex } other) :
    HostilePipes layout
      { rx with
        hal := halSrngAccessBegin rx.hal status.halRingId.toNat
        lock := .recvBegun index dst.swIndex } := by
  have inRange := inv.control.drains_lt index (by rw [receiving]; simp)
  have at_ := inv.at_rings inRange rings
  have dstSame := (@agree_accessBegin rx.hal _ _ at_.held.apart).same
  have notTaking : ∀ other, ¬ rx.lock.Taking other := by simp [free, RxLock.Taking]
  refine inv.onRing inRange (.inr at_.statusId_eq)
    (fun _ _ different => agree_accessBegin different)
    ⟨rfl, fun _ _ => rfl, fun _ _ => rfl, fun _ _ => rfl, ?_, ?_⟩ doomed
    (at_.frame rfl rfl rfl dstSame at_.accessBegin_tail ?_ ?_ (doomed index))
  · exact fun other _ taking => absurd taking (notTaking other)
  · exact fun other _ _ different _ equal => absurd equal.symm different
  · exact fun taking => absurd taking (notTaking index)
  · exact fun _ _ => rfl

/-- `dst_get_next_entry` moves the tail by one entry or not at all. -/
theorem HostileAt.getNext (at_ : HostileAt layout rx index dst status) :
    SameRing (rx.hal.srngList status.halRingId.toNat)
        ((halSrngDstGetNextEntry rx.hal status.halRingId.toNat).1.srngList
          status.halRingId.toNat) ∧
      ∃ count, StandsAt (layout.entries index) 2
        ((halSrngDstGetNextEntry rx.hal status.halRingId.toNat).1.dstView
          status.halRingId.toNat).tp count := by
  obtain ⟨count, stands⟩ := at_.stands
  have shape := at_.held.statusReady.shape
  refine ⟨same_dstGetNextEntry _, ?_⟩
  rw [halSrngDstGetNextEntry_def]
  split
  · exact ⟨count, stands⟩
  · refine ⟨count + 1, ?_⟩
    rw [Hal.dstView_setDst]
    exact shape.advance_compare stands

theorem Rx.not_doomed {list : List Nat}
    (receiving : rx.drains index = .recv list)
    (undone : ∀ result, rx.lock ≠ .recvDone index result) : ¬ rx.Doomed index := by
  rintro (⟨nbytes, done⟩ | ⟨list', nbytes, took⟩)
  · exact undone _ done
  · rw [receiving] at took
    cases took

/-- The table after a success of `recv_next`, unless there was no buffer. -/
theorem HostileAt.takeTable {entry : UInt32} (at_ : HostileAt layout rx index dst status)
    (table : TableSide (layout.entries index) (rx.pipe index dst status))
    (ordered : (rx.received index).length ≤ (rx.enqueued index).length) :
    dst.skb dst.swIndex.toNat = none ∨
      (rx.received index).length < (rx.enqueued index).length ∧
      TableSide (layout.entries index)
        ((rx.pipe index dst status).receive dst.swIndex
          (dst.skb dst.swIndex.toNat, entry)) := by
  have twoLe := at_.held.two_le
  have fits := at_.held.dstReady.shape.fits
  rcases Nat.lt_or_eq_of_le ordered with ahead | caught
  · exact .inr ⟨ahead, table.receive at_.held.table (by omega) ahead _⟩
  · left
    have slots := table.slots
    have swIndex := table.swIndex_eq
    simp only [Rx.pipe] at slots swIndex
    have length : ((rx.enqueued index).map Prod.fst).length =
        (rx.received index).length := by rw [List.length_map, caught]
    rw [swIndex, ← length]
    exact slots.next_empty (by omega) (by omega)

theorem HostileAt.recvTake (at_ : HostileAt layout rx index dst status)
    (side : TableSide (layout.entries index) (rx.pipe index dst status) ∧
      (rx.received index).length ≤ (rx.enqueued index).length) :
    ∃ dst', HostileAt layout (rx.recvResult index
      (testDstRecvNext rx.hal (rx.pipes index) dst status dst.swIndex)) index dst'
      status := by
  have hal := testDstRecvNext_hal rx.hal (rx.pipes index) dst status dst.swIndex
  have moved := at_.getNext
  rw [← hal] at moved
  have dstSame := (@agree_testDstRecvNext rx.hal _ (rx.pipes index) dst status
    dst.swIndex at_.held.apart).same
  have held := at_.held.of_same dstSame moved.1
  -- A failure leaves the pipe as it is, whether or not it has passed an entry.
  have failed : ∀ hal' code, testDstRecvNext rx.hal (rx.pipes index) dst status dst.swIndex =
      (hal', rx.pipes index, .error code) → ∃ dst', HostileAt layout (rx.recvResult index
        (hal', rx.pipes index, .error code)) index dst' status := by
    intro hal' code outcome
    rw [outcome] at held moved
    rw [Rx.recvResult_error]
    exact ⟨dst, at_.rings, at_.dstId_eq, at_.statusId_eq, held, moved.2, .inl rfl, trivial,
      .inr side⟩
  obtain ⟨_, outcome⟩ | ⟨hal', desc, _, zero, outcome⟩ | ⟨hal', desc, _, nonzero, outcome⟩ :=
    testDstRecvNext_cases rx.hal (rx.pipes index) dst status dst.swIndex
  · rw [outcome]
    exact failed _ _ outcome
  · rw [outcome]
    exact failed _ _ outcome
  · rw [outcome] at held moved ⊢
    have table := held.table
    refine ⟨dst.take dst.swIndex, Rx.rings_recvResult_take at_.rings _ _ _, at_.dstId_eq,
      at_.statusId_eq, ?_, moved.2, .inl rfl, trivial, ?_⟩
    · rw [Rx.pipe_recvResult_take]
      exact { held with table := ⟨table.nentries_eq, table.mask_eq, table.power⟩ }
    · obtain missing | ⟨ahead, taken⟩ :=
        @HostileAt.takeTable _ _ _ _ _ (testDstGetLength status.mem desc) at_ side.1 side.2
      · rw [missing]
        exact .inl (.inl ⟨_, rfl⟩)
      · right
        rw [Rx.pipe_recvResult_take]
        refine ⟨taken, ?_⟩
        simp only [Rx.recvResult, Function.update_self, List.length_append,
          List.length_singleton]
        exact ahead

/-- `recv_next` has read the index that the table still has, and the table is in order. -/
theorem HostileInv.receiving (inv : HostileInv layout rx) {swIndex : UInt32}
    (held : rx.lock = .recvBegun index swIndex)
    (rings : rx.rings index = some (dst, status)) :
    swIndex = dst.swIndex ∧ index < rx.pipesCount ∧
      HostileAt layout rx index dst status ∧
      TableSide (layout.entries index) (rx.pipe index dst status) ∧
        (rx.received index).length ≤ (rx.enqueued index).length := by
  have lock := inv.control.lock
  rw [LockInv, held] at lock
  obtain ⟨inRange, list, receiving⟩ := lock
  have at_ := inv.at_rings inRange rings
  have known := at_.knows
  rw [held] at known
  exact ⟨known rfl, inRange, at_,
    at_.table.resolve_left (Rx.not_doomed receiving (by simp [held]))⟩

theorem HostileInv.recvTake (inv : HostileInv layout rx) {swIndex : UInt32}
    (held : rx.lock = .recvBegun index swIndex)
    (rings : rx.rings index = some (dst, status))
    (doomed : ∀ other, rx.Doomed other → (rx.recvResult index
      (testDstRecvNext rx.hal (rx.pipes index) dst status swIndex)).Doomed other) :
    HostilePipes layout (rx.recvResult index
      (testDstRecvNext rx.hal (rx.pipes index) dst status swIndex)) := by
  obtain ⟨rfl, inRange, at_, side⟩ := inv.receiving held rings
  obtain ⟨dst', own⟩ := at_.recvTake side
  refine inv.onRing inRange (.inr at_.statusId_eq)
    (fun _ _ different => agree_testDstRecvNext _ _ _ _ different)
    ⟨rfl, ?_, fun _ _ => rfl, ?_, ?_, fun _ _ _ _ _ => trivial⟩ doomed own
  · intro other different
    simp [Rx.recvResult, Rx.setPipe, different]
  · intro other different
    simp only [Rx.recvResult]
    cases (testDstRecvNext rx.hal (rx.pipes index) dst status dst.swIndex).2.2 with
    | ok entry => exact Function.update_of_ne different _ _
    | error code => rfl
  · simp [held, RxLock.Taking]

theorem HostileInv.recvEnd (inv : HostileInv layout rx)
    {result : Except Int (Option Nat × UInt32)} {list : List Nat}
    (held : rx.lock = .recvDone index result)
    (rings : rx.rings index = some (dst, status))
    (doomed : ∀ other, rx.Doomed other → Rx.Doomed
      { rx.setDrain index (Rx.afterRecv list result) with
        hal := halSrngAccessEnd rx.hal status.halRingId.toNat
        lock := .free } other) :
    HostilePipes layout
      { rx.setDrain index (Rx.afterRecv list result) with
        hal := halSrngAccessEnd rx.hal status.halRingId.toNat
        lock := .free } := by
  have lock := inv.control.lock
  rw [LockInv, held] at lock
  obtain ⟨inRange, _⟩ := lock
  have at_ := inv.at_rings inRange rings
  have ready := at_.held.statusReady
  have direct := at_.held.statusDirect
  have dstSame := (agree_accessEnd ready direct at_.held.dstDirect at_.held.apart).same
  have view := dstView_accessEnd ready
  simp only [Rx.pipe, RxPipe.statusId] at view
  refine inv.onRing inRange (.inr at_.statusId_eq)
    (fun _ other different => agree_accessEnd ready direct other different)
    ⟨rfl, fun _ _ => rfl, fun _ _ => rfl, fun _ _ => rfl, ?_, fun _ _ _ _ _ => trivial⟩
    doomed ⟨rings, at_.dstId_eq, at_.statusId_eq, at_.held.of_same dstSame (same_accessEnd _),
      ?_, .inr ?_, trivial, at_.table.imp_left (doomed index)⟩
  · intro other different taking
    rw [held] at taking
    exact absurd taking.symm different
  · rw [view]
    exact at_.stands
  · rw [view]

end Receive

section Post

variable {layout : RxLayout} {rx : Rx} {index : Nat} {dst status : SrngTestRing}

theorem HostileInv.enqueueBegin (inv : HostileInv layout rx) {poster : Poster}
    (held : rx.lock = .postLoop poster index)
    (needed : (rx.pipes index).rxBufNeeded ≠ 0)
    (ring : (rx.pipes index).dstRing = some dst) (buffers : Buffers) (skb : Nat)
    (paddr : UInt64)
    (doomed : ∀ other, rx.Doomed other → Rx.Doomed
      { rx with
        buffers := buffers
        hal := halSrngAccessBegin rx.hal dst.halRingId.toNat
        lock := .enqueueBegun poster index skb paddr dst.writeIndex } other) :
    HostilePipes layout
      { rx with
        buffers := buffers
        hal := halSrngAccessBegin rx.hal dst.halRingId.toNat
        lock := .enqueueBegun poster index skb paddr dst.writeIndex } := by
  have lock := inv.control.lock
  rw [LockInv, held] at lock
  obtain ⟨status, at_⟩ := inv.at_dst lock.1 ring
  have tail := (@agree_accessBegin rx.hal _ _ at_.held.apart.symm).sameTail
  have notTaking : ∀ other, ¬ rx.lock.Taking other := by simp [held, RxLock.Taking]
  refine inv.onRing lock.1 (.inl at_.dstId_eq)
    (fun _ _ different => agree_accessBegin different)
    ⟨rfl, fun _ _ => rfl, fun _ _ => rfl, fun _ _ => rfl, ?_, ?_⟩ doomed
    (at_.frame rfl rfl rfl (same_accessBegin _) tail ?_ ?_ (doomed index))
  · exact fun other _ taking => absurd taking (notTaking other)
  · exact fun other _ _ different _ equal => absurd equal.symm different
  · exact fun taking => absurd taking (notTaking index)
  · exact fun _ _ => ⟨rfl, needed⟩

/-- The buffer goes into a free slot even when the device lies about its tail: the
count of needed buffers is the driver's own. -/
theorem HostileAt.enqueueStore (at_ : HostileAt layout rx index dst status)
    {poster : Poster} {skb : Nat} {paddr : UInt64}
    (held : rx.lock = .enqueueBegun poster index skb paddr dst.writeIndex)
    (needed : (rx.pipes index).rxBufNeeded ≠ 0)
    (doomed : rx.Doomed index → (rx.enqueueResult poster index skb paddr
      (testDstEnqueuePipe rx.hal (rx.pipes index) dst skb paddr dst.writeIndex)).Doomed
      index) :
    ∃ dst', HostileAt layout (rx.enqueueResult poster index skb paddr
      (testDstEnqueuePipe rx.hal (rx.pipes index) dst skb paddr dst.writeIndex)) index dst'
      status := by
  have notTaking : ¬ rx.lock.Taking index := by simp [held, RxLock.Taking]
  have published := at_.published.resolve_left notTaking
  obtain ⟨outcome, _⟩ | ⟨hal', desc, entry, outcome⟩ :=
    testDstEnqueuePipe_cases rx.hal (rx.pipes index) dst skb paddr dst.writeIndex
  · rw [outcome] at doomed ⊢
    refine ⟨dst, at_.frame ?_ ?_ rfl (.refl _) (.refl _ _) ?_ (fun _ => trivial) doomed⟩
    · simp [Rx.enqueueResult, Rx.setPipe]
    · rfl
    · exact fun taking => absurd taking notTaking
  · have agree := @agree_testDstEnqueuePipe rx.hal _ (rx.pipes index) dst skb paddr
      dst.writeIndex at_.held.apart.symm
    have dstSame := @same_srcGetNextEntry rx.hal dst.halRingId.toNat dst.halRingId.toNat
    rw [entry] at dstSame
    rw [outcome] at doomed agree ⊢
    have tail : SameTail rx.hal hal' status.halRingId.toNat := agree.sameTail
    have rings := at_.held.of_same dstSame tail.same
    refine ⟨dst.fill desc (testDstSetDesc paddr) skb dst.writeIndex,
      Rx.rings_enqueueResult_fill at_.rings _ _ _ _ _, at_.dstId_eq, at_.statusId_eq, ?_, ?_,
      .inr ?_, trivial, ?_⟩
    · rw [Rx.pipe_enqueueResult_fill]
      exact { rings with table := ⟨rings.table.nentries_eq, rings.table.mask_eq,
        rings.table.power⟩ }
    · have stands := at_.stands
      rw [← tail.tp] at stands
      exact stands
    · exact (tail.published.trans published).trans tail.tp.symm
    · refine at_.table.imp doomed fun side => ⟨?_, ?_⟩
      · rw [Rx.pipe_enqueueResult_fill]
        exact side.1.post at_.held.table needed side.2 desc skb paddr
      · have ordered := side.2
        simp only [Rx.enqueueResult, Rx.setPipe, if_true, Function.update_self,
          List.length_append, List.length_singleton]
        omega

theorem HostileInv.enqueueStore (inv : HostileInv layout rx) {poster : Poster} {skb : Nat}
    {paddr : UInt64} {writeIndex : UInt32}
    (held : rx.lock = .enqueueBegun poster index skb paddr writeIndex)
    (ring : (rx.pipes index).dstRing = some dst)
    (doomed : ∀ other, rx.Doomed other → (rx.enqueueResult poster index skb paddr
      (testDstEnqueuePipe rx.hal (rx.pipes index) dst skb paddr writeIndex)).Doomed other) :
    HostilePipes layout (rx.enqueueResult poster index skb paddr
      (testDstEnqueuePipe rx.hal (rx.pipes index) dst skb paddr writeIndex)) := by
  have lock := inv.control.lock
  rw [LockInv, held] at lock
  obtain ⟨status, at_⟩ := inv.at_dst lock.1 ring
  have known := at_.knows
  rw [held] at known
  obtain ⟨rfl, needed⟩ := known rfl
  obtain ⟨dst', own⟩ := at_.enqueueStore held needed (doomed index)
  refine inv.onRing lock.1 (.inl at_.dstId_eq)
    (fun _ _ different => agree_testDstEnqueuePipe _ _ _ _ _ different)
    ⟨rfl, ?_, ?_, fun _ _ => rfl, ?_, fun _ _ _ _ _ => trivial⟩ doomed own
  · intro other different
    simp [Rx.enqueueResult, Rx.setPipe, different]
  · intro other different
    simp only [Rx.enqueueResult]
    split
    · exact Function.update_of_ne different _ _
    · rfl
  · simp [held, RxLock.Taking]

/-- Both ways on from `access_end`: the next turn of the loop, or the way out. -/
theorem HostileInv.enqueueEnd {next : Rx} (inv : HostileInv layout rx)
    (doomed : ∀ index, rx.Doomed index → next.Doomed index) {poster : Poster} {skb : Nat}
    {paddr : UInt64} {ret : Int}
    (held : rx.lock = .enqueueDone poster index skb paddr ret)
    (ring : (rx.pipes index).dstRing = some dst)
    (hal : next.hal = halSrngAccessEnd rx.hal dst.halRingId.toNat)
    (same : SameTables rx next)
    (lock : next.lock = .postLoop poster index ∨ next.lock = .free) :
    HostilePipes layout next := by
  have at_ := inv.control.lock
  rw [LockInv, held] at at_
  obtain ⟨inRange, _⟩ := at_
  obtain ⟨status, at_⟩ := inv.at_dst inRange ring
  have ready := at_.held.dstReady
  have direct := at_.held.dstDirect
  have tail := (agree_accessEnd ready direct at_.held.statusDirect
    at_.held.apart.symm).sameTail
  have notTaking : ∀ other, ¬ rx.lock.Taking other := by simp [held, RxLock.Taking]
  have knows : ∀ other dst needed, next.lock.Knows other dst needed := by
    intro other dst needed
    rcases lock with lock | lock
    · rw [lock]
      trivial
    · rw [lock]
      trivial
  refine inv.onRing inRange (.inl at_.dstId_eq) ?_
    ⟨same.count, ?_, ?_, ?_, ?_, fun _ _ _ _ _ => knows _ _ _⟩ doomed
    (at_.frame ?_ ?_ ?_ ?_ ?_ ?_ (fun _ => knows _ _ _) (doomed index))
  · intro other otherDirect different
    rw [hal]
    exact agree_accessEnd ready direct otherDirect different
  · exact fun _ _ => by rw [same.pipes]
  · exact fun _ _ => by rw [same.enqueued]
  · exact fun _ _ => by rw [same.received]
  · exact fun other _ taking => absurd taking (notTaking other)
  · rw [same.pipes]
  · rw [same.enqueued]
  · rw [same.received]
  · rw [hal]
    exact same_accessEnd _
  · rw [hal]
    exact tail
  · exact fun taking => absurd taking (notTaking index)

end Post

/-! What the device writes, by the rules or against them. -/

section Device

variable {layout : RxLayout} {rx next : Rx} {index : Nat} {dst status : SrngTestRing}

/-- A word of shared memory is not where a driver keeps or publishes its tail. -/
theorem HostileInv.storeWord (inv : HostileInv layout rx)
    (doomed : ∀ index, rx.Doomed index → next.Doomed index) {id : Nat} {value : UInt32}
    (hal : next.hal = rx.hal.store (.rdp id) value) (same : SameTables rx next)
    (lock : next.lock = rx.lock) : HostilePipes layout next := by
  intro index inRange
  rw [same.count] at inRange
  obtain ⟨dst, status, at_⟩ := inv.pipes index inRange
  have published : (rx.hal.srngList status.halRingId.toNat).publishAddr ≠ .rdp id := by
    rw [show (rx.hal.srngList status.halRingId.toNat).publishAddr = _ from
      at_.held.statusDirect.publish]
    simp
  refine ⟨dst, status, at_.frame ?_ ?_ ?_ ?_ ⟨?_, ?_, ?_⟩ ?_ ?_ (doomed index)⟩
  · rw [same.pipes]
  · rw [same.enqueued]
  · rw [same.received]
  · rw [hal]
    exact Hal.same_store ..
  · rw [hal]
    exact Hal.same_store ..
  · rw [hal]
    simp only [Hal.dstView, Hal.srngList_store]
  · rw [hal]
    simp only [Hal.dstView, Hal.srngList_store]
    exact Hal.load_store_of_ne _ _ published
  · rw [lock]
    exact fun taking => taking
  · rw [lock]
    exact fun known => known

theorem HostileInv.storeTail (inv : HostileInv layout rx) (inRange : index < rx.pipesCount)
    (ring : (rx.pipes index).dstRing = some dst) :
    (rx.hal.srngList dst.halRingId.toNat).srcRing.tpAddr = .rdp dst.halRingId.toNat := by
  obtain ⟨status, at_⟩ := inv.at_dst inRange ring
  have dir : (rx.hal.srngList dst.halRingId.toNat).ringDir = .src :=
    at_.held.dstReady.dir_eq
  have shadow : (rx.hal.srngList dst.halRingId.toNat).shadowAddr =
    .rdp dst.halRingId.toNat := at_.held.dstDirect.shadow
  simp only [HalSrng.shadowAddr, dir] at shadow
  exact shadow

theorem HostileInv.storeHead (inv : HostileInv layout rx) (inRange : index < rx.pipesCount)
    (ring : (rx.pipes index).statusRing = some status) :
    (rx.hal.srngList status.halRingId.toNat).dstRing.hpAddr =
      .rdp status.halRingId.toNat := by
  obtain ⟨dst, at_⟩ := inv.at_status inRange ring
  have dir : (rx.hal.srngList status.halRingId.toNat).ringDir = .dst :=
    at_.held.statusReady.dir_eq
  have shadow : (rx.hal.srngList status.halRingId.toNat).shadowAddr =
    .rdp status.halRingId.toNat := at_.held.statusDirect.shadow
  simp only [HalSrng.shadowAddr, dir] at shadow
  exact shadow

theorem HostileInv.writeStatus (inv : HostileInv layout rx)
    (doomed : ∀ index, rx.Doomed index → next.Doomed index) (inRange : index < rx.pipesCount)
    (ring : (rx.pipes index).statusRing = some status) (mem : Nat → UInt32)
    (pipes : next.pipes = Function.update rx.pipes index
      { rx.pipes index with statusRing := some { status with mem := mem } })
    (hal : next.hal = rx.hal) (count : next.pipesCount = rx.pipesCount)
    (enqueued : next.enqueued = rx.enqueued) (received : next.received = rx.received)
    (lock : next.lock = rx.lock) : HostilePipes layout next := by
  obtain ⟨dst, at_⟩ := inv.at_status inRange ring
  have dstRing := (Rx.rings_eq_some.mp at_.rings).1
  have written : next.pipes index =
      { rx.pipes index with statusRing := some { status with mem := mem } } := by
    rw [pipes, Function.update_self]
  have own : HostileAt layout next index dst { status with mem := mem } := by
    refine ⟨?_, at_.dstId_eq, at_.statusId_eq, ?_, ?_, ?_, ?_, ?_⟩
    · rw [Rx.rings_eq_some, written]
      exact ⟨dstRing, rfl⟩
    · rw [hal]
      exact { at_.held with }
    · rw [hal]
      exact at_.stands
    · rw [hal, lock]
      exact at_.published
    · rw [lock, written]
      exact at_.knows
    · rw [enqueued, received]
      refine at_.table.imp (doomed index) fun side => ⟨?_, side.2⟩
      apply side.1.congr
      · rfl
      · simp only [Rx.pipe, written]
      · simp only [Rx.pipe, enqueued]
      · simp only [Rx.pipe, received]
  refine inv.onRing inRange (.inr at_.statusId_eq) ?_ ⟨count, ?_, ?_, ?_, ?_, ?_⟩ doomed own
  · intro other _ _
    rw [hal]
    exact .refl _ _
  · intro other different
    rw [pipes, Function.update_of_ne different]
  · exact fun _ _ => by rw [enqueued]
  · exact fun _ _ => by rw [received]
  · exact fun _ _ taking => by rw [lock]; exact taking
  · exact fun _ _ _ _ known => by rw [lock]; exact known

end Device

section Run

variable {layout : RxLayout} {rx next : Rx}

theorem HostileInv.step {event : Rx.Event} (inv : HostileInv layout rx)
    (stepped : Rx.Step rx event next) (live : next.live = true) : HostileInv layout next := by
  have doomed : ∀ index, rx.Doomed index → next.Doomed index :=
    fun _ doomed => doomed.step inv.control.lock stepped
  have lock := inv.control.lock
  rw [LockInv] at lock
  refine ⟨?_, ?_, inv.control.step stepped,
    inv.blank.step inv.control.receiving_lt stepped live⟩
  · rw [stepped.pipesCount_eq]
    exact inv.apart
  cases stepped with
  | recvBegin free receiving rings => exact inv.recvBegin free receiving rings doomed
  | recvTake held rings => exact inv.recvTake held rings doomed
  | recvEnd held receiving rings => exact inv.recvEnd held rings doomed
  | enqueueBegin held needed ring => exact inv.enqueueBegin held needed ring _ _ _ doomed
  | enqueueStore held ring => exact inv.enqueueStore held ring doomed
  | enqueueEnd held ring =>
      exact inv.enqueueEnd doomed held ring rfl ⟨rfl, rfl, rfl, rfl⟩ (.inl rfl)
  | @enqueueUndo poster _ _ _ _ _ held failed ring =>
      cases poster <;>
        exact inv.enqueueEnd doomed held ring rfl ⟨rfl, rfl, rfl, rfl⟩ (.inr rfl)
  | deviceStoreTail inRange ring =>
      exact inv.storeWord doomed (by rw [inv.storeTail inRange ring]) ⟨rfl, rfl, rfl, rfl⟩ rfl
  | deviceReport inRange ring nonzero allowed =>
      exact inv.writeStatus doomed inRange ring _ rfl rfl rfl rfl rfl rfl
  | deviceStoreHead inRange ring =>
      exact inv.storeWord doomed (by rw [inv.storeHead inRange ring]) ⟨rfl, rfl, rfl, rfl⟩ rfl
  | deinit => contradiction
  | drainLock _ free | postBufLock _ free =>
      refine inv.still doomed ⟨rfl, rfl, rfl, rfl⟩ rfl ?_ (fun _ _ _ _ => trivial)
      simp [free, RxLock.Taking]
  | @postBufNull timer | @postBufWait timer | @postBufDone timer | @postBufOn timer
  | @postBufStop timer =>
      cases timer <;> exact inv.still doomed ⟨rfl, rfl, rfl, rfl⟩ rfl (fun _ taking => taking)
        (fun _ _ _ known => known)
  | @postDone poster _ _ _ held | @postNoMemory poster _ _ held
  | @postUnmapped poster _ _ held =>
      have notTaking : ∀ index, ¬ rx.lock.Taking index := by simp [held, RxLock.Taking]
      cases poster <;> exact inv.still doomed ⟨rfl, rfl, rfl, rfl⟩ rfl
        (fun _ taking => absurd taking (notTaking _)) (fun _ _ _ _ => trivial)
  | _ =>
      exact inv.still doomed ⟨rfl, rfl, rfl, rfl⟩ rfl (fun _ taking => taking)
        (fun _ _ _ known => known)

theorem HostileInv.hostileStep {event : Rx.HostileEvent} (inv : HostileInv layout rx)
    (stepped : rx.hostileStep event = some next) (live : next.live = true) :
    HostileInv layout next := by
  cases event with
  | module event => exact inv.step (Rx.step_cases stepped).2 live
  | storeWord id value =>
      cases stepped
      exact ⟨inv.apart, inv.storeWord (fun _ doomed => doomed) rfl ⟨rfl, rfl, rfl, rfl⟩ rfl,
        inv.control.congr rfl rfl rfl rfl rfl,
        inv.blank.setAside _ (Nat.le_refl _) fun _ _ => rfl⟩
  | storeStatus index address value =>
      simp only [Rx.hostileStep] at stepped
      split at stepped
      next inRange =>
          unfold Rx.storeStatus at stepped
          split at stepped
          next => contradiction
          next ring =>
              cases stepped
              exact ⟨inv.apart, inv.writeStatus (fun _ doomed => doomed) inRange ring _ rfl
                rfl rfl rfl rfl rfl, inv.control.congr rfl rfl rfl rfl rfl,
                inv.blank.writeStatus index _⟩
      next => contradiction

theorem Rx.live_of_hostileStep {event : HostileEvent} (stepped : rx.hostileStep event = some next)
    (live : next.live = true) : rx.live = true := by
  cases event with
  | module event => exact (Rx.step_cases stepped).1
  | storeWord id value =>
      cases stepped
      exact live
  | storeStatus index address value =>
      simp only [hostileStep] at stepped
      split at stepped
      next =>
          unfold storeStatus at stepped
          split at stepped
          next => contradiction
          next =>
              cases stepped
              exact live
      next => contradiction

theorem HostileInv.run {events : List Rx.HostileEvent} {start final : Rx}
    (reached : run Rx.hostileStep start events = some final) (inv : HostileInv layout start)
    (live : final.live = true) : HostileInv layout final := by
  induction events using List.reverseRecOn generalizing final with
  | nil =>
      cases reached
      exact inv
  | append_singleton events event ih =>
      obtain ⟨middle, before, stepped⟩ := run_concat_eq_some.mp reached
      exact (ih before (Rx.live_of_hostileStep stepped live)).hostileStep stepped live

theorem HostileInv.start {hal hal' : Hal} {count : Nat} {memory : Nat → Fin 3 → RingMemory}
    {attrs : Nat → SrngTestAttr} {pipes : Nat → SrngTestPipe}
    (table : RxTable hal.srngConfig)
    (twoLe : ∀ index, index < count →
      2 ≤ (ringEntries (attrs index).destNentries).toNat)
    (done : dstTestSetup hal count memory attrs = (hal', pipes, none)) :
    HostileInv (rxLayout hal.srngConfig attrs) (.start hal' count pipes) := by
  have inv := RxInv.start table twoLe done
  refine ⟨inv.apart, ?_, inv.control, inv.blank⟩
  intro index below
  obtain ⟨_, dst, status, at_, published, _⟩ := dstTestSetup_placed table twoLe done index below
  have atTp := at_.inv.sink.atTp
  refine ⟨dst, status, at_.rings, at_.dstId_eq, at_.statusId_eq, at_.inv.rings, ⟨_, atTp⟩,
    .inr ?_, trivial, .inr ⟨at_.inv.table, Nat.le_refl 0⟩⟩
  rw [show (Rx.start hal' count pipes).hal = hal' from rfl, published]
  have zero : StandsAt ((rxLayout hal.srngConfig attrs).entries index) 2 0 0 := .zero _ _
  exact UInt32.toNat_inj.mp (zero.trans atTp.symm)

end Run

end WirelessSimu
