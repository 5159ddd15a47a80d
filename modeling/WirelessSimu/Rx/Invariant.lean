import WirelessSimu.Rx.Blank
import WirelessSimu.Rx.Pipe

namespace WirelessSimu

open Data Kernel

/-! The invariant of the receive module: every pipe is in order, and the holder of
the lock is where the lock says it is. -/

structure RxLayout where
  entries : Nat → Nat
  dstId : Nat → Nat
  statusId : Nat → Nat

structure RxLayout.Apart (layout : RxLayout) (count : Nat) : Prop where
  dst : ∀ first second, first < count → second < count → first ≠ second →
    layout.dstId first ≠ layout.dstId second
  status : ∀ first second, first < count → second < count → first ≠ second →
    layout.statusId first ≠ layout.statusId second
  cross : ∀ first second, first < count → second < count →
    layout.dstId first ≠ layout.statusId second

/-- The rings of a pipe are none of another's. -/
theorem RxLayout.Apart.off_ring {layout : RxLayout} {count index other id : Nat}
    (apart : layout.Apart count) (inRange : index < count) (otherRange : other < count)
    (different : other ≠ index)
    (mine : id = layout.dstId index ∨ id = layout.statusId index) :
    layout.dstId other ≠ id ∧ layout.statusId other ≠ id := by
  rcases mine with rfl | rfl
  · exact ⟨apart.dst other index otherRange inRange different,
      (apart.cross index other inRange otherRange).symm⟩
  · exact ⟨apart.cross other index otherRange inRange,
      apart.status other index otherRange inRange different⟩

namespace Rx

def pipe (rx : Rx) (index : Nat) (dst status : SrngTestRing) : RxPipe where
  dst := dst
  status := status
  needed := (rx.pipes index).rxBufNeeded
  device := rx.devices index
  enqueued := rx.enqueued index
  received := rx.received index

section Result

variable {rx : Rx} {index : Nat} {dst status : SrngTestRing}

theorem recvResult_error (hal : Hal) (code : Int) :
    rx.recvResult index (hal, rx.pipes index, .error code) =
      { rx with hal := hal, lock := .recvDone index (.error code) } := by
  rw [recvResult, setPipe, Function.update_eq_self]

theorem rings_recvResult_take (rings : rx.rings index = some (dst, status)) (hal : Hal)
    (swIndex : UInt32) (entry : Option Nat × UInt32) :
    (rx.recvResult index (hal, (rx.pipes index).take dst swIndex, .ok entry)).rings index =
      some (dst.take swIndex, status) := by
  obtain ⟨_, statusRing⟩ := rings_eq_some.mp rings
  rw [rings_eq_some]
  simp [recvResult, setPipe, SrngTestPipe.take, statusRing]

theorem pipe_recvResult_take (hal : Hal) (swIndex : UInt32) (entry : Option Nat × UInt32) :
    (rx.recvResult index (hal, (rx.pipes index).take dst swIndex, .ok entry)).pipe index
        (dst.take swIndex) status =
      (rx.pipe index dst status).receive swIndex entry := by
  simp [pipe, recvResult, setPipe, RxPipe.receive, SrngTestPipe.take]

theorem rings_enqueueResult_fill (rings : rx.rings index = some (dst, status)) (hal : Hal)
    (poster : Poster) (skb : Nat) (paddr : UInt64) (desc : Nat) :
    (rx.enqueueResult poster index skb paddr (hal,
        (rx.pipes index).fill dst desc (testDstSetDesc paddr) skb dst.writeIndex,
        0)).rings index =
      some (dst.fill desc (testDstSetDesc paddr) skb dst.writeIndex, status) := by
  obtain ⟨_, statusRing⟩ := rings_eq_some.mp rings
  rw [rings_eq_some]
  simp [enqueueResult, setPipe, SrngTestPipe.fill, statusRing]

theorem pipe_enqueueResult_fill (hal : Hal) (poster : Poster) (skb : Nat) (paddr : UInt64)
    (desc : Nat) :
    (rx.enqueueResult poster index skb paddr (hal,
        (rx.pipes index).fill dst desc (testDstSetDesc paddr) skb dst.writeIndex,
        0)).pipe index (dst.fill desc (testDstSetDesc paddr) skb dst.writeIndex) status =
      (rx.pipe index dst status).post desc skb paddr := by
  simp [pipe, enqueueResult, setPipe, RxPipe.post, SrngTestPipe.fill]

end Result

end Rx

/-- What the holder of the lock knows about the pipe it works on. -/
def RxLock.Claim (index : Nat) (pipe : RxPipe) (counts : RxCounts) : RxLock → Prop
  | .recvBegun held swIndex => held = index → swIndex = pipe.dst.swIndex
  | .recvDone held result => held = index →
      (∃ code, result = .error code ∧ pipe.received.length = counts.cachedHead) ∨
      ∃ skb nbytes, result = .ok (some skb, nbytes) ∧
        pipe.received.getLast? = some (some skb, nbytes)
  | .enqueueBegun _ held _ _ writeIndex => held = index →
      writeIndex = pipe.dst.writeIndex ∧ pipe.needed ≠ 0 ∧
        pipe.received.length ≤ counts.progress.cached
  | .enqueueDone _ held skb paddr ret => held = index →
      ret = 0 ∧ pipe.enqueued.getLast? = some (skb, paddr)
  | _ => True

theorem RxLock.Claim.congr {lock : RxLock} {index : Nat} {pipe pipe' : RxPipe}
    {counts counts' : RxCounts} (claim : lock.Claim index pipe counts)
    (dst : pipe'.dst = pipe.dst) (needed : pipe'.needed = pipe.needed)
    (enqueued : pipe'.enqueued = pipe.enqueued)
    (received : pipe'.received = pipe.received)
    (cached : counts'.progress.cached = counts.progress.cached)
    (cachedHead : counts'.cachedHead = counts.cachedHead) :
    lock.Claim index pipe' counts' := by
  cases lock <;> simp only [Claim, dst, needed, enqueued, received, cached, cachedHead]
  all_goals exact claim

structure PipeAt (layout : RxLayout) (rx : Rx) (index : Nat)
    (dst status : SrngTestRing) (counts : RxCounts) : Prop where
  rings : rx.rings index = some (dst, status)
  dstId_eq : dst.halRingId.toNat = layout.dstId index
  statusId_eq : status.halRingId.toNat = layout.statusId index
  inv : PipeInv (layout.entries index) rx.hal (rx.pipe index dst status) counts
  claim : rx.lock.Claim index (rx.pipe index dst status) counts

def PosterAt (rx : Rx) (index : Nat) : Poster → Prop
  | .init => rx.initPost = .wait index
  | .timer => rx.timerPost = .wait index
  | .drain pipe => pipe = index ∧ rx.drains index = .wait

def LockInv (rx : Rx) : Prop :=
  match rx.lock with
  | .free => True
  | .recvBegun index _ | .recvDone index _ =>
      index < rx.pipesCount ∧ ∃ list, rx.drains index = .recv list
  | .postLoop poster index | .enqueueBegun poster index _ _ _
  | .enqueueDone poster index _ _ _ =>
      index < rx.pipesCount ∧ PosterAt rx index poster

structure RxInv (layout : RxLayout) (rx : Rx) : Prop where
  apart : layout.Apart rx.pipesCount
  pipes : ∀ index, index < rx.pipesCount →
    ∃ dst status counts, PipeAt layout rx index dst status counts
  drains_lt : ∀ index, rx.drains index ≠ .idle → index < rx.pipesCount
  waits_lt : ∀ timer index, rx.postBuf timer = .wait index → index < rx.pipesCount
  lock : LockInv rx
  blank : rx.BlankHeld

/-- Every pipe is in order. -/
def PipesAt (layout : RxLayout) (rx : Rx) : Prop :=
  ∀ index, index < rx.pipesCount →
    ∃ dst status counts, PipeAt layout rx index dst status counts

section Control

variable {rx next : Rx}

theorem LockInv.mono (inv : LockInv rx) (sameLock : next.lock = rx.lock)
    (sameCount : next.pipesCount = rx.pipesCount)
    (recv : ∀ index list, rx.drains index = .recv list →
      ∃ list, next.drains index = .recv list)
    (wait : ∀ index, rx.drains index = .wait → next.drains index = .wait)
    (walks : ∀ timer index, rx.postBuf timer = .wait index →
      next.postBuf timer = .wait index) : LockInv next := by
  have poster : ∀ index poster, PosterAt rx index poster → PosterAt next index poster := by
    intro index who
    cases who with
    | init => exact walks false index
    | timer => exact walks true index
    | drain pipe => exact fun at_ => ⟨at_.1, wait index at_.2⟩
  unfold LockInv at inv ⊢
  rw [sameLock, sameCount]
  cases held : rx.lock with
  | free => trivial
  | recvBegun index swIndex =>
      rw [held] at inv
      obtain ⟨inRange, list, receiving⟩ := inv
      exact ⟨inRange, recv index list receiving⟩
  | recvDone index result =>
      rw [held] at inv
      obtain ⟨inRange, list, receiving⟩ := inv
      exact ⟨inRange, recv index list receiving⟩
  | postLoop who index =>
      rw [held] at inv
      exact ⟨inv.1, poster index who inv.2⟩
  | enqueueBegun who index skb paddr writeIndex =>
      rw [held] at inv
      exact ⟨inv.1, poster index who inv.2⟩
  | enqueueDone who index skb paddr ret =>
      rw [held] at inv
      exact ⟨inv.1, poster index who inv.2⟩

theorem LockInv.setDrain (inv : LockInv rx) {index : Nat}
    (notRecv : ∀ list, rx.drains index ≠ .recv list)
    (notWait : rx.drains index ≠ .wait) (drain : Drain) :
    LockInv (rx.setDrain index drain) := by
  have other : ∀ {held : Nat} {state : Drain}, rx.drains held = state →
      state ≠ rx.drains index →
      (rx.setDrain index drain).drains held = state := by
    intro held state at_ different
    have apart : held ≠ index := by
      rintro rfl
      exact different at_.symm
    simp only [Rx.setDrain, Function.update_of_ne apart]
    exact at_
  exact inv.mono rfl rfl
    (fun held list at_ => ⟨list, other at_ (notRecv list).symm⟩)
    (fun held at_ => other at_ notWait.symm) (fun _ _ at_ => at_)

theorem Rx.postBuf_setPostBuf (timer other : Bool) (walk : PostBuf) :
    (rx.setPostBuf timer walk).postBuf other =
      if other = timer then walk else rx.postBuf other := by
  cases timer <;> cases other <;> rfl

theorem LockInv.setPostBuf (inv : LockInv rx) {timer : Bool}
    (notWaiting : ∀ index, rx.postBuf timer ≠ .wait index) (walk : PostBuf) :
    LockInv (rx.setPostBuf timer walk) := by
  refine inv.mono (by simp) (by simp) ?_ ?_ ?_
  · exact fun _ list at_ => ⟨list, by rw [Rx.drains_setPostBuf]; exact at_⟩
  · exact fun _ at_ => by rw [Rx.drains_setPostBuf]; exact at_
  · intro other index waiting
    have apart : other ≠ timer := by
      rintro rfl
      exact notWaiting index waiting
    rw [Rx.postBuf_setPostBuf, if_neg apart]
    exact waiting

end Control

/-! The control part moves on by itself, whether the pipes have their rings or not. -/

structure ControlInv (rx : Rx) : Prop where
  drains_lt : ∀ index, rx.drains index ≠ .idle → index < rx.pipesCount
  waits_lt : ∀ timer index, rx.postBuf timer = .wait index → index < rx.pipesCount
  lock : LockInv rx

namespace ControlInv

variable {rx next : Rx} {event : Rx.Event} {index : Nat}

theorem congr (inv : ControlInv rx) (drains : next.drains = rx.drains)
    (init : next.initPost = rx.initPost) (timer : next.timerPost = rx.timerPost)
    (count : next.pipesCount = rx.pipesCount) (lock : next.lock = rx.lock) :
    ControlInv next where
  drains_lt := by
    rw [drains, count]
    exact inv.drains_lt
  waits_lt := by
    rw [count]
    simp only [Rx.postBuf, init, timer]
    exact inv.waits_lt
  lock := by
    refine inv.lock.mono lock count ?_ ?_ ?_
    · exact fun index list at_ => ⟨list, by rw [drains]; exact at_⟩
    · exact fun index at_ => by rw [drains]; exact at_
    · intro who index at_
      simp only [Rx.postBuf, init, timer]
      exact at_

theorem drains_set (inv : ControlInv rx) (inRange : index < rx.pipesCount)
    (drain : Drain) :
    ∀ other, Function.update rx.drains index drain other ≠ .idle →
      other < rx.pipesCount := by
  intro other busy
  by_cases same : other = index
  · rw [same]
    exact inRange
  · rw [Function.update_of_ne same] at busy
    exact inv.drains_lt other busy

theorem waits_set (inv : ControlInv rx) (timer : Bool) {walk : PostBuf}
    (inRange : ∀ index, walk = .wait index → index < rx.pipesCount) :
    ∀ other index, (rx.setPostBuf timer walk).postBuf other = .wait index →
      index < rx.pipesCount := by
  intro other index waiting
  rw [Rx.postBuf_setPostBuf] at waiting
  split at waiting
  next => exact inRange index waiting
  next => exact inv.waits_lt other index waiting

theorem setDrain (inv : ControlInv rx) {drain : Drain} (at_ : rx.drains index = drain)
    (busy : drain ≠ .idle) (notRecv : ∀ list, drain ≠ .recv list)
    (notWait : drain ≠ .wait) (after : Drain) : ControlInv (rx.setDrain index after) where
  drains_lt := inv.drains_set (inv.drains_lt index (by rw [at_]; exact busy)) after
  waits_lt := inv.waits_lt
  lock := by
    subst at_
    exact inv.lock.setDrain notRecv notWait after

theorem setPostBuf (inv : ControlInv rx) {timer : Bool}
    (notWaiting : ∀ index, rx.postBuf timer ≠ .wait index) (walk : PostBuf)
    (inRange : ∀ index, walk = .wait index → index < rx.pipesCount) :
    ControlInv (rx.setPostBuf timer walk) where
  drains_lt := by
    rw [Rx.drains_setPostBuf, Rx.pipesCount_setPostBuf]
    exact inv.drains_lt
  waits_lt := by
    rw [Rx.pipesCount_setPostBuf]
    exact inv.waits_set timer inRange
  lock := inv.lock.setPostBuf notWaiting walk

/-- The step hands the lock from one stage of the poster to the next. -/
theorem posting (inv : ControlInv rx) {poster : Poster} (inRange : index < rx.pipesCount)
    (at_ : PosterAt rx index poster) (sameDrains : next.drains = rx.drains)
    (sameInit : next.initPost = rx.initPost) (sameTimer : next.timerPost = rx.timerPost)
    (sameCount : next.pipesCount = rx.pipesCount)
    (lock : next.lock = .postLoop poster index ∨
      (∃ skb paddr writeIndex,
        next.lock = .enqueueBegun poster index skb paddr writeIndex) ∨
      ∃ skb paddr ret, next.lock = .enqueueDone poster index skb paddr ret) :
    ControlInv next where
  drains_lt := by
    rw [sameDrains, sameCount]
    exact inv.drains_lt
  waits_lt := by
    rw [sameCount]
    simp only [Rx.postBuf, sameInit, sameTimer]
    exact inv.waits_lt
  lock := by
    have kept : index < next.pipesCount ∧ PosterAt next index poster := by
      refine ⟨by rw [sameCount]; exact inRange, ?_⟩
      cases poster with
      | init => exact sameInit.trans at_
      | timer => exact sameTimer.trans at_
      | drain pipe => exact ⟨at_.1, by rw [sameDrains]; exact at_.2⟩
    rw [LockInv]
    obtain held | ⟨_, _, _, held⟩ | ⟨_, _, _, held⟩ := lock
    · rw [held]
      exact kept
    · rw [held]
      exact kept
    · rw [held]
      exact kept

theorem postExit (inv : ControlInv rx) {poster : Poster} (inRange : index < rx.pipesCount)
    (at_ : PosterAt rx index poster) (ret : Int) :
    ControlInv (rx.postExit poster index ret) := by
  cases poster with
  | init => exact ⟨inv.drains_lt, inv.waits_set false (by simp), trivial⟩
  | timer => exact ⟨inv.drains_lt, inv.waits_set true (by simp), trivial⟩
  | drain pipe =>
      obtain ⟨rfl, _⟩ := at_
      exact ⟨inv.drains_set inRange _, inv.waits_lt, trivial⟩

theorem step (inv : ControlInv rx) (stepped : Rx.Step rx event next) :
    ControlInv next := by
  have lock := inv.lock
  rw [LockInv] at lock
  cases stepped with
  | drainStart inRange idle =>
      exact ⟨inv.drains_set inRange _, inv.waits_lt,
        inv.lock.setDrain (by simp [idle]) (by simp [idle]) _⟩
  | recvBegin free receiving rings =>
      exact ⟨inv.drains_lt, inv.waits_lt, inv.drains_lt _ (by rw [receiving]; simp), _,
        receiving⟩
  | recvTake held rings =>
      rw [held] at lock
      exact ⟨inv.drains_lt, inv.waits_lt, lock⟩
  | recvEnd held receiving rings =>
      rw [held] at lock
      exact ⟨inv.drains_set lock.1 _, inv.waits_lt, trivial⟩
  | drainOverlong took long =>
      exact (inv.setDrain took (by simp) (by simp) (by simp) _).congr rfl rfl rfl rfl rfl
  | drainKeep took fits put =>
      exact (inv.setDrain took (by simp) (by simp) (by simp) _).congr rfl rfl rfl rfl rfl
  | flushOne flushing =>
      exact (inv.setDrain flushing (by simp) (by simp) (by simp) _).congr rfl rfl rfl rfl rfl
  | flushDone flushing => exact inv.setDrain flushing (by simp) (by simp) (by simp) _
  | drainPostNull posting _ | drainPost posting _ =>
      exact inv.setDrain posting (by simp) (by simp) (by simp) _
  | drainLock waiting free =>
      have inRange := inv.drains_lt _ (by rw [waiting]; simp)
      have at_ : PosterAt rx _ (.drain _) := ⟨rfl, waiting⟩
      exact inv.posting inRange at_ rfl rfl rfl rfl (.inl rfl)
  | drainReturn posted =>
      exact (inv.setDrain posted (by simp) (by simp) (by simp) _).congr rfl rfl rfl rfl rfl
  | timerFire armed idle =>
      have moved := @setPostBuf _ inv true (by simp [Rx.postBuf, idle]) (.next 0) (by simp)
      exact moved.congr rfl rfl rfl rfl rfl
  | postBufNull walking inRange missing => exact inv.setPostBuf (by simp [walking]) _ (by simp)
  | @postBufWait timer index rings walking inRange found =>
      refine inv.setPostBuf (by simp [walking]) _ ?_
      rintro other ⟨⟩
      exact inRange
  | @postBufLock timer index waiting free =>
      have at_ : PosterAt rx index (if timer then .timer else .init) := by
        cases timer <;> exact waiting
      exact inv.posting (inv.waits_lt timer index waiting) at_ rfl rfl rfl rfl (.inl rfl)
  | postBufDone walking last => exact inv.setPostBuf (by simp [walking]) _ (by simp)
  | postBufOn posted mild => exact inv.setPostBuf (by simp [posted]) _ (by simp)
  | @postBufStop timer _ _ posted failed =>
      have moved := @setPostBuf _ inv timer (by simp [posted]) .idle (by simp)
      exact moved.congr rfl rfl rfl rfl rfl
  | postDone held full | postNoMemory held needed =>
      rw [held] at lock
      exact inv.postExit lock.1 lock.2 _
  | @postUnmapped poster _ _ held needed =>
      rw [held] at lock
      apply postExit
      · exact inv.congr rfl rfl rfl rfl rfl
      · exact lock.1
      · cases poster <;> exact lock.2
  | enqueueBegin held needed ring =>
      rw [held] at lock
      exact inv.posting lock.1 lock.2 rfl rfl rfl rfl (.inr (.inl ⟨_, _, _, rfl⟩))
  | enqueueStore held ring =>
      rw [held] at lock
      exact inv.posting lock.1 lock.2 rfl rfl rfl rfl (.inr (.inr ⟨_, _, _, rfl⟩))
  | enqueueEnd held ring =>
      rw [held] at lock
      exact inv.posting lock.1 lock.2 rfl rfl rfl rfl (.inl rfl)
  | @enqueueUndo poster _ _ _ _ _ held failed ring =>
      rw [held] at lock
      apply postExit
      · exact inv.congr rfl rfl rfl rfl rfl
      · exact lock.1
      · cases poster <;> exact lock.2
  | deviceConsume | deviceStoreTail | deviceReport | deviceStoreHead | deinit =>
      exact inv.congr rfl rfl rfl rfl rfl

theorem start (hal : Hal) (count : Nat) (pipes : Nat → SrngTestPipe) :
    ControlInv (.start hal count pipes) where
  drains_lt := fun _ busy => absurd rfl busy
  waits_lt := by
    intro timer index waiting
    cases timer <;> cases waiting
  lock := trivial

theorem receiving_lt (inv : ControlInv rx) (index : Nat) (swIndex : UInt32)
    (held : rx.lock = .recvBegun index swIndex) : index < rx.pipesCount := by
  have lock := inv.lock
  rw [LockInv, held] at lock
  exact lock.1

end ControlInv

section Pipes

variable {layout : RxLayout} {rx next : Rx} {index : Nat} {dst status : SrngTestRing}
  {counts : RxCounts}

/-- A pipe that a step does not touch. -/
theorem PipeAt.frame (at_ : PipeAt layout rx index dst status counts)
    (samePipe : next.pipes index = rx.pipes index)
    (sameDevice : next.devices index = rx.devices index)
    (sameEnqueued : next.enqueued index = rx.enqueued index)
    (sameReceived : next.received index = rx.received index)
    (dstAgree : Agree rx.hal next.hal (layout.dstId index))
    (statusAgree : Agree rx.hal next.hal (layout.statusId index))
    (claim : ∀ pipe, rx.lock.Claim index pipe counts →
      next.lock.Claim index pipe counts) :
    PipeAt layout next index dst status counts := by
  have same : next.pipe index dst status = rx.pipe index dst status := by
    simp only [Rx.pipe, samePipe, sameDevice, sameEnqueued, sameReceived]
  refine ⟨?_, at_.dstId_eq, at_.statusId_eq, ?_, ?_⟩
  · have rings := at_.rings
    rw [Rx.rings_eq_some] at rings ⊢
    rw [samePipe]
    exact rings
  · rw [same]
    rw [← at_.dstId_eq] at dstAgree
    rw [← at_.statusId_eq] at statusAgree
    exact at_.inv.of_agree dstAgree statusAgree
  · rw [same]
    exact claim _ at_.claim

/-- What a step on the pipe `index` leaves alone. -/
structure Elsewhere (rx next : Rx) (index : Nat) : Prop where
  count : next.pipesCount = rx.pipesCount
  pipes : ∀ other, other ≠ index → next.pipes other = rx.pipes other
  devices : ∀ other, other ≠ index → next.devices other = rx.devices other
  enqueued : ∀ other, other ≠ index → next.enqueued other = rx.enqueued other
  received : ∀ other, other ≠ index → next.received other = rx.received other
  claim : ∀ other pipe counts, other ≠ index →
    rx.lock.Claim other pipe counts → next.lock.Claim other pipe counts

theorem RxInv.still (inv : RxInv layout rx)
    (count : next.pipesCount = rx.pipesCount) (hal : next.hal = rx.hal)
    (pipes : next.pipes = rx.pipes) (devices : next.devices = rx.devices)
    (enqueued : next.enqueued = rx.enqueued) (received : next.received = rx.received)
    (claim : ∀ index pipe counts, rx.lock.Claim index pipe counts →
      next.lock.Claim index pipe counts) : PipesAt layout next := by
  intro index inRange
  rw [count] at inRange
  obtain ⟨dst, status, counts, at_⟩ := inv.pipes index inRange
  refine ⟨dst, status, counts, at_.frame ?_ ?_ ?_ ?_ ?_ ?_ fun pipe =>
    claim index pipe counts⟩
  · rw [pipes]
  · rw [devices]
  · rw [enqueued]
  · rw [received]
  · rw [hal]
    exact .refl _ _
  · rw [hal]
    exact .refl _ _

theorem PipeAt.dstRing (at_ : PipeAt layout rx index dst status counts) :
    (rx.pipes index).dstRing = some dst :=
  (Rx.rings_eq_some.mp at_.rings).1

theorem PipeAt.statusRing (at_ : PipeAt layout rx index dst status counts) :
    (rx.pipes index).statusRing = some status :=
  (Rx.rings_eq_some.mp at_.rings).2

theorem PipeAt.dstDirect (at_ : PipeAt layout rx index dst status counts) :
    RingDirect rx.hal (layout.dstId index) := by
  rw [← at_.dstId_eq]
  exact at_.inv.rings.dstDirect

theorem PipeAt.statusDirect (at_ : PipeAt layout rx index dst status counts) :
    RingDirect rx.hal (layout.statusId index) := by
  rw [← at_.statusId_eq]
  exact at_.inv.rings.statusDirect

theorem PipeAt.tpAddr_eq (at_ : PipeAt layout rx index dst status counts) :
    (rx.hal.srngList dst.halRingId.toNat).srcRing.tpAddr =
      (rx.hal.srngList dst.halRingId.toNat).shadowAddr := by
  have dir : (rx.hal.srngList dst.halRingId.toNat).ringDir = .src :=
    at_.inv.rings.dstReady.dir_eq
  simp only [HalSrng.shadowAddr, dir]

theorem PipeAt.hpAddr_eq (at_ : PipeAt layout rx index dst status counts) :
    (rx.hal.srngList status.halRingId.toNat).dstRing.hpAddr =
      (rx.hal.srngList status.halRingId.toNat).shadowAddr := by
  have dir : (rx.hal.srngList status.halRingId.toNat).ringDir = .dst :=
    at_.inv.rings.statusReady.dir_eq
  simp only [HalSrng.shadowAddr, dir]

theorem RxInv.at_rings (inv : RxInv layout rx) (inRange : index < rx.pipesCount)
    (rings : rx.rings index = some (dst, status)) :
    ∃ counts, PipeAt layout rx index dst status counts := by
  obtain ⟨dst', status', counts, at_⟩ := inv.pipes index inRange
  rw [at_.rings] at rings
  cases rings
  exact ⟨counts, at_⟩

theorem RxInv.at_dst (inv : RxInv layout rx) (inRange : index < rx.pipesCount)
    (ring : (rx.pipes index).dstRing = some dst) :
    ∃ status counts, PipeAt layout rx index dst status counts := by
  obtain ⟨dst', status, counts, at_⟩ := inv.pipes index inRange
  rw [at_.dstRing] at ring
  cases ring
  exact ⟨status, counts, at_⟩

theorem RxInv.at_status (inv : RxInv layout rx) (inRange : index < rx.pipesCount)
    (ring : (rx.pipes index).statusRing = some status) :
    ∃ dst counts, PipeAt layout rx index dst status counts := by
  obtain ⟨dst, status', counts, at_⟩ := inv.pipes index inRange
  rw [at_.statusRing] at ring
  cases ring
  exact ⟨dst, counts, at_⟩

end Pipes

/-- A step of the driver or the device on the ring `id` of the pipe `index`. -/
theorem RxInv.onRing {layout : RxLayout} {rx next : Rx} {index id : Nat}
    {dst status : SrngTestRing} {counts : RxCounts}
    (inv : RxInv layout rx) (inRange : index < rx.pipesCount)
    (mine : id = layout.dstId index ∨ id = layout.statusId index)
    (agree : ∀ other, RingDirect rx.hal other → other ≠ id →
      Agree rx.hal next.hal other)
    (elsewhere : Elsewhere rx next index)
    (own : PipeAt layout next index dst status counts) : PipesAt layout next := by
  intro other otherRange
  rw [elsewhere.count] at otherRange
  by_cases same : other = index
  · subst same
    exact ⟨_, _, _, own⟩
  · obtain ⟨dst, status, counts, at_⟩ := inv.pipes other otherRange
    obtain ⟨dstApart, statusApart⟩ := inv.apart.off_ring inRange otherRange same mine
    exact ⟨dst, status, counts, at_.frame (elsewhere.pipes other same)
      (elsewhere.devices other same) (elsewhere.enqueued other same)
      (elsewhere.received other same) (agree _ at_.dstDirect dstApart)
      (agree _ at_.statusDirect statusApart)
      fun pipe => elsewhere.claim other pipe counts same⟩

/-! One lemma for each step that works on a ring. -/

section Steps

variable {layout : RxLayout} {rx : Rx} {index : Nat} {dst status : SrngTestRing}

theorem RxInv.recvBegin (inv : RxInv layout rx) {list : List Nat}
    (receiving : rx.drains index = .recv list)
    (rings : rx.rings index = some (dst, status)) :
    PipesAt layout
      { rx with
        hal := halSrngAccessBegin rx.hal status.halRingId.toNat
        lock := .recvBegun index dst.swIndex } := by
  have inRange := inv.drains_lt index (by rw [receiving]; simp)
  obtain ⟨counts, at_⟩ := inv.at_rings inRange rings
  refine inv.onRing inRange (.inr at_.statusId_eq) ?_ ?_
    ⟨rings, at_.dstId_eq, at_.statusId_eq, at_.inv.recvBegin, fun _ => rfl⟩
  · exact fun _ _ different => agree_accessBegin different
  · exact ⟨rfl, fun _ _ => rfl, fun _ _ => rfl, fun _ _ => rfl, fun _ _ => rfl,
      fun _ _ _ different _ equal => absurd equal.symm different⟩

theorem RxInv.recv_outcome (inv : RxInv layout rx) {swIndex : UInt32}
    (held : rx.lock = .recvBegun index swIndex)
    (rings : rx.rings index = some (dst, status)) :
    ∃ counts, PipeAt layout rx index dst status counts ∧ index < rx.pipesCount ∧
      swIndex = dst.swIndex ∧
      (((rx.received index).length = counts.cachedHead ∧
        testDstRecvNext rx.hal (rx.pipes index) dst status swIndex =
          (rx.hal, rx.pipes index, .error (-eio))) ∨
      ∃ hal' skb nbytes,
        testDstRecvNext rx.hal (rx.pipes index) dst status swIndex =
          (hal', (rx.pipes index).take dst swIndex, .ok (some skb, nbytes)) ∧
        Agrees (rx.pipe index dst status) (rx.received index).length
          (some skb, nbytes) ∧
        (∀ other, other ≠ status.halRingId.toNat → Agree rx.hal hal' other) ∧
        PipeInv (layout.entries index) hal'
          ((rx.pipe index dst status).receive swIndex (some skb, nbytes)) counts) := by
  have lock := inv.lock
  rw [LockInv, held] at lock
  obtain ⟨inRange, _⟩ := lock
  obtain ⟨counts, at_⟩ := inv.at_rings inRange rings
  have claim := at_.claim
  rw [held] at claim
  have local_ : swIndex = dst.swIndex := claim rfl
  subst local_
  refine ⟨counts, at_, inRange, rfl, ?_⟩
  obtain ⟨caught, nothing⟩ | ⟨_, hal', skb, nbytes, taken⟩ :=
    at_.inv.recvTake (rx.pipes index)
  · exact .inl ⟨caught, nothing⟩
  · exact .inr ⟨hal', skb, nbytes, taken⟩

theorem RxInv.recvTake (inv : RxInv layout rx) {swIndex : UInt32}
    (held : rx.lock = .recvBegun index swIndex)
    (rings : rx.rings index = some (dst, status)) :
    PipesAt layout (rx.recvResult index
      (testDstRecvNext rx.hal (rx.pipes index) dst status swIndex)) := by
  obtain ⟨counts, at_, inRange, rfl,
      ⟨caught, outcome⟩ | ⟨hal', skb, nbytes, outcome, _, agree, received⟩⟩ :=
    inv.recv_outcome held rings
  · rw [outcome, Rx.recvResult_error]
    refine inv.onRing inRange (.inr at_.statusId_eq) ?_ ?_
      ⟨rings, at_.dstId_eq, at_.statusId_eq, at_.inv,
        fun _ => .inl ⟨_, rfl, caught⟩⟩
    · exact fun _ _ _ => .refl _ _
    · exact ⟨rfl, fun _ _ => rfl, fun _ _ => rfl, fun _ _ => rfl, fun _ _ => rfl,
        fun _ _ _ different _ equal => absurd equal.symm different⟩
  · rw [outcome]
    have own : PipeAt layout (rx.recvResult index (hal',
        (rx.pipes index).take dst dst.swIndex, .ok (some skb, nbytes))) index
        (dst.take dst.swIndex) status counts := by
      refine ⟨Rx.rings_recvResult_take rings _ _ _, at_.dstId_eq, at_.statusId_eq, ?_, ?_⟩
      · rw [Rx.pipe_recvResult_take]
        exact received
      · rw [Rx.pipe_recvResult_take]
        exact fun _ => .inr ⟨skb, nbytes, rfl, by simp [RxPipe.receive]⟩
    refine inv.onRing inRange (.inr at_.statusId_eq) ?_ ?_ own
    · exact fun other _ different => agree other different
    · refine ⟨rfl, ?_, fun _ _ => rfl, fun _ _ => rfl, ?_,
        fun _ _ _ different _ equal => absurd equal.symm different⟩
      · intro other different
        simp [Rx.recvResult, Rx.setPipe, different]
      · intro other different
        simp [Rx.recvResult, different]

theorem RxInv.recvEnd (inv : RxInv layout rx)
    {result : Except Int (Option Nat × UInt32)} {list : List Nat}
    (held : rx.lock = .recvDone index result)
    (rings : rx.rings index = some (dst, status)) :
    PipesAt layout
      { rx.setDrain index (Rx.afterRecv list result) with
        hal := halSrngAccessEnd rx.hal status.halRingId.toNat
        lock := .free } := by
  have lock := inv.lock
  rw [LockInv, held] at lock
  obtain ⟨inRange, _⟩ := lock
  obtain ⟨counts, at_⟩ := inv.at_rings inRange rings
  refine inv.onRing inRange (.inr at_.statusId_eq) ?_ ?_
    ⟨rings, at_.dstId_eq, at_.statusId_eq, at_.inv.recvEnd, trivial⟩
  · intro other direct different
    exact agree_accessEnd at_.inv.rings.statusReady at_.inv.rings.statusDirect direct
      different
  · exact ⟨rfl, fun _ _ => rfl, fun _ _ => rfl, fun _ _ => rfl, fun _ _ => rfl,
      fun _ _ _ _ _ => trivial⟩

theorem RxInv.enqueueBegin (inv : RxInv layout rx) {poster : Poster}
    (held : rx.lock = .postLoop poster index)
    (needed : (rx.pipes index).rxBufNeeded ≠ 0)
    (ring : (rx.pipes index).dstRing = some dst) (buffers : Buffers) (skb : Nat)
    (paddr : UInt64) :
    PipesAt layout
      { rx with
        buffers := buffers
        hal := halSrngAccessBegin rx.hal dst.halRingId.toNat
        lock := .enqueueBegun poster index skb paddr dst.writeIndex } := by
  have lock := inv.lock
  rw [LockInv, held] at lock
  obtain ⟨inRange, _⟩ := lock
  obtain ⟨status, counts, at_⟩ := inv.at_dst inRange ring
  have fresh : (rx.received index).length ≤ counts.progress.stored := by
    rw [at_.inv.device.stored_eq]
    exact Nat.le_trans at_.inv.received_le at_.inv.device.reported_le
  refine inv.onRing inRange (.inl at_.dstId_eq) ?_ ?_
    ⟨at_.rings, at_.dstId_eq, at_.statusId_eq, at_.inv.enqueueBegin,
      fun _ => ⟨rfl, needed, fresh⟩⟩
  · exact fun _ _ different => agree_accessBegin different
  · exact ⟨rfl, fun _ _ => rfl, fun _ _ => rfl, fun _ _ => rfl, fun _ _ => rfl,
      fun _ _ _ different _ equal => absurd equal.symm different⟩

/-- The second half of the claim of `enqueueBegun`: the call succeeds. -/
theorem RxInv.enqueue_ok (inv : RxInv layout rx) {poster : Poster} {skb : Nat}
    {paddr : UInt64} {writeIndex : UInt32}
    (held : rx.lock = .enqueueBegun poster index skb paddr writeIndex)
    (ring : (rx.pipes index).dstRing = some dst) :
    ∃ status counts hal' desc, PipeAt layout rx index dst status counts ∧
      index < rx.pipesCount ∧ writeIndex = dst.writeIndex ∧
      testDstEnqueuePipe rx.hal (rx.pipes index) dst skb paddr writeIndex =
        (hal', (rx.pipes index).fill dst desc (testDstSetDesc paddr) skb writeIndex,
          0) ∧
      (∀ other, other ≠ dst.halRingId.toNat → Agree rx.hal hal' other) ∧
      PipeInv (layout.entries index) hal'
        ((rx.pipe index dst status).post desc skb paddr) counts := by
  have lock := inv.lock
  rw [LockInv, held] at lock
  obtain ⟨inRange, _⟩ := lock
  obtain ⟨status, counts, at_⟩ := inv.at_dst inRange ring
  have claim := at_.claim
  rw [held] at claim
  obtain ⟨index_eq, needed, fresh⟩ := claim rfl
  obtain ⟨hal', desc, stored, agree, posted⟩ :=
    at_.inv.enqueueStore needed fresh (rx.pipes index) skb paddr
  cases index_eq
  exact ⟨status, counts, hal', desc, at_, inRange, rfl, stored, agree, posted⟩

theorem RxInv.enqueueStore (inv : RxInv layout rx) {poster : Poster} {skb : Nat}
    {paddr : UInt64} {writeIndex : UInt32}
    (held : rx.lock = .enqueueBegun poster index skb paddr writeIndex)
    (ring : (rx.pipes index).dstRing = some dst) :
    PipesAt layout (rx.enqueueResult poster index skb paddr
      (testDstEnqueuePipe rx.hal (rx.pipes index) dst skb paddr writeIndex)) := by
  obtain ⟨status, counts, hal', desc, at_, inRange, rfl, stored, agree, posted⟩ :=
    inv.enqueue_ok held ring
  rw [stored]
  have own : PipeAt layout (rx.enqueueResult poster index skb paddr (hal',
      (rx.pipes index).fill dst desc (testDstSetDesc paddr) skb dst.writeIndex, 0))
      index (dst.fill desc (testDstSetDesc paddr) skb dst.writeIndex) status
      counts := by
    refine ⟨Rx.rings_enqueueResult_fill at_.rings _ _ _ _ _, at_.dstId_eq, at_.statusId_eq,
      ?_, ?_⟩
    · rw [Rx.pipe_enqueueResult_fill]
      exact posted
    · rw [Rx.pipe_enqueueResult_fill]
      exact fun _ => ⟨rfl, by simp [RxPipe.post]⟩
  refine inv.onRing inRange (.inl at_.dstId_eq) ?_ ?_ own
  · exact fun other _ different => agree other different
  · refine ⟨rfl, ?_, fun _ _ => rfl, ?_, fun _ _ => rfl,
      fun _ _ _ different _ equal => absurd equal.symm different⟩
    · intro other different
      simp [Rx.enqueueResult, Rx.setPipe, different]
    · intro other different
      simp [Rx.enqueueResult, different]

theorem RxInv.enqueue_zero (inv : RxInv layout rx) {poster : Poster} {skb : Nat}
    {paddr : UInt64} {ret : Int}
    (held : rx.lock = .enqueueDone poster index skb paddr ret)
    (ring : (rx.pipes index).dstRing = some dst) : ret = 0 := by
  have lock := inv.lock
  rw [LockInv, held] at lock
  obtain ⟨status, counts, at_⟩ := inv.at_dst lock.1 ring
  have claim := at_.claim
  rw [held] at claim
  exact (claim rfl).1

theorem RxInv.enqueueEnd (inv : RxInv layout rx) {poster : Poster} {skb : Nat}
    {paddr : UInt64} {ret : Int}
    (held : rx.lock = .enqueueDone poster index skb paddr ret)
    (ring : (rx.pipes index).dstRing = some dst) :
    PipesAt layout
      { rx with
        hal := halSrngAccessEnd rx.hal dst.halRingId.toNat
        lock := .postLoop poster index } := by
  have lock := inv.lock
  rw [LockInv, held] at lock
  obtain ⟨inRange, _⟩ := lock
  obtain ⟨status, counts, at_⟩ := inv.at_dst inRange ring
  refine inv.onRing inRange (.inl at_.dstId_eq) ?_ ?_
    ⟨at_.rings, at_.dstId_eq, at_.statusId_eq, at_.inv.enqueueEnd, trivial⟩
  · intro other direct different
    exact agree_accessEnd at_.inv.rings.dstReady at_.inv.rings.dstDirect direct
      different
  · exact ⟨rfl, fun _ _ => rfl, fun _ _ => rfl, fun _ _ => rfl, fun _ _ => rfl,
      fun _ _ _ _ _ => trivial⟩

theorem RxInv.deviceConsume (inv : RxInv layout rx) (inRange : index < rx.pipesCount)
    (ring : (rx.pipes index).dstRing = some dst)
    (behind : (rx.devices index).tail ≠
      rx.hal.load (rx.hal.srngList dst.halRingId.toNat).srcRing.hpAddr) :
    PipesAt layout (rx.setDevice index
      ((rx.devices index).consume (rx.hal.srngList dst.halRingId.toNat) dst.mem)) := by
  obtain ⟨status, counts, at_⟩ := inv.at_dst inRange ring
  have moved := at_.inv.deviceConsume behind
  have own : PipeAt layout (rx.setDevice index
      ((rx.devices index).consume (rx.hal.srngList dst.halRingId.toNat) dst.mem))
      index dst status counts := by
    refine ⟨at_.rings, at_.dstId_eq, at_.statusId_eq, ?_,
      at_.claim.congr rfl rfl rfl rfl rfl rfl⟩
    simp only [Rx.pipe, Rx.setDevice, Function.update_self]
    exact moved
  refine inv.onRing inRange (.inl at_.dstId_eq) ?_ ?_ own
  · exact fun _ _ _ => .refl _ _
  · refine ⟨rfl, fun _ _ => rfl, ?_, fun _ _ => rfl, fun _ _ => rfl,
      fun _ _ _ _ claim => claim⟩
    intro other different
    simp [Rx.setDevice, different]

theorem RxInv.deviceStoreTail (inv : RxInv layout rx) (inRange : index < rx.pipesCount)
    (ring : (rx.pipes index).dstRing = some dst) :
    PipesAt layout
      { rx.setDevice index
          { rx.devices index with storedTail := (rx.devices index).taken.length } with
        hal := rx.hal.store (rx.hal.srngList dst.halRingId.toNat).srcRing.tpAddr
          (rx.devices index).tail } := by
  obtain ⟨status, counts, at_⟩ := inv.at_dst inRange ring
  have moved := at_.inv.deviceStoreTail
  rw [at_.tpAddr_eq]
  have own : PipeAt layout
      { rx.setDevice index
          { rx.devices index with storedTail := (rx.devices index).taken.length } with
        hal := rx.hal.store (rx.hal.srngList dst.halRingId.toNat).shadowAddr
          (rx.devices index).tail } index dst status
      { counts with
        progress :=
          { counts.progress with stored := (rx.devices index).taken.length } } := by
    refine ⟨at_.rings, at_.dstId_eq, at_.statusId_eq, ?_,
      at_.claim.congr rfl rfl rfl rfl rfl rfl⟩
    simp only [Rx.pipe, Rx.setDevice, Function.update_self]
    exact moved
  refine inv.onRing inRange (.inl at_.dstId_eq) ?_ ?_ own
  · exact fun other direct different =>
      agree_store_shadow at_.inv.rings.dstDirect direct different _
  · refine ⟨rfl, fun _ _ => rfl, ?_, fun _ _ => rfl, fun _ _ => rfl,
      fun _ _ _ _ claim => claim⟩
    intro other different
    simp [Rx.setDevice, different]

theorem RxInv.deviceReport (inv : RxInv layout rx) (inRange : index < rx.pipesCount)
    (ring : (rx.pipes index).statusRing = some status) {length flag : UInt32}
    (nonzero : length ≠ 0)
    (allowed : (rx.devices index).reported.length < (rx.devices index).storedTail) :
    PipesAt layout (rx.statusWritten index status length flag) := by
  obtain ⟨dst, counts, at_⟩ := inv.at_status inRange ring
  have moved := @PipeInv.deviceReport _ _ _ _ at_.inv length flag nonzero allowed
  have own : PipeAt layout (rx.statusWritten index status length flag) index dst
      { status with
        mem := storeWords status.mem
          (descPtr (rx.hal.srngList status.halRingId.toNat) (rx.devices index).head)
          [length, flag] } counts := by
    refine ⟨?_, at_.dstId_eq, at_.statusId_eq, ?_, ?_⟩
    · rw [Rx.rings_eq_some]
      simp [Rx.statusWritten, Rx.setPipe, Rx.setDevice, at_.dstRing]
    · simp only [Rx.pipe, Rx.statusWritten, Rx.setPipe, Rx.setDevice,
        Function.update_self]
      exact moved
    · apply at_.claim.congr <;>
        simp [Rx.pipe, Rx.statusWritten, Rx.setPipe, Rx.setDevice]
  refine inv.onRing inRange (.inr at_.statusId_eq) ?_ ?_ own
  · exact fun _ _ _ => .refl _ _
  · refine ⟨rfl, ?_, ?_, fun _ _ => rfl, fun _ _ => rfl, fun _ _ _ _ claim => claim⟩
    · intro other different
      simp [Rx.statusWritten, Rx.setPipe, Rx.setDevice, different]
    · intro other different
      simp [Rx.statusWritten, Rx.setPipe, Rx.setDevice, different]

theorem RxInv.deviceStoreHead (inv : RxInv layout rx) (inRange : index < rx.pipesCount)
    (ring : (rx.pipes index).statusRing = some status) :
    PipesAt layout
      { rx with
        hal := rx.hal.store (rx.hal.srngList status.halRingId.toNat).dstRing.hpAddr
          (rx.devices index).head } := by
  obtain ⟨dst, counts, at_⟩ := inv.at_status inRange ring
  rw [at_.hpAddr_eq]
  refine inv.onRing inRange (.inr at_.statusId_eq) ?_ ?_
    ⟨at_.rings, at_.dstId_eq, at_.statusId_eq, at_.inv.deviceStoreHead,
      at_.claim.congr rfl rfl rfl rfl rfl rfl⟩
  · exact fun other direct different =>
      agree_store_shadow at_.inv.rings.statusDirect direct different _
  · exact ⟨rfl, fun _ _ => rfl, fun _ _ => rfl, fun _ _ => rfl, fun _ _ => rfl,
      fun _ _ _ _ claim => claim⟩

theorem RxInv.setPostBuf (inv : RxInv layout rx) (timer : Bool) (walk : PostBuf) :
    PipesAt layout (rx.setPostBuf timer walk) := by
  cases timer <;> exact inv.still rfl rfl rfl rfl rfl rfl fun _ _ _ claim => claim

theorem RxInv.postExit (inv : RxInv layout rx) (poster : Poster) (index : Nat)
    (ret : Int) : PipesAt layout (rx.postExit poster index ret) := by
  cases poster <;> exact inv.still rfl rfl rfl rfl rfl rfl fun _ _ _ _ => trivial

/-- A buffer that nothing refers to any more. -/
theorem RxInv.lose (inv : RxInv layout rx) (tailroom : UInt32) :
    RxInv layout { rx with buffers := (rx.buffers.devAllocSkb tailroom).1 } :=
  ⟨inv.apart, inv.still rfl rfl rfl rfl rfl rfl fun _ _ _ claim => claim,
    inv.drains_lt, inv.waits_lt, inv.lock, inv.blank.lose tailroom⟩

end Steps

theorem RxInv.control {layout : RxLayout} {rx : Rx} (inv : RxInv layout rx) :
    ControlInv rx :=
  ⟨inv.drains_lt, inv.waits_lt, inv.lock⟩

theorem RxInv.rings_ne_none {layout : RxLayout} {rx : Rx} {index : Nat}
    (inv : RxInv layout rx) (inRange : index < rx.pipesCount) :
    rx.rings index ≠ none := by
  obtain ⟨dst, status, counts, at_⟩ := inv.pipes index inRange
  rw [at_.rings]
  simp

theorem RxInv.step {layout : RxLayout} {rx next : Rx} {event : Rx.Event}
    (inv : RxInv layout rx) (stepped : Rx.Step rx event next)
    (live : next.live = true) : RxInv layout next := by
  have control := inv.control.step stepped
  have blank : next.BlankHeld := inv.blank.step inv.control.receiving_lt stepped live
  refine ⟨?_, ?_, control.drains_lt, control.waits_lt, control.lock, blank⟩
  · rw [stepped.pipesCount_eq]
    exact inv.apart
  cases stepped with
  | recvBegin free receiving rings => exact inv.recvBegin receiving rings
  | recvTake held rings => exact inv.recvTake held rings
  | recvEnd held receiving rings => exact inv.recvEnd held rings
  | enqueueBegin held needed ring => exact inv.enqueueBegin held needed ring _ _ _
  | enqueueStore held ring => exact inv.enqueueStore held ring
  | enqueueEnd held ring => exact inv.enqueueEnd held ring
  | enqueueUndo held failed ring => exact absurd (inv.enqueue_zero held ring) failed
  | deviceConsume inRange ring behind => exact inv.deviceConsume inRange ring behind
  | deviceStoreTail inRange ring => exact inv.deviceStoreTail inRange ring
  | deviceReport inRange ring nonzero allowed =>
      exact inv.deviceReport inRange ring nonzero allowed
  | deviceStoreHead inRange ring => exact inv.deviceStoreHead inRange ring
  | deinit free initialised quiet => contradiction
  | drainLock | postBufLock =>
      exact inv.still rfl rfl rfl rfl rfl rfl fun _ _ _ _ => trivial
  | postBufNull | postBufWait | postBufDone | postBufOn => exact inv.setPostBuf _ _
  | @postBufStop timer =>
      cases timer <;> exact inv.still rfl rfl rfl rfl rfl rfl fun _ _ _ claim => claim
  | postDone | postNoMemory => exact inv.postExit _ _ _
  | postUnmapped => exact (inv.lose _).postExit _ _ _
  | _ => exact inv.still rfl rfl rfl rfl rfl rfl fun _ _ _ claim => claim

end WirelessSimu
