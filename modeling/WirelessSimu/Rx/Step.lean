import WirelessSimu.Rx.System

namespace WirelessSimu.Rx

open Data Kernel

/-! Everything a step of the receive module can do, guards included. -/

theorem rings_eq_some {rx : Rx} {index : Nat} {dst status : SrngTestRing} :
    rx.rings index = some (dst, status) ↔
      (rx.pipes index).dstRing = some dst ∧
        (rx.pipes index).statusRing = some status := by
  unfold rings
  cases (rx.pipes index).dstRing <;> cases (rx.pipes index).statusRing <;> simp

/-- The buffers after one allocation and its mapping, with the new buffer. -/
def mapped (rx : Rx) (tailroom : UInt32) (paddr : UInt64) : Buffers :=
  let (buffers, skb) := rx.buffers.devAllocSkb tailroom
  (buffers.dmaMapSingle skb paddr (buffers.skb skb).room).setPaddr skb paddr

/-- The buffers after the unmap of a received buffer. -/
def unmapped (rx : Rx) (skb : Nat) : Buffers :=
  rx.buffers.dmaUnmapSingle skb (rx.buffers.skb skb).paddr (rx.buffers.skb skb).room

def statusWritten (rx : Rx) (index : Nat) (status : SrngTestRing)
    (length flag : UInt32) : Rx :=
  let srng := rx.hal.srngList status.halRingId.toNat
  let device := rx.devices index
  (rx.setPipe index
    { rx.pipes index with
      statusRing := some
        { status with
          mem := storeWords status.mem (descPtr srng device.head) [length, flag] } })
    |>.setDevice index
      { device with
        head := (device.head + srng.entrySize) % srng.ringSize
        reported := device.reported ++ [(length, flag)] }

inductive Step (rx : Rx) : Event → Rx → Prop where
  | drainStart {index : Nat} (inRange : index < rx.pipesCount)
      (idle : rx.drains index = .idle) :
      Step rx (.drainStart index) (rx.setDrain index (.recv []))
  | recvBegin {index : Nat} {list : List Nat} {dst status : SrngTestRing}
      (free : rx.lock = .free) (receiving : rx.drains index = .recv list)
      (rings : rx.rings index = some (dst, status)) :
      Step rx (.recvBegin index)
        { rx with
          hal := halSrngAccessBegin rx.hal status.halRingId.toNat
          lock := .recvBegun index dst.swIndex }
  | recvTake {index : Nat} {swIndex : UInt32} {dst status : SrngTestRing}
      (held : rx.lock = .recvBegun index swIndex)
      (rings : rx.rings index = some (dst, status)) :
      Step rx .recvTake (rx.recvResult index
        (testDstRecvNext rx.hal (rx.pipes index) dst status swIndex))
  | recvEnd {index : Nat} {result : Except Int (Option Nat × UInt32)}
      {list : List Nat} {dst status : SrngTestRing}
      (held : rx.lock = .recvDone index result)
      (receiving : rx.drains index = .recv list)
      (rings : rx.rings index = some (dst, status)) :
      Step rx .recvEnd
        { rx.setDrain index (afterRecv list result) with
          hal := halSrngAccessEnd rx.hal status.halRingId.toNat
          lock := .free }
  | drainOverlong {index skb : Nat} {list : List Nat} {nbytes : UInt32}
      (took : rx.drains index = .took list (some skb) nbytes)
      (long : (rx.buffers.skb skb).room < nbytes) :
      Step rx (.drainTake index)
        { rx.setDrain index (.recv list) with
          buffers := (rx.unmapped skb).devKfreeSkb skb }
  | drainKeep {index skb : Nat} {list : List Nat} {nbytes : UInt32} {buffers : Buffers}
      (took : rx.drains index = .took list (some skb) nbytes)
      (fits : ¬ (rx.buffers.skb skb).room < nbytes)
      (put : (rx.unmapped skb).skbPut skb nbytes = some buffers) :
      Step rx (.drainTake index)
        { rx.setDrain index (.recv (list ++ [skb])) with buffers := buffers }
  | flushOne {index skb : Nat} {list : List Nat}
      (flushing : rx.drains index = .flush (skb :: list)) :
      Step rx (.drainFlush index)
        { rx.setDrain index (.flush list) with
          buffers := rx.buffers.devKfreeSkb skb }
  | flushDone {index : Nat} (flushing : rx.drains index = .flush []) :
      Step rx (.drainFlush index) (rx.setDrain index .post)
  | drainPostNull {index : Nat} (posting : rx.drains index = .post)
      (missing : rx.rings index = none) :
      Step rx (.drainPost index) (rx.setDrain index (.posted 0))
  | drainPost {index : Nat} {rings : SrngTestRing × SrngTestRing}
      (posting : rx.drains index = .post) (present : rx.rings index = some rings) :
      Step rx (.drainPost index) (rx.setDrain index .wait)
  | drainLock {index : Nat} (waiting : rx.drains index = .wait) (free : rx.lock = .free) :
      Step rx (.drainLock index) { rx with lock := .postLoop (.drain index) index }
  | drainReturn {index : Nat} {ret : Int} (posted : rx.drains index = .posted ret) :
      Step rx (.drainReturn index)
        { rx.setDrain index .idle with
          retryArmed := rx.retryArmed || (ret ≠ 0 && ret ≠ -enospc) }
  | timerFire (armed : rx.retryArmed = true) (idle : rx.timerPost = .idle) :
      Step rx .timerFire { rx with retryArmed := false, timerPost := .next 0 }
  | postBufNull {timer : Bool} {index : Nat} (walking : rx.postBuf timer = .next index)
      (inRange : index < rx.pipesCount) (missing : rx.rings index = none) :
      Step rx (.postBufNext timer) (rx.setPostBuf timer (.posted index 0))
  | postBufWait {timer : Bool} {index : Nat} {rings : SrngTestRing × SrngTestRing}
      (walking : rx.postBuf timer = .next index) (inRange : index < rx.pipesCount)
      (present : rx.rings index = some rings) :
      Step rx (.postBufNext timer) (rx.setPostBuf timer (.wait index))
  | postBufLock {timer : Bool} {index : Nat} (waiting : rx.postBuf timer = .wait index)
      (free : rx.lock = .free) :
      Step rx (.postBufLock timer)
        { rx with lock := .postLoop (if timer then .timer else .init) index }
  | postBufDone {timer : Bool} {index : Nat} (walking : rx.postBuf timer = .next index)
      (last : ¬ index < rx.pipesCount) :
      Step rx (.postBufNext timer) (rx.setPostBuf timer .idle)
  | postBufOn {timer : Bool} {index : Nat} {ret : Int}
      (posted : rx.postBuf timer = .posted index ret)
      (mild : ret = 0 ∨ ret = -enospc) :
      Step rx (.postBufReturn timer) (rx.setPostBuf timer (.next (index + 1)))
  | postBufStop {timer : Bool} {index : Nat} {ret : Int}
      (posted : rx.postBuf timer = .posted index ret)
      (failed : ¬ (ret = 0 ∨ ret = -enospc)) :
      Step rx (.postBufReturn timer)
        { rx.setPostBuf timer .idle with retryArmed := true }
  | postDone {poster : Poster} {index : Nat} {tailroom : Option UInt32}
      {paddr : Option UInt64} (held : rx.lock = .postLoop poster index)
      (full : (rx.pipes index).rxBufNeeded = 0) :
      Step rx (.postBuffer tailroom paddr) (rx.postExit poster index 0)
  | postNoMemory {poster : Poster} {index : Nat} {paddr : Option UInt64}
      (held : rx.lock = .postLoop poster index)
      (needed : (rx.pipes index).rxBufNeeded ≠ 0) :
      Step rx (.postBuffer none paddr) (rx.postExit poster index (-enomem))
  | postUnmapped {poster : Poster} {index : Nat} {tailroom : UInt32}
      (held : rx.lock = .postLoop poster index)
      (needed : (rx.pipes index).rxBufNeeded ≠ 0) :
      Step rx (.postBuffer (some tailroom) none)
        ({ rx with buffers := (rx.buffers.devAllocSkb tailroom).1 }.postExit poster
          index (-eio))
  | enqueueBegin {poster : Poster} {index : Nat} {tailroom : UInt32} {paddr : UInt64}
      {dst : SrngTestRing} (held : rx.lock = .postLoop poster index)
      (needed : (rx.pipes index).rxBufNeeded ≠ 0)
      (ring : (rx.pipes index).dstRing = some dst) :
      Step rx (.postBuffer (some tailroom) (some paddr))
        { rx with
          buffers := rx.mapped tailroom paddr
          hal := halSrngAccessBegin rx.hal dst.halRingId.toNat
          lock := .enqueueBegun poster index rx.buffers.allocated paddr
            dst.writeIndex }
  | enqueueStore {poster : Poster} {index skb : Nat} {paddr : UInt64}
      {writeIndex : UInt32} {dst : SrngTestRing}
      (held : rx.lock = .enqueueBegun poster index skb paddr writeIndex)
      (ring : (rx.pipes index).dstRing = some dst) :
      Step rx .enqueueStore (rx.enqueueResult poster index skb paddr
        (testDstEnqueuePipe rx.hal (rx.pipes index) dst skb paddr writeIndex))
  | enqueueEnd {poster : Poster} {index skb : Nat} {paddr : UInt64}
      {dst : SrngTestRing} (held : rx.lock = .enqueueDone poster index skb paddr 0)
      (ring : (rx.pipes index).dstRing = some dst) :
      Step rx .enqueueEnd
        { rx with
          hal := halSrngAccessEnd rx.hal dst.halRingId.toNat
          lock := .postLoop poster index }
  | enqueueUndo {poster : Poster} {index skb : Nat} {paddr : UInt64} {ret : Int}
      {dst : SrngTestRing}
      (held : rx.lock = .enqueueDone poster index skb paddr ret) (failed : ret ≠ 0)
      (ring : (rx.pipes index).dstRing = some dst) :
      Step rx .enqueueEnd
        ({ rx with
            hal := halSrngAccessEnd rx.hal dst.halRingId.toNat
            buffers := (rx.buffers.dmaUnmapSingle skb paddr
              (rx.buffers.skb skb).room).devKfreeSkb skb }.postExit poster index ret)
  | deviceConsume {index : Nat} {dst : SrngTestRing} (inRange : index < rx.pipesCount)
      (ring : (rx.pipes index).dstRing = some dst)
      (behind : (rx.devices index).tail ≠
        rx.hal.load (rx.hal.srngList dst.halRingId.toNat).srcRing.hpAddr) :
      Step rx (.deviceConsume index) (rx.setDevice index
        ((rx.devices index).consume (rx.hal.srngList dst.halRingId.toNat) dst.mem))
  | deviceStoreTail {index : Nat} {dst : SrngTestRing}
      (inRange : index < rx.pipesCount)
      (ring : (rx.pipes index).dstRing = some dst) :
      Step rx (.deviceStoreTail index)
        { rx.setDevice index
            { rx.devices index with storedTail := (rx.devices index).taken.length } with
          hal := rx.hal.store
            (rx.hal.srngList dst.halRingId.toNat).srcRing.tpAddr
            (rx.devices index).tail }
  | deviceReport {index : Nat} {status : SrngTestRing} {length flag : UInt32}
      (inRange : index < rx.pipesCount)
      (ring : (rx.pipes index).statusRing = some status) (nonzero : length ≠ 0)
      (allowed : (rx.devices index).reported.length < (rx.devices index).storedTail) :
      Step rx (.deviceReport index length flag)
        (rx.statusWritten index status length flag)
  | deviceStoreHead {index : Nat} {status : SrngTestRing}
      (inRange : index < rx.pipesCount)
      (ring : (rx.pipes index).statusRing = some status) :
      Step rx (.deviceStoreHead index)
        { rx with
          hal := rx.hal.store
            (rx.hal.srngList status.halRingId.toNat).dstRing.hpAddr
            (rx.devices index).head }
  | deinit (free : rx.lock = .free) (initialised : rx.initPost = .idle)
      (quiet : ∀ index ∈ List.range rx.pipesCount, rx.drains index = .idle) :
      Step rx .deinit
        { rx with
          buffers := cleanupPipes rx.pipes rx.buffers rx.pipesCount
          pipes := halSrngTestFreePipes rx.pipesCount rx.pipes
          live := false }

section Inversion

variable {rx next : Rx}

private theorem recvBegin_cases {index : Nat} (taken : rx.recvBegin index = some next) :
    Step rx (.recvBegin index) next := by
  unfold Rx.recvBegin at taken
  split at taken
  next free receiving rings =>
      cases taken
      exact .recvBegin free receiving rings
  next => contradiction

private theorem recvTake_cases (taken : rx.recvTake = some next) :
    Step rx .recvTake next := by
  unfold Rx.recvTake at taken
  split at taken
  next held =>
      split at taken
      next rings =>
          cases taken
          exact .recvTake held rings
      next => contradiction
  next => contradiction

private theorem recvEnd_cases (taken : rx.recvEnd = some next) :
    Step rx .recvEnd next := by
  unfold Rx.recvEnd at taken
  split at taken
  next held =>
      split at taken
      next receiving rings =>
          cases taken
          exact .recvEnd held receiving rings
      next => contradiction
  next => contradiction

private theorem drainTake_cases {index : Nat} (taken : rx.drainTake index = some next) :
    Step rx (.drainTake index) next := by
  unfold Rx.drainTake at taken
  split at taken
  next took =>
      simp only at taken
      split at taken
      next long =>
          cases taken
          exact .drainOverlong took long
      next fits =>
          obtain ⟨buffers, put, rfl⟩ := Option.map_eq_some_iff.mp taken
          exact .drainKeep took fits put
  next => contradiction

private theorem drainFlush_cases {index : Nat}
    (taken : rx.drainFlush index = some next) :
    Step rx (.drainFlush index) next := by
  unfold Rx.drainFlush at taken
  split at taken
  next flushing =>
      cases taken
      exact .flushOne flushing
  next flushing =>
      cases taken
      exact .flushDone flushing
  next => contradiction

private theorem drainPost_cases {index : Nat} (taken : rx.drainPost index = some next) :
    Step rx (.drainPost index) next := by
  unfold Rx.drainPost at taken
  split at taken
  next posting =>
      cases taken
      cases look : rx.rings index with
      | none => exact .drainPostNull posting look
      | some rings => exact .drainPost posting look
  next => contradiction

private theorem drainLock_cases {index : Nat} (taken : rx.drainLock index = some next) :
    Step rx (.drainLock index) next := by
  unfold Rx.drainLock at taken
  split at taken
  next waiting free =>
      cases taken
      exact .drainLock waiting free
  next => contradiction

private theorem drainReturn_cases {index : Nat}
    (taken : rx.drainReturn index = some next) :
    Step rx (.drainReturn index) next := by
  unfold Rx.drainReturn at taken
  split at taken
  next posted =>
      cases taken
      exact .drainReturn posted
  next => contradiction

theorem timerFire_cases (taken : rx.timerFire = some next) :
    Step rx .timerFire next := by
  unfold Rx.timerFire at taken
  split at taken
  next fire =>
      cases taken
      exact .timerFire fire.1 fire.2
  next => contradiction

theorem postBufNext_cases {timer : Bool}
    (taken : rx.postBufNext timer = some next) :
    Step rx (.postBufNext timer) next := by
  unfold Rx.postBufNext at taken
  split at taken
  next index walking =>
      cases taken
      by_cases inRange : index < rx.pipesCount
      · rw [if_pos inRange]
        cases look : rx.rings index with
        | none => exact .postBufNull walking inRange look
        | some rings => exact .postBufWait walking inRange look
      · rw [if_neg inRange]
        exact .postBufDone walking inRange
  next => contradiction

theorem postBufLock_cases {timer : Bool}
    (taken : rx.postBufLock timer = some next) :
    Step rx (.postBufLock timer) next := by
  unfold Rx.postBufLock at taken
  split at taken
  next waiting free =>
      cases taken
      exact .postBufLock waiting free
  next => contradiction

theorem postBufReturn_cases {timer : Bool}
    (taken : rx.postBufReturn timer = some next) :
    Step rx (.postBufReturn timer) next := by
  unfold Rx.postBufReturn at taken
  split at taken
  next posted =>
      split at taken
      next mild =>
          cases taken
          exact .postBufOn posted mild
      next failed =>
          cases taken
          exact .postBufStop posted failed
  next => contradiction

theorem postBuffer_cases {tailroom : Option UInt32} {paddr : Option UInt64}
    (taken : rx.postBuffer tailroom paddr = some next) :
    Step rx (.postBuffer tailroom paddr) next := by
  unfold Rx.postBuffer at taken
  split at taken
  next held =>
      split at taken
      next full =>
          cases taken
          exact .postDone held full
      next needed =>
          split at taken
          next =>
              cases taken
              exact .postNoMemory held needed
          next =>
              simp only at taken
              split at taken
              next =>
                  cases taken
                  exact .postUnmapped held needed
              next =>
                  split at taken
                  next => contradiction
                  next ring =>
                      cases taken
                      exact .enqueueBegin held needed ring
  next => contradiction

private theorem enqueueStore_cases (taken : rx.enqueueStore = some next) :
    Step rx .enqueueStore next := by
  unfold Rx.enqueueStore at taken
  split at taken
  next held =>
      split at taken
      next => contradiction
      next ring =>
          cases taken
          exact .enqueueStore held ring
  next => contradiction

private theorem enqueueEnd_cases (taken : rx.enqueueEnd = some next) :
    Step rx .enqueueEnd next := by
  unfold Rx.enqueueEnd at taken
  split at taken
  next held =>
      split at taken
      next => contradiction
      next ring =>
          simp only at taken
          split at taken
          next zero =>
              cases taken
              subst zero
              exact .enqueueEnd held ring
          next failed =>
              cases taken
              exact .enqueueUndo held failed ring
  next => contradiction

private theorem deviceConsume_cases {index : Nat} (inRange : index < rx.pipesCount)
    (taken : rx.deviceConsume index = some next) :
    Step rx (.deviceConsume index) next := by
  unfold Rx.deviceConsume at taken
  split at taken
  next => contradiction
  next ring =>
      simp only at taken
      split at taken
      next => contradiction
      next behind =>
          cases taken
          exact .deviceConsume inRange ring behind

private theorem deviceStoreTail_cases {index : Nat} (inRange : index < rx.pipesCount)
    (taken : rx.deviceStoreTail index = some next) :
    Step rx (.deviceStoreTail index) next := by
  unfold Rx.deviceStoreTail at taken
  split at taken
  next => contradiction
  next ring =>
      cases taken
      exact .deviceStoreTail inRange ring

private theorem deviceReport_cases {index : Nat} {length flag : UInt32}
    (inRange : index < rx.pipesCount)
    (taken : rx.deviceReport index length flag = some next) :
    Step rx (.deviceReport index length flag) next := by
  unfold Rx.deviceReport at taken
  split at taken
  next => contradiction
  next ring =>
      simp only at taken
      split at taken
      next allowed =>
          cases taken
          exact .deviceReport inRange ring allowed.1 allowed.2
      next => contradiction

private theorem deviceStoreHead_cases {index : Nat} (inRange : index < rx.pipesCount)
    (taken : rx.deviceStoreHead index = some next) :
    Step rx (.deviceStoreHead index) next := by
  unfold Rx.deviceStoreHead at taken
  split at taken
  next => contradiction
  next ring =>
      cases taken
      exact .deviceStoreHead inRange ring

private theorem deinit_cases (taken : rx.deinit = some next) :
    Step rx .deinit next := by
  unfold Rx.deinit at taken
  split at taken
  next free initialised =>
      split at taken
      next quiet =>
          cases taken
          exact .deinit free initialised quiet
      next => contradiction
  next => contradiction

/-- A step is taken while the module is alive, and is one of the above. -/
theorem step_cases {event : Event} (stepped : rx.step event = some next) :
    rx.live = true ∧ Step rx event next := by
  unfold Rx.step at stepped
  split at stepped
  next => contradiction
  next alive =>
      refine ⟨by simpa using alive, ?_⟩
      cases event with
      | drainStart index =>
          simp only at stepped
          split at stepped
          next start =>
              cases stepped
              exact .drainStart start.1 start.2
          next => contradiction
      | recvBegin index => exact recvBegin_cases stepped
      | recvTake => exact recvTake_cases stepped
      | recvEnd => exact recvEnd_cases stepped
      | drainTake index => exact drainTake_cases stepped
      | drainFlush index => exact drainFlush_cases stepped
      | drainPost index => exact drainPost_cases stepped
      | drainLock index => exact drainLock_cases stepped
      | drainReturn index => exact drainReturn_cases stepped
      | timerFire => exact timerFire_cases stepped
      | postBufNext timer => exact postBufNext_cases stepped
      | postBufLock timer => exact postBufLock_cases stepped
      | postBufReturn timer => exact postBufReturn_cases stepped
      | postBuffer tailroom paddr => exact postBuffer_cases stepped
      | enqueueStore => exact enqueueStore_cases stepped
      | enqueueEnd => exact enqueueEnd_cases stepped
      | deviceConsume index =>
          simp only at stepped
          split at stepped
          next inRange => exact deviceConsume_cases inRange stepped
          next => contradiction
      | deviceStoreTail index =>
          simp only at stepped
          split at stepped
          next inRange => exact deviceStoreTail_cases inRange stepped
          next => contradiction
      | deviceReport index length flag =>
          simp only at stepped
          split at stepped
          next inRange => exact deviceReport_cases inRange stepped
          next => contradiction
      | deviceStoreHead index =>
          simp only at stepped
          split at stepped
          next inRange => exact deviceStoreHead_cases inRange stepped
          next => contradiction
      | deinit => exact deinit_cases stepped

end Inversion

/-! What the two walkers of `post_pipe` leave alone. -/

section Frame

variable (rx : Rx) (timer : Bool) (walk : PostBuf) (poster : Poster) (index : Nat)
  (ret : Int)

@[simp] theorem hal_setPostBuf : (rx.setPostBuf timer walk).hal = rx.hal := by
  cases timer <;> rfl

@[simp] theorem hal_postExit : (rx.postExit poster index ret).hal = rx.hal := by
  cases poster <;> rfl

@[simp] theorem lock_setPostBuf : (rx.setPostBuf timer walk).lock = rx.lock := by
  cases timer <;> rfl

@[simp] theorem live_setPostBuf : (rx.setPostBuf timer walk).live = rx.live := by
  cases timer <;> rfl

@[simp] theorem buffers_setPostBuf :
    (rx.setPostBuf timer walk).buffers = rx.buffers := by
  cases timer <;> rfl

@[simp] theorem pipes_setPostBuf : (rx.setPostBuf timer walk).pipes = rx.pipes := by
  cases timer <;> rfl

@[simp] theorem pipesCount_setPostBuf :
    (rx.setPostBuf timer walk).pipesCount = rx.pipesCount := by
  cases timer <;> rfl

@[simp] theorem drains_setPostBuf : (rx.setPostBuf timer walk).drains = rx.drains := by
  cases timer <;> rfl

@[simp] theorem devices_setPostBuf :
    (rx.setPostBuf timer walk).devices = rx.devices := by
  cases timer <;> rfl

@[simp] theorem enqueued_setPostBuf :
    (rx.setPostBuf timer walk).enqueued = rx.enqueued := by
  cases timer <;> rfl

@[simp] theorem lock_postExit : (rx.postExit poster index ret).lock = .free := by
  cases poster <;> rfl

@[simp] theorem live_postExit : (rx.postExit poster index ret).live = rx.live := by
  cases poster <;> rfl

@[simp] theorem buffers_postExit :
    (rx.postExit poster index ret).buffers = rx.buffers := by
  cases poster <;> rfl

@[simp] theorem pipes_postExit : (rx.postExit poster index ret).pipes = rx.pipes := by
  cases poster <;> rfl

@[simp] theorem pipesCount_postExit :
    (rx.postExit poster index ret).pipesCount = rx.pipesCount := by
  cases poster <;> rfl

@[simp] theorem devices_postExit :
    (rx.postExit poster index ret).devices = rx.devices := by
  cases poster <;> rfl

@[simp] theorem enqueued_postExit :
    (rx.postExit poster index ret).enqueued = rx.enqueued := by
  cases poster <;> rfl

end Frame

theorem Step.pipesCount_eq {rx next : Rx} {event : Event}
    (stepped : Step rx event next) : next.pipesCount = rx.pipesCount := by
  cases stepped <;> first | rfl | simp

/-- Only the teardown ends the module's life. -/
theorem Step.live_or_deinit {rx next : Rx} {event : Event} (stepped : Step rx event next)
    (live : rx.live = true) : next.live = true ∨ event = .deinit := by
  cases stepped with
  | deinit => exact .inr rfl
  | _ => exact .inl (by first | exact live | simpa using live)

/-- What every allowed step of a live module keeps holds at the end of a run, or held
right before the teardown that ended it. -/
theorem live_invariant {ok : Rx → Event → Prop} (Inv : Rx → Prop)
    (preserved : ∀ rx event next, ok rx event → Inv rx → Step rx event next →
      next.live = true → Inv next)
    {start final : Rx} {events : List Event} (meets : Meets Rx.step ok start events)
    (reached : run Rx.step start events = some final) (live : start.live = true)
    (holds : Inv start) :
    final.live = true ∧ Inv final ∨
      ∃ before, before.live = true ∧ Inv before ∧ Step before .deinit final := by
  refine meets.invariant (fun rx => rx.live = true ∧ Inv rx ∨
    ∃ before, before.live = true ∧ Inv before ∧ Step before .deinit rx) ?_ reached
    (.inl ⟨live, holds⟩)
  intro rx event next allowed stepped before
  obtain ⟨alive, taken⟩ := step_cases stepped
  rcases before with ⟨_, holdsNow⟩ | ⟨_, _, _, ended⟩
  · rcases taken.live_or_deinit alive with stays | rfl
    · exact .inl ⟨stays, preserved rx event next allowed holdsNow taken stays⟩
    · exact .inr ⟨rx, alive, holdsNow, taken⟩
  · cases ended
    contradiction

end WirelessSimu.Rx
