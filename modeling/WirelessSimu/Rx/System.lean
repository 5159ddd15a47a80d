import WirelessSimu.Data.Run
import WirelessSimu.Pipe.Transfer

namespace WirelessSimu

open Data Kernel

/-! The receive module while it runs: the tasklets that drain the status rings, the
replenishing of buffers by the tasklets, the retry timer and the initialisation,
and the device on the other side. A step is what one party does between two
accesses to memory that others see; `srng_test_lock` keeps the parts of `recv_next`
and `post_pipe` together. -/

inductive Poster where
  | init
  | timer
  | drain (pipe : Nat)
  deriving DecidableEq, Repr

/-- Who holds `srng_test_lock`, and how far the holder is. -/
inductive RxLock where
  | free
  | recvBegun (pipe : Nat) (swIndex : UInt32)
  | recvDone (pipe : Nat) (result : Except Int (Option Nat × UInt32))
  | postLoop (poster : Poster) (pipe : Nat)
  | enqueueBegun (poster : Poster) (pipe skb : Nat) (paddr : UInt64)
      (writeIndex : UInt32)
  | enqueueDone (poster : Poster) (pipe skb : Nat) (paddr : UInt64) (ret : Int)

def RxLock.isFree : RxLock → Bool
  | .free => true
  | _ => false

theorem RxLock.eq_free {lock : RxLock} (free : lock.isFree = true) : lock = .free := by
  cases lock with
  | free => rfl
  | _ => contradiction

/-- The drain of one pipe, with its local list of buffers. In `wait` it has found both
rings in `post_pipe` and waits for the lock or holds it. -/
inductive Drain where
  | idle
  | recv (list : List Nat)
  | took (list : List Nat) (skb : Option Nat) (nbytes : UInt32)
  | flush (list : List Nat)
  | post
  | wait
  | posted (ret : Int)
  deriving DecidableEq, Repr

/-- Where a call of `post_buf` is, with the pipe that it has come to. -/
inductive PostBuf where
  | idle
  | next (pipe : Nat)
  | wait (pipe : Nat)
  | posted (pipe : Nat) (ret : Int)
  deriving DecidableEq, Repr

/-- The device's side of one pipe: its tail on the destination ring, its head on
the status ring, and what it took and reported so far. -/
structure RxDevice where
  tail : UInt32
  head : UInt32
  storedTail : Nat
  taken : List (List UInt32)
  reported : List (UInt32 × UInt32)
  deriving DecidableEq, Repr

/-- The descriptor at its tail is the next one it takes. -/
def RxDevice.consume (device : RxDevice) (srng : HalSrng) (mem : Nat → UInt32) :
    RxDevice :=
  { device with
    tail := (device.tail + srng.entrySize) % srng.ringSize
    taken := device.taken ++
      [loadWords mem (descPtr srng device.tail) srng.entrySize.toNat] }

/-- The state of the receive module. The logs `enqueued` and `received` are history
only. -/
structure Rx where
  hal : Hal
  pipesCount : Nat
  pipes : Nat → SrngTestPipe
  buffers : Buffers
  lock : RxLock
  drains : Nat → Drain
  initPost : PostBuf
  timerPost : PostBuf
  retryArmed : Bool
  live : Bool
  devices : Nat → RxDevice
  enqueued : Nat → List (Nat × UInt64)
  received : Nat → List (Option Nat × UInt32)

namespace Rx

inductive Event where
  | drainStart (pipe : Nat)
  | recvBegin (pipe : Nat)
  | recvTake
  | recvEnd
  | drainTake (pipe : Nat)
  | drainFlush (pipe : Nat)
  | drainPost (pipe : Nat)
  | drainLock (pipe : Nat)
  | drainReturn (pipe : Nat)
  | timerFire
  | postBufNext (timer : Bool)
  | postBufLock (timer : Bool)
  | postBufReturn (timer : Bool)
  | postBuffer (tailroom : Option UInt32) (paddr : Option UInt64)
  | enqueueStore
  | enqueueEnd
  | deviceConsume (pipe : Nat)
  | deviceStoreTail (pipe : Nat)
  | deviceReport (pipe : Nat) (length flag : UInt32)
  | deviceStoreHead (pipe : Nat)
  | deinit
  deriving DecidableEq, Repr

def setPipe (rx : Rx) (index : Nat) (pipe : SrngTestPipe) : Rx :=
  { rx with pipes := Function.update rx.pipes index pipe }

def setDrain (rx : Rx) (index : Nat) (drain : Drain) : Rx :=
  { rx with drains := Function.update rx.drains index drain }

def setDevice (rx : Rx) (index : Nat) (device : RxDevice) : Rx :=
  { rx with devices := Function.update rx.devices index device }

def postBuf (rx : Rx) (timer : Bool) : PostBuf :=
  if timer then rx.timerPost else rx.initPost

def setPostBuf (rx : Rx) (timer : Bool) (postBuf : PostBuf) : Rx :=
  if timer then { rx with timerPost := postBuf } else { rx with initPost := postBuf }

/-- The two rings of a receive pipe; the source dereferences both. -/
def rings (rx : Rx) (index : Nat) : Option (SrngTestRing × SrngTestRing) :=
  match (rx.pipes index).dstRing, (rx.pipes index).statusRing with
  | some dst, some status => some (dst, status)
  | _, _ => none

/-! `wireless_simu_irq_hal_srng_dst_dma_test` and the `recv_next` it calls. -/

def recvBegin (rx : Rx) (index : Nat) : Option Rx :=
  match rx.lock, rx.drains index, rx.rings index with
  | .free, .recv _, some (dst, status) =>
      some { rx with
        hal := halSrngAccessBegin rx.hal status.halRingId.toNat
        lock := .recvBegun index dst.swIndex }
  | _, _, _ => none

def recvResult (rx : Rx) (index : Nat)
    (outcome : Hal × SrngTestPipe × Except Int (Option Nat × UInt32)) : Rx :=
  { rx.setPipe index outcome.2.1 with
    hal := outcome.1
    lock := .recvDone index outcome.2.2
    received :=
      match outcome.2.2 with
      | .ok entry => Function.update rx.received index (rx.received index ++ [entry])
      | .error _ => rx.received }

def recvTake (rx : Rx) : Option Rx :=
  match rx.lock with
  | .recvBegun index swIndex =>
      match rx.rings index with
      | some (dst, status) =>
          some (rx.recvResult index
            (testDstRecvNext rx.hal (rx.pipes index) dst status swIndex))
      | none => none
  | _ => none

def afterRecv (list : List Nat) : Except Int (Option Nat × UInt32) → Drain
  | .ok (skb, nbytes) => .took list skb nbytes
  | .error _ => .flush list

def recvEnd (rx : Rx) : Option Rx :=
  match rx.lock with
  | .recvDone index result =>
      match rx.drains index, rx.rings index with
      | .recv list, some (_, status) =>
          some { rx.setDrain index (afterRecv list result) with
            hal := halSrngAccessEnd rx.hal status.halRingId.toNat
            lock := .free }
      | _, _ => none
  | _ => none

/-- The body of the receive loop. A buffer pointer that is NULL has no next step:
the source dereferences it. -/
def drainTake (rx : Rx) (index : Nat) : Option Rx :=
  match rx.drains index with
  | .took list (some skb) nbytes =>
      let maxNbytes := (rx.buffers.skb skb).room
      let buffers :=
        rx.buffers.dmaUnmapSingle skb (rx.buffers.skb skb).paddr maxNbytes
      if maxNbytes < nbytes then
        some { rx.setDrain index (.recv list) with buffers := buffers.devKfreeSkb skb }
      else
        (buffers.skbPut skb nbytes).map fun buffers =>
          { rx.setDrain index (.recv (list ++ [skb])) with buffers := buffers }
  | _ => none

def drainFlush (rx : Rx) (index : Nat) : Option Rx :=
  match rx.drains index with
  | .flush (skb :: list) =>
      some { rx.setDrain index (.flush list) with
        buffers := rx.buffers.devKfreeSkb skb }
  | .flush [] => some (rx.setDrain index .post)
  | _ => none

/-- The look of `post_pipe` at its two rings, without the lock. -/
def drainPost (rx : Rx) (index : Nat) : Option Rx :=
  match rx.drains index with
  | .post =>
      some (rx.setDrain index (if (rx.rings index).isSome then .wait else .posted 0))
  | _ => none

def drainLock (rx : Rx) (index : Nat) : Option Rx :=
  match rx.drains index, rx.lock with
  | .wait, .free => some { rx with lock := .postLoop (.drain index) index }
  | _, _ => none

def drainReturn (rx : Rx) (index : Nat) : Option Rx :=
  match rx.drains index with
  | .posted ret =>
      some { rx.setDrain index .idle with
        retryArmed := rx.retryArmed || (ret ≠ 0 && ret ≠ -enospc) }
  | _ => none

/-! `wireless_simu_test_dst_post_buf`, called by the initialisation and by the
timer. -/

def timerFire (rx : Rx) : Option Rx :=
  if rx.retryArmed ∧ rx.timerPost = .idle then
    some { rx with retryArmed := false, timerPost := .next 0 }
  else none

def postBufNext (rx : Rx) (timer : Bool) : Option Rx :=
  match rx.postBuf timer with
  | .next index =>
      some (rx.setPostBuf timer
        (if index < rx.pipesCount then
          if (rx.rings index).isSome then .wait index else .posted index 0
        else .idle))
  | _ => none

def postBufLock (rx : Rx) (timer : Bool) : Option Rx :=
  match rx.postBuf timer, rx.lock with
  | .wait index, .free =>
      some { rx with lock := .postLoop (if timer then .timer else .init) index }
  | _, _ => none

def postBufReturn (rx : Rx) (timer : Bool) : Option Rx :=
  match rx.postBuf timer with
  | .posted index ret =>
      if ret = 0 ∨ ret = -enospc then some (rx.setPostBuf timer (.next (index + 1)))
      else some { rx.setPostBuf timer .idle with retryArmed := true }
  | _ => none

/-! `wireless_simu_test_dst_post_pipe` with the lock. -/

/-- The unlock at its end, with the value returned to the caller. -/
def postExit (rx : Rx) (poster : Poster) (index : Nat) (ret : Int) : Rx :=
  match poster with
  | .init => { rx with lock := .free, initPost := .posted index ret }
  | .timer => { rx with lock := .free, timerPost := .posted index ret }
  | .drain pipe => { rx.setDrain pipe (.posted ret) with lock := .free }

/-- One turn of its loop up to the `access_begin` of `enqueue_pipe`. `tailroom` and
`paddr` are the answers of `dev_alloc_skb` and `dma_map_single`. -/
def postBuffer (rx : Rx) (tailroom : Option UInt32) (paddr : Option UInt64) :
    Option Rx :=
  match rx.lock with
  | .postLoop poster index =>
      if (rx.pipes index).rxBufNeeded = 0 then some (rx.postExit poster index 0)
      else
        match tailroom with
        | none => some (rx.postExit poster index (-enomem))
        | some tailroom =>
            let (buffers, skb) := rx.buffers.devAllocSkb tailroom
            match paddr with
            -- The buffer stays behind here: nothing refers to it any more.
            | none => some ({ rx with buffers := buffers }.postExit poster index (-eio))
            | some paddr =>
                match (rx.pipes index).dstRing with
                | none => none
                | some dst =>
                    some { rx with
                      buffers := (buffers.dmaMapSingle skb paddr
                        (buffers.skb skb).room).setPaddr skb paddr
                      hal := halSrngAccessBegin rx.hal dst.halRingId.toNat
                      lock := .enqueueBegun poster index skb paddr dst.writeIndex }
  | _ => none

def enqueueResult (rx : Rx) (poster : Poster) (index skb : Nat) (paddr : UInt64)
    (outcome : Hal × SrngTestPipe × Int) : Rx :=
  { rx.setPipe index outcome.2.1 with
    hal := outcome.1
    lock := .enqueueDone poster index skb paddr outcome.2.2
    enqueued :=
      if outcome.2.2 = 0 then
        Function.update rx.enqueued index (rx.enqueued index ++ [(skb, paddr)])
      else rx.enqueued }

def enqueueStore (rx : Rx) : Option Rx :=
  match rx.lock with
  | .enqueueBegun poster index skb paddr writeIndex =>
      match (rx.pipes index).dstRing with
      | none => none
      | some dst =>
          some (rx.enqueueResult poster index skb paddr
            (testDstEnqueuePipe rx.hal (rx.pipes index) dst skb paddr writeIndex))
  | _ => none

def enqueueEnd (rx : Rx) : Option Rx :=
  match rx.lock with
  | .enqueueDone poster index skb paddr ret =>
      match (rx.pipes index).dstRing with
      | none => none
      | some dst =>
          let rx :=
            { rx with hal := halSrngAccessEnd rx.hal dst.halRingId.toNat }
          if ret = 0 then some { rx with lock := .postLoop poster index }
          else
            let buffers :=
              rx.buffers.dmaUnmapSingle skb paddr (rx.buffers.skb skb).room
            some ({ rx with buffers := buffers.devKfreeSkb skb }.postExit poster
              index ret)
  | _ => none

/-! The device. It takes posted descriptors in ring order, stores its tail, and
only then reports each buffer it filled, with a length that is not zero. -/

def deviceConsume (rx : Rx) (index : Nat) : Option Rx :=
  match (rx.pipes index).dstRing with
  | none => none
  | some dst =>
      let srng := rx.hal.srngList dst.halRingId.toNat
      let device := rx.devices index
      if device.tail = rx.hal.load srng.srcRing.hpAddr then none
      else
        some (rx.setDevice index (device.consume srng dst.mem))

def deviceStoreTail (rx : Rx) (index : Nat) : Option Rx :=
  match (rx.pipes index).dstRing with
  | none => none
  | some dst =>
      let srng := rx.hal.srngList dst.halRingId.toNat
      let device := rx.devices index
      some { rx.setDevice index { device with storedTail := device.taken.length } with
        hal := rx.hal.store srng.srcRing.tpAddr device.tail }

def deviceReport (rx : Rx) (index : Nat) (length flag : UInt32) : Option Rx :=
  match (rx.pipes index).statusRing with
  | none => none
  | some status =>
      let srng := rx.hal.srngList status.halRingId.toNat
      let device := rx.devices index
      if length ≠ 0 ∧ device.reported.length < device.storedTail then
        let pipe :=
          { rx.pipes index with
            statusRing := some
              { status with
                mem := storeWords status.mem (descPtr srng device.head)
                  [length, flag] } }
        some ((rx.setPipe index pipe).setDevice index
          { device with
            head := (device.head + srng.entrySize) % srng.ringSize
            reported := device.reported ++ [(length, flag)] })
      else none

def deviceStoreHead (rx : Rx) (index : Nat) : Option Rx :=
  match (rx.pipes index).statusRing with
  | none => none
  | some status =>
      let srng := rx.hal.srngList status.halRingId.toNat
      some { rx with
        hal := rx.hal.store srng.dstRing.hpAddr (rx.devices index).head }

end Rx

/-! Teardown. -/

def cleanupSlot (state : Buffers × SrngTestRing) (slot : Nat) :
    Buffers × SrngTestRing :=
  match state.2.skb slot with
  | none => state
  | some skb =>
      let buffers := state.1.dmaUnmapSingle skb (state.1.skb skb).paddr
        (state.1.skb skb).room
      (buffers.devKfreeSkb skb,
        { state.2 with skb := Function.update state.2.skb slot none })

/-- `wireless_simu_hal_srng_dst_test_cleanuprx` on a ring that is there. -/
def dstTestCleanuprx (buffers : Buffers) (ring : SrngTestRing) :
    Buffers × SrngTestRing :=
  (List.range ring.nentries.toNat).foldl cleanupSlot (buffers, ring)

def halSrngTestFreePipe (pipe : SrngTestPipe) : SrngTestPipe :=
  { pipe with srcRing := none, dstRing := none, statusRing := none }

def halSrngTestFreePipes (count : Nat) (pipes : Nat → SrngTestPipe) :
    Nat → SrngTestPipe :=
  fun index => if index < count then halSrngTestFreePipe (pipes index) else pipes index

namespace Rx

def cleanupPipes (pipes : Nat → SrngTestPipe) (buffers : Buffers) : Nat → Buffers
  | 0 => buffers
  | count + 1 =>
      let buffers := cleanupPipes pipes buffers count
      match (pipes count).dstRing with
      | none => buffers
      | some ring => (dstTestCleanuprx buffers ring).1

/-- `tasklet_kill` waits for every drain to end. -/
def deinit (rx : Rx) : Option Rx :=
  match rx.lock, rx.initPost with
  | .free, .idle =>
      if ∀ index ∈ List.range rx.pipesCount, rx.drains index = .idle then
        some { rx with
          buffers := cleanupPipes rx.pipes rx.buffers rx.pipesCount
          pipes := halSrngTestFreePipes rx.pipesCount rx.pipes
          live := false }
      else none
  | _, _ => none

def step (rx : Rx) (event : Event) : Option Rx :=
  if rx.live = false then none
  else
    match event with
    | .drainStart index =>
        if index < rx.pipesCount ∧ rx.drains index = .idle then
          some (rx.setDrain index (.recv []))
        else none
    | .recvBegin index => rx.recvBegin index
    | .recvTake => rx.recvTake
    | .recvEnd => rx.recvEnd
    | .drainTake index => rx.drainTake index
    | .drainFlush index => rx.drainFlush index
    | .drainPost index => rx.drainPost index
    | .drainLock index => rx.drainLock index
    | .drainReturn index => rx.drainReturn index
    | .timerFire => rx.timerFire
    | .postBufNext timer => rx.postBufNext timer
    | .postBufLock timer => rx.postBufLock timer
    | .postBufReturn timer => rx.postBufReturn timer
    | .postBuffer tailroom paddr => rx.postBuffer tailroom paddr
    | .enqueueStore => rx.enqueueStore
    | .enqueueEnd => rx.enqueueEnd
    | .deviceConsume index =>
        if index < rx.pipesCount then rx.deviceConsume index else none
    | .deviceStoreTail index =>
        if index < rx.pipesCount then rx.deviceStoreTail index else none
    | .deviceReport index length flag =>
        if index < rx.pipesCount then rx.deviceReport index length flag else none
    | .deviceStoreHead index =>
        if index < rx.pipesCount then rx.deviceStoreHead index else none
    | .deinit => rx.deinit

/-- The module when all rings are registered and `dst_test_init` calls
`post_buf`. -/
def start (hal : Hal) (pipesCount : Nat) (pipes : Nat → SrngTestPipe) : Rx where
  hal := hal
  pipesCount := pipesCount
  pipes := pipes
  buffers := .empty
  lock := .free
  drains := fun _ => .idle
  initPost := .next 0
  timerPost := .idle
  retryArmed := false
  live := true
  devices := fun _ =>
    { tail := 0, head := 0, storedTail := 0, taken := [], reported := [] }
  enqueued := fun _ => []
  received := fun _ => []

end Rx

/-! `wireless_simu_hal_srng_dst_test_init` up to `post_buf`. -/

/-- The pipes after the first `count` allocations. -/
def allocPipes (memory : Nat → Fin 3 → RingMemory) (attrs : Nat → SrngTestAttr) :
    Nat → (Nat → SrngTestPipe) × Int
  | 0 => (fun _ => .zero, 0)
  | count + 1 =>
      let (pipes, ret) := allocPipes memory attrs count
      if ret ≠ 0 then (pipes, ret)
      else
        let (pipe, ret) :=
          halSrngTestAllocPipe (memory count) (pipes count) count (attrs count)
        (Function.update pipes count pipe, ret)

/-- Registration of one pipe; `some` is the value of an error exit. A pipe without
its two rings leaves with the zero of the calls before. -/
def dstTestInitPipe (hal : Hal) (pipe : SrngTestPipe) (index : Nat) :
    Hal × SrngTestPipe × Option Int :=
  if pipe.srcRing.isSome then (hal, pipe, some (-einval))
  else
    match pipe.dstRing, pipe.statusRing with
    | some dst, some status =>
        let (hal, dst, first) := halSrngTestInitRing hal dst index .testSrngDst
        let (hal, status, second) :=
          halSrngTestInitRing hal status index .testSrngDstStatus
        -- Both calls fail with the same code, so that or-ing them picks one.
        let ret := if first ≠ 0 then first else second
        if ret ≠ 0 then
          (hal, { pipe with dstRing := some dst, statusRing := some status }, some ret)
        else
          (hal,
            { pipe with
              dstRing := some { dst with writeIndex := 0, swIndex := 0 }
              statusRing := some { status with writeIndex := 0, swIndex := 0 }
              rxBufNeeded := if dst.nentries ≠ 0 then dst.nentries - 2 else 0 },
            none)
    | _, _ => (hal, pipe, some 0)

/-- One turn of the loop of `dst_test_init`, which an error ends. -/
def dstTestInitNext (state : Hal × (Nat → SrngTestPipe) × Option Int) (index : Nat) :
    Hal × (Nat → SrngTestPipe) × Option Int :=
  match state with
  | (hal, pipes, some ret) => (hal, pipes, some ret)
  | (hal, pipes, none) =>
      let (hal, pipe, ret) := dstTestInitPipe hal (pipes index) index
      (hal, Function.update pipes index pipe, ret)

def initPipes (hal : Hal) (pipes : Nat → SrngTestPipe) :
    Nat → Hal × (Nat → SrngTestPipe) × Option Int
  | 0 => (hal, pipes, none)
  | count + 1 => dstTestInitNext (initPipes hal pipes count) count

/-- `none` in the last place means that every ring is registered. -/
def dstTestSetup (hal : Hal) (pipesCount : Nat) (memory : Nat → Fin 3 → RingMemory)
    (attrs : Nat → SrngTestAttr) : Hal × (Nat → SrngTestPipe) × Option Int :=
  let (pipes, ret) := allocPipes memory attrs pipesCount
  if ret ≠ 0 then (hal, halSrngTestFreePipes pipesCount pipes, some ret)
  else
    match initPipes hal pipes pipesCount with
    | (hal, pipes, some ret) =>
        (hal, halSrngTestFreePipes pipesCount pipes, some ret)
    | (hal, pipes, none) => (hal, pipes, none)

end WirelessSimu
