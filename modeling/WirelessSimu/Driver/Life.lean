import WirelessSimu.Hal.Registers
import WirelessSimu.Hal.SourceFifo
import WirelessSimu.Rx.System

namespace WirelessSimu

open Data Kernel

/-! The life of the driver as far as it concerns memory that the device reads: the
receive module from `dst_test_init` to `dst_test_deinit`, the self test that probe
runs in between, and the disabling of the device at the end of remove. The receive
module runs concurrently with everything else, and so does the device. -/

def srngTestPipeCountMax : Nat := 1

/-- `round_up(50, 4)` bytes are sent. -/
def srngTestDataSize : UInt32 := 52

def srngTestSends : Nat := 50

/-- `wireless_simu_hal_srng_test` up to the buffer: one pipe with a source ring. -/
def halSrngTestSetup (hal : Hal) (memory : Fin 3 → RingMemory) :
    Hal × SrngTestPipe × Int :=
  let (pipe, ret) := halSrngTestAllocPipe memory .zero 0 srngTestConfig
  if ret ≠ 0 then (hal, halSrngTestFreePipe pipe, ret)
  else
    match pipe.srcRing with
    | none => (hal, pipe, 0)
    | some ring =>
        let (hal, ring, ret) := halSrngTestInitRing hal ring 0 .testSrng
        if ret ≠ 0 then (hal, halSrngTestFreePipe pipe, ret)
        else
          (hal, { pipe with srcRing := some { ring with swIndex := 0, writeIndex := 0 } },
            0)

/-- Where the receive module is in its life; `failed` is after an error of
`dst_test_init`, which probe does not look at. -/
inductive DstPhase where
  | before
  | up
  | failed
  | down
  deriving DecidableEq, Repr

/-- Where `wireless_simu_hal_srng_test` is. `loop` counts the sends; `freeDma` and
`freePipes` are its exit labels. -/
inductive TestPhase where
  | before
  | registered
  | loop (testCount : Nat)
  | sendBegun (testCount : Nat) (writeIndex : UInt32)
  | sendDone (testCount : Nat) (ret : Int)
  | freeDma
  | freePipes
  | over
  deriving DecidableEq, Repr

/-- The HAL is the one in `rx`. `testMapped` is the mapping of the test buffer;
`testFilled` and `testConsumed` are the logs of the test ring, and `testTail` is the
device's tail on it. -/
structure Driver where
  rx : Rx
  dst : DstPhase
  test : TestPhase
  testPipe : SrngTestPipe
  testMapped : Option UInt64
  testFilled : List (Nat × List UInt32)
  testTail : UInt32
  testConsumed : List (Nat × List UInt32)
  master : Bool

namespace Driver

inductive Event where
  | dstInit (memory : Option (Nat → Fin 3 → RingMemory))
  | rx (event : Rx.Event)
  | testInit (memory : Option (Fin 3 → RingMemory))
  | testMap (paddr : Option UInt64)
  | sendBegin
  | sendStore
  | sendEnd
  | testConsume
  | testStoreTail
  | freeDma
  | freePipes
  | dstDeinit
  | disableDevice

/-- Probe after `wireless_simu_hal_srng_init`, with the device's registers. -/
def start (cpuBigEndian : Bool) (rdpPaddr : UInt64) (mmio : UInt32 → UInt32) :
    Driver where
  rx := .start (halSrngInit cpuBigEndian rdpPaddr mmio) 0 fun _ => .zero
  dst := .before
  test := .before
  testPipe := .zero
  testMapped := none
  testFilled := []
  testTail := 0
  testConsumed := []
  master := true

def setHal (driver : Driver) (hal : Hal) : Driver :=
  { driver with rx := { driver.rx with hal := hal } }

def dstInit (driver : Driver) : Option (Nat → Fin 3 → RingMemory) → Driver
  | none => { driver with dst := .failed }
  | some memory =>
      match dstTestSetup driver.rx.hal srngTestPipeCountMax memory
        (fun _ => srngTestDstConfig) with
      | (hal, pipes, none) =>
          { driver with rx := .start hal srngTestPipeCountMax pipes, dst := .up }
      | (hal, pipes, some _) =>
          { driver with rx := { driver.rx with hal := hal, pipes := pipes },
                        dst := .failed }

def testInit (driver : Driver) : Option (Fin 3 → RingMemory) → Driver
  | none => { driver with test := .over }
  | some memory =>
      let (hal, pipe, ret) := halSrngTestSetup driver.rx.hal memory
      { driver.setHal hal with
        testPipe := pipe
        test := if ret ≠ 0 then .over else .registered }

def testSkb (paddr : UInt64) : SkBuff :=
  { len := srngTestDataSize, tailroom := 0, paddr := paddr }

def sendBegin (driver : Driver) : Option Driver :=
  match driver.test, driver.testPipe.srcRing with
  | .loop testCount, some ring =>
      if testCount < srngTestSends then
        some { driver.setHal
            (halSrngAccessBegin driver.rx.hal ring.halRingId.toNat) with
          test := .sendBegun testCount ring.writeIndex }
      else some { driver with test := .freeDma }
  | _, _ => none

/-- The descriptor that the send writes, with its address in the ring. -/
def sendLog (driver : Driver) (ring : SrngTestRing) (words : List UInt32) (ret : Int) :
    List (Nat × List UInt32) :=
  if ret = 0 then
    driver.testFilled ++
      [(descPtr (driver.rx.hal.srngList ring.halRingId.toNat)
        (driver.rx.hal.srngList ring.halRingId.toNat).srcRing.hp, words)]
  else driver.testFilled

def sendStore (driver : Driver) : Option Driver :=
  match driver.test, driver.testPipe.srcRing, driver.testMapped with
  | .sendBegun testCount writeIndex, some ring, some paddr =>
      let (hal, ring', ret) :=
        halSrngTestSend driver.rx.hal ring 0 (testSkb paddr) 0 writeIndex
      some { driver.setHal hal with
        testPipe := { driver.testPipe with srcRing := some ring' }
        testFilled := driver.sendLog ring
          (testSrcSetDesc (testSkb paddr) 0 0 writeIndex) ret
        test := .sendDone testCount ret }
  | _, _, _ => none

def sendEnd (driver : Driver) : Option Driver :=
  match driver.test, driver.testPipe.srcRing with
  | .sendDone testCount ret, some ring =>
      some { driver.setHal (halSrngAccessEnd driver.rx.hal ring.halRingId.toNat) with
        test := if ret ≠ 0 then .freeDma else .loop (testCount + 1) }
  | _, _ => none

def testConsume (driver : Driver) : Option Driver :=
  match driver.testPipe.srcRing with
  | none => none
  | some ring =>
      let srng := driver.rx.hal.srngList ring.halRingId.toNat
      let desc := descPtr srng driver.testTail
      if driver.testTail = driver.rx.hal.load srng.srcRing.hpAddr then none
      else
        some { driver with
          testConsumed := driver.testConsumed ++
            [(desc, loadWords ring.mem desc srng.entrySize.toNat)]
          testTail := (driver.testTail + srng.entrySize) % srng.ringSize }

def testStoreTail (driver : Driver) : Option Driver :=
  match driver.testPipe.srcRing with
  | none => none
  | some ring =>
      let srng := driver.rx.hal.srngList ring.halRingId.toNat
      some (driver.setHal (driver.rx.hal.store srng.srcRing.tpAddr driver.testTail))

/-- `dst_test_deinit`; after a failed init there is nothing left to free. -/
def dstDeinit (driver : Driver) : Option Driver :=
  match driver.dst with
  | .up => (driver.rx.step .deinit).map fun rx => { driver with rx := rx, dst := .down }
  | .failed => some { driver with dst := .down }
  | _ => none

/-- Probe calls `dst_test_init` and then the self test; remove comes after both. -/
def step (driver : Driver) : Event → Option Driver
  | .dstInit memory =>
      if driver.dst = .before then some (driver.dstInit memory) else none
  | .rx event =>
      if driver.dst = .up ∧ event ≠ .deinit then
        (driver.rx.step event).map fun rx => { driver with rx := rx }
      else none
  | .testInit memory =>
      if driver.test = .before ∧ (driver.dst = .failed ∨
          driver.dst = .up ∧ driver.rx.initPost = .idle) then
        some (driver.testInit memory)
      else none
  | .testMap paddr =>
      if driver.test = .registered then
        some { driver with
          testMapped := paddr
          test := if paddr.isSome then .loop 0 else .freePipes }
      else none
  | .sendBegin => driver.sendBegin
  | .sendStore => driver.sendStore
  | .sendEnd => driver.sendEnd
  | .testConsume => driver.testConsume
  | .testStoreTail => driver.testStoreTail
  | .freeDma =>
      if driver.test = .freeDma then
        some { driver with testMapped := none, test := .freePipes }
      else none
  | .freePipes =>
      if driver.test = .freePipes then
        some { driver with testPipe := halSrngTestFreePipe driver.testPipe, test := .over }
      else none
  | .dstDeinit => if driver.test = .over then driver.dstDeinit else none
  | .disableDevice =>
      if driver.dst = .down then some { driver with master := false } else none

end Driver

end WirelessSimu
