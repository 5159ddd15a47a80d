import WirelessSimu.Kernel.Base

namespace WirelessSimu

inductive HalSrngDir where
  | src
  | dst
  deriving DecidableEq, Repr

inductive HalRingType where
  | testSrng
  | testSrngDst
  | testSrngDstStatus
  deriving DecidableEq, Repr

def halSrngRingIdTestDstStatus : Int := 1

def halSrngRingIdTestDst : Int := 8

def halSrngRingIdWbmIdleLink : UInt8 := 104

def halSrngRingIdTestSw2hw : Int := 125

def halSrngRingIdUmacIdEnd : Int := 127

def halSrngRingIdLmac1IdStart : Int := 128

def halSrngRingIdLmac1IdEnd : Int := 143

def halSrngNumLmacs : Int := 3

def halSrngRingsPerLmac : Int :=
  halSrngRingIdLmac1IdEnd - halSrngRingIdLmac1IdStart

def halSrngNumLmacRings : Int := halSrngNumLmacs * halSrngRingsPerLmac

def halSrngRingIdMax : Int := halSrngRingIdUmacIdEnd + halSrngNumLmacRings

def halSrngFlagsMsiSwap : UInt32 := 0x00000008

def halSrngFlagsRingPtrSwap : UInt32 := 0x00000010

def halSrngFlagsDataTlvSwap : UInt32 := 0x00000020

def halSrngFlagsLowThreshIntrEn : UInt32 := 0x00010000

def halSrngFlagsLmacRing : UInt32 := 0x80000000

def halBasicReg (index : UInt32) : UInt32 := (index <<< 2) &&& 0x0000ffff

def halSrngRegBase : UInt32 := 0x00010000

def halSrngRegGrpR0 : UInt32 := 0

def halSrngRegGrpR2 : UInt32 := 1

def halSrngRegRGroupOffset (register : UInt32) : UInt32 := register <<< 2

def halTestSw2hwSize : UInt32 := 0x0000ffff

structure HalSrngConfig where
  startRingId : Int
  maxRings : UInt16
  entrySize : UInt16
  lmacRing : Bool
  ringDir : HalSrngDir
  maxSize : UInt32
  deriving DecidableEq, Repr

/-- The sizes are those of `hal_test_sw2hw`, `hal_test_dst` and
`hal_test_dst_status` in 32-bit words. -/
def hwSrngConfigTemplate : HalRingType → HalSrngConfig
  | .testSrng =>
      { startRingId := halSrngRingIdTestSw2hw, maxRings := 1, entrySize := 5,
        lmacRing := false, ringDir := .src, maxSize := halTestSw2hwSize }
  | .testSrngDst =>
      { startRingId := halSrngRingIdTestDst, maxRings := 1, entrySize := 3,
        lmacRing := false, ringDir := .src, maxSize := halTestSw2hwSize }
  | .testSrngDstStatus =>
      { startRingId := halSrngRingIdTestDstStatus, maxRings := 1, entrySize := 2,
        lmacRing := false, ringDir := .dst, maxSize := halTestSw2hwSize }

/-! A ring pointer word lives in one of three areas: the remote pointer memory
`rdp` that the device writes, the shared memory `wrp`, or the register file at
`mmio_addr`. A C pointer into one of them is the area with its index there, so
that a difference with the start of the area is `byteOffset`. -/

inductive WordPtr where
  | rdp (index : Nat)
  | wrp (index : Nat)
  | mmio (address : UInt32)
  deriving DecidableEq, Repr

def WordPtr.byteOffset : WordPtr → UInt64
  | .rdp index => 4 * UInt64.ofNat index
  | .wrp index => 4 * UInt64.ofNat index
  | .mmio address => address.toUInt64

structure SrcRing where
  hp : UInt32
  reapHp : UInt32
  tpAddr : WordPtr
  cachedTp : UInt32
  hpAddr : WordPtr
  lowThreshold : UInt32
  lastTp : UInt32
  deriving DecidableEq, Repr

structure DstRing where
  tp : UInt32
  hpAddr : WordPtr
  cachedHp : UInt32
  tpAddr : WordPtr
  loopCnt : UInt32
  lastHp : UInt32
  deriving DecidableEq, Repr

/-- `struct hal_srng`. The two sides of the union are separate fields, since
`ringDir` never changes after setup. `ringBaseVaddr` is a byte address. -/
structure HalSrng where
  ringId : UInt8
  initialized : UInt8
  ringBasePaddr : UInt64
  ringBaseVaddr : Nat
  numEntries : UInt32
  ringSize : UInt32
  entrySize : UInt32
  intrTimerThresUs : UInt32
  intrBatchCntrThresEntries : UInt32
  msiAddr : UInt64
  msiData : UInt32
  flags : UInt32
  hwregBaseR0 : UInt32
  hwregBaseR2 : UInt32
  ringDir : HalSrngDir
  srcRing : SrcRing
  dstRing : DstRing
  deriving DecidableEq, Repr

structure HalSrngParams where
  ringBasePaddr : UInt64
  ringBaseVaddr : Nat
  numEntries : Int32
  intrBatchCntrThresEntries : UInt32
  intrTimerThresUs : UInt32
  flags : UInt32
  lowThreshold : UInt32
  msiAddr : UInt64
  msiData : UInt32
  deriving DecidableEq, Repr

/-- `struct wireless_simu_hal` together with the register file behind
`priv->mmio_addr` and the byte order the driver is built for. -/
structure Hal where
  cpuBigEndian : Bool
  srngList : Nat → HalSrng
  srngConfig : HalRingType → HalSrngConfig
  rdp : Nat → UInt32
  rdpPaddr : UInt64
  wrp : Nat → UInt32
  mmio : UInt32 → UInt32

namespace Hal

def load (hal : Hal) : WordPtr → UInt32
  | .rdp index => hal.rdp index
  | .wrp index => hal.wrp index
  | .mmio address => hal.mmio address

def store (hal : Hal) (pointer : WordPtr) (value : UInt32) : Hal :=
  match pointer with
  | .rdp index => { hal with rdp := Function.update hal.rdp index value }
  | .wrp index => { hal with wrp := Function.update hal.wrp index value }
  | .mmio address => { hal with mmio := Function.update hal.mmio address value }

def setSrng (hal : Hal) (id : Nat) (srng : HalSrng) : Hal :=
  { hal with srngList := Function.update hal.srngList id srng }

@[simp] theorem load_store_self (hal : Hal) (pointer : WordPtr) (value : UInt32) :
    (hal.store pointer value).load pointer = value := by
  cases pointer <;> simp [load, store]

theorem load_store_of_ne (hal : Hal) {pointer other : WordPtr} (value : UInt32)
    (different : other ≠ pointer) :
    (hal.store pointer value).load other = hal.load other := by
  cases pointer <;> cases other <;> simp_all [load, store]

@[simp] theorem srngList_store (hal : Hal) (pointer : WordPtr) (value : UInt32) :
    (hal.store pointer value).srngList = hal.srngList := by
  cases pointer <;> rfl

@[simp] theorem srngConfig_store (hal : Hal) (pointer : WordPtr) (value : UInt32) :
    (hal.store pointer value).srngConfig = hal.srngConfig := by
  cases pointer <;> rfl

@[simp] theorem load_setSrng (hal : Hal) (id : Nat) (srng : HalSrng)
    (pointer : WordPtr) : (hal.setSrng id srng).load pointer = hal.load pointer := by
  cases pointer <;> rfl

@[simp] theorem srngList_setSrng_self (hal : Hal) (id : Nat) (srng : HalSrng) :
    (hal.setSrng id srng).srngList id = srng := by
  simp [setSrng]

theorem srngList_setSrng_of_ne (hal : Hal) {id other : Nat} (srng : HalSrng)
    (different : other ≠ id) :
    (hal.setSrng id srng).srngList other = hal.srngList other := by
  simp [setSrng, different]

end Hal

def hifWrite32 (hal : Hal) (address data : UInt32) : Hal :=
  hal.store (.mmio address) data

def hifRead32 (hal : Hal) (address : UInt32) : UInt32 :=
  hal.load (.mmio address)

end WirelessSimu
