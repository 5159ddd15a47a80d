import WirelessSimu.Hal.Isolation
import Mathlib.Tactic.Common

namespace WirelessSimu

open Kernel

/-! The rings and pipes of the test modules, from their allocation to their
registration with the HAL. A pointer to a ring is an `Option`; a socket buffer is
named by its number. -/

structure SrngTestAttr where
  flags : UInt32
  srcNentries : UInt32
  srcSzMax : UInt32
  destNentries : UInt32
  deriving DecidableEq, Repr

def srngTestConfig : SrngTestAttr :=
  { flags := 0, srcNentries := 32, srcSzMax := 2048, destNentries := 0 }

def srngTestDstConfig : SrngTestAttr :=
  { flags := 0, srcNentries := 0, srcSzMax := 2048, destNentries := 32 }

/-- `mem` is the coherent area of the ring, by byte address. -/
structure SrngTestRing where
  nentries : UInt32
  nentriesMask : UInt32
  swIndex : UInt32
  writeIndex : UInt32
  baseAddrOwnerSpaceUnaligned : Nat
  baseAddrTestSpaceUnaligned : UInt64
  dmaSize : Nat
  baseAddrOwnerSpace : Nat
  baseAddrTestSpace : UInt64
  halRingId : UInt32
  skb : Nat → Option Nat
  mem : Nat → UInt32

structure SrngTestPipe where
  pipeNum : Nat
  attrFlags : UInt32
  bufSz : UInt32
  rxBufNeeded : UInt32
  srcRing : Option SrngTestRing
  dstRing : Option SrngTestRing
  statusRing : Option SrngTestRing

/-- A pipe as `kzalloc` or `memset` leaves it. -/
def SrngTestPipe.zero : SrngTestPipe where
  pipeNum := 0
  attrFlags := 0
  bufSz := 0
  rxBufNeeded := 0
  srcRing := none
  dstRing := none
  statusRing := none

def srngTestDescRingAlign : Nat := 8

def halTestSw2hwBytes : Nat := 20

def halTestDstBytes : Nat := 12

def halTestDstStatusBytes : Nat := 8

/-- `struct_size(ring, skb, nentries)`. -/
def srngTestRingBytes (nentries : UInt32) : Nat := 64 + 8 * nentries.toNat

/-- The memory at one `hal_srng_test_alloc_ring`: whether `kzalloc` finds room for the
ring, the two addresses of the coherent area and what all words hold before. The largest
request that `kzalloc` serves depends on the page size. -/
structure RingMemory where
  kmallocMaxSize : Nat
  kmallocMaxSize_le : kmallocMaxSize ≤ 2 ^ 29
  ring : Bool
  area : Option (Nat × UInt64)
  contents : Nat → UInt32

/-- Memory with pages of 4 KiB in which every word is zero. -/
def RingMemory.small (ring : Bool) (area : Option (Nat × UInt64)) : RingMemory where
  kmallocMaxSize := 2 ^ 22
  kmallocMaxSize_le := by decide
  ring := ring
  area := area
  contents := fun _ => 0

def ptrAlign (address : Nat) : Nat := (address + 7) / 8 * 8

def dmaAlign (address : UInt64) : UInt64 := (address + 7) &&& ~~~7

/-- The size of the area is computed in `int`, where it fits for every ring that
`kzalloc` served. -/
def halSrngTestAllocRing (memory : RingMemory) (nentries : UInt32) (descSz : Nat) :
    Except Int SrngTestRing :=
  if memory.ring = false ∨ srngTestRingBytes nentries > memory.kmallocMaxSize then
    .error (-enomem)
  else
    match memory.area with
    | none => .error (-enomem)
    | some (vaddr, paddr) =>
        .ok
          { nentries := nentries
            nentriesMask := nentries - 1
            swIndex := 0
            writeIndex := 0
            baseAddrOwnerSpaceUnaligned := vaddr
            baseAddrTestSpaceUnaligned := paddr
            dmaSize := nentries.toNat * descSz + srngTestDescRingAlign
            baseAddrOwnerSpace := ptrAlign vaddr
            baseAddrTestSpace := dmaAlign paddr
            halRingId := 0
            skb := fun _ => none
            mem := memsetZero memory.contents vaddr
              (nentries.toNat * descSz + srngTestDescRingAlign) }

/-- `fls_long`: one more than the position of the highest set bit. -/
def flsLong (value : Nat) : Nat := if value = 0 then 0 else value.log2 + 1

def roundupPowOfTwo (value : Nat) : Nat := 2 ^ flsLong (value - 1)

/-- `int nentries = roundup_pow_of_two(..)`. -/
def ringEntries (nentries : UInt32) : UInt32 :=
  UInt32.ofNat (roundupPowOfTwo nentries.toNat)

/-- The first half of `hal_srng_test_alloc_pipe`. -/
def allocSrcRing (memory : RingMemory) (pipe : SrngTestPipe) (attr : SrngTestAttr) :
    SrngTestPipe × Int :=
  if attr.srcNentries = 0 then (pipe, 0)
  else
    match halSrngTestAllocRing memory (ringEntries attr.srcNentries)
      halTestSw2hwBytes with
    | .error code => (pipe, code)
    | .ok ring => ({ pipe with srcRing := some ring }, 0)

/-- The second half of `hal_srng_test_alloc_pipe`. -/
def allocDstRings (dstMemory statusMemory : RingMemory) (pipe : SrngTestPipe)
    (attr : SrngTestAttr) : SrngTestPipe × Int :=
  if attr.destNentries = 0 then (pipe, 0)
  else
    match halSrngTestAllocRing dstMemory (ringEntries attr.destNentries)
      halTestDstBytes with
    | .error code => (pipe, code)
    | .ok dst =>
        match halSrngTestAllocRing statusMemory (ringEntries attr.destNentries)
          halTestDstStatusBytes with
        | .error code => ({ pipe with dstRing := some dst }, code)
        | .ok status =>
            ({ pipe with dstRing := some dst, statusRing := some status }, 0)

/-- `memory` answers the allocations of the source, the destination and the
status ring. A failed call keeps the rings allocated before. -/
def halSrngTestAllocPipe (memory : Fin 3 → RingMemory) (pipe : SrngTestPipe)
    (id : Nat) (attr : SrngTestAttr) : SrngTestPipe × Int :=
  let source := allocSrcRing (memory 0)
    { pipe with attrFlags := attr.flags, pipeNum := id, bufSz := attr.srcSzMax } attr
  if source.2 ≠ 0 then source
  else allocDstRings (memory 1) (memory 2) source.1 attr

/-! The answers for each of the three rings. -/

def srcMemory (memory : Fin 3 → RingMemory) : RingMemory := memory 0

def dstMemory (memory : Fin 3 → RingMemory) : RingMemory := memory 1

def statusMemory (memory : Fin 3 → RingMemory) : RingMemory := memory 2

/-- The parameters that `hal_srng_test_init_ring` fills in. -/
def SrngTestRing.params (ring : SrngTestRing) : HalSrngParams where
  ringBasePaddr := ring.baseAddrTestSpace
  ringBaseVaddr := ring.baseAddrOwnerSpace
  numEntries := ring.nentries.toInt32
  intrBatchCntrThresEntries := 0
  intrTimerThresUs := 0
  flags := 0
  lowThreshold := 0
  msiAddr := 0
  msiData := 0

/-- Every ring type has a case in the source, so that its default error exit is
not reached. -/
def halSrngTestInitRing (hal : Hal) (ring : SrngTestRing) (id : Int)
    (type : HalRingType) : Hal × SrngTestRing × Int :=
  let (hal, mem, ret) := halSrngSetup hal ring.mem type id 0 ring.params
  if ret < 0 then (hal, { ring with mem := mem }, ret)
  else (hal, { ring with mem := mem, halRingId := UInt32.ofInt ret }, 0)

/-- The slots of a ring that hold no buffer are NULL. -/
def SrngTestRing.occupied (ring : SrngTestRing) : Nat :=
  ((List.range ring.nentries.toNat).filterMap ring.skb).length

/-! What allocation and registration establish. -/

/-- A ring of `entries` slots, a power of two, right after its allocation. -/
structure FreshRing (ring : SrngTestRing) (entries : Nat) : Prop where
  nentries_eq : ring.nentries.toNat = entries
  mask_eq : ring.nentriesMask = ring.nentries - 1
  power : ∃ exponent, entries = 2 ^ exponent
  small : entries < 2 ^ 26
  swIndex_eq : ring.swIndex = 0
  writeIndex_eq : ring.writeIndex = 0
  skb_eq : ∀ slot, ring.skb slot = none

theorem halSrngTestAllocRing_fresh {memory : RingMemory} {nentries : UInt32}
    {descSz : Nat} {ring : SrngTestRing}
    (allocated : halSrngTestAllocRing memory nentries descSz = .ok ring)
    (power : ∃ exponent, nentries.toNat = 2 ^ exponent) :
    FreshRing ring nentries.toNat := by
  unfold halSrngTestAllocRing at allocated
  split at allocated
  · contradiction
  next served =>
      have small : nentries.toNat < 2 ^ 26 := by
        have served := (not_or.mp served).2
        have bounded := memory.kmallocMaxSize_le
        rw [srngTestRingBytes] at served
        omega
      split at allocated
      · contradiction
      · cases allocated
        exact ⟨rfl, rfl, power, small, rfl, rfl, fun _ => rfl⟩

/-- A ring that was registered holds the id that `setup` returned. -/
theorem halSrngTestInitRing_setup {hal hal' : Hal} {ring ring' : SrngTestRing}
    {ringNum : Int} {type : HalRingType}
    (done : halSrngTestInitRing hal ring ringNum type = (hal', ring', 0)) :
    ∃ id : Nat, halSrngSetup hal ring.mem type ringNum 0 ring.params =
        (hal', ring'.mem, (id : Int)) ∧
      ring' = { ring with mem := ring'.mem, halRingId := UInt32.ofInt id } ∧
      ring'.halRingId.toNat = id := by
  unfold halSrngTestInitRing at done
  generalize setup : halSrngSetup hal ring.mem type ringNum 0 ring.params = result at done
  obtain ⟨after, mem, ret⟩ := result
  simp only at done
  split at done
  next failed =>
      simp only [Prod.mk.injEq] at done
      omega
  next found =>
      simp only [Prod.mk.injEq] at done
      obtain ⟨rfl, rfl, _⟩ := done
      obtain ⟨id, rfl⟩ := Int.eq_ofNat_of_zero_le (Int.not_lt.mp found)
      have small := halSrngGetRingId_lt (halSrngSetup_ringId setup)
      refine ⟨id, rfl, rfl, ?_⟩
      simp only
      rw [UInt32.ofInt, UInt32.toNat_ofNat']
      omega

theorem ringEntries_power {nentries : UInt32}
    (nonzero : (ringEntries nentries).toNat ≠ 0) :
    ∃ exponent, (ringEntries nentries).toNat = 2 ^ exponent := by
  refine ⟨flsLong (nentries.toNat - 1), ?_⟩
  rw [ringEntries, UInt32.toNat_ofNat', roundupPowOfTwo] at nonzero ⊢
  by_cases large : flsLong (nentries.toNat - 1) < 32
  · exact Nat.mod_eq_of_lt (Nat.pow_lt_pow_right (by decide) large)
  · obtain ⟨more, exponent⟩ := Nat.exists_eq_add_of_le (Nat.le_of_not_lt large)
    rw [exponent, Nat.pow_add] at nonzero
    simp at nonzero

end WirelessSimu
