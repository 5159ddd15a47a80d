import WirelessSimu.Hal.Types
import Mathlib.Tactic.SplitIfs

namespace WirelessSimu

open Kernel

/-- The HAL as a successful `wireless_simu_hal_srng_init` leaves it: zeroed, with
the configuration copied and both pointer areas fresh from
`dma_alloc_coherent`, which clears them. -/
def halSrngInit (cpuBigEndian : Bool) (rdpPaddr : UInt64)
    (mmio : UInt32 → UInt32) : Hal where
  cpuBigEndian := cpuBigEndian
  srngList := fun _ =>
    { ringId := 0, initialized := 0, ringBasePaddr := 0, ringBaseVaddr := 0,
      numEntries := 0, ringSize := 0, entrySize := 0, intrTimerThresUs := 0,
      intrBatchCntrThresEntries := 0, msiAddr := 0, msiData := 0, flags := 0,
      hwregBaseR0 := 0, hwregBaseR2 := 0, ringDir := .src,
      srcRing :=
        { hp := 0, reapHp := 0, tpAddr := .mmio 0, cachedTp := 0,
          hpAddr := .mmio 0, lowThreshold := 0, lastTp := 0 },
      dstRing :=
        { tp := 0, hpAddr := .mmio 0, cachedHp := 0, tpAddr := .mmio 0,
          loopCnt := 0, lastHp := 0 } }
  srngConfig := hwSrngConfigTemplate
  rdp := fun _ => 0
  rdpPaddr := rdpPaddr
  wrp := fun _ => 0
  mmio := mmio

def halSrngGetRingId (hal : Hal) (type : HalRingType) (ringNum macId : Int) : Int :=
  let srngConfig := hal.srngConfig type
  if ringNum ≥ srngConfig.maxRings.toNat then -einval
  else
    let ringId := srngConfig.startRingId + ringNum
    let ringId :=
      if srngConfig.lmacRing then ringId + macId * halSrngRingsPerLmac
      else ringId
    if ringId ≥ halSrngRingIdMax then -einval else ringId

/-- The second register of both layouts: the high byte of the ring base and
the ring size in words. -/
def ringBaseMsb (srng : HalSrng) : UInt32 :=
  (fieldPrep 7 0 (srng.ringBasePaddr >>> 32) |||
    fieldPrep 27 8 (srng.entrySize * srng.numEntries).toUInt64).toUInt32

/-- The swap bits of the misc register, which both layouts share. -/
def ringMiscSwap (flags : UInt32) : UInt64 :=
  (if flags &&& halSrngFlagsDataTlvSwap ≠ 0 then bit 5 else 0) |||
    (if flags &&& halSrngFlagsRingPtrSwap ≠ 0 then bit 4 else 0) |||
    (if flags &&& halSrngFlagsMsiSwap ≠ 0 then bit 3 else 0)

def ringMiscSrngEnable : UInt64 := bit 6

/-- Consecutive register writes, in program order. -/
def hifWriteList (hal : Hal) : List (UInt32 × UInt32) → Hal
  | [] => hal
  | (address, data) :: writes => hifWriteList (hifWrite32 hal address data) writes

/-- The writes of `hal_srng_src_hw_init` before it clears the shadow word. -/
def srcHwInitWrites (rdpPaddr : UInt64) (srng : HalSrng) :
    List (UInt32 × UInt32) :=
  let base := srng.hwregBaseR0
  let ringBase :=
    [(base, srng.ringBasePaddr.toUInt32),
      (base + halSrngRegRGroupOffset 1, ringBaseMsb srng),
      (base + halSrngRegRGroupOffset 2,
        (fieldPrep 7 0 srng.entrySize.toUInt64).toUInt32)]
  let tpAddr := rdpPaddr + srng.srcRing.tpAddr.byteOffset
  ringBase ++
    -- The source writes the same three registers again for this one ring.
    (if srng.ringId = halSrngRingIdWbmIdleLink then ringBase else []) ++
    [(base + halSrngRegRGroupOffset 3,
        (fieldPrep 31 16 srng.intrTimerThresUs.toUInt64 |||
          fieldPrep 14 0
            (srng.intrBatchCntrThresEntries * srng.entrySize).toUInt64).toUInt32),
      (base + halSrngRegRGroupOffset 4,
        if srng.flags &&& halSrngFlagsLowThreshIntrEn ≠ 0 then
          (fieldPrep 15 0 srng.srcRing.lowThreshold.toUInt64).toUInt32
        else 0)] ++
    (if srng.ringId ≠ halSrngRingIdWbmIdleLink then
      [(base + halSrngRegRGroupOffset 5, (tpAddr &&& 0xffffffff).toUInt32),
        (base + halSrngRegRGroupOffset 6, (tpAddr >>> 32).toUInt32)]
    else []) ++
    [(srng.hwregBaseR2, 0), (srng.hwregBaseR2 + halSrngRegRGroupOffset 1, 0)]

def halSrngSrcHwInit (hal : Hal) (srng : HalSrng) : Hal :=
  let hal := hifWriteList hal (srcHwInitWrites hal.rdpPaddr srng)
  let hal := hal.store srng.srcRing.tpAddr 0
  -- Bit 1 disables the loop count, which source rings do not use.
  hifWrite32 hal (srng.hwregBaseR0 + halSrngRegRGroupOffset 7)
    (ringMiscSwap srng.flags ||| bit 1 ||| ringMiscSrngEnable).toUInt32

/-- The writes of `hal_srng_dst_hw_init` before it clears the shadow word. -/
def dstHwInitWrites (rdpPaddr : UInt64) (srng : HalSrng) :
    List (UInt32 × UInt32) :=
  let base := srng.hwregBaseR0
  let hpAddr := rdpPaddr + srng.dstRing.hpAddr.byteOffset
  [(base + halSrngRegRGroupOffset 0, srng.ringBasePaddr.toUInt32),
    (base + halSrngRegRGroupOffset 1, ringBaseMsb srng),
    (base + halSrngRegRGroupOffset 2,
      (fieldPrep 15 8 srng.ringId.toUInt64 |||
        fieldPrep 7 0 srng.entrySize.toUInt64).toUInt32),
    (base + halSrngRegRGroupOffset 3,
      (fieldPrep 31 16 (srng.intrTimerThresUs >>> 3).toUInt64 |||
        fieldPrep 14 0
          (srng.intrBatchCntrThresEntries * srng.entrySize).toUInt64).toUInt32),
    (base + halSrngRegRGroupOffset 5, (hpAddr &&& 0xffffffff).toUInt32),
    (base + halSrngRegRGroupOffset 6, (hpAddr >>> 32).toUInt32)] ++
    [(srng.hwregBaseR2 + halSrngRegRGroupOffset 0, 0),
      (srng.hwregBaseR2 + halSrngRegRGroupOffset 1, 0)]

def halSrngDstHwInit (hal : Hal) (srng : HalSrng) : Hal :=
  let hal := hifWriteList hal (dstHwInitWrites hal.rdpPaddr srng)
  let hal := hal.store srng.dstRing.hpAddr 0
  hifWrite32 hal (srng.hwregBaseR0 + halSrngRegRGroupOffset 7)
    (ringMiscSwap srng.flags ||| ringMiscSrngEnable).toUInt32

def halSrngHwInit (hal : Hal) (srng : HalSrng) : Hal :=
  match srng.ringDir with
  | .src => halSrngSrcHwInit hal srng
  | .dst => halSrngDstHwInit hal srng

def hwregBase (ringId : Nat) (group : UInt32) : UInt32 :=
  halSrngRegBase ||| (UInt32.ofNat ringId <<< 8) ||| (group <<< 7)

def memsetZero (mem : Nat → UInt32) (base length : Nat) : Nat → UInt32 :=
  fun addr => if base ≤ addr ∧ addr < base + length then 0 else mem addr

/-- The ring as `wireless_simu_hal_srng_setup` fills it in; `old` is what the
entry of `srng_list` held before. -/
def srngSetupRing (hal : Hal) (old : HalSrng) (type : HalRingType)
    (ringId : Nat) (params : HalSrngParams) : HalSrng :=
  let srngConfig := hal.srngConfig type
  let entrySize := srngConfig.entrySize.toUInt32
  let numEntries := params.numEntries.toUInt32
  let ringSize := entrySize * numEntries
  let flags :=
    if hal.cpuBigEndian then
      params.flags ||| (halSrngFlagsMsiSwap ||| halSrngFlagsDataTlvSwap |||
        halSrngFlagsRingPtrSwap)
    else params.flags
  let regBase := hwregBase ringId halSrngRegGrpR2
  let lmacIdx := UInt32.ofNat ringId - UInt32.ofInt halSrngRingIdLmac1IdStart
  let pointer : WordPtr :=
    if srngConfig.lmacRing then .wrp lmacIdx.toNat else .mmio regBase
  { ringId := UInt8.ofNat ringId
    initialized := 1
    ringBasePaddr := params.ringBasePaddr
    ringBaseVaddr := params.ringBaseVaddr
    numEntries := numEntries
    ringSize := ringSize
    entrySize := entrySize
    intrTimerThresUs := params.intrTimerThresUs
    intrBatchCntrThresEntries := params.intrBatchCntrThresEntries
    msiAddr := params.msiAddr
    msiData := params.msiData
    flags := if srngConfig.lmacRing then flags ||| halSrngFlagsLmacRing else flags
    hwregBaseR0 := hwregBase ringId halSrngRegGrpR0
    hwregBaseR2 := regBase
    ringDir := srngConfig.ringDir
    srcRing :=
      match srngConfig.ringDir with
      | .src =>
          { old.srcRing with
            hp := 0
            cachedTp := 0
            reapHp := ringSize - entrySize
            tpAddr := .rdp ringId
            lowThreshold := params.lowThreshold * entrySize
            hpAddr := pointer }
      | .dst => old.srcRing
    dstRing :=
      match srngConfig.ringDir with
      | .src => old.dstRing
      | .dst =>
          { old.dstRing with
            loopCnt := 1
            tp := 0
            cachedHp := 0
            hpAddr := .rdp ringId
            tpAddr := pointer } }

/-- `mem` is the memory that `params.ringBaseVaddr` points into. -/
def halSrngSetup (hal : Hal) (mem : Nat → UInt32) (type : HalRingType)
    (ringNum macId : Int) (params : HalSrngParams) :
    Hal × (Nat → UInt32) × Int :=
  let ringId := halSrngGetRingId hal type ringNum macId
  if ringId < 0 then (hal, mem, ringId)
  else
    let srng := srngSetupRing hal (hal.srngList ringId.toNat) type ringId.toNat
      params
    let hal := hal.setSrng ringId.toNat srng
    let mem := memsetZero mem srng.ringBaseVaddr
      ((srng.entrySize * srng.numEntries) <<< 2).toNat
    if (hal.srngConfig type).lmacRing then (hal, mem, ringId)
    else (halSrngHwInit hal srng, mem, ringId)

/-! The register block of a ring: the low byte of a register address is its
offset in the block, so that the two groups never meet. -/

theorem hwregBase_mod (ringId : Nat) (group : UInt32) :
    (hwregBase ringId group).toNat % 256 = (group <<< 7).toNat % 256 := by
  have regBase : halSrngRegBase.toNat % 2 ^ 8 = 0 := rfl
  have ringBits : (UInt32.ofNat ringId <<< 8).toNat % 2 ^ 8 = 0 := by
    rw [UInt32.toNat_shiftLeft, Nat.mod_mod_of_dvd _ (by decide),
      show (8 : UInt32).toNat % 32 = 8 from rfl, Nat.shiftLeft_eq]
    exact Nat.mul_mod_left _ _
  rw [hwregBase, UInt32.toNat_or, UInt32.toNat_or, show (256 : Nat) = 2 ^ 8 from rfl,
    Nat.or_mod_two_pow, Nat.or_mod_two_pow, regBase, ringBits]
  simp

theorem hwregBase_add_mod (ringId : Nat) (group offset : UInt32) :
    (hwregBase ringId group + offset).toNat % 256 =
      ((group <<< 7).toNat + offset.toNat) % 256 := by
  rw [UInt32.toNat_add, Nat.mod_mod_of_dvd _ (by decide), Nat.add_mod,
    hwregBase_mod, ← Nat.add_mod]

theorem hwregBaseR2_ne_offset (ringId : Nat) {group offset : UInt32}
    (low : ((group <<< 7).toNat + offset.toNat) % 256 ≠ 128) :
    hwregBase ringId halSrngRegGrpR2 ≠ hwregBase ringId group + offset := by
  intro equal
  apply low
  rw [← hwregBase_add_mod ringId group offset, ← equal, hwregBase_mod]
  rfl

@[simp] theorem srngList_hifWrite32 (hal : Hal) (address data : UInt32) :
    (hifWrite32 hal address data).srngList = hal.srngList := rfl

theorem load_hifWrite32_of_ne (hal : Hal) {address data : UInt32}
    {pointer : WordPtr} (different : pointer ≠ .mmio address) :
    (hifWrite32 hal address data).load pointer = hal.load pointer :=
  hal.load_store_of_ne data different

@[simp] theorem srngList_hifWriteList (hal : Hal) (writes : List (UInt32 × UInt32)) :
    (hifWriteList hal writes).srngList = hal.srngList := by
  induction writes generalizing hal with
  | nil => rfl
  | cons write writes ih => rw [hifWriteList, ih, srngList_hifWrite32]

theorem hifWriteList_append (hal : Hal) (first second : List (UInt32 × UInt32)) :
    hifWriteList hal (first ++ second) =
      hifWriteList (hifWriteList hal first) second := by
  induction first generalizing hal with
  | nil => rfl
  | cons write first ih => exact ih _

theorem srngList_hwInit (hal : Hal) (srng : HalSrng) :
    (halSrngHwInit hal srng).srngList = hal.srngList := by
  unfold halSrngHwInit
  split
  · simp only [halSrngSrcHwInit, srngList_hifWrite32, Hal.srngList_store,
      srngList_hifWriteList]
  · simp only [halSrngDstHwInit, srngList_hifWrite32, Hal.srngList_store,
      srngList_hifWriteList]

theorem srngConfig_hifWriteList (hal : Hal) (writes : List (UInt32 × UInt32)) :
    (hifWriteList hal writes).srngConfig = hal.srngConfig := by
  induction writes generalizing hal with
  | nil => rfl
  | cons write writes ih =>
      rw [hifWriteList, ih, hifWrite32, Hal.srngConfig_store]

theorem halSrngSetup_srngConfig (hal : Hal) (mem : Nat → UInt32) (type : HalRingType)
    (ringNum macId : Int) (params : HalSrngParams) :
    (halSrngSetup hal mem type ringNum macId params).1.srngConfig = hal.srngConfig := by
  have config : ∀ srng before, (halSrngHwInit before srng).srngConfig =
      before.srngConfig := by
    intro srng before
    unfold halSrngHwInit
    split
    · simp only [halSrngSrcHwInit, hifWrite32, Hal.srngConfig_store,
        srngConfig_hifWriteList]
    · simp only [halSrngDstHwInit, hifWrite32, Hal.srngConfig_store,
        srngConfig_hifWriteList]
  unfold halSrngSetup
  simp only
  split
  · rfl
  · split
    · rfl
    · exact config _ _

/-- The pointer word that `access_end` publishes to. -/
def HalSrng.publishAddr (srng : HalSrng) : WordPtr :=
  match srng.ringDir with
  | .src => srng.srcRing.hpAddr
  | .dst => srng.dstRing.tpAddr

/-- The shadow word that `access_begin` reads. -/
def HalSrng.shadowAddr (srng : HalSrng) : WordPtr :=
  match srng.ringDir with
  | .src => srng.srcRing.tpAddr
  | .dst => srng.dstRing.hpAddr

/-- A ring whose `access_end` reaches its publish word, away from the `rdp`
words that the device writes. -/
structure RingWired (srng : HalSrng) (id : Nat) : Prop where
  shadow : srng.shadowAddr = .rdp id
  publish : (∃ index, srng.publishAddr = .wrp index) ∧
      srng.flags &&& halSrngFlagsLmacRing ≠ 0 ∨
    srng.publishAddr = .mmio (hwregBase id halSrngRegGrpR2)

theorem load_hwInit (hal : Hal) {srng : HalSrng} {id : Nat}
    (r0 : srng.hwregBaseR0 = hwregBase id halSrngRegGrpR0)
    (r2 : srng.hwregBaseR2 = hwregBase id halSrngRegGrpR2)
    (shadow : srng.shadowAddr = .rdp id) :
    (halSrngHwInit hal srng).load (.rdp id) = 0 ∧
      (halSrngHwInit hal srng).load (.mmio (hwregBase id halSrngRegGrpR2)) = 0 := by
  have misc : WordPtr.mmio srng.hwregBaseR2 ≠
      .mmio (srng.hwregBaseR0 + halSrngRegRGroupOffset 7) := by
    rw [r0, r2, ne_eq, WordPtr.mmio.injEq]
    exact hwregBaseR2_ne_offset id (by decide)
  have second : WordPtr.mmio srng.hwregBaseR2 ≠
      .mmio (srng.hwregBaseR2 + halSrngRegRGroupOffset 1) := by
    rw [r2, ne_eq, WordPtr.mmio.injEq]
    exact hwregBaseR2_ne_offset id (by decide)
  have zero : srng.hwregBaseR2 + halSrngRegRGroupOffset 0 = srng.hwregBaseR2 := by
    simp [halSrngRegRGroupOffset]
  -- The two pointer registers are the last of the writes before the shadow word.
  have tail : ∀ before : Hal, (hifWriteList before
      [(srng.hwregBaseR2, 0),
        (srng.hwregBaseR2 + halSrngRegRGroupOffset 1, 0)]).load
        (.mmio srng.hwregBaseR2) = 0 := by
    intro before
    rw [hifWriteList, hifWriteList, hifWriteList, load_hifWrite32_of_ne _ second]
    exact Hal.load_store_self _ _ _
  rw [← r2]
  unfold halSrngHwInit
  unfold HalSrng.shadowAddr at shadow
  cases dir : srng.ringDir with
  | src =>
      simp only [dir] at shadow
      simp only [halSrngSrcHwInit, shadow]
      rw [load_hifWrite32_of_ne _ (by simp), Hal.load_store_self,
        load_hifWrite32_of_ne _ misc, Hal.load_store_of_ne _ _ (by simp),
        srcHwInitWrites, hifWriteList_append, tail]
      exact ⟨rfl, rfl⟩
  | dst =>
      simp only [dir] at shadow
      simp only [halSrngDstHwInit, shadow]
      rw [load_hifWrite32_of_ne _ (by simp), Hal.load_store_self,
        load_hifWrite32_of_ne _ misc, Hal.load_store_of_ne _ _ (by simp),
        dstHwInitWrites, hifWriteList_append, zero, tail]
      exact ⟨rfl, rfl⟩

theorem srngSetupRing_wired (hal : Hal) (old : HalSrng) (type : HalRingType)
    (id : Nat) (params : HalSrngParams) :
    RingWired (srngSetupRing hal old type id params) id := by
  have flag : ∀ flags : UInt32,
      (flags ||| halSrngFlagsLmacRing) &&& halSrngFlagsLmacRing ≠ 0 := by
    intro flags zero
    have masked : (flags ||| halSrngFlagsLmacRing) &&& halSrngFlagsLmacRing =
        halSrngFlagsLmacRing := by
      apply UInt32.toBitVec_inj.mp
      ext index bound
      simp only [UInt32.toBitVec_and, UInt32.toBitVec_or, BitVec.getElem_and,
        BitVec.getElem_or]
      cases flags.toBitVec[index] <;> simp
    rw [masked] at zero
    exact absurd zero (by decide)
  constructor
  · cases dir : (hal.srngConfig type).ringDir <;>
      simp [HalSrng.shadowAddr, srngSetupRing, dir]
  · cases dir : (hal.srngConfig type).ringDir <;>
      cases lmac : (hal.srngConfig type).lmacRing <;>
      simp [HalSrng.publishAddr, srngSetupRing, dir, lmac, flag]

theorem srngSetupRing_publishAddr {hal : Hal} (old : HalSrng) {type : HalRingType}
    (id : Nat) (params : HalSrngParams)
    (direct : (hal.srngConfig type).lmacRing = false) :
    (srngSetupRing hal old type id params).publishAddr =
      .mmio (hwregBase id halSrngRegGrpR2) := by
  cases dir : (hal.srngConfig type).ringDir <;>
    simp [HalSrng.publishAddr, srngSetupRing, dir, direct]

/-- What a successful setup leaves behind: the ring in its slot of `srng_list`,
and both pointer words clear unless the ring keeps them in shared memory. -/
structure SetupDone (hal hal' : Hal) (type : HalRingType) (id : Nat)
    (params : HalSrngParams) : Prop where
  srngList : hal'.srngList = Function.update hal.srngList id
    (srngSetupRing hal (hal.srngList id) type id params)
  shadow : hal'.load (.rdp id) =
    if (hal.srngConfig type).lmacRing then hal.rdp id else 0
  publish : hal'.load (hal'.srngList id).publishAddr =
    if (hal.srngConfig type).lmacRing then
      hal.load (hal'.srngList id).publishAddr
    else 0

theorem halSrngSetup_done {hal hal' : Hal} {mem mem' : Nat → UInt32}
    {type : HalRingType} {ringNum macId : Int} {params : HalSrngParams} {id : Nat}
    (setup : halSrngSetup hal mem type ringNum macId params =
      (hal', mem', (id : Int))) :
    SetupDone hal hal' type id params := by
  unfold halSrngSetup at setup
  simp only at setup
  split at setup
  next negative =>
      simp only [Prod.mk.injEq] at setup
      omega
  next valid =>
      have config : ∀ (index : Nat) (srng : HalSrng),
          (hal.setSrng index srng).srngConfig = hal.srngConfig := fun _ _ => rfl
      rw [config] at setup
      have wired := srngSetupRing_wired hal (hal.srngList id) type id params
      split at setup
      next lmac =>
          simp only [Prod.mk.injEq] at setup
          obtain ⟨rfl, _, result⟩ := setup
          rw [result, Int.toNat_natCast]
          exact ⟨rfl, by rw [Hal.load_setSrng, if_pos lmac]; rfl,
            by rw [Hal.load_setSrng, if_pos lmac]⟩
      next direct =>
          simp only [Prod.mk.injEq] at setup
          obtain ⟨rfl, _, result⟩ := setup
          rw [result, Int.toNat_natCast]
          obtain ⟨shadowZero, pointerZero⟩ := load_hwInit
            (hal.setSrng id (srngSetupRing hal (hal.srngList id) type id params))
            (by rfl) (by rfl) wired.shadow
          refine ⟨by rw [srngList_hwInit]; rfl, by rw [shadowZero, if_neg direct], ?_⟩
          rw [srngList_hwInit, Hal.srngList_setSrng_self, if_neg direct,
            srngSetupRing_publishAddr _ _ _ (by simpa using direct)]
          exact pointerZero

end WirelessSimu
