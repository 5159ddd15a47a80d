import WirelessSimu.Hal.View

namespace WirelessSimu

open Data Kernel

/-! Rings that share one HAL. Each ring owns its entry of `srng_list`, its `rdp`
word and the register block of its id; what one ring does leaves the others as
they are. -/

theorem toNat_hwregBase {id : Nat} (small : id < 256) {group : UInt32}
    (low : group.toNat < 2) :
    (hwregBase id group).toNat = 65536 + 256 * id + 128 * group.toNat := by
  have table : ∀ id : Fin 256, ∀ group : Fin 2,
      (hwregBase id (UInt32.ofNat group)).toNat =
        65536 + 256 * id + 128 * group := by decide +kernel
  have value := table ⟨id, small⟩ ⟨group.toNat, low⟩
  rwa [UInt32.ofNat_toNat] at value

/-- The register block `0x10000 | ring_id << 8`. -/
def InBlock (id : Nat) (address : UInt32) : Prop :=
  address.toNat / 256 = 256 + id

theorem inBlock_hwregBase {id : Nat} (small : id < 256) {group offset : UInt32}
    (low : group.toNat < 2) (inside : offset.toNat < 128) :
    InBlock id (hwregBase id group + offset) := by
  have base := toNat_hwregBase small low
  rw [InBlock, UInt32.toNat_add, base, Nat.mod_eq_of_lt (by omega)]
  omega

/-- A ring with its pointer register in its own block. -/
structure RingDirect (hal : Hal) (id : Nat) : Prop where
  small : id < 256
  shadow : (hal.srngList id).shadowAddr = .rdp id
  publish : (hal.srngList id).publishAddr = .mmio (hwregBase id halSrngRegGrpR2)

theorem RingDirect.of_same {hal hal' : Hal} {id : Nat} (direct : RingDirect hal id)
    (same : SameRing (hal.srngList id) (hal'.srngList id)) :
    RingDirect hal' id where
  small := direct.small
  shadow := by rw [same.shadowAddr, direct.shadow]
  publish := by rw [same.publishAddr, direct.publish]

theorem hwregBaseR2_inBlock {id : Nat} (small : id < 256) :
    InBlock id (hwregBase id halSrngRegGrpR2) := by
  have block : InBlock id (hwregBase id halSrngRegGrpR2 + 0) :=
    inBlock_hwregBase small (by decide) (by decide)
  rwa [UInt32.add_zero] at block

/-- What the user of ring `id` sees is the same in both states. -/
structure Agree (hal hal' : Hal) (id : Nat) : Prop where
  ring : hal'.srngList id = hal.srngList id
  shadow : hal'.load (hal.srngList id).shadowAddr =
    hal.load (hal.srngList id).shadowAddr
  published : hal'.load (hal.srngList id).publishAddr =
    hal.load (hal.srngList id).publishAddr

namespace Agree

variable {hal hal' : Hal} {id : Nat}

theorem refl (hal : Hal) (id : Nat) : Agree hal hal id := ⟨rfl, rfl, rfl⟩

theorem trans {third : Hal} (left : Agree hal hal' id)
    (right : Agree hal' third id) : Agree hal third id where
  ring := right.ring.trans left.ring
  shadow := by
    have last := right.shadow
    rw [left.ring] at last
    exact last.trans left.shadow
  published := by
    have last := right.published
    rw [left.ring] at last
    exact last.trans left.published

theorem same (agree : Agree hal hal' id) :
    SameRing (hal.srngList id) (hal'.srngList id) := by
  rw [agree.ring]
  exact .refl _

theorem srcView (agree : Agree hal hal' id) : hal'.srcView id = hal.srcView id := by
  simp only [Hal.srcView, agree.ring, agree.shadow, agree.published]

theorem dstView (agree : Agree hal hal' id) : hal'.dstView id = hal.dstView id := by
  simp only [Hal.dstView, agree.ring, agree.shadow, agree.published]

theorem setSrng (hal : Hal) {id other : Nat} (srng : HalSrng)
    (different : other ≠ id) : Agree hal (hal.setSrng id srng) other where
  ring := Hal.srngList_setSrng_of_ne hal srng different
  shadow := by rw [Hal.load_setSrng]
  published := by rw [Hal.load_setSrng]

theorem setSrc (hal : Hal) {id other : Nat} (hp reapHp cachedTp lastTp : UInt32)
    (different : other ≠ id) :
    Agree hal (hal.setSrc id hp reapHp cachedTp lastTp) other :=
  setSrng hal _ different

theorem setDst (hal : Hal) {id other : Nat} (tp cachedHp lastHp : UInt32)
    (different : other ≠ id) :
    Agree hal (hal.setDst id tp cachedHp lastHp) other :=
  setSrng hal _ different

theorem store (hal : Hal) {other : Nat} {pointer : WordPtr} (value : UInt32)
    (notShadow : (hal.srngList other).shadowAddr ≠ pointer)
    (notPublish : (hal.srngList other).publishAddr ≠ pointer) :
    Agree hal (hal.store pointer value) other where
  ring := by rw [Hal.srngList_store]
  shadow := Hal.load_store_of_ne _ _ notShadow
  published := Hal.load_store_of_ne _ _ notPublish

end Agree

section Operations

variable {hal : Hal} {id other base entries size : Nat}

theorem RingDirect.publish_ne (direct : RingDirect hal id)
    (otherDirect : RingDirect hal other) (different : other ≠ id) :
    (hal.srngList other).publishAddr ≠ (hal.srngList id).publishAddr := by
  rw [direct.publish, otherDirect.publish, ne_eq, WordPtr.mmio.injEq]
  intro equal
  have block := hwregBaseR2_inBlock otherDirect.small
  have own := hwregBaseR2_inBlock direct.small
  rw [InBlock, equal, own] at block
  omega

/-- A store to the shadow word of `id`, as the device makes it. -/
theorem agree_store_shadow (direct : RingDirect hal id)
    (otherDirect : RingDirect hal other) (different : other ≠ id) (value : UInt32) :
    Agree hal (hal.store (hal.srngList id).shadowAddr value) other := by
  apply Agree.store
  · rw [direct.shadow, otherDirect.shadow, ne_eq, WordPtr.rdp.injEq]
    exact different
  · rw [direct.shadow, otherDirect.publish]
    simp

theorem agree_store_publish (direct : RingDirect hal id)
    (otherDirect : RingDirect hal other) (different : other ≠ id) (value : UInt32) :
    Agree hal (hal.store (hal.srngList id).publishAddr value) other := by
  apply Agree.store
  · rw [direct.publish, otherDirect.shadow]
    simp
  · exact direct.publish_ne otherDirect different

theorem agree_accessBegin (different : other ≠ id) :
    Agree hal (halSrngAccessBegin hal id) other := by
  unfold halSrngAccessBegin
  simp only
  split
  · exact .setSrng _ _ different
  · exact .setSrng _ _ different

theorem agree_srcGetNextEntry (different : other ≠ id) :
    Agree hal (halSrngSrcGetNextEntry hal id).1 other := by
  unfold halSrngSrcGetNextEntry
  simp only
  split
  · exact .refl _ _
  · exact .setSrng _ _ different

theorem agree_dstGetNextEntry (different : other ≠ id) :
    Agree hal (halSrngDstGetNextEntry hal id).1 other := by
  unfold halSrngDstGetNextEntry
  simp only
  split
  · exact .refl _ _
  · exact .setSrng _ _ different

theorem agree_accessEnd {dir : HalSrngDir}
    (ready : RingReady hal id dir base entries size) (direct : RingDirect hal id)
    (otherDirect : RingDirect hal other) (different : other ≠ id) :
    Agree hal (halSrngAccessEnd hal id) other := by
  cases dir with
  | src =>
      rw [halSrngAccessEnd_src ready]
      have same := fun ring => hal.same_setSrc id ring (hal.srcView id).hp
        (hal.srcView id).reapHp (hal.srcView id).cachedTp (hal.srcView id).shadow
      apply (Agree.setSrc hal (hal.srcView id).hp (hal.srcView id).reapHp
        (hal.srcView id).cachedTp (hal.srcView id).shadow different).trans
      rw [← (same id).publishAddr]
      exact agree_store_publish (direct.of_same (same id))
        (otherDirect.of_same (same other)) different _
  | dst =>
      rw [halSrngAccessEnd_dst ready]
      have same := fun ring => hal.same_setDst id ring (hal.dstView id).tp
        (hal.dstView id).cachedHp (hal.dstView id).shadow
      apply (Agree.setDst hal (hal.dstView id).tp (hal.dstView id).cachedHp
        (hal.dstView id).shadow different).trans
      rw [← (same id).publishAddr]
      exact agree_store_publish (direct.of_same (same id))
        (otherDirect.of_same (same other)) different _

end Operations

/-! The registers that setup writes, by group and index. -/

theorem toNat_hwreg {id : Nat} (small : id < 256) {group index : UInt32}
    (low : group.toNat < 2) (inGroup : index.toNat < 32) :
    (hwregBase id group + halSrngRegRGroupOffset index).toNat =
      65536 + 256 * id + 128 * group.toNat + 4 * index.toNat := by
  have offset : (halSrngRegRGroupOffset index).toNat = 4 * index.toNat := by
    have table : ∀ index : Fin 32,
        (halSrngRegRGroupOffset (UInt32.ofNat index)).toNat = 4 * index := by decide
    have value := table ⟨index.toNat, inGroup⟩
    rwa [UInt32.ofNat_toNat] at value
  rw [UInt32.toNat_add, toNat_hwregBase small low, offset, Nat.mod_eq_of_lt (by omega)]

theorem hwreg_zero (id : Nat) (group : UInt32) :
    hwregBase id group + halSrngRegRGroupOffset 0 = hwregBase id group := by
  rw [show halSrngRegRGroupOffset 0 = 0 from rfl, UInt32.add_zero]

/-- What `hal_srng_src_hw_init` leaves in the registers that it writes. -/
def srcRegister (rdpPaddr : UInt64) (srng : HalSrng) (group index : UInt32) : UInt32 :=
  if group = halSrngRegGrpR2 then 0
  else match index.toNat with
    | 0 => srng.ringBasePaddr.toUInt32
    | 1 => ringBaseMsb srng
    | 2 => (fieldPrep 7 0 srng.entrySize.toUInt64).toUInt32
    | 3 => (fieldPrep 31 16 srng.intrTimerThresUs.toUInt64 |||
        fieldPrep 14 0
          (srng.intrBatchCntrThresEntries * srng.entrySize).toUInt64).toUInt32
    | 4 =>
        if srng.flags &&& halSrngFlagsLowThreshIntrEn ≠ 0 then
          (fieldPrep 15 0 srng.srcRing.lowThreshold.toUInt64).toUInt32
        else 0
    | 5 => ((rdpPaddr + srng.srcRing.tpAddr.byteOffset) &&& 0xffffffff).toUInt32
    | 6 => ((rdpPaddr + srng.srcRing.tpAddr.byteOffset) >>> 32).toUInt32
    | _ => (ringMiscSwap srng.flags ||| bit 1 ||| ringMiscSrngEnable).toUInt32

/-- What `hal_srng_dst_hw_init` leaves in the registers that it writes. -/
def dstRegister (rdpPaddr : UInt64) (srng : HalSrng) (group index : UInt32) : UInt32 :=
  if group = halSrngRegGrpR2 then 0
  else match index.toNat with
    | 0 => srng.ringBasePaddr.toUInt32
    | 1 => ringBaseMsb srng
    | 2 => (fieldPrep 15 8 srng.ringId.toUInt64 |||
        fieldPrep 7 0 srng.entrySize.toUInt64).toUInt32
    | 3 => (fieldPrep 31 16 (srng.intrTimerThresUs >>> 3).toUInt64 |||
        fieldPrep 14 0
          (srng.intrBatchCntrThresEntries * srng.entrySize).toUInt64).toUInt32
    | 5 => ((rdpPaddr + srng.dstRing.hpAddr.byteOffset) &&& 0xffffffff).toUInt32
    | 6 => ((rdpPaddr + srng.dstRing.hpAddr.byteOffset) >>> 32).toUInt32
    | _ => (ringMiscSwap srng.flags ||| ringMiscSrngEnable).toUInt32

/-- The write puts into a register of ring `id` what `file` says. -/
def RegisterWrite (id : Nat) (file : UInt32 → UInt32 → UInt32)
    (write : UInt32 × UInt32) : Prop :=
  ∃ group index, group.toNat < 2 ∧ index.toNat < 32 ∧
    write = (hwregBase id group + halSrngRegRGroupOffset index, file group index)

theorem RegisterWrite.inBlock {id : Nat} {file : UInt32 → UInt32 → UInt32}
    {write : UInt32 × UInt32} (register : RegisterWrite id file write)
    (small : id < 256) : InBlock id write.1 := by
  obtain ⟨group, index, low, inGroup, rfl⟩ := register
  rw [InBlock, toNat_hwreg small low inGroup]
  omega

theorem srcHwInitWrites_register {srng : HalSrng} {id : Nat}
    (r0 : srng.hwregBaseR0 = hwregBase id halSrngRegGrpR0)
    (r2 : srng.hwregBaseR2 = hwregBase id halSrngRegGrpR2) (rdpPaddr : UInt64) :
    ∀ write ∈ srcHwInitWrites rdpPaddr srng,
      RegisterWrite id (srcRegister rdpPaddr srng) write := by
  have ringBase : ∀ write ∈
      [(srng.hwregBaseR0, srng.ringBasePaddr.toUInt32),
        (srng.hwregBaseR0 + halSrngRegRGroupOffset 1, ringBaseMsb srng),
        (srng.hwregBaseR0 + halSrngRegRGroupOffset 2,
          (fieldPrep 7 0 srng.entrySize.toUInt64).toUInt32)],
      RegisterWrite id (srcRegister rdpPaddr srng) write := by
    simp only [List.mem_cons, List.not_mem_nil, or_false, r0]
    rintro write (rfl | rfl | rfl)
    · exact ⟨halSrngRegGrpR0, 0, by decide, by decide, by rw [hwreg_zero]; rfl⟩
    · exact ⟨halSrngRegGrpR0, 1, by decide, by decide, rfl⟩
    · exact ⟨halSrngRegGrpR0, 2, by decide, by decide, rfl⟩
  intro write member
  simp only [srcHwInitWrites, List.mem_append] at member
  obtain (((first | again) | thresholds) | tailAddr) | pointers := member
  · exact ringBase write first
  · split at again
    · exact ringBase write again
    · cases again
  · simp only [List.mem_cons, List.not_mem_nil, or_false, r0] at thresholds
    obtain rfl | rfl := thresholds
    · exact ⟨halSrngRegGrpR0, 3, by decide, by decide, rfl⟩
    · exact ⟨halSrngRegGrpR0, 4, by decide, by decide, rfl⟩
  · split at tailAddr
    · simp only [List.mem_cons, List.not_mem_nil, or_false, r0] at tailAddr
      obtain rfl | rfl := tailAddr
      · exact ⟨halSrngRegGrpR0, 5, by decide, by decide, rfl⟩
      · exact ⟨halSrngRegGrpR0, 6, by decide, by decide, rfl⟩
    · cases tailAddr
  · simp only [List.mem_cons, List.not_mem_nil, or_false, r2] at pointers
    obtain rfl | rfl := pointers
    · exact ⟨halSrngRegGrpR2, 0, by decide, by decide, by rw [hwreg_zero]; rfl⟩
    · exact ⟨halSrngRegGrpR2, 1, by decide, by decide, rfl⟩

theorem dstHwInitWrites_register {srng : HalSrng} {id : Nat}
    (r0 : srng.hwregBaseR0 = hwregBase id halSrngRegGrpR0)
    (r2 : srng.hwregBaseR2 = hwregBase id halSrngRegGrpR2) (rdpPaddr : UInt64) :
    ∀ write ∈ dstHwInitWrites rdpPaddr srng,
      RegisterWrite id (dstRegister rdpPaddr srng) write := by
  intro write member
  simp only [dstHwInitWrites, List.mem_append, List.mem_cons, List.not_mem_nil,
    or_false, r0, r2] at member
  obtain (rfl | rfl | rfl | rfl | rfl | rfl) | rfl | rfl := member
  · exact ⟨halSrngRegGrpR0, 0, by decide, by decide, rfl⟩
  · exact ⟨halSrngRegGrpR0, 1, by decide, by decide, rfl⟩
  · exact ⟨halSrngRegGrpR0, 2, by decide, by decide, rfl⟩
  · exact ⟨halSrngRegGrpR0, 3, by decide, by decide, rfl⟩
  · exact ⟨halSrngRegGrpR0, 5, by decide, by decide, rfl⟩
  · exact ⟨halSrngRegGrpR0, 6, by decide, by decide, rfl⟩
  · exact ⟨halSrngRegGrpR2, 0, by decide, by decide, rfl⟩
  · exact ⟨halSrngRegGrpR2, 1, by decide, by decide, rfl⟩

theorem load_hifWriteList_of_outside {hal : Hal} {writes : List (UInt32 × UInt32)}
    {pointer : WordPtr} (outside : ∀ write ∈ writes, pointer ≠ .mmio write.1) :
    (hifWriteList hal writes).load pointer = hal.load pointer := by
  induction writes generalizing hal with
  | nil => rfl
  | cons write writes ih =>
      rw [hifWriteList, ih fun later member => outside later (.tail _ member),
        load_hifWrite32_of_ne _ (outside write (.head _))]

/-- The hardware initialisation of `id` keeps every word but its own. -/
theorem load_hwInit_of_outside {hal : Hal} {srng : HalSrng} {id : Nat}
    {pointer : WordPtr} (small : id < 256)
    (r0 : srng.hwregBaseR0 = hwregBase id halSrngRegGrpR0)
    (r2 : srng.hwregBaseR2 = hwregBase id halSrngRegGrpR2)
    (shadow : srng.shadowAddr = .rdp id) (notShadow : pointer ≠ .rdp id)
    (outside : ∀ address, InBlock id address → pointer ≠ .mmio address) :
    (halSrngHwInit hal srng).load pointer = hal.load pointer := by
  have misc : pointer ≠ .mmio (srng.hwregBaseR0 + halSrngRegRGroupOffset 7) := by
    apply outside
    rw [r0]
    exact inBlock_hwregBase small (by decide) (by decide)
  unfold halSrngHwInit
  unfold HalSrng.shadowAddr at shadow
  cases dir : srng.ringDir with
  | src =>
      simp only [dir] at shadow
      simp only [halSrngSrcHwInit, shadow]
      rw [load_hifWrite32_of_ne _ misc, Hal.load_store_of_ne _ _ notShadow]
      exact load_hifWriteList_of_outside fun write member =>
        outside _ ((srcHwInitWrites_register r0 r2 _ write member).inBlock small)
  | dst =>
      simp only [dir] at shadow
      simp only [halSrngDstHwInit, shadow]
      rw [load_hifWrite32_of_ne _ misc, Hal.load_store_of_ne _ _ notShadow]
      exact load_hifWriteList_of_outside fun write member =>
        outside _ ((dstHwInitWrites_register r0 r2 _ write member).inBlock small)

theorem halSrngGetRingId_lt {hal : Hal} {type : HalRingType} {ringNum macId : Int}
    {id : Nat} (found : halSrngGetRingId hal type ringNum macId = (id : Int)) :
    id < 256 := by
  have maximum : halSrngRingIdMax = 172 := by decide
  have invalid : -einval = -22 := rfl
  simp only [halSrngGetRingId, maximum, invalid] at found
  generalize (if (hal.srngConfig type).lmacRing = true then _ else _ : Int) =
    ringId at found
  split at found
  · omega
  · split at found
    · omega
    · omega

theorem halSrngSetup_ret (hal : Hal) (mem : Nat → UInt32) (type : HalRingType)
    (ringNum macId : Int) (params : HalSrngParams) :
    (halSrngSetup hal mem type ringNum macId params).2.2 =
      halSrngGetRingId hal type ringNum macId := by
  simp only [halSrngSetup]
  split
  · rfl
  · split <;> rfl

theorem halSrngSetup_ringId {hal hal' : Hal} {mem mem' : Nat → UInt32}
    {type : HalRingType} {ringNum macId : Int} {params : HalSrngParams} {id : Nat}
    (setup : halSrngSetup hal mem type ringNum macId params =
      (hal', mem', (id : Int))) :
    halSrngGetRingId hal type ringNum macId = (id : Int) := by
  rw [← halSrngSetup_ret hal mem type ringNum macId params, setup]

theorem halSrngSetup_direct {hal hal' : Hal} {mem mem' : Nat → UInt32}
    {type : HalRingType} {ringNum macId : Int} {params : HalSrngParams} {id : Nat}
    (setup : halSrngSetup hal mem type ringNum macId params =
      (hal', mem', (id : Int)))
    (lmac : (hal.srngConfig type).lmacRing = false) :
    RingDirect hal' id where
  small := halSrngGetRingId_lt (halSrngSetup_ringId setup)
  shadow := by
    rw [(halSrngSetup_done setup).ring_eq]
    exact (srngSetupRing_wired ..).shadow
  publish := by
    rw [(halSrngSetup_done setup).ring_eq]
    exact srngSetupRing_publishAddr _ _ _ lmac

theorem halSrngSetup_hal {hal hal' : Hal} {mem mem' : Nat → UInt32}
    {type : HalRingType} {ringNum macId : Int} {params : HalSrngParams} {id : Nat}
    (setup : halSrngSetup hal mem type ringNum macId params =
      (hal', mem', (id : Int)))
    (lmac : (hal.srngConfig type).lmacRing = false) :
    hal' = halSrngHwInit
      (hal.setSrng id (srngSetupRing hal (hal.srngList id) type id params))
      (srngSetupRing hal (hal.srngList id) type id params) := by
  have ringId := halSrngSetup_ringId setup
  simp only [halSrngSetup, ringId, Int.toNat_natCast] at setup
  rw [if_neg (by omega)] at setup
  have config : ∀ (index : Nat) (srng : HalSrng),
      (hal.setSrng index srng).srngConfig = hal.srngConfig := fun _ _ => rfl
  rw [config, if_neg (by simp [lmac])] at setup
  exact (Prod.mk.inj setup).1.symm

theorem load_setup_of_outside {hal hal' : Hal} {mem mem' : Nat → UInt32}
    {type : HalRingType} {ringNum macId : Int} {params : HalSrngParams} {id : Nat}
    {pointer : WordPtr}
    (setup : halSrngSetup hal mem type ringNum macId params =
      (hal', mem', (id : Int)))
    (lmac : (hal.srngConfig type).lmacRing = false) (notShadow : pointer ≠ .rdp id)
    (outside : ∀ address, InBlock id address → pointer ≠ .mmio address) :
    hal'.load pointer = hal.load pointer := by
  have small := halSrngGetRingId_lt (halSrngSetup_ringId setup)
  rw [halSrngSetup_hal setup lmac, load_hwInit_of_outside small rfl rfl
    (srngSetupRing_wired ..).shadow notShadow outside, Hal.load_setSrng]

/-- Setting up one ring leaves every other ring alone. -/
theorem agree_setup {hal hal' : Hal} {mem mem' : Nat → UInt32}
    {type : HalRingType} {ringNum macId : Int} {params : HalSrngParams}
    {id other : Nat}
    (setup : halSrngSetup hal mem type ringNum macId params =
      (hal', mem', (id : Int)))
    (lmac : (hal.srngConfig type).lmacRing = false)
    (otherDirect : RingDirect hal other) (different : other ≠ id) :
    Agree hal hal' other where
  ring := by rw [(halSrngSetup_done setup).srngList, Function.update_of_ne different]
  shadow := by
    rw [otherDirect.shadow]
    refine load_setup_of_outside setup lmac ?_ (fun _ _ => by simp)
    rw [ne_eq, WordPtr.rdp.injEq]
    exact different
  published := by
    rw [otherDirect.publish]
    refine load_setup_of_outside setup lmac (by simp) fun address block equal => ?_
    rw [WordPtr.mmio.injEq] at equal
    have own := hwregBaseR2_inBlock otherDirect.small
    rw [InBlock, equal, block] at own
    omega

end WirelessSimu
