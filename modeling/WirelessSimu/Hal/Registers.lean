import WirelessSimu.Hal.Isolation
import WirelessSimu.Kernel.Field

namespace WirelessSimu

open Data Kernel

/-! The registers of a ring as the device reads them: whether the ring is enabled and
where its memory starts. Only a setup writes them. -/

/-- Register `index` of the first group of ring `id`. -/
def ringReg (id : Nat) (index : UInt32) : UInt32 :=
  hwregBase id halSrngRegGrpR0 + halSrngRegRGroupOffset index

def SrngEnabled (hal : Hal) (id : Nat) : Prop :=
  (hifRead32 hal (ringReg id 7)).toUInt64 &&& ringMiscSrngEnable ≠ 0

instance (hal : Hal) (id : Nat) : Decidable (SrngEnabled hal id) :=
  inferInstanceAs (Decidable (_ ≠ _))

/-- The driver has set the ring up, and the device has it enabled. -/
def RingProgrammed (hal : Hal) (id : Nat) : Prop :=
  (hal.srngList id).initialized ≠ 0 ∧ SrngEnabled hal id

instance (hal : Hal) (id : Nat) : Decidable (RingProgrammed hal id) :=
  inferInstanceAs (Decidable (_ ∧ _))

/-- The base registers of the ring hold the 40 bits of the address. -/
structure RingBaseAt (hal : Hal) (id : Nat) (paddr : UInt64) : Prop where
  lsb : hifRead32 hal (ringReg id 0) = paddr.toUInt32
  msb : hifRead32 hal (ringReg id 1) &&& (0xff : UInt32) =
    (paddr >>> 32).toUInt32 &&& (0xff : UInt32)

/-- A register that no ring publishes its pointer in. -/
def PlainRegister (address : UInt32) : Prop :=
  ∀ id < 256, address ≠ hwregBase id halSrngRegGrpR2

theorem PlainRegister.of_low {address : UInt32} (low : address.toNat < 65536) :
    PlainRegister address := by
  intro id small equal
  have block := hwregBaseR2_inBlock small
  rw [InBlock, ← equal] at block
  omega

theorem plainRegister_ringReg {id : Nat} (small : id < 256) {index : UInt32}
    (inGroup : index.toNat < 32) : PlainRegister (ringReg id index) := by
  intro other otherSmall equal
  have own := toNat_hwreg small (show halSrngRegGrpR0.toNat < 2 by decide) inGroup
  have pointer := toNat_hwregBase otherSmall (show halSrngRegGrpR2.toNat < 2 by decide)
  rw [show halSrngRegGrpR0.toNat = 0 from rfl] at own
  rw [show halSrngRegGrpR2.toNat = 1 from rfl] at pointer
  rw [ringReg] at equal
  rw [equal, pointer] at own
  omega

theorem ringBaseMsb_toNat (srng : HalSrng) :
    (ringBaseMsb srng).toNat =
      (fieldPut 0 8 (srng.ringBasePaddr >>> 32).toNat |||
        fieldPut 8 20 (srng.entrySize * srng.numEntries).toNat) % 2 ^ 32 := by
  rw [ringBaseMsb, UInt64.toNat_toUInt32, UInt64.toNat_or]
  simp (disch := decide) only [toNat_fieldPrep, UInt32.toNat_toUInt64]
  rfl

/-- The fields of the second register. -/
theorem ringBaseMsb_fields (srng : HalSrng) :
    fieldGet 0 8 (ringBaseMsb srng).toNat = (srng.ringBasePaddr >>> 32).toNat % 2 ^ 8 ∧
      fieldGet 8 20 (ringBaseMsb srng).toNat =
        (srng.entrySize * srng.numEntries).toNat % 2 ^ 20 ∧
      fieldGet 28 4 (ringBaseMsb srng).toNat = 0 := by
  rw [ringBaseMsb_toNat]
  refine ⟨?_, ?_, ?_⟩
  · rw [fieldGet_mod (by decide), fieldGet_or, fieldGet_fieldPut,
      fieldGet_fieldPut_of_apart (by decide), Nat.or_zero]
  · rw [fieldGet_mod (by decide), fieldGet_or, fieldGet_fieldPut,
      fieldGet_fieldPut_of_apart (by decide), Nat.zero_or]
  · rw [fieldGet_mod (by decide), fieldGet_or, fieldGet_fieldPut_of_apart (by decide),
      fieldGet_fieldPut_of_apart (by decide), Nat.zero_or]

/-- The low byte of the second register is the high byte of the address. -/
theorem ringBaseMsb_low (srng : HalSrng) :
    ringBaseMsb srng &&& (0xff : UInt32) =
      (srng.ringBasePaddr >>> 32).toUInt32 &&& (0xff : UInt32) := by
  have lowByte : ∀ value : Nat, value &&& 255 = fieldGet 0 8 value := by
    intro value
    rw [fieldGet, Nat.pow_zero, Nat.div_one]
    exact Nat.and_two_pow_sub_one_eq_mod value 8
  apply UInt32.toNat_inj.mp
  rw [UInt32.toNat_and, UInt32.toNat_and, show (0xff : UInt32).toNat = 255 from rfl, lowByte,
    lowByte, UInt64.toNat_toUInt32, fieldGet_mod (by decide), (ringBaseMsb_fields srng).1]
  rw [fieldGet, Nat.pow_zero, Nat.div_one]

/-- A register that is written with one value only holds it at the end. -/
theorem load_hifWriteList_eq {hal : Hal} {writes : List (UInt32 × UInt32)}
    {address data : UInt32} (written : address ∈ writes.map Prod.fst)
    (same : ∀ write ∈ writes, write.1 = address → write.2 = data) :
    (hifWriteList hal writes).load (.mmio address) = data := by
  induction writes generalizing hal with
  | nil => cases written
  | cons write writes ih =>
      rw [hifWriteList]
      by_cases later : address ∈ writes.map Prod.fst
      · exact ih later fun other member => same other (.tail _ member)
      · have first : write.1 = address := by
          cases written with
          | head => rfl
          | tail _ member => exact absurd member later
        rw [load_hifWriteList_of_outside, hifWrite32, first, Hal.load_store_self]
        · exact same write (.head _) first
        · intro other member equal
          rw [WordPtr.mmio.injEq] at equal
          exact later (List.mem_map.mpr ⟨other, member, equal.symm⟩)

section Setup

variable {srng : HalSrng} {id : Nat}

/-- What is written to a register is what it holds. -/
theorem load_register {hal : Hal} (small : id < 256) {file : UInt32 → UInt32 → UInt32}
    {writes : List (UInt32 × UInt32)}
    (registers : ∀ write ∈ writes, RegisterWrite id file write) {group index : UInt32}
    (low : group.toNat < 2) (inGroup : index.toNat < 32)
    (written : hwregBase id group + halSrngRegRGroupOffset index ∈ writes.map Prod.fst) :
    (hifWriteList hal writes).load
      (.mmio (hwregBase id group + halSrngRegRGroupOffset index)) = file group index := by
  refine load_hifWriteList_eq written fun write member equal => ?_
  obtain ⟨group', index', low', inGroup', rfl⟩ := registers write member
  have here := toNat_hwreg small low inGroup
  have there := toNat_hwreg small low' inGroup'
  rw [show hwregBase id group' + halSrngRegRGroupOffset index' = _ from equal, here] at there
  have groups : group' = group := UInt32.toNat_inj.mp (by omega)
  have indices : index' = index := UInt32.toNat_inj.mp (by omega)
  rw [groups, indices]

/-- The shadow word and the misc register are written after the others. -/
theorem load_register_then {hal : Hal} (small : id < 256)
    {file : UInt32 → UInt32 → UInt32} {writes : List (UInt32 × UInt32)}
    (registers : ∀ write ∈ writes, RegisterWrite id file write) {group index : UInt32}
    (low : group.toNat < 2) (inGroup : index.toNat < 32)
    (written : group = halSrngRegGrpR0 ∧ index = 7 ∨
      hwregBase id group + halSrngRegRGroupOffset index ∈ writes.map Prod.fst) :
    hifRead32 (hifWrite32 ((hifWriteList hal writes).store (.rdp id) 0)
        (hwregBase id halSrngRegGrpR0 + halSrngRegRGroupOffset 7)
        (file halSrngRegGrpR0 7))
      (hwregBase id group + halSrngRegRGroupOffset index) = file group index := by
  rw [hifRead32, hifWrite32]
  by_cases misc : group = halSrngRegGrpR0 ∧ index = 7
  · obtain ⟨rfl, rfl⟩ := misc
    exact Hal.load_store_self ..
  · have other : hwregBase id group + halSrngRegRGroupOffset index ≠
        hwregBase id halSrngRegGrpR0 + halSrngRegRGroupOffset 7 := by
      intro equal
      have here := toNat_hwreg small low inGroup
      have there := toNat_hwreg small (show halSrngRegGrpR0.toNat < 2 by decide)
        (show (7 : UInt32).toNat < 32 by decide)
      rw [equal, there, show halSrngRegGrpR0.toNat = 0 from rfl,
        show (7 : UInt32).toNat = 7 from rfl] at here
      refine misc ⟨UInt32.toNat_inj.mp ?_, UInt32.toNat_inj.mp ?_⟩
      · rw [show halSrngRegGrpR0.toNat = 0 from rfl]
        omega
      · rw [show (7 : UInt32).toNat = 7 from rfl]
        omega
    rw [Hal.load_store_of_ne _ _ (by simpa using other),
      Hal.load_store_of_ne _ _ (by simp)]
    exact load_register small registers low inGroup (written.resolve_left misc)

theorem hifRead32_srcHwInit (hal : Hal) (small : id < 256)
    (r0 : srng.hwregBaseR0 = hwregBase id halSrngRegGrpR0)
    (r2 : srng.hwregBaseR2 = hwregBase id halSrngRegGrpR2)
    (shadow : srng.srcRing.tpAddr = .rdp id) {group index : UInt32}
    (low : group.toNat < 2) (inGroup : index.toNat < 32)
    (written : group = halSrngRegGrpR0 ∧ index = 7 ∨
      hwregBase id group + halSrngRegRGroupOffset index ∈
        (srcHwInitWrites hal.rdpPaddr srng).map Prod.fst) :
    hifRead32 (halSrngSrcHwInit hal srng)
        (hwregBase id group + halSrngRegRGroupOffset index) =
      srcRegister hal.rdpPaddr srng group index := by
  simp only [halSrngSrcHwInit, shadow]
  rw [r0]
  exact load_register_then small (srcHwInitWrites_register r0 r2 _) low inGroup written

theorem hifRead32_dstHwInit (hal : Hal) (small : id < 256)
    (r0 : srng.hwregBaseR0 = hwregBase id halSrngRegGrpR0)
    (r2 : srng.hwregBaseR2 = hwregBase id halSrngRegGrpR2)
    (shadow : srng.dstRing.hpAddr = .rdp id) {group index : UInt32}
    (low : group.toNat < 2) (inGroup : index.toNat < 32)
    (written : group = halSrngRegGrpR0 ∧ index = 7 ∨
      hwregBase id group + halSrngRegRGroupOffset index ∈
        (dstHwInitWrites hal.rdpPaddr srng).map Prod.fst) :
    hifRead32 (halSrngDstHwInit hal srng)
        (hwregBase id group + halSrngRegRGroupOffset index) =
      dstRegister hal.rdpPaddr srng group index := by
  simp only [halSrngDstHwInit, shadow]
  rw [r0]
  exact load_register_then small (dstHwInitWrites_register r0 r2 _) low inGroup written

/-- The initialisation leaves the base of the ring in its registers. -/
theorem ringBaseAt_hwInit (hal : Hal) (small : id < 256)
    (r0 : srng.hwregBaseR0 = hwregBase id halSrngRegGrpR0)
    (r2 : srng.hwregBaseR2 = hwregBase id halSrngRegGrpR2)
    (shadow : srng.shadowAddr = .rdp id) :
    RingBaseAt (halSrngHwInit hal srng) id srng.ringBasePaddr := by
  unfold HalSrng.shadowAddr at shadow
  unfold halSrngHwInit
  cases dir : srng.ringDir with
  | src =>
      simp only [dir] at shadow
      have read := @hifRead32_srcHwInit _ id hal small r0 r2 shadow halSrngRegGrpR0
      constructor
      · exact read (by decide) (by decide)
          (.inr (by rw [hwreg_zero, ← r0]; simp [srcHwInitWrites]))
      · rw [ringReg, read (by decide) (by decide) (.inr (by simp [srcHwInitWrites, r0]))]
        exact ringBaseMsb_low srng
  | dst =>
      simp only [dir] at shadow
      have read := @hifRead32_dstHwInit _ id hal small r0 r2 shadow halSrngRegGrpR0
      constructor
      · exact read (by decide) (by decide) (.inr (by simp [dstHwInitWrites, r0]))
      · rw [ringReg, read (by decide) (by decide) (.inr (by simp [dstHwInitWrites, r0]))]
        exact ringBaseMsb_low srng

end Setup

structure SameImage (hal hal' : Hal) (id : Nat) : Prop where
  initialized : (hal'.srngList id).initialized = (hal.srngList id).initialized
  registers : ∀ index : UInt32, index.toNat < 32 →
    hifRead32 hal' (ringReg id index) = hifRead32 hal (ringReg id index)

section Image

variable {hal hal' : Hal} {id other : Nat}

theorem SameImage.refl (hal : Hal) (id : Nat) : SameImage hal hal id :=
  ⟨rfl, fun _ _ => rfl⟩

theorem SameImage.trans {third : Hal} (left : SameImage hal hal' id)
    (right : SameImage hal' third id) : SameImage hal third id where
  initialized := right.initialized.trans left.initialized
  registers := fun index inGroup =>
    (right.registers index inGroup).trans (left.registers index inGroup)

theorem SameImage.of_plain (small : id < 256)
    (initialized : (hal'.srngList id).initialized = (hal.srngList id).initialized)
    (kept : ∀ address, PlainRegister address →
      hal'.load (.mmio address) = hal.load (.mmio address)) :
    SameImage hal hal' id where
  initialized := initialized
  registers := fun _ inGroup => kept _ (plainRegister_ringReg small inGroup)

theorem RingProgrammed.of_same (same : SameImage hal hal' id)
    (programmed : RingProgrammed hal' id) : RingProgrammed hal id := by
  unfold RingProgrammed SrngEnabled at programmed ⊢
  rwa [same.registers 7 (by decide), same.initialized] at programmed

theorem RingBaseAt.of_same {paddr : UInt64} (same : SameImage hal hal' id)
    (base : RingBaseAt hal id paddr) : RingBaseAt hal' id paddr where
  lsb := by rw [same.registers 0 (by decide), base.lsb]
  msb := by rw [same.registers 1 (by decide), base.msb]

variable {mem mem' : Nat → UInt32} {type : HalRingType} {ringNum macId : Int}
  {params : HalSrngParams}

theorem ringBaseAt_setup
    (setup : halSrngSetup hal mem type ringNum macId params =
      (hal', mem', (id : Int)))
    (lmac : (hal.srngConfig type).lmacRing = false) :
    RingBaseAt hal' id params.ringBasePaddr := by
  rw [halSrngSetup_hal setup lmac]
  exact ringBaseAt_hwInit _ (halSrngGetRingId_lt (halSrngSetup_ringId setup)) rfl rfl
    (srngSetupRing_wired ..).shadow

/-- A setup writes the registers of its own ring only. -/
theorem sameImage_setup
    (setup : halSrngSetup hal mem type ringNum macId params =
      (hal', mem', (id : Int)))
    (lmac : (hal.srngConfig type).lmacRing = false) (small : other < 256)
    (different : other ≠ id) : SameImage hal hal' other where
  initialized := by
    rw [(halSrngSetup_done setup).srngList, Function.update_of_ne different]
  registers := by
    intro index inGroup
    refine load_setup_of_outside setup lmac (by simp) fun address block equal => ?_
    rw [WordPtr.mmio.injEq] at equal
    have own := toNat_hwreg small (show halSrngRegGrpR0.toNat < 2 by decide) inGroup
    rw [show halSrngRegGrpR0.toNat = 0 from rfl] at own
    rw [InBlock, ← equal, ringReg, own] at block
    omega

end Image

end WirelessSimu
