import WirelessSimu.Hal.Registers

namespace WirelessSimu

open Data Kernel

/-! What the register block of a ring says about the ring. -/

/-- The fields of the block are the fields of `srng`, and no bit between them is set. -/
structure RingImage (hal : Hal) (srng : HalSrng) (id : Nat) : Prop where
  base : addressFields (hifRead32 hal (ringReg id 0)) (hifRead32 hal (ringReg id 1)) =
    srng.ringBasePaddr.toNat
  size : fieldGet 8 20 (hifRead32 hal (ringReg id 1)).toNat = srng.ringSize.toNat
  aboveSize : fieldGet 28 4 (hifRead32 hal (ringReg id 1)).toNat = 0
  entrySize : fieldGet 0 8 (hifRead32 hal (ringReg id 2)).toNat = srng.entrySize.toNat
  ringId : fieldGet 8 8 (hifRead32 hal (ringReg id 2)).toNat =
    if srng.ringDir = .dst then srng.ringId.toNat else 0
  aboveId : fieldGet 16 16 (hifRead32 hal (ringReg id 2)).toNat = 0
  enabled : fieldGet 6 1 (hifRead32 hal (ringReg id 7)).toNat = 1
  pointers : hifRead32 hal (hwregBase id halSrngRegGrpR2) = 0 ∧
    hifRead32 hal (hwregBase id halSrngRegGrpR2 + halSrngRegRGroupOffset 1) = 0
  shadow : hal.load (.rdp id) = 0

/-- The two registers with the address of the shadow word. -/
def shadowRegisters (hal : Hal) (id : Nat) : Nat :=
  (hifRead32 hal (ringReg id 5)).toNat + 2 ^ 32 * (hifRead32 hal (ringReg id 6)).toNat

theorem RingImage.unique {hal : Hal} {srng srng' : HalSrng} {id : Nat}
    (image : RingImage hal srng id) (image' : RingImage hal srng' id) :
    srng'.ringBasePaddr = srng.ringBasePaddr ∧ srng'.ringSize = srng.ringSize ∧
      srng'.entrySize = srng.entrySize ∧
      (srng.ringDir = .dst → srng'.ringDir = .dst → srng'.ringId = srng.ringId) := by
  refine ⟨UInt64.toNat_inj.mp (image'.base.symm.trans image.base),
    UInt32.toNat_inj.mp (image'.size.symm.trans image.size),
    UInt32.toNat_inj.mp (image'.entrySize.symm.trans image.entrySize), ?_⟩
  intro destination destination'
  have first := image.ringId
  have second := image'.ringId
  rw [if_pos destination] at first
  rw [if_pos destination'] at second
  exact UInt8.toNat_inj.mp (second.symm.trans first)

/-- The fields that setup fills in, as far as they go into registers. -/
structure RingFields (srng : HalSrng) (id : Nat) : Prop where
  small : id < 172
  ringId : srng.ringId.toNat = id
  r0 : srng.hwregBaseR0 = hwregBase id halSrngRegGrpR0
  r2 : srng.hwregBaseR2 = hwregBase id halSrngRegGrpR2
  shadow : srng.shadowAddr = .rdp id
  entrySize : srng.entrySize.toNat < 2 ^ 8
  ringSize : srng.ringSize = srng.entrySize * srng.numEntries
  size : srng.ringSize.toNat < 2 ^ 20
  base : srng.ringBasePaddr.toNat < 2 ^ 32

section Fields

variable {srng : HalSrng} {id : Nat}

theorem entryRegister_fields (ringId entrySize : UInt64) :
    let word := (fieldPrep 15 8 ringId ||| fieldPrep 7 0 entrySize).toUInt32
    fieldGet 0 8 word.toNat = entrySize.toNat % 2 ^ 8 ∧
      fieldGet 8 8 word.toNat = ringId.toNat % 2 ^ 8 ∧ fieldGet 16 16 word.toNat = 0 := by
  intro word
  have packed : word.toNat =
      (fieldPut 8 8 ringId.toNat ||| fieldPut 0 8 entrySize.toNat) % 2 ^ 32 := by
    rw [UInt64.toNat_toUInt32, UInt64.toNat_or]
    simp (disch := decide) only [toNat_fieldPrep]
    rfl
  rw [packed]
  refine ⟨?_, ?_, ?_⟩
  · rw [fieldGet_mod (by decide), fieldGet_or, fieldGet_fieldPut,
      fieldGet_fieldPut_of_apart (by decide), Nat.zero_or]
  · rw [fieldGet_mod (by decide), fieldGet_or, fieldGet_fieldPut,
      fieldGet_fieldPut_of_apart (by decide), Nat.or_zero]
  · rw [fieldGet_mod (by decide), fieldGet_or, fieldGet_fieldPut_of_apart (by decide),
      fieldGet_fieldPut_of_apart (by decide), Nat.zero_or]

/-- A source ring writes the entry size alone. -/
theorem entryRegister_src (entrySize : UInt64) :
    (fieldPrep 7 0 entrySize).toUInt32 =
      (fieldPrep 15 8 0 ||| fieldPrep 7 0 entrySize).toUInt32 := by
  rw [show fieldPrep 15 8 0 = 0 by decide, UInt64.zero_or]

theorem misc_enabled (flags : UInt32) (loopCount : Bool) :
    fieldGet 6 1 (ringMiscSwap flags ||| (if loopCount then 0 else bit 1) |||
      ringMiscSrngEnable).toUInt32.toNat = 1 := by
  unfold ringMiscSwap
  cases loopCount <;> split_ifs <;> decide

/-- The image in terms of the words that both directions write. -/
theorem RingImage.of_words {hal : Hal} (fields : RingFields srng id) (ringId : UInt64)
    (loopCount : Bool)
    (first : hifRead32 hal (ringReg id 0) = srng.ringBasePaddr.toUInt32)
    (second : hifRead32 hal (ringReg id 1) = ringBaseMsb srng)
    (third : hifRead32 hal (ringReg id 2) =
      (fieldPrep 15 8 ringId ||| fieldPrep 7 0 srng.entrySize.toUInt64).toUInt32)
    (shown : ringId.toNat = if srng.ringDir = .dst then srng.ringId.toNat else 0)
    (misc : hifRead32 hal (ringReg id 7) =
      (ringMiscSwap srng.flags ||| (if loopCount then 0 else bit 1) |||
        ringMiscSrngEnable).toUInt32)
    (pointers : hifRead32 hal (hwregBase id halSrngRegGrpR2) = 0 ∧
      hifRead32 hal (hwregBase id halSrngRegGrpR2 + halSrngRegRGroupOffset 1) = 0)
    (shadow : hal.load (.rdp id) = 0) : RingImage hal srng id := by
  have small := fields.small
  have size := fields.size
  obtain ⟨baseHigh, ringSize, aboveSize⟩ := ringBaseMsb_fields srng
  obtain ⟨entrySize, idField, aboveId⟩ :=
    entryRegister_fields ringId srng.entrySize.toUInt64
  rw [toNat_high_word] at baseHigh
  rw [← fields.ringSize, Nat.mod_eq_of_lt size] at ringSize
  rw [UInt32.toNat_toUInt64, Nat.mod_eq_of_lt fields.entrySize] at entrySize
  refine ⟨?_, ?_, ?_, ?_, ?_, ?_, ?_, pointers, shadow⟩
  · rw [first, second]
    refine addressFields_eq (Nat.lt_trans fields.base (by decide)) ?_ baseHigh
    exact UInt64.toNat_toUInt32 _
  · rw [second]
    exact ringSize
  · rw [second]
    exact aboveSize
  · rw [third]
    exact entrySize
  · have narrow : ringId.toNat < 2 ^ 8 := by
      rw [shown]
      split
      · exact srng.ringId.toNat_lt
      · decide
    rw [third, idField, Nat.mod_eq_of_lt narrow, shown]
  · rw [third]
    exact aboveId
  · rw [misc]
    exact misc_enabled ..

theorem shadowAddress_words {rdpPaddr : UInt64} (small : id < 172)
    (inMask : rdpPaddr.toNat + 4 * id < 2 ^ 32) :
    ((rdpPaddr + (WordPtr.rdp id).byteOffset) &&& 0xffffffff).toUInt32.toNat +
        2 ^ 32 * ((rdpPaddr + (WordPtr.rdp id).byteOffset) >>> 32).toUInt32.toNat =
      rdpPaddr.toNat + 4 * id := by
  have index : (UInt64.ofNat id).toNat = id := by
    rw [UInt64.toNat_ofNat', Nat.mod_eq_of_lt (by omega)]
  have sum : (rdpPaddr + (WordPtr.rdp id).byteOffset).toNat = rdpPaddr.toNat + 4 * id := by
    rw [WordPtr.byteOffset, UInt64.toNat_add, UInt64.toNat_mul, index,
      show (4 : UInt64).toNat = 4 from rfl]
    omega
  rw [toNat_low_word, UInt64.toNat_toUInt32, toNat_high_word, sum]
  omega

theorem ringImage_src (hal : Hal) (fields : RingFields srng id)
    (source : srng.ringDir = .src) :
    RingImage (halSrngSrcHwInit hal srng) srng id ∧
      (srng.ringId ≠ halSrngRingIdWbmIdleLink →
        hal.rdpPaddr.toNat + 4 * id < 2 ^ 32 →
        shadowRegisters (halSrngSrcHwInit hal srng) id = hal.rdpPaddr.toNat + 4 * id) := by
  have small : id < 256 := Nat.lt_trans fields.small (by decide)
  have shadow := fields.shadow
  simp only [HalSrng.shadowAddr, source] at shadow
  have clear := load_hwInit hal fields.r0 fields.r2 fields.shadow
  simp only [halSrngHwInit, source] at clear
  have read := @hifRead32_srcHwInit srng id hal small fields.r0 fields.r2 shadow
  have read0 := @read halSrngRegGrpR0
  constructor
  · refine .of_words fields 0 false ?_ ?_ ?_ ?_ ?_ ?_ clear.1
    · exact read0 (by decide) (by decide)
        (.inr (by rw [hwreg_zero, ← fields.r0]; simp [srcHwInitWrites]))
    · exact read0 (by decide) (by decide) (.inr (by simp [srcHwInitWrites, fields.r0]))
    · rw [← entryRegister_src]
      exact read0 (by decide) (by decide) (.inr (by simp [srcHwInitWrites, fields.r0]))
    · rw [source, if_neg (by decide)]
      rfl
    · exact read0 (by decide) (by decide) (.inl ⟨rfl, rfl⟩)
    · refine ⟨clear.2, ?_⟩
      exact read (by decide) (by decide) (.inr (by simp [srcHwInitWrites, fields.r2]))
  · intro other inMask
    have low := @read0 5 (by decide) (by decide)
      (.inr (by simp [srcHwInitWrites, fields.r0, other]))
    have high := @read0 6 (by decide) (by decide)
      (.inr (by simp [srcHwInitWrites, fields.r0, other]))
    rw [shadowRegisters, ringReg, ringReg, low, high]
    simp only [srcRegister, shadow]
    exact shadowAddress_words fields.small inMask

theorem ringImage_dst (hal : Hal) (fields : RingFields srng id)
    (destination : srng.ringDir = .dst) :
    RingImage (halSrngDstHwInit hal srng) srng id ∧
      (hal.rdpPaddr.toNat + 4 * id < 2 ^ 32 →
        shadowRegisters (halSrngDstHwInit hal srng) id = hal.rdpPaddr.toNat + 4 * id) := by
  have small : id < 256 := Nat.lt_trans fields.small (by decide)
  have shadow := fields.shadow
  simp only [HalSrng.shadowAddr, destination] at shadow
  have clear := load_hwInit hal fields.r0 fields.r2 fields.shadow
  simp only [halSrngHwInit, destination] at clear
  have read := @hifRead32_dstHwInit srng id hal small fields.r0 fields.r2 shadow
  have read0 := @read halSrngRegGrpR0
  have written : ∀ index ∈ [0, 1, 2, 5, 6],
      hwregBase id halSrngRegGrpR0 + halSrngRegRGroupOffset index ∈
        (dstHwInitWrites hal.rdpPaddr srng).map Prod.fst := by
    simp [dstHwInitWrites, fields.r0]
  constructor
  · refine .of_words fields srng.ringId.toUInt64 true ?_ ?_ ?_ ?_ ?_ ?_ clear.1
    · exact read0 (by decide) (by decide) (.inr (written 0 (by decide)))
    · exact read0 (by decide) (by decide) (.inr (written 1 (by decide)))
    · exact read0 (by decide) (by decide) (.inr (written 2 (by decide)))
    · rw [destination, if_pos rfl]
      exact UInt8.toNat_toUInt64 _
    · rw [if_pos rfl, UInt64.or_zero]
      exact read0 (by decide) (by decide) (.inl ⟨rfl, rfl⟩)
    · refine ⟨clear.2, ?_⟩
      exact read (by decide) (by decide) (.inr (by simp [dstHwInitWrites, fields.r2]))
  · intro inMask
    have low := @read0 5 (by decide) (by decide) (.inr (written 5 (by decide)))
    have high := @read0 6 (by decide) (by decide) (.inr (written 6 (by decide)))
    rw [shadowRegisters, ringReg, ringReg, low, high]
    simp only [dstRegister, shadow]
    exact shadowAddress_words fields.small inMask

end Fields

theorem srngSetupRing_fields {hal : Hal} {type : HalRingType} {id : Nat}
    {params : HalSrngParams} (old : HalSrng)
    (config : hal.srngConfig = hwSrngConfigTemplate)
    (inRange : (id : Int) < halSrngRingIdMax)
    (size : (hwSrngConfigTemplate type).entrySize.toNat *
      params.numEntries.toUInt32.toNat ≤ (hwSrngConfigTemplate type).maxSize.toNat)
    (base : params.ringBasePaddr.toNat < 2 ^ 32) :
    RingFields (srngSetupRing hal old type id params) id := by
  have maximum : halSrngRingIdMax = 172 := by decide
  have limit : (hwSrngConfigTemplate type).maxSize.toNat = 65535 := by cases type <;> rfl
  rw [maximum] at inRange
  rw [limit] at size
  refine ⟨by omega, ?_, rfl, rfl, (srngSetupRing_wired ..).shadow, ?_, rfl, ?_, base⟩
  · simp only [srngSetupRing]
    rw [UInt8.toNat_ofNat', Nat.mod_eq_of_lt (by omega)]
  · simp only [srngSetupRing, config]
    cases type <;> decide
  · simp only [srngSetupRing, config]
    rw [UInt32.toNat_mul, UInt16.toNat_toUInt32]
    omega

/-- The register block describes the ring and no other, once setup has initialised it. The
address of the shadow word is there for every ring but the source ring of the WBM idle
links. -/
theorem ring_image_roundTrip {hal : Hal} {type : HalRingType} {id : Nat}
    {params : HalSrngParams} (old : HalSrng)
    (config : hal.srngConfig = hwSrngConfigTemplate)
    (inRange : (id : Int) < halSrngRingIdMax)
    (size : (hwSrngConfigTemplate type).entrySize.toNat *
      params.numEntries.toUInt32.toNat ≤ (hwSrngConfigTemplate type).maxSize.toNat)
    (base : params.ringBasePaddr.toNat < 2 ^ 32)
    (rdp : hal.rdpPaddr.toNat + 4 * id < 2 ^ 32) :
    let srng := srngSetupRing hal old type id params
    let next := halSrngHwInit (hal.setSrng id srng) srng
    RingImage next srng id ∧
      (¬ (srng.ringDir = .src ∧ srng.ringId = halSrngRingIdWbmIdleLink) →
        shadowRegisters next id = hal.rdpPaddr.toNat + 4 * id) ∧
      ∀ other, RingImage next other id →
        other.ringBasePaddr = srng.ringBasePaddr ∧ other.ringSize = srng.ringSize ∧
          other.entrySize = srng.entrySize ∧
          (srng.ringDir = .dst → other.ringDir = .dst → other.ringId = srng.ringId) := by
  intro srng next
  have fields := srngSetupRing_fields old config inRange size base
  cases dir : srng.ringDir with
  | src =>
      have init : next = halSrngSrcHwInit (hal.setSrng id srng) srng := by
        simp only [next, halSrngHwInit, dir]
      obtain ⟨image, shadow⟩ := ringImage_src (hal.setSrng id srng) fields dir
      rw [init]
      refine ⟨image, fun other => ?_, fun other image' => ?_⟩
      · exact shadow (fun link => other ⟨rfl, link⟩) rdp
      · have unique := image.unique image'
        rwa [dir] at unique
  | dst =>
      have init : next = halSrngDstHwInit (hal.setSrng id srng) srng := by
        simp only [next, halSrngHwInit, dir]
      obtain ⟨image, shadow⟩ := ringImage_dst (hal.setSrng id srng) fields dir
      rw [init]
      refine ⟨image, fun _ => shadow rdp, fun other image' => ?_⟩
      have unique := image.unique image'
      rwa [dir] at unique

/-- A status ring of 32 entries. -/
theorem ring_image_roundTrip_status :
    let hal := halSrngInit false 0x2000 fun _ => 0
    let params : HalSrngParams :=
      { ringBasePaddr := 0x1000, ringBaseVaddr := 0x8000, numEntries := 32,
        intrBatchCntrThresEntries := 0, intrTimerThresUs := 0, flags := 0,
        lowThreshold := 0, msiAddr := 0, msiData := 0 }
    let srng := srngSetupRing hal (hal.srngList 1) .testSrngDstStatus 1 params
    let next := halSrngHwInit (hal.setSrng 1 srng) srng
    RingImage next srng 1 ∧ shadowRegisters next 1 = 0x2004 := by
  intro hal params srng next
  obtain ⟨image, shadow, _⟩ := @ring_image_roundTrip hal .testSrngDstStatus 1 params
    (hal.srngList 1) rfl (by decide) (by decide) (by decide) (by decide)
  exact ⟨image, shadow (by decide)⟩

/-- Ring 104, which setup accepts as ring -21 of the source type: its block has no address
of the shadow word. -/
theorem idle_link_without_shadow :
    let hal := halSrngInit false 0x2000 fun _ => 0
    let params : HalSrngParams :=
      { ringBasePaddr := 0x1000, ringBaseVaddr := 0x8000, numEntries := 32,
        intrBatchCntrThresEntries := 0, intrTimerThresUs := 0, flags := 0,
        lowThreshold := 0, msiAddr := 0, msiData := 0 }
    let setup := halSrngSetup hal (fun _ => 0) .testSrng (-21) 0 params
    setup.2.2 = 104 ∧ (setup.1.srngList 104).ringSize = 160 ∧
      shadowRegisters setup.1 104 = 0 ∧
      shadowRegisters setup.1 104 ≠ hal.rdpPaddr.toNat + 4 * 104 := by
  decide +kernel

end WirelessSimu
