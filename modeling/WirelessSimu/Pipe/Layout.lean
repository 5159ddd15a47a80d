import WirelessSimu.Pipe.Arithmetic

namespace WirelessSimu

open Data Kernel Bounds

/-! Where the descriptors of a test ring lie in its coherent area. -/

/-- `desc_sz`, as `hal_srng_test_alloc_pipe` gives it for the ring of each type. -/
def descBytes : HalRingType → Nat
  | .testSrng => halTestSw2hwBytes
  | .testSrngDst => halTestDstBytes
  | .testSrngDstStatus => halTestDstStatusBytes

/-- The table has the descriptors in words. -/
theorem descBytes_eq (type : HalRingType) :
    descBytes type = 4 * (hwSrngConfigTemplate type).entrySize.toNat := by
  cases type <;> rfl

/-- What `dma_alloc_coherent` gives: two addresses of one area that agree modulo the
alignment, the device's within its address space. -/
structure SrngTestRing.Coherent (ring : SrngTestRing) : Prop where
  congruent : ring.baseAddrOwnerSpaceUnaligned % 8 =
    ring.baseAddrTestSpaceUnaligned.toNat % 8
  inSpace : ring.baseAddrTestSpaceUnaligned.toNat + ring.dmaSize ≤ 2 ^ 64

/-- `length` bytes from `start` on lie in the area. -/
def SrngTestRing.InArea (ring : SrngTestRing) (start length : Nat) : Prop :=
  ring.baseAddrOwnerSpaceUnaligned ≤ start ∧
    start + length ≤ ring.baseAddrOwnerSpaceUnaligned + ring.dmaSize

/-! The two alignments round up by the same padding. -/

def alignPadding (address : Nat) : Nat := (8 - address % 8) % 8

theorem alignPadding_lt (address : Nat) : alignPadding address < 8 :=
  Nat.mod_lt _ (by decide)

theorem ptrAlign_eq (address : Nat) : ptrAlign address = address + alignPadding address := by
  rw [ptrAlign, alignPadding]
  omega

theorem and_not_seven (value : UInt64) : (value &&& ~~~7).toNat = value.toNat / 8 * 8 := by
  have mask : (~~~7 : UInt64).toNat = (2 ^ 61 - 1) * 2 ^ 3 := rfl
  have large : value.toNat < 2 ^ 64 := value.toNat_lt
  rw [UInt64.toNat_and, mask, show (8 : Nat) = 2 ^ 3 from rfl]
  apply Nat.eq_of_testBit_eq
  intro index
  rw [Nat.testBit_and, Nat.testBit_mul_two_pow, Nat.testBit_mul_two_pow,
    Nat.testBit_div_two_pow, Nat.testBit_two_pow_sub_one]
  by_cases low : 3 ≤ index
  · by_cases high : index < 64
    · have inside : index - 3 < 61 := by omega
      simp [low, inside, Nat.sub_add_cancel low]
    · have zero : value.toNat.testBit index = false :=
        Nat.testBit_lt_two_pow
          (Nat.lt_of_lt_of_le large (Nat.pow_le_pow_right (by decide) (by omega)))
      simp [low, zero, Nat.sub_add_cancel low]
  · simp [low]

theorem toNat_dmaAlign {address : UInt64} (inSpace : address.toNat + 8 ≤ 2 ^ 64) :
    (dmaAlign address).toNat = address.toNat + alignPadding address.toNat := by
  have sum : (address + 7).toNat = address.toNat + 7 := by
    rw [UInt64.toNat_add, show (7 : UInt64).toNat = 7 from rfl,
      Nat.mod_eq_of_lt (by omega)]
  rw [dmaAlign, and_not_seven, sum, alignPadding]
  omega

/-- The fields of a ring that come from its allocation. -/
structure AllocatedRing (ring : SrngTestRing) (nentries : UInt32) (descSz : Nat) :
    Prop where
  entries : ring.nentries = nentries
  owner : ring.baseAddrOwnerSpace = ptrAlign ring.baseAddrOwnerSpaceUnaligned
  test : ring.baseAddrTestSpace = dmaAlign ring.baseAddrTestSpaceUnaligned
  dmaSize : ring.dmaSize = nentries.toNat * descSz + 8

theorem halSrngTestAllocRing_area {memory : RingMemory} {nentries : UInt32} {descSz : Nat}
    {ring : SrngTestRing}
    (allocated : halSrngTestAllocRing memory nentries descSz = .ok ring) :
    AllocatedRing ring nentries descSz := by
  unfold halSrngTestAllocRing at allocated
  split at allocated
  · contradiction
  · split at allocated
    · contradiction
    · cases allocated
      exact ⟨rfl, rfl, rfl, rfl⟩

/-- Ring `id` of the HAL works on the area of `ring`. -/
structure OnArea (hal : Hal) (id : Nat) (ring : SrngTestRing) (type : HalRingType) :
    Prop where
  live : (hal.srngList id).initialized ≠ 0
  dir : (hal.srngList id).ringDir = (hwSrngConfigTemplate type).ringDir
  vaddr : (hal.srngList id).ringBaseVaddr = ring.baseAddrOwnerSpace
  paddr : (hal.srngList id).ringBasePaddr = ring.baseAddrTestSpace
  entries : (hal.srngList id).numEntries = ring.nentries
  size : (hal.srngList id).entrySize = (hwSrngConfigTemplate type).entrySize.toUInt32
  bounded : 0 < ring.nentries.toNat → RingBounded (hal.srngList id)

section Area

variable {hal hal' next final : Hal} {ring ring' : SrngTestRing} {type : HalRingType}
variable {id : Nat} {op : RingOp}

theorem OnArea.moves (area : OnArea hal id ring type)
    (moves : Moves hal (hal.srngList id) (hal'.srngList id)) :
    OnArea hal' id ring type where
  live := by rw [moves.initialized]; exact area.live
  dir := moves.same.ringDir.trans area.dir
  vaddr := moves.same.ringBaseVaddr.trans area.vaddr
  paddr := moves.same.ringBasePaddr.trans area.paddr
  entries := moves.numEntries.trans area.entries
  size := moves.same.entrySize.trans area.size
  bounded := fun positive => moves.bounded (area.bounded positive)

theorem OnArea.step (area : OnArea hal id ring type) (wired : HalWired hal)
    (others : op.isSetup = true → op.ring hal ≠ some id)
    (stepped : op.step hal = some next) : OnArea next id ring type := by
  obtain ⟨enabled, rfl⟩ := RingOp.step_eq_some.mp stepped
  cases own : op.ring hal with
  | none =>
      rw [RingOp.act_none own]
      exact area
  | some other =>
      by_cases same : id = other
      · subst same
        cases kind : op.isSetup with
        | true => exact absurd own (others kind)
        | false => exact area.moves (RingOp.act_moves own kind)
      · have kept := (RingOp.act_confined wired enabled own).srng id same
        exact area.moves (kept ▸ Moves.refl hal (hal.srngList id))

/-- Later operations leave the ring on its area, as long as none sets it up again. -/
theorem OnArea.run {ops : List RingOp} (area : OnArea hal id ring type)
    (wired : HalWired hal)
    (others : ∀ op ∈ ops, op.isSetup = true → op.ring hal ≠ some id)
    (reached : run RingOp.step hal ops = some final) : OnArea final id ring type := by
  induction ops generalizing hal with
  | nil =>
      cases reached
      exact area
  | cons op ops ih =>
      obtain ⟨next, stepped, rest⟩ := run_cons_eq_some.mp reached
      have areaNext := area.step wired (others op List.mem_cons_self) stepped
      refine ih areaNext (RingOp.wired_step wired stepped) ?_ rest
      intro later member setup
      rw [RingOp.ring_congr (RingOp.config_step wired stepped)]
      exact others later (List.mem_cons_of_mem op member) setup

theorem halSrngTestInitRing_onArea {nentries : UInt32} {index : Int}
    (config : hal.srngConfig = hwSrngConfigTemplate)
    (allocated : AllocatedRing ring nentries (descBytes type))
    (fits : nentries.toNat * descBytes type + srngTestDescRingAlign < 2 ^ 31)
    (registered : halSrngTestInitRing hal ring index type = (hal', ring', 0)) :
    OnArea hal' ring'.halRingId.toNat ring' type := by
  obtain ⟨id, setup, same, rfl⟩ := halSrngTestInitRing_setup registered
  have entries : ring.params.numEntries.toUInt32 = ring.nentries :=
    UInt32.toUInt32_toInt32 _
  have ringEq := (halSrngSetup_done setup).ring_eq
  have admissible : 0 < ring'.nentries.toNat → Admissible hal type ring.params := by
    intro positive
    rw [same] at positive
    refine ⟨by rw [entries]; exact positive, ?_, ?_⟩
    · rw [config]
      cases type <;> decide
    · rw [entries, config, allocated.entries]
      rw [descBytes_eq, ← Nat.mul_assoc, Nat.mul_comm _ 4, Nat.mul_assoc] at fits
      omega
  constructor <;> rw [ringEq]
  · simp [srngSetupRing]
  · rw [← config]
    rfl
  · rw [same]
    rfl
  · rw [same]
    rfl
  · rw [same]
    exact entries
  · rw [← config]
    rfl
  · intro positive
    exact srngSetupRing_bounded (admissible positive) _ _

/-- The memory is as it was, or a whole descriptor was written in the area. -/
def WritesEntry (ring : SrngTestRing) (type : HalRingType) (test test' : SrngTestRing) :
    Prop :=
  test'.mem = test.mem ∨ ∃ desc words, test'.mem = storeWords test.mem desc words ∧
    4 * words.length = descBytes type ∧ ring.InArea desc (4 * words.length)

/-- Everything that is written through pointers into the ring stays in the area, entry by
entry, and the device finds each entry at the address it computes. -/
structure RingLayout (hal : Hal) (ring : SrngTestRing) (type : HalRingType) : Prop where
  inside : ∀ slot, slot < ring.nentries.toNat → ring.InArea
    (slotAddr ring.baseAddrOwnerSpace (descBytes type / 4) slot) (descBytes type)
  apart : ∀ first second, first ≠ second →
    slotAddr ring.baseAddrOwnerSpace (descBytes type / 4) first + descBytes type ≤
        slotAddr ring.baseAddrOwnerSpace (descBytes type / 4) second ∨
      slotAddr ring.baseAddrOwnerSpace (descBytes type / 4) second + descBytes type ≤
        slotAddr ring.baseAddrOwnerSpace (descBytes type / 4) first
  sameByte : ∀ slot, slot < ring.nentries.toNat →
    ∃ byte, byte + descBytes type ≤ ring.dmaSize ∧
      (hal.srngList ring.halRingId.toNat).ringBaseVaddr +
          4 * ((hal.srngList ring.halRingId.toNat).entrySize.toNat * slot) =
        ring.baseAddrOwnerSpaceUnaligned + byte ∧
      ((hal.srngList ring.halRingId.toNat).ringBasePaddr +
          4 * ((hal.srngList ring.halRingId.toNat).entrySize.toUInt64 *
            UInt64.ofNat slot)).toNat =
        ring.baseAddrTestSpaceUnaligned.toNat + byte
  next : 0 < ring.nentries.toNat →
    (hal.srngList ring.halRingId.toNat).ringDir = .src → ∀ desc,
    (halSrngSrcGetNextEntry hal ring.halRingId.toNat).2 = some desc ∨
      (halSrngSrcGetNextReaped hal ring.halRingId.toNat).2 = some desc →
    ∃ slot, slot < ring.nentries.toNat ∧
      desc = slotAddr ring.baseAddrOwnerSpace (descBytes type / 4) slot
  nextDst : 0 < ring.nentries.toNat →
    (hal.srngList ring.halRingId.toNat).ringDir = .dst → ∀ desc,
    (halSrngDstGetNextEntry hal ring.halRingId.toNat).2 = some desc →
    ∃ slot, slot < ring.nentries.toNat ∧
      desc = slotAddr ring.baseAddrOwnerSpace (descBytes type / 4) slot
  sent : 0 < ring.nentries.toNat → type = .testSrng →
    ∀ (test : SrngTestRing) (skb : Nat) (data : SkBuff) (transferId writeIndex : UInt32),
    test.halRingId = ring.halRingId →
    WritesEntry ring type test
      (halSrngTestSend hal test skb data transferId writeIndex).2.1
  posted : 0 < ring.nentries.toNat → type = .testSrngDst →
    ∀ (pipe : SrngTestPipe) (test test' : SrngTestRing) (skb : Nat) (paddr : UInt64)
      (writeIndex : UInt32),
    test.halRingId = ring.halRingId → pipe.dstRing = some test →
    (testDstEnqueuePipe hal pipe test skb paddr writeIndex).2.1.dstRing = some test' →
    WritesEntry ring type test test'

/-- The padding of the alignment and the entries fill no more than the area. -/
theorem AllocatedRing.slot_le {nentries : UInt32}
    (allocated : AllocatedRing ring nentries (descBytes type)) {slot : Nat}
    (within : slot < nentries.toNat) :
    alignPadding ring.baseAddrOwnerSpaceUnaligned + 4 * (descBytes type / 4 * slot) +
      descBytes type ≤ ring.dmaSize := by
  have padding := alignPadding_lt ring.baseAddrOwnerSpaceUnaligned
  have whole : 4 * (descBytes type / 4) = descBytes type := by
    rw [descBytes_eq, Nat.mul_div_cancel_left _ (by decide)]
  have scaled : descBytes type * (slot + 1) ≤ descBytes type * nentries.toNat :=
    Nat.mul_le_mul_left _ within
  rw [Nat.mul_succ] at scaled
  rw [allocated.dmaSize, ← Nat.mul_assoc, whole, Nat.mul_comm nentries.toNat]
  omega

theorem OnArea.entrySize_eq (area : OnArea hal id ring type) :
    (hal.srngList id).entrySize.toNat = descBytes type / 4 := by
  rw [area.size, UInt16.toNat_toUInt32, descBytes_eq,
    Nat.mul_div_cancel_left _ (by decide)]

theorem OnArea.inRing (area : OnArea hal id ring type) {desc : Nat}
    (inRing : InRing (hal.srngList id) desc) :
    ∃ slot, slot < ring.nentries.toNat ∧
      desc = slotAddr ring.baseAddrOwnerSpace (descBytes type / 4) slot := by
  obtain ⟨slot, within, rfl⟩ := inRing
  rw [area.entries] at within
  exact ⟨slot, within, by rw [area.vaddr, area.entrySize_eq]⟩

section Registered

variable {nentries : UInt32}

theorem OnArea.memset (area : OnArea hal id ring type)
    (allocated : AllocatedRing ring nentries (descBytes type))
    (fits : nentries.toNat * descBytes type + srngTestDescRingAlign < 2 ^ 31) :
    ring.InArea (hal.srngList id).ringBaseVaddr
      (((hal.srngList id).entrySize * (hal.srngList id).numEntries) <<< 2).toNat := by
  have padding := alignPadding_lt ring.baseAddrOwnerSpaceUnaligned
  have whole : 4 * (descBytes type / 4) = descBytes type := by
    rw [descBytes_eq, Nat.mul_div_cancel_left _ (by decide)]
  have scaled : descBytes type * nentries.toNat =
      4 * (descBytes type / 4 * nentries.toNat) := by rw [← Nat.mul_assoc, whole]
  rw [Nat.mul_comm, scaled] at fits
  have product : ((hal.srngList id).entrySize * (hal.srngList id).numEntries).toNat =
      descBytes type / 4 * nentries.toNat := by
    rw [UInt32.toNat_mul, area.entrySize_eq, area.entries, allocated.entries,
      Nat.mod_eq_of_lt (by omega)]
  have length : (((hal.srngList id).entrySize * (hal.srngList id).numEntries) <<< 2).toNat =
      4 * (descBytes type / 4 * nentries.toNat) := by
    rw [UInt32.toNat_shiftLeft, product, show (2 : UInt32).toNat % 32 = 2 from rfl,
      Nat.shiftLeft_eq, Nat.mod_eq_of_lt (by omega)]
    omega
  rw [length, area.vaddr, allocated.owner, ptrAlign_eq, SrngTestRing.InArea,
    allocated.dmaSize, Nat.mul_comm nentries.toNat, scaled]
  omega

theorem AllocatedRing.inArea (allocated : AllocatedRing ring nentries (descBytes type))
    {slot : Nat} (within : slot < nentries.toNat) :
    ring.InArea (slotAddr ring.baseAddrOwnerSpace (descBytes type / 4) slot)
      (descBytes type) := by
  have room := allocated.slot_le within
  rw [allocated.owner, ptrAlign_eq, slotAddr, SrngTestRing.InArea]
  omega

theorem OnArea.sameByte (area : OnArea hal id ring type)
    (allocated : AllocatedRing ring nentries (descBytes type)) (coherent : ring.Coherent)
    {slot : Nat} (within : slot < nentries.toNat) :
    ∃ byte, byte + descBytes type ≤ ring.dmaSize ∧
      (hal.srngList id).ringBaseVaddr + 4 * ((hal.srngList id).entrySize.toNat * slot) =
        ring.baseAddrOwnerSpaceUnaligned + byte ∧
      ((hal.srngList id).ringBasePaddr +
          4 * ((hal.srngList id).entrySize.toUInt64 * UInt64.ofNat slot)).toNat =
        ring.baseAddrTestSpaceUnaligned.toNat + byte := by
  have room := allocated.slot_le within
  have inSpace := coherent.inSpace
  have dmaSize := allocated.dmaSize
  have bytesPos : 0 < descBytes type := by cases type <;> decide
  have slotSmall := Nat.lt_trans within nentries.toNat_lt
  have padding : alignPadding ring.baseAddrTestSpaceUnaligned.toNat =
      alignPadding ring.baseAddrOwnerSpaceUnaligned := by
    rw [alignPadding, alignPadding, coherent.congruent]
  refine ⟨_, room, ?_, ?_⟩
  · rw [area.vaddr, allocated.owner, ptrAlign_eq, area.entrySize_eq]
    omega
  · have base : (hal.srngList id).ringBasePaddr.toNat =
        ring.baseAddrTestSpaceUnaligned.toNat +
          alignPadding ring.baseAddrOwnerSpaceUnaligned := by
      rw [area.paddr, allocated.test, toNat_dmaAlign (by omega), padding]
    have slotEq : (UInt64.ofNat slot).toNat = slot := by
      rw [UInt64.toNat_ofNat', Nat.mod_eq_of_lt (by omega)]
    have product : ((hal.srngList id).entrySize.toUInt64 * UInt64.ofNat slot).toNat =
        descBytes type / 4 * slot := by
      rw [UInt64.toNat_mul, UInt32.toNat_toUInt64, area.entrySize_eq, slotEq,
        Nat.mod_eq_of_lt (by omega)]
    rw [UInt64.toNat_add, UInt64.toNat_mul, product, base,
      show (4 : UInt64).toNat = 4 from rfl]
    omega

theorem OnArea.nextSrc (area : OnArea hal id ring type) (positive : 0 < ring.nentries.toNat)
    (source : (hal.srngList id).ringDir = .src) {desc : Nat}
    (found : (halSrngSrcGetNextEntry hal id).2 = some desc ∨
      (halSrngSrcGetNextReaped hal id).2 = some desc) :
    ∃ slot, slot < ring.nentries.toNat ∧
      desc = slotAddr ring.baseAddrOwnerSpace (descBytes type / 4) slot := by
  have bounded := area.bounded positive
  obtain ⟨count, stands⟩ := bounded.head source
  have here : desc = descPtr (hal.srngList id) (hal.srngList id).srcRing.hp := by
    rw [halSrngSrcGetNextEntry_def, halSrngSrcGetNextReaped_eq] at found
    obtain entry | reaped := found
    · simp only at entry
      split at entry
      · contradiction
      · exact (Option.some.inj entry).symm
    · split at reaped
      · contradiction
      · exact (Option.some.inj reaped).symm
  exact area.inRing (here ▸ bounded.inRing stands)

theorem OnArea.nextDst (area : OnArea hal id ring type)
    (positive : 0 < ring.nentries.toNat)
    (destination : (hal.srngList id).ringDir = .dst) {desc : Nat}
    (found : (halSrngDstGetNextEntry hal id).2 = some desc) :
    ∃ slot, slot < ring.nentries.toNat ∧
      desc = slotAddr ring.baseAddrOwnerSpace (descBytes type / 4) slot := by
  have bounded := area.bounded positive
  obtain ⟨count, stands⟩ := bounded.tail destination
  have here : desc = descPtr (hal.srngList id) (hal.srngList id).dstRing.tp := by
    rw [halSrngDstGetNextEntry_def] at found
    split at found
    · contradiction
    · exact (Option.some.inj found).symm
  exact area.inRing (here ▸ bounded.inRing stands)

/-- The descriptor that `test_send` and `enqueue_pipe` write. -/
theorem OnArea.storeEntry (area : OnArea hal ring.halRingId.toNat ring type)
    (allocated : AllocatedRing ring nentries (descBytes type))
    (positive : 0 < ring.nentries.toNat)
    (source : (hwSrngConfigTemplate type).ringDir = .src) {test : SrngTestRing}
    (same : test.halRingId = ring.halRingId) (full : Int) (skb : Nat)
    (writeIndex : UInt32) {words : List UInt32}
    (length : 4 * words.length = descBytes type) :
    WritesEntry ring type test
      (WirelessSimu.storeEntry hal test full skb writeIndex words).2.1 := by
  obtain ⟨refused, _⟩ | ⟨hal', desc, entry, stored⟩ :=
    storeEntry_cases hal test full skb writeIndex words
  · left
    rw [refused]
  · right
    rw [same] at entry
    obtain ⟨slot, within, rfl⟩ := area.nextSrc positive (area.dir.trans source)
      (.inl (congrArg Prod.snd entry))
    rw [allocated.entries] at within
    refine ⟨_, words, by rw [stored]; rfl, length, ?_⟩
    rw [length]
    exact allocated.inArea within

end Registered

theorem OnArea.layout {nentries : UInt32}
    (area : OnArea hal ring.halRingId.toNat ring type)
    (allocated : AllocatedRing ring nentries (descBytes type))
    (coherent : ring.Coherent) : RingLayout hal ring type where
  inside := fun slot within => allocated.inArea (allocated.entries ▸ within)
  apart := by
    intro first second different
    have whole : 4 * (descBytes type / 4) = descBytes type := by
      rw [descBytes_eq, Nat.mul_div_cancel_left _ (by decide)]
    have disjoint := @slotAddr_disjoint ring.baseAddrOwnerSpace (descBytes type / 4)
      first second different
    rwa [whole] at disjoint
  sameByte := fun slot within =>
    area.sameByte allocated coherent (allocated.entries ▸ within)
  next := fun positive source desc found => area.nextSrc positive source found
  nextDst := fun positive destination desc found =>
    area.nextDst positive destination found
  sent := by
    rintro positive rfl test skb data transferId writeIndex same
    exact area.storeEntry allocated positive rfl same _ _ _ rfl
  posted := by
    rintro positive rfl pipe test test' skb paddr writeIndex same ring posted
    have entry := area.storeEntry allocated positive rfl same enospc skb writeIndex
      (show 4 * (testDstSetDesc paddr).length = _ from rfl)
    rw [testDstEnqueuePipe] at posted
    simp only at posted
    split at posted
    · cases posted
      exact entry
    · rw [ring] at posted
      cases posted
      exact .inl rfl

end Area

theorem halSrngSetup_mem {hal hal' : Hal} {mem mem' : Nat → UInt32} {type : HalRingType}
    {ringNum macId : Int} {params : HalSrngParams} {id : Nat}
    (setup : halSrngSetup hal mem type ringNum macId params = (hal', mem', (id : Int))) :
    mem' = memsetZero mem (hal'.srngList id).ringBaseVaddr
      (((hal'.srngList id).entrySize * (hal'.srngList id).numEntries) <<< 2).toNat := by
  rw [(halSrngSetup_done setup).ring_eq]
  have found := halSrngSetup_ringId setup
  simp only [halSrngSetup, found, Int.toNat_natCast] at setup
  rw [if_neg (by omega)] at setup
  split at setup
  · exact (congrArg (fun result => result.2.1) setup).symm
  · exact (congrArg (fun result => result.2.1) setup).symm

theorem wired_setup {hal hal' : Hal} {mem mem' : Nat → UInt32} {type : HalRingType}
    {ringNum macId ret : Int} {params : HalSrngParams} (wired : HalWired hal)
    (setup : halSrngSetup hal mem type ringNum macId params = (hal', mem', ret)) :
    HalWired hal' := by
  have stepped : RingOp.step hal (.setup type ringNum macId params) = some hal' := by
    refine RingOp.step_eq_some.mpr ⟨?_, ?_⟩
    · simp only [RingOp.enabled, RingOp.isSetup, Bool.true_or]
      split <;> rfl
    · -- The memory that setup clears does not matter to the HAL.
      have result : (halSrngSetup hal mem type ringNum macId params).1 = hal' := by
        rw [setup]
      rw [← result]
      simp only [RingOp.act, halSrngSetup]
      split
      · rfl
      · split <;> rfl
  exact RingOp.wired_step wired stepped

/-- A ring as it is allocated, registered in any state of the HAL and used by any later
operations: the `memset` of its setup, all entries of the ring from their base on, and
every descriptor lie in the allocated area, where both sides find them at the same bytes.
A ring without entries has no next one: its size is the divisor. -/
theorem ring_memory_layout (cpuBigEndian : Bool) (rdpPaddr : UInt64)
    (mmio : UInt32 → UInt32) {memory : RingMemory} {nentries : UInt32}
    {type : HalRingType} {ring ring' : SrngTestRing} {index : Int}
    {before after : List RingOp} {hal hal' final : Hal}
    (allocated : halSrngTestAllocRing memory nentries (descBytes type) = .ok ring)
    (coherent : ring.Coherent)
    (fits : nentries.toNat * descBytes type + srngTestDescRingAlign < 2 ^ 31)
    (reached : run RingOp.step (halSrngInit cpuBigEndian rdpPaddr mmio) before = some hal)
    (registered : halSrngTestInitRing hal ring index type = (hal', ring', 0))
    (others : ∀ op ∈ after, op.isSetup = true →
      op.ring hal' ≠ some ring'.halRingId.toNat)
    (later : run RingOp.step hal' after = some final) :
    ring'.mem = memsetZero ring.mem
        (hal'.srngList ring'.halRingId.toNat).ringBaseVaddr
        (((hal'.srngList ring'.halRingId.toNat).entrySize *
          (hal'.srngList ring'.halRingId.toNat).numEntries) <<< 2).toNat ∧
      ring.InArea (hal'.srngList ring'.halRingId.toNat).ringBaseVaddr
        (((hal'.srngList ring'.halRingId.toNat).entrySize *
          (hal'.srngList ring'.halRingId.toNat).numEntries) <<< 2).toNat ∧
      RingLayout final ring' type := by
  obtain ⟨wired, config⟩ := run_invariant
    (fun hal => HalWired hal ∧ hal.srngConfig = hwSrngConfigTemplate)
    (fun _ _ _ stepped ⟨wired, same⟩ =>
      ⟨RingOp.wired_step wired stepped, (RingOp.config_step wired stepped).trans same⟩)
    reached ⟨RingOp.wired_init cpuBigEndian rdpPaddr mmio, rfl⟩
  have area := halSrngTestAllocRing_area allocated
  have onArea := halSrngTestInitRing_onArea config area fits registered
  obtain ⟨id, setup, same, found⟩ := halSrngTestInitRing_setup registered
  have areaThen : AllocatedRing ring' nentries (descBytes type) := by
    rw [same]
    exact ⟨area.entries, area.owner, area.test, area.dmaSize⟩
  have coherentThen : ring'.Coherent := by
    rw [same]
    exact ⟨coherent.congruent, coherent.inSpace⟩
  have wiredThen := wired_setup wired setup
  refine ⟨?_, ?_, (onArea.run wiredThen others later).layout areaThen coherentThen⟩
  · rw [found]
    exact halSrngSetup_mem setup
  · have memset := onArea.memset areaThen fits
    rw [same] at memset
    rw [same]
    exact memset

/-- Four destination entries in an area that is not aligned on either side, where no
word is zero before. -/
theorem ring_memory_layout_four :
    let memory : RingMemory :=
      { RingMemory.small true (some (0x8004, 0x1004)) with contents := fun _ => 0xffffffff }
    let ring : SrngTestRing :=
      { nentries := 4, nentriesMask := 3, swIndex := 0, writeIndex := 0,
        baseAddrOwnerSpaceUnaligned := 0x8004, baseAddrTestSpaceUnaligned := 0x1004,
        dmaSize := 56, baseAddrOwnerSpace := 0x8008, baseAddrTestSpace := 0x1008,
        halRingId := 0, skb := fun _ => none, mem := memsetZero memory.contents 0x8004 56 }
    let registered := halSrngTestInitRing (halSrngInit false 0x2000 fun _ => 0) ring 0
      .testSrngDst
    ∃ final, run RingOp.step registered.1
        [.accessBegin 8, .srcGetNextEntry 8, .accessEnd 8] = some final ∧
      (final.srngList 8).srcRing.hp = 3 ∧
      registered.2.1.mem = memsetZero ring.mem 0x8008 48 ∧ ring.InArea 0x8008 48 ∧
      RingLayout final registered.2.1 .testSrngDst := by
  intro memory ring registered
  have seen : (run RingOp.step registered.1
      [.accessBegin 8, .srcGetNextEntry 8, .accessEnd 8]).map
      (fun hal => (hal.srngList 8).srcRing.hp) = some 3 := by decide +kernel
  obtain ⟨final, later, hp⟩ := Option.map_eq_some_iff.mp seen
  have allocated : halSrngTestAllocRing memory 4 (descBytes .testSrngDst) = .ok ring := rfl
  have coherent : ring.Coherent := ⟨by decide, by decide⟩
  have done : registered = (registered.1, registered.2.1, 0) :=
    Prod.ext rfl (Prod.ext rfl (by decide +kernel))
  have layout := ring_memory_layout false 0x2000 (fun _ => 0) allocated coherent
    (by decide) (show run RingOp.step _ [] = some _ from rfl) done (by decide +kernel) later
  exact ⟨final, later, hp, layout⟩

end WirelessSimu
