import WirelessSimu.Data.Resources
import WirelessSimu.Driver.Setup
import WirelessSimu.Kernel.Ledger

namespace WirelessSimu

open Data Kernel

/-! `wireless_simu_pci_probe` with everything that it acquires and gives back. Each
fallible call of the kernel has its answer among the inputs; `none` is a dereference of
NULL. -/

/-- The two users of `struct srng_test`: `st_dst` and the self test. -/
inductive TestModule where
  | dst
  | test
  deriving DecidableEq, Repr

inductive RingKind where
  | src
  | dst
  | status
  deriving DecidableEq, Repr

/-- An area of coherent memory is named by what `dma_free_coherent` is called with. -/
inductive Resource where
  | priv
  | pciDevice
  | regions
  | mmio
  | irqVectors
  | irq
  | srngConfig
  | rdp
  | wrp
  | srngKey (ringId : Nat)
  | hostConfig (module : TestModule)
  | ring (module : TestModule) (pipe : Nat) (kind : RingKind)
  | area (vaddr : Nat) (paddr : UInt64) (size : Nat)
  | testData
  | testSkb
  | testMapping
  | workqueue
  | hw
  | hwRegistration
  | channels
  deriving DecidableEq, Repr

/-- What the kernel answers to the calls of a probe. A `Bool` tells whether there is
memory, an `Int` is the value that the call returns. -/
structure Answers where
  kzallocPriv : Bool
  pciAssignResource : Int
  pciEnableDevice : Int
  pciRequestRegions : Int
  dmaSetMask : Int
  pciIomap : Bool
  msiVectors : Int
  allVectors : Int
  msiDesc : Bool
  requestIrq : Int
  srngConfig : Bool
  rdp : Option UInt64
  wrp : Bool
  dstHostConfig : Bool
  dstMemory : Nat → Fin 3 → RingMemory
  testHostConfig : Bool
  testMemory : Nat → Fin 3 → RingMemory
  testData : Bool
  testSkb : Bool
  testMapping : Bool
  workqueue : Bool
  allocHw : Bool
  channels : Bool
  registerHw : Int

/-- The tables of the two modules with their length, the registers of the device, and
how the kernel was built: `lockdep` keeps account of the lock classes. -/
structure Setting where
  pipesCount : Nat
  dstAttrs : Nat → SrngTestAttr
  testAttrs : Nat → SrngTestAttr
  cpuBigEndian : Bool
  mmio : UInt32 → UInt32
  lockdep : Bool

/-- `st_dst`: whether `host_config` points anywhere, and the receive module. -/
structure StDst where
  hostConfig : Bool
  rx : Rx

structure Priv where
  dst : StDst
  hw : Bool

def Rx.idle (hal : Hal) (pipesCount : Nat) (pipes : Nat → SrngTestPipe) : Rx :=
  { Rx.start hal pipesCount pipes with initPost := .idle }

namespace Probe

/-! The rings of `struct srng_test`. -/

def ringArea (ring : SrngTestRing) (size : Nat) : Resource :=
  .area ring.baseAddrOwnerSpaceUnaligned ring.baseAddrTestSpaceUnaligned size

def allocRing (resources : Resources Resource) (name : Resource) (memory : RingMemory)
    (nentries : UInt32) (descSz : Nat) : Resources Resource :=
  match halSrngTestAllocRing memory nentries descSz with
  | .ok ring => (resources.acquire name).acquire (ringArea ring ring.dmaSize)
  | .error _ =>
      if memory.ring = false ∨ srngTestRingBytes nentries > memory.kmallocMaxSize then
        resources
      else (resources.acquire name).release name

def allocSrc (resources : Resources Resource) (module : TestModule)
    (memory : RingMemory) (index : Nat) (attr : SrngTestAttr) : Resources Resource :=
  if attr.srcNentries = 0 then resources
  else
    allocRing resources (.ring module index .src) memory (ringEntries attr.srcNentries)
      halTestSw2hwBytes

def allocDst (resources : Resources Resource) (module : TestModule)
    (dstMemory statusMemory : RingMemory) (index : Nat) (attr : SrngTestAttr) :
    Resources Resource :=
  if attr.destNentries = 0 then resources
  else
    let resources :=
      allocRing resources (.ring module index .dst) dstMemory
        (ringEntries attr.destNentries) halTestDstBytes
    match halSrngTestAllocRing dstMemory (ringEntries attr.destNentries)
      halTestDstBytes with
    | .error _ => resources
    | .ok _ =>
        allocRing resources (.ring module index .status) statusMemory
          (ringEntries attr.destNentries) halTestDstStatusBytes

def allocPipe (resources : Resources Resource) (module : TestModule)
    (memory : Fin 3 → RingMemory) (index : Nat) (attr : SrngTestAttr) :
    Resources Resource :=
  let resources := allocSrc resources module (srcMemory memory) index attr
  if (allocSrcRing (srcMemory memory) .zero attr).2 ≠ 0 then resources
  else allocDst resources module (dstMemory memory) (statusMemory memory) index attr

/-- The loop over the pipes, which the first error ends. -/
def allocLoop (resources : Resources Resource) (module : TestModule)
    (memory : Nat → Fin 3 → RingMemory) (attrs : Nat → SrngTestAttr) :
    Nat → Resources Resource
  | 0 => resources
  | count + 1 =>
      let resources := allocLoop resources module memory attrs count
      if (allocPipes memory attrs count).2 ≠ 0 then resources
      else allocPipe resources module (memory count) count (attrs count)

def freeRing (name : Resource) (size : SrngTestRing → Nat) :
    Option SrngTestRing → List Resource
  | none => []
  | some ring => [ringArea ring (size ring), name]

/-- The size with which a source ring is freed is computed again. -/
def srcRingSize (ring : SrngTestRing) : Nat :=
  ring.nentries.toNat * halTestSw2hwBytes + srngTestDescRingAlign

def freePipe (module : TestModule) (index : Nat) (pipe : SrngTestPipe) : List Resource :=
  freeRing (.ring module index .src) srcRingSize pipe.srcRing ++
    freeRing (.ring module index .dst) SrngTestRing.dmaSize pipe.dstRing ++
    freeRing (.ring module index .status) SrngTestRing.dmaSize pipe.statusRing

def freePipes (module : TestModule) (count : Nat) (pipes : Nat → SrngTestPipe) :
    List Resource :=
  (List.range count).flatMap fun index => freePipe module index (pipes index)

/-- `hal_register_srng_key`, which unregisters, and `hal_unregister_srng_key`. -/
def srngKeys (setting : Setting) : List Resource :=
  if setting.lockdep then (List.range halSrngRingIdMax.toNat).map .srngKey else []

/-! The stages of the probe. -/

def pciClaim (answers : Answers) (resources : Resources Resource) :
    Int × Resources Resource :=
  if answers.pciAssignResource ≠ 0 then (answers.pciAssignResource, resources)
  else if answers.pciEnableDevice ≠ 0 then (answers.pciEnableDevice, resources)
  else
    let resources := resources.acquire .pciDevice
    if answers.pciRequestRegions ≠ 0 then
      (answers.pciRequestRegions, resources.release .pciDevice)
    else
      let resources := resources.acquire .regions
      if answers.dmaSetMask ≠ 0 then
        (answers.dmaSetMask, (resources.release .regions).release .pciDevice)
      else if answers.pciIomap = false then
        (-eio, (resources.release .regions).release .pciDevice)
      else (0, resources.acquire .mmio)

/-- The result of `request_irq` is not looked at. -/
def pciIrqInit (answers : Answers) (resources : Resources Resource) :
    Int × Resources Resource :=
  let vectors := if answers.msiVectors < 0 then answers.allVectors else answers.msiVectors
  if vectors < 0 then (vectors, (resources.release .regions).release .pciDevice)
  else
    let resources := resources.acquire .irqVectors
    if 0 ≤ answers.msiVectors ∧ answers.msiDesc = false then
      (-1, ((resources.release .irqVectors).release .regions).release .pciDevice)
    else (0, if answers.requestIrq = 0 then resources.acquire .irq else resources)

/-- `wireless_simu_hal_srng_init`; an `inl` is the error it returns. -/
def srngInit (setting : Setting) (answers : Answers) (resources : Resources Resource) :
    (Int ⊕ Hal) × Resources Resource :=
  if answers.srngConfig = false then (.inl (-enomem), resources)
  else
    let resources := resources.acquire .srngConfig
    match answers.rdp with
    | none => (.inl (-enomem), resources)
    | some paddr =>
        let resources := resources.acquire .rdp
        if answers.wrp = false then (.inl (-enomem), resources.release .rdp)
        else
          (.inr (halSrngInit setting.cpuBigEndian paddr setting.mmio),
            (resources.acquire .wrp).releaseAll (srngKeys setting))

/-- `wireless_simu_hal_srng_dst_test_init`; both error labels free the table and keep
the pointer to it. Probe does not look at the result. -/
def dstTestInit (setting : Setting) (answers : Answers) (hal : Hal)
    (resources : Resources Resource) : StDst × Resources Resource :=
  if answers.dstHostConfig = false then
    ({ hostConfig := false, rx := .idle hal 0 fun _ => .zero }, resources)
  else
    let count := setting.pipesCount
    let resources := resources.acquire (.hostConfig .dst)
    let resources := allocLoop resources .dst answers.dstMemory setting.dstAttrs count
    let (pipes, ret) := allocPipes answers.dstMemory setting.dstAttrs count
    if ret ≠ 0 then
      ({ hostConfig := true, rx := .idle hal count (halSrngTestFreePipes count pipes) },
        resources.releaseAll (freePipes .dst count pipes ++ [.hostConfig .dst]))
    else
      match initPipes hal pipes count with
      | (hal, pipes, some _) =>
          ({ hostConfig := true, rx := .idle hal count (halSrngTestFreePipes count pipes) },
            resources.releaseAll (freePipes .dst count pipes ++ [.hostConfig .dst]))
      | (hal, pipes, none) =>
          ({ hostConfig := true, rx := .start hal count pipes }, resources)

/-- The registration of the source rings of the self test. -/
def testRegister (hal : Hal) (pipes : Nat → SrngTestPipe) : Nat → Hal × Int
  | 0 => (hal, 0)
  | count + 1 =>
      let (hal, ret) := testRegister hal pipes count
      if ret ≠ 0 then (hal, ret)
      else
        match (pipes count).srcRing with
        | none => (hal, 0)
        | some ring =>
            let (hal, _, ret) := halSrngTestInitRing hal ring count .testSrng
            (hal, ret)

/-- `wireless_simu_hal_srng_test`. Its sends hold nothing that outlives them, but they
use the source ring of the first pipe without a look. -/
def srngTest (setting : Setting) (answers : Answers) (hal : Hal)
    (resources : Resources Resource) : Option (Resources Resource) :=
  if answers.testHostConfig = false then some resources
  else
    let count := setting.pipesCount
    let resources := resources.acquire (.hostConfig .test)
    let resources := allocLoop resources .test answers.testMemory setting.testAttrs count
    let (pipes, ret) := allocPipes answers.testMemory setting.testAttrs count
    let clear := freePipes .test count pipes ++ [.hostConfig .test]
    if ret ≠ 0 ∨ (testRegister hal pipes count).2 ≠ 0 ∨ answers.testData = false then
      some (resources.releaseAll clear)
    else
      let resources := resources.acquire .testData
      if answers.testSkb = false then some (resources.releaseAll (.testData :: clear))
      else
        let resources := resources.acquire .testSkb
        if answers.testMapping = false then
          some (resources.releaseAll (.testSkb :: .testData :: clear))
        else
          let resources := resources.acquire .testMapping
          match (pipes 0).srcRing with
          | none => none
          | some _ =>
              some (resources.releaseAll
                (.testMapping :: .testSkb :: .testData :: clear))

/-- `wireless_mac80211_core_probe` with `priv->hw`; probe does not look at the result.
Without memory for the channels it returns at once and `priv->hw` stays set. -/
def coreProbe (answers : Answers) (resources : Resources Resource) :
    Bool × Resources Resource :=
  if answers.allocHw = false then (false, resources)
  else
    let resources := resources.acquire .hw
    if answers.channels = false then (true, resources)
    else
      let resources := resources.acquire .channels
      if answers.registerHw ≠ 0 then
        (false, (resources.release .channels).release .hw)
      else (true, resources.acquire .hwRegistration)

end Probe

open Probe

structure Probed where
  ret : Int
  resources : Resources Resource
  priv : Option Priv

/-- `wireless_simu_pci_probe`. The label `End` returns without any release. -/
def pciProbe (setting : Setting) (answers : Answers) : Option Probed :=
  if answers.kzallocPriv = false then none
  else
    let resources := Resources.empty.acquire .priv
    match pciClaim answers resources with
    | (ret, resources) =>
        if ret ≠ 0 then some ⟨ret, resources, none⟩
        else
          match pciIrqInit answers resources with
          | (ret, resources) =>
              if ret ≠ 0 then some ⟨ret, resources, none⟩
              else
                match srngInit setting answers resources with
                | (.inl ret, resources) => some ⟨ret, resources, none⟩
                | (.inr hal, resources) =>
                    let (dst, resources) := dstTestInit setting answers hal resources
                    match srngTest setting answers dst.rx.hal resources with
                    | none => none
                    | some resources =>
                        if answers.workqueue = false then some ⟨-1, resources, none⟩
                        else
                          let (hw, resources) :=
                            coreProbe answers (resources.acquire .workqueue)
                          some ⟨0, resources, some { dst := dst, hw := hw }⟩

namespace Probe

variable {resources : Resources Resource} {module : TestModule}

/-! What the rings of a pipe hold. -/

def heldRing (name : Resource) : Option SrngTestRing → Multiset Resource
  | none => 0
  | some ring => {name, ringArea ring ring.dmaSize}

def heldPipe (module : TestModule) (index : Nat) (pipe : SrngTestPipe) :
    Multiset Resource :=
  heldRing (.ring module index .src) pipe.srcRing +
    heldRing (.ring module index .dst) pipe.dstRing +
    heldRing (.ring module index .status) pipe.statusRing

def heldPipes (module : TestModule) (count : Nat) (pipes : Nat → SrngTestPipe) :
    Multiset Resource :=
  ∑ index ∈ Finset.range count, heldPipe module index (pipes index)

/-- A source ring is freed with the size it was allocated with. -/
def SrcSized (pipe : SrngTestPipe) : Prop :=
  ∀ ring, pipe.srcRing = some ring → srcRingSize ring = ring.dmaSize

theorem allocRing_eq (name : Resource) (memory : RingMemory) (nentries : UInt32)
    (descSz : Nat) :
    allocRing resources name memory nentries descSz =
      resources.holding
        (heldRing name (halSrngTestAllocRing memory nentries descSz).toOption) := by
  unfold allocRing
  cases halSrngTestAllocRing memory nentries descSz with
  | error code =>
      simp only [Except.toOption, heldRing, Resources.holding_zero]
      split
      · rfl
      · exact Resources.release_acquire
  | ok ring =>
      simp only [Except.toOption, heldRing, Resources.acquire_eq_holding,
        Resources.holding_holding]
      rw [Multiset.insert_eq_cons, add_comm, Multiset.singleton_add]

theorem halSrngTestAllocRing_size {memory : RingMemory} {nentries : UInt32} {descSz : Nat}
    {ring : SrngTestRing}
    (allocated : halSrngTestAllocRing memory nentries descSz = .ok ring) :
    ring.dmaSize = ring.nentries.toNat * descSz + srngTestDescRingAlign := by
  unfold halSrngTestAllocRing at allocated
  split at allocated
  · contradiction
  · split at allocated
    · contradiction
    · cases allocated
      rfl

theorem allocSrc_eq (memory : RingMemory) {pipe : SrngTestPipe}
    (blank : pipe.srcRing = none) (index : Nat) (attr : SrngTestAttr) :
    allocSrc resources module memory index attr =
        resources.holding
          (heldRing (.ring module index .src) (allocSrcRing memory pipe attr).1.srcRing) ∧
      SrcSized (allocSrcRing memory pipe attr).1 ∧
      (allocSrcRing memory pipe attr).1.dstRing = pipe.dstRing ∧
      (allocSrcRing memory pipe attr).1.statusRing = pipe.statusRing := by
  unfold allocSrc allocSrcRing
  by_cases noSrc : attr.srcNentries = 0
  · simp [noSrc, SrcSized, blank, heldRing]
  · rw [if_neg noSrc, if_neg noSrc, allocRing_eq]
    cases allocated : halSrngTestAllocRing memory (ringEntries attr.srcNentries)
        halTestSw2hwBytes with
    | error code => simp [SrcSized, blank, heldRing, Except.toOption]
    | ok ring =>
        refine ⟨rfl, ?_, rfl, rfl⟩
        rintro _ ⟨⟩
        exact (halSrngTestAllocRing_size allocated).symm

theorem allocDst_eq (dstMemory statusMemory : RingMemory) {pipe : SrngTestPipe}
    (noDst : pipe.dstRing = none) (noStatus : pipe.statusRing = none) (index : Nat)
    (attr : SrngTestAttr) :
    allocDst resources module dstMemory statusMemory index attr =
        resources.holding
          (heldRing (.ring module index .dst)
              (allocDstRings dstMemory statusMemory pipe attr).1.dstRing +
            heldRing (.ring module index .status)
              (allocDstRings dstMemory statusMemory pipe attr).1.statusRing) ∧
      (allocDstRings dstMemory statusMemory pipe attr).1.srcRing = pipe.srcRing := by
  unfold allocDst allocDstRings
  by_cases noDest : attr.destNentries = 0
  · simp [noDest, noDst, noStatus, heldRing]
  · rw [if_neg noDest, if_neg noDest]
    simp only [allocRing_eq]
    cases halSrngTestAllocRing dstMemory (ringEntries attr.destNentries)
        halTestDstBytes with
    | error code => simp [noDst, noStatus, heldRing, Except.toOption]
    | ok dst =>
        cases halSrngTestAllocRing statusMemory (ringEntries attr.destNentries)
            halTestDstStatusBytes with
        | error code => simp [noStatus, heldRing, Except.toOption]
        | ok status =>
            simp only [Except.toOption, Resources.holding_holding, and_true]
            rw [add_comm]

theorem allocPipe_eq (memory : Fin 3 → RingMemory) (index : Nat) (attr : SrngTestAttr) :
    allocPipe resources module memory index attr =
        resources.holding
          (heldPipe module index (halSrngTestAllocPipe memory .zero index attr).1) ∧
      SrcSized (halSrngTestAllocPipe memory .zero index attr).1 := by
  generalize start : ({ SrngTestPipe.zero with
    attrFlags := attr.flags, pipeNum := index, bufSz := attr.srcSzMax } : SrngTestPipe) =
      pipe
  have blank : pipe.srcRing = none ∧ pipe.dstRing = none ∧ pipe.statusRing = none := by
    rw [← start]
    exact ⟨rfl, rfl, rfl⟩
  have sameRet : (allocSrcRing (memory 0) .zero attr).2 =
      (allocSrcRing (memory 0) pipe attr).2 := by
    unfold allocSrcRing
    split
    · rfl
    · cases halSrngTestAllocRing (memory 0) (ringEntries attr.srcNentries)
        halTestSw2hwBytes <;> rfl
  obtain ⟨source, sized, dstEq, statusEq⟩ :=
    @allocSrc_eq resources module (memory 0) pipe blank.1 index attr
  rw [blank.2.1] at dstEq
  rw [blank.2.2] at statusEq
  simp only [allocPipe, srcMemory, dstMemory, statusMemory, halSrngTestAllocPipe, start,
    sameRet, source]
  by_cases failed : (allocSrcRing (memory 0) pipe attr).2 ≠ 0
  · rw [if_pos failed, if_pos failed]
    refine ⟨?_, sized⟩
    simp [heldPipe, dstEq, statusEq, heldRing]
  · rw [if_neg failed, if_neg failed]
    obtain ⟨dst, sameSrc⟩ := @allocDst_eq (resources.holding
      (heldRing (.ring module index .src) (allocSrcRing (memory 0) pipe attr).1.srcRing))
      module (memory 1) (memory 2) _ dstEq statusEq index attr
    refine ⟨?_, ?_⟩
    · rw [dst, Resources.holding_holding, heldPipe, sameSrc,
        add_comm _ (heldRing (.ring module index .src) _), ← add_assoc]
    · intro ring found
      rw [sameSrc] at found
      exact sized ring found

/-- A pipe that the loop has not come to is untouched. -/
theorem allocPipes_zero (memory : Nat → Fin 3 → RingMemory) (attrs : Nat → SrngTestAttr)
    {count index : Nat} (later : count ≤ index) :
    (allocPipes memory attrs count).1 index = .zero := by
  induction count with
  | zero => rfl
  | succ count ih =>
      have before := ih (by omega)
      simp only [allocPipes]
      split
      · exact before
      · have different : index ≠ count := by omega
        simp only [Function.update_of_ne different]
        exact before

theorem allocLoop_eq (memory : Nat → Fin 3 → RingMemory) (attrs : Nat → SrngTestAttr)
    (count : Nat) :
    allocLoop resources module memory attrs count =
        resources.holding (heldPipes module count (allocPipes memory attrs count).1) ∧
      ∀ index, SrcSized ((allocPipes memory attrs count).1 index) := by
  induction count with
  | zero =>
      refine ⟨(Resources.holding_zero).symm, ?_⟩
      intro index ring found
      cases found
  | succ count ih =>
      obtain ⟨before, sized⟩ := ih
      have blank := allocPipes_zero memory attrs (Nat.le_refl count)
      simp only [allocLoop, allocPipes, before]
      by_cases failed : (allocPipes memory attrs count).2 ≠ 0
      · simp only [if_pos failed, heldPipes, Finset.sum_range_succ, blank]
        exact ⟨by simp [heldPipe, heldRing, SrngTestPipe.zero], sized⟩
      · obtain ⟨last, lastSized⟩ := @allocPipe_eq (resources.holding
          (heldPipes module count (allocPipes memory attrs count).1)) module
          (memory count) count (attrs count)
        simp only [if_neg failed, blank]
        refine ⟨?_, ?_⟩
        · rw [last, Resources.holding_holding, heldPipes, heldPipes,
            Finset.sum_range_succ, Function.update_self, add_comm]
          congr 2
          apply Finset.sum_congr rfl
          intro index member
          have different : index ≠ count := Nat.ne_of_lt (Finset.mem_range.mp member)
          rw [Function.update_of_ne different]
        · intro index
          by_cases same : index = count
          · rw [same, Function.update_self]
            exact lastSized
          · rw [Function.update_of_ne same]
            exact sized index

theorem coe_freeRing (name : Resource) {size : SrngTestRing → Nat}
    {ring : Option SrngTestRing}
    (sized : ∀ found, ring = some found → size found = found.dmaSize) :
    (freeRing name size ring : Multiset Resource) = heldRing name ring := by
  cases ring with
  | none => rfl
  | some found =>
      rw [freeRing, sized found rfl, heldRing, Multiset.pair_comm]
      rfl

theorem coe_freePipe {pipe : SrngTestPipe} (sized : SrcSized pipe) (index : Nat) :
    (freePipe module index pipe : Multiset Resource) = heldPipe module index pipe := by
  rw [freePipe, ← Multiset.coe_add, ← Multiset.coe_add, coe_freeRing _ sized,
    coe_freeRing _ (fun _ _ => rfl), coe_freeRing _ (fun _ _ => rfl), heldPipe]

theorem coe_freePipes {pipes : Nat → SrngTestPipe} {count : Nat}
    (sized : ∀ index < count, SrcSized (pipes index)) :
    (freePipes module count pipes : Multiset Resource) = heldPipes module count pipes := by
  rw [freePipes, ← sum_range_coe, heldPipes]
  apply Finset.sum_congr rfl
  intro index member
  exact coe_freePipe (sized index (Finset.mem_range.mp member)) index

/-- An error label of a test module gives back what the module acquired. -/
theorem releaseAll_pipes {pipes : Nat → SrngTestPipe} (count : Nat)
    (sized : ∀ index, SrcSized (pipes index)) :
    ((resources.acquire (.hostConfig module)).holding
      (heldPipes module count pipes)).releaseAll
      (freePipes module count pipes ++ [.hostConfig module]) = resources := by
  rw [← coe_freePipes fun index _ => sized index, Resources.releaseAll_append,
    Resources.releaseAll_holding]
  exact Resources.release_acquire

structure SameMemory (pipe pipe' : SrngTestPipe) : Prop where
  held : ∀ module index, heldPipe module index pipe' = heldPipe module index pipe
  source : pipe'.srcRing = pipe.srcRing

theorem SameMemory.refl (pipe : SrngTestPipe) : SameMemory pipe pipe :=
  ⟨fun _ _ => rfl, rfl⟩

theorem halSrngTestInitRing_area (hal : Hal) (ring : SrngTestRing) (index : Int)
    (type : HalRingType) (name : Resource) :
    heldRing name (some (halSrngTestInitRing hal ring index type).2.1) =
      heldRing name (some ring) := by
  unfold halSrngTestInitRing
  simp only
  split
  · rfl
  · rfl

theorem dstTestInitPipe_memory (hal : Hal) (pipe : SrngTestPipe) (index : Nat) :
    SameMemory pipe (dstTestInitPipe hal pipe index).2.1 := by
  unfold dstTestInitPipe
  split
  · exact .refl pipe
  · split
    next dst status dstRing statusRing =>
        have dstArea := fun name => halSrngTestInitRing_area hal dst index .testSrngDst name
        generalize halSrngTestInitRing hal dst index .testSrngDst = first at dstArea ⊢
        obtain ⟨middle, dst', firstRet⟩ := first
        have statusArea := fun name =>
          halSrngTestInitRing_area middle status index .testSrngDstStatus name
        simp only
        generalize halSrngTestInitRing middle status index .testSrngDstStatus = second
          at statusArea ⊢
        obtain ⟨hal', status', secondRet⟩ := second
        by_cases failed : (if firstRet ≠ 0 then firstRet else secondRet) ≠ 0
        · simp only [if_pos failed]
          refine ⟨?_, rfl⟩
          intro module at_
          simp only [heldPipe, dstRing, statusRing, dstArea, statusArea]
        · simp only [if_neg failed]
          refine ⟨?_, rfl⟩
          intro module at_
          simp only [heldPipe, dstRing, statusRing, ← dstArea, ← statusArea]
          rfl
    next => exact .refl pipe

theorem initPipes_memory (hal : Hal) (pipes : Nat → SrngTestPipe) (count index : Nat) :
    SameMemory (pipes index) ((initPipes hal pipes count).2.1 index) := by
  induction count with
  | zero => exact .refl _
  | succ count ih =>
      simp only [initPipes, dstTestInitNext]
      split
      next hal' pipes' ret before =>
          rw [before] at ih
          exact ih
      next hal' pipes' before =>
          rw [before] at ih
          simp only at ih ⊢
          by_cases same : index = count
          · rw [same] at ih ⊢
            rw [Function.update_self]
            have last := dstTestInitPipe_memory hal' (pipes' count) count
            exact ⟨fun module at_ => (last.held module at_).trans (ih.held module at_),
              last.source.trans ih.source⟩
          · rw [Function.update_of_ne same]
            exact ih

/-- Every error exit of `dst_test_init` gives back what was acquired. -/
theorem dstTestInit_cases (setting : Setting) (answers : Answers) (hal : Hal)
    (resources : Resources Resource) :
    (answers.dstHostConfig = false ∧ dstTestInit setting answers hal resources =
        ({ hostConfig := false, rx := .idle hal 0 fun _ => .zero }, resources)) ∨
    (answers.dstHostConfig = true ∧ ∃ hal' pipes ret,
      dstTestSetup hal setting.pipesCount answers.dstMemory setting.dstAttrs =
        (hal', halSrngTestFreePipes setting.pipesCount pipes, some ret) ∧
      dstTestInit setting answers hal resources =
        ({ hostConfig := true,
           rx := .idle hal' setting.pipesCount
             (halSrngTestFreePipes setting.pipesCount pipes) }, resources)) ∨
    (answers.dstHostConfig = true ∧ ∃ hal' pipes,
      dstTestSetup hal setting.pipesCount answers.dstMemory setting.dstAttrs =
        (hal', pipes, none) ∧ (∀ index, SrcSized (pipes index)) ∧
      dstTestInit setting answers hal resources =
        ({ hostConfig := true, rx := .start hal' setting.pipesCount pipes },
          (resources.acquire (.hostConfig .dst)).holding
            (heldPipes .dst setting.pipesCount pipes))) := by
  by_cases noConfig : answers.dstHostConfig = false
  · left
    simp [dstTestInit, noConfig]
  · right
    have config : answers.dstHostConfig = true := by simpa using noConfig
    obtain ⟨loop, sized⟩ := @allocLoop_eq (resources.acquire (.hostConfig .dst)) .dst
      answers.dstMemory setting.dstAttrs setting.pipesCount
    simp only [dstTestInit, if_neg noConfig, loop, dstTestSetup]
    generalize allocPipes answers.dstMemory setting.dstAttrs setting.pipesCount =
      allocated at sized loop ⊢
    obtain ⟨pipes, ret⟩ := allocated
    by_cases failed : ret ≠ 0
    · left
      simp only [if_pos failed, releaseAll_pipes _ sized]
      exact ⟨config, hal, pipes, ret, rfl, rfl⟩
    · have memory := fun index => initPipes_memory hal pipes setting.pipesCount index
      simp only [if_neg failed]
      generalize initPipes hal pipes setting.pipesCount = registered at memory ⊢
      obtain ⟨hal', pipes', outcome⟩ := registered
      have heldEq : heldPipes .dst setting.pipesCount pipes =
          heldPipes .dst setting.pipesCount pipes' := by
        apply Finset.sum_congr rfl
        intro index _
        exact ((memory index).held .dst index).symm
      have sized' : ∀ index, SrcSized (pipes' index) := by
        intro index ring found
        rw [(memory index).source] at found
        exact sized index ring found
      rw [heldEq]
      cases outcome with
      | some ret =>
          left
          simp only [releaseAll_pipes _ sized']
          exact ⟨config, hal', pipes', ret, rfl, rfl⟩
      | none =>
          right
          exact ⟨config, hal', pipes', rfl, sized', rfl⟩

/-- The self test gives everything back, whatever fails. -/
theorem srngTest_eq {setting : Setting} {answers : Answers} {hal : Hal}
    {resources' : Resources Resource}
    (returned : srngTest setting answers hal resources = some resources') :
    resources' = resources := by
  unfold srngTest at returned
  split at returned
  · cases returned
    rfl
  · obtain ⟨loop, sized⟩ := @allocLoop_eq (resources.acquire (.hostConfig .test)) .test
      answers.testMemory setting.testAttrs setting.pipesCount
    simp only [loop] at returned
    generalize allocPipes answers.testMemory setting.testAttrs setting.pipesCount =
      allocated at sized loop returned
    obtain ⟨pipes, ret⟩ := allocated
    simp only [Resources.releaseAll_cons, Resources.release_acquire,
      releaseAll_pipes _ sized] at returned
    split at returned
    · exact (Option.some.inj returned).symm
    · split at returned
      · exact (Option.some.inj returned).symm
      · split at returned
        · exact (Option.some.inj returned).symm
        · split at returned
          · cases returned
          · exact (Option.some.inj returned).symm

/-! The stages before the rings. -/

/-- The device claimed, with its registers mapped. -/
def claimed : Resources Resource :=
  (((Resources.empty.acquire .priv).acquire .pciDevice).acquire .regions).acquire .mmio

def interruptible (answers : Answers) : Resources Resource :=
  if answers.requestIrq = 0 then (claimed.acquire .irqVectors).acquire .irq
  else claimed.acquire .irqVectors

def halUp (setting : Setting) (answers : Answers) : Resources Resource :=
  ((((interruptible answers).acquire .srngConfig).acquire .rdp).acquire .wrp).releaseAll
    (srngKeys setting)

theorem pciClaim_cases (answers : Answers) :
    (∃ ret, ret ≠ 0 ∧ pciClaim answers (Resources.empty.acquire .priv) =
      (ret, Resources.empty.acquire .priv)) ∨
    pciClaim answers (Resources.empty.acquire .priv) = (0, claimed) := by
  unfold pciClaim
  split
  next failed => exact .inl ⟨_, failed, rfl⟩
  next =>
      split
      next failed => exact .inl ⟨_, failed, rfl⟩
      next =>
          simp only [Resources.release_acquire]
          split
          next failed => exact .inl ⟨_, failed, rfl⟩
          next =>
              split
              next failed => exact .inl ⟨_, failed, rfl⟩
              next =>
                  split
                  next => exact .inl ⟨_, by decide, rfl⟩
                  next => exact .inr rfl

/-- The error exits give back what the claim before acquired, but for the mapping. -/
theorem pciIrqInit_cases (answers : Answers) :
    (∃ ret, ret ≠ 0 ∧ pciIrqInit answers claimed =
      (ret, (Resources.empty.acquire .priv).acquire .mmio)) ∨
    pciIrqInit answers claimed = (0, interruptible answers) := by
  have undone : (claimed.release .regions).release .pciDevice =
      (Resources.empty.acquire .priv).acquire .mmio := by
    simp [claimed, Resources.release_acquire_of_ne]
  unfold pciIrqInit
  generalize (if answers.msiVectors < 0 then answers.allVectors else answers.msiVectors) =
    vectors
  simp only [Resources.release_acquire, undone]
  by_cases failed : vectors < 0
  · rw [if_pos failed]
    exact .inl ⟨vectors, Int.ne_of_lt failed, rfl⟩
  · rw [if_neg failed]
    split
    next => exact .inl ⟨-1, by decide, rfl⟩
    next => exact .inr rfl

/-- An error exit keeps the table of the ring types. -/
theorem srngInit_cases (setting : Setting) (answers : Answers) :
    (∃ ret more, ret ≠ 0 ∧ srngInit setting answers (interruptible answers) =
      (.inl ret, (interruptible answers).holding more)) ∨
    ∃ paddr, srngInit setting answers (interruptible answers) =
      (.inr (halSrngInit setting.cpuBigEndian paddr setting.mmio),
        halUp setting answers) := by
  unfold srngInit
  split
  next => exact .inl ⟨-enomem, 0, by decide, by rw [Resources.holding_zero]⟩
  next =>
      rw [Resources.acquire_eq_holding]
      split
      next => exact .inl ⟨-enomem, {.srngConfig}, by decide, rfl⟩
      next paddr found =>
          simp only [Resources.release_acquire]
          split
          next => exact .inl ⟨-enomem, {.srngConfig}, by decide, rfl⟩
          next =>
              rw [← Resources.acquire_eq_holding]
              exact .inr ⟨paddr, rfl⟩

theorem priv_interruptible (answers : Answers) : .priv ∈ (interruptible answers).held := by
  unfold interruptible
  split <;> simp [claimed, Resources.acquire, Resources.empty]

theorem priv_halUp (setting : Setting) (answers : Answers) :
    .priv ∈ (halUp setting answers).held := by
  have outside : Resource.priv ∉ srngKeys setting := by
    simp [srngKeys]
  rw [halUp, Resources.mem_releaseAll_of_notMem outside]
  simp only [Resources.acquire, Multiset.mem_cons]
  exact .inr (.inr (.inr (priv_interruptible answers)))

theorem priv_dstTestInit (setting : Setting) (answers : Answers) (hal : Hal)
    (held : .priv ∈ resources.held) :
    .priv ∈ (dstTestInit setting answers hal resources).2.held := by
  obtain ⟨_, same⟩ | ⟨_, _, _, _, _, same⟩ | ⟨_, _, _, _, _, same⟩ :=
    dstTestInit_cases setting answers hal resources
  · rw [same]
    exact held
  · rw [same]
    exact held
  · rw [same]
    simp [Resources.holding, Resources.acquire, held]

/-- The exits of a probe: at the label `End` in one of four stages, or at the end. -/
theorem pciProbe_cases {setting : Setting} {answers : Answers} {probed : Probed}
    (returned : pciProbe setting answers = some probed) :
    (probed.ret ≠ 0 ∧ .priv ∈ probed.resources.held) ∨
    ∃ paddr, probed.ret = 0 ∧
      let dst := dstTestInit setting answers
        (halSrngInit setting.cpuBigEndian paddr setting.mmio) (halUp setting answers)
      let mac := coreProbe answers (dst.2.acquire .workqueue)
      probed.resources = mac.2 ∧ probed.priv = some { dst := dst.1, hw := mac.1 } := by
  unfold pciProbe at returned
  split at returned
  · contradiction
  · obtain ⟨ret, failed, claim⟩ | claim := pciClaim_cases answers
    · simp only [claim, if_pos failed, Option.some.injEq] at returned
      subst returned
      exact .inl ⟨failed, by simp [Resources.acquire]⟩
    · obtain ⟨ret, failed, irq⟩ | irq := pciIrqInit_cases answers
      · simp only [claim, irq, if_pos failed, ne_eq, not_true_eq_false, if_false,
          Option.some.injEq] at returned
        subst returned
        exact .inl ⟨failed, by simp [Resources.acquire]⟩
      · obtain ⟨ret, more, failed, hal⟩ | ⟨paddr, hal⟩ := srngInit_cases setting answers
        · simp only [claim, irq, hal, ne_eq, not_true_eq_false, if_false,
            Option.some.injEq] at returned
          subst returned
          refine .inl ⟨failed, ?_⟩
          simp [Resources.holding, priv_interruptible]
        · simp only [claim, irq, hal, ne_eq, not_true_eq_false, if_false] at returned
          have held := priv_dstTestInit setting answers
            (halSrngInit setting.cpuBigEndian paddr setting.mmio)
            (priv_halUp setting answers)
          split at returned
          next => contradiction
          next tested test =>
              rw [srngTest_eq test] at returned
              split at returned
              next =>
                  cases returned
                  exact .inl ⟨by simp, held⟩
              next =>
                  cases returned
                  exact .inr ⟨paddr, rfl, rfl, rfl⟩

end Probe

/-- No probe that fails is rolled back: at least `priv` stays behind. -/
theorem failed_probe_not_rolled_back {setting : Setting} {answers : Answers}
    {probed : Probed} (returned : pciProbe setting answers = some probed)
    (failed : probed.ret ≠ 0) : ¬ probed.resources.Clean := by
  obtain ⟨_, held⟩ | ⟨_, ok, _⟩ := pciProbe_cases returned
  · rintro ⟨nothing, _⟩
    rw [nothing] at held
    exact Multiset.notMem_zero _ held
  · exact absurd ok failed

/-- The driver's own tables on a kernel without `lockdep`. -/
def driverSetting : Setting where
  pipesCount := srngTestPipeCountMax
  dstAttrs := fun _ => srngTestDstConfig
  testAttrs := fun _ => srngTestConfig
  cpuBigEndian := false
  mmio := fun _ => 0
  lockdep := false

def Answers.good : Answers where
  kzallocPriv := true
  pciAssignResource := 0
  pciEnableDevice := 0
  pciRequestRegions := 0
  dmaSetMask := 0
  pciIomap := true
  msiVectors := 1
  allVectors := 1
  msiDesc := true
  requestIrq := 0
  srngConfig := true
  rdp := some 0x2000
  wrp := true
  dstHostConfig := true
  dstMemory := fun _ ring => .small true (some (0x8000 + 0x1000 * ring, 0x70000))
  testHostConfig := true
  testMemory := fun _ ring => .small true (some (0x18000 + 0x1000 * ring, 0x90000))
  testData := true
  testSkb := true
  testMapping := true
  workqueue := true
  allocHw := true
  channels := true
  registerHw := 0

theorem failed_probe_not_rolled_back_workqueue :
    ∃ probed, pciProbe driverSetting { Answers.good with workqueue := false } =
        some probed ∧
      probed.ret = -1 ∧ ¬ probed.resources.Clean := by
  have seen : (pciProbe driverSetting { Answers.good with workqueue := false }).map
      Probed.ret = some (-1) := by decide +kernel
  obtain ⟨probed, returned, ret⟩ := Option.map_eq_some_iff.mp seen
  refine ⟨probed, returned, ret, failed_probe_not_rolled_back returned ?_⟩
  rw [ret]
  decide

/-- Without interrupt vectors the probe leaves the mapping of the registers and
`priv`. -/
theorem failed_probe_leaks :
    ∃ probed, pciProbe driverSetting
        { Answers.good with msiVectors := -28, allVectors := -28 } = some probed ∧
      probed.ret = -28 ∧ probed.resources.held = {.mmio, .priv} ∧
      ¬ probed.resources.Clean := by
  have seen : (pciProbe driverSetting
      { Answers.good with msiVectors := -28, allVectors := -28 }).map
      (fun probed => (probed.ret, probed.resources.held)) =
        some (-28, {.mmio, .priv}) := by decide +kernel
  obtain ⟨probed, returned, values⟩ := Option.map_eq_some_iff.mp seen
  simp only [Prod.mk.injEq] at values
  refine ⟨probed, returned, values.1, values.2, ?_⟩
  rintro ⟨nothing, _⟩
  rw [nothing] at values
  exact absurd values.2 (by decide)

end WirelessSimu
