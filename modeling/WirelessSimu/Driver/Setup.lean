import WirelessSimu.Driver.Life
import WirelessSimu.Rx.Start

namespace WirelessSimu

open Data Kernel

/-! The two setups of probe with the driver's own tables: memory may be missing, but
the registration of a ring does not fail. -/

def driverLayout : RxLayout :=
  rxLayout hwSrngConfigTemplate fun _ => srngTestDstConfig

theorem driverLayout_dstId : driverLayout.dstId 0 = 8 := by decide

theorem driverLayout_statusId : driverLayout.statusId 0 = 1 := by decide

section Registration

variable {hal : Hal} {type : HalRingType}

theorem halSrngGetRingId_template (config : hal.srngConfig = hwSrngConfigTemplate) :
    halSrngGetRingId hal type 0 0 = (hwSrngConfigTemplate type).startRingId := by
  rw [halSrngGetRingId, config]
  cases type <;> decide

theorem template_direct : (hwSrngConfigTemplate type).lmacRing = false := by
  cases type <;> rfl

def templateId (type : HalRingType) : Nat := (hwSrngConfigTemplate type).startRingId.toNat

theorem halSrngTestInitRing_template (config : hal.srngConfig = hwSrngConfigTemplate)
    (ring : SrngTestRing) :
    ∃ hal' ring', halSrngTestInitRing hal ring 0 type = (hal', ring', 0) ∧
      Registered hal hal' ring ring' 0 type (templateId type) := by
  have value := halSrngSetup_ret hal ring.mem type 0 0 ring.params
  rw [halSrngGetRingId_template config] at value
  have idEq : (hwSrngConfigTemplate type).startRingId = (templateId type : Int) := by
    cases type <;> rfl
  rw [idEq] at value
  generalize setup : halSrngSetup hal ring.mem type 0 0 ring.params = result at value
  obtain ⟨hal', mem, ret⟩ := result
  cases value
  refine ⟨hal', { ring with mem := mem, halRingId := UInt32.ofInt (templateId type) },
    ?_, ⟨setup, rfl⟩⟩
  rw [halSrngTestInitRing, setup]
  exact if_neg (Int.not_lt.mpr (Int.natCast_nonneg _))

end Registration

/-- What the registration of one ring does to the registers. -/
theorem Registered.image {hal hal' : Hal} {ring ring' : SrngTestRing} {index id : Nat}
    {type : HalRingType} (done : Registered hal hal' ring ring' index type id)
    (lmac : (hal.srngConfig type).lmacRing = false) :
    RingBaseAt hal' id ring'.baseAddrTestSpace ∧
      ∀ other < 256, other ≠ id → SameImage hal hal' other := by
  have base := ringBaseAt_setup done.setup lmac
  rw [done.ring_eq]
  exact ⟨base, fun other small different => sameImage_setup done.setup lmac small different⟩

/-! The receive module. -/

theorem halSrngTestAllocRing_code {memory : RingMemory} {nentries : UInt32}
    {descSz : Nat} {code : Int}
    (failed : halSrngTestAllocRing memory nentries descSz = .error code) : code ≠ 0 := by
  unfold halSrngTestAllocRing at failed
  split at failed
  · cases failed
    decide
  · split at failed
    · cases failed
      decide
    · cases failed

theorem halSrngTestAllocPipe_dst {memory : Fin 3 → RingMemory} {pipe : SrngTestPipe}
    (allocated : halSrngTestAllocPipe memory .zero 0 srngTestDstConfig = (pipe, 0)) :
    pipe.srcRing = none ∧ ∃ dst status, pipe.dstRing = some dst ∧
      pipe.statusRing = some status := by
  have source : srngTestDstConfig.srcNentries = 0 := rfl
  have entries : srngTestDstConfig.destNentries ≠ 0 := by decide
  simp only [halSrngTestAllocPipe, allocSrcRing, if_pos source, ne_eq, not_true_eq_false,
    if_false, allocDstRings, if_neg entries] at allocated
  split at allocated
  next failed outcome =>
      exact absurd (Prod.mk.inj allocated).2 (halSrngTestAllocRing_code outcome)
  next dst dstOk =>
      split at allocated
      next failed outcome =>
          exact absurd (Prod.mk.inj allocated).2 (halSrngTestAllocRing_code outcome)
      next status statusOk =>
          cases allocated
          exact ⟨rfl, dst, status, rfl, rfl⟩

structure DstReady (hal hal' : Hal) (pipe : SrngTestPipe) : Prop where
  config : hal'.srngConfig = hwSrngConfigTemplate
  rings : ∃ dst status, pipe.dstRing = some dst ∧ pipe.statusRing = some status ∧
    RingBaseAt hal' (templateId .testSrngDst) dst.baseAddrTestSpace ∧
    RingBaseAt hal' (templateId .testSrngDstStatus) status.baseAddrTestSpace
  image : ∀ other < 256, other ≠ templateId .testSrngDst →
    other ≠ templateId .testSrngDstStatus → SameImage hal hal' other

theorem dstTestInitPipe_ready {hal : Hal} {pipe : SrngTestPipe}
    (config : hal.srngConfig = hwSrngConfigTemplate) (noSource : pipe.srcRing = none)
    {dst status : SrngTestRing} (dstRing : pipe.dstRing = some dst)
    (statusRing : pipe.statusRing = some status) :
    ∃ hal' pipe', dstTestInitPipe hal pipe 0 = (hal', pipe', none) ∧
      DstReady hal hal' pipe' := by
  obtain ⟨middle, dst', firstCall, first⟩ :=
    @halSrngTestInitRing_template hal .testSrngDst config dst
  have middleConfig := first.config.trans config
  obtain ⟨hal', status', secondCall, second⟩ :=
    @halSrngTestInitRing_template middle .testSrngDstStatus middleConfig status
  have firstDirect : (hal.srngConfig .testSrngDst).lmacRing = false := by
    rw [config]
    exact template_direct
  have secondDirect : (middle.srngConfig .testSrngDstStatus).lmacRing = false := by
    rw [middleConfig]
    exact template_direct
  obtain ⟨dstBase, dstImage⟩ := first.image firstDirect
  obtain ⟨statusBase, statusImage⟩ := second.image secondDirect
  refine ⟨hal',
    { pipe with
      dstRing := some { dst' with writeIndex := 0, swIndex := 0 }
      statusRing := some { status' with writeIndex := 0, swIndex := 0 }
      rxBufNeeded := if dst'.nentries ≠ 0 then dst'.nentries - 2 else 0 }, ?_,
    ⟨second.config.trans middleConfig, ⟨_, _, rfl, rfl, ?_, statusBase⟩, ?_⟩⟩
  · simp only [dstTestInitPipe, noSource, Option.isSome_none, Bool.false_eq_true,
      if_false, dstRing, statusRing, Nat.cast_zero, firstCall, secondCall, ne_eq,
      not_true_eq_false]
  · exact dstBase.of_same (statusImage _ (by decide) (by decide))
  · intro other small notDst notStatus
    exact (dstImage other small notDst).trans (statusImage other small notStatus)

/-- A pipe without receive rings. -/
def NoReceive (pipe : SrngTestPipe) : Prop :=
  pipe.dstRing = none ∧ pipe.statusRing = none

/-- `dst_test_init` fails before it registers a ring, or not at all. -/
theorem dstTestSetup_template {hal : Hal}
    (config : hal.srngConfig = hwSrngConfigTemplate)
    (memory : Nat → Fin 3 → RingMemory) :
    (∃ pipes ret, dstTestSetup hal srngTestPipeCountMax memory
        (fun _ => srngTestDstConfig) = (hal, pipes, some ret) ∧ NoReceive (pipes 0)) ∨
    ∃ hal' pipes, dstTestSetup hal srngTestPipeCountMax memory
        (fun _ => srngTestDstConfig) = (hal', pipes, none) ∧
      DstReady hal hal' (pipes 0) := by
  have alloc : allocPipes memory (fun _ => srngTestDstConfig) srngTestPipeCountMax =
      (Function.update (fun _ => .zero) 0
        (halSrngTestAllocPipe (memory 0) .zero 0 srngTestDstConfig).1,
        (halSrngTestAllocPipe (memory 0) .zero 0 srngTestDstConfig).2) := by
    simp [srngTestPipeCountMax, allocPipes]
  generalize outcome :
    halSrngTestAllocPipe (memory 0) .zero 0 srngTestDstConfig = result at alloc
  obtain ⟨pipe, ret⟩ := result
  simp only [dstTestSetup, alloc]
  by_cases failed : ret ≠ 0
  · left
    rw [if_pos failed]
    exact ⟨_, ret, rfl, rfl, rfl⟩
  · right
    obtain rfl := not_not.mp failed
    obtain ⟨noSource, dst, status, dstRing, statusRing⟩ := halSrngTestAllocPipe_dst outcome
    obtain ⟨hal', pipe', registered, ready⟩ :=
      dstTestInitPipe_ready config noSource dstRing statusRing
    have init : initPipes hal (Function.update (fun _ => .zero) 0 pipe)
        srngTestPipeCountMax = (hal', Function.update
          (Function.update (fun _ => .zero) 0 pipe) 0 pipe', none) := by
      simp [srngTestPipeCountMax, initPipes, dstTestInitNext, registered]
    rw [if_neg failed, init]
    refine ⟨hal', _, rfl, ?_⟩
    rw [Function.update_self]
    exact ready

/-! When `dst_test_init` comes to its end, for any table of pipes. -/

/-- Both requests of `hal_srng_test_alloc_ring` are served. -/
def RingMemory.Serves (memory : RingMemory) (nentries : UInt32) : Prop :=
  memory.ring = true ∧ srngTestRingBytes nentries ≤ memory.kmallocMaxSize ∧
    memory.area ≠ none

/-- No source ring is asked for, and there is memory for the two receive rings. -/
structure ReceiveServed (memory : Fin 3 → RingMemory) (attr : SrngTestAttr) : Prop where
  source : attr.srcNentries = 0
  dest : attr.destNentries ≠ 0
  dst : (memory 1).Serves (ringEntries attr.destNentries)
  status : (memory 2).Serves (ringEntries attr.destNentries)

theorem halSrngTestAllocRing_ok_iff {memory : RingMemory} {nentries : UInt32}
    {descSz : Nat} :
    (∃ ring, halSrngTestAllocRing memory nentries descSz = .ok ring) ↔
      memory.Serves nentries := by
  unfold halSrngTestAllocRing RingMemory.Serves
  split
  next refused =>
      constructor
      · rintro ⟨ring, ok⟩
        cases ok
      · rintro ⟨served, small, _⟩
        rcases refused with missing | large
        · rw [missing] at served
          contradiction
        · omega
  next granted =>
      rw [not_or, Bool.not_eq_false, Nat.not_lt] at granted
      cases memory.area with
      | none => simp
      | some area => simp [granted.1, granted.2]

theorem halSrngTestAllocPipe_receive_iff (memory : Fin 3 → RingMemory) (index : Nat)
    (attr : SrngTestAttr) :
    ((halSrngTestAllocPipe memory .zero index attr).2 = 0 ∧
      (halSrngTestAllocPipe memory .zero index attr).1.srcRing = none ∧
      ∃ dst status,
        (halSrngTestAllocPipe memory .zero index attr).1.dstRing = some dst ∧
        (halSrngTestAllocPipe memory .zero index attr).1.statusRing = some status) ↔
      ReceiveServed memory attr := by
  by_cases source : attr.srcNentries = 0
  · by_cases dest : attr.destNentries = 0
    · constructor
      · rintro ⟨_, _, dst, _, found, _⟩
        simp [halSrngTestAllocPipe, allocSrcRing, allocDstRings, source, dest,
          SrngTestPipe.zero] at found
      · intro served
        exact absurd dest served.dest
    · have reduced : halSrngTestAllocPipe memory .zero index attr =
          allocDstRings (memory 1) (memory 2)
            { SrngTestPipe.zero with
              attrFlags := attr.flags, pipeNum := index, bufSz := attr.srcSzMax } attr := by
        simp [halSrngTestAllocPipe, allocSrcRing, source]
      have rings : ReceiveServed memory attr ↔
          (∃ dst, halSrngTestAllocRing (memory 1) (ringEntries attr.destNentries)
            halTestDstBytes = .ok dst) ∧
          ∃ status, halSrngTestAllocRing (memory 2) (ringEntries attr.destNentries)
            halTestDstStatusBytes = .ok status := by
        rw [halSrngTestAllocRing_ok_iff, halSrngTestAllocRing_ok_iff]
        exact ⟨fun served => ⟨served.dst, served.status⟩,
          fun served => ⟨source, dest, served.1, served.2⟩⟩
      rw [reduced, rings, allocDstRings, if_neg dest]
      cases first : halSrngTestAllocRing (memory 1) (ringEntries attr.destNentries)
          halTestDstBytes with
      | error code => simp [SrngTestPipe.zero]
      | ok dst =>
          cases second : halSrngTestAllocRing (memory 2) (ringEntries attr.destNentries)
              halTestDstStatusBytes with
          | error code => simp [SrngTestPipe.zero]
          | ok status => simp [SrngTestPipe.zero]
  · constructor
    · rintro ⟨served, noSource, _⟩
      exfalso
      simp only [halSrngTestAllocPipe, allocSrcRing, if_neg source] at served noSource
      cases outcome : halSrngTestAllocRing (memory 0) (ringEntries attr.srcNentries)
          halTestSw2hwBytes with
      | error code =>
          have failed := halSrngTestAllocRing_code outcome
          simp only [outcome, ne_eq, failed, not_false_eq_true, if_true] at served
      | ok ring =>
          simp only [outcome, ne_eq, not_true_eq_false, if_false, allocDstRings]
            at noSource
          split at noSource
          · cases noSource
          · split at noSource
            · cases noSource
            · split at noSource <;> cases noSource
    · intro served
      exact absurd served.source source

theorem dstTestInitPipe_none_iff {hal : Hal} {pipe : SrngTestPipe}
    (config : hal.srngConfig = hwSrngConfigTemplate) :
    (dstTestInitPipe hal pipe 0).2.2 = none ↔ pipe.srcRing = none ∧
      ∃ dst status, pipe.dstRing = some dst ∧ pipe.statusRing = some status := by
  constructor
  · intro done
    have noSource : pipe.srcRing = none := by
      by_contra source
      rw [← ne_eq, Option.ne_none_iff_isSome] at source
      rw [dstTestInitPipe, if_pos source] at done
      cases done
    obtain ⟨dst, status, _, _, _, _, _, dstFound, statusFound, _⟩ :=
      @dstTestInitPipe_registered hal _ 0 pipe _ (Prod.ext rfl (Prod.ext rfl done))
    exact ⟨noSource, dst, status, dstFound, statusFound⟩
  · rintro ⟨noSource, dst, status, dstFound, statusFound⟩
    obtain ⟨hal', pipe', registered, _⟩ :=
      dstTestInitPipe_ready config noSource dstFound statusFound
    rw [registered]

theorem dstTestSetup_none_iff {hal : Hal}
    (config : hal.srngConfig = hwSrngConfigTemplate) (count : Nat)
    (memory : Nat → Fin 3 → RingMemory) (attrs : Nat → SrngTestAttr) :
    (dstTestSetup hal count memory attrs).2.2 = none ↔
      count ≤ 1 ∧ ∀ index < count, ReceiveServed (memory index) (attrs index) := by
  have table : RxTable hal.srngConfig := by
    rw [config]
    exact hwSrngConfigTemplate_table
  by_cases few : count ≤ 1
  · obtain rfl | rfl : count = 0 ∨ count = 1 := by omega
    · simp [dstTestSetup, allocPipes, initPipes]
    · have one : (dstTestSetup hal 1 memory attrs).2.2 = none ↔
          (halSrngTestAllocPipe (memory 0) .zero 0 (attrs 0)).2 = 0 ∧
            (dstTestInitPipe hal
              (halSrngTestAllocPipe (memory 0) .zero 0 (attrs 0)).1 0).2.2 = none := by
        simp only [dstTestSetup, allocPipes, initPipes, dstTestInitNext, ne_eq,
          not_true_eq_false, if_false, Function.update_self]
        generalize halSrngTestAllocPipe (memory 0) .zero 0 (attrs 0) = allocated
        by_cases served : allocated.2 = 0
        · rw [if_neg (not_not.mpr served)]
          cases outcome : (dstTestInitPipe hal allocated.1 0).2.2 <;> simp [served]
        · rw [if_pos served]
          simp [served]
      rw [one, dstTestInitPipe_none_iff config, halSrngTestAllocPipe_receive_iff]
      simp
  · constructor
    · intro done
      have outcome : dstTestSetup hal count memory attrs =
          ((dstTestSetup hal count memory attrs).1,
            (dstTestSetup hal count memory attrs).2.1, none) :=
        Prod.ext rfl (Prod.ext rfl done)
      obtain ⟨_, room, _⟩ := initPipes_count table (dstTestSetup_done outcome).2
      rw [config] at room
      exact absurd room few
    · rintro ⟨small, _⟩
      exact absurd small few

/-! The self test. -/

structure TestReady (hal hal' : Hal) (ring : SrngTestRing) : Prop where
  config : hal'.srngConfig = hwSrngConfigTemplate
  ringId : ring.halRingId.toNat = templateId .testSrng
  nentries : ring.nentries.toNat = 32
  direct : RingDirect hal' (templateId .testSrng)
  base : RingBaseAt hal' (templateId .testSrng) ring.baseAddrTestSpace
  image : ∀ other < 256, other ≠ templateId .testSrng → SameImage hal hal' other
  agree : ∀ other, RingDirect hal other → other ≠ templateId .testSrng →
    Agree hal hal' other
  fifo : SourceFifo.Inv ring.baseAddrOwnerSpace 32 5
    (.start hal' ring.mem ring.halRingId.toNat) ⟨0, 0, 0⟩

theorem halSrngTestInitRing_ready {hal : Hal} {ring : SrngTestRing}
    (config : hal.srngConfig = hwSrngConfigTemplate) (fresh : FreshRing ring 32) :
    ∃ hal' ring', halSrngTestInitRing hal ring 0 .testSrng = (hal', ring', 0) ∧
      TestReady hal hal' { ring' with swIndex := 0, writeIndex := 0 } := by
  obtain ⟨hal', ring', call, done⟩ := @halSrngTestInitRing_template hal .testSrng config ring
  have lmac : (hal.srngConfig .testSrng).lmacRing = false := by
    rw [config]
    exact template_direct
  obtain ⟨base, image⟩ := done.image lmac
  have ringId := (done.ringId lmac).1
  have size : (hal.srngConfig .testSrng).entrySize.toNat = 5 := by
    rw [config]
    rfl
  have entries : ring.params.numEntries.toUInt32.toNat = 32 := by
    rw [SrngTestRing.params, UInt32.toUInt32_toInt32, fresh.nentries_eq]
  have fifo := SourceFifo.start_inv done.setup (by rw [config]; rfl) (by omega) (by omega)
    (by rw [entries, size]; decide) (fun shared => absurd shared (by rw [lmac]; decide))
  rw [entries, size] at fifo
  refine ⟨hal', ring', call, ⟨done.config.trans config, ringId, ?_,
    halSrngSetup_direct done.setup lmac, base, image, ?_, ?_⟩⟩
  · exact (done.fresh fresh).nentries_eq
  · exact fun other direct different => agree_setup done.setup lmac direct different
  · simp only [ringId, done.base]
    exact fifo

/-- The self test fails before it registers its ring, or not at all. -/
theorem halSrngTestSetup_template {hal : Hal}
    (config : hal.srngConfig = hwSrngConfigTemplate) (memory : Fin 3 → RingMemory) :
    (∃ pipe ret, halSrngTestSetup hal memory = (hal, pipe, ret) ∧ ret ≠ 0 ∧
      pipe.srcRing = none) ∨
    ∃ hal' pipe ring, halSrngTestSetup hal memory = (hal', pipe, 0) ∧
      pipe.srcRing = some ring ∧ TestReady hal hal' ring := by
  have source : srngTestConfig.srcNentries ≠ 0 := by decide
  have entries : (ringEntries srngTestConfig.srcNentries).toNat = 32 := by decide
  have noDst : srngTestConfig.destNentries = 0 := rfl
  simp only [halSrngTestSetup, halSrngTestAllocPipe, allocSrcRing, if_neg source]
  cases outcome : halSrngTestAllocRing (memory 0) (ringEntries srngTestConfig.srcNentries)
      halTestSw2hwBytes with
  | error code =>
      have failed := halSrngTestAllocRing_code outcome
      left
      simp only [ne_eq, failed, not_false_eq_true, if_true]
      exact ⟨_, code, rfl, failed, rfl⟩
  | ok ring =>
      have fresh := halSrngTestAllocRing_fresh outcome (ringEntries_power (by omega))
      rw [entries] at fresh
      obtain ⟨hal', ring', call, ready⟩ := halSrngTestInitRing_ready config fresh
      right
      simp only [ne_eq, not_true_eq_false, if_false, allocDstRings, if_pos noDst, call]
      exact ⟨hal', _, _, rfl, rfl, ready⟩

end WirelessSimu
