import WirelessSimu.Rx.Invariant

namespace WirelessSimu

open Data Kernel

/-! A successful registration of all rings leaves the module in the invariant. -/

/-- What the configuration table says about the two receive ring types; their id
ranges are apart. -/
structure RxTable (config : HalRingType → HalSrngConfig) : Prop where
  dstDir : (config .testSrngDst).ringDir = .src
  dstSize : (config .testSrngDst).entrySize = 3
  dstLmac : (config .testSrngDst).lmacRing = false
  statusDir : (config .testSrngDstStatus).ringDir = .dst
  statusSize : (config .testSrngDstStatus).entrySize = 2
  statusLmac : (config .testSrngDstStatus).lmacRing = false
  apart : ∀ first second : Nat, first < (config .testSrngDst).maxRings.toNat →
    second < (config .testSrngDstStatus).maxRings.toNat →
    (config .testSrngDst).startRingId + first ≠
      (config .testSrngDstStatus).startRingId + second

theorem hwSrngConfigTemplate_table : RxTable hwSrngConfigTemplate where
  dstDir := rfl
  dstSize := rfl
  dstLmac := rfl
  statusDir := rfl
  statusSize := rfl
  statusLmac := rfl
  apart := by
    intro first second firstLt secondLt
    have one : (hwSrngConfigTemplate .testSrngDst).maxRings.toNat = 1 := rfl
    have one' : (hwSrngConfigTemplate .testSrngDstStatus).maxRings.toNat = 1 := rfl
    simp only [hwSrngConfigTemplate, halSrngRingIdTestDst, halSrngRingIdTestDstStatus]
    omega

/-- The ids and sizes that the table and the attributes give the pipes. -/
def rxLayout (config : HalRingType → HalSrngConfig) (attrs : Nat → SrngTestAttr) :
    RxLayout where
  entries := fun index => (ringEntries (attrs index).destNentries).toNat
  dstId := fun index => ((config .testSrngDst).startRingId + index).toNat
  statusId := fun index => ((config .testSrngDstStatus).startRingId + index).toNat

/-! Allocation. -/

section Allocation

variable {memory : Fin 3 → RingMemory} {pipe : SrngTestPipe} {id : Nat}
  {attr : SrngTestAttr}

def FreshPipe (pipe : SrngTestPipe) (entries : Nat) : Prop :=
  (∀ dst, pipe.dstRing = some dst → FreshRing dst entries) ∧
    ∀ status, pipe.statusRing = some status → FreshRing status entries

theorem FreshPipe.blank (noDst : pipe.dstRing = none)
    (noStatus : pipe.statusRing = none) (entries : Nat) : FreshPipe pipe entries := by
  constructor
  · intro dst found
    rw [noDst] at found
    cases found
  · intro status found
    rw [noStatus] at found
    cases found

theorem allocSrcRing_receive (memory : RingMemory) (pipe : SrngTestPipe)
    (attr : SrngTestAttr) :
    (allocSrcRing memory pipe attr).1.dstRing = pipe.dstRing ∧
      (allocSrcRing memory pipe attr).1.statusRing = pipe.statusRing := by
  unfold allocSrcRing
  split
  · exact ⟨rfl, rfl⟩
  · split
    · exact ⟨rfl, rfl⟩
    · exact ⟨rfl, rfl⟩

theorem allocDstRings_fresh {dstMemory statusMemory : RingMemory}
    (nonzero : (ringEntries attr.destNentries).toNat ≠ 0)
    (noDst : pipe.dstRing = none) (noStatus : pipe.statusRing = none) :
    FreshPipe (allocDstRings dstMemory statusMemory pipe attr).1
      (ringEntries attr.destNentries).toNat := by
  have power := ringEntries_power nonzero
  unfold allocDstRings
  split
  · exact .blank noDst noStatus _
  · split
    · exact .blank noDst noStatus _
    next dst allocated =>
        have freshDst := halSrngTestAllocRing_fresh allocated power
        split
        · refine ⟨?_, ?_⟩
          · rintro found ⟨⟩
            exact freshDst
          · intro found lookup
            rw [noStatus] at lookup
            cases lookup
        next status allocatedStatus =>
            have freshStatus := halSrngTestAllocRing_fresh allocatedStatus power
            refine ⟨?_, ?_⟩
            · rintro found ⟨⟩
              exact freshDst
            · rintro found ⟨⟩
              exact freshStatus

theorem halSrngTestAllocPipe_fresh
    (nonzero : (ringEntries attr.destNentries).toNat ≠ 0) :
    FreshPipe (halSrngTestAllocPipe memory .zero id attr).1
      (ringEntries attr.destNentries).toNat := by
  obtain ⟨noDst, noStatus⟩ := allocSrcRing_receive (memory 0)
    { SrngTestPipe.zero with
      attrFlags := attr.flags, pipeNum := id, bufSz := attr.srcSzMax } attr
  unfold halSrngTestAllocPipe
  simp only
  split
  · exact .blank noDst noStatus _
  · exact allocDstRings_fresh nonzero noDst noStatus

theorem allocPipes_fresh {memory : Nat → Fin 3 → RingMemory}
    {attrs : Nat → SrngTestAttr} {count : Nat}
    (nonzero : ∀ index, index < count →
      (ringEntries (attrs index).destNentries).toNat ≠ 0) :
    (∀ index, index < count → FreshPipe ((allocPipes memory attrs count).1 index)
      (ringEntries (attrs index).destNentries).toNat) ∧
    ∀ index, count ≤ index → (allocPipes memory attrs count).1 index = .zero := by
  induction count with
  | zero => exact ⟨fun _ below => absurd below (Nat.not_lt_zero _), fun _ _ => rfl⟩
  | succ count ih =>
      obtain ⟨done, blank⟩ := ih fun index below => nonzero index (by omega)
      have last := blank count (Nat.le_refl count)
      simp only [allocPipes]
      split
      · simp only
        refine ⟨fun index below => ?_, fun index above => blank index (by omega)⟩
        by_cases same : index = count
        · subst same
          rw [last]
          exact .blank rfl rfl _
        · exact done index (by omega)
      · refine ⟨fun index below => ?_, fun index above => ?_⟩
        · by_cases same : index = count
          · subst same
            simp only [Function.update_self, last]
            exact halSrngTestAllocPipe_fresh (nonzero index below)
          · simp only [Function.update_of_ne same]
            exact done index (by omega)
        · have different : index ≠ count := by omega
          simp only [Function.update_of_ne different]
          exact blank index (by omega)

end Allocation

/-! Registration. -/

section Registration

variable {hal hal' : Hal} {ring ring' dst status : SrngTestRing} {index : Nat}
  {type : HalRingType} {entries id : Nat}

structure Registered (hal hal' : Hal) (ring ring' : SrngTestRing) (index : Nat)
    (type : HalRingType) (id : Nat) : Prop where
  setup : halSrngSetup hal ring.mem type index 0 ring.params =
    (hal', ring'.mem, (id : Int))
  ring_eq : ring' = { ring with mem := ring'.mem, halRingId := UInt32.ofInt id }

theorem halSrngTestInitRing_registered
    (done : halSrngTestInitRing hal ring index type = (hal', ring', 0)) :
    ∃ id, Registered hal hal' ring ring' index type id := by
  obtain ⟨id, setup, ringEq, _⟩ := halSrngTestInitRing_setup done
  exact ⟨id, setup, ringEq⟩

theorem Registered.config (done : Registered hal hal' ring ring' index type id) :
    hal'.srngConfig = hal.srngConfig := by
  have kept := halSrngSetup_srngConfig hal ring.mem type index 0 ring.params
  rw [done.setup] at kept
  exact kept

theorem Registered.ringId (done : Registered hal hal' ring ring' index type id)
    (lmac : (hal.srngConfig type).lmacRing = false) :
    ring'.halRingId.toNat = id ∧ index < (hal.srngConfig type).maxRings.toNat ∧
      (id : Int) = (hal.srngConfig type).startRingId + index := by
  have found := halSrngSetup_ringId done.setup
  have small := halSrngGetRingId_lt found
  refine ⟨?_, ?_⟩
  · rw [done.ring_eq]
    simp only
    rw [UInt32.ofInt, UInt32.toNat_ofNat']
    omega
  · have invalid : -einval = -22 := rfl
    simp only [halSrngGetRingId, lmac, invalid] at found
    split at found
    · omega
    · simp only [Bool.false_eq_true, if_false] at found
      split at found
      · omega
      · omega

theorem Registered.base (done : Registered hal hal' ring ring' index type id) :
    ring'.baseAddrOwnerSpace = ring.baseAddrOwnerSpace := by
  rw [done.ring_eq]

theorem Registered.paddr (done : Registered hal hal' ring ring' index type id) :
    (hal'.srngList id).ringBasePaddr = ring'.baseAddrTestSpace := by
  rw [(halSrngSetup_done done.setup).ring_eq, done.ring_eq]
  rfl

theorem Registered.fresh (done : Registered hal hal' ring ring' index type id)
    (fresh : FreshRing ring entries) : FreshRing ring' entries := by
  rw [done.ring_eq]
  exact { fresh with }

theorem Registered.fits (done : Registered hal hal' ring ring' index type id)
    (fresh : FreshRing ring entries) {size : Nat} {dir : HalSrngDir}
    (dirEq : (hal.srngConfig type).ringDir = dir)
    (sizeEq : (hal.srngConfig type).entrySize.toNat = size) (sizePos : 0 < size)
    (sizeLe : size ≤ 4) :
    RingReady hal' id dir ring'.baseAddrOwnerSpace entries size ∧
      ring.params.numEntries.toUInt32.toNat = entries ∧ entries * size < 2 ^ 32 := by
  have entriesEq : ring.params.numEntries.toUInt32.toNat = entries := by
    rw [SrngTestRing.params, UInt32.toUInt32_toInt32, fresh.nentries_eq]
  have small := fresh.small
  have entriesPos := fresh.shape.entries_pos
  have product : entries * size ≤ 2 ^ 26 * 4 := Nat.mul_le_mul (by omega) sizeLe
  have ready := (halSrngSetup_done done.setup).ready dirEq (by omega) (by omega)
    (by rw [entriesEq, sizeEq]; omega)
  rw [entriesEq, sizeEq] at ready
  rw [done.base]
  exact ⟨ready, entriesEq, by omega⟩

/-- What `dst_test_init_pipe` sets `rx_buf_needed` to. -/
theorem toNat_rxBufNeeded {nentries : UInt32} (twoLe : 2 ≤ nentries.toNat) :
    (if nentries ≠ 0 then nentries - 2 else 0).toNat = nentries.toNat - 2 := by
  have nonzero : nentries ≠ 0 := by
    rintro rfl
    exact absurd twoLe (by decide)
  rw [if_pos nonzero, UInt32.toNat_sub_of_le]
  · rfl
  · exact UInt32.le_iff_toNat_le.mpr twoLe

section Pair

variable {middle : Hal} {dst' status' : SrngTestRing} {statusId : Nat}

theorem RxTable.ids_ne (table : RxTable hal.srngConfig)
    (first : Registered hal middle dst dst' index .testSrngDst id)
    (second : Registered middle hal' status status' index .testSrngDstStatus statusId) :
    id ≠ statusId := by
  obtain ⟨_, dstLt, dstIdEq⟩ := first.ringId table.dstLmac
  obtain ⟨_, statusLt, statusIdEq⟩ :=
    second.ringId (by rw [first.config]; exact table.statusLmac)
  rw [first.config] at statusLt statusIdEq
  have apart := table.apart index index dstLt statusLt
  omega

/-- The second registration leaves the ring of the first alone. -/
theorem RxTable.agree_second (table : RxTable hal.srngConfig)
    (first : Registered hal middle dst dst' index .testSrngDst id)
    (second : Registered middle hal' status status' index .testSrngDstStatus statusId) :
    Agree middle hal' id :=
  agree_setup second.setup (by rw [first.config]; exact table.statusLmac)
    (halSrngSetup_direct first.setup table.dstLmac) (table.ids_ne first second)

theorem RxTable.dst_fits (table : RxTable hal.srngConfig) (freshDst : FreshRing dst entries)
    (first : Registered hal middle dst dst' index .testSrngDst id) :
    RingReady middle id .src dst'.baseAddrOwnerSpace entries 3 ∧
      dst.params.numEntries.toUInt32.toNat = entries ∧ entries * 3 < 2 ^ 32 := by
  refine first.fits freshDst table.dstDir ?_ (by decide) (by decide)
  rw [table.dstSize]
  rfl

theorem RxTable.status_fits (table : RxTable middle.srngConfig)
    (freshStatus : FreshRing status entries)
    (second : Registered middle hal' status status' index .testSrngDstStatus statusId) :
    RingReady hal' statusId .dst status'.baseAddrOwnerSpace entries 2 ∧
      status.params.numEntries.toUInt32.toNat = entries ∧ entries * 2 < 2 ^ 32 := by
  refine second.fits freshStatus table.statusDir ?_ (by decide) (by decide)
  rw [table.statusSize]
  rfl

theorem PipeRings.fresh (table : RxTable hal.srngConfig) (twoLe : 2 ≤ entries)
    (freshDst : FreshRing dst entries) (freshStatus : FreshRing status entries)
    (first : Registered hal middle dst dst' index .testSrngDst id)
    (second : Registered middle hal' status status' index .testSrngDstStatus statusId)
    (needed : UInt32) (device : RxDevice) :
    PipeRings entries hal'
      { dst := { dst' with writeIndex := 0, swIndex := 0 }
        status := { status' with writeIndex := 0, swIndex := 0 }
        needed := needed
        device := device
        enqueued := []
        received := [] } := by
  have later : RxTable middle.srngConfig := by
    rw [first.config]
    exact table
  have different := table.ids_ne first second
  have kept := table.agree_second first second
  have dstRingId := (first.ringId table.dstLmac).1
  have statusRingId := (second.ringId later.statusLmac).1
  have dstReady := (table.dst_fits freshDst first).1
  have statusReady := (later.status_fits freshStatus second).1
  have dstDirect := halSrngSetup_direct first.setup table.dstLmac
  have statusDirect := halSrngSetup_direct second.setup later.statusLmac
  have shape := (first.fresh freshDst).shape
  rw [← dstRingId] at dstReady dstDirect different kept
  rw [← statusRingId] at statusReady statusDirect different
  exact
    { two_le := twoLe
      table := ⟨shape.nentries_eq, shape.mask_eq, shape.power⟩
      dstReady := dstReady.of_same kept.same
      statusReady := statusReady
      dstDirect := dstDirect.of_same kept.same
      statusDirect := statusDirect
      dstPaddr := by
        have same := kept.same.ringBasePaddr
        rw [dstRingId, first.paddr] at same
        rw [RxPipe.dstId, dstRingId]
        exact same
      statusPaddr := by
        rw [RxPipe.statusId, statusRingId]
        exact second.paddr
      apart := different }

theorem PipeInv.fresh (table : RxTable hal.srngConfig) (twoLe : 2 ≤ entries)
    (freshDst : FreshRing dst entries) (freshStatus : FreshRing status entries)
    (first : Registered hal middle dst dst' index .testSrngDst id)
    (second : Registered middle hal' status status' index .testSrngDstStatus statusId) :
    PipeInv entries hal'
      { dst := { dst' with writeIndex := 0, swIndex := 0 }
        status := { status' with writeIndex := 0, swIndex := 0 }
        needed := if dst'.nentries ≠ 0 then dst'.nentries - 2 else 0
        device := { tail := 0, head := 0, storedTail := 0, taken := [], reported := [] }
        enqueued := []
        received := [] } ⟨⟨0, 0, 0⟩, 0, 0⟩ := by
  have later : RxTable middle.srngConfig := by
    rw [first.config]
    exact table
  have sizeDst : (hal.srngConfig .testSrngDst).entrySize.toNat = 3 := by
    rw [table.dstSize]
    rfl
  obtain ⟨_, dstEntries, dstFits⟩ := table.dst_fits freshDst first
  obtain ⟨_, statusEntries, _⟩ := later.status_fits freshStatus second
  have positions := (halSrngSetup_done first.setup).srcPositions table.dstDir
    (by omega) (by omega) (by rw [dstEntries, sizeDst]; exact dstFits)
    (fun lmac => absurd lmac (by rw [table.dstLmac]; decide))
  rw [dstEntries, sizeDst, ← (table.agree_second first second).srcView,
    ← (first.ringId table.dstLmac).1] at positions
  have sink := (halSrngSetup_done second.setup).dstPositions later.statusDir (by omega)
    (fun lmac => absurd lmac (by rw [later.statusLmac]; decide)) 2
  rw [statusEntries, ← (second.ringId later.statusLmac).1] at sink
  have nentries := (first.fresh freshDst).shape.nentries_eq
  have needed := @toNat_rxBufNeeded dst'.nentries (by rw [nentries]; exact twoLe)
  rw [nentries] at needed
  exact
    { rings := .fresh table twoLe freshDst freshStatus first second _ _
      source := positions
      sink := sink
      device :=
        { atTail := .zero _ _
          atHead := .zero _ _
          stored_eq := rfl
          head_le := Nat.le_refl 0
          reported_le := Nat.le_refl 0
          storedTail_le := Nat.le_refl 0
          taken_le := Nat.le_refl 0
          published_le := Nat.le_refl 0 }
      table :=
        { writeIndex_eq := (Nat.zero_mod entries).symm
          swIndex_eq := (Nat.zero_mod entries).symm
          needed_eq := needed
          slots := .fresh (first.fresh freshDst).skb_eq }
      logs :=
        { taken_prefix := List.prefix_refl []
          descs := .empty
          statuses := .empty
          lengths := fun _ member => absurd member List.not_mem_nil
          received_eq := by
            intro found entry lookup
            simp at lookup } }

end Pair

theorem dstTestInitPipe_registered {pipe pipe' : SrngTestPipe}
    (done : dstTestInitPipe hal pipe index = (hal', pipe', none)) :
    ∃ dst status dst' status' middle dstId statusId,
      pipe.dstRing = some dst ∧ pipe.statusRing = some status ∧
      Registered hal middle dst dst' index .testSrngDst dstId ∧
      Registered middle hal' status status' index .testSrngDstStatus statusId ∧
      pipe' =
        { pipe with
          dstRing := some { dst' with writeIndex := 0, swIndex := 0 }
          statusRing := some { status' with writeIndex := 0, swIndex := 0 }
          rxBufNeeded := if dst'.nentries ≠ 0 then dst'.nentries - 2 else 0 } := by
  unfold dstTestInitPipe at done
  split at done
  next => simp at done
  next =>
      split at done
      next dst status dstFound statusFound =>
          generalize firstCall :
            halSrngTestInitRing hal dst index .testSrngDst = first at done
          obtain ⟨middle, dst', firstRet⟩ := first
          simp only at done
          generalize secondCall :
            halSrngTestInitRing middle status index .testSrngDstStatus = second at done
          obtain ⟨last, status', secondRet⟩ := second
          simp only at done
          split at done
          next firstFailed =>
              simp at done
          next firstDone =>
              split at done
              next => simp at done
              next secondDone =>
                  obtain rfl := not_not.mp firstDone
                  obtain rfl := not_not.mp secondDone
                  simp only [Prod.mk.injEq] at done
                  obtain ⟨rfl, rfl, _⟩ := done
                  obtain ⟨dstId, registeredDst⟩ := halSrngTestInitRing_registered firstCall
                  obtain ⟨statusId, registeredStatus⟩ :=
                    halSrngTestInitRing_registered secondCall
                  exact ⟨dst, status, dst', status', middle, dstId, statusId, dstFound,
                    statusFound, registeredDst, registeredStatus, rfl⟩
      next => simp at done

end Registration

/-! All pipes. -/

section Start

variable {config : HalRingType → HalSrngConfig} {attrs : Nat → SrngTestAttr}

structure Placed (config : HalRingType → HalSrngConfig) (attrs : Nat → SrngTestAttr)
    (index : Nat) : Prop where
  dstLt : index < (config .testSrngDst).maxRings.toNat
  statusLt : index < (config .testSrngDstStatus).maxRings.toNat
  dstId_eq : ((rxLayout config attrs).dstId index : Int) =
    (config .testSrngDst).startRingId + index
  statusId_eq : ((rxLayout config attrs).statusId index : Int) =
    (config .testSrngDstStatus).startRingId + index

theorem Placed.cross (table : RxTable config) {first second : Nat}
    (one : Placed config attrs first) (two : Placed config attrs second) :
    (rxLayout config attrs).dstId first ≠ (rxLayout config attrs).statusId second := by
  have apart := table.apart first second one.dstLt two.statusLt
  have := one.dstId_eq
  have := two.statusId_eq
  omega

theorem Placed.dst_ne {first second : Nat} (one : Placed config attrs first)
    (two : Placed config attrs second) (different : first ≠ second) :
    (rxLayout config attrs).dstId first ≠ (rxLayout config attrs).dstId second := by
  have := one.dstId_eq
  have := two.dstId_eq
  omega

theorem Placed.status_ne {first second : Nat} (one : Placed config attrs first)
    (two : Placed config attrs second) (different : first ≠ second) :
    (rxLayout config attrs).statusId first ≠
      (rxLayout config attrs).statusId second := by
  have := one.statusId_eq
  have := two.statusId_eq
  omega

/-- One more pipe registered, in the state that the module starts with. -/
theorem dstTestInitPipe_at {hal hal' : Hal} {pipes : Nat → SrngTestPipe}
    {pipe' : SrngTestPipe} {index total : Nat} (table : RxTable hal.srngConfig)
    (fresh : FreshPipe (pipes index) ((rxLayout hal.srngConfig attrs).entries index))
    (twoLe : 2 ≤ (rxLayout hal.srngConfig attrs).entries index)
    (done : dstTestInitPipe hal (pipes index) index = (hal', pipe', none)) :
    hal'.srngConfig = hal.srngConfig ∧ Placed hal.srngConfig attrs index ∧
      (∃ dst status, PipeAt (rxLayout hal.srngConfig attrs)
        (.start hal' total (Function.update pipes index pipe')) index dst status
        ⟨⟨0, 0, 0⟩, 0, 0⟩ ∧ (hal'.dstView status.halRingId.toNat).published = 0 ∧
        ∀ slot, dst.skb slot = none) ∧
      ∀ other, RingDirect hal other →
        other ≠ (rxLayout hal.srngConfig attrs).dstId index →
        other ≠ (rxLayout hal.srngConfig attrs).statusId index →
        Agree hal hal' other := by
  obtain ⟨dst, status, dst', status', middle, dstId, statusId, dstFound, statusFound,
    first, second, rfl⟩ := dstTestInitPipe_registered done
  have configEq := first.config
  have lmacStatus : (middle.srngConfig .testSrngDstStatus).lmacRing = false := by
    rw [configEq]
    exact table.statusLmac
  obtain ⟨dstRingId, dstLt, dstIdEq⟩ := first.ringId table.dstLmac
  obtain ⟨statusRingId, statusLt, statusIdEq⟩ := second.ringId lmacStatus
  rw [configEq] at statusLt statusIdEq
  have dstPlace : (rxLayout hal.srngConfig attrs).dstId index = dstId := by
    simp only [rxLayout, ← dstIdEq, Int.toNat_natCast]
  have statusPlace : (rxLayout hal.srngConfig attrs).statusId index = statusId := by
    simp only [rxLayout, ← statusIdEq, Int.toNat_natCast]
  refine ⟨by rw [second.config, configEq],
    ⟨dstLt, statusLt, by rw [dstPlace, dstIdEq], by rw [statusPlace, statusIdEq]⟩,
    ⟨{ dst' with writeIndex := 0, swIndex := 0 },
      { status' with writeIndex := 0, swIndex := 0 }, ?_, ?_,
      (first.fresh (fresh.1 dst dstFound)).skb_eq⟩, ?_⟩
  · refine ⟨?_, ?_, ?_, ?_, trivial⟩
    · rw [Rx.rings_eq_some]
      simp [Rx.start]
    · rw [dstPlace]
      exact dstRingId
    · rw [statusPlace]
      exact statusRingId
    · have inv := PipeInv.fresh table twoLe (fresh.1 dst dstFound)
        (fresh.2 status statusFound) first second
      simp only [Rx.pipe, Rx.start, Function.update_self]
      exact inv
  · rw [statusRingId]
    exact (halSrngSetup_done second.setup).publish_zero fun lmac =>
      absurd lmac (by rw [lmacStatus]; decide)
  · intro other direct notDst notStatus
    rw [dstPlace] at notDst
    rw [statusPlace] at notStatus
    have before := agree_setup first.setup table.dstLmac direct notDst
    exact before.trans (agree_setup second.setup lmacStatus
      (direct.of_same before.same) notStatus)

/-- Every pipe up to the last was registered before it. -/
theorem initPipes_succ {hal hal' : Hal} {pipes pipes' : Nat → SrngTestPipe} {count : Nat}
    (done : initPipes hal pipes (count + 1) = (hal', pipes', none)) :
    ∃ before beforePipes pipe',
      initPipes hal pipes count = (before, beforePipes, none) ∧
      dstTestInitPipe before (beforePipes count) count = (hal', pipe', none) ∧
      pipes' = Function.update beforePipes count pipe' := by
  rw [initPipes] at done
  generalize earlier : initPipes hal pipes count = result at done
  obtain ⟨before, beforePipes, code⟩ := result
  cases code with
  | some code => simp [dstTestInitNext] at done
  | none =>
      simp only [dstTestInitNext] at done
      generalize last : dstTestInitPipe before (beforePipes count) count = result at done
      obtain ⟨after, pipe', ret⟩ := result
      cases done
      exact ⟨before, beforePipes, pipe', rfl, last, rfl⟩

theorem initPipes_at {hal hal' : Hal} {pipes pipes' : Nat → SrngTestPipe}
    {count total : Nat} (table : RxTable hal.srngConfig)
    (fresh : ∀ index, index < count →
      FreshPipe (pipes index) ((rxLayout hal.srngConfig attrs).entries index))
    (twoLe : ∀ index, index < count →
      2 ≤ (rxLayout hal.srngConfig attrs).entries index)
    (done : initPipes hal pipes count = (hal', pipes', none)) :
    hal'.srngConfig = hal.srngConfig ∧
      (∀ index, index < count → Placed hal.srngConfig attrs index ∧
        ∃ dst status, PipeAt (rxLayout hal.srngConfig attrs)
          (.start hal' total pipes') index dst status ⟨⟨0, 0, 0⟩, 0, 0⟩ ∧
          (hal'.dstView status.halRingId.toNat).published = 0 ∧
          ∀ slot, dst.skb slot = none) ∧
      ∀ index, count ≤ index → pipes' index = pipes index := by
  induction count generalizing hal' pipes' with
  | zero =>
      cases done
      exact ⟨rfl, fun _ below => absurd below (Nat.not_lt_zero _), fun _ _ => rfl⟩
  | succ count ih =>
      obtain ⟨before, beforePipes, pipe', earlier, last, rfl⟩ := initPipes_succ done
      obtain ⟨configEq, placed, rest⟩ := ih
        (fun index below => fresh index (by omega))
        (fun index below => twoLe index (by omega)) earlier
      have same := rest count (Nat.le_refl count)
      rw [← configEq] at table fresh twoLe placed ⊢
      have freshLast : FreshPipe (beforePipes count)
          ((rxLayout before.srngConfig attrs).entries count) := by
        rw [same]
        exact fresh count (by omega)
      obtain ⟨afterConfig, own, ownAt, keeps⟩ := @dstTestInitPipe_at attrs _ _ _ _ _
        total table freshLast (twoLe count (by omega)) last
      refine ⟨afterConfig, ?_, ?_⟩
      · intro index below
        by_cases isLast : index = count
        · subst isLast
          exact ⟨own, ownAt⟩
        · obtain ⟨place, dst, status, at_, published, empty⟩ := placed index (by omega)
          have statusAgree := keeps _ at_.statusDirect (own.cross table place).symm
            (place.status_ne own isLast)
          refine ⟨place, dst, status, at_.frame ?_ rfl rfl rfl ?_ statusAgree
            fun _ claim => claim, ?_, empty⟩
          · simp [Rx.start, isLast]
          · exact keeps _ at_.dstDirect (place.dst_ne own isLast)
              (place.cross table own)
          · rw [← at_.statusId_eq] at statusAgree
            rw [statusAgree.dstView, published]
      · intro index above
        rw [Function.update_of_ne (by omega)]
        exact rest index (by omega)

theorem dstTestSetup_done {hal hal' : Hal} {count : Nat}
    {memory : Nat → Fin 3 → RingMemory} {pipes : Nat → SrngTestPipe}
    (done : dstTestSetup hal count memory attrs = (hal', pipes, none)) :
    (allocPipes memory attrs count).2 = 0 ∧
      initPipes hal (allocPipes memory attrs count).1 count = (hal', pipes, none) := by
  unfold dstTestSetup at done
  generalize allocPipes memory attrs count = allocated at done ⊢
  obtain ⟨blank, ret⟩ := allocated
  simp only at done ⊢
  split at done
  next => simp at done
  next served =>
      refine ⟨not_not.mp served, ?_⟩
      split at done
      next => simp at done
      next registered =>
          cases done
          exact registered

/-- Every pipe has its ring, with a number that the table has for it. -/
theorem initPipes_count {hal hal' : Hal} {pipes pipes' : Nat → SrngTestPipe}
    {count : Nat} (table : RxTable hal.srngConfig)
    (done : initPipes hal pipes count = (hal', pipes', none)) :
    hal'.srngConfig = hal.srngConfig ∧
      count ≤ (hal.srngConfig .testSrngDst).maxRings.toNat ∧
      ∀ index < count, (pipes' index).dstRing ≠ none := by
  induction count generalizing hal' pipes' with
  | zero =>
      cases done
      exact ⟨rfl, Nat.zero_le _, fun _ below => absurd below (Nat.not_lt_zero _)⟩
  | succ count ih =>
      obtain ⟨before, beforePipes, pipe', earlier, last, rfl⟩ := initPipes_succ done
      obtain ⟨configEq, _, present⟩ := ih earlier
      obtain ⟨_, _, _, _, _, _, _, _, _, first, second, rfl⟩ :=
        dstTestInitPipe_registered last
      have direct := table.dstLmac
      rw [← configEq] at direct ⊢
      refine ⟨second.config.trans first.config, (first.ringId direct).2.1, ?_⟩
      intro index below
      by_cases same : index = count
      · simp [same]
      · rw [Function.update_of_ne same]
        exact present index (by omega)

/-- Every pipe at the start, with its status tail published and no buffer. -/
theorem dstTestSetup_placed {hal hal' : Hal} {count : Nat}
    {memory : Nat → Fin 3 → RingMemory} {pipes : Nat → SrngTestPipe}
    (table : RxTable hal.srngConfig)
    (twoLe : ∀ index, index < count →
      2 ≤ (ringEntries (attrs index).destNentries).toNat)
    (done : dstTestSetup hal count memory attrs = (hal', pipes, none)) :
    ∀ index, index < count → Placed hal.srngConfig attrs index ∧
      ∃ dst status, PipeAt (rxLayout hal.srngConfig attrs) (.start hal' count pipes) index
        dst status ⟨⟨0, 0, 0⟩, 0, 0⟩ ∧
        (hal'.dstView status.halRingId.toNat).published = 0 ∧
        ∀ slot, dst.skb slot = none := by
  obtain ⟨fresh, _⟩ := @allocPipes_fresh memory attrs count fun index below => by
    have := twoLe index below
    omega
  obtain ⟨_, registered⟩ := dstTestSetup_done done
  exact (@initPipes_at attrs _ _ _ _ _ count table fresh twoLe registered).2.1

/-- The state that a successful registration hands to `post_buf`. -/
theorem RxInv.start {hal hal' : Hal} {count : Nat} {memory : Nat → Fin 3 → RingMemory}
    {pipes : Nat → SrngTestPipe} (table : RxTable hal.srngConfig)
    (twoLe : ∀ index, index < count →
      2 ≤ (ringEntries (attrs index).destNentries).toNat)
    (done : dstTestSetup hal count memory attrs = (hal', pipes, none)) :
    RxInv (rxLayout hal.srngConfig attrs) (.start hal' count pipes) := by
  have placed := dstTestSetup_placed table twoLe done
  have place := fun index below => (placed index below).1
  have control := ControlInv.start hal' count pipes
  refine ⟨⟨?_, ?_, ?_⟩, ?_, control.drains_lt, control.waits_lt, control.lock, ?_⟩
  · intro first second firstLt secondLt different
    exact (place first firstLt).dst_ne (place second secondLt) different
  · intro first second firstLt secondLt different
    exact (place first firstLt).status_ne (place second secondLt) different
  · intro first second firstLt secondLt
    exact (place first firstLt).cross table (place second secondLt)
  · intro index below
    obtain ⟨_, dst, status, at_, _⟩ := placed index below
    exact ⟨dst, status, _, at_⟩
  · refine .start hal' count fun index ring below found => ?_
    obtain ⟨_, dst, _, at_, _, empty⟩ := placed index below
    cases found.symm.trans at_.dstRing
    exact empty

/-- One pipe of four entries, as the module sets it up. -/
def smallSetup : Hal × (Nat → SrngTestPipe) × Option Int :=
  dstTestSetup (halSrngInit false 0x2000 fun _ => 0) 1
    (fun _ ring => .small true (some (0x8000 + 0x1000 * ring, 0x70000)))
    (fun _ => { srngTestDstConfig with destNentries := 4 })

/-- The initialisation posts the two buffers that such a pipe takes. -/
def smallPost : List Rx.Event :=
  [.postBufNext false, .postBufLock false, .postBuffer (some 2048) (some 0x5000),
    .enqueueStore, .enqueueEnd, .postBuffer (some 2048) (some 0x6000), .enqueueStore,
    .enqueueEnd, .postBuffer none none, .postBufReturn false, .postBufNext false]

/-- Or it runs out of memory after the first one. -/
def onePost : List Rx.Event :=
  [.postBufNext false, .postBufLock false, .postBuffer (some 2048) (some 0x5000),
    .enqueueStore, .enqueueEnd, .postBuffer none none, .postBufReturn false]

theorem smallSetup_done :
    smallSetup = (smallSetup.1, smallSetup.2.1, none) :=
  Prod.ext rfl (Prod.ext rfl (by decide +kernel))

end Start

end WirelessSimu
