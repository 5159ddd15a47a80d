import WirelessSimu.Data.Run
import WirelessSimu.Hal.SourceRing
import WirelessSimu.Pipe.Transfer

namespace WirelessSimu

open Data Kernel

/-! Posting on one ring of a pipe, call by call. The device may store anything in the
shadow word, between two calls and at both places where a call lets it in: after
`access_begin` and before `access_end`. -/

inductive PostSide where
  | send
  | enqueue
  deriving DecidableEq, Repr

/-- The arguments of `test_send` and `enqueue_pipe`, each of which uses some of them,
and what the device stores during the call. -/
structure PostCall where
  skb : Nat
  data : SkBuff
  transferId : UInt16
  paddr : UInt64
  afterBegin : List UInt32
  beforeEnd : List UInt32
  deriving DecidableEq, Repr

namespace PostSide

def ring : PostSide → SrngTestPipe → Option SrngTestRing
  | .send, pipe => pipe.srcRing
  | .enqueue, pipe => pipe.dstRing

def full : PostSide → Int
  | .send => enobufs
  | .enqueue => enospc

def words (call : PostCall) (writeIndex : UInt32) : PostSide → List UInt32
  | .send => testSrcSetDesc call.data call.transferId.toUInt32 0 writeIndex
  | .enqueue => testDstSetDesc call.paddr

/-- The part between the two accesses, for a pipe with the given ring. -/
def middle (hal : Hal) (pipe : SrngTestPipe) (ring : SrngTestRing) (call : PostCall)
    (writeIndex : UInt32) : PostSide → Hal × SrngTestPipe × Int
  | .send =>
      let (hal, ring, ret) := halSrngTestSend hal ring call.skb call.data
        call.transferId.toUInt32 writeIndex
      (hal, { pipe with srcRing := some ring }, ret)
  | .enqueue => testDstEnqueuePipe hal pipe ring call.skb call.paddr writeIndex

end PostSide

/-- Stores of the device to the shadow word of ring `id`. -/
def deviceStores (id : Nat) (hal : Hal) (tails : List UInt32) : Hal :=
  tails.foldl (fun hal tail => hal.store (.rdp id) tail) hal

structure Posting where
  hal : Hal
  pipe : SrngTestPipe

namespace Posting

/-- One whole call, with its return value. -/
def post (side : PostSide) (posting : Posting) (ring : SrngTestRing)
    (call : PostCall) : Posting × Int :=
  let id := ring.halRingId.toNat
  let writeIndex := ring.writeIndex
  let hal := halSrngAccessBegin posting.hal id
  let hal := deviceStores id hal call.afterBegin
  let (hal, pipe, ret) := side.middle hal posting.pipe ring call writeIndex
  let hal := deviceStores id hal call.beforeEnd
  (⟨halSrngAccessEnd hal id, pipe⟩, ret)

inductive Event where
  | deviceStore (tail : UInt32)
  | call (call : PostCall)
  deriving DecidableEq, Repr

def step (side : PostSide) (posting : Posting) : Event → Option Posting
  | .deviceStore tail => do
      let ring ← side.ring posting.pipe
      return { posting with
        hal := posting.hal.store (.rdp ring.halRingId.toNat) tail }
  | .call call => do
      let ring ← side.ring posting.pipe
      return (posting.post side ring call).1

end Posting

section Stores

variable {hal : Hal} {id base entries size : Nat}

theorem srngList_deviceStores (tails : List UInt32) :
    (deviceStores id hal tails).srngList = hal.srngList := by
  induction tails generalizing hal with
  | nil => rfl
  | cons tail tails ih =>
      rw [deviceStores, List.foldl_cons]
      exact ih.trans (hal.srngList_store _ _)

theorem RingReady.deviceStores {dir : HalSrngDir}
    (ready : RingReady hal id dir base entries size) (tails : List UInt32) :
    RingReady (deviceStores id hal tails) id dir base entries size := by
  apply ready.of_same
  rw [srngList_deviceStores]
  exact .refl _

theorem srcView_deviceStores {dir : HalSrngDir}
    (ready : RingReady hal id dir base entries size) (tails : List UInt32) :
    ∃ shadow, (deviceStores id hal tails).srcView id =
      { hal.srcView id with shadow := shadow } := by
  induction tails generalizing hal with
  | nil => exact ⟨_, rfl⟩
  | cons tail tails ih =>
      have view := srcView_store_shadow ready tail
      rw [ready.wired.shadow] at view
      obtain ⟨shadow, later⟩ := ih (ready.of_same (hal.same_store id (.rdp id) tail))
      rw [view] at later
      exact ⟨shadow, later⟩

end Stores

theorem PostSide.full_ne_zero (side : PostSide) : -side.full ≠ 0 := by
  cases side <;> decide

/-- Both functions between their accesses: a refusal that changes nothing, or the next
entry filled. -/
theorem PostSide.middle_cases (side : PostSide) (hal : Hal) {pipe : SrngTestPipe}
    {ring : SrngTestRing} (own : side.ring pipe = some ring) (call : PostCall)
    (writeIndex : UInt32) :
    side.middle hal pipe ring call writeIndex = (hal, pipe, -side.full) ∨
    (∃ hal' desc filled,
      halSrngSrcGetNextEntry hal ring.halRingId.toNat = (hal', some desc) ∧
      side.middle hal pipe ring call writeIndex = (hal', filled, 0) ∧
      side.ring filled =
        some (ring.fill desc (side.words call writeIndex) call.skb writeIndex)) := by
  cases side with
  | send =>
      obtain ⟨refused, _⟩ | ⟨hal', desc, result, stored⟩ := storeEntry_cases hal ring
        enobufs call.skb writeIndex
        (testSrcSetDesc call.data call.transferId.toUInt32 0 writeIndex)
      · left
        obtain ⟨pipeNum, attrFlags, bufSz, rxBufNeeded, srcRing, dstRing, statusRing⟩ := pipe
        have same : srcRing = some ring := own
        simp only [middle, halSrngTestSend, refused, full, same]
      · right
        exact ⟨hal', desc, { pipe with srcRing := some _ }, result,
          by simp only [middle, halSrngTestSend, stored, words], rfl⟩
  | enqueue =>
      obtain ⟨refused, _⟩ | ⟨hal', desc, result, stored⟩ :=
        testDstEnqueuePipe_cases hal pipe ring call.skb call.paddr writeIndex
      · left
        exact refused
      · right
        exact ⟨hal', desc, _, result, stored, rfl⟩

namespace Posting

variable {side : PostSide} {posting : Posting} {ring : SrngTestRing}
  {id base entries size : Nat}

/-- A call that refused: nothing is written and the head published again. -/
structure Refused (side : PostSide) (id : Nat) (posting : Posting)
    (result : Posting × Int) : Prop where
  ret : result.2 = -side.full
  pipe : result.1.pipe = posting.pipe
  hp : (result.1.hal.srcView id).hp = (posting.hal.srcView id).hp
  reapHp : (result.1.hal.srcView id).reapHp = (posting.hal.srcView id).reapHp
  published : (result.1.hal.srcView id).published = (posting.hal.srcView id).hp

/-- A call that stored its buffer in the slot under the head. -/
structure Stored (side : PostSide) (id : Nat) (posting : Posting) (ring : SrngTestRing)
    (call : PostCall) (result : Posting × Int) : Prop where
  ret : result.2 = 0
  ring : side.ring result.1.pipe = some
    (ring.fill (descPtr (posting.hal.srngList id) (posting.hal.srcView id).hp)
      (side.words call ring.writeIndex) call.skb ring.writeIndex)
  hp : (result.1.hal.srcView id).hp =
    ((posting.hal.srcView id).hp + (posting.hal.srngList id).entrySize) %
      (posting.hal.srngList id).ringSize
  published : (result.1.hal.srcView id).published = (result.1.hal.srcView id).hp

theorem post_cases (ready : RingReady posting.hal id .src base entries size)
    (own : side.ring posting.pipe = some ring) (idEq : ring.halRingId.toNat = id)
    (call : PostCall) :
    RingReady (posting.post side ring call).1.hal id .src base entries size ∧
      (Refused side id posting (posting.post side ring call) ∨
        Stored side id posting ring call (posting.post side ring call)) := by
  have begun : RingReady (halSrngAccessBegin posting.hal id) id .src base entries size :=
    ready.of_same (same_accessBegin id)
  have same : SameRing (posting.hal.srngList id)
      ((deviceStores id (halSrngAccessBegin posting.hal id) call.afterBegin).srngList
        id) := by
    rw [srngList_deviceStores]
    exact same_accessBegin id
  have opened := begun.deviceStores call.afterBegin
  obtain ⟨shadow, view⟩ := srcView_deviceStores begun call.afterBegin
  rw [srcView_accessBegin ready] at view
  -- Whatever the middle part left, the device stores and `access_end` publishes.
  have close : ∀ {hal : Hal}, RingReady hal id .src base entries size →
      RingReady (halSrngAccessEnd (deviceStores id hal call.beforeEnd) id) id .src base
        entries size ∧
      ∃ shadow, (halSrngAccessEnd (deviceStores id hal call.beforeEnd) id).srcView id =
        { hal.srcView id with
          shadow := shadow, published := (hal.srcView id).hp } := by
    intro hal readyThen
    have stored := readyThen.deviceStores call.beforeEnd
    obtain ⟨last, viewThen⟩ := srcView_deviceStores readyThen call.beforeEnd
    refine ⟨stored.of_same (same_accessEnd id), last, ?_⟩
    rw [srcView_accessEnd stored, viewThen]
  unfold post
  simp only [idEq]
  obtain refused | ⟨hal', desc, filled, result, stored, ringThen⟩ := side.middle_cases
    (deviceStores id (halSrngAccessBegin posting.hal id) call.afterBegin) own call
    ring.writeIndex
  · rw [refused]
    obtain ⟨readyThen, last, viewThen⟩ := close opened
    refine ⟨readyThen, .inl ⟨rfl, rfl, ?_, ?_, ?_⟩⟩
    · rw [viewThen, view]
    · rw [viewThen, view]
    · rw [viewThen, view]
  · rw [stored]
    rw [idEq, halSrngSrcGetNextEntry_def, view, same.entrySize, same.ringSize] at result
    simp only at result
    split at result
    · simp at result
    · simp only [Prod.mk.injEq, Option.some.injEq] at result
      obtain ⟨rfl, descEq⟩ := result
      obtain ⟨readyThen, last, viewThen⟩ := close (opened.of_same (Hal.same_setSrc ..))
      refine ⟨readyThen, .inr ⟨rfl, ?_, ?_, ?_⟩⟩
      · rw [ringThen, ← descEq, descPtr, descPtr, same.ringBaseVaddr]
      · rw [viewThen, Hal.srcView_setSrc]
      · rw [viewThen]

/-- The software index and the head name the same slot, and the head is published. -/
structure Lockstep (side : PostSide) (id base entries size : Nat) (posting : Posting)
    (ring : SrngTestRing) : Prop where
  own : side.ring posting.pipe = some ring
  id_eq : ring.halRingId.toNat = id
  ready : RingReady posting.hal id .src base entries size
  table : TableShape ring entries
  index_lt : ring.writeIndex.toNat < entries
  atHp : StandsAt entries size (posting.hal.srcView id).hp ring.writeIndex.toNat
  published : (posting.hal.srcView id).published = (posting.hal.srcView id).hp

theorem TableShape.fill {table : SrngTestRing} (shape : TableShape table entries)
    (desc : Nat) (words : List UInt32) (skb : Nat) (writeIndex : UInt32) :
    TableShape (table.fill desc words skb writeIndex) entries :=
  ⟨shape.nentries_eq, shape.mask_eq, shape.power⟩

theorem Lockstep.post (lock : Lockstep side id base entries size posting ring)
    (call : PostCall) :
    ∃ ring', Lockstep side id base entries size (posting.post side ring call).1 ring' := by
  obtain ⟨ready, refused | stored⟩ := post_cases lock.ready lock.own lock.id_eq call
  · refine ⟨ring, ?_⟩
    exact
      { lock with
        own := by rw [refused.pipe, lock.own]
        ready := ready
        atHp := by
          rw [refused.hp]
          exact lock.atHp
        published := by rw [refused.published, refused.hp] }
  · have next := lock.ready.shape.advance_mod lock.atHp
    refine ⟨ring.fill (descPtr (posting.hal.srngList id) (posting.hal.srcView id).hp)
      (side.words call ring.writeIndex) call.skb ring.writeIndex, ?_⟩
    exact
      { own := stored.ring
        id_eq := lock.id_eq
        ready := ready
        table := TableShape.fill lock.table ..
        index_lt := lock.table.nextIndex_lt _
        atHp := by
          rw [stored.hp, StandsAt, next, slotOffset, slotOffset, SrngTestRing.fill,
            lock.table.nextIndex_mod, Nat.mod_mod]
        published := stored.published }

theorem Lockstep.deviceStore (lock : Lockstep side id base entries size posting ring)
    (tail : UInt32) :
    Lockstep side id base entries size
      { posting with hal := posting.hal.store (.rdp id) tail } ring := by
  have view := srcView_store_shadow lock.ready tail
  rw [lock.ready.wired.shadow] at view
  exact
    { lock with
      ready := lock.ready.of_same (posting.hal.same_store id (.rdp id) tail)
      atHp := by
        rw [view]
        exact lock.atHp
      published := by
        rw [view]
        exact lock.published }

theorem Lockstep.step {next : Posting} {event : Event}
    (lock : Lockstep side id base entries size posting ring)
    (stepped : posting.step side event = some next) :
    ∃ ring', Lockstep side id base entries size next ring' := by
  cases event with
  | deviceStore tail =>
      simp only [Posting.step, lock.own, Option.bind_eq_bind, Option.bind_some,
        Option.pure_def, Option.some.injEq, lock.id_eq] at stepped
      subst stepped
      exact ⟨ring, lock.deviceStore tail⟩
  | call call =>
      simp only [Posting.step, lock.own, Option.bind_eq_bind, Option.bind_some,
        Option.pure_def, Option.some.injEq] at stepped
      subst stepped
      exact lock.post call

/-- The ring right after its registration. -/
theorem Lockstep.start {hal hal' : Hal} {fresh : SrngTestRing} {ringNum : Int}
    {type : HalRingType} {pipe : SrngTestPipe}
    (init : halSrngTestInitRing hal fresh ringNum type = (hal', ring, 0))
    (source : (hal.srngConfig type).ringDir = .src) (table : TableShape fresh entries)
    (index : fresh.writeIndex = 0)
    (sizeEq : (hal.srngConfig type).entrySize.toNat = size) (sizePos : 1 ≤ size)
    (fits : entries * size < 2 ^ 32)
    (shared : SharedWordsClear hal type ring.halRingId.toNat)
    (own : side.ring pipe = some ring) :
    Lockstep side ring.halRingId.toNat fresh.baseAddrOwnerSpace entries size ⟨hal', pipe⟩
      ring := by
  obtain ⟨id, setup, ringEq, idEq⟩ := halSrngTestInitRing_setup init
  have entriesEq : fresh.params.numEntries.toUInt32.toNat = entries := by
    rw [SrngTestRing.params, UInt32.toUInt32_toInt32, table.nentries_eq]
  have entriesPos := table.entries_pos
  have done := halSrngSetup_done setup
  have ready := done.ready source (by omega) (by omega) (by rwa [entriesEq, sizeEq])
  rw [idEq] at shared
  have positions := done.srcPositions source (by omega) (by omega)
    (by rwa [entriesEq, sizeEq]) shared
  rw [entriesEq, sizeEq] at ready positions
  have zero : ring.writeIndex = 0 := by rw [ringEq, index]
  rw [idEq]
  exact
    { own := own
      id_eq := idEq
      ready := ready
      table := by
        rw [ringEq]
        exact ⟨table.nentries_eq, table.mask_eq, table.power⟩
      index_lt := by
        rw [zero]
        exact entriesPos
      atHp := by
        rw [zero]
        exact positions.atHp
      published := by
        rw [← UInt32.toNat_inj, positions.atPublished, positions.atHp] }

/-- After every call the two cursors of the ring name the same slot, whatever the device
stored; the next call fills that slot in both tables or leaves everything as it was. -/
theorem posting_lockstep {hal hal' : Hal} {fresh : SrngTestRing} {ringNum : Int}
    {type : HalRingType} {pipe : SrngTestPipe}
    (init : halSrngTestInitRing hal fresh ringNum type = (hal', ring, 0))
    (source : (hal.srngConfig type).ringDir = .src) (table : TableShape fresh entries)
    (index : fresh.writeIndex = 0)
    (sizeEq : (hal.srngConfig type).entrySize.toNat = size) (sizePos : 1 ≤ size)
    (fits : entries * size < 2 ^ 32)
    (shared : SharedWordsClear hal type ring.halRingId.toNat)
    (own : side.ring pipe = some ring)
    {events : List Event} {state : Posting}
    (reached : run (step side) ⟨hal', pipe⟩ events = some state) :
    ∃ now, side.ring state.pipe = some now ∧ now.halRingId = ring.halRingId ∧
      (state.hal.srcView ring.halRingId.toNat).hp.toNat = now.writeIndex.toNat * size ∧
      now.writeIndex.toNat < entries ∧
      ∀ call,
        ((state.post side now call).2 = 0 →
          ∃ filled, side.ring (state.post side now call).1.pipe = some filled ∧
            filled.mem = storeWords now.mem
              (slotAddr fresh.baseAddrOwnerSpace size now.writeIndex.toNat)
              (side.words call now.writeIndex) ∧
            filled.skb =
              Function.update now.skb now.writeIndex.toNat (some call.skb) ∧
            (side = .send → (side.words call now.writeIndex)[3]? = some now.writeIndex)) ∧
        ((state.post side now call).2 ≠ 0 →
          Refused side ring.halRingId.toNat state (state.post side now call) ∧
          ((state.post side now call).1.hal.srcView ring.halRingId.toNat).published =
            (state.hal.srcView ring.halRingId.toNat).published) := by
  obtain ⟨now, lock⟩ := run_invariant
    (fun state => ∃ now, Lockstep side ring.halRingId.toNat fresh.baseAddrOwnerSpace
      entries size state now)
    (fun _ _ _ stepped ⟨_, lock⟩ => lock.step stepped) reached
    ⟨ring, .start init source table index sizeEq sizePos fits shared own⟩
  have offset : slotOffset entries size now.writeIndex.toNat =
      now.writeIndex.toNat * size := by
    rw [slotOffset, Nat.mod_eq_of_lt lock.index_lt, Nat.mul_comm]
  refine ⟨now, lock.own, UInt32.toNat_inj.mp lock.id_eq, lock.atHp.trans offset,
    lock.index_lt, ?_⟩
  intro call
  obtain ⟨_, refused | stored⟩ := post_cases lock.ready lock.own lock.id_eq call
  · refine ⟨?_, ?_⟩
    · intro done
      exact absurd (refused.ret.symm.trans done) side.full_ne_zero
    · intro _
      exact ⟨refused, by rw [refused.published, lock.published]⟩
  · refine ⟨?_, ?_⟩
    · intro _
      refine ⟨_, stored.ring, ?_, rfl, ?_⟩
      · rw [SrngTestRing.fill, lock.ready.shape.descPtr_eq lock.atHp,
          Nat.mod_eq_of_lt lock.index_lt, lock.ready.base_eq]
      · rintro rfl
        rfl
    · intro failed
      exact absurd stored.ret failed

def twoSlots : SrngTestRing where
  nentries := 2
  nentriesMask := 1
  swIndex := 0
  writeIndex := 0
  baseAddrOwnerSpaceUnaligned := 0x8000
  baseAddrTestSpaceUnaligned := 0x1000
  dmaSize := 48
  baseAddrOwnerSpace := 0x8000
  baseAddrTestSpace := 0x1000
  halRingId := 0
  skb := fun _ => none
  mem := fun _ => 0

/-- A tail beyond the ring, one buffer sent, and the tail back at zero: the second
buffer is refused. -/
theorem posting_lockstep_two :
    let init := halSrngTestInitRing (halSrngInit false 0x2000 fun _ => 0) twoSlots 0
      .testSrng
    let pipe := { SrngTestPipe.zero with srcRing := some init.2.1 }
    let call : PostCall := ⟨3, ⟨50, 0, 0x3000⟩, 0, 0, [], []⟩
    ∃ state now, run (step .send) ⟨init.1, pipe⟩
        [.deviceStore 77, .call call, .deviceStore 0] = some state ∧
      PostSide.send.ring state.pipe = some now ∧
      (state.hal.srcView 125).hp.toNat = now.writeIndex.toNat * 5 ∧
      (state.hal.srcView 125).hp = 5 ∧
      (state.post .send now call).2 = -enobufs ∧
      (state.post .send now call).1.pipe = state.pipe := by
  intro init pipe call
  have last : (run (step .send) ⟨init.1, pipe⟩
      [.deviceStore 77, .call call, .deviceStore 0]).map (fun state =>
        ((state.hal.srcView 125).hp, state.pipe.srcRing.map fun now =>
          (state.post .send now call).2)) = some (5, some (-enobufs)) := by
    decide +kernel
  obtain ⟨state, reached, observed⟩ := Option.map_eq_some_iff.mp last
  rw [Prod.mk.injEq] at observed
  have initEq : halSrngTestInitRing (halSrngInit false 0x2000 fun _ => 0) twoSlots 0
      .testSrng = (init.1, init.2.1, 0) :=
    Prod.ext rfl (Prod.ext rfl (by decide +kernel))
  have idEq : init.2.1.halRingId.toNat = 125 := by decide +kernel
  have clear : SharedWordsClear (halSrngInit false 0x2000 fun _ => 0) .testSrng
      init.2.1.halRingId.toNat := by
    simp [SharedWordsClear, halSrngInit, hwSrngConfigTemplate]
  obtain ⟨now, own, _, position, _, after⟩ := @posting_lockstep .send _ 2 5 _ _ _ _ _ pipe
    initEq rfl ⟨rfl, rfl, 1, rfl⟩ rfl rfl (by decide) (by decide) clear rfl _ _ reached
  rw [idEq] at position
  have full : (state.post .send now call).2 = -enobufs := by
    have answered := observed.2
    rw [show state.pipe.srcRing = some now from own, Option.map_some,
      Option.some_inj] at answered
    exact answered
  have refused := (after call).2 (by rw [full]; decide)
  exact ⟨state, now, reached, own, position, observed.1, full, refused.1.pipe⟩

end Posting

end WirelessSimu
