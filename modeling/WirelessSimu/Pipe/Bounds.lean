import WirelessSimu.Data.Run
import WirelessSimu.Pipe.Transfer

namespace WirelessSimu

open Data Kernel

/-! The memory that the driver reaches while the device stores whatever it likes
into the `rdp` words and the status rings. Nothing here relies on the locks: a
call of one of the pipe functions may stand between any steps of the others. -/

inductive Bounds.Call where
  | idle
  | send (pipe : Nat) (writeIndex : UInt32)
  | enqueue (pipe : Nat) (writeIndex : UInt32)
  | recv (pipe : Nat) (swIndex : UInt32)
  | ending (ringId : Nat)
  deriving DecidableEq, Repr

structure Bounds where
  hal : Hal
  pipes : Nat → SrngTestPipe
  calls : Nat → Bounds.Call

namespace Bounds

/-- `thread` numbers the calls in progress. -/
inductive Event where
  | setup (type : HalRingType) (ringNum macId : Int) (params : HalSrngParams)
  | initRing (pipe : Nat) (type : HalRingType)
  | accessBegin (id : Nat)
  | srcNumFree (id : Nat) (syncHwPtr : Bool)
  | srcGetNextEntry (id : Nat)
  | srcGetNextReaped (id : Nat)
  | dstGetNextEntry (id : Nat)
  | accessEnd (id : Nat)
  | sendBegin (thread pipe : Nat)
  | sendStore (thread skb : Nat) (data : SkBuff) (transferId : UInt32)
  | enqueueBegin (thread pipe : Nat)
  | enqueueStore (thread skb : Nat) (paddr : UInt64)
  | recvBegin (thread pipe : Nat)
  | recvTake (thread : Nat)
  | finish (thread : Nat)
  | deviceStore (index : Nat) (value : UInt32)
  | deviceFill (pipe address : Nat) (value : UInt32)

def ring (pipe : SrngTestPipe) : HalRingType → Option SrngTestRing
  | .testSrng => pipe.srcRing
  | .testSrngDst => pipe.dstRing
  | .testSrngDstStatus => pipe.statusRing

def setRing (pipe : SrngTestPipe) (ring : SrngTestRing) : HalRingType → SrngTestPipe
  | .testSrng => { pipe with srcRing := some ring }
  | .testSrngDst => { pipe with dstRing := some ring }
  | .testSrngDstStatus => { pipe with statusRing := some ring }

/-- Rings of at least one entry of at least one word, whose size fits. -/
def Admissible (hal : Hal) (type : HalRingType) (params : HalSrngParams) : Prop :=
  0 < params.numEntries.toUInt32.toNat ∧ 0 < (hal.srngConfig type).entrySize.toNat ∧
    params.numEntries.toUInt32.toNat * (hal.srngConfig type).entrySize.toNat < 2 ^ 32

instance (hal : Hal) (type : HalRingType) (params : HalSrngParams) :
    Decidable (Admissible hal type params) :=
  inferInstanceAs (Decidable (_ ∧ _ ∧ _))

/-- One call up to its `access_begin`. -/
def begin_ (state : Bounds) (thread : Nat) (call : Call) (ringId : Nat) : Bounds :=
  { state with
    hal := halSrngAccessBegin state.hal ringId
    calls := Function.update state.calls thread call }

/-- The middle part of a call on `pipe`, with what it makes of the pipe. -/
def store_ (state : Bounds) (thread pipe ringId : Nat) (hal : Hal)
    (next : SrngTestPipe) : Bounds where
  hal := hal
  pipes := Function.update state.pipes pipe next
  calls := Function.update state.calls thread (.ending ringId)

def step (state : Bounds) : Event → Option Bounds
  | .setup type ringNum macId params =>
      if Admissible state.hal type params then
        some { state with
          hal := (halSrngSetup state.hal (fun _ => 0) type ringNum macId params).1 }
      else none
  | .initRing pipe type =>
      match ring (state.pipes pipe) type with
      | none => none
      | some test =>
          if Admissible state.hal type test.params then
            let (hal, test, _) := halSrngTestInitRing state.hal test pipe type
            some { state with
              hal := hal
              pipes := Function.update state.pipes pipe
                (setRing (state.pipes pipe) test type) }
          else none
  | .accessBegin id => some { state with hal := halSrngAccessBegin state.hal id }
  | .srcNumFree id syncHwPtr =>
      some { state with hal := (halSrngSrcNumFree state.hal id syncHwPtr).1 }
  | .srcGetNextEntry id =>
      some { state with hal := (halSrngSrcGetNextEntry state.hal id).1 }
  | .srcGetNextReaped id =>
      some { state with hal := (halSrngSrcGetNextReaped state.hal id).1 }
  | .dstGetNextEntry id =>
      some { state with hal := (halSrngDstGetNextEntry state.hal id).1 }
  | .accessEnd id => some { state with hal := halSrngAccessEnd state.hal id }
  | .sendBegin thread pipe =>
      match (state.pipes pipe).srcRing with
      | none => none
      | some test => some (state.begin_ thread (.send pipe test.writeIndex)
          test.halRingId.toNat)
  | .sendStore thread skb data transferId =>
      match state.calls thread with
      | .send pipe writeIndex =>
          match (state.pipes pipe).srcRing with
          | none => none
          | some test =>
              let (hal, next, _) :=
                halSrngTestSend state.hal test skb data transferId writeIndex
              some (state.store_ thread pipe test.halRingId.toNat hal
                { state.pipes pipe with srcRing := some next })
      | _ => none
  | .enqueueBegin thread pipe =>
      match (state.pipes pipe).dstRing with
      | none => none
      | some test => some (state.begin_ thread (.enqueue pipe test.writeIndex)
          test.halRingId.toNat)
  | .enqueueStore thread skb paddr =>
      match state.calls thread with
      | .enqueue pipe writeIndex =>
          match (state.pipes pipe).dstRing with
          | none => none
          | some test =>
              let (hal, next, _) := testDstEnqueuePipe state.hal (state.pipes pipe)
                test skb paddr writeIndex
              some (state.store_ thread pipe test.halRingId.toNat hal next)
      | _ => none
  | .recvBegin thread pipe =>
      match (state.pipes pipe).dstRing, (state.pipes pipe).statusRing with
      | some dst, some status => some (state.begin_ thread (.recv pipe dst.swIndex)
          status.halRingId.toNat)
      | _, _ => none
  | .recvTake thread =>
      match state.calls thread with
      | .recv pipe swIndex =>
          match (state.pipes pipe).dstRing, (state.pipes pipe).statusRing with
          | some dst, some status =>
              let (hal, next, _) :=
                testDstRecvNext state.hal (state.pipes pipe) dst status swIndex
              some (state.store_ thread pipe status.halRingId.toNat hal next)
          | _, _ => none
      | _ => none
  | .finish thread =>
      match state.calls thread with
      | .ending ringId =>
          some { state with
            hal := halSrngAccessEnd state.hal ringId
            calls := Function.update state.calls thread .idle }
      | _ => none
  | .deviceStore index value =>
      some { state with hal := state.hal.store (.rdp index) value }
  | .deviceFill pipe address value =>
      match (state.pipes pipe).statusRing with
      | none => none
      | some status =>
          some { state with
            pipes := Function.update state.pipes pipe
              { state.pipes pipe with
                statusRing := some
                  { status with mem := Function.update status.mem address value } } }

def start (hal : Hal) (pipes : Nat → SrngTestPipe) : Bounds where
  hal := hal
  pipes := pipes
  calls := fun _ => .idle

/-! A ring is bounded when its cursor stands on one of its entries. The cached
tail and head never matter: they only decide whether the cursor moves. -/

structure RingBounded (srng : HalSrng) : Prop where
  shape : RingShape srng srng.numEntries.toNat srng.entrySize.toNat
  head : srng.ringDir = .src → ∃ count,
    StandsAt srng.numEntries.toNat srng.entrySize.toNat srng.srcRing.hp count
  tail : srng.ringDir = .dst → ∃ count,
    StandsAt srng.numEntries.toNat srng.entrySize.toNat srng.dstRing.tp count

def RingsBounded (hal : Hal) : Prop :=
  ∀ id, (hal.srngList id).initialized ≠ 0 → RingBounded (hal.srngList id)

/-- Index `slot` of the ring, as an address. -/
def InRing (srng : HalSrng) (desc : Nat) : Prop :=
  ∃ slot, slot < srng.numEntries.toNat ∧
    desc = slotAddr srng.ringBaseVaddr srng.entrySize.toNat slot

theorem RingBounded.inRing {srng : HalSrng} (bounded : RingBounded srng)
    {pointer : UInt32} {count : Nat}
    (at_ : StandsAt srng.numEntries.toNat srng.entrySize.toNat pointer count) :
    InRing srng (descPtr srng pointer) :=
  ⟨_, Nat.mod_lt count bounded.shape.entries_pos, bounded.shape.descPtr_eq at_⟩

section Rings

variable {hal : Hal} {id : Nat}

theorem RingsBounded.setSrng (bounded : RingsBounded hal) {srng : HalSrng}
    (kept : srng.initialized ≠ 0 → RingBounded srng) :
    RingsBounded (hal.setSrng id srng) := by
  intro other initialized
  by_cases own : other = id
  · subst own
    rw [Hal.srngList_setSrng_self] at initialized ⊢
    exact kept initialized
  · rw [Hal.srngList_setSrng_of_ne _ _ own] at initialized ⊢
    exact bounded other initialized

theorem RingsBounded.store (bounded : RingsBounded hal) (pointer : WordPtr)
    (value : UInt32) : RingsBounded (hal.store pointer value) := by
  intro id
  rw [Hal.srngList_store]
  exact bounded id

theorem RingsBounded.setSrc (bounded : RingsBounded hal)
    {hp reapHp cachedTp lastTp : UInt32}
    (head : RingBounded (hal.srngList id) → (hal.srngList id).ringDir = .src →
      ∃ count, StandsAt (hal.srngList id).numEntries.toNat
        (hal.srngList id).entrySize.toNat hp count) :
    RingsBounded (hal.setSrc id hp reapHp cachedTp lastTp) := by
  refine bounded.setSrng fun initialized => ?_
  have own := bounded id initialized
  exact
    { shape := ⟨own.shape.entries_pos, own.shape.size_pos, rfl, own.shape.ringSize_eq⟩
      head := head own
      tail := own.tail }

theorem RingsBounded.setDst (bounded : RingsBounded hal) {tp cachedHp lastHp : UInt32}
    (tail : RingBounded (hal.srngList id) → (hal.srngList id).ringDir = .dst →
      ∃ count, StandsAt (hal.srngList id).numEntries.toNat
        (hal.srngList id).entrySize.toNat tp count) :
    RingsBounded (hal.setDst id tp cachedHp lastHp) := by
  refine bounded.setSrng fun initialized => ?_
  have own := bounded id initialized
  exact
    { shape := ⟨own.shape.entries_pos, own.shape.size_pos, rfl, own.shape.ringSize_eq⟩
      head := own.head
      tail := tail own }

theorem RingsBounded.accessBegin (bounded : RingsBounded hal) (id : Nat) :
    RingsBounded (halSrngAccessBegin hal id) := by
  cases dir : (hal.srngList id).ringDir with
  | src =>
      rw [halSrngAccessBegin_src dir]
      exact bounded.setSrc RingBounded.head
  | dst =>
      rw [halSrngAccessBegin_dst dir]
      exact bounded.setDst RingBounded.tail

theorem RingsBounded.accessEnd (bounded : RingsBounded hal) (id : Nat) :
    RingsBounded (halSrngAccessEnd hal id) := by
  unfold halSrngAccessEnd
  cases dir : (hal.srngList id).ringDir with
  | src =>
      have moved : RingsBounded (hal.setSrc id (hal.srcView id).hp
          (hal.srcView id).reapHp (hal.srcView id).cachedTp
          (hal.load (hal.srngList id).srcRing.tpAddr)) :=
        bounded.setSrc RingBounded.head
      simp only [Hal.setSrc, Hal.srcView, dir] at moved
      simp only [dir]
      split
      · exact moved.store _ _
      · exact moved.store _ _
  | dst =>
      have moved : RingsBounded (hal.setDst id (hal.dstView id).tp
          (hal.dstView id).cachedHp (hal.load (hal.srngList id).dstRing.hpAddr)) :=
        bounded.setDst RingBounded.tail
      simp only [Hal.setDst, Hal.dstView, dir] at moved
      simp only [dir]
      split
      · exact moved.store _ _
      · exact moved.store _ _

theorem RingsBounded.srcNumFree (bounded : RingsBounded hal) (id : Nat)
    (syncHwPtr : Bool) : RingsBounded (halSrngSrcNumFree hal id syncHwPtr).1 := by
  cases syncHwPtr with
  | false => exact bounded
  | true => exact bounded.setSrc RingBounded.head

theorem RingsBounded.srcGetNextEntry (bounded : RingsBounded hal) (id : Nat) :
    RingsBounded (halSrngSrcGetNextEntry hal id).1 := by
  rw [halSrngSrcGetNextEntry_def]
  simp only
  split
  · exact bounded
  · refine bounded.setSrc fun own dir => ?_
    obtain ⟨count, at_⟩ := own.head dir
    exact ⟨_, own.shape.advance_mod at_⟩

theorem RingsBounded.srcGetNextReaped (bounded : RingsBounded hal) (id : Nat) :
    RingsBounded (halSrngSrcGetNextReaped hal id).1 := by
  rw [halSrngSrcGetNextReaped_eq]
  split
  · exact bounded
  · refine bounded.setSrc fun own dir => ?_
    obtain ⟨count, at_⟩ := own.head dir
    exact ⟨_, own.shape.advance_mod at_⟩

theorem RingsBounded.dstGetNextEntry (bounded : RingsBounded hal) (id : Nat) :
    RingsBounded (halSrngDstGetNextEntry hal id).1 := by
  rw [halSrngDstGetNextEntry_def]
  split
  · exact bounded
  · refine bounded.setDst fun own dir => ?_
    obtain ⟨count, at_⟩ := own.tail dir
    exact ⟨_, own.shape.advance_compare at_⟩

theorem halSrngSetup_srngList {mem : Nat → UInt32} {type : HalRingType}
    {ringNum macId : Int} {params : HalSrngParams} :
    (halSrngSetup hal mem type ringNum macId params).1.srngList = hal.srngList ∨
      ∃ id, (halSrngSetup hal mem type ringNum macId params).1.srngList =
        Function.update hal.srngList id
          (srngSetupRing hal (hal.srngList id) type id params) := by
  unfold halSrngSetup
  simp only
  split
  · exact .inl rfl
  · right
    refine ⟨(halSrngGetRingId hal type ringNum macId).toNat, ?_⟩
    split
    · rfl
    · rw [srngList_hwInit]
      rfl

theorem srngSetupRing_bounded {type : HalRingType} {params : HalSrngParams}
    (admissible : Admissible hal type params) (old : HalSrng) (id : Nat) :
    RingBounded (srngSetupRing hal old type id params) := by
  have shape := @srngSetupRing_shape hal type params old id
    _ _ rfl rfl admissible.1 admissible.2.1 admissible.2.2
  rw [← shape.entrySize_eq] at shape
  refine ⟨shape, fun dir => ⟨0, ?_⟩, fun dir => ⟨0, ?_⟩⟩
  · have head : (srngSetupRing hal old type id params).srcRing.hp = 0 := by
      simp only [srngSetupRing] at dir ⊢
      rw [dir]
    rw [head]
    exact .zero _ _
  · have tail : (srngSetupRing hal old type id params).dstRing.tp = 0 := by
      simp only [srngSetupRing] at dir ⊢
      rw [dir]
    rw [tail]
    exact .zero _ _

theorem RingsBounded.setup (bounded : RingsBounded hal) {type : HalRingType}
    {params : HalSrngParams} (admissible : Admissible hal type params)
    (mem : Nat → UInt32) (ringNum macId : Int) :
    RingsBounded (halSrngSetup hal mem type ringNum macId params).1 := by
  obtain same | ⟨fresh, changed⟩ :=
    @halSrngSetup_srngList hal mem type ringNum macId params
  · intro other
    rw [same]
    exact bounded other
  · intro other
    rw [changed]
    by_cases own : other = fresh
    · subst own
      rw [Function.update_self]
      intro _
      exact srngSetupRing_bounded admissible _ _
    · rw [Function.update_of_ne own]
      exact bounded other

end Rings

/-! The tables. A call in progress holds an index that was read earlier, so the
table it belongs to must keep its size. -/

structure TableBounded (test : SrngTestRing) : Prop where
  shape : TableShape test test.nentries.toNat
  swIndex_lt : test.swIndex.toNat < test.nentries.toNat
  writeIndex_lt : test.writeIndex.toNat < test.nentries.toNat

def PipeBounded (pipe : SrngTestPipe) : Prop :=
  ∀ type test, ring pipe type = some test → TableBounded test

def PipeKept (pipe next : SrngTestPipe) : Prop :=
  ∀ type test, ring pipe type = some test →
    ∃ test', ring next type = some test' ∧ test'.nentries = test.nentries

def InTable (pipe : SrngTestPipe) (type : HalRingType) (index : UInt32) : Prop :=
  ∃ test, ring pipe type = some test ∧ index.toNat < test.nentries.toNat

/-- The index that a call in progress will use lies in its table. -/
def CallBounded (pipes : Nat → SrngTestPipe) : Call → Prop
  | .idle => True
  | .send pipe writeIndex => InTable (pipes pipe) .testSrng writeIndex
  | .enqueue pipe writeIndex => InTable (pipes pipe) .testSrngDst writeIndex
  | .recv pipe swIndex => InTable (pipes pipe) .testSrngDst swIndex
  | .ending _ => True

structure Inv (state : Bounds) : Prop where
  rings : RingsBounded state.hal
  pipes : ∀ pipe, PipeBounded (state.pipes pipe)
  calls : ∀ thread, CallBounded state.pipes (state.calls thread)

section Tables

variable {pipe next : SrngTestPipe} {type : HalRingType} {test test' : SrngTestRing}

/-- `next` is `pipe` with the ring of one type replaced. -/
def Replaced (pipe next : SrngTestPipe) (type : HalRingType) (test' : SrngTestRing) :
    Prop :=
  ring next type = some test' ∧ ∀ other, other ≠ type → ring next other = ring pipe other

theorem Replaced.bounded (replaced : Replaced pipe next type test')
    (bounded : PipeBounded pipe) (table : TableBounded test') : PipeBounded next := by
  intro other found lookup
  by_cases own : other = type
  · subst own
    rw [replaced.1] at lookup
    cases lookup
    exact table
  · rw [replaced.2 other own] at lookup
    exact bounded other found lookup

theorem Replaced.kept (replaced : Replaced pipe next type test')
    (present : ring pipe type = some test) (same : test'.nentries = test.nentries) :
    PipeKept pipe next := by
  intro other found lookup
  by_cases own : other = type
  · subst own
    rw [present] at lookup
    cases lookup
    exact ⟨test', replaced.1, same⟩
  · exact ⟨found, (replaced.2 other own).trans lookup, rfl⟩

theorem replaced_setRing (pipe : SrngTestPipe) (type : HalRingType)
    (test' : SrngTestRing) : Replaced pipe (setRing pipe test' type) type test' := by
  constructor
  · cases type <;> rfl
  · intro other different
    cases type <;> cases other <;> first | contradiction | rfl

theorem PipeKept.refl (pipe : SrngTestPipe) : PipeKept pipe pipe :=
  fun _ test lookup => ⟨test, lookup, rfl⟩

theorem InTable.mono (kept : PipeKept pipe next) {index : UInt32}
    (inside : InTable pipe type index) : InTable next type index := by
  obtain ⟨test, lookup, bound⟩ := inside
  obtain ⟨test', found, same⟩ := kept type test lookup
  exact ⟨test', found, by rwa [same]⟩

theorem CallBounded.mono {pipes pipes' : Nat → SrngTestPipe}
    (kept : ∀ index, PipeKept (pipes index) (pipes' index)) {call : Call}
    (bounded : CallBounded pipes call) : CallBounded pipes' call := by
  cases call with
  | idle => trivial
  | send pipe writeIndex => exact InTable.mono (kept pipe) bounded
  | enqueue pipe writeIndex => exact InTable.mono (kept pipe) bounded
  | recv pipe swIndex => exact InTable.mono (kept pipe) bounded
  | ending ringId => trivial

theorem TableBounded.fill (table : TableBounded test) (desc : Nat)
    (words : List UInt32) (skb : Nat) (writeIndex : UInt32) :
    TableBounded (test.fill desc words skb writeIndex) where
  shape := ⟨rfl, table.shape.mask_eq, table.shape.power⟩
  swIndex_lt := table.swIndex_lt
  writeIndex_lt := table.shape.nextIndex_lt writeIndex

theorem TableBounded.take (table : TableBounded test) (swIndex : UInt32) :
    TableBounded (test.take swIndex) where
  shape := ⟨rfl, table.shape.mask_eq, table.shape.power⟩
  swIndex_lt := table.shape.nextIndex_lt swIndex
  writeIndex_lt := table.writeIndex_lt

theorem halSrngTestSend_bounded {hal : Hal} (rings : RingsBounded hal)
    (table : TableBounded test) (skb : Nat) (data : SkBuff)
    (transferId writeIndex : UInt32) :
    RingsBounded (halSrngTestSend hal test skb data transferId writeIndex).1 ∧
      TableBounded (halSrngTestSend hal test skb data transferId writeIndex).2.1 ∧
      (halSrngTestSend hal test skb data transferId writeIndex).2.1.nentries =
        test.nentries := by
  obtain ⟨refused, _⟩ | ⟨hal', desc, result, stored⟩ := storeEntry_cases hal test
    enobufs skb writeIndex (testSrcSetDesc data transferId 0 writeIndex)
  · rw [halSrngTestSend, refused]
    exact ⟨rings, table, rfl⟩
  · have moved := rings.srcGetNextEntry test.halRingId.toNat
    rw [result] at moved
    rw [halSrngTestSend, stored]
    exact ⟨moved, table.fill .., rfl⟩

theorem testDstEnqueuePipe_bounded {hal : Hal} (rings : RingsBounded hal)
    (bounded : PipeBounded pipe) (present : pipe.dstRing = some test) (skb : Nat)
    (paddr : UInt64) (writeIndex : UInt32) :
    RingsBounded (testDstEnqueuePipe hal pipe test skb paddr writeIndex).1 ∧
      PipeBounded (testDstEnqueuePipe hal pipe test skb paddr writeIndex).2.1 ∧
      PipeKept pipe (testDstEnqueuePipe hal pipe test skb paddr writeIndex).2.1 := by
  obtain ⟨refused, _⟩ | ⟨hal', desc, result, stored⟩ :=
    testDstEnqueuePipe_cases hal pipe test skb paddr writeIndex
  · rw [refused]
    exact ⟨rings, bounded, .refl pipe⟩
  · have moved := rings.srcGetNextEntry test.halRingId.toNat
    rw [result] at moved
    rw [stored]
    have replaced : Replaced pipe
        (pipe.fill test desc (testDstSetDesc paddr) skb writeIndex)
        .testSrngDst (test.fill desc (testDstSetDesc paddr) skb writeIndex) := by
      refine ⟨rfl, fun other different => ?_⟩
      cases other <;> first | contradiction | rfl
    exact ⟨moved, replaced.bounded bounded
      ((bounded .testSrngDst test present).fill ..), replaced.kept present rfl⟩

theorem testDstRecvNext_bounded {hal : Hal} (rings : RingsBounded hal)
    (bounded : PipeBounded pipe) (present : pipe.dstRing = some test)
    (status : SrngTestRing) (swIndex : UInt32) :
    RingsBounded (testDstRecvNext hal pipe test status swIndex).1 ∧
      PipeBounded (testDstRecvNext hal pipe test status swIndex).2.1 ∧
      PipeKept pipe (testDstRecvNext hal pipe test status swIndex).2.1 := by
  have moved := rings.dstGetNextEntry status.halRingId.toNat
  obtain ⟨_, refused⟩ | ⟨hal', desc, result, _, refused⟩ |
      ⟨hal', desc, result, _, taken⟩ :=
    testDstRecvNext_cases hal pipe test status swIndex
  · rw [refused]
    exact ⟨rings, bounded, .refl pipe⟩
  · rw [result] at moved
    rw [refused]
    exact ⟨moved, bounded, .refl pipe⟩
  · rw [result] at moved
    rw [taken]
    have replaced : Replaced pipe (pipe.take test swIndex) .testSrngDst
        (test.take swIndex) := by
      refine ⟨rfl, fun other different => ?_⟩
      cases other <;> first | contradiction | rfl
    exact ⟨moved, replaced.bounded bounded
      ((bounded .testSrngDst test present).take swIndex), replaced.kept present rfl⟩

end Tables

section Steps

variable {state next : Bounds}

theorem Inv.ringStep (inv : Inv state) {hal : Hal} (rings : RingsBounded hal) :
    Inv { state with hal := hal } :=
  ⟨rings, inv.pipes, inv.calls⟩

theorem Inv.begin_ (inv : Inv state) (thread ringId : Nat) {call : Call}
    (bounded : CallBounded state.pipes call) :
    Inv (state.begin_ thread call ringId) where
  rings := inv.rings.accessBegin ringId
  pipes := inv.pipes
  calls := by
    intro other
    simp only [Bounds.begin_]
    by_cases own : other = thread
    · rw [own, Function.update_self]
      exact bounded
    · rw [Function.update_of_ne own]
      exact inv.calls other

/-- A step that replaces one pipe by a bounded one with the same tables. -/
theorem Inv.setPipe (inv : Inv state) {hal : Hal} {pipe : Nat}
    {changed : SrngTestPipe} (rings : RingsBounded hal)
    (bounded : PipeBounded changed) (kept : PipeKept (state.pipes pipe) changed) :
    Inv { state with
      hal := hal, pipes := Function.update state.pipes pipe changed } where
  rings := rings
  pipes := by
    intro other
    simp only
    by_cases own : other = pipe
    · rw [own, Function.update_self]
      exact bounded
    · rw [Function.update_of_ne own]
      exact inv.pipes other
  calls := by
    intro thread
    refine CallBounded.mono (fun other => ?_) (inv.calls thread)
    simp only
    by_cases own : other = pipe
    · rw [own, Function.update_self]
      exact kept
    · rw [Function.update_of_ne own]
      exact .refl _

theorem Inv.setCall (inv : Inv state) (thread : Nat) {call : Call}
    (bounded : CallBounded state.pipes call) :
    Inv { state with calls := Function.update state.calls thread call } where
  rings := inv.rings
  pipes := inv.pipes
  calls := by
    intro other
    simp only
    by_cases own : other = thread
    · rw [own, Function.update_self]
      exact bounded
    · rw [Function.update_of_ne own]
      exact inv.calls other

theorem Inv.store_ (inv : Inv state) (thread ringId : Nat) {hal : Hal} {pipe : Nat}
    {changed : SrngTestPipe} (rings : RingsBounded hal)
    (bounded : PipeBounded changed) (kept : PipeKept (state.pipes pipe) changed) :
    Inv (state.store_ thread pipe ringId hal changed) := by
  have ended : CallBounded (Function.update state.pipes pipe changed)
      (.ending ringId) := trivial
  exact (inv.setPipe rings bounded kept).setCall thread ended

theorem Inv.initRing (inv : Inv state) {pipe : Nat} {type : HalRingType}
    {test : SrngTestRing} (present : ring (state.pipes pipe) type = some test)
    (admissible : Admissible state.hal type test.params) :
    Inv { state with
      hal := (halSrngTestInitRing state.hal test pipe type).1
      pipes := Function.update state.pipes pipe
        (setRing (state.pipes pipe)
          (halSrngTestInitRing state.hal test pipe type).2.1 type) } := by
  have table := inv.pipes pipe type test present
  have moved := inv.rings.setup admissible test.mem pipe 0
  have replaced := replaced_setRing (state.pipes pipe) type
    (halSrngTestInitRing state.hal test pipe type).2.1
  have outcome : RingsBounded (halSrngTestInitRing state.hal test pipe type).1 ∧
      TableBounded (halSrngTestInitRing state.hal test pipe type).2.1 ∧
      (halSrngTestInitRing state.hal test pipe type).2.1.nentries =
        test.nentries := by
    have same : ∀ mem halRingId,
        TableBounded { test with mem := mem, halRingId := halRingId } :=
      fun _ _ => ⟨⟨rfl, table.shape.mask_eq, table.shape.power⟩, table.swIndex_lt,
        table.writeIndex_lt⟩
    unfold halSrngTestInitRing
    generalize halSrngSetup state.hal test.mem type pipe 0 test.params =
      result at moved
    obtain ⟨hal, mem, ret⟩ := result
    simp only
    by_cases failed : ret < 0
    · rw [if_pos failed]
      exact ⟨moved, same mem test.halRingId, rfl⟩
    · rw [if_neg failed]
      exact ⟨moved, same mem _, rfl⟩
  exact inv.setPipe outcome.1
    (replaced.bounded (inv.pipes pipe) outcome.2.1) (replaced.kept present outcome.2.2)

theorem Inv.step (inv : Inv state) {event : Event}
    (stepped : state.step event = some next) : Inv next := by
  cases event with
  | setup type ringNum macId params =>
      simp only [Bounds.step] at stepped
      split at stepped
      next admissible =>
          cases stepped
          exact inv.ringStep (inv.rings.setup admissible _ _ _)
      next => contradiction
  | initRing pipe type =>
      simp only [Bounds.step] at stepped
      split at stepped
      next => contradiction
      next test present =>
          split at stepped
          next admissible =>
              cases stepped
              exact inv.initRing present admissible
          next => contradiction
  | accessBegin id =>
      cases stepped
      exact inv.ringStep (inv.rings.accessBegin id)
  | srcNumFree id syncHwPtr =>
      cases stepped
      exact inv.ringStep (inv.rings.srcNumFree id syncHwPtr)
  | srcGetNextEntry id =>
      cases stepped
      exact inv.ringStep (inv.rings.srcGetNextEntry id)
  | srcGetNextReaped id =>
      cases stepped
      exact inv.ringStep (inv.rings.srcGetNextReaped id)
  | dstGetNextEntry id =>
      cases stepped
      exact inv.ringStep (inv.rings.dstGetNextEntry id)
  | accessEnd id =>
      cases stepped
      exact inv.ringStep (inv.rings.accessEnd id)
  | sendBegin thread pipe =>
      simp only [Bounds.step] at stepped
      split at stepped
      next => contradiction
      next test present =>
          cases stepped
          exact inv.begin_ thread _
            ⟨test, present, (inv.pipes pipe .testSrng test present).writeIndex_lt⟩
  | sendStore thread skb data transferId =>
      simp only [Bounds.step] at stepped
      split at stepped
      next pipe writeIndex call =>
          split at stepped
          next => contradiction
          next test present =>
              cases stepped
              obtain ⟨moved, table, same⟩ := halSrngTestSend_bounded inv.rings
                (inv.pipes pipe .testSrng test present) skb data transferId writeIndex
              have replaced := replaced_setRing (state.pipes pipe) .testSrng
                (halSrngTestSend state.hal test skb data transferId writeIndex).2.1
              exact inv.store_ thread _ moved
                (replaced.bounded (inv.pipes pipe) table) (replaced.kept present same)
      next => contradiction
  | enqueueBegin thread pipe =>
      simp only [Bounds.step] at stepped
      split at stepped
      next => contradiction
      next test present =>
          cases stepped
          exact inv.begin_ thread _
            ⟨test, present, (inv.pipes pipe .testSrngDst test present).writeIndex_lt⟩
  | enqueueStore thread skb paddr =>
      simp only [Bounds.step] at stepped
      split at stepped
      next pipe writeIndex call =>
          split at stepped
          next => contradiction
          next test present =>
              cases stepped
              obtain ⟨moved, bounded, kept⟩ := testDstEnqueuePipe_bounded inv.rings
                (inv.pipes pipe) present skb paddr writeIndex
              exact inv.store_ thread _ moved bounded kept
      next => contradiction
  | recvBegin thread pipe =>
      simp only [Bounds.step] at stepped
      split at stepped
      next dst status present _ =>
          cases stepped
          exact inv.begin_ thread _
            ⟨dst, present, (inv.pipes pipe .testSrngDst dst present).swIndex_lt⟩
      next => contradiction
  | recvTake thread =>
      simp only [Bounds.step] at stepped
      split at stepped
      next pipe swIndex call =>
          split at stepped
          next dst status present _ =>
              cases stepped
              obtain ⟨moved, bounded, kept⟩ := testDstRecvNext_bounded inv.rings
                (inv.pipes pipe) present status swIndex
              exact inv.store_ thread _ moved bounded kept
          next => contradiction
      next => contradiction
  | finish thread =>
      simp only [Bounds.step] at stepped
      split at stepped
      next ringId call =>
          cases stepped
          have idle : CallBounded state.pipes .idle := trivial
          exact (inv.ringStep (inv.rings.accessEnd ringId)).setCall thread idle
      next => contradiction
  | deviceStore index value =>
      cases stepped
      exact inv.ringStep (inv.rings.store _ _)
  | deviceFill pipe address value =>
      simp only [Bounds.step] at stepped
      split at stepped
      next => contradiction
      next status present =>
          cases stepped
          have table := inv.pipes pipe .testSrngDstStatus status present
          have replaced := replaced_setRing (state.pipes pipe) .testSrngDstStatus
            { status with mem := Function.update status.mem address value }
          exact inv.setPipe inv.rings
            (replaced.bounded (inv.pipes pipe)
              ⟨⟨rfl, table.shape.mask_eq, table.shape.power⟩, table.swIndex_lt,
                table.writeIndex_lt⟩)
            (replaced.kept present rfl)

end Steps

theorem srcGetNextEntry_inRing {hal : Hal} {id desc : Nat} (rings : RingsBounded hal)
    (initialized : (hal.srngList id).initialized ≠ 0)
    (dir : (hal.srngList id).ringDir = .src)
    (handed : (halSrngSrcGetNextEntry hal id).2 = some desc ∨
      (halSrngSrcGetNextReaped hal id).2 = some desc) :
    InRing (hal.srngList id) desc := by
  have bounded := rings id initialized
  obtain ⟨count, at_⟩ := bounded.head dir
  have inside := bounded.inRing at_
  rw [halSrngSrcGetNextEntry_def, halSrngSrcGetNextReaped_eq] at handed
  simp only at handed
  rcases handed with entry | reaped
  · split at entry
    · contradiction
    · cases entry
      exact inside
  · split at reaped
    · contradiction
    · cases reaped
      exact inside

theorem dstGetNextEntry_inRing {hal : Hal} {id desc : Nat} (rings : RingsBounded hal)
    (initialized : (hal.srngList id).initialized ≠ 0)
    (dir : (hal.srngList id).ringDir = .dst)
    (handed : (halSrngDstGetNextEntry hal id).2 = some desc) :
    InRing (hal.srngList id) desc := by
  have bounded := rings id initialized
  obtain ⟨count, at_⟩ := bounded.tail dir
  have inside := bounded.inRing at_
  rw [halSrngDstGetNextEntry_def] at handed
  split at handed
  · contradiction
  · cases handed
    exact inside

/-- Whatever the device stores, a returned descriptor is an entry of its ring and
a table is only indexed below its size. -/
theorem memory_in_bounds {hal : Hal} {pipes : Nat → SrngTestPipe}
    (unused : ∀ id, (hal.srngList id).initialized = 0)
    (tables : ∀ pipe type test, ring (pipes pipe) type = some test →
      TableShape test test.nentries.toNat ∧ test.swIndex = 0 ∧ test.writeIndex = 0)
    {events : List Event} {state : Bounds}
    (reached : run step (start hal pipes) events = some state) :
    (∀ id desc, (state.hal.srngList id).initialized ≠ 0 →
      ((state.hal.srngList id).ringDir = .src ∧
          ((halSrngSrcGetNextEntry state.hal id).2 = some desc ∨
            (halSrngSrcGetNextReaped state.hal id).2 = some desc) ∨
        (state.hal.srngList id).ringDir = .dst ∧
          (halSrngDstGetNextEntry state.hal id).2 = some desc) →
      InRing (state.hal.srngList id) desc) ∧
    ∀ thread, CallBounded state.pipes (state.calls thread) := by
  have initial : Inv (start hal pipes) :=
    { rings := fun id initialized => absurd (unused id) initialized
      pipes := by
        intro pipe type test present
        obtain ⟨shape, swIndex, writeIndex⟩ := tables pipe type test present
        refine ⟨shape, ?_, ?_⟩
        · rw [swIndex]
          exact shape.entries_pos
        · rw [writeIndex]
          exact shape.entries_pos
      calls := fun _ => trivial }
  have inv := run_invariant Inv (fun _ _ _ stepped inv => inv.step stepped)
    reached initial
  refine ⟨?_, inv.calls⟩
  rintro id desc initialized (⟨dir, handed⟩ | ⟨dir, handed⟩)
  · exact srcGetNextEntry_inRing inv.rings initialized dir handed
  · exact dstGetNextEntry_inRing inv.rings initialized dir handed

/-- A receive call behind a head word that points far outside the ring. -/
def strayHead : List Event :=
  [.initRing 0 .testSrngDst, .initRing 0 .testSrngDstStatus, .deviceStore 1 0xffffffff,
    .recvBegin 0 0]

theorem memory_in_bounds_stray_head :
    let memory : RingMemory := .small true (some (0x8000, 0x1000))
    let pipe := (halSrngTestAllocPipe (fun _ => memory) .zero 0
      { srngTestDstConfig with destNentries := 4 }).1
    ∃ state, run step (start (halSrngInit false 0x2000 fun _ => 0) fun _ => pipe) strayHead =
        some state ∧
      (halSrngDstGetNextEntry state.hal 1).2 = some 0x8000 ∧
      InRing (state.hal.srngList 1) 0x8000 ∧
      CallBounded state.pipes (state.calls 0) := by
  intro memory pipe
  have seen : (run step (start (halSrngInit false 0x2000 fun _ => 0) fun _ => pipe) strayHead).map
      (fun state => ((halSrngDstGetNextEntry state.hal 1).2,
        (state.hal.srngList 1).initialized, (state.hal.srngList 1).ringDir)) =
      some (some 0x8000, 1, .dst) := by decide +kernel
  obtain ⟨state, reached, values⟩ := Option.map_eq_some_iff.mp seen
  simp only [Prod.mk.injEq] at values
  obtain ⟨handed, initialized, dir⟩ := values
  have tables : ∀ (index : Nat) (type : HalRingType) (test : SrngTestRing),
      ring pipe type = some test →
      TableShape test test.nentries.toNat ∧ test.swIndex = 0 ∧
        test.writeIndex = 0 := by
    rintro - (_ | _ | _) test present
    · cases present
    · cases present
      exact ⟨⟨rfl, rfl, 2, by decide +kernel⟩, rfl, rfl⟩
    · cases present
      exact ⟨⟨rfl, rfl, 2, by decide +kernel⟩, rfl, rfl⟩
  obtain ⟨rings, calls⟩ := memory_in_bounds (fun _ => rfl) tables reached
  exact ⟨state, reached, handed,
    rings 1 0x8000 (by rw [initialized]; decide) (.inr ⟨dir, handed⟩), calls 0⟩

end Bounds

end WirelessSimu
