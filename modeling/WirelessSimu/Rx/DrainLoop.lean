import WirelessSimu.Rx.Hostile

namespace WirelessSimu

open Data Kernel

/-! The receive loop of `wireless_simu_irq_hal_srng_dst_dma_test` on its own, after a
device that keeps no rule and with no device writes while it runs. -/

namespace Rx

/-- A whole call of `recv_next`. Its result is in the drain: `took` after a success,
`flush` after an error, on which the loop ends. -/
def recvNext (rx : Rx) (index : Nat) : Option Rx :=
  run step rx [.recvBegin index, .recvTake, .recvEnd]

/-- The loop with the buffers it obtained. It has no value when it runs out of fuel,
and when it comes to dereference NULL. -/
def drainLoop (index : Nat) : Nat → Rx → Option (Rx × List (Option Nat))
  | 0, _ => none
  | fuel + 1, rx =>
      (rx.recvNext index).bind fun next =>
        match next.drains index with
        | .took _ skb _ =>
            (next.step (.drainTake index)).bind fun after =>
              (drainLoop index fuel after).map fun ended => (ended.1, skb :: ended.2)
        | _ => some (next, [])

/-- The state after a call with this outcome between its two accesses. -/
def recvState (rx : Rx) (index : Nat) (status : SrngTestRing) (list : List Nat)
    (outcome : Hal × SrngTestPipe × Except Int (Option Nat × UInt32)) : Rx :=
  { (rx.recvResult index outcome).setDrain index (afterRecv list outcome.2.2) with
    hal := halSrngAccessEnd outcome.1 status.halRingId.toNat
    lock := .free }

section Call

variable {rx : Rx} {index : Nat} {list : List Nat} {dst status : SrngTestRing}

theorem rings_recvResult (rings : rx.rings index = some (dst, status)) (hal : Hal)
    (swIndex : UInt32) :
    ∃ dst', (rx.recvResult index
      (testDstRecvNext hal (rx.pipes index) dst status swIndex)).rings index =
        some (dst', status) := by
  obtain ⟨_, outcome⟩ | ⟨_, _, _, _, outcome⟩ | ⟨_, _, _, _, outcome⟩ :=
    testDstRecvNext_cases hal (rx.pipes index) dst status swIndex
  · rw [outcome, recvResult_error]
    exact ⟨dst, rings⟩
  · rw [outcome, recvResult_error]
    exact ⟨dst, rings⟩
  · rw [outcome]
    exact ⟨dst.take swIndex, rings_recvResult_take rings _ _ _⟩

theorem step_recvBegin (live : rx.live = true) (free : rx.lock = .free)
    (receiving : rx.drains index = .recv list)
    (rings : rx.rings index = some (dst, status)) :
    rx.step (.recvBegin index) = some
      { rx with
        hal := halSrngAccessBegin rx.hal status.halRingId.toNat
        lock := .recvBegun index dst.swIndex } := by
  simp only [step, live, recvBegin, free, receiving, rings]
  rfl

theorem step_recvTake {swIndex : UInt32} (live : rx.live = true)
    (held : rx.lock = .recvBegun index swIndex)
    (rings : rx.rings index = some (dst, status)) :
    rx.step .recvTake = some (rx.recvResult index
      (testDstRecvNext rx.hal (rx.pipes index) dst status swIndex)) := by
  simp only [step, live, recvTake, held, rings]
  rfl

theorem step_recvEnd {result : Except Int (Option Nat × UInt32)} (live : rx.live = true)
    (held : rx.lock = .recvDone index result) (receiving : rx.drains index = .recv list)
    (rings : rx.rings index = some (dst, status)) :
    rx.step .recvEnd = some
      { rx.setDrain index (afterRecv list result) with
        hal := halSrngAccessEnd rx.hal status.halRingId.toNat
        lock := .free } := by
  simp only [step, live, recvEnd, held, receiving, rings]
  rfl

/-- A buffer in hand is kept or dropped, and the loop goes on. -/
theorem step_drainTake {skb : Nat} {nbytes : UInt32} (blank : rx.BlankHeld)
    (live : rx.live = true) (took : rx.drains index = .took list (some skb) nbytes) :
    ∃ after rest, rx.step (.drainTake index) = some after ∧ after.hal = rx.hal ∧
      after.live = rx.live ∧ after.lock = rx.lock ∧ after.drains index = .recv rest ∧
      after.rings index = rx.rings index := by
  have taken : rx.step (.drainTake index) = rx.drainTake index := by simp [step, live]
  rw [taken, drainTake, took]
  simp only
  split
  next long => exact ⟨_, list, rfl, rfl, rfl, rfl, Function.update_self .., rfl⟩
  next fits =>
      obtain ⟨buffers, put⟩ := blank.skbPut took fits
      rw [unmapped] at put
      rw [put]
      exact ⟨_, list ++ [skb], rfl, rfl, rfl, rfl, Function.update_self .., rfl⟩

theorem recvNext_eq (live : rx.live = true) (free : rx.lock = .free)
    (receiving : rx.drains index = .recv list)
    (rings : rx.rings index = some (dst, status)) :
    rx.recvNext index = some (rx.recvState index status list
      (testDstRecvNext (halSrngAccessBegin rx.hal status.halRingId.toNat) (rx.pipes index)
        dst status dst.swIndex)) := by
  obtain ⟨dst', after⟩ := rings_recvResult rings
    (halSrngAccessBegin rx.hal status.halRingId.toNat) dst.swIndex
  have taken := @step_recvTake
    { rx with
      hal := halSrngAccessBegin rx.hal status.halRingId.toNat
      lock := .recvBegun index dst.swIndex } index dst status dst.swIndex live rfl rings
  have ended := @step_recvEnd (rx.recvResult index
    (testDstRecvNext (halSrngAccessBegin rx.hal status.halRingId.toNat) (rx.pipes index)
      dst status dst.swIndex)) index list dst' status _ live rfl receiving after
  rw [recvNext, run_cons_eq_some]
  refine ⟨_, step_recvBegin live free receiving rings, ?_⟩
  rw [run_cons_eq_some]
  refine ⟨_, taken, ?_⟩
  rw [run_cons_eq_some]
  exact ⟨_, ended, rfl⟩

end Call

end Rx

/-! The status ring over one call. -/

section Tail

variable {hal : Hal} {id base entries size count : Nat}

/-- The ring after `access_begin`, `dst_get_next_entry` and `access_end`. -/
structure TailMoved (hal final : Hal) (id entries size count : Nat) : Prop where
  same : SameRing (hal.srngList id) (final.srngList id)
  shadow : (final.dstView id).shadow = (hal.dstView id).shadow
  published : (final.dstView id).published = (final.dstView id).tp
  stands : StandsAt entries size (final.dstView id).tp count

theorem accessBegin_getNext (ready : RingReady hal id .dst base entries size)
    (stands : StandsAt entries size (hal.dstView id).tp count) :
    ((hal.dstView id).tp = (hal.dstView id).shadow ∧
      (halSrngDstGetNextEntry (halSrngAccessBegin hal id) id).2 = none ∧
      TailMoved hal (halSrngAccessEnd
        (halSrngDstGetNextEntry (halSrngAccessBegin hal id) id).1 id) id entries size count) ∨
    ((hal.dstView id).tp ≠ (hal.dstView id).shadow ∧
      (halSrngDstGetNextEntry (halSrngAccessBegin hal id) id).2 =
        some (descPtr (hal.srngList id) (hal.dstView id).tp) ∧
      TailMoved hal (halSrngAccessEnd
        (halSrngDstGetNextEntry (halSrngAccessBegin hal id) id).1 id) id entries size
        (count + 1)) := by
  have begunSame := @same_accessBegin hal id id
  have begun := ready.of_same begunSame
  rw [halSrngDstGetNextEntry_def, dstView_accessBegin ready]
  simp only
  split
  next caught =>
      refine .inl ⟨caught, rfl, begunSame.trans (same_accessEnd id), ?_, ?_, ?_⟩
      · rw [dstView_accessEnd begun, dstView_accessBegin ready]
      · rw [dstView_accessEnd begun]
      · rw [dstView_accessEnd begun, dstView_accessBegin ready]
        exact stands
  next ahead =>
      have advanced := begun.shape.advance_compare stands
      generalize (if (hal.dstView id).tp + ((halSrngAccessBegin hal id).srngList id).entrySize =
          ((halSrngAccessBegin hal id).srngList id).ringSize then 0
        else (hal.dstView id).tp + ((halSrngAccessBegin hal id).srngList id).entrySize) = tp
        at advanced ⊢
      have movedSame := (halSrngAccessBegin hal id).same_setDst id id tp (hal.dstView id).shadow
        ((halSrngAccessBegin hal id).srngList id).dstRing.lastHp
      have moved := begun.of_same movedSame
      refine .inr ⟨ahead, ?_, (begunSame.trans movedSame).trans (same_accessEnd id), ?_, ?_, ?_⟩
      · rw [descPtr, descPtr, begunSame.ringBaseVaddr]
      · rw [dstView_accessEnd moved, Hal.dstView_setDst, dstView_accessBegin ready]
      · rw [dstView_accessEnd moved]
      · rw [dstView_accessEnd moved, Hal.dstView_setDst]
        exact advanced

end Tail

/-! One call of `recv_next` in a state that such a device may have left. -/

/-- The length that the device gives in the status entry at this tail. -/
def Rx.statusLength (rx : Rx) (status : SrngTestRing) (tail : UInt32) : UInt32 :=
  testDstGetLength status.mem (descPtr (rx.hal.srngList status.halRingId.toNat) tail)

/-- The three ways out of `recv_next`, with the tail of the status ring after each. -/
inductive RecvCall (rx next : Rx) (index : Nat) (list : List Nat)
    (dst status : SrngTestRing) (entries count : Nat) : Prop
  | caught
      (empty : (rx.hal.dstView status.halRingId.toNat).tp =
        (rx.hal.dstView status.halRingId.toNat).shadow)
      (drain : next.drains index = .flush list) (pipe : next.pipes index = rx.pipes index)
      (tail : TailMoved rx.hal next.hal status.halRingId.toNat entries 2 count)
  | blank
      (ahead : (rx.hal.dstView status.halRingId.toNat).tp ≠
        (rx.hal.dstView status.halRingId.toNat).shadow)
      (zero : rx.statusLength status (rx.hal.dstView status.halRingId.toNat).tp = 0)
      (drain : next.drains index = .flush list) (pipe : next.pipes index = rx.pipes index)
      (tail : TailMoved rx.hal next.hal status.halRingId.toNat entries 2 (count + 1))
  | took
      (ahead : (rx.hal.dstView status.halRingId.toNat).tp ≠
        (rx.hal.dstView status.halRingId.toNat).shadow)
      (nonzero : rx.statusLength status (rx.hal.dstView status.halRingId.toNat).tp ≠ 0)
      (drain : next.drains index = .took list (dst.skb dst.swIndex.toNat)
        (rx.statusLength status (rx.hal.dstView status.halRingId.toNat).tp))
      (pipe : next.pipes index = (rx.pipes index).take dst dst.swIndex)
      (tail : TailMoved rx.hal next.hal status.halRingId.toNat entries 2 (count + 1))

section Receive

variable {layout : RxLayout} {rx : Rx} {index count : Nat} {dst status : SrngTestRing}

theorem HostileAt.recvCall (at_ : HostileAt layout rx index dst status)
    (stands : StandsAt (layout.entries index) 2
      (rx.hal.dstView status.halRingId.toNat).tp count) (list : List Nat) :
    RecvCall rx (rx.recvState index status list
      (testDstRecvNext (halSrngAccessBegin rx.hal status.halRingId.toNat) (rx.pipes index)
        dst status dst.swIndex)) index list dst status (layout.entries index) count := by
  have moved := accessBegin_getNext at_.held.statusReady stands
  simp only [Rx.pipe, RxPipe.statusId] at moved
  obtain ⟨entry, outcome⟩ | ⟨hal', desc, entry, zero, outcome⟩ |
    ⟨hal', desc, entry, nonzero, outcome⟩ := testDstRecvNext_cases
      (halSrngAccessBegin rx.hal status.halRingId.toNat) (rx.pipes index) dst status
      dst.swIndex
  · rw [entry] at moved
    rw [outcome]
    obtain ⟨empty, _, tail⟩ | ⟨_, found, _⟩ := moved
    · exact .caught empty (Function.update_self ..) (Function.update_self ..) tail
    · cases found
  · rw [entry] at moved
    rw [outcome]
    obtain ⟨_, missing, _⟩ | ⟨ahead, found, tail⟩ := moved
    · cases missing
    · cases found
      exact .blank ahead zero (Function.update_self ..) (Function.update_self ..) tail
  · rw [entry] at moved
    rw [outcome]
    obtain ⟨_, missing, _⟩ | ⟨ahead, found, tail⟩ := moved
    · cases missing
    · cases found
      exact .took ahead nonzero (Function.update_self ..) (Function.update_self ..) tail

/-- The loop is about to call `recv_next`. -/
structure DrainReady (layout : RxLayout) (rx : Rx) (index : Nat)
    (dst status : SrngTestRing) : Prop where
  inv : HostileInv layout rx
  live : rx.live = true
  free : rx.lock = .free
  receiving : ∃ list, rx.drains index = .recv list
  rings : rx.rings index = some (dst, status)

theorem DrainReady.at_ (ready : DrainReady layout rx index dst status) :
    HostileAt layout rx index dst status := by
  obtain ⟨list, receiving⟩ := ready.receiving
  exact ready.inv.at_rings (ready.inv.control.drains_lt index (by rw [receiving]; simp))
    ready.rings

/-- Every run beside a device that writes what it likes. -/
theorem DrainReady.of_run {hal hal' : Hal} {count : Nat}
    {memory : Nat → Fin 3 → RingMemory} {attrs : Nat → SrngTestAttr}
    {pipes : Nat → SrngTestPipe} (table : RxTable hal.srngConfig)
    (twoLe : ∀ index, index < count →
      2 ≤ (ringEntries (attrs index).destNentries).toNat)
    (done : dstTestSetup hal count memory attrs = (hal', pipes, none))
    {events : List Rx.HostileEvent} {list : List Nat}
    (reached : run Rx.hostileStep (.start hal' count pipes) events = some rx)
    (live : rx.live = true) (free : rx.lock = .free)
    (receiving : rx.drains index = .recv list) :
    ∃ dst status, DrainReady (rxLayout hal.srngConfig attrs) rx index dst status := by
  have inv := HostileInv.run reached (HostileInv.start table twoLe done) live
  have inRange := inv.control.drains_lt index (by rw [receiving]; simp)
  obtain ⟨dst, status, at_⟩ := inv.pipes index inRange
  exact ⟨dst, status, inv, live, free, ⟨list, receiving⟩, at_.rings⟩

/-- Whatever the device did before, the next call can be made, and is one of the
three. -/
theorem DrainReady.recvNext (ready : DrainReady layout rx index dst status)
    (stands : StandsAt (layout.entries index) 2
      (rx.hal.dstView status.halRingId.toNat).tp count) :
    ∃ next list, rx.recvNext index = some next ∧ HostileInv layout next ∧
      next.live = true ∧ next.lock = .free ∧
      RecvCall rx next index list dst status (layout.entries index) count := by
  obtain ⟨list, receiving⟩ := ready.receiving
  have called := Rx.recvNext_eq ready.live ready.free receiving ready.rings
  refine ⟨_, list, called, ?_, ready.live, rfl, ready.at_.recvCall stands list⟩
  exact @HostileInv.run layout
    [.module (.recvBegin index), .module .recvTake, .module .recvEnd] _ _ called ready.inv
    ready.live

/-- The tail of the status ring, kept and published, and all that the pipe holds: its
table with `sw_index`, and the count of needed buffers. -/
structure Rx.SamePairing (rx next : Rx) (index : Nat) (status : SrngTestRing) : Prop where
  tp : (next.hal.dstView status.halRingId.toNat).tp =
    (rx.hal.dstView status.halRingId.toNat).tp
  published : (next.hal.dstView status.halRingId.toNat).published =
    (rx.hal.dstView status.halRingId.toNat).published
  pipe : next.pipes index = rx.pipes index

/-- An entry further is another place of a ring of two entries or more. -/
theorem StandsAt.ne_succ {entries size : Nat} {first second : UInt32} (twoLe : 2 ≤ entries)
    (sizePos : 0 < size) (atFirst : StandsAt entries size first count)
    (atSecond : StandsAt entries size second (count + 1)) : second ≠ first := by
  intro equal
  have same := (StandsAt.eq_iff sizePos atFirst atSecond (Nat.le_succ count) (by omega)).mp
    equal.symm
  omega

/-- A failed call changes nothing exactly when the ring was empty: an entry of length
zero is passed over in the status ring, but not in the table of buffers. -/
theorem DrainReady.recvNext_atomic (ready : DrainReady layout rx index dst status) :
    ∃ next, rx.recvNext index = some next ∧
      ((∀ rest, next.drains index = .flush rest → rx.SamePairing next index status) ↔
        (rx.hal.dstView status.halRingId.toNat).tp =
            (rx.hal.dstView status.halRingId.toNat).shadow ∨
          rx.statusLength status (rx.hal.dstView status.halRingId.toNat).tp ≠ 0) := by
  obtain ⟨count, stands⟩ := ready.at_.stands
  have published := ready.at_.published.resolve_left (by rw [ready.free]; exact not_false)
  obtain ⟨next, list, called, _, _, _, call⟩ := ready.recvNext stands
  refine ⟨next, called, ?_⟩
  cases call with
  | caught empty drain pipe tail =>
      have tp : (next.hal.dstView status.halRingId.toNat).tp =
          (rx.hal.dstView status.halRingId.toNat).tp :=
        UInt32.toNat_inj.mp (tail.stands.trans stands.symm)
      refine iff_of_true (fun _ _ => ⟨tp, ?_, pipe⟩) (.inl empty)
      rw [tail.published, published, tp]
  | blank ahead zero drain pipe tail =>
      refine iff_of_false ?_ ?_
      · intro same
        exact StandsAt.ne_succ ready.at_.held.two_le (by decide) stands tail.stands
          (same list drain).tp
      · rintro (empty | nonzero)
        · exact ahead empty
        · exact nonzero zero
  | took ahead nonzero drain pipe tail =>
      refine iff_of_true (fun rest failed => ?_) (.inr nonzero)
      rw [drain] at failed
      cases failed

end Receive

/-- For every run of the module beside a device that writes what it likes. -/
theorem recv_next_failure_atomic {hal hal' : Hal} {count : Nat}
    {memory : Nat → Fin 3 → RingMemory} {attrs : Nat → SrngTestAttr}
    {pipes : Nat → SrngTestPipe} (table : RxTable hal.srngConfig)
    (twoLe : ∀ index, index < count →
      2 ≤ (ringEntries (attrs index).destNentries).toNat)
    (done : dstTestSetup hal count memory attrs = (hal', pipes, none))
    {events : List Rx.HostileEvent} {rx : Rx}
    (reached : run Rx.hostileStep (.start hal' count pipes) events = some rx)
    (live : rx.live = true) (free : rx.lock = .free) {index : Nat} {list : List Nat}
    (receiving : rx.drains index = .recv list) :
    ∃ dst status next, rx.rings index = some (dst, status) ∧
      rx.recvNext index = some next ∧
      ((∀ rest, next.drains index = .flush rest → rx.SamePairing next index status) ↔
        (rx.hal.dstView status.halRingId.toNat).tp =
            (rx.hal.dstView status.halRingId.toNat).shadow ∨
          rx.statusLength status (rx.hal.dstView status.halRingId.toNat).tp ≠ 0) := by
  obtain ⟨dst, status, ready⟩ :=
    DrainReady.of_run table twoLe done reached live free receiving
  obtain ⟨next, called, atomic⟩ := ready.recvNext_atomic
  exact ⟨dst, status, next, ready.rings, called, atomic⟩

/-- The device claims one entry and leaves its length at zero. -/
def blankReport : List Rx.HostileEvent :=
  smallPost.map .module ++ [.storeWord 1 2, .module (.drainStart 0)]

theorem recv_next_failure_atomic_empty :
    ∃ rx dst status next, run Rx.hostileStep (.start smallSetup.1 1 smallSetup.2.1)
        (smallPost.map .module ++ [.module (.drainStart 0)]) = some rx ∧
      rx.rings 0 = some (dst, status) ∧ rx.recvNext 0 = some next ∧
      ∀ rest, next.drains 0 = .flush rest → rx.SamePairing next 0 status := by
  have seen : (run Rx.hostileStep (.start smallSetup.1 1 smallSetup.2.1)
      (smallPost.map .module ++ [.module (.drainStart 0)])).bind (fun rx =>
        (rx.rings 0).map fun rings => (rx.live, rx.lock.isFree, rx.drains 0,
          decide ((rx.hal.dstView rings.2.halRingId.toNat).tp =
            (rx.hal.dstView rings.2.halRingId.toNat).shadow))) =
      some (true, true, .recv [], true) := by decide +kernel
  obtain ⟨rx, reached, values⟩ := Option.bind_eq_some_iff.mp seen
  obtain ⟨rings, found, values⟩ := Option.map_eq_some_iff.mp values
  simp only [Prod.mk.injEq, decide_eq_true_eq] at values
  obtain ⟨live, free, receiving, empty⟩ := values
  obtain ⟨dst, status, next, rings', called, atomic⟩ := recv_next_failure_atomic
    hwSrngConfigTemplate_table (fun _ _ => by decide +kernel) smallSetup_done reached live
    (RxLock.eq_free free) receiving
  rw [rings'] at found
  cases found
  exact ⟨rx, dst, status, next, reached, rings', called, atomic.mpr (.inl empty)⟩

theorem recv_next_failure_passes_entry :
    ∃ rx dst status next, run Rx.hostileStep (.start smallSetup.1 1 smallSetup.2.1)
        blankReport = some rx ∧ rx.lock = .free ∧ rx.rings 0 = some (dst, status) ∧
      rx.recvNext 0 = some next ∧ next.drains 0 = .flush [] ∧
      ¬ rx.SamePairing next 0 status := by
  have seen : (run Rx.hostileStep (.start smallSetup.1 1 smallSetup.2.1) blankReport).bind
      (fun rx => (rx.rings 0).bind fun rings => (rx.recvNext 0).map fun next =>
        (rx.lock.isFree, next.drains 0,
          decide ((next.hal.dstView rings.2.halRingId.toNat).tp =
            (rx.hal.dstView rings.2.halRingId.toNat).tp))) =
      some (true, .flush [], false) := by decide +kernel
  obtain ⟨rx, reached, values⟩ := Option.bind_eq_some_iff.mp seen
  obtain ⟨⟨dst, status⟩, rings, values⟩ := Option.bind_eq_some_iff.mp values
  obtain ⟨next, called, values⟩ := Option.map_eq_some_iff.mp values
  simp only [Prod.mk.injEq, decide_eq_false_iff_not] at values
  obtain ⟨free, failed, moved⟩ := values
  exact ⟨rx, dst, status, next, reached, RxLock.eq_free free, rings, called, failed,
    fun same => moved same.tp⟩

/-! The loop. It goes from status entry to status entry until it stands where the head
word points or on an entry of length zero, with one buffer from the table for each. -/

/-- The tail after `count` entries more. -/
def HalSrng.tailAfter (srng : HalSrng) (count : Nat) : UInt32 :=
  UInt32.ofNat
    ((srng.dstRing.tp.toNat + srng.entrySize.toNat * count) % srng.ringSize.toNat)

theorem RingShape.tailAfter {srng : HalSrng} {entries size taken : Nat}
    (shape : RingShape srng entries size)
    (stands : StandsAt entries size srng.dstRing.tp taken) (count : Nat) :
    StandsAt entries size (srng.tailAfter count) (taken + count) := by
  have fits : entries * size < 2 ^ 32 := by
    rw [← shape.ringSize_eq]
    exact srng.ringSize.toNat_lt
  have ringPos : 0 < entries * size := Nat.mul_pos shape.entries_pos shape.size_pos
  have below := Nat.mod_lt (slotOffset entries size taken + size * count) ringPos
  rw [StandsAt, HalSrng.tailAfter, UInt32.toNat_ofNat', stands, shape.entrySize_eq,
    shape.ringSize_eq, Nat.mod_eq_of_lt (by omega), slotOffset, slotOffset, ← Nat.mul_add,
    Nat.mul_comm entries size, Nat.mul_mod_mul_left, Nat.mod_add_mod]

def Rx.StopsAt (rx : Rx) (status : SrngTestRing) (count : Nat) : Prop :=
  (rx.hal.srngList status.halRingId.toNat).tailAfter count =
      (rx.hal.dstView status.halRingId.toNat).shadow ∨
    rx.statusLength status
      ((rx.hal.srngList status.halRingId.toNat).tailAfter count) = 0

instance (rx : Rx) (status : SrngTestRing) (count : Nat) :
    Decidable (rx.StopsAt status count) :=
  inferInstanceAs (Decidable (_ ∨ _))

section Loop

variable {layout : RxLayout} {rx : Rx} {index : Nat} {dst status : SrngTestRing}

theorem DrainReady.side (ready : DrainReady layout rx index dst status) :
    TableSide (layout.entries index) (rx.pipe index dst status) ∧
      (rx.received index).length ≤ (rx.enqueued index).length := by
  obtain ⟨list, receiving⟩ := ready.receiving
  exact ready.at_.table.resolve_left
    (Rx.not_doomed receiving (by simp [ready.free]))

theorem DrainReady.occupied (ready : DrainReady layout rx index dst status) :
    dst.occupied = (rx.enqueued index).length - (rx.received index).length ∧
      dst.occupied + 2 ≤ dst.nentries.toNat := by
  obtain ⟨table, ordered⟩ := ready.side
  have twoLe := ready.at_.held.two_le
  have needed := table.needed_eq
  have slots := table.slots
  have nentries : dst.nentries.toNat = layout.entries index := ready.at_.held.table.nentries_eq
  simp only [Rx.pipe] at needed slots
  have count := slots.count (by rw [List.length_map]; omega)
  rw [List.length_map] at count
  rw [SrngTestRing.occupied, nentries, count]
  exact ⟨rfl, by omega⟩

/-- The next buffer is there as long as any is. -/
theorem DrainReady.front (ready : DrainReady layout rx index dst status) :
    (dst.occupied = 0 ∧ dst.skb dst.swIndex.toNat = none) ∨
      ∃ skb, dst.skb dst.swIndex.toNat = some skb := by
  obtain ⟨table, ordered⟩ := ready.side
  have occupied := ready.occupied
  have nentries : dst.nentries.toNat = layout.entries index := ready.at_.held.table.nentries_eq
  have slots := table.slots
  have swIndex := table.swIndex_eq
  simp only [Rx.pipe] at slots swIndex
  rcases Nat.lt_or_eq_of_le ordered with ahead | caught
  · right
    have nonempty : (rx.received index).length <
        ((rx.enqueued index).map Prod.fst).length := by
      rw [List.length_map]
      exact ahead
    rw [swIndex]
    exact ⟨_, slots.front nonempty⟩
  · left
    have length : ((rx.enqueued index).map Prod.fst).length =
        (rx.received index).length := by rw [List.length_map, caught]
    refine ⟨by omega, ?_⟩
    rw [swIndex, ← length]
    exact slots.next_empty (by omega) (by omega)

theorem DrainReady.swIndex_lt (ready : DrainReady layout rx index dst status) :
    dst.swIndex.toNat < dst.nentries.toNat := by
  have table := ready.side.1.swIndex_eq
  have nentries : dst.nentries.toNat = layout.entries index := ready.at_.held.table.nentries_eq
  have twoLe := ready.at_.held.two_le
  simp only [Rx.pipe] at table
  rw [table, nentries]
  exact Nat.mod_lt _ (by omega)

theorem DrainReady.stopsAt_zero (ready : DrainReady layout rx index dst status) :
    rx.StopsAt status 0 ↔
      (rx.hal.dstView status.halRingId.toNat).tp =
          (rx.hal.dstView status.halRingId.toNat).shadow ∨
        rx.statusLength status (rx.hal.dstView status.halRingId.toNat).tp = 0 := by
  obtain ⟨count, stands⟩ := ready.at_.stands
  have here := ready.at_.held.statusReady.shape.tailAfter stands 0
  have same : (rx.hal.srngList status.halRingId.toNat).tailAfter 0 =
      (rx.hal.dstView status.halRingId.toNat).tp :=
    UInt32.toNat_inj.mp (here.trans stands.symm)
  rw [Rx.StopsAt, same]

/-- The entries ahead of a tail that moved on by one. -/
theorem DrainReady.stopsAt_succ {after : Rx} {dst' : SrngTestRing} {count : Nat}
    (ready : DrainReady layout rx index dst status)
    (ready' : DrainReady layout after index dst' status)
    (stands : StandsAt (layout.entries index) 2
      (rx.hal.dstView status.halRingId.toNat).tp count)
    (moved : TailMoved rx.hal after.hal status.halRingId.toNat (layout.entries index) 2
      (count + 1)) (later : Nat) :
    after.StopsAt status later ↔ rx.StopsAt status (later + 1) := by
  have before := ready.at_.held.statusReady.shape.tailAfter stands (later + 1)
  have behind := ready'.at_.held.statusReady.shape.tailAfter moved.stands later
  have same : (after.hal.srngList status.halRingId.toNat).tailAfter later =
      (rx.hal.srngList status.halRingId.toNat).tailAfter (later + 1) := by
    rw [show count + 1 + later = count + (later + 1) by omega] at behind
    exact UInt32.toNat_inj.mp (behind.trans before.symm)
  rw [Rx.StopsAt, Rx.StopsAt, Rx.statusLength, Rx.statusLength, same, moved.shadow, descPtr,
    descPtr, moved.same.ringBaseVaddr]

/-- The loop ends at once. -/
theorem DrainReady.stop (ready : DrainReady layout rx index dst status)
    (stops : rx.StopsAt status 0) :
    ∃ next list, rx.recvNext index = some next ∧ next.drains index = .flush list := by
  obtain ⟨count, stands⟩ := ready.at_.stands
  obtain ⟨next, list, called, _, _, _, call⟩ := ready.recvNext stands
  rw [ready.stopsAt_zero] at stops
  cases call with
  | caught _ drain => exact ⟨next, list, called, drain⟩
  | blank _ _ drain => exact ⟨next, list, called, drain⟩
  | took ahead nonzero =>
      rcases stops with empty | zero
      · exact absurd empty ahead
      · exact absurd zero nonzero

/-- One turn of the loop: with a buffer in the table it takes it and goes on, one status
entry further. Otherwise it has NULL in hand. -/
theorem DrainReady.turn (ready : DrainReady layout rx index dst status)
    (goes : ¬ rx.StopsAt status 0) :
    ∃ next list nbytes, rx.recvNext index = some next ∧
      next.drains index = .took list (dst.skb dst.swIndex.toNat) nbytes ∧
      ∀ skb, dst.skb dst.swIndex.toNat = some skb →
        ∃ after, next.step (.drainTake index) = some after ∧
          DrainReady layout after index (dst.take dst.swIndex) status ∧
          ∀ later, after.StopsAt status later ↔ rx.StopsAt status (later + 1) := by
  obtain ⟨count, stands⟩ := ready.at_.stands
  obtain ⟨next, list, called, inv, live, free, call⟩ := ready.recvNext stands
  rw [ready.stopsAt_zero, not_or] at goes
  cases call with
  | caught empty => exact absurd empty goes.1
  | blank _ zero => exact absurd zero goes.2
  | took ahead nonzero drain pipe tail =>
      refine ⟨next, list, _, called, drain, ?_⟩
      intro skb front
      rw [front] at drain
      have rings : next.rings index = some (dst.take dst.swIndex, status) := by
        rw [Rx.rings_eq_some, pipe]
        exact ⟨rfl, (Rx.rings_eq_some.mp ready.rings).2⟩
      obtain ⟨after, rest, stepped, halEq, liveEq, lockEq, drainEq, ringsEq⟩ :=
        Rx.step_drainTake inv.blank live drain
      have ready' : DrainReady layout after index (dst.take dst.swIndex) status :=
        ⟨inv.step (Rx.step_cases stepped).2 (liveEq.trans live), liveEq.trans live,
          lockEq.trans free, ⟨rest, drainEq⟩, by rw [ringsEq, rings]⟩
      refine ⟨after, stepped, ready', ?_⟩
      rw [← halEq] at tail
      exact ready.stopsAt_succ ready' stands tail

theorem DrainReady.occupied_take (ready : DrainReady layout rx index dst status) {skb : Nat}
    (front : dst.skb dst.swIndex.toNat = some skb) :
    (dst.take dst.swIndex).occupied + 1 = dst.occupied :=
  ((filterMap_range_update ready.swIndex_lt front).length_eq).symm

/-- The buffers are those posted in the table, in order, and no more than are there. -/
structure FromTable (dst : SrngTestRing) (skbs : List (Option Nat)) : Prop where
  length_le : skbs.length ≤ dst.nentries.toNat
  posted : ∀ turn entry, skbs[turn]? = some entry → entry.isSome ∧
    entry = dst.skb ((dst.swIndex.toNat + turn) % dst.nentries.toNat)

theorem DrainReady.posted_cons (ready : DrainReady layout rx index dst status) {skb : Nat}
    (front : dst.skb dst.swIndex.toNat = some skb) {skbs : List (Option Nat)}
    (rest : ∀ turn entry, skbs[turn]? = some entry → entry.isSome ∧
      entry = (dst.take dst.swIndex).skb
        (((dst.take dst.swIndex).swIndex.toNat + turn) % dst.nentries.toNat)) :
    ∀ turn entry, (some skb :: skbs)[turn]? = some entry → entry.isSome ∧
      entry = dst.skb ((dst.swIndex.toNat + turn) % dst.nentries.toNat) := by
  have advanced : (dst.take dst.swIndex).swIndex.toNat =
      (dst.swIndex.toNat + 1) % dst.nentries.toNat := by
    have next := ready.at_.held.table.nextIndex_mod dst.swIndex
    rw [← show dst.nentries.toNat = _ from ready.at_.held.table.nentries_eq] at next
    exact next
  intro turn entry lookup
  cases turn with
  | zero =>
      cases lookup
      rw [Nat.add_zero, Nat.mod_eq_of_lt ready.swIndex_lt]
      exact ⟨rfl, front.symm⟩
  | succ turn =>
      obtain ⟨full, equal⟩ := rest turn entry lookup
      rw [advanced, Nat.mod_add_mod,
        show dst.swIndex.toNat + 1 + turn = dst.swIndex.toNat + (turn + 1) by omega] at equal
      refine ⟨full, ?_⟩
      rw [equal, SrngTestRing.take]
      simp only
      -- The slot that the turn emptied is not seen again: what comes later is not NULL.
      rw [Function.update_of_ne]
      intro same
      rw [equal, same, SrngTestRing.take] at full
      simp at full

theorem DrainReady.drainLoop_ends {stop : Nat} (ready : DrainReady layout rx index dst status)
    (within : stop ≤ dst.occupied) (stops : rx.StopsAt status stop) :
    ∃ fuel final skbs, Rx.drainLoop index fuel rx = some (final, skbs) ∧
      skbs.length ≤ dst.occupied ∧
      ∀ turn entry, skbs[turn]? = some entry → entry.isSome ∧
        entry = dst.skb ((dst.swIndex.toNat + turn) % dst.nentries.toNat) := by
  induction stop generalizing rx dst with
  | zero =>
      obtain ⟨next, list, called, drain⟩ := ready.stop stops
      refine ⟨1, next, [], ?_, Nat.zero_le _, fun _ _ lookup => by cases lookup⟩
      rw [Rx.drainLoop, called, Option.bind_some, drain]
  | succ stop ih =>
      by_cases here : rx.StopsAt status 0
      · obtain ⟨next, list, called, drain⟩ := ready.stop here
        refine ⟨1, next, [], ?_, Nat.zero_le _, fun _ _ lookup => by cases lookup⟩
        rw [Rx.drainLoop, called, Option.bind_some, drain]
      · obtain ⟨next, list, nbytes, called, drain, goesOn⟩ := ready.turn here
        obtain ⟨drained, _⟩ | ⟨skb, front⟩ := ready.front
        · omega
        · obtain ⟨after, stepped, ready', shift⟩ := goesOn skb front
          have fewer := ready.occupied_take front
          obtain ⟨fuel, final, skbs, ended, few, posted⟩ :=
            ih ready' (by omega) ((shift stop).mpr stops)
          refine ⟨fuel + 1, final, some skb :: skbs, ?_, ?_, ready.posted_cons front posted⟩
          · rw [Rx.drainLoop, called, Option.bind_some, drain, front]
            simp only
            rw [stepped, Option.bind_some, ended]
            rfl
          · rw [List.length_cons]
            omega

/-- Without a stop in time the loop comes to NULL, however long it is given. -/
theorem DrainReady.drainLoop_faults (ready : DrainReady layout rx index dst status)
    (runs : ∀ stop, stop ≤ dst.occupied → ¬ rx.StopsAt status stop) (fuel : Nat) :
    Rx.drainLoop index fuel rx = none := by
  induction fuel generalizing rx dst with
  | zero => rfl
  | succ fuel ih =>
      obtain ⟨next, list, nbytes, called, drain, goesOn⟩ :=
        ready.turn (runs 0 (Nat.zero_le _))
      rw [Rx.drainLoop, called, Option.bind_some, drain]
      simp only
      obtain ⟨_, missing⟩ | ⟨skb, front⟩ := ready.front
      · rw [missing] at drain
        have stuck : next.step (.drainTake index) = none := by
          rw [Rx.step]
          split
          · rfl
          · simp only [Rx.drainTake, drain]
        rw [stuck]
        rfl
      · obtain ⟨after, stepped, ready', shift⟩ := goesOn skb front
        have fewer := ready.occupied_take front
        rw [stepped, Option.bind_some, ih ready' ?_]
        · rfl
        · intro stop within stops
          exact runs (stop + 1) (by omega) ((shift stop).mp stops)

end Loop

/-- After every run beside a device that writes what it likes, the loop ends well exactly
when it has a reason to end within the posted buffers. -/
theorem drain_loop_survives_iff {hal hal' : Hal} {count : Nat}
    {memory : Nat → Fin 3 → RingMemory} {attrs : Nat → SrngTestAttr}
    {pipes : Nat → SrngTestPipe} (table : RxTable hal.srngConfig)
    (twoLe : ∀ index, index < count →
      2 ≤ (ringEntries (attrs index).destNentries).toNat)
    (done : dstTestSetup hal count memory attrs = (hal', pipes, none))
    {events : List Rx.HostileEvent} {rx : Rx}
    (reached : run Rx.hostileStep (.start hal' count pipes) events = some rx)
    (live : rx.live = true) (free : rx.lock = .free) {index : Nat} {list : List Nat}
    (receiving : rx.drains index = .recv list) :
    ∃ dst status, rx.rings index = some (dst, status) ∧
      ((∃ fuel final skbs, Rx.drainLoop index fuel rx = some (final, skbs) ∧
          FromTable dst skbs) ↔
        ∃ stop, stop ≤ dst.occupied ∧ rx.StopsAt status stop) := by
  obtain ⟨dst, status, ready⟩ :=
    DrainReady.of_run table twoLe done reached live free receiving
  have bounded := ready.occupied.2
  refine ⟨dst, status, ready.rings, ?_, ?_⟩
  · rintro ⟨fuel, final, skbs, ended, _⟩
    by_contra never
    rw [ready.drainLoop_faults (fun stop within stops => never ⟨stop, within, stops⟩)] at ended
    cases ended
  · rintro ⟨stop, within, stops⟩
    obtain ⟨fuel, final, skbs, ended, few, posted⟩ := ready.drainLoop_ends within stops
    exact ⟨fuel, final, skbs, ended, by omega, posted⟩

/-- The device reports the two buffers it has, and stores a head word that no entry
starts at. -/
def oddHead : List Rx.HostileEvent :=
  smallPost.map .module ++
    [.storeStatus 0 0xa000 64, .storeStatus 0 0xa008 64, .storeWord 1 3,
      .module (.drainStart 0)]

/-- With one more entry that is not blank the loop goes past its buffers. -/
def overrun : List Rx.HostileEvent := .storeStatus 0 0xa010 64 :: oddHead

theorem drain_loop_survives_blank :
    ∃ rx dst status, run Rx.hostileStep (.start smallSetup.1 1 smallSetup.2.1) oddHead =
        some rx ∧ rx.rings 0 = some (dst, status) ∧
      ∃ fuel final skbs, Rx.drainLoop 0 fuel rx = some (final, skbs) ∧
        FromTable dst skbs := by
  have seen : (run Rx.hostileStep (.start smallSetup.1 1 smallSetup.2.1) oddHead).bind
      (fun rx => (rx.rings 0).map fun rings => (rx.live, rx.lock.isFree, rx.drains 0,
        rings.1.occupied, decide (rx.StopsAt rings.2 2))) =
      some (true, true, .recv [], 2, true) := by decide +kernel
  obtain ⟨rx, reached, values⟩ := Option.bind_eq_some_iff.mp seen
  obtain ⟨rings, found, values⟩ := Option.map_eq_some_iff.mp values
  simp only [Prod.mk.injEq, decide_eq_true_eq] at values
  obtain ⟨live, free, receiving, occupied, stops⟩ := values
  obtain ⟨dst, status, rings', survives⟩ := drain_loop_survives_iff
    hwSrngConfigTemplate_table (fun _ _ => by decide +kernel) smallSetup_done reached live
    (RxLock.eq_free free) receiving
  rw [rings'] at found
  cases found
  exact ⟨rx, dst, status, reached, rings', survives.mpr ⟨2, Nat.le_of_eq occupied.symm, stops⟩⟩

theorem drain_loop_meets_null :
    ∃ rx, run Rx.hostileStep (.start smallSetup.1 1 smallSetup.2.1) overrun = some rx ∧
      rx.lock = .free ∧ rx.drains 0 = .recv [] ∧
      ∀ fuel, Rx.drainLoop 0 fuel rx = none := by
  have seen : (run Rx.hostileStep (.start smallSetup.1 1 smallSetup.2.1) overrun).bind
      (fun rx => (rx.rings 0).map fun rings => (rx.live, rx.lock.isFree, rx.drains 0,
        decide (∀ stop, stop ≤ rings.1.occupied → ¬ rx.StopsAt rings.2 stop))) =
      some (true, true, .recv [], true) := by decide +kernel
  obtain ⟨rx, reached, values⟩ := Option.bind_eq_some_iff.mp seen
  obtain ⟨rings, found, values⟩ := Option.map_eq_some_iff.mp values
  simp only [Prod.mk.injEq, decide_eq_true_eq] at values
  obtain ⟨live, free, receiving, runs⟩ := values
  obtain ⟨dst, status, ready⟩ := DrainReady.of_run hwSrngConfigTemplate_table
    (fun _ _ => by decide +kernel) smallSetup_done reached live (RxLock.eq_free free) receiving
  rw [ready.rings] at found
  cases found
  exact ⟨rx, reached, RxLock.eq_free free, receiving, ready.drainLoop_faults runs⟩

end WirelessSimu
