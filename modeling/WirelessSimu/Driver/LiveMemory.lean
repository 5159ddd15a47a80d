import WirelessSimu.Driver.TestRing
import WirelessSimu.Rx.Ownership

namespace WirelessSimu

open Data Kernel

/-! Memory that the device may read: the rings that are enabled in its registers, and
the buffers in descriptors that it has not taken yet. Nothing in the driver disables
a ring, so that the two calls of `hal_srng_test_free_pipes` end this; and the self
test unmaps its buffer without a look at the device. -/

namespace Driver

/-- The memory of the ring is allocated and mapped. -/
def Holds (driver : Driver) (ring : SrngTestRing) : Prop :=
  driver.testPipe.srcRing = some ring ∨
    ∃ index < srngTestPipeCountMax, (driver.rx.pipes index).dstRing = some ring ∨
      (driver.rx.pipes index).statusRing = some ring

def RingsHeld (driver : Driver) : Prop :=
  ∀ id < 256, RingProgrammed driver.rx.hal id →
    ∃ ring, driver.Holds ring ∧ RingBaseAt driver.rx.hal id ring.baseAddrTestSpace

/-- Every enabled ring has its memory, and every descriptor that the device has still
to take holds the address of a buffer that is mapped there. -/
structure MemoryLive (driver : Driver) : Prop where
  rings : driver.RingsHeld
  posted : ∀ index < srngTestPipeCountMax, ∀ dst,
    (driver.rx.pipes index).dstRing = some dst →
    ∀ at_, (driver.rx.devices index).taken.length ≤ at_ →
      at_ < (driver.rx.enqueued index).length →
      ∃ skb mapping, driver.rx.buffers.mapping skb = some mapping ∧
        skb < driver.rx.buffers.allocated ∧ skb ∉ driver.rx.buffers.freed ∧
        slotWords dst.mem dst.baseAddrOwnerSpace 3 (at_ % dst.nentries.toNat) =
          testDstSetDesc mapping.paddr
  sent : ∀ ring, driver.testPipe.srcRing = some ring →
    ∀ at_, driver.testConsumed.length ≤ at_ → at_ < driver.testFilled.length →
      ∃ paddr writeIndex, driver.testMapped = some paddr ∧
        slotWords ring.mem ring.baseAddrOwnerSpace 5 (at_ % ring.nentries.toNat) =
          testSrcSetDesc (testSkb paddr) 0 0 writeIndex

/-- No step frees the pipe of a registered ring, and the test buffer is unmapped when
the device has taken every descriptor. -/
def KeepsMemory (driver : Driver) : Event → Prop
  | .freeDma => driver.testConsumed.length = driver.testFilled.length
  | .freePipes => driver.testPipe.srcRing = none
  | .dstDeinit => driver.dst ≠ .up
  | _ => True

instance (driver : Driver) : ∀ event, Decidable (driver.KeepsMemory event)
  | .freeDma => inferInstanceAs (Decidable (_ = _))
  | .freePipes => inferInstanceAs (Decidable (driver.testPipe.srcRing = none))
  | .dstDeinit => inferInstanceAs (Decidable (_ ≠ _))
  | .dstInit _ | .rx _ | .testInit _ | .testMap _ | .sendBegin | .sendStore | .sendEnd
  | .testConsume | .testStoreTail | .disableDevice => isTrue trivial

def fifo (driver : Driver) (ring : SrngTestRing) : SourceFifo where
  hal := driver.rx.hal
  id := ring.halRingId.toNat
  mem := ring.mem
  inSession := false
  handed := []
  filled := driver.testFilled
  deviceTail := driver.testTail
  consumed := driver.testConsumed

variable {driver next : Driver}

theorem RingsHeld.mono (held : driver.RingsHeld)
    (image : ∀ id < 256, SameImage driver.rx.hal next.rx.hal id)
    (kept : ∀ ring, driver.Holds ring → ∃ ring', next.Holds ring' ∧
      ring'.baseAddrTestSpace = ring.baseAddrTestSpace) : next.RingsHeld := by
  intro id small programmed
  obtain ⟨ring, holds, base⟩ := held id small (programmed.of_same (image id small))
  obtain ⟨ring', holds', same⟩ := kept ring holds
  refine ⟨ring', holds', ?_⟩
  rw [same]
  exact base.of_same (image id small)

end Driver

/-! The receive module while it is up. -/

structure Receiving (rx : Rx) : Prop where
  live : rx.live = true
  count : rx.pipesCount = srngTestPipeCountMax
  inv : RxInv driverLayout rx
  owned : ∃ lost, rx.Owned lost
  numbered : Numbered rx
  addressed : Addressed rx

namespace Receiving

variable {rx next : Rx} {event : Rx.Event}

theorem start {hal hal' : Hal} {memory : Nat → Fin 3 → RingMemory}
    {pipes : Nat → SrngTestPipe} (config : hal.srngConfig = hwSrngConfigTemplate)
    (done : dstTestSetup hal srngTestPipeCountMax memory (fun _ => srngTestDstConfig) =
      (hal', pipes, none)) : Receiving (.start hal' srngTestPipeCountMax pipes) where
  live := rfl
  count := rfl
  inv := by
    have table : RxTable hal.srngConfig := by
      rw [config]
      exact hwSrngConfigTemplate_table
    have inv := RxInv.start table (fun _ _ => by decide) done
    rw [config] at inv
    exact inv
  owned := ⟨0, .start _ _ _⟩
  numbered := .start _ _ _
  addressed := .start _ _ _

theorem step (receiving : Receiving rx) (stepped : Rx.Step rx event next)
    (running : event ≠ .deinit) : Receiving next := by
  have live := (stepped.live_or_deinit receiving.live).resolve_right running
  obtain ⟨lost, owned⟩ := receiving.owned
  exact
    { live := live
      count := stepped.pipesCount_eq.trans receiving.count
      inv := receiving.inv.step stepped live
      owned := by
        obtain ⟨lost', owned', _⟩ := owned.anyStep receiving.inv stepped live
        exact ⟨lost', owned'⟩
      numbered := receiving.numbered.step stepped live
      addressed := receiving.addressed.step receiving.numbered stepped live }

/-- The test ring is none of the rings of the module. -/
theorem avoids (receiving : Receiving rx) :
    driverLayout.Avoids rx.pipesCount (templateId .testSrng) := by
  intro index inRange
  rw [receiving.count] at inRange
  obtain rfl := Nat.lt_one_iff.mp inRange
  rw [driverLayout_dstId, driverLayout_statusId]
  decide

theorem onTest (receiving : Receiving rx) {hal : Hal}
    (agree : ∀ other, RingDirect rx.hal other → other ≠ templateId .testSrng →
      Agree rx.hal hal other) : Receiving { rx with hal := hal } where
  live := receiving.live
  count := receiving.count
  inv := by
    refine receiving.inv.of_agree fun index inRange => ?_
    obtain ⟨dst, status, counts, at_⟩ := receiving.inv.pipes index inRange
    obtain ⟨dstApart, statusApart⟩ := receiving.avoids index inRange
    exact ⟨agree _ at_.dstDirect dstApart.symm, agree _ at_.statusDirect statusApart.symm⟩
  owned := receiving.owned
  numbered := { receiving.numbered with }
  addressed := { receiving.addressed with }

/-- The device finds a mapped buffer in each descriptor posted for it. -/
theorem posted (receiving : Receiving rx) {index : Nat}
    (inRange : index < srngTestPipeCountMax) {dst : SrngTestRing}
    (ring : (rx.pipes index).dstRing = some dst) {at_ : Nat}
    (pending : (rx.devices index).taken.length ≤ at_)
    (upper : at_ < (rx.enqueued index).length) :
    ∃ skb mapping, rx.buffers.mapping skb = some mapping ∧
      skb < rx.buffers.allocated ∧ skb ∉ rx.buffers.freed ∧
      slotWords dst.mem dst.baseAddrOwnerSpace 3 (at_ % dst.nentries.toNat) =
        testDstSetDesc mapping.paddr := by
  rw [← receiving.count] at inRange
  obtain ⟨lost, owned⟩ := receiving.owned
  obtain ⟨status, counts, found⟩ := receiving.inv.at_dst inRange ring
  have lookup := List.getElem?_eq_getElem upper
  have waiting : (rx.received index).length ≤ at_ :=
    calc (rx.received index).length
      _ ≤ (rx.devices index).reported.length := found.inv.received_le
      _ ≤ (rx.devices index).storedTail := found.inv.device.reported_le
      _ ≤ (rx.devices index).taken.length := found.inv.device.storedTail_le
      _ ≤ at_ := pending
  obtain ⟨⟨mapping, mapped, address⟩, allocated, alive⟩ :=
    owned.posted_live receiving.addressed inRange waiting lookup
  refine ⟨_, mapping, mapped, allocated, alive, ?_⟩
  have entries : dst.nentries.toNat = driverLayout.entries index :=
    found.inv.rings.table.nentries_eq
  have words := found.inv.logs.descs at_ (testDstSetDesc (rx.enqueued index)[at_].2)
    pending (by rw [RxPipe.descs, List.getElem?_map, Rx.pipe, lookup]; rfl)
  rw [entries, address]
  exact words

end Receiving

/-! The whole driver. -/

structure DriverInv (driver : Driver) : Prop where
  config : driver.rx.hal.srngConfig = hwSrngConfigTemplate
  order : driver.dst = .before → driver.test = .before
  rings : driver.RingsHeld
  receiving : driver.dst = .up → Receiving driver.rx
  noReceive : driver.dst ≠ .up → NoReceive (driver.rx.pipes 0)
  unused : driver.test = .before → driver.testPipe.srcRing = none ∧
    driver.testFilled = [] ∧ driver.testTail = 0 ∧ driver.testConsumed = []
  blank : driver.test = .registered → driver.testFilled = []
  test : ∀ ring, driver.testPipe.srcRing = some ring →
    TestRing ring (driver.fifo ring) driver.testMapped

namespace DriverInv

variable {driver next : Driver}

theorem memoryLive (inv : DriverInv driver) : driver.MemoryLive where
  rings := inv.rings
  posted := by
    intro index inRange dst ring at_ pending upper
    by_cases up : driver.dst = .up
    · exact (inv.receiving up).posted inRange ring pending upper
    · obtain rfl := Nat.lt_one_iff.mp inRange
      rw [(inv.noReceive up).1] at ring
      contradiction
  sent := by
    intro ring own at_ pending upper
    exact (inv.test ring own).sent_words pending upper

theorem tested (inv : DriverInv driver) {ring : SrngTestRing}
    (own : driver.testPipe.srcRing = some ring) : driver.test ≠ .before := by
  intro before
  rw [(inv.unused before).1] at own
  contradiction

theorem late (inv : DriverInv driver) (phase : driver.test ≠ .before) :
    driver.dst ≠ .before :=
  mt inv.order phase

theorem start (cpuBigEndian : Bool) (rdpPaddr : UInt64) (mmio : UInt32 → UInt32) :
    DriverInv (.start cpuBigEndian rdpPaddr mmio) where
  config := rfl
  order := fun _ => rfl
  rings := fun id _ programmed => absurd rfl programmed.1
  receiving := by
    intro up
    contradiction
  noReceive := fun _ => ⟨rfl, rfl⟩
  unused := fun _ => ⟨rfl, rfl, rfl, rfl⟩
  blank := fun _ => rfl
  test := by
    intro ring own
    contradiction

/-- A step that works on the test ring and on nothing else. -/
theorem onTest (inv : DriverInv driver) {hal : Hal} {ring ring' : SrngTestRing}
    (only : TestRingOnly driver.rx.hal hal) (own : driver.testPipe.srcRing = some ring)
    (rx : next.rx = { driver.rx with hal := hal }) (dst : next.dst = driver.dst)
    (own' : next.testPipe.srcRing = some ring')
    (base : ring'.baseAddrTestSpace = ring.baseAddrTestSpace)
    (started : next.test ≠ .before)
    (blank : next.test = .registered → next.testFilled = [])
    (test : TestRing ring' (next.fifo ring') next.testMapped) : DriverInv next where
  config := by
    rw [rx]
    exact only.setup.config.trans inv.config
  order := by
    intro before
    rw [dst] at before
    exact absurd before (inv.late (inv.tested own))
  rings := by
    refine inv.rings.mono ?_ ?_
    · intro id small
      rw [rx]
      exact .of_plain small (only.setup.initialized id) only.plain
    · rintro held (isTest | receive)
      · rw [own] at isTest
        cases isTest
        exact ⟨ring', .inl own', base⟩
      · refine ⟨held, .inr ?_, rfl⟩
        rw [rx]
        exact receive
  receiving := by
    intro up
    rw [dst] at up
    rw [rx]
    exact (inv.receiving up).onTest only.agree
  noReceive := by
    intro notUp
    rw [dst] at notUp
    rw [rx]
    exact inv.noReceive notUp
  unused := fun before => absurd before started
  blank := blank
  test := by
    intro found same
    rw [own'] at same
    cases same
    exact test

theorem rxStep (inv : DriverInv driver) {event : Rx.Event} {rx : Rx}
    (up : driver.dst = .up) (running : event ≠ .deinit)
    (stepped : driver.rx.step event = some rx) : DriverInv { driver with rx := rx } := by
  have receiving := inv.receiving up
  have step := (Rx.step_cases stepped).2
  have later := receiving.step step running
  refine { inv with
    config := step.sameSetup.config.trans inv.config
    rings := inv.rings.mono ?_ ?_
    receiving := fun _ => later
    noReceive := fun notUp => absurd up notUp
    test := ?_ }
  · intro id small
    exact .of_plain small (step.sameSetup.initialized id)
      fun address plain => receiving.inv.load_plain step plain
  · rintro ring (isTest | ⟨index, inRange, receive⟩)
    · exact ⟨ring, .inl isTest, rfl⟩
    · have bases := step.receiveBases_eq later.live index
      simp only [SrngTestPipe.receiveBases, Prod.mk.injEq] at bases
      rcases receive with isDst | isStatus
      · rw [isDst, Option.map_some, Option.map_eq_some_iff] at bases
        obtain ⟨ring', found, same⟩ := bases.1
        exact ⟨ring', .inr ⟨index, inRange, .inl found⟩, same⟩
      · rw [isStatus, Option.map_some, Option.map_eq_some_iff] at bases
        obtain ⟨ring', found, same⟩ := bases.2
        exact ⟨ring', .inr ⟨index, inRange, .inr found⟩, same⟩
  · intro ring own
    have test := inv.test ring own
    exact test.of_agree (receiving.inv.agree_step step receiving.avoids test.direct)

theorem dstInit (inv : DriverInv driver) (before : driver.dst = .before)
    (memory : Option (Nat → Fin 3 → RingMemory)) : DriverInv (driver.dstInit memory) := by
  have noReceive := inv.noReceive (by rw [before]; simp)
  have noTest := (inv.unused (inv.order before)).1
  have holdsNothing : ∀ ring, ¬ driver.Holds ring := by
    rintro ring (isTest | ⟨index, inRange, receive⟩)
    · rw [noTest] at isTest
      contradiction
    · obtain rfl := Nat.lt_one_iff.mp inRange
      rw [noReceive.1, noReceive.2] at receive
      simp at receive
  cases memory with
  | none =>
      exact { inv with
        order := by simp [Driver.dstInit]
        receiving := by simp [Driver.dstInit]
        noReceive := fun _ => noReceive }
  | some memory =>
      simp only [Driver.dstInit]
      obtain ⟨pipes, ret, failed, blank⟩ | ⟨hal, pipes, done, ready⟩ :=
        dstTestSetup_template inv.config memory
      · rw [failed]
        exact { inv with
          order := by simp
          rings := inv.rings.mono (fun _ _ => .refl _ _)
            fun ring holds => absurd holds (holdsNothing ring)
          receiving := by simp
          noReceive := fun _ => blank }
      · rw [done]
        exact { inv with
          config := ready.config
          order := by simp
          rings := by
            obtain ⟨dst, status, isDst, isStatus, dstBase, statusBase⟩ := ready.rings
            intro id small programmed
            by_cases first : id = templateId .testSrngDst
            · rw [first]
              exact ⟨dst, .inr ⟨0, by decide, .inl isDst⟩, dstBase⟩
            · by_cases second : id = templateId .testSrngDstStatus
              · rw [second]
                exact ⟨status, .inr ⟨0, by decide, .inr isStatus⟩, statusBase⟩
              · obtain ⟨ring, holds, _⟩ := inv.rings id small
                  (programmed.of_same (ready.image id small first second))
                exact absurd holds (holdsNothing ring)
          receiving := fun _ => .start inv.config done
          noReceive := by simp
          test := by
            intro ring own
            rw [noTest] at own
            contradiction }

theorem testInit (inv : DriverInv driver) (before : driver.test = .before)
    (after : driver.dst ≠ .before) (memory : Option (Fin 3 → RingMemory)) :
    DriverInv (driver.testInit memory) := by
  obtain ⟨noTest, noFilled, noTail, noConsumed⟩ := inv.unused before
  have receives : ∀ ring, driver.Holds ring → ∃ index < srngTestPipeCountMax,
      (driver.rx.pipes index).dstRing = some ring ∨
        (driver.rx.pipes index).statusRing = some ring := by
    rintro ring (isTest | receive)
    · rw [noTest] at isTest
      contradiction
    · exact receive
  cases memory with
  | none =>
      exact { inv with
        order := fun first => absurd first after
        unused := by simp [Driver.testInit]
        blank := by simp [Driver.testInit] }
  | some memory =>
      simp only [Driver.testInit]
      obtain ⟨pipe, ret, failed, nonzero, noSource⟩ | ⟨hal, pipe, ring, done, own, ready⟩ :=
        halSrngTestSetup_template inv.config memory
      · rw [failed]
        simp only [nonzero, ne_eq, not_false_eq_true, if_true]
        exact { inv with
          order := fun first => absurd first after
          rings := inv.rings.mono (fun _ _ => .refl _ _)
            fun ring holds => ⟨ring, .inr (receives ring holds), rfl⟩
          unused := by simp
          blank := by simp
          test := by
            intro ring own
            rw [noSource] at own
            contradiction }
      · rw [done]
        simp only [ne_eq, not_true_eq_false, if_false]
        exact { inv with
          config := ready.config
          order := fun first => absurd first after
          rings := by
            intro id small programmed
            by_cases same : id = templateId .testSrng
            · rw [same]
              exact ⟨ring, .inl own, ready.base⟩
            · have image := ready.image id small same
              obtain ⟨found, holds, base⟩ :=
                inv.rings id small (programmed.of_same image)
              exact ⟨found, .inr (receives found holds), base.of_same image⟩
          receiving := fun up => (inv.receiving up).onTest ready.agree
          unused := by simp
          blank := fun _ => noFilled
          test := by
            intro found same
            rw [own] at same
            cases same
            simp only [Driver.fifo, Driver.setHal, noFilled, noTail, noConsumed]
            exact ready.testRing _ }

theorem sendBegin (inv : DriverInv driver) (taken : driver.sendBegin = some next) :
    DriverInv next := by
  unfold Driver.sendBegin at taken
  split at taken
  next testCount ring phase own =>
      have test := inv.test ring own
      split at taken
      next =>
          cases taken
          exact inv.onTest test.accessBegin_only own rfl rfl own rfl (by simp) (by simp)
            test.accessBegin
      next =>
          cases taken
          exact { inv with
            order := fun before => absurd before (inv.late (inv.tested own))
            unused := by simp
            blank := by simp }
  next => contradiction

theorem sendStore (inv : DriverInv driver) (taken : driver.sendStore = some next) :
    DriverInv next := by
  unfold Driver.sendStore at taken
  split at taken
  next testCount writeIndex ring paddr phase own mapped =>
      have test := inv.test ring own
      rw [mapped] at test
      have only := test.storeEntry_only rfl enobufs 0 writeIndex
        (testSrcSetDesc (Driver.testSkb paddr) 0 0 writeIndex)
      have nonzero : -enobufs ≠ 0 := by decide
      simp only [halSrngTestSend] at taken
      obtain ⟨refused, _⟩ | ⟨hal, desc, entry, stored⟩ :=
        storeEntry_cases driver.rx.hal ring enobufs 0 writeIndex
          (testSrcSetDesc (Driver.testSkb paddr) 0 0 writeIndex)
      · rw [refused] at taken
        cases taken
        refine inv.onTest (.refl _) own rfl rfl rfl rfl (by simp) (by simp) ?_
        simp only [Driver.sendLog, if_neg nonzero, Driver.fifo, Driver.setHal, mapped]
        exact test
      · have later := test.store entry 0 writeIndex
        rw [stored] at taken
        rw [show (driver.fifo ring).hal = driver.rx.hal from rfl, stored] at only
        cases taken
        refine inv.onTest only own rfl rfl rfl rfl (by simp) (by simp) ?_
        simp only [Driver.sendLog, if_true, Driver.fifo, Driver.setHal, mapped,
          ← halSrngSrcGetNextEntry_desc entry]
        exact later
  next => contradiction

theorem sendEnd (inv : DriverInv driver) (taken : driver.sendEnd = some next) :
    DriverInv next := by
  unfold Driver.sendEnd at taken
  split at taken
  next testCount ret ring phase own =>
      have test := inv.test ring own
      cases taken
      refine inv.onTest test.accessEnd_only own rfl rfl own rfl ?_ ?_ test.accessEnd
      · split <;> simp
      · split <;> simp
  next => contradiction

theorem testConsume (inv : DriverInv driver) (taken : driver.testConsume = some next) :
    DriverInv next := by
  unfold Driver.testConsume at taken
  split at taken
  next => contradiction
  next ring own =>
      simp only at taken
      split at taken
      next => contradiction
      next behind =>
          cases taken
          exact inv.onTest (.refl _) own rfl rfl own rfl (inv.tested own) inv.blank
            ((inv.test ring own).deviceConsume behind)

theorem testStoreTail (inv : DriverInv driver)
    (taken : driver.testStoreTail = some next) : DriverInv next := by
  unfold Driver.testStoreTail at taken
  split at taken
  next => contradiction
  next ring own =>
      have test := inv.test ring own
      cases taken
      exact inv.onTest test.deviceStoreTail_only own rfl rfl own rfl (inv.tested own)
        inv.blank test.deviceStoreTail

theorem testMap (inv : DriverInv driver) (phase : driver.test = .registered)
    (paddr : Option UInt64) :
    DriverInv { driver with
      testMapped := paddr
      test := if paddr.isSome then .loop 0 else .freePipes } := by
  refine { inv with order := ?_, unused := ?_, blank := ?_, test := ?_ }
  · exact fun before => absurd before (inv.late (by simp [phase]))
  · split <;> simp
  · split <;> simp
  · intro ring own
    exact (inv.test ring own).map (inv.blank phase) paddr

theorem step (inv : DriverInv driver) {event : Driver.Event}
    (keeps : driver.KeepsMemory event) (stepped : driver.step event = some next) :
    DriverInv next := by
  cases event with
  | dstInit memory =>
      simp only [Driver.step] at stepped
      split at stepped
      next before =>
          cases stepped
          exact inv.dstInit before memory
      next => contradiction
  | rx event =>
      simp only [Driver.step] at stepped
      split at stepped
      next up =>
          obtain ⟨rx, taken, rfl⟩ := Option.map_eq_some_iff.mp stepped
          exact inv.rxStep up.1 up.2 taken
      next => contradiction
  | testInit memory =>
      simp only [Driver.step] at stepped
      split at stepped
      next ready =>
          cases stepped
          refine inv.testInit ready.1 ?_ memory
          rcases ready.2 with failed | up
          · simp [failed]
          · simp [up.1]
      next => contradiction
  | testMap paddr =>
      simp only [Driver.step] at stepped
      split at stepped
      next phase =>
          cases stepped
          exact inv.testMap phase paddr
      next => contradiction
  | sendBegin => exact inv.sendBegin stepped
  | sendStore => exact inv.sendStore stepped
  | sendEnd => exact inv.sendEnd stepped
  | testConsume => exact inv.testConsume stepped
  | testStoreTail => exact inv.testStoreTail stepped
  | freeDma =>
      simp only [Driver.step] at stepped
      split at stepped
      next phase =>
          cases stepped
          exact { inv with
            order := fun before => absurd before (inv.late (by simp [phase]))
            unused := by simp
            blank := by simp
            test := fun ring own => (inv.test ring own).unmap keeps }
      next => contradiction
  | freePipes =>
      simp only [Driver.step] at stepped
      split at stepped
      next phase =>
          cases stepped
          have noRing : driver.testPipe.srcRing = none := keeps
          exact { inv with
            order := fun before => absurd before (inv.late (by simp [phase]))
            rings := inv.rings.mono (fun _ _ => .refl _ _) fun ring holds =>
              ⟨ring, .inr (holds.resolve_left (by simp [noRing])), rfl⟩
            unused := by simp
            blank := by simp
            test := by
              intro ring own
              contradiction }
      next => contradiction
  | dstDeinit =>
      simp only [Driver.step] at stepped
      split at stepped
      next ended =>
          unfold Driver.dstDeinit at stepped
          split at stepped
          next up => exact absurd up keeps
          next failed =>
              cases stepped
              exact { inv with
                order := by simp
                receiving := by simp
                noReceive := fun _ => inv.noReceive (by simp [failed]) }
          next => contradiction
      next => contradiction
  | disableDevice =>
      simp only [Driver.step] at stepped
      split at stepped
      next =>
          cases stepped
          exact { inv with }
      next => contradiction

end DriverInv

section Runs

variable {cpuBigEndian : Bool} {rdpPaddr : UInt64} {mmio : UInt32 → UInt32}

/-- While no step takes away memory that the device uses, the device finds live memory
in every ring and in every descriptor, for any traffic and any timing. -/
theorem device_memory_live {events : List Driver.Event} {final : Driver}
    (meets : Meets Driver.step Driver.KeepsMemory (.start cpuBigEndian rdpPaddr mmio)
      events)
    (reached : run Driver.step (.start cpuBigEndian rdpPaddr mmio) events = some final) :
    final.master = true → final.MemoryLive := by
  have inv := meets.invariant DriverInv
    (fun _ _ _ keeps stepped inv => inv.step keeps stepped) reached
    (.start cpuBigEndian rdpPaddr mmio)
  exact fun _ => inv.memoryLive

/-- Probe with memory for everything: a buffer posted, then the self test. -/
def Driver.probeEvents : List Driver.Event :=
  [.dstInit (some fun _ ring => .small true
      (some (0x8000 + 0x1000 * ring, 0x70000 + 0x1000 * UInt64.ofNat ring))),
    .rx (.postBufNext false), .rx (.postBufLock false),
    .rx (.postBuffer (some 2048) (some 0x5000)), .rx .enqueueStore, .rx .enqueueEnd,
    .rx (.postBuffer none none), .rx (.postBufReturn false),
    .testInit (some fun _ => .small true (some (0xc000, 0x90000))), .testMap (some 0x6000)]

def Driver.sendEvents : List Driver.Event := [.sendBegin, .sendStore, .sendEnd]

/-- The device takes nothing, so that the last send finds the ring full. -/
def Driver.fullEvents : List Driver.Event :=
  Driver.probeEvents ++ (List.replicate 32 Driver.sendEvents).flatten

theorem device_memory_live_probe :
    ∃ final, run Driver.step (.start false 0x2000 fun _ => 0)
        (Driver.probeEvents ++ Driver.sendEvents ++ [.testConsume] ++
          Driver.sendEvents) = some final ∧
      RingProgrammed final.rx.hal 125 ∧ RingProgrammed final.rx.hal 8 ∧
      RingProgrammed final.rx.hal 1 ∧ final.testConsumed.length = 1 ∧
      final.testFilled.length = 2 ∧ (final.rx.enqueued 0).length = 1 ∧
      final.MemoryLive := by
  have seen : (run Driver.step (.start false 0x2000 fun _ => 0)
      (Driver.probeEvents ++ Driver.sendEvents ++ [.testConsume] ++
        Driver.sendEvents)).map (fun driver =>
      (driver.master, decide (RingProgrammed driver.rx.hal 125 ∧
        RingProgrammed driver.rx.hal 8 ∧ RingProgrammed driver.rx.hal 1),
        driver.testConsumed.length, driver.testFilled.length,
        (driver.rx.enqueued 0).length)) = some (true, true, 1, 2, 1) := by
    decide +kernel
  obtain ⟨final, reached, values⟩ := Option.map_eq_some_iff.mp seen
  simp only [Prod.mk.injEq, decide_eq_true_eq] at values
  obtain ⟨master, ⟨test, dst, status⟩, consumed, filled, posted⟩ := values
  exact ⟨final, reached, test, dst, status, consumed, filled, posted,
    device_memory_live (by decide +kernel) reached master⟩

def Driver.heldBases (driver : Driver) : List UInt64 :=
  (driver.testPipe.srcRing.toList ++ (driver.rx.pipes 0).dstRing.toList ++
    (driver.rx.pipes 0).statusRing.toList).map (·.baseAddrTestSpace)

/-- A programmed ring that none of this memory belongs to. -/
def Driver.Dangling (driver : Driver) (id : Nat) : Prop :=
  RingProgrammed driver.rx.hal id ∧
    ∀ paddr ∈ driver.heldBases, hifRead32 driver.rx.hal (ringReg id 0) ≠ paddr.toUInt32

instance (driver : Driver) (id : Nat) : Decidable (driver.Dangling id) :=
  have : Decidable (∀ paddr ∈ driver.heldBases,
      hifRead32 driver.rx.hal (ringReg id 0) ≠ paddr.toUInt32) :=
    List.decidableBAll _ _
  inferInstanceAs (Decidable (_ ∧ _))

theorem Driver.Dangling.not_live {driver : Driver} {id : Nat}
    (dangling : driver.Dangling id) (small : id < 256) : ¬ driver.MemoryLive := by
  intro live
  obtain ⟨ring, holds, base⟩ := live.rings id small dangling.1
  refine dangling.2 ring.baseAddrTestSpace ?_ base.lsb
  refine List.mem_map_of_mem ?_
  simp only [List.mem_append, Option.mem_toList]
  rcases holds with isTest | ⟨index, inRange, receive⟩
  · exact .inl (.inl isTest)
  · obtain rfl := Nat.lt_one_iff.mp inRange
    exact receive.elim (fun isDst => .inl (.inr isDst)) .inr

/-- Probe unmaps the buffer behind 31 descriptors and frees the ring, and remove frees
the receive rings, with all three rings enabled and the device still a bus master. -/
theorem device_memory_dies :
    (∃ driver, run Driver.step (.start false 0x2000 fun _ => 0)
        (Driver.fullEvents ++ [.freeDma]) = some driver ∧
      driver.master = true ∧ ¬ driver.MemoryLive) ∧
    (∃ driver, run Driver.step (.start false 0x2000 fun _ => 0)
        (Driver.fullEvents ++ [.freeDma, .freePipes]) = some driver ∧
      driver.master = true ∧ ¬ driver.MemoryLive) ∧
    ∃ driver, run Driver.step (.start false 0x2000 fun _ => 0)
        (Driver.fullEvents ++ [.freeDma, .freePipes, .dstDeinit]) = some driver ∧
      driver.master = true ∧ ¬ driver.MemoryLive := by
  refine ⟨?_, ?_, ?_⟩
  · have seen : (run Driver.step (.start false 0x2000 fun _ => 0)
        (Driver.fullEvents ++ [.freeDma])).map (fun driver =>
        (driver.master, driver.testPipe.srcRing.isSome, driver.testMapped,
          driver.testConsumed.length, driver.testFilled.length)) =
        some (true, true, none, 0, 31) := by decide +kernel
    obtain ⟨driver, reached, values⟩ := Option.map_eq_some_iff.mp seen
    simp only [Prod.mk.injEq] at values
    obtain ⟨master, present, unmapped, consumed, filled⟩ := values
    obtain ⟨ring, own⟩ := Option.isSome_iff_exists.mp present
    refine ⟨driver, reached, master, fun live => ?_⟩
    obtain ⟨paddr, _, mapped, _⟩ := live.sent ring own 0 (by omega) (by omega)
    rw [unmapped] at mapped
    cases mapped
  · have seen : (run Driver.step (.start false 0x2000 fun _ => 0)
        (Driver.fullEvents ++ [.freeDma, .freePipes])).map (fun driver =>
        (driver.master, decide (driver.Dangling 125))) = some (true, true) := by
      decide +kernel
    obtain ⟨driver, reached, values⟩ := Option.map_eq_some_iff.mp seen
    simp only [Prod.mk.injEq, decide_eq_true_eq] at values
    exact ⟨driver, reached, values.1, values.2.not_live (by decide)⟩
  · have seen : (run Driver.step (.start false 0x2000 fun _ => 0)
        (Driver.fullEvents ++ [.freeDma, .freePipes, .dstDeinit])).map (fun driver =>
        (driver.master, decide (driver.Dangling 8))) = some (true, true) := by
      decide +kernel
    obtain ⟨driver, reached, values⟩ := Option.map_eq_some_iff.mp seen
    simp only [Prod.mk.injEq, decide_eq_true_eq] at values
    exact ⟨driver, reached, values.1, values.2.not_live (by decide)⟩

end Runs

end WirelessSimu
