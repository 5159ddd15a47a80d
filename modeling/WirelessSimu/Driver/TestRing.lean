import WirelessSimu.Driver.Setup
import WirelessSimu.Rx.Footprint

namespace WirelessSimu

open Data Kernel

/-! The ring of the self test. The driver sends on it and the device takes from it
what was sent; all the while no other ring is touched. -/

theorem SourceFifo.Inv.of_agree {base entries size : Nat} {fifo : SourceFifo}
    {at_ : Progress} (inv : SourceFifo.Inv base entries size fifo at_) {hal : Hal}
    (agree : Agree fifo.hal hal fifo.id) :
    SourceFifo.Inv base entries size { fifo with hal := hal } at_ :=
  { inv with
    ready := inv.ready.of_same agree.same
    positions := by
      have positions := inv.positions
      rw [← agree.srcView] at positions
      exact positions }

/-- What an operation on the test ring leaves alone. -/
structure TestRingOnly (hal hal' : Hal) : Prop where
  setup : SameSetup hal hal'
  agree : ∀ other, RingDirect hal other → other ≠ templateId .testSrng →
    Agree hal hal' other
  plain : ∀ address, PlainRegister address →
    hal'.load (.mmio address) = hal.load (.mmio address)

theorem TestRingOnly.refl (hal : Hal) : TestRingOnly hal hal :=
  ⟨.refl _, fun _ _ _ => .refl _ _, fun _ _ => rfl⟩

/-- The test ring in order. Whatever the device has still to take points to the buffer
mapped at `mapped`. -/
structure TestRing (ring : SrngTestRing) (fifo : SourceFifo) (mapped : Option UInt64) :
    Prop where
  ringId : fifo.id = templateId .testSrng
  nentries : ring.nentries.toNat = 32
  handed : fifo.handed = []
  direct : RingDirect fifo.hal (templateId .testSrng)
  inv : ∃ at_, SourceFifo.Inv ring.baseAddrOwnerSpace 32 5 fifo at_
  sent : ∀ index entry, fifo.consumed.length ≤ index →
    fifo.filled[index]? = some entry →
    ∃ paddr writeIndex, mapped = some paddr ∧
      entry.2 = testSrcSetDesc (Driver.testSkb paddr) 0 0 writeIndex

theorem TestReady.testRing {hal hal' : Hal} {ring : SrngTestRing}
    (ready : TestReady hal hal' ring) (mapped : Option UInt64) :
    TestRing ring (.start hal' ring.mem ring.halRingId.toNat) mapped where
  ringId := ready.ringId
  nentries := ready.nentries
  handed := rfl
  direct := ready.direct
  inv := ⟨_, ready.fifo⟩
  sent := by
    intro index entry _ lookup
    contradiction

namespace TestRing

variable {ring : SrngTestRing} {fifo : SourceFifo} {mapped : Option UInt64}

theorem of_agree (test : TestRing ring fifo mapped) {hal : Hal}
    (agree : Agree fifo.hal hal (templateId .testSrng)) :
    TestRing ring { fifo with hal := hal } mapped := by
  obtain ⟨at_, inv⟩ := test.inv
  have own := agree
  rw [← test.ringId] at own
  exact { test with
    direct := test.direct.of_same agree.same
    inv := ⟨at_, inv.of_agree own⟩ }

theorem accessBegin (test : TestRing ring fifo mapped) :
    TestRing ring { fifo with hal := halSrngAccessBegin fifo.hal fifo.id } mapped := by
  obtain ⟨at_, inv⟩ := test.inv
  exact { test with
    direct := test.direct.of_same (same_accessBegin _)
    inv := ⟨_, { inv.accessBegin with }⟩ }

theorem accessBegin_only (test : TestRing ring fifo mapped) :
    TestRingOnly fifo.hal (halSrngAccessBegin fifo.hal fifo.id) where
  setup := .accessBegin
  agree := by
    intro other _ different
    rw [← test.ringId] at different
    exact agree_accessBegin different
  plain := fun _ _ => load_accessBegin _

theorem accessEnd (test : TestRing ring fifo mapped) :
    TestRing ring { fifo with hal := halSrngAccessEnd fifo.hal fifo.id } mapped := by
  obtain ⟨at_, inv⟩ := test.inv
  exact { test with
    direct := test.direct.of_same (same_accessEnd _)
    inv := ⟨_, { inv.accessEnd test.handed with }⟩ }

theorem accessEnd_only (test : TestRing ring fifo mapped) :
    TestRingOnly fifo.hal (halSrngAccessEnd fifo.hal fifo.id) := by
  obtain ⟨at_, inv⟩ := test.inv
  have direct := test.direct
  rw [← test.ringId] at direct
  refine ⟨.accessEnd, ?_, ?_⟩
  · intro other otherDirect different
    rw [← test.ringId] at different
    exact agree_accessEnd inv.ready direct otherDirect different
  · intro address plain
    exact load_accessEnd inv.ready direct plain

theorem deviceConsume (test : TestRing ring fifo mapped)
    (behind : fifo.deviceTail ≠ fifo.publishedHead) :
    TestRing ring
      { fifo with
        consumed := fifo.consumed ++
          [(descPtr fifo.srng fifo.deviceTail,
            loadWords fifo.mem (descPtr fifo.srng fifo.deviceTail)
              fifo.srng.entrySize.toNat)]
        deviceTail := (fifo.deviceTail + fifo.srng.entrySize) % fifo.srng.ringSize }
      mapped := by
  obtain ⟨at_, inv⟩ := test.inv
  refine { test with inv := ⟨at_, inv.deviceConsume behind⟩, sent := ?_ }
  intro index entry pending lookup
  rw [List.length_append, List.length_singleton] at pending
  exact test.sent index entry (Nat.le_of_succ_le pending) lookup

theorem tpAddr_eq (test : TestRing ring fifo mapped) :
    fifo.srng.srcRing.tpAddr = (fifo.hal.srngList fifo.id).shadowAddr := by
  obtain ⟨at_, inv⟩ := test.inv
  simp only [HalSrng.shadowAddr, inv.ready.dir_eq, SourceFifo.srng]

theorem deviceStoreTail (test : TestRing ring fifo mapped) :
    TestRing ring
      { fifo with hal := fifo.hal.store fifo.srng.srcRing.tpAddr fifo.deviceTail }
      mapped := by
  obtain ⟨at_, inv⟩ := test.inv
  exact { test with
    direct := test.direct.of_same (Hal.same_store ..)
    inv := ⟨_, inv.deviceStoreTail⟩ }

theorem deviceStoreTail_only (test : TestRing ring fifo mapped) :
    TestRingOnly fifo.hal
      (fifo.hal.store fifo.srng.srcRing.tpAddr fifo.deviceTail) := by
  have direct := test.direct
  rw [← test.ringId] at direct
  rw [test.tpAddr_eq]
  refine ⟨.store _ _ _, ?_, ?_⟩
  · intro other otherDirect different
    rw [← test.ringId] at different
    exact agree_store_shadow direct otherDirect different _
  · intro address _
    exact load_store_shadow direct _

theorem map (test : TestRing ring fifo mapped) (blank : fifo.filled = [])
    (mapped' : Option UInt64) : TestRing ring fifo mapped' :=
  { test with
    sent := by
      intro index entry _ lookup
      rw [blank] at lookup
      contradiction }

theorem unmap (test : TestRing ring fifo mapped)
    (drained : fifo.consumed.length = fifo.filled.length) : TestRing ring fifo none :=
  { test with
    sent := by
      intro index entry pending lookup
      obtain ⟨upper, _⟩ := List.getElem?_eq_some_iff.mp lookup
      omega }

/-- The descriptors not yet taken are in the memory of the ring. -/
theorem sent_words (test : TestRing ring fifo mapped) {index : Nat}
    (pending : fifo.consumed.length ≤ index) (upper : index < fifo.filled.length) :
    ∃ paddr writeIndex, mapped = some paddr ∧
      slotWords fifo.mem ring.baseAddrOwnerSpace 5 (index % ring.nentries.toNat) =
        testSrcSetDesc (Driver.testSkb paddr) 0 0 writeIndex := by
  obtain ⟨at_, inv⟩ := test.inv
  have lookup := List.getElem?_eq_getElem upper
  obtain ⟨paddr, writeIndex, address, words⟩ := test.sent index _ pending lookup
  have held := inv.logs.window index _ pending lookup
  refine ⟨paddr, writeIndex, address, ?_⟩
  rw [test.nentries, ← words, ← held]
  rfl

end TestRing

/-! The send. -/

theorem halSrngSrcGetNextEntry_desc {hal hal' : Hal} {id desc : Nat}
    (entry : halSrngSrcGetNextEntry hal id = (hal', some desc)) :
    desc = descPtr (hal.srngList id) (hal.srngList id).srcRing.hp := by
  unfold halSrngSrcGetNextEntry at entry
  simp only at entry
  split at entry
  · cases entry
  · cases entry
    rfl

section Send

variable {ring : SrngTestRing} {fifo : SourceFifo} {mapped : Option UInt64}

theorem TestRing.store {paddr : UInt64} (test : TestRing ring fifo (some paddr))
    {hal : Hal} {desc : Nat}
    (entry : halSrngSrcGetNextEntry fifo.hal fifo.id = (hal, some desc)) (skb : Nat)
    (writeIndex : UInt32) :
    let words := testSrcSetDesc (Driver.testSkb paddr) 0 0 writeIndex
    TestRing (ring.fill desc words skb writeIndex)
      { fifo with
        hal := hal
        mem := storeWords fifo.mem desc words
        handed := []
        filled := fifo.filled ++ [(desc, words)] }
      (some paddr) := by
  intro words
  obtain ⟨at_, inv⟩ := test.inv
  have spec := halSrngSrcGetNextEntry_spec inv.ready inv.positions
  rw [entry] at spec
  have handsOut := (spec.imp And.right And.right).resolve_left (by simp)
  have handed := inv.handOut (.inr handsOut)
  have one : (fifo.handOut (hal, some desc)).handed = [desc] := by
    simp [SourceFifo.handOut, test.handed]
  have full : words.length = (fifo.handOut (hal, some desc)).srng.entrySize.toNat :=
    handed.ready.shape.entrySize_eq.symm
  have filled := handed.fill one full
  obtain ⟨hp, reapHp, update⟩ := handsOut.update
  refine
    { ringId := test.ringId
      nentries := test.nentries
      handed := rfl
      direct := ?_
      inv := ⟨at_, { filled with }⟩
      sent := ?_ }
  · simp only at update
    rw [update]
    exact test.direct.of_same (Hal.same_setSrc ..)
  · intro index value pending lookup
    obtain ⟨_, old⟩ | ⟨_, rfl⟩ := lookup_concat lookup
    · exact test.sent index value pending old
    · exact ⟨paddr, writeIndex, rfl, rfl⟩

theorem TestRing.storeEntry_only (test : TestRing ring fifo mapped)
    (same : ring.halRingId.toNat = fifo.id) (full : Int) (skb : Nat)
    (writeIndex : UInt32) (words : List UInt32) :
    TestRingOnly fifo.hal (storeEntry fifo.hal ring full skb writeIndex words).1 where
  setup := .storeEntry _ _ _ _ _
  agree := by
    intro other _ different
    rw [← test.ringId, ← same] at different
    exact agree_storeEntry _ _ _ _ _ different
  plain := fun _ _ => load_storeEntry _ _ _ _ _ _

end Send

end WirelessSimu
