import WirelessSimu.Data.Run
import WirelessSimu.Hal.SourceRing

namespace WirelessSimu

open Data Kernel

/-! One source ring shared by a driver and a device. Driver sessions run from
`access_begin` to `access_end`; the device takes descriptors at its own tail
until the head value last published, and stores its tail in the `rdp` word at
any later time. The two logs are history only: no operation reads them. -/

structure SourceFifo where
  hal : Hal
  id : Nat
  mem : Nat → UInt32
  inSession : Bool
  handed : List Nat
  filled : List (Nat × List UInt32)
  deviceTail : UInt32
  consumed : List (Nat × List UInt32)

namespace SourceFifo

inductive Event where
  | accessBegin
  | srcNumFree (syncHwPtr : Bool)
  | srcGetNextEntry
  | srcGetNextReaped
  | fill (words : List UInt32)
  | accessEnd
  | deviceConsume
  | deviceStoreTail
  deriving DecidableEq, Repr

def srng (ring : SourceFifo) : HalSrng := ring.hal.srngList ring.id

def publishedHead (ring : SourceFifo) : UInt32 :=
  ring.hal.load ring.srng.srcRing.hpAddr

def handOut (ring : SourceFifo) (result : Hal × Option Nat) : SourceFifo :=
  { ring with hal := result.1, handed := ring.handed ++ result.2.toList }

def step (ring : SourceFifo) : Event → Option SourceFifo
  | .accessBegin =>
      if ring.inSession then none
      else some { ring with
        hal := halSrngAccessBegin ring.hal ring.id, inSession := true }
  | .srcNumFree syncHwPtr =>
      if ring.inSession then
        some { ring with hal := (halSrngSrcNumFree ring.hal ring.id syncHwPtr).1 }
      else none
  | .srcGetNextEntry =>
      if ring.inSession then
        some (ring.handOut (halSrngSrcGetNextEntry ring.hal ring.id))
      else none
  | .srcGetNextReaped =>
      if ring.inSession then
        some (ring.handOut (halSrngSrcGetNextReaped ring.hal ring.id))
      else none
  | .fill words =>
      match ring.handed with
      | [] => none
      | desc :: rest =>
          if words.length = ring.srng.entrySize.toNat then
            some { ring with
              mem := storeWords ring.mem desc words
              handed := rest
              filled := ring.filled ++ [(desc, words)] }
          else none
  | .accessEnd =>
      if ring.inSession ∧ ring.handed = [] then
        some { ring with
          hal := halSrngAccessEnd ring.hal ring.id, inSession := false }
      else none
  | .deviceConsume =>
      if ring.deviceTail = ring.publishedHead then none
      else
        let desc := descPtr ring.srng ring.deviceTail
        some { ring with
          consumed := ring.consumed ++
            [(desc, loadWords ring.mem desc ring.srng.entrySize.toNat)]
          deviceTail := (ring.deviceTail + ring.srng.entrySize) %
            ring.srng.ringSize }
  | .deviceStoreTail =>
      some { ring with
        hal := ring.hal.store ring.srng.srcRing.tpAddr ring.deviceTail }

/-- The ring right after `wireless_simu_hal_srng_setup` returned `id`. -/
def start (hal : Hal) (mem : Nat → UInt32) (id : Nat) : SourceFifo where
  hal := hal
  id := id
  mem := mem
  inSession := false
  handed := []
  filled := []
  deviceTail := 0
  consumed := []

def outstanding (ring : SourceFifo) : List (Nat × List UInt32) :=
  ring.filled.drop ring.consumed.length

def cell (mem : Nat → UInt32) (base size slot : Nat) : Nat × List UInt32 :=
  (slotAddr base size slot, slotWords mem base size slot)

def handedOut (ring : SourceFifo) : Nat := ring.filled.length + ring.handed.length

structure Logs (base entries size : Nat) (mem : Nat → UInt32) (handed : List Nat)
    (filled consumed : List (Nat × List UInt32)) : Prop where
  handed_eq : ∀ index desc, handed[index]? = some desc →
    desc = slotAddr base size ((filled.length + index) % entries)
  window : Window entries (cell mem base size) filled consumed.length
  consumed_prefix : consumed <+: filled

structure Inv (base entries size : Nat) (ring : SourceFifo) (at_ : Progress) :
    Prop where
  ready : RingReady ring.hal ring.id .src base entries size
  positions : SrcPositions entries size at_ (ring.hal.srcView ring.id)
    ring.handedOut
  atDevice : StandsAt entries size ring.deviceTail ring.consumed.length
  stored_le : at_.stored ≤ ring.consumed.length
  consumed_le : ring.consumed.length ≤ at_.published
  published_le : at_.published ≤ ring.filled.length
  logs : Logs base entries size ring.mem ring.handed ring.filled ring.consumed

variable {base entries size : Nat} {ring next : SourceFifo} {at_ : Progress}

theorem Inv.handedOut_lt (inv : Inv base entries size ring at_) :
    ring.handedOut < ring.consumed.length + entries := by
  have := inv.positions.handedOut_lt
  have := inv.positions.cached_le
  have := inv.stored_le
  omega

/-! One lemma for each event. -/

theorem Inv.accessBegin (inv : Inv base entries size ring at_) :
    Inv base entries size
      { ring with hal := halSrngAccessBegin ring.hal ring.id, inSession := true }
      { at_ with cached := at_.stored } :=
  { inv with
    ready := inv.ready.of_same (same_accessBegin _)
    positions := by
      rw [srcView_accessBegin inv.ready]
      exact inv.positions.sync }

theorem Inv.srcNumFree (inv : Inv base entries size ring at_) (syncHwPtr : Bool) :
    ∃ later, Inv base entries size
      { ring with hal := (halSrngSrcNumFree ring.hal ring.id syncHwPtr).1 }
      later := by
  cases syncHwPtr with
  | false => exact ⟨at_, inv⟩
  | true =>
      refine ⟨{ at_ with cached := at_.stored }, ?_⟩
      rw [halSrngSrcNumFree_sync inv.ready.dir_eq]
      exact { inv with
        ready := inv.ready.of_same (Hal.same_setSrc ..)
        positions := by
          simp only [Hal.srcView_setSrc]
          exact inv.positions.sync }

theorem Inv.handOut (inv : Inv base entries size ring at_)
    {result : Hal × Option Nat}
    (outcome : result = (ring.hal, none) ∨
      HandsOut ring.hal ring.id base entries size ring.handedOut at_ result) :
    Inv base entries size (ring.handOut result) at_ := by
  obtain rfl | handsOut := outcome
  · simpa [SourceFifo.handOut] using inv
  · obtain ⟨hp, reapHp, update⟩ := handsOut.update
    have positions := handsOut.positions
    obtain ⟨hal, desc⟩ := result
    have descEq : desc = some _ := handsOut.desc
    subst descEq update
    refine
      { ready := inv.ready.of_same (Hal.same_setSrc ..)
        positions := ?_
        atDevice := inv.atDevice
        stored_le := inv.stored_le
        consumed_le := inv.consumed_le
        published_le := inv.published_le
        logs := { inv.logs with handed_eq := ?_ } }
    · simpa [SourceFifo.handedOut, SourceFifo.handOut, ← Nat.add_assoc]
        using positions
    · intro index desc lookup
      simp only [SourceFifo.handOut, Option.toList] at lookup
      obtain ⟨_, old⟩ | ⟨rfl, rfl⟩ := lookup_concat lookup
      · exact inv.logs.handed_eq index desc old
      · rfl

theorem Inv.fill (inv : Inv base entries size ring at_) {desc : Nat}
    {rest : List Nat} {words : List UInt32} (handed : ring.handed = desc :: rest)
    (full : words.length = ring.srng.entrySize.toNat) :
    Inv base entries size
      { ring with
        mem := storeWords ring.mem desc words
        handed := rest
        filled := ring.filled ++ [(desc, words)] } at_ := by
  have sizeEq : words.length = size := full.trans inv.ready.shape.entrySize_eq
  have descEq : desc =
      slotAddr base size (ring.filled.length % entries) :=
    inv.logs.handed_eq 0 desc (by rw [handed]; rfl)
  have room : ring.filled.length < ring.consumed.length + entries := by
    have := inv.handedOut_lt
    rw [handedOut] at this
    omega
  subst descEq
  exact
    { ready := inv.ready
      positions := by
        have positions := inv.positions
        rw [handedOut, handed] at positions
        simpa [handedOut, Nat.add_assoc, Nat.add_comm 1] using positions
      atDevice := inv.atDevice
      stored_le := inv.stored_le
      consumed_le := inv.consumed_le
      published_le := by
        simp only [List.length_append, List.length_singleton]
        exact Nat.le_succ_of_le inv.published_le
      logs :=
        { handed_eq := by
            intro index desc lookup
            have shifted := inv.logs.handed_eq (index + 1) desc (by
              rw [handed]
              simpa using lookup)
            rw [shifted, List.length_append, List.length_singleton]
            congr 2
            omega
          window := inv.logs.window.push room
            (by rw [cell, slotWords_store_self _ _ _ sizeEq])
            (fun slot different _ => by
              rw [cell, slotWords_store_of_ne _ _ sizeEq different, cell])
          consumed_prefix := inv.logs.consumed_prefix.trans
            (List.prefix_append _ _) } }

theorem Inv.accessEnd (inv : Inv base entries size ring at_)
    (allFilled : ring.handed = []) :
    Inv base entries size
      { ring with hal := halSrngAccessEnd ring.hal ring.id, inSession := false }
      { at_ with published := ring.handedOut } :=
  { inv with
    ready := inv.ready.of_same (same_accessEnd _)
    positions := by
      simp only [srcView_accessEnd inv.ready]
      exact inv.positions.publish
    consumed_le := Nat.le_trans inv.consumed_le
      (Nat.le_trans inv.published_le (Nat.le_add_right _ _))
    published_le := by simp [handedOut, allFilled] }

theorem Inv.publishedHead_eq (inv : Inv base entries size ring at_) :
    ring.publishedHead = (ring.hal.srcView ring.id).published := by
  have dir := inv.ready.dir_eq
  simp only [publishedHead, srng, Hal.srcView, HalSrng.publishAddr, dir]

theorem Inv.deviceConsume (inv : Inv base entries size ring at_)
    (behind : ring.deviceTail ≠ ring.publishedHead) :
    Inv base entries size
      { ring with
        consumed := ring.consumed ++
          [(descPtr ring.srng ring.deviceTail,
            loadWords ring.mem (descPtr ring.srng ring.deviceTail)
              ring.srng.entrySize.toNat)]
        deviceTail := (ring.deviceTail + ring.srng.entrySize) %
          ring.srng.ringSize } at_ := by
  have shape : RingShape ring.srng entries size := inv.ready.shape
  have publishedLt : ring.consumed.length < at_.published := by
    apply Nat.lt_of_le_of_ne inv.consumed_le
    intro equal
    apply behind
    rw [inv.publishedHead_eq, ← UInt32.toNat_inj, inv.positions.atPublished,
      inv.atDevice, equal]
  have filledLt : ring.consumed.length < ring.filled.length :=
    Nat.lt_of_lt_of_le publishedLt inv.published_le
  have read : (descPtr ring.srng ring.deviceTail,
      loadWords ring.mem (descPtr ring.srng ring.deviceTail)
        ring.srng.entrySize.toNat) =
      cell ring.mem base size (ring.consumed.length % entries) := by
    rw [shape.descPtr_eq inv.atDevice, shape.entrySize_eq, cell, slotWords]
    rw [show ring.srng.ringBaseVaddr = base from inv.ready.base_eq]
  rw [read]
  exact
    { ready := inv.ready
      positions := inv.positions
      atDevice := by
        rw [List.length_append, List.length_singleton]
        exact shape.advance_mod inv.atDevice
      stored_le := by
        rw [List.length_append]
        exact Nat.le_add_right_of_le inv.stored_le
      consumed_le := by
        rw [List.length_append, List.length_singleton]
        exact publishedLt
      published_le := inv.published_le
      logs :=
        { handed_eq := inv.logs.handed_eq
          window := inv.logs.window.mono (by simp)
          consumed_prefix :=
            inv.logs.window.consume inv.logs.consumed_prefix filledLt } }

theorem Inv.deviceStoreTail (inv : Inv base entries size ring at_) :
    Inv base entries size
      { ring with hal := ring.hal.store ring.srng.srcRing.tpAddr ring.deviceTail }
      { at_ with stored := ring.consumed.length } := by
  have address : ring.srng.srcRing.tpAddr =
      (ring.hal.srngList ring.id).shadowAddr := by
    simp only [HalSrng.shadowAddr, inv.ready.dir_eq, srng]
  rw [address]
  exact { inv with
    ready := inv.ready.of_same (Hal.same_store ..)
    positions := by
      simp only [srcView_store_shadow inv.ready]
      refine inv.positions.store inv.atDevice inv.stored_le ?_
      have := inv.consumed_le
      have := inv.published_le
      simp only [handedOut]
      omega
    stored_le := Nat.le_refl _ }

theorem Inv.step (inv : Inv base entries size ring at_) {event : Event}
    (stepped : ring.step event = some next) :
    ∃ later, Inv base entries size next later := by
  cases event with
  | accessBegin =>
      simp only [SourceFifo.step] at stepped
      split at stepped
      · contradiction
      · cases stepped
        exact ⟨_, inv.accessBegin⟩
  | srcNumFree syncHwPtr =>
      simp only [SourceFifo.step] at stepped
      split at stepped
      · cases stepped
        exact inv.srcNumFree syncHwPtr
      · contradiction
  | srcGetNextEntry =>
      simp only [SourceFifo.step] at stepped
      split at stepped
      · cases stepped
        exact ⟨at_, inv.handOut
          ((halSrngSrcGetNextEntry_spec inv.ready inv.positions).imp
            And.right And.right)⟩
      · contradiction
  | srcGetNextReaped =>
      simp only [SourceFifo.step] at stepped
      split at stepped
      · cases stepped
        exact ⟨at_, inv.handOut
          (halSrngSrcGetNextReaped_spec inv.ready inv.positions)⟩
      · contradiction
  | fill words =>
      simp only [SourceFifo.step] at stepped
      split at stepped
      · contradiction
      next handed =>
          split at stepped
          next full =>
              cases stepped
              exact ⟨at_, inv.fill handed full⟩
          next => contradiction
  | accessEnd =>
      simp only [SourceFifo.step] at stepped
      split at stepped
      next ready =>
          cases stepped
          exact ⟨_, inv.accessEnd ready.2⟩
      next => contradiction
  | deviceConsume =>
      simp only [SourceFifo.step] at stepped
      split at stepped
      next => contradiction
      next behind =>
          cases stepped
          exact ⟨at_, inv.deviceConsume behind⟩
  | deviceStoreTail =>
      simp only [SourceFifo.step] at stepped
      cases stepped
      exact ⟨_, inv.deviceStoreTail⟩

/-- An entry is only ever handed out in a slot that holds nothing the device
still has to take. -/
theorem Inv.handOut_fresh (inv : Inv base entries size ring at_)
    {result : Hal × Option Nat} {desc : Nat}
    (outcome : result = (ring.hal, none) ∨
      HandsOut ring.hal ring.id base entries size ring.handedOut at_ result)
    (handed : result.2 = some desc) :
    desc ∉ ring.outstanding.map Prod.fst ∧ desc ∉ ring.handed := by
  have sizePos := inv.ready.shape.size_pos
  have bound := inv.handedOut_lt
  obtain rfl | handsOut := outcome
  · contradiction
  · have descEq : desc = slotAddr base size (ring.handedOut % entries) :=
      Option.some.inj (handed.symm.trans handsOut.desc)
    subst descEq
    constructor
    · intro member
      obtain ⟨entry, inOutstanding, address⟩ := List.mem_map.mp member
      obtain ⟨offset, lookup⟩ := List.mem_iff_getElem?.mp inOutstanding
      rw [outstanding, List.getElem?_drop] at lookup
      obtain ⟨indexLt, _⟩ := List.getElem?_eq_some_iff.mp lookup
      have held := inv.logs.window _ _ (Nat.le_add_right _ offset) lookup
      rw [← held] at address
      have same := slotAddr_inj sizePos address
      have := mod_eq_of_window (by simp only [handedOut]; omega)
        (by omega) same
      simp only [handedOut] at this
      omega
    · intro member
      obtain ⟨index, lookup⟩ := List.mem_iff_getElem?.mp member
      obtain ⟨indexLt, _⟩ := List.getElem?_eq_some_iff.mp lookup
      have address := inv.logs.handed_eq index _ lookup
      have same := slotAddr_inj sizePos address
      have consumedLe := inv.consumed_le
      have publishedLe := inv.published_le
      have := mod_eq_of_window (by simp only [handedOut]; omega)
        (by omega) same.symm
      simp only [handedOut] at this
      omega

theorem start_inv {hal hal' : Hal} {mem mem' : Nat → UInt32} {type : HalRingType}
    {ringNum macId : Int} {params : HalSrngParams} {id : Nat}
    (setup : halSrngSetup hal mem type ringNum macId params = (hal', mem', (id : Int)))
    (source : (hal.srngConfig type).ringDir = .src)
    (entriesPos : 0 < params.numEntries.toUInt32.toNat)
    (sizePos : 0 < (hal.srngConfig type).entrySize.toNat)
    (fits : params.numEntries.toUInt32.toNat *
      (hal.srngConfig type).entrySize.toNat < 2 ^ 32)
    (shared : SharedWordsClear hal type id) :
    Inv params.ringBaseVaddr params.numEntries.toUInt32.toNat
      (hal.srngConfig type).entrySize.toNat (start hal' mem' id) ⟨0, 0, 0⟩ := by
  have done := halSrngSetup_done setup
  have ready := done.ready source entriesPos sizePos fits
  exact
    { ready := ready
      positions := done.srcPositions source entriesPos sizePos fits shared
      atDevice := .zero _ _
      stored_le := Nat.le_refl _
      consumed_le := Nat.le_refl _
      published_le := Nat.le_refl _
      logs := ⟨by simp [start], .empty, List.prefix_refl _⟩ }

theorem run_inv {events : List Event}
    (reached : run step ring events = some next)
    (inv : Inv base entries size ring at_) :
    ∃ later, Inv base entries size next later :=
  run_invariant (fun ring => ∃ at_, Inv base entries size ring at_)
    (fun _ _ _ stepped ⟨_, inv⟩ => inv.step stepped) reached ⟨at_, inv⟩

/-- The source ring is a FIFO channel: whatever the order of driver and device
steps, the device takes a prefix of what the driver filled in, and a slot is
handed out again only after the device took what it holds. -/
theorem sourceRing_fifo {hal hal' : Hal} {mem mem' : Nat → UInt32}
    {type : HalRingType} {ringNum macId : Int} {params : HalSrngParams} {id : Nat}
    (setup : halSrngSetup hal mem type ringNum macId params = (hal', mem', (id : Int)))
    (source : (hal.srngConfig type).ringDir = .src)
    (entriesPos : 0 < params.numEntries.toUInt32.toNat)
    (sizePos : 0 < (hal.srngConfig type).entrySize.toNat)
    (fits : params.numEntries.toUInt32.toNat *
      (hal.srngConfig type).entrySize.toNat < 2 ^ 32)
    (shared : SharedWordsClear hal type id)
    {events : List Event} {ring : SourceFifo}
    (reached : run step (start hal' mem' id) events = some ring) :
    ring.consumed <+: ring.filled ∧
      ∀ desc, (halSrngSrcGetNextEntry ring.hal ring.id).2 = some desc ∨
          (halSrngSrcGetNextReaped ring.hal ring.id).2 = some desc →
        desc ∉ ring.outstanding.map Prod.fst ∧ desc ∉ ring.handed := by
  obtain ⟨at_, inv⟩ := run_inv reached
    (start_inv setup source entriesPos sizePos fits shared)
  refine ⟨inv.logs.consumed_prefix, ?_⟩
  rintro desc (entry | reaped)
  · exact inv.handOut_fresh
      ((halSrngSrcGetNextEntry_spec inv.ready inv.positions).imp
        And.right And.right) entry
  · exact inv.handOut_fresh
      (halSrngSrcGetNextReaped_spec inv.ready inv.positions) reaped

/-- Two of three slots filled through both functions, one of them taken. -/
def fillTwo : List Event :=
  [.accessBegin, .srcGetNextReaped, .fill [1, 2, 3, 4, 5], .srcGetNextEntry,
    .fill [6, 7, 8, 9, 10], .accessEnd, .deviceConsume, .deviceStoreTail]

theorem sourceRing_fifo_three :
    let params : HalSrngParams :=
      { ringBasePaddr := 0x1000, ringBaseVaddr := 0x8000, numEntries := 3,
        intrBatchCntrThresEntries := 0, intrTimerThresUs := 0, flags := 0,
        lowThreshold := 0, msiAddr := 0, msiData := 0 }
    let setup := halSrngSetup (halSrngInit false 0x2000 fun _ => 0) (fun _ => 0)
      .testSrng 0 0 params
    ∃ ring, run step (start setup.1 setup.2.1 125) fillTwo = some ring ∧
      ring.consumed = [(0x8000, [1, 2, 3, 4, 5])] ∧
      ring.consumed <+: ring.filled := by
  intro params setup
  have taken : (run step (start setup.1 setup.2.1 125) fillTwo).map
      consumed = some [(0x8000, [1, 2, 3, 4, 5])] := by decide +kernel
  obtain ⟨ring, reached, consumedEq⟩ := Option.map_eq_some_iff.mp taken
  have setupEq : setup = (setup.1, setup.2.1, ((125 : Nat) : Int)) :=
    Prod.ext rfl (Prod.ext rfl (by decide +kernel))
  have clear : SharedWordsClear (halSrngInit false 0x2000 fun _ => 0) .testSrng 125 := by
    simp [SharedWordsClear, halSrngInit, hwSrngConfigTemplate]
  exact ⟨ring, reached, consumedEq,
    (sourceRing_fifo setupEq rfl (by decide) (by decide) (by decide) clear reached).1⟩

end SourceFifo

end WirelessSimu
