import WirelessSimu.Hal.DestinationRing
import WirelessSimu.Hal.SourceFifo

namespace WirelessSimu

open Data Kernel

/-! One destination ring shared by a device and a driver. The device writes entries at its
own head, one slot short of the tail last published, and stores its head in the `rdp`
word at any later time. The driver takes entries between `access_begin` and
`access_end`; it may leave other words in an entry it has read, though `recv_next` only
reads the length. The two logs are history only: no operation reads them. -/

structure DestinationFifo where
  hal : Hal
  id : Nat
  mem : Nat → UInt32
  inSession : Bool
  handed : List Nat
  written : List (Nat × List UInt32)
  deviceHead : UInt32
  taken : List (Nat × List UInt32)

namespace DestinationFifo

inductive Event where
  | accessBegin
  | dstGetNextEntry
  | readEntry (left : List UInt32)
  | accessEnd
  | deviceWrite (words : List UInt32)
  | deviceStoreHead
  deriving DecidableEq, Repr

def srng (ring : DestinationFifo) : HalSrng := ring.hal.srngList ring.id

def publishedTail (ring : DestinationFifo) : UInt32 :=
  ring.hal.load ring.srng.dstRing.tpAddr

/-- The device has a slot to write to. -/
def HasRoom (ring : DestinationFifo) : Prop :=
  (ring.deviceHead + ring.srng.entrySize) % ring.srng.ringSize ≠ ring.publishedTail

instance (ring : DestinationFifo) : Decidable ring.HasRoom :=
  inferInstanceAs (Decidable (_ ≠ _))

def step (ring : DestinationFifo) : Event → Option DestinationFifo
  | .accessBegin =>
      if ring.inSession then none
      else some { ring with
        hal := halSrngAccessBegin ring.hal ring.id, inSession := true }
  | .dstGetNextEntry =>
      if ring.inSession then
        let result := halSrngDstGetNextEntry ring.hal ring.id
        some { ring with hal := result.1, handed := ring.handed ++ result.2.toList }
      else none
  | .readEntry left =>
      match ring.handed with
      | [] => none
      | desc :: rest =>
          if left.length = ring.srng.entrySize.toNat then
            some { ring with
              mem := storeWords ring.mem desc left
              handed := rest
              taken := ring.taken ++
                [(desc, loadWords ring.mem desc ring.srng.entrySize.toNat)] }
          else none
  | .accessEnd =>
      if ring.inSession ∧ ring.handed = [] then
        some { ring with
          hal := halSrngAccessEnd ring.hal ring.id, inSession := false }
      else none
  | .deviceWrite words =>
      if words.length = ring.srng.entrySize.toNat ∧ ring.HasRoom then
        let desc := descPtr ring.srng ring.deviceHead
        some { ring with
          mem := storeWords ring.mem desc words
          written := ring.written ++ [(desc, words)]
          deviceHead := (ring.deviceHead + ring.srng.entrySize) % ring.srng.ringSize }
      else none
  | .deviceStoreHead =>
      some { ring with
        hal := ring.hal.store ring.srng.dstRing.hpAddr ring.deviceHead }

/-- The ring right after `wireless_simu_hal_srng_setup` returned `id`. -/
def start (hal : Hal) (mem : Nat → UInt32) (id : Nat) : DestinationFifo where
  hal := hal
  id := id
  mem := mem
  inSession := false
  handed := []
  written := []
  deviceHead := 0
  taken := []

/-- What the device wrote and the driver has not read. -/
def unread (ring : DestinationFifo) : List (Nat × List UInt32) :=
  ring.written.drop ring.taken.length

/-- How many entries the cached head, the stored head and the published tail stand for. -/
structure Told where
  cached : Nat
  stored : Nat
  released : Nat

structure Inv (base entries size : Nat) (ring : DestinationFifo) (told : Told) :
    Prop where
  ready : RingReady ring.hal ring.id .dst base entries size
  positions : DstPositions entries size (ring.hal.dstView ring.id)
    (ring.taken.length + ring.handed.length) told.cached told.stored
  atReleased : StandsAt entries size (ring.hal.dstView ring.id).published told.released
  atDevice : StandsAt entries size ring.deviceHead ring.written.length
  released_le : told.released ≤ ring.taken.length
  stored_le : told.stored ≤ ring.written.length
  room : ring.written.length < told.released + entries
  handed_eq : ∀ index desc, ring.handed[index]? = some desc →
    desc = slotAddr base size ((ring.taken.length + index) % entries)
  window : Window entries (SourceFifo.cell ring.mem base size) ring.written
    ring.taken.length
  taken_prefix : ring.taken <+: ring.written

variable {base entries size : Nat} {ring next : DestinationFifo} {told : Told}

theorem Inv.handed_le (inv : Inv base entries size ring told) :
    ring.taken.length + ring.handed.length ≤ ring.written.length :=
  Nat.le_trans inv.positions.taken_le
    (Nat.le_trans inv.positions.cached_le inv.stored_le)

/-! One lemma for each event. -/

theorem Inv.accessBegin (inv : Inv base entries size ring told) :
    Inv base entries size
      { ring with hal := halSrngAccessBegin ring.hal ring.id, inSession := true }
      { told with cached := told.stored } :=
  { inv with
    ready := inv.ready.of_same (same_accessBegin _)
    positions := by
      rw [dstView_accessBegin inv.ready]
      exact inv.positions.sync
    atReleased := by
      simp only [dstView_accessBegin inv.ready]
      exact inv.atReleased }

theorem Inv.dstGetNextEntry (inv : Inv base entries size ring told) :
    Inv base entries size
      { ring with
        hal := (halSrngDstGetNextEntry ring.hal ring.id).1
        handed := ring.handed ++ (halSrngDstGetNextEntry ring.hal ring.id).2.toList }
      told := by
  obtain ⟨_, nothing⟩ | ⟨_, tp, found, positions⟩ :=
    halSrngDstGetNextEntry_spec inv.ready inv.positions
  · rw [nothing]
    simpa using inv
  · rw [found]
    refine { inv with
      ready := inv.ready.of_same (Hal.same_setDst ..)
      positions := ?_
      atReleased := ?_
      handed_eq := ?_ }
    · simpa [Hal.dstView_setDst, ← Nat.add_assoc] using positions
    · simp only [Hal.dstView_setDst]
      exact inv.atReleased
    · intro index desc lookup
      simp only [Option.toList] at lookup
      obtain ⟨_, old⟩ | ⟨rfl, rfl⟩ := lookup_concat lookup
      · exact inv.handed_eq index desc old
      · rfl

/-- The oldest entry handed out holds what the device wrote next. -/
theorem Inv.handed_cell (inv : Inv base entries size ring told) {desc : Nat}
    {rest : List Nat} (handed : ring.handed = desc :: rest) :
    (desc, loadWords ring.mem desc ring.srng.entrySize.toNat) =
      SourceFifo.cell ring.mem base size (ring.taken.length % entries) := by
  have descEq : desc = slotAddr base size (ring.taken.length % entries) :=
    inv.handed_eq 0 desc (by rw [handed]; rfl)
  rw [SourceFifo.cell, slotWords, descEq, srng, inv.ready.shape.entrySize_eq]

theorem Inv.readEntry (inv : Inv base entries size ring told) {desc : Nat}
    {rest : List Nat} {left : List UInt32} (handed : ring.handed = desc :: rest)
    (full : left.length = ring.srng.entrySize.toNat) :
    Inv base entries size
      { ring with
        mem := storeWords ring.mem desc left
        handed := rest
        taken := ring.taken ++
          [(desc, loadWords ring.mem desc ring.srng.entrySize.toNat)] } told := by
  have sizeEq : left.length = size := full.trans inv.ready.shape.entrySize_eq
  have descEq : desc = slotAddr base size (ring.taken.length % entries) :=
    inv.handed_eq 0 desc (by rw [handed]; rfl)
  have handedLe := inv.handed_le
  rw [handed, List.length_cons] at handedLe
  have room := inv.room
  have releasedLe := inv.released_le
  refine { inv with
    positions := ?_
    released_le := ?_
    handed_eq := ?_
    window := ?_
    taken_prefix := ?_ }
  · have positions := inv.positions
    rw [handed] at positions
    simpa [Nat.add_assoc, Nat.add_comm 1] using positions
  · rw [List.length_append]
    omega
  · intro index desc' lookup
    have shifted := inv.handed_eq (index + 1) desc' (by
      rw [handed]
      simpa using lookup)
    rw [shifted, List.length_append, List.length_singleton]
    congr 2
    omega
  · rw [List.length_append, List.length_singleton]
    refine inv.window.retire (by omega) fun slot different _ => ?_
    subst descEq
    rw [SourceFifo.cell, slotWords_store_of_ne _ _ sizeEq different, SourceFifo.cell]
  · rw [inv.handed_cell handed]
    exact inv.window.consume inv.taken_prefix (by omega)

theorem Inv.accessEnd (inv : Inv base entries size ring told)
    (allRead : ring.handed = []) :
    Inv base entries size
      { ring with hal := halSrngAccessEnd ring.hal ring.id, inSession := false }
      { told with released := ring.taken.length } :=
  { inv with
    ready := inv.ready.of_same (same_accessEnd _)
    positions := by
      simp only [dstView_accessEnd inv.ready]
      exact { inv.positions with }
    atReleased := by
      have atTp := inv.positions.atTp
      simp only [allRead, List.length_nil, Nat.add_zero] at atTp
      simpa only [dstView_accessEnd inv.ready] using atTp
    released_le := Nat.le_refl _
    room := Nat.lt_of_lt_of_le inv.room (Nat.add_le_add_right inv.released_le entries) }

theorem Inv.publishedTail_eq (inv : Inv base entries size ring told) :
    ring.publishedTail = (ring.hal.dstView ring.id).published := by
  have dir := inv.ready.dir_eq
  simp only [publishedTail, srng, Hal.dstView, HalSrng.publishAddr, dir]

/-- The device's test is exact: it stops one entry short of a full ring. -/
theorem Inv.hasRoom_iff (inv : Inv base entries size ring told) :
    ring.HasRoom ↔ ring.written.length + 1 < told.released + entries := by
  have releasedLe := inv.released_le
  have handedLe := inv.handed_le
  have room := inv.room
  rw [HasRoom, inv.publishedTail_eq, ne_eq, srng,
    nextHp_eq_iff inv.ready.shape inv.atDevice inv.atReleased (by omega) room]
  omega

theorem Inv.deviceSlot (inv : Inv base entries size ring told) :
    descPtr ring.srng ring.deviceHead =
      slotAddr base size (ring.written.length % entries) := by
  have slot := inv.ready.shape.descPtr_eq inv.atDevice
  rw [inv.ready.base_eq] at slot
  exact slot

theorem Inv.deviceWrite (inv : Inv base entries size ring told) {words : List UInt32}
    (full : words.length = ring.srng.entrySize.toNat) (hasRoom : ring.HasRoom) :
    Inv base entries size
      { ring with
        mem := storeWords ring.mem (descPtr ring.srng ring.deviceHead) words
        written := ring.written ++ [(descPtr ring.srng ring.deviceHead, words)]
        deviceHead := (ring.deviceHead + ring.srng.entrySize) % ring.srng.ringSize }
      told := by
  have sizeEq : words.length = size := full.trans inv.ready.shape.entrySize_eq
  have free := inv.hasRoom_iff.mp hasRoom
  have releasedLe := inv.released_le
  rw [inv.deviceSlot]
  refine { inv with
    atDevice := ?_
    stored_le := ?_
    room := ?_
    window := ?_
    taken_prefix := ?_ }
  · rw [List.length_append, List.length_singleton]
    exact inv.ready.shape.advance_mod inv.atDevice
  · rw [List.length_append]
    exact Nat.le_add_right_of_le inv.stored_le
  · rw [List.length_append]
    exact free
  · refine inv.window.push (by omega) ?_ fun slot different _ => ?_
    · rw [SourceFifo.cell, slotWords_store_self _ _ _ sizeEq]
    · rw [SourceFifo.cell, slotWords_store_of_ne _ _ sizeEq different, SourceFifo.cell]
  · exact inv.taken_prefix.trans (List.prefix_append _ _)

theorem Inv.deviceStoreHead (inv : Inv base entries size ring told) :
    Inv base entries size
      { ring with hal := ring.hal.store ring.srng.dstRing.hpAddr ring.deviceHead }
      { told with stored := ring.written.length } := by
  have address : ring.srng.dstRing.hpAddr =
      (ring.hal.srngList ring.id).shadowAddr := by
    simp only [HalSrng.shadowAddr, inv.ready.dir_eq, srng]
  have releasedLe := inv.released_le
  have room := inv.room
  rw [address]
  exact { inv with
    ready := inv.ready.of_same (Hal.same_store ..)
    positions := by
      simp only [dstView_store_shadow inv.ready]
      exact inv.positions.store inv.atDevice inv.stored_le (by omega)
    atReleased := by
      simp only [dstView_store_shadow inv.ready]
      exact inv.atReleased
    stored_le := Nat.le_refl _ }

theorem Inv.step (inv : Inv base entries size ring told) {event : Event}
    (stepped : ring.step event = some next) :
    ∃ later, Inv base entries size next later := by
  cases event with
  | accessBegin =>
      simp only [DestinationFifo.step] at stepped
      split at stepped
      · contradiction
      · cases stepped
        exact ⟨_, inv.accessBegin⟩
  | dstGetNextEntry =>
      simp only [DestinationFifo.step] at stepped
      split at stepped
      · cases stepped
        exact ⟨told, inv.dstGetNextEntry⟩
      · contradiction
  | readEntry left =>
      simp only [DestinationFifo.step] at stepped
      split at stepped
      · contradiction
      next handed =>
          split at stepped
          next full =>
              cases stepped
              exact ⟨told, inv.readEntry handed full⟩
          next => contradiction
  | accessEnd =>
      simp only [DestinationFifo.step] at stepped
      split at stepped
      next ready =>
          cases stepped
          exact ⟨_, inv.accessEnd ready.2⟩
      next => contradiction
  | deviceWrite words =>
      simp only [DestinationFifo.step] at stepped
      split at stepped
      next allowed =>
          cases stepped
          exact ⟨told, inv.deviceWrite allowed.1 allowed.2⟩
      next => contradiction
  | deviceStoreHead =>
      cases stepped
      exact ⟨_, inv.deviceStoreHead⟩

theorem start_inv {hal hal' : Hal} {mem mem' : Nat → UInt32} {type : HalRingType}
    {ringNum macId : Int} {params : HalSrngParams} {id : Nat}
    (setup : halSrngSetup hal mem type ringNum macId params = (hal', mem', (id : Int)))
    (destination : (hal.srngConfig type).ringDir = .dst)
    (entriesPos : 0 < params.numEntries.toUInt32.toNat)
    (sizePos : 0 < (hal.srngConfig type).entrySize.toNat)
    (fits : params.numEntries.toUInt32.toNat *
      (hal.srngConfig type).entrySize.toNat < 2 ^ 32)
    (shared : SharedWordsClear hal type id) :
    Inv params.ringBaseVaddr params.numEntries.toUInt32.toNat
      (hal.srngConfig type).entrySize.toNat (start hal' mem' id) ⟨0, 0, 0⟩ := by
  have done := halSrngSetup_done setup
  exact
    { ready := done.ready destination entriesPos sizePos fits
      positions := done.dstPositions destination entriesPos shared _
      atReleased := by
        simp only [start, Hal.dstView, done.publish_zero shared]
        exact .zero _ _
      atDevice := .zero _ _
      released_le := Nat.le_refl _
      stored_le := Nat.le_refl _
      room := by simpa [start] using entriesPos
      handed_eq := by simp [start]
      window := .empty
      taken_prefix := List.prefix_refl _ }

theorem run_inv {events : List Event} (reached : run step ring events = some next)
    (inv : Inv base entries size ring told) :
    ∃ later, Inv base entries size next later :=
  run_invariant (fun ring => ∃ told, Inv base entries size ring told)
    (fun _ _ _ stepped ⟨_, inv⟩ => inv.step stepped) reached ⟨told, inv⟩

/-- Entry `index` of what is unread, in the memory of the ring. -/
theorem Inv.unread_held (inv : Inv base entries size ring told) {index : Nat}
    {entry : Nat × List UInt32} (lookup : ring.unread[index]? = some entry) :
    ring.taken.length + index < ring.written.length ∧
      SourceFifo.cell ring.mem base size ((ring.taken.length + index) % entries) =
        entry := by
  rw [unread, List.getElem?_drop] at lookup
  obtain ⟨indexLt, _⟩ := List.getElem?_eq_some_iff.mp lookup
  exact ⟨indexLt, inv.window _ _ (Nat.le_add_right _ index) lookup⟩

/-- The slot the device writes next holds nothing that is unread. -/
theorem Inv.deviceSlot_fresh (inv : Inv base entries size ring told)
    (hasRoom : ring.HasRoom) :
    descPtr ring.srng ring.deviceHead ∉ ring.unread.map Prod.fst := by
  have free := inv.hasRoom_iff.mp hasRoom
  have releasedLe := inv.released_le
  rw [inv.deviceSlot]
  intro member
  obtain ⟨entry, isUnread, address⟩ := List.mem_map.mp member
  obtain ⟨index, lookup⟩ := List.mem_iff_getElem?.mp isUnread
  obtain ⟨indexLt, held⟩ := inv.unread_held lookup
  rw [← held] at address
  have same := slotAddr_inj inv.ready.shape.size_pos address
  have := mod_eq_of_window (by omega) (by omega) same
  omega

/-- `dst_get_next_entry` returns the first unread entry that was not handed out yet, and
the ring holds in it what the device wrote. -/
theorem Inv.nextEntry (inv : Inv base entries size ring told) {desc : Nat}
    (found : (halSrngDstGetNextEntry ring.hal ring.id).2 = some desc) :
    ring.unread[ring.handed.length]? =
      some (desc, loadWords ring.mem desc ring.srng.entrySize.toNat) := by
  obtain ⟨_, nothing⟩ | ⟨ahead, _, result, _⟩ :=
    halSrngDstGetNextEntry_spec inv.ready inv.positions
  · rw [nothing] at found
    contradiction
  · rw [result] at found
    have cachedLe := inv.positions.cached_le
    have storedLe := inv.stored_le
    have below : ring.taken.length + ring.handed.length < ring.written.length := by
      omega
    obtain ⟨entry, lookup⟩ : ∃ entry, ring.unread[ring.handed.length]? = some entry := by
      rw [unread, List.getElem?_drop, List.getElem?_eq_getElem below]
      exact ⟨_, rfl⟩
    have held := (inv.unread_held lookup).2
    have descEq := Option.some.inj found
    simp only [SourceFifo.cell, slotWords, descEq] at held
    rw [lookup, ← held, srng, inv.ready.shape.entrySize_eq]

/-- The destination ring is a FIFO channel from the device to the driver: whatever the
order of their steps, the driver reads a prefix of what the device wrote, an entry it is
handed is the next one it has not read, as the device left it, and the device never
writes over one that is unread. -/
theorem destinationRing_fifo {hal hal' : Hal} {mem mem' : Nat → UInt32}
    {type : HalRingType} {ringNum macId : Int} {params : HalSrngParams} {id : Nat}
    (setup : halSrngSetup hal mem type ringNum macId params = (hal', mem', (id : Int)))
    (destination : (hal.srngConfig type).ringDir = .dst)
    (entriesPos : 0 < params.numEntries.toUInt32.toNat)
    (sizePos : 0 < (hal.srngConfig type).entrySize.toNat)
    (fits : params.numEntries.toUInt32.toNat *
      (hal.srngConfig type).entrySize.toNat < 2 ^ 32)
    (shared : SharedWordsClear hal type id)
    {events : List Event} {ring : DestinationFifo}
    (reached : run step (start hal' mem' id) events = some ring) :
    ring.taken <+: ring.written ∧
      (∀ desc, (halSrngDstGetNextEntry ring.hal ring.id).2 = some desc →
        ring.unread[ring.handed.length]? =
          some (desc, loadWords ring.mem desc ring.srng.entrySize.toNat)) ∧
      (ring.HasRoom →
        descPtr ring.srng ring.deviceHead ∉ ring.unread.map Prod.fst) := by
  obtain ⟨told, inv⟩ := run_inv reached
    (start_inv setup destination entriesPos sizePos fits shared)
  exact ⟨inv.taken_prefix, fun desc found => inv.nextEntry found,
    fun hasRoom => inv.deviceSlot_fresh hasRoom⟩

/-- A ring of three entries in a fixed place. -/
def threeEntries : HalSrngParams :=
  { ringBasePaddr := 0x1000, ringBaseVaddr := 0x8000, numEntries := 3,
    intrBatchCntrThresEntries := 0, intrTimerThresUs := 0, flags := 0,
    lowThreshold := 0, msiAddr := 0, msiData := 0 }

/-- Two entries written, one of them reported, read and cleared. -/
def readOne : List Event :=
  [.deviceWrite [7, 8], .deviceStoreHead, .deviceWrite [9, 10], .accessBegin,
    .dstGetNextEntry, .readEntry [0, 8], .dstGetNextEntry, .accessEnd]

theorem destinationRing_fifo_three :
    let setup := halSrngSetup (halSrngInit false 0x2000 fun _ => 0) (fun _ => 0)
      .testSrngDstStatus 0 0 threeEntries
    ∃ ring, run step (start setup.1 setup.2.1 1) readOne = some ring ∧
      ring.taken = [(0x8000, [7, 8])] ∧
      ring.taken <+: ring.written := by
  intro setup
  have taken : (run step (start setup.1 setup.2.1 1) readOne).map
      DestinationFifo.taken = some [(0x8000, [7, 8])] := by decide +kernel
  obtain ⟨ring, reached, takenEq⟩ := Option.map_eq_some_iff.mp taken
  have setupEq : setup = (setup.1, setup.2.1, ((1 : Nat) : Int)) :=
    Prod.ext rfl (Prod.ext rfl (by decide +kernel))
  have clear : SharedWordsClear (halSrngInit false 0x2000 fun _ => 0)
      .testSrngDstStatus 1 := by
    simp [SharedWordsClear, halSrngInit, hwSrngConfigTemplate]
  exact ⟨ring, reached, takenEq,
    (destinationRing_fifo setupEq rfl (by decide) (by decide) (by decide) clear
      reached).1⟩

end DestinationFifo

end WirelessSimu
