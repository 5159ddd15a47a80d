import WirelessSimu.Data.Channel
import WirelessSimu.Hal.DestinationFifo

namespace WirelessSimu

open Data Kernel

/-! A ring of either direction is the bounded channel of one slot less than it has. The
caches that the driver keeps of the device's pointer words do not show in the channel:
they only ever lag behind. -/

namespace SourceFifo

/-- What an event is to the channel from the driver to the device. -/
def trace (ring : SourceFifo) : Event → List (Channel.Event (Nat × List UInt32))
  | .accessBegin => []
  | .srcNumFree _ => []
  | .srcGetNextEntry =>
      if (halSrngSrcGetNextEntry ring.hal ring.id).2.isSome then [.claim] else []
  | .srcGetNextReaped =>
      if (halSrngSrcGetNextReaped ring.hal ring.id).2.isSome then [.claim] else []
  | .fill words => (ring.handed.take 1).map fun desc => .write (desc, words)
  | .accessEnd => [.publish]
  | .deviceConsume => [.take]
  | .deviceStoreTail => [.release]

def channel (ring : SourceFifo) (at_ : Progress) : Channel (Nat × List UInt32) where
  log := ring.filled
  claimed := ring.handed.length
  published := at_.published
  taken := ring.consumed
  released := at_.stored

def IsChannel (base entries size : Nat) (ring : SourceFifo)
    (channel : Channel (Nat × List UInt32)) : Prop :=
  ∃ at_, Inv base entries size ring at_ ∧ channel = ring.channel at_

variable {base entries size : Nat} {ring next : SourceFifo} {at_ : Progress}

/-- A step that the channel does not notice. -/
theorem Inv.unseen {later : Progress} (inv : Inv base entries size next later)
    (same : next.channel later = ring.channel at_) :
    ∃ channel, run (Channel.step (entries - 1)) (ring.channel at_) [] = some channel ∧
      IsChannel base entries size next channel :=
  ⟨_, rfl, later, inv, same.symm⟩

/-- A step that is one step of the channel. -/
theorem Inv.seen {later : Progress} (inv : Inv base entries size next later)
    {event : Channel.Event (Nat × List UInt32)}
    (stepped : (ring.channel at_).step (entries - 1) event = some (next.channel later)) :
    ∃ channel, run (Channel.step (entries - 1)) (ring.channel at_) [event] = some channel ∧
      IsChannel base entries size next channel :=
  ⟨_, run_cons_eq_some.mpr ⟨_, stepped, rfl⟩, later, inv, rfl⟩

theorem Inv.handOut_channel (inv : Inv base entries size ring at_)
    {result : Hal × Option Nat}
    (outcome : result = (ring.hal, none) ∨
      HandsOut ring.hal ring.id base entries size ring.handedOut at_ result) :
    ∃ channel, run (Channel.step (entries - 1)) (ring.channel at_)
        (if result.2.isSome then [.claim] else []) = some channel ∧
      IsChannel base entries size (ring.handOut result) channel := by
  have kept := inv.handOut outcome
  obtain rfl | handsOut := outcome
  · exact kept.unseen (by simp [SourceFifo.channel, SourceFifo.handOut])
  · have desc := handsOut.desc
    have room := handsOut.positions.handedOut_lt
    have cachedLe := inv.positions.cached_le
    have free : ring.filled.length + ring.handed.length < at_.stored + (entries - 1) := by
      simp only [handedOut] at room
      omega
    rw [desc, Option.isSome_some, if_pos rfl]
    refine kept.seen ((Channel.step_claim free).trans ?_)
    simp [SourceFifo.channel, SourceFifo.handOut, desc]

/-- Every step of the ring is what its trace says in the channel. -/
theorem IsChannel.step {channel : Channel (Nat × List UInt32)} {event : Event}
    (stepped : ring.step event = some next)
    (isChannel : IsChannel base entries size ring channel) :
    ∃ channel', run (Channel.step (entries - 1)) channel (ring.trace event) =
        some channel' ∧
      IsChannel base entries size next channel' := by
  obtain ⟨at_, inv, rfl⟩ := isChannel
  cases event with
  | accessBegin =>
      simp only [SourceFifo.step] at stepped
      split at stepped
      · contradiction
      · cases stepped
        exact inv.accessBegin.unseen rfl
  | srcNumFree syncHwPtr =>
      simp only [SourceFifo.step] at stepped
      split at stepped
      next inSession =>
          cases stepped
          cases syncHwPtr with
          | false => exact inv.unseen rfl
          | true =>
              -- Reading the tail word anew is all that `access_begin` does.
              have synced : (halSrngSrcNumFree ring.hal ring.id true).1 =
                  halSrngAccessBegin ring.hal ring.id := by
                rw [halSrngSrcNumFree_sync inv.ready.dir_eq,
                  halSrngAccessBegin_src inv.ready.dir_eq]
              have kept := inv.accessBegin
              rw [← inSession, ← synced] at kept
              exact kept.unseen rfl
      next => contradiction
  | srcGetNextEntry =>
      simp only [SourceFifo.step] at stepped
      split at stepped
      · cases stepped
        exact inv.handOut_channel
          ((halSrngSrcGetNextEntry_spec inv.ready inv.positions).imp And.right And.right)
      · contradiction
  | srcGetNextReaped =>
      simp only [SourceFifo.step] at stepped
      split at stepped
      · cases stepped
        exact inv.handOut_channel (halSrngSrcGetNextReaped_spec inv.ready inv.positions)
      · contradiction
  | fill words =>
      simp only [SourceFifo.step] at stepped
      split at stepped
      · contradiction
      next desc rest handed =>
          split at stepped
          next full =>
              cases stepped
              have kept := inv.fill handed full
              simp only [trace, handed, List.take_succ_cons, List.take_zero, List.map_cons,
                List.map_nil]
              exact kept.seen (Channel.step_write (by simp [SourceFifo.channel, handed]) _)
          next => contradiction
  | accessEnd =>
      simp only [SourceFifo.step] at stepped
      split at stepped
      next ready =>
          cases stepped
          refine (inv.accessEnd ready.2).seen ?_
          simp [Channel.step, SourceFifo.channel, ready.2, handedOut]
      next => contradiction
  | deviceConsume =>
      simp only [SourceFifo.step] at stepped
      split at stepped
      next => contradiction
      next behind =>
          cases stepped
          have kept := inv.deviceConsume behind
          have more := kept.consumed_le
          rw [List.length_append] at more
          exact kept.seen (Channel.step_take more kept.logs.consumed_prefix)
  | deviceStoreTail =>
      cases stepped
      exact inv.deviceStoreTail.seen rfl

/-- With the tail word just read, an entry is handed out exactly when the channel has a
place to claim. -/
theorem Inv.srcGetNextEntry_isSome_iff (inv : Inv base entries size ring at_) :
    (halSrngSrcGetNextEntry (halSrngAccessBegin ring.hal ring.id) ring.id).2.isSome ↔
      ring.handedOut < at_.stored + (entries - 1) := by
  have synced := inv.accessBegin
  have entriesPos := inv.ready.shape.entries_pos
  obtain ⟨full, nothing⟩ | ⟨room, handsOut⟩ :=
    halSrngSrcGetNextEntry_spec synced.ready synced.positions
  · simp only [handedOut] at full
    simp only [nothing, Option.isSome_none, Bool.false_eq_true, false_iff, handedOut]
    omega
  · simp only [handedOut] at room
    simp only [handsOut.desc, Option.isSome_some, true_iff, handedOut]
    omega

/-- A source ring of `n` slots is the bounded channel of capacity `n - 1`: every run of
driver and device, event by event, is a run of the channel with the same entries written
and taken, and after `access_begin` the driver gets an entry exactly when the channel
has a place. -/
theorem sourceRing_refines_channel {hal hal' : Hal} {mem mem' : Nat → UInt32}
    {type : HalRingType} {ringNum macId : Int} {params : HalSrngParams} {id : Nat}
    (setup : halSrngSetup hal mem type ringNum macId params = (hal', mem', (id : Int)))
    (source : (hal.srngConfig type).ringDir = .src)
    (entriesPos : 0 < params.numEntries.toUInt32.toNat)
    (sizePos : 0 < (hal.srngConfig type).entrySize.toNat)
    (fits : params.numEntries.toUInt32.toNat *
      (hal.srngConfig type).entrySize.toNat < 2 ^ 32)
    (shared : SharedWordsClear hal type id)
    {events : List Event} {ring : SourceFifo}
    (reached : run step (start hal' mem' id) events = some ring) :
    let capacity := params.numEntries.toUInt32.toNat - 1
    ∃ channel, run (Channel.step capacity) .empty
        (outputs step trace (start hal' mem' id) events) = some channel ∧
      channel.log = ring.filled ∧ channel.claimed = ring.handed.length ∧
      channel.taken = ring.consumed ∧
      ring.filled.length + ring.handed.length ≤ ring.consumed.length + capacity ∧
      ((halSrngSrcGetNextEntry (halSrngAccessBegin ring.hal ring.id) ring.id).2.isSome ↔
        (channel.step capacity .claim).isSome) := by
  intro capacity
  have initial : IsChannel params.ringBaseVaddr params.numEntries.toUInt32.toNat
      (hal.srngConfig type).entrySize.toNat (start hal' mem' id) .empty :=
    ⟨_, start_inv setup source entriesPos sizePos fits shared, rfl⟩
  obtain ⟨channel, followed, at_, inv, rfl⟩ := run_simulates
    (fun _ _ _ _ stepped isChannel => IsChannel.step stepped isChannel) reached initial
  refine ⟨_, followed, rfl, rfl, rfl,
    (Channel.run_inv followed Channel.empty_inv).outstanding_le, ?_⟩
  rw [inv.srcGetNextEntry_isSome_iff, Channel.step_claim_isSome_iff]
  rfl

/-- Two of three slots filled and published, one of them taken. -/
theorem sourceRing_refines_channel_three :
    let setup := halSrngSetup (halSrngInit false 0x2000 fun _ => 0) (fun _ => 0)
      .testSrng 0 0 DestinationFifo.threeEntries
    ∃ channel, run (Channel.step 2) .empty
        (outputs step trace (start setup.1 setup.2.1 125) fillTwo) = some channel ∧
      channel.taken = [(0x8000, [1, 2, 3, 4, 5])] := by
  intro setup
  have taken : (run step (start setup.1 setup.2.1 125) fillTwo).map consumed =
      some [(0x8000, [1, 2, 3, 4, 5])] := by decide +kernel
  obtain ⟨ring, reached, consumedEq⟩ := Option.map_eq_some_iff.mp taken
  have setupEq : setup = (setup.1, setup.2.1, ((125 : Nat) : Int)) :=
    Prod.ext rfl (Prod.ext rfl (by decide +kernel))
  have clear : SharedWordsClear (halSrngInit false 0x2000 fun _ => 0) .testSrng 125 := by
    simp [SharedWordsClear, halSrngInit, hwSrngConfigTemplate]
  obtain ⟨channel, followed, _, _, takenEq, _⟩ := sourceRing_refines_channel setupEq rfl
    (by decide) (by decide) (by decide) clear reached
  exact ⟨channel, followed, takenEq.trans consumedEq⟩

end SourceFifo

namespace DestinationFifo

/-- What an event is to the channel from the device to the driver. -/
def trace (ring : DestinationFifo) : Event → List (Channel.Event (Nat × List UInt32))
  | .accessBegin => []
  | .dstGetNextEntry => []
  | .readEntry _ => [.take]
  | .accessEnd => [.release]
  | .deviceWrite words =>
      [.claim, .write (descPtr ring.srng ring.deviceHead, words)]
  | .deviceStoreHead => [.publish]

def channel (ring : DestinationFifo) (told : Told) : Channel (Nat × List UInt32) where
  log := ring.written
  claimed := 0
  published := told.stored
  taken := ring.taken
  released := told.released

def IsChannel (base entries size : Nat) (ring : DestinationFifo)
    (channel : Channel (Nat × List UInt32)) : Prop :=
  ∃ told, Inv base entries size ring told ∧ channel = ring.channel told

variable {base entries size : Nat} {ring next : DestinationFifo} {told : Told}

theorem Inv.unseen {later : Told} (inv : Inv base entries size next later)
    (same : next.channel later = ring.channel told) :
    ∃ channel, run (Channel.step (entries - 1)) (ring.channel told) [] = some channel ∧
      IsChannel base entries size next channel :=
  ⟨_, rfl, later, inv, same.symm⟩

theorem Inv.seen {later : Told} (inv : Inv base entries size next later)
    {events : List (Channel.Event (Nat × List UInt32))}
    (followed : run (Channel.step (entries - 1)) (ring.channel told) events =
      some (next.channel later)) :
    ∃ channel, run (Channel.step (entries - 1)) (ring.channel told) events =
        some channel ∧
      IsChannel base entries size next channel :=
  ⟨_, followed, later, inv, rfl⟩

theorem IsChannel.step {channel : Channel (Nat × List UInt32)} {event : Event}
    (stepped : ring.step event = some next)
    (isChannel : IsChannel base entries size ring channel) :
    ∃ channel', run (Channel.step (entries - 1)) channel (ring.trace event) =
        some channel' ∧
      IsChannel base entries size next channel' := by
  obtain ⟨told, inv, rfl⟩ := isChannel
  cases event with
  | accessBegin =>
      simp only [DestinationFifo.step] at stepped
      split at stepped
      · contradiction
      · cases stepped
        exact inv.accessBegin.unseen rfl
  | dstGetNextEntry =>
      simp only [DestinationFifo.step] at stepped
      split at stepped
      · cases stepped
        exact inv.dstGetNextEntry.unseen rfl
      · contradiction
  | readEntry left =>
      simp only [DestinationFifo.step] at stepped
      split at stepped
      · contradiction
      next desc rest handed =>
          split at stepped
          next full =>
              cases stepped
              have kept := inv.readEntry handed full
              have known := Nat.le_trans kept.positions.taken_le kept.positions.cached_le
              simp only [List.length_append, List.length_singleton] at known
              refine kept.seen (run_cons_eq_some.mpr ⟨_, Channel.step_take ?_
                kept.taken_prefix, rfl⟩)
              simp only [DestinationFifo.channel]
              omega
          next => contradiction
  | accessEnd =>
      simp only [DestinationFifo.step] at stepped
      split at stepped
      next ready =>
          cases stepped
          exact (inv.accessEnd ready.2).seen rfl
      next => contradiction
  | deviceWrite words =>
      simp only [DestinationFifo.step] at stepped
      split at stepped
      next allowed =>
          cases stepped
          have free := inv.hasRoom_iff.mp allowed.2
          refine (inv.deviceWrite allowed.1 allowed.2).seen
            (run_cons_eq_some.mpr ⟨_, Channel.step_claim ?_, rfl⟩)
          simp only [DestinationFifo.channel]
          omega
      next => contradiction
  | deviceStoreHead =>
      cases stepped
      exact inv.deviceStoreHead.seen rfl

/-- With the head word just read, the driver gets an entry exactly when the device has
reported one it was not handed yet. -/
theorem Inv.dstGetNextEntry_isSome_iff (inv : Inv base entries size ring told) :
    (halSrngDstGetNextEntry (halSrngAccessBegin ring.hal ring.id) ring.id).2.isSome ↔
      ring.taken.length + ring.handed.length < told.stored := by
  have synced := inv.accessBegin
  obtain ⟨caught, nothing⟩ | ⟨ahead, _, found, _⟩ :=
    halSrngDstGetNextEntry_spec synced.ready synced.positions
  · simp only at caught
    simp only [nothing, Option.isSome_none, Bool.false_eq_true, false_iff]
    omega
  · simp only at ahead
    simp only [found, Option.isSome_some, true_iff]
    omega

/-- A destination ring of `n` slots is the bounded channel of capacity `n - 1` the other
way round: every run of device and driver, event by event, is a run of the channel; the
device may write exactly when the channel has a place, and after `access_begin` the
driver gets an entry exactly when the channel holds a published one that it was not
handed yet. -/
theorem destinationRing_refines_channel {hal hal' : Hal} {mem mem' : Nat → UInt32}
    {type : HalRingType} {ringNum macId : Int} {params : HalSrngParams} {id : Nat}
    (setup : halSrngSetup hal mem type ringNum macId params = (hal', mem', (id : Int)))
    (destination : (hal.srngConfig type).ringDir = .dst)
    (entriesPos : 0 < params.numEntries.toUInt32.toNat)
    (sizePos : 0 < (hal.srngConfig type).entrySize.toNat)
    (fits : params.numEntries.toUInt32.toNat *
      (hal.srngConfig type).entrySize.toNat < 2 ^ 32)
    (shared : SharedWordsClear hal type id)
    {events : List Event} {ring : DestinationFifo}
    (reached : run step (start hal' mem' id) events = some ring) :
    let capacity := params.numEntries.toUInt32.toNat - 1
    ∃ channel, run (Channel.step capacity) .empty
        (outputs step trace (start hal' mem' id) events) = some channel ∧
      channel.log = ring.written ∧ channel.taken = ring.taken ∧
      ring.written.length ≤ ring.taken.length + capacity ∧
      (ring.HasRoom ↔ (channel.step capacity .claim).isSome) ∧
      ((halSrngDstGetNextEntry (halSrngAccessBegin ring.hal ring.id) ring.id).2.isSome ↔
        ring.taken.length + ring.handed.length < channel.published) := by
  intro capacity
  have initial : IsChannel params.ringBaseVaddr params.numEntries.toUInt32.toNat
      (hal.srngConfig type).entrySize.toNat (start hal' mem' id) .empty :=
    ⟨_, start_inv setup destination entriesPos sizePos fits shared, rfl⟩
  obtain ⟨channel, followed, told, inv, rfl⟩ := run_simulates
    (fun _ _ _ _ stepped isChannel => IsChannel.step stepped isChannel) reached initial
  refine ⟨_, followed, rfl, rfl,
    (Channel.run_inv followed Channel.empty_inv).outstanding_le, ?_,
    inv.dstGetNextEntry_isSome_iff⟩
  rw [inv.hasRoom_iff, Channel.step_claim_isSome_iff]
  simp only [DestinationFifo.channel, capacity]
  omega

theorem destinationRing_refines_channel_three :
    let setup := halSrngSetup (halSrngInit false 0x2000 fun _ => 0) (fun _ => 0)
      .testSrngDstStatus 0 0 threeEntries
    ∃ channel, run (Channel.step 2) .empty
        (outputs step trace (start setup.1 setup.2.1 1) readOne) = some channel ∧
      channel.taken = [(0x8000, [7, 8])] := by
  intro setup
  have read : (run step (start setup.1 setup.2.1 1) readOne).map DestinationFifo.taken =
      some [(0x8000, [7, 8])] := by decide +kernel
  obtain ⟨ring, reached, readEq⟩ := Option.map_eq_some_iff.mp read
  have setupEq : setup = (setup.1, setup.2.1, ((1 : Nat) : Int)) :=
    Prod.ext rfl (Prod.ext rfl (by decide +kernel))
  have clear : SharedWordsClear (halSrngInit false 0x2000 fun _ => 0)
      .testSrngDstStatus 1 := by
    simp [SharedWordsClear, halSrngInit, hwSrngConfigTemplate]
  obtain ⟨channel, followed, _, takenEq, _⟩ := destinationRing_refines_channel setupEq rfl
    (by decide) (by decide) (by decide) clear reached
  exact ⟨channel, followed, takenEq.trans readEq⟩

end DestinationFifo

end WirelessSimu
