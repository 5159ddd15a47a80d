import WirelessSimu.Rx.Hostile
import WirelessSimu.Rx.Ownership

namespace WirelessSimu

open Data Kernel

/-! Where the buffers are beside a device that keeps no rule. With a lying device
`enqueue_pipe` may refuse a buffer, which `post_pipe` then has in hand until it has given
it back. -/

/-- The buffer that `enqueue_pipe` refused and `post_pipe` did not give back yet. -/
def RxLock.refused : RxLock → Multiset Nat
  | .enqueueDone _ _ skb _ ret => if ret = 0 then 0 else {skb}
  | _ => 0

/-- A refused buffer counts as one that is still to be stored. -/
def RxLock.storing : RxLock → RxLock
  | .enqueueDone poster index skb paddr ret =>
      if ret = 0 then .enqueueDone poster index skb paddr ret
      else .enqueueBegun poster index skb paddr 0
  | lock => lock

namespace Rx

def storing (rx : Rx) : Rx := { rx with lock := rx.lock.storing }

/-- The mapping of a new buffer fails. -/
def HostileEvent.losesBuffer : HostileEvent → Bool
  | .module (.postBuffer (some _) none) => true
  | _ => false

/-- Everything is accounted for but `lost`, and a buffer in the hands of `post_pipe` has
the address that it is given back with. -/
structure Kept (lost : Multiset Nat) (rx : Rx) : Prop where
  owned : rx.storing.Owned lost
  address : ∀ poster index skb paddr writeIndex,
    rx.lock.storing = .enqueueBegun poster index skb paddr writeIndex →
    (rx.buffers.skb skb).paddr = paddr

end Rx

section Steps

variable {layout : RxLayout} {rx next : Rx} {event : Rx.Event} {index : Nat}
  {lost : Multiset Nat}

theorem RxLock.inHand_storing (lock : RxLock) :
    lock.storing.inHand = lock.inHand + lock.refused := by
  cases lock with
  | enqueueDone poster index skb paddr ret =>
      by_cases stored : ret = 0
      · simp only [RxLock.storing, RxLock.refused, if_pos stored]
        rfl
      · simp only [RxLock.storing, RxLock.refused, if_neg stored]
        rfl
  | _ => exact (add_zero _).symm

theorem Rx.storing_eq (same : rx.lock.storing = rx.lock) : rx.storing = rx := by
  rw [Rx.storing, same]

/-- A buffer in the hands of `post_pipe` is mapped. -/
theorem Rx.Kept.lt_allocated (kept : rx.Kept lost) {poster : Poster} {skb : Nat}
    {paddr : UInt64} {writeIndex : UInt32}
    (held : rx.lock.storing = .enqueueBegun poster index skb paddr writeIndex) :
    skb < rx.buffers.allocated := by
  have ledger : Ledger rx.buffers _ _ := kept.owned
  refine ledger.lt_allocated (Multiset.mem_add.mpr (.inr ?_))
  rw [show rx.storing.lock = _ from held]
  exact Multiset.mem_singleton_self skb

/-- A step that leaves the lock alone, or takes no buffer into its hands. -/
theorem Rx.Kept.address_keep (kept : rx.Kept lost)
    (paddr_eq : ∀ skb < rx.buffers.allocated,
      (next.buffers.skb skb).paddr = (rx.buffers.skb skb).paddr)
    (lock : next.lock = rx.lock ∨ ∀ poster index skb paddr writeIndex,
      next.lock.storing ≠ .enqueueBegun poster index skb paddr writeIndex) :
    ∀ poster index skb paddr writeIndex,
      next.lock.storing = .enqueueBegun poster index skb paddr writeIndex →
      (next.buffers.skb skb).paddr = paddr := by
  intro poster index skb paddr writeIndex held
  rcases lock with same | other
  · rw [same] at held
    rw [paddr_eq skb (kept.lt_allocated held)]
    exact kept.address poster index skb paddr writeIndex held
  · exact absurd held (other poster index skb paddr writeIndex)

theorem Rx.Kept.address_step (kept : rx.Kept lost) (stepped : Rx.Step rx event next)
    (live : next.live = true) :
    ∀ poster index skb paddr writeIndex,
      next.lock.storing = .enqueueBegun poster index skb paddr writeIndex →
      (next.buffers.skb skb).paddr = paddr := by
  have paddr_eq : ∀ skb < rx.buffers.allocated,
      (next.buffers.skb skb).paddr = (rx.buffers.skb skb).paddr :=
    fun skb old => stepped.paddr_eq live old
  cases stepped with
  | @enqueueBegin poster index tailroom paddr =>
      rintro _ _ _ _ _ ⟨⟩
      simp [Rx.mapped, Buffers.setPaddr, Buffers.dmaMapSingle, Buffers.devAllocSkb]
  | @enqueueStore poster index skb paddr writeIndex dst held ring =>
      have own : (rx.buffers.skb skb).paddr = paddr :=
        kept.address poster index skb paddr writeIndex (by rw [held]; rfl)
      intro other found skb' paddr' writeIndex' begun
      simp only [Rx.enqueueResult, RxLock.storing] at begun
      split at begun
      next => cases begun
      next =>
          cases begun
          exact own
  | deinit => contradiction
  | recvTake | recvBegin | recvEnd | drainLock | postBufLock | enqueueEnd =>
      exact kept.address_keep paddr_eq (.inr (by simp [Rx.recvResult, RxLock.storing]))
  | postBufNull | postBufWait | postBufDone | postBufOn | postBufStop =>
      exact kept.address_keep paddr_eq (.inl (by simp))
  | postDone | postNoMemory | postUnmapped | enqueueUndo =>
      exact kept.address_keep paddr_eq (.inr (by simp [RxLock.storing]))
  | _ => exact kept.address_keep paddr_eq (.inl rfl)

/-- What `recv_next` hands out is the oldest posted buffer, whatever the status ring says,
unless it hands out NULL. -/
theorem Rx.Owned.hostileTake (owned : rx.Owned lost) (inv : HostileInv layout rx)
    {swIndex : UInt32} {dst status : SrngTestRing}
    (held : rx.lock = .recvBegun index swIndex)
    (rings : rx.rings index = some (dst, status))
    (sane : ¬ (rx.recvResult index
      (testDstRecvNext rx.hal (rx.pipes index) dst status swIndex)).Doomed index) :
    (rx.recvResult index
      (testDstRecvNext rx.hal (rx.pipes index) dst status swIndex)).Owned lost := by
  obtain ⟨rfl, inRange, at_, side, ordered⟩ := inv.receiving held rings
  have failed : ∀ hal code,
      (rx.recvResult index (hal, rx.pipes index, .error code)).Owned lost := by
    intro hal code
    exact owned.still rfl rfl rfl rfl (fun _ => ⟨rfl, rfl⟩) (by rw [held]; rfl)
  obtain ⟨_, outcome⟩ | ⟨hal', desc, _, _, outcome⟩ | ⟨hal', desc, _, _, outcome⟩ :=
    testDstRecvNext_cases rx.hal (rx.pipes index) dst status dst.swIndex
  · rw [outcome]
    exact failed _ _
  · rw [outcome]
    exact failed _ _
  · rw [outcome] at sane ⊢
    obtain missing | ⟨ahead, -⟩ :=
      @HostileAt.takeTable _ _ _ _ _ (testDstGetLength status.mem desc) at_ side ordered
    · rw [missing] at sane
      exact absurd (.inl ⟨_, rfl⟩) sane
    · have slots := side.slots
      have swIndex := side.swIndex_eq
      simp only [Rx.pipe] at slots swIndex
      have longer : (rx.received index).length <
          ((rx.enqueued index).map Prod.fst).length := by
        rw [List.length_map]
        exact ahead
      rw [swIndex, slots.front longer]
      exact owned.takeFront inRange (by rw [held]; rfl)
        (List.drop_eq_getElem_cons longer) _ _ _

/-- A buffer that `enqueue_pipe` refuses stays in hand. -/
theorem Rx.Owned.hostileStore (owned : rx.Owned lost) (inv : HostileInv layout rx)
    {poster : Poster} {skb : Nat} {paddr : UInt64} {writeIndex : UInt32}
    {dst : SrngTestRing} (sane : ¬ rx.Doomed index)
    (held : rx.lock = .enqueueBegun poster index skb paddr writeIndex)
    (ring : (rx.pipes index).dstRing = some dst) :
    (rx.enqueueResult poster index skb paddr
      (testDstEnqueuePipe rx.hal (rx.pipes index) dst skb paddr writeIndex)).storing.Owned
        lost := by
  have lock := inv.control.lock
  rw [LockInv, held] at lock
  obtain ⟨status, at_⟩ := inv.at_dst lock.1 ring
  obtain ⟨outcome, _⟩ | ⟨hal', desc, _, outcome⟩ :=
    testDstEnqueuePipe_cases rx.hal (rx.pipes index) dst skb paddr writeIndex
  · rw [outcome]
    exact owned.still rfl rfl rfl rfl (fun _ => ⟨rfl, rfl⟩) (by rw [held]; rfl)
  · rw [outcome, Rx.storing_eq rfl]
    exact owned.postLast lock.1 held (at_.table.resolve_left sane).2 _ _

theorem Rx.Kept.owned_of (kept : rx.Kept lost) {lock : RxLock} (held : rx.lock = lock)
    (plain : lock.storing = lock) : rx.Owned lost := by
  have owned := kept.owned
  rw [Rx.storing_eq (by rw [held, plain])] at owned
  exact owned

/-- The refused buffer is unmapped and freed. -/
theorem Rx.Kept.enqueueUndo (kept : rx.Kept lost) (inv : HostileInv layout rx)
    {poster : Poster} {skb : Nat} {paddr : UInt64} {ret : Int}
    (held : rx.lock = .enqueueDone poster index skb paddr ret) (failed : ret ≠ 0)
    (hal : Hal) :
    Rx.Owned lost ({ rx with
      hal := hal
      buffers := (rx.buffers.dmaUnmapSingle skb paddr
        (rx.buffers.skb skb).room).devKfreeSkb skb }.postExit poster index ret) := by
  have storing : rx.lock.storing = .enqueueBegun poster index skb paddr 0 := by
    simp only [held, RxLock.storing, if_neg failed]
  have address := kept.address poster index skb paddr 0 storing
  have lock := inv.control.lock
  rw [LockInv, held] at lock
  have released : Rx.Owned lost { rx with
      hal := hal
      lock := .postLoop poster index
      buffers := (rx.buffers.dmaUnmapSingle skb paddr
        (rx.buffers.skb skb).room).devKfreeSkb skb } := by
    refine kept.owned.local lock.1 rfl (fun _ _ => rfl) (fun _ _ => rfl) ?_
    intro mapped loose ledger
    rw [show rx.storing.lock = _ from storing, RxLock.inHand, add_singleton_add] at ledger
    have freed := ledger.unmap.free
    rw [show rx.storing.buffers = rx.buffers from rfl, address] at freed
    rw [show (RxLock.postLoop poster index).inHand = 0 from rfl, add_zero]
    exact freed
  have left := released.leavePost lock rfl ret
  cases poster <;> exact left

/-- A step of a live module that does not take NULL for a buffer. -/
theorem Rx.Kept.step (kept : rx.Kept lost) (inv : HostileInv layout rx)
    (sane : ∀ index, ¬ next.Doomed index) (stepped : Rx.Step rx event next)
    (live : next.live = true) :
    ∃ lost', next.Kept lost' ∧
      lost'.card ≤ lost.card + (Rx.HostileEvent.module event).losesBuffer.toNat := by
  have before : ∀ index, ¬ rx.Doomed index := fun index doomed =>
    sane index (doomed.step inv.control.lock stepped)
  have address := kept.address_step stepped live
  have busy := inv.control.drains_lt
  have lock := inv.control.lock
  have owned := kept.owned
  have same : next.storing.Owned lost → ∃ lost', next.Kept lost' ∧
      lost'.card ≤ lost.card + (Rx.HostileEvent.module event).losesBuffer.toNat :=
    fun after => ⟨lost, ⟨after, address⟩, Nat.le_add_right _ _⟩
  cases stepped with
  | drainStart inRange idle =>
      exact same (owned.still rfl rfl rfl rfl
        (drains_still (by rw [idle]; rfl) (by rw [idle]; rfl)) rfl)
  | recvBegin free receiving rings =>
      exact same (owned.still rfl rfl rfl rfl (fun _ => ⟨rfl, rfl⟩)
        (by rw [show rx.storing.lock = rx.lock.storing from rfl, free]; rfl))
  | recvTake held rings =>
      refine same ?_
      rw [Rx.storing_eq rfl]
      exact (kept.owned_of held rfl).hostileTake inv held rings (sane _)
  | recvEnd held receiving rings =>
      exact same ((kept.owned_of held rfl).recvEnd
        (busy _ (by rw [receiving]; simp)) held receiving _)
  | drainOverlong took long =>
      exact same (owned.drainOverlong (busy _ (by rw [took]; simp)) took)
  | drainKeep took fits put =>
      exact same (owned.drainKeep (busy _ (by rw [took]; simp)) took put)
  | flushOne flushing =>
      exact same (owned.flushOne (busy _ (by rw [flushing]; simp)) flushing)
  | flushDone flushing =>
      exact same (owned.still rfl rfl rfl rfl
        (drains_still (by rw [flushing]; rfl) (by rw [flushing]; rfl)) rfl)
  | drainPostNull posting missing | drainPost posting found =>
      exact same (owned.still rfl rfl rfl rfl
        (drains_still (by rw [posting]; rfl) (by rw [posting]; rfl)) rfl)
  | drainLock waiting free | postBufLock waiting free =>
      exact same ((kept.owned_of free rfl).still rfl rfl rfl rfl (fun _ => ⟨rfl, rfl⟩)
        (by rw [free]; rfl))
  | drainReturn posted =>
      exact same (owned.still rfl rfl rfl rfl
        (drains_still (by rw [posted]; rfl) (by rw [posted]; rfl)) rfl)
  | timerFire armed idle =>
      exact same (owned.still rfl rfl rfl rfl (fun _ => ⟨rfl, rfl⟩) rfl)
  | @postBufNull timer | @postBufWait timer | @postBufDone timer | @postBufOn timer
  | @postBufStop timer =>
      refine same ?_
      cases timer <;> exact owned.still rfl rfl rfl rfl (fun _ => ⟨rfl, rfl⟩) rfl
  | postDone held full =>
      refine same ?_
      rw [Rx.storing_eq (by simp [RxLock.storing])]
      exact (kept.owned_of held rfl).leavePost lock held _
  | postNoMemory held needed =>
      refine same ?_
      rw [Rx.storing_eq (by simp [RxLock.storing])]
      exact (kept.owned_of held rfl).leavePost lock held _
  | @postUnmapped poster index tailroom held needed =>
      refine ⟨rx.buffers.allocated ::ₘ lost, ⟨?_, address⟩, ?_⟩
      · rw [Rx.storing_eq (by simp [RxLock.storing])]
        exact ((kept.owned_of held rfl).lose tailroom).leavePost lock held _
      · rw [Multiset.card_cons]
        exact Nat.le_refl _
  | enqueueBegin held needed ring =>
      rw [LockInv, held] at lock
      exact same ((kept.owned_of held rfl).enqueueBegin lock.1 held _ _ _ _)
  | enqueueStore held ring =>
      exact same ((kept.owned_of held rfl).hostileStore inv (before _) held ring)
  | enqueueEnd held ring =>
      exact same ((kept.owned_of held rfl).still rfl rfl rfl rfl (fun _ => ⟨rfl, rfl⟩)
        (by rw [held]; rfl))
  | enqueueUndo held failed ring =>
      refine same ?_
      rw [Rx.storing_eq (by simp [RxLock.storing])]
      exact kept.enqueueUndo inv held failed _
  | deviceConsume | deviceStoreTail | deviceReport | deviceStoreHead =>
      exact same (owned.still rfl rfl rfl rfl (fun _ => ⟨rfl, rfl⟩) rfl)
  | deinit free initialised quiet => contradiction

/-- The slots of the tables hold the posted buffers, unless a drain took NULL. -/
theorem HostileInv.slotBuffers_eq (inv : HostileInv layout rx)
    (sane : ∀ index, ¬ rx.Doomed index) :
    rx.slotBuffers = ∑ index ∈ Finset.range rx.pipesCount, rx.posted index := by
  apply Finset.sum_congr rfl
  intro index member
  obtain ⟨dst, status, at_⟩ := inv.pipes index (Finset.mem_range.mp member)
  obtain ⟨side, ordered⟩ := at_.table.resolve_left (sane index)
  have nentries := at_.held.table.nentries_eq
  have twoLe := at_.held.two_le
  have slots := side.slots
  have bound := side.needed_eq
  simp only [Rx.pipe] at nentries bound slots
  have contents := slots.contents (by rw [List.length_map]; omega)
  simp only [SrngTestPipe.slotBuffers, (Rx.rings_eq_some.mp at_.rings).1, nentries,
    Rx.posted]
  exact Multiset.coe_eq_coe.mpr contents

theorem Rx.Kept.ledger (kept : rx.Kept lost) (inv : HostileInv layout rx)
    (sane : ∀ index, ¬ rx.Doomed index) :
    Ledger rx.buffers (rx.slotBuffers + (rx.inHand + rx.lock.refused))
      (rx.listBuffers + lost) := by
  have inSlots := kept.owned.inSlots (inv.slotBuffers_eq sane)
  rw [Rx.inHand, show rx.storing.lock = rx.lock.storing from rfl, RxLock.inHand_storing,
    ← add_assoc (∑ index ∈ Finset.range rx.storing.pipesCount, _)] at inSlots
  exact inSlots

theorem HostileInv.doomed_lt (inv : HostileInv layout rx) (doomed : rx.Doomed index) :
    index < rx.pipesCount := by
  rcases doomed with ⟨nbytes, done⟩ | ⟨list, nbytes, took⟩
  · have lock := inv.control.lock
    rw [LockInv, done] at lock
    exact lock.1
  · exact inv.control.drains_lt index (by rw [took]; simp)

/-- A drain that took NULL keeps the module from being torn down. -/
theorem HostileInv.deinit_sane (inv : HostileInv layout rx)
    (ended : Rx.Step rx .deinit next) (index : Nat) : ¬ rx.Doomed index := by
  cases ended with
  | deinit free initialised quiet =>
      rintro (⟨nbytes, done⟩ | ⟨list, nbytes, took⟩)
      · rw [free] at done
        cases done
      · have inRange := inv.doomed_lt (.inr ⟨list, nbytes, took⟩)
        rw [quiet index (List.mem_range.mpr inRange)] at took
        cases took

end Steps

namespace Rx

variable {rx next : Rx} {event : HostileEvent}

/-- What the device writes, the driver does not keep its books by. -/
structure WrittenTo (rx next : Rx) : Prop where
  count : next.pipesCount = rx.pipesCount
  dstRing : ∀ index, (next.pipes index).dstRing = (rx.pipes index).dstRing
  buffers : next.buffers = rx.buffers
  lock : next.lock = rx.lock
  drains : next.drains = rx.drains
  initPost : next.initPost = rx.initPost
  timerPost : next.timerPost = rx.timerPost
  enqueued : next.enqueued = rx.enqueued
  received : next.received = rx.received
  live : next.live = rx.live

theorem hostileStep_cases (stepped : rx.hostileStep event = some next) :
    (∃ own, event = .module own ∧ rx.live = true ∧ Step rx own next) ∨
      event.losesBuffer = false ∧ WrittenTo rx next := by
  cases event with
  | module event => exact .inl ⟨event, rfl, step_cases stepped⟩
  | storeWord id value =>
      cases stepped
      exact .inr ⟨rfl, rfl, fun _ => rfl, rfl, rfl, rfl, rfl, rfl, rfl, rfl, rfl⟩
  | storeStatus index address value =>
      simp only [hostileStep] at stepped
      split at stepped
      next inRange =>
          unfold storeStatus at stepped
          split at stepped
          next => contradiction
          next =>
              cases stepped
              refine .inr ⟨rfl, rfl, fun other => ?_, rfl, rfl, rfl, rfl, rfl, rfl, rfl, rfl⟩
              by_cases same : other = index
              · simp only [setPipe, same, Function.update_self]
              · simp only [setPipe, Function.update_of_ne same]
      next => contradiction

section Written

variable (written : WrittenTo rx next)
include written

theorem WrittenTo.doomed_iff (index : Nat) : next.Doomed index ↔ rx.Doomed index := by
  rw [Doomed, Doomed, written.lock, written.drains]

theorem WrittenTo.kept {lost : Multiset Nat} (kept : rx.Kept lost) : next.Kept lost where
  owned := by
    refine kept.owned.still written.buffers written.count written.enqueued
      written.received (fun other => ?_) ?_
    · exact ⟨congrArg (fun drains => Drain.list (drains other)) written.drains,
        congrArg (fun drains => Drain.inHand (drains other)) written.drains⟩
    · exact congrArg (fun lock => RxLock.inHand (RxLock.storing lock)) written.lock
  address := by
    rw [written.lock, written.buffers]
    exact kept.address

end Written

theorem Step.deinit_lock (ended : Step rx .deinit next) :
    rx.lock = .free ∧ next.lock = .free ∧ next.live = false := by
  cases ended with
  | deinit free => exact ⟨free, free, rfl⟩

end Rx

end WirelessSimu
