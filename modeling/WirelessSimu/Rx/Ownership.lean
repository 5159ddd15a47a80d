import WirelessSimu.Kernel.Ledger
import WirelessSimu.Rx.Agreement

namespace WirelessSimu

open Data Kernel

/-! Where the buffers are. Every buffer of `post_pipe` is in a slot of a table, in the
list of a drain, in the hands of a call that is not over, or freed. -/

def SrngTestPipe.slotBuffers (pipe : SrngTestPipe) : List Nat :=
  match pipe.dstRing with
  | none => []
  | some ring => (List.range ring.nentries.toNat).filterMap ring.skb

def Drain.list : Drain → Multiset Nat
  | .recv list | .took list _ _ | .flush list => list
  | _ => 0

/-- The buffer that `recv_next` returned and the loop body did not look at yet. -/
def Drain.inHand : Drain → Multiset Nat
  | .took _ (some skb) _ => {skb}
  | _ => 0

def RxLock.inHand : RxLock → Multiset Nat
  | .recvDone _ (.ok (some skb, _)) => {skb}
  | .enqueueBegun _ _ skb _ _ => {skb}
  | _ => 0

namespace Rx

def slotBuffers (rx : Rx) : Multiset Nat :=
  ∑ index ∈ Finset.range rx.pipesCount, ((rx.pipes index).slotBuffers : Multiset Nat)

def listBuffers (rx : Rx) : Multiset Nat :=
  ∑ index ∈ Finset.range rx.pipesCount, (rx.drains index).list

def inHand (rx : Rx) : Multiset Nat :=
  ∑ index ∈ Finset.range rx.pipesCount, (rx.drains index).inHand + rx.lock.inHand

/-- No call is in the middle of its work. -/
def AtBoundary (rx : Rx) : Prop :=
  rx.lock = .free ∧ ∀ index list skb nbytes, rx.drains index ≠ .took list skb nbytes

/-- The mapping of a buffer that `post_pipe` allocated does not fail. -/
def MappingHolds (rx : Rx) (event : Event) : Prop :=
  ∀ poster index tailroom, rx.lock = .postLoop poster index →
    (rx.pipes index).rxBufNeeded ≠ 0 → event ≠ .postBuffer (some tailroom) none

/-- The buffers posted on a pipe and not received, by the logs. -/
def posted (rx : Rx) (index : Nat) : Multiset Nat :=
  (((rx.enqueued index).map Prod.fst).drop (rx.received index).length : List Nat)

def mappedAt (rx : Rx) (index : Nat) : Multiset Nat :=
  rx.posted index + (rx.drains index).inHand

/-- Everything is accounted for, with `lost` in no place any more. -/
def Owned (lost : Multiset Nat) (rx : Rx) : Prop :=
  Ledger rx.buffers
    (∑ index ∈ Finset.range rx.pipesCount, rx.mappedAt index + rx.lock.inHand)
    (rx.listBuffers + lost)

end Rx

section Steps

variable {layout : RxLayout} {rx next : Rx} {event : Rx.Event} {index : Nat}
  {lost : Multiset Nat}

theorem Rx.Owned.start (hal : Hal) (count : Nat) (pipes : Nat → SrngTestPipe) :
    Rx.Owned 0 (.start hal count pipes) := by
  have nothing : ∀ index, (Rx.start hal count pipes).mappedAt index = 0 :=
    fun _ => rfl
  have lists : (Rx.start hal count pipes).listBuffers = 0 :=
    Finset.sum_eq_zero fun _ _ => rfl
  unfold Rx.Owned
  simp only [nothing, lists, Finset.sum_const_zero]
  exact Ledger.empty

theorem Rx.Owned.local (owned : rx.Owned lost) (inRange : index < rx.pipesCount)
    (count : next.pipesCount = rx.pipesCount)
    (mapped : ∀ other, other ≠ index → next.mappedAt other = rx.mappedAt other)
    (lists : ∀ other, other ≠ index →
      (next.drains other).list = (rx.drains other).list)
    (moves : ∀ mapped loose,
      Ledger rx.buffers (rx.mappedAt index + rx.lock.inHand + mapped)
        ((rx.drains index).list + loose) →
      Ledger next.buffers (next.mappedAt index + next.lock.inHand + mapped)
        ((next.drains index).list + loose)) : next.Owned lost := by
  obtain ⟨restMapped, mappedEq, mappedEq'⟩ := sum_range_change inRange mapped
  obtain ⟨restLoose, looseEq, looseEq'⟩ := sum_range_change inRange lists
  unfold Rx.Owned Rx.listBuffers at owned ⊢
  rw [mappedEq, looseEq, add_right_comm, add_assoc _ restLoose] at owned
  rw [count, mappedEq', looseEq', add_right_comm, add_assoc _ restLoose]
  exact moves restMapped (restLoose + lost) owned

theorem Rx.Owned.still (owned : rx.Owned lost) (buffers : next.buffers = rx.buffers)
    (count : next.pipesCount = rx.pipesCount) (enqueued : next.enqueued = rx.enqueued)
    (received : next.received = rx.received)
    (drains : ∀ other, (next.drains other).list = (rx.drains other).list ∧
      (next.drains other).inHand = (rx.drains other).inHand)
    (lock : next.lock.inHand = rx.lock.inHand) : next.Owned lost := by
  have mapped : ∀ other, next.mappedAt other = rx.mappedAt other := by
    intro other
    simp only [Rx.mappedAt, Rx.posted, enqueued, received, (drains other).2]
  have lists : ∀ other, (next.drains other).list = (rx.drains other).list :=
    fun other => (drains other).1
  unfold Rx.Owned Rx.listBuffers at owned ⊢
  simp only [buffers, count, mapped, lists, lock]
  exact owned

theorem Rx.Owned.lose (owned : rx.Owned lost) (tailroom : UInt32) :
    Rx.Owned (rx.buffers.allocated ::ₘ lost)
      { rx with buffers := (rx.buffers.devAllocSkb tailroom).1 } := by
  have grown := Ledger.adopt owned tailroom
  rw [← Multiset.add_cons] at grown
  exact grown

theorem drains_still {drain : Drain} (list : drain.list = (rx.drains index).list)
    (inHand : drain.inHand = (rx.drains index).inHand) :
    ∀ other, ((rx.setDrain index drain).drains other).list = (rx.drains other).list ∧
      ((rx.setDrain index drain).drains other).inHand = (rx.drains other).inHand := by
  intro other
  by_cases same : other = index
  · subst same
    simp only [Rx.setDrain, Function.update_self]
    exact ⟨list, inHand⟩
  · simp only [Rx.setDrain, Function.update_of_ne same]
    exact ⟨trivial, trivial⟩

theorem posted_receive {pipe : RxPipe} {skb : Nat} {nbytes : UInt32}
    (agrees : Agrees pipe pipe.received.length (some skb, nbytes)) :
    (pipe.enqueued.map Prod.fst).drop pipe.received.length =
      skb :: (pipe.enqueued.map Prod.fst).drop (pipe.received.length + 1) := by
  obtain ⟨entry, report, lookup, _, equal⟩ := agrees
  obtain ⟨below, found⟩ := List.getElem?_eq_some_iff.mp lookup
  have skbEq : skb = entry.1 := by
    simp only [Prod.mk.injEq, Option.some.injEq] at equal
    exact equal.1
  have longer : pipe.received.length < (pipe.enqueued.map Prod.fst).length := by
    rw [List.length_map]
    exact below
  rw [List.drop_eq_getElem_cons longer, List.getElem_map, found, skbEq]

/-- The oldest posted buffer passes from its slot into the hands of `recv_next`. -/
theorem Rx.Owned.takeFront (owned : rx.Owned lost) (inRange : index < rx.pipesCount)
    (empty : rx.lock.inHand = 0) {skb : Nat}
    (front : ((rx.enqueued index).map Prod.fst).drop (rx.received index).length =
      skb :: ((rx.enqueued index).map Prod.fst).drop ((rx.received index).length + 1))
    (hal : Hal) (pipe : SrngTestPipe) (nbytes : UInt32) :
    (rx.recvResult index (hal, pipe, .ok (some skb, nbytes))).Owned lost := by
  refine owned.local inRange rfl ?_ (fun _ _ => rfl) ?_
  · intro other different
    simp only [Rx.mappedAt, Rx.posted, Rx.recvResult, Rx.setPipe,
      Function.update_of_ne different]
  · intro mapped loose ledger
    simp only [Rx.mappedAt, Rx.posted, empty, front, add_zero, ← Multiset.cons_coe,
      Multiset.cons_add] at ledger
    simp only [Rx.mappedAt, Rx.posted, Rx.recvResult, Rx.setPipe, Function.update_self,
      List.length_append, List.length_singleton, RxLock.inHand]
    rw [add_singleton_add]
    exact ledger

theorem Rx.Owned.recvTake (owned : rx.Owned lost) (inv : RxInv layout rx) {swIndex : UInt32}
    {dst status : SrngTestRing} (held : rx.lock = .recvBegun index swIndex)
    (rings : rx.rings index = some (dst, status)) :
    (rx.recvResult index
      (testDstRecvNext rx.hal (rx.pipes index) dst status swIndex)).Owned lost := by
  obtain ⟨counts, at_, inRange, _, ⟨_, outcome⟩ | ⟨hal', skb, nbytes, outcome, agrees,
    _, _⟩⟩ := inv.recv_outcome held rings
  · rw [outcome]
    exact owned.still rfl rfl rfl rfl (fun _ => ⟨rfl, rfl⟩) (by rw [held]; rfl)
  · rw [outcome]
    have front := posted_receive agrees
    simp only [Rx.pipe] at front
    exact owned.takeFront inRange (by rw [held]; rfl) front _ _ _

/-- A step of the drain of the pipe, which leaves what is posted everywhere. -/
theorem Rx.Owned.onDrain (owned : rx.Owned lost) (inRange : index < rx.pipesCount)
    {drain : Drain} {buffers : Buffers} {hal : Hal} {lock : RxLock}
    (moves : ∀ mapped loose,
      Ledger rx.buffers (rx.posted index + (rx.drains index).inHand + rx.lock.inHand + mapped)
        ((rx.drains index).list + loose) →
      Ledger buffers (rx.posted index + drain.inHand + lock.inHand + mapped)
        (drain.list + loose)) :
    Rx.Owned lost { rx.setDrain index drain with
      hal := hal, lock := lock, buffers := buffers } := by
  refine owned.local inRange rfl ?_ ?_ ?_
  · intro other different
    simp only [Rx.mappedAt, Rx.posted, Rx.setDrain, Function.update_of_ne different]
  · intro other different
    simp only [Rx.setDrain, Function.update_of_ne different]
  · intro mapped loose ledger
    simp only [Rx.mappedAt, Rx.setDrain, Function.update_self]
    exact moves mapped loose ledger

theorem Rx.Owned.recvEnd (owned : rx.Owned lost) (inRange : index < rx.pipesCount)
    {result : Except Int (Option Nat × UInt32)} {list : List Nat}
    (held : rx.lock = .recvDone index result) (receiving : rx.drains index = .recv list)
    (hal : Hal) :
    Rx.Owned lost { rx.setDrain index (Rx.afterRecv list result) with
      hal := hal, lock := .free } := by
  refine owned.onDrain inRange ?_
  intro mapped loose ledger
  have sameList : (Rx.afterRecv list result).list = (rx.drains index).list := by
    rw [receiving]
    rcases result with _ | ⟨_, _⟩ <;> rfl
  have sameHand : (Rx.afterRecv list result).inHand = rx.lock.inHand := by
    rw [held]
    rcases result with _ | ⟨_ | _, _⟩ <;> rfl
  have empty : (rx.drains index).inHand = 0 := by
    rw [receiving]
    rfl
  rw [empty, add_zero] at ledger
  rw [sameList, sameHand, show RxLock.free.inHand = 0 from rfl, add_zero]
  exact ledger

section Drains

variable {skb : Nat} {list : List Nat} {nbytes : UInt32}

/-- The loop body: the buffer that `recv_next` returned is unmapped; `buffers` is what
becomes of it then. -/
theorem Rx.Owned.drainTake (owned : rx.Owned lost) (inRange : index < rx.pipesCount)
    (took : rx.drains index = .took list (some skb) nbytes) {buffers : Buffers}
    {list' : List Nat}
    (moves : ∀ mapped loose, Ledger (rx.unmapped skb) mapped (skb ::ₘ (list + loose)) →
      Ledger buffers mapped (list' + loose)) :
    Rx.Owned lost { rx.setDrain index (.recv list') with buffers := buffers } := by
  refine owned.onDrain inRange ?_
  intro mapped loose ledger
  simp only [took, Drain.inHand, Drain.list] at ledger
  rw [add_singleton_add, Multiset.cons_add] at ledger
  simp only [Drain.inHand, Drain.list, add_zero]
  exact moves _ _ ledger.unmap

theorem Rx.Owned.drainOverlong (owned : rx.Owned lost) (inRange : index < rx.pipesCount)
    (took : rx.drains index = .took list (some skb) nbytes) :
    Rx.Owned lost { rx.setDrain index (.recv list) with
      buffers := (rx.unmapped skb).devKfreeSkb skb } :=
  owned.drainTake inRange took fun _ _ ledger => ledger.free

theorem Rx.Owned.drainKeep (owned : rx.Owned lost) (inRange : index < rx.pipesCount)
    (took : rx.drains index = .took list (some skb) nbytes) {buffers : Buffers}
    (put : (rx.unmapped skb).skbPut skb nbytes = some buffers) :
    Rx.Owned lost { rx.setDrain index (.recv (list ++ [skb])) with buffers := buffers } := by
  refine owned.drainTake inRange took fun mapped loose ledger => ?_
  have same : ((list ++ [skb] : List Nat) : Multiset Nat) + loose =
      skb ::ₘ (list + loose) := by
    rw [← Multiset.coe_add, Multiset.coe_singleton, add_singleton_add]
  rw [same]
  exact ledger.put ledger.notMem_mapped put

theorem Rx.Owned.flushOne (owned : rx.Owned lost) (inRange : index < rx.pipesCount)
    (flushing : rx.drains index = .flush (skb :: list)) :
    Rx.Owned lost { rx.setDrain index (.flush list) with
      buffers := rx.buffers.devKfreeSkb skb } := by
  refine owned.onDrain inRange ?_
  intro mapped loose ledger
  simp only [flushing, Drain.inHand, Drain.list, ← Multiset.cons_coe,
    Multiset.cons_add] at ledger
  exact ledger.free

end Drains

theorem Rx.Owned.enqueueBegin (owned : rx.Owned lost) (inRange : index < rx.pipesCount)
    {poster : Poster} (held : rx.lock = .postLoop poster index) (tailroom : UInt32)
    (paddr : UInt64) (hal : Hal) (writeIndex : UInt32) :
    Rx.Owned lost { rx with
      buffers := rx.mapped tailroom paddr
      hal := hal
      lock := .enqueueBegun poster index rx.buffers.allocated paddr writeIndex } := by
  refine owned.local inRange rfl (fun _ _ => rfl) (fun _ _ => rfl) ?_
  intro mapped loose ledger
  have grown := ledger.allocate tailroom paddr
  simp only [held, RxLock.inHand, add_zero] at grown
  simp only [RxLock.inHand]
  rw [add_singleton_add]
  exact grown

/-- The buffer in hand passes into the slot behind the posted ones. -/
theorem Rx.Owned.postLast (owned : rx.Owned lost) (inRange : index < rx.pipesCount)
    {poster : Poster} {skb : Nat} {paddr : UInt64} {writeIndex : UInt32}
    (held : rx.lock = .enqueueBegun poster index skb paddr writeIndex)
    (ordered : (rx.received index).length ≤ (rx.enqueued index).length)
    (hal : Hal) (pipe : SrngTestPipe) :
    (rx.enqueueResult poster index skb paddr (hal, pipe, 0)).Owned lost := by
  refine owned.local inRange rfl ?_ (fun _ _ => rfl) ?_
  · intro other different
    simp [Rx.mappedAt, Rx.posted, Rx.enqueueResult, Rx.setPipe, different]
  · intro mapped loose ledger
    have later : ((rx.enqueued index ++ [(skb, paddr)]).map Prod.fst).drop
        (rx.received index).length =
        ((rx.enqueued index).map Prod.fst).drop (rx.received index).length ++ [skb] := by
      rw [List.map_append, List.drop_append_of_le_length (by simpa using ordered)]
      rfl
    simp only [Rx.mappedAt, Rx.posted, held, RxLock.inHand] at ledger
    simp only [Rx.mappedAt, Rx.posted, Rx.enqueueResult, Rx.setPipe, if_true,
      Function.update_self, RxLock.inHand, later, add_zero]
    rw [← Multiset.coe_add, Multiset.coe_singleton,
      add_right_comm _ ({skb} : Multiset Nat)]
    exact ledger

theorem Rx.Owned.enqueueStore (owned : rx.Owned lost) (inv : RxInv layout rx)
    {poster : Poster} {skb : Nat} {paddr : UInt64} {writeIndex : UInt32}
    {dst : SrngTestRing}
    (held : rx.lock = .enqueueBegun poster index skb paddr writeIndex)
    (ring : (rx.pipes index).dstRing = some dst) :
    (rx.enqueueResult poster index skb paddr
      (testDstEnqueuePipe rx.hal (rx.pipes index) dst skb paddr writeIndex)).Owned lost := by
  obtain ⟨status, counts, hal', desc, at_, inRange, _, stored, _, _⟩ :=
    inv.enqueue_ok held ring
  have ordered := at_.inv.received_le_enqueued
  simp only [Rx.pipe] at ordered
  rw [stored]
  exact owned.postLast inRange held ordered _ _

theorem Rx.Owned.leavePost (owned : rx.Owned lost) (lock : LockInv rx) {poster : Poster}
    (held : rx.lock = .postLoop poster index) (ret : Int) :
    (rx.postExit poster index ret).Owned lost := by
  rw [LockInv, held] at lock
  obtain ⟨_, posting⟩ := lock
  have free : (rx.postExit poster index ret).lock.inHand = rx.lock.inHand := by
    rw [Rx.lock_postExit, held]
    rfl
  cases poster with
  | init => exact owned.still rfl rfl rfl rfl (fun _ => ⟨rfl, rfl⟩) free
  | timer => exact owned.still rfl rfl rfl rfl (fun _ => ⟨rfl, rfl⟩) free
  | drain pipe =>
      obtain ⟨rfl, atPost⟩ := posting
      exact owned.still rfl rfl rfl rfl
        (drains_still (by rw [atPost]; rfl) (by rw [atPost]; rfl)) free

theorem Rx.Owned.postExit (owned : rx.Owned lost) (inv : RxInv layout rx) {poster : Poster}
    (held : rx.lock = .postLoop poster index) (ret : Int) :
    (rx.postExit poster index ret).Owned lost :=
  owned.leavePost inv.lock held ret

theorem Rx.Owned.setPostBuf (owned : rx.Owned lost) (timer : Bool) (walk : PostBuf) :
    (rx.setPostBuf timer walk).Owned lost := by
  cases timer with
  | false => exact owned.still rfl rfl rfl rfl (fun _ => ⟨rfl, rfl⟩) rfl
  | true => exact owned.still rfl rfl rfl rfl (fun _ => ⟨rfl, rfl⟩) rfl

/-- A step of a live module, unless the mapping of a new buffer fails. -/
theorem Rx.Owned.step (owned : rx.Owned lost) (inv : RxInv layout rx)
    (maps : rx.MappingHolds event) (stepped : Rx.Step rx event next)
    (live : next.live = true) : next.Owned lost := by
  have busy := inv.drains_lt
  have lock := inv.lock
  rw [LockInv] at lock
  cases stepped with
  | drainStart inRange idle =>
      exact owned.still rfl rfl rfl rfl
        (drains_still (by rw [idle]; rfl) (by rw [idle]; rfl)) rfl
  | recvBegin free receiving rings =>
      exact owned.still rfl rfl rfl rfl (fun _ => ⟨rfl, rfl⟩) (by rw [free]; rfl)
  | recvTake held rings => exact owned.recvTake inv held rings
  | recvEnd held receiving rings =>
      exact owned.recvEnd (busy _ (by rw [receiving]; simp)) held receiving _
  | drainOverlong took long =>
      exact owned.drainOverlong (busy _ (by rw [took]; simp)) took
  | drainKeep took fits put => exact owned.drainKeep (busy _ (by rw [took]; simp)) took put
  | flushOne flushing =>
      exact owned.flushOne (busy _ (by rw [flushing]; simp)) flushing
  | flushDone flushing =>
      exact owned.still rfl rfl rfl rfl
        (drains_still (by rw [flushing]; rfl) (by rw [flushing]; rfl)) rfl
  | drainPostNull posting missing | drainPost posting found =>
      exact owned.still rfl rfl rfl rfl
        (drains_still (by rw [posting]; rfl) (by rw [posting]; rfl)) rfl
  | drainLock waiting free | postBufLock waiting free =>
      exact owned.still rfl rfl rfl rfl (fun _ => ⟨rfl, rfl⟩) (by rw [free]; rfl)
  | drainReturn posted =>
      exact owned.still rfl rfl rfl rfl
        (drains_still (by rw [posted]; rfl) (by rw [posted]; rfl)) rfl
  | timerFire armed idle =>
      exact owned.still rfl rfl rfl rfl (fun _ => ⟨rfl, rfl⟩) rfl
  | postBufNull | postBufWait | postBufDone | postBufOn => exact owned.setPostBuf _ _
  | postBufStop posted failed =>
      exact (owned.setPostBuf _ _).still rfl rfl rfl rfl (fun _ => ⟨rfl, rfl⟩) rfl
  | postDone held full => exact owned.postExit inv held _
  | postNoMemory held needed => exact owned.postExit inv held _
  | postUnmapped held needed => exact absurd rfl (maps _ _ _ held needed)
  | enqueueBegin held needed ring =>
      rw [held] at lock
      exact owned.enqueueBegin lock.1 held _ _ _ _
  | enqueueStore held ring => exact owned.enqueueStore inv held ring
  | enqueueEnd held ring =>
      exact owned.still rfl rfl rfl rfl (fun _ => ⟨rfl, rfl⟩) (by rw [held]; rfl)
  | enqueueUndo held failed ring => exact absurd (inv.enqueue_zero held ring) failed
  | deviceConsume | deviceStoreTail | deviceReport | deviceStoreHead =>
      exact owned.still rfl rfl rfl rfl (fun _ => ⟨rfl, rfl⟩) rfl
  | deinit free initialised quiet => contradiction

/-- A step that loses a buffer is the mapping error of `post_pipe`. -/
theorem Rx.Step.mapping_fails (stepped : Rx.Step rx event next)
    (fails : ¬ rx.MappingHolds event) :
    ∃ poster index tailroom, rx.lock = .postLoop poster index ∧
      event = .postBuffer (some tailroom) none ∧
      next = { rx with buffers := (rx.buffers.devAllocSkb tailroom).1 }.postExit poster
        index (-eio) := by
  unfold Rx.MappingHolds at fails
  push Not at fails
  obtain ⟨poster, index, tailroom, held, needed, rfl⟩ := fails
  cases stepped with
  | postDone found full =>
      rw [held] at found
      cases found
      exact absurd full needed
  | postUnmapped found => exact ⟨_, _, tailroom, found, rfl, rfl⟩

/-- A step of a live module, with what a failed mapping loses. -/
theorem Rx.Owned.anyStep (owned : rx.Owned lost) (inv : RxInv layout rx)
    (stepped : Rx.Step rx event next) (live : next.live = true) :
    ∃ lost', next.Owned lost' ∧ (lost' = 0 ↔ lost = 0 ∧ rx.MappingHolds event) := by
  by_cases maps : rx.MappingHolds event
  · exact ⟨lost, owned.step inv maps stepped live, by simp [maps]⟩
  · obtain ⟨poster, index, tailroom, held, rfl, rfl⟩ := stepped.mapping_fails maps
    refine ⟨_, (owned.lose tailroom).postExit (inv.lose tailroom) held _, ?_⟩
    simp [maps]

end Steps

/-! The address of a buffer. -/

/-- A posted buffer keeps the address of its descriptor in its control block. -/
structure Addressed (rx : Rx) : Prop where
  posted : ∀ index entry, entry ∈ rx.enqueued index →
    (rx.buffers.skb entry.1).paddr = entry.2
  inHand : ∀ poster index skb paddr writeIndex,
    rx.lock = .enqueueBegun poster index skb paddr writeIndex →
    (rx.buffers.skb skb).paddr = paddr

section Addresses

variable {rx next : Rx} {event : Rx.Event}

theorem Addressed.start (hal : Hal) (count : Nat) (pipes : Nat → SrngTestPipe) :
    Addressed (.start hal count pipes) where
  posted := by
    intro index entry member
    cases member
  inHand := by
    intro poster index skb paddr writeIndex held
    cases held

/-- No step moves a buffer that was allocated before. -/
theorem Rx.Step.paddr_eq (stepped : Rx.Step rx event next) (live : next.live = true)
    {skb : Nat} (old : skb < rx.buffers.allocated) :
    (next.buffers.skb skb).paddr = (rx.buffers.skb skb).paddr := by
  have different : skb ≠ rx.buffers.allocated := Nat.ne_of_lt old
  cases stepped with
  | @drainKeep index taken list nbytes buffers took fits put =>
      obtain ⟨_, rfl⟩ := Buffers.skbPut_eq_some.mp put
      simp only [Rx.unmapped, Buffers.dmaUnmapSingle]
      by_cases same : skb = taken
      · rw [same, Function.update_self]
      · rw [Function.update_of_ne same]
  | postUnmapped =>
      simp [Buffers.devAllocSkb, different]
  | enqueueBegin =>
      simp [Rx.mapped, Buffers.setPaddr, Buffers.dmaMapSingle, Buffers.devAllocSkb,
        different]
  | deinit => contradiction
  | postBufNull | postBufWait | postBufDone | postBufOn | postBufStop => simp
  | postDone | postNoMemory | enqueueUndo =>
      simp [Buffers.dmaUnmapSingle, Buffers.devKfreeSkb]
  | _ => rfl

theorem Addressed.keep (addressed : Addressed rx) (numbered : Numbered rx)
    (kept : ∀ skb < rx.buffers.allocated,
      (next.buffers.skb skb).paddr = (rx.buffers.skb skb).paddr)
    (enqueued : next.enqueued = rx.enqueued)
    (lock : next.lock = rx.lock ∨ ∀ poster index skb paddr writeIndex,
      next.lock ≠ .enqueueBegun poster index skb paddr writeIndex) :
    Addressed next where
  posted := by
    intro index entry member
    rw [enqueued] at member
    rw [kept _ (numbered.lt index entry member)]
    exact addressed.posted index entry member
  inHand := by
    intro poster index skb paddr writeIndex held
    rcases lock with same | other
    · rw [same] at held
      rw [kept _ (numbered.inHand poster index skb paddr writeIndex held).1]
      exact addressed.inHand poster index skb paddr writeIndex held
    · exact absurd held (other poster index skb paddr writeIndex)

theorem Addressed.step (addressed : Addressed rx) (numbered : Numbered rx)
    (stepped : Rx.Step rx event next) (live : next.live = true) : Addressed next := by
  have kept : ∀ skb < rx.buffers.allocated,
      (next.buffers.skb skb).paddr = (rx.buffers.skb skb).paddr :=
    fun skb old => stepped.paddr_eq live old
  cases stepped with
  | @enqueueBegin poster index tailroom paddr =>
      refine ⟨?_, ?_⟩
      · intro pipe entry member
        rw [kept _ (numbered.lt pipe entry member)]
        exact addressed.posted pipe entry member
      · rintro _ _ _ _ _ ⟨⟩
        simp [Rx.mapped, Buffers.setPaddr, Buffers.dmaMapSingle, Buffers.devAllocSkb]
  | @enqueueStore poster index skb paddr writeIndex dst held ring =>
      have inHand := addressed.inHand poster index skb paddr writeIndex held
      refine ⟨?_, by simp [Rx.enqueueResult]⟩
      intro pipe entry member
      simp only [Rx.enqueueResult] at member ⊢
      split at member
      next =>
          by_cases same : pipe = index
          · subst same
            simp only [Function.update_self, List.mem_append,
              List.mem_singleton] at member
            rcases member with old | rfl
            · exact addressed.posted pipe entry old
            · exact inHand
          · simp only [Function.update_of_ne same] at member
            exact addressed.posted pipe entry member
      next => exact addressed.posted pipe entry member
  | deinit => contradiction
  | recvTake | recvBegin | recvEnd | drainLock | postBufLock | enqueueEnd =>
      exact addressed.keep numbered kept rfl (.inr (by simp [Rx.recvResult]))
  | postBufNull | postBufWait | postBufDone | postBufOn | postBufStop =>
      exact addressed.keep numbered kept (by simp) (.inl (by simp))
  | postDone | postNoMemory | postUnmapped | enqueueUndo =>
      exact addressed.keep numbered kept (by simp) (.inr (by simp))
  | _ => exact addressed.keep numbered kept rfl (.inl rfl)

/-- A buffer that was posted and not received is mapped where its descriptor says. -/
theorem Rx.Owned.posted_live {lost : Multiset Nat} (owned : rx.Owned lost)
    (addressed : Addressed rx) {index : Nat} (inRange : index < rx.pipesCount)
    {at_ : Nat} (waiting : (rx.received index).length ≤ at_) {entry : Nat × UInt64}
    (lookup : (rx.enqueued index)[at_]? = some entry) :
    (∃ mapping, rx.buffers.mapping entry.1 = some mapping ∧ mapping.paddr = entry.2) ∧
      entry.1 < rx.buffers.allocated ∧ entry.1 ∉ rx.buffers.freed := by
  have ledger : Ledger rx.buffers _ _ := owned
  have mapped : entry.1 ∈ ∑ other ∈ Finset.range rx.pipesCount, rx.mappedAt other +
      rx.lock.inHand := by
    have here : entry.1 ∈ rx.posted index := by
      rw [Rx.posted, Multiset.mem_coe, List.mem_iff_getElem?]
      refine ⟨at_ - (rx.received index).length, ?_⟩
      rw [List.getElem?_drop, Nat.add_sub_cancel' waiting, List.getElem?_map, lookup]
      rfl
    refine Multiset.mem_add.mpr (.inl ?_)
    rw [Multiset.mem_sum]
    exact ⟨index, Finset.mem_range.mpr inRange, Multiset.mem_add.mpr (.inl here)⟩
  have address := addressed.posted index entry (List.mem_of_getElem? lookup)
  refine ⟨⟨_, ledger.live _ mapped, address⟩, ledger.lt_allocated mapped, ?_⟩
  intro freed
  have once := (Multiset.nodup_add.mp ledger.nodup).2.2
  exact Multiset.disjoint_left.mp once (Multiset.mem_add.mpr (.inl mapped)) freed

end Addresses

/-! Teardown. -/

/-- `cleanuprx` releases the buffers of the slots, in order. -/
theorem foldl_cleanupSlot {slots : List Nat} (distinct : slots.Nodup)
    (buffers : Buffers) (ring : SrngTestRing) :
    (slots.foldl cleanupSlot (buffers, ring)).1 =
      (slots.filterMap ring.skb).foldl Buffers.release buffers := by
  induction slots generalizing buffers ring with
  | nil => rfl
  | cons slot slots ih =>
      obtain ⟨outside, rest⟩ := List.nodup_cons.mp distinct
      rw [List.foldl_cons]
      cases found : ring.skb slot with
      | none =>
          rw [cleanupSlot, found, ih rest, List.filterMap_cons_none found]
      | some skb =>
          have kept : slots.filterMap (Function.update ring.skb slot none) =
              slots.filterMap ring.skb := by
            apply List.filterMap_congr
            intro other member
            rw [Function.update_of_ne]
            rintro rfl
            exact outside member
          rw [cleanupSlot, found, List.filterMap_cons_some found, List.foldl_cons]
          simp only
          rw [ih rest, kept]
          rfl

theorem cleanupPipes_eq (pipes : Nat → SrngTestPipe) (buffers : Buffers) (count : Nat) :
    Rx.cleanupPipes pipes buffers count =
      ((List.range count).flatMap fun index => (pipes index).slotBuffers).foldl
        Buffers.release buffers := by
  induction count with
  | zero => rfl
  | succ count ih =>
      rw [List.range_succ, List.flatMap_append, List.flatMap_singleton,
        List.foldl_append, ← ih, Rx.cleanupPipes, SrngTestPipe.slotBuffers]
      cases (pipes count).dstRing with
      | none => rfl
      | some ring => exact foldl_cleanupSlot List.nodup_range _ ring

/-- The slots of a table hold the buffers that the logs say are posted. -/
theorem RxInv.slotBuffers_eq {layout : RxLayout} {rx : Rx} (inv : RxInv layout rx) :
    rx.slotBuffers = ∑ index ∈ Finset.range rx.pipesCount, rx.posted index := by
  apply Finset.sum_congr rfl
  intro index member
  obtain ⟨dst, status, counts, at_⟩ := inv.pipes index (Finset.mem_range.mp member)
  have nentries := at_.inv.rings.table.nentries_eq
  have bound := at_.inv.posted_bound
  have slots := at_.inv.table.slots
  simp only [Rx.pipe] at nentries bound slots
  have contents := slots.contents (by rw [List.length_map]; omega)
  simp only [SrngTestPipe.slotBuffers, at_.dstRing, nentries, Rx.posted]
  exact Multiset.coe_eq_coe.mpr contents

theorem Rx.Owned.inSlots {rx : Rx} {lost : Multiset Nat} (owned : rx.Owned lost)
    (slots : rx.slotBuffers = ∑ index ∈ Finset.range rx.pipesCount, rx.posted index) :
    Ledger rx.buffers (rx.slotBuffers + rx.inHand) (rx.listBuffers + lost) := by
  unfold Rx.Owned at owned
  simp only [Rx.mappedAt, Finset.sum_add_distrib] at owned
  rw [slots, Rx.inHand, ← add_assoc]
  exact owned

theorem Rx.Owned.ledger {layout : RxLayout} {rx : Rx} {lost : Multiset Nat}
    (owned : rx.Owned lost) (inv : RxInv layout rx) :
    Ledger rx.buffers (rx.slotBuffers + rx.inHand) (rx.listBuffers + lost) :=
  owned.inSlots inv.slotBuffers_eq

theorem Rx.AtBoundary.inHand_eq {rx : Rx} (boundary : rx.AtBoundary) :
    rx.inHand = 0 := by
  obtain ⟨free, notTook⟩ := boundary
  have empty : ∀ index, (rx.drains index).inHand = 0 := by
    intro index
    cases drain : rx.drains index with
    | took list skb nbytes => exact absurd drain (notTook index list skb nbytes)
    | _ => rfl
  rw [Rx.inHand, free]
  simp only [empty, Finset.sum_const_zero]
  rfl

/-- After the teardown nothing is owned any more but what was lost. -/
theorem Rx.deinit_ledger {rx next : Rx} {lost : Multiset Nat}
    (ledger : Ledger rx.buffers (rx.slotBuffers + rx.inHand) (rx.listBuffers + lost))
    (ended : Rx.Step rx .deinit next) :
    Ledger next.buffers 0 lost ∧ next.slotBuffers = 0 ∧ next.listBuffers = 0 ∧
      next.inHand = 0 := by
  cases ended with
  | deinit free initialised quiet =>
      have idle : ∀ index, index ∈ Finset.range rx.pipesCount →
          rx.drains index = .idle := by
        intro index member
        exact quiet index (List.mem_range.mpr (Finset.mem_range.mp member))
      have lists : rx.listBuffers = 0 := by
        apply Finset.sum_eq_zero
        intro index member
        rw [idle index member]
        rfl
      have hands : rx.inHand = 0 := by
        rw [Rx.inHand, free, Finset.sum_eq_zero]
        · rfl
        · intro index member
          rw [idle index member]
          rfl
      rw [lists, hands, zero_add, Rx.slotBuffers, sum_range_coe] at ledger
      refine ⟨?_, ?_, lists, hands⟩
      · simp only
        rw [cleanupPipes_eq]
        exact ledger.release
      · apply Finset.sum_eq_zero
        intro index member
        simp only [halSrngTestFreePipes, if_pos (Finset.mem_range.mp member)]
        rfl

theorem Rx.Owned.deinit {layout : RxLayout} {rx next : Rx} {lost : Multiset Nat}
    (owned : rx.Owned lost) (inv : RxInv layout rx) (ended : Rx.Step rx .deinit next) :
    Ledger next.buffers 0 lost ∧ next.slotBuffers = 0 ∧ next.listBuffers = 0 ∧
      next.inHand = 0 :=
  Rx.deinit_ledger (owned.ledger inv) ended

section Runs

variable {hal hal' : Hal} {count : Nat} {memory : Nat → Fin 3 → RingMemory}
  {attrs : Nat → SrngTestAttr} {pipes : Nat → SrngTestPipe}

/-- While no mapping fails, every buffer is in exactly one place, no call of the kernel
interface is out of turn, and the teardown leaves neither buffer nor mapping. -/
theorem rx_buffer_ownership (table : RxTable hal.srngConfig)
    (twoLe : ∀ index, index < count →
      2 ≤ (ringEntries (attrs index).destNentries).toNat)
    (done : dstTestSetup hal count memory attrs = (hal', pipes, none))
    {events : List Rx.Event} {rx : Rx}
    (meets : Meets Rx.step Rx.MappingHolds (.start hal' count pipes) events)
    (reached : run Rx.step (.start hal' count pipes) events = some rx) :
    rx.slotBuffers + rx.listBuffers + rx.inHand + (rx.buffers.freed : Multiset Nat) =
        Multiset.range rx.buffers.allocated ∧
      (rx.AtBoundary → rx.inHand = 0) ∧ rx.buffers.faulted = false ∧
      (rx.live = false →
        (rx.buffers.freed : Multiset Nat) = Multiset.range rx.buffers.allocated ∧
        ∀ skb, rx.buffers.mapping skb = none) := by
  obtain ⟨_, before, live, _, inv, owned, ⟨rfl, _⟩ | ended⟩ :=
    rx_invariant table twoLe done (Rx.Owned 0) (.start hal' count pipes)
      (fun _ _ _ maps inv owned stepped live => owned.step inv maps stepped live)
      meets reached
  · have ledger := owned.ledger inv
    rw [add_zero] at ledger
    refine ⟨?_, Rx.AtBoundary.inHand_eq, ledger.sound, fun dead => ?_⟩
    · rw [add_right_comm rx.slotBuffers]
      exact ledger.total
    · rw [live] at dead
      contradiction
  · obtain ⟨ledger, slots, lists, hands⟩ := owned.deinit inv ended
    have freed : (rx.buffers.freed : Multiset Nat) =
        Multiset.range rx.buffers.allocated := by
      rw [← ledger.total, zero_add, zero_add]
    refine ⟨?_, Rx.AtBoundary.inHand_eq, ledger.sound, fun _ => ⟨freed, ?_⟩⟩
    · rw [slots, lists, hands, zero_add, zero_add, zero_add]
      exact freed
    · intro skb
      exact ledger.dead skb (Multiset.notMem_zero skb)

/-- A frame received and freed, the rest released by the teardown. -/
def oneFrame : List Rx.Event :=
  smallPost ++ [.deviceConsume 0, .deviceStoreTail 0, .deviceReport 0 60 0,
    .deviceStoreHead 0, .drainStart 0, .recvBegin 0, .recvTake, .recvEnd, .drainTake 0,
    .recvBegin 0, .recvTake, .recvEnd, .drainFlush 0, .drainFlush 0, .drainPost 0,
    .drainLock 0, .postBuffer none none, .drainReturn 0, .deinit]

theorem rx_buffer_ownership_two :
    ∃ rx, run Rx.step (.start smallSetup.1 1 smallSetup.2.1) oneFrame = some rx ∧
      rx.buffers.allocated = 2 ∧
      (rx.buffers.freed : Multiset Nat) = Multiset.range 2 ∧
      ∀ skb, rx.buffers.mapping skb = none := by
  have seen : (run Rx.step (.start smallSetup.1 1 smallSetup.2.1) oneFrame).map
      (fun rx => (rx.live, rx.buffers.allocated)) = some (false, 2) := by decide +kernel
  obtain ⟨rx, reached, values⟩ := Option.map_eq_some_iff.mp seen
  simp only [Prod.mk.injEq] at values
  obtain ⟨dead, allocated⟩ := values
  have maps := @Meets.of_forall _ _ Rx.step Rx.MappingHolds oneFrame
    (by simp [oneFrame, smallPost, Rx.MappingHolds]) (.start smallSetup.1 1 smallSetup.2.1)
  obtain ⟨_, _, _, last⟩ := rx_buffer_ownership hwSrngConfigTemplate_table
    (fun _ _ => by decide +kernel) smallSetup_done maps reached
  obtain ⟨freed, unmapped⟩ := last dead
  rw [allocated] at freed
  exact ⟨rx, reached, allocated, freed, unmapped⟩

/-- The buffer whose mapping failed is nowhere, and the teardown does not free it. -/
def unmappedPost : List Rx.Event :=
  [.postBufNext false, .postBufLock false, .postBuffer (some 2048) none,
    .postBufReturn false, .deinit]

theorem rx_buffer_leaks :
    ∃ rx, run Rx.step (.start smallSetup.1 1 smallSetup.2.1) unmappedPost = some rx ∧
      rx.live = false ∧
      rx.slotBuffers + rx.listBuffers + rx.inHand +
          (rx.buffers.freed : Multiset Nat) ≠ Multiset.range rx.buffers.allocated ∧
      (rx.buffers.freed : Multiset Nat) ≠ Multiset.range rx.buffers.allocated := by
  have seen : (run Rx.step (.start smallSetup.1 1 smallSetup.2.1) unmappedPost).map
      (fun rx => (rx.live,
        rx.slotBuffers + rx.listBuffers + rx.inHand +
          (rx.buffers.freed : Multiset Nat), rx.buffers.freed, rx.buffers.allocated)) =
      some (false, 0, [], 1) := by decide +kernel
  obtain ⟨rx, reached, values⟩ := Option.map_eq_some_iff.mp seen
  simp only [Prod.mk.injEq] at values
  obtain ⟨dead, places, freed, allocated⟩ := values
  refine ⟨rx, reached, dead, ?_, ?_⟩
  · rw [places, allocated]
    decide
  · rw [freed, allocated]
    decide

end Runs

end WirelessSimu
