import WirelessSimu.Kernel.Ledger
import WirelessSimu.Mac.MgmtTx
import Mathlib.Tactic.Abel

namespace WirelessSimu

open Data Kernel

/-! Where the frames are. A frame that the driver took over is in a call that is not
over, in the queue, with the work item, registered under a buffer id, or freed. -/

def TxCall.frames : TxCall → Multiset Nat
  | .prbRspRead skb | .lenRead skb | .queueTail skb | .refused skb => {skb}
  | .idle | .countUp => 0

/-- The frames that the work item took out of the queue and did not register. -/
def MgmtWorker.frames : MgmtWorker → Multiset Nat
  | .drop skb | .alloc skb => {skb}
  | _ => 0

def MgmtWorker.atErrFreeIdr : MgmtWorker → Bool
  | .freeIdr _ => true
  | _ => false

namespace Mac

def callFrames (callers : Nat) (mac : Mac) : Multiset Nat :=
  ∑ caller ∈ Finset.range callers, (mac.calls caller).frames

def registered (mac : Mac) : Multiset Nat :=
  ∑ bufId ∈ Finset.range txMgmtNumPendingMax,
    ((mac.txmgmtIdr bufId).toList : Multiset Nat)

def places (callers : Nat) (mac : Mac) (skb : Nat) : Nat :=
  (mac.callFrames callers).count skb + mac.mgmtTxQueue.count skb +
    mac.worker.frames.count skb + mac.registered.count skb +
    mac.buffers.freed.count skb

/-- Every frame is at one place, and a freed one was freed once. -/
def FramesOwned (callers : Nat) (mac : Mac) : Prop :=
  ∀ skb < mac.buffers.allocated, mac.places callers skb = 1

/-- The frame is one that the driver queues, its id is allocated, and the way
through `err_free_idr` is not taken. -/
def KeepsFrame (mac : Mac) : Event → Prop
  | .tx _ frame _ => frame.hw80211Encap = false ∧ frame.isMgmt = true
  | .idrAlloc bufId => bufId.isSome
  | .work => mac.worker.atErrFreeIdr = false
  | _ => True

instance : ∀ mac event, Decidable (KeepsFrame mac event)
  | _, .tx _ frame _ =>
      inferInstanceAs (Decidable (frame.hw80211Encap = false ∧ frame.isMgmt = true))
  | _, .idrAlloc bufId => inferInstanceAs (Decidable (bufId.isSome = true))
  | mac, .work => inferInstanceAs (Decidable (mac.worker.atErrFreeIdr = false))
  | _, .call _ => isTrue trivial
  | _, .dmaMap _ => isTrue trivial
  | _, .wmiSend _ => isTrue trivial

/-- The frame that `mgmt_tx_wmi` works on is registered under its id. -/
def WorkerAt (mac : Mac) : Prop :=
  match mac.worker with
  | .map skb bufId | .send skb bufId | .unmap skb bufId =>
      bufId < txMgmtNumPendingMax ∧ mac.txmgmtIdr bufId = some skb
  | .freeIdr bufId =>
      bufId < txMgmtNumPendingMax ∧ ∃ skb, mac.txmgmtIdr bufId = some skb
  | _ => True

/-- All frames, with those that no place holds any more in `lost`. -/
structure Accounted (callers : Nat) (lost : Multiset Nat) (mac : Mac) : Prop where
  total : mac.callFrames callers + mac.mgmtTxQueue + mac.worker.frames +
    mac.registered + lost + mac.buffers.freed = Multiset.range mac.buffers.allocated
  workerAt : mac.WorkerAt

end Mac

section Steps

variable {callers : Nat} {mac next : Mac} {event : Mac.Event} {lost : Multiset Nat}

theorem Mac.callFrames_change {caller : Nat} (inRange : caller < callers)
    {call : TxCall} (calls : next.calls = Function.update mac.calls caller call) :
    ∃ rest, mac.callFrames callers = (mac.calls caller).frames + rest ∧
      next.callFrames callers = call.frames + rest :=
  sum_range_update TxCall.frames inRange calls

theorem Mac.registered_change {bufId : Nat} (inRange : bufId < txMgmtNumPendingMax)
    {entry : Option Nat}
    (idr : next.txmgmtIdr = Function.update mac.txmgmtIdr bufId entry) :
    ∃ rest, mac.registered = ((mac.txmgmtIdr bufId).toList : Multiset Nat) + rest ∧
      next.registered = (entry.toList : Multiset Nat) + rest := by
  obtain ⟨rest, before, after⟩ :=
    sum_range_update (fun entry : Option Nat => (entry.toList : Multiset Nat)) inRange idr
  exact ⟨rest, before, after⟩

/-- A step of one call, by what it moves between the call, the queue and the freed
frames. -/
theorem Mac.Accounted.callMoves (accounted : mac.Accounted callers lost)
    {lost' : Multiset Nat} {caller : Nat} (inRange : caller < callers) {call : TxCall}
    (calls : next.calls = Function.update mac.calls caller call)
    (idr : next.txmgmtIdr = mac.txmgmtIdr) (worker : next.worker = mac.worker)
    (balance : ∀ rest : Multiset Nat,
      (mac.calls caller).frames + mac.mgmtTxQueue + lost + mac.buffers.freed + rest =
        Multiset.range mac.buffers.allocated →
      call.frames + next.mgmtTxQueue + lost' + next.buffers.freed + rest =
        Multiset.range next.buffers.allocated) :
    next.Accounted callers lost' := by
  obtain ⟨others, before, after⟩ := Mac.callFrames_change inRange calls
  have total := accounted.total
  rw [before] at total
  refine ⟨?_, ?_⟩
  · rw [after, ← balance (others + mac.worker.frames + mac.registered)
      (by rw [← total]; abel), worker, Mac.registered, Mac.registered, idr]
    abel
  · have workerAt := accounted.workerAt
    unfold Mac.WorkerAt at workerAt ⊢
    rw [worker, idr]
    exact workerAt

/-- A step of the work item, by what it moves between the queue, its own hands, the
ids and the freed frames. -/
theorem Mac.Accounted.workMoves (accounted : mac.Accounted callers lost)
    {lost' : Multiset Nat} (calls : next.calls = mac.calls) (workerAt : next.WorkerAt)
    (balance : ∀ rest : Multiset Nat,
      mac.mgmtTxQueue + mac.worker.frames + mac.registered + lost + mac.buffers.freed +
        rest = Multiset.range mac.buffers.allocated →
      next.mgmtTxQueue + next.worker.frames + next.registered + lost' +
        next.buffers.freed + rest = Multiset.range next.buffers.allocated) :
    next.Accounted callers lost' := by
  have total := accounted.total
  refine ⟨?_, workerAt⟩
  rw [← balance (mac.callFrames callers) (by rw [← total]; abel), Mac.callFrames,
    Mac.callFrames, calls]
  abel

theorem Mac.Accounted.workStays (accounted : mac.Accounted callers lost)
    (calls : next.calls = mac.calls) (workerAt : next.WorkerAt)
    (queue : next.mgmtTxQueue = mac.mgmtTxQueue)
    (worker : next.worker.frames = mac.worker.frames)
    (idr : next.txmgmtIdr = mac.txmgmtIdr)
    (freed : next.buffers.freed = mac.buffers.freed)
    (allocated : next.buffers.allocated = mac.buffers.allocated) :
    next.Accounted callers lost := by
  refine accounted.workMoves calls workerAt fun rest total => ?_
  have same : next.registered = mac.registered := by rw [Mac.registered, idr]; rfl
  rw [queue, worker, same, freed, allocated]
  exact total

theorem Mac.Accounted.tx (accounted : mac.Accounted callers lost) {caller : Nat}
    (inRange : caller < callers) (idle : mac.calls caller = .idle) (frame : Frame)
    (skb : SkBuff) {call : TxCall} {lost' : Multiset Nat}
    (taken : call.frames + lost' = mac.buffers.allocated ::ₘ lost) :
    ((mac.arrived frame skb).setCall caller call).Accounted callers lost' := by
  refine accounted.callMoves inRange rfl rfl rfl fun rest total => ?_
  rw [idle] at total
  simp only [Mac.setCall, Mac.arrived, Buffers.adopt, Multiset.range_succ]
  rw [← total, add_right_comm call.frames, taken, ← Multiset.singleton_add,
    ← Multiset.singleton_add]
  simp only [TxCall.frames]
  abel

theorem Mac.Accounted.call (accounted : mac.Accounted callers lost) {caller : Nat}
    (inRange : caller < callers) {call : TxCall}
    (frames : call.frames = (mac.calls caller).frames) :
    (mac.setCall caller call).Accounted callers lost := by
  refine accounted.callMoves inRange rfl rfl rfl fun rest total => ?_
  rw [frames]
  exact total

theorem Mac.Accounted.queueTail (accounted : mac.Accounted callers lost)
    {caller skb : Nat} (inRange : caller < callers)
    (accepted : mac.calls caller = .queueTail skb) :
    Mac.Accounted callers lost
      { mac.setCall caller .countUp with
        mgmtTxQueue := mac.mgmtTxQueue ++ [skb] } := by
  refine accounted.callMoves inRange rfl rfl rfl fun rest total => ?_
  rw [accepted] at total
  simp only [Mac.setCall, TxCall.frames, ← Multiset.coe_add, Multiset.coe_singleton]
    at total ⊢
  rw [← total]
  abel

theorem Mac.Accounted.refused (accounted : mac.Accounted callers lost)
    {caller skb : Nat} (inRange : caller < callers)
    (refused : mac.calls caller = .refused skb) :
    Mac.Accounted callers lost
      { mac.setCall caller .idle with buffers := mac.buffers.devKfreeSkb skb } := by
  refine accounted.callMoves inRange rfl rfl rfl fun rest total => ?_
  rw [refused] at total
  simp only [Mac.setCall, TxCall.frames, Buffers.devKfreeSkb, ← Multiset.cons_coe,
    ← Multiset.singleton_add] at total ⊢
  rw [← total]
  abel

/-! The steps of the work item. -/

theorem Mac.Accounted.dequeue (accounted : mac.Accounted callers lost) {skb : Nat}
    {queue : List Nat} {worker : MgmtWorker} (looping : mac.worker = .dequeue)
    (first : mac.mgmtTxQueue = skb :: queue)
    (takes : worker = .drop skb ∨ worker = .alloc skb) :
    Mac.Accounted callers lost
      { mac with mgmtTxQueue := queue, worker := worker } := by
  have frames : worker.frames = {skb} := by rcases takes with rfl | rfl <;> rfl
  refine accounted.workMoves rfl ?_ fun rest total => ?_
  · rcases takes with rfl | rfl <;> trivial
  · rw [looping, first, ← Multiset.cons_coe, ← Multiset.singleton_add] at total
    rw [← total]
    simp only [frames]
    change _ + _ + mac.registered + _ + _ + _ = _
    simp only [MgmtWorker.frames]
    abel

theorem Mac.Accounted.drop (accounted : mac.Accounted callers lost) {skb : Nat}
    (dropping : mac.worker = .drop skb) :
    Mac.Accounted callers lost
      { mac with buffers := mac.buffers.devKfreeSkb skb, worker := .dropped } := by
  refine accounted.workMoves rfl trivial fun rest total => ?_
  rw [dropping] at total
  rw [← show _ = Multiset.range (mac.buffers.devKfreeSkb skb).allocated from total]
  change _ + _ + mac.registered + _ + ((skb :: mac.buffers.freed : List Nat) :
    Multiset Nat) + _ = _
  rw [← Multiset.cons_coe, ← Multiset.singleton_add]
  simp only [MgmtWorker.frames]
  abel

theorem Mac.Accounted.dropped (accounted : mac.Accounted callers lost)
    (freed : mac.worker = .dropped) : mac.mgmtOverTxDrop.Accounted callers lost := by
  refine accounted.workStays rfl trivial rfl ?_ rfl rfl rfl
  rw [freed]
  rfl

theorem Mac.Accounted.freeIdr (accounted : mac.Accounted callers lost) {bufId : Nat}
    (failed : mac.worker = .freeIdr bufId) :
    ∃ skb, Mac.Accounted callers (skb ::ₘ lost)
      { mac with
        txmgmtIdr := Function.update mac.txmgmtIdr bufId none
        worker := .dequeue } := by
  have workerAt := accounted.workerAt
  simp only [Mac.WorkerAt, failed] at workerAt
  obtain ⟨inRange, skb, entry⟩ := workerAt
  refine ⟨skb, accounted.workMoves rfl trivial fun rest total => ?_⟩
  obtain ⟨others, before, after⟩ := @Mac.registered_change mac
    { mac with
      txmgmtIdr := Function.update mac.txmgmtIdr bufId none
      worker := .dequeue } bufId inRange none rfl
  rw [before, entry, failed] at total
  rw [after, ← show _ = Multiset.range mac.buffers.allocated from total,
    ← Multiset.singleton_add]
  simp only [MgmtWorker.frames, Option.toList_none, Option.toList_some,
    Multiset.coe_nil, Multiset.coe_singleton]
  abel

theorem Mac.Accounted.noId (accounted : mac.Accounted callers lost) {skb : Nat}
    (allocating : mac.worker = .alloc skb) :
    Mac.Accounted callers (skb ::ₘ lost) { mac with worker := .dequeue } := by
  refine accounted.workMoves rfl trivial fun rest total => ?_
  rw [allocating] at total
  rw [← show _ = Multiset.range mac.buffers.allocated from total,
    ← Multiset.singleton_add]
  change _ + _ + mac.registered + _ + _ + _ = _
  simp only [MgmtWorker.frames]
  abel

theorem Mac.Accounted.id (accounted : mac.Accounted callers lost) {skb bufId : Nat}
    (allocating : mac.worker = .alloc skb) (inRange : bufId < txMgmtNumPendingMax)
    (unused : mac.txmgmtIdr bufId = none) {buffers : Buffers} {length : UInt32}
    (put : mac.buffers.skbPut skb length = some buffers) :
    Mac.Accounted callers lost
      { mac with
        txmgmtIdr := Function.update mac.txmgmtIdr bufId (some skb)
        buffers := buffers
        worker := .map skb bufId } := by
  obtain ⟨_, rfl⟩ := Buffers.skbPut_eq_some.mp put
  refine accounted.workMoves rfl ⟨inRange, Function.update_self ..⟩ fun rest total => ?_
  obtain ⟨others, before, after⟩ := @Mac.registered_change mac
    { mac with
      txmgmtIdr := Function.update mac.txmgmtIdr bufId (some skb)
      buffers := { mac.buffers with skb := Function.update mac.buffers.skb skb _ }
      worker := .map skb bufId } bufId inRange (some skb) rfl
  rw [before, unused, allocating] at total
  rw [after, ← show _ = Multiset.range mac.buffers.allocated from total]
  simp only [MgmtWorker.frames, Option.toList_none, Option.toList_some,
    Multiset.coe_nil, Multiset.coe_singleton]
  abel

/-- A step loses a frame exactly when it is not one that keeps it. -/
theorem Mac.Step.accounted (stepped : Mac.Step callers mac event next)
    (accounted : mac.Accounted callers lost) :
    ∃ lost', next.Accounted callers lost' ∧
      (lost' = 0 ↔ lost = 0 ∧ mac.KeepsFrame event) := by
  have workerAt := accounted.workerAt
  cases stepped with
  | @txIgnored caller frame skb inRange idle ignored =>
      have same : mac.arrived frame skb =
          (mac.arrived frame skb).setCall caller .idle := by
        simp only [Mac.setCall, Mac.arrived, ← idle, Function.update_eq_self]
      refine ⟨mac.buffers.allocated ::ₘ lost, ?_, ?_⟩
      · rw [same]
        exact accounted.tx inRange idle frame skb (zero_add _)
      · have leaked : ¬ (frame.hw80211Encap = false ∧ frame.isMgmt = true) := by
          rintro ⟨plain, mgmt⟩
          simp [plain, mgmt] at ignored
        simp [Mac.KeepsFrame, leaked]
  | @txMgmt caller frame skb inRange idle plain mgmt =>
      refine ⟨lost, accounted.tx inRange idle frame skb ?_, ?_⟩
      · split <;> rfl
      · simp [Mac.KeepsFrame, plain, mgmt]
  | prbRspRead inRange reading =>
      refine ⟨lost, accounted.call inRange ?_, by simp [Mac.KeepsFrame]⟩
      rw [reading]
      split <;> rfl
  | queueFull inRange reading =>
      refine ⟨lost, accounted.call inRange ?_, by simp [Mac.KeepsFrame]⟩
      rw [reading]
      rfl
  | queueOpen inRange reading =>
      refine ⟨lost, accounted.call inRange ?_, by simp [Mac.KeepsFrame]⟩
      rw [reading]
      rfl
  | queueTail inRange accepted =>
      exact ⟨lost, accounted.queueTail inRange accepted, by simp [Mac.KeepsFrame]⟩
  | @countUp caller inRange queued =>
      refine ⟨lost, accounted.callMoves inRange rfl rfl rfl ?_, by simp [Mac.KeepsFrame]⟩
      intro rest total
      rw [queued] at total
      exact total
  | refused inRange refused =>
      exact ⟨lost, accounted.refused inRange refused, by simp [Mac.KeepsFrame]⟩
  | workStart idle =>
      refine ⟨lost, accounted.workStays rfl trivial rfl ?_ rfl rfl rfl,
        by simp [Mac.KeepsFrame, idle, MgmtWorker.atErrFreeIdr]⟩
      rw [idle]
      rfl
  | workEnd looping =>
      refine ⟨lost, accounted.workStays rfl trivial rfl ?_ rfl rfl rfl,
        by simp [Mac.KeepsFrame, looping, MgmtWorker.atErrFreeIdr]⟩
      rw [looping]
      rfl
  | dequeueLost looping first =>
      exact ⟨lost, accounted.dequeue looping first (.inl rfl),
        by simp [Mac.KeepsFrame, looping, MgmtWorker.atErrFreeIdr]⟩
  | dequeue looping first =>
      exact ⟨lost, accounted.dequeue looping first (.inr rfl),
        by simp [Mac.KeepsFrame, looping, MgmtWorker.atErrFreeIdr]⟩
  | drop dropping =>
      exact ⟨lost, accounted.drop dropping,
        by simp [Mac.KeepsFrame, dropping, MgmtWorker.atErrFreeIdr]⟩
  | dropped freed =>
      exact ⟨lost, accounted.dropped freed,
        by simp [Mac.KeepsFrame, freed, MgmtWorker.atErrFreeIdr]⟩
  | unmap failed =>
      simp only [Mac.WorkerAt, failed] at workerAt
      refine ⟨lost, accounted.workStays rfl ⟨workerAt.1, _, workerAt.2⟩ rfl ?_ rfl rfl rfl,
        by simp [Mac.KeepsFrame, failed, MgmtWorker.atErrFreeIdr]⟩
      rw [failed]
      rfl
  | freeIdr failed =>
      obtain ⟨skb, kept⟩ := accounted.freeIdr failed
      exact ⟨skb ::ₘ lost, kept,
        by simp [Mac.KeepsFrame, failed, MgmtWorker.atErrFreeIdr]⟩
  | @noId skb allocating =>
      exact ⟨skb ::ₘ lost, accounted.noId allocating, by simp [Mac.KeepsFrame]⟩
  | id allocating inRange unused put =>
      exact ⟨lost, accounted.id allocating inRange unused put, by simp [Mac.KeepsFrame]⟩
  | mapFailed mapping =>
      simp only [Mac.WorkerAt, mapping] at workerAt
      refine ⟨lost, accounted.workStays rfl ⟨workerAt.1, _, workerAt.2⟩ rfl ?_ rfl rfl rfl,
        by simp [Mac.KeepsFrame]⟩
      rw [mapping]
      rfl
  | mapped mapping =>
      simp only [Mac.WorkerAt, mapping] at workerAt
      refine ⟨lost, accounted.workStays rfl workerAt rfl ?_ rfl rfl rfl,
        by simp [Mac.KeepsFrame]⟩
      rw [mapping]
      rfl
  | @sent skb bufId ret sending =>
      simp only [Mac.WorkerAt, sending] at workerAt
      refine ⟨lost, accounted.workStays rfl ?_ rfl ?_ rfl rfl rfl,
        by simp [Mac.KeepsFrame]⟩
      · by_cases done : ret = 0
        · simp [Mac.WorkerAt, done]
        · simpa [Mac.WorkerAt, done] using workerAt
      · rw [sending]
        split <;> rfl

end Steps

section Runs

variable {callers : Nat} {mac final : Mac} {events : List Mac.Event}
  {lost : Multiset Nat}

theorem Mac.Accounted.start : Mac.start.Accounted callers 0 := by
  refine ⟨?_, trivial⟩
  have calls : Mac.start.callFrames callers = 0 := Finset.sum_eq_zero fun _ _ => rfl
  have idr : Mac.start.registered = 0 := Finset.sum_eq_zero fun _ _ => rfl
  rw [calls, idr]
  rfl

/-- A lost frame stays lost, so that the end of the run shows whether a step lost
one. -/
theorem Mac.Accounted.run (accounted : mac.Accounted callers lost)
    (reached : run (Mac.step callers) mac events = some final) :
    ∃ lost', final.Accounted callers lost' ∧
      (lost' = 0 ↔ lost = 0 ∧ Meets (Mac.step callers) Mac.KeepsFrame mac events) := by
  induction events generalizing mac lost with
  | nil =>
      cases reached
      exact ⟨lost, accounted, (and_iff_left trivial).symm⟩
  | cons event events ih =>
      obtain ⟨next, stepped, rest⟩ := run_cons_eq_some.mp reached
      obtain ⟨middle, kept, first⟩ := (Mac.step_cases stepped).accounted accounted
      obtain ⟨lost', ended, later⟩ := ih kept rest
      refine ⟨lost', ended, ?_⟩
      rw [later, first, and_assoc]
      refine and_congr_right fun _ => and_congr_right fun _ => ?_
      constructor
      · intro meets other stepped'
        rw [stepped] at stepped'
        cases stepped'
        exact meets
      · intro meets
        exact meets next stepped

theorem Mac.Accounted.framesOwned_iff (accounted : mac.Accounted callers lost) :
    mac.FramesOwned callers ↔ lost = 0 := by
  have counted := fun skb => congrArg (Multiset.count skb) accounted.total
  simp only [Multiset.count_add, Multiset.coe_count] at counted
  constructor
  · intro owned
    ext skb
    have here := counted skb
    rw [Multiset.count_zero]
    by_cases inRange : skb < mac.buffers.allocated
    · rw [Multiset.count_eq_one_of_mem (Multiset.nodup_range _)
        (Multiset.mem_range.mpr inRange)] at here
      have one := owned skb inRange
      unfold Mac.places at one
      omega
    · rw [Multiset.count_eq_zero_of_notMem
        (fun member => inRange (Multiset.mem_range.mp member))] at here
      omega
  · rintro rfl skb inRange
    have here := counted skb
    rw [Multiset.count_eq_one_of_mem (Multiset.nodup_range _)
      (Multiset.mem_range.mpr inRange), Multiset.count_zero, add_zero] at here
    exact here

/-- At the end of a run every frame is in one place or freed once, exactly when every
step of the run kept its frame. -/
theorem tx_frame_ownership
    (reached : run (Mac.step callers) .start events = some final) :
    final.FramesOwned callers ↔
      Meets (Mac.step callers) Mac.KeepsFrame .start events := by
  obtain ⟨lost, accounted, kept⟩ := Mac.Accounted.start.run reached
  rw [accounted.framesOwned_iff, kept, and_iff_right rfl]

/-- A probe response that is sent, and a frame without an interface that is freed. -/
def sentAndDropped : List Mac.Event :=
  [.tx 0 ⟨0x0050, 0, none, some 3⟩ ⟨100, 28, 0⟩, .call 0, .call 0, .call 0, .call 0,
    .tx 0 ⟨0x0040, 0, none, none⟩ ⟨60, 68, 0⟩, .call 0, .call 0, .call 0, .work, .work,
    .idrAlloc (some 0), .dmaMap (some 0x1000), .wmiSend 0, .work, .work, .work]

theorem tx_frame_ownership_two :
    ∃ final, run (Mac.step 1) .start sentAndDropped = some final ∧
      final.FramesOwned 1 ∧ final.txmgmtIdr 0 = some 0 ∧ final.buffers.freed = [1] := by
  have seen : (run (Mac.step 1) .start sentAndDropped).map
      (fun mac => (mac.txmgmtIdr 0, mac.buffers.freed)) =
      some (some 0, [1]) := by decide +kernel
  obtain ⟨final, reached, values⟩ := Option.map_eq_some_iff.mp seen
  simp only [Prod.mk.injEq] at values
  exact ⟨final, reached, (tx_frame_ownership reached).mpr (by decide +kernel), values⟩

/-- The WMI command of a probe response fails. -/
def failedSend : List Mac.Event :=
  [.tx 0 ⟨0x0050, 0, none, some 3⟩ ⟨100, 28, 0⟩, .call 0, .call 0, .call 0, .call 0, .work,
    .work, .idrAlloc (some 0), .dmaMap (some 0x1000), .wmiSend (-12), .work, .work, .work]

/-- A data frame that `tx` forgets, and a management frame that the work item forgets
after the WMI command failed. -/
theorem tx_frame_leaks :
    (∃ final, run (Mac.step 1) .start
        [.tx 0 ⟨0x0008, 0, none, some 3⟩ ⟨100, 28, 0⟩] = some final ∧
      ¬ final.FramesOwned 1) ∧
    ∃ final, run (Mac.step 1) .start failedSend = some final ∧
      ¬ final.FramesOwned 1 := by
  have leaks {events : List Mac.Event} (seen : (run (Mac.step 1) .start events).map
      (fun mac => (mac.buffers.allocated, mac.places 1 0)) = some (1, 0)) :
      ∃ final, run (Mac.step 1) .start events = some final ∧ ¬ final.FramesOwned 1 := by
    obtain ⟨final, reached, values⟩ := Option.map_eq_some_iff.mp seen
    simp only [Prod.mk.injEq] at values
    refine ⟨final, reached, fun owned => ?_⟩
    have kept := owned 0 (by omega)
    omega
  exact ⟨leaks (by decide +kernel), leaks (by decide +kernel)⟩

end Runs

end WirelessSimu
