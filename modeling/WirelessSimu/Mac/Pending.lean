import WirelessSimu.Mac.Ownership
import Mathlib.Algebra.Order.BigOperators.Group.Finset

namespace WirelessSimu

open Data Kernel

/-! The counter `num_pending_mgmt_tx` against the queue and the ids. A call counts its
frame only after it is in the queue, and the work item uncounts a frame only after it
is out of it. -/

/-- The call put its frame into the queue and did not count it yet. -/
def TxCall.uncounted : TxCall → Nat
  | .countUp => 1
  | _ => 0

/-- The call found room in the queue and did not use it yet. -/
def TxCall.admitted : TxCall → Nat
  | .queueTail _ => 1
  | _ => 0

/-- The work item has a counted frame that is neither queued nor registered. -/
def MgmtWorker.counted : MgmtWorker → Nat
  | .drop _ | .dropped | .alloc _ => 1
  | _ => 0

namespace Mac

def callCount (callers : Nat) (weight : TxCall → Nat) (mac : Mac) : Nat :=
  ∑ caller ∈ Finset.range callers, weight (mac.calls caller)

def idsHeld (mac : Mac) : Nat :=
  ((Finset.range txMgmtNumPendingMax).filter
    fun bufId => (mac.txmgmtIdr bufId).isSome).card

/-- No call is between its two updates, and the work item is between two frames. -/
def Quiet (callers : Nat) (mac : Mac) : Prop :=
  (∀ caller < callers, mac.calls caller ≠ .countUp) ∧
    (mac.worker = .idle ∨ mac.worker = .dequeue)

/-- The id of a dequeued frame is allocated, the way through `err_free_idr` is not
taken, and when a frame without an interface is dropped, the calls that did not count
their frames yet are not more than the other frames. -/
def KeepsCount (callers : Nat) (mac : Mac) : Event → Prop
  | .idrAlloc bufId => bufId.isSome
  | .work => mac.worker.atErrFreeIdr = false ∧
      (mac.worker = .dropped →
        mac.callCount callers TxCall.uncounted ≤ mac.mgmtTxQueue.length + mac.idsHeld)
  | _ => True

instance (callers : Nat) : ∀ mac event, Decidable (KeepsCount callers mac event)
  | _, .idrAlloc bufId => inferInstanceAs (Decidable (bufId.isSome = true))
  | mac, .work => inferInstanceAs (Decidable (mac.worker.atErrFreeIdr = false ∧
      (mac.worker = .dropped → mac.callCount callers TxCall.uncounted ≤
        mac.mgmtTxQueue.length + mac.idsHeld)))
  | _, .tx _ _ _ => isTrue trivial
  | _, .call _ => isTrue trivial
  | _, .dmaMap _ => isTrue trivial
  | _, .wmiSend _ => isTrue trivial

structure Counted (callers : Nat) (mac : Mac) : Prop where
  balance : mac.numPendingMgmtTx + mac.callCount callers TxCall.uncounted =
    mac.mgmtTxQueue.length + mac.idsHeld + mac.worker.counted
  nonneg : 0 ≤ mac.numPendingMgmtTx
  room : mac.mgmtTxQueue.length + mac.callCount callers TxCall.admitted ≤
    txMgmtNumPendingMax + callers
  unwarned : mac.warned = false

end Mac

theorem wrapInt_of_lt {value : Int} (nonneg : 0 ≤ value) (small : value < 2 ^ 31) :
    wrapInt value = value := by
  rw [wrapInt, Int.bmod_eq_of_le] <;> omega

theorem atomicDecIfPositive_of_pos {counter : Int} (positive : 0 < counter)
    (small : counter < 2 ^ 31) :
    atomicDecIfPositive counter = (counter - 1, counter - 1) := by
  rw [atomicDecIfPositive, wrapInt_of_lt (by omega) (by omega)]
  exact if_neg (by omega)

section Steps

variable {callers : Nat} {mac next : Mac} {event : Mac.Event}

theorem Mac.callCount_change {caller : Nat} (inRange : caller < callers)
    (weight : TxCall → Nat) {call : TxCall}
    (calls : next.calls = Function.update mac.calls caller call) :
    next.callCount callers weight + weight (mac.calls caller) =
      mac.callCount callers weight + weight call := by
  obtain ⟨rest, before, after⟩ := sum_range_update weight inRange calls
  unfold Mac.callCount
  omega

theorem Mac.callCount_le {weight : TxCall → Nat} (light : ∀ call, weight call ≤ 1)
    (mac : Mac) : mac.callCount callers weight ≤ callers := by
  have bound : mac.callCount callers weight ≤ ∑ _caller ∈ Finset.range callers, 1 :=
    Finset.sum_le_sum fun caller _ => light (mac.calls caller)
  rw [Finset.sum_const, Finset.card_range, nsmul_one] at bound
  exact bound

theorem Mac.idsHeld_le (mac : Mac) : mac.idsHeld ≤ txMgmtNumPendingMax := by
  refine (Finset.card_filter_le _ _).trans ?_
  rw [Finset.card_range]

theorem Mac.idsHeld_eq (idr : next.txmgmtIdr = mac.txmgmtIdr) :
    next.idsHeld = mac.idsHeld := by
  rw [Mac.idsHeld, idr, Mac.idsHeld]

theorem Mac.idsHeld_alloc {bufId skb : Nat} (inRange : bufId < txMgmtNumPendingMax)
    (unused : mac.txmgmtIdr bufId = none)
    (idr : next.txmgmtIdr = Function.update mac.txmgmtIdr bufId (some skb)) :
    next.idsHeld = mac.idsHeld + 1 := by
  have absent : bufId ∉ (Finset.range txMgmtNumPendingMax).filter
      fun bufId => (mac.txmgmtIdr bufId).isSome := by
    simp [unused]
  have added : (Finset.range txMgmtNumPendingMax).filter
      (fun bufId => (next.txmgmtIdr bufId).isSome) =
      insert bufId ((Finset.range txMgmtNumPendingMax).filter
        fun bufId => (mac.txmgmtIdr bufId).isSome) := by
    ext other
    by_cases same : other = bufId
    · subst same
      simp [idr, inRange]
    · simp [idr, same]
  rw [Mac.idsHeld, added, Finset.card_insert_of_notMem absent, Mac.idsHeld]

theorem Mac.Counted.small (counted : mac.Counted callers) (few : callers < 2 ^ 30) :
    mac.numPendingMgmtTx + 1 < 2 ^ 31 := by
  have balance := counted.balance
  have room := counted.room
  have ids := mac.idsHeld_le
  have hand : mac.worker.counted ≤ 1 := by
    unfold MgmtWorker.counted
    split <;> omega
  have limit : txMgmtNumPendingMax = 512 := rfl
  omega

theorem Mac.Counted.call (counted : mac.Counted callers) {caller : Nat}
    (inRange : caller < callers) {call : TxCall}
    (calls : next.calls = Function.update mac.calls caller call)
    (idr : next.txmgmtIdr = mac.txmgmtIdr) (worker : next.worker = mac.worker)
    (warned : next.warned = mac.warned)
    (pending : next.numPendingMgmtTx + call.uncounted + mac.mgmtTxQueue.length =
      mac.numPendingMgmtTx + (mac.calls caller).uncounted + next.mgmtTxQueue.length)
    (nonneg : 0 ≤ next.numPendingMgmtTx)
    (room : next.mgmtTxQueue.length + next.callCount callers TxCall.admitted ≤
      txMgmtNumPendingMax + callers) : next.Counted callers := by
  have balance := counted.balance
  have change := Mac.callCount_change inRange TxCall.uncounted calls
  refine ⟨?_, nonneg, room, warned.trans counted.unwarned⟩
  rw [Mac.idsHeld_eq idr, worker]
  omega

theorem Mac.Counted.callStays (counted : mac.Counted callers) {caller : Nat}
    (inRange : caller < callers) {call : TxCall}
    (calls : next.calls = Function.update mac.calls caller call)
    (idr : next.txmgmtIdr = mac.txmgmtIdr) (worker : next.worker = mac.worker)
    (warned : next.warned = mac.warned)
    (counter : next.numPendingMgmtTx = mac.numPendingMgmtTx)
    (queue : next.mgmtTxQueue = mac.mgmtTxQueue)
    (uncounted : call.uncounted = (mac.calls caller).uncounted)
    (unadmitted : call.admitted = 0) : next.Counted callers := by
  refine counted.call inRange calls idr worker warned ?_ ?_ ?_
  · rw [counter, queue, uncounted]
  · rw [counter]
    exact counted.nonneg
  · have room := counted.room
    have change := Mac.callCount_change inRange TxCall.admitted calls
    rw [queue]
    omega

theorem Mac.Counted.queueOpen (counted : mac.Counted callers) {caller skb : Nat}
    (inRange : caller < callers) (reading : mac.calls caller = .lenRead skb)
    (room : mac.mgmtTxQueue.length < txMgmtNumPendingMax) :
    (mac.setCall caller (.queueTail skb)).Counted callers := by
  refine counted.call inRange rfl rfl rfl rfl ?_ counted.nonneg ?_
  · rw [reading]
    rfl
  · have light : ∀ call, TxCall.admitted call ≤ 1 := by
      intro call
      unfold TxCall.admitted
      split <;> omega
    exact Nat.add_le_add room.le (Mac.callCount_le light _)

theorem Mac.Counted.queueTail (counted : mac.Counted callers) {caller skb : Nat}
    (inRange : caller < callers) (accepted : mac.calls caller = .queueTail skb)
    (calls : next.calls = Function.update mac.calls caller .countUp)
    (idr : next.txmgmtIdr = mac.txmgmtIdr) (worker : next.worker = mac.worker)
    (warned : next.warned = mac.warned)
    (counter : next.numPendingMgmtTx = mac.numPendingMgmtTx)
    (queue : next.mgmtTxQueue = mac.mgmtTxQueue ++ [skb]) : next.Counted callers := by
  have longer : next.mgmtTxQueue.length = mac.mgmtTxQueue.length + 1 := by
    rw [queue, List.length_append, List.length_singleton]
  refine counted.call inRange calls idr worker warned ?_ ?_ ?_
  · rw [counter, accepted, longer]
    simp only [TxCall.uncounted]
    omega
  · rw [counter]
    exact counted.nonneg
  · have room := counted.room
    have change := Mac.callCount_change inRange TxCall.admitted calls
    rw [accepted] at change
    simp only [TxCall.admitted] at change room ⊢
    omega

theorem Mac.Counted.countUp (counted : mac.Counted callers) (few : callers < 2 ^ 30)
    {caller : Nat} (inRange : caller < callers) (queued : mac.calls caller = .countUp)
    (calls : next.calls = Function.update mac.calls caller .idle)
    (idr : next.txmgmtIdr = mac.txmgmtIdr) (worker : next.worker = mac.worker)
    (warned : next.warned = mac.warned)
    (counter : next.numPendingMgmtTx = wrapInt (mac.numPendingMgmtTx + 1))
    (queue : next.mgmtTxQueue = mac.mgmtTxQueue) : next.Counted callers := by
  have nonneg := counted.nonneg
  rw [wrapInt_of_lt (by omega) (counted.small few)] at counter
  refine counted.call inRange calls idr worker warned ?_ ?_ ?_
  · rw [counter, queued, queue]
    simp only [TxCall.uncounted]
    omega
  · rw [counter]
    omega
  · have room := counted.room
    have change := Mac.callCount_change inRange TxCall.admitted calls
    rw [queued] at change
    simp only [TxCall.admitted] at change room ⊢
    rw [queue]
    omega

theorem Mac.Counted.work (counted : mac.Counted callers)
    (calls : next.calls = mac.calls) (warned : next.warned = mac.warned)
    (pending : next.numPendingMgmtTx + mac.mgmtTxQueue.length + mac.idsHeld +
        mac.worker.counted =
      mac.numPendingMgmtTx + next.mgmtTxQueue.length + next.idsHeld +
        next.worker.counted)
    (nonneg : 0 ≤ next.numPendingMgmtTx)
    (shorter : next.mgmtTxQueue.length ≤ mac.mgmtTxQueue.length) :
    next.Counted callers := by
  have balance := counted.balance
  have room := counted.room
  have same : ∀ weight, next.callCount callers weight = mac.callCount callers weight := by
    intro weight
    rw [Mac.callCount, calls, Mac.callCount]
  refine ⟨?_, nonneg, ?_, warned.trans counted.unwarned⟩
  · rw [same]
    omega
  · rw [same]
    omega

theorem Mac.Counted.workStays (counted : mac.Counted callers)
    (calls : next.calls = mac.calls) (warned : next.warned = mac.warned)
    (counter : next.numPendingMgmtTx = mac.numPendingMgmtTx)
    (queue : next.mgmtTxQueue = mac.mgmtTxQueue)
    (idr : next.txmgmtIdr = mac.txmgmtIdr)
    (worker : next.worker.counted = mac.worker.counted) : next.Counted callers := by
  refine counted.work calls warned ?_ ?_ (le_of_eq (by rw [queue]))
  · rw [counter, queue, Mac.idsHeld_eq idr, worker]
  · rw [counter]
    exact counted.nonneg

theorem Mac.Counted.dequeue (counted : mac.Counted callers) {skb : Nat}
    {queue : List Nat} {worker : MgmtWorker} (looping : mac.worker = .dequeue)
    (first : mac.mgmtTxQueue = skb :: queue) (takes : worker.counted = 1) :
    Mac.Counted callers { mac with mgmtTxQueue := queue, worker := worker } := by
  refine counted.work rfl rfl ?_ counted.nonneg ?_
  · have ids : Mac.idsHeld { mac with mgmtTxQueue := queue, worker := worker } =
        mac.idsHeld := Mac.idsHeld_eq rfl
    rw [looping, first, ids, takes, List.length_cons]
    simp only [MgmtWorker.counted]
    omega
  · rw [first]
    exact Nat.le_succ _

theorem Mac.Counted.id (counted : mac.Counted callers) {skb bufId : Nat}
    (allocating : mac.worker = .alloc skb) (inRange : bufId < txMgmtNumPendingMax)
    (unused : mac.txmgmtIdr bufId = none) (calls : next.calls = mac.calls)
    (idr : next.txmgmtIdr = Function.update mac.txmgmtIdr bufId (some skb))
    (worker : next.worker = .map skb bufId) (warned : next.warned = mac.warned)
    (counter : next.numPendingMgmtTx = mac.numPendingMgmtTx)
    (queue : next.mgmtTxQueue = mac.mgmtTxQueue) : next.Counted callers := by
  refine counted.work calls warned ?_ ?_ (le_of_eq (by rw [queue]))
  · rw [Mac.idsHeld_alloc inRange unused idr, allocating, worker, counter, queue]
    simp only [MgmtWorker.counted]
    omega
  · rw [counter]
    exact counted.nonneg

theorem Mac.Counted.dropped (counted : mac.Counted callers) (few : callers < 2 ^ 30)
    (freed : mac.worker = .dropped)
    (others : mac.callCount callers TxCall.uncounted ≤
      mac.mgmtTxQueue.length + mac.idsHeld) : mac.mgmtOverTxDrop.Counted callers := by
  have small := counted.small few
  have positive : 0 < mac.numPendingMgmtTx := by
    have balance := counted.balance
    have hand : mac.worker.counted = 1 := by rw [freed]; rfl
    omega
  have down := atomicDecIfPositive_of_pos positive (by omega)
  refine counted.work rfl ?_ ?_ ?_ le_rfl
  · simp only [Mac.mgmtOverTxDrop, down]
    have noWarning : ¬ mac.numPendingMgmtTx - 1 < 0 := by omega
    simp [noWarning]
  · have ids : mac.mgmtOverTxDrop.idsHeld = mac.idsHeld := Mac.idsHeld_eq rfl
    rw [ids, freed]
    simp only [Mac.mgmtOverTxDrop, down, MgmtWorker.counted]
    omega
  · simp only [Mac.mgmtOverTxDrop, down]
    omega

theorem Mac.Step.counted (stepped : Mac.Step callers mac event next)
    (few : callers < 2 ^ 30) (keeps : mac.KeepsCount callers event)
    (counted : mac.Counted callers) : next.Counted callers := by
  cases stepped with
  | @txIgnored caller frame skb inRange idle =>
      have same : (mac.arrived frame skb).calls =
          Function.update mac.calls caller .idle := by
        rw [← idle, Function.update_eq_self]
        rfl
      refine counted.callStays inRange same rfl rfl rfl rfl rfl ?_ rfl
      rw [idle]
  | txMgmt inRange idle =>
      refine counted.callStays inRange rfl rfl rfl rfl rfl rfl ?_ ?_
      · rw [idle]
        split <;> rfl
      · split <;> rfl
  | prbRspRead inRange reading =>
      refine counted.callStays inRange rfl rfl rfl rfl rfl rfl ?_ ?_
      · rw [reading]
        split <;> rfl
      · split <;> rfl
  | queueFull inRange reading =>
      refine counted.callStays inRange rfl rfl rfl rfl rfl rfl ?_ rfl
      rw [reading]
      rfl
  | queueOpen inRange reading room => exact counted.queueOpen inRange reading room
  | queueTail inRange accepted =>
      exact counted.queueTail inRange accepted rfl rfl rfl rfl rfl rfl
  | countUp inRange queued =>
      exact counted.countUp few inRange queued rfl rfl rfl rfl rfl rfl
  | refused inRange refused =>
      refine counted.callStays inRange rfl rfl rfl rfl rfl rfl ?_ rfl
      rw [refused]
      rfl
  | workStart idle =>
      refine counted.workStays rfl rfl rfl rfl rfl ?_
      rw [idle]
      rfl
  | workEnd looping =>
      refine counted.workStays rfl rfl rfl rfl rfl ?_
      rw [looping]
      rfl
  | dequeueLost looping first => exact counted.dequeue looping first rfl
  | dequeue looping first => exact counted.dequeue looping first rfl
  | drop dropping =>
      refine counted.workStays rfl rfl rfl rfl rfl ?_
      rw [dropping]
      rfl
  | dropped freed => exact counted.dropped few freed (keeps.2 freed)
  | unmap failed =>
      refine counted.workStays rfl rfl rfl rfl rfl ?_
      rw [failed]
      rfl
  | freeIdr failed =>
      have blocked := keeps.1
      rw [failed] at blocked
      cases blocked
  | noId => cases keeps
  | id allocating inRange unused put =>
      exact counted.id allocating inRange unused rfl rfl rfl rfl rfl rfl
  | mapFailed mapping =>
      refine counted.workStays rfl rfl rfl rfl rfl ?_
      rw [mapping]
      rfl
  | mapped mapping =>
      refine counted.workStays rfl rfl rfl rfl rfl ?_
      rw [mapping]
      rfl
  | sent sending =>
      refine counted.workStays rfl rfl rfl rfl rfl ?_
      rw [sending]
      split <;> rfl

end Steps

section Runs

variable {callers : Nat} {mac final : Mac} {events : List Mac.Event}

theorem Mac.Counted.start : Mac.start.Counted callers := by
  have calls : ∀ weight : TxCall → Nat, weight .idle = 0 →
      Mac.start.callCount callers weight = 0 :=
    fun weight none => Finset.sum_eq_zero fun _ _ => none
  have ids : Mac.start.idsHeld = 0 := by simp [Mac.idsHeld, Mac.start]
  refine ⟨?_, le_rfl, ?_, rfl⟩
  · rw [calls _ rfl, ids]
    rfl
  · rw [calls _ rfl]
    exact Nat.zero_le _

theorem Mac.Counted.quiet (counted : mac.Counted callers) (quiet : mac.Quiet callers) :
    mac.numPendingMgmtTx = mac.mgmtTxQueue.length + mac.idsHeld := by
  have balance := counted.balance
  have calls : mac.callCount callers TxCall.uncounted = 0 := by
    refine Finset.sum_eq_zero fun caller member => ?_
    have between := quiet.1 caller (Finset.mem_range.mp member)
    unfold TxCall.uncounted
    split
    next counting => exact absurd counting between
    next => rfl
  have hand : mac.worker.counted = 0 := by
    rcases quiet.2 with idle | looping
    · rw [idle]
      rfl
    · rw [looping]
      rfl
  omega

/-- In every run whose steps keep the count, the counter is the number of queued and
registered frames whenever nobody is in the middle of an update, and the warning of
`over_tx_drop` is not reached. -/
theorem pending_mgmt_counter (few : callers < 2 ^ 30)
    (meets : Meets (Mac.step callers) (Mac.KeepsCount callers) .start events)
    (reached : run (Mac.step callers) .start events = some final) :
    (final.Quiet callers →
      final.numPendingMgmtTx = final.mgmtTxQueue.length + final.idsHeld) ∧
    final.warned = false := by
  have counted : final.Counted callers :=
    meets.invariant _ (fun _ _ _ keeps stepped counted =>
      (Mac.step_cases stepped).counted few keeps counted) reached .start
  exact ⟨counted.quiet, counted.unwarned⟩

/-- After a frame was sent and another one dropped, a third one waits. -/
def sentAndWaiting : List Mac.Event :=
  sentAndDropped ++
    [.tx 0 ⟨0x0040, 0, none, some 3⟩ ⟨60, 68, 0⟩, .call 0, .call 0, .call 0]

/-- A frame is sent, a second one waits, and one without an interface was dropped. -/
theorem pending_mgmt_counter_three :
    ∃ final, run (Mac.step 1) .start sentAndWaiting = some final ∧
      final.Quiet 1 ∧ final.numPendingMgmtTx = 2 ∧
      final.numPendingMgmtTx = final.mgmtTxQueue.length + final.idsHeld ∧
      final.warned = false := by
  have seen : (run (Mac.step 1) .start sentAndWaiting).map
      (fun mac => (mac.calls 0, mac.worker, mac.numPendingMgmtTx)) =
      some (.idle, .dequeue, 2) := by decide +kernel
  obtain ⟨final, reached, values⟩ := Option.map_eq_some_iff.mp seen
  simp only [Prod.mk.injEq] at values
  have quiet : final.Quiet 1 := by
    refine ⟨fun caller inRange => ?_, .inr values.2.1⟩
    rw [Nat.lt_one_iff.mp inRange, values.1]
    simp
  obtain ⟨count, unwarned⟩ := pending_mgmt_counter (by decide) (by decide +kernel) reached
  exact ⟨final, reached, quiet, values.2.2, count quiet, unwarned⟩

/-- Two frames without an interface, the second one dropped before its call counted it. -/
def droppedEarly : List Mac.Event :=
  [.tx 0 ⟨0x0040, 0, none, none⟩ ⟨60, 68, 0⟩, .call 0, .call 0, .call 0, .work, .work, .work,
    .work, .tx 0 ⟨0x0040, 0, none, none⟩ ⟨60, 68, 0⟩, .call 0, .call 0, .work, .work, .work]

/-- A WMI command that fails leaves the counter one too high, and a frame without an
interface that is dropped before its call counted it runs into the warning. -/
theorem pending_mgmt_counter_drifts :
    (∃ final, run (Mac.step 1) .start failedSend = some final ∧
      final.Quiet 1 ∧
      final.numPendingMgmtTx ≠ final.mgmtTxQueue.length + final.idsHeld) ∧
    ∃ final, run (Mac.step 1) .start droppedEarly = some final ∧
      final.warned = true := by
  constructor
  · have seen : (run (Mac.step 1) .start failedSend).map
        (fun mac => (mac.calls 0, mac.worker, mac.numPendingMgmtTx,
          mac.mgmtTxQueue.length + mac.idsHeld)) =
        some (.idle, .idle, 1, 0) := by decide +kernel
    obtain ⟨final, reached, values⟩ := Option.map_eq_some_iff.mp seen
    simp only [Prod.mk.injEq] at values
    obtain ⟨call, idle, counter, frames⟩ := values
    refine ⟨final, reached, ⟨fun caller inRange => ?_, .inl idle⟩, ?_⟩
    · rw [Nat.lt_one_iff.mp inRange, call]
      simp
    · omega
  · have seen : (run (Mac.step 1) .start droppedEarly).map Mac.warned = some true := by
      decide +kernel
    exact Option.map_eq_some_iff.mp seen

end Runs

end WirelessSimu
