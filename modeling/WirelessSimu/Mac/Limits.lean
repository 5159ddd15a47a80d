import WirelessSimu.Mac.Commands
import WirelessSimu.Mac.Pending
import Mathlib.Order.Bounds.Basic

namespace WirelessSimu

open Data Kernel

/-! How far the limits of `wireless_simu_mac_mgmt_tx` hold when several callers test them
at the same time: the test and the queueing are two accesses. -/

namespace Mac

/-- The queue and the calls that found room in it. -/
def Within (callers : Nat) (mac : Mac) : Prop :=
  mac.mgmtTxQueue.length + mac.callCount callers TxCall.admitted ≤
    txMgmtNumPendingMax - 1 + callers

end Mac

section Steps

variable {callers : Nat} {mac next : Mac} {event : Mac.Event}

theorem Mac.Within.call (within : mac.Within callers) {caller : Nat}
    (inRange : caller < callers) {call : TxCall}
    (calls : next.calls = Function.update mac.calls caller call)
    (queue : next.mgmtTxQueue.length + call.admitted ≤
      mac.mgmtTxQueue.length + (mac.calls caller).admitted) : next.Within callers := by
  have change := Mac.callCount_change inRange TxCall.admitted calls
  unfold Mac.Within at within ⊢
  omega

theorem Mac.Within.work (within : mac.Within callers) (calls : next.calls = mac.calls)
    (queue : next.mgmtTxQueue.length ≤ mac.mgmtTxQueue.length) : next.Within callers := by
  have same : next.callCount callers TxCall.admitted =
      mac.callCount callers TxCall.admitted := by
    rw [Mac.callCount, calls, Mac.callCount]
  unfold Mac.Within at within ⊢
  omega

/-- The call that finds room is one of the callers, all of which may be as far. -/
theorem Mac.within_of_room (room : mac.mgmtTxQueue.length < txMgmtNumPendingMax) :
    mac.Within callers := by
  have light : ∀ call, TxCall.admitted call ≤ 1 := by
    intro call
    unfold TxCall.admitted
    split <;> omega
  have bound := @Mac.callCount_le callers TxCall.admitted light mac
  unfold Mac.Within
  omega

theorem Mac.Step.within (stepped : Mac.Step callers mac event next)
    (within : mac.Within callers) : next.Within callers := by
  cases stepped with
  | txIgnored => exact within.work rfl le_rfl
  | @txMgmt caller frame skb inRange idle =>
      refine within.call inRange rfl ?_
      rw [idle]
      split <;> exact le_rfl
  | @prbRspRead caller skb inRange reading =>
      refine within.call inRange rfl ?_
      rw [reading]
      split <;> exact le_rfl
  | queueFull inRange reading =>
      refine within.call inRange rfl ?_
      rw [reading]
      exact le_rfl
  | queueOpen inRange reading room => exact Mac.within_of_room room
  | queueTail inRange accepted =>
      refine within.call inRange rfl ?_
      rw [accepted, List.length_append]
      exact le_rfl
  | countUp inRange queued =>
      refine within.call inRange rfl ?_
      rw [queued]
      exact le_rfl
  | refused inRange refused =>
      refine within.call inRange rfl ?_
      rw [refused]
      exact le_rfl
  | dequeueLost looping first =>
      refine within.work rfl ?_
      rw [first]
      exact Nat.le_succ _
  | dequeue looping first =>
      refine within.work rfl ?_
      rw [first]
      exact Nat.le_succ _
  | _ => exact within.work rfl le_rfl

end Steps

/-! A run that comes to the bound: the queue is filled up to one place, then all callers
find the place free, and then all of them queue. -/

namespace Mac

def probeReq : Frame := ⟨0x0040, 0, none, some 3⟩

structure Filled (count : Nat) (mac : Mac) : Prop where
  idle : ∀ caller, mac.calls caller = .idle
  length : mac.mgmtTxQueue.length = count

structure Admitted (count : Nat) (mac : Mac) : Prop where
  length : mac.mgmtTxQueue.length = txMgmtNumPendingMax - 1
  admitted : ∀ caller < count, ∃ skb, mac.calls caller = .queueTail skb
  idle : ∀ caller, count ≤ caller → mac.calls caller = .idle

structure Overrun (callers count : Nat) (mac : Mac) : Prop where
  length : mac.mgmtTxQueue.length = txMgmtNumPendingMax - 1 + count
  admitted : ∀ caller, count ≤ caller → caller < callers →
    ∃ skb, mac.calls caller = .queueTail skb

end Mac

section Runs

variable {callers count : Nat} {mac : Mac}

theorem Mac.calls_setCall_self (mac : Mac) (caller : Nat) (call : TxCall) :
    (mac.setCall caller call).calls caller = call := Function.update_self ..

/-- A new frame of an idle caller, up to the test of the queue. -/
theorem Mac.run_tx {caller : Nat} (inRange : caller < callers)
    (idle : mac.calls caller = .idle) :
    ∃ next, mac.step callers (.tx caller probeReq ⟨100, 28, 0⟩) = some next ∧
      next.calls = Function.update mac.calls caller (.lenRead mac.buffers.allocated) ∧
      next.mgmtTxQueue = mac.mgmtTxQueue := by
  have plain : probeReq.hw80211Encap = false := by decide
  have mgmt : probeReq.isMgmt = true := by decide
  have other : probeReq.isProbeResp = false := by decide
  refine ⟨_, if_pos ⟨inRange, idle⟩, ?_⟩
  simp [Mac.mac80211Tx, plain, mgmt, other, Mac.setCall, Mac.arrived]

theorem Mac.run_admit {caller skb : Nat} (inRange : caller < callers)
    (reading : mac.calls caller = .lenRead skb)
    (room : mac.mgmtTxQueue.length < txMgmtNumPendingMax) :
    mac.step callers (.call caller) = some (mac.setCall caller (.queueTail skb)) := by
  simp only [Mac.step, if_pos inRange, Mac.macMgmtTx, reading,
    if_neg (Nat.not_le.mpr room)]

theorem Mac.run_queue {caller skb : Nat} (inRange : caller < callers)
    (accepted : mac.calls caller = .queueTail skb) :
    mac.step callers (.call caller) =
      some { mac.setCall caller .countUp with mgmtTxQueue := mac.mgmtTxQueue ++ [skb] } := by
  simp only [Mac.step, if_pos inRange, Mac.macMgmtTx, accepted]

theorem Mac.run_count {caller : Nat} (inRange : caller < callers)
    (queued : mac.calls caller = .countUp) :
    mac.step callers (.call caller) =
      some { mac.setCall caller .idle with
        numPendingMgmtTx := wrapInt (mac.numPendingMgmtTx + 1)
        workPending := true } := by
  simp only [Mac.step, if_pos inRange, Mac.macMgmtTx, queued]

theorem Mac.Filled.next (filled : mac.Filled count) (callersPos : 0 < callers)
    (room : count < txMgmtNumPendingMax) :
    ∃ events next, run (Mac.step callers) mac events = some next ∧
      next.Filled (count + 1) := by
  obtain ⟨first, arrived, calls, queue⟩ := Mac.run_tx callersPos (filled.idle 0)
  have reading : first.calls 0 = .lenRead mac.buffers.allocated := by
    rw [calls, Function.update_self]
  have notFull : first.mgmtTxQueue.length < txMgmtNumPendingMax := by
    rw [queue, filled.length]
    exact room
  have admitted := Mac.run_admit callersPos reading notFull
  have queued := Mac.run_queue callersPos
    (first.calls_setCall_self 0 (.queueTail mac.buffers.allocated))
  refine ⟨[.tx 0 Mac.probeReq ⟨100, 28, 0⟩, .call 0, .call 0, .call 0], _,
    run_cons_eq_some.mpr ⟨first, arrived, run_cons_eq_some.mpr
      ⟨_, admitted, run_cons_eq_some.mpr ⟨_, queued, run_cons_eq_some.mpr
        ⟨_, Mac.run_count callersPos (by simp [Mac.setCall]), rfl⟩⟩⟩⟩, ?_, ?_⟩
  · intro caller
    simp only [Mac.setCall, calls, Function.update_idem]
    by_cases own : caller = 0
    · rw [own, Function.update_self]
    · rw [Function.update_of_ne own]
      exact filled.idle caller
  · simp [Mac.setCall, queue, filled.length]

theorem Mac.Admitted.next (admitted : mac.Admitted count) (inRange : count < callers) :
    ∃ events next, run (Mac.step callers) mac events = some next ∧
      next.Admitted (count + 1) := by
  obtain ⟨first, arrived, calls, queue⟩ :=
    Mac.run_tx inRange (admitted.idle count le_rfl)
  have reading : first.calls count = .lenRead mac.buffers.allocated := by
    rw [calls, Function.update_self]
  have notFull : first.mgmtTxQueue.length < txMgmtNumPendingMax := by
    rw [queue, admitted.length]
    decide
  refine ⟨[.tx count Mac.probeReq ⟨100, 28, 0⟩, .call count], _,
    run_cons_eq_some.mpr ⟨first, arrived, run_cons_eq_some.mpr
      ⟨_, Mac.run_admit inRange reading notFull, rfl⟩⟩, ?_, ?_, ?_⟩
  · rw [← admitted.length, ← queue]
    rfl
  · intro caller below
    simp only [Mac.setCall, calls, Function.update_idem]
    by_cases own : caller = count
    · exact ⟨_, by rw [own, Function.update_self]⟩
    · rw [Function.update_of_ne own]
      exact admitted.admitted caller (by omega)
  · intro caller above
    simp only [Mac.setCall, calls, Function.update_idem]
    rw [Function.update_of_ne (by omega)]
    exact admitted.idle caller (by omega)

theorem Mac.Overrun.next (overrun : mac.Overrun callers count)
    (inRange : count < callers) :
    ∃ events next, run (Mac.step callers) mac events = some next ∧
      next.Overrun callers (count + 1) := by
  obtain ⟨skb, accepted⟩ := overrun.admitted count le_rfl inRange
  refine ⟨[.call count], _,
    run_cons_eq_some.mpr ⟨_, Mac.run_queue inRange accepted, rfl⟩, ?_, ?_⟩
  · rw [List.length_append, overrun.length]
    rfl
  · intro caller above below
    simp only [Mac.setCall]
    rw [Function.update_of_ne (by omega)]
    exact overrun.admitted caller (by omega) below

theorem Mac.exists_overrun (callersPos : 0 < callers) :
    ∃ events mac, run (Mac.step callers) .start events = some mac ∧
      mac.Overrun callers callers := by
  have filled : ∃ events mac, run (Mac.step callers) .start events = some mac ∧
      mac.Filled (txMgmtNumPendingMax - 1) := by
    refine run_reaches ⟨[], .start, rfl, fun _ => rfl, rfl⟩ ?_
    intro count below mac filled
    exact filled.next callersPos (by omega)
  have admitted : ∃ events mac, run (Mac.step callers) .start events = some mac ∧
      mac.Admitted callers := by
    obtain ⟨events, mac, reached, idle, length⟩ := filled
    refine run_reaches ⟨events, mac, reached, length, ?_, fun caller _ => idle caller⟩ ?_
    · intro caller none
      exact absurd none (Nat.not_lt_zero caller)
    · intro count below mac admitted
      exact admitted.next below
  obtain ⟨events, mac, reached, length, atTail, -⟩ := admitted
  refine run_reaches ⟨events, mac, reached, length, fun caller _ => atTail caller⟩ ?_
  intro count below mac overrun
  exact overrun.next below

/-- The queue grows to one frame less than the limit and one for each caller, and no
further. -/
theorem mgmt_queue_limit (callersPos : 0 < callers) :
    IsGreatest { length | ∃ events mac,
        run (Mac.step callers) .start events = some mac ∧
          mac.mgmtTxQueue.length = length }
      (txMgmtNumPendingMax - 1 + callers) := by
  constructor
  · obtain ⟨events, mac, reached, overrun⟩ := Mac.exists_overrun callersPos
    exact ⟨events, mac, reached, overrun.length⟩
  · rintro length ⟨events, mac, reached, rfl⟩
    have within : mac.Within callers :=
      run_invariant (Mac.Within callers)
        (fun _ _ _ stepped => (Mac.step_cases stepped).within) reached
        (Mac.within_of_room (by decide))
    exact le_of_add_le_left within

theorem mgmt_queue_limit_four :
    IsGreatest { length | ∃ events mac, run (Mac.step 4) .start events = some mac ∧
        mac.mgmtTxQueue.length = length } 515 :=
  mgmt_queue_limit (by decide)

end Runs

/-! The test of probe responses looks at `num_pending_mgmt_tx`, which comes down only for
frames that are dropped for want of an interface. -/

/-- The call has a probe response that passed the test, and has not queued it. -/
def TxCall.probing (frame : Nat → Frame) : TxCall → Nat
  | .lenRead skb | .queueTail skb => if (frame skb).isProbeResp then 1 else 0
  | _ => 0

/-- The dropped frame is still counted. -/
def MgmtWorker.uncounting : MgmtWorker → Nat
  | .dropped => 1
  | _ => 0

def MgmtWorker.dropping : MgmtWorker → List Nat
  | .drop skb => [skb]
  | _ => []

namespace Mac

def drops (mac : Mac) : Event → List Nat
  | .work => mac.worker.dropping
  | _ => []

def droppedFrames (callers : Nat) (events : List Event) : List Nat :=
  outputs (step callers) drops start events

def probes (mac : Mac) (accepted : List Nat) : List Nat :=
  accepted.filter fun skb => (mac.frame skb).isProbeResp

structure Probed (callers : Nat) (accepted dropped : List Nat) (mac : Mac) : Prop where
  nonneg : 0 ≤ mac.numPendingMgmtTx
  counted : accepted.length + mac.worker.uncounting ≤
    mac.numPendingMgmtTx + mac.callCount callers TxCall.uncounted + dropped.length
  small : mac.numPendingMgmtTx + mac.callCount callers TxCall.uncounted ≤
    accepted.length
  probes : (mac.probes accepted).length +
      mac.callCount callers (TxCall.probing mac.frame) ≤
    prbRspDropThreshold + callers + dropped.length

end Mac

section Probes

variable {callers : Nat} {mac next final : Mac} {event : Mac.Event}
  {accepted dropped : List Nat} {events : List Mac.Event}

theorem Mac.callCount_congr {weight weight' : TxCall → Nat} (calls : next.calls = mac.calls)
    (same : ∀ caller < callers, weight' (mac.calls caller) = weight (mac.calls caller)) :
    next.callCount callers weight' = mac.callCount callers weight := by
  unfold Mac.callCount
  rw [calls]
  exact Finset.sum_congr rfl fun caller inRange => same caller (Finset.mem_range.mp inRange)

/-- No call both holds back a count and has a probe response under way. -/
theorem Mac.callCount_uncounted_probing (mac : Mac) (frame : Nat → Frame) :
    mac.callCount callers TxCall.uncounted + mac.callCount callers (TxCall.probing frame) ≤
      callers := by
  have light : ∀ call, TxCall.uncounted call + TxCall.probing frame call ≤ 1 := by
    intro call
    unfold TxCall.uncounted TxCall.probing
    cases call with
    | lenRead skb | queueTail skb =>
        simp only [Nat.zero_add]
        split <;> omega
    | _ => simp
  have bound := @Mac.callCount_le callers
    (fun call => TxCall.uncounted call + TxCall.probing frame call) light mac
  unfold Mac.callCount at bound ⊢
  rwa [Finset.sum_add_distrib] at bound

/-- A call that goes on with its frame. -/
theorem Mac.Probed.call (probed : mac.Probed callers accepted dropped) {caller : Nat}
    (inRange : caller < callers) {call : TxCall}
    (calls : next.calls = Function.update mac.calls caller call)
    (frame : next.frame = mac.frame) (worker : next.worker = mac.worker)
    (counter : next.numPendingMgmtTx = mac.numPendingMgmtTx)
    (uncounted : call.uncounted = (mac.calls caller).uncounted)
    (probing : call.probing mac.frame ≤ (mac.calls caller).probing mac.frame) :
    next.Probed callers accepted dropped := by
  have change := Mac.callCount_change inRange TxCall.uncounted calls
  have probes := Mac.callCount_change inRange (TxCall.probing mac.frame) calls
  have counted := probed.counted
  have small := probed.small
  have few := probed.probes
  refine ⟨by rw [counter]; exact probed.nonneg, ?_, ?_, ?_⟩
  · rw [counter, worker]
    omega
  · rw [counter]
    omega
  · rw [Mac.probes, frame, ← Mac.probes]
    omega

theorem Mac.Probed.work (probed : mac.Probed callers accepted dropped)
    (calls : next.calls = mac.calls) (frame : next.frame = mac.frame)
    (counter : next.numPendingMgmtTx = mac.numPendingMgmtTx) {more : List Nat}
    (uncounting : next.worker.uncounting ≤ mac.worker.uncounting + more.length) :
    next.Probed callers accepted (dropped ++ more) := by
  have uncounted : next.callCount callers TxCall.uncounted =
      mac.callCount callers TxCall.uncounted := Mac.callCount_congr calls fun _ _ => rfl
  have probing : next.callCount callers (TxCall.probing next.frame) =
      mac.callCount callers (TxCall.probing mac.frame) := by
    rw [frame]
    exact Mac.callCount_congr calls fun _ _ => rfl
  have counted := probed.counted
  have few := probed.probes
  refine ⟨by rw [counter]; exact probed.nonneg, ?_, ?_, ?_⟩
  · rw [counter, uncounted, List.length_append]
    omega
  · rw [counter, uncounted]
    exact probed.small
  · rw [probing, Mac.probes, frame, ← Mac.probes, List.length_append]
    omega

/-- A new frame is at most before the test. -/
theorem Mac.Probed.tx (probed : mac.Probed callers accepted dropped)
    (known : ∀ skb ∈ accepted, skb < mac.buffers.allocated)
    (held : ∀ caller < callers, ∀ skb ∈ (mac.calls caller).frames,
      skb < mac.buffers.allocated)
    {caller : Nat} (inRange : caller < callers) (idle : mac.calls caller = .idle)
    {info : Frame} {call : TxCall}
    (calls : next.calls = Function.update mac.calls caller call)
    (frame : next.frame = Function.update mac.frame mac.buffers.allocated info)
    (worker : next.worker = mac.worker)
    (counter : next.numPendingMgmtTx = mac.numPendingMgmtTx)
    (uncounted : call.uncounted = 0) (probing : call.probing next.frame = 0) :
    next.Probed callers accepted dropped := by
  have old : ∀ skb < mac.buffers.allocated, next.frame skb = mac.frame skb := by
    intro skb below
    rw [frame, Function.update_of_ne (Nat.ne_of_lt below)]
  have sameProbes : next.probes accepted = mac.probes accepted := by
    unfold Mac.probes
    refine List.filter_congr fun skb member => ?_
    rw [old skb (known skb member)]
  have sameProbing : mac.callCount callers (TxCall.probing next.frame) =
      mac.callCount callers (TxCall.probing mac.frame) := by
    refine Mac.callCount_congr rfl fun other otherRange => ?_
    have below := held other otherRange
    cases at_ : mac.calls other with
    | lenRead skb | queueTail skb =>
        rw [at_] at below
        simp only [TxCall.probing, old skb (below skb (Multiset.mem_singleton_self skb))]
    | _ => rfl
  have change := Mac.callCount_change inRange TxCall.uncounted calls
  have probes := Mac.callCount_change inRange (TxCall.probing next.frame) calls
  have none : TxCall.idle.uncounted = 0 ∧ TxCall.idle.probing next.frame = 0 := ⟨rfl, rfl⟩
  rw [idle] at change probes
  have counted := probed.counted
  have small := probed.small
  have few := probed.probes
  refine ⟨by rw [counter]; exact probed.nonneg, ?_, ?_, ?_⟩
  · rw [counter, worker]
    omega
  · rw [counter]
    omega
  · rw [sameProbes]
    omega

/-- A probe response passes the test: few frames were accepted that are still counted. -/
theorem Mac.Probed.passes (probed : mac.Probed callers accepted dropped) {caller skb : Nat}
    (inRange : caller < callers) (reading : mac.calls caller = .prbRspRead skb)
    (below : ¬ mac.numPendingMgmtTx > prbRspDropThreshold) :
    (mac.setCall caller (.lenRead skb)).Probed callers accepted dropped := by
  have change := @Mac.callCount_change callers mac (mac.setCall caller (.lenRead skb)) caller
    inRange TxCall.uncounted (.lenRead skb) rfl
  rw [reading] at change
  simp only [TxCall.uncounted] at change
  have together := @Mac.callCount_uncounted_probing callers
    (mac.setCall caller (.lenRead skb)) mac.frame
  have counted := probed.counted
  have small := probed.small
  have filtered : (mac.probes accepted).length ≤ accepted.length :=
    List.length_filter_le _ _
  refine ⟨probed.nonneg, ?_, ?_, ?_⟩
  · simp only [Mac.setCall] at change counted ⊢
    omega
  · simp only [Mac.setCall] at change small ⊢
    omega
  · have same : (mac.setCall caller (.lenRead skb)).probes accepted = mac.probes accepted :=
      rfl
    rw [same]
    simp only [Mac.setCall] at change together ⊢
    omega

theorem Mac.Probed.queueTail (probed : mac.Probed callers accepted dropped)
    {caller skb : Nat} (inRange : caller < callers)
    (queueing : mac.calls caller = .queueTail skb)
    (calls : next.calls = Function.update mac.calls caller .countUp)
    (frame : next.frame = mac.frame) (worker : next.worker = mac.worker)
    (counter : next.numPendingMgmtTx = mac.numPendingMgmtTx) :
    next.Probed callers (accepted ++ [skb]) dropped := by
  have change := Mac.callCount_change inRange TxCall.uncounted calls
  have probes := Mac.callCount_change inRange (TxCall.probing mac.frame) calls
  rw [queueing] at change probes
  simp only [TxCall.uncounted, TxCall.probing] at change probes
  have counted := probed.counted
  have small := probed.small
  have few := probed.probes
  refine ⟨by rw [counter]; exact probed.nonneg, ?_, ?_, ?_⟩
  · rw [counter, worker, List.length_append, List.length_singleton]
    omega
  · rw [counter, List.length_append, List.length_singleton]
    omega
  · rw [Mac.probes, frame, List.filter_append, ← Mac.probes, List.length_append]
    by_cases probe : (mac.frame skb).isProbeResp
    · simp only [probe, if_true, List.filter_cons_of_pos, List.filter_nil,
        List.length_singleton] at probes ⊢
      omega
    · simp only [probe, Bool.false_eq_true, if_false] at probes
      rw [List.filter_cons_of_neg (by simpa using probe), List.filter_nil, List.length_nil]
      omega

theorem Mac.Probed.countUp (probed : mac.Probed callers accepted dropped)
    (short : accepted.length < 2 ^ 31) {caller : Nat} (inRange : caller < callers)
    (queued : mac.calls caller = .countUp)
    (calls : next.calls = Function.update mac.calls caller .idle)
    (frame : next.frame = mac.frame) (worker : next.worker = mac.worker)
    (counter : next.numPendingMgmtTx = wrapInt (mac.numPendingMgmtTx + 1)) :
    next.Probed callers accepted dropped := by
  have change := Mac.callCount_change inRange TxCall.uncounted calls
  have probes := Mac.callCount_change inRange (TxCall.probing mac.frame) calls
  rw [queued] at change probes
  simp only [TxCall.uncounted, TxCall.probing] at change probes
  have nonneg := probed.nonneg
  have counted := probed.counted
  have small := probed.small
  have few := probed.probes
  rw [wrapInt_of_lt (by omega) (by omega)] at counter
  refine ⟨by omega, ?_, ?_, ?_⟩
  · rw [counter, worker]
    omega
  · rw [counter]
    omega
  · rw [Mac.probes, frame, ← Mac.probes]
    omega

theorem atomicDecIfPositive_fst {counter : Int} (nonneg : 0 ≤ counter)
    (small : counter < 2 ^ 31) : (atomicDecIfPositive counter).1 = max (counter - 1) 0 := by
  rcases nonneg.lt_or_eq with positive | rfl
  · rw [atomicDecIfPositive_of_pos positive small]
    omega
  · decide

theorem Mac.Probed.uncount (probed : mac.Probed callers accepted dropped)
    (short : accepted.length < 2 ^ 31) (freed : mac.worker = .dropped) :
    mac.mgmtOverTxDrop.Probed callers accepted dropped := by
  have nonneg := probed.nonneg
  have counted := probed.counted
  have small := probed.small
  have down := atomicDecIfPositive_fst nonneg (by omega)
  have hand : mac.worker.uncounting = 1 := by
    rw [freed]
    rfl
  have uncounted : mac.mgmtOverTxDrop.callCount callers TxCall.uncounted =
      mac.callCount callers TxCall.uncounted := Mac.callCount_congr rfl fun _ _ => rfl
  have probing : mac.mgmtOverTxDrop.callCount callers (TxCall.probing mac.frame) =
      mac.callCount callers (TxCall.probing mac.frame) :=
    Mac.callCount_congr rfl fun _ _ => rfl
  have counter : mac.mgmtOverTxDrop.numPendingMgmtTx = max (mac.numPendingMgmtTx - 1) 0 :=
    down
  have worker : mac.mgmtOverTxDrop.worker.uncounting = 0 := rfl
  refine ⟨?_, ?_, ?_, ?_⟩
  · rw [counter]
    omega
  · rw [counter, uncounted, worker]
    omega
  · rw [counter, uncounted]
    omega
  · have few := probed.probes
    rw [← probing] at few
    exact few

theorem Mac.Step.probed (stepped : Mac.Step callers mac event next)
    (short : accepted.length < 2 ^ 31)
    (known : ∀ skb ∈ accepted, skb < mac.buffers.allocated)
    (held : ∀ caller < callers, ∀ skb ∈ (mac.calls caller).frames,
      skb < mac.buffers.allocated)
    (probed : mac.Probed callers accepted dropped) :
    next.Probed callers (accepted ++ mac.accepts event) (dropped ++ mac.drops event) := by
  have quiet (accepts : mac.accepts event = []) (drops : mac.drops event = [])
      (kept : next.Probed callers accepted dropped) :
      next.Probed callers (accepted ++ mac.accepts event) (dropped ++ mac.drops event) := by
    rw [accepts, drops, List.append_nil, List.append_nil]
    exact kept
  have working (accepts : mac.accepts event = []) (calls : next.calls = mac.calls)
      (frame : next.frame = mac.frame)
      (counter : next.numPendingMgmtTx = mac.numPendingMgmtTx)
      (uncounting : next.worker.uncounting ≤
        mac.worker.uncounting + (mac.drops event).length) :
      next.Probed callers (accepted ++ mac.accepts event) (dropped ++ mac.drops event) := by
    rw [accepts, List.append_nil]
    exact probed.work calls frame counter uncounting
  cases stepped with
  | @txIgnored caller frame skb inRange idle =>
      apply quiet rfl rfl
      have same : (mac.arrived frame skb).calls =
          Function.update mac.calls caller .idle := by
        rw [← idle, Function.update_eq_self]
        rfl
      exact probed.tx known held inRange idle same rfl rfl rfl rfl rfl
  | @txMgmt caller frame skb inRange idle =>
      apply quiet rfl rfl
      refine probed.tx known held inRange idle rfl rfl rfl rfl ?_ ?_
      · split <;> rfl
      · -- a probe response is before its test, another frame is no probe response
        split
        next => rfl
        next other =>
            simp only [TxCall.probing, Mac.setCall, Mac.arrived, Function.update_self]
            exact if_neg other
  | @prbRspRead caller skb inRange reading =>
      apply quiet (by rw [Mac.accepts, reading]; rfl) rfl
      split
      next =>
          refine probed.call inRange rfl rfl rfl rfl ?_ ?_
          · rw [reading]
            rfl
          · exact Nat.zero_le _
      next below => exact probed.passes inRange reading below
  | @queueFull caller skb inRange reading =>
      apply quiet (by rw [Mac.accepts, reading]; rfl) rfl
      refine probed.call inRange rfl rfl rfl rfl ?_ (Nat.zero_le _)
      rw [reading]
      rfl
  | @queueOpen caller skb inRange reading =>
      apply quiet (by rw [Mac.accepts, reading]; rfl) rfl
      refine probed.call inRange rfl rfl rfl rfl ?_ ?_
      · rw [reading]
        rfl
      · rw [reading]
        exact le_rfl
  | @queueTail caller skb inRange queueing =>
      simp only [Mac.accepts, Mac.drops, queueing, TxCall.accepted, List.append_nil]
      exact probed.queueTail inRange queueing rfl rfl rfl rfl
  | @countUp caller inRange queued =>
      apply quiet (by rw [Mac.accepts, queued]; rfl) rfl
      exact probed.countUp short inRange queued rfl rfl rfl rfl
  | @refused caller skb inRange refused =>
      apply quiet (by rw [Mac.accepts, refused]; rfl) rfl
      refine probed.call inRange rfl rfl rfl rfl ?_ (Nat.zero_le _)
      rw [refused]
      rfl
  | dropped freed =>
      apply quiet rfl (by rw [Mac.drops, freed]; rfl)
      exact probed.uncount short freed
  | @drop skb dropping =>
      refine working rfl rfl rfl rfl ?_
      rw [Mac.drops, dropping]
      exact le_rfl
  | @sent skb bufId ret sending =>
      refine working rfl rfl rfl rfl ?_
      simp only
      split <;> exact Nat.zero_le _
  | _ => exact working rfl rfl rfl rfl (Nat.zero_le _)

theorem Mac.Probed.start : Mac.start.Probed callers [] [] := by
  have none : ∀ weight : TxCall → Nat, weight .idle = 0 →
      Mac.start.callCount callers weight = 0 := by
    intro weight zero
    exact Finset.sum_eq_zero fun caller _ => zero
  refine ⟨le_rfl, ?_, ?_, ?_⟩
  · rw [none _ rfl]
    exact le_rfl
  · rw [none _ rfl]
    exact le_rfl
  · rw [none _ rfl]
    exact Nat.zero_le _

/-- As long as fewer frames were accepted than the counter can count, no more probe
responses are accepted in a whole run than the threshold, one for each caller, and one
for each frame that was dropped for want of an interface: a frame that was sent is
counted for ever. -/
theorem probe_responses_limited
    (reached : run (Mac.step callers) .start events = some final)
    (short : (Mac.acceptedFrames callers events).length < 2 ^ 31) :
    (final.probes (Mac.acceptedFrames callers events)).length ≤
      prbRspDropThreshold + callers + (Mac.droppedFrames callers events).length := by
  have probed : (Mac.acceptedFrames callers events).length < 2 ^ 31 →
      final.Probed callers (Mac.acceptedFrames callers events)
        (Mac.droppedFrames callers events) := by
    refine run_history (fun past mac => (Mac.acceptedFrames callers past).length < 2 ^ 31 →
      mac.Probed callers (Mac.acceptedFrames callers past)
        (Mac.droppedFrames callers past)) (fun _ => .start) ?_ reached
    intro past mac event next before stepped probed shortThen
    unfold Mac.acceptedFrames Mac.droppedFrames at *
    rw [outputs_concat before stepped] at shortThen ⊢
    rw [outputs_concat before stepped]
    rw [List.length_append] at shortThen
    have shortNow := Nat.lt_of_le_of_lt (Nat.le_add_right _ _) shortThen
    obtain ⟨lost, accounted, -⟩ := Mac.Accounted.start.run before
    refine (Mac.step_cases stepped).probed shortNow (Mac.Ordered.run before).known ?_
      (probed shortNow)
    intro caller inRange skb holds
    exact accounted.call_lt_allocated inRange holds
  have few := (probed short).probes
  omega

/-- Two probe responses, the second while the first one is counted. -/
theorem probe_responses_limited_two :
    ∃ final events, run (Mac.step 1) .start events = some final ∧
      (final.probes (Mac.acceptedFrames 1 events)).length = 2 ∧
      (final.probes (Mac.acceptedFrames 1 events)).length ≤
        prbRspDropThreshold + 1 + (Mac.droppedFrames 1 events).length := by
  have seen : (run (Mac.step 1) .start
      [.tx 0 ⟨0x0050, 0, none, some 3⟩ ⟨100, 28, 0⟩, .call 0, .call 0, .call 0, .call 0,
        .tx 0 ⟨0x0050, 0, none, some 3⟩ ⟨100, 28, 0⟩, .call 0, .call 0, .call 0,
        .call 0]).map (fun final => (final.probes [0, 1]).length) = some 2 := by
    decide +kernel
  obtain ⟨final, reached, two⟩ := Option.map_eq_some_iff.mp seen
  exact ⟨final, _, reached, two, probe_responses_limited reached (by decide +kernel)⟩

end Probes

end WirelessSimu
