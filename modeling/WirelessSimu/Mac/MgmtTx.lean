import WirelessSimu.Data.Run
import WirelessSimu.Mac.Frame

namespace WirelessSimu

open Data Kernel

/-! The transmit path of management frames: the `tx` callback, which any number of
callers run at the same time, and the work item that empties the queue. A step is
one access to what they share. The outcomes of the id allocation, of the DMA mapping
and of the WMI command come with the events. -/

def wrapInt (value : Int) : Int := Int.bmod value (2 ^ 32)

/-- `atomic_dec_if_positive`, with the new value of the counter first. -/
def atomicDecIfPositive (counter : Int) : Int × Int :=
  let dec := wrapInt (counter - 1)
  if dec < 0 then (counter, dec) else (dec, dec)

def txMgmtNumPendingMax : Nat := 512

def txMgmtTargetMaxSupport : Nat := 64

def prbRspDropThreshold : Nat := (txMgmtTargetMaxSupport * 3) >>> 2

/-- Where a call of `wireless_mac80211_tx` is inside `wireless_simu_mac_mgmt_tx`;
`refused` is after its error return. -/
inductive TxCall where
  | idle
  | prbRspRead (skb : Nat)
  | lenRead (skb : Nat)
  | queueTail (skb : Nat)
  | countUp
  | refused (skb : Nat)
  deriving DecidableEq, Repr

/-- Where the work item is: in its loop, in `over_tx_drop`, or in `mgmt_tx_wmi`. -/
inductive MgmtWorker where
  | idle
  | dequeue
  | drop (skb : Nat)
  | dropped
  | alloc (skb : Nat)
  | map (skb bufId : Nat)
  | send (skb bufId : Nat)
  | unmap (skb bufId : Nat)
  | freeIdr (bufId : Nat)
  deriving DecidableEq, Repr

structure Mac where
  buffers : Buffers
  frame : Nat → Frame
  cb : Nat → SkbCb
  mgmtTxQueue : List Nat
  numPendingMgmtTx : Int
  txmgmtIdr : Nat → Option Nat
  calls : Nat → TxCall
  workPending : Bool
  worker : MgmtWorker
  /-- The branch of `WARN_ON_ONCE` was taken. -/
  warned : Bool
  /-- The number of `wake_up` calls on `txmgmt_empty_waitq`. -/
  wakeUps : Nat
  /-- The WMI commands in order: buffer id, frame and return value. -/
  commands : List (Nat × Nat × Int)

namespace Mac

inductive Event where
  | tx (caller : Nat) (frame : Frame) (skb : SkBuff)
  | call (caller : Nat)
  | work
  | idrAlloc (bufId : Option Nat)
  | dmaMap (paddr : Option UInt64)
  | wmiSend (ret : Int)
  deriving DecidableEq, Repr

def start : Mac where
  buffers := .empty
  frame := fun _ => ⟨0, 0, none, none⟩
  cb := fun _ => ⟨0, 0, none⟩
  mgmtTxQueue := []
  numPendingMgmtTx := 0
  txmgmtIdr := fun _ => none
  calls := fun _ => .idle
  workPending := false
  worker := .idle
  warned := false
  wakeUps := 0
  commands := []

def setCall (mac : Mac) (caller : Nat) (call : TxCall) : Mac :=
  { mac with calls := Function.update mac.calls caller call }

def arrived (mac : Mac) (frame : Frame) (skb : SkBuff) : Mac :=
  { mac with
    buffers := (mac.buffers.adopt skb).1
    frame := Function.update mac.frame mac.buffers.allocated frame
    cb := Function.update mac.cb mac.buffers.allocated frame.skbCb }

/-- `wireless_mac80211_tx` up to `wireless_simu_mac_mgmt_tx`. Frames with the
encapsulation flag and frames that are not management frames go no further. -/
def mac80211Tx (mac : Mac) (caller : Nat) (frame : Frame) (skb : SkBuff) : Mac :=
  if frame.hw80211Encap then mac.arrived frame skb
  else if frame.isMgmt then
    (mac.arrived frame skb).setCall caller
      (if frame.isProbeResp then .prbRspRead mac.buffers.allocated
        else .lenRead mac.buffers.allocated)
  else mac.arrived frame skb

/-- The next access of `wireless_simu_mac_mgmt_tx`, or the freeing after its
refusal. -/
def macMgmtTx (mac : Mac) (caller : Nat) : Option Mac :=
  match mac.calls caller with
  | .idle => none
  | .prbRspRead skb =>
      some (mac.setCall caller
        (if mac.numPendingMgmtTx > prbRspDropThreshold then .refused skb
          else .lenRead skb))
  | .lenRead skb =>
      some (mac.setCall caller
        (if mac.mgmtTxQueue.length ≥ txMgmtNumPendingMax then .refused skb
          else .queueTail skb))
  | .queueTail skb =>
      some { mac.setCall caller .countUp with mgmtTxQueue := mac.mgmtTxQueue ++ [skb] }
  | .countUp =>
      some { mac.setCall caller .idle with
        numPendingMgmtTx := wrapInt (mac.numPendingMgmtTx + 1)
        workPending := true }
  | .refused skb =>
      some { mac.setCall caller .idle with buffers := mac.buffers.devKfreeSkb skb }

def mgmtTxWorkFunc (mac : Mac) : Mac :=
  match mac.mgmtTxQueue with
  | [] => { mac with worker := .idle }
  | skb :: queue =>
      { mac with
        mgmtTxQueue := queue
        worker := if (mac.cb skb).vif = none then .drop skb else .alloc skb }

/-- The end of `wireless_simu_mgmt_over_tx_drop`, after the freeing. -/
def mgmtOverTxDrop (mac : Mac) : Mac :=
  let (counter, numMgmt) := atomicDecIfPositive mac.numPendingMgmtTx
  { mac with
    numPendingMgmtTx := counter
    warned := mac.warned || numMgmt < 0
    wakeUps := if numMgmt = 0 then mac.wakeUps + 1 else mac.wakeUps
    worker := .dequeue }

def work (mac : Mac) : Option Mac :=
  match mac.worker with
  | .idle =>
      if mac.workPending then
        some { mac with workPending := false, worker := .dequeue }
      else none
  | .dequeue => some mac.mgmtTxWorkFunc
  | .drop skb =>
      some { mac with buffers := mac.buffers.devKfreeSkb skb, worker := .dropped }
  | .dropped => some mac.mgmtOverTxDrop
  | .unmap skb bufId =>
      some { mac with
        buffers := mac.buffers.dmaUnmapSingle skb (mac.buffers.skb skb).paddr
          (mac.buffers.skb skb).len
        worker := .freeIdr bufId }
  | .freeIdr bufId =>
      some { mac with
        txmgmtIdr := Function.update mac.txmgmtIdr bufId none
        worker := .dequeue }
  | _ => none

/-- `idr_alloc` gives an unused id below the limit or fails; the room for the MIC
follows, and where there is none the kernel panics. -/
def idrAlloc (mac : Mac) (bufId : Option Nat) : Option Mac :=
  match mac.worker, bufId with
  | .alloc _, none => some { mac with worker := .dequeue }
  | .alloc skb, some bufId =>
      if bufId < txMgmtNumPendingMax ∧ mac.txmgmtIdr bufId = none then
        (mac.buffers.skbPut skb (mgmtTxMicLength (mac.frame skb) (mac.cb skb))).map
          fun buffers =>
            { mac with
              txmgmtIdr := Function.update mac.txmgmtIdr bufId (some skb)
              buffers := buffers
              worker := .map skb bufId }
      else none
  | _, _ => none

def dmaMap (mac : Mac) (paddr : Option UInt64) : Option Mac :=
  match mac.worker, paddr with
  | .map _ bufId, none => some { mac with worker := .freeIdr bufId }
  | .map skb bufId, some paddr =>
      some { mac with
        buffers := (mac.buffers.dmaMapSingle skb paddr (mac.buffers.skb skb).len).setPaddr
          skb paddr
        worker := .send skb bufId }
  | _, _ => none

def wmiSend (mac : Mac) (ret : Int) : Option Mac :=
  match mac.worker with
  | .send skb bufId =>
      some { mac with
        commands := mac.commands ++ [(bufId, skb, ret)]
        worker := if ret ≠ 0 then .unmap skb bufId else .dequeue }
  | _ => none

/-- No more than `callers` calls run at the same time. -/
def step (callers : Nat) (mac : Mac) : Event → Option Mac
  | .tx caller frame skb =>
      if caller < callers ∧ mac.calls caller = .idle then
        some (mac.mac80211Tx caller frame skb)
      else none
  | .call caller => if caller < callers then mac.macMgmtTx caller else none
  | .work => mac.work
  | .idrAlloc bufId => mac.idrAlloc bufId
  | .dmaMap paddr => mac.dmaMap paddr
  | .wmiSend ret => mac.wmiSend ret

/-! Everything a step can do, guards included. -/

inductive Step (callers : Nat) (mac : Mac) : Event → Mac → Prop where
  | txIgnored {caller : Nat} {frame : Frame} {skb : SkBuff} (inRange : caller < callers)
      (idle : mac.calls caller = .idle)
      (ignored : frame.hw80211Encap = true ∨ frame.isMgmt = false) :
      Step callers mac (.tx caller frame skb) (mac.arrived frame skb)
  | txMgmt {caller : Nat} {frame : Frame} {skb : SkBuff} (inRange : caller < callers)
      (idle : mac.calls caller = .idle) (plain : frame.hw80211Encap = false)
      (mgmt : frame.isMgmt = true) :
      Step callers mac (.tx caller frame skb)
        ((mac.arrived frame skb).setCall caller
          (if frame.isProbeResp then .prbRspRead mac.buffers.allocated
            else .lenRead mac.buffers.allocated))
  | prbRspRead {caller skb : Nat} (inRange : caller < callers)
      (reading : mac.calls caller = .prbRspRead skb) :
      Step callers mac (.call caller)
        (mac.setCall caller
          (if mac.numPendingMgmtTx > prbRspDropThreshold then .refused skb
            else .lenRead skb))
  | queueFull {caller skb : Nat} (inRange : caller < callers)
      (reading : mac.calls caller = .lenRead skb)
      (full : txMgmtNumPendingMax ≤ mac.mgmtTxQueue.length) :
      Step callers mac (.call caller) (mac.setCall caller (.refused skb))
  | queueOpen {caller skb : Nat} (inRange : caller < callers)
      (reading : mac.calls caller = .lenRead skb)
      (room : mac.mgmtTxQueue.length < txMgmtNumPendingMax) :
      Step callers mac (.call caller) (mac.setCall caller (.queueTail skb))
  | queueTail {caller skb : Nat} (inRange : caller < callers)
      (accepted : mac.calls caller = .queueTail skb) :
      Step callers mac (.call caller)
        { mac.setCall caller .countUp with mgmtTxQueue := mac.mgmtTxQueue ++ [skb] }
  | countUp {caller : Nat} (inRange : caller < callers)
      (queued : mac.calls caller = .countUp) :
      Step callers mac (.call caller)
        { mac.setCall caller .idle with
          numPendingMgmtTx := wrapInt (mac.numPendingMgmtTx + 1)
          workPending := true }
  | refused {caller skb : Nat} (inRange : caller < callers)
      (refused : mac.calls caller = .refused skb) :
      Step callers mac (.call caller)
        { mac.setCall caller .idle with buffers := mac.buffers.devKfreeSkb skb }
  | workStart (idle : mac.worker = .idle) (pending : mac.workPending = true) :
      Step callers mac .work { mac with workPending := false, worker := .dequeue }
  | workEnd (looping : mac.worker = .dequeue) (empty : mac.mgmtTxQueue = []) :
      Step callers mac .work { mac with worker := .idle }
  | dequeueLost {skb : Nat} {queue : List Nat} (looping : mac.worker = .dequeue)
      (first : mac.mgmtTxQueue = skb :: queue) (noVif : (mac.cb skb).vif = none) :
      Step callers mac .work { mac with mgmtTxQueue := queue, worker := .drop skb }
  | dequeue {skb : Nat} {queue : List Nat} (looping : mac.worker = .dequeue)
      (first : mac.mgmtTxQueue = skb :: queue) (hasVif : (mac.cb skb).vif ≠ none) :
      Step callers mac .work { mac with mgmtTxQueue := queue, worker := .alloc skb }
  | drop {skb : Nat} (dropping : mac.worker = .drop skb) :
      Step callers mac .work
        { mac with buffers := mac.buffers.devKfreeSkb skb, worker := .dropped }
  | dropped (freed : mac.worker = .dropped) :
      Step callers mac .work mac.mgmtOverTxDrop
  | unmap {skb bufId : Nat} (failed : mac.worker = .unmap skb bufId) :
      Step callers mac .work
        { mac with
          buffers := mac.buffers.dmaUnmapSingle skb (mac.buffers.skb skb).paddr
            (mac.buffers.skb skb).len
          worker := .freeIdr bufId }
  | freeIdr {bufId : Nat} (failed : mac.worker = .freeIdr bufId) :
      Step callers mac .work
        { mac with
          txmgmtIdr := Function.update mac.txmgmtIdr bufId none
          worker := .dequeue }
  | noId {skb : Nat} (allocating : mac.worker = .alloc skb) :
      Step callers mac (.idrAlloc none) { mac with worker := .dequeue }
  | id {skb bufId : Nat} {buffers : Buffers} (allocating : mac.worker = .alloc skb)
      (inRange : bufId < txMgmtNumPendingMax) (unused : mac.txmgmtIdr bufId = none)
      (put : mac.buffers.skbPut skb (mgmtTxMicLength (mac.frame skb) (mac.cb skb)) =
        some buffers) :
      Step callers mac (.idrAlloc (some bufId))
        { mac with
          txmgmtIdr := Function.update mac.txmgmtIdr bufId (some skb)
          buffers := buffers
          worker := .map skb bufId }
  | mapFailed {skb bufId : Nat} (mapping : mac.worker = .map skb bufId) :
      Step callers mac (.dmaMap none) { mac with worker := .freeIdr bufId }
  | mapped {skb bufId : Nat} {paddr : UInt64} (mapping : mac.worker = .map skb bufId) :
      Step callers mac (.dmaMap (some paddr))
        { mac with
          buffers :=
            (mac.buffers.dmaMapSingle skb paddr (mac.buffers.skb skb).len).setPaddr
              skb paddr
          worker := .send skb bufId }
  | sent {skb bufId : Nat} {ret : Int} (sending : mac.worker = .send skb bufId) :
      Step callers mac (.wmiSend ret)
        { mac with
          commands := mac.commands ++ [(bufId, skb, ret)]
          worker := if ret ≠ 0 then .unmap skb bufId else .dequeue }

variable {callers : Nat} {mac next : Mac}

theorem mac80211Tx_cases {caller : Nat} (inRange : caller < callers)
    (idle : mac.calls caller = .idle) (frame : Frame) (skb : SkBuff) :
    Step callers mac (.tx caller frame skb) (mac.mac80211Tx caller frame skb) := by
  unfold mac80211Tx
  split
  next encap => exact .txIgnored inRange idle (.inl encap)
  next plain =>
      rw [Bool.not_eq_true] at plain
      split
      next mgmt => exact .txMgmt inRange idle plain mgmt
      next other => exact .txIgnored inRange idle (.inr (Bool.not_eq_true _ ▸ other))

theorem macMgmtTx_cases {caller : Nat} (inRange : caller < callers)
    (stepped : mac.macMgmtTx caller = some next) :
    Step callers mac (.call caller) next := by
  unfold macMgmtTx at stepped
  split at stepped
  next => cases stepped
  next skb reading =>
      cases stepped
      exact .prbRspRead inRange reading
  next skb reading =>
      split at stepped
      next full =>
          cases stepped
          exact .queueFull inRange reading full
      next room =>
          cases stepped
          exact .queueOpen inRange reading (Nat.not_le.mp room)
  next skb accepted =>
      cases stepped
      exact .queueTail inRange accepted
  next queued =>
      cases stepped
      exact .countUp inRange queued
  next skb refused =>
      cases stepped
      exact .refused inRange refused

theorem mgmtTxWorkFunc_cases (looping : mac.worker = .dequeue) :
    Step callers mac .work mac.mgmtTxWorkFunc := by
  unfold mgmtTxWorkFunc
  split
  next empty => exact .workEnd looping empty
  next skb queue first =>
      split
      next noVif => exact .dequeueLost looping first noVif
      next hasVif => exact .dequeue looping first hasVif

theorem work_cases (stepped : mac.work = some next) : Step callers mac .work next := by
  unfold work at stepped
  split at stepped
  next idle =>
      split at stepped
      next pending =>
          cases stepped
          exact .workStart idle pending
      next => cases stepped
  next looping =>
      cases stepped
      exact mgmtTxWorkFunc_cases looping
  next skb dropping =>
      cases stepped
      exact .drop dropping
  next freed =>
      cases stepped
      exact .dropped freed
  next skb bufId failed =>
      cases stepped
      exact .unmap failed
  next bufId failed =>
      cases stepped
      exact .freeIdr failed
  next => cases stepped

theorem idrAlloc_cases {bufId : Option Nat} (stepped : mac.idrAlloc bufId = some next) :
    Step callers mac (.idrAlloc bufId) next := by
  unfold idrAlloc at stepped
  split at stepped
  next skb allocating =>
      cases stepped
      exact .noId allocating
  next skb bufId allocating =>
      split at stepped
      next free =>
          obtain ⟨buffers, put, rfl⟩ := Option.map_eq_some_iff.mp stepped
          exact .id allocating free.1 free.2 put
      next => cases stepped
  next => cases stepped

theorem dmaMap_cases {paddr : Option UInt64} (stepped : mac.dmaMap paddr = some next) :
    Step callers mac (.dmaMap paddr) next := by
  unfold dmaMap at stepped
  split at stepped
  next skb bufId mapping =>
      cases stepped
      exact .mapFailed mapping
  next skb bufId paddr mapping =>
      cases stepped
      exact .mapped mapping
  next => cases stepped

theorem step_cases {event : Event} (stepped : mac.step callers event = some next) :
    Step callers mac event next := by
  cases event with
  | tx caller frame skb =>
      simp only [step] at stepped
      split at stepped
      next free =>
          cases stepped
          exact mac80211Tx_cases free.1 free.2 frame skb
      next => cases stepped
  | call caller =>
      simp only [step] at stepped
      split at stepped
      next inRange => exact macMgmtTx_cases inRange stepped
      next => cases stepped
  | work => exact work_cases stepped
  | idrAlloc bufId => exact idrAlloc_cases stepped
  | dmaMap paddr => exact dmaMap_cases stepped
  | wmiSend ret =>
      simp only [step, wmiSend] at stepped
      split at stepped
      next skb bufId sending =>
          cases stepped
          exact .sent sending
      next => cases stepped

end Mac

end WirelessSimu
