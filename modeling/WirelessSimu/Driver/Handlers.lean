import WirelessSimu.Rx.Interrupt

namespace WirelessSimu

open Data

/-! Probe and remove call by call, and the handlers that run in between: the interrupt
handler, the receive tasklet, the retry timer and the work item of the management
frames. A handler that dereferences what is not in place is a fault. -/

/-- The call that probe or remove makes next. Calls are taken together where no handler
can tell them apart; `bound` is the time between the two functions. When probe returns an
error, the driver core clears the drvdata of the device. -/
inductive Point where
  | kzallocPriv
  | pciClaim
  | allocIrqVectors
  | requestIrq
  | setDrvdata
  | irqEnable
  | srngInit
  | dstHostConfig
  | timerSetup
  | taskletSetup
  | dstAlloc
  | dstRegister
  | dstPostLock
  | dstPostUnlock
  | srngTest
  | createWorkqueue
  | allocHw
  | channels
  | registerHw
  | bound
  | clearDrvdata
  | failed
  | unregisterHw
  | freeHw
  | freeIrq
  | freeIrqVectors
  | irqDisable
  | destroyWorkqueue
  | dstLock
  | dstKill
  | dstFree
  | dstUnlock
  | srngDeinit
  | iounmap
  | releaseRegions
  | freePriv
  | removed
  deriving DecidableEq, Repr

/-- The two receive rings: their pointers are NULL, set, or set and known to the HAL. -/
inductive RingPlace where
  | absent
  | allocated
  | registered
  deriving DecidableEq, Repr

/-- What the handlers dereference. `hal` are the position words of the rings, `vif` the
interfaces of `hw`. -/
structure InPlace where
  priv : Bool
  mmio : Bool
  drvdata : Bool
  hal : Bool
  timer : Bool
  tasklet : Bool
  rings : RingPlace
  hw : Bool
  vif : Bool
  deriving DecidableEq, Repr

namespace InPlace

def nothing : InPlace := ⟨false, false, false, false, false, false, .absent, false, false⟩

def after (places : InPlace) (point : Point) (ok : Bool) : InPlace where
  priv := match point with
    | .kzallocPriv => true
    | .freePriv => false
    | _ => places.priv
  mmio := match point with
    | .pciClaim => ok
    | .iounmap => false
    | _ => places.mmio
  drvdata := match point with
    | .setDrvdata => true
    | .clearDrvdata => false
    | _ => places.drvdata
  hal := match point with
    | .srngInit => ok
    | .srngDeinit => false
    | _ => places.hal
  timer := match point with
    | .timerSetup => true
    | _ => places.timer
  tasklet := match point with
    | .taskletSetup => true
    | _ => places.tasklet
  rings := match point with
    | .dstAlloc => if ok then .allocated else .absent
    | .dstRegister => if ok then .registered else .absent
    | .dstFree => .absent
    | _ => places.rings
  hw := match point with
    -- A failed registration frees the hardware again.
    | .allocHw | .registerHw => ok
    | .freeHw => false
    | _ => places.hw
  vif := match point with
    | .registerHw => ok
    | .unregisterHw => false
    | _ => places.vif

def receiving (places : InPlace) : Bool :=
  places.priv && places.mmio && places.hal && places.rings == .registered

end InPlace

/-- Where the call leads; a failed `kzalloc` is dereferenced at once. `hw` tells whether
`priv->hw` is set. -/
def Point.next (hw : Bool) : Point → Bool → Option Point
  | .kzallocPriv, ok => if ok then some .pciClaim else none
  | .pciClaim, ok => some (if ok then .allocIrqVectors else .clearDrvdata)
  | .allocIrqVectors, ok => some (if ok then .requestIrq else .clearDrvdata)
  | .requestIrq, _ => some .setDrvdata
  | .setDrvdata, _ => some .irqEnable
  | .irqEnable, _ => some .srngInit
  | .srngInit, ok => some (if ok then .dstHostConfig else .clearDrvdata)
  | .dstHostConfig, ok => some (if ok then .timerSetup else .srngTest)
  | .timerSetup, _ => some .taskletSetup
  | .taskletSetup, _ => some .dstAlloc
  | .dstAlloc, ok => some (if ok then .dstRegister else .srngTest)
  | .dstRegister, ok => some (if ok then .dstPostLock else .srngTest)
  | .dstPostLock, _ => some .dstPostUnlock
  | .dstPostUnlock, _ => some .srngTest
  | .srngTest, _ => some .createWorkqueue
  | .createWorkqueue, ok => some (if ok then .allocHw else .clearDrvdata)
  | .allocHw, ok => some (if ok then .channels else .bound)
  | .channels, ok => some (if ok then .registerHw else .bound)
  | .registerHw, _ => some .bound
  | .clearDrvdata, _ => some .failed
  | .failed, _ => none
  | .bound, _ => some (if hw then .unregisterHw else .freeIrq)
  | .unregisterHw, _ => some .freeHw
  | .freeHw, _ => some .freeIrq
  | .freeIrq, _ => some .freeIrqVectors
  | .freeIrqVectors, _ => some .irqDisable
  | .irqDisable, _ => some .destroyWorkqueue
  | .destroyWorkqueue, _ => some .dstLock
  | .dstLock, _ => some .dstKill
  | .dstKill, _ => some .dstFree
  | .dstFree, _ => some .dstUnlock
  | .dstUnlock, _ => some .srngDeinit
  | .srngDeinit, _ => some .iounmap
  | .iounmap, _ => some .releaseRegions
  | .releaseRegions, _ => some .freePriv
  | .freePriv, _ => some .removed
  | .removed, _ => none

/-- `wireless_simu_irq_handler` after the read of `IRQ_STATUS`, and before the clear. -/
inductive IrqRun where
  | idle
  | read (irqStatus : UInt32)
  | clear
  deriving DecidableEq, Repr

/-- A call of `post_pipe`: its look at the two ring pointers, the wait for the lock, the
locked loop, and the return with or without an error that the caller retries. -/
inductive PostRun where
  | check
  | wait
  | locked
  | returned (ok : Bool)
  deriving DecidableEq, Repr

inductive TaskletRun where
  | idle
  | recv
  | recvLocked
  | post (run : PostRun)
  deriving DecidableEq, Repr

/-- `frame` is a frame in hand with `skb_cb->vif`. -/
inductive WorkRun where
  | idle
  | take
  | frame (vif : Option Nat)
  deriving DecidableEq, Repr

inductive LockHolder where
  | call
  | tasklet
  | timer
  deriving DecidableEq, Repr

structure Handlers where
  point : Point
  places : InPlace
  irqRequested : Bool
  irq : IrqRun
  scheduled : Bool
  tasklet : TaskletRun
  armed : Bool
  timer : Option PostRun
  lock : Option LockHolder
  hwRegistered : Bool
  mgmtTxQueue : List (Option Nat)
  workPending : Bool
  work : WorkRun
  faulted : Bool
  deriving DecidableEq, Repr

namespace Handlers

/-- The events of the tasklet and of the timer in `post_pipe` carry whose they are. -/
inductive Event where
  | call (ok : Bool)
  | irqEnter (irqStatus : UInt32)
  | irqSchedule
  | irqClear
  | taskletRun
  | taskletLock
  | taskletUnlock (received : Bool)
  | timerFire
  | postCheck (timer : Bool)
  | postLock (timer : Bool)
  | postBuffer (timer : Bool)
  | postUnlock (timer ok : Bool)
  | postReturn (timer : Bool)
  | tx (vif : Option Nat)
  | workRun
  | workTake
  | workFrame
  deriving DecidableEq, Repr

def touch (state : Handlers) (inPlace : Bool) : Handlers :=
  { state with faulted := state.faulted || !inPlace }

/-! Probe and remove. -/

/-- The calls that wait: for a lock, for a handler to end, for the work to drain. The
teardown kills no tasklet when `pipes_count` was never set. -/
def ready (state : Handlers) : Bool :=
  match state.point with
  | .dstPostLock | .dstLock => state.lock == none
  | .freeIrq => state.irq == .idle
  | .destroyWorkqueue => !state.workPending && state.work == .idle
  | .dstKill => !state.places.tasklet || (!state.scheduled && state.tasklet == .idle)
  | _ => true

def called (state : Handlers) (ok : Bool) (point : Point) : Handlers :=
  { state with
    point := point
    places := state.places.after state.point ok
    irqRequested := match state.point with
      | .requestIrq => ok
      | .freeIrq => false
      | _ => state.irqRequested
    armed := match state.point with
      -- `post_buf` of the initialisation; an error arms the timer.
      | .dstPostUnlock => state.armed || !ok
      | _ => state.armed
    lock := match state.point with
      | .dstPostLock | .dstLock => some .call
      | .dstPostUnlock | .dstUnlock => none
      | _ => state.lock
    hwRegistered := match state.point with
      | .registerHw => ok
      | .unregisterHw => false
      | _ => state.hwRegistered }

def call (state : Handlers) (ok : Bool) : Option Handlers :=
  if state.ready then
    (state.point.next state.places.hw ok).map (state.called ok)
  else none

/-! `post_pipe` on behalf of the tasklet or of the timer. -/

def post (state : Handlers) (timer : Bool) : Option PostRun :=
  if timer then state.timer
  else
    match state.tasklet with
    | .post run => some run
    | _ => none

def setPost (state : Handlers) (timer : Bool) (run : PostRun) : Handlers :=
  if timer then { state with timer := some run } else { state with tasklet := .post run }

def endPost (state : Handlers) (timer : Bool) : Handlers :=
  if timer then { state with timer := none } else { state with tasklet := .idle }

/-! The handlers. -/

def step (state : Handlers) : Event → Option Handlers
  | .call ok => state.call ok
  | .irqEnter irqStatus =>
      if state.irqRequested ∧ state.irq = .idle then
        some ({ state with irq := .read irqStatus }.touch
          (state.places.drvdata && state.places.priv && state.places.mmio))
      else none
  | .irqSchedule =>
      match state.irq with
      | .read irqStatus =>
          if irqStatus = irqStatuSrngDstDmaTestRing0 then
            some ({ state with irq := .clear, scheduled := true }.touch
              (state.places.priv && state.places.tasklet))
          else some { state with irq := .clear }
      | _ => none
  | .irqClear =>
      if state.irq = .clear then
        some ({ state with irq := .idle }.touch (state.places.priv && state.places.mmio))
      else none
  | .taskletRun =>
      if state.scheduled ∧ state.tasklet = .idle then
        some ({ state with scheduled := false, tasklet := .recv }.touch
          (state.places.priv && state.places.tasklet))
      else none
  | .taskletLock =>
      if state.tasklet = .recv ∧ state.lock = none then
        some ({ state with tasklet := .recvLocked, lock := some .tasklet }.touch
          state.places.receiving)
      else none
  | .taskletUnlock received =>
      if state.tasklet = .recvLocked then
        some ({ state with
            tasklet := if received then .recv else .post .check
            lock := none }.touch state.places.receiving)
      else none
  | .timerFire =>
      if state.armed ∧ state.timer = none then
        some ({ state with armed := false, timer := some .check }.touch
          (state.places.priv && state.places.timer))
      else none
  | .postCheck timer =>
      if state.post timer = some .check then
        some ((state.setPost timer
          (if state.places.rings = .absent then .returned true else .wait)).touch
            state.places.priv)
      else none
  | .postLock timer =>
      if state.post timer = some .wait ∧ state.lock = none then
        some ({ state.setPost timer .locked with
          lock := some (if timer then .timer else .tasklet) }.touch state.places.priv)
      else none
  | .postBuffer timer =>
      if state.post timer = some .locked then some (state.touch state.places.receiving)
      else none
  | .postUnlock timer ok =>
      if state.post timer = some .locked then
        some ({ state.setPost timer (.returned ok) with lock := none }.touch
          state.places.priv)
      else none
  | .postReturn timer =>
      match state.post timer with
      | some (.returned ok) =>
          some ({ state.endPost timer with armed := state.armed || !ok }.touch
            (state.places.priv && (ok || state.places.timer)))
      | _ => none
  | .tx vif =>
      if state.hwRegistered then
        some { state with
          mgmtTxQueue := state.mgmtTxQueue ++ [vif], workPending := true }
      else none
  | .workRun =>
      if state.workPending ∧ state.work = .idle then
        some ({ state with workPending := false, work := .take }.touch state.places.priv)
      else none
  | .workTake =>
      match state.work, state.mgmtTxQueue with
      | .take, [] => some ({ state with work := .idle }.touch state.places.priv)
      | .take, vif :: queue =>
          some ({ state with work := .frame vif, mgmtTxQueue := queue }.touch
            state.places.priv)
      | _, _ => none
  | .workFrame =>
      match state.work with
      | .frame none =>
          -- `ieee80211_free_txskb(priv->hw, skb)`.
          some ({ state with work := .take }.touch
            (state.places.priv && state.places.hw))
      | .frame (some _) =>
          some ({ state with work := .take }.touch
            (state.places.priv && state.places.vif))
      | _ => none

def start : Handlers where
  point := .kzallocPriv
  places := .nothing
  irqRequested := false
  irq := .idle
  scheduled := false
  tasklet := .idle
  armed := false
  timer := none
  lock := none
  hwRegistered := false
  mgmtTxQueue := []
  workPending := false
  work := .idle
  faulted := false

/-- The frames that the work item has still to send, the one in hand included. -/
def frames (state : Handlers) : List (Option Nat) :=
  state.mgmtTxQueue ++
    match state.work with
    | .frame vif => [vif]
    | _ => []

/-- Remove frees the interfaces and the hardware when no frame needs them any more, the
rings when the timer is not between its look at them and the lock, and `priv` when the
timer is neither armed nor running. -/
def CallTimely (state : Handlers) : Prop :=
  (state.point = .unregisterHw → ∀ frame ∈ state.frames, frame = none) ∧
    (state.point = .freeHw → state.frames = []) ∧
    (state.point = .dstFree → state.timer ≠ some .wait) ∧
    (state.point = .freePriv → state.armed = false ∧ state.timer = none)

/-- No interrupt comes before `pci_set_drvdata` or after a probe that failed, and none for
the receive ring before the ring is registered. The calls of remove find the frames and the
timer as `CallTimely` has it. -/
def Timely (state : Handlers) : Event → Prop
  | .irqEnter irqStatus => state.point ≠ .setDrvdata ∧ state.point ≠ .failed ∧
      (irqStatus = irqStatuSrngDstDmaTestRing0 → state.places.rings = .registered)
  | .call _ => state.CallTimely
  | _ => True

instance CallTimely.decidable (state : Handlers) : Decidable state.CallTimely :=
  inferInstanceAs (Decidable (_ ∧ _ ∧ _ ∧ _))

instance Timely.decidable (state : Handlers) : ∀ event, Decidable (state.Timely event)
  | .irqEnter _ => inferInstanceAs (Decidable (_ ∧ _ ∧ (_ → _)))
  | .call _ => inferInstanceAs (Decidable state.CallTimely)
  | .irqSchedule | .irqClear | .taskletRun | .taskletLock | .taskletUnlock _ | .timerFire
  | .postCheck _ | .postLock _ | .postBuffer _ | .postUnlock _ _ | .postReturn _ | .tx _
  | .workRun | .workTake | .workFrame => isTrue trivial

end Handlers

end WirelessSimu
