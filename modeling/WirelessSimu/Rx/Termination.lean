import WirelessSimu.Kernel.Ledger
import WirelessSimu.Rx.Delivery

namespace WirelessSimu

open Data Kernel

/-! The receive module and its interrupt path come to an end in every order of their steps:
each step of the driver lowers a measure, as long as memory is there and the device
announces nothing new. -/

namespace Rx

/-- What the driver does by itself while memory and mappings are there. -/
def Event.isGranted : Event → Bool
  | .postBuffer tailroom paddr => tailroom.isSome && paddr.isSome
  | event => event.ofProcess

/-! The measure. A failure that is still to be noticed pays for a whole round of the
timer, and a report for everything that is done to receive it. -/

def roundCost (count : Nat) : Nat := 4 * count + 2

def failureCost (count : Nat) (ret : Int) : Nat :=
  if ret = 0 ∨ ret = -enospc then 0 else roundCost count

def armedCost (count : Nat) : Bool → Nat
  | true => roundCost count
  | false => 0

def lockCost : RxLock → Nat
  | .free => 3
  | .recvBegun _ _ => 2
  | .recvDone _ (.error _) => 1
  | .recvDone _ (.ok _) => 6
  | .postLoop _ _ => 2
  | .enqueueBegun _ _ _ _ _ => 1
  | .enqueueDone _ _ _ _ _ => 3

def drainCost (count : Nat) : Drain → Nat
  | .idle => 0
  | .posted ret => failureCost count ret + 1
  | .wait => 3
  | .post => 4
  | .flush list => list.length + 5
  | .recv list => list.length + 9
  | .took list _ _ => list.length + 11

def postBufCost (count : Nat) : PostBuf → Nat
  | .idle => 0
  | .next pipe => 4 * (count - pipe) + 1
  | .wait pipe => 4 * (count - pipe)
  | .posted pipe ret => 4 * (count - (pipe + 1)) + failureCost count ret + 2

def pipeCost (rx : Rx) (index : Nat) : Nat :=
  8 * ((rx.devices index).reported.length - (rx.received index).length) +
    3 * (rx.pipes index).rxBufNeeded.toNat + drainCost rx.pipesCount (rx.drains index)

def sharedCost (rx : Rx) : Nat :=
  lockCost rx.lock + postBufCost rx.pipesCount rx.initPost +
    postBufCost rx.pipesCount rx.timerPost + armedCost rx.pipesCount rx.retryArmed

def cost (rx : Rx) : Nat :=
  rx.sharedCost + ∑ index ∈ Finset.range rx.pipesCount, rx.pipeCost index

section Cost

variable {layout : RxLayout} {rx next : Rx} {event : Event} {index : Nat}

theorem cost_lt_of_shared (count : next.pipesCount = rx.pipesCount)
    (pipes : ∀ index, next.pipeCost index = rx.pipeCost index)
    (less : next.sharedCost < rx.sharedCost) : next.cost < rx.cost := by
  rw [cost, cost, count, Finset.sum_congr rfl fun index _ => pipes index]
  exact Nat.add_lt_add_right less _

/-- One pipe changes, and the others cost what they did. -/
theorem cost_of_pipe (count : next.pipesCount = rx.pipesCount)
    (inRange : index < rx.pipesCount)
    (others : ∀ other, other ≠ index → next.pipeCost other = rx.pipeCost other) :
    next.cost + (rx.sharedCost + rx.pipeCost index) =
      rx.cost + (next.sharedCost + next.pipeCost index) := by
  obtain ⟨rest, before, after⟩ := sum_range_change inRange others
  rw [cost, cost, count, before, after]
  omega

/-- A tasklet moves and nothing else of its pipe. -/
theorem cost_lt_of_drain (inRange : index < rx.pipesCount) {drain : Drain}
    (count : next.pipesCount = rx.pipesCount) (pipes : next.pipes = rx.pipes)
    (devices : next.devices = rx.devices) (received : next.received = rx.received)
    (drains : next.drains = Function.update rx.drains index drain)
    (less : next.sharedCost + drainCost rx.pipesCount drain <
      rx.sharedCost + drainCost rx.pipesCount (rx.drains index)) :
    next.cost < rx.cost := by
  have sum := cost_of_pipe count inRange fun other apart => by
    rw [pipeCost, pipeCost, count, pipes, devices, received, drains,
      Function.update_of_ne apart]
  have moved : next.pipeCost index + drainCost rx.pipesCount (rx.drains index) =
      rx.pipeCost index + drainCost rx.pipesCount drain := by
    rw [pipeCost, pipeCost, count, pipes, devices, received, drains, Function.update_self]
    omega
  omega

/-- A tasklet that is started costs its loop at least. -/
theorem cost_drainStart (inRange : index < rx.pipesCount) (idle : rx.drains index = .idle) :
    (rx.setDrain index (.recv [])).cost = rx.cost + 9 := by
  have sum := @cost_of_pipe rx (rx.setDrain index (.recv [])) index rfl inRange
    fun other apart => by simp [pipeCost, setDrain, apart]
  have started : (rx.setDrain index (.recv [])).pipeCost index = rx.pipeCost index + 9 := by
    simp [pipeCost, setDrain, idle, drainCost]
  have shared : (rx.setDrain index (.recv [])).sharedCost = rx.sharedCost := rfl
  omega

/-- `post_pipe` returns to its caller with success. -/
theorem postExit_cost (inRange : index < rx.pipesCount) {poster : Poster}
    (held : rx.lock = .postLoop poster index) (at_ : PosterAt rx index poster) :
    (rx.postExit poster index 0).cost < rx.cost := by
  have mild : failureCost rx.pipesCount 0 = 0 := rfl
  cases poster with
  | init =>
      have waiting : rx.initPost = .wait index := at_
      refine cost_lt_of_shared rfl (fun _ => rfl) ?_
      simp only [sharedCost, postExit, held, waiting, lockCost, postBufCost, mild]
      omega
  | timer =>
      have waiting : rx.timerPost = .wait index := at_
      refine cost_lt_of_shared rfl (fun _ => rfl) ?_
      simp only [sharedCost, postExit, held, waiting, lockCost, postBufCost, mild]
      omega
  | drain pipe =>
      obtain ⟨rfl, waiting⟩ := at_
      refine cost_lt_of_drain inRange rfl rfl rfl rfl rfl ?_
      simp only [sharedCost, postExit, setDrain, held, waiting, lockCost, drainCost, mild]
      omega

/-- The measure of a call of `post_buf` is that of its own walk and of the rest. -/
theorem sharedCost_setPostBuf (rx : Rx) (timer : Bool) (postBuf : PostBuf)
    (retryArmed : Bool) :
    Rx.sharedCost { rx.setPostBuf timer postBuf with retryArmed := retryArmed } +
        postBufCost rx.pipesCount (rx.postBuf timer) +
        armedCost rx.pipesCount rx.retryArmed =
      rx.sharedCost + postBufCost rx.pipesCount postBuf +
        armedCost rx.pipesCount retryArmed := by
  cases timer with
  | false =>
      simp only [sharedCost, setPostBuf, Rx.postBuf, Bool.false_eq_true, if_false]
      omega
  | true =>
      simp only [sharedCost, setPostBuf, Rx.postBuf, if_true]
      omega

theorem cost_lt_of_postBuf {timer : Bool} {postBuf : PostBuf} {retryArmed : Bool}
    (less : postBufCost rx.pipesCount postBuf + armedCost rx.pipesCount retryArmed <
      postBufCost rx.pipesCount (rx.postBuf timer) +
        armedCost rx.pipesCount rx.retryArmed) :
    Rx.cost { rx.setPostBuf timer postBuf with retryArmed := retryArmed } < rx.cost := by
  have shared := sharedCost_setPostBuf rx timer postBuf retryArmed
  have received := (PostBufFrame.set rx timer postBuf).received
  refine cost_lt_of_shared ?_ (fun _ => ?_) (by omega)
  · simp
  · simp [pipeCost, received]

theorem cost_setPostBuf_lt {timer : Bool} {postBuf : PostBuf}
    (less : postBufCost rx.pipesCount postBuf <
      postBufCost rx.pipesCount (rx.postBuf timer)) :
    (rx.setPostBuf timer postBuf).cost < rx.cost := by
  have same : { rx.setPostBuf timer postBuf with retryArmed := rx.retryArmed } =
      rx.setPostBuf timer postBuf := by
    cases timer with
    | false => rfl
    | true => rfl
  rw [← same]
  exact cost_lt_of_postBuf (by omega)

/-- A failure that arms the timer was paid for. -/
theorem armedCost_or (count : Nat) (armed : Bool) (ret : Int) :
    armedCost count (armed || (ret ≠ 0 && ret ≠ -enospc)) ≤
      armedCost count armed + failureCost count ret := by
  cases armed with
  | true => simp
  | false =>
      by_cases mild : ret = 0 ∨ ret = -enospc
      · have noFailure : (ret ≠ 0 && ret ≠ -enospc) = false := by
          rcases mild with rfl | rfl
          · rfl
          · rfl
        rw [noFailure]
        exact Nat.le_add_right _ _
      · rw [failureCost, if_neg mild]
        cases (ret ≠ 0 && ret ≠ -enospc : Bool) with
        | true => simp [armedCost]
        | false => simp [armedCost]

end Cost

end Rx

theorem RxInv.posted_bound {layout : RxLayout} {rx : Rx} {index : Nat}
    (inv : RxInv layout rx) (inRange : index < rx.pipesCount) :
    (rx.pipes index).rxBufNeeded.toNat + (rx.enqueued index).length + 2 =
        (rx.received index).length + layout.entries index ∧
      (rx.received index).length ≤ (rx.devices index).reported.length := by
  obtain ⟨dst, status, counts, at_⟩ := inv.pipes index inRange
  exact ⟨at_.inv.posted_bound, at_.inv.received_le⟩

namespace Rx

section Steps

variable {layout : RxLayout} {rx next : Rx} {event : Event} {index : Nat}

/-- What a receive costs later is less than what its report was worth. -/
theorem Step.cost_recvTake (inv : RxInv layout rx) (inv' : RxInv layout next)
    (stepped : Rx.Step rx .recvTake next) : next.cost < rx.cost := by
  cases stepped with
  | @recvTake index swIndex dst status held rings =>
      obtain ⟨counts, at_, inRange, _, ⟨_, outcome⟩ | ⟨hal', skb, nbytes, outcome, _⟩⟩ :=
        inv.recv_outcome held rings
      · rw [outcome, recvResult_error]
        refine cost_lt_of_shared rfl (fun _ => rfl) ?_
        simp only [sharedCost, held, lockCost]
        omega
      · rw [outcome] at inv' ⊢
        obtain ⟨before, _⟩ := inv.posted_bound inRange
        obtain ⟨after, bound⟩ := @RxInv.posted_bound _ _ index inv' inRange
        have sum := @cost_of_pipe rx (rx.recvResult index (hal', (rx.pipes index).take dst
          swIndex, .ok (some skb, nbytes))) index rfl inRange fun other apart => by
            simp [pipeCost, recvResult, setPipe, apart]
        simp only [recvResult, setPipe, Function.update_self, List.length_append,
          List.length_singleton] at after bound sum
        simp only [sharedCost, pipeCost, recvResult, setPipe, Function.update_self,
          List.length_append, List.length_singleton, held, lockCost] at sum ⊢
        omega

/-- A posted buffer is one that is needed less. -/
theorem Step.cost_enqueueStore (inv : RxInv layout rx) (inv' : RxInv layout next)
    (stepped : Rx.Step rx .enqueueStore next) : next.cost < rx.cost := by
  cases stepped with
  | @enqueueStore poster index skb paddr writeIndex dst held ring =>
      obtain ⟨status, counts, hal', desc, at_, inRange, _, outcome, _⟩ :=
        inv.enqueue_ok held ring
      rw [outcome] at inv' ⊢
      obtain ⟨before, _⟩ := inv.posted_bound inRange
      obtain ⟨after, _⟩ := @RxInv.posted_bound _ _ index inv' inRange
      have sum := @cost_of_pipe rx (rx.enqueueResult poster index skb paddr (hal',
        (rx.pipes index).fill dst desc (testDstSetDesc paddr) skb writeIndex, 0)) index rfl
        inRange fun other apart => by simp [pipeCost, enqueueResult, setPipe, apart]
      simp only [enqueueResult, setPipe, Function.update_self, if_true, List.length_append,
        List.length_singleton] at after
      simp only [sharedCost, pipeCost, enqueueResult, setPipe, Function.update_self, held,
        lockCost] at sum ⊢
      omega

theorem Step.cost_lt (inv : RxInv layout rx) (inv' : RxInv layout next)
    (granted : event.isGranted = true) (stepped : Rx.Step rx event next) :
    next.cost < rx.cost := by
  have lock := inv.lock
  rw [LockInv] at lock
  have running : ∀ {index : Nat} {drain : Drain}, rx.drains index = drain → drain ≠ .idle →
      index < rx.pipesCount := by
    rintro index drain rfl busy
    exact inv.drains_lt index busy
  cases stepped with
  | recvTake held rings => exact Step.cost_recvTake inv inv' (.recvTake held rings)
  | enqueueStore held ring => exact Step.cost_enqueueStore inv inv' (.enqueueStore held ring)
  | recvBegin free | drainLock _ free | postBufLock _ free =>
      refine cost_lt_of_shared rfl (fun _ => rfl) ?_
      simp only [sharedCost, free, lockCost]
      omega
  | enqueueBegin held | enqueueEnd held =>
      refine cost_lt_of_shared rfl (fun _ => rfl) ?_
      simp only [sharedCost, held, lockCost]
      omega
  | @recvEnd index result list dst status held receiving rings =>
      refine cost_lt_of_drain (running receiving (by simp)) rfl rfl rfl rfl rfl ?_
      cases result with
      | error code =>
          simp only [sharedCost, setDrain, held, receiving, afterRecv, lockCost, drainCost]
          omega
      | ok entry =>
          simp only [sharedCost, setDrain, held, receiving, afterRecv, lockCost, drainCost]
          omega
  | drainOverlong took long =>
      refine cost_lt_of_drain (running took (by simp)) rfl rfl rfl rfl rfl ?_
      simp only [sharedCost, setDrain, took, drainCost]
      omega
  | drainKeep took fits put =>
      refine cost_lt_of_drain (running took (by simp)) rfl rfl rfl rfl rfl ?_
      simp only [sharedCost, setDrain, took, drainCost, List.length_append,
        List.length_singleton]
      omega
  | flushOne flushing =>
      refine cost_lt_of_drain (running flushing (by simp)) rfl rfl rfl rfl rfl ?_
      simp only [sharedCost, setDrain, flushing, drainCost, List.length_cons]
      omega
  | flushDone flushing =>
      refine cost_lt_of_drain (running flushing (by simp)) rfl rfl rfl rfl rfl ?_
      simp only [sharedCost, setDrain, flushing, drainCost, List.length_nil]
      omega
  | drainPost posting found =>
      refine cost_lt_of_drain (running posting (by simp)) rfl rfl rfl rfl rfl ?_
      simp only [sharedCost, setDrain, posting, drainCost]
      omega
  | @drainReturn index ret posted =>
      refine cost_lt_of_drain (running posted (by simp)) rfl rfl rfl rfl rfl ?_
      have paid := armedCost_or rx.pipesCount rx.retryArmed ret
      simp only [sharedCost, setDrain, posted, drainCost]
      omega
  | timerFire armed idle =>
      refine cost_lt_of_shared rfl (fun _ => rfl) ?_
      simp only [sharedCost, armed, idle, postBufCost, armedCost, roundCost]
      omega
  | postBufWait walking inRange found =>
      refine cost_setPostBuf_lt ?_
      simp only [walking, postBufCost]
      omega
  | postBufDone walking last =>
      refine cost_setPostBuf_lt ?_
      simp only [walking, postBufCost]
      omega
  | postBufOn posted mild =>
      refine cost_setPostBuf_lt ?_
      simp only [posted, postBufCost]
      omega
  | postBufStop posted failed =>
      refine cost_lt_of_postBuf ?_
      simp only [posted, postBufCost, failureCost, if_neg failed, armedCost]
      omega
  | postDone held full =>
      rw [held] at lock
      exact postExit_cost lock.1 held lock.2
  | drainPostNull posting missing =>
      exact absurd missing (inv.rings_ne_none (running posting (by simp)))
  | postBufNull walking inRange missing => exact absurd missing (inv.rings_ne_none inRange)
  | enqueueUndo held failed ring => exact absurd (inv.enqueue_zero held ring) failed
  | postNoMemory | postUnmapped | drainStart | deinit => cases granted
  | deviceConsume | deviceStoreTail | deviceReport | deviceStoreHead => cases granted

theorem Event.isGranted_own (granted : event.isGranted = true) : event.ofProcess = true := by
  cases event with
  | postBuffer => rfl
  | _ => exact granted

theorem Settling.grantedStep {start : Rx} (settling : Settling layout start rx)
    (granted : event.isGranted = true) (stepped : rx.step event = some next) :
    Settling layout start next ∧ next.cost < rx.cost := by
  have after := settling.step (Event.isGranted_own granted) stepped
  obtain ⟨_, taken⟩ := step_cases stepped
  exact ⟨after, taken.cost_lt settling.undisturbed.inv after.undisturbed.inv granted⟩

/-- While memory is there, `settle` does no more than what is granted. -/
theorem settle_granted {answers : Answers} (granted : Granted answers)
    (picked : settle.event answers rx = some event) : event.isGranted = true := by
  unfold Process.event at picked
  split at picked
  next =>
      cases event with
      | postBuffer tailroom paddr =>
          simp only [settle, tasklet, postBufCall] at picked
          repeat' split at picked
          all_goals cases picked
      | _ => exact settle.own rx _ picked
  next => cases picked; rfl
  next => cases picked; rfl
  next =>
      cases picked
      simp only [Event.isGranted, granted rx, Bool.and_self]
  next => cases picked; rfl
  next => cases picked; rfl

theorem AtRest.stuck (rest : AtRest rx) (granted : event.isGranted = true) :
    rx.step event = none := by
  obtain ⟨⟨free, init, timer, drains⟩, disarmed⟩ := rest
  have calls : ∀ caller, rx.postBuf caller = .idle := by
    intro caller
    cases caller with
    | false => exact init
    | true => exact timer
  cases stepped : rx.step event with
  | none => rfl
  | some next =>
      obtain ⟨_, taken⟩ := step_cases stepped
      cases taken with
      | recvTake at_ | recvEnd at_ | postDone at_ | enqueueBegin at_ | enqueueStore at_
      | enqueueEnd at_ | enqueueUndo at_ =>
          rw [free] at at_
          cases at_
      | recvBegin _ at_ | drainOverlong at_ | drainKeep at_ | flushOne at_ | flushDone at_
      | drainPostNull at_ | drainPost at_ | drainLock at_ | drainReturn at_ =>
          rw [drains] at at_
          cases at_
      | postBufNull at_ | postBufWait at_ | postBufLock at_ | postBufDone at_ | postBufOn at_
      | postBufStop at_ =>
          rw [calls] at at_
          cases at_
      | timerFire armed =>
          rw [disarmed] at armed
          cases armed
      | _ => cases granted

/-- A state in which nothing of the driver can go on is at rest. -/
theorem Settling.rest_of_stuck {start : Rx} (settling : Settling layout start rx)
    (stuck : ∀ event, event.isGranted = true → rx.step event = none) : AtRest rx := by
  have granted : Granted fun _ => (some 0, some 0) := fun _ => ⟨rfl, rfl⟩
  exact ((settling.rests granted).of_stuck fun event picked =>
    stuck event (settle_granted granted picked)).2

end Steps

end Rx

namespace Irq

/-- What goes on by itself while memory is there: no interrupt of another device, and no
head that is announced anew. -/
def Event.isGranted : Event → Bool
  | .rx event => event.isGranted
  | .storeHead => false
  | .enter spurious => !spurious
  | _ => true

def handlerCost : IrqHandler → Nat
  | .idle => 0
  | .clearing => 1
  | .read _ => 12
  | .entered => 13

def deliveryCost : Delivery → Nat
  | .idle => 0
  | .statusWritten => 15
  | .headStored => 16

def scheduledCost : Bool → Nat
  | true => 10
  | false => 0

def pendingCost : Bool → Nat
  | true => 14
  | false => 0

/-- A delivery pays for its interrupt, that one for the handler, and the handler for the
start of the tasklet. -/
def cost (irq : Irq) : Nat :=
  irq.rx.cost + scheduledCost irq.scheduled + handlerCost irq.handler +
    pendingCost irq.pending + deliveryCost irq.delivery

section Steps

variable {layout : RxLayout} {start : Rx} {irq next : Irq} {event : Event}

theorem Event.isGranted_silent (granted : event.isGranted = true) : event.silent = true := by
  cases event with
  | rx event => exact Rx.Event.isGranted_own granted
  | storeHead => cases granted
  | _ => rfl

theorem cost_setRegister (rx : Rx) (hal : Hal) : Rx.cost { rx with hal := hal } = rx.cost :=
  rfl

theorem Settling.cost_lt (settling : Settling layout start irq)
    (granted : event.isGranted = true) (stepped : irq.step event = some next) :
    next.cost < irq.cost := by
  cases event with
  | rx event =>
      simp only [Irq.step] at stepped
      split at stepped
      next =>
          obtain ⟨rx, taken, rfl⟩ := Option.map_eq_some_iff.mp stepped
          have less := (settling.rx.grantedStep granted taken).2
          simp only [cost]
          omega
      next => contradiction
  | storeHead => cases granted
  | writeStatus =>
      simp only [Irq.step] at stepped
      split at stepped
      next stored =>
          cases stepped
          simp only [cost, cost_setRegister, stored, deliveryCost, setRegister]
          omega
      next => contradiction
  | raise =>
      simp only [Irq.step] at stepped
      split at stepped
      next written =>
          cases stepped
          simp only [cost, written, deliveryCost, pendingCost]
          omega
      next => contradiction
  | enter spurious =>
      cases spurious with
      | true => cases granted
      | false =>
          simp only [Irq.step] at stepped
          split at stepped
          next ready =>
              cases stepped
              obtain ⟨idle, flag | pending⟩ := ready
              · cases flag
              · simp only [cost, idle, pending, handlerCost, pendingCost, Bool.and_true]
                omega
          next => contradiction
  | readStatus =>
      simp only [Irq.step] at stepped
      split at stepped
      next entered =>
          cases stepped
          simp only [cost, entered, handlerCost]
          omega
      next => contradiction
  | schedule =>
      simp only [Irq.step] at stepped
      split at stepped
      next irqStatus atRead =>
          cases stepped
          have flag : ∀ set : Bool, scheduledCost set ≤ 10 := by
            intro set
            cases set with
            | true => exact Nat.le_refl _
            | false => exact Nat.zero_le _
          have paid := flag (irq.scheduled || irqStatus == irqStatuSrngDstDmaTestRing0)
          simp only [cost, atRead, handlerCost]
          omega
      next => contradiction
  | clear =>
      simp only [Irq.step] at stepped
      split at stepped
      next clearing =>
          cases stepped
          simp only [cost, cost_setRegister, clearing, handlerCost, setRegister]
          omega
      next => contradiction
  | taskletRun =>
      simp only [Irq.step] at stepped
      split at stepped
      next scheduled =>
          obtain ⟨rx, taken, rfl⟩ := Option.map_eq_some_iff.mp stepped
          obtain ⟨_, moved⟩ := Rx.step_cases taken
          cases moved with
          | drainStart inRange idle =>
              have started := Rx.cost_drainStart inRange idle
              simp only [cost, started, scheduled, scheduledCost]
              omega
      next => contradiction

theorem Settling.grantedStep (settling : Settling layout start irq)
    (granted : event.isGranted = true) (seen : irq.StatusSeen event)
    (stepped : irq.step event = some next) :
    Settling layout start next ∧ next.cost < irq.cost :=
  ⟨settling.step (Event.isGranted_silent granted) seen stepped,
    settling.cost_lt granted stepped⟩

theorem settle_granted {answers : Rx.Answers} (granted : Rx.Granted answers)
    (picked : irq.settle answers = some event) : event.isGranted = true := by
  cases Picked.of_settle picked with
  | rx running => exact Rx.settle_granted granted running
  | _ => rfl

theorem Quiescent.stuck (quiescent : irq.Quiescent) (rest : irq.rx.AtRest)
    (granted : event.isGranted = true) : irq.step event = none := by
  obtain ⟨pending, handler, scheduled, _, delivery⟩ := quiescent
  cases event with
  | rx event =>
      have nothing : irq.rx.step event = none := rest.stuck granted
      simp [Irq.step, nothing]
  | enter spurious =>
      cases spurious with
      | true => cases granted
      | false => simp [Irq.step, pending]
  | storeHead => cases granted
  | _ => simp [Irq.step, handler, scheduled, delivery]

/-- A state in which nothing can go on is quiet. -/
theorem Settling.quiet_of_stuck (settling : Settling layout start irq)
    (stuck : ∀ event, event.isGranted = true → irq.StatusSeen event →
      irq.step event = none) : irq.rx.AtRest ∧ irq.Quiescent := by
  have granted : Rx.Granted fun _ => (some 0, some 0) := fun _ => ⟨rfl, rfl⟩
  exact ((settling.quiesces granted).of_stuck fun event picked =>
    stuck event (settle_granted granted picked) (settle_seen picked)).2

end Steps

end Irq

section Runs

variable {hal hal' : Hal} {count : Nat} {memory : Nat → Fin 3 → RingMemory}
  {attrs : Nat → SrngTestAttr} {pipes : Nat → SrngTestPipe}

/-- Whatever the order of their steps, the parts of the driver that are under way make
`cost` steps at most, and where none of them can go on the module has recovered. -/
theorem rx_terminates (table : RxTable hal.srngConfig)
    (twoLe : ∀ index, index < count →
      2 ≤ (ringEntries (attrs index).destNentries).toNat)
    (done : dstTestSetup hal count memory attrs = (hal', pipes, none))
    {events : List Rx.Event} {rx : Rx}
    (reached : run Rx.step (.start hal' count pipes) events = some rx)
    (live : rx.live = true) {more : List Rx.Event} {final : Rx}
    (granted : ∀ event ∈ more, event.isGranted = true)
    (continued : run Rx.step rx more = some final) :
    more.length ≤ rx.cost ∧
      ((∀ event : Rx.Event, event.isGranted = true → final.step event = none) →
        rx.Recovered attrs count final) := by
  obtain ⟨rfl, settling⟩ := Rx.Settling.reached table twoLe done reached live
  have meets : Meets Rx.step (fun _ event => event.isGranted = true) rx more :=
    .of_forall (fun event member _ => granted event member) rx
  have bound := meets.length_le (Rx.Settling (rxLayout hal.srngConfig attrs) rx) Rx.cost
    (fun _ _ _ granted stepped settling => settling.grantedStep granted stepped)
    continued settling
  have after := meets.invariant (Rx.Settling (rxLayout hal.srngConfig attrs) rx)
    (fun _ _ _ granted stepped settling => (settling.grantedStep granted stepped).1)
    continued settling
  exact ⟨by omega, fun stuck => after.recovered (after.rest_of_stuck stuck)⟩

/-- With one pipe there is one tasklet. -/
theorem RxInv.drains_idle {layout : RxLayout} {rx : Rx} (inv : RxInv layout rx)
    (one : rx.pipesCount = 1) (idle : rx.drains 0 = .idle) (index : Nat) :
    rx.drains index = .idle := by
  by_contra busy
  have inRange := inv.drains_lt index busy
  rw [one, Nat.lt_one_iff] at inRange
  rw [inRange] at busy
  exact busy idle

/-- The retry timer and the tasklet take turns, from the middle of a `recv_next`. -/
def mixedEvents : List Rx.Event :=
  [.postBufNext true, .recvEnd, .postBufLock true, .drainTake 0,
    .postBuffer (some 2048) (some 0x6000), .enqueueStore, .enqueueEnd,
    .postBuffer (some 2048) (some 0x7000), .enqueueStore, .enqueueEnd,
    .postBuffer (some 2048) (some 0x8000), .recvBegin 0, .recvTake,
    .postBufReturn true, .recvEnd, .postBufNext true, .drainFlush 0, .drainFlush 0,
    .drainPost 0, .drainLock 0, .postBuffer (some 2048) (some 0x8000), .drainReturn 0]

theorem rx_terminates_mixed :
    ∃ rx final, run Rx.step (.start smallSetup.1 1 smallSetup.2.1) halfwayEvents = some rx ∧
      run Rx.step rx mixedEvents = some final ∧ mixedEvents.length ≤ rx.cost ∧
      final.Quiet ∧ (final.pipes 0).rxBufNeeded = 0 := by
  have seen : ((run Rx.step (.start smallSetup.1 1 smallSetup.2.1) halfwayEvents).bind
      fun rx => (run Rx.step rx mixedEvents).map fun final =>
        (rx.live && final.live && final.lock.isFree, final.initPost, final.timerPost,
          final.drains 0, final.retryArmed)) =
      some (true, .idle, .idle, .idle, false) := by decide +kernel
  obtain ⟨rx, reached, after⟩ := Option.bind_eq_some_iff.mp seen
  obtain ⟨final, continued, values⟩ := Option.map_eq_some_iff.mp after
  simp only [Prod.mk.injEq, Bool.and_eq_true] at values
  obtain ⟨⟨⟨live, alive⟩, free⟩, init, timer, drain, disarmed⟩ := values
  obtain ⟨bound, recovers⟩ :=
    rx_terminates hwSrngConfigTemplate_table (fun _ _ => by decide +kernel) smallSetup_done
      reached live (by decide : ∀ event ∈ mixedEvents, event.isGranted = true) continued
  have whole : run Rx.step (.start smallSetup.1 1 smallSetup.2.1)
      (halfwayEvents ++ mixedEvents) = some final := by
    rw [run_append, reached, Option.bind_some, continued]
  have inv := Rx.Settling.reached hwSrngConfigTemplate_table
    (fun _ _ => by decide +kernel) smallSetup_done whole alive
  have drains := inv.2.undisturbed.inv.drains_idle inv.1 drain
  have rest : final.AtRest := ⟨⟨RxLock.eq_free free, init, timer, drains⟩, disarmed⟩
  have recovered := recovers fun _ granted => rest.stuck granted
  exact ⟨rx, final, reached, continued, bound, recovered.quiet, recovered.full 0 Nat.one_pos⟩

/-- Whatever the order of the steps of the handler, the device's delivery and the receive
module, they make `cost` steps at most, and where none can be made all is served. -/
theorem irq_terminates (table : RxTable hal.srngConfig)
    (twoLe : ∀ index, index < count →
      2 ≤ (ringEntries (attrs index).destNentries).toNat)
    (done : dstTestSetup hal count memory attrs = (hal', pipes, none))
    (first : 0 < count) {events : List Irq.Event} {irq : Irq}
    (meets : Meets Irq.step Irq.StatusSeen (.start (.start hal' count pipes)) events)
    (reached : run Irq.step (.start (.start hal' count pipes)) events = some irq)
    {more : List Irq.Event} {final : Irq}
    (granted : ∀ event ∈ more, event.isGranted = true)
    (seen : Meets Irq.step Irq.StatusSeen irq more)
    (continued : run Irq.step irq more = some final) :
    more.length ≤ irq.cost ∧
      ((∀ event : Irq.Event, event.isGranted = true → final.StatusSeen event →
          final.step event = none) → irq.Served attrs count final) := by
  obtain ⟨rfl, settling⟩ := Irq.Settling.reached table twoLe done first meets reached
  have all : Meets Irq.step (fun _ event => event.isGranted = true) irq more :=
    .of_forall (fun event member _ => granted event member) irq
  have both := all.and seen
  have bound := both.length_le (Irq.Settling (rxLayout hal.srngConfig attrs) irq.rx) Irq.cost
    (fun _ _ _ ok stepped settling => settling.grantedStep ok.1 ok.2 stepped)
    continued settling
  have after := both.invariant (Irq.Settling (rxLayout hal.srngConfig attrs) irq.rx)
    (fun _ _ _ ok stepped settling => (settling.grantedStep ok.1 ok.2 stepped).1)
    continued settling
  refine ⟨by omega, fun stuck => ?_⟩
  obtain ⟨rest, quiescent⟩ := after.quiet_of_stuck stuck
  exact settling.served after rest quiescent

/-- The handler that read too early returns, the device announces its head, and the tasklet
starts before the handler clears the register. -/
def servedEvents : List Irq.Event :=
  [.schedule, .clear, .writeStatus, .raise, .enter false, .readStatus, .schedule, .taskletRun,
    .rx (.recvBegin 0), .clear, .rx .recvTake, .rx .recvEnd, .rx (.drainTake 0),
    .rx (.recvBegin 0), .rx .recvTake, .rx .recvEnd, .rx (.drainFlush 0), .rx (.drainFlush 0),
    .rx (.drainPost 0), .rx (.drainLock 0), .rx (.postBuffer (some 2048) (some 0x7000)),
    .rx .enqueueStore, .rx .enqueueEnd, .rx (.postBuffer (some 2048) (some 0x8000)),
    .rx (.drainReturn 0)]

theorem irq_terminates_served :
    ∃ irq final, run Irq.step (.start (.start smallSetup.1 1 smallSetup.2.1))
        halfAnnounced = some irq ∧
      run Irq.step irq servedEvents = some final ∧ servedEvents.length ≤ irq.cost ∧
      final.Quiescent ∧ (irq.rx.received 0).length = 0 ∧
      (final.rx.received 0).length = 1 := by
  have nothing : (run Irq.step (.start (.start smallSetup.1 1 smallSetup.2.1))
      halfAnnounced).map (fun irq => (irq.rx.received 0).length) = some 0 := by
    decide +kernel
  have quiet : (run Irq.step (.start (.start smallSetup.1 1 smallSetup.2.1))
      (halfAnnounced ++ servedEvents)).map (fun irq => (irq.pending, irq.handler,
        irq.scheduled, irq.rx.drains 0, irq.delivery)) =
      some (false, .idle, false, .idle, .idle) := by decide +kernel
  have idle : (run Irq.step (.start (.start smallSetup.1 1 smallSetup.2.1))
      (halfAnnounced ++ servedEvents)).map (fun irq => (irq.rx.lock.isFree,
        irq.rx.initPost, irq.rx.timerPost, irq.rx.retryArmed, (irq.rx.received 0).length)) =
      some (true, .idle, .idle, false, 1) := by decide +kernel
  obtain ⟨irq, reached, unread⟩ := Option.map_eq_some_iff.mp nothing
  obtain ⟨final, whole, values⟩ := Option.map_eq_some_iff.mp quiet
  rw [whole, Option.map_some, Option.some_inj] at idle
  simp only [Prod.mk.injEq] at values idle
  obtain ⟨pending, handler, scheduled, drain, delivery⟩ := values
  obtain ⟨free, init, timer, disarmed, one⟩ := idle
  have continued : run Irq.step irq servedEvents = some final := by
    rw [run_append, reached, Option.bind_some] at whole
    exact whole
  have meets : Meets Irq.step Irq.StatusSeen
      (.start (.start smallSetup.1 1 smallSetup.2.1)) (halfAnnounced ++ servedEvents) := by
    decide +kernel
  obtain ⟨before, later⟩ := Meets.append.mp meets
  obtain ⟨bound, serves⟩ :=
    irq_terminates hwSrngConfigTemplate_table (fun _ _ => by decide +kernel) smallSetup_done
      Nat.one_pos before reached
      (by decide : ∀ event ∈ servedEvents, event.isGranted = true) (later irq reached)
      continued
  have settling := Irq.Settling.reached hwSrngConfigTemplate_table
    (fun _ _ => by decide +kernel) smallSetup_done Nat.one_pos meets whole
  have drains := settling.2.sound.inv.rx.drains_idle settling.1 drain
  have rest : final.rx.AtRest := ⟨⟨RxLock.eq_free free, init, timer, drains⟩, disarmed⟩
  have quiescent : final.Quiescent := ⟨pending, handler, scheduled, drain, delivery⟩
  have served := serves fun _ granted _ => quiescent.stuck rest granted
  exact ⟨irq, final, reached, continued, bound, served.quiescent, unread, one⟩

end Runs

end WirelessSimu
