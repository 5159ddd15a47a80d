import WirelessSimu.Rx.Agreement
import WirelessSimu.Rx.Footprint

namespace WirelessSimu

open Data Kernel

/-! The interrupt path of pipe 0: the device's delivery, `wireless_simu_irq_handler`
and the tasklet that it schedules, on top of the receive module. -/

def wirelessRegBasicIrqStatus : UInt32 := 2

def irqStatuSrngDstDmaTestRing0 : UInt32 := 1

def irqStatusReg : UInt32 := halBasicReg wirelessRegBasicIrqStatus

inductive IrqHandler where
  | idle
  | entered
  | read (irqStatus : UInt32)
  | clearing
  deriving DecidableEq, Repr

/-- How far the device is with announcing a head that it stored. -/
inductive Delivery where
  | idle
  | headStored
  | statusWritten
  deriving DecidableEq, Repr

structure Irq where
  rx : Rx
  pending : Bool
  handler : IrqHandler
  scheduled : Bool
  delivery : Delivery

namespace Irq

inductive Event where
  | rx (event : Rx.Event)
  | storeHead
  | writeStatus
  | raise
  | enter (spurious : Bool)
  | readStatus
  | schedule
  | clear
  | taskletRun
  deriving DecidableEq, Repr

/-- The steps of the receive module that run on their own. A drain starts as a tasklet
only, and the head word of pipe 0 is stored as part of a delivery. -/
def free : Rx.Event → Bool
  | .drainStart _ | .deviceStoreHead 0 | .deinit => false
  | _ => true

def setRegister (irq : Irq) (value : UInt32) : Irq :=
  { irq with rx := { irq.rx with hal := hifWrite32 irq.rx.hal irqStatusReg value } }

def step (irq : Irq) : Event → Option Irq
  | .rx event =>
      if free event then (irq.rx.step event).map fun rx => { irq with rx := rx }
      else none
  | .storeHead =>
      if irq.delivery = .idle then
        (irq.rx.step (.deviceStoreHead 0)).map fun rx =>
          { irq with rx := rx, delivery := .headStored }
      else none
  | .writeStatus =>
      if irq.delivery = .headStored then
        some { irq.setRegister irqStatuSrngDstDmaTestRing0 with
          delivery := .statusWritten }
      else none
  | .raise =>
      if irq.delivery = .statusWritten then
        some { irq with pending := true, delivery := .idle }
      else none
  | .enter spurious =>
      if irq.handler = .idle ∧ (spurious ∨ irq.pending) then
        some { irq with handler := .entered, pending := spurious && irq.pending }
      else none
  | .readStatus =>
      if irq.handler = .entered then
        some { irq with handler := .read (hifRead32 irq.rx.hal irqStatusReg) }
      else none
  | .schedule =>
      match irq.handler with
      | .read irqStatus =>
          some { irq with
            handler := .clearing
            scheduled := irq.scheduled || irqStatus == irqStatuSrngDstDmaTestRing0 }
      | _ => none
  | .clear =>
      if irq.handler = .clearing then
        some { irq.setRegister 0 with handler := .idle }
      else none
  | .taskletRun =>
      if irq.scheduled then
        (irq.rx.step (.drainStart 0)).map fun rx =>
          { irq with rx := rx, scheduled := false }
      else none

def start (rx : Rx) : Irq where
  rx := rx
  pending := false
  handler := .idle
  scheduled := false
  delivery := .idle

/-- No interrupt is pending or about to be raised, and neither the handler nor the
tasklet of pipe 0 runs or will run. -/
structure Quiescent (irq : Irq) : Prop where
  pending : irq.pending = false
  handler : irq.handler = .idle
  scheduled : irq.scheduled = false
  drain : irq.rx.drains 0 = .idle
  delivery : irq.delivery = .idle

/-- The device writes `IRQ_STATUS` between the handler's read and its clear only while
a run of the tasklet is still to come. -/
def StatusSeen (irq : Irq) (event : Event) : Prop :=
  event = .writeStatus → irq.handler = .idle ∨ irq.handler = .entered ∨
    irq.handler = .read irqStatuSrngDstDmaTestRing0 ∨ irq.scheduled = true

instance (irq : Irq) (event : Event) : Decidable (irq.StatusSeen event) :=
  inferInstanceAs (Decidable (_ → _))

end Irq

section Receive

variable {layout : RxLayout} {rx next : Rx} {event : Rx.Event}

/-- The device stored a head of pipe 0 that the driver's tail does not match. -/
def Unseen (layout : RxLayout) (rx : Rx) : Prop :=
  (rx.hal.dstView (layout.statusId 0)).tp ≠ (rx.hal.dstView (layout.statusId 0)).shadow

/-- The drain of pipe 0 will read the head word again, or has read one that it did not
work off yet. -/
inductive Looks (layout : RxLayout) (rx : Rx) : Prop where
  | took {list : List Nat} {skb : Option Nat} {nbytes : UInt32}
      (took : rx.drains 0 = .took list skb nbytes)
  | recv {list : List Nat} (receiving : rx.drains 0 = .recv list)
      (behind : ∀ swIndex, rx.lock = .recvBegun 0 swIndex →
        (rx.hal.dstView (layout.statusId 0)).tp ≠
          (rx.hal.dstView (layout.statusId 0)).cachedHp)
      (running : ∀ code, rx.lock ≠ .recvDone 0 (.error code))

theorem Looks.mono (looks : Looks layout rx) (drains : next.drains 0 = rx.drains 0)
    (view : next.hal.dstView (layout.statusId 0) = rx.hal.dstView (layout.statusId 0))
    (lock : next.lock = rx.lock ∨ (∀ swIndex, next.lock ≠ .recvBegun 0 swIndex) ∧
      ∀ code, next.lock ≠ .recvDone 0 (.error code)) : Looks layout next := by
  cases looks with
  | took took =>
      rw [← drains] at took
      exact .took took
  | recv receiving behind running =>
      rw [← drains] at receiving
      rcases lock with same | ⟨notBegun, notDone⟩
      · refine .recv receiving ?_ ?_
        · rw [same, view]
          exact behind
        · rw [same]
          exact running
      · exact .recv receiving (fun swIndex begun => absurd begun (notBegun swIndex)) notDone

/-- What a step leaves to be woken up for: either the drain looks, or it was so before
and the drain did not look. -/
def Carried (layout : RxLayout) (rx next : Rx) : Prop :=
  Unseen layout next → Looks layout next ∨ Unseen layout rx ∧ ¬ Looks layout rx

theorem Carried.of_looks (looks : Unseen layout next → Looks layout next) :
    Carried layout rx next :=
  fun unseen => .inl (looks unseen)

theorem Carried.same
    (tp : (next.hal.dstView (layout.statusId 0)).tp =
      (rx.hal.dstView (layout.statusId 0)).tp)
    (shadow : (next.hal.dstView (layout.statusId 0)).shadow =
      (rx.hal.dstView (layout.statusId 0)).shadow)
    (mono : Looks layout rx → Unseen layout rx → Looks layout next) :
    Carried layout rx next := by
  intro unseen
  have before : Unseen layout rx := by
    unfold Unseen at unseen ⊢
    rw [← tp, ← shadow]
    exact unseen
  by_cases looks : Looks layout rx
  · exact .inl (mono looks before)
  · exact .inr ⟨before, looks⟩

theorem Carried.still (view : next.hal.dstView (layout.statusId 0) =
      rx.hal.dstView (layout.statusId 0))
    (drains : next.drains 0 = rx.drains 0)
    (lock : next.lock = rx.lock ∨ (∀ swIndex, next.lock ≠ .recvBegun 0 swIndex) ∧
      ∀ code, next.lock ≠ .recvDone 0 (.error code)) : Carried layout rx next :=
  .same (by rw [view]) (by rw [view]) fun looks _ => looks.mono drains view lock

theorem Carried.blind (view : next.hal.dstView (layout.statusId 0) =
      rx.hal.dstView (layout.statusId 0)) (blind : ¬ Looks layout rx) :
    Carried layout rx next :=
  .same (by rw [view]) (by rw [view]) fun looks => absurd looks blind

theorem not_looks (notTook : ∀ list skb nbytes, rx.drains 0 ≠ .took list skb nbytes)
    (notRecv : ∀ list, rx.drains 0 ≠ .recv list) : ¬ Looks layout rx := by
  intro looks
  cases looks with
  | took took => exact notTook _ _ _ took
  | recv receiving => exact notRecv _ receiving

variable {index : Nat} {dst status : SrngTestRing}

/-- A drain that does not hold the lock has the head word still to read. -/
theorem RxInv.looks_setDrain (inv : RxInv layout rx)
    (notRecv : ∀ list, rx.drains 0 ≠ .recv list) (list : List Nat) (buffers : Buffers) :
    Looks layout { rx.setDrain 0 (.recv list) with buffers := buffers } := by
  have lock := inv.lock
  rw [LockInv] at lock
  have receiving : (rx.setDrain 0 (.recv list)).drains 0 = .recv list := by
    simp [Rx.setDrain]
  refine .recv receiving ?_ ?_
  · intro swIndex held
    have begun : rx.lock = .recvBegun 0 swIndex := held
    rw [begun] at lock
    obtain ⟨_, list, at_⟩ := lock
    exact absurd at_ (notRecv list)
  · intro code held
    have finished : rx.lock = .recvDone 0 (.error code) := held
    rw [finished] at lock
    obtain ⟨_, list, at_⟩ := lock
    exact absurd at_ (notRecv list)

theorem RxInv.carried_recvBegin (inv : RxInv layout rx) {list : List Nat}
    (receiving : rx.drains index = .recv list)
    (rings : rx.rings index = some (dst, status)) :
    Carried layout rx
      { rx with
        hal := halSrngAccessBegin rx.hal status.halRingId.toNat
        lock := .recvBegun index dst.swIndex } := by
  have inRange := inv.drains_lt index (by rw [receiving]; simp)
  obtain ⟨counts, at_⟩ := inv.at_rings inRange rings
  by_cases first : index = 0
  · subst first
    have view := dstView_accessBegin at_.inv.rings.statusReady
    simp only [RxPipe.statusId, Rx.pipe, at_.statusId_eq] at view
    rw [at_.statusId_eq]
    refine .same (by rw [view]) (by rw [view]) fun _ unseen => ?_
    refine .recv receiving ?_ (by simp)
    intro swIndex _
    rw [view]
    exact unseen
  · have apart := inv.apart.status 0 index (by omega) inRange (Ne.symm first)
    rw [at_.statusId_eq]
    exact .still (agree_accessBegin apart).dstView rfl (.inr ⟨by simp [first], by simp⟩)

theorem RxInv.carried_recvTake (inv : RxInv layout rx) {swIndex : UInt32}
    (held : rx.lock = .recvBegun index swIndex)
    (rings : rx.rings index = some (dst, status)) :
    Carried layout rx (rx.recvResult index
      (testDstRecvNext rx.hal (rx.pipes index) dst status swIndex)) := by
  have lock := inv.lock
  rw [LockInv, held] at lock
  obtain ⟨_, list, receiving⟩ := lock
  obtain ⟨counts, at_, inRange, _, outcomes⟩ := inv.recv_outcome held rings
  by_cases first : index = 0
  · subst first
    obtain ⟨caught, outcome⟩ | ⟨hal', skb, nbytes, outcome, _⟩ := outcomes
    · -- Nothing was left of the head that `access_begin` read.
      have sink := at_.inv.sink
      simp only [RxPipe.statusId, Rx.pipe, at_.statusId_eq, caught] at sink
      have equal : (rx.hal.dstView (layout.statusId 0)).tp =
          (rx.hal.dstView (layout.statusId 0)).cachedHp := by
        rw [← UInt32.toNat_inj, sink.atTp, sink.atCached]
      have blind : ¬ Looks layout rx := by
        intro looks
        cases looks with
        | took took =>
            rw [receiving] at took
            cases took
        | recv _ behind => exact behind swIndex held equal
      rw [outcome]
      exact .blind rfl blind
    · rw [outcome]
      exact .of_looks fun _ => .recv receiving (by simp [Rx.recvResult])
        (by simp [Rx.recvResult])
  · have apart := inv.apart.status 0 index (by omega) inRange (Ne.symm first)
    rw [← at_.statusId_eq] at apart
    refine .still ?_ rfl (.inr ⟨by simp [Rx.recvResult], by simp [Rx.recvResult, first]⟩)
    obtain ⟨_, outcome⟩ | ⟨hal', skb, nbytes, outcome, _, agree, _⟩ := outcomes
    · rw [outcome]
      rfl
    · rw [outcome]
      exact (agree _ apart).dstView

theorem RxInv.carried_recvEnd (inv : RxInv layout rx)
    {result : Except Int (Option Nat × UInt32)} {list : List Nat}
    (held : rx.lock = .recvDone index result) (receiving : rx.drains index = .recv list)
    (rings : rx.rings index = some (dst, status)) :
    Carried layout rx
      { rx.setDrain index (Rx.afterRecv list result) with
        hal := halSrngAccessEnd rx.hal status.halRingId.toNat
        lock := .free } := by
  have inRange := inv.drains_lt index (by rw [receiving]; simp)
  obtain ⟨counts, at_⟩ := inv.at_rings inRange rings
  by_cases first : index = 0
  · subst first
    have view := dstView_accessEnd at_.inv.rings.statusReady
    simp only [RxPipe.statusId, Rx.pipe, at_.statusId_eq] at view
    rw [at_.statusId_eq]
    refine .same (by simp only [view]) (by simp only [view]) fun looks _ => ?_
    cases result with
    | error code =>
        cases looks with
        | took took =>
            rw [receiving] at took
            cases took
        | recv _ _ running => exact absurd held (running code)
    | ok entry =>
        have took : (rx.setDrain 0 (Rx.afterRecv list (.ok entry))).drains 0 =
            .took list entry.1 entry.2 := by
          simp [Rx.setDrain, Rx.afterRecv]
        exact .took took
  · obtain ⟨dst', status', counts', own⟩ := inv.pipes 0 (by omega)
    have apart := inv.apart.status 0 index (by omega) inRange (Ne.symm first)
    rw [← at_.statusId_eq] at apart
    refine .still (agree_accessEnd at_.inv.rings.statusReady
      at_.inv.rings.statusDirect own.statusDirect apart).dstView ?_ (.inr (by simp))
    simp [Rx.setDrain, Ne.symm first]

theorem RxInv.carried_setDrain (inv : RxInv layout rx) {drain : Drain}
    {buffers : Buffers} {retryArmed : Bool}
    (drains : (∀ list, rx.drains index ≠ .recv list) ∧
      ((∃ list, drain = .recv list) ∨
        ∀ list skb nbytes, rx.drains index ≠ .took list skb nbytes)) :
    Carried layout rx { rx.setDrain index drain with
      buffers := buffers, retryArmed := retryArmed } := by
  obtain ⟨notRecv, moves⟩ := drains
  by_cases first : index = 0
  · subst first
    rcases moves with ⟨list, rfl⟩ | notTook
    · refine .of_looks fun _ => (inv.looks_setDrain notRecv list buffers).mono rfl rfl ?_
      exact .inl rfl
    · exact .blind rfl (not_looks notTook notRecv)
  · refine .still rfl ?_ (.inl rfl)
    simp [Rx.setDrain, Ne.symm first]

theorem RxInv.carried_postExit (inv : RxInv layout rx) {poster : Poster}
    (held : rx.lock = .postLoop poster index) (buffers : Buffers) (ret : Int) :
    Carried layout rx ({ rx with buffers := buffers }.postExit poster index ret) := by
  have lock := inv.lock
  rw [LockInv, held] at lock
  obtain ⟨_, posting⟩ := lock
  have unlocked : ∀ state : RxLock, state = .free →
      (∀ swIndex, state ≠ .recvBegun 0 swIndex) ∧
        ∀ code, state ≠ .recvDone 0 (.error code) := by
    rintro state rfl
    simp
  cases poster with
  | init => exact .still rfl rfl (.inr (unlocked _ rfl))
  | timer => exact .still rfl rfl (.inr (unlocked _ rfl))
  | drain pipe =>
      obtain ⟨rfl, atPost⟩ := posting
      by_cases first : pipe = 0
      · subst first
        exact .blind rfl (not_looks (by simp [atPost]) (by simp [atPost]))
      · refine .still rfl ?_ (.inr (unlocked _ rfl))
        simp [Rx.postExit, Rx.setDrain, Ne.symm first]

theorem RxInv.carried (inv : RxInv layout rx) (first : 0 < rx.pipesCount)
    (stepped : Rx.Step rx event next) (live : next.live = true)
    (notHead : event ≠ .deviceStoreHead 0) : Carried layout rx next := by
  have lock := inv.lock
  rw [LockInv] at lock
  obtain ⟨dst0, status0, counts0, own⟩ := inv.pipes 0 first
  have cross : ∀ index, index < rx.pipesCount →
      layout.statusId 0 ≠ layout.dstId index := fun index inRange =>
    (inv.apart.cross index 0 inRange first).symm
  cases stepped with
  | drainStart inRange idle =>
      exact inv.carried_setDrain ⟨by simp [idle], .inl ⟨[], rfl⟩⟩
  | recvBegin free receiving rings => exact inv.carried_recvBegin receiving rings
  | recvTake held rings => exact inv.carried_recvTake held rings
  | recvEnd held receiving rings => exact inv.carried_recvEnd held receiving rings
  | drainOverlong took long =>
      exact inv.carried_setDrain ⟨by simp [took], .inl ⟨_, rfl⟩⟩
  | drainKeep took fits put =>
      exact inv.carried_setDrain ⟨by simp [took], .inl ⟨_, rfl⟩⟩
  | flushOne flushing =>
      exact inv.carried_setDrain ⟨by simp [flushing], .inr (by simp [flushing])⟩
  | flushDone flushing =>
      exact inv.carried_setDrain ⟨by simp [flushing], .inr (by simp [flushing])⟩
  | drainPostNull posting missing | drainPost posting found =>
      exact inv.carried_setDrain ⟨by simp [posting], .inr (by simp [posting])⟩
  | drainReturn posted =>
      exact inv.carried_setDrain ⟨by simp [posted], .inr (by simp [posted])⟩
  | drainLock | postBufLock => exact .still rfl rfl (.inr (by simp))
  | postBufNull | postBufWait | postBufDone | postBufOn | postBufStop =>
      exact .still (by simp) (by simp) (.inl (by simp))
  | postDone held full => exact inv.carried_postExit held rx.buffers 0
  | postNoMemory held needed => exact inv.carried_postExit held rx.buffers _
  | postUnmapped held needed => exact inv.carried_postExit held _ _
  | enqueueBegin held needed ring =>
      rw [held] at lock
      obtain ⟨status, counts, at_⟩ := inv.at_dst lock.1 ring
      have apart := cross _ lock.1
      rw [← at_.dstId_eq] at apart
      exact .still (agree_accessBegin apart).dstView rfl (.inr (by simp))
  | enqueueStore held ring =>
      obtain ⟨status, counts, hal', desc, at_, inRange, _, stored, agree, _⟩ :=
        inv.enqueue_ok held ring
      have apart := cross _ inRange
      rw [← at_.dstId_eq] at apart
      rw [stored]
      exact .still (agree _ apart).dstView rfl (.inr (by simp [Rx.enqueueResult]))
  | enqueueEnd held ring =>
      rw [held] at lock
      obtain ⟨status, counts, at_⟩ := inv.at_dst lock.1 ring
      have apart := cross _ lock.1
      rw [← at_.dstId_eq] at apart
      exact .still (agree_accessEnd at_.inv.rings.dstReady at_.inv.rings.dstDirect
        own.statusDirect apart).dstView rfl (.inr (by simp))
  | enqueueUndo held failed ring => exact absurd (inv.enqueue_zero held ring) failed
  | @deviceStoreTail index dst inRange ring =>
      obtain ⟨status, counts, at_⟩ := inv.at_dst inRange ring
      have apart := cross index inRange
      rw [← at_.dstId_eq] at apart
      rw [at_.tpAddr_eq]
      exact .still (agree_store_shadow at_.inv.rings.dstDirect own.statusDirect apart
        (rx.devices index).tail).dstView rfl (.inl rfl)
  | @deviceStoreHead index status inRange ring =>
      obtain ⟨dst, counts, at_⟩ := inv.at_status inRange ring
      have other : 0 ≠ index := by
        rintro rfl
        exact notHead rfl
      have apart := inv.apart.status 0 index first inRange other
      rw [← at_.statusId_eq] at apart
      rw [at_.hpAddr_eq]
      exact .still (agree_store_shadow at_.inv.rings.statusDirect own.statusDirect apart
        (rx.devices index).head).dstView rfl (.inl rfl)
  | deinit free initialised quiet => contradiction
  | _ => exact .still rfl rfl (.inl rfl)

end Receive

/-- Who will make the drain look at the head word. The code in `IRQ_STATUS` counts only
while the handler has it still to read. -/
inductive Woken (layout : RxLayout) (irq : Irq) : Prop where
  | delivering (stored : irq.delivery = .headStored)
  | signalled (code : hifRead32 irq.rx.hal irqStatusReg = irqStatuSrngDstDmaTestRing0)
      (early : irq.handler = .idle ∧
          (irq.pending = true ∨ irq.delivery = .statusWritten) ∨
        irq.handler = .entered)
  | matched (read : irq.handler = .read irqStatuSrngDstDmaTestRing0)
  | scheduled (set : irq.scheduled = true)
  | looks (looks : Looks layout irq.rx)

structure IrqInv (layout : RxLayout) (irq : Irq) : Prop where
  rx : RxInv layout irq.rx
  live : irq.rx.live = true
  first : 0 < irq.rx.pipesCount
  woken : Unseen layout irq.rx → Woken layout irq

section Handler

variable {layout : RxLayout} {irq next : Irq}

theorem irqStatusReg_plain : PlainRegister irqStatusReg := .of_low (by decide)

theorem IrqInv.setRegister (inv : IrqInv layout irq) (value : UInt32) :
    RxInv layout (irq.setRegister value).rx ∧
      (Unseen layout (irq.setRegister value).rx ↔ Unseen layout irq.rx) ∧
      (Looks layout irq.rx → Looks layout (irq.setRegister value).rx) := by
  have agrees := inv.rx.agree_register irqStatusReg_plain value
  have agree := (agrees 0 inv.first).2
  refine ⟨inv.rx.of_agree agrees, ?_, fun looks => ?_⟩
  · simp only [Unseen, Irq.setRegister, agree.dstView]
  · exact looks.mono rfl agree.dstView (.inl rfl)

theorem IrqInv.rxStep (inv : IrqInv layout irq) {event : Rx.Event} {rx : Rx}
    (free : Irq.free event = true) (stepped : irq.rx.step event = some rx) :
    IrqInv layout { irq with rx := rx } := by
  obtain ⟨alive, taken⟩ := Rx.step_cases stepped
  have live : rx.live = true := by
    rcases taken.live_or_deinit alive with stays | rfl
    · exact stays
    · cases free
  have notHead : event ≠ .deviceStoreHead 0 := by
    rintro rfl
    cases free
  have register : hifRead32 rx.hal irqStatusReg = hifRead32 irq.rx.hal irqStatusReg :=
    inv.rx.load_plain taken irqStatusReg_plain
  refine ⟨inv.rx.step taken live, live, ?_, fun unseen => ?_⟩
  · simp only [taken.pipesCount_eq]
    exact inv.first
  · rcases inv.rx.carried inv.first taken live notHead unseen with looks |
      ⟨before, blind⟩
    · exact .looks looks
    · cases inv.woken before with
      | delivering stored => exact .delivering stored
      | signalled code early =>
          rw [← register] at code
          exact .signalled code early
      | matched read => exact .matched read
      | scheduled set => exact .scheduled set
      | looks looks => exact absurd looks blind

/-- A step of the handler, by what becomes of a code that it may have seen. -/
theorem IrqInv.handled (inv : IrqInv layout irq) (rx : next.rx = irq.rx)
    (delivery : next.delivery = irq.delivery)
    (kept : irq.scheduled = true → next.scheduled = true)
    (signalled : hifRead32 irq.rx.hal irqStatusReg = irqStatuSrngDstDmaTestRing0 →
      irq.handler = .idle ∨ irq.handler = .entered → Woken layout next)
    (matched : irq.handler = .read irqStatuSrngDstDmaTestRing0 → Woken layout next) :
    IrqInv layout next := by
  refine ⟨?_, ?_, ?_, fun unseen => ?_⟩
  · rw [rx]
    exact inv.rx
  · rw [rx]
    exact inv.live
  · rw [rx]
    exact inv.first
  · rw [rx] at unseen
    cases inv.woken unseen with
    | delivering stored => exact .delivering (delivery.trans stored)
    | signalled code early => exact signalled code (early.imp And.left id)
    | matched read => exact matched read
    | scheduled set => exact .scheduled (kept set)
    | looks looks =>
        rw [← rx] at looks
        exact .looks looks

theorem IrqInv.step (inv : IrqInv layout irq) {event : Irq.Event}
    (seen : irq.StatusSeen event) (stepped : irq.step event = some next) :
    IrqInv layout next := by
  cases event with
  | rx event =>
      simp only [Irq.step] at stepped
      split at stepped
      next free =>
          obtain ⟨rx, taken, rfl⟩ := Option.map_eq_some_iff.mp stepped
          exact inv.rxStep free taken
      next => contradiction
  | storeHead =>
      simp only [Irq.step] at stepped
      split at stepped
      next idle =>
          obtain ⟨rx, taken, rfl⟩ := Option.map_eq_some_iff.mp stepped
          obtain ⟨alive, moved⟩ := Rx.step_cases taken
          have live : rx.live = true := by
            rcases moved.live_or_deinit alive with stays | ended
            · exact stays
            · cases ended
          refine ⟨inv.rx.step moved live, live, ?_, fun _ => .delivering rfl⟩
          simp only [moved.pipesCount_eq]
          exact inv.first
      next => contradiction
  | writeStatus =>
      simp only [Irq.step] at stepped
      split at stepped
      next stored =>
          cases stepped
          obtain ⟨rx, _, _⟩ := inv.setRegister irqStatuSrngDstDmaTestRing0
          have code : hifRead32 (irq.setRegister irqStatuSrngDstDmaTestRing0).rx.hal
              irqStatusReg = irqStatuSrngDstDmaTestRing0 := by
            simp only [Irq.setRegister, hifRead32, hifWrite32, Hal.load_store_self]
          refine ⟨rx, inv.live, inv.first, fun _ => ?_⟩
          rcases seen rfl with idle | entered | read | scheduled
          · exact .signalled code (.inl ⟨idle, .inr rfl⟩)
          · exact .signalled code (.inr entered)
          · exact .matched read
          · exact .scheduled scheduled
      next => contradiction
  | raise =>
      simp only [Irq.step] at stepped
      split at stepped
      next written =>
          cases stepped
          refine ⟨inv.rx, inv.live, inv.first, fun unseen => ?_⟩
          cases inv.woken unseen with
          | delivering stored =>
              rw [written] at stored
              cases stored
          | signalled code early =>
              refine .signalled code ?_
              rcases early with ⟨idle, _⟩ | entered
              · exact .inl ⟨idle, .inl rfl⟩
              · exact .inr entered
          | matched read => exact .matched read
          | scheduled set => exact .scheduled set
          | looks looks => exact .looks looks
      next => contradiction
  | enter spurious =>
      simp only [Irq.step] at stepped
      split at stepped
      next ready =>
          cases stepped
          refine inv.handled rfl rfl id ?_ ?_
          · exact fun code _ => .signalled code (.inr rfl)
          · intro read
            rw [ready.1] at read
            cases read
      next => contradiction
  | readStatus =>
      simp only [Irq.step] at stepped
      split at stepped
      next entered =>
          cases stepped
          refine inv.handled rfl rfl id ?_ ?_
          · exact fun code _ => .matched (by rw [code])
          · intro read
            rw [entered] at read
            cases read
      next => contradiction
  | schedule =>
      simp only [Irq.step] at stepped
      split at stepped
      next irqStatus atRead =>
          cases stepped
          refine inv.handled rfl rfl (fun set => by simp [set]) ?_ ?_
          · intro _ early
            rw [atRead] at early
            rcases early with idle | entered
            · cases idle
            · cases entered
          · intro read
            rw [atRead] at read
            cases read
            exact .scheduled (by simp)
      next => contradiction
  | clear =>
      simp only [Irq.step] at stepped
      split at stepped
      next clearing =>
          cases stepped
          obtain ⟨rx, same, keeps⟩ := inv.setRegister 0
          refine ⟨rx, inv.live, inv.first, fun unseen => ?_⟩
          cases inv.woken (same.mp unseen) with
          | delivering stored => exact .delivering stored
          | signalled _ early =>
              rw [clearing] at early
              simp at early
          | matched read =>
              rw [clearing] at read
              cases read
          | scheduled set => exact .scheduled set
          | looks looks => exact .looks (keeps looks)
      next => contradiction
  | taskletRun =>
      simp only [Irq.step] at stepped
      split at stepped
      next scheduled =>
          obtain ⟨rx, taken, rfl⟩ := Option.map_eq_some_iff.mp stepped
          obtain ⟨alive, moved⟩ := Rx.step_cases taken
          cases moved with
          | drainStart inRange idle =>
              have moved : Rx.Step irq.rx (.drainStart 0)
                  (irq.rx.setDrain 0 (.recv [])) := .drainStart inRange idle
              exact ⟨inv.rx.step moved alive, alive, inv.first, fun _ =>
                .looks (inv.rx.looks_setDrain (by simp [idle]) [] irq.rx.buffers)⟩
      next => contradiction

end Handler

section Runs

variable {hal hal' : Hal} {count : Nat} {memory : Nat → Fin 3 → RingMemory}
  {attrs : Nat → SrngTestAttr} {pipes : Nat → SrngTestPipe}

/-- While no code is written behind the handler's back, a quiescent system has worked
off every head that the device stored. -/
theorem no_lost_interrupt (table : RxTable hal.srngConfig)
    (twoLe : ∀ index, index < count →
      2 ≤ (ringEntries (attrs index).destNentries).toNat)
    (done : dstTestSetup hal count memory attrs = (hal', pipes, none))
    (first : 0 < count) {events : List Irq.Event} {irq : Irq}
    (meets : Meets Irq.step Irq.StatusSeen (.start (.start hal' count pipes)) events)
    (reached : run Irq.step (.start (.start hal' count pipes)) events = some irq)
    (quiescent : irq.Quiescent) :
    ∃ status, (irq.rx.pipes 0).statusRing = some status ∧
      (irq.rx.hal.srngList status.halRingId.toNat).dstRing.tp =
        irq.rx.hal.load
          (irq.rx.hal.srngList status.halRingId.toNat).dstRing.hpAddr := by
  have rx := RxInv.start table twoLe done
  -- A ring right after its setup has its tail at its head.
  have seen : ¬ Unseen (rxLayout hal.srngConfig attrs) (.start hal' count pipes) := by
    obtain ⟨dst, status, counts, at_⟩ := rx.pipes 0 first
    have sink := at_.inv.sink
    have headLe := at_.inv.device.head_le
    simp only [Rx.pipe, Rx.start, List.length_nil, Nat.le_zero] at headLe sink
    rw [headLe] at sink
    simp only [RxPipe.statusId, at_.statusId_eq] at sink
    simp only [Unseen, ne_eq, not_not]
    rw [← UInt32.toNat_inj]
    exact sink.atTp.trans sink.atShadow.symm
  have start : IrqInv (rxLayout hal.srngConfig attrs)
      (.start (.start hal' count pipes)) :=
    ⟨rx, rfl, first, fun unseen => absurd unseen seen⟩
  have inv := meets.invariant (IrqInv (rxLayout hal.srngConfig attrs))
    (fun _ _ _ seen stepped inv => inv.step seen stepped) reached start
  obtain ⟨dst, status, counts, at_⟩ := inv.rx.pipes 0 inv.first
  refine ⟨status, at_.statusRing, ?_⟩
  have worked : ¬ Unseen (rxLayout hal.srngConfig attrs) irq.rx := by
    intro unseen
    cases inv.woken unseen with
    | delivering stored =>
        rw [quiescent.delivery] at stored
        cases stored
    | signalled _ early =>
        simp [quiescent.handler, quiescent.pending, quiescent.delivery] at early
    | matched read =>
        rw [quiescent.handler] at read
        cases read
    | scheduled set =>
        rw [quiescent.scheduled] at set
        cases set
    | looks looks =>
        exact not_looks (by simp [quiescent.drain]) (by simp [quiescent.drain]) looks
  simp only [Unseen, ne_eq, not_not, Hal.dstView] at worked
  rw [at_.hpAddr_eq, at_.statusId_eq]
  exact worked

/-- A frame posted, delivered, announced and drained. -/
def announcedFrame : List Irq.Event :=
  smallPost.map .rx ++ [.rx (.deviceConsume 0), .rx (.deviceStoreTail 0),
    .rx (.deviceReport 0 60 0), .storeHead, .writeStatus, .raise, .enter false,
    .readStatus, .schedule, .clear, .taskletRun, .rx (.recvBegin 0), .rx .recvTake,
    .rx .recvEnd, .rx (.drainTake 0), .rx (.recvBegin 0), .rx .recvTake, .rx .recvEnd,
    .rx (.drainFlush 0), .rx (.drainFlush 0), .rx (.drainPost 0),
    .rx (.drainLock 0), .rx (.postBuffer none none), .rx (.drainReturn 0)]

theorem no_lost_interrupt_frame :
    ∃ irq status, run Irq.step (.start (.start smallSetup.1 1 smallSetup.2.1))
        announcedFrame = some irq ∧ irq.Quiescent ∧
      (irq.rx.pipes 0).statusRing = some status ∧
      (irq.rx.hal.srngList status.halRingId.toNat).dstRing.tp =
        irq.rx.hal.load
          (irq.rx.hal.srngList status.halRingId.toNat).dstRing.hpAddr := by
  have seen : (run Irq.step (.start (.start smallSetup.1 1 smallSetup.2.1))
      announcedFrame).map (fun irq => (irq.pending, irq.handler, irq.scheduled,
        irq.rx.drains 0, irq.delivery)) =
      some (false, .idle, false, .idle, .idle) := by decide +kernel
  obtain ⟨irq, reached, values⟩ := Option.map_eq_some_iff.mp seen
  simp only [Prod.mk.injEq] at values
  obtain ⟨pending, handler, scheduled, drain, delivery⟩ := values
  have quiescent : irq.Quiescent := ⟨pending, handler, scheduled, drain, delivery⟩
  have meets : Meets Irq.step Irq.StatusSeen
      (.start (.start smallSetup.1 1 smallSetup.2.1)) announcedFrame := by decide +kernel
  obtain ⟨status, found, equal⟩ := no_lost_interrupt hwSrngConfigTemplate_table
    (fun _ _ => by decide +kernel) smallSetup_done Nat.zero_lt_one meets reached quiescent
  exact ⟨irq, status, reached, quiescent, found, equal⟩

/-- A handler that was entered for another device reads `IRQ_STATUS` right before the
device writes its code there, and clears the register after it. -/
def eclipsedFrame : List Irq.Event :=
  smallPost.map .rx ++ [.rx (.deviceConsume 0), .rx (.deviceStoreTail 0),
    .rx (.deviceReport 0 60 0), .storeHead, .enter true, .readStatus, .writeStatus,
    .raise, .schedule, .clear, .enter false, .readStatus, .schedule, .clear]

theorem lost_interrupt :
    ∃ irq status, run Irq.step (.start (.start smallSetup.1 1 smallSetup.2.1))
        eclipsedFrame = some irq ∧
      irq.Quiescent ∧ (irq.rx.pipes 0).statusRing = some status ∧
      (irq.rx.hal.srngList status.halRingId.toNat).dstRing.tp ≠
        irq.rx.hal.load
          (irq.rx.hal.srngList status.halRingId.toNat).dstRing.hpAddr := by
  have quiet : (run Irq.step (.start (.start smallSetup.1 1 smallSetup.2.1))
      eclipsedFrame).map (fun irq => (irq.pending, irq.handler, irq.scheduled,
        irq.rx.drains 0, irq.delivery)) =
      some (false, .idle, false, .idle, .idle) := by decide +kernel
  have apart : (run Irq.step (.start (.start smallSetup.1 1 smallSetup.2.1))
      eclipsedFrame).map (fun irq => (irq.rx.pipes 0).statusRing.map fun status =>
        ((irq.rx.hal.srngList status.halRingId.toNat).dstRing.tp,
          irq.rx.hal.load
            (irq.rx.hal.srngList status.halRingId.toNat).dstRing.hpAddr)) =
      some (some (0, 2)) := by decide +kernel
  obtain ⟨irq, reached, values⟩ := Option.map_eq_some_iff.mp quiet
  simp only [Prod.mk.injEq] at values
  obtain ⟨pending, handler, scheduled, drain, delivery⟩ := values
  rw [reached, Option.map_some, Option.some.injEq] at apart
  obtain ⟨status, found, pointers⟩ := Option.map_eq_some_iff.mp apart
  simp only [Prod.mk.injEq] at pointers
  refine ⟨irq, status, reached, ⟨pending, handler, scheduled, drain, delivery⟩, found, ?_⟩
  rw [pointers.1, pointers.2]
  decide

end Runs

end WirelessSimu
