import WirelessSimu.Pipe.Operations
import WirelessSimu.Rx.DrainLoop
import WirelessSimu.Rx.Footprint

namespace WirelessSimu

open Data Kernel

/-! What a process of the receive module comes to when nothing runs beside it. A critical
section that somebody has begun is ended first: it waits for nothing. -/

namespace Rx

/-- What the driver does by itself; the interrupt handler starts a tasklet. -/
def Event.ofProcess : Event → Bool
  | .drainStart _ | .deinit => false
  | .deviceConsume _ | .deviceStoreTail _ | .deviceReport _ _ _ | .deviceStoreHead _ => false
  | _ => true

/-- The next event of a process while nobody holds the lock. -/
structure Process where
  next : Rx → Option Event
  own : ∀ rx event, next rx = some event → event.ofProcess = true

/-- The answers of `dev_alloc_skb` and `dma_map_single` may depend on anything. -/
abbrev Answers := Rx → Option UInt32 × Option UInt64

/-- Memory for a buffer and its mapping are there whenever they are asked for. -/
def Granted (answers : Answers) : Prop :=
  ∀ rx, (answers rx).1.isSome ∧ (answers rx).2.isSome

namespace Process

def event (process : Process) (answers : Answers) (rx : Rx) : Option Event :=
  match rx.lock with
  | .free => process.next rx
  | .recvBegun _ _ => some .recvTake
  | .recvDone _ _ => some .recvEnd
  | .postLoop _ _ => some (.postBuffer (answers rx).1 (answers rx).2)
  | .enqueueBegun _ _ _ _ _ => some .enqueueStore
  | .enqueueDone _ _ _ _ _ => some .enqueueEnd

/-- Given enough turns, the process comes to a state with `P`. -/
def Comes (process : Process) (answers : Answers) (P : Rx → Prop) (rx : Rx) : Prop :=
  Reaches (process.event answers) step P rx

theorem event_ofProcess {process : Process} {answers : Answers} {rx : Rx} {event : Event}
    (picked : process.event answers rx = some event) : event.ofProcess = true := by
  unfold Process.event at picked
  split at picked
  next => exact process.own rx event picked
  all_goals
    cases picked
    rfl

/-- A process that makes way for another comes to where that one comes to. -/
theorem Comes.follow {process other : Process} {answers : Answers} {P : Rx → Prop} {rx : Rx}
    (Inv : Rx → Prop)
    (keeps : ∀ rx event next, Inv rx → event.ofProcess = true → rx.step event = some next →
      Inv next)
    (follows : ∀ rx event, Inv rx → process.next rx = some event →
      other.next rx = some event)
    (inv : Inv rx) (comes : process.Comes answers P rx) :
    other.Comes answers (fun final => Inv final ∧ P final) rx := by
  have kept := Reaches.always Inv (fun rx event next picked stepped inv =>
    keeps rx event next inv (event_ofProcess picked) stepped) inv comes
  have lifted : Reaches (other.event answers) step _ (id rx) :=
    Reaches.lift id id Inv (fun rx event next inv picked stepped => by
      refine ⟨keeps rx event next inv (event_ofProcess picked) stepped, ?_, stepped⟩
      simp only [id_eq, Process.event] at picked ⊢
      split at picked
      next => exact follows rx event inv picked
      all_goals exact picked) inv kept
  refine lifted.trans ?_
  rintro final ⟨from_, rfl, holds⟩
  exact .refl holds

end Process

/-- What no process changes. -/
structure Undisturbed (layout : RxLayout) (start rx : Rx) : Prop where
  inv : RxInv layout rx
  live : rx.live = true
  count : rx.pipesCount = start.pipesCount
  devices : rx.devices = start.devices
  shadows : ∀ id, rx.hal.load (.rdp id) = start.hal.load (.rdp id)

section Steps

variable {layout : RxLayout} {start rx next : Rx} {event : Event} {process : Process}
  {answers : Answers} {P : Rx → Prop}

theorem Step.devices_eq (own : event.ofProcess = true) (stepped : Rx.Step rx event next) :
    next.devices = rx.devices := by
  cases stepped with
  | deviceConsume | deviceStoreTail | deviceReport => cases own
  | postBufNull | postBufWait | postBufDone | postBufOn | postBufStop => simp
  | postDone | postNoMemory | postUnmapped | enqueueUndo => simp
  | _ => rfl

/-- The driver does not store to the words that the device writes. -/
theorem Step.shadow_eq (inv : RxInv layout rx) (own : event.ofProcess = true)
    (stepped : Rx.Step rx event next) (id : Nat) :
    next.hal.load (.rdp id) = rx.hal.load (.rdp id) := by
  have lock := inv.lock
  rw [LockInv] at lock
  cases stepped with
  | recvBegin | enqueueBegin => exact load_accessBegin _
  | recvTake => exact load_testDstRecvNext _ _ _ _ _
  | enqueueStore => exact load_testDstEnqueuePipe _ _ _ _ _ _
  | recvEnd held receiving rings =>
      have inRange := inv.drains_lt _ (by rw [receiving]; simp)
      obtain ⟨counts, at_⟩ := inv.at_rings inRange rings
      exact congrFun (RingOp.rdp_accessEnd at_.inv.rings.statusDirect) id
  | enqueueEnd held ring =>
      rw [held] at lock
      obtain ⟨status, counts, at_⟩ := inv.at_dst lock.1 ring
      exact congrFun (RingOp.rdp_accessEnd at_.inv.rings.dstDirect) id
  | enqueueUndo held failed ring => exact absurd (inv.enqueue_zero held ring) failed
  | deviceStoreTail | deviceStoreHead => cases own
  | postBufNull | postBufWait | postBufDone | postBufOn | postBufStop => rw [hal_setPostBuf]
  | postDone | postNoMemory | postUnmapped => rw [hal_postExit]
  | _ => rfl

theorem Undisturbed.step (undisturbed : Undisturbed layout start rx)
    (own : event.ofProcess = true) (stepped : rx.step event = some next) :
    Undisturbed layout start next := by
  obtain ⟨_, taken⟩ := step_cases stepped
  have live : next.live = true := by
    rcases taken.live_or_deinit undisturbed.live with stays | rfl
    · exact stays
    · cases own
  exact ⟨undisturbed.inv.step taken live, live,
    taken.pipesCount_eq.trans undisturbed.count,
    (taken.devices_eq own).trans undisturbed.devices, fun id =>
    (taken.shadow_eq undisturbed.inv own id).trans (undisturbed.shadows id)⟩

theorem Undisturbed.along (undisturbed : Undisturbed layout start rx)
    (comes : process.Comes answers P rx) :
    process.Comes answers (fun final => Undisturbed layout start final ∧ P final) rx :=
  Reaches.always (Undisturbed layout start)
    (fun _ _ _ picked stepped before => before.step (Process.event_ofProcess picked) stepped)
    undisturbed comes

end Steps

/-! The loop of `post_pipe`, whoever called it. -/

/-- What a call of `post_pipe` leaves alone. -/
structure PostFrame (poster : Poster) (index : Nat) (before after : Rx) : Prop where
  received : after.received = before.received
  retryArmed : after.retryArmed = before.retryArmed
  pipes : ∀ other, other ≠ index → after.pipes other = before.pipes other
  drains : ∀ other, poster ≠ .drain other → after.drains other = before.drains other
  initPost : poster ≠ .init → after.initPost = before.initPost
  timerPost : poster ≠ .timer → after.timerPost = before.timerPost

theorem PostFrame.refl (poster : Poster) (index : Nat) (rx : Rx) :
    PostFrame poster index rx rx :=
  ⟨rfl, rfl, fun _ _ => rfl, fun _ _ => rfl, fun _ => rfl, fun _ => rfl⟩

theorem PostFrame.trans {poster : Poster} {index : Nat} {before middle after : Rx}
    (first : PostFrame poster index before middle)
    (second : PostFrame poster index middle after) : PostFrame poster index before after where
  received := second.received.trans first.received
  retryArmed := second.retryArmed.trans first.retryArmed
  pipes := fun other apart => (second.pipes other apart).trans (first.pipes other apart)
  drains := fun other apart => (second.drains other apart).trans (first.drains other apart)
  initPost := fun apart => (second.initPost apart).trans (first.initPost apart)
  timerPost := fun apart => (second.timerPost apart).trans (first.timerPost apart)

theorem PostFrame.entered (poster : Poster) (index : Nat) (rx : Rx) (buffers : Buffers)
    (hal : Hal) (lock : RxLock) :
    PostFrame poster index rx { rx with buffers := buffers, hal := hal, lock := lock } :=
  ⟨rfl, rfl, fun _ _ => rfl, fun _ _ => rfl, fun _ => rfl, fun _ => rfl⟩

/-- The caller of `post_pipe` has its value. -/
def PostReturned (rx : Rx) (index : Nat) (ret : Int) : Poster → Prop
  | .init => rx.initPost = .posted index ret
  | .timer => rx.timerPost = .posted index ret
  | .drain pipe => rx.drains pipe = .posted ret

/-- `post_pipe` is between two buffers of the call that began in `origin`. -/
structure Posting (layout : RxLayout) (start origin : Rx) (poster : Poster) (index : Nat)
    (rx : Rx) : Prop where
  undisturbed : Undisturbed layout start rx
  held : rx.lock = .postLoop poster index
  frame : PostFrame poster index origin rx

/-- The call is over: all buffers are posted, or memory or a mapping was refused. -/
structure Posted (answers : Answers) (origin : Rx) (poster : Poster) (index : Nat)
    (rx : Rx) : Prop where
  free : rx.lock = .free
  returned : ∃ ret, PostReturned rx index ret poster ∧
    (ret = 0 ∧ (rx.pipes index).rxBufNeeded = 0 ∨
      ¬ Granted answers ∧ (ret = -enomem ∨ ret = -eio))
  frame : PostFrame poster index origin rx

section Post

variable {layout : RxLayout} {start origin rx : Rx} {poster : Poster} {index : Nat}
  {process : Process} {answers : Answers} {P : Rx → Prop}

theorem postExit_frame (rx : Rx) (poster : Poster) (index : Nat) (buffers : Buffers)
    (ret : Int) :
    PostFrame poster index rx ({ rx with buffers := buffers }.postExit poster index ret) ∧
      PostReturned ({ rx with buffers := buffers }.postExit poster index ret) index ret
        poster := by
  cases poster with
  | init =>
      exact ⟨⟨rfl, rfl, fun _ _ => rfl, fun _ _ => rfl, fun apart => absurd rfl apart,
        fun _ => rfl⟩, rfl⟩
  | timer =>
      exact ⟨⟨rfl, rfl, fun _ _ => rfl, fun _ _ => rfl, fun _ => rfl,
        fun apart => absurd rfl apart⟩, rfl⟩
  | drain pipe =>
      refine ⟨⟨rfl, rfl, fun _ _ => rfl, fun other apart => ?_, fun _ => rfl, fun _ => rfl⟩,
        Function.update_self ..⟩
      have different : other ≠ pipe := by
        rintro rfl
        exact apart rfl
      exact Function.update_of_ne different _ _

theorem enqueueResult_frame (rx : Rx) (poster : Poster) (index skb : Nat) (paddr : UInt64)
    (outcome : Hal × SrngTestPipe × Int) :
    PostFrame poster index rx (rx.enqueueResult poster index skb paddr outcome) := by
  refine ⟨rfl, rfl, fun other apart => ?_, fun _ _ => rfl, fun _ => rfl, fun _ => rfl⟩
  exact Function.update_of_ne apart _ _

theorem step_enqueueEnd {skb : Nat} {paddr : UInt64} {dst : SrngTestRing}
    (live : rx.live = true) (held : rx.lock = .enqueueDone poster index skb paddr 0)
    (ring : (rx.pipes index).dstRing = some dst) :
    rx.step .enqueueEnd = some
      { rx with
        hal := halSrngAccessEnd rx.hal dst.halRingId.toNat
        lock := .postLoop poster index } := by
  simp only [step, live, enqueueEnd, held, ring]
  rfl

theorem Undisturbed.leave (undisturbed : Undisturbed layout start rx) {skb : Nat}
    {paddr : UInt64} {ret : Int} (held : rx.lock = .enqueueDone poster index skb paddr ret) :
    process.Comes answers (fun next => next.lock = .postLoop poster index ∧
      next.pipes = rx.pipes ∧ PostFrame poster index rx next) rx := by
  have lock := undisturbed.inv.lock
  rw [LockInv, held] at lock
  obtain ⟨dst, _, _, at_⟩ := undisturbed.inv.pipes index lock.1
  cases undisturbed.inv.enqueue_zero held at_.dstRing
  have picked : process.event answers rx = some .enqueueEnd := by
    simp only [Process.event, held]
  exact .cons picked (step_enqueueEnd undisturbed.live held at_.dstRing)
    (.refl ⟨rfl, rfl, PostFrame.entered poster index rx rx.buffers _ _⟩)

/-- `enqueue_pipe` succeeds and is left. -/
theorem Undisturbed.enqueue (undisturbed : Undisturbed layout start rx) {skb : Nat}
    {paddr : UInt64} {writeIndex : UInt32}
    (held : rx.lock = .enqueueBegun poster index skb paddr writeIndex) :
    process.Comes answers (fun next => next.lock = .postLoop poster index ∧
      (next.pipes index).rxBufNeeded = (rx.pipes index).rxBufNeeded - 1 ∧
      PostFrame poster index rx next) rx := by
  have lock := undisturbed.inv.lock
  rw [LockInv, held] at lock
  obtain ⟨dst, _, _, at_⟩ := undisturbed.inv.pipes index lock.1
  have live := undisturbed.live
  have ring := at_.dstRing
  obtain ⟨status, counts, hal', desc, -, -, -, outcome, -, -⟩ :=
    undisturbed.inv.enqueue_ok held ring
  have picked : process.event answers rx = some .enqueueStore := by
    simp only [Process.event, held]
  have stores : rx.step .enqueueStore = some (rx.enqueueResult poster index skb paddr
      (hal', (rx.pipes index).fill dst desc (testDstSetDesc paddr) skb writeIndex, 0)) := by
    simp only [Rx.step, live, enqueueStore, held, ring, outcome]
    rfl
  refine .cons picked stores (((undisturbed.step rfl stores).leave rfl).trans ?_)
  rintro next ⟨held', pipes, frame⟩
  refine .refl ⟨held', ?_, (enqueueResult_frame ..).trans frame⟩
  rw [pipes]
  simp only [enqueueResult, setPipe, Function.update_self, SrngTestPipe.fill]

/-- A buffer that is allocated and mapped is posted. -/
theorem Posting.post (state : Posting layout start origin poster index rx)
    (needed : (rx.pipes index).rxBufNeeded ≠ 0) {tailroom : UInt32} {paddr : UInt64}
    (memory : (answers rx).1 = some tailroom) (address : (answers rx).2 = some paddr) :
    process.Comes answers (fun next => next.lock = .postLoop poster index ∧
      (next.pipes index).rxBufNeeded = (rx.pipes index).rxBufNeeded - 1 ∧
      PostFrame poster index rx next) rx := by
  have lock := state.undisturbed.inv.lock
  rw [LockInv, state.held] at lock
  obtain ⟨dst, status, counts, at_⟩ := state.undisturbed.inv.pipes index lock.1
  have live := state.undisturbed.live
  have held := state.held
  have ring := at_.dstRing
  have picked : process.event answers rx =
      some (.postBuffer (some tailroom) (some paddr)) := by
    simp only [Process.event, held, memory, address]
  have begins : rx.step (.postBuffer (some tailroom) (some paddr)) = some
      { rx with
        buffers := rx.mapped tailroom paddr
        hal := halSrngAccessBegin rx.hal dst.halRingId.toNat
        lock := .enqueueBegun poster index rx.buffers.allocated paddr dst.writeIndex } := by
    simp only [step, live, postBuffer, held, needed, ring]
    rfl
  refine .cons picked begins
    (((state.undisturbed.step rfl begins).enqueue rfl).trans ?_)
  rintro next ⟨held', fewer, frame⟩
  exact .refl ⟨held', fewer, (PostFrame.entered ..).trans frame⟩

/-- The way out of `post_pipe` with this value. -/
theorem Posting.exits (state : Posting layout start origin poster index rx)
    {buffers : Buffers} {ret : Int}
    (left : rx.step (.postBuffer (answers rx).1 (answers rx).2) =
      some ({ rx with buffers := buffers }.postExit poster index ret))
    (reason : ret = 0 ∧ (rx.pipes index).rxBufNeeded = 0 ∨
      ¬ Granted answers ∧ (ret = -enomem ∨ ret = -eio)) :
    process.Comes answers (Posted answers origin poster index) rx := by
  have picked : process.event answers rx =
      some (.postBuffer (answers rx).1 (answers rx).2) := by
    simp only [Process.event, state.held]
  obtain ⟨frame, returned⟩ := postExit_frame rx poster index buffers ret
  refine .cons picked left (.refl ⟨lock_postExit .., ⟨ret, returned, ?_⟩,
    state.frame.trans frame⟩)
  rw [pipes_postExit]
  exact reason

/-- A turn of the loop posts one more buffer, or ends it. -/
theorem Posting.turn (state : Posting layout start origin poster index rx) :
    process.Comes answers (Posted answers origin poster index) rx ∨
      process.Comes answers (fun next => Posting layout start origin poster index next ∧
        (next.pipes index).rxBufNeeded.toNat < (rx.pipes index).rxBufNeeded.toNat) rx := by
  have live := state.undisturbed.live
  have held := state.held
  by_cases full : (rx.pipes index).rxBufNeeded = 0
  · left
    have left : rx.step (.postBuffer (answers rx).1 (answers rx).2) =
        some (rx.postExit poster index 0) := by
      simp only [step, live, postBuffer, held, full]
      rfl
    exact @Posting.exits _ _ _ _ _ _ _ _ state rx.buffers 0 left (.inl ⟨rfl, full⟩)
  · cases memory : (answers rx).1 with
    | none =>
        left
        have refused : ¬ Granted answers := by
          intro granted
          have given := (granted rx).1
          rw [memory] at given
          cases given
        have left : rx.step (.postBuffer (answers rx).1 (answers rx).2) =
            some (rx.postExit poster index (-enomem)) := by
          simp only [step, live, postBuffer, held, full, memory]
          rfl
        exact @Posting.exits _ _ _ _ _ _ _ _ state rx.buffers (-enomem) left
          (.inr ⟨refused, .inl rfl⟩)
    | some tailroom =>
        cases address : (answers rx).2 with
        | none =>
            left
            have refused : ¬ Granted answers := by
              intro granted
              have given := (granted rx).2
              rw [address] at given
              cases given
            have left : rx.step (.postBuffer (answers rx).1 (answers rx).2) =
                some ({ rx with buffers := (rx.buffers.devAllocSkb tailroom).1 }.postExit
                  poster index (-eio)) := by
              simp only [step, live, postBuffer, held, full, memory, address]
              rfl
            exact state.exits left (.inr ⟨refused, .inr rfl⟩)
        | some paddr =>
            right
            refine (state.undisturbed.along (state.post full memory address)).trans ?_
            rintro next ⟨undisturbed, held', fewer, frame⟩
            have positive : 0 < (rx.pipes index).rxBufNeeded.toNat := by
              rw [Nat.pos_iff_ne_zero, ne_eq, ← UInt32.toNat_zero, UInt32.toNat_inj]
              exact full
            have one : (1 : UInt32) ≤ (rx.pipes index).rxBufNeeded :=
              UInt32.le_iff_toNat_le.mpr positive
            refine .refl ⟨⟨undisturbed, held', state.frame.trans frame⟩, ?_⟩
            rw [fewer, UInt32.toNat_sub_of_le _ _ one]
            exact Nat.sub_lt positive Nat.one_pos

theorem Posting.ends (state : Posting layout start origin poster index rx) :
    process.Comes answers (Posted answers origin poster index) rx :=
  Reaches.loop (Posting layout start origin poster index)
    (fun rx => (rx.pipes index).rxBufNeeded.toNat) (fun _ state => state.turn) state

end Post

/-! Whoever holds the lock gives it back. -/

section Release

variable {layout : RxLayout} {start rx : Rx} {index : Nat} {process : Process}
  {answers : Answers} {P : Rx → Prop}

theorem Undisturbed.recvEnd (undisturbed : Undisturbed layout start rx)
    {result : Except Int (Option Nat × UInt32)} (held : rx.lock = .recvDone index result) :
    process.Comes answers (fun next => next.lock = .free) rx := by
  have lock := undisturbed.inv.lock
  rw [LockInv, held] at lock
  obtain ⟨inRange, list, receiving⟩ := lock
  obtain ⟨dst, status, _, at_⟩ := undisturbed.inv.pipes index inRange
  have picked : process.event answers rx = some .recvEnd := by
    simp only [Process.event, held]
  exact .cons picked (step_recvEnd undisturbed.live held receiving at_.rings) (.refl rfl)

theorem Undisturbed.recvTake (undisturbed : Undisturbed layout start rx) {swIndex : UInt32}
    (held : rx.lock = .recvBegun index swIndex) :
    process.Comes answers (fun next => next.lock = .free) rx := by
  have lock := undisturbed.inv.lock
  rw [LockInv, held] at lock
  obtain ⟨dst, status, _, at_⟩ := undisturbed.inv.pipes index lock.1
  have picked : process.event answers rx = some .recvTake := by
    simp only [Process.event, held]
  have taken := step_recvTake undisturbed.live held at_.rings
  exact .cons picked taken ((undisturbed.step rfl taken).recvEnd rfl)

/-- No critical section waits for anything: its holder, let run, comes out of it. -/
theorem Undisturbed.release (undisturbed : Undisturbed layout start rx) :
    process.Comes answers
      (fun next => Undisturbed layout start next ∧ next.lock = .free) rx := by
  refine undisturbed.along ?_
  have posts : ∀ {rx : Rx} {poster : Poster} {index : Nat}, Undisturbed layout start rx →
      rx.lock = .postLoop poster index →
      process.Comes answers (fun next => next.lock = .free) rx := by
    intro rx poster index undisturbed held
    have posting : Posting layout start rx poster index rx :=
      ⟨undisturbed, held, .refl poster index rx⟩
    exact posting.ends.trans fun next posted => .refl posted.free
  cases held : rx.lock with
  | free => exact .refl held
  | recvBegun index swIndex => exact undisturbed.recvTake held
  | recvDone index result => exact undisturbed.recvEnd held
  | postLoop poster index => exact posts undisturbed held
  | enqueueBegun poster index skb paddr writeIndex =>
      refine (undisturbed.along (undisturbed.enqueue held)).trans ?_
      exact fun next state => posts state.1 state.2.1
  | enqueueDone poster index skb paddr ret =>
      refine (undisturbed.along (undisturbed.leave held)).trans ?_
      exact fun next state => posts state.1 state.2.1

end Release

end Rx

end WirelessSimu
