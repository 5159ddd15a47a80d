import WirelessSimu.Rx.HostileOwnership

namespace WirelessSimu

open Data Kernel

/-! The receive module past its teardown. Nobody deletes the retry timer, so `post_buf` goes
on as long as `priv` is there. It finds no rings any more, unless it looked for them before
the teardown and got the lock only after it. -/

def PostBuf.waits : PostBuf → Bool
  | .wait _ => true
  | _ => false

/-- The timer holds the lock, or nobody does. -/
def RxLock.OfTimer : RxLock → Prop
  | .free | .postLoop .timer _ | .enqueueBegun .timer _ _ _ _ => True
  | _ => False

namespace Rx

/-- `enqueue_pipe` is called with a mapped buffer for a ring that is gone. -/
def strand (rx : Rx) (poster : Poster) (index : Nat) (tailroom : UInt32)
    (paddr : UInt64) : Rx :=
  { rx with
    buffers := rx.mapped tailroom paddr
    lock := .enqueueBegun poster index rx.buffers.allocated paddr 0 }

/-- `postBuffer` where the ring may be gone: nothing looks at it again before the buffer
is mapped. -/
def lateBuffer (rx : Rx) (tailroom : Option UInt32) (paddr : Option UInt64) : Option Rx :=
  match rx.lock, tailroom, paddr with
  | .postLoop poster index, some tailroom, some paddr =>
      if (rx.pipes index).rxBufNeeded ≠ 0 ∧ (rx.pipes index).dstRing.isNone then
        some (rx.strand poster index tailroom paddr)
      else rx.postBuffer (some tailroom) (some paddr)
  | _, _, _ => rx.postBuffer tailroom paddr

/-- What is left of the module: the interrupt was freed before, so that no tasklet starts. -/
def timerStep (rx : Rx) : Event → Option Rx
  | .timerFire => rx.timerFire
  | .postBufNext true => rx.postBufNext true
  | .postBufLock true => rx.postBufLock true
  | .postBufReturn true => rx.postBufReturn true
  | .postBuffer tailroom paddr => rx.lateBuffer tailroom paddr
  | .enqueueStore => rx.enqueueStore
  | .enqueueEnd => rx.enqueueEnd
  | _ => none

def lateStep (rx : Rx) : HostileEvent → Option Rx
  | .module event => if rx.live then rx.step event else rx.timerStep event
  | event => rx.hostileStep event

/-- The timer has a mapped buffer in hand for a ring that is gone, which it is about to
dereference. -/
def Stranded (rx : Rx) : Prop :=
  rx.live = false ∧ ∃ index skb paddr writeIndex,
    rx.lock = .enqueueBegun .timer index skb paddr writeIndex ∧
      (rx.pipes index).dstRing = none

def HostileEvent.tearsDown : HostileEvent → Bool
  | .module .deinit => true
  | _ => false

/-- The teardown does not come between the timer's look at the rings and its lock. -/
def TimerAside (rx : Rx) (event : HostileEvent) : Prop :=
  event.tearsDown = true → rx.timerPost.waits = false

instance TimerAside.decidable (rx : Rx) (event : HostileEvent) :
    Decidable (rx.TimerAside event) :=
  inferInstanceAs (Decidable (_ → _))

/-- The module after its teardown, with `lost` the buffers that nobody frees. -/
structure Torn (lost : Multiset Nat) (rx : Rx) : Prop where
  dead : rx.live = false
  control : ControlInv rx
  gone : ∀ index < rx.pipesCount, (rx.pipes index).dstRing = none
  resting : ∀ index, rx.drains index = .idle
  lock : rx.lock.OfTimer
  ledger : Ledger rx.buffers rx.lock.inHand lost

section Late

variable {rx next : Rx} {lost : Multiset Nat}

theorem lateStep_of_live {event : HostileEvent} (live : rx.live = true) :
    rx.lateStep event = rx.hostileStep event := by
  cases event with
  | module event => simp only [lateStep, live, if_true, hostileStep]
  | _ => rfl

theorem lateBuffer_cases {tailroom : Option UInt32} {paddr : Option UInt64}
    (taken : rx.lateBuffer tailroom paddr = some next) :
    Step rx (.postBuffer tailroom paddr) next ∨
      ∃ poster index room address, tailroom = some room ∧ paddr = some address ∧
        rx.lock = .postLoop poster index ∧ (rx.pipes index).dstRing = none ∧
        next = rx.strand poster index room address := by
  unfold lateBuffer at taken
  split at taken
  next held =>
      split at taken
      next missing =>
          cases taken
          exact .inr ⟨_, _, _, _, rfl, rfl, held, Option.isNone_iff_eq_none.mp missing.2, rfl⟩
      next => exact .inl (postBuffer_cases taken)
  next => exact .inl (postBuffer_cases taken)

namespace Torn

theorem rings_eq_none (torn : rx.Torn lost) {index : Nat} (inRange : index < rx.pipesCount) :
    rx.rings index = none := by
  rw [rings, torn.gone index inRange]

/-- Who has the lock is the timer, which waited for it, on a pipe whose ring is gone. -/
theorem lock_cases (torn : rx.Torn lost) :
    rx.lock = .free ∨ ∃ index < rx.pipesCount, rx.timerPost = .wait index ∧
      (rx.pipes index).dstRing = none ∧ (rx.lock = .postLoop .timer index ∨
        ∃ skb paddr writeIndex, rx.lock = .enqueueBegun .timer index skb paddr writeIndex) := by
  have lock := torn.control.lock
  have ofTimer := torn.lock
  rw [LockInv] at lock
  cases held : rx.lock with
  | free => exact .inl rfl
  | postLoop poster index =>
      rw [held] at lock ofTimer
      cases poster with
      | timer =>
          exact .inr ⟨index, lock.1, lock.2, torn.gone index lock.1, .inl rfl⟩
      | init | drain => exact ofTimer.elim
  | enqueueBegun poster index skb paddr writeIndex =>
      rw [held] at lock ofTimer
      cases poster with
      | timer =>
          exact .inr ⟨index, lock.1, lock.2, torn.gone index lock.1, .inr ⟨_, _, _, rfl⟩⟩
      | init | drain => exact ofTimer.elim
  | recvBegun | recvDone | enqueueDone =>
      rw [held] at ofTimer
      exact ofTimer.elim

theorem holder (torn : rx.Torn lost) {poster : Poster} {index : Nat}
    (held : rx.lock = .postLoop poster index) :
    poster = .timer ∧ (rx.pipes index).dstRing = none ∧ rx.timerPost = .wait index ∧
      index < rx.pipesCount := by
  obtain free | ⟨_, inRange, waiting, missing, looping | ⟨_, _, _, storing⟩⟩ := torn.lock_cases
  · rw [free] at held
    contradiction
  · rw [looping] at held
    cases held
    exact ⟨rfl, missing, waiting, inRange⟩
  · rw [storing] at held
    contradiction

/-- `enqueue_pipe` has no ring to go on with. -/
theorem enqueue_eq_none (torn : rx.Torn lost) : rx.enqueueStore = none ∧
    rx.enqueueEnd = none := by
  obtain free | ⟨_, _, _, missing, looping | ⟨_, _, _, storing⟩⟩ := torn.lock_cases
  · simp [enqueueStore, enqueueEnd, free]
  · simp [enqueueStore, enqueueEnd, looping]
  · simp [enqueueStore, enqueueEnd, storing, missing]

/-- A step that takes the timer on and leaves the buffers alone. -/
theorem still (torn : rx.Torn lost) (control : ControlInv next)
    (live : next.live = rx.live) (count : next.pipesCount = rx.pipesCount)
    (pipes : ∀ index, (next.pipes index).dstRing = (rx.pipes index).dstRing)
    (drains : next.drains = rx.drains) (buffers : next.buffers = rx.buffers)
    (lock : next.lock.OfTimer) (inHand : next.lock.inHand = rx.lock.inHand) :
    next.Torn lost where
  dead := by rw [live, torn.dead]
  control := control
  gone := by
    intro index inRange
    rw [pipes]
    exact torn.gone index (by rw [← count]; exact inRange)
  resting := by
    rw [drains]
    exact torn.resting
  lock := lock
  ledger := by
    rw [buffers, inHand]
    exact torn.ledger

theorem written (torn : rx.Torn lost) (written : WrittenTo rx next) : next.Torn lost :=
  torn.still (torn.control.congr written.drains written.initPost written.timerPost
      written.count written.lock) written.live written.count written.dstRing written.drains
    written.buffers (by rw [written.lock]; exact torn.lock) (by rw [written.lock])

theorem setPostBuf (torn : rx.Torn lost) (walk : PostBuf)
    (control : ControlInv (rx.setPostBuf true walk)) : (rx.setPostBuf true walk).Torn lost :=
  torn.still control rfl rfl (fun _ => rfl) rfl rfl torn.lock rfl

/-- `post_pipe` of the timer returns. -/
theorem postExit (torn : rx.Torn lost) {index : Nat} (inRange : index < rx.pipesCount)
    (waiting : rx.timerPost = .wait index) (unowned : rx.lock.inHand = 0) (ret : Int) :
    (rx.postExit .timer index ret).Torn lost := by
  have at_ : PosterAt rx index .timer := waiting
  exact torn.still (torn.control.postExit inRange at_ ret) rfl rfl (fun _ => rfl) rfl rfl
    trivial unowned.symm

theorem strand (torn : rx.Torn lost) {index : Nat}
    (held : rx.lock = .postLoop .timer index) (tailroom : UInt32) (paddr : UInt64) :
    (rx.strand .timer index tailroom paddr).Torn lost := by
  obtain ⟨_, _, waiting, inRange⟩ := torn.holder held
  have at_ : PosterAt rx index .timer := waiting
  have owned := torn.ledger
  rw [held] at owned
  refine ⟨torn.dead, ?_, torn.gone, torn.resting, trivial, owned.allocate tailroom paddr⟩
  exact torn.control.posting inRange at_ rfl rfl rfl rfl (.inr (.inl ⟨_, _, _, rfl⟩))

theorem postBuffer (torn : rx.Torn lost) {tailroom : Option UInt32} {paddr : Option UInt64}
    (stepped : rx.lateBuffer tailroom paddr = some next) :
    ∃ lost', next.Torn lost' ∧ lost'.card ≤ lost.card +
      (HostileEvent.module (.postBuffer tailroom paddr)).losesBuffer.toNat := by
  have same : next.Torn lost → ∃ lost', next.Torn lost' ∧ lost'.card ≤ lost.card +
      (HostileEvent.module (.postBuffer tailroom paddr)).losesBuffer.toNat :=
    fun after => ⟨lost, after, Nat.le_add_right _ _⟩
  obtain taken | ⟨poster, index, room, address, rfl, rfl, held, _, rfl⟩ :=
    lateBuffer_cases stepped
  · cases taken with
    | postDone held full | postNoMemory held needed =>
        obtain ⟨rfl, _, waiting, inRange⟩ := torn.holder held
        exact same (torn.postExit inRange waiting (by rw [held]; rfl) _)
    | @postUnmapped poster index room held needed =>
        obtain ⟨rfl, _, waiting, inRange⟩ := torn.holder held
        have adopted : Torn (rx.buffers.allocated ::ₘ lost)
            { rx with buffers := (rx.buffers.devAllocSkb room).1 } :=
          ⟨torn.dead, torn.control.congr rfl rfl rfl rfl rfl, torn.gone, torn.resting,
            torn.lock, torn.ledger.adopt room⟩
        refine ⟨_, adopted.postExit inRange waiting (by rw [held]; rfl) _, ?_⟩
        rw [Multiset.card_cons]
        exact Nat.le_refl _
    | enqueueBegin held needed ring =>
        obtain ⟨_, missing, _⟩ := torn.holder held
        rw [missing] at ring
        contradiction
  · obtain ⟨rfl, _⟩ := torn.holder held
    exact same (torn.strand held room address)

theorem timerStep (torn : rx.Torn lost) {event : Event}
    (stepped : rx.timerStep event = some next) :
    ∃ lost', next.Torn lost' ∧
      lost'.card ≤ lost.card + (HostileEvent.module event).losesBuffer.toNat := by
  have same : next.Torn lost → ∃ lost', next.Torn lost' ∧
      lost'.card ≤ lost.card + (HostileEvent.module event).losesBuffer.toNat :=
    fun after => ⟨lost, after, Nat.le_add_right _ _⟩
  cases event with
  | timerFire =>
      have taken : Step rx .timerFire next := timerFire_cases stepped
      have control := torn.control.step taken
      cases taken with
      | timerFire armed idle =>
          exact same (torn.still control rfl rfl (fun _ => rfl) rfl rfl torn.lock rfl)
  | postBufNext timer =>
      cases timer with
      | false => cases stepped
      | true =>
          have taken : Step rx (.postBufNext true) next := postBufNext_cases stepped
          have control := torn.control.step taken
          cases taken with
          | postBufNull | postBufDone => exact same (torn.setPostBuf _ control)
          | postBufWait walking inRange present =>
              rw [torn.rings_eq_none inRange] at present
              contradiction
  | postBufLock timer =>
      cases timer with
      | false => cases stepped
      | true =>
          have taken : Step rx (.postBufLock true) next := postBufLock_cases stepped
          have control := torn.control.step taken
          cases taken with
          | postBufLock waiting free =>
              exact same (torn.still control rfl rfl (fun _ => rfl) rfl rfl trivial
                (by rw [free]; rfl))
  | postBufReturn timer =>
      cases timer with
      | false => cases stepped
      | true =>
          have taken : Step rx (.postBufReturn true) next := postBufReturn_cases stepped
          have control := torn.control.step taken
          cases taken with
          | postBufOn posted mild => exact same (torn.setPostBuf _ control)
          | postBufStop posted failed =>
              exact same (torn.still control rfl rfl (fun _ => rfl) rfl rfl torn.lock rfl)
  | postBuffer tailroom paddr => exact torn.postBuffer stepped
  | enqueueStore => exact absurd (stepped.symm.trans torn.enqueue_eq_none.1) (by simp)
  | enqueueEnd => exact absurd (stepped.symm.trans torn.enqueue_eq_none.2) (by simp)
  | _ => cases stepped

theorem lateStep_cases (torn : rx.Torn lost) {event : HostileEvent}
    (stepped : rx.lateStep event = some next) :
    (∃ own, event = .module own ∧ rx.timerStep own = some next) ∨
      event.losesBuffer = false ∧ WrittenTo rx next := by
  have stored : rx.hostileStep event = some next →
      event.losesBuffer = false ∧ WrittenTo rx next := by
    intro stored
    refine (hostileStep_cases stored).resolve_left ?_
    rintro ⟨_, _, live, _⟩
    rw [torn.dead] at live
    contradiction
  cases event with
  | module event =>
      simp only [Rx.lateStep, torn.dead, Bool.false_eq_true, if_false] at stepped
      exact .inl ⟨event, rfl, stepped⟩
  | storeWord | storeStatus => exact .inr (stored stepped)

theorem lateStep (torn : rx.Torn lost) {event : HostileEvent}
    (stepped : rx.lateStep event = some next) :
    ∃ lost', next.Torn lost' ∧ lost'.card ≤ lost.card + event.losesBuffer.toNat := by
  obtain ⟨own, rfl, taken⟩ | ⟨silent, written⟩ := torn.lateStep_cases stepped
  · exact torn.timerStep taken
  · exact ⟨lost, torn.written written, Nat.le_add_right _ _⟩

end Torn

end Late

section Settled

variable {layout : RxLayout} {rx next : Rx} {losses : Nat}

/-- The module runs, with every buffer accounted for unless a drain took NULL, or it is
torn down. -/
def Settled (layout : RxLayout) (losses : Nat) (rx : Rx) : Prop :=
  rx.live = true ∧ HostileInv layout rx ∧
      ((∃ index, rx.Doomed index) ∨ ∃ lost, Multiset.card lost ≤ losses ∧ rx.Kept lost) ∨
    ∃ lost, Multiset.card lost ≤ losses ∧ rx.Torn lost

/-- The tables and the drains are empty, and nothing was refused. -/
theorem Torn.places {lost : Multiset Nat} (torn : rx.Torn lost) :
    rx.slotBuffers = 0 ∧ rx.listBuffers = 0 ∧ rx.inHand = rx.lock.inHand ∧
      rx.lock.refused = 0 := by
  refine ⟨?_, ?_, ?_, ?_⟩
  · apply Finset.sum_eq_zero
    intro index member
    rw [SrngTestPipe.slotBuffers, torn.gone index (Finset.mem_range.mp member)]
    rfl
  · apply Finset.sum_eq_zero
    intro index member
    rw [torn.resting index]
    rfl
  · rw [inHand, Finset.sum_eq_zero, zero_add]
    intro index member
    rw [torn.resting index]
    rfl
  · have ofTimer := torn.lock
    cases held : rx.lock with
    | enqueueDone =>
        rw [held] at ofTimer
        exact ofTimer.elim
    | _ => rfl

theorem Torn.stranded_or {lost : Multiset Nat} (torn : rx.Torn lost) :
    rx.Stranded ∨ rx.lock.inHand = 0 := by
  obtain free | ⟨index, _, _, missing, looping | ⟨skb, paddr, writeIndex, storing⟩⟩ :=
    torn.lock_cases
  · rw [free]
    exact .inr rfl
  · rw [looping]
    exact .inr rfl
  · exact .inl ⟨torn.dead, index, skb, paddr, writeIndex, storing, missing⟩

theorem Torn.of_deinit {lost : Multiset Nat} (kept : rx.Kept lost) (inv : HostileInv layout rx)
    (ended : Step rx .deinit next) : next.Torn lost := by
  have control := inv.control.step ended
  have books := kept.ledger inv (inv.deinit_sane ended)
  obtain ⟨free, free', dead⟩ := ended.deinit_lock
  rw [free, show RxLock.free.refused = 0 from rfl, add_zero] at books
  obtain ⟨ledger, -⟩ := deinit_ledger books ended
  refine ⟨dead, control, ?_, ?_, by rw [free']; trivial, by rw [free']; exact ledger⟩
  · intro index inRange
    cases ended with
    | deinit => exact congrArg SrngTestPipe.dstRing (if_pos inRange)
  · intro index
    cases ended with
    | deinit free initialised quiet =>
        by_contra busy
        have inRange := inv.control.drains_lt index busy
        exact busy (quiet index (List.mem_range.mpr inRange))

theorem Settled.moduleStep (inv : HostileInv layout rx)
    (books : (∃ index, rx.Doomed index) ∨ ∃ lost, Multiset.card lost ≤ losses ∧ rx.Kept lost)
    {event : Event} (live : rx.live = true) (taken : Step rx event next) :
    next.Settled layout (losses + (HostileEvent.module event).losesBuffer.toNat) := by
  rcases taken.live_or_deinit live with alive | rfl
  · refine .inl ⟨alive, inv.step taken alive, ?_⟩
    by_cases doomed : ∃ index, next.Doomed index
    · exact .inl doomed
    · obtain ⟨index, early⟩ | ⟨lost, few, kept⟩ := books
      · exact absurd ⟨index, early.step inv.control.lock taken⟩ doomed
      · obtain ⟨lost', kept', few'⟩ := kept.step inv (not_exists.mp doomed) taken alive
        exact .inr ⟨lost', Nat.le_trans few' (Nat.add_le_add_right few _), kept'⟩
  · obtain ⟨index, doomed⟩ | ⟨lost, few, kept⟩ := books
    · exact absurd doomed (inv.deinit_sane taken index)
    · exact .inr ⟨lost, few, .of_deinit kept inv taken⟩

theorem Settled.step {event : HostileEvent} (settled : rx.Settled layout losses)
    (stepped : rx.lateStep event = some next) :
    next.Settled layout (losses + event.losesBuffer.toNat) := by
  obtain ⟨live, inv, books⟩ | ⟨lost, few, torn⟩ := settled
  · rw [lateStep_of_live live] at stepped
    obtain ⟨own, rfl, _, taken⟩ | ⟨silent, written⟩ := hostileStep_cases stepped
    · exact Settled.moduleStep inv books live taken
    · have alive : next.live = true := by rw [written.live, live]
      rw [silent]
      refine .inl ⟨alive, inv.hostileStep stepped alive, books.imp ?_ ?_⟩
      · exact fun ⟨index, doomed⟩ => ⟨index, (written.doomed_iff index).mpr doomed⟩
      · exact fun ⟨lost, few, kept⟩ => ⟨lost, few, written.kept kept⟩
  · obtain ⟨lost', torn', few'⟩ := torn.lateStep stepped
    exact .inr ⟨lost', Nat.le_trans few' (Nat.add_le_add_right few _), torn'⟩

/-- After the teardown the timer does not wait for the lock of rings it has seen. -/
def Aside (rx : Rx) : Prop := rx.live = false → rx.timerPost.waits = false

/-- A timer that does not wait has not got the lock either. -/
theorem Torn.lock_free {lost : Multiset Nat} (torn : rx.Torn lost)
    (clear : rx.timerPost.waits = false) : rx.lock = .free := by
  refine torn.lock_cases.resolve_right ?_
  rintro ⟨index, _, waiting, _⟩
  rw [waiting] at clear
  cases clear

theorem Torn.timer_clear {lost : Multiset Nat} (torn : rx.Torn lost) {event : Event}
    (clear : rx.timerPost.waits = false) (stepped : rx.timerStep event = some next) :
    next.timerPost.waits = false := by
  have free := torn.lock_free clear
  cases event with
  | timerFire =>
      cases timerFire_cases stepped with
      | timerFire => rfl
  | postBufNext timer =>
      cases timer with
      | false => cases stepped
      | true =>
          cases postBufNext_cases stepped with
          | postBufNull | postBufDone => rfl
          | postBufWait walking inRange present =>
              rw [torn.rings_eq_none inRange] at present
              contradiction
  | postBufLock timer =>
      cases timer with
      | false => cases stepped
      | true =>
          cases postBufLock_cases stepped with
          | postBufLock waiting => exact clear
  | postBufReturn timer =>
      cases timer with
      | false => cases stepped
      | true =>
          cases postBufReturn_cases stepped with
          | postBufOn | postBufStop => rfl
  | postBuffer tailroom paddr =>
      obtain taken | ⟨_, _, _, _, _, _, held, _⟩ := lateBuffer_cases stepped
      · cases taken with
        | postDone held | postNoMemory held | postUnmapped held | enqueueBegin held =>
            rw [free] at held
            contradiction
      · rw [free] at held
        contradiction
  | enqueueStore => exact absurd (stepped.symm.trans torn.enqueue_eq_none.1) (by simp)
  | enqueueEnd => exact absurd (stepped.symm.trans torn.enqueue_eq_none.2) (by simp)
  | _ => cases stepped

theorem Aside.step {event : HostileEvent} (aside : rx.Aside) (settled : rx.Settled layout losses)
    (timely : rx.TimerAside event) (stepped : rx.lateStep event = some next) : next.Aside := by
  intro dead
  obtain ⟨live, -⟩ | ⟨lost, -, torn⟩ := settled
  · rw [lateStep_of_live live] at stepped
    obtain ⟨own, rfl, _, taken⟩ | ⟨-, written⟩ := hostileStep_cases stepped
    · rcases taken.live_or_deinit live with alive | rfl
      · rw [alive] at dead
        contradiction
      · cases taken with
        | deinit => exact timely rfl
    · rw [written.live, live] at dead
      contradiction
  · have clear := aside torn.dead
    rcases torn.lateStep_cases stepped with ⟨own, rfl, taken⟩ | ⟨-, written⟩
    · exact torn.timer_clear clear taken
    · rw [written.timerPost]
      exact clear

theorem Torn.not_stranded {lost : Multiset Nat} (torn : rx.Torn lost) (aside : rx.Aside) :
    ¬ rx.Stranded := by
  rintro ⟨_, index, skb, paddr, writeIndex, held, _⟩
  rw [torn.lock_free (aside torn.dead)] at held
  contradiction

end Settled

end Rx

section Runs

variable {hal hal' : Hal} {count : Nat} {memory : Nat → Fin 3 → RingMemory}
  {attrs : Nat → SrngTestAttr} {pipes : Nat → SrngTestPipe}

theorem Rx.Settled.start (table : RxTable hal.srngConfig)
    (twoLe : ∀ index, index < count →
      2 ≤ (ringEntries (attrs index).destNentries).toNat)
    (done : dstTestSetup hal count memory attrs = (hal', pipes, none)) :
    Rx.Settled (rxLayout hal.srngConfig attrs) 0 (.start hal' count pipes) := by
  refine .inl ⟨rfl, .start table twoLe done, .inr ⟨0, Nat.le_refl 0, ?_, ?_⟩⟩
  · rw [Rx.storing_eq rfl]
    exact .start hal' count pipes
  · intro poster index skb paddr writeIndex held
    cases held

theorem Rx.Settled.run (table : RxTable hal.srngConfig)
    (twoLe : ∀ index, index < count →
      2 ≤ (ringEntries (attrs index).destNentries).toNat)
    (done : dstTestSetup hal count memory attrs = (hal', pipes, none))
    {events : List Rx.HostileEvent} {rx : Rx}
    (reached : run Rx.lateStep (.start hal' count pipes) events = some rx) :
    rx.Settled (rxLayout hal.srngConfig attrs)
      (events.countP Rx.HostileEvent.losesBuffer) := by
  refine run_history (fun past rx => rx.Settled (rxLayout hal.srngConfig attrs)
    (past.countP Rx.HostileEvent.losesBuffer)) (.start table twoLe done) ?_ reached
  intro past state event next _ stepped settled
  have after := settled.step stepped
  rw [List.countP_append, List.countP_singleton]
  cases loses : event.losesBuffer with
  | false =>
      rw [loses] at after
      exact after
  | true =>
      rw [loses] at after
      exact after

theorem Rx.Aside.run (table : RxTable hal.srngConfig)
    (twoLe : ∀ index, index < count →
      2 ≤ (ringEntries (attrs index).destNentries).toNat)
    (done : dstTestSetup hal count memory attrs = (hal', pipes, none))
    {events : List Rx.HostileEvent} {rx : Rx}
    (meets : Meets Rx.lateStep Rx.TimerAside (.start hal' count pipes) events)
    (reached : run Rx.lateStep (.start hal' count pipes) events = some rx) : rx.Aside := by
  have both := meets.invariant
    (fun rx => (∃ losses, rx.Settled (rxLayout hal.srngConfig attrs) losses) ∧ rx.Aside)
    (fun _ _ _ timely stepped before => by
      obtain ⟨⟨losses, settled⟩, aside⟩ := before
      exact ⟨⟨_, settled.step stepped⟩, aside.step settled timely stepped⟩)
    reached ⟨⟨0, .start table twoLe done⟩, fun dead => by cases dead⟩
  exact both.2

/-- Whatever the device writes, and whenever: as long as no drain took NULL for a buffer,
no call of the kernel interface is out of turn, every buffer is in exactly one place but
for those whose mapping failed, and the mapped buffers are those that are posted or in
hand. The teardown leaves nothing mapped. After it only a timer that waited for the lock
across it can map another buffer, and then it has no ring to put it into. -/
theorem hostile_buffer_ownership (table : RxTable hal.srngConfig)
    (twoLe : ∀ index, index < count →
      2 ≤ (ringEntries (attrs index).destNentries).toNat)
    (done : dstTestSetup hal count memory attrs = (hal', pipes, none))
    {events : List Rx.HostileEvent} {rx : Rx}
    (reached : run Rx.lateStep (.start hal' count pipes) events = some rx) :
    (∃ index < rx.pipesCount, rx.Doomed index) ∨
    rx.buffers.faulted = false ∧
      (∀ skb, rx.buffers.mapping skb ≠ none ↔
        skb ∈ rx.slotBuffers + (rx.inHand + rx.lock.refused)) ∧
      (∃ lost, Multiset.card lost ≤ events.countP Rx.HostileEvent.losesBuffer ∧
        rx.slotBuffers + (rx.inHand + rx.lock.refused) + rx.listBuffers + lost +
            (rx.buffers.freed : Multiset Nat) = Multiset.range rx.buffers.allocated ∧
        (rx.live = false → rx.Stranded ∨
          lost + (rx.buffers.freed : Multiset Nat) = Multiset.range rx.buffers.allocated ∧
            ∀ skb, rx.buffers.mapping skb = none)) ∧
      (Meets Rx.lateStep Rx.TimerAside (.start hal' count pipes) events →
        ¬ rx.Stranded) := by
  obtain ⟨live, inv, ⟨index, doomed⟩ | ⟨lost, few, kept⟩⟩ | ⟨lost, few, torn⟩ :=
    Rx.Settled.run table twoLe done reached
  · exact .inl ⟨index, inv.doomed_lt doomed, doomed⟩
  · by_cases sane : ∀ index, ¬ rx.Doomed index
    · have ledger := kept.ledger inv sane
      refine .inr ⟨ledger.sound, ledger.mapping_iff, ⟨lost, few, ?_, ?_⟩, ?_⟩
      · rw [add_assoc _ rx.listBuffers]
        exact ledger.total
      · intro dead
        rw [live] at dead
        contradiction
      · rintro _ ⟨dead, _⟩
        rw [live] at dead
        contradiction
    · push Not at sane
      obtain ⟨index, doomed⟩ := sane
      exact .inl ⟨index, inv.doomed_lt doomed, doomed⟩
  · obtain ⟨slots, lists, hands, refused⟩ := torn.places
    have ledger := torn.ledger
    rw [slots, lists, hands, refused, zero_add, add_zero, add_zero]
    refine .inr ⟨ledger.sound, ledger.mapping_iff, ⟨lost, few, ledger.total, fun _ => ?_⟩,
      fun meets => torn.not_stranded (.run table twoLe done meets reached)⟩
    refine torn.stranded_or.imp_right fun unowned => ?_
    rw [unowned] at ledger
    have total := ledger.total
    rw [zero_add] at total
    exact ⟨total, fun skb => ledger.dead skb (Multiset.notMem_zero skb)⟩

/-- The device reports a frame of 5000 bytes for a buffer that it never took, and a tail
that makes the ring look full. The retry timer is still armed when the module is torn
down. -/
def lyingDevice : List Rx.HostileEvent :=
  smallPost.map .module ++
    [.storeStatus 0 0xa000 5000, .storeWord 1 2, .storeWord 8 9] ++
    [Rx.Event.drainStart 0, .recvBegin 0, .recvTake, .recvEnd, .drainTake 0, .recvBegin 0,
      .recvTake, .recvEnd, .drainFlush 0, .drainPost 0, .drainLock 0,
      .postBuffer (some 2048) (some 0x7000), .enqueueStore, .enqueueEnd, .drainReturn 0,
      .drainStart 0, .recvBegin 0, .recvTake, .recvEnd, .drainFlush 0, .drainPost 0,
      .drainLock 0, .postBuffer none none, .drainReturn 0, .deinit].map .module ++
    [.storeWord 8 77] ++
    [Rx.Event.timerFire, .postBufNext true, .postBufReturn true, .postBufNext true].map
      .module

theorem hostile_buffer_ownership_lying :
    ∃ rx, run Rx.lateStep (.start smallSetup.1 1 smallSetup.2.1) lyingDevice = some rx ∧
      rx.buffers.faulted = false ∧ (∀ skb, rx.buffers.mapping skb = none) ∧
      (rx.buffers.freed : Multiset Nat) = Multiset.range 3 := by
  have seen : (run Rx.lateStep (.start smallSetup.1 1 smallSetup.2.1) lyingDevice).map
      (fun rx => (rx.live, rx.lock.isFree, rx.drains 0, rx.pipesCount,
        rx.buffers.allocated)) = some (false, true, .idle, 1, 3) := by decide +kernel
  obtain ⟨rx, reached, values⟩ := Option.map_eq_some_iff.mp seen
  simp only [Prod.mk.injEq] at values
  obtain ⟨dead, free, idle, one, allocated⟩ := values
  have sane : ¬ ∃ index < rx.pipesCount, rx.Doomed index := by
    rintro ⟨index, inRange, doomed⟩
    rw [one, Nat.lt_one_iff] at inRange
    subst inRange
    rcases doomed with ⟨nbytes, done⟩ | ⟨list, nbytes, took⟩
    · rw [done] at free
      cases free
    · rw [idle] at took
      cases took
  obtain ⟨sound, -, ⟨lost, few, -, ended⟩, aside⟩ :=
    (hostile_buffer_ownership hwSrngConfigTemplate_table (fun _ _ => by decide +kernel)
      smallSetup_done reached).resolve_left sane
  obtain ⟨total, unmapped⟩ := (ended dead).resolve_left (aside (by decide +kernel))
  have noneLost : lost = 0 := by
    rw [← Multiset.card_eq_zero, ← Nat.le_zero]
    exact few
  rw [noneLost, zero_add, allocated] at total
  exact ⟨rx, reached, sound, unmapped, total⟩

/-- The timer has seen the rings, and takes the lock once the teardown is over. -/
def lateLock : List Rx.HostileEvent :=
  (onePost ++ [Rx.Event.timerFire, .postBufNext true, .deinit, .postBufLock true,
    .postBuffer (some 2048) (some 0x9000)]).map .module

example : (run Rx.lateStep (.start smallSetup.1 1 smallSetup.2.1) lateLock).map
    (fun rx => (rx.live, rx.buffers.freed, rx.buffers.allocated,
      (rx.buffers.mapping 1).isSome)) = some (false, [0], 2, true) := by decide +kernel

end Runs

end WirelessSimu
