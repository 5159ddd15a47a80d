import WirelessSimu.Rx.Agreement

namespace WirelessSimu

open Data Kernel

/-! `wireless_simu_hal_srng_dst_test_deinit` beside the tasklets, the timer and the
device. It takes `srng_test_lock` first and waits for the tasklets, one after the
other, while it holds it. -/

/-- The teardown holds the lock from `kill 0` on, until it is `done`. -/
inductive Deinit where
  | before
  | kill (pipe : Nat)
  | done
  deriving DecidableEq, Repr

def Deinit.holdsLock : Deinit → Bool
  | .kill _ => true
  | _ => false

/-- `scheduled` are the tasklets that wait for their turn to run. -/
structure RxTeardown where
  rx : Rx
  scheduled : Nat → Bool
  deinit : Deinit

namespace Drain

def needsLock : Drain → Bool
  | .recv _ | .post | .wait => true
  | _ => false

def resting : Drain → Bool
  | .idle | .posted _ => true
  | _ => false

end Drain

namespace RxTeardown

inductive Event where
  | rx (event : Rx.Event)
  | schedule (pipe : Nat)
  | deinitLock
  | killed
  | cleanup
  deriving DecidableEq, Repr

/-- Steps of the driver, as opposed to those of the device and its interrupts. -/
def Event.ofDriver : Event → Bool
  | .rx (.deviceConsume _) | .rx (.deviceStoreTail _) | .rx (.deviceReport _ _ _)
  | .rx (.deviceStoreHead _) | .schedule _ => false
  | _ => true

/-- A step that would take the lock is blocked while the teardown holds it. -/
def moduleStep (state : RxTeardown) (event : Rx.Event) : Option RxTeardown :=
  match state.rx.step event with
  | none => none
  | some next =>
      if state.deinit.holdsLock && !next.lock.isFree then none
      else some { state with rx := next }

def unschedule (state : RxTeardown) (pipe : Nat) : RxTeardown :=
  { state with scheduled := Function.update state.scheduled pipe false }

def freed (rx : Rx) : Rx :=
  { rx with
    buffers := Rx.cleanupPipes rx.pipes rx.buffers rx.pipesCount
    pipes := halSrngTestFreePipes rx.pipesCount rx.pipes
    live := false }

def step (state : RxTeardown) : Event → Option RxTeardown
  | .rx .deinit => none
  | .rx (.drainStart pipe) =>
      if state.scheduled pipe then (state.unschedule pipe).moduleStep (.drainStart pipe)
      else none
  | .rx event => state.moduleStep event
  | .schedule pipe =>
      if pipe < state.rx.pipesCount then
        some { state with scheduled := Function.update state.scheduled pipe true }
      else none
  | .deinitLock =>
      match state.deinit, state.rx.lock, state.rx.initPost with
      | .before, .free, .idle => some { state with deinit := .kill 0 }
      | _, _, _ => none
  | .killed =>
      match state.deinit with
      | .kill pipe =>
          -- `tasklet_kill` returns when the tasklet neither waits nor runs.
          if pipe < state.rx.pipesCount ∧ state.scheduled pipe = false ∧
              state.rx.drains pipe = .idle then
            some { state with deinit := .kill (pipe + 1) }
          else none
      | _ => none
  | .cleanup =>
      match state.deinit with
      | .kill pipe =>
          if pipe < state.rx.pipesCount then none
          else some { state with rx := freed state.rx, deinit := .done }
      | _ => none

def start (hal : Hal) (pipesCount : Nat) (pipes : Nat → SrngTestPipe) : RxTeardown where
  rx := .start hal pipesCount pipes
  scheduled := fun _ => false
  deinit := .before

/-- The teardown waits for a tasklet that does not end without the lock of the
teardown. -/
def Deadlocked (state : RxTeardown) : Prop :=
  ∃ pipe, state.deinit = .kill pipe ∧ pipe < state.rx.pipesCount ∧
    (state.rx.drains pipe).needsLock = true

/-- The teardown starts when every tasklet is past its last use of the lock, and none
that it still waits for is scheduled afterwards. -/
def Calm (state : RxTeardown) : Event → Prop
  | .deinitLock => ∀ pipe ∈ List.range state.rx.pipesCount,
      state.scheduled pipe = false ∧ (state.rx.drains pipe).resting = true
  | .schedule pipe =>
      match state.deinit with
      | .kill waited => pipe < waited
      | _ => True
  | _ => True

instance Calm.decidable (state : RxTeardown) : ∀ event, Decidable (state.Calm event)
  | .deinitLock =>
      inferInstanceAs (Decidable (∀ pipe ∈ List.range state.rx.pipesCount,
        state.scheduled pipe = false ∧ (state.rx.drains pipe).resting = true))
  | .schedule pipe =>
      match found : state.deinit with
      | .kill waited => decidable_of_iff (pipe < waited) (by simp [Calm, found])
      | .before => isTrue (by simp [Calm, found])
      | .done => isTrue (by simp [Calm, found])
  | .rx _ | .killed | .cleanup => isTrue trivial

inductive Step (state : RxTeardown) : Event → RxTeardown → Prop where
  | module {event : Rx.Event} {next : Rx} (notDeinit : event ≠ .deinit)
      (notStart : ∀ pipe, event ≠ .drainStart pipe)
      (stepped : state.rx.step event = some next)
      (unlocked : state.deinit.holdsLock = true → next.lock = .free) :
      Step state (.rx event) { state with rx := next }
  | drainStart {pipe : Nat} {next : Rx} (waiting : state.scheduled pipe = true)
      (stepped : state.rx.step (.drainStart pipe) = some next)
      (unlocked : state.deinit.holdsLock = true → next.lock = .free) :
      Step state (.rx (.drainStart pipe)) { state.unschedule pipe with rx := next }
  | schedule {pipe : Nat} (inRange : pipe < state.rx.pipesCount) :
      Step state (.schedule pipe)
        { state with scheduled := Function.update state.scheduled pipe true }
  | deinitLock (before : state.deinit = .before) (free : state.rx.lock = .free)
      (initialised : state.rx.initPost = .idle) :
      Step state .deinitLock { state with deinit := .kill 0 }
  | killed {pipe : Nat} (killing : state.deinit = .kill pipe)
      (inRange : pipe < state.rx.pipesCount) (ended : state.rx.drains pipe = .idle) :
      Step state .killed { state with deinit := .kill (pipe + 1) }
  | cleanup {pipe : Nat} (killing : state.deinit = .kill pipe)
      (last : ¬ pipe < state.rx.pipesCount) :
      Step state .cleanup { state with rx := freed state.rx, deinit := .done }

section Inversion

variable {state next : RxTeardown}

private theorem moduleStep_cases {event : Rx.Event}
    (moved : state.moduleStep event = some next) :
    ∃ rx, state.rx.step event = some rx ∧
      (state.deinit.holdsLock = true → rx.lock = .free) ∧
      next = { state with rx := rx } := by
  unfold moduleStep at moved
  split at moved
  next => contradiction
  next rx stepped =>
      split at moved
      next => contradiction
      next unblocked =>
          cases moved
          refine ⟨rx, stepped, ?_, rfl⟩
          intro held
          rw [held] at unblocked
          exact RxLock.eq_free (by simpa using unblocked)

theorem step_cases {event : Event} (stepped : state.step event = some next) :
    Step state event next := by
  cases event with
  | rx event =>
      by_cases starts : ∃ pipe, event = .drainStart pipe
      · obtain ⟨pipe, rfl⟩ := starts
        simp only [step] at stepped
        split at stepped
        next waiting =>
            obtain ⟨rx, moved, unlocked, rfl⟩ := moduleStep_cases stepped
            exact .drainStart waiting moved unlocked
        next => contradiction
      · by_cases ends : event = .deinit
        · rw [ends] at stepped
          contradiction
        · have other : state.moduleStep event = some next := by
            cases event with
            | drainStart pipe => exact absurd ⟨pipe, rfl⟩ starts
            | deinit => contradiction
            | _ => exact stepped
          obtain ⟨rx, moved, unlocked, rfl⟩ := moduleStep_cases other
          exact .module ends (fun pipe same => starts ⟨pipe, same⟩) moved unlocked
  | schedule pipe =>
      simp only [step] at stepped
      split at stepped
      next inRange =>
          cases stepped
          exact .schedule inRange
      next => contradiction
  | deinitLock =>
      simp only [step] at stepped
      split at stepped
      next before free initialised =>
          cases stepped
          exact .deinitLock before free initialised
      next => contradiction
  | killed =>
      simp only [step] at stepped
      split at stepped
      next pipe killing =>
          split at stepped
          next ready =>
              cases stepped
              exact .killed killing ready.1 ready.2.2
          next => contradiction
      next => contradiction
  | cleanup =>
      simp only [step] at stepped
      split at stepped
      next pipe killing =>
          split at stepped
          next => contradiction
          next last =>
              cases stepped
              exact .cleanup killing last
      next => contradiction

end Inversion

end RxTeardown

namespace Rx.Step

variable {rx next : Rx} {event : Event} {index : Nat}

/-- Only its own start takes a tasklet away from its rest. -/
theorem resting (stepped : Step rx event next) (notStart : event ≠ .drainStart index)
    (rests : (rx.drains index).resting = true) :
    (next.drains index).resting = true := by
  have moved : ∀ {pipe : Nat} (drain : Drain), (rx.drains pipe).resting = false →
      ((rx.setDrain pipe drain).drains index).resting = true := by
    intro pipe drain busy
    have other : index ≠ pipe := by
      rintro rfl
      rw [rests] at busy
      contradiction
    simpa [Rx.setDrain, Function.update_of_ne other] using rests
  have exited : ∀ {left : Rx} (poster : Poster) (pipe : Nat) (ret : Int),
      left.drains = rx.drains →
      ((left.postExit poster pipe ret).drains index).resting = true := by
    intro left poster pipe ret kept
    rw [← kept] at rests
    cases poster with
    | init => exact rests
    | timer => exact rests
    | drain drained =>
        by_cases same : index = drained
        · simp [Rx.postExit, Rx.setDrain, same, Drain.resting]
        · simpa [Rx.postExit, Rx.setDrain, Function.update_of_ne same] using rests
  cases stepped with
  | @drainStart pipe inRange idle =>
      have other : index ≠ pipe := by
        rintro rfl
        exact notStart rfl
      simpa [Rx.setDrain, Function.update_of_ne other] using rests
  | recvEnd held receiving rings => exact moved _ (by rw [receiving]; rfl)
  | drainOverlong took long => exact moved _ (by rw [took]; rfl)
  | drainKeep took fits put => exact moved _ (by rw [took]; rfl)
  | flushOne flushing => exact moved _ (by rw [flushing]; rfl)
  | flushDone flushing => exact moved _ (by rw [flushing]; rfl)
  | drainPostNull posting missing | drainPost posting found =>
      exact moved _ (by rw [posting]; rfl)
  | @drainReturn pipe ret posted =>
      by_cases same : index = pipe
      · simp [Rx.setDrain, same, Drain.resting]
      · simpa [Rx.setDrain, Function.update_of_ne same] using rests
  | postBufNull | postBufWait | postBufDone | postBufOn | postBufStop => simpa using rests
  | postDone | postNoMemory | postUnmapped | enqueueUndo => exact exited _ _ _ rfl
  | _ => exact rests

/-- A tasklet that needs the lock goes on to need it while another holds the lock. -/
theorem needsLock (stepped : Step rx event next) (free : rx.lock = .free)
    (unlocked : next.lock = .free) (present : rx.rings index ≠ none)
    (waits : (rx.drains index).needsLock = true) :
    (next.drains index).needsLock = true := by
  have moved : ∀ {pipe : Nat} (drain : Drain), (rx.drains pipe).needsLock = false →
      ((rx.setDrain pipe drain).drains index).needsLock = true := by
    intro pipe drain busy
    have other : index ≠ pipe := by
      rintro rfl
      rw [waits] at busy
      contradiction
    simpa [Rx.setDrain, Function.update_of_ne other] using waits
  cases stepped with
  | drainStart inRange idle => exact moved _ (by rw [idle]; rfl)
  | drainOverlong took long => exact moved _ (by rw [took]; rfl)
  | drainKeep took fits put => exact moved _ (by rw [took]; rfl)
  | flushOne flushing => exact moved _ (by rw [flushing]; rfl)
  | flushDone flushing => exact moved _ (by rw [flushing]; rfl)
  | @drainPostNull pipe posting missing =>
      have other : index ≠ pipe := by
        rintro rfl
        exact present missing
      simpa [Rx.setDrain, Function.update_of_ne other] using waits
  | @drainPost pipe rings posting found =>
      by_cases same : index = pipe
      · simp [Rx.setDrain, same, Drain.needsLock]
      · simpa [Rx.setDrain, Function.update_of_ne same] using waits
  | drainReturn posted => exact moved _ (by rw [posted]; rfl)
  | postBufNull | postBufWait | postBufDone | postBufOn | postBufStop => simpa using waits
  | recvBegin | drainLock | postBufLock => cases unlocked
  | recvEnd held | postDone held | postNoMemory held | postUnmapped held
  | enqueueUndo held =>
      rw [free] at held
      contradiction
  | _ => exact waits

end Rx.Step

namespace RxTeardown

structure Inv (layout : RxLayout) (state : RxTeardown) : Prop where
  live : state.deinit ≠ .done → state.rx.live = true
  rx : state.deinit ≠ .done → RxInv layout state.rx
  locked : ∀ pipe, state.deinit = .kill pipe → state.rx.lock = .free

/-- No tasklet that the teardown still waits for will need the lock. -/
def Settled (state : RxTeardown) : Prop :=
  ∀ pipe index, state.deinit = .kill pipe → pipe ≤ index → index < state.rx.pipesCount →
    state.scheduled index = false ∧ (state.rx.drains index).resting = true

section Preservation

variable {layout : RxLayout} {state next : RxTeardown} {event : Event}

theorem Inv.module (inv : Inv layout state) {rxEvent : Rx.Event} {rx : Rx}
    (notDeinit : rxEvent ≠ .deinit) (stepped : state.rx.step rxEvent = some rx)
    (unlocked : state.deinit.holdsLock = true → rx.lock = .free)
    (scheduled : Nat → Bool) :
    Inv layout { state with rx := rx, scheduled := scheduled } := by
  obtain ⟨alive, taken⟩ := Rx.step_cases stepped
  have live : rx.live = true := by
    rcases taken.live_or_deinit alive with stays | ends
    · exact stays
    · exact absurd ends notDeinit
  refine ⟨fun _ => live, ?_, ?_⟩
  · intro going
    exact (inv.rx going).step taken live
  · intro pipe killing
    apply unlocked
    simp only at killing
    rw [killing]
    rfl

theorem Inv.step (inv : Inv layout state) (stepped : Step state event next) :
    Inv layout next := by
  cases stepped with
  | module notDeinit notStart stepped unlocked =>
      exact inv.module notDeinit stepped unlocked state.scheduled
  | drainStart waiting stepped unlocked =>
      exact inv.module (by simp) stepped unlocked _
  | schedule inRange => exact ⟨inv.live, inv.rx, inv.locked⟩
  | deinitLock before free initialised =>
      have going : state.deinit ≠ .done := by simp [before]
      exact ⟨fun _ => inv.live going, fun _ => inv.rx going, fun _ _ => free⟩
  | killed killing inRange ended =>
      have going : state.deinit ≠ .done := by simp [killing]
      exact ⟨fun _ => inv.live going, fun _ => inv.rx going,
        fun _ _ => inv.locked _ killing⟩
  | cleanup killing last =>
      refine ⟨fun going => absurd rfl going, fun going => absurd rfl going, ?_⟩
      intro pipe killing'
      cases killing'

theorem Settled.step (settled : Settled state) (calm : state.Calm event)
    (stepped : Step state event next) : Settled next := by
  intro pipe index killing waited inRange
  cases stepped with
  | module notDeinit notStart stepped unlocked =>
      obtain ⟨_, taken⟩ := Rx.step_cases stepped
      simp only [taken.pipesCount_eq] at inRange
      obtain ⟨unscheduled, rests⟩ := settled pipe index killing waited inRange
      exact ⟨unscheduled, taken.resting (notStart index) rests⟩
  | @drainStart started rx waiting stepped unlocked =>
      obtain ⟨_, taken⟩ := Rx.step_cases stepped
      simp only [taken.pipesCount_eq] at inRange
      obtain ⟨unscheduled, rests⟩ := settled pipe index killing waited inRange
      have other : started ≠ index := by
        rintro rfl
        rw [waiting] at unscheduled
        contradiction
      refine ⟨?_, taken.resting (by simpa using other) rests⟩
      simpa [unschedule, Function.update_of_ne other.symm] using unscheduled
  | @schedule scheduled inRange' =>
      obtain ⟨unscheduled, rests⟩ := settled pipe index killing waited inRange
      have early : scheduled < pipe := by
        simp only at killing
        simpa [Calm, killing] using calm
      have other : index ≠ scheduled := by omega
      exact ⟨by simpa [Function.update_of_ne other] using unscheduled, rests⟩
  | deinitLock before free initialised => exact calm index (List.mem_range.mpr inRange)
  | @killed waited' killing' inRange' ended =>
      cases killing
      exact settled waited' index killing' (by omega) inRange
  | cleanup killing' last => cases killing

/-- The wait has no end: the tasklet keeps waiting and so does the teardown. -/
theorem Deadlocked.step (inv : Inv layout state) (stuck : Deadlocked state)
    (stepped : Step state event next) : Deadlocked next := by
  obtain ⟨pipe, killing, inRange, waits⟩ := stuck
  have present := (inv.rx (by simp [killing])).rings_ne_none inRange
  have held : state.deinit.holdsLock = true := by
    rw [killing]
    rfl
  have moved : ∀ {rxEvent : Rx.Event} {rx : Rx} (scheduled : Nat → Bool),
      state.rx.step rxEvent = some rx →
      (state.deinit.holdsLock = true → rx.lock = .free) →
      Deadlocked { state with rx := rx, scheduled := scheduled } := by
    intro rxEvent rx scheduled stepped unlocked
    obtain ⟨_, taken⟩ := Rx.step_cases stepped
    refine ⟨pipe, killing, ?_,
      taken.needsLock (inv.locked pipe killing) (unlocked held) present waits⟩
    simpa only [taken.pipesCount_eq] using inRange
  cases stepped with
  | module notDeinit notStart stepped unlocked => exact moved _ stepped unlocked
  | drainStart waiting stepped unlocked => exact moved _ stepped unlocked
  | schedule inRange' => exact ⟨pipe, killing, inRange, waits⟩
  | deinitLock before free initialised =>
      rw [killing] at before
      contradiction
  | killed killing' inRange' ended =>
      rw [killing] at killing'
      cases killing'
      rw [ended] at waits
      contradiction
  | cleanup killing' last =>
      rw [killing] at killing'
      cases killing'
      contradiction

end Preservation

section Progress

variable {layout : RxLayout} {state : RxTeardown}

theorem moduleStep_isSome {event : Rx.Event}
    (moves : (state.rx.step event).isSome = true)
    (unlocked : state.deinit.holdsLock = true →
      ∀ rx, state.rx.step event = some rx → rx.lock = .free) :
    (state.moduleStep event).isSome = true := by
  obtain ⟨rx, stepped⟩ := Option.isSome_iff_exists.mp moves
  have unblocked : ¬ (state.deinit.holdsLock && !rx.lock.isFree) = true := by
    intro blocked
    rw [Bool.and_eq_true] at blocked
    rw [unlocked blocked.1 rx stepped] at blocked
    cases blocked.2
  simp [moduleStep, stepped, unblocked]

/-- Whoever holds the lock can go on. -/
theorem holder_moves {rx : Rx} (inv : RxInv layout rx) (live : rx.live = true)
    (held : rx.lock ≠ .free) :
    ∃ event, (rx.step event).isSome = true ∧ (Event.rx event).ofDriver = true ∧
      event ≠ .deinit ∧ ∀ pipe, event ≠ .drainStart pipe := by
  have lock := inv.lock
  rw [LockInv] at lock
  cases holder : rx.lock with
  | free => exact absurd holder held
  | recvBegun index swIndex =>
      rw [holder] at lock
      obtain ⟨dst, status, counts, at_⟩ := inv.pipes index lock.1
      refine ⟨.recvTake, ?_, rfl, by simp, by simp⟩
      simp [Rx.step, live, Rx.recvTake, holder, at_.rings]
  | recvDone index result =>
      rw [holder] at lock
      obtain ⟨inRange, list, receiving⟩ := lock
      obtain ⟨dst, status, counts, at_⟩ := inv.pipes index inRange
      refine ⟨.recvEnd, ?_, rfl, by simp, by simp⟩
      simp [Rx.step, live, Rx.recvEnd, holder, receiving, at_.rings]
  | postLoop poster index =>
      refine ⟨.postBuffer none none, ?_, rfl, by simp, by simp⟩
      by_cases full : (rx.pipes index).rxBufNeeded = 0
      · simp [Rx.step, live, Rx.postBuffer, holder, full]
      · simp [Rx.step, live, Rx.postBuffer, holder, full]
  | enqueueBegun poster index skb paddr writeIndex =>
      rw [holder] at lock
      obtain ⟨dst, status, counts, at_⟩ := inv.pipes index lock.1
      refine ⟨.enqueueStore, ?_, rfl, by simp, by simp⟩
      simp [Rx.step, live, Rx.enqueueStore, holder, at_.dstRing]
  | enqueueDone poster index skb paddr ret =>
      rw [holder] at lock
      obtain ⟨dst, status, counts, at_⟩ := inv.pipes index lock.1
      refine ⟨.enqueueEnd, ?_, rfl, by simp, by simp⟩
      by_cases ok : ret = 0
      · simp [Rx.step, live, Rx.enqueueEnd, holder, at_.dstRing, ok]
      · simp [Rx.step, live, Rx.enqueueEnd, holder, at_.dstRing, ok]

/-- So can the initialisation when nobody holds it. -/
theorem initPost_moves {rx : Rx} (inv : RxInv layout rx) (live : rx.live = true)
    (free : rx.lock = .free) (posting : rx.initPost ≠ .idle) :
    ∃ event, (rx.step event).isSome = true ∧ (Event.rx event).ofDriver = true ∧
      event ≠ .deinit ∧ ∀ pipe, event ≠ .drainStart pipe := by
  cases walk : rx.initPost with
  | idle => exact absurd walk posting
  | next index =>
      refine ⟨.postBufNext false, ?_, rfl, by simp, by simp⟩
      by_cases inRange : index < rx.pipesCount
      · obtain ⟨dst, status, counts, at_⟩ := inv.pipes index inRange
        simp [Rx.step, live, Rx.postBufNext, Rx.postBuf, walk, inRange, at_.rings]
      · simp [Rx.step, live, Rx.postBufNext, Rx.postBuf, walk, inRange]
  | wait index =>
      refine ⟨.postBufLock false, ?_, rfl, by simp, by simp⟩
      simp [Rx.step, live, Rx.postBufLock, Rx.postBuf, walk, free]
  | posted index ret =>
      refine ⟨.postBufReturn false, ?_, rfl, by simp, by simp⟩
      by_cases mild : ret = 0 ∨ ret = -enospc
      · simp [Rx.step, live, Rx.postBufReturn, Rx.postBuf, walk, mild]
      · simp [Rx.step, live, Rx.postBufReturn, Rx.postBuf, walk, mild]

theorem step_rx {event : Rx.Event} (notDeinit : event ≠ .deinit)
    (notStart : ∀ pipe, event ≠ .drainStart pipe) :
    state.step (.rx event) = state.moduleStep event := by
  cases event with
  | drainStart pipe => exact absurd rfl (notStart pipe)
  | deinit => exact absurd rfl notDeinit
  | _ => rfl

theorem Inv.progress (inv : Inv layout state) (settled : Settled state)
    (going : state.deinit ≠ .done) :
    ∃ event, event.ofDriver = true ∧ (state.step event).isSome = true := by
  have live := inv.live going
  have rxInv := inv.rx going
  cases phase : state.deinit with
  | before =>
      have unheld : ¬ state.deinit.holdsLock = true := by
        rw [phase]
        decide
      have lift : (∃ event, (state.rx.step event).isSome = true ∧
          (Event.rx event).ofDriver = true ∧ event ≠ .deinit ∧
          ∀ pipe, event ≠ .drainStart pipe) →
          ∃ event, event.ofDriver = true ∧ (state.step event).isSome = true := by
        rintro ⟨event, moves, driver, notDeinit, notStart⟩
        refine ⟨.rx event, driver, ?_⟩
        rw [step_rx notDeinit notStart]
        exact moduleStep_isSome moves (fun held => absurd held unheld)
      by_cases free : state.rx.lock = .free
      · by_cases posting : state.rx.initPost = .idle
        · exact ⟨.deinitLock, rfl, by simp [RxTeardown.step, phase, free, posting]⟩
        · exact lift (initPost_moves rxInv live free posting)
      · exact lift (holder_moves rxInv live free)
  | kill pipe =>
      by_cases inRange : pipe < state.rx.pipesCount
      · obtain ⟨unscheduled, rests⟩ := settled pipe pipe phase (Nat.le_refl pipe) inRange
        cases drained : state.rx.drains pipe with
        | idle =>
            refine ⟨.killed, rfl, ?_⟩
            simp [RxTeardown.step, phase, inRange, unscheduled, drained]
        | posted ret =>
            -- The tasklet is past its last use of the lock and ends.
            refine ⟨.rx (.drainReturn pipe), rfl, ?_⟩
            rw [step_rx (by simp) (by simp)]
            apply moduleStep_isSome
            · simp [Rx.step, live, Rx.drainReturn, drained]
            · intro held rx returned
              simp only [Rx.step, live, Rx.drainReturn, drained] at returned
              cases returned
              exact inv.locked pipe phase
        | _ =>
            rw [drained] at rests
            contradiction
      · exact ⟨.cleanup, rfl, by simp [RxTeardown.step, phase, inRange]⟩
  | done => exact absurd phase going

end Progress

section Runs

variable {hal hal' : Hal} {count : Nat} {memory : Nat → Fin 3 → RingMemory}
  {attrs : Nat → SrngTestAttr} {pipes : Nat → SrngTestPipe}

theorem Inv.start (table : RxTable hal.srngConfig)
    (twoLe : ∀ index, index < count →
      2 ≤ (ringEntries (attrs index).destNentries).toNat)
    (done : dstTestSetup hal count memory attrs = (hal', pipes, none)) :
    Inv (rxLayout hal.srngConfig attrs) (.start hal' count pipes) where
  live := fun _ => rfl
  rx := fun _ => RxInv.start table twoLe done
  locked := by
    intro pipe killing
    cases killing

/-- A teardown that starts with all tasklets at rest and is not disturbed ends: it
never waits for a tasklet that waits for it, and the driver can always go on. -/
theorem deinit_deadlock_free (table : RxTable hal.srngConfig)
    (twoLe : ∀ index, index < count →
      2 ≤ (ringEntries (attrs index).destNentries).toNat)
    (done : dstTestSetup hal count memory attrs = (hal', pipes, none))
    {events : List Event} {state : RxTeardown}
    (meets : Meets RxTeardown.step Calm (.start hal' count pipes) events)
    (reached : run RxTeardown.step (.start hal' count pipes) events = some state) :
    ¬ Deadlocked state ∧ (state.deinit ≠ .done →
      ∃ event, event.ofDriver = true ∧ (state.step event).isSome = true) := by
  have settledStart : Settled (.start hal' count pipes) := by
    intro pipe index killing
    cases killing
  obtain ⟨inv, settled⟩ := meets.invariant
    (fun state => Inv (rxLayout hal.srngConfig attrs) state ∧ Settled state)
    (fun state event next calm stepped before =>
      ⟨before.1.step (step_cases stepped), before.2.step calm (step_cases stepped)⟩)
    reached ⟨.start table twoLe done, settledStart⟩
  refine ⟨?_, inv.progress settled⟩
  rintro ⟨pipe, killing, inRange, waits⟩
  obtain ⟨_, rests⟩ := settled pipe pipe killing (Nat.le_refl pipe) inRange
  cases drained : state.rx.drains pipe with
  | idle | posted =>
      rw [drained] at waits
      contradiction
  | _ =>
      rw [drained] at rests
      contradiction

/-- The tasklet has found nothing to receive and nothing to post, and returns while the
teardown already waits for it. -/
def returningTasklet : List Event :=
  smallPost.map .rx ++ [.schedule 0, .rx (.drainStart 0), .rx (.recvBegin 0), .rx .recvTake,
    .rx .recvEnd, .rx (.drainFlush 0), .rx (.drainPost 0), .rx (.drainLock 0),
    .rx (.postBuffer none none), .deinitLock]

theorem deinit_deadlock_free_returning :
    ∃ state, run RxTeardown.step (.start smallSetup.1 1 smallSetup.2.1) returningTasklet =
        some state ∧
      state.deinit = .kill 0 ∧ state.rx.drains 0 = .posted 0 ∧ ¬ Deadlocked state ∧
      ∃ event, event.ofDriver = true ∧ (state.step event).isSome = true := by
  have seen : (run RxTeardown.step (.start smallSetup.1 1 smallSetup.2.1)
      returningTasklet).map
      (fun state => (state.deinit, state.rx.drains 0)) = some (.kill 0, .posted 0) := by
    decide +kernel
  obtain ⟨state, reached, values⟩ := Option.map_eq_some_iff.mp seen
  simp only [Prod.mk.injEq] at values
  obtain ⟨killing, drained⟩ := values
  obtain ⟨free, moves⟩ := deinit_deadlock_free hwSrngConfigTemplate_table
    (fun _ _ => by decide +kernel) smallSetup_done (by decide +kernel) reached
  exact ⟨state, reached, killing, drained, free, moves (by simp [killing])⟩

/-- A tasklet that has just started when the teardown takes the lock: both wait for
ever, whatever the others do. -/
theorem deinit_deadlocks :
    ∃ state, run RxTeardown.step (.start smallSetup.1 1 smallSetup.2.1)
        (smallPost.map .rx ++ [.schedule 0, .rx (.drainStart 0), .deinitLock]) =
          some state ∧
      Deadlocked state ∧
      ∀ later final, run RxTeardown.step state later = some final →
        Deadlocked final ∧ final.deinit ≠ .done := by
  have seen : (run RxTeardown.step (.start smallSetup.1 1 smallSetup.2.1)
      (smallPost.map .rx ++ [.schedule 0, .rx (.drainStart 0), .deinitLock])).map
      (fun state => (state.deinit, state.rx.drains 0, state.rx.pipesCount)) =
        some (.kill 0, .recv [], 1) := by decide +kernel
  obtain ⟨state, reached, values⟩ := Option.map_eq_some_iff.mp seen
  simp only [Prod.mk.injEq] at values
  obtain ⟨killing, drained, counted⟩ := values
  have stuck : Deadlocked state := by
    refine ⟨0, killing, ?_, ?_⟩
    · rw [counted]
      exact Nat.zero_lt_one
    · rw [drained]
      rfl
  have start := Inv.start hwSrngConfigTemplate_table
    (fun _ _ => by decide +kernel) smallSetup_done
  have inv := run_invariant _ (fun _ _ _ stepped before => before.step (step_cases stepped))
    reached start
  refine ⟨state, reached, stuck, ?_⟩
  intro later final ran
  obtain ⟨_, forever⟩ := run_invariant
    (fun state => Inv _ state ∧ Deadlocked state)
    (fun _ _ _ stepped before =>
      ⟨before.1.step (step_cases stepped), before.2.step before.1 (step_cases stepped)⟩)
    ran ⟨inv, stuck⟩
  refine ⟨forever, ?_⟩
  obtain ⟨pipe, killing', _⟩ := forever
  simp [killing']

end Runs

end RxTeardown

end WirelessSimu
