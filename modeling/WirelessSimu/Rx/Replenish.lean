import WirelessSimu.Rx.Agreement

namespace WirelessSimu

open Data Kernel

/-! A pipe that lacks buffers is not forgotten: some caller of `post_pipe` still has it
ahead, or its retry timer is armed or about to be. -/

/-- A return value of `post_pipe` for which its callers arm the timer. -/
def Arms (ret : Int) : Prop := ret ≠ 0 ∧ ret ≠ -enospc

/-- The drain has its call of `post_pipe` ahead. -/
def Drain.Covers : Drain → Prop
  | .idle | .posted _ => False
  | _ => True

/-- The walk still comes to the pipe, or stops with an error. -/
def PostBuf.Covers (index : Nat) : PostBuf → Prop
  | .idle => False
  | .next pipe | .wait pipe => pipe ≤ index
  | .posted pipe ret => pipe < index ∨ Arms ret

inductive Covered (rx : Rx) (index : Nat) : Prop where
  | armed (armed : rx.retryArmed = true)
  | drain (covers : (rx.drains index).Covers)
  | failed {pipe : Nat} {ret : Int} (posted : rx.drains pipe = .posted ret)
      (arms : Arms ret)
  | init (covers : rx.initPost.Covers index)
  | timer (covers : rx.timerPost.Covers index)

def Rx.Replenished (rx : Rx) : Prop :=
  ∀ index, index < rx.pipesCount → (rx.pipes index).rxBufNeeded ≠ 0 → Covered rx index

/-- No drain and no call of `post_pipe` is in progress. -/
structure Rx.Quiet (rx : Rx) : Prop where
  lock : rx.lock = .free
  init : rx.initPost = .idle
  timer : rx.timerPost = .idle
  drains : ∀ index, rx.drains index = .idle

section Steps

variable {layout : RxLayout} {rx next : Rx} {event : Rx.Event} {index : Nat}

theorem Covered.mono (covered : Covered rx index)
    (armed : rx.retryArmed = true → next.retryArmed = true)
    (drain : (rx.drains index).Covers → (next.drains index).Covers)
    (failed : ∀ pipe ret, rx.drains pipe = .posted ret →
      next.drains pipe = .posted ret)
    (init : rx.initPost.Covers index → next.initPost.Covers index)
    (timer : rx.timerPost.Covers index → next.timerPost.Covers index) :
    Covered next index := by
  cases covered with
  | armed set => exact .armed (armed set)
  | drain covers => exact .drain (drain covers)
  | failed posted arms => exact .failed (failed _ _ posted) arms
  | init covers => exact .init (init covers)
  | timer covers => exact .timer (timer covers)

theorem Rx.Replenished.still (replenished : rx.Replenished)
    (count : next.pipesCount = rx.pipesCount)
    (needed : ∀ index, (next.pipes index).rxBufNeeded = (rx.pipes index).rxBufNeeded)
    (armed : next.retryArmed = rx.retryArmed) (drains : next.drains = rx.drains)
    (init : next.initPost = rx.initPost) (timer : next.timerPost = rx.timerPost) :
    next.Replenished := by
  intro index inRange lacks
  rw [count] at inRange
  rw [needed] at lacks
  apply (replenished index inRange lacks).mono
  · rw [armed]
    exact fun set => set
  · rw [drains]
    exact fun covers => covers
  · rw [drains]
    exact fun _ _ posted => posted
  · rw [init]
    exact fun covers => covers
  · rw [timer]
    exact fun covers => covers

theorem Rx.Replenished.setDrain (replenished : rx.Replenished)
    (notPosted : ∀ ret, rx.drains index ≠ .posted ret) (drain : Drain)
    (covers : drain.Covers ∨ ¬ (rx.drains index).Covers) :
    (rx.setDrain index drain).Replenished := by
  intro other inRange lacks
  apply (replenished other inRange lacks).mono
  · exact fun set => set
  · intro before
    by_cases same : other = index
    · subst same
      simp only [Rx.setDrain, Function.update_self]
      rcases covers with after | not_
      · exact after
      · exact absurd before not_
    · simp only [Rx.setDrain, Function.update_of_ne same]
      exact before
  · intro pipe ret posted
    have different : pipe ≠ index := by
      rintro rfl
      exact notPosted ret posted
    simp only [Rx.setDrain, Function.update_of_ne different]
    exact posted
  · exact fun ahead => ahead
  · exact fun ahead => ahead

theorem Rx.Replenished.setAside (replenished : rx.Replenished) (buffers : Buffers)
    (hal : Hal) (lock : RxLock) :
    Rx.Replenished { rx with buffers := buffers, hal := hal, lock := lock } :=
  replenished.still rfl (fun _ => rfl) rfl rfl rfl rfl

/-- One pipe changes; the pipe that it is ahead of keeps its cover. -/
theorem Rx.Replenished.setPipe (replenished : rx.Replenished) {pipe : SrngTestPipe}
    (covered : pipe.rxBufNeeded ≠ 0 → (rx.pipes index).rxBufNeeded = 0 →
      Covered rx index) :
    (rx.setPipe index pipe).Replenished := by
  intro other inRange lacks
  have same : Covered rx other → Covered (rx.setPipe index pipe) other := fun covered =>
    covered.mono (fun set => set) (fun ahead => ahead) (fun _ _ posted => posted)
      (fun ahead => ahead) (fun ahead => ahead)
  by_cases isIndex : other = index
  · subst isIndex
    simp only [Rx.setPipe, Function.update_self] at lacks
    by_cases full : (rx.pipes other).rxBufNeeded = 0
    · exact same (covered lacks full)
    · exact same (replenished other inRange full)
  · simp only [Rx.setPipe, Function.update_of_ne isIndex] at lacks
    exact same (replenished other inRange lacks)

/-- `post_pipe` returns: either the pipe is full or the caller will arm the timer. -/
theorem Rx.Replenished.postExit (replenished : rx.Replenished) (inv : RxInv layout rx)
    {poster : Poster} (held : rx.lock = .postLoop poster index) {ret : Int}
    (outcome : (rx.pipes index).rxBufNeeded = 0 ∨ Arms ret) :
    (rx.postExit poster index ret).Replenished := by
  have lock := inv.lock
  rw [LockInv, held] at lock
  obtain ⟨_, posting⟩ := lock
  intro other inRange lacks
  rw [Rx.pipesCount_postExit] at inRange
  rw [Rx.pipes_postExit] at lacks
  have before := replenished other inRange lacks
  -- A call that emptied the need of `index` only gives up the cover of `index`.
  have apart : ¬ Arms ret → other ≠ index := by
    rintro mild rfl
    rcases outcome with full | arms
    · exact lacks full
    · exact mild arms
  by_cases arms : Arms ret
  · cases poster with
    | init => exact .init (.inr arms)
    | timer => exact .timer (.inr arms)
    | drain pipe =>
        have posted : (rx.postExit (.drain pipe) index ret).drains pipe =
            .posted ret := by
          simp [Rx.postExit, Rx.setDrain]
        exact .failed posted arms
  · have different := apart arms
    cases poster with
    | init =>
        have waiting : rx.initPost = .wait index := posting
        apply before.mono
        · exact fun set => set
        · exact fun ahead => ahead
        · exact fun _ _ posted => posted
        · rw [waiting]
          exact fun ahead => .inl (Nat.lt_of_le_of_ne ahead different.symm)
        · exact fun ahead => ahead
    | timer =>
        have waiting : rx.timerPost = .wait index := posting
        apply before.mono
        · exact fun set => set
        · exact fun ahead => ahead
        · exact fun _ _ posted => posted
        · exact fun ahead => ahead
        · rw [waiting]
          exact fun ahead => .inl (Nat.lt_of_le_of_ne ahead different.symm)
    | drain pipe =>
        obtain ⟨rfl, atPost⟩ := posting
        apply before.mono
        · exact fun set => set
        · simp only [Rx.postExit, Rx.setDrain, Function.update_of_ne different]
          exact fun ahead => ahead
        · intro held ret' posted
          have notHeld : held ≠ pipe := by
            rintro rfl
            rw [atPost] at posted
            cases posted
          simp only [Rx.postExit, Rx.setDrain, Function.update_of_ne notHeld]
          exact posted
        · exact fun ahead => ahead
        · exact fun ahead => ahead

theorem Rx.Replenished.setPostBuf (replenished : rx.Replenished) {timer : Bool}
    {walk : PostBuf}
    (covers : ∀ index, index < rx.pipesCount → (rx.postBuf timer).Covers index →
      walk.Covers index) :
    (rx.setPostBuf timer walk).Replenished := by
  intro index inRange lacks
  rw [Rx.pipesCount_setPostBuf] at inRange
  rw [Rx.pipes_setPostBuf] at lacks
  have before := replenished index inRange lacks
  cases timer with
  | false =>
      exact before.mono (fun set => set) (fun ahead => ahead) (fun _ _ posted => posted)
        (covers index inRange) (fun ahead => ahead)
  | true =>
      exact before.mono (fun set => set) (fun ahead => ahead) (fun _ _ posted => posted)
        (fun ahead => ahead) (covers index inRange)

theorem Rx.Replenished.drainReturn (replenished : rx.Replenished) {ret : Int}
    (posted : rx.drains index = .posted ret) :
    Rx.Replenished { rx.setDrain index .idle with
      retryArmed := rx.retryArmed || (ret ≠ 0 && ret ≠ -enospc) } := by
  intro other inRange lacks
  by_cases arms : Arms ret
  · apply Covered.armed
    simp only [Bool.or_eq_true, Bool.and_eq_true, decide_eq_true_eq]
    exact .inr arms
  · cases replenished other inRange lacks with
    | armed set =>
        apply Covered.armed
        simp only [set, Bool.true_or]
    | drain covers =>
        have different : other ≠ index := by
          rintro rfl
          rw [posted] at covers
          exact covers
        apply Covered.drain
        simp only [Rx.setDrain, Function.update_of_ne different]
        exact covers
    | @failed pipe ret' failed arms' =>
        have different : pipe ≠ index := by
          rintro rfl
          rw [posted] at failed
          cases failed
          exact arms arms'
        have kept : (rx.setDrain index .idle).drains pipe = .posted ret' := by
          simp only [Rx.setDrain, Function.update_of_ne different]
          exact failed
        exact Covered.failed kept arms'
    | init covers => exact .init covers
    | timer covers => exact .timer covers

theorem Rx.Replenished.step (replenished : rx.Replenished) (inv : RxInv layout rx)
    (stepped : Rx.Step rx event next) (live : next.live = true) :
    next.Replenished := by
  have lock := inv.lock
  rw [LockInv] at lock
  cases stepped with
  | drainStart inRange idle =>
      exact replenished.setDrain (by simp [idle]) (.recv []) (.inl trivial)
  | recvBegin free receiving rings => exact replenished.setAside _ _ _
  | @recvTake index swIndex dst status held rings =>
      rw [held] at lock
      obtain ⟨_, list, receiving⟩ := lock
      have covered : Covered rx index := .drain (by rw [receiving]; trivial)
      exact (replenished.setPipe fun _ _ => covered).still rfl (fun _ => rfl) rfl rfl rfl
        rfl
  | @recvEnd index result list dst status held receiving rings =>
      have covers : (Rx.afterRecv list result).Covers := by
        rcases result with _ | ⟨_, _⟩ <;> trivial
      exact (replenished.setDrain (by simp [receiving]) _ (.inl covers)).setAside _ _ _
  | drainOverlong took long =>
      exact (replenished.setDrain (by simp [took]) (.recv _) (.inl trivial)).setAside _ _ _
  | drainKeep took fits put =>
      exact (replenished.setDrain (by simp [took]) (.recv _) (.inl trivial)).setAside _ _ _
  | flushOne flushing =>
      exact (replenished.setDrain (by simp [flushing]) (.flush _) (.inl trivial)).setAside
        _ _ _
  | flushDone flushing =>
      exact replenished.setDrain (by simp [flushing]) .post (.inl trivial)
  | drainPostNull posting missing =>
      have inRange := inv.drains_lt _ (by rw [posting]; simp)
      exact absurd missing (inv.rings_ne_none inRange)
  | drainPost posting found =>
      exact replenished.setDrain (by simp [posting]) .wait (.inl trivial)
  | drainReturn posted => exact replenished.drainReturn posted
  | timerFire armed idle =>
      exact fun other _ _ => .timer (Nat.zero_le other)
  | postBufNull walking inRange missing =>
      exact absurd missing (inv.rings_ne_none inRange)
  | postBufWait walking inRange found =>
      refine replenished.setPostBuf ?_
      rw [walking]
      exact fun _ _ ahead => ahead
  | drainLock waiting free | postBufLock waiting free => exact replenished.setAside _ _ _
  | postBufDone walking last =>
      refine replenished.setPostBuf ?_
      rw [walking]
      exact fun other inRange ahead => last (Nat.lt_of_le_of_lt ahead inRange)
  | postBufOn posted mild =>
      refine replenished.setPostBuf ?_
      rw [posted]
      rintro other _ (ahead | arms)
      · exact ahead
      · rcases mild with zero | full
        · exact absurd zero arms.1
        · exact absurd full arms.2
  | postBufStop posted failed => exact fun _ _ _ => .armed rfl
  | postDone held full => exact replenished.postExit inv held (.inl full)
  | postNoMemory held needed =>
      exact replenished.postExit inv held (.inr ⟨by decide, by decide⟩)
  | @postUnmapped poster index tailroom held needed =>
      exact (replenished.setAside (rx.buffers.devAllocSkb tailroom).1 rx.hal
        rx.lock).postExit (inv.lose tailroom) held
        (.inr ⟨by decide, by decide⟩)
  | enqueueBegin held needed ring => exact replenished.setAside _ _ _
  | @enqueueStore poster index skb paddr writeIndex dst held ring =>
      obtain ⟨status, counts, _, _, at_, _⟩ := inv.enqueue_ok held ring
      have claim := at_.claim
      rw [held] at claim
      have needed : (rx.pipes index).rxBufNeeded ≠ 0 := (claim rfl).2.1
      exact (replenished.setPipe fun _ zero => absurd zero needed).still rfl
        (fun _ => rfl) rfl rfl rfl rfl
  | enqueueEnd held ring => exact replenished.setAside _ _ _
  | enqueueUndo held failed ring => exact absurd (inv.enqueue_zero held ring) failed
  | deviceConsume | deviceStoreTail | deviceStoreHead =>
      exact replenished.still rfl (fun _ => rfl) rfl rfl rfl rfl
  | @deviceReport index status length flag inRange ring nonzero allowed =>
      refine replenished.still rfl (fun other => ?_) rfl rfl rfl rfl
      by_cases same : other = index
      · subst same
        simp [Rx.statusWritten, Rx.setPipe, Rx.setDevice]
      · simp [Rx.statusWritten, Rx.setPipe, Rx.setDevice, same]
  | deinit free initialised quiet => contradiction

end Steps

section Runs

variable {hal hal' : Hal} {count : Nat} {memory : Nat → Fin 3 → RingMemory}
  {attrs : Nat → SrngTestAttr} {pipes : Nat → SrngTestPipe}

/-- With no drain and no post in progress, all pipes have their buffers or the retry
timer is armed. -/
theorem rx_replenishment (table : RxTable hal.srngConfig)
    (twoLe : ∀ index, index < count →
      2 ≤ (ringEntries (attrs index).destNentries).toNat)
    (done : dstTestSetup hal count memory attrs = (hal', pipes, none))
    {events : List Rx.Event} {rx : Rx}
    (reached : run Rx.step (.start hal' count pipes) events = some rx)
    (live : rx.live = true) (quiet : rx.Quiet) :
    (∀ index, index < count → (rx.pipes index).rxBufNeeded = 0) ∨
      rx.retryArmed = true := by
  have start : Rx.Replenished (.start hal' count pipes) :=
    fun index _ _ => .init (Nat.zero_le index)
  obtain ⟨counted, before, _, _, _, replenished, ⟨rfl, _⟩ | ended⟩ :=
    rx_invariant table twoLe done Rx.Replenished start
      (fun _ _ _ _ inv replenished stepped live => replenished.step inv stepped live)
      (unrestricted events _) reached
  · by_cases armed : rx.retryArmed = true
    · exact .inr armed
    · left
      intro index inRange
      by_contra lacks
      rw [← counted] at inRange
      cases replenished index inRange lacks with
      | armed set => exact armed set
      | drain covers =>
          rw [quiet.drains] at covers
          exact covers
      | failed posted arms =>
          rw [quiet.drains] at posted
          cases posted
      | init covers =>
          rw [quiet.init] at covers
          exact covers
      | timer covers =>
          rw [quiet.timer] at covers
          exact covers
  · cases ended
    contradiction

/-- The initialisation runs out of memory at the second buffer. -/
theorem rx_replenishment_starved :
    ∃ rx, run Rx.step (.start smallSetup.1 1 smallSetup.2.1) onePost = some rx ∧
      (rx.pipes 0).rxBufNeeded = 1 ∧
      ((∀ index, index < 1 → (rx.pipes index).rxBufNeeded = 0) ∨
        rx.retryArmed = true) := by
  have seen : (run Rx.step (.start smallSetup.1 1 smallSetup.2.1) onePost).map
      (fun rx => (rx.live, (rx.pipes 0).rxBufNeeded)) = some (true, 1) := by
    decide +kernel
  obtain ⟨rx, reached, values⟩ := Option.map_eq_some_iff.mp seen
  simp only [Prod.mk.injEq] at values
  obtain ⟨live, needed⟩ := values
  have quiet : rx.Quiet := by
    cases reached
    exact ⟨rfl, rfl, rfl, fun _ => rfl⟩
  exact ⟨rx, reached, needed, rx_replenishment hwSrngConfigTemplate_table
    (fun _ _ => by decide +kernel) smallSetup_done reached live quiet⟩

end Runs

end WirelessSimu
