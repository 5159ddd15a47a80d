import WirelessSimu.Rx.Tasklet
import WirelessSimu.Rx.Refill
import WirelessSimu.Rx.Replenish

namespace WirelessSimu

open Data Kernel

/-! The receive module while the device is silent: whatever is in progress comes to its
end, and all buffers are posted again. -/

namespace Rx

/-- The tasklets run before the calls of `post_buf`, and the retry timer fires last. -/
def settle : Process where
  next rx :=
    match (List.range rx.pipesCount).find? fun index => rx.drains index ≠ .idle with
    | some index => (tasklet index).next rx
    | none =>
        if rx.initPost ≠ .idle then (postBufCall false).next rx
        else if rx.timerPost ≠ .idle then (postBufCall true).next rx
        else if rx.retryArmed then some .timerFire
        else none
  own := by
    intro rx event picked
    split at picked
    next index _ => exact (tasklet index).own rx event picked
    next =>
        split at picked
        next => exact (postBufCall false).own rx event picked
        next =>
            split at picked
            next => exact (postBufCall true).own rx event picked
            next =>
                split at picked
                next =>
                    cases picked
                    rfl
                next => cases picked

/-- No tasklet took a NULL buffer, which it would go on to dereference. -/
def Sane (rx : Rx) : Prop :=
  ∀ index list nbytes, rx.drains index ≠ .took list none nbytes

/-- A step moves one tasklet at most: one that runs, or one that it starts. -/
inductive DrainMoves (rx : Rx) (event : Event) (next : Rx) : Prop where
  | still (same : next.drains = rx.drains)
  | moved {pipe : Nat} {drain : Drain}
      (set : next.drains = Function.update rx.drains pipe drain)
      (running : rx.drains pipe ≠ .idle ∨ event = .drainStart pipe)
      (notNull : ∀ list nbytes, drain ≠ .took list none nbytes)

section Steps

variable {layout : RxLayout} {start rx next : Rx} {event : Event} {index : Nat}

theorem DrainMoves.postExit {from_ : Rx} {poster : Poster} (at_ : PosterAt rx index poster)
    (same : from_.drains = rx.drains) (ret : Int) :
    DrainMoves rx event (from_.postExit poster index ret) := by
  cases poster with
  | init => exact .still same
  | timer => exact .still same
  | drain pipe =>
      obtain ⟨rfl, posting⟩ := at_
      refine @moved _ _ _ pipe (.posted ret) ?_ (.inl ?_) (by simp)
      · rw [← same]
        rfl
      · rw [posting]
        simp

theorem DrainMoves.of_step (inv : RxInv layout rx) (stepped : Rx.Step rx event next) :
    DrainMoves rx event next := by
  have lock := inv.lock
  rw [LockInv] at lock
  cases stepped with
  | drainStart inRange idle => exact .moved rfl (.inr rfl) (by simp)
  | recvEnd held receiving rings =>
      have inRange := inv.drains_lt _ (by rw [receiving]; simp)
      obtain ⟨counts, at_⟩ := inv.at_rings inRange rings
      have claim := at_.claim
      rw [held] at claim
      refine .moved rfl (.inl (by rw [receiving]; simp)) fun list nbytes => ?_
      obtain ⟨code, rfl, _⟩ | ⟨skb, length, rfl, _⟩ := claim rfl
      · simp [afterRecv]
      · simp [afterRecv]
  | drainOverlong took long => exact .moved rfl (.inl (by rw [took]; simp)) (by simp)
  | drainKeep took fits put => exact .moved rfl (.inl (by rw [took]; simp)) (by simp)
  | flushOne flushing => exact .moved rfl (.inl (by rw [flushing]; simp)) (by simp)
  | flushDone flushing => exact .moved rfl (.inl (by rw [flushing]; simp)) (by simp)
  | drainPostNull posting missing | drainPost posting found =>
      exact .moved rfl (.inl (by rw [posting]; simp)) (by simp)
  | drainReturn posted => exact .moved rfl (.inl (by rw [posted]; simp)) (by simp)
  | postBufNull | postBufWait | postBufDone | postBufOn | postBufStop => exact .still (by simp)
  | postDone held full | postNoMemory held needed | postUnmapped held needed
  | enqueueUndo held failed ring =>
      rw [held] at lock
      refine .postExit lock.2 ?_ _
      rfl
  | _ => exact .still rfl

theorem Sane.step (sane : Sane rx) (inv : RxInv layout rx)
    (stepped : Rx.Step rx event next) : Sane next := by
  intro index list nbytes
  cases DrainMoves.of_step inv stepped with
  | still same =>
      rw [same]
      exact sane index list nbytes
  | @moved pipe drain set running notNull =>
      rw [set]
      by_cases isPipe : index = pipe
      · rw [isPipe, Function.update_self]
        exact notNull list nbytes
      · rw [Function.update_of_ne isPipe]
        exact sane index list nbytes

/-- A tasklet that does not run is not moved by what the driver does by itself. -/
theorem Step.idle_stays (inv : RxInv layout rx) (stepped : Rx.Step rx event next)
    (own : event.ofProcess = true) (idle : rx.drains index = .idle) :
    next.drains index = .idle := by
  cases DrainMoves.of_step inv stepped with
  | still same => rw [same, idle]
  | @moved pipe drain set running notNull =>
      have apart : index ≠ pipe := by
        rintro rfl
        rcases running with busy | rfl
        · exact busy idle
        · cases own
      rw [set, Function.update_of_ne apart, idle]

/-- The initialisation that has returned does not call again. -/
theorem Step.initPost_stays (inv : RxInv layout rx) (stepped : Rx.Step rx event next)
    (returned : rx.initPost = .idle) : next.initPost = .idle := by
  have lock := inv.lock
  rw [LockInv] at lock
  have sets : ∀ {timer : Bool} {postBuf : PostBuf}, rx.postBuf timer ≠ .idle →
      (rx.setPostBuf timer postBuf).initPost = .idle := by
    intro timer postBuf busy
    cases timer with
    | false => exact absurd returned busy
    | true => exact returned
  have exits : ∀ {from_ : Rx} {poster : Poster} {index : Nat} (ret : Int),
      PosterAt rx index poster → from_.initPost = .idle →
      (from_.postExit poster index ret).initPost = .idle := by
    intro from_ poster index ret at_ same
    cases poster with
    | init =>
        have busy : rx.initPost = .wait index := at_
        rw [returned] at busy
        cases busy
    | timer => exact same
    | drain pipe => exact same
  cases stepped with
  | postBufNull walking | postBufWait walking | postBufDone walking => exact sets (by rw [walking]; simp)
  | postBufOn posted | postBufStop posted => exact sets (by rw [posted]; simp)
  | postDone held full | postNoMemory held needed | postUnmapped held needed
  | enqueueUndo held failed ring =>
      rw [held] at lock
      refine exits _ lock.2 ?_
      exact returned
  | _ => exact returned

end Steps

/-- What is kept until everything has come to its end. -/
structure Settling (layout : RxLayout) (start rx : Rx) : Prop where
  undisturbed : Undisturbed layout start rx
  sane : Sane rx
  replenished : rx.Replenished

/-- Everything has come to its end. -/
structure AtRest (rx : Rx) : Prop where
  quiet : rx.Quiet
  disarmed : rx.retryArmed = false

section Stages

variable {layout : RxLayout} {start rx next : Rx} {event : Event} {index : Nat}
  {answers : Answers} {process : Process} {P : Rx → Prop}

theorem Settling.step (settling : Settling layout start rx) (own : event.ofProcess = true)
    (stepped : rx.step event = some next) : Settling layout start next := by
  obtain ⟨_, taken⟩ := step_cases stepped
  have undisturbed := settling.undisturbed.step own stepped
  exact ⟨undisturbed, settling.sane.step settling.undisturbed.inv taken,
    settling.replenished.step settling.undisturbed.inv taken undisturbed.live⟩

theorem Settling.along (settling : Settling layout start rx)
    (comes : process.Comes answers P rx) :
    process.Comes answers (fun final => Settling layout start final ∧ P final) rx :=
  Reaches.always (Settling layout start)
    (fun _ _ _ picked stepped before => before.step (Process.event_ofProcess picked) stepped)
    settling comes

theorem settle_tasklet (inRange : index < rx.pipesCount) (busy : rx.drains index ≠ .idle)
    (ended : ∀ below < index, rx.drains below = .idle) :
    settle.next rx = (tasklet index).next rx := by
  have found : ((List.range rx.pipesCount).find? fun index => rx.drains index ≠ .idle) =
      some index := by
    rw [List.find?_range_eq_some]
    refine ⟨decide_eq_true busy, List.mem_range.mpr inRange, fun below less => ?_⟩
    simp [ended below less]
  simp only [settle, found]

theorem settle_postBuf (ended : ∀ index, rx.drains index = .idle) :
    settle.next rx =
      if rx.initPost ≠ .idle then (postBufCall false).next rx
      else if rx.timerPost ≠ .idle then (postBufCall true).next rx
      else if rx.retryArmed then some .timerFire
      else none := by
  have found : ((List.range rx.pipesCount).find? fun index => rx.drains index ≠ .idle) =
      none := by
    rw [List.find?_eq_none]
    simp [ended]
  simp only [settle, found]

/-- The tasklets below `count` have ended. -/
structure Drained (count : Nat) (rx : Rx) : Prop where
  free : rx.lock = .free
  ended : ∀ index < count, rx.drains index = .idle

theorem Settling.drained (settling : Settling layout start rx) {count : Nat}
    (le : count ≤ start.pipesCount) : settle.Comes answers (Drained count) rx := by
  induction count with
  | zero =>
      refine settling.undisturbed.release.trans fun next released => ?_
      exact .refl ⟨released.2, fun index less => absurd less (Nat.not_lt_zero index)⟩
  | succ count ih =>
      refine (settling.along (ih (Nat.le_of_succ_le le))).trans ?_
      rintro next ⟨settling, free, ended⟩
      have inRange : count < next.pipesCount := by
        rw [settling.undisturbed.count]
        exact le
      refine (Process.Comes.follow (fun rx => Settling layout start rx ∧
        ∀ below < count, rx.drains below = .idle) ?_ ?_ ⟨settling, ended⟩
        (settling.undisturbed.taskletEnds free (settling.sane count))).trans ?_
      · rintro rx event next ⟨settling, ended⟩ own stepped
        obtain ⟨_, taken⟩ := step_cases stepped
        exact ⟨settling.step own stepped, fun below less =>
          taken.idle_stays settling.undisturbed.inv own (ended below less)⟩
      · rintro rx event ⟨settling, ended⟩ picked
        have busy : rx.drains count ≠ .idle := by
          intro idle
          simp only [tasklet, idle] at picked
          cases picked
        rw [settle_tasklet (settling.undisturbed.inv.drains_lt count busy) busy ended]
        exact picked
      · rintro final ⟨⟨_, ended⟩, free, last⟩
        refine .refl ⟨free, fun below less => ?_⟩
        rcases Nat.lt_succ_iff_lt_or_eq.mp less with before | rfl
        · exact ended below before
        · exact last

/-- No tasklet runs and nobody holds the lock. -/
structure Undrained (layout : RxLayout) (start rx : Rx) : Prop where
  settling : Settling layout start rx
  ended : ∀ index, rx.drains index = .idle

theorem Undrained.step (state : Undrained layout start rx) (own : event.ofProcess = true)
    (stepped : rx.step event = some next) : Undrained layout start next := by
  obtain ⟨_, taken⟩ := step_cases stepped
  exact ⟨state.settling.step own stepped, fun index =>
    taken.idle_stays state.settling.undisturbed.inv own (state.ended index)⟩

theorem Settling.undrained (settling : Settling layout start rx) :
    settle.Comes answers (fun final => Undrained layout start final ∧ final.lock = .free)
      rx := by
  refine (settling.along (settling.drained (Nat.le_refl _))).trans ?_
  rintro next ⟨settling, free, ended⟩
  refine .refl ⟨⟨settling, fun index => ?_⟩, free⟩
  by_contra busy
  refine busy (ended index ?_)
  rw [← settling.undisturbed.count]
  exact settling.undisturbed.inv.drains_lt index busy

/-- The initialisation comes to its end. -/
theorem Undrained.initialised (state : Undrained layout start rx) (free : rx.lock = .free) :
    settle.Comes answers (fun final => Undrained layout start final ∧
      final.lock = .free ∧ final.initPost = .idle) rx := by
  have ends : (postBufCall false).Comes answers _ rx :=
    state.settling.undisturbed.postBufEnds free
  refine (Process.Comes.follow (Undrained layout start)
    (fun _ _ _ state own stepped => state.step own stepped) ?_ state ends).trans ?_
  · intro rx event state picked
    have busy : rx.initPost ≠ .idle := by
      intro idle
      simp [postBufCall, postBuf, idle] at picked
    rw [settle_postBuf state.ended, if_pos busy]
    exact picked
  · rintro final ⟨state, free, idle, _⟩
    exact .refl ⟨state, free, idle⟩

/-- Neither a tasklet nor the initialisation runs. -/
structure TimerOnly (layout : RxLayout) (start rx : Rx) : Prop where
  state : Undrained layout start rx
  initialised : rx.initPost = .idle

theorem TimerOnly.follow (only : TimerOnly layout start rx)
    (comes : (postBufCall true).Comes answers P rx) :
    settle.Comes answers (fun final => TimerOnly layout start final ∧ P final) rx := by
  refine Process.Comes.follow (TimerOnly layout start) ?_ ?_ only comes
  · intro rx event next only own stepped
    obtain ⟨_, taken⟩ := step_cases stepped
    exact ⟨only.state.step own stepped,
      taken.initPost_stays only.state.settling.undisturbed.inv only.initialised⟩
  · intro rx event only picked
    have busy : rx.timerPost ≠ .idle := by
      intro idle
      simp [postBufCall, postBuf, idle] at picked
    rw [settle_postBuf only.state.ended, if_neg (not_not_intro only.initialised), if_pos busy]
    exact picked

/-- The timer comes to its end, and if it is armed it fires once. -/
theorem TimerOnly.rests (only : TimerOnly layout start rx) (free : rx.lock = .free)
    (granted : Granted answers) :
    settle.Comes answers (fun final => Settling layout start final ∧ AtRest final) rx := by
  have rests : ∀ {rx : Rx}, TimerOnly layout start rx → rx.lock = .free →
      rx.timerPost = .idle → rx.retryArmed = false →
      Settling layout start rx ∧ AtRest rx := fun only free idle disarmed =>
    ⟨only.state.settling, ⟨free, only.initialised, idle, only.state.ended⟩, disarmed⟩
  refine (only.follow (only.state.settling.undisturbed.postBufEnds free)).trans ?_
  rintro next ⟨only, free, idle, _⟩
  have idle : next.timerPost = .idle := idle
  cases armed : next.retryArmed with
  | false => exact .refl (rests only free idle armed)
  | true =>
      have live := only.state.settling.undisturbed.live
      have picked : settle.event answers next = some .timerFire := by
        simp only [Process.event, free]
        rw [settle_postBuf only.state.ended]
        simp [only.initialised, idle, armed]
      have fires : next.step .timerFire =
          some { next with retryArmed := false, timerPost := .next 0 } := by
        simp only [Rx.step, Rx.timerFire, live, armed, idle]
        rfl
      have fired : TimerOnly layout start
          { next with retryArmed := false, timerPost := .next 0 } :=
        ⟨only.state.step rfl fires, only.initialised⟩
      have state : Filling layout start { next with retryArmed := false, timerPost := .next 0 }
          true 0 0 { next with retryArmed := false, timerPost := .next 0 } :=
        ⟨fired.state.settling.undisturbed, free, rfl,
          fun below less => absurd less (Nat.not_lt_zero below), rfl, .refl true _⟩
      refine .cons picked fires ((fired.follow state.completes).trans ?_)
      rintro final ⟨only, filled⟩
      refine .refl (rests only filled.free filled.idle ?_)
      exact (filled.full.resolve_right fun refused => refused.1 granted).2

theorem Settling.rests (settling : Settling layout start rx) (granted : Granted answers) :
    settle.Comes answers (fun final => Settling layout start final ∧ AtRest final) rx := by
  refine settling.undrained.trans ?_
  rintro next ⟨state, free⟩
  refine (state.initialised free).trans ?_
  rintro next ⟨state, free, initialised⟩
  exact TimerOnly.rests ⟨state, initialised⟩ free granted

/-- At rest no pipe lacks a buffer. -/
theorem AtRest.full (rest : AtRest rx) (replenished : rx.Replenished)
    (inRange : index < rx.pipesCount) : (rx.pipes index).rxBufNeeded = 0 := by
  obtain ⟨⟨_, init, timer, drains⟩, disarmed⟩ := rest
  by_contra lacks
  cases replenished index inRange lacks with
  | armed set =>
      rw [disarmed] at set
      cases set
  | drain covers =>
      rw [drains] at covers
      exact covers
  | failed posted arms =>
      rw [drains] at posted
      cases posted
  | init covers =>
      rw [init] at covers
      exact covers
  | timer covers =>
      rw [timer] at covers
      exact covers

theorem AtRest.nothing (rest : AtRest rx) : settle.event answers rx = none := by
  obtain ⟨⟨free, init, timer, drains⟩, disarmed⟩ := rest
  simp only [Process.event, free]
  rw [settle_postBuf drains]
  simp [init, timer, disarmed]

/-- The pipe's ring has all its buffers, up to the two entries that stay empty. -/
theorem AtRest.posted (rest : AtRest rx) (replenished : rx.Replenished)
    (inv : RxInv layout rx) (inRange : index < rx.pipesCount) :
    (rx.enqueued index).length + 2 = (rx.received index).length + layout.entries index := by
  obtain ⟨dst, status, counts, at_⟩ := inv.pipes index inRange
  have bound := at_.inv.posted_bound
  simp only [Rx.pipe, rest.full replenished inRange] at bound
  simpa using bound

end Stages

end Rx

section Runs

variable {hal hal' : Hal} {count : Nat} {memory : Nat → Fin 3 → RingMemory}
  {attrs : Nat → SrngTestAttr} {pipes : Nat → SrngTestPipe}

theorem Rx.Settling.reached (table : RxTable hal.srngConfig)
    (twoLe : ∀ index, index < count →
      2 ≤ (ringEntries (attrs index).destNentries).toNat)
    (done : dstTestSetup hal count memory attrs = (hal', pipes, none))
    {events : List Rx.Event} {rx : Rx}
    (reached : run Rx.step (.start hal' count pipes) events = some rx)
    (live : rx.live = true) :
    rx.pipesCount = count ∧ Rx.Settling (rxLayout hal.srngConfig attrs) rx rx := by
  obtain ⟨counted, _, _, _, inv, ⟨sane, replenished⟩, ⟨rfl, _⟩ | ended⟩ :=
    rx_invariant table twoLe done (fun rx => rx.Sane ∧ rx.Replenished)
      ⟨fun _ _ _ => Drain.noConfusion, fun index _ _ => .init (Nat.zero_le index)⟩
      (fun _ _ _ _ inv both stepped live =>
        ⟨both.1.step inv stepped, both.2.step inv stepped live⟩)
      (unrestricted events _) reached
  · exact ⟨counted, ⟨inv, live, rfl, rfl, fun _ => rfl⟩, sane, replenished⟩
  · cases ended
    contradiction

/-- What the module comes to from `start`. -/
structure Rx.Recovered (attrs : Nat → SrngTestAttr) (count : Nat) (start final : Rx) :
    Prop where
  quiet : final.Quiet
  disarmed : final.retryArmed = false
  devices : final.devices = start.devices
  full : ∀ index < count, (final.pipes index).rxBufNeeded = 0
  posted : ∀ index < count, (final.enqueued index).length + 2 =
    (final.received index).length + (ringEntries (attrs index).destNentries).toNat

theorem Rx.Settling.recovered {start final : Rx}
    (settling : Rx.Settling (rxLayout hal.srngConfig attrs) start final)
    (rest : final.AtRest) : Rx.Recovered attrs start.pipesCount start final where
  quiet := rest.quiet
  disarmed := rest.disarmed
  devices := settling.undisturbed.devices
  full := by
    intro index inRange
    rw [← settling.undisturbed.count] at inRange
    exact rest.full settling.replenished inRange
  posted := by
    intro index inRange
    rw [← settling.undisturbed.count] at inRange
    exact rest.posted settling.replenished settling.undisturbed.inv inRange

/-- Wherever the module is, its tasklets, its calls of `post_buf` and its retry timer come
to rest while memory is there, and then every ring has all its buffers. -/
theorem rx_settles (table : RxTable hal.srngConfig)
    (twoLe : ∀ index, index < count →
      2 ≤ (ringEntries (attrs index).destNentries).toNat)
    (done : dstTestSetup hal count memory attrs = (hal', pipes, none))
    {events : List Rx.Event} {rx : Rx}
    (reached : run Rx.step (.start hal' count pipes) events = some rx)
    (live : rx.live = true) {answers : Rx.Answers} (granted : Rx.Granted answers) :
    ∃ fuel final, alone (Rx.settle.event answers) Rx.step fuel rx = some final ∧
      Rx.settle.event answers final = none ∧ rx.Recovered attrs count final := by
  obtain ⟨rfl, settling⟩ := Rx.Settling.reached table twoLe done reached live
  obtain ⟨fuel, final, ended, after, rest⟩ := settling.rests granted
  exact ⟨fuel, final, ended, rest.nothing, after.recovered rest⟩

/-- The retry timer has fired after a failed initialisation, and the tasklet is in the
middle of `recv_next`. -/
def halfwayEvents : List Rx.Event :=
  onePost ++ [.deviceConsume 0, .deviceStoreTail 0, .deviceReport 0 60 0,
    .deviceStoreHead 0, .timerFire, .drainStart 0, .recvBegin 0, .recvTake]

theorem rx_settles_halfway :
    ∃ rx fuel final, run Rx.step (.start smallSetup.1 1 smallSetup.2.1) halfwayEvents =
        some rx ∧
      alone (Rx.settle.event fun _ => (some 2048, some 0x9000)) Rx.step fuel rx =
        some final ∧
      final.Quiet ∧ (final.pipes 0).rxBufNeeded = 0 := by
  have seen : (run Rx.step (.start smallSetup.1 1 smallSetup.2.1) halfwayEvents).map
      Rx.live = some true := by decide +kernel
  obtain ⟨rx, reached, live⟩ := Option.map_eq_some_iff.mp seen
  obtain ⟨fuel, final, ended, -, recovered⟩ :=
    rx_settles hwSrngConfigTemplate_table (fun _ _ => by decide +kernel) smallSetup_done
      reached live (fun _ => ⟨rfl, rfl⟩ : Rx.Granted fun _ => (some 2048, some 0x9000))
  exact ⟨rx, fuel, final, reached, ended, recovered.quiet, recovered.full 0 Nat.one_pos⟩

end Runs

end WirelessSimu
