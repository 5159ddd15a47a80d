import WirelessSimu.Rx.Agreement
import WirelessSimu.Rx.Progress

namespace WirelessSimu

open Data Kernel

/-! A call of `wireless_simu_test_dst_post_buf` when nothing runs beside it, by the
initialisation or by the retry timer: it fills the pipes one after the other. -/

namespace Rx

/-- The call, from `.next 0` on. -/
def postBufCall (timer : Bool) : Process where
  next rx :=
    match rx.postBuf timer with
    | .idle => none
    | .next _ => some (.postBufNext timer)
    | .wait _ => some (.postBufLock timer)
    | .posted _ _ => some (.postBufReturn timer)
  own := by
    intro rx event picked
    split at picked
    next => cases picked
    all_goals
      cases picked
      rfl

/-- The caller of `post_pipe`. -/
def postBufPoster (timer : Bool) : Poster :=
  if timer then .timer else .init

section Calls

variable {layout : RxLayout} {start origin rx : Rx} {timer : Bool} {first index : Nat}
  {answers : Answers}

theorem postReturned_postBuf {ret : Int}
    (returned : PostReturned rx index ret (postBufPoster timer)) :
    rx.postBuf timer = .posted index ret := by
  cases timer with
  | false => exact returned
  | true => exact returned

theorem postBuf_setPostBuf_self (rx : Rx) (timer : Bool) (postBuf : PostBuf) :
    (rx.setPostBuf timer postBuf).postBuf timer = postBuf := by
  rw [postBuf_setPostBuf, if_pos rfl]

theorem retryArmed_setPostBuf (rx : Rx) (timer : Bool) (postBuf : PostBuf) :
    (rx.setPostBuf timer postBuf).retryArmed = rx.retryArmed := by
  cases timer with
  | false => rfl
  | true => rfl

/-- What the call leaves alone. -/
structure PostBufFrame (timer : Bool) (before after : Rx) : Prop where
  drains : after.drains = before.drains
  received : after.received = before.received
  other : after.postBuf (!timer) = before.postBuf (!timer)

theorem PostBufFrame.refl (timer : Bool) (rx : Rx) : PostBufFrame timer rx rx :=
  ⟨rfl, rfl, rfl⟩

theorem PostBufFrame.trans {before middle after : Rx} (first : PostBufFrame timer before middle)
    (second : PostBufFrame timer middle after) : PostBufFrame timer before after :=
  ⟨second.drains.trans first.drains, second.received.trans first.received,
    second.other.trans first.other⟩

theorem PostBufFrame.set (rx : Rx) (timer : Bool) (postBuf : PostBuf) :
    PostBufFrame timer rx (rx.setPostBuf timer postBuf) := by
  cases timer with
  | false => exact ⟨rfl, rfl, rfl⟩
  | true => exact ⟨rfl, rfl, rfl⟩

theorem PostFrame.set (rx : Rx) (timer : Bool) (index : Nat) (postBuf : PostBuf) :
    PostFrame (postBufPoster timer) index rx (rx.setPostBuf timer postBuf) := by
  cases timer with
  | false =>
      exact ⟨rfl, rfl, fun _ _ => rfl, fun _ _ => rfl, fun apart => absurd rfl apart,
        fun _ => rfl⟩
  | true =>
      exact ⟨rfl, rfl, fun _ _ => rfl, fun _ _ => rfl, fun _ => rfl,
        fun apart => absurd rfl apart⟩

theorem PostFrame.postBuf {before after : Rx}
    (frame : PostFrame (postBufPoster timer) index before after) :
    PostBufFrame timer before after := by
  cases timer with
  | false =>
      refine ⟨funext fun other => frame.drains other ?_, frame.received,
        frame.timerPost ?_⟩
      all_goals simp [postBufPoster]
  | true =>
      refine ⟨funext fun other => frame.drains other ?_, frame.received,
        frame.initPost ?_⟩
      all_goals simp [postBufPoster]

/-- The call, which was at `first` in `origin`, comes to `index`; the pipes between are
full. -/
structure Filling (layout : RxLayout) (start origin : Rx) (timer : Bool)
    (first index : Nat) (rx : Rx) : Prop where
  undisturbed : Undisturbed layout start rx
  free : rx.lock = .free
  next : rx.postBuf timer = .next index
  full : ∀ below < index, first ≤ below → (rx.pipes below).rxBufNeeded = 0
  retryArmed : rx.retryArmed = origin.retryArmed
  frame : PostBufFrame timer origin rx

/-- The call has returned. -/
structure Filled (answers : Answers) (origin : Rx) (timer : Bool) (first : Nat)
    (rx : Rx) : Prop where
  free : rx.lock = .free
  idle : rx.postBuf timer = .idle
  full : (∀ index < rx.pipesCount, first ≤ index → (rx.pipes index).rxBufNeeded = 0) ∧
      rx.retryArmed = origin.retryArmed ∨
    ¬ Granted answers ∧ rx.retryArmed = true
  frame : PostBufFrame timer origin rx

/-- `post_pipe` takes the lock, fills the pipe or gives up, and returns. -/
theorem Undisturbed.postBufWaits (undisturbed : Undisturbed layout start rx)
    (free : rx.lock = .free) (waiting : rx.postBuf timer = .wait index)
    (frame : PostFrame (postBufPoster timer) index origin rx) :
    (postBufCall timer).Comes answers
      (Posted answers origin (postBufPoster timer) index) rx := by
  have live := undisturbed.live
  have picked : (postBufCall timer).event answers rx = some (.postBufLock timer) := by
    simp only [Process.event, postBufCall, free, waiting]
  have locks : rx.step (.postBufLock timer) =
      some { rx with lock := .postLoop (postBufPoster timer) index } := by
    simp only [Rx.step, live, Rx.postBufLock, waiting, free]
    rfl
  have entered : Posting layout start origin (postBufPoster timer) index
      { rx with lock := .postLoop (postBufPoster timer) index } :=
    ⟨undisturbed.step rfl locks, rfl, frame.trans (.entered _ _ rx rx.buffers rx.hal _)⟩
  exact .cons picked locks entered.ends

theorem Filling.posts (state : Filling layout start origin timer first index rx)
    (inRange : index < rx.pipesCount) :
    (postBufCall timer).Comes answers
      (Posted answers rx (postBufPoster timer) index) rx := by
  obtain ⟨dst, status, counts, at_⟩ := state.undisturbed.inv.pipes index inRange
  have live := state.undisturbed.live
  have rings := at_.rings
  have begun := state.next
  have free := state.free
  have picked : (postBufCall timer).event answers rx = some (.postBufNext timer) := by
    simp only [Process.event, postBufCall, free, begun]
  have looks : rx.step (.postBufNext timer) =
      some (rx.setPostBuf timer (.wait index)) := by
    simp only [step, live, postBufNext, begun, inRange, rings]
    rfl
  refine .cons picked looks ((state.undisturbed.step rfl looks).postBufWaits ?_
    (postBuf_setPostBuf_self ..) (.set rx timer index _))
  rw [lock_setPostBuf, free]

theorem postBufCall_returns {ret : Int} (free : rx.lock = .free)
    (posted : rx.postBuf timer = .posted index ret) :
    (postBufCall timer).event answers rx = some (.postBufReturn timer) := by
  simp only [Process.event, postBufCall, free, posted]

theorem step_postBufOn {ret : Int} (live : rx.live = true)
    (posted : rx.postBuf timer = .posted index ret) (mild : ret = 0 ∨ ret = -enospc) :
    rx.step (.postBufReturn timer) = some (rx.setPostBuf timer (.next (index + 1))) := by
  simp only [step, live, postBufReturn, posted, if_pos mild]
  rfl

theorem step_postBufStop {ret : Int} (live : rx.live = true)
    (posted : rx.postBuf timer = .posted index ret) (failed : ¬ (ret = 0 ∨ ret = -enospc)) :
    rx.step (.postBufReturn timer) =
      some { rx.setPostBuf timer .idle with retryArmed := true } := by
  simp only [step, live, postBufReturn, posted, if_neg failed]
  rfl

/-- The return from `post_pipe`: the next pipe is looked at, or the call gives up. -/
theorem Filling.returns (state : Filling layout start origin timer first index rx)
    {posted : Rx} (undisturbed : Undisturbed layout start posted)
    (ended : Posted answers rx (postBufPoster timer) index posted) :
    (postBufCall timer).Comes answers (fun next =>
      Filling layout start origin timer first (index + 1) next ∨
        Filled answers origin timer first next) posted := by
  obtain ⟨free, ⟨ret, returned, outcome⟩, frame⟩ := ended
  have at_ := postReturned_postBuf returned
  have live := undisturbed.live
  have soFar := state.frame.trans frame.postBuf
  have picked : (postBufCall timer).event answers posted = some (.postBufReturn timer) :=
    postBufCall_returns free at_
  rcases outcome with ⟨rfl, filled⟩ | ⟨refused, code⟩
  · have goesOn := step_postBufOn live at_ (.inl rfl)
    refine .cons picked goesOn (.refl (.inl ⟨undisturbed.step rfl goesOn, ?_,
      postBuf_setPostBuf_self .., ?_, ?_, soFar.trans (.set posted timer _)⟩))
    · rw [lock_setPostBuf, free]
    · intro below less least
      rw [pipes_setPostBuf]
      rcases Nat.lt_succ_iff_lt_or_eq.mp less with before | rfl
      · rw [frame.pipes below (Nat.ne_of_lt before)]
        exact state.full below before least
      · exact filled
    · rw [retryArmed_setPostBuf, frame.retryArmed, state.retryArmed]
  · have failed : ¬ (ret = 0 ∨ ret = -enospc) := by
      obtain rfl | rfl := code
      · simp [enomem, enospc]
      · simp [eio, enospc]
    have last := soFar.trans (.set posted timer .idle)
    refine .cons picked (step_postBufStop live at_ failed) (.refl (.inr ⟨?_, ?_,
      .inr ⟨refused, rfl⟩, ⟨last.drains, last.received, last.other⟩⟩))
    · simp only [lock_setPostBuf, free]
    · exact postBuf_setPostBuf_self posted timer .idle

/-- Behind the last pipe the call returns. -/
theorem Filling.last (state : Filling layout start origin timer first index rx)
    (past : ¬ index < rx.pipesCount) :
    (postBufCall timer).Comes answers (Filled answers origin timer first) rx := by
  have live := state.undisturbed.live
  have begun := state.next
  have free := state.free
  have picked : (postBufCall timer).event answers rx = some (.postBufNext timer) := by
    simp only [Process.event, postBufCall, free, begun]
  have ends : rx.step (.postBufNext timer) = some (rx.setPostBuf timer .idle) := by
    simp only [step, live, postBufNext, begun, if_neg past]
    rfl
  refine .cons picked ends (.refl ⟨?_, postBuf_setPostBuf_self .., .inl ⟨?_, ?_⟩,
    state.frame.trans (.set rx timer .idle)⟩)
  · rw [lock_setPostBuf, free]
  · intro below less least
    rw [pipesCount_setPostBuf] at less
    rw [pipes_setPostBuf]
    exact state.full below (by omega) least
  · rw [retryArmed_setPostBuf, state.retryArmed]

theorem Filling.completes (state : Filling layout start origin timer first index rx) :
    (postBufCall timer).Comes answers (Filled answers origin timer first) rx := by
  generalize ahead : start.pipesCount - index = left
  induction left generalizing index rx with
  | zero =>
      refine state.last ?_
      rw [state.undisturbed.count]
      omega
  | succ left ih =>
      have inRange : index < rx.pipesCount := by
        rw [state.undisturbed.count]
        omega
      refine (state.undisturbed.along (state.posts inRange)).trans ?_
      rintro posted ⟨undisturbed, ended⟩
      refine (state.returns undisturbed ended).trans ?_
      rintro next (further | ended)
      · exact ih further (by omega)
      · exact .refl ended

/-- A call comes to its end from wherever it is. -/
theorem Undisturbed.postBufEnds (undisturbed : Undisturbed layout start rx)
    (free : rx.lock = .free) :
    (postBufCall timer).Comes answers (fun final => final.lock = .free ∧
      final.postBuf timer = .idle ∧ PostBufFrame timer rx final) rx := by
  have walks : ∀ {from_ : Rx} {index : Nat}, Undisturbed layout start from_ →
      from_.lock = .free → from_.postBuf timer = .next index → PostBufFrame timer rx from_ →
      (postBufCall timer).Comes answers (fun final => final.lock = .free ∧
        final.postBuf timer = .idle ∧ PostBufFrame timer rx final) from_ := by
    intro from_ index undisturbed free next frame
    have state : Filling layout start from_ timer index index from_ :=
      ⟨undisturbed, free, next, fun below less least => absurd least (Nat.not_le.mpr less),
        rfl, .refl timer from_⟩
    exact state.completes.trans fun _ filled =>
      .refl ⟨filled.free, filled.idle, frame.trans filled.frame⟩
  have returns : ∀ {from_ : Rx} {index : Nat} {ret : Int}, Undisturbed layout start from_ →
      from_.lock = .free → from_.postBuf timer = .posted index ret →
      PostBufFrame timer rx from_ →
      (postBufCall timer).Comes answers (fun final => final.lock = .free ∧
        final.postBuf timer = .idle ∧ PostBufFrame timer rx final) from_ := by
    intro from_ index ret undisturbed free posted frame
    have picked : (postBufCall timer).event answers from_ = some (.postBufReturn timer) :=
      postBufCall_returns free posted
    by_cases mild : ret = 0 ∨ ret = -enospc
    · have goesOn := step_postBufOn undisturbed.live posted mild
      refine .cons picked goesOn (walks (undisturbed.step rfl goesOn) ?_
        (postBuf_setPostBuf_self ..) (frame.trans (.set from_ timer _)))
      rw [lock_setPostBuf, free]
    · have last := frame.trans (.set from_ timer .idle)
      refine .cons picked (step_postBufStop undisturbed.live posted mild) (.refl ⟨?_,
        postBuf_setPostBuf_self from_ timer .idle, last.drains, last.received, last.other⟩)
      simp only [lock_setPostBuf, free]
  cases at_ : rx.postBuf timer with
  | idle => exact .refl ⟨free, at_, .refl timer rx⟩
  | next index => exact walks undisturbed free at_ (.refl timer rx)
  | wait index =>
      have waits : (postBufCall timer).Comes answers _ rx :=
        undisturbed.along (undisturbed.postBufWaits free at_ (.refl _ index rx))
      refine waits.trans ?_
      rintro posted ⟨undisturbed', free', ⟨ret, returned, _⟩, frame⟩
      exact returns undisturbed' free' (postReturned_postBuf returned) frame.postBuf
  | posted index ret => exact returns undisturbed free at_ (.refl timer rx)

end Calls

end Rx

section Runs

variable {hal hal' : Hal} {count : Nat} {memory : Nat → Fin 3 → RingMemory}
  {attrs : Nat → SrngTestAttr} {pipes : Nat → SrngTestPipe}

/-- The retry timer, or the initialisation at its start, fills every pipe or has the
timer armed again, and a failure has its reason in a refusal. -/
theorem postBuf_completes (table : RxTable hal.srngConfig)
    (twoLe : ∀ index, index < count →
      2 ≤ (ringEntries (attrs index).destNentries).toNat)
    (done : dstTestSetup hal count memory attrs = (hal', pipes, none))
    {events : List Rx.Event} {rx : Rx}
    (reached : run Rx.step (.start hal' count pipes) events = some rx)
    (live : rx.live = true) (free : rx.lock = .free) {timer : Bool}
    (begun : rx.postBuf timer = .next 0) (answers : Rx.Answers) :
    ∃ fuel final,
      alone ((Rx.postBufCall timer).event answers) Rx.step fuel rx = some final ∧
      final.postBuf timer = .idle ∧ final.lock = .free ∧
      final.devices = rx.devices ∧ final.drains = rx.drains ∧
      final.received = rx.received ∧ final.postBuf (!timer) = rx.postBuf (!timer) ∧
      ((∀ index < count, (final.pipes index).rxBufNeeded = 0) ∧
          final.retryArmed = rx.retryArmed ∨
        ¬ Rx.Granted answers ∧ final.retryArmed = true) := by
  obtain ⟨counted, _, _, _, inv, -, ⟨rfl, _⟩ | ended⟩ :=
    rx_invariant table twoLe done (fun _ => True) trivial (fun _ _ _ _ _ _ _ _ => trivial)
      (unrestricted events _) reached
  · have undisturbed : Rx.Undisturbed (rxLayout hal.srngConfig attrs) rx rx :=
      ⟨inv, live, rfl, rfl, fun _ => rfl⟩
    have state : Rx.Filling (rxLayout hal.srngConfig attrs) rx rx timer 0 0 rx :=
      ⟨undisturbed, free, begun, fun below less => absurd less (Nat.not_lt_zero below), rfl,
        .refl timer rx⟩
    have reaches : (Rx.postBufCall timer).Comes answers _ _ :=
      undisturbed.along state.completes
    obtain ⟨fuel, final, ended, after, filled⟩ := reaches
    refine ⟨fuel, final, ended, filled.idle, filled.free, after.devices,
      filled.frame.drains, filled.frame.received, filled.frame.other, ?_⟩
    refine filled.full.imp (fun full => ⟨fun index inRange => ?_, full.2⟩) id
    refine full.1 index ?_ (Nat.zero_le index)
    rw [after.count, counted]
    exact inRange
  · cases ended
    contradiction

/-- The initialisation ran out of memory; the timer posts the buffer that is missing. -/
theorem postBuf_completes_retry :
    ∃ rx fuel final, run Rx.step (.start smallSetup.1 1 smallSetup.2.1)
        (onePost ++ [.timerFire]) = some rx ∧
      (rx.pipes 0).rxBufNeeded = 1 ∧
      alone ((Rx.postBufCall true).event fun _ => (some 2048, some 0x9000)) Rx.step fuel rx =
        some final ∧
      final.timerPost = .idle ∧ (final.pipes 0).rxBufNeeded = 0 := by
  have seen : (run Rx.step (.start smallSetup.1 1 smallSetup.2.1)
      (onePost ++ [.timerFire])).map
      (fun rx => (rx.live, rx.lock.isFree, rx.postBuf true, (rx.pipes 0).rxBufNeeded)) =
      some (true, true, .next 0, 1) := by decide +kernel
  obtain ⟨rx, reached, values⟩ := Option.map_eq_some_iff.mp seen
  simp only [Prod.mk.injEq] at values
  obtain ⟨live, free, begun, needed⟩ := values
  obtain ⟨fuel, final, ended, idle, -, -, -, -, -, full⟩ :=
    postBuf_completes hwSrngConfigTemplate_table (fun _ _ => by decide +kernel)
      smallSetup_done reached live (RxLock.eq_free free) begun
      fun _ => (some 2048, some 0x9000)
  refine ⟨rx, fuel, final, reached, needed, ended, idle, ?_⟩
  rcases full with full | refused
  · exact full.1 0 Nat.one_pos
  · exact absurd (fun _ => ⟨rfl, rfl⟩) refused.1

end Runs

end WirelessSimu
