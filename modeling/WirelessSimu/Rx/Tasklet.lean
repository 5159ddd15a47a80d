import WirelessSimu.Rx.Agreement
import WirelessSimu.Rx.Progress

namespace WirelessSimu

open Data Kernel

/-! The tasklet of one pipe when nothing runs beside it: it receives all that the device
announced, frees the frames, posts new buffers and ends. -/

namespace Rx

/-- The tasklet of the pipe, from its start on. -/
def tasklet (index : Nat) : Process where
  next rx :=
    match rx.drains index with
    | .idle => none
    | .recv _ => some (.recvBegin index)
    | .took _ _ _ => some (.drainTake index)
    | .flush _ => some (.drainFlush index)
    | .post => some (.drainPost index)
    | .wait => some (.drainLock index)
    | .posted _ => some (.drainReturn index)
  own := by
    intro rx event picked
    split at picked
    next => cases picked
    all_goals
      cases picked
      rfl

/-! The receive loop. -/

section Receive

variable {layout : RxLayout} {start rx : Rx} {index : Nat} {dst status : SrngTestRing}
  {answers : Answers} {P : Rx → Prop} {list : List Nat}

/-- A whole call of `recv_next` is three steps. -/
theorem comes_recvNext (undisturbed : Undisturbed layout start rx) (free : rx.lock = .free)
    (receiving : rx.drains index = .recv list)
    (rings : rx.rings index = some (dst, status))
    (rest : ∀ next, next = rx.recvState index status list
      (testDstRecvNext (halSrngAccessBegin rx.hal status.halRingId.toNat) (rx.pipes index)
        dst status dst.swIndex) → Undisturbed layout start next →
      (tasklet index).Comes answers P next) :
    (tasklet index).Comes answers P rx := by
  have live := undisturbed.live
  obtain ⟨dst', after⟩ := rings_recvResult rings
    (halSrngAccessBegin rx.hal status.halRingId.toNat) dst.swIndex
  have begun := step_recvBegin live free receiving rings
  have taken := @step_recvTake
    { rx with
      hal := halSrngAccessBegin rx.hal status.halRingId.toNat
      lock := .recvBegun index dst.swIndex } index dst status dst.swIndex live rfl rings
  have ended := @step_recvEnd (rx.recvResult index
    (testDstRecvNext (halSrngAccessBegin rx.hal status.halRingId.toNat) (rx.pipes index)
      dst status dst.swIndex)) index list dst' status _ live rfl receiving after
  have after := ((undisturbed.step rfl begun).step rfl taken).step rfl ended
  refine Reaches.cons ?_ begun (Reaches.cons rfl taken (Reaches.cons rfl ended
    (rest _ rfl after)))
  simp only [Process.event, free, tasklet, receiving]

/-- The body of the loop keeps the buffer or frees it, and the loop goes on. -/
theorem comes_drainTake {skb : Nat} {nbytes : UInt32}
    (undisturbed : Undisturbed layout start rx) (free : rx.lock = .free)
    (took : rx.drains index = .took list (some skb) nbytes)
    (rest : ∀ list buffers, (tasklet index).Comes answers P
      { rx.setDrain index (.recv list) with buffers := buffers }) :
    (tasklet index).Comes answers P rx := by
  have picked : (tasklet index).event answers rx = some (.drainTake index) := by
    simp only [Process.event, free, tasklet, took]
  have taken : rx.step (.drainTake index) = rx.drainTake index := by
    simp [step, undisturbed.live]
  by_cases long : (rx.buffers.skb skb).room < nbytes
  · refine Reaches.cons picked ?_ (rest list ((rx.unmapped skb).devKfreeSkb skb))
    rw [taken, Rx.drainTake, took]
    simp only [if_pos long]
    rfl
  · obtain ⟨buffers, put⟩ := undisturbed.inv.blank.skbPut took long
    refine Reaches.cons picked ?_ (rest (list ++ [skb]) buffers)
    rw [unmapped] at put
    rw [taken, Rx.drainTake, took]
    simp only [if_neg long, put]
    rfl

/-- The loop has received some of the `heads` entries that the device announced. -/
structure Receiving (layout : RxLayout) (start : Rx) (index heads : Nat) (rx : Rx) :
    Prop where
  undisturbed : Undisturbed layout start rx
  free : rx.lock = .free
  receiving : ∃ list, rx.drains index = .recv list
  at_ : ∃ dst status counts, PipeAt layout rx index dst status counts ∧ counts.head = heads

/-- The loop is over with all of them. -/
structure Received (index heads : Nat) (rx : Rx) : Prop where
  free : rx.lock = .free
  flushing : ∃ list, rx.drains index = .flush list
  all : (rx.received index).length = heads

/-- A turn of the loop receives one more, or ends it. -/
theorem Receiving.turn {heads : Nat} (state : Receiving layout start index heads rx) :
    (tasklet index).Comes answers (Received index heads) rx ∨
      (tasklet index).Comes answers (fun next => Receiving layout start index heads next ∧
        heads - (next.received index).length < heads - (rx.received index).length) rx := by
  obtain ⟨list, receiving⟩ := state.receiving
  obtain ⟨dst, status, counts, at_, rfl⟩ := state.at_
  have live := state.undisturbed.live
  have begun := at_.inv.recvBegin
  obtain ⟨caught, outcome⟩ | ⟨ahead, hal', skb, nbytes, outcome, -, -, received⟩ :=
    begun.recvTake (rx.pipes index)
  · left
    refine comes_recvNext state.undisturbed state.free receiving at_.rings ?_
    rintro next rfl -
    simp only [Rx.pipe, RxPipe.statusId] at outcome
    rw [outcome]
    exact .refl ⟨rfl, ⟨list, Function.update_self ..⟩, caught⟩
  · right
    have goesOn : (tasklet index).Comes answers (fun next => next.lock = .free ∧
        (∃ list, next.drains index = .recv list) ∧
        (∃ dst status counts', PipeAt layout next index dst status counts' ∧
          counts'.head = counts.head) ∧
        (next.received index).length = (rx.received index).length + 1) rx := by
      refine comes_recvNext state.undisturbed state.free receiving at_.rings ?_
      rintro next rfl undisturbed
      simp only [Rx.pipe, RxPipe.statusId] at outcome
      rw [outcome] at undisturbed ⊢
      refine comes_drainTake undisturbed rfl (Function.update_self ..) fun list' buffers =>
        .refl ?_
      refine ⟨rfl, ⟨list', Function.update_self ..⟩, ?_, ?_⟩
      · refine ⟨dst.take dst.swIndex, status, { counts with cachedHead := counts.head },
          ⟨?_, at_.dstId_eq, at_.statusId_eq, ?_, trivial⟩, rfl⟩
        · exact rings_recvResult_take at_.rings hal' dst.swIndex (some skb, nbytes)
        · have ended := received.recvEnd
          have same := @pipe_recvResult_take rx index dst status hal' dst.swIndex
            (some skb, nbytes)
          simp only [Rx.pipe] at same ended
          rw [← same] at ended
          exact ended
      · simp [recvState, recvResult, setDrain, setPipe]
    refine (state.undisturbed.along goesOn).trans ?_
    rintro next ⟨undisturbed, free, again, at_', more⟩
    have ordered : (rx.received index).length < counts.head := ahead
    exact .refl ⟨⟨undisturbed, free, again, at_'⟩, by omega⟩

theorem Receiving.ends {heads : Nat} (state : Receiving layout start index heads rx) :
    (tasklet index).Comes answers (Received index heads) rx :=
  Reaches.loop (Receiving layout start index heads)
    (fun rx => heads - (rx.received index).length) (fun _ state => state.turn) state

end Receive

/-! The rest: the frames are freed, buffers are posted, the tasklet returns. -/

section Rest

variable {layout : RxLayout} {start rx : Rx} {index : Nat} {answers : Answers}
  {list : List Nat}

/-- Freeing the frames changes nothing of what was received. -/
theorem comes_flush (live : rx.live = true) (free : rx.lock = .free)
    (flushing : rx.drains index = .flush list) :
    (tasklet index).Comes answers (fun next => next.lock = .free ∧
      next.drains index = .post ∧ next.received = rx.received) rx := by
  have picked : ∀ {rx : Rx} {list : List Nat}, rx.lock = .free →
      rx.drains index = .flush list →
      (tasklet index).event answers rx = some (.drainFlush index) := by
    intro rx list free flushing
    simp only [Process.event, free, tasklet, flushing]
  induction list generalizing rx with
  | nil =>
      have flushed : rx.step (.drainFlush index) = some (rx.setDrain index .post) := by
        simp only [step, live, drainFlush, flushing]
        rfl
      exact .cons (picked free flushing) flushed
        (.refl ⟨free, Function.update_self .., rfl⟩)
  | cons skb list ih =>
      have flushed : rx.step (.drainFlush index) = some
          { rx.setDrain index (.flush list) with
            buffers := rx.buffers.devKfreeSkb skb } := by
        simp only [step, live, drainFlush, flushing]
        rfl
      exact .cons (picked free flushing) flushed (ih live free (Function.update_self ..))

/-- `post_pipe` takes the lock and gives it back. -/
theorem Undisturbed.drainWaits {origin : Rx} (undisturbed : Undisturbed layout start rx)
    (free : rx.lock = .free) (waiting : rx.drains index = .wait)
    (frame : PostFrame (.drain index) index origin rx) :
    (tasklet index).Comes answers (Posted answers origin (.drain index) index) rx := by
  have live := undisturbed.live
  have picked : (tasklet index).event answers rx = some (.drainLock index) := by
    simp only [Process.event, free, tasklet, waiting]
  have locks : rx.step (.drainLock index) =
      some { rx with lock := .postLoop (.drain index) index } := by
    simp only [Rx.step, live, Rx.drainLock, waiting, free]
    rfl
  have entered : Posting layout start origin (.drain index) index
      { rx with lock := .postLoop (.drain index) index } :=
    ⟨undisturbed.step rfl locks, rfl, frame.trans (.entered _ _ rx rx.buffers rx.hal _)⟩
  exact .cons picked locks entered.ends

theorem Undisturbed.drainPost (undisturbed : Undisturbed layout start rx)
    (free : rx.lock = .free) (posting : rx.drains index = .post) :
    (tasklet index).Comes answers (Posted answers rx (.drain index) index) rx := by
  have inRange := undisturbed.inv.drains_lt index (by rw [posting]; simp)
  obtain ⟨dst, status, counts, at_⟩ := undisturbed.inv.pipes index inRange
  have live := undisturbed.live
  have rings := at_.rings
  have picked : (tasklet index).event answers rx = some (.drainPost index) := by
    simp only [Process.event, free, tasklet, posting]
  have looks : rx.step (.drainPost index) = some (rx.setDrain index .wait) := by
    simp only [Rx.step, live, Rx.drainPost, posting, rings]
    rfl
  have frame : PostFrame (.drain index) index rx (rx.setDrain index .wait) := by
    refine ⟨rfl, rfl, fun _ _ => rfl, fun other apart => ?_, fun _ => rfl, fun _ => rfl⟩
    have different : other ≠ index := by
      rintro rfl
      exact apart rfl
    exact Function.update_of_ne different _ _
  exact .cons picked looks ((undisturbed.step rfl looks).drainWaits free
    (Function.update_self ..) frame)

theorem comes_drainReturn {ret : Int} {P : Rx → Prop} (live : rx.live = true)
    (free : rx.lock = .free) (posted : rx.drains index = .posted ret)
    (after : P { rx.setDrain index .idle with
      retryArmed := rx.retryArmed || (ret ≠ 0 && ret ≠ -enospc) }) :
    (tasklet index).Comes answers P rx := by
  have picked : (tasklet index).event answers rx = some (.drainReturn index) := by
    simp only [Process.event, free, tasklet, posted]
  have returned : rx.step (.drainReturn index) = some
      { rx.setDrain index .idle with
        retryArmed := rx.retryArmed || (ret ≠ 0 && ret ≠ -enospc) } := by
    simp only [step, live, drainReturn, posted]
    rfl
  exact .cons picked returned (.refl after)

/-- The tasklet has ended with `heads` frames received so far. -/
structure Completed (index heads : Nat) (answers : Answers) (rx : Rx) : Prop where
  idle : rx.drains index = .idle
  free : rx.lock = .free
  all : (rx.received index).length = heads
  refilled : (rx.pipes index).rxBufNeeded = 0 ∨ ¬ Granted answers ∧ rx.retryArmed = true

/-- The call of `post_pipe` in the tasklet is in progress or about to begin. -/
theorem Undisturbed.refills (undisturbed : Undisturbed layout start rx)
    (free : rx.lock = .free)
    (posting : rx.drains index = .post ∨ rx.drains index = .wait) :
    (tasklet index).Comes answers
      (Completed index (rx.received index).length answers) rx := by
  have posts : (tasklet index).Comes answers (Posted answers rx (.drain index) index) rx := by
    rcases posting with post | waiting
    · exact undisturbed.drainPost free post
    · exact undisturbed.drainWaits free waiting (.refl _ index rx)
  refine (undisturbed.along posts).trans ?_
  rintro posted ⟨undisturbed', free', ⟨ret, returned, outcome⟩, frame⟩
  refine comes_drainReturn undisturbed'.live free' returned
    ⟨Function.update_self .., free', congrArg (fun log => List.length (log index))
      frame.received, ?_⟩
  refine outcome.imp (fun full => full.2) fun refused => ⟨refused.1, ?_⟩
  obtain rfl | rfl := refused.2
  · simp [enomem, enospc]
  · simp [eio, enospc]

theorem Received.completes {heads : Nat} (state : Received index heads rx)
    (undisturbed : Undisturbed layout start rx) :
    (tasklet index).Comes answers (Completed index heads answers) rx := by
  obtain ⟨free, ⟨list, flushing⟩, rfl⟩ := state
  refine (undisturbed.along (comes_flush undisturbed.live free flushing)).trans ?_
  rintro posting ⟨undisturbed', free', post, received⟩
  rw [← received]
  exact undisturbed'.refills free' (.inl post)

theorem Receiving.completes {heads : Nat} (state : Receiving layout start index heads rx) :
    (tasklet index).Comes answers (fun final => Undisturbed layout start final ∧
      Completed index heads answers final) rx := by
  refine state.undisturbed.along ((state.undisturbed.along state.ends).trans ?_)
  exact fun flushing ⟨undisturbed, received⟩ => received.completes undisturbed

theorem Undisturbed.receiving (undisturbed : Undisturbed layout start rx)
    (free : rx.lock = .free) (receiving : rx.drains index = .recv list) :
    ∃ heads, Receiving layout start index heads rx := by
  have inRange := undisturbed.inv.drains_lt index (by rw [receiving]; simp)
  obtain ⟨dst, status, counts, at_⟩ := undisturbed.inv.pipes index inRange
  exact ⟨counts.head, undisturbed, free, ⟨list, receiving⟩, dst, status, counts, at_, rfl⟩

/-- A tasklet that holds no NULL buffer comes to its end from wherever it is. -/
theorem Undisturbed.taskletEnds (undisturbed : Undisturbed layout start rx)
    (free : rx.lock = .free)
    (sane : ∀ list nbytes, rx.drains index ≠ .took list none nbytes) :
    (tasklet index).Comes answers
      (fun final => final.lock = .free ∧ final.drains index = .idle) rx := by
  have ends : ∀ {rx : Rx} {heads : Nat}, (tasklet index).Comes answers
        (Completed index heads answers) rx →
      (tasklet index).Comes answers
        (fun final => final.lock = .free ∧ final.drains index = .idle) rx :=
    fun comes => comes.trans fun _ completed => .refl ⟨completed.free, completed.idle⟩
  have receives : ∀ {rx : Rx} {list : List Nat}, Undisturbed layout start rx →
      rx.lock = .free → rx.drains index = .recv list →
      (tasklet index).Comes answers
        (fun final => final.lock = .free ∧ final.drains index = .idle) rx := by
    intro rx list undisturbed free receiving
    obtain ⟨heads, state⟩ := undisturbed.receiving free receiving
    exact state.completes.trans fun _ completed =>
      .refl ⟨completed.2.free, completed.2.idle⟩
  cases at_ : rx.drains index with
  | idle => exact .refl ⟨free, at_⟩
  | recv list => exact receives undisturbed free at_
  | took list skb nbytes =>
      cases skb with
      | none => exact absurd at_ (sane list nbytes)
      | some skb =>
          have again : (tasklet index).Comes answers (fun next => next.lock = .free ∧
              ∃ list, next.drains index = .recv list) rx :=
            comes_drainTake undisturbed free at_ fun list' buffers =>
              .refl ⟨free, list', Function.update_self ..⟩
          refine (undisturbed.along again).trans ?_
          rintro next ⟨undisturbed, free, list, receiving⟩
          exact receives undisturbed free receiving
  | flush list =>
      have state : Received index (rx.received index).length rx := ⟨free, ⟨list, at_⟩, rfl⟩
      exact ends (state.completes undisturbed)
  | post => exact ends (undisturbed.refills free (.inl at_))
  | wait => exact ends (undisturbed.refills free (.inr at_))
  | posted ret =>
      exact comes_drainReturn undisturbed.live free at_ ⟨free, Function.update_self ..⟩

end Rest

end Rx

/-- A tail at the device's own head leaves no report behind. -/
theorem PipeAt.received_all {layout : RxLayout} {rx : Rx} {index : Nat}
    {dst status : SrngTestRing} {counts : RxCounts}
    (at_ : PipeAt layout rx index dst status counts)
    (worked : (rx.hal.dstView status.halRingId.toNat).tp = (rx.devices index).head) :
    (rx.received index).length = (rx.devices index).reported.length := by
  have bound := at_.inv.posted_bound
  have stored := at_.inv.stored_le
  have reported := at_.inv.device.reported_le
  simp only [Rx.pipe] at bound stored reported
  exact (StandsAt.eq_iff (by decide) at_.inv.sink.atTp at_.inv.device.atHead
    at_.inv.received_le (by simp only [Rx.pipe]; omega)).mp worked

section Runs

variable {hal hal' : Hal} {count : Nat} {memory : Nat → Fin 3 → RingMemory}
  {attrs : Nat → SrngTestAttr} {pipes : Nat → SrngTestPipe}

/-- After every run, a tasklet that is let run ends, with the status tail at the head word
that the device had stored, all frames received whose head it stored, and new buffers
posted for them or the retry timer started. -/
theorem tasklet_completes (table : RxTable hal.srngConfig)
    (twoLe : ∀ index, index < count →
      2 ≤ (ringEntries (attrs index).destNentries).toNat)
    (done : dstTestSetup hal count memory attrs = (hal', pipes, none))
    {events : List Rx.Event} {rx : Rx}
    (reached : run Rx.step (.start hal' count pipes) events = some rx)
    (live : rx.live = true) (free : rx.lock = .free) {index : Nat} (inRange : index < count)
    (idle : rx.drains index = .idle)
    (answers : Rx.Answers) :
    ∃ status begun fuel final, (rx.pipes index).statusRing = some status ∧
      rx.step (.drainStart index) = some begun ∧
      alone ((Rx.tasklet index).event answers) Rx.step fuel begun = some final ∧
      final.drains index = .idle ∧ final.lock = .free ∧ final.devices = rx.devices ∧
      (final.hal.dstView status.halRingId.toNat).tp =
        (rx.hal.dstView status.halRingId.toNat).shadow ∧
      ((rx.hal.dstView status.halRingId.toNat).shadow = (rx.devices index).head →
        (final.received index).length = (rx.devices index).reported.length) ∧
      ((final.pipes index).rxBufNeeded = 0 ∨
        ¬ Rx.Granted answers ∧ final.retryArmed = true) := by
  obtain ⟨counted, _, _, _, inv, -, ⟨rfl, _⟩ | ended⟩ :=
    rx_invariant table twoLe done (fun _ => True) trivial (fun _ _ _ _ _ _ _ _ => trivial)
      (unrestricted events _) reached
  · rw [← counted] at inRange
    obtain ⟨dst, status, counts, at_⟩ := inv.pipes index inRange
    have starts : rx.step (.drainStart index) = some (rx.setDrain index (.recv [])) := by
      simp only [Rx.step, live, idle, inRange]
      rfl
    have undisturbed : Rx.Undisturbed (rxLayout hal.srngConfig attrs) rx
        (rx.setDrain index (.recv [])) :=
      ⟨inv.step (Rx.step_cases starts).2 live, live, rfl, rfl, fun _ => rfl⟩
    have receiving : Rx.Receiving (rxLayout hal.srngConfig attrs) rx index counts.head
        (rx.setDrain index (.recv [])) :=
      ⟨undisturbed, free, ⟨[], Function.update_self ..⟩, dst, status, counts,
        ⟨at_.rings, at_.dstId_eq, at_.statusId_eq, at_.inv, at_.claim⟩, rfl⟩
    have reaches : (Rx.tasklet index).Comes answers _ _ := receiving.completes
    obtain ⟨fuel, final, ended, after, completed⟩ := reaches
    obtain ⟨dst', status', counts', at_'⟩ := after.inv.pipes index
      (by rw [after.count]; exact inRange)
    have same : status'.halRingId.toNat = status.halRingId.toNat := by
      rw [at_'.statusId_eq, at_.statusId_eq]
    have worked : (final.hal.dstView status.halRingId.toNat).tp =
        (rx.hal.dstView status.halRingId.toNat).shadow := by
      have atTp := at_'.inv.sink.atTp
      simp only [Rx.pipe, RxPipe.statusId, completed.all, same] at atTp
      exact UInt32.toNat_inj.mp (atTp.trans at_.inv.sink.atShadow.symm)
    refine ⟨status, _, fuel, final, at_.statusRing, starts, ended, completed.idle,
      completed.free, after.devices, worked, fun current => ?_, completed.refilled⟩
    rw [← after.devices]
    refine at_'.received_all ?_
    rw [same, worked, current, after.devices]
  · cases ended
    contradiction

/-- Two frames are announced, one of them too long for its buffer. -/
def twoFrames : List Rx.Event :=
  smallPost ++ [.deviceConsume 0, .deviceConsume 0, .deviceStoreTail 0, .deviceReport 0 60 0,
    .deviceReport 0 5000 0, .deviceStoreHead 0]

/-- Two frames are announced, one of them too long for its buffer, and the buffers for
both are posted again. -/
theorem tasklet_completes_two :
    ∃ rx begun fuel final, run Rx.step (.start smallSetup.1 1 smallSetup.2.1)
        twoFrames = some rx ∧
      rx.step (.drainStart 0) = some begun ∧
      alone ((Rx.tasklet 0).event fun _ => (some 2048, some 0x9000)) Rx.step fuel begun =
        some final ∧
      final.drains 0 = .idle ∧ (final.received 0).length = 2 ∧
      (final.pipes 0).rxBufNeeded = 0 := by
  have seen : (run Rx.step (.start smallSetup.1 1 smallSetup.2.1) twoFrames).map
      (fun rx => (rx.live, rx.lock.isFree, rx.drains 0, (rx.devices 0).reported.length,
        (rx.pipes 0).statusRing.map fun status =>
          decide ((rx.hal.dstView status.halRingId.toNat).shadow = (rx.devices 0).head))) =
      some (true, true, .idle, 2, some true) := by decide +kernel
  obtain ⟨rx, reached, values⟩ := Option.map_eq_some_iff.mp seen
  simp only [Prod.mk.injEq] at values
  obtain ⟨live, free, idle, two, current⟩ := values
  obtain ⟨status, begun, fuel, final, ring, starts, ended, idle', -, -, -, all, refilled⟩ :=
    tasklet_completes hwSrngConfigTemplate_table (fun _ _ => by decide +kernel)
      smallSetup_done reached live (RxLock.eq_free free) Nat.one_pos idle
      fun _ => (some 2048, some 0x9000)
  rw [ring, Option.map_some, Option.some_inj, decide_eq_true_eq] at current
  refine ⟨rx, begun, fuel, final, reached, starts, ended, idle', (all current).trans two, ?_⟩
  exact refilled.resolve_right fun failed => failed.1 fun _ => ⟨rfl, rfl⟩

end Runs

end WirelessSimu
