import WirelessSimu.Driver.Handlers

namespace WirelessSimu

open Data

/-! The order of the calls. -/

namespace Point

/-- The point lies behind the call; `clearDrvdata` lies behind all of probe. -/
def past (point made : Point) : Prop := made.ctorIdx < point.ctorIdx

instance past.decidable (point made : Point) : Decidable (point.past made) :=
  inferInstanceAs (Decidable (_ < _))

variable {point next made other : Point} {hw ok : Bool}

theorem past.ne (behind : point.past made) (before : ¬ other.past made) :
    point ≠ other := by
  rintro rfl
  exact before behind

theorem ne_of_not_past (before : ¬ point.past made) (behind : other.past made) :
    point ≠ other := (behind.ne before).symm

theorem past.earlier (behind : point.past made) (order : other.ctorIdx ≤ made.ctorIdx) :
    point.past other :=
  Nat.lt_of_le_of_lt order behind

theorem eq_of_ctorIdx (same : point.ctorIdx = next.ctorIdx) : point = next := by
  rw [← ofNat_ctorIdx point, same, ofNat_ctorIdx]

/-- A call leads forward: to the next point, or over a part of probe to one not behind
the first call that remove always makes. -/
theorem ctorIdx_next (leads : point.next hw ok = some next) :
    next.ctorIdx = point.ctorIdx + 1 ∨
      point.ctorIdx < next.ctorIdx ∧ Point.dstRegister.ctorIdx < next.ctorIdx ∧
        next.ctorIdx ≤ Point.freeIrq.ctorIdx := by
  cases point <;> cases ok <;> simp only [Point.next, if_true, if_false,
    Option.some.injEq, reduceCtorEq, Bool.false_eq_true] at leads
  all_goals first
    | (subst leads; decide)
    | (cases hw <;> subst leads <;> decide)

theorem past.on (behind : point.past made) (leads : point.next hw ok = some next) :
    next.past made := by
  have forward := ctorIdx_next leads
  unfold past at behind ⊢
  omega

/-- A call of remove lies behind only after it was made. -/
theorem past.made_late (behind : next.past made) (leads : point.next hw ok = some next)
    (late : Point.freeIrq.ctorIdx ≤ made.ctorIdx) : point.past made ∨ point = made := by
  have forward := ctorIdx_next leads
  unfold past at behind ⊢
  by_cases same : point.ctorIdx = made.ctorIdx
  · exact .inr (eq_of_ctorIdx same)
  · left
    omega

theorem past.made_early (behind : next.past made) (leads : point.next hw ok = some next)
    (early : ¬ next.past .dstRegister) :
    (point.past made ∨ point = made) ∧ ¬ point.past .dstRegister := by
  have forward := ctorIdx_next leads
  unfold past at behind early ⊢
  refine ⟨?_, by omega⟩
  by_cases same : point.ctorIdx = made.ctorIdx
  · exact .inr (eq_of_ctorIdx same)
  · left
    omega

/-- Remove makes its calls in their order from `free_irq` on. -/
theorem eq_of_next (leads : point.next hw ok = some next)
    (late : Point.freeIrq.ctorIdx < next.ctorIdx)
    (before : made.ctorIdx + 1 = next.ctorIdx) : point = made := by
  have forward := ctorIdx_next leads
  exact eq_of_ctorIdx (by omega)

theorem past_kzallocPriv (later : point ≠ .kzallocPriv) : point.past .kzallocPriv :=
  Nat.pos_of_ne_zero fun first => later (eq_of_ctorIdx first)

theorem next_dstPostLock (leads : point.next hw ok = some .dstPostLock) :
    point = .dstRegister ∧ ok = true := by
  cases point <;> cases ok <;> cases hw <;> first | exact ⟨rfl, rfl⟩ | cases leads

theorem next_clearDrvdata (leads : Point.clearDrvdata.next hw ok = some next) :
    next = .failed :=
  (Option.some.inj leads).symm

theorem next_dstPostUnlock (leads : point.next hw ok = some .dstPostUnlock) :
    point = .dstPostLock := by
  cases point <;> cases ok <;> cases hw <;> first | rfl | cases leads

end Point

/-! What a call leaves as it is. -/

namespace InPlace

variable {point : Point} (places : InPlace) (ok : Bool)

theorem priv_after (notFree : point ≠ .freePriv) (there : places.priv = true) :
    (places.after point ok).priv = true := by
  cases point <;> first | contradiction | exact there | rfl

theorem mmio_after (notClaim : point ≠ .pciClaim) (notUnmap : point ≠ .iounmap) :
    (places.after point ok).mmio = places.mmio := by
  cases point <;> first | contradiction | rfl

theorem drvdata_after (notClear : point ≠ .clearDrvdata) (there : places.drvdata = true) :
    (places.after point ok).drvdata = true := by
  cases point <;> first | contradiction | exact there | rfl

theorem hal_after (notInit : point ≠ .srngInit) (notDeinit : point ≠ .srngDeinit) :
    (places.after point ok).hal = places.hal := by
  cases point <;> first | contradiction | rfl

theorem timer_after (there : places.timer = true) :
    (places.after point ok).timer = true := by
  cases point <;> first | exact there | rfl

theorem tasklet_after (there : places.tasklet = true) :
    (places.after point ok).tasklet = true := by
  cases point <;> first | exact there | rfl

theorem rings_after (notAlloc : point ≠ .dstAlloc) (notRegister : point ≠ .dstRegister)
    (notFree : point ≠ .dstFree) : (places.after point ok).rings = places.rings := by
  cases point <;> first | contradiction | rfl

theorem hw_after (notAlloc : point ≠ .allocHw) (notRegister : point ≠ .registerHw)
    (notFree : point ≠ .freeHw) : (places.after point ok).hw = places.hw := by
  cases point <;> first | contradiction | rfl

theorem vif_after (notRegister : point ≠ .registerHw)
    (notUnregister : point ≠ .unregisterHw) :
    (places.after point ok).vif = places.vif := by
  cases point <;> first | contradiction | rfl

end InPlace

namespace Handlers

structure Points (state : Handlers) : Prop where
  priv : state.point.past .kzallocPriv → ¬ state.point.past .freePriv →
    state.places.priv = true
  mmio : state.point.past .pciClaim → ¬ state.point.past .dstRegister →
    state.places.mmio = true
  hal : state.point.past .srngInit → ¬ state.point.past .dstRegister →
    state.places.hal = true
  timer : state.point.past .timerSetup → ¬ state.point.past .dstRegister →
    state.places.timer = true
  tasklet : state.point.past .taskletSetup → ¬ state.point.past .dstRegister →
    state.places.tasklet = true
  posting : state.point = .dstPostLock ∨ state.point = .dstPostUnlock →
    state.places.rings = .registered
  /-- The rings are registered between two calls, and all they need is there then. -/
  rings : state.places.rings = .registered →
    (state.point.past .dstRegister ∧ ¬ state.point.past .dstFree) ∧
      state.places.receiving = true ∧ state.places.tasklet = true ∧
      state.places.timer = true

section Calls

variable {state next : Handlers} {ok : Bool}

theorem call_cases (called : state.call ok = some next) :
    state.ready = true ∧ ∃ point, state.point.next state.places.hw ok = some point ∧
      next = state.called ok point := by
  unfold call at called
  split at called
  next free =>
      obtain ⟨point, leads, made⟩ := Option.map_eq_some_iff.mp called
      exact ⟨free, point, leads, made.symm⟩
  next => contradiction

/-- The receive rings stay with what they need until they are freed. -/
theorem Points.rings_called (points : Points state) {point : Point}
    (leads : state.point.next state.places.hw ok = some point)
    (kept : (state.places.after state.point ok).rings = .registered) :
    (point.past .dstRegister ∧ ¬ point.past .dstFree) ∧
      (state.places.after state.point ok).receiving = true ∧
      (state.places.after state.point ok).tasklet = true ∧
      (state.places.after state.point ok).timer = true := by
  by_cases registers : state.point = .dstRegister
  · have there : state.places.priv = true ∧ state.places.mmio = true ∧
        state.places.hal = true := by
      refine ⟨points.priv ?_ ?_, points.mmio ?_ ?_, points.hal ?_ ?_⟩ <;>
        (rw [registers]; decide)
    have set : state.places.tasklet = true ∧ state.places.timer = true := by
      refine ⟨points.tasklet ?_ ?_, points.timer ?_ ?_⟩ <;> (rw [registers]; decide)
    rw [registers] at kept leads ⊢
    cases ok with
    | false => cases kept
    | true =>
        cases leads
        refine ⟨by decide, ?_, set⟩
        change (state.places.priv && state.places.mmio && state.places.hal && true) = true
        simp [there]
  · have notAlloc : state.point ≠ .dstAlloc := by
      intro same
      rw [same] at kept
      cases ok <;> cases kept
    have notFree : state.point ≠ .dstFree := by
      intro same
      rw [same] at kept
      cases kept
    rw [InPlace.rings_after _ _ notAlloc registers notFree] at kept
    obtain ⟨⟨behind, before⟩, touched, tasklet, timer⟩ := points.rings kept
    simp only [InPlace.receiving, Bool.and_eq_true] at touched
    refine ⟨⟨behind.on leads, ?_⟩, ?_, InPlace.tasklet_after _ _ tasklet,
      InPlace.timer_after _ _ timer⟩
    · intro free
      rcases free.made_late leads (by decide) with freed | same
      · exact before freed
      · exact notFree same
    · simp only [InPlace.receiving, Bool.and_eq_true]
      refine ⟨⟨⟨?_, ?_⟩, ?_⟩, ?_⟩
      · exact InPlace.priv_after _ _ (Point.ne_of_not_past before (by decide))
          touched.1.1.1
      · rw [InPlace.mmio_after _ _ (behind.ne (by decide))
          (Point.ne_of_not_past before (by decide))]
        exact touched.1.1.2
      · rw [InPlace.hal_after _ _ (behind.ne (by decide))
          (Point.ne_of_not_past before (by decide))]
        exact touched.1.2
      · rw [InPlace.rings_after _ _ notAlloc registers notFree]
        exact touched.2

/-- A place that the call `made` puts there stays until the rings are registered. -/
theorem early_called {place : InPlace → Bool} {made point : Point}
    (there : state.point.past made → ¬ state.point.past .dstRegister →
      place state.places = true)
    (leads : state.point.next state.places.hw ok = some point)
    (kept : state.point.past made → ¬ state.point.past .dstRegister →
      place state.places = true → place (state.places.after state.point ok) = true)
    (makes : state.point = made → point.past .dstRegister ∨
      place (state.places.after state.point ok) = true)
    (behind : point.past made) (early : ¬ point.past .dstRegister) :
    place (state.places.after state.point ok) = true := by
  obtain ⟨earlier | same, notYet⟩ := behind.made_early leads early
  · exact kept earlier notYet (there earlier notYet)
  · exact (makes same).resolve_left early

theorem Points.call (points : Points state) (called : state.call ok = some next) :
    Points next := by
  obtain ⟨_, point, leads, rfl⟩ := call_cases called
  refine ⟨?_, ?_, ?_, ?_, ?_, ?_, points.rings_called leads⟩
  · intro _ (before : ¬ point.past .freePriv)
    have notFreed : ¬ state.point.past .freePriv := fun freed => before (freed.on leads)
    have notFree : state.point ≠ .freePriv := by
      intro same
      rw [same] at leads
      cases leads
      exact before (by decide)
    change (state.places.after state.point ok).priv = true
    by_cases first : state.point = .kzallocPriv
    · rw [first]
      rfl
    · exact InPlace.priv_after _ _ notFree (points.priv (Point.past_kzallocPriv first)
        notFreed)
  · refine early_called points.mmio leads ?_ ?_
    · intro claimed notYet there
      rwa [InPlace.mmio_after _ _ (claimed.ne (by decide))
        (Point.ne_of_not_past notYet (by decide))]
    · intro claims
      rw [claims] at leads ⊢
      cases ok with
      | false =>
          cases leads
          exact .inl (show Point.clearDrvdata.past .dstRegister by decide)
      | true => exact .inr rfl
  · refine early_called points.hal leads ?_ ?_
    · intro done notYet there
      rwa [InPlace.hal_after _ _ (done.ne (by decide))
        (Point.ne_of_not_past notYet (by decide))]
    · intro inits
      rw [inits] at leads ⊢
      cases ok with
      | false =>
          cases leads
          exact .inl (show Point.clearDrvdata.past .dstRegister by decide)
      | true => exact .inr rfl
  · exact early_called points.timer leads (fun _ _ there => InPlace.timer_after _ _ there)
      fun sets => .inr (by rw [sets]; rfl)
  · exact early_called points.tasklet leads
      (fun _ _ there => InPlace.tasklet_after _ _ there)
      fun sets => .inr (by rw [sets]; rfl)
  · intro posting
    change (state.places.after state.point ok).rings = .registered
    rcases posting with locks | unlocks
    · obtain ⟨registers, rfl⟩ := Point.next_dstPostLock (leads.trans (congrArg some locks))
      rw [registers]
      rfl
    · have locked := Point.next_dstPostUnlock (leads.trans (congrArg some unlocks))
      rw [locked]
      exact points.posting (.inl locked)

end Calls

/-! What each handler relies on. -/

structure IrqInv (state : Handlers) : Prop where
  at_ : state.irqRequested = true →
    state.point.past .requestIrq ∧ ¬ state.point.past .freeIrq
  places : state.irqRequested = true → state.places.priv = true ∧
    state.places.mmio = true ∧
    (state.point = .setDrvdata ∨ state.point = .failed ∨ state.places.drvdata = true)
  run : state.irq ≠ .idle → state.irqRequested = true
  ring : state.irq = .read irqStatuSrngDstDmaTestRing0 →
    state.places.rings = .registered

structure TaskletInv (state : Handlers) : Prop where
  rings : state.scheduled = true ∨ state.tasklet ≠ .idle →
    state.places.rings = .registered
  killed : state.point.past .dstKill → state.scheduled = false ∧ state.tasklet = .idle
  lock : state.tasklet = .recvLocked ∨ state.tasklet = .post .locked →
    state.lock = some .tasklet

structure TimerInv (state : Handlers) : Prop where
  places : state.armed = true ∨ state.timer ≠ none → state.point.past .dstRegister ∧
    state.places.priv = true ∧ state.places.timer = true ∧
    state.places.rings ≠ .allocated
  rings : state.timer = some .wait ∨ state.timer = some .locked →
    state.places.rings = .registered
  lock : state.timer = some .locked → state.lock = some .timer

structure WorkInv (state : Handlers) : Prop where
  registered : state.hwRegistered = true →
    (state.point = .bound ∨ state.point = .unregisterHw) ∧ state.places.priv = true ∧
      state.places.hw = true ∧ state.places.vif = true
  before : ¬ state.point.past .registerHw →
    state.frames = [] ∧ state.workPending = false ∧ state.work = .idle
  priv : state.workPending = true ∨ state.work ≠ .idle → state.places.priv = true
  drained : state.point.past .destroyWorkqueue →
    state.workPending = false ∧ state.work = .idle
  frames : ∀ frame ∈ state.frames, state.places.hw = true ∧
    (frame ≠ none → state.places.vif = true)

/-- The calls between which probe and remove hold the lock. -/
def CallLocked (state : Handlers) : Prop :=
  state.point = .dstPostUnlock ∨ state.point = .dstKill ∨ state.point = .dstFree ∨
    state.point = .dstUnlock → state.lock = some .call

section Calls

variable {state next : Handlers} {ok : Bool}

theorem irqRequested_called {point : Point}
    (now : (state.called ok point).irqRequested = true) :
    state.point ≠ .freeIrq ∧
      (state.point = .requestIrq ∨ state.irqRequested = true) := by
  unfold called at now
  cases found : state.point <;> simp_all

theorem armed_called {point : Point} (now : (state.called ok point).armed = true) :
    state.armed = true ∨ state.point = .dstPostUnlock := by
  unfold called at now
  cases found : state.point <;> simp_all

theorem lock_called {point : Point}
    (taken : state.point = .dstPostLock ∨ state.point = .dstLock) :
    (state.called ok point).lock = some .call := by
  unfold called
  rcases taken with same | same <;> rw [same]

theorem lock_called_of_ne {point : Point} (postLock : state.point ≠ .dstPostLock)
    (postUnlock : state.point ≠ .dstPostUnlock) (lock : state.point ≠ .dstLock)
    (unlock : state.point ≠ .dstUnlock) :
    (state.called ok point).lock = state.lock := by
  unfold called
  cases found : state.point <;> simp_all

theorem hwRegistered_called {point : Point}
    (now : (state.called ok point).hwRegistered = true) :
    state.point ≠ .unregisterHw ∧ (state.point = .registerHw ∧ ok = true ∨
      state.point ≠ .registerHw ∧ state.hwRegistered = true) := by
  unfold called at now
  cases found : state.point <;> simp_all

theorem Points.rings_kept (points : Points state)
    (registered : state.places.rings = .registered) (notFree : state.point ≠ .dstFree) :
    (state.places.after state.point ok).rings = .registered := by
  obtain ⟨⟨behind, _⟩, _⟩ := points.rings registered
  rw [InPlace.rings_after _ _ (behind.ne (by decide)) (behind.ne (by decide)) notFree]
  exact registered

theorem IrqInv.call (irq : IrqInv state) (points : Points state)
    (called : state.call ok = some next) : IrqInv next := by
  obtain ⟨ready, point, leads, rfl⟩ := call_cases called
  refine ⟨?_, ?_, ?_, ?_⟩
  · intro now
    obtain ⟨notFree, same | before⟩ := irqRequested_called now
    · rw [same] at leads
      cases leads
      exact ⟨by simp [Handlers.called]; decide, by simp [Handlers.called]; decide⟩
    · obtain ⟨behind, notFreed⟩ := irq.at_ before
      refine ⟨behind.on leads, fun freed => ?_⟩
      rcases freed.made_late leads (by decide) with already | same
      · exact notFreed already
      · exact notFree same
  · intro now
    change (state.places.after state.point ok).priv = true ∧
      (state.places.after state.point ok).mmio = true ∧
      (point = .setDrvdata ∨ point = .failed ∨
        (state.places.after state.point ok).drvdata = true)
    obtain ⟨notFree, same | before⟩ := irqRequested_called now
    · have priv := points.priv (by rw [same]; decide) (by rw [same]; decide)
      have mmio := points.mmio (by rw [same]; decide) (by rw [same]; decide)
      rw [same] at leads ⊢
      cases leads
      exact ⟨priv, mmio, .inl rfl⟩
    · obtain ⟨behind, notFreed⟩ := irq.at_ before
      obtain ⟨priv, mmio, drvdata⟩ := irq.places before
      refine ⟨InPlace.priv_after _ _ (Point.ne_of_not_past notFreed (by decide)) priv,
        ?_, .inr ?_⟩
      · rw [InPlace.mmio_after _ _ (behind.ne (by decide))
          (Point.ne_of_not_past notFreed (by decide))]
        exact mmio
      · rcases drvdata with same | same | set
        · rw [same]
          exact .inr rfl
        · rw [same] at leads
          cases leads
        · by_cases clears : state.point = .clearDrvdata
          · rw [clears] at leads
            exact .inl (Point.next_clearDrvdata leads)
          · exact .inr (InPlace.drvdata_after _ _ clears set)
  · intro running
    have before := irq.run running
    obtain ⟨behind, _⟩ := irq.at_ before
    have notRequest : state.point ≠ .requestIrq := behind.ne (by decide)
    have notFree : state.point ≠ .freeIrq := by
      intro same
      simp only [Handlers.ready, same, beq_iff_eq] at ready
      exact running ready
    unfold Handlers.called
    cases found : state.point <;> simp_all
  · intro read
    have before := irq.run (by
      intro idle
      have same : state.irq = .read irqStatuSrngDstDmaTestRing0 := read
      rw [idle] at same
      cases same)
    obtain ⟨_, notFreed⟩ := irq.at_ before
    exact points.rings_kept (irq.ring read) (Point.ne_of_not_past notFreed (by decide))

/-- A handler that holds the lock keeps it over every call. -/
theorem CallLocked.lock_kept (locks : CallLocked state) {holder : LockHolder}
    {point : Point} (ready : state.ready = true) (held : state.lock = some holder)
    (handler : holder ≠ .call) : (state.called ok point).lock = some holder := by
  have notCall : state.lock ≠ some .call := by
    intro same
    rw [held] at same
    exact handler (Option.some.inj same)
  have notFree : (state.lock == none) = false := by simp [held]
  rw [lock_called_of_ne ?_ ?_ ?_ ?_]
  · exact held
  · intro same
    simp only [Handlers.ready, same, notFree, Bool.false_eq_true] at ready
  · exact fun same => notCall (locks (.inl same))
  · intro same
    simp only [Handlers.ready, same, notFree, Bool.false_eq_true] at ready
  · exact fun same => notCall (locks (.inr (.inr (.inr same))))

theorem CallLocked.call (locks : CallLocked state)
    (called : state.call ok = some next) : CallLocked next := by
  obtain ⟨_, point, leads, rfl⟩ := call_cases called
  have kept : state.point = .dstKill ∨ state.point = .dstFree →
      (state.called ok point).lock = some .call := by
    intro same
    rw [lock_called_of_ne] <;> rcases same with same | same <;>
      first
        | exact locks (.inr (.inl same))
        | exact locks (.inr (.inr (.inl same)))
        | (rw [same]; decide)
  rintro (unlocks | kills | frees | unlocks)
  · exact lock_called (.inl (Point.next_dstPostUnlock
      (leads.trans (congrArg some unlocks))))
  · have leads := leads.trans (congrArg some kills)
    exact lock_called (.inr (Point.eq_of_next leads (by decide) rfl))
  · have leads := leads.trans (congrArg some frees)
    exact kept (.inl (Point.eq_of_next leads (by decide) rfl))
  · have leads := leads.trans (congrArg some unlocks)
    exact kept (.inr (Point.eq_of_next leads (by decide) rfl))

theorem TaskletInv.call (tasklet : TaskletInv state) (points : Points state)
    (locks : CallLocked state) (called : state.call ok = some next) : TaskletInv next := by
  obtain ⟨ready, point, leads, rfl⟩ := call_cases called
  refine ⟨?_, ?_, ?_⟩
  · intro busy
    refine points.rings_kept (tasklet.rings busy) ?_
    intro same
    obtain ⟨unscheduled, idle⟩ := tasklet.killed (by rw [same]; decide)
    rcases busy with scheduled | running
    · have : state.scheduled = true := scheduled
      rw [unscheduled] at this
      contradiction
    · exact running idle
  · intro behind
    change state.scheduled = false ∧ state.tasklet = .idle
    rcases behind.made_late leads (by decide) with already | same
    · exact tasklet.killed already
    · by_contra busy
      have registered := tasklet.rings (by
        rw [not_and_or, Bool.not_eq_false] at busy
        exact busy)
      have set := (points.rings registered).2.2.1
      simp only [Handlers.ready, same, set, Bool.not_true, Bool.false_or, Bool.and_eq_true,
        Bool.not_eq_true', beq_iff_eq] at ready
      exact busy ready
  · intro locked
    exact locks.lock_kept ready (tasklet.lock locked) (by decide)

theorem TimerInv.call (timer : TimerInv state) (points : Points state)
    (locks : CallLocked state) (timely : state.CallTimely)
    (called : state.call ok = some next) : TimerInv next := by
  obtain ⟨ready, point, leads, rfl⟩ := call_cases called
  refine ⟨?_, ?_, ?_⟩
  · intro busy
    change point.past .dstRegister ∧ (state.places.after state.point ok).priv = true ∧
      (state.places.after state.point ok).timer = true ∧
      (state.places.after state.point ok).rings ≠ .allocated
    have notFree : state.point ≠ .freePriv := by
      intro same
      obtain ⟨disarmed, stopped⟩ := timely.2.2.2 same
      rcases busy with armed | running
      · rcases armed_called armed with before | unlocks
        · rw [disarmed] at before
          contradiction
        · rw [same] at unlocks
          contradiction
      · exact running stopped
    have before : state.point = .dstPostUnlock ∨
        (state.armed = true ∨ state.timer ≠ none) := by
      rcases busy with armed | running
      · exact (armed_called armed).symm.imp id .inl
      · exact .inr (.inr running)
    rcases before with unlocks | before
    · have registered := points.posting (.inr unlocks)
      obtain ⟨⟨behind, _⟩, _, _, set⟩ := points.rings registered
      have priv := points.priv (by rw [unlocks]; decide) (by rw [unlocks]; decide)
      refine ⟨behind.on leads, InPlace.priv_after _ _ notFree priv,
        InPlace.timer_after _ _ set, ?_⟩
      rw [points.rings_kept registered (by rw [unlocks]; decide)]
      decide
    · obtain ⟨behind, priv, set, rings⟩ := timer.places before
      refine ⟨behind.on leads, InPlace.priv_after _ _ notFree priv,
        InPlace.timer_after _ _ set, ?_⟩
      by_cases free : state.point = .dstFree
      · rw [free]
        exact fun impossible => by cases impossible
      · rw [InPlace.rings_after _ _ (behind.ne (by decide)) (behind.ne (by decide)) free]
        exact rings
  · intro touching
    refine points.rings_kept (timer.rings touching) ?_
    intro same
    have held := locks (.inr (.inr (.inl same)))
    rcases touching with waits | locked
    · exact timely.2.2.1 same waits
    · rw [timer.lock locked] at held
      cases held
  · intro locked
    exact locks.lock_kept ready (timer.lock locked) (by decide)

theorem WorkInv.call (work : WorkInv state) (points : Points state)
    (timely : state.CallTimely) (called : state.call ok = some next) :
    WorkInv next := by
  obtain ⟨ready, point, leads, rfl⟩ := call_cases called
  refine ⟨?_, ?_, ?_, ?_, ?_⟩
  · intro now
    change (point = .bound ∨ point = .unregisterHw) ∧
      (state.places.after state.point ok).priv = true ∧
      (state.places.after state.point ok).hw = true ∧
      (state.places.after state.point ok).vif = true
    obtain ⟨notUnregister, ⟨registers, rfl⟩ | ⟨_, before⟩⟩ := hwRegistered_called now
    · have priv := points.priv (by rw [registers]; decide) (by rw [registers]; decide)
      rw [registers] at leads ⊢
      cases leads
      exact ⟨.inl rfl, priv, rfl, rfl⟩
    · obtain ⟨same | same, priv, hw, vif⟩ := work.registered before
      · rw [same, hw] at leads
        cases leads
        rw [same]
        exact ⟨.inr rfl, priv, hw, vif⟩
      · exact absurd same notUnregister
  · intro early
    exact work.before fun behind => early (behind.on leads)
  · intro busy
    refine InPlace.priv_after _ _ ?_ (work.priv busy)
    intro same
    obtain ⟨unqueued, idle⟩ := work.drained (by rw [same]; decide)
    rcases busy with pending | running
    · have : state.workPending = true := pending
      rw [unqueued] at this
      contradiction
    · exact running idle
  · intro behind
    change state.workPending = false ∧ state.work = .idle
    rcases behind.made_late leads (by decide) with already | same
    · exact work.drained already
    · simpa only [Handlers.ready, same, Bool.and_eq_true, Bool.not_eq_true',
        beq_iff_eq] using ready
  · intro frame (member : frame ∈ state.frames)
    change (state.places.after state.point ok).hw = true ∧
      (frame ≠ none → (state.places.after state.point ok).vif = true)
    have late : state.point.past .registerHw := by
      by_contra early
      rw [(work.before early).1] at member
      cases member
    have notFree : state.point ≠ .freeHw := by
      intro same
      rw [timely.2.1 same] at member
      cases member
    obtain ⟨hw, vif⟩ := work.frames frame member
    rw [InPlace.hw_after _ _ (late.ne (by decide)) (late.ne (by decide)) notFree]
    refine ⟨hw, fun withVif => ?_⟩
    rw [InPlace.vif_after _ _ (late.ne (by decide)) ?_]
    · exact vif withVif
    · intro same
      exact withVif (timely.1 same frame member)

end Calls

end Handlers

end WirelessSimu
