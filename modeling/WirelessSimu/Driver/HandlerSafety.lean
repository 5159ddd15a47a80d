import WirelessSimu.Driver.CallOrder

namespace WirelessSimu

open Data

namespace Handlers

structure Inv (state : Handlers) : Prop where
  points : Points state
  irq : IrqInv state
  tasklet : TaskletInv state
  timer : TimerInv state
  work : WorkInv state
  locks : CallLocked state
  sound : state.faulted = false

theorem Inv.start : Inv .start where
  points := by
    refine ⟨?_, ?_, ?_, ?_, ?_, ?_, ?_⟩ <;> decide
  irq := by
    refine ⟨?_, ?_, ?_, ?_⟩ <;> decide
  tasklet := by
    refine ⟨?_, ?_, ?_⟩ <;> decide
  timer := by
    refine ⟨?_, ?_, ?_⟩ <;> decide
  work := by
    refine ⟨?_, ?_, ?_, ?_, ?_⟩
    · decide
    · decide
    · decide
    · decide
    · intro frame member
      cases member
  locks := by
    unfold CallLocked
    decide
  sound := rfl

section Steps

variable {state next : Handlers} {ok timer : Bool}

theorem Inv.call (inv : Inv state) (timely : state.CallTimely)
    (called : state.call ok = some next) : Inv next where
  points := inv.points.call called
  irq := inv.irq.call inv.points called
  tasklet := inv.tasklet.call inv.points inv.locks called
  timer := inv.timer.call inv.points inv.locks timely called
  work := inv.work.call inv.points timely called
  locks := inv.locks.call called
  sound := by
    obtain ⟨_, _, _, rfl⟩ := call_cases called
    exact inv.sound

theorem Points.of_same (points : Points state) (point : next.point = state.point)
    (places : next.places = state.places) : Points next := by
  refine ⟨?_, ?_, ?_, ?_, ?_, ?_, ?_⟩ <;> rw [point, places]
  · exact points.priv
  · exact points.mmio
  · exact points.hal
  · exact points.timer
  · exact points.tasklet
  · exact points.posting
  · exact points.rings

theorem sound_touch {inPlace : Bool} (sound : state.faulted = false)
    (found : inPlace = true) : (state.touch inPlace).faulted = false := by
  simp [touch, sound, found]

theorem Inv.receiving (inv : Inv state) (registered : state.places.rings = .registered) :
    state.places.receiving = true ∧ state.places.priv = true ∧
      state.places.tasklet = true ∧ state.places.timer = true := by
  obtain ⟨_, touched, tasklet, timer⟩ := inv.points.rings registered
  have all := touched
  simp only [InPlace.receiving, Bool.and_eq_true] at all
  exact ⟨touched, all.1.1.1, tasklet, timer⟩

/-! The interrupt handler. -/

theorem Inv.irqEnter (inv : Inv state) {irqStatus : UInt32}
    (timely : state.Timely (.irqEnter irqStatus)) (requested : state.irqRequested = true) :
    Inv ({ state with irq := .read irqStatus }.touch
      (state.places.drvdata && state.places.priv && state.places.mmio)) := by
  obtain ⟨notYet, notFailed, ring⟩ := timely
  obtain ⟨priv, mmio, drvdata⟩ := inv.irq.places requested
  refine ⟨inv.points.of_same rfl rfl, ⟨inv.irq.at_, inv.irq.places, fun _ => requested, ?_⟩,
    { inv.tasklet with }, { inv.timer with }, { inv.work with }, inv.locks,
    sound_touch inv.sound ?_⟩
  · intro read
    exact ring (IrqRun.read.inj read)
  · simp [priv, mmio, (drvdata.resolve_left notYet).resolve_left notFailed]

theorem Inv.irqSchedule (inv : Inv state)
    (read : state.irq = .read irqStatuSrngDstDmaTestRing0) :
    Inv ({ state with irq := .clear, scheduled := true }.touch
      (state.places.priv && state.places.tasklet)) := by
  have requested := inv.irq.run (by rw [read]; decide)
  have registered := inv.irq.ring read
  obtain ⟨_, priv, set, _⟩ := inv.receiving registered
  refine ⟨inv.points.of_same rfl rfl,
    ⟨inv.irq.at_, inv.irq.places, fun _ => requested, fun impossible => by cases impossible⟩,
    ⟨fun _ => registered, ?_, inv.tasklet.lock⟩, { inv.timer with }, { inv.work with },
    inv.locks, sound_touch inv.sound (by simp [priv, set])⟩
  intro behind
  exact absurd (behind.earlier (by decide)) (inv.irq.at_ requested).2

theorem Inv.irqSkip (inv : Inv state) (running : state.irq ≠ .idle) :
    Inv { state with irq := .clear } :=
  ⟨inv.points.of_same rfl rfl,
    ⟨inv.irq.at_, inv.irq.places, fun _ => inv.irq.run running,
      fun impossible => by cases impossible⟩,
    { inv.tasklet with }, { inv.timer with }, { inv.work with }, inv.locks, inv.sound⟩

theorem Inv.irqClear (inv : Inv state) (running : state.irq ≠ .idle) :
    Inv ({ state with irq := .idle }.touch (state.places.priv && state.places.mmio)) := by
  obtain ⟨priv, mmio, _⟩ := inv.irq.places (inv.irq.run running)
  exact ⟨inv.points.of_same rfl rfl,
    ⟨inv.irq.at_, inv.irq.places, fun busy => absurd rfl busy,
      fun impossible => by cases impossible⟩,
    { inv.tasklet with }, { inv.timer with }, { inv.work with }, inv.locks,
    sound_touch inv.sound (by simp [priv, mmio])⟩

/-! The tasklet. -/

theorem TaskletInv.moved (tasklet : TaskletInv state) {stage : TaskletRun}
    {lock : Option LockHolder} {scheduled : Bool}
    (busy : state.scheduled = true ∨ state.tasklet ≠ .idle)
    (held : stage = .recvLocked ∨ stage = .post .locked → lock = some .tasklet) :
    TaskletInv { state with tasklet := stage, scheduled := scheduled, lock := lock } := by
  refine ⟨fun _ => tasklet.rings busy, ?_, held⟩
  intro behind
  obtain ⟨unscheduled, idle⟩ := tasklet.killed behind
  rcases busy with waiting | running
  · rw [unscheduled] at waiting
    contradiction
  · exact absurd idle running

theorem Inv.taskletRun (inv : Inv state) (waiting : state.scheduled = true) :
    Inv ({ state with scheduled := false, tasklet := .recv }.touch
      (state.places.priv && state.places.tasklet)) := by
  obtain ⟨_, priv, set, _⟩ := inv.receiving (inv.tasklet.rings (.inl waiting))
  have moved := @TaskletInv.moved _ inv.tasklet .recv state.lock false (.inl waiting)
    (by rintro (impossible | impossible) <;> cases impossible)
  exact ⟨inv.points.of_same rfl rfl, { inv.irq with }, { moved with }, { inv.timer with },
    { inv.work with }, inv.locks, sound_touch inv.sound (by simp [priv, set])⟩

theorem Inv.taskletLock (inv : Inv state) (receiving : state.tasklet = .recv)
    (free : state.lock = none) :
    Inv ({ state with tasklet := .recvLocked, lock := some .tasklet }.touch
      state.places.receiving) := by
  have busy : state.tasklet ≠ .idle := by
    rw [receiving]
    decide
  have touched := (inv.receiving (inv.tasklet.rings (.inr busy))).1
  have moved := @TaskletInv.moved _ inv.tasklet .recvLocked (some .tasklet) state.scheduled
    (.inr busy) (fun _ => rfl)
  refine ⟨inv.points.of_same rfl rfl, { inv.irq with }, { moved with },
    ⟨inv.timer.places, inv.timer.rings, ?_⟩, { inv.work with }, ?_,
    sound_touch inv.sound touched⟩
  · intro locked
    rw [inv.timer.lock locked] at free
    contradiction
  · intro held
    rw [inv.locks held] at free
    contradiction

theorem Inv.taskletUnlock (inv : Inv state) {stage : TaskletRun}
    (locked : state.tasklet = .recvLocked ∨ state.tasklet = .post .locked)
    (unlocked : ¬ (stage = .recvLocked ∨ stage = .post .locked)) {inPlace : Bool}
    (found : inPlace = true) :
    Inv ({ state with tasklet := stage, lock := none }.touch inPlace) := by
  have busy : state.tasklet ≠ .idle := by
    rcases locked with same | same <;> (rw [same]; decide)
  have held := inv.tasklet.lock locked
  have moved := @TaskletInv.moved _ inv.tasklet stage none state.scheduled (.inr busy)
    (fun still => absurd still unlocked)
  refine ⟨inv.points.of_same rfl rfl, { inv.irq with }, { moved with },
    ⟨inv.timer.places, inv.timer.rings, ?_⟩, { inv.work with }, ?_,
    sound_touch inv.sound found⟩
  · intro timerLocked
    rw [inv.timer.lock timerLocked] at held
    contradiction
  · intro calling
    rw [inv.locks calling] at held
    contradiction

/-! The timer. -/

theorem TimerInv.moved (timer : TimerInv state) {stage : Option PostRun}
    {lock : Option LockHolder} {armed : Bool}
    (busy : state.armed = true ∨ state.timer ≠ none)
    (touching : stage = some .wait ∨ stage = some .locked →
      state.places.rings = .registered)
    (held : stage = some .locked → lock = some .timer) :
    TimerInv { state with timer := stage, armed := armed, lock := lock } :=
  ⟨fun _ => timer.places busy, touching, held⟩

theorem Inv.timerFire (inv : Inv state) (armed : state.armed = true) :
    Inv ({ state with armed := false, timer := some .check }.touch
      (state.places.priv && state.places.timer)) := by
  obtain ⟨_, priv, set, _⟩ := inv.timer.places (.inl armed)
  have moved := @TimerInv.moved _ inv.timer (some .check) state.lock false (.inl armed)
    (by rintro (impossible | impossible) <;> cases impossible)
    (fun impossible => by cases impossible)
  exact ⟨inv.points.of_same rfl rfl, { inv.irq with }, { inv.tasklet with },
    { moved with }, { inv.work with }, inv.locks,
    sound_touch inv.sound (by simp [priv, set])⟩

theorem Inv.timerUnlock (inv : Inv state) (locked : state.timer = some .locked)
    (priv : state.places.priv = true) :
    Inv ({ state with timer := some (.returned ok), lock := none }.touch
      state.places.priv) := by
  have held := inv.timer.lock locked
  have moved := @TimerInv.moved _ inv.timer (some (.returned ok)) none state.armed
    (.inr (by rw [locked]; simp)) (by rintro (impossible | impossible) <;> cases impossible)
    (fun impossible => by cases impossible)
  refine ⟨inv.points.of_same rfl rfl, { inv.irq with },
    ⟨inv.tasklet.rings, inv.tasklet.killed, ?_⟩, { moved with }, { inv.work with }, ?_,
    sound_touch inv.sound priv⟩
  · intro taskletLocked
    rw [inv.tasklet.lock taskletLocked] at held
    contradiction
  · intro calling
    rw [inv.locks calling] at held
    contradiction

/-! `post_pipe`. -/

theorem post_eq_some {run : PostRun} (found : state.post timer = some run) :
    timer = true ∧ state.timer = some run ∨
      timer = false ∧ state.tasklet = .post run := by
  unfold post at found
  cases timer with
  | true => exact .inl ⟨rfl, found⟩
  | false =>
      right
      refine ⟨rfl, ?_⟩
      simp only [Bool.false_eq_true, if_false] at found
      split at found
      next same =>
          cases found
          exact same
      next => contradiction

/-- Whoever is in `post_pipe` finds `priv` with the timer in it. -/
theorem Inv.post_priv (inv : Inv state) {run : PostRun}
    (found : state.post timer = some run) :
    state.point.past .dstRegister ∧ state.places.priv = true ∧
      state.places.timer = true ∧ state.places.rings ≠ .allocated := by
  rcases post_eq_some found with ⟨_, running⟩ | ⟨_, running⟩
  · exact inv.timer.places (.inr (by rw [running]; simp))
  · have registered := inv.tasklet.rings (.inr (by rw [running]; simp))
    obtain ⟨_, priv, _, set⟩ := inv.receiving registered
    refine ⟨(inv.points.rings registered).1.1, priv, set, ?_⟩
    rw [registered]
    decide

theorem Inv.post_rings (inv : Inv state) {run : PostRun}
    (found : state.post timer = some run) (touching : run = .wait ∨ run = .locked) :
    state.places.rings = .registered := by
  rcases post_eq_some found with ⟨_, running⟩ | ⟨_, running⟩
  · refine inv.timer.rings ?_
    rw [running]
    exact touching.imp (congrArg some) (congrArg some)
  · exact inv.tasklet.rings (.inr (by rw [running]; simp))

theorem Inv.postCheck (inv : Inv state) (checks : state.post timer = some .check) :
    Inv ((state.setPost timer
      (if state.places.rings = .absent then .returned true else .wait)).touch
        state.places.priv) := by
  obtain ⟨_, priv, _, notAllocated⟩ := inv.post_priv checks
  rcases post_eq_some checks with ⟨rfl, running⟩ | ⟨rfl, running⟩
  · have moved := @TimerInv.moved _ inv.timer
      (some (if state.places.rings = .absent then .returned true else .wait)) state.lock
      state.armed (.inr (by rw [running]; simp)) (by
        intro touching
        cases rings : state.places.rings with
        | absent => simp [rings] at touching
        | allocated => exact absurd rings notAllocated
        | registered => rfl)
      (by split <;> (intro impossible; cases impossible))
    exact ⟨inv.points.of_same rfl rfl, { inv.irq with }, { inv.tasklet with },
      { moved with }, { inv.work with }, inv.locks, sound_touch inv.sound priv⟩
  · have moved := @TaskletInv.moved _ inv.tasklet
      (.post (if state.places.rings = .absent then .returned true else .wait)) state.lock
      state.scheduled (.inr (by rw [running]; simp))
      (by split <;> (rintro (impossible | impossible) <;> cases impossible))
    exact ⟨inv.points.of_same rfl rfl, { inv.irq with }, { moved with },
      { inv.timer with }, { inv.work with }, inv.locks, sound_touch inv.sound priv⟩

theorem Inv.postLock (inv : Inv state) (waits : state.post timer = some .wait)
    (free : state.lock = none) :
    Inv ({ state.setPost timer .locked with
      lock := some (if timer then .timer else .tasklet) }.touch state.places.priv) := by
  obtain ⟨_, priv, _⟩ := inv.post_priv waits
  have registered := inv.post_rings waits (.inl rfl)
  have locks : ∀ next : Handlers, next.point = state.point → CallLocked next := by
    intro next same calling
    rw [same] at calling
    rw [inv.locks calling] at free
    contradiction
  rcases post_eq_some waits with ⟨rfl, running⟩ | ⟨rfl, running⟩
  · have moved := @TimerInv.moved _ inv.timer (some .locked) (some .timer) state.armed
      (.inr (by rw [running]; simp)) (fun _ => registered) (fun _ => rfl)
    refine ⟨inv.points.of_same rfl rfl, { inv.irq with },
      ⟨inv.tasklet.rings, inv.tasklet.killed, ?_⟩, { moved with }, { inv.work with },
      locks _ rfl, sound_touch inv.sound priv⟩
    intro locked
    rw [inv.tasklet.lock locked] at free
    contradiction
  · have moved := @TaskletInv.moved _ inv.tasklet (.post .locked) (some .tasklet)
      state.scheduled (.inr (by rw [running]; simp)) (fun _ => rfl)
    refine ⟨inv.points.of_same rfl rfl, { inv.irq with }, { moved with },
      ⟨inv.timer.places, inv.timer.rings, ?_⟩, { inv.work with }, locks _ rfl,
      sound_touch inv.sound priv⟩
    intro locked
    rw [inv.timer.lock locked] at free
    contradiction

theorem Inv.postBuffer (inv : Inv state) (locked : state.post timer = some .locked) :
    Inv (state.touch state.places.receiving) := by
  have touched := (inv.receiving (inv.post_rings locked (.inr rfl))).1
  exact ⟨inv.points.of_same rfl rfl, { inv.irq with }, { inv.tasklet with },
    { inv.timer with }, { inv.work with }, inv.locks, sound_touch inv.sound touched⟩

theorem Inv.postUnlock (inv : Inv state) (locked : state.post timer = some .locked) :
    Inv ({ state.setPost timer (.returned ok) with lock := none }.touch
      state.places.priv) := by
  obtain ⟨_, priv, _⟩ := inv.post_priv locked
  rcases post_eq_some locked with ⟨rfl, running⟩ | ⟨rfl, running⟩
  · exact inv.timerUnlock running priv
  · exact inv.taskletUnlock (.inr running) (by simp [setPost]) priv

theorem Inv.postReturn (inv : Inv state)
    (returned : state.post timer = some (.returned ok)) :
    Inv ({ state.endPost timer with armed := state.armed || !ok }.touch
      (state.places.priv && (ok || state.places.timer))) := by
  obtain ⟨behind, priv, set, rings⟩ := inv.post_priv returned
  have found : (state.places.priv && (ok || state.places.timer)) = true := by
    simp [priv, set]
  rcases post_eq_some returned with ⟨rfl, running⟩ | ⟨rfl, running⟩
  · have moved := @TimerInv.moved _ inv.timer none state.lock (state.armed || !ok)
      (.inr (by rw [running]; simp))
      (by rintro (impossible | impossible) <;> cases impossible)
      (fun impossible => by cases impossible)
    exact ⟨inv.points.of_same rfl rfl, { inv.irq with }, { inv.tasklet with },
      { moved with }, { inv.work with }, inv.locks, sound_touch inv.sound found⟩
  · have moved := @TaskletInv.moved _ inv.tasklet .idle state.lock state.scheduled
      (.inr (by rw [running]; simp))
      (by rintro (impossible | impossible) <;> cases impossible)
    exact ⟨inv.points.of_same rfl rfl, { inv.irq with }, { moved with },
      ⟨fun _ => ⟨behind, priv, set, rings⟩, inv.timer.rings, inv.timer.lock⟩,
      { inv.work with }, inv.locks, sound_touch inv.sound found⟩

/-! The work item. -/

theorem WorkInv.moved (work : WorkInv state) {stage : WorkRun} {pending : Bool}
    {queue : List (Option Nat)}
    (busy : state.workPending = true ∨ state.work ≠ .idle)
    (fewer : ∀ frame ∈ { state with work := stage, mgmtTxQueue := queue }.frames,
      frame ∈ state.frames) :
    WorkInv { state with work := stage, mgmtTxQueue := queue, workPending := pending } := by
  have stopped : ¬ (state.workPending = false ∧ state.work = .idle) := by
    rintro ⟨unqueued, idle⟩
    rcases busy with waiting | running
    · rw [unqueued] at waiting
      contradiction
    · exact running idle
  refine ⟨work.registered, ?_, fun _ => work.priv busy, ?_, ?_⟩
  · intro early
    exact absurd (work.before early).2 stopped
  · intro behind
    exact absurd (work.drained behind) stopped
  · intro frame member
    exact work.frames frame (fewer frame member)

theorem Inv.worked (inv : Inv state) {stage : WorkRun} {pending : Bool}
    {queue : List (Option Nat)}
    (busy : state.workPending = true ∨ state.work ≠ .idle)
    (fewer : ∀ frame ∈ { state with work := stage, mgmtTxQueue := queue }.frames,
      frame ∈ state.frames) {inPlace : Bool} (found : inPlace = true) :
    Inv ({ state with
      work := stage, mgmtTxQueue := queue, workPending := pending }.touch inPlace) := by
  have moved := @WorkInv.moved _ inv.work stage pending queue busy fewer
  exact ⟨inv.points.of_same rfl rfl, { inv.irq with }, { inv.tasklet with },
    { inv.timer with }, { moved with }, inv.locks, sound_touch inv.sound found⟩

theorem Inv.tx (inv : Inv state) (registered : state.hwRegistered = true)
    (vif : Option Nat) :
    Inv { state with mgmtTxQueue := state.mgmtTxQueue ++ [vif], workPending := true } := by
  obtain ⟨at_, priv, hw, vifs⟩ := inv.work.registered registered
  refine ⟨inv.points.of_same rfl rfl, { inv.irq with }, { inv.tasklet with },
    { inv.timer with }, ⟨inv.work.registered, ?_, fun _ => priv, ?_, ?_⟩, inv.locks,
    inv.sound⟩
  · intro early
    rcases at_ with same | same <;> exact absurd (by rw [same]; decide) early
  · intro behind
    have behind : state.point.past .destroyWorkqueue := behind
    rcases at_ with same | same <;> (rw [same] at behind; exact absurd behind (by decide))
  · intro frame member
    exact ⟨hw, fun _ => vifs⟩

theorem mem_frames_hand {vif : Option Nat} (hand : state.work = .frame vif) :
    vif ∈ state.frames := by
  simp [frames, hand]

theorem Inv.workTake (inv : Inv state) (stepped : state.step .workTake = some next) :
    Inv next := by
  simp only [step] at stepped
  split at stepped
  next taking empty =>
      cases stepped
      refine @Inv.worked _ inv .idle state.workPending state.mgmtTxQueue
        (.inr (by rw [taking]; decide)) ?_ _
        (inv.work.priv (.inr (by rw [taking]; decide)))
      simp [frames, empty]
  next vif queue taking rest =>
      cases stepped
      refine @Inv.worked _ inv (.frame vif) state.workPending queue
        (.inr (by rw [taking]; decide)) ?_ _
        (inv.work.priv (.inr (by rw [taking]; decide)))
      intro frame member
      simp only [frames, rest, taking, List.append_nil, List.mem_append, List.mem_cons,
        List.not_mem_nil, or_false] at member ⊢
      exact member.symm
  next => contradiction

theorem Inv.workFrame (inv : Inv state) (stepped : state.step .workFrame = some next) :
    Inv next := by
  have kept : ∀ {vif : Option Nat}, state.work = .frame vif →
      ∀ frame ∈ { state with work := .take }.frames, frame ∈ state.frames := by
    intro vif _ frame member
    simp only [frames, List.append_nil] at member
    exact List.mem_append_left _ member
  simp only [step] at stepped
  split at stepped
  next hand =>
      cases stepped
      have busy : state.work ≠ .idle := by simp [hand]
      have hw := (inv.work.frames _ (mem_frames_hand hand)).1
      exact @Inv.worked _ inv .take state.workPending state.mgmtTxQueue (.inr busy)
        (kept hand) _ (by simp [inv.work.priv (.inr busy), hw])
  next vif hand =>
      cases stepped
      have busy : state.work ≠ .idle := by simp [hand]
      have there := (inv.work.frames _ (mem_frames_hand hand)).2 (by simp)
      exact @Inv.worked _ inv .take state.workPending state.mgmtTxQueue (.inr busy)
        (kept hand) _ (by simp [inv.work.priv (.inr busy), there])
  next => contradiction

theorem Inv.step {event : Event} (inv : Inv state) (timely : state.Timely event)
    (stepped : state.step event = some next) : Inv next := by
  cases event with
  | call ok => exact inv.call timely stepped
  | workTake => exact inv.workTake stepped
  | workFrame => exact inv.workFrame stepped
  | irqEnter irqStatus =>
      obtain ⟨⟨requested, _⟩, ⟨⟩⟩ := Option.ite_none_right_eq_some.mp stepped
      exact inv.irqEnter timely requested
  | irqSchedule =>
      simp only [Handlers.step] at stepped
      split at stepped
      next irqStatus read =>
          split at stepped
          next ring =>
              cases stepped
              rw [ring] at read
              exact inv.irqSchedule read
          next =>
              cases stepped
              exact inv.irqSkip (by simp [read])
      next => contradiction
  | irqClear =>
      obtain ⟨clears, ⟨⟩⟩ := Option.ite_none_right_eq_some.mp stepped
      exact inv.irqClear (by simp [clears])
  | taskletRun =>
      obtain ⟨⟨waiting, _⟩, ⟨⟩⟩ := Option.ite_none_right_eq_some.mp stepped
      exact inv.taskletRun waiting
  | taskletLock =>
      obtain ⟨⟨receiving, free⟩, ⟨⟩⟩ := Option.ite_none_right_eq_some.mp stepped
      exact inv.taskletLock receiving free
  | taskletUnlock received =>
      obtain ⟨locked, ⟨⟩⟩ := Option.ite_none_right_eq_some.mp stepped
      have registered := inv.tasklet.rings (.inr (by rw [locked]; decide))
      refine inv.taskletUnlock (.inl locked) ?_ (inv.receiving registered).1
      cases received <;> simp
  | timerFire =>
      obtain ⟨⟨armed, _⟩, ⟨⟩⟩ := Option.ite_none_right_eq_some.mp stepped
      exact inv.timerFire armed
  | postCheck timer =>
      obtain ⟨checks, ⟨⟩⟩ := Option.ite_none_right_eq_some.mp stepped
      exact inv.postCheck checks
  | postLock timer =>
      obtain ⟨⟨waits, free⟩, ⟨⟩⟩ := Option.ite_none_right_eq_some.mp stepped
      exact inv.postLock waits free
  | postBuffer timer =>
      obtain ⟨locked, ⟨⟩⟩ := Option.ite_none_right_eq_some.mp stepped
      exact inv.postBuffer locked
  | postUnlock timer ok =>
      obtain ⟨locked, ⟨⟩⟩ := Option.ite_none_right_eq_some.mp stepped
      exact inv.postUnlock locked
  | postReturn timer =>
      simp only [Handlers.step] at stepped
      split at stepped
      next ok returned =>
          cases stepped
          exact inv.postReturn returned
      next => contradiction
  | tx vif =>
      obtain ⟨registered, ⟨⟩⟩ := Option.ite_none_right_eq_some.mp stepped
      exact inv.tx registered vif
  | workRun =>
      obtain ⟨⟨waiting, idle⟩, ⟨⟩⟩ := Option.ite_none_right_eq_some.mp stepped
      refine @Inv.worked _ inv .take false state.mgmtTxQueue (.inl waiting) ?_ _
        (inv.work.priv (.inl waiting))
      simp [frames, idle]

end Steps

end Handlers

/-- In every run in which the interrupts come when they may, and in which remove finds no
frame that needs what it frees and no timer that needs it, no handler ever misses what it
dereferences. -/
theorem handlers_find_in_place {events : List Handlers.Event} {final : Handlers}
    (timely : Meets Handlers.step Handlers.Timely .start events)
    (reached : run Handlers.step .start events = some final) : final.faulted = false :=
  (timely.invariant Handlers.Inv
    (fun _ _ _ timely stepped inv => inv.step timely stepped) reached .start).sound

/-- Probe, with a first `post_buf` that runs out of memory and arms the timer. -/
def Handlers.probe : List Handlers.Event :=
  List.replicate 13 (.call true) ++ [.call false] ++ List.replicate 5 (.call true)

/-- A receive interrupt with its tasklet, the timer, and one frame. -/
def Handlers.service : List Handlers.Event :=
  [.irqEnter irqStatuSrngDstDmaTestRing0, .irqSchedule, .irqClear, .taskletRun,
    .taskletLock, .taskletUnlock false, .postCheck false, .postLock false,
    .postBuffer false, .postUnlock false true, .postReturn false, .timerFire,
    .postCheck true, .postLock true, .postBuffer true, .postUnlock true true,
    .postReturn true, .tx (some 0), .workRun, .workTake, .workFrame, .workTake]

theorem handlers_find_in_place_life :
    ∃ final, run Handlers.step .start
        (Handlers.probe ++ Handlers.service ++ List.replicate 15 (.call true)) =
          some final ∧
      final.point = .removed ∧ final.faulted = false := by
  have seen : (run Handlers.step .start
      (Handlers.probe ++ Handlers.service ++ List.replicate 15 (.call true))).map
        Handlers.point = some .removed := by decide +kernel
  obtain ⟨final, reached, point⟩ := Option.map_eq_some_iff.mp seen
  have timely : Meets Handlers.step Handlers.Timely .start
      (Handlers.probe ++ Handlers.service ++ List.replicate 15 (.call true)) := by
    decide +kernel
  exact ⟨final, reached, point, handlers_find_in_place timely reached⟩

/-- An interrupt right after `request_irq`, one for the receive ring before the tasklet
is set up, the timer after `kfree(priv)`, a frame after `unregister_hw`, and an interrupt
after a probe that ran out of memory for the workqueue. -/
theorem handlers_miss :
    (run Handlers.step .start (List.replicate 4 (.call true) ++ [.irqEnter 0])).map
        Handlers.faulted = some true ∧
      (run Handlers.step .start (List.replicate 6 (.call true) ++
        [.irqEnter irqStatuSrngDstDmaTestRing0, .irqSchedule])).map
        Handlers.faulted = some true ∧
      (run Handlers.step .start (Handlers.probe ++ List.replicate 15 (.call true) ++
        [.timerFire])).map Handlers.faulted = some true ∧
      (run Handlers.step .start (Handlers.probe ++ [.tx (some 0), .call true, .call true,
        .workRun, .workTake, .workFrame])).map Handlers.faulted = some true ∧
      (run Handlers.step .start (List.replicate 15 (.call true) ++
        [.call false, .call true, .irqEnter 0])).map Handlers.faulted = some true := by
  decide +kernel

end WirelessSimu
