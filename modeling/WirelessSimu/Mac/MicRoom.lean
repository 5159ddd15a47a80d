import WirelessSimu.Mac.Service

namespace WirelessSimu

open Data Kernel

/-! The room that a frame brings for the MIC decides whether it can be served at all:
`skb_put` has no error return. A frame is numbered by its arrival, so that what it
brought is found among the events. -/

/-- The frames that have the MIC behind their data. -/
def MgmtWorker.lengthened : MgmtWorker → List Nat
  | .map skb _ | .send skb _ => [skb]
  | _ => []

namespace Mac

def Event.arrival : Event → Option (Frame × SkBuff)
  | .tx _ frame skb => some (frame, skb)
  | _ => none

def arrivals (events : List Event) : List (Frame × SkBuff) :=
  events.filterMap Event.arrival

/-- The buffer has room for the MIC when the frame arrives. -/
def Fits (arrival : Frame × SkBuff) : Prop :=
  mgmtTxMicLength arrival.1 arrival.1.skbCb ≤ arrival.2.tailroom

/-- The frame brought room for its MIC. -/
def HasRoom (events : List Event) (skb : Nat) : Prop :=
  ∃ arrival ∈ (arrivals events)[skb]?, Fits arrival

instance (arrival : Frame × SkBuff) : Decidable (Fits arrival) :=
  inferInstanceAs (Decidable (_ ≤ _))

instance (events : List Event) (skb : Nat) : Decidable (HasRoom events skb) :=
  match found : (arrivals events)[skb]? with
  | some arrival =>
      decidable_of_iff (Fits arrival) (by simp [HasRoom, found])
  | none => isFalse (by simp [HasRoom, found])

/-- As long as no command failed: a frame keeps its room until it gets an id, and got
one only where the MIC had room. -/
structure Roomy (issued : List MgmtCommand) (past : List Event) (mac : Mac) : Prop where
  allocated : mac.buffers.allocated = (arrivals past).length
  arrived : ∀ skb, ∀ arrival ∈ (arrivals past)[skb]?,
    mac.frame skb = arrival.1 ∧ mac.cb skb = arrival.1.skbCb ∧
      ((mac.buffers.skb skb).tailroom = arrival.2.tailroom ∨
        skb ∈ issued.map MgmtCommand.skb ++ mac.worker.lengthened)
  fitted : ∀ skb ∈ issued.map MgmtCommand.skb ++ mac.worker.lengthened, HasRoom past skb

end Mac

section Steps

variable {callers : Nat} {mac next : Mac} {event : Mac.Event} {past : List Mac.Event}
  {issued issued' : List MgmtCommand}

theorem Mac.arrivals_concat (past : List Mac.Event) (event : Mac.Event) :
    Mac.arrivals (past ++ [event]) = Mac.arrivals past ++ event.arrival.toList := by
  cases arrived : event.arrival <;> simp [arrivals, arrived]

theorem Mac.HasRoom.later {skb : Nat} (room : Mac.HasRoom past skb) (event : Mac.Event) :
    Mac.HasRoom (past ++ [event]) skb := by
  obtain ⟨arrival, found, fits⟩ := room
  refine ⟨arrival, ?_, fits⟩
  rw [Mac.arrivals_concat]
  exact List.getElem?_append_left (List.getElem?_eq_some_iff.mp found).1 ▸ found

/-- A step that leaves the frames alone, though a command may go out. -/
theorem Mac.Roomy.keeps (roomy : mac.Roomy issued past) (noTx : event.arrival = none)
    (frame : next.frame = mac.frame) (cb : next.cb = mac.cb)
    (allocated : next.buffers.allocated = mac.buffers.allocated)
    (tailroom : ∀ skb, (next.buffers.skb skb).tailroom = (mac.buffers.skb skb).tailroom)
    (lengthened : issued'.map MgmtCommand.skb ++ next.worker.lengthened =
      issued.map MgmtCommand.skb ++ mac.worker.lengthened) :
    next.Roomy issued' (past ++ [event]) where
  allocated := by
    rw [allocated, roomy.allocated, Mac.arrivals_concat, noTx]
    simp
  arrived := by
    rw [Mac.arrivals_concat, noTx, frame, cb, lengthened]
    intro skb arrival found
    rw [tailroom]
    exact roomy.arrived skb arrival (by simpa using found)
  fitted := by
    rw [lengthened]
    exact fun skb member => (roomy.fitted skb member).later event

theorem Mac.Roomy.tx (roomy : mac.Roomy issued past) (caller : Nat) (frame : Frame)
    (skb : SkBuff) {calls : Nat → TxCall} :
    Mac.Roomy issued (past ++ [.tx caller frame skb])
      { mac.arrived frame skb with calls := calls } where
  allocated := by
    rw [Mac.arrivals_concat, List.length_append, ← roomy.allocated]
    rfl
  arrived := by
    intro other arrival found
    rw [Mac.arrivals_concat] at found
    by_cases new : other = mac.buffers.allocated
    · rw [new, roomy.allocated] at found
      simp only [Event.arrival, Option.toList_some, List.getElem?_concat_length,
        Option.mem_def, Option.some.injEq] at found
      subst found
      simp only [Mac.arrived, Buffers.adopt, new, Function.update_self]
      exact ⟨trivial, trivial, .inl trivial⟩
    · have old : other < (Mac.arrivals past).length := by
        have inside := (List.getElem?_eq_some_iff.mp found).1
        rw [List.length_append] at inside
        simp only [Event.arrival, Option.toList_some, List.length_singleton] at inside
        rw [roomy.allocated] at new
        omega
      rw [List.getElem?_append_left old] at found
      simp only [Mac.arrived, Buffers.adopt, Function.update_of_ne new]
      exact roomy.arrived other arrival found
  fitted := fun other member => (roomy.fitted other member).later _

/-- The guard of `skb_put` sees the room that the frame brought, unless the frame had its
turn before. -/
theorem Mac.Roomy.id (roomy : mac.Roomy issued past) {skb bufId : Nat} {buffers : Buffers}
    (allocating : mac.worker = .alloc skb) (known : skb < mac.buffers.allocated)
    (put : mac.buffers.skbPut skb (mgmtTxMicLength (mac.frame skb) (mac.cb skb)) =
      some buffers) :
    Mac.Roomy issued (past ++ [.idrAlloc (some bufId)])
      { mac with
        txmgmtIdr := Function.update mac.txmgmtIdr bufId (some skb)
        buffers := buffers
        worker := .map skb bufId } := by
  obtain ⟨room, rfl⟩ := Buffers.skbPut_eq_some.mp put
  have same : Mac.arrivals (past ++ [.idrAlloc (some bufId)]) = Mac.arrivals past := by
    rw [Mac.arrivals_concat]
    exact List.append_nil _
  have none : mac.worker.lengthened = [] := by rw [allocating]; rfl
  refine ⟨?_, ?_, ?_⟩
  · rw [same]
    exact roomy.allocated
  · intro other arrival found
    rw [same] at found
    obtain ⟨frame, cb, kept⟩ := roomy.arrived other arrival found
    refine ⟨frame, cb, ?_⟩
    rw [none, List.append_nil] at kept
    by_cases own : other = skb
    · exact .inr (by simp [MgmtWorker.lengthened, own])
    · simp only [Function.update_of_ne own]
      exact kept.imp_right (List.mem_append_left _)
  · intro other member
    simp only [MgmtWorker.lengthened, List.mem_append, List.mem_singleton] at member
    rcases member with before | own
    · exact (roomy.fitted other (List.mem_append_left _ before)).later _
    · rw [own]
      rw [roomy.allocated] at known
      obtain ⟨frame, cb, kept | before⟩ :=
        roomy.arrived skb _ (List.getElem?_eq_getElem known)
      · refine ⟨_, by rw [same]; exact List.getElem?_eq_getElem known, ?_⟩
        rw [frame, cb, kept] at room
        exact room
      · exact (roomy.fitted skb before).later _

theorem Mac.Step.roomy (stepped : Mac.Step callers mac event next)
    (smooth : mac.Smooth event) (working : mac.worker.serving = true)
    (taken : ∀ skb ∈ mac.worker.taken, skb < mac.buffers.allocated)
    (roomy : mac.Roomy issued past) :
    next.Roomy (issued ++ mac.issues event) (past ++ [event]) := by
  have quiet (issues : mac.issues event = [])
      (kept : next.Roomy issued (past ++ [event])) :
      next.Roomy (issued ++ mac.issues event) (past ++ [event]) := by
    rw [issues, List.append_nil]
    exact kept
  cases stepped with
  | txIgnored => exact quiet rfl (roomy.tx ..)
  | txMgmt => exact quiet rfl (roomy.tx ..)
  | prbRspRead | queueFull | queueOpen | queueTail | countUp | refused =>
      exact quiet rfl (roomy.keeps rfl rfl rfl rfl (fun _ => rfl) rfl)
  | workStart idle pending =>
      exact quiet rfl (roomy.keeps rfl rfl rfl rfl (fun _ => rfl) (by rw [idle]; rfl))
  | workEnd looping empty =>
      exact quiet rfl (roomy.keeps rfl rfl rfl rfl (fun _ => rfl) (by rw [looping]; rfl))
  | dequeueLost looping first noVif =>
      exact quiet rfl (roomy.keeps rfl rfl rfl rfl (fun _ => rfl) (by rw [looping]; rfl))
  | dequeue looping first hasVif =>
      exact quiet rfl (roomy.keeps rfl rfl rfl rfl (fun _ => rfl) (by rw [looping]; rfl))
  | drop dropping => simp [dropping, MgmtWorker.serving] at working
  | dropped freed => simp [freed, MgmtWorker.serving] at working
  | unmap failed => simp [failed, MgmtWorker.serving] at working
  | freeIdr failed => simp [failed, MgmtWorker.serving] at working
  | noId allocating =>
      exact quiet rfl
        (roomy.keeps rfl rfl rfl rfl (fun _ => rfl) (by rw [allocating]; rfl))
  | @id skb bufId buffers allocating inRange unused put =>
      have known := taken skb (by simp [allocating, MgmtWorker.taken])
      exact quiet rfl (roomy.id allocating known put)
  | mapFailed mapping => cases smooth
  | @mapped skb bufId paddr mapping =>
      refine quiet rfl (roomy.keeps rfl rfl rfl rfl ?_ (by rw [mapping]; rfl))
      intro other
      simp only [Buffers.setPaddr, Buffers.dmaMapSingle]
      by_cases own : other = skb
      · rw [own, Function.update_self]
      · rw [Function.update_of_ne own]
  | @sent skb bufId ret sending =>
      obtain rfl : ret = 0 := smooth
      refine roomy.keeps rfl rfl rfl rfl (fun _ => rfl) ?_
      simp [Mac.issues, sending, MgmtWorker.command, MgmtWorker.lengthened]

end Steps

section Runs

variable {callers : Nat} {mac final : Mac} {events : List Mac.Event}

theorem Mac.Roomy.start : Mac.start.Roomy [] [] where
  allocated := rfl
  arrived := by simp [Mac.arrivals]
  fitted := by simp [Mac.start, MgmtWorker.lengthened]

theorem Mac.Ordered.taken_lt {accepted : List Nat} {sent : List MgmtCommand}
    (ordered : mac.Ordered callers accepted sent) :
    ∀ skb ∈ mac.worker.taken, skb < mac.buffers.allocated := by
  intro skb taken
  refine ordered.known skb (ordered.order.subset ?_)
  simp [taken]

theorem Mac.Roomy.run
    (smooth : Meets (Mac.step callers) Mac.Smooth .start events)
    (reached : run (Mac.step callers) .start events = some final) :
    final.Roomy (Mac.issuedCommands callers events) events := by
  have both := smooth.history (fun past mac => Meets (Mac.step callers) Mac.Smooth .start past ∧
    mac.Roomy (Mac.issuedCommands callers past) past) ⟨trivial, .start⟩ ?_ reached
  · exact both.2
  intro past mac event next before allowed stepped ⟨sofar, roomy⟩
  have ordered := Mac.Ordered.run before
  have serving := Mac.Serving.run sofar before
  refine ⟨?_, ?_⟩
  · refine Meets.append.mpr ⟨sofar, fun state found => ?_⟩
    rw [before] at found
    cases found
    exact ⟨allowed, fun _ _ => trivial⟩
  · have extended := (Mac.step_cases stepped).roomy allowed serving.working
      ordered.taken_lt roomy
    unfold Mac.issuedCommands
    rw [outputs_concat before stepped]
    exact extended

/-- The frame in hand is accepted, and no command was issued for it. -/
theorem Mac.Ordered.in_hand {accepted : List Nat} {sent : List MgmtCommand} {skb : Nat}
    (ordered : mac.Ordered callers accepted sent) (taken : skb ∈ mac.worker.taken) :
    skb ∈ accepted ∧ skb ∉ sent.map MgmtCommand.skb := by
  refine ⟨ordered.order.subset (by simp [taken]), fun already => ?_⟩
  have once := ordered.order.nodup ordered.once
  rw [List.append_assoc, List.nodup_append] at once
  exact once.2.2 skb already skb (List.mem_append_left _ taken) rfl

/-- At rest as in a panic, every accepted frame was served exactly if there were no more
of them than ids and each of them brought room for its MIC. -/
theorem Mac.served_iff_room
    (smooth : Meets (Mac.step callers) Mac.Smooth .start events)
    (reached : run (Mac.step callers) .start events = some final)
    (ended : final.AtRest callers ∨ final.Panics) :
    Mac.Served callers events ↔
      (Mac.acceptedFrames callers events).length ≤ txMgmtNumPendingMax ∧
        ∀ skb ∈ Mac.acceptedFrames callers events, Mac.HasRoom events skb := by
  have roomy := Mac.Roomy.run smooth reached
  have serving := Mac.Serving.run smooth reached
  have ordered := Mac.Ordered.run reached
  have all : Mac.sentCommands callers events = Mac.issuedCommands callers events :=
    List.filter_eq_self.mpr serving.succeeded
  rcases ended with atRest | ⟨skb, worker, -, short⟩
  · rw [Mac.served_iff smooth reached atRest, iff_self_and]
    intro few skb member
    have order := (serving.fifo few).1
    rw [Mac.empty_of_atRest reached atRest, atRest.2.1,
      show MgmtWorker.idle.taken ++ [] = [] from rfl, List.append_nil] at order
    rw [order] at member
    exact roomy.fitted skb (List.mem_append_left _ member)
  · have taken : skb ∈ final.worker.taken := by simp [worker, MgmtWorker.taken]
    obtain ⟨accepted, unsent⟩ := ordered.in_hand taken
    rw [all] at unsent
    refine iff_of_false (fun served => ?_) (fun fine => ?_)
    · have once := served.1 skb accepted
      rw [List.count_eq_zero.mpr unsent] at once
      cases once
    · obtain ⟨arrival, found, fits⟩ := fine.2 skb accepted
      obtain ⟨frame, cb, kept | before⟩ := roomy.arrived skb arrival found
      · rw [frame, cb, kept] at short
        exact UInt32.not_le.mpr short fits
      · rw [worker] at before
        exact unsent (by simpa [MgmtWorker.lengthened] using before)

/-- A run in which nothing fails goes on until everybody is at rest or the kernel panics,
and cannot go on for longer without a new frame. In the end every accepted frame was served
exactly if there were no more of them than ids and each of them brought room for its MIC; up
to that number no frame is lost on the way and every frame gets an id. -/
theorem mgmt_tx_service
    (smooth : Meets (Mac.step callers) Mac.Smooth .start events)
    (reached : run (Mac.step callers) .start events = some final) :
    (final.AtRest callers ∨ final.Panics → (Mac.Served callers events ↔
      (Mac.acceptedFrames callers events).length ≤ txMgmtNumPendingMax ∧
        ∀ skb ∈ Mac.acceptedFrames callers events, Mac.HasRoom events skb)) ∧
    ((Mac.acceptedFrames callers events).length ≤ txMgmtNumPendingMax →
      Mac.acceptedFrames callers events =
          (Mac.issuedCommands callers events).map MgmtCommand.skb ++
            (final.worker.taken ++ final.mgmtTxQueue) ∧
        Mac.Event.idrAlloc none ∉ events) ∧
    (¬ final.AtRest callers → ¬ final.Panics → ∃ event, event.isTx = false ∧
      final.Smooth event ∧ (final.step callers event).isSome) ∧
    (final.Panics → ∀ event next, final.Smooth event →
      final.step callers event = some next → next.worker = final.worker) ∧
    ∀ more rest, (∀ event ∈ more, event.isTx = false) →
      run (Mac.step callers) final more = some rest →
      more.length ≤ final.rank callers := by
  have serving := Mac.Serving.run smooth reached
  refine ⟨Mac.served_iff_room smooth reached, serving.fifo,
    Mac.exists_step serving.working, ?_, ?_⟩
  · intro panics event next allowed stepped
    exact panics.worker_eq allowed (Mac.step_cases stepped)
  · intro more rest noTx continued
    have bound := Mac.length_le_rank noTx continued
    omega

/-- A protected deauthentication frame with a key and nothing behind its data. -/
example : (run (Mac.step 1) .start
    [.tx 0 ⟨0x40c0, 0, some 0x000fac04, some 3⟩ ⟨26, 0, 0⟩, .call 0, .call 0, .call 0, .work,
      .work]).map (fun mac => (mac.worker, mac.step 1 (.idrAlloc (some 0)) |>.isSome)) =
    some (.alloc 0, false) := by decide +kernel

namespace Mac

def queueOne : List Event :=
  [.tx 0 ⟨0x0040, 0, none, some 3⟩ ⟨100, 28, 0⟩, .call 0, .call 0, .call 0, .work, .work]

def sendOne (bufId : Nat) : List Event :=
  queueOne ++ [.idrAlloc (some bufId), .dmaMap (some 0x1000), .wmiSend 0, .work]

def loseOne : List Event := queueOne ++ [.idrAlloc none, .work]

def sendFirst (count : Nat) : List Event := (List.range count).flatMap sendOne

structure SentFirst (count : Nat) (mac : Mac) : Prop where
  atRest : mac.AtRest 1
  empty : mac.mgmtTxQueue = []
  used : ∀ bufId < count, (mac.txmgmtIdr bufId).isSome
  unused : ∀ bufId, count ≤ bufId → mac.txmgmtIdr bufId = none

end Mac

theorem Mac.queueOne_run (atRest : mac.AtRest 1) (empty : mac.mgmtTxQueue = []) :
    (run (Mac.step 1) mac Mac.queueOne).map (fun next => (next.calls 0,
        next.mgmtTxQueue, next.workPending, next.worker, next.txmgmtIdr,
        mgmtTxMicLength (next.frame mac.buffers.allocated)
          (next.cb mac.buffers.allocated))) =
      some (.idle, [], false, .alloc mac.buffers.allocated, mac.txmgmtIdr, 0) ∧
    outputs (Mac.step 1) Mac.accepts mac Mac.queueOne = [mac.buffers.allocated] := by
  have call := atRest.1 0 (by decide)
  have idle := atRest.2.1
  have stopped := atRest.2.2
  have plain : (Frame.mk 0x0040 0 none (some 3)).hw80211Encap = false := by decide
  have mgmt : (Frame.mk 0x0040 0 none (some 3)).isMgmt = true := by decide
  have other : (Frame.mk 0x0040 0 none (some 3)).isProbeResp = false := by decide
  have room : ¬ txMgmtNumPendingMax ≤ 0 := by decide
  have noMic : mgmtTxMicLength (Frame.mk 0x0040 0 none (some 3))
      (Frame.mk 0x0040 0 none (some 3)).skbCb = 0 := by decide
  simp [outputs, Data.run, Mac.queueOne, Mac.step, Mac.mac80211Tx, Mac.arrived,
    Mac.macMgmtTx, Mac.setCall, Mac.work, Mac.mgmtTxWorkFunc, Mac.accepts,
    TxCall.accepted, call, idle, stopped, plain, mgmt, other, empty, room, noMic]

theorem Mac.SentFirst.next {count : Nat} (sent : mac.SentFirst count)
    (inRange : count < txMgmtNumPendingMax) :
    ∃ next, run (Mac.step 1) mac (Mac.sendOne count) = some next ∧
      next.SentFirst (count + 1) ∧
      (outputs (Mac.step 1) Mac.accepts mac (Mac.sendOne count)).length = 1 := by
  obtain ⟨seen, queued⟩ := Mac.queueOne_run sent.atRest sent.empty
  obtain ⟨middle, taken, values⟩ := Option.map_eq_some_iff.mp seen
  simp only [Prod.mk.injEq] at values
  obtain ⟨call, empty, stopped, allocating, idr, noMic⟩ := values
  have free : middle.txmgmtIdr count = none := by
    rw [idr]
    exact sent.unused count le_rfl
  have rest : (run (Mac.step 1) middle [.idrAlloc (some count), .dmaMap (some 0x1000),
      .wmiSend 0, .work]).map (fun next => (next.calls 0, next.mgmtTxQueue,
        next.workPending, next.worker, next.txmgmtIdr)) =
      some (.idle, [], false, .idle,
        Function.update mac.txmgmtIdr count (some mac.buffers.allocated)) := by
    simp [Data.run, Mac.step, Mac.idrAlloc, Mac.dmaMap, Mac.wmiSend, Mac.work,
      Mac.mgmtTxWorkFunc, Buffers.skbPut, SkBuff.skbPut, allocating, inRange, free, call,
      empty, stopped, idr, noMic]
  obtain ⟨next, ended, values⟩ := Option.map_eq_some_iff.mp rest
  simp only [Prod.mk.injEq] at values
  obtain ⟨call', empty', stopped', idle, idr'⟩ := values
  refine ⟨next, ?_, ⟨⟨?_, idle, stopped'⟩, empty', ?_, ?_⟩, ?_⟩
  · rw [Mac.sendOne, run_append, taken]
    exact ended
  · intro caller only
    rw [Nat.lt_one_iff.mp only, call']
  · intro bufId below
    rw [idr']
    by_cases new : bufId = count
    · simp [new]
    · rw [Function.update_of_ne new]
      exact sent.used bufId (by omega)
  · intro bufId above
    rw [idr', Function.update_of_ne (by omega)]
    exact sent.unused bufId (by omega)
  · rw [Mac.sendOne, outputs_append taken, queued, List.length_append]
    simp [outputs, Mac.step, Mac.idrAlloc, Mac.dmaMap, Mac.wmiSend, Mac.work,
      Mac.mgmtTxWorkFunc, Mac.accepts, Buffers.skbPut, SkBuff.skbPut, allocating, inRange,
      free, empty, noMic]

theorem Mac.sendFirst_smooth (count : Nat) (mac : Mac) :
    Meets (Mac.step 1) Mac.Smooth mac (Mac.sendFirst count) := by
  refine Meets.of_forall (fun event member state => ?_) mac
  obtain ⟨bufId, -, inside⟩ := List.mem_flatMap.mp member
  simp only [Mac.sendOne, Mac.queueOne, List.cons_append, List.nil_append, List.mem_cons,
    List.not_mem_nil, or_false] at inside
  rcases inside with rfl | rfl | rfl | rfl | rfl | rfl | rfl | rfl | rfl | rfl <;>
    simp [Mac.Smooth]

theorem Mac.sendFirst_run {count : Nat} (few : count ≤ txMgmtNumPendingMax) :
    ∃ mac, run (Mac.step 1) .start (Mac.sendFirst count) = some mac ∧
      mac.SentFirst count ∧
      (Mac.acceptedFrames 1 (Mac.sendFirst count)).length = count ∧
      Meets (Mac.step 1) Mac.Smooth .start (Mac.sendFirst count) := by
  induction count with
  | zero =>
      refine ⟨.start, rfl, ⟨⟨fun _ _ => rfl, rfl, rfl⟩, rfl, ?_, fun _ _ => rfl⟩, rfl,
        trivial⟩
      intro bufId below
      exact absurd below (Nat.not_lt_zero bufId)
  | succ count ih =>
      obtain ⟨mac, reached, sent, accepted, -⟩ := ih (by omega)
      obtain ⟨next, last, more, one⟩ := sent.next few
      have split : Mac.sendFirst (count + 1) = Mac.sendFirst count ++ Mac.sendOne count := by
        simp [Mac.sendFirst, List.range_succ]
      refine ⟨next, ?_, more, ?_, Mac.sendFirst_smooth _ _⟩
      · rw [split, run_append, reached]
        exact last
      · unfold Mac.acceptedFrames at accepted ⊢
        rw [split, outputs_append reached, List.length_append, accepted, one]

theorem mgmt_tx_service_one :
    ∃ final, run (Mac.step 1) .start (Mac.sendFirst 1) = some final ∧
      final.AtRest 1 ∧ Mac.acceptedFrames 1 (Mac.sendFirst 1) = [0] ∧
      Mac.Served 1 (Mac.sendFirst 1) := by
  obtain ⟨final, reached, sent, one, smooth⟩ := @Mac.sendFirst_run 1 (by decide)
  have service := mgmt_tx_service smooth reached
  exact ⟨final, reached, sent.atRest, by decide +kernel,
    (service.1 (.inl sent.atRest)).mpr ⟨by rw [one]; decide, by decide +kernel⟩⟩

/-- When all ids are in use, the next frame finds none and loses its command. -/
theorem Mac.loseOne_run {first : List Mac.Event}
    (allSent : ∃ mac, run (Mac.step 1) .start first = some mac ∧
      mac.SentFirst txMgmtNumPendingMax ∧
      (Mac.acceptedFrames 1 first).length = txMgmtNumPendingMax ∧
      Meets (Mac.step 1) Mac.Smooth .start first) :
    ∃ final, run (Mac.step 1) .start (first ++ Mac.loseOne) = some final ∧
      Meets (Mac.step 1) Mac.Smooth .start (first ++ Mac.loseOne) ∧ final.AtRest 1 ∧
      Mac.Event.idrAlloc none ∈ first ++ Mac.loseOne ∧
      ¬ ∀ skb ∈ Mac.acceptedFrames 1 (first ++ Mac.loseOne),
        ((Mac.issuedCommands 1 (first ++ Mac.loseOne)).map MgmtCommand.skb).count skb =
          1 := by
  obtain ⟨mac, reached, sent, accepted, before⟩ := allSent
  obtain ⟨seen, queued⟩ := Mac.queueOne_run sent.atRest sent.empty
  obtain ⟨middle, taken, values⟩ := Option.map_eq_some_iff.mp seen
  simp only [Prod.mk.injEq] at values
  obtain ⟨call, empty, stopped, allocating, idr, noMic⟩ := values
  have rest : run (Mac.step 1) middle [.idrAlloc none, .work] =
      some { middle with worker := .idle } := by
    simp [run, Mac.step, Mac.idrAlloc, Mac.work, Mac.mgmtTxWorkFunc, allocating, empty]
  have ended : run (Mac.step 1) .start (first ++ Mac.loseOne) =
      some { middle with worker := .idle } := by
    rw [run_append, reached, Mac.loseOne, Option.bind_some, run_append, taken]
    exact rest
  have smooth : Meets (Mac.step 1) Mac.Smooth .start (first ++ Mac.loseOne) := by
    refine Meets.append.mpr ⟨before, fun state found => ?_⟩
    rw [reached] at found
    cases found
    refine Meets.append.mpr ⟨Meets.of_forall ?_ mac, fun state found => ?_⟩
    · simp [Mac.queueOne, Mac.Smooth]
    · rw [taken] at found
      cases found
      refine ⟨fun _ used below => ?_, fun _ _ => ⟨trivial, fun _ _ => trivial⟩⟩
      rw [idr]
      exact sent.used used below
  refine ⟨_, ended, smooth, ⟨?_, rfl, stopped⟩, ?_, fun once => ?_⟩
  · intro caller only
    rw [Nat.lt_one_iff.mp only]
    exact call
  · simp [Mac.loseOne]
  · have bound := Mac.length_le_of_once smooth ended once
    unfold Mac.acceptedFrames at bound accepted
    rw [outputs_append reached, List.length_append, accepted, Mac.loseOne,
      outputs_append taken, queued, List.length_append, List.length_singleton] at bound
    omega

/-- After 512 frames the next one finds no id, and no command is issued for it. -/
theorem mgmt_tx_runs_dry :
    ∃ final, run (Mac.step 1) .start
        (Mac.sendFirst txMgmtNumPendingMax ++ Mac.loseOne) = some final ∧
      Meets (Mac.step 1) Mac.Smooth .start
        (Mac.sendFirst txMgmtNumPendingMax ++ Mac.loseOne) ∧
      final.AtRest 1 ∧
      Mac.Event.idrAlloc none ∈ Mac.sendFirst txMgmtNumPendingMax ++ Mac.loseOne ∧
      ¬ ∀ skb ∈ Mac.acceptedFrames 1
          (Mac.sendFirst txMgmtNumPendingMax ++ Mac.loseOne),
        ((Mac.issuedCommands 1
          (Mac.sendFirst txMgmtNumPendingMax ++ Mac.loseOne)).map
          MgmtCommand.skb).count skb = 1 :=
  Mac.loseOne_run (Mac.sendFirst_run le_rfl)

end Runs

end WirelessSimu
