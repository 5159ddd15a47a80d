import WirelessSimu.Mac.Commands

namespace WirelessSimu

open Data Kernel

/-! How the work item serves the accepted frames when nothing that it asks for
fails. -/

/-- The work item in its loop or on the way to a command that succeeds. -/
def MgmtWorker.serving : MgmtWorker → Bool
  | .idle | .dequeue | .alloc _ | .map _ _ | .send _ _ => true
  | _ => false

/-- More than the number of steps that the call still makes and that it leaves to the
work item. -/
def TxCall.rank : TxCall → Nat
  | .idle => 0
  | .prbRspRead _ => 12
  | .lenRead _ => 11
  | .queueTail _ => 10
  | .countUp => 3
  | .refused _ => 1

def MgmtWorker.rank : MgmtWorker → Nat
  | .idle => 0
  | .dequeue => 1
  | .drop _ => 3
  | .dropped => 2
  | .alloc _ => 6
  | .map _ _ => 5
  | .send _ _ => 4
  | .unmap _ _ => 3
  | .freeIdr _ => 2

namespace Mac

/-- Every frame has an interface, and the mapping and the command succeed. `idr_alloc`
fails only when it finds no unused id. -/
def Smooth (mac : Mac) : Event → Prop
  | .tx _ frame _ => frame.vif.isSome
  | .idrAlloc bufId =>
      bufId = none → ∀ used < txMgmtNumPendingMax, (mac.txmgmtIdr used).isSome
  | .dmaMap paddr => paddr.isSome
  | .wmiSend ret => ret = 0
  | _ => True

instance : ∀ mac event, Decidable (Smooth mac event)
  | _, .tx _ frame _ => inferInstanceAs (Decidable (frame.vif.isSome = true))
  | mac, .idrAlloc bufId =>
      inferInstanceAs (Decidable (bufId = none →
        ∀ used < txMgmtNumPendingMax, (mac.txmgmtIdr used).isSome = true))
  | _, .dmaMap paddr => inferInstanceAs (Decidable (paddr.isSome = true))
  | _, .wmiSend ret => inferInstanceAs (Decidable (ret = 0))
  | _, .call _ => isTrue trivial
  | _, .work => isTrue trivial

def AtRest (callers : Nat) (mac : Mac) : Prop :=
  (∀ caller < callers, mac.calls caller = .idle) ∧ mac.worker = .idle ∧
    mac.workPending = false

/-- There is an id for the frame in hand, but behind its data no room for the MIC: the
work item goes no further than `skb_over_panic`. -/
def Panics (mac : Mac) : Prop :=
  ∃ skb, mac.worker = .alloc skb ∧
    (∃ bufId < txMgmtNumPendingMax, mac.txmgmtIdr bufId = none) ∧
    (mac.buffers.skb skb).tailroom < mgmtTxMicLength (mac.frame skb) (mac.cb skb)

/-- Every frame that the run accepted got one command, and an id whenever it asked for
one. -/
def Served (callers : Nat) (events : List Event) : Prop :=
  (∀ skb ∈ acceptedFrames callers events,
    ((issuedCommands callers events).map MgmtCommand.skb).count skb = 1) ∧
  Event.idrAlloc none ∉ events

def workRank (mac : Mac) : Nat :=
  6 * mac.mgmtTxQueue.length + mac.worker.rank + 2 * mac.workPending.toNat

/-- A bound for the steps that are left when no new frame arrives. -/
def rank (callers : Nat) (mac : Mac) : Nat :=
  ∑ caller ∈ Finset.range callers, (mac.calls caller).rank + mac.workRank

/-- A queued frame has somebody who will start the work item. -/
def Woken (callers : Nat) (mac : Mac) : Prop :=
  mac.mgmtTxQueue ≠ [] → mac.workPending = true ∨ mac.worker ≠ .idle ∨
    ∃ caller < callers, mac.calls caller = .countUp

/-- What was accepted and issued so far when nothing failed. As long as the ids can
suffice, every accepted frame is with a command, with the work item or in the queue. -/
structure Serving (accepted : List Nat) (issued : List MgmtCommand) (past : List Event)
    (mac : Mac) : Prop where
  vifs : ∀ skb < mac.buffers.allocated, (mac.cb skb).vif ≠ none
  working : mac.worker.serving = true
  succeeded : ∀ command ∈ issued, command.succeeded = true
  used : ∀ bufId, mac.txmgmtIdr bufId ≠ none →
    bufId ∈ issued.map MgmtCommand.descId ∨ bufId ∈ mac.worker.bufId
  fifo : accepted.length ≤ txMgmtNumPendingMax →
    accepted = issued.map MgmtCommand.skb ++ (mac.worker.taken ++ mac.mgmtTxQueue) ∧
      Event.idrAlloc none ∉ past

end Mac

section Rank

variable {callers : Nat} {mac next : Mac} {event : Mac.Event}

theorem Mac.rank_call {caller : Nat} (inRange : caller < callers) {call : TxCall}
    (calls : next.calls = Function.update mac.calls caller call)
    (less : call.rank + next.workRank < (mac.calls caller).rank + mac.workRank) :
    next.rank callers < mac.rank callers := by
  obtain ⟨rest, before, after⟩ := sum_range_update TxCall.rank inRange calls
  rw [Mac.rank, Mac.rank, before, after]
  omega

theorem Mac.rank_work (calls : next.calls = mac.calls)
    (less : next.workRank < mac.workRank) : next.rank callers < mac.rank callers := by
  rw [Mac.rank, Mac.rank, calls]
  exact Nat.add_lt_add_left less _

/-- Only a new frame makes more work. -/
theorem Mac.Step.rank_lt (stepped : Mac.Step callers mac event next)
    (noTx : event.isTx = false) : next.rank callers < mac.rank callers := by
  cases stepped with
  | txIgnored => cases noTx
  | txMgmt => cases noTx
  | @prbRspRead caller skb inRange reading =>
      refine Mac.rank_call inRange rfl (Nat.add_lt_add_right ?_ mac.workRank)
      rw [reading]
      split <;> simp [TxCall.rank]
  | @queueFull caller skb inRange reading full =>
      refine Mac.rank_call inRange rfl (Nat.add_lt_add_right ?_ mac.workRank)
      rw [reading]
      simp [TxCall.rank]
  | @queueOpen caller skb inRange reading room =>
      refine Mac.rank_call inRange rfl (Nat.add_lt_add_right ?_ mac.workRank)
      rw [reading]
      simp [TxCall.rank]
  | @queueTail caller skb inRange accepted =>
      refine Mac.rank_call inRange rfl ?_
      rw [accepted]
      simp only [TxCall.rank, Mac.workRank, Mac.setCall, List.length_append,
        List.length_singleton]
      omega
  | @countUp caller inRange queued =>
      refine Mac.rank_call inRange rfl ?_
      rw [queued]
      simp only [TxCall.rank, Mac.workRank, Mac.setCall, Bool.toNat_true]
      omega
  | @refused caller skb inRange refused =>
      refine Mac.rank_call inRange rfl (Nat.add_lt_add_right ?_ mac.workRank)
      rw [refused]
      simp [TxCall.rank]
  | workStart idle pending =>
      refine Mac.rank_work rfl ?_
      simp [Mac.workRank, MgmtWorker.rank, idle, pending]
  | workEnd looping empty =>
      refine Mac.rank_work rfl ?_
      simp only [Mac.workRank, MgmtWorker.rank, looping]
      omega
  | dequeueLost looping first noVif =>
      refine Mac.rank_work rfl ?_
      simp only [Mac.workRank, MgmtWorker.rank, looping, first, List.length_cons]
      omega
  | dequeue looping first hasVif =>
      refine Mac.rank_work rfl ?_
      simp only [Mac.workRank, MgmtWorker.rank, looping, first, List.length_cons]
      omega
  | drop dropping =>
      refine Mac.rank_work rfl ?_
      simp only [Mac.workRank, MgmtWorker.rank, dropping]
      omega
  | dropped freed =>
      refine Mac.rank_work rfl ?_
      simp only [Mac.workRank, Mac.mgmtOverTxDrop, MgmtWorker.rank, freed]
      omega
  | unmap failed =>
      refine Mac.rank_work rfl ?_
      simp only [Mac.workRank, MgmtWorker.rank, failed]
      omega
  | freeIdr failed =>
      refine Mac.rank_work rfl ?_
      simp only [Mac.workRank, MgmtWorker.rank, failed]
      omega
  | noId allocating =>
      refine Mac.rank_work rfl ?_
      simp only [Mac.workRank, MgmtWorker.rank, allocating]
      omega
  | id allocating inRange unused =>
      refine Mac.rank_work rfl ?_
      simp only [Mac.workRank, MgmtWorker.rank, allocating]
      omega
  | mapFailed mapping =>
      refine Mac.rank_work rfl ?_
      simp only [Mac.workRank, MgmtWorker.rank, mapping]
      omega
  | mapped mapping =>
      refine Mac.rank_work rfl ?_
      simp only [Mac.workRank, MgmtWorker.rank, mapping]
      omega
  | @sent skb bufId ret sending =>
      refine Mac.rank_work rfl ?_
      simp only [Mac.workRank, sending]
      split <;> (simp only [MgmtWorker.rank]; omega)

/-- A run that brings no new frame ends. -/
theorem Mac.length_le_rank {final : Mac} {events : List Mac.Event}
    (noTx : ∀ event ∈ events, event.isTx = false)
    (reached : run (Mac.step callers) mac events = some final) :
    events.length + final.rank callers ≤ mac.rank callers := by
  induction events generalizing mac with
  | nil =>
      cases reached
      simp
  | cons event events ih =>
      obtain ⟨next, stepped, rest⟩ := run_cons_eq_some.mp reached
      have less := (Mac.step_cases stepped).rank_lt (noTx event List.mem_cons_self)
      have later := ih (fun other member => noTx other (List.mem_cons_of_mem event member))
        rest
      rw [List.length_cons]
      omega

/-- Until everybody is at rest some step is possible in which nothing fails, unless the
kernel panics. -/
theorem Mac.exists_step (working : mac.worker.serving = true)
    (busy : ¬ mac.AtRest callers) (safe : ¬ mac.Panics) :
    ∃ event, event.isTx = false ∧ mac.Smooth event ∧
      (mac.step callers event).isSome := by
  by_cases calls : ∀ caller < callers, mac.calls caller = .idle
  · cases worker : mac.worker with
    | idle =>
        have pending : mac.workPending = true := by
          by_contra stopped
          exact busy ⟨calls, worker, Bool.not_eq_true _ ▸ stopped⟩
        exact ⟨.work, rfl, trivial, by simp [Mac.step, Mac.work, worker, pending]⟩
    | dequeue => exact ⟨.work, rfl, trivial, by simp [Mac.step, Mac.work, worker]⟩
    | alloc skb =>
        by_cases full : ∀ used < txMgmtNumPendingMax, (mac.txmgmtIdr used).isSome
        · exact ⟨.idrAlloc none, rfl, fun _ => full,
            by simp [Mac.step, Mac.idrAlloc, worker]⟩
        · push Not at full
          obtain ⟨bufId, inRange, unused⟩ := full
          have free : mac.txmgmtIdr bufId = none := by simpa using unused
          have room : mgmtTxMicLength (mac.frame skb) (mac.cb skb) ≤
              (mac.buffers.skb skb).tailroom :=
            UInt32.not_lt.mp fun short => safe ⟨skb, worker, ⟨bufId, inRange, free⟩, short⟩
          exact ⟨.idrAlloc (some bufId), rfl, by simp [Mac.Smooth],
            by simp [Mac.step, Mac.idrAlloc, worker, inRange, free, Buffers.skbPut,
              SkBuff.skbPut, room]⟩
    | map skb bufId =>
        exact ⟨.dmaMap (some 0), rfl, rfl, by simp [Mac.step, Mac.dmaMap, worker]⟩
    | send skb bufId =>
        exact ⟨.wmiSend 0, rfl, rfl, by simp [Mac.step, Mac.wmiSend, worker]⟩
    | _ =>
        rw [worker] at working
        cases working
  · push Not at calls
    obtain ⟨caller, inRange, going⟩ := calls
    refine ⟨.call caller, rfl, trivial, ?_⟩
    simp only [Mac.step, inRange, if_true, Mac.macMgmtTx]
    cases call : mac.calls caller with
    | idle => exact absurd call going
    | _ => rfl

/-- The work item does not come out of the panic. -/
theorem Mac.Panics.worker_eq (panics : mac.Panics) (smooth : mac.Smooth event)
    (stepped : Mac.Step callers mac event next) : next.worker = mac.worker := by
  obtain ⟨skb, worker, ⟨bufId, inRange, free⟩, short⟩ := panics
  have other {state : MgmtWorker} (at_ : mac.worker = state) (apart : state ≠ .alloc skb) :
      next.worker = mac.worker :=
    absurd (at_.symm.trans worker) apart
  cases stepped with
  | txIgnored | txMgmt | prbRspRead | queueFull | queueOpen | queueTail | countUp
  | refused => rfl
  | workStart idle pending => exact other idle (by simp)
  | workEnd looping empty => exact other looping (by simp)
  | dequeueLost looping first noVif => exact other looping (by simp)
  | dequeue looping first hasVif => exact other looping (by simp)
  | drop dropping => exact other dropping (by simp)
  | dropped freed => exact other freed (by simp)
  | unmap failed => exact other failed (by simp)
  | freeIdr failed => exact other failed (by simp)
  | noId allocating =>
      have taken := smooth rfl bufId inRange
      rw [free] at taken
      cases taken
  | id allocating _ _ put =>
      rw [worker] at allocating
      cases allocating
      exact absurd (Buffers.skbPut_eq_some.mp put).1 (UInt32.not_le.mpr short)
  | mapFailed mapping => exact other mapping (by simp)
  | mapped mapping => exact other mapping (by simp)
  | sent sending => exact other sending (by simp)

end Rank

section Steps

variable {callers : Nat} {mac next : Mac} {event : Mac.Event} {past : List Mac.Event}
  {accepted : List Nat} {issued : List MgmtCommand}

theorem Mac.Woken.call (woken : mac.Woken callers) {caller : Nat} {call : TxCall}
    (calls : next.calls = Function.update mac.calls caller call)
    (other : mac.calls caller ≠ .countUp) (queue : next.mgmtTxQueue = mac.mgmtTxQueue)
    (pending : next.workPending = mac.workPending)
    (worker : next.worker = mac.worker) : next.Woken callers := by
  intro waiting
  rw [queue] at waiting
  rw [pending, worker]
  refine (woken waiting).imp_right fun rest => rest.imp_right ?_
  rintro ⟨counting, inRange, counts⟩
  have different : counting ≠ caller := by
    rintro rfl
    exact other counts
  refine ⟨counting, inRange, ?_⟩
  rw [calls, Function.update_of_ne different]
  exact counts

theorem Mac.Woken.running (running : mac.worker ≠ .idle) : mac.Woken callers :=
  fun _ => .inr (.inl running)

theorem Mac.Step.woken (stepped : Mac.Step callers mac event next)
    (woken : mac.Woken callers) : next.Woken callers := by
  cases stepped with
  | @txIgnored caller frame skb inRange idle ignored =>
      have same : (mac.arrived frame skb).calls =
          Function.update mac.calls caller .idle := by
        rw [← idle, Function.update_eq_self]
        rfl
      exact woken.call same (by simp [idle]) rfl rfl rfl
  | txMgmt inRange idle plain mgmt => exact woken.call rfl (by simp [idle]) rfl rfl rfl
  | prbRspRead inRange reading => exact woken.call rfl (by simp [reading]) rfl rfl rfl
  | queueFull inRange reading full => exact woken.call rfl (by simp [reading]) rfl rfl rfl
  | queueOpen inRange reading room => exact woken.call rfl (by simp [reading]) rfl rfl rfl
  | @queueTail caller skb inRange accepted =>
      exact fun _ => .inr (.inr ⟨caller, inRange, Function.update_self ..⟩)
  | countUp inRange queued => exact fun _ => .inl rfl
  | refused inRange refused => exact woken.call rfl (by simp [refused]) rfl rfl rfl
  | workStart idle pending => exact .running (by simp)
  | workEnd looping empty => exact fun waiting => absurd empty waiting
  | dequeueLost looping first noVif => exact .running (by simp)
  | dequeue looping first hasVif => exact .running (by simp)
  | drop dropping => exact .running (by simp)
  | dropped freed => exact .running (by simp [Mac.mgmtOverTxDrop])
  | unmap failed => exact .running (by simp)
  | freeIdr failed => exact .running (by simp)
  | noId allocating => exact .running (by simp)
  | id allocating inRange unused => exact .running (by simp)
  | mapFailed mapping => exact .running (by simp)
  | mapped mapping => exact .running (by simp)
  | @sent skb bufId ret sending =>
      refine .running ?_
      simp only
      split <;> simp

theorem Mac.Serving.keeps (serving : mac.Serving accepted issued past)
    (vifs : ∀ skb < next.buffers.allocated, (next.cb skb).vif ≠ none)
    (working : next.worker.serving = true) (idr : next.txmgmtIdr = mac.txmgmtIdr)
    (ids : mac.worker.bufId ⊆ next.worker.bufId)
    (frames : next.worker.taken ++ next.mgmtTxQueue =
      mac.worker.taken ++ mac.mgmtTxQueue)
    (found : event ≠ .idrAlloc none) :
    next.Serving accepted issued (past ++ [event]) where
  vifs := vifs
  working := working
  succeeded := serving.succeeded
  used := by
    intro bufId taken
    rw [idr] at taken
    exact (serving.used bufId taken).imp_right fun member => ids member
  fifo := by
    intro few
    obtain ⟨order, allFound⟩ := serving.fifo few
    rw [frames]
    refine ⟨order, ?_⟩
    simp only [List.mem_append, List.mem_singleton, not_or]
    exact ⟨allFound, found.symm⟩

theorem Mac.Serving.arrived (serving : mac.Serving accepted issued past) {frame : Frame}
    (hasVif : frame.vif.isSome = true) (skb : SkBuff) :
    ∀ old < (mac.arrived frame skb).buffers.allocated,
      ((mac.arrived frame skb).cb old).vif ≠ none := by
  intro old before
  by_cases new : old = mac.buffers.allocated
  · simp only [Mac.arrived, new, Function.update_self, Frame.skbCb_vif]
    exact Option.isSome_iff_ne_none.mp hasVif
  · simp only [Mac.arrived, Function.update_of_ne new]
    have earlier : old < mac.buffers.allocated + 1 := before
    exact serving.vifs old (by omega)

/-- With every id in use, as many commands as there are ids were issued. -/
theorem Mac.Serving.length_of_full (serving : mac.Serving accepted issued past)
    {skb : Nat} (allocating : mac.worker = .alloc skb)
    (full : ∀ used < txMgmtNumPendingMax, (mac.txmgmtIdr used).isSome = true) :
    txMgmtNumPendingMax ≤ issued.length := by
  have covered : List.range txMgmtNumPendingMax ⊆ issued.map MgmtCommand.descId := by
    intro bufId inRange
    have taken := full bufId (List.mem_range.mp inRange)
    rcases serving.used bufId (Option.isSome_iff_ne_none.mp taken) with done | own
    · exact done
    · rw [allocating] at own
      cases own
  have few := (List.nodup_range.subperm covered).length_le
  rwa [List.length_range, List.length_map] at few

theorem Mac.Serving.queueTail (serving : mac.Serving accepted issued past)
    {caller : Nat} (skb : Nat) :
    Mac.Serving (accepted ++ [skb]) issued (past ++ [.call caller])
      { mac.setCall caller .countUp with mgmtTxQueue := mac.mgmtTxQueue ++ [skb] } := by
  refine ⟨serving.vifs, serving.working, serving.succeeded, serving.used, ?_⟩
  intro few
  rw [List.length_append] at few
  obtain ⟨order, allFound⟩ := serving.fifo (by omega)
  refine ⟨?_, by simpa using allFound⟩
  rw [order]
  simp only [Mac.setCall, List.append_assoc]

theorem Mac.Serving.noId (serving : mac.Serving accepted issued past) {skb : Nat}
    (allocating : mac.worker = .alloc skb)
    (full : ∀ used < txMgmtNumPendingMax, (mac.txmgmtIdr used).isSome = true) :
    Mac.Serving accepted issued (past ++ [.idrAlloc none])
      { mac with worker := .dequeue } := by
  refine ⟨serving.vifs, rfl, serving.succeeded, ?_, ?_⟩
  · intro bufId taken
    have known := serving.used bufId taken
    rwa [allocating] at known
  · intro few
    have many := serving.length_of_full allocating full
    have lengths := congrArg List.length (serving.fifo few).1
    rw [allocating] at lengths
    simp only [MgmtWorker.taken, List.length_append, List.length_map,
      List.length_singleton] at lengths
    omega

theorem Mac.Serving.id (serving : mac.Serving accepted issued past) {skb bufId : Nat}
    (allocating : mac.worker = .alloc skb) {buffers : Buffers} {length : UInt32}
    (put : mac.buffers.skbPut skb length = some buffers) :
    Mac.Serving accepted issued (past ++ [.idrAlloc (some bufId)])
      { mac with
        txmgmtIdr := Function.update mac.txmgmtIdr bufId (some skb)
        buffers := buffers
        worker := .map skb bufId } := by
  obtain ⟨_, rfl⟩ := Buffers.skbPut_eq_some.mp put
  refine ⟨serving.vifs, rfl, serving.succeeded, ?_, ?_⟩
  · intro used taken
    by_cases new : used = bufId
    · exact .inr (List.mem_singleton.mpr new)
    · simp only [Function.update_of_ne new] at taken
      have known := serving.used used taken
      rw [allocating] at known
      exact known.imp_right fun none => absurd none List.not_mem_nil
  · intro few
    obtain ⟨order, allFound⟩ := serving.fifo few
    rw [allocating] at order
    exact ⟨order, by simpa using allFound⟩

theorem Mac.Serving.sent (serving : mac.Serving accepted issued past) {skb bufId : Nat}
    (sending : mac.worker = .send skb bufId) (commands : List (Nat × Nat × Int)) :
    Mac.Serving accepted
      (issued ++ [⟨bufId, skb, (mac.buffers.skb skb).paddr, 0⟩]) (past ++ [.wmiSend 0])
      { mac with commands := commands, worker := .dequeue } := by
  refine ⟨serving.vifs, rfl, ?_, ?_, ?_⟩
  · intro command member
    rcases List.mem_append.mp member with old | new
    · exact serving.succeeded command old
    · rw [List.mem_singleton.mp new]
      rfl
  · intro used taken
    have known := serving.used used taken
    rw [sending] at known
    simp only [List.map_append, List.mem_append]
    exact .inl known
  · intro few
    obtain ⟨order, allFound⟩ := serving.fifo few
    rw [sending] at order
    refine ⟨?_, by simpa using allFound⟩
    rw [order]
    simp [MgmtWorker.taken]

theorem Mac.Step.serving (stepped : Mac.Step callers mac event next)
    (smooth : mac.Smooth event) (queued : ∀ skb ∈ mac.mgmtTxQueue,
      skb < mac.buffers.allocated)
    (serving : mac.Serving accepted issued past) :
    next.Serving (accepted ++ mac.accepts event) (issued ++ mac.issues event)
      (past ++ [event]) := by
  have working := serving.working
  have quiet (accepts : mac.accepts event = []) (issues : mac.issues event = [])
      (kept : next.Serving accepted issued (past ++ [event])) :
      next.Serving (accepted ++ mac.accepts event) (issued ++ mac.issues event)
        (past ++ [event]) := by
    rw [accepts, issues, List.append_nil, List.append_nil]
    exact kept
  cases stepped with
  | @txIgnored caller frame skb inRange idle ignored =>
      apply quiet rfl rfl
      exact serving.keeps (serving.arrived smooth skb) working rfl (List.Subset.refl _) rfl
        (by simp)
  | @txMgmt caller frame skb inRange idle plain mgmt =>
      apply quiet rfl rfl
      exact serving.keeps (serving.arrived smooth skb) working rfl (List.Subset.refl _) rfl
        (by simp)
  | prbRspRead inRange reading =>
      apply quiet (by rw [Mac.accepts, reading]; rfl) rfl
      exact serving.keeps serving.vifs working rfl (List.Subset.refl _) rfl (by simp)
  | queueFull inRange reading full =>
      apply quiet (by rw [Mac.accepts, reading]; rfl) rfl
      exact serving.keeps serving.vifs working rfl (List.Subset.refl _) rfl (by simp)
  | queueOpen inRange reading room =>
      apply quiet (by rw [Mac.accepts, reading]; rfl) rfl
      exact serving.keeps serving.vifs working rfl (List.Subset.refl _) rfl (by simp)
  | @queueTail caller skb inRange queueing =>
      simp only [Mac.accepts, Mac.issues, queueing, TxCall.accepted, List.append_nil]
      exact serving.queueTail skb
  | countUp inRange queued =>
      apply quiet (by rw [Mac.accepts, queued]; rfl) rfl
      exact serving.keeps serving.vifs working rfl (List.Subset.refl _) rfl (by simp)
  | refused inRange refused =>
      apply quiet (by rw [Mac.accepts, refused]; rfl) rfl
      exact serving.keeps serving.vifs working rfl (List.Subset.refl _) rfl (by simp)
  | workStart idle pending =>
      apply quiet rfl rfl
      refine serving.keeps serving.vifs rfl rfl ?_ ?_ (by simp)
      · simp [idle, MgmtWorker.bufId]
      · simp [idle, MgmtWorker.taken]
  | workEnd looping empty =>
      apply quiet rfl rfl
      refine serving.keeps serving.vifs rfl rfl ?_ ?_ (by simp)
      · simp [looping, MgmtWorker.bufId]
      · simp [looping, MgmtWorker.taken]
  | dequeueLost looping first noVif =>
      refine absurd noVif (serving.vifs _ (queued _ ?_))
      rw [first]
      exact List.mem_cons_self
  | dequeue looping first hasVif =>
      apply quiet rfl rfl
      refine serving.keeps serving.vifs rfl rfl ?_ ?_ (by simp)
      · simp [looping, MgmtWorker.bufId]
      · simp [looping, first, MgmtWorker.taken]
  | drop dropping => simp [dropping, MgmtWorker.serving] at working
  | dropped freed => simp [freed, MgmtWorker.serving] at working
  | unmap failed => simp [failed, MgmtWorker.serving] at working
  | freeIdr failed => simp [failed, MgmtWorker.serving] at working
  | noId allocating =>
      apply quiet rfl rfl
      exact serving.noId allocating (smooth rfl)
  | id allocating inRange unused put =>
      apply quiet rfl rfl
      exact serving.id allocating put
  | mapFailed mapping => cases smooth
  | mapped mapping =>
      apply quiet rfl rfl
      refine serving.keeps serving.vifs rfl rfl ?_ ?_ (by simp)
      · simp [mapping, MgmtWorker.bufId]
      · simp [mapping, MgmtWorker.taken]
  | @sent skb bufId ret sending =>
      simp only [Mac.accepts, Mac.issues, sending, MgmtWorker.command, List.append_nil]
      obtain rfl : ret = 0 := smooth
      exact serving.sent sending _

end Steps

section Runs

variable {callers : Nat} {mac final : Mac} {events : List Mac.Event}
  {accepted : List Nat} {issued : List MgmtCommand}

theorem Mac.Serving.start : Mac.start.Serving [] [] [] where
  vifs := by simp [Mac.start, Buffers.empty]
  working := rfl
  succeeded := by simp
  used := by simp [Mac.start]
  fifo := by simp [Mac.start, MgmtWorker.taken]

theorem Mac.Serving.run
    (smooth : Meets (Mac.step callers) Mac.Smooth .start events)
    (reached : run (Mac.step callers) .start events = some final) :
    final.Serving (Mac.acceptedFrames callers events) (Mac.issuedCommands callers events)
      events := by
  refine smooth.history (fun past mac => mac.Serving (Mac.acceptedFrames callers past)
    (Mac.issuedCommands callers past) past) .start ?_ reached
  intro past mac event next before allowed stepped serving
  have ordered := Mac.Ordered.run before
  have queued : ∀ skb ∈ mac.mgmtTxQueue, skb < mac.buffers.allocated := by
    intro skb waiting
    exact ordered.known skb (ordered.order.subset (List.mem_append_right _ waiting))
  have extended := (Mac.step_cases stepped).serving allowed queued serving
  unfold Mac.acceptedFrames Mac.issuedCommands
  rw [outputs_concat before stepped, outputs_concat before stepped]
  exact extended

/-- The commands that succeeded have different ids, so there are no more than ids. -/
theorem Mac.Ordered.length_le {sent : List MgmtCommand}
    (ordered : mac.Ordered callers accepted sent) :
    sent.length ≤ txMgmtNumPendingMax := by
  have covered : sent.map MgmtCommand.descId ⊆ List.range txMgmtNumPendingMax := by
    intro bufId member
    obtain ⟨command, inside, rfl⟩ := List.mem_map.mp member
    exact List.mem_range.mpr (ordered.outstanding command inside).1
  have few := (ordered.distinct.subperm covered).length_le
  rwa [List.length_range, List.length_map] at few

/-- If every accepted frame got a command, there were no more of them than ids. -/
theorem Mac.length_le_of_once
    (smooth : Meets (Mac.step callers) Mac.Smooth .start events)
    (reached : run (Mac.step callers) .start events = some final)
    (once : ∀ skb ∈ Mac.acceptedFrames callers events,
      ((Mac.issuedCommands callers events).map MgmtCommand.skb).count skb = 1) :
    (Mac.acceptedFrames callers events).length ≤ txMgmtNumPendingMax := by
  have ordered := Mac.Ordered.run reached
  have all : Mac.sentCommands callers events = Mac.issuedCommands callers events :=
    List.filter_eq_self.mpr (Mac.Serving.run smooth reached).succeeded
  have served : Mac.acceptedFrames callers events ⊆
      (Mac.issuedCommands callers events).map MgmtCommand.skb := by
    intro skb member
    have counted := once skb member
    exact List.count_pos_iff.mp (by omega)
  have few := (ordered.once.subperm served).length_le
  have bound := ordered.length_le
  rw [all] at bound
  rw [List.length_map] at few
  exact few.trans bound

theorem Mac.empty_of_atRest (reached : run (Mac.step callers) .start events = some final)
    (atRest : final.AtRest callers) : final.mgmtTxQueue = [] := by
  have woken : final.Woken callers :=
    run_invariant _ (fun _ _ _ stepped => (Mac.step_cases stepped).woken) reached
      (fun waiting => absurd rfl waiting)
  by_contra waiting
  rcases woken waiting with pending | running | ⟨caller, inRange, counting⟩
  · rw [atRest.2.2] at pending
    cases pending
  · exact running atRest.2.1
  · rw [atRest.1 caller inRange] at counting
    cases counting

/-- When everybody is at rest, all accepted frames were served exactly if there were no
more of them than ids. -/
theorem Mac.served_iff
    (smooth : Meets (Mac.step callers) Mac.Smooth .start events)
    (reached : run (Mac.step callers) .start events = some final)
    (atRest : final.AtRest callers) :
    Mac.Served callers events ↔
      (Mac.acceptedFrames callers events).length ≤ txMgmtNumPendingMax := by
  have serving := Mac.Serving.run smooth reached
  have ordered := Mac.Ordered.run reached
  constructor
  · rintro ⟨once, -⟩
    exact Mac.length_le_of_once smooth reached once
  · intro few
    obtain ⟨order, allFound⟩ := serving.fifo few
    rw [atRest.2.1, Mac.empty_of_atRest reached atRest] at order
    have same : Mac.acceptedFrames callers events =
        (Mac.issuedCommands callers events).map MgmtCommand.skb := by
      simpa [MgmtWorker.taken] using order
    refine ⟨fun skb member => ?_, allFound⟩
    rw [← same]
    exact List.count_eq_one_of_mem ordered.once member

end Runs

end WirelessSimu
