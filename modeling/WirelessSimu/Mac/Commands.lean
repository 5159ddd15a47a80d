import WirelessSimu.Mac.Ownership

namespace WirelessSimu

open Data Kernel

/-! The frames that `wireless_simu_mac_mgmt_tx` accepts and the WMI commands that the
work item issues for them, in order. -/

/-- The frame that the next step of the call queues. -/
def TxCall.accepted : TxCall → List Nat
  | .queueTail skb => [skb]
  | _ => []

/-- The arguments of `wireless_simu_wmi_mgmt_send`, with the address that the command
takes from the control block of the frame, and what the call returned. -/
structure MgmtCommand where
  descId : Nat
  skb : Nat
  paddr : UInt64
  ret : Int
  deriving DecidableEq, Repr

def MgmtCommand.succeeded (command : MgmtCommand) : Bool := command.ret = 0

/-- The frame with the work item while a command for it may still succeed, and after
the command failed until the frame is unmapped. -/
def MgmtWorker.taken : MgmtWorker → List Nat
  | .drop skb | .alloc skb | .map skb _ | .send skb _ | .unmap skb _ => [skb]
  | _ => []

/-- The id that `mgmt_tx_wmi` may give back. -/
def MgmtWorker.bufId : MgmtWorker → List Nat
  | .map _ bufId | .send _ bufId | .unmap _ bufId | .freeIdr bufId => [bufId]
  | _ => []

def MgmtWorker.command (buffers : Buffers) (ret : Int) : MgmtWorker → List MgmtCommand
  | .send skb bufId => [⟨bufId, skb, (buffers.skb skb).paddr, ret⟩]
  | _ => []

namespace Mac

def Event.isTx : Event → Bool
  | .tx _ _ _ => true
  | _ => false

def accepts (mac : Mac) : Event → List Nat
  | .call caller => (mac.calls caller).accepted
  | _ => []

def issues (mac : Mac) : Event → List MgmtCommand
  | .wmiSend ret => mac.worker.command mac.buffers ret
  | _ => []

def acceptedFrames (callers : Nat) (events : List Event) : List Nat :=
  outputs (step callers) accepts start events

def issuedCommands (callers : Nat) (events : List Event) : List MgmtCommand :=
  outputs (step callers) issues start events

def sentCommands (callers : Nat) (events : List Event) : List MgmtCommand :=
  (issuedCommands callers events).filter MgmtCommand.succeeded

/-- The device still knows the frame under the id and the address of the command. -/
def Outstanding (mac : Mac) (command : MgmtCommand) : Prop :=
  command.descId < txMgmtNumPendingMax ∧
    mac.txmgmtIdr command.descId = some command.skb ∧
    ∃ size, mac.buffers.mapping command.skb = some ⟨command.paddr, size⟩

/-- The frame of a command that is about to be issued is mapped at its address. -/
def SendMapped (mac : Mac) : Prop :=
  ∀ skb bufId, mac.worker = .send skb bufId →
    ∃ size, mac.buffers.mapping skb = some ⟨(mac.buffers.skb skb).paddr, size⟩

/-- How the accepted frames and the successful commands belong together. -/
structure Ordered (callers : Nat) (accepted : List Nat) (sent : List MgmtCommand)
    (mac : Mac) : Prop where
  order : (sent.map MgmtCommand.skb ++ mac.worker.taken ++ mac.mgmtTxQueue).Sublist
    accepted
  once : accepted.Nodup
  known : ∀ skb ∈ accepted, skb < mac.buffers.allocated
  waiting : ∀ caller < callers, ∀ skb ∈ (mac.calls caller).frames, skb ∉ accepted
  outstanding : ∀ command ∈ sent, mac.Outstanding command
  apart : ∀ bufId ∈ mac.worker.bufId, ∀ command ∈ sent, command.descId ≠ bufId
  distinct : (sent.map MgmtCommand.descId).Nodup
  sendMapped : mac.SendMapped

end Mac

section Steps

variable {callers : Nat} {mac next : Mac} {event : Mac.Event} {lost : Multiset Nat}
  {accepted : List Nat} {sent : List MgmtCommand}

theorem Mac.Accounted.call_lt_allocated (accounted : mac.Accounted callers lost)
    {caller skb : Nat} (inRange : caller < callers)
    (holds : skb ∈ (mac.calls caller).frames) : skb < mac.buffers.allocated := by
  have member : skb ∈ mac.callFrames callers :=
    Multiset.mem_sum.mpr ⟨caller, Finset.mem_range.mpr inRange, holds⟩
  rw [← Multiset.mem_range, ← accounted.total]
  simp [member]

theorem Mac.Accounted.call_unique (accounted : mac.Accounted callers lost)
    {caller other skb : Nat} (inRange : caller < callers) (otherRange : other < callers)
    (different : other ≠ caller) (holds : skb ∈ (mac.calls caller).frames) :
    skb ∉ (mac.calls other).frames := by
  intro alsoHolds
  have once : (mac.callFrames callers).Nodup := by
    have all := Multiset.nodup_range mac.buffers.allocated
    rw [← accounted.total] at all
    simp only [Multiset.nodup_add] at all
    exact all.1.1.1.1.1
  have elsewhere : skb ∈ (mac.setCall caller .idle).callFrames callers := by
    refine Multiset.mem_sum.mpr ⟨other, Finset.mem_range.mpr otherRange, ?_⟩
    simpa only [Mac.setCall, Function.update_of_ne different] using alsoHolds
  obtain ⟨rest, before, after⟩ := @Mac.callFrames_change callers mac
    (mac.setCall caller .idle) caller inRange .idle rfl
  rw [after] at elsewhere
  rw [before, Multiset.nodup_add] at once
  refine Multiset.disjoint_left.mp once.2.2 holds ?_
  simpa [TxCall.frames] using elsewhere

theorem Mac.Outstanding.update_idr {command : MgmtCommand}
    (outstanding : mac.Outstanding command) {bufId : Nat} {entry : Option Nat}
    (other : command.descId ≠ bufId)
    (idr : next.txmgmtIdr = Function.update mac.txmgmtIdr bufId entry)
    (mapping : next.buffers.mapping = mac.buffers.mapping) : next.Outstanding command := by
  unfold Mac.Outstanding
  rw [idr, mapping, Function.update_of_ne other]
  exact outstanding

theorem Mac.Outstanding.update_mapping {command : MgmtCommand}
    (outstanding : mac.Outstanding command) {skb : Nat} {entry : Option Mapping}
    (other : command.skb ≠ skb) (idr : next.txmgmtIdr = mac.txmgmtIdr)
    (mapping : next.buffers.mapping = Function.update mac.buffers.mapping skb entry) :
    next.Outstanding command := by
  unfold Mac.Outstanding
  rw [idr, mapping, Function.update_of_ne other]
  exact outstanding

theorem Mac.Ordered.taken_mem (ordered : mac.Ordered callers accepted sent) {skb : Nat}
    (taken : skb ∈ mac.worker.taken) : skb ∈ accepted :=
  ordered.order.subset (by simp [taken])

theorem Mac.Ordered.taken_notSent (ordered : mac.Ordered callers accepted sent)
    {skb : Nat} (taken : skb ∈ mac.worker.taken) {command : MgmtCommand}
    (member : command ∈ sent) : command.skb ≠ skb := by
  rintro rfl
  have once := ordered.order.nodup ordered.once
  rw [List.append_assoc, List.nodup_append] at once
  exact once.2.2 _ (List.mem_map_of_mem member) _
    (List.mem_append_left _ taken) rfl

theorem Mac.Ordered.call (ordered : mac.Ordered callers accepted sent) (caller : Nat)
    (call : TxCall) (calls : next.calls = Function.update mac.calls caller call)
    (outside : ∀ skb ∈ call.frames, skb ∉ accepted)
    (worker : next.worker = mac.worker) (queue : next.mgmtTxQueue = mac.mgmtTxQueue)
    (idr : next.txmgmtIdr = mac.txmgmtIdr)
    (mapping : next.buffers.mapping = mac.buffers.mapping)
    (skbs : ∀ skb < mac.buffers.allocated, next.buffers.skb skb = mac.buffers.skb skb)
    (grows : mac.buffers.allocated ≤ next.buffers.allocated) :
    next.Ordered callers accepted sent where
  order := by
    rw [worker, queue]
    exact ordered.order
  once := ordered.once
  known := fun skb member => (ordered.known skb member).trans_le grows
  waiting := by
    intro other inRange skb holds
    rw [calls] at holds
    by_cases same : other = caller
    · subst same
      rw [Function.update_self] at holds
      exact outside skb holds
    · rw [Function.update_of_ne same] at holds
      exact ordered.waiting other inRange skb holds
  outstanding := by
    intro command member
    unfold Mac.Outstanding
    rw [idr, mapping]
    exact ordered.outstanding command member
  apart := by
    rw [worker]
    exact ordered.apart
  distinct := ordered.distinct
  sendMapped := by
    intro skb bufId sending
    rw [worker] at sending
    have taken : skb ∈ mac.worker.taken := by
      rw [sending]
      exact List.mem_singleton_self skb
    rw [mapping, skbs skb (ordered.known skb (ordered.taken_mem taken))]
    exact ordered.sendMapped skb bufId sending

theorem Mac.Ordered.queueTail (ordered : mac.Ordered callers accepted sent)
    (accounted : mac.Accounted callers lost) {caller skb : Nat}
    (inRange : caller < callers) (queueing : mac.calls caller = .queueTail skb) :
    Mac.Ordered callers (accepted ++ [skb]) sent
      { mac.setCall caller .countUp with mgmtTxQueue := mac.mgmtTxQueue ++ [skb] } := by
  have holds : skb ∈ (mac.calls caller).frames := by
    rw [queueing]
    exact Multiset.mem_singleton_self skb
  have fresh := ordered.waiting caller inRange skb holds
  refine ⟨?_, ?_, ?_, ?_, ordered.outstanding, ordered.apart, ordered.distinct,
    ordered.sendMapped⟩
  · rw [← List.append_assoc]
    exact ordered.order.append (.refl [skb])
  · rw [List.nodup_append]
    refine ⟨ordered.once, List.nodup_singleton skb, ?_⟩
    rintro old member new single rfl
    rw [List.mem_singleton] at single
    exact fresh (single ▸ member)
  · intro other member
    rcases List.mem_append.mp member with old | single
    · exact ordered.known other old
    · rw [List.mem_singleton.mp single]
      exact accounted.call_lt_allocated inRange holds
  · intro other otherRange waiting alsoHolds member
    by_cases same : other = caller
    · simp [Mac.setCall, same, TxCall.frames] at alsoHolds
    · simp only [Mac.setCall, Function.update_of_ne same] at alsoHolds
      rcases List.mem_append.mp member with old | single
      · exact ordered.waiting other otherRange waiting alsoHolds old
      · rw [List.mem_singleton.mp single] at alsoHolds
        exact accounted.call_unique inRange otherRange same holds alsoHolds

/-- A step of the work item, by what it does to the queue, the ids and the mappings. -/
theorem Mac.Ordered.work (ordered : mac.Ordered callers accepted sent)
    (calls : next.calls = mac.calls)
    (allocated : next.buffers.allocated = mac.buffers.allocated)
    (order : (next.worker.taken ++ next.mgmtTxQueue).Sublist
      (mac.worker.taken ++ mac.mgmtTxQueue))
    (outstanding : ∀ command ∈ sent, next.Outstanding command)
    (apart : ∀ bufId ∈ next.worker.bufId, ∀ command ∈ sent, command.descId ≠ bufId)
    (sendMapped : next.SendMapped) : next.Ordered callers accepted sent where
  order := by
    have before := ordered.order
    rw [List.append_assoc] at before ⊢
    exact ((List.Sublist.refl _).append order).trans before
  once := ordered.once
  known := by
    rw [allocated]
    exact ordered.known
  waiting := by
    rw [calls]
    exact ordered.waiting
  outstanding := outstanding
  apart := apart
  distinct := ordered.distinct
  sendMapped := sendMapped

theorem Mac.Ordered.workStays (ordered : mac.Ordered callers accepted sent)
    (calls : next.calls = mac.calls)
    (allocated : next.buffers.allocated = mac.buffers.allocated)
    (idr : next.txmgmtIdr = mac.txmgmtIdr)
    (mapping : next.buffers.mapping = mac.buffers.mapping)
    (order : (next.worker.taken ++ next.mgmtTxQueue).Sublist
      (mac.worker.taken ++ mac.mgmtTxQueue))
    (ids : next.worker.bufId ⊆ mac.worker.bufId)
    (notSending : ∀ skb bufId, next.worker ≠ .send skb bufId) :
    next.Ordered callers accepted sent := by
  refine ordered.work calls allocated order ?_ ?_ ?_
  · intro command member
    unfold Mac.Outstanding
    rw [idr, mapping]
    exact ordered.outstanding command member
  · intro bufId member
    exact ordered.apart bufId (ids member)
  · intro skb bufId sending
    exact absurd sending (notSending skb bufId)

theorem Mac.Ordered.id (ordered : mac.Ordered callers accepted sent) {skb bufId : Nat}
    (allocating : mac.worker = .alloc skb) (unused : mac.txmgmtIdr bufId = none)
    {buffers : Buffers} {length : UInt32}
    (put : mac.buffers.skbPut skb length = some buffers) :
    Mac.Ordered callers accepted sent
      { mac with
        txmgmtIdr := Function.update mac.txmgmtIdr bufId (some skb)
        buffers := buffers
        worker := .map skb bufId } := by
  obtain ⟨_, rfl⟩ := Buffers.skbPut_eq_some.mp put
  have apart : ∀ command ∈ sent, command.descId ≠ bufId := by
    rintro command member rfl
    rw [(ordered.outstanding command member).2.1] at unused
    cases unused
  refine ordered.work rfl rfl ?_ ?_ ?_ ?_
  · rw [allocating]
    exact .refl _
  · intro command member
    exact (ordered.outstanding command member).update_idr (apart command member) rfl rfl
  · intro other single
    rw [List.mem_singleton.mp single]
    exact apart
  · intro skb bufId sending
    cases sending

theorem Mac.Ordered.mapped (ordered : mac.Ordered callers accepted sent)
    {skb bufId : Nat} (mapping : mac.worker = .map skb bufId) (paddr : UInt64) :
    Mac.Ordered callers accepted sent
      { mac with
        buffers :=
          (mac.buffers.dmaMapSingle skb paddr (mac.buffers.skb skb).len).setPaddr
            skb paddr
        worker := .send skb bufId } := by
  have taken : skb ∈ mac.worker.taken := by
    rw [mapping]
    exact List.mem_singleton_self skb
  refine ordered.work rfl rfl ?_ ?_ ?_ ?_
  · rw [mapping]
    exact .refl _
  · intro command member
    exact (ordered.outstanding command member).update_mapping
      (ordered.taken_notSent taken member) rfl rfl
  · have apart := ordered.apart
    rw [mapping] at apart
    exact apart
  · intro skb' bufId' sending
    cases sending
    refine ⟨(mac.buffers.skb skb).len, ?_⟩
    simp [Buffers.setPaddr, Buffers.dmaMapSingle]

theorem Mac.Ordered.unmap (ordered : mac.Ordered callers accepted sent)
    {skb bufId : Nat} (failed : mac.worker = .unmap skb bufId) :
    Mac.Ordered callers accepted sent
      { mac with
        buffers := mac.buffers.dmaUnmapSingle skb (mac.buffers.skb skb).paddr
          (mac.buffers.skb skb).len
        worker := .freeIdr bufId } := by
  have taken : skb ∈ mac.worker.taken := by
    rw [failed]
    exact List.mem_singleton_self skb
  refine ordered.work rfl rfl ?_ ?_ ?_ ?_
  · exact List.sublist_append_right _ _
  · intro command member
    exact (ordered.outstanding command member).update_mapping
      (ordered.taken_notSent taken member) rfl rfl
  · have apart := ordered.apart
    rw [failed] at apart
    exact apart
  · intro skb bufId sending
    cases sending

theorem Mac.Ordered.freeIdr (ordered : mac.Ordered callers accepted sent) {bufId : Nat}
    (failed : mac.worker = .freeIdr bufId) :
    Mac.Ordered callers accepted sent
      { mac with
        txmgmtIdr := Function.update mac.txmgmtIdr bufId none
        worker := .dequeue } := by
  have apart := ordered.apart bufId (by
    rw [failed]
    exact List.mem_singleton_self bufId)
  refine ordered.work rfl rfl ?_ ?_ ?_ ?_
  · exact List.sublist_append_right _ _
  · intro command member
    exact (ordered.outstanding command member).update_idr (apart command member) rfl rfl
  · intro bufId none
    cases none
  · intro skb bufId sending
    cases sending

/-- The command that succeeds is for the frame with the work item. -/
theorem Mac.Ordered.sendDone (ordered : mac.Ordered callers accepted sent)
    (accounted : mac.Accounted callers lost) {skb bufId : Nat}
    (sending : mac.worker = .send skb bufId) (commands : List (Nat × Nat × Int)) :
    Mac.Ordered callers accepted
      (sent ++ [⟨bufId, skb, (mac.buffers.skb skb).paddr, 0⟩])
      { mac with commands := commands, worker := .dequeue } := by
  have workerAt := accounted.workerAt
  simp only [Mac.WorkerAt, sending] at workerAt
  refine ⟨?_, ordered.once, ordered.known, ordered.waiting, ?_, ?_, ?_, ?_⟩
  · have order := ordered.order
    rw [sending] at order
    simpa [MgmtWorker.taken] using order
  · intro command member
    rcases List.mem_append.mp member with old | new
    · exact ordered.outstanding command old
    · rw [List.mem_singleton.mp new]
      exact ⟨workerAt.1, workerAt.2, ordered.sendMapped skb bufId sending⟩
  · intro bufId none
    cases none
  · rw [List.map_append, List.nodup_append]
    refine ⟨ordered.distinct, List.nodup_singleton _, ?_⟩
    rintro id old other single rfl
    obtain ⟨command, member, rfl⟩ := List.mem_map.mp old
    refine ordered.apart bufId ?_ command member (List.mem_singleton.mp single)
    rw [sending]
    exact List.mem_singleton_self bufId
  · intro skb bufId sending
    cases sending

theorem Mac.Step.ordered (stepped : Mac.Step callers mac event next)
    (accounted : mac.Accounted callers lost)
    (ordered : mac.Ordered callers accepted sent) :
    next.Ordered callers (accepted ++ mac.accepts event)
      (sent ++ (mac.issues event).filter MgmtCommand.succeeded) := by
  have quiet (accepts : mac.accepts event = []) (issues : mac.issues event = [])
      (kept : next.Ordered callers accepted sent) :
      next.Ordered callers (accepted ++ mac.accepts event)
        (sent ++ (mac.issues event).filter MgmtCommand.succeeded) := by
    rw [accepts, issues, List.filter_nil, List.append_nil, List.append_nil]
    exact kept
  have holds : ∀ {caller : Nat} {before after : TxCall}, caller < callers →
      mac.calls caller = before → after.frames = before.frames →
      ∀ skb ∈ after.frames, skb ∉ accepted := by
    rintro caller before after inRange rfl same
    rw [same]
    exact ordered.waiting caller inRange
  have fresh : mac.buffers.allocated ∉ accepted :=
    fun member => Nat.lt_irrefl _ (ordered.known _ member)
  have older : ∀ (skb : SkBuff), ∀ old < mac.buffers.allocated,
      (mac.buffers.adopt skb).1.skb old = mac.buffers.skb old := by
    intro skb old before
    exact Function.update_of_ne (Nat.ne_of_lt before) _ _
  cases stepped with
  | @txIgnored caller frame skb inRange idle ignored =>
      apply quiet rfl rfl
      refine ordered.call caller .idle ?_ (holds inRange idle rfl) rfl rfl rfl rfl
        (older skb) (Nat.le_succ _)
      rw [← idle, Function.update_eq_self]
      rfl
  | @txMgmt caller frame skb inRange idle plain mgmt =>
      apply quiet rfl rfl
      refine ordered.call caller _ rfl ?_ rfl rfl rfl rfl (older skb) (Nat.le_succ _)
      intro new member
      have same : new = mac.buffers.allocated := by
        split at member <;> exact Multiset.mem_singleton.mp member
      exact same ▸ fresh
  | @prbRspRead caller skb inRange reading =>
      apply quiet (by rw [Mac.accepts, reading]; rfl) rfl
      refine ordered.call caller _ rfl ?_ rfl rfl rfl rfl (fun _ _ => rfl) le_rfl
      split <;> exact holds inRange reading rfl
  | @queueFull caller skb inRange reading full =>
      apply quiet (by rw [Mac.accepts, reading]; rfl) rfl
      exact ordered.call caller (.refused skb) rfl (holds inRange reading rfl) rfl rfl rfl rfl
        (fun _ _ => rfl) le_rfl
  | @queueOpen caller skb inRange reading room =>
      apply quiet (by rw [Mac.accepts, reading]; rfl) rfl
      exact ordered.call caller (.queueTail skb) rfl (holds inRange reading rfl) rfl rfl rfl
        rfl (fun _ _ => rfl) le_rfl
  | @queueTail caller skb inRange queueing =>
      simp only [Mac.accepts, Mac.issues, queueing, TxCall.accepted, List.append_nil,
        List.filter_nil]
      exact ordered.queueTail accounted inRange queueing
  | @countUp caller inRange queued =>
      apply quiet (by rw [Mac.accepts, queued]; rfl) rfl
      exact ordered.call caller .idle rfl (holds inRange queued rfl) rfl rfl rfl rfl
        (fun _ _ => rfl) le_rfl
  | @refused caller skb inRange refused =>
      apply quiet (by rw [Mac.accepts, refused]; rfl) rfl
      refine ordered.call caller .idle rfl ?_ rfl rfl rfl rfl (fun _ _ => rfl) le_rfl
      intro skb none
      cases none
  | workStart idle pending =>
      apply quiet rfl rfl
      exact ordered.workStays rfl rfl rfl rfl (List.sublist_append_right _ _)
        (List.nil_subset _) (by simp)
  | workEnd looping empty =>
      apply quiet rfl rfl
      exact ordered.workStays rfl rfl rfl rfl (List.sublist_append_right _ _)
        (List.nil_subset _) (by simp)
  | dequeueLost looping first noVif =>
      apply quiet rfl rfl
      refine ordered.workStays rfl rfl rfl rfl ?_ (List.nil_subset _) (by simp)
      rw [first]
      exact List.sublist_append_right _ _
  | dequeue looping first hasVif =>
      apply quiet rfl rfl
      refine ordered.workStays rfl rfl rfl rfl ?_ (List.nil_subset _) (by simp)
      rw [first]
      exact List.sublist_append_right _ _
  | drop dropping =>
      apply quiet rfl rfl
      exact ordered.workStays rfl rfl rfl rfl (List.sublist_append_right _ _)
        (List.nil_subset _) (by simp)
  | dropped freed =>
      apply quiet rfl rfl
      exact ordered.workStays rfl rfl rfl rfl (List.sublist_append_right _ _)
        (List.nil_subset _) (by simp [Mac.mgmtOverTxDrop])
  | unmap failed =>
      apply quiet rfl rfl
      exact ordered.unmap failed
  | freeIdr failed =>
      apply quiet rfl rfl
      exact ordered.freeIdr failed
  | noId allocating =>
      apply quiet rfl rfl
      exact ordered.workStays rfl rfl rfl rfl (List.sublist_append_right _ _)
        (List.nil_subset _) (by simp)
  | id allocating inRange unused put =>
      apply quiet rfl rfl
      exact ordered.id allocating unused put
  | mapFailed mapping =>
      apply quiet rfl rfl
      refine ordered.workStays rfl rfl rfl rfl (List.sublist_append_right _ _) ?_ (by simp)
      rw [mapping]
      exact List.Subset.refl _
  | @mapped skb bufId paddr mapping =>
      apply quiet rfl rfl
      exact ordered.mapped mapping paddr
  | @sent skb bufId ret sending =>
      simp only [Mac.accepts, Mac.issues, sending, MgmtWorker.command, List.append_nil]
      by_cases done : ret = 0
      · subst done
        exact ordered.sendDone accounted sending _
      · have none : List.filter MgmtCommand.succeeded
            [⟨bufId, skb, (mac.buffers.skb skb).paddr, ret⟩] = [] := by
          simp [MgmtCommand.succeeded, done]
        rw [none, List.append_nil, if_pos done]
        refine ordered.workStays rfl rfl rfl rfl ?_ ?_ (by simp)
        · rw [sending]
          exact .refl _
        · rw [sending]
          exact List.Subset.refl _

end Steps

section Runs

variable {callers : Nat} {final : Mac} {events : List Mac.Event}

theorem Mac.Ordered.start : Mac.start.Ordered callers [] [] where
  order := .refl []
  once := List.nodup_nil
  known := by simp
  waiting := by simp
  outstanding := by simp
  apart := by simp
  distinct := List.nodup_nil
  sendMapped := by simp [Mac.SendMapped, Mac.start]

theorem Mac.Ordered.run (reached : run (Mac.step callers) .start events = some final) :
    final.Ordered callers (Mac.acceptedFrames callers events)
      (Mac.sentCommands callers events) := by
  refine run_history (fun past mac => mac.Ordered callers
    (Mac.acceptedFrames callers past) (Mac.sentCommands callers past)) .start ?_ reached
  intro past mac event next before stepped ordered
  obtain ⟨lost, accounted, -⟩ := Mac.Accounted.start.run before
  have extended := (Mac.step_cases stepped).ordered accounted ordered
  unfold Mac.sentCommands Mac.acceptedFrames Mac.issuedCommands
  rw [outputs_concat before stepped, outputs_concat before stepped, List.filter_append]
  exact extended

/-- In every run the frames that were sent are among the accepted ones, in the same
order and each once; their ids differ, are below the limit and still lead to the frame
that the device finds at the address of the command. -/
theorem mgmt_command_order
    (reached : run (Mac.step callers) .start events = some final) :
    ((Mac.sentCommands callers events).map MgmtCommand.skb).Sublist
        (Mac.acceptedFrames callers events) ∧
      ((Mac.sentCommands callers events).map MgmtCommand.skb).Nodup ∧
      ((Mac.sentCommands callers events).map MgmtCommand.descId).Nodup ∧
      ∀ command ∈ Mac.sentCommands callers events, final.Outstanding command := by
  have ordered := Mac.Ordered.run reached
  have order : ((Mac.sentCommands callers events).map MgmtCommand.skb).Sublist
      (Mac.acceptedFrames callers events) := by
    refine List.Sublist.trans ?_ ordered.order
    rw [List.append_assoc]
    exact List.sublist_append_left _ _
  exact ⟨order, order.nodup ordered.once, ordered.distinct, ordered.outstanding⟩

/-- Of three accepted frames the second one is not sent, and the third one gets its
id. -/
theorem mgmt_command_order_three :
    ∃ final events, run (Mac.step 1) .start events = some final ∧
      Mac.acceptedFrames 1 events = [0, 1, 2] ∧
      (Mac.sentCommands 1 events).map MgmtCommand.skb = [0, 2] ∧
      (Mac.sentCommands 1 events).map MgmtCommand.descId = [0, 1] ∧
      ((Mac.sentCommands 1 events).map MgmtCommand.skb).Sublist
        (Mac.acceptedFrames 1 events) ∧
      ∀ command ∈ Mac.sentCommands 1 events, final.Outstanding command := by
  have seen : (run (Mac.step 1) .start
      [.tx 0 ⟨0x0040, 0, none, some 3⟩ ⟨100, 28, 0⟩, .call 0, .call 0, .call 0,
        .tx 0 ⟨0x0040, 0, none, some 3⟩ ⟨60, 68, 0⟩, .call 0, .call 0, .call 0,
        .tx 0 ⟨0x0040, 0, none, some 3⟩ ⟨80, 48, 0⟩, .call 0, .call 0, .call 0,
        .work, .work, .idrAlloc (some 0), .dmaMap (some 0x1000), .wmiSend 0,
        .work, .idrAlloc (some 1), .dmaMap (some 0x2000), .wmiSend (-12), .work, .work,
        .work, .idrAlloc (some 1), .dmaMap (some 0x2000), .wmiSend 0]).isSome := by
    decide +kernel
  obtain ⟨final, reached⟩ := Option.isSome_iff_exists.mp seen
  obtain ⟨order, -, -, outstanding⟩ := mgmt_command_order reached
  exact ⟨final, _, reached, by decide +kernel, by decide +kernel, by decide +kernel,
    order, outstanding⟩

end Runs

end WirelessSimu
