import WirelessSimu.Mac.Removal
import WirelessSimu.Mac.Rollback

namespace WirelessSimu

open Data Kernel Wmi

/-! The transmit path with the bytes of the frames: from `wireless_mac80211_tx` through the
queue, the work item, WMI and HTC to the copy engine, with the interface callbacks at
the same time. Every allocation, mapping and submission answers as it likes. -/

def FrameSkb.empty : FrameSkb := ⟨⟨[], 0, 0⟩, 0, Nat.le_refl 0, by decide⟩

/-- A command that the copy engine took: its arguments, the use of the interface and the
data of the frame at that time. -/
structure SentCommand where
  command : MgmtCommand
  use : VifUse
  data : MgmtFrame

/-- `frames` are the buffers of the frames as they are and `arrived` as mac80211 handed
them over. The frames that were accepted and the commands that were taken are history. -/
structure TxPipeline where
  device : MacDevice
  frames : Nat → FrameSkb
  arrived : Nat → FrameSkb
  mappings : List Mapping
  commandSkbs : List ByteBuffer
  submitted : List (List UInt8)
  accepted : List Nat
  sent : List SentCommand

namespace TxPipeline

inductive Event where
  | tx (caller : Nat) (info : Frame) (frame : FrameSkb)
  | call (caller : Nat)
  | work
  | workLock
  | callback (callback : MacConf.Callback)
  | idrAlloc (bufId : Option Nat)
  | dmaMap (paddr : UInt64)
  | wmiSend (memory : Option (Nat → UInt8)) (command : Wmi.Answers)
      (later : List Wmi.Answers)

def start : TxPipeline where
  device := .start
  frames := fun _ => .empty
  arrived := fun _ => .empty
  mappings := []
  commandSkbs := []
  submitted := []
  accepted := []
  sent := []

def mac (pipeline : TxPipeline) : Mac := pipeline.device.mac

def micLength (pipeline : TxPipeline) (skb : Nat) : Nat :=
  (mgmtTxMicLength (pipeline.mac.frame skb) (pipeline.mac.cb skb)).toNat

def setFrame (pipeline : TxPipeline) (skb : Nat) (frame : FrameSkb) : TxPipeline :=
  { pipeline with frames := Function.update pipeline.frames skb frame }

/-- A step that does not touch the bytes. -/
def follow (callers : Nat) (pipeline : TxPipeline) (event : MacDevice.Event) :
    Option TxPipeline :=
  (pipeline.device.step callers event).map fun device => { pipeline with device := device }

def tx (callers : Nat) (pipeline : TxPipeline) (caller : Nat) (info : Frame)
    (frame : FrameSkb) : Option TxPipeline :=
  (pipeline.follow callers (.mac (.tx caller info frame.skBuff))).map fun next =>
    { next.setFrame pipeline.mac.buffers.allocated frame with
      arrived := Function.update pipeline.arrived pipeline.mac.buffers.allocated frame }

/-- `skb_put` for the MIC follows the allocation of the id. -/
def idrAlloc (callers : Nat) (pipeline : TxPipeline) (bufId : Option Nat) :
    Option TxPipeline := do
  let next ← pipeline.follow callers (.mac (.idrAlloc bufId))
  match pipeline.mac.worker, bufId with
  | .alloc skb, some _ =>
      let frame ← (pipeline.frames skb).skbPut
        (mgmtTxMicLength (pipeline.mac.frame skb) (pipeline.mac.cb skb))
      return next.setFrame skb frame
  | _, _ => return next

def dmaMap (callers : Nat) (pipeline : TxPipeline) (paddr : UInt64) : Option TxPipeline :=
  if paddr = dmaMappingError then pipeline.follow callers (.mac (.dmaMap none))
  else
    (pipeline.follow callers (.mac (.dmaMap (some paddr)))).map fun next =>
      match pipeline.mac.worker with
      | .map skb _ => next.setFrame skb { pipeline.frames skb with paddr := paddr }
      | _ => next

def wmiSend (order : ByteOrder) (callers : Nat) (pipeline : TxPipeline)
    (memory : Option (Nat → UInt8)) (command : Wmi.Answers) (later : List Wmi.Answers) :
    Option TxPipeline :=
  match pipeline.mac.worker, pipeline.device.vifUse pipeline.mac.worker with
  | .send skb bufId, [use] => do
      let resources : TxResources := ⟨pipeline.mac.txmgmtIdr, pipeline.mappings,
        pipeline.commandSkbs, pipeline.submitted⟩
      let (after, ret) ← resources.mgmtSend order memory command later use.vifId.toUInt32
        bufId.toUInt32 (pipeline.frames skb)
      let next ← pipeline.follow callers (.mac (.wmiSend ret))
      return { next with
        mappings := after.mappings
        commandSkbs := after.commandSkbs
        submitted := after.submitted
        sent := pipeline.sent ++
          if ret = 0 then
            [⟨⟨bufId, skb, (pipeline.mac.buffers.skb skb).paddr, 0⟩, use,
              (pipeline.frames skb).data⟩]
          else [] }
  | _, _ => none

def step (order : ByteOrder) (callers : Nat) (pipeline : TxPipeline) :
    Event → Option TxPipeline
  | .tx caller info frame => pipeline.tx callers caller info frame
  | .call caller =>
      (pipeline.follow callers (.mac (.call caller))).map fun next =>
        { next with
          accepted := pipeline.accepted ++ (pipeline.mac.calls caller).accepted }
  | .work => pipeline.follow callers (.mac .work)
  | .workLock => pipeline.follow callers .workLock
  | .callback callback => pipeline.follow callers (.callback callback)
  | .idrAlloc bufId => pipeline.idrAlloc callers bufId
  | .dmaMap paddr => pipeline.dmaMap callers paddr
  | .wmiSend memory command later => pipeline.wmiSend order callers memory command later

/-- The bytes that the copy engine took read back as the command for the data of the
frame. -/
def Delivers (order : ByteOrder) (sent : SentCommand) (bytes : List UInt8) : Prop :=
  ∃ message, ReadsBack order bytes sent.use.vifId.toUInt32
    sent.command.descId.toUInt32 sent.command.paddr sent.data message

/-- The data of the frame are those that mac80211 handed over with the room for the MIC
behind them, the id leads to the frame, and all of it is mapped at the address. -/
structure Carries (pipeline : TxPipeline) (sent : SentCommand) : Prop where
  data : (pipeline.arrived sent.command.skb).skb.bytes <+: sent.data.data
  length : sent.data.data.length =
    (pipeline.arrived sent.command.skb).skb.length + pipeline.micLength sent.command.skb
  registered : pipeline.mac.txmgmtIdr sent.command.descId = some sent.command.skb
  mapped : pipeline.mac.buffers.mapping sent.command.skb =
    some ⟨sent.command.paddr, sent.data.data.length.toUInt32⟩

end TxPipeline

section Bytes

/-- What a send adds to what the copy engine took. -/
theorem TxResources.mgmtSend_submits {order : ByteOrder} {memory : Option (Nat → UInt8)}
    {command : Wmi.Answers} {later : List Wmi.Answers} {vifId bufId : UInt32}
    {frame : FrameSkb} {resources after : TxResources} {ret : Int}
    (sent : resources.mgmtSend order memory command later vifId bufId frame =
      some (after, ret)) :
    after.submitted = resources.submitted ++
      if ret = 0 then
        [wmiMessage order mgmtTxSendCmdId
          (mgmtCommand order vifId bufId frame.paddr frame.data)]
      else [] := by
  cases memory with
  | none =>
      cases sent
      simp [enomem]
  | some contents =>
      obtain ⟨skb, built, shape⟩ :=
        mgmtSendSkb_shape order contents vifId bufId frame.paddr frame.data
      have room : skb.Shape (0 + htcHdrSize + cmdHdrSize) 0
          (mgmtCommand order vifId bufId frame.paddr frame.data) := by
        rw [Nat.zero_add]
        exact shape
      obtain ⟨waited, tried, retried⟩ := @Sending.cmdSend_retried order
        ⟨skb, 0, resources.mappings, resources.submitted⟩ _ _ _ command later
        mgmtTxSendCmdId room
      simp only [TxResources.mgmtSend, built, tried, Option.bind_eq_bind, Option.bind_some,
        Option.pure_def, Option.some.injEq, Prod.mk.injEq] at sent
      obtain ⟨rfl, rfl⟩ := sent
      exact retried.submitted

theorem FrameSkb.skbPut_eq_some {frame longer : FrameSkb} {count : UInt32}
    (put : frame.skbPut count = some longer) :
    longer.skb = { frame.skb with length := frame.skb.length + count.toNat } := by
  unfold FrameSkb.skbPut at put
  split at put
  next =>
      cases put
      rfl
  next => cases put

theorem FrameSkb.length_data (frame : FrameSkb) :
    frame.data.data.length = frame.skb.length := by
  have inside := frame.inside
  simp only [FrameSkb.data, ByteBuffer.bytes, List.length_take, List.length_drop]
  omega

/-- The data stay in front of what `skb_put` adds. -/
theorem FrameSkb.bytes_prefix {frame longer : FrameSkb} {count : Nat}
    (same : longer.skb = { frame.skb with length := frame.skb.length + count }) :
    frame.skb.bytes <+: longer.data.data := by
  simp only [FrameSkb.data, same, ByteBuffer.bytes]
  exact List.take_prefix_take_left (Nat.le_add_right _ _)

end Bytes

/-! Which frames have their data as they came, and which have the MIC behind them. -/

/-- The frame that waits for its id. -/
def MgmtWorker.waiting : MgmtWorker → MgmtWorker
  | .alloc skb => .alloc skb
  | _ => .idle

/-- The frame is with a call, in the queue, or waits for its id. -/
def Mac.Waits (callers : Nat) (mac : Mac) (skb : Nat) : Prop :=
  Mac.Holds callers { mac with worker := mac.worker.waiting } skb

section Waiting

variable {callers : Nat} {mac next : Mac} {event : Mac.Event} {lost : Multiset Nat}
  {accepted : List Nat} {sent : List MgmtCommand}

theorem MgmtWorker.waiting_taken (worker : MgmtWorker) :
    worker.waiting.taken ⊆ worker.taken := by
  cases worker <;> simp [MgmtWorker.waiting, MgmtWorker.taken]

theorem Mac.Waits.holds {skb : Nat} (waits : mac.Waits callers skb) :
    mac.Holds callers skb := by
  refine Mac.Holds.of_work waits rfl ?_
  exact List.append_subset.mpr
    ⟨List.subset_append_of_subset_left _ (MgmtWorker.waiting_taken mac.worker),
      List.subset_append_right _ _⟩

theorem Mac.Waits.of_alloc {skb : Nat} (allocating : mac.worker = .alloc skb) :
    mac.Waits callers skb := by
  refine .inr (.inr ?_)
  simp [allocating, MgmtWorker.waiting, MgmtWorker.taken]

/-- A step other than a new frame makes no frame wait. -/
theorem Mac.Step.waits_of (stepped : Mac.Step callers mac event next)
    (noTx : event.isTx = false) {skb : Nat} (waits : next.Waits callers skb) :
    mac.Waits callers skb := by
  have queue : ∀ held ∈ mac.mgmtTxQueue, mac.Waits callers held :=
    fun held member => .inr (.inl member)
  have own : ∀ {caller : Nat} {before after : TxCall}, caller < callers →
      mac.calls caller = before → after.frames = before.frames →
      ∀ held ∈ after.frames, mac.Waits callers held := by
    rintro caller before after inRange rfl same held member
    rw [same] at member
    exact .inl ⟨caller, inRange, member⟩
  cases stepped with
  | txIgnored => cases noTx
  | txMgmt => cases noTx
  | prbRspRead inRange reading =>
      refine Mac.Holds.of_call waits rfl ?_ queue rfl
      split <;> exact own inRange reading rfl
  | queueFull inRange reading full =>
      exact Mac.Holds.of_call waits rfl (own inRange reading rfl) queue rfl
  | queueOpen inRange reading room =>
      exact Mac.Holds.of_call waits rfl (own inRange reading rfl) queue rfl
  | @queueTail caller skb inRange queueing =>
      refine Mac.Holds.of_call waits rfl (by simp [TxCall.frames]) ?_ rfl
      intro held member
      rcases List.mem_append.mp member with old | new
      · exact queue held old
      · rw [List.mem_singleton.mp new]
        refine .inl ⟨caller, inRange, ?_⟩
        rw [queueing]
        exact Multiset.mem_singleton_self skb
  | countUp inRange queued =>
      exact Mac.Holds.of_call waits rfl (by simp [TxCall.frames]) queue rfl
  | refused inRange refused =>
      exact Mac.Holds.of_call waits rfl (by simp [TxCall.frames]) queue rfl
  | dequeueLost looping first noVif =>
      refine Mac.Holds.of_work waits rfl ?_
      simp [first, MgmtWorker.waiting, MgmtWorker.taken]
  | dequeue looping first hasVif =>
      refine Mac.Holds.of_work waits rfl ?_
      simp [first, MgmtWorker.waiting, MgmtWorker.taken]
  | @sent skb bufId ret sending =>
      refine Mac.Holds.of_work waits rfl ?_
      simp only
      split <;> exact List.subset_append_right _ _
  | _ => exact Mac.Holds.of_work waits rfl (List.subset_append_right _ _)

/-- A new frame waits in the buffer it came in. -/
theorem Mac.Step.waits_of_tx {caller : Nat} {frame : Frame} {new : SkBuff}
    (stepped : Mac.Step callers mac (.tx caller frame new) next) {skb : Nat}
    (waits : next.Waits callers skb) :
    mac.Waits callers skb ∨
      skb = mac.buffers.allocated ∧ next.buffers.skb skb = new := by
  cases stepped with
  | txIgnored => exact .inl waits
  | txMgmt inRange idle plain mgmt =>
      -- the same step with only that frame at the work item which waits for its id
      have same := @Mac.Step.txMgmt callers { mac with worker := mac.worker.waiting } caller
        frame new inRange idle plain mgmt
      rcases same.holds_of_tx waits with before | ⟨rfl, -⟩
      · exact .inl before
      · exact .inr ⟨rfl, Function.update_self ..⟩

/-- The frame that the work item took does not wait elsewhere. -/
theorem Mac.Ordered.taken_apart (ordered : mac.Ordered callers accepted sent)
    {skb other : Nat} (taken : skb ∈ mac.worker.taken)
    (waits : Mac.Holds callers { mac with worker := .idle } other) : other ≠ skb := by
  rintro rfl
  rcases waits with ⟨caller, inRange, holds⟩ | queued | none
  · exact ordered.waiting caller inRange other holds (ordered.taken_mem taken)
  · have once := ordered.order.nodup ordered.once
    rw [List.nodup_append] at once
    exact once.2.2 other (List.mem_append_right _ taken) other queued rfl
  · cases none

theorem Mac.Step.frame_eq (stepped : Mac.Step callers mac event next) {skb : Nat}
    (old : skb < mac.buffers.allocated) : next.frame skb = mac.frame skb := by
  cases stepped with
  | txIgnored => exact Function.update_of_ne (Nat.ne_of_lt old) _ _
  | txMgmt => exact Function.update_of_ne (Nat.ne_of_lt old) _ _
  | _ => rfl

/-- Only the frame with the work item is mapped or unmapped. -/
theorem Mac.Step.mapping_eq (stepped : Mac.Step callers mac event next) {skb : Nat}
    (notTaken : skb ∉ mac.worker.taken) :
    next.buffers.mapping skb = mac.buffers.mapping skb := by
  cases stepped with
  | id _ _ _ put =>
      obtain ⟨_, rfl⟩ := Buffers.skbPut_eq_some.mp put
      rfl
  | unmap failed =>
      rw [failed] at notTaken
      exact Function.update_of_ne (List.ne_of_not_mem_cons notTaken) _ _
  | mapped mapping =>
      rw [mapping] at notTaken
      exact Function.update_of_ne (List.ne_of_not_mem_cons notTaken) _ _
  | _ => rfl

/-- The events that change no buffer but a new one. -/
def Mac.Event.isQuiet : Mac.Event → Bool
  | .idrAlloc (some _) | .dmaMap (some _) => false
  | _ => true

theorem Mac.Step.skb_eq (stepped : Mac.Step callers mac event next)
    (quiet : event.isQuiet = true) {skb : Nat} (old : skb < mac.buffers.allocated) :
    next.buffers.skb skb = mac.buffers.skb skb := by
  cases stepped with
  | txIgnored => exact Function.update_of_ne (Nat.ne_of_lt old) _ _
  | txMgmt => exact Function.update_of_ne (Nat.ne_of_lt old) _ _
  | id => cases quiet
  | mapped => cases quiet
  | _ => rfl

/-- A quiet event brings the work item no further with a frame that has its id. -/
theorem Mac.Step.worker_of (stepped : Mac.Step callers mac event next)
    (quiet : event.isQuiet = true) {worker : MgmtWorker} (now : next.worker = worker)
    (working : ∃ skb bufId, worker = .map skb bufId ∨ worker = .send skb bufId) :
    mac.worker = worker := by
  obtain ⟨skb, bufId, reached⟩ := working
  rw [← now] at reached
  cases stepped with
  | id => cases quiet
  | mapped => cases quiet
  | txIgnored | txMgmt | prbRspRead | queueFull | queueOpen | queueTail | countUp
  | refused => exact now
  | @sent own ownId ret sending =>
      simp only at reached
      split at reached <;> simp at reached
  | _ => simp [Mac.mgmtOverTxDrop] at reached

theorem Mac.Step.mapping_of_send (stepped : Mac.Step callers mac event next)
    (quiet : event.isQuiet = true) {skb bufId : Nat}
    (now : next.worker = .send skb bufId) :
    next.buffers.mapping = mac.buffers.mapping := by
  cases stepped with
  | unmap => cases now
  | id => cases quiet
  | mapped => cases quiet
  | _ => rfl

/-! The two events that are not quiet. -/

theorem Mac.Step.allocating {bufId : Nat}
    (stepped : Mac.Step callers mac (.idrAlloc (some bufId)) next) :
    ∃ skb, mac.worker = .alloc skb := by
  cases stepped with
  | id allocating => exact ⟨_, allocating⟩

theorem Mac.Step.mapping {paddr : UInt64}
    (stepped : Mac.Step callers mac (.dmaMap (some paddr)) next) :
    ∃ skb bufId, mac.worker = .map skb bufId := by
  cases stepped with
  | mapped mapping => exact ⟨_, _, mapping⟩

theorem Mac.Step.id_eq {skb bufId : Nat}
    (stepped : Mac.Step callers mac (.idrAlloc (some bufId)) next)
    (allocating : mac.worker = .alloc skb) :
    next.worker = .map skb bufId ∧ next.calls = mac.calls ∧
      next.mgmtTxQueue = mac.mgmtTxQueue ∧
      mac.buffers.skbPut skb (mgmtTxMicLength (mac.frame skb) (mac.cb skb)) =
        some next.buffers := by
  cases stepped with
  | id atAlloc inRange unused put =>
      rw [allocating] at atAlloc
      cases atAlloc
      exact ⟨rfl, rfl, rfl, put⟩

theorem Mac.Step.mapped_eq {skb bufId : Nat} {paddr : UInt64}
    (stepped : Mac.Step callers mac (.dmaMap (some paddr)) next)
    (mapping : mac.worker = .map skb bufId) :
    next.worker = .send skb bufId ∧ next.calls = mac.calls ∧
      next.mgmtTxQueue = mac.mgmtTxQueue ∧
      next.buffers =
        (mac.buffers.dmaMapSingle skb paddr (mac.buffers.skb skb).len).setPaddr skb
          paddr := by
  cases stepped with
  | mapped atMap =>
      rw [mapping] at atMap
      cases atMap
      exact ⟨rfl, rfl, rfl, rfl⟩

theorem Mac.Step.sent_eq {ret : Int} (stepped : Mac.Step callers mac (.wmiSend ret) next) :
    next.txmgmtIdr = mac.txmgmtIdr ∧ next.buffers = mac.buffers ∧
      next.frame = mac.frame ∧ next.cb = mac.cb := by
  cases stepped with
  | sent => exact ⟨rfl, rfl, rfl, rfl⟩

end Waiting

namespace TxPipeline

/-- The buffer of the frame is as it came, with `extra` bytes more in it. -/
structure Longer (pipeline : TxPipeline) (extra skb : Nat) : Prop where
  data : (pipeline.frames skb).skb =
    { (pipeline.arrived skb).skb with
      length := (pipeline.arrived skb).skb.length + extra }
  len : (pipeline.mac.buffers.skb skb).len = (pipeline.frames skb).skb.length.toUInt32

structure Inv (order : ByteOrder) (callers : Nat) (pipeline : TxPipeline) : Prop where
  accounted : ∃ lost, pipeline.mac.Accounted callers lost
  ordered : pipeline.mac.Ordered callers pipeline.accepted
    (pipeline.sent.map SentCommand.command)
  waiting : ∀ skb, pipeline.mac.Waits callers skb → pipeline.Longer 0 skb
  working : ∀ skb bufId, pipeline.mac.worker = .map skb bufId ∨
      pipeline.mac.worker = .send skb bufId →
    pipeline.Longer (pipeline.micLength skb) skb
  sending : ∀ skb bufId, pipeline.mac.worker = .send skb bufId →
    (pipeline.frames skb).paddr = (pipeline.mac.buffers.skb skb).paddr ∧
      pipeline.mac.buffers.mapping skb = some ⟨(pipeline.mac.buffers.skb skb).paddr,
        (pipeline.mac.buffers.skb skb).len⟩
  delivers : List.Forall₂ (Delivers order) pipeline.sent pipeline.submitted
  carries : ∀ sent ∈ pipeline.sent, pipeline.Carries sent

variable {order : ByteOrder} {callers : Nat} {pipeline next : TxPipeline}
  {event : Mac.Event}

theorem Inv.waits_lt (inv : pipeline.Inv order callers) {skb : Nat}
    (waits : pipeline.mac.Waits callers skb) : skb < pipeline.mac.buffers.allocated := by
  obtain ⟨lost, accounted⟩ := inv.accounted
  exact accounted.holds_lt waits.holds

theorem Inv.taken_lt (inv : pipeline.Inv order callers) {skb : Nat}
    (taken : skb ∈ pipeline.mac.worker.taken) :
    skb < pipeline.mac.buffers.allocated := by
  obtain ⟨lost, accounted⟩ := inv.accounted
  exact accounted.taken_lt taken

theorem Inv.sent_lt (inv : pipeline.Inv order callers) {sent : SentCommand}
    (member : sent ∈ pipeline.sent) :
    sent.command.skb < pipeline.mac.buffers.allocated := by
  refine inv.ordered.known _ (inv.ordered.order.subset ?_)
  simp only [List.mem_append, List.mem_map]
  exact .inl (.inl ⟨sent.command, ⟨sent, member, rfl⟩, rfl⟩)

theorem micLength_eq (stepped : Mac.Step callers pipeline.mac event next.mac) {skb : Nat}
    (old : skb < pipeline.mac.buffers.allocated) :
    next.micLength skb = pipeline.micLength skb := by
  rw [micLength, micLength, stepped.frame_eq old, stepped.cb_eq old]

/-- What is true of a command stays true. -/
theorem Inv.carries_then (inv : pipeline.Inv order callers)
    (stepped : Mac.Step callers pipeline.mac event next.mac)
    (ordered : next.mac.Ordered callers next.accepted
      (next.sent.map SentCommand.command))
    (arrived : ∀ skb < pipeline.mac.buffers.allocated,
      next.arrived skb = pipeline.arrived skb)
    {sent : SentCommand} (member : sent ∈ pipeline.sent) (kept : sent ∈ next.sent) :
    next.Carries sent := by
  have old := inv.sent_lt member
  have before := inv.carries sent member
  have notTaken : sent.command.skb ∉ pipeline.mac.worker.taken := by
    intro taken
    exact inv.ordered.taken_notSent taken (List.mem_map_of_mem member) rfl
  exact
    { data := by
        rw [arrived _ old]
        exact before.data
      length := by
        rw [arrived _ old, micLength_eq stepped old]
        exact before.length
      registered := (ordered.outstanding _ (List.mem_map_of_mem kept)).2.1
      mapped := by
        rw [stepped.mapping_eq notTaken]
        exact before.mapped }

/-- The part of the invariant that every step of the transmit model keeps. -/
theorem Inv.ordered_then (inv : pipeline.Inv order callers)
    (stepped : Mac.Step callers pipeline.mac event next.mac)
    (accepted : next.accepted = pipeline.accepted ++ pipeline.mac.accepts event)
    (sent : next.sent.map SentCommand.command =
      pipeline.sent.map SentCommand.command ++
        (pipeline.mac.issues event).filter MgmtCommand.succeeded) :
    (∃ lost, next.mac.Accounted callers lost) ∧
      next.mac.Ordered callers next.accepted (next.sent.map SentCommand.command) := by
  obtain ⟨lost, accounted⟩ := inv.accounted
  obtain ⟨lost', after, -⟩ := stepped.accounted accounted
  rw [accepted, sent]
  exact ⟨⟨lost', after⟩, stepped.ordered accounted inv.ordered⟩

/-- A step that changes no frame and submits nothing. -/
theorem Inv.quiet (inv : pipeline.Inv order callers)
    (stepped : Mac.Step callers pipeline.mac event next.mac)
    (quiet : event.isQuiet = true) (noTx : event.isTx = false)
    (frames : next.frames = pipeline.frames) (arrived : next.arrived = pipeline.arrived)
    (accepted : next.accepted = pipeline.accepted ++ pipeline.mac.accepts event)
    (sent : next.sent.map SentCommand.command =
      pipeline.sent.map SentCommand.command ++
        (pipeline.mac.issues event).filter MgmtCommand.succeeded)
    (delivers : List.Forall₂ (Delivers order) next.sent next.submitted)
    (carries : ∀ sent ∈ next.sent, sent ∈ pipeline.sent ∨ next.Carries sent) :
    next.Inv order callers := by
  obtain ⟨accounted, ordered⟩ := inv.ordered_then stepped accepted sent
  have longer : ∀ {extra skb : Nat}, skb < pipeline.mac.buffers.allocated →
      pipeline.Longer extra skb → next.Longer extra skb := by
    intro extra skb old before
    refine ⟨?_, ?_⟩
    · rw [frames, arrived]
      exact before.data
    · rw [frames, stepped.skb_eq quiet old]
      exact before.len
  refine ⟨accounted, ordered, ?_, ?_, ?_, delivers, ?_⟩
  · intro skb waits
    have before := stepped.waits_of noTx waits
    exact longer (inv.waits_lt before) (inv.waiting skb before)
  · intro skb bufId working
    have before : pipeline.mac.worker = .map skb bufId ∨
        pipeline.mac.worker = .send skb bufId := by
      refine working.imp ?_ ?_
      · exact fun now => stepped.worker_of quiet now ⟨skb, bufId, .inl rfl⟩
      · exact fun now => stepped.worker_of quiet now ⟨skb, bufId, .inr rfl⟩
    have taken : skb ∈ pipeline.mac.worker.taken := by
      rcases before with worker | worker <;> simp [worker, MgmtWorker.taken]
    have old := inv.taken_lt taken
    rw [micLength_eq stepped old]
    exact longer old (inv.working skb bufId before)
  · intro skb bufId sending
    have before := stepped.worker_of quiet sending ⟨skb, bufId, .inr rfl⟩
    have taken : skb ∈ pipeline.mac.worker.taken := by
      simp [before, MgmtWorker.taken]
    rw [frames, stepped.skb_eq quiet (inv.taken_lt taken),
      stepped.mapping_of_send quiet sending]
    exact inv.sending skb bufId before
  · intro sent member
    rcases carries sent member with old | new
    · exact inv.carries_then stepped ordered (fun skb _ => by rw [arrived]) old member
    · exact new

theorem Inv.tx (inv : pipeline.Inv order callers) {caller : Nat} {info : Frame}
    {frame : FrameSkb}
    (stepped : Mac.Step callers pipeline.mac (.tx caller info frame.skBuff) next.mac)
    (frames : next.frames =
      Function.update pipeline.frames pipeline.mac.buffers.allocated frame)
    (arrived : next.arrived =
      Function.update pipeline.arrived pipeline.mac.buffers.allocated frame)
    (accepted : next.accepted = pipeline.accepted) (sent : next.sent = pipeline.sent)
    (submitted : next.submitted = pipeline.submitted) : next.Inv order callers := by
  obtain ⟨accounted, ordered⟩ := inv.ordered_then stepped
    (by rw [accepted]; simp [Mac.accepts]) (by rw [sent]; simp [Mac.issues])
  have arrivedOld : ∀ skb < pipeline.mac.buffers.allocated,
      next.arrived skb = pipeline.arrived skb := by
    intro skb old
    rw [arrived, Function.update_of_ne (Nat.ne_of_lt old)]
  have framesOld : ∀ skb < pipeline.mac.buffers.allocated,
      next.frames skb = pipeline.frames skb := by
    intro skb old
    rw [frames, Function.update_of_ne (Nat.ne_of_lt old)]
  have longer : ∀ {extra skb : Nat}, skb < pipeline.mac.buffers.allocated →
      pipeline.Longer extra skb → next.Longer extra skb := by
    intro extra skb old before
    refine ⟨?_, ?_⟩
    · rw [framesOld skb old, arrivedOld skb old]
      exact before.data
    · rw [framesOld skb old, stepped.skb_eq rfl old]
      exact before.len
  have worker : next.mac.worker = pipeline.mac.worker := by
    generalize next.mac = after at stepped
    cases stepped <;> rfl
  have mapping : next.mac.buffers.mapping = pipeline.mac.buffers.mapping := by
    generalize next.mac = after at stepped
    cases stepped <;> rfl
  refine ⟨accounted, ordered, ?_, ?_, ?_, ?_, ?_⟩
  · intro skb waits
    rcases stepped.waits_of_tx waits with before | ⟨rfl, buffer⟩
    · exact longer (inv.waits_lt before) (inv.waiting skb before)
    · refine ⟨?_, ?_⟩
      · rw [frames, arrived, Function.update_self, Function.update_self]
        rfl
      · rw [frames, Function.update_self, buffer]
        rfl
  · intro skb bufId working
    rw [worker] at working
    have taken : skb ∈ pipeline.mac.worker.taken := by
      rcases working with at_ | at_ <;> simp [at_, MgmtWorker.taken]
    have old := inv.taken_lt taken
    rw [micLength_eq stepped old]
    exact longer old (inv.working skb bufId working)
  · intro skb bufId sending
    rw [worker] at sending
    have taken : skb ∈ pipeline.mac.worker.taken := by
      simp [sending, MgmtWorker.taken]
    have old := inv.taken_lt taken
    rw [framesOld skb old, stepped.skb_eq rfl old, mapping]
    exact inv.sending skb bufId sending
  · rw [sent, submitted]
    exact inv.delivers
  · intro command member
    refine inv.carries_then stepped ordered arrivedOld ?_ member
    rwa [sent] at member

/-- The room for the MIC is added to the frame that gets its id. -/
theorem Inv.id (inv : pipeline.Inv order callers) {skb bufId : Nat} {frame : FrameSkb}
    (stepped : Mac.Step callers pipeline.mac (.idrAlloc (some bufId)) next.mac)
    (allocating : pipeline.mac.worker = .alloc skb)
    (put : (pipeline.frames skb).skbPut
      (mgmtTxMicLength (pipeline.mac.frame skb) (pipeline.mac.cb skb)) = some frame)
    (frames : next.frames = Function.update pipeline.frames skb frame)
    (arrived : next.arrived = pipeline.arrived)
    (accepted : next.accepted = pipeline.accepted) (sent : next.sent = pipeline.sent)
    (submitted : next.submitted = pipeline.submitted) : next.Inv order callers := by
  obtain ⟨accounted, ordered⟩ := inv.ordered_then stepped
    (by rw [accepted]; simp [Mac.accepts]) (by rw [sent]; simp [Mac.issues])
  have taken : skb ∈ pipeline.mac.worker.taken := by
    simp [allocating, MgmtWorker.taken]
  have mic := @micLength_eq callers pipeline next _ stepped skb (inv.taken_lt taken)
  have carries : ∀ command ∈ next.sent, next.Carries command := by
    intro command member
    refine inv.carries_then stepped ordered (fun skb _ => by rw [arrived]) ?_ member
    rwa [sent] at member
  have plain := inv.waiting skb (.of_alloc allocating)
  have longer := FrameSkb.skbPut_eq_some put
  obtain ⟨worker, calls, queue, room⟩ := stepped.id_eq allocating
  obtain ⟨_, buffers⟩ := Buffers.skbPut_eq_some.mp room
  refine ⟨accounted, ordered, ?_, ?_, ?_, ?_, carries⟩
  · intro other waits
    have before := stepped.waits_of rfl waits
    have different : other ≠ skb := by
      refine inv.ordered.taken_apart taken (waits.of_work calls ?_)
      simp [worker, queue, MgmtWorker.waiting, MgmtWorker.taken]
    refine ⟨?_, ?_⟩
    · rw [frames, arrived, Function.update_of_ne different]
      exact (inv.waiting other before).data
    · rw [frames, buffers, Function.update_of_ne different]
      simp only [Function.update_of_ne different]
      exact (inv.waiting other before).len
  · intro other otherId working
    have same : other = skb := by
      rw [worker] at working
      rcases working with atMap | atSend
      · cases atMap
        rfl
      · cases atSend
    subst same
    refine ⟨?_, ?_⟩
    · rw [frames, arrived, Function.update_self, mic, longer, plain.data]
      rfl
    · rw [frames, buffers, Function.update_self, longer]
      simp only [Function.update_self, plain.len]
      rw [Nat.toUInt32_eq, Nat.toUInt32_eq, UInt32.ofNat_add, UInt32.ofNat_toNat]
  · intro other otherId sending
    rw [worker] at sending
    cases sending
  · rw [sent, submitted]
    exact inv.delivers

/-- The address is in the control block and in the mapping, for the whole frame. -/
theorem Inv.mapped (inv : pipeline.Inv order callers) {skb bufId : Nat} {paddr : UInt64}
    (stepped : Mac.Step callers pipeline.mac (.dmaMap (some paddr)) next.mac)
    (mapping : pipeline.mac.worker = .map skb bufId)
    (frames : next.frames =
      Function.update pipeline.frames skb { pipeline.frames skb with paddr := paddr })
    (arrived : next.arrived = pipeline.arrived)
    (accepted : next.accepted = pipeline.accepted) (sent : next.sent = pipeline.sent)
    (submitted : next.submitted = pipeline.submitted) : next.Inv order callers := by
  obtain ⟨accounted, ordered⟩ := inv.ordered_then stepped
    (by rw [accepted]; simp [Mac.accepts]) (by rw [sent]; simp [Mac.issues])
  have taken : skb ∈ pipeline.mac.worker.taken := by
    simp [mapping, MgmtWorker.taken]
  have carries : ∀ command ∈ next.sent, next.Carries command := by
    intro command member
    refine inv.carries_then stepped ordered (fun skb _ => by rw [arrived]) ?_ member
    rwa [sent] at member
  obtain ⟨worker, calls, queue, buffers⟩ := stepped.mapped_eq mapping
  have data : ∀ other, (next.frames other).skb = (pipeline.frames other).skb := by
    intro other
    rw [frames]
    by_cases same : other = skb
    · rw [same, Function.update_self]
    · rw [Function.update_of_ne same]
  have len : ∀ other, (next.mac.buffers.skb other).len =
      (pipeline.mac.buffers.skb other).len := by
    intro other
    rw [buffers]
    simp only [Buffers.setPaddr, Buffers.dmaMapSingle]
    by_cases same : other = skb
    · rw [same, Function.update_self]
    · rw [Function.update_of_ne same]
  have longer : ∀ {extra other : Nat}, pipeline.Longer extra other →
      next.Longer extra other := by
    intro extra other before
    refine ⟨?_, ?_⟩
    · rw [data, arrived]
      exact before.data
    · rw [data, len]
      exact before.len
  refine ⟨accounted, ordered, ?_, ?_, ?_, ?_, carries⟩
  · intro other waits
    exact longer (inv.waiting other (stepped.waits_of rfl waits))
  · intro other otherId working
    have same : other = skb := by
      rw [worker] at working
      rcases working with atMap | atSend
      · cases atMap
      · cases atSend
        rfl
    subst same
    rw [micLength_eq stepped (inv.taken_lt taken)]
    exact longer (inv.working other bufId (.inl mapping))
  · intro other otherId sending
    have same : other = skb := by
      rw [worker] at sending
      cases sending
      rfl
    subst same
    rw [frames, buffers]
    simp [Buffers.setPaddr, Buffers.dmaMapSingle]
  · rw [sent, submitted]
    exact inv.delivers

/-- The command that the copy engine takes is for the frame with the work item. -/
theorem Inv.sentCommand (inv : pipeline.Inv order callers) {skb bufId : Nat}
    (sending : pipeline.mac.worker = .send skb bufId) (use : VifUse) :
    let sent : SentCommand := ⟨⟨bufId, skb, (pipeline.mac.buffers.skb skb).paddr, 0⟩, use,
      (pipeline.frames skb).data⟩
    pipeline.Carries sent ∧
      Delivers order sent (wmiMessage order mgmtTxSendCmdId (mgmtCommand order
        use.vifId.toUInt32 bufId.toUInt32 (pipeline.frames skb).paddr
        (pipeline.frames skb).data)) := by
  obtain ⟨lost, accounted⟩ := inv.accounted
  have longer := inv.working skb bufId (.inr sending)
  obtain ⟨paddr, mapped⟩ := inv.sending skb bufId sending
  have workerAt := accounted.workerAt
  simp only [Mac.WorkerAt, sending] at workerAt
  refine ⟨⟨FrameSkb.bytes_prefix longer.data, ?_, workerAt.2, ?_⟩, ?_⟩
  · simp only [FrameSkb.length_data, longer.data]
  · simp only [mapped, FrameSkb.length_data, longer.len]
  · rw [paddr]
    exact ⟨_, mgmtMessage_readsBack _ _ _ _⟩

/-! What a step of the pipeline is to the transmit model. -/

theorem mac_of_step {device after : MacDevice}
    (stepped : device.step callers (.mac event) = some after) :
    Mac.Step callers device.mac event after.mac := by
  simp only [MacDevice.step] at stepped
  split at stepped
  next => cases stepped
  next =>
      obtain ⟨moved, reached, rfl⟩ := Option.map_eq_some_iff.mp stepped
      rw [MacDevice.workUnlock_mac]
      exact Mac.step_cases reached

theorem mac_of_follow (followed : pipeline.follow callers (.mac event) = some next) :
    ∃ device, next = { pipeline with device := device } ∧
      Mac.Step callers pipeline.mac event device.mac := by
  obtain ⟨device, stepped, rfl⟩ := Option.map_eq_some_iff.mp followed
  exact ⟨device, rfl, mac_of_step stepped⟩

/-- The callbacks and the lock of the work item leave the transmit path alone. -/
theorem Inv.conf (inv : pipeline.Inv order callers) {device : MacDevice}
    (same : device.mac = pipeline.device.mac) :
    Inv order callers { pipeline with device := device } := by
  obtain ⟨⟨mac, conf, workHolds, removed⟩, _⟩ := pipeline
  obtain ⟨mac', conf', workHolds', removed'⟩ := device
  cases same
  obtain ⟨accounted, ordered, waiting, working, sending, delivers, carries⟩ := inv
  exact ⟨accounted, ordered, fun skb waits => ⟨(waiting skb waits).data, (waiting skb waits).len⟩,
    fun skb bufId at_ => ⟨(working skb bufId at_).data, (working skb bufId at_).len⟩,
    sending, delivers,
    fun sent member => ⟨(carries sent member).data, (carries sent member).length,
      (carries sent member).registered, (carries sent member).mapped⟩⟩

theorem Inv.idrAlloc (inv : pipeline.Inv order callers) {bufId : Option Nat}
    (stepped : pipeline.idrAlloc callers bufId = some next) : next.Inv order callers := by
  obtain ⟨after, followed, rest⟩ := Option.bind_eq_some_iff.mp stepped
  obtain ⟨device, rfl, moved⟩ := mac_of_follow followed
  cases bufId with
  | none =>
      have same : next = { pipeline with device := device } := by
        split at rest
        next empty => cases empty
        next => exact (Option.some.inj rest).symm
      subst same
      exact inv.quiet moved rfl rfl rfl rfl (by simp [Mac.accepts]) (by simp [Mac.issues])
        inv.delivers fun sent member => .inl member
  | some bufId =>
      obtain ⟨skb, allocating⟩ := moved.allocating
      rw [allocating] at rest
      obtain ⟨frame, put, done⟩ := Option.bind_eq_some_iff.mp rest
      cases done
      exact inv.id moved allocating put rfl rfl rfl rfl rfl

theorem Inv.dmaMap (inv : pipeline.Inv order callers) {paddr : UInt64}
    (stepped : pipeline.dmaMap callers paddr = some next) : next.Inv order callers := by
  unfold TxPipeline.dmaMap at stepped
  split at stepped
  next =>
      obtain ⟨device, rfl, moved⟩ := mac_of_follow stepped
      exact inv.quiet moved rfl rfl rfl rfl (by simp [Mac.accepts]) (by simp [Mac.issues])
        inv.delivers fun sent member => .inl member
  next =>
      obtain ⟨after, followed, rfl⟩ := Option.map_eq_some_iff.mp stepped
      obtain ⟨device, rfl, moved⟩ := mac_of_follow followed
      obtain ⟨skb, bufId, mapping⟩ := moved.mapping
      rw [mapping]
      exact inv.mapped moved mapping rfl rfl rfl rfl rfl

/-- The command itself changes nothing of the frame. -/
theorem Carries.sent {command : SentCommand} (carried : pipeline.Carries command)
    {ret : Int} (stepped : Mac.Step callers pipeline.mac (.wmiSend ret) next.mac)
    (arrived : next.arrived = pipeline.arrived) : next.Carries command := by
  obtain ⟨idr, buffers, frame, cb⟩ := stepped.sent_eq
  refine ⟨?_, ?_, ?_, ?_⟩
  · rw [arrived]
    exact carried.data
  · rw [arrived, micLength, frame, cb]
    exact carried.length
  · rw [idr]
    exact carried.registered
  · rw [buffers]
    exact carried.mapped

theorem Inv.wmiSend (inv : pipeline.Inv order callers) {memory : Option (Nat → UInt8)}
    {command : Wmi.Answers} {later : List Wmi.Answers}
    (stepped : pipeline.wmiSend order callers memory command later = some next) :
    next.Inv order callers := by
  unfold TxPipeline.wmiSend at stepped
  split at stepped
  next skb bufId use sending used =>
      obtain ⟨⟨after, ret⟩, called, rest⟩ := Option.bind_eq_some_iff.mp stepped
      obtain ⟨moved, followed, done⟩ := Option.bind_eq_some_iff.mp rest
      obtain ⟨device, rfl, macStep⟩ := mac_of_follow followed
      cases done
      obtain ⟨carried, delivered⟩ := inv.sentCommand sending use
      have submits := TxResources.mgmtSend_submits called
      have issues : pipeline.mac.issues (.wmiSend ret) =
          [⟨bufId, skb, (pipeline.mac.buffers.skb skb).paddr, ret⟩] := by
        simp [Mac.issues, sending, MgmtWorker.command]
      by_cases taken : ret = 0
      · subst taken
        refine inv.quiet macStep rfl rfl rfl rfl (by simp [Mac.accepts]) ?_ ?_ ?_
        · simp [issues, MgmtCommand.succeeded]
        · rw [submits]
          exact List.rel_append inv.delivers (.cons delivered .nil)
        · intro sent member
          rcases List.mem_append.mp member with old | new
          · exact .inl old
          · rw [if_pos rfl] at new
            rw [List.mem_singleton.mp new]
            exact .inr (carried.sent macStep rfl)
      · refine inv.quiet macStep rfl rfl rfl rfl (by simp [Mac.accepts]) ?_ ?_ ?_
        · simp [issues, MgmtCommand.succeeded, taken]
        · rw [submits, if_neg taken, if_neg taken, List.append_nil, List.append_nil]
          exact inv.delivers
        · intro sent member
          rw [if_neg taken, List.append_nil] at member
          exact .inl member
  next => cases stepped

theorem Inv.step (inv : pipeline.Inv order callers) {event : Event}
    (stepped : pipeline.step order callers event = some next) :
    next.Inv order callers := by
  cases event with
  | tx caller info frame =>
      obtain ⟨after, followed, rfl⟩ := Option.map_eq_some_iff.mp stepped
      obtain ⟨device, rfl, moved⟩ := mac_of_follow followed
      exact inv.tx moved rfl rfl rfl rfl rfl
  | call caller =>
      obtain ⟨after, followed, rfl⟩ := Option.map_eq_some_iff.mp stepped
      obtain ⟨device, rfl, moved⟩ := mac_of_follow followed
      exact inv.quiet moved rfl rfl rfl rfl rfl (by simp [Mac.issues]) inv.delivers
        fun sent member => .inl member
  | work =>
      obtain ⟨device, rfl, moved⟩ := mac_of_follow stepped
      exact inv.quiet moved rfl rfl rfl rfl (by simp [Mac.accepts]) (by simp [Mac.issues])
        inv.delivers fun sent member => .inl member
  | workLock =>
      obtain ⟨device, locked, rfl⟩ := Option.map_eq_some_iff.mp stepped
      refine inv.conf ?_
      simp only [MacDevice.step] at locked
      split at locked
      next =>
          obtain ⟨conf, -, rfl⟩ := Option.map_eq_some_iff.mp locked
          rfl
      next => cases locked
  | callback callback =>
      obtain ⟨device, called, rfl⟩ := Option.map_eq_some_iff.mp stepped
      refine inv.conf ?_
      simp only [MacDevice.step] at called
      split at called
      next => cases called
      next =>
          obtain ⟨result, -, rfl⟩ := Option.map_eq_some_iff.mp called
          rfl
  | idrAlloc bufId => exact inv.idrAlloc stepped
  | dmaMap paddr => exact inv.dmaMap stepped
  | wmiSend memory command later => exact inv.wmiSend stepped

theorem Inv.start : Inv order callers start where
  accounted := ⟨0, Mac.Accounted.start⟩
  ordered := .start
  waiting := by
    rintro skb (⟨caller, -, holds⟩ | queued | taken)
    · simp [TxPipeline.start, TxPipeline.mac, MacDevice.start, Mac.start, TxCall.frames]
        at holds
    · cases queued
    · cases taken
  working := by
    rintro skb bufId (atMap | atSend)
    · cases atMap
    · cases atSend
  sending := by
    intro skb bufId sending
    cases sending
  delivers := .nil
  carries := by
    intro sent member
    cases member

/-- From mac80211 to the copy engine: whatever the interleaving and whatever fails, the
byte strings that the copy engine took are, one by one and in the order in which the
frames were accepted, the commands for these frames. Each reads back completely with
the id of the interface, an id that leads to the frame and is used for no other, and an
address at which all of the frame is mapped; the data are those that mac80211 handed
over, with the room for the MIC behind them. -/
theorem mgmt_frames_delivered {events : List Event}
    (reached : run (step order callers) start events = some pipeline) :
    List.Forall₂ (Delivers order) pipeline.sent pipeline.submitted ∧
      (∀ sent ∈ pipeline.sent, pipeline.Carries sent) ∧
      (pipeline.sent.map fun sent => sent.command.skb).Sublist pipeline.accepted ∧
      pipeline.accepted.Nodup ∧
      (pipeline.sent.map fun sent => sent.command.descId).Nodup := by
  have inv := run_invariant (Inv order callers)
    (fun _ _ _ stepped inv => inv.step stepped) reached Inv.start
  have skbs := inv.ordered.order
  have ids := inv.ordered.distinct
  rw [List.map_map] at skbs ids
  refine ⟨inv.delivers, inv.carries, List.Sublist.trans ?_ skbs, inv.ordered.once, ids⟩
  rw [List.append_assoc]
  exact List.sublist_append_left _ _

/-- A deauthentication frame whose command is taken at the second attempt. -/
def retriedDeauth : List Event :=
  [.callback (.addInterface 0 .station), .tx 0 deauthInfo deauthSkb, .call 0, .call 0, .call 0,
    .work, .work, .workLock, .idrAlloc (some 5), .dmaMap 0x1000,
    .wmiSend (some fun _ => 0xff) ⟨0x2000, -enobufs, false⟩ [⟨0x3000, 0, false⟩]]

theorem mgmt_frames_delivered_retried :
    ∃ pipeline, run (step .little 1) start retriedDeauth = some pipeline ∧
      pipeline.sent.map (fun sent => sent.data.data.length) = [34] ∧
      List.Forall₂ (Delivers .little) pipeline.sent pipeline.submitted := by
  have seen : (run (step .little 1) start retriedDeauth).map
      (fun pipeline => pipeline.sent.map fun sent => sent.data.data.length) =
        some [34] := by decide +kernel
  obtain ⟨pipeline, reached, lengths⟩ := Option.map_eq_some_iff.mp seen
  exact ⟨pipeline, reached, lengths, (mgmt_frames_delivered reached).1⟩

end TxPipeline

end WirelessSimu
