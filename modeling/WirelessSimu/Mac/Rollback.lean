import WirelessSimu.Mac.MgmtTx
import WirelessSimu.Wmi.Retry

namespace WirelessSimu

open Data Kernel Wmi

/-! One call of `wireless_simu_mgmt_tx_wmi` with all that it acquires in three layers: an
id, the mapping of the frame, a command buffer and the mapping of that. What the
environment answers is free. `none` is an access outside a buffer, `skb_put` behind the
end of the frame included, or an unmapping of what is not mapped. -/

/-- The buffer of a frame with the address in its control block. -/
structure FrameSkb where
  skb : ByteBuffer
  paddr : UInt64
  inside : skb.start + skb.length ≤ skb.memory.length
  small : skb.memory.length < 2 ^ 32

namespace FrameSkb

/-- What the kernel tells of the buffer. -/
def skBuff (frame : FrameSkb) : SkBuff where
  len := frame.skb.length.toUInt32
  tailroom := (frame.skb.memory.length - frame.skb.start - frame.skb.length).toUInt32
  paddr := frame.paddr

/-- The room behind the data is what is left of the buffer. -/
theorem skbPut_room {frame : FrameSkb} {count : UInt32} :
    (frame.skBuff.skbPut count).isSome ↔
      frame.skb.start + frame.skb.length + count.toNat ≤ frame.skb.memory.length := by
  have inside := frame.inside
  have small := frame.small
  rw [SkBuff.skbPut_isSome, UInt32.le_iff_toNat_le, skBuff, Nat.toUInt32_eq,
    UInt32.toNat_ofNat', Nat.mod_eq_of_lt (by omega)]
  omega

def skbPut (frame : FrameSkb) (count : UInt32) : Option FrameSkb :=
  if room : (frame.skBuff.skbPut count).isSome then
    some { frame with
      skb := { frame.skb with length := frame.skb.length + count.toNat }
      inside := by
        have fits := skbPut_room.mp room
        simp only
        omega }
  else none

theorem length_bytes_lt (frame : FrameSkb) : frame.skb.bytes.length < 2 ^ 32 := by
  have small := frame.small
  simp only [ByteBuffer.bytes, List.length_take, List.length_drop]
  omega

/-- The data as the command copies them. -/
def data (frame : FrameSkb) : MgmtFrame where
  data := frame.skb.bytes
  fits := frame.length_bytes_lt

def mapping (frame : FrameSkb) : Mapping :=
  ⟨frame.paddr, frame.skb.length.toUInt32⟩

end FrameSkb

/-- What the call shares with the rest of the driver: the ids, the live mappings, the
allocated command buffers and what the copy engine took. -/
structure TxResources where
  txmgmtIdr : Nat → Option Nat
  mappings : List Mapping
  commandSkbs : List ByteBuffer
  submitted : List (List UInt8)

/-- `idr_alloc` gives an unused id below the limit or fails, `paddr` is what
`dma_map_single` returns for the frame, and the allocator has memory with any contents
or none. -/
structure TxAnswers (idr : Nat → Option Nat) where
  bufId : Option { bufId : Nat // bufId < txMgmtNumPendingMax ∧ idr bufId = none }
  paddr : UInt64
  memory : Option (Nat → UInt8)
  command : Wmi.Answers
  later : List Wmi.Answers

namespace TxResources

def dmaUnmapSingle (resources : TxResources) (mapping : Mapping) : Option TxResources :=
  if mapping ∈ resources.mappings then
    some { resources with mappings := resources.mappings.erase mapping }
  else none

def idrRemove (resources : TxResources) (bufId : Nat) : TxResources :=
  { resources with txmgmtIdr := Function.update resources.txmgmtIdr bufId none }

/-- `wireless_simu_wmi_mgmt_send`, which returns what the send returns and leaves the
command buffer as it is. -/
def mgmtSend (order : ByteOrder) (memory : Option (Nat → UInt8)) (command : Wmi.Answers)
    (later : List Wmi.Answers) (vifId bufId : UInt32) (frame : FrameSkb)
    (resources : TxResources) : Option (TxResources × Int) :=
  match memory with
  | none => some (resources, -enomem)
  | some contents => do
      let skb ← mgmtSendSkb order contents vifId bufId frame.paddr frame.data
      let waited ← Sending.cmdSend order mgmtTxSendCmdId
        ⟨skb, 0, resources.mappings, resources.submitted⟩ command later
      return ({ resources with
        mappings := waited.final.mappings
        commandSkbs := waited.final.skb :: resources.commandSkbs
        submitted := waited.final.submitted }, waited.ret)

/-- `wireless_simu_mgmt_tx_wmi` for the frame number `skb`, with the frame as it is left
and the return value. -/
def mgmtTxWmi (order : ByteOrder) (resources : TxResources)
    (answers : TxAnswers resources.txmgmtIdr) (vifId : UInt32) (skb : Nat) (info : Frame)
    (cb : SkbCb) (frame : FrameSkb) : Option (TxResources × FrameSkb × Int) :=
  match answers.bufId with
  | none => some (resources, frame, -enospc)
  | some bufId => do
      let resources := { resources with
        txmgmtIdr := Function.update resources.txmgmtIdr bufId.val (some skb) }
      let frame ← frame.skbPut (mgmtTxMicLength info cb)
      if answers.paddr = dmaMappingError then
        return (resources.idrRemove bufId.val, frame, -eio)
      else
        let frame := { frame with paddr := answers.paddr }
        let resources := { resources with mappings := frame.mapping :: resources.mappings }
        let (resources, ret) ← resources.mgmtSend order answers.memory answers.command
          answers.later vifId bufId.val.toUInt32 frame
        if ret ≠ 0 then
          let resources ← resources.dmaUnmapSingle frame.mapping
          return (resources.idrRemove bufId.val, frame, ret)
        else return (resources, frame, 0)

end TxResources

/-- After an error everything is as before, and after a success one id more is for the
frame. -/
structure RolledBack (skb : Nat) (before after : TxResources) (ret : Int) : Prop where
  failed : ret ≠ 0 → after.txmgmtIdr = before.txmgmtIdr ∧
    after.mappings = before.mappings ∧ after.commandSkbs = before.commandSkbs
  sent : ret = 0 → ∃ bufId < txMgmtNumPendingMax, before.txmgmtIdr bufId = none ∧
    after.txmgmtIdr = Function.update before.txmgmtIdr bufId (some skb)

/-- No command buffer is allocated, or the copy engine takes the command. -/
def TxAnswers.NoRefusal {idr : Nat → Option Nat} (answers : TxAnswers idr) : Prop :=
  answers.bufId = none ∨ answers.paddr = dmaMappingError ∨ answers.memory = none ∨
    Taken answers.command answers.later

section Call

variable {order : ByteOrder} {resources after : TxResources} {vifId : UInt32} {skb : Nat}
  {info : Frame} {cb : SkbCb} {frame left : FrameSkb} {ret : Int}

/-- The layers below give every mapping back that they made for a refused command, and
never the buffer. -/
theorem TxResources.mgmtSend_cases (order : ByteOrder) (memory : Option (Nat → UInt8))
    (command : Wmi.Answers) (later : List Wmi.Answers) (vifId bufId : UInt32)
    (frame : FrameSkb) (resources : TxResources) :
    (memory = none ∧
      resources.mgmtSend order memory command later vifId bufId frame =
        some (resources, -enomem)) ∨
    memory ≠ none ∧ ∃ after skb ret,
      resources.mgmtSend order memory command later vifId bufId frame =
        some (after, ret) ∧
      after.txmgmtIdr = resources.txmgmtIdr ∧
      after.commandSkbs = skb :: resources.commandSkbs ∧
      (ret = 0 ↔ Taken command later) ∧
      (ret ≠ 0 → after.mappings = resources.mappings) := by
  cases memory with
  | none => exact .inl ⟨rfl, rfl⟩
  | some contents =>
      right
      obtain ⟨skb, built, shape⟩ :=
        mgmtSendSkb_shape order contents vifId bufId frame.paddr frame.data
      have room : skb.Shape (0 + htcHdrSize + cmdHdrSize) 0
          (mgmtCommand order vifId bufId frame.paddr frame.data) := by
        rw [Nat.zero_add]
        exact shape
      obtain ⟨waited, sent, taken, unmapped⟩ := @Sending.cmdSend_settles order
        ⟨skb, 0, resources.mappings, resources.submitted⟩ _ _ _ command later
        mgmtTxSendCmdId room
      refine ⟨by simp, { resources with
          mappings := waited.final.mappings
          commandSkbs := waited.final.skb :: resources.commandSkbs
          submitted := waited.final.submitted },
        waited.final.skb, waited.ret, ?_, rfl, rfl, taken, unmapped⟩
      simp only [TxResources.mgmtSend, built, sent, Option.bind_eq_bind, Option.bind_some,
        Option.pure_def]

theorem idr_remove_added {idr : Nat → Option Nat} {bufId : Nat} (unused : idr bufId = none)
    (entry : Option Nat) :
    Function.update (Function.update idr bufId entry) bufId none = idr := by
  rw [Function.update_idem, ← unused, Function.update_eq_self]

/-- What the two labels at the end of `wireless_simu_mgmt_tx_wmi` undo. -/
theorem TxResources.unwound {mapping : Mapping} {bufId : Nat}
    (unused : resources.txmgmtIdr bufId = none)
    (idr : after.txmgmtIdr = Function.update resources.txmgmtIdr bufId (some skb))
    (mappings : after.mappings = mapping :: resources.mappings) :
    ∃ undone, after.dmaUnmapSingle mapping = some undone ∧
      (undone.idrRemove bufId).txmgmtIdr = resources.txmgmtIdr ∧
      (undone.idrRemove bufId).mappings = resources.mappings ∧
      (undone.idrRemove bufId).commandSkbs = after.commandSkbs := by
  have live : mapping ∈ after.mappings := by
    rw [mappings]
    exact List.mem_cons_self
  refine ⟨_, if_pos live, ?_, ?_, rfl⟩
  · simp only [TxResources.idrRemove, idr, idr_remove_added unused]
  · simp only [TxResources.idrRemove, mappings, List.erase_cons_head]

/-- The ways out of the call, with what each leaves of the resources. -/
inductive TxOutcome (resources : TxResources) (answers : TxAnswers resources.txmgmtIdr)
    (skb : Nat) : TxResources → Int → Prop where
  | noId (noId : answers.bufId = none) :
      TxOutcome resources answers skb resources (-enospc)
  | unmapped {bufId} {after : TxResources} (id : answers.bufId = some bufId)
      (error : answers.paddr = dmaMappingError)
      (idr : after.txmgmtIdr = resources.txmgmtIdr)
      (mappings : after.mappings = resources.mappings)
      (commandSkbs : after.commandSkbs = resources.commandSkbs) :
      TxOutcome resources answers skb after (-eio)
  | noMemory {bufId} {after : TxResources} (id : answers.bufId = some bufId)
      (valid : answers.paddr ≠ dmaMappingError) (noMemory : answers.memory = none)
      (idr : after.txmgmtIdr = resources.txmgmtIdr)
      (mappings : after.mappings = resources.mappings)
      (commandSkbs : after.commandSkbs = resources.commandSkbs) :
      TxOutcome resources answers skb after (-enomem)
  | refused {bufId} {after : TxResources} {ret : Int} {command : ByteBuffer}
      (id : answers.bufId = some bufId) (valid : answers.paddr ≠ dmaMappingError)
      (memory : answers.memory ≠ none) (refused : ¬ Taken answers.command answers.later)
      (failed : ret ≠ 0) (idr : after.txmgmtIdr = resources.txmgmtIdr)
      (mappings : after.mappings = resources.mappings)
      (commandSkbs : after.commandSkbs = command :: resources.commandSkbs) :
      TxOutcome resources answers skb after ret
  | sent {bufId} {after : TxResources} (id : answers.bufId = some bufId)
      (valid : answers.paddr ≠ dmaMappingError) (memory : answers.memory ≠ none)
      (taken : Taken answers.command answers.later)
      (idr : after.txmgmtIdr =
        Function.update resources.txmgmtIdr bufId.val (some skb)) :
      TxOutcome resources answers skb after 0

/-- The call from the mapping of the frame on, with `held` acquired. -/
theorem TxResources.mgmtTxWmi_send {held : TxResources} {bufId}
    (answers : TxAnswers resources.txmgmtIdr) (id : answers.bufId = some bufId)
    (valid : answers.paddr ≠ dmaMappingError)
    (idr : held.txmgmtIdr = Function.update resources.txmgmtIdr bufId.val (some skb))
    (mappings : held.mappings = frame.mapping :: resources.mappings)
    (commandSkbs : held.commandSkbs = resources.commandSkbs) :
    ∃ after left ret,
      ((held.mgmtSend order answers.memory answers.command answers.later vifId
          bufId.val.toUInt32 frame).bind fun result =>
        if result.2 ≠ 0 then (result.1.dmaUnmapSingle frame.mapping).bind fun undone =>
          some (undone.idrRemove bufId.val, frame, result.2)
        else some (result.1, frame, 0)) = some (after, left, ret) ∧
      TxOutcome resources answers skb after ret := by
  have unused := bufId.property.2
  obtain ⟨noMemory, sent⟩ | ⟨memory, after, command, ret, sent, sameIdr, allocated, taken,
      unmapped⟩ := held.mgmtSend_cases order answers.memory answers.command answers.later
        vifId bufId.val.toUInt32 frame
  · have failed : -enomem ≠ 0 := by decide
    obtain ⟨undone, unmap, back, given, left⟩ := TxResources.unwound unused idr mappings
    rw [sent, Option.bind_some, if_pos failed, unmap, Option.bind_some]
    exact ⟨_, _, _, rfl, .noMemory id valid noMemory back given (left.trans commandSkbs)⟩
  · rw [← sameIdr] at idr
    rw [commandSkbs] at allocated
    rw [sent, Option.bind_some]
    by_cases failed : ret = 0
    · rw [if_neg (not_not.mpr failed)]
      exact ⟨_, _, _, rfl, .sent id valid memory (taken.mp failed) idr⟩
    · rw [← unmapped failed] at mappings
      obtain ⟨undone, unmap, back, given, left⟩ := TxResources.unwound unused idr mappings
      rw [if_pos failed, unmap, Option.bind_some]
      exact ⟨_, _, _, rfl, .refused id valid memory (mt taken.mpr failed) failed back given
        (left.trans allocated)⟩

/-- The call returns unless the MIC has no room behind the frame, by one of the ways. -/
theorem TxResources.mgmtTxWmi_outcome (answers : TxAnswers resources.txmgmtIdr)
    (room : answers.bufId = none ∨ frame.skb.start + frame.skb.length +
      (mgmtTxMicLength info cb).toNat ≤ frame.skb.memory.length) :
    ∃ after left ret, resources.mgmtTxWmi order answers vifId skb info cb frame =
        some (after, left, ret) ∧ TxOutcome resources answers skb after ret := by
  unfold TxResources.mgmtTxWmi
  split
  next noId => exact ⟨_, _, _, rfl, .noId noId⟩
  next bufId id =>
      have unused := bufId.property.2
      have fits := room.resolve_left (by rw [id]; simp)
      rw [FrameSkb.skbPut, dif_pos (FrameSkb.skbPut_room.mpr fits)]
      simp only [Option.bind_eq_bind, Option.bind_some, Option.pure_def]
      split
      next error =>
          exact ⟨_, _, _, rfl, .unmapped id error (idr_remove_added unused _) rfl rfl⟩
      next valid =>
          exact mgmtTxWmi_send answers id valid rfl rfl rfl

/-- A call that has no room for the MIC does not return. -/
theorem TxResources.room_of_mgmtTxWmi {answers : TxAnswers resources.txmgmtIdr}
    (called : resources.mgmtTxWmi order answers vifId skb info cb frame =
      some (after, left, ret)) :
    answers.bufId = none ∨ (frame.skBuff.skbPut (mgmtTxMicLength info cb)).isSome := by
  by_contra noRoom
  obtain ⟨someId, tooLong⟩ := not_or.mp noRoom
  obtain ⟨bufId, id⟩ := Option.ne_none_iff_exists'.mp someId
  simp [TxResources.mgmtTxWmi, id, FrameSkb.skbPut, tooLong] at called

theorem TxOutcome.of_call {answers : TxAnswers resources.txmgmtIdr}
    (called : resources.mgmtTxWmi order answers vifId skb info cb frame =
      some (after, left, ret)) : TxOutcome resources answers skb after ret := by
  have room := TxResources.room_of_mgmtTxWmi called
  rw [FrameSkb.skbPut_room] at room
  obtain ⟨after', left', ret', returned, outcome⟩ :=
    @TxResources.mgmtTxWmi_outcome order resources vifId skb info cb frame answers room
  rw [called] at returned
  cases returned
  exact outcome

/-- Whatever the five steps answer and however often the send is tried, an error is
rolled back exactly if no command buffer was refused by the copy engine. -/
theorem mgmt_tx_wmi_rolled_back_iff {answers : TxAnswers resources.txmgmtIdr}
    (called : resources.mgmtTxWmi order answers vifId skb info cb frame =
      some (after, left, ret)) :
    RolledBack skb resources after ret ↔ answers.NoRefusal := by
  cases TxOutcome.of_call called with
  | noId noId =>
      refine iff_of_true ⟨fun _ => ⟨rfl, rfl, rfl⟩, fun done => ?_⟩ (.inl noId)
      exact absurd done (by decide)
  | unmapped id error idr mappings commandSkbs =>
      refine iff_of_true ⟨fun _ => ⟨idr, mappings, commandSkbs⟩, fun done => ?_⟩
        (.inr (.inl error))
      exact absurd done (by decide)
  | noMemory id valid noMemory idr mappings commandSkbs =>
      refine iff_of_true ⟨fun _ => ⟨idr, mappings, commandSkbs⟩, fun done => ?_⟩
        (.inr (.inr (.inl noMemory)))
      exact absurd done (by decide)
  | refused id valid memory refused failed idr mappings commandSkbs =>
      refine iff_of_false ?_ ?_
      · intro rolledBack
        obtain ⟨_, _, same⟩ := rolledBack.failed failed
        rw [commandSkbs] at same
        exact List.cons_ne_self _ _ same
      · rintro (noId | error | noMemory | taken)
        · rw [id] at noId
          cases noId
        · exact valid error
        · exact memory noMemory
        · exact refused taken
  | @sent bufId after id valid memory taken idr =>
      refine iff_of_true ⟨fun failed => absurd rfl failed, fun _ => ?_⟩
        (.inr (.inr (.inr taken)))
      exact ⟨bufId.val, bufId.property.1, bufId.property.2, idr⟩

end Call

/-! A deauthentication frame with the MIC of CCMP behind it. -/

def deauthInfo : Frame := ⟨0x40c0, 0, some 0x000fac04, some 0⟩

def deauthSkb : FrameSkb where
  skb := ⟨List.replicate 40 0xc0, 0, 26⟩
  paddr := 0
  inside := by decide
  small := by decide

def noResources : TxResources := ⟨fun _ => none, [], [], []⟩

def deauthAnswers (command : Wmi.Answers) : TxAnswers noResources.txmgmtIdr where
  bufId := some ⟨0, by decide, rfl⟩
  paddr := 0x1000
  memory := some fun _ => 0xff
  command := command
  later := [⟨0x3000, 0, false⟩]

/-- The frame is sent, and `command` is what its first attempt meets. -/
def sendDeauth (command : Wmi.Answers) : Option (TxResources × FrameSkb × Int) :=
  noResources.mgmtTxWmi .little (deauthAnswers command) 0 7 deauthInfo deauthInfo.skbCb
    deauthSkb

/-- The copy engine has no room at first. -/
theorem mgmt_tx_wmi_rolled_back_retried :
    ∃ after left, sendDeauth ⟨0x2000, -enobufs, false⟩ = some (after, left, 0) ∧
      RolledBack 7 noResources after 0 := by
  have seen : (sendDeauth ⟨0x2000, -enobufs, false⟩).map (fun result => result.2.2) =
      some 0 := by decide +kernel
  obtain ⟨⟨after, left, ret⟩, called, returned⟩ := Option.map_eq_some_iff.mp seen
  simp only at returned
  rw [returned] at called
  refine ⟨after, left, called, (mgmt_tx_wmi_rolled_back_iff called).mpr ?_⟩
  refine .inr (.inr (.inr ⟨[⟨0x2000, -enobufs, false⟩], ⟨0x3000, 0, false⟩, [], rfl, ?_, ?_⟩))
  · intro refusing member
    rw [List.mem_singleton.mp member]
    exact ⟨by decide, rfl, rfl⟩
  · exact ⟨by decide, rfl⟩

/-- The command cannot be mapped, and its buffer stays allocated. -/
theorem mgmt_tx_wmi_leaks_command :
    ∃ after left, sendDeauth ⟨dmaMappingError, 0, false⟩ = some (after, left, -eio) ∧
      after.commandSkbs.length = 1 ∧ ¬ RolledBack 7 noResources after (-eio) := by
  have seen : (sendDeauth ⟨dmaMappingError, 0, false⟩).map
      (fun result => (result.1.commandSkbs.length, result.2.2)) = some (1, -eio) := by
    decide +kernel
  obtain ⟨⟨after, left, ret⟩, called, returned⟩ := Option.map_eq_some_iff.mp seen
  simp only [Prod.mk.injEq] at returned
  obtain ⟨leaked, failed⟩ := returned
  rw [failed] at called
  refine ⟨after, left, called, leaked, ?_⟩
  intro rolledBack
  obtain ⟨_, _, same⟩ := rolledBack.failed (by decide)
  rw [same] at leaked
  cases leaked

/-! The call is what the work item of the transmit model does between two frames. -/

def TxAnswers.events {idr : Nat → Option Nat} (answers : TxAnswers idr) (ret : Int) :
    List Mac.Event :=
  match answers.bufId with
  | none => [.idrAlloc none]
  | some bufId =>
      if answers.paddr = dmaMappingError then
        [.idrAlloc (some bufId.val), .dmaMap none, .work]
      else if ret ≠ 0 then
        [.idrAlloc (some bufId.val), .dmaMap (some answers.paddr), .wmiSend ret, .work, .work]
      else [.idrAlloc (some bufId.val), .dmaMap (some answers.paddr), .wmiSend ret]

section Steps

variable {mac : Mac} {skb bufId : Nat} {ret : Int} {buffers : Buffers}

theorem Mac.run_unmapped (callers : Nat) (allocating : mac.worker = .alloc skb)
    (free : bufId < txMgmtNumPendingMax ∧ mac.txmgmtIdr bufId = none)
    (put : mac.buffers.skbPut skb (mgmtTxMicLength (mac.frame skb) (mac.cb skb)) =
      some buffers) :
    ∃ next, run (Mac.step callers) mac [.idrAlloc (some bufId), .dmaMap none, .work] =
        some next ∧
      next.worker = .dequeue ∧ next.txmgmtIdr = mac.txmgmtIdr := by
  simp only [run, Mac.step, Mac.idrAlloc, allocating, if_pos free, put, Option.map_some,
    Option.bind_some, Mac.dmaMap, Mac.work]
  exact ⟨_, rfl, rfl, idr_remove_added free.2 _⟩

/-- The work item gives the id of a refused command back behind the mapping. -/
theorem Mac.run_refused (callers : Nat) (allocating : mac.worker = .alloc skb)
    (free : bufId < txMgmtNumPendingMax ∧ mac.txmgmtIdr bufId = none)
    (put : mac.buffers.skbPut skb (mgmtTxMicLength (mac.frame skb) (mac.cb skb)) =
      some buffers) (paddr : UInt64) (failed : ret ≠ 0) :
    ∃ next, run (Mac.step callers) mac
        [.idrAlloc (some bufId), .dmaMap (some paddr), .wmiSend ret, .work, .work] =
        some next ∧
      next.worker = .dequeue ∧ next.txmgmtIdr = mac.txmgmtIdr := by
  simp only [run, Mac.step, Mac.idrAlloc, allocating, if_pos free, put, Option.map_some,
    Option.bind_some, Mac.dmaMap, Mac.work, Mac.wmiSend, if_pos failed]
  exact ⟨_, rfl, rfl, idr_remove_added free.2 _⟩

/-- Whatever way out the call takes, the work item takes it in its own steps and is left
with the same ids. -/
theorem TxResources.mgmtTxWmi_steps {resources after : TxResources}
    {answers : TxAnswers resources.txmgmtIdr} {order : ByteOrder} {vifId : UInt32}
    {info : Frame} {cb : SkbCb} {frame left : FrameSkb}
    (called : resources.mgmtTxWmi order answers vifId skb info cb frame =
      some (after, left, ret))
    (allocating : mac.worker = .alloc skb) (idr : mac.txmgmtIdr = resources.txmgmtIdr)
    (sameInfo : mac.frame skb = info) (sameCb : mac.cb skb = cb)
    (sameBuffer : mac.buffers.skb skb = frame.skBuff) (callers : Nat) :
    ∃ next, run (Mac.step callers) mac (answers.events ret) = some next ∧
      next.worker = .dequeue ∧ next.txmgmtIdr = after.txmgmtIdr := by
  have free (bufId : { bufId // bufId < txMgmtNumPendingMax ∧
      resources.txmgmtIdr bufId = none }) :
      bufId.val < txMgmtNumPendingMax ∧ mac.txmgmtIdr bufId.val = none := by
    rw [idr]
    exact bufId.property
  have puts {bufId} (id : answers.bufId = some bufId) : ∃ buffers, mac.buffers.skbPut skb
      (mgmtTxMicLength (mac.frame skb) (mac.cb skb)) = some buffers := by
    have room := (TxResources.room_of_mgmtTxWmi called).resolve_left (by rw [id]; simp)
    rw [Buffers.skbPut, sameInfo, sameCb, sameBuffer, ← Option.isSome_iff_exists,
      Option.isSome_map]
    exact room
  cases TxOutcome.of_call called with
  | noId noId =>
      refine ⟨{ mac with worker := .dequeue }, ?_, rfl, idr⟩
      simp only [TxAnswers.events, noId, run, Mac.step, Mac.idrAlloc, allocating,
        Option.bind_some]
  | @unmapped bufId after id error idrThen =>
      simp only [TxAnswers.events, id, if_pos error]
      rw [idrThen.trans idr.symm]
      obtain ⟨_, put⟩ := puts id
      exact Mac.run_unmapped callers allocating (free bufId) put
  | @noMemory bufId after id valid noMemory idrThen =>
      have failed : -enomem ≠ 0 := by decide
      simp only [TxAnswers.events, id, if_neg valid, if_pos failed]
      rw [idrThen.trans idr.symm]
      obtain ⟨_, put⟩ := puts id
      exact Mac.run_refused callers allocating (free bufId) put answers.paddr failed
  | @refused bufId after ret command id valid memory refused failed idrThen =>
      simp only [TxAnswers.events, id, if_neg valid, if_pos failed]
      rw [idrThen.trans idr.symm]
      obtain ⟨_, put⟩ := puts id
      exact Mac.run_refused callers allocating (free bufId) put answers.paddr failed
  | @sent bufId after id valid memory taken idrThen =>
      obtain ⟨_, put⟩ := puts id
      simp only [TxAnswers.events, id, if_neg valid, ne_eq, not_true_eq_false, if_false, run,
        Mac.step, Mac.idrAlloc, allocating, if_pos (free bufId), put, Option.map_some,
        Option.bind_some, Mac.dmaMap, Mac.wmiSend]
      refine ⟨_, rfl, rfl, ?_⟩
      simp only [idrThen, idr]

end Steps

end WirelessSimu
