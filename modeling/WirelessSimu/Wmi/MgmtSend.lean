import WirelessSimu.Data.Bytes
import WirelessSimu.Kernel.Field

namespace WirelessSimu.Wmi

open Data Kernel

/-! The bytes of a management command on its way through WMI and HTC to the copy engine.
`none` is an access outside the memory of the buffer. -/

/-- The data of a frame; its length is a `u32`. -/
structure MgmtFrame where
  data : List UInt8
  fits : data.length < 2 ^ 32

def cmdHdrSize : Nat := 4

def skbHeadroom : Nat := cmdHdrSize

def htcHdrSize : Nat := 8

def mgmtSendCmdSize : Nat := 36

def tlvHdrSize : Nat := 4

def mgmtSendDownldLen : Nat := 64

def tagArrayByte : UInt64 := 17

def tagMgmtTxSendCmd : UInt64 := 422

def grpMgmt : UInt64 := 0x7

def tlvCmd (grpId : UInt64) : UInt64 := (grpId <<< 12) ||| 0x1

/-- The seventh after `WMI_BCN_TX_CMDID`. -/
def mgmtTxSendCmdId : UInt64 := tlvCmd grpMgmt + 7

def roundup (value unit : Nat) : Nat := (value + (unit - 1)) / unit * unit

def htcAllocSkb (contents : Nat → UInt8) (size : Nat) : Option ByteBuffer :=
  (ByteBuffer.allocate contents (size + htcHdrSize)).reserve htcHdrSize

def wmiAllocSkb (contents : Nat → UInt8) (len : Nat) : Option ByteBuffer := do
  let roundLen := roundup len 4
  let skb ← htcAllocSkb contents (skbHeadroom + roundLen)
  let skb ← skb.reserve skbHeadroom
  let skb ← skb.put roundLen
  skb.store 0 (List.replicate roundLen 0)

def ceSend (_bytes : List UInt8) : Int := 0

def htcInfo (payloadLen : Nat) : UInt32 :=
  (fieldPrep 7 0 0 ||| fieldPrep 31 16 payloadLen.toUInt64).toUInt32

/-- What a send leaves: the buffer, the bytes that the copy engine got and the return
value. -/
structure Sent where
  skb : ByteBuffer
  handed : List (List UInt8)
  ret : Int

def htcSend (order : ByteOrder) (skb : ByteBuffer) (mapped : Bool) : Option Sent := do
  let skb ← skb.push htcHdrSize
  let skb ← skb.store 0 (List.replicate htcHdrSize 0)
  let skb ← skb.store 0 (wordBytes order (htcInfo (skb.length - htcHdrSize)))
  let skb ← skb.store 4 (wordBytes order 0)
  if mapped then
    let ret := ceSend skb.bytes
    if ret ≠ 0 then
      let pulled ← skb.pull htcHdrSize
      return ⟨pulled, [skb.bytes], ret⟩
    else return ⟨skb, [skb.bytes], ret⟩
  else
    let pulled ← skb.pull htcHdrSize
    return ⟨pulled, [], -eio⟩

def cmdSendNowait (order : ByteOrder) (skb : ByteBuffer) (cmdId : UInt64)
    (mapped : Bool) : Option Sent := do
  let skb ← skb.push cmdHdrSize
  let skb ← skb.store 0 (wordBytes order (fieldPrep 23 0 cmdId).toUInt32)
  let sent ← htcSend order skb mapped
  if sent.ret ≠ 0 then
    let pulled ← sent.skb.pull cmdHdrSize
    return { sent with skb := pulled }
  else return sent

/-- One evaluation of the condition of `wait_event_timeout`. -/
structure Attempt where
  mapped : Bool
  crashFlush : Bool
  deriving DecidableEq, Repr

def eshutdown : Int := 108

def Attempt.send (order : ByteOrder) (skb : ByteBuffer) (cmdId : UInt64)
    (attempt : Attempt) : Option Sent := do
  let sent ← cmdSendNowait order skb cmdId attempt.mapped
  if sent.ret ≠ 0 ∧ attempt.crashFlush then return { sent with ret := -eshutdown }
  else return sent

/-- The condition is evaluated again, as often as the time allows, while the copy engine
has no room. -/
def cmdSend (order : ByteOrder) (skb : ByteBuffer) (cmdId : UInt64) (attempt : Attempt) :
    List Attempt → Option (List (List UInt8) × Int)
  | [] => do
      let sent ← attempt.send order skb cmdId
      return (sent.handed, sent.ret)
  | next :: later => do
      let sent ← attempt.send order skb cmdId
      if sent.ret ≠ -enobufs then return (sent.handed, sent.ret)
      else
        let (handed, ret) ← cmdSend order sent.skb cmdId next later
        return (sent.handed ++ handed, ret)

def tlvHeader (tag : UInt64) (len : Nat) : UInt32 :=
  (fieldPrep 31 16 tag ||| fieldPrep 15 0 len.toUInt64).toUInt32

def MgmtFrame.bufLen (frame : MgmtFrame) : Nat :=
  if frame.data.length < mgmtSendDownldLen then frame.data.length else mgmtSendDownldLen

def MgmtFrame.cmdWords (frame : MgmtFrame) (vifId bufId : UInt32) (paddr : UInt64) :
    List UInt32 :=
  [tlvHeader tagMgmtTxSendCmd (mgmtSendCmdSize - tlvHdrSize), vifId, bufId, 0,
    (paddr &&& 0xffffffff).toUInt32, ((paddr >>> 16) >>> 16).toUInt32,
    frame.data.length.toUInt32, frame.bufLen.toUInt32, 0]

/-- `wireless_simu_wmi_mgmt_send`. `memory` is what the allocator returns: nothing, or
memory with any contents. -/
def mgmtSend (order : ByteOrder) (memory : Option (Nat → UInt8)) (vifId bufId : UInt32)
    (paddr : UInt64) (frame : MgmtFrame) (attempt : Attempt) (later : List Attempt) :
    Option (List (List UInt8) × Int) :=
  match memory with
  | none => some ([], -enomem)
  | some contents => do
      let len := mgmtSendCmdSize + tlvHdrSize + roundup frame.bufLen 4
      let skb ← wmiAllocSkb contents len
      let skb ← skb.store 0 (wordsBytes order (frame.cmdWords vifId bufId paddr))
      let skb ← skb.store mgmtSendCmdSize
        (wordBytes order (tlvHeader tagArrayByte frame.bufLen))
      let skb ← skb.store (mgmtSendCmdSize + tlvHdrSize)
        (frame.data.take frame.bufLen)
      cmdSend order skb mgmtTxSendCmdId attempt later

/-! How the receiver reads a message. -/

structure MgmtSendCmd where
  vdevId : UInt32
  descId : UInt32
  chanfreq : UInt32
  paddrLo : UInt32
  paddrHi : UInt32
  frameLen : UInt32
  bufLen : UInt32
  txParamsValid : UInt32
  deriving DecidableEq, Repr

def MgmtSendCmd.paddr (command : MgmtSendCmd) : UInt64 :=
  (command.paddrHi.toUInt64 <<< 32) ||| command.paddrLo.toUInt64

structure MgmtMessage where
  payloadLen : Nat
  cmdId : Nat
  command : MgmtSendCmd
  frame : List UInt8
  padding : List UInt8
  deriving DecidableEq, Repr

/-- The tag and the value of the first TLV, and what is behind it. -/
def readTlv (order : ByteOrder) (bytes : List UInt8) :
    Option (Nat × List UInt8 × List UInt8) := do
  let (header, rest) ← readWord order bytes
  let len := header.toNat % 2 ^ 16
  if len ≤ rest.length then
    return (header.toNat / 2 ^ 16, rest.take len, rest.drop len)
  else none

def readMgmtSendCmd (order : ByteOrder) (value : List UInt8) : Option MgmtSendCmd :=
  match readWords order 8 value with
  | some ([vdevId, descId, chanfreq, paddrLo, paddrHi, frameLen, bufLen, txParamsValid],
      []) =>
      some ⟨vdevId, descId, chanfreq, paddrLo, paddrHi, frameLen, bufLen, txParamsValid⟩
  | _ => none

def readMgmtMessage (order : ByteOrder) (bytes : List UInt8) : Option MgmtMessage := do
  let (info, rest) ← readWord order bytes
  let (_, payload) ← readWord order rest
  if info.toNat / 2 ^ 16 ≠ payload.length then none
  else
    let (cmdHdr, tlvs) ← readWord order payload
    let (cmdTag, value, tlvs) ← readTlv order tlvs
    if cmdTag ≠ tagMgmtTxSendCmd.toNat then none
    else
      let command ← readMgmtSendCmd order value
      let (frameTag, frame, padding) ← readTlv order tlvs
      if frameTag ≠ tagArrayByte.toNat then none
      else
        return ⟨info.toNat / 2 ^ 16, cmdHdr.toNat % 2 ^ 24, command, frame, padding⟩

section Sending

variable {order : ByteOrder} {skb : ByteBuffer} {after : Nat} {bytes : List UInt8}

def htcMessage (order : ByteOrder) (bytes : List UInt8) : List UInt8 :=
  wordBytes order (htcInfo bytes.length) ++ wordBytes order 0 ++ bytes

/-- The header that `htc_send` puts in front of the bytes. -/
def htcPushHdr (order : ByteOrder) (skb : ByteBuffer) : Option ByteBuffer := do
  let skb ← skb.push htcHdrSize
  let skb ← skb.store 0 (List.replicate htcHdrSize 0)
  let skb ← skb.store 0 (wordBytes order (htcInfo (skb.length - htcHdrSize)))
  skb.store 4 (wordBytes order 0)

theorem htcPushHdr_shape {before : Nat}
    (shape : skb.Shape (before + htcHdrSize) after bytes) :
    ∃ headed pulled, htcPushHdr order skb = some headed ∧
      headed.Shape before after (htcMessage order bytes) ∧
      headed.pull htcHdrSize = some pulled ∧
      pulled.Shape (before + htcHdrSize) after bytes := by
  obtain ⟨pushed, front, push, size, first⟩ := shape.push
  have opened : pushed.Shape before after ([] ++ front ++ bytes) := first
  obtain ⟨cleared, clear, second⟩ :=
    opened.store 0 (List.replicate htcHdrSize 0) rfl (by simp [size])
  have zeros : cleared.Shape before after
      ([] ++ List.replicate 4 0 ++ (List.replicate 4 0 ++ bytes)) := second
  have len : cleared.length - htcHdrSize = bytes.length := by
    rw [zeros.length_eq]
    simp [htcHdrSize]
  obtain ⟨informed, info, third⟩ :=
    zeros.store 0 (wordBytes order (htcInfo bytes.length)) rfl (by simp)
  have behind : informed.Shape before after
      (wordBytes order (htcInfo bytes.length) ++ List.replicate 4 0 ++ bytes) := by
    simpa using third
  obtain ⟨headed, control, message⟩ :=
    behind.store 4 (wordBytes order 0) (by simp) (by simp)
  have parts : headed.Shape before after
      ((wordBytes order (htcInfo bytes.length) ++ wordBytes order 0) ++ bytes) := message
  obtain ⟨pulled, pull, back⟩ := parts.pull
  refine ⟨headed, pulled, ?_, message, ?_, ?_⟩
  · simp only [htcPushHdr, push, clear, len, info, control, Option.bind_eq_bind,
      Option.bind_some]
  · rw [← pull]
    simp [htcHdrSize]
  · simpa [htcHdrSize] using back

theorem htcSend_eq (mapped : Bool) :
    htcSend order skb mapped = (htcPushHdr order skb).bind fun headed =>
      if mapped then some ⟨headed, [headed.bytes], 0⟩
      else (headed.pull htcHdrSize).bind fun pulled => some ⟨pulled, [], -eio⟩ := by
  cases mapped with
  | true => simp [htcSend, htcPushHdr, ceSend, Option.bind_assoc]
  | false => simp [htcSend, htcPushHdr, Option.bind_assoc]

theorem htcSend_shape (shape : skb.Shape htcHdrSize after bytes) (mapped : Bool) :
    ∃ sent, htcSend order skb mapped = some sent ∧
      (mapped = true → sent.handed = [htcMessage order bytes] ∧ sent.ret = 0) ∧
      (mapped = false → sent.handed = [] ∧ sent.ret = -eio ∧
        sent.skb.Shape htcHdrSize after bytes) := by
  have room : skb.Shape (0 + htcHdrSize) after bytes := by
    rw [zero_add]
    exact shape
  obtain ⟨headed, pulled, push, message, pull, back⟩ := @htcPushHdr_shape order _ _ _ _ room
  rw [htcSend_eq, push, Option.bind_some]
  cases mapped with
  | true =>
      refine ⟨_, rfl, fun _ => ⟨?_, rfl⟩, by simp⟩
      rw [message.bytes_eq]
  | false =>
      rw [zero_add] at back
      rw [if_neg Bool.false_ne_true, pull]
      exact ⟨_, rfl, by simp, fun _ => ⟨rfl, rfl, back⟩⟩

def wmiMessage (order : ByteOrder) (cmdId : UInt64) (bytes : List UInt8) : List UInt8 :=
  htcMessage order (wordBytes order (fieldPrep 23 0 cmdId).toUInt32 ++ bytes)

theorem cmdSendNowait_shape (shape : skb.Shape (htcHdrSize + cmdHdrSize) after bytes)
    (cmdId : UInt64) (mapped : Bool) :
    ∃ sent, cmdSendNowait order skb cmdId mapped = some sent ∧
      (mapped = true → sent.handed = [wmiMessage order cmdId bytes] ∧ sent.ret = 0) ∧
      (mapped = false → sent.handed = [] ∧ sent.ret = -eio ∧
        sent.skb.Shape (htcHdrSize + cmdHdrSize) after bytes) := by
  obtain ⟨pushed, front, push, size, first⟩ := shape.push
  have opened : pushed.Shape htcHdrSize after ([] ++ front ++ bytes) := first
  obtain ⟨headed, header, second⟩ :=
    opened.store 0 (wordBytes order (fieldPrep 23 0 cmdId).toUInt32) rfl (by
      rw [size]
      exact length_wordBytes ..)
  obtain ⟨sent, send, taken, refused⟩ := @htcSend_shape order _ _ _ second mapped
  unfold cmdSendNowait
  simp only [push, header, send, Option.bind_eq_bind, Option.bind_some, Option.pure_def]
  cases mapped with
  | true =>
      obtain ⟨handed, done⟩ := taken rfl
      rw [if_neg (by simp [done])]
      exact ⟨sent, rfl, fun _ => ⟨handed, done⟩, by simp⟩
  | false =>
      obtain ⟨handed, failed, again⟩ := refused rfl
      obtain ⟨pulled, pull, back⟩ := again.pull
      have pullHdr : sent.skb.pull cmdHdrSize = some pulled := by
        rw [← pull]
        simp [cmdHdrSize]
      rw [if_pos (by simp [failed, eio]), pullHdr]
      refine ⟨_, rfl, by simp, fun _ => ⟨handed, failed, ?_⟩⟩
      simpa [cmdHdrSize] using back

/-- No attempt is repeated: the copy engine always has room, and a failed mapping is an
error of its own. -/
theorem cmdSend_shape (shape : skb.Shape (htcHdrSize + cmdHdrSize) after bytes)
    (cmdId : UInt64) (attempt : Attempt) (later : List Attempt) :
    ∃ ret, cmdSend order skb cmdId attempt later =
        some (if attempt.mapped then [wmiMessage order cmdId bytes] else [], ret) ∧
      (attempt.mapped = true → ret = 0) := by
  obtain ⟨sent, send, taken, refused⟩ :=
    @cmdSendNowait_shape order _ _ _ shape cmdId attempt.mapped
  have final : ∃ last, attempt.send order skb cmdId = some last ∧
      last.handed = (if attempt.mapped then [wmiMessage order cmdId bytes] else []) ∧
      last.ret ≠ -enobufs ∧ (attempt.mapped = true → last.ret = 0) := by
    unfold Attempt.send
    simp only [send, Option.bind_eq_bind, Option.bind_some, Option.pure_def]
    cases mapped : attempt.mapped with
    | true =>
        obtain ⟨handed, done⟩ := taken mapped
        rw [if_neg (by simp [done])]
        exact ⟨sent, rfl, handed, by simp [done, enobufs], fun _ => done⟩
    | false =>
        obtain ⟨handed, failed, -⟩ := refused mapped
        split
        · exact ⟨_, rfl, handed, by simp [eshutdown, enobufs], by simp⟩
        · exact ⟨sent, rfl, handed, by simp [failed, eio, enobufs], by simp⟩
  obtain ⟨last, tried, handed, other, done⟩ := final
  refine ⟨last.ret, ?_, done⟩
  cases later with
  | nil => simp [cmdSend, tried, handed]
  | cons next later => simp [cmdSend, tried, handed, other]

def mgmtCommand (order : ByteOrder) (vifId bufId : UInt32) (paddr : UInt64)
    (frame : MgmtFrame) : List UInt8 :=
  wordsBytes order (frame.cmdWords vifId bufId paddr) ++
    (wordBytes order (tlvHeader tagArrayByte frame.bufLen) ++
      (frame.data.take frame.bufLen ++
        List.replicate (roundup frame.bufLen 4 - frame.bufLen) 0))

theorem MgmtFrame.bufLen_eq (frame : MgmtFrame) :
    frame.bufLen = min frame.data.length mgmtSendDownldLen := by
  unfold MgmtFrame.bufLen
  split <;> omega

theorem roundup_four (value : Nat) :
    value ≤ roundup value 4 ∧ roundup value 4 < value + 4 ∧ roundup value 4 % 4 = 0 := by
  unfold roundup
  omega

theorem wmiAllocSkb_shape (contents : Nat → UInt8) {len : Nat} (whole : len % 4 = 0) :
    ∃ skb, wmiAllocSkb contents len = some skb ∧
      skb.Shape (htcHdrSize + cmdHdrSize) 0 (List.replicate len 0) := by
  have same : roundup len 4 = len := by
    unfold roundup
    omega
  have fresh : (ByteBuffer.allocate contents (skbHeadroom + len + htcHdrSize)).Shape 0
      (htcHdrSize + (skbHeadroom + (len + 0))) [] := by
    have size : htcHdrSize + (skbHeadroom + (len + 0)) = skbHeadroom + len + htcHdrSize := by
      omega
    rw [size]
    exact .allocate contents _
  obtain ⟨first, reserveHtc, second⟩ := fresh.reserve
  obtain ⟨third, reserveWmi, fourth⟩ := second.reserve
  obtain ⟨filled, behind, put, size, fifth⟩ := fourth.put
  have opened : filled.Shape (htcHdrSize + cmdHdrSize) 0 ([] ++ behind ++ []) := by
    simpa [skbHeadroom] using fifth
  obtain ⟨cleared, clear, shape⟩ :=
    opened.store 0 (List.replicate len 0) rfl (by simp [size])
  refine ⟨cleared, ?_, by simpa using shape⟩
  unfold wmiAllocSkb htcAllocSkb
  simp only [same, reserveHtc, reserveWmi, put, clear, Option.bind_eq_bind,
    Option.bind_some]

/-- The command as `wireless_simu_wmi_mgmt_send` writes it into a new buffer. -/
def mgmtSendSkb (order : ByteOrder) (contents : Nat → UInt8) (vifId bufId : UInt32)
    (paddr : UInt64) (frame : MgmtFrame) : Option ByteBuffer := do
  let len := mgmtSendCmdSize + tlvHdrSize + roundup frame.bufLen 4
  let skb ← wmiAllocSkb contents len
  let skb ← skb.store 0 (wordsBytes order (frame.cmdWords vifId bufId paddr))
  let skb ← skb.store mgmtSendCmdSize
    (wordBytes order (tlvHeader tagArrayByte frame.bufLen))
  skb.store (mgmtSendCmdSize + tlvHdrSize) (frame.data.take frame.bufLen)

/-- All stores fall into the zeros that the allocation put there. -/
theorem mgmtSendSkb_shape (order : ByteOrder) (contents : Nat → UInt8)
    (vifId bufId : UInt32) (paddr : UInt64) (frame : MgmtFrame) :
    ∃ skb, mgmtSendSkb order contents vifId bufId paddr frame = some skb ∧
      skb.Shape (htcHdrSize + cmdHdrSize) 0
        (mgmtCommand order vifId bufId paddr frame) := by
  obtain ⟨room, -, aligned⟩ := roundup_four frame.bufLen
  have short : (frame.data.take frame.bufLen).length = frame.bufLen := by
    rw [List.length_take, frame.bufLen_eq]
    omega
  obtain ⟨skb, allocated, shape⟩ := wmiAllocSkb_shape contents
    (show (mgmtSendCmdSize + tlvHdrSize + roundup frame.bufLen 4) % 4 = 0 by
      simp only [mgmtSendCmdSize, tlvHdrSize]
      omega)
  have zeros : skb.Shape (htcHdrSize + cmdHdrSize) 0
      ([] ++ List.replicate mgmtSendCmdSize 0 ++
        List.replicate (tlvHdrSize + roundup frame.bufLen 4) 0) := by
    rw [List.nil_append, List.replicate_append_replicate, ← Nat.add_assoc]
    exact shape
  obtain ⟨first, storeCmd, second⟩ := zeros.store 0
    (wordsBytes order (frame.cmdWords vifId bufId paddr)) rfl (by
      simp [MgmtFrame.cmdWords, mgmtSendCmdSize])
  have behind : first.Shape (htcHdrSize + cmdHdrSize) 0
      (wordsBytes order (frame.cmdWords vifId bufId paddr) ++
        List.replicate tlvHdrSize 0 ++ List.replicate (roundup frame.bufLen 4) 0) := by
    rw [List.append_assoc, List.replicate_append_replicate]
    rwa [List.nil_append] at second
  obtain ⟨third, storeTlv, fourth⟩ := behind.store mgmtSendCmdSize
    (wordBytes order (tlvHeader tagArrayByte frame.bufLen))
    (by simp [MgmtFrame.cmdWords, mgmtSendCmdSize]) (by simp [tlvHdrSize])
  have last : third.Shape (htcHdrSize + cmdHdrSize) 0
      ((wordsBytes order (frame.cmdWords vifId bufId paddr) ++
          wordBytes order (tlvHeader tagArrayByte frame.bufLen)) ++
        List.replicate frame.bufLen 0 ++
        List.replicate (roundup frame.bufLen 4 - frame.bufLen) 0) := by
    rw [List.append_assoc _ (List.replicate _ _), List.replicate_append_replicate,
      Nat.add_sub_cancel' room]
    exact fourth
  obtain ⟨filled, storeFrame, full⟩ := last.store (mgmtSendCmdSize + tlvHdrSize)
    (frame.data.take frame.bufLen)
    (by simp [MgmtFrame.cmdWords, mgmtSendCmdSize, tlvHdrSize])
    (by rw [short, List.length_replicate])
  have command : filled.Shape (htcHdrSize + cmdHdrSize) 0
      (mgmtCommand order vifId bufId paddr frame) := by
    simpa only [mgmtCommand, List.append_assoc] using full
  refine ⟨filled, ?_, command⟩
  simp only [mgmtSendSkb, allocated, storeCmd, storeTlv, storeFrame, Option.bind_eq_bind,
    Option.bind_some]

theorem mgmtSend_some (order : ByteOrder) (contents : Nat → UInt8) (vifId bufId : UInt32)
    (paddr : UInt64) (frame : MgmtFrame) (attempt : Attempt) (later : List Attempt) :
    mgmtSend order (some contents) vifId bufId paddr frame attempt later =
      (mgmtSendSkb order contents vifId bufId paddr frame).bind fun skb =>
        cmdSend order skb mgmtTxSendCmdId attempt later := by
  simp only [mgmtSend, mgmtSendSkb, Option.bind_eq_bind, Option.bind_assoc]

theorem mgmtSend_eq (order : ByteOrder) (contents : Nat → UInt8) (vifId bufId : UInt32)
    (paddr : UInt64) (frame : MgmtFrame) (attempt : Attempt) (later : List Attempt) :
    ∃ ret, mgmtSend order (some contents) vifId bufId paddr frame attempt later =
        some (if attempt.mapped then
          [wmiMessage order mgmtTxSendCmdId (mgmtCommand order vifId bufId paddr frame)]
          else [], ret) ∧
      (attempt.mapped = true → ret = 0) := by
  obtain ⟨skb, built, command⟩ := mgmtSendSkb_shape order contents vifId bufId paddr frame
  rw [mgmtSend_some, built, Option.bind_some]
  exact cmdSend_shape command mgmtTxSendCmdId attempt later

end Sending

section Reading

variable {order : ByteOrder}

theorem toNat_toUInt64 {value : Nat} (small : value < 2 ^ 16) :
    value.toUInt64.toNat = value := by
  simp only [Nat.toUInt64_eq, UInt64.toNat_ofNat']
  omega

theorem tlvHeader_toNat {tag : UInt64} {len : Nat} (smallTag : tag.toNat < 2 ^ 16)
    (smallLen : len < 2 ^ 16) :
    (tlvHeader tag len).toNat = tag.toNat * 2 ^ 16 + len := by
  have value := toNat_toUInt64 smallLen
  have high : (fieldPrep 31 16 tag).toNat = tag.toNat <<< 16 :=
    toNat_fieldPrep_of_lt (by decide) (by decide) smallTag
  have low : (fieldPrep 15 0 len.toUInt64).toNat = len := by
    rw [toNat_fieldPrep_of_lt (by decide) (by decide) (by rw [value]; exact smallLen), value]
    rfl
  rw [tlvHeader, UInt64.toNat_toUInt32, UInt64.toNat_or, high, low,
    ← Nat.shiftLeft_add_eq_or_of_lt smallLen, Nat.shiftLeft_eq]
  omega

theorem htcInfo_toNat {len : Nat} (small : len < 2 ^ 16) :
    (htcInfo len).toNat / 2 ^ 16 = len := by
  have value := toNat_toUInt64 small
  have endpoint : (fieldPrep 7 0 0).toNat = 0 := by decide
  have payload : (fieldPrep 31 16 len.toUInt64).toNat = len <<< 16 := by
    rw [toNat_fieldPrep_of_lt (by decide) (by decide) (by rw [value]; exact small), value]
    rfl
  rw [htcInfo, UInt64.toNat_toUInt32, UInt64.toNat_or, endpoint, Nat.zero_or, payload,
    Nat.shiftLeft_eq]
  omega

theorem readTlv_tlvHeader {tag : UInt64} (smallTag : tag.toNat < 2 ^ 16)
    {value : List UInt8} (smallLen : value.length < 2 ^ 16) (rest : List UInt8) :
    readTlv order (wordBytes order (tlvHeader tag value.length) ++ (value ++ rest)) =
      some (tag.toNat, value, rest) := by
  have header := tlvHeader_toNat smallTag smallLen
  have len : (tag.toNat * 2 ^ 16 + value.length) % 2 ^ 16 = value.length := by omega
  have name : (tag.toNat * 2 ^ 16 + value.length) / 2 ^ 16 = tag.toNat := by omega
  simp only [readTlv, readWord_wordBytes, header, len, name, Option.bind_eq_bind,
    Option.bind_some, List.length_append, Nat.le_add_right, if_true, List.take_left,
    List.drop_left, Option.pure_def]

/-- What the receiver finds in a message for the frame. -/
def mgmtMessage (vifId bufId : UInt32) (paddr : UInt64) (frame : MgmtFrame) :
    MgmtMessage where
  payloadLen := cmdHdrSize + mgmtSendCmdSize + tlvHdrSize + roundup frame.bufLen 4
  cmdId := mgmtTxSendCmdId.toNat
  command := ⟨vifId, bufId, 0, (paddr &&& 0xffffffff).toUInt32,
    ((paddr >>> 16) >>> 16).toUInt32, frame.data.length.toUInt32, frame.bufLen.toUInt32, 0⟩
  frame := frame.data.take frame.bufLen
  padding := List.replicate (roundup frame.bufLen 4 - frame.bufLen) 0

theorem length_mgmtCommand (vifId bufId : UInt32) (paddr : UInt64) (frame : MgmtFrame) :
    (mgmtCommand order vifId bufId paddr frame).length =
      mgmtSendCmdSize + tlvHdrSize + roundup frame.bufLen 4 := by
  have room := (roundup_four frame.bufLen).1
  have short := frame.bufLen_eq
  simp only [mgmtCommand, List.length_append, length_wordsBytes, MgmtFrame.cmdWords,
    List.length_cons, List.length_nil, length_wordBytes, List.length_take,
    List.length_replicate, mgmtSendCmdSize, tlvHdrSize]
  omega

theorem readMgmtSendCmd_eq (vifId bufId : UInt32) (paddr : UInt64) (frame : MgmtFrame) :
    readMgmtSendCmd order
        (wordsBytes order (frame.cmdWords vifId bufId paddr).tail) =
      some (mgmtMessage vifId bufId paddr frame).command := by
  have words := readWords_wordsBytes order (frame.cmdWords vifId bufId paddr).tail []
  rw [List.append_nil] at words
  have eight : (frame.cmdWords vifId bufId paddr).tail.length = 8 := rfl
  rw [eight] at words
  rw [readMgmtSendCmd, words]
  rfl

theorem paddr_join (paddr : UInt64) :
    (((paddr >>> 16) >>> 16).toUInt32.toUInt64 <<< 32) |||
      (paddr &&& 0xffffffff).toUInt32.toUInt64 = paddr := by
  have small := paddr.toNat_lt
  have low : (paddr &&& 0xffffffff).toUInt32.toUInt64.toNat = paddr.toNat % 2 ^ 32 := by
    have mask : (0xffffffff : UInt64).toNat = 2 ^ 32 - 1 := rfl
    rw [UInt32.toNat_toUInt64, UInt64.toNat_toUInt32, UInt64.toNat_and, mask,
      Nat.and_two_pow_sub_one_eq_mod]
    omega
  have high : ((paddr >>> 16) >>> 16).toUInt32.toUInt64.toNat = paddr.toNat / 2 ^ 32 := by
    simp only [UInt32.toNat_toUInt64, UInt64.toNat_toUInt32, UInt64.toNat_shiftRight,
      UInt64.reduceToNat, Nat.reduceMod, Nat.shiftRight_eq_div_pow]
    omega
  apply UInt64.toNat_inj.mp
  have shifted : (((paddr >>> 16) >>> 16).toUInt32.toUInt64 <<< 32).toNat =
      (paddr.toNat / 2 ^ 32) <<< 32 := by
    rw [UInt64.toNat_shiftLeft, high]
    simp only [UInt64.reduceToNat, Nat.reduceMod, Nat.shiftLeft_eq]
    omega
  rw [UInt64.toNat_or, shifted, low,
    ← Nat.shiftLeft_add_eq_or_of_lt (Nat.mod_lt _ (by decide)), Nat.shiftLeft_eq]
  omega

theorem readMgmtMessage_eq (vifId bufId : UInt32) (paddr : UInt64) (frame : MgmtFrame) :
    readMgmtMessage order
        (wmiMessage order mgmtTxSendCmdId (mgmtCommand order vifId bufId paddr frame)) =
      some (mgmtMessage vifId bufId paddr frame) := by
  have short : (frame.data.take frame.bufLen).length = frame.bufLen := by
    rw [List.length_take, frame.bufLen_eq]
    omega
  have bound : frame.bufLen ≤ 64 := by
    rw [frame.bufLen_eq]
    exact Nat.min_le_right _ _
  have room := roundup_four frame.bufLen
  have payload : (wordBytes order (fieldPrep 23 0 mgmtTxSendCmdId).toUInt32 ++
      mgmtCommand order vifId bufId paddr frame).length =
      cmdHdrSize + mgmtSendCmdSize + tlvHdrSize + roundup frame.bufLen 4 := by
    rw [List.length_append, length_wordBytes, length_mgmtCommand, cmdHdrSize]
    omega
  have fits : cmdHdrSize + mgmtSendCmdSize + tlvHdrSize + roundup frame.bufLen 4 <
      2 ^ 16 := by
    simp only [cmdHdrSize, mgmtSendCmdSize, tlvHdrSize]
    omega
  have info := htcInfo_toNat fits
  have cmdHdr : (fieldPrep 23 0 mgmtTxSendCmdId).toUInt32.toNat % 2 ^ 24 =
      mgmtTxSendCmdId.toNat := by decide
  -- the first word of the command is the header of its TLV
  have value : (wordsBytes order (frame.cmdWords vifId bufId paddr).tail).length =
      mgmtSendCmdSize - tlvHdrSize := by
    rw [length_wordsBytes]
    rfl
  have first : readTlv order (mgmtCommand order vifId bufId paddr frame) =
      some (tagMgmtTxSendCmd.toNat,
        wordsBytes order (frame.cmdWords vifId bufId paddr).tail,
        wordBytes order (tlvHeader tagArrayByte frame.bufLen) ++
          (frame.data.take frame.bufLen ++
            List.replicate (roundup frame.bufLen 4 - frame.bufLen) 0)) := by
    have read := @readTlv_tlvHeader order tagMgmtTxSendCmd (by decide)
      (wordsBytes order (frame.cmdWords vifId bufId paddr).tail)
      (by rw [value]; decide)
      (wordBytes order (tlvHeader tagArrayByte frame.bufLen) ++
        (frame.data.take frame.bufLen ++
          List.replicate (roundup frame.bufLen 4 - frame.bufLen) 0))
    rw [value, ← List.append_assoc] at read
    exact read
  have second := @readTlv_tlvHeader order tagArrayByte (by decide)
    (frame.data.take frame.bufLen) (by omega)
    (List.replicate (roundup frame.bufLen 4 - frame.bufLen) 0)
  rw [short] at second
  simp only [readMgmtMessage, wmiMessage, htcMessage, payload, List.append_assoc,
    readWord_wordBytes, first, second, readMgmtSendCmd_eq, info, cmdHdr,
    Option.bind_eq_bind, Option.bind_some, ne_eq, not_true_eq_false, if_false,
    Option.pure_def]
  rfl

/-- The bytes read back completely as the command for the frame. -/
structure ReadsBack (order : ByteOrder) (bytes : List UInt8) (vifId bufId : UInt32)
    (paddr : UInt64) (frame : MgmtFrame) (message : MgmtMessage) : Prop where
  read : readMgmtMessage order bytes = some message
  aligned : bytes.length % 4 = 0
  payloadLen : htcHdrSize + message.payloadLen = bytes.length
  cmdId : message.cmdId = mgmtTxSendCmdId.toNat
  vdevId : message.command.vdevId = vifId
  descId : message.command.descId = bufId
  paddr : message.command.paddr = paddr
  frameLen : message.command.frameLen.toNat = frame.data.length
  bufLen : message.command.bufLen.toNat = min frame.data.length 64
  frame : message.frame = frame.data.take (min frame.data.length 64)
  padding : ∃ count < 4, message.padding = List.replicate count 0

theorem mgmtMessage_readsBack (vifId bufId : UInt32) (paddr : UInt64)
    (frame : MgmtFrame) :
    ReadsBack order
      (wmiMessage order mgmtTxSendCmdId (mgmtCommand order vifId bufId paddr frame))
      vifId bufId paddr frame (mgmtMessage vifId bufId paddr frame) := by
  have room := roundup_four frame.bufLen
  have short := frame.bufLen_eq
  have fits := frame.fits
  have length : (wmiMessage order mgmtTxSendCmdId
      (mgmtCommand order vifId bufId paddr frame)).length =
      htcHdrSize + (mgmtMessage vifId bufId paddr frame).payloadLen := by
    simp only [wmiMessage, htcMessage, List.length_append, length_wordBytes,
      length_mgmtCommand, mgmtMessage, htcHdrSize, cmdHdrSize]
    omega
  refine ⟨readMgmtMessage_eq vifId bufId paddr frame, ?_, length.symm, rfl, rfl, rfl,
    paddr_join paddr, ?_, ?_, ?_, _, ?_, rfl⟩
  · rw [length]
    simp only [mgmtMessage, htcHdrSize, cmdHdrSize, mgmtSendCmdSize, tlvHdrSize]
    omega
  · simp only [mgmtMessage, Nat.toUInt32_eq, UInt32.toNat_ofNat']
    omega
  · simp only [mgmtMessage, Nat.toUInt32_eq, UInt32.toNat_ofNat']
    simp only [mgmtSendDownldLen] at short
    omega
  · simp only [mgmtMessage, short, mgmtSendDownldLen]
  · omega

/-- For every frame, interface, id and address, and whatever the allocator and the
mapping do, no access leaves the buffer, and what the copy engine gets reads back as the
command for the frame. -/
theorem mgmt_send_round_trip (order : ByteOrder) (memory : Option (Nat → UInt8))
    (vifId bufId : UInt32) (paddr : UInt64) (frame : MgmtFrame) (attempt : Attempt)
    (later : List Attempt) :
    ∃ handed ret,
      mgmtSend order memory vifId bufId paddr frame attempt later = some (handed, ret) ∧
      (∀ bytes ∈ handed, ∃ message,
        ReadsBack order bytes vifId bufId paddr frame message) ∧
      (memory.isSome → attempt.mapped → handed.length = 1 ∧ ret = 0) := by
  cases memory with
  | none => exact ⟨[], -enomem, rfl, by simp, by simp⟩
  | some contents =>
      obtain ⟨ret, sent, done⟩ :=
        mgmtSend_eq order contents vifId bufId paddr frame attempt later
      refine ⟨_, ret, sent, ?_, ?_⟩
      · intro bytes member
        split at member
        · rw [List.mem_singleton.mp member]
          exact ⟨_, mgmtMessage_readsBack vifId bufId paddr frame⟩
        · cases member
      · intro _ mapped
        simp [mapped, done mapped]

example : (mgmtSend .little (some fun _ => 0xff) 1 3 0x123456789a ⟨[0x50, 0, 1], by decide⟩
    ⟨true, false⟩ []).map (fun result => (result.1.map List.length, result.2)) =
      some ([56], 0) := by decide +kernel

end Reading

end WirelessSimu.Wmi
