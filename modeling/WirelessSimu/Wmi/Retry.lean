import WirelessSimu.Kernel.Buffer
import WirelessSimu.Wmi.MgmtSend

namespace WirelessSimu.Wmi

open Data Kernel

/-! The way of a command to a copy engine that may refuse it. The stub of the driver
takes everything, so that the wait loop never comes to a second attempt; here every
attempt gets its own answers. -/

/-- What one evaluation of the wait condition meets: the address that
`dma_map_single` returns, the result of `ce_send`, and the flag as it is tested. -/
structure Answers where
  paddr : UInt64
  ceRet : Int
  crashFlush : Bool
  deriving DecidableEq, Repr

def dmaMappingError : UInt64 := 0xffffffffffffffff

/-- The command buffer with the address in its control block, the live mappings and
what the copy engine took. -/
structure Sending where
  skb : ByteBuffer
  paddr : UInt64
  mappings : List Mapping
  submitted : List (List UInt8)

namespace Sending

def mapping (sending : Sending) : Mapping :=
  ⟨sending.paddr, sending.skb.length.toUInt32⟩

/-- Unmapping what is not mapped is as wrong as leaving the buffer. -/
def dmaUnmapSingle (sending : Sending) : Option Sending :=
  if sending.mapping ∈ sending.mappings then
    some { sending with mappings := sending.mappings.erase sending.mapping }
  else none

def skbPull (sending : Sending) (count : Nat) : Option Sending := do
  let skb ← sending.skb.pull count
  return { sending with skb := skb }

def htcSend (order : ByteOrder) (answers : Answers) (sending : Sending) :
    Option (Sending × Int) := do
  let skb ← htcPushHdr order sending.skb
  let sending := { sending with skb := skb, paddr := answers.paddr }
  if answers.paddr = dmaMappingError then
    let sending ← sending.skbPull htcHdrSize
    return (sending, -eio)
  else
    let sending := { sending with mappings := sending.mapping :: sending.mappings }
    if answers.ceRet ≠ 0 then
      let sending ← sending.dmaUnmapSingle
      let sending ← sending.skbPull htcHdrSize
      return (sending, answers.ceRet)
    else
      return ({ sending with submitted := sending.submitted ++ [sending.skb.bytes] },
        answers.ceRet)

def cmdSendNowait (order : ByteOrder) (cmdId : UInt64) (answers : Answers)
    (sending : Sending) : Option (Sending × Int) := do
  let skb ← sending.skb.push cmdHdrSize
  let skb ← skb.store 0 (wordBytes order (fieldPrep 23 0 cmdId).toUInt32)
  let (sending, ret) ← { sending with skb := skb, paddr := 0 }.htcSend order answers
  if ret ≠ 0 then
    let sending ← sending.skbPull cmdHdrSize
    return (sending, ret)
  else return (sending, 0)

/-- The condition of `wait_event_timeout`. -/
def evaluate (order : ByteOrder) (cmdId : UInt64) (answers : Answers)
    (sending : Sending) : Option (Sending × Int) := do
  let (sending, ret) ← sending.cmdSendNowait order cmdId answers
  if ret ≠ 0 ∧ answers.crashFlush then return (sending, -eshutdown)
  else return (sending, ret)

structure Evaluation where
  answers : Answers
  before : Sending
  after : Sending
  ret : Int

/-- The evaluations of the condition, what they leave and the return value. -/
structure Waited where
  evaluations : List Evaluation
  final : Sending
  ret : Int

/-- As many evaluations as the time allows are at most made. -/
def cmdSend (order : ByteOrder) (cmdId : UInt64) (sending : Sending)
    (answers : Answers) : List Answers → Option Waited
  | [] => do
      let (next, ret) ← sending.evaluate order cmdId answers
      return ⟨[⟨answers, sending, next, ret⟩], next, ret⟩
  | following :: later => do
      let (next, ret) ← sending.evaluate order cmdId answers
      let evaluation : Evaluation := ⟨answers, sending, next, ret⟩
      if ret ≠ -enobufs then return ⟨[evaluation], next, ret⟩
      else
        let waited ← next.cmdSend order cmdId following later
        return { waited with evaluations := evaluation :: waited.evaluations }

end Sending

/-- The copy engine takes the command: it could be mapped and `ce_send` returned 0. -/
def Answers.Accept (answers : Answers) : Prop :=
  answers.paddr ≠ dmaMappingError ∧ answers.ceRet = 0

/-- The copy engine has no room: the one answer on which the condition is evaluated
again. -/
def Answers.Busy (answers : Answers) : Prop :=
  answers.paddr ≠ dmaMappingError ∧ answers.ceRet = -enobufs ∧ answers.crashFlush = false

/-- One of the answers is that the copy engine takes the command, and until then it has
no room. -/
def Taken (answers : Answers) (later : List Answers) : Prop :=
  ∃ busy accepting rest, answers :: later = busy ++ accepting :: rest ∧
    (∀ refusing ∈ busy, refusing.Busy) ∧ accepting.Accept

theorem taken_nil {answers : Answers} : Taken answers [] ↔ answers.Accept := by
  constructor
  · rintro ⟨busy, accepting, rest, same, _, accept⟩
    cases busy with
    | nil =>
        cases same
        exact accept
    | cons first busy => simp at same
  · intro accept
    exact ⟨[], answers, [], rfl, by simp, accept⟩

theorem taken_cons {answers following : Answers} {later : List Answers} :
    Taken answers (following :: later) ↔
      answers.Accept ∨ answers.Busy ∧ Taken following later := by
  constructor
  · rintro ⟨busy, accepting, rest, same, refused, accept⟩
    cases busy with
    | nil =>
        cases same
        exact .inl accept
    | cons first busy =>
        obtain ⟨rfl, tail⟩ := List.cons.inj same
        exact .inr ⟨refused _ List.mem_cons_self, busy, accepting, rest, tail,
          fun refusing member => refused refusing (List.mem_cons_of_mem _ member), accept⟩
  · rintro (accept | ⟨first, busy, accepting, rest, same, refused, accept⟩)
    · exact ⟨[], answers, _, rfl, by simp, accept⟩
    · refine ⟨answers :: busy, accepting, rest, by rw [same]; rfl, ?_, accept⟩
      intro refusing member
      rcases List.mem_cons.mp member with rfl | member
      · exact first
      · exact refused refusing member

namespace Sending

/-- What one layer leaves of a buffer with `bytes` in it, of which it makes
`message`. -/
structure Outcome (answers : Answers) (room after : Nat) (bytes message : List UInt8)
    (sending : Sending) (result : Sending × Int) : Prop where
  accepted : answers.Accept → result.2 = 0 ∧
    result.1.mappings = ⟨answers.paddr, message.length.toUInt32⟩ :: sending.mappings ∧
    result.1.submitted = sending.submitted ++ [message]
  refused : ¬ answers.Accept → result.2 ≠ 0 ∧
    result.1.skb.Shape room after bytes ∧
    result.1.mappings = sending.mappings ∧
    result.1.submitted = sending.submitted

variable {order : ByteOrder} {sending : Sending} {room after : Nat} {bytes : List UInt8}

/-- Header and mapping are taken back in the reverse order. -/
theorem htcSend_outcome (shape : sending.skb.Shape (room + htcHdrSize) after bytes)
    (answers : Answers) :
    ∃ result, sending.htcSend order answers = some result ∧
      Outcome answers (room + htcHdrSize) after bytes (htcMessage order bytes) sending
        result := by
  obtain ⟨headed, pulled, push, message, pull, back⟩ :=
    @htcPushHdr_shape order _ _ _ _ shape
  unfold htcSend
  simp only [push, Option.bind_eq_bind, Option.bind_some, Option.pure_def]
  by_cases error : answers.paddr = dmaMappingError
  · rw [if_pos error, skbPull, pull]
    have failed : -eio ≠ 0 := by decide
    refine ⟨_, rfl, ?_, ?_⟩
    · intro accept
      exact absurd error accept.1
    · intro _
      exact ⟨failed, back, rfl, rfl⟩
  · rw [if_neg error]
    by_cases taken : answers.ceRet = 0
    · rw [if_neg (not_not.mpr taken)]
      refine ⟨_, rfl, ?_, ?_⟩
      · intro _
        refine ⟨taken, ?_, ?_⟩
        · simp only [mapping, message.length_eq]
        · simp only [message.bytes_eq]
      · intro refuse
        exact absurd ⟨error, taken⟩ refuse
    · rw [if_pos taken]
      simp only [dmaUnmapSingle, mapping, List.mem_cons_self, if_true,
        List.erase_cons_head, Option.bind_some, skbPull, pull]
      refine ⟨_, rfl, ?_, ?_⟩
      · intro accept
        exact absurd accept.2 taken
      · intro _
        exact ⟨taken, back, rfl, rfl⟩

theorem cmdSendNowait_outcome
    (shape : sending.skb.Shape (room + htcHdrSize + cmdHdrSize) after bytes)
    (cmdId : UInt64) (answers : Answers) :
    ∃ result, sending.cmdSendNowait order cmdId answers = some result ∧
      Outcome answers (room + htcHdrSize + cmdHdrSize) after bytes
        (wmiMessage order cmdId bytes) sending result := by
  obtain ⟨pushed, front, push, size, first⟩ := shape.push
  have opened : pushed.Shape (room + htcHdrSize) after ([] ++ front ++ bytes) := first
  obtain ⟨headed, header, second⟩ :=
    opened.store 0 (wordBytes order (fieldPrep 23 0 cmdId).toUInt32) rfl (by
      rw [size]
      exact length_wordBytes ..)
  obtain ⟨⟨next, ret⟩, send, outcome⟩ := @htcSend_outcome order
    { sending with skb := headed, paddr := 0 } _ _ _ second answers
  unfold cmdSendNowait
  simp only [push, header, send, Option.bind_eq_bind, Option.bind_some, Option.pure_def]
  by_cases accept : answers.Accept
  · obtain ⟨done, mapped, submitted⟩ := outcome.accepted accept
    rw [if_neg (not_not.mpr done)]
    exact ⟨_, rfl, fun _ => ⟨rfl, mapped, submitted⟩, fun refuse => absurd accept refuse⟩
  · obtain ⟨failed, again, unmapped, submitted⟩ := outcome.refused accept
    obtain ⟨pulled, pull, back⟩ := again.pull
    have pullHdr : next.skb.pull cmdHdrSize = some pulled := by
      rw [← pull]
      simp [cmdHdrSize]
    rw [if_pos failed, skbPull, pullHdr]
    refine ⟨_, rfl, fun accepted => absurd accepted accept, fun _ => ⟨failed, ?_, ?_⟩⟩
    · simpa [cmdHdrSize] using back
    · exact ⟨unmapped, submitted⟩

theorem evaluate_outcome
    (shape : sending.skb.Shape (room + htcHdrSize + cmdHdrSize) after bytes)
    (cmdId : UInt64) (answers : Answers) :
    ∃ result, sending.evaluate order cmdId answers = some result ∧
      Outcome answers (room + htcHdrSize + cmdHdrSize) after bytes
        (wmiMessage order cmdId bytes) sending result := by
  obtain ⟨⟨next, ret⟩, send, outcome⟩ :=
    @cmdSendNowait_outcome order sending _ _ _ shape cmdId answers
  unfold evaluate
  simp only [send, Option.bind_eq_bind, Option.bind_some, Option.pure_def]
  by_cases flushed : ret ≠ 0 ∧ answers.crashFlush
  · rw [if_pos flushed]
    have failed : -eshutdown ≠ 0 := by decide
    refine ⟨_, rfl, ?_, ?_⟩
    · intro accept
      exact absurd (outcome.accepted accept).1 flushed.1
    · intro refuse
      obtain ⟨_, kept⟩ := outcome.refused refuse
      exact ⟨failed, kept⟩
  · rw [if_neg flushed]
    exact ⟨_, rfl, outcome⟩

/-- An attempt that left the command as it found it. -/
structure Restored (before after : Sending) : Prop where
  start : after.skb.start = before.skb.start
  length : after.skb.length = before.skb.length
  bytes : after.skb.bytes = before.skb.bytes
  mappings : after.mappings = before.mappings
  submitted : after.submitted = before.submitted

/-- What the evaluations of the condition come to. -/
structure Retried (message : List UInt8) (sending : Sending) (waited : Waited) : Prop where
  restored : ∀ evaluation ∈ waited.evaluations, evaluation.ret ≠ 0 →
    Restored evaluation.before evaluation.after
  accepted : ∀ evaluation ∈ waited.evaluations, evaluation.ret = 0 →
    evaluation.answers.Accept ∧
      evaluation.after.submitted = evaluation.before.submitted ++ [message]
  submitted : waited.final.submitted =
    sending.submitted ++ if waited.ret = 0 then [message] else []

theorem Outcome.restored {answers : Answers} {message : List UInt8} {next : Sending}
    {ret : Int} (shape : sending.skb.Shape room after bytes)
    (outcome : Outcome answers room after bytes message sending (next, ret))
    (refuse : ¬ answers.Accept) : Restored sending next := by
  obtain ⟨_, back, mappings, submitted⟩ := outcome.refused refuse
  exact
    { start := by rw [back.start_eq, shape.start_eq]
      length := by rw [back.length_eq, shape.length_eq]
      bytes := by rw [back.bytes_eq, shape.bytes_eq]
      mappings := mappings
      submitted := submitted }

/-- The last evaluation. -/
theorem Outcome.retried {answers : Answers} {message : List UInt8} {next : Sending}
    {ret : Int} (shape : sending.skb.Shape room after bytes)
    (outcome : Outcome answers room after bytes message sending (next, ret)) :
    Retried message sending ⟨[⟨answers, sending, next, ret⟩], next, ret⟩ := by
  by_cases accept : answers.Accept
  · obtain ⟨done, _, submitted⟩ := outcome.accepted accept
    simp only at done submitted
    refine ⟨?_, ?_, ?_⟩
    · intro evaluation member failed
      rw [List.mem_singleton.mp member] at failed
      exact absurd done failed
    · intro evaluation member _
      rw [List.mem_singleton.mp member]
      exact ⟨accept, submitted⟩
    · simp only [done, if_true, submitted]
  · obtain ⟨failed, _, _, submitted⟩ := outcome.refused accept
    simp only at failed submitted
    refine ⟨?_, ?_, ?_⟩
    · intro evaluation member _
      rw [List.mem_singleton.mp member]
      exact outcome.restored shape accept
    · intro evaluation member done
      rw [List.mem_singleton.mp member] at done
      exact absurd done failed
    · simp only [failed, if_false, submitted, List.append_nil]

/-- A refused evaluation before the others. -/
theorem Retried.cons {message : List UInt8} {evaluation : Evaluation} {waited : Waited}
    (later : Retried message evaluation.after waited) (failed : evaluation.ret ≠ 0)
    (restored : Restored evaluation.before evaluation.after) :
    Retried message evaluation.before
      { waited with evaluations := evaluation :: waited.evaluations } := by
  refine ⟨?_, ?_, ?_⟩
  · intro other member
    rcases List.mem_cons.mp member with rfl | member
    · exact fun _ => restored
    · exact later.restored other member
  · intro other member done
    rcases List.mem_cons.mp member with rfl | member
    · exact absurd done failed
    · exact later.accepted other member done
  · rw [later.submitted, restored.submitted]

/-- By induction on the attempts still allowed: a refused attempt leaves a buffer of
the same shape for the next one. -/
theorem cmdSend_retried {answers : Answers} {later : List Answers} (cmdId : UInt64)
    (shape : sending.skb.Shape (room + htcHdrSize + cmdHdrSize) after bytes) :
    ∃ waited, sending.cmdSend order cmdId answers later = some waited ∧
      Retried (wmiMessage order cmdId bytes) sending waited := by
  induction later generalizing sending answers with
  | nil =>
      obtain ⟨⟨next, ret⟩, send, outcome⟩ :=
        @evaluate_outcome order sending _ _ _ shape cmdId answers
      refine ⟨_, ?_, outcome.retried shape⟩
      simp [cmdSend, send]
  | cons following later ih =>
      obtain ⟨⟨next, ret⟩, send, outcome⟩ :=
        @evaluate_outcome order sending _ _ _ shape cmdId answers
      by_cases busy : ret = -enobufs
      · have failed : ret ≠ 0 := by
          rw [busy]
          decide
        have refuse : ¬ answers.Accept := fun accept =>
          failed (outcome.accepted accept).1
        obtain ⟨waited, rest, retried⟩ :=
          @ih next following (outcome.refused refuse).2.1
        have whole := @Retried.cons _ ⟨answers, sending, next, ret⟩ _ retried failed
          (outcome.restored shape refuse)
        refine ⟨_, ?_, whole⟩
        simp [cmdSend, send, busy, rest]
      · refine ⟨_, ?_, outcome.retried shape⟩
        simp [cmdSend, send, busy]

/-- Whatever the mapping and the copy engine answer and whenever the flag changes, an
attempt that fails leaves no trace, and one that succeeds submits what it would have
submitted as the first. -/
theorem cmd_send_retries_idempotent (order : ByteOrder) (cmdId : UInt64)
    (sending : Sending) (answers : Answers) (later : List Answers)
    (inside : sending.skb.start + sending.skb.length ≤ sending.skb.memory.length)
    (headroom : htcHdrSize + cmdHdrSize ≤ sending.skb.start) :
    ∃ waited, sending.cmdSend order cmdId answers later = some waited ∧
      (∀ evaluation ∈ waited.evaluations, evaluation.ret ≠ 0 →
        Restored evaluation.before evaluation.after) ∧
      (∀ evaluation ∈ waited.evaluations, evaluation.ret = 0 →
        evaluation.after.submitted = evaluation.before.submitted ++
          [wmiMessage order cmdId sending.skb.bytes] ∧
        ∃ first, sending.evaluate order cmdId evaluation.answers = some (first, 0) ∧
          first.submitted = sending.submitted ++
            [wmiMessage order cmdId sending.skb.bytes]) ∧
      waited.final.submitted = sending.submitted ++
        if waited.ret = 0 then [wmiMessage order cmdId sending.skb.bytes] else [] := by
  obtain ⟨room, roomEq⟩ := Nat.exists_eq_add_of_le' headroom
  have shape := ByteBuffer.Shape.of_inside inside
  rw [roomEq, ← Nat.add_assoc] at shape
  obtain ⟨waited, result, retried⟩ :=
    @cmdSend_retried order sending _ _ _ answers later cmdId shape
  refine ⟨waited, result, retried.restored, ?_, retried.submitted⟩
  intro evaluation member done
  obtain ⟨accept, submitted⟩ := retried.accepted evaluation member done
  obtain ⟨⟨first, ret⟩, send, outcome⟩ :=
    @evaluate_outcome order sending _ _ _ shape cmdId evaluation.answers
  obtain ⟨taken, _, same⟩ := outcome.accepted accept
  simp only at taken same
  rw [taken] at send
  exact ⟨submitted, first, send, same⟩

/-- A command of four bytes with the headroom that `wmi_alloc_skb` reserves. -/
def fourBytes : Sending where
  skb := ⟨List.replicate 12 0 ++ [1, 2, 3, 4], 12, 4⟩
  paddr := 0
  mappings := []
  submitted := []

theorem cmd_send_retries_idempotent_thrice :
    ∃ waited, fourBytes.cmdSend .little 7 ⟨64, -enobufs, false⟩
        [⟨128, -enobufs, false⟩, ⟨192, 0, true⟩, ⟨256, 0, false⟩] = some waited ∧
      waited.evaluations.map Evaluation.ret = [-enobufs, -enobufs, 0] ∧
      waited.final.submitted = [wmiMessage .little 7 [1, 2, 3, 4]] := by
  obtain ⟨waited, result, -, -, submitted⟩ := cmd_send_retries_idempotent .little 7
    fourBytes ⟨64, -enobufs, false⟩
    [⟨128, -enobufs, false⟩, ⟨192, 0, true⟩, ⟨256, 0, false⟩] (by decide) (by decide)
  have returned : (fourBytes.cmdSend .little 7 ⟨64, -enobufs, false⟩
      [⟨128, -enobufs, false⟩, ⟨192, 0, true⟩, ⟨256, 0, false⟩]).map
      (fun waited => (waited.evaluations.map Evaluation.ret, waited.ret)) =
        some ([-enobufs, -enobufs, 0], 0) := by decide +kernel
  rw [result, Option.map_some, Option.some_inj, Prod.mk.injEq] at returned
  rw [returned.2] at submitted
  exact ⟨waited, result, returned.1, submitted⟩

/-! What the wait returns. -/

theorem Outcome.ret_eq_zero {answers : Answers} {message : List UInt8} {next : Sending}
    {ret : Int} (outcome : Outcome answers room after bytes message sending (next, ret)) :
    ret = 0 ↔ answers.Accept := by
  constructor
  · intro done
    by_contra refuse
    exact (outcome.refused refuse).1 done
  · intro accept
    exact (outcome.accepted accept).1

theorem Outcome.unmapped {answers : Answers} {message : List UInt8} {next : Sending}
    {ret : Int} (outcome : Outcome answers room after bytes message sending (next, ret))
    (failed : ret ≠ 0) : next.mappings = sending.mappings :=
  (outcome.refused (mt outcome.ret_eq_zero.mpr failed)).2.2.1

theorem htcSend_ret {answers : Answers} {next : Sending} {ret : Int}
    (sent : sending.htcSend order answers = some (next, ret)) :
    ret = if answers.paddr = dmaMappingError then -eio else answers.ceRet := by
  unfold htcSend at sent
  obtain ⟨headed, _, sent⟩ := Option.bind_eq_some_iff.mp sent
  split at sent
  next error =>
      obtain ⟨_, _, sent⟩ := Option.bind_eq_some_iff.mp sent
      cases sent
      rw [if_pos error]
  next valid =>
      rw [if_neg valid]
      split at sent
      next refused =>
          obtain ⟨_, _, sent⟩ := Option.bind_eq_some_iff.mp sent
          obtain ⟨_, _, sent⟩ := Option.bind_eq_some_iff.mp sent
          cases sent
          rfl
      next taken =>
          cases sent
          rfl

theorem cmdSendNowait_ret {cmdId : UInt64} {answers : Answers} {next : Sending} {ret : Int}
    (sent : sending.cmdSendNowait order cmdId answers = some (next, ret)) :
    ret = if answers.paddr = dmaMappingError then -eio else answers.ceRet := by
  unfold cmdSendNowait at sent
  obtain ⟨_, _, sent⟩ := Option.bind_eq_some_iff.mp sent
  obtain ⟨_, _, sent⟩ := Option.bind_eq_some_iff.mp sent
  obtain ⟨⟨below, code⟩, send, sent⟩ := Option.bind_eq_some_iff.mp sent
  rw [← htcSend_ret send]
  simp only at sent
  split at sent
  next failed =>
      obtain ⟨_, _, sent⟩ := Option.bind_eq_some_iff.mp sent
      cases sent
      rfl
  next done =>
      cases sent
      exact (not_not.mp done).symm

/-- Another evaluation follows exactly if the copy engine had no room. -/
theorem evaluate_ret {cmdId : UInt64} {answers : Answers} {next : Sending} {ret : Int}
    (sent : sending.evaluate order cmdId answers = some (next, ret)) :
    ret = -enobufs ↔ answers.Busy := by
  unfold evaluate at sent
  obtain ⟨⟨below, code⟩, send, sent⟩ := Option.bind_eq_some_iff.mp sent
  have returned := cmdSendNowait_ret send
  simp only at sent
  split at sent
  next flushed =>
      cases sent
      refine iff_of_false (by decide) ?_
      rintro ⟨_, _, unflushed⟩
      rw [unflushed] at flushed
      cases flushed.2
  next kept =>
      cases sent
      rw [returned] at kept ⊢
      split
      next error => exact iff_of_false (by decide) fun busy => busy.1 error
      next valid =>
          rw [if_neg valid] at kept
          constructor
          · intro full
            refine ⟨valid, full, ?_⟩
            rw [← Bool.not_eq_true]
            intro crash
            exact kept ⟨by rw [full]; decide, crash⟩
          · exact fun busy => busy.2.1

/-- What is left of the wait: after a refusal no mapping. -/
theorem cmdSend_settles {answers : Answers} {later : List Answers} (cmdId : UInt64)
    (shape : sending.skb.Shape (room + htcHdrSize + cmdHdrSize) after bytes) :
    ∃ waited, sending.cmdSend order cmdId answers later = some waited ∧
      (waited.ret = 0 ↔ Taken answers later) ∧
      (waited.ret ≠ 0 → waited.final.mappings = sending.mappings) := by
  induction later generalizing sending answers with
  | nil =>
      obtain ⟨⟨next, ret⟩, send, outcome⟩ :=
        @evaluate_outcome order sending _ _ _ shape cmdId answers
      refine ⟨⟨[⟨answers, sending, next, ret⟩], next, ret⟩, by simp [cmdSend, send], ?_,
        outcome.unmapped⟩
      rw [taken_nil]
      exact outcome.ret_eq_zero
  | cons following later ih =>
      obtain ⟨⟨next, ret⟩, send, outcome⟩ :=
        @evaluate_outcome order sending _ _ _ shape cmdId answers
      by_cases busy : ret = -enobufs
      · have refuse : ¬ answers.Accept := by
          rw [← outcome.ret_eq_zero, busy]
          decide
        obtain ⟨_, back, mappings, _⟩ := outcome.refused refuse
        obtain ⟨waited, rest, taken, unmapped⟩ := @ih next following back
        refine ⟨_, by simp [cmdSend, send, busy, rest]; rfl, ?_, ?_⟩
        · rw [taken_cons, or_iff_right refuse, and_iff_right ((evaluate_ret send).mp busy)]
          exact taken
        · intro failed
          exact (unmapped failed).trans mappings
      · refine ⟨⟨[⟨answers, sending, next, ret⟩], next, ret⟩, by simp [cmdSend, send, busy],
          ?_, outcome.unmapped⟩
        rw [taken_cons, or_iff_left (fun both => busy ((evaluate_ret send).mpr both.1))]
        exact outcome.ret_eq_zero

/-! The copy engine of the driver is the one that takes everything. -/

def stubAnswers (address : UInt64) (attempt : Attempt) : Answers :=
  ⟨if attempt.mapped then address else dmaMappingError, 0, attempt.crashFlush⟩

def afterStub (sending : Sending) (address : UInt64) (attempt : Attempt)
    (sent : Wmi.Sent) : Sending where
  skb := sent.skb
  paddr := (stubAnswers address attempt).paddr
  mappings :=
    if attempt.mapped then ⟨address, sent.skb.length.toUInt32⟩ :: sending.mappings
    else sending.mappings
  submitted := sending.submitted ++ sent.handed

section Stub

variable {address : UInt64} (valid : address ≠ dmaMappingError) (attempt : Attempt)

include valid

theorem htcSend_stub (sending : Sending) :
    sending.htcSend order (stubAnswers address attempt) =
      (Wmi.htcSend order sending.skb attempt.mapped).map fun sent =>
        (sending.afterStub address attempt sent, sent.ret) := by
  rw [htcSend_eq, htcSend]
  cases htcPushHdr order sending.skb with
  | none => rfl
  | some headed =>
      cases mapped : attempt.mapped with
      | true => simp [stubAnswers, mapped, valid, afterStub, mapping]
      | false =>
          cases pulled : headed.pull htcHdrSize <;>
            simp [stubAnswers, mapped, afterStub, skbPull, pulled]

/-- A command that could be mapped is taken, so that only the other failure pulls. -/
theorem cmdSendNowait_stub (cmdId : UInt64) (sending : Sending) :
    sending.cmdSendNowait order cmdId (stubAnswers address attempt) =
      (Wmi.cmdSendNowait order sending.skb cmdId attempt.mapped).map fun sent =>
        (sending.afterStub address attempt sent, sent.ret) := by
  simp only [cmdSendNowait, Wmi.cmdSendNowait, htcSend_stub valid]
  cases sending.skb.push cmdHdrSize with
  | none => rfl
  | some pushed =>
      cases stored : pushed.store 0 (wordBytes order (fieldPrep 23 0 cmdId).toUInt32) with
      | none => simp [stored]
      | some headed =>
          simp only [Option.bind_eq_bind, Option.bind_some, stored]
          cases mapped : attempt.mapped with
          | true =>
              rw [htcSend_eq]
              cases htcPushHdr order headed <;> simp [afterStub, mapped]
          | false =>
              cases Wmi.htcSend order headed false with
              | none => rfl
              | some sent =>
                  by_cases done : sent.ret = 0
                  · simp [done, afterStub, mapped]
                  · cases pulled : sent.skb.pull cmdHdrSize <;>
                      simp [done, afterStub, mapped, skbPull, pulled]

theorem evaluate_stub (cmdId : UInt64) (sending : Sending) :
    sending.evaluate order cmdId (stubAnswers address attempt) =
      (attempt.send order sending.skb cmdId).map fun sent =>
        (sending.afterStub address attempt sent, sent.ret) := by
  simp only [evaluate, Attempt.send, cmdSendNowait_stub valid]
  cases Wmi.cmdSendNowait order sending.skb cmdId attempt.mapped with
  | none => rfl
  | some sent =>
      by_cases flushed : sent.ret ≠ 0 ∧ attempt.crashFlush
      · simp [stubAnswers, flushed, afterStub]
      · simp [stubAnswers, flushed]

theorem cmdSend_stub (cmdId : UInt64) (sending : Sending) (later : List Attempt) :
    (sending.cmdSend order cmdId (stubAnswers address attempt)
        (later.map (stubAnswers address))).map
        (fun waited => (waited.final.submitted, waited.ret)) =
      (Wmi.cmdSend order sending.skb cmdId attempt later).map fun sent =>
        (sending.submitted ++ sent.1, sent.2) := by
  induction later generalizing sending attempt with
  | nil =>
      simp only [cmdSend, Wmi.cmdSend, List.map_nil, evaluate_stub valid]
      cases attempt.send order sending.skb cmdId <;> simp [afterStub]
  | cons following later ih =>
      simp only [cmdSend, Wmi.cmdSend, List.map_cons, evaluate_stub valid]
      cases attempt.send order sending.skb cmdId with
      | none => rfl
      | some sent =>
          by_cases busy : sent.ret = -enobufs
          · have rest := ih following (sending.afterStub address attempt sent)
            simp only [Option.map_some, Option.bind_eq_bind, Option.bind_some, busy,
              ne_eq, not_true_eq_false, if_false, Option.pure_def]
            simpa [Option.map_eq_bind, Function.comp_def, Option.bind_assoc, afterStub]
              using rest
          · simp [busy, afterStub]

end Stub

end Sending

end WirelessSimu.Wmi
