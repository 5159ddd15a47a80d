import WirelessSimu.Mac.Commands
import WirelessSimu.Mac.Interface

namespace WirelessSimu

open Data Kernel

/-! The transmit path and the interface callbacks at the same time. The work item holds
`mac_conf_mutex` while it is in `wireless_simu_mgmt_tx_wmi`. -/

def MgmtWorker.inWmi : MgmtWorker → Bool
  | .alloc _ | .map _ _ | .send _ _ | .unmap _ _ | .freeIdr _ => true
  | _ => false

def Mac.Event.isWorker : Mac.Event → Bool
  | .work | .idrAlloc _ | .dmaMap _ | .wmiSend _ => true
  | _ => false

def MacConf.Callback.isWork : MacConf.Callback → Bool
  | .mgmtTxWork _ => true
  | _ => false

/-- `removed` are the interfaces whose `remove_interface` returned, until they are added
again with success. -/
structure MacDevice where
  mac : Mac
  conf : MacConf
  workHolds : Bool
  removed : Nat → Bool

/-- The use of the private data of an interface for a command: `removed` tells that the
interface was gone by then. -/
structure VifUse where
  skb : Nat
  vif : Nat
  vifId : Nat
  removed : Bool
  deriving DecidableEq, Repr

namespace MacDevice

inductive Event where
  | mac (event : Mac.Event)
  | workLock
  | callback (callback : MacConf.Callback)
  deriving DecidableEq, Repr

def start : MacDevice := ⟨.start, .start, false, fun _ => false⟩

def workUnlock (device : MacDevice) : MacDevice :=
  if device.workHolds ∧ device.mac.worker = .dequeue then
    { device with conf := device.conf.mutexUnlock, workHolds := false }
  else device

def removedBy (removed : Nat → Bool) (ret : Int) : MacConf.Callback → Nat → Bool
  | .addInterface vif _ => if ret = 0 then Function.update removed vif false else removed
  | .removeInterface vif => Function.update removed vif true
  | _ => removed

def step (callers : Nat) (device : MacDevice) : Event → Option MacDevice
  | .mac event =>
      if event.isWorker ∧ device.mac.worker.inWmi ∧ device.workHolds = false then none
      else
        (device.mac.step callers event).map fun mac =>
          { device with mac := mac }.workUnlock
  | .workLock =>
      if device.mac.worker.inWmi ∧ device.workHolds = false then
        device.conf.mutexLock.map fun conf =>
          { device with conf := conf, workHolds := true }
      else none
  | .callback callback =>
      if callback.isWork then none
      else
        (device.conf.call callback).map fun result =>
          { device with
            conf := result.1
            removed := removedBy device.removed result.2 callback }

/-- `simu_vif->vif_id` for the frame, which still points to its interface. -/
def vifUse (device : MacDevice) : MgmtWorker → List VifUse
  | .send skb _ =>
      (device.mac.cb skb).vif.toList.map fun vif =>
        ⟨skb, vif, (device.conf.vifs vif).drvPriv.vifId, device.removed vif⟩
  | _ => []

def uses (device : MacDevice) : Event → List VifUse
  | .mac (.wmiSend _) => device.vifUse device.mac.worker
  | _ => []

end MacDevice

/-- The frame is with a call, in the queue or with the work item. -/
def Mac.Holds (callers : Nat) (mac : Mac) (skb : Nat) : Prop :=
  (∃ caller < callers, skb ∈ (mac.calls caller).frames) ∨ skb ∈ mac.mgmtTxQueue ∨
    skb ∈ mac.worker.taken

namespace MacDevice

/-- No frame of the interface is under way when it is removed, and none arrives for it
later. -/
def Drained (callers : Nat) (device : MacDevice) : Event → Prop
  | .mac (.tx _ frame _) => ∀ vif ∈ frame.vif, device.removed vif = false
  | .callback (.removeInterface vif) =>
      ∀ skb < device.mac.buffers.allocated, device.mac.Holds callers skb →
        (device.mac.cb skb).vif ≠ some vif
  | _ => True

instance (callers : Nat) (mac : Mac) (skb : Nat) : Decidable (mac.Holds callers skb) :=
  inferInstanceAs (Decidable ((∃ caller < callers, skb ∈ (mac.calls caller).frames) ∨
    skb ∈ mac.mgmtTxQueue ∨ skb ∈ mac.worker.taken))

instance (callers : Nat) : ∀ device event, Decidable (Drained callers device event)
  | device, .mac (.tx _ frame _) =>
      inferInstanceAs (Decidable (∀ vif ∈ frame.vif, device.removed vif = false))
  | device, .callback (.removeInterface vif) =>
      inferInstanceAs (Decidable (∀ skb < device.mac.buffers.allocated,
        device.mac.Holds callers skb → (device.mac.cb skb).vif ≠ some vif))
  | _, .mac (.call _) => isTrue trivial
  | _, .mac .work => isTrue trivial
  | _, .mac (.idrAlloc _) => isTrue trivial
  | _, .mac (.dmaMap _) => isTrue trivial
  | _, .mac (.wmiSend _) => isTrue trivial
  | _, .workLock => isTrue trivial
  | _, .callback .start => isTrue trivial
  | _, .callback .stop => isTrue trivial
  | _, .callback (.addInterface _ _) => isTrue trivial
  | _, .callback (.configureFilter _) => isTrue trivial
  | _, .callback (.confTx _ _ _) => isTrue trivial
  | _, .callback (.mgmtTxWork _) => isTrue trivial

/-- A frame that is under way is not one of a removed interface. -/
structure Parted (callers : Nat) (device : MacDevice) : Prop where
  accounted : ∃ lost, device.mac.Accounted callers lost
  parted : ∀ skb, device.mac.Holds callers skb →
    ∀ vif ∈ (device.mac.cb skb).vif, device.removed vif = false

end MacDevice

section Steps

variable {callers : Nat} {mac next : Mac} {event : Mac.Event} {lost : Multiset Nat}

theorem Mac.Accounted.registered_lt (accounted : mac.Accounted callers lost)
    {skb bufId : Nat} (inRange : bufId < txMgmtNumPendingMax)
    (entry : mac.txmgmtIdr bufId = some skb) : skb < mac.buffers.allocated := by
  obtain ⟨rest, parts, -⟩ := @Mac.registered_change mac
    { mac with txmgmtIdr := Function.update mac.txmgmtIdr bufId none } bufId inRange none rfl
  have total := accounted.total
  rw [parts, entry] at total
  rw [← Multiset.mem_range, ← total]
  simp

theorem Mac.Accounted.taken_lt (accounted : mac.Accounted callers lost) {skb : Nat}
    (taken : skb ∈ mac.worker.taken) : skb < mac.buffers.allocated := by
  have workerAt := accounted.workerAt
  unfold Mac.WorkerAt at workerAt
  cases worker : mac.worker with
  | drop own | alloc own =>
      rw [worker] at taken
      rw [← Multiset.mem_range, ← accounted.total, worker]
      simp [List.mem_singleton.mp taken, MgmtWorker.frames]
  | map own bufId | send own bufId | unmap own bufId =>
      rw [worker] at taken workerAt
      rw [List.mem_singleton.mp taken]
      exact accounted.registered_lt workerAt.1 workerAt.2
  | _ => simp [worker, MgmtWorker.taken] at taken

theorem Mac.Accounted.holds_lt (accounted : mac.Accounted callers lost) {skb : Nat}
    (holds : mac.Holds callers skb) : skb < mac.buffers.allocated := by
  rcases holds with ⟨caller, inRange, holds⟩ | queued | taken
  · exact accounted.call_lt_allocated inRange holds
  · rw [← Multiset.mem_range, ← accounted.total]
    simp [queued]
  · exact accounted.taken_lt taken

/-- The control block of a frame does not change. -/
theorem Mac.Step.cb_eq (stepped : Mac.Step callers mac event next) {skb : Nat}
    (old : skb < mac.buffers.allocated) : next.cb skb = mac.cb skb := by
  cases stepped with
  | txIgnored => exact Function.update_of_ne (Nat.ne_of_lt old) _ _
  | txMgmt => exact Function.update_of_ne (Nat.ne_of_lt old) _ _
  | _ => rfl

theorem Mac.Holds.of_call {caller skb : Nat} {call : TxCall}
    (holds : next.Holds callers skb)
    (calls : next.calls = Function.update mac.calls caller call)
    (frames : ∀ held ∈ call.frames, mac.Holds callers held)
    (queue : ∀ held ∈ next.mgmtTxQueue, mac.Holds callers held)
    (worker : next.worker = mac.worker) : mac.Holds callers skb := by
  rcases holds with ⟨other, inRange, holds⟩ | queued | taken
  · rw [calls] at holds
    by_cases same : other = caller
    · subst same
      rw [Function.update_self] at holds
      exact frames skb holds
    · rw [Function.update_of_ne same] at holds
      exact .inl ⟨other, inRange, holds⟩
  · exact queue skb queued
  · rw [worker] at taken
    exact .inr (.inr taken)

theorem Mac.Holds.of_work {skb : Nat} (holds : next.Holds callers skb)
    (calls : next.calls = mac.calls)
    (frames : next.worker.taken ++ next.mgmtTxQueue ⊆
      mac.worker.taken ++ mac.mgmtTxQueue) : mac.Holds callers skb := by
  have inside : skb ∈ next.worker.taken ++ next.mgmtTxQueue → mac.Holds callers skb := by
    intro member
    rcases List.mem_append.mp (frames member) with taken | queued
    · exact .inr (.inr taken)
    · exact .inr (.inl queued)
  rcases holds with ⟨caller, inRange, holds⟩ | queued | taken
  · rw [calls] at holds
    exact .inl ⟨caller, inRange, holds⟩
  · exact inside (List.mem_append_right _ queued)
  · exact inside (List.mem_append_left _ taken)

/-- A step other than a new frame puts no frame under way. -/
theorem Mac.Step.holds_of (stepped : Mac.Step callers mac event next)
    (noTx : event.isTx = false) {skb : Nat} (holds : next.Holds callers skb) :
    mac.Holds callers skb := by
  have queue : ∀ held ∈ mac.mgmtTxQueue, mac.Holds callers held :=
    fun held member => .inr (.inl member)
  have own : ∀ {caller : Nat} {before after : TxCall}, caller < callers →
      mac.calls caller = before → after.frames = before.frames →
      ∀ held ∈ after.frames, mac.Holds callers held := by
    rintro caller before after inRange rfl same held member
    rw [same] at member
    exact .inl ⟨caller, inRange, member⟩
  cases stepped with
  | txIgnored => cases noTx
  | txMgmt => cases noTx
  | prbRspRead inRange reading =>
      refine holds.of_call rfl ?_ queue rfl
      split <;> exact own inRange reading rfl
  | queueFull inRange reading full =>
      exact holds.of_call rfl (own inRange reading rfl) queue rfl
  | queueOpen inRange reading room =>
      exact holds.of_call rfl (own inRange reading rfl) queue rfl
  | @queueTail caller skb inRange queueing =>
      refine holds.of_call rfl (by simp [TxCall.frames]) ?_ rfl
      intro held member
      rcases List.mem_append.mp member with old | new
      · exact queue held old
      · rw [List.mem_singleton.mp new]
        refine .inl ⟨caller, inRange, ?_⟩
        rw [queueing]
        exact Multiset.mem_singleton_self skb
  | countUp inRange queued =>
      exact holds.of_call rfl (by simp [TxCall.frames]) queue rfl
  | refused inRange refused =>
      exact holds.of_call rfl (by simp [TxCall.frames]) queue rfl
  | workStart idle pending =>
      exact holds.of_work rfl (List.subset_append_right _ _)
  | workEnd looping empty =>
      exact holds.of_work rfl (List.subset_append_right _ _)
  | dequeueLost looping first noVif =>
      refine holds.of_work rfl ?_
      rw [first]
      exact List.subset_append_right _ _
  | dequeue looping first hasVif =>
      refine holds.of_work rfl ?_
      rw [first]
      exact List.subset_append_right _ _
  | drop dropping => exact holds.of_work rfl (List.subset_append_right _ _)
  | dropped freed => exact holds.of_work rfl (List.subset_append_right _ _)
  | unmap failed => exact holds.of_work rfl (List.subset_append_right _ _)
  | freeIdr failed => exact holds.of_work rfl (List.subset_append_right _ _)
  | noId allocating => exact holds.of_work rfl (List.subset_append_right _ _)
  | id allocating inRange unused put =>
      refine holds.of_work rfl ?_
      rw [allocating]
      exact List.Subset.refl _
  | mapFailed mapping => exact holds.of_work rfl (List.subset_append_right _ _)
  | mapped mapping =>
      refine holds.of_work rfl ?_
      rw [mapping]
      exact List.Subset.refl _
  | @sent skb bufId ret sending =>
      refine holds.of_work rfl ?_
      rw [sending]
      simp only
      split
      · exact List.Subset.refl _
      · exact List.subset_append_right _ _

/-- A new frame is under way with its own interface. -/
theorem Mac.Step.holds_of_tx {caller : Nat} {frame : Frame} {new : SkBuff}
    (stepped : Mac.Step callers mac (.tx caller frame new) next) {skb : Nat}
    (holds : next.Holds callers skb) :
    mac.Holds callers skb ∨
      skb = mac.buffers.allocated ∧ (next.cb skb).vif = frame.vif := by
  cases stepped with
  | txIgnored => exact .inl holds
  | txMgmt inRange idle plain mgmt =>
      by_cases fresh : skb = mac.buffers.allocated
      · refine .inr ⟨fresh, ?_⟩
        rw [fresh]
        simp only [Mac.setCall, Mac.arrived, Function.update_self, Frame.skbCb_vif]
      · refine .inl ?_
        rcases holds with ⟨other, otherRange, holds⟩ | queued | taken
        · by_cases same : other = caller
          · simp only [Mac.setCall, same, Function.update_self] at holds
            refine absurd ?_ fresh
            split at holds <;> exact Multiset.mem_singleton.mp holds
          · simp only [Mac.setCall, Function.update_of_ne same] at holds
            exact .inl ⟨other, otherRange, holds⟩
        · exact .inr (.inl queued)
        · exact .inr (.inr taken)

end Steps

namespace MacDevice

variable {callers : Nat} {device next : MacDevice} {event : Event}

@[simp] theorem workUnlock_mac (device : MacDevice) :
    device.workUnlock.mac = device.mac := by
  unfold workUnlock
  split <;> rfl

@[simp] theorem workUnlock_removed (device : MacDevice) :
    device.workUnlock.removed = device.removed := by
  unfold workUnlock
  split <;> rfl

theorem Parted.mac (parted : device.Parted callers) {event : Mac.Event} {mac : Mac}
    (stepped : Mac.Step callers device.mac event mac)
    (drained : device.Drained callers (.mac event)) :
    Parted callers { device with mac := mac } := by
  obtain ⟨lost, accounted⟩ := parted.accounted
  obtain ⟨lost', after, -⟩ := stepped.accounted accounted
  have kept : ∀ skb, device.mac.Holds callers skb →
      ∀ vif ∈ (mac.cb skb).vif, device.removed vif = false := by
    intro skb before
    rw [stepped.cb_eq (accounted.holds_lt before)]
    exact parted.parted skb before
  refine ⟨⟨lost', after⟩, fun skb holds => ?_⟩
  cases event with
  | tx caller frame new =>
      rcases stepped.holds_of_tx holds with before | ⟨-, own⟩
      · exact kept skb before
      · intro vif member
        rw [own] at member
        exact drained vif member
  | _ => exact kept skb (stepped.holds_of rfl holds)

theorem Parted.callback (parted : device.Parted callers) {callback : MacConf.Callback}
    (drained : device.Drained callers (.callback callback)) (conf : MacConf) (ret : Int) :
    Parted callers
      { device with
        conf := conf
        removed := removedBy device.removed ret callback } := by
  obtain ⟨lost, accounted⟩ := parted.accounted
  refine ⟨parted.accounted, fun skb holds vif member => ?_⟩
  have before := parted.parted skb holds vif member
  cases callback with
  | addInterface added type =>
      simp only [removedBy]
      split
      · by_cases same : vif = added
        · rw [same, Function.update_self]
        · rw [Function.update_of_ne same]
          exact before
      · exact before
  | removeInterface gone =>
      have different : vif ≠ gone := by
        rintro rfl
        exact drained skb (accounted.holds_lt holds) holds member
      simp only [removedBy, Function.update_of_ne different]
      exact before
  | _ => exact before

theorem Parted.step (parted : device.Parted callers)
    (drained : device.Drained callers event)
    (stepped : device.step callers event = some next) : next.Parted callers := by
  cases event with
  | mac event =>
      simp only [MacDevice.step] at stepped
      split at stepped
      next => cases stepped
      next =>
          obtain ⟨mac, moved, rfl⟩ := Option.map_eq_some_iff.mp stepped
          have after := parted.mac (Mac.step_cases moved) drained
          refine ⟨?_, ?_⟩
          · rw [workUnlock_mac]
            exact after.accounted
          · rw [workUnlock_mac, workUnlock_removed]
            exact after.parted
  | workLock =>
      simp only [MacDevice.step] at stepped
      split at stepped
      next =>
          obtain ⟨conf, -, rfl⟩ := Option.map_eq_some_iff.mp stepped
          exact ⟨parted.accounted, parted.parted⟩
      next => cases stepped
  | callback callback =>
      simp only [MacDevice.step] at stepped
      split at stepped
      next => cases stepped
      next =>
          obtain ⟨result, -, rfl⟩ := Option.map_eq_some_iff.mp stepped
          exact parted.callback drained result.1 result.2

theorem Parted.uses (parted : device.Parted callers) :
    ∀ use ∈ device.uses event, use.removed = false := by
  intro use member
  unfold MacDevice.uses at member
  split at member
  next ret =>
      cases worker : device.mac.worker with
      | send skb bufId =>
          rw [worker] at member
          obtain ⟨vif, own, rfl⟩ := List.mem_map.mp member
          refine parted.parted skb (.inr (.inr ?_)) vif (by simpa using own)
          rw [worker]
          exact List.mem_singleton_self skb
      | _ => simp [worker, vifUse] at member
  next => cases member

theorem Parted.start : MacDevice.start.Parted callers where
  accounted := ⟨0, Mac.Accounted.start⟩
  parted := fun _ _ _ _ => rfl

/-- In every run in which no interface is removed while one of its frames is under way,
the work item never uses the private data of a removed interface. -/
theorem no_use_after_removal {final : MacDevice} {events : List Event}
    (drained : Meets (MacDevice.step callers) (Drained callers) .start events)
    (reached : run (MacDevice.step callers) .start events = some final) :
    ∀ use ∈ outputs (MacDevice.step callers) MacDevice.uses .start events,
      use.removed = false := by
  have both := drained.history (fun past device => device.Parted callers ∧
    ∀ use ∈ outputs (MacDevice.step callers) MacDevice.uses .start past,
      use.removed = false) ⟨.start, by simp⟩ ?_ reached
  · exact both.2
  · rintro past device event next before allowed stepped ⟨parted, earlier⟩
    refine ⟨parted.step allowed stepped, fun use member => ?_⟩
    rw [outputs_concat before stepped] at member
    rcases List.mem_append.mp member with old | new
    · exact earlier use old
    · exact parted.uses use new

/-- The interface is removed after its frame was sent. -/
def removedDrained : List Event :=
  [.callback (.addInterface 3 .station), .mac (.tx 0 ⟨0x0040, 0, none, some 3⟩ ⟨100, 28, 0⟩),
    .mac (.call 0), .mac (.call 0), .mac (.call 0), .mac .work, .mac .work, .workLock,
    .mac (.idrAlloc (some 0)), .mac (.dmaMap (some 0x1000)), .mac (.wmiSend 0),
    .callback (.removeInterface 3), .mac .work]

theorem no_use_after_removal_drained :
    outputs (MacDevice.step 1) MacDevice.uses .start removedDrained = [⟨0, 3, 0, false⟩] ∧
    ∀ use ∈ outputs (MacDevice.step 1) MacDevice.uses .start removedDrained,
      use.removed = false := by
  have seen : (run (MacDevice.step 1) .start removedDrained).isSome := by decide +kernel
  obtain ⟨final, reached⟩ := Option.isSome_iff_exists.mp seen
  exact ⟨by decide +kernel, no_use_after_removal (by decide +kernel) reached⟩

/-- The interface is removed while its frame still waits. -/
def removedWaiting : List Event :=
  [.callback (.addInterface 3 .station), .mac (.tx 0 ⟨0x0040, 0, none, some 3⟩ ⟨100, 28, 0⟩),
    .mac (.call 0), .mac (.call 0), .mac (.call 0), .callback (.removeInterface 3), .mac .work,
    .mac .work, .workLock, .mac (.idrAlloc (some 0)), .mac (.dmaMap (some 0x1000)),
    .mac (.wmiSend 0)]

/-- The frame still waits when its interface is removed, and is sent with the id of the
interface afterwards. -/
theorem use_after_removal :
    ∃ final, run (MacDevice.step 1) .start removedWaiting = some final ∧
      outputs (MacDevice.step 1) MacDevice.uses .start removedWaiting =
        [⟨0, 3, 0, true⟩] := by
  have seen : (run (MacDevice.step 1) .start removedWaiting).isSome := by decide +kernel
  obtain ⟨final, reached⟩ := Option.isSome_iff_exists.mp seen
  exact ⟨final, reached, by decide +kernel⟩

end MacDevice

end WirelessSimu
