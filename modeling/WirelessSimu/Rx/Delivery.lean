import WirelessSimu.Rx.Interrupt
import WirelessSimu.Rx.Settle

namespace WirelessSimu

open Data Kernel

/-! An interrupt that is under way ends with its frames received: the handler returns, the
device raises what it announced, and the tasklet that was scheduled runs. -/

theorem Rx.Event.free_of_process {event : Rx.Event} (own : event.ofProcess = true) :
    Irq.free event = true := by
  cases event with
  | drainStart | deviceConsume | deviceStoreTail | deviceReport | deviceStoreHead | deinit =>
      cases own
  | _ => rfl

namespace Irq

/-- The handler first, then the delivery and the interrupt that it ends in, then the
receive module, and last a tasklet that is still to run. -/
def settle (answers : Rx.Answers) (irq : Irq) : Option Event :=
  match irq.handler with
  | .entered => some .readStatus
  | .read _ => some .schedule
  | .clearing => some .clear
  | .idle =>
      match irq.delivery with
      | .headStored => some .writeStatus
      | .statusWritten => some .raise
      | .idle =>
          if irq.pending then some (.enter false)
          else
            match Rx.settle.event answers irq.rx with
            | some event => some (.rx event)
            | none => if irq.scheduled then some .taskletRun else none

/-- What `settle` picks. The code is not written behind the handler's back. -/
inductive Picked (answers : Rx.Answers) (irq : Irq) : Event → Prop where
  | rx {moved : Rx.Event} (running : Rx.settle.event answers irq.rx = some moved) :
      Picked answers irq (.rx moved)
  | writeStatus (returned : irq.handler = .idle) : Picked answers irq .writeStatus
  | raise : Picked answers irq .raise
  | enter : Picked answers irq (.enter false)
  | readStatus : Picked answers irq .readStatus
  | schedule : Picked answers irq .schedule
  | clear : Picked answers irq .clear
  | taskletRun : Picked answers irq .taskletRun

def Comes (answers : Rx.Answers) (P : Irq → Prop) (irq : Irq) : Prop :=
  Reaches (settle answers) step P irq

/-- Nothing new is announced. -/
def Event.silent : Event → Bool
  | .rx event => event.ofProcess
  | .storeHead => false
  | _ => true

/-- The invariants of the interrupt path and of the receive module together. -/
structure Sound (layout : RxLayout) (count : Nat) (irq : Irq) : Prop where
  inv : IrqInv layout irq
  count : irq.rx.pipesCount = count
  sane : irq.rx.Sane
  replenished : irq.rx.Replenished

/-- What is kept until all is quiet. -/
structure Settling (layout : RxLayout) (start : Rx) (irq : Irq) : Prop where
  sound : Sound layout start.pipesCount irq
  devices : irq.rx.devices = start.devices
  shadows : ∀ id, irq.rx.hal.load (.rdp id) = start.hal.load (.rdp id)

theorem Settling.rx {layout : RxLayout} {start : Rx} {irq : Irq}
    (settling : Settling layout start irq) : Rx.Settling layout start irq.rx where
  undisturbed := ⟨settling.sound.inv.rx, settling.sound.inv.live, settling.sound.count,
    settling.devices, settling.shadows⟩
  sane := settling.sound.sane
  replenished := settling.sound.replenished

/-- The handler has returned and the device has nothing to announce. -/
structure Calm (irq : Irq) : Prop where
  handler : irq.handler = .idle
  delivery : irq.delivery = .idle
  pending : irq.pending = false

section Steps

variable {layout : RxLayout} {start : Rx} {irq next : Irq} {event : Event}
  {answers : Rx.Answers} {P : Irq → Prop}

theorem Picked.of_settle (picked : irq.settle answers = some event) :
    Picked answers irq event := by
  unfold settle at picked
  split at picked
  next => cases picked; exact .readStatus
  next => cases picked; exact .schedule
  next => cases picked; exact .clear
  next returned =>
      split at picked
      next => cases picked; exact .writeStatus returned
      next => cases picked; exact .raise
      next =>
          split at picked
          next => cases picked; exact .enter
          next =>
              split at picked
              next running => cases picked; exact .rx running
              next =>
                  split at picked
                  next => cases picked; exact .taskletRun
                  next => cases picked

theorem settle_silent (picked : irq.settle answers = some event) : event.silent = true := by
  cases Picked.of_settle picked with
  | rx running => exact Rx.Process.event_ofProcess running
  | _ => rfl

theorem settle_seen (picked : irq.settle answers = some event) : irq.StatusSeen event := by
  rintro rfl
  cases Picked.of_settle picked with
  | writeStatus returned => exact .inl returned

/-- A step is one of the receive module, or it writes a register at most. -/
theorem step_rx (stepped : irq.step event = some next) :
    (∃ moved, irq.rx.step moved = some next.rx ∧
      (event.silent = true → moved.ofProcess = true ∨ moved = .drainStart 0)) ∨
    ∃ hal, next.rx = { irq.rx with hal := hal } ∧
      ∀ id, hal.load (.rdp id) = irq.rx.hal.load (.rdp id) := by
  cases event with
  | rx event =>
      simp only [step] at stepped
      split at stepped
      next =>
          obtain ⟨rx, taken, rfl⟩ := Option.map_eq_some_iff.mp stepped
          exact .inl ⟨event, taken, .inl⟩
      next => contradiction
  | storeHead =>
      simp only [step] at stepped
      split at stepped
      next =>
          obtain ⟨rx, taken, rfl⟩ := Option.map_eq_some_iff.mp stepped
          exact .inl ⟨_, taken, Bool.noConfusion⟩
      next => contradiction
  | taskletRun =>
      simp only [step] at stepped
      split at stepped
      next =>
          obtain ⟨rx, taken, rfl⟩ := Option.map_eq_some_iff.mp stepped
          exact .inl ⟨_, taken, fun _ => .inr rfl⟩
      next => contradiction
  | schedule =>
      simp only [step] at stepped
      split at stepped
      next =>
          cases stepped
          exact .inr ⟨_, rfl, fun _ => rfl⟩
      next => contradiction
  | writeStatus | raise | enter | readStatus | clear =>
      simp only [step] at stepped
      split at stepped
      next =>
          cases stepped
          exact .inr ⟨_, rfl, fun _ => rfl⟩
      next => contradiction

theorem Sound.step {count : Nat} (sound : Sound layout count irq)
    (seen : irq.StatusSeen event) (stepped : irq.step event = some next) :
    Sound layout count next := by
  have inv := sound.inv.step seen stepped
  rcases step_rx stepped with ⟨event', taken, _⟩ | ⟨hal, same, _⟩
  · obtain ⟨_, moved⟩ := Rx.step_cases taken
    exact ⟨inv, moved.pipesCount_eq.trans sound.count, sound.sane.step sound.inv.rx moved,
      sound.replenished.step sound.inv.rx moved inv.live⟩
  · refine ⟨inv, ?_, ?_, ?_⟩
    · rw [same]
      exact sound.count
    · rw [same]
      exact sound.sane
    · rw [same]
      exact sound.replenished.still rfl (fun _ => rfl) rfl rfl rfl rfl

theorem Settling.step (settling : Settling layout start irq) (silent : event.silent = true)
    (seen : irq.StatusSeen event) (stepped : irq.step event = some next) :
    Settling layout start next := by
  have sound := settling.sound.step seen stepped
  rcases step_rx stepped with ⟨moved, taken, running⟩ | ⟨hal, same, words⟩
  · rcases running silent with own | rfl
    · have after := settling.rx.undisturbed.step own taken
      exact ⟨sound, after.devices, after.shadows⟩
    · obtain ⟨_, moves⟩ := Rx.step_cases taken
      refine ⟨sound, ?_, ?_⟩
      · rw [← settling.devices]
        generalize next.rx = started at moves
        cases moves with
        | drainStart => rfl
      · intro id
        rw [← settling.shadows]
        generalize next.rx = started at moves
        cases moves with
        | drainStart => rfl
  · refine ⟨sound, ?_, fun id => ?_⟩
    · rw [same]
      exact settling.devices
    · rw [same]
      exact (words id).trans (settling.shadows id)

theorem Settling.along (settling : Settling layout start irq)
    (comes : irq.Comes answers P) :
    irq.Comes answers (fun final => Settling layout start final ∧ P final) :=
  Reaches.always (Settling layout start)
    (fun _ _ _ picked stepped before =>
      before.step (settle_silent picked) (settle_seen picked) stepped) settling comes

end Steps

/-! The stages, one after the other. -/

section Stages

variable {layout : RxLayout} {start : Rx} {irq : Irq} {answers : Rx.Answers}
  {P : Irq → Prop}

/-- The handler returns, and only then is anything else done. -/
theorem comes_handled (rest : ∀ next : Irq, next.handler = .idle →
      next.delivery = irq.delivery → next.pending = irq.pending → next.Comes answers P) :
    irq.Comes answers P := by
  have clears : ∀ middle : Irq, middle.handler = .clearing →
      middle.delivery = irq.delivery → middle.pending = irq.pending →
      middle.Comes answers P := by
    intro middle clearing delivery pending
    have picked : middle.settle answers = some .clear := by simp only [settle, clearing]
    have cleared : middle.step .clear = some { middle.setRegister 0 with handler := .idle } := by
      simp only [step, clearing, if_true]
    exact .cons picked cleared (rest _ rfl delivery pending)
  have schedules : ∀ (middle : Irq) irqStatus, middle.handler = .read irqStatus →
      middle.delivery = irq.delivery → middle.pending = irq.pending →
      middle.Comes answers P := by
    intro middle irqStatus atRead delivery pending
    have picked : middle.settle answers = some .schedule := by simp only [settle, atRead]
    have scheduled : middle.step .schedule = some { middle with
        handler := .clearing
        scheduled := middle.scheduled || irqStatus == irqStatuSrngDstDmaTestRing0 } := by
      simp only [step, atRead]
    exact .cons picked scheduled (clears _ rfl delivery pending)
  cases at_ : irq.handler with
  | idle => exact rest irq at_ rfl rfl
  | entered =>
      have picked : irq.settle answers = some .readStatus := by simp only [settle, at_]
      have read : irq.step .readStatus = some
          { irq with handler := .read (hifRead32 irq.rx.hal irqStatusReg) } := by
        simp only [step, at_, if_true]
      exact .cons picked read (schedules _ _ rfl rfl rfl)
  | read irqStatus => exact schedules irq irqStatus at_ rfl rfl
  | clearing => exact clears irq at_ rfl rfl

/-- The device raises what it announced, and the handler serves what is pending. -/
theorem comes_calm : irq.Comes answers Calm := by
  have serves : ∀ middle : Irq, middle.handler = .idle → middle.delivery = .idle →
      middle.Comes answers Calm := by
    intro middle handler delivery
    cases pending : middle.pending with
    | false => exact .refl ⟨handler, delivery, pending⟩
    | true =>
        have picked : middle.settle answers = some (.enter false) := by
          simp only [settle, handler, delivery, pending, if_true]
        have entered : middle.step (.enter false) =
            some { middle with handler := .entered, pending := false } := by
          simp [step, handler, pending]
        refine .cons picked entered (comes_handled fun next handler' delivery' pending' => ?_)
        exact .refl ⟨handler', delivery'.trans delivery, pending'⟩
  have raises : ∀ middle : Irq, middle.handler = .idle → middle.delivery = .statusWritten →
      middle.Comes answers Calm := by
    intro middle handler delivery
    have picked : middle.settle answers = some .raise := by
      simp only [settle, handler, delivery]
    have raised : middle.step .raise =
        some { middle with pending := true, delivery := .idle } := by
      simp only [step, delivery, if_true]
    exact .cons picked raised (serves _ handler rfl)
  refine comes_handled fun next handler _ _ => ?_
  cases delivery : next.delivery with
  | idle => exact serves next handler delivery
  | headStored =>
      have picked : next.settle answers = some .writeStatus := by
        simp only [settle, handler, delivery]
      have written : next.step .writeStatus = some
          { next.setRegister irqStatuSrngDstDmaTestRing0 with delivery := .statusWritten } := by
        simp only [step, delivery, if_true]
      exact .cons picked written (raises _ handler rfl)
  | statusWritten => exact raises next handler delivery

theorem Calm.settle_eq (calm : irq.Calm) :
    irq.settle answers =
      match Rx.settle.event answers irq.rx with
      | some event => some (.rx event)
      | none => if irq.scheduled then some .taskletRun else none := by
  obtain ⟨handler, delivery, pending⟩ := calm
  simp only [settle, handler, delivery, pending]
  rfl

/-- The receive module comes to rest inside the interrupt system as it does alone. -/
theorem Settling.rests (settling : Settling layout start irq) (calm : irq.Calm)
    (granted : Rx.Granted answers) :
    irq.Comes answers (fun final => final.rx.AtRest ∧ final.Calm ∧
      final.scheduled = irq.scheduled) := by
  have lifted : Reaches (settle answers) Irq.step _ { irq with rx := irq.rx } :=
    Reaches.lift (fun rx => { irq with rx := rx }) Event.rx (fun _ => True) (by
      intro rx event next _ picked stepped
      have calmThere : Calm { irq with rx := rx } :=
        ⟨calm.handler, calm.delivery, calm.pending⟩
      refine ⟨trivial, ?_, ?_⟩
      · rw [calmThere.settle_eq]
        simp only [picked]
      · have free := Rx.Event.free_of_process (Rx.Process.event_ofProcess picked)
        simp only [Irq.step, free, stepped, if_true, Option.map_some]) trivial
      (settling.rx.rests granted)
  refine lifted.trans ?_
  rintro final ⟨rx, rfl, -, rest⟩
  exact .refl ⟨rest, ⟨calm.handler, calm.delivery, calm.pending⟩, rfl⟩

theorem Settling.quiesces (settling : Settling layout start irq)
    (granted : Rx.Granted answers) :
    irq.Comes answers (fun final => Settling layout start final ∧ final.rx.AtRest ∧
      final.Quiescent) := by
  have last : ∀ {final : Irq}, final.rx.AtRest → final.Calm → final.scheduled = false →
      final.rx.AtRest ∧ final.Quiescent := fun rest calm unscheduled =>
    ⟨rest, calm.pending, calm.handler, unscheduled, rest.quiet.drains 0, calm.delivery⟩
  refine settling.along ((settling.along comes_calm).trans ?_)
  rintro next ⟨settling, calm⟩
  refine (settling.along (settling.rests calm granted)).trans ?_
  rintro middle ⟨settling, rest, calm, -⟩
  cases scheduled : middle.scheduled with
  | false => exact .refl (last rest calm scheduled)
  | true =>
      have live := settling.sound.inv.live
      have picked : middle.settle answers = some .taskletRun := by
        rw [calm.settle_eq, rest.nothing]
        simp only [scheduled, if_true]
      have runs : middle.step .taskletRun = some
          { middle with rx := middle.rx.setDrain 0 (.recv []), scheduled := false } := by
        simp only [Irq.step, scheduled, Rx.step, live, rest.quiet.drains 0,
          settling.sound.inv.first]
        rfl
      have started := settling.step (settle_silent picked) (settle_seen picked) runs
      refine .cons picked runs ((started.rests ⟨calm.handler, calm.delivery, calm.pending⟩
        granted).trans ?_)
      rintro final ⟨rest, calm, unscheduled⟩
      exact .refl (last rest calm unscheduled)

/-- Nobody is left to be woken up, so that there is nothing to be woken up for. -/
theorem Quiescent.not_unseen (quiescent : irq.Quiescent) (inv : IrqInv layout irq) :
    ¬ Unseen layout irq.rx := by
  intro unseen
  obtain ⟨pending, handler, scheduled, drain, delivery⟩ := quiescent
  cases inv.woken unseen with
  | delivering stored =>
      rw [delivery] at stored
      cases stored
  | signalled _ early => simp [handler, pending, delivery] at early
  | matched read =>
      rw [handler] at read
      cases read
  | scheduled set =>
      rw [scheduled] at set
      cases set
  | looks looks => exact not_looks (by simp [drain]) (by simp [drain]) looks

end Stages

end Irq

/-- The head word of a status ring. -/
theorem PipeAt.hpAddr_rdp {layout : RxLayout} {rx : Rx} {index : Nat}
    {dst status : SrngTestRing} {counts : RxCounts}
    (at_ : PipeAt layout rx index dst status counts) :
    (rx.hal.srngList status.halRingId.toNat).dstRing.hpAddr =
      .rdp (layout.statusId index) := by
  have direct := at_.inv.rings.statusDirect.shadow
  rw [at_.hpAddr_eq]
  simp only [RxPipe.statusId, Rx.pipe, at_.statusId_eq] at direct ⊢
  exact direct

section Runs

variable {hal hal' : Hal} {count : Nat} {memory : Nat → Fin 3 → RingMemory}
  {attrs : Nat → SrngTestAttr} {pipes : Nat → SrngTestPipe}

/-- A ring right after its setup has its tail at its head. -/
theorem IrqInv.start (table : RxTable hal.srngConfig)
    (twoLe : ∀ index, index < count →
      2 ≤ (ringEntries (attrs index).destNentries).toNat)
    (done : dstTestSetup hal count memory attrs = (hal', pipes, none))
    (first : 0 < count) :
    IrqInv (rxLayout hal.srngConfig attrs) (.start (.start hal' count pipes)) := by
  have rx := RxInv.start table twoLe done
  refine ⟨rx, rfl, first, fun unseen => absurd ?_ unseen⟩
  obtain ⟨dst, status, counts, at_⟩ := rx.pipes 0 first
  have sink := at_.inv.sink
  have headLe := at_.inv.device.head_le
  simp only [Rx.pipe, Rx.start, List.length_nil, Nat.le_zero] at headLe sink
  rw [headLe] at sink
  simp only [RxPipe.statusId, at_.statusId_eq] at sink
  rw [← UInt32.toNat_inj]
  exact sink.atTp.trans sink.atShadow.symm

/-- What the interrupt path comes to from `start`: no interrupt is left, the tail of pipe 0
is at its head word, which still holds what it held, and what that word announced in `start`
has been received. -/
structure Irq.Served (attrs : Nat → SrngTestAttr) (count : Nat) (start final : Irq) :
    Prop where
  quiescent : final.Quiescent
  recovered : start.rx.Recovered attrs count final.rx
  tail : ∃ status, (final.rx.pipes 0).statusRing = some status ∧
    (final.rx.hal.srngList status.halRingId.toNat).dstRing.tp =
      final.rx.hal.load (final.rx.hal.srngList status.halRingId.toNat).dstRing.hpAddr
  received : ∃ status, (start.rx.pipes 0).statusRing = some status ∧
    final.rx.hal.load (start.rx.hal.srngList status.halRingId.toNat).dstRing.hpAddr =
      start.rx.hal.load (start.rx.hal.srngList status.halRingId.toNat).dstRing.hpAddr ∧
    (start.rx.hal.load (start.rx.hal.srngList status.halRingId.toNat).dstRing.hpAddr =
        (start.rx.devices 0).head →
      (final.rx.received 0).length = (start.rx.devices 0).reported.length)

theorem Irq.Settling.reached (table : RxTable hal.srngConfig)
    (twoLe : ∀ index, index < count →
      2 ≤ (ringEntries (attrs index).destNentries).toNat)
    (done : dstTestSetup hal count memory attrs = (hal', pipes, none))
    (first : 0 < count) {events : List Irq.Event} {irq : Irq}
    (meets : Meets Irq.step Irq.StatusSeen (.start (.start hal' count pipes)) events)
    (reached : run Irq.step (.start (.start hal' count pipes)) events = some irq) :
    irq.rx.pipesCount = count ∧
      Irq.Settling (rxLayout hal.srngConfig attrs) irq.rx irq := by
  have start : Irq.Sound (rxLayout hal.srngConfig attrs) count
      (.start (.start hal' count pipes)) :=
    ⟨.start table twoLe done first, rfl, fun _ _ _ => Drain.noConfusion,
      fun index _ _ => .init (Nat.zero_le index)⟩
  have sound := meets.invariant (Irq.Sound (rxLayout hal.srngConfig attrs) count)
    (fun _ _ _ seen stepped sound => sound.step seen stepped) reached start
  exact ⟨sound.count, ⟨sound.inv, rfl, sound.sane, sound.replenished⟩, rfl, fun _ => rfl⟩

theorem Irq.Settling.served {irq final : Irq}
    (before : Irq.Settling (rxLayout hal.srngConfig attrs) irq.rx irq)
    (after : Irq.Settling (rxLayout hal.srngConfig attrs) irq.rx final)
    (rest : final.rx.AtRest) (quiescent : final.Quiescent) :
    irq.Served attrs irq.rx.pipesCount final := by
  obtain ⟨dst, status, counts, at_⟩ := after.sound.inv.rx.pipes 0 after.sound.inv.first
  obtain ⟨_, first, _, atFirst⟩ := before.sound.inv.rx.pipes 0 before.sound.inv.first
  have worked : (final.rx.hal.dstView status.halRingId.toNat).tp =
      final.rx.hal.load (.rdp ((rxLayout hal.srngConfig attrs).statusId 0)) := by
    have seen := not_not.mp (quiescent.not_unseen after.sound.inv)
    rw [← at_.hpAddr_rdp, at_.hpAddr_eq, at_.statusId_eq]
    exact seen
  refine ⟨quiescent, after.rx.recovered rest, ⟨status, at_.statusRing, ?_⟩,
    ⟨first, atFirst.statusRing, ?_, fun current => ?_⟩⟩
  · rw [at_.hpAddr_rdp]
    exact worked
  · rw [atFirst.hpAddr_rdp]
    exact after.shadows _
  · rw [atFirst.hpAddr_rdp] at current
    rw [← after.devices]
    refine at_.received_all ?_
    rw [worked, after.shadows, current, after.devices]

/-- Whatever is under way in the interrupt path and in the receive module ends while
memory is there, and serves what was announced. -/
theorem irq_settles (table : RxTable hal.srngConfig)
    (twoLe : ∀ index, index < count →
      2 ≤ (ringEntries (attrs index).destNentries).toNat)
    (done : dstTestSetup hal count memory attrs = (hal', pipes, none))
    (first : 0 < count) {events : List Irq.Event} {irq : Irq}
    (meets : Meets Irq.step Irq.StatusSeen (.start (.start hal' count pipes)) events)
    (reached : run Irq.step (.start (.start hal' count pipes)) events = some irq)
    {answers : Rx.Answers} (granted : Rx.Granted answers) :
    ∃ fuel final, alone (Irq.settle answers) Irq.step fuel irq = some final ∧
      irq.Served attrs count final := by
  obtain ⟨rfl, settling⟩ := Irq.Settling.reached table twoLe done first meets reached
  obtain ⟨fuel, final, ended, after, rest, quiescent⟩ := settling.quiesces granted
  exact ⟨fuel, final, ended, settling.served after rest quiescent⟩

/-- The handler was entered for another device and has read the register before the device
writes its code there. -/
def halfAnnounced : List Irq.Event :=
  smallPost.map .rx ++ [.rx (.deviceConsume 0), .rx (.deviceStoreTail 0),
    .rx (.deviceReport 0 60 0), .storeHead, .enter true, .readStatus]

theorem irq_settles_frame :
    ∃ irq fuel final, run Irq.step (.start (.start smallSetup.1 1 smallSetup.2.1))
        halfAnnounced = some irq ∧ (irq.rx.received 0).length = 0 ∧
      alone (Irq.settle fun _ => (some 2048, some 0x9000)) Irq.step fuel irq = some final ∧
      final.Quiescent ∧ (final.rx.received 0).length = 1 := by
  have seen : (run Irq.step (.start (.start smallSetup.1 1 smallSetup.2.1))
      halfAnnounced).map (fun irq => ((irq.rx.received 0).length,
        (irq.rx.devices 0).reported.length, (irq.rx.pipes 0).statusRing.map fun status =>
          decide (irq.rx.hal.load
            (irq.rx.hal.srngList status.halRingId.toNat).dstRing.hpAddr =
              (irq.rx.devices 0).head))) = some (0, 1, some true) := by decide +kernel
  obtain ⟨irq, reached, values⟩ := Option.map_eq_some_iff.mp seen
  simp only [Prod.mk.injEq] at values
  obtain ⟨nothing, one, current⟩ := values
  have meets : Meets Irq.step Irq.StatusSeen
      (.start (.start smallSetup.1 1 smallSetup.2.1)) halfAnnounced := by decide +kernel
  obtain ⟨fuel, final, ended, quiescent, -, -, status, ring, -, all⟩ :=
    irq_settles hwSrngConfigTemplate_table (fun _ _ => by decide +kernel) smallSetup_done
      Nat.one_pos meets reached
      (fun _ => ⟨rfl, rfl⟩ : Rx.Granted fun _ => (some 2048, some 0x9000))
  rw [ring, Option.map_some, Option.some_inj, decide_eq_true_eq] at current
  exact ⟨irq, fuel, final, reached, nothing, ended, quiescent, (all current).trans one⟩

end Runs

end WirelessSimu
