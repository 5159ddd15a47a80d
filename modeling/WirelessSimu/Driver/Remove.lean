import WirelessSimu.Driver.Probe
import WirelessSimu.Rx.Release
import Mathlib.Tactic.Abel

namespace WirelessSimu

open Data Kernel Probe

/-! `wireless_simu_pci_remove` after a probe that returned zero. -/

namespace Remove

def coreRemove (priv : Priv) : List Resource :=
  if priv.hw then [.hwRegistration, .hw] else []

/-- `cleanuprx` goes on without a ring when the pipe has no buffer size. -/
def cleanuprxFaults (pipe : SrngTestPipe) : Bool :=
  pipe.dstRing.isNone && pipe.bufSz == 0

/-- What `wireless_simu_hal_srng_dst_test_deinit` frees besides the buffers. -/
def dstTestDeinit (setting : Setting) (dst : StDst) : List Resource :=
  freePipes .dst setting.pipesCount dst.rx.pipes ++
    if dst.hostConfig then [.hostConfig .dst] else []

def halSrngDeinit (setting : Setting) : List Resource :=
  srngKeys setting ++ [.rdp, .wrp, .srngConfig]

end Remove

open Remove

structure Removed where
  resources : Resources Resource
  rx : Rx

/-- `wireless_simu_pci_remove`. The receive module is the one that the traffic left; its
teardown has its turn when `tasklet_kill` has waited for the drains. -/
def pciRemove (setting : Setting) (priv : Priv) (resources : Resources Resource) :
    Option Removed :=
  let resources := resources.releaseAll (coreRemove priv)
  let resources := resources.releaseAll [.irq, .irqVectors, .workqueue]
  match priv.dst.rx.step .deinit with
  | none => none
  | some rx =>
      if (List.range priv.dst.rx.pipesCount).any fun index =>
          cleanuprxFaults (priv.dst.rx.pipes index) then none
      else
        let resources := resources.releaseAll (dstTestDeinit setting priv.dst)
        let resources := resources.releaseAll (halSrngDeinit setting)
        some ⟨resources.releaseAll [.mmio, .regions, .pciDevice, .priv], rx⟩

namespace Remove

/-! What the stages of the probe hold, as sums. -/

def irqHeld (answers : Answers) : Multiset Resource :=
  if answers.requestIrq = 0 then {.irq} else 0

def macPresent (answers : Answers) : Bool :=
  answers.allocHw && (!answers.channels || decide (answers.registerHw = 0))

def macHeld (answers : Answers) : Multiset Resource :=
  if macPresent answers = false then 0
  else if answers.channels = false then {.hw}
  else {.hwRegistration, .channels, .hw}

/-- What is there after every probe that returns zero. -/
def basis : Multiset Resource :=
  {.irqVectors, .workqueue, .rdp, .wrp, .srngConfig, .mmio, .regions, .pciDevice, .priv}

theorem coreProbe_eq (answers : Answers) (resources : Resources Resource) :
    coreProbe answers resources =
      (macPresent answers, resources.holding (macHeld answers)) := by
  unfold coreProbe macHeld macPresent
  cases answers.allocHw with
  | false => simp
  | true =>
      cases answers.channels with
      | false => simp [Resources.acquire_eq_holding]
      | true =>
          by_cases registered : answers.registerHw = 0
          · simp [registered, Resources.acquire_eq_holding, Resources.holding_holding,
              Multiset.insert_eq_cons, ← Multiset.singleton_add]
          · simp [registered]

theorem interruptible_eq (answers : Answers) :
    interruptible answers = Resources.empty.holding
      (irqHeld answers + {.irqVectors, .mmio, .regions, .pciDevice, .priv}) := by
  unfold interruptible irqHeld claimed
  by_cases granted : answers.requestIrq = 0
  · simp [granted, Resources.acquire_eq_holding, Resources.holding_holding,
      Multiset.insert_eq_cons, ← Multiset.singleton_add]
  · simp [granted, Resources.acquire_eq_holding, Resources.holding_holding,
      Multiset.insert_eq_cons, ← Multiset.singleton_add]

theorem halUp_eq {setting : Setting} (answers : Answers) (plain : setting.lockdep = false) :
    halUp setting answers = Resources.empty.holding
      ({.wrp, .rdp, .srngConfig} +
        (irqHeld answers + {.irqVectors, .mmio, .regions, .pciDevice, .priv})) := by
  have noKeys : srngKeys setting = [] := by
    simp [srngKeys, plain]
  rw [halUp, noKeys, interruptible_eq]
  simp [Resources.releaseAll, Resources.acquire_eq_holding, Resources.holding_holding,
    Multiset.insert_eq_cons, ← Multiset.singleton_add, add_assoc]

/-- With `lockdep` the keys are unregistered before they were ever registered. -/
theorem halUp_faulted {setting : Setting} (answers : Answers)
    (lockdep : setting.lockdep = true) : (halUp setting answers).faulted = true := by
  have first : Resource.srngKey 0 ∈ srngKeys setting := by
    rw [srngKeys, if_pos lockdep]
    exact List.mem_map.mpr ⟨0, List.mem_range.mpr (by decide), rfl⟩
  refine Resources.faulted_releaseAll_of_notMem first ?_
  rw [interruptible_eq]
  unfold irqHeld
  split <;> simp [Resources.acquire, Resources.holding, Resources.empty]

variable {setting : Setting} {answers : Answers}

theorem dstTestInit_faulted {resources : Resources Resource} (hal : Hal)
    (faulted : resources.faulted = true) :
    (dstTestInit setting answers hal resources).2.faulted = true := by
  obtain ⟨_, same⟩ | ⟨_, _, _, _, _, same⟩ | ⟨_, _, _, _, _, same⟩ :=
    dstTestInit_cases setting answers hal resources
  · rw [same]
    exact faulted
  · rw [same]
    exact faulted
  · rw [same]
    exact faulted

/-! What remove gives back. -/

theorem heldPipe_fixed (module : TestModule) (index : Nat) (pipe : SrngTestPipe) :
    heldPipe module index pipe.fixed = heldPipe module index pipe := by
  have held : ∀ name ring, heldRing name (Option.map SrngTestRing.fixed ring) =
      heldRing name ring := by
    intro name ring
    cases ring <;> rfl
  simp only [heldPipe, SrngTestPipe.fixed, held]

theorem coe_dstTestDeinit {dst : StDst} {start : Nat → SrngTestPipe}
    (fixed : ∀ index, (dst.rx.pipes index).fixed = (start index).fixed)
    (sized : ∀ index < setting.pipesCount, SrcSized (start index)) :
    (dstTestDeinit setting dst : Multiset Resource) =
      heldPipes .dst setting.pipesCount start +
        if dst.hostConfig then {.hostConfig .dst} else 0 := by
  have sizedNow : ∀ index < setting.pipesCount, SrcSized (dst.rx.pipes index) := by
    intro index below ring found
    have source := congrArg SrngTestPipe.srcRing (fixed index)
    simp only [SrngTestPipe.fixed] at source
    rw [source] at found
    exact sized index below ring found
  have heldEq : heldPipes .dst setting.pipesCount dst.rx.pipes =
      heldPipes .dst setting.pipesCount start := by
    apply Finset.sum_congr rfl
    intro index _
    rw [← heldPipe_fixed, fixed, heldPipe_fixed]
  rw [dstTestDeinit, ← Multiset.coe_add, coe_freePipes sizedNow, heldEq]
  cases dst.hostConfig <;> rfl

def givenBack (setting : Setting) (priv : Priv) : List Resource :=
  coreRemove priv ++ [.irq, .irqVectors, .workqueue] ++ dstTestDeinit setting priv.dst ++
    halSrngDeinit setting ++ [.mmio, .regions, .pciDevice, .priv]

theorem pciRemove_eq {priv : Priv} {final : Rx} (resources : Resources Resource)
    (ended : priv.dst.rx.step .deinit = some final)
    (sound : ∀ index < priv.dst.rx.pipesCount,
      cleanuprxFaults (priv.dst.rx.pipes index) = false) :
    pciRemove setting priv resources =
      some ⟨resources.releaseAll (givenBack setting priv), final⟩ := by
  have passes : ((List.range priv.dst.rx.pipesCount).any fun index =>
      cleanuprxFaults (priv.dst.rx.pipes index)) = false := by
    rw [List.any_eq_false]
    intro index member
    rw [sound index (List.mem_range.mp member)]
    decide
  simp only [pciRemove, ended, passes, Bool.false_eq_true, if_false, givenBack,
    Resources.releaseAll_append]

theorem pciRemove_resources {priv : Priv} {resources : Resources Resource}
    {removed : Removed} (returned : pciRemove setting priv resources = some removed) :
    removed.resources = resources.releaseAll (givenBack setting priv) := by
  unfold pciRemove at returned
  split at returned
  · cases returned
  · split at returned
    · cases returned
    · cases returned
      simp only [givenBack, Resources.releaseAll_append]

/-- Remove gives back exactly what is held just when it does so for the interrupt, the
receive module and the hardware of mac80211. -/
theorem releases_iff {priv : Priv} (plain : setting.lockdep = false)
    (dstHeld : Multiset Resource) :
    ((Resources.holding (Resources.acquire ((halUp setting answers).holding dstHeld)
          .workqueue) (macHeld answers)).releaseAll (givenBack setting priv)).Clean ↔
      {.irq} + (dstTestDeinit setting priv.dst : Multiset Resource) +
          (coreRemove priv : Multiset Resource) =
        irqHeld answers + dstHeld + macHeld answers := by
  have noKeys : srngKeys setting = [] := by
    simp [srngKeys, plain]
  have given : (givenBack setting priv : Multiset Resource) =
      basis + ({.irq} + (dstTestDeinit setting priv.dst : Multiset Resource) +
        (coreRemove priv : Multiset Resource)) := by
    simp only [givenBack, halSrngDeinit, noKeys, ← Multiset.coe_add, ← Multiset.cons_coe,
      Multiset.coe_nil, ← Multiset.singleton_add, basis, Multiset.insert_eq_cons]
    abel
  have held : (Resources.holding (Resources.acquire ((halUp setting answers).holding
      dstHeld) .workqueue) (macHeld answers)).held =
        basis + (irqHeld answers + dstHeld + macHeld answers) := by
    simp only [halUp_eq answers plain, Resources.acquire_eq_holding, Resources.holding,
      Resources.empty, basis, Multiset.insert_eq_cons, ← Multiset.singleton_add]
    abel
  have sound : (Resources.holding (Resources.acquire ((halUp setting answers).holding
      dstHeld) .workqueue) (macHeld answers)).faulted = false := by
    rw [halUp_eq answers plain]
    rfl
  rw [Resources.releaseAll_clean_iff, given, held, add_right_inj]
  exact and_iff_left sound

/-- The interrupt was granted, and the hardware of mac80211 is not there any more. -/
def Even (answers : Answers) : Prop :=
  answers.requestIrq = 0 ∧
    (answers.allocHw = false ∨ answers.channels = true ∧ answers.registerHw ≠ 0)

theorem even_eq (answers : Answers) :
    Even answers ↔ answers.requestIrq = 0 ∧ macPresent answers = false := by
  unfold Even macPresent
  cases answers.allocHw <;> cases answers.channels <;> simp

theorem notMem_macHeld {resource : Resource} (notRegistration : resource ≠ .hwRegistration)
    (notChannels : resource ≠ .channels) (notHw : resource ≠ .hw) :
    resource ∉ macHeld answers := by
  unfold macHeld
  split
  · exact Multiset.notMem_zero resource
  · split
    · simpa using notHw
    · simp [notRegistration, notChannels, notHw]

/-- Remove gives back two things of a hardware that is there, and it holds one without its
channels and three with them. -/
theorem coreRemove_eq_iff {priv : Priv} (hw : priv.hw = macPresent answers) :
    (coreRemove priv : Multiset Resource) = macHeld answers ↔
      macPresent answers = false := by
  unfold coreRemove macHeld
  rw [hw]
  cases macPresent answers with
  | false => simp
  | true =>
      refine iff_of_false (fun same => ?_) (by decide)
      have cards := congrArg Multiset.card same
      cases channels : answers.channels with
      | false => simp [channels] at cards
      | true => simp [channels] at cards

theorem even_iff {priv : Priv} (hw : priv.hw = macPresent answers) :
    {.irq} + (coreRemove priv : Multiset Resource) = irqHeld answers + macHeld answers ↔
      Even answers := by
  rw [even_eq]
  by_cases granted : answers.requestIrq = 0
  · rw [irqHeld, if_pos granted, add_right_inj, coreRemove_eq_iff hw,
      and_iff_right granted]
  · refine iff_of_false (fun same => ?_) fun even => granted even.1
    rw [irqHeld, if_neg granted, zero_add] at same
    have given : Resource.irq ∈ macHeld answers := by
      rw [← same]
      exact Multiset.mem_add.mpr (.inl (Multiset.mem_singleton_self _))
    exact notMem_macHeld (by decide) (by decide) (by decide) given

theorem not_even_twice {priv : Priv} :
    {.irq} + {.hostConfig .dst} + (coreRemove priv : Multiset Resource) ≠
      irqHeld answers + macHeld answers := by
  intro same
  have outside : Resource.hostConfig .dst ∉ irqHeld answers + macHeld answers := by
    rw [Multiset.mem_add, not_or, irqHeld]
    constructor
    · split <;> simp
    · exact notMem_macHeld (by decide) (by decide) (by decide)
  rw [← same] at outside
  simp at outside

/-- Without its table of pipes the receive module has nothing to do. -/
theorem idle_traffic {hal : Hal} {pipes : Nat → SrngTestPipe} {events : List Rx.Event}
    {rx : Rx} (traffic : run Rx.step (.idle hal 0 pipes) events = some rx)
    (live : rx.live = true) : events = [] ∧ rx = .idle hal 0 pipes := by
  refine run_history (fun past state => state.live = true →
    past = [] ∧ state = .idle hal 0 pipes) (fun _ => ⟨rfl, rfl⟩) ?_ traffic live
  intro past state event next _ stepped holds nextLive
  obtain ⟨stateLive, taken⟩ := Rx.step_cases stepped
  obtain ⟨rfl, rfl⟩ := holds stateLive
  exfalso
  cases taken with
  | deinit => contradiction
  | _ => simp_all [Rx.idle, Rx.start, Rx.postBuf]

theorem heldPipes_ringless {count : Nat} {pipes : Nat → SrngTestPipe}
    (ringless : ∀ index < count, heldPipe .dst index (pipes index) = 0) :
    heldPipes .dst count pipes = 0 := by
  apply Finset.sum_eq_zero
  intro index member
  exact ringless index (Finset.mem_range.mp member)

theorem pciRemove_iff {priv : Priv} {final : Rx} {resources : Resources Resource}
    {Good : Removed → Prop} (ended : priv.dst.rx.step .deinit = some final)
    (sound : ∀ index < priv.dst.rx.pipesCount,
      cleanuprxFaults (priv.dst.rx.pipes index) = false) :
    (∃ removed, pciRemove setting priv resources = some removed ∧ Good removed) ↔
      Good ⟨resources.releaseAll (givenBack setting priv), final⟩ := by
  simp only [pciRemove_eq resources ended sound, Option.some.injEq, exists_eq_left']

def ReceiveEven (setting : Setting) (answers : Answers) : Prop :=
  answers.dstHostConfig = false ∨ setting.pipesCount ≤ 1 ∧
    ∀ index < setting.pipesCount,
      ReceiveServed (answers.dstMemory index) (setting.dstAttrs index)

section Cases

variable {hal : Hal} {events : List Rx.Event} {rx : Rx} {hw : Bool}

theorem removes_unconfigured (plain : setting.lockdep = false)
    (present : hw = macPresent answers)
    (traffic : run Rx.step (.idle hal 0 fun _ => .zero) events = some rx)
    (quiet : rx.step .deinit ≠ none) :
    (∃ removed, pciRemove setting ⟨⟨false, rx⟩, hw⟩
        (Resources.holding ((halUp setting answers).acquire .workqueue)
          (macHeld answers)) = some removed ∧
      removed.resources.Clean ∧ removed.rx.buffers.Released) ↔
      Even answers ∧
        Meets Rx.step Rx.MappingHolds (.idle hal 0 fun _ => .zero) events := by
  obtain ⟨final, ended⟩ := Option.ne_none_iff_exists'.mp quiet
  obtain ⟨live, last⟩ := Rx.step_cases ended
  obtain ⟨rfl, rfl⟩ := idle_traffic traffic live
  have released : final.buffers.Released := by
    cases last
    exact Ledger.empty.released_iff.mpr rfl
  have freed : (dstTestDeinit setting ⟨false, .idle hal 0 fun _ => .zero⟩ :
      Multiset Resource) = 0 := by
    rw [coe_dstTestDeinit (fun _ => rfl) (fun _ _ _ found => by cases found),
      heldPipes_ringless fun _ _ => rfl]
    rfl
  rw [@pciRemove_iff setting ⟨⟨false, .idle hal 0 fun _ => .zero⟩, hw⟩ final _ _ ended
    (fun index below => absurd below (Nat.not_lt_zero index))]
  have balance := @releases_iff setting answers
    ⟨⟨false, .idle hal 0 fun _ => .zero⟩, hw⟩ plain 0
  simp only [Resources.holding_zero, freed, add_zero] at balance
  rw [balance, even_iff present]
  exact and_congr_right fun _ => iff_of_true released trivial

theorem removes_up {hal' : Hal} {pipes : Nat → SrngTestPipe}
    (plain : setting.lockdep = false) (present : hw = macPresent answers)
    (config : hal.srngConfig = hwSrngConfigTemplate)
    (done : dstTestSetup hal setting.pipesCount answers.dstMemory setting.dstAttrs =
      (hal', pipes, none))
    (sized : ∀ index, SrcSized (pipes index))
    (traffic : run Rx.step (.start hal' setting.pipesCount pipes) events = some rx)
    (quiet : rx.step .deinit ≠ none) :
    (∃ removed, pciRemove setting ⟨⟨true, rx⟩, hw⟩
        (Resources.holding (Resources.acquire (((halUp setting answers).acquire
          (.hostConfig .dst)).holding (heldPipes .dst setting.pipesCount pipes))
          .workqueue) (macHeld answers)) = some removed ∧
      removed.resources.Clean ∧ removed.rx.buffers.Released) ↔
      Even answers ∧ Meets Rx.step Rx.MappingHolds
        (.start hal' setting.pipesCount pipes) events := by
  obtain ⟨final, ended⟩ := Option.ne_none_iff_exists'.mp quiet
  obtain ⟨live, _⟩ := Rx.step_cases ended
  obtain ⟨count, fixed⟩ := Rx.run_fixed traffic live
  have table : RxTable hal.srngConfig := by
    rw [config]
    exact hwSrngConfigTemplate_table
  obtain ⟨_, _, rings⟩ := initPipes_count table (dstTestSetup_done done).2
  have sound : ∀ index < rx.pipesCount, cleanuprxFaults (rx.pipes index) = false := by
    intro index below
    rw [count] at below
    have ring := congrArg SrngTestPipe.dstRing (fixed index)
    have there := rings index below
    cases found : (rx.pipes index).dstRing with
    | none =>
        simp only [SrngTestPipe.fixed, found, Option.map_none] at ring
        exact absurd (Option.map_eq_none_iff.mp ring.symm) there
    | some dst => simp [cleanuprxFaults, found]
  have freed := @coe_dstTestDeinit setting ⟨true, rx⟩ pipes fixed
    fun index _ => sized index
  simp only [if_true] at freed
  rw [@pciRemove_iff setting ⟨⟨true, rx⟩, hw⟩ final _ _ ended sound]
  have balance := @releases_iff setting answers ⟨⟨true, rx⟩, hw⟩ plain
    (heldPipes .dst setting.pipesCount pipes + {.hostConfig .dst})
  rw [freed, add_right_comm, add_right_comm (irqHeld answers), add_left_inj,
    even_iff present, ← Resources.holding_holding, ← Resources.acquire_eq_holding] at balance
  rw [balance, rx_released config done traffic ended]

/-- A setup that failed has freed the table already. -/
theorem removes_failed {hal' : Hal} {pipes : Nat → SrngTestPipe}
    (plain : setting.lockdep = false)
    (traffic : run Rx.step (.idle hal' setting.pipesCount
      (halSrngTestFreePipes setting.pipesCount pipes)) events = some rx)
    (quiet : rx.step .deinit ≠ none) {removed : Removed}
    (returned : pciRemove setting ⟨⟨true, rx⟩, hw⟩
      (Resources.holding ((halUp setting answers).acquire .workqueue)
        (macHeld answers)) = some removed) : ¬ removed.resources.Clean := by
  obtain ⟨final, ended⟩ := Option.ne_none_iff_exists'.mp quiet
  obtain ⟨live, _⟩ := Rx.step_cases ended
  obtain ⟨_, fixed⟩ := Rx.run_fixed traffic live
  have bare : ∀ index < setting.pipesCount,
      halSrngTestFreePipes setting.pipesCount pipes index =
        halSrngTestFreePipe (pipes index) := fun index below => if_pos below
  have freed : (dstTestDeinit setting ⟨true, rx⟩ : Multiset Resource) =
      {.hostConfig .dst} := by
    rw [@coe_dstTestDeinit setting ⟨true, rx⟩ _ fixed, heldPipes_ringless, zero_add]
    · rfl
    · intro index below
      simp only [Rx.idle, Rx.start, bare index below]
      rfl
    · intro index below ring found
      simp only [Rx.idle, Rx.start, bare index below] at found
      cases found
  have balance := @releases_iff setting answers ⟨⟨true, rx⟩, hw⟩ plain 0
  rw [Resources.holding_zero, freed, add_zero] at balance
  rw [pciRemove_resources returned, balance]
  exact not_even_twice

end Cases

end Remove

structure Removable (setting : Setting) (answers : Answers) : Prop where
  lockdep : setting.lockdep = false
  irq : answers.requestIrq = 0
  receive : answers.dstHostConfig = false ∨ setting.pipesCount ≤ 1 ∧
    ∀ index < setting.pipesCount,
      ReceiveServed (answers.dstMemory index) (setting.dstAttrs index)
  mac : answers.allocHw = false ∨ answers.channels = true ∧ answers.registerHw ≠ 0

/-- Remove releases everything, each resource once, exactly after such a probe and when
no mapping of a receive buffer failed. -/
theorem remove_releases_iff {setting : Setting} {answers : Answers} {probed : Probed}
    {priv : Priv} {events : List Rx.Event} {rx : Rx}
    (returned : pciProbe setting answers = some probed) (succeeded : probed.ret = 0)
    (bound : probed.priv = some priv)
    (traffic : run Rx.step priv.dst.rx events = some rx)
    (quiet : rx.step .deinit ≠ none) :
    (∃ removed, pciRemove setting { priv with dst := { priv.dst with rx := rx } }
        probed.resources = some removed ∧
      removed.resources.Clean ∧ removed.rx.buffers.Released) ↔
      Removable setting answers ∧
        Meets Rx.step Rx.MappingHolds priv.dst.rx events := by
  obtain ⟨failed, _⟩ | ⟨paddr, _, held, kept⟩ := pciProbe_cases returned
  · exact absurd succeeded failed
  · have config : (halSrngInit setting.cpuBigEndian paddr setting.mmio).srngConfig =
        hwSrngConfigTemplate := rfl
    generalize halSrngInit setting.cpuBigEndian paddr setting.mmio = hal at config held kept
    simp only [bound, coreProbe_eq, Option.some.injEq] at held kept
    subst kept
    rw [held]
    by_cases plain : setting.lockdep = false
    · have removable : Removable setting answers ↔
          Even answers ∧ ReceiveEven setting answers :=
        ⟨fun good => ⟨⟨good.irq, good.mac⟩, good.receive⟩,
          fun ⟨even, receive⟩ => ⟨plain, even.1, receive, even.2⟩⟩
      have setup := dstTestSetup_none_iff config setting.pipesCount answers.dstMemory
        setting.dstAttrs
      rw [removable]
      obtain ⟨missing, same⟩ | ⟨there, hal', pipes, ret, failed, same⟩ |
        ⟨there, hal', pipes, done, sized, same⟩ :=
          dstTestInit_cases setting answers hal (halUp setting answers)
      · simp only [same] at traffic ⊢
        have receive : ReceiveEven setting answers := .inl missing
        rw [removes_unconfigured plain rfl traffic quiet, and_iff_left receive]
      · simp only [same] at traffic ⊢
        refine iff_of_false ?_ ?_
        · rintro ⟨removed, result, clean, _⟩
          exact removes_failed plain traffic quiet result clean
        · rintro ⟨⟨_, receive⟩, _⟩
          rcases receive with unserved | served
          · simp [there] at unserved
          · rw [← setup, failed] at served
            cases served
      · simp only [same] at traffic ⊢
        have receive : ReceiveEven setting answers := .inr (setup.mp (by rw [done]))
        rw [removes_up plain rfl config done sized traffic quiet, and_iff_left receive]
    · have faulted := halUp_faulted answers (Bool.not_eq_false _ ▸ plain)
      refine iff_of_false ?_ fun good => plain good.1.lockdep
      rintro ⟨removed, result, clean, _⟩
      rw [pciRemove_resources result, Resources.releaseAll_clean_iff] at clean
      have sound : (dstTestInit setting answers hal (halUp setting answers)).2.faulted =
        false := clean.2
      rw [dstTestInit_faulted hal faulted] at sound
      contradiction

def probeAndRemove (answers : Answers) : Option (Probed × Priv × Rx × Removed) :=
  (pciProbe driverSetting answers).bind fun probed =>
    probed.priv.bind fun priv =>
      (run Rx.step priv.dst.rx onePost).bind fun rx =>
        (pciRemove driverSetting { priv with dst := { priv.dst with rx := rx } }
          probed.resources).map fun removed => (probed, priv, rx, removed)

theorem probeAndRemove_eq_some {answers : Answers} {probed : Probed} {priv : Priv}
    {rx : Rx} {removed : Removed}
    (ran : probeAndRemove answers = some (probed, priv, rx, removed)) :
    pciProbe driverSetting answers = some probed ∧ probed.priv = some priv ∧
      run Rx.step priv.dst.rx onePost = some rx ∧
      pciRemove driverSetting { priv with dst := { priv.dst with rx := rx } }
        probed.resources = some removed := by
  simp only [probeAndRemove, Option.bind_eq_some_iff, Option.map_eq_some_iff,
    Prod.mk.injEq] at ran
  obtain ⟨_, returned, _, bound, _, traffic, _, result, rfl, rfl, rfl, rfl⟩ := ran
  exact ⟨returned, bound, traffic, result⟩

/-- The hardware could not be registered, so that nothing of it is left for remove. -/
theorem remove_releases_unregistered :
    ∃ probed priv rx removed,
      pciProbe driverSetting { Answers.good with registerHw := -12 } = some probed ∧
      probed.ret = 0 ∧ probed.priv = some priv ∧
      run Rx.step priv.dst.rx onePost = some rx ∧ rx.buffers.allocated = 1 ∧
      pciRemove driverSetting { priv with dst := { priv.dst with rx := rx } }
        probed.resources = some removed ∧
      removed.resources.Clean ∧ removed.rx.buffers.Released := by
  have seen : (probeAndRemove { Answers.good with registerHw := -12 }).map
      (fun ran => (ran.1.ret, ran.2.2.1.buffers.allocated,
        (ran.2.2.1.step .deinit).isSome)) = some (0, 1, true) := by decide +kernel
  obtain ⟨⟨probed, priv, rx, removed⟩, ran, values⟩ := Option.map_eq_some_iff.mp seen
  simp only [Prod.mk.injEq] at values
  obtain ⟨returned, bound, traffic, result⟩ := probeAndRemove_eq_some ran
  have quiet : rx.step .deinit ≠ none := Option.ne_none_iff_isSome.mpr values.2.2
  have removable : Removable driverSetting { Answers.good with registerHw := -12 } :=
    ⟨rfl, rfl, .inr ⟨by decide, fun index below => by
      obtain rfl : index = 0 := by
        have : driverSetting.pipesCount = 1 := rfl
        omega
      exact ⟨rfl, by decide, ⟨rfl, by decide +kernel, by decide⟩,
        ⟨rfl, by decide +kernel, by decide⟩⟩⟩, .inr ⟨rfl, by decide⟩⟩
  have maps : Meets Rx.step Rx.MappingHolds priv.dst.rx onePost :=
    .of_forall (by simp [onePost, Rx.MappingHolds]) _
  obtain ⟨removed', result', clean, released⟩ :=
    (remove_releases_iff returned values.1 bound traffic quiet).mpr ⟨removable, maps⟩
  exact ⟨probed, priv, rx, removed', returned, values.1, bound, traffic, values.2.1,
    result', clean, released⟩

/-- After a probe in which every call succeeds the copy of the channels stays. -/
theorem remove_leaks_channels :
    ∃ probed priv rx removed,
      pciProbe driverSetting Answers.good = some probed ∧
      probed.ret = 0 ∧ probed.priv = some priv ∧
      run Rx.step priv.dst.rx onePost = some rx ∧
      pciRemove driverSetting { priv with dst := { priv.dst with rx := rx } }
        probed.resources = some removed ∧
      removed.resources.held = {.channels} ∧ ¬ removed.resources.Clean := by
  have seen : (probeAndRemove Answers.good).map
      (fun ran => (ran.1.ret, ran.2.2.2.resources.held)) = some (0, {.channels}) := by
    decide +kernel
  obtain ⟨⟨probed, priv, rx, removed⟩, ran, values⟩ := Option.map_eq_some_iff.mp seen
  simp only [Prod.mk.injEq] at values
  obtain ⟨returned, bound, traffic, result⟩ := probeAndRemove_eq_some ran
  refine ⟨probed, priv, rx, removed, returned, values.1, bound, traffic, result,
    values.2, ?_⟩
  rintro ⟨nothing, _⟩
  rw [nothing] at values
  exact absurd values.2 (by decide)

end WirelessSimu
