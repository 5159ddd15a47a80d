import WirelessSimu.Pipe.Operations

namespace WirelessSimu

open Data Kernel

/-! The rings of one HAL do not see each other. -/

namespace RingOp

variable {hal other next : Hal} {op : RingOp} {id : Nat}

theorem ring_congr (config : other.srngConfig = hal.srngConfig) :
    op.ring other = op.ring hal := by
  cases op with
  | setup type ringNum macId params =>
      simp only [ring, halSrngGetRingId, config]
  | _ => rfl

theorem enabled_congr (same : RingSame id hal other) (own : op.ring hal = some id) :
    op.enabled other = op.enabled hal := by
  rw [enabled, enabled, ring_congr same.config, own]
  simp only [same.srng]

/-- The two runs while they agree about ring `id`. -/
structure Apart (start : Hal) (id : Nat) (hal other : Hal) : Prop where
  same : RingSame id hal other
  wired : HalWired hal
  wiredOther : HalWired other
  config : hal.srngConfig = start.srngConfig

theorem config_step (wired : HalWired hal) (stepped : op.step hal = some next) :
    next.srngConfig = hal.srngConfig := by
  obtain ⟨enabled, rfl⟩ := step_eq_some.mp stepped
  cases own : op.ring hal with
  | none => rw [act_none own]
  | some id => exact (act_confined wired enabled own).config

theorem Apart.frame {start : Hal} (apart : Apart start id hal other)
    (others : op.ring start ≠ some id) (stepped : op.step hal = some next) :
    Apart start id next other := by
  have wiredNext := wired_step apart.wired stepped
  have configNext := (config_step apart.wired stepped).trans apart.config
  refine ⟨?_, wiredNext, apart.wiredOther, configNext⟩
  obtain ⟨enabled, rfl⟩ := step_eq_some.mp stepped
  cases own : op.ring hal with
  | none =>
      rw [act_none own]
      exact apart.same
  | some ring =>
      have different : id ≠ ring := by
        rintro rfl
        exact others (by rw [← own, ring_congr apart.config])
      exact ((act_confined apart.wired enabled own).same_other different).symm.trans
        apart.same

theorem Apart.answer {start : Hal} (apart : Apart start id hal other)
    (own : op.ring start = some id) (stepped : op.step hal = some next) :
    ∃ next', op.step other = some next' ∧ Apart start id next next' := by
  have wiredNext := wired_step apart.wired stepped
  have configNext := (config_step apart.wired stepped).trans apart.config
  obtain ⟨enabled, rfl⟩ := step_eq_some.mp stepped
  have mine : op.ring hal = some id := (ring_congr apart.config).trans own
  have answered : op.step other = some (op.act other) :=
    step_eq_some.mpr ⟨(enabled_congr apart.same mine).trans enabled, rfl⟩
  exact ⟨op.act other, answered, (act_local apart.wired enabled mine).same apart.same,
    wiredNext, wired_step apart.wiredOther answered, configNext⟩

theorem mmio_basic_of_confined (confined : Confined id hal next) (index : UInt32) :
    next.mmio (halBasicReg index) = hal.mmio (halBasicReg index) := by
  refine confined.word (.mmio (halBasicReg index)) fun block => ?_
  have low : (halBasicReg index).toNat < 65536 := by
    rw [halBasicReg, UInt32.toNat_and, show (0x0000ffff : UInt32).toNat = 2 ^ 16 - 1 from rfl,
      Nat.and_two_pow_sub_one_eq_mod]
    exact Nat.mod_lt _ (by decide)
  simp only [RingWord, InBlock] at block
  omega

theorem mmio_basic_step (wired : HalWired hal) (stepped : op.step hal = some next)
    (index : UInt32) : next.mmio (halBasicReg index) = hal.mmio (halBasicReg index) := by
  obtain ⟨enabled, rfl⟩ := step_eq_some.mp stepped
  cases own : op.ring hal with
  | none => rw [act_none own]
  | some id => exact mmio_basic_of_confined (act_confined wired enabled own) index

theorem wired_init (cpuBigEndian : Bool) (rdpPaddr : UInt64) (mmio : UInt32 → UInt32) :
    HalWired (halSrngInit cpuBigEndian rdpPaddr mmio) where
  config := by
    intro type
    cases type <;> rfl
  direct := fun _ initialized => absurd rfl initialized

/-- Whatever is interleaved on the rings of the table, an operation writes only what
belongs to its ring, every ring ends as if it had been alone, and the basic registers
stay as they were. -/
theorem rings_isolated (cpuBigEndian : Bool) (rdpPaddr : UInt64) (mmio : UInt32 → UInt32)
    {ops : List RingOp} {final : Hal}
    (reached : run step (halSrngInit cpuBigEndian rdpPaddr mmio) ops = some final) :
    (∀ (op : RingOp) (next : Hal) (id : Nat), op.step final = some next →
      op.ring final = some id →
      (∀ other, other ≠ id → next.srngList other = final.srngList other) ∧
      (∀ address, ¬ InBlock id address → next.mmio address = final.mmio address) ∧
      (∀ other, other ≠ id → next.rdp other = final.rdp other)) ∧
    (∀ op : RingOp, op.ring final = none → op.act final = final) ∧
    (∀ id, ∃ alone,
      run step (halSrngInit cpuBigEndian rdpPaddr mmio)
        (ops.filter fun op =>
          op.ring (halSrngInit cpuBigEndian rdpPaddr mmio) = some id) = some alone ∧
      final.srngList id = alone.srngList id ∧
      (∀ address, InBlock id address → final.mmio address = alone.mmio address) ∧
      final.rdp id = alone.rdp id) ∧
    ∀ index, final.mmio (halBasicReg index) = mmio (halBasicReg index) := by
  have wired := wired_init cpuBigEndian rdpPaddr mmio
  have wiredFinal := run_invariant HalWired
    (fun _ _ _ stepped wired => wired_step wired stepped) reached wired
  refine ⟨?_, fun op => act_none, ?_, ?_⟩
  · intro op next id stepped own
    obtain ⟨enabled, rfl⟩ := step_eq_some.mp stepped
    have confined := act_confined wiredFinal enabled own
    refine ⟨confined.srng, fun address => confined.word (.mmio address), ?_⟩
    intro other different
    exact confined.word (.rdp other) different
  · intro id
    obtain ⟨alone, filtered, apart⟩ := @run_filter _ _ step
      (Apart (halSrngInit cpuBigEndian rdpPaddr mmio) id)
      (fun op => op.ring (halSrngInit cpuBigEndian rdpPaddr mmio) = some id)
      (fun _ _ _ _ others stepped apart =>
        apart.frame (by simpa using others) stepped)
      (fun _ _ _ _ own stepped apart => apart.answer (by simpa using own) stepped)
      _ _ _ _ reached ⟨.refl _ _, wired, wired, rfl⟩
    refine ⟨alone, filtered, apart.same.srng.symm, ?_, ?_⟩
    · intro address block
      exact (apart.same.word (.mmio address) block).symm
    · exact (apart.same.word (.rdp id) rfl).symm
  · intro index
    have kept := run_invariant
      (fun hal => HalWired hal ∧ hal.mmio (halBasicReg index) = mmio (halBasicReg index))
      (fun _ _ _ stepped ⟨wired, same⟩ =>
        ⟨wired_step wired stepped, (mmio_basic_step wired stepped index).trans same⟩)
      reached ⟨wired, rfl⟩
    exact kept.2

/-- Two rings set up and used in turn. -/
def twoRings (params : HalSrngParams) : List RingOp :=
  [.setup .testSrng 0 0 params, .setup .testSrngDst 0 0 params, .accessBegin 125,
    .accessBegin 8, .srcGetNextEntry 8, .srcGetNextEntry 125, .accessEnd 8, .deviceStore 8 3,
    .accessEnd 125]

theorem rings_isolated_two :
    let params : HalSrngParams :=
      { ringBasePaddr := 0x1000, ringBaseVaddr := 0x8000, numEntries := 4,
        intrBatchCntrThresEntries := 0, intrTimerThresUs := 0, flags := 0,
        lowThreshold := 0, msiAddr := 0, msiData := 0 }
    ∃ final alone,
      run step (halSrngInit false 0x2000 fun _ => 0) (twoRings params) = some final ∧
      run step (halSrngInit false 0x2000 fun _ => 0)
        [.setup .testSrng 0 0 params, .accessBegin 125, .srcGetNextEntry 125,
          .accessEnd 125] = some alone ∧
      final.srngList 125 = alone.srngList 125 ∧
      final.mmio (hwregBase 125 halSrngRegGrpR2) = 5 ∧
      alone.mmio (hwregBase 125 halSrngRegGrpR2) = 5 := by
  intro params
  have seen : (run step (halSrngInit false 0x2000 fun _ => 0) (twoRings params)).map
      (fun hal => hal.mmio (hwregBase 125 halSrngRegGrpR2)) = some 5 := by decide +kernel
  obtain ⟨final, reached, published⟩ := Option.map_eq_some_iff.mp seen
  obtain ⟨_, _, separate, _⟩ := rings_isolated false 0x2000 (fun _ => 0) reached
  obtain ⟨alone, filtered, entry, block, _⟩ := separate 125
  have register := block (hwregBase 125 halSrngRegGrpR2) (hwregBaseR2_inBlock (by decide))
  exact ⟨final, alone, reached, filtered, entry, published, register.symm.trans published⟩

end RingOp

end WirelessSimu
