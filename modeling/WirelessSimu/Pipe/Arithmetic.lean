import WirelessSimu.Pipe.Bounds
import WirelessSimu.Pipe.Separation

namespace WirelessSimu

open Data Kernel Bounds

/-! The arithmetic of the ring functions: where they divide, add and subtract. -/

/-- `(tp - hp) / entry_size - 1` and `(ring_size - hp + tp) / entry_size - 1`, whichever
`src_num_free` computes. -/
def FreeSafe (srng : HalSrng) (hp tp : UInt32) : Prop :=
  if tp > hp then 1 ≤ (tp.toNat - hp.toNat) / srng.entrySize.toNat
  else hp.toNat ≤ srng.ringSize.toNat ∧
    srng.ringSize.toNat - hp.toNat + tp.toNat < 2 ^ 32 ∧
    1 ≤ (srng.ringSize.toNat - hp.toNat + tp.toNat) / srng.entrySize.toNat

/-- No ring function that may be called on the ring divides by zero or wraps. -/
structure ArithmeticSafe (hal : Hal) (srng : HalSrng) : Prop where
  entrySize : srng.entrySize ≠ 0
  ringSize : srng.ringSize ≠ 0
  reapHp : srng.entrySize ≤ srng.ringSize
  nextHp : srng.ringDir = .src →
    srng.srcRing.hp.toNat + srng.entrySize.toNat < 2 ^ 32
  numFree : srng.ringDir = .src → ∀ syncHwPtr : Bool,
    FreeSafe srng srng.srcRing.hp
      (if syncHwPtr then hal.load srng.srcRing.tpAddr else srng.srcRing.cachedTp)
  nextTp : srng.ringDir = .dst →
    srng.dstRing.tp.toNat + srng.entrySize.toNat < 2 ^ 32

/-- The sizes of a ring are what they should be: the product did not wrap and lies within
the limit that the table declares. -/
structure SizesSafe (srng : HalSrng) (maxSize : UInt32) : Prop where
  product : srng.ringSize.toNat = srng.entrySize.toNat * srng.numEntries.toNat
  positive : 0 < srng.ringSize.toNat
  limit : srng.ringSize ≤ maxSize
  field : srng.ringSize.toNat < 2 ^ 20

/-- The entry counts that the table allows. -/
def EntriesAllowed (type : HalRingType) (params : HalSrngParams) : Prop :=
  1 ≤ params.numEntries.toInt ∧
    params.numEntries.toInt * (hwSrngConfigTemplate type).entrySize.toNat ≤
      (hwSrngConfigTemplate type).maxSize.toNat

instance (type : HalRingType) (params : HalSrngParams) :
    Decidable (EntriesAllowed type params) :=
  inferInstanceAs (Decidable (_ ∧ _))

/-- The two readings of `num_entries`, as `int` and as `u32`. -/
theorem entriesAllowed_iff (type : HalRingType) (params : HalSrngParams) :
    EntriesAllowed type params ↔
      1 ≤ params.numEntries.toUInt32.toNat ∧
        (hwSrngConfigTemplate type).entrySize.toNat * params.numEntries.toUInt32.toNat ≤
          65535 := by
  have signed : params.numEntries.toInt = params.numEntries.toBitVec.toInt := rfl
  have unsigned : params.numEntries.toUInt32.toNat = params.numEntries.toBitVec.toNat := rfl
  have bound := params.numEntries.toBitVec.isLt
  have limit : (hwSrngConfigTemplate type).maxSize.toNat = 65535 := by
    cases type <;> rfl
  rw [EntriesAllowed, signed, unsigned, limit, BitVec.toInt_eq_toNat_cond]
  cases type with
  | testSrng =>
      have size : (hwSrngConfigTemplate .testSrng).entrySize.toNat = 5 := rfl
      rw [size]
      split <;> omega
  | testSrngDst =>
      have size : (hwSrngConfigTemplate .testSrngDst).entrySize.toNat = 3 := rfl
      rw [size]
      split <;> omega
  | testSrngDstStatus =>
      have size : (hwSrngConfigTemplate .testSrngDstStatus).entrySize.toNat = 2 := rfl
      rw [size]
      split <;> omega

theorem srngSetupRing_sizes {hal : Hal} (config : hal.srngConfig = hwSrngConfigTemplate)
    (old : HalSrng) (type : HalRingType) (id : Nat) (params : HalSrngParams) :
    SizesSafe (srngSetupRing hal old type id params) (hwSrngConfigTemplate type).maxSize ↔
      EntriesAllowed type params := by
  have sizePos : 1 ≤ (hwSrngConfigTemplate type).entrySize.toNat := by
    cases type <;> decide
  have ringSize : (srngSetupRing hal old type id params).ringSize.toNat =
      (hwSrngConfigTemplate type).entrySize.toNat *
        params.numEntries.toUInt32.toNat % 2 ^ 32 := by
    simp only [srngSetupRing, config]
    rw [UInt32.toNat_mul, UInt16.toNat_toUInt32]
  have entrySize : (srngSetupRing hal old type id params).entrySize.toNat =
      (hwSrngConfigTemplate type).entrySize.toNat := by
    simp only [srngSetupRing, config, UInt16.toNat_toUInt32]
  have limit : (hwSrngConfigTemplate type).maxSize.toNat = 65535 := by
    cases type <;> rfl
  rw [entriesAllowed_iff]
  constructor
  · intro safe
    have product := safe.product
    have positive := safe.positive
    have below := UInt32.le_iff_toNat_le.mp safe.limit
    rw [limit] at below
    rw [entrySize, show (srngSetupRing hal old type id params).numEntries =
      params.numEntries.toUInt32 from rfl] at product
    rw [product] at positive below
    exact ⟨Nat.pos_of_mul_pos_left positive, below⟩
  · rintro ⟨entriesPos, below⟩
    have whole : (srngSetupRing hal old type id params).ringSize.toNat =
        (hwSrngConfigTemplate type).entrySize.toNat *
          params.numEntries.toUInt32.toNat := by
      rw [ringSize, Nat.mod_eq_of_lt (by omega)]
    refine ⟨?_, ?_, ?_, ?_⟩
    · rw [whole, entrySize]
      rfl
    · rw [whole]
      exact Nat.mul_pos sizePos entriesPos
    · rw [UInt32.le_iff_toNat_le, whole, limit]
      exact below
    · rw [whole]
      omega

/-- The cursor and both tails that `src_num_free` may use stand on entries. -/
structure RingSound (hal : Hal) (srng : HalSrng) : Prop where
  bounded : RingBounded srng
  cached : srng.ringDir = .src → ∃ count,
    StandsAt srng.numEntries.toNat srng.entrySize.toNat srng.srcRing.cachedTp count
  shadow : srng.ringDir = .src → ∃ count,
    StandsAt srng.numEntries.toNat srng.entrySize.toNat
      (hal.load srng.srcRing.tpAddr) count

section Sound

variable {hal : Hal} {srng : HalSrng} {entries size : Nat}

theorem StandsAt.add_lt (shape : RingShape srng entries size) {pointer : UInt32}
    {count : Nat} (stands : StandsAt entries size pointer count) :
    pointer.toNat + srng.entrySize.toNat < 2 ^ 32 := by
  have inside := @slotOffset_add_size_le entries size shape.entries_pos count
  have fits := shape.fits
  rw [stands, shape.entrySize_eq]
  omega

theorem freeSafe_of_stands (shape : RingShape srng entries size) {hp tp : UInt32}
    {head tail : Nat} (atHp : StandsAt entries size hp head)
    (atTp : StandsAt entries size tp tail) : FreeSafe srng hp tp := by
  have entriesPos := shape.entries_pos
  have sizePos := shape.size_pos
  have fits := shape.fits
  have headLt := Nat.mod_lt head entriesPos
  have tailLt := Nat.mod_lt tail entriesPos
  rw [StandsAt, slotOffset] at atHp atTp
  simp only [FreeSafe, gt_iff_lt, UInt32.lt_iff_toNat_lt, atHp, atTp, shape.entrySize_eq,
    shape.ringSize_eq, Nat.mul_lt_mul_left sizePos]
  split
  next ahead =>
      rw [← Nat.mul_sub, Nat.mul_div_cancel_left _ sizePos]
      omega
  next behind =>
      have whole : entries * size - size * (head % entries) + size * (tail % entries) =
          size * (entries - head % entries + tail % entries) := by
        rw [Nat.mul_add, Nat.mul_sub, Nat.mul_comm entries size]
      have within : size * (entries - head % entries + tail % entries) ≤
          size * entries := Nat.mul_le_mul_left size (by omega)
      rw [whole, Nat.mul_div_cancel_left _ sizePos]
      rw [Nat.mul_comm entries size] at fits ⊢
      exact ⟨Nat.mul_le_mul_left size (Nat.le_of_lt headLt), by omega, by omega⟩

theorem RingSound.safe (sound : RingSound hal srng) : ArithmeticSafe hal srng := by
  have shape := sound.bounded.shape
  have entriesPos := shape.entries_pos
  have sizePos := shape.size_pos
  have product := Nat.mul_pos entriesPos sizePos
  refine ⟨?_, ?_, ?_, ?_, ?_, ?_⟩
  · intro zero
    rw [zero] at sizePos
    exact absurd sizePos (by decide)
  · intro zero
    have size := shape.ringSize_eq
    rw [zero, UInt32.toNat_zero] at size
    omega
  · rw [UInt32.le_iff_toNat_le, shape.ringSize_eq]
    exact Nat.le_mul_of_pos_left _ entriesPos
  · intro source
    obtain ⟨count, stands⟩ := sound.bounded.head source
    exact stands.add_lt shape
  · intro source syncHwPtr
    obtain ⟨head, atHp⟩ := sound.bounded.head source
    cases syncHwPtr with
    | false =>
        obtain ⟨tail, atTp⟩ := sound.cached source
        exact freeSafe_of_stands shape atHp atTp
    | true =>
        obtain ⟨tail, atTp⟩ := sound.shadow source
        exact freeSafe_of_stands shape atHp atTp
  · intro destination
    obtain ⟨count, stands⟩ := sound.bounded.tail destination
    exact stands.add_lt shape

end Sound

section Moves

variable {hal hal' : Hal} {srng srng' : HalSrng}

theorem Moves.numEntries (moves : Moves hal srng srng') :
    srng'.numEntries = srng.numEntries := by
  rw [moves.rest]

theorem Moves.bounded (moves : Moves hal srng srng') (bounded : RingBounded srng) :
    RingBounded srng' := by
  have shape := bounded.shape
  have dir : srng'.ringDir = srng.ringDir := moves.same.ringDir
  have size : srng'.entrySize = srng.entrySize := moves.same.entrySize
  refine ⟨?_, ?_, ?_⟩ <;> rw [moves.numEntries, size]
  · exact
      { entries_pos := shape.entries_pos
        size_pos := shape.size_pos
        entrySize_eq := congrArg UInt32.toNat size
        ringSize_eq := by rw [moves.same.ringSize, shape.ringSize_eq] }
  · intro source
    obtain ⟨count, stands⟩ := bounded.head (dir ▸ source)
    obtain kept | advanced := moves.hp
    · exact ⟨count, kept ▸ stands⟩
    · exact ⟨count + 1, advanced ▸ shape.advance_mod stands⟩
  · intro destination
    obtain ⟨count, stands⟩ := bounded.tail (dir ▸ destination)
    obtain kept | advanced := moves.tp
    · exact ⟨count, kept ▸ stands⟩
    · exact ⟨count + 1, advanced ▸ shape.advance_compare stands⟩

theorem RingSound.moves (sound : RingSound hal srng) (moves : Moves hal srng srng')
    (shadow : srng.ringDir = .src → ∃ count,
      StandsAt srng.numEntries.toNat srng.entrySize.toNat
        (hal'.load srng.srcRing.tpAddr) count) :
    RingSound hal' srng' := by
  have dir : srng'.ringDir = srng.ringDir := moves.same.ringDir
  refine ⟨moves.bounded sound.bounded, ?_, ?_⟩ <;>
    rw [moves.numEntries, moves.same.entrySize]
  · intro source
    obtain kept | read := moves.cachedTp
    · rw [kept]
      exact sound.cached (dir ▸ source)
    · rw [read]
      exact sound.shadow (dir ▸ source)
  · intro source
    rw [moves.srcAddr.1]
    exact shadow (dir ▸ source)

end Moves

namespace RingOp

/-- Setups stay within the table, and the device reports the tail of a source ring by the
offset of an entry. -/
def Allowed (hal : Hal) : RingOp → Prop
  | .setup type _ _ params => EntriesAllowed type params
  | .deviceStore id value => (hal.srngList id).ringDir = .src →
      value < (hal.srngList id).ringSize ∧
        value.toNat % (hal.srngList id).entrySize.toNat = 0
  | _ => True

instance (hal : Hal) : (op : RingOp) → Decidable (op.Allowed hal)
  | .setup type _ _ params => inferInstanceAs (Decidable (EntriesAllowed type params))
  | .deviceStore _ _ => inferInstanceAs (Decidable (_ → _ ∧ _))
  | .accessBegin _ | .srcNumFree _ _ | .srcGetNextEntry _ | .srcGetNextReaped _
  | .dstGetNextEntry _ | .testSend _ _ _ _ _ | .enqueuePipe _ _ _ _ _
  | .recvNext _ _ _ _ | .accessEnd _ => isTrue trivial

structure Sound (hal : Hal) : Prop where
  wired : HalWired hal
  config : hal.srngConfig = hwSrngConfigTemplate
  rings : ∀ id, (hal.srngList id).initialized ≠ 0 →
    RingSound hal (hal.srngList id) ∧ (hal.srngList id).ringSize.toNat < 2 ^ 20

variable {hal next : Hal} {op : RingOp} {id : Nat}

theorem sound_setup {type : HalRingType} {ringNum macId : Int} {params : HalSrngParams}
    (config : hal.srngConfig = hwSrngConfigTemplate) (mem : Nat → UInt32)
    (found : halSrngGetRingId hal type ringNum macId = (id : Int))
    (allowed : EntriesAllowed type params) :
    RingSound (halSrngSetup hal mem type ringNum macId params).1
        ((halSrngSetup hal mem type ringNum macId params).1.srngList id) ∧
      ((halSrngSetup hal mem type ringNum macId params).1.srngList id).ringSize.toNat <
        2 ^ 20 := by
  have setup : halSrngSetup hal mem type ringNum macId params =
      ((halSrngSetup hal mem type ringNum macId params).1,
        (halSrngSetup hal mem type ringNum macId params).2.1, (id : Int)) :=
    Prod.ext rfl (Prod.ext rfl ((halSrngSetup_ret ..).trans found))
  have done := halSrngSetup_done setup
  have ring := done.ring_eq
  have sizes := (srngSetupRing_sizes config (hal.srngList id) type id params).mpr allowed
  have lmac : (hal.srngConfig type).lmacRing = false := by
    rw [config]
    cases type <;> rfl
  have counts := (entriesAllowed_iff type params).mp allowed
  have admissible : Admissible hal type params := by
    refine ⟨counts.1, ?_, ?_⟩
    · rw [config]
      cases type <;> decide
    · rw [config, Nat.mul_comm]
      omega
  rw [ring]
  refine ⟨⟨srngSetupRing_bounded admissible _ _, fun source => ⟨0, ?_⟩,
    fun source => ⟨0, ?_⟩⟩, sizes.field⟩
  · simp only [srngSetupRing] at source
    simp only [srngSetupRing, source]
    exact .zero _ _
  · simp only [srngSetupRing] at source
    simp only [srngSetupRing, source, done.shadow, lmac, if_neg Bool.false_ne_true]
    exact .zero _ _

/-- The word that the device may store is the offset of an entry. -/
theorem standsAt_of_allowed {srng : HalSrng} {entries size : Nat} {value : UInt32}
    (shape : RingShape srng entries size) (inside : value < srng.ringSize)
    (aligned : value.toNat % srng.entrySize.toNat = 0) :
    ∃ count, StandsAt entries size value count := by
  have below := UInt32.lt_iff_toNat_lt.mp inside
  rw [shape.ringSize_eq, Nat.mul_comm] at below
  rw [shape.entrySize_eq] at aligned
  refine ⟨value.toNat / size, ?_⟩
  rw [StandsAt, slotOffset, Nat.mod_eq_of_lt (Nat.div_lt_of_lt_mul below),
    Nat.mul_div_cancel' (Nat.dvd_of_mod_eq_zero aligned)]

theorem sound_own (sound : Sound hal) (allowed : op.Allowed hal)
    (enabled : op.enabled hal = true) (own : op.ring hal = some id) :
    ((op.act hal).srngList id).initialized ≠ 0 →
      RingSound (op.act hal) ((op.act hal).srngList id) ∧
        ((op.act hal).srngList id).ringSize.toNat < 2 ^ 20 := by
  intro _
  cases kind : op.isSetup with
  | true =>
      cases op with
      | setup type ringNum macId params =>
          exact sound_setup sound.config _ (setup_ring own) allowed
      | _ => cases kind
  | false =>
      have live := (enabled_spec enabled own kind).1
      obtain ⟨ring, small⟩ := sound.rings id live
      have moves := act_moves own kind
      refine ⟨ring.moves moves fun source => ?_, by rw [moves.same.ringSize]; exact small⟩
      have shadow := (sound.wired.direct id live).shadow
      simp only [HalSrng.shadowAddr, source] at shadow
      obtain kept | ⟨value, rfl⟩ := act_rdp sound.wired enabled own kind
      · have before := ring.shadow source
        rw [shadow] at before ⊢
        rwa [Hal.load, kept]
      · rw [shadow, act, Hal.load_store_self]
        obtain ⟨inside, aligned⟩ := allowed source
        exact standsAt_of_allowed ring.bounded.shape inside aligned

theorem sound_step (sound : Sound hal) (allowed : op.Allowed hal)
    (stepped : op.step hal = some next) : Sound next := by
  have wiredNext := wired_step sound.wired stepped
  have configNext := config_step sound.wired stepped
  obtain ⟨enabled, rfl⟩ := step_eq_some.mp stepped
  refine ⟨wiredNext, configNext.trans sound.config, ?_⟩
  cases own : op.ring hal with
  | none =>
      rw [act_none own]
      exact sound.rings
  | some ring =>
      intro other initialized
      by_cases same : other = ring
      · subst same
        exact sound_own sound allowed enabled own initialized
      · have kept := (act_confined sound.wired enabled own).same_other same
        rw [kept.srng] at initialized ⊢
        obtain ⟨before, small⟩ := sound.rings other initialized
        refine ⟨⟨before.bounded, before.cached, fun source => ?_⟩, small⟩
        have shadow := (sound.wired.direct other initialized).shadow
        simp only [HalSrng.shadowAddr, source] at shadow
        have word := before.shadow source
        rw [shadow] at word ⊢
        rwa [kept.word (.rdp other) rfl]

/-- A setup that is accepted gives the sizes that the table promises just when the entry
count is one the table allows, and in every run with such counts and such a device the
arithmetic on every ring is safe. -/
theorem ring_arithmetic_safe (cpuBigEndian : Bool) (rdpPaddr : UInt64)
    (mmio : UInt32 → UInt32) {ops : List RingOp} {final : Hal}
    (reached : run step (halSrngInit cpuBigEndian rdpPaddr mmio) ops = some final) :
    (∀ (mem mem' : Nat → UInt32) (type : HalRingType) (ringNum macId : Int)
      (params : HalSrngParams) (id : Nat) (next : Hal),
      halSrngSetup final mem type ringNum macId params = (next, mem', (id : Int)) →
      (SizesSafe (next.srngList id) (hwSrngConfigTemplate type).maxSize ↔
        EntriesAllowed type params)) ∧
    (Meets step (fun hal op => op.Allowed hal) (halSrngInit cpuBigEndian rdpPaddr mmio)
        ops →
      ∀ id, (final.srngList id).initialized ≠ 0 →
        ArithmeticSafe final (final.srngList id) ∧
          (final.srngList id).ringSize.toNat < 2 ^ 20) := by
  have wired := wired_init cpuBigEndian rdpPaddr mmio
  constructor
  · intro mem mem' type ringNum macId params id next setup
    have config := run_invariant
      (fun hal => HalWired hal ∧ hal.srngConfig = hwSrngConfigTemplate)
      (fun _ _ _ stepped ⟨wired, same⟩ =>
        ⟨wired_step wired stepped, (config_step wired stepped).trans same⟩)
      reached ⟨wired, rfl⟩
    rw [(halSrngSetup_done setup).ring_eq]
    exact srngSetupRing_sizes config.2 ..
  · intro allowed id initialized
    have start : Sound (halSrngInit cpuBigEndian rdpPaddr mmio) :=
      ⟨wired, rfl, fun _ initialized => absurd rfl initialized⟩
    have sound := allowed.invariant Sound
      (fun _ _ _ allowed stepped sound => sound_step sound allowed stepped) reached start
    obtain ⟨ring, small⟩ := sound.rings id initialized
    exact ⟨ring.safe, small⟩

/-- Four entries, and a device that has consumed two of them. -/
theorem ring_arithmetic_safe_four :
    let params : HalSrngParams :=
      { ringBasePaddr := 0x1000, ringBaseVaddr := 0x8000, numEntries := 4,
        intrBatchCntrThresEntries := 0, intrTimerThresUs := 0, flags := 0,
        lowThreshold := 0, msiAddr := 0, msiData := 0 }
    let ops : List RingOp :=
      [.setup .testSrng 0 0 params, .accessBegin 125, .srcGetNextEntry 125,
        .srcGetNextEntry 125, .accessEnd 125, .deviceStore 125 10, .srcNumFree 125 true]
    ∃ final, run step (halSrngInit false 0x2000 fun _ => 0) ops = some final ∧
      (final.srngList 125).srcRing.cachedTp = 10 ∧
      ArithmeticSafe final (final.srngList 125) := by
  intro params ops
  have seen : (run step (halSrngInit false 0x2000 fun _ => 0) ops).map (fun hal =>
      ((hal.srngList 125).initialized, (hal.srngList 125).srcRing.cachedTp)) =
      some (1, 10) := by decide +kernel
  have allowed : Meets step (fun hal op => op.Allowed hal)
      (halSrngInit false 0x2000 fun _ => 0) ops := by decide +kernel
  obtain ⟨final, reached, fields⟩ := Option.map_eq_some_iff.mp seen
  obtain ⟨initialized, cached⟩ := Prod.mk.inj fields
  have live : (final.srngList 125).initialized ≠ 0 := by
    rw [initialized]
    decide
  obtain ⟨safe, _⟩ :=
    (ring_arithmetic_safe false 0x2000 (fun _ => 0) reached).2 allowed 125 live
  exact ⟨final, reached, cached, safe⟩

/-- A ring of no entries is accepted, and so is one whose size wraps to less than an
entry. -/
theorem setup_accepts_any_count :
    let params : Int32 → HalSrngParams := fun numEntries =>
      { ringBasePaddr := 0x1000, ringBaseVaddr := 0x8000, numEntries := numEntries,
        intrBatchCntrThresEntries := 0, intrTimerThresUs := 0, flags := 0,
        lowThreshold := 0, msiAddr := 0, msiData := 0 }
    let setup : Int32 → Hal × (Nat → UInt32) × Int := fun numEntries =>
      halSrngSetup (halSrngInit false 0x2000 fun _ => 0) (fun _ => 0) .testSrng 0 0
        (params numEntries)
    ((setup 0).2.2 = 125 ∧ ((setup 0).1.srngList 125).ringSize = 0) ∧
    ((setup 858993460).2.2 = 125 ∧
      ((setup 858993460).1.srngList 125).ringSize = 4 ∧
      ((setup 858993460).1.srngList 125).entrySize = 5) ∧
    ¬ ∀ (type : HalRingType) (ringNum macId : Int) (params : HalSrngParams),
      0 ≤ (halSrngSetup (halSrngInit false 0x2000 fun _ => 0) (fun _ => 0) type ringNum
        macId params).2.2 →
      SizesSafe
        ((halSrngSetup (halSrngInit false 0x2000 fun _ => 0) (fun _ => 0) type ringNum
          macId params).1.srngList
            (halSrngSetup (halSrngInit false 0x2000 fun _ => 0) (fun _ => 0) type ringNum
              macId params).2.2.toNat)
        (hwSrngConfigTemplate type).maxSize := by
  intro params setup
  refine ⟨by decide +kernel, by decide +kernel, fun all => ?_⟩
  have safe := all .testSrng 0 0 (params 0) (by decide +kernel)
  exact absurd safe.positive (by decide +kernel)

end RingOp

end WirelessSimu
