import WirelessSimu.Data.Run
import WirelessSimu.Kernel.Base

namespace WirelessSimu

open Data Kernel

/-! The callbacks that configure the interfaces. `mac_conf_mutex` protects them and the
commands of the work item; a callback that finds it held does not return. -/

inductive Iftype where
  | unspecified
  | adhoc
  | station
  | ap
  | apVlan
  | wds
  | monitor
  | meshPoint
  | p2pClient
  | p2pGo
  | p2pDevice
  | ocb
  | nan
  deriving DecidableEq, Repr

structure TxParamsArg where
  acm : UInt8
  aifs : UInt8
  cwmin : UInt16
  cwmax : UInt16
  txop : UInt16
  noAck : UInt8
  deriving DecidableEq, Repr

/-- The fields of `struct ieee80211_tx_queue_params` that `conf_tx` reads. -/
structure TxQueueParams where
  txop : UInt16
  cwMin : UInt16
  cwMax : UInt16
  aifs : UInt8
  deriving DecidableEq, Repr

def TxParamsArg.config (arg : TxParamsArg) (params : TxQueueParams) : TxParamsArg :=
  { arg with
    cwmax := params.cwMax
    cwmin := params.cwMin
    aifs := params.aifs
    txop := params.txop }

/-- `struct wireless_simu_vif`; `priv` tells whether the pointer is set. -/
structure SimuVif where
  priv : Bool
  vifId : Nat
  acBe : TxParamsArg
  acBk : TxParamsArg
  acVi : TxParamsArg
  acVo : TxParamsArg
  deriving DecidableEq, Repr

def SimuVif.zero : SimuVif :=
  ⟨false, 0, ⟨0, 0, 0, 0, 0, 0⟩, ⟨0, 0, 0, 0, 0, 0⟩, ⟨0, 0, 0, 0, 0, 0⟩,
    ⟨0, 0, 0, 0, 0, 0⟩⟩

/-- What the driver writes of `struct ieee80211_vif`, with its private data. -/
structure Vif where
  drvPriv : SimuVif
  hwQueue : List UInt8
  cabQueue : UInt8
  deriving DecidableEq, Repr

def maxNumVif : Nat := 4

def hwQueues : Nat := 4

def invalHwQueue : UInt8 := 0xff

def supportFilters : UInt32 :=
  0x2 ||| 0x4 ||| 0x8 ||| 0x10 ||| 0x20 ||| 0x40 ||| 0x80 ||| 0x100 ||| 0x200

/-- Interfaces are numbered; `vif` is the table of the driver and `vifs` the memory of
each interface. -/
structure MacConf where
  vif : Nat → Option Nat
  vifs : Nat → Vif
  macConfMutex : Bool
  filterFlags : UInt32
  txInterruptEnable : Bool
  rxInterruptEnable : Bool

namespace MacConf

def start : MacConf where
  vif := fun _ => none
  vifs := fun _ => ⟨.zero, [0, 0, 0, 0], 0⟩
  macConfMutex := false
  filterFlags := 0
  txInterruptEnable := false
  rxInterruptEnable := false

/-- A callback, or one iteration of the work item with a frame that has an interface or
not. -/
inductive Callback where
  | start
  | stop
  | addInterface (vif : Nat) (type : Iftype)
  | removeInterface (vif : Nat)
  | configureFilter (totalFlags : UInt32)
  | confTx (vif : Nat) (ac : UInt16) (params : TxQueueParams)
  | mgmtTxWork (hasVif : Bool)
  deriving DecidableEq, Repr

def mutexLock (conf : MacConf) : Option MacConf :=
  if conf.macConfMutex then none else some { conf with macConfMutex := true }

def mutexUnlock (conf : MacConf) : MacConf := { conf with macConfMutex := false }

def setDrvPriv (conf : MacConf) (vif : Nat) (simuVif : SimuVif) : MacConf :=
  { conf with
    vifs := Function.update conf.vifs vif { conf.vifs vif with drvPriv := simuVif } }

/-- The loop that looks for an empty slot. -/
def freeSlot (conf : MacConf) : Option Nat :=
  (List.range maxNumVif).find? fun vifId => (conf.vif vifId).isNone

def setQueues (conf : MacConf) (vif : Nat) (type : Iftype) (vifId : Nat) : MacConf :=
  { conf with
    vifs := Function.update conf.vifs vif
      { conf.vifs vif with
        hwQueue := (List.range 4).map fun ac => (ac % (hwQueues - 1)).toUInt8
        cabQueue :=
          if type = .ap then (vifId % (hwQueues - 1)).toUInt8 else invalHwQueue } }

def macStart (conf : MacConf) : MacConf × Int :=
  ({ conf with
      vif := fun vifId => if vifId < maxNumVif then none else conf.vif vifId
      txInterruptEnable := true
      rxInterruptEnable := true }, 0)

def macStop (conf : MacConf) : MacConf × Int :=
  ({ conf with
      vif := fun vifId => if vifId < maxNumVif then none else conf.vif vifId
      txInterruptEnable := false
      rxInterruptEnable := false }, 0)

/-- `wireless_mac80211_add_interface`. The return with a full table does not release
the mutex, and the slot is taken before the type is tested. -/
def addInterface (conf : MacConf) (vif : Nat) (type : Iftype) : Option (MacConf × Int) :=
  (conf.setDrvPriv vif .zero).mutexLock.map fun conf =>
    match conf.freeSlot with
    | none => (conf, -ebusy)
    | some vifId =>
        let conf := { conf with vif := Function.update conf.vif vifId (some vif) }
        let conf := conf.setDrvPriv vif
          { (conf.vifs vif).drvPriv with vifId := vifId, priv := true }
        if type ≠ .station ∨ type ≠ .ap ∨ type ≠ .monitor then
          (conf.mutexUnlock, -einval)
        else ((conf.setQueues vif type vifId).mutexUnlock, 0)

def removeInterface (conf : MacConf) (vif : Nat) : Option (MacConf × Int) :=
  conf.mutexLock.map fun conf =>
    let conf := { conf with
      vif := Function.update conf.vif (conf.vifs vif).drvPriv.vifId none }
    (conf.mutexUnlock, 0)

def configureFilter (conf : MacConf) (totalFlags : UInt32) : Option (MacConf × Int) :=
  conf.mutexLock.map fun conf =>
    let conf := { conf with filterFlags := totalFlags &&& supportFilters }
    (conf.mutexUnlock, 0)

/-- The categories are voice, video, best effort and background. -/
def confTx (conf : MacConf) (vif : Nat) (ac : UInt16) (params : TxQueueParams) :
    Option (MacConf × Int) :=
  conf.mutexLock.map fun conf =>
    let simuVif := (conf.vifs vif).drvPriv
    let done (simuVif : SimuVif) : MacConf × Int :=
      ((conf.setDrvPriv vif simuVif).mutexUnlock, 0)
    if ac = 0 then done { simuVif with acVo := simuVif.acVo.config params }
    else if ac = 2 then done { simuVif with acBe := simuVif.acBe.config params }
    else if ac = 3 then done { simuVif with acBk := simuVif.acBk.config params }
    else if ac = 1 then done { simuVif with acVi := simuVif.acVi.config params }
    else (conf.mutexUnlock, -einval)

/-- `wireless_simu_mgmt_tx_wmi` uses nothing of what the mutex protects. -/
def mgmtTxWork (conf : MacConf) (hasVif : Bool) : Option (MacConf × Int) :=
  if hasVif then conf.mutexLock.map fun conf => (conf.mutexUnlock, 0) else some (conf, 0)

def call (conf : MacConf) : Callback → Option (MacConf × Int)
  | .start => some conf.macStart
  | .stop => some conf.macStop
  | .addInterface vif type => conf.addInterface vif type
  | .removeInterface vif => conf.removeInterface vif
  | .configureFilter totalFlags => conf.configureFilter totalFlags
  | .confTx vif ac params => conf.confTx vif ac params
  | .mgmtTxWork hasVif => conf.mgmtTxWork hasVif

def step (conf : MacConf) (callback : Callback) : Option MacConf :=
  (conf.call callback).map Prod.fst

def Callback.isAdd : Callback → Bool
  | .addInterface _ _ => true
  | _ => false

/-- An interface that is added finds an empty slot. -/
def RoomLeft (conf : MacConf) (callback : Callback) : Prop :=
  callback.isAdd = true → ∃ vifId < maxNumVif, conf.vif vifId = none

instance : ∀ conf callback, Decidable (RoomLeft conf callback)
  | conf, callback =>
      inferInstanceAs (Decidable (callback.isAdd = true →
        ∃ vifId < maxNumVif, conf.vif vifId = none))

def Released (conf : MacConf) (callbacks : List Callback) : Prop :=
  ∀ past, past <+: callbacks →
    ∃ middle, run step conf past = some middle ∧ middle.macConfMutex = false

variable {conf : MacConf} {callback : Callback} {callbacks : List Callback}

theorem mutexLock_of_free (free : conf.macConfMutex = false) :
    conf.mutexLock = some { conf with macConfMutex := true } := by
  simp [mutexLock, free]

theorem freeSlot_isSome :
    conf.freeSlot.isSome ↔ ∃ vifId < maxNumVif, conf.vif vifId = none := by
  simp [freeSlot, List.find?_isSome]

theorem addInterface_slot (free : conf.macConfMutex = false) {vifId : Nat}
    (found : conf.freeSlot = some vifId) (vif : Nat) (type : Iftype) :
    ∃ next, conf.addInterface vif type = some (next, -einval) ∧
      next.macConfMutex = false ∧ next.vif = Function.update conf.vif vifId (some vif) := by
  have wrong : type ≠ .station ∨ type ≠ .ap ∨ type ≠ .monitor := by
    cases type <;> simp
  have slot : freeSlot { conf.setDrvPriv vif .zero with macConfMutex := true } =
      some vifId := found
  have locked := @mutexLock_of_free (conf.setDrvPriv vif .zero) free
  simp only [addInterface, locked, Option.map_some, slot, if_pos wrong]
  exact ⟨_, rfl, rfl, rfl⟩

theorem addInterface_full (free : conf.macConfMutex = false)
    (full : conf.freeSlot = none) (vif : Nat) (type : Iftype) :
    ∃ next, conf.addInterface vif type = some (next, -ebusy) ∧
      next.macConfMutex = true := by
  have slot : freeSlot { conf.setDrvPriv vif .zero with macConfMutex := true } = none :=
    full
  have locked := @mutexLock_of_free (conf.setDrvPriv vif .zero) free
  simp only [addInterface, locked, Option.map_some, slot]
  exact ⟨_, rfl, rfl⟩

theorem call_of_not_add (free : conf.macConfMutex = false)
    (other : callback.isAdd = false) :
    ∃ next ret, conf.call callback = some (next, ret) ∧ next.macConfMutex = false := by
  cases callback with
  | start => exact ⟨_, _, rfl, free⟩
  | stop => exact ⟨_, _, rfl, free⟩
  | addInterface vif type => cases other
  | removeInterface vif =>
      simp only [call, removeInterface, mutexLock_of_free free, Option.map_some]
      exact ⟨_, _, rfl, rfl⟩
  | configureFilter totalFlags =>
      simp only [call, configureFilter, mutexLock_of_free free, Option.map_some]
      exact ⟨_, _, rfl, rfl⟩
  | confTx vif ac params =>
      simp only [call, confTx, mutexLock_of_free free, Option.map_some]
      split_ifs <;> exact ⟨_, _, rfl, rfl⟩
  | mgmtTxWork hasVif =>
      simp only [call, mgmtTxWork, mutexLock_of_free free, Option.map_some]
      cases hasVif with
      | false => exact ⟨_, _, rfl, free⟩
      | true => exact ⟨_, _, rfl, rfl⟩

/-- No callback blocks when the mutex is free, and only a full table keeps it. -/
theorem step_of_free (free : conf.macConfMutex = false) (callback : Callback) :
    ∃ next, conf.step callback = some next ∧
      (next.macConfMutex = false ↔ conf.RoomLeft callback) := by
  cases kind : callback.isAdd with
  | false =>
      obtain ⟨next, ret, called, released⟩ := call_of_not_add free kind
      refine ⟨next, by simp [step, called], iff_of_true released ?_⟩
      simp [RoomLeft, kind]
  | true =>
      cases callback with
      | addInterface vif type =>
          cases found : conf.freeSlot with
          | none =>
              obtain ⟨next, called, held⟩ := addInterface_full free found vif type
              have noRoom : ¬ conf.RoomLeft (.addInterface vif type) := by
                intro room
                have slot := freeSlot_isSome.mpr (room rfl)
                rw [found] at slot
                cases slot
              refine ⟨next, by simp [step, call, called], iff_of_false ?_ noRoom⟩
              simp [held]
          | some vifId =>
              obtain ⟨next, called, released, -⟩ := addInterface_slot free found vif type
              refine ⟨next, by simp [step, call, called], iff_of_true released ?_⟩
              intro _
              exact freeSlot_isSome.mp (by simp [found])
      | _ => cases kind

theorem step_decides : StepDecides step (fun _ _ => True) RoomLeft
    (fun conf => conf.macConfMutex = false) (fun conf => conf.macConfMutex = false) := by
  intro conf callback free _
  obtain ⟨next, stepped, room⟩ := step_of_free free callback
  exact ⟨next, stepped, room, room.mpr⟩

/-- With any table, the mutex is free after every callback exactly if no interface is
added to a full table. -/
theorem mac_conf_mutex_released (free : conf.macConfMutex = false) :
    conf.Released callbacks ↔ Meets step RoomLeft conf callbacks := by
  have anything : Meets step (fun _ _ => True) conf callbacks :=
    .of_forall (fun _ _ _ => trivial) conf
  exact Meets.iff_prefixes step_decides (fun _ released => released) free anything

theorem mac_conf_mutex_released_four :
    start.Released [.addInterface 0 .station, .addInterface 1 .ap,
      .mgmtTxWork true, .addInterface 2 .monitor, .addInterface 3 .station,
      .removeInterface 3, .confTx 0 0 ⟨0, 3, 7, 2⟩, .configureFilter 0xffffffff] :=
  (mac_conf_mutex_released rfl).mpr (by decide +kernel)

def oneTooMany : List Callback :=
  [.addInterface 0 .station, .addInterface 1 .station, .addInterface 2 .station,
    .addInterface 3 .station, .addInterface 4 .station]

/-- A fifth interface is refused with the mutex held, and the next callback blocks. -/
theorem mac_conf_mutex_stays_held :
    ∃ held, run step start oneTooMany = some held ∧
      held.macConfMutex = true ∧ held.step (.mgmtTxWork true) = none := by
  have seen : (run step start oneTooMany).map MacConf.macConfMutex = some true := by
    decide +kernel
  obtain ⟨held, reached, locked⟩ := Option.map_eq_some_iff.mp seen
  refine ⟨held, reached, locked, ?_⟩
  simp [step, call, mgmtTxWork, mutexLock, locked]

end MacConf

/-- The table together with what the callbacks returned. `added` is the slot that an
interface got from its last `add_interface`, if that returned 0 and no later callback
gave the slot up; `live` is what mac80211 takes for added. -/
structure TrackedConf where
  conf : MacConf
  added : Nat → Option Nat
  live : Nat → Bool

namespace TrackedConf

open MacConf

def start : TrackedConf := ⟨.start, fun _ => none, fun _ => false⟩

def returned (tracked : TrackedConf) (conf : MacConf) (ret : Int) :
    Callback → TrackedConf
  | .start | .stop => ⟨conf, fun _ => none, tracked.live⟩
  | .addInterface vif _ =>
      ⟨conf, Function.update tracked.added vif
          (if ret = 0 then some (conf.vifs vif).drvPriv.vifId else none),
        Function.update tracked.live vif (ret = 0)⟩
  | .removeInterface vif =>
      ⟨conf, Function.update tracked.added vif none,
        Function.update tracked.live vif false⟩
  | _ => ⟨conf, tracked.added, tracked.live⟩

def step (tracked : TrackedConf) (callback : Callback) : Option TrackedConf :=
  (tracked.conf.call callback).map fun result =>
    tracked.returned result.1 result.2 callback

/-- mac80211 removes only what it added, and adds nothing twice. -/
def Allowed (tracked : TrackedConf) : Callback → Prop
  | .addInterface vif _ => tracked.live vif = false
  | .removeInterface vif => tracked.live vif = true
  | _ => True

instance : ∀ tracked callback, Decidable (Allowed tracked callback)
  | tracked, .addInterface vif _ => inferInstanceAs (Decidable (tracked.live vif = false))
  | tracked, .removeInterface vif => inferInstanceAs (Decidable (tracked.live vif = true))
  | _, .start => isTrue trivial
  | _, .stop => isTrue trivial
  | _, .configureFilter _ => isTrue trivial
  | _, .confTx _ _ _ => isTrue trivial
  | _, .mgmtTxWork _ => isTrue trivial

/-- The table holds an interface exactly in the slot that it was given. -/
def Consistent (tracked : TrackedConf) : Prop :=
  ∀ vifId < maxNumVif, ∀ vif,
    tracked.conf.vif vifId = some vif ↔ tracked.added vif = some vifId

structure Fresh (tracked : TrackedConf) : Prop where
  free : tracked.conf.macConfMutex = false
  empty : ∀ vifId < maxNumVif, tracked.conf.vif vifId = none
  none : ∀ vif, tracked.added vif = none
  notLive : ∀ vif, tracked.live vif = false

variable {tracked : TrackedConf} {callback : Callback} {callbacks : List Callback}

theorem Fresh.consistent (fresh : tracked.Fresh) : tracked.Consistent := by
  intro vifId inRange vif
  rw [fresh.empty vifId inRange, fresh.none vif]
  simp

theorem Fresh.step (fresh : tracked.Fresh) (allowed : tracked.Allowed callback)
    (other : callback.isAdd = false) :
    ∃ next, tracked.step callback = some next ∧ next.Fresh := by
  have locked := MacConf.mutexLock_of_free fresh.free
  cases callback with
  | start =>
      refine ⟨_, rfl, fresh.free, ?_, fun _ => rfl, fresh.notLive⟩
      intro vifId inRange
      exact if_pos inRange
  | stop =>
      refine ⟨_, rfl, fresh.free, ?_, fun _ => rfl, fresh.notLive⟩
      intro vifId inRange
      exact if_pos inRange
  | addInterface vif type => cases other
  | removeInterface vif =>
      have never := fresh.notLive vif
      rw [show tracked.live vif = true from allowed] at never
      cases never
  | configureFilter totalFlags =>
      simp only [TrackedConf.step, MacConf.call, MacConf.configureFilter, locked,
        Option.map_some]
      exact ⟨_, rfl, rfl, fresh.empty, fresh.none, fresh.notLive⟩
  | confTx vif ac params =>
      simp only [TrackedConf.step, MacConf.call, MacConf.confTx, locked, Option.map_some]
      split_ifs <;> exact ⟨_, rfl, rfl, fresh.empty, fresh.none, fresh.notLive⟩
  | mgmtTxWork hasVif =>
      simp only [TrackedConf.step, MacConf.call, MacConf.mgmtTxWork, locked,
        Option.map_some]
      cases hasVif with
      | false => exact ⟨_, rfl, fresh.free, fresh.empty, fresh.none, fresh.notLive⟩
      | true => exact ⟨_, rfl, rfl, fresh.empty, fresh.none, fresh.notLive⟩

/-- An interface that is added stays in the table although it was refused. -/
theorem Fresh.add (fresh : tracked.Fresh) (vif : Nat) (type : Iftype) :
    ∃ next, tracked.step (.addInterface vif type) = some next ∧ ¬ next.Consistent := by
  obtain ⟨vifId, found⟩ := Option.isSome_iff_exists.mp
    (MacConf.freeSlot_isSome.mpr ⟨0, by decide, fresh.empty 0 (by decide)⟩)
  have inRange : vifId < maxNumVif :=
    List.mem_range.mp (List.mem_of_find?_eq_some found)
  obtain ⟨conf, called, -, table⟩ := MacConf.addInterface_slot fresh.free found vif type
  refine ⟨tracked.returned conf (-einval) (.addInterface vif type),
    by simp [TrackedConf.step, MacConf.call, called], ?_⟩
  intro consistent
  have given := (consistent vifId inRange vif).mp (by
    simp [returned, table])
  simp [returned, einval] at given

theorem step_decides : StepDecides TrackedConf.step Allowed
    (fun _ callback => callback.isAdd = false) Consistent Fresh := by
  intro tracked callback fresh allowed
  cases kind : callback.isAdd with
  | true =>
      cases callback with
      | addInterface vif type =>
          obtain ⟨next, stepped, wrong⟩ := fresh.add vif type
          have added : ¬ (Callback.addInterface vif type).isAdd = false := by simp [kind]
          exact ⟨next, stepped, iff_of_false wrong added, fun other => absurd other added⟩
      | _ => cases kind
  | false =>
      obtain ⟨next, stepped, freshNext⟩ := fresh.step allowed kind
      exact ⟨next, stepped, iff_of_true freshNext.consistent kind, fun _ => freshNext⟩

theorem Fresh.consistent_iff (fresh : tracked.Fresh)
    (allowed : Meets TrackedConf.step Allowed tracked callbacks) :
    (∀ past middle, past <+: callbacks →
      run TrackedConf.step tracked past = some middle → middle.Consistent) ↔
      ∀ callback ∈ callbacks, callback.isAdd = false := by
  constructor
  · intro consistent
    have noAdd := Meets.of_prefixes step_decides fresh allowed consistent
    obtain ⟨final, reached, _⟩ :=
      Meets.prefixes step_decides fresh allowed noAdd List.prefix_rfl
    exact noAdd.forall_mem reached
  · intro noAdd past middle before reached
    have kept : Meets TrackedConf.step (fun _ callback => callback.isAdd = false) tracked
        callbacks := .of_forall (fun callback member _ => noAdd callback member) tracked
    obtain ⟨other, same, freshThen⟩ := Meets.prefixes step_decides fresh allowed kept before
    rw [reached] at same
    cases same
    exact freshThen.consistent

/-- For every sequence of callbacks that mac80211 may make, the table is consistent after
each of them exactly if no interface is ever added. -/
theorem interface_table_consistent
    (allowed : Meets TrackedConf.step Allowed start callbacks) :
    (∀ past middle, past <+: callbacks →
      run TrackedConf.step start past = some middle → middle.Consistent) ↔
      ∀ callback ∈ callbacks, callback.isAdd = false :=
  Fresh.consistent_iff ⟨rfl, fun _ _ => rfl, fun _ => rfl, fun _ => rfl⟩ allowed

theorem interface_table_consistent_idle :
    ∃ middle, run TrackedConf.step start [.start, .configureFilter 6, .stop, .start] =
        some middle ∧ middle.Consistent := by
  have seen : (run TrackedConf.step start
      [.start, .configureFilter 6, .stop, .start]).isSome := by decide +kernel
  obtain ⟨middle, reached⟩ := Option.isSome_iff_exists.mp seen
  exact ⟨middle, reached, (interface_table_consistent (by decide +kernel)).mpr (by decide)
    _ middle List.prefix_rfl reached⟩

/-- A station interface gets `-EINVAL` and stays in slot 0. -/
theorem interface_table_inconsistent :
    Meets TrackedConf.step Allowed start [.start, .addInterface 7 .station] ∧
    ∃ middle, run TrackedConf.step start [.start, .addInterface 7 .station] =
        some middle ∧
      middle.conf.vif 0 = some 7 ∧ middle.added 7 = none ∧ ¬ middle.Consistent := by
  have seen : (run TrackedConf.step start [.start, .addInterface 7 .station]).map
      (fun middle => (middle.conf.vif 0, middle.added 7)) = some (some 7, none) := by
    decide +kernel
  obtain ⟨middle, reached, values⟩ := Option.map_eq_some_iff.mp seen
  simp only [Prod.mk.injEq] at values
  refine ⟨by decide +kernel, middle, reached, values.1, values.2, fun consistent => ?_⟩
  have given := (consistent 0 (by decide) 7).mp values.1
  rw [values.2] at given
  cases given

end TrackedConf

end WirelessSimu
