import WirelessSimu.Mac.Removal

namespace WirelessSimu

open Data Kernel

/-! What the driver keeps of the queue parameters and of the filter, over whole runs of
the callbacks with traffic in between. -/

inductive AccessCategory where
  | vo
  | vi
  | be
  | bk
  deriving DecidableEq, Repr

/-- `enum ieee80211_ac_numbers`. -/
def AccessCategory.number : AccessCategory → UInt16
  | .vo => 0
  | .vi => 1
  | .be => 2
  | .bk => 3

def SimuVif.arg (simuVif : SimuVif) : AccessCategory → TxParamsArg
  | .vo => simuVif.acVo
  | .vi => simuVif.acVi
  | .be => simuVif.acBe
  | .bk => simuVif.acBk

def SimuVif.setArg (simuVif : SimuVif) (arg : TxParamsArg) : AccessCategory → SimuVif
  | .vo => { simuVif with acVo := arg }
  | .vi => { simuVif with acVi := arg }
  | .be => { simuVif with acBe := arg }
  | .bk => { simuVif with acBk := arg }

def TxParamsArg.params (arg : TxParamsArg) : TxQueueParams :=
  ⟨arg.txop, arg.cwmin, arg.cwmax, arg.aifs⟩

/-- The argument with the parameters and nothing else set. -/
def TxQueueParams.arg (params : TxQueueParams) : TxParamsArg :=
  ⟨0, params.aifs, params.cwMin, params.cwMax, params.txop, 0⟩

namespace MacConf

/-- The parameters that the callback leaves for the category of the interface: those of a
new interface are zero. -/
def Callback.params (vif : Nat) (ac : AccessCategory) : Callback → Option TxQueueParams
  | .addInterface added _ => if added = vif then some ⟨0, 0, 0, 0⟩ else none
  | .confTx own number params =>
      if own = vif ∧ number = ac.number then some params else none
  | _ => none

def Callback.filter : Callback → Option UInt32
  | .configureFilter totalFlags => some (totalFlags &&& supportFilters)
  | _ => none

def Callback.isConfTx : Callback → Bool
  | .confTx _ _ _ => true
  | _ => false

def arg (conf : MacConf) (vif : Nat) (ac : AccessCategory) : TxParamsArg :=
  (conf.vifs vif).drvPriv.arg ac

variable {conf next locked : MacConf} {callback : Callback} {ret : Int} {vif : Nat}
  {ac : AccessCategory}

theorem mutexLock_eq_some (took : conf.mutexLock = some locked) :
    locked = { conf with macConfMutex := true } := by
  unfold mutexLock at took
  split at took
  · cases took
  · cases took
    rfl

theorem setDrvPriv_arg (own : Nat) (simuVif : SimuVif) :
    (conf.setDrvPriv own simuVif).arg vif ac =
      if own = vif then simuVif.arg ac else conf.arg vif ac := by
  by_cases same : own = vif
  · simp only [arg, setDrvPriv, same, Function.update_self, if_true]
  · simp only [arg, setDrvPriv, if_neg same, Function.update_of_ne (Ne.symm same)]

/-- The private data is cleared first, and nothing later in the callback writes one of
the four arguments. -/
theorem addInterface_arg {added : Nat} {type : Iftype}
    (called : conf.addInterface added type = some (next, ret)) (vif : Nat)
    (ac : AccessCategory) :
    next.arg vif ac =
      if added = vif then TxQueueParams.arg ⟨0, 0, 0, 0⟩ else conf.arg vif ac := by
  obtain ⟨locked, took, done⟩ := Option.map_eq_some_iff.mp called
  have cleared : locked.arg vif ac =
      if added = vif then TxQueueParams.arg ⟨0, 0, 0, 0⟩ else conf.arg vif ac := by
    rw [mutexLock_eq_some took]
    refine (setDrvPriv_arg added .zero).trans ?_
    cases ac <;> rfl
  rw [← cleared]
  split at done
  next =>
      cases done
      rfl
  next vifId found =>
      have wrong : type ≠ .station ∨ type ≠ .ap ∨ type ≠ .monitor := by
        cases type <;> simp
      simp only [if_pos wrong] at done
      cases done
      refine (setDrvPriv_arg added _).trans ?_
      split
      next same =>
          rw [← same]
          cases ac <;> rfl
      next => rfl

/-- Of the four arguments `conf_tx` writes the one whose category it was called with. -/
theorem confTx_number {own : Nat} {chosen : AccessCategory} {params : TxQueueParams} :
    conf.confTx own chosen.number params = conf.mutexLock.map fun conf =>
      ((conf.setDrvPriv own ((conf.vifs own).drvPriv.setArg
        ((conf.arg own chosen).config params) chosen)).mutexUnlock, 0) := by
  cases chosen <;> rfl

theorem confTx_unknown {own : Nat} {number : UInt16} {params : TxQueueParams}
    (unknown : ∀ ac : AccessCategory, number ≠ ac.number) :
    conf.confTx own number params = conf.mutexLock.map fun conf =>
      (conf.mutexUnlock, -einval) := by
  have voice : number ≠ 0 := unknown .vo
  have effort : number ≠ 2 := unknown .be
  have background : number ≠ 3 := unknown .bk
  have video : number ≠ 1 := unknown .vi
  simp only [confTx, voice, effort, background, video, if_false]

theorem confTx_arg {own : Nat} {number : UInt16} {params : TxQueueParams}
    (called : conf.confTx own number params = some (next, ret)) (vif : Nat)
    (ac : AccessCategory) :
    next.arg vif ac =
      if own = vif ∧ number = ac.number then (conf.arg vif ac).config params
      else conf.arg vif ac := by
  by_cases known : ∃ chosen : AccessCategory, number = chosen.number
  · obtain ⟨chosen, rfl⟩ := known
    rw [confTx_number] at called
    obtain ⟨locked, took, done⟩ := Option.map_eq_some_iff.mp called
    cases mutexLock_eq_some took
    cases done
    refine (setDrvPriv_arg own _).trans ?_
    by_cases same : own = vif
    · subst same
      simp only [true_and, if_true]
      cases chosen <;> cases ac <;> rfl
    · simp only [same, false_and, if_false]
      rfl
  · rw [confTx_unknown (not_exists.mp known)] at called
    obtain ⟨locked, took, done⟩ := Option.map_eq_some_iff.mp called
    cases mutexLock_eq_some took
    cases done
    rw [if_neg fun own => known ⟨ac, own.2⟩]
    rfl

/-- A callback other than those two leaves the private data of the interfaces alone. -/
theorem call_other (called : conf.call callback = some (next, ret))
    (noAdd : callback.isAdd = false) (noConf : callback.isConfTx = false) :
    next.vifs = conf.vifs ∧
      next.filterFlags = callback.filter.getD conf.filterFlags := by
  cases callback with
  | start =>
      cases called
      exact ⟨rfl, rfl⟩
  | stop =>
      cases called
      exact ⟨rfl, rfl⟩
  | addInterface added type => cases noAdd
  | removeInterface gone =>
      obtain ⟨locked, took, done⟩ := Option.map_eq_some_iff.mp called
      cases mutexLock_eq_some took
      cases done
      exact ⟨rfl, rfl⟩
  | configureFilter totalFlags =>
      obtain ⟨locked, took, done⟩ := Option.map_eq_some_iff.mp called
      cases mutexLock_eq_some took
      cases done
      exact ⟨rfl, rfl⟩
  | confTx own number params => cases noConf
  | mgmtTxWork hasVif =>
      cases hasVif with
      | false =>
          cases called
          exact ⟨rfl, rfl⟩
      | true =>
          obtain ⟨locked, took, done⟩ := Option.map_eq_some_iff.mp called
          cases mutexLock_eq_some took
          cases done
          exact ⟨rfl, rfl⟩

/-- What a callback leaves of the argument: all of it, zeros, or the parameters that it
was called with beside the two fields that no callback sets. -/
theorem call_arg (called : conf.call callback = some (next, ret)) :
    (next.arg vif ac).params =
        (callback.params vif ac).getD (conf.arg vif ac).params ∧
      (conf.arg vif ac = (conf.arg vif ac).params.arg →
        next.arg vif ac = (next.arg vif ac).params.arg) := by
  have other (noAdd : callback.isAdd = false) (noConf : callback.isConfTx = false) :
      next.arg vif ac = conf.arg vif ac := by
    unfold arg
    rw [(call_other called noAdd noConf).1]
  cases callback with
  | addInterface added type =>
      rw [addInterface_arg called vif ac, Callback.params]
      split
      next => exact ⟨rfl, fun _ => rfl⟩
      next => exact ⟨rfl, id⟩
  | confTx own number params =>
      rw [confTx_arg called vif ac, Callback.params]
      split
      next =>
          refine ⟨rfl, fun plain => ?_⟩
          rw [plain]
          rfl
      next => exact ⟨rfl, id⟩
  | _ =>
      rw [other rfl rfl]
      exact ⟨rfl, id⟩

theorem call_filterFlags (called : conf.call callback = some (next, ret)) :
    next.filterFlags = callback.filter.getD conf.filterFlags := by
  cases callback with
  | addInterface added type =>
      obtain ⟨locked, took, done⟩ := Option.map_eq_some_iff.mp called
      cases mutexLock_eq_some took
      split at done
      next =>
          cases done
          rfl
      next =>
          dsimp only at done
          split at done <;> cases done <;> rfl
  | confTx own number params =>
      by_cases known : ∃ chosen : AccessCategory, number = chosen.number
      · obtain ⟨chosen, rfl⟩ := known
        rw [call, confTx_number] at called
        obtain ⟨locked, took, done⟩ := Option.map_eq_some_iff.mp called
        cases mutexLock_eq_some took
        cases done
        rfl
      · rw [call, confTx_unknown (not_exists.mp known)] at called
        obtain ⟨locked, took, done⟩ := Option.map_eq_some_iff.mp called
        cases mutexLock_eq_some took
        cases done
        rfl
  | _ => exact (call_other called rfl rfl).2

end MacConf

namespace MacDevice

variable {callers : Nat} {device next : MacDevice} {event : Event}

def Event.params (vif : Nat) (ac : AccessCategory) : Event → Option TxQueueParams
  | .callback called => called.params vif ac
  | _ => none

def Event.filter : Event → Option UInt32
  | .callback called => called.filter
  | _ => none

/-- Traffic moves nothing in the configuration but the mutex. -/
theorem step_conf (stepped : device.step callers event = some next) :
    (∃ callback ret, event = .callback callback ∧
      device.conf.call callback = some (next.conf, ret)) ∨
    (∀ vif ac, event.params vif ac = none) ∧ event.filter = none ∧
      ∃ held, next.conf = { device.conf with macConfMutex := held } := by
  cases event with
  | mac event =>
      simp only [MacDevice.step] at stepped
      split at stepped
      next => cases stepped
      next =>
          obtain ⟨mac, moved, rfl⟩ := Option.map_eq_some_iff.mp stepped
          refine .inr ⟨fun _ _ => rfl, rfl, ?_⟩
          unfold workUnlock
          split
          next => exact ⟨false, rfl⟩
          next => exact ⟨device.conf.macConfMutex, rfl⟩
  | workLock =>
      simp only [MacDevice.step] at stepped
      split at stepped
      next =>
          obtain ⟨conf, took, rfl⟩ := Option.map_eq_some_iff.mp stepped
          exact .inr ⟨fun _ _ => rfl, rfl, true, MacConf.mutexLock_eq_some took⟩
      next => cases stepped
  | callback callback =>
      simp only [MacDevice.step] at stepped
      split at stepped
      next => cases stepped
      next =>
          obtain ⟨result, called, rfl⟩ := Option.map_eq_some_iff.mp stepped
          exact .inl ⟨callback, result.2, rfl, called⟩

theorem step_arg (vif : Nat) (ac : AccessCategory)
    (stepped : device.step callers event = some next) :
    (next.conf.arg vif ac).params =
        (event.params vif ac).getD (device.conf.arg vif ac).params ∧
      (device.conf.arg vif ac = (device.conf.arg vif ac).params.arg →
        next.conf.arg vif ac = (next.conf.arg vif ac).params.arg) := by
  rcases step_conf stepped with ⟨callback, ret, rfl, called⟩ | ⟨silent, -, held, same⟩
  · exact MacConf.call_arg called
  · rw [silent vif ac, same]
    exact ⟨rfl, id⟩

theorem step_filterFlags (stepped : device.step callers event = some next) :
    next.conf.filterFlags = event.filter.getD device.conf.filterFlags := by
  rcases step_conf stepped with ⟨callback, ret, rfl, called⟩ | ⟨-, silent, held, same⟩
  · exact MacConf.call_filterFlags called
  · rw [silent, same]
    rfl

/-- Whatever frames are sent in between, each category of each interface has the
parameters of the last `conf_tx` for it since the interface was last added, with the two
fields that the driver never sets still zero, and the filter is the last one asked for,
less what the hardware does not support. -/
theorem configuration_last_written {events : List Event} {final : MacDevice}
    (reached : run (MacDevice.step callers) .start events = some final) :
    (∀ vif ac, final.conf.arg vif ac =
      ((events.filterMap (Event.params vif ac)).getLastD ⟨0, 0, 0, 0⟩).arg) ∧
    final.conf.filterFlags = (events.filterMap Event.filter).getLastD 0 := by
  have filter := run_lastWritten (fun device => device.conf.filterFlags) Event.filter
    (fun _ _ _ => step_filterFlags) reached
  refine ⟨fun vif ac => ?_, filter⟩
  have plain := run_invariant
    (fun device : MacDevice => device.conf.arg vif ac = (device.conf.arg vif ac).params.arg)
    (fun _ _ _ stepped => (step_arg vif ac stepped).2) reached (by cases ac <;> rfl)
  have last := run_lastWritten (fun device => (device.conf.arg vif ac).params)
    (Event.params vif ac) (fun _ _ _ stepped => (step_arg vif ac stepped).1) reached
  rw [plain, last]
  cases ac <;> rfl

/-- A frame is under way between the two `conf_tx`, and the interface is added again
before a third. -/
def configuredTwice : List Event :=
  [.callback (.addInterface 3 .station), .callback (.confTx 3 0 ⟨47, 3, 7, 2⟩),
    .mac (.tx 0 ⟨0x0040, 0, none, some 3⟩ ⟨100, 28, 0⟩), .mac (.call 0), .mac (.call 0),
    .callback (.confTx 3 1 ⟨94, 7, 15, 2⟩), .callback (.addInterface 3 .station),
    .mac (.call 0), .mac .work, .callback (.confTx 3 1 ⟨0, 7, 31, 4⟩),
    .callback (.confTx 3 4 ⟨1, 1, 1, 1⟩), .callback (.configureFilter 0xffffffff)]

theorem configuration_last_written_twice :
    ∃ final, run (MacDevice.step 1) .start configuredTwice = some final ∧
      final.conf.arg 3 .vo = ⟨0, 0, 0, 0, 0, 0⟩ ∧
      final.conf.arg 3 .vi = ⟨0, 4, 7, 31, 0, 0⟩ ∧
      final.conf.filterFlags = 0x3fe := by
  have seen : (run (MacDevice.step 1) .start configuredTwice).isSome := by decide +kernel
  obtain ⟨final, reached⟩ := Option.isSome_iff_exists.mp seen
  obtain ⟨params, filter⟩ := configuration_last_written reached
  refine ⟨final, reached, ?_, ?_, ?_⟩
  · rw [params]
    decide
  · rw [params]
    decide
  · rw [filter]
    decide

end MacDevice

end WirelessSimu
