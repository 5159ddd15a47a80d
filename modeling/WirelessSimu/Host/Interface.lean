import WirelessSimu.Data.Run
import WirelessSimu.Data.SlotTable
import WirelessSimu.Mac.Interface

namespace WirelessSimu.Host

open Data Kernel

/-! The interfaces of the driver on the host side. A slot is found by a search when an
interface is added and by the number in its private data when it is removed. -/

def maxNumVif : Nat := 4

def eopnotsupp : Int := 95

/-- `struct simuwifi_vif`; `dev` tells whether the pointer is set. -/
structure SimuwifiVif where
  dev : Bool
  idx : Int
  deriving DecidableEq, Repr

/-- The fields of `struct simuwifi_host_priv` that the two callbacks use, and the private
data of each interface. -/
structure HostPriv where
  vif : Nat → Option Nat
  macAddr : Fin 6 → UInt8
  drvPriv : Nat → SimuwifiVif

namespace HostPriv

/-- `ieee80211_alloc_hw` returns zeroed memory, and so is the private data. -/
def start : HostPriv where
  vif := fun _ => none
  macAddr := fun _ => 0
  drvPriv := fun _ => ⟨false, 0⟩

def supports : Iftype → Bool
  | .ap | .station | .adhoc | .monitor | .meshPoint => true
  | _ => false

/-- `simuwifi_add_interface`, which does not write the private data. -/
def addInterface (priv : HostPriv) (vif : Nat) (type : Iftype) (addr : Fin 6 → UInt8) :
    HostPriv × Int :=
  if supports type then
    match lowestFree maxNumVif priv.vif with
    | none => (priv, -ebusy)
    | some slot =>
        ({ priv with vif := Function.update priv.vif slot (some vif), macAddr := addr }, 0)
  else (priv, -eopnotsupp)

/-- `simuwifi_remove_interface`; `none` is a store outside the table. -/
def removeInterface (priv : HostPriv) (vif : Nat) : Option HostPriv :=
  let idx := (priv.drvPriv vif).idx
  if 0 ≤ idx ∧ idx < maxNumVif then
    some { priv with vif := Function.update priv.vif idx.toNat none }
  else none

/-- Everything the call can do: refuse the interface or put it into the lowest empty
slot. -/
theorem addInterface_cases (priv : HostPriv) (vif : Nat) (type : Iftype)
    (addr : Fin 6 → UInt8) :
    (∃ code, code ≠ 0 ∧ priv.addInterface vif type addr = (priv, code) ∧
      ¬ (supports type = true ∧ ∃ slot < maxNumVif, priv.vif slot = none)) ∨
    supports type = true ∧ ∃ slot, LowestFree maxNumVif priv.vif slot ∧
      priv.addInterface vif type addr =
        ({ priv with vif := Function.update priv.vif slot (some vif), macAddr := addr },
          0) := by
  unfold addInterface
  split
  next supported =>
      cases found : lowestFree maxNumVif priv.vif with
      | none =>
          refine .inl ⟨-ebusy, by decide, rfl, ?_⟩
          rintro ⟨_, slot, inRange, empty⟩
          exact lowestFree_eq_none.mp found slot inRange empty
      | some slot => exact .inr ⟨supported, slot, lowestFree_eq_some.mp found, rfl⟩
  next unsupported =>
      refine .inl ⟨-eopnotsupp, by decide, rfl, ?_⟩
      rintro ⟨supported, _⟩
      exact unsupported supported

end HostPriv

/-- The table and the interfaces that were added and not yet removed. -/
structure Tracked where
  priv : HostPriv
  added : Finset Nat

namespace Tracked

open HostPriv

inductive Call where
  | add (vif : Nat) (type : Iftype) (addr : Fin 6 → UInt8)
  | remove (vif : Nat)

def start : Tracked := ⟨.start, ∅⟩

def step (tracked : Tracked) : Call → Option Tracked
  | .add vif type addr =>
      let (priv, ret) := tracked.priv.addInterface vif type addr
      some ⟨priv, if ret = 0 then insert vif tracked.added else tracked.added⟩
  | .remove vif =>
      (tracked.priv.removeInterface vif).map fun priv => ⟨priv, tracked.added.erase vif⟩

/-- Only an interface that is added is removed. -/
def Allowed (tracked : Tracked) : Call → Prop
  | .add _ _ _ => True
  | .remove vif => vif ∈ tracked.added

instance : ∀ tracked call, Decidable (Allowed tracked call)
  | _, .add _ _ _ => isTrue trivial
  | tracked, .remove vif => inferInstanceAs (Decidable (vif ∈ tracked.added))

def Exact (tracked : Tracked) : Prop :=
  HoldsExactly maxNumVif tracked.priv.vif tracked.added

/-- The slots that held the interface are empty and the others as before. -/
def Clears (vif : Nat) (before after : Tracked) : Prop :=
  ∀ slot < maxNumVif, after.priv.vif slot =
    if before.priv.vif slot = some vif then none else before.priv.vif slot

/-- The interface that is removed is the one in the first slot, and none that is there
is put in again. -/
def InTurn (tracked : Tracked) : Call → Prop
  | .add vif type _ =>
      supports type = true → (∃ slot < maxNumVif, tracked.priv.vif slot = none) →
        vif ∉ tracked.added
  | .remove vif => tracked.priv.vif 0 = some vif

instance : ∀ tracked call, Decidable (InTurn tracked call)
  | tracked, .add vif type _ =>
      inferInstanceAs (Decidable (supports type = true →
        (∃ slot < maxNumVif, tracked.priv.vif slot = none) → vif ∉ tracked.added))
  | tracked, .remove vif => inferInstanceAs (Decidable (tracked.priv.vif 0 = some vif))

structure Inv (tracked : Tracked) : Prop where
  exact_ : tracked.Exact
  zeroed : ∀ vif, (tracked.priv.drvPriv vif).idx = 0

variable {tracked : Tracked} {calls : List Call}

theorem Inv.start : Inv start where
  exact_ := .empty fun _ _ => rfl
  zeroed := fun _ => rfl

theorem Inv.add (inv : tracked.Inv) (vif : Nat) (type : Iftype) (addr : Fin 6 → UInt8) :
    ∃ next, tracked.step (.add vif type addr) = some next ∧
      (next.Exact ↔ tracked.InTurn (.add vif type addr)) ∧
      ∀ vif, (next.priv.drvPriv vif).idx = 0 := by
  obtain ⟨code, failed, refused, noPlace⟩ | ⟨supported, slot, lowest, stored⟩ :=
    tracked.priv.addInterface_cases vif type addr
  · refine ⟨tracked, ?_, iff_of_true inv.exact_ ?_, inv.zeroed⟩
    · simp only [step, refused, if_neg failed]
    · intro supported place
      exact absurd ⟨supported, place⟩ noPlace
  · have fresh := @HoldsExactly.put_iff _ _ _ _ _ _ vif inv.exact_ lowest.inRange
      lowest.empty
    have stepped : tracked.step (.add vif type addr) = some
        ⟨{ tracked.priv with
            vif := Function.update tracked.priv.vif slot (some vif), macAddr := addr },
          insert vif tracked.added⟩ := by
      simp only [step, stored, if_true]
    refine ⟨_, stepped, fresh.trans ?_, inv.zeroed⟩
    constructor
    · exact fun absent _ _ => absent
    · exact fun inTurn => inTurn supported ⟨slot, lowest.inRange, lowest.empty⟩

theorem Inv.removed (inv : tracked.Inv) (vif : Nat) :
    tracked.step (.remove vif) = some
      ⟨{ tracked.priv with vif := Function.update tracked.priv.vif 0 none },
        tracked.added.erase vif⟩ := by
  simp [step, removeInterface, inv.zeroed vif, maxNumVif]

/-- Each call comes to an exact table exactly if it is in turn. -/
theorem step_decides : StepDecides step Allowed InTurn Exact Inv := by
  intro tracked call inv allowed
  cases call with
  | add vif type addr =>
      obtain ⟨next, stepped, decided, zeroed⟩ := inv.add vif type addr
      exact ⟨next, stepped, decided, fun inTurn => ⟨decided.mpr inTurn, zeroed⟩⟩
  | remove vif =>
      have decided := inv.exact_.clear_iff (show 0 < maxNumVif by decide) allowed
      exact ⟨_, inv.removed vif, decided, fun inTurn => ⟨decided.mpr inTurn, inv.zeroed⟩⟩

theorem Inv.clears (inv : tracked.Inv) {vif : Nat} {next : Tracked}
    (first : tracked.priv.vif 0 = some vif)
    (stepped : tracked.step (.remove vif) = some next) : Clears vif tracked next := by
  rw [inv.removed vif] at stepped
  cases stepped
  intro slot inRange
  by_cases zero : slot = 0
  · have cleared : Function.update tracked.priv.vif 0 none 0 = none :=
      Function.update_self ..
    rw [zero, if_pos first]
    exact cleared
  · have other : tracked.priv.vif slot ≠ some vif := by
      intro held
      exact zero (inv.exact_.once slot inRange 0 (by decide) vif held first)
    rw [if_neg other]
    exact Function.update_of_ne zero none tracked.priv.vif

/-- For every sequence of calls, the table is exact after each of them and a removal
clears what it should, exactly if all calls are in turn. -/
theorem host_interface_table (allowed : Meets step Allowed start calls) :
    ((∀ past, past <+: calls → ∃ middle, run step start past = some middle ∧
        middle.Exact) ∧
      ∀ past vif before after, past ++ [.remove vif] <+: calls →
        run step start past = some before → before.step (.remove vif) = some after →
        Clears vif before after) ↔
      Meets step InTurn start calls := by
  have exactly := Meets.iff_prefixes step_decides (fun _ inv => inv.exact_) Inv.start allowed
  constructor
  · intro kept
    exact exactly.mp kept.1
  · intro inTurn
    refine ⟨exactly.mpr inTurn, ?_⟩
    intro past vif before after removed reached stepped
    obtain ⟨middle, same, inv⟩ := Meets.prefixes step_decides Inv.start allowed inTurn
      ((List.prefix_append past _).trans removed)
    rw [reached] at same
    cases same
    obtain ⟨rest, rfl⟩ := removed
    have later := (Meets.append.mp (Meets.append.mp inTurn).1).2 before reached
    exact inv.clears later.1 stepped

def anAddr : Fin 6 → UInt8 := fun place => place.val.toUInt8

/-- It is always the interface in the first slot that goes. -/
def addedInTurn : List Call :=
  [.add 5 .station anAddr, .add 6 .ap anAddr, .remove 5, .add 7 .monitor anAddr, .remove 7,
    .add 8 .nan anAddr]

theorem host_interface_table_inTurn :
    ∃ middle, run step start addedInTurn = some middle ∧ middle.Exact := by
  have kept := (@host_interface_table addedInTurn (by decide +kernel)).mpr
    (by decide +kernel)
  exact kept.1 _ List.prefix_rfl

/-- The second interface is removed and the first one goes. -/
theorem host_interface_table_wrong_slot :
    Meets step Allowed start [.add 5 .station anAddr, .add 6 .ap anAddr, .remove 6] ∧
    ∃ before after, run step start [.add 5 .station anAddr, .add 6 .ap anAddr] =
        some before ∧ before.step (.remove 6) = some after ∧
      after.priv.vif 0 = none ∧ after.priv.vif 1 = some 6 ∧ after.added = {5} ∧
      ¬ after.Exact ∧ ¬ Clears 6 before after := by
  have seen : (run step start [.add 5 .station anAddr, .add 6 .ap anAddr]).bind
      (fun before => (before.step (.remove 6)).map fun after =>
        (before.priv.vif 1, after.priv.vif 0, after.priv.vif 1, after.added)) =
      some (some 6, none, some 6, {5}) := by decide +kernel
  obtain ⟨before, reached, values⟩ := Option.bind_eq_some_iff.mp seen
  obtain ⟨after, removed, values⟩ := Option.map_eq_some_iff.mp values
  simp only [Prod.mk.injEq] at values
  obtain ⟨held, first, second, added⟩ := values
  refine ⟨by decide +kernel, before, after, reached, removed, first, second, added, ?_, ?_⟩
  · intro exact_
    have member := (exact_.holds 6).mp ⟨1, by decide, second⟩
    rw [added] at member
    exact absurd member (by decide)
  · intro clears
    have cleared := clears 1 (by decide)
    rw [if_pos held, second] at cleared
    cases cleared

end Tracked

end WirelessSimu.Host
