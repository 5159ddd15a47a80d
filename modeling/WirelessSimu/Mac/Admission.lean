import WirelessSimu.Data.SlotTable
import WirelessSimu.Mac.Interface

namespace WirelessSimu

open Data Kernel

/-! Which interfaces `wireless_mac80211_add_interface` lets in, beside the modes that
`wireless_mac80211_core_probe` advertises. -/

/-- `enum nl80211_iftype`. -/
def Iftype.value : Iftype → UInt64
  | .unspecified => 0
  | .adhoc => 1
  | .station => 2
  | .ap => 3
  | .apVlan => 4
  | .wds => 5
  | .monitor => 6
  | .meshPoint => 7
  | .p2pClient => 8
  | .p2pGo => 9
  | .p2pDevice => 10
  | .ocb => 11
  | .nan => 12

/-- What the probe writes to `wiphy->interface_modes`. -/
def interfaceModes : UInt64 :=
  bit Iftype.monitor.value ||| bit Iftype.ap.value ||| bit Iftype.station.value

def Iftype.Advertised (type : Iftype) : Prop := interfaceModes &&& bit type.value ≠ 0

theorem Iftype.advertised_iff {type : Iftype} :
    type.Advertised ↔ type = .station ∨ type = .ap ∨ type = .monitor := by
  unfold Advertised
  cases type <;> decide

namespace MacConf

variable {conf next : MacConf} {vif slot : Nat} {type : Iftype}

/-- The interface is in the lowest slot that was empty, and set up for it. -/
structure Admitted (conf next : MacConf) (vif : Nat) (type : Iftype) (slot : Nat) :
    Prop where
  lowest : LowestFree maxNumVif conf.vif slot
  stored : next.vif slot = some vif
  others : ∀ other, other ≠ slot → next.vif other = conf.vif other
  vifId : (next.vifs vif).drvPriv.vifId = slot
  priv : (next.vifs vif).drvPriv.priv = true
  hwQueue : ∀ queue ∈ (next.vifs vif).hwQueue, queue.toNat < hwQueues
  cabQueue : type = .ap → (next.vifs vif).cabQueue.toNat < hwQueues

def AdmitsExactly (conf : MacConf) (vif : Nat) (type : Iftype) : Prop :=
  ((∃ next, conf.addInterface vif type = some (next, 0)) ↔
    (type = .station ∨ type = .ap ∨ type = .monitor) ∧
      ∃ slot < maxNumVif, conf.vif slot = none) ∧
  ∀ next, conf.addInterface vif type = some (next, 0) →
    ∃ slot, conf.Admitted next vif type slot

/-- The slot is written before the type is tested. -/
def takeSlot (conf : MacConf) (vif vifId : Nat) : MacConf :=
  let conf := { conf with vif := Function.update conf.vif vifId (some vif) }
  conf.setDrvPriv vif { (conf.vifs vif).drvPriv with vifId := vifId, priv := true }

theorem addInterface_eq (conf : MacConf) (vif : Nat) (type : Iftype) :
    conf.addInterface vif type = (conf.setDrvPriv vif .zero).mutexLock.map fun conf =>
      match conf.freeSlot with
      | none => (conf, -ebusy)
      | some vifId =>
          if type ≠ .station ∨ type ≠ .ap ∨ type ≠ .monitor then
            ((conf.takeSlot vif vifId).mutexUnlock, -einval)
          else (((conf.takeSlot vif vifId).setQueues vif type vifId).mutexUnlock, 0) :=
  rfl

theorem queue_lt (number : Nat) : (number % (hwQueues - 1)).toUInt8.toNat < hwQueues := by
  have small : number % (hwQueues - 1) < 3 := Nat.mod_lt _ (by decide)
  simp only [Nat.toUInt8_eq, UInt8.toNat_ofNat', hwQueues] at small ⊢
  omega

/-- What stands behind the test would admit the interface. -/
theorem admitted_behind_test (found : conf.freeSlot = some slot) :
    conf.Admitted ((conf.takeSlot vif slot).setQueues vif type slot).mutexUnlock vif type
      slot where
  lowest := lowestFree_eq_some.mp found
  stored := Function.update_self ..
  others := by
    intro other different
    exact Function.update_of_ne different _ _
  vifId := by simp [mutexUnlock, setQueues, takeSlot, setDrvPriv]
  priv := by simp [mutexUnlock, setQueues, takeSlot, setDrvPriv]
  hwQueue := by
    intro queue member
    simp only [mutexUnlock, setQueues, Function.update_self] at member
    obtain ⟨ac, _, rfl⟩ := List.mem_map.mp member
    exact queue_lt ac
  cabQueue := by
    intro ap
    simp only [mutexUnlock, setQueues, Function.update_self, if_pos ap]
    exact queue_lt slot

/-- No type is all three at once. -/
theorem addInterface_ne_zero : conf.addInterface vif type ≠ some (next, 0) := by
  have wrong : type ≠ .station ∨ type ≠ .ap ∨ type ≠ .monitor := by
    cases type <;> simp
  intro added
  rw [addInterface_eq] at added
  obtain ⟨locked, _, returned⟩ := Option.map_eq_some_iff.mp added
  split at returned
  · have busy : -ebusy = 0 := congrArg Prod.snd returned
    exact absurd busy (by decide)
  · rw [if_pos wrong] at returned
    have invalid : -einval = 0 := congrArg Prod.snd returned
    exact absurd invalid (by decide)

/-- Whatever is in the table and whoever holds the mutex. -/
theorem add_interface_admits_iff :
    conf.AdmitsExactly vif type ↔
      ¬ (type.Advertised ∧ ∃ slot < maxNumVif, conf.vif slot = none) := by
  rw [Iftype.advertised_iff]
  have never : ¬ ∃ next, conf.addInterface vif type = some (next, 0) := by
    rintro ⟨next, added⟩
    exact addInterface_ne_zero added
  constructor
  · intro admits wanted
    exact never (admits.1.mpr wanted)
  · intro unwanted
    refine ⟨iff_of_false never unwanted, ?_⟩
    intro next added
    exact absurd added addInterface_ne_zero

/-- A station on the empty table. -/
theorem add_interface_refuses_station :
    (start.addInterface 7 .station).map Prod.snd = some (-einval) ∧
      ¬ start.AdmitsExactly 7 .station := by
  refine ⟨by decide +kernel, ?_⟩
  intro admits
  obtain ⟨next, added⟩ := admits.1.mpr ⟨.inl rfl, 0, by decide, rfl⟩
  exact addInterface_ne_zero added

end MacConf

end WirelessSimu
