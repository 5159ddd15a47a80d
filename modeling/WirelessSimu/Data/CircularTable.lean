import Mathlib.Data.List.Basic
import Mathlib.Data.List.Perm.Basic
import WirelessSimu.Data.Cyclic

namespace WirelessSimu.Data

/-! A table of `entries` cells used round and round: the cells hold the part of a
log from `low` on, element `index` in cell `index % entries`, and nothing else. -/

structure CircularTable (entries : Nat) (cell : Nat → Option α) (log : List α)
    (low : Nat) : Prop where
  held : ∀ index value, low ≤ index → log[index]? = some value →
    cell (index % entries) = some value
  empty : ∀ slot, slot < entries →
    (∀ index, low ≤ index → index < log.length → index % entries ≠ slot) →
    cell slot = none

namespace CircularTable

variable {entries low : Nat} {cell : Nat → Option α} {log : List α}

theorem fresh (blank : ∀ slot, cell slot = none) :
    CircularTable entries cell [] 0 where
  held := by
    intro index value _ lookup
    simp at lookup
  empty := fun slot _ _ => blank slot

theorem next_empty (table : CircularTable entries cell log low)
    (lowLe : low ≤ log.length) (room : log.length < low + entries) :
    cell (log.length % entries) = none := by
  apply table.empty _ (Nat.mod_lt _ (by omega))
  intro index lower upper equal
  have := mod_eq_of_window (Nat.le_of_lt upper) (by omega) equal
  omega

theorem front (table : CircularTable entries cell log low)
    (nonempty : low < log.length) : cell (low % entries) = some log[low] :=
  table.held low _ (Nat.le_refl low) (List.getElem?_eq_getElem nonempty)

theorem push (table : CircularTable entries cell log low)
    (lowLe : low ≤ log.length) (room : log.length < low + entries) (value : α) :
    CircularTable entries
      (Function.update cell (log.length % entries) (some value))
      (log ++ [value]) low where
  held := by
    intro index found lower lookup
    obtain ⟨below, old⟩ | ⟨rfl, rfl⟩ := lookup_concat lookup
    · have different : index % entries ≠ log.length % entries := by
        intro equal
        have := mod_eq_of_window (by omega) (by omega) equal
        omega
      rw [Function.update_of_ne different]
      exact table.held index found lower old
    · rw [Function.update_self]
  empty := by
    intro slot bound unused
    simp only [List.length_append, List.length_singleton] at unused
    have different : slot ≠ log.length % entries := by
      intro equal
      exact unused log.length lowLe (by omega) equal.symm
    rw [Function.update_of_ne different]
    exact table.empty slot bound fun index lower upper =>
      unused index lower (by omega)

theorem pop (table : CircularTable entries cell log low)
    (room : log.length ≤ low + entries) :
    CircularTable entries (Function.update cell (low % entries) none) log
      (low + 1) where
  held := by
    intro index found lower lookup
    obtain ⟨upper, _⟩ := List.getElem?_eq_some_iff.mp lookup
    have different : index % entries ≠ low % entries := by
      intro equal
      have := mod_eq_of_window (by omega) (by omega) equal.symm
      omega
    rw [Function.update_of_ne different]
    exact table.held index found (by omega) lookup
  empty := by
    intro slot bound unused
    by_cases own : slot = low % entries
    · rw [own, Function.update_self]
    · rw [Function.update_of_ne own]
      refine table.empty slot bound fun index lower upper equal => ?_
      rcases Nat.eq_or_lt_of_le lower with rfl | above
      · exact own equal.symm
      · exact unused index above upper equal

end CircularTable

/-- Emptying a full cell takes one element out of the contents. -/
theorem filterMap_range_update {entries slot : Nat} {cell : Nat → Option α} {value : α}
    (bound : slot < entries) (full : cell slot = some value) :
    ((List.range entries).filterMap cell).Perm
      (value :: (List.range entries).filterMap
        (Function.update cell slot none)) := by
  have split := List.perm_cons_erase (List.mem_range.mpr bound)
  have absent : slot ∉ (List.range entries).erase slot :=
    List.nodup_range.not_mem_erase
  have same : ((List.range entries).erase slot).filterMap cell =
      ((List.range entries).erase slot).filterMap
        (Function.update cell slot none) := by
    apply List.filterMap_congr
    intro other member
    have different : other ≠ slot := by
      rintro rfl
      exact absent member
    rw [Function.update_of_ne different]
  have before := split.filterMap cell
  have after := split.filterMap (Function.update cell slot none)
  rw [List.filterMap_cons_some full, same] at before
  rw [List.filterMap_cons_none (Function.update_self ..)] at after
  exact before.trans (after.symm.cons value)

namespace CircularTable

variable {entries low : Nat} {cell : Nat → Option α} {log : List α}

/-- The contents of the cells are the elements from `low` on. -/
theorem contents (table : CircularTable entries cell log low)
    (room : log.length ≤ low + entries) :
    ((List.range entries).filterMap cell).Perm (log.drop low) := by
  generalize remaining : log.length - low = count
  induction count generalizing cell low with
  | zero =>
      have blank : (List.range entries).filterMap cell = [] := by
        rw [List.filterMap_eq_nil_iff]
        intro slot member
        exact table.empty slot (List.mem_range.mp member)
          fun index lower upper => absurd upper (by omega)
      rw [blank, List.drop_eq_nil_of_le (by omega)]
  | succ count ih =>
      have nonempty : low < log.length := by omega
      have entriesPos : 0 < entries := by omega
      have rest := ih (table.pop room) (by omega) (by omega)
      rw [List.drop_eq_getElem_cons nonempty]
      exact (filterMap_range_update (Nat.mod_lt _ entriesPos)
        (table.front nonempty)).trans (rest.cons _)

theorem count (table : CircularTable entries cell log low)
    (room : log.length ≤ low + entries) :
    ((List.range entries).filterMap cell).length = log.length - low := by
  rw [(table.contents room).length_eq, List.length_drop]

end CircularTable

/-- How far `to_` lies behind `from_` on a circle of `entries` positions. -/
def cyclicDistance (entries from_ to_ : Nat) : Nat :=
  (to_ + entries - from_) % entries

theorem cyclicDistance_mod {entries low high : Nat} (entriesPos : 0 < entries)
    (lower : low ≤ high) (upper : high < low + entries) :
    cyclicDistance entries (low % entries) (high % entries) = high - low := by
  have lowLt := Nat.mod_lt low entriesPos
  obtain ⟨distance, rfl⟩ := Nat.exists_eq_add_of_le lower
  have small : distance < entries := by omega
  rw [Nat.add_sub_cancel_left, cyclicDistance,
    Nat.add_sub_assoc (Nat.le_of_lt lowLt), Nat.mod_add_mod,
    show low + distance + (entries - low % entries) =
      distance + (low - low % entries) + entries by
        have := Nat.mod_le low entries
        omega,
    Nat.add_mod_right]
  have divides : entries ∣ low - low % entries := Nat.dvd_sub_mod low
  obtain ⟨laps, equal⟩ := divides
  rw [equal, Nat.add_mul_mod_self_left, Nat.mod_eq_of_lt small]

/-- The full cells are those on the way from the oldest element to the place of the
next one. -/
theorem CircularTable.isSome_iff {entries low : Nat} {cell : Nat → Option α}
    {log : List α} (table : CircularTable entries cell log low)
    (lowLe : low ≤ log.length) (room : log.length < low + entries) {slot : Nat}
    (bound : slot < entries) :
    (cell slot).isSome ↔
      cyclicDistance entries (low % entries) slot <
        cyclicDistance entries (low % entries) (log.length % entries) := by
  have entriesPos : 0 < entries := by omega
  have lowLt := Nat.mod_lt low entriesPos
  rw [cyclicDistance_mod entriesPos lowLe room]
  -- The element that would stand in `slot` within one lap from `low`.
  obtain ⟨index, lower, upper, stands⟩ : ∃ index, low ≤ index ∧
      index < low + entries ∧ index % entries = slot := by
    refine ⟨low + cyclicDistance entries (low % entries) slot,
      Nat.le_add_right _ _, ?_, ?_⟩
    · have := Nat.mod_lt (slot + entries - low % entries) entriesPos
      rw [cyclicDistance]
      omega
    · rw [cyclicDistance, Nat.add_mod_mod, ← Nat.mod_add_mod,
        show low % entries + (slot + entries - low % entries) = slot + entries by omega,
        Nat.add_mod_right, Nat.mod_eq_of_lt bound]
  rw [← stands, cyclicDistance_mod entriesPos lower upper]
  constructor
  · intro full
    by_contra outside
    rw [stands, table.empty slot bound] at full
    · contradiction
    · intro other otherLower otherUpper equal
      rw [← stands] at equal
      rcases Nat.le_total other index with below | above
      · have := mod_eq_of_window below (by omega) equal
        omega
      · omega
  · intro inside
    rw [table.held index _ lower (List.getElem?_eq_getElem (by omega))]
    rfl

end WirelessSimu.Data
