import Mathlib.Logic.Function.Basic

namespace WirelessSimu.Data

/-! Positions of a ring of `entries` slots, each `size` words long. Producers
and consumers are counted from the start of time; the `count`-th element lives
in slot `count % entries`, at word offset `slotOffset entries size count`. -/

def slotOffset (entries size count : Nat) : Nat := size * (count % entries)

theorem mod_eq_of_window {entries first second : Nat}
    (lower : first ≤ second) (upper : second < first + entries)
    (equal : first % entries = second % entries) : first = second := by
  obtain ⟨distance, rfl⟩ := Nat.exists_eq_add_of_le lower
  have small : distance < entries := by omega
  have divides : entries ∣ distance := by
    have zero := Nat.sub_mod_eq_zero_of_mod_eq equal.symm
    rw [Nat.add_sub_cancel_left] at zero
    exact Nat.dvd_of_mod_eq_zero zero
  have : distance = 0 := Nat.eq_zero_of_dvd_of_lt divides small
  omega

theorem slotOffset_lt {entries size : Nat} (entriesPos : 0 < entries)
    (sizePos : 0 < size) (count : Nat) :
    slotOffset entries size count < entries * size := by
  rw [slotOffset, Nat.mul_comm entries size]
  exact Nat.mul_lt_mul_of_pos_left (Nat.mod_lt count entriesPos) sizePos

theorem slotOffset_add_size_le {entries size : Nat} (entriesPos : 0 < entries)
    (count : Nat) : slotOffset entries size count + size ≤ entries * size := by
  have bound : count % entries + 1 ≤ entries := Nat.mod_lt count entriesPos
  calc slotOffset entries size count + size
      = size * (count % entries + 1) := by rw [slotOffset, Nat.mul_succ]
    _ ≤ size * entries := Nat.mul_le_mul_left size bound
    _ = entries * size := Nat.mul_comm size entries

/-- Advancing by modulo of the ring size is advancing the count. -/
theorem slotOffset_succ (entries size count : Nat) :
    (slotOffset entries size count + size) % (entries * size) =
      slotOffset entries size (count + 1) := by
  rw [slotOffset, slotOffset, ← Nat.mul_succ, Nat.mul_comm entries size,
    Nat.mul_mod_mul_left, Nat.succ_eq_add_one, Nat.mod_add_mod]

/-- Advancing by comparison with the ring size is advancing the count. -/
theorem slotOffset_succ_of_compare {entries : Nat} (entriesPos : 0 < entries)
    (size count : Nat) :
    (if slotOffset entries size count + size = entries * size then 0
      else slotOffset entries size count + size) =
      slotOffset entries size (count + 1) := by
  rw [← slotOffset_succ entries size count]
  split
  next full => rw [full, Nat.mod_self]
  next notFull =>
      have bound := @slotOffset_add_size_le entries size entriesPos count
      rw [Nat.mod_eq_of_lt (by omega)]

theorem slotOffset_inj {entries size first second : Nat} (sizePos : 0 < size)
    (lower : first ≤ second) (upper : second < first + entries)
    (equal : slotOffset entries size first = slotOffset entries size second) :
    first = second :=
  mod_eq_of_window lower upper (Nat.eq_of_mul_eq_mul_left sizePos equal)

theorem slotOffset_zero (entries size : Nat) : slotOffset entries size 0 = 0 := by
  simp [slotOffset]

/-- The distance between a consumer and the producer ahead of it, read off the
two offsets with one wrap. -/
theorem slotOffset_distance {entries size low high : Nat}
    (entriesPos : 0 < entries) (sizePos : 0 < size)
    (lower : low ≤ high) (upper : high < low + entries) :
    (if slotOffset entries size low > slotOffset entries size high then
        (slotOffset entries size low - slotOffset entries size high) / size
      else (entries * size - slotOffset entries size high +
        slotOffset entries size low) / size) = entries - (high - low) := by
  have lowLt := Nat.mod_lt low entriesPos
  have highLt := Nat.mod_lt high entriesPos
  -- The producer is `high - low` slots ahead, so its slot wraps at most once.
  have position : high % entries =
      if low % entries + (high - low) < entries then low % entries + (high - low)
      else low % entries + (high - low) - entries := by
    have reduced : high % entries = (low % entries + (high - low)) % entries := by
      rw [Nat.mod_add_mod, Nat.add_sub_cancel' lower]
    rw [reduced]
    split
    next small => exact Nat.mod_eq_of_lt small
    next large =>
        rw [Nat.mod_eq_sub_mod (by omega), Nat.mod_eq_of_lt (by omega)]
  simp only [slotOffset, gt_iff_lt, Nat.mul_lt_mul_left sizePos]
  split
  next ahead =>
      rw [← Nat.mul_sub, Nat.mul_div_cancel_left _ sizePos]
      split at position <;> omega
  next behind =>
      rw [Nat.mul_comm entries size, ← Nat.mul_sub, ← Nat.mul_add,
        Nat.mul_div_cancel_left _ sizePos]
      split at position <;> omega

/-! A window is the part of a log that a ring currently holds: element `index`
of the log is found in cell `index % entries` from `low` on. -/

theorem lookup_concat {log : List α} {last value : α} {index : Nat}
    (lookup : (log ++ [last])[index]? = some value) :
    index < log.length ∧ log[index]? = some value ∨
      index = log.length ∧ value = last := by
  rcases Nat.lt_trichotomy index log.length with below | equal | above
  · rw [List.getElem?_append_left below] at lookup
    exact .inl ⟨below, lookup⟩
  · subst equal
    rw [List.getElem?_concat_length] at lookup
    exact .inr ⟨rfl, (Option.some.inj lookup).symm⟩
  · rw [List.getElem?_eq_none (by simp; omega)] at lookup
    contradiction

def Window (entries : Nat) (cell : Nat → α) (log : List α) (low : Nat) : Prop :=
  ∀ index value, low ≤ index → log[index]? = some value →
    cell (index % entries) = value

namespace Window

variable {entries low : Nat} {cell : Nat → α} {log : List α}

theorem push (window : Window entries cell log low)
    (room : log.length < low + entries) {cell' : Nat → α} {value : α}
    (written : cell' (log.length % entries) = value)
    (kept : ∀ slot, slot ≠ log.length % entries → slot < entries →
      cell' slot = cell slot) :
    Window entries cell' (log ++ [value]) low := by
  intro index found lower lookup
  obtain ⟨below, old⟩ | ⟨rfl, rfl⟩ := lookup_concat lookup
  · have different : index % entries ≠ log.length % entries := by
      intro equal
      have := mod_eq_of_window (by omega) (by omega) equal
      omega
    rw [kept _ different (Nat.mod_lt index (by omega))]
    exact window index found lower old
  · exact written

theorem mono (window : Window entries cell log low) {low' : Nat}
    (lower : low ≤ low') : Window entries cell log low' :=
  fun index value bound lookup => window index value (by omega) lookup

/-- The reader is done with the first element of the window and leaves anything in its
cell. -/
theorem retire (window : Window entries cell log low)
    (short : log.length ≤ low + entries) {cell' : Nat → α}
    (kept : ∀ slot, slot ≠ low % entries → slot < entries → cell' slot = cell slot) :
    Window entries cell' log (low + 1) := by
  intro index value lower lookup
  obtain ⟨below, _⟩ := List.getElem?_eq_some_iff.mp lookup
  have different : index % entries ≠ low % entries := by
    intro equal
    have := mod_eq_of_window (by omega) (by omega) equal.symm
    omega
  rw [kept _ different (Nat.mod_lt index (by omega))]
  exact window index value (by omega) lookup

/-- A reader that took a prefix of the log finds the next element in its cell. -/
theorem consume {taken : List α} (window : Window entries cell log taken.length)
    (before : taken <+: log) (more : taken.length < log.length) :
    taken ++ [cell (taken.length % entries)] <+: log := by
  rw [window _ _ (Nat.le_refl _) (List.getElem?_eq_getElem more)]
  obtain ⟨rest, rfl⟩ := before
  cases rest with
  | nil => simp at more
  | cons head rest =>
      refine ⟨rest, ?_⟩
      simp only [List.getElem_append_right (Nat.le_refl _), Nat.sub_self,
        List.getElem_cons_zero, List.append_assoc, List.singleton_append]

theorem empty : Window entries cell ([] : List α) low := by
  intro index value _ lookup
  simp at lookup

end Window

end WirelessSimu.Data
