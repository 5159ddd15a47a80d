import WirelessSimu.Data.Cyclic

namespace WirelessSimu.Data

/-! Memory of four-byte words, addressed in bytes. -/

def loadWords (mem : Nat → α) (addr : Nat) : Nat → List α
  | 0 => []
  | count + 1 => mem addr :: loadWords mem (addr + 4) count

def storeWords (mem : Nat → α) (addr : Nat) : List α → Nat → α
  | [] => mem
  | word :: words => storeWords (Function.update mem addr word) (addr + 4) words

theorem storeWords_of_outside {mem : Nat → α} {addr target : Nat}
    {words : List α}
    (outside : target < addr ∨ addr + 4 * words.length ≤ target) :
    storeWords mem addr words target = mem target := by
  induction words generalizing mem addr with
  | nil => rfl
  | cons word words ih =>
      simp only [List.length_cons] at outside
      rw [storeWords, ih (by omega), Function.update_of_ne (by omega)]

theorem loadWords_congr {mem mem' : Nat → α} {addr count : Nat}
    (same : ∀ target, addr ≤ target → target < addr + 4 * count →
      mem' target = mem target) :
    loadWords mem' addr count = loadWords mem addr count := by
  induction count generalizing addr with
  | zero => rfl
  | succ count ih =>
      rw [loadWords, loadWords, same addr (by omega) (by omega),
        ih fun target lower upper => same target (by omega) (by omega)]

theorem loadWords_storeWords (mem : Nat → α) (addr : Nat) (words : List α) :
    loadWords (storeWords mem addr words) addr words.length = words := by
  induction words generalizing mem addr with
  | nil => rfl
  | cons word words ih =>
      rw [storeWords, List.length_cons, loadWords, ih,
        storeWords_of_outside (by omega), Function.update_self]

theorem loadWords_storeWords_of_disjoint {mem : Nat → α}
    {addr target count : Nat} {words : List α}
    (disjoint : target + 4 * count ≤ addr ∨
      addr + 4 * words.length ≤ target) :
    loadWords (storeWords mem addr words) target count =
      loadWords mem target count :=
  loadWords_congr fun _ _ _ => storeWords_of_outside (by omega)

/-! A ring area is the memory of `entries` slots from `base` on. -/

def slotAddr (base size slot : Nat) : Nat := base + 4 * (size * slot)

theorem slotAddr_disjoint {base size first second : Nat}
    (different : first ≠ second) :
    slotAddr base size first + 4 * size ≤ slotAddr base size second ∨
      slotAddr base size second + 4 * size ≤ slotAddr base size first := by
  simp only [slotAddr]
  rcases Nat.lt_or_gt_of_ne different with below | above
  · left
    have scaled : size * (first + 1) ≤ size * second :=
      Nat.mul_le_mul_left size below
    rw [Nat.mul_succ] at scaled
    omega
  · right
    have scaled : size * (second + 1) ≤ size * first :=
      Nat.mul_le_mul_left size above
    rw [Nat.mul_succ] at scaled
    omega

theorem slotAddr_inj {base size first second : Nat} (sizePos : 0 < size)
    (equal : slotAddr base size first = slotAddr base size second) :
    first = second := by
  simp only [slotAddr] at equal
  exact Nat.eq_of_mul_eq_mul_left sizePos (by omega)

/-- The contents of the slots, as the cells of a window. -/
def slotWords (mem : Nat → α) (base size slot : Nat) : List α :=
  loadWords mem (slotAddr base size slot) size

theorem slotWords_store_self (mem : Nat → α) (base : Nat) {size : Nat}
    (slot : Nat) {words : List α} (full : words.length = size) :
    slotWords (storeWords mem (slotAddr base size slot) words) base size slot =
      words := by
  subst full
  exact loadWords_storeWords _ _ _

theorem slotWords_store_of_ne (mem : Nat → α) (base : Nat) {size : Nat}
    {slot other : Nat} {words : List α} (full : words.length = size)
    (different : other ≠ slot) :
    slotWords (storeWords mem (slotAddr base size slot) words) base size other =
      slotWords mem base size other := by
  subst full
  exact loadWords_storeWords_of_disjoint (slotAddr_disjoint different)

/-- Storing the next element of a log into its slot extends the window. -/
theorem Window.store {entries size base low : Nat} {mem : Nat → α}
    {log : List (List α)} {words : List α}
    (window : Window entries (slotWords mem base size) log low)
    (room : log.length < low + entries) (full : words.length = size) :
    Window entries
      (slotWords
        (storeWords mem (slotAddr base size (log.length % entries)) words)
        base size)
      (log ++ [words]) low :=
  window.push room (slotWords_store_self mem base _ full)
    fun _ different _ => slotWords_store_of_ne mem base full different

end WirelessSimu.Data
