import Mathlib.Data.Finset.Basic
import Mathlib.Logic.Function.Basic

namespace WirelessSimu.Data

/-! Tables of a fixed number of slots with one value or none in each. -/

variable {α : Type*} {size slot : Nat} {table : Nat → Option α}

/-- The search for an empty slot from the lowest on. -/
def lowestFree (size : Nat) (table : Nat → Option α) : Option Nat :=
  (List.range size).find? fun slot => (table slot).isNone

structure LowestFree (size : Nat) (table : Nat → Option α) (slot : Nat) : Prop where
  inRange : slot < size
  empty : table slot = none
  below : ∀ lower < slot, table lower ≠ none

theorem lowestFree_eq_some :
    lowestFree size table = some slot ↔ LowestFree size table slot := by
  rw [lowestFree, List.find?_range_eq_some]
  constructor
  · rintro ⟨empty, inRange, below⟩
    refine ⟨List.mem_range.mp inRange, Option.isNone_iff_eq_none.mp empty, ?_⟩
    intro lower less missing
    have taken := below lower less
    simp [missing] at taken
  · intro lowest
    refine ⟨Option.isNone_iff_eq_none.mpr lowest.empty, List.mem_range.mpr lowest.inRange, ?_⟩
    intro lower less
    simp [Option.isSome_iff_ne_none, lowest.below lower less]

theorem lowestFree_eq_none :
    lowestFree size table = none ↔ ∀ slot < size, table slot ≠ none := by
  rw [lowestFree, List.find?_range_eq_none]
  simp [Option.isSome_iff_ne_none]

/-- The table holds the members and nothing else, each of them in one slot. -/
structure HoldsExactly (size : Nat) (table : Nat → Option α) (members : Finset α) : Prop where
  holds : ∀ value, (∃ slot < size, table slot = some value) ↔ value ∈ members
  once : ∀ first < size, ∀ second < size, ∀ value, table first = some value →
    table second = some value → first = second

theorem HoldsExactly.empty (none : ∀ slot < size, table slot = none) :
    HoldsExactly size table ∅ where
  holds := by
    intro value
    constructor
    · rintro ⟨slot, inRange, found⟩
      rw [none slot inRange] at found
      cases found
    · intro member
      cases member
  once := by
    intro first inRange second _ value found
    rw [none first inRange] at found
    cases found

variable [DecidableEq α] {members : Finset α} {value : α}

theorem HoldsExactly.put (exact_ : HoldsExactly size table members)
    (inRange : slot < size) (empty : table slot = none) (fresh : value ∉ members) :
    HoldsExactly size (Function.update table slot (some value)) (insert value members) := by
  have absent : ∀ other < size, table other ≠ some value := by
    intro other otherRange found
    exact fresh ((exact_.holds value).mp ⟨other, otherRange, found⟩)
  refine ⟨?_, ?_⟩
  · intro other
    rw [Finset.mem_insert, ← exact_.holds other]
    constructor
    · rintro ⟨place, placeRange, found⟩
      by_cases same : place = slot
      · rw [same, Function.update_self] at found
        cases found
        exact .inl rfl
      · rw [Function.update_of_ne same] at found
        exact .inr ⟨place, placeRange, found⟩
    · rintro (rfl | ⟨place, placeRange, found⟩)
      · exact ⟨slot, inRange, Function.update_self ..⟩
      · have different : place ≠ slot := by
          rintro rfl
          rw [empty] at found
          cases found
        exact ⟨place, placeRange, by rw [Function.update_of_ne different, found]⟩
  · intro first firstRange second secondRange other atFirst atSecond
    by_cases firstSame : first = slot
    · by_cases secondSame : second = slot
      · rw [firstSame, secondSame]
      · rw [firstSame, Function.update_self] at atFirst
        cases atFirst
        rw [Function.update_of_ne secondSame] at atSecond
        exact absurd atSecond (absent second secondRange)
    · rw [Function.update_of_ne firstSame] at atFirst
      by_cases secondSame : second = slot
      · rw [secondSame, Function.update_self] at atSecond
        cases atSecond
        exact absurd atFirst (absent first firstRange)
      · rw [Function.update_of_ne secondSame] at atSecond
        exact exact_.once first firstRange second secondRange other atFirst atSecond

/-- A value put into an empty slot must not be in the table already. -/
theorem HoldsExactly.put_iff (exact_ : HoldsExactly size table members)
    (inRange : slot < size) (empty : table slot = none) :
    HoldsExactly size (Function.update table slot (some value)) (insert value members) ↔
      value ∉ members := by
  refine ⟨?_, exact_.put inRange empty⟩
  intro inserted member
  obtain ⟨other, otherRange, found⟩ := (exact_.holds value).mpr member
  have different : other ≠ slot := by
    rintro rfl
    rw [empty] at found
    cases found
  refine different (inserted.once other otherRange slot inRange value ?_ ?_)
  · rw [Function.update_of_ne different, found]
  · exact Function.update_self ..

theorem HoldsExactly.clear (exact_ : HoldsExactly size table members)
    (inRange : slot < size) (held : table slot = some value) :
    HoldsExactly size (Function.update table slot none) (members.erase value) := by
  have kept : ∀ place other, Function.update table slot none place = some other ↔
      place ≠ slot ∧ table place = some other := by
    intro place other
    by_cases same : place = slot
    · simp [same]
    · simp [same]
  refine ⟨?_, ?_⟩
  · intro other
    rw [Finset.mem_erase, ← exact_.holds other]
    constructor
    · rintro ⟨place, placeRange, found⟩
      obtain ⟨different, found⟩ := (kept place other).mp found
      refine ⟨?_, place, placeRange, found⟩
      rintro rfl
      exact different (exact_.once place placeRange slot inRange other found held)
    · rintro ⟨notValue, place, placeRange, found⟩
      refine ⟨place, placeRange, (kept place other).mpr ⟨?_, found⟩⟩
      rintro rfl
      rw [held] at found
      cases found
      exact notValue rfl
  · intro first firstRange second secondRange other atFirst atSecond
    exact exact_.once first firstRange second secondRange other
      ((kept first other).mp atFirst).2 ((kept second other).mp atSecond).2

/-- Only clearing its own slot takes a value out of the table. -/
theorem HoldsExactly.clear_iff (exact_ : HoldsExactly size table members)
    (inRange : slot < size) (member : value ∈ members) :
    HoldsExactly size (Function.update table slot none) (members.erase value) ↔
      table slot = some value := by
  refine ⟨?_, exact_.clear inRange⟩
  intro erased
  obtain ⟨place, placeRange, found⟩ := (exact_.holds value).mpr member
  by_cases same : place = slot
  · rw [← same, found]
  · have left : value ∈ members.erase value := by
      rw [← erased.holds value]
      exact ⟨place, placeRange, by rw [Function.update_of_ne same, found]⟩
    exact absurd left (Finset.notMem_erase value members)

end WirelessSimu.Data
