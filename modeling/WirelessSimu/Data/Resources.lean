import Mathlib.Algebra.Order.Group.Multiset

namespace WirelessSimu.Data

/-! What a program holds of its environment. A resource may be held several times; a
release of one that is not held is a fault, and a fault stays. -/

structure Resources (ρ : Type*) where
  held : Multiset ρ
  faulted : Bool

namespace Resources

variable {ρ : Type*} [DecidableEq ρ]

def empty : Resources ρ where
  held := 0
  faulted := false

def acquire (resources : Resources ρ) (resource : ρ) : Resources ρ :=
  { resources with held := resource ::ₘ resources.held }

def release (resources : Resources ρ) (resource : ρ) : Resources ρ where
  held := resources.held.erase resource
  faulted := resources.faulted || decide (resource ∉ resources.held)

/-- Releases in the order of the list. -/
def releaseAll (resources : Resources ρ) (list : List ρ) : Resources ρ :=
  list.foldl release resources

/-- Nothing is held and nothing was released out of turn. -/
def Clean (resources : Resources ρ) : Prop :=
  resources.held = 0 ∧ resources.faulted = false

instance Clean.decidable (resources : Resources ρ) : Decidable resources.Clean :=
  inferInstanceAs (Decidable (_ ∧ _))

/-- The same with `more` held besides. -/
def holding (resources : Resources ρ) (more : Multiset ρ) : Resources ρ :=
  { resources with held := more + resources.held }

variable {resources : Resources ρ} {resource : ρ}

omit [DecidableEq ρ] in
@[simp] theorem holding_zero : resources.holding 0 = resources := by
  simp only [holding, zero_add]

omit [DecidableEq ρ] in
theorem holding_holding (first second : Multiset ρ) :
    (resources.holding first).holding second = resources.holding (second + first) := by
  simp only [holding, add_assoc]

omit [DecidableEq ρ] in
theorem acquire_eq_holding : resources.acquire resource = resources.holding {resource} := by
  simp only [acquire, holding, Multiset.singleton_add]

@[simp] theorem release_acquire :
    (resources.acquire resource).release resource = resources := by
  simp [acquire, release]

/-- A release does not care about what was acquired of other kinds. -/
theorem release_acquire_of_ne {other : ρ} (different : resource ≠ other) :
    (resources.acquire other).release resource =
      (resources.release resource).acquire other := by
  simp [acquire, release, Multiset.erase_cons_tail _ different.symm, different]

theorem mem_release_of_ne {other : ρ} (different : other ≠ resource) :
    other ∈ (resources.release resource).held ↔ other ∈ resources.held :=
  Multiset.mem_erase_of_ne different

theorem releaseAll_append (first second : List ρ) :
    resources.releaseAll (first ++ second) =
      (resources.releaseAll first).releaseAll second :=
  List.foldl_append

theorem releaseAll_cons (list : List ρ) :
    resources.releaseAll (resource :: list) = (resources.release resource).releaseAll list :=
  rfl

/-- Giving back what was taken, in any order. -/
theorem releaseAll_holding (list : List ρ) :
    (resources.holding list).releaseAll list = resources := by
  induction list with
  | nil => exact holding_zero
  | cons resource list ih =>
      have first : (resources.holding ((resource :: list : List ρ) : Multiset ρ)).release
          resource = resources.holding list := by
        simp [holding, release, ← Multiset.cons_coe]
      rw [releaseAll_cons, first, ih]

theorem mem_releaseAll_of_notMem {other : ρ} {list : List ρ} (outside : other ∉ list) :
    other ∈ (resources.releaseAll list).held ↔ other ∈ resources.held := by
  induction list generalizing resources with
  | nil => rfl
  | cons resource list ih =>
      rw [List.mem_cons, not_or] at outside
      rw [releaseAll_cons, ih outside.2, mem_release_of_ne outside.1]

theorem faulted_releaseAll (faulted : resources.faulted = true) (list : List ρ) :
    (resources.releaseAll list).faulted = true := by
  induction list generalizing resources with
  | nil => exact faulted
  | cons resource list ih =>
      apply ih
      simp [release, faulted]

theorem faulted_releaseAll_of_notMem {list : List ρ} (member : resource ∈ list)
    (missing : resource ∉ resources.held) : (resources.releaseAll list).faulted = true := by
  induction list generalizing resources with
  | nil => cases member
  | cons first list ih =>
      rw [releaseAll_cons]
      rcases List.mem_cons.mp member with same | later
      · apply faulted_releaseAll
        simp [release, ← same, missing]
      · exact ih later fun held => missing (Multiset.mem_of_mem_erase held)

/-- A series of releases ends with nothing and without fault just when it gives back
exactly what is held. -/
theorem releaseAll_clean_iff (list : List ρ) :
    (resources.releaseAll list).Clean ↔
      (list : Multiset ρ) = resources.held ∧ resources.faulted = false := by
  induction list generalizing resources with
  | nil =>
      constructor
      · rintro ⟨nothing, sound⟩
        exact ⟨nothing.symm, sound⟩
      · rintro ⟨same, sound⟩
        exact ⟨same.symm, sound⟩
  | cons resource list ih =>
      rw [releaseAll_cons, ih]
      by_cases member : resource ∈ resources.held
      · obtain ⟨rest, split⟩ := Multiset.exists_cons_of_mem member
        simp [release, split, ← Multiset.cons_coe]
      · constructor
        · rintro ⟨_, sound⟩
          simp [release, member] at sound
        · rintro ⟨same, _⟩
          apply absurd _ member
          rw [← same]
          exact List.mem_cons_self

end Resources

end WirelessSimu.Data
