import WirelessSimu.Kernel.Buffer
import Mathlib.Algebra.BigOperators.Group.Finset.Piecewise
import Mathlib.Algebra.Order.Group.Multiset

namespace WirelessSimu.Kernel

/-! Who owns the buffers: `mapped` are the owned ones with a live mapping, `loose`
those without. With the freed ones they are all that were allocated, each once. -/

def Buffers.release (buffers : Buffers) (skb : Nat) : Buffers :=
  (buffers.dmaUnmapSingle skb (buffers.skb skb).paddr
    (buffers.skb skb).room).devKfreeSkb skb

structure Ledger (buffers : Buffers) (mapped loose : Multiset Nat) : Prop where
  total : mapped + loose + (buffers.freed : Multiset Nat) =
    Multiset.range buffers.allocated
  sound : buffers.faulted = false
  live : ∀ skb ∈ mapped, buffers.mapping skb =
    some ⟨(buffers.skb skb).paddr, (buffers.skb skb).room⟩
  dead : ∀ skb, skb ∉ mapped → buffers.mapping skb = none

namespace Ledger

variable {buffers : Buffers} {mapped loose : Multiset Nat} {skb : Nat}

theorem empty : Ledger .empty 0 0 where
  total := rfl
  sound := rfl
  live := by simp
  dead := fun _ _ => rfl

theorem nodup (ledger : Ledger buffers mapped loose) :
    (mapped + loose + (buffers.freed : Multiset Nat)).Nodup := by
  rw [ledger.total]
  exact Multiset.nodup_range _

theorem lt_allocated (ledger : Ledger buffers mapped loose) (member : skb ∈ mapped) :
    skb < buffers.allocated := by
  rw [← Multiset.mem_range, ← ledger.total]
  simp [member]

theorem mapping_iff (ledger : Ledger buffers mapped loose) (skb : Nat) :
    buffers.mapping skb ≠ none ↔ skb ∈ mapped := by
  constructor
  · intro present
    by_contra absent
    exact present (ledger.dead skb absent)
  · intro member
    rw [ledger.live skb member]
    simp

theorem allocate (ledger : Ledger buffers mapped loose) (tailroom : UInt32)
    (paddr : UInt64) :
    Ledger (((buffers.devAllocSkb tailroom).1.dmaMapSingle buffers.allocated paddr
        ((buffers.devAllocSkb tailroom).1.skb buffers.allocated).room).setPaddr
        buffers.allocated paddr)
      (buffers.allocated ::ₘ mapped) loose := by
  have unused : buffers.allocated ∉ mapped := fun member =>
    Nat.lt_irrefl _ (ledger.lt_allocated member)
  refine ⟨?_, ?_, ?_, ?_⟩
  · simp only [Buffers.setPaddr, Buffers.dmaMapSingle, Buffers.devAllocSkb,
      Multiset.cons_add, Multiset.range_succ]
    rw [ledger.total]
  · simp [Buffers.setPaddr, Buffers.dmaMapSingle, Buffers.devAllocSkb, ledger.sound,
      ledger.dead _ unused]
  · intro skb member
    rcases Multiset.mem_cons.mp member with rfl | old
    · simp [Buffers.setPaddr, Buffers.dmaMapSingle, Buffers.devAllocSkb, SkBuff.room]
    · have different : skb ≠ buffers.allocated := by
        rintro rfl
        exact unused old
      simp only [Buffers.setPaddr, Buffers.dmaMapSingle, Buffers.devAllocSkb,
        Function.update_of_ne different]
      exact ledger.live skb old
  · intro skb outside
    rw [Multiset.mem_cons, not_or] at outside
    simp only [Buffers.setPaddr, Buffers.dmaMapSingle, Buffers.devAllocSkb,
      Function.update_of_ne outside.1]
    exact ledger.dead skb outside.2

theorem adopt (ledger : Ledger buffers mapped loose) (tailroom : UInt32) :
    Ledger (buffers.devAllocSkb tailroom).1 mapped (buffers.allocated ::ₘ loose) where
  total := by
    simp only [Buffers.devAllocSkb, Multiset.add_cons, Multiset.cons_add,
      Multiset.range_succ]
    rw [ledger.total]
  sound := ledger.sound
  live := by
    intro skb member
    have different : skb ≠ buffers.allocated := by
      rintro rfl
      exact Nat.lt_irrefl _ (ledger.lt_allocated member)
    simp only [Buffers.devAllocSkb, Function.update_of_ne different]
    exact ledger.live skb member
  dead := ledger.dead

theorem unmap (ledger : Ledger buffers (skb ::ₘ mapped) loose) :
    Ledger (buffers.dmaUnmapSingle skb (buffers.skb skb).paddr (buffers.skb skb).room)
      mapped (skb ::ₘ loose) := by
  have once := ledger.nodup
  rw [Multiset.cons_add, Multiset.cons_add, Multiset.nodup_cons] at once
  have gone : skb ∉ mapped := fun member => once.1 (by simp [member])
  refine ⟨?_, ?_, ?_, ?_⟩
  · rw [Multiset.add_cons, ← Multiset.cons_add]
    exact ledger.total
  · simp [Buffers.dmaUnmapSingle, ledger.sound, ledger.live skb]
  · intro other member
    have different : other ≠ skb := by
      rintro rfl
      exact gone member
    simp only [Buffers.dmaUnmapSingle, Function.update_of_ne different]
    exact ledger.live other (Multiset.mem_cons_of_mem member)
  · intro other outside
    by_cases same : other = skb
    · simp [Buffers.dmaUnmapSingle, same]
    · simp only [Buffers.dmaUnmapSingle, Function.update_of_ne same]
      exact ledger.dead other (by simp [same, outside])

theorem notMem_mapped (ledger : Ledger buffers mapped (skb ::ₘ loose)) :
    skb ∉ mapped := by
  have once := ledger.nodup
  rw [Multiset.add_cons, Multiset.cons_add, Multiset.nodup_cons] at once
  exact fun member => once.1 (by simp [member])

theorem free (ledger : Ledger buffers mapped (skb ::ₘ loose)) :
    Ledger (buffers.devKfreeSkb skb) mapped loose := by
  have once := ledger.nodup
  rw [Multiset.add_cons, Multiset.cons_add, Multiset.nodup_cons] at once
  have unmapped := ledger.dead skb ledger.notMem_mapped
  have unfreed : skb ∉ buffers.freed := fun member => once.1 (by simp [member])
  refine ⟨?_, ?_, ledger.live, ledger.dead⟩
  · have total := ledger.total
    rw [Multiset.add_cons, Multiset.cons_add, ← Multiset.add_cons,
      Multiset.cons_coe] at total
    exact total
  · simp [Buffers.devKfreeSkb, ledger.sound, unmapped, unfreed]

theorem put {next : Buffers} {length : UInt32} (ledger : Ledger buffers mapped loose)
    (unmapped : skb ∉ mapped) (put : buffers.skbPut skb length = some next) :
    Ledger next mapped loose := by
  obtain ⟨_, rfl⟩ := Buffers.skbPut_eq_some.mp put
  refine ⟨ledger.total, ledger.sound, ?_, ledger.dead⟩
  intro other member
  have different : other ≠ skb := by
    rintro rfl
    exact unmapped member
  simp only [Function.update_of_ne different]
  exact ledger.live other member

theorem release {list : List Nat} (ledger : Ledger buffers (list + mapped) loose) :
    Ledger (list.foldl Buffers.release buffers) mapped loose := by
  induction list generalizing buffers with
  | nil => simpa using ledger
  | cons skb list ih =>
      rw [← Multiset.cons_coe, Multiset.cons_add] at ledger
      exact ih ledger.unmap.free

end Ledger

/-- Every buffer was freed once, none is mapped, and no call was out of turn. -/
def Buffers.Released (buffers : Buffers) : Prop :=
  (buffers.freed : Multiset Nat) = Multiset.range buffers.allocated ∧
    (∀ skb, buffers.mapping skb = none) ∧ buffers.faulted = false

theorem Ledger.released_iff {buffers : Buffers} {lost : Multiset Nat}
    (ledger : Ledger buffers 0 lost) : buffers.Released ↔ lost = 0 := by
  have total := ledger.total
  rw [zero_add] at total
  constructor
  · rintro ⟨freed, _⟩
    rw [← total] at freed
    exact right_eq_add.mp freed
  · rintro rfl
    refine ⟨?_, fun skb => ledger.dead skb (Multiset.notMem_zero skb), ledger.sound⟩
    rw [← total, zero_add]

theorem sum_range_coe {α : Type*} (parts : Nat → List α) (count : Nat) :
    ∑ index ∈ Finset.range count, (parts index : Multiset α) =
      ((List.range count).flatMap parts : List α) := by
  induction count with
  | zero => rfl
  | succ count ih =>
      rw [Finset.sum_range_succ, ih, List.range_succ, List.flatMap_append,
        List.flatMap_singleton, Multiset.coe_add]

theorem add_singleton_add (left right : Multiset Nat) (skb : Nat) :
    left + {skb} + right = skb ::ₘ (left + right) := by
  rw [add_right_comm, ← Multiset.singleton_add, add_comm]

theorem sum_range_change {M : Type*} [AddCommMonoid M] {first second : Nat → M}
    {count index : Nat}
    (inRange : index < count)
    (elsewhere : ∀ other, other ≠ index → second other = first other) :
    ∃ rest, ∑ other ∈ Finset.range count, first other = first index + rest ∧
      ∑ other ∈ Finset.range count, second other = second index + rest := by
  have member := Finset.mem_range.mpr inRange
  refine ⟨∑ other ∈ (Finset.range count).erase index, first other, ?_, ?_⟩
  · rw [Finset.add_sum_erase _ _ member]
  · rw [← Finset.add_sum_erase _ _ member]
    congr 1
    apply Finset.sum_congr rfl
    intro other outside
    exact elsewhere other (Finset.ne_of_mem_erase outside)

/-- The sum over a table, of which one entry is written. -/
theorem sum_range_update {M α : Type*} [AddCommMonoid M] (weight : α → M)
    {first second : Nat → α} {count index : Nat} {entry : α} (inRange : index < count)
    (written : second = Function.update first index entry) :
    ∃ rest, ∑ other ∈ Finset.range count, weight (first other) = weight (first index) + rest ∧
      ∑ other ∈ Finset.range count, weight (second other) = weight entry + rest := by
  have elsewhere : ∀ other, other ≠ index → weight (second other) = weight (first other) := by
    intro other different
    rw [written, Function.update_of_ne different]
  have own : second index = entry := by rw [written, Function.update_self]
  obtain ⟨rest, before, after⟩ := sum_range_change inRange elsewhere
  rw [own] at after
  exact ⟨rest, before, after⟩

end WirelessSimu.Kernel
