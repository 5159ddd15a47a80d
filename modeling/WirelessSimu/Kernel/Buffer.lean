import WirelessSimu.Kernel.Base

namespace WirelessSimu.Kernel

/-! Socket buffers and their streaming DMA mappings. Buffers are numbered in the
order of their allocation. `faulted` records a call that breaks the rules of the
kernel interface: unmapping what is not mapped with these arguments, or freeing a
buffer a second time or while it is mapped. -/

/-- The fields of `struct sk_buff` that the driver uses; `paddr` is the one of
its control block. -/
structure SkBuff where
  len : UInt32
  tailroom : UInt32
  paddr : UInt64
  deriving DecidableEq, Repr

/-- `skb->len + skb_tailroom(skb)`. -/
def SkBuff.room (skb : SkBuff) : UInt32 := skb.len + skb.tailroom

/-- `skb_put` moves room from behind the data into it. Without the room the kernel
panics in `skb_over_panic`, and there is no buffer to go on with. -/
def SkBuff.skbPut (skb : SkBuff) (length : UInt32) : Option SkBuff :=
  if length ≤ skb.tailroom then
    some { skb with len := skb.len + length, tailroom := skb.tailroom - length }
  else none

theorem SkBuff.skbPut_isSome {skb : SkBuff} {length : UInt32} :
    (skb.skbPut length).isSome ↔ length ≤ skb.tailroom := by
  rw [skbPut, Option.isSome_ite]

structure Mapping where
  paddr : UInt64
  size : UInt32
  deriving DecidableEq, Repr

structure Buffers where
  allocated : Nat
  skb : Nat → SkBuff
  mapping : Nat → Option Mapping
  freed : List Nat
  faulted : Bool

namespace Buffers

def empty : Buffers where
  allocated := 0
  skb := fun _ => ⟨0, 0, 0⟩
  mapping := fun _ => none
  freed := []
  faulted := false

/-- A successful `dev_alloc_skb`; the allocator chooses the room behind the
data. -/
def devAllocSkb (buffers : Buffers) (tailroom : UInt32) : Buffers × Nat :=
  ({ buffers with
      allocated := buffers.allocated + 1
      skb := Function.update buffers.skb buffers.allocated ⟨0, tailroom, 0⟩ },
    buffers.allocated)

/-- A buffer that another part of the kernel hands over. -/
def adopt (buffers : Buffers) (skb : SkBuff) : Buffers × Nat :=
  ({ buffers with
      allocated := buffers.allocated + 1
      skb := Function.update buffers.skb buffers.allocated skb },
    buffers.allocated)

/-- A successful `dma_map_single` of the data of `skb`. -/
def dmaMapSingle (buffers : Buffers) (skb : Nat) (paddr : UInt64) (size : UInt32) :
    Buffers :=
  { buffers with
    mapping := Function.update buffers.mapping skb (some ⟨paddr, size⟩)
    faulted := buffers.faulted || (buffers.mapping skb).isSome }

def dmaUnmapSingle (buffers : Buffers) (skb : Nat) (paddr : UInt64) (size : UInt32) :
    Buffers :=
  { buffers with
    mapping := Function.update buffers.mapping skb none
    faulted := buffers.faulted || buffers.mapping skb ≠ some ⟨paddr, size⟩ }

def devKfreeSkb (buffers : Buffers) (skb : Nat) : Buffers :=
  { buffers with
    freed := skb :: buffers.freed
    faulted := buffers.faulted || (buffers.mapping skb).isSome ||
      buffers.freed.contains skb }

/-- `WIRELESS_SIMU_SKB_CB(skb)->paddr = paddr`. -/
def setPaddr (buffers : Buffers) (skb : Nat) (paddr : UInt64) : Buffers :=
  { buffers with
    skb := Function.update buffers.skb skb { buffers.skb skb with paddr := paddr } }

def skbPut (buffers : Buffers) (skb : Nat) (length : UInt32) : Option Buffers :=
  ((buffers.skb skb).skbPut length).map fun longer =>
    { buffers with skb := Function.update buffers.skb skb longer }

/-- All that `skb_put` does to the buffers. -/
theorem skbPut_eq_some {buffers next : Buffers} {skb : Nat} {length : UInt32} :
    buffers.skbPut skb length = some next ↔
      length ≤ (buffers.skb skb).tailroom ∧
        next = { buffers with
          skb := Function.update buffers.skb skb
            { buffers.skb skb with
              len := (buffers.skb skb).len + length
              tailroom := (buffers.skb skb).tailroom - length } } := by
  rw [skbPut, SkBuff.skbPut, Option.map_eq_some_iff]
  by_cases fits : length ≤ (buffers.skb skb).tailroom
  · simp [fits, eq_comm]
  · simp [fits]

end Buffers

end WirelessSimu.Kernel
