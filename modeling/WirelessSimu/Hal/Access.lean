import WirelessSimu.Hal.Types

namespace WirelessSimu

open Kernel

/-! The ring operations. `id` is the index of the ring in `srng_list`, where
the source passes a pointer to the entry. -/

def halSrngAccessBegin (hal : Hal) (id : Nat) : Hal :=
  let srng := hal.srngList id
  match srng.ringDir with
  | .src =>
      let cachedTp := hal.load srng.srcRing.tpAddr
      hal.setSrng id
        { srng with srcRing := { srng.srcRing with cachedTp := cachedTp } }
  | .dst =>
      let cachedHp := hal.load srng.dstRing.hpAddr
      hal.setSrng id
        { srng with dstRing := { srng.dstRing with cachedHp := cachedHp } }

/-- The result of `src_num_free` for the given head and tail. -/
def srcFreeEntries (srng : HalSrng) (hp tp : UInt32) : Int :=
  if tp > hp then toInt ((tp - hp) / srng.entrySize - 1)
  else toInt ((srng.ringSize - hp + tp) / srng.entrySize - 1)

def halSrngSrcNumFree (hal : Hal) (id : Nat) (syncHwPtr : Bool) : Hal × Int :=
  let srng := hal.srngList id
  let hp := srng.srcRing.hp
  if syncHwPtr then
    let tp := hal.load srng.srcRing.tpAddr
    (hal.setSrng id { srng with srcRing := { srng.srcRing with cachedTp := tp } },
      srcFreeEntries srng hp tp)
  else (hal, srcFreeEntries srng hp srng.srcRing.cachedTp)

def halSrngAccessEnd (hal : Hal) (id : Nat) : Hal :=
  let srng := hal.srngList id
  match srng.ringDir with
  | .src =>
      let srng := { srng with srcRing :=
        { srng.srcRing with lastTp := hal.load srng.srcRing.tpAddr } }
      let hal := hal.setSrng id srng
      if srng.flags &&& halSrngFlagsLmacRing ≠ 0 then
        hal.store srng.srcRing.hpAddr srng.srcRing.hp
      else
        hifWrite32 hal srng.srcRing.hpAddr.byteOffset.toUInt32 srng.srcRing.hp
  | .dst =>
      let srng := { srng with dstRing :=
        { srng.dstRing with lastHp := hal.load srng.dstRing.hpAddr } }
      let hal := hal.setSrng id srng
      if srng.flags &&& halSrngFlagsLmacRing ≠ 0 then
        hal.store srng.dstRing.tpAddr srng.dstRing.tp
      else
        hifWrite32 hal srng.dstRing.tpAddr.byteOffset.toUInt32 srng.dstRing.tp

/-- The pointer `ring_base_vaddr + offset`, which counts in words. -/
def descPtr (srng : HalSrng) (offset : UInt32) : Nat :=
  srng.ringBaseVaddr + 4 * offset.toNat

def halSrngSrcGetNextReaped (hal : Hal) (id : Nat) : Hal × Option Nat :=
  let srng := hal.srngList id
  let ring := srng.srcRing
  if ring.hp = ring.reapHp then (hal, none)
  else
    let hp := (ring.hp + srng.entrySize) % srng.ringSize
    (hal.setSrng id { srng with srcRing := { ring with hp := hp } },
      some (descPtr srng ring.hp))

def halSrngSrcGetNextEntry (hal : Hal) (id : Nat) : Hal × Option Nat :=
  let srng := hal.srngList id
  let ring := srng.srcRing
  let nextHp := (ring.hp + srng.entrySize) % srng.ringSize
  if nextHp = ring.cachedTp then (hal, none)
  else
    (hal.setSrng id
      { srng with srcRing := { ring with hp := nextHp, reapHp := nextHp } },
      some (descPtr srng ring.hp))

def halSrngDstGetNextEntry (hal : Hal) (id : Nat) : Hal × Option Nat :=
  let srng := hal.srngList id
  let ring := srng.dstRing
  if ring.tp = ring.cachedHp then (hal, none)
  else
    let tp := ring.tp + srng.entrySize
    let tp := if tp = srng.ringSize then 0 else tp
    (hal.setSrng id { srng with dstRing := { ring with tp := tp } },
      some (descPtr srng ring.tp))

end WirelessSimu
