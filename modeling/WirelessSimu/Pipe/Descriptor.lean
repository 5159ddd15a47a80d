import WirelessSimu.Kernel.Field
import WirelessSimu.Pipe.Transfer

namespace WirelessSimu

open Data Kernel

/-! What the device reads out of a descriptor. The layouts are those of the
comments at `struct hal_test_sw2hw` and `struct hal_test_dst`: the high byte of
the address shares a word with the length and the swap bit. -/

structure SrcDescFields where
  paddr : Nat
  len : Nat
  id : Nat
  byteSwapData : Nat
  writeIndex : Nat
  deriving DecidableEq, Repr

def decodeSrcDesc : List UInt32 → Option SrcDescFields
  | [low, info, metaInfo, writeIndex, _] =>
      some
        { paddr := addressFields low info
          len := fieldGet 16 16 info.toNat
          id := fieldGet 0 16 metaInfo.toNat
          byteSwapData := fieldGet 9 1 info.toNat
          writeIndex := writeIndex.toNat }
  | _ => none

def decodeDstDesc : List UInt32 → Option Nat
  | [low, info, _] => some (addressFields low info)
  | _ => none

/-- The arguments of `set_desc` for a source ring, each within its field. -/
structure SrcDescArgs where
  skb : SkBuff
  id : UInt32
  byteSwapData : UInt8
  writeIndex : UInt32
  paddr_lt : skb.paddr.toNat < 2 ^ 40
  len_lt : skb.len.toNat < 2 ^ 16
  id_lt : id.toNat < 2 ^ 16
  byteSwapData_lt : byteSwapData.toNat < 2

namespace SrcDescArgs

def words (args : SrcDescArgs) : List UInt32 :=
  testSrcSetDesc args.skb args.id args.byteSwapData args.writeIndex

def fields (args : SrcDescArgs) : SrcDescFields where
  paddr := args.skb.paddr.toNat
  len := args.skb.len.toNat
  id := args.id.toNat
  byteSwapData := args.byteSwapData.toNat
  writeIndex := args.writeIndex.toNat

end SrcDescArgs

/-! The words of the two layouts as packed fields. -/

theorem dstInfo_field (high : UInt64) :
    fieldGet 0 8 (fieldPrep 7 0 high).toUInt32.toNat = high.toNat % 2 ^ 8 := by
  rw [UInt64.toNat_toUInt32, toNat_fieldPrep (by decide) (by decide),
    fieldGet_mod (by decide)]
  exact fieldGet_fieldPut 0 8 _

theorem srcInfo_fields (high swap len : UInt64) (info : UInt32)
    (infoEq : info = (fieldPrep 7 0 high ||| fieldPrep 9 9 swap |||
      fieldPrep 11 11 0 ||| fieldPrep 31 16 len).toUInt32) :
    fieldGet 0 8 info.toNat = high.toNat % 2 ^ 8 ∧
      fieldGet 9 1 info.toNat = swap.toNat % 2 ^ 1 ∧
      fieldGet 16 16 info.toNat = len.toNat % 2 ^ 16 := by
  have packed : info.toNat = (fieldPut 0 8 high.toNat ||| fieldPut 9 1 swap.toNat |||
      fieldPut 11 1 0 ||| fieldPut 16 16 len.toNat) % 2 ^ 32 := by
    rw [infoEq]
    simp (disch := decide) only [UInt64.toNat_toUInt32, UInt64.toNat_or,
      toNat_fieldPrep]
    rfl
  rw [packed]
  simp (disch := decide) only [fieldGet_mod, fieldGet_or, fieldGet_fieldPut,
    fieldGet_fieldPut_of_apart, Nat.or_zero, Nat.zero_or, and_self]

theorem SrcDescArgs.decode_words (args : SrcDescArgs) :
    decodeSrcDesc args.words = some args.fields := by
  obtain ⟨high, swap, len⟩ := srcInfo_fields (args.skb.paddr >>> 32)
    args.byteSwapData.toUInt64 args.skb.len.toUInt64 _ rfl
  have metaInfo : fieldGet 0 16 (fieldPrep 15 0 args.id.toUInt64).toUInt32.toNat =
      args.id.toNat % 2 ^ 16 := by
    rw [UInt64.toNat_toUInt32, toNat_fieldPrep (by decide) (by decide),
      fieldGet_mod (by decide)]
    exact fieldGet_fieldPut 0 16 _
  rw [toNat_high_word] at high
  rw [UInt8.toNat_toUInt64, Nat.pow_one, Nat.mod_eq_of_lt args.byteSwapData_lt] at swap
  rw [UInt32.toNat_toUInt64, Nat.mod_eq_of_lt args.len_lt] at len
  rw [Nat.mod_eq_of_lt args.id_lt] at metaInfo
  have address := addressFields_eq args.paddr_lt (toNat_low_word _) high
  simp only [words, testSrcSetDesc, decodeSrcDesc, address, swap, len, metaInfo, fields]

theorem decode_testDstSetDesc {paddr : UInt64} (small : paddr.toNat < 2 ^ 40) :
    decodeDstDesc (testDstSetDesc paddr) = some paddr.toNat := by
  have high := dstInfo_field (paddr >>> 32)
  rw [toNat_high_word] at high
  rw [testDstSetDesc, decodeDstDesc, addressFields_eq small (toNat_low_word _) high]

/-- Both descriptors, stored over whatever the slot held before. -/
theorem setDesc_roundTrip (mem mem' : Nat → UInt32) (desc desc' : Nat)
    (args args' : SrcDescArgs) (paddr paddr' : UInt64)
    (small : paddr.toNat < 2 ^ 40) (small' : paddr'.toNat < 2 ^ 40) :
    decodeSrcDesc (loadWords (storeWords mem desc args.words) desc 5) =
        some args.fields ∧
      decodeDstDesc (loadWords (storeWords mem desc (testDstSetDesc paddr)) desc 3) =
        some paddr.toNat ∧
      (loadWords (storeWords mem desc args.words) desc 5 =
          loadWords (storeWords mem' desc' args'.words) desc' 5 →
        args.fields = args'.fields) ∧
      (loadWords (storeWords mem desc (testDstSetDesc paddr)) desc 3 =
          loadWords (storeWords mem' desc' (testDstSetDesc paddr')) desc' 3 →
        paddr = paddr') := by
  have srcStored : ∀ (mem : Nat → UInt32) (desc : Nat) (args : SrcDescArgs),
      loadWords (storeWords mem desc args.words) desc 5 = args.words :=
    fun mem desc args => loadWords_storeWords mem desc args.words
  have dstStored : ∀ (mem : Nat → UInt32) (desc : Nat) (paddr : UInt64),
      loadWords (storeWords mem desc (testDstSetDesc paddr)) desc 3 =
        testDstSetDesc paddr :=
    fun mem desc paddr => loadWords_storeWords mem desc (testDstSetDesc paddr)
  refine ⟨?_, ?_, ?_, ?_⟩
  · rw [srcStored, args.decode_words]
  · rw [dstStored, decode_testDstSetDesc small]
  · intro same
    rw [srcStored, srcStored] at same
    have decoded := args.decode_words
    rw [same, args'.decode_words, Option.some_inj] at decoded
    exact decoded.symm
  · intro same
    rw [dstStored, dstStored] at same
    have decoded := decode_testDstSetDesc small
    rw [same, decode_testDstSetDesc small', Option.some_inj] at decoded
    exact UInt64.toNat_inj.mp decoded.symm

/-- The largest value of every field. -/
def fullSrcDescArgs : SrcDescArgs where
  skb := ⟨0xffff, 0, 0xffffffffff⟩
  id := 0xffff
  byteSwapData := 1
  writeIndex := 0xffffffff
  paddr_lt := by decide
  len_lt := by decide
  id_lt := by decide
  byteSwapData_lt := by decide

theorem setDesc_roundTrip_full :
    decodeSrcDesc (loadWords (storeWords (fun _ => 0xffffffff) 64
        fullSrcDescArgs.words) 64 5) =
        some
          { paddr := 0xffffffffff, len := 0xffff, id := 0xffff, byteSwapData := 1,
            writeIndex := 0xffffffff } ∧
      decodeDstDesc (loadWords (storeWords (fun _ => 0xffffffff) 64
        (testDstSetDesc 0xffffffffff)) 64 3) = some 0xffffffffff ∧
      testDstSetDesc 0xffffffffff ≠ testDstSetDesc 0x7fffffffff := by
  obtain ⟨source, destination, _, different⟩ := setDesc_roundTrip
    (fun _ => 0xffffffff) (fun _ => 0xffffffff) 64 64 fullSrcDescArgs fullSrcDescArgs
    0xffffffffff 0x7fffffffff (by decide) (by decide)
  refine ⟨source, destination, ?_⟩
  intro same
  exact absurd (different (by rw [same])) (by decide)

end WirelessSimu
