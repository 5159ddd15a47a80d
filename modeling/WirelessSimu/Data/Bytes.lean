import Mathlib.Data.UInt
import Mathlib.Tactic.Common

namespace WirelessSimu.Data

/-! Words of four bytes in either byte order, and buffers with room in front of and
behind their bytes. -/

inductive ByteOrder where
  | little
  | big
  deriving DecidableEq, Repr

def leBytes (word : UInt32) : List UInt8 :=
  [word.toUInt8, (word >>> 8).toUInt8, (word >>> 16).toUInt8, (word >>> 24).toUInt8]

def leWord (first second third fourth : UInt8) : UInt32 :=
  .ofNat (first.toNat + 2 ^ 8 * second.toNat + 2 ^ 16 * third.toNat +
    2 ^ 24 * fourth.toNat)

def wordBytes : ByteOrder → UInt32 → List UInt8
  | .little, word => leBytes word
  | .big, word => (leBytes word).reverse

def readWord : ByteOrder → List UInt8 → Option (UInt32 × List UInt8)
  | .little, first :: second :: third :: fourth :: rest =>
      some (leWord first second third fourth, rest)
  | .big, first :: second :: third :: fourth :: rest =>
      some (leWord fourth third second first, rest)
  | _, _ => none

def wordsBytes (order : ByteOrder) (words : List UInt32) : List UInt8 :=
  words.flatMap (wordBytes order)

def readWords (order : ByteOrder) : Nat → List UInt8 → Option (List UInt32 × List UInt8)
  | 0, bytes => some ([], bytes)
  | count + 1, bytes =>
      (readWord order bytes).bind fun (word, rest) =>
        (readWords order count rest).map fun (words, rest) => (word :: words, rest)

variable {order : ByteOrder}

@[simp] theorem length_wordBytes (order : ByteOrder) (word : UInt32) :
    (wordBytes order word).length = 4 := by
  cases order <;> rfl

@[simp] theorem length_wordsBytes (order : ByteOrder) (words : List UInt32) :
    (wordsBytes order words).length = 4 * words.length := by
  induction words with
  | nil => rfl
  | cons word words ih =>
      simp only [wordsBytes, List.flatMap_cons, List.length_append, length_wordBytes,
        List.length_cons] at ih ⊢
      omega

theorem leWord_leBytes (word : UInt32) :
    leWord word.toUInt8 (word >>> 8).toUInt8 (word >>> 16).toUInt8
      (word >>> 24).toUInt8 = word := by
  apply UInt32.toNat_inj.mp
  have small := word.toNat_lt
  simp only [leWord, UInt32.toNat_ofNat', UInt32.toNat_toUInt8, UInt32.toNat_shiftRight,
    UInt32.reduceToNat, Nat.reduceMod, Nat.shiftRight_eq_div_pow]
  omega

@[simp] theorem readWord_wordBytes (order : ByteOrder) (word : UInt32)
    (rest : List UInt8) :
    readWord order (wordBytes order word ++ rest) = some (word, rest) := by
  cases order with
  | little =>
      exact congrArg (fun found => some (found, rest)) (leWord_leBytes word)
  | big =>
      exact congrArg (fun found => some (found, rest)) (leWord_leBytes word)

@[simp] theorem readWords_wordsBytes (order : ByteOrder) (words : List UInt32)
    (rest : List UInt8) :
    readWords order words.length (wordsBytes order words ++ rest) =
      some (words, rest) := by
  induction words with
  | nil => rfl
  | cons word words ih =>
      rw [wordsBytes, List.flatMap_cons, List.append_assoc, List.length_cons, readWords,
        readWord_wordBytes]
      exact congrArg (Option.map _) ih

/-! The bytes of a buffer are the `length` ones from `start` on. An operation that would
leave the memory is refused. -/

structure ByteBuffer where
  memory : List UInt8
  start : Nat
  length : Nat

namespace ByteBuffer

def bytes (buffer : ByteBuffer) : List UInt8 :=
  (buffer.memory.drop buffer.start).take buffer.length

def allocate (contents : Nat → UInt8) (size : Nat) : ByteBuffer :=
  ⟨(List.range size).map contents, 0, 0⟩

def reserve (buffer : ByteBuffer) (count : Nat) : Option ByteBuffer :=
  if buffer.length = 0 ∧ buffer.start + count ≤ buffer.memory.length then
    some { buffer with start := buffer.start + count }
  else none

def put (buffer : ByteBuffer) (count : Nat) : Option ByteBuffer :=
  if buffer.start + buffer.length + count ≤ buffer.memory.length then
    some { buffer with length := buffer.length + count }
  else none

def push (buffer : ByteBuffer) (count : Nat) : Option ByteBuffer :=
  if count ≤ buffer.start then
    some { buffer with
      start := buffer.start - count
      length := buffer.length + count }
  else none

def pull (buffer : ByteBuffer) (count : Nat) : Option ByteBuffer :=
  if count ≤ buffer.length then
    some { buffer with
      start := buffer.start + count
      length := buffer.length - count }
  else none

def store (buffer : ByteBuffer) (offset : Nat) (values : List UInt8) :
    Option ByteBuffer :=
  if offset + values.length ≤ buffer.length then
    some { buffer with
      memory := buffer.memory.take (buffer.start + offset) ++ values ++
        buffer.memory.drop (buffer.start + offset + values.length) }
  else none

/-- The buffer holds `bytes`, with `before` bytes of room in front and `after` behind. -/
def Shape (buffer : ByteBuffer) (before after : Nat) (bytes : List UInt8) : Prop :=
  ∃ head tail, buffer = ⟨head ++ bytes ++ tail, head.length, bytes.length⟩ ∧
    head.length = before ∧ tail.length = after

variable {buffer : ByteBuffer} {before after count : Nat} {bytes : List UInt8}

theorem Shape.bytes_eq (shape : buffer.Shape before after bytes) :
    buffer.bytes = bytes := by
  obtain ⟨head, tail, rfl, -, -⟩ := shape
  simp [ByteBuffer.bytes, List.append_assoc]

theorem Shape.of_inside
    (inside : buffer.start + buffer.length ≤ buffer.memory.length) :
    buffer.Shape buffer.start (buffer.memory.length - buffer.start - buffer.length)
      buffer.bytes := by
  obtain ⟨memory, start, length⟩ := buffer
  simp only at inside
  refine ⟨memory.take start, (memory.drop start).drop length, ?_, ?_, ?_⟩
  · simp only [ByteBuffer.bytes, mk.injEq, List.length_take, List.length_drop]
    refine ⟨?_, ?_, ?_⟩
    · rw [List.append_assoc, List.take_append_drop, List.take_append_drop]
    · omega
    · omega
  · simp only [List.length_take]
    omega
  · simp only [List.length_drop]

theorem Shape.start_eq (shape : buffer.Shape before after bytes) :
    buffer.start = before := by
  obtain ⟨head, tail, rfl, front, -⟩ := shape
  exact front

theorem Shape.length_eq (shape : buffer.Shape before after bytes) :
    buffer.length = bytes.length := by
  obtain ⟨head, tail, rfl, -, -⟩ := shape
  rfl

theorem Shape.allocate (contents : Nat → UInt8) (size : Nat) :
    (ByteBuffer.allocate contents size).Shape 0 size [] :=
  ⟨[], (List.range size).map contents, rfl, rfl, by simp⟩

theorem Shape.reserve (shape : buffer.Shape before (count + after) []) :
    ∃ next, buffer.reserve count = some next ∧ next.Shape (before + count) after [] := by
  obtain ⟨head, tail, rfl, front, back⟩ := shape
  refine ⟨_, if_pos ⟨rfl, ?_⟩, head ++ tail.take count, tail.drop count, ?_, ?_, ?_⟩
  · simp
    omega
  · simp
    omega
  · simp
    omega
  · simp
    omega

theorem Shape.put (shape : buffer.Shape before (count + after) bytes) :
    ∃ next behind, buffer.put count = some next ∧ behind.length = count ∧
      next.Shape before after (bytes ++ behind) := by
  obtain ⟨head, tail, rfl, front, back⟩ := shape
  refine ⟨_, tail.take count, if_pos ?_, ?_, head, tail.drop count, ?_, front, ?_⟩
  · simp
    omega
  · simp
    omega
  · simp
    omega
  · simp
    omega

theorem Shape.push (shape : buffer.Shape (before + count) after bytes) :
    ∃ next front, buffer.push count = some next ∧ front.length = count ∧
      next.Shape before after (front ++ bytes) := by
  obtain ⟨head, tail, rfl, front, back⟩ := shape
  refine ⟨_, head.drop before, if_pos ?_, ?_, head.take before, tail, ?_, ?_, back⟩
  · simp
    omega
  · simp
    omega
  · simp only [mk.injEq, List.length_append, List.length_drop, List.length_take]
    refine ⟨?_, ?_, ?_⟩
    · rw [← List.append_assoc, List.take_append_drop]
    · omega
    · omega
  · simp
    omega

theorem Shape.pull {front : List UInt8}
    (shape : buffer.Shape before after (front ++ bytes)) :
    ∃ next, buffer.pull front.length = some next ∧
      next.Shape (before + front.length) after bytes := by
  obtain ⟨head, tail, rfl, first, back⟩ := shape
  refine ⟨_, if_pos ?_, head ++ front, tail, ?_, ?_, back⟩
  · simp
  · simp
  · simp [first]

/-- New bytes in the place of old ones. -/
theorem Shape.store {first old last : List UInt8}
    (shape : buffer.Shape before after (first ++ old ++ last)) (offset : Nat)
    (values : List UInt8) (place : offset = first.length)
    (same : values.length = old.length) :
    ∃ next, buffer.store offset values = some next ∧
      next.Shape before after (first ++ values ++ last) := by
  obtain ⟨head, tail, rfl, front, back⟩ := shape
  subst place
  refine ⟨_, if_pos ?_, head, tail, ?_, front, back⟩
  · simp
    omega
  · have whole : head ++ (first ++ old ++ last) ++ tail =
        head ++ first ++ (old ++ (last ++ tail)) := by simp
    have kept : (head ++ first ++ (old ++ (last ++ tail))).take
        (head.length + first.length) = head ++ first :=
      List.take_left' (by simp)
    have rest : (head ++ first ++ (old ++ (last ++ tail))).drop
        (head.length + first.length + old.length) = last ++ tail := by
      rw [← List.append_assoc (head ++ first)]
      exact List.drop_left' (by simp; omega)
    simp only [mk.injEq, List.length_append, same, and_true, whole, kept, rest]
    simp

end ByteBuffer

end WirelessSimu.Data
