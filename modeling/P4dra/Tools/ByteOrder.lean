import Mathlib.Tactic.IntervalCases
import P4dra.Library.Memory
import P4dra.Tna.Records
import P4dra.Tools.Receive

/-
  The helpers that change the order of bytes.

  The tools exchange digits through a copy of their buffer,
  `forro-args-dra` shifts words between two pointers that may
  be the same, and the scripts slice texts and byte strings.
  All of them reverse the bytes of every word.

  Main declarations:
    * `swapEndianMem`, `swapEndianMem_eq`
    * `ForroArgsDra.swapEndianBytes`,
      `ForroArgsDra.swapEndianBytes_eq`
    * `OrdemTrocada`, `ordemTrocada`
-/

------------------------------------------------------------
-- Digits In Memory
------------------------------------------------------------

namespace P4dra

open Bytes (Byte piece swapWords)

namespace Tools

/- The first turns of the second loop of `swapEndian`. -/
def lacoSwapEndian
    (temp : List Char)
    (saida : Nat) : Nat → (Nat → Char) → Nat → Char
| 0, mem => mem
| k + 1, mem =>
    let mem := lacoSwapEndian temp saida k mem
    let i := 8 * k
    let de (j : Nat) := temp.getD j '\x00'
    let mem := Memory.write mem (saida + (i + 0)) (de (i + 6))
    let mem := Memory.write mem (saida + (i + 1)) (de (i + 7))
    let mem := Memory.write mem (saida + (i + 2)) (de (i + 4))
    let mem := Memory.write mem (saida + (i + 3)) (de (i + 5))
    let mem := Memory.write mem (saida + (i + 4)) (de (i + 2))
    let mem := Memory.write mem (saida + (i + 5)) (de (i + 3))
    let mem := Memory.write mem (saida + (i + 6)) (de (i + 0))
    Memory.write mem (saida + (i + 7)) (de (i + 1))

/- `swapEndian` on a size that the step of its loop divides. -/
def swapEndianMem
    (saida tamanho : Nat)
    (mem : Nat → Char) : Nat → Char :=
  let temp := Memory.read mem saida tamanho
  lacoSwapEndian temp saida (tamanho / 8) mem

/- The second call restores the digits. -/
theorem swapEndian_swapEndian
    {text : List Char}
    {tamanho : Nat}
    (hLength : text.length = tamanho) :
    swapEndian (swapEndian text tamanho) tamanho = text := by
  have hSwapped : (Hex.swapDigits text).length = tamanho := by
    rw [Hex.length_swapDigits, hLength]
  rw [swapEndian_of_length hLength,
    swapEndian_of_length hSwapped, Hex.swapDigits_swapDigits]

/- After `k` turns the first `k` groups are exchanged. -/
theorem lacoSwapEndian_eq
    (temp : List Char)
    (saida : Nat)
    (mem : Nat → Char)
    (k : Nat)
    (hLength : 8 * k ≤ temp.length) :
    lacoSwapEndian temp saida k mem =
      Memory.overwrite mem saida
        (Hex.swapDigits (temp.take (8 * k))) := by
  induction k with
  | zero => simp [lacoSwapEndian, Hex.swapDigits]
  | succ k ih =>
      have hTake : (temp.take (8 * k)).length = 8 * k := by
        rw [List.length_take]
        omega
      have hWritten :
          (Hex.swapDigits (temp.take (8 * k))).length =
            8 * k := by
        rw [Hex.length_swapDigits, hTake]
      have hLeft : 8 ≤ (temp.drop (8 * k)).length := by
        rw [List.length_drop]
        omega
      rcases Bytes.exists_eight hLeft with
        ⟨c0, c1, c2, c3, c4, c5, c6, c7, rest, hDrop⟩
      have hGet : ∀ j,
          temp.getD (8 * k + j) '\x00' =
            (c0 :: c1 :: c2 :: c3 :: c4 :: c5 :: c6 :: c7 ::
              rest).getD j '\x00' := by
        intro j
        rw [← hDrop, List.getD_eq_getElem?_getD,
          List.getD_eq_getElem?_getD, List.getElem?_drop]
      have hPrefix :
          temp.take (8 * (k + 1)) =
            temp.take (8 * k) ++
              [c0, c1, c2, c3, c4, c5, c6, c7] := by
        rw [Nat.mul_succ, List.take_add, hDrop]
        rfl
      rw [hPrefix, Hex.swapDigits_append k _ _ hTake,
        Memory.overwrite_append, hWritten, ← ih (by omega)]
      simp only [lacoSwapEndian, hGet]
      simp [Hex.swapDigits, Memory.overwrite_cons, Nat.add_assoc]

theorem swapEndianMem_eq
    {saida tamanho : Nat}
    (mem : Nat → Char)
    (hTamanho : 8 ∣ tamanho) :
    swapEndianMem saida tamanho mem =
      Memory.overwrite mem saida
        (swapEndian (Memory.read mem saida tamanho) tamanho) := by
  have hTurns : 8 * (tamanho / 8) = tamanho :=
    Nat.mul_div_cancel' hTamanho
  have hLength := Memory.length_read mem saida tamanho
  have hAll :
      (Memory.read mem saida tamanho).take tamanho =
        Memory.read mem saida tamanho := by
    rw [List.take_of_length_le]
    omega
  unfold swapEndianMem
  dsimp only
  rw [lacoSwapEndian_eq _ _ _ _ (by omega), hTurns, hAll,
    swapEndian_of_length hLength]

theorem swapEndianMem_swapEndianMem
    {saida tamanho : Nat}
    (mem : Nat → Char)
    (hTamanho : 8 ∣ tamanho) :
    swapEndianMem saida tamanho
        (swapEndianMem saida tamanho mem) = mem := by
  have hLength :
      (swapEndian (Memory.read mem saida tamanho)
          tamanho).length = tamanho := by
    rw [swapEndian_of_length (Memory.length_read _ _ _),
      Hex.length_swapDigits, Memory.length_read]
  have hRead :=
    Memory.read_overwrite mem saida
      (swapEndian (Memory.read mem saida tamanho) tamanho)
  rw [hLength] at hRead
  rw [swapEndianMem_eq _ hTamanho, swapEndianMem_eq mem hTamanho,
    hRead, swapEndian_swapEndian (Memory.length_read _ _ _),
    Memory.overwrite_overwrite, Memory.overwrite_read]
  rw [hLength, Memory.length_read]

------------------------------------------------------------
-- Words Of `forro-args-dra`
------------------------------------------------------------

namespace ForroArgsDra

def swapEndianChunk (value : Word) : Word :=
  ((value >>> 24) &&& 0xFF) |||
    ((value >>> 8) &&& 0xFF00) |||
    ((value <<< 8) &&& 0xFF0000) |||
    ((value <<< 24) &&& 0xFF000000)

/- The chunk of four bytes. -/
def chunk (b0 b1 b2 b3 : Byte) : Word :=
  (b0.setWidth 32 <<< 24) ||| (b1.setWidth 32 <<< 16) |||
    (b2.setWidth 32 <<< 8) ||| b3.setWidth 32

/- The first turns of the loop of `swapEndian` on bytes. -/
def lacoSwapEndianBytes
    (input output : Nat) : Nat → (Nat → Byte) → Nat → Byte
| 0, mem => mem
| k + 1, mem =>
    let mem := lacoSwapEndianBytes input output k mem
    let i := 4 * k
    let swapped :=
      swapEndianChunk
        (chunk (mem (input + i)) (mem (input + (i + 1)))
          (mem (input + (i + 2))) (mem (input + (i + 3))))
    let byte (shift : Nat) : Byte :=
      ((swapped >>> shift) &&& 0xFF).setWidth 8
    let mem := Memory.write mem (output + i) (byte 24)
    let mem := Memory.write mem (output + (i + 1)) (byte 16)
    let mem := Memory.write mem (output + (i + 2)) (byte 8)
    Memory.write mem (output + (i + 3)) (byte 0)

/- `swapEndian` on a size that the step of its loop divides. -/
def swapEndianBytes
    (input output size : Nat)
    (mem : Nat → Byte) : Nat → Byte :=
  lacoSwapEndianBytes input output (size / 4) mem

theorem chunk_eq
    (b0 b1 b2 b3 : Byte) :
    chunk b0 b1 b2 b3 = b0 ++ b1 ++ b2 ++ b3 := by
  apply BitVec.eq_of_getLsbD_eq
  intro i hi
  simp only [chunk, BitVec.getLsbD_or,
    BitVec.getLsbD_shiftLeft, BitVec.getLsbD_setWidth,
    BitVec.getLsbD_append]
  interval_cases i <;> simp

theorem swapEndianChunk_append
    (b0 b1 b2 b3 : Byte) :
    swapEndianChunk (b0 ++ b1 ++ b2 ++ b3) =
      b3 ++ b2 ++ b1 ++ b0 := by
  apply BitVec.eq_of_getLsbD_eq
  intro i hi
  simp only [swapEndianChunk, BitVec.getLsbD_or,
    BitVec.getLsbD_and, BitVec.getLsbD_shiftLeft,
    BitVec.getLsbD_ushiftRight, BitVec.getLsbD_append]
  interval_cases i <;> simp

/- The bytes that the loop takes out of a chunk. -/
theorem bytes_chunk
    (b0 b1 b2 b3 : Byte) :
    let chunk : Word := b0 ++ b1 ++ b2 ++ b3
    ((chunk >>> 24) &&& 0xFF).setWidth 8 = b0 ∧
      ((chunk >>> 16) &&& 0xFF).setWidth 8 = b1 ∧
      ((chunk >>> 8) &&& 0xFF).setWidth 8 = b2 ∧
      ((chunk >>> 0) &&& 0xFF).setWidth 8 = b3 := by
  refine ⟨?_, ?_, ?_, ?_⟩
  all_goals
    apply BitVec.eq_of_getLsbD_eq
    intro i hi
    simp only [BitVec.getLsbD_setWidth, BitVec.getLsbD_and,
      BitVec.getLsbD_ushiftRight, BitVec.getLsbD_append]
    interval_cases i <;> simp

/- The loop reads a word before it writes over it. -/
theorem lacoSwapEndianBytes_eq
    {input output : Nat}
    (mem : Nat → Byte)
    (k : Nat)
    (hCompatible : Memory.Compatible input output (4 * k)) :
    lacoSwapEndianBytes input output k mem =
      Memory.overwrite mem output
        (swapWords (Memory.read mem input (4 * k))) := by
  induction k with
  | zero =>
      simp [lacoSwapEndianBytes, Memory.read, swapWords]
  | succ k ih =>
      have hBuffers :
          Memory.Compatible input output (4 * k + 4) := by
        rw [← Nat.mul_succ]
        exact hCompatible
      have hFirst := ih hBuffers.front
      have hLength :
          (swapWords (Memory.read mem input (4 * k))).length =
            4 * k := by
        rw [Bytes.length_swapWords, Memory.length_read]
      have hRead : (Memory.read mem input (4 * k)).length =
          4 * k :=
        Memory.length_read mem input (4 * k)
      have hKept : ∀ j < 4,
          lacoSwapEndianBytes input output k mem
              (input + (4 * k + j)) =
            mem (input + (4 * k + j)) := by
        intro j hj
        rw [hFirst]
        exact hBuffers.overwrite_behind mem hLength hj
      have hWord :
          Memory.read mem (input + 4 * k) 4 =
            [mem (input + 4 * k),
              mem (input + (4 * k + 1)),
              mem (input + (4 * k + 2)),
              mem (input + (4 * k + 3))] := by
        simp [Memory.read, List.range_succ, Nat.add_assoc]
      rw [Nat.mul_succ, Memory.read_add, hWord,
        Bytes.swapWords_append k _ _ hRead,
        Memory.overwrite_append, hLength, ← hFirst]
      have hZero := hKept 0 (by omega)
      rw [Nat.add_zero] at hZero
      simp only [lacoSwapEndianBytes]
      rw [hZero, hKept 1 (by omega), hKept 2 (by omega),
        hKept 3 (by omega)]
      generalize mem (input + 4 * k) = b0
      generalize mem (input + (4 * k + 1)) = b1
      generalize mem (input + (4 * k + 2)) = b2
      generalize mem (input + (4 * k + 3)) = b3
      rcases bytes_chunk b3 b2 b1 b0 with ⟨h24, h16, h8, h0⟩
      rw [chunk_eq, swapEndianChunk_append, h24, h16, h8, h0]
      simp [swapWords, Memory.overwrite_cons, Nat.add_assoc]

theorem swapEndianBytes_eq
    {input output size : Nat}
    (mem : Nat → Byte)
    (hSize : 4 ∣ size)
    (hCompatible : Memory.Compatible input output size) :
    swapEndianBytes input output size mem =
      Memory.overwrite mem output
        (swapWords (Memory.read mem input size)) := by
  have hTurns : 4 * (size / 4) = size :=
    Nat.mul_div_cancel' hSize
  unfold swapEndianBytes
  rw [lacoSwapEndianBytes_eq mem (size / 4), hTurns]
  rw [hTurns]
  exact hCompatible

end ForroArgsDra

------------------------------------------------------------
-- One Order
------------------------------------------------------------

/- Every helper gives the bytes with their words reversed. -/
structure OrdemTrocada (b : List Byte) : Prop where
  tools :
    ∀ (byteArray : Vector Byte b.length) (apos : List Char),
      ∃ lido,
        hexstringToByteArray byteArray
            (swapEndian (byteArrayToHexstring b)
                (2 * b.length) ++ apos)
            (2 * b.length) =
          some lido ∧
        lido.toList = swapWords b
  scripts :
    (Tna.inverterEndianess (Hex.encode b)).bind
        Receive.fromhex =
      some (swapWords b)
  bytes : Receive.swap32 b = swapWords b
  forroArgsDra :
    ∀ (mem : Nat → Byte) (input output : Nat),
      Memory.Compatible input output b.length →
        Memory.read mem input b.length = b →
          ForroArgsDra.swapEndianBytes input output b.length
              mem =
            Memory.overwrite mem output (swapWords b)
  palavras :
    ∀ i, 4 * (i + 1) ≤ b.length →
      BitVec.ofNat 32 (Bytes.beNat (piece 4 i (swapWords b))) =
        Forro.U8TO32_LITTLE (b.drop (4 * i))

/-
  The helpers are one map on bytes, which is an involution
  also on digits.
-/
theorem ordemTrocada
    (b : List Byte)
    (hLength : 4 ∣ b.length) :
    OrdemTrocada b ∧
      (∀ text : List Char, 8 ∣ text.length →
        swapEndian (swapEndian text text.length) text.length =
          text) ∧
      ∀ (mem : Nat → Char) (saida tamanho : Nat),
        8 ∣ tamanho →
          swapEndianMem saida tamanho mem =
              Memory.overwrite mem saida
                (swapEndian (Memory.read mem saida tamanho)
                  tamanho) ∧
            swapEndianMem saida tamanho
              (swapEndianMem saida tamanho mem) = mem := by
  rcases hLength with ⟨k, hk⟩
  have hDigits : (Hex.encode b).length = 8 * k := by
    rw [Hex.length_encode]
    omega
  have hSwapped :
      Hex.swapDigits (Hex.encode b) =
        Hex.encode (swapWords b) :=
    Hex.swapDigits_encode k b hk
  refine ⟨⟨?_, ?_, ?_, ?_, ?_⟩, ?_, ?_⟩
  · intro byteArray apos
    have hText :
        swapEndian (byteArrayToHexstring b) (2 * b.length) =
          Hex.encode (swapWords b) := by
      unfold byteArrayToHexstring
      rw [swapEndian_of_length (Hex.length_encode b), hSwapped]
    have hTextLength :
        (Hex.encode (swapWords b)).length = 2 * b.length := by
      rw [Hex.length_encode, Bytes.length_swapWords]
    rcases hexstringToByteArray_of_isHex byteArray
        (Hex.isHex_encode (swapWords b)) hTextLength apos with
      ⟨lido, hLido, hBytes⟩
    rw [Hex.decode_encode] at hBytes
    rw [hText]
    exact ⟨lido, hLido, hBytes⟩
  · rw [Tna.inverterEndianess_eq k _ hDigits, Option.bind_some,
      hSwapped, Receive.fromhex_encode]
  · exact Receive.swap32_eq k b hk
  · intro mem input output hCompatible hRead
    rw [ForroArgsDra.swapEndianBytes_eq mem ⟨k, hk⟩ hCompatible,
      hRead]
  · intro i hi
    have hInside : 4 * (i + 1) ≤ (swapWords b).length := by
      rw [Bytes.length_swapWords]
      exact hi
    rw [← Forro.palavra_swapWords hInside,
      Bytes.swapWords_swapWords]
    rfl
  · intro text _
    exact swapEndian_swapEndian rfl
  · intro mem saida tamanho hTamanho
    exact
      ⟨swapEndianMem_eq mem hTamanho,
        swapEndianMem_swapEndianMem mem hTamanho⟩

/- Three words. -/
theorem ordemTrocada_palavras :
    4 ∣
        ([0x30, 0x31, 0x32, 0x33, 0x34, 0x35, 0x36, 0x37, 0xfe,
          0xdc, 0xba, 0x98] : List Byte).length ∧
      OrdemTrocada
        [0x30, 0x31, 0x32, 0x33, 0x34, 0x35, 0x36, 0x37, 0xfe,
          0xdc, 0xba, 0x98] := by
  have hLength :
      4 ∣
        ([0x30, 0x31, 0x32, 0x33, 0x34, 0x35, 0x36, 0x37, 0xfe,
          0xdc, 0xba, 0x98] : List Byte).length := by
    decide
  exact ⟨hLength, (ordemTrocada _ hLength).1⟩

end Tools

end P4dra
