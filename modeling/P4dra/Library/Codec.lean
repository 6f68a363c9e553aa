import Mathlib.Logic.Equiv.Defs
import Mathlib.Data.List.FinRange
import P4dra.Library.Bytes

/-
  Fixed-size binary layouts.

  A codec is a one-to-one correspondence between the values
  of a type and the byte strings of one length; the laws are
  fields, so every layout built from the constructors below
  is lawful. `extract` reads a layout off the front of a
  byte string and returns what is left.

  Main declarations:
    * `Codec.bits`, `Codec.pair`, `Codec.vector`, `Codec.iso`
    * `Codec.extract_append`
    * `Codec.eq_append_of_extract`
-/

------------------------------------------------------------
-- Layouts
------------------------------------------------------------

open Bytes (Byte)

/- A layout of a type on byte strings of one length. -/
structure Codec (α : Type) where
  size : Nat
  encode : α → List Byte
  decode : List Byte → α
  length_encode : ∀ a, (encode a).length = size
  decode_encode : ∀ a, decode (encode a) = a
  encode_decode :
    ∀ bytes, bytes.length = size →
      encode (decode bytes) = bytes

namespace Codec

variable {α β : Type}

attribute [simp] length_encode decode_encode

/- Read a value off the front of a byte string. -/
def extract
    (codec : Codec α)
    (bytes : List Byte) : Option (α × List Byte) :=
  if bytes.length < codec.size then
    none
  else
    some
      (codec.decode (bytes.take codec.size),
        bytes.drop codec.size)

/- What was written in front is what is read. -/
@[simp] theorem extract_append
    (codec : Codec α)
    (a : α)
    (rest : List Byte) :
    codec.extract (codec.encode a ++ rest) =
      some (a, rest) := by
  have hLength := codec.length_encode a
  have hEnough :
      ¬ (codec.encode a ++ rest).length < codec.size := by
    rw [List.length_append]
    omega
  have hTake :
      (codec.encode a ++ rest).take codec.size =
        codec.encode a := by
    rw [← hLength, List.take_left]
  have hDrop :
      (codec.encode a ++ rest).drop codec.size = rest := by
    rw [← hLength, List.drop_left]
  rw [extract, if_neg hEnough, hTake, hDrop,
    codec.decode_encode]

/- What was read is what stood in front. -/
theorem eq_append_of_extract
    {codec : Codec α}
    {bytes rest : List Byte}
    {a : α}
    (h : codec.extract bytes = some (a, rest)) :
    bytes = codec.encode a ++ rest := by
  unfold extract at h
  by_cases hShort : bytes.length < codec.size
  · simp [hShort] at h
  · rw [if_neg hShort] at h
    have hPair := Option.some.inj h
    have hValue :
        codec.decode (bytes.take codec.size) = a :=
      congrArg Prod.fst hPair
    have hRest : bytes.drop codec.size = rest :=
      congrArg Prod.snd hPair
    have hLength :
        (bytes.take codec.size).length = codec.size := by
      rw [List.length_take]
      omega
    rw [← hValue, codec.encode_decode _ hLength, ← hRest,
      List.take_append_drop]

/- A value is read exactly when enough bytes are present. -/
theorem extract_eq_none_iff
    (codec : Codec α)
    (bytes : List Byte) :
    codec.extract bytes = none ↔
      bytes.length < codec.size := by
  unfold extract
  by_cases hShort : bytes.length < codec.size
  · simp [hShort]
  · simp [hShort]

/- A byte string that is long enough starts with a value. -/
theorem exists_eq_append
    (codec : Codec α)
    {bytes : List Byte}
    (hLength : codec.size ≤ bytes.length) :
    ∃ a rest, bytes = codec.encode a ++ rest := by
  cases h : codec.extract bytes with
  | none =>
      have hShort := (extract_eq_none_iff codec bytes).mp h
      omega
  | some parsed =>
      exact ⟨parsed.1, parsed.2, eq_append_of_extract h⟩

/- Distinct values have distinct encodings. -/
theorem encode_injective
    (codec : Codec α)
    {a b : α}
    (h : codec.encode a = codec.encode b) :
    a = b := by
  rw [← codec.decode_encode a, h, codec.decode_encode]

------------------------------------------------------------
-- Constructors
------------------------------------------------------------

/- An unsigned integer of `n` bytes in network order. -/
def bits (n : Nat) : Codec (BitVec (8 * n)) where
  size := n
  encode value := Bytes.beBytes n value.toNat
  decode bytes := BitVec.ofNat (8 * n) (Bytes.beNat bytes)
  length_encode := by simp
  decode_encode := by
    intro value
    have hWidth : 256 ^ n = 2 ^ (8 * n) := by
      rw [Nat.pow_mul]
    rw [Bytes.beNat_beBytes, hWidth,
      Nat.mod_eq_of_lt value.isLt, BitVec.ofNat_toNat,
      BitVec.setWidth_eq]
  encode_decode := by
    intro bytes hLength
    have hWidth : 2 ^ (8 * n) = 256 ^ bytes.length := by
      rw [Nat.pow_mul, hLength]
    rw [BitVec.toNat_ofNat, hWidth,
      Nat.mod_eq_of_lt (Bytes.beNat_lt bytes), ← hLength,
      Bytes.beBytes_beNat]

/- A byte is its own encoding. -/
theorem encode_bits_one
    (byte : Byte) :
    (bits 1).encode byte = [byte] := by
  show [] ++ [BitVec.ofNat 8 byte.toNat] = [byte]
  rw [BitVec.ofNat_toNat, BitVec.setWidth_eq, List.nil_append]

/- One layout after the other. -/
def pair
    (first : Codec α)
    (second : Codec β) : Codec (α × β) where
  size := first.size + second.size
  encode value := first.encode value.1 ++ second.encode value.2
  decode bytes :=
    (first.decode (bytes.take first.size),
      second.decode (bytes.drop first.size))
  length_encode := by simp
  decode_encode := by
    rintro ⟨a, b⟩
    have hTake :
        (first.encode a ++ second.encode b).take first.size =
          first.encode a := by
      rw [← first.length_encode a, List.take_left]
    have hDrop :
        (first.encode a ++ second.encode b).drop first.size =
          second.encode b := by
      rw [← first.length_encode a, List.drop_left]
    simp [hTake, hDrop]
  encode_decode := by
    intro bytes hLength
    have hFirst :
        (bytes.take first.size).length = first.size := by
      rw [List.length_take]
      omega
    have hSecond :
        (bytes.drop first.size).length = second.size := by
      rw [List.length_drop]
      omega
    rw [first.encode_decode _ hFirst,
      second.encode_decode _ hSecond, List.take_append_drop]

/- `n` copies of a layout in index order. -/
def vector
    (codec : Codec α)
    (n : Nat) : Codec (Vector α n) where
  size := n * codec.size
  encode values := values.toList.flatMap codec.encode
  decode bytes :=
    Vector.ofFn
      (fun i => codec.decode (Bytes.piece codec.size i bytes))
  length_encode := by
    intro values
    simp [List.length_flatMap, List.map_const']
  decode_encode := by
    intro values
    apply Vector.ext
    intro i hi
    have hPiece :
        ∀ (list : List α) (j : Nat) (hj : j < list.length),
          Bytes.piece codec.size j
              (list.flatMap codec.encode) =
            codec.encode list[j] := by
      intro list
      induction list with
      | nil =>
          intro j hj
          simp at hj
      | cons head tail ih =>
          intro j hj
          cases j with
          | zero =>
              exact Bytes.piece_zero_append _
                (codec.length_encode head)
          | succ j =>
              rw [List.flatMap_cons,
                Bytes.piece_succ_append _ j
                  (codec.length_encode head)]
              simpa using ih j (by simpa using hj)
    rw [Vector.getElem_ofFn, hPiece values.toList i (by simpa)]
    simp
  encode_decode := by
    intro bytes hLength
    have hPieces :
        ∀ i, i < n →
          codec.encode
              (codec.decode
                (Bytes.piece codec.size i bytes)) =
            Bytes.piece codec.size i bytes := by
      intro i hi
      apply codec.encode_decode
      apply Bytes.length_piece
      rw [hLength]
      exact Nat.mul_le_mul_right codec.size hi
    rw [Vector.toList_ofFn, List.ofFn_eq_map,
      List.flatMap_map]
    calc
      (List.finRange n).flatMap
          (fun i : Fin n => codec.encode
            (codec.decode
              (Bytes.piece codec.size i bytes))) =
        (List.finRange n).flatMap
          (fun i : Fin n =>
            Bytes.piece codec.size i bytes) := by
          congr 1
          funext i
          exact hPieces i i.isLt
      _ = (List.range n).flatMap
          (fun i => Bytes.piece codec.size i bytes) := by
          rw [← List.map_coe_finRange_eq_range,
            List.flatMap_map]
      _ = bytes :=
          Bytes.pieces_flatten codec.size n bytes hLength

/- The first values take up the first bytes. -/
theorem take_flatMap_encode
    (codec : Codec α)
    (values : List α)
    (k : Nat) :
    (values.flatMap codec.encode).take (k * codec.size) =
      (values.take k).flatMap codec.encode := by
  induction values generalizing k with
  | nil => simp
  | cons head tail ih =>
      cases k with
      | zero => simp
      | succ k =>
          have hHead :
              (codec.encode head).length = codec.size :=
            codec.length_encode head
          have hSize :
              (k + 1) * codec.size =
                (codec.encode head).length + k * codec.size := by
            rw [hHead, Nat.add_mul, Nat.one_mul, Nat.add_comm]
          rw [List.flatMap_cons, hSize, List.take_length_add_append,
            ih k]
          simp

/- Equally many values with the same bytes are the same. -/
theorem flatMap_encode_injective
    (codec : Codec α)
    {values others : List α}
    (hLength : values.length = others.length)
    (hBytes :
      values.flatMap codec.encode =
        others.flatMap codec.encode) :
    values = others := by
  induction values generalizing others with
  | nil =>
      exact (List.length_eq_zero_iff.mp hLength.symm).symm
  | cons head tail ih =>
      cases others with
      | nil => simp at hLength
      | cons head' tail' =>
          rw [List.flatMap_cons, List.flatMap_cons] at hBytes
          have hHeads :
              (codec.encode head).length =
                (codec.encode head').length := by
            rw [codec.length_encode, codec.length_encode]
          rcases List.append_inj hBytes hHeads with
            ⟨hHead, hTail⟩
          rw [codec.encode_injective hHead,
            ih (by simpa using hLength) hTail]

/- A layout of any type in correspondence with a laid out one. -/
def iso
    (codec : Codec α)
    (e : α ≃ β) : Codec β where
  size := codec.size
  encode value := codec.encode (e.symm value)
  decode bytes := e (codec.decode bytes)
  length_encode := by simp
  decode_encode := by simp
  encode_decode := by
    intro bytes hLength
    simp [codec.encode_decode bytes hLength]

end Codec
