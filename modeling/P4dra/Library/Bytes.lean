import Mathlib.Tactic.Common
import Mathlib.Tactic.Ring
import Mathlib.Data.List.Induction

/-
  Byte strings and fixed-width integers.

  A byte string is a list of 8-bit words. `beNat` and
  `beBytes` read and write an integer with the most
  significant byte first; `leNat` and `leBytes` are the same
  on the reversed string. `swapWords` reverses every group of
  four bytes, which exchanges the two readings of every
  32-bit word.

  Main declarations:
    * `Bytes.beNat_beBytes` and `Bytes.beBytes_beNat`
    * `Bytes.pieces_flatten`
    * `Bytes.swapWords_swapWords`
    * `Bytes.piece_swapWords`
-/

------------------------------------------------------------
-- Integers As Byte Strings
------------------------------------------------------------

namespace Bytes

/- An octet. -/
abbrev Byte := BitVec 8

/- The value of a byte string, most significant byte first. -/
def beNat (bytes : List Byte) : Nat :=
  bytes.foldl (fun value byte => 256 * value + byte.toNat) 0

/- The last `n` base-256 digits of a value, most significant first. -/
def beBytes : Nat → Nat → List Byte
| 0, _ => []
| n + 1, value =>
    beBytes n (value / 256) ++ [BitVec.ofNat 8 value]

/- The value of a byte string, least significant byte first. -/
def leNat (bytes : List Byte) : Nat :=
  beNat bytes.reverse

/- The last `n` base-256 digits of a value, least significant first. -/
def leBytes (n value : Nat) : List Byte :=
  (beBytes n value).reverse

@[simp] theorem beNat_nil : beNat [] = 0 := rfl

theorem beNat_concat
    (bytes : List Byte)
    (byte : Byte) :
    beNat (bytes ++ [byte]) =
      256 * beNat bytes + byte.toNat := by
  simp [beNat]

@[simp] theorem length_beBytes
    (n value : Nat) :
    (beBytes n value).length = n := by
  induction n generalizing value with
  | zero => rfl
  | succ n ih => simp [beBytes, ih]

@[simp] theorem length_leBytes
    (n value : Nat) :
    (leBytes n value).length = n := by
  simp [leBytes]

theorem beNat_lt
    (bytes : List Byte) :
    beNat bytes < 256 ^ bytes.length := by
  induction bytes using List.reverseRecOn with
  | nil => simp
  | append_singleton bytes byte ih =>
      have hByte : byte.toNat < 256 := byte.isLt
      rw [beNat_concat, List.length_append,
        List.length_singleton, Nat.pow_succ]
      omega

/- Writing and reading back keeps the value modulo the width. -/
theorem beNat_beBytes
    (n value : Nat) :
    beNat (beBytes n value) = value % 256 ^ n := by
  induction n generalizing value with
  | zero => simp [beBytes, Nat.mod_one]
  | succ n ih =>
      have hPow : 256 ^ (n + 1) = 256 * 256 ^ n :=
        Nat.pow_succ'
      have hByte :
          (BitVec.ofNat 8 value).toNat = value % 256 :=
        BitVec.toNat_ofNat value 8
      rw [beBytes, beNat_concat, ih, hByte, hPow, Nat.mod_mul]
      omega

/- Reading and writing back gives the byte string again. -/
theorem beBytes_beNat
    (bytes : List Byte) :
    beBytes bytes.length (beNat bytes) = bytes := by
  induction bytes using List.reverseRecOn with
  | nil => rfl
  | append_singleton bytes byte ih =>
      have hByte : byte.toNat < 256 := byte.isLt
      have hDiv :
          (256 * beNat bytes + byte.toNat) / 256 =
            beNat bytes := by
        omega
      have hLow :
          BitVec.ofNat 8 (256 * beNat bytes + byte.toNat) =
            byte := by
        apply BitVec.eq_of_toNat_eq
        rw [BitVec.toNat_ofNat]
        omega
      rw [beNat_concat, List.length_append,
        List.length_singleton, beBytes, hDiv, ih, hLow]

theorem beNat_append
    (high low : List Byte) :
    beNat (high ++ low) =
      256 ^ low.length * beNat high + beNat low := by
  induction low using List.reverseRecOn with
  | nil => simp
  | append_singleton low byte ih =>
      rw [← List.append_assoc, beNat_concat, ih, beNat_concat,
        List.length_append, List.length_singleton, Nat.pow_succ]
      ring

------------------------------------------------------------
-- Pieces Of A Byte String
------------------------------------------------------------

variable {α : Type}

/- The `i`-th piece of `size` elements. -/
def piece
    (size i : Nat)
    (xs : List α) : List α :=
  (xs.drop (i * size)).take size

/- The bytes of a field at an offset. -/
def slice
    (offset size : Nat)
    (xs : List α) : List α :=
  (xs.drop offset).take size

theorem length_piece
    {size i : Nat}
    {xs : List α}
    (h : (i + 1) * size ≤ xs.length) :
    (piece size i xs).length = size := by
  have hEnd : i * size + size ≤ xs.length := by
    simpa [Nat.add_mul] using h
  simp only [piece, List.length_take, List.length_drop]
  omega

theorem length_slice
    {offset size : Nat}
    {xs : List α}
    (h : offset + size ≤ xs.length) :
    (slice offset size xs).length = size := by
  simp only [slice, List.length_take, List.length_drop]
  omega

/- A field between two parts of known lengths. -/
theorem slice_middle
    {offset size : Nat}
    {front middle : List α}
    (back : List α)
    (hFront : front.length = offset)
    (hMiddle : middle.length = size) :
    slice offset size (front ++ (middle ++ back)) = middle := by
  rw [slice, ← hFront, List.drop_left, ← hMiddle,
    List.take_left]

/- The byte behind a part of known length. -/
theorem getD_middle
    {offset : Nat}
    {front : List α}
    (x : α)
    (back : List α)
    (default : α)
    (hFront : front.length = offset) :
    (front ++ x :: back).getD offset default = x := by
  simp [← hFront]

/- A field at the front. -/
theorem slice_front
    {size : Nat}
    {front : List α}
    (back : List α)
    (hFront : front.length = size) :
    slice 0 size (front ++ back) = front := by
  rw [slice, List.drop_zero, ← hFront, List.take_left]

/- A field inside a string does not see what follows it. -/
theorem slice_append_of_le
    {offset size : Nat}
    {xs : List α}
    (back : List α)
    (hInside : offset + size ≤ xs.length) :
    slice offset size (xs ++ back) = slice offset size xs := by
  have hRest : size ≤ (xs.drop offset).length := by
    rw [List.length_drop]
    omega
  unfold slice
  rw [List.drop_append_of_le_length (by omega),
    List.take_append_of_le_length hRest]

/- A field among others lies behind those before it. -/
theorem slice_flatten
    {offset size : Nat}
    (fields : List (List α))
    (i : Nat)
    (hi : i < fields.length)
    (hOffset :
      ((fields.take i).map List.length).sum = offset)
    (hSize : fields[i].length = size) :
    slice offset size fields.flatten = fields[i] := by
  have hFront : (fields.take i).flatten.length = offset := by
    rw [List.length_flatten, hOffset]
  have hSplit :
      fields.flatten =
        (fields.take i).flatten ++
          (fields[i] ++ (fields.drop (i + 1)).flatten) := by
    rw [← List.flatten_cons, ← List.drop_eq_getElem_cons hi,
      ← List.flatten_append, List.take_append_drop]
  rw [hSplit]
  exact slice_middle _ hFront hSize

/- The first piece is the front of the string. -/
theorem piece_zero_append
    {size : Nat}
    {front : List α}
    (back : List α)
    (hFront : front.length = size) :
    piece size 0 (front ++ back) = front := by
  simp [piece, ← hFront]

/- Later pieces do not see the first one. -/
theorem piece_succ_append
    {size : Nat}
    {front : List α}
    (back : List α)
    (i : Nat)
    (hFront : front.length = size) :
    piece size (i + 1) (front ++ back) =
      piece size i back := by
  have hDrop : (i + 1) * size = front.length + i * size := by
    rw [hFront]
    ring
  rw [piece, hDrop, List.drop_length_add_append]
  rfl

/- A string is the concatenation of its pieces. -/
theorem pieces_flatten
    (size : Nat) :
    ∀ (n : Nat) (xs : List α),
      xs.length = n * size →
        (List.range n).flatMap
          (fun i => piece size i xs) = xs := by
  intro n
  induction n with
  | zero =>
      intro xs hLength
      have hNil : xs = [] := by
        apply List.eq_nil_of_length_eq_zero
        simpa using hLength
      simp [hNil]
  | succ n ih =>
      intro xs hLength
      have hTake : (xs.take size).length = size := by
        rw [List.length_take, hLength, Nat.add_mul]
        omega
      have hDrop : (xs.drop size).length = n * size := by
        rw [List.length_drop, hLength, Nat.add_mul]
        omega
      have hSplit := List.take_append_drop size xs
      have hTail :
          ∀ i, piece size (i + 1) xs =
            piece size i (xs.drop size) := by
        intro i
        rw [← piece_succ_append (xs.drop size) i hTake,
          hSplit]
      have hHead : piece size 0 xs = xs.take size := by
        simp [piece]
      rw [List.range_succ_eq_map, List.flatMap_cons, hHead,
        List.flatMap_map]
      simp only [hTail]
      rw [ih _ hDrop, hSplit]

/- The digits of the middle of a byte string. -/
theorem beNat_middle
    (front middle back : List Byte) :
    beNat (front ++ (middle ++ back)) / 256 ^ back.length %
        256 ^ middle.length =
      beNat middle := by
  have hBack := beNat_lt back
  have hMiddle := beNat_lt middle
  have hPow :
      256 ^ (middle.length + back.length) =
        256 ^ back.length * 256 ^ middle.length := by
    rw [Nat.pow_add, Nat.mul_comm]
  have hValue :
      beNat (front ++ (middle ++ back)) =
        256 ^ back.length *
            (256 ^ middle.length * beNat front + beNat middle) +
          beNat back := by
    rw [beNat_append, beNat_append, List.length_append, hPow]
    ring
  rw [hValue, Nat.mul_add_div (Nat.pow_pos (by decide)),
    Nat.div_eq_of_lt hBack, Nat.add_zero, Nat.mul_add_mod,
    Nat.mod_eq_of_lt hMiddle]

/- A piece is a group of base-256 digits of the whole. -/
theorem beNat_piece
    {size n i : Nat}
    {bytes : List Byte}
    (hLength : bytes.length = n * size)
    (hi : i < n) :
    beNat bytes / 256 ^ ((n - 1 - i) * size) % 256 ^ size =
      beNat (piece size i bytes) := by
  have hEnd : (i + 1) * size ≤ bytes.length := by
    rw [hLength]
    exact Nat.mul_le_mul_right size hi
  have hPiece : (piece size i bytes).length = size :=
    length_piece hEnd
  have hSplit :
      bytes =
        bytes.take (i * size) ++
          (piece size i bytes ++ bytes.drop ((i + 1) * size)) := by
    have hDrop :
        bytes.drop ((i + 1) * size) =
          (bytes.drop (i * size)).drop size := by
      rw [List.drop_drop, Nat.add_mul, Nat.one_mul]
    rw [piece, hDrop, List.take_append_drop,
      List.take_append_drop]
  have hBack :
      (bytes.drop ((i + 1) * size)).length =
        (n - 1 - i) * size := by
    rw [List.length_drop, hLength, ← Nat.sub_mul]
    congr 1
    omega
  have hMiddle :=
    beNat_middle (bytes.take (i * size)) (piece size i bytes)
      (bytes.drop ((i + 1) * size))
  rw [← hSplit, hBack, hPiece] at hMiddle
  exact hMiddle

------------------------------------------------------------
-- Reversing The Bytes Of Every Word
------------------------------------------------------------

theorem exists_eight
    {xs : List α}
    (hLength : 8 ≤ xs.length) :
    ∃ x0 x1 x2 x3 x4 x5 x6 x7 rest,
      xs = x0 :: x1 :: x2 :: x3 :: x4 :: x5 :: x6 :: x7 ::
        rest := by
  rcases xs with
    _ | ⟨x0, _ | ⟨x1, _ | ⟨x2, _ | ⟨x3, _ | ⟨x4, _ | ⟨x5, _ |
      ⟨x6, _ | ⟨x7, rest⟩⟩⟩⟩⟩⟩⟩⟩
  case cons.cons.cons.cons.cons.cons.cons.cons =>
    exact ⟨x0, x1, x2, x3, x4, x5, x6, x7, rest, rfl⟩
  all_goals simp at hLength

/- Reverse every group of four elements. -/
def swapWords : List α → List α
| a :: b :: c :: d :: rest => d :: c :: b :: a :: swapWords rest
| rest => rest

@[simp] theorem length_swapWords :
    ∀ xs : List α, (swapWords xs).length = xs.length
| [] => rfl
| [_] => rfl
| [_, _] => rfl
| [_, _, _] => rfl
| a :: b :: c :: d :: rest => by
    simp [swapWords, length_swapWords rest]

/- Reversing every group twice restores the string. -/
@[simp] theorem swapWords_swapWords :
    ∀ xs : List α, swapWords (swapWords xs) = xs
| [] => rfl
| [_] => rfl
| [_, _] => rfl
| [_, _, _] => rfl
| a :: b :: c :: d :: rest => by
    simp [swapWords, swapWords_swapWords rest]

/- Swapping a whole number of groups leaves what follows alone. -/
theorem swapWords_append :
    ∀ (k : Nat) (xs ys : List α),
      xs.length = 4 * k →
        swapWords (xs ++ ys) = swapWords xs ++ swapWords ys := by
  intro k
  induction k with
  | zero =>
      intro xs ys hLength
      have hNil : xs = [] := by
        apply List.eq_nil_of_length_eq_zero
        simpa using hLength
      simp [hNil, swapWords]
  | succ k ih =>
      intro xs ys hLength
      match xs, hLength with
      | a :: b :: c :: d :: rest, hLength =>
          have hRest : rest.length = 4 * k := by
            simp only [List.length_cons] at hLength
            omega
          simp [swapWords, ih rest ys hRest]

theorem swapWords_drop :
    ∀ (k : Nat) (xs : List α),
      swapWords (xs.drop (4 * k)) = (swapWords xs).drop (4 * k) := by
  intro k
  induction k with
  | zero =>
      intro xs
      simp
  | succ k ih =>
      intro xs
      match xs with
      | [] => simp [swapWords]
      | [_] => simp [swapWords, Nat.mul_succ]
      | [_, _] => simp [swapWords, Nat.mul_succ]
      | [_, _, _] => simp [swapWords, Nat.mul_succ]
      | a :: b :: c :: d :: rest =>
          simp [swapWords, Nat.mul_succ, ih rest]

theorem swapWords_take :
    ∀ (k : Nat) (xs : List α),
      4 * k ≤ xs.length →
        swapWords (xs.take (4 * k)) =
          (swapWords xs).take (4 * k) := by
  intro k xs hLength
  have hTake : (xs.take (4 * k)).length = 4 * k := by
    rw [List.length_take]
    omega
  have hSplit :=
    swapWords_append k (xs.take (4 * k)) (xs.drop (4 * k)) hTake
  rw [List.take_append_drop] at hSplit
  have hSwapped :
      (swapWords (xs.take (4 * k))).length = 4 * k := by
    rw [length_swapWords, hTake]
  rw [hSplit]
  exact (List.take_left' hSwapped).symm

/- Swapping the words of a field of whole words. -/
theorem slice_swapWords
    {k m : Nat}
    {xs : List α}
    (hLength : 4 * k + 4 * m ≤ xs.length) :
    slice (4 * k) (4 * m) (swapWords xs) =
      swapWords (slice (4 * k) (4 * m) xs) := by
  have hDrop : 4 * m ≤ (xs.drop (4 * k)).length := by
    rw [List.length_drop]
    omega
  rw [slice, slice, swapWords_take m _ hDrop, swapWords_drop]

/- Each whole group of the swapped string is a reversed group. -/
theorem piece_swapWords :
    ∀ (i : Nat) (xs : List α),
      4 * (i + 1) ≤ xs.length →
        piece 4 i (swapWords xs) = (piece 4 i xs).reverse := by
  intro i
  induction i with
  | zero =>
      intro xs hLength
      match xs, hLength with
      | a :: b :: c :: d :: rest, _ =>
          simp [piece, swapWords]
  | succ i ih =>
      intro xs hLength
      match xs, hLength with
      | a :: b :: c :: d :: rest, hLength =>
          have hRest : 4 * (i + 1) ≤ rest.length := by
            simp only [List.length_cons] at hLength
            omega
          have hFour : ∀ (w x y z : α) (back : List α),
              piece 4 (i + 1) (w :: x :: y :: z :: back) =
                piece 4 i back :=
            fun w x y z back =>
              @piece_succ_append _ 4 [w, x, y, z] back i rfl
          have hLeft := hFour d c b a (swapWords rest)
          have hRight := hFour a b c d rest
          rw [swapWords, hLeft, hRight, ih rest hRest]

end Bytes
