import P4dra.Library.Bytes

/-
  Hexadecimal text and the C functions that read and write
  it.

  Text is a list of characters. `encode` writes two
  lower-case digits a byte, as `printf("%02x")` does; `decode`
  reads two digits a byte in either case. `strtoul16` is the
  standard function with base 16; on two digits it agrees
  with `decode`.

  Main declarations:
    * `Hex.decode_encode`
    * `Hex.decode_swapDigits`
    * `Hex.encode_decode`
    * `Hex.beNat_decode`
    * `Hex.strtoul16_digits`
-/

------------------------------------------------------------
-- Digits
------------------------------------------------------------

open Bytes (Byte)

namespace Hex

/- The value of a digit of either case. -/
def digitValue? (c : Char) : Option Nat :=
  if '0'.toNat ≤ c.toNat ∧ c.toNat ≤ '9'.toNat then
    some (c.toNat - '0'.toNat)
  else if 'a'.toNat ≤ c.toNat ∧ c.toNat ≤ 'f'.toNat then
    some (c.toNat - 'a'.toNat + 10)
  else if 'A'.toNat ≤ c.toNat ∧ c.toNat ≤ 'F'.toNat then
    some (c.toNat - 'A'.toNat + 10)
  else
    none

/- A character is a digit of either case. -/
def IsDigit (c : Char) : Prop :=
  (digitValue? c).isSome

instance (c : Char) : Decidable (IsDigit c) :=
  inferInstanceAs (Decidable ((digitValue? c).isSome = true))

/- The value of a digit, zero for any other character. -/
def digitValue (c : Char) : Nat :=
  (digitValue? c).getD 0

/- The lower-case digit of a value. -/
def digitChar (n : Nat) : Char :=
  if n < 10 then
    Char.ofNat ('0'.toNat + n)
  else
    Char.ofNat ('a'.toNat + (n - 10))

/- Text of digits only. -/
def IsHex (text : List Char) : Prop :=
  ∀ c ∈ text, IsDigit c

instance (text : List Char) : Decidable (IsHex text) :=
  List.decidableBAll IsDigit text

theorem digitValue_lt
    (c : Char) :
    digitValue c < 16 := by
  unfold digitValue digitValue?
  split_ifs <;> simp only [Option.getD_some,
    Option.getD_none] <;> simp at * <;> omega

/- A digit is one of the three ranges of characters. -/
theorem toNat_of_isDigit
    {c : Char}
    (h : IsDigit c) :
    (48 ≤ c.toNat ∧ c.toNat ≤ 57) ∨
      (97 ≤ c.toNat ∧ c.toNat ≤ 102) ∨
        (65 ≤ c.toNat ∧ c.toNat ≤ 70) := by
  unfold IsDigit digitValue? at h
  split_ifs at h with h1 h2 h3
  · exact Or.inl h1
  · exact Or.inr (Or.inl h2)
  · exact Or.inr (Or.inr h3)
  · simp at h

/- A digit is none of the characters outside the ranges. -/
theorem ne_of_isDigit
    {c d : Char}
    (h : IsDigit c)
    (hd : ¬ IsDigit d) :
    c ≠ d := by
  intro hEq
  exact hd (hEq ▸ h)

theorem isDigit_digitChar :
    ∀ n, n < 16 → IsDigit (digitChar n) := by
  decide

theorem digitValue_digitChar :
    ∀ n, n < 16 → digitValue (digitChar n) = n := by
  decide

------------------------------------------------------------
-- Bytes
------------------------------------------------------------

/- The two digits of a byte. -/
def ofByte (byte : Byte) : List Char :=
  [digitChar (byte.toNat / 16), digitChar (byte.toNat % 16)]

/- Two lower-case digits a byte. -/
def encode (bytes : List Byte) : List Char :=
  bytes.flatMap ofByte

/- The byte of two digits. -/
def pairByte (high low : Char) : Byte :=
  BitVec.ofNat 8 (16 * digitValue high + digitValue low)

/- One byte for every two digits. -/
def decode : List Char → List Byte
| high :: low :: rest => pairByte high low :: decode rest
| _ => []

theorem encode_cons
    (byte : Byte)
    (bytes : List Byte) :
    encode (byte :: bytes) =
      digitChar (byte.toNat / 16) ::
        digitChar (byte.toNat % 16) :: encode bytes := rfl

@[simp] theorem length_encode
    (bytes : List Byte) :
    (encode bytes).length = 2 * bytes.length := by
  induction bytes with
  | nil => rfl
  | cons byte bytes ih =>
      rw [encode_cons, List.length_cons, List.length_cons, ih,
        List.length_cons]
      omega

theorem length_decode :
    ∀ text : List Char,
      (decode text).length = text.length / 2
| [] => rfl
| [_] => by simp [decode]
| _ :: _ :: rest => by
    simp only [decode, List.length_cons, length_decode rest]
    omega

theorem byte_div_lt
    (byte : Byte) :
    byte.toNat / 16 < 16 := by
  have hByte : byte.toNat < 256 := byte.isLt
  omega

theorem byte_mod_lt
    (byte : Byte) :
    byte.toNat % 16 < 16 :=
  Nat.mod_lt _ (by decide)

/- Only digits of values below sixteen are written. -/
theorem exists_digitChar_of_mem_encode
    {c : Char}
    {bytes : List Byte}
    (hc : c ∈ encode bytes) :
    ∃ n < 16, c = digitChar n := by
  rcases List.mem_flatMap.mp hc with ⟨byte, _, hDigit⟩
  simp only [ofByte, List.mem_cons, List.not_mem_nil,
    or_false] at hDigit
  rcases hDigit with hHigh | hLow
  · exact ⟨_, byte_div_lt byte, hHigh⟩
  · exact ⟨_, byte_mod_lt byte, hLow⟩

theorem isHex_encode
    (bytes : List Byte) :
    IsHex (encode bytes) := by
  intro c hc
  rcases exists_digitChar_of_mem_encode hc with ⟨n, hn, hDigit⟩
  rw [hDigit]
  exact isDigit_digitChar n hn

/- What was written is what is read. -/
@[simp] theorem decode_encode
    (bytes : List Byte) :
    decode (encode bytes) = bytes := by
  induction bytes with
  | nil => rfl
  | cons byte bytes ih =>
      have hPair :
          pairByte (digitChar (byte.toNat / 16))
              (digitChar (byte.toNat % 16)) = byte := by
        apply BitVec.eq_of_toNat_eq
        rw [pairByte,
          digitValue_digitChar _ (byte_div_lt byte),
          digitValue_digitChar _ (byte_mod_lt byte),
          BitVec.toNat_ofNat, Nat.div_add_mod]
        exact Nat.mod_eq_of_lt byte.isLt
      rw [encode_cons, decode, hPair, ih]

/- Reading a part of the text gives a part of the bytes. -/
theorem decode_take :
    ∀ (k : Nat) (text : List Char),
      decode (text.take (2 * k)) = (decode text).take k := by
  intro k
  induction k with
  | zero =>
      intro text
      simp [decode]
  | succ k ih =>
      intro text
      match text with
      | [] => simp [decode]
      | [c] =>
          have hTake : [c].take (2 * (k + 1)) = [c] := by
            apply List.take_of_length_le
            simp only [List.length_singleton]
            omega
          simp [hTake, decode]
      | high :: low :: rest =>
          have hIndex : 2 * (k + 1) = 2 * k + 1 + 1 := by
            omega
          simp [hIndex, decode, ih rest]

theorem decode_drop :
    ∀ (k : Nat) (text : List Char),
      decode (text.drop (2 * k)) = (decode text).drop k := by
  intro k
  induction k with
  | zero =>
      intro text
      simp
  | succ k ih =>
      intro text
      match text with
      | [] => simp [decode]
      | [c] =>
          have hDrop : [c].drop (2 * (k + 1)) = [] := by
            apply List.drop_of_length_le
            simp only [List.length_singleton]
            omega
          simp [hDrop, decode]
      | high :: low :: rest =>
          have hIndex : 2 * (k + 1) = 2 * k + 1 + 1 := by
            omega
          simp [hIndex, decode, ih rest]

/- Digits of a part stand for a part of the bytes. -/
theorem decode_slice
    (offset size : Nat)
    (text : List Char) :
    decode (Bytes.slice (2 * offset) (2 * size) text) =
      Bytes.slice offset size (decode text) := by
  rw [Bytes.slice, decode_take, decode_drop, Bytes.slice]

theorem isHex_slice
    (offset size : Nat)
    {text : List Char}
    (hText : IsHex text) :
    IsHex (Bytes.slice offset size text) :=
  fun c hc =>
    hText c (List.mem_of_mem_drop (List.mem_of_mem_take hc))

/- The `i`-th byte comes from the `i`-th pair of digits. -/
theorem getElem_decode
    (text : List Char)
    (i : Nat)
    (hi : 2 * i + 1 < text.length)
    (hi' : i < (decode text).length) :
    (decode text)[i] = pairByte text[2 * i] text[2 * i + 1] := by
  have hDrop :
      decode (text.drop (2 * i)) = (decode text).drop i :=
    decode_drop i text
  rw [List.drop_eq_getElem_cons (by omega),
    List.drop_eq_getElem_cons (by omega),
    List.drop_eq_getElem_cons hi', decode] at hDrop
  exact (List.cons.inj hDrop).1.symm

------------------------------------------------------------
-- Word Order
------------------------------------------------------------

/- Reverse the four digit pairs of every group of eight. -/
def swapDigits : List Char → List Char
| c0 :: c1 :: c2 :: c3 :: c4 :: c5 :: c6 :: c7 :: rest =>
    c6 :: c7 :: c4 :: c5 :: c2 :: c3 :: c0 :: c1 ::
      swapDigits rest
| rest => rest

/- The first group of eight. -/
theorem exists_group
    {k : Nat}
    {text : List Char}
    (hLength : text.length = 8 * (k + 1)) :
    ∃ c0 c1 c2 c3 c4 c5 c6 c7 rest,
      text = c0 :: c1 :: c2 :: c3 :: c4 :: c5 :: c6 :: c7 ::
        rest ∧
      rest.length = 8 * k := by
  rcases Bytes.exists_eight (by omega : 8 ≤ text.length) with
    ⟨c0, c1, c2, c3, c4, c5, c6, c7, rest, rfl⟩
  refine ⟨c0, c1, c2, c3, c4, c5, c6, c7, rest, rfl, ?_⟩
  simp only [List.length_cons] at hLength
  omega

/- Swapping digit pairs swaps the bytes they stand for. -/
theorem decode_swapDigits :
    ∀ (k : Nat) (text : List Char),
      text.length = 8 * k →
        decode (swapDigits text) =
          Bytes.swapWords (decode text) := by
  intro k
  induction k with
  | zero =>
      intro text hLength
      have hNil : text = [] := by
        apply List.eq_nil_of_length_eq_zero
        simpa using hLength
      simp [hNil, swapDigits, decode, Bytes.swapWords]
  | succ k ih =>
      intro text hLength
      rcases exists_group hLength with
        ⟨c0, c1, c2, c3, c4, c5, c6, c7, rest, rfl, hRest⟩
      simp [swapDigits, decode, Bytes.swapWords, ih rest hRest]

@[simp] theorem length_swapDigits
    (text : List Char) :
    (swapDigits text).length = text.length := by
  fun_induction swapDigits text with
  | case1 c0 c1 c2 c3 c4 c5 c6 c7 rest ih => simp [ih]
  | case2 text hShort => rfl

@[simp] theorem swapDigits_swapDigits
    (text : List Char) :
    swapDigits (swapDigits text) = text := by
  fun_induction swapDigits text with
  | case1 c0 c1 c2 c3 c4 c5 c6 c7 rest ih =>
      simp [swapDigits, ih]
  | case2 text hShort =>
      rw [swapDigits]
      exact hShort

/- Swapping whole groups leaves what follows alone. -/
theorem swapDigits_append :
    ∀ (k : Nat) (text resto : List Char),
      text.length = 8 * k →
        swapDigits (text ++ resto) =
          swapDigits text ++ swapDigits resto := by
  intro k
  induction k with
  | zero =>
      intro text resto hLength
      have hNil : text = [] :=
        List.eq_nil_of_length_eq_zero (by omega)
      rw [hNil]
      rfl
  | succ k ih =>
      intro text resto hLength
      rcases exists_group hLength with
        ⟨c0, c1, c2, c3, c4, c5, c6, c7, rest, rfl, hRest⟩
      simp [swapDigits, ih rest resto hRest]

theorem mem_swapDigits
    {c : Char}
    {text : List Char} :
    c ∈ swapDigits text → c ∈ text := by
  fun_induction swapDigits text with
  | case1 c0 c1 c2 c3 c4 c5 c6 c7 rest ih =>
      intro hMem
      simp only [List.mem_cons] at hMem ⊢
      tauto
  | case2 text hShort =>
      intro hMem
      exact hMem

theorem isHex_swapDigits
    {text : List Char}
    (h : IsHex text) :
    IsHex (swapDigits text) := by
  intro c hc
  exact h c (mem_swapDigits hc)

/- Digits of swapped words. -/
theorem swapDigits_encode :
    ∀ (k : Nat) (bytes : List Byte),
      bytes.length = 4 * k →
        swapDigits (encode bytes) =
          encode (Bytes.swapWords bytes) := by
  intro k
  induction k with
  | zero =>
      intro bytes hLength
      have hNil : bytes = [] :=
        List.eq_nil_of_length_eq_zero (by omega)
      rw [hNil]
      rfl
  | succ k ih =>
      intro bytes hLength
      match bytes, hLength with
      | a :: b :: c :: d :: rest, hLength =>
          have hRest : rest.length = 4 * k := by
            simp only [List.length_cons] at hLength
            omega
          simp only [encode_cons, swapDigits, Bytes.swapWords,
            ih rest hRest]

------------------------------------------------------------
-- Lower Case
------------------------------------------------------------

/- Text of lower-case digits only. -/
def IsLowerHex (text : List Char) : Prop :=
  ∀ c ∈ text, c ∈ "0123456789abcdef".toList

theorem digitChar_mem :
    ∀ n, n < 16 → digitChar n ∈ "0123456789abcdef".toList := by
  decide

theorem isLowerHex_encode
    (bytes : List Byte) :
    IsLowerHex (encode bytes) := by
  intro c hc
  rcases exists_digitChar_of_mem_encode hc with ⟨n, hn, hDigit⟩
  rw [hDigit]
  exact digitChar_mem n hn

theorem isLowerHex_swapDigits
    {text : List Char}
    (h : IsLowerHex text) :
    IsLowerHex (swapDigits text) :=
  fun c hc => h c (mem_swapDigits hc)

theorem isLowerHex_slice
    (offset size : Nat)
    {text : List Char}
    (h : IsLowerHex text) :
    IsLowerHex (Bytes.slice offset size text) :=
  fun c hc =>
    h c (List.mem_of_mem_drop (List.mem_of_mem_take hc))

theorem digitChar_digitValue_ofNat :
    ∀ n, n < 128 → IsDigit (Char.ofNat n) →
      digitChar (digitValue (Char.ofNat n)) =
        (Char.ofNat n).toLower := by
  decide +kernel

/- A digit is written in lower case. -/
theorem digitChar_digitValue
    {c : Char}
    (hc : IsDigit c) :
    digitChar (digitValue c) = c.toLower := by
  have hRange := toNat_of_isDigit hc
  have hLt : c.toNat < 128 := by omega
  have hDigit := digitChar_digitValue_ofNat c.toNat hLt
  rw [Char.ofNat_toNat] at hDigit
  exact hDigit hc

/- What was read is written in lower case. -/
theorem encode_decode :
    ∀ (k : Nat) (text : List Char),
      IsHex text → text.length = 2 * k →
        encode (decode text) = text.map Char.toLower := by
  intro k
  induction k with
  | zero =>
      intro text _ hLength
      have hNil : text = [] :=
        List.eq_nil_of_length_eq_zero (by omega)
      rw [hNil]
      rfl
  | succ k ih =>
      intro text hHex hLength
      match text, hHex, hLength with
      | high :: low :: rest, hHex, hLength =>
          have hHigh := hHex high (by simp)
          have hLow := hHex low (by simp)
          have hRest :=
            ih rest (fun c hc => hHex c (by simp [hc]))
              (by simp only [List.length_cons] at hLength; omega)
          have hHighLt := digitValue_lt high
          have hLowLt := digitValue_lt low
          have hPair :
              (pairByte high low).toNat =
                16 * digitValue high + digitValue low := by
            rw [pairByte, BitVec.toNat_ofNat]
            exact Nat.mod_eq_of_lt (by omega)
          have hDiv :
              (pairByte high low).toNat / 16 =
                digitValue high := by omega
          have hMod :
              (pairByte high low).toNat % 16 =
                digitValue low := by omega
          rw [decode, encode_cons, hDiv, hMod, hRest,
            digitChar_digitValue hHigh,
            digitChar_digitValue hLow]
          rfl

theorem encode_inj
    {bytes others : List Byte} :
    encode bytes = encode others ↔ bytes = others := by
  constructor
  · intro h
    rw [← decode_encode bytes, h, decode_encode]
  · exact congrArg encode

theorem isHex_map_toLower
    {k : Nat}
    {text : List Char}
    (hHex : IsHex text)
    (hLength : text.length = 2 * k) :
    IsHex (text.map Char.toLower) := by
  rw [← encode_decode k text hHex hLength]
  exact isHex_encode _

/- Lower case does not change the bytes. -/
theorem decode_map_toLower
    {k : Nat}
    {text : List Char}
    (hHex : IsHex text)
    (hLength : text.length = 2 * k) :
    decode (text.map Char.toLower) = decode text := by
  rw [← encode_decode k text hHex hLength, decode_encode]

------------------------------------------------------------
-- Numbers
------------------------------------------------------------

/- The number that digits denote, most significant first. -/
def toNat (text : List Char) : Nat :=
  text.foldl (fun value c => 16 * value + digitValue c) 0

theorem toNat_foldl
    (text : List Char)
    (start : Nat) :
    text.foldl
        (fun value c => 16 * value + digitValue c) start =
      16 ^ text.length * start + toNat text := by
  unfold toNat
  induction text generalizing start with
  | nil => simp
  | cons c text ih =>
      simp only [List.foldl_cons, List.length_cons]
      rw [ih (16 * start + digitValue c),
        ih (16 * 0 + digitValue c), Nat.pow_succ]
      ring

theorem toNat_cons
    (c : Char)
    (text : List Char) :
    toNat (c :: text) =
      16 ^ text.length * digitValue c + toNat text := by
  have hFold := toNat_foldl text (16 * 0 + digitValue c)
  rw [Nat.mul_zero, Nat.zero_add] at hFold
  rw [← hFold]
  simp [toNat]

/- Digits in pairs denote the big-endian value of the bytes. -/
theorem beNat_decode :
    ∀ (k : Nat) (text : List Char),
      text.length = 2 * k →
        Bytes.beNat (decode text) = toNat text := by
  intro k
  induction k with
  | zero =>
      intro text hLength
      have hNil : text = [] := by
        apply List.eq_nil_of_length_eq_zero
        simpa using hLength
      simp [hNil, decode, toNat]
  | succ k ih =>
      intro text hLength
      match text, hLength with
      | high :: low :: rest, hLength =>
          have hRest : rest.length = 2 * k := by
            simp only [List.length_cons] at hLength
            omega
          have hHigh := digitValue_lt high
          have hLow := digitValue_lt low
          have hByte :
              (pairByte high low).toNat =
                16 * digitValue high + digitValue low := by
            rw [pairByte, BitVec.toNat_ofNat]
            omega
          have hSplit :
              pairByte high low :: decode rest =
                [pairByte high low] ++ decode rest := rfl
          have hOne :
              Bytes.beNat [pairByte high low] =
                16 * digitValue high + digitValue low := by
            simp [Bytes.beNat, hByte]
          have hPow : 256 ^ k = 16 ^ (2 * k) := by
            rw [Nat.pow_mul]
          rw [decode, hSplit, Bytes.beNat_append, hOne,
            ih rest hRest, length_decode, toNat_cons,
            toNat_cons, List.length_cons, hRest,
            Nat.mul_div_cancel_left k (by decide), hPow,
            Nat.pow_succ]
          ring

------------------------------------------------------------
-- The C Functions
------------------------------------------------------------

/- `isspace` of the C locale. -/
def isspace (c : Char) : Bool :=
  c = ' ' || (9 ≤ c.toNat && c.toNat ≤ 13)

/- The sign, if any, and what follows it. -/
def dropSign : List Char → Bool × List Char
| '-' :: rest => (true, rest)
| '+' :: rest => (false, rest)
| text => (false, text)

/- The prefix `0x` counts only in front of a digit. -/
def dropPrefix : List Char → List Char
| '0' :: x :: digit :: rest =>
    if (x = 'x' ∨ x = 'X') ∧ IsDigit digit then
      digit :: rest
    else
      '0' :: x :: digit :: rest
| text => text

/-
  `strtoul(text, NULL, 16)` with 64-bit `unsigned long`:
  white space, a sign and a prefix are skipped, reading stops
  at the first other character, and no digit gives zero.
-/
def strtoul16 (text : List Char) : Nat :=
  let signed := dropSign (text.dropWhile isspace)
  let digits := (dropPrefix signed.2).takeWhile (IsDigit ·)
  let magnitude := min (toNat digits) (2 ^ 64 - 1)
  if signed.1 then
    (2 ^ 64 - magnitude) % 2 ^ 64
  else
    magnitude

theorem not_isspace_of_isDigit
    {c : Char}
    (h : IsDigit c) :
    isspace c = false := by
  have hRange := toNat_of_isDigit h
  have hSpace : c ≠ ' ' := ne_of_isDigit h (by decide)
  simp only [isspace, hSpace, decide_false, Bool.false_or,
    Bool.and_eq_false_iff, decide_eq_false_iff_not]
  omega

/- Two digits are read as they stand. -/
theorem strtoul16_digits
    {high low : Char}
    (hHigh : IsDigit high)
    (hLow : IsDigit low) :
    strtoul16 [high, low] =
      16 * digitValue high + digitValue low := by
  have hSpace :
      [high, low].dropWhile isspace = [high, low] := by
    simp [not_isspace_of_isDigit hHigh]
  have hMinus : high ≠ '-' := ne_of_isDigit hHigh (by decide)
  have hPlus : high ≠ '+' := ne_of_isDigit hHigh (by decide)
  have hSign : dropSign [high, low] = (false, [high, low]) := by
    unfold dropSign
    split <;> simp_all
  have hPrefix : dropPrefix [high, low] = [high, low] := by
    unfold dropPrefix
    split <;> simp_all
  have hDigits :
      [high, low].takeWhile (IsDigit ·) = [high, low] := by
    simp [hHigh, hLow]
  have hHighLt := digitValue_lt high
  have hLowLt := digitValue_lt low
  have hValue :
      toNat [high, low] =
        16 * digitValue high + digitValue low := by
    simp [toNat]
  simp only [strtoul16, hSpace, hSign, hPrefix, hDigits,
    hValue]
  simp only [Bool.false_eq_true, if_false]
  omega

/- `strlen`, where memory ends if no terminator comes first. -/
def strlen (memory : List Char) : Nat :=
  (memory.takeWhile (· ≠ '\x00')).length

/- No digit is a terminator. -/
theorem ne_nul_of_isHex
    {text : List Char}
    (hText : IsHex text) :
    ∀ c ∈ text, c ≠ '\x00' := by
  intro c hc
  exact ne_of_isDigit (hText c hc) (by decide)

theorem takeWhile_ne_nul_append
    {text : List Char}
    (hText : IsHex text)
    (after : List Char) :
    (text ++ after).takeWhile (· ≠ '\x00') =
      text ++ after.takeWhile (· ≠ '\x00') := by
  apply List.takeWhile_append_of_pos
  intro c hc
  simpa using ne_nul_of_isHex hText c hc

/- Digits are counted, whatever follows them. -/
theorem strlen_append
    {text : List Char}
    (hText : IsHex text)
    (after : List Char) :
    strlen (text ++ after) = text.length + strlen after := by
  unfold strlen
  rw [takeWhile_ne_nul_append hText, List.length_append]

end Hex
