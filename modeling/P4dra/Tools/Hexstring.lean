import P4dra.Library.Hex

/-
  The functions on hexadecimal text that the C programs
  share, each in its own copy.

  An array of `n` bytes is a vector. A buffer of characters
  is the list of the characters from its start on, what
  follows it in memory included.

  Main declarations:
    * `swapEndian`, `byteArrayToHexstring`
    * `hexstringToByteArray` and its variant with `strlen`
    * `hexstringToByteArray_of_isHex`
    * `digitosTrocados`
    * `argv`
-/

------------------------------------------------------------
-- Functions
------------------------------------------------------------

namespace P4dra

open Bytes (Byte swapWords)

namespace Tools

/- The lengths in characters that the programs define. -/
def idDispositivoLen : Nat := 32
def chaveLen : Nat := 64
def provaLen : Nat := 128
def nonceLen : Nat := 16
def idRodadaLen : Nat := 32

/- `memcpy(buffer, origem, n)`: what the buffer holds. -/
def memcpy
    (origem : List Char)
    (n : Nat) : List Char :=
  origem.take n

/- `swapEndian`, in place on the first `tamanho` characters. -/
def swapEndian
    (saida : List Char)
    (tamanho : Nat) : List Char :=
  Hex.swapDigits (saida.take tamanho) ++ saida.drop tamanho

def byteArrayToHexstring (array : List Byte) : List Char :=
  Hex.encode array

/- `byte_str` of the `i`-th turn of the loop. -/
def byteStr
    (hexstring : List Char)
    (i : Nat) : List Char :=
  (hexstring.drop (2 * i)).take 2

/-
  `hexstring_to_byte_array`. Bytes after the converted ones
  keep their contents; to write past the end of the array is
  an error.
-/
def hexstringToByteArray
    {n : Nat}
    (byteArray : Vector Byte n)
    (hexstring : List Char)
    (len : Nat) : Option (Vector Byte n) :=
  let byteArrayLen := len / 2
  if byteArrayLen ≤ n then
    some
      (Vector.ofFn fun i =>
        if i < byteArrayLen then
          BitVec.ofNat 8 (Hex.strtoul16 (byteStr hexstring i))
        else
          byteArray.get i)
  else
    none

/- The variant that takes the length from `strlen`. -/
def hexstringToByteArrayStrlen
    {n : Nat}
    (byteArray : Vector Byte n)
    (hexstring : List Char) : Option (Vector Byte n) :=
  hexstringToByteArray byteArray hexstring
    (Hex.strlen hexstring)

------------------------------------------------------------
-- On Hexadecimal Digits
------------------------------------------------------------

theorem swapEndian_of_length
    {saida : List Char}
    {tamanho : Nat}
    (hLength : saida.length = tamanho) :
    swapEndian saida tamanho = Hex.swapDigits saida := by
  have hTake : saida.take tamanho = saida :=
    List.take_of_length_le (by omega)
  have hDrop : saida.drop tamanho = [] :=
    List.drop_of_length_le (by omega)
  rw [swapEndian, hTake, hDrop, List.append_nil]

/- Only the first `tamanho` characters are exchanged. -/
theorem swapEndian_append
    {saida : List Char}
    {tamanho : Nat}
    (resto : List Char)
    (hLength : saida.length = tamanho) :
    swapEndian (saida ++ resto) tamanho =
      Hex.swapDigits saida ++ resto := by
  rw [swapEndian, ← hLength, List.take_left, List.drop_left]

/- Two digits are converted to the byte they stand for. -/
theorem ofNat_strtoul16_byteStr
    {texto : List Char}
    (hHex : Hex.IsHex texto)
    (apos : List Char)
    (i : Nat)
    (hi : i < (Hex.decode texto).length) :
    BitVec.ofNat 8
        (Hex.strtoul16 (byteStr (texto ++ apos) i)) =
      (Hex.decode texto)[i] := by
  have hIndex : 2 * i + 1 < texto.length := by
    rw [Hex.length_decode] at hi
    omega
  have hDrop :
      (texto ++ apos).drop (2 * i) =
        texto[2 * i] :: texto[2 * i + 1] ::
          (texto ++ apos).drop (2 * i + 2) := by
    rw [List.drop_eq_getElem_cons
        (by rw [List.length_append]; omega),
      List.drop_eq_getElem_cons
        (by rw [List.length_append]; omega),
      List.getElem_append_left (by omega),
      List.getElem_append_left hIndex]
  rw [byteStr, hDrop, Hex.getElem_decode texto i hIndex hi]
  exact congrArg (BitVec.ofNat 8)
    (Hex.strtoul16_digits
      (hHex _ (List.getElem_mem (by omega)))
      (hHex _ (List.getElem_mem hIndex)))

/- The `n` bytes that text of any kind is converted to. -/
def bytesDeDigitos
    (n : Nat)
    (hexstring : List Char) : List Byte :=
  (Vector.ofFn fun i : Fin n =>
    BitVec.ofNat 8
      (Hex.strtoul16 (byteStr hexstring i))).toList

theorem length_bytesDeDigitos
    (n : Nat)
    (hexstring : List Char) :
    (bytesDeDigitos n hexstring).length = n := by
  rw [bytesDeDigitos, Vector.length_toList]

/- A conversion of twice the size of the array fills it. -/
theorem hexstringToByteArray_eq
    {n : Nat}
    (byteArray : Vector Byte n)
    (hexstring : List Char) :
    ∃ lido : Vector Byte n,
      hexstringToByteArray byteArray hexstring (2 * n) =
          some lido ∧
        lido.toList = bytesDeDigitos n hexstring := by
  have hLen : 2 * n / 2 = n := by omega
  simp only [hexstringToByteArray, hLen, le_refl, if_true]
  refine ⟨_, rfl, ?_⟩
  rw [bytesDeDigitos]
  apply congrArg Vector.toList
  apply Vector.ext
  intro i hi
  rw [Vector.getElem_ofFn, Vector.getElem_ofFn, if_pos hi]

/- Digits that fill the array are converted as they stand. -/
theorem hexstringToByteArray_of_isHex
    {n : Nat}
    (byteArray : Vector Byte n)
    {texto : List Char}
    (hHex : Hex.IsHex texto)
    (hLength : texto.length = 2 * n)
    (apos : List Char) :
    ∃ lido : Vector Byte n,
      hexstringToByteArray byteArray (texto ++ apos) (2 * n) =
          some lido ∧
        lido.toList = Hex.decode texto := by
  have hLen : 2 * n / 2 = n := by omega
  simp only [hexstringToByteArray, hLen, le_refl, if_true]
  refine ⟨_, rfl, ?_⟩
  apply List.ext_getElem
  · rw [Vector.length_toList, Hex.length_decode, hLength, hLen]
  · intro i hi hi'
    rw [Vector.length_toList] at hi
    rw [Vector.getElem_toList, Vector.getElem_ofFn,
      if_pos hi, ofNat_strtoul16_byteStr hHex apos i hi']

theorem bytesDeDigitos_of_isHex
    {n : Nat}
    {texto : List Char}
    (hHex : Hex.IsHex texto)
    (hLength : texto.length = 2 * n)
    (apos : List Char) :
    bytesDeDigitos n (texto ++ apos) = Hex.decode texto := by
  have hArray := Vector.replicate n (0 : Byte)
  rcases hexstringToByteArray_eq hArray (texto ++ apos) with
    ⟨lido, hLido, hBytes⟩
  rcases hexstringToByteArray_of_isHex hArray hHex hLength apos
    with ⟨outro, hOutro, hOutroBytes⟩
  rw [← hBytes, ← hOutroBytes,
    Option.some.inj (hLido.symm.trans hOutro)]

/- `strlen` stops at the terminator after the digits. -/
theorem strlen_of_isHex
    {texto apos : List Char}
    (hHex : Hex.IsHex texto)
    (hApos : apos.head? = some '\x00') :
    Hex.strlen (texto ++ apos) = texto.length := by
  cases apos with
  | nil => simp at hApos
  | cons c rest =>
      have hc : c = '\x00' := by simpa using hApos
      have hFim : Hex.strlen (c :: rest) = 0 := by
        rw [hc]
        rfl
      rw [Hex.strlen_append hHex, hFim, Nat.add_zero]

theorem hexstringToByteArrayStrlen_of_isHex
    {n : Nat}
    (byteArray : Vector Byte n)
    {texto apos : List Char}
    (hHex : Hex.IsHex texto)
    (hLength : texto.length = 2 * n)
    (hApos : apos.head? = some '\x00') :
    ∃ lido : Vector Byte n,
      hexstringToByteArrayStrlen byteArray (texto ++ apos) =
          some lido ∧
        lido.toList = Hex.decode texto := by
  rw [hexstringToByteArrayStrlen, strlen_of_isHex hHex hApos,
    hLength]
  exact hexstringToByteArray_of_isHex byteArray hHex hLength
    apos

------------------------------------------------------------
-- Digits With Swapped Words
------------------------------------------------------------

/- The digits of a field with swapped words. -/
def digitosTrocados (bytes : List Byte) : List Char :=
  Hex.swapDigits (Hex.encode bytes)

theorem isHex_digitosTrocados
    (bytes : List Byte) :
    Hex.IsHex (digitosTrocados bytes) :=
  Hex.isHex_swapDigits (Hex.isHex_encode bytes)

theorem length_digitosTrocados
    (bytes : List Byte) :
    (digitosTrocados bytes).length = 2 * bytes.length := by
  rw [digitosTrocados, Hex.length_swapDigits,
    Hex.length_encode]

theorem decode_digitosTrocados
    {k : Nat}
    {bytes : List Byte}
    (hLength : bytes.length = 4 * k) :
    Hex.decode (digitosTrocados bytes) = swapWords bytes := by
  rw [digitosTrocados,
    Hex.decode_swapDigits k _
      (by rw [Hex.length_encode]; omega),
    Hex.decode_encode]

/- A field read from a frame and converted. -/
theorem swapEndian_byteArrayToHexstring
    {bytes : List Byte}
    {tamanho : Nat}
    (hLength : 2 * bytes.length = tamanho) :
    swapEndian (byteArrayToHexstring bytes) tamanho =
      digitosTrocados bytes :=
  swapEndian_of_length
    ((Hex.length_encode bytes).trans hLength)

/- A field whose digits were swapped twice is unchanged. -/
theorem hexstringToByteArray_digitosTrocados
    {n : Nat}
    (byteArray : Vector Byte n)
    {bytes : List Byte}
    (hLength : bytes.length = n) :
    ∃ lido : Vector Byte n,
      hexstringToByteArray byteArray
            (swapEndian (digitosTrocados bytes) (2 * n))
            (2 * n) =
          some lido ∧
        lido.toList = bytes := by
  have hSwap :
      swapEndian (digitosTrocados bytes) (2 * n) =
        Hex.encode bytes := by
    rw [swapEndian_of_length
        (by rw [length_digitosTrocados, hLength]),
      digitosTrocados, Hex.swapDigits_swapDigits]
  rcases hexstringToByteArray_of_isHex byteArray
      (Hex.isHex_encode bytes)
      (by rw [Hex.length_encode, hLength]) [] with
    ⟨lido, hLido, hBytes⟩
  rw [List.append_nil] at hLido
  rw [Hex.decode_encode] at hBytes
  exact ⟨lido, by rw [hSwap, hLido], hBytes⟩

------------------------------------------------------------
-- Command Lines
------------------------------------------------------------

/-
  The memory from `argv[i]` on: the words of the command line
  with their terminators, and the environment after them.
  `argv[i]` is null after the last word.
-/
def argv
    (palavras : List (List Char))
    (ambiente : List Char)
    (i : Nat) : Option (List Char) :=
  if i < palavras.length then
    some
      ((palavras.drop i).flatMap (· ++ ['\x00']) ++ ambiente)
  else
    none

/- An argument lies in memory before its terminator. -/
theorem argv_eq_some
    {palavras : List (List Char)}
    {palavra : List Char}
    {i : Nat}
    (ambiente : List Char)
    (hPalavra : palavras[i]? = some palavra) :
    ∃ resto,
      argv palavras ambiente i =
        some (palavra ++ '\x00' :: resto) := by
  rcases List.getElem?_eq_some_iff.mp hPalavra with ⟨hi, hGet⟩
  rw [argv, if_pos hi, List.drop_eq_getElem_cons hi, hGet,
    List.flatMap_cons, List.append_assoc, List.append_assoc]
  exact ⟨_, rfl⟩

/- An argument of its expected length is copied whole. -/
theorem memcpy_argv
    (ambiente : List Char)
    {palavras : List (List Char)}
    {palavra : List Char}
    {i n : Nat}
    (hPalavra : palavras[i]? = some palavra)
    (hLength : palavra.length = n) :
    ∃ memoria,
      argv palavras ambiente i = some memoria ∧
        memcpy memoria n = palavra := by
  rcases argv_eq_some ambiente hPalavra with ⟨resto, hArgv⟩
  refine ⟨_, hArgv, ?_⟩
  rw [memcpy, ← hLength, List.take_left]

end Tools

end P4dra
