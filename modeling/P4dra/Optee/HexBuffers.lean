import P4dra.Optee.Ta

/-
  The buffers of the conversions in `reply_proof`.

  A buffer is the list of the characters that were allocated,
  and an access outside it has no result. The conversion of
  the trusted application takes its length from `strlen`, and
  none of its four buffers has room for a terminator.

  Main declarations:
    * `hexstringToByteArrayNoBuffer`
    * `hexstringToByteArrayNoBuffer_terminada`
    * `isSome_hexstringToByteArrayStrlen_iff`
    * `Ta.not_converteNoBuffer`
-/

------------------------------------------------------------
-- Conversions Inside A Buffer
------------------------------------------------------------

namespace P4dra

open Bytes (Byte slice)
open Tools (hexstringToByteArray hexstringToByteArrayStrlen
  byteStr)

namespace Optee

/- `strlen` over a buffer that ends where the list ends. -/
def strlenNoBuffer : List Char → Option Nat
| [] => none
| c :: resto =>
    if c = '\x00' then
      some 0
    else
      (strlenNoBuffer resto).map (· + 1)

/- The first turns of the loop of the conversion. -/
def lacoNoBuffer
    {n : Nat}
    (byteArray : Vector Byte n)
    (hexstring : List Char) : Nat → Option (Vector Byte n)
| 0 => some byteArray
| i + 1 => do
    let byteArray ← lacoNoBuffer byteArray hexstring i
    let alto ← hexstring[2 * i]?
    let baixo ← hexstring[2 * i + 1]?
    let byte := BitVec.ofNat 8 (Hex.strtoul16 [alto, baixo])
    if h : i < n then
      some (byteArray.set i byte)
    else
      none

/-
  `hexstring_to_byte_array`: the number of bytes that it
  writes, and the array.
-/
def hexstringToByteArrayNoBuffer
    {n : Nat}
    (byteArray : Vector Byte n)
    (hexstring : List Char) : Option (Nat × Vector Byte n) := do
  let len ← strlenNoBuffer hexstring
  let byteArrayLen := len / 2
  let lido ← lacoNoBuffer byteArray hexstring byteArrayLen
  some (byteArrayLen, lido)

/- Without a terminator the search leaves the buffer. -/
theorem strlenNoBuffer_semTerminador
    {hexstring : List Char}
    (hTexto : ∀ c ∈ hexstring, c ≠ '\x00') :
    strlenNoBuffer hexstring = none := by
  induction hexstring with
  | nil => rfl
  | cons c resto ih =>
      have hc : c ≠ '\x00' := hTexto c List.mem_cons_self
      have hResto : ∀ d ∈ resto, d ≠ '\x00' := by
        intro d hd
        exact hTexto d (List.mem_cons_of_mem c hd)
      unfold strlenNoBuffer
      rw [if_neg hc, ih hResto, Option.map_none]

theorem strlenNoBuffer_terminada
    {texto : List Char}
    (resto : List Char)
    (hTexto : ∀ c ∈ texto, c ≠ '\x00') :
    strlenNoBuffer (texto ++ '\x00' :: resto) =
      some texto.length := by
  induction texto with
  | nil =>
      unfold strlenNoBuffer
      rfl
  | cons c texto ih =>
      have hc : c ≠ '\x00' := hTexto c List.mem_cons_self
      have hRest : ∀ d ∈ texto, d ≠ '\x00' := by
        intro d hd
        exact hTexto d (List.mem_cons_of_mem c hd)
      rw [List.cons_append]
      unfold strlenNoBuffer
      rw [if_neg hc, ih hRest]
      rfl

/- Digits alone cannot be converted inside their buffer. -/
theorem hexstringToByteArrayNoBuffer_of_isHex
    {n : Nat}
    (byteArray : Vector Byte n)
    {texto : List Char}
    (hHex : Hex.IsHex texto) :
    hexstringToByteArrayNoBuffer byteArray texto = none := by
  unfold hexstringToByteArrayNoBuffer
  rw [strlenNoBuffer_semTerminador (Hex.ne_nul_of_isHex hHex)]
  rfl

/- A length found in the buffer is the one found in memory. -/
theorem strlen_of_strlenNoBuffer
    {hexstring : List Char}
    (apos : List Char)
    {len : Nat}
    (hLen : strlenNoBuffer hexstring = some len) :
    Hex.strlen (hexstring ++ apos) = len := by
  induction hexstring generalizing len with
  | nil =>
      unfold strlenNoBuffer at hLen
      contradiction
  | cons c resto ih =>
      unfold strlenNoBuffer at hLen
      by_cases hc : c = '\x00'
      · subst hc
        rw [if_pos rfl] at hLen
        cases hLen
        simp [Hex.strlen]
      · rw [if_neg hc] at hLen
        rcases Option.map_eq_some_iff.mp hLen with
          ⟨restoLen, hResto, hSucc⟩
        have hTail := ih hResto
        unfold Hex.strlen at hTail ⊢
        rw [List.cons_append, List.takeWhile_cons_of_pos,
          List.length_cons, hTail, hSucc]
        simpa using hc

/- The pair that a turn reads in the buffer. -/
theorem byteStr_append
    {hexstring : List Char}
    (apos : List Char)
    {i : Nat}
    {alto baixo : Char}
    (hAlto : hexstring[2 * i]? = some alto)
    (hBaixo : hexstring[2 * i + 1]? = some baixo) :
    byteStr (hexstring ++ apos) i = [alto, baixo] := by
  rcases List.getElem?_eq_some_iff.mp hAlto with ⟨hi, hFirst⟩
  rcases List.getElem?_eq_some_iff.mp hBaixo with
    ⟨hi', hSecond⟩
  unfold byteStr
  rw [List.drop_append_of_le_length (by omega),
    List.drop_eq_getElem_cons hi,
    List.drop_eq_getElem_cons hi', hFirst, hSecond]
  rfl

/- A loop that stays inside does what the conversion does. -/
theorem lacoNoBuffer_eq
    {n : Nat}
    (byteArray : Vector Byte n)
    (hexstring apos : List Char)
    (turns : Nat)
    {lido : Vector Byte n}
    (hLaco : lacoNoBuffer byteArray hexstring turns = some lido) :
    turns ≤ n ∧
      ∀ (i : Nat) (hi : i < n),
        lido[i] =
          if i < turns then
            BitVec.ofNat 8
              (Hex.strtoul16 (byteStr (hexstring ++ apos) i))
          else
            byteArray[i] := by
  induction turns generalizing lido with
  | zero =>
      unfold lacoNoBuffer at hLaco
      cases hLaco
      refine ⟨Nat.zero_le n, ?_⟩
      intro i hi
      rw [if_neg (Nat.not_lt_zero i)]
  | succ k ih =>
      unfold lacoNoBuffer at hLaco
      rcases Option.bind_eq_some_iff.mp hLaco with
        ⟨antes, hAntes, hLaco⟩
      rcases Option.bind_eq_some_iff.mp hLaco with
        ⟨alto, hAlto, hLaco⟩
      rcases Option.bind_eq_some_iff.mp hLaco with
        ⟨baixo, hBaixo, hLaco⟩
      rcases ih hAntes with ⟨_, hBytes⟩
      have hPair := byteStr_append apos hAlto hBaixo
      by_cases hk : k < n
      · simp only [hk, dite_true, Option.some.injEq] at hLaco
        refine ⟨hk, ?_⟩
        intro i hi
        by_cases hSame : k = i
        · subst hSame
          rw [← hLaco, Vector.getElem_set_self,
            if_pos (Nat.lt_succ_self k), hPair]
        · have hTurns : (i < k + 1) = (i < k) := by
            apply propext
            omega
          rw [← hLaco, Vector.getElem_set_ne hk hi hSame,
            hBytes i hi]
          simp only [hTurns]
      · simp only [hk, dite_false] at hLaco
        contradiction

/-
  What a conversion inside its buffer gives does not depend
  on the memory behind the buffer.
-/
theorem hexstringToByteArrayStrlen_of_noBuffer
    {n : Nat}
    (byteArray : Vector Byte n)
    {hexstring : List Char}
    (apos : List Char)
    {escritos : Nat}
    {lido : Vector Byte n}
    (hNoBuffer :
      hexstringToByteArrayNoBuffer byteArray hexstring =
        some (escritos, lido)) :
    hexstringToByteArrayStrlen byteArray (hexstring ++ apos) =
      some lido := by
  unfold hexstringToByteArrayNoBuffer at hNoBuffer
  rcases Option.bind_eq_some_iff.mp hNoBuffer with
    ⟨len, hLen, hNoBuffer⟩
  rcases Option.bind_eq_some_iff.mp hNoBuffer with
    ⟨resultado, hLaco, hResultado⟩
  cases hResultado
  rcases lacoNoBuffer_eq byteArray hexstring apos _ hLaco with
    ⟨hFits, hBytes⟩
  unfold hexstringToByteArrayStrlen
  rw [strlen_of_strlenNoBuffer apos hLen]
  unfold hexstringToByteArray
  simp only [hFits, if_true, Option.some.injEq]
  apply Vector.ext
  intro i hi
  rw [Vector.getElem_ofFn, hBytes i hi]
  rfl

/- The turns over a buffer of two characters a byte. -/
theorem lacoNoBuffer_de_tamanho
    {n : Nat}
    (byteArray : Vector Byte n)
    {hexstring : List Char}
    (hLength : 2 * n ≤ hexstring.length)
    (turns : Nat)
    (hTurns : turns ≤ n) :
    ∃ lido, lacoNoBuffer byteArray hexstring turns =
      some lido := by
  induction turns with
  | zero => exact ⟨byteArray, rfl⟩
  | succ k ih =>
      rcases ih (by omega) with ⟨antes, hAntes⟩
      have hAlto : 2 * k < hexstring.length := by omega
      have hBaixo : 2 * k + 1 < hexstring.length := by omega
      have hk : k < n := by omega
      unfold lacoNoBuffer
      rw [hAntes, List.getElem?_eq_getElem hAlto,
        List.getElem?_eq_getElem hBaixo]
      simp only [Option.bind_eq_bind, Option.bind_some, hk,
        dite_true]
      exact ⟨_, rfl⟩

/- With a terminator in the buffer the conversion is exact. -/
theorem hexstringToByteArrayNoBuffer_terminada
    {n : Nat}
    (byteArray : Vector Byte n)
    {texto : List Char}
    (hHex : Hex.IsHex texto)
    (hLength : texto.length = 2 * n) :
    ∃ lido,
      hexstringToByteArrayNoBuffer byteArray
          (texto ++ ['\x00']) =
        some (n, lido) := by
  have hTexto := Hex.ne_nul_of_isHex hHex
  have hTurns : texto.length / 2 = n := by omega
  have hRoom : 2 * n ≤ (texto ++ ['\x00']).length := by
    rw [List.length_append]
    omega
  rcases lacoNoBuffer_de_tamanho byteArray hRoom n le_rfl with
    ⟨lido, hLido⟩
  unfold hexstringToByteArrayNoBuffer
  rw [strlenNoBuffer_terminada [] hTexto]
  simp only [Option.bind_eq_bind, Option.bind_some, hTurns,
    hLido]
  exact ⟨lido, rfl⟩

/-
  Without one, what is written is decided by the memory
  behind the buffer.
-/
theorem isSome_hexstringToByteArrayStrlen_iff
    {n : Nat}
    (byteArray : Vector Byte n)
    {texto : List Char}
    (hHex : Hex.IsHex texto)
    (hLength : texto.length = 2 * n)
    (apos : List Char) :
    (hexstringToByteArrayStrlen byteArray
        (texto ++ apos)).isSome ↔
      Hex.strlen apos < 2 := by
  have hLen :
      Hex.strlen (texto ++ apos) = 2 * n + Hex.strlen apos := by
    rw [Hex.strlen_append hHex, hLength]
  unfold hexstringToByteArrayStrlen hexstringToByteArray
  rw [hLen]
  by_cases hFits : (2 * n + Hex.strlen apos) / 2 ≤ n
  · simp only [hFits, if_true, Option.isSome_some, true_iff]
    omega
  · simp only [hFits, if_false, Option.isSome_none,
      Bool.false_eq_true, false_iff]
    omega

------------------------------------------------------------
-- The Conversions Of The Proof
------------------------------------------------------------

namespace Ta

/- The calls of `hexstring_to_byte_array` in `reply_proof`. -/
inductive Conversao where
  | chave
  | idDispositivo
  | idRodada
  | nonce
deriving DecidableEq, Repr

/- The size of the array that the call fills. -/
def Conversao.tamanho : Conversao → Nat
| .chave => keySz
| .idDispositivo => idDispositivoSz
| .idRodada => idRodadaSz
| .nonce => nonceSz

/-
  The buffer that the call reads: a copy of a part of the
  secrets, or the buffer of a parameter.
-/
def Conversao.origem
    (secretsHex idRodadaHex nonceHex : List Char) :
    Conversao → List Char
| .chave => slice 0 keySzHex secretsHex
| .idDispositivo => slice keySzHex idDispositivoSzHex secretsHex
| .idRodada => idRodadaHex
| .nonce => nonceHex

/- The call stays inside the buffer and fills the array. -/
def ConverteNoBuffer
    (secretsHex idRodadaHex nonceHex : List Char)
    (c : Conversao) : Prop :=
  ∃ lido,
    hexstringToByteArrayNoBuffer
        (Vector.replicate c.tamanho (0 : Byte))
        (c.origem secretsHex idRodadaHex nonceHex) =
      some (c.tamanho, lido)

/- The four calls of `reply_proof`, in its order. -/
theorem calcularProva_conversoes
    (memoria : Memoria)
    (secretsHex idRodadaHex nonceHex aposRodada aposNonce
      objIdSecrets : List Char)
    (provaSz : Nat) :
    calcularProva memoria secretsHex
        ⟨idRodadaHex ++ aposRodada, nonceHex ++ aposNonce,
          objIdSecrets, provaSz⟩ =
      (do
        let origem :=
          Conversao.origem secretsHex idRodadaHex nonceHex
        let chave ← converter
          (Vector.replicate (Conversao.tamanho .chave) 0)
          (origem .chave ++ memoria.aposChaveHex) .chave
        let idDispositivo ← converter
          (Vector.replicate (Conversao.tamanho .idDispositivo) 0)
          (origem .idDispositivo ++ memoria.aposIdDispositivoHex)
          .idDispositivo
        let idRodada ← converter
          (Vector.replicate (Conversao.tamanho .idRodada) 0)
          (origem .idRodada ++ aposRodada) .idRodada
        let nonce ← converter
          (Vector.replicate (Conversao.tamanho .nonce) 0)
          (origem .nonce ++ aposNonce) .nonce
        let prova :=
          Forro.forro
            (Forro.estadoProva memoria.input chave.toList
              idRodada.toList nonce.toList
              idDispositivo.toList (List.replicate keySz 0))
        if proofSz ≤ provaSz then
          .ok prova
        else
          .error .prova) := rfl

theorem isHex_origem
    {secretsHex idRodadaHex nonceHex : List Char}
    (hSecrets : Hex.IsHex secretsHex)
    (hRodada : Hex.IsHex idRodadaHex)
    (hNonce : Hex.IsHex nonceHex)
    (c : Conversao) :
    Hex.IsHex (c.origem secretsHex idRodadaHex nonceHex) := by
  cases c with
  | chave => exact Hex.isHex_slice 0 keySzHex hSecrets
  | idDispositivo =>
      exact Hex.isHex_slice keySzHex idDispositivoSzHex hSecrets
  | idRodada => exact hRodada
  | nonce => exact hNonce

theorem length_origem
    {secretsHex idRodadaHex nonceHex : List Char}
    (hSecrets : secretsHex.length = secretsSzHex)
    (hRodada : idRodadaHex.length = idRodadaSzHex)
    (hNonce : nonceHex.length = nonceSzHex)
    (c : Conversao) :
    (c.origem secretsHex idRodadaHex nonceHex).length =
      2 * c.tamanho := by
  have hParts : secretsSzHex = keySzHex + idDispositivoSzHex :=
    rfl
  cases c with
  | chave =>
      exact Bytes.length_slice (by omega)
  | idDispositivo =>
      exact Bytes.length_slice (by omega)
  | idRodada => exact hRodada
  | nonce => exact hNonce

/- No call stays inside its buffer, whatever the digits are. -/
theorem not_converteNoBuffer
    {secretsHex idRodadaHex nonceHex : List Char}
    (hSecrets : Hex.IsHex secretsHex)
    (hSecretsLength : secretsHex.length = secretsSzHex)
    (hRodada : Hex.IsHex idRodadaHex)
    (hRodadaLength : idRodadaHex.length = idRodadaSzHex)
    (hNonce : Hex.IsHex nonceHex)
    (hNonceLength : nonceHex.length = nonceSzHex)
    (c : Conversao) :
    (c.origem secretsHex idRodadaHex nonceHex).length =
        2 * c.tamanho ∧
      ¬ ConverteNoBuffer secretsHex idRodadaHex nonceHex c := by
  constructor
  · exact
      length_origem hSecretsLength hRodadaLength hNonceLength c
  · intro hConverte
    have hHex := isHex_origem hSecrets hRodada hNonce c
    rcases hConverte with ⟨lido, hLido⟩
    rw [hexstringToByteArrayNoBuffer_of_isHex _ hHex] at hLido
    contradiction

theorem not_converteNoBuffer_zeros :
    (Conversao.origem (List.replicate 96 '0')
        (List.replicate 16 '0') (List.replicate 16 '0')
        .chave).length = 64 ∧
      ¬ ConverteNoBuffer (List.replicate 96 '0')
        (List.replicate 16 '0') (List.replicate 16 '0')
        .chave := by
  have hSecrets : Hex.IsHex (List.replicate 96 '0') := by
    decide
  have hCampo : Hex.IsHex (List.replicate 16 '0') := by
    decide
  exact
    not_converteNoBuffer hSecrets (by decide) hCampo (by decide)
      hCampo (by decide) .chave

/- With zeros as every digit a call leaves its buffer. -/
theorem not_todasConvertem_zeros :
    ¬ ∀ (secretsHex idRodadaHex nonceHex : List Char),
      Hex.IsHex secretsHex →
      secretsHex.length = secretsSzHex →
      Hex.IsHex idRodadaHex →
      idRodadaHex.length = idRodadaSzHex →
      Hex.IsHex nonceHex →
      nonceHex.length = nonceSzHex →
        ∀ c,
          ConverteNoBuffer secretsHex idRodadaHex nonceHex c := by
  intro hTodas
  have hSecrets : Hex.IsHex (List.replicate 96 '0') := by
    decide
  have hCampo : Hex.IsHex (List.replicate 16 '0') := by
    decide
  have hHex := isHex_origem hSecrets hCampo hCampo .chave
  rcases hTodas _ _ _ hSecrets (by decide) hCampo (by decide)
      hCampo (by decide) .chave with ⟨lido, hLido⟩
  rw [hexstringToByteArrayNoBuffer_of_isHex _ hHex] at hLido
  contradiction

end Ta

end Optee

end P4dra
