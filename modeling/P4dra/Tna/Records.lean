import Mathlib.Tactic.IntervalCases
import P4dra.Tna.Programa

/-
  What the controller script reads out of a device file.

  A word of hexadecimal digits that the script inverts and
  converts is the number that its bytes denote once the bytes
  of every group of four are reversed. A run that comes to
  its end has programmed one entry for each line.

  Main declarations:
    * `inverterEndianess_eq`, `pyInt16_of_isHex`
    * `idDaLinha`, `ChaveHex`, `palavrasDaChave`
    * `Dispositivo.daLinha`
    * `setup_calls`
-/

------------------------------------------------------------
-- Numbers In Text
------------------------------------------------------------

namespace P4dra

open Bytes (Byte piece)

namespace Tna

/- The blocks of the script are the groups of eight digits. -/
theorem inverterEndianess_eq
    (k : Nat)
    (text : List Char)
    (hLength : text.length = 8 * k) :
    inverterEndianess text = some (Hex.swapDigits text) := by
  have hBlocks :
      ∀ (k : Nat) (text : List Char), text.length = 8 * k →
        (List.range k).flatMap
            (fun i => blocoInvertido (piece 8 i text)) =
          Hex.swapDigits text := by
    intro k
    induction k with
    | zero =>
        intro text hLength
        have hNil : text = [] := by
          apply List.eq_nil_of_length_eq_zero
          simpa using hLength
        simp [hNil, Hex.swapDigits]
    | succ k ih =>
        intro text hLength
        rcases Hex.exists_group hLength with
          ⟨c0, c1, c2, c3, c4, c5, c6, c7, rest, rfl, hRest⟩
        have hShift : ∀ i,
            piece 8 (i + 1)
                (c0 :: c1 :: c2 :: c3 :: c4 :: c5 :: c6 ::
                  c7 :: rest) =
              piece 8 i rest :=
          fun i => Bytes.piece_succ_append rest i
            (rfl :
              [c0, c1, c2, c3, c4, c5, c6, c7].length = 8)
        rw [List.range_succ_eq_map, List.flatMap_cons,
          List.flatMap_map]
        simp only [Nat.succ_eq_add_one, hShift]
        rw [ih rest hRest]
        rfl
  have hMod : ¬ text.length % 8 ≠ 0 := by omega
  have hDiv : text.length / 8 = k := by omega
  rw [inverterEndianess, if_neg hMod, hDiv, hBlocks k text hLength]

theorem not_pyIsspace_of_isDigit
    {c : Char}
    (h : Hex.IsDigit c) :
    pyIsspace c = false := by
  have hRange := Hex.toNat_of_isDigit h
  simp only [pyIsspace, List.mem_cons, List.not_mem_nil]
  simp
  omega

/- Text whose ends are not white space is not stripped. -/
theorem pyStrip_eq_self
    {text : List Char}
    (h : ∀ c ∈ text, pyIsspace c = false) :
    pyStrip text = text := by
  have hDrop : ∀ xs : List Char,
      (∀ c ∈ xs, pyIsspace c = false) →
        xs.dropWhile pyIsspace = xs := by
    intro xs hxs
    cases xs with
    | nil => rfl
    | cons c rest =>
        rw [List.dropWhile_cons, hxs c (by simp)]
        rfl
  rw [pyStrip, hDrop text h,
    hDrop text.reverse (fun c hc => h c (by simpa using hc)),
    List.reverse_reverse]

/- Digits without underscores are read from left to right. -/
theorem pyDigits_of_isHex
    (text : List Char)
    (hHex : Hex.IsHex text) :
    ∀ value,
      pyDigits value true text =
        some (16 ^ text.length * value + Hex.toNat text) := by
  induction text with
  | nil =>
      intro value
      simp [pyDigits, Hex.toNat]
  | cons c rest ih =>
      intro value
      have hc : Hex.IsDigit c := hHex c (by simp)
      have hNot : c ≠ '_' := Hex.ne_of_isDigit hc (by decide)
      rcases Option.isSome_iff_exists.mp hc with
        ⟨digit, hDigit⟩
      have hValue : Hex.digitValue c = digit := by
        simp [Hex.digitValue, hDigit]
      rw [pyDigits, if_neg hNot, hDigit]
      dsimp only
      rw [ih (fun d hd => hHex d (by simp [hd])),
        Hex.toNat_cons, hValue, List.length_cons, Nat.pow_succ]
      congr 1
      ring

theorem dropSign_of_isHex
    {text : List Char}
    (hHex : Hex.IsHex text) :
    Hex.dropSign text = (false, text) := by
  unfold Hex.dropSign
  split
  · exact absurd (hHex '-' (by simp)) (by decide)
  · exact absurd (hHex '+' (by simp)) (by decide)
  · rfl

theorem pyPrefix_of_isHex
    {text : List Char}
    (hHex : Hex.IsHex text) :
    pyPrefix text = text := by
  unfold pyPrefix
  split
  · rename_i x rest
    have hx : Hex.IsDigit x := hHex x (by simp)
    have hLower : x ≠ 'x' := Hex.ne_of_isDigit hx (by decide)
    have hUpper : x ≠ 'X' := Hex.ne_of_isDigit hx (by decide)
    simp [hLower, hUpper]
  · rfl

/- `int(text, 16)` on digits. -/
theorem pyInt16_of_isHex
    {text : List Char}
    (hHex : Hex.IsHex text)
    (hNonempty : text ≠ []) :
    pyInt16 text = some (Hex.toNat text : Int) := by
  have hStrip : pyStrip text = text :=
    pyStrip_eq_self
      (fun c hc => not_pyIsspace_of_isDigit (hHex c hc))
  have hDigits : pyDigits 0 false text = some (Hex.toNat text) := by
    have hReady : pyDigits 0 false text = pyDigits 0 true text := by
      cases text with
      | nil => exact absurd rfl hNonempty
      | cons c rest =>
          have hNot : c ≠ '_' :=
            Hex.ne_of_isDigit (hHex c (by simp)) (by decide)
          rw [pyDigits, if_neg hNot, pyDigits, if_neg hNot]
    rw [hReady, pyDigits_of_isHex text hHex 0]
    simp
  simp only [pyInt16, hStrip, dropSign_of_isHex hHex,
    pyPrefix_of_isHex hHex, hDigits]
  rfl

/-
  What the script makes of digits in groups of eight: the
  big-endian value of the bytes with their words swapped.
-/
theorem pyInt16_inverterEndianess
    (k : Nat)
    {text : List Char}
    (hHex : Hex.IsHex text)
    (hLength : text.length = 8 * k)
    (hPos : 0 < k) :
    (inverterEndianess text).bind pyInt16 =
      some
        (Bytes.beNat (Bytes.swapWords (Hex.decode text)) :
          Int) := by
  have hSwapped : (Hex.swapDigits text).length = 2 * (4 * k) := by
    rw [Hex.length_swapDigits, hLength]
    omega
  have hNonempty : Hex.swapDigits text ≠ [] := by
    intro hNil
    rw [hNil] at hSwapped
    simp at hSwapped
    omega
  rw [inverterEndianess_eq k text hLength, Option.bind_some,
    pyInt16_of_isHex (Hex.isHex_swapDigits hHex) hNonempty,
    ← Hex.beNat_decode (4 * k) _ hSwapped,
    Hex.decode_swapDigits k text hLength]

------------------------------------------------------------
-- Keys
------------------------------------------------------------

/- The parts of a key of 64 hexadecimal digits. -/
def ChaveHex (chave : List (List Char)) : Prop :=
  ∃ texto : List Char,
    Hex.IsHex texto ∧ texto.length = 64 ∧
      chave = partesDaChave texto

/- The words that `forro_keysetup` reads from a key. -/
def palavrasDaChave (chave : List Byte) : Key :=
  Vector.ofFn (fun i => Forro.U8TO32_LITTLE (chave.drop (4 * i)))

/- The bytes of a key that was cut into parts. -/
def bytesDaChave (chave : List (List Char)) : List Byte :=
  Hex.decode chave.flatten

theorem partesDaChave_flatten
    (texto : List Char)
    (hLength : texto.length = 64) :
    (partesDaChave texto).flatten = texto := by
  have hPieces := Bytes.pieces_flatten 8 8 texto hLength
  rw [partesDaChave, hLength, ← List.flatMap_def]
  exact hPieces

/- The bytes of a part of a key. -/
theorem decode_piece
    (i : Nat)
    (texto : List Char) :
    Hex.decode (piece 8 i texto) =
      ((Hex.decode texto).drop (4 * i)).take 4 := by
  have hTake := Hex.decode_take 4 (texto.drop (2 * (4 * i)))
  rw [Hex.decode_drop] at hTake
  rw [← hTake, piece]
  congr 3
  omega

/- The number of a part of a key is its little-endian word. -/
theorem pyInt16_parte
    {texto : List Char}
    (hHex : Hex.IsHex texto)
    (hLength : texto.length = 64)
    (i : Nat)
    (hi : i < 8) :
    (inverterEndianess (piece 8 i texto)).bind pyInt16 =
      some
        (((Forro.U8TO32_LITTLE
            ((Hex.decode texto).drop (4 * i))).toNat : Nat) :
          Int) := by
  have hPiece : (piece 8 i texto).length = 8 * 1 := by
    apply Bytes.length_piece
    omega
  have hHexPiece : Hex.IsHex (piece 8 i texto) :=
    fun c hc => hHex c
      (List.mem_of_mem_drop (List.mem_of_mem_take hc))
  have hBytes :
      (Hex.decode (piece 8 i texto)).length = 4 := by
    rw [Hex.length_decode, hPiece]
  rw [pyInt16_inverterEndianess 1 hHexPiece hPiece (by omega),
    Forro.U8TO32_LITTLE, ← decode_piece]
  generalize Hex.decode (piece 8 i texto) = bytes at hBytes
  have hLt := Bytes.beNat_lt bytes.reverse
  rw [List.length_reverse, hBytes] at hLt
  have hSwap : Bytes.swapWords bytes = bytes.reverse := by
    match bytes, hBytes with
    | [a, b, c, d], _ => rfl
  have hFits : Bytes.beNat bytes.reverse < 2 ^ 32 := by
    simpa using hLt
  rw [hSwap, BitVec.toNat_ofNat, Bytes.leNat,
    Nat.mod_eq_of_lt hFits]

theorem campo_toNat
    {w : Nat}
    (value : BitVec w) :
    campo w (value.toNat : Int) = some value := by
  have hFits : (0 : Int) ≤ value.toNat ∧
      (value.toNat : Int) < 2 ^ w := by
    constructor
    · omega
    · exact_mod_cast value.isLt
  rw [campo, if_pos hFits]
  simp

theorem campo_eq_some
    {w : Nat}
    {n : Int}
    {value : BitVec w}
    (h : campo w n = some value) :
    n = (value.toNat : Int) := by
  unfold campo at h
  split at h
  · rename_i hFits
    cases h
    rcases hFits with ⟨hNonneg, hLt⟩
    have hNat : n.toNat < 2 ^ w := by
      apply (Int.toNat_lt hNonneg).mpr
      exact_mod_cast hLt
    rw [BitVec.toNat_ofNat, Nat.mod_eq_of_lt hNat]
    exact (Int.toNat_of_nonneg hNonneg).symm
  · cases h

/- Eight globals that hold words are read as these words. -/
theorem lerChaves_of_toNat
    (globals : Globals)
    (w : Nat → Word)
    (h : ∀ (i : Nat) (hi : i < 8),
      globals[i] = some ((w i).toNat : Int)) :
    lerChaves globals =
      some #v[w 0, w 1, w 2, w 3, w 4, w 5, w 6, w 7] := by
  have hCampo : ∀ i, campo 32 ((w i).toNat : Int) = some (w i) :=
    fun i => campo_toNat (w i)
  have hGet : ∀ i : Fin 8,
      globals.get i = some ((w i.val).toNat : Int) :=
    fun i => h i.val i.isLt
  unfold lerChaves
  dsimp only [Option.bind_eq_bind]
  rw [hGet 0, Option.bind_some,
    hGet 1, Option.bind_some,
    hGet 2, Option.bind_some,
    hGet 3, Option.bind_some,
    hGet 4, Option.bind_some,
    hGet 5, Option.bind_some,
    hGet 6, Option.bind_some,
    hGet 7, Option.bind_some,
    hCampo, Option.bind_some, hCampo, Option.bind_some,
    hCampo, Option.bind_some, hCampo, Option.bind_some,
    hCampo, Option.bind_some, hCampo, Option.bind_some,
    hCampo, Option.bind_some, hCampo, Option.bind_some]
  rfl

/- A key of 64 digits sets all eight globals to its words. -/
theorem lerChaves_atribuirChaves
    {chave : List (List Char)}
    (hChave : ChaveHex chave)
    (globals : Globals) :
    ∃ globals',
      atribuirChaves globals 0 chave = some globals' ∧
        lerChaves globals' =
          some (palavrasDaChave (bytesDaChave chave)) := by
  rcases hChave with ⟨texto, hHex, hLength, hPartes⟩
  have hPartesEq :
      partesDaChave texto =
        [piece 8 0 texto, piece 8 1 texto, piece 8 2 texto,
          piece 8 3 texto, piece 8 4 texto, piece 8 5 texto,
          piece 8 6 texto, piece 8 7 texto] := by
    rw [partesDaChave, hLength]
    rfl
  have hStep :
      ∀ (i : Nat) (hi : i < 8) (globals : Globals)
          (j : Nat) (rest : List (List Char)),
        atribuirChaves globals j (piece 8 i texto :: rest) =
          atribuirChaves
            (globals.setIfInBounds j
              (some
                (((Forro.U8TO32_LITTLE
                    ((Hex.decode texto).drop (4 * i))).toNat :
                  Nat) : Int)))
            (j + 1) rest := by
    intro i hi globals j rest
    have hParte := pyInt16_parte hHex hLength i hi
    rcases Option.bind_eq_some_iff.mp hParte with
      ⟨invertida, hInvertida, hValor⟩
    simp [atribuirChaves, hInvertida, hValor]
  have hBytes : bytesDaChave chave = Hex.decode texto := by
    rw [bytesDaChave, hPartes, partesDaChave_flatten _ hLength]
  let w : Nat → Word := fun i =>
    Forro.U8TO32_LITTLE ((Hex.decode texto).drop (4 * i))
  have hPalavras :
      palavrasDaChave (Hex.decode texto) =
        #v[w 0, w 1, w 2, w 3, w 4, w 5, w 6, w 7] := rfl
  rw [hBytes, hPalavras, hPartes, hPartesEq, hStep 0 (by omega),
    hStep 1 (by omega), hStep 2 (by omega),
    hStep 3 (by omega), hStep 4 (by omega),
    hStep 5 (by omega), hStep 6 (by omega),
    hStep 7 (by omega), atribuirChaves]
  refine ⟨_, rfl, ?_⟩
  apply lerChaves_of_toNat
  intro i hi
  simp only [Vector.getElem_setIfInBounds]
  interval_cases i <;> rfl

------------------------------------------------------------
-- Entries Of Lines
------------------------------------------------------------

/- The number of the identifier of a line. -/
def idDaLinha (linha : Linha) : Option Int :=
  (inverterEndianess linha.idDispositivo).bind pyInt16

/- The entry that a line stands for. -/
def Dispositivo.daLinha
    (confIni : Nat)
    (linha : Linha) : Option Dispositivo := do
  let id ← idDaLinha linha
  let idDispositivo ← campo 128 id
  let configuracao ← campo 256 (confParam confIni id.toNat)
  some
    { idDispositivo := idDispositivo
      configuracao := configuracao
      key := palavrasDaChave (bytesDaChave linha.chave) }

/- Lines and the entries they stand for, in order. -/
def EntradasDe
    (confIni : Nat) : List Linha → List Dispositivo → Prop :=
  List.Forall₂
    (fun linha d => Dispositivo.daLinha confIni linha = some d)

theorem programarDispositivo_some
    {confIni : Nat}
    {linha : Linha}
    {d : Dispositivo}
    (hChave : ChaveHex linha.chave)
    (hLinha : Dispositivo.daLinha confIni linha = some d)
    (globals : Globals) :
    ∃ globals',
      programarDispositivo confIni globals linha =
        some (globals', d.chamadas) := by
  rcases lerChaves_atribuirChaves hChave globals with
    ⟨globals', hAtribuir, hLer⟩
  simp only [Dispositivo.daLinha, idDaLinha,
    Option.bind_eq_bind, Option.bind_eq_some_iff] at hLinha
  rcases hLinha with
    ⟨id, ⟨invertido, hInvertido, hId⟩, idDispositivo, hCampo,
      configuracao, hConf, hd⟩
  refine ⟨globals', ?_⟩
  cases hd
  simp [programarDispositivo, hInvertido, hId, hAtribuir, hLer,
    hCampo, hConf, Dispositivo.chamadas]

/- The calls for a line are those of one entry. -/
theorem programarDispositivo_eq_some
    {confIni : Nat}
    {globals globals' : Globals}
    {linha : Linha}
    {calls : List BfrtCall}
    (hProgramar :
      programarDispositivo confIni globals linha =
        some (globals', calls)) :
    ∃ d : Dispositivo,
      calls = d.chamadas ∧
        idDaLinha linha = some (d.idDispositivo.toNat : Int) ∧
        (ChaveHex linha.chave →
          Dispositivo.daLinha confIni linha = some d) := by
  simp only [programarDispositivo, Option.bind_eq_bind,
    Option.bind_eq_some_iff] at hProgramar
  rcases hProgramar with
    ⟨invertido, hInvertido, id, hId, lidas, hLidas,
      idDispositivo, hCampo, configuracao, hConf, key, hKey,
      hCalls⟩
  cases hCalls
  have hIdLinha : idDaLinha linha = some id := by
    rw [idDaLinha, hInvertido]
    exact hId
  refine
    ⟨⟨idDispositivo, configuracao, key⟩, rfl,
      hIdLinha.trans (congrArg some (campo_eq_some hCampo)), ?_⟩
  intro hChave
  rcases lerChaves_atribuirChaves hChave globals with
    ⟨globals'', hAtribuir, hLer⟩
  rw [hAtribuir] at hLidas
  cases hLidas
  rw [hLer] at hKey
  cases hKey
  simp [Dispositivo.daLinha, hIdLinha, hCampo, hConf]

/- A loop that comes to its end has made every entry. -/
theorem entradas_of_percorrer
    {confIni : Nat}
    {R : Linha → Dispositivo → Prop}
    {linhas : List Linha}
    (hPrograma :
      ∀ linha ∈ linhas, ∀ globals globals' calls,
        programarDispositivo confIni globals linha =
            some (globals', calls) →
          ∃ d, R linha d ∧ calls = d.chamadas) :
    ∀ globals,
      (percorrerDispositivos confIni globals linhas).2 = true →
        ∃ dispositivos,
          List.Forall₂ R linhas dispositivos ∧
            (percorrerDispositivos confIni globals linhas).1 =
              dispositivos.flatMap Dispositivo.chamadas := by
  induction linhas with
  | nil =>
      intro globals _
      exact ⟨[], .nil, rfl⟩
  | cons linha rest ih =>
      intro globals hFim
      cases hProgramar :
          programarDispositivo confIni globals linha with
      | none =>
          simp [percorrerDispositivos, hProgramar] at hFim
      | some resultado =>
          rcases resultado with ⟨globals', calls⟩
          rcases hPrograma linha (by simp) _ _ _ hProgramar with
            ⟨d, hLinha, hCalls⟩
          simp only [percorrerDispositivos, hProgramar] at hFim ⊢
          rcases ih (fun l hl => hPrograma l (by simp [hl]))
              globals' hFim with
            ⟨dispositivos, hEntradas, hRest⟩
          refine ⟨d :: dispositivos, .cons hLinha hEntradas, ?_⟩
          rw [hRest, hCalls, List.flatMap_cons]

/- A loop over lines with entries comes to its end. -/
theorem percorrer_of_entradasDe
    {confIni : Nat}
    {linhas : List Linha}
    {dispositivos : List Dispositivo}
    (hChaves : ∀ linha ∈ linhas, ChaveHex linha.chave)
    (hEntradas : EntradasDe confIni linhas dispositivos) :
    ∀ globals,
      percorrerDispositivos confIni globals linhas =
        (dispositivos.flatMap Dispositivo.chamadas, true) := by
  induction hEntradas with
  | nil =>
      intro globals
      rfl
  | @cons linha d rest later hLinha _ ih =>
      intro globals
      rcases programarDispositivo_some (hChaves linha (by simp))
          hLinha globals with
        ⟨globals', hProgramar⟩
      simp only [percorrerDispositivos, hProgramar]
      rw [ih (fun l hl => hChaves l (by simp [hl])) globals']
      rfl

------------------------------------------------------------
-- Runs Of The Script
------------------------------------------------------------

/- A finished run has programmed an entry for each line. -/
theorem setup_programa
    {confIni : Nat}
    {arquivo : List (List Char)}
    {R : Linha → Dispositivo → Prop}
    {linhas : List Linha}
    (hConcluida : (setup confIni arquivo).concluida = true)
    (hLinhas :
      processFile arquivo quantidadeDispositivos = some linhas)
    (hPrograma :
      ∀ linha ∈ linhas, ∀ globals globals' calls,
        programarDispositivo confIni globals linha =
            some (globals', calls) →
          ∃ d, R linha d ∧ calls = d.chamadas) :
    ∃ dispositivos,
      List.Forall₂ R linhas dispositivos ∧
        (setup confIni arquivo).calls = programa dispositivos := by
  simp only [setup, hLinhas] at hConcluida ⊢
  by_cases hFim :
      (percorrerDispositivos confIni
        (Vector.replicate 8 none) linhas).2 = true
  · rcases entradas_of_percorrer hPrograma _ hFim with
      ⟨dispositivos, hEntradas, hCalls⟩
    refine ⟨dispositivos, hEntradas, ?_⟩
    rw [if_pos hFim, hCalls]
    rfl
  · simp [hFim] at hConcluida

/- The entries of a finished run, for keys of 64 digits. -/
theorem setup_calls
    {confIni : Nat}
    {arquivo : List (List Char)}
    {linhas : List Linha}
    (hConcluida : (setup confIni arquivo).concluida = true)
    (hLinhas :
      processFile arquivo quantidadeDispositivos = some linhas)
    (hChaves : ∀ linha ∈ linhas, ChaveHex linha.chave) :
    ∃ dispositivos,
      EntradasDe confIni linhas dispositivos ∧
        (setup confIni arquivo).calls = programa dispositivos := by
  apply setup_programa hConcluida hLinhas
  intro linha hMem globals globals' calls hProgramar
  rcases programarDispositivo_eq_some hProgramar with
    ⟨d, hCalls, _, hLinha⟩
  exact ⟨d, hLinha (hChaves linha hMem), hCalls⟩

/- The identifiers of the entries are those of the lines. -/
theorem setup_ids
    {confIni : Nat}
    {arquivo : List (List Char)}
    {linhas : List Linha}
    (hConcluida : (setup confIni arquivo).concluida = true)
    (hLinhas :
      processFile arquivo quantidadeDispositivos = some linhas) :
    ∃ dispositivos,
      List.Forall₂
          (fun linha d =>
            idDaLinha linha =
              some (d.idDispositivo.toNat : Int))
          linhas dispositivos ∧
        (setup confIni arquivo).calls = programa dispositivos := by
  apply setup_programa hConcluida hLinhas
  intro linha _ globals globals' calls hProgramar
  rcases programarDispositivo_eq_some hProgramar with
    ⟨d, hCalls, hId, _⟩
  exact ⟨d, hId, hCalls⟩

/- A run on lines that all have entries finishes. -/
theorem setup_of_entradasDe
    {confIni : Nat}
    {arquivo : List (List Char)}
    {linhas : List Linha}
    {dispositivos : List Dispositivo}
    (hLinhas :
      processFile arquivo quantidadeDispositivos = some linhas)
    (hChaves : ∀ linha ∈ linhas, ChaveHex linha.chave)
    (hEntradas : EntradasDe confIni linhas dispositivos) :
    setup confIni arquivo = ⟨programa dispositivos, true⟩ := by
  simp only [setup, hLinhas,
    percorrer_of_entradasDe hChaves hEntradas]
  rfl

end Tna

end P4dra
