import P4dra.Tna.Records
import P4dra.Tna.Runs

/-
  The state that the switch loads, in terms of the device
  file and of the frame.

  The controller script installs the configuration with the
  identifier already mixed into words 2, 3, 6 and 7; the
  switch mixes `id_rodada` into words 0, 1, 4 and 5.

  Main declarations:
    * `estadoForro`
    * `estadoInicial_daLinha`
    * `procurar_of_entradasDe`
-/

------------------------------------------------------------
-- Configuration Words
------------------------------------------------------------

namespace P4dra

open Bytes (Byte)

namespace Tna

/- The bits of the configuration that the script installs. -/
theorem testBit_confParam
    (confIni id i : Nat) :
    (confParam confIni id).testBit i =
      (confIni.testBit i ^^
        ((decide (128 ≤ i) && decide (i < 192) &&
            id.testBit (i - 64)) ||
          (decide (i < 64) && id.testBit i))) := by
  have hLow : ∀ j, Nat.testBit 0xFFFFFFFFFFFFFFFF j = decide (j < 64) :=
    Nat.testBit_two_pow_sub_one 64
  have hMask :
      0xFFFFFFFFFFFFFFFF0000000000000000 =
        0xFFFFFFFFFFFFFFFF <<< 64 := by
    decide
  simp only [confParam, Nat.testBit_xor, Nat.testBit_or,
    Nat.testBit_shiftLeft, Nat.testBit_shiftRight,
    Nat.testBit_and, hLow, hMask]
  have hAnd :
      (id.testBit i && decide (i < 64)) =
        (decide (i < 64) && id.testBit i) :=
    Bool.and_comm _ _
  rw [hAnd]
  congr 2
  by_cases hRange : 128 ≤ i
  · have hEq : 64 + (i - 128) = i - 64 := by omega
    have hGe : 64 ≤ i - 64 := by omega
    have hLt : i - 64 - 64 < 64 ↔ i < 192 := by omega
    simp [hRange, hEq, hGe, hLt, Bool.and_comm]
  · simp [hRange]

/- The configuration as the script installs it. -/
def confInstalada
    (confIni : Nat)
    (id : BitVec 128) : BitVec 256 :=
  BitVec.ofNat 256 (confParam confIni id.toNat)

theorem getLsbD_confInstalada
    (confIni : Nat)
    (id : BitVec 128)
    (i : Nat) :
    (confInstalada confIni id).getLsbD i =
      (decide (i < 256) &&
        (confIni.testBit i ^^
          ((decide (128 ≤ i) && decide (i < 192) &&
              id.getLsbD (i - 64)) ||
            (decide (i < 64) && id.getLsbD i)))) := by
  rw [confInstalada, BitVec.getLsbD_ofNat, testBit_confParam]
  rfl

/- Words 0, 1, 4 and 5 are those of the configuration. -/
theorem extractLsb'_confInstalada
    (confIni : Nat)
    (id : BitVec 128)
    (lo : Nat)
    (hLo : 64 ≤ lo)
    (hRange : lo + 32 ≤ 128 ∨ 192 ≤ lo) :
    (confInstalada confIni id).extractLsb' lo 32 =
      (BitVec.ofNat 256 confIni).extractLsb' lo 32 := by
  apply BitVec.eq_of_getLsbD_eq
  intro j hj
  rw [BitVec.getLsbD_extractLsb', BitVec.getLsbD_extractLsb',
    getLsbD_confInstalada, BitVec.getLsbD_ofNat]
  have hLow : ¬ lo + j < 64 := by omega
  have hHigh : (decide (128 ≤ lo + j) &&
      decide (lo + j < 192)) = false := by
    simp
    omega
  rw [hHigh, decide_eq_false hLow]
  simp

/- Words 2 and 3 are mixed with the high identifier words. -/
theorem extractLsb'_confInstalada_high
    (confIni : Nat)
    (id : BitVec 128)
    (lo : Nat)
    (hLo : 128 ≤ lo)
    (hHi : lo + 32 ≤ 192) :
    (confInstalada confIni id).extractLsb' lo 32 =
      (BitVec.ofNat 256 confIni).extractLsb' lo 32 ^^^
        id.extractLsb' (lo - 64) 32 := by
  apply BitVec.eq_of_getLsbD_eq
  intro j hj
  rw [BitVec.getLsbD_xor, BitVec.getLsbD_extractLsb',
    BitVec.getLsbD_extractLsb', BitVec.getLsbD_extractLsb',
    getLsbD_confInstalada, BitVec.getLsbD_ofNat]
  have hFits : lo + j < 256 := by omega
  have hLow : ¬ lo + j < 64 := by omega
  have hFrom : 128 ≤ lo + j := by omega
  have hTo : lo + j < 192 := by omega
  have hIndex : lo + j - 64 = lo - 64 + j := by omega
  simp [hj, hFits, hLow, hFrom, hTo, hIndex]

/- Words 6 and 7 are mixed with the low identifier words. -/
theorem extractLsb'_confInstalada_low
    (confIni : Nat)
    (id : BitVec 128)
    (lo : Nat)
    (hHi : lo + 32 ≤ 64) :
    (confInstalada confIni id).extractLsb' lo 32 =
      (BitVec.ofNat 256 confIni).extractLsb' lo 32 ^^^
        id.extractLsb' lo 32 := by
  apply BitVec.eq_of_getLsbD_eq
  intro j hj
  rw [BitVec.getLsbD_xor, BitVec.getLsbD_extractLsb',
    BitVec.getLsbD_extractLsb', BitVec.getLsbD_extractLsb',
    getLsbD_confInstalada, BitVec.getLsbD_ofNat]
  have hFits : lo + j < 256 := by omega
  have hLow : lo + j < 64 := by omega
  have hFrom : ¬ 128 ≤ lo + j := by omega
  simp [hj, hFits, hLow, hFrom]

------------------------------------------------------------
-- The Initial State
------------------------------------------------------------

/-
  The state over which a proof is computed: the key in words
  0 to 3 and 8 to 11, the configuration mixed with `id_rodada`
  in words 4, 5, 12, 13 and with the identifier in words
  6, 7, 14, 15.
-/
def estadoForro
    (chave : List Byte)
    (configuracao : BitVec 256)
    (c : Cabecalho) : State :=
  #v[Forro.U8TO32_LITTLE chave,
    Forro.U8TO32_LITTLE (chave.drop 4),
    Forro.U8TO32_LITTLE (chave.drop 8),
    Forro.U8TO32_LITTLE (chave.drop 12),
    configuracao.extractLsb 255 224 ^^^ c.idRodada0,
    configuracao.extractLsb 223 192 ^^^ c.idRodada1,
    configuracao.extractLsb 191 160 ^^^
      c.idDispositivo.extractLsb 127 96,
    configuracao.extractLsb 159 128 ^^^
      c.idDispositivo.extractLsb 95 64,
    Forro.U8TO32_LITTLE (chave.drop 16),
    Forro.U8TO32_LITTLE (chave.drop 20),
    Forro.U8TO32_LITTLE (chave.drop 24),
    Forro.U8TO32_LITTLE (chave.drop 28),
    configuracao.extractLsb 127 96 ^^^ c.idRodada2,
    configuracao.extractLsb 95 64 ^^^ c.idRodada3,
    configuracao.extractLsb 63 32 ^^^
      c.idDispositivo.extractLsb 63 32,
    configuracao.extractLsb 31 0 ^^^
      c.idDispositivo.extractLsb 31 0]

/- An entry loads the state of its line. -/
theorem estadoInicial_eq_estadoForro
    (confIni : Nat)
    (chave : List Byte)
    (c : Cabecalho) :
    Dispositivo.estadoInicial
        { idDispositivo := c.idDispositivo
          configuracao := confInstalada confIni c.idDispositivo
          key := palavrasDaChave chave } c =
      estadoForro chave (BitVec.ofNat 256 confIni) c := by
  have hWord0 :
      (confInstalada confIni c.idDispositivo).extractLsb 255 224 =
        (BitVec.ofNat 256 confIni).extractLsb 255 224 :=
    extractLsb'_confInstalada confIni c.idDispositivo 224
      (by omega) (by omega)
  have hWord1 :
      (confInstalada confIni c.idDispositivo).extractLsb 223 192 =
        (BitVec.ofNat 256 confIni).extractLsb 223 192 :=
    extractLsb'_confInstalada confIni c.idDispositivo 192
      (by omega) (by omega)
  have hWord2 :
      (confInstalada confIni c.idDispositivo).extractLsb 191 160 =
        (BitVec.ofNat 256 confIni).extractLsb 191 160 ^^^
          c.idDispositivo.extractLsb 127 96 :=
    extractLsb'_confInstalada_high confIni c.idDispositivo 160
      (by omega) (by omega)
  have hWord3 :
      (confInstalada confIni c.idDispositivo).extractLsb 159 128 =
        (BitVec.ofNat 256 confIni).extractLsb 159 128 ^^^
          c.idDispositivo.extractLsb 95 64 :=
    extractLsb'_confInstalada_high confIni c.idDispositivo 128
      (by omega) (by omega)
  have hWord4 :
      (confInstalada confIni c.idDispositivo).extractLsb 127 96 =
        (BitVec.ofNat 256 confIni).extractLsb 127 96 :=
    extractLsb'_confInstalada confIni c.idDispositivo 96
      (by omega) (by omega)
  have hWord5 :
      (confInstalada confIni c.idDispositivo).extractLsb 95 64 =
        (BitVec.ofNat 256 confIni).extractLsb 95 64 :=
    extractLsb'_confInstalada confIni c.idDispositivo 64
      (by omega) (by omega)
  have hWord6 :
      (confInstalada confIni c.idDispositivo).extractLsb 63 32 =
        (BitVec.ofNat 256 confIni).extractLsb 63 32 ^^^
          c.idDispositivo.extractLsb 63 32 :=
    extractLsb'_confInstalada_low confIni c.idDispositivo 32
      (by omega)
  have hWord7 :
      (confInstalada confIni c.idDispositivo).extractLsb 31 0 =
        (BitVec.ofNat 256 confIni).extractLsb 31 0 ^^^
          c.idDispositivo.extractLsb 31 0 :=
    extractLsb'_confInstalada_low confIni c.idDispositivo 0
      (by omega)
  have hKey :
      ∀ (i : Nat) (hi : i < 8),
        (palavrasDaChave chave)[i] =
          Forro.U8TO32_LITTLE (chave.drop (4 * i)) :=
    fun i hi => Vector.getElem_ofFn hi
  apply Vector.ext
  intro i hi
  interval_cases i
  · exact hKey 0 (by omega)
  · exact hKey 1 (by omega)
  · exact hKey 2 (by omega)
  · exact hKey 3 (by omega)
  · exact congrArg (· ^^^ c.idRodada0) hWord0
  · exact congrArg (· ^^^ c.idRodada1) hWord1
  · exact hWord2
  · exact hWord3
  · exact hKey 4 (by omega)
  · exact hKey 5 (by omega)
  · exact hKey 6 (by omega)
  · exact hKey 7 (by omega)
  · exact congrArg (· ^^^ c.idRodada2) hWord4
  · exact congrArg (· ^^^ c.idRodada3) hWord5
  · exact hWord6
  · exact hWord7

/- What the entry of a line holds. -/
theorem daLinha_eq_some
    {confIni : Nat}
    {linha : Linha}
    {d : Dispositivo}
    (hLinha : Dispositivo.daLinha confIni linha = some d) :
    idDaLinha linha = some (d.idDispositivo.toNat : Int) ∧
      d =
        { idDispositivo := d.idDispositivo
          configuracao := confInstalada confIni d.idDispositivo
          key := palavrasDaChave (bytesDaChave linha.chave) } := by
  simp only [Dispositivo.daLinha, Option.bind_eq_bind,
    Option.bind_eq_some_iff] at hLinha
  rcases hLinha with
    ⟨id, hId, idDispositivo, hCampo, configuracao, hConf, hd⟩
  cases hd
  have hIdEq := campo_eq_some hCampo
  have hConfEq := campo_eq_some hConf
  have hConfiguracao :
      configuracao = confInstalada confIni idDispositivo := by
    rw [hIdEq, Int.toNat_natCast] at hConfEq
    have hNat :
        confParam confIni idDispositivo.toNat =
          configuracao.toNat := by
      exact_mod_cast hConfEq
    rw [confInstalada, hNat, BitVec.ofNat_toNat,
      BitVec.setWidth_eq]
  exact ⟨hId.trans (congrArg some hIdEq), by rw [hConfiguracao]⟩

/- An entry of a line loads the state of its record. -/
theorem estadoInicial_daLinha
    {confIni : Nat}
    {linha : Linha}
    {d : Dispositivo}
    {c : Cabecalho}
    (hLinha : Dispositivo.daLinha confIni linha = some d)
    (hId : d.idDispositivo = c.idDispositivo) :
    d.estadoInicial c =
      estadoForro (bytesDaChave linha.chave)
        (BitVec.ofNat 256 confIni) c := by
  rw [(daLinha_eq_some hLinha).2, hId,
    estadoInicial_eq_estadoForro]

------------------------------------------------------------
-- Looking Up Records
------------------------------------------------------------

theorem linha_of_mem
    {R : Linha → Dispositivo → Prop}
    {linhas : List Linha}
    {dispositivos : List Dispositivo}
    (hEntradas : List.Forall₂ R linhas dispositivos) :
    ∀ d ∈ dispositivos, ∃ linha ∈ linhas, R linha d := by
  induction hEntradas with
  | nil =>
      intro d hMem
      simp at hMem
  | @cons linha d rest later hLinha _ ih =>
      intro e hMem
      rcases List.mem_cons.mp hMem with hHead | hTail
      · exact ⟨linha, by simp, hHead ▸ hLinha⟩
      · rcases ih e hTail with ⟨l, hl, hle⟩
        exact ⟨l, by simp [hl], hle⟩

theorem dispositivo_of_mem
    {R : Linha → Dispositivo → Prop}
    {linhas : List Linha}
    {dispositivos : List Dispositivo}
    (hEntradas : List.Forall₂ R linhas dispositivos) :
    ∀ linha ∈ linhas, ∃ d ∈ dispositivos, R linha d := by
  induction hEntradas with
  | nil =>
      intro linha hMem
      simp at hMem
  | @cons linha d rest later hLinha _ ih =>
      intro l hMem
      rcases List.mem_cons.mp hMem with hHead | hTail
      · exact ⟨d, by simp, hHead ▸ hLinha⟩
      · rcases ih l hTail with ⟨e, he, hle⟩
        exact ⟨e, by simp [he], hle⟩

theorem procurar_eq_some
    {dispositivos : List Dispositivo}
    {id : BitVec 128}
    {d : Dispositivo}
    (hProcurar : procurar dispositivos id = some d) :
    d ∈ dispositivos ∧ d.idDispositivo = id := by
  refine ⟨List.mem_of_find?_eq_some hProcurar, ?_⟩
  simpa using List.find?_some hProcurar

/- The line of the entry that an identifier selects. -/
theorem linha_of_procurar
    {confIni : Nat}
    {linhas : List Linha}
    {dispositivos : List Dispositivo}
    {c : Cabecalho}
    {d : Dispositivo}
    (hEntradas : EntradasDe confIni linhas dispositivos)
    (hProcurar :
      procurar dispositivos c.idDispositivo = some d) :
    ∃ linha ∈ linhas,
      idDaLinha linha = some (c.idDispositivo.toNat : Int) ∧
        d.estadoInicial c =
          estadoForro (bytesDaChave linha.chave)
            (BitVec.ofNat 256 confIni) c := by
  rcases procurar_eq_some hProcurar with ⟨hMem, hId⟩
  rcases linha_of_mem hEntradas d hMem with
    ⟨linha, hLinhas, hLinha⟩
  refine ⟨linha, hLinhas, ?_, estadoInicial_daLinha hLinha hId⟩
  rw [(daLinha_eq_some hLinha).1, hId]

/- With distinct identifiers a line's own entry is selected. -/
theorem procurar_of_linha
    {confIni : Nat}
    {linhas : List Linha}
    {dispositivos : List Dispositivo}
    {c : Cabecalho}
    {linha : Linha}
    (hEntradas : EntradasDe confIni linhas dispositivos)
    (hIds : (linhas.map idDaLinha).Nodup)
    (hMem : linha ∈ linhas)
    (hId :
      idDaLinha linha = some (c.idDispositivo.toNat : Int)) :
    ∃ d,
      procurar dispositivos c.idDispositivo = some d ∧
        d.estadoInicial c =
          estadoForro (bytesDaChave linha.chave)
            (BitVec.ofNat 256 confIni) c := by
  rcases dispositivo_of_mem hEntradas linha hMem with
    ⟨own, hOwn, hLinha⟩
  have hOwnId : own.idDispositivo = c.idDispositivo := by
    have hSame := (daLinha_eq_some hLinha).1.symm.trans hId
    apply BitVec.eq_of_toNat_eq
    exact_mod_cast Option.some.inj hSame
  cases hProcurar : procurar dispositivos c.idDispositivo with
  | none =>
      have hNone := List.find?_eq_none.mp hProcurar own hOwn
      exact absurd hOwnId (by simpa using hNone)
  | some d =>
      refine ⟨d, rfl, ?_⟩
      rcases procurar_eq_some hProcurar with ⟨hd, hdId⟩
      rcases linha_of_mem hEntradas d hd with
        ⟨other, hOther, hOtherLinha⟩
      have hOtherId : idDaLinha other = idDaLinha linha := by
        rw [(daLinha_eq_some hOtherLinha).1, hdId, hId]
      have hSame : other = linha :=
        List.inj_on_of_nodup_map hIds hOther hMem hOtherId
      rw [← hSame]
      exact estadoInicial_daLinha hOtherLinha hdId

/- An identifier of no line selects no entry. -/
theorem procurar_eq_none
    {confIni : Nat}
    {linhas : List Linha}
    {dispositivos : List Dispositivo}
    {id : BitVec 128}
    (hEntradas : EntradasDe confIni linhas dispositivos)
    (hAbsent :
      ∀ linha ∈ linhas, idDaLinha linha ≠ some (id.toNat : Int)) :
    procurar dispositivos id = none := by
  apply List.find?_eq_none.mpr
  intro d hMem
  rcases linha_of_mem hEntradas d hMem with
    ⟨linha, hLinhas, hLinha⟩
  have hNe : d.idDispositivo ≠ id := by
    intro hSame
    apply hAbsent linha hLinhas
    rw [(daLinha_eq_some hLinha).1, hSame]
  simpa using hNe

end Tna

end P4dra
