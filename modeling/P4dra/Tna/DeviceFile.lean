import P4dra.Tna.Verification
import P4dra.Tna.WireFields

/-
  Device files of well-formed records.

  A record is an identifier, a key and a sample proof in
  hexadecimal digits, each followed by a colon. The controller
  script comes to its end on every file of at most 20000
  records and programs an entry for each of them.

  Main declarations:
    * `Registro`, `Registro.texto`
    * `setup_registros`, `procurar_registro`
    * `processar_registro`
    * `Aceita`, `aceita_registro`
-/

------------------------------------------------------------
-- Records
------------------------------------------------------------

namespace P4dra

open Bytes (Byte swapWords)

/- A well-formed record of a device file. -/
structure Registro where
  idDispositivo : List Char
  chave : List Char
  prova : List Char
  hexId : Hex.IsHex idDispositivo
  hexChave : Hex.IsHex chave
  hexProva : Hex.IsHex prova
  lengthId : idDispositivo.length = 32
  lengthChave : chave.length = 64
  lengthProva : prova.length = 128

namespace Registro

/- The line of a record. -/
def texto (r : Registro) : List Char :=
  r.idDispositivo ++ ':' :: (r.chave ++ ':' ::
    (r.prova ++ [':', '\n']))

/- The sixteen bytes of the identifier. -/
def bytesId (r : Registro) : List Byte :=
  Hex.decode r.idDispositivo

/- The 32 bytes of the key. -/
def bytesChave (r : Registro) : List Byte :=
  Hex.decode r.chave

theorem length_bytesId
    (r : Registro) :
    r.bytesId.length = 16 := by
  rw [bytesId, Hex.length_decode, r.lengthId]

theorem length_bytesChave
    (r : Registro) :
    r.bytesChave.length = 32 := by
  rw [bytesChave, Hex.length_decode, r.lengthChave]

end Registro

/- Distinct identifiers, and no more than a run reads. -/
structure ArquivoValido (registros : List Registro) : Prop where
  ids : (registros.map Registro.bytesId).Nodup
  quantidade : registros.length ≤ Tna.quantidadeDispositivos

/- The record of the sample prover. -/
def registroExemplo : Registro where
  idDispositivo := "30303030303031383430343936393332".toList
  chave :=
    ("7c8121dd59d29489b0ba66113a107caa" ++
      "4443ad0f1d508cb11b471a9552b06f8d").toList
  prova := List.replicate 128 '0'
  hexId := by decide +kernel
  hexChave := by decide +kernel
  hexProva := by decide +kernel
  lengthId := by decide +kernel
  lengthChave := by decide +kernel
  lengthProva := by decide +kernel

theorem arquivoValido_exemplo :
    ArquivoValido [registroExemplo] where
  ids := by simp
  quantidade := by decide

namespace Tna

/- The fields of a header name a record. -/
def Cabecalho.DoRegistro
    (c : Cabecalho)
    (r : Registro) : Prop :=
  c.bytesIdDispositivo = swapWords r.bytesId

instance (c : Cabecalho) (r : Registro) :
    Decidable (c.DoRegistro r) :=
  inferInstanceAs (Decidable (_ = _))

theorem doRegistro_of_idDispositivo
    {c : Cabecalho}
    {r : Registro}
    (hId :
      c.idDispositivo =
        BitVec.ofNat 128 (Bytes.beNat (swapWords r.bytesId))) :
    c.DoRegistro r := by
  have hLength : (swapWords r.bytesId).length = 16 := by
    rw [Bytes.length_swapWords, r.length_bytesId]
  unfold Cabecalho.DoRegistro Cabecalho.bytesIdDispositivo
  rw [hId]
  exact (Codec.bits 16).encode_decode _ hLength

------------------------------------------------------------
-- What The Script Reads
------------------------------------------------------------

/- The entry of `process_file` for a record. -/
def linhaDoRegistro (r : Registro) : Linha :=
  ⟨r.idDispositivo, partesDaChave r.chave⟩

theorem not_mem_of_isHex
    {texto : List Char}
    {c : Char}
    (hHex : Hex.IsHex texto)
    (hc : ¬ Hex.IsDigit c) :
    c ∉ texto :=
  fun hMem => hc (hHex c hMem)

/- The line break is the only white space of a line. -/
theorem pyStrip_texto
    (r : Registro) :
    pyStrip r.texto =
      r.idDispositivo ++ ':' :: (r.chave ++ ':' ::
        (r.prova ++ [':'])) := by
  have hDigits : ∀ texto : List Char, Hex.IsHex texto →
      ∀ c ∈ texto, pyIsspace c = false :=
    fun texto hHex c hc =>
      not_pyIsspace_of_isDigit (hHex c hc)
  have hFirst :
      r.texto.dropWhile pyIsspace = r.texto := by
    cases hId : r.idDispositivo with
    | nil =>
        have hLength := r.lengthId
        rw [hId] at hLength
        cases hLength
    | cons c rest =>
        have hc := hDigits _ r.hexId c (by simp [hId])
        rw [Registro.texto, hId, List.cons_append,
          List.dropWhile_cons, hc]
        rfl
  have hReverse :
      r.texto.reverse =
        '\n' ::
          (r.idDispositivo ++ ':' :: (r.chave ++ ':' ::
            (r.prova ++ [':']))).reverse := by
    simp [Registro.texto]
  have hColon : pyIsspace ':' = false := by decide
  have hBreak : pyIsspace '\n' = true := by decide
  rw [pyStrip, hFirst, hReverse, List.dropWhile_cons, hBreak,
    if_pos rfl]
  have hLast :
      (r.idDispositivo ++ ':' :: (r.chave ++ ':' ::
          (r.prova ++ [':']))).reverse =
        ':' ::
          (r.idDispositivo ++ ':' :: (r.chave ++ ':' ::
            r.prova)).reverse := by
    simp
  have hStop :
      ((':' ::
          (r.idDispositivo ++ ':' :: (r.chave ++ ':' ::
            r.prova)).reverse).dropWhile pyIsspace) =
        ':' ::
          (r.idDispositivo ++ ':' :: (r.chave ++ ':' ::
            r.prova)).reverse := by
    rw [List.dropWhile_cons, hColon]
    rfl
  rw [hLast, hStop]
  simp

theorem processLine_texto
    (r : Registro) :
    processLine r.texto = some (linhaDoRegistro r) := by
  have hColon : ¬ Hex.IsDigit ':' := by decide
  have hSplit :
      (pyStrip r.texto).splitOn ':' =
        r.idDispositivo :: r.chave ::
          (r.prova ++ [':']).splitOn ':' := by
    rw [pyStrip_texto,
      List.splitOn_append_cons_self_of_not_mem
        (not_mem_of_isHex r.hexId hColon),
      List.splitOn_append_cons_self_of_not_mem
        (not_mem_of_isHex r.hexChave hColon)]
  rw [processLine, hSplit, linhaDoRegistro]

theorem processFile_registros
    {registros : List Registro}
    (hQuantidade :
      registros.length ≤ quantidadeDispositivos) :
    processFile (registros.map Registro.texto)
        quantidadeDispositivos =
      some (registros.map linhaDoRegistro) := by
  have hTake :
      (registros.map Registro.texto).take
          quantidadeDispositivos =
        registros.map Registro.texto :=
    List.take_of_length_le
      (by rw [List.length_map]; exact hQuantidade)
  rw [processFile, hTake]
  clear hTake hQuantidade
  induction registros with
  | nil => rfl
  | cons r rest ih =>
      rw [List.map_cons, List.mapM_cons, processLine_texto, ih]
      rfl

/- A key of a record has 64 digits. -/
theorem chaveHex_linhaDoRegistro
    (registros : List Registro) :
    ∀ linha ∈ registros.map linhaDoRegistro,
      ChaveHex linha.chave := by
  intro linha hMem
  rcases List.mem_map.mp hMem with ⟨r, _, hr⟩
  subst hr
  exact ⟨r.chave, r.hexChave, r.lengthChave, rfl⟩

theorem bytesDaChave_linhaDoRegistro
    (r : Registro) :
    bytesDaChave (linhaDoRegistro r).chave = r.bytesChave := by
  rw [bytesDaChave, linhaDoRegistro,
    partesDaChave_flatten _ r.lengthChave]
  rfl

theorem idDaLinha_linhaDoRegistro
    (r : Registro) :
    idDaLinha (linhaDoRegistro r) =
      some (Bytes.beNat (swapWords r.bytesId) : Int) :=
  pyInt16_inverterEndianess 4 r.hexId r.lengthId (by decide)

------------------------------------------------------------
-- What The Script Programs
------------------------------------------------------------

theorem beNat_lt_of_length
    {bytes : List Byte}
    {n : Nat}
    (hLength : bytes.length = n) :
    Bytes.beNat bytes < 2 ^ (8 * n) := by
  have hLt := Bytes.beNat_lt bytes
  rw [hLength] at hLt
  rw [Nat.pow_mul]
  exact hLt

/- A mixed configuration fits its 256 bits. -/
theorem confParam_lt
    {confIni : Nat}
    (hConf : confIni < 2 ^ 256)
    (id : Nat) :
    confParam confIni id < 2 ^ 256 := by
  have hBits : ∀ i, 256 ≤ i →
      (confParam confIni id).testBit i = false := by
    intro i hi
    have hConfBit : confIni.testBit i = false :=
      Nat.testBit_lt_two_pow
        (hConf.trans_le (Nat.pow_le_pow_right (by decide) hi))
    have hHigh : ¬ i < 192 := by omega
    have hLow : ¬ i < 64 := by omega
    rw [testBit_confParam, hConfBit]
    simp [hHigh, hLow]
  exact Nat.lt_pow_two_of_testBit _ hBits

/- Every record has an entry. -/
theorem daLinha_registro
    {confIni : Nat}
    (hConf : confIni < 2 ^ 256)
    (r : Registro) :
    ∃ d,
      Dispositivo.daLinha confIni (linhaDoRegistro r) =
        some d := by
  have hId : Bytes.beNat (swapWords r.bytesId) < 2 ^ 128 :=
    beNat_lt_of_length (n := 16)
      (by rw [Bytes.length_swapWords, r.length_bytesId])
  have hCampo : ∀ (w n : Nat), n < 2 ^ w →
      campo w (n : Int) = some (BitVec.ofNat w n) := by
    intro w n hn
    have hFits : (0 : Int) ≤ n ∧ (n : Int) < 2 ^ w :=
      ⟨by omega, by exact_mod_cast hn⟩
    rw [campo, if_pos hFits, Int.toNat_natCast]
  rw [Dispositivo.daLinha, idDaLinha_linhaDoRegistro]
  dsimp only [Option.bind_eq_bind]
  rw [Option.bind_some, hCampo 128 _ hId, Option.bind_some,
    Int.toNat_natCast, hCampo 256 _ (confParam_lt hConf _),
    Option.bind_some]
  exact ⟨_, rfl⟩

theorem entradasDe_registros
    {confIni : Nat}
    (hConf : confIni < 2 ^ 256)
    (registros : List Registro) :
    ∃ dispositivos,
      EntradasDe confIni (registros.map linhaDoRegistro)
        dispositivos := by
  induction registros with
  | nil => exact ⟨[], .nil⟩
  | cons r rest ih =>
      rcases ih with ⟨dispositivos, hEntradas⟩
      rcases daLinha_registro hConf r with ⟨d, hd⟩
      exact ⟨d :: dispositivos, .cons hd hEntradas⟩

/- The script programs an entry for every record. -/
theorem setup_registros
    {confIni : Nat}
    (hConf : confIni < 2 ^ 256)
    {registros : List Registro}
    (hArquivo : ArquivoValido registros) :
    ∃ dispositivos,
      EntradasDe confIni (registros.map linhaDoRegistro)
          dispositivos ∧
        setup confIni (registros.map Registro.texto) =
          ⟨programa dispositivos, true⟩ := by
  rcases entradasDe_registros hConf registros with
    ⟨dispositivos, hEntradas⟩
  exact
    ⟨dispositivos, hEntradas,
      setup_of_entradasDe
        (processFile_registros hArquivo.quantidade)
        (chaveHex_linhaDoRegistro registros) hEntradas⟩

/- The script ends on a file of records. -/
theorem concluida_registros
    {confIni : Nat}
    (hConf : confIni < 2 ^ 256)
    {registros : List Registro}
    (hArquivo : ArquivoValido registros) :
    (setup confIni
      (registros.map Registro.texto)).concluida = true := by
  rcases setup_registros hConf hArquivo with ⟨_, _, hSetup⟩
  rw [hSetup]

/- The identifier of a frame and of a record are the same. -/
theorem idDaLinha_eq_iff
    (c : Cabecalho)
    (r : Registro) :
    idDaLinha (linhaDoRegistro r) =
        some (c.idDispositivo.toNat : Int) ↔
      c.DoRegistro r := by
  have hBytes :
      c.bytesIdDispositivo =
        Bytes.beBytes 16 c.idDispositivo.toNat := rfl
  have hLength : (swapWords r.bytesId).length = 16 := by
    rw [Bytes.length_swapWords, r.length_bytesId]
  have hRound := Bytes.beBytes_beNat (swapWords r.bytesId)
  rw [hLength] at hRound
  rw [idDaLinha_linhaDoRegistro, Cabecalho.DoRegistro, hBytes]
  constructor
  · intro hSame
    have hNat :
        Bytes.beNat (swapWords r.bytesId) =
          c.idDispositivo.toNat := by
      exact_mod_cast Option.some.inj hSame
    rw [← hNat, hRound]
  · intro hSame
    have hValue := congrArg Bytes.beNat hSame
    have hPow : (256 : Nat) ^ 16 = 2 ^ 128 := by norm_num
    rw [Bytes.beNat_beBytes, hPow,
      Nat.mod_eq_of_lt c.idDispositivo.isLt] at hValue
    rw [hValue]

theorem idDaLinha_inj
    {r s : Registro}
    (hSame :
      idDaLinha (linhaDoRegistro r) =
        idDaLinha (linhaDoRegistro s)) :
    r.bytesId = s.bytesId := by
  rw [idDaLinha_linhaDoRegistro, idDaLinha_linhaDoRegistro]
    at hSame
  have hNat :
      Bytes.beNat (swapWords r.bytesId) =
        Bytes.beNat (swapWords s.bytesId) := by
    exact_mod_cast Option.some.inj hSame
  have hBytes : ∀ t : Registro,
      Bytes.beBytes 16 (Bytes.beNat (swapWords t.bytesId)) =
        swapWords t.bytesId := by
    intro t
    have hRound := Bytes.beBytes_beNat (swapWords t.bytesId)
    rw [Bytes.length_swapWords, t.length_bytesId] at hRound
    exact hRound
  have hSwapped : swapWords r.bytesId = swapWords s.bytesId := by
    rw [← hBytes r, hNat, hBytes s]
  rw [← Bytes.swapWords_swapWords r.bytesId, hSwapped,
    Bytes.swapWords_swapWords]

theorem nodup_idDaLinha
    {registros : List Registro}
    (hIds : (registros.map Registro.bytesId).Nodup) :
    ((registros.map linhaDoRegistro).map idDaLinha).Nodup := by
  rw [List.map_map]
  have hPairs := List.pairwise_map.mp hIds
  apply List.pairwise_map.mpr
  exact hPairs.imp
    (fun hNe hSame => hNe (idDaLinha_inj hSame))

/- The entry that a record's identifier selects. -/
theorem procurar_registro
    {confIni : Nat}
    {registros : List Registro}
    {dispositivos : List Dispositivo}
    {c : Cabecalho}
    {r : Registro}
    (hEntradas :
      EntradasDe confIni (registros.map linhaDoRegistro)
        dispositivos)
    (hIds : (registros.map Registro.bytesId).Nodup)
    (hMem : r ∈ registros)
    (hDoRegistro : c.DoRegistro r) :
    ∃ d,
      procurar dispositivos c.idDispositivo = some d ∧
        d.estadoInicial c =
          estadoForro r.bytesChave (BitVec.ofNat 256 confIni)
            c := by
  have hFound :=
    procurar_of_linha hEntradas (nodup_idDaLinha hIds)
      (List.mem_map_of_mem hMem)
      ((idDaLinha_eq_iff c r).mpr hDoRegistro)
  rw [bytesDaChave_linhaDoRegistro] at hFound
  exact hFound

/- The switch compares with the proof of the record. -/
theorem processar_registro
    {confIni : Nat}
    (hConf : confIni < 2 ^ 256)
    {registros : List Registro}
    (hArquivo : ArquivoValido registros)
    {r : Registro}
    (hMem : r ∈ registros)
    {c : Cabecalho}
    (hDoRegistro : c.DoRegistro r)
    (payload : State)
    (rest : List Byte)
    {fuel : Nat}
    (hFuel : 30 ≤ fuel) :
    processar
        (setup confIni (registros.map Registro.texto)).calls
        fuel (quadroResposta c payload rest) =
      some
        (if payload =
            Forro.forroWords
              (estadoForro r.bytesChave
                (BitVec.ofNat 256 confIni) c) then
          .emitido portaCPU (quadroCifra c payload payload rest)
        else
          .descartado) := by
  rcases setup_registros hConf hArquivo with
    ⟨dispositivos, hEntradas, hSetup⟩
  rcases procurar_registro hEntradas hArquivo.ids hMem
      hDoRegistro with
    ⟨d, hProcurar, hEstado⟩
  have hRun :=
    processar_resposta dispositivos c payload rest fuel hFuel
  rw [resultadoResposta, hProcurar] at hRun
  simp only [hEstado] at hRun
  rw [hSetup]
  exact hRun

------------------------------------------------------------
-- Acceptance
------------------------------------------------------------

/- The switch sends something to the controller for a frame. -/
def Aceita
    (calls : List BfrtCall)
    (frame : Frame) : Prop :=
  ∃ fuel sent,
    processar calls fuel frame =
      some (.emitido portaCPU sent)

/- A Reply is accepted for the proof of its record only. -/
theorem aceita_registro
    {confIni : Nat}
    (hConf : confIni < 2 ^ 256)
    {registros : List Registro}
    (hArquivo : ArquivoValido registros)
    {r : Registro}
    (hMem : r ∈ registros)
    {c : Cabecalho}
    (hDoRegistro : c.DoRegistro r)
    (payload : State)
    (rest : List Byte) :
    Aceita
        (setup confIni (registros.map Registro.texto)).calls
        (quadroResposta c payload rest) ↔
      payload =
        Forro.forroWords
          (estadoForro r.bytesChave (BitVec.ofNat 256 confIni)
            c) := by
  have hRun :=
    processar_registro hConf hArquivo hMem hDoRegistro payload
      rest (le_refl 30)
  constructor
  · rintro ⟨fuel, sent, hSent⟩
    have hSame := Recirculation.run_unique hSent hRun
    by_cases hProva :
        payload =
          Forro.forroWords
            (estadoForro r.bytesChave
              (BitVec.ofNat 256 confIni) c)
    · exact hProva
    · rw [if_neg hProva] at hSame
      cases hSame
  · intro hProva
    rw [if_pos hProva] at hRun
    exact ⟨30, _, hRun⟩

/- What the switch compares a Reply of a record with. -/
theorem cifraAposFinalizar_registro
    {confIni : Nat}
    (hConf : confIni < 2 ^ 256)
    {registros : List Registro}
    (hArquivo : ArquivoValido registros)
    {r : Registro}
    (hMem : r ∈ registros)
    {c : Cabecalho}
    (hDoRegistro : c.DoRegistro r)
    (payload : State)
    (rest : List Byte)
    {calls : List BfrtCall}
    (hCalls :
      calls =
        (setup confIni (registros.map Registro.texto)).calls) :
    (Recirculation.advance (travessia calls) 29
          (quadroResposta c payload rest)).bind
        (cifraAposFinalizar calls) =
      some
        (Forro.forroWords
          (estadoForro r.bytesChave (BitVec.ofNat 256 confIni)
            c)) := by
  rcases setup_registros hConf hArquivo with
    ⟨dispositivos, hEntradas, hSetup⟩
  rcases procurar_registro hEntradas hArquivo.ids hMem
      hDoRegistro with
    ⟨d, hProcurar, hEstado⟩
  rw [hCalls, hSetup, ← hEstado]
  exact cifraAposFinalizar_resposta payload rest hProcurar

end Tna

end P4dra
