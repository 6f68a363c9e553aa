import P4dra.Tools.MalformedRecords
import P4dra.Tools.VerifierRuns

/-
  The program `le_provas_arquivo`.

  For every line of a device file the program runs the proof
  program on the key and the identifier of the line, in the
  round of its arguments, and prints the proof of the line
  and the one that was computed. The two are the same, up to
  the case of the digits, exactly when the switch accepts the
  frame that `envia_provas_arquivo` sends for the line in
  that round.

  Main declarations:
    * `LeProvasArquivo.main`
    * `LeProvasArquivo.main_registros`
    * `EnviaProvasArquivo.exists_quadroResposta`
    * `LeProvasArquivo.conferencia_iff_aceita`
-/

------------------------------------------------------------
-- Program
------------------------------------------------------------

namespace P4dra

open Bytes (Byte slice swapWords)
open Tna (Cabecalho quadroResposta)

namespace Tools

namespace LeProvasArquivo

/- `snprintf` into `comando`. -/
def comando
    (chave nonce idRodada idDispositivo : List Char) :
    List Char :=
  ("./forro-args-dra2 ".toList ++ precisao chaveLen chave ++
    ' ' :: precisao nonceLen nonce ++
    ' ' :: precisao nonceLen idRodada ++
    ' ' :: precisao idDispositivoLen idDispositivo ++
    ' ' :: ['0']).take 255

/- The lines of a text, as `getline` gives them. -/
def linhasLidas : List Char → List (List Char)
| [] => []
| c :: resto =>
    let seguintes := linhasLidas resto
    if c = '\n' then
      [c] :: seguintes
    else
      (c :: seguintes.headD []) :: seguintes.tail

/- What is printed for a line of the process. -/
def imprimeVerificacao (linha : List Char) : List Char :=
  "verificacao: ".toList ++
    (linha.takeWhile (· ≠ '\x00') ++ ['\n'])

/-
  A turn of the loop: what is printed, and what is printed as
  an error. `memoria` is that of the process; a process that
  fails prints nothing.
-/
def turno
    (idRodada nonce : List Char)
    (memoria : ForroArgsDra.Memoria)
    (linha : List Char) : List Char × List Char :=
  let lida := sscanfLinha linha .zero
  if lida.2 = 3 then
    let saida :=
      (ForroArgsDra.main memoria
        (palavrasDoShell
          (comando lida.1.chave.toList nonce idRodada
            lida.1.idDispositivo.toList))).getD []
    ("prova: ".toList ++
        (precisao provaLen lida.1.prova.toList ++ '\n' ::
          (linhasLidas saida).flatMap imprimeVerificacao), [])
  else
    ([],
      "Formato de linha inválido: ".toList ++ textoLido linha)

/- `main`; every line starts a process of its own. -/
def main
    (memoria : Nat → ForroArgsDra.Memoria)
    (arquivo : List (List Char))
    (idRodada nonce : List Char) : List Char × List Char :=
  let turnos :=
    arquivo.zipIdx.map
      (fun linha =>
        turno idRodada nonce (memoria linha.2) linha.1)
  (turnos.flatMap Prod.fst, turnos.flatMap Prod.snd)

------------------------------------------------------------
-- A Well-Formed Line
------------------------------------------------------------

/- Text without a line break is one line. -/
theorem linhasLidas_of_isHex
    {texto : List Char}
    (hHex : Hex.IsHex texto)
    (hNonempty : texto ≠ []) :
    linhasLidas texto = [texto] := by
  induction texto with
  | nil => exact absurd rfl hNonempty
  | cons c resto ih =>
      have hNe : c ≠ '\n' :=
        Hex.ne_of_isDigit (hHex c (by simp)) (by decide)
      rw [linhasLidas, if_neg hNe]
      by_cases hNil : resto = []
      · rw [hNil]
        rfl
      · rw [ih (fun d hd => hHex d (by simp [hd])) hNil]
        rfl

/- The digits of a round, as the programs take them. -/
structure Rodada (idRodada nonce : List Char) : Prop where
  hexIdRodada : Hex.IsHex idRodada
  hexNonce : Hex.IsHex nonce
  lengthIdRodada : idRodada.length = 16
  lengthNonce : nonce.length = 16

theorem Rodada.isHex_append
    {idRodada nonce : List Char}
    (hRodada : Rodada idRodada nonce) :
    Hex.IsHex (idRodada ++ nonce) := by
  intro c hMem
  rcases List.mem_append.mp hMem with hIn | hIn
  · exact hRodada.hexIdRodada c hIn
  · exact hRodada.hexNonce c hIn

theorem Rodada.length_append
    {idRodada nonce : List Char}
    (hRodada : Rodada idRodada nonce) :
    (idRodada ++ nonce).length = idRodadaLen := by
  rw [List.length_append, hRodada.lengthIdRodada,
    hRodada.lengthNonce]
  rfl

/- The state of the proof of a record. -/
def estadoDoRegistro
    (memoria : ForroArgsDra.Memoria)
    (idRodada nonce : List Char)
    (r : Registro) : State :=
  Forro.estadoProva memoria.input r.bytesChave
    (Hex.decode idRodada) (Hex.decode nonce) r.bytesId
    memoria.configuracao.toList

/- The proof program on a command line for a record. -/
theorem main_of_registro
    {memoria : ForroArgsDra.Memoria}
    (hMemoria : memoria.Limpa)
    {idRodada nonce : List Char}
    (hRodada : Rodada idRodada nonce)
    (r : Registro)
    (nome : List Char) :
    ForroArgsDra.main memoria
        [nome, r.chave, nonce, idRodada, r.idDispositivo,
          ['0']] =
      some
        (Hex.encode
          (Forro.forro
            (estadoDoRegistro memoria idRodada nonce r))) := by
  have hArgumentos :
      ForroArgsDra.Argumentos
        [nome, r.chave, nonce, idRodada, r.idDispositivo, ['0']]
        r.chave nonce idRodada r.idDispositivo :=
    ⟨rfl, rfl, rfl, rfl, r.hexChave, hRodada.hexNonce,
      hRodada.hexIdRodada, r.hexId, r.lengthChave,
      hRodada.lengthNonce, hRodada.lengthIdRodada, r.lengthId⟩
  have hPalavra :
      [nome, r.chave, nonce, idRodada, r.idDispositivo,
        ['0']][5]? = some ['0'] := rfl
  rcases VerificaRede.configuracao_zero memoria hPalavra with
    ⟨argv5, hArgv5, hLida⟩
  exact
    ForroArgsDra.main_eq hMemoria hArgumentos hArgv5 hLida

/- The words of the command for a record. -/
theorem palavrasDoShell_comando
    {idRodada nonce : List Char}
    (hRodada : Rodada idRodada nonce)
    (r : Registro) :
    palavrasDoShell
        (comando r.chave nonce idRodada r.idDispositivo) =
      ["./forro-args-dra2".toList, r.chave, nonce, idRodada,
        r.idDispositivo, ['0']] := by
  have hLengthChave := r.lengthChave
  have hLengthId := r.lengthId
  have hLengthNonce := hRodada.lengthNonce
  have hLengthRodada := hRodada.lengthIdRodada
  have hComando :
      comando r.chave nonce idRodada r.idDispositivo =
        [' '].intercalate
          (["./forro-args-dra2".toList] ++
            [r.chave, nonce, idRodada, r.idDispositivo,
              ['0']]) := by
    rw [comando, chaveLen, nonceLen, idDispositivoLen,
      precisao_of_isHex r.hexChave hLengthChave,
      precisao_of_isHex hRodada.hexNonce hLengthNonce,
      precisao_of_isHex hRodada.hexIdRodada hLengthRodada,
      precisao_of_isHex r.hexId hLengthId,
      List.take_of_length_le]
    · simp [List.intercalate]
    · simp
      omega
  rw [hComando]
  apply palavrasDoShell_digitos (by simp) (by decide)
  intro palavra hMem
  simp only [List.mem_cons, List.not_mem_nil, or_false] at hMem
  rcases hMem with hEq | hEq | hEq | hEq | hEq
  · rw [hEq]
    exact ⟨List.ne_nil_of_length_pos (by omega), r.hexChave⟩
  · rw [hEq]
    exact
      ⟨List.ne_nil_of_length_pos (by omega), hRodada.hexNonce⟩
  · rw [hEq]
    exact
      ⟨List.ne_nil_of_length_pos (by omega),
        hRodada.hexIdRodada⟩
  · rw [hEq]
    exact ⟨List.ne_nil_of_length_pos (by omega), r.hexId⟩
  · rw [hEq]
    decide

/- Three conversions are made for a record. -/
theorem sscanfLinha_texto
    (r : Registro)
    (row : IdChaveProva) :
    (sscanfLinha r.texto row).2 = 3 := by
  rcases lerCaracteres_append
      (':' :: (r.chave ++ ':' :: (r.prova ++ [':', '\n'])))
      r.lengthId with
    ⟨id, hId, _⟩
  rcases lerCaracteres_append
      (':' :: (r.prova ++ [':', '\n'])) r.lengthChave with
    ⟨chave, hChave, _⟩
  rcases lerCaracteres_append [':', '\n'] r.lengthProva with
    ⟨prova, hProva, _⟩
  rw [sscanfLinha, textoLido_texto]
  simp only [Registro.texto, hId, lerDoisPontos,
    Option.bind_some, hChave, hProva]

/- The two lines that are printed for a record. -/
def conferencia
    (prova verificacao : List Char) : List Char :=
  "prova: ".toList ++ (prova ++ '\n' ::
    ("verificacao: ".toList ++ (verificacao ++ ['\n'])))

theorem turno_of_saida
    {memoria : ForroArgsDra.Memoria}
    {idRodada nonce : List Char}
    (hRodada : Rodada idRodada nonce)
    (r : Registro)
    {verificacao : List Char}
    (hHex : Hex.IsHex verificacao)
    (hNonempty : verificacao ≠ [])
    (hMain :
      ForroArgsDra.main memoria
          ["./forro-args-dra2".toList, r.chave, nonce, idRodada,
            r.idDispositivo, ['0']] =
        some verificacao) :
    turno idRodada nonce memoria r.texto =
      (conferencia r.prova verificacao, []) := by
  rcases sscanfRegistro_texto r .zero with
    ⟨hId, hChave, hProva⟩
  have hTres := sscanfLinha_texto r .zero
  rw [sscanfRegistro] at hId hChave hProva
  have hTexto := Hex.takeWhile_ne_nul_append hHex []
  rw [List.append_nil, List.takeWhile_nil, List.append_nil]
    at hTexto
  have hCampo : precisao provaLen r.prova = r.prova :=
    precisao_of_isHex r.hexProva r.lengthProva
  unfold turno
  dsimp only
  rw [if_pos hTres, hId, hChave, hProva,
    palavrasDoShell_comando hRodada r, hMain, Option.getD_some,
    linhasLidas_of_isHex hHex hNonempty, List.flatMap_singleton,
    hCampo]
  unfold imprimeVerificacao conferencia
  rw [hTexto]

theorem turno_texto
    {memoria : ForroArgsDra.Memoria}
    (hMemoria : memoria.Limpa)
    {idRodada nonce : List Char}
    (hRodada : Rodada idRodada nonce)
    (r : Registro) :
    turno idRodada nonce memoria r.texto =
      (conferencia r.prova
          (Hex.encode
            (Forro.forro
              (estadoDoRegistro memoria idRodada nonce r))),
        []) := by
  have hLength :=
    VerificaRede.length_encode_forro
      (estadoDoRegistro memoria idRodada nonce r)
  apply turno_of_saida hRodada r (Hex.isHex_encode _)
  · apply List.ne_nil_of_length_pos
    rw [hLength]
    decide
  · exact main_of_registro hMemoria hRodada r _

/- What is computed for the line `i`. -/
def verificacaoDe
    (memoria : ForroArgsDra.Memoria)
    (idRodada nonce : List Char)
    (r : Registro) : List Char :=
  Hex.encode
    (Forro.forro (estadoDoRegistro memoria idRodada nonce r))

/- A file of records: two lines for each, and no error. -/
theorem main_registros
    {memoria : Nat → ForroArgsDra.Memoria}
    (hMemoria : ∀ i, (memoria i).Limpa)
    {idRodada nonce : List Char}
    (hRodada : Rodada idRodada nonce)
    (registros : List Registro) :
    main memoria (registros.map Registro.texto) idRodada nonce =
      (registros.zipIdx.flatMap
          (fun r =>
            conferencia r.1.prova
              (verificacaoDe (memoria r.2) idRodada nonce r.1)),
        []) := by
  have hTurnos :
      ((registros.map Registro.texto).zipIdx.map
          (fun linha =>
            turno idRodada nonce (memoria linha.2) linha.1)) =
        registros.zipIdx.map
          (fun r =>
            (conferencia r.1.prova
                (verificacaoDe (memoria r.2) idRodada nonce
                  r.1),
              [])) := by
    rw [List.zipIdx_map, List.map_map]
    apply List.map_congr_left
    intro r _
    exact turno_texto (hMemoria r.2) hRodada r.1
  unfold main
  rw [hTurnos]
  dsimp only
  rw [List.flatMap_map, List.flatMap_map]
  have hErros :
      registros.zipIdx.flatMap
          (fun _ : Registro × Nat => ([] : List Char)) =
        [] :=
    List.flatMap_eq_nil_iff.mpr (fun _ _ => rfl)
  exact congrArg (Prod.mk _) hErros

end LeProvasArquivo

------------------------------------------------------------
-- Frames Of The Records
------------------------------------------------------------

namespace EnviaProvasArquivo

open LeProvasArquivo (Rodada)

/- The round of two halves, as the sender takes it. -/
theorem bytes_rodada
    {idRodada nonce : List Char}
    (hRodada : Rodada idRodada nonce) :
    bytesDeDigitos 16
        (swapEndian (idRodada ++ nonce) idRodadaLen) =
      swapWords (Hex.decode idRodada) ++
        swapWords (Hex.decode nonce) := by
  have hFirst : idRodada.length = 2 * 8 := hRodada.lengthIdRodada
  have hLength := hRodada.length_append
  have hHex := hRodada.isHex_append
  have hBytes : (Hex.decode idRodada).length = 4 * 2 := by
    rw [Hex.length_decode, hRodada.lengthIdRodada]
  have hDecode :
      Hex.decode (idRodada ++ nonce) =
        Hex.decode idRodada ++ Hex.decode nonce := by
    have hTake := Hex.decode_take 8 (idRodada ++ nonce)
    have hDrop := Hex.decode_drop 8 (idRodada ++ nonce)
    rw [← hFirst, List.take_left] at hTake
    rw [← hFirst, List.drop_left] at hDrop
    rw [hTake, hDrop, List.take_append_drop]
  rw [swapEndian_of_length hLength]
  rw [← Bytes.swapWords_append 2 _ _ hBytes, ← hDecode]
  exact bytesDeDigitos_trocados (k := 4) hHex hLength

/-
  A row whose words are swapped is sent as a Reply of its
  device, in the round of the halves.
-/
theorem exists_quadroResposta
    {idRodada nonce : List Char}
    (hRodada : Rodada idRodada nonce)
    (r : Registro)
    (id : Nat) :
    ∃ (c : Cabecalho) (payload : State),
      c.DoRegistro r ∧
        swapWords (slice 0 8 c.bytesIdRodada) =
          Hex.decode idRodada ∧
        swapWords (slice 8 8 c.bytesIdRodada) =
          Hex.decode nonce ∧
        Tna.forroStateT.encode payload =
          swapWords (Hex.decode r.prova) ∧
        quadroDaRow
            (bytesDeDigitos 16
              (swapEndian (idRodada ++ nonce) idRodadaLen))
            id (trocarRow (sscanfRegistro r.texto .zero)) =
          quadroResposta c payload [] := by
  have hBytes := bytes_rodada hRodada
  have hFirst :
      (swapWords (Hex.decode idRodada)).length = 8 := by
    rw [Bytes.length_swapWords, Hex.length_decode,
      hRodada.lengthIdRodada]
  have hSecond :
      (swapWords (Hex.decode nonce)).length = 8 := by
    rw [Bytes.length_swapWords, Hex.length_decode,
      hRodada.lengthNonce]
  have hLength :
      (bytesDeDigitos 16
        (swapEndian (idRodada ++ nonce) idRodadaLen)).length =
        16 := length_bytesDeDigitos _ _
  generalize
    bytesDeDigitos 16
      (swapEndian (idRodada ++ nonce) idRodadaLen) =
      rodada at *
  rcases exists_cabecalho
      (rfl : macControlador.length = 6)
      (rfl : (srcMac id).length = 6) hLength with
    ⟨c', hDst, hSrc, hIdRodada⟩
  let c : Cabecalho :=
    { c' with
        idDispositivo :=
          BitVec.ofNat 128 (Bytes.beNat (swapWords r.bytesId)) }
  have hDoRegistro : c.DoRegistro r :=
    Tna.doRegistro_of_idDispositivo rfl
  have hCampo : c.bytesIdRodada = rodada := hIdRodada
  have hProva :
      (swapWords (Hex.decode r.prova)).length = 64 := by
    rw [Bytes.length_swapWords, Hex.length_decode,
      r.lengthProva]
  have hPayload :=
    Tna.forroStateT.encode_decode
      (swapWords (Hex.decode r.prova)) hProva
  have hSwapId :
      bytesDeDigitos 16 (Hex.swapDigits r.idDispositivo) =
        swapWords r.bytesId :=
    bytesDeDigitos_trocados (k := 4) r.hexId r.lengthId
  have hSwapProva :
      bytesDeDigitos 64 (Hex.swapDigits r.prova) =
        swapWords (Hex.decode r.prova) :=
    bytesDeDigitos_trocados (k := 16) r.hexProva r.lengthProva
  rcases sscanfRegistro_texto r .zero with
    ⟨hTextoId, _, hTextoProva⟩
  refine
    ⟨c, Tna.forroStateT.decode (swapWords (Hex.decode r.prova)),
      hDoRegistro, ?_, ?_, hPayload, ?_⟩
  · rw [hCampo, hBytes, Bytes.slice_front _ hFirst,
      Bytes.swapWords_swapWords]
  · have hSlice := Bytes.slice_middle [] hFirst hSecond
    rw [List.append_nil] at hSlice
    rw [hCampo, hBytes, hSlice, Bytes.swapWords_swapWords]
  · rw [quadroDaRow, trocarRow, toList_swapEndianCampo,
      toList_swapEndianCampo, hTextoId, hTextoProva, hSwapId,
      hSwapProva, quadroResposta_eq, quadroSemId_eq,
      hDoRegistro, hCampo, hPayload, List.append_nil]
    exact congrArg₂
      (fun dst src =>
        dst ++ (src ++ (etherTypeCustom ++ ([0x2] ++ (rodada ++
          (swapWords r.bytesId ++
            swapWords (Hex.decode r.prova)))))))
      hDst.symm hSrc.symm

/- The frame of a row of the first pass. -/
theorem exists_frame
    {arquivo : List (List Char)}
    (argv3 : List Char)
    {quantidade k : Nat}
    (hRoom : arquivo.length ≤ idMax)
    (hLinhas : quantidade ≤ linhas)
    (hk : k < quantidade) :
    ∃ frames,
      main arquivo argv3 quantidade = some frames ∧
        frames[k]? =
          some
            (quadroDaRow
              (bytesDeDigitos 16 (swapEndian argv3 idRodadaLen))
              k
              (trocarRow
                ((carregarArquivoMemoria arquivo).row k))) := by
  refine ⟨_, main_primeiraPassagem argv3 hRoom hLinhas, ?_⟩
  rw [List.getElem?_map, List.getElem?_range hk,
    Option.map_some]

end EnviaProvasArquivo

------------------------------------------------------------
-- Two Checks
------------------------------------------------------------

namespace LeProvasArquivo

open EnviaProvasArquivo (linhas idMax exists_frame
  exists_quadroResposta)

/- The state of a record is the one that the switch starts. -/
theorem estadoDoRegistro_eq
    (memoria : ForroArgsDra.Memoria)
    {idRodada nonce : List Char}
    {r : Registro}
    {c : Cabecalho}
    (hDoRegistro : c.DoRegistro r)
    (hFirst :
      swapWords (slice 0 8 c.bytesIdRodada) =
        Hex.decode idRodada)
    (hSecond :
      swapWords (slice 8 8 c.bytesIdRodada) =
        Hex.decode nonce) :
    estadoDoRegistro memoria idRodada nonce r =
      Tna.estadoForro r.bytesChave
        (Tna.configuracaoDaMedida memoria.configuracao.toList)
        c := by
  have hId : swapWords c.bytesIdDispositivo = r.bytesId := by
    rw [hDoRegistro, Bytes.swapWords_swapWords]
  have hConfiguracao :
      memoria.configuracao.toList.length = 32 := by
    rw [Vector.length_toList]
  have hCampos :=
    Tna.estadoProva_campos memoria.input r.bytesChave
      hConfiguracao c
  rw [hFirst, hSecond, hId] at hCampos
  exact hCampos

/- Memory matters through the configuration only. -/
theorem verificacaoDe_congr
    {memoria outra : ForroArgsDra.Memoria}
    (hMesma : memoria.configuracao = outra.configuracao)
    {idRodada nonce : List Char}
    (hRodada : Rodada idRodada nonce)
    (r : Registro) :
    verificacaoDe memoria idRodada nonce r =
      verificacaoDe outra idRodada nonce r := by
  rcases exists_quadroResposta hRodada r 0 with
    ⟨c, _, hDoRegistro, hFirst, hSecond, _⟩
  rw [verificacaoDe, verificacaoDe,
    estadoDoRegistro_eq memoria hDoRegistro hFirst hSecond,
    estadoDoRegistro_eq outra hDoRegistro hFirst hSecond, hMesma]

/- Equal words are equal digits, up to their case. -/
theorem payload_eq_iff
    {r : Registro}
    {payload : State}
    (hPayload :
      Tna.forroStateT.encode payload =
        swapWords (Hex.decode r.prova))
    (init : State) :
    payload = Forro.forroWords init ↔
      Hex.encode (Forro.forro init) =
        r.prova.map Char.toLower := by
  have hLower :=
    Hex.encode_decode 64 r.prova r.hexProva r.lengthProva
  rw [← hLower, Hex.encode_inj]
  constructor
  · intro hSame
    rw [hSame, ← Tna.swapWords_forro] at hPayload
    rw [← Bytes.swapWords_swapWords (Forro.forro init),
      hPayload, Bytes.swapWords_swapWords]
  · intro hSame
    rw [← hSame, Tna.swapWords_forro] at hPayload
    exact Tna.forroStateT.encode_injective hPayload

/-
  The program prints the two proofs of a record with the same
  digits exactly when the switch accepts the frame that is
  sent for the record.
-/
theorem conferencia_iff_aceita
    {memoria : Nat → ForroArgsDra.Memoria}
    (hMemoria : ∀ i, (memoria i).Limpa)
    {configuracao : Vector Byte 32}
    (hConfiguracao :
      ∀ i, (memoria i).configuracao = configuracao)
    {idRodada nonce : List Char}
    (hRodada : Rodada idRodada nonce)
    {registros : List Registro}
    (hArquivo : ArquivoValido registros) :
    ∃ verificacao : Nat → List Char,
      main memoria (registros.map Registro.texto) idRodada
            nonce =
          (registros.zipIdx.flatMap
              (fun r => conferencia r.1.prova (verificacao r.2)),
            []) ∧
        ∀ quantidade k r,
          quantidade ≤ linhas → k < quantidade →
            registros[k]? = some r →
              ∃ frames frame,
                EnviaProvasArquivo.main
                      (registros.map Registro.texto)
                      (idRodada ++ nonce) quantidade =
                    some frames ∧
                  frames[k]? = some frame ∧
                  (Tna.Aceita
                      (Tna.setup
                        (Tna.configuracaoDaMedida
                          configuracao.toList).toNat
                        (registros.map Registro.texto)).calls
                      frame ↔
                    verificacao k =
                      r.prova.map Char.toLower) := by
  refine
    ⟨fun i =>
        registros[i]?.elim []
          (fun r => verificacaoDe (memoria i) idRodada nonce r),
      ?_, ?_⟩
  · rw [main_registros hMemoria hRodada]
    refine congrArg (fun texto => (texto, [])) ?_
    apply List.flatMap_congr
    rintro ⟨r, i⟩ hMem
    have hIn := List.mem_zipIdx_iff_getElem?.mp hMem
    dsimp only at hIn ⊢
    rw [hIn, Option.elim_some]
  · intro quantidade k r hQuantidade hk hRegistro
    have hRoom :
        (registros.map Registro.texto).length ≤ idMax := by
      have hMax : Tna.quantidadeDispositivos ≤ idMax := by
        decide
      rw [List.length_map]
      exact hArquivo.quantidade.trans hMax
    rcases exists_frame (idRodada ++ nonce) hRoom hQuantidade
        hk with
      ⟨frames, hMain, hFrame⟩
    rcases exists_quadroResposta hRodada r k with
      ⟨c, payload, hDoRegistro, hFirst, hSecond, hPayload,
        hQuadro⟩
    rw [row_registros_eq hRegistro, hQuadro] at hFrame
    have hEstado :=
      estadoDoRegistro_eq (memoria k) hDoRegistro hFirst hSecond
    have hConf :
        (Tna.configuracaoDaMedida configuracao.toList).toNat <
          2 ^ 256 :=
      BitVec.isLt _
    have hAceita :=
      Tna.aceita_registro hConf hArquivo
        (List.mem_of_getElem? hRegistro) hDoRegistro payload []
    rw [BitVec.ofNat_toNat, BitVec.setWidth_eq] at hAceita
    rw [hConfiguracao k] at hEstado
    refine ⟨frames, _, hMain, hFrame, hAceita.trans ?_⟩
    dsimp only
    rw [hRegistro, Option.elim_some, verificacaoDe, hEstado]
    exact payload_eq_iff hPayload _

/- The round of the examples of the repository. -/
theorem rodada_exemplo :
    Rodada "3132333435363738".toList
      "3132333435363738".toList := by
  refine ⟨?_, ?_, rfl, rfl⟩ <;> decide

theorem conferencia_iff_aceita_exemplo :
    ∃ verificacao : List Char,
      main (fun _ => ForroArgsDra.memoriaZero)
            [registroExemplo.texto] "3132333435363738".toList
            "3132333435363738".toList =
          (conferencia registroExemplo.prova verificacao, []) ∧
        ∃ frames frame,
          EnviaProvasArquivo.main [registroExemplo.texto]
                ("3132333435363738".toList ++
                  "3132333435363738".toList) 1 =
              some frames ∧
            frames[0]? = some frame ∧
            (Tna.Aceita
                (Tna.setup
                  (Tna.configuracaoDaMedida
                    (Vector.replicate 32
                      (0 : Byte)).toList).toNat
                  [registroExemplo.texto]).calls
                frame ↔
              verificacao =
                registroExemplo.prova.map Char.toLower) := by
  rcases conferencia_iff_aceita
      (fun _ => ForroArgsDra.limpa_memoriaZero)
      (fun _ => rfl) rodada_exemplo arquivoValido_exemplo with
    ⟨verificacao, hMain, hFrames⟩
  refine
    ⟨verificacao 0, hMain.trans ?_,
      hFrames 1 0 registroExemplo (by decide) (by decide) rfl⟩
  exact congrArg (fun texto => (texto, [])) (List.append_nil _)

end LeProvasArquivo

end Tools

end P4dra
