import P4dra.Tools.VerificaRede

/-
  The verification frame of `verifica_p4dra_rede`.

  The handler cuts `id_rodada` of a Reply in two, calls the
  proof program, and returns the frame that the switch would
  emit for the Reply, with the computed proof as the cipher.

  Main declarations:
    * `main_palavrasVerificacao`
    * `pacoteVerificacao_resposta`
    * `verificadores_agree`
-/

------------------------------------------------------------
-- Command Lines
------------------------------------------------------------

namespace P4dra

open Bytes (Byte slice swapWords)
open Tna (Cabecalho Frame quadroResposta quadroCifra)

namespace Tools

namespace VerificaRede

/- The words of the command for a frame with these fields. -/
def palavrasVerificacao
    (chave configuracao : List Char)
    (c : Cabecalho) : List (List Char) :=
  ["forro-args-dra2".toList, chave,
    slice 16 16 (digitosTrocados c.bytesIdRodada),
    slice 0 16 (digitosTrocados c.bytesIdRodada),
    digitosTrocados c.bytesIdDispositivo, configuracao]

theorem palavrasDoShell_comando
    {chave configuracao : List Char}
    (hChave : Hex.IsHex chave)
    (hLengthChave : chave.length = 64)
    (hConfiguracao : Hex.IsHex configuracao)
    (hNonempty : configuracao ≠ [])
    (hLengthConfiguracao : configuracao.length ≤ 64)
    (c : Cabecalho) :
    palavrasDoShell
        (comando chave
          (slice 16 16 (digitosTrocados c.bytesIdRodada))
          (slice 0 16 (digitosTrocados c.bytesIdRodada))
          (digitosTrocados c.bytesIdDispositivo)
          configuracao) =
      palavrasVerificacao chave configuracao c := by
  have hRodada := isHex_digitosTrocados c.bytesIdRodada
  have hLengthRodada :
      (digitosTrocados c.bytesIdRodada).length = 32 := by
    rw [length_digitosTrocados, Tna.length_bytesIdRodada]
  have hId := isHex_digitosTrocados c.bytesIdDispositivo
  have hLengthId :
      (digitosTrocados c.bytesIdDispositivo).length = 32 := by
    rw [length_digitosTrocados, Tna.length_bytesIdDispositivo]
  have hNonce := Hex.isHex_slice 16 16 hRodada
  have hMetade := Hex.isHex_slice 0 16 hRodada
  have hLengthNonce :
      (slice 16 16 (digitosTrocados c.bytesIdRodada)).length =
        16 :=
    Bytes.length_slice (by omega)
  have hLengthMetade :
      (slice 0 16 (digitosTrocados c.bytesIdRodada)).length =
        16 :=
    Bytes.length_slice (by omega)
  rw [palavrasVerificacao]
  generalize
    slice 16 16 (digitosTrocados c.bytesIdRodada) = nonce at *
  generalize
    slice 0 16 (digitosTrocados c.bytesIdRodada) = rodada at *
  generalize digitosTrocados c.bytesIdDispositivo = id at *
  have hComando :
      comando chave nonce rodada id configuracao =
        [' '].intercalate
          (["forro-args-dra2".toList] ++
            [chave, nonce, rodada, id, configuracao]) := by
    rw [comando, chaveLen, nonceLen, idDispositivoLen,
      precisao_of_isHex hChave hLengthChave,
      precisao_of_isHex hNonce hLengthNonce,
      precisao_of_isHex hMetade hLengthMetade,
      precisao_of_isHex hId hLengthId, List.take_of_length_le]
    · simp [List.intercalate]
    · simp
      omega
  rw [hComando]
  apply palavrasDoShell_digitos (by simp) (by decide)
  intro palavra hMem
  simp only [List.mem_cons, List.not_mem_nil, or_false] at hMem
  rcases hMem with hEq | hEq | hEq | hEq | hEq
  · rw [hEq]
    exact ⟨List.ne_nil_of_length_pos (by omega), hChave⟩
  · rw [hEq]
    exact ⟨List.ne_nil_of_length_pos (by omega), hNonce⟩
  · rw [hEq]
    exact ⟨List.ne_nil_of_length_pos (by omega), hMetade⟩
  · rw [hEq]
    exact ⟨List.ne_nil_of_length_pos (by omega), hId⟩
  · rw [hEq]
    exact ⟨hNonempty, hConfiguracao⟩

theorem argumentos_palavrasVerificacao
    {chave : List Char}
    (hChave : Hex.IsHex chave)
    (hLengthChave : chave.length = 64)
    (configuracao : List Char)
    (c : Cabecalho) :
    ForroArgsDra.Argumentos
      (palavrasVerificacao chave configuracao c) chave
      (slice 16 16 (digitosTrocados c.bytesIdRodada))
      (slice 0 16 (digitosTrocados c.bytesIdRodada))
      (digitosTrocados c.bytesIdDispositivo) where
  argv1 := rfl
  argv2 := rfl
  argv3 := rfl
  argv4 := rfl
  hexChave := hChave
  hexNonce := Hex.isHex_slice _ _ (isHex_digitosTrocados _)
  hexIdRodada := Hex.isHex_slice _ _ (isHex_digitosTrocados _)
  hexIdDispositivo := isHex_digitosTrocados _
  lengthChave := hLengthChave
  lengthNonce := by
    apply Bytes.length_slice
    rw [length_digitosTrocados, Tna.length_bytesIdRodada]
  lengthIdRodada := by
    apply Bytes.length_slice
    rw [length_digitosTrocados, Tna.length_bytesIdRodada]
    decide
  lengthIdDispositivo := by
    rw [length_digitosTrocados, Tna.length_bytesIdDispositivo]

/- The state from the arguments is the state of the switch. -/
theorem estadoProva_palavrasVerificacao
    (input : State)
    (chave : List Byte)
    {configuracao : List Byte}
    (hConfiguracao : configuracao.length = 32)
    (c : Cabecalho) :
    Forro.estadoProva input chave
        (Hex.decode
          (slice 0 16 (digitosTrocados c.bytesIdRodada)))
        (Hex.decode
          (slice 16 16 (digitosTrocados c.bytesIdRodada)))
        (Hex.decode (digitosTrocados c.bytesIdDispositivo))
        configuracao =
      Tna.estadoForro chave
        (Tna.configuracaoDaMedida configuracao) c := by
  have hRodada :
      Hex.decode (digitosTrocados c.bytesIdRodada) =
        swapWords c.bytesIdRodada :=
    decode_digitosTrocados (k := 4) (Tna.length_bytesIdRodada c)
  have hId :
      Hex.decode (digitosTrocados c.bytesIdDispositivo) =
        swapWords c.bytesIdDispositivo :=
    decode_digitosTrocados (k := 4)
      (Tna.length_bytesIdDispositivo c)
  have hLength := Tna.length_bytesIdRodada c
  have hFirst :
      Hex.decode
          (slice 0 16 (digitosTrocados c.bytesIdRodada)) =
        swapWords (slice 0 8 c.bytesIdRodada) := by
    have hDecode :=
      Hex.decode_slice 0 8 (digitosTrocados c.bytesIdRodada)
    rw [hRodada] at hDecode
    exact hDecode.trans
      (Bytes.slice_swapWords (k := 0) (m := 2) (by omega))
  have hSecond :
      Hex.decode
          (slice 16 16 (digitosTrocados c.bytesIdRodada)) =
        swapWords (slice 8 8 c.bytesIdRodada) := by
    have hDecode :=
      Hex.decode_slice 8 8 (digitosTrocados c.bytesIdRodada)
    rw [hRodada] at hDecode
    exact hDecode.trans
      (Bytes.slice_swapWords (k := 2) (m := 2) (by omega))
  rw [hFirst, hSecond, hId,
    Tna.estadoProva_campos input chave hConfiguracao c]

/- The proof program on the command of the handler. -/
theorem main_palavrasVerificacao
    {memoria : ForroArgsDra.Memoria}
    (hMemoria : memoria.Limpa)
    {chave configuracao : List Char}
    (hChave : Hex.IsHex chave)
    (hLengthChave : chave.length = 64)
    (hConfiguracao : Hex.IsHex configuracao)
    (hLengthConfiguracao : configuracao.length = 64)
    (c : Cabecalho) :
    ForroArgsDra.main memoria
        (palavrasVerificacao chave configuracao c) =
      some
        (Hex.encode
          (Forro.forro
            (Tna.estadoForro (Hex.decode chave)
              (Tna.configuracaoDaMedida
                (Hex.decode configuracao)) c))) := by
  rw [ForroArgsDra.main_of_configuracao hMemoria
      (argumentos_palavrasVerificacao hChave hLengthChave
        configuracao c) rfl hConfiguracao hLengthConfiguracao,
    estadoProva_palavrasVerificacao _ _
      (by rw [Hex.length_decode, hLengthConfiguracao])]

------------------------------------------------------------
-- The Frame That Is Sent
------------------------------------------------------------

/- The frame for fields that were read from a frame. -/
theorem enviaPacoteVerificacao_eq
    (destMac srcMac : List Byte)
    {idRodada idDispositivo prova : List Byte}
    {digitos : List Char}
    (resto : List Char)
    (hIdRodada : idRodada.length = 16)
    (hIdDispositivo : idDispositivo.length = 16)
    (hProva : prova.length = 64)
    (hHex : Hex.IsHex digitos)
    (hDigitos : digitos.length = provaLen) :
    enviaPacoteVerificacao destMac srcMac
        (digitosTrocados idRodada)
        (digitosTrocados idDispositivo) (digitosTrocados prova)
        (digitos ++ resto) =
      some
        (criaPacoteVerificacao srcMac destMac [0x4] idRodada
          idDispositivo (swapWords (Hex.decode digitos))
          prova) := by
  rcases hexstringToByteArray_digitosTrocados
      (Vector.replicate 16 0) hIdRodada with
    ⟨rodada, hRodada, hRodadaBytes⟩
  rcases hexstringToByteArray_digitosTrocados
      (Vector.replicate 16 0) hIdDispositivo with
    ⟨id, hId, hIdBytes⟩
  rcases hexstringToByteArray_digitosTrocados
      (Vector.replicate 64 0) hProva with
    ⟨lida, hLida, hLidaBytes⟩
  have hCopy :
      memcpy (digitosTrocados idDispositivo) 32 =
        digitosTrocados idDispositivo :=
    List.take_of_length_le
      (by rw [length_digitosTrocados, hIdDispositivo])
  have hSwap :
      swapEndian (digitos ++ resto) provaLen =
        Hex.swapDigits digitos ++ resto :=
    swapEndian_append resto hDigitos
  rcases hexstringToByteArray_of_isHex
      (Vector.replicate 64 0) (Hex.isHex_swapDigits hHex)
      (by rw [Hex.length_swapDigits, hDigitos]; rfl)
      resto with
    ⟨calculada, hCalculada, hCalculadaBytes⟩
  rw [Hex.decode_swapDigits 16 _ hDigitos] at hCalculadaBytes
  unfold enviaPacoteVerificacao
  dsimp only [Option.bind_eq_bind, idRodadaLen,
    idDispositivoLen]
  rw [hSwap, hCopy, hRodada, Option.bind_some, hId,
    Option.bind_some, provaLen, hLida, Option.bind_some,
    hCalculada, Option.bind_some, hRodadaBytes, hIdBytes,
    hLidaBytes, hCalculadaBytes]

/-
  A Reply is answered with the frame of the switch, whose
  cipher is the output of the proof program.
-/
theorem pacoteVerificacao_resposta
    {memoria : ForroArgsDra.Memoria}
    (heap : List Char)
    (c : Cabecalho)
    (payload init : State)
    (rest : List Byte)
    {chave configuracao : List Char}
    (hChave : Hex.IsHex chave)
    (hLengthChave : chave.length = 64)
    (hConfiguracao : Hex.IsHex configuracao)
    (hNonempty : configuracao ≠ [])
    (hLengthConfiguracao : configuracao.length ≤ 64)
    (hMain :
      ForroArgsDra.main memoria
          (palavrasVerificacao chave configuracao c) =
        some (Hex.encode (Forro.forro init))) :
    pacoteVerificacao memoria heap
        (quadroResposta c payload rest) chave configuracao =
      some
        (quadroCifra (trocado c) (Forro.forroWords init)
          payload []) := by
  have hLength := Forro.length_forro init
  have hSaida : Hex.encode (Forro.forro init) ≠ [] := by
    intro hNil
    have hZero := congrArg List.length hNil
    rw [Hex.length_encode, hLength] at hZero
    cases hZero
  rcases getline_of_isHex heap
      (Hex.isHex_encode (Forro.forro init)) hSaida with
    ⟨resto, hLinha⟩
  have hState : (Tna.forroStateT.encode payload).length = 64 :=
    Tna.forroStateT.length_encode payload
  have hFrame := quadroResposta_eq c payload rest
  have hRodada :
      swapEndian
          (byteArrayToHexstring
            (operHdrIdRodada (quadroResposta c payload rest)))
          idRodadaLen =
        digitosTrocados c.bytesIdRodada := by
    rw [hFrame, operHdrIdRodada_quadroSemId,
      swapEndian_byteArrayToHexstring]
    rw [Tna.length_bytesIdRodada]
    rfl
  have hId :
      swapEndian
          (byteArrayToHexstring
            (replyIdDispositivo
              (quadroResposta c payload rest)))
          idDispositivoLen =
        digitosTrocados c.bytesIdDispositivo := by
    rw [replyIdDispositivo_quadroResposta,
      swapEndian_byteArrayToHexstring]
    rw [Tna.length_bytesIdDispositivo]
    rfl
  have hProva :
      swapEndian
          (byteArrayToHexstring
            (replyProva (quadroResposta c payload rest)))
          provaLen =
        digitosTrocados (Tna.forroStateT.encode payload) := by
    rw [replyProva_quadroResposta,
      swapEndian_byteArrayToHexstring]
    rw [hState]
    rfl
  unfold pacoteVerificacao
  dsimp only
  rw [hRodada, hId, hProva, nonceLen,
    palavrasDoShell_comando hChave hLengthChave hConfiguracao
      hNonempty hLengthConfiguracao c, hMain, Option.getD_some,
    hLinha,
    enviaPacoteVerificacao_eq _ _ _
      (Tna.length_bytesIdRodada c)
      (Tna.length_bytesIdDispositivo c) hState
      (Hex.isHex_encode (Forro.forro init))
      (by rw [Hex.length_encode, hLength]; rfl),
    Hex.decode_encode, Tna.swapWords_forro, hFrame, etherDhost_quadroSemId,
    etherShost_quadroSemId]
  have hSent :
      quadroCifra (trocado c) (Forro.forroWords init) payload
          [] =
        Tna.quadroSemId (trocado c) 0x4
          (c.bytesIdDispositivo ++
            (Tna.forroStateT.encode (Forro.forroWords init) ++
              (Tna.forroStateT.encode payload ++ []))) := rfl
  rw [hSent, quadroSemId_eq, List.append_nil]
  rfl

------------------------------------------------------------
-- Two Verifiers
------------------------------------------------------------

/- A configuration given in digits, as the script takes it. -/
def confIniDaMedida (configuracao : List Char) : Nat :=
  (Tna.configuracaoDaMedida (Hex.decode configuracao)).toNat

/- The digits of an output, converted as for a frame. -/
theorem length_encode_forro
    (init : State) :
    (Hex.encode (Forro.forro init)).length = provaLen := by
  rw [Hex.length_encode, Forro.length_forro]
  rfl

theorem decode_swapEndian_forro
    (init : State) :
    Hex.decode
        (swapEndian (Hex.encode (Forro.forro init)) provaLen) =
      Tna.forroStateT.encode (Forro.forroWords init) := by
  have hLength := length_encode_forro init
  rw [swapEndian_of_length hLength,
    Hex.decode_swapDigits 16 _ hLength, Hex.decode_encode,
    Tna.swapWords_forro]

theorem ofNat_confIniDaMedida
    (configuracao : List Char) :
    BitVec.ofNat 256 (confIniDaMedida configuracao) =
      Tna.configuracaoDaMedida (Hex.decode configuracao) := by
  rw [confIniDaMedida, BitVec.ofNat_toNat, BitVec.setWidth_eq]

/-
  For one key, identifier and configuration the x86 verifier
  computes the cipher of the switch, and its frame shows two
  equal proofs exactly when the switch accepts the Reply.
-/
theorem verificadores_agree
    {memoria : ForroArgsDra.Memoria}
    (hMemoria : memoria.Limpa)
    (heap : List Char)
    {configuracao : List Char}
    (hHex : Hex.IsHex configuracao)
    (hLength : configuracao.length = 64)
    {registros : List Registro}
    (hArquivo : ArquivoValido registros)
    {r : Registro}
    (hMem : r ∈ registros)
    {c : Cabecalho}
    (hDoRegistro : c.DoRegistro r)
    (payload : State)
    (rest : List Byte)
    {calls : List Tna.BfrtCall}
    (hCalls :
      calls =
        (Tna.setup (confIniDaMedida configuracao)
          (registros.map Registro.texto)).calls) :
    ∃ saida verificacao,
      ForroArgsDra.main memoria
            (palavrasVerificacao r.chave configuracao c) =
          some saida ∧
        saida.length = 128 ∧
        (Recirculation.advance (Tna.travessia calls) 29
              (quadroResposta c payload rest)).bind
            (Tna.cifraAposFinalizar calls) =
          some verificacao ∧
        Hex.decode (swapEndian saida provaLen) =
          Tna.forroStateT.encode verificacao ∧
        pacoteVerificacao memoria heap
            (quadroResposta c payload rest) r.chave
            configuracao =
          some
            (quadroCifra (trocado c) verificacao payload []) ∧
        (verificacao = payload ↔
          Tna.Aceita calls (quadroResposta c payload rest)) := by
  have hConf : confIniDaMedida configuracao < 2 ^ 256 :=
    BitVec.isLt _
  have hMain :=
    main_palavrasVerificacao hMemoria r.hexChave r.lengthChave
      hHex hLength c
  have hCifra :=
    Tna.cifraAposFinalizar_registro hConf hArquivo hMem
      hDoRegistro payload rest hCalls
  have hAceita :=
    Tna.aceita_registro hConf hArquivo hMem hDoRegistro payload
      rest
  rw [ofNat_confIniDaMedida, Registro.bytesChave]
    at hCifra hAceita
  rw [← hCalls] at hAceita
  generalize
    Tna.estadoForro (Hex.decode r.chave)
      (Tna.configuracaoDaMedida (Hex.decode configuracao)) c =
        init at hMain hCifra hAceita
  have hNonempty : configuracao ≠ [] := by
    intro hNil
    rw [hNil] at hLength
    cases hLength
  exact
    ⟨_, _, hMain, length_encode_forro init, hCifra,
      decode_swapEndian_forro init,
      pacoteVerificacao_resposta heap c payload init rest
        r.hexChave r.lengthChave hHex hNonempty
        (le_of_eq hLength) hMain,
      eq_comm.trans hAceita.symm⟩

/- A configuration that is not symmetric under the swap. -/
def configuracaoExemplo : List Char :=
  Hex.encode (List.ofFn (fun i : Fin 32 => BitVec.ofNat 8 i))

theorem verificadores_agree_exemplo :
    ∃ saida verificacao,
      ForroArgsDra.main ForroArgsDra.memoriaZero
            (palavrasVerificacao registroExemplo.chave
              configuracaoExemplo Tna.cabecalhoDaLinha) =
          some saida ∧
        Hex.decode (swapEndian saida provaLen) =
          Tna.forroStateT.encode verificacao := by
  have hHex : Hex.IsHex configuracaoExemplo := by
    decide +kernel
  have hDoRegistro :
      Tna.cabecalhoDaLinha.DoRegistro registroExemplo := by
    decide +kernel
  rcases verificadores_agree ForroArgsDra.limpa_memoriaZero []
      hHex (by decide +kernel) arquivoValido_exemplo
      (List.mem_singleton.mpr rfl) hDoRegistro
      Tna.zeroState [] rfl with
    ⟨saida, verificacao, hMain, _, _, hDecode, _⟩
  exact ⟨saida, verificacao, hMain, hDecode⟩

end VerificaRede

end Tools

end P4dra
