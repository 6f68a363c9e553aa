import P4dra.Optee.Provisioning

/-
  The answer of a provisioned device to a Request.

  With the secrets of a record in the storage, every call a
  success and every buffer of digits followed by a NUL, the
  trusted application computes the proof of the record, and
  the service sends it in a Reply with the fields of the
  Request and the identifier of the record.

  Main declarations:
    * `Ta.calcularProva_digitos`
    * `Host.Ambiente.Honesto`, `respostaTa_provisionado`
    * `cabecalhoReply`, `tratar_pedido_provisionado`
-/

------------------------------------------------------------
-- Proofs From Digits
------------------------------------------------------------

namespace P4dra

open Bytes (Byte slice swapWords)
open Tna (Cabecalho quadroSemId quadroResposta)
open Tools

namespace Optee

namespace Ta

theorem converter_of_isHex
    {n : Nat}
    (byteArray : Vector Byte n)
    {texto apos : List Char}
    (estouro : Estouro)
    (hHex : Hex.IsHex texto)
    (hLength : texto.length = 2 * n)
    (hApos : apos.head? = some '\x00') :
    ∃ lido : Vector Byte n,
      converter byteArray (texto ++ apos) estouro = .ok lido ∧
        lido.toList = Hex.decode texto := by
  rcases hexstringToByteArrayStrlen_of_isHex byteArray hHex
      hLength hApos with ⟨lido, hLido, hBytes⟩
  refine ⟨lido, ?_, hBytes⟩
  rw [converter, hLido]

/- The memory after the buffers of the secrets. -/
structure Memoria.Limpa (memoria : Memoria) : Prop where
  aposChave : memoria.aposChaveHex.head? = some '\x00'
  aposId : memoria.aposIdDispositivoHex.head? = some '\x00'

/- Parameters that are digits before a NUL, and room. -/
structure Params.Digitos
    (params : Params)
    (idRodadaHex nonceHex : List Char) : Prop where
  hexRodada : Hex.IsHex idRodadaHex
  hexNonce : Hex.IsHex nonceHex
  lengthRodada : idRodadaHex.length = 16
  lengthNonce : nonceHex.length = 16
  rodada : ∃ apos, apos.head? = some '\x00' ∧
    params.idRodadaHex = idRodadaHex ++ apos
  nonce : ∃ apos, apos.head? = some '\x00' ∧
    params.nonceHex = nonceHex ++ apos
  prova : proofSz ≤ params.provaSz

/- The proof for a key, an identifier and a round in digits. -/
theorem calcularProva_digitos
    {memoria : Memoria}
    {params : Params}
    {chaveHex idHex idRodadaHex nonceHex : List Char}
    (hMemoria : memoria.Limpa)
    (hParams : params.Digitos idRodadaHex nonceHex)
    (hHexChave : Hex.IsHex chaveHex)
    (hHexId : Hex.IsHex idHex)
    (hLengthChave : chaveHex.length = 64)
    (hLengthId : idHex.length = 32) :
    calcularProva memoria (chaveHex ++ idHex) params =
      .ok
        (Forro.forro
          (Forro.estadoProva memoria.input
            (Hex.decode chaveHex) (Hex.decode idRodadaHex)
            (Hex.decode nonceHex) (Hex.decode idHex)
            (List.replicate 32 0))) := by
  have hChaveHex :
      slice 0 keySzHex (chaveHex ++ idHex) = chaveHex :=
    Bytes.slice_front idHex hLengthChave
  have hIdHex :
      slice keySzHex idDispositivoSzHex (chaveHex ++ idHex) =
        idHex := by
    have hSlice :=
      Bytes.slice_middle [] hLengthChave hLengthId
    rw [List.append_nil] at hSlice
    exact hSlice
  rcases hParams.rodada with ⟨aposRodada, hNulRodada, hRodada⟩
  rcases hParams.nonce with ⟨aposNonce, hNulNonce, hNonce⟩
  rcases converter_of_isHex (Vector.replicate keySz 0) .chave
      hHexChave hLengthChave hMemoria.aposChave with
    ⟨chave, hChave, hChaveBytes⟩
  rcases converter_of_isHex
      (Vector.replicate idDispositivoSz 0) .idDispositivo
      hHexId hLengthId hMemoria.aposId with
    ⟨id, hId, hIdBytes⟩
  rcases converter_of_isHex (Vector.replicate idRodadaSz 0)
      .idRodada hParams.hexRodada hParams.lengthRodada
      hNulRodada with
    ⟨idRodada, hIdRodada, hIdRodadaBytes⟩
  rcases converter_of_isHex (Vector.replicate nonceSz 0) .nonce
      hParams.hexNonce hParams.lengthNonce hNulNonce with
    ⟨nonce, hNonceLido, hNonceBytes⟩
  unfold calcularProva
  dsimp only [bind, Except.bind]
  rw [hChaveHex, hIdHex, hRodada, hNonce, hChave, hId,
    hIdRodada, hNonceLido]
  dsimp only
  rw [if_pos hParams.prova, hChaveBytes, hIdBytes,
    hIdRodadaBytes, hNonceBytes]
  rfl

end Ta

------------------------------------------------------------
-- Honest Environments
------------------------------------------------------------

namespace Host

/-
  The calls of both programs succeed, the object is read
  whole, and a NUL follows every buffer of digits.
-/
structure Ambiente.Honesto (amb : Ambiente) : Prop where
  sessao : amb.sessaoAberta = true
  invoke : amb.invoke = none
  alocado : amb.tee.objIdAlocado = true
  aberto : amb.tee.openPersistentObject = teeSuccess
  informado : amb.tee.getObjectInfo1 = teeSuccess
  lido : amb.tee.readObjectData = teeSuccess
  inteiro : amb.tee.readBytes = secretsSzHex
  ta : amb.ta.Limpa
  aposIdRodada : amb.aposIdRodada.head? = some '\x00'
  aposNonce : amb.aposNonce.head? = some '\x00'
  aposParam0 : amb.aposParam0.head? = some '\x00'
  aposParam1 : amb.aposParam1.head? = some '\x00'

/- A buffer of digits is passed up to its NUL. -/
theorem take_strlen
    {texto apos : List Char}
    (hHex : Hex.IsHex texto)
    (hApos : apos.head? = some '\x00') :
    (texto ++ apos).take (Hex.strlen (texto ++ apos)) =
      texto := by
  rw [strlen_of_isHex hHex hApos, List.take_left]

end Host

namespace Service

/- The digits of a half of `id_rodada` as it is passed on. -/
theorem decode_metade
    {idRodada : List Byte}
    (hLength : idRodada.length = 16)
    (k : Nat)
    (hk : k ≤ 2) :
    Hex.decode
        (slice (2 * (4 * k)) nonceLen
          (digitosTrocados idRodada)) =
      swapWords (slice (4 * k) 8 idRodada) := by
  have hSlice :=
    Hex.decode_slice (4 * k) 8 (digitosTrocados idRodada)
  have hFour : idRodada.length = 4 * 4 := hLength
  have hInside : 4 * k + 4 * 2 ≤ idRodada.length := by omega
  have hSwap := Bytes.slice_swapWords hInside
  rw [decode_digitosTrocados hFour] at hSlice
  exact hSlice.trans hSwap

/- The trusted application proves with a record's secrets. -/
theorem respostaTa_provisionado
    {amb : Host.Ambiente}
    {storage : Storage}
    {r : Registro}
    {idRodada : List Byte}
    (hHonesto : amb.Honesto)
    (hSecrets :
      storage idObjSecrets =
        some ((r.chave ++ r.idDispositivo).map Char.toLower))
    (hLength : idRodada.length = 16) :
    respostaTa amb storage (digitosTrocados idRodada) =
      .ok
        (some
          ⟨teeSuccess,
            some
              (Forro.forro
                (Forro.estadoProva amb.ta.input r.bytesChave
                  (swapWords (slice 0 8 idRodada))
                  (swapWords (slice 8 8 idRodada)) r.bytesId
                  (List.replicate 32 0)))⟩) := by
  have hDigits : (digitosTrocados idRodada).length = 32 := by
    rw [length_digitosTrocados, hLength]
  have hHex : Hex.IsHex (digitosTrocados idRodada) :=
    isHex_digitosTrocados idRodada
  have hHexRodada := Hex.isHex_slice 0 nonceLen hHex
  have hHexNonce := Hex.isHex_slice nonceLen nonceLen hHex
  have hObject :
      ((r.chave ++ r.idDispositivo).map Char.toLower).length =
        secretsSzHex := by
    rw [List.length_map, List.length_append, r.lengthChave,
      r.lengthId]
    rfl
  have hLegivel :
      Ta.Legivel amb.tee storage idObjSecrets
        ((r.chave ++ r.idDispositivo).map Char.toLower) :=
    { alocado := hHonesto.alocado
      guardado := hSecrets
      aberto := hHonesto.aberto
      informado := hHonesto.informado
      lido := hHonesto.lido
      inteiro := hHonesto.inteiro.trans hObject.symm }
  have hParams :
      Ta.Params.Digitos
        { idRodadaHex :=
            slice 0 nonceLen (digitosTrocados idRodada) ++
              amb.aposParam0
          nonceHex :=
            slice nonceLen nonceLen
                (digitosTrocados idRodada) ++
              amb.aposParam1
          objIdSecrets := idObjSecrets
          provaSz := proofSz }
        (slice 0 nonceLen (digitosTrocados idRodada))
        (slice nonceLen nonceLen
          (digitosTrocados idRodada)) :=
    { hexRodada := hHexRodada
      hexNonce := hHexNonce
      lengthRodada :=
        Bytes.length_slice (by rw [nonceLen]; omega)
      lengthNonce :=
        Bytes.length_slice (by rw [nonceLen]; omega)
      rodada := ⟨_, hHonesto.aposParam0, rfl⟩
      nonce := ⟨_, hHonesto.aposParam1, rfl⟩
      prova := le_refl _ }
  have hProva :=
    Ta.calcularProva_digitos hHonesto.ta hParams
      (Hex.isHex_map_toLower (k := 32) r.hexChave r.lengthChave)
      (Hex.isHex_map_toLower (k := 16) r.hexId r.lengthId)
      (by rw [List.length_map, r.lengthChave])
      (by rw [List.length_map, r.lengthId])
  rw [Hex.decode_map_toLower (k := 32) r.hexChave r.lengthChave,
    Hex.decode_map_toLower (k := 16) r.hexId r.lengthId]
    at hProva
  have hFirst :
      Hex.decode (slice 0 nonceLen (digitosTrocados idRodada)) =
        swapWords (slice 0 8 idRodada) :=
    decode_metade hLength 0 (by omega)
  have hSecond :
      Hex.decode
          (slice nonceLen nonceLen
            (digitosTrocados idRodada)) =
        swapWords (slice 8 8 idRodada) :=
    decode_metade hLength 2 (by omega)
  rw [respostaTa, if_pos hHonesto.sessao, Host.requestProof,
    hHonesto.invoke]
  dsimp only
  rw [Host.take_strlen hHexRodada hHonesto.aposIdRodada,
    Host.take_strlen hHexNonce hHonesto.aposNonce,
    Ta.replyProof_of_legivel amb.ta hLegivel,
    if_pos (le_of_eq hObject), hObject, Nat.sub_self,
    List.replicate_zero, List.append_nil, List.map_append,
    hProva]
  dsimp only
  rw [hFirst, hSecond]
  rfl

------------------------------------------------------------
-- Replies Of A Provisioned Device
------------------------------------------------------------

/- The fields of the Reply to a Request. -/
def cabecalhoReply
    (c : Cabecalho)
    (r : Registro) : Cabecalho :=
  { trocado c with
    idDispositivo :=
      BitVec.ofNat 128 (Bytes.beNat (swapWords r.bytesId)) }

theorem cabecalhoReply_doRegistro
    (c : Cabecalho)
    (r : Registro) :
    (cabecalhoReply c r).DoRegistro r :=
  Tna.doRegistro_of_idDispositivo rfl

/- The proof that the switch expects in that Reply. -/
def provaEsperada
    (c : Cabecalho)
    (r : Registro) : State :=
  Forro.forroWords
    (Tna.estadoForro r.bytesChave 0 (cabecalhoReply c r))

/- What the trusted application answers. -/
def respostaEsperada
    (c : Cabecalho)
    (r : Registro) : Ta.Resposta :=
  ⟨teeSuccess,
    some
      (Forro.forro
        (Tna.estadoForro r.bytesChave 0 (cabecalhoReply c r)))⟩

/- What the service knows of a record, as it stores it. -/
theorem digitosTrocados_swapWords_bytesId
    (r : Registro) :
    digitosTrocados (swapWords r.bytesId) =
      r.idDispositivo.map Char.toLower := by
  have hLength : (swapWords r.bytesId).length = 4 * 4 := by
    rw [Bytes.length_swapWords, r.length_bytesId]
  rw [digitosTrocados, Hex.swapDigits_encode 4 _ hLength,
    Bytes.swapWords_swapWords, Registro.bytesId,
    Hex.encode_decode 16 _ r.hexId r.lengthId]

/- The state over which the device computes its proof. -/
theorem estadoProva_provisionado
    (input : State)
    (c : Cabecalho)
    (r : Registro) :
    Forro.estadoProva input r.bytesChave
        (swapWords (slice 0 8 c.bytesIdRodada))
        (swapWords (slice 8 8 c.bytesIdRodada)) r.bytesId
        (List.replicate 32 0) =
      Tna.estadoForro r.bytesChave 0 (cabecalhoReply c r) := by
  have hLength : (List.replicate 32 (0 : Byte)).length = 32 :=
    List.length_replicate
  have hZero :
      Tna.configuracaoDaMedida (List.replicate 32 0) = 0 := by
    decide +kernel
  have hRodada :
      (cabecalhoReply c r).bytesIdRodada = c.bytesIdRodada :=
    rfl
  have hId :
      (cabecalhoReply c r).bytesIdDispositivo =
        swapWords r.bytesId :=
    cabecalhoReply_doRegistro c r
  have hEstado :=
    Tna.estadoProva_campos input r.bytesChave hLength
      (cabecalhoReply c r)
  rw [hRodada, hId, Bytes.swapWords_swapWords, hZero] at hEstado
  exact hEstado

/- The frame of the service is a Reply of the switch. -/
theorem respostaCom_provisionado
    {captura : Captura}
    {c : Cabecalho}
    {resto : List Byte}
    (hCaptura : captura.packet = quadroSemId c 0x1 resto)
    (r : Registro)
    {provaHex : List Char}
    (hProva :
      provaDaLinha provaHex =
        Tna.forroStateT.encode (provaEsperada c r)) :
    respostaCom captura (swapWords r.bytesId) provaHex =
      quadroResposta (cabecalhoReply c r) (provaEsperada c r)
        [] := by
  have hId :
      (cabecalhoReply c r).bytesIdDispositivo =
        swapWords r.bytesId :=
    cabecalhoReply_doRegistro c r
  rw [respostaCom, createCustomPacket, hProva, hCaptura,
    etherShost_quadroSemId, etherDhost_quadroSemId,
    operHdrIdRodada_quadroSemId, quadroResposta_eq, hId,
    quadroSemId_eq, List.append_nil]
  rfl

/-
  A Request to a provisioned device is answered with the
  proof that the switch expects.
-/
theorem tratar_pedido_provisionado
    {amb : Ambiente}
    {estado : Estado}
    {r : Registro}
    {captura : Captura}
    {c : Cabecalho}
    {resto : List Byte}
    (hProvisionado : Provisionado estado r)
    (hPopen : amb.popen = true)
    (hSocket : amb.socket = true)
    (hSendto : amb.sendto = true)
    (hHonesto : amb.processo.Honesto)
    (hCaptura : captura.packet = quadroSemId c 0x1 resto) :
    tratar estado (.captura amb captura) =
      some
        (estado,
          ⟨some (respostaEsperada c r),
            some
              (quadroResposta (cabecalhoReply c r)
                (provaEsperada c r) [])⟩) := by
  have hType :
      etherType captura.packet = etherTypeCustom := by
    rw [hCaptura, etherType_quadroSemId]
  have hOper : operHdrOper captura.packet = [0x1] := by
    rw [hCaptura, operHdrOper_quadroSemId]
  have hRodada : idRodadaDe captura =
      digitosTrocados c.bytesIdRodada := by
    rw [idRodadaDe, hCaptura, operHdrIdRodada_quadroSemId]
  have hResposta :=
    respostaTa_provisionado hHonesto hProvisionado.secrets
      (Tna.length_bytesIdRodada c)
  rw [estadoProva_provisionado] at hResposta
  have hLength : (swapWords r.bytesId).length = 16 := by
    rw [Bytes.length_swapWords, r.length_bytesId]
  have hGlobal :
      estado.idDispositivoHex =
        some (digitosTrocados (swapWords r.bytesId)) := by
    rw [digitosTrocados_swapWords_bytesId]
    exact hProvisionado.idGlobal
  have hLinha :
      provaDaLinha (linhaLida amb (some (respostaEsperada c r))) =
        Tna.forroStateT.encode (provaEsperada c r) :=
    (provaDaLinha_getline amb.heap (Forro.length_forro _)).trans
      (Tna.swapWords_forro _)
  have hFrame :=
    enviaPacoteResposta_eq captura hLength
      (linhaLida amb (some (respostaEsperada c r)))
  rw [respostaCom_provisionado hCaptura r hLinha, linhaLida]
    at hFrame
  have hApos :
      aposProcesso amb estado captura
          (some (respostaEsperada c r)) =
        some
          (estado,
            ⟨some (respostaEsperada c r),
              some
                (quadroResposta (cabecalhoReply c r)
                  (provaEsperada c r) [])⟩) := by
    rw [aposProcesso, hGlobal]
    dsimp only
    rw [hFrame, Option.bind_some, hSocket, hSendto]
    exact if_pos rfl
  rw [tratar, if_pos hProvisionado.ativo, packetHandler,
    if_pos hType, if_pos hOper, tratarPedido_eq, if_pos hPopen,
    hRodada, hResposta]
  exact hApos

end Service

end Optee

end P4dra
