import P4dra.Optee.Proofs
import P4dra.Tna.RoundTrip

/-
  A round with an honest device.

  A device that a Setup provisioned with a record answers the
  Request that the switch makes of a Start, and the switch,
  programmed from a file with the record and the measurement
  zero, takes the answer for the proof of the record. Every
  program swaps the words of the fields that it passes on.

  Main declarations:
    * `start_of_main`, `processar_start`
    * `rodada_honesta`
-/

------------------------------------------------------------
-- Start And Request
------------------------------------------------------------

namespace P4dra

open Bytes (Byte slice swapWords)
open Tna (Cabecalho Frame quadroSemId quadroResposta quadroCifra
  processar portaCliente portaCPU)
open Tools
open Transition (exec)

namespace Optee

namespace Service

/- The frames of `envia_pedidos` for a round in digits. -/
theorem start_of_main
    {idRodada apos : List Char}
    {quantidade : Nat}
    {frames : List Frame}
    {start : Frame}
    (hHex : Hex.IsHex idRodada)
    (hLength : idRodada.length = 32)
    (hMain :
      EnviaPedidos.main (idRodada ++ apos) quantidade =
        some frames)
    (hMem : start ∈ frames) :
    ∃ c : Cabecalho,
      start = quadroSemId c 0x0 [] ∧
        c.bytesIdRodada = swapWords (Hex.decode idRodada) := by
  rcases EnviaPedidos.pacoteDe_of_main hMain hMem with
    ⟨id, hFrame⟩
  have hBytes :
      bytesDeDigitos 16
          (swapEndian (idRodada ++ apos) idRodadaLen) =
        swapWords (Hex.decode idRodada) := by
    rw [idRodadaLen, swapEndian_append apos hLength,
      bytesDeDigitos_of_isHex (Hex.isHex_swapDigits hHex)
        (by rw [Hex.length_swapDigits, hLength]) apos,
      Hex.decode_swapDigits 4 _ (by omega)]
  have hRodada :
      (swapWords (Hex.decode idRodada)).length = 16 := by
    rw [Bytes.length_swapWords, Hex.length_decode, hLength]
  have hDst : (EnviaPedidos.destMac id).length = 6 := rfl
  have hSrc : macControlador.length = 6 := rfl
  rcases exists_cabecalho hDst hSrc hRodada with
    ⟨c, hCDst, hCSrc, hCRodada⟩
  refine ⟨c, ?_, hCRodada⟩
  rw [hFrame, hBytes, quadroSemId_eq, hCDst, hCSrc, hCRodada,
    List.append_nil, pacoteDe]

/- The switch turns a Start into a Request. -/
theorem processar_start
    {confIni : Nat}
    (hConf : confIni < 2 ^ 256)
    {registros : List Registro}
    (hArquivo : ArquivoValido registros)
    (c : Cabecalho)
    (corpo : List Byte)
    {fuel : Nat}
    (hFuel : 1 ≤ fuel) :
    processar
        (Tna.setup confIni (registros.map Registro.texto)).calls
        fuel (quadroSemId c 0x0 corpo) =
      some
        (.emitido portaCliente (quadroSemId c 0x1 corpo)) := by
  rcases Tna.setup_registros hConf hArquivo with
    ⟨dispositivos, _, hSetup⟩
  have hSemId : ¬ Tna.ComId 0x0 := by
    unfold Tna.ComId
    decide
  have hStep :=
    Tna.travessia_semId dispositivos c corpo hSemId
  rw [hSetup]
  exact Recirculation.run_mono
    (Recirculation.run_done 0 hStep) hFuel

/- A Request is captured with the memory after it. -/
theorem quadroSemId_append
    (c : Cabecalho)
    (oper : BitVec 8)
    (corpo resto : List Byte) :
    quadroSemId c oper corpo ++ resto =
      quadroSemId c oper (corpo ++ resto) := by
  rw [quadroSemId, quadroSemId, List.append_assoc,
    List.append_assoc]

------------------------------------------------------------
-- A Round
------------------------------------------------------------

/- The switch takes the Reply to its Request for a proof. -/
theorem processar_reply
    {registros : List Registro}
    (hArquivo : ArquivoValido registros)
    {r : Registro}
    (hMem : r ∈ registros)
    (c : Cabecalho)
    {fuel : Nat}
    (hFuel : 30 ≤ fuel) :
    processar
        (Tna.setup 0 (registros.map Registro.texto)).calls fuel
        (quadroResposta (cabecalhoReply c r)
          (provaEsperada c r) []) =
      some
        (.emitido portaCPU
          (quadroCifra (cabecalhoReply c r)
            (provaEsperada c r) (provaEsperada c r) [])) := by
  have hConf : 0 < 2 ^ 256 := by decide
  have hRun :=
    Tna.processar_registro hConf hArquivo hMem
      (cabecalhoReply_doRegistro c r) (provaEsperada c r) []
      hFuel
  have hSame :
      provaEsperada c r =
        Forro.forroWords
          (Tna.estadoForro r.bytesChave (BitVec.ofNat 256 0)
            (cabecalhoReply c r)) := rfl
  rw [if_pos hSame] at hRun
  exact hRun

/-
  Provisioning, Start, Request, Reply and acceptance, one
  after the other: the round and the identifier come back as
  they were sent, with equal cipher and payload.
-/
theorem rodada_honesta
    {noArquivo naSwitch : List Registro}
    (hArquivo : ArquivoValido naSwitch)
    {k : Nat}
    {r : Registro}
    (hRegistro : noArquivo[k]? = some r)
    (hMem : r ∈ naSwitch)
    {quantidade : Nat}
    {framesSetup : List Frame}
    {frameSetup : Frame}
    (hFramesSetup :
      EnviaSetupHostArquivo.main
          (carregarArquivoMemoria
            (noArquivo.map Registro.texto)) quantidade =
        some framesSetup)
    (hFrameSetup : framesSetup[k]? = some frameSetup)
    {captura : Captura}
    {resto : List Byte}
    (hCaptura : captura.packet = frameSetup ++ resto)
    {ambSetup : Ambiente}
    {estado : Estado}
    (hAtivo : estado.ativo = true)
    (hPopen : ambSetup.popen = true)
    (hSessao : ambSetup.processo.sessaoAberta = true)
    {idRodada apos : List Char}
    (hHex : Hex.IsHex idRodada)
    (hLength : idRodada.length = 32)
    {quantidadePedidos : Nat}
    {framesStart : List Frame}
    {start : Frame}
    (hFramesStart :
      EnviaPedidos.main (idRodada ++ apos) quantidadePedidos =
        some framesStart)
    (hStart : start ∈ framesStart) :
    ∃ (provisionado : Estado) (pedido : Frame),
      (∃ steps,
        exec tratar estado
            (eventosSetup ambSetup captura
              estado.filhos.length) =
          some (provisionado, steps)) ∧
      (∀ fuel, 1 ≤ fuel →
        processar
            (Tna.setup 0 (naSwitch.map Registro.texto)).calls
            fuel start =
          some (.emitido portaCliente pedido)) ∧
      operHdrOper pedido = [0x1] ∧
      operHdrIdRodada pedido =
        swapWords (Hex.decode idRodada) ∧
      ∀ (capturaPedido : Captura) (restoPedido : List Byte)
          (amb : Ambiente),
        capturaPedido.packet = pedido ++ restoPedido →
        amb.popen = true →
        amb.socket = true →
        amb.sendto = true →
        amb.processo.Honesto →
        ∃ (resposta : Ta.Resposta) (reply : Frame)
            (c : Cabecalho) (payload : State),
          tratar provisionado (.captura amb capturaPedido) =
              some
                (provisionado, ⟨some resposta, some reply⟩) ∧
            operHdrOper reply = [0x2] ∧
            operHdrIdRodada reply = operHdrIdRodada pedido ∧
            replyIdDispositivo reply = swapWords r.bytesId ∧
            (∀ fuel, 30 ≤ fuel →
              processar
                  (Tna.setup 0
                    (naSwitch.map Registro.texto)).calls fuel
                  reply =
                some
                  (.emitido portaCPU
                    (quadroCifra c payload payload []))) ∧
            c.bytesIdRodada = operHdrIdRodada pedido ∧
            c.bytesIdDispositivo = swapWords r.bytesId := by
  have hQuadro :=
    EnviaSetupHostArquivo.quadroSetup_of_main hFramesSetup
      hFrameSetup
  rw [hQuadro] at hCaptura
  rcases provisionado_of_quadroSetup hRegistro hCaptura hAtivo
      hPopen hSessao with
    ⟨provisionado, steps, hRun, hProvisionado⟩
  rcases start_of_main hHex hLength hFramesStart hStart with
    ⟨c, hFrame, hRodada⟩
  subst hFrame
  refine ⟨provisionado, quadroSemId c 0x1 [], ⟨steps, hRun⟩,
    ?_, operHdrOper_quadroSemId c 0x1 [], ?_, ?_⟩
  · intro fuel hFuel
    exact processar_start (by decide) hArquivo c [] hFuel
  · rw [operHdrIdRodada_quadroSemId, hRodada]
  · intro capturaPedido restoPedido amb hPacket hPopen' hSocket
      hSendto hHonesto
    rw [quadroSemId_append, List.nil_append] at hPacket
    have hTratar :=
      tratar_pedido_provisionado hProvisionado hPopen' hSocket
        hSendto hHonesto hPacket
    have hReplyRodada :
        operHdrIdRodada
            (quadroResposta (cabecalhoReply c r)
              (provaEsperada c r) []) =
          c.bytesIdRodada := by
      rw [quadroResposta_eq, operHdrIdRodada_quadroSemId]
      rfl
    refine ⟨_, _, cabecalhoReply c r, provaEsperada c r,
      hTratar, ?_, ?_, ?_, ?_, ?_, cabecalhoReply_doRegistro c r⟩
    · rw [quadroResposta_eq, operHdrOper_quadroSemId]
    · rw [hReplyRodada, operHdrIdRodada_quadroSemId]
    · rw [replyIdDispositivo_quadroResposta]
      exact cabecalhoReply_doRegistro c r
    · intro fuel hFuel
      exact processar_reply hArquivo hMem c hFuel
    · rw [operHdrIdRodada_quadroSemId]
      rfl

/- The calls of the sample environment all succeed. -/
theorem honesto_processoZero : processoZero.Honesto where
  sessao := by decide
  invoke := rfl
  alocado := rfl
  aberto := rfl
  informado := rfl
  lido := rfl
  inteiro := rfl
  ta := ⟨rfl, rfl⟩
  aposIdRodada := rfl
  aposNonce := rfl
  aposParam0 := rfl
  aposParam1 := rfl

/- A round whose two halves differ. -/
def idRodadaExemplo : List Char :=
  "000102030405060708090A0b0C0d0E0f".toList

/- A round of the sample device from Setup to acceptance. -/
theorem rodada_honesta_exemplo :
    ∃ (provisionado : Estado) (pedido : Captura)
        (resposta : Ta.Resposta) (reply : Frame)
        (c : Cabecalho) (payload : State),
      tratar provisionado (.captura ambienteZero pedido) =
          some (provisionado, ⟨some resposta, some reply⟩) ∧
        processar
            (Tna.setup 0
              ([registroExemplo].map Registro.texto)).calls 30
            reply =
          some
            (.emitido portaCPU
              (quadroCifra c payload payload [])) ∧
        c.bytesIdRodada =
          swapWords (Hex.decode idRodadaExemplo) := by
  have hSetup :
      EnviaSetupHostArquivo.main
          (carregarArquivoMemoria
            ([registroExemplo].map Registro.texto)) 1 =
        some [capturaExemplo.packet] :=
    EnviaSetupHostArquivo.main_eq _ 1
  have hStart : ∃ start,
      EnviaPedidos.main (idRodadaExemplo ++ ['\x00']) 1 =
        some [start] := ⟨_, rfl⟩
  rcases hStart with ⟨start, hStart⟩
  have hCaptura :
      capturaExemplo.packet = capturaExemplo.packet ++ [] :=
    (List.append_nil _).symm
  have hAtivo : (estadoInicial .empty).ativo = true := rfl
  have hPopen : ambienteZero.popen = true := rfl
  have hSessao : ambienteZero.processo.sessaoAberta = true := by
    decide
  have hHex : Hex.IsHex idRodadaExemplo := by decide
  have hRegistro :
      [registroExemplo][0]? = some registroExemplo := rfl
  rcases rodada_honesta arquivoValido_exemplo hRegistro
      List.mem_cons_self hSetup rfl hCaptura hAtivo hPopen
      hSessao hHex rfl hStart List.mem_cons_self with
    ⟨provisionado, pedido, _, _, _, hRodada, hPedido⟩
  let captura : Captura :=
    { packet := pedido ++ List.replicate 79 0
      length := by
        rw [List.length_append, List.length_replicate]
        omega }
  rcases hPedido captura _ ambienteZero rfl rfl rfl rfl
      honesto_processoZero with
    ⟨resposta, reply, c, payload, hTratar, _, _, _, hAceita,
      hC, _⟩
  exact
    ⟨provisionado, captura, resposta, reply, c, payload,
      hTratar, hAceita 30 (by omega), hC.trans hRodada⟩

end Service

end Optee

end P4dra
