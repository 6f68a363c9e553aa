import P4dra.Tools.ForroArgsDra
import P4dra.Tools.Processes
import P4dra.Tools.RecordFile
import P4dra.Tools.WireFrames

/-
  The verifier `verifica_p4dra_rede`.

  The handler of a Reply runs the proof program on the key of
  a row of its table and sends the result beside the proof of
  the Reply. `popen` and `sendto` succeed.

  Main declarations:
    * `VerificaRede.comando`, `VerificaRede.packetHandler`
    * `VerificaRede.pacoteVerificacao_resposta`
-/

------------------------------------------------------------
-- The Command
------------------------------------------------------------

namespace P4dra

open Bytes (Byte slice swapWords)
open Tna (Cabecalho Frame quadroResposta quadroCifra)

namespace Tools

namespace VerificaRede

/-
  `snprintf` into `comando`; the handler passes `0` for the
  configuration.
-/
def comando
    (chaveHex param2Hex param1Hex idDispositivoHex
      configuracao : List Char) : List Char :=
  ("forro-args-dra2 ".toList ++ precisao chaveLen chaveHex ++
    ' ' :: precisao nonceLen param2Hex ++
    ' ' :: precisao nonceLen param1Hex ++
    ' ' :: precisao idDispositivoLen idDispositivoHex ++
    ' ' :: configuracao).take 511

------------------------------------------------------------
-- Frames
------------------------------------------------------------

/-
  `cria_pacote_verificacao`, with the fields of `oper_hdr` and
  `verif_hdr` in the order of their structures.
-/
def criaPacoteVerificacao
    (destMac srcMac oper idRodada idDispositivo verificacao
      prova : List Byte) : Frame :=
  destMac ++ (srcMac ++ (etherTypeCustom ++ (oper ++ (idRodada ++
    (idDispositivo ++ (verificacao ++ prova))))))

/-
  `envia_pacote_verificacao`: the frame that is sent. Every
  conversion fills its field of the packet.
-/
def enviaPacoteVerificacao
    (destMac srcMac : List Byte)
    (idRodadaHex idDispositivoHex provaHex verificacaoHex :
      List Char) : Option Frame := do
  let idDispositivoHexLE := memcpy idDispositivoHex 32
  let idRodadaHex := swapEndian idRodadaHex idRodadaLen
  let idDispositivoHexLE :=
    swapEndian idDispositivoHexLE idDispositivoLen
  let provaHex := swapEndian provaHex provaLen
  let verificacaoHex := swapEndian verificacaoHex provaLen
  let idRodada ← hexstringToByteArray
    (Vector.replicate 16 0) idRodadaHex idRodadaLen
  let idDispositivo ← hexstringToByteArray
    (Vector.replicate 16 0) idDispositivoHexLE
    idDispositivoLen
  let prova ← hexstringToByteArray
    (Vector.replicate 64 0) provaHex provaLen
  let verificacao ← hexstringToByteArray
    (Vector.replicate 64 0) verificacaoHex provaLen
  some
    (criaPacoteVerificacao srcMac destMac [0x4] idRodada.toList
      idDispositivo.toList verificacao.toList prova.toList)

------------------------------------------------------------
-- Packet Handler
------------------------------------------------------------

/-
  The frame for a Reply and a key: the branch of
  `packet_handler` from the conversion of the fields to
  `envia_pacote_verificacao`. `memoria` is that of the child
  process, which prints nothing when it fails, and `heap` the
  contents of the buffer of `getline`.
-/
def pacoteVerificacao
    (memoria : ForroArgsDra.Memoria)
    (heap : List Char)
    (packet : Frame)
    (chaveHex configuracao : List Char) : Option Frame :=
  let idRodadaHex :=
    swapEndian (byteArrayToHexstring (operHdrIdRodada packet))
      idRodadaLen
  let param1Hex := slice 0 nonceLen idRodadaHex
  let param2Hex := slice nonceLen nonceLen idRodadaHex
  let idDispositivoHex :=
    swapEndian
      (byteArrayToHexstring (replyIdDispositivo packet))
      idDispositivoLen
  let provaHex :=
    swapEndian (byteArrayToHexstring (replyProva packet))
      provaLen
  let saida :=
    (ForroArgsDra.main memoria
      (palavrasDoShell
        (comando chaveHex param2Hex param1Hex idDispositivoHex
          configuracao))).getD []
  let verificacaoHex := getline heap saida
  enviaPacoteVerificacao (etherDhost packet)
    (etherShost packet) idRodadaHex idDispositivoHex provaHex
    verificacaoHex

/- The globals that the handler changes. -/
structure Estado where
  contadorPacotes : BitVec 32
  interrompido : Bool
deriving DecidableEq, Repr

/- `buscarPorIdDireto`: the key of the row. -/
def buscarPorIdDireto
    (dados : Dados)
    (id : BitVec 32) : List Char :=
  (dados.row (id.toNat % 20000)).chave.toList

/- `packet_handler`: the new globals and the frame sent. -/
def packetHandler
    (dados : Dados)
    (totalPacotes : BitVec 32)
    (memoria : ForroArgsDra.Memoria)
    (heap : List Char)
    (estado : Estado)
    (packet : Frame) : Estado × Option Frame :=
  if etherType packet = etherTypeCustom ∧
      operHdrOper packet = [0x2] then
    let chaveHex :=
      buscarPorIdDireto dados estado.contadorPacotes
    let contador := estado.contadorPacotes + 1
    ({ contadorPacotes := contador
       interrompido :=
        estado.interrompido || contador = totalPacotes },
      pacoteVerificacao memoria heap packet chaveHex ['0'])
  else
    (estado, none)

end VerificaRede

end Tools

end P4dra
