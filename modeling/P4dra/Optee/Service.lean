import P4dra.Library.Transition
import P4dra.Optee.Host
import P4dra.Tools.WireFrames

/-
  The service `dra_service` and the processes that it starts.

  The state is the global of the service, what the trusted
  application stores, and for every `optee_dra 1` the objects
  that it has still to write: `popen` is not waited for. An
  event is a captured frame, or a write of one of those
  processes.

  Main declarations:
    * `enviaPacoteResposta`, `packetHandler`
    * `Estado`, `Evento`, `tratar`
-/

------------------------------------------------------------
-- Captured Frames
------------------------------------------------------------

namespace P4dra

open Bytes (Byte slice)
open Tna (Frame)
open Tools

namespace Optee

namespace Service

/-
  The memory from a captured frame on, past its end where the
  frame is short of the headers that the handler reads.
-/
structure Captura where
  packet : List Byte
  length : 79 ≤ packet.length
deriving Repr

/- `setup_hdr->chave` and `setup_hdr->id_dispositivo` -/
def setupChave (packet : List Byte) : List Byte :=
  slice 31 32 packet

def setupIdDispositivo (packet : List Byte) : List Byte :=
  slice 63 16 packet

/- The handler takes a frame for a Request or for a Setup. -/
def Pedido (packet : List Byte) : Prop :=
  etherType packet = etherTypeCustom ∧
    operHdrOper packet = [0x1]

def Setup (packet : List Byte) : Prop :=
  etherType packet = etherTypeCustom ∧
    operHdrOper packet = [0x5]

instance (packet : List Byte) : Decidable (Pedido packet) :=
  inferInstanceAs (Decidable (_ ∧ _))

instance (packet : List Byte) : Decidable (Setup packet) :=
  inferInstanceAs (Decidable (_ ∧ _))

/-
  What the handler meets: whether `popen`, `socket` and
  `sendto` succeed, what the process meets, and the contents
  of the buffer of `getline`.
-/
structure Ambiente where
  popen : Bool
  socket : Bool
  sendto : Bool
  processo : Host.Ambiente
  heap : List Char

------------------------------------------------------------
-- Packet Handler
------------------------------------------------------------

/- The first halves of a command: the words of `snprintf`. -/
def comandoProva (param1Hex param2Hex : List Char) :
    List Char :=
  ("optee_dra 3 ".toList ++ precisao nonceLen param1Hex ++
    ' ' :: precisao nonceLen param2Hex).take 511

def comandoSetup (chaveHex idDispositivoHex : List Char) :
    List Char :=
  ("optee_dra 1 ".toList ++ precisao chaveLen chaveHex ++
    ' ' :: precisao idDispositivoLen idDispositivoHex).take 511

/-
  `create_custom_packet`, with the fields of the two headers
  in the order of their structures.
-/
def createCustomPacket
    (destMac srcMac oper idRodada idDispositivo prova :
      List Byte) : Frame :=
  destMac ++ (srcMac ++ (etherTypeCustom ++ (oper ++ (idRodada ++
    (idDispositivo ++ prova)))))

/- `envia_pacote_resposta`: the frame that is sent. -/
def enviaPacoteResposta
    (destMac srcMac : List Byte)
    (idRodadaHex idDispositivoHex provaHex : List Char) :
    Option Frame := do
  let idDispositivoHexLE :=
    memcpy idDispositivoHex idDispositivoLen
  let idRodadaHex := swapEndian idRodadaHex idRodadaLen
  let idDispositivoHexLE :=
    swapEndian idDispositivoHexLE idDispositivoLen
  let provaHex := swapEndian provaHex provaLen
  let idRodada ← hexstringToByteArray
    (Vector.replicate 16 0) idRodadaHex idRodadaLen
  let idDispositivo ← hexstringToByteArray
    (Vector.replicate 16 0) idDispositivoHexLE
    idDispositivoLen
  let prova ← hexstringToByteArray
    (Vector.replicate 64 0) provaHex provaLen
  some
    (createCustomPacket srcMac destMac [0x2] idRodada.toList
      idDispositivo.toList prova.toList)

/-
  The state of the world. `idDispositivoHex` is null before
  the first Setup; `ativo` is false after the service ended.
-/
structure Estado where
  idDispositivoHex : Option (List Char)
  storage : Storage
  filhos : List (List Host.Gravacao)
  ativo : Bool

/- What the trusted application answered, and what is sent. -/
structure Saida where
  resposta : Option Ta.Resposta
  reply : Option Frame
deriving DecidableEq, Repr

/- Nothing is asked or sent. -/
def Saida.nada : Saida := ⟨none, none⟩

/- The branch of `packet_handler` for a Request. -/
def tratarPedido
    (amb : Ambiente)
    (estado : Estado)
    (packet : List Byte) : Option (Estado × Saida) := do
  let idRodadaHex :=
    swapEndian (byteArrayToHexstring (operHdrIdRodada packet))
      idRodadaLen
  let param1Hex := slice 0 nonceLen idRodadaHex
  let param2Hex := slice nonceLen nonceLen idRodadaHex
  if !amb.popen then
    some ({ estado with ativo := false }, .nada)
  else
    let processo ← Host.main amb.processo estado.storage
      (palavrasDoShell (comandoProva param1Hex param2Hex))
    match processo with
    | .grava _ => none
    | .imprime resposta saida =>
        let provaHex := getline amb.heap saida
        match estado.idDispositivoHex with
        | none =>
            -- `memcpy` from a null pointer
            some ({ estado with ativo := false }, ⟨resposta, none⟩)
        | some idDispositivoHex =>
            let frame ← enviaPacoteResposta (etherDhost packet)
              (etherShost packet) idRodadaHex idDispositivoHex
              provaHex
            if amb.socket && amb.sendto then
              some (estado, ⟨resposta, some frame⟩)
            else
              some
                ({ estado with ativo := false },
                  ⟨resposta, none⟩)

/- The branch of `packet_handler` for a Setup. -/
def tratarSetup
    (amb : Ambiente)
    (estado : Estado)
    (packet : List Byte) : Option (Estado × Saida) := do
  let chaveHex :=
    swapEndian (byteArrayToHexstring (setupChave packet))
      chaveLen
  let idDispositivoHex :=
    swapEndian
      (byteArrayToHexstring (setupIdDispositivo packet))
      idDispositivoLen
  let estado :=
    { estado with idDispositivoHex := some idDispositivoHex }
  if !amb.popen then
    some ({ estado with ativo := false }, .nada)
  else
    let processo ← Host.main amb.processo estado.storage
      (palavrasDoShell (comandoSetup chaveHex idDispositivoHex))
    match processo with
    | .grava pendentes =>
        some
          ({ estado with filhos := estado.filhos ++ [pendentes] },
            .nada)
    | .imprime _ _ => none

def packetHandler
    (amb : Ambiente)
    (estado : Estado)
    (packet : List Byte) : Option (Estado × Saida) :=
  if etherType packet = etherTypeCustom then
    if operHdrOper packet = [0x1] then
      tratarPedido amb estado packet
    else if operHdrOper packet = [0x5] then
      tratarSetup amb estado packet
    else
      some (estado, .nada)
  else
    some (estado, .nada)

------------------------------------------------------------
-- Steps
------------------------------------------------------------

/-
  A frame reaches the service, or the `i`-th process that a
  Setup started writes its next object.
-/
inductive Evento where
  | captura (amb : Ambiente) (captura : Captura)
  | gravacao (i : Nat) (escrita : Host.Escrita)

/- A service that ended captures nothing. -/
def tratar
    (estado : Estado) : Evento → Option (Estado × Saida)
| .captura amb captura =>
    if estado.ativo then
      packetHandler amb estado captura.packet
    else
      none
| .gravacao i escrita =>
    match estado.filhos[i]? with
    | none => none
    | some pendentes =>
        match
          Host.proximaGravacao escrita estado.storage pendentes
        with
        | none => none
        | some (storage, resto) =>
            some
              ({ estado with
                  storage := storage
                  filhos := estado.filhos.set i resto },
                .nada)

/- The service has just started, over what is stored. -/
def estadoInicial (storage : Storage) : Estado where
  idDispositivoHex := none
  storage := storage
  filhos := []
  ativo := true

end Service

end Optee

end P4dra
