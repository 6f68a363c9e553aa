import P4dra.Optee.Ta
import P4dra.Tools.Processes

/-
  The program `optee_dra`, which calls the trusted
  application.

  The service runs it with the commands
  `TA_DRA_CMD_WRITE_RAW` and `TA_DRA_CMD_REQUEST_PROOF`. A
  process of the first kind is the list of the objects that
  it has still to write; one of the second kind runs to its
  end and prints. What `errx` prints does not reach the pipe.

  Main declarations:
    * `gravacoes`, `writeSecureObject`
    * `requestProof`, `pedirProva`
    * `main`
-/

------------------------------------------------------------
-- Environment
------------------------------------------------------------

namespace P4dra

open Bytes (Byte)
open Tools (memcpy argv atoi)

namespace Optee

namespace Host

/- A result other than success. -/
abbrev Falha := {res : TeeResult // res ≠ teeSuccess}

/-
  What the process meets: the results of the client library,
  `invoke` being a failure that is not an answer of the
  application; what the application meets; `prova` and the
  memory after the buffers of the two programs.
-/
structure Ambiente where
  initializeContext : TeeResult
  openSession : TeeResult
  invoke : Option Falha
  origin : BitVec 32
  tee : Ta.TeeLeitura
  ta : Ta.Memoria
  prova : Vector Byte 64
  aposIdRodada : List Char
  aposNonce : List Char
  aposParam0 : List Char
  aposParam1 : List Char
  ambiente : List Char

/- `prepare_tee_session` returns. -/
def Ambiente.sessaoAberta (amb : Ambiente) : Bool :=
  amb.initializeContext = teeSuccess ∧
    amb.openSession = teeSuccess

------------------------------------------------------------
-- Writing The Secrets
------------------------------------------------------------

/- An object to write: its name and its data. -/
abbrev Gravacao := List Char × List Char

/- What a call of `write_secure_object` meets. -/
structure Escrita where
  invoke : Option Falha
  tee : Ta.TeeCriacao
deriving DecidableEq, Repr

def Escrita.sucesso : Escrita := ⟨none, .sucesso⟩

/- `write_secure_object` -/
def writeSecureObject
    (escrita : Escrita)
    (storage : Storage)
    (g : Gravacao) : Storage × TeeResult :=
  match escrita.invoke with
  | some falha => (storage, falha)
  | none => Ta.createRawObject escrita.tee storage g.1 g.2

/- `TA_DRA_CMD_WRITE_RAW`: the objects written in order. -/
def gravacoes (key idDispositivo : List Char) :
    List Gravacao :=
  let secrets := key ++ idDispositivo
  [(idObjKey, key), (idObjDisp, idDispositivo),
    (idObjSecrets, secrets)]

/- One turn of a process: a write, and `errx` on failure. -/
def proximaGravacao
    (escrita : Escrita)
    (storage : Storage)
    (pendentes : List Gravacao) :
    Option (Storage × List Gravacao) :=
  match pendentes with
  | [] => none
  | g :: resto =>
      let (storage', res) :=
        writeSecureObject escrita storage g
      if res ≠ teeSuccess then
        some (storage', [])
      else
        some (storage', resto)

------------------------------------------------------------
-- Requesting A Proof
------------------------------------------------------------

/-
  `request_proof`. The sizes of the input parameters are taken
  with `strlen`, and the parameters are copied.
-/
def requestProof
    (amb : Ambiente)
    (storage : Storage)
    (idRodada nonce : List Char) :
    Except Ta.Estouro Ta.Resposta :=
  match amb.invoke with
  | some falha => .ok ⟨falha, none⟩
  | none =>
      Ta.replyProof amb.tee amb.ta storage
        { idRodadaHex :=
            idRodada.take (Hex.strlen idRodada) ++
              amb.aposParam0
          nonceHex :=
            nonce.take (Hex.strlen nonce) ++ amb.aposParam1
          objIdSecrets := idObjSecrets
          provaSz := proofSz }

/- The text that `request_proof` prints for a result. -/
def mensagemFalha
    (res : TeeResult)
    (origin : BitVec 32) : List Char :=
  if res = teeSuccess ∨ res = teeErrorShortBuffer ∨
      res = teeErrorItemNotFound then
    []
  else
    "Command request_proof failed: 0x".toList ++
      Nat.toDigits 16 res.toNat ++
      " / ".toList ++ Nat.toDigits 10 origin.toNat ++ ['\n']

/-
  `TA_DRA_CMD_REQUEST_PROOF`: the answer of the application
  and the text that is printed, whatever the answer is.
-/
def pedirProva
    (amb : Ambiente)
    (storage : Storage)
    (argv2 argv3 : List Char) :
    Except Ta.Estouro (Ta.Resposta × List Char) := do
  let idRodada := memcpy argv2 idRodadaSzHex ++ amb.aposIdRodada
  let nonce := memcpy argv3 nonceSzHex ++ amb.aposNonce
  let resposta ← requestProof amb storage idRodada nonce
  let prova := resposta.prova.getD amb.prova.toList
  .ok
    (resposta,
      mensagemFalha resposta.res amb.origin ++
        Hex.encode prova)

------------------------------------------------------------
-- Program
------------------------------------------------------------

/- A process after its arguments were read. -/
inductive Processo where
  | grava (pendentes : List Gravacao)
  | imprime (resposta : Option Ta.Resposta)
      (saida : List Char)

/-
  `main` on a command line. A null argument and an access
  outside a buffer are errors, and so are the commands that
  the service does not run.
-/
def main
    (amb : Ambiente)
    (storage : Storage)
    (palavras : List (List Char)) : Option Processo := do
  let argv1 ← argv palavras amb.ambiente 1
  let comando := atoi argv1
  if !amb.sessaoAberta then
    if comando = 1 then
      some (.grava [])
    else
      some (.imprime none [])
  else if comando = 1 then
    let argv2 ← argv palavras amb.ambiente 2
    let key := memcpy argv2 keySzHex
    let argv3 ← argv palavras amb.ambiente 3
    let idDispositivo := memcpy argv3 idDispositivoSzHex
    some (.grava (gravacoes key idDispositivo))
  else if comando = 3 then
    let argv2 ← argv palavras amb.ambiente 2
    let argv3 ← argv palavras amb.ambiente 3
    match pedirProva amb storage argv2 argv3 with
    | .error _ => none
    | .ok (resposta, saida) =>
        some (.imprime (some resposta) saida)
  else
    none

end Host

end Optee

end P4dra
