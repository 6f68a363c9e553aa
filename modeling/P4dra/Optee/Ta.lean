import P4dra.Forro.ProofState
import P4dra.Tools.Hexstring

/-
  The trusted application `dra_ta`.

  The TEE answers the calls of a command with the results
  that a record gives; what it stores is a table of objects.
  An access outside an allocated buffer is an error of its
  own. `TEE_Malloc` fills with zeros, and gives the buffers
  whose allocation the code does not check.

  Main declarations:
    * `createRawObject`, `readRawObject`, `deleteObject`
    * `createRawObject_eq`
    * `replyProof`
-/

------------------------------------------------------------
-- Results And Storage
------------------------------------------------------------

namespace P4dra

open Bytes (Byte slice)
open Tools (hexstringToByteArrayStrlen)

namespace Optee

/- `TEE_Result`; `TEEC_Result` has the same codes. -/
abbrev TeeResult := BitVec 32

def teeSuccess : TeeResult := 0x0
def teeErrorBadParameters : TeeResult := 0xFFFF0006
def teeErrorItemNotFound : TeeResult := 0xFFFF0008
def teeErrorNotSupported : TeeResult := 0xFFFF000A
def teeErrorOutOfMemory : TeeResult := 0xFFFF000C
def teeErrorShortBuffer : TeeResult := 0xFFFF0010

/- `TEE_STORAGE_PRIVATE`: the data of every object. -/
abbrev Storage := List Char → Option (List Char)

def Storage.empty : Storage := fun _ => none

def idObjDisp : List Char := ['1']
def idObjKey : List Char := ['2']
def idObjSecrets : List Char := ['3']

def idRodadaSz : Nat := 8
def nonceSz : Nat := 8
def idDispositivoSz : Nat := 16
def keySz : Nat := 32
def proofSz : Nat := 64

def idRodadaSzHex : Nat := idRodadaSz * 2
def nonceSzHex : Nat := nonceSz * 2
def idDispositivoSzHex : Nat := idDispositivoSz * 2
def keySzHex : Nat := keySz * 2
def secretsSzHex : Nat := keySzHex + idDispositivoSzHex

namespace Ta

/- `TEE_Malloc(n, 0)` -/
def teeMalloc (n : Nat) : List Char :=
  List.replicate n '\x00'

/- `TEE_MemMove` into the start of a buffer. -/
def teeMemMove
    (destino origem : List Char) : Option (List Char) :=
  if origem.length ≤ destino.length then
    some (origem ++ destino.drop origem.length)
  else
    none

------------------------------------------------------------
-- Raw Objects
------------------------------------------------------------

/-
  `TEE_CloseAndDeletePersistentObject1` with its result, which
  no caller looks at: when it fails, the object stays.
-/
def closeAndDelete
    (res : TeeResult)
    (storage : Storage)
    (objId : List Char) : Storage :=
  if res = teeSuccess then
    Function.update storage objId none
  else
    storage

/-
  What the TEE answers to `create_raw_object`, and how much of
  the data a write that fails has written. A call that fails
  ends the command.
-/
structure TeeCriacao where
  objIdAlocado : Bool
  dataAlocado : Bool
  createPersistentObject : TeeResult
  writeObjectData : TeeResult
  escritos : Nat
  closeAndDeletePersistentObject1 : TeeResult
deriving DecidableEq, Repr

/- Every call succeeds. -/
def TeeCriacao.sucesso : TeeCriacao where
  objIdAlocado := true
  dataAlocado := true
  createPersistentObject := teeSuccess
  writeObjectData := teeSuccess
  escritos := 0
  closeAndDeletePersistentObject1 := teeSuccess

/-
  `create_raw_object`. The object is created over the one of
  the same name, and deleted when its data is not written.
-/
def createRawObject
    (tee : TeeCriacao)
    (storage : Storage)
    (objId data : List Char) : Storage × TeeResult :=
  if !tee.objIdAlocado then
    (storage, teeErrorOutOfMemory)
  else if !tee.dataAlocado then
    (storage, teeErrorOutOfMemory)
  else if tee.createPersistentObject ≠ teeSuccess then
    (storage, tee.createPersistentObject)
  else if tee.writeObjectData ≠ teeSuccess then
    let storage :=
      Function.update storage objId
        (some (data.take tee.escritos))
    (closeAndDelete tee.closeAndDeletePersistentObject1 storage
        objId,
      tee.writeObjectData)
  else
    (Function.update storage objId (some data), teeSuccess)

namespace TeeCriacao

/- The data is written. -/
def grava (tee : TeeCriacao) : Bool :=
  tee.objIdAlocado ∧ tee.dataAlocado ∧
    tee.createPersistentObject = teeSuccess ∧
    tee.writeObjectData = teeSuccess

/- The object is created, but its data is not written. -/
def interrompe (tee : TeeCriacao) : Bool :=
  tee.objIdAlocado ∧ tee.dataAlocado ∧
    tee.createPersistentObject = teeSuccess ∧
    tee.writeObjectData ≠ teeSuccess

/- What is left under the name of such an object. -/
def sobra
    (tee : TeeCriacao)
    (data : List Char) : Option (List Char) :=
  if tee.closeAndDeletePersistentObject1 = teeSuccess then
    none
  else
    some (data.take tee.escritos)

end TeeCriacao

/- What a write leaves, and when it is acknowledged. -/
theorem createRawObject_eq
    (tee : TeeCriacao)
    (storage : Storage)
    (objId data : List Char) :
    ∃ res,
      (res = teeSuccess ↔ tee.grava = true) ∧
        createRawObject tee storage objId data =
          (if tee.grava then
              Function.update storage objId (some data)
            else if tee.interrompe then
              Function.update storage objId (tee.sobra data)
            else
              storage,
            res) := by
  have hMemory : teeErrorOutOfMemory ≠ teeSuccess := by decide
  rcases tee with ⟨objId', data', create, write, escritos, close⟩
  cases objId' with
  | false =>
      refine ⟨teeErrorOutOfMemory, ?_, ?_⟩ <;>
        simp [TeeCriacao.grava, TeeCriacao.interrompe, hMemory,
          createRawObject]
  | true =>
      cases data' with
      | false =>
          refine ⟨teeErrorOutOfMemory, ?_, ?_⟩ <;>
            simp [TeeCriacao.grava, TeeCriacao.interrompe,
              hMemory, createRawObject]
      | true =>
          by_cases hCreate : create = teeSuccess
          · by_cases hWrite : write = teeSuccess
            · refine ⟨teeSuccess, ?_, ?_⟩ <;>
                simp [TeeCriacao.grava, hCreate, hWrite,
                  createRawObject]
            · refine ⟨write, ?_, ?_⟩
              · simp [TeeCriacao.grava, hWrite]
              · by_cases hClose : close = teeSuccess
                · simp [TeeCriacao.grava, TeeCriacao.interrompe,
                    TeeCriacao.sobra, hCreate, hWrite, hClose,
                    createRawObject, closeAndDelete]
                · simp [TeeCriacao.grava, TeeCriacao.interrompe,
                    TeeCriacao.sobra, hCreate, hWrite, hClose,
                    createRawObject, closeAndDelete]
          · refine ⟨create, ?_, ?_⟩ <;>
              simp [TeeCriacao.grava, TeeCriacao.interrompe,
                hCreate, createRawObject]

/- What the TEE answers to a command that reads an object. -/
structure TeeLeitura where
  objIdAlocado : Bool
  dataAlocado : Bool
  openPersistentObject : TeeResult
  getObjectInfo1 : TeeResult
  readObjectData : TeeResult
  readBytes : Nat
deriving DecidableEq, Repr

/- `TEE_OpenPersistentObject`, then `TEE_GetObjectInfo1`. -/
def abrir
    (tee : TeeLeitura)
    (storage : Storage)
    (objId : List Char) : Except TeeResult (List Char) :=
  match storage objId with
  | none => .error teeErrorItemNotFound
  | some data =>
      if tee.openPersistentObject ≠ teeSuccess then
        .error tee.openPersistentObject
      else if tee.getObjectInfo1 ≠ teeSuccess then
        .error tee.getObjectInfo1
      else
        .ok data

/-
  `read_raw_object` into a parameter of size `dataSz`: the
  result, what is moved into the parameter, and its new size.
-/
def readRawObject
    (tee : TeeLeitura)
    (storage : Storage)
    (objId : List Char)
    (dataSz : Nat) : TeeResult × List Char × Nat :=
  if !tee.objIdAlocado then
    (teeErrorOutOfMemory, [], dataSz)
  else if !tee.dataAlocado then
    (teeErrorOutOfMemory, [], dataSz)
  else
    match abrir tee storage objId with
    | .error res => (res, [], dataSz)
    | .ok object =>
        if object.length > dataSz then
          (teeErrorShortBuffer, [], object.length)
        else if tee.readObjectData ≠ teeSuccess then
          (tee.readObjectData, [], dataSz)
        else if tee.readBytes ≠ object.length then
          (tee.readObjectData, object.take tee.readBytes,
            dataSz)
        else
          (tee.readObjectData, object, tee.readBytes)

/- `delete_object` -/
def deleteObject
    (objIdAlocado : Bool)
    (openPersistentObject : TeeResult)
    (closeAndDeletePersistentObject1 : TeeResult)
    (storage : Storage)
    (objId : List Char) : Storage × TeeResult :=
  if !objIdAlocado then
    (storage, teeErrorOutOfMemory)
  else
    match storage objId with
    | none => (storage, teeErrorItemNotFound)
    | some _ =>
        if openPersistentObject ≠ teeSuccess then
          (storage, openPersistentObject)
        else
          (closeAndDelete closeAndDeletePersistentObject1 storage
              objId,
            teeSuccess)

------------------------------------------------------------
-- Proofs
------------------------------------------------------------

/-
  What `input` holds before it is set, and the memory after
  the buffers of digits.
-/
structure Memoria where
  input : State
  aposChaveHex : List Char
  aposIdDispositivoHex : List Char

/- The buffer that an access leaves. -/
inductive Estouro where
  | secretsHex
  | chave
  | idDispositivo
  | idRodada
  | nonce
  | prova
deriving DecidableEq, Repr

/- The result of `reply_proof` and the proof it moved out. -/
structure Resposta where
  res : TeeResult
  prova : Option (List Byte)
deriving DecidableEq, Repr

/-
  The memory from the buffer of each input parameter on, and
  the size of the output parameter.
-/
structure Params where
  idRodadaHex : List Char
  nonceHex : List Char
  objIdSecrets : List Char
  provaSz : Nat

/- A conversion, or the array that it leaves. -/
def converter
    {n : Nat}
    (byteArray : Vector Byte n)
    (hexstring : List Char)
    (estouro : Estouro) : Except Estouro (Vector Byte n) :=
  match hexstringToByteArrayStrlen byteArray hexstring with
  | none => .error estouro
  | some lido => .ok lido

/-
  `reply_proof` from the conversion of the key to its end, on
  the text of the secrets.
-/
def calcularProva
    (memoria : Memoria)
    (secretsHex : List Char)
    (params : Params) : Except Estouro (List Byte) := do
  let chaveHex := slice 0 keySzHex secretsHex
  let chave ← converter (Vector.replicate keySz 0)
    (chaveHex ++ memoria.aposChaveHex) .chave
  let idDispositivoHex :=
    slice keySzHex idDispositivoSzHex secretsHex
  let idDispositivo ← converter
    (Vector.replicate idDispositivoSz 0)
    (idDispositivoHex ++ memoria.aposIdDispositivoHex)
    .idDispositivo
  let idRodada ← converter (Vector.replicate idRodadaSz 0)
    params.idRodadaHex .idRodada
  let nonce ← converter (Vector.replicate nonceSz 0)
    params.nonceHex .nonce
  let configuracao := List.replicate keySz (0 : Byte)
  let prova :=
    Forro.forro
      (Forro.estadoProva memoria.input chave.toList
        idRodada.toList nonce.toList idDispositivo.toList
        configuracao)
  if proofSz ≤ params.provaSz then
    .ok prova
  else
    .error .prova

/-
  `reply_proof`. `TEE_ReadObjectData` writes the bytes that it
  read into `secrets_HEX`; when they are fewer than the object
  has, its result is returned as it is.
-/
def replyProof
    (tee : TeeLeitura)
    (memoria : Memoria)
    (storage : Storage)
    (params : Params) : Except Estouro Resposta :=
  if !tee.objIdAlocado then
    .ok ⟨teeErrorOutOfMemory, none⟩
  else
    match abrir tee storage params.objIdSecrets with
    | .error res => .ok ⟨res, none⟩
    | .ok object =>
        if tee.readObjectData ≠ teeSuccess then
          .ok ⟨tee.readObjectData, none⟩
        else
          match
            teeMemMove (teeMalloc secretsSzHex)
              (object.take tee.readBytes)
          with
          | none => .error .secretsHex
          | some secretsHex =>
              if tee.readBytes ≠ object.length then
                .ok ⟨tee.readObjectData, none⟩
              else
                match
                  calcularProva memoria secretsHex params
                with
                | .error estouro => .error estouro
                | .ok prova =>
                    .ok ⟨tee.readObjectData, some prova⟩

end Ta

end Optee

end P4dra
