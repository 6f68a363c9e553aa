import P4dra.Library.Transition
import P4dra.Optee.Answers

/-
  Sequences of commands of the trusted application.

  The normal world chooses every command, its parameters and
  their sizes. The size of an object is the one that an
  earlier command gave it; `reply_proof` checks neither that
  size nor the one of its output parameter.

  Main declarations:
    * `taInvokeCommandEntryPoint`
    * `Protegido`, `ComTamanhos`
    * `protegido_iff_step`, `protegido_iff`
-/

------------------------------------------------------------
-- Parameters
------------------------------------------------------------

namespace P4dra

open Bytes (Byte)
open Transition (Step exec)

namespace Optee

namespace Ta

def teeParamTypeNone : BitVec 32 := 0
def teeParamTypeMemrefInput : BitVec 32 := 5
def teeParamTypeMemrefOutput : BitVec 32 := 6

/- `TEE_PARAM_TYPES` -/
def teeParamTypes (t0 t1 t2 t3 : BitVec 32) : BitVec 32 :=
  t0 ||| (t1 <<< 4) ||| (t2 <<< 8) ||| (t3 <<< 12)

/- The buffer of a parameter, and the memory after it. -/
structure Memref where
  dados : List Char
  apos : List Char

/- `params[i].memref.size` -/
def Memref.size (memref : Memref) : Nat :=
  memref.dados.length

/- A command as the normal world sends it. -/
structure Chamada where
  command : BitVec 32
  paramTypes : BitVec 32
  params : Vector Memref 4

/- What the TEE answers to a command, whichever it is. -/
structure Ambiente where
  criacao : TeeCriacao
  leitura : TeeLeitura
  closeAndDeletePersistentObject1 : TeeResult
  memoria : Memoria

/-
  What a command returns: a result, what `read_raw_object`
  moves out and the new size, or the answer of `reply_proof`.
-/
inductive Retorno where
  | resultado (res : TeeResult)
  | leitura (res : TeeResult) (dados : List Char)
      (tamanho : Nat)
  | prova (resposta : Except Estouro Resposta)
deriving DecidableEq

------------------------------------------------------------
-- Commands
------------------------------------------------------------

def taDraCmdReadRaw : BitVec 32 := 0
def taDraCmdWriteRaw : BitVec 32 := 1
def taDraCmdDelete : BitVec 32 := 2
def taDraCmdRequestProof : BitVec 32 := 3

def invocarCreate
    (amb : Ambiente)
    (storage : Storage)
    (chamada : Chamada) : Storage × Retorno :=
  if chamada.paramTypes ≠
      teeParamTypes teeParamTypeMemrefInput
        teeParamTypeMemrefInput teeParamTypeNone
        teeParamTypeNone then
    (storage, .resultado teeErrorBadParameters)
  else
    let (storage, res) :=
      createRawObject amb.criacao storage
        (chamada.params.get 0).dados (chamada.params.get 1).dados
    (storage, .resultado res)

def invocarRead
    (amb : Ambiente)
    (storage : Storage)
    (chamada : Chamada) : Storage × Retorno :=
  if chamada.paramTypes ≠
      teeParamTypes teeParamTypeMemrefInput
        teeParamTypeMemrefOutput teeParamTypeNone
        teeParamTypeNone then
    (storage, .resultado teeErrorBadParameters)
  else
    let (res, dados, tamanho) :=
      readRawObject amb.leitura storage
        (chamada.params.get 0).dados (chamada.params.get 1).size
    (storage, .leitura res dados tamanho)

def invocarDelete
    (amb : Ambiente)
    (storage : Storage)
    (chamada : Chamada) : Storage × Retorno :=
  if chamada.paramTypes ≠
      teeParamTypes teeParamTypeMemrefInput teeParamTypeNone
        teeParamTypeNone teeParamTypeNone then
    (storage, .resultado teeErrorBadParameters)
  else
    let (storage, res) :=
      deleteObject amb.leitura.objIdAlocado
        amb.leitura.openPersistentObject
        amb.closeAndDeletePersistentObject1 storage
        (chamada.params.get 0).dados
    (storage, .resultado res)

/- The types that `reply_proof` expects. -/
def tiposDaProva : BitVec 32 :=
  teeParamTypes teeParamTypeMemrefInput
    teeParamTypeMemrefInput teeParamTypeMemrefInput
    teeParamTypeMemrefOutput

/- The parameters as `reply_proof` reads them. -/
def paramsDaProva (chamada : Chamada) : Params where
  idRodadaHex :=
    (chamada.params.get 0).dados ++ (chamada.params.get 0).apos
  nonceHex :=
    (chamada.params.get 1).dados ++ (chamada.params.get 1).apos
  objIdSecrets := (chamada.params.get 2).dados
  provaSz := (chamada.params.get 3).size

/- The object that the other commands name. -/
def objetoDe (chamada : Chamada) : List Char :=
  (chamada.params.get 0).dados

/- The data that `create_raw_object` writes. -/
def dadosDe (chamada : Chamada) : List Char :=
  (chamada.params.get 1).dados

def invocarProva
    (amb : Ambiente)
    (storage : Storage)
    (chamada : Chamada) : Storage × Retorno :=
  if chamada.paramTypes ≠ tiposDaProva then
    (storage, .resultado teeErrorBadParameters)
  else
    (storage,
      .prova
        (replyProof amb.leitura amb.memoria storage
          (paramsDaProva chamada)))

def taInvokeCommandEntryPoint
    (amb : Ambiente)
    (storage : Storage)
    (chamada : Chamada) : Storage × Retorno :=
  if chamada.command = taDraCmdWriteRaw then
    invocarCreate amb storage chamada
  else if chamada.command = taDraCmdReadRaw then
    invocarRead amb storage chamada
  else if chamada.command = taDraCmdDelete then
    invocarDelete amb storage chamada
  else if chamada.command = taDraCmdRequestProof then
    invocarProva amb storage chamada
  else
    (storage, .resultado teeErrorNotSupported)

------------------------------------------------------------
-- Runs
------------------------------------------------------------

/- A command and what it meets. -/
structure Evento where
  amb : Ambiente
  chamada : Chamada

/-
  The state between two commands. After an access outside a
  buffer nothing is said of the application.
-/
structure Estado where
  storage : Storage
  ativa : Bool

def tratar
    (estado : Estado)
    (evento : Evento) : Option (Estado × Retorno) :=
  if estado.ativa then
    match
      taInvokeCommandEntryPoint evento.amb estado.storage
        evento.chamada
    with
    | (storage, .prova (.error estouro)) =>
        some (⟨storage, false⟩, .prova (.error estouro))
    | (storage, retorno) => some (⟨storage, true⟩, retorno)
  else
    none

/- The call reaches the body of `reply_proof`. -/
def PedeProva (chamada : Chamada) : Prop :=
  chamada.command = taDraCmdRequestProof ∧
    chamada.paramTypes = tiposDaProva

/- The command returns what the entry point returns. -/
theorem tratar_eq_some
    {estado estado' : Estado}
    {evento : Evento}
    {retorno : Retorno}
    (hTratar : tratar estado evento = some (estado', retorno)) :
    estado.ativa = true ∧
      taInvokeCommandEntryPoint evento.amb estado.storage
          evento.chamada =
        (estado'.storage, retorno) := by
  rw [tratar] at hTratar
  cases hAtiva : estado.ativa with
  | false =>
      rw [hAtiva] at hTratar
      cases hTratar
  | true =>
      rw [hAtiva, if_pos rfl] at hTratar
      refine ⟨rfl, ?_⟩
      split at hTratar
      · rename_i storage estouro hInvoca
        cases hTratar
        exact hInvoca
      · rename_i storage outro _ hInvoca
        cases hTratar
        exact hInvoca

theorem taInvoke_of_pedeProva
    {chamada : Chamada}
    (amb : Ambiente)
    (storage : Storage)
    (hPede : PedeProva chamada) :
    taInvokeCommandEntryPoint amb storage chamada =
      (storage,
        .prova
          (replyProof amb.leitura amb.memoria storage
            (paramsDaProva chamada))) := by
  rcases hPede with ⟨hCommand, hTypes⟩
  have hWrite : chamada.command ≠ taDraCmdWriteRaw := by
    rw [hCommand]
    decide
  have hRead : chamada.command ≠ taDraCmdReadRaw := by
    rw [hCommand]
    decide
  have hDelete : chamada.command ≠ taDraCmdDelete := by
    rw [hCommand]
    decide
  rw [taInvokeCommandEntryPoint, if_neg hWrite, if_neg hRead,
    if_neg hDelete, if_pos hCommand, invocarProva,
    if_neg (not_not.mpr hTypes)]

------------------------------------------------------------
-- Sizes
------------------------------------------------------------

/-
  The secrets and the proof stay in their buffers, and an
  object or an output parameter of the wrong size is answered
  with an error and nothing else.
-/
def Protegido (x : Step Estado Evento Retorno) : Prop :=
  PedeProva x.event.chamada →
    x.output ≠ .prova (.error .secretsHex) ∧
      x.output ≠ .prova (.error .prova) ∧
      ((∃ object,
            x.before.storage
                  (paramsDaProva x.event.chamada).objIdSecrets =
                some object ∧
              object.length ≠ secretsSzHex) ∨
          (paramsDaProva x.event.chamada).provaSz < proofSz →
        ∃ res,
          res ≠ teeSuccess ∧
            x.output = .prova (.ok ⟨res, none⟩))

/-
  A call of the TEE fails, or the object and the output
  parameter have the sizes that the command supposes.
-/
def ComTamanhos (x : Step Estado Evento Retorno) : Prop :=
  PedeProva x.event.chamada →
    FalhaAntes x.event.amb.leitura x.before.storage
        (paramsDaProva x.event.chamada).objIdSecrets ∨
      ((∃ object,
          x.before.storage
                (paramsDaProva x.event.chamada).objIdSecrets =
              some object ∧
            object.length = secretsSzHex) ∧
        proofSz ≤ (paramsDaProva x.event.chamada).provaSz)

/- What the conversions and the proof can leave. -/
theorem calcularProva_error
    {memoria : Memoria}
    {secretsHex : List Char}
    {params : Params}
    {estouro : Estouro}
    (hProva :
      calcularProva memoria secretsHex params =
        .error estouro) :
    estouro ≠ .secretsHex ∧
      (estouro = .prova → params.provaSz < proofSz) := by
  rcases calcularProva_cases memoria secretsHex params with
    ⟨outro, hErro, hSecrets, hNotProva⟩ | ⟨s, hEq⟩
  · rw [hErro] at hProva
    cases hProva
    exact ⟨hSecrets, fun h => absurd h hNotProva⟩
  · rw [hEq] at hProva
    split at hProva
    · cases hProva
    · cases hProva
      exact ⟨by decide, fun _ => by omega⟩

/-
  When no call of the TEE fails, the command ends with success
  or leaves a buffer. It leaves `secrets_HEX` only for an
  object that is too long, and the output parameter only when
  this is too short.
-/
theorem replyProof_of_not_falhaAntes
    {tee : TeeLeitura}
    {storage : Storage}
    {params : Params}
    (memoria : Memoria)
    (hFalha : ¬ FalhaAntes tee storage params.objIdSecrets) :
    ∃ object,
      storage params.objIdSecrets = some object ∧
        (∀ res,
          res ≠ teeSuccess →
            replyProof tee memoria storage params ≠
              .ok ⟨res, none⟩) ∧
        (replyProof tee memoria storage params =
            .error .secretsHex →
          secretsSzHex < object.length) ∧
        (replyProof tee memoria storage params =
            .error .prova →
          params.provaSz < proofSz) := by
  rcases lido_of_not_falhaAntes hFalha with
    ⟨object, hAlocado, hGuardado, hOpen, hInfo, hRead⟩
  have hAbrir :
      abrir tee storage params.objIdSecrets = .ok object :=
    (abrir_eq_ok_iff _ _ _ _).mpr ⟨hGuardado, hOpen, hInfo⟩
  refine ⟨object, hGuardado, ?_⟩
  rw [replyProof_of_lido memoria hAlocado hAbrir hRead]
  cases hMove :
      teeMemMove (teeMalloc secretsSzHex)
        (object.take tee.readBytes) with
  | none =>
      refine ⟨fun res _ h => (by cases h), fun _ => ?_,
        fun h => (by cases h)⟩
      rw [teeMemMove, teeMalloc, List.length_replicate] at hMove
      split at hMove
      · cases hMove
      · rename_i hLong
        have hTake : (object.take tee.readBytes).length ≤
            object.length :=
          List.length_take_le' _ _
        omega
  | some secretsHex =>
      by_cases hInteiro : tee.readBytes = object.length
      · simp only [hInteiro, ne_eq, not_true_eq_false, if_false]
        cases hProva :
            calcularProva memoria secretsHex params with
        | error estouro =>
            have hErro := calcularProva_error hProva
            refine ⟨fun res _ h => (by cases h), fun h => ?_,
              fun h => ?_⟩
            · exact absurd (Except.error.inj h) hErro.1
            · exact hErro.2 (Except.error.inj h)
        | ok prova =>
            exact
              ⟨fun res _ h => (by cases h),
                fun h => (by cases h), fun h => (by cases h)⟩
      · simp only [ne_eq, hInteiro, not_false_eq_true, if_true]
        refine ⟨fun res hRes h => ?_, fun h => (by cases h),
          fun h => (by cases h)⟩
        cases h
        exact hRes rfl

/- One command is protected when the sizes are right. -/
theorem protegido_iff_step
    {history : List Evento}
    {estado estado' : Estado}
    {evento : Evento}
    {retorno : Retorno}
    (hTratar : tratar estado evento = some (estado', retorno)) :
    Protegido ⟨history, estado, evento, retorno⟩ ↔
      ComTamanhos ⟨history, estado, evento, retorno⟩ := by
  apply imp_congr_right
  intro hPede
  have hInvoca := (tratar_eq_some hTratar).2
  rw [taInvoke_of_pedeProva _ _ hPede] at hInvoca
  have hRetorno :
      retorno =
        .prova
          (replyProof evento.amb.leitura evento.amb.memoria
            estado.storage (paramsDaProva evento.chamada)) :=
    (Prod.ext_iff.mp hInvoca).2.symm
  dsimp only
  rw [hRetorno]
  by_cases hFalha :
      FalhaAntes evento.amb.leitura estado.storage
        (paramsDaProva evento.chamada).objIdSecrets
  · rcases replyProof_of_falhaAntes evento.amb.memoria hFalha
      with ⟨res, hRes, hReply⟩
    rw [hReply]
    refine ⟨fun _ => Or.inl hFalha, fun _ => ⟨?_, ?_, ?_⟩⟩
    · intro h
      cases h
    · intro h
      cases h
    · exact fun _ => ⟨res, hRes, rfl⟩
  · rcases replyProof_of_not_falhaAntes evento.amb.memoria
        hFalha with
      ⟨object, hGuardado, hSucesso, hSecrets, hProva⟩
    have hNotErro : ¬ ∃ res,
        res ≠ teeSuccess ∧
          Retorno.prova
              (replyProof evento.amb.leitura
                evento.amb.memoria estado.storage
                (paramsDaProva evento.chamada)) =
            .prova (.ok ⟨res, none⟩) := by
      rintro ⟨res, hRes, hReply⟩
      exact hSucesso res hRes (Retorno.prova.inj hReply)
    constructor
    · rintro ⟨_, _, hTamanhos⟩
      right
      constructor
      · refine ⟨object, hGuardado, ?_⟩
        by_contra hLength
        exact
          hNotErro
            (hTamanhos (Or.inl ⟨object, hGuardado, hLength⟩))
      · by_contra hShort
        exact hNotErro (hTamanhos (Or.inr (by omega)))
    · rintro (hAntes | ⟨⟨outro, hOutro, hLength⟩, hSize⟩)
      · exact absurd hAntes hFalha
      · have hSame : outro = object := by
          rw [hGuardado] at hOutro
          exact (Option.some.inj hOutro).symm
        rw [hSame] at hLength
        refine ⟨?_, ?_, ?_⟩
        · intro h
          have hLong := hSecrets (Retorno.prova.inj h)
          omega
        · intro h
          have hShort := hProva (Retorno.prova.inj h)
          omega
        · rintro (⟨objeto, hObjeto, hNot⟩ | hShort)
          · rw [hGuardado] at hObjeto
            rw [← Option.some.inj hObjeto] at hNot
            exact absurd hLength hNot
          · omega

/-
  In every run of commands the buffers of every proof are
  safe exactly when for every proof a call of the TEE fails or
  the sizes are the ones that the command supposes.
-/
theorem protegido_iff
    (storage : Storage)
    {eventos : List Evento}
    {last : Estado}
    {steps : List (Step Estado Evento Retorno)}
    (hRun :
      exec tratar ⟨storage, true⟩ eventos =
        some (last, steps)) :
    (∀ x ∈ steps, Protegido x) ↔
      ∀ x ∈ steps, ComTamanhos x := by
  have hStep :
      ∀ (history : List Evento) (s : Estado) (e : Evento)
          (s' : Estado) (output : Retorno),
        True →
          tratar s e = some (s', output) →
          True →
          True ∧
            (Protegido ⟨history, s, e, output⟩ ↔
              ComTamanhos ⟨history, s, e, output⟩) :=
    fun history s e s' output _ hTratar _ =>
      ⟨trivial, protegido_iff_step hTratar⟩
  have hEach :=
    (@Transition.exec_invariant _ _ _ (fun _ _ => True)
      (fun _ => True)
      (fun x => Protegido x ↔ ComTamanhos x) _ hStep _ _ _ _
      trivial hRun (fun _ _ => trivial)).2
  exact forall₂_congr hEach

------------------------------------------------------------
-- Sizes That The Commands Chose
------------------------------------------------------------

/- An object whose data is not written does not stay. -/
def TeeCriacao.Desfaz (tee : TeeCriacao) : Prop :=
  tee.interrompe = true →
    tee.closeAndDeletePersistentObject1 = teeSuccess

/-
  Every write has the size of the secrets and leaves no part
  of them, every output of a proof has the size of the proof.
-/
def EscolheTamanhos (x : Step Estado Evento Retorno) : Prop :=
  (x.event.chamada.command = taDraCmdWriteRaw →
      x.event.amb.criacao.Desfaz ∧
        (x.event.chamada.params.get 1).size = secretsSzHex) ∧
    (PedeProva x.event.chamada →
      proofSz ≤ (paramsDaProva x.event.chamada).provaSz)

/- Every stored object has the size of the secrets. -/
def TamanhoDosObjetos (storage : Storage) : Prop :=
  ∀ objId object,
    storage objId = some object →
      object.length = secretsSzHex

theorem tamanhoDosObjetos_update
    {storage : Storage}
    {objId : List Char}
    {novo : Option (List Char)}
    (hNovo :
      ∀ object, novo = some object →
        object.length = secretsSzHex)
    (hTamanho : TamanhoDosObjetos storage) :
    TamanhoDosObjetos (Function.update storage objId novo) := by
  intro outro object hObject
  by_cases hEq : outro = objId
  · rw [hEq, Function.update_self] at hObject
    exact hNovo object hObject
  · rw [Function.update_of_ne hEq] at hObject
    exact hTamanho outro object hObject

theorem tamanhoDosObjetos_createRawObject
    {tee : TeeCriacao}
    {storage : Storage}
    {data : List Char}
    (hDesfaz : tee.Desfaz)
    (objId : List Char)
    (hData : data.length = secretsSzHex)
    (hTamanho : TamanhoDosObjetos storage) :
    TamanhoDosObjetos
      (createRawObject tee storage objId data).1 := by
  rcases createRawObject_eq tee storage objId data with
    ⟨res, _, hCreate⟩
  rw [hCreate]
  dsimp only
  split
  · refine tamanhoDosObjetos_update (fun object h => ?_) hTamanho
    rw [← Option.some.inj h]
    exact hData
  · split
    · rename_i hInterrompe
      rw [TeeCriacao.sobra, if_pos (hDesfaz hInterrompe)]
      exact
        tamanhoDosObjetos_update (fun object h => by cases h)
          hTamanho
    · exact hTamanho

theorem tamanhoDosObjetos_deleteObject
    {storage : Storage}
    (objIdAlocado : Bool)
    (openPersistentObject : TeeResult)
    (closeAndDeletePersistentObject1 : TeeResult)
    (objId : List Char)
    (hTamanho : TamanhoDosObjetos storage) :
    TamanhoDosObjetos
      (deleteObject objIdAlocado openPersistentObject
        closeAndDeletePersistentObject1 storage objId).1 := by
  unfold deleteObject closeAndDelete
  split
  · exact hTamanho
  · split
    · exact hTamanho
    · split
      · exact hTamanho
      · dsimp only
        split
        · exact
            tamanhoDosObjetos_update
              (fun object h => by cases h) hTamanho
        · exact hTamanho

/- What one command does to the sizes of the objects. -/
theorem tamanhoDosObjetos_taInvoke
    {storage : Storage}
    {chamada : Chamada}
    (amb : Ambiente)
    (hWrite :
      chamada.command = taDraCmdWriteRaw →
        amb.criacao.Desfaz ∧
          (chamada.params.get 1).size = secretsSzHex)
    (hTamanho : TamanhoDosObjetos storage) :
    TamanhoDosObjetos
      (taInvokeCommandEntryPoint amb storage chamada).1 := by
  unfold taInvokeCommandEntryPoint
  split
  · rename_i hCommand
    unfold invocarCreate
    split
    · exact hTamanho
    · exact
        tamanhoDosObjetos_createRawObject (hWrite hCommand).1
          (chamada.params.get 0).dados (hWrite hCommand).2
          hTamanho
  · split
    · unfold invocarRead
      split
      · exact hTamanho
      · exact hTamanho
    · split
      · unfold invocarDelete
        split
        · exact hTamanho
        · exact
            tamanhoDosObjetos_deleteObject
              amb.leitura.objIdAlocado
              amb.leitura.openPersistentObject
              amb.closeAndDeletePersistentObject1
              (chamada.params.get 0).dados hTamanho
      · split
        · unfold invocarProva
          split
          · exact hTamanho
          · exact hTamanho
        · exact hTamanho

/- Objects of the right size suffice for the proofs. -/
theorem comTamanhos_of_tamanhoDosObjetos
    {x : Step Estado Evento Retorno}
    (hTamanho : TamanhoDosObjetos x.before.storage)
    (hEscolhe : EscolheTamanhos x) :
    ComTamanhos x := by
  intro hPede
  cases hObject :
      x.before.storage
        (paramsDaProva x.event.chamada).objIdSecrets with
  | none => exact Or.inl (Or.inr (Or.inl hObject))
  | some object =>
      exact
        Or.inr
          ⟨⟨object, rfl, hTamanho _ object hObject⟩,
            hEscolhe.2 hPede⟩

/-
  A run from an empty storage whose commands choose the sizes
  that the proofs suppose is protected at every step.
-/
theorem protegido_of_escolheTamanhos
    {eventos : List Evento}
    {last : Estado}
    {steps : List (Step Estado Evento Retorno)}
    (hRun :
      exec tratar ⟨Storage.empty, true⟩ eventos =
        some (last, steps))
    (hEscolhe : ∀ x ∈ steps, EscolheTamanhos x) :
    ∀ x ∈ steps, Protegido x := by
  have hStep :
      ∀ (history : List Evento) (s : Estado) (e : Evento)
          (s' : Estado) (output : Retorno),
        TamanhoDosObjetos s.storage →
          tratar s e = some (s', output) →
          EscolheTamanhos ⟨history, s, e, output⟩ →
          TamanhoDosObjetos s'.storage ∧
            Protegido ⟨history, s, e, output⟩ := by
    intro history s e s' output hTamanho hTratar hCondicao
    constructor
    · have hStorage :
          (taInvokeCommandEntryPoint e.amb s.storage
              e.chamada).1 = s'.storage :=
        congrArg Prod.fst (tratar_eq_some hTratar).2
      rw [← hStorage]
      exact
        tamanhoDosObjetos_taInvoke e.amb hCondicao.1 hTamanho
    · exact
        (protegido_iff_step hTratar).mpr
          (comTamanhos_of_tamanhoDosObjetos hTamanho hCondicao)
  have hInit : TamanhoDosObjetos Storage.empty := by
    intro objId object hObject
    cases hObject
  exact
    (@Transition.exec_invariant _ _ _
      (fun _ s => TamanhoDosObjetos s.storage) EscolheTamanhos
      Protegido _ hStep _ _ _ _ hInit hRun hEscolhe).2

------------------------------------------------------------
-- An Object That Is Too Long
------------------------------------------------------------

/- Every call succeeds, in memory of zeros. -/
def ambienteLongo : Ambiente where
  criacao := .sucesso
  leitura :=
    { objIdAlocado := true
      dataAlocado := true
      openPersistentObject := teeSuccess
      getObjectInfo1 := teeSuccess
      readObjectData := teeSuccess
      readBytes := 97 }
  closeAndDeletePersistentObject1 := teeSuccess
  memoria :=
    { input := Vector.replicate 16 0
      aposChaveHex := ['\x00']
      aposIdDispositivoHex := ['\x00'] }

/- An object of one byte more than the secrets. -/
def escreveLongo : Chamada where
  command := taDraCmdWriteRaw
  paramTypes :=
    teeParamTypes teeParamTypeMemrefInput
      teeParamTypeMemrefInput teeParamTypeNone
      teeParamTypeNone
  params :=
    #v[⟨idObjSecrets, []⟩, ⟨List.replicate 97 '0', []⟩,
      ⟨[], []⟩, ⟨[], []⟩]

def pedeProvaLonga : Chamada where
  command := taDraCmdRequestProof
  paramTypes := tiposDaProva
  params :=
    #v[⟨List.replicate 16 '0', ['\x00']⟩,
      ⟨List.replicate 16 '0', ['\x00']⟩, ⟨idObjSecrets, []⟩,
      ⟨List.replicate 64 '\x00', []⟩]

def eventosLongos : List Evento :=
  [⟨ambienteLongo, escreveLongo⟩,
    ⟨ambienteLongo, pedeProvaLonga⟩]

/- The object is written past the end of `secrets_HEX`. -/
theorem retornos_eventosLongos :
    (exec tratar ⟨Storage.empty, true⟩ eventosLongos).map
        (fun run =>
          run.2.map (fun x => (x.event.chamada.command,
            x.event.chamada.paramTypes, x.output))) =
      some
        [(taDraCmdWriteRaw, escreveLongo.paramTypes,
            .resultado teeSuccess),
          (taDraCmdRequestProof, tiposDaProva,
            .prova (.error .secretsHex))] := by
  decide +kernel

theorem protegido_iff_longos :
    ∃ last steps,
      exec tratar ⟨Storage.empty, true⟩ eventosLongos =
          some (last, steps) ∧
        ((∀ x ∈ steps, Protegido x) ↔
          ∀ x ∈ steps, ComTamanhos x) := by
  rcases Option.map_eq_some_iff.mp retornos_eventosLongos with
    ⟨⟨last, steps⟩, hRun, _⟩
  exact ⟨last, steps, hRun, protegido_iff .empty hRun⟩

theorem protegido_not_every_run :
    ¬ ∀ (storage : Storage) (eventos : List Evento)
        (last : Estado)
        (steps : List (Step Estado Evento Retorno)),
      exec tratar ⟨storage, true⟩ eventos =
          some (last, steps) →
        ∀ x ∈ steps, Protegido x := by
  intro hClaim
  rcases Option.map_eq_some_iff.mp retornos_eventosLongos with
    ⟨⟨last, steps⟩, hRun, hRetornos⟩
  have hMem :
      (taDraCmdRequestProof, tiposDaProva,
          Retorno.prova (.error .secretsHex)) ∈
        steps.map (fun x => (x.event.chamada.command,
          x.event.chamada.paramTypes, x.output)) := by
    have hSteps :
        steps.map (fun x => (x.event.chamada.command,
          x.event.chamada.paramTypes, x.output)) = _ :=
      hRetornos
    rw [hSteps]
    exact List.mem_cons_of_mem _ List.mem_cons_self
  rcases List.mem_map.mp hMem with ⟨x, hx, hCampos⟩
  simp only [Prod.mk.injEq] at hCampos
  rcases hCampos with ⟨hCommand, hTypes, hOutput⟩
  exact
    (hClaim .empty eventosLongos last steps hRun x hx
      ⟨hCommand, hTypes⟩).1 hOutput

end Ta

end Optee

end P4dra
