import P4dra.Library.ObjectStore
import P4dra.Optee.Commands

/-
  What a command of the trusted application reveals.

  A read or a proof that succeeds shows what the last command
  that changed the object left. No other object and no size
  that the normal world chose can change that. A deletion
  that the TEE does not make is acknowledged and changes
  nothing.

  Main declarations:
    * `efeito`, `storage_tratar`
    * `Deixa`, `Altera`, `Revela`
    * `revelado_da_escrita`
-/

------------------------------------------------------------
-- Effects Of Commands
------------------------------------------------------------

namespace P4dra

open ObjectStore (Effect Source)
open Transition (Step exec)

namespace Optee

namespace Ta

/- The effect of `create_raw_object`. -/
def efeitoCreate
    (tee : TeeCriacao)
    (objId data : List Char) :
    Effect (List Char) (List Char) :=
  if tee.grava then
    .put objId data
  else if tee.interrompe then
    .set objId (tee.sobra data)
  else
    .keep

/- The effect of `delete_object`. -/
def efeitoDelete
    (objIdAlocado : Bool)
    (openPersistentObject : TeeResult)
    (closeAndDeletePersistentObject1 : TeeResult)
    (storage : Storage)
    (objId : List Char) :
    Effect (List Char) (List Char) :=
  if objIdAlocado ∧ (storage objId).isSome ∧
      openPersistentObject = teeSuccess ∧
      closeAndDeletePersistentObject1 = teeSuccess then
    .erase objId
  else
    .keep

/- The effect of a command on the objects. -/
def efeito
    (x : Step Estado Evento Retorno) :
    Effect (List Char) (List Char) :=
  let chamada := x.event.chamada
  let objId := objetoDe chamada
  if chamada.command = taDraCmdWriteRaw then
    if chamada.paramTypes ≠
        teeParamTypes teeParamTypeMemrefInput
          teeParamTypeMemrefInput teeParamTypeNone
          teeParamTypeNone then
      .keep
    else
      efeitoCreate x.event.amb.criacao objId (dadosDe chamada)
  else if chamada.command = taDraCmdDelete then
    if chamada.paramTypes ≠
        teeParamTypes teeParamTypeMemrefInput teeParamTypeNone
          teeParamTypeNone teeParamTypeNone then
      .keep
    else
      efeitoDelete x.event.amb.leitura.objIdAlocado
        x.event.amb.leitura.openPersistentObject
        x.event.amb.closeAndDeletePersistentObject1
        x.before.storage objId
  else
    .keep

theorem createRawObject_storage
    (tee : TeeCriacao)
    (storage : Storage)
    (objId data : List Char) :
    (createRawObject tee storage objId data).1 =
      (efeitoCreate tee objId data).apply storage := by
  rcases createRawObject_eq tee storage objId data with
    ⟨res, _, hCreate⟩
  rw [hCreate, efeitoCreate]
  dsimp only
  split
  · rfl
  · split
    · exact (Effect.apply_set storage objId _).symm
    · rfl

theorem deleteObject_storage
    (objIdAlocado : Bool)
    (openPersistentObject : TeeResult)
    (closeAndDeletePersistentObject1 : TeeResult)
    (storage : Storage)
    (objId : List Char) :
    (deleteObject objIdAlocado openPersistentObject
        closeAndDeletePersistentObject1 storage objId).1 =
      (efeitoDelete objIdAlocado openPersistentObject
        closeAndDeletePersistentObject1 storage objId).apply
        storage := by
  unfold deleteObject efeitoDelete closeAndDelete
  cases objIdAlocado with
  | false => rfl
  | true =>
      cases hObject : storage objId with
      | none => simp [Effect.apply]
      | some data =>
          by_cases hOpen : openPersistentObject = teeSuccess
          · by_cases hClose :
                closeAndDeletePersistentObject1 = teeSuccess
            · simp [hOpen, hClose, Effect.apply]
            · simp [hOpen, hClose, Effect.apply]
          · simp [hOpen, Effect.apply]

/- Every command changes the objects by its effect. -/
theorem storage_tratar
    {history : List Evento}
    {estado estado' : Estado}
    {evento : Evento}
    {retorno : Retorno}
    (hTratar : tratar estado evento = some (estado', retorno)) :
    estado'.storage =
      (efeito ⟨history, estado, evento, retorno⟩).apply
        estado.storage := by
  have hInvoca := (tratar_eq_some hTratar).2
  have hStorage :
      (taInvokeCommandEntryPoint evento.amb estado.storage
          evento.chamada).1 =
        estado'.storage :=
    congrArg Prod.fst hInvoca
  rw [← hStorage]
  unfold taInvokeCommandEntryPoint efeito
  by_cases hWrite : evento.chamada.command = taDraCmdWriteRaw
  · rw [if_pos hWrite, if_pos hWrite]
    unfold invocarCreate
    split
    · rfl
    · exact createRawObject_storage _ _ _ _
  · rw [if_neg hWrite, if_neg hWrite]
    by_cases hRead : evento.chamada.command = taDraCmdReadRaw
    · have hDelete :
          evento.chamada.command ≠ taDraCmdDelete := by
        rw [hRead]
        decide
      rw [if_pos hRead, if_neg hDelete]
      unfold invocarRead
      split <;> rfl
    · rw [if_neg hRead]
      by_cases hDelete : evento.chamada.command = taDraCmdDelete
      · rw [if_pos hDelete, if_pos hDelete]
        unfold invocarDelete
        split
        · rfl
        · exact deleteObject_storage _ _ _ _ _
      · rw [if_neg hDelete, if_neg hDelete]
        split
        · unfold invocarProva
          split <;> rfl
        · rfl

------------------------------------------------------------
-- Changes Of Objects
------------------------------------------------------------

/- The application acknowledges a write of the object. -/
def Escreve
    (objId data : List Char)
    (x : Step Estado Evento Retorno) : Prop :=
  x.event.chamada.command = taDraCmdWriteRaw ∧
    objetoDe x.event.chamada = objId ∧
    dadosDe x.event.chamada = data ∧
    x.output = .resultado teeSuccess

/-
  A write fails after it has created the object, and this is
  left of it: nothing, unless its deletion fails as well.
-/
def Interrompe
    (objId : List Char)
    (resto : Option (List Char))
    (x : Step Estado Evento Retorno) : Prop :=
  x.event.chamada.command = taDraCmdWriteRaw ∧
    x.event.chamada.paramTypes =
      teeParamTypes teeParamTypeMemrefInput
        teeParamTypeMemrefInput teeParamTypeNone
        teeParamTypeNone ∧
    objetoDe x.event.chamada = objId ∧
    x.event.amb.criacao.interrompe = true ∧
    x.event.amb.criacao.sobra (dadosDe x.event.chamada) = resto

/- It acknowledges a deletion that the TEE has made. -/
def Apaga
    (objId : List Char)
    (x : Step Estado Evento Retorno) : Prop :=
  x.event.chamada.command = taDraCmdDelete ∧
    objetoDe x.event.chamada = objId ∧
    x.output = .resultado teeSuccess ∧
    x.event.amb.closeAndDeletePersistentObject1 = teeSuccess

/- The object has this data after the command. -/
def Deixa
    (objId data : List Char)
    (x : Step Estado Evento Retorno) : Prop :=
  Escreve objId data x ∨ Interrompe objId (some data) x

/- The command changes the object. -/
def Altera
    (objId : List Char)
    (x : Step Estado Evento Retorno) : Prop :=
  (∃ data, Escreve objId data x) ∨
    (∃ resto, Interrompe objId resto x) ∨ Apaga objId x

/- A write is acknowledged when its data is written. -/
theorem createRawObject_sucesso_iff
    (tee : TeeCriacao)
    (storage : Storage)
    (objId data : List Char) :
    (createRawObject tee storage objId data).2 = teeSuccess ↔
      tee.grava = true := by
  rcases createRawObject_eq tee storage objId data with
    ⟨res, hRes, hCreate⟩
  rw [hCreate]
  exact hRes

/- A deletion is acknowledged when the object was opened. -/
theorem deleteObject_sucesso_iff
    (objIdAlocado : Bool)
    (openPersistentObject : TeeResult)
    (closeAndDeletePersistentObject1 : TeeResult)
    (storage : Storage)
    (objId : List Char) :
    (deleteObject objIdAlocado openPersistentObject
        closeAndDeletePersistentObject1 storage objId).2 =
        teeSuccess ↔
      objIdAlocado = true ∧ (storage objId).isSome ∧
        openPersistentObject = teeSuccess := by
  have hMemory : teeErrorOutOfMemory ≠ teeSuccess := by decide
  have hMissing : teeErrorItemNotFound ≠ teeSuccess := by decide
  unfold deleteObject
  cases objIdAlocado with
  | false => simp [hMemory]
  | true =>
      cases storage objId with
      | none => simp [hMissing]
      | some data =>
          by_cases hOpen : openPersistentObject = teeSuccess
          · simp [hOpen]
          · simp [hOpen]

/- The effect of an acknowledged write. -/
theorem efeito_of_escreve
    {history : List Evento}
    {estado estado' : Estado}
    {evento : Evento}
    {retorno : Retorno}
    {objId data : List Char}
    (hTratar : tratar estado evento = some (estado', retorno))
    (hEscreve :
      Escreve objId data ⟨history, estado, evento, retorno⟩) :
    efeito ⟨history, estado, evento, retorno⟩ =
      .put objId data := by
  rcases hEscreve with ⟨hCommand, rfl, rfl, hOutput⟩
  have hInvoca := congrArg Prod.snd (tratar_eq_some hTratar).2
  dsimp only at hCommand hOutput hInvoca ⊢
  rw [hOutput, taInvokeCommandEntryPoint, if_pos hCommand,
    invocarCreate] at hInvoca
  rw [efeito, if_pos hCommand]
  split at hInvoca
  · cases hInvoca
  · rename_i hTypes
    have hGrava :=
      (createRawObject_sucesso_iff _ _ _ _).mp
        (Retorno.resultado.inj hInvoca)
    rw [if_neg hTypes, efeitoCreate, if_pos hGrava]

/- The effect of a write that is not finished. -/
theorem efeito_of_interrompe
    {x : Step Estado Evento Retorno}
    {objId : List Char}
    {resto : Option (List Char)}
    (hInterrompe : Interrompe objId resto x) :
    efeito x = .set objId resto := by
  rcases hInterrompe with
    ⟨hCommand, hTypes, rfl, hInterrompe, rfl⟩
  have hGrava : ¬ x.event.amb.criacao.grava = true := by
    intro hGrava
    simp only [TeeCriacao.grava, TeeCriacao.interrompe,
      decide_eq_true_eq] at hGrava hInterrompe
    exact hInterrompe.2.2.2 hGrava.2.2.2
  rw [efeito, if_pos hCommand, if_neg (not_not.mpr hTypes),
    efeitoCreate, if_neg hGrava, if_pos hInterrompe]

/- The effect of a deletion that was made. -/
theorem efeito_of_apaga
    {history : List Evento}
    {estado estado' : Estado}
    {evento : Evento}
    {retorno : Retorno}
    {objId : List Char}
    (hTratar : tratar estado evento = some (estado', retorno))
    (hApaga :
      Apaga objId ⟨history, estado, evento, retorno⟩) :
    efeito ⟨history, estado, evento, retorno⟩ =
      .erase objId := by
  rcases hApaga with ⟨hCommand, rfl, hOutput, hClose⟩
  have hInvoca := congrArg Prod.snd (tratar_eq_some hTratar).2
  dsimp only at hCommand hOutput hClose hInvoca ⊢
  have hWrite : evento.chamada.command ≠ taDraCmdWriteRaw := by
    rw [hCommand]
    decide
  have hRead : evento.chamada.command ≠ taDraCmdReadRaw := by
    rw [hCommand]
    decide
  rw [hOutput, taInvokeCommandEntryPoint, if_neg hWrite,
    if_neg hRead, if_pos hCommand, invocarDelete] at hInvoca
  rw [efeito, if_neg hWrite, if_pos hCommand]
  split at hInvoca
  · cases hInvoca
  · rename_i hTypes
    rcases (deleteObject_sucesso_iff _ _ _ _ _).mp
        (Retorno.resultado.inj hInvoca) with
      ⟨hAlocado, hObject, hOpen⟩
    rw [if_neg hTypes, efeitoDelete]
    exact if_pos ⟨hAlocado, hObject, hOpen, hClose⟩

/- Only such writes leave data under a name. -/
theorem deixa_of_leaves
    {history : List Evento}
    {estado estado' : Estado}
    {evento : Evento}
    {retorno : Retorno}
    {objId data : List Char}
    (hTratar : tratar estado evento = some (estado', retorno))
    (hLeaves :
      (efeito ⟨history, estado, evento, retorno⟩).leaves objId =
        some (some data)) :
    Deixa objId data ⟨history, estado, evento, retorno⟩ := by
  have hInvoca := congrArg Prod.snd (tratar_eq_some hTratar).2
  dsimp only at hInvoca
  unfold efeito at hLeaves
  dsimp only at hLeaves
  split at hLeaves
  · rename_i hCommand
    split at hLeaves
    · cases hLeaves
    · rename_i hTypes
      rw [taInvokeCommandEntryPoint, if_pos hCommand,
        invocarCreate, if_neg hTypes] at hInvoca
      unfold efeitoCreate at hLeaves
      split at hLeaves
      · rename_i hGrava
        rw [Effect.leaves] at hLeaves
        split at hLeaves
        · rename_i hName
          refine
            Or.inl
              ⟨hCommand, hName,
                Option.some.inj (Option.some.inj hLeaves), ?_⟩
          dsimp only
          rw [← hInvoca]
          exact
            congrArg Retorno.resultado
              ((createRawObject_sucesso_iff _ _ _ _).mpr hGrava)
        · cases hLeaves
      · split at hLeaves
        · rename_i hInterrompe
          rw [Effect.leaves_set] at hLeaves
          split at hLeaves
          · rename_i hName
            exact
              Or.inr
                ⟨hCommand, not_not.mp hTypes, hName,
                  hInterrompe, Option.some.inj hLeaves⟩
          · cases hLeaves
        · cases hLeaves
  · split at hLeaves
    · split at hLeaves
      · cases hLeaves
      · unfold efeitoDelete at hLeaves
        split at hLeaves
        · rw [Effect.leaves] at hLeaves
          split at hLeaves
          · cases hLeaves
          · cases hLeaves
        · cases hLeaves
    · cases hLeaves

------------------------------------------------------------
-- Revealed Objects
------------------------------------------------------------

/- The application answers with the object or a proof. -/
def Responde
    (objId : List Char)
    (x : Step Estado Evento Retorno) : Prop :=
  (x.event.chamada.command = taDraCmdReadRaw ∧
      objetoDe x.event.chamada = objId ∧
      ∃ dados tamanho,
        x.output = .leitura teeSuccess dados tamanho) ∨
    (PedeProva x.event.chamada ∧
      (paramsDaProva x.event.chamada).objIdSecrets = objId ∧
      ∃ res prova, x.output = .prova (.ok ⟨res, some prova⟩))

/-
  The answer shows this data: the part of it that the TEE
  read, or the proof that is computed from all of it.
-/
def Revela
    (objId data : List Char)
    (x : Step Estado Evento Retorno) : Prop :=
  (x.event.chamada.command = taDraCmdReadRaw ∧
      objetoDe x.event.chamada = objId ∧
      ∃ tamanho,
        x.output =
          .leitura teeSuccess
            (data.take x.event.amb.leitura.readBytes)
            tamanho) ∨
    (PedeProva x.event.chamada ∧
      (paramsDaProva x.event.chamada).objIdSecrets = objId ∧
      ∃ prova,
        x.output = .prova (.ok ⟨teeSuccess, some prova⟩) ∧
          calcularProva x.event.amb.memoria
              (data ++
                List.replicate (secretsSzHex - data.length)
                  '\x00')
              (paramsDaProva x.event.chamada) =
            .ok prova)

/- A successful read moves out what the TEE read. -/
theorem readRawObject_sucesso
    {tee : TeeLeitura}
    {storage : Storage}
    {objId dados : List Char}
    {dataSz tamanho : Nat}
    (hRead :
      readRawObject tee storage objId dataSz =
        (teeSuccess, dados, tamanho)) :
    ∃ data,
      storage objId = some data ∧
        dados = data.take tee.readBytes := by
  have hMemory : teeErrorOutOfMemory ≠ teeSuccess := by decide
  have hShort : teeErrorShortBuffer ≠ teeSuccess := by decide
  unfold readRawObject at hRead
  split at hRead
  · exact absurd (congrArg Prod.fst hRead) hMemory
  · split at hRead
    · exact absurd (congrArg Prod.fst hRead) hMemory
    · split at hRead
      · rename_i res hAbrir
        exfalso
        have hRes : res = teeSuccess := congrArg Prod.fst hRead
        rw [hRes] at hAbrir
        unfold abrir at hAbrir
        split at hAbrir
        · cases hAbrir
        · split at hAbrir
          · rename_i hOpen
            exact hOpen (Except.error.inj hAbrir)
          · split at hAbrir
            · rename_i hInfo
              exact hInfo (Except.error.inj hAbrir)
            · cases hAbrir
      · rename_i object hAbrir
        refine
          ⟨object, ((abrir_eq_ok_iff _ _ _ _).mp hAbrir).1, ?_⟩
        split at hRead
        · exact absurd (congrArg Prod.fst hRead) hShort
        · split at hRead
          · rename_i hNot
            exact absurd (congrArg Prod.fst hRead) hNot
          · split at hRead
            · exact (congrArg (fun t => t.2.1) hRead).symm
            · rename_i hAll
              rw [not_not.mp hAll, List.take_length]
              exact (congrArg (fun t => t.2.1) hRead).symm

/- A successful answer reveals what is stored. -/
theorem revela_of_responde
    {history : List Evento}
    {estado estado' : Estado}
    {evento : Evento}
    {retorno : Retorno}
    {objId : List Char}
    (hTratar : tratar estado evento = some (estado', retorno))
    (hResponde :
      Responde objId ⟨history, estado, evento, retorno⟩) :
    ∃ data,
      estado.storage objId = some data ∧
        Revela objId data
          ⟨history, estado, evento, retorno⟩ := by
  have hInvoca := congrArg Prod.snd (tratar_eq_some hTratar).2
  dsimp only at hInvoca
  rcases hResponde with
    ⟨hCommand, rfl, dados, tamanho, hOutput⟩ |
      ⟨hPede, rfl, res, prova, hOutput⟩
  · dsimp only at hCommand hOutput
    have hWrite :
        evento.chamada.command ≠ taDraCmdWriteRaw := by
      rw [hCommand]
      decide
    rw [hOutput, taInvokeCommandEntryPoint, if_neg hWrite,
      if_pos hCommand, invocarRead] at hInvoca
    split at hInvoca
    · cases hInvoca
    · rcases hRead :
          readRawObject evento.amb.leitura estado.storage
            (evento.chamada.params.get 0).dados
            (evento.chamada.params.get 1).size with
        ⟨res, lidos, novo⟩
      rw [hRead] at hInvoca
      rcases Retorno.leitura.inj hInvoca with ⟨rfl, rfl, _⟩
      rcases readRawObject_sucesso hRead with
        ⟨data, hData, hDados⟩
      refine ⟨data, hData, Or.inl ⟨hCommand, rfl, tamanho, ?_⟩⟩
      dsimp only
      rw [hOutput, hDados]
  · dsimp only at hPede hOutput
    rw [hOutput, taInvoke_of_pedeProva _ _ hPede] at hInvoca
    have hReply := Retorno.prova.inj hInvoca
    rcases legivel_of_prova hReply with ⟨data, hLegivel⟩
    have hComputed := replyProof_of_legivel
      evento.amb.memoria hLegivel
    rw [hReply] at hComputed
    split at hComputed
    · split at hComputed
      · cases hComputed
      · rename_i outra hProva
        cases hComputed
        exact
          ⟨data, hLegivel.guardado,
            Or.inr ⟨hPede, rfl, prova, hOutput, hProva⟩⟩
    · cases hComputed

/- A command that leaves nothing does not change the object. -/
theorem not_altera_of_leaves
    {x : Step Estado Evento Retorno}
    {objId : List Char}
    (hStep :
      ∃ estado',
        tratar x.before x.event = some (estado', x.output))
    (hLeaves : (efeito x).leaves objId = none) :
    ¬ Altera objId x := by
  rcases hStep with ⟨estado', hTratar⟩
  rintro (⟨data, hEscreve⟩ | ⟨resto, hInterrompe⟩ | hApaga)
  · have hPut : efeito x = .put objId data :=
      efeito_of_escreve hTratar hEscreve
    rw [hPut, Effect.leaves, if_pos rfl] at hLeaves
    cases hLeaves
  · rw [efeito_of_interrompe hInterrompe, Effect.leaves_set,
      if_pos rfl] at hLeaves
    cases hLeaves
  · have hErase : efeito x = .erase objId :=
      efeito_of_apaga hTratar hApaga
    rw [hErase, Effect.leaves, if_pos rfl] at hLeaves
    cases hLeaves

/-
  In every run of commands, whatever fails in between, an
  answer that reads an object or computes a proof from it
  shows exactly what the last command that changed the object
  left: the data of an acknowledged write, or the part of it
  that a write had written when it failed and its deletion
  did, too. Otherwise it shows what was there at the start. A
  deletion changes the object when the TEE makes it, and not
  when the application acknowledges it.
-/
theorem revelado_da_escrita
    (storage : Storage)
    {eventos : List Evento}
    {last : Estado}
    {steps antes depois : List (Step Estado Evento Retorno)}
    {y : Step Estado Evento Retorno}
    {objId : List Char}
    (hRun :
      exec tratar ⟨storage, true⟩ eventos =
        some (last, steps))
    (hSplit : steps = antes ++ y :: depois)
    (hResponde : Responde objId y) :
    ∃ data,
      Revela objId data y ∧
        ((∃ inicio x fim,
            antes = inicio ++ x :: fim ∧
              Deixa objId data x ∧
              ∀ z ∈ fim, ¬ Altera objId z) ∨
          (storage objId = some data ∧
            ∀ z ∈ antes, ¬ Altera objId z)) := by
  have hStep := Transition.step_of_exec hRun
  have hSource :
      Source efeito (storage objId) antes objId
        (y.before.storage objId) :=
    ObjectStore.source_of_exec Estado.storage
      (fun _ _ _ _ _ hTratar => storage_tratar hTratar)
      hRun objId hSplit
  have hAntes : ∀ z ∈ antes, z ∈ steps := by
    intro z hz
    rw [hSplit]
    exact List.mem_append_left _ hz
  have hY : y ∈ steps := by
    rw [hSplit]
    exact List.mem_append_right _ List.mem_cons_self
  rcases hStep y hY with ⟨estado', hTratar⟩
  rcases revela_of_responde hTratar hResponde with
    ⟨data, hData, hRevela⟩
  refine ⟨data, hRevela, ?_⟩
  rw [hData] at hSource
  rcases hSource with
    ⟨inicio, x, fim, hPast, hLeft, hFim⟩ | ⟨hStart, hAll⟩
  · have hX : x ∈ antes := by
      rw [hPast]
      exact List.mem_append_right _ List.mem_cons_self
    rcases hStep x (hAntes x hX) with ⟨estado'', hTratarX⟩
    refine
      Or.inl
        ⟨inicio, x, fim, hPast,
          deixa_of_leaves hTratarX hLeft, fun z hz => ?_⟩
    have hZ : z ∈ antes := by
      rw [hPast]
      exact
        List.mem_append_right _ (List.mem_cons_of_mem _ hz)
    exact
      not_altera_of_leaves (hStep z (hAntes z hZ)) (hFim z hz)
  · exact
      Or.inr
        ⟨hStart, fun z hz =>
          not_altera_of_leaves (hStep z (hAntes z hz))
            (hAll z hz)⟩

def teeErrorStorageNotAvailable : TeeResult := 0xF0100003

def leLongo : Chamada where
  command := taDraCmdReadRaw
  paramTypes :=
    teeParamTypes teeParamTypeMemrefInput
      teeParamTypeMemrefOutput teeParamTypeNone
      teeParamTypeNone
  params :=
    #v[⟨idObjSecrets, []⟩, ⟨List.replicate 97 '\x00', []⟩,
      ⟨[], []⟩, ⟨[], []⟩]

def apagaLongo : Chamada where
  command := taDraCmdDelete
  paramTypes :=
    teeParamTypes teeParamTypeMemrefInput teeParamTypeNone
      teeParamTypeNone teeParamTypeNone
  params :=
    #v[⟨idObjSecrets, []⟩, ⟨[], []⟩, ⟨[], []⟩, ⟨[], []⟩]

/-
  The object of 97 bytes is written, it is not deleted since
  the storage cannot be reached, and it is read.
-/
def eventosLidos : List Evento :=
  [⟨ambienteLongo, escreveLongo⟩,
    ⟨{ ambienteLongo with
        closeAndDeletePersistentObject1 :=
          teeErrorStorageNotAvailable }, apagaLongo⟩,
    ⟨ambienteLongo, leLongo⟩]

/- The deletion is acknowledged all the same. -/
theorem retornos_eventosLidos :
    (exec tratar ⟨Storage.empty, true⟩ eventosLidos).map
        (fun run =>
          run.2.map (fun x => (x.event.chamada.command,
            objetoDe x.event.chamada, x.output))) =
      some
        [(taDraCmdWriteRaw, idObjSecrets,
            .resultado teeSuccess),
          (taDraCmdDelete, idObjSecrets,
            .resultado teeSuccess),
          (taDraCmdReadRaw, idObjSecrets,
            .leitura teeSuccess (List.replicate 97 '0')
              97)] := by
  decide +kernel

theorem revelado_da_escrita_lidos :
    ∃ last x y z,
      exec tratar ⟨Storage.empty, true⟩ eventosLidos =
          some (last, [x, y, z]) ∧
        y.output = .resultado teeSuccess ∧
        ∃ data,
          Revela idObjSecrets data z ∧
            ((∃ inicio w fim,
                [x, y] = inicio ++ w :: fim ∧
                  Deixa idObjSecrets data w ∧
                  ∀ w' ∈ fim, ¬ Altera idObjSecrets w') ∨
              (Storage.empty idObjSecrets = some data ∧
                ∀ w ∈ [x, y], ¬ Altera idObjSecrets w)) := by
  rcases Option.map_eq_some_iff.mp retornos_eventosLidos with
    ⟨⟨last, steps⟩, hRun, hRetornos⟩
  rcases List.map_eq_cons_iff.mp hRetornos with
    ⟨x, later, rfl, _, hLater⟩
  rcases List.map_eq_cons_iff.mp hLater with
    ⟨y, later', rfl, hY, hLater'⟩
  rcases List.map_eq_cons_iff.mp hLater' with
    ⟨z, fim, rfl, hZ, hFim⟩
  rw [List.map_eq_nil_iff.mp hFim] at hRun
  simp only [Prod.mk.injEq] at hY hZ
  have hSplit : [x, y, z] = [x, y] ++ z :: [] := rfl
  exact
    ⟨last, x, y, z, hRun, hY.2.2,
      revelado_da_escrita .empty hRun hSplit
        (Or.inl ⟨hZ.1, hZ.2.1, _, _, hZ.2.2⟩)⟩

end Ta

end Optee

end P4dra
