import P4dra.Optee.Host
import P4dra.Tna.WireFields

/-
  When the trusted application answers with a proof.

  It does so exactly when every call of the TEE succeeds and
  gives the whole object, and no buffer is left on the way.

  Main declarations:
    * `Ta.FalhaAntes`, `Ta.replyProof_of_falhaAntes`
    * `Ta.Legivel`, `Ta.replyProof_of_legivel`
    * `Ta.legivel_of_prova`, `Ta.calcularProva_cases`
    * `Host.ProvaDisponivel`, `Host.prova_iff`
-/

------------------------------------------------------------
-- Reading The Secrets
------------------------------------------------------------

namespace P4dra

open Bytes (Byte slice)

namespace Optee

namespace Ta

/- Every call succeeds and the whole object is read. -/
structure Legivel
    (tee : TeeLeitura)
    (storage : Storage)
    (objId object : List Char) : Prop where
  alocado : tee.objIdAlocado = true
  guardado : storage objId = some object
  aberto : tee.openPersistentObject = teeSuccess
  informado : tee.getObjectInfo1 = teeSuccess
  lido : tee.readObjectData = teeSuccess
  inteiro : tee.readBytes = object.length

theorem abrir_eq_ok_iff
    (tee : TeeLeitura)
    (storage : Storage)
    (objId object : List Char) :
    abrir tee storage objId = .ok object ↔
      storage objId = some object ∧
        tee.openPersistentObject = teeSuccess ∧
        tee.getObjectInfo1 = teeSuccess := by
  unfold abrir
  cases hObject : storage objId with
  | none => simp
  | some data =>
      by_cases hOpen : tee.openPersistentObject = teeSuccess
      · by_cases hInfo : tee.getObjectInfo1 = teeSuccess
        · simp [hOpen, hInfo]
        · simp [hOpen, hInfo]
      · simp [hOpen]

/- `secrets_HEX` after a read that fits: zeros to its end. -/
theorem teeMemMove_teeMalloc
    {object : List Char}
    {n : Nat}
    (hLength : object.length ≤ n) :
    teeMemMove (teeMalloc n) object =
      some
        (object ++
          List.replicate (n - object.length) '\x00') := by
  rw [teeMemMove, teeMalloc, List.length_replicate,
    if_pos hLength, List.drop_replicate]

theorem teeMemMove_teeMalloc_eq_none
    {object : List Char}
    {n : Nat}
    (hLength : n < object.length) :
    teeMemMove (teeMalloc n) object = none := by
  rw [teeMemMove, teeMalloc, List.length_replicate,
    if_neg (by omega)]

/- A call of the TEE fails before `secrets_HEX` is used. -/
def FalhaAntes
    (tee : TeeLeitura)
    (storage : Storage)
    (objId : List Char) : Prop :=
  tee.objIdAlocado = false ∨
    storage objId = none ∨
    tee.openPersistentObject ≠ teeSuccess ∨
    tee.getObjectInfo1 ≠ teeSuccess ∨
    tee.readObjectData ≠ teeSuccess

/- A failing call is the result of the command. -/
theorem replyProof_of_falhaAntes
    {tee : TeeLeitura}
    {storage : Storage}
    {params : Params}
    (memoria : Memoria)
    (hFalha : FalhaAntes tee storage params.objIdSecrets) :
    ∃ res,
      res ≠ teeSuccess ∧
        replyProof tee memoria storage params =
          .ok ⟨res, none⟩ := by
  have hMemory : teeErrorOutOfMemory ≠ teeSuccess := by decide
  have hFound : teeErrorItemNotFound ≠ teeSuccess := by decide
  unfold replyProof
  cases hAlocado : tee.objIdAlocado with
  | false => exact ⟨_, hMemory, rfl⟩
  | true =>
      simp only [Bool.not_true, Bool.false_eq_true, if_false]
      unfold abrir
      cases hObject : storage params.objIdSecrets with
      | none => exact ⟨_, hFound, rfl⟩
      | some object =>
          by_cases hOpen : tee.openPersistentObject = teeSuccess
          · by_cases hInfo : tee.getObjectInfo1 = teeSuccess
            · by_cases hRead : tee.readObjectData = teeSuccess
              · rcases hFalha with h | h | h | h | h
                · rw [hAlocado] at h
                  cases h
                · rw [hObject] at h
                  cases h
                · exact absurd hOpen h
                · exact absurd hInfo h
                · exact absurd hRead h
              · refine ⟨_, hRead, ?_⟩
                simp [hOpen, hInfo, hRead]
            · refine ⟨_, hInfo, ?_⟩
              simp [hOpen, hInfo]
          · refine ⟨_, hOpen, ?_⟩
            simp [hOpen]

/- When none of those calls fails, there is an object. -/
theorem lido_of_not_falhaAntes
    {tee : TeeLeitura}
    {storage : Storage}
    {objId : List Char}
    (hFalha : ¬ FalhaAntes tee storage objId) :
    ∃ object,
      tee.objIdAlocado = true ∧
        storage objId = some object ∧
        tee.openPersistentObject = teeSuccess ∧
        tee.getObjectInfo1 = teeSuccess ∧
        tee.readObjectData = teeSuccess := by
  simp only [FalhaAntes, not_or, not_not] at hFalha
  rcases hFalha with
    ⟨hAlocado, hObject, hOpen, hInfo, hRead⟩
  rcases Option.ne_none_iff_exists'.mp hObject with
    ⟨object, hGuardado⟩
  exact
    ⟨object, by simpa using hAlocado, hGuardado, hOpen, hInfo,
      hRead⟩

/- The command behind the calls that can fail. -/
theorem replyProof_of_lido
    {tee : TeeLeitura}
    {storage : Storage}
    {params : Params}
    {object : List Char}
    (memoria : Memoria)
    (hAlocado : tee.objIdAlocado = true)
    (hAbrir :
      abrir tee storage params.objIdSecrets = .ok object)
    (hLido : tee.readObjectData = teeSuccess) :
    replyProof tee memoria storage params =
      match
        teeMemMove (teeMalloc secretsSzHex)
          (object.take tee.readBytes)
      with
      | none => .error .secretsHex
      | some secretsHex =>
          if tee.readBytes ≠ object.length then
            .ok ⟨teeSuccess, none⟩
          else
            match calcularProva memoria secretsHex params with
            | .error estouro => .error estouro
            | .ok prova => .ok ⟨teeSuccess, some prova⟩ := by
  unfold replyProof
  rw [hAlocado, hAbrir, hLido]
  rfl

/- On a readable object the command computes or overflows. -/
theorem replyProof_of_legivel
    {tee : TeeLeitura}
    {storage : Storage}
    {params : Params}
    {object : List Char}
    (memoria : Memoria)
    (hLegivel : Legivel tee storage params.objIdSecrets object) :
    replyProof tee memoria storage params =
      if object.length ≤ secretsSzHex then
        match
          calcularProva memoria
            (object ++
              List.replicate (secretsSzHex - object.length)
                '\x00')
            params
        with
        | .error estouro => .error estouro
        | .ok prova => .ok ⟨teeSuccess, some prova⟩
      else
        .error .secretsHex := by
  have hAbrir :
      abrir tee storage params.objIdSecrets = .ok object :=
    (abrir_eq_ok_iff _ _ _ _).mpr
      ⟨hLegivel.guardado, hLegivel.aberto, hLegivel.informado⟩
  rw [replyProof_of_lido memoria hLegivel.alocado hAbrir
    hLegivel.lido, hLegivel.inteiro, List.take_length]
  by_cases hFits : object.length ≤ secretsSzHex
  · rw [if_pos hFits, teeMemMove_teeMalloc hFits]
    simp
  · rw [if_neg hFits, teeMemMove_teeMalloc_eq_none (by omega)]

/- A proof comes from a readable object. -/
theorem legivel_of_prova
    {tee : TeeLeitura}
    {memoria : Memoria}
    {storage : Storage}
    {params : Params}
    {res : TeeResult}
    {prova : List Byte}
    (hProva :
      replyProof tee memoria storage params =
        .ok ⟨res, some prova⟩) :
    ∃ object,
      Legivel tee storage params.objIdSecrets object := by
  by_cases hFalha : FalhaAntes tee storage params.objIdSecrets
  · rcases replyProof_of_falhaAntes memoria hFalha with
      ⟨falha, _, hReply⟩
    rw [hReply] at hProva
    cases hProva
  · rcases lido_of_not_falhaAntes hFalha with
      ⟨object, hAlocado, hGuardado, hAberto, hInformado, hLido⟩
    have hAbrir :
        abrir tee storage params.objIdSecrets = .ok object :=
      (abrir_eq_ok_iff _ _ _ _).mpr
        ⟨hGuardado, hAberto, hInformado⟩
    refine
      ⟨object, hAlocado, hGuardado, hAberto, hInformado,
        hLido, ?_⟩
    rw [replyProof_of_lido memoria hAlocado hAbrir hLido]
      at hProva
    by_contra hInteiro
    split at hProva
    · cases hProva
    · rw [if_pos hInteiro] at hProva
      cases hProva

/-
  The proof is computed unless a buffer of digits overflows,
  and it overflows an output parameter that is too short.
-/
theorem calcularProva_cases
    (memoria : Memoria)
    (secretsHex : List Char)
    (params : Params) :
    (∃ estouro,
        calcularProva memoria secretsHex params =
            .error estouro ∧
          estouro ≠ .secretsHex ∧ estouro ≠ .prova) ∨
      ∃ s,
        calcularProva memoria secretsHex params =
          if proofSz ≤ params.provaSz then
            .ok (Forro.forro s)
          else
            .error .prova := by
  have hConverter :
      ∀ {n : Nat} (array : Vector Byte n) (texto : List Char)
        {esperado estouro : Estouro},
        converter array texto esperado = .error estouro →
          estouro = esperado := by
    intro n array texto esperado estouro hErro
    rw [converter] at hErro
    split at hErro
    · cases hErro
      rfl
    · cases hErro
  unfold calcularProva
  dsimp only [bind, Except.bind]
  split
  · rename_i hErro
    rw [hConverter _ _ hErro]
    exact Or.inl ⟨.chave, rfl, by decide, by decide⟩
  · split
    · rename_i hErro
      rw [hConverter _ _ hErro]
      exact Or.inl ⟨.idDispositivo, rfl, by decide, by decide⟩
    · split
      · rename_i hErro
        rw [hConverter _ _ hErro]
        exact Or.inl ⟨.idRodada, rfl, by decide, by decide⟩
      · split
        · rename_i hErro
          rw [hConverter _ _ hErro]
          exact Or.inl ⟨.nonce, rfl, by decide, by decide⟩
        · exact Or.inr ⟨_, rfl⟩

/- A computed proof has 64 bytes. -/
theorem length_calcularProva
    {memoria : Memoria}
    {secretsHex : List Char}
    {params : Params}
    {prova : List Byte}
    (hProva :
      calcularProva memoria secretsHex params = .ok prova) :
    prova.length = proofSz := by
  rcases calcularProva_cases memoria secretsHex params with
    ⟨estouro, hErro, _⟩ | ⟨s, hEq⟩
  · rw [hErro] at hProva
    cases hProva
  · rw [hEq] at hProva
    split at hProva
    · cases hProva
      exact Forro.length_forro _
    · cases hProva

end Ta

------------------------------------------------------------
-- Requests From The Host
------------------------------------------------------------

namespace Host

/- The session opens and the secrets are read. -/
structure ProvaDisponivel
    (amb : Ambiente)
    (storage : Storage) : Prop where
  sessao : amb.sessaoAberta = true
  invoke : amb.invoke = none
  legivel : ∃ object,
    Ta.Legivel amb.tee storage idObjSecrets object

/-
  Of the answers without overflow those with a proof are the
  ones to a request whose secrets are read, and their result
  is success.
-/
theorem prova_iff
    {amb : Ambiente}
    {storage : Storage}
    {idRodada nonce : List Char}
    {resposta : Ta.Resposta}
    (hResposta :
      requestProof amb storage idRodada nonce = .ok resposta) :
    ((∃ res prova, resposta = ⟨res, some prova⟩) ↔
        amb.invoke = none ∧
          ∃ object,
            Ta.Legivel amb.tee storage idObjSecrets object) ∧
      ∀ res prova, resposta = ⟨res, some prova⟩ →
        res = teeSuccess ∧ prova.length = proofSz := by
  unfold requestProof at hResposta
  cases hInvoke : amb.invoke with
  | some falha =>
      rw [hInvoke] at hResposta
      cases hResposta
      constructor
      · constructor
        · rintro ⟨res, prova, hEq⟩
          cases hEq
        · rintro ⟨hNone, _⟩
          cases hNone
      · intro res prova hEq
        cases hEq
  | none =>
      simp only [hInvoke] at hResposta
      have hComputed : ∀ object,
          Ta.Legivel amb.tee storage idObjSecrets object →
            ∃ prova : List Byte,
              resposta = ⟨teeSuccess, some prova⟩ ∧
                prova.length = proofSz := by
        intro object hLegivel
        rw [Ta.replyProof_of_legivel _ hLegivel] at hResposta
        split at hResposta
        · split at hResposta
          · cases hResposta
          · rename_i prova hProva
            cases hResposta
            exact ⟨prova, rfl, Ta.length_calcularProva hProva⟩
        · cases hResposta
      constructor
      · constructor
        · rintro ⟨res, prova, hEq⟩
          rw [hEq] at hResposta
          exact ⟨rfl, Ta.legivel_of_prova hResposta⟩
        · rintro ⟨_, object, hLegivel⟩
          rcases hComputed object hLegivel with
            ⟨prova, hEq, _⟩
          exact ⟨_, prova, hEq⟩
      · intro res prova hEq
        rw [hEq] at hResposta
        rcases Ta.legivel_of_prova hResposta with
          ⟨object, hLegivel⟩
        rcases hComputed object hLegivel with
          ⟨prova', hEq', hLength⟩
        rw [hEq] at hEq'
        cases hEq'
        exact ⟨rfl, hLength⟩

end Host

end Optee

end P4dra
