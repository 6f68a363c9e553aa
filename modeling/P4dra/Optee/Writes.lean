import Mathlib.Data.Fintype.Basic
import Mathlib.Tactic.FinCases
import P4dra.Optee.Host

/-
  The writes of `optee_dra 1`.

  A write succeeds, loses the old object, or leaves it, by the
  first of its calls that fails. The process stops at the
  first write that fails: the objects before it are new, the
  ones after it are old.

  Main declarations:
    * `writeSecureObject_eq`, `proximaGravacao_cons`
    * `executar`, `objeto_executar`
    * `reprovisionar`
    * `objeto_reprovisionar`, `reprovisionar_objetos`
-/

------------------------------------------------------------
-- One Write
------------------------------------------------------------

namespace P4dra

namespace Optee

namespace Host

/- The write succeeds. -/
def sucede (escrita : Escrita) : Bool :=
  escrita.invoke = none ∧ escrita.tee.grava

/- The write fails after the object was created. -/
def interrompe (escrita : Escrita) : Bool :=
  escrita.invoke = none ∧ escrita.tee.interrompe

/- What one write does to what is stored. -/
theorem writeSecureObject_eq
    (escrita : Escrita)
    (storage : Storage)
    (g : Gravacao) :
    ∃ res,
      (res ≠ teeSuccess ↔ sucede escrita = false) ∧
        writeSecureObject escrita storage g =
          (if sucede escrita then
              Function.update storage g.1 (some g.2)
            else if interrompe escrita then
              Function.update storage g.1
                (escrita.tee.sobra g.2)
            else
              storage,
            res) := by
  rcases escrita with ⟨invoke, tee⟩
  cases invoke with
  | some falha =>
      have hSucede : sucede ⟨some falha, tee⟩ = false := by
        simp [sucede]
      have hInterrompe :
          interrompe ⟨some falha, tee⟩ = false := by
        simp [interrompe]
      refine ⟨falha, ?_, ?_⟩
      · exact ⟨fun _ => hSucede, fun _ => falha.property⟩
      · rw [hSucede, hInterrompe]
        rfl
  | none =>
      have hSucede : sucede ⟨none, tee⟩ = tee.grava := by
        simp [sucede]
      have hInterrompe :
          interrompe ⟨none, tee⟩ = tee.interrompe := by
        simp [interrompe]
      rcases Ta.createRawObject_eq tee storage g.1 g.2 with
        ⟨res, hRes, hCreate⟩
      refine ⟨res, ?_, ?_⟩
      · rw [hSucede, Ne, hRes, Bool.not_eq_true]
      · rw [hSucede, hInterrompe]
        exact hCreate

/- One turn of a process. -/
theorem proximaGravacao_cons
    (escrita : Escrita)
    (storage : Storage)
    (g : Gravacao)
    (resto : List Gravacao) :
    proximaGravacao escrita storage (g :: resto) =
      some
        (if sucede escrita then
            Function.update storage g.1 (some g.2)
          else if interrompe escrita then
            Function.update storage g.1 (escrita.tee.sobra g.2)
          else
            storage,
          if sucede escrita then resto else []) := by
  rcases writeSecureObject_eq escrita storage g with
    ⟨res, hRes, hWrite⟩
  simp only [proximaGravacao, hWrite, hRes]
  cases sucede escrita with
  | false => rfl
  | true => rfl

------------------------------------------------------------
-- A Whole Process
------------------------------------------------------------

/-
  The storage after a process that writes some objects, and
  whether it came to its end. `errx` ends it before.
-/
def executar
    (storage : Storage) :
    List (Gravacao × Escrita) → Storage × Bool
| [] => (storage, true)
| (g, escrita) :: resto =>
    let (storage', res) := writeSecureObject escrita storage g
    if res ≠ teeSuccess then
      (storage', false)
    else
      executar storage' resto

/- `optee_dra 1` on a key and an identifier. -/
def reprovisionar
    (storage : Storage)
    (key idDispositivo : List Char)
    (escritas : Fin 3 → Escrita) : Storage × Bool :=
  executar storage
    ((gravacoes key idDispositivo).zip
      [escritas 0, escritas 1, escritas 2])

/- The number of writes before the first that fails. -/
def feitas (escritas : Fin 3 → Escrita) : Nat :=
  ([escritas 0, escritas 1, escritas 2].takeWhile
    sucede).length

/- The same of any list of writes. -/
def feitasDe (gravadas : List (Gravacao × Escrita)) : Nat :=
  (gravadas.takeWhile fun w => sucede w.2).length

/- The objects in the order in which they are written. -/
def nome (i : Fin 3) : List Char :=
  #v[idObjKey, idObjDisp, idObjSecrets][i]

def novo
    (key idDispositivo : List Char)
    (i : Fin 3) : List Char :=
  #v[key, idDispositivo, key ++ idDispositivo][i]

/- The secrets are the key before the identifier. -/
def SecretsConsistentes (storage : Storage) : Prop :=
  ∃ key idDispositivo,
    storage idObjKey = some key ∧
      storage idObjDisp = some idDispositivo ∧
      storage idObjSecrets = some (key ++ idDispositivo)

theorem executar_cons
    (storage : Storage)
    (g : Gravacao)
    (escrita : Escrita)
    (resto : List (Gravacao × Escrita)) :
    executar storage ((g, escrita) :: resto) =
      if sucede escrita then
        executar (Function.update storage g.1 (some g.2)) resto
      else if interrompe escrita then
        (Function.update storage g.1 (escrita.tee.sobra g.2),
          false)
      else
        (storage, false) := by
  rcases writeSecureObject_eq escrita storage g with
    ⟨res, hRes, hWrite⟩
  simp only [executar, hWrite, hRes]
  cases sucede escrita with
  | true => rfl
  | false =>
      cases interrompe escrita with
      | true => rfl
      | false => rfl

/- An object that no write names is left as it was. -/
theorem executar_of_not_mem
    {objId : List Char}
    {gravadas : List (Gravacao × Escrita)}
    (hOutro : ∀ w ∈ gravadas, objId ≠ w.1.1) :
    ∀ storage,
      (executar storage gravadas).1 objId = storage objId := by
  induction gravadas with
  | nil =>
      intro storage
      rfl
  | cons w resto ih =>
      intro storage
      have hNe : objId ≠ w.1.1 := hOutro w (by simp)
      have hResto : ∀ w ∈ resto, objId ≠ w.1.1 := by
        intro w' hw'
        exact hOutro w' (by simp [hw'])
      rw [executar_cons]
      split
      · rw [ih hResto, Function.update_of_ne hNe]
      · split
        · exact Function.update_of_ne hNe _ _
        · rfl

theorem feitasDe_cons
    (w : Gravacao × Escrita)
    (resto : List (Gravacao × Escrita)) :
    feitasDe (w :: resto) =
      if sucede w.2 then feitasDe resto + 1 else 0 := by
  unfold feitasDe
  rw [List.takeWhile_cons]
  split
  · rfl
  · rfl

theorem executar_completo
    (gravadas : List (Gravacao × Escrita)) :
    ∀ storage,
      (executar storage gravadas).2 = true ↔
        feitasDe gravadas = gravadas.length := by
  induction gravadas with
  | nil => simp [executar, feitasDe]
  | cons w resto ih =>
      intro storage
      rw [executar_cons, feitasDe_cons]
      cases sucede w.2 with
      | true => simp [ih]
      | false =>
          cases interrompe w.2 with
          | true => simp
          | false => simp

/-
  The writes before the one that failed are done, the ones
  after it are not made.
-/
theorem objeto_executar
    {gravadas : List (Gravacao × Escrita)}
    (hNomes : (gravadas.map fun w => w.1.1).Nodup) :
    ∀ storage i (hi : i < gravadas.length),
      (executar storage gravadas).1 gravadas[i].1.1 =
        if i < feitasDe gravadas then
          some gravadas[i].1.2
        else if
            i = feitasDe gravadas ∧
              interrompe gravadas[i].2 then
          gravadas[i].2.tee.sobra gravadas[i].1.2
        else
          storage gravadas[i].1.1 := by
  induction gravadas with
  | nil =>
      intro storage i hi
      cases hi
  | cons w resto ih =>
      intro storage i hi
      rw [List.map_cons, List.nodup_cons] at hNomes
      rcases hNomes with ⟨hNome, hNomes⟩
      have hOutro : ∀ w' ∈ resto, w.1.1 ≠ w'.1.1 := by
        intro w' hw' hEq
        exact hNome (hEq ▸ List.mem_map_of_mem hw')
      rw [executar_cons, feitasDe_cons]
      cases i with
      | zero =>
          cases sucede w.2 with
          | true =>
              simp [executar_of_not_mem hOutro]
          | false =>
              cases hInterrompe : interrompe w.2 with
              | true => simp [hInterrompe]
              | false => simp [hInterrompe]
      | succ i =>
          have hi' : i < resto.length := by simpa using hi
          have hNe : resto[i].1.1 ≠ w.1.1 :=
            (hOutro resto[i] (List.getElem_mem hi')).symm
          cases sucede w.2 with
          | true =>
              simp [ih hNomes _ i hi', hNe]
          | false =>
              cases interrompe w.2 with
              | true => simp [hNe]
              | false => simp

/-
  After `optee_dra 1` the objects before the write that failed
  are new, the ones after it are old, and its own object is
  old, or what is left of it when it is the data that was not
  written: nothing, unless its deletion failed, too.
-/
theorem objeto_reprovisionar
    (storage : Storage)
    (key idDispositivo : List Char)
    (escritas : Fin 3 → Escrita)
    (i : Fin 3) :
    ((reprovisionar storage key idDispositivo escritas).2 =
          true ↔
        feitas escritas = 3) ∧
      (reprovisionar storage key idDispositivo escritas).1
          (nome i) =
        if i < feitas escritas then
          some (novo key idDispositivo i)
        else if
            i = feitas escritas ∧ interrompe (escritas i) then
          (escritas i).tee.sobra (novo key idDispositivo i)
        else
          storage (nome i) := by
  let gravadas :=
    (gravacoes key idDispositivo).zip
      [escritas 0, escritas 1, escritas 2]
  have hNomes : (gravadas.map fun w => w.1.1).Nodup := by
    change [idObjKey, idObjDisp, idObjSecrets].Nodup
    decide
  have hFeitas : feitas escritas = feitasDe gravadas := by
    have hEscritas :
        [escritas 0, escritas 1, escritas 2] =
          gravadas.map Prod.snd := rfl
    unfold feitas feitasDe
    rw [hEscritas, List.takeWhile_map, List.length_map]
    rfl
  rw [hFeitas]
  refine ⟨executar_completo gravadas storage, ?_⟩
  have hObjeto := objeto_executar hNomes storage i i.isLt
  fin_cases i
  · exact hObjeto
  · exact hObjeto
  · exact hObjeto

------------------------------------------------------------
-- What A Failure Leaves
------------------------------------------------------------

/- Every object is new, or every object is old. -/
def TudoOuNada
    (storage fim : Storage)
    (key idDispositivo : List Char) : Prop :=
  (∀ i, fim (nome i) = some (novo key idDispositivo i)) ∨
    ∀ i, fim (nome i) = storage (nome i)

theorem consistentes_of_novos
    {fim : Storage}
    {key idDispositivo : List Char}
    (hNovos :
      ∀ i, fim (nome i) = some (novo key idDispositivo i)) :
    SecretsConsistentes fim :=
  ⟨key, idDispositivo, hNovos 0, hNovos 1, hNovos 2⟩

theorem consistentes_of_velhos
    {storage fim : Storage}
    (hVelhos : ∀ i, fim (nome i) = storage (nome i))
    (hConsistentes : SecretsConsistentes storage) :
    SecretsConsistentes fim := by
  rcases hConsistentes with ⟨key, id, hKey, hId, hSecrets⟩
  refine
    ⟨key, id, (hVelhos 0).trans hKey, (hVelhos 1).trans hId,
      (hVelhos 2).trans hSecrets⟩

theorem consistentes_of_tudoOuNada
    {storage fim : Storage}
    {key idDispositivo : List Char}
    (hFim : TudoOuNada storage fim key idDispositivo)
    (hConsistentes : SecretsConsistentes storage) :
    SecretsConsistentes fim := by
  rcases hFim with hNovos | hVelhos
  · exact consistentes_of_novos hNovos
  · exact consistentes_of_velhos hVelhos hConsistentes

/-
  The first write that fails parts the new objects from the
  old ones. All of them are new when no write fails, and all
  old when the first one fails before it has created.
-/
theorem reprovisionar_objetos
    (storage : Storage)
    (key idDispositivo : List Char)
    (escritas : Fin 3 → Escrita)
    (hConsistentes : SecretsConsistentes storage) :
    let (fim, completo) :=
      reprovisionar storage key idDispositivo escritas
    (completo = true ↔ feitas escritas = 3) ∧
      (∀ i : Fin 3,
        fim (nome i) =
          if i < feitas escritas then
            some (novo key idDispositivo i)
          else if
              i = feitas escritas ∧
                interrompe (escritas i) then
            (escritas i).tee.sobra (novo key idDispositivo i)
          else
            storage (nome i)) ∧
      (feitas escritas = 3 ∨
          (feitas escritas = 0 ∧
            interrompe (escritas 0) = false) →
        TudoOuNada storage fim key idDispositivo ∧
          SecretsConsistentes fim) ∧
      (feitas escritas < 2 ∨
          (feitas escritas = 2 ∧
            interrompe (escritas 2) = false) →
        fim idObjSecrets = storage idObjSecrets) := by
  have hObjeto :=
    objeto_reprovisionar storage key idDispositivo escritas
  revert hObjeto
  cases reprovisionar storage key idDispositivo escritas with
  | mk fim completo =>
      intro hObjeto
      have hValor := fun i => (hObjeto i).2
      refine ⟨(hObjeto 0).1, hValor, ?_, ?_⟩
      · intro hCaso
        have hTudo :
            TudoOuNada storage fim key idDispositivo := by
          rcases hCaso with hTres | ⟨hZero, hInterrompe⟩
          · left
            intro i
            have hLt : (i : Nat) < feitas escritas := by omega
            exact (hValor i).trans (if_pos hLt)
          · right
            intro i
            have hNotLt : ¬ (i : Nat) < feitas escritas := by
              omega
            have hNotInterrompe :
                ¬ ((i : Nat) = feitas escritas ∧
                  interrompe (escritas i) = true) := by
              rintro ⟨hI, hTrue⟩
              have hEq : i = 0 := by
                apply Fin.ext
                rw [hI, hZero]
                rfl
              rw [hEq, hInterrompe] at hTrue
              cases hTrue
            exact
              (hValor i).trans
                ((if_neg hNotLt).trans (if_neg hNotInterrompe))
        exact
          ⟨hTudo,
            consistentes_of_tudoOuNada hTudo hConsistentes⟩
      · intro hCaso
        have hNotLt :
            ¬ ((2 : Fin 3) : Nat) < feitas escritas := by
          have hTwo : ((2 : Fin 3) : Nat) = 2 := rfl
          rcases hCaso with h | h <;> omega
        have hNotInterrompe :
            ¬ (((2 : Fin 3) : Nat) = feitas escritas ∧
              interrompe (escritas 2) = true) := by
          rintro ⟨hI, hTrue⟩
          have hTwo : ((2 : Fin 3) : Nat) = 2 := rfl
          rcases hCaso with h | ⟨-, hInterrompe⟩
          · omega
          · rw [hInterrompe] at hTrue
            cases hTrue
        exact
          (hValor 2).trans
            ((if_neg hNotLt).trans (if_neg hNotInterrompe))

/- A key and an identifier of one digit. -/
def chaveDe (digito : Char) : List Char :=
  List.replicate keySzHex digito

def idDe (digito : Char) : List Char :=
  List.replicate idDispositivoSzHex digito

/- The secrets of the key `aa…` and the identifier `bb…`. -/
def storageAB : Storage :=
  fun objId =>
    if objId = idObjKey then
      some (chaveDe 'a')
    else if objId = idObjDisp then
      some (idDe 'b')
    else if objId = idObjSecrets then
      some (chaveDe 'a' ++ idDe 'b')
    else
      none

/- The data of the second object is not written. -/
def falhaNoSegundo (i : Fin 3) : Escrita :=
  if i = 1 then
    ⟨none, { Ta.TeeCriacao.sucesso with
      writeObjectData := teeErrorOutOfMemory }⟩
  else
    .sucesso

theorem storageAB_consistentes :
    SecretsConsistentes storageAB :=
  ⟨chaveDe 'a', idDe 'b', rfl, rfl, rfl⟩

theorem reprovisionar_objetos_falhaNoSegundo :
    (reprovisionar storageAB (chaveDe 'c') (idDe 'd')
          falhaNoSegundo).1
        (nome 1) = none ∧
      (reprovisionar storageAB (chaveDe 'c') (idDe 'd')
          falhaNoSegundo).1
        idObjSecrets = some (chaveDe 'a' ++ idDe 'b') := by
  have hFim :=
    reprovisionar_objetos storageAB (chaveDe 'c') (idDe 'd')
      falhaNoSegundo storageAB_consistentes
  have hFeitas : feitas falhaNoSegundo = 1 := by decide
  have hInterrompe : interrompe (falhaNoSegundo 1) = true := by
    decide
  refine ⟨(hFim.2.1 1).trans ?_, ?_⟩
  · rw [hFeitas, hInterrompe]
    rfl
  · exact hFim.2.2.2 (Or.inl (by rw [hFeitas]; decide))

/- The key is new, the identifier is gone, the secrets old. -/
theorem reprovisionar_not_tudoOuNada :
    ¬ ∀ (storage : Storage) (key idDispositivo : List Char)
        (escritas : Fin 3 → Escrita),
      SecretsConsistentes storage →
        TudoOuNada storage
            (reprovisionar storage key idDispositivo escritas).1
            key idDispositivo ∧
          SecretsConsistentes
            (reprovisionar storage key idDispositivo
              escritas).1 := by
  intro hAll
  have hTudo :=
    (hAll storageAB (chaveDe 'c') (idDe 'd') falhaNoSegundo
      storageAB_consistentes).1
  have hNone :
      (reprovisionar storageAB (chaveDe 'c') (idDe 'd')
          falhaNoSegundo).1
        (nome 1) = none := by
    decide
  have hVelho : storageAB (nome 1) = some (idDe 'b') := by decide
  rcases hTudo with hNovos | hVelhos
  · have hSome := hNovos 1
    rw [hNone] at hSome
    cases hSome
  · have hSome := hVelhos 1
    rw [hNone, hVelho] at hSome
    cases hSome

end Host

end Optee

end P4dra
