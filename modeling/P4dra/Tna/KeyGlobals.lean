import P4dra.Tna.Records

/-
  The global variables `key_0 .. key_7` of the script.

  The loop over a key assigns one variable for each of its
  parts. A variable that has no part keeps its value from a
  line before, so the entries of a line are its own exactly
  when its key has eight parts.

  Main declarations:
    * `atribuirChaves_getElem`, `lerChaves_getElem`
    * `instalar`, `setup_instaladas`
    * `Propria`, `propria_iff`
-/

------------------------------------------------------------
-- Assignments
------------------------------------------------------------

namespace P4dra

namespace Tna

/- The number that a part of a key is converted to. -/
def valorDaParte (parte : List Char) : Option Int :=
  (inverterEndianess parte).bind pyInt16

theorem atribuirChaves_cons
    (globals : Globals)
    (i : Nat)
    (parte : List Char)
    (rest : List (List Char)) :
    atribuirChaves globals i (parte :: rest) =
      (valorDaParte parte).bind fun valor =>
        atribuirChaves (globals.setIfInBounds i (some valor))
          (i + 1) rest := by
  rw [atribuirChaves, valorDaParte, Option.bind_assoc]
  rfl

/-
  After the loop a variable has the number of its part, or
  what it had before.
-/
theorem atribuirChaves_getElem
    {partes : List (List Char)} :
    ∀ {globals globals' : Globals} {i : Nat},
      atribuirChaves globals i partes = some globals' →
        ∀ (j : Nat) (hj : j < 8),
          (j < i → globals'[j] = globals[j]) ∧
            (i ≤ j → ∀ parte, partes[j - i]? = some parte →
              globals'[j] = valorDaParte parte) ∧
            (i ≤ j → partes[j - i]? = none →
              globals'[j] = globals[j]) := by
  induction partes with
  | nil =>
      intro globals globals' i hAtribuir j hj
      cases hAtribuir
      refine ⟨fun _ => rfl, fun _ parte hParte => ?_,
        fun _ _ => rfl⟩
      cases hParte
  | cons parte rest ih =>
      intro globals globals' i hAtribuir j hj
      rw [atribuirChaves_cons] at hAtribuir
      rcases Option.bind_eq_some_iff.mp hAtribuir with
        ⟨valor, hValor, hRest⟩
      rcases ih hRest j hj with ⟨hBefore, hPart, hAfter⟩
      refine ⟨?_, ?_, ?_⟩
      · intro hLt
        rw [hBefore (by omega), Vector.getElem_setIfInBounds,
          if_neg (by omega)]
      · intro hLe outra hOutra
        by_cases hEq : i = j
        · rw [hEq, Nat.sub_self, List.getElem?_cons_zero,
            Option.some.injEq] at hOutra
          rw [hBefore (by omega),
            Vector.getElem_setIfInBounds, if_pos hEq,
            ← hOutra, hValor]
        · have hSub : j - i = (j - (i + 1)) + 1 := by omega
          rw [hSub, List.getElem?_cons_succ] at hOutra
          exact hPart (by omega) outra hOutra
      · intro hLe hNone
        by_cases hEq : i = j
        · rw [hEq, Nat.sub_self, List.getElem?_cons_zero]
            at hNone
          cases hNone
        · have hSub : j - i = (j - (i + 1)) + 1 := by omega
          rw [hSub, List.getElem?_cons_succ] at hNone
          rw [hAfter (by omega) hNone,
            Vector.getElem_setIfInBounds, if_neg hEq]

/- Whether the loop raises depends on the parts alone. -/
theorem atribuirChaves_isSome
    {partes : List (List Char)} :
    ∀ {globals globals' : Globals} {i : Nat}
        (outros : Globals),
      atribuirChaves globals i partes = some globals' →
        ∃ outros',
          atribuirChaves outros i partes = some outros' := by
  induction partes with
  | nil =>
      intro globals globals' i outros _
      exact ⟨outros, rfl⟩
  | cons parte rest ih =>
      intro globals globals' i outros hAtribuir
      rw [atribuirChaves_cons] at hAtribuir
      rcases Option.bind_eq_some_iff.mp hAtribuir with
        ⟨valor, hValor, hRest⟩
      rw [atribuirChaves_cons, hValor, Option.bind_some]
      exact ih _ hRest

/- A call has read eight variables that hold its words. -/
theorem lerChaves_getElem
    {globals : Globals}
    {key : Key}
    (hLer : lerChaves globals = some key) :
    ∀ (j : Nat) (hj : j < 8),
      globals[j] = some (key[j].toNat : Int) := by
  unfold lerChaves at hLer
  dsimp only [Option.bind_eq_bind] at hLer
  rcases Option.bind_eq_some_iff.mp hLer with ⟨k0, h0, hLer⟩
  rcases Option.bind_eq_some_iff.mp hLer with ⟨k1, h1, hLer⟩
  rcases Option.bind_eq_some_iff.mp hLer with ⟨k2, h2, hLer⟩
  rcases Option.bind_eq_some_iff.mp hLer with ⟨k3, h3, hLer⟩
  rcases Option.bind_eq_some_iff.mp hLer with ⟨k4, h4, hLer⟩
  rcases Option.bind_eq_some_iff.mp hLer with ⟨k5, h5, hLer⟩
  rcases Option.bind_eq_some_iff.mp hLer with ⟨k6, h6, hLer⟩
  rcases Option.bind_eq_some_iff.mp hLer with ⟨k7, h7, hLer⟩
  rcases Option.bind_eq_some_iff.mp hLer with ⟨w0, hw0, hLer⟩
  rcases Option.bind_eq_some_iff.mp hLer with ⟨w1, hw1, hLer⟩
  rcases Option.bind_eq_some_iff.mp hLer with ⟨w2, hw2, hLer⟩
  rcases Option.bind_eq_some_iff.mp hLer with ⟨w3, hw3, hLer⟩
  rcases Option.bind_eq_some_iff.mp hLer with ⟨w4, hw4, hLer⟩
  rcases Option.bind_eq_some_iff.mp hLer with ⟨w5, hw5, hLer⟩
  rcases Option.bind_eq_some_iff.mp hLer with ⟨w6, hw6, hLer⟩
  rcases Option.bind_eq_some_iff.mp hLer with ⟨w7, hw7, hLer⟩
  cases hLer
  intro j hj
  interval_cases j
  · exact h0.trans (congrArg some (campo_eq_some hw0))
  · exact h1.trans (congrArg some (campo_eq_some hw1))
  · exact h2.trans (congrArg some (campo_eq_some hw2))
  · exact h3.trans (congrArg some (campo_eq_some hw3))
  · exact h4.trans (congrArg some (campo_eq_some hw4))
  · exact h5.trans (congrArg some (campo_eq_some hw5))
  · exact h6.trans (congrArg some (campo_eq_some hw6))
  · exact h7.trans (congrArg some (campo_eq_some hw7))

------------------------------------------------------------
-- Lines That Are Installed
------------------------------------------------------------

/- The globals before any key. -/
def globalsVazios : Globals :=
  Vector.replicate 8 none

/-
  The lines that the loop over the devices installs, each
  with its calls. The loop ends at the first line that raises.
-/
def instalar
    (confIni : Nat) :
    Globals → List Linha → List (Linha × List BfrtCall)
| _, [] => []
| globals, linha :: rest =>
    match programarDispositivo confIni globals linha with
    | none => []
    | some (globals, calls) =>
        (linha, calls) :: instalar confIni globals rest

/- The lines of a file that a run of the script installs. -/
def instaladas
    (confIni : Nat)
    (arquivo : List (List Char)) :
    List (Linha × List BfrtCall) :=
  match processFile arquivo quantidadeDispositivos with
  | none => []
  | some linhas => instalar confIni globalsVazios linhas

theorem percorrer_eq_instalar
    (confIni : Nat)
    (linhas : List Linha) :
    ∀ globals,
      (percorrerDispositivos confIni globals linhas).1 =
        (instalar confIni globals linhas).flatMap
          Prod.snd := by
  induction linhas with
  | nil =>
      intro globals
      rfl
  | cons linha rest ih =>
      intro globals
      rw [percorrerDispositivos, instalar]
      cases programarDispositivo confIni globals linha with
      | none => rfl
      | some resultado =>
          rw [List.flatMap_cons]
          exact congrArg (resultado.2 ++ ·) (ih resultado.1)

/- The installed lines make all the calls for devices. -/
theorem setup_instaladas
    (confIni : Nat)
    (arquivo : List (List Char)) :
    (setup confIni arquivo).calls =
      regrasForro ++
        (instaladas confIni arquivo).flatMap Prod.snd ++
        (if (setup confIni arquivo).concluida then
          regrasPadrao
        else
          []) := by
  rw [setup, instaladas]
  cases processFile arquivo quantidadeDispositivos with
  | none => simp
  | some linhas =>
      have hCalls :=
        percorrer_eq_instalar confIni linhas globalsVazios
      dsimp only
      rw [← hCalls, globalsVazios]
      split
      · rfl
      · simp

/- An installed line was programmed over some globals. -/
theorem exists_globals_of_instalar
    {confIni : Nat}
    {linhas : List Linha} :
    ∀ {globals : Globals} {x : Linha × List BfrtCall},
      x ∈ instalar confIni globals linhas →
        ∃ antes depois,
          programarDispositivo confIni antes x.1 =
            some (depois, x.2) := by
  induction linhas with
  | nil =>
      intro globals x hMem
      cases hMem
  | cons linha rest ih =>
      intro globals x hMem
      rw [instalar] at hMem
      cases hProgramar :
          programarDispositivo confIni globals linha with
      | none =>
          rw [hProgramar] at hMem
          cases hMem
      | some resultado =>
          rcases resultado with ⟨depois, calls⟩
          rw [hProgramar] at hMem
          rcases List.mem_cons.mp hMem with hEq | hRest
          · rw [hEq]
            exact ⟨globals, depois, hProgramar⟩
          · exact ih hRest

------------------------------------------------------------
-- Entries Of A Line's Own
------------------------------------------------------------

/- The words of a key are the numbers of its parts. -/
def ChavePropria
    (linha : Linha)
    (key : Key) : Prop :=
  ∀ i : Fin 8,
    ∃ parte,
      linha.chave[i.val]? = some parte ∧
        valorDaParte parte = some (key[i].toNat : Int)

/-
  The calls for a line are the ones that the line alone would
  make, and their key is the key of the line.
-/
def Propria
    (confIni : Nat)
    (x : Linha × List BfrtCall) : Prop :=
  ∃ (d : Dispositivo) (depois : Globals),
    x.2 = d.chamadas ∧
      programarDispositivo confIni globalsVazios x.1 =
        some (depois, x.2) ∧
      ChavePropria x.1 d.key

/- Globals that all have a part do not keep anything. -/
theorem atribuirChaves_eq
    {globals globals' outros outros' : Globals}
    {partes : List (List Char)}
    (hPartes : 8 ≤ partes.length)
    (hAtribuir : atribuirChaves globals 0 partes = some globals')
    (hOutros : atribuirChaves outros 0 partes = some outros') :
    globals' = outros' := by
  apply Vector.ext
  intro j hj
  have hLt : j < partes.length := by omega
  have hParte : partes[j - 0]? = some partes[j] :=
    List.getElem?_eq_getElem _
  rw [(atribuirChaves_getElem hAtribuir j hj).2.1 (by omega) _
      hParte,
    (atribuirChaves_getElem hOutros j hj).2.1 (by omega) _
      hParte]

/- The key of a line, read after its own parts. -/
theorem chavePropria_of_lerChaves
    {globals globals' : Globals}
    {linha : Linha}
    {key : Key}
    (hPartes : 8 ≤ linha.chave.length)
    (hAtribuir :
      atribuirChaves globals 0 linha.chave = some globals')
    (hLer : lerChaves globals' = some key) :
    ChavePropria linha key := by
  intro i
  have hi : i.val < linha.chave.length := by omega
  have hParte :
      linha.chave[i.val]? = some linha.chave[i.val] :=
    List.getElem?_eq_getElem hi
  refine ⟨linha.chave[i.val], hParte, ?_⟩
  rw [← (atribuirChaves_getElem hAtribuir i.val i.isLt).2.1
      (by omega) _ hParte]
  exact lerChaves_getElem hLer i.val i.isLt

/-
  An installed line has entries of its own exactly when its
  key has at least eight parts of eight digits.
-/
theorem propria_iff
    (confIni : Nat)
    (arquivo : List (List Char)) :
    (setup confIni arquivo).calls =
        regrasForro ++
          (instaladas confIni arquivo).flatMap Prod.snd ++
          (if (setup confIni arquivo).concluida then
            regrasPadrao
          else
            []) ∧
      ∀ x ∈ instaladas confIni arquivo,
        Propria confIni x ↔ 8 ≤ x.1.chave.length := by
  refine ⟨setup_instaladas confIni arquivo, ?_⟩
  intro x hMem
  have hInstalada :
      ∃ antes depois,
        programarDispositivo confIni antes x.1 =
          some (depois, x.2) := by
    rw [instaladas] at hMem
    cases hLinhas :
        processFile arquivo quantidadeDispositivos with
    | none =>
        rw [hLinhas] at hMem
        cases hMem
    | some linhas =>
        rw [hLinhas] at hMem
        exact exists_globals_of_instalar hMem
  rcases x with ⟨linha, calls⟩
  rcases hInstalada with ⟨antes, depois, hProgramar⟩
  constructor
  · rintro ⟨d, _, _, _, hPropria⟩
    rcases hPropria 7 with ⟨parte, hParte, _⟩
    have hLt := (List.getElem?_eq_some_iff.mp hParte).1
    exact hLt
  · intro hPartes
    simp only [programarDispositivo, Option.bind_eq_bind,
      Option.bind_eq_some_iff] at hProgramar
    rcases hProgramar with
      ⟨invertido, hInvertido, id, hId, lidas, hLidas,
        idDispositivo, hCampo, configuracao, hConf, key, hKey,
        hCalls⟩
    cases hCalls
    rcases atribuirChaves_isSome globalsVazios hLidas with
      ⟨vazios, hVazios⟩
    have hSame := atribuirChaves_eq hPartes hLidas hVazios
    rw [← hSame] at hVazios
    refine
      ⟨⟨idDispositivo, configuracao, key⟩, depois, rfl, ?_,
        chavePropria_of_lerChaves hPartes hLidas hKey⟩
    simp [programarDispositivo, hInvertido, hId, hVazios,
      hCampo, hConf, hKey]

/- The second key has seven parts. -/
def arquivoTruncado : List (List Char) :=
  [List.replicate 32 '0' ++ ':' :: List.replicate 64 '1' ++
      [':', '\n'],
    List.replicate 32 '1' ++ ':' :: List.replicate 56 '2' ++
      [':', '\n']]

/- Both lines are installed. -/
theorem instaladas_arquivoTruncado :
    (instaladas 0 arquivoTruncado).map
        (fun x => x.1.chave.length) = [8, 7] := by
  decide +kernel

theorem exists_mem_arquivoTruncado
    {n : Nat}
    (hn : n ∈ [8, 7]) :
    ∃ x ∈ instaladas 0 arquivoTruncado,
      x.1.chave.length = n := by
  rw [← instaladas_arquivoTruncado] at hn
  exact List.mem_map.mp hn

theorem propria_iff_primeira :
    ∃ x ∈ instaladas 0 arquivoTruncado, Propria 0 x := by
  rcases exists_mem_arquivoTruncado (n := 8) (by simp) with
    ⟨x, hMem, hLength⟩
  exact
    ⟨x, hMem,
      ((propria_iff 0 arquivoTruncado).2 x hMem).mpr
        (Nat.le_of_eq hLength.symm)⟩

theorem propria_not_truncada :
    ¬ ∀ (confIni : Nat) (arquivo : List (List Char)),
      ∀ x ∈ instaladas confIni arquivo,
        Propria confIni x := by
  intro hClaim
  rcases exists_mem_arquivoTruncado (n := 7) (by simp) with
    ⟨x, hMem, hLength⟩
  rcases hClaim 0 arquivoTruncado x hMem with
    ⟨d, _, _, _, hPropria⟩
  rcases hPropria 7 with ⟨parte, hParte, _⟩
  have hLt := (List.getElem?_eq_some_iff.mp hParte).1
  rw [hLength] at hLt
  exact absurd hLt (by decide)

end Tna

end P4dra
