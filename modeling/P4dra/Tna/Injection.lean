import P4dra.Forro.Bijection
import P4dra.Tna.Refinement

/-
  Frames of the internal operations that come from the wire.

  The switch takes operations 0x3 and 0x4 from anyone. What
  it does to a state on the remaining passes is a bijection,
  for every value of `rodada`, and so is the final sum. For
  every proof there is therefore one state and one cipher
  with which the proof is accepted, known device or not.

  Main declarations:
    * `quartosQueFaltam_bijective`
    * `existsUnique_injetado`
    * `aceito_cases`
    * `reenviado_iff`
-/

------------------------------------------------------------
-- The Remaining Passes As A Bijection
------------------------------------------------------------

namespace P4dra

open Bytes (Byte)
open Forro (Q quarterRound quarterRound_bijective)
open Registers (addTo addTo_bijective)

namespace Tna

/- The default actions do all of `Q` but its first addition. -/
theorem quartoPadrao_addTo
    (v : State) :
    quartoPadrao (addTo v 12 3) = Q v 0 4 8 12 3 := by
  rw [← mapAt_aplicar_estagiosQ]
  rfl

theorem quartoPadrao_bijective :
    Function.Bijective quartoPadrao := by
  have hAdd :
      Function.Bijective (fun v : State => addTo v 12 3) :=
    addTo_bijective (by decide)
  have hAll :
      Function.Bijective
        (quartoPadrao ∘ fun v : State => addTo v 12 3) := by
    have hSame :
        (quartoPadrao ∘ fun v : State => addTo v 12 3) =
          quarterRound 0 :=
      funext quartoPadrao_addTo
    rw [hSame]
    exact quarterRound_bijective 0
  exact
    (Function.Bijective.of_comp_iff quartoPadrao hAdd).mp hAll

theorem quartosDesde_bijective
    (r n : Nat) :
    Function.Bijective (quartosDesde r n) := by
  unfold quartosDesde
  induction List.range' r n with
  | nil => exact Function.bijective_id
  | cons i rest ih => exact ih.comp (quarterRound_bijective _)

/- No two states become the same, and every state is reached. -/
theorem quartosQueFaltam_bijective
    (rodada : BitVec 8) :
    Function.Bijective (quartosQueFaltam rodada) :=
  (quartosDesde_bijective _ _).comp
    (quartoPadrao_bijective.iterate (desvio rodada))

theorem somarPalavras_bijective
    (soma : State) :
    Function.Bijective
      (fun cipher : State => somarPalavras cipher soma) := by
  apply Function.bijective_iff_has_inverse.mpr
  refine
    ⟨fun prova => Vector.zipWith (· - ·) prova soma, ?_, ?_⟩
  · intro cipher
    apply Vector.ext
    intro i hi
    simp only [somarPalavras, Vector.getElem_zipWith]
    exact BitVec.add_sub_cancel _ _
  · intro prova
    apply Vector.ext
    intro i hi
    simp only [somarPalavras, Vector.getElem_zipWith]
    exact BitVec.sub_add_cancel _ _

------------------------------------------------------------
-- Accepted Injections
------------------------------------------------------------

/- The comparison accepts the expected proof, and it alone. -/
theorem conferir_eq_emitido_iff
    (estado : Option State)
    (c : Cabecalho)
    (origem : Origem)
    (prova : State)
    (rest : List Byte) :
    conferir estado c origem
          (forroStateT.encode prova ++ rest) =
        .emitido portaCPU (quadroCifra c prova prova rest) ↔
      provaEsperada estado c origem = some prova := by
  unfold conferir
  rw [Codec.extract_append]
  by_cases hProva : provaEsperada estado c origem = some prova
  · simp [hProva]
  · simp [hProva]

/- Its result in full, for a proof that is there. -/
theorem processar_origem
    {confIni : Nat}
    {arquivo : List (List Char)}
    {linhas : List Linha}
    (hConcluida : (setup confIni arquivo).concluida = true)
    (hLinhas :
      processFile arquivo quantidadeDispositivos = some linhas)
    (hIds : (linhas.map idDaLinha).Nodup)
    (hChaves : ∀ linha ∈ linhas, ChaveHex linha.chave)
    (c : Cabecalho)
    (origem : Origem)
    (prova : State)
    (rest : List Byte)
    {fuel : Nat}
    (hFuel : 230 ≤ fuel) :
    processar (setup confIni arquivo).calls fuel
          (origem.quadro c
            (forroStateT.encode prova ++ rest)) =
        some
          (.emitido portaCPU
            (quadroCifra c prova prova rest)) ↔
      provaEsperada (estadoDoArquivo confIni linhas c) c
          origem =
        some prova := by
  rw [processar_setup_eq_ite hConcluida hLinhas hIds hChaves,
    if_pos (passagensDe_le hFuel), especificacao,
    pedido_origem, Option.some.injEq]
  exact conferir_eq_emitido_iff _ c origem prova rest

/-
  For every header and every proof there is one state, at
  each `rodada`, and one cipher that the switch accepts.
-/
theorem existsUnique_injetado
    (confIni : Nat)
    (arquivo : List (List Char))
    (linhas : List Linha)
    (hConcluida : (setup confIni arquivo).concluida = true)
    (hLinhas :
      processFile arquivo quantidadeDispositivos = some linhas)
    (hIds : (linhas.map idDaLinha).Nodup)
    (hChaves : ∀ linha ∈ linhas, ChaveHex linha.chave)
    (c : Cabecalho)
    (prova : State)
    (rest : List Byte)
    (fuel : Nat)
    (hFuel : 230 ≤ fuel) :
    (∀ rodada, ∃! v,
      processar (setup confIni arquivo).calls fuel
          (quadroEstado c rodada v
            (forroStateT.encode prova ++ rest)) =
        some
          (.emitido portaCPU
            (quadroCifra c prova prova rest))) ∧
      ∃! cipher,
        processar (setup confIni arquivo).calls fuel
            (quadroCifra c cipher prova rest) =
          some
            (.emitido portaCPU
              (quadroCifra c prova prova rest)) := by
  let soma :=
    (estadoDoArquivo confIni linhas c).getD
      (estadoSemDispositivo c)
  have hSoma := somarPalavras_bijective soma
  constructor
  · intro rodada
    have hAll :
        Function.Bijective
          (fun v =>
            somarPalavras (quartosQueFaltam rodada v) soma) :=
      hSoma.comp (quartosQueFaltam_bijective rodada)
    rcases hAll.existsUnique prova with ⟨v, hv, hUnique⟩
    have hAccepts := fun w : State =>
      processar_origem hConcluida hLinhas hIds hChaves c
        (.estado rodada w) prova rest hFuel
    refine ⟨v, (hAccepts v).mpr (congrArg some hv), ?_⟩
    intro w hw
    exact hUnique w (Option.some.inj ((hAccepts w).mp hw))
  · rcases hSoma.existsUnique prova with ⟨w, hw, hUnique⟩
    have hAccepts := fun cipher : State =>
      processar_origem hConcluida hLinhas hIds hChaves c
        (.cifra cipher) prova rest hFuel
    refine ⟨w, (hAccepts w).mpr (congrArg some hw), ?_⟩
    intro cipher hCipher
    exact hUnique cipher
      (Option.some.inj ((hAccepts cipher).mp hCipher))

theorem existsUnique_injetado_umaLinha :
    ∃! cipher,
      processar (setup 5 arquivoDeUmaLinha).calls 230
          (quadroCifra cabecalhoInjetado cipher zeroState
            []) =
        some
          (.emitido portaCPU
            (quadroCifra cabecalhoInjetado zeroState zeroState
              [])) :=
  (existsUnique_injetado 5 arquivoDeUmaLinha [linhaUnica]
    concluida_umaLinha processFile_umaLinha (by simp)
    chaveHex_linhaUnica cabecalhoInjetado zeroState [] 230
    (Nat.le_refl 230)).2

------------------------------------------------------------
-- Accepted Frames That Come Back
------------------------------------------------------------

/- A frame is only ever forwarded to the clients. -/
theorem porta_of_repassar
    {frame saida : Frame}
    {port : BitVec 9}
    (hPedido : pedido frame = some (.repassar port saida)) :
    port ≠ portaCPU := by
  cases leitura frame with
  | curta _ hNone _ =>
      rw [hNone] at hPedido
      cases hPedido
  | outroProtocolo ethernet corpo hType =>
      rw [pedido_outroProtocolo ethernet corpo hType] at hPedido
      cases hPedido
      decide
  | semId c oper corpo hOper =>
      rw [pedido_semId c corpo hOper] at hPedido
      split at hPedido
      · cases hPedido
        decide
      · split at hPedido
        · cases hPedido
          decide
        · cases hPedido
  | comId c oper pkt hOper =>
      rw [pedido_quadro c pkt hOper] at hPedido
      rcases quadro_of_conferencia hPedido with
        ⟨origem, corpo, hConferir, _⟩
      cases hConferir

/- What leaves for the controller is a proof as expected. -/
theorem aceito_cases
    {estadoDe : Cabecalho → Option State}
    {frame saida : Frame}
    (hResult :
      especificacao estadoDe frame =
        .emitido portaCPU saida) :
    ∃ c origem prova rest,
      frame =
          origem.quadro c
            (forroStateT.encode prova ++ rest) ∧
        provaEsperada (estadoDe c) c origem =
          some prova ∧
        saida = quadroCifra c prova prova rest := by
  unfold especificacao at hResult
  rcases hPedido : pedido frame with
    _ | ⟨port, frame'⟩ | ⟨c, origem, corpo⟩
  · rw [hPedido] at hResult
    cases hResult
  · rw [hPedido] at hResult
    injection hResult with hPort _
    exact absurd hPort (porta_of_repassar hPedido)
  · rw [hPedido] at hResult
    have hFrame := quadro_of_pedido hPedido
    simp only [conferir] at hResult
    cases hExtract : forroStateT.extract corpo with
    | none =>
        rw [hExtract] at hResult
        cases hResult
    | some parsed =>
        rcases parsed with ⟨prova, rest⟩
        simp only [hExtract] at hResult
        split at hResult
        · rename_i hProva
          cases hResult
          refine ⟨c, origem, prova, rest, ?_, hProva, rfl⟩
          rw [hFrame, Codec.eq_append_of_extract hExtract]
        · cases hResult

/- Adding a state changes nothing only when it is zero. -/
theorem somarPalavras_eq_self_iff
    (prova soma : State) :
    somarPalavras prova soma = prova ↔ soma = zeroState := by
  have hZero : somarPalavras prova zeroState = prova := by
    apply Vector.ext
    intro i hi
    simp [somarPalavras, zeroState]
  constructor
  · intro hSame
    apply Vector.ext
    intro i hi
    have hWord :=
      congrArg (fun v : State => v[i]) (hSame.trans hZero.symm)
    simp only [somarPalavras, Vector.getElem_zipWith] at hWord
    exact (BitVec.add_right_inj _).mp hWord
  · intro hSame
    rw [hSame, hZero]

/-
  A frame that the switch has accepted, sent to it again, is
  accepted again only where it adds a state of zeros.
-/
theorem reenviado_iff
    (confIni : Nat)
    (arquivo : List (List Char))
    (linhas : List Linha)
    (hConcluida : (setup confIni arquivo).concluida = true)
    (hLinhas :
      processFile arquivo quantidadeDispositivos = some linhas)
    (hIds : (linhas.map idDaLinha).Nodup)
    (hChaves : ∀ linha ∈ linhas, ChaveHex linha.chave)
    (frame saida : Frame)
    (fuel : Nat)
    (hFuel : 230 ≤ fuel)
    (hRun :
      processar (setup confIni arquivo).calls fuel frame =
        some (.emitido portaCPU saida)) :
    ∃ c prova rest,
      saida = quadroCifra c prova prova rest ∧
        ((∃ saida',
            processar (setup confIni arquivo).calls fuel saida =
              some (.emitido portaCPU saida')) ↔
          (estadoDoArquivo confIni linhas c).getD
              (estadoSemDispositivo c) =
            zeroState) := by
  have hSpec := fun frame : Frame =>
    (processar_setup_eq_ite hConcluida hLinhas hIds hChaves
      frame fuel).trans
      (if_pos (passagensDe_le hFuel))
  rw [hSpec] at hRun
  rcases aceito_cases (Option.some.inj hRun) with
    ⟨c, origem, prova, rest, _, _, hSaida⟩
  refine ⟨c, prova, rest, hSaida, ?_⟩
  let soma :=
    (estadoDoArquivo confIni linhas c).getD
      (estadoSemDispositivo c)
  have hAccepts :=
    processar_origem hConcluida hLinhas hIds hChaves c
      (.cifra prova) prova rest hFuel
  have hExpected :
      provaEsperada (estadoDoArquivo confIni linhas c) c
          (.cifra prova) =
        some (somarPalavras prova soma) := rfl
  rw [hExpected, Option.some.injEq,
    somarPalavras_eq_self_iff] at hAccepts
  rw [← hAccepts, hSaida]
  constructor
  · rintro ⟨saida', hSecond⟩
    rw [hSpec, especificacao] at hSecond
    have hPedido :
        pedido (quadroCifra c prova prova rest) =
          some
            (.conferir c (.cifra prova)
              (forroStateT.encode prova ++ rest)) :=
      pedido_origem c (.cifra prova) _
    rw [hPedido, Option.some.injEq] at hSecond
    simp only [conferir, Codec.extract_append] at hSecond
    split at hSecond
    · rename_i hProva
      exact hAccepts.mpr
        ((somarPalavras_eq_self_iff prova soma).mp
          (Option.some.inj hProva))
    · cases hSecond
  · intro hSecond
    exact ⟨_, hSecond⟩

theorem reenviado_iff_umaLinha :
    ∃ c prova rest,
      quadroCifra cabecalhoInjetado provaInjetada provaInjetada
          [] =
        quadroCifra c prova prova rest := by
  have hRun :
      processar (setup 5 arquivoDeUmaLinha).calls 230
          (quadroCifra cabecalhoInjetado zeroState
            provaInjetada []) =
        some
          (.emitido portaCPU
            (quadroCifra cabecalhoInjetado provaInjetada
              provaInjetada [])) :=
    Recirculation.run_mono processar_injetado (by decide)
  rcases reenviado_iff 5 arquivoDeUmaLinha [linhaUnica]
      concluida_umaLinha processFile_umaLinha (by simp)
      chaveHex_linhaUnica _ _ 230 (Nat.le_refl 230) hRun with
    ⟨c, prova, rest, hSaida, _⟩
  exact ⟨c, prova, rest, hSaida⟩

end Tna

end P4dra
