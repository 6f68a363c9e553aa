import P4dra.Tna.DeviceFile
import P4dra.Tna.Specification

/-
  The tables and the passes do what the specification says.

  Every run of the switch ends with the result that
  `especificacao` gives, after exactly the passes that
  `passagensDe` counts. What the specification does not read
  cannot matter: neither the order of the device file nor the
  lines of other devices.

  Main declarations:
    * `processar_eq_especificacao`
    * `processar_eq_none_iff`
    * `processar_eq_of_mesmosRegistros`
-/

------------------------------------------------------------
-- Every Run
------------------------------------------------------------

namespace P4dra

open Bytes (Byte)
open Recirculation
open Forro (afterQuarterRounds)

namespace Tna

/- The initial state that the entries give to a header. -/
def estadoDos
    (dispositivos : List Dispositivo)
    (c : Cabecalho) : Option State :=
  (procurar dispositivos c.idDispositivo).map
    (fun d => d.estadoInicial c)

/- The run of a frame has a last pass, after `n` others. -/
def TerminaApos
    (calls : List BfrtCall)
    (frame : Frame)
    (n : Nat)
    (result : Resultado) : Prop :=
  ∃ last,
    advance (travessia calls) n frame = some last ∧
      travessia calls last = .done result

theorem terminaApos_zero
    {calls : List BfrtCall}
    {frame : Frame}
    {result : Resultado}
    (hDone : travessia calls frame = .done result) :
    TerminaApos calls frame 0 result :=
  ⟨frame, rfl, hDone⟩

/- The passes with quarter-rounds, counted. -/
theorem advance_quadroEstado_passagens
    (dispositivos : List Dispositivo)
    (c : Cabecalho)
    (rodada : BitVec 8)
    (v : State)
    (rest : List Byte) :
    advance (travessia (programa dispositivos))
        (desvio rodada + (57 - primeiraImpar rodada) / 2)
        (quadroEstado c rodada v rest) =
      some
        (quadro c 0x4
          (forroStateT.encode (quartosRestantes rodada v) ++
            rest)) := by
  fun_induction quartosRestantes rodada v with
  | case1 v =>
      have hStep := travessia_estado dispositivos c 55 v rest
      have hOne :
          desvio 55 + (57 - primeiraImpar 55) / 2 = 0 + 1 := rfl
      rw [hOne, advance, hStep]
      rfl
  | case2 rodada v hFim hImpar ih =>
      rcases desvio_add_two hImpar hFim with
        ⟨hNow, hLater, hFirst, hNext, hLess⟩
      have hCount :
          desvio rodada + (57 - primeiraImpar rodada) / 2 =
            desvio (rodada + 2) +
              (57 - primeiraImpar (rodada + 2)) / 2 + 1 := by
        rw [hNow, hLater, hFirst, hNext]
        omega
      have hStep := travessia_estado dispositivos c rodada v rest
      rcases rodadaPar_succ rodada with ⟨hPar, hLast⟩
      have hTwo : rodada + 1 + 1 = rodada + 2 := by
        rw [BitVec.add_assoc]
        rfl
      rw [quadroAposEgress, hPar, if_pos hImpar,
        if_neg (fun h => hFim (hLast.mp h)), passoIngress,
        if_pos hImpar, hTwo] at hStep
      rw [hCount, advance, hStep]
      exact ih
  | case3 rodada v hFim hImpar ih =>
      rcases desvio_add_one hImpar with ⟨hDesvio, hFirst⟩
      have hCount :
          desvio rodada + (57 - primeiraImpar rodada) / 2 =
            desvio (rodada + 1) +
              (57 - primeiraImpar (rodada + 1)) / 2 + 1 := by
        rw [hDesvio, hFirst]
        omega
      have hStep := travessia_estado dispositivos c rodada v rest
      rcases rodadaPar_succ rodada with ⟨hPar, _⟩
      rw [quadroAposEgress, hPar, if_neg hImpar, passoIngress,
        if_neg hImpar] at hStep
      rw [hCount, advance, hStep]
      exact ih

/- The comparison pass decides as the specification does. -/
theorem travessia_conferir
    (dispositivos : List Dispositivo)
    (c : Cabecalho)
    (origem : Origem)
    (cipher : State)
    (corpo : List Byte)
    (hProva :
      provaEsperada (estadoDos dispositivos c) c origem =
        some (somarPalavras cipher (estadoSomado dispositivos c))) :
    travessia (programa dispositivos)
        (quadro c 0x4 (forroStateT.encode cipher ++ corpo)) =
      .done
        (conferir (estadoDos dispositivos c) c origem corpo) := by
  rw [travessia_quadro_cifra, resultadoCifra, conferir, hProva]
  cases hExtract : forroStateT.extract corpo with
  | none => rfl
  | some parsed =>
      rcases parsed with ⟨prova, rest⟩
      simp only [Option.some.injEq]
      by_cases hSame :
          prova =
            somarPalavras cipher (estadoSomado dispositivos c)
      · rw [if_pos hSame, if_pos hSame.symm]
      · rw [if_neg hSame, if_neg (fun h => hSame h.symm)]

theorem estadoSomado_eq_getD
    (dispositivos : List Dispositivo)
    (c : Cabecalho) :
    estadoSomado dispositivos c =
      (estadoDos dispositivos c).getD
        (estadoSemDispositivo c) := by
  rw [estadoSomado, estadoDos]
  cases procurar dispositivos c.idDispositivo with
  | none => rfl
  | some d => rfl

/- A request about a proof, by where the comparison starts. -/
theorem terminaApos_origem
    (dispositivos : List Dispositivo)
    (c : Cabecalho)
    (origem : Origem)
    (corpo : List Byte) :
    TerminaApos (programa dispositivos)
      (origem.quadro c corpo)
      (passagensDaOrigem (estadoDos dispositivos c).isSome
          origem - 1)
      (conferir (estadoDos dispositivos c) c origem corpo) := by
  cases origem with
  | registro =>
      cases hProcurar : procurar dispositivos c.idDispositivo with
      | none =>
          have hEstado : estadoDos dispositivos c = none := by
            rw [estadoDos, hProcurar]
            rfl
          have hConferir :
              conferir none c .registro corpo = .descartado := by
            unfold conferir
            split <;> rfl
          rw [hEstado, hConferir]
          exact terminaApos_zero
            (travessia_resposta_none corpo hProcurar)
      | some d =>
          let v := afterQuarterRounds 56 (d.estadoInicial c)
          have hEstado :
              estadoDos dispositivos c =
                some (d.estadoInicial c) := by
            rw [estadoDos, hProcurar]
            rfl
          have hConferir :=
            travessia_conferir dispositivos c .registro v corpo
              (by
                rw [estadoSomado_eq_getD, hEstado]
                exact congrArg some
                  (somarPalavras_forroWords _).symm)
          rw [hEstado] at hConferir ⊢
          exact ⟨_,
            advance_resposta corpo hProcurar 28 (by omega),
            hConferir⟩
  | estado rodada v =>
      refine ⟨_,
        advance_quadroEstado_passagens dispositivos c rodada v
          corpo, ?_⟩
      apply travessia_conferir dispositivos c
        (.estado rodada v)
      rw [estadoSomado_eq_getD, quartosRestantes_eq]
      rfl
  | cifra cipher =>
      apply terminaApos_zero
      apply travessia_conferir dispositivos c (.cifra cipher)
      rw [estadoSomado_eq_getD]
      rfl

/- Every frame ends as specified, in so many passes. -/
theorem terminaApos_especificacao
    (dispositivos : List Dispositivo)
    (frame : Frame) :
    TerminaApos (programa dispositivos) frame
      (passagensDe (estadoDos dispositivos) frame - 1)
      (especificacao (estadoDos dispositivos) frame) := by
  have hRefused :
      ∀ frame,
        pedido frame = none → ingressParser frame = none →
          TerminaApos (programa dispositivos) frame
            (passagensDe (estadoDos dispositivos) frame - 1)
            (especificacao (estadoDos dispositivos) frame) := by
    intro frame hPedido hParse
    rw [passagensDe, especificacao, hPedido]
    exact terminaApos_zero (travessia_of_parser_none hParse)
  cases leitura frame with
  | curta _ hPedido hParse => exact hRefused frame hPedido hParse
  | outroProtocolo ethernet corpo hType =>
      rw [passagensDe, especificacao,
        pedido_outroProtocolo ethernet corpo hType]
      exact terminaApos_zero
        (travessia_outroProtocolo dispositivos ethernet corpo
          hType)
  | semId c oper corpo hOper =>
      have hDone := travessia_semId dispositivos c corpo hOper
      rw [passagensDe, especificacao,
        pedido_semId c corpo hOper]
      unfold resultadoSemId at hDone
      by_cases hStart : oper = 0x0
      · rw [if_pos hStart] at hDone ⊢
        exact terminaApos_zero hDone
      · rw [if_neg hStart] at hDone ⊢
        by_cases hForward : oper = 0x5
        · rw [if_pos hForward] at hDone ⊢
          exact terminaApos_zero hDone
        · rw [if_neg hForward] at hDone ⊢
          exact terminaApos_zero hDone
  | comId c oper pkt hOper =>
      cases hPedido : conferencia c oper pkt with
      | none =>
          exact hRefused _
            ((pedido_quadro c pkt hOper).trans hPedido)
            (ingressParser_of_conferencia_none c hOper hPedido)
      | some request =>
          rcases quadro_of_conferencia hPedido with
            ⟨origem, corpo, _, hQuadro⟩
          rw [hQuadro, passagensDe, especificacao,
            pedido_origem]
          exact terminaApos_origem dispositivos c origem corpo

/- Only a state that comes with `rodada` 56 goes 230 times. -/
theorem passagensDaOrigem_bounds
    (conhecido : Bool)
    (origem : Origem) :
    1 ≤ passagensDaOrigem conhecido origem ∧
      passagensDaOrigem conhecido origem ≤ 230 ∧
      (passagensDaOrigem conhecido origem = 230 ↔
        ∃ v, origem = .estado 56 v) := by
  cases origem with
  | registro => cases conhecido <;> simp [passagensDaOrigem]
  | cifra cipher => simp [passagensDaOrigem]
  | estado rodada v =>
      have hRodada :
          ∀ rodada : BitVec 8,
            desvio rodada + (57 - primeiraImpar rodada) / 2 ≤
                229 ∧
              (desvio rodada +
                  (57 - primeiraImpar rodada) / 2 = 229 ↔
                rodada = 56) := by
        decide
      rcases hRodada rodada with ⟨hLe, hEq⟩
      unfold passagensDaOrigem
      refine ⟨Nat.le_add_left 1 _, Nat.succ_le_succ hLe, ?_⟩
      constructor
      · intro hMost
        exact ⟨v, by rw [hEq.mp (Nat.succ_inj.mp hMost)]⟩
      · rintro ⟨w, hSame⟩
        cases hSame
        rfl

theorem passagensDe_bounds
    (estadoDe : Cabecalho → Option State)
    (frame : Frame) :
    1 ≤ passagensDe estadoDe frame ∧
      passagensDe estadoDe frame ≤ 230 ∧
      (passagensDe estadoDe frame = 230 ↔
        ∃ c v corpo, frame = quadroEstado c 56 v corpo) := by
  have hQuadro :
      ∀ c v corpo,
        pedido (quadroEstado c 56 v corpo) =
          some (.conferir c (.estado 56 v) corpo) :=
    fun c v corpo => pedido_origem c (.estado 56 v) corpo
  cases hPedido : pedido frame with
  | none =>
      have hOne : passagensDe estadoDe frame = 1 := by
        rw [passagensDe, hPedido]
      refine ⟨by omega, by omega, by omega, ?_⟩
      rintro ⟨c, v, corpo, rfl⟩
      rw [hQuadro] at hPedido
      cases hPedido
  | some request =>
      cases request with
      | repassar port saida =>
          have hOne : passagensDe estadoDe frame = 1 := by
            rw [passagensDe, hPedido]
          refine ⟨by omega, by omega, by omega, ?_⟩
          rintro ⟨c, v, corpo, rfl⟩
          rw [hQuadro] at hPedido
          cases hPedido
      | conferir c origem corpo =>
          have hPassagens :
              passagensDe estadoDe frame =
                passagensDaOrigem (estadoDe c).isSome
                  origem := by
            rw [passagensDe, hPedido]
          rcases passagensDaOrigem_bounds (estadoDe c).isSome
              origem with ⟨hPos, hLe, hMost⟩
          rw [hPassagens]
          refine ⟨hPos, hLe, ?_⟩
          rw [hMost]
          constructor
          · rintro ⟨v, rfl⟩
            exact ⟨c, v, corpo, quadro_of_pedido hPedido⟩
          · rintro ⟨c', v, corpo', rfl⟩
            rw [hQuadro] at hPedido
            cases hPedido
            exact ⟨v, rfl⟩

/- No frame takes more passes than these. -/
theorem passagensDe_le
    {estadoDe : Cabecalho → Option State}
    {frame : Frame}
    {fuel : Nat}
    (hFuel : 230 ≤ fuel) :
    passagensDe estadoDe frame ≤ fuel :=
  Nat.le_trans (passagensDe_bounds estadoDe frame).2.1 hFuel

/- A run has its result once it has the passes it takes. -/
theorem processar_eq_ite
    (dispositivos : List Dispositivo)
    (frame : Frame)
    (fuel : Nat) :
    processar (programa dispositivos) fuel frame =
      if passagensDe (estadoDos dispositivos) frame ≤ fuel then
        some (especificacao (estadoDos dispositivos) frame)
      else
        none := by
  rcases terminaApos_especificacao dispositivos frame with
    ⟨last, hAdvance, hLast⟩
  have hPositive :=
    (passagensDe_bounds (estadoDos dispositivos) frame).1
  have hRun := run_eq_ite hAdvance hLast fuel
  rw [Nat.sub_add_cancel hPositive] at hRun
  exact hRun

/- The entries of a file give each header its line's state. -/
theorem estadoDos_eq_estadoDoArquivo
    {confIni : Nat}
    {linhas : List Linha}
    {dispositivos : List Dispositivo}
    (hEntradas : EntradasDe confIni linhas dispositivos)
    (hIds : (linhas.map idDaLinha).Nodup) :
    estadoDos dispositivos =
      estadoDoArquivo confIni linhas := by
  funext c
  rw [estadoDos, estadoDoArquivo]
  cases hFind : linhas.find?
      (fun linha =>
        idDaLinha linha =
          some (c.idDispositivo.toNat : Int)) with
  | none =>
      have hAbsent :
          ∀ linha ∈ linhas,
            idDaLinha linha ≠
              some (c.idDispositivo.toNat : Int) := by
        simpa using hFind
      rw [procurar_eq_none hEntradas hAbsent]
      rfl
  | some linha =>
      have hMem := List.mem_of_find?_eq_some hFind
      have hId :
          idDaLinha linha =
            some (c.idDispositivo.toNat : Int) := by
        simpa using List.find?_some hFind
      rcases procurar_of_linha hEntradas hIds hMem hId with
        ⟨d, hProcurar, hEstado⟩
      rw [hProcurar, Option.map_some, hEstado]
      rfl

/- A run on the tables of a file, likewise. -/
theorem processar_setup_eq_ite
    {confIni : Nat}
    {arquivo : List (List Char)}
    {linhas : List Linha}
    (hConcluida : (setup confIni arquivo).concluida = true)
    (hLinhas :
      processFile arquivo quantidadeDispositivos = some linhas)
    (hIds : (linhas.map idDaLinha).Nodup)
    (hChaves : ∀ linha ∈ linhas, ChaveHex linha.chave)
    (frame : Frame)
    (fuel : Nat) :
    processar (setup confIni arquivo).calls fuel frame =
      if passagensDe (estadoDoArquivo confIni linhas) frame ≤
          fuel then
        some
          (especificacao (estadoDoArquivo confIni linhas)
            frame)
      else
        none := by
  rcases setup_calls hConcluida hLinhas hChaves with
    ⟨dispositivos, hEntradas, hCalls⟩
  rw [hCalls, ← estadoDos_eq_estadoDoArquivo hEntradas hIds]
  exact processar_eq_ite dispositivos frame fuel

------------------------------------------------------------
-- Refinement
------------------------------------------------------------

/-
  The tables that a device file sets up, passed through as
  often as a frame needs, do what the specification says.
-/
theorem processar_eq_especificacao
    (confIni : Nat)
    (arquivo : List (List Char))
    (linhas : List Linha)
    (hConcluida : (setup confIni arquivo).concluida = true)
    (hLinhas :
      processFile arquivo quantidadeDispositivos = some linhas)
    (hIds : (linhas.map idDaLinha).Nodup)
    (hChaves : ∀ linha ∈ linhas, ChaveHex linha.chave)
    (frame : Frame)
    (fuel : Nat)
    (hFuel : 230 ≤ fuel) :
    processar (setup confIni arquivo).calls fuel frame =
      some
        (especificacao (estadoDoArquivo confIni linhas)
          frame) := by
  rw [processar_setup_eq_ite hConcluida hLinhas hIds hChaves]
  exact if_pos (passagensDe_le hFuel)

/- Frames whose last quarter-rounds are counted from 56. -/
theorem processar_eq_especificacao_umaLinha :
    processar (setup 5 arquivoDeUmaLinha).calls 230
        (quadroEstado cabecalhoInjetado 56 zeroState []) =
      some
        (especificacao (estadoDoArquivo 5 [linhaUnica])
          (quadroEstado cabecalhoInjetado 56 zeroState [])) :=
  processar_eq_especificacao 5 arquivoDeUmaLinha [linhaUnica]
    concluida_umaLinha processFile_umaLinha (by simp)
    chaveHex_linhaUnica _ 230 (Nat.le_refl 230)

/- A run is short of passes exactly when it has fewer than counted. -/
theorem processar_eq_none_iff
    (confIni : Nat)
    (arquivo : List (List Char))
    (linhas : List Linha)
    (hConcluida : (setup confIni arquivo).concluida = true)
    (hLinhas :
      processFile arquivo quantidadeDispositivos = some linhas)
    (hIds : (linhas.map idDaLinha).Nodup)
    (hChaves : ∀ linha ∈ linhas, ChaveHex linha.chave)
    (frame : Frame) :
    (∀ fuel,
      processar (setup confIni arquivo).calls fuel frame =
          none ↔
        fuel <
          passagensDe (estadoDoArquivo confIni linhas)
            frame) ∧
      passagensDe (estadoDoArquivo confIni linhas) frame ≤
        230 ∧
      (passagensDe (estadoDoArquivo confIni linhas) frame =
          230 ↔
        ∃ c v corpo, frame = quadroEstado c 56 v corpo) := by
  refine ⟨?_, (passagensDe_bounds _ frame).2⟩
  intro fuel
  rw [processar_setup_eq_ite hConcluida hLinhas hIds hChaves]
  simp

theorem processar_eq_none_iff_umaLinha :
    processar (setup 5 arquivoDeUmaLinha).calls 229
          (quadroEstado cabecalhoInjetado 56 zeroState []) =
        none ∧
      processar (setup 5 arquivoDeUmaLinha).calls 230
          (quadroEstado cabecalhoInjetado 56 zeroState []) ≠
        none := by
  rcases processar_eq_none_iff 5 arquivoDeUmaLinha [linhaUnica]
      concluida_umaLinha processFile_umaLinha (by simp)
      chaveHex_linhaUnica
      (quadroEstado cabecalhoInjetado 56 zeroState []) with
    ⟨hShort, _, hMost⟩
  have h230 :=
    hMost.mpr ⟨cabecalhoInjetado, zeroState, [], rfl⟩
  rw [h230] at hShort
  constructor
  · exact (hShort 229).mpr (by omega)
  · intro hNone
    have hLess := (hShort 230).mp hNone
    omega

------------------------------------------------------------
-- What The Specification Does Not Read
------------------------------------------------------------

/- The bytes of a frame that hold its identifier. -/
def idDoQuadro (frame : Frame) : List Byte :=
  (frame.drop 31).take 16

theorem idDoQuadro_quadro
    (c : Cabecalho)
    (oper : BitVec 8)
    (corpo : List Byte) :
    idDoQuadro (quadro c oper corpo) =
      c.bytesIdDispositivo := by
  have hSemId :
      quadro c oper corpo =
        quadroSemId c oper [] ++
          (c.bytesIdDispositivo ++ corpo) := by
    simp [quadro, quadroSemId, Cabecalho.bytesIdDispositivo]
  have hLength : (quadroSemId c oper []).length = 31 :=
    length_quadroSemId c oper []
  unfold idDoQuadro
  rw [hSemId, List.drop_left' hLength]
  exact List.take_left'
    (p4draIdDispositivoT.length_encode ⟨c.idDispositivo⟩)

theorem idDoQuadro_origem
    (c : Cabecalho)
    (origem : Origem)
    (corpo : List Byte) :
    idDoQuadro (origem.quadro c corpo) =
      c.bytesIdDispositivo := by
  cases origem <;> exact idDoQuadro_quadro c _ _

/- Only the state of the frame's own header is read. -/
theorem especificacao_congr
    {estadoDe estadoDe' : Cabecalho → Option State}
    (frame : Frame)
    (hMesmo :
      ∀ c : Cabecalho,
        c.bytesIdDispositivo = idDoQuadro frame →
          estadoDe c = estadoDe' c) :
    especificacao estadoDe frame =
        especificacao estadoDe' frame ∧
      passagensDe estadoDe frame =
        passagensDe estadoDe' frame := by
  unfold especificacao passagensDe
  rcases hPedido : pedido frame with
    _ | ⟨port, saida⟩ | ⟨c, origem, corpo⟩
  · exact ⟨rfl, rfl⟩
  · exact ⟨rfl, rfl⟩
  · have hId : c.bytesIdDispositivo = idDoQuadro frame := by
      rw [quadro_of_pedido hPedido, idDoQuadro_origem]
    simp only [hMesmo c hId, and_self]

/- The state of a header is that of its record. -/
theorem estadoDoArquivo_eq_some_iff
    (confIni : Nat)
    {registros : List Registro}
    (hIds : (registros.map Registro.bytesId).Nodup)
    (c : Cabecalho)
    (v : State) :
    estadoDoArquivo confIni (registros.map linhaDoRegistro) c =
        some v ↔
      ∃ r ∈ registros,
        c.DoRegistro r ∧
          v =
            estadoForro r.bytesChave (BitVec.ofNat 256 confIni)
              c := by
  unfold estadoDoArquivo
  rw [List.find?_map, Option.map_map, Option.map_eq_some_iff]
  constructor
  · rintro ⟨r, hFind, hState⟩
    have hId :
        idDaLinha (linhaDoRegistro r) =
          some (c.idDispositivo.toNat : Int) := by
      simpa using List.find?_some hFind
    refine
      ⟨r, List.mem_of_find?_eq_some hFind,
        (idDaLinha_eq_iff c r).mp hId, ?_⟩
    rw [← hState, Function.comp_apply,
      bytesDaChave_linhaDoRegistro]
  · rintro ⟨r, hMem, hDoRegistro, rfl⟩
    have hId := (idDaLinha_eq_iff c r).mpr hDoRegistro
    cases hFind : registros.find?
        ((fun linha =>
          decide
            (idDaLinha linha =
              some (c.idDispositivo.toNat : Int))) ∘
          linhaDoRegistro) with
    | none =>
        have hNot := List.find?_eq_none.mp hFind r hMem
        simp [hId] at hNot
    | some s =>
        have hSameId :
            idDaLinha (linhaDoRegistro s) =
              some (c.idDispositivo.toNat : Int) := by
          simpa using List.find?_some hFind
        have hSame : s = r :=
          List.inj_on_of_nodup_map hIds
            (List.mem_of_find?_eq_some hFind) hMem
            (idDaLinha_inj (hSameId.trans hId.symm))
        refine ⟨s, rfl, ?_⟩
        rw [hSame, Function.comp_apply,
          bytesDaChave_linhaDoRegistro]

/-
  The result of a frame depends on the records that have its
  identifier, and on no other and not on their order.
-/
theorem processar_eq_of_mesmosRegistros
    {confIni : Nat}
    (hConf : confIni < 2 ^ 256)
    {registros registros' : List Registro}
    (hArquivo : ArquivoValido registros)
    (hArquivo' : ArquivoValido registros')
    (frame : Frame)
    (hMesmos :
      ∀ r : Registro,
        Bytes.swapWords r.bytesId = idDoQuadro frame →
          (r ∈ registros ↔ r ∈ registros'))
    (fuel : Nat) :
    processar
        (setup confIni (registros.map Registro.texto)).calls
        fuel frame =
      processar
        (setup confIni (registros'.map Registro.texto)).calls
        fuel frame := by
  rcases setup_registros hConf hArquivo with
    ⟨dispositivos, hEntradas, hSetup⟩
  rcases setup_registros hConf hArquivo' with
    ⟨dispositivos', hEntradas', hSetup'⟩
  have hMesmoEstado :
      ∀ c : Cabecalho,
        c.bytesIdDispositivo = idDoQuadro frame →
          estadoDoArquivo confIni
              (registros.map linhaDoRegistro) c =
            estadoDoArquivo confIni
              (registros'.map linhaDoRegistro) c := by
    intro c hId
    apply Option.ext
    intro v
    rw [estadoDoArquivo_eq_some_iff confIni hArquivo.ids,
      estadoDoArquivo_eq_some_iff confIni hArquivo'.ids]
    apply exists_congr
    intro r
    constructor
    · rintro ⟨hMem, hDoRegistro, hState⟩
      exact
        ⟨(hMesmos r (hDoRegistro.symm.trans hId)).mp hMem,
          hDoRegistro, hState⟩
    · rintro ⟨hMem, hDoRegistro, hState⟩
      exact
        ⟨(hMesmos r (hDoRegistro.symm.trans hId)).mpr hMem,
          hDoRegistro, hState⟩
  rcases especificacao_congr frame hMesmoEstado with
    ⟨hResult, hPasses⟩
  rw [hSetup, hSetup', processar_eq_ite, processar_eq_ite,
    estadoDos_eq_estadoDoArquivo hEntradas
      (nodup_idDaLinha hArquivo.ids),
    estadoDos_eq_estadoDoArquivo hEntradas'
      (nodup_idDaLinha hArquivo'.ids),
    hResult, hPasses]

/- A second record, of a device of zeros. -/
def registroNulo : Registro where
  idDispositivo := List.replicate 32 '0'
  chave := List.replicate 64 '0'
  prova := List.replicate 128 '0'
  hexId := by decide +kernel
  hexChave := by decide +kernel
  hexProva := registroExemplo.hexProva
  lengthId := by decide +kernel
  lengthChave := by decide +kernel
  lengthProva := registroExemplo.lengthProva

/- One of two devices sends a proof; the lines are swapped. -/
theorem processar_eq_of_mesmosRegistros_trocados :
    processar
        (setup 5 ([registroNulo, registroExemplo].map
          Registro.texto)).calls
        30 (quadro cabecalhoInjetado 0x2
          (List.replicate 64 0)) =
      processar
        (setup 5 ([registroExemplo, registroNulo].map
          Registro.texto)).calls
        30 (quadro cabecalhoInjetado 0x2
          (List.replicate 64 0)) := by
  have hValido :
      ArquivoValido [registroNulo, registroExemplo] :=
    { ids := by decide +kernel
      quantidade := by decide }
  have hTrocado :
      ArquivoValido [registroExemplo, registroNulo] :=
    { ids := by decide +kernel
      quantidade := by decide }
  exact
    processar_eq_of_mesmosRegistros (by decide) hValido hTrocado
      _
      (fun r _ => by simp [or_comm])
      30

end Tna

end P4dra
