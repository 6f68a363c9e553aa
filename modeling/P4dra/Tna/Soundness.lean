import P4dra.Tna.Verification

/-
  What the switch accepts from arbitrary senders.

  The parser takes the internal operations 0x3 and 0x4 from
  the wire as well. A frame of operation 0x3 gets the quarter-
  rounds that remain from its own `rodada`, one of operation
  0x4 gets none, and both are then compared with the sum of
  what they carried and the initial state.

  Main declarations:
    * `quartosRestantes`, `advance_quadroEstado`
    * `resultado_semId`, `resultado_estado`
    * `emitido_portaCPU_cases`
-/

------------------------------------------------------------
-- Remaining Quarter-Rounds
------------------------------------------------------------

namespace P4dra

open Bytes (Byte)
open Recirculation
open Forro (quarterRound afterQuarterRounds)

namespace Tna

/- A pass at 55 is the last one; others lead closer to it. -/
theorem rodada_distance
    (rodada : BitVec 8)
    (hFim : rodada ≠ 55) :
    (55 - (rodada + 1)).toNat < (55 - rodada).toNat ∧
      (rodadaImpar rodada = true →
        (55 - (rodada + 2)).toNat < (55 - rodada).toNat) := by
  constructor
  · bv_omega
  · intro hImpar
    simp only [rodadaImpar, Bool.and_eq_true,
      decide_eq_true_eq] at hImpar
    bv_omega

/- The operations on the state of a frame of operation 0x3. -/
def quartosRestantes
    (rodada : BitVec 8)
    (v : State) : State :=
  if hFim : rodada = 55 then
    quarterRound 7 (quarterRound 6 v)
  else if hImpar : rodadaImpar rodada = true then
    quartosRestantes (rodada + 2)
      (quarterRound (quartoDaRodada (rodada + 1))
        (quarterRound (quartoDaRodada rodada) v))
  else
    quartosRestantes (rodada + 1) (quartoPadrao v)
termination_by (55 - rodada).toNat
decreasing_by
  · exact (rodada_distance rodada hFim).2 hImpar
  · exact (rodada_distance rodada hFim).1

/- Egress acts after the odd values of `rodada` below 56. -/
theorem rodadaPar_succ
    (rodada : BitVec 8) :
    rodadaPar (rodada + 1) = rodadaImpar rodada ∧
      (rodada + 1 = 56 ↔ rodada = 55) := by
  have hLt := rodada.isLt
  constructor
  · rw [Bool.eq_iff_iff]
    simp [rodadaPar, rodadaImpar]
    omega
  · bv_omega

/- An honest frame gets the quarter-rounds it still lacks. -/
theorem quartosRestantes_afterQuarterRounds
    (v : State)
    (j : Nat)
    (hj : j ≤ 27) :
    quartosRestantes (BitVec.ofNat 8 (2 * (27 - j) + 1))
        (afterQuarterRounds (2 * (27 - j)) v) =
      afterQuarterRounds 56 v := by
  induction j with
  | zero =>
      have hLast :
          BitVec.ofNat 8 (2 * (27 - 0) + 1) = 55 := by
        decide
      rw [quartosRestantes, dif_pos hLast]
      rfl
  | succ j ih =>
      let k := 27 - (j + 1)
      have hk : k < 27 := by omega
      have hNext : 27 - j = k + 1 := by omega
      have hNot55 : ∀ k < 27, BitVec.ofNat 8 (2 * k + 1) ≠ 55 := by
        decide
      rcases rodada_even k (by omega) with ⟨hImpar, hQuarto⟩
      rcases rodada_odd k (by omega) with ⟨_, hQuarto', _⟩
      have hTwo :
          BitVec.ofNat 8 (2 * k + 1) + 2 =
            BitVec.ofNat 8 (2 * (k + 1) + 1) :=
        (BitVec.ofNat_add (2 * k + 1) 2).symm
      rw [quartosRestantes, dif_neg (hNot55 k hk),
        dif_pos hImpar, ofNat_succ, hQuarto, hQuarto', hTwo,
        ← ih (by omega), hNext]
      rfl

/- A frame of operation 0x3 reaches the comparison. -/
theorem advance_quadroEstado
    (dispositivos : List Dispositivo)
    (c : Cabecalho)
    (rodada : BitVec 8)
    (v : State)
    (rest : List Byte) :
    ∃ n,
      advance (travessia (programa dispositivos)) n
          (quadroEstado c rodada v rest) =
        some
          (quadro c 0x4
            (forroStateT.encode (quartosRestantes rodada v) ++
              rest)) := by
  fun_induction quartosRestantes rodada v with
  | case1 v =>
      have hStep := travessia_estado dispositivos c 55 v rest
      refine ⟨1, ?_⟩
      rw [advance, hStep]
      rfl
  | case2 rodada v hFim hImpar ih =>
      have hStep := travessia_estado dispositivos c rodada v rest
      rcases rodadaPar_succ rodada with ⟨hPar, hLast⟩
      have hTwo : rodada + 1 + 1 = rodada + 2 := by
        rw [BitVec.add_assoc]
        rfl
      rw [quadroAposEgress, hPar, if_pos hImpar,
        if_neg (fun h => hFim (hLast.mp h)), passoIngress,
        if_pos hImpar, hTwo] at hStep
      rcases ih with ⟨n, hn⟩
      refine ⟨n + 1, ?_⟩
      rw [advance, hStep]
      exact hn
  | case3 rodada v hFim hImpar ih =>
      have hStep := travessia_estado dispositivos c rodada v rest
      rcases rodadaPar_succ rodada with ⟨hPar, _⟩
      rw [quadroAposEgress, hPar, if_neg hImpar, passoIngress,
        if_neg hImpar] at hStep
      rcases ih with ⟨n, hn⟩
      refine ⟨n + 1, ?_⟩
      rw [advance, hStep]
      exact hn

------------------------------------------------------------
-- Results
------------------------------------------------------------

/- The result of the comparison pass. -/
def resultadoCifra
    (dispositivos : List Dispositivo)
    (c : Cabecalho)
    (cipher : State)
    (corpo : List Byte) : Resultado :=
  match forroStateT.extract corpo with
  | none => .descartado
  | some (payload, rest) =>
      if payload =
          somarPalavras cipher (estadoSomado dispositivos c)
      then
        .emitido portaCPU (quadroCifra c payload payload rest)
      else
        .descartado

theorem travessia_quadro_cifra
    (dispositivos : List Dispositivo)
    (c : Cabecalho)
    (cipher : State)
    (corpo : List Byte) :
    travessia (programa dispositivos)
        (quadro c 0x4 (forroStateT.encode cipher ++ corpo)) =
      .done (resultadoCifra dispositivos c cipher corpo) := by
  rw [resultadoCifra]
  cases hExtract : forroStateT.extract corpo with
  | none => exact travessia_curta dispositivos c cipher corpo hExtract
  | some parsed =>
      rcases parsed with ⟨payload, rest⟩
      rw [Codec.eq_append_of_extract hExtract]
      exact travessia_cifra dispositivos c cipher payload rest

/- Two runs from frames on one way have the same result. -/
theorem processar_eq_of_advance
    {calls : List BfrtCall}
    {n fuel : Nat}
    {frame last : Frame}
    {result result' : Resultado}
    (hAdvance : advance (travessia calls) n frame = some last)
    (hLast : travessia calls last = .done result')
    (hRun : processar calls fuel frame = some result) :
    result = result' := by
  have hRun' :
      processar calls (n + 1) frame = some result' :=
    (run_of_advance n 1 hAdvance).trans (run_done 0 hLast)
  exact run_unique hRun hRun'

/- The result of a frame without a device identifier. -/
def resultadoSemId
    (c : Cabecalho)
    (oper : BitVec 8)
    (corpo : List Byte) : Resultado :=
  if oper = 0x0 then
    .emitido portaCliente (quadroSemId c 0x1 corpo)
  else if oper = 0x5 then
    .emitido 0 (quadroSemId c 0x5 corpo)
  else
    .descartado

theorem travessia_semId
    (dispositivos : List Dispositivo)
    (c : Cabecalho)
    {oper : BitVec 8}
    (corpo : List Byte)
    (hOper : ¬ ComId oper) :
    travessia (programa dispositivos)
        (quadroSemId c oper corpo) =
      .done (resultadoSemId c oper corpo) := by
  rw [travessia, resultadoSemId,
    passagem_semId dispositivos c oper corpo hOper]
  by_cases hStart : oper = 0x0
  · rw [if_pos hStart, if_pos hStart]
    rfl
  · rw [if_neg hStart, if_neg hStart]
    by_cases hForward : oper = 0x5
    · rw [if_pos hForward, if_pos hForward]
      rfl
    · rw [if_neg hForward, if_neg hForward]

theorem processar_semId
    {dispositivos : List Dispositivo}
    {c : Cabecalho}
    {oper : BitVec 8}
    {corpo : List Byte}
    {fuel : Nat}
    {result : Resultado}
    (hOper : ¬ ComId oper)
    (hRun :
      processar (programa dispositivos) fuel
        (quadroSemId c oper corpo) = some result) :
    result = resultadoSemId c oper corpo := by
  have hAdvance :
      advance (travessia (programa dispositivos)) 0
          (quadroSemId c oper corpo) =
        some (quadroSemId c oper corpo) := rfl
  exact processar_eq_of_advance hAdvance
    (travessia_semId dispositivos c corpo hOper) hRun

theorem processar_estado
    {dispositivos : List Dispositivo}
    {c : Cabecalho}
    {rodada : BitVec 8}
    {v : State}
    {rest : List Byte}
    {fuel : Nat}
    {result : Resultado}
    (hRun :
      processar (programa dispositivos) fuel
        (quadroEstado c rodada v rest) = some result) :
    result =
      resultadoCifra dispositivos c (quartosRestantes rodada v)
        rest := by
  rcases advance_quadroEstado dispositivos c rodada v rest with
    ⟨n, hAdvance⟩
  exact processar_eq_of_advance hAdvance
    (travessia_quadro_cifra dispositivos c _ rest) hRun

theorem processar_quadro_resposta
    {dispositivos : List Dispositivo}
    {c : Cabecalho}
    {corpo : List Byte}
    {fuel : Nat}
    {result : Resultado}
    (hRun :
      processar (programa dispositivos) fuel
        (quadro c 0x2 corpo) = some result) :
    result =
      match procurar dispositivos c.idDispositivo with
      | some d =>
          resultadoCifra dispositivos c
            (afterQuarterRounds 56 (d.estadoInicial c)) corpo
      | none => .descartado := by
  cases hProcurar : procurar dispositivos c.idDispositivo with
  | some d =>
      have hAdvance := advance_resposta corpo hProcurar 28 (by omega)
      exact processar_eq_of_advance hAdvance
        (travessia_quadro_cifra dispositivos c _ corpo) hRun
  | none =>
      have hAdvance :
          advance (travessia (programa dispositivos)) 0
              (quadro c 0x2 corpo) =
            some (quadro c 0x2 corpo) := rfl
      exact processar_eq_of_advance hAdvance
        (travessia_resposta_none corpo hProcurar) hRun

theorem processar_cifra
    {dispositivos : List Dispositivo}
    {c : Cabecalho}
    {cipher payload : State}
    {rest : List Byte}
    {fuel : Nat}
    {result : Resultado}
    (hRun :
      processar (programa dispositivos) fuel
        (quadroCifra c cipher payload rest) = some result) :
    result =
      resultadoCifra dispositivos c cipher
        (forroStateT.encode payload ++ rest) := by
  have hAdvance :
      advance (travessia (programa dispositivos)) 0
          (quadroCifra c cipher payload rest) =
        some (quadroCifra c cipher payload rest) := rfl
  exact processar_eq_of_advance hAdvance
    (travessia_quadro_cifra dispositivos c cipher _) hRun

theorem processar_of_parser_none
    {calls : List BfrtCall}
    {frame : Frame}
    {fuel : Nat}
    {result : Resultado}
    (hParse : ingressParser frame = none)
    (hRun : processar calls fuel frame = some result) :
    result = .descartado := by
  have hAdvance :
      advance (travessia calls) 0 frame = some frame := rfl
  exact processar_eq_of_advance hAdvance
    (travessia_of_parser_none hParse) hRun

------------------------------------------------------------
-- Accepted Frames
------------------------------------------------------------

/-
  What the comparison adds: the initial state of a line, or
  the words of `id_rodada` for an identifier of no line.
-/
def SomaPara
    (confIni : Nat)
    (linhas : List Linha)
    (c : Cabecalho)
    (soma : State) : Prop :=
  (∃ linha ∈ linhas,
    idDaLinha linha = some (c.idDispositivo.toNat : Int) ∧
      soma =
        estadoForro (bytesDaChave linha.chave)
          (BitVec.ofNat 256 confIni) c) ∨
    ((∀ linha ∈ linhas,
        idDaLinha linha ≠
          some (c.idDispositivo.toNat : Int)) ∧
      soma = estadoSemDispositivo c)

theorem somaPara_estadoSomado
    {confIni : Nat}
    {linhas : List Linha}
    {dispositivos : List Dispositivo}
    (hEntradas : EntradasDe confIni linhas dispositivos)
    (c : Cabecalho) :
    SomaPara confIni linhas c (estadoSomado dispositivos c) := by
  rw [estadoSomado]
  cases hProcurar : procurar dispositivos c.idDispositivo with
  | some d => exact Or.inl (linha_of_procurar hEntradas hProcurar)
  | none =>
      refine Or.inr ⟨?_, rfl⟩
      intro linha hMem hId
      rcases dispositivo_of_mem hEntradas linha hMem with
        ⟨d, hd, hLinha⟩
      have hNone := List.find?_eq_none.mp hProcurar d hd
      apply hNone
      have hSame := (daLinha_eq_some hLinha).1.symm.trans hId
      have hToNat :
          d.idDispositivo.toNat = c.idDispositivo.toNat := by
        exact_mod_cast Option.some.inj hSame
      simpa using BitVec.eq_of_toNat_eq hToNat

/- An accepted comparison is an equality with the sum. -/
theorem resultadoCifra_emitido
    {dispositivos : List Dispositivo}
    {c : Cabecalho}
    {cipher : State}
    {corpo : List Byte}
    {port : BitVec 9}
    {saida : Frame}
    (hResult :
      resultadoCifra dispositivos c cipher corpo =
        .emitido port saida) :
    ∃ payload rest,
      corpo = forroStateT.encode payload ++ rest ∧
        payload =
          somarPalavras cipher (estadoSomado dispositivos c) ∧
        port = portaCPU ∧
        saida = quadroCifra c payload payload rest := by
  rw [resultadoCifra] at hResult
  cases hExtract : forroStateT.extract corpo with
  | none => simp [hExtract] at hResult
  | some parsed =>
      rcases parsed with ⟨payload, rest⟩
      simp only [hExtract] at hResult
      by_cases hSoma :
          payload =
            somarPalavras cipher (estadoSomado dispositivos c)
      · rw [if_pos hSoma] at hResult
        cases hResult
        exact ⟨payload, rest,
          Codec.eq_append_of_extract hExtract, hSoma, rfl, rfl⟩
      · rw [if_neg hSoma] at hResult
        cases hResult

/- How a frame that reached the controller had arrived. -/
theorem emitido_portaCPU_cases
    (confIni : Nat)
    (arquivo : List (List Char))
    (linhas : List Linha)
    (hConcluida : (setup confIni arquivo).concluida = true)
    (hLinhas :
      processFile arquivo quantidadeDispositivos = some linhas)
    (hChaves : ∀ linha ∈ linhas, ChaveHex linha.chave)
    (frame saida : Frame)
    (hP4dra : DeP4DRA frame)
    (fuel : Nat)
    (hRun :
      processar (setup confIni arquivo).calls fuel frame =
        some (.emitido portaCPU saida)) :
    ∃ (c : Cabecalho) (payload : State) (rest : List Byte),
      saida = quadroCifra c payload payload rest ∧
        ((frame = quadroResposta c payload rest ∧
            ∃ linha ∈ linhas,
              idDaLinha linha =
                  some (c.idDispositivo.toNat : Int) ∧
                payload =
                  Forro.forroWords
                    (estadoForro (bytesDaChave linha.chave)
                      (BitVec.ofNat 256 confIni) c)) ∨
          (∃ rodada v soma,
            frame =
                quadroEstado c rodada v
                  (forroStateT.encode payload ++ rest) ∧
              SomaPara confIni linhas c soma ∧
              payload =
                somarPalavras (quartosRestantes rodada v)
                  soma) ∨
          (∃ cipher soma,
            frame = quadroCifra c cipher payload rest ∧
              SomaPara confIni linhas c soma ∧
              payload = somarPalavras cipher soma)) := by
  rcases setup_calls hConcluida hLinhas hChaves with
    ⟨dispositivos, hEntradas, hCalls⟩
  rw [hCalls] at hRun
  cases hParse : ingressParser frame with
  | none =>
      have hDrop := processar_of_parser_none hParse hRun
      cases hDrop
  | some parsed =>
      rcases parsed with ⟨hdr, rest⟩
      cases forma_of_ingressParser hP4dra hParse with
      | semId c oper hOper =>
          have hResult := processar_semId hOper hRun
          rw [resultadoSemId] at hResult
          split at hResult
          · cases hResult
          · split at hResult
            · cases hResult
            · cases hResult
      | resposta c =>
          have hResult := processar_quadro_resposta hRun
          cases hProcurar :
              procurar dispositivos c.idDispositivo with
          | none =>
              rw [hProcurar] at hResult
              cases hResult
          | some d =>
              rw [hProcurar] at hResult
              rcases resultadoCifra_emitido hResult.symm with
                ⟨payload, tail, hCorpo, hSoma, _, hSaida⟩
              rcases linha_of_procurar hEntradas hProcurar with
                ⟨linha, hMem, hId, hEstado⟩
              refine ⟨c, payload, tail, hSaida, Or.inl
                ⟨by rw [hCorpo]; rfl, linha, hMem, hId, ?_⟩⟩
              rw [hSoma, estadoSomado, hProcurar,
                somarPalavras_forroWords, hEstado]
      | estado c rodada v =>
          have hResult := processar_estado hRun
          rcases resultadoCifra_emitido hResult.symm with
            ⟨payload, tail, hCorpo, hSoma, _, hSaida⟩
          exact ⟨c, payload, tail, hSaida, Or.inr (Or.inl
            ⟨rodada, v, _, by rw [hCorpo],
              somaPara_estadoSomado hEntradas c, hSoma⟩)⟩
      | cifra c cipher payload =>
          have hResult := processar_cifra hRun
          rcases resultadoCifra_emitido hResult.symm with
            ⟨payload', tail, hCorpo, hSoma, _, hSaida⟩
          exact ⟨c, payload', tail, hSaida, Or.inr (Or.inr
            ⟨cipher, _, by rw [quadroCifra, hCorpo]; rfl,
              somaPara_estadoSomado hEntradas c, hSoma⟩)⟩

------------------------------------------------------------
-- Injected Frames
------------------------------------------------------------

/- A frame of operation 0x4 for an identifier of no line. -/
def cabecalhoInjetado : Cabecalho :=
  { dstAddr := 1
    srcAddr := 2
    idRodada0 := 3
    idRodada1 := 4
    idRodada2 := 5
    idRodada3 := 6
    idDispositivo := 7 }

def provaInjetada : State :=
  estadoSemDispositivo cabecalhoInjetado

theorem processar_injetado :
    processar (setup 5 arquivoDeUmaLinha).calls 1
        (quadroCifra cabecalhoInjetado zeroState
          provaInjetada []) =
      some
        (.emitido portaCPU
          (quadroCifra cabecalhoInjetado provaInjetada
            provaInjetada [])) := by
  decide +kernel

theorem deP4DRA_quadroCifra
    (c : Cabecalho)
    (cipher payload : State)
    (rest : List Byte) :
    DeP4DRA (quadroCifra c cipher payload rest) :=
  ⟨c.ethernet, _, rfl, rfl⟩

/- The identifier and the proof of a frame are its own. -/
theorem quadroCifra_injective
    {c c' : Cabecalho}
    {cipher cipher' payload payload' : State}
    {rest rest' : List Byte}
    (hSame :
      quadroCifra c cipher payload rest =
        quadroCifra c' cipher' payload' rest') :
    c.idDispositivo = c'.idDispositivo ∧ payload = payload' := by
  have hParse := ingressParser_quadroCifra c cipher payload rest
  rw [hSame, ingressParser_quadroCifra] at hParse
  have hHdr := (Prod.mk.inj (Option.some.inj hParse)).1
  have hId :=
    congrArg (fun hdr => hdr.p4draIdDispositivo.fields) hHdr
  have hPayload :=
    congrArg (fun hdr => hdr.forroPayload.fields) hHdr
  refine ⟨?_, hPayload.symm⟩
  exact (congrArg P4draIdDispositivoT.idDispositivo hId).symm

/-
  Frames that reach the controller need not be proofs of a
  device: this one was sent with operation 0x4.
-/
theorem emitido_portaCPU_not_forro :
    ¬ ∀ (confIni : Nat) (arquivo : List (List Char))
        (linhas : List Linha),
      (setup confIni arquivo).concluida = true →
      processFile arquivo quantidadeDispositivos = some linhas →
      (linhas.map idDaLinha).Nodup →
      (∀ linha ∈ linhas, ChaveHex linha.chave) →
      ∀ (frame saida : Frame) (fuel : Nat),
        DeP4DRA frame →
        processar (setup confIni arquivo).calls fuel frame =
          some (.emitido portaCPU saida) →
        ∃ (c : Cabecalho) (payload : State)
            (rest : List Byte),
          saida = quadroCifra c payload payload rest ∧
            ∃ linha ∈ linhas,
              idDaLinha linha =
                  some (c.idDispositivo.toNat : Int) ∧
                payload =
                  Forro.forroWords
                    (estadoForro (bytesDaChave linha.chave)
                      (BitVec.ofNat 256 confIni) c) := by
  intro hClaim
  rcases hClaim 5 arquivoDeUmaLinha [linhaUnica]
      concluida_umaLinha processFile_umaLinha
      (by decide +kernel) chaveHex_linhaUnica _ _ 1
      (deP4DRA_quadroCifra cabecalhoInjetado zeroState
        provaInjetada []) processar_injetado with
    ⟨c, payload, rest, hSaida, linha, hMem, hId, _⟩
  have hLinha : linha = linhaUnica := List.mem_singleton.mp hMem
  have hSameId := (quadroCifra_injective hSaida).1
  rw [hLinha, ← hSameId] at hId
  exact absurd hId (by decide +kernel)

/- The injected frame is of the third kind. -/
theorem emitido_portaCPU_cases_injetado :
    ∃ (c : Cabecalho) (payload : State) (rest : List Byte),
      quadroCifra cabecalhoInjetado provaInjetada
          provaInjetada [] =
        quadroCifra c payload payload rest := by
  rcases emitido_portaCPU_cases 5 arquivoDeUmaLinha
      [linhaUnica] concluida_umaLinha processFile_umaLinha
      chaveHex_linhaUnica _ _
      (deP4DRA_quadroCifra cabecalhoInjetado zeroState
        provaInjetada []) 1 processar_injetado with
    ⟨c, payload, rest, hSaida, _⟩
  exact ⟨c, payload, rest, hSaida⟩

end Tna

end P4dra
