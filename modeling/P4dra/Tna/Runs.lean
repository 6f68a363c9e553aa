import P4dra.Tna.Finalization

/-
  A proof on its whole way through the switch.

  Between the pass that loads the state and the pass that
  compares the proof there are 28 passes, each of them two
  quarter-rounds. The frame between two passes, and the frame
  between ingress and egress, holds the state vector of the
  cipher after as many quarter-rounds.

  Main declarations:
    * `quadroApos`, `travessia_quadroApos`
    * `advance_quadroApos`
    * `processar_resposta`
-/

------------------------------------------------------------
-- Quarter-Rounds In Order
------------------------------------------------------------

namespace P4dra

open Bytes (Byte)
open MatchAction
open Recirculation
open Forro (quarterRound afterQuarterRounds)

namespace Tna

/- The frame after `r` quarter-rounds on the state `v`. -/
def quadroApos
    (c : Cabecalho)
    (v : State)
    (rest : List Byte)
    (r : Nat) : Frame :=
  if r = 56 then
    quadro c 0x4
      (forroStateT.encode (afterQuarterRounds 56 v) ++ rest)
  else
    quadroEstado c (BitVec.ofNat 8 (r + 1))
      (afterQuarterRounds r v) rest

/- Ingress does the even quarter-rounds. -/
theorem rodada_even :
    ∀ k < 28,
      rodadaImpar (BitVec.ofNat 8 (2 * k + 1)) = true ∧
        quartoDaRodada (BitVec.ofNat 8 (2 * k + 1)) =
          Fin.ofNat 8 (2 * k) := by
  decide

/- Egress does the odd quarter-rounds. -/
theorem rodada_odd :
    ∀ k < 28,
      rodadaPar (BitVec.ofNat 8 (2 * k + 2)) = true ∧
        quartoDaRodada (BitVec.ofNat 8 (2 * k + 2)) =
          Fin.ofNat 8 (2 * k + 1) ∧
        (BitVec.ofNat 8 (2 * k + 2) = 56 ↔ k = 27) := by
  decide

theorem passoIngress_even
    (k : Nat)
    (hk : k < 28)
    (v : State) :
    passoIngress (BitVec.ofNat 8 (2 * k + 1))
        (afterQuarterRounds (2 * k) v) =
      afterQuarterRounds (2 * k + 1) v := by
  rcases rodada_even k hk with ⟨hImpar, hQuarto⟩
  rw [passoIngress, if_pos hImpar, hQuarto]
  rfl

theorem ofNat_succ
    (r : Nat) :
    BitVec.ofNat 8 r + 1 = BitVec.ofNat 8 (r + 1) := by
  rw [BitVec.ofNat_add]
  rfl

/- The first half of a pass is an even quarter-round. -/
theorem ingressPass_quadroApos
    (dispositivos : List Dispositivo)
    (c : Cabecalho)
    (v : State)
    (rest : List Byte)
    (k : Nat)
    (hk : k < 28) :
    ingressPass (programa dispositivos)
        (quadroApos c v rest (2 * k)) =
      some
        { port := portaIngress (BitVec.ofNat 8 (2 * k + 1))
          bypassEgress := false
          frame := quadroApos c v rest (2 * k + 1) } := by
  have hBefore : ¬ 2 * k = 56 := by omega
  have hAfter : ¬ 2 * k + 1 = 56 := by omega
  rw [quadroApos, if_neg hBefore, quadroApos, if_neg hAfter,
    ingressPass_estado, passoIngress_even k hk, ofNat_succ]

/- The second half of a pass is the odd one after it. -/
theorem egressPass_quadroApos
    (dispositivos : List Dispositivo)
    (c : Cabecalho)
    (v : State)
    (rest : List Byte)
    (k : Nat)
    (hk : k < 28) :
    egressPass (programa dispositivos)
        (quadroApos c v rest (2 * k + 1)) =
      some (quadroApos c v rest (2 * k + 2)) := by
  have hBefore : ¬ 2 * k + 1 = 56 := by omega
  rcases rodada_odd k hk with ⟨hPar, hQuarto, hFim⟩
  rw [quadroApos, if_neg hBefore, egressPass_estado,
    quadroAposEgress, if_pos hPar, quadroApos]
  by_cases hLast : k = 27
  · subst hLast
    rfl
  · have hAfter : ¬ 2 * k + 2 = 56 := by omega
    rw [if_neg (fun h => hLast (hFim.mp h)), if_neg hAfter,
      hQuarto, ofNat_succ]
    rfl

/- A pass is two quarter-rounds. -/
theorem travessia_quadroApos
    (dispositivos : List Dispositivo)
    (c : Cabecalho)
    (v : State)
    (rest : List Byte)
    (k : Nat)
    (hk : k < 28) :
    travessia (programa dispositivos)
        (quadroApos c v rest (2 * k)) =
      .again (quadroApos c v rest (2 * (k + 1))) := by
  have hIngress :=
    ingressPass_quadroApos dispositivos c v rest k hk
  have hEgress :=
    egressPass_quadroApos dispositivos c v rest k hk
  have hPassagem :
      passagem (programa dispositivos)
          (quadroApos c v rest (2 * k)) =
        some
          (portaIngress (BitVec.ofNat 8 (2 * k + 1)),
            quadroApos c v rest (2 * (k + 1))) := by
    simp [passagem, hIngress, hEgress, Nat.mul_add]
  rw [travessia, hPassagem]
  exact if_pos (portaRecirculacao_portaIngress _)

/- After `k` passes there were `2 * k` quarter-rounds. -/
theorem advance_quadroApos
    (dispositivos : List Dispositivo)
    (c : Cabecalho)
    (v : State)
    (rest : List Byte)
    (k : Nat)
    (hk : k ≤ 28) :
    advance (travessia (programa dispositivos)) k
        (quadroApos c v rest 0) =
      some (quadroApos c v rest (2 * k)) := by
  induction k with
  | zero => rfl
  | succ k ih =>
      rw [advance_add k 1 (ih (by omega)), advance,
        travessia_quadroApos dispositivos c v rest k (by omega)]
      rfl

------------------------------------------------------------
-- The Last Pass
------------------------------------------------------------

theorem travessia_cifra
    (dispositivos : List Dispositivo)
    (c : Cabecalho)
    (cipher payload : State)
    (rest : List Byte) :
    travessia (programa dispositivos)
        (quadroCifra c cipher payload rest) =
      .done
        (if payload =
            somarPalavras cipher (estadoSomado dispositivos c)
          then
            .emitido portaCPU (quadroCifra c payload payload rest)
          else
            .descartado) := by
  rw [travessia, passagem_cifra]
  split
  · rename_i hNone
    split at hNone
    · cases hNone
    · rename_i hSoma
      rw [if_neg hSoma]
  · rename_i port frame hSome
    split at hSome
    · rename_i hSoma
      cases hSome
      rw [if_pos hSoma]
      rfl
    · cases hSome

/- The parser refuses a frame that ends before its proof. -/
theorem ingressParser_curta
    (c : Cabecalho)
    (cipher : State)
    (rest : List Byte)
    (hShort : forroStateT.extract rest = none) :
    ingressParser
        (quadro c 0x4 (forroStateT.encode cipher ++ rest)) =
      none := by
  simp [ingressParser, quadro, quadroSemId,
    IngressParser.parseEthernet,
    IngressParser.parseP4draOper,
    IngressParser.parseP4draIdDispositivo,
    IngressParser.parseForroCipherPayload,
    Header.extracted, Cabecalho.ethernet,
    Cabecalho.p4draOper, hShort]

/- A frame that the parser refuses is dropped. -/
theorem travessia_of_parser_none
    {calls : List BfrtCall}
    {frame : Frame}
    (hParse : ingressParser frame = none) :
    travessia calls frame = .done .descartado := by
  rw [travessia, passagem, ingressPass, hParse]
  rfl

theorem travessia_curta
    (dispositivos : List Dispositivo)
    (c : Cabecalho)
    (cipher : State)
    (rest : List Byte)
    (hShort : forroStateT.extract rest = none) :
    travessia (programa dispositivos)
        (quadro c 0x4 (forroStateT.encode cipher ++ rest)) =
      .done .descartado :=
  travessia_of_parser_none
    (ingressParser_curta c cipher rest hShort)

/- The sum of the last pass is the output of `forro`. -/
theorem somarPalavras_forroWords
    (init : State) :
    somarPalavras (afterQuarterRounds 56 init) init =
      Forro.forroWords init := by
  apply Vector.ext
  intro i hi
  rw [Forro.getElem_forroWords]
  simp [somarPalavras, BitVec.add_comm]

theorem quadroApos_all
    (c : Cabecalho)
    (v payload : State)
    (rest : List Byte) :
    quadroApos c v (forroStateT.encode payload ++ rest) 56 =
      quadroCifra c (afterQuarterRounds 56 v) payload rest :=
  rfl

/- The cipher words of a frame after `finalizar_forro_4`. -/
def cifraAposFinalizar
    (calls : List BfrtCall)
    (frame : Frame) : Option State := do
  let (hdr, _) ← ingressParser frame
  let flow :=
    sequence ((trilhaFinalizacao calls).take 5) (.init hdr)
  some flow.state.hdr.forroCipher.fields

theorem cifraAposFinalizar_cifra
    (dispositivos : List Dispositivo)
    (c : Cabecalho)
    (cipher payload : State)
    (rest : List Byte) :
    cifraAposFinalizar (programa dispositivos)
        (quadroCifra c cipher payload rest) =
      some
        (somarPalavras cipher (estadoSomado dispositivos c)) := by
  rcases sequence_finalizar dispositivos c cipher payload [] with
    ⟨metadata, hFinalizar⟩
  have hFlow :
      sequence ((trilhaFinalizacao (programa dispositivos)).take
          5)
          (.init (c.ingressCifra cipher payload)) =
        .next
          (finalizando c
            (somarPalavras cipher (estadoSomado dispositivos c))
            payload metadata (some portaCPU)) :=
    hFinalizar
  rw [cifraAposFinalizar, ingressParser_quadroCifra]
  dsimp only [Option.bind_eq_bind, Option.bind_some]
  rw [hFlow]
  rfl

------------------------------------------------------------
-- Every Pass
------------------------------------------------------------

/- The result for a proof of a device. -/
def resultadoResposta
    (dispositivos : List Dispositivo)
    (c : Cabecalho)
    (payload : State)
    (rest : List Byte) : Resultado :=
  match procurar dispositivos c.idDispositivo with
  | some d =>
      if payload = Forro.forroWords (d.estadoInicial c) then
        .emitido portaCPU (quadroCifra c payload payload rest)
      else
        .descartado
  | none => .descartado

theorem travessia_resposta_some
    {dispositivos : List Dispositivo}
    {c : Cabecalho}
    {d : Dispositivo}
    (rest : List Byte)
    (hProcurar :
      procurar dispositivos c.idDispositivo = some d) :
    travessia (programa dispositivos) (quadro c 0x2 rest) =
      .again (quadroApos c (d.estadoInicial c) rest 0) := by
  rw [travessia, passagem_resposta, hProcurar]
  rfl

theorem travessia_resposta_none
    {dispositivos : List Dispositivo}
    {c : Cabecalho}
    (rest : List Byte)
    (hProcurar :
      procurar dispositivos c.idDispositivo = none) :
    travessia (programa dispositivos) (quadro c 0x2 rest) =
      .done .descartado := by
  rw [travessia, passagem_resposta, hProcurar]
  rfl

/- A device's proof reaches its last pass after 29 passes. -/
theorem advance_resposta
    {dispositivos : List Dispositivo}
    {c : Cabecalho}
    {d : Dispositivo}
    (rest : List Byte)
    (hProcurar :
      procurar dispositivos c.idDispositivo = some d)
    (k : Nat)
    (hk : k ≤ 28) :
    advance (travessia (programa dispositivos)) (1 + k)
        (quadro c 0x2 rest) =
      some
        (quadroApos c (d.estadoInicial c) rest (2 * k)) := by
  have hFirst :
      advance (travessia (programa dispositivos)) 1
          (quadro c 0x2 rest) =
        some (quadroApos c (d.estadoInicial c) rest 0) := by
    rw [advance, travessia_resposta_some rest hProcurar]
    rfl
  rw [advance_add 1 k hFirst,
    advance_quadroApos dispositivos c _ rest k hk]

/- The last pass of a device's proof has the output of `forro`. -/
theorem cifraAposFinalizar_resposta
    {dispositivos : List Dispositivo}
    {c : Cabecalho}
    {d : Dispositivo}
    (payload : State)
    (rest : List Byte)
    (hProcurar :
      procurar dispositivos c.idDispositivo = some d) :
    (advance (travessia (programa dispositivos)) 29
          (quadro c 0x2
            (forroStateT.encode payload ++ rest))).bind
        (cifraAposFinalizar (programa dispositivos)) =
      some (Forro.forroWords (d.estadoInicial c)) := by
  have hAdvance :=
    advance_resposta (forroStateT.encode payload ++ rest)
      hProcurar 28 (by omega)
  have hPasses : 1 + 28 = 29 := by omega
  rw [quadroApos_all, hPasses] at hAdvance
  have hCifra :=
    cifraAposFinalizar_cifra dispositivos c
      (afterQuarterRounds 56 (d.estadoInicial c)) payload rest
  rw [estadoSomado, hProcurar, somarPalavras_forroWords]
    at hCifra
  rw [hAdvance, Option.bind_some, hCifra]

/- Thirty passes are enough for a proof of a device. -/
theorem processar_resposta
    (dispositivos : List Dispositivo)
    (c : Cabecalho)
    (payload : State)
    (rest : List Byte)
    (fuel : Nat)
    (hFuel : 30 ≤ fuel) :
    processar (programa dispositivos) fuel
        (quadro c 0x2 (forroStateT.encode payload ++ rest)) =
      some (resultadoResposta dispositivos c payload rest) := by
  apply run_mono _ hFuel
  rw [resultadoResposta]
  cases hProcurar : procurar dispositivos c.idDispositivo with
  | none =>
      exact run_done 29 (travessia_resposta_none _ hProcurar)
  | some d =>
      have hAdvance :=
        advance_resposta
          (forroStateT.encode payload ++ rest) hProcurar 28
          (by omega)
      rw [quadroApos_all] at hAdvance
      have hLast :=
        travessia_cifra dispositivos c
          (afterQuarterRounds 56 (d.estadoInicial c)) payload
          rest
      rw [estadoSomado, hProcurar, somarPalavras_forroWords]
        at hLast
      exact (run_of_advance 29 1 hAdvance).trans
        (run_done 0 hLast)

end Tna

end P4dra
