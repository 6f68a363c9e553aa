import P4dra.Tna.Secrecy

/-
  No frame goes around for ever.

  The number of passes that a frame still makes is bounded by
  its operation and its `rodada`. A frame between the quarter-
  rounds gains one or two at `rodada` on a pass and wraps from
  255 to 0, and the pass at 55 is the one whose egress runs
  `e11_qr7_fin`. So the passes up to 55 are counted from any
  value, and 229 of them is the most there can be.

  Main declarations:
    * `passagensAteFim`, `voltasRestantes`
    * `voltasRestantes_decreases`
    * `ExecutaFin`, `executaFin_quadroEstado`
    * `processar_terminates`
-/

------------------------------------------------------------
-- Passes That Remain
------------------------------------------------------------

namespace P4dra

open Bytes (Byte)
open MatchAction (Flow Header)
open Recirculation

namespace Tna

/- The passes of a frame of operation 0x3 up to the one at 55. -/
def passagensAteFim (rodada : BitVec 8) : Nat :=
  if rodadaImpar rodada then
    (55 - rodada.toNat) / 2
  else if rodada.toNat < 56 then
    1 + (54 - rodada.toNat) / 2
  else
    284 - rodada.toNat

/- A pass adds two at the odd values below 56, else one. -/
def rodadaSeguinte (rodada : BitVec 8) : BitVec 8 :=
  if rodadaImpar rodada then rodada + 2 else rodada + 1

theorem passagensAteFim_seguinte
    (rodada : BitVec 8)
    (hFim : rodada ≠ 55) :
    passagensAteFim (rodadaSeguinte rodada) + 1 =
      passagensAteFim rodada := by
  have hLt := rodada.isLt
  have hNat : rodada.toNat ≠ 55 :=
    fun h => hFim (BitVec.eq_of_toNat_eq h)
  unfold rodadaSeguinte passagensAteFim rodadaImpar
  by_cases hImpar : rodada.toNat % 2 = 1 ∧ rodada.toNat < 56
  · simp [hImpar]
    split_ifs <;> omega
  · simp [hImpar]
    split_ifs <;> omega

theorem passagensAteFim_le
    (rodada : BitVec 8) :
    passagensAteFim rodada ≤ 228 := by
  unfold passagensAteFim
  split
  · omega
  · split
    · omega
    · omega

/- How often a frame may still go around. -/
def voltasRestantes (frame : Frame) : Nat :=
  match ingressParser frame with
  | none => 0
  | some (hdr, _) =>
      if hdr.p4draOper.fields.oper = 0x2 then
        29
      else if hdr.p4draOper.fields.oper = 0x3 then
        passagensAteFim hdr.forroRodada.fields.rodada + 1
      else
        0

theorem voltasRestantes_le
    (frame : Frame) :
    voltasRestantes frame ≤ 229 := by
  unfold voltasRestantes
  split
  · omega
  · rename_i hdr rest _
    have hLe :=
      passagensAteFim_le hdr.forroRodada.fields.rodada
    split
    · omega
    · split
      · omega
      · omega

theorem voltasRestantes_resposta
    (c : Cabecalho)
    (corpo : List Byte) :
    voltasRestantes (quadro c 0x2 corpo) = 29 := by
  rw [voltasRestantes, ingressParser_quadro]
  rfl

theorem voltasRestantes_estado
    (c : Cabecalho)
    (rodada : BitVec 8)
    (v : State)
    (rest : List Byte) :
    voltasRestantes (quadroEstado c rodada v rest) =
      passagensAteFim rodada + 1 := by
  rw [voltasRestantes, ingressParser_quadroEstado]
  rfl

/- A frame with a cipher does not go around again. -/
theorem voltasRestantes_cifra
    (c : Cabecalho)
    (cipher : State)
    (corpo : List Byte) :
    voltasRestantes
        (quadro c 0x4 (forroStateT.encode cipher ++ corpo)) =
      0 := by
  cases hPayload : forroStateT.extract corpo with
  | none =>
      rw [voltasRestantes,
        ingressParser_curta c cipher corpo hPayload]
  | some parsed =>
      rcases parsed with ⟨payload, rest⟩
      have hParse :=
        ingressParser_quadroCifra c cipher payload rest
      rw [quadroCifra] at hParse
      rw [Codec.eq_append_of_extract hPayload,
        voltasRestantes, hParse]
      rfl

------------------------------------------------------------
-- Every Pass Counts
------------------------------------------------------------

theorem deP4DRA_quadro
    (c : Cabecalho)
    (oper : BitVec 8)
    (corpo : List Byte) :
    DeP4DRA (quadro c oper corpo) :=
  ⟨c.ethernet, _, rfl, rfl⟩

/- The frame after a pass has the next `rodada` or is at an end. -/
theorem travessia_estado_seguinte
    (dispositivos : List Dispositivo)
    (c : Cabecalho)
    (rodada : BitVec 8)
    (v : State)
    (rest : List Byte)
    (hFim : rodada ≠ 55) :
    ∃ w,
      travessia (programa dispositivos)
          (quadroEstado c rodada v rest) =
        .again
          (quadroEstado c (rodadaSeguinte rodada) w rest) := by
  have hStep := travessia_estado dispositivos c rodada v rest
  rcases rodadaPar_succ rodada with ⟨hPar, hLast⟩
  rw [quadroAposEgress, hPar,
    if_neg (fun h => hFim (hLast.mp h))] at hStep
  by_cases hImpar : rodadaImpar rodada = true
  · have hTwo : rodada + 1 + 1 = rodada + 2 := by
      rw [BitVec.add_assoc]
      rfl
    rw [if_pos hImpar, hTwo] at hStep
    rw [rodadaSeguinte, if_pos hImpar]
    exact ⟨_, hStep⟩
  · rw [if_neg hImpar] at hStep
    rw [rodadaSeguinte, if_neg hImpar]
    exact ⟨_, hStep⟩

/- The pass at 55 leaves a frame of operation 0x4. -/
theorem travessia_estado_fim
    (dispositivos : List Dispositivo)
    (c : Cabecalho)
    (v : State)
    (rest : List Byte) :
    ∃ w,
      travessia (programa dispositivos)
          (quadroEstado c 55 v rest) =
        .again
          (quadro c 0x4 (forroStateT.encode w ++ rest)) :=
  ⟨_, travessia_estado dispositivos c 55 v rest⟩

/- A frame that goes around can do so less often then. -/
theorem voltasRestantes_decreases
    (dispositivos : List Dispositivo)
    (frame frame' : Frame)
    (hP4dra : DeP4DRA frame)
    (hAgain :
      travessia (programa dispositivos) frame =
        .again frame') :
    DeP4DRA frame' ∧
      voltasRestantes frame' < voltasRestantes frame := by
  cases hParse : ingressParser frame with
  | none =>
      rw [travessia_of_parser_none hParse] at hAgain
      cases hAgain
  | some parsed =>
      rcases parsed with ⟨hdr, rest⟩
      cases forma_of_ingressParser hP4dra hParse with
      | semId c oper hOper =>
          rw [travessia_semId dispositivos c rest hOper]
            at hAgain
          cases hAgain
      | resposta c =>
          cases hProcurar :
              procurar dispositivos c.idDispositivo with
          | none =>
              rw [travessia_resposta_none rest hProcurar]
                at hAgain
              cases hAgain
          | some d =>
              rw [travessia_resposta_some rest hProcurar]
                at hAgain
              cases hAgain
              refine ⟨deP4DRA_quadro c 0x3 _, ?_⟩
              have hVoltas :=
                voltasRestantes_estado c 1 (d.estadoInicial c)
                  rest
              have hPrimeira : passagensAteFim 1 = 27 := by
                decide
              rw [hPrimeira] at hVoltas
              rw [voltasRestantes_resposta]
              exact hVoltas.trans_lt (by omega)
      | estado c rodada v =>
          by_cases hFim : rodada = 55
          · subst hFim
            rcases travessia_estado_fim dispositivos c v rest
              with ⟨w, hStep⟩
            rw [hStep] at hAgain
            cases hAgain
            refine ⟨deP4DRA_quadro c 0x4 _, ?_⟩
            rw [voltasRestantes_cifra, voltasRestantes_estado]
            omega
          · rcases travessia_estado_seguinte dispositivos c
                rodada v rest hFim with ⟨w, hStep⟩
            rw [hStep] at hAgain
            cases hAgain
            refine ⟨deP4DRA_quadro c 0x3 _, ?_⟩
            rw [voltasRestantes_estado, voltasRestantes_estado,
              ← passagensAteFim_seguinte rodada hFim]
            omega
      | cifra c cipher payload =>
          have hStep :=
            travessia_quadro_cifra dispositivos c cipher
              (forroStateT.encode payload ++ rest)
          rw [quadroCifra, hStep] at hAgain
          cases hAgain

------------------------------------------------------------
-- The Finishing Action
------------------------------------------------------------

/- In the egress of this pass the last table selects the end. -/
def ExecutaFin
    (calls : List BfrtCall)
    (frame : Frame) : Prop :=
  ∃ (unicast : Unicast) (hdr : MyEgressHeadersT)
      (rest : List Byte) (s : EgressState),
    ingressPass calls frame = some unicast ∧
      unicast.bypassEgress = false ∧
      egressParser unicast.frame = some (hdr, rest) ∧
      (EgressState.init hdr).oper = 0x3 ∧
      MatchAction.sequence ((quartoEgress calls).take 11)
          (.init hdr) = .next s ∧
      (tblForroEg calls 11).entries.lookup s.rodada =
        some e11Qr7Fin

/- The eleven stages before the last one at 56. -/
theorem sequence_onzeEstagios
    (dispositivos : List Dispositivo)
    (s : EgressState)
    (hRodada : s.rodada = 56) :
    MatchAction.sequence
        ((quartoEgress (programa dispositivos)).take 11) s =
      .next
        { s with
          hdr.forroState :=
            s.hdr.forroState.modify
              (aplicar (estagiosQ 3 4 9 14 2)) } := by
  rw [← sequence_onEgress]
  have hActions :
      (estagiosQ 3 4 9 14 2).map onEgress =
        ((List.finRange 12).take 11).map (acaoEgress 56) :=
    rfl
  apply MatchAction.sequence_congr (fun t => t.rodada = 56)
  · rw [hActions, quartoEgress, ← List.map_take,
      List.forall₂_map_left_iff, List.forall₂_map_right_iff]
    apply List.forall₂_same.mpr
    intro i _ t ht
    rw [tblForroEg_apply, ht]
  · intro action hMem t ht
    rcases List.mem_map.mp (List.dropLast_subset _ hMem) with
      ⟨estagio, _, hAction⟩
    rw [← hAction]
    exact ht
  · exact hRodada

/- The pass at 55 runs the finishing action. -/
theorem executaFin_quadroEstado
    (dispositivos : List Dispositivo)
    (c : Cabecalho)
    (v : State)
    (rest : List Byte) :
    ExecutaFin (programa dispositivos)
      (quadroEstado c 55 v rest) := by
  have hStages :=
    sequence_onzeEstagios dispositivos
      (.init (c.egressEstado 56 (passoIngress 55 v))) rfl
  refine ⟨_, _, rest, _,
    ingressPass_estado dispositivos c 55 v rest, rfl,
    egressParser_quadroEstado c 56 (passoIngress 55 v) rest,
    rfl, hStages, ?_⟩
  rw [tblForroEg_entries]
  exact List.lookup_graph _
    ((mem_rodadasAlternadas_two 56).mpr (by decide))

/- A frame of operation 0x3 comes to the pass at 55. -/
theorem advance_ultimaPassagem
    (dispositivos : List Dispositivo)
    (c : Cabecalho)
    (rodada : BitVec 8)
    (v : State)
    (rest : List Byte) :
    ∃ n < 230, ∃ ultimo,
      advance (travessia (programa dispositivos)) n
          (quadroEstado c rodada v rest) = some ultimo ∧
        ∃ w, ultimo = quadroEstado c 55 w rest := by
  apply exists_advance_of_measure
    (fun frame => ∃ rodada v, frame = quadroEstado c rodada v rest)
    (fun frame => ∃ w, frame = quadroEstado c 55 w rest)
    voltasRestantes
  · intro frame hEstado hNot
    rcases hEstado with ⟨rodada, v, hFrame⟩
    subst hFrame
    have hFim : rodada ≠ 55 := by
      intro hFim
      subst hFim
      exact hNot ⟨v, rfl⟩
    rcases travessia_estado_seguinte dispositivos c rodada v
        rest hFim with ⟨w, hStep⟩
    refine ⟨_, hStep, ⟨_, w, rfl⟩, ?_⟩
    rw [voltasRestantes_estado, voltasRestantes_estado,
      ← passagensAteFim_seguinte rodada hFim]
    omega
  · exact ⟨rodada, v, rfl⟩
  · exact Nat.lt_succ_of_le (voltasRestantes_le _)

------------------------------------------------------------
-- Every Frame
------------------------------------------------------------

/- What leaves the switch leaves on a port to the outside. -/
theorem portaRecirculacao_of_processar
    {calls : List BfrtCall}
    {fuel : Nat}
    {frame saida : Frame}
    {port : BitVec 9}
    (hRun :
      processar calls fuel frame =
        some (.emitido port saida)) :
    portaRecirculacao port = false := by
  rcases exists_done_of_run hRun with ⟨last, hDone⟩
  rw [travessia] at hDone
  cases hPassagem : passagem calls last with
  | none => simp [hPassagem] at hDone
  | some out =>
      rcases out with ⟨port', frame'⟩
      simp only [hPassagem] at hDone
      by_cases hPorta : portaRecirculacao port' = true
      · rw [if_pos hPorta] at hDone
        cases hDone
      · rw [if_neg hPorta] at hDone
        cases hDone
        simpa using hPorta

/-
  Every frame is dropped or leaves within 256 passes, and one
  of operation 0x3 meets the finishing action on its way.
-/
theorem processar_terminates
    (confIni : Nat)
    (arquivo : List (List Char))
    (hConcluida : (setup confIni arquivo).concluida = true)
    (frame : Frame)
    (hP4dra : DeP4DRA frame) :
    (∃ resultado,
      processar (setup confIni arquivo).calls 256 frame =
          some resultado ∧
        ∀ port saida, resultado = .emitido port saida →
          portaRecirculacao port = false) ∧
      ∀ hdr rest,
        ingressParser frame = some (hdr, rest) →
        hdr.p4draOper.fields.oper = 0x3 →
        ∃ n < 256, ∃ ultimo,
          advance (travessia (setup confIni arquivo).calls) n
              frame = some ultimo ∧
            ExecutaFin (setup confIni arquivo).calls ultimo := by
  rcases setup_concluida hConcluida with ⟨dispositivos, hCalls⟩
  rw [hCalls]
  constructor
  · have hBound : voltasRestantes frame < 256 :=
      Nat.lt_of_le_of_lt (voltasRestantes_le frame) (by omega)
    rcases exists_run_of_measure DeP4DRA voltasRestantes
        (voltasRestantes_decreases dispositivos) 256 frame
        hP4dra hBound with ⟨resultado, hRun⟩
    refine ⟨resultado, hRun, ?_⟩
    intro port saida hEmitido
    exact portaRecirculacao_of_processar (hEmitido ▸ hRun)
  · intro hdr rest hParse hOper
    rcases estado_of_oper hP4dra hParse hOper with
      ⟨c, rodada, v, hFrame⟩
    rcases advance_ultimaPassagem dispositivos c rodada v rest
      with ⟨n, hn, ultimo, hAdvance, w, hUltimo⟩
    refine ⟨n, by omega, ultimo, hFrame ▸ hAdvance, ?_⟩
    rw [hUltimo]
    exact executaFin_quadroEstado dispositivos c w rest

/- The value 56 is the farthest from the finishing pass. -/
theorem processar_terminates_umaLinha :
    (∃ resultado,
      processar (setup 5 arquivoDeUmaLinha).calls 256
          (quadroEstado cabecalhoInjetado 56 zeroState []) =
        some resultado) ∧
      ∃ n < 256, ∃ ultimo,
        advance (travessia (setup 5 arquivoDeUmaLinha).calls) n
            (quadroEstado cabecalhoInjetado 56 zeroState []) =
          some ultimo ∧
            ExecutaFin (setup 5 arquivoDeUmaLinha).calls
              ultimo := by
  rcases processar_terminates 5 arquivoDeUmaLinha
      concluida_umaLinha _
      (deP4DRA_quadro cabecalhoInjetado 0x3 _) with
    ⟨⟨resultado, hRun, _⟩, hFim⟩
  exact ⟨⟨resultado, hRun⟩,
    hFim _ _
      (ingressParser_quadroEstado cabecalhoInjetado 56
        zeroState []) rfl⟩

end Tna

end P4dra
