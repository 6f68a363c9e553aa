import P4dra.Tna.Programa

/-
  The twelve stages of a gress are a quarter-round of Forro.

  The actions of one quarter-round, run in order, are the
  macro `Q` on the state in the header. Which actions run is
  decided by `rodada`: ingress does the even quarter-rounds at
  odd values and egress the odd ones at even values. At every
  other value ingress runs its default actions, which are the
  last eleven stages of the first quarter-round, and egress
  does nothing.

  Main declarations:
    * `passoIngress`, `portaIngress`, `ingressApply_estado`
    * `passoEgress`, `egressApply_estado`
-/

------------------------------------------------------------
-- Rotations
------------------------------------------------------------

namespace P4dra

open MatchAction
open Registers (addTo xorTo mapAt)
open Forro (ROTL Q quarterRound)

namespace Tna

/- The two slices of a rotation by `b` are the rotation. -/
theorem slices_eq_ROTL
    (v : Word)
    (b : Nat)
    (hPos : 0 < b)
    (hLt : b < 32) :
    (v.extractLsb (31 - b) 0 ++
        v.extractLsb 31 (32 - b)).setWidth 32 =
      ROTL v b := by
  apply BitVec.eq_of_getLsbD_eq
  intro i hi
  simp only [ROTL, BitVec.getLsbD_setWidth,
    BitVec.getLsbD_append, BitVec.getLsbD_extractLsb,
    BitVec.getLsbD_or, BitVec.getLsbD_shiftLeft,
    BitVec.getLsbD_ushiftRight]
  have hWidth : 31 - (32 - b) + 1 = b := by omega
  by_cases hLow : i < b
  · simp [hLow, hWidth, hi]
  · have hHigh : i - b < 31 - b + 1 := by omega
    have hOut : v.getLsbD (32 - b + i) = false :=
      BitVec.getLsbD_of_ge v _ (by omega)
    simp [hLow, hWidth, hi, hHigh, hOut]

theorem slices10_eq : slices10 = (ROTL · 10) := by
  funext v
  rw [← slices_eq_ROTL v 10 (by omega) (by omega),
    BitVec.setWidth_eq]
  rfl

theorem slices27_eq : slices27 = (ROTL · 27) := by
  funext v
  rw [← slices_eq_ROTL v 27 (by omega) (by omega),
    BitVec.setWidth_eq]
  rfl

theorem slices8_eq : slices8 = (ROTL · 8) := by
  funext v
  rw [← slices_eq_ROTL v 8 (by omega) (by omega),
    BitVec.setWidth_eq]
  rfl

------------------------------------------------------------
-- Stages In Order
------------------------------------------------------------

/- Apply the operations of stages to a state in order. -/
def aplicar (estagios : List (State → State)) (v : State) : State :=
  estagios.foldl (fun v estagio => estagio v) v

/- Ingress stages before the last only change the state. -/
theorem sequence_onIngress
    (estagios : List (State → State))
    (s : IngressState) :
    sequence (estagios.map onIngress) s =
      .next
        { s with
          hdr.forroState :=
            s.hdr.forroState.modify (aplicar estagios) } := by
  induction estagios generalizing s with
  | nil => rfl
  | cons estagio rest ih =>
      rw [List.map_cons]
      exact ih _

/- Egress stages before the last only change the state. -/
theorem sequence_onEgress
    (estagios : List (State → State))
    (s : EgressState) :
    sequence (estagios.map onEgress) s =
      .next
        { s with
          hdr.forroState :=
            s.hdr.forroState.modify (aplicar estagios) } := by
  induction estagios generalizing s with
  | nil => rfl
  | cons estagio rest ih =>
      rw [List.map_cons]
      exact ih _

/- The first eleven operations of the macro `Q`. -/
def estagiosQ (a b c d e : Fin 16) : List (State → State) :=
  [(addTo · d e), (xorTo · c d), (addTo · b c),
    (mapAt · b slices10), (addTo · a b), (xorTo · e a),
    (addTo · d e), (mapAt · d slices27), (addTo · c d),
    (xorTo · b c), (addTo · a b)]

/- All twelve operations are the macro. -/
theorem mapAt_aplicar_estagiosQ
    (a b c d e : Fin 16)
    (v : State) :
    mapAt (aplicar (estagiosQ a b c d e) v) a slices8 =
      Q v a b c d e := by
  simp only [estagiosQ, slices10_eq, slices27_eq, slices8_eq,
    aplicar, List.foldl_cons, List.foldl_nil, Q]

------------------------------------------------------------
-- Ingress
------------------------------------------------------------

/- The last eleven stages of the first quarter-round. -/
def quartoPadrao (v : State) : State :=
  mapAt (aplicar (estagiosQ 0 4 8 12 3).tail v) 0 slices8

/- What ingress does to the state at a value of `rodada`. -/
def passoIngress (rodada : BitVec 8) : State → State :=
  if rodadaImpar rodada then
    quarterRound (quartoDaRodada rodada)
  else
    quartoPadrao

/- The port that ingress chooses at a value of `rodada`. -/
def portaIngress (rodada : BitVec 8) : BitVec 9 :=
  if rodadaImpar rodada ∧
      (quartoDaRodada rodada = 2 ∨
        quartoDaRodada rodada = 6) then
    68 + 128
  else
    68

theorem portaRecirculacao_portaIngress
    (rodada : BitVec 8) :
    portaRecirculacao (portaIngress rodada) = true := by
  unfold portaIngress
  split
  · rfl
  · rfl

/- The action of stage `i` at a value of `rodada`. -/
def acaoIngress
    (rodada : BitVec 8)
    (i : Fin 12) : IngressState → Flow IngressState :=
  if rodadaImpar rodada then
    (acaoForroIg (quartoDaRodada rodada) i).getD noAction
  else if i = 0 then
    noAction
  else
    igQr0.get i

/- Ingress has actions for the even quarter-rounds only. -/
theorem quartoDaRodada_of_rodadaImpar
    (rodada : BitVec 8)
    (hImpar : rodadaImpar rodada = true) :
    quartoDaRodada rodada = 0 ∨ quartoDaRodada rodada = 2 ∨
      quartoDaRodada rodada = 4 ∨
        quartoDaRodada rodada = 6 := by
  simp only [rodadaImpar, Bool.and_eq_true,
    decide_eq_true_eq] at hImpar
  simp only [quartoDaRodada, Fin.ext_iff, Fin.ofNat]
  omega

/- A table of ingress runs the action of its stage. -/
theorem tblForroIg_apply
    (dispositivos : List Dispositivo)
    (i : Fin 12)
    (s : IngressState) :
    (tblForroIg (programa dispositivos) i).apply
        IngressState.rodada s =
      acaoIngress s.rodada i s := by
  have hEntries :
      (tblForroIg (programa dispositivos) i).entries =
        (rodadasAlternadas 1).map
          (fun rodada =>
            (rodada,
              (acaoForroIg (quartoDaRodada rodada) i).getD
                noAction)) := by
    have hDeForro :
        ∀ call : BfrtCall, call.deForro = false →
          entradaForroIg i call = none := by
      intro call hCall
      cases call <;>
        first | rfl | simp [BfrtCall.deForro] at hCall
    have hEntrada :
        entradaForroIg i =
          fun call => (rodadaIg i call).bind
            (fun e =>
              (acaoForroIg e.2 i).map
                (fun action => (e.1, action))) := by
      funext call
      cases call with
      | forroIg j qr rodada =>
          by_cases hj : j = i
          · simp [entradaForroIg, rodadaIg, hj]
          · simp [entradaForroIg, rodadaIg, hj]
      | _ => rfl
    rw [tblForroIg, filterMap_programa_forro _ hDeForro,
      hEntrada, ← List.filterMap_filterMap,
      filterMap_rodadaIg, List.filterMap_map]
    rw [← List.filterMap_eq_map]
    apply List.filterMap_congr
    intro rodada hMem
    have hImpar := (mem_rodadasAlternadas_one rodada).mp hMem
    rcases quartoDaRodada_of_rodadaImpar rodada hImpar with
      hQuarto | hQuarto | hQuarto | hQuarto
    all_goals simp [hQuarto, acaoForroIg]
  by_cases hImpar : rodadaImpar s.rodada = true
  · have hMem :=
      (mem_rodadasAlternadas_one s.rodada).mpr hImpar
    rw [Table.apply_of_lookup
      (hEntries ▸ List.lookup_graph _ hMem)]
    simp [acaoIngress, hImpar]
  · have hMiss :
        (tblForroIg (programa dispositivos) i).entries.lookup
          s.rodada = none := by
      rw [hEntries]
      apply lookup_map_eq_none (fun rodada => rodada)
      rw [List.map_id']
      exact fun hMem => hImpar
        ((mem_rodadasAlternadas_one s.rodada).mp hMem)
    rw [Table.apply_of_miss hMiss]
    simp only [tblForroIg, acaoIngress, hImpar]
    rfl

/- The twelve stages only touch the state until the last. -/
theorem acoesIngress_forma
    (rodada : BitVec 8) :
    ∃ (estagios : List (State → State)) (f : State → State),
      (List.finRange 12).map (acaoIngress rodada) =
          estagios.map onIngress ++
            [lastIngress f (portaIngress rodada)] ∧
        ∀ v, f (aplicar estagios v) =
          passoIngress rodada v := by
  by_cases hImpar : rodadaImpar rodada = true
  · have hAcao :
        acaoIngress rodada =
          fun i => (acaoForroIg (quartoDaRodada rodada) i).getD
            noAction := by
      funext i
      simp only [acaoIngress, hImpar, if_true]
    rw [hAcao]
    simp only [passoIngress, portaIngress, hImpar, if_true,
      true_and]
    rcases quartoDaRodada_of_rodadaImpar rodada hImpar with
      hQuarto | hQuarto | hQuarto | hQuarto
    all_goals rw [hQuarto]
    · exact ⟨estagiosQ 0 4 8 12 3, (mapAt · 0 slices8), rfl,
        mapAt_aplicar_estagiosQ 0 4 8 12 3⟩
    · exact ⟨estagiosQ 2 6 10 14 1, (mapAt · 2 slices8), rfl,
        mapAt_aplicar_estagiosQ 2 6 10 14 1⟩
    · exact ⟨estagiosQ 0 5 10 15 3, (mapAt · 0 slices8), rfl,
        mapAt_aplicar_estagiosQ 0 5 10 15 3⟩
    · exact ⟨estagiosQ 2 7 8 13 1, (mapAt · 2 slices8), rfl,
        mapAt_aplicar_estagiosQ 2 7 8 13 1⟩
  · have hAcao :
        acaoIngress rodada =
          fun i : Fin 12 =>
            if i = 0 then noAction else igQr0.get i := by
      funext i
      simp only [acaoIngress, hImpar]
      rfl
    have hPorta : portaIngress rodada = 68 := by
      simp [portaIngress, hImpar]
    refine ⟨id :: (estagiosQ 0 4 8 12 3).tail,
      (mapAt · 0 slices8), ?_, ?_⟩
    · rw [hAcao, hPorta]
      rfl
    · intro v
      simp only [passoIngress, hImpar]
      rfl

/- A quarter-round on ingress, at any value of `rodada`. -/
theorem ingressApply_estado
    (dispositivos : List Dispositivo)
    (s : IngressState)
    (hOper : s.oper = 0x3) :
    ingressApply (programa dispositivos) s =
      (lastIngress (passoIngress s.rodada)
        (portaIngress s.rodada) s).state := by
  rcases acoesIngress_forma s.rodada with
    ⟨estagios, f, hForma, hPasso⟩
  have hSame :
      sequence (quartoIngress (programa dispositivos)) s =
        sequence ((List.finRange 12).map
          (acaoIngress s.rodada)) s := by
    apply sequence_congr (fun t => t.rodada = s.rodada)
    · rw [quartoIngress, List.forall₂_map_left_iff,
        List.forall₂_map_right_iff]
      apply List.forall₂_same.mpr
      intro i _ t ht
      rw [tblForroIg_apply, ht]
    · rw [hForma, List.dropLast_concat]
      intro action hMem t ht
      rcases List.mem_map.mp hMem with ⟨estagio, _, hAction⟩
      rw [← hAction]
      exact ht
    · rfl
  rw [ingressApply, if_pos hOper, hSame, hForma,
    sequence_append_next _ (sequence_onIngress estagios s)]
  have hFuncao : f ∘ aplicar estagios =
      passoIngress s.rodada := funext hPasso
  rw [← hFuncao]
  rfl

------------------------------------------------------------
-- Egress
------------------------------------------------------------

/- What egress does at a value of `rodada`. -/
def passoEgress
    (rodada : BitVec 8) : EgressState → Flow EgressState :=
  if rodadaPar rodada then
    if rodada = 56 then
      finishEgress (quarterRound 7)
    else
      lastEgress (quarterRound (quartoDaRodada rodada))
  else
    noAction

/- The action of stage `i` at a value of `rodada`. -/
def acaoEgress
    (rodada : BitVec 8)
    (i : Fin 12) : EgressState → Flow EgressState :=
  if rodadaPar rodada then
    if rodada = 56 ∧ i = 11 then
      e11Qr7Fin
    else
      (acaoForroEg (quartoDaRodada rodada) i).getD noAction
  else
    noAction

/- Egress has actions for the odd quarter-rounds only. -/
theorem quartoDaRodada_of_rodadaPar
    (rodada : BitVec 8)
    (hPar : rodadaPar rodada = true) :
    quartoDaRodada rodada = 1 ∨ quartoDaRodada rodada = 3 ∨
      quartoDaRodada rodada = 5 ∨
        quartoDaRodada rodada = 7 := by
  simp only [rodadaPar, Bool.and_eq_true,
    decide_eq_true_eq] at hPar
  simp only [quartoDaRodada, Fin.ext_iff, Fin.ofNat]
  omega

/- What the controller script leaves in a table of egress. -/
theorem tblForroEg_entries
    (dispositivos : List Dispositivo)
    (i : Fin 12) :
    (tblForroEg (programa dispositivos) i).entries =
      (rodadasAlternadas 2).map
        (fun rodada =>
          (rodada,
            if rodada = 56 ∧ i = 11 then
              e11Qr7Fin
            else
              (acaoForroEg (quartoDaRodada rodada) i).getD
                noAction)) := by
  have hDeForro :
      ∀ call : BfrtCall, call.deForro = false →
        entradaForroEg i call = none := by
    intro call hCall
    cases call <;>
      first | rfl | simp [BfrtCall.deForro] at hCall
  have hEntrada :
      entradaForroEg i =
        fun call => (rodadaEg i call).bind
          (fun e =>
            ((e.2.map (fun qr => acaoForroEg qr i)).getD
              (some e11Qr7Fin)).map
              (fun action => (e.1, action))) := by
    funext call
    cases call with
    | forroEg j qr rodada =>
        by_cases hj : j = i
        · simp [entradaForroEg, rodadaEg, hj]
        · simp [entradaForroEg, rodadaEg, hj]
    | forroEg11Fin rodada =>
        by_cases hi : i = 11
        · simp [entradaForroEg, rodadaEg, hi]
        · simp [entradaForroEg, rodadaEg, hi]
    | _ => rfl
  rw [tblForroEg, filterMap_programa_forro _ hDeForro,
    hEntrada, ← List.filterMap_filterMap,
    filterMap_rodadaEg, List.filterMap_map]
  rw [← List.filterMap_eq_map]
  apply List.filterMap_congr
  intro rodada hMem
  by_cases hFim : rodada = 56 ∧ i = 11
  · simp [hFim]
  · have hPar := (mem_rodadasAlternadas_two rodada).mp hMem
    rcases quartoDaRodada_of_rodadaPar rodada hPar with
      hQuarto | hQuarto | hQuarto | hQuarto
    all_goals
      simp only [Function.comp_apply, hFim, if_false]
      simp [hQuarto, acaoForroEg]

/- A table of egress runs the action of its stage. -/
theorem tblForroEg_apply
    (dispositivos : List Dispositivo)
    (i : Fin 12)
    (s : EgressState) :
    (tblForroEg (programa dispositivos) i).apply
        EgressState.rodada s =
      acaoEgress s.rodada i s := by
  have hEntries := tblForroEg_entries dispositivos i
  by_cases hPar : rodadaPar s.rodada = true
  · have hMem :=
      (mem_rodadasAlternadas_two s.rodada).mpr hPar
    rw [Table.apply_of_lookup
      (hEntries ▸ List.lookup_graph _ hMem)]
    simp [acaoEgress, hPar]
  · have hMiss :
        (tblForroEg (programa dispositivos) i).entries.lookup
          s.rodada = none := by
      rw [hEntries]
      apply lookup_map_eq_none (fun rodada => rodada)
      rw [List.map_id']
      exact fun hMem => hPar
        ((mem_rodadasAlternadas_two s.rodada).mp hMem)
    rw [Table.apply_of_miss hMiss]
    simp only [acaoEgress, hPar]
    rfl

/- The twelve stages only touch the state until the last. -/
theorem acoesEgress_forma
    (rodada : BitVec 8) :
    ∃ (estagios : List (State → State))
        (last : EgressState → Flow EgressState),
      (List.finRange 12).map (acaoEgress rodada) =
          estagios.map onEgress ++ [last] ∧
        ∀ s : EgressState,
          last
              { s with
                hdr.forroState :=
                  s.hdr.forroState.modify
                    (aplicar estagios) } =
            passoEgress rodada s := by
  by_cases hPar : rodadaPar rodada = true
  · by_cases hFim : rodada = 56
    · subst hFim
      refine ⟨estagiosQ 3 4 9 14 2, e11Qr7Fin, rfl, ?_⟩
      intro s
      simp only [e11Qr7Fin, finishEgress, Header.modify,
        mapAt_aplicar_estagiosQ]
      rfl
    · have hAcao :
          acaoEgress rodada =
            fun i =>
              (acaoForroEg (quartoDaRodada rodada) i).getD
                noAction := by
        funext i
        simp only [acaoEgress, hPar, hFim, if_true, if_false,
          false_and]
      rw [hAcao]
      simp only [passoEgress, hPar, hFim, if_true, if_false]
      rcases quartoDaRodada_of_rodadaPar rodada hPar with
        hQuarto | hQuarto | hQuarto | hQuarto
      all_goals rw [hQuarto]
      · refine ⟨estagiosQ 1 5 9 13 0, e11Qr1, rfl, ?_⟩
        intro s
        simp only [e11Qr1, lastEgress, Header.modify,
          mapAt_aplicar_estagiosQ, quarterRound]
      · refine ⟨estagiosQ 3 7 11 15 2, e11Qr3, rfl, ?_⟩
        intro s
        simp only [e11Qr3, lastEgress, Header.modify,
          mapAt_aplicar_estagiosQ, quarterRound]
      · refine ⟨estagiosQ 1 6 11 12 0, e11Qr5, rfl, ?_⟩
        intro s
        simp only [e11Qr5, lastEgress, Header.modify,
          mapAt_aplicar_estagiosQ, quarterRound]
      · refine ⟨estagiosQ 3 4 9 14 2, e11Qr7, rfl, ?_⟩
        intro s
        simp only [e11Qr7, lastEgress, Header.modify,
          mapAt_aplicar_estagiosQ, quarterRound]
  · have hAcao :
        acaoEgress rodada = fun _ => noAction := by
      funext i
      simp only [acaoEgress, hPar]
      rfl
    refine ⟨List.replicate 11 id, noAction, ?_, ?_⟩
    · rw [hAcao]
      rfl
    · intro s
      simp only [passoEgress, hPar]
      rfl

/- A quarter-round on egress, at any value of `rodada`. -/
theorem egressApply_estado
    (dispositivos : List Dispositivo)
    (s : EgressState)
    (hOper : s.oper = 0x3) :
    egressApply (programa dispositivos) s =
      (passoEgress s.rodada s).state := by
  rcases acoesEgress_forma s.rodada with
    ⟨estagios, last, hForma, hPasso⟩
  have hSame :
      sequence (quartoEgress (programa dispositivos)) s =
        sequence ((List.finRange 12).map
          (acaoEgress s.rodada)) s := by
    apply sequence_congr (fun t => t.rodada = s.rodada)
    · rw [quartoEgress, List.forall₂_map_left_iff,
        List.forall₂_map_right_iff]
      apply List.forall₂_same.mpr
      intro i _ t ht
      rw [tblForroEg_apply, ht]
    · rw [hForma, List.dropLast_concat]
      intro action hMem t ht
      rcases List.mem_map.mp hMem with ⟨estagio, _, hAction⟩
      rw [← hAction]
      exact ht
    · rfl
  rw [egressApply, if_pos hOper, hSame, hForma,
    sequence_append_next _ (sequence_onEgress estagios s),
    MatchAction.sequence, hPasso s]
  cases passoEgress s.rodada s with
  | next t => rfl
  | exit t => rfl

end Tna

end P4dra
