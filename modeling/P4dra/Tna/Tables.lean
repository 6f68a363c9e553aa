import P4dra.Tna.QuarterRounds

/-
  The tables that load the state and compare the proof, as
  the controller script leaves them.

  Main declarations:
    * `procurar`
    * `tblP4draIg0_apply` .. `tblP4draIg3_apply`
    * `tblP4draIg0Fin_apply` .. `tblP4draIg8Fin_apply`
    * `tblP4draEg0Fin_apply`, `tblP4draEg1Fin_apply`
-/

------------------------------------------------------------
-- Initialization
------------------------------------------------------------

namespace P4dra

open MatchAction

namespace Tna

/- The device that an identifier selects in the tables. -/
def procurar
    (dispositivos : List Dispositivo)
    (id : BitVec 128) : Option Dispositivo :=
  dispositivos.find? (fun d => d.idDispositivo = id)

/- What `tbl_p4dra_ig0` does. -/
def acaoP4draIg0
    (dispositivos : List Dispositivo)
    (s : IngressState) : Flow IngressState :=
  if s.oper = 0x2 then
    match procurar dispositivos s.idDispositivo with
    | some d => Ingress.carregarEstado0 d.configuracao d.key s
    | none => Ingress.drop s
  else if (s.oper, s.idDispositivo) = (0x0, 0) then
    Ingress.forwardRequest portaCliente s
  else if (s.oper, s.idDispositivo) = (0x5, 0) then
    Ingress.forward 0 s
  else
    Ingress.drop s

theorem tblP4draIg0_entries
    (dispositivos : List Dispositivo) :
    (tblP4draIg0 (programa dispositivos)).entries =
      dispositivos.map
          (fun d =>
            (((0x2 : BitVec 8), d.idDispositivo),
              Ingress.carregarEstado0 d.configuracao d.key)) ++
        [((0x0, 0), Ingress.forwardRequest portaCliente),
          ((0x5, 0), Ingress.forward 0)] := by
  rw [tblP4draIg0, filterMap_programa entradaP4draIg0
    (fun _ _ _ => rfl) (fun _ _ _ => rfl) (fun _ => rfl)]
  have hDispositivo :
      ∀ d : Dispositivo,
        d.chamadas.filterMap entradaP4draIg0 =
          [(((0x2 : BitVec 8), d.idDispositivo),
            Ingress.carregarEstado0 d.configuracao d.key)] :=
    fun _ => rfl
  simp only [hDispositivo]
  rw [← List.map_eq_flatMap]
  rfl

theorem tblP4draIg0_apply
    (dispositivos : List Dispositivo)
    (s : IngressState) :
    (tblP4draIg0 (programa dispositivos)).apply
        (fun s => (s.oper, s.idDispositivo)) s =
      acaoP4draIg0 dispositivos s := by
  rw [Table.apply_of_records (tblP4draIg0_entries dispositivos),
    Table.apply_cons, Table.apply_cons, Table.apply_nil,
    acaoP4draIg0]
  by_cases hOper : s.oper = 0x2
  · have hFind :
        dispositivos.find?
            (fun d => ((0x2 : BitVec 8), d.idDispositivo) =
              (s.oper, s.idDispositivo)) =
          procurar dispositivos s.idDispositivo := by
      simp [procurar, hOper]
    rw [hFind, if_pos hOper]
    cases procurar dispositivos s.idDispositivo with
    | some d => rfl
    | none => simp [hOper, tblP4draIg0]
  · have hFind :
        dispositivos.find?
            (fun d => ((0x2 : BitVec 8), d.idDispositivo) =
              (s.oper, s.idDispositivo)) = none := by
      apply List.find?_eq_none.mpr
      intro d _
      simpa using fun h => absurd h.symm hOper
    rw [hFind, if_neg hOper]
    rfl

theorem tblP4draIg1_apply
    (dispositivos : List Dispositivo)
    (s : IngressState) :
    (tblP4draIg1 (programa dispositivos)).apply
        IngressState.oper s =
      if s.oper = 0x2 then
        Ingress.carregarEstado1 s
      else
        noAction s := by
  apply Table.apply_singleton
  rw [tblP4draIg1, filterMap_programa_padrao _
    (fun _ _ _ => rfl) (fun _ _ _ => rfl) (fun _ => rfl)
    (fun _ => rfl)]
  rfl

theorem tblP4draIg2_apply
    (dispositivos : List Dispositivo)
    (s : IngressState) :
    (tblP4draIg2 (programa dispositivos)).apply
        IngressState.oper s =
      if s.oper = 0x2 then
        Ingress.carregarEstado2 s
      else
        noAction s := by
  apply Table.apply_singleton
  rw [tblP4draIg2, filterMap_programa_padrao _
    (fun _ _ _ => rfl) (fun _ _ _ => rfl) (fun _ => rfl)
    (fun _ => rfl)]
  rfl

theorem tblP4draIg3_apply
    (dispositivos : List Dispositivo)
    (s : IngressState) :
    (tblP4draIg3 (programa dispositivos)).apply
        IngressState.oper s =
      if s.oper = 0x2 then
        Ingress.carregarEstado3Iniciar s
      else
        noAction s := by
  apply Table.apply_singleton
  rw [tblP4draIg3, filterMap_programa_padrao _
    (fun _ _ _ => rfl) (fun _ _ _ => rfl) (fun _ => rfl)
    (fun _ => rfl)]
  rfl

------------------------------------------------------------
-- Finalization
------------------------------------------------------------

/- `tbl_p4dra_ig0_fin` falls through without a device. -/
theorem tblP4draIg0Fin_apply
    (dispositivos : List Dispositivo)
    (s : IngressState) :
    (tblP4draIg0Fin (programa dispositivos)).apply
        IngressState.idDispositivo s =
      match procurar dispositivos s.idDispositivo with
      | some d => Ingress.finalizarForro0 d.configuracao d.key s
      | none => noAction s := by
  have hEntries :
      (tblP4draIg0Fin (programa dispositivos)).entries =
        dispositivos.map
            (fun d =>
              (d.idDispositivo,
                Ingress.finalizarForro0 d.configuracao d.key)) ++
          [] := by
    rw [tblP4draIg0Fin, filterMap_programa entradaP4draIg0Fin
      (fun _ _ _ => rfl) (fun _ _ _ => rfl) (fun _ => rfl)]
    have hDispositivo :
        ∀ d : Dispositivo,
          d.chamadas.filterMap entradaP4draIg0Fin =
            [(d.idDispositivo,
              Ingress.finalizarForro0 d.configuracao d.key)] :=
      fun _ => rfl
    simp only [hDispositivo]
    rw [← List.map_eq_flatMap]
    rfl
  rw [Table.apply_of_records hEntries, procurar]
  cases dispositivos.find?
      (fun d => d.idDispositivo = s.idDispositivo) with
  | some d => rfl
  | none => rfl

theorem tblP4draIg1Fin_apply
    (dispositivos : List Dispositivo)
    (s : IngressState) :
    (tblP4draIg1Fin (programa dispositivos)).apply
        IngressState.oper s =
      if s.oper = 0x4 then
        Ingress.finalizarForro1 s
      else
        noAction s := by
  apply Table.apply_singleton
  rw [tblP4draIg1Fin, filterMap_programa_padrao _
    (fun _ _ _ => rfl) (fun _ _ _ => rfl) (fun _ => rfl)
    (fun _ => rfl)]
  rfl

theorem tblP4draIg2Fin_apply
    (dispositivos : List Dispositivo)
    (s : IngressState) :
    (tblP4draIg2Fin (programa dispositivos)).apply
        IngressState.oper s =
      if s.oper = 0x4 then
        Ingress.finalizarForro2 s
      else
        noAction s := by
  apply Table.apply_singleton
  rw [tblP4draIg2Fin, filterMap_programa_padrao _
    (fun _ _ _ => rfl) (fun _ _ _ => rfl) (fun _ => rfl)
    (fun _ => rfl)]
  rfl

theorem tblP4draIg3Fin_apply
    (dispositivos : List Dispositivo)
    (s : IngressState) :
    (tblP4draIg3Fin (programa dispositivos)).apply
        IngressState.oper s =
      if s.oper = 0x4 then
        Ingress.finalizarForro3 s
      else
        noAction s := by
  apply Table.apply_singleton
  rw [tblP4draIg3Fin, filterMap_programa_padrao _
    (fun _ _ _ => rfl) (fun _ _ _ => rfl) (fun _ => rfl)
    (fun _ => rfl)]
  rfl

theorem tblP4draIg4Fin_apply
    (dispositivos : List Dispositivo)
    (s : IngressState) :
    (tblP4draIg4Fin (programa dispositivos)).apply
        IngressState.oper s =
      if s.oper = 0x4 then
        Ingress.finalizarForro4 portaCPU s
      else
        noAction s := by
  apply Table.apply_singleton
  rw [tblP4draIg4Fin, filterMap_programa_padrao _
    (fun _ _ _ => rfl) (fun _ _ _ => rfl) (fun _ => rfl)
    (fun _ => rfl)]
  rfl

/- The entry and the default action of this table agree. -/
theorem tblP4draIg5Fin_apply
    (dispositivos : List Dispositivo)
    (s : IngressState) :
    (tblP4draIg5Fin (programa dispositivos)).apply
        IngressState.oper s =
      Ingress.verificarProva0 15 14 13 12 s := by
  have hApply :
      (tblP4draIg5Fin (programa dispositivos)).apply
          IngressState.oper s =
        if s.oper = 0x4 then
          Ingress.verificarProva0 15 14 13 12 s
        else
          Ingress.verificarProva0 15 14 13 12 s := by
    apply Table.apply_singleton
    rw [tblP4draIg5Fin, filterMap_programa_padrao _
      (fun _ _ _ => rfl) (fun _ _ _ => rfl) (fun _ => rfl)
      (fun _ => rfl)]
    rfl
  rw [hApply, ite_self]

theorem tblP4draIg6Fin_apply
    (dispositivos : List Dispositivo)
    (s : IngressState) :
    (tblP4draIg6Fin (programa dispositivos)).apply
        IngressState.verificacao s =
      if s.verificacao = (0, 0, 0, 0) then
        Ingress.verificarProva0 11 10 9 8 s
      else
        Ingress.drop s := by
  apply Table.apply_singleton
  rw [tblP4draIg6Fin, filterMap_programa_padrao _
    (fun _ _ _ => rfl) (fun _ _ _ => rfl) (fun _ => rfl)
    (fun _ => rfl)]
  rfl

theorem tblP4draIg7Fin_apply
    (dispositivos : List Dispositivo)
    (s : IngressState) :
    (tblP4draIg7Fin (programa dispositivos)).apply
        IngressState.verificacao s =
      if s.verificacao = (0, 0, 0, 0) then
        Ingress.verificarProva1 7 6 5 s
      else
        Ingress.drop s := by
  apply Table.apply_singleton
  rw [tblP4draIg7Fin, filterMap_programa_padrao _
    (fun _ _ _ => rfl) (fun _ _ _ => rfl) (fun _ => rfl)
    (fun _ => rfl)]
  rfl

theorem tblP4draIg8Fin_apply
    (dispositivos : List Dispositivo)
    (f : IngressState → Word × Word × Word)
    (s : IngressState) :
    (tblP4draIg8Fin (programa dispositivos)).apply f s =
      if f s = (0, 0, 0) then
        noAction s
      else
        Ingress.drop s := by
  apply Table.apply_singleton
  rw [tblP4draIg8Fin, filterMap_programa_padrao _
    (fun _ _ _ => rfl) (fun _ _ _ => rfl) (fun _ => rfl)
    (fun _ => rfl)]
  rfl

------------------------------------------------------------
-- Egress
------------------------------------------------------------

/- The entry and the default action of this table agree. -/
theorem tblP4draEg0Fin_apply
    (dispositivos : List Dispositivo)
    (s : EgressState) :
    (tblP4draEg0Fin (programa dispositivos)).apply
        EgressState.oper s =
      Egress.verificarProva s := by
  have hApply :
      (tblP4draEg0Fin (programa dispositivos)).apply
          EgressState.oper s =
        if s.oper = 0x4 then
          Egress.verificarProva s
        else
          Egress.verificarProva s := by
    apply Table.apply_singleton
    rw [tblP4draEg0Fin, filterMap_programa_padrao _
      (fun _ _ _ => rfl) (fun _ _ _ => rfl) (fun _ => rfl)
      (fun _ => rfl)]
    rfl
  rw [hApply, ite_self]

theorem tblP4draEg1Fin_apply
    (dispositivos : List Dispositivo)
    (s : EgressState) :
    (tblP4draEg1Fin (programa dispositivos)).apply
        EgressState.verificacao s =
      if s.verificacao = 0 then
        noAction s
      else
        Egress.drop s := by
  apply Table.apply_singleton
  rw [tblP4draEg1Fin, filterMap_programa_padrao _
    (fun _ _ _ => rfl) (fun _ _ _ => rfl) (fun _ => rfl)
    (fun _ => rfl)]
  rfl

end Tna

end P4dra
