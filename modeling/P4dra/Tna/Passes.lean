import Mathlib.Tactic.IntervalCases
import P4dra.Tna.Frames
import P4dra.Tna.Tables

/-
  What one pass through the switch does to a P4DRA frame.

  For each form of frame, the pass is the same frame with
  other fields: a loaded state, a state two quarter-rounds
  further, or a cipher to which the initial state was added
  and which was compared with the proof.

  Main declarations:
    * `Dispositivo.estadoInicial`, `procurar`
    * `passagem_semId`, `passagem_resposta`
    * `passagem_estado`
    * `passagem_cifra`
-/

------------------------------------------------------------
-- One Gress
------------------------------------------------------------

namespace P4dra

open Bytes (Byte)
open MatchAction
open Registers (mapAt getElem_mapAt getElem_setAt)
open Forro (quarterRound)

namespace Tna

/- Ingress sends a frame that it does not drop to its port. -/
theorem ingressPass_eq_some
    {calls : List BfrtCall}
    {frame : Frame}
    {hdr : MyIngressHeadersT}
    {rest : List Byte}
    {s : IngressState}
    {port : BitVec 9}
    (hParse : ingressParser frame = some (hdr, rest))
    (hApply : ingressApply calls (.init hdr) = s)
    (hDrop : s.dropCtl = false)
    (hPort : s.ucastEgressPort = some port) :
    ingressPass calls frame =
      some
        { port := port
          bypassEgress := s.bypassEgress
          frame := ingressDeparser s.hdr ++ rest } := by
  simp [ingressPass, hParse, hApply, hDrop, hPort]

theorem ingressPass_eq_none
    {calls : List BfrtCall}
    {frame : Frame}
    {hdr : MyIngressHeadersT}
    {rest : List Byte}
    (hParse : ingressParser frame = some (hdr, rest))
    (hDrop : (ingressApply calls (.init hdr)).dropCtl = true) :
    ingressPass calls frame = none := by
  simp [ingressPass, hParse, hDrop]

/- Egress sends on a frame that it does not drop. -/
theorem egressPass_eq
    {calls : List BfrtCall}
    {frame : Frame}
    {hdr : MyEgressHeadersT}
    {rest : List Byte}
    {s : EgressState}
    (hParse : egressParser frame = some (hdr, rest))
    (hApply : egressApply calls (.init hdr) = s) :
    egressPass calls frame =
      if s.dropCtl then
        none
      else
        some (egressDeparser s.hdr ++ rest) := by
  simp [egressPass, hParse, hApply]

------------------------------------------------------------
-- Quarter-Rounds
------------------------------------------------------------

theorem ingressDeparser_ingressEstado
    (c : Cabecalho)
    (rodada : BitVec 8)
    (v : State)
    (rest : List Byte) :
    ingressDeparser (c.ingressEstado rodada v) ++ rest =
      quadroEstado c rodada v rest := by
  simp [ingressDeparser, Cabecalho.ingressEstado,
    Cabecalho.ingress, Cabecalho.ingressSemId,
    MyIngressHeadersT.empty, quadroEstado, quadro,
    quadroSemId]

theorem ingressDeparser_ingressCifra
    (c : Cabecalho)
    (cipher payload : State)
    (rest : List Byte) :
    ingressDeparser (c.ingressCifra cipher payload) ++ rest =
      quadroCifra c cipher payload rest := by
  simp [ingressDeparser, Cabecalho.ingressCifra,
    Cabecalho.ingress, Cabecalho.ingressSemId,
    MyIngressHeadersT.empty, quadroCifra, quadro, quadroSemId]

theorem egressDeparser_egressEstado
    (c : Cabecalho)
    (rodada : BitVec 8)
    (v : State)
    (rest : List Byte) :
    egressDeparser (c.egressEstado rodada v) ++ rest =
      quadroEstado c rodada v rest := by
  simp [egressDeparser, Cabecalho.egressEstado,
    Cabecalho.egress, MyEgressHeadersT.empty, quadroEstado,
    quadro, quadroSemId]

theorem ingressPass_estado
    (dispositivos : List Dispositivo)
    (c : Cabecalho)
    (rodada : BitVec 8)
    (v : State)
    (rest : List Byte) :
    ingressPass (programa dispositivos)
        (quadroEstado c rodada v rest) =
      some
        { port := portaIngress rodada
          bypassEgress := false
          frame :=
            quadroEstado c (rodada + 1)
              (passoIngress rodada v) rest } := by
  have hApply :=
    ingressApply_estado dispositivos
      (.init (c.ingressEstado rodada v)) rfl
  rw [ingressPass_eq_some
    (ingressParser_quadroEstado c rodada v rest) hApply
    rfl rfl]
  exact congrArg
    (fun frame => some (Unicast.mk _ false frame))
    (ingressDeparser_ingressEstado c (rodada + 1)
      (passoIngress rodada v) rest)

/- The frame after the twelve stages of egress. -/
def quadroAposEgress
    (c : Cabecalho)
    (rodada : BitVec 8)
    (v : State)
    (rest : List Byte) : Frame :=
  if rodadaPar rodada then
    if rodada = 56 then
      quadro c 0x4
        (forroStateT.encode (quarterRound 7 v) ++ rest)
    else
      quadroEstado c (rodada + 1)
        (quarterRound (quartoDaRodada rodada) v) rest
  else
    quadroEstado c rodada v rest

theorem egressPass_estado
    (dispositivos : List Dispositivo)
    (c : Cabecalho)
    (rodada : BitVec 8)
    (v : State)
    (rest : List Byte) :
    egressPass (programa dispositivos)
        (quadroEstado c rodada v rest) =
      some (quadroAposEgress c rodada v rest) := by
  have hApply :=
    egressApply_estado dispositivos
      (.init (c.egressEstado rodada v)) rfl
  have hRodada :
      (EgressState.init (c.egressEstado rodada v)).rodada =
        rodada := rfl
  rw [hRodada, passoEgress] at hApply
  rw [egressPass_eq
    (egressParser_quadroEstado c rodada v rest) hApply,
    quadroAposEgress]
  by_cases hPar : rodadaPar rodada = true
  · rw [if_pos hPar, if_pos hPar]
    by_cases hFim : rodada = 56
    · rw [if_pos hFim, if_pos hFim]
      simp [finishEgress, Flow.state, EgressState.init,
        egressDeparser, Header.modify, Header.extracted,
        Header.setInvalid, Cabecalho.egressEstado,
        Cabecalho.egress, MyEgressHeadersT.empty, quadro,
        quadroSemId, Cabecalho.p4draOper, Cabecalho.ethernet]
    · rw [if_neg hFim, if_neg hFim]
      exact congrArg some
        (egressDeparser_egressEstado c (rodada + 1) _ rest)
  · rw [if_neg hPar, if_neg hPar]
    exact congrArg some
      (egressDeparser_egressEstado c rodada v rest)

/- A pass at any value of `rodada` comes back to ingress. -/
theorem passagem_estado
    (dispositivos : List Dispositivo)
    (c : Cabecalho)
    (rodada : BitVec 8)
    (v : State)
    (rest : List Byte) :
    passagem (programa dispositivos)
        (quadroEstado c rodada v rest) =
      some
        (portaIngress rodada,
          quadroAposEgress c (rodada + 1)
            (passoIngress rodada v) rest) := by
  simp [passagem, ingressPass_estado, egressPass_estado]

theorem travessia_estado
    (dispositivos : List Dispositivo)
    (c : Cabecalho)
    (rodada : BitVec 8)
    (v : State)
    (rest : List Byte) :
    travessia (programa dispositivos)
        (quadroEstado c rodada v rest) =
      .again
        (quadroAposEgress c (rodada + 1)
          (passoIngress rodada v) rest) := by
  simp [travessia, passagem_estado,
    portaRecirculacao_portaIngress]

------------------------------------------------------------
-- Loading The State
------------------------------------------------------------

/- The state that the switch loads for a device. -/
def Dispositivo.estadoInicial
    (d : Dispositivo)
    (c : Cabecalho) : State :=
  #v[d.key.get 0, d.key.get 1, d.key.get 2, d.key.get 3,
    d.configuracao.extractLsb 255 224 ^^^ c.idRodada0,
    d.configuracao.extractLsb 223 192 ^^^ c.idRodada1,
    d.configuracao.extractLsb 191 160,
    d.configuracao.extractLsb 159 128,
    d.key.get 4, d.key.get 5, d.key.get 6, d.key.get 7,
    d.configuracao.extractLsb 127 96 ^^^ c.idRodada2,
    d.configuracao.extractLsb 95 64 ^^^ c.idRodada3,
    d.configuracao.extractLsb 63 32,
    d.configuracao.extractLsb 31 0]

/- The four loading actions write every word of the state. -/
theorem estadoCarregado_eq_estadoInicial
    (d : Dispositivo)
    (c : Cabecalho)
    (oper : BitVec 8)
    (v : State) :
    mapAt
        (mapAt
          (mapAt
            (Ingress.estadoCarregado d.configuracao d.key
              (c.p4draOper oper) v)
            5 (· ^^^ copy32 c.idRodada1))
          12 (· ^^^ copy32 c.idRodada2))
        13 (· ^^^ copy32 c.idRodada3) =
      d.estadoInicial c := by
  apply Vector.ext
  intro i hi
  simp only [getElem_mapAt, Ingress.estadoCarregado,
    getElem_setAt]
  interval_cases i <;> rfl

/- Ingress between two of the four loading actions. -/
def carregando (c : Cabecalho) (v : State) : IngressState :=
  .init
    { c.ingress 0x2 with
      forroRodada := .extracted ⟨0⟩
      forroState := .extracted v }

/- The first loading action runs for a device of the tables. -/
theorem tblP4draIg0_carregar
    {dispositivos : List Dispositivo}
    {c : Cabecalho}
    {d : Dispositivo}
    (hProcurar :
      procurar dispositivos c.idDispositivo = some d) :
    (tblP4draIg0 (programa dispositivos)).apply
        (fun s => (s.oper, s.idDispositivo))
        (.init (c.ingress 0x2)) =
      .next
        (carregando c
          (Ingress.estadoCarregado d.configuracao d.key
            (c.p4draOper 0x2) zeroState)) := by
  have hOper : (IngressState.init (c.ingress 0x2)).oper = 0x2 :=
    rfl
  have hId :
      (IngressState.init (c.ingress 0x2)).idDispositivo =
        c.idDispositivo := rfl
  rw [tblP4draIg0_apply, acaoP4draIg0, if_pos hOper, hId,
    hProcurar]
  rfl

/- The other three loading actions, in order. -/
theorem sequence_carregar
    (dispositivos : List Dispositivo)
    (c : Cabecalho)
    (v : State) :
    sequence
        [(tblP4draIg1 (programa dispositivos)).apply
            IngressState.oper,
          (tblP4draIg2 (programa dispositivos)).apply
            IngressState.oper,
          (tblP4draIg3 (programa dispositivos)).apply
            IngressState.oper]
        (carregando c v) =
      .exit
        { IngressState.init
            (c.ingressEstado 1
              (mapAt
                (mapAt
                  (mapAt v 5 (· ^^^ copy32 c.idRodada1))
                  12 (· ^^^ copy32 c.idRodada2))
                13 (· ^^^ copy32 c.idRodada3))) with
          bypassEgress := true
          ucastEgressPort := some (68 + 128) } := by
  have hOper : ∀ w, (carregando c w).oper = 0x2 :=
    fun _ => rfl
  have hIg1 : ∀ w,
      (tblP4draIg1 (programa dispositivos)).apply
          IngressState.oper (carregando c w) =
        .next
          (carregando c
            (mapAt w 5 (· ^^^ copy32 c.idRodada1))) := by
    intro w
    rw [tblP4draIg1_apply, if_pos (hOper w)]
    rfl
  have hIg2 : ∀ w,
      (tblP4draIg2 (programa dispositivos)).apply
          IngressState.oper (carregando c w) =
        .next
          (carregando c
            (mapAt w 12 (· ^^^ copy32 c.idRodada2))) := by
    intro w
    rw [tblP4draIg2_apply, if_pos (hOper w)]
    rfl
  rw [sequence_cons_next _ (hIg1 _),
    sequence_cons_next _ (hIg2 _)]
  have hIg3 := tblP4draIg3_apply dispositivos
    (carregando c
      (mapAt (mapAt v 5 (· ^^^ copy32 c.idRodada1)) 12
        (· ^^^ copy32 c.idRodada2)))
  rw [if_pos (hOper _)] at hIg3
  rw [sequence_cons_exit [] hIg3]
  rfl

/- Ingress on a proof of a device of the tables. -/
theorem ingressApply_resposta
    (dispositivos : List Dispositivo)
    (c : Cabecalho) :
    ingressApply (programa dispositivos)
        (.init (c.ingress 0x2)) =
      match procurar dispositivos c.idDispositivo with
      | some d =>
          { IngressState.init
              (c.ingressEstado 1 (d.estadoInicial c)) with
            bypassEgress := true
            ucastEgressPort := some (68 + 128) }
      | none =>
          { IngressState.init (c.ingress 0x2) with
            dropCtl := true } := by
  have hOper : (IngressState.init (c.ingress 0x2)).oper = 0x2 :=
    rfl
  have hId :
      (IngressState.init (c.ingress 0x2)).idDispositivo =
        c.idDispositivo := rfl
  rw [ingressApply, hOper, if_neg (by decide),
    if_neg (by decide), trilhaInicializacao]
  cases hProcurar : procurar dispositivos c.idDispositivo with
  | none =>
      have hDrop :
          (tblP4draIg0 (programa dispositivos)).apply
              (fun s => (s.oper, s.idDispositivo))
              (.init (c.ingress 0x2)) =
            Ingress.drop (.init (c.ingress 0x2)) := by
        rw [tblP4draIg0_apply, acaoP4draIg0, if_pos hOper, hId,
          hProcurar]
      rw [sequence_cons_exit _ hDrop]
      rfl
  | some d =>
      rw [sequence_cons_next _ (tblP4draIg0_carregar hProcurar),
        sequence_carregar, estadoCarregado_eq_estadoInicial]
      rfl

/- A proof of a device starts its quarter-rounds. -/
theorem passagem_resposta
    (dispositivos : List Dispositivo)
    (c : Cabecalho)
    (rest : List Byte) :
    passagem (programa dispositivos) (quadro c 0x2 rest) =
      (procurar dispositivos c.idDispositivo).map
        (fun d =>
          ((68 + 128 : BitVec 9),
            quadroEstado c 1 (d.estadoInicial c) rest)) := by
  have hApply := ingressApply_resposta dispositivos c
  cases hProcurar : procurar dispositivos c.idDispositivo with
  | none =>
      rw [hProcurar] at hApply
      have hDrop :
          ingressPass (programa dispositivos)
            (quadro c 0x2 rest) = none :=
        ingressPass_eq_none (ingressParser_quadro c rest)
          (by rw [hApply])
      rw [passagem, hDrop]
      rfl
  | some d =>
      rw [hProcurar] at hApply
      have hPass :=
        ingressPass_eq_some (ingressParser_quadro c rest)
          hApply rfl rfl
      have hFrame :=
        ingressDeparser_ingressEstado c 1 (d.estadoInicial c)
          rest
      simp only [passagem, hPass, Option.bind_eq_bind,
        Option.bind_some, IngressState.init, if_true,
        Option.map_some, hFrame]

------------------------------------------------------------
-- Frames Without A Device Identifier
------------------------------------------------------------

theorem ingressDeparser_ingressSemId
    (c : Cabecalho)
    (oper : BitVec 8)
    (corpo : List Byte) :
    ingressDeparser (c.ingressSemId oper) ++ corpo =
      quadroSemId c oper corpo := by
  simp [ingressDeparser, Cabecalho.ingressSemId,
    MyIngressHeadersT.empty, quadroSemId]

/- Only a Start and a message for the prover are forwarded. -/
theorem passagem_semId
    (dispositivos : List Dispositivo)
    (c : Cabecalho)
    (oper : BitVec 8)
    (corpo : List Byte)
    (hOper : ¬ ComId oper) :
    passagem (programa dispositivos)
        (quadroSemId c oper corpo) =
      if oper = 0x0 then
        some (portaCliente, quadroSemId c 0x1 corpo)
      else if oper = 0x5 then
        some (0, quadroSemId c 0x5 corpo)
      else
        none := by
  have hParse := ingressParser_quadroSemId c oper corpo hOper
  let s := IngressState.init (c.ingressSemId oper)
  have hSOper : s.oper = oper := rfl
  have hNot2 : ¬ oper = 0x2 := fun h => hOper (Or.inl h)
  have hNot3 : ¬ oper = 0x3 :=
    fun h => hOper (Or.inr (Or.inl h))
  have hNot4 : ¬ oper = 0x4 :=
    fun h => hOper (Or.inr (Or.inr h))
  have hApply :
      ingressApply (programa dispositivos) s =
        (sequence
          (trilhaInicializacao (programa dispositivos))
          s).state := by
    rw [ingressApply, hSOper, if_neg hNot3, if_neg hNot4]
  have hIg0 := tblP4draIg0_apply dispositivos s
  have hId : s.idDispositivo = 0 := rfl
  rw [acaoP4draIg0, hSOper, hId, if_neg hNot2] at hIg0
  rw [trilhaInicializacao] at hApply
  by_cases hStart : oper = 0x0
  · rw [if_pos (by rw [hStart])] at hIg0
    rw [sequence_cons_exit _ hIg0] at hApply
    have hPass := ingressPass_eq_some hParse hApply rfl rfl
    have hFrame := ingressDeparser_ingressSemId c 0x1 corpo
    rw [if_pos hStart, passagem, hPass]
    exact congrArg (fun frame => some (portaCliente, frame))
      hFrame
  · rw [if_neg (by simpa using hStart)] at hIg0
    rw [if_neg hStart]
    by_cases hForward : oper = 0x5
    · rw [if_pos (by rw [hForward])] at hIg0
      rw [sequence_cons_exit _ hIg0] at hApply
      have hPass := ingressPass_eq_some hParse hApply rfl rfl
      have hFrame := ingressDeparser_ingressSemId c 0x5 corpo
      rw [if_pos hForward, passagem, hPass]
      subst hForward
      exact congrArg (fun frame => some ((0 : BitVec 9), frame))
        hFrame
    · rw [if_neg (by simpa using hForward)] at hIg0
      rw [sequence_cons_exit _ hIg0] at hApply
      have hPass :
          ingressPass (programa dispositivos)
            (quadroSemId c oper corpo) = none :=
        ingressPass_eq_none hParse (by rw [hApply]; rfl)
      rw [if_neg hForward, passagem, hPass]
      rfl

end Tna

end P4dra
