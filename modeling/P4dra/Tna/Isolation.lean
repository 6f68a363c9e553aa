import P4dra.Tna.RoundTrip

/-
  Which frames cross the switch.

  The ingress parser accepts a frame with another EtherType
  after its Ethernet header, and the control goes through its
  tables without a look at what was parsed. The fields of the
  headers that are not there read as zero, which is the key of
  the rule for a Start. So such a frame leaves on the port of
  the client as it came. A P4DRA frame of an operation that
  the switch has no rules for is dropped.

  Main declarations:
    * `OperDoProtocolo`, `Descartado`, `SoP4DRA`
    * `travessia_outroProtocolo`
    * `soP4DRA_iff`
-/

------------------------------------------------------------
-- Frames Of Other Protocols
------------------------------------------------------------

namespace P4dra

open MatchAction
open Recirculation (run_done run_unique)

namespace Tna

/- The headers of a frame with another EtherType. -/
def soEthernet (ethernet : EthernetH) : MyIngressHeadersT :=
  { MyIngressHeadersT.empty with
    ethernet := .extracted ethernet }

theorem ingressParser_outroProtocolo
    (ethernet : EthernetH)
    (corpo : List Bytes.Byte)
    (hType : ethernet.etherType ≠ etherTypeP4DRA) :
    ingressParser (ethernetH.encode ethernet ++ corpo) =
      some (soEthernet ethernet, corpo) := by
  simp [ingressParser, IngressParser.parseEthernet, hType,
    soEthernet]

/- What was not parsed is not emitted, written to or not. -/
theorem ingressDeparser_soEthernet
    (ethernet : EthernetH)
    (oper : P4draOperT) :
    ingressDeparser
        { soEthernet ethernet with
          p4draOper := ⟨false, oper⟩ } =
      ethernetH.encode ethernet := by
  simp [ingressDeparser, soEthernet, MyIngressHeadersT.empty]

/- A frame of another protocol meets the rule for a Start. -/
theorem ingressApply_outroProtocolo
    (dispositivos : List Dispositivo)
    (ethernet : EthernetH) :
    ingressApply (programa dispositivos)
        (.init (soEthernet ethernet)) =
      (Ingress.forwardRequest portaCliente
        (.init (soEthernet ethernet))).state := by
  let s := IngressState.init (soEthernet ethernet)
  have hOper : s.oper = 0x0 := rfl
  have hId : s.idDispositivo = 0 := rfl
  have hIg0 := tblP4draIg0_apply dispositivos s
  rw [acaoP4draIg0, if_neg (by rw [hOper]; decide),
    if_pos (by rw [hOper, hId])] at hIg0
  have hApply :
      ingressApply (programa dispositivos) s =
        (sequence
          (trilhaInicializacao (programa dispositivos))
          s).state := by
    unfold ingressApply
    rw [if_neg (by rw [hOper]; decide),
      if_neg (by rw [hOper]; decide)]
  rw [hApply, trilhaInicializacao, sequence_cons_exit _ hIg0]
  rfl

/- It leaves in one pass, on the port of the client. -/
theorem travessia_outroProtocolo
    (dispositivos : List Dispositivo)
    (ethernet : EthernetH)
    (corpo : List Bytes.Byte)
    (hType : ethernet.etherType ≠ etherTypeP4DRA) :
    travessia (programa dispositivos)
        (ethernetH.encode ethernet ++ corpo) =
      .done
        (.emitido portaCliente
          (ethernetH.encode ethernet ++ corpo)) := by
  have hPass :=
    ingressPass_eq_some
      (ingressParser_outroProtocolo ethernet corpo hType)
      (ingressApply_outroProtocolo dispositivos ethernet)
      rfl rfl
  have hFrame :=
    ingressDeparser_soEthernet ethernet ⟨0x1, 0, 0, 0, 0⟩
  have hPassagem :
      passagem (programa dispositivos)
          (ethernetH.encode ethernet ++ corpo) =
        some
          (portaCliente, ethernetH.encode ethernet ++ corpo) := by
    unfold passagem
    rw [hPass]
    exact congrArg
      (fun saida => some (portaCliente, saida ++ corpo)) hFrame
  unfold travessia
  rw [hPassagem]
  rfl

/- A frame with an Ethernet header is of P4DRA or it is not. -/
theorem exists_outroProtocolo
    {frame : Frame}
    (hP4dra : ¬ DeP4DRA frame)
    (hLength : 14 ≤ frame.length) :
    ∃ ethernet corpo,
      frame = ethernetH.encode ethernet ++ corpo ∧
        ethernet.etherType ≠ etherTypeP4DRA := by
  rcases ethernetH.exists_eq_append hLength with
    ⟨ethernet, corpo, hFrame⟩
  exact ⟨ethernet, corpo, hFrame,
    fun hType => hP4dra ⟨ethernet, corpo, hType, hFrame⟩⟩

------------------------------------------------------------
-- Frames That Are Dropped
------------------------------------------------------------

/- The operations that the switch has rules for. -/
def OperDoProtocolo (oper : BitVec 8) : Prop :=
  oper = 0x0 ∨ oper = 0x2 ∨ oper = 0x3 ∨ oper = 0x4 ∨ oper = 0x5

/- The switch drops the frame in the end. -/
def Descartado
    (calls : List BfrtCall)
    (frame : Frame) : Prop :=
  ∃ fuel, processar calls fuel frame = some .descartado

/- The frame crosses the switch only as a frame of P4DRA. -/
def SoP4DRA
    (calls : List BfrtCall)
    (frame : Frame) : Prop :=
  (¬ DeP4DRA frame → Descartado calls frame) ∧
    (DeP4DRA frame → ¬ OperDoProtocolo (operDoQuadro frame) →
      Descartado calls frame)

theorem descartado_of_travessia
    {calls : List BfrtCall}
    {frame : Frame}
    (hDone : travessia calls frame = .done .descartado) :
    Descartado calls frame :=
  ⟨1, run_done 0 hDone⟩

theorem not_descartado_of_travessia
    {calls : List BfrtCall}
    {frame saida : Frame}
    {port : BitVec 9}
    (hDone :
      travessia calls frame = .done (.emitido port saida)) :
    ¬ Descartado calls frame := by
  intro hDescartado
  rcases hDescartado with ⟨fuel, hRun⟩
  have hEmitido :
      processar calls 1 frame = some (.emitido port saida) :=
    run_done 0 hDone
  cases run_unique hRun hEmitido

/- The parser drops what ends before its Ethernet header does. -/
theorem descartado_of_length
    (calls : List BfrtCall)
    {frame : Frame}
    (hLength : frame.length < 14) :
    Descartado calls frame := by
  have hExtract : ethernetH.extract frame = none :=
    (Codec.extract_eq_none_iff ethernetH frame).mpr hLength
  apply descartado_of_travessia
  apply travessia_of_parser_none
  simp [ingressParser, IngressParser.parseEthernet, hExtract]

/- No rule is for the other operations, nor for a short frame. -/
theorem descartado_of_oper
    (dispositivos : List Dispositivo)
    {frame : Frame}
    (hP4dra : DeP4DRA frame)
    (hOper : ¬ OperDoProtocolo (operDoQuadro frame)) :
    Descartado (programa dispositivos) frame := by
  apply descartado_of_travessia
  cases hParse : ingressParser frame with
  | none => exact travessia_of_parser_none hParse
  | some parsed =>
      rcases parsed with ⟨hdr, rest⟩
      cases forma_of_ingressParser hP4dra hParse with
      | semId c oper hSemId =>
          rw [operDoQuadro_quadroSemId] at hOper
          rw [travessia_semId dispositivos c rest hSemId]
          unfold resultadoSemId
          rw [if_neg (fun h => hOper (by simp [OperDoProtocolo, h])),
            if_neg (fun h => hOper (by simp [OperDoProtocolo, h]))]
      | resposta c =>
          have hDois : operDoQuadro (quadro c 0x2 rest) = 0x2 :=
            operDoQuadro_quadroSemId c 0x2 _
          rw [hDois] at hOper
          exact absurd (Or.inr (Or.inl rfl)) hOper
      | estado c rodada v =>
          have hTres :
              operDoQuadro (quadroEstado c rodada v rest) =
                0x3 :=
            operDoQuadro_quadroSemId c 0x3 _
          rw [hTres] at hOper
          exact absurd (Or.inr (Or.inr (Or.inl rfl))) hOper
      | cifra c cipher payload =>
          have hQuatro :
              operDoQuadro (quadroCifra c cipher payload rest) =
                0x4 :=
            operDoQuadro_quadroSemId c 0x4 _
          rw [hQuatro] at hOper
          exact absurd
            (Or.inr (Or.inr (Or.inr (Or.inl rfl)))) hOper

------------------------------------------------------------
-- Isolation
------------------------------------------------------------

/-
  The switch keeps other protocols out when the frame has no
  complete Ethernet header, and not otherwise.
-/
theorem soP4DRA_iff
    (confIni : Nat)
    (arquivo : List (List Char))
    (hConcluida : (setup confIni arquivo).concluida = true)
    (frame : Frame) :
    SoP4DRA (setup confIni arquivo).calls frame ↔
      DeP4DRA frame ∨ frame.length < 14 := by
  rcases setup_concluida hConcluida with ⟨dispositivos, hCalls⟩
  rw [hCalls]
  constructor
  · intro hSo
    by_contra hNot
    rcases not_or.mp hNot with ⟨hP4dra, hLength⟩
    rcases exists_outroProtocolo hP4dra (Nat.not_lt.mp hLength)
      with ⟨ethernet, corpo, hFrame, hType⟩
    have hEmitido :=
      travessia_outroProtocolo dispositivos ethernet corpo hType
    rw [← hFrame] at hEmitido
    exact not_descartado_of_travessia hEmitido (hSo.1 hP4dra)
  · intro hCaso
    refine ⟨?_, ?_⟩
    · intro hNot
      exact descartado_of_length _ (hCaso.resolve_left hNot)
    · intro hP4dra hOper
      exact descartado_of_oper dispositivos hP4dra hOper

/- The Ethernet header of an IPv4 frame. -/
def ethernetIPv4 : EthernetH :=
  ⟨0xffffffffffff, 0x525400000001, 0x0800⟩

theorem not_deP4DRA_ipv4 :
    ¬ DeP4DRA (ethernetH.encode ethernetIPv4) := by
  intro hP4dra
  rcases hP4dra with ⟨ethernet, corpo, hType, hFrame⟩
  have hParsed :=
    congrArg (fun bytes => ethernetH.extract bytes) hFrame
  have hSame := ethernetH.extract_append ethernetIPv4 []
  rw [List.append_nil] at hSame
  simp only [hSame, Codec.extract_append] at hParsed
  cases hParsed
  exact absurd hType (by decide)

theorem soP4DRA_iff_ipv4 :
    SoP4DRA (setup 5 arquivoDeUmaLinha).calls
        (ethernetH.encode ethernetIPv4) ↔
      DeP4DRA (ethernetH.encode ethernetIPv4) ∨
        (ethernetH.encode ethernetIPv4).length < 14 :=
  soP4DRA_iff 5 arquivoDeUmaLinha concluida_umaLinha _

/- An IPv4 frame crosses the switch to the client. -/
theorem not_soP4DRA_ipv4 :
    ¬ SoP4DRA (setup 5 arquivoDeUmaLinha).calls
        (ethernetH.encode ethernetIPv4) := by
  intro hSo
  rcases setup_concluida concluida_umaLinha with
    ⟨dispositivos, hCalls⟩
  have hEmitido :=
    travessia_outroProtocolo dispositivos ethernetIPv4 []
      (by decide)
  rw [List.append_nil] at hEmitido
  rw [hCalls] at hSo
  exact not_descartado_of_travessia hEmitido
    (hSo.1 not_deP4DRA_ipv4)

end Tna

end P4dra
