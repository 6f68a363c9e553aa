import P4dra.Tna.QuarterRounds

/-
  The P4DRA frames and how the parsers of the switch read
  them.

  A frame that carries a device identifier is its header
  fields followed by a body. Every frame with the EtherType
  of P4DRA that the ingress parser accepts has one of four
  forms, by its operation.

  Main declarations:
    * `Cabecalho`, `quadro`, `quadroEstado`, `quadroCifra`
    * `ingressParser_quadroEstado`, `egressParser_quadroEstado`
    * `Forma`, `forma_of_ingressParser`
-/

------------------------------------------------------------
-- Frames
------------------------------------------------------------

namespace P4dra

open Bytes (Byte)
open MatchAction (Header)

namespace Tna

/- The fields before the body, except for the operation. -/
structure Cabecalho where
  dstAddr : BitVec 48
  srcAddr : BitVec 48
  idRodada0 : Word
  idRodada1 : Word
  idRodada2 : Word
  idRodada3 : Word
  idDispositivo : BitVec 128
deriving DecidableEq, Repr

namespace Cabecalho

def ethernet (c : Cabecalho) : EthernetH :=
  ⟨c.dstAddr, c.srcAddr, etherTypeP4DRA⟩

def p4draOper (c : Cabecalho) (oper : BitVec 8) : P4draOperT :=
  ⟨oper, c.idRodada0, c.idRodada1, c.idRodada2, c.idRodada3⟩

end Cabecalho

/- A frame without a device identifier. -/
def quadroSemId
    (c : Cabecalho)
    (oper : BitVec 8)
    (corpo : List Byte) : Frame :=
  ethernetH.encode c.ethernet ++
    (p4draOperT.encode (c.p4draOper oper) ++ corpo)

/- A frame with a device identifier. -/
def quadro
    (c : Cabecalho)
    (oper : BitVec 8)
    (corpo : List Byte) : Frame :=
  quadroSemId c oper
    (p4draIdDispositivoT.encode ⟨c.idDispositivo⟩ ++ corpo)

/- A frame on its way through the quarter-rounds. -/
def quadroEstado
    (c : Cabecalho)
    (rodada : BitVec 8)
    (v : State)
    (rest : List Byte) : Frame :=
  quadro c 0x3
    (forroRodadaT.encode ⟨rodada⟩ ++ (forroStateT.encode v ++ rest))

/- A frame with a cipher and a proof. -/
def quadroCifra
    (c : Cabecalho)
    (cipher payload : State)
    (rest : List Byte) : Frame :=
  quadro c 0x4
    (forroStateT.encode cipher ++
      (forroStateT.encode payload ++ rest))

/- The EtherType of a frame is that of P4DRA. -/
def DeP4DRA (frame : Frame) : Prop :=
  ∃ (ethernet : EthernetH) (rest : List Byte),
    ethernet.etherType = etherTypeP4DRA ∧
      frame = ethernetH.encode ethernet ++ rest

------------------------------------------------------------
-- Parsed Headers
------------------------------------------------------------

namespace Cabecalho

/- The headers of a frame without a device identifier. -/
def ingressSemId
    (c : Cabecalho)
    (oper : BitVec 8) : MyIngressHeadersT :=
  { MyIngressHeadersT.empty with
    ethernet := .extracted c.ethernet
    p4draOper := .extracted (c.p4draOper oper) }

/- The headers of a frame with a device identifier. -/
def ingress
    (c : Cabecalho)
    (oper : BitVec 8) : MyIngressHeadersT :=
  { c.ingressSemId oper with
    p4draIdDispositivo := .extracted ⟨c.idDispositivo⟩ }

/- The headers of `quadroEstado`. -/
def ingressEstado
    (c : Cabecalho)
    (rodada : BitVec 8)
    (v : State) : MyIngressHeadersT :=
  { c.ingress 0x3 with
    forroRodada := .extracted ⟨rodada⟩
    forroState := .extracted v }

/- The headers of `quadroCifra`. -/
def ingressCifra
    (c : Cabecalho)
    (cipher payload : State) : MyIngressHeadersT :=
  { c.ingress 0x4 with
    forroCipher := .extracted cipher
    forroPayload := .extracted payload }

/- The egress headers of a frame with a device identifier. -/
def egress
    (c : Cabecalho)
    (oper : BitVec 8) : MyEgressHeadersT :=
  { MyEgressHeadersT.empty with
    ethernet := .extracted c.ethernet
    p4draOper := .extracted (c.p4draOper oper)
    p4draIdDispositivo := .extracted ⟨c.idDispositivo⟩ }

/- The egress headers of `quadroEstado`. -/
def egressEstado
    (c : Cabecalho)
    (rodada : BitVec 8)
    (v : State) : MyEgressHeadersT :=
  { c.egress 0x3 with
    forroRodada := .extracted ⟨rodada⟩
    forroState := .extracted v }

/- The egress headers of `quadroCifra`. -/
def egressCifra
    (c : Cabecalho)
    (cipher : ForroStateCipherVerifyT)
    (payload : ForroHalfPayloadT) : MyEgressHeadersT :=
  { c.egress 0x4 with
    forroCipherVerify := .extracted cipher
    forroHalfPayload := .extracted payload }

end Cabecalho

------------------------------------------------------------
-- Ingress Parser
------------------------------------------------------------

/- Operations that are followed by a device identifier. -/
def ComId (oper : BitVec 8) : Prop :=
  oper = 0x2 ∨ oper = 0x3 ∨ oper = 0x4

theorem ingressParser_quadroSemId
    (c : Cabecalho)
    (oper : BitVec 8)
    (corpo : List Byte)
    (hOper : ¬ ComId oper) :
    ingressParser (quadroSemId c oper corpo) =
      some (c.ingressSemId oper, corpo) := by
  simp [ingressParser, quadroSemId,
    IngressParser.parseEthernet, IngressParser.parseP4draOper,
    Cabecalho.ethernet, Cabecalho.ingressSemId]
  intro hComId
  exact absurd hComId hOper

theorem ingressParser_quadro
    (c : Cabecalho)
    (corpo : List Byte) :
    ingressParser (quadro c 0x2 corpo) =
      some (c.ingress 0x2, corpo) := by
  simp [ingressParser, quadro, quadroSemId,
    IngressParser.parseEthernet, IngressParser.parseP4draOper,
    IngressParser.parseP4draIdDispositivo, Header.extracted,
    Cabecalho.ethernet, Cabecalho.p4draOper,
    Cabecalho.ingress, Cabecalho.ingressSemId]

theorem ingressParser_quadroEstado
    (c : Cabecalho)
    (rodada : BitVec 8)
    (v : State)
    (rest : List Byte) :
    ingressParser (quadroEstado c rodada v rest) =
      some (c.ingressEstado rodada v, rest) := by
  simp [ingressParser, quadroEstado, quadro, quadroSemId,
    IngressParser.parseEthernet, IngressParser.parseP4draOper,
    IngressParser.parseP4draIdDispositivo,
    IngressParser.parseForroRodadaState, Header.extracted,
    Cabecalho.ethernet, Cabecalho.p4draOper,
    Cabecalho.ingressEstado, Cabecalho.ingress,
    Cabecalho.ingressSemId]

theorem ingressParser_quadroCifra
    (c : Cabecalho)
    (cipher payload : State)
    (rest : List Byte) :
    ingressParser (quadroCifra c cipher payload rest) =
      some (c.ingressCifra cipher payload, rest) := by
  simp [ingressParser, quadroCifra, quadro, quadroSemId,
    IngressParser.parseEthernet, IngressParser.parseP4draOper,
    IngressParser.parseP4draIdDispositivo,
    IngressParser.parseForroCipherPayload, Header.extracted,
    Cabecalho.ethernet, Cabecalho.p4draOper,
    Cabecalho.ingressCifra, Cabecalho.ingress,
    Cabecalho.ingressSemId]

/- The forms of the frames that the ingress parser accepts. -/
inductive Forma (rest : List Byte) : Frame → Prop where
| semId
    (c : Cabecalho)
    (oper : BitVec 8)
    (hOper : ¬ ComId oper) :
    Forma rest (quadroSemId c oper rest)
| resposta (c : Cabecalho) : Forma rest (quadro c 0x2 rest)
| estado (c : Cabecalho) (rodada : BitVec 8) (v : State) :
    Forma rest (quadroEstado c rodada v rest)
| cifra (c : Cabecalho) (cipher payload : State) :
    Forma rest (quadroCifra c cipher payload rest)

theorem append_of_parseForroRodadaState
    {hdr hdr' : MyIngressHeadersT}
    {pkt rest : List Byte}
    (hParse :
      IngressParser.parseForroRodadaState hdr pkt =
        some (hdr', rest)) :
    ∃ (rodada : ForroRodadaT) (v : State),
      pkt =
        forroRodadaT.encode rodada ++
          (forroStateT.encode v ++ rest) := by
  unfold IngressParser.parseForroRodadaState at hParse
  cases hRodada : forroRodadaT.extract pkt with
  | none => simp [hRodada] at hParse
  | some parsed =>
      rcases parsed with ⟨rodada, pkt'⟩
      cases hState : forroStateT.extract pkt' with
      | none => simp [hRodada, hState] at hParse
      | some parsed =>
          rcases parsed with ⟨v, pkt''⟩
          simp [hRodada, hState] at hParse
          refine ⟨rodada, v, ?_⟩
          rw [Codec.eq_append_of_extract hRodada,
            Codec.eq_append_of_extract hState, hParse.2]

theorem append_of_parseForroCipherPayload
    {hdr hdr' : MyIngressHeadersT}
    {pkt rest : List Byte}
    (hParse :
      IngressParser.parseForroCipherPayload hdr pkt =
        some (hdr', rest)) :
    ∃ cipher payload : State,
      pkt =
        forroStateT.encode cipher ++
          (forroStateT.encode payload ++ rest) := by
  unfold IngressParser.parseForroCipherPayload at hParse
  cases hCipher : forroStateT.extract pkt with
  | none => simp [hCipher] at hParse
  | some parsed =>
      rcases parsed with ⟨cipher, pkt'⟩
      cases hPayload : forroStateT.extract pkt' with
      | none => simp [hCipher, hPayload] at hParse
      | some parsed =>
          rcases parsed with ⟨payload, pkt''⟩
          simp [hCipher, hPayload] at hParse
          refine ⟨cipher, payload, ?_⟩
          rw [Codec.eq_append_of_extract hCipher,
            Codec.eq_append_of_extract hPayload, hParse.2]

theorem forma_of_parseP4draIdDispositivo
    {c : Cabecalho}
    {oper : BitVec 8}
    {hdr : MyIngressHeadersT}
    {pkt rest : List Byte}
    (hOper : ComId oper)
    (hParse :
      IngressParser.parseP4draIdDispositivo
        (c.ingressSemId oper) pkt = some (hdr, rest)) :
    Forma rest (quadroSemId c oper pkt) := by
  unfold IngressParser.parseP4draIdDispositivo at hParse
  cases hId : p4draIdDispositivoT.extract pkt with
  | none => simp [hId] at hParse
  | some parsed =>
      rcases parsed with ⟨id, pkt'⟩
      let c' := { c with idDispositivo := id.idDispositivo }
      rw [Codec.eq_append_of_extract hId]
      simp only [hId, Option.bind_eq_bind, Option.bind_some,
        Cabecalho.ingressSemId, Header.extracted,
        Cabecalho.p4draOper] at hParse
      rcases hOper with hOper | hOper | hOper
      · subst hOper
        have hRest : pkt' = rest := by
          simp at hParse
          exact hParse.2
        rw [hRest]
        exact .resposta c'
      · subst hOper
        rcases append_of_parseForroRodadaState
            (by simpa using hParse) with
          ⟨rodada, v, hPkt⟩
        rw [hPkt]
        exact .estado c' rodada.rodada v
      · subst hOper
        rcases append_of_parseForroCipherPayload
            (by simpa using hParse) with
          ⟨cipher, payload, hPkt⟩
        rw [hPkt]
        exact .cifra c' cipher payload

/- What the ingress parser accepts has one of the forms. -/
theorem forma_of_ingressParser
    {frame : Frame}
    {hdr : MyIngressHeadersT}
    {rest : List Byte}
    (hP4dra : DeP4DRA frame)
    (hParse : ingressParser frame = some (hdr, rest)) :
    Forma rest frame := by
  rcases hP4dra with ⟨ethernet, pkt, hType, hFrame⟩
  subst hFrame
  cases hOper : p4draOperT.extract pkt with
  | none =>
      simp [ingressParser, IngressParser.parseEthernet, hType,
        IngressParser.parseP4draOper, hOper] at hParse
  | some parsed =>
      rcases parsed with ⟨oper, pkt'⟩
      let c : Cabecalho :=
        { dstAddr := ethernet.dstAddr
          srcAddr := ethernet.srcAddr
          idRodada0 := oper.idRodada0
          idRodada1 := oper.idRodada1
          idRodada2 := oper.idRodada2
          idRodada3 := oper.idRodada3
          idDispositivo := 0 }
      have hEthernet : ethernet = c.ethernet := by
        rw [Cabecalho.ethernet, ← hType]
      have hFrame :
          ethernetH.encode ethernet ++ pkt =
            quadroSemId c oper.oper pkt' := by
        rw [hEthernet, Codec.eq_append_of_extract hOper]
        rfl
      rw [hFrame] at hParse ⊢
      by_cases hComId : ComId oper.oper
      · apply forma_of_parseP4draIdDispositivo hComId
        rw [← hParse]
        simp [ingressParser, quadroSemId,
          IngressParser.parseEthernet, Cabecalho.ethernet,
          IngressParser.parseP4draOper,
          Cabecalho.ingressSemId]
        intro hNot2 hNot3 hNot4
        rcases hComId with hOper2 | hOper3 | hOper4
        · exact absurd hOper2 hNot2
        · exact absurd hOper3 hNot3
        · exact absurd hOper4 hNot4
      · rw [ingressParser_quadroSemId c _ _ hComId] at hParse
        cases hParse
        exact .semId c oper.oper hComId

/- A frame parsed with operation 0x3 carries a state. -/
theorem estado_of_oper
    {frame : Frame}
    {hdr : MyIngressHeadersT}
    {rest : List Byte}
    (hP4dra : DeP4DRA frame)
    (hParse : ingressParser frame = some (hdr, rest))
    (hOper : hdr.p4draOper.fields.oper = 0x3) :
    ∃ c rodada v, frame = quadroEstado c rodada v rest := by
  cases forma_of_ingressParser hP4dra hParse with
  | semId c oper hNot =>
      rw [ingressParser_quadroSemId c oper rest hNot] at hParse
      cases hParse
      exact absurd (Or.inr (Or.inl hOper)) hNot
  | resposta c =>
      rw [ingressParser_quadro] at hParse
      cases hParse
      have hTwo : (0x2 : BitVec 8) = 0x3 := hOper
      exact absurd hTwo (by decide)
  | estado c rodada v => exact ⟨c, rodada, v, rfl⟩
  | cifra c cipher payload =>
      rw [ingressParser_quadroCifra] at hParse
      cases hParse
      have hFour : (0x4 : BitVec 8) = 0x3 := hOper
      exact absurd hFour (by decide)

------------------------------------------------------------
-- Egress Parser
------------------------------------------------------------

theorem egressParser_quadroEstado
    (c : Cabecalho)
    (rodada : BitVec 8)
    (v : State)
    (rest : List Byte) :
    egressParser (quadroEstado c rodada v rest) =
      some (c.egressEstado rodada v, rest) := by
  simp [egressParser, quadroEstado, quadro, quadroSemId,
    EgressParser.parseEthernet, EgressParser.parseP4draOper,
    EgressParser.parseP4draIdDispositivo,
    EgressParser.parseForroRodadaState, Header.extracted,
    Cabecalho.ethernet, Cabecalho.p4draOper,
    Cabecalho.egressEstado, Cabecalho.egress]

theorem egressParser_cifra
    (c : Cabecalho)
    (cipher : ForroStateCipherVerifyT)
    (payload : ForroHalfPayloadT)
    (rest : List Byte) :
    egressParser
        (quadro c 0x4
          (forroStateCipherVerifyT.encode cipher ++
            (forroHalfPayloadT.encode payload ++ rest))) =
      some (c.egressCifra cipher payload, rest) := by
  simp [egressParser, quadro, quadroSemId,
    EgressParser.parseEthernet, EgressParser.parseP4draOper,
    EgressParser.parseP4draIdDispositivo,
    EgressParser.parseForroCipherHalfPayload,
    Header.extracted, Cabecalho.ethernet,
    Cabecalho.p4draOper, Cabecalho.egressCifra,
    Cabecalho.egress]

end Tna

end P4dra
