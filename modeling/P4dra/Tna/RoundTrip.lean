import P4dra.Tna.Termination
import P4dra.Tna.WireFields

/-
  The bytes of a frame across parsers and deparsers.

  A frame that is long enough for the headers its operation
  selects is parsed, and the headers emitted in front of what
  is left are the frame again, on ingress and on egress. So
  only actions change bytes: a Start gets another operation, a
  frame with a state gets another `rodada` and another state,
  and the last of those passes takes out `rodada`.

  Main declarations:
    * `tamanhoIngress`, `ingressDeparser_ingressParser`
    * `tamanhoEgress`, `egressDeparser_egressParser`
    * `ComOutroEstado`, `ComCifra`
    * `parsers_preserve_frames`
-/

------------------------------------------------------------
-- Positions
------------------------------------------------------------

namespace P4dra

open Bytes (Byte)
open MatchAction (Header)
open Forro (quarterRound)

namespace Tna

/- The byte of a frame that holds its operation. -/
def operDoQuadro (frame : Frame) : Byte :=
  frame.getD 14 0

/- The byte that holds `rodada` in a frame of operation 0x3. -/
def rodadaDoQuadro (frame : Frame) : Byte :=
  frame.getD 47 0

theorem quadroSemId_operDoQuadro
    (c : Cabecalho)
    (oper : BitVec 8)
    (corpo : List Byte) :
    quadroSemId c oper corpo =
      ethernetH.encode c.ethernet ++
        (oper :: (c.bytesIdRodada ++ corpo)) := by
  rw [← List.singleton_append, ← Codec.encode_bits_one oper]
  simp [quadroSemId, Cabecalho.bytesIdRodada, p4draOperT,
    Codec.iso, Codec.pair, Cabecalho.p4draOper]

theorem length_ethernetH
    (h : EthernetH) :
    (ethernetH.encode h).length = 14 :=
  ethernetH.length_encode h

theorem operDoQuadro_quadroSemId
    (c : Cabecalho)
    (oper : BitVec 8)
    (corpo : List Byte) :
    operDoQuadro (quadroSemId c oper corpo) = oper := by
  rw [operDoQuadro, quadroSemId_operDoQuadro]
  exact Bytes.getD_middle oper _ 0 (length_ethernetH _)

/- Writing that byte is changing the operation. -/
theorem set_quadroSemId
    (c : Cabecalho)
    (oper oper' : BitVec 8)
    (corpo : List Byte) :
    (quadroSemId c oper corpo).set 14 oper' =
      quadroSemId c oper' corpo := by
  rw [quadroSemId_operDoQuadro, quadroSemId_operDoQuadro,
    List.set_append_right _ _
      (by rw [length_ethernetH]),
    length_ethernetH]
  rfl

theorem length_quadroSemId
    (c : Cabecalho)
    (oper : BitVec 8)
    (corpo : List Byte) :
    (quadroSemId c oper corpo).length =
      31 + corpo.length := by
  rw [quadroSemId_operDoQuadro, List.length_append,
    length_ethernetH, List.length_cons, List.length_append,
    length_bytesIdRodada]
  omega

/- The body of a frame comes after its identifier. -/
theorem quadro_append
    (c : Cabecalho)
    (oper : BitVec 8)
    (corpo : List Byte) :
    quadro c oper corpo = quadro c oper [] ++ corpo := by
  simp [quadro, quadroSemId]

theorem length_quadro
    (c : Cabecalho)
    (oper : BitVec 8)
    (corpo : List Byte) :
    (quadro c oper corpo).length = 47 + corpo.length := by
  rw [quadro, length_quadroSemId, List.length_append,
    p4draIdDispositivoT.length_encode]
  have hSize : p4draIdDispositivoT.size = 16 := rfl
  omega

theorem length_quadro_nil
    (c : Cabecalho)
    (oper : BitVec 8) :
    (quadro c oper []).length = 47 :=
  length_quadro c oper []

theorem take_quadro
    (c : Cabecalho)
    (oper : BitVec 8)
    (corpo : List Byte) :
    (quadro c oper corpo).take 47 = quadro c oper [] := by
  rw [quadro_append]
  exact List.take_left' (length_quadro_nil c oper)

theorem quadroEstado_append
    (c : Cabecalho)
    (rodada : BitVec 8)
    (v : State)
    (rest : List Byte) :
    quadroEstado c rodada v rest =
      quadro c 0x3 [] ++
        (rodada :: (forroStateT.encode v ++ rest)) := by
  have hRodada :
      forroRodadaT.encode ⟨rodada⟩ = [rodada] :=
    Codec.encode_bits_one rodada
  rw [quadroEstado, quadro_append, hRodada]
  rfl

theorem rodadaDoQuadro_quadroEstado
    (c : Cabecalho)
    (rodada : BitVec 8)
    (v : State)
    (rest : List Byte) :
    rodadaDoQuadro (quadroEstado c rodada v rest) = rodada := by
  rw [rodadaDoQuadro, quadroEstado_append]
  exact Bytes.getD_middle rodada _ 0 (length_quadro_nil c 0x3)

theorem drop_quadroEstado
    (c : Cabecalho)
    (rodada : BitVec 8)
    (v : State)
    (rest : List Byte) :
    (quadroEstado c rodada v rest).drop 112 = rest := by
  rw [quadroEstado_append, ← List.cons_append,
    ← List.append_assoc]
  apply List.drop_left'
  rw [List.length_append, length_quadro_nil, List.length_cons,
    forroStateT.length_encode]
  rfl

------------------------------------------------------------
-- Ingress
------------------------------------------------------------

/- The bytes of the headers that ingress parses. -/
def tamanhoIngress (oper : BitVec 8) : Nat :=
  ethernetH.size + p4draOperT.size +
    if oper = 0x2 then
      p4draIdDispositivoT.size
    else if oper = 0x3 then
      p4draIdDispositivoT.size +
        (forroRodadaT.size + forroStateT.size)
    else if oper = 0x4 then
      p4draIdDispositivoT.size +
        (forroStateT.size + forroStateT.size)
    else
      0

/- Every frame with the first two headers. -/
theorem exists_quadroSemId
    {frame : Frame}
    (hP4dra : DeP4DRA frame)
    (hLength : 31 ≤ frame.length) :
    ∃ c corpo,
      frame = quadroSemId c (operDoQuadro frame) corpo := by
  rcases hP4dra with ⟨ethernet, pkt, hType, hFrame⟩
  have hPkt : p4draOperT.size ≤ pkt.length := by
    have hSize : p4draOperT.size = 17 := rfl
    rw [hFrame, List.length_append, length_ethernetH]
      at hLength
    omega
  rcases p4draOperT.exists_eq_append hPkt with
    ⟨oper, corpo, hOper⟩
  let c : Cabecalho :=
    { dstAddr := ethernet.dstAddr
      srcAddr := ethernet.srcAddr
      idRodada0 := oper.idRodada0
      idRodada1 := oper.idRodada1
      idRodada2 := oper.idRodada2
      idRodada3 := oper.idRodada3
      idDispositivo := 0 }
  have hEthernet : ethernet = c.ethernet := by
    rw [Cabecalho.ethernet, ← hType]
  have hQuadro : frame = quadroSemId c oper.oper corpo := by
    rw [hFrame, hEthernet, hOper]
    rfl
  refine ⟨c, corpo, ?_⟩
  have hOperDo : operDoQuadro frame = oper.oper := by
    rw [hQuadro, operDoQuadro_quadroSemId]
  rw [hOperDo]
  exact hQuadro

/- The identifier is one more header. -/
theorem exists_quadro
    (c : Cabecalho)
    (oper : BitVec 8)
    (corpo : List Byte)
    (hLength : 16 ≤ corpo.length) :
    ∃ c' corpo',
      quadroSemId c oper corpo = quadro c' oper corpo' ∧
        corpo.length = 16 + corpo'.length := by
  rcases p4draIdDispositivoT.exists_eq_append hLength with
    ⟨id, corpo', hCorpo⟩
  refine
    ⟨{ c with idDispositivo := id.idDispositivo }, corpo', ?_, ?_⟩
  · rw [hCorpo]
    rfl
  · rw [hCorpo, List.length_append,
      p4draIdDispositivoT.length_encode]
    rfl

theorem exists_quadroEstado
    (c : Cabecalho)
    {corpo : List Byte}
    (hLength : 65 ≤ corpo.length) :
    ∃ rodada v rest,
      quadro c 0x3 corpo = quadroEstado c rodada v rest := by
  have hSize : forroRodadaT.size + forroStateT.size = 65 := rfl
  rcases (forroRodadaT.pair forroStateT).exists_eq_append
      (hSize.trans_le hLength) with ⟨⟨rodada, v⟩, rest, hCorpo⟩
  refine ⟨rodada.rodada, v, rest, ?_⟩
  rw [hCorpo]
  exact congrArg (quadro c 0x3) (List.append_assoc _ _ rest)

theorem exists_quadroCifra
    (c : Cabecalho)
    {corpo : List Byte}
    (hLength : 128 ≤ corpo.length) :
    ∃ cipher payload rest,
      quadro c 0x4 corpo = quadroCifra c cipher payload rest := by
  have hSize : forroStateT.size + forroStateT.size = 128 := rfl
  rcases (forroStateT.pair forroStateT).exists_eq_append
      (hSize.trans_le hLength) with
    ⟨⟨cipher, payload⟩, rest, hCorpo⟩
  refine ⟨cipher, payload, rest, ?_⟩
  rw [hCorpo]
  exact congrArg (quadro c 0x4) (List.append_assoc _ _ rest)

/- A frame that is long enough has one of the four forms. -/
theorem forma_of_length
    {frame : Frame}
    (hP4dra : DeP4DRA frame)
    (hLength :
      tamanhoIngress (operDoQuadro frame) ≤ frame.length) :
    ∃ rest, Forma rest frame := by
  have hBase : ethernetH.size + p4draOperT.size = 31 := rfl
  have hId : p4draIdDispositivoT.size = 16 := rfl
  have hEstado : forroRodadaT.size + forroStateT.size = 65 := rfl
  have hCifra : forroStateT.size + forroStateT.size = 128 := rfl
  rw [tamanhoIngress, hBase, hId, hEstado, hCifra] at hLength
  rcases exists_quadroSemId hP4dra (by omega) with
    ⟨c, corpo, hFrame⟩
  generalize operDoQuadro frame = oper at hFrame hLength
  subst hFrame
  rw [length_quadroSemId] at hLength
  by_cases hComId : ComId oper
  · rcases hComId with hOper | hOper | hOper
    · subst hOper
      rw [if_pos rfl] at hLength
      rcases exists_quadro c 0x2 corpo (by omega) with
        ⟨c', corpo', hQuadro, _⟩
      rw [hQuadro]
      exact ⟨corpo', .resposta c'⟩
    · subst hOper
      rw [if_neg (by decide), if_pos rfl] at hLength
      rcases exists_quadro c 0x3 corpo (by omega) with
        ⟨c', corpo', hQuadro, hTail⟩
      have hEnough : 65 ≤ corpo'.length := by omega
      rcases exists_quadroEstado c' hEnough with
        ⟨rodada, v, rest, hEstado⟩
      rw [hQuadro, hEstado]
      exact ⟨rest, .estado c' rodada v⟩
    · subst hOper
      rw [if_neg (by decide), if_neg (by decide), if_pos rfl]
        at hLength
      rcases exists_quadro c 0x4 corpo (by omega) with
        ⟨c', corpo', hQuadro, hTail⟩
      have hEnough : 128 ≤ corpo'.length := by omega
      rcases exists_quadroCifra c' hEnough with
        ⟨cipher, payload, rest, hCifra⟩
      rw [hQuadro, hCifra]
      exact ⟨rest, .cifra c' cipher payload⟩
  · exact ⟨corpo, .semId c oper hComId⟩

theorem ingressDeparser_ingress
    (c : Cabecalho)
    (oper : BitVec 8)
    (corpo : List Byte) :
    ingressDeparser (c.ingress oper) ++ corpo =
      quadro c oper corpo := by
  simp [ingressDeparser, Cabecalho.ingress,
    Cabecalho.ingressSemId, MyIngressHeadersT.empty, quadro,
    quadroSemId]

/- Ingress emits what it parsed. -/
theorem ingressDeparser_ingressParser
    {frame : Frame}
    (hP4dra : DeP4DRA frame)
    (hLength :
      tamanhoIngress (operDoQuadro frame) ≤ frame.length) :
    ∃ hdr rest,
      ingressParser frame = some (hdr, rest) ∧
        ingressDeparser hdr ++ rest = frame := by
  rcases forma_of_length hP4dra hLength with ⟨rest, hForma⟩
  cases hForma with
  | semId c oper hOper =>
      exact ⟨_, rest, ingressParser_quadroSemId c oper rest hOper,
        ingressDeparser_ingressSemId c oper rest⟩
  | resposta c =>
      exact ⟨_, rest, ingressParser_quadro c rest,
        ingressDeparser_ingress c 0x2 rest⟩
  | estado c rodada v =>
      exact ⟨_, rest, ingressParser_quadroEstado c rodada v rest,
        ingressDeparser_ingressEstado c rodada v rest⟩
  | cifra c cipher payload =>
      exact ⟨_, rest,
        ingressParser_quadroCifra c cipher payload rest,
        ingressDeparser_ingressCifra c cipher payload rest⟩

------------------------------------------------------------
-- Egress
------------------------------------------------------------

/- The bytes of the headers that egress parses. -/
def tamanhoEgress (oper : BitVec 8) : Nat :=
  ethernetH.size + p4draOperT.size + p4draIdDispositivoT.size +
    if oper = 0x3 then
      forroRodadaT.size + forroStateT.size
    else if oper = 0x4 then
      forroStateCipherVerifyT.size + forroHalfPayloadT.size
    else
      0

theorem egressParser_quadro
    (c : Cabecalho)
    {oper : BitVec 8}
    (corpo : List Byte)
    (hEstado : oper ≠ 0x3)
    (hCifra : oper ≠ 0x4) :
    egressParser (quadro c oper corpo) =
      some (c.egress oper, corpo) := by
  simp [egressParser, quadro, quadroSemId,
    EgressParser.parseEthernet, EgressParser.parseP4draOper,
    EgressParser.parseP4draIdDispositivo, Header.extracted,
    Cabecalho.ethernet, Cabecalho.p4draOper, Cabecalho.egress]
  exact (if_neg hEstado).trans (if_neg hCifra)

theorem egressDeparser_egress
    (c : Cabecalho)
    (oper : BitVec 8)
    (corpo : List Byte) :
    egressDeparser (c.egress oper) ++ corpo =
      quadro c oper corpo := by
  simp [egressDeparser, Cabecalho.egress,
    MyEgressHeadersT.empty, quadro, quadroSemId]

theorem egressDeparser_egressCifra
    (c : Cabecalho)
    (cipher : ForroStateCipherVerifyT)
    (payload : ForroHalfPayloadT)
    (rest : List Byte) :
    egressDeparser (c.egressCifra cipher payload) ++ rest =
      quadro c 0x4
        (forroStateCipherVerifyT.encode cipher ++
          (forroHalfPayloadT.encode payload ++ rest)) := by
  simp [egressDeparser, Cabecalho.egressCifra,
    Cabecalho.egress, MyEgressHeadersT.empty, quadro,
    quadroSemId]

/- Egress emits what it parsed. -/
theorem egressDeparser_egressParser
    {frame : Frame}
    (hP4dra : DeP4DRA frame)
    (hLength :
      tamanhoEgress (operDoQuadro frame) ≤ frame.length) :
    ∃ hdr rest,
      egressParser frame = some (hdr, rest) ∧
        egressDeparser hdr ++ rest = frame := by
  have hBase :
      ethernetH.size + p4draOperT.size +
        p4draIdDispositivoT.size = 47 := rfl
  have hSizeEstado :
      forroRodadaT.size + forroStateT.size = 65 := rfl
  have hSizeCifra :
      forroStateCipherVerifyT.size + forroHalfPayloadT.size =
        84 := rfl
  rw [tamanhoEgress, hBase, hSizeEstado, hSizeCifra] at hLength
  rcases exists_quadroSemId hP4dra (by omega) with
    ⟨c, corpo, hFrame⟩
  generalize operDoQuadro frame = oper at hFrame hLength
  subst hFrame
  rw [length_quadroSemId] at hLength
  rcases exists_quadro c oper corpo (by omega) with
    ⟨c', corpo', hQuadro, hTail⟩
  rw [hQuadro]
  by_cases hEstado : oper = 0x3
  · subst hEstado
    rw [if_pos rfl] at hLength
    have hEnough : 65 ≤ corpo'.length := by omega
    rcases exists_quadroEstado c' hEnough with
      ⟨rodada, v, rest, hEq⟩
    rw [hEq]
    exact ⟨_, rest, egressParser_quadroEstado c' rodada v rest,
      egressDeparser_egressEstado c' rodada v rest⟩
  · by_cases hCifra : oper = 0x4
    · subst hCifra
      rw [if_neg hEstado, if_pos rfl] at hLength
      have hEnough : 84 ≤ corpo'.length := by omega
      rcases (forroStateCipherVerifyT.pair
          forroHalfPayloadT).exists_eq_append
          (hSizeCifra.trans_le hEnough) with
        ⟨⟨cipher, payload⟩, rest, hTailEq⟩
      have hEq :
          corpo' =
            forroStateCipherVerifyT.encode cipher ++
              (forroHalfPayloadT.encode payload ++ rest) :=
        hTailEq.trans (List.append_assoc _ _ rest)
      rw [hEq]
      exact ⟨_, rest, egressParser_cifra c' cipher payload rest,
        egressDeparser_egressCifra c' cipher payload rest⟩
    · exact ⟨_, corpo',
        egressParser_quadro c' corpo' hEstado hCifra,
        egressDeparser_egress c' oper corpo'⟩

------------------------------------------------------------
-- Passes
------------------------------------------------------------

/- All but the state and `rodada` of a frame is as it was. -/
def ComOutroEstado (frame frame' : Frame) : Prop :=
  ∃ (rodada : BitVec 8) (w : State),
    frame' =
      frame.take 47 ++
        (rodada :: (forroStateT.encode w ++ frame.drop 112))

/-
  The frame has operation 0x4 and no `rodada`; the state `w`
  comes next.
-/
def ComCifra (w : State) (frame frame' : Frame) : Prop :=
  frame' =
    (frame.set 14 0x4).take 47 ++
      (forroStateT.encode w ++ frame.drop 112)

/- A Start leaves as a Request, with one byte changed. -/
theorem travessia_start
    (dispositivos : List Dispositivo)
    {frame : Frame}
    (hP4dra : DeP4DRA frame)
    (hLength : 31 ≤ frame.length)
    (hOper : operDoQuadro frame = 0x0) :
    travessia (programa dispositivos) frame =
      .done (.emitido portaCliente (frame.set 14 0x1)) := by
  rcases exists_quadroSemId hP4dra hLength with
    ⟨c, corpo, hFrame⟩
  rw [hOper] at hFrame
  subst hFrame
  have hSemId : ¬ ComId 0x0 := by
    unfold ComId
    decide
  rw [travessia_semId dispositivos c corpo hSemId,
    set_quadroSemId]
  rfl

/- A message for the prover leaves as it came. -/
theorem travessia_setup
    (dispositivos : List Dispositivo)
    {frame : Frame}
    (hP4dra : DeP4DRA frame)
    (hLength : 31 ≤ frame.length)
    (hOper : operDoQuadro frame = 0x5) :
    travessia (programa dispositivos) frame =
      .done (.emitido 0 frame) := by
  rcases exists_quadroSemId hP4dra hLength with
    ⟨c, corpo, hFrame⟩
  rw [hOper] at hFrame
  subst hFrame
  have hSemId : ¬ ComId 0x5 := by
    unfold ComId
    decide
  exact travessia_semId dispositivos c corpo hSemId

/- A frame of operation 0x3 that is long enough has a state. -/
theorem exists_estado_of_operDoQuadro
    {frame : Frame}
    (hP4dra : DeP4DRA frame)
    (hLength : 112 ≤ frame.length)
    (hOper : operDoQuadro frame = 0x3) :
    ∃ c v,
      frame =
        quadroEstado c (rodadaDoQuadro frame) v
          (frame.drop 112) := by
  have hTamanho :
      tamanhoIngress (operDoQuadro frame) ≤ frame.length := by
    rw [hOper]
    exact hLength
  rcases forma_of_length hP4dra hTamanho with ⟨rest, hForma⟩
  cases hForma with
  | semId c oper hNot =>
      rw [operDoQuadro_quadroSemId] at hOper
      exact absurd (Or.inr (Or.inl hOper)) hNot
  | resposta c =>
      rw [quadro, operDoQuadro_quadroSemId] at hOper
      exact absurd hOper (by decide)
  | estado c rodada v =>
      rw [rodadaDoQuadro_quadroEstado, drop_quadroEstado]
      exact ⟨c, v, rfl⟩
  | cifra c cipher payload =>
      rw [quadroCifra, quadro, operDoQuadro_quadroSemId]
        at hOper
      exact absurd hOper (by decide)

/- Before the last pass only `rodada` and the state change. -/
theorem comOutroEstado_quadroEstado
    (c : Cabecalho)
    (rodada rodada' : BitVec 8)
    (v w : State)
    (rest : List Byte) :
    ComOutroEstado (quadroEstado c rodada v rest)
      (quadroEstado c rodada' w rest) := by
  refine ⟨rodada', w, ?_⟩
  have hTake :
      (quadroEstado c rodada v rest).take 47 =
        quadro c 0x3 [] :=
    take_quadro c 0x3 _
  rw [drop_quadroEstado, hTake]
  exact quadroEstado_append c rodada' w rest

/- The last pass takes `rodada` out of the frame. -/
theorem comCifra_quadroEstado
    (c : Cabecalho)
    (rodada : BitVec 8)
    (v w : State)
    (rest : List Byte) :
    ComCifra w (quadroEstado c rodada v rest)
      (quadro c 0x4 (forroStateT.encode w ++ rest)) := by
  rw [ComCifra, drop_quadroEstado, quadroEstado]
  have hSet :
      (quadro c 0x3
          (forroRodadaT.encode ⟨rodada⟩ ++
            (forroStateT.encode v ++ rest))).set 14 0x4 =
        quadro c 0x4
          (forroRodadaT.encode ⟨rodada⟩ ++
            (forroStateT.encode v ++ rest)) :=
    set_quadroSemId c 0x3 0x4 _
  rw [hSet, take_quadro]
  exact quadro_append c 0x4 _

/- The next parser reads the state as the cipher. -/
theorem forroCipher_of_ingressParser
    {c : Cabecalho}
    {w : State}
    {corpo rest : List Byte}
    {hdr : MyIngressHeadersT}
    (hParse :
      ingressParser
          (quadro c 0x4 (forroStateT.encode w ++ corpo)) =
        some (hdr, rest)) :
    hdr.forroCipher = .extracted w := by
  cases hPayload : forroStateT.extract corpo with
  | none =>
      rw [ingressParser_curta c w corpo hPayload] at hParse
      cases hParse
  | some parsed =>
      rcases parsed with ⟨payload, tail⟩
      have hCifra := ingressParser_quadroCifra c w payload tail
      rw [quadroCifra,
        ← Codec.eq_append_of_extract hPayload, hParse] at hCifra
      cases hCifra
      rfl

/-
  What was parsed is emitted again on both gresses, so that a
  pass changes in a frame what its actions change: the
  operation of a Start, nothing in a message for the prover,
  `rodada` and the state in the passes of a frame with a state,
  and in the last of them also the operation.
-/
theorem parsers_preserve_frames
    (confIni : Nat)
    (arquivo : List (List Char))
    (hConcluida : (setup confIni arquivo).concluida = true)
    (frame : Frame)
    (hP4dra : DeP4DRA frame) :
    (tamanhoIngress (operDoQuadro frame) ≤ frame.length →
      ∃ hdr rest,
        ingressParser frame = some (hdr, rest) ∧
          ingressDeparser hdr ++ rest = frame) ∧
    (tamanhoEgress (operDoQuadro frame) ≤ frame.length →
      ∃ hdr rest,
        egressParser frame = some (hdr, rest) ∧
          egressDeparser hdr ++ rest = frame) ∧
    (tamanhoIngress (operDoQuadro frame) ≤ frame.length →
      (operDoQuadro frame = 0x0 →
        travessia (setup confIni arquivo).calls frame =
          .done (.emitido portaCliente (frame.set 14 0x1))) ∧
      (operDoQuadro frame = 0x5 →
        travessia (setup confIni arquivo).calls frame =
          .done (.emitido 0 frame)) ∧
      (operDoQuadro frame = 0x3 →
        ∃ frame',
          travessia (setup confIni arquivo).calls frame =
              .again frame' ∧
            (rodadaDoQuadro frame ≠ 55 →
              ComOutroEstado frame frame') ∧
            (rodadaDoQuadro frame = 55 →
              ExecutaFin (setup confIni arquivo).calls frame ∧
                ∃ w,
                  ComCifra w frame frame' ∧
                    ∀ hdr rest,
                      ingressParser frame' = some (hdr, rest) →
                        hdr.forroCipher = .extracted w))) := by
  rcases setup_concluida hConcluida with ⟨dispositivos, hCalls⟩
  rw [hCalls]
  refine ⟨ingressDeparser_ingressParser hP4dra,
    egressDeparser_egressParser hP4dra, ?_⟩
  intro hTamanho
  have hLength : 31 ≤ frame.length :=
    (Nat.le_add_right 31 _).trans hTamanho
  refine ⟨travessia_start dispositivos hP4dra hLength,
    travessia_setup dispositivos hP4dra hLength, ?_⟩
  intro hOper
  rw [hOper] at hTamanho
  rcases exists_estado_of_operDoQuadro hP4dra hTamanho hOper
    with ⟨c, v, hFrame⟩
  generalize rodadaDoQuadro frame = rodada at hFrame
  generalize frame.drop 112 = rest at hFrame
  subst hFrame
  by_cases hFim : rodada = 55
  · subst hFim
    rcases travessia_estado_fim dispositivos c v rest with
      ⟨w, hStep⟩
    refine ⟨_, hStep, fun hNot => absurd rfl hNot, ?_⟩
    intro _
    refine ⟨executaFin_quadroEstado dispositivos c v rest, w,
      comCifra_quadroEstado c 55 v w rest, ?_⟩
    intro hdr tail hParse
    exact forroCipher_of_ingressParser hParse
  · rcases travessia_estado_seguinte dispositivos c rodada v
        rest hFim with ⟨w, hStep⟩
    exact ⟨_, hStep,
      fun _ => comOutroEstado_quadroEstado c rodada _ v w rest,
      fun hLast => absurd hLast hFim⟩

/- A frame that is at its last pass and has nothing behind. -/
def quadroUltimaPassagem : Frame :=
  quadroEstado cabecalhoInjetado 55 zeroState []

theorem parsers_preserve_frames_ultimaPassagem :
    (∃ hdr rest,
      ingressParser quadroUltimaPassagem = some (hdr, rest) ∧
        ingressDeparser hdr ++ rest = quadroUltimaPassagem) ∧
      ∃ frame' w,
        travessia (setup 5 arquivoDeUmaLinha).calls
            quadroUltimaPassagem = .again frame' ∧
          ComCifra w quadroUltimaPassagem frame' := by
  rcases parsers_preserve_frames 5 arquivoDeUmaLinha
      concluida_umaLinha quadroUltimaPassagem
      (deP4DRA_quadro cabecalhoInjetado 0x3 _) with
    ⟨hIngress, _, hPasses⟩
  have hLength :
      tamanhoIngress (operDoQuadro quadroUltimaPassagem) ≤
        quadroUltimaPassagem.length := by
    decide +kernel
  rcases (hPasses hLength).2.2 (by decide +kernel) with
    ⟨frame', hStep, _, hFim⟩
  rcases hFim (by decide +kernel) with ⟨_, w, hCifra, _⟩
  exact ⟨hIngress hLength, frame', w, hStep, hCifra⟩

end Tna

end P4dra
