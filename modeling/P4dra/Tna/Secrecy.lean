import P4dra.Tna.Soundness

/-
  What a frame that leaves the switch reveals.

  The bytes of every frame that leaves on an external port
  can be computed from the frame that arrived, without the
  tables. Two switches with different keys can therefore only
  differ in whether they let a frame out. The state of the
  cipher stays on the recirculation ports.

  Main declarations:
    * `saidaPublica`, `saidaPublica_of_emitido`
    * `passagem_deP4DRA`
    * `processar_reveals_only_acceptance`
-/

------------------------------------------------------------
-- Public Output
------------------------------------------------------------

namespace P4dra

open Bytes (Byte)
open Recirculation

namespace Tna

/- The fields of parsed headers. -/
def cabecalhoDe (hdr : MyIngressHeadersT) : Cabecalho where
  dstAddr := hdr.ethernet.fields.dstAddr
  srcAddr := hdr.ethernet.fields.srcAddr
  idRodada0 := hdr.p4draOper.fields.idRodada0
  idRodada1 := hdr.p4draOper.fields.idRodada1
  idRodada2 := hdr.p4draOper.fields.idRodada2
  idRodada3 := hdr.p4draOper.fields.idRodada3
  idDispositivo := hdr.p4draIdDispositivo.fields.idDispositivo

/-
  The port and the bytes with which a frame leaves, if it
  does; no table is used.
-/
def saidaPublica (frame : Frame) : Option (BitVec 9 × Frame) := do
  let (hdr, rest) ← ingressParser frame
  let c := cabecalhoDe hdr
  let oper := hdr.p4draOper.fields.oper
  if oper = 0x0 then
    some (portaCliente, quadroSemId c 0x1 rest)
  else if oper = 0x5 then
    some (0, quadroSemId c 0x5 rest)
  else if oper = 0x4 then
    let payload := hdr.forroPayload.fields
    some (portaCPU, quadroCifra c payload payload rest)
  else
    let (payload, rest) ← forroStateT.extract rest
    some (portaCPU, quadroCifra c payload payload rest)

theorem saidaPublica_of_corpo
    {frame : Frame}
    {hdr : MyIngressHeadersT}
    {payload : State}
    {rest : List Byte}
    (hParse :
      ingressParser frame =
        some (hdr, forroStateT.encode payload ++ rest))
    (hOper :
      hdr.p4draOper.fields.oper = 0x2 ∨
        hdr.p4draOper.fields.oper = 0x3) :
    saidaPublica frame =
      some
        (portaCPU,
          quadroCifra (cabecalhoDe hdr) payload payload rest) := by
  rw [saidaPublica, hParse]
  rcases hOper with hOper | hOper
  · simp [hOper]
  · simp [hOper]

/- The controller only gets frames that repeat their proof. -/
theorem quadroCifra_of_saidaPublica
    {frame saida : Frame}
    (hPublica : saidaPublica frame = some (portaCPU, saida)) :
    ∃ (c : Cabecalho) (payload : State) (rest : List Byte),
      saida = quadroCifra c payload payload rest := by
  simp only [saidaPublica, Option.bind_eq_bind,
    Option.bind_eq_some_iff] at hPublica
  rcases hPublica with ⟨⟨hdr, rest⟩, _, hPublica⟩
  split at hPublica
  · cases hPublica
  · split at hPublica
    · cases hPublica
    · split at hPublica
      · cases hPublica
        exact ⟨_, _, _, rfl⟩
      · rcases Option.bind_eq_some_iff.mp hPublica with
          ⟨⟨payload, tail⟩, _, hSaida⟩
        cases hSaida
        exact ⟨_, _, _, rfl⟩

/- Whatever leaves is the public output of what arrived. -/
theorem saidaPublica_of_emitido
    {dispositivos : List Dispositivo}
    {frame saida : Frame}
    {fuel : Nat}
    {port : BitVec 9}
    (hP4dra : DeP4DRA frame)
    (hRun :
      processar (programa dispositivos) fuel frame =
        some (.emitido port saida)) :
    saidaPublica frame = some (port, saida) := by
  cases hParse : ingressParser frame with
  | none =>
      cases processar_of_parser_none hParse hRun
  | some parsed =>
      rcases parsed with ⟨hdr, rest⟩
      cases forma_of_ingressParser hP4dra hParse with
      | semId c oper hOper =>
          have hResult := processar_semId hOper hRun
          rw [resultadoSemId] at hResult
          rw [ingressParser_quadroSemId c oper rest hOper]
            at hParse
          cases hParse
          rw [saidaPublica,
            ingressParser_quadroSemId c oper rest hOper]
          by_cases hStart : oper = 0x0
          · rw [if_pos hStart] at hResult
            cases hResult
            subst hStart
            rfl
          · rw [if_neg hStart] at hResult
            by_cases hForward : oper = 0x5
            · rw [if_pos hForward] at hResult
              cases hResult
              subst hForward
              rfl
            · rw [if_neg hForward] at hResult
              cases hResult
      | resposta c =>
          have hResult := processar_quadro_resposta hRun
          rw [ingressParser_quadro] at hParse
          cases hProcurar :
              procurar dispositivos c.idDispositivo with
          | none =>
              rw [hProcurar] at hResult
              cases hResult
          | some d =>
              rw [hProcurar] at hResult
              rcases resultadoCifra_emitido hResult.symm with
                ⟨payload, tail, hCorpo, _, hPort, hSaida⟩
              have hPublica := saidaPublica_of_corpo
                (ingressParser_quadro c
                  (forroStateT.encode payload ++ tail))
                (Or.inl rfl)
              rw [hPort, hSaida, hCorpo]
              exact hPublica
      | estado c rodada v =>
          have hResult := processar_estado hRun
          rcases resultadoCifra_emitido hResult.symm with
            ⟨payload, tail, hCorpo, _, hPort, hSaida⟩
          have hPublica := saidaPublica_of_corpo
            (ingressParser_quadroEstado c rodada v
              (forroStateT.encode payload ++ tail))
            (Or.inr rfl)
          rw [hPort, hSaida, hCorpo]
          exact hPublica
      | cifra c cipher payload =>
          have hResult := processar_cifra hRun
          rw [resultadoCifra, Codec.extract_append] at hResult
          dsimp only at hResult
          split at hResult
          · cases hResult
            rw [saidaPublica, ingressParser_quadroCifra]
            rfl
          · cases hResult

------------------------------------------------------------
-- Recirculation Ports
------------------------------------------------------------

/- The operation of a P4DRA frame. -/
def operDe (frame : Frame) : Option (BitVec 8) := do
  let (_, pkt) ← ethernetH.extract frame
  let (oper, _) ← p4draOperT.extract pkt
  some oper.oper

@[simp] theorem operDe_quadroSemId
    (c : Cabecalho)
    (oper : BitVec 8)
    (corpo : List Byte) :
    operDe (quadroSemId c oper corpo) = some oper := by
  simp [operDe, quadroSemId, Cabecalho.p4draOper]

theorem deP4DRA_quadroSemId
    (c : Cabecalho)
    (oper : BitVec 8)
    (corpo : List Byte) :
    DeP4DRA (quadroSemId c oper corpo) :=
  ⟨c.ethernet, _, rfl, rfl⟩

/-
  A pass keeps a P4DRA frame a P4DRA frame, and sends the
  state of the cipher to the recirculation ports only.
-/
theorem passagem_deP4DRA
    {dispositivos : List Dispositivo}
    {frame saida : Frame}
    {port : BitVec 9}
    (hP4dra : DeP4DRA frame)
    (hPass :
      passagem (programa dispositivos) frame =
        some (port, saida)) :
    DeP4DRA saida ∧
      (operDe saida = some 0x3 →
        portaRecirculacao port = true) := by
  cases hParse : ingressParser frame with
  | none =>
      rw [passagem, ingressPass, hParse] at hPass
      cases hPass
  | some parsed =>
      rcases parsed with ⟨hdr, rest⟩
      cases forma_of_ingressParser hP4dra hParse with
      | semId c oper hOper =>
          rw [passagem_semId dispositivos c oper rest hOper]
            at hPass
          split at hPass
          · cases hPass
            refine ⟨deP4DRA_quadroSemId c _ _, ?_⟩
            simp
          · split at hPass
            · cases hPass
              refine ⟨deP4DRA_quadroSemId c _ _, ?_⟩
              simp
            · cases hPass
      | resposta c =>
          rw [passagem_resposta] at hPass
          rcases Option.map_eq_some_iff.mp hPass with
            ⟨d, _, hSaida⟩
          cases hSaida
          exact ⟨deP4DRA_quadroSemId c _ _, fun _ => rfl⟩
      | estado c rodada v =>
          rw [passagem_estado] at hPass
          cases hPass
          refine ⟨?_, fun _ =>
            portaRecirculacao_portaIngress rodada⟩
          rw [quadroAposEgress]
          split
          · split
            · exact deP4DRA_quadroSemId c _ _
            · exact deP4DRA_quadroSemId c _ _
          · exact deP4DRA_quadroSemId c _ _
      | cifra c cipher payload =>
          rw [passagem_cifra] at hPass
          split at hPass
          · cases hPass
            refine ⟨deP4DRA_quadroSemId c _ _, ?_⟩
            simp [quadroCifra, quadro]
          · cases hPass

/- Every frame that goes around is a P4DRA frame. -/
theorem deP4DRA_of_advance
    {dispositivos : List Dispositivo}
    {frame last : Frame}
    {n : Nat}
    (hP4dra : DeP4DRA frame)
    (hAdvance :
      advance (travessia (programa dispositivos)) n frame =
        some last) :
    DeP4DRA last := by
  apply invariant_of_advance DeP4DRA _ hP4dra hAdvance
  intro s s' hs hStep
  rw [travessia] at hStep
  cases hPass : passagem (programa dispositivos) s with
  | none => simp [hPass] at hStep
  | some result =>
      rcases result with ⟨port, saida⟩
      simp only [hPass] at hStep
      split at hStep
      · cases hStep
        exact (passagem_deP4DRA hs hPass).1
      · cases hStep

------------------------------------------------------------
-- Two Switches
------------------------------------------------------------

theorem setup_concluida
    {confIni : Nat}
    {arquivo : List (List Char)}
    (hConcluida : (setup confIni arquivo).concluida = true) :
    ∃ dispositivos,
      (setup confIni arquivo).calls = programa dispositivos := by
  cases hLinhas : processFile arquivo quantidadeDispositivos with
  | none => simp [setup, hLinhas] at hConcluida
  | some linhas =>
      rcases setup_ids hConcluida hLinhas with
        ⟨dispositivos, _, hCalls⟩
      exact ⟨dispositivos, hCalls⟩

/-
  Two device files give the same frame, if any. An accepted
  frame repeats its own proof, and no frame with the state of
  the cipher is sent to any other port.
-/
theorem processar_reveals_only_acceptance
    (confIni confIni' : Nat)
    (arquivo arquivo' : List (List Char))
    (hConcluida : (setup confIni arquivo).concluida = true)
    (hConcluida' : (setup confIni' arquivo').concluida = true)
    (frame : Frame)
    (hP4dra : DeP4DRA frame) :
    (∀ fuel fuel' port port' saida saida',
      processar (setup confIni arquivo).calls fuel frame =
          some (.emitido port saida) →
        processar (setup confIni' arquivo').calls fuel' frame =
            some (.emitido port' saida') →
          port = port' ∧ saida = saida') ∧
      (∀ fuel saida,
        processar (setup confIni arquivo).calls fuel frame =
            some (.emitido portaCPU saida) →
          ∃ (c : Cabecalho) (payload : State)
              (rest : List Byte),
            saida = quadroCifra c payload payload rest) ∧
      ∀ n last port saida,
        advance (travessia (setup confIni arquivo).calls) n
            frame = some last →
          passagem (setup confIni arquivo).calls last =
              some (port, saida) →
            operDe saida = some 0x3 →
              port = 68 ∨ port = 196 := by
  rcases setup_concluida hConcluida with
    ⟨dispositivos, hCalls⟩
  rcases setup_concluida hConcluida' with
    ⟨dispositivos', hCalls'⟩
  rw [hCalls, hCalls']
  refine ⟨?_, ?_, ?_⟩
  · intro fuel fuel' port port' saida saida' hRun hRun'
    have hSaida := saidaPublica_of_emitido hP4dra hRun
    have hSaida' := saidaPublica_of_emitido hP4dra hRun'
    have hSame :=
      Option.some.inj (hSaida.symm.trans hSaida')
    exact Prod.mk.inj hSame
  · intro fuel saida hRun
    exact quadroCifra_of_saidaPublica
      (saidaPublica_of_emitido hP4dra hRun)
  · intro n last port saida hAdvance hPass hOper
    have hLast := deP4DRA_of_advance hP4dra hAdvance
    have hPorta := (passagem_deP4DRA hLast hPass).2 hOper
    simpa [portaRecirculacao] using hPorta

/- The same identifier with another key. -/
def arquivoDeOutraChave : List (List Char) :=
  [("30303030303031383430343936393332:" ++
    "00112233445566778899aabbccddeeff" ++
    "ffeeddccbbaa99887766554433221100\n").toList]

theorem processar_reveals_only_acceptance_outraChave :
    ∃ (c : Cabecalho) (payload : State) (rest : List Byte),
      quadroCifra cabecalhoInjetado provaInjetada
          provaInjetada [] =
        quadroCifra c payload payload rest :=
  (processar_reveals_only_acceptance 5 9 arquivoDeUmaLinha
    arquivoDeOutraChave concluida_umaLinha (by decide +kernel)
    _
    (deP4DRA_quadroCifra cabecalhoInjetado zeroState
      provaInjetada [])).2.1 1 _ processar_injetado

end Tna

end P4dra
