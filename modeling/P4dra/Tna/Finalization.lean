import P4dra.Tna.Passes

/-
  The last pass of a proof through the switch.

  The cipher in the frame gets the initial state added to it
  and is compared with the proof: words 5 to 15 on ingress,
  words 0 to 4 on egress. A frame whose identifier no table
  knows gets only the words of `id_rodada` added.

  Main declarations:
    * `estadoSomado`
    * `ingressApply_cifra`, `egressPass_cifra`
    * `travessia_cifra`
-/

------------------------------------------------------------
-- Adding The Initial State
------------------------------------------------------------

namespace P4dra

open Bytes (Byte)
open MatchAction
open Registers (mapAt getElem_mapAt)

namespace Tna

/- The words added for an identifier that no table knows. -/
def estadoSemDispositivo (c : Cabecalho) : State :=
  #v[0, 0, 0, 0, 0, c.idRodada1, 0, 0,
    0, 0, 0, 0, c.idRodada2, c.idRodada3, 0, 0]

/- The words that the finalization adds to the cipher. -/
def estadoSomado
    (dispositivos : List Dispositivo)
    (c : Cabecalho) : State :=
  match procurar dispositivos c.idDispositivo with
  | some d => d.estadoInicial c
  | none => estadoSemDispositivo c

/- Word-wise addition. -/
def somarPalavras (cipher init : State) : State :=
  Vector.zipWith (· + ·) cipher init

/- Ingress during the finalization. -/
def finalizando
    (c : Cabecalho)
    (cipher payload : State)
    (metadata : MyIngressMetadataT)
    (port : Option (BitVec 9)) : IngressState :=
  { IngressState.init (c.ingressCifra cipher payload) with
    metadata := metadata
    ucastEgressPort := port }

/- The words `finalizar_forro_1` to `_4` add to a cipher. -/
def somarConfs
    (c : Cabecalho)
    (metadata : MyIngressMetadataT)
    (v : State) : State :=
  let v := mapAt v 4 (· + metadata.conf0)
  let v := mapAt v 5
    (· + (metadata.conf1 ^^^ copy32 c.idRodada1))
  let v := mapAt v 12
    (· + (metadata.conf2 ^^^ copy32 c.idRodada2))
  mapAt v 13 (· + (metadata.conf3 ^^^ copy32 c.idRodada3))

/- The metadata that `finalizar_forro_0` leaves. -/
def metadataConfs
    (d : Dispositivo)
    (c : Cabecalho) : MyIngressMetadataT :=
  { MyIngressMetadataT.init with
    conf0 :=
      d.configuracao.extractLsb 255 224 ^^^
        copy32 c.idRodada0
    conf1 := d.configuracao.extractLsb 223 192
    conf2 := d.configuracao.extractLsb 127 96
    conf3 := d.configuracao.extractLsb 95 64 }

/- All additions for a device add its initial state. -/
theorem somarConfs_somarEstado
    (d : Dispositivo)
    (c : Cabecalho)
    (v : State) :
    somarConfs c (metadataConfs d c)
        (Ingress.somarEstado d.configuracao d.key v) =
      somarPalavras v (d.estadoInicial c) := by
  apply Vector.ext
  intro i hi
  simp only [somarConfs, Ingress.somarEstado, getElem_mapAt,
    somarPalavras, Vector.getElem_zipWith]
  interval_cases i <;> rfl

/- Without a device only words of `id_rodada` are added. -/
theorem somarConfs_init
    (c : Cabecalho)
    (v : State) :
    somarConfs c .init v =
      somarPalavras v (estadoSemDispositivo c) := by
  apply Vector.ext
  intro i hi
  simp only [somarConfs, getElem_mapAt, somarPalavras,
    Vector.getElem_zipWith]
  interval_cases i <;>
    simp [MyIngressMetadataT.init, estadoSemDispositivo, copy32]

/- The tables that add, in order, from any metadata. -/
theorem sequence_somarConfs
    (dispositivos : List Dispositivo)
    (c : Cabecalho)
    (cipher payload : State)
    (metadata : MyIngressMetadataT)
    (rest : List (IngressState → Flow IngressState)) :
    ∃ metadata',
      sequence
          ((tblP4draIg1Fin (programa dispositivos)).apply
              IngressState.oper ::
            (tblP4draIg2Fin (programa dispositivos)).apply
              IngressState.oper ::
            (tblP4draIg3Fin (programa dispositivos)).apply
              IngressState.oper ::
            (tblP4draIg4Fin (programa dispositivos)).apply
              IngressState.oper :: rest)
          (finalizando c cipher payload metadata none) =
        sequence rest
          (finalizando c (somarConfs c metadata cipher) payload
            metadata' (some portaCPU)) := by
  have hOper : ∀ cipher metadata port,
      (finalizando c cipher payload metadata port).oper =
        0x4 := fun _ _ _ => rfl
  have hFin1 : ∀ cipher metadata,
      (tblP4draIg1Fin (programa dispositivos)).apply
          IngressState.oper
          (finalizando c cipher payload metadata none) =
        .next
          (finalizando c
            (mapAt cipher 4 (· + metadata.conf0)) payload
            { metadata with
              conf1 := metadata.conf1 ^^^ copy32 c.idRodada1 }
            none) := by
    intro cipher metadata
    rw [tblP4draIg1Fin_apply, if_pos (hOper _ _ _)]
    rfl
  have hFin2 : ∀ cipher metadata,
      (tblP4draIg2Fin (programa dispositivos)).apply
          IngressState.oper
          (finalizando c cipher payload metadata none) =
        .next
          (finalizando c
            (mapAt cipher 5 (· + metadata.conf1)) payload
            { metadata with
              conf2 := metadata.conf2 ^^^ copy32 c.idRodada2 }
            none) := by
    intro cipher metadata
    rw [tblP4draIg2Fin_apply, if_pos (hOper _ _ _)]
    rfl
  have hFin3 : ∀ cipher metadata,
      (tblP4draIg3Fin (programa dispositivos)).apply
          IngressState.oper
          (finalizando c cipher payload metadata none) =
        .next
          (finalizando c
            (mapAt cipher 12 (· + metadata.conf2)) payload
            { metadata with
              conf3 := metadata.conf3 ^^^ copy32 c.idRodada3 }
            none) := by
    intro cipher metadata
    rw [tblP4draIg3Fin_apply, if_pos (hOper _ _ _)]
    rfl
  have hFin4 : ∀ cipher metadata,
      (tblP4draIg4Fin (programa dispositivos)).apply
          IngressState.oper
          (finalizando c cipher payload metadata none) =
        .next
          (finalizando c
            (mapAt cipher 13 (· + metadata.conf3)) payload
            metadata (some portaCPU)) := by
    intro cipher metadata
    rw [tblP4draIg4Fin_apply, if_pos (hOper _ _ _)]
    rfl
  rw [sequence_cons_next _ (hFin1 _ _),
    sequence_cons_next _ (hFin2 _ _),
    sequence_cons_next _ (hFin3 _ _),
    sequence_cons_next _ (hFin4 _ _)]
  exact ⟨_, rfl⟩

/- All the tables that add, for any identifier. -/
theorem sequence_finalizar
    (dispositivos : List Dispositivo)
    (c : Cabecalho)
    (cipher payload : State)
    (rest : List (IngressState → Flow IngressState)) :
    ∃ metadata,
      sequence
          ((tblP4draIg0Fin (programa dispositivos)).apply
              IngressState.idDispositivo ::
            (tblP4draIg1Fin (programa dispositivos)).apply
              IngressState.oper ::
            (tblP4draIg2Fin (programa dispositivos)).apply
              IngressState.oper ::
            (tblP4draIg3Fin (programa dispositivos)).apply
              IngressState.oper ::
            (tblP4draIg4Fin (programa dispositivos)).apply
              IngressState.oper :: rest)
          (.init (c.ingressCifra cipher payload)) =
        sequence rest
          (finalizando c
            (somarPalavras cipher (estadoSomado dispositivos c))
            payload metadata (some portaCPU)) := by
  have hFin0 := tblP4draIg0Fin_apply dispositivos
    (.init (c.ingressCifra cipher payload))
  have hId :
      (IngressState.init
        (c.ingressCifra cipher payload)).idDispositivo =
          c.idDispositivo := rfl
  rw [hId] at hFin0
  rw [estadoSomado]
  cases hProcurar : procurar dispositivos c.idDispositivo with
  | some d =>
      rw [hProcurar] at hFin0
      have hStart :
          Ingress.finalizarForro0 d.configuracao d.key
              (.init (c.ingressCifra cipher payload)) =
            .next
              (finalizando c
                (Ingress.somarEstado d.configuracao d.key
                  cipher)
                payload (metadataConfs d c) none) := rfl
      rw [sequence_cons_next _ (hFin0.trans hStart)]
      rcases sequence_somarConfs dispositivos c
          (Ingress.somarEstado d.configuracao d.key cipher)
          payload (metadataConfs d c) rest with
        ⟨metadata, hSequence⟩
      rw [somarConfs_somarEstado] at hSequence
      exact ⟨metadata, hSequence⟩
  | none =>
      rw [hProcurar] at hFin0
      have hStart :
          noAction (.init (c.ingressCifra cipher payload)) =
            Flow.next
              (finalizando c cipher payload .init none) := rfl
      rw [sequence_cons_next _ (hFin0.trans hStart)]
      rcases sequence_somarConfs dispositivos c cipher payload
          .init rest with
        ⟨metadata, hSequence⟩
      rw [somarConfs_init] at hSequence
      exact ⟨metadata, hSequence⟩

------------------------------------------------------------
-- Comparing On Ingress
------------------------------------------------------------

/- The words that ingress compares are equal. -/
def IguaisNoIngress (cipher payload : State) : Prop :=
  ∀ i : Fin 16, 5 ≤ i.val → cipher.get i = payload.get i

instance (cipher payload : State) :
    Decidable (IguaisNoIngress cipher payload) :=
  inferInstanceAs (Decidable (∀ _ : Fin 16, _))

/- The metadata after `verificar_prova_0`. -/
def metadataProva0
    (cipher payload : State)
    (v0 v1 v2 v3 : Fin 16)
    (metadata : MyIngressMetadataT) : MyIngressMetadataT :=
  { metadata with
    verificacao0 := cipher.get v0 ^^^ payload.get v0
    verificacao1 := cipher.get v1 ^^^ payload.get v1
    verificacao2 := cipher.get v2 ^^^ payload.get v2
    verificacao3 := cipher.get v3 ^^^ payload.get v3 }

theorem verificarProva0_finalizando
    (c : Cabecalho)
    (cipher payload : State)
    (v0 v1 v2 v3 : Fin 16)
    (metadata : MyIngressMetadataT)
    (port : Option (BitVec 9)) :
    Ingress.verificarProva0 v0 v1 v2 v3
        (finalizando c cipher payload metadata port) =
      .next
        (finalizando c cipher payload
          (metadataProva0 cipher payload v0 v1 v2 v3 metadata)
          port) := rfl

/- The keys of the comparison are zero for equal words. -/
theorem verificacao_prova0
    (c : Cabecalho)
    (cipher payload : State)
    (v0 v1 v2 v3 : Fin 16)
    (metadata : MyIngressMetadataT)
    (port : Option (BitVec 9)) :
    (finalizando c cipher payload
        (metadataProva0 cipher payload v0 v1 v2 v3 metadata)
        port).verificacao = (0, 0, 0, 0) ↔
      cipher.get v0 = payload.get v0 ∧ cipher.get v1 = payload.get v1 ∧
        cipher.get v2 = payload.get v2 ∧
          cipher.get v3 = payload.get v3 := by
  simp [IngressState.verificacao, finalizando, metadataProva0]

theorem iguaisNoIngress_iff
    (cipher payload : State) :
    IguaisNoIngress cipher payload ↔
      (cipher.get 15 = payload.get 15 ∧ cipher.get 14 = payload.get 14 ∧
          cipher.get 13 = payload.get 13 ∧
            cipher.get 12 = payload.get 12) ∧
        (cipher.get 11 = payload.get 11 ∧
            cipher.get 10 = payload.get 10 ∧
              cipher.get 9 = payload.get 9 ∧
                cipher.get 8 = payload.get 8) ∧
          cipher.get 7 = payload.get 7 ∧ cipher.get 6 = payload.get 6 ∧
            cipher.get 5 = payload.get 5 := by
  constructor
  · intro h
    exact ⟨⟨h 15 (by decide), h 14 (by decide),
      h 13 (by decide), h 12 (by decide)⟩,
      ⟨h 11 (by decide), h 10 (by decide), h 9 (by decide),
        h 8 (by decide)⟩,
      h 7 (by decide), h 6 (by decide), h 5 (by decide)⟩
  · rintro ⟨⟨h15, h14, h13, h12⟩, ⟨h11, h10, h9, h8⟩, h7, h6,
      h5⟩ i hi
    rcases i with ⟨i, hLt⟩
    have hLow : 5 ≤ i := hi
    interval_cases i
    all_goals assumption

/- The four tables that compare on ingress. -/
theorem sequence_comparar
    (dispositivos : List Dispositivo)
    (c : Cabecalho)
    (cipher payload : State)
    (metadata : MyIngressMetadataT)
    (port : Option (BitVec 9)) :
    ∃ metadata',
      (sequence
          [(tblP4draIg5Fin (programa dispositivos)).apply
              IngressState.oper,
            (tblP4draIg6Fin (programa dispositivos)).apply
              IngressState.verificacao,
            (tblP4draIg7Fin (programa dispositivos)).apply
              IngressState.verificacao,
            (tblP4draIg8Fin (programa dispositivos)).apply
              (fun s =>
                (s.metadata.verificacao0,
                  s.metadata.verificacao1,
                  s.metadata.verificacao2))]
          (finalizando c cipher payload metadata port)).state =
        { finalizando c cipher payload metadata' port with
          dropCtl :=
            decide (¬ IguaisNoIngress cipher payload) } := by
  -- The metadata after each of the comparisons.
  let m5 := metadataProva0 cipher payload 15 14 13 12 metadata
  let m6 := metadataProva0 cipher payload 11 10 9 8 m5
  let m7 :=
    { m6 with
      verificacao0 := cipher[7] ^^^ payload[7]
      verificacao1 := cipher[6] ^^^ payload[6]
      verificacao2 := cipher[5] ^^^ payload[5] }
  have hFin5 := tblP4draIg5Fin_apply dispositivos
    (finalizando c cipher payload metadata port)
  have hFin6 := tblP4draIg6Fin_apply dispositivos
    (finalizando c cipher payload m5 port)
  have hFin7 := tblP4draIg7Fin_apply dispositivos
    (finalizando c cipher payload m6 port)
  rw [verificarProva0_finalizando] at hFin5 hFin6
  have hFin8 := tblP4draIg8Fin_apply dispositivos
    (fun s =>
      (s.metadata.verificacao0, s.metadata.verificacao1,
        s.metadata.verificacao2))
    (finalizando c cipher payload m7 port)
  have hM7 :
      (cipher[7] ^^^ payload[7], cipher[6] ^^^ payload[6],
          cipher[5] ^^^ payload[5]) = ((0, 0, 0) : _ × _ × _) ↔
        cipher[7] = payload[7] ∧ cipher[6] = payload[6] ∧
          cipher[5] = payload[5] := by
    simp
  have hIguais := iguaisNoIngress_iff cipher payload
  rw [sequence_cons_next _ hFin5]
  by_cases h5 :
      (finalizando c cipher payload m5 port).verificacao =
        (0, 0, 0, 0)
  · rw [if_pos h5] at hFin6
    rw [sequence_cons_next _ hFin6]
    have hWords5 :=
      (verificacao_prova0 c cipher payload 15 14 13 12
        metadata port).mp h5
    by_cases h6 :
        (finalizando c cipher payload m6 port).verificacao =
          (0, 0, 0, 0)
    · rw [if_pos h6] at hFin7
      have hProva1 :
          Ingress.verificarProva1 7 6 5
              (finalizando c cipher payload m6 port) =
            .next (finalizando c cipher payload m7 port) := rfl
      rw [sequence_cons_next _ (hFin7.trans hProva1)]
      have hWords6 :=
        (verificacao_prova0 c cipher payload 11 10 9 8
          m5 port).mp h6
      by_cases h7 :
          (cipher[7] ^^^ payload[7], cipher[6] ^^^ payload[6],
            cipher[5] ^^^ payload[5]) =
              ((0, 0, 0) : Word × Word × Word)
      · have hFim : IguaisNoIngress cipher payload :=
          hIguais.mpr ⟨hWords5, hWords6, hM7.mp h7⟩
        rw [sequence_cons_next [] (hFin8.trans (if_pos h7))]
        refine ⟨m7, ?_⟩
        rw [decide_eq_false (not_not_intro hFim)]
        rfl
      · have hFim : ¬ IguaisNoIngress cipher payload :=
          fun h => h7 (hM7.mpr (hIguais.mp h).2.2)
        rw [sequence_cons_exit [] (hFin8.trans (if_neg h7))]
        refine ⟨m7, ?_⟩
        rw [decide_eq_true hFim]
        rfl
    · have hFim : ¬ IguaisNoIngress cipher payload :=
        fun h => h6
          ((verificacao_prova0 c cipher payload 11 10 9 8
            m5 port).mpr (hIguais.mp h).2.1)
      rw [if_neg h6] at hFin7
      rw [sequence_cons_exit _ hFin7]
      refine ⟨m6, ?_⟩
      rw [decide_eq_true hFim]
      rfl
  · have hFim : ¬ IguaisNoIngress cipher payload :=
      fun h => h5
        ((verificacao_prova0 c cipher payload 15 14 13 12
          metadata port).mpr (hIguais.mp h).1)
    rw [if_neg h5] at hFin6
    rw [sequence_cons_exit _ hFin6]
    refine ⟨m5, ?_⟩
    rw [decide_eq_true hFim]
    rfl

/- Ingress on a frame with a cipher and a proof. -/
theorem ingressPass_cifra
    (dispositivos : List Dispositivo)
    (c : Cabecalho)
    (cipher payload soma : State)
    (rest : List Byte)
    (hSoma :
      soma =
        somarPalavras cipher (estadoSomado dispositivos c)) :
    ingressPass (programa dispositivos)
        (quadroCifra c cipher payload rest) =
      if IguaisNoIngress soma payload then
        some
          { port := portaCPU
            bypassEgress := false
            frame := quadroCifra c soma payload rest }
      else
        none := by
  have hOper :
      (IngressState.init
        (c.ingressCifra cipher payload)).oper = 0x4 := rfl
  rcases sequence_finalizar dispositivos c cipher payload
      [(tblP4draIg5Fin (programa dispositivos)).apply
          IngressState.oper,
        (tblP4draIg6Fin (programa dispositivos)).apply
          IngressState.verificacao,
        (tblP4draIg7Fin (programa dispositivos)).apply
          IngressState.verificacao,
        (tblP4draIg8Fin (programa dispositivos)).apply
          (fun s =>
            (s.metadata.verificacao0,
              s.metadata.verificacao1,
              s.metadata.verificacao2))] with
    ⟨metadata, hFinalizar⟩
  rcases sequence_comparar dispositivos c soma payload metadata
      (some portaCPU) with
    ⟨metadata', hComparar⟩
  have hApply :
      ingressApply (programa dispositivos)
          (.init (c.ingressCifra cipher payload)) =
        { finalizando c soma payload metadata'
            (some portaCPU) with
          dropCtl := decide (¬ IguaisNoIngress soma payload) } := by
    rw [ingressApply, hOper, if_neg (by decide), if_pos rfl,
      trilhaFinalizacao, hFinalizar, ← hSoma, hComparar]
  have hParse :=
    ingressParser_quadroCifra c cipher payload rest
  by_cases hIguais : IguaisNoIngress soma payload
  · have hDeparse :=
      ingressDeparser_ingressCifra c soma payload rest
    rw [if_pos hIguais,
      ingressPass_eq_some hParse hApply
        (decide_eq_false (not_not_intro hIguais)) rfl]
    exact congrArg
      (fun frame => some (Unicast.mk portaCPU false frame))
      hDeparse
  · rw [if_neg hIguais]
    apply ingressPass_eq_none hParse
    rw [hApply]
    exact decide_eq_true hIguais

------------------------------------------------------------
-- Comparing On Egress
------------------------------------------------------------

/- The words that egress compares are equal. -/
def IguaisNoEgress (cipher payload : State) : Prop :=
  cipher.toList.take 5 = payload.toList.take 5

instance (cipher payload : State) :
    Decidable (IguaisNoEgress cipher payload) :=
  inferInstanceAs (Decidable (_ = _))

theorem length_encode_state
    (v : State) :
    (forroStateT.encode v).length = 64 :=
  forroStateT.length_encode v

/- The cipher as the egress parser reads it. -/
def cipherVerify (cipher : State) : ForroStateCipherVerifyT :=
  forroStateCipherVerifyT.decode (forroStateT.encode cipher)

/- The half of the proof that the egress parser reads. -/
def halfPayload (payload : State) : ForroHalfPayloadT :=
  forroHalfPayloadT.decode
    ((forroStateT.encode payload).take 20)

theorem encode_cipherVerify
    (cipher : State) :
    forroStateCipherVerifyT.encode (cipherVerify cipher) =
      forroStateT.encode cipher :=
  forroStateCipherVerifyT.encode_decode _
    (length_encode_state cipher)

theorem encode_halfPayload
    (payload : State) :
    forroHalfPayloadT.encode (halfPayload payload) =
      (forroStateT.encode payload).take 20 := by
  apply forroHalfPayloadT.encode_decode
  rw [List.length_take, length_encode_state]
  rfl

/- The bytes that egress compares. -/
theorem encode_verificar_cipherVerify
    (cipher : State) :
    (Codec.bits 20).encode (cipherVerify cipher).verificar =
      (forroStateT.encode cipher).take 20 := by
  apply (Codec.bits 20).encode_decode
  rw [List.length_take, length_encode_state]
  rfl

/- Equal fields on egress are five equal words. -/
theorem verificar_eq_iff
    (cipher payload : State) :
    (cipherVerify cipher).verificar =
        (halfPayload payload).verificar ↔
      IguaisNoEgress cipher payload := by
  have hCipher := encode_verificar_cipherVerify cipher
  have hPayload :
      (Codec.bits 20).encode (halfPayload payload).verificar =
        (forroStateT.encode payload).take 20 :=
    encode_halfPayload payload
  have hWords : ∀ v : State,
      (forroStateT.encode v).take 20 =
        (v.toList.take 5).flatMap word.encode :=
    fun v => word.take_flatMap_encode v.toList 5
  constructor
  · intro hSame
    apply word.flatMap_encode_injective
    · simp
    · rw [← hWords, ← hWords, ← hCipher, ← hPayload, hSame]
  · intro hSame
    apply (Codec.bits 20).encode_injective
    rw [hCipher, hPayload, hWords, hWords]
    exact congrArg
      (fun words => words.flatMap word.encode) hSame

/- Egress keeps a frame whose first words agree. -/
theorem egressPass_cifra
    (dispositivos : List Dispositivo)
    (c : Cabecalho)
    (cipher payload : State)
    (rest : List Byte) :
    egressPass (programa dispositivos)
        (quadroCifra c cipher payload rest) =
      if IguaisNoEgress cipher payload then
        some (quadroCifra c cipher payload rest)
      else
        none := by
  have hBytes :
      quadroCifra c cipher payload rest =
        quadro c 0x4
          (forroStateCipherVerifyT.encode
              (cipherVerify cipher) ++
            (forroHalfPayloadT.encode (halfPayload payload) ++
              ((forroStateT.encode payload).drop 20 ++
                rest))) := by
    rw [encode_cipherVerify, encode_halfPayload,
      ← List.append_assoc (List.take 20 _),
      List.take_append_drop]
    rfl
  have hParse :=
    egressParser_cifra c (cipherVerify cipher)
      (halfPayload payload)
      ((forroStateT.encode payload).drop 20 ++ rest)
  rw [← hBytes] at hParse
  let s :=
    EgressState.init
      (c.egressCifra (cipherVerify cipher)
        (halfPayload payload))
  let t :=
    { s with
      verificacao :=
        (cipherVerify cipher).verificar ^^^
          (halfPayload payload).verificar }
  have hOper : s.oper = 0x4 := rfl
  have hEg0 := tblP4draEg0Fin_apply dispositivos s
  have hEg1 := tblP4draEg1Fin_apply dispositivos t
  have hProva : Egress.verificarProva s = .next t := rfl
  have hZero : t.verificacao = 0 ↔
      IguaisNoEgress cipher payload := by
    rw [← verificar_eq_iff]
    exact BitVec.xor_eq_zero_iff
  have hApply :
      egressApply (programa dispositivos) s =
        { t with
          dropCtl :=
            decide (¬ IguaisNoEgress cipher payload) } := by
    rw [egressApply, hOper, if_neg (by decide),
      trilhaVerificacao, sequence_cons_next _
        (hEg0.trans hProva)]
    by_cases hIguais : IguaisNoEgress cipher payload
    · rw [if_pos (hZero.mpr hIguais)] at hEg1
      rw [sequence_cons_next [] hEg1,
        decide_eq_false (not_not_intro hIguais)]
      rfl
    · rw [if_neg (fun h => hIguais (hZero.mp h))] at hEg1
      rw [sequence_cons_exit [] hEg1, decide_eq_true hIguais]
      rfl
  rw [egressPass_eq hParse hApply]
  by_cases hIguais : IguaisNoEgress cipher payload
  · rw [decide_eq_false (not_not_intro hIguais),
      if_neg Bool.false_ne_true, if_pos hIguais, hBytes]
    simp [t, s, egressDeparser, EgressState.init,
      Cabecalho.egressCifra, Cabecalho.egress,
      MyEgressHeadersT.empty, quadro, quadroSemId]
  · rw [decide_eq_true hIguais, if_pos rfl, if_neg hIguais]

------------------------------------------------------------
-- The Whole Comparison
------------------------------------------------------------

/- Both gresses together compare every word. -/
theorem iguais_iff
    (cipher payload : State) :
    IguaisNoIngress cipher payload ∧
        IguaisNoEgress cipher payload ↔
      cipher = payload := by
  constructor
  · rintro ⟨hIngress, hEgress⟩
    apply Vector.ext
    intro i hi
    by_cases hLow : i < 5
    · have hWord :
          (cipher.toList.take 5)[i]? =
            (payload.toList.take 5)[i]? :=
        congrArg (fun words => words[i]?) hEgress
      simpa [List.getElem?_take, hLow] using hWord
    · exact hIngress ⟨i, hi⟩ (by simpa using hLow)
  · intro hSame
    subst hSame
    exact ⟨fun _ _ => rfl, rfl⟩

/- A proof is forwarded when it is the sum, word for word. -/
theorem passagem_cifra
    (dispositivos : List Dispositivo)
    (c : Cabecalho)
    (cipher payload : State)
    (rest : List Byte) :
    passagem (programa dispositivos)
        (quadroCifra c cipher payload rest) =
      if payload =
          somarPalavras cipher (estadoSomado dispositivos c)
      then
        some (portaCPU, quadroCifra c payload payload rest)
      else
        none := by
  have hIngress :=
    ingressPass_cifra dispositivos c cipher payload _ rest rfl
  have hEgress :=
    egressPass_cifra dispositivos c
      (somarPalavras cipher (estadoSomado dispositivos c))
      payload rest
  have hIguais :=
    iguais_iff
      (somarPalavras cipher (estadoSomado dispositivos c))
      payload
  rw [passagem, hIngress]
  by_cases hSoma :
      payload =
        somarPalavras cipher (estadoSomado dispositivos c)
  · rcases hIguais.mpr hSoma.symm with ⟨hFirst, hSecond⟩
    rw [if_pos hSecond] at hEgress
    rw [if_pos hFirst, if_pos hSoma, ← hSoma]
    rw [← hSoma] at hEgress
    simp [hEgress]
  · rw [if_neg hSoma]
    by_cases hFirst :
        IguaisNoIngress
          (somarPalavras cipher (estadoSomado dispositivos c))
          payload
    · have hSecond := fun h =>
        hSoma (hIguais.mp ⟨hFirst, h⟩).symm
      rw [if_neg hSecond] at hEgress
      simp [hFirst, hEgress]
    · rw [if_neg hFirst]
      rfl

end Tna

end P4dra
