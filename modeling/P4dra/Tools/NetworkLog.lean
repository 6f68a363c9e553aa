import P4dra.Library.Decimal
import P4dra.Library.Terminated
import P4dra.Optee.Service

/-
  The log of `le_p4dra_rede`.

  The program prints a line for every frame of four of the
  operations that it captures. What was captured can be read
  back from the text alone.

  Main declarations:
    * `LeP4draRede.packetHandler`, `LeP4draRede.registro`
    * `LeP4draRede.Linha`, `LeP4draRede.linhaDe`
    * `LeP4draRede.registro_injective`
    * `LeP4draRede.linhaDe_quadroCifra`
-/

------------------------------------------------------------
-- Program
------------------------------------------------------------

namespace P4dra

open Bytes (Byte slice)
open Tna (Cabecalho quadroCifra)

namespace Tools

namespace LeP4draRede

/- An address in the order of its bytes. -/
def imprimeMac (endereco : List Byte) : List Char :=
  endereco.zipIdx.flatMap
    (fun b =>
      Hex.encode [b.1] ++ [if b.2 = 5 then ';' else ':'])

/- What every line starts with; the clock gives `micros`. -/
def imprimeInicio
    (micros : Nat)
    (packet : List Byte) : List Char :=
  Decimal.padded 0 micros ++ ';' ::
    (imprimeMac (etherShost packet) ++
      (imprimeMac (etherDhost packet) ++
        (Nat.toDigits 16 (Bytes.beNat (operHdrOper packet)) ++
          ';' :: Hex.encode (operHdrIdRodada packet))))

/- `verif_hdr->id_dispositivo` and what follows it. -/
def verifIdDispositivo (packet : List Byte) : List Byte :=
  slice 31 16 packet

def verifVerificacao (packet : List Byte) : List Byte :=
  slice 47 64 packet

def verifProva (packet : List Byte) : List Byte :=
  slice 111 64 packet

/- The text that `packet_handler` prints for a frame. -/
def packetHandler
    (micros : Nat)
    (packet : List Byte) : List Char :=
  if etherType packet = etherTypeCustom then
    if operHdrOper packet = [0x1] then
      imprimeInicio micros packet ++ [';', '\n']
    else if operHdrOper packet = [0x5] then
      imprimeInicio micros packet ++ ';' ::
        (Hex.encode (Optee.Service.setupIdDispositivo packet) ++
          ';' ::
            (Hex.encode (Optee.Service.setupChave packet) ++
              [';', '\n']))
    else if operHdrOper packet = [0x2] then
      imprimeInicio micros packet ++ ';' ::
        (Hex.encode (replyIdDispositivo packet) ++ ';' ::
          (Hex.encode (replyProva packet) ++ [';', '\n']))
    else if operHdrOper packet = [0x4] then
      imprimeInicio micros packet ++ ';' ::
        (Hex.encode (verifIdDispositivo packet) ++ ';' ::
          (Hex.encode (verifVerificacao packet) ++ ';' ::
            (Hex.encode (verifProva packet) ++ [';', '\n'])))
    else
      []
  else
    []

/- `pcap_loop`: the log of the frames and their times. -/
def registro (capturas : List (Nat × List Byte)) : List Char :=
  capturas.flatMap (fun c => packetHandler c.1 c.2)

------------------------------------------------------------
-- Lines
------------------------------------------------------------

/- What a line says. -/
structure Linha where
  micros : Nat
  shost : List Byte
  dhost : List Byte
  oper : Nat
  idRodada : List Byte
  corpo : List (List Byte)
deriving DecidableEq, Repr

/- The fields behind `id_rodada`, by the operation. -/
def corpoDe (packet : List Byte) : Option (List (List Byte)) :=
  if operHdrOper packet = [0x1] then
    some []
  else if operHdrOper packet = [0x5] then
    some
      [Optee.Service.setupIdDispositivo packet,
        Optee.Service.setupChave packet]
  else if operHdrOper packet = [0x2] then
    some [replyIdDispositivo packet, replyProva packet]
  else if operHdrOper packet = [0x4] then
    some
      [verifIdDispositivo packet, verifVerificacao packet,
        verifProva packet]
  else
    none

def linhaDe
    (micros : Nat)
    (packet : List Byte) : Option Linha :=
  if etherType packet = etherTypeCustom then
    (corpoDe packet).map
      (fun corpo =>
        { micros := micros
          shost := etherShost packet
          dhost := etherDhost packet
          oper := Bytes.beNat (operHdrOper packet)
          idRodada := operHdrIdRodada packet
          corpo := corpo })
  else
    none

namespace Linha

def mac (endereco : List Byte) : List Char :=
  [':'].intercalate (endereco.map (fun b => Hex.encode [b]))

/- The columns of a line. -/
def campos (l : Linha) : List (List Char) :=
  Decimal.padded 0 l.micros :: mac l.shost :: mac l.dhost ::
    Nat.toDigits 16 l.oper :: Hex.encode l.idRodada ::
      l.corpo.map Hex.encode

/- The columns, each with a semicolon behind it. -/
def texto (l : Linha) : List Char :=
  Terminated.join ';' l.campos

/- What a line of a captured frame is like. -/
structure Valida (l : Linha) : Prop where
  shost : l.shost.length = 6
  dhost : l.dhost.length = 6
  oper : l.oper ∈ [0x1, 0x5, 0x2, 0x4]

end Linha

/- The bytes of an address with colons between them. -/
theorem imprimeMac_eq
    {endereco : List Byte}
    (hLength : endereco.length = 6) :
    imprimeMac endereco = Linha.mac endereco ++ [';'] := by
  rcases endereco with _ | ⟨a, _ | ⟨b, _ | ⟨c, _ | ⟨d,
    _ | ⟨e, _ | ⟨f, _ | ⟨g, resto⟩⟩⟩⟩⟩⟩⟩ <;>
    simp at hLength
  simp [imprimeMac, Linha.mac, List.intercalate,
    List.zipIdx_cons]

theorem packetHandler_eq
    (micros : Nat)
    {packet : List Byte}
    (hLength : 12 ≤ packet.length) :
    packetHandler micros packet =
      (linhaDe micros packet).elim []
        (fun l => l.texto ++ ['\n']) := by
  have hShost : (etherShost packet).length = 6 :=
    Bytes.length_slice (by omega)
  have hDhost : (etherDhost packet).length = 6 :=
    Bytes.length_slice (by omega)
  have hInicio :
      imprimeInicio micros packet ++ [';'] =
        Terminated.join ';'
          [Decimal.padded 0 micros,
            Linha.mac (etherShost packet),
            Linha.mac (etherDhost packet),
            Nat.toDigits 16 (Bytes.beNat (operHdrOper packet)),
            Hex.encode (operHdrIdRodada packet)] := by
    rw [imprimeInicio, imprimeMac_eq hShost,
      imprimeMac_eq hDhost]
    simp only [Terminated.join_cons, Terminated.join_nil,
      List.append_assoc, List.cons_append, List.nil_append]
  have hCampos :
      ∀ corpo : List (List Byte),
        Linha.texto
            { micros := micros
              shost := etherShost packet
              dhost := etherDhost packet
              oper := Bytes.beNat (operHdrOper packet)
              idRodada := operHdrIdRodada packet
              corpo := corpo } =
          imprimeInicio micros packet ++ ';' ::
            Terminated.join ';' (corpo.map Hex.encode) := by
    intro corpo
    have hSplit :
        ∀ resto : List Char,
          imprimeInicio micros packet ++ ';' :: resto =
            (imprimeInicio micros packet ++ [';']) ++ resto := by
      intro resto
      rw [List.append_assoc, List.singleton_append]
    rw [hSplit, hInicio, ← Terminated.join_append]
    rfl
  unfold packetHandler linhaDe corpoDe
  by_cases hType : etherType packet = etherTypeCustom
  · rw [if_pos hType, if_pos hType]
    by_cases hUm : operHdrOper packet = [0x1]
    · rw [if_pos hUm, if_pos hUm]
      simp only [Option.map_some, Option.elim_some, hCampos]
      simp
    · rw [if_neg hUm, if_neg hUm]
      by_cases hCinco : operHdrOper packet = [0x5]
      · rw [if_pos hCinco, if_pos hCinco]
        simp only [Option.map_some, Option.elim_some, hCampos]
        simp
      · rw [if_neg hCinco, if_neg hCinco]
        by_cases hDois : operHdrOper packet = [0x2]
        · rw [if_pos hDois, if_pos hDois]
          simp only [Option.map_some, Option.elim_some, hCampos]
          simp
        · rw [if_neg hDois, if_neg hDois]
          by_cases hQuatro : operHdrOper packet = [0x4]
          · rw [if_pos hQuatro, if_pos hQuatro]
            simp only [Option.map_some, Option.elim_some,
              hCampos]
            simp
          · rw [if_neg hQuatro, if_neg hQuatro]
            rfl
  · rw [if_neg hType, if_neg hType]
    rfl

------------------------------------------------------------
-- Reading The Log
------------------------------------------------------------

theorem mem_intercalate
    {separador c : Char}
    {pedacos : List (List Char)}
    (hMem : c ∈ [separador].intercalate pedacos) :
    c = separador ∨ ∃ pedaco ∈ pedacos, c ∈ pedaco := by
  induction pedacos with
  | nil => simp at hMem
  | cons pedaco pedacos ih =>
      cases pedacos with
      | nil =>
          rw [List.intercalate_singleton] at hMem
          exact Or.inr ⟨pedaco, List.mem_cons_self, hMem⟩
      | cons outro resto =>
          rw [List.intercalate_cons_cons] at hMem
          rcases List.mem_append.mp hMem with hFirst | hRest
          · rcases List.mem_append.mp hFirst with hIn | hIn
            · exact Or.inr ⟨pedaco, List.mem_cons_self, hIn⟩
            · exact Or.inl (List.mem_singleton.mp hIn)
          · rcases ih hRest with hSame | ⟨p, hp, hIn⟩
            · exact Or.inl hSame
            · exact
                Or.inr ⟨p, List.mem_cons_of_mem _ hp, hIn⟩

/- Without the colons an address is its digits. -/
theorem filter_mac
    (endereco : List Byte) :
    (Linha.mac endereco).filter (fun c => c ≠ ':') =
      Hex.encode endereco := by
  have hColon : ¬ Hex.IsDigit ':' := by decide
  have hKeep :
      ∀ bytes : List Byte,
        (Hex.encode bytes).filter (fun c => c ≠ ':') =
          Hex.encode bytes := by
    intro bytes
    rw [List.filter_eq_self]
    intro c hc
    have hOther : c ≠ ':' := by
      intro hSame
      exact hColon (hSame ▸ Hex.isHex_encode bytes c hc)
    simpa using hOther
  have hDrop : [':'].filter (fun c => c ≠ ':') = [] := by decide
  unfold Linha.mac
  induction endereco with
  | nil => rfl
  | cons b endereco ih =>
      have hCons :
          Hex.encode (b :: endereco) =
            Hex.encode [b] ++ Hex.encode endereco := by
        simp [Hex.encode]
      cases endereco with
      | nil =>
          rw [List.map_singleton, List.intercalate_singleton,
            hKeep]
      | cons b' resto =>
          rw [List.map_cons] at ih
          rw [List.map_cons, List.map_cons,
            List.intercalate_cons_cons, List.filter_append,
            List.filter_append, hDrop, hKeep,
            List.append_nil, ih, hCons]

theorem mac_injective :
    Function.Injective Linha.mac := by
  intro endereco endereco' hSame
  have hDigits :=
    congrArg (fun texto => texto.filter (fun c => c ≠ ':'))
      hSame
  simp only [filter_mac] at hDigits
  exact Hex.encode_inj.mp hDigits

/- Columns hold digits, and an address colons. -/
theorem mem_campos
    {l : Linha}
    (hValida : l.Valida)
    {campo : List Char}
    (hCampo : campo ∈ l.campos)
    {c : Char}
    (hc : c ∈ campo) :
    Hex.IsDigit c ∨ c = ':' := by
  have hMac :
      ∀ endereco : List Byte, c ∈ Linha.mac endereco →
        Hex.IsDigit c ∨ c = ':' := by
    intro endereco hIn
    rcases mem_intercalate hIn with hSame | ⟨p, hp, hIn'⟩
    · exact Or.inr hSame
    · rcases List.mem_map.mp hp with ⟨b, _, hEncode⟩
      rw [← hEncode] at hIn'
      exact Or.inl (Hex.isHex_encode [b] c hIn')
  have hOper : Hex.IsHex (Nat.toDigits 16 l.oper) := by
    have hCases := hValida.oper
    simp only [List.mem_cons, List.not_mem_nil, or_false]
      at hCases
    rcases hCases with hEq | hEq | hEq | hEq <;> rw [hEq] <;>
      decide
  unfold Linha.campos at hCampo
  simp only [List.mem_cons, List.mem_map] at hCampo
  rcases hCampo with hEq | hEq | hEq | hEq | hEq | ⟨b, _, hEq⟩
  · rw [hEq] at hc
    exact
      Or.inl
        (Decimal.isDigit_hex (Decimal.isDigit_of_mem_padded hc))
  · exact hMac _ (hEq ▸ hc)
  · exact hMac _ (hEq ▸ hc)
  · exact Or.inl (hOper c (hEq ▸ hc))
  · exact Or.inl (Hex.isHex_encode _ c (hEq ▸ hc))
  · rw [← hEq] at hc
    exact Or.inl (Hex.isHex_encode b c hc)

theorem pontoEVirgula_campos
    {l : Linha}
    (hValida : l.Valida) :
    ∀ campo ∈ l.campos, ';' ∉ campo := by
  intro campo hCampo hc
  rcases mem_campos hValida hCampo hc with hDigit | hColon
  · exact absurd hDigit (by decide)
  · exact absurd hColon (by decide)

theorem fimDeLinha_texto
    {l : Linha}
    (hValida : l.Valida) :
    '\n' ∉ l.texto := by
  intro hMem
  rcases List.mem_flatMap.mp hMem with ⟨campo, hCampo, hIn⟩
  rcases List.mem_append.mp hIn with hc | hc
  · rcases mem_campos hValida hCampo hc with hDigit | hColon
    · exact absurd hDigit (by decide)
    · exact absurd hColon (by decide)
  · exact absurd (List.mem_singleton.mp hc) (by decide)

/- Two lines with one text say the same. -/
theorem texto_injective
    {l l' : Linha}
    (hValida : l.Valida)
    (hValida' : l'.Valida)
    (hSame : l.texto = l'.texto) :
    l = l' := by
  have hCampos :=
    Terminated.join_injective (pontoEVirgula_campos hValida)
      (pontoEVirgula_campos hValida') hSame
  unfold Linha.campos at hCampos
  simp only [List.cons.injEq] at hCampos
  rcases hCampos with
    ⟨hMicros, hShost, hDhost, hOper, hRodada, hCorpo⟩
  have hOperSame : l.oper = l'.oper := by
    have hCases := hValida.oper
    have hCases' := hValida'.oper
    simp only [List.mem_cons, List.not_mem_nil, or_false]
      at hCases hCases'
    rcases hCases with hEq | hEq | hEq | hEq <;>
      rcases hCases' with hEq' | hEq' | hEq' | hEq' <;>
      rw [hEq, hEq'] at hOper ⊢ <;>
      exact absurd hOper (by decide)
  have hCorpoSame : l.corpo = l'.corpo :=
    List.map_injective_iff.mpr
      (fun _ _ h => Hex.encode_inj.mp h) hCorpo
  cases l
  cases l'
  simp only [Linha.mk.injEq]
  exact
    ⟨Decimal.padded_injective 0 hMicros, mac_injective hShost,
      mac_injective hDhost, hOperSame, Hex.encode_inj.mp hRodada,
      hCorpoSame⟩

/- Only frames of the four operations are logged. -/
theorem valida_of_linhaDe
    {micros : Nat}
    {packet : List Byte}
    {l : Linha}
    (hLength : 12 ≤ packet.length)
    (hLinha : linhaDe micros packet = some l) :
    l.Valida := by
  have hShost : (etherShost packet).length = 6 :=
    Bytes.length_slice (by omega)
  have hDhost : (etherDhost packet).length = 6 :=
    Bytes.length_slice (by omega)
  unfold linhaDe at hLinha
  split at hLinha
  · rcases Option.map_eq_some_iff.mp hLinha with
      ⟨corpo, hCorpo, hSame⟩
    rw [← hSame]
    refine ⟨hShost, hDhost, ?_⟩
    unfold corpoDe at hCorpo
    split at hCorpo
    · rename_i hOper
      simp only [hOper]
      decide
    · split at hCorpo
      · rename_i hOper
        simp only [hOper]
        decide
      · split at hCorpo
        · rename_i hOper
          simp only [hOper]
          decide
        · split at hCorpo
          · rename_i hOper
            simp only [hOper]
            decide
          · cases hCorpo
  · cases hLinha

/- The lines of the captured frames. -/
def linhas (capturas : List (Nat × List Byte)) : List Linha :=
  capturas.filterMap (fun c => linhaDe c.1 c.2)

theorem registro_eq
    {capturas : List (Nat × List Byte)}
    (hLength : ∀ c ∈ capturas, 12 ≤ c.2.length) :
    registro capturas =
      Terminated.join '\n'
        ((linhas capturas).map Linha.texto) := by
  induction capturas with
  | nil => rfl
  | cons captura capturas ih =>
      have hRest :=
        ih (fun c hc => hLength c (List.mem_cons_of_mem _ hc))
      have hFirst :=
        packetHandler_eq captura.1
          (hLength captura List.mem_cons_self)
      have hCons :
          registro (captura :: capturas) =
            packetHandler captura.1 captura.2 ++
              registro capturas := rfl
      rw [hCons, hRest, hFirst]
      unfold linhas
      rw [List.filterMap_cons]
      cases linhaDe captura.1 captura.2 with
      | none => rfl
      | some l =>
          simp only [Option.elim_some, List.map_cons,
            Terminated.join_cons, List.append_assoc,
            List.singleton_append]

/-
  Two captures are logged with one text exactly when they
  hold the same frames of the four operations, at the same
  times and in the same order, up to what no line shows.
-/
theorem registro_injective
    {capturas capturas' : List (Nat × List Byte)}
    (hLength : ∀ c ∈ capturas, 175 ≤ c.2.length)
    (hLength' : ∀ c ∈ capturas', 175 ≤ c.2.length) :
    registro capturas = registro capturas' ↔
      linhas capturas = linhas capturas' := by
  have hLong : ∀ c ∈ capturas, 12 ≤ c.2.length :=
    fun c hc => Nat.le_trans (by decide) (hLength c hc)
  have hLong' : ∀ c ∈ capturas', 12 ≤ c.2.length :=
    fun c hc => Nat.le_trans (by decide) (hLength' c hc)
  have hValida :
      ∀ {cs : List (Nat × List Byte)},
        (∀ c ∈ cs, 12 ≤ c.2.length) →
          ∀ l ∈ linhas cs, l.Valida := by
    intro cs hCs l hl
    rcases List.mem_filterMap.mp hl with ⟨c, hc, hLinha⟩
    exact valida_of_linhaDe (hCs c hc) hLinha
  rw [registro_eq hLong, registro_eq hLong']
  constructor
  · intro hSame
    exact
      Terminated.join_map_injective
        (fun _ hL => fimDeLinha_texto hL)
        (fun _ _ hL hL' => texto_injective hL hL')
        (hValida hLong) (hValida hLong') hSame
  · intro hSame
    rw [hSame]

/- A Request before memory that is zero. -/
def pedidoCapturado : List Byte :=
  List.replicate 12 0 ++ ([0x12, 0x34, 0x1] ++
    List.replicate 160 0)

/- At two times it is logged in two ways. -/
theorem registro_injective_exemplo :
    registro [(1, pedidoCapturado)] ≠
      registro [(2, pedidoCapturado)] := by
  have hLength :
      ∀ micros : Nat, ∀ c ∈ [(micros, pedidoCapturado)],
        175 ≤ c.2.length := by
    intro micros c hc
    have hPacket : 175 ≤ pedidoCapturado.length := by
      decide +kernel
    rw [List.mem_singleton.mp hc]
    exact hPacket
  intro hSame
  have hLinhas :=
    (registro_injective (hLength 1) (hLength 2)).mp hSame
  exact absurd hLinhas (by decide +kernel)

------------------------------------------------------------
-- Lines Of Verifications
------------------------------------------------------------

/- The fields of an accepted frame, captured with anything
   behind it. -/
theorem linhaDe_quadroCifra
    (micros : Nat)
    (c : Cabecalho)
    (cipher prova : State)
    (resto : List Byte) :
    linhaDe micros (quadroCifra c cipher prova [] ++ resto) =
      some
        { micros := micros
          shost := mac c.srcAddr
          dhost := mac c.dstAddr
          oper := 0x4
          idRodada := c.bytesIdRodada
          corpo :=
            [c.bytesIdDispositivo,
              Tna.forroStateT.encode cipher,
              Tna.forroStateT.encode prova] } := by
  have hId := Tna.length_bytesIdDispositivo c
  have hCipher : (Tna.forroStateT.encode cipher).length = 64 :=
    Tna.forroStateT.length_encode cipher
  have hProva : (Tna.forroStateT.encode prova).length = 64 :=
    Tna.forroStateT.length_encode prova
  let corpo :=
    c.bytesIdDispositivo ++
      (Tna.forroStateT.encode cipher ++
        (Tna.forroStateT.encode prova ++ resto))
  have hFrame :
      quadroCifra c cipher prova [] ++ resto =
        Tna.quadroSemId c 0x4 corpo := by
    have hQuadro :
        quadroCifra c cipher prova [] =
          Tna.quadroSemId c 0x4
            (c.bytesIdDispositivo ++
              (Tna.forroStateT.encode cipher ++
                (Tna.forroStateT.encode prova ++ []))) := rfl
    rw [hQuadro, Tna.quadroSemId, Tna.quadroSemId]
    simp only [List.append_assoc, List.append_nil, corpo]
  have hOper := operHdrOper_quadroSemId c 0x4 corpo
  have hIdCampo :
      verifIdDispositivo (Tna.quadroSemId c 0x4 corpo) =
        c.bytesIdDispositivo :=
    (slice_quadroSemId c 0x4 corpo 0 16).trans
      (Bytes.slice_front _ hId)
  have hCipherCampo :
      verifVerificacao (Tna.quadroSemId c 0x4 corpo) =
        Tna.forroStateT.encode cipher :=
    (slice_quadroSemId c 0x4 corpo 16 64).trans
      (Bytes.slice_middle _ hId hCipher)
  have hFront :
      (c.bytesIdDispositivo ++
        Tna.forroStateT.encode cipher).length = 80 := by
    rw [List.length_append, hId, hCipher]
  have hProvaCampo :
      verifProva (Tna.quadroSemId c 0x4 corpo) =
        Tna.forroStateT.encode prova := by
    refine (slice_quadroSemId c 0x4 corpo 80 64).trans ?_
    have hCorpo :
        corpo =
          (c.bytesIdDispositivo ++
            Tna.forroStateT.encode cipher) ++
            (Tna.forroStateT.encode prova ++ resto) := by
      simp only [List.append_assoc, corpo]
    rw [hCorpo]
    exact Bytes.slice_middle _ hFront hProva
  have hUm : ([0x4] : List Byte) ≠ [0x1] := by decide
  have hCinco : ([0x4] : List Byte) ≠ [0x5] := by decide
  have hDois : ([0x4] : List Byte) ≠ [0x2] := by decide
  rw [hFrame, linhaDe, if_pos (etherType_quadroSemId c 0x4 _),
    corpoDe, hOper, if_neg hUm, if_neg hCinco, if_neg hDois,
    if_pos rfl, hIdCampo, hCipherCampo, hProvaCampo,
    etherShost_quadroSemId, etherDhost_quadroSemId,
    operHdrIdRodada_quadroSemId]
  rfl

end LeP4draRede

end Tools

end P4dra
