import P4dra.Tna.Isolation
import P4dra.Tna.Termination

/-
  The switch without its tables and its passes.

  `especificacao` says in one step what becomes of a frame:
  it is forwarded, refused, or its proof is compared with a
  word sum. Of the device file only the initial state that
  belongs to the header matters. The quarter-rounds that a
  frame of operation 0x3 still gets have a closed form for
  all 256 values of `rodada`, and so has the number of passes
  of every frame.

  Main declarations:
    * `quartosRestantes_eq`
    * `especificacao`, `passagensDe`
    * `leitura`, `quadro_of_pedido`
-/

------------------------------------------------------------
-- Remaining Quarter-Rounds In Closed Form
------------------------------------------------------------

namespace P4dra

open Bytes (Byte)
open MatchAction (Header)
open Recirculation
open Forro (quarterRound afterQuarterRounds)

namespace Tna

/- The next `n` quarter-rounds after the first `r` ones. -/
def quartosDesde (r n : Nat) (v : State) : State :=
  (List.range' r n).foldl
    (fun v i => quarterRound (Fin.ofNat 8 i) v) v

/- Passes until `rodada` is an odd value below 56. -/
def desvio (rodada : BitVec 8) : Nat :=
  if rodadaImpar rodada then
    0
  else if rodada.toNat < 56 then
    1
  else
    257 - rodada.toNat

/- The first odd value that `rodada` comes to. -/
def primeiraImpar (rodada : BitVec 8) : Nat :=
  if rodadaImpar rodada then
    rodada.toNat
  else if rodada.toNat < 56 then
    rodada.toNat + 1
  else
    1

/- The operations on a state that arrives with `rodada`. -/
def quartosQueFaltam
    (rodada : BitVec 8)
    (v : State) : State :=
  quartosDesde (primeiraImpar rodada - 1)
    (57 - primeiraImpar rodada)
    (quartoPadrao^[desvio rodada] v)

theorem quartosDesde_add_two
    (r n : Nat)
    (v : State) :
    quartosDesde r (n + 2) v =
      quartosDesde (r + 2) n
        (quarterRound (Fin.ofNat 8 (r + 1))
          (quarterRound (Fin.ofNat 8 r) v)) :=
  rfl

theorem afterQuarterRounds_eq_quartosDesde
    (n : Nat)
    (v : State) :
    afterQuarterRounds n v = quartosDesde 0 n v := by
  induction n with
  | zero => rfl
  | succ n ih =>
      rw [quartosDesde, List.range'_1_concat, List.foldl_append,
        ← quartosDesde, ← ih, Nat.zero_add]
      rfl

/- Two values further there are two quarter-rounds less. -/
theorem desvio_add_two
    {rodada : BitVec 8}
    (hImpar : rodadaImpar rodada = true)
    (hFim : rodada ≠ 55) :
    desvio rodada = 0 ∧ desvio (rodada + 2) = 0 ∧
      primeiraImpar rodada = rodada.toNat ∧
      primeiraImpar (rodada + 2) = rodada.toNat + 2 ∧
      rodada.toNat < 55 := by
  have hParts := hImpar
  simp only [rodadaImpar, Bool.and_eq_true,
    decide_eq_true_eq] at hParts
  have hLess : rodada.toNat < 55 := by
    have hNe : rodada.toNat ≠ 55 := fun hSame =>
      hFim (BitVec.eq_of_toNat_eq hSame)
    omega
  have hNext : (rodada + 2).toNat = rodada.toNat + 2 := by
    rw [BitVec.toNat_add]
    exact Nat.mod_eq_of_lt (by simp; omega)
  have hNextImpar : rodadaImpar (rodada + 2) = true := by
    simp only [rodadaImpar, Bool.and_eq_true,
      decide_eq_true_eq, hNext]
    omega
  simp only [desvio, primeiraImpar, hImpar, hNextImpar, if_true,
    hNext]
  exact ⟨trivial, trivial, trivial, trivial, hLess⟩

/- A pass with the default actions brings it closer by one. -/
theorem desvio_add_one
    {rodada : BitVec 8}
    (hImpar : ¬ rodadaImpar rodada = true) :
    desvio rodada = desvio (rodada + 1) + 1 ∧
      primeiraImpar rodada = primeiraImpar (rodada + 1) := by
  revert rodada
  decide

/- The recursion over the passes is the closed form. -/
theorem quartosRestantes_eq
    (rodada : BitVec 8)
    (v : State) :
    quartosRestantes rodada v = quartosQueFaltam rodada v := by
  fun_induction quartosRestantes rodada v with
  | case1 v => rfl
  | case2 rodada v hFim hImpar ih =>
      rcases desvio_add_two hImpar hFim with
        ⟨hNow, hLater, hFirst, hNext, hLess⟩
      have hOdd : 1 ≤ rodada.toNat := by
        simp only [rodadaImpar, Bool.and_eq_true,
          decide_eq_true_eq] at hImpar
        omega
      have hQuarto :
          quartoDaRodada rodada =
            Fin.ofNat 8 (rodada.toNat - 1) := rfl
      have hQuarto' :
          quartoDaRodada (rodada + 1) =
            Fin.ofNat 8 (rodada.toNat - 1 + 1) := by
        have hToNat : (rodada + 1).toNat = rodada.toNat + 1 := by
          rw [BitVec.toNat_add]
          exact Nat.mod_eq_of_lt (by simp; omega)
        rw [quartoDaRodada, hToNat, Nat.add_sub_cancel,
          Nat.sub_add_cancel hOdd]
      have hCount : 57 - rodada.toNat =
          57 - (rodada.toNat + 2) + 2 := by
        omega
      have hStart : rodada.toNat + 2 - 1 =
          rodada.toNat - 1 + 2 := by
        omega
      rw [ih]
      unfold quartosQueFaltam
      rw [hNow, hLater, hFirst, hNext, hQuarto, hQuarto', hCount,
        hStart, quartosDesde_add_two]
      rfl
  | case3 rodada v hFim hImpar ih =>
      rcases desvio_add_one hImpar with ⟨hDesvio, hFirst⟩
      rw [ih]
      unfold quartosQueFaltam
      rw [hDesvio, hFirst, Function.iterate_succ_apply]

------------------------------------------------------------
-- The Switch In One Step
------------------------------------------------------------

/- What a proof is compared with starts from a state. -/
inductive Origem where
| registro : Origem
| estado : BitVec 8 → State → Origem
| cifra : State → Origem
deriving DecidableEq, Repr

/- The frame in which such a proof comes. -/
def Origem.quadro
    (c : Cabecalho) : Origem → List Byte → Frame
| .registro, corpo => Tna.quadro c 0x2 corpo
| .estado rodada v, corpo => quadroEstado c rodada v corpo
| .cifra cipher, corpo =>
    Tna.quadro c 0x4 (forroStateT.encode cipher ++ corpo)

/- What a frame asks of the switch. -/
inductive Pedido where
| repassar : BitVec 9 → Frame → Pedido
| conferir : Cabecalho → Origem → List Byte → Pedido
deriving DecidableEq, Repr

/- What follows the identifier, by operation. -/
def conferencia
    (c : Cabecalho)
    (oper : BitVec 8)
    (pkt : List Byte) : Option Pedido :=
  if oper = 0x2 then
    some (.conferir c .registro pkt)
  else if oper = 0x3 then do
    let (rodada, pkt) ← forroRodadaT.extract pkt
    let (v, pkt) ← forroStateT.extract pkt
    some (.conferir c (.estado rodada.rodada v) pkt)
  else if oper = 0x4 then do
    let (cipher, pkt) ← forroStateT.extract pkt
    some (.conferir c (.cifra cipher) pkt)
  else
    none

/- The request of a frame; `none` when it has none. -/
def pedido (frame : Frame) : Option Pedido := do
  let (ethernet, pkt) ← ethernetH.extract frame
  if ethernet.etherType ≠ etherTypeP4DRA then
    some (.repassar portaCliente frame)
  else
    let (oper, pkt) ← p4draOperT.extract pkt
    if oper.oper = 0x0 then
      some (.repassar portaCliente (frame.set 14 0x1))
    else if oper.oper = 0x5 then
      some (.repassar 0 frame)
    else
      let (id, pkt) ← p4draIdDispositivoT.extract pkt
      conferencia
        { dstAddr := ethernet.dstAddr
          srcAddr := ethernet.srcAddr
          idRodada0 := oper.idRodada0
          idRodada1 := oper.idRodada1
          idRodada2 := oper.idRodada2
          idRodada3 := oper.idRodada3
          idDispositivo := id.idDispositivo }
        oper.oper pkt

/- The proof that a request is compared with. -/
def provaEsperada
    (estado : Option State)
    (c : Cabecalho) : Origem → Option State
| .registro => estado.map Forro.forroWords
| .estado rodada v =>
    some
      (somarPalavras (quartosQueFaltam rodada v)
        (estado.getD (estadoSemDispositivo c)))
| .cifra cipher =>
    some
      (somarPalavras cipher
        (estado.getD (estadoSemDispositivo c)))

/- Only a proof of 64 bytes that is the expected one passes. -/
def conferir
    (estado : Option State)
    (c : Cabecalho)
    (origem : Origem)
    (corpo : List Byte) : Resultado :=
  match forroStateT.extract corpo with
  | none => .descartado
  | some (prova, rest) =>
      if provaEsperada estado c origem = some prova then
        .emitido portaCPU (quadroCifra c prova prova rest)
      else
        .descartado

/- What becomes of a frame, given the states of the devices. -/
def especificacao
    (estadoDe : Cabecalho → Option State)
    (frame : Frame) : Resultado :=
  match pedido frame with
  | none => .descartado
  | some (.repassar port saida) => .emitido port saida
  | some (.conferir c origem corpo) =>
      conferir (estadoDe c) c origem corpo

/- The passes that a request takes. -/
def passagensDaOrigem
    (conhecido : Bool) : Origem → Nat
| .registro => if conhecido then 30 else 1
| .estado rodada _ =>
    desvio rodada + (57 - primeiraImpar rodada) / 2 + 1
| .cifra _ => 1

/- The passes that a frame takes through the switch. -/
def passagensDe
    (estadoDe : Cabecalho → Option State)
    (frame : Frame) : Nat :=
  match pedido frame with
  | some (.conferir c origem _) =>
      passagensDaOrigem (estadoDe c).isSome origem
  | _ => 1

/- The initial state that a file gives to a header. -/
def estadoDoArquivo
    (confIni : Nat)
    (linhas : List Linha)
    (c : Cabecalho) : Option State :=
  (linhas.find?
      (fun linha =>
        idDaLinha linha =
          some (c.idDispositivo.toNat : Int))).map
    (fun linha =>
      estadoForro (bytesDaChave linha.chave)
        (BitVec.ofNat 256 confIni) c)

------------------------------------------------------------
-- Requests Of Frames
------------------------------------------------------------

theorem pedido_outroProtocolo
    (ethernet : EthernetH)
    (corpo : List Byte)
    (hType : ethernet.etherType ≠ etherTypeP4DRA) :
    pedido (ethernetH.encode ethernet ++ corpo) =
      some
        (.repassar portaCliente
          (ethernetH.encode ethernet ++ corpo)) := by
  simp [pedido, hType]

/- A frame that ends before its operation fields do. -/
theorem pedido_semOper
    {ethernet : EthernetH}
    {pkt : List Byte}
    (hType : ethernet.etherType = etherTypeP4DRA)
    (hShort : p4draOperT.extract pkt = none) :
    pedido (ethernetH.encode ethernet ++ pkt) = none ∧
      ingressParser (ethernetH.encode ethernet ++ pkt) =
        none := by
  constructor
  · simp [pedido, hType, hShort]
  · simp [ingressParser, IngressParser.parseEthernet, hType,
      IngressParser.parseP4draOper, hShort]

theorem conferencia_eq_none
    (c : Cabecalho)
    {oper : BitVec 8}
    (pkt : List Byte)
    (hOper : ¬ ComId oper) :
    conferencia c oper pkt = none := by
  rcases not_or.mp hOper with ⟨hTwo, hMore⟩
  rcases not_or.mp hMore with ⟨hThree, hFour⟩
  unfold conferencia
  rw [if_neg hTwo, if_neg hThree, if_neg hFour]

theorem pedido_semId
    (c : Cabecalho)
    {oper : BitVec 8}
    (corpo : List Byte)
    (hOper : ¬ ComId oper) :
    pedido (quadroSemId c oper corpo) =
      if oper = 0x0 then
        some
          (.repassar portaCliente (quadroSemId c 0x1 corpo))
      else if oper = 0x5 then
        some (.repassar 0 (quadroSemId c 0x5 corpo))
      else
        none := by
  have hExtract :
      pedido (quadroSemId c oper corpo) =
        if oper = 0x0 then
          some
            (.repassar portaCliente
              ((quadroSemId c oper corpo).set 14 0x1))
        else if oper = 0x5 then
          some (.repassar 0 (quadroSemId c oper corpo))
        else
          none := by
    simp [pedido, quadroSemId, Cabecalho.ethernet,
      Cabecalho.p4draOper, conferencia_eq_none _ _ hOper]
  rw [hExtract, set_quadroSemId]
  by_cases hStart : oper = 0x0
  · rw [if_pos hStart, if_pos hStart]
  · rw [if_neg hStart, if_neg hStart]
    by_cases hForward : oper = 0x5
    · rw [if_pos hForward, if_pos hForward, hForward]
    · rw [if_neg hForward, if_neg hForward]

/- A frame that ends before its identifier does. -/
theorem pedido_curto
    (c : Cabecalho)
    {oper : BitVec 8}
    {pkt : List Byte}
    (hOper : ComId oper)
    (hShort : p4draIdDispositivoT.extract pkt = none) :
    pedido (quadroSemId c oper pkt) = none ∧
      ingressParser (quadroSemId c oper pkt) = none := by
  constructor
  · rcases hOper with hOper | hOper | hOper <;> subst hOper <;>
      simp [pedido, quadroSemId, Cabecalho.ethernet,
        Cabecalho.p4draOper, hShort]
  · rcases hOper with hOper | hOper | hOper <;> subst hOper <;>
      simp [ingressParser, quadroSemId,
        IngressParser.parseEthernet, Cabecalho.ethernet,
        IngressParser.parseP4draOper, Cabecalho.p4draOper,
        IngressParser.parseP4draIdDispositivo, hShort]

theorem pedido_quadro
    (c : Cabecalho)
    {oper : BitVec 8}
    (pkt : List Byte)
    (hOper : ComId oper) :
    pedido (quadro c oper pkt) = conferencia c oper pkt := by
  rcases hOper with hOper | hOper | hOper <;> subst hOper <;>
    simp [pedido, quadro, quadroSemId, Cabecalho.ethernet,
      Cabecalho.p4draOper]

/- Without a state there is nothing to compare. -/
theorem ingressParser_of_conferencia_none
    (c : Cabecalho)
    {oper : BitVec 8}
    {pkt : List Byte}
    (hOper : ComId oper)
    (hPedido : conferencia c oper pkt = none) :
    ingressParser (quadro c oper pkt) = none := by
  rcases hOper with hOper | hOper | hOper
  · subst hOper
    cases hPedido
  · subst hOper
    have hParse :
        IngressParser.parseForroRodadaState (c.ingress 0x3)
          pkt = none := by
      unfold IngressParser.parseForroRodadaState
      cases hRodada : forroRodadaT.extract pkt with
      | none => rfl
      | some parsed =>
          cases hState : forroStateT.extract parsed.2 with
          | none => simp [hState]
          | some parsed' =>
              simp [conferencia, hRodada, hState] at hPedido
    rw [← hParse]
    simp [ingressParser, quadro, quadroSemId,
      IngressParser.parseEthernet,
      IngressParser.parseP4draOper,
      IngressParser.parseP4draIdDispositivo, Header.extracted,
      Cabecalho.ethernet, Cabecalho.p4draOper,
      Cabecalho.ingress, Cabecalho.ingressSemId]
  · subst hOper
    have hCipher : forroStateT.extract pkt = none := by
      cases hExtract : forroStateT.extract pkt with
      | none => rfl
      | some parsed => simp [conferencia, hExtract] at hPedido
    simp [ingressParser, quadro, quadroSemId,
      IngressParser.parseEthernet,
      IngressParser.parseP4draOper,
      IngressParser.parseP4draIdDispositivo,
      IngressParser.parseForroCipherPayload,
      Header.extracted, Cabecalho.ethernet,
      Cabecalho.p4draOper, hCipher]

/- A request about a proof gives its frame back. -/
theorem quadro_of_conferencia
    {c : Cabecalho}
    {oper : BitVec 8}
    {pkt : List Byte}
    {request : Pedido}
    (hPedido : conferencia c oper pkt = some request) :
    ∃ origem corpo,
      request = .conferir c origem corpo ∧
        quadro c oper pkt = origem.quadro c corpo := by
  unfold conferencia at hPedido
  split at hPedido
  · rename_i hOper
    cases hPedido
    exact ⟨.registro, pkt, rfl, by rw [hOper]; rfl⟩
  · split at hPedido
    · rename_i hOper
      rcases hRodada : forroRodadaT.extract pkt with
        _ | ⟨rodada, pkt'⟩
      · simp [hRodada] at hPedido
      rcases hState : forroStateT.extract pkt' with
        _ | ⟨v, corpo⟩
      · simp [hRodada, hState] at hPedido
      refine ⟨.estado rodada.rodada v, corpo, ?_, ?_⟩
      · simpa [hRodada, hState] using hPedido.symm
      · rw [hOper, Codec.eq_append_of_extract hRodada,
          Codec.eq_append_of_extract hState]
        rfl
    · split at hPedido
      · rename_i hOper
        rcases hCipher : forroStateT.extract pkt with
          _ | ⟨cipher, corpo⟩
        · simp [hCipher] at hPedido
        refine ⟨.cifra cipher, corpo, ?_, ?_⟩
        · simpa [hCipher] using hPedido.symm
        · rw [hOper, Codec.eq_append_of_extract hCipher]
          rfl
      · cases hPedido

theorem pedido_origem
    (c : Cabecalho)
    (origem : Origem)
    (corpo : List Byte) :
    pedido (origem.quadro c corpo) =
      some (.conferir c origem corpo) := by
  cases origem with
  | registro => exact pedido_quadro c corpo (Or.inl rfl)
  | estado rodada v =>
      refine (pedido_quadro c _ (Or.inr (Or.inl rfl))).trans ?_
      simp [conferencia]
  | cifra cipher =>
      refine (pedido_quadro c _ (Or.inr (Or.inr rfl))).trans ?_
      simp [conferencia]

/- Every frame is too short, of another protocol, or one of
   those with and without an identifier. -/
inductive Leitura : Frame → Prop where
| curta
    (frame : Frame)
    (hPedido : pedido frame = none)
    (hParse : ingressParser frame = none) :
    Leitura frame
| outroProtocolo
    (ethernet : EthernetH)
    (corpo : List Byte)
    (hType : ethernet.etherType ≠ etherTypeP4DRA) :
    Leitura (ethernetH.encode ethernet ++ corpo)
| semId
    (c : Cabecalho)
    (oper : BitVec 8)
    (corpo : List Byte)
    (hOper : ¬ ComId oper) :
    Leitura (quadroSemId c oper corpo)
| comId
    (c : Cabecalho)
    (oper : BitVec 8)
    (corpo : List Byte)
    (hOper : ComId oper) :
    Leitura (quadro c oper corpo)

theorem leitura
    (frame : Frame) :
    Leitura frame := by
  rcases hEthernet : ethernetH.extract frame with
    _ | ⟨ethernet, pkt⟩
  · apply Leitura.curta
    · simp [pedido, hEthernet]
    · simp [ingressParser, IngressParser.parseEthernet,
        hEthernet]
  rw [Codec.eq_append_of_extract hEthernet]
  by_cases hType : ethernet.etherType = etherTypeP4DRA
  case neg => exact .outroProtocolo ethernet pkt hType
  rcases hOper : p4draOperT.extract pkt with _ | ⟨oper, pkt'⟩
  · rcases pedido_semOper hType hOper with ⟨hPedido, hParse⟩
    exact .curta _ hPedido hParse
  let c : Cabecalho :=
    { dstAddr := ethernet.dstAddr
      srcAddr := ethernet.srcAddr
      idRodada0 := oper.idRodada0
      idRodada1 := oper.idRodada1
      idRodada2 := oper.idRodada2
      idRodada3 := oper.idRodada3
      idDispositivo := 0 }
  have hQuadro :
      ethernetH.encode ethernet ++ pkt =
        quadroSemId c oper.oper pkt' := by
    have hSame : ethernet = c.ethernet := by
      rw [Cabecalho.ethernet, ← hType]
    rw [hSame, Codec.eq_append_of_extract hOper]
    rfl
  rw [hQuadro]
  by_cases hComId : ComId oper.oper
  · rcases hId : p4draIdDispositivoT.extract pkt' with
      _ | ⟨id, corpo⟩
    · rcases pedido_curto c hComId hId with ⟨hPedido, hParse⟩
      exact .curta _ hPedido hParse
    · rw [Codec.eq_append_of_extract hId]
      exact .comId { c with idDispositivo := id.idDispositivo }
        oper.oper corpo hComId
  · exact .semId c oper.oper pkt' hComId

/- The frame of a request about a proof. -/
theorem quadro_of_pedido
    {frame : Frame}
    {c : Cabecalho}
    {origem : Origem}
    {corpo : List Byte}
    (hPedido :
      pedido frame = some (.conferir c origem corpo)) :
    frame = origem.quadro c corpo := by
  cases leitura frame with
  | curta _ hNone _ =>
      rw [hNone] at hPedido
      cases hPedido
  | outroProtocolo ethernet pkt hType =>
      rw [pedido_outroProtocolo ethernet pkt hType] at hPedido
      cases hPedido
  | semId c' oper pkt hOper =>
      rw [pedido_semId c' pkt hOper] at hPedido
      split at hPedido
      · cases hPedido
      · split at hPedido <;> cases hPedido
  | comId c' oper pkt hOper =>
      rw [pedido_quadro c' pkt hOper] at hPedido
      rcases quadro_of_conferencia hPedido with
        ⟨origem', corpo', hSame, hQuadro⟩
      cases hSame
      exact hQuadro

end Tna

end P4dra
