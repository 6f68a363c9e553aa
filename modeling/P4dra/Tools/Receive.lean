import P4dra.Tools.ConfigurationBinding

/-
  The sample prover `receive.py`.

  `handle_pkt` answers a Request with a Reply. It passes the
  first half of `id_rodada` to the proof program before the
  second one; the program takes its second parameter for the
  nonce and its third for `id_rodada`.

  Main declarations:
    * `Receive.handlePkt`, `Receive.handlePkt_pedido`
    * `Receive.aceita_resposta_iff`
-/

------------------------------------------------------------
-- Program
------------------------------------------------------------

namespace P4dra

open Bytes (Byte piece slice swapWords)
open Tna (Cabecalho Frame quadroResposta quadroSemId)

namespace Tools

namespace Receive

def swap32 (valor : List Byte) : List Byte :=
  (List.range ((valor.length + 3) / 4)).flatMap
    (fun i => (piece 4 i valor).reverse)

/- `s.encode('utf-8')` of text, cut or filled with zeros. -/
def stringParaBytesFixos
    (bytes : List Byte)
    (tamanhoEmBits : Nat) : List Byte :=
  let tamanhoEmBytes := tamanhoEmBits / 8
  (bytes ++ List.replicate (tamanhoEmBytes - bytes.length) 0).take
    tamanhoEmBytes

/- `bytes.fromhex`; white space between bytes is skipped. -/
def fromhex : List Char → Option (List Byte)
| [] => some []
| [c] => if Hex.isspace c then some [] else none
| c :: d :: resto =>
    if Hex.isspace c then
      fromhex (d :: resto)
    else if Hex.IsDigit c ∧ Hex.IsDigit d then
      (fromhex resto).map (Hex.pairByte c d :: ·)
    else
      none

/- `'08:00:00:00:01:01'` -/
def dstResposta : List Byte :=
  [0x08, 0x00, 0x00, 0x00, 0x01, 0x01]

/-
  `handle_pkt` with the two constants as parameters: the
  frame that is sent, if any.
-/
def handlePkt
    (memoria : ForroArgsDra.Memoria)
    (chave idDispositivo : List Char)
    (pkt : Frame) : Option Frame :=
  if etherType pkt = etherTypeCustom ∧
      operHdrOper pkt = [0x1] then do
    let chaveBE ← fromhex chave
    let idDispositivoBE ← fromhex idDispositivo
    let idDispositivoLE := swap32 idDispositivoBE
    let confBE := stringParaBytesFixos [] 256
    let idRodadaLE := slice 0 8 (operHdrIdRodada pkt)
    let idRodadaBE := swap32 idRodadaLE
    let nonceLE := (operHdrIdRodada pkt).drop 8
    let nonceBE := swap32 nonceLE
    let resultado :=
      (ForroArgsDra.main memoria
        ["../tools/forro-args-dra2".toList,
          Hex.encode chaveBE, Hex.encode idRodadaBE,
          Hex.encode nonceBE, Hex.encode idDispositivoBE,
          Hex.encode confBE]).getD []
    let prova ← fromhex resultado
    let provaInvertida := swap32 prova
    let payload :=
      [0x02] ++ (idRodadaLE ++ (nonceLE ++ (idDispositivoLE ++
        provaInvertida)))
    some
      (dstResposta ++ (etherDhost pkt ++ (etherTypeCustom ++
        payload)))
  else
    none

------------------------------------------------------------
-- Conversions
------------------------------------------------------------

theorem swap32_eq :
    ∀ (k : Nat) (valor : List Byte),
      valor.length = 4 * k →
        swap32 valor = swapWords valor := by
  have hPieces :
      ∀ (k : Nat) (valor : List Byte), valor.length = 4 * k →
        (List.range k).flatMap
            (fun i => (piece 4 i valor).reverse) =
          swapWords valor := by
    intro k valor hLength
    have hEach : ∀ i ∈ List.range k,
        (piece 4 i valor).reverse =
          piece 4 i (swapWords valor) := by
      intro i hi
      have hLt := List.mem_range.mp hi
      exact (Bytes.piece_swapWords i valor (by omega)).symm
    rw [List.flatMap_congr hEach]
    exact Bytes.pieces_flatten 4 k (swapWords valor)
      (by rw [Bytes.length_swapWords]; omega)
  intro k valor hLength
  have hCount : (valor.length + 3) / 4 = k := by omega
  rw [swap32, hCount, hPieces k valor hLength]

/- Digits are converted as they stand. -/
theorem fromhex_of_isHex :
    ∀ (k : Nat) (texto : List Char),
      texto.length = 2 * k → Hex.IsHex texto →
        fromhex texto = some (Hex.decode texto) := by
  intro k
  induction k with
  | zero =>
      intro texto hLength _
      have hNil : texto = [] := by
        apply List.eq_nil_of_length_eq_zero
        simpa using hLength
      rw [hNil]
      rfl
  | succ k ih =>
      intro texto hLength hHex
      match texto, hLength with
      | c :: d :: resto, hLength =>
          have hc : Hex.IsDigit c := hHex c (by simp)
          have hd : Hex.IsDigit d := hHex d (by simp)
          have hResto : resto.length = 2 * k := by
            simp only [List.length_cons] at hLength
            omega
          rw [fromhex, Hex.not_isspace_of_isDigit hc,
            if_neg Bool.false_ne_true, if_pos ⟨hc, hd⟩,
            ih resto hResto
              (fun e he => hHex e (by simp [he]))]
          rfl

theorem fromhex_encode
    (bytes : List Byte) :
    fromhex (Hex.encode bytes) = some bytes := by
  rw [fromhex_of_isHex bytes.length _ (Hex.length_encode bytes)
    (Hex.isHex_encode bytes), Hex.decode_encode]

------------------------------------------------------------
-- Replies
------------------------------------------------------------

/- The fields of the Reply to a Request. -/
def cabecalhoResposta
    (c : Cabecalho)
    (r : Registro) : Cabecalho :=
  { c with
    dstAddr := 0x080000000101
    srcAddr := c.dstAddr
    idDispositivo :=
      BitVec.ofNat 128 (Bytes.beNat (swapWords r.bytesId)) }

/- The same fields with the halves of `id_rodada` exchanged. -/
def metadesTrocadas (c : Cabecalho) : Cabecalho :=
  { c with
    idRodada0 := c.idRodada2
    idRodada1 := c.idRodada3
    idRodada2 := c.idRodada0
    idRodada3 := c.idRodada1 }

theorem bytesIdDispositivo_cabecalhoResposta
    (c : Cabecalho)
    (r : Registro) :
    (cabecalhoResposta c r).DoRegistro r :=
  Tna.doRegistro_of_idDispositivo rfl

theorem slice_metadesTrocadas
    (c : Cabecalho) :
    slice 0 8 (metadesTrocadas c).bytesIdRodada =
        slice 8 8 c.bytesIdRodada ∧
      slice 8 8 (metadesTrocadas c).bytesIdRodada =
        slice 0 8 c.bytesIdRodada := by
  rw [Tna.slice_bytesIdRodada_zero,
    Tna.slice_bytesIdRodada_eight,
    Tna.slice_bytesIdRodada_zero,
    Tna.slice_bytesIdRodada_eight]
  exact ⟨rfl, rfl⟩

theorem metadesTrocadas_eq
    {c : Cabecalho}
    (h02 : c.idRodada0 = c.idRodada2)
    (h13 : c.idRodada1 = c.idRodada3) :
    metadesTrocadas c = c := by
  cases c
  simp only at h02 h13
  subst h02 h13
  rfl

/- The halves are equal exactly when nothing is exchanged. -/
theorem metadesTrocadas_eq_iff
    (c : Cabecalho) :
    slice 0 8 c.bytesIdRodada = slice 8 8 c.bytesIdRodada ↔
      metadesTrocadas c = c := by
  rw [Tna.slice_bytesIdRodada_zero,
    Tna.slice_bytesIdRodada_eight]
  constructor
  · intro hHalves
    rcases List.append_inj hHalves (by simp) with ⟨h0, h1⟩
    exact metadesTrocadas_eq (Tna.word.encode_injective h0)
      (Tna.word.encode_injective h1)
  · intro hSame
    have h02 : c.idRodada2 = c.idRodada0 :=
      congrArg Cabecalho.idRodada0 hSame
    have h13 : c.idRodada3 = c.idRodada1 :=
      congrArg Cabecalho.idRodada1 hSame
    rw [h02, h13]

/- The proof program on the arguments of `handle_pkt`. -/
theorem main_handlePkt
    {memoria : ForroArgsDra.Memoria}
    (hMemoria : memoria.Limpa)
    (r : Registro)
    {c : Cabecalho}
    (hDoRegistro : c.DoRegistro r) :
    ForroArgsDra.main memoria
        ["../tools/forro-args-dra2".toList,
          Hex.encode r.bytesChave,
          Hex.encode (swapWords (slice 0 8 c.bytesIdRodada)),
          Hex.encode (swapWords (slice 8 8 c.bytesIdRodada)),
          Hex.encode r.bytesId,
          Hex.encode (List.replicate 32 0)] =
      some
        (Hex.encode
          (Forro.forro
            (Tna.estadoForro r.bytesChave 0
              (metadesTrocadas c)))) := by
  have hRodada := Tna.length_bytesIdRodada c
  have hFirst : (slice 0 8 c.bytesIdRodada).length = 8 :=
    Bytes.length_slice (by omega)
  have hSecond : (slice 8 8 c.bytesIdRodada).length = 8 :=
    Bytes.length_slice (by omega)
  have hChave := r.length_bytesChave
  have hArgumentos :
      ForroArgsDra.Argumentos
        ["../tools/forro-args-dra2".toList,
          Hex.encode r.bytesChave,
          Hex.encode (swapWords (slice 0 8 c.bytesIdRodada)),
          Hex.encode (swapWords (slice 8 8 c.bytesIdRodada)),
          Hex.encode r.bytesId,
          Hex.encode (List.replicate 32 0)]
        (Hex.encode r.bytesChave)
        (Hex.encode (swapWords (slice 0 8 c.bytesIdRodada)))
        (Hex.encode (swapWords (slice 8 8 c.bytesIdRodada)))
        (Hex.encode r.bytesId) :=
    { argv1 := rfl
      argv2 := rfl
      argv3 := rfl
      argv4 := rfl
      hexChave := Hex.isHex_encode _
      hexNonce := Hex.isHex_encode _
      hexIdRodada := Hex.isHex_encode _
      hexIdDispositivo := Hex.isHex_encode _
      lengthChave := by rw [Hex.length_encode, hChave]
      lengthNonce := by
        rw [Hex.length_encode, Bytes.length_swapWords, hFirst]
      lengthIdRodada := by
        rw [Hex.length_encode, Bytes.length_swapWords, hSecond]
      lengthIdDispositivo := by
        rw [Hex.length_encode, r.length_bytesId] }
  have hMain :=
    ForroArgsDra.main_of_configuracao hMemoria hArgumentos rfl
      (Hex.isHex_encode (List.replicate 32 0)) (by simp)
  have hTrocado : (metadesTrocadas c).bytesIdDispositivo =
      swapWords r.bytesId := hDoRegistro
  have hLength : (List.replicate 32 (0 : Byte)).length = 32 :=
    List.length_replicate
  have hEstado :=
    Tna.estadoProva_campos memoria.input r.bytesChave hLength
      (metadesTrocadas c)
  have hZero :
      Tna.configuracaoDaMedida (List.replicate 32 0) = 0 := by
    decide +kernel
  rw [(slice_metadesTrocadas c).1, (slice_metadesTrocadas c).2,
    hTrocado, Bytes.swapWords_swapWords, hZero] at hEstado
  simp only [Hex.decode_encode] at hMain
  rw [hMain, hEstado]

/-
  A Request is answered with the proof for the exchanged
  halves of its `id_rodada`.
-/
theorem handlePkt_pedido
    {memoria : ForroArgsDra.Memoria}
    (hMemoria : memoria.Limpa)
    (r : Registro)
    (c : Cabecalho)
    (rest : List Byte) :
    handlePkt memoria r.chave r.idDispositivo
        (quadroSemId c 0x1 rest) =
      some
        (quadroResposta (cabecalhoResposta c r)
          (Forro.forroWords
            (Tna.estadoForro r.bytesChave 0
              (metadesTrocadas (cabecalhoResposta c r))))
          []) := by
  have hRodada := Tna.length_bytesIdRodada c
  have hFirst : (slice 0 8 c.bytesIdRodada).length = 4 * 2 :=
    Bytes.length_slice (by omega)
  have hDrop :
      c.bytesIdRodada.drop 8 = slice 8 8 c.bytesIdRodada := by
    rw [slice, List.take_of_length_le]
    rw [List.length_drop]
    omega
  have hSecond : (slice 8 8 c.bytesIdRodada).length = 4 * 2 :=
    Bytes.length_slice (by omega)
  have hConf :
      stringParaBytesFixos [] 256 = List.replicate 32 0 := by
    decide
  have hHeader :
      (cabecalhoResposta c r).bytesIdRodada =
        c.bytesIdRodada := rfl
  have hId := bytesIdDispositivo_cabecalhoResposta c r
  have hMain := main_handlePkt hMemoria r hId
  rw [hHeader] at hMain
  generalize
    Tna.estadoForro r.bytesChave 0
      (metadesTrocadas (cabecalhoResposta c r)) = init at *
  have hProva : swap32 (Forro.forro init) =
      Tna.forroStateT.encode (Forro.forroWords init) := by
    rw [swap32_eq 16 _ (Forro.length_forro init),
      Tna.swapWords_forro]
  have hSplit :
      slice 0 8 c.bytesIdRodada ++ slice 8 8 c.bytesIdRodada =
        c.bytesIdRodada := by
    rw [← hDrop]
    exact List.take_append_drop 8 c.bytesIdRodada
  have hDst : dstResposta = mac 0x080000000101 := by
    decide
  rw [handlePkt, etherType_quadroSemId, operHdrOper_quadroSemId,
    if_pos ⟨rfl, rfl⟩, operHdrIdRodada_quadroSemId,
    etherDhost_quadroSemId, hConf, hDrop,
    fromhex_of_isHex 32 _ r.lengthChave r.hexChave,
    fromhex_of_isHex 16 _ r.lengthId r.hexId]
  dsimp only [Option.bind_eq_bind, Option.bind_some]
  rw [swap32_eq 2 _ hFirst, swap32_eq 2 _ hSecond,
    ← Registro.bytesChave, ← Registro.bytesId, hMain,
    Option.getD_some, fromhex_encode, Option.bind_some, hProva,
    swap32_eq 4 _ r.length_bytesId, quadroResposta_eq,
    quadroSemId_eq, hHeader, hId, hDst, List.append_nil,
    ← List.append_assoc (slice 0 8 c.bytesIdRodada), hSplit]
  rfl

------------------------------------------------------------
-- Acceptance
------------------------------------------------------------

/- The state of the answer is the expected one only so. -/
theorem estadoForro_metadesTrocadas
    (chave : List Byte)
    (c : Cabecalho) :
    Tna.estadoForro chave 0 (metadesTrocadas c) =
        Tna.estadoForro chave 0 c ↔
      slice 0 8 c.bytesIdRodada = slice 8 8 c.bytesIdRodada := by
  rw [metadesTrocadas_eq_iff]
  constructor
  · intro hSame
    have hSameId :
        (metadesTrocadas c).idDispositivo = c.idDispositivo :=
      rfl
    have hCompensada :=
      (estadoForro_eq_iff chave 0 0 hSameId).mp hSame
    have h0 := hCompensada.word0
    have h1 := hCompensada.word1
    rw [BitVec.xor_comm, BitVec.xor_comm _ c.idRodada0,
      xor_right_inj] at h0
    rw [BitVec.xor_comm, BitVec.xor_comm _ c.idRodada1,
      xor_right_inj] at h1
    exact metadesTrocadas_eq h0.symm h1.symm
  · intro hSame
    rw [hSame]

/- The answer is accepted when it is the expected proof. -/
theorem aceita_handlePkt
    {memoria : ForroArgsDra.Memoria}
    (hMemoria : memoria.Limpa)
    {registros : List Registro}
    (hArquivo : ArquivoValido registros)
    {r : Registro}
    (hMem : r ∈ registros)
    (c : Cabecalho)
    (rest : List Byte) :
    ∃ resposta,
      handlePkt memoria r.chave r.idDispositivo
            (quadroSemId c 0x1 rest) =
          some resposta ∧
        (Tna.Aceita
            (Tna.setup 0 (registros.map Registro.texto)).calls
            resposta ↔
          Forro.forroWords
              (Tna.estadoForro r.bytesChave 0
                (metadesTrocadas (cabecalhoResposta c r))) =
            Forro.forroWords
              (Tna.estadoForro r.bytesChave 0
                (cabecalhoResposta c r))) :=
  ⟨_, handlePkt_pedido hMemoria r c rest,
    Tna.aceita_registro (by decide) hArquivo hMem
      (bytesIdDispositivo_cabecalhoResposta c r) _ []⟩

/-
  The Reply to a Request is accepted when both halves of its
  `id_rodada` are equal, and otherwise only if the cipher maps
  the two states to the same words.
-/
theorem aceita_resposta_iff
    {memoria : ForroArgsDra.Memoria}
    (hMemoria : memoria.Limpa)
    {registros : List Registro}
    (hArquivo : ArquivoValido registros)
    {r : Registro}
    (hMem : r ∈ registros)
    (c : Cabecalho)
    (rest : List Byte) :
    ∃ resposta,
      handlePkt memoria r.chave r.idDispositivo
            (quadroSemId c 0x1 rest) =
          some resposta ∧
        (Tna.Aceita
            (Tna.setup 0 (registros.map Registro.texto)).calls
            resposta ↔
          slice 0 8 c.bytesIdRodada =
              slice 8 8 c.bytesIdRodada ∨
            Colisao
              (Tna.estadoForro r.bytesChave 0
                (metadesTrocadas (cabecalhoResposta c r)))
              (Tna.estadoForro r.bytesChave 0
                (cabecalhoResposta c r))) := by
  rcases aceita_handlePkt hMemoria hArquivo hMem c rest with
    ⟨resposta, hResposta, hAceita⟩
  refine ⟨resposta, hResposta, ?_⟩
  have hHalves :=
    estadoForro_metadesTrocadas r.bytesChave
      (cabecalhoResposta c r)
  have hHeader :
      (cabecalhoResposta c r).bytesIdRodada =
        c.bytesIdRodada := rfl
  rw [hHeader] at hHalves
  rw [hAceita, ← hHalves]
  constructor
  · intro hWords
    by_cases hSame :
        Tna.estadoForro r.bytesChave 0
            (metadesTrocadas (cabecalhoResposta c r)) =
          Tna.estadoForro r.bytesChave 0
            (cabecalhoResposta c r)
    · exact Or.inl hSame
    · exact Or.inr ⟨hSame, hWords⟩
  · rintro (hSame | hColisao)
    · rw [hSame]
    · exact hColisao.2

/- A Request with two different halves is answered in vain. -/
theorem resposta_not_aceita :
    ¬ ∀ (memoria : ForroArgsDra.Memoria)
        (registros : List Registro) (r : Registro)
        (c : Cabecalho) (rest : List Byte),
      memoria.Limpa → ArquivoValido registros →
        r ∈ registros →
        ∃ resposta,
          handlePkt memoria r.chave r.idDispositivo
                (quadroSemId c 0x1 rest) =
              some resposta ∧
            Tna.Aceita
              (Tna.setup 0
                (registros.map Registro.texto)).calls
              resposta := by
  intro hClaim
  have hMem : registroExemplo ∈ [registroExemplo] :=
    List.mem_singleton.mpr rfl
  rcases hClaim ForroArgsDra.memoriaZero [registroExemplo]
      registroExemplo Tna.cabecalhoDaLinha []
      ForroArgsDra.limpa_memoriaZero arquivoValido_exemplo hMem
    with ⟨sent, hSent, hAccepted⟩
  rcases aceita_handlePkt ForroArgsDra.limpa_memoriaZero
      arquivoValido_exemplo hMem Tna.cabecalhoDaLinha [] with
    ⟨resposta, hResposta, hAceita⟩
  have hSame : sent = resposta :=
    Option.some.inj (hSent.symm.trans hResposta)
  rw [hSame] at hAccepted
  exact absurd (hAceita.mp hAccepted) (by decide +kernel)

/- The header of a Request whose halves are equal. -/
def pedidoSimetrico : Cabecalho :=
  { Tna.cabecalhoDaLinha with
    idRodada2 := 3
    idRodada3 := 4 }

theorem aceita_resposta_iff_simetrico :
    ∃ resposta,
      handlePkt ForroArgsDra.memoriaZero registroExemplo.chave
            registroExemplo.idDispositivo
            (quadroSemId pedidoSimetrico 0x1 []) =
          some resposta ∧
        Tna.Aceita
          (Tna.setup 0
            ([registroExemplo].map Registro.texto)).calls
          resposta := by
  rcases aceita_resposta_iff ForroArgsDra.limpa_memoriaZero
      arquivoValido_exemplo (List.mem_singleton.mpr rfl)
      pedidoSimetrico [] with
    ⟨resposta, hResposta, hAceita⟩
  exact
    ⟨resposta, hResposta,
      hAceita.mpr (Or.inl (by decide +kernel))⟩

end Receive

end Tools

end P4dra
