import P4dra.Optee.Provisioning
import P4dra.Tools.Forwarding
import P4dra.Tools.OfflineCheck
import P4dra.Tools.Receive

/-
  The sample sender `send.py`.

  It sends one frame of the kind that its second argument
  names. The host has an address and the interface was found;
  `srcMac` is the address of the interface. Python raises, or
  the program exits, where the model returns `none`.

  Main declarations:
    * `Send.payload`, `Send.quadro`
    * `Send.start_vira_request`
    * `Send.reply_aceito_iff`
    * `Send.setup_deslocado`
-/

------------------------------------------------------------
-- Program
------------------------------------------------------------

namespace P4dra

open Bytes (Byte slice swapWords)
open Tna (Cabecalho Frame inverterEndianess processar portaCPU
  portaCliente quadroResposta quadroCifra)

namespace Tools

namespace Send

/- `str.encode("utf-8")` -/
def encodeUtf8 (texto : List Char) : List Byte :=
  texto.flatMap
    (fun c => (String.utf8EncodeChar c).map UInt8.toBitVec)

/-
  At most `tamanho` characters are encoded; the zeros that
  follow are counted in characters, too.
-/
def padding (msg : List Char) (tamanho : Nat) : List Byte :=
  let comprimentoMsg :=
    if msg.length > tamanho then tamanho else msg.length
  encodeUtf8 (msg.take comprimentoMsg) ++
    List.replicate (tamanho - comprimentoMsg) 0

/- `bytes.fromhex(inverter_endianess(texto))` -/
def campoInvertido (texto : List Char) : Option (List Byte) :=
  (inverterEndianess texto).bind Receive.fromhex

/- The EtherType and what follows it. -/
def payload
    (argv : List (List Char)) : Option (List Byte × List Byte) :=
  do
    let tipo ← argv[2]?
    if tipo = "forro".toList then
      let mensagem ← argv[3]?
      some ([0xab, 0xcc], Receive.swap32 (padding mensagem 64))
    else if tipo = "start".toList then
      let idRodada ← campoInvertido (← argv[3]?)
      some (etherTypeCustom, 0x0 :: idRodada)
    else if tipo = "request".toList then
      let idRodada ← campoInvertido (← argv[3]?)
      some (etherTypeCustom, 0x1 :: idRodada)
    else if tipo = "reply".toList then
      let idRodada ← campoInvertido (← argv[3]?)
      let idDispositivo ← campoInvertido (← argv[4]?)
      let prova ← campoInvertido (← argv[5]?)
      some
        (etherTypeCustom,
          0x2 :: (idRodada ++ (idDispositivo ++ prova)))
    else if tipo = "setup".toList then
      let chave ← argv[3]?
      let idDispositivo ← argv[4]?
      some
        (etherTypeCustom,
          0x5 :: (padding [] 8 ++ (padding chave 32 ++
            padding idDispositivo 16)))
    else
      none

/- `'08:00:00:00:01:02'` -/
def dstMac : List Byte := [0x08, 0x00, 0x00, 0x00, 0x01, 0x02]

/- The frame that `main` sends. -/
def quadro
    (srcMac : List Byte)
    (argv : List (List Char)) : Option Frame := do
  let pkt ← payload argv
  some (dstMac ++ (srcMac ++ (pkt.1 ++ pkt.2)))

------------------------------------------------------------
-- Kinds Of Frames
------------------------------------------------------------

variable (srcMac : List Byte)
variable (programa addr : List Char)

theorem quadro_start
    (idRodada : List Char) :
    quadro srcMac [programa, addr, "start".toList, idRodada] =
      (campoInvertido idRodada).map
        (fun rodada =>
          pacoteDe dstMac srcMac (0x0 :: rodada)) := by
  unfold quadro payload
  have hForro : "start".toList ≠ "forro".toList := by decide
  simp only [List.getElem?_cons_succ, List.getElem?_cons_zero,
    Option.bind_eq_bind, Option.bind_some, if_neg hForro,
    if_true]
  cases campoInvertido idRodada <;> rfl

theorem quadro_request
    (idRodada : List Char) :
    quadro srcMac [programa, addr, "request".toList, idRodada] =
      (campoInvertido idRodada).map
        (fun rodada =>
          pacoteDe dstMac srcMac (0x1 :: rodada)) := by
  unfold quadro payload
  have hForro : "request".toList ≠ "forro".toList := by decide
  have hStart : "request".toList ≠ "start".toList := by decide
  simp only [List.getElem?_cons_succ, List.getElem?_cons_zero,
    Option.bind_eq_bind, Option.bind_some, if_neg hForro,
    if_neg hStart, if_true]
  cases campoInvertido idRodada <;> rfl

theorem quadro_reply
    {idRodada idDispositivo prova : List Char}
    {rodada id bytes : List Byte}
    (hRodada : campoInvertido idRodada = some rodada)
    (hId : campoInvertido idDispositivo = some id)
    (hProva : campoInvertido prova = some bytes) :
    quadro srcMac
        [programa, addr, "reply".toList, idRodada,
          idDispositivo, prova] =
      some
        (pacoteDe dstMac srcMac
          (0x2 :: (rodada ++ (id ++ bytes)))) := by
  unfold quadro payload
  have hForro : "reply".toList ≠ "forro".toList := by decide
  have hStart : "reply".toList ≠ "start".toList := by decide
  have hRequest : "reply".toList ≠ "request".toList := by decide
  simp only [List.getElem?_cons_succ, List.getElem?_cons_zero,
    Option.bind_eq_bind, Option.bind_some, if_neg hForro,
    if_neg hStart, if_neg hRequest, if_true, hRodada, hId,
    hProva]
  rfl

theorem quadro_setup
    (chave idDispositivo : List Char) :
    quadro srcMac
        [programa, addr, "setup".toList, chave, idDispositivo] =
      some
        (pacoteDe dstMac srcMac
          (0x5 :: (List.replicate 8 0 ++ (padding chave 32 ++
            padding idDispositivo 16)))) := by
  unfold quadro payload
  have hForro : "setup".toList ≠ "forro".toList := by decide
  have hStart : "setup".toList ≠ "start".toList := by decide
  have hRequest : "setup".toList ≠ "request".toList := by decide
  have hReply : "setup".toList ≠ "reply".toList := by decide
  simp only [List.getElem?_cons_succ, List.getElem?_cons_zero,
    Option.bind_eq_bind, Option.bind_some, if_neg hForro,
    if_neg hStart, if_neg hRequest, if_neg hReply, if_true]
  rfl

------------------------------------------------------------
-- Starts And Requests
------------------------------------------------------------

theorem length_pacoteDe
    {destMac srcMac : List Byte}
    (hDest : destMac.length = 6)
    (hSrc : srcMac.length = 6)
    (oper : Byte)
    (resto : List Byte) :
    (pacoteDe destMac srcMac (oper :: resto)).length =
      15 + resto.length := by
  simp only [pacoteDe, etherTypeCustom, List.length_append,
    List.length_cons, List.length_nil, hDest, hSrc]
  omega

/-
  For any text: a Start is sent when a Request would be, and
  the switch makes this Request of it, unless the text is too
  short for an `id_rodada`.
-/
theorem start_vira_request
    {confIni : Nat}
    {arquivo : List (List Char)}
    (hConcluida : (Tna.setup confIni arquivo).concluida = true)
    (hSrc : srcMac.length = 6)
    (idRodada : List Char)
    {fuel : Nat}
    (hFuel : 1 ≤ fuel) :
    (quadro srcMac
          [programa, addr, "start".toList, idRodada]).map
        (processar (Tna.setup confIni arquivo).calls fuel) =
      (quadro srcMac
          [programa, addr, "request".toList, idRodada]).map
        (fun request =>
          some
            (if 31 ≤ request.length then
              .emitido portaCliente request
            else
              .descartado)) := by
  rw [quadro_start, quadro_request]
  cases hCampo : campoInvertido idRodada with
  | none => rfl
  | some rodada =>
      have hLength :=
        length_pacoteDe (rfl : dstMac.length = 6) hSrc 0x1
          rodada
      simp only [Option.map_some, hLength]
      by_cases hInteira : 16 ≤ rodada.length
      · rw [if_pos (by omega),
          processar_pacoteDe hConcluida
            (rfl : dstMac.length = 6) hSrc hInteira
            not_comId_start hFuel,
          encaminhar_start]
      · rw [if_neg (by omega),
          processar_pacoteDe_curto hConcluida
            (rfl : dstMac.length = 6) hSrc (by omega) 0x0
            hFuel]

/- A round of 32 digits. -/
theorem start_vira_request_exemplo :
    (quadro (List.replicate 6 0)
          [[], [], "start".toList, List.replicate 32 '0']).map
        (processar (Tna.setup 0 []).calls 1) =
      (quadro (List.replicate 6 0)
          [[], [], "request".toList,
            List.replicate 32 '0']).map
        (fun request =>
          some
            (if 31 ≤ request.length then
              .emitido portaCliente request
            else
              .descartado)) := by
  have hConcluida : (Tna.setup 0 []).concluida = true := rfl
  exact
    start_vira_request (List.replicate 6 0) [] [] hConcluida rfl
      (List.replicate 32 '0') (Nat.le_refl 1)

------------------------------------------------------------
-- Replies
------------------------------------------------------------

theorem campoInvertido_of_isHex
    {k : Nat}
    {texto : List Char}
    (hHex : Hex.IsHex texto)
    (hLength : texto.length = 8 * k) :
    campoInvertido texto =
      some (swapWords (Hex.decode texto)) := by
  have hSwapped :
      (Hex.swapDigits texto).length = 2 * (4 * k) := by
    rw [Hex.length_swapDigits, hLength]
    omega
  rw [campoInvertido, Tna.inverterEndianess_eq k texto hLength,
    Option.bind_some,
    Receive.fromhex_of_isHex (4 * k) _ hSwapped
      (Hex.isHex_swapDigits hHex),
    Hex.decode_swapDigits k texto hLength]

/- A Reply with the identifier of a record. -/
theorem exists_quadroResposta
    (hSrc : srcMac.length = 6)
    {idRodada nonce : List Char}
    (hRodada : LeProvasArquivo.Rodada idRodada nonce)
    (r : Registro) :
    ∃ (c : Cabecalho) (payload : State),
      c.DoRegistro r ∧
        swapWords (slice 0 8 c.bytesIdRodada) =
          Hex.decode idRodada ∧
        swapWords (slice 8 8 c.bytesIdRodada) =
          Hex.decode nonce ∧
        Tna.forroStateT.encode payload =
          swapWords (Hex.decode r.prova) ∧
        quadro srcMac
            [programa, addr, "reply".toList, idRodada ++ nonce,
              r.idDispositivo, r.prova] =
          some (quadroResposta c payload []) := by
  have hFirst : (swapWords (Hex.decode idRodada)).length = 8 := by
    rw [Bytes.length_swapWords, Hex.length_decode,
      hRodada.lengthIdRodada]
  have hSecond : (swapWords (Hex.decode nonce)).length = 8 := by
    rw [Bytes.length_swapWords, Hex.length_decode,
      hRodada.lengthNonce]
  have hTrocados :=
    @EnviaProvasArquivo.bytesDeDigitos_trocados 4
      (idRodada ++ nonce) hRodada.isHex_append
      hRodada.length_append
  have hBytes := EnviaProvasArquivo.bytes_rodada hRodada
  rw [swapEndian_of_length hRodada.length_append] at hBytes
  rw [hTrocados] at hBytes
  have hLength :
      (swapWords (Hex.decode (idRodada ++ nonce))).length =
        16 := by
    rw [hBytes, List.length_append, hFirst, hSecond]
  rcases exists_cabecalho (rfl : dstMac.length = 6) hSrc
      hLength with
    ⟨c', hDst, hSrc', hIdRodada⟩
  let c : Cabecalho :=
    { c' with
        idDispositivo :=
          BitVec.ofNat 128 (Bytes.beNat (swapWords r.bytesId)) }
  have hDoRegistro : c.DoRegistro r :=
    Tna.doRegistro_of_idDispositivo rfl
  have hCampo :
      c.bytesIdRodada =
        swapWords (Hex.decode idRodada) ++
          swapWords (Hex.decode nonce) :=
    hIdRodada.trans hBytes
  have hProva :
      (swapWords (Hex.decode r.prova)).length = 64 := by
    rw [Bytes.length_swapWords, Hex.length_decode,
      r.lengthProva]
  have hPayload :=
    Tna.forroStateT.encode_decode
      (swapWords (Hex.decode r.prova)) hProva
  have hReply :=
    quadro_reply srcMac programa addr
      (campoInvertido_of_isHex (k := 4) hRodada.isHex_append
        hRodada.length_append)
      (campoInvertido_of_isHex (k := 4) r.hexId r.lengthId)
      (campoInvertido_of_isHex (k := 16) r.hexProva
        r.lengthProva)
  refine
    ⟨c, Tna.forroStateT.decode (swapWords (Hex.decode r.prova)),
      hDoRegistro, ?_, ?_, hPayload, ?_⟩
  · rw [hCampo, Bytes.slice_front _ hFirst,
      Bytes.swapWords_swapWords]
  · have hSlice := Bytes.slice_middle [] hFirst hSecond
    rw [List.append_nil] at hSlice
    rw [hCampo, hSlice, Bytes.swapWords_swapWords]
  · have hDst' : mac c.dstAddr = dstMac := hDst
    have hSrcMac : mac c.srcAddr = srcMac := hSrc'
    have hCampo' :
        c.bytesIdRodada =
          swapWords (Hex.decode (idRodada ++ nonce)) :=
      hIdRodada
    rw [hReply, quadroResposta_eq, quadroSemId_eq, hDst',
      hSrcMac, hCampo', hDoRegistro, hPayload,
      List.append_nil, pacoteDe]
    rfl

/-
  With the configuration that the switch was programmed for,
  `forro-args-dra` prints the one proof text that makes the
  switch accept the Reply for a record.
-/
theorem reply_aceito_iff
    {registros : List Registro}
    (hArquivo : ArquivoValido registros)
    {r : Registro}
    (hRegistro : r ∈ registros)
    {memoria : ForroArgsDra.Memoria}
    (hMemoria : memoria.Limpa)
    (hSrc : srcMac.length = 6)
    {idRodada nonce configuracao prova : List Char}
    (hRodada : LeProvasArquivo.Rodada idRodada nonce)
    (hHexConf : Hex.IsHex configuracao)
    (hLengthConf : configuracao.length = 64)
    (hHexProva : Hex.IsHex prova)
    (hLengthProva : prova.length = 128) :
    ∃ frame verificacao aceito,
      quadro srcMac
            [programa, addr, "reply".toList, idRodada ++ nonce,
              r.idDispositivo, prova] =
          some frame ∧
        ForroArgsDra.main memoria
            [programa, r.chave, nonce, idRodada,
              r.idDispositivo, configuracao] =
          some verificacao ∧
        ∀ fuel, 30 ≤ fuel →
          processar
              (Tna.setup
                (Tna.configuracaoDaMedida
                  (Hex.decode configuracao)).toNat
                (registros.map Registro.texto)).calls
              fuel frame =
            some
              (if verificacao = prova.map Char.toLower then
                .emitido portaCPU aceito
              else
                .descartado) := by
  let comProva : Registro :=
    { r with
      prova := prova
      hexProva := hHexProva
      lengthProva := hLengthProva }
  rcases exists_quadroResposta srcMac programa addr hSrc hRodada
      comProva with
    ⟨c, payload, hDoRegistro, hFirst, hSecond, hPayload,
      hFrame⟩
  have hDoR : c.DoRegistro r := hDoRegistro
  have hArgumentos :
      ForroArgsDra.Argumentos
        [programa, r.chave, nonce, idRodada, r.idDispositivo,
          configuracao]
        r.chave nonce idRodada r.idDispositivo :=
    ⟨rfl, rfl, rfl, rfl, r.hexChave, hRodada.hexNonce,
      hRodada.hexIdRodada, r.hexId, r.lengthChave,
      hRodada.lengthNonce, hRodada.lengthIdRodada, r.lengthId⟩
  have hMain :=
    ForroArgsDra.main_of_configuracao hMemoria hArgumentos rfl
      hHexConf hLengthConf
  have hConfLength : (Hex.decode configuracao).length = 32 := by
    rw [Hex.length_decode, hLengthConf]
  have hEstado :=
    Tna.estadoProva_campos memoria.input r.bytesChave
      hConfLength c
  have hId : swapWords c.bytesIdDispositivo = r.bytesId := by
    rw [hDoR, Bytes.swapWords_swapWords]
  rw [hFirst, hSecond, hId] at hEstado
  have hConf :
      (Tna.configuracaoDaMedida
        (Hex.decode configuracao)).toNat < 2 ^ 256 :=
    BitVec.isLt _
  refine ⟨_, _, quadroCifra c payload payload [], hFrame, hMain,
    ?_⟩
  intro fuel hFuel
  have hRun :=
    Tna.processar_registro hConf hArquivo hRegistro hDoR
      payload [] hFuel
  rw [BitVec.ofNat_toNat, BitVec.setWidth_eq, ← hEstado]
    at hRun
  have hIff :=
    @LeProvasArquivo.payload_eq_iff comProva _ hPayload
      (Forro.estadoProva memoria.input r.bytesChave
        (Hex.decode idRodada) (Hex.decode nonce) r.bytesId
        (Hex.decode configuracao))
  simp only [hIff] at hRun
  exact hRun

/- The sample record in the round of the examples. -/
theorem reply_aceito_iff_exemplo :
    ∃ frame verificacao aceito,
      quadro (List.replicate 6 0)
            [[], [], "reply".toList,
              "3132333435363738".toList ++
                "3132333435363738".toList,
              registroExemplo.idDispositivo,
              registroExemplo.prova] =
          some frame ∧
        ForroArgsDra.main ForroArgsDra.memoriaZero
            [[], registroExemplo.chave,
              "3132333435363738".toList,
              "3132333435363738".toList,
              registroExemplo.idDispositivo,
              List.replicate 64 '0'] =
          some verificacao ∧
        processar
            (Tna.setup
              (Tna.configuracaoDaMedida
                (Hex.decode (List.replicate 64 '0'))).toNat
              ([registroExemplo].map Registro.texto)).calls
            30 frame =
          some
            (if verificacao =
                registroExemplo.prova.map Char.toLower then
              .emitido portaCPU aceito
            else
              .descartado) := by
  have hHex : Hex.IsHex (List.replicate 64 '0') := by decide
  rcases reply_aceito_iff (List.replicate 6 0) [] []
      arquivoValido_exemplo
      (List.mem_singleton_self registroExemplo)
      ForroArgsDra.limpa_memoriaZero rfl
      LeProvasArquivo.rodada_exemplo hHex rfl
      registroExemplo.hexProva registroExemplo.lengthProva with
    ⟨frame, verificacao, aceito, hFrame, hMain, hRun⟩
  exact
    ⟨frame, verificacao, aceito, hFrame, hMain,
      hRun 30 (Nat.le_refl 30)⟩

------------------------------------------------------------
-- Setups
------------------------------------------------------------

/- A character of one byte is one byte. -/
theorem length_padding
    {msg : List Char}
    (hAscii : ∀ c ∈ msg, c.utf8Size = 1)
    (tamanho : Nat) :
    (padding msg tamanho).length = tamanho := by
  have hEncode :
      ∀ texto : List Char, (∀ c ∈ texto, c.utf8Size = 1) →
        (encodeUtf8 texto).length = texto.length := by
    intro texto
    induction texto with
    | nil => intro _; rfl
    | cons c texto ih =>
        intro hOne
        have hRest :=
          ih (fun d hd => hOne d (List.mem_cons_of_mem c hd))
        have hFirst := hOne c List.mem_cons_self
        unfold encodeUtf8 at hRest ⊢
        rw [List.flatMap_cons, List.length_append, hRest,
          List.length_map, String.length_utf8EncodeChar, hFirst,
          List.length_cons, Nat.add_comm]
  have hTake :
      ∀ n, ∀ c ∈ msg.take n, c.utf8Size = 1 :=
    fun n c hc => hAscii c (List.mem_of_mem_take hc)
  unfold padding
  dsimp only
  rw [List.length_append, hEncode _ (hTake _),
    List.length_take, List.length_replicate]
  split <;> omega

/- The fields behind the addresses and the EtherType. -/
theorem slice_pacoteDe
    {srcMac : List Byte}
    (hSrc : srcMac.length = 6)
    (hdr resto : List Byte)
    (offset size : Nat) :
    slice (14 + offset) size
        (pacoteDe dstMac srcMac hdr ++ resto) =
      slice offset size (hdr ++ resto) := by
  have hFront :
      (dstMac ++ (srcMac ++ etherTypeCustom)).length = 14 := by
    rw [List.length_append, List.length_append, hSrc]
    rfl
  have hPacote :
      pacoteDe dstMac srcMac hdr ++ resto =
        (dstMac ++ (srcMac ++ etherTypeCustom)) ++
          (hdr ++ resto) := by
    simp only [pacoteDe, List.append_assoc]
  rw [slice, ← List.drop_drop, hPacote, List.drop_left' hFront,
    slice]

/-
  The service looks for the fields behind sixteen bytes of
  `id_rodada`; the sender puts them behind eight.
-/
theorem campos_setup
    {srcMac : List Byte}
    (hSrc : srcMac.length = 6)
    {chave id : List Byte}
    (hChave : chave.length = 32)
    (hId : id.length = 16)
    (resto : List Byte) :
    let packet :=
      pacoteDe dstMac srcMac
          (0x5 :: (List.replicate 8 0 ++ (chave ++ id))) ++
        resto
    Optee.Service.Setup packet ∧
      Optee.Service.setupChave packet =
        chave.drop 8 ++ id.take 8 ∧
      Optee.Service.setupIdDispositivo packet =
        id.drop 8 ++ resto.take 8 := by
  have hAll :
      (0x5 :: (List.replicate 8 0 ++ (chave ++ id))) ++ resto =
        ((0x5 :: List.replicate 8 0) ++ chave.take 8) ++
          ((chave.drop 8 ++ id.take 8) ++
            (id.drop 8 ++ resto)) := by
    simp only [List.cons_append, List.append_assoc]
    rw [← List.append_assoc (chave.take 8),
      List.take_append_drop, ← List.append_assoc (id.take 8),
      List.take_append_drop]
  have hFront :
      ((0x5 :: List.replicate 8 0) ++
        chave.take 8 : List Byte).length = 17 := by
    rw [List.length_append, List.length_take, hChave]
    rfl
  have hCampo : (chave.drop 8 ++ id.take 8).length = 32 := by
    rw [List.length_append, List.length_drop, List.length_take,
      hChave, hId]
    rfl
  refine ⟨⟨?_, ?_⟩, ?_, ?_⟩
  · have hMacs : (dstMac ++ srcMac).length = 12 := by
      rw [List.length_append, hSrc]
      rfl
    have hSlice :=
      Bytes.slice_middle
        ((0x5 :: (List.replicate 8 0 ++ (chave ++ id))) ++
          resto)
        hMacs (rfl : etherTypeCustom.length = 2)
    refine (congrArg (slice 12 2) ?_).trans hSlice
    simp only [pacoteDe, List.append_assoc]
  · exact slice_pacoteDe hSrc _ resto 0 1
  · refine (slice_pacoteDe hSrc _ resto 17 32).trans ?_
    rw [hAll]
    exact Bytes.slice_middle _ hFront hCampo
  · refine (slice_pacoteDe hSrc _ resto 49 16).trans ?_
    have hDrop :
        slice 49 16
            (((0x5 :: List.replicate 8 0) ++ chave.take 8) ++
              ((chave.drop 8 ++ id.take 8) ++
                (id.drop 8 ++ resto))) =
          (id.drop 8 ++ resto).take 16 := by
      rw [slice, ← List.append_assoc, List.drop_left']
      rw [List.length_append, hFront, hCampo]
    have hMetade : (id.drop 8).length = 8 := by
      rw [List.length_drop, hId]
    rw [hAll, hDrop, List.take_append, hMetade,
      List.take_of_length_le (by omega)]

/-
  A Setup passes the switch as it is, and the device that
  takes it stores neither the key nor the identifier: the key
  is cut by eight bytes and goes on with the identifier, and
  that goes on with what lies behind the frame.
-/
theorem setup_deslocado
    {confIni : Nat}
    {arquivo : List (List Char)}
    (hConcluida : (Tna.setup confIni arquivo).concluida = true)
    (hSrc : srcMac.length = 6)
    {chave idDispositivo : List Char}
    (hAsciiChave : ∀ c ∈ chave, c.utf8Size = 1)
    (hAsciiId : ∀ c ∈ idDispositivo, c.utf8Size = 1) :
    ∃ frame,
      quadro srcMac
            [programa, addr, "setup".toList, chave,
              idDispositivo] =
          some frame ∧
        (∀ fuel, 1 ≤ fuel →
          processar (Tna.setup confIni arquivo).calls fuel
              frame =
            some (.emitido 0 frame)) ∧
        ∀ (captura : Optee.Service.Captura)
            (resto : List Byte) (amb : Optee.Service.Ambiente)
            (estado : Optee.Service.Estado),
          captura.packet = frame ++ resto →
          estado.ativo = true →
          amb.popen = true →
          amb.processo.sessaoAberta = true →
          ∃ last steps,
            Transition.exec Optee.Service.tratar estado
                  (Optee.Service.eventosSetup amb captura
                    estado.filhos.length) =
                some (last, steps) ∧
              last.storage Optee.idObjKey =
                some
                  (digitosTrocados
                    ((padding chave 32).drop 8 ++
                      (padding idDispositivo 16).take 8)) ∧
              last.idDispositivoHex =
                some
                  (digitosTrocados
                    ((padding idDispositivo 16).drop 8 ++
                      resto.take 8)) := by
  have hChave := length_padding hAsciiChave 32
  have hId := length_padding hAsciiId 16
  refine
    ⟨_, quadro_setup srcMac programa addr chave idDispositivo,
      ?_, ?_⟩
  · intro fuel hFuel
    have hLength :
        16 ≤
          (List.replicate 8 0 ++ (padding chave 32 ++
            padding idDispositivo 16)).length := by
      rw [List.length_append, List.length_append,
        List.length_replicate, hChave, hId]
      omega
    rw [processar_pacoteDe hConcluida
      (rfl : dstMac.length = 6) hSrc hLength not_comId_setup
      hFuel, encaminhar_setup]
  · intro captura resto amb estado hCaptura hAtivo hPopen
      hSessao
    rcases campos_setup hSrc hChave hId resto with
      ⟨hSetup, hCampoChave, hCampoId⟩
    rw [← hCaptura] at hSetup hCampoChave hCampoId
    rcases Optee.Service.exec_eventosSetup hAtivo hSetup hPopen
        hSessao with
      ⟨steps, hRun⟩
    refine ⟨_, steps, hRun, ?_, ?_⟩
    · rw [← hCampoChave]
      exact
        Optee.Service.gravados_key estado.storage
          (Optee.Service.chaveDoSetup captura)
          (Optee.Service.idDoSetup captura)
    · rw [← hCampoId]
      rfl

theorem ascii_of_all
    {texto : List Char}
    (hAll : texto.all (fun c => c.utf8Size = 1)) :
    ∀ c ∈ texto, c.utf8Size = 1 :=
  fun c hc => of_decide_eq_true (List.all_eq_true.mp hAll c hc)

/-
  A key and an identifier of ASCII letters, and eight bytes
  behind the frame.
-/
theorem setup_deslocado_exemplo :
    ∃ frame,
      quadro (List.replicate 6 0)
            [[], [], "setup".toList,
              "0123456789abcdefghijklmnopqrstuv".toList,
              "ABCDEFGHIJKLMNOP".toList] =
          some frame ∧
        processar
            (Tna.setup 0
              ([registroExemplo].map Registro.texto)).calls
            1 frame =
          some (.emitido 0 frame) ∧
        ∃ (captura : Optee.Service.Captura)
            (last : Optee.Service.Estado)
            (steps :
              List
                (Transition.Step Optee.Service.Estado
                  Optee.Service.Evento Optee.Service.Saida)),
          captura.packet = frame ++ List.replicate 8 0xff ∧
            Transition.exec Optee.Service.tratar
                (Optee.Service.estadoInicial .empty)
                (Optee.Service.eventosSetup
                  Optee.Service.ambienteZero captura 0) =
              some (last, steps) ∧
            last.storage Optee.idObjKey =
              some
                ("62613938666564636a6968676e6d6c6b" ++
                  "7271706f767574734443424148474645").toList ∧
            last.idDispositivoHex =
              some "4c4b4a49504f4e4dffffffffffffffff".toList := by
  have hConcluida :=
    Tna.concluida_registros (by decide : 0 < 2 ^ 256)
      arquivoValido_exemplo
  have hAsciiChave :=
    ascii_of_all
      (rfl :
        "0123456789abcdefghijklmnopqrstuv".toList.all
          (fun c => c.utf8Size = 1))
  have hAsciiId :=
    ascii_of_all
      (rfl :
        "ABCDEFGHIJKLMNOP".toList.all
          (fun c => c.utf8Size = 1))
  rcases setup_deslocado (List.replicate 6 0) [] [] hConcluida
      rfl hAsciiChave hAsciiId with
    ⟨frame, hFrame, hRun, hDispositivo⟩
  have hLength : frame.length = 71 := by
    have hDaFonte := hFrame
    rw [quadro_setup] at hDaFonte
    rw [← Option.some.inj hDaFonte,
      length_pacoteDe (rfl : dstMac.length = 6) rfl]
    simp only [List.length_append, List.length_replicate,
      length_padding hAsciiChave, length_padding hAsciiId]
  let captura : Optee.Service.Captura :=
    { packet := frame ++ List.replicate 8 0xff
      length := by
        rw [List.length_append, List.length_replicate,
          hLength] }
  rcases hDispositivo captura (List.replicate 8 0xff)
      Optee.Service.ambienteZero
      (Optee.Service.estadoInicial .empty) rfl rfl rfl rfl with
    ⟨last, steps, hExec, hChave, hId⟩
  refine
    ⟨frame, hFrame, hRun 1 (Nat.le_refl 1), captura, last,
      steps, rfl, hExec, hChave.trans ?_, hId.trans ?_⟩
  · exact congrArg some (by decide +kernel)
  · exact congrArg some (by decide +kernel)

end Send

end Tools

end P4dra
