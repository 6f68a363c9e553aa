import P4dra.Forro.Debug
import P4dra.Tools.VerifierCorrectness

/-
  What the debug build of the proof program prints, and what
  the frames inside the switch carry.

  A frame leaves ingress and egress once in every pass. The
  states of these frames, in order, are the states that the
  debug build prints for the key and the fields of the frame:
  after every call of `Q`, and the sum at the end. The sum is
  seen once more for each half of the comparison that the
  proof passes.

  Main declarations:
    * `Tna.rastro`, `Tna.estadoDoQuadro`
    * `Tna.rastro_resposta`
    * `ForroArgsDra.mainDebug`
    * `ForroArgsDra.mainDebug_rastro`
-/

------------------------------------------------------------
-- Frames Inside The Switch
------------------------------------------------------------

namespace P4dra

open Bytes (Byte slice)
open Recirculation (advance seen seen_add seen_one)
open Forro (afterQuarterRounds)
open Tools (operHdrOper)

namespace Tna

/- The frames that ingress and egress send in a pass. -/
def quadrosDaPassagem
    (calls : List BfrtCall)
    (frame : Frame) : List Frame :=
  (ingressPass calls frame).elim []
    (fun unicast =>
      unicast.frame ::
        if unicast.bypassEgress then
          []
        else
          (egressPass calls unicast.frame).toList)

/- The frames of the first passes of a frame, in order. -/
def rastro
    (calls : List BfrtCall)
    (fuel : Nat)
    (frame : Frame) : List Frame :=
  seen (travessia calls) (quadrosDaPassagem calls) fuel frame

/- The state of a frame; before the sum a round precedes it. -/
def estadoDoQuadro (frame : Frame) : State :=
  if operHdrOper frame = [0x3] then
    forroStateT.decode (slice 48 64 frame)
  else
    forroStateT.decode (slice 47 64 frame)

theorem estadoDoQuadro_quadro
    (c : Cabecalho)
    {oper : BitVec 8}
    {antes : List Byte}
    (hOper :
      antes.length = if [oper] = [0x3] then 1 else 0)
    (v : State)
    (rest : List Byte) :
    estadoDoQuadro
        (quadro c oper
          (antes ++ (forroStateT.encode v ++ rest))) =
      v := by
  have hId := length_bytesIdDispositivo c
  have hState : (forroStateT.encode v).length = 64 :=
    forroStateT.length_encode v
  have hField : ∀ n, antes.length = n →
      slice (31 + (16 + n)) 64
          (quadro c oper
            (antes ++ (forroStateT.encode v ++ rest))) =
        forroStateT.encode v := by
    intro n hn
    have hBefore :
        (c.bytesIdDispositivo ++ antes).length = 16 + n := by
      rw [List.length_append, hId, hn]
    have hSlice := Bytes.slice_middle rest hBefore hState
    rw [quadro, Tools.slice_quadroSemId]
    rw [List.append_assoc] at hSlice
    exact hSlice
  have hRead :
      operHdrOper
          (quadro c oper
            (antes ++ (forroStateT.encode v ++ rest))) =
        [oper] :=
    Tools.operHdrOper_quadroSemId c oper _
  rw [estadoDoQuadro, hRead]
  by_cases hThree : [oper] = [0x3]
  · rw [if_pos hThree] at hOper
    rw [if_pos hThree, hField 1 hOper, Codec.decode_encode]
  · rw [if_neg hThree] at hOper
    rw [if_neg hThree, hField 0 hOper, Codec.decode_encode]

theorem estadoDoQuadro_cifra
    (c : Cabecalho)
    (v : State)
    (rest : List Byte) :
    estadoDoQuadro
        (quadro c 0x4 (forroStateT.encode v ++ rest)) =
      v := by
  have hQuadro := @estadoDoQuadro_quadro c 0x4 [] rfl v rest
  rw [List.nil_append] at hQuadro
  exact hQuadro

theorem estadoDoQuadro_quadroApos
    (c : Cabecalho)
    (v : State)
    (rest : List Byte)
    (r : Nat) :
    estadoDoQuadro (quadroApos c v rest r) =
      afterQuarterRounds r v := by
  rw [quadroApos]
  by_cases hEnd : r = 56
  · rw [if_pos hEnd, hEnd]
    exact estadoDoQuadro_cifra c (afterQuarterRounds 56 v) rest
  · rw [if_neg hEnd]
    exact estadoDoQuadro_quadro c
      (forroRodadaT.length_encode _) _ _

theorem estadoDoQuadro_quadroCifra
    (c : Cabecalho)
    (cipher payload : State)
    (rest : List Byte) :
    estadoDoQuadro (quadroCifra c cipher payload rest) =
      cipher :=
  estadoDoQuadro_cifra c cipher
    (forroStateT.encode payload ++ rest)

------------------------------------------------------------
-- Trace Of A Reply
------------------------------------------------------------

/- The pass that loads the state goes around egress. -/
theorem quadrosDaPassagem_resposta
    {dispositivos : List Dispositivo}
    {c : Cabecalho}
    {d : Dispositivo}
    (rest : List Byte)
    (hProcurar :
      procurar dispositivos c.idDispositivo = some d) :
    quadrosDaPassagem (programa dispositivos)
        (quadro c 0x2 rest) =
      [quadroApos c (d.estadoInicial c) rest 0] := by
  have hApply := ingressApply_resposta dispositivos c
  rw [hProcurar] at hApply
  have hPass :=
    ingressPass_eq_some (ingressParser_quadro c rest) hApply
      rfl rfl
  have hFrame :=
    ingressDeparser_ingressEstado c 1 (d.estadoInicial c) rest
  rw [quadrosDaPassagem, hPass, Option.elim_some]
  exact congrArg (fun frame => [frame]) hFrame

/- A pass shows the next two states. -/
theorem quadrosDaPassagem_quadroApos
    (dispositivos : List Dispositivo)
    (c : Cabecalho)
    (v : State)
    (rest : List Byte)
    {k : Nat}
    (hk : k < 28) :
    quadrosDaPassagem (programa dispositivos)
        (quadroApos c v rest (2 * k)) =
      [quadroApos c v rest (2 * k + 1),
        quadroApos c v rest (2 * k + 2)] := by
  rw [quadrosDaPassagem,
    ingressPass_quadroApos dispositivos c v rest k hk,
    Option.elim_some,
    egressPass_quadroApos dispositivos c v rest k hk]
  rfl

/- The passes with quarter-rounds, from the first on. -/
theorem seen_quadroApos
    (dispositivos : List Dispositivo)
    (c : Cabecalho)
    (v : State)
    (rest : List Byte)
    {k : Nat}
    (hk : k ≤ 28) :
    seen (travessia (programa dispositivos))
        (quadrosDaPassagem (programa dispositivos)) k
        (quadroApos c v rest 0) =
      (List.range (2 * k)).map
        (fun r => quadroApos c v rest (r + 1)) := by
  induction k with
  | zero => rfl
  | succ k ih =>
      have hAdvance :=
        advance_quadroApos dispositivos c v rest k (by omega)
      have hTwo : 2 * (k + 1) = 2 * k + 1 + 1 := by omega
      rw [seen_add _ 1 hAdvance, ih (by omega), seen_one,
        quadrosDaPassagem_quadroApos dispositivos c v rest
          (by omega),
        hTwo, List.range_succ, List.range_succ, List.map_append,
        List.map_append, List.append_assoc]
      rfl

/- The last pass shows the sum for each comparison it passes. -/
theorem quadrosDaPassagem_cifra
    (dispositivos : List Dispositivo)
    (c : Cabecalho)
    {cipher soma : State}
    (payload : State)
    (rest : List Byte)
    (hSoma :
      soma =
        somarPalavras cipher (estadoSomado dispositivos c)) :
    quadrosDaPassagem (programa dispositivos)
        (quadroCifra c cipher payload rest) =
      (if IguaisNoIngress soma payload then
          [quadroCifra c soma payload rest]
        else
          []) ++
        if payload = soma then
          [quadroCifra c soma payload rest]
        else
          [] := by
  have hBoth := iguais_iff soma payload
  rw [quadrosDaPassagem,
    ingressPass_cifra dispositivos c cipher payload soma rest
      hSoma]
  by_cases hIngress : IguaisNoIngress soma payload
  · rw [if_pos hIngress, if_pos hIngress, Option.elim_some]
    by_cases hEgress : IguaisNoEgress soma payload
    · have hSame := hBoth.mp ⟨hIngress, hEgress⟩
      rw [if_neg Bool.false_ne_true, egressPass_cifra,
        if_pos hEgress, if_pos hSame.symm]
      rfl
    · have hOther : payload ≠ soma := by
        intro hSame
        exact hEgress (hBoth.mpr hSame.symm).2
      rw [if_neg Bool.false_ne_true, egressPass_cifra,
        if_neg hEgress, if_neg hOther]
      rfl
  · have hOther : payload ≠ soma := by
      intro hSame
      exact hIngress (hBoth.mpr hSame.symm).1
    rw [if_neg hIngress, if_neg hIngress, if_neg hOther]
    rfl

/- The states of all frames of the run of a Reply. -/
theorem rastro_resposta
    {dispositivos : List Dispositivo}
    {c : Cabecalho}
    {d : Dispositivo}
    (hProcurar :
      procurar dispositivos c.idDispositivo = some d)
    (payload : State)
    (rest : List Byte)
    {init soma : State}
    (hInit : d.estadoInicial c = init)
    (hSoma : Forro.forroWords init = soma) :
    (rastro (programa dispositivos) 30
          (quadroResposta c payload rest)).map estadoDoQuadro =
      (List.range 57).map
          (fun r => afterQuarterRounds r init) ++
        ((if IguaisNoIngress soma payload then [soma] else []) ++
          if payload = soma then [soma] else []) := by
  let corpo := forroStateT.encode payload ++ rest
  have hFirst : advance (travessia (programa dispositivos)) 1
      (quadroResposta c payload rest) =
        some (quadroApos c init corpo 0) := by
    rw [← hInit]
    exact advance_resposta corpo hProcurar 0 (by omega)
  have hMiddle :=
    advance_quadroApos dispositivos c init corpo 28 (by omega)
  have hCifra :
      quadroApos c init corpo (2 * 28) =
        quadroCifra c (afterQuarterRounds 56 init) payload
          rest := rfl
  rw [hCifra] at hMiddle
  have hSomado :
      soma =
        somarPalavras (afterQuarterRounds 56 init)
          (estadoSomado dispositivos c) := by
    rw [estadoSomado, hProcurar, ← hSoma,
      ← somarPalavras_forroWords]
    exact congrArg _ hInit.symm
  have hLoad :=
    quadrosDaPassagem_resposta corpo hProcurar
  rw [hInit] at hLoad
  have hTrinta : 30 = 1 + (28 + 1) := rfl
  have hRange :
      List.range 57 =
        0 :: (List.range (2 * 28)).map Nat.succ :=
    List.range_succ_eq_map
  rw [rastro, hTrinta, seen_add _ (28 + 1) hFirst, seen_one,
    quadroResposta, hLoad, seen_add _ 1 hMiddle, seen_one,
    seen_quadroApos dispositivos c init corpo (le_refl 28),
    quadrosDaPassagem_cifra dispositivos c payload rest hSomado,
    hRange]
  simp only [List.map_append, List.map_cons, List.map_nil,
    List.map_map, Function.comp_def, estadoDoQuadro_quadroApos,
    List.cons_append, List.nil_append, apply_ite
      (List.map estadoDoQuadro), estadoDoQuadro_quadroCifra]

end Tna

------------------------------------------------------------
-- Debug Build
------------------------------------------------------------

namespace Tools

open Forro.Debug

namespace ForroArgsDra

/- `main` linked with a cipher: its text and its output. -/
def mainCom
    (cifra : State → List Byte → List Char × List Byte)
    (memoria : Memoria)
    (palavras : List (List Char)) : Option (List Char) := do
  let argv1 ← argv palavras memoria.ambiente 1
  let key ← hexstringToByteArrayStrlen memoria.key
    (memcpy argv1 64 ++ memoria.aposKey)
  let argv2 ← argv palavras memoria.ambiente 2
  let nonce ← hexstringToByteArrayStrlen memoria.nonce
    (memcpy argv2 16 ++ memoria.aposNonce)
  let argv3 ← argv palavras memoria.ambiente 3
  let idRodada ← hexstringToByteArrayStrlen memoria.idRodada
    (memcpy argv3 16 ++ memoria.aposIdRodada)
  let argv4 ← argv palavras memoria.ambiente 4
  let idDispositivo ← hexstringToByteArrayStrlen
    memoria.idDispositivo
    (memcpy argv4 32 ++ memoria.aposIdDispositivo)
  let argv5 ← argv palavras memoria.ambiente 5
  let configuracao ← hexstringToByteArrayStrlen
    memoria.configuracao
    (memcpy argv5 64 ++ memoria.aposConfiguracao)
  let input :=
    Forro.estadoProva memoria.input key.toList idRodada.toList
      nonce.toList idDispositivo.toList configuracao.toList
  let saida := cifra input memoria.mensagem.toList
  some (saida.1 ++ Hex.encode saida.2)

/- The program without prints. -/
theorem main_eq_mainCom
    (memoria : Memoria)
    (palavras : List (List Char)) :
    main memoria palavras =
      mainCom (fun x m => ([], (Forro.forroEncryptBytes x m).2))
        memoria palavras := rfl

/- The program that is linked with `forro_debug.o`. -/
def mainDebug
    (memoria : Memoria)
    (palavras : List (List Char)) : Option (List Char) :=
  mainCom
    (fun x m =>
      ((forroEncryptBytesDebug x m).1,
        (forroEncryptBytesDebug x m).2.2))
    memoria palavras

/- The state that the cipher is called with. -/
theorem mainCom_eq
    (cifra : State → List Byte → List Char × List Byte)
    {memoria : Memoria}
    (hMemoria : memoria.Limpa)
    {palavras : List (List Char)}
    {chave nonce idRodada idDispositivo configuracao :
      List Char}
    (hArgumentos :
      Argumentos palavras chave nonce idRodada idDispositivo)
    (hArgv5 : palavras[5]? = some configuracao)
    (hHex : Hex.IsHex configuracao)
    (hLength : configuracao.length = 64)
    {input : State}
    (hInput :
      Forro.estadoProva memoria.input (Hex.decode chave)
          (Hex.decode idRodada) (Hex.decode nonce)
          (Hex.decode idDispositivo)
          (Hex.decode configuracao) =
        input) :
    mainCom cifra memoria palavras =
      some
        ((cifra input (List.replicate 64 0)).1 ++
          Hex.encode (cifra input (List.replicate 64 0)).2) := by
  rcases memcpy_argv memoria.ambiente
      hArgumentos.argv1 hArgumentos.lengthChave with
    ⟨argv1, hArgv1, hCopy1⟩
  rcases memcpy_argv memoria.ambiente
      hArgumentos.argv2 hArgumentos.lengthNonce with
    ⟨argv2, hArgv2, hCopy2⟩
  rcases memcpy_argv memoria.ambiente
      hArgumentos.argv3 hArgumentos.lengthIdRodada with
    ⟨argv3, hArgv3, hCopy3⟩
  rcases memcpy_argv memoria.ambiente
      hArgumentos.argv4 hArgumentos.lengthIdDispositivo with
    ⟨argv4, hArgv4, hCopy4⟩
  rcases memcpy_argv memoria.ambiente hArgv5 hLength with
    ⟨argv5, hArgv5, hCopy5⟩
  rcases hexstringToByteArrayStrlen_of_isHex memoria.key
      hArgumentos.hexChave hArgumentos.lengthChave
      hMemoria.aposKey with
    ⟨key, hKey, hKeyBytes⟩
  rcases hexstringToByteArrayStrlen_of_isHex memoria.nonce
      hArgumentos.hexNonce hArgumentos.lengthNonce
      hMemoria.aposNonce with
    ⟨nonceLido, hNonce, hNonceBytes⟩
  rcases hexstringToByteArrayStrlen_of_isHex memoria.idRodada
      hArgumentos.hexIdRodada hArgumentos.lengthIdRodada
      hMemoria.aposIdRodada with
    ⟨rodada, hRodada, hRodadaBytes⟩
  rcases hexstringToByteArrayStrlen_of_isHex
      memoria.idDispositivo hArgumentos.hexIdDispositivo
      hArgumentos.lengthIdDispositivo
      hMemoria.aposIdDispositivo with
    ⟨id, hId, hIdBytes⟩
  rcases hexstringToByteArrayStrlen_of_isHex
      memoria.configuracao hHex hLength
      hMemoria.aposConfiguracao with
    ⟨conf, hConf, hConfBytes⟩
  unfold mainCom
  dsimp only [Option.bind_eq_bind]
  rw [hArgv1, Option.bind_some, hCopy1, hKey, Option.bind_some,
    hArgv2, Option.bind_some, hCopy2, hNonce, Option.bind_some,
    hArgv3, Option.bind_some, hCopy3, hRodada,
    Option.bind_some, hArgv4, Option.bind_some, hCopy4, hId,
    Option.bind_some, hArgv5, Option.bind_some, hCopy5, hConf,
    Option.bind_some, hKeyBytes, hNonceBytes, hRodadaBytes,
    hIdBytes, hConfBytes, hInput, hMemoria.mensagem,
    Vector.toList_replicate]

------------------------------------------------------------
-- One Trace
------------------------------------------------------------

/- The text of the rounds holds the first 57 states. -/
theorem textoDasRodadas_congr
    {estado outro : Nat → State}
    (hSame : ∀ r ≤ 56, estado r = outro r) :
    textoDasRodadas estado = textoDasRodadas outro := by
  unfold textoDasRodadas
  apply List.flatMap_congr
  intro i hMem
  have hi : i < 7 := List.mem_range.mp hMem
  have hQuartos :
      (List.range 8).flatMap
          (fun qr =>
            resultado i qr (estado (8 * i + (qr + 1)))) =
        (List.range 8).flatMap
          (fun qr =>
            resultado i qr (outro (8 * i + (qr + 1)))) := by
    apply List.flatMap_congr
    intro qr hMemQr
    have hqr : qr < 8 := List.mem_range.mp hMemQr
    rw [hSame _ (by omega)]
  rw [textoDaRodada, textoDaRodada, hSame _ (by omega),
    hQuartos]

/-
  The debug build prints the states of the frames that the
  switch sends inside, and then the proof.
-/
theorem mainDebug_rastro
    {memoria : Memoria}
    (hMemoria : memoria.Limpa)
    {configuracao : List Char}
    (hHex : Hex.IsHex configuracao)
    (hLength : configuracao.length = 64)
    {registros : List Registro}
    (hArquivo : ArquivoValido registros)
    {r : Registro}
    (hMem : r ∈ registros)
    {c : Tna.Cabecalho}
    (hDoRegistro : c.DoRegistro r)
    (payload : State)
    (rest : List Byte)
    {calls : List Tna.BfrtCall}
    (hCalls :
      calls =
        (Tna.setup (VerificaRede.confIniDaMedida configuracao)
          (registros.map Registro.texto)).calls) :
    ∃ estados soma saida,
      main memoria
            (VerificaRede.palavrasVerificacao r.chave
              configuracao c) =
          some saida ∧
        mainDebug memoria
            (VerificaRede.palavrasVerificacao r.chave
              configuracao c) =
          some
            (textoDasRodadas (fun i => estados.getD i soma) ++
              (fim soma ++ saida)) ∧
        estados.length = 57 ∧
        Hex.decode (swapEndian saida provaLen) =
          Tna.forroStateT.encode soma ∧
        (Tna.rastro calls 30
              (Tna.quadroResposta c payload rest)).map
            Tna.estadoDoQuadro =
          estados ++
            ((if Tna.IguaisNoIngress soma payload then
                [soma]
              else
                []) ++
              if payload = soma then [soma] else []) := by
  have hConf :
      VerificaRede.confIniDaMedida configuracao < 2 ^ 256 :=
    BitVec.isLt _
  rcases Tna.setup_registros hConf hArquivo with
    ⟨dispositivos, hEntradas, hSetup⟩
  rcases Tna.procurar_registro hEntradas hArquivo.ids hMem
      hDoRegistro with
    ⟨d, hProcurar, hEstado⟩
  rw [VerificaRede.ofNat_confIniDaMedida] at hEstado
  rw [hSetup] at hCalls
  subst hCalls
  let init :=
    Tna.estadoForro r.bytesChave
      (Tna.configuracaoDaMedida (Hex.decode configuracao)) c
  have hInput :=
    VerificaRede.estadoProva_palavrasVerificacao memoria.input
      r.bytesChave
      (show (Hex.decode configuracao).length = 32 by
        rw [Hex.length_decode, hLength])
      c
  have hPrograma := fun cifra =>
    mainCom_eq cifra hMemoria
      (VerificaRede.argumentos_palavrasVerificacao r.hexChave
        r.lengthChave configuracao c) rfl hHex hLength hInput
  have hMain := hPrograma
    (fun x m => ([], (Forro.forroEncryptBytes x m).2))
  rw [← main_eq_mainCom, forroEncryptBytes_zeros,
    List.nil_append] at hMain
  have hDebug := hPrograma
    (fun x m =>
      ((forroEncryptBytesDebug x m).1,
        (forroEncryptBytesDebug x m).2.2))
  have hBlocos :
      Forro.estados init (Forro.blocos 64) = [init] := rfl
  have hTexto :
      textoDasRodadas
          (fun i =>
            ((List.range 57).map
              (fun r =>
                Forro.afterQuarterRounds r init)).getD i
                  (Forro.forroWords init)) =
        textoDasRodadas
          (fun r => Forro.afterQuarterRounds r init) := by
    apply textoDasRodadas_congr
    intro i hi
    rw [List.getD_eq_getElem?_getD, List.getElem?_map,
      List.getElem?_range (by omega)]
    rfl
  rw [forroEncryptBytesDebug_eq, List.length_replicate, hBlocos,
    List.flatMap_singleton, forroDebug_eq,
    forroEncryptBytes_zeros] at hDebug
  refine
    ⟨(List.range 57).map
        (fun r => Forro.afterQuarterRounds r init),
      Forro.forroWords init, _, hMain, ?_, ?_,
      VerificaRede.decode_swapEndian_forro init,
      Tna.rastro_resposta hProcurar payload rest hEstado rfl⟩
  · rw [hTexto, mainDebug, hDebug, List.append_assoc]
  · rw [List.length_map, List.length_range]

theorem mainDebug_rastro_exemplo :
    ∃ estados soma saida,
      mainDebug memoriaZero
            (VerificaRede.palavrasVerificacao
              registroExemplo.chave
              VerificaRede.configuracaoExemplo
              Tna.cabecalhoDaLinha) =
          some
            (textoDasRodadas (fun i => estados.getD i soma) ++
              (fim soma ++ saida)) ∧
        (Tna.rastro
              (Tna.setup
                (VerificaRede.confIniDaMedida
                  VerificaRede.configuracaoExemplo)
                ([registroExemplo].map Registro.texto)).calls 30
              (Tna.quadroResposta Tna.cabecalhoDaLinha
                Tna.zeroState [])).map
            Tna.estadoDoQuadro =
          estados ++
            ((if Tna.IguaisNoIngress soma Tna.zeroState then
                [soma]
              else
                []) ++
              if Tna.zeroState = soma then [soma] else []) := by
  have hHex : Hex.IsHex VerificaRede.configuracaoExemplo := by
    decide +kernel
  have hDoRegistro :
      Tna.cabecalhoDaLinha.DoRegistro registroExemplo := by
    decide +kernel
  rcases mainDebug_rastro limpa_memoriaZero hHex
      (by decide +kernel) arquivoValido_exemplo
      (List.mem_singleton.mpr rfl) hDoRegistro Tna.zeroState []
      rfl with
    ⟨estados, soma, saida, _, hDebug, _, _, hRastro⟩
  exact ⟨estados, soma, saida, hDebug, hRastro⟩

end ForroArgsDra

end Tools

end P4dra
