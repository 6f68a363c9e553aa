import P4dra.Tna.Programming
import P4dra.Tna.Refinement
import P4dra.Tools.Senders

/-
  The frames of the senders on their way through the switch.

  A switch that `setup.py` programmed to the end makes of
  the Starts of `envia_pedidos` the very Requests that
  `envia_pedidos_host` sends without a switch, and hands the
  Setups of both programs on as they are.

  Main declarations:
    * `processar_pacoteDe`, `main_pedidos`
    * `encaminhados`
-/

------------------------------------------------------------
-- Frames Without An Identifier
------------------------------------------------------------

namespace P4dra

open Bytes (Byte)
open Tna (Resultado quadroSemId processar portaCliente
  resultadoSemId)

namespace Tools

/- What becomes of a frame by its operation and the rest. -/
def encaminhar
    (destMac srcMac : List Byte)
    (oper : BitVec 8)
    (resto : List Byte) : Resultado :=
  if oper = 0x0 then
    .emitido portaCliente (pacoteDe destMac srcMac (0x1 :: resto))
  else if oper = 0x5 then
    .emitido 0 (pacoteDe destMac srcMac (0x5 :: resto))
  else
    .descartado

/- Sixteen bytes behind the operation are an `id_rodada`. -/
theorem exists_quadroSemId
    {destMac srcMac resto : List Byte}
    (hDest : destMac.length = 6)
    (hSrc : srcMac.length = 6)
    (hResto : 16 ≤ resto.length) :
    ∃ c corpo, ∀ oper,
      pacoteDe destMac srcMac (oper :: resto) =
        quadroSemId c oper corpo := by
  have hRodada : (resto.take 16).length = 16 := by
    rw [List.length_take]
    omega
  rcases exists_cabecalho hDest hSrc hRodada with
    ⟨c, hCDest, hCSrc, hCRodada⟩
  refine ⟨c, resto.drop 16, ?_⟩
  intro oper
  rw [quadroSemId_eq, hCDest, hCSrc, hCRodada,
    List.take_append_drop, pacoteDe]
  rfl

theorem processar_pacoteDe
    {confIni : Nat}
    {arquivo : List (List Char)}
    (hConcluida : (Tna.setup confIni arquivo).concluida = true)
    {destMac srcMac resto : List Byte}
    (hDest : destMac.length = 6)
    (hSrc : srcMac.length = 6)
    (hResto : 16 ≤ resto.length)
    {oper : BitVec 8}
    (hOper : ¬ Tna.ComId oper)
    {fuel : Nat}
    (hFuel : 1 ≤ fuel) :
    processar (Tna.setup confIni arquivo).calls fuel
        (pacoteDe destMac srcMac (oper :: resto)) =
      some (encaminhar destMac srcMac oper resto) := by
  rcases Tna.exists_calls_setup confIni arquivo with
    ⟨dispositivos, hCalls⟩
  rw [hConcluida, if_pos rfl] at hCalls
  rcases exists_quadroSemId hDest hSrc hResto with
    ⟨c, corpo, hFrame⟩
  have hStep :=
    Tna.travessia_semId dispositivos c corpo hOper
  have hResult :
      resultadoSemId c oper corpo =
        encaminhar destMac srcMac oper resto := by
    rw [resultadoSemId, encaminhar, hFrame 0x1, hFrame 0x5]
  rw [hCalls, hFrame oper, ← hResult]
  exact Recirculation.run_mono
    (Recirculation.run_done 0 hStep) hFuel

/- A frame that ends before its `id_rodada` is dropped. -/
theorem processar_pacoteDe_curto
    {confIni : Nat}
    {arquivo : List (List Char)}
    (hConcluida : (Tna.setup confIni arquivo).concluida = true)
    {destMac srcMac resto : List Byte}
    (hDest : destMac.length = 6)
    (hSrc : srcMac.length = 6)
    (hResto : resto.length < 16)
    (oper : BitVec 8)
    {fuel : Nat}
    (hFuel : 1 ≤ fuel) :
    processar (Tna.setup confIni arquivo).calls fuel
        (pacoteDe destMac srcMac (oper :: resto)) =
      some .descartado := by
  rcases Tna.exists_calls_setup confIni arquivo with
    ⟨dispositivos, hCalls⟩
  rw [hConcluida, if_pos rfl] at hCalls
  have hZeros : (List.replicate 16 (0 : Byte)).length = 16 :=
    List.length_replicate
  rcases exists_cabecalho hDest hSrc hZeros with
    ⟨c, hCDest, hCSrc, _⟩
  have hType :
      (Codec.bits 2).encode Tna.etherTypeP4DRA =
        etherTypeCustom := by
    decide
  have hFrame :
      pacoteDe destMac srcMac (oper :: resto) =
        Tna.ethernetH.encode c.ethernet ++ (oper :: resto) := by
    have hEthernet :
        Tna.ethernetH.encode c.ethernet =
          mac c.dstAddr ++
            (mac c.srcAddr ++ etherTypeCustom) := by
      rw [← hType]
      rfl
    rw [hEthernet, hCDest, hCSrc, pacoteDe]
    simp only [List.append_assoc]
  have hShort :
      Tna.p4draOperT.extract (oper :: resto) = none := by
    rw [Codec.extract_eq_none_iff, List.length_cons]
    exact Nat.succ_lt_succ hResto
  have hPedido :=
    (Tna.pedido_semOper
      (rfl : c.ethernet.etherType = Tna.etherTypeP4DRA)
      hShort).1
  rw [hCalls, hFrame, Tna.processar_eq_ite, Tna.passagensDe,
    Tna.especificacao, hPedido]
  exact if_pos hFuel

/- A Start becomes a Request with nothing else changed. -/
theorem encaminhar_start
    (destMac srcMac resto : List Byte) :
    encaminhar destMac srcMac 0x0 resto =
      .emitido portaCliente
        (pacoteDe destMac srcMac (0x1 :: resto)) :=
  if_pos rfl

theorem encaminhar_setup
    (destMac srcMac resto : List Byte) :
    encaminhar destMac srcMac 0x5 resto =
      .emitido 0 (pacoteDe destMac srcMac (0x5 :: resto)) := by
  have hStart : (0x5 : BitVec 8) ≠ 0x0 := by decide
  rw [encaminhar, if_neg hStart, if_pos rfl]

/- The switch takes no Request. -/
theorem encaminhar_pedido
    (destMac srcMac resto : List Byte) :
    encaminhar destMac srcMac 0x1 resto = .descartado := by
  have hStart : (0x1 : BitVec 8) ≠ 0x0 := by decide
  have hSetup : (0x1 : BitVec 8) ≠ 0x5 := by decide
  rw [encaminhar, if_neg hStart, if_neg hSetup]

theorem not_comId_start : ¬ Tna.ComId 0x0 := by
  unfold Tna.ComId
  decide

theorem not_comId_pedido : ¬ Tna.ComId 0x1 := by
  unfold Tna.ComId
  decide

theorem not_comId_setup : ¬ Tna.ComId 0x5 := by
  unfold Tna.ComId
  decide

------------------------------------------------------------
-- Frames Of The Senders
------------------------------------------------------------

/- The bytes that both programs read from the argument. -/
def rodadaDoArgumento (argv2 : List Char) : List Byte :=
  bytesDeDigitos 16 (swapEndian argv2 idRodadaLen)

theorem main_pedidos
    (argv2 : List Char)
    (quantidade : Nat) :
    EnviaPedidos.main argv2 quantidade =
        some
          ((List.range (min quantidade EnviaPedidos.idMax)).map
            (fun id =>
              pacoteDe (EnviaPedidos.destMac id) macControlador
                (0x0 :: rodadaDoArgumento argv2))) ∧
      EnviaPedidosHost.main argv2 quantidade =
        some
          ((List.range (min quantidade EnviaPedidos.idMax)).map
            (fun id =>
              pacoteDe (EnviaPedidos.destMac id) macControlador
                (0x1 :: rodadaDoArgumento argv2))) := by
  rcases hexstringToByteArray_eq (Vector.replicate 16 0)
      (swapEndian argv2 idRodadaLen) with
    ⟨idRodada, hLido, hBytes⟩
  have hStart :
      EnviaPedidos.customHdr argv2 =
        some (0x0 :: rodadaDoArgumento argv2) := by
    unfold EnviaPedidos.customHdr rodadaDoArgumento
    dsimp only [Option.bind_eq_bind]
    rw [idRodadaLen] at *
    rw [hLido, ← hBytes]
    rfl
  have hPedido :
      EnviaPedidosHost.customHdr argv2 =
        some (0x1 :: rodadaDoArgumento argv2) := by
    unfold EnviaPedidosHost.customHdr rodadaDoArgumento
    dsimp only [Option.bind_eq_bind]
    rw [idRodadaLen] at *
    rw [hLido, ← hBytes]
    rfl
  constructor
  · unfold EnviaPedidos.main
    rw [hStart]
    rfl
  · unfold EnviaPedidosHost.main
    rw [hPedido]
    rfl

/- A frame of one of the two Setup programs. -/
theorem exists_cabecalho_setup
    (row : IdChaveProva) :
    ∃ resto,
      EnviaSetupHostArquivo.cabecalho row = 0x5 :: resto ∧
        16 ≤ resto.length := by
  refine ⟨List.replicate 16 0 ++ _, rfl, ?_⟩
  rw [List.length_append, List.length_replicate]
  exact Nat.le_add_right 16 _

theorem exists_cabecalho_configuracoes
    (row : IdChaveProva) :
    ∃ resto,
      EnviaConfiguracoesArquivo.cabecalho row = 0x5 :: resto ∧
        16 ≤ resto.length := by
  refine
    ⟨List.replicate 8 0 ++
      (bytesDeDigitos 32 row.chave.toList ++ _), rfl, ?_⟩
  rw [List.length_append, List.length_append,
    List.length_replicate, length_bytesDeDigitos]
  omega

/-
  Whatever the arguments and the files are: the switch turns
  the Starts into the Requests that the other program sends,
  one for one and in order, takes none of those Requests
  itself, and changes no Setup.
-/
theorem encaminhados
    {confIni : Nat}
    {arquivo : List (List Char)}
    (hConcluida : (Tna.setup confIni arquivo).concluida = true)
    {fuel : Nat}
    (hFuel : 1 ≤ fuel)
    (argv2 : List Char)
    (dados : Dados)
    (linhas : List (List Char))
    (quantidade : Nat) :
    ∃ starts pedidos setups,
      EnviaPedidos.main argv2 quantidade = some starts ∧
        EnviaPedidosHost.main argv2 quantidade = some pedidos ∧
        EnviaSetupHostArquivo.main dados quantidade =
          some setups ∧
        starts.map
            (processar (Tna.setup confIni arquivo).calls fuel) =
          pedidos.map
            (fun pedido => some (.emitido portaCliente pedido)) ∧
        pedidos.map
            (processar (Tna.setup confIni arquivo).calls fuel) =
          pedidos.map (fun _ => some .descartado) ∧
        setups.map
            (processar (Tna.setup confIni arquivo).calls fuel) =
          setups.map (fun setup => some (.emitido 0 setup)) ∧
        ∀ configuracoes,
          EnviaConfiguracoesArquivo.main linhas quantidade =
              some configuracoes →
            configuracoes.map
                (processar (Tna.setup confIni arquivo).calls
                  fuel) =
              configuracoes.map
                (fun setup => some (.emitido 0 setup)) := by
  rcases main_pedidos argv2 quantidade with
    ⟨hStarts, hPedidos⟩
  have hRodada : 16 ≤ (rodadaDoArgumento argv2).length := by
    rw [rodadaDoArgumento, length_bytesDeDigitos]
  refine
    ⟨_, _, _, hStarts, hPedidos,
      EnviaSetupHostArquivo.main_eq dados quantidade,
      ?_, ?_, ?_, ?_⟩
  · rw [List.map_map, List.map_map]
    apply List.map_congr_left
    intro id _
    have hDest : (EnviaPedidos.destMac id).length = 6 := rfl
    have hRun :=
      processar_pacoteDe hConcluida hDest
        (rfl : macControlador.length = 6) hRodada
        not_comId_start hFuel
    rw [encaminhar_start] at hRun
    exact hRun
  · rw [List.map_map, List.map_map]
    apply List.map_congr_left
    intro id _
    have hDest : (EnviaPedidos.destMac id).length = 6 := rfl
    have hRun :=
      processar_pacoteDe hConcluida hDest
        (rfl : macControlador.length = 6) hRodada
        not_comId_pedido hFuel
    rw [encaminhar_pedido] at hRun
    exact hRun
  · rw [List.map_map, List.map_map]
    apply List.map_congr_left
    intro id _
    have hDest : (EnviaSetupHostArquivo.destMac id).length = 6 :=
      rfl
    rcases exists_cabecalho_setup (dados.row id) with
      ⟨resto, hCabecalho, hResto⟩
    have hRun :=
      processar_pacoteDe hConcluida hDest
        (rfl : macControlador.length = 6) hResto
        not_comId_setup hFuel
    rw [encaminhar_setup, ← hCabecalho] at hRun
    exact hRun
  · intro configuracoes hMain
    rw [EnviaConfiguracoesArquivo.main_eq] at hMain
    split at hMain
    · rw [← Option.some.inj hMain, List.map_map, List.map_map]
      apply List.map_congr_left
      intro id _
      have hDest :
          (EnviaConfiguracoesArquivo.destMac id).length = 6 :=
        rfl
      rcases exists_cabecalho_configuracoes
          ((carregarArquivoMemoria linhas).row id) with
        ⟨resto, hCabecalho, hResto⟩
      have hRun :=
        processar_pacoteDe hConcluida hDest
          (rfl : macControlador.length = 6) hResto
          not_comId_setup hFuel
      rw [encaminhar_setup, ← hCabecalho] at hRun
      exact hRun
    · cases hMain

/-
  A switch for one device, two Starts of a round of 32 digits,
  and two Setups of each program from the device file.
-/
theorem encaminhados_exemplo :
    ∃ starts pedidos setups configuracoes,
      EnviaPedidos.main
            "31323334353637383132333435363738".toList 2 =
          some starts ∧
        EnviaPedidosHost.main
            "31323334353637383132333435363738".toList 2 =
          some pedidos ∧
        EnviaSetupHostArquivo.main
            (carregarArquivoMemoria
              ([registroExemplo].map Registro.texto))
            2 =
          some setups ∧
        EnviaConfiguracoesArquivo.main
            ([registroExemplo].map Registro.texto) 2 =
          some configuracoes ∧
        starts.length = 2 ∧
        setups.length = 2 ∧
        starts.map
            (processar
              (Tna.setup 0
                ([registroExemplo].map Registro.texto)).calls
              1) =
          pedidos.map
            (fun pedido => some (.emitido portaCliente pedido)) ∧
        (setups ++ configuracoes).map
            (processar
              (Tna.setup 0
                ([registroExemplo].map Registro.texto)).calls
              1) =
          (setups ++ configuracoes).map
            (fun setup => some (.emitido 0 setup)) := by
  have hConcluida :=
    Tna.concluida_registros (by decide : 0 < 2 ^ 256)
      arquivoValido_exemplo
  rcases encaminhados hConcluida (Nat.le_refl 1)
      "31323334353637383132333435363738".toList
      (carregarArquivoMemoria
        ([registroExemplo].map Registro.texto))
      ([registroExemplo].map Registro.texto) 2 with
    ⟨starts, pedidos, setups, hStarts, hPedidos, hSetups, hSame,
      _, hPassam, hConfiguracoes⟩
  have hCabem :
      ([registroExemplo].map Registro.texto).length ≤
        EnviaConfiguracoesArquivo.idMax := by
    decide
  have hMain :=
    EnviaConfiguracoesArquivo.main_eq
      ([registroExemplo].map Registro.texto) 2
  rw [if_pos hCabem] at hMain
  have hDois := hStarts
  rw [(main_pedidos _ 2).1] at hDois
  have hDoisSetups := hSetups
  rw [EnviaSetupHostArquivo.main_eq] at hDoisSetups
  refine
    ⟨starts, pedidos, setups, _, hStarts, hPedidos, hSetups,
      hMain, ?_, ?_, hSame, ?_⟩
  · rw [← Option.some.inj hDois, List.length_map]
    rfl
  · rw [← Option.some.inj hDoisSetups, List.length_map]
    rfl
  · rw [List.map_append, hPassam, hConfiguracoes _ hMain,
      ← List.map_append]

end Tools

end P4dra
