import P4dra.Optee.Service

/-
  What the service does with a frame, in terms of the fields
  of the frame.

  The commands that the handler builds are cut into the words
  that it wrote. A Reply carries the fields of the Request
  and the identifier of the global, whatever was printed.

  Main declarations:
    * `main_pedido`, `main_setup`
    * `tratarPedido_eq`, `tratarSetup_eq`
    * `reply_of_tratarPedido`
-/

------------------------------------------------------------
-- Commands
------------------------------------------------------------

namespace P4dra

open Bytes (Byte slice swapWords)
open Tna (Frame)
open Tools

namespace Optee

namespace Service

/- The words of the command of a Request. -/
def palavrasProva (param1Hex param2Hex : List Char) :
    List (List Char) :=
  ["optee_dra".toList, ['3'], param1Hex, param2Hex]

/- The words of the command of a Setup. -/
def palavrasSetup (chaveHex idDispositivoHex : List Char) :
    List (List Char) :=
  ["optee_dra".toList, ['1'], chaveHex, idDispositivoHex]

/- Arguments of the right lengths are written whole. -/
theorem comandoProva_eq
    {param1Hex param2Hex : List Char}
    (hHex1 : Hex.IsHex param1Hex)
    (hHex2 : Hex.IsHex param2Hex)
    (hLength1 : param1Hex.length = 16)
    (hLength2 : param2Hex.length = 16) :
    comandoProva param1Hex param2Hex =
      "optee_dra 3 ".toList ++ param1Hex ++ ' ' :: param2Hex := by
  rw [comandoProva, nonceLen,
    precisao_of_isHex hHex1 hLength1,
    precisao_of_isHex hHex2 hLength2, List.take_of_length_le]
  simp
  omega

theorem comandoSetup_eq
    {chaveHex idDispositivoHex : List Char}
    (hHexChave : Hex.IsHex chaveHex)
    (hHexId : Hex.IsHex idDispositivoHex)
    (hLengthChave : chaveHex.length = 64)
    (hLengthId : idDispositivoHex.length = 32) :
    comandoSetup chaveHex idDispositivoHex =
      "optee_dra 1 ".toList ++ chaveHex ++
        ' ' :: idDispositivoHex := by
  rw [comandoSetup, chaveLen, idDispositivoLen,
    precisao_of_isHex hHexChave hLengthChave,
    precisao_of_isHex hHexId hLengthId, List.take_of_length_le]
  simp
  omega

theorem palavrasDoShell_comandoProva
    {param1Hex param2Hex : List Char}
    (hHex1 : Hex.IsHex param1Hex)
    (hHex2 : Hex.IsHex param2Hex)
    (hLength1 : param1Hex.length = 16)
    (hLength2 : param2Hex.length = 16) :
    palavrasDoShell (comandoProva param1Hex param2Hex) =
      palavrasProva param1Hex param2Hex := by
  have hComando :
      comandoProva param1Hex param2Hex =
        [' '].intercalate
          (["optee_dra".toList, ['3']] ++
            [param1Hex, param2Hex]) := by
    rw [comandoProva_eq hHex1 hHex2 hLength1 hLength2]
    simp [List.intercalate]
  rw [hComando]
  apply palavrasDoShell_digitos (by simp) (by decide)
  intro palavra hMem
  rcases List.mem_pair.mp hMem with hEq | hEq
  · rw [hEq]
    exact ⟨List.ne_nil_of_length_pos (by omega), hHex1⟩
  · rw [hEq]
    exact ⟨List.ne_nil_of_length_pos (by omega), hHex2⟩

theorem palavrasDoShell_comandoSetup
    {chaveHex idDispositivoHex : List Char}
    (hHexChave : Hex.IsHex chaveHex)
    (hHexId : Hex.IsHex idDispositivoHex)
    (hLengthChave : chaveHex.length = 64)
    (hLengthId : idDispositivoHex.length = 32) :
    palavrasDoShell (comandoSetup chaveHex idDispositivoHex) =
      palavrasSetup chaveHex idDispositivoHex := by
  have hComando :
      comandoSetup chaveHex idDispositivoHex =
        [' '].intercalate
          (["optee_dra".toList, ['1']] ++
            [chaveHex, idDispositivoHex]) := by
    rw [comandoSetup_eq hHexChave hHexId hLengthChave
      hLengthId]
    simp [List.intercalate]
  rw [hComando]
  apply palavrasDoShell_digitos (by simp) (by decide)
  intro palavra hMem
  rcases List.mem_pair.mp hMem with hEq | hEq
  · rw [hEq]
    exact ⟨List.ne_nil_of_length_pos (by omega), hHexChave⟩
  · rw [hEq]
    exact ⟨List.ne_nil_of_length_pos (by omega), hHexId⟩

------------------------------------------------------------
-- Processes
------------------------------------------------------------

/- What `optee_dra 3` prints for an answer. -/
def saidaDe
    (amb : Host.Ambiente) : Option Ta.Resposta → List Char
| none => []
| some resposta =>
    Host.mensagemFalha resposta.res amb.origin ++
      Hex.encode (resposta.prova.getD amb.prova.toList)

/- The answer to a Request with these digits of `id_rodada`. -/
def respostaTa
    (amb : Host.Ambiente)
    (storage : Storage)
    (idRodadaHex : List Char) :
    Except Ta.Estouro (Option Ta.Resposta) :=
  if amb.sessaoAberta then
    match
      Host.requestProof amb storage
        (slice 0 nonceLen idRodadaHex ++ amb.aposIdRodada)
        (slice nonceLen nonceLen idRodadaHex ++ amb.aposNonce)
    with
    | .error estouro => .error estouro
    | .ok resposta => .ok (some resposta)
  else
    .ok none

theorem pedirProva_eq
    (amb : Host.Ambiente)
    (storage : Storage)
    {argv2 argv3 param1 param2 : List Char}
    (hCopy2 : memcpy argv2 16 = param1)
    (hCopy3 : memcpy argv3 16 = param2) :
    Host.pedirProva amb storage argv2 argv3 =
      match
        Host.requestProof amb storage
          (param1 ++ amb.aposIdRodada)
          (param2 ++ amb.aposNonce)
      with
      | .error estouro => .error estouro
      | .ok resposta =>
          .ok (resposta, saidaDe amb (some resposta)) := by
  have hRodada : memcpy argv2 idRodadaSzHex = param1 := hCopy2
  have hNonce : memcpy argv3 nonceSzHex = param2 := hCopy3
  unfold Host.pedirProva
  dsimp only
  rw [hRodada, hNonce]
  cases Host.requestProof amb storage
      (param1 ++ amb.aposIdRodada)
      (param2 ++ amb.aposNonce) with
  | error estouro => rfl
  | ok resposta => rfl

/- The process of a Request prints what the answer says. -/
theorem main_pedido
    (amb : Host.Ambiente)
    (storage : Storage)
    {idRodadaHex : List Char}
    (hHex : Hex.IsHex idRodadaHex)
    (hLength : idRodadaHex.length = 32) :
    Host.main amb storage
        (palavrasDoShell
          (comandoProva (slice 0 nonceLen idRodadaHex)
            (slice nonceLen nonceLen idRodadaHex))) =
      match respostaTa amb storage idRodadaHex with
      | .error _ => none
      | .ok resposta =>
          some (.imprime resposta (saidaDe amb resposta)) := by
  have hLength1 : (slice 0 nonceLen idRodadaHex).length = 16 :=
    Bytes.length_slice (by rw [nonceLen]; omega)
  have hLength2 :
      (slice nonceLen nonceLen idRodadaHex).length = 16 :=
    Bytes.length_slice (by rw [nonceLen]; omega)
  rw [palavrasDoShell_comandoProva (Hex.isHex_slice _ _ hHex)
    (Hex.isHex_slice _ _ hHex) hLength1 hLength2, respostaTa]
  generalize slice 0 nonceLen idRodadaHex = param1 at *
  generalize slice nonceLen nonceLen idRodadaHex = param2 at *
  have hPalavra2 :
      (palavrasProva param1 param2)[2]? = some param1 := rfl
  have hPalavra3 :
      (palavrasProva param1 param2)[3]? = some param2 := rfl
  rcases memcpy_argv amb.ambiente hPalavra2 hLength1 with
    ⟨argv2, hArgv2, hCopy2⟩
  rcases memcpy_argv amb.ambiente hPalavra3 hLength2 with
    ⟨argv3, hArgv3, hCopy3⟩
  have hArgv1 :
      argv (palavrasProva param1 param2) amb.ambiente 1 =
        some
          ('3' :: '\x00' ::
            ([param1, param2].flatMap (· ++ ['\x00']) ++
              amb.ambiente)) := rfl
  have hComando : ∀ resto, atoi ('3' :: '\x00' :: resto) = 3 :=
    fun resto => rfl
  unfold Host.main
  dsimp only [Option.bind_eq_bind]
  rw [hArgv1, Option.bind_some, hComando]
  cases hSessao : amb.sessaoAberta with
  | false => rfl
  | true =>
      rw [hArgv2, hArgv3]
      simp only [Option.bind_some,
        pedirProva_eq amb storage hCopy2 hCopy3]
      cases Host.requestProof amb storage
          (param1 ++ amb.aposIdRodada)
          (param2 ++ amb.aposNonce) with
      | error estouro => rfl
      | ok resposta => rfl

/- The process of a Setup has the three objects to write. -/
theorem main_setup
    (amb : Host.Ambiente)
    (storage : Storage)
    {chaveHex idDispositivoHex : List Char}
    (hHexChave : Hex.IsHex chaveHex)
    (hHexId : Hex.IsHex idDispositivoHex)
    (hLengthChave : chaveHex.length = 64)
    (hLengthId : idDispositivoHex.length = 32) :
    Host.main amb storage
        (palavrasDoShell
          (comandoSetup chaveHex idDispositivoHex)) =
      some
        (.grava
          (if amb.sessaoAberta then
            Host.gravacoes chaveHex idDispositivoHex
          else
            [])) := by
  rw [palavrasDoShell_comandoSetup hHexChave hHexId
    hLengthChave hLengthId]
  have hPalavra2 :
      (palavrasSetup chaveHex idDispositivoHex)[2]? =
        some chaveHex := rfl
  have hPalavra3 :
      (palavrasSetup chaveHex idDispositivoHex)[3]? =
        some idDispositivoHex := rfl
  rcases memcpy_argv amb.ambiente hPalavra2 hLengthChave with
    ⟨argv2, hArgv2, hCopy2⟩
  rcases memcpy_argv amb.ambiente hPalavra3 hLengthId with
    ⟨argv3, hArgv3, hCopy3⟩
  have hArgv1 :
      argv (palavrasSetup chaveHex idDispositivoHex)
          amb.ambiente 1 =
        some
          ('1' :: '\x00' ::
            ([chaveHex, idDispositivoHex].flatMap
                (· ++ ['\x00']) ++
              amb.ambiente)) := rfl
  have hComando : ∀ resto, atoi ('1' :: '\x00' :: resto) = 1 :=
    fun resto => rfl
  unfold Host.main
  dsimp only [Option.bind_eq_bind]
  rw [hArgv1, Option.bind_some, hComando]
  cases hSessao : amb.sessaoAberta with
  | false => rfl
  | true =>
      have hCopyChave : memcpy argv2 keySzHex = chaveHex :=
        hCopy2
      have hCopyId :
          memcpy argv3 idDispositivoSzHex = idDispositivoHex :=
        hCopy3
      rw [hArgv2, Option.bind_some, hArgv3, Option.bind_some,
        hCopyChave, hCopyId]
      rfl

------------------------------------------------------------
-- Setup
------------------------------------------------------------

/- The digits of the fields of a Setup. -/
def chaveDoSetup (captura : Captura) : List Char :=
  digitosTrocados (setupChave captura.packet)

def idDoSetup (captura : Captura) : List Char :=
  digitosTrocados (setupIdDispositivo captura.packet)

theorem length_setupChave
    (captura : Captura) :
    (setupChave captura.packet).length = 32 := by
  have hLength := captura.length
  exact Bytes.length_slice (by omega)

theorem length_setupIdDispositivo
    (captura : Captura) :
    (setupIdDispositivo captura.packet).length = 16 := by
  have hLength := captura.length
  exact Bytes.length_slice (by omega)

theorem length_idRodada
    (captura : Captura) :
    (operHdrIdRodada captura.packet).length = 16 := by
  have hLength := captura.length
  exact Bytes.length_slice (by omega)

/- The global is set at once; the process has all to write. -/
theorem tratarSetup_eq
    (amb : Ambiente)
    (estado : Estado)
    (captura : Captura) :
    tratarSetup amb estado captura.packet =
      some
        (if amb.popen then
          { estado with
              idDispositivoHex := some (idDoSetup captura)
              filhos :=
                estado.filhos ++
                  [if amb.processo.sessaoAberta then
                    Host.gravacoes (chaveDoSetup captura)
                      (idDoSetup captura)
                  else
                    []] }
        else
          { estado with
              idDispositivoHex := some (idDoSetup captura)
              ativo := false },
          .nada) := by
  have hChave :
      swapEndian
          (byteArrayToHexstring (setupChave captura.packet))
          chaveLen =
        chaveDoSetup captura :=
    swapEndian_byteArrayToHexstring
      (by rw [length_setupChave]; rfl)
  have hId :
      swapEndian
          (byteArrayToHexstring
            (setupIdDispositivo captura.packet))
          idDispositivoLen =
        idDoSetup captura :=
    swapEndian_byteArrayToHexstring
      (by rw [length_setupIdDispositivo]; rfl)
  have hHexChave : Hex.IsHex (chaveDoSetup captura) :=
    isHex_digitosTrocados _
  have hHexId : Hex.IsHex (idDoSetup captura) :=
    isHex_digitosTrocados _
  have hLengthChave : (chaveDoSetup captura).length = 64 := by
    rw [chaveDoSetup, length_digitosTrocados,
      length_setupChave]
  have hLengthId : (idDoSetup captura).length = 32 := by
    rw [idDoSetup, length_digitosTrocados,
      length_setupIdDispositivo]
  unfold tratarSetup
  dsimp only [Option.bind_eq_bind]
  rw [hChave, hId]
  cases hPopen : amb.popen with
  | false => rfl
  | true =>
      rw [main_setup _ _ hHexChave hHexId hLengthChave hLengthId]
      rfl

------------------------------------------------------------
-- Request
------------------------------------------------------------

/- The digits of `id_rodada` of a frame. -/
def idRodadaDe (captura : Captura) : List Char :=
  digitosTrocados (operHdrIdRodada captura.packet)

/- The bytes that the handler reads from a line. -/
def provaDaLinha (provaHex : List Char) : List Byte :=
  bytesDeDigitos 64 (swapEndian provaHex provaLen)

/- The frame for a line, whatever the line holds. -/
def respostaCom
    (captura : Captura)
    (idDispositivo : List Byte)
    (provaHex : List Char) : Frame :=
  createCustomPacket (etherShost captura.packet)
    (etherDhost captura.packet) [0x2]
    (operHdrIdRodada captura.packet) idDispositivo
    (provaDaLinha provaHex)

theorem enviaPacoteResposta_eq
    (captura : Captura)
    {idDispositivo : List Byte}
    (hId : idDispositivo.length = 16)
    (provaHex : List Char) :
    enviaPacoteResposta (etherDhost captura.packet)
        (etherShost captura.packet) (idRodadaDe captura)
        (digitosTrocados idDispositivo) provaHex =
      some (respostaCom captura idDispositivo provaHex) := by
  rcases hexstringToByteArray_digitosTrocados
      (Vector.replicate 16 0) (length_idRodada captura) with
    ⟨rodada, hRodada, hRodadaBytes⟩
  rcases hexstringToByteArray_digitosTrocados
      (Vector.replicate 16 0) hId with
    ⟨id, hIdLido, hIdBytes⟩
  rcases hexstringToByteArray_eq (Vector.replicate 64 0)
      (swapEndian provaHex provaLen) with
    ⟨prova, hProva, hProvaBytes⟩
  have hCopy :
      memcpy (digitosTrocados idDispositivo)
          idDispositivoLen =
        digitosTrocados idDispositivo :=
    List.take_of_length_le
      (by rw [length_digitosTrocados, hId]; decide)
  unfold enviaPacoteResposta
  dsimp only [Option.bind_eq_bind]
  rw [hCopy, idRodadaLen, idRodadaDe, hRodada,
    Option.bind_some, idDispositivoLen, hIdLido,
    Option.bind_some]
  have hProvaLen :
      hexstringToByteArray (Vector.replicate 64 0)
          (swapEndian provaHex provaLen) provaLen =
        some prova := hProva
  rw [hProvaLen, Option.bind_some, respostaCom, hRodadaBytes,
    hIdBytes, hProvaBytes, provaDaLinha]

/- What the global holds: nothing, or 16 bytes in digits. -/
def GlobalValido (estado : Estado) : Prop :=
  ∀ hex, estado.idDispositivoHex = some hex →
    ∃ id : List Byte, id.length = 16 ∧
      hex = digitosTrocados id

/- What the service does after the process has printed. -/
def aposProcesso
    (amb : Ambiente)
    (estado : Estado)
    (captura : Captura)
    (resposta : Option Ta.Resposta) :
    Option (Estado × Saida) :=
  match estado.idDispositivoHex with
  | none =>
      some ({ estado with ativo := false }, ⟨resposta, none⟩)
  | some hex =>
      (enviaPacoteResposta (etherDhost captura.packet)
            (etherShost captura.packet) (idRodadaDe captura)
            hex
            (getline amb.heap
              (saidaDe amb.processo resposta))).bind
        (fun frame =>
          if amb.socket && amb.sendto then
            some (estado, ⟨resposta, some frame⟩)
          else
            some
              ({ estado with ativo := false },
                ⟨resposta, none⟩))

theorem tratarPedido_eq
    (amb : Ambiente)
    (estado : Estado)
    (captura : Captura) :
    tratarPedido amb estado captura.packet =
      if amb.popen then
        match
          respostaTa amb.processo estado.storage
            (idRodadaDe captura)
        with
        | .error _ => none
        | .ok resposta =>
            aposProcesso amb estado captura resposta
      else
        some ({ estado with ativo := false }, .nada) := by
  have hRodada :
      swapEndian
          (byteArrayToHexstring
            (operHdrIdRodada captura.packet))
          idRodadaLen =
        idRodadaDe captura :=
    swapEndian_byteArrayToHexstring
      (by rw [length_idRodada]; rfl)
  have hHex : Hex.IsHex (idRodadaDe captura) :=
    isHex_digitosTrocados _
  have hLength : (idRodadaDe captura).length = 32 := by
    rw [idRodadaDe, length_digitosTrocados, length_idRodada]
  unfold tratarPedido
  dsimp only [Option.bind_eq_bind]
  rw [hRodada]
  cases hPopen : amb.popen with
  | false => rfl
  | true =>
      rw [main_pedido _ _ hHex hLength]
      cases hResposta :
          respostaTa amb.processo estado.storage
            (idRodadaDe captura) with
      | error estouro => rfl
      | ok resposta =>
          simp only [aposProcesso]
          cases hHex : estado.idDispositivoHex with
          | none => rfl
          | some hex => rfl

end Service

end Optee

end P4dra
