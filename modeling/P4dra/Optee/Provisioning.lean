import P4dra.Optee.Writes
import P4dra.Optee.Replies
import P4dra.Tools.Senders

/-
  Provisioning a device.

  A Setup frame of `envia_setup_host_arquivo` is read back by
  the service, and the process that it starts stores what the
  frame was built from. The words of both fields are swapped
  by the sender and again by the service.

  Main declarations:
    * `exec_eventosSetup`
    * `chaveDoSetup_quadroSetup`, `idDoSetup_quadroSetup`
    * `Provisionado`, `provisionamento_registros`
-/

------------------------------------------------------------
-- A Setup And Its Process
------------------------------------------------------------

namespace P4dra

open Bytes (Byte slice swapWords)
open Tools
open Tools.EnviaSetupHostArquivo (cabecalho quadroSetup)
open Transition

namespace Optee

namespace Service

/- A Setup, and the writes of the `i`-th process. -/
def eventosSetup
    (amb : Ambiente)
    (captura : Captura)
    (i : Nat) : List Evento :=
  .captura amb captura ::
    List.replicate 3 (.gravacao i .sucesso)

/- What is stored after all the writes. -/
def gravados
    (storage : Storage)
    (key idDispositivo : List Char) : Storage :=
  Function.update
    (Function.update
      (Function.update storage idObjKey (some key))
      idObjDisp (some idDispositivo))
    idObjSecrets (some (key ++ idDispositivo))

theorem gravados_secrets
    (storage : Storage)
    (key idDispositivo : List Char) :
    gravados storage key idDispositivo idObjSecrets =
      some (key ++ idDispositivo) :=
  Function.update_self ..

theorem gravados_disp
    (storage : Storage)
    (key idDispositivo : List Char) :
    gravados storage key idDispositivo idObjDisp =
      some idDispositivo := by
  have hSecrets : idObjDisp ≠ idObjSecrets := by decide
  rw [gravados, Function.update_of_ne hSecrets,
    Function.update_self]

theorem gravados_key
    (storage : Storage)
    (key idDispositivo : List Char) :
    gravados storage key idDispositivo idObjKey =
      some key := by
  have hSecrets : idObjKey ≠ idObjSecrets := by decide
  have hDisp : idObjKey ≠ idObjDisp := by decide
  rw [gravados, Function.update_of_ne hSecrets,
    Function.update_of_ne hDisp, Function.update_self]

/- A turn of the process that was started last. -/
theorem tratar_gravacao_ultimo
    (hex : Option (List Char))
    (storage : Storage)
    (filhos : List (List Host.Gravacao))
    (objId data : List Char)
    (resto : List Host.Gravacao) :
    tratar
        ⟨hex, storage, filhos ++ [(objId, data) :: resto], true⟩
        (.gravacao filhos.length .sucesso) =
      some
        (⟨hex, Function.update storage objId (some data),
            filhos ++ [resto], true⟩,
          .nada) := by
  have hSucede : Host.sucede .sucesso = true := by decide
  rw [tratar]
  simp only [List.getElem?_concat_length,
    Host.proximaGravacao_cons, hSucede, if_true]
  rw [List.set_append_right _ _ (Nat.le_refl _), Nat.sub_self]
  rfl

/- All the writes of a Setup, one after the other. -/
theorem exec_eventosSetup
    {amb : Ambiente}
    {estado : Estado}
    {captura : Captura}
    (hAtivo : estado.ativo = true)
    (hSetup : Setup captura.packet)
    (hPopen : amb.popen = true)
    (hSessao : amb.processo.sessaoAberta = true) :
    ∃ steps,
      exec tratar estado
          (eventosSetup amb captura estado.filhos.length) =
        some
          ({ idDispositivoHex := some (idDoSetup captura)
             storage :=
              gravados estado.storage (chaveDoSetup captura)
                (idDoSetup captura)
             filhos := estado.filhos ++ [[]]
             ativo := true },
            steps) := by
  have hPedido : operHdrOper captura.packet ≠ [0x1] := by
    rw [hSetup.2]
    decide
  have hCaptura :
      tratar estado (.captura amb captura) =
        some
          ({ estado with
              idDispositivoHex := some (idDoSetup captura)
              filhos :=
                estado.filhos ++
                  [Host.gravacoes (chaveDoSetup captura)
                    (idDoSetup captura)] },
            .nada) := by
    rw [tratar, if_pos hAtivo, packetHandler, if_pos hSetup.1,
      if_neg hPedido, if_pos hSetup.2, tratarSetup_eq,
      if_pos hPopen, if_pos hSessao]
  rcases estado with ⟨hex, storage, filhos, ativo⟩
  cases hAtivo
  have hGravacao :=
    tratar_gravacao_ultimo (some (idDoSetup captura))
  apply exists_execFrom_cons hCaptura
  apply exists_execFrom_cons (hGravacao storage filhos _ _ _)
  apply exists_execFrom_cons
    (hGravacao (Function.update storage _ _) filhos _ _ _)
  apply exists_execFrom_cons
    (hGravacao
      (Function.update (Function.update storage _ _) _ _)
      filhos _ _ _)
  exact ⟨[], rfl⟩

------------------------------------------------------------
-- Fields Of A Setup Frame
------------------------------------------------------------

/- A field whose words are swapped on both sides. -/
theorem digitosTrocados_bytesDeDigitos
    {k : Nat}
    {texto : List Char}
    (hHex : Hex.IsHex texto)
    (hLength : texto.length = 2 * (4 * k)) :
    digitosTrocados
        (bytesDeDigitos (4 * k)
          (swapEndian texto (2 * (4 * k)))) =
      texto.map Char.toLower := by
  have hSwap :
      swapEndian texto (2 * (4 * k)) = Hex.swapDigits texto :=
    swapEndian_of_length hLength
  have hBytes :
      bytesDeDigitos (4 * k) (Hex.swapDigits texto) =
        swapWords (Hex.decode texto) := by
    have hDecode :=
      bytesDeDigitos_of_isHex (Hex.isHex_swapDigits hHex)
        (by rw [Hex.length_swapDigits, hLength]) []
    rw [List.append_nil] at hDecode
    rw [hDecode, Hex.decode_swapDigits k _ (by omega)]
  have hSwapped :
      (swapWords (Hex.decode texto)).length = 4 * k := by
    rw [Bytes.length_swapWords, Hex.length_decode, hLength]
    omega
  rw [hSwap, hBytes, digitosTrocados,
    Hex.swapDigits_encode k _ hSwapped,
    Bytes.swapWords_swapWords,
    Hex.encode_decode (4 * k) texto hHex hLength]

/- The fields of a frame with the header of a row. -/
theorem campos_pacoteDe
    (destMac : List Byte)
    (row : IdChaveProva)
    (resto : List Byte)
    (hDest : destMac.length = 6) :
    let packet :=
      pacoteDe destMac macControlador (cabecalho row) ++ resto
    Setup packet ∧
      setupChave packet =
        bytesDeDigitos 32
          (swapEndian row.chave.toList chaveLen) ∧
      setupIdDispositivo packet =
        bytesDeDigitos 16
          (swapEndian row.idDispositivo.toList
            idDispositivoLen) := by
  have hChave := length_bytesDeDigitos 32
    (swapEndian row.chave.toList chaveLen)
  have hId := length_bytesDeDigitos 16
    (swapEndian row.idDispositivo.toList idDispositivoLen)
  rw [cabecalho]
  generalize bytesDeDigitos 32
    (swapEndian row.chave.toList chaveLen) = chave at *
  generalize bytesDeDigitos 16
    (swapEndian row.idDispositivo.toList idDispositivoLen) =
      id at *
  have hMacs : (destMac ++ macControlador).length = 12 := by
    rw [List.length_append, hDest]
    rfl
  have hHeader :
      ([0x5] ++ List.replicate 16 0 : List Byte).length =
        17 := rfl
  have hAll :
      ([0x5] ++ List.replicate 16 0 ++ chave : List Byte).length =
        49 := by
    rw [List.length_append, hHeader, hChave]
  refine ⟨⟨?_, ?_⟩, ?_, ?_⟩
  · have hLength : etherTypeCustom.length = 2 := rfl
    have hSlice := Bytes.slice_middle
      ([0x5] ++ (List.replicate 16 0 ++ (chave ++ id)) ++ resto)
      hMacs hLength
    refine (congrArg (slice 12 2) ?_).trans hSlice
    simp only [pacoteDe, List.append_assoc]
  · have hLength : ([0x5] : List Byte).length = 1 := rfl
    have hSlice := Bytes.slice_front
      (List.replicate 16 0 ++ (chave ++ id) ++ resto) hLength
    refine (slice_pacoteDe hDest _ resto 0 1).trans ?_
    rw [List.append_assoc]
    exact hSlice
  · have hSlice := Bytes.slice_middle (id ++ resto) hHeader
      hChave
    refine (slice_pacoteDe hDest _ resto 17 32).trans ?_
    refine (congrArg (slice 17 32) ?_).trans hSlice
    simp only [List.append_assoc]
  · have hSlice := Bytes.slice_middle resto hAll hId
    refine (slice_pacoteDe hDest _ resto 49 16).trans ?_
    refine (congrArg (slice 49 16) ?_).trans hSlice
    simp only [List.append_assoc]

/- The frame of a row that holds a record. -/
theorem campos_quadroSetup
    {registros : List Registro}
    {r : Registro}
    {k : Nat}
    (hRegistro : registros[k]? = some r)
    {captura : Captura}
    {resto : List Byte}
    (hCaptura :
      captura.packet =
        quadroSetup
            (carregarArquivoMemoria
              (registros.map Registro.texto)) k ++
          resto) :
    Setup captura.packet ∧
      chaveDoSetup captura = r.chave.map Char.toLower ∧
      idDoSetup captura =
        r.idDispositivo.map Char.toLower := by
  rcases row_registros hRegistro with ⟨hId, hChave⟩
  rcases campos_pacoteDe (EnviaSetupHostArquivo.destMac k)
      ((carregarArquivoMemoria
        (registros.map Registro.texto)).row k) resto rfl with
    ⟨hSetup, hSetupChave, hSetupId⟩
  rw [hId] at hSetupId
  rw [hChave] at hSetupChave
  rw [chaveDoSetup, idDoSetup, hCaptura, quadroSetup,
    hSetupChave, hSetupId]
  exact
    ⟨hSetup,
      digitosTrocados_bytesDeDigitos (k := 8) r.hexChave
        r.lengthChave,
      digitosTrocados_bytesDeDigitos (k := 4) r.hexId
        r.lengthId⟩

------------------------------------------------------------
-- Provisioning From A File
------------------------------------------------------------

/- The service and the objects hold a record's secrets. -/
structure Provisionado
    (estado : Estado)
    (r : Registro) : Prop where
  ativo : estado.ativo = true
  idGlobal :
    estado.idDispositivoHex =
      some (r.idDispositivo.map Char.toLower)
  key :
    estado.storage idObjKey = some (r.chave.map Char.toLower)
  disp :
    estado.storage idObjDisp =
      some (r.idDispositivo.map Char.toLower)
  secrets :
    estado.storage idObjSecrets =
      some ((r.chave ++ r.idDispositivo).map Char.toLower)

theorem provisionado_of_quadroSetup
    {registros : List Registro}
    {r : Registro}
    {k : Nat}
    (hRegistro : registros[k]? = some r)
    {captura : Captura}
    {resto : List Byte}
    (hCaptura :
      captura.packet =
        quadroSetup
            (carregarArquivoMemoria
              (registros.map Registro.texto)) k ++
          resto)
    {amb : Ambiente}
    {estado : Estado}
    (hAtivo : estado.ativo = true)
    (hPopen : amb.popen = true)
    (hSessao : amb.processo.sessaoAberta = true) :
    ∃ last steps,
      exec tratar estado
            (eventosSetup amb captura estado.filhos.length) =
          some (last, steps) ∧
        Provisionado last r := by
  rcases campos_quadroSetup hRegistro hCaptura with
    ⟨hSetup, hChave, hId⟩
  rcases exec_eventosSetup hAtivo hSetup hPopen hSessao with
    ⟨steps, hRun⟩
  refine ⟨_, steps, hRun, ?_⟩
  rw [hChave, hId]
  exact
    { ativo := rfl
      idGlobal := rfl
      key :=
        gravados_key estado.storage
          (r.chave.map Char.toLower)
          (r.idDispositivo.map Char.toLower)
      disp :=
        gravados_disp estado.storage
          (r.chave.map Char.toLower)
          (r.idDispositivo.map Char.toLower)
      secrets := by
        rw [List.map_append]
        exact
          gravados_secrets estado.storage
            (r.chave.map Char.toLower)
            (r.idDispositivo.map Char.toLower) }

/-
  Every frame that is sent for a file provisions a device
  with the record of its turn.
-/
theorem provisionamento_registros
    (registros : List Registro)
    (quantidade : Nat)
    (hMax :
      registros.length ≤ EnviaSetupHostArquivo.idMax)
    (hQuantidade : quantidade ≤ registros.length) :
    ∃ frames,
      EnviaSetupHostArquivo.main
            (carregarArquivoMemoria
              (registros.map Registro.texto)) quantidade =
          some frames ∧
        frames.length = quantidade ∧
        ∀ (k : Nat) (r : Registro) (frame : Tna.Frame),
          registros[k]? = some r →
          frames[k]? = some frame →
          ∀ (captura : Captura) (resto : List Byte),
            captura.packet = frame ++ resto →
            ∀ (amb : Ambiente) (estado : Estado),
              estado.ativo = true →
              amb.popen = true →
              amb.processo.sessaoAberta = true →
              ∃ last steps,
                exec tratar estado
                      (eventosSetup amb captura
                        estado.filhos.length) =
                    some (last, steps) ∧
                  Provisionado last r := by
  have hMain :=
    EnviaSetupHostArquivo.main_eq
      (carregarArquivoMemoria (registros.map Registro.texto))
      quantidade
  refine ⟨_, hMain, ?_, ?_⟩
  · rw [List.length_map, List.length_range]
    exact Nat.min_eq_left (Nat.le_trans hQuantidade hMax)
  · intro k r frame hRegistro hFrame captura resto hCaptura
      amb estado hAtivo hPopen hSessao
    rw [EnviaSetupHostArquivo.quadroSetup_of_main hMain
      hFrame] at hCaptura
    exact
      provisionado_of_quadroSetup hRegistro hCaptura hAtivo
        hPopen hSessao

/- The only frame for a file of one record, as captured. -/
def capturaExemplo : Captura where
  packet :=
    quadroSetup
      (carregarArquivoMemoria
        ([registroExemplo].map Registro.texto)) 0
  length := by decide +kernel

theorem provisionamento_registros_exemplo :
    ∃ last steps,
      exec tratar (estadoInicial .empty)
            (eventosSetup ambienteZero capturaExemplo 0) =
          some (last, steps) ∧
        Provisionado last registroExemplo := by
  rcases provisionamento_registros [registroExemplo] 1
      (by decide) (by decide) with
    ⟨frames, hFrames, hLength, hEach⟩
  have hMain :
      EnviaSetupHostArquivo.main
          (carregarArquivoMemoria
            ([registroExemplo].map Registro.texto)) 1 =
        some [capturaExemplo.packet] :=
    EnviaSetupHostArquivo.main_eq _ 1
  have hFrame :
      frames = [capturaExemplo.packet] :=
    Option.some.inj (hFrames.symm.trans hMain)
  exact
    hEach 0 registroExemplo capturaExemplo.packet rfl
      (by rw [hFrame]; rfl) capturaExemplo []
      (List.append_nil _).symm ambienteZero
      (estadoInicial .empty) rfl rfl (by decide)

end Service

end Optee

end P4dra
