import P4dra.Optee.Handler

/-
  What the service passes to the shell.

  The handler writes bytes of a frame into a command as digits
  and gives the command to `popen`. Whatever the bytes are, a
  command is its name and number and two arguments of digits,
  and the digits stand for the bytes of the fields with their
  words swapped.

  Main declarations:
    * `Service.comandoPopen`, `Service.packetHandler_eq`
    * `Service.Argumento`
    * `Service.comandoPopen_exato`
-/

------------------------------------------------------------
-- The Command
------------------------------------------------------------

namespace P4dra

open Bytes (Byte slice swapWords)
open Tna (Frame)
open Tools

namespace Optee

namespace Service

/- The argument of `popen` in `packet_handler`, if it is called. -/
def comandoPopen (packet : List Byte) : Option (List Char) :=
  if etherType packet = etherTypeCustom then
    let idRodadaHex :=
      swapEndian (byteArrayToHexstring (operHdrIdRodada packet))
        idRodadaLen
    let param1Hex := slice 0 nonceLen idRodadaHex
    let param2Hex := slice nonceLen nonceLen idRodadaHex
    if operHdrOper packet = [0x1] then
      some (comandoProva param1Hex param2Hex)
    else if operHdrOper packet = [0x5] then
      let chaveHex :=
        swapEndian (byteArrayToHexstring (setupChave packet))
          chaveLen
      let idDispositivoHex :=
        swapEndian
          (byteArrayToHexstring (setupIdDispositivo packet))
          idDispositivoLen
      some (comandoSetup chaveHex idDispositivoHex)
    else
      none
  else
    none

/- The globals when `popen` is called. -/
def antesDoPopen
    (estado : Estado)
    (packet : List Byte) : Estado :=
  if operHdrOper packet = [0x5] then
    { estado with
      idDispositivoHex :=
        some
          (swapEndian
            (byteArrayToHexstring (setupIdDispositivo packet))
            idDispositivoLen) }
  else
    estado

/- What the handler does with the process. -/
def depoisDoPopen
    (amb : Ambiente)
    (estado : Estado)
    (packet : List Byte) :
    Host.Processo → Option (Estado × Saida)
| .grava pendentes =>
    if operHdrOper packet = [0x5] then
      some
        ({ estado with filhos := estado.filhos ++ [pendentes] },
          .nada)
    else
      none
| .imprime resposta saida =>
    if operHdrOper packet = [0x5] then
      none
    else
      match estado.idDispositivoHex with
      | none =>
          some ({ estado with ativo := false }, ⟨resposta, none⟩)
      | some idDispositivoHex =>
          (enviaPacoteResposta (etherDhost packet)
                (etherShost packet)
                (swapEndian
                  (byteArrayToHexstring (operHdrIdRodada packet))
                  idRodadaLen)
                idDispositivoHex (getline amb.heap saida)).bind
            (fun frame =>
              if amb.socket && amb.sendto then
                some (estado, ⟨resposta, some frame⟩)
              else
                some
                  ({ estado with ativo := false },
                    ⟨resposta, none⟩))

/- The handler runs that command and no other one. -/
theorem packetHandler_eq
    (amb : Ambiente)
    (estado : Estado)
    (packet : List Byte) :
    packetHandler amb estado packet =
      match comandoPopen packet with
      | none => some (estado, .nada)
      | some comando =>
          if !amb.popen then
            some
              ({ antesDoPopen estado packet with
                  ativo := false },
                .nada)
          else
            (Host.main amb.processo estado.storage
                (palavrasDoShell comando)).bind
              (depoisDoPopen amb (antesDoPopen estado packet)
                packet) := by
  unfold packetHandler comandoPopen
  by_cases hType : etherType packet = etherTypeCustom
  · rw [if_pos hType, if_pos hType]
    by_cases hPedido : operHdrOper packet = [0x1]
    · have hSetup : operHdrOper packet ≠ [0x5] := by
        rw [hPedido]
        decide
      rw [if_pos hPedido, if_pos hPedido, antesDoPopen,
        if_neg hSetup]
      unfold tratarPedido
      cases amb.popen with
      | false => rfl
      | true =>
          simp only [Bool.not_true, Bool.false_eq_true, if_false,
            Option.bind_eq_bind]
          congr 1
          funext processo
          cases processo with
          | grava pendentes =>
              rw [depoisDoPopen, if_neg hSetup]
          | imprime resposta saida =>
              cases hId : estado.idDispositivoHex with
              | none =>
                  simp only [depoisDoPopen, if_neg hSetup, hId]
              | some hex =>
                  simp only [depoisDoPopen, if_neg hSetup, hId]
    · rw [if_neg hPedido, if_neg hPedido]
      by_cases hSetup : operHdrOper packet = [0x5]
      · rw [if_pos hSetup, if_pos hSetup, antesDoPopen,
          if_pos hSetup]
        unfold tratarSetup
        cases amb.popen with
        | false => rfl
        | true =>
            simp only [Bool.not_true, Bool.false_eq_true,
              if_false, Option.bind_eq_bind]
            congr 1
            funext processo
            cases processo with
            | grava pendentes =>
                rw [depoisDoPopen, if_pos hSetup]
            | imprime resposta saida =>
                rw [depoisDoPopen, if_pos hSetup]
      · rw [if_neg hSetup, if_neg hSetup]
  · rw [if_neg hType, if_neg hType]

------------------------------------------------------------
-- Its Arguments
------------------------------------------------------------

/-
  An argument of `n` lower-case digits, which stand for bytes
  of a frame with their words swapped.
-/
structure Argumento
    (n : Nat)
    (bytes : List Byte)
    (texto : List Char) : Prop where
  digitos : Hex.IsLowerHex texto
  length : texto.length = n
  decode : Hex.decode texto = swapWords bytes

/- The digits of a field of whole words are an argument. -/
theorem argumento_digitosTrocados
    {k : Nat}
    {bytes : List Byte}
    (hLength : bytes.length = 4 * k) :
    Argumento (8 * k) bytes (digitosTrocados bytes) where
  digitos :=
    Hex.isLowerHex_swapDigits (Hex.isLowerHex_encode bytes)
  length := by
    rw [length_digitosTrocados, hLength]
    omega
  decode := decode_digitosTrocados hLength

/- And so are those of its part from one word to another. -/
theorem Argumento.slice
    {n j m : Nat}
    {bytes : List Byte}
    {texto : List Char}
    (h : Argumento n bytes texto)
    (hLength : 4 * j + 4 * m ≤ bytes.length)
    (hTexto : 8 * j + 8 * m ≤ n) :
    Argumento (8 * m) (slice (4 * j) (4 * m) bytes)
      (slice (8 * j) (8 * m) texto) where
  digitos := Hex.isLowerHex_slice _ _ h.digitos
  length := by
    apply Bytes.length_slice
    rw [h.length]
    exact hTexto
  decode := by
    have hStart : 8 * j = 2 * (4 * j) := by omega
    have hSize : 8 * m = 2 * (4 * m) := by omega
    rw [hStart, hSize, Hex.decode_slice, h.decode,
      Bytes.slice_swapWords hLength]

theorem isHex_of_isLowerHex
    {texto : List Char}
    (h : Hex.IsLowerHex texto) :
    Hex.IsHex texto := by
  have hDigits : Hex.IsHex "0123456789abcdef".toList := by
    decide
  exact fun c hc => hDigits c (h c hc)

/- A part of a field of the frame. -/
theorem slice_operHdrIdRodada
    (packet : List Byte)
    (j size : Nat)
    (hj : j + size ≤ 16) :
    slice j size (operHdrIdRodada packet) =
      slice (15 + j) size packet := by
  rw [operHdrIdRodada, slice, slice, slice, List.drop_take,
    List.take_take, List.drop_drop]
  congr 1
  omega

/-
  The shell gets the name and the number of a command and two
  arguments of digits, for every frame that is long enough.
-/
theorem comandoPopen_exato
    (packet : List Byte)
    (hType : etherType packet = etherTypeCustom) :
    (operHdrOper packet = [0x1] → 31 ≤ packet.length →
      ∃ param1 param2 : List Char,
        Argumento 16 (slice 15 8 packet) param1 ∧
          Argumento 16 (slice 23 8 packet) param2 ∧
          comandoPopen packet =
            some
              ("optee_dra 3 ".toList ++ param1 ++
                ' ' :: param2) ∧
          ("optee_dra 3 ".toList ++ param1 ++
              ' ' :: param2).length < 512 ∧
          palavrasDoShell
              ("optee_dra 3 ".toList ++ param1 ++
                ' ' :: param2) =
            ["optee_dra".toList, ['3'], param1, param2]) ∧
      (operHdrOper packet = [0x5] → 79 ≤ packet.length →
        ∃ chave idDispositivo : List Char,
          Argumento 64 (setupChave packet) chave ∧
            Argumento 32 (setupIdDispositivo packet)
              idDispositivo ∧
            comandoPopen packet =
              some
                ("optee_dra 1 ".toList ++ chave ++
                  ' ' :: idDispositivo) ∧
            ("optee_dra 1 ".toList ++ chave ++
                ' ' :: idDispositivo).length < 512 ∧
            palavrasDoShell
                ("optee_dra 1 ".toList ++ chave ++
                  ' ' :: idDispositivo) =
              ["optee_dra".toList, ['1'], chave,
                idDispositivo]) := by
  constructor
  · intro hOper hLength
    have hRodada : (operHdrIdRodada packet).length = 16 :=
      Bytes.length_slice (by omega)
    have hDigitos :=
      argumento_digitosTrocados (k := 4) hRodada
    have hParam1 :=
      hDigitos.slice (j := 0) (m := 2) (by omega) (by omega)
    have hParam2 :=
      hDigitos.slice (j := 2) (m := 2) (by omega) (by omega)
    rw [slice_operHdrIdRodada _ _ _ (by omega)]
      at hParam1 hParam2
    have hHex1 := isHex_of_isLowerHex hParam1.digitos
    have hHex2 := isHex_of_isLowerHex hParam2.digitos
    have hComando :=
      comandoProva_eq hHex1 hHex2 hParam1.length hParam2.length
    have hPalavras :=
      palavrasDoShell_comandoProva hHex1 hHex2 hParam1.length
        hParam2.length
    rw [hComando] at hPalavras
    refine ⟨_, _, hParam1, hParam2, ?_, ?_, hPalavras⟩
    · unfold comandoPopen
      rw [if_pos hType, @swapEndian_byteArrayToHexstring _
        idRodadaLen (by rw [hRodada]; rfl)]
      dsimp only
      rw [if_pos hOper]
      exact congrArg some hComando
    · rw [List.length_append, List.length_append,
        List.length_cons, hParam1.length, hParam2.length]
      decide
  · intro hOper hLength
    have hPedido : operHdrOper packet ≠ [0x1] := by
      rw [hOper]
      decide
    have hChave : (setupChave packet).length = 32 :=
      Bytes.length_slice (by omega)
    have hId : (setupIdDispositivo packet).length = 16 :=
      Bytes.length_slice (by omega)
    have hArg1 := argumento_digitosTrocados (k := 8) hChave
    have hArg2 := argumento_digitosTrocados (k := 4) hId
    have hHex1 := isHex_of_isLowerHex hArg1.digitos
    have hHex2 := isHex_of_isLowerHex hArg2.digitos
    have hComando :=
      comandoSetup_eq hHex1 hHex2 hArg1.length hArg2.length
    have hPalavras :=
      palavrasDoShell_comandoSetup hHex1 hHex2 hArg1.length
        hArg2.length
    rw [hComando] at hPalavras
    refine ⟨_, _, hArg1, hArg2, ?_, ?_, hPalavras⟩
    · unfold comandoPopen
      rw [if_pos hType]
      dsimp only
      rw [if_neg hPedido, if_pos hOper,
        @swapEndian_byteArrayToHexstring _ chaveLen
          (by rw [hChave]; rfl),
        @swapEndian_byteArrayToHexstring _
          idDispositivoLen (by rw [hId]; rfl),
        hComando]
    · rw [List.length_append, List.length_append,
        List.length_cons, hArg1.length, hArg2.length]
      decide

/- A Request whose bytes are all `;` of the shell. -/
def pedidoDePontos : List Byte :=
  List.replicate 12 0x3b ++ (etherTypeCustom ++
    (0x1 :: List.replicate 16 0x3b))

theorem comandoPopen_exato_pontos :
    ∃ param1 param2 : List Char,
      Hex.IsLowerHex param1 ∧ Hex.IsLowerHex param2 ∧
        comandoPopen pedidoDePontos =
          some
            ("optee_dra 3 ".toList ++ param1 ++
              ' ' :: param2) := by
  rcases (comandoPopen_exato pedidoDePontos (by decide)).1
      (by decide) (by decide) with
    ⟨param1, param2, hParam1, hParam2, hComando, _, _⟩
  exact ⟨param1, param2, hParam1.digitos, hParam2.digitos,
    hComando⟩

end Service

end Optee

end P4dra
