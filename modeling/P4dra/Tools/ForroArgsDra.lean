import P4dra.Tna.WireFields
import P4dra.Tools.Hexstring

/-
  The program `forro-args-dra`, which prints the proof of the
  parameters on its command line.

  Main declarations:
    * `ForroArgsDra.main`
    * `ForroArgsDra.main_eq`
-/

------------------------------------------------------------
-- Process Memory
------------------------------------------------------------

namespace P4dra

open Bytes (Byte)

namespace Tools

namespace ForroArgsDra

/-
  What the variables of `main` hold before `main` sets them,
  and the characters in memory after each buffer of digits.
-/
structure Memoria where
  input : State
  mensagem : Vector Byte 64
  key : Vector Byte 32
  nonce : Vector Byte 8
  idRodada : Vector Byte 8
  idDispositivo : Vector Byte 16
  configuracao : Vector Byte 32
  aposKey : List Char
  aposNonce : List Char
  aposIdRodada : List Char
  aposIdDispositivo : List Char
  aposConfiguracao : List Char
  ambiente : List Char

/- A terminator follows every buffer; the message is zero. -/
structure Memoria.Limpa (memoria : Memoria) : Prop where
  mensagem : memoria.mensagem = Vector.replicate 64 0
  aposKey : memoria.aposKey.head? = some '\x00'
  aposNonce : memoria.aposNonce.head? = some '\x00'
  aposIdRodada : memoria.aposIdRodada.head? = some '\x00'
  aposIdDispositivo :
    memoria.aposIdDispositivo.head? = some '\x00'
  aposConfiguracao :
    memoria.aposConfiguracao.head? = some '\x00'

/- Memory of zeros. -/
def memoriaZero : Memoria where
  input := Vector.replicate 16 0
  mensagem := Vector.replicate 64 0
  key := Vector.replicate 32 0
  nonce := Vector.replicate 8 0
  idRodada := Vector.replicate 8 0
  idDispositivo := Vector.replicate 16 0
  configuracao := Vector.replicate 32 0
  aposKey := ['\x00']
  aposNonce := ['\x00']
  aposIdRodada := ['\x00']
  aposIdDispositivo := ['\x00']
  aposConfiguracao := ['\x00']
  ambiente := []

theorem limpa_memoriaZero : memoriaZero.Limpa :=
  ⟨rfl, rfl, rfl, rfl, rfl, rfl⟩

------------------------------------------------------------
-- Program
------------------------------------------------------------

/-
  `main` on a command line: the text that it prints. A null
  argument and a conversion past the end of an array are
  errors.
-/
def main
    (memoria : Memoria)
    (palavras : List (List Char)) : Option (List Char) := do
  let argv1 ← argv palavras memoria.ambiente 1
  let key ← hexstringToByteArrayStrlen memoria.key
    (memcpy argv1 64 ++ memoria.aposKey)
  let argv2 ← argv palavras memoria.ambiente 2
  let nonce ← hexstringToByteArrayStrlen memoria.nonce
    (memcpy argv2 16 ++ memoria.aposNonce)
  let argv3 ← argv palavras memoria.ambiente 3
  let idRodada ← hexstringToByteArrayStrlen memoria.idRodada
    (memcpy argv3 16 ++ memoria.aposIdRodada)
  let argv4 ← argv palavras memoria.ambiente 4
  let idDispositivo ← hexstringToByteArrayStrlen
    memoria.idDispositivo
    (memcpy argv4 32 ++ memoria.aposIdDispositivo)
  let argv5 ← argv palavras memoria.ambiente 5
  let configuracao ← hexstringToByteArrayStrlen
    memoria.configuracao
    (memcpy argv5 64 ++ memoria.aposConfiguracao)
  let input :=
    Forro.estadoProva memoria.input key.toList idRodada.toList
      nonce.toList idDispositivo.toList configuracao.toList
  let cifrado :=
    (Forro.forroEncryptBytes input memoria.mensagem.toList).2
  some (Hex.encode cifrado)

/- Encrypting 64 zeros gives the output of the cipher. -/
theorem forroEncryptBytes_zeros
    (input : State) :
    (Forro.forroEncryptBytes input (List.replicate 64 0)).2 =
      Forro.forro input := by
  have hLength := Forro.length_forro input
  have hXor :
      Forro.xorBytes (List.replicate 64 0)
          (Forro.forro input) =
        Forro.forro input := by
    rw [Forro.xorBytes, ← hLength]
    apply List.ext_getElem
    · simp
    · intro i hi hi'
      simp
  rw [Forro.forroEncryptBytes, if_neg (by simp),
    if_pos (by simp), hXor]

/- The words of a command line of the expected lengths. -/
structure Argumentos
    (palavras : List (List Char))
    (chave nonce idRodada idDispositivo : List Char) :
    Prop where
  argv1 : palavras[1]? = some chave
  argv2 : palavras[2]? = some nonce
  argv3 : palavras[3]? = some idRodada
  argv4 : palavras[4]? = some idDispositivo
  hexChave : Hex.IsHex chave
  hexNonce : Hex.IsHex nonce
  hexIdRodada : Hex.IsHex idRodada
  hexIdDispositivo : Hex.IsHex idDispositivo
  lengthChave : chave.length = 64
  lengthNonce : nonce.length = 16
  lengthIdRodada : idRodada.length = 16
  lengthIdDispositivo : idDispositivo.length = 32

/-
  The text for digits in the first four arguments and a fifth
  one from which `configuracao` is read, over any contents of
  the message and of the array.
-/
theorem main_eq_mensagem
    {memoria : Memoria}
    (hMemoria : memoria.Limpa)
    {palavras : List (List Char)}
    {chave nonce idRodada idDispositivo argv5 : List Char}
    (hArgumentos :
      Argumentos palavras chave nonce idRodada idDispositivo)
    (mensagem : Vector Byte 64)
    {inicial configuracao : Vector Byte 32}
    (hArgv5 : argv palavras memoria.ambiente 5 = some argv5)
    (hConfiguracao :
      hexstringToByteArrayStrlen inicial
          (memcpy argv5 64 ++ memoria.aposConfiguracao) =
        some configuracao) :
    main
        { memoria with
            mensagem := mensagem
            configuracao := inicial } palavras =
      some
        (Hex.encode
          (Forro.forroEncryptBytes
            (Forro.estadoProva memoria.input (Hex.decode chave)
              (Hex.decode idRodada) (Hex.decode nonce)
              (Hex.decode idDispositivo)
              configuracao.toList)
            mensagem.toList).2) := by
  rcases memcpy_argv memoria.ambiente
      hArgumentos.argv1 hArgumentos.lengthChave with
    ⟨argv1, hArgv1, hCopy1⟩
  rcases memcpy_argv memoria.ambiente
      hArgumentos.argv2 hArgumentos.lengthNonce with
    ⟨argv2, hArgv2, hCopy2⟩
  rcases memcpy_argv memoria.ambiente
      hArgumentos.argv3 hArgumentos.lengthIdRodada with
    ⟨argv3, hArgv3, hCopy3⟩
  rcases memcpy_argv memoria.ambiente
      hArgumentos.argv4 hArgumentos.lengthIdDispositivo with
    ⟨argv4, hArgv4, hCopy4⟩
  rcases hexstringToByteArrayStrlen_of_isHex memoria.key
      hArgumentos.hexChave hArgumentos.lengthChave
      hMemoria.aposKey with
    ⟨key, hKey, hKeyBytes⟩
  rcases hexstringToByteArrayStrlen_of_isHex memoria.nonce
      hArgumentos.hexNonce hArgumentos.lengthNonce
      hMemoria.aposNonce with
    ⟨nonceLido, hNonce, hNonceBytes⟩
  rcases hexstringToByteArrayStrlen_of_isHex memoria.idRodada
      hArgumentos.hexIdRodada hArgumentos.lengthIdRodada
      hMemoria.aposIdRodada with
    ⟨rodada, hRodada, hRodadaBytes⟩
  rcases hexstringToByteArrayStrlen_of_isHex
      memoria.idDispositivo hArgumentos.hexIdDispositivo
      hArgumentos.lengthIdDispositivo
      hMemoria.aposIdDispositivo with
    ⟨id, hId, hIdBytes⟩
  unfold main
  dsimp only [Option.bind_eq_bind]
  rw [hArgv1, Option.bind_some, hCopy1, hKey, Option.bind_some,
    hArgv2, Option.bind_some, hCopy2, hNonce, Option.bind_some,
    hArgv3, Option.bind_some, hCopy3, hRodada,
    Option.bind_some, hArgv4, Option.bind_some, hCopy4, hId,
    Option.bind_some, hArgv5, Option.bind_some, hConfiguracao,
    Option.bind_some, hKeyBytes, hNonceBytes, hRodadaBytes,
    hIdBytes]

/-
  The proof for digits in the first four arguments and a
  fifth one from which `configuracao` is read.
-/
theorem main_eq
    {memoria : Memoria}
    (hMemoria : memoria.Limpa)
    {palavras : List (List Char)}
    {chave nonce idRodada idDispositivo argv5 : List Char}
    (hArgumentos :
      Argumentos palavras chave nonce idRodada idDispositivo)
    {configuracao : Vector Byte 32}
    (hArgv5 : argv palavras memoria.ambiente 5 = some argv5)
    (hConfiguracao :
      hexstringToByteArrayStrlen memoria.configuracao
          (memcpy argv5 64 ++ memoria.aposConfiguracao) =
        some configuracao) :
    main memoria palavras =
      some
        (Hex.encode
          (Forro.forro
            (Forro.estadoProva memoria.input (Hex.decode chave)
              (Hex.decode idRodada) (Hex.decode nonce)
              (Hex.decode idDispositivo)
              configuracao.toList))) := by
  have hMain := main_eq_mensagem hMemoria hArgumentos
    memoria.mensagem hArgv5 hConfiguracao
  rw [hMemoria.mensagem, Vector.toList_replicate,
    forroEncryptBytes_zeros, ← hMemoria.mensagem] at hMain
  exact hMain

/- A configuration of 64 digits is read as its bytes. -/
theorem main_of_configuracao
    {memoria : Memoria}
    (hMemoria : memoria.Limpa)
    {palavras : List (List Char)}
    {chave nonce idRodada idDispositivo configuracao :
      List Char}
    (hArgumentos :
      Argumentos palavras chave nonce idRodada idDispositivo)
    (hArgv5 : palavras[5]? = some configuracao)
    (hHex : Hex.IsHex configuracao)
    (hLength : configuracao.length = 64) :
    main memoria palavras =
      some
        (Hex.encode
          (Forro.forro
            (Forro.estadoProva memoria.input (Hex.decode chave)
              (Hex.decode idRodada) (Hex.decode nonce)
              (Hex.decode idDispositivo)
              (Hex.decode configuracao)))) := by
  rcases memcpy_argv memoria.ambiente hArgv5
      hLength with
    ⟨argv5, hArgv, hCopy⟩
  rcases hexstringToByteArrayStrlen_of_isHex
      memoria.configuracao hHex hLength
      hMemoria.aposConfiguracao with
    ⟨lida, hLida, hBytes⟩
  rw [← hCopy] at hLida
  rw [main_eq hMemoria hArgumentos hArgv hLida, hBytes]

------------------------------------------------------------
-- Uninitialized Memory
------------------------------------------------------------

/-
  What is printed is the same over any contents of the message
  and of the array of the configuration.
-/
def DependeSoDosArgumentos
    (memoria : Memoria)
    (palavras : List (List Char)) : Prop :=
  ∀ (mensagem mensagem' : Vector Byte 64)
      (configuracao configuracao' : Vector Byte 32),
    main
        { memoria with
            mensagem := mensagem
            configuracao := configuracao } palavras =
      main
        { memoria with
            mensagem := mensagem'
            configuracao := configuracao' } palavras

/- A string between its terminator and 64 characters fits. -/
theorem hexstringToByteArrayStrlen_memcpy
    (inicial : Vector Byte 32)
    (texto : List Char)
    {apos : List Char}
    (hApos : apos.head? = some '\x00') :
    ∃ lido,
      hexstringToByteArrayStrlen inicial
          (memcpy texto 64 ++ apos) =
        some lido := by
  have hStrlen :
      Hex.strlen (memcpy texto 64 ++ apos) ≤ 64 := by
    have hCopy : (memcpy texto 64).length ≤ 64 :=
      List.length_take_le 64 texto
    rw [Hex.strlen, List.takeWhile_append]
    split
    · cases apos with
      | nil => cases hApos
      | cons c resto =>
          have hc : c = '\x00' := Option.some.inj hApos
          rw [hc]
          simpa using hCopy
    · exact
        Nat.le_trans
          (List.takeWhile_prefix _).length_le hCopy
  have hRoom :
      Hex.strlen (memcpy texto 64 ++ apos) / 2 ≤ 32 := by
    omega
  exact
    ⟨_, by
      rw [hexstringToByteArrayStrlen, hexstringToByteArray,
        if_pos hRoom]⟩

/- Equal texts encrypted with one state are equal. -/
theorem forroEncryptBytes_inj
    {input : State}
    {m m' : List Byte}
    (hLength : m.length = 64)
    (hLength' : m'.length = 64) :
    (Forro.forroEncryptBytes input m).2 =
        (Forro.forroEncryptBytes input m').2 ↔
      m = m' := by
  have hForro := Forro.length_forro input
  have hEncrypt : ∀ {m : List Byte}, m.length = 64 →
      (Forro.forroEncryptBytes input m).2 =
        Forro.xorBytes m (Forro.forro input) := by
    intro m hm
    rw [Forro.forroEncryptBytes, if_neg (by omega),
      if_pos (by omega)]
  constructor
  · intro hSame
    rw [hEncrypt hLength, hEncrypt hLength'] at hSame
    apply List.ext_getElem (hLength.trans hLength'.symm)
    intro i hi hi'
    have hi'' : i < (Forro.forro input).length := by omega
    have hByte :
        (Forro.xorBytes m (Forro.forro input))[i]? =
          (Forro.xorBytes m' (Forro.forro input))[i]? := by
      rw [hSame]
    simp only [Forro.xorBytes, List.getElem?_zipWith,
      List.getElem?_eq_getElem hi, List.getElem?_eq_getElem hi',
      List.getElem?_eq_getElem hi'', Option.some.injEq] at hByte
    exact (BitVec.xor_left_inj _).mp hByte
  · intro hSame
    rw [hSame]

/-
  Whatever the arguments are, a proof is printed, and another
  message prints another one.
-/
theorem main_depende_da_mensagem
    {memoria : Memoria}
    (hMemoria : memoria.Limpa)
    {palavras : List (List Char)}
    {chave nonce idRodada idDispositivo texto : List Char}
    (hArgumentos :
      Argumentos palavras chave nonce idRodada idDispositivo)
    (hArgv5 : palavras[5]? = some texto) :
    (∀ (mensagem mensagem' : Vector Byte 64)
        (configuracao : Vector Byte 32),
      main
            { memoria with
                mensagem := mensagem
                configuracao := configuracao } palavras =
          main
            { memoria with
                mensagem := mensagem'
                configuracao := configuracao } palavras ↔
        mensagem = mensagem') ∧
      ¬ DependeSoDosArgumentos memoria palavras := by
  rcases argv_eq_some memoria.ambiente hArgv5 with
    ⟨resto, hArgv⟩
  have hCada :
      ∀ (mensagem mensagem' : Vector Byte 64)
        (configuracao : Vector Byte 32),
      main
            { memoria with
                mensagem := mensagem
                configuracao := configuracao } palavras =
          main
            { memoria with
                mensagem := mensagem'
                configuracao := configuracao } palavras ↔
        mensagem = mensagem' := by
    intro mensagem mensagem' configuracao
    rcases hexstringToByteArrayStrlen_memcpy configuracao
        (texto ++ '\x00' :: resto) hMemoria.aposConfiguracao
      with ⟨lida, hLida⟩
    rw [main_eq_mensagem hMemoria hArgumentos mensagem hArgv
        hLida,
      main_eq_mensagem hMemoria hArgumentos mensagem' hArgv
        hLida,
      Option.some.injEq]
    constructor
    · intro hSame
      have hBytes := congrArg Hex.decode hSame
      rw [Hex.decode_encode, Hex.decode_encode,
        forroEncryptBytes_inj mensagem.length_toList
          mensagem'.length_toList] at hBytes
      exact Vector.toList_inj.mp hBytes
    · intro hSame
      rw [hSame]
  refine ⟨hCada, ?_⟩
  intro hDepende
  have hSame :=
    (hCada (Vector.replicate 64 0) (Vector.replicate 64 1)
      memoria.configuracao).mp
      (hDepende _ _ memoria.configuracao memoria.configuracao)
  revert hSame
  decide

/- A command line with the configuration of the callers. -/
def palavrasExemplo : List (List Char) :=
  ["forro-args-dra".toList, List.replicate 64 'a',
    List.replicate 16 'b', List.replicate 16 'c',
    List.replicate 32 'd', ['0']]

theorem argumentos_palavrasExemplo :
    Argumentos palavrasExemplo (List.replicate 64 'a')
      (List.replicate 16 'b') (List.replicate 16 'c')
      (List.replicate 32 'd') where
  argv1 := rfl
  argv2 := rfl
  argv3 := rfl
  argv4 := rfl
  hexChave := by decide
  hexNonce := by decide
  hexIdRodada := by decide
  hexIdDispositivo := by decide
  lengthChave := rfl
  lengthNonce := rfl
  lengthIdRodada := rfl
  lengthIdDispositivo := rfl

theorem main_depende_da_mensagem_exemplo :
    main
        { memoriaZero with
            mensagem := Vector.replicate 64 0
            configuracao := Vector.replicate 32 0 }
        palavrasExemplo ≠
      main
        { memoriaZero with
            mensagem := Vector.replicate 64 1
            configuracao := Vector.replicate 32 0 }
        palavrasExemplo := by
  intro hSame
  have hMensagem :=
    ((main_depende_da_mensagem limpa_memoriaZero
      argumentos_palavrasExemplo rfl).1 _ _ _).mp hSame
  revert hMensagem
  decide

/- Two messages print two proofs. -/
theorem dependeSoDosArgumentos_not_exemplo :
    ¬ DependeSoDosArgumentos memoriaZero palavrasExemplo := by
  intro hDepende
  have hSame :=
    hDepende (Vector.replicate 64 0) (Vector.replicate 64 1)
      (Vector.replicate 32 0) (Vector.replicate 32 0)
  revert hSame
  decide +kernel

end ForroArgsDra

end Tools

end P4dra
