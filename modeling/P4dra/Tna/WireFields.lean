import P4dra.Forro.ProofState
import P4dra.Tna.InitialState

/-
  The fields of a frame as the end hosts see them.

  An end host handles the bytes of a frame; it swaps the
  bytes of every word before it computes with them. The state
  that it prepares from the fields of a frame is the state
  that the switch loads for that frame.

  Main declarations:
    * `Cabecalho.bytesIdRodada`, `Cabecalho.bytesIdDispositivo`
    * `configuracaoDaMedida`
    * `swapWords_forro`
    * `estadoProva_campos`
-/

------------------------------------------------------------
-- Fields
------------------------------------------------------------

namespace P4dra

open Bytes (Byte piece slice swapWords)
open Forro (palavra)

namespace Tna

/- The sixteen bytes of `id_rodada` in the frame. -/
def Cabecalho.bytesIdRodada (c : Cabecalho) : List Byte :=
  word.encode c.idRodada0 ++
    (word.encode c.idRodada1 ++
      (word.encode c.idRodada2 ++ word.encode c.idRodada3))

/- The sixteen bytes of `id_dispositivo` in the frame. -/
def Cabecalho.bytesIdDispositivo (c : Cabecalho) :
    List Byte :=
  p4draIdDispositivoT.encode ⟨c.idDispositivo⟩

/-
  The 256 bits that stand for a configuration given by its
  bytes: as for a key or an identifier, the bytes of every
  word are swapped.
-/
def configuracaoDaMedida (bytes : List Byte) : BitVec 256 :=
  BitVec.ofNat 256 (Bytes.beNat (swapWords bytes))

@[simp] theorem size_word :
    word.size = 4 := rfl

theorem length_bytesIdRodada
    (c : Cabecalho) :
    c.bytesIdRodada.length = 16 := by
  simp [Cabecalho.bytesIdRodada]

theorem length_bytesIdDispositivo
    (c : Cabecalho) :
    c.bytesIdDispositivo.length = 16 :=
  p4draIdDispositivoT.length_encode _

theorem slice_bytesIdRodada_zero
    (c : Cabecalho) :
    slice 0 8 c.bytesIdRodada =
      word.encode c.idRodada0 ++ word.encode c.idRodada1 := by
  rw [slice, List.drop_zero, Cabecalho.bytesIdRodada,
    ← List.append_assoc]
  exact List.take_left' (by simp)

theorem slice_bytesIdRodada_eight
    (c : Cabecalho) :
    slice 8 8 c.bytesIdRodada =
      word.encode c.idRodada2 ++ word.encode c.idRodada3 := by
  rw [slice, Cabecalho.bytesIdRodada, ← List.append_assoc,
    List.drop_left' (by simp)]
  exact List.take_of_length_le (by simp)

------------------------------------------------------------
-- Proofs
------------------------------------------------------------

/- A word of the output, swapped, is in network order. -/
theorem swapWords_U32TO8_LITTLE
    (w : Word) :
    swapWords (Forro.U32TO8_LITTLE w) = word.encode w := by
  have hReverse : ∀ bytes : List Byte, bytes.length = 4 →
      swapWords bytes.reverse = bytes := by
    intro bytes hLength
    match bytes, hLength with
    | [a, b, c, d], _ => rfl
  exact hReverse (word.encode w) (word.length_encode w)

/- The output with swapped words is a header of the words. -/
theorem swapWords_forro
    (init : State) :
    swapWords (Forro.forro init) =
      forroStateT.encode (Forro.forroWords init) := by
  have hWords : ∀ words : List Word,
      swapWords (words.flatMap Forro.U32TO8_LITTLE) =
        words.flatMap word.encode := by
    intro words
    induction words with
    | nil => rfl
    | cons w rest ih =>
        have hLength :
            (Forro.U32TO8_LITTLE w).length = 4 * 1 :=
          Bytes.length_leBytes 4 _
        rw [List.flatMap_cons,
          Bytes.swapWords_append 1 _ _ hLength,
          swapWords_U32TO8_LITTLE, ih, List.flatMap_cons]
  exact hWords (Forro.forroWords init).toList

------------------------------------------------------------
-- Words Of Fields
------------------------------------------------------------

theorem ofNat_beNat_word
    (w : Word) :
    BitVec.ofNat 32 (Bytes.beNat (word.encode w)) = w :=
  word.decode_encode w

/- A swapped pair of words is read word by word. -/
theorem palavra_swapWords_pair
    (first second : Word) :
    palavra (swapWords (word.encode first ++ word.encode second))
          0 =
        first ∧
      palavra
          (swapWords (word.encode first ++ word.encode second))
          1 =
        second := by
  have hLength :
      (word.encode first ++ word.encode second).length = 8 := by
    simp
  have hFirst :
      piece 4 0 (word.encode first ++ word.encode second) =
        word.encode first :=
    Bytes.piece_zero_append _ (word.length_encode first)
  have hSecond :
      piece 4 1 (word.encode first ++ word.encode second) =
        word.encode second := by
    have hShift :=
      Bytes.piece_succ_append (word.encode second) 0
        (word.length_encode first)
    have hOnly :=
      Bytes.piece_zero_append [] (word.length_encode second)
    rw [List.append_nil] at hOnly
    exact hShift.trans hOnly
  constructor
  · rw [Forro.palavra_swapWords (by omega), hFirst,
      ofNat_beNat_word]
  · rw [Forro.palavra_swapWords (by omega), hSecond,
      ofNat_beNat_word]

/- The words of a number are those of its swapped bytes. -/
theorem extractLsb'_ofNat_beNat
    {n i : Nat}
    {bytes : List Byte}
    (hLength : bytes.length = n * 4)
    (hi : i < n) :
    (BitVec.ofNat (n * 32) (Bytes.beNat bytes)).extractLsb'
        (32 * (n - 1 - i)) 32 =
      BitVec.ofNat 32 (Bytes.beNat (piece 4 i bytes)) := by
  have hPiece := Bytes.beNat_piece hLength hi
  have hPow :
      256 ^ ((n - 1 - i) * 4) = 2 ^ (32 * (n - 1 - i)) := by
    rw [show (256 : Nat) = 2 ^ 8 from rfl, ← Nat.pow_mul]
    congr 1
    omega
  have hWidth : Bytes.beNat bytes < 2 ^ (n * 32) := by
    have hLt := Bytes.beNat_lt bytes
    rw [hLength, show (256 : Nat) = 2 ^ 8 from rfl,
      ← Nat.pow_mul] at hLt
    calc
      Bytes.beNat bytes < 2 ^ (8 * (n * 4)) := hLt
      _ = 2 ^ (n * 32) := by
          congr 1
          omega
  have hWord : (256 : Nat) ^ 4 = 2 ^ 32 := by norm_num
  rw [hPow, hWord] at hPiece
  apply BitVec.eq_of_toNat_eq
  rw [BitVec.extractLsb'_toNat, BitVec.toNat_ofNat,
    Nat.mod_eq_of_lt hWidth, Nat.shiftRight_eq_div_pow, hPiece,
    BitVec.toNat_ofNat, ← hPiece, Nat.mod_mod]

/- A word of the swapped identifier. -/
theorem palavra_idDispositivo
    (c : Cabecalho)
    (i : Nat)
    (hi : i < 4) :
    palavra (swapWords c.bytesIdDispositivo) i =
      c.idDispositivo.extractLsb' (32 * (3 - i)) 32 := by
  have hLength : c.bytesIdDispositivo.length = 4 * 4 :=
    length_bytesIdDispositivo c
  have hId :
      BitVec.ofNat (4 * 32)
          (Bytes.beNat c.bytesIdDispositivo) =
        c.idDispositivo :=
    (Codec.bits 16).decode_encode c.idDispositivo
  have hWord := extractLsb'_ofNat_beNat hLength hi
  rw [hId] at hWord
  rw [Forro.palavra_swapWords (by omega), ← hWord]

/- A word of a configuration. -/
theorem palavra_configuracao
    {bytes : List Byte}
    (hLength : bytes.length = 32)
    (i : Nat)
    (hi : i < 8) :
    palavra bytes i =
      (configuracaoDaMedida bytes).extractLsb'
        (32 * (7 - i)) 32 := by
  have hSwapped : (swapWords bytes).length = 8 * 4 := by
    rw [Bytes.length_swapWords, hLength]
  have hWord := extractLsb'_ofNat_beNat hSwapped hi
  have hIndex : 4 * (i + 1) ≤ (swapWords bytes).length := by
    omega
  have hSwap := Forro.palavra_swapWords hIndex
  rw [Bytes.swapWords_swapWords] at hSwap
  rw [hSwap]
  exact hWord.symm

------------------------------------------------------------
-- The State From The Fields
------------------------------------------------------------

/-
  The end hosts prepare the state that the switch loads: the
  first half of `id_rodada` stands beside the configuration
  words 0 and 1, the second half beside 4 and 5.
-/
theorem estadoProva_campos
    (input : State)
    (chave : List Byte)
    {configuracao : List Byte}
    (hConfiguracao : configuracao.length = 32)
    (c : Cabecalho) :
    Forro.estadoProva input chave
        (swapWords (slice 0 8 c.bytesIdRodada))
        (swapWords (slice 8 8 c.bytesIdRodada))
        (swapWords c.bytesIdDispositivo) configuracao =
      estadoForro chave (configuracaoDaMedida configuracao)
        c := by
  have hFirst := slice_bytesIdRodada_zero c
  have hSecond := slice_bytesIdRodada_eight c
  have hRodada01 :=
    palavra_swapWords_pair c.idRodada0 c.idRodada1
  have hRodada23 :=
    palavra_swapWords_pair c.idRodada2 c.idRodada3
  have hId := palavra_idDispositivo c
  have hConf := palavra_configuracao hConfiguracao
  rw [Forro.estadoProva_eq input (by simp [hFirst])
    (by simp [hSecond])
    (by rw [Bytes.length_swapWords, length_bytesIdDispositivo])
    hConfiguracao, hFirst, hSecond]
  have hXor : ∀ {a b a' b' : Word},
      a = a' → b = b' → a ^^^ b = b' ^^^ a' := by
    intro a b a' b' ha hb
    rw [ha, hb, BitVec.xor_comm]
  have hConf0 :
      palavra configuracao 0 =
        (configuracaoDaMedida configuracao).extractLsb 255 224 :=
    hConf 0 (by omega)
  have hConf1 :
      palavra configuracao 1 =
        (configuracaoDaMedida configuracao).extractLsb 223 192 :=
    hConf 1 (by omega)
  have hConf2 :
      palavra configuracao 2 =
        (configuracaoDaMedida configuracao).extractLsb 191 160 :=
    hConf 2 (by omega)
  have hConf3 :
      palavra configuracao 3 =
        (configuracaoDaMedida configuracao).extractLsb 159 128 :=
    hConf 3 (by omega)
  have hConf4 :
      palavra configuracao 4 =
        (configuracaoDaMedida configuracao).extractLsb 127 96 :=
    hConf 4 (by omega)
  have hConf5 :
      palavra configuracao 5 =
        (configuracaoDaMedida configuracao).extractLsb 95 64 :=
    hConf 5 (by omega)
  have hConf6 :
      palavra configuracao 6 =
        (configuracaoDaMedida configuracao).extractLsb 63 32 :=
    hConf 6 (by omega)
  have hConf7 :
      palavra configuracao 7 =
        (configuracaoDaMedida configuracao).extractLsb 31 0 :=
    hConf 7 (by omega)
  have hId0 :
      palavra (swapWords c.bytesIdDispositivo) 0 =
        c.idDispositivo.extractLsb 127 96 :=
    hId 0 (by omega)
  have hId1 :
      palavra (swapWords c.bytesIdDispositivo) 1 =
        c.idDispositivo.extractLsb 95 64 :=
    hId 1 (by omega)
  have hId2 :
      palavra (swapWords c.bytesIdDispositivo) 2 =
        c.idDispositivo.extractLsb 63 32 :=
    hId 2 (by omega)
  have hId3 :
      palavra (swapWords c.bytesIdDispositivo) 3 =
        c.idDispositivo.extractLsb 31 0 :=
    hId 3 (by omega)
  have hKey : ∀ k,
      palavra chave k =
        Forro.U8TO32_LITTLE (chave.drop (4 * k)) :=
    fun _ => rfl
  apply Vector.ext
  intro i hi
  interval_cases i
  · exact hKey 0
  · exact hKey 1
  · exact hKey 2
  · exact hKey 3
  · exact hXor hRodada01.1 hConf0
  · exact hXor hRodada01.2 hConf1
  · exact hXor hId0 hConf2
  · exact hXor hId1 hConf3
  · exact hKey 4
  · exact hKey 5
  · exact hKey 6
  · exact hKey 7
  · exact hXor hRodada23.1 hConf4
  · exact hXor hRodada23.2 hConf5
  · exact hXor hId2 hConf6
  · exact hXor hId3 hConf7

end Tna

end P4dra
