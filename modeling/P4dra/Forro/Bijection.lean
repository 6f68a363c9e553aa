import Mathlib.Data.List.Basic
import P4dra.Forro.ProofState

/-
  The part of a proof before the feed-forward addition.

  Every statement of `Q` changes one word by another one or by
  a rotation and can be undone, and so can the seven rounds.
  The state before them holds each word of the key, of the
  round, of the nonce and of the device once, mixed with a
  word of the configuration, and nothing of the old state.

  Main declarations:
    * `Q_bijective`, `afterQuarterRounds_bijective`
    * `EntradaProva`, `EntradaProva.antesDaSoma`
    * `antesDaSoma_bijective`
-/

------------------------------------------------------------
-- Rounds
------------------------------------------------------------

namespace P4dra

open Bytes (Byte)

namespace Forro

open Registers

/- Rotating the rest of the way gives the word back. -/
theorem ROTL_ROTL
    (a : Word)
    {b : Nat}
    (hb : 0 < b ∧ b < 32) :
    ROTL (ROTL a b) (32 - b) = a := by
  apply BitVec.eq_of_getLsbD_eq
  intro i hi
  unfold ROTL
  simp only [BitVec.getLsbD_or, BitVec.getLsbD_shiftLeft,
    BitVec.getLsbD_ushiftRight]
  -- The lower bits come back from the top of the word.
  by_cases hLow : i < 32 - b
  · have hIndex : 32 - (32 - b) + i - b = i := by omega
    have hAbove : ¬ 32 - (32 - b) + i < b := by omega
    have hIn : 32 - (32 - b) + i < 32 := by omega
    have hOut :
        a.getLsbD (32 - b + (32 - (32 - b) + i)) = false :=
      BitVec.getLsbD_of_ge _ _ (by omega)
    simp [hIndex, hAbove, hIn, hOut, hLow]
  · have hIndex : 32 - b + (i - (32 - b)) = i := by omega
    have hBelow : i - (32 - b) < b := by omega
    have hIn : ¬ 32 - (32 - b) + i < 32 := by omega
    have hOut :
        a.getLsbD (32 - b + (32 - (32 - b) + i)) = false :=
      BitVec.getLsbD_of_ge _ _ (by omega)
    simp [hIndex, hBelow, hIn, hOut, hLow, hi]

theorem mapAt_ROTL_bijective
    (d : Fin 16)
    {b : Nat}
    (hb : 0 < b ∧ b < 32) :
    Function.Bijective
      (fun v : State => mapAt v d (ROTL · b)) := by
  apply mapAt_bijective (g := (ROTL · (32 - b)))
  · intro a
    exact ROTL_ROTL a hb
  · intro a
    have hBack : 32 - (32 - b) = b := by omega
    have hUndo := ROTL_ROTL a (b := 32 - b) (by omega)
    rw [hBack] at hUndo
    exact hUndo

/- The neighbours in the statements of `Q` must be distinct. -/
theorem Q_bijective
    {a b c d e : Fin 16}
    (h : a ≠ b ∧ b ≠ c ∧ c ≠ d ∧ d ≠ e ∧ e ≠ a) :
    Function.Bijective (fun v => Q v a b c d e) := by
  rcases h with ⟨hab, hbc, hcd, hde, hea⟩
  have hb := mapAt_ROTL_bijective b (b := 10) (by omega)
  have hd := mapAt_ROTL_bijective d (b := 27) (by omega)
  have ha := mapAt_ROTL_bijective a (b := 8) (by omega)
  have hFirst : Function.Bijective (fun v : State =>
      mapAt
        (addTo (xorTo (addTo v d e) c d) b c) b
        (ROTL · 10)) :=
    hb.comp ((addTo_bijective hbc).comp
      ((xorTo_bijective hcd).comp (addTo_bijective hde)))
  have hSecond : Function.Bijective (fun v : State =>
      mapAt
        (addTo (xorTo (addTo v a b) e a) d e) d
        (ROTL · 27)) :=
    hd.comp ((addTo_bijective hde).comp
      ((xorTo_bijective hea).comp (addTo_bijective hab)))
  have hThird : Function.Bijective (fun v : State =>
      mapAt
        (addTo (xorTo (addTo v c d) b c) a b) a
        (ROTL · 8)) :=
    ha.comp ((addTo_bijective hab).comp
      ((xorTo_bijective hbc).comp (addTo_bijective hcd)))
  exact hThird.comp (hSecond.comp hFirst)

theorem quarterRound_bijective
    (i : Fin 8) :
    Function.Bijective (quarterRound i) := by
  match i with
  | 0 => exact Q_bijective (by decide)
  | 1 => exact Q_bijective (by decide)
  | 2 => exact Q_bijective (by decide)
  | 3 => exact Q_bijective (by decide)
  | 4 => exact Q_bijective (by decide)
  | 5 => exact Q_bijective (by decide)
  | 6 => exact Q_bijective (by decide)
  | 7 => exact Q_bijective (by decide)

theorem afterQuarterRounds_bijective
    (r : Nat) :
    Function.Bijective (afterQuarterRounds r) := by
  induction r with
  | zero => exact Function.bijective_id
  | succ r ih => exact (quarterRound_bijective _).comp ih

------------------------------------------------------------
-- Words And Bytes
------------------------------------------------------------

/- The bytes of a word are those that it is read from. -/
theorem U8TO32_LITTLE_U32TO8_LITTLE
    (v : Word) :
    U8TO32_LITTLE (U32TO8_LITTLE v) = v := by
  have hLength : (U32TO8_LITTLE v).length = 4 :=
    Bytes.length_leBytes 4 v.toNat
  have hTake :
      (U32TO8_LITTLE v).take 4 = U32TO8_LITTLE v :=
    List.take_of_length_le (Nat.le_of_eq hLength)
  have hValue : v.toNat % 256 ^ 4 = v.toNat :=
    Nat.mod_eq_of_lt v.isLt
  unfold U8TO32_LITTLE
  rw [hTake, U32TO8_LITTLE, Bytes.leNat, Bytes.leBytes,
    List.reverse_reverse, Bytes.beNat_beBytes, hValue,
    BitVec.ofNat_toNat, BitVec.setWidth_eq]

theorem U32TO8_LITTLE_U8TO32_LITTLE
    {bytes : List Byte}
    (hLength : bytes.length = 4) :
    U32TO8_LITTLE (U8TO32_LITTLE bytes) = bytes := by
  have hTake : bytes.take 4 = bytes :=
    List.take_of_length_le (Nat.le_of_eq hLength)
  have hReverse : bytes.reverse.length = 4 := by
    rw [List.length_reverse, hLength]
  have hLt := Bytes.beNat_lt bytes.reverse
  have hWrite := Bytes.beBytes_beNat bytes.reverse
  rw [hReverse] at hLt hWrite
  have hValue :
      (U8TO32_LITTLE bytes).toNat =
        Bytes.beNat bytes.reverse := by
    rw [U8TO32_LITTLE, hTake, Bytes.leNat, BitVec.toNat_ofNat]
    exact Nat.mod_eq_of_lt hLt
  rw [U32TO8_LITTLE, hValue, Bytes.leBytes, hWrite,
    List.reverse_reverse]

/- Words written one after the other are read in order. -/
theorem palavra_flatMap
    (words : List Word)
    (i : Nat)
    (hi : i < words.length) :
    palavra (words.flatMap U32TO8_LITTLE) i = words[i] := by
  induction words generalizing i with
  | nil => simp at hi
  | cons v words ih =>
      have hLength : (U32TO8_LITTLE v).length = 4 * 1 :=
        Bytes.length_leBytes 4 v.toNat
      rw [List.flatMap_cons]
      cases i with
      | zero =>
          rw [palavra_append_left _ (Nat.le_of_eq hLength.symm)]
          exact U8TO32_LITTLE_U32TO8_LITTLE v
      | succ i =>
          have hBack :=
            palavra_append_right
              (words.flatMap U32TO8_LITTLE) 1 i hLength
          rw [Nat.add_comm 1 i] at hBack
          rw [hBack]
          exact ih i (by simpa using hi)

/- Bytes that give any words that are wanted. -/
theorem exists_palavras
    {n k : Nat}
    (hn : n = 4 * k)
    (words : Nat → Word) :
    ∃ bytes : Vector Byte n,
      ∀ i < k, palavra bytes.toList i = words i := by
  let list := (List.range k).map words
  have hLength :
      (list.flatMap U32TO8_LITTLE).length = n := by
    rw [length_flatMap_U32TO8_LITTLE, hn]
    simp [list]
  refine ⟨⟨(list.flatMap U32TO8_LITTLE).toArray, hLength⟩, ?_⟩
  intro i hi
  have hList : i < list.length := by simpa [list] using hi
  have hWord := palavra_flatMap list i hList
  simpa [list] using hWord

/- A whole number of words determines the bytes. -/
theorem eq_of_palavras
    {n k : Nat}
    {bytes bytes' : Vector Byte n}
    (hn : n = 4 * k)
    (hWords :
      ∀ i < k,
        palavra bytes.toList i = palavra bytes'.toList i) :
    bytes = bytes' := by
  have hPiece : ∀ (xs : Vector Byte n) (i : Nat), i < k →
      Bytes.piece 4 i xs.toList =
        U32TO8_LITTLE (palavra xs.toList i) := by
    intro xs i hi
    have hEnd : (i + 1) * 4 ≤ xs.toList.length := by
      rw [Vector.length_toList]
      omega
    have hBytes :=
      U32TO8_LITTLE_U8TO32_LITTLE (Bytes.length_piece hEnd)
    rw [palavra, U8TO32_LITTLE, Nat.mul_comm]
    rw [U8TO32_LITTLE, List.take_of_length_le
      (Nat.le_of_eq (Bytes.length_piece hEnd))] at hBytes
    exact hBytes.symm
  have hSplit : ∀ xs : Vector Byte n,
      (List.range k).flatMap
          (fun i => Bytes.piece 4 i xs.toList) = xs.toList := by
    intro xs
    apply Bytes.pieces_flatten 4 k
    rw [Vector.length_toList, hn, Nat.mul_comm]
  apply Vector.toList_inj.mp
  rw [← hSplit bytes, ← hSplit bytes']
  apply List.flatMap_congr
  intro i hi
  have hk := List.mem_range.mp hi
  rw [hPiece bytes i hk, hPiece bytes' i hk, hWords i hk]

------------------------------------------------------------
-- The State Before The Addition
------------------------------------------------------------

/- What a proof is computed from, besides the configuration. -/
structure EntradaProva where
  chave : Vector Byte 32
  idRodada : Vector Byte 8
  nonce : Vector Byte 8
  idDispositivo : Vector Byte 16
deriving DecidableEq

namespace EntradaProva

/- The state that `forro` is called on. -/
def estado
    (e : EntradaProva)
    (input : State)
    (configuracao : Vector Byte 32) : State :=
  estadoProva input e.chave.toList e.idRodada.toList
    e.nonce.toList e.idDispositivo.toList configuracao.toList

/- `state_vector` after the rounds of `forro`. -/
def antesDaSoma
    (e : EntradaProva)
    (input : State)
    (configuracao : Vector Byte 32) : State :=
  rodada^[rounds] (e.estado input configuracao)

/- The words of the state; the old ones are all overwritten. -/
theorem estado_eq
    (e : EntradaProva)
    (input : State)
    (configuracao : Vector Byte 32) :
    e.estado input configuracao =
      #v[palavra e.chave.toList 0, palavra e.chave.toList 1,
        palavra e.chave.toList 2, palavra e.chave.toList 3,
        palavra e.idRodada.toList 0 ^^^
          palavra configuracao.toList 0,
        palavra e.idRodada.toList 1 ^^^
          palavra configuracao.toList 1,
        palavra e.idDispositivo.toList 0 ^^^
          palavra configuracao.toList 2,
        palavra e.idDispositivo.toList 1 ^^^
          palavra configuracao.toList 3,
        palavra e.chave.toList 4, palavra e.chave.toList 5,
        palavra e.chave.toList 6, palavra e.chave.toList 7,
        palavra e.nonce.toList 0 ^^^
          palavra configuracao.toList 4,
        palavra e.nonce.toList 1 ^^^
          palavra configuracao.toList 5,
        palavra e.idDispositivo.toList 2 ^^^
          palavra configuracao.toList 6,
        palavra e.idDispositivo.toList 3 ^^^
          palavra configuracao.toList 7] :=
  estadoProva_eq input (by simp) (by simp) (by simp) (by simp)

/- Two inputs with the same state have the same words. -/
theorem estado_injective
    (input : State)
    (configuracao : Vector Byte 32) :
    Function.Injective
      (fun e : EntradaProva => e.estado input configuracao) := by
  intro e e' hSame
  simp only [estado_eq] at hSame
  have hWord :=
    fun (i : Nat) (hi : i < 16) =>
      congrArg (fun v : State => v[i]) hSame
  have hChave : e.chave = e'.chave := by
    apply eq_of_palavras (k := 8) rfl
    intro i hi
    interval_cases i
    · exact hWord 0 (by omega)
    · exact hWord 1 (by omega)
    · exact hWord 2 (by omega)
    · exact hWord 3 (by omega)
    · exact hWord 8 (by omega)
    · exact hWord 9 (by omega)
    · exact hWord 10 (by omega)
    · exact hWord 11 (by omega)
  have hIdRodada : e.idRodada = e'.idRodada := by
    apply eq_of_palavras (k := 2) rfl
    intro i hi
    interval_cases i
    · exact (BitVec.xor_left_inj _).mp (hWord 4 (by omega))
    · exact (BitVec.xor_left_inj _).mp (hWord 5 (by omega))
  have hNonce : e.nonce = e'.nonce := by
    apply eq_of_palavras (k := 2) rfl
    intro i hi
    interval_cases i
    · exact (BitVec.xor_left_inj _).mp (hWord 12 (by omega))
    · exact (BitVec.xor_left_inj _).mp (hWord 13 (by omega))
  have hIdDispositivo : e.idDispositivo = e'.idDispositivo := by
    apply eq_of_palavras (k := 4) rfl
    intro i hi
    interval_cases i
    · exact (BitVec.xor_left_inj _).mp (hWord 6 (by omega))
    · exact (BitVec.xor_left_inj _).mp (hWord 7 (by omega))
    · exact (BitVec.xor_left_inj _).mp (hWord 14 (by omega))
    · exact (BitVec.xor_left_inj _).mp (hWord 15 (by omega))
  cases e
  cases e'
  simp only [mk.injEq]
  exact ⟨hChave, hIdRodada, hNonce, hIdDispositivo⟩

theorem xor_xor_cancel
    (v c : Word) :
    v ^^^ c ^^^ c = v := by
  rw [BitVec.xor_assoc, BitVec.xor_self, BitVec.xor_zero]

/- Every state is that of some input. -/
theorem estado_surjective
    (input : State)
    (configuracao : Vector Byte 32) :
    Function.Surjective
      (fun e : EntradaProva => e.estado input configuracao) := by
  intro v
  let conf := palavra configuracao.toList
  rcases exists_palavras (n := 32) (k := 8) rfl
      (fun i => #v[v[0], v[1], v[2], v[3], v[8], v[9], v[10],
        v[11]].getD i 0) with ⟨chave, hChave⟩
  rcases exists_palavras (n := 8) (k := 2) rfl
      (fun i => #v[v[4] ^^^ conf 0, v[5] ^^^ conf 1].getD i 0)
    with ⟨idRodada, hIdRodada⟩
  rcases exists_palavras (n := 8) (k := 2) rfl
      (fun i => #v[v[12] ^^^ conf 4, v[13] ^^^ conf 5].getD i 0)
    with ⟨nonce, hNonce⟩
  rcases exists_palavras (n := 16) (k := 4) rfl
      (fun i => #v[v[6] ^^^ conf 2, v[7] ^^^ conf 3,
        v[14] ^^^ conf 6, v[15] ^^^ conf 7].getD i 0)
    with ⟨idDispositivo, hIdDispositivo⟩
  refine ⟨⟨chave, idRodada, nonce, idDispositivo⟩, ?_⟩
  simp only [estado_eq]
  rw [hChave 0 (by omega), hChave 1 (by omega),
    hChave 2 (by omega), hChave 3 (by omega),
    hChave 4 (by omega), hChave 5 (by omega),
    hChave 6 (by omega), hChave 7 (by omega),
    hIdRodada 0 (by omega), hIdRodada 1 (by omega),
    hNonce 0 (by omega), hNonce 1 (by omega),
    hIdDispositivo 0 (by omega), hIdDispositivo 1 (by omega),
    hIdDispositivo 2 (by omega), hIdDispositivo 3 (by omega)]
  apply Vector.ext
  intro i hi
  interval_cases i
  · rfl
  · rfl
  · rfl
  · rfl
  · exact xor_xor_cancel v[4] _
  · exact xor_xor_cancel v[5] _
  · exact xor_xor_cancel v[6] _
  · exact xor_xor_cancel v[7] _
  · rfl
  · rfl
  · rfl
  · rfl
  · exact xor_xor_cancel v[12] _
  · exact xor_xor_cancel v[13] _
  · exact xor_xor_cancel v[14] _
  · exact xor_xor_cancel v[15] _

end EntradaProva

/-
  The state before the addition is any state, for exactly one
  input, whatever was in the context before.
-/
theorem antesDaSoma_bijective
    (configuracao : Vector Byte 32) :
    (∀ input : State,
      Function.Bijective
        (fun e : EntradaProva =>
          e.antesDaSoma input configuracao)) ∧
      ∀ (input input' : State) (e : EntradaProva),
        e.antesDaSoma input configuracao =
          e.antesDaSoma input' configuracao := by
  constructor
  · intro input
    have hRodadas : Function.Bijective rodada^[rounds] := by
      have hCalls :
          rodada^[rounds] = afterQuarterRounds (8 * rounds) :=
        funext (iterate_rodada rounds)
      rw [hCalls]
      exact afterQuarterRounds_bijective _
    exact hRodadas.comp
      ⟨EntradaProva.estado_injective input configuracao,
        EntradaProva.estado_surjective input configuracao⟩
  · intro input input' e
    unfold EntradaProva.antesDaSoma
    rw [EntradaProva.estado_eq, EntradaProva.estado_eq]

end Forro

end P4dra
