import Mathlib.Tactic.IntervalCases
import P4dra.Forro.Cipher

/-
  The state over which a device computes its proof.

  `reply_proof` and `forro-args-dra` prepare it with the same
  statements: `forro_keysetup` on the key, four loops that mix
  the configuration with the parameters of the round, and
  `forro_versetup`.

  Main declarations:
    * `configuracaoRodada`, `configuracaoDispositivo`
    * `estadoProva`, `estadoProva_eq`
-/

------------------------------------------------------------
-- Little-Endian Words
------------------------------------------------------------

namespace P4dra

open Bytes (Byte piece slice)

namespace Forro

/- The `i`-th word that `U8TO32_LITTLE` reads. -/
def palavra
    (bytes : List Byte)
    (i : Nat) : Word :=
  U8TO32_LITTLE (bytes.drop (4 * i))

theorem U8TO32_LITTLE_cons
    (a b c d : Byte)
    (rest : List Byte) :
    U8TO32_LITTLE (a :: b :: c :: d :: rest) =
      (d ++ c ++ b ++ a : BitVec 32) := by
  have ha := a.isLt
  have hb := b.isLt
  have hc := c.isLt
  have hd := d.isLt
  apply BitVec.eq_of_toNat_eq
  simp only [U8TO32_LITTLE, List.take_succ_cons,
    List.take_zero, Bytes.leNat, List.reverse_cons,
    List.reverse_nil, List.nil_append, List.cons_append,
    Bytes.beNat, List.foldl_cons, List.foldl_nil,
    BitVec.toNat_ofNat, BitVec.toNat_append]
  rw [← Nat.shiftLeft_add_eq_or_of_lt ha,
    ← Nat.shiftLeft_add_eq_or_of_lt hb,
    ← Nat.shiftLeft_add_eq_or_of_lt hc]
  simp only [Nat.shiftLeft_eq]
  omega

theorem exists_cons_drop
    {bytes : List Byte}
    {i : Nat}
    (hLength : 4 * (i + 1) ≤ bytes.length) :
    ∃ a b c d rest,
      bytes.drop (4 * i) = a :: b :: c :: d :: rest := by
  have hDrop : 4 ≤ (bytes.drop (4 * i)).length := by
    rw [List.length_drop]
    omega
  match bytes.drop (4 * i), hDrop with
  | a :: b :: c :: d :: rest, _ =>
      exact ⟨a, b, c, d, rest, rfl⟩

/- Words of the exclusive or of two byte strings. -/
theorem palavra_xorBytes
    {m output : List Byte}
    {i : Nat}
    (hMessage : 4 * (i + 1) ≤ m.length)
    (hOutput : 4 * (i + 1) ≤ output.length) :
    palavra (xorBytes m output) i =
      palavra m i ^^^ palavra output i := by
  rcases exists_cons_drop hMessage with
    ⟨a, b, c, d, rest, hm⟩
  rcases exists_cons_drop hOutput with
    ⟨a', b', c', d', rest', ho⟩
  have hAppend :
      (d ++ c ++ b ++ a) ^^^ (d' ++ c' ++ b' ++ a') =
        (d ^^^ d') ++ (c ^^^ c') ++ (b ^^^ b') ++ (a ^^^ a') := by
    rw [BitVec.xor_append, BitVec.xor_append,
      BitVec.xor_append]
  rw [palavra, palavra, palavra, xorBytes, List.drop_zipWith,
    hm, ho]
  simp only [List.zipWith_cons_cons, U8TO32_LITTLE_cons]
  exact hAppend.symm

theorem palavra_append_left
    {front : List Byte}
    (back : List Byte)
    {i : Nat}
    (hi : 4 * (i + 1) ≤ front.length) :
    palavra (front ++ back) i = palavra front i := by
  rcases exists_cons_drop hi with
    ⟨a, b, c, d, rest, hFront⟩
  rw [palavra, palavra,
    List.drop_append_of_le_length (by omega), hFront,
    List.cons_append, List.cons_append, List.cons_append,
    List.cons_append, U8TO32_LITTLE_cons, U8TO32_LITTLE_cons]

theorem palavra_append_right
    {front : List Byte}
    (back : List Byte)
    (k i : Nat)
    (hk : front.length = 4 * k) :
    palavra (front ++ back) (k + i) = palavra back i := by
  rw [palavra, palavra, Nat.mul_add, ← hk,
    List.drop_length_add_append]

/- Words of a part are words of the whole. -/
theorem palavra_slice
    (bytes : List Byte)
    (k size i : Nat)
    (hi : 4 * (i + 1) ≤ size) :
    palavra (slice (4 * k) size bytes) i =
      palavra bytes (k + i) := by
  have hTake :
      ((slice (4 * k) size bytes).drop (4 * i)).take 4 =
        (bytes.drop (4 * (k + i))).take 4 := by
    rw [slice, List.drop_take, List.take_take,
      List.drop_drop, Nat.mul_add]
    congr 1
    omega
  rw [palavra, palavra, U8TO32_LITTLE, U8TO32_LITTLE, hTake]

/- After the swap of words a word is read in network order. -/
theorem palavra_swapWords
    {bytes : List Byte}
    {i : Nat}
    (hi : 4 * (i + 1) ≤ bytes.length) :
    palavra (Bytes.swapWords bytes) i =
      BitVec.ofNat 32 (Bytes.beNat (piece 4 i bytes)) := by
  have hPiece := Bytes.piece_swapWords i bytes hi
  rw [piece, Nat.mul_comm] at hPiece
  rw [palavra, U8TO32_LITTLE, hPiece, Bytes.leNat,
    List.reverse_reverse]

------------------------------------------------------------
-- The State Of A Proof
------------------------------------------------------------

/- The loops that fill `configuracao_rodada`. -/
def configuracaoRodada
    (idRodada nonce configuracao : List Byte) : List Byte :=
  xorBytes idRodada (slice 0 8 configuracao) ++
    xorBytes nonce (slice 16 8 configuracao)

/- The loops that fill `configuracao_dispositivo`. -/
def configuracaoDispositivo
    (idDispositivo configuracao : List Byte) : List Byte :=
  xorBytes (slice 0 8 idDispositivo) (slice 8 8 configuracao) ++
    xorBytes (slice 8 8 idDispositivo)
      (slice 24 8 configuracao)

/- `input.state` before the cipher runs. -/
def estadoProva
    (input : State)
    (chave idRodada nonce idDispositivo configuracao :
      List Byte) : State :=
  forroVersetup (forroKeysetup input chave)
    (configuracaoRodada idRodada nonce configuracao)
    (configuracaoDispositivo idDispositivo configuracao)

/- The words that the two setup functions leave. -/
theorem forroVersetup_forroKeysetup
    (input : State)
    (chave rodada dispositivo : List Byte) :
    forroVersetup (forroKeysetup input chave) rodada
        dispositivo =
      #v[palavra chave 0, palavra chave 1, palavra chave 2,
        palavra chave 3, palavra rodada 0, palavra rodada 1,
        palavra dispositivo 0, palavra dispositivo 1,
        palavra chave 4, palavra chave 5, palavra chave 6,
        palavra chave 7, palavra rodada 2, palavra rodada 3,
        palavra dispositivo 2, palavra dispositivo 3] := by
  apply Vector.ext
  intro i hi
  interval_cases i <;>
    simp [forroVersetup, forroKeysetup, palavra]

/- A configuration half fits a parameter of eight bytes. -/
theorem length_xorBytes_slice
    {m configuracao : List Byte}
    {k : Nat}
    (hm : m.length = 8)
    (hConfiguracao : configuracao.length = 32)
    (hk : k ≤ 24) :
    (xorBytes m (slice k 8 configuracao)).length = 8 := by
  have hSlice : (slice k 8 configuracao).length = 8 :=
    Bytes.length_slice (by omega)
  rw [xorBytes, List.length_zipWith, hm, hSlice, Nat.min_self]

/- Words of a mixed configuration. -/
theorem palavra_mixed
    {m m' configuracao : List Byte}
    {k k' : Nat}
    (hm : m.length = 8)
    (hm' : m'.length = 8)
    (hConfiguracao : configuracao.length = 32)
    (hk : k ≤ 6)
    (hk' : k' ≤ 6)
    (i : Nat)
    (hi : i < 2) :
    palavra
          (xorBytes m (slice (4 * k) 8 configuracao) ++
            xorBytes m' (slice (4 * k') 8 configuracao)) i =
        palavra m i ^^^ palavra configuracao (k + i) ∧
      palavra
          (xorBytes m (slice (4 * k) 8 configuracao) ++
            xorBytes m' (slice (4 * k') 8 configuracao))
          (2 + i) =
        palavra m' i ^^^ palavra configuracao (k' + i) := by
  have hFront :=
    length_xorBytes_slice hm hConfiguracao
      (by omega : 4 * k ≤ 24)
  have hSlice :
      ∀ j ≤ 6, (slice (4 * j) 8 configuracao).length = 8 :=
    fun j hj => Bytes.length_slice (by omega)
  have hEight : 4 * (i + 1) ≤ 8 := by omega
  constructor
  · rw [palavra_append_left _ (by omega),
      palavra_xorBytes (by omega)
        (by rw [hSlice k hk]; exact hEight),
      palavra_slice _ _ _ _ hEight]
  · rw [palavra_append_right _ 2 i hFront,
      palavra_xorBytes (by omega)
        (by rw [hSlice k' hk']; exact hEight),
      palavra_slice _ _ _ _ hEight]

/- The words of the state of a proof. -/
theorem estadoProva_eq
    (input : State)
    {chave idRodada nonce idDispositivo configuracao :
      List Byte}
    (hIdRodada : idRodada.length = 8)
    (hNonce : nonce.length = 8)
    (hIdDispositivo : idDispositivo.length = 16)
    (hConfiguracao : configuracao.length = 32) :
    estadoProva input chave idRodada nonce idDispositivo
        configuracao =
      #v[palavra chave 0, palavra chave 1, palavra chave 2,
        palavra chave 3,
        palavra idRodada 0 ^^^ palavra configuracao 0,
        palavra idRodada 1 ^^^ palavra configuracao 1,
        palavra idDispositivo 0 ^^^ palavra configuracao 2,
        palavra idDispositivo 1 ^^^ palavra configuracao 3,
        palavra chave 4, palavra chave 5, palavra chave 6,
        palavra chave 7,
        palavra nonce 0 ^^^ palavra configuracao 4,
        palavra nonce 1 ^^^ palavra configuracao 5,
        palavra idDispositivo 2 ^^^ palavra configuracao 6,
        palavra idDispositivo 3 ^^^ palavra configuracao 7] := by
  have hRodada :=
    palavra_mixed hIdRodada hNonce hConfiguracao
      (by omega : 0 ≤ 6) (by omega : 4 ≤ 6)
  have hHigh : (slice 0 8 idDispositivo).length = 8 :=
    Bytes.length_slice (by omega)
  have hLow : (slice 8 8 idDispositivo).length = 8 :=
    Bytes.length_slice (by omega)
  have hDispositivo :=
    palavra_mixed hHigh hLow hConfiguracao
      (by omega : 2 ≤ 6) (by omega : 6 ≤ 6)
  have hIdHigh : ∀ i < 2,
      palavra (slice 0 8 idDispositivo) i =
        palavra idDispositivo i := by
    intro i hi
    have hSlice :=
      palavra_slice idDispositivo 0 8 i (by omega)
    rw [Nat.zero_add] at hSlice
    exact hSlice
  have hIdLow : ∀ i < 2,
      palavra (slice 8 8 idDispositivo) i =
        palavra idDispositivo (2 + i) :=
    fun i hi => palavra_slice idDispositivo 2 8 i (by omega)
  rw [estadoProva, forroVersetup_forroKeysetup]
  apply Vector.ext
  intro i hi
  interval_cases i
  · rfl
  · rfl
  · rfl
  · rfl
  · exact (hRodada 0 (by omega)).1
  · exact (hRodada 1 (by omega)).1
  · exact (hDispositivo 0 (by omega)).1.trans
      (congrArg (· ^^^ _) (hIdHigh 0 (by omega)))
  · exact (hDispositivo 1 (by omega)).1.trans
      (congrArg (· ^^^ _) (hIdHigh 1 (by omega)))
  · rfl
  · rfl
  · rfl
  · rfl
  · exact (hRodada 0 (by omega)).2
  · exact (hRodada 1 (by omega)).2
  · exact (hDispositivo 0 (by omega)).2.trans
      (congrArg (· ^^^ _) (hIdLow 0 (by omega)))
  · exact (hDispositivo 1 (by omega)).2.trans
      (congrArg (· ^^^ _) (hIdLow 1 (by omega)))

end Forro

end P4dra
