import Mathlib.Logic.Function.Iterate
import P4dra.Library.Bytes
import P4dra.Library.Registers

/-
  The Forro14 cipher of `forro.c`, which the trusted
  application and `forro-args-dra` share.

  Arrays of bytes are lists, `uint32_t state[16]` is a vector
  of sixteen words, and the host is little-endian.

  Main declarations:
    * `Q`, `forro`, `forroKeysetup`, `forroVersetup`
    * `forroIvsetup`
    * `forroEncryptBytes`
    * `afterQuarterRounds` and `iterate_rodada`
-/

------------------------------------------------------------
-- Quarter-Rounds
------------------------------------------------------------

namespace P4dra

open Bytes (Byte)

/- `uint32_t` and the 32-bit header fields. -/
abbrev Word := BitVec 32

/- `uint32_t state[16]`. -/
abbrev State := Vector Word 16

/- The indices that the sources write as literals: words of
   a state, quarter-rounds of a round, fields of a header. -/
instance neZero_dezesseis : NeZero 16 := ⟨by decide⟩
instance neZero_doze : NeZero 12 := ⟨by decide⟩
instance neZero_oito : NeZero 8 := ⟨by decide⟩

namespace Forro

open Registers

def ROTL (a : Word) (b : Nat) : Word :=
  (a <<< b) ||| (a >>> (32 - b))

/- The macro `Q` on five places of the state. -/
def Q (v : State) (a b c d e : Fin 16) : State :=
  let v := addTo v d e
  let v := xorTo v c d
  let v := addTo v b c
  let v := mapAt v b (ROTL · 10)
  let v := addTo v a b
  let v := xorTo v e a
  let v := addTo v d e
  let v := mapAt v d (ROTL · 27)
  let v := addTo v c d
  let v := xorTo v b c
  let v := addTo v a b
  mapAt v a (ROTL · 8)

/- `#define rounds 7` -/
def rounds : Nat := 7

/- The eight calls of `Q` in the body of the loop of `forro`. -/
def rodada (v : State) : State :=
  let v := Q v 0 4 8 12 3
  let v := Q v 1 5 9 13 0
  let v := Q v 2 6 10 14 1
  let v := Q v 3 7 11 15 2
  let v := Q v 0 5 10 15 3
  let v := Q v 1 6 11 12 0
  let v := Q v 2 7 8 13 1
  Q v 3 4 9 14 2

/- `init[i] + state_vector[i]` for every `i`. -/
def feedForward (init stateVector : State) : State :=
  Vector.zipWith (· + ·) init stateVector

/- The sixteen words that `forro` writes to `out`. -/
def forroWords (init : State) : State :=
  feedForward init (rodada^[rounds] init)

def U8TO32_LITTLE (p : List Byte) : Word :=
  BitVec.ofNat 32 (Bytes.leNat (p.take 4))

def U32TO8_LITTLE (v : Word) : List Byte :=
  Bytes.leBytes 4 v.toNat

/- `forro`: the 64 bytes of `out`. -/
def forro (init : State) : List Byte :=
  (forroWords init).toList.flatMap U32TO8_LITTLE

theorem length_flatMap_U32TO8_LITTLE
    (words : List Word) :
    (words.flatMap U32TO8_LITTLE).length = 4 * words.length := by
  simp [List.length_flatMap, U32TO8_LITTLE, List.map_const',
    Nat.mul_comm]

theorem length_forro
    (init : State) :
    (forro init).length = 64 := by
  rw [forro, length_flatMap_U32TO8_LITTLE,
    Vector.length_toList]

------------------------------------------------------------
-- Setup And Encryption
------------------------------------------------------------

/- `"voltadaasabranca"` -/
def SIGMA : List Byte :=
  [0x76, 0x6f, 0x6c, 0x74, 0x61, 0x64, 0x61, 0x61,
    0x73, 0x61, 0x62, 0x72, 0x61, 0x6e, 0x63, 0x61]

def forroKeysetup (x : State) (key : List Byte) : State :=
  let x := x.set 0 (U8TO32_LITTLE key)
  let x := x.set 1 (U8TO32_LITTLE (key.drop 4))
  let x := x.set 2 (U8TO32_LITTLE (key.drop 8))
  let x := x.set 3 (U8TO32_LITTLE (key.drop 12))
  let x := x.set 6 (U8TO32_LITTLE SIGMA)
  let x := x.set 7 (U8TO32_LITTLE (SIGMA.drop 4))
  let x := x.set 8 (U8TO32_LITTLE (key.drop 16))
  let x := x.set 9 (U8TO32_LITTLE (key.drop 20))
  let x := x.set 10 (U8TO32_LITTLE (key.drop 24))
  let x := x.set 11 (U8TO32_LITTLE (key.drop 28))
  let x := x.set 14 (U8TO32_LITTLE (SIGMA.drop 8))
  x.set 15 (U8TO32_LITTLE (SIGMA.drop 12))

def forroVersetup
    (x : State)
    (configuracaoRodada configuracaoDispositivo : List Byte) :
    State :=
  let x := x.set 4 (U8TO32_LITTLE configuracaoRodada)
  let x := x.set 5 (U8TO32_LITTLE (configuracaoRodada.drop 4))
  let x := x.set 6 (U8TO32_LITTLE configuracaoDispositivo)
  let x := x.set 7
    (U8TO32_LITTLE (configuracaoDispositivo.drop 4))
  let x := x.set 12
    (U8TO32_LITTLE (configuracaoRodada.drop 8))
  let x := x.set 13
    (U8TO32_LITTLE (configuracaoRodada.drop 12))
  let x := x.set 14
    (U8TO32_LITTLE (configuracaoDispositivo.drop 8))
  x.set 15 (U8TO32_LITTLE (configuracaoDispositivo.drop 12))

def forroIvsetup (x : State) (iv : List Byte) : State :=
  let x := x.set 4 0
  let x := x.set 5 0
  let x := x.set 12 (U8TO32_LITTLE iv)
  x.set 13 (U8TO32_LITTLE (iv.drop 4))

/- The 64-bit block counter in words 4 and 5. -/
def incrementCounter (x : State) : State :=
  let x := x.set 4 (x[4] + 1)
  if x[4] = 0 then x.set 5 (x[5] + 1) else x

/- The 64-bit block counter, in words 5 and 4 of the state. -/
def contador (x : State) : BitVec 64 :=
  x[5] ++ x[4]

theorem toNat_contador
    (x : State) :
    (contador x).toNat = 2 ^ 32 * x[5].toNat + x[4].toNat := by
  have hLow : x[4].toNat < 2 ^ 32 := x[4].isLt
  unfold contador
  rw [BitVec.toNat_append, ← Nat.shiftLeft_add_eq_or_of_lt hLow,
    Nat.shiftLeft_eq, Nat.mul_comm]

theorem incrementCounter_quatro
    (x : State) :
    (incrementCounter x)[4] = x[4] + 1 := by
  unfold incrementCounter
  simp only [Vector.getElem_set_self]
  split
  · rw [Vector.getElem_set_ne _ _ (by decide),
      Vector.getElem_set_self]
  · rw [Vector.getElem_set_self]

/- The carry of word 4 goes into word 5. -/
theorem incrementCounter_cinco
    (x : State) :
    (incrementCounter x)[5] =
      if x[4] + 1 = 0 then x[5] + 1 else x[5] := by
  unfold incrementCounter
  simp only [Vector.getElem_set_self]
  split
  · rw [Vector.getElem_set_self,
      Vector.getElem_set_ne _ _ (by decide)]
  · rw [Vector.getElem_set_ne _ _ (by decide)]

/- `c[i] = m[i] ^ output[i]` over the bytes of `m`. -/
def xorBytes (m output : List Byte) : List Byte :=
  List.zipWith (· ^^^ ·) m output

/- `forro_encrypt_bytes`: the final context and the output. -/
def forroEncryptBytes
    (x : State)
    (m : List Byte) : State × List Byte :=
  if m.length = 0 then
    (x, [])
  else
    let output := forro x
    let x := incrementCounter x
    if m.length ≤ 64 then
      (x, xorBytes m output)
    else
      let rest := forroEncryptBytes x (m.drop 64)
      (rest.1, xorBytes (m.take 64) output ++ rest.2)
termination_by m.length
decreasing_by
  simp only [List.length_drop]
  omega

------------------------------------------------------------
-- Counting Quarter-Rounds
------------------------------------------------------------

/- The `i`-th call of `Q` in the body of the loop. -/
def quarterRound : Fin 8 → State → State
| 0, v => Q v 0 4 8 12 3
| 1, v => Q v 1 5 9 13 0
| 2, v => Q v 2 6 10 14 1
| 3, v => Q v 3 7 11 15 2
| 4, v => Q v 0 5 10 15 3
| 5, v => Q v 1 6 11 12 0
| 6, v => Q v 2 7 8 13 1
| 7, v => Q v 3 4 9 14 2

/- `state_vector` after the first `r` calls of `Q`. -/
def afterQuarterRounds : Nat → State → State
| 0, v => v
| r + 1, v =>
    quarterRound (Fin.ofNat 8 r) (afterQuarterRounds r v)

theorem ofNat_eight_mul_add
    (k j : Nat)
    (hj : j < 8) :
    Fin.ofNat 8 (8 * k + j) = ⟨j, hj⟩ := by
  apply Fin.ext
  simp only [Fin.val_ofNat]
  omega

theorem afterQuarterRounds_succ
    (r : Nat)
    (v : State) :
    afterQuarterRounds (r + 1) v =
      quarterRound (Fin.ofNat 8 r)
        (afterQuarterRounds r v) := rfl

/- One iteration of the loop is the next eight calls. -/
theorem afterQuarterRounds_add_eight
    (k : Nat)
    (v : State) :
    afterQuarterRounds (8 * k + 8) v =
      rodada (afterQuarterRounds (8 * k) v) := by
  have h0 : Fin.ofNat 8 (8 * k) = 0 :=
    ofNat_eight_mul_add k 0 (by omega)
  have h1 : Fin.ofNat 8 (8 * k + 1) = 1 :=
    ofNat_eight_mul_add k 1 (by omega)
  have h2 : Fin.ofNat 8 (8 * k + 2) = 2 :=
    ofNat_eight_mul_add k 2 (by omega)
  have h3 : Fin.ofNat 8 (8 * k + 3) = 3 :=
    ofNat_eight_mul_add k 3 (by omega)
  have h4 : Fin.ofNat 8 (8 * k + 4) = 4 :=
    ofNat_eight_mul_add k 4 (by omega)
  have h5 : Fin.ofNat 8 (8 * k + 5) = 5 :=
    ofNat_eight_mul_add k 5 (by omega)
  have h6 : Fin.ofNat 8 (8 * k + 6) = 6 :=
    ofNat_eight_mul_add k 6 (by omega)
  have h7 : Fin.ofNat 8 (8 * k + 7) = 7 :=
    ofNat_eight_mul_add k 7 (by omega)
  rw [afterQuarterRounds_succ (8 * k + 7),
    afterQuarterRounds_succ (8 * k + 6),
    afterQuarterRounds_succ (8 * k + 5),
    afterQuarterRounds_succ (8 * k + 4),
    afterQuarterRounds_succ (8 * k + 3),
    afterQuarterRounds_succ (8 * k + 2),
    afterQuarterRounds_succ (8 * k + 1),
    afterQuarterRounds_succ (8 * k),
    h0, h1, h2, h3, h4, h5, h6, h7]
  simp only [quarterRound, rodada]

/- The loop of `forro` makes its calls in order. -/
theorem iterate_rodada
    (k : Nat)
    (v : State) :
    rodada^[k] v = afterQuarterRounds (8 * k) v := by
  induction k with
  | zero => rfl
  | succ k ih =>
      rw [Function.iterate_succ_apply', ih,
        ← afterQuarterRounds_add_eight k v, Nat.mul_succ]

/- `forro` adds its input to the state after 56 calls. -/
theorem forroWords_eq
    (init : State) :
    forroWords init =
      feedForward init (afterQuarterRounds 56 init) := by
  rw [forroWords, rounds, iterate_rodada]

theorem getElem_forroWords
    (init : State)
    (i : Nat)
    (hi : i < 16) :
    (forroWords init)[i] =
      init[i] + (afterQuarterRounds 56 init)[i] := by
  simp [forroWords_eq, feedForward]

end Forro

end P4dra
