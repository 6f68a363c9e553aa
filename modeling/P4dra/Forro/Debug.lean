import P4dra.Forro.Streaming
import P4dra.Library.Codec
import P4dra.Library.Decimal

/-
  The cipher of `forro-debug.c`, which prints its state.

  `forro_debug.o` replaces `forro_ref.o` in the program that
  the Makefile builds. It prints the state at the start of
  every round and after every call of `Q`, and twice at the
  end.

  Main declarations:
    * `Debug.forroDebug`
    * `Debug.forroDebug_eq`
    * `Debug.forroEncryptBytesDebug_eq`
-/

------------------------------------------------------------
-- Printed Text
------------------------------------------------------------

namespace P4dra

namespace Forro

open Bytes (Byte)

namespace Debug

/- `printf("%d", n)` -/
def decimal (n : Nat) : List Char :=
  Decimal.padded 0 n

/- `printf("State[%d]: %08x\t", n, word)` -/
def printWord
    (n : Nat)
    (word : Word) : List Char :=
  "State[".toList ++ (decimal n ++ ("]: ".toList ++
    (Hex.encode ((Codec.bits 4).encode word) ++ ['\t'])))

/- `print_state`: four lines of four words. -/
def printState (vector : State) : List Char :=
  (List.range 4).flatMap (fun s =>
    (List.range 4).flatMap (fun t =>
      printWord (4 * s + t) (vector[4 * s + t]?.getD 0)) ++
      ['\n'])

/- The heading of a round and the state below it. -/
def inicio
    (i : Nat)
    (vector : State) : List Char :=
  "##Round: ".toList ++ (decimal i ++ ("-inicio##\n".toList ++
    printState vector))

/- The heading of a call of `Q` and the state below it. -/
def resultado
    (i qr : Nat)
    (vector : State) : List Char :=
  "##Resultado: Round: ".toList ++ (decimal i ++ ('-' ::
    (decimal qr ++ ("##\n".toList ++ printState vector))))

/- What is printed behind the rounds. -/
def fim (vector : State) : List Char :=
  "----RESULTADO - Soma com inicial----\n".toList ++
    (printState vector ++ ("\n\n".toList ++
      ("----RESULTADO - conversao para u8----\n".toList ++
        (printState vector ++ "\n\n".toList))))

------------------------------------------------------------
-- Cipher
------------------------------------------------------------

/- A turn of the loop: the text and the state after it. -/
def rodadaDebug
    (i : Nat)
    (v : State) : List Char × State :=
  let texto := inicio i v
  let v := Q v 0 4 8 12 3
  let texto := texto ++ resultado i 0 v
  let v := Q v 1 5 9 13 0
  let texto := texto ++ resultado i 1 v
  let v := Q v 2 6 10 14 1
  let texto := texto ++ resultado i 2 v
  let v := Q v 3 7 11 15 2
  let texto := texto ++ resultado i 3 v
  let v := Q v 0 5 10 15 3
  let texto := texto ++ resultado i 4 v
  let v := Q v 1 6 11 12 0
  let texto := texto ++ resultado i 5 v
  let v := Q v 2 7 8 13 1
  let texto := texto ++ resultado i 6 v
  let v := Q v 3 4 9 14 2
  (texto ++ resultado i 7 v, v)

/- The loop over the rounds. -/
def rodadasDebug :
    List Nat → State → List Char × State
| [], v => ([], v)
| i :: is, v =>
    let rodada := rodadaDebug i v
    let resto := rodadasDebug is rodada.2
    (rodada.1 ++ resto.1, resto.2)

/- `forro`: the text that is printed and the bytes of `out`. -/
def forroDebug (init : State) : List Char × List Byte :=
  let rodadas := rodadasDebug (List.range rounds) init
  let v := feedForward init rodadas.2
  (rodadas.1 ++ fim v, v.toList.flatMap U32TO8_LITTLE)

/- `forro_encrypt_bytes` with this cipher, and its text. -/
def forroEncryptBytesDebug
    (x : State)
    (m : List Byte) : List Char × State × List Byte :=
  if m.length = 0 then
    ([], x, [])
  else
    let output := forroDebug x
    let x := incrementCounter x
    if m.length ≤ 64 then
      (output.1, x, xorBytes m output.2)
    else
      let rest := forroEncryptBytesDebug x (m.drop 64)
      (output.1 ++ rest.1, rest.2.1,
        xorBytes (m.take 64) output.2 ++ rest.2.2)
termination_by m.length
decreasing_by
  simp only [List.length_drop]
  omega

------------------------------------------------------------
-- States That Are Printed
------------------------------------------------------------

/- The text of a round, from the states by their number. -/
def textoDaRodada
    (estado : Nat → State)
    (i : Nat) : List Char :=
  inicio i (estado (8 * i)) ++
    (List.range 8).flatMap
      (fun qr => resultado i qr (estado (8 * i + (qr + 1))))

/- The text of all rounds. -/
def textoDasRodadas (estado : Nat → State) : List Char :=
  (List.range rounds).flatMap (textoDaRodada estado)

/- A turn prints the next eight states. -/
theorem rodadaDebug_eq
    (i : Nat)
    (v : State) :
    rodadaDebug i (afterQuarterRounds (8 * i) v) =
      (textoDaRodada (fun r => afterQuarterRounds r v) i,
        afterQuarterRounds (8 * (i + 1)) v) := by
  have hQuarto : ∀ (j : Nat) (hj : j < 8),
      afterQuarterRounds (8 * i + (j + 1)) v =
        quarterRound ⟨j, hj⟩
          (afterQuarterRounds (8 * i + j) v) := by
    intro j hj
    rw [← ofNat_eight_mul_add i j hj]
    rfl
  have hRange : List.range 8 = [0, 1, 2, 3, 4, 5, 6, 7] := rfl
  have hFim :
      afterQuarterRounds (8 * (i + 1)) v =
        afterQuarterRounds (8 * i + (7 + 1)) v := rfl
  rw [textoDaRodada, hRange, hFim]
  simp only [List.flatMap_cons, List.flatMap_nil,
    List.append_nil]
  rw [hQuarto 7 (by omega), hQuarto 6 (by omega),
    hQuarto 5 (by omega), hQuarto 4 (by omega),
    hQuarto 3 (by omega), hQuarto 2 (by omega),
    hQuarto 1 (by omega), hQuarto 0 (by omega), Nat.add_zero]
  simp only [rodadaDebug, quarterRound, List.append_assoc]

/- The turns from one round on. -/
theorem rodadasDebug_eq
    (v : State)
    (n i : Nat) :
    rodadasDebug (List.range' i n)
        (afterQuarterRounds (8 * i) v) =
      ((List.range' i n).flatMap
          (textoDaRodada (fun r => afterQuarterRounds r v)),
        afterQuarterRounds (8 * (i + n)) v) := by
  induction n generalizing i with
  | zero => rfl
  | succ n ih =>
      have hIndex : i + 1 + n = i + (n + 1) := by omega
      rw [List.range'_succ, rodadasDebug, rodadaDebug_eq]
      dsimp only
      rw [ih (i + 1), hIndex, List.flatMap_cons]

/-
  The states after every number of calls of `Q` are printed,
  and the bytes are those of the cipher without prints.
-/
theorem forroDebug_eq
    (init : State) :
    forroDebug init =
      (textoDasRodadas (fun r => afterQuarterRounds r init) ++
          fim (forroWords init),
        forro init) := by
  have hRodadas := rodadasDebug_eq init rounds 0
  rw [← List.range_eq_range', Nat.mul_zero, Nat.zero_add,
    afterQuarterRounds] at hRodadas
  have hWords :
      feedForward init (afterQuarterRounds (8 * rounds) init) =
        forroWords init :=
    (forroWords_eq init).symm
  unfold forroDebug
  rw [hRodadas]
  dsimp only
  rw [hWords, forro, textoDasRodadas]

/- The prints change no output; they are those of the blocks. -/
theorem forroEncryptBytesDebug_eq
    (x : State)
    (m : List Byte) :
    forroEncryptBytesDebug x m =
      ((estados x (blocos m.length)).flatMap
          (fun v => (forroDebug v).1),
        forroEncryptBytes x m) := by
  have hBytes : ∀ v, (forroDebug v).2 = forro v := by
    intro v
    rw [forroDebug_eq]
  fun_induction forroEncryptBytesDebug x m with
  | case1 x m hNil =>
      rw [forroEncryptBytes, if_pos hNil, hNil]
      rfl
  | case2 x m hPos output x' hLe =>
      rw [forroEncryptBytes, if_neg hPos, if_pos hLe,
        blocos_of_le hPos hLe, hBytes]
      simp [estados, output, x']
  | case3 x m hPos output x' hGt rest ih =>
      have hBlocks := @blocos_of_lt m.length (by omega)
      have hRest : (m.drop 64).length = m.length - 64 :=
        List.length_drop
      rw [hRest] at ih
      rw [forroEncryptBytes, if_neg hPos, if_neg hGt, hBlocks,
        estados_succ, List.flatMap_cons, hBytes]
      simp only [rest, ih, output, x']

end Debug

end Forro

end P4dra
