import Mathlib.Data.List.Nodup
import Mathlib.Data.List.Range
import P4dra.Forro.Cipher
import P4dra.Library.Memory

/-
  The stream cipher over whole messages.

  `forro_encrypt_bytes` is modelled twice: on lists of bytes,
  and on two pointers into one memory, which
  `forro_keystream_bytes` makes the same pointer.

  Main declarations:
    * `forroEncryptBytes_eq`
    * `forroEncryptBytesMem_eq`
    * `forroEncryptBytes_streaming`
-/

------------------------------------------------------------
-- The Block Counter
------------------------------------------------------------

namespace P4dra

namespace Forro

open Bytes (Byte)

theorem contador_incrementCounter
    (x : State) :
    contador (incrementCounter x) = contador x + 1 := by
  have hHigh : x[5].toNat < 2 ^ 32 := x[5].isLt
  have hLow : x[4].toNat < 2 ^ 32 := x[4].isLt
  have hOne : (1 : Word).toNat = 1 := rfl
  have hOneLong : (1 : BitVec 64).toNat = 1 := rfl
  have hZero : (0 : Word).toNat = 0 := rfl
  apply BitVec.eq_of_toNat_eq
  rw [BitVec.toNat_add, toNat_contador, toNat_contador,
    incrementCounter_quatro, incrementCounter_cinco,
    BitVec.toNat_add, hOne, hOneLong]
  by_cases hCarry : x[4] + 1 = 0
  · have hWrap := congrArg BitVec.toNat hCarry
    rw [BitVec.toNat_add, hOne, hZero] at hWrap
    rw [if_pos hCarry, BitVec.toNat_add, hOne]
    omega
  · have hNoWrap : (x[4].toNat + 1) % 2 ^ 32 ≠ 0 := by
      intro hWrap
      apply hCarry
      apply BitVec.eq_of_toNat_eq
      rw [BitVec.toNat_add, hOne, hZero, hWrap]
    rw [if_neg hCarry]
    omega

theorem getElem_incrementCounter
    (x : State)
    {i : Nat}
    (hi : i < 16)
    (hLow : i ≠ 4)
    (hHigh : i ≠ 5) :
    (incrementCounter x)[i] = x[i] := by
  unfold incrementCounter
  simp only [Vector.getElem_set_self]
  split
  · rw [Vector.getElem_set_ne _ _ (by omega),
      Vector.getElem_set_ne _ _ (by omega)]
  · rw [Vector.getElem_set_ne _ _ (by omega)]

theorem contador_iterate
    (x : State)
    (k : Nat) :
    contador (incrementCounter^[k] x) =
      contador x + BitVec.ofNat 64 k := by
  induction k with
  | zero => simp
  | succ k ih =>
      rw [Function.iterate_succ_apply',
        contador_incrementCounter, ih, BitVec.add_assoc]
      congr 1
      apply BitVec.eq_of_toNat_eq
      simp

------------------------------------------------------------
-- Blocks
------------------------------------------------------------

/- The number of 64-byte blocks of a message. -/
def blocos (bytes : Nat) : Nat :=
  (bytes + 63) / 64

/- The states that one call passes to `forro`, in order. -/
def estadosDosBlocos
    (x : State)
    (bytes : Nat) : List State :=
  if bytes = 0 then
    []
  else if bytes ≤ 64 then
    [x]
  else
    x :: estadosDosBlocos (incrementCounter x) (bytes - 64)
termination_by bytes

/- The states of the first `k` blocks. -/
def estados (x : State) (k : Nat) : List State :=
  (List.range k).map (fun i => incrementCounter^[i] x)

theorem estados_succ
    (x : State)
    (k : Nat) :
    estados x (k + 1) = x :: estados (incrementCounter x) k := by
  unfold estados
  rw [List.range_succ_eq_map, List.map_cons, List.map_map]
  rfl

theorem estados_add
    (x : State)
    (j k : Nat) :
    estados x (j + k) =
      estados x j ++ estados (incrementCounter^[j] x) k := by
  unfold estados
  rw [List.range_add, List.map_append, List.map_map]
  congr 1
  apply List.map_congr_left
  intro i _
  rw [Function.comp_apply, Nat.add_comm j i,
    Function.iterate_add_apply]

theorem length_flatMap_forro
    (states : List State) :
    (states.flatMap forro).length = 64 * states.length := by
  simp [List.length_flatMap, length_forro, List.map_const',
    Nat.mul_comm]

theorem blocos_of_le
    {bytes : Nat}
    (hPos : bytes ≠ 0)
    (hLe : bytes ≤ 64) :
    blocos bytes = 1 := by
  unfold blocos
  omega

theorem blocos_of_lt
    {bytes : Nat}
    (hLt : 64 < bytes) :
    blocos bytes = blocos (bytes - 64) + 1 := by
  unfold blocos
  omega

theorem estadosDosBlocos_eq
    (x : State)
    (bytes : Nat) :
    estadosDosBlocos x bytes = estados x (blocos bytes) := by
  fun_induction estadosDosBlocos x bytes with
  | case1 x => rfl
  | case2 x bytes hPos hLe =>
      rw [blocos_of_le hPos hLe]
      rfl
  | case3 x bytes hPos hGt ih =>
      have hLt : 64 < bytes := by omega
      rw [ih, blocos_of_lt hLt, estados_succ]

theorem length_estados
    (x : State)
    (k : Nat) :
    (estados x k).length = k := by
  simp [estados]

/- The counters of up to `2 ^ 64` blocks are different. -/
theorem nodup_estados
    (x : State)
    {k : Nat}
    (hBound : k ≤ 2 ^ 64) :
    (estados x k).Nodup := by
  unfold estados
  apply List.Nodup.map_on _ List.nodup_range
  intro i hi j hj hSame
  have hI := List.mem_range.mp hi
  have hJ := List.mem_range.mp hj
  have hCounters := congrArg contador hSame
  rw [contador_iterate, contador_iterate] at hCounters
  have hOffsets :=
    (BitVec.add_right_inj (contador x)).mp hCounters
  have hValues := congrArg BitVec.toNat hOffsets
  rw [BitVec.toNat_ofNat, BitVec.toNat_ofNat,
    Nat.mod_eq_of_lt (by omega), Nat.mod_eq_of_lt (by omega)]
    at hValues
  exact hValues

theorem getElem_iterate
    (x : State)
    (k : Nat)
    {i : Nat}
    (hi : i < 16)
    (hLow : i ≠ 4)
    (hHigh : i ≠ 5) :
    (incrementCounter^[k] x)[i] = x[i] := by
  induction k with
  | zero => rfl
  | succ k ih =>
      rw [Function.iterate_succ_apply',
        getElem_incrementCounter _ hi hLow hHigh, ih]

------------------------------------------------------------
-- The Output
------------------------------------------------------------

theorem length_xorBytes
    {m output : List Byte}
    (hLength : m.length ≤ output.length) :
    (xorBytes m output).length = m.length := by
  unfold xorBytes
  rw [List.length_zipWith]
  omega

theorem xorBytes_append
    {m output : List Byte}
    (m' output' : List Byte)
    (hLength : m.length = output.length) :
    xorBytes (m ++ m') (output ++ output') =
      xorBytes m output ++ xorBytes m' output' := by
  unfold xorBytes
  exact List.zipWith_append hLength

theorem xorBytes_xorBytes
    {m output : List Byte}
    (hLength : m.length ≤ output.length) :
    xorBytes (xorBytes m output) output = m := by
  have hOuter : (xorBytes m output).length ≤ output.length := by
    rw [length_xorBytes hLength]
    exact hLength
  apply List.ext_getElem
  · rw [length_xorBytes hOuter, length_xorBytes hLength]
  · intro i hi hi'
    simp only [xorBytes, List.getElem_zipWith]
    rw [BitVec.xor_assoc, BitVec.xor_self, BitVec.xor_zero]

theorem forroEncryptBytes_eq
    (x : State)
    (m : List Byte) :
    forroEncryptBytes x m =
      (incrementCounter^[blocos m.length] x,
        xorBytes m
          ((estados x (blocos m.length)).flatMap forro)) := by
  fun_induction forroEncryptBytes x m with
  | case1 x m hNil =>
      have hEmpty := List.eq_nil_of_length_eq_zero hNil
      subst hEmpty
      rfl
  | case2 x m hPos output x' hLe =>
      rw [blocos_of_le hPos hLe]
      simp [estados, output, x']
  | case3 x m hPos output x' hGt rest ih =>
      have hBlocks := @blocos_of_lt m.length (by omega)
      have hRest : (m.drop 64).length = m.length - 64 :=
        List.length_drop
      have hTake : (m.take 64).length = output.length := by
        rw [List.length_take, length_forro]
        omega
      have hSplit :=
        xorBytes_append (m.drop 64)
          ((estados x' (blocos (m.length - 64))).flatMap forro)
          hTake
      rw [List.take_append_drop] at hSplit
      rw [hRest] at ih
      rw [hBlocks, estados_succ, List.flatMap_cons, hSplit]
      simp only [rest, ih, Function.iterate_succ_apply, x']

/- The counter advances by the number of blocks. -/
theorem contador_forroEncryptBytes
    (x : State)
    (m : List Byte) :
    contador (forroEncryptBytes x m).1 =
      contador x + BitVec.ofNat 64 (blocos m.length) := by
  rw [forroEncryptBytes_eq]
  exact contador_iterate x (blocos m.length)

theorem getElem_forroEncryptBytes
    (x : State)
    (m : List Byte)
    {i : Nat}
    (hi : i < 16)
    (hLow : i ≠ 4)
    (hHigh : i ≠ 5) :
    (forroEncryptBytes x m).1[i] = x[i] := by
  rw [forroEncryptBytes_eq]
  exact getElem_iterate x (blocos m.length) hi hLow hHigh

theorem length_le_blocos
    (x : State)
    (m : List Byte) :
    m.length ≤
      ((estados x (blocos m.length)).flatMap forro).length := by
  rw [length_flatMap_forro, length_estados]
  unfold blocos
  omega

@[simp] theorem length_forroEncryptBytes
    (x : State)
    (m : List Byte) :
    (forroEncryptBytes x m).2.length = m.length := by
  rw [forroEncryptBytes_eq]
  exact length_xorBytes (length_le_blocos x m)

/- A message of whole blocks and what is sent behind it. -/
theorem forroEncryptBytes_append
    (x : State)
    {m1 : List Byte}
    (m2 : List Byte)
    (hBlocks : 64 ∣ m1.length) :
    forroEncryptBytes x (m1 ++ m2) =
      ((forroEncryptBytes (forroEncryptBytes x m1).1 m2).1,
        (forroEncryptBytes x m1).2 ++
          (forroEncryptBytes (forroEncryptBytes x m1).1 m2).2) := by
  have hCount :
      blocos (m1.length + m2.length) =
        blocos m1.length + blocos m2.length := by
    unfold blocos
    omega
  have hFirst :
      m1.length =
        ((estados x
          (blocos m1.length)).flatMap forro).length := by
    rw [length_flatMap_forro, length_estados]
    unfold blocos
    omega
  simp only [forroEncryptBytes_eq, List.length_append]
  rw [hCount, estados_add, List.flatMap_append,
    xorBytes_append _ _ hFirst, Nat.add_comm,
    Function.iterate_add_apply]

def forroDecryptBytes
    (x : State)
    (c : List Byte) : State × List Byte :=
  forroEncryptBytes x c

theorem forroDecryptBytes_forroEncryptBytes
    (x : State)
    (m : List Byte) :
    (forroDecryptBytes x (forroEncryptBytes x m).2).2 = m := by
  unfold forroDecryptBytes
  rw [forroEncryptBytes_eq x (forroEncryptBytes x m).2,
    length_forroEncryptBytes, forroEncryptBytes_eq x m]
  exact xorBytes_xorBytes (length_le_blocos x m)

------------------------------------------------------------
-- In Memory
------------------------------------------------------------

/- `for (i = 0; i < n; ++i) c[i] = m[i] ^ output[i];` -/
def lacoXor
    (output : List Byte)
    (m c n : Nat)
    (mem : Nat → Byte) : Nat → Byte :=
  Memory.storeLoop
    (fun i mem => mem (m + i) ^^^ output.getD i 0) c n mem

/- What is left of more than one block. -/
theorem toNat_sub_sessentaEQuatro
    {bytes : Word}
    (hGt : ¬ bytes ≤ 64) :
    64 < bytes.toNat ∧
      (bytes - 64).toNat = bytes.toNat - 64 := by
  have hSize : (64 : Word).toNat = 64 := rfl
  have hLt : 64 < bytes.toNat := by
    rw [BitVec.le_def, hSize] at hGt
    omega
  have hBound : bytes.toNat < 2 ^ 32 := bytes.isLt
  rw [BitVec.toNat_sub, hSize]
  omega

/-
  The loop `for (;;)` of `forro_encrypt_bytes`, with the
  pointers `m` and `c` into one memory.
-/
def lacoForroEncryptBytes
    (x : State)
    (mem : Nat → Byte)
    (m c : Nat)
    (bytes : Word) : State × (Nat → Byte) :=
  let output := forro x
  let x := incrementCounter x
  if bytes ≤ 64 then
    (x, lacoXor output m c bytes.toNat mem)
  else
    let mem := lacoXor output m c 64 mem
    lacoForroEncryptBytes x mem (m + 64) (c + 64) (bytes - 64)
termination_by bytes.toNat
decreasing_by
  rename_i hGt
  have hLeft := toNat_sub_sessentaEQuatro hGt
  omega

def forroEncryptBytesMem
    (x : State)
    (mem : Nat → Byte)
    (m c : Nat)
    (bytes : Word) : State × (Nat → Byte) :=
  if bytes = 0 then
    (x, mem)
  else
    lacoForroEncryptBytes x mem m c bytes

/- `forro_keystream_bytes` encrypts `stream` in place. -/
def forroKeystreamBytes
    (x : State)
    (mem : Nat → Byte)
    (stream : Nat)
    (bytes : Word) : State × (Nat → Byte) :=
  let mem :=
    Memory.storeLoop (fun _ _ => 0) stream bytes.toNat mem
  forroEncryptBytesMem x mem stream stream bytes

/- The loop reads each byte before it writes over it. -/
theorem lacoXor_eq
    {output : List Byte}
    {m c n : Nat}
    (mem : Nat → Byte)
    (hCompatible : Memory.Compatible m c n)
    (hLength : n ≤ output.length) :
    lacoXor output m c n mem =
      Memory.overwrite mem c
        (xorBytes (Memory.read mem m n) output) := by
  have hOutput :
      (xorBytes (Memory.read mem m n) output).length = n := by
    rw [length_xorBytes, Memory.length_read]
    rw [Memory.length_read]
    exact hLength
  have hLoop :=
    @Memory.storeLoop_eq Byte
      (fun i mem => mem (m + i) ^^^ output.getD i 0) c mem
      (xorBytes (Memory.read mem m n) output)
  rw [hOutput] at hLoop
  apply hLoop
  intro i byte hByte
  rcases List.getElem?_eq_some_iff.mp hByte with ⟨hi, hEq⟩
  have hIndex : i < n := by
    rw [← hOutput]
    exact hi
  have hBefore :
      ((xorBytes (Memory.read mem m n) output).take i).length =
        i := by
    rw [List.length_take]
    omega
  have hKept :
      Memory.overwrite mem c
          ((xorBytes (Memory.read mem m n) output).take i)
          (m + i) =
        mem (m + i) := by
    apply Memory.overwrite_outside
    rw [hBefore]
    rcases hCompatible with hSame | hFirst | hBehind
    · omega
    · omega
    · omega
  have hInside : i < output.length := by omega
  have hKey : output.getD i 0 = output[i] := by
    rw [List.getD_eq_getElem?_getD,
      List.getElem?_eq_getElem hInside, Option.getD_some]
  rw [hKept, hKey, ← hEq]
  simp [xorBytes, Memory.read]

/- The call on buffers that are the same or disjoint. -/
theorem lacoForroEncryptBytes_eq
    (x : State)
    (mem : Nat → Byte)
    (m c : Nat)
    (bytes : Word)
    (hPos : bytes.toNat ≠ 0)
    (hCompatible : Memory.Compatible m c bytes.toNat) :
    lacoForroEncryptBytes x mem m c bytes =
      ((forroEncryptBytes x
          (Memory.read mem m bytes.toNat)).1,
        Memory.overwrite mem c
          (forroEncryptBytes x
            (Memory.read mem m bytes.toNat)).2) := by
  fun_induction lacoForroEncryptBytes x mem m c bytes with
  | case1 x mem m c bytes output x' hLe =>
      have hSize : bytes.toNat ≤ 64 := hLe
      have hOutput : bytes.toNat ≤ output.length := by
        rw [length_forro]
        exact hSize
      rw [lacoXor_eq mem hCompatible hOutput]
      unfold forroEncryptBytes
      simp [hPos, hSize, output, x']
  | case2 x mem m c bytes output x' hGt mem' ih =>
      rcases toNat_sub_sessentaEQuatro hGt with ⟨hLt, hLeft⟩
      have hAll : bytes.toNat = 64 + (bytes.toNat - 64) := by
        omega
      have hBuffers :
          Memory.Compatible m c (64 + (bytes.toNat - 64)) := by
        rw [← hAll]
        exact hCompatible
      have hFirst : (Memory.read mem m 64).length = 64 :=
        Memory.length_read mem m 64
      have hBlock :
          forroEncryptBytes x (Memory.read mem m 64) =
            (x', xorBytes (Memory.read mem m 64) output) := by
        unfold forroEncryptBytes
        simp [output, x']
      have hXor :
          mem' =
            Memory.overwrite mem c
              (xorBytes (Memory.read mem m 64) output) :=
        lacoXor_eq mem hBuffers.front (length_forro x).ge
      have hWritten :
          (xorBytes (Memory.read mem m 64) output).length =
            64 := by
        rw [length_xorBytes, hFirst]
        rw [hFirst, length_forro]
      have hUnread :
          Memory.read mem' (m + 64) (bytes.toNat - 64) =
            Memory.read mem (m + 64) (bytes.toNat - 64) := by
        rw [hXor]
        exact
          Memory.read_overwrite_compatible mem hBuffers
            hWritten.le
      have hMessage :
          Memory.read mem m bytes.toNat =
            Memory.read mem m 64 ++
              Memory.read mem (m + 64) (bytes.toNat - 64) := by
        rw [← Memory.read_add, ← hAll]
      have hWhole : 64 ∣ (Memory.read mem m 64).length := by
        rw [hFirst]
      rw [hLeft, hUnread] at ih
      rw [ih (by omega) hBuffers.behind, hMessage,
        forroEncryptBytes_append x _ hWhole, hBlock,
        Memory.overwrite_append, hWritten, ← hXor]

theorem forroEncryptBytesMem_eq
    (x : State)
    (mem : Nat → Byte)
    (m c : Nat)
    (bytes : Word)
    (hCompatible : Memory.Compatible m c bytes.toNat) :
    forroEncryptBytesMem x mem m c bytes =
      ((forroEncryptBytes x
          (Memory.read mem m bytes.toNat)).1,
        Memory.overwrite mem c
          (forroEncryptBytes x
            (Memory.read mem m bytes.toNat)).2) := by
  unfold forroEncryptBytesMem
  by_cases hZero : bytes = 0
  · subst hZero
    unfold forroEncryptBytes
    simp
  · have hPos : bytes.toNat ≠ 0 := by
      intro hNat
      exact hZero (BitVec.eq_of_toNat_eq hNat)
    rw [if_neg hZero]
    exact
      lacoForroEncryptBytes_eq x mem m c bytes hPos hCompatible

theorem storeLoop_zeros
    (mem : Nat → Byte)
    (stream bytes : Nat) :
    Memory.storeLoop (fun _ _ => 0) stream bytes mem =
      Memory.overwrite mem stream (List.replicate bytes 0) := by
  have hLoop :=
    @Memory.storeLoop_eq Byte (fun _ _ => 0) stream mem
      (List.replicate bytes 0)
  rw [List.length_replicate] at hLoop
  apply hLoop
  intro i byte hByte
  have hMember := List.mem_of_getElem? hByte
  exact (List.eq_of_mem_replicate hMember).symm

/- The key stream is the encryption of zeros. -/
theorem forroKeystreamBytes_eq
    (x : State)
    (mem : Nat → Byte)
    (stream : Nat)
    (bytes : Word) :
    forroKeystreamBytes x mem stream bytes =
      ((forroEncryptBytes x
          (List.replicate bytes.toNat 0)).1,
        Memory.overwrite mem stream
          (forroEncryptBytes x
            (List.replicate bytes.toNat 0)).2) := by
  have hRead :=
    Memory.read_overwrite mem stream
      (List.replicate bytes.toNat (0 : Byte))
  rw [List.length_replicate] at hRead
  unfold forroKeystreamBytes
  rw [storeLoop_zeros,
    forroEncryptBytesMem_eq _ _ _ _ _ (Or.inl rfl), hRead,
    Memory.overwrite_overwrite]
  rw [length_forroEncryptBytes]

------------------------------------------------------------
-- The Streaming Law
------------------------------------------------------------

/- What one call does with a message. -/
structure Fluxo (x : State) (m : List Byte) : Prop where
  decifra :
    (forroDecryptBytes x (forroEncryptBytes x m).2).2 = m
  contador :
    contador (forroEncryptBytes x m).1 =
      contador x + BitVec.ofNat 64 (blocos m.length)
  palavras :
    ∀ (i : Nat) (hi : i < 16), i ≠ 4 → i ≠ 5 →
      (forroEncryptBytes x m).1[i] = x[i]
  blocosDistintos : (estadosDosBlocos x m.length).Nodup
  saida :
    (forroEncryptBytes x m).2 =
      xorBytes m ((estadosDosBlocos x m.length).flatMap forro)
  naMemoria :
    ∀ mem p c, Memory.Compatible p c m.length →
      Memory.read mem p m.length = m →
        forroEncryptBytesMem x mem p c
            (BitVec.ofNat 32 m.length) =
          ((forroEncryptBytes x m).1,
            Memory.overwrite mem c (forroEncryptBytes x m).2)
  fluxoDeChave :
    ∀ mem stream,
      forroKeystreamBytes x mem stream
          (BitVec.ofNat 32 m.length) =
        ((forroEncryptBytes x (List.replicate m.length 0)).1,
          Memory.overwrite mem stream
            (forroEncryptBytes x
              (List.replicate m.length 0)).2)

theorem fluxo
    (x : State)
    (m : List Byte)
    (hLength : m.length < 2 ^ 32) :
    Fluxo x m := by
  have hBytes : (BitVec.ofNat 32 m.length).toNat = m.length := by
    rw [BitVec.toNat_ofNat, Nat.mod_eq_of_lt hLength]
  constructor
  · exact forroDecryptBytes_forroEncryptBytes x m
  · exact contador_forroEncryptBytes x m
  · intro i hi hLow hHigh
    exact getElem_forroEncryptBytes x m hi hLow hHigh
  · rw [estadosDosBlocos_eq]
    apply nodup_estados
    unfold blocos
    omega
  · rw [estadosDosBlocos_eq, forroEncryptBytes_eq]
  · intro mem p c hCompatible hRead
    rw [forroEncryptBytesMem_eq, hBytes, hRead]
    rw [hBytes]
    exact hCompatible
  · intro mem stream
    rw [forroKeystreamBytes_eq, hBytes]

/-
  A message may be given in pieces of whole blocks, and no
  block of the key stream behind a message is used twice.
-/
theorem forroEncryptBytes_streaming
    (x : State)
    (m1 m2 : List Byte)
    (hBlocks : 64 ∣ m1.length)
    (hLength : m1.length + m2.length < 2 ^ 32) :
    forroEncryptBytes x (m1 ++ m2) =
        ((forroEncryptBytes (forroEncryptBytes x m1).1 m2).1,
          (forroEncryptBytes x m1).2 ++
            (forroEncryptBytes (forroEncryptBytes x m1).1 m2).2) ∧
      Fluxo x (m1 ++ m2) := by
  constructor
  · exact forroEncryptBytes_append x m2 hBlocks
  · apply fluxo
    rw [List.length_append]
    exact hLength

/- A whole block and one byte behind it. -/
theorem forroEncryptBytes_streaming_um :
    (64 ∣ (List.replicate 64 (0 : Byte)).length ∧
      (List.replicate 64 (0 : Byte)).length +
          [(1 : Byte)].length < 2 ^ 32) ∧
    Fluxo (Vector.replicate 16 0)
      (List.replicate 64 0 ++ [1]) := by
  have hBlocks : 64 ∣ (List.replicate 64 (0 : Byte)).length := by
    decide
  have hLength :
      (List.replicate 64 (0 : Byte)).length +
          [(1 : Byte)].length < 2 ^ 32 := by
    decide
  exact
    ⟨⟨hBlocks, hLength⟩,
      (forroEncryptBytes_streaming (Vector.replicate 16 0)
        (List.replicate 64 0) [1] hBlocks hLength).2⟩

end Forro
end P4dra
