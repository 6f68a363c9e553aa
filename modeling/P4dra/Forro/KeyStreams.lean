import P4dra.Forro.Bijection
import P4dra.Forro.Streaming

/-
  The states of key streams beside those of proofs.

  `forro_ivsetup` completes the state of a stream where a
  proof mixes in its parameters. No two streams have a block
  state in common, and the state of a proof is one of a
  stream exactly for the identifiers that the configuration
  turns into the constant of the cipher.

  Main declarations:
    * `EntradaFluxo.bloco`
    * `fluxos_disjuntos`
    * `prova_no_fluxo_iff`
-/

------------------------------------------------------------
-- The State Of A Stream
------------------------------------------------------------

namespace P4dra

open Bytes (Byte slice)

namespace Forro

/- What a stream is computed from. -/
structure EntradaFluxo where
  chave : Vector Byte 32
  iv : Vector Byte 8
deriving DecidableEq

namespace EntradaFluxo

/- The state before the first block, over an old one. -/
def estado
    (f : EntradaFluxo)
    (x : State) : State :=
  forroIvsetup (forroKeysetup x f.chave.toList) f.iv.toList

/- The state of the `n`-th block. -/
def bloco
    (f : EntradaFluxo)
    (x : State)
    (n : Nat) : State :=
  incrementCounter^[n] (f.estado x)

theorem estado_eq
    (f : EntradaFluxo)
    (x : State) :
    f.estado x =
      #v[palavra f.chave.toList 0, palavra f.chave.toList 1,
        palavra f.chave.toList 2, palavra f.chave.toList 3, 0, 0,
        palavra SIGMA 0, palavra SIGMA 1,
        palavra f.chave.toList 4, palavra f.chave.toList 5,
        palavra f.chave.toList 6, palavra f.chave.toList 7,
        palavra f.iv.toList 0, palavra f.iv.toList 1,
        palavra SIGMA 2, palavra SIGMA 3] := by
  apply Vector.ext
  intro i hi
  interval_cases i <;>
    simp [estado, forroIvsetup, forroKeysetup, palavra]

/- The words of a block that are not of the counter. -/
theorem getElem_bloco
    (f : EntradaFluxo)
    (x : State)
    (n : Nat)
    {i : Nat}
    (hi : i < 16)
    (hLow : i ≠ 4)
    (hHigh : i ≠ 5) :
    (f.bloco x n)[i] = (f.estado x)[i] :=
  getElem_iterate (f.estado x) n hi hLow hHigh

theorem contador_bloco
    (f : EntradaFluxo)
    (x : State)
    (n : Nat) :
    contador (f.bloco x n) = BitVec.ofNat 64 n := by
  have hZero : contador (f.estado x) = 0#64 := by
    rw [estado_eq]
    simp [contador]
  rw [bloco, contador_iterate, hZero, BitVec.zero_add]

end EntradaFluxo

------------------------------------------------------------
-- States Of Two Streams
------------------------------------------------------------

/- The counter determines its two words. -/
theorem palavras_of_contador
    {v w : State}
    (hSame : contador v = contador w) :
    ∀ i (hi : i < 16), i = 4 ∨ i = 5 → v[i] = w[i] := by
  have hLow : v[4].toNat < 2 ^ 32 := v[4].isLt
  have hLow' : w[4].toNat < 2 ^ 32 := w[4].isLt
  have hValue := congrArg BitVec.toNat hSame
  rw [toNat_contador, toNat_contador] at hValue
  rintro i hi (rfl | rfl)
  · apply BitVec.eq_of_toNat_eq
    omega
  · apply BitVec.eq_of_toNat_eq
    omega

/- A state of a block says of which stream it is. -/
theorem entrada_of_bloco
    {f f' : EntradaFluxo}
    {x x' : State}
    {n n' : Nat}
    (hSame : f.bloco x n = f'.bloco x' n') :
    f = f' ∧ BitVec.ofNat 64 n = BitVec.ofNat 64 n' := by
  have hWord :
      ∀ i (hi : i < 16), i ≠ 4 → i ≠ 5 →
        (f.estado x)[i] = (f'.estado x')[i] := by
    intro i hi hLow hHigh
    rw [← f.getElem_bloco x n hi hLow hHigh,
      ← f'.getElem_bloco x' n' hi hLow hHigh, hSame]
  simp only [EntradaFluxo.estado_eq] at hWord
  have hChave : f.chave = f'.chave := by
    apply eq_of_palavras (k := 8) rfl
    intro i hi
    interval_cases i
    · exact hWord 0 (by omega) (by omega) (by omega)
    · exact hWord 1 (by omega) (by omega) (by omega)
    · exact hWord 2 (by omega) (by omega) (by omega)
    · exact hWord 3 (by omega) (by omega) (by omega)
    · exact hWord 8 (by omega) (by omega) (by omega)
    · exact hWord 9 (by omega) (by omega) (by omega)
    · exact hWord 10 (by omega) (by omega) (by omega)
    · exact hWord 11 (by omega) (by omega) (by omega)
  have hIv : f.iv = f'.iv := by
    apply eq_of_palavras (k := 2) rfl
    intro i hi
    interval_cases i
    · exact hWord 12 (by omega) (by omega) (by omega)
    · exact hWord 13 (by omega) (by omega) (by omega)
  have hContador := congrArg contador hSame
  rw [f.contador_bloco, f'.contador_bloco] at hContador
  cases f
  cases f'
  simp only at hChave hIv
  subst hChave hIv
  exact ⟨rfl, hContador⟩

/-
  Streams of different keys or different initial vectors call
  the cipher on different states, however long they are and
  whatever their contexts held before.
-/
theorem fluxos_disjuntos
    {f f' : EntradaFluxo}
    (hOther : f ≠ f')
    (x x' : State)
    (bytes bytes' : Nat) :
    List.Disjoint (estadosDosBlocos (f.estado x) bytes)
      (estadosDosBlocos (f'.estado x') bytes') := by
  rw [estadosDosBlocos_eq, estadosDosBlocos_eq]
  intro v hv hv'
  rcases List.mem_map.mp hv with ⟨n, _, hBloco⟩
  rcases List.mem_map.mp hv' with ⟨n', _, hBloco'⟩
  have hSame : f.bloco x n = f'.bloco x' n' :=
    hBloco.trans hBloco'.symm
  exact hOther (entrada_of_bloco hSame).1

/- One key with two initial vectors. -/
theorem fluxos_disjuntos_iv :
    List.Disjoint
      (estadosDosBlocos
        (EntradaFluxo.estado
          ⟨Vector.replicate 32 0, Vector.replicate 8 0⟩
          (Vector.replicate 16 0)) 65)
      (estadosDosBlocos
        (EntradaFluxo.estado
          ⟨Vector.replicate 32 0, Vector.replicate 8 1⟩
          (Vector.replicate 16 0)) 65) := by
  have hOther :
      (⟨Vector.replicate 32 0, Vector.replicate 8 0⟩ :
          EntradaFluxo) ≠
        ⟨Vector.replicate 32 0, Vector.replicate 8 1⟩ := by
    decide
  exact fluxos_disjuntos hOther _ _ 65 65

------------------------------------------------------------
-- Proofs In Streams
------------------------------------------------------------

theorem eq_of_palavras_toList
    {bytes bytes' : List Byte}
    (k : Nat)
    (hLength : bytes.length = 4 * k)
    (hLength' : bytes'.length = 4 * k)
    (hWords :
      ∀ i < k, palavra bytes i = palavra bytes' i) :
    bytes = bytes' := by
  let v : Vector Byte (4 * k) := ⟨bytes.toArray, hLength⟩
  let v' : Vector Byte (4 * k) := ⟨bytes'.toArray, hLength'⟩
  have hSame : v = v' := eq_of_palavras rfl hWords
  exact congrArg Vector.toList hSame

theorem length_configuracaoDispositivo
    {id configuracao : List Byte}
    (hId : id.length = 16)
    (hConfiguracao : configuracao.length = 32) :
    (configuracaoDispositivo id configuracao).length = 16 := by
  have hLow : (slice 0 8 id).length = 8 :=
    Bytes.length_slice (by omega)
  have hHigh : (slice 8 8 id).length = 8 :=
    Bytes.length_slice (by omega)
  rw [configuracaoDispositivo, List.length_append,
    length_xorBytes_slice hLow hConfiguracao (by omega),
    length_xorBytes_slice hHigh hConfiguracao (by omega)]

/- A block of the output is the message under the cipher. -/
theorem slice_forroEncryptBytes
    (x : State)
    (m : List Byte)
    {n : Nat}
    (hBlock : 64 * (n + 1) ≤ m.length) :
    slice (64 * n) 64 (forroEncryptBytes x m).2 =
      xorBytes (slice (64 * n) 64 m)
        (forro (incrementCounter^[n] x)) := by
  have hLong : n + 1 ≤ blocos m.length := by
    unfold blocos
    omega
  rcases Nat.exists_eq_add_of_le hLong with ⟨resto, hCount⟩
  have hNext :
      incrementCounter^[1] (incrementCounter^[n] x) =
        incrementCounter^[n + 1] x := by
    rw [Nat.add_comm n 1, Function.iterate_add_apply]
  have hSplit :
      (estados x (blocos m.length)).flatMap forro =
        (estados x n).flatMap forro ++
          (forro (incrementCounter^[n] x) ++
            (estados (incrementCounter^[n + 1] x)
              resto).flatMap forro) := by
    rw [hCount, Nat.add_assoc, estados_add, estados_add, hNext,
      List.flatMap_append, List.flatMap_append]
    simp only [estados, List.range_one, List.map_singleton,
      Function.iterate_zero, id_eq, List.flatMap_singleton]
  have hFront :
      ((estados x n).flatMap forro).length = 64 * n := by
    rw [length_flatMap_forro, length_estados]
  rw [forroEncryptBytes_eq, hSplit, xorBytes, slice,
    List.drop_zipWith, List.take_zipWith,
    List.drop_left' hFront, List.take_left' (length_forro _)]
  rfl

/- The identifier under the configuration is the constant. -/
theorem prova_no_fluxo
    (input x : State)
    {configuracao : Vector Byte 32}
    {e : EntradaProva}
    (hSigma :
      configuracaoDispositivo e.idDispositivo.toList
          configuracao.toList =
        SIGMA) :
    ∃ (f : EntradaFluxo) (n : BitVec 64),
      e.estado input configuracao = f.bloco x n.toNat := by
  let v := e.estado input configuracao
  rcases exists_palavras (n := 8) (k := 2) rfl
      (fun i => #v[v[12], v[13]].getD i 0) with ⟨iv, hIv⟩
  have hEstado :=
    forroVersetup_forroKeysetup input e.chave.toList
      (configuracaoRodada e.idRodada.toList e.nonce.toList
        configuracao.toList) SIGMA
  have hProva :
      v =
        forroVersetup (forroKeysetup input e.chave.toList)
          (configuracaoRodada e.idRodada.toList e.nonce.toList
            configuracao.toList) SIGMA := by
    rw [← hSigma]
    rfl
  let f : EntradaFluxo := ⟨e.chave, iv⟩
  refine ⟨f, contador v, ?_⟩
  have hContador :
      contador (f.bloco x (contador v).toNat) = contador v := by
    rw [f.contador_bloco, BitVec.ofNat_toNat, BitVec.setWidth_eq]
  have hCounter := palavras_of_contador hContador
  have hWords := f.estado_eq x
  have hV := hProva.trans hEstado
  apply Vector.ext
  intro i hi
  by_cases hQuatro : i = 4
  · exact (hCounter i hi (Or.inl hQuatro)).symm
  · by_cases hCinco : i = 5
    · exact (hCounter i hi (Or.inr hCinco)).symm
    · rw [f.getElem_bloco x _ hi hQuatro hCinco]
      by_cases hDoze : i = 12
      · subst hDoze
        simp only [hWords]
        exact (hIv 0 (by omega)).symm
      · by_cases hTreze : i = 13
        · subst hTreze
          simp only [hWords]
          exact (hIv 1 (by omega)).symm
        · change v[i] = (f.estado x)[i]
          simp only [hV, hWords]
          interval_cases i <;> first | rfl | contradiction

/-
  The state of a proof is the one of a block of some stream
  exactly when the configuration turns the identifier into
  the constant. There is one such stream and block then, the
  key is the device's, and the proof deciphers the block.
-/
theorem prova_no_fluxo_iff
    (input x : State)
    (configuracao : Vector Byte 32)
    (e : EntradaProva) :
    ((∃ (f : EntradaFluxo) (n : BitVec 64),
        e.estado input configuracao = f.bloco x n.toNat) ↔
      configuracaoDispositivo e.idDispositivo.toList
          configuracao.toList =
        SIGMA) ∧
      ∀ (f : EntradaFluxo) (n : BitVec 64),
        e.estado input configuracao = f.bloco x n.toNat →
          f.chave = e.chave ∧
            (∀ (f' : EntradaFluxo) (n' : BitVec 64),
              e.estado input configuracao =
                  f'.bloco x n'.toNat →
                f' = f ∧ n' = n) ∧
            ∀ m : List Byte,
              64 * (n.toNat + 1) ≤ m.length →
                xorBytes
                    (slice (64 * n.toNat) 64
                      (forroEncryptBytes (f.estado x) m).2)
                    (forro (e.estado input configuracao)) =
                  slice (64 * n.toNat) 64 m := by
  have hWords :=
    fun (f : EntradaFluxo) (n : Nat)
        (hSame : e.estado input configuracao = f.bloco x n)
        (i : Nat) (hi : i < 16) (hLow : i ≠ 4)
        (hHigh : i ≠ 5) =>
      (congrArg (fun v : State => v[i]) hSame).trans
        (f.getElem_bloco x n hi hLow hHigh)
  have hEstado :
      e.estado input configuracao = _ :=
    forroVersetup_forroKeysetup input e.chave.toList
      (configuracaoRodada e.idRodada.toList e.nonce.toList
        configuracao.toList)
      (configuracaoDispositivo e.idDispositivo.toList
        configuracao.toList)
  simp only [hEstado, EntradaFluxo.estado_eq] at hWords
  refine ⟨⟨?_, prova_no_fluxo input x⟩, ?_⟩
  · rintro ⟨f, n, hSame⟩
    have hWord := hWords f n.toNat (hEstado.symm.trans hSame)
    apply eq_of_palavras_toList 4
      (length_configuracaoDispositivo (by simp) (by simp)) rfl
    intro i hi
    interval_cases i
    · exact hWord 6 (by omega) (by omega) (by omega)
    · exact hWord 7 (by omega) (by omega) (by omega)
    · exact hWord 14 (by omega) (by omega) (by omega)
    · exact hWord 15 (by omega) (by omega) (by omega)
  · intro f n hSame
    have hWord := hWords f n.toNat (hEstado.symm.trans hSame)
    refine ⟨?_, ?_, ?_⟩
    · apply eq_of_palavras (k := 8) rfl
      intro i hi
      interval_cases i
      · exact (hWord 0 (by omega) (by omega) (by omega)).symm
      · exact (hWord 1 (by omega) (by omega) (by omega)).symm
      · exact (hWord 2 (by omega) (by omega) (by omega)).symm
      · exact (hWord 3 (by omega) (by omega) (by omega)).symm
      · exact (hWord 8 (by omega) (by omega) (by omega)).symm
      · exact (hWord 9 (by omega) (by omega) (by omega)).symm
      · exact (hWord 10 (by omega) (by omega) (by omega)).symm
      · exact (hWord 11 (by omega) (by omega) (by omega)).symm
    · intro f' n' hSame'
      rcases entrada_of_bloco (hSame'.symm.trans hSame) with
        ⟨hEntrada, hBloco⟩
      rw [BitVec.ofNat_toNat, BitVec.ofNat_toNat,
        BitVec.setWidth_eq, BitVec.setWidth_eq] at hBloco
      exact ⟨hEntrada, hBloco⟩
    · intro m hLength
      have hSlice : (slice (64 * n.toNat) 64 m).length = 64 :=
        Bytes.length_slice (by omega)
      have hBlock :=
        slice_forroEncryptBytes (f.estado x) m hLength
      have hForro :
          forro (e.estado input configuracao) =
            forro (incrementCounter^[n.toNat] (f.estado x)) := by
        rw [hSame]
        rfl
      rw [hBlock, hForro]
      apply xorBytes_xorBytes
      rw [hSlice, length_forro]

end Forro

end P4dra
