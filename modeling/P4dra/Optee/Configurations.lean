import P4dra.Optee.Provisioning

/-
  The frames of `envia_configuracoes_arquivo` at the service.

  The round identifier of that sender is eight bytes shorter
  than the one that the service reads, and the sender does
  not swap the words. The service reads both fields eight
  bytes late, the second one past the end of the frame.

  Main declarations:
    * `campos_quadroSetup_deslocados`
    * `Casado`, `deslocados_iff`
    * `decodificados_iff`
-/

------------------------------------------------------------
-- Shifted Fields
------------------------------------------------------------

namespace P4dra

open Bytes (Byte slice swapWords)
open Tools
open Tools.EnviaConfiguracoesArquivo (cabecalho quadroSetup)

namespace Optee

namespace Service

/- A field of 32 bytes in four parts. -/
theorem exists_quatro_partes
    {xs : List Byte}
    (hLength : xs.length = 32) :
    ∃ a b c d : List Byte,
      a.length = 8 ∧ b.length = 8 ∧ c.length = 8 ∧
        d.length = 8 ∧ xs = a ++ (b ++ (c ++ d)) := by
  refine
    ⟨slice 0 8 xs, slice 8 8 xs, slice 16 8 xs,
      slice 24 8 xs, Bytes.length_slice (by omega),
      Bytes.length_slice (by omega),
      Bytes.length_slice (by omega),
      Bytes.length_slice (by omega), ?_⟩
  have hLast : slice 24 8 xs = xs.drop 24 :=
    List.take_of_length_le
      (by rw [List.length_drop, hLength])
  have hThird : xs.drop 16 = slice 16 8 xs ++ xs.drop 24 := by
    rw [slice, ← List.drop_drop (i := 8) (j := 16)]
    exact (List.take_append_drop 8 _).symm
  have hSecond : xs.drop 8 = slice 8 8 xs ++ xs.drop 16 := by
    rw [slice, ← List.drop_drop (i := 8) (j := 8)]
    exact (List.take_append_drop 8 _).symm
  rw [hLast, ← hThird, ← hSecond]
  exact (List.take_append_drop 8 xs).symm

theorem exists_duas_partes
    {xs : List Byte}
    (hLength : xs.length = 16) :
    ∃ a b : List Byte,
      a.length = 8 ∧ b.length = 8 ∧ xs = a ++ b := by
  refine
    ⟨xs.take 8, xs.drop 8, ?_, ?_,
      (List.take_append_drop 8 xs).symm⟩
  · rw [List.length_take, hLength]
    rfl
  · rw [List.length_drop, hLength]

/- What the service reads from a frame of this sender. -/
theorem campos_pacoteDe_deslocados
    {destMac a b c d e f g : List Byte}
    (resto : List Byte)
    (hDest : destMac.length = 6)
    (hA : a.length = 8)
    (hB : b.length = 8)
    (hC : c.length = 8)
    (hD : d.length = 8)
    (hE : e.length = 8)
    (hF : f.length = 8)
    (hG : g.length = 8) :
    let packet :=
      pacoteDe destMac macControlador
          ([0x5] ++ (List.replicate 8 0 ++
            (a ++ (b ++ (c ++ d)) ++ (e ++ f)))) ++
        (g ++ resto)
    setupChave packet = b ++ (c ++ (d ++ e)) ∧
      setupIdDispositivo packet = f ++ g := by
  have hHeader :
      ([0x5] ++ List.replicate 8 0 ++ a).length = 17 := by
    rw [List.length_append, hA]
    rfl
  have hChave : (b ++ (c ++ (d ++ e))).length = 32 := by
    simp only [List.length_append]
    omega
  have hAll :
      ([0x5] ++ List.replicate 8 0 ++ a ++
          (b ++ (c ++ (d ++ e)))).length = 49 := by
    rw [List.length_append, hHeader, hChave]
  have hId : (f ++ g).length = 16 := by
    simp only [List.length_append]
    omega
  refine ⟨?_, ?_⟩
  · have hSlice := Bytes.slice_middle (f ++ (g ++ resto))
      hHeader hChave
    refine (slice_pacoteDe hDest _ _ 17 32).trans ?_
    refine (congrArg (slice 17 32) ?_).trans hSlice
    simp only [List.append_assoc]
  · have hSlice := Bytes.slice_middle resto hAll hId
    refine (slice_pacoteDe hDest _ _ 49 16).trans ?_
    refine (congrArg (slice 49 16) ?_).trans hSlice
    simp only [List.append_assoc]

/-
  The shifted fields with swapped words are the fields only
  when every part is the part two places on, reversed.
-/
theorem deslocados_iff
    {a b c d e f g : List Byte}
    (hA : a.length = 8)
    (hB : b.length = 8)
    (hC : c.length = 8)
    (hD : d.length = 8)
    (hE : e.length = 8)
    (hF : f.length = 8) :
    (swapWords (b ++ (c ++ (d ++ e))) = a ++ (b ++ (c ++ d)) ∧
        swapWords (f ++ g) = e ++ f) ↔
      a ++ (b ++ (c ++ d)) =
          g ++ (swapWords g ++ (g ++ swapWords g)) ∧
        e ++ f = g ++ swapWords g := by
  have hSplit : ∀ {x : List Byte} (y : List Byte),
      x.length = 8 →
        swapWords (x ++ y) = swapWords x ++ swapWords y :=
    fun y hx => Bytes.swapWords_append 2 _ y hx
  have hSwapped : ∀ {x : List Byte}, x.length = 8 →
      (swapWords x).length = 8 :=
    fun hx => (Bytes.length_swapWords _).trans hx
  constructor
  · rintro ⟨hChave, hId⟩
    rw [hSplit _ hB, hSplit _ hC, hSplit _ hD] at hChave
    rw [hSplit _ hF] at hId
    rcases List.append_inj hChave
        ((hSwapped hB).trans hA.symm) with ⟨hBA, hChave⟩
    rcases List.append_inj hChave
        ((hSwapped hC).trans hB.symm) with ⟨hCB, hChave⟩
    rcases List.append_inj hChave
        ((hSwapped hD).trans hC.symm) with ⟨hDC, hED⟩
    rcases List.append_inj hId
        ((hSwapped hF).trans hE.symm) with ⟨hFE, hGF⟩
    have hEG : e = g := by
      rw [← hFE, ← hGF, Bytes.swapWords_swapWords]
    have hDG : d = swapWords g := by rw [← hED, hEG]
    have hCG : c = g := by
      rw [← hDC, hDG, Bytes.swapWords_swapWords]
    have hBG : b = swapWords g := by rw [← hCB, hCG]
    have hAG : a = g := by
      rw [← hBA, hBG, Bytes.swapWords_swapWords]
    rw [hAG, hBG, hCG, hDG, hEG, ← hGF]
    exact ⟨rfl, rfl⟩
  · rintro ⟨hChave, hId⟩
    have hG : g.length = 8 := by
      have hLength := congrArg List.length hId
      simp only [List.length_append,
        Bytes.length_swapWords] at hLength
      omega
    rcases List.append_inj hChave (hA.trans hG.symm) with
      ⟨hAG, hChave⟩
    rcases List.append_inj hChave
        (hB.trans (hSwapped hG).symm) with ⟨hBG, hChave⟩
    rcases List.append_inj hChave (hC.trans hG.symm) with
      ⟨hCG, hDG⟩
    rcases List.append_inj hId (hE.trans hG.symm) with
      ⟨hEG, hFG⟩
    rw [hSplit _ hB, hSplit _ hC, hSplit _ hD, hSplit _ hF,
      hAG, hBG, hCG, hDG, hEG, hFG,
      Bytes.swapWords_swapWords]
    exact ⟨rfl, rfl⟩

------------------------------------------------------------
-- What Is Decoded
------------------------------------------------------------

/- The service reads the key and the identifier of a record. -/
def Decodificado
    (captura : Captura)
    (r : Registro) : Prop :=
  chaveDoSetup captura = r.chave.map Char.toLower ∧
    idDoSetup captura = r.idDispositivo.map Char.toLower

/-
  The eight bytes after the frame and their reversed words
  alternate in the identifier and in the key.
-/
def Casado
    (r : Registro)
    (apos : List Byte) : Prop :=
  r.bytesChave =
      apos ++ (swapWords apos ++ (apos ++ swapWords apos)) ∧
    r.bytesId = apos ++ swapWords apos

/- What the service stores, in bytes. -/
theorem decodificado_iff_bytes
    (captura : Captura)
    (r : Registro) :
    Decodificado captura r ↔
      swapWords (setupChave captura.packet) = r.bytesChave ∧
        swapWords (setupIdDispositivo captura.packet) =
          r.bytesId := by
  have hChave :
      (setupChave captura.packet).length = 4 * 8 :=
    length_setupChave captura
  have hId :
      (setupIdDispositivo captura.packet).length = 4 * 4 :=
    length_setupIdDispositivo captura
  rw [Decodificado, chaveDoSetup, idDoSetup, digitosTrocados,
    digitosTrocados, Hex.swapDigits_encode 8 _ hChave,
    Hex.swapDigits_encode 4 _ hId,
    ← Hex.encode_decode 32 _ r.hexChave r.lengthChave,
    ← Hex.encode_decode 16 _ r.hexId r.lengthId,
    Hex.encode_inj, Hex.encode_inj]
  rfl

/- A frame of this sender, and the bytes after it. -/
theorem decodificado_iff_casado
    {captura : Captura}
    {r : Registro}
    (destMac : List Byte)
    {apos resto : List Byte}
    (hDest : destMac.length = 6)
    (hApos : apos.length = 8)
    (hCaptura :
      captura.packet =
        pacoteDe destMac macControlador
            ([0x5] ++ (List.replicate 8 0 ++
              (r.bytesChave ++ r.bytesId))) ++
          (apos ++ resto)) :
    Decodificado captura r ↔ Casado r apos := by
  have hChave := r.length_bytesChave
  rcases exists_quatro_partes hChave with
    ⟨a, b, c, d, hA, hB, hC, hD, hPartes⟩
  rcases exists_duas_partes r.length_bytesId with
    ⟨e, f, hE, hF, hPartesId⟩
  rw [hPartes, hPartesId] at hCaptura
  rcases campos_pacoteDe_deslocados resto hDest hA
      hB hC hD hE hF hApos with
    ⟨hLidaChave, hLidoId⟩
  rw [decodificado_iff_bytes, Casado, hCaptura, hLidaChave,
    hLidoId, hPartes, hPartesId]
  exact deslocados_iff hA hB hC hD hE hF

------------------------------------------------------------
-- Every Frame Of A File
------------------------------------------------------------

/- The memory after a frame that the service reads. -/
abbrev Apos := {apos : List Byte // 8 ≤ apos.length}

/- Every frame for a file is decoded to its record. -/
def Decodificados
    (registros : List Registro)
    (quantidade : Nat)
    (apos : Nat → Apos) : Prop :=
  ∃ frames,
    EnviaConfiguracoesArquivo.main
          (registros.map Registro.texto) quantidade =
        some frames ∧
      ∀ (k : Nat) (r : Registro) (frame : Tna.Frame),
        registros[k]? = some r →
        frames[k]? = some frame →
        ∀ captura : Captura,
          captura.packet = frame ++ (apos k).val →
          Decodificado captura r

/- The frame of a turn carries the record of its row. -/
theorem quadroSetup_registro
    {registros : List Registro}
    {r : Registro}
    {k : Nat}
    (hRegistro : registros[k]? = some r) :
    quadroSetup
        (carregarArquivoMemoria
          (registros.map Registro.texto)) k =
      pacoteDe (EnviaConfiguracoesArquivo.destMac k)
        macControlador
        ([0x5] ++ (List.replicate 8 0 ++
          (r.bytesChave ++ r.bytesId))) := by
  rcases row_registros hRegistro with ⟨hId, hChave⟩
  have hBytesChave := bytesDeDigitos_of_isHex (n := 32)
    r.hexChave r.lengthChave []
  have hBytesId := bytesDeDigitos_of_isHex (n := 16)
    r.hexId r.lengthId []
  rw [List.append_nil] at hBytesChave hBytesId
  rw [quadroSetup, cabecalho, hId, hChave, hBytesChave,
    hBytesId]
  rfl

theorem decodificado_iff_casado_registro
    {registros : List Registro}
    {r : Registro}
    {k : Nat}
    (hRegistro : registros[k]? = some r)
    (apos : Apos)
    {captura : Captura}
    (hCaptura :
      captura.packet =
        quadroSetup
            (carregarArquivoMemoria
              (registros.map Registro.texto)) k ++
          apos.val) :
    Decodificado captura r ↔ Casado r (apos.val.take 8) := by
  have hTake : (apos.val.take 8).length = 8 := by
    rw [List.length_take]
    exact Nat.min_eq_left apos.property
  rw [quadroSetup_registro hRegistro,
    ← List.take_append_drop 8 apos.val] at hCaptura
  exact
    decodificado_iff_casado
      (EnviaConfiguracoesArquivo.destMac k) rfl hTake hCaptura

/- The frame of a turn and the memory after it. -/
def capturaDe
    (registros : List Registro)
    (k : Nat)
    (apos : Apos) : Captura where
  packet :=
    quadroSetup
        (carregarArquivoMemoria
          (registros.map Registro.texto)) k ++
      apos.val
  length := by
    have hApos := apos.property
    simp only [quadroSetup, pacoteDe, cabecalho,
      List.length_append, length_bytesDeDigitos,
      EnviaConfiguracoesArquivo.destMac, macControlador,
      etherTypeCustom, List.length_cons, List.length_nil,
      List.length_replicate]
    omega

/-
  The sender and the service agree on a file that fits the
  table when every record sent matches the memory that lies
  after its frame, and on no other.
-/
theorem decodificados_iff
    (registros : List Registro)
    (quantidade : Nat)
    (apos : Nat → Apos) :
    Decodificados registros quantidade apos ↔
      registros.length ≤ EnviaConfiguracoesArquivo.idMax ∧
        ∀ (k : Nat) (r : Registro),
          k < quantidade →
          registros[k]? = some r →
          Casado r ((apos k).val.take 8) := by
  rw [Decodificados, EnviaConfiguracoesArquivo.main_eq,
    List.length_map]
  constructor
  · rintro ⟨frames, hMain, hEach⟩
    by_cases hRoom :
        registros.length ≤ EnviaConfiguracoesArquivo.idMax
    · rw [if_pos hRoom] at hMain
      have hFrames := Option.some.inj hMain
      refine ⟨hRoom, ?_⟩
      intro k r hk hRegistro
      have hLt : k < registros.length :=
        (List.getElem?_eq_some_iff.mp hRegistro).1
      have hMin :
          k < min quantidade EnviaConfiguracoesArquivo.idMax :=
        Nat.lt_min.mpr ⟨hk, by omega⟩
      have hFrame :
          frames[k]? =
            some
              (quadroSetup
                (carregarArquivoMemoria
                  (registros.map Registro.texto)) k) := by
        rw [← hFrames]
        exact getElem?_turnos.mpr ⟨hMin, rfl⟩
      exact
        (decodificado_iff_casado_registro hRegistro (apos k)
            rfl).mp
          (hEach k r _ hRegistro hFrame
            (capturaDe registros k (apos k)) rfl)
    · rw [if_neg hRoom] at hMain
      cases hMain
  · rintro ⟨hRoom, hEach⟩
    rw [if_pos hRoom]
    refine ⟨_, rfl, ?_⟩
    intro k r frame hRegistro hFrame captura hCaptura
    rcases getElem?_turnos.mp hFrame with ⟨hk, hQuadro⟩
    rw [← hQuadro] at hCaptura
    exact
      (decodificado_iff_casado_registro hRegistro (apos k)
          hCaptura).mpr
        (hEach k r (Nat.lt_min.mp hk).1 hRegistro)

/- A record whose key does not repeat its first words. -/
theorem decodificados_not_exemplo :
    ¬ ∀ (registros : List Registro) (quantidade : Nat)
        (apos : Nat → Apos),
      Decodificados registros quantidade apos := by
  intro hClaim
  rcases hClaim [registroExemplo] 1
      (fun _ => ⟨List.replicate 8 0, by decide⟩) with
    ⟨frames, hMain, hEach⟩
  have hFrames :
      some
          [quadroSetup
            (carregarArquivoMemoria
              [registroExemplo.texto]) 0] =
        some frames := by
    rw [← hMain, EnviaConfiguracoesArquivo.main_eq]
    rfl
  have hDecodificado :=
    hEach 0 registroExemplo _ rfl
      (by rw [← Option.some.inj hFrames]; rfl)
      (capturaDe [registroExemplo] 0
        ⟨List.replicate 8 0, by decide⟩) rfl
  have hBytes :=
    ((decodificado_iff_bytes _ _).mp hDecodificado).1
  revert hBytes
  decide +kernel

end Service

end Optee

end P4dra
