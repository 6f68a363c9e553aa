import P4dra.Tools.Senders

/-
  The program `envia_provas_arquivo`, which sends the proofs
  of a file.

  The loop swaps the words of a row in place every time that
  it comes to the row, and comes back to it after 20000 turns.
  A row is therefore sent swapped in every other pass over
  the table, and as it was read in the passes between.

  Main declarations:
    * `EnviaProvasArquivo.main`
    * `laco_eq`, `main_eq`
    * `quadroCorreto_iff`
-/

------------------------------------------------------------
-- Program
------------------------------------------------------------

namespace P4dra

open Bytes (Byte swapWords)
open Tna (Frame)

namespace Tools

namespace EnviaProvasArquivo

def idMax : Nat := 1000000

/- The number of rows that are used. -/
def linhas : Nat := 20000

/- `src_mac` in the turn `id`. -/
def srcMac (id : Nat) : List Byte :=
  [0x52, 0x54, 0x00, byteDe (id / 65536),
    byteDe (id / 256 % 256), byteDe ((id + 1) % 256)]

/- A file of more than `ID_MAX` lines is stored past `dados`. -/
def carregar (arquivo : List (List Char)) : Option Dados :=
  if arquivo.length ≤ idMax then
    some (carregarArquivoMemoria arquivo)
  else
    none

/- `swapEndian` on a whole field of a row. -/
def swapEndianCampo
    {n : Nat}
    (campo : Vector Char n) : Vector Char n :=
  ⟨(swapEndian campo.toList n).toArray, by
    simp [swapEndian]⟩

/- The two calls of `swapEndian` on a row. -/
def trocarRow (row : IdChaveProva) : IdChaveProva :=
  { row with
      idDispositivo := swapEndianCampo row.idDispositivo
      prova := swapEndianCampo row.prova }

/-
  A turn of the loop: the table and the frame. The conversions
  always return zero, so the branch for an error is not taken.
-/
def turno
    (idRodada : List Byte)
    (dados : Dados)
    (id : Nat) : Option (Dados × Frame) := do
  let row := trocarRow (dados.row (id % linhas))
  let idDispositivo ← hexstringToByteArray
    (Vector.replicate 16 0) row.idDispositivo.toList
    idDispositivoLen
  let prova ← hexstringToByteArray
    (Vector.replicate 64 0) row.prova.toList provaLen
  some
    (dados.set (id % linhas) row,
      pacoteDe macControlador (srcMac id)
        ([0x2] ++ (idRodada ++ (idDispositivo.toList ++
          prova.toList))))

def laco
    (idRodada : List Byte) :
    Dados → List Nat → Option (List Frame)
| _, [] => some []
| dados, id :: ids => do
    let (dados, frame) ← turno idRodada dados id
    let frames ← laco idRodada dados ids
    some (frame :: frames)

/- `main`: the frames that are sent. -/
def main
    (arquivo : List (List Char))
    (argv3 : List Char)
    (quantidadeProvas : Nat) : Option (List Frame) := do
  let dados ← carregar arquivo
  let idRodada ← hexstringToByteArray (Vector.replicate 16 0)
    (swapEndian argv3 idRodadaLen) idRodadaLen
  laco idRodada.toList dados
    (List.range (min quantidadeProvas idMax))

------------------------------------------------------------
-- Orientation Of A Row
------------------------------------------------------------

theorem toList_swapEndianCampo
    {n : Nat}
    (campo : Vector Char n) :
    (swapEndianCampo campo).toList =
      Hex.swapDigits campo.toList :=
  swapEndian_of_length campo.length_toList

theorem swapEndianCampo_swapEndianCampo
    {n : Nat}
    (campo : Vector Char n) :
    swapEndianCampo (swapEndianCampo campo) = campo := by
  apply Vector.toList_inj.mp
  rw [toList_swapEndianCampo, toList_swapEndianCampo,
    Hex.swapDigits_swapDigits]

theorem trocarRow_trocarRow
    (row : IdChaveProva) :
    trocarRow (trocarRow row) = row := by
  simp only [trocarRow, swapEndianCampo_swapEndianCampo]

/- A row that was visited `n` times. -/
def orientada
    (n : Nat)
    (row : IdChaveProva) : IdChaveProva :=
  if n % 2 = 0 then row else trocarRow row

theorem trocarRow_orientada
    (n : Nat)
    (row : IdChaveProva) :
    trocarRow (orientada n row) = orientada (n + 1) row := by
  rw [orientada, orientada]
  by_cases hEven : n % 2 = 0
  · rw [if_pos hEven, if_neg (by omega)]
  · rw [if_neg hEven, if_pos (by omega), trocarRow_trocarRow]

/- How often the first `k` turns visit the row `i`. -/
def visitas (k i : Nat) : Nat :=
  (k + (linhas - 1) - i) / linhas

theorem visitas_self
    (k : Nat) :
    visitas k (k % linhas) = k / linhas := by
  rw [visitas, linhas]
  omega

theorem visitas_succ
    (k : Nat)
    {i : Nat}
    (hi : i < linhas) :
    visitas (k + 1) i =
      if i = k % linhas then
        visitas k i + 1
      else
        visitas k i := by
  rw [visitas, visitas]
  rw [linhas] at *
  split <;> omega

/- The table before the turn `k`. -/
def Orientada
    (inicial : Dados)
    (k : Nat)
    (dados : Dados) : Prop :=
  dados.length = inicial.length ∧
    ∀ i < linhas,
      dados.row i = orientada (visitas k i) (inicial.row i)

/- The table as it was read. -/
theorem orientada_zero
    (inicial : Dados) :
    Orientada inicial 0 inicial := by
  refine ⟨rfl, ?_⟩
  intro i hi
  have hZero : visitas 0 i = 0 := by
    rw [visitas]
    rw [linhas] at *
    omega
  rw [hZero]
  rfl

theorem row_set
    {dados : Dados}
    {i : Nat}
    (hi : i < dados.length)
    (row : IdChaveProva)
    (j : Nat) :
    Dados.row (dados.set i row) j =
      if j = i then row else dados.row j := by
  rw [Dados.row, Dados.row, List.getD_eq_getElem?_getD,
    List.getD_eq_getElem?_getD, List.getElem?_set]
  by_cases hEq : i = j
  · rw [if_pos hEq, if_pos hEq.symm, if_pos hi,
      Option.getD_some]
  · rw [if_neg hEq, if_neg (fun h => hEq h.symm)]

/- A turn swaps its own row and leaves the others. -/
theorem orientada_succ
    {inicial dados : Dados}
    {k : Nat}
    (hLinhas : linhas ≤ inicial.length)
    (hDados : Orientada inicial k dados) :
    Orientada inicial (k + 1)
      (dados.set (k % linhas)
        (trocarRow (dados.row (k % linhas)))) := by
  have hRow : k % linhas < linhas :=
    Nat.mod_lt k (by decide)
  have hLt : k % linhas < dados.length := by
    rw [hDados.1]
    omega
  refine ⟨by rw [List.length_set, hDados.1], ?_⟩
  intro i hi
  rw [row_set hLt, visitas_succ k hi]
  by_cases hEq : i = k % linhas
  · rw [if_pos hEq, if_pos hEq, ← hEq, hDados.2 i hi,
      trocarRow_orientada]
  · rw [if_neg hEq, if_neg hEq, hDados.2 i hi]

------------------------------------------------------------
-- Frames That Are Sent
------------------------------------------------------------

/- The frame for a row as it is in the table. -/
def quadroDaRow
    (idRodada : List Byte)
    (id : Nat)
    (row : IdChaveProva) : Frame :=
  pacoteDe macControlador (srcMac id)
    ([0x2] ++ (idRodada ++
      (bytesDeDigitos 16 row.idDispositivo.toList ++
        bytesDeDigitos 64 row.prova.toList)))

theorem turno_eq
    (idRodada : List Byte)
    (dados : Dados)
    (id : Nat) :
    turno idRodada dados id =
      some
        (dados.set (id % linhas)
            (trocarRow (dados.row (id % linhas))),
          quadroDaRow idRodada id
            (trocarRow (dados.row (id % linhas)))) := by
  rw [turno, quadroDaRow]
  generalize trocarRow (dados.row (id % linhas)) = row
  rcases hexstringToByteArray_eq (Vector.replicate 16 0)
      row.idDispositivo.toList with
    ⟨lido, hLido, hBytes⟩
  rcases hexstringToByteArray_eq (Vector.replicate 64 0)
      row.prova.toList with
    ⟨prova, hProva, hProvaBytes⟩
  dsimp only [Option.bind_eq_bind]
  rw [idDispositivoLen, provaLen, hLido, Option.bind_some,
    hProva, Option.bind_some, hBytes, hProvaBytes]

/- The frame of the turn `k`, from the table that was read. -/
def quadroProva
    (idRodada : List Byte)
    (inicial : Dados)
    (k : Nat) : Frame :=
  quadroDaRow idRodada k
    (orientada (k / linhas + 1) (inicial.row (k % linhas)))

/- The loop from the turn `k` on. -/
theorem laco_eq
    (idRodada : List Byte)
    {inicial : Dados}
    (hLinhas : linhas ≤ inicial.length) :
    ∀ (n k : Nat) (dados : Dados),
      Orientada inicial k dados →
        laco idRodada dados (List.range' k n) =
          some
            ((List.range' k n).map
              (quadroProva idRodada inicial)) := by
  intro n
  induction n with
  | zero =>
      intro k dados _
      rfl
  | succ n ih =>
      intro k dados hDados
      have hRow : k % linhas < linhas :=
        Nat.mod_lt k (by decide)
      have hQuadro :
          quadroDaRow idRodada k
              (trocarRow (dados.row (k % linhas))) =
            quadroProva idRodada inicial k := by
        rw [quadroProva, hDados.2 _ hRow, visitas_self,
          trocarRow_orientada]
      rw [List.range'_succ, laco, turno_eq]
      dsimp only [Option.bind_eq_bind, Option.bind_some]
      rw [ih (k + 1) _ (orientada_succ hLinhas hDados),
        Option.bind_some, List.map_cons, hQuadro]

/- The file has room in the table, or it is not read. -/
theorem main_eq
    {arquivo : List (List Char)}
    (argv3 : List Char)
    {quantidade : Nat}
    (hLinhas : linhas ≤ arquivo.length)
    (hQuantidade : quantidade ≤ idMax) :
    main arquivo argv3 quantidade =
      if arquivo.length ≤ idMax then
        some
          ((List.range quantidade).map
            (quadroProva
              (bytesDeDigitos 16
                (swapEndian argv3 idRodadaLen))
              (carregarArquivoMemoria arquivo)))
      else
        none := by
  rw [main, carregar, Nat.min_eq_left hQuantidade]
  by_cases hRoom : arquivo.length ≤ idMax
  · rcases hexstringToByteArray_eq (Vector.replicate 16 0)
        (swapEndian argv3 idRodadaLen) with
      ⟨idRodada, hRodada, hBytes⟩
    have hLength :
        linhas ≤ (carregarArquivoMemoria arquivo).length := by
      rw [carregarArquivoMemoria, List.length_map]
      exact hLinhas
    rw [if_pos hRoom, if_pos hRoom]
    dsimp only [Option.bind_eq_bind, Option.bind_some]
    have hRodadaLen :
        hexstringToByteArray (Vector.replicate 16 0)
            (swapEndian argv3 idRodadaLen) idRodadaLen =
          some idRodada := hRodada
    rw [hRodadaLen, Option.bind_some, List.range_eq_range',
      laco_eq _ hLength _ _ _ (orientada_zero _), hBytes]
  · rw [if_neg hRoom, if_neg hRoom]
    rfl

------------------------------------------------------------
-- What A Frame Carries
------------------------------------------------------------

/- The fields as the verifier reads them. -/
theorem campos_quadroDaRow
    {idRodada : List Byte}
    (hRodada : idRodada.length = 16)
    (id : Nat)
    (row : IdChaveProva) :
    replyIdDispositivo (quadroDaRow idRodada id row) =
        bytesDeDigitos 16 row.idDispositivo.toList ∧
      replyProva (quadroDaRow idRodada id row) =
        bytesDeDigitos 64 row.prova.toList := by
  have hId :=
    length_bytesDeDigitos 16 row.idDispositivo.toList
  have hProva := length_bytesDeDigitos 64 row.prova.toList
  rw [quadroDaRow]
  generalize bytesDeDigitos 16 row.idDispositivo.toList =
    idDispositivo at *
  generalize bytesDeDigitos 64 row.prova.toList = prova at *
  have hHeader :
      (macControlador ++ srcMac id ++ etherTypeCustom ++ [0x2] ++
          idRodada).length = 31 := by
    rw [List.length_append, hRodada]
    rfl
  have hBefore :
      (macControlador ++ srcMac id ++ etherTypeCustom ++ [0x2] ++
          idRodada ++ idDispositivo).length = 47 := by
    rw [List.length_append, hHeader, hId]
  constructor
  · have hSlice := Bytes.slice_middle prova hHeader hId
    refine (congrArg (Bytes.slice 31 16) ?_).trans hSlice
    simp only [pacoteDe, List.append_assoc]
  · have hSlice := Bytes.slice_middle [] hBefore hProva
    refine (congrArg (Bytes.slice 47 64) ?_).trans hSlice
    simp only [pacoteDe, List.append_assoc, List.append_nil]

/- The field of a record whose words are swapped or not. -/
theorem bytesDeDigitos_trocados
    {k : Nat}
    {texto : List Char}
    (hHex : Hex.IsHex texto)
    (hLength : texto.length = 2 * (4 * k)) :
    bytesDeDigitos (4 * k) (Hex.swapDigits texto) =
      swapWords (Hex.decode texto) := by
  have hBytes :=
    bytesDeDigitos_of_isHex (Hex.isHex_swapDigits hHex)
      ((Hex.length_swapDigits texto).trans hLength) []
  rw [List.append_nil] at hBytes
  rw [hBytes, Hex.decode_swapDigits k _ (by omega)]

/- The frame carries a record with swapped words. -/
def Carrega (frame : Frame) (r : Registro) : Prop :=
  replyIdDispositivo frame = swapWords r.bytesId ∧
    replyProva frame = swapWords (Hex.decode r.prova)

/- Swapping the words does not change the record. -/
def Simetrico (r : Registro) : Prop :=
  swapWords r.bytesId = r.bytesId ∧
    swapWords (Hex.decode r.prova) = Hex.decode r.prova

/-
  The frame of a turn is right in the first pass over the
  table and in every second one after it.
-/
theorem carrega_quadroProva_iff
    {registros : List Registro}
    {r : Registro}
    {k : Nat}
    (hRegistro : registros[k % linhas]? = some r)
    {idRodada : List Byte}
    (hRodada : idRodada.length = 16) :
    Carrega
        (quadroProva idRodada
          (carregarArquivoMemoria
            (registros.map Registro.texto)) k) r ↔
      k / linhas % 2 = 0 ∨ Simetrico r := by
  rcases sscanfRegistro_texto r .zero with ⟨hId, _, hProva⟩
  have hNotId := bytesDeDigitos_of_isHex (n := 16) r.hexId
    r.lengthId []
  have hNotProva := bytesDeDigitos_of_isHex (n := 64) r.hexProva
    r.lengthProva []
  rw [List.append_nil] at hNotId hNotProva
  have hSwapId :
      bytesDeDigitos 16 (Hex.swapDigits r.idDispositivo) =
        swapWords r.bytesId :=
    bytesDeDigitos_trocados (k := 4) r.hexId r.lengthId
  have hSwapProva :
      bytesDeDigitos 64 (Hex.swapDigits r.prova) =
        swapWords (Hex.decode r.prova) :=
    bytesDeDigitos_trocados (k := 16) r.hexProva r.lengthProva
  rcases campos_quadroDaRow hRodada k
      (orientada (k / linhas + 1)
        (sscanfRegistro r.texto .zero)) with
    ⟨hReplyId, hReplyProva⟩
  rw [Carrega, quadroProva, row_registros_eq hRegistro,
    hReplyId, hReplyProva]
  by_cases hEven : k / linhas % 2 = 0
  · rw [orientada, if_neg (by omega), trocarRow,
      toList_swapEndianCampo, toList_swapEndianCampo, hId,
      hProva, hSwapId, hSwapProva]
    exact ⟨fun _ => Or.inl hEven, fun _ => ⟨rfl, rfl⟩⟩
  · rw [orientada, if_pos (by omega), hId, hProva, hNotId,
      hNotProva]
    constructor
    · rintro ⟨hSameId, hSameProva⟩
      exact Or.inr ⟨hSameId.symm, hSameProva.symm⟩
    · rintro (hTurn | ⟨hSameId, hSameProva⟩)
      · exact absurd hTurn hEven
      · exact ⟨hSameId.symm, hSameProva.symm⟩

/- The frame `k` carries the record of its row. -/
def QuadroCorreto
    (registros : List Registro)
    (argv3 : List Char)
    (quantidade k : Nat) : Prop :=
  ∃ frames frame r,
    main (registros.map Registro.texto) argv3 quantidade =
        some frames ∧
      frames[k]? = some frame ∧
      registros[k % linhas]? = some r ∧
      Carrega frame r

/- The frame of the turn `k` of a run. -/
theorem getElem?_main
    {arquivo : List (List Char)}
    {argv3 : List Char}
    {quantidade k : Nat}
    {frames : List Frame}
    (hLinhas : linhas ≤ arquivo.length)
    (hQuantidade : quantidade ≤ idMax)
    (hk : k < quantidade)
    (hMain : main arquivo argv3 quantidade = some frames) :
    arquivo.length ≤ idMax ∧
      frames[k]? =
        some
          (quadroProva
            (bytesDeDigitos 16 (swapEndian argv3 idRodadaLen))
            (carregarArquivoMemoria arquivo) k) := by
  rw [main_eq argv3 hLinhas hQuantidade] at hMain
  by_cases hRoom : arquivo.length ≤ idMax
  · rw [if_pos hRoom] at hMain
    refine ⟨hRoom, ?_⟩
    rw [← Option.some.inj hMain, List.getElem?_map,
      List.getElem?_range hk, Option.map_some]
  · rw [if_neg hRoom] at hMain
    cases hMain

/- What a right frame says of its turn and its record. -/
theorem caso_of_quadroCorreto
    {registros : List Registro}
    {argv3 : List Char}
    {quantidade k : Nat}
    (hLinhas : linhas ≤ registros.length)
    (hQuantidade : quantidade ≤ idMax)
    (hk : k < quantidade)
    (hCorreto : QuadroCorreto registros argv3 quantidade k) :
    registros.length ≤ idMax ∧
      ∃ r, registros[k % linhas]? = some r ∧
        (k / linhas % 2 = 0 ∨ Simetrico r) := by
  rcases hCorreto with
    ⟨frames, frame, r, hMain, hGet, hRegistro, hCarrega⟩
  rcases getElem?_main (by rw [List.length_map]; exact hLinhas)
      hQuantidade hk hMain with
    ⟨hRoom, hQuadro⟩
  rw [List.length_map] at hRoom
  rw [hQuadro] at hGet
  rw [← Option.some.inj hGet] at hCarrega
  have hRodada :=
    length_bytesDeDigitos 16 (swapEndian argv3 idRodadaLen)
  exact
    ⟨hRoom, r, hRegistro,
      (carrega_quadroProva_iff hRegistro hRodada).mp hCarrega⟩

/-
  A frame is right exactly when its pass over the table is an
  even one or the record reads the same with swapped words,
  provided that the file fits the table.
-/
theorem quadroCorreto_iff
    {registros : List Registro}
    (argv3 : List Char)
    {quantidade k : Nat}
    (hLinhas : linhas ≤ registros.length)
    (hQuantidade : quantidade ≤ idMax)
    (hk : k < quantidade) :
    QuadroCorreto registros argv3 quantidade k ↔
      registros.length ≤ idMax ∧
        ∃ r, registros[k % linhas]? = some r ∧
          (k / linhas % 2 = 0 ∨ Simetrico r) := by
  constructor
  · exact caso_of_quadroCorreto hLinhas hQuantidade hk
  · rintro ⟨hRoom, r, hRegistro, hCaso⟩
    have hMap :
        linhas ≤ (registros.map Registro.texto).length := by
      rw [List.length_map]
      exact hLinhas
    have hMain := main_eq argv3 hMap hQuantidade
    rw [List.length_map, if_pos hRoom] at hMain
    have hGet := (getElem?_main hMap hQuantidade hk hMain).2
    have hRodada :=
      length_bytesDeDigitos 16 (swapEndian argv3 idRodadaLen)
    exact
      ⟨_, _, r, hMain, hGet, hRegistro,
        (carrega_quadroProva_iff hRegistro hRodada).mpr hCaso⟩

/- A file of one record, as often as the sender needs it. -/
def registrosIguais : List Registro :=
  List.replicate linhas registroExemplo

theorem linhas_le_registrosIguais :
    linhas ≤ registrosIguais.length := by
  rw [registrosIguais, List.length_replicate]

theorem quadroCorreto_iff_iguais :
    QuadroCorreto registrosIguais (List.replicate 32 '0') 1 0 ↔
      registrosIguais.length ≤ idMax ∧
        ∃ r, registrosIguais[0 % linhas]? = some r ∧
          (0 / linhas % 2 = 0 ∨ Simetrico r) :=
  quadroCorreto_iff (List.replicate 32 '0')
    linhas_le_registrosIguais (by decide) (by decide)

/- The first frame of the second pass is not swapped. -/
theorem quadroCorreto_not_segunda :
    ¬ ∀ (registros : List Registro) (argv3 : List Char)
        (quantidade k : Nat),
      linhas ≤ registros.length →
        quantidade ≤ idMax →
        k < quantidade →
        QuadroCorreto registros argv3 quantidade k := by
  intro hClaim
  have hCorreto :=
    caso_of_quadroCorreto linhas_le_registrosIguais
      (by decide) (by decide)
      (hClaim registrosIguais (List.replicate 32 '0')
        (linhas + 1) linhas linhas_le_registrosIguais
        (by decide) (by decide))
  rcases hCorreto with ⟨_, r, hRegistro, hCaso⟩
  have hFirst : registrosIguais[linhas % linhas]? =
      some registroExemplo := by
    rw [Nat.mod_self, registrosIguais,
      List.getElem?_replicate, if_pos (by decide)]
  rw [hFirst] at hRegistro
  rw [← Option.some.inj hRegistro] at hCaso
  rcases hCaso with hTurn | ⟨hId, _⟩
  · exact absurd hTurn (by decide)
  · revert hId
    decide +kernel

end EnviaProvasArquivo

end Tools

end P4dra
