import P4dra.Tools.ProofSender
import P4dra.Tools.RecordLookup

/-
  Records that `envia_provas_arquivo` should skip.

  The loop tests what the conversions of a row return, and has
  a branch for an error that goes on behind the next row. The
  conversions return zero for every text, so the branch is
  never taken, and a frame is sent for every row.

  Main declarations:
    * `EnviaProvasArquivo.mainComDesvio`, `mainComDesvio_eq`
    * `EnviaProvasArquivo.BemFormada`
    * `EnviaProvasArquivo.enviaSoBemFormadas_iff`
-/

------------------------------------------------------------
-- The Branch For An Error
------------------------------------------------------------

namespace P4dra

open Bytes (Byte slice swapWords)
open Tna (Frame)

namespace Tools

namespace EnviaProvasArquivo

open VerificaRede (Completa)

/- What `hexstring_to_byte_array` returns. -/
def retornoDaConversao
    (_hexstring : List Char)
    (_len : Nat) : Int :=
  0

/-
  A turn of the loop, its branch for an error included: the
  table, the next `id` and the frame, if one is sent.
-/
def turnoComDesvio
    (idRodada : List Byte)
    (dados : Dados)
    (id : Nat) : Option (Dados × Nat × Option Frame) := do
  let row := trocarRow (dados.row (id % linhas))
  let dados := dados.set (id % linhas) row
  let idDispositivo ← hexstringToByteArray
    (Vector.replicate 16 0) row.idDispositivo.toList
    idDispositivoLen
  if retornoDaConversao row.idDispositivo.toList
      idDispositivoLen ≠ 0 then
    some (dados, id + 1 + 1, none)
  else
    let prova ← hexstringToByteArray
      (Vector.replicate 64 0) row.prova.toList provaLen
    if retornoDaConversao row.prova.toList provaLen ≠ 0 then
      some (dados, id + 1 + 1, none)
    else
      some
        (dados, id + 1,
          some
            (pacoteDe macControlador (srcMac id)
              ([0x2] ++ (idRodada ++ (idDispositivo.toList ++
                prova.toList)))))

/- The loop; every turn increases `id`, so fuel bounds it. -/
def lacoComDesvio
    (idRodada : List Byte)
    (quantidade : Nat) :
    Nat → Nat → Dados → Option (List Frame)
| 0, _, _ => some []
| fuel + 1, id, dados =>
    if id < quantidade then do
      let (dados, id, frame) ← turnoComDesvio idRodada dados id
      let frames ← lacoComDesvio idRodada quantidade fuel id dados
      some (frame.toList ++ frames)
    else
      some []

/- `main` with that loop. -/
def mainComDesvio
    (arquivo : List (List Char))
    (argv3 : List Char)
    (quantidadeProvas : Nat) : Option (List Frame) := do
  let dados ← carregar arquivo
  let idRodada ← hexstringToByteArray (Vector.replicate 16 0)
    (swapEndian argv3 idRodadaLen) idRodadaLen
  let quantidade := min quantidadeProvas idMax
  lacoComDesvio idRodada.toList quantidade quantidade 0 dados

/- No conversion leads to the branch. -/
theorem turnoComDesvio_eq
    (idRodada : List Byte)
    (dados : Dados)
    (id : Nat) :
    turnoComDesvio idRodada dados id =
      (turno idRodada dados id).map
        (fun result => (result.1, id + 1, some result.2)) := by
  unfold turnoComDesvio turno
  generalize trocarRow (dados.row (id % linhas)) = row
  dsimp only [Option.bind_eq_bind]
  cases hexstringToByteArray (Vector.replicate 16 0)
      row.idDispositivo.toList idDispositivoLen with
  | none => rfl
  | some idDispositivo =>
      cases hexstringToByteArray (Vector.replicate 64 0)
          row.prova.toList provaLen with
      | none => simp [retornoDaConversao]
      | some prova => simp [retornoDaConversao]

theorem lacoComDesvio_eq
    (idRodada : List Byte)
    (n k : Nat)
    (dados : Dados) :
    lacoComDesvio idRodada (k + n) n k dados =
      laco idRodada dados (List.range' k n) := by
  induction n generalizing k dados with
  | zero => rfl
  | succ n ih =>
      have hIndex : k + (n + 1) = k + 1 + n := by omega
      unfold lacoComDesvio
      rw [if_pos (by omega), List.range'_succ, laco,
        turnoComDesvio_eq]
      dsimp only [Option.bind_eq_bind]
      cases turno idRodada dados k with
      | none => rfl
      | some result =>
          rcases result with ⟨seguintes, frame⟩
          simp only [Option.map_some, Option.bind_some, hIndex,
            ih]
          rfl

/- The program never takes the branch. -/
theorem mainComDesvio_eq
    (arquivo : List (List Char))
    (argv3 : List Char)
    (quantidade : Nat) :
    mainComDesvio arquivo argv3 quantidade =
      main arquivo argv3 quantidade := by
  have hLaco := fun idRodada =>
    lacoComDesvio_eq idRodada (min quantidade idMax) 0
  simp only [Nat.zero_add] at hLaco
  simp only [mainComDesvio, main, hLaco, List.range_eq_range']

------------------------------------------------------------
-- The First Pass Over The Table
------------------------------------------------------------

/- Rows that no turn has come to are as they were read. -/
theorem laco_primeiraPassagem
    (idRodada : List Byte)
    (inicial : Dados)
    (n k : Nat)
    (dados : Dados)
    (hFim : k + n ≤ linhas)
    (hRows : ∀ i, k ≤ i → dados.row i = inicial.row i) :
    laco idRodada dados (List.range' k n) =
      some
        ((List.range' k n).map
          (fun id =>
            quadroDaRow idRodada id
              (trocarRow (inicial.row id)))) := by
  induction n generalizing k dados with
  | zero => rfl
  | succ n ih =>
      have hMod : k % linhas = k := Nat.mod_eq_of_lt (by omega)
      have hOutras :
          ∀ i, k + 1 ≤ i →
            Dados.row (dados.set k (trocarRow (dados.row k))) i =
              inicial.row i := by
        intro i hi
        rw [Dados.row, List.getD_eq_getElem?_getD,
          List.getElem?_set_ne (by omega),
          ← List.getD_eq_getElem?_getD]
        exact hRows i (by omega)
      rw [List.range'_succ, laco, turno_eq, hMod]
      dsimp only [Option.bind_eq_bind, Option.bind_some]
      rw [ih (k + 1) _ (by omega) hOutras, Option.bind_some,
        List.map_cons, hRows k (Nat.le_refl k)]

/- What is sent for at most one turn a row. -/
theorem main_primeiraPassagem
    {arquivo : List (List Char)}
    (argv3 : List Char)
    {quantidade : Nat}
    (hRoom : arquivo.length ≤ idMax)
    (hLinhas : quantidade ≤ linhas) :
    main arquivo argv3 quantidade =
      some
        ((List.range quantidade).map
          (fun id =>
            quadroDaRow
              (bytesDeDigitos 16
                (swapEndian argv3 idRodadaLen))
              id
              (trocarRow
                ((carregarArquivoMemoria arquivo).row id)))) := by
  have hMax : linhas ≤ idMax := by decide
  rcases hexstringToByteArray_eq (Vector.replicate 16 0)
      (swapEndian argv3 idRodadaLen) with
    ⟨idRodada, hRodada, hBytes⟩
  have hRodadaLen :
      hexstringToByteArray (Vector.replicate 16 0)
          (swapEndian argv3 idRodadaLen) idRodadaLen =
        some idRodada := hRodada
  have hLaco :=
    laco_primeiraPassagem idRodada.toList
      (carregarArquivoMemoria arquivo) quantidade 0 _
      (by omega) (fun i _ => rfl)
  unfold main carregar
  rw [if_pos hRoom, Nat.min_eq_left (by omega)]
  dsimp only [Option.bind_eq_bind, Option.bind_some]
  rw [hRodadaLen, Option.bind_some, List.range_eq_range', hLaco,
    hBytes]

theorem main_of_arquivoGrande
    {arquivo : List (List Char)}
    (argv3 : List Char)
    (quantidade : Nat)
    (hRoom : ¬ arquivo.length ≤ idMax) :
    main arquivo argv3 quantidade = none := by
  unfold main carregar
  rw [if_neg hRoom]
  rfl

------------------------------------------------------------
-- Well-Formed Records
------------------------------------------------------------

/- The fields of a line that are sent. -/
def idDaLinha (linha : List Char) : List Char :=
  (textoLido linha).take 32

def provaDaLinha (linha : List Char) : List Char :=
  slice 98 128 (textoLido linha)

/- A record whose identifier and proof are digits. -/
structure BemFormada (linha : List Char) : Prop where
  completa : Completa linha
  id : Hex.IsHex (idDaLinha linha)
  prova : Hex.IsHex (provaDaLinha linha)

instance (linha : List Char) : Decidable (BemFormada linha) :=
  decidable_of_iff
    (Completa linha ∧ Hex.IsHex (idDaLinha linha) ∧
      Hex.IsHex (provaDaLinha linha))
    ⟨fun h => ⟨h.1, h.2.1, h.2.2⟩,
      fun h => ⟨h.completa, h.id, h.prova⟩⟩

/- The frame of the record with the index `id`. -/
def quadroDoRegistro
    (idRodada : List Byte)
    (id : Nat)
    (linha : List Char) : Frame :=
  pacoteDe macControlador (srcMac id)
    ([0x2] ++ (idRodada ++
      (swapWords (Hex.decode (idDaLinha linha)) ++
        swapWords (Hex.decode (provaDaLinha linha)))))

/- The frames of the well-formed records, in file order. -/
def quadrosBemFormados
    (idRodada : List Byte)
    (linhasLidas : List (List Char)) : List Frame :=
  (linhasLidas.zipIdx.filter (fun x => BemFormada x.1)).map
    (fun x => quadroDoRegistro idRodada x.2 x.1)

/- Exactly these are sent for the first `q` records. -/
def EnviaSoBemFormadas
    (arquivo : List (List Char))
    (argv3 : List Char)
    (q : Nat) : Prop :=
  mainComDesvio arquivo argv3 q =
    some
      (quadrosBemFormados
        (bytesDeDigitos 16 (swapEndian argv3 idRodadaLen))
        (arquivo.take q))

/- A well-formed record is sent as it should be. -/
theorem quadroDaRow_bemFormada
    (idRodada : List Byte)
    (id : Nat)
    {linha : List Char}
    (hLinha : BemFormada linha) :
    quadroDaRow idRodada id
        (trocarRow (sscanfRegistro linha .zero)) =
      quadroDoRegistro idRodada id linha := by
  rcases VerificaRede.sscanfLinha_of_completa hLinha.completa
    with ⟨lida, hLida, hId, hProva⟩
  have hLength := hLinha.completa.1
  have hIdLength : (idDaLinha linha).length = 2 * (4 * 4) := by
    rw [idDaLinha, List.length_take]
    omega
  have hProvaLength :
      (provaDaLinha linha).length = 2 * (4 * 16) :=
    Bytes.length_slice (by omega)
  have hIdBytes :
      bytesDeDigitos 16 (Hex.swapDigits (idDaLinha linha)) =
        swapWords (Hex.decode (idDaLinha linha)) :=
    bytesDeDigitos_trocados (k := 4) hLinha.id hIdLength
  have hProvaBytes :
      bytesDeDigitos 64 (Hex.swapDigits (provaDaLinha linha)) =
        swapWords (Hex.decode (provaDaLinha linha)) :=
    bytesDeDigitos_trocados (k := 16) hLinha.prova hProvaLength
  have hRow :
      (sscanfRegistro linha .zero).idDispositivo.toList =
          idDaLinha linha ∧
        (sscanfRegistro linha .zero).prova.toList =
          provaDaLinha linha := by
    rw [sscanfRegistro, hLida]
    exact ⟨hId, hProva⟩
  unfold quadroDaRow trocarRow
  rw [toList_swapEndianCampo, toList_swapEndianCampo, hRow.1,
    hRow.2, hIdBytes, hProvaBytes, quadroDoRegistro]

/- As many frames are sent as records are asked for. -/
theorem all_bemFormada_of_length
    {idRodada : List Byte}
    {linhasLidas : List (List Char)}
    (hLength :
      (quadrosBemFormados idRodada linhasLidas).length =
        linhasLidas.length) :
    ∀ linha ∈ linhasLidas, BemFormada linha := by
  rw [quadrosBemFormados, List.length_map] at hLength
  have hTodas :
      linhasLidas.zipIdx.filter (fun x => BemFormada x.1) =
        linhasLidas.zipIdx := by
    apply List.filter_sublist.eq_of_length
    rw [hLength, List.length_zipIdx]
  intro linha hMem
  rcases List.mem_iff_getElem?.mp hMem with ⟨i, hLinha⟩
  have hIndexada : (linha, i) ∈ linhasLidas.zipIdx :=
    List.mem_zipIdx_iff_getElem?.mpr hLinha
  simpa using List.filter_eq_self.mp hTodas _ hIndexada

/- Without a malformed record the frames are the right ones. -/
theorem quadros_of_all_bemFormada
    (idRodada : List Byte)
    (arquivo : List (List Char))
    {q : Nat}
    (hq : q ≤ arquivo.length)
    (hTodas : ∀ linha ∈ arquivo.take q, BemFormada linha) :
    (List.range q).map
        (fun id =>
          quadroDaRow idRodada id
            (trocarRow
              ((carregarArquivoMemoria arquivo).row id))) =
      quadrosBemFormados idRodada (arquivo.take q) := by
  have hFilter :
      (arquivo.take q).zipIdx.filter (fun x => BemFormada x.1) =
        (arquivo.take q).zipIdx := by
    apply List.filter_eq_self.mpr
    intro x hx
    have hLinha := List.mem_zipIdx_iff_getElem?.mp hx
    simpa using hTodas x.1 (List.mem_of_getElem? hLinha)
  rw [quadrosBemFormados, hFilter]
  apply List.ext_getElem?
  intro i
  rw [List.getElem?_map, List.getElem?_map,
    List.getElem?_zipIdx]
  by_cases hi : i < q
  · have hIn : i < arquivo.length := by omega
    have hLinha := List.getElem?_eq_getElem hIn
    have hRow :
        (carregarArquivoMemoria arquivo).row i =
          sscanfRegistro arquivo[i] .zero := by
      rw [Dados.row, carregarArquivoMemoria,
        List.getD_eq_getElem?_getD, List.getElem?_map, hLinha]
      rfl
    have hTake : (arquivo.take q)[i]? = some arquivo[i] := by
      rw [List.getElem?_take_of_lt hi, hLinha]
    have hBoa := hTodas _ (List.mem_of_getElem? hTake)
    rw [List.getElem?_range hi, hTake, Option.map_some,
      Option.map_some, Option.map_some, hRow,
      quadroDaRow_bemFormada idRodada i hBoa, Nat.zero_add]
  · have hRange : (List.range q)[i]? = none :=
      List.getElem?_eq_none (by rw [List.length_range]; omega)
    have hTake : (arquivo.take q)[i]? = none :=
      List.getElem?_eq_none (by rw [List.length_take]; omega)
    rw [hRange, hTake]
    rfl

/- The number of frames does not depend on the records. -/
theorem length_of_enviaSoBemFormadas
    {arquivo : List (List Char)}
    {argv3 : List Char}
    {q : Nat}
    (hq : q ≤ min linhas arquivo.length)
    (hEnvia : EnviaSoBemFormadas arquivo argv3 q) :
    arquivo.length ≤ idMax ∧
      (quadrosBemFormados
          (bytesDeDigitos 16 (swapEndian argv3 idRodadaLen))
          (arquivo.take q)).length =
        (arquivo.take q).length := by
  unfold EnviaSoBemFormadas at hEnvia
  rw [mainComDesvio_eq] at hEnvia
  by_cases hRoom : arquivo.length ≤ idMax
  · rw [main_primeiraPassagem argv3 hRoom (by omega)] at hEnvia
    refine ⟨hRoom, ?_⟩
    rw [← Option.some.inj hEnvia, List.length_map,
      List.length_range, List.length_take]
    omega
  · rw [main_of_arquivoGrande argv3 q hRoom] at hEnvia
    cases hEnvia

/-
  Only well-formed records are sent, and all of them, exactly
  when there is no other record to send and the file fits the
  table.
-/
theorem enviaSoBemFormadas_iff
    (arquivo : List (List Char))
    (argv3 : List Char)
    (q : Nat)
    (hq : q ≤ min linhas arquivo.length) :
    EnviaSoBemFormadas arquivo argv3 q ↔
      arquivo.length ≤ idMax ∧
        ∀ linha ∈ arquivo.take q, BemFormada linha := by
  constructor
  · intro hEnvia
    rcases length_of_enviaSoBemFormadas hq hEnvia with
      ⟨hRoom, hLength⟩
    exact ⟨hRoom, all_bemFormada_of_length hLength⟩
  · rintro ⟨hRoom, hTodas⟩
    have hQuadros :=
      quadros_of_all_bemFormada
        (bytesDeDigitos 16 (swapEndian argv3 idRodadaLen))
        arquivo (by omega : q ≤ arquivo.length) hTodas
    unfold EnviaSoBemFormadas
    rw [mainComDesvio_eq,
      main_primeiraPassagem argv3 hRoom (by omega), hQuadros]

/- A record whose identifier has characters that are no digits. -/
def linhaMalFormada : List Char :=
  List.replicate 32 'g' ++ ':' :: (List.replicate 64 '0' ++
    ':' :: (List.replicate 128 '0' ++ [':', '\n']))

theorem enviaSoBemFormadas_iff_malFormada :
    EnviaSoBemFormadas [linhaMalFormada] (List.replicate 32 '0')
        1 ↔
      [linhaMalFormada].length ≤ idMax ∧
        ∀ linha ∈ [linhaMalFormada].take 1,
          BemFormada linha :=
  enviaSoBemFormadas_iff [linhaMalFormada]
    (List.replicate 32 '0') 1 (by decide)

/- The frame of such a record is sent all the same. -/
theorem not_enviaSoBemFormadas_malFormada :
    Completa linhaMalFormada ∧
      ¬ Hex.IsHex (idDaLinha linhaMalFormada) ∧
      ¬ EnviaSoBemFormadas [linhaMalFormada]
          (List.replicate 32 '0') 1 := by
  have hId : ¬ Hex.IsHex (idDaLinha linhaMalFormada) := by
    decide +kernel
  refine ⟨by decide +kernel, hId, ?_⟩
  intro hEnvia
  have hLength :=
    (length_of_enviaSoBemFormadas (by decide) hEnvia).2
  exact hId
    (all_bemFormada_of_length hLength linhaMalFormada
      List.mem_cons_self).id

end EnviaProvasArquivo

end Tools

end P4dra
