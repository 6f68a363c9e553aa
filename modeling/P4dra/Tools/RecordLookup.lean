import P4dra.Tools.RecordFile

/-
  The two searches of `verifica_p4dra_rede`.

  The search of the file takes a line only when `sscanf` made
  its three conversions. The table holds whatever a line gave,
  so a line that breaks off after its identifier is found in
  the table with zeros for what is missing, and an identifier
  of zeros is found in a row that no line has filled.

  Main declarations:
    * `buscarPorIdMemoria`, `buscarPorId`
    * `Completa`, `BuscaSegura`
    * `buscas_agree_iff`
-/

------------------------------------------------------------
-- Searches
------------------------------------------------------------

namespace P4dra

open Bytes (slice)

namespace Tools

namespace VerificaRede

def idMax : Nat := 1000000

/- The key and the proof that a search copies. -/
abbrev Achado := Vector Char 64 × Vector Char 128

/- The key and the proof of a row with this identifier. -/
def daRow
    (idProcurado : Vector Char 32)
    (row : IdChaveProva) : Option Achado :=
  if row.idDispositivo = idProcurado then
    some (row.chave, row.prova)
  else
    none

/- The first row, among all, with the identifier. -/
def buscarPorIdMemoria
    (dados : Dados)
    (idProcurado : Vector Char 32) : Option Achado :=
  (List.range idMax).findSome?
    (fun i => daRow idProcurado (dados.row i))

/-
  The first line that is converted whole and has the
  identifier. The local arrays keep what they held.
-/
def buscarPorId
    (idProcurado : Vector Char 32) :
    IdChaveProva → List (List Char) → Option Achado
| _, [] => none
| locais, linha :: resto =>
    let (locais, n) := sscanfLinha linha locais
    if n = 3 then
      if locais.idDispositivo = idProcurado then
        some (locais.chave, locais.prova)
      else
        buscarPorId idProcurado locais resto
    else
      buscarPorId idProcurado locais resto

------------------------------------------------------------
-- Lines
------------------------------------------------------------

/- The line begins with the identifier. -/
def ComecaCom
    (idProcurado : Vector Char 32)
    (linha : List Char) : Prop :=
  (textoLido linha).take 32 = idProcurado.toList

instance (idProcurado : Vector Char 32) (linha : List Char) :
    Decidable (ComecaCom idProcurado linha) :=
  inferInstanceAs (Decidable (_ = _))

/- The line has the three fields and the colons before them. -/
def Completa (linha : List Char) : Prop :=
  226 ≤ (textoLido linha).length ∧
    (textoLido linha)[32]? = some ':' ∧
    (textoLido linha)[97]? = some ':'

instance (linha : List Char) : Decidable (Completa linha) :=
  inferInstanceAs (Decidable (_ ∧ _))

/- No field of zeros. -/
theorem not_mem_textoLido
    (linha : List Char) :
    '\x00' ∉ textoLido linha := by
  intro hMem
  have hNot := List.mem_takeWhile_imp hMem
  simp at hNot

theorem lerCaracteres_eq_some
    {n : Nat}
    {texto resto : List Char}
    {lido : Vector Char n}
    (hLer : lerCaracteres n texto = some (lido, resto)) :
    n ≤ texto.length ∧ lido.toList = texto.take n ∧
      resto = texto.drop n := by
  rw [lerCaracteres] at hLer
  split at hLer
  · rename_i hRoom
    cases hLer
    exact ⟨hRoom, Vector.toList_mk .., rfl⟩
  · cases hLer

theorem lerCaracteres_of_le
    {n : Nat}
    {texto : List Char}
    (hRoom : n ≤ texto.length) :
    ∃ lido : Vector Char n,
      lerCaracteres n texto = some (lido, texto.drop n) ∧
        lido.toList = texto.take n := by
  rw [lerCaracteres, dif_pos hRoom]
  exact ⟨_, rfl, Vector.toList_mk ..⟩

theorem lerDoisPontos_drop
    {texto : List Char}
    {n : Nat}
    (hColon : texto[n]? = some ':') :
    lerDoisPontos (texto.drop n) = some (texto.drop (n + 1)) := by
  rcases List.getElem?_eq_some_iff.mp hColon with ⟨hn, hGet⟩
  rw [List.drop_eq_getElem_cons hn, hGet]
  rfl

theorem lerDoisPontos_eq_some
    {texto resto : List Char}
    {n : Nat}
    (hLer : lerDoisPontos (texto.drop n) = some resto) :
    texto[n]? = some ':' ∧ resto = texto.drop (n + 1) := by
  cases hDrop : texto.drop n with
  | nil =>
      rw [hDrop] at hLer
      cases hLer
  | cons c tail =>
      have hHead : texto[n]? = some c := by
        have hZero := congrArg (·[0]?) hDrop
        simpa using hZero
      have hTail : texto.drop (n + 1) = tail := by
        rw [← List.tail_drop, hDrop]
        rfl
      rw [hDrop] at hLer
      rw [hHead, hTail]
      unfold lerDoisPontos at hLer
      split at hLer
      · rename_i resto' hCons
        cases hCons
        cases hLer
        exact ⟨rfl, rfl⟩
      · cases hLer

/- A complete line fills the row, whatever the row held. -/
theorem sscanfLinha_of_completa
    {linha : List Char}
    (hCompleta : Completa linha) :
    ∃ lida : IdChaveProva,
      (∀ row, sscanfLinha linha row = (lida, 3)) ∧
        lida.idDispositivo.toList = (textoLido linha).take 32 ∧
        lida.prova.toList = slice 98 128 (textoLido linha) := by
  rcases hCompleta with ⟨hLength, hFirst, hSecond⟩
  have hRoomId : 32 ≤ (textoLido linha).length := by omega
  have hRoomChave :
      64 ≤ ((textoLido linha).drop 33).length := by
    rw [List.length_drop]
    omega
  have hRoomProva :
      128 ≤ ((textoLido linha).drop 98).length := by
    rw [List.length_drop]
    omega
  rcases lerCaracteres_of_le hRoomId with
    ⟨id, hId, hIdTexto⟩
  rcases lerCaracteres_of_le hRoomChave with
    ⟨chave, hChave, _⟩
  rcases lerCaracteres_of_le hRoomProva with
    ⟨prova, hProva, hProvaTexto⟩
  refine ⟨⟨id, chave, prova⟩, ?_, hIdTexto, hProvaTexto⟩
  intro row
  have hDrop :
      ((textoLido linha).drop 33).drop 64 =
        (textoLido linha).drop 97 := by
    rw [List.drop_drop]
  rw [sscanfLinha, hId]
  simp only [lerDoisPontos_drop hFirst, Option.bind_some,
    hChave, hDrop, lerDoisPontos_drop hSecond, hProva]

/- A line that is too short for its identifier. -/
theorem sscanfLinha_of_curta
    {linha : List Char}
    (hShort : (textoLido linha).length < 32)
    (row : IdChaveProva) :
    sscanfLinha linha row = (row, 0) := by
  rw [sscanfLinha, lerCaracteres, dif_neg (by omega)]

/- A line with an identifier that is not complete. -/
theorem sscanfLinha_of_not_completa
    {linha : List Char}
    (hCompleta : ¬ Completa linha)
    (hLong : 32 ≤ (textoLido linha).length)
    (row : IdChaveProva) :
    (sscanfLinha linha row).2 ≠ 3 ∧
      (sscanfLinha linha row).1.prova = row.prova ∧
      (sscanfLinha linha row).1.idDispositivo.toList =
        (textoLido linha).take 32 := by
  rcases lerCaracteres_of_le hLong with ⟨id, hId, hIdTexto⟩
  rw [sscanfLinha, hId]
  dsimp only
  split
  · exact ⟨by simp, rfl, hIdTexto⟩
  · rename_i chave resto hChave
    split
    · exact ⟨by simp, rfl, hIdTexto⟩
    · rename_i prova fim hProva
      rcases Option.bind_eq_some_iff.mp hChave with
        ⟨antes, hColon, hLer⟩
      rcases lerDoisPontos_eq_some hColon with
        ⟨hFirst, hAntes⟩
      rw [hAntes] at hLer
      rcases lerCaracteres_eq_some hLer with ⟨_, _, hResto⟩
      rcases Option.bind_eq_some_iff.mp hProva with
        ⟨meio, hColon', hLer'⟩
      rw [hResto, List.drop_drop] at hColon'
      rcases lerDoisPontos_eq_some hColon' with
        ⟨hSecond, hMeio⟩
      rw [hMeio] at hLer'
      have hEnd := (lerCaracteres_eq_some hLer').1
      rw [List.length_drop] at hEnd
      exact
        absurd ⟨by omega, hFirst, hSecond⟩ hCompleta

/- Three conversions are made for a complete line only. -/
theorem completa_iff
    (linha : List Char)
    (row : IdChaveProva) :
    (sscanfLinha linha row).2 = 3 ↔ Completa linha := by
  constructor
  · intro hThree
    by_contra hNot
    by_cases hLong : 32 ≤ (textoLido linha).length
    · exact
        (sscanfLinha_of_not_completa hNot hLong row).1 hThree
    · rw [sscanfLinha_of_curta (by omega)] at hThree
      cases hThree
  · intro hCompleta
    rcases sscanfLinha_of_completa hCompleta with
      ⟨lida, hLida, _⟩
    rw [hLida]

/- The identifier that is read from a line. -/
theorem idDispositivo_sscanfLinha
    {linha : List Char}
    (hLong : 32 ≤ (textoLido linha).length)
    (row : IdChaveProva) :
    (sscanfLinha linha row).1.idDispositivo.toList =
      (textoLido linha).take 32 := by
  by_cases hCompleta : Completa linha
  · rcases sscanfLinha_of_completa hCompleta with
      ⟨lida, hLida, hId, _⟩
    rw [hLida, hId]
  · exact
      (sscanfLinha_of_not_completa hCompleta hLong row).2.2

theorem comecaCom_iff
    {linha : List Char}
    (hLong : 32 ≤ (textoLido linha).length)
    (row : IdChaveProva)
    (idProcurado : Vector Char 32) :
    ComecaCom idProcurado linha ↔
      (sscanfLinha linha row).1.idDispositivo =
        idProcurado := by
  rw [ComecaCom, ← idDispositivo_sscanfLinha hLong row]
  exact Vector.toList_inj

theorem length_of_comecaCom
    {idProcurado : Vector Char 32}
    {linha : List Char}
    (hComeca : ComecaCom idProcurado linha) :
    32 ≤ (textoLido linha).length := by
  have hTake := congrArg List.length hComeca
  rw [List.length_take, Vector.length_toList] at hTake
  omega

------------------------------------------------------------
-- What A Search Finds
------------------------------------------------------------

/- The rows of the table: those of the lines, then zeros. -/
theorem buscarPorIdMemoria_eq
    {arquivo : List (List Char)}
    (hMax : arquivo.length ≤ idMax)
    (idProcurado : Vector Char 32) :
    buscarPorIdMemoria (carregarArquivoMemoria arquivo)
        idProcurado =
      (arquivo.findSome? fun linha =>
          daRow idProcurado (sscanfRegistro linha .zero)).or
        (if arquivo.length < idMax then
          daRow idProcurado .zero
        else
          none) := by
  have hLength :
      (carregarArquivoMemoria arquivo).length =
        arquivo.length := by
    rw [carregarArquivoMemoria, List.length_map]
  have hRows :
      (List.range idMax).map
          (carregarArquivoMemoria arquivo).row =
        carregarArquivoMemoria arquivo ++
          List.replicate (idMax - arquivo.length) .zero := by
    apply List.ext_getElem?
    intro i
    rw [List.getElem?_map, List.getElem?_append, hLength,
      List.getElem?_replicate]
    by_cases hi : i < arquivo.length
    · rw [if_pos hi, List.getElem?_range (by omega),
        Option.map_some, Dados.row,
        List.getD_eq_getElem?_getD,
        List.getElem?_eq_getElem (by omega), Option.getD_some]
    · rw [if_neg hi]
      by_cases hRange : i < idMax
      · rw [List.getElem?_range hRange, Option.map_some,
          if_pos (by omega), Dados.row,
          List.getD_eq_getElem?_getD,
          List.getElem?_eq_none (by omega), Option.getD_none]
      · rw [List.getElem?_eq_none
            (by rw [List.length_range]; omega),
          if_neg (by omega), Option.map_none]
  have hSearch :
      buscarPorIdMemoria (carregarArquivoMemoria arquivo)
          idProcurado =
        ((List.range idMax).map
          (carregarArquivoMemoria arquivo).row).findSome?
            (daRow idProcurado) := by
    rw [List.findSome?_map]
    rfl
  have hZeros : ∀ n : Nat,
      (List.replicate n IdChaveProva.zero).findSome?
          (daRow idProcurado) =
        if 0 < n then daRow idProcurado .zero else none := by
    intro n
    rw [List.findSome?_replicate]
    split <;> rename_i h <;> simp [h, Nat.pos_iff_ne_zero]
  rw [hSearch, hRows, List.findSome?_append,
    carregarArquivoMemoria, List.findSome?_map, hZeros]
  simp only [Nat.sub_pos_iff_lt]
  rfl

theorem buscarPorId_cons
    (idProcurado : Vector Char 32)
    (locais : IdChaveProva)
    (linha : List Char)
    (resto : List (List Char)) :
    buscarPorId idProcurado locais (linha :: resto) =
      if Completa linha ∧ ComecaCom idProcurado linha then
        some
          ((sscanfLinha linha locais).1.chave,
            (sscanfLinha linha locais).1.prova)
      else
        buscarPorId idProcurado
          (sscanfLinha linha locais).1 resto := by
  have hUnfold :
      buscarPorId idProcurado locais (linha :: resto) =
        if (sscanfLinha linha locais).2 = 3 then
          if (sscanfLinha linha locais).1.idDispositivo =
              idProcurado then
            some
              ((sscanfLinha linha locais).1.chave,
                (sscanfLinha linha locais).1.prova)
          else
            buscarPorId idProcurado
              (sscanfLinha linha locais).1 resto
        else
          buscarPorId idProcurado
            (sscanfLinha linha locais).1 resto := rfl
  rw [hUnfold]
  by_cases hCompleta : Completa linha
  · have hLong : 32 ≤ (textoLido linha).length := by
      have hLength := hCompleta.1
      omega
    rw [if_pos ((completa_iff linha locais).mpr hCompleta)]
    simp only [hCompleta, true_and,
      comecaCom_iff hLong locais]
  · rw [if_neg (fun h => hCompleta
        ((completa_iff linha locais).mp h)),
      if_neg (fun h => hCompleta h.1)]

/- A search of the file finds a field without zeros. -/
theorem prova_of_buscarPorId
    {idProcurado : Vector Char 32}
    {arquivo : List (List Char)} :
    ∀ {locais : IdChaveProva} {achado : Achado},
      buscarPorId idProcurado locais arquivo = some achado →
        achado.2 ≠ Vector.replicate 128 '\x00' := by
  induction arquivo with
  | nil =>
      intro locais achado hBusca
      cases hBusca
  | cons linha resto ih =>
      intro locais achado hBusca
      rw [buscarPorId_cons] at hBusca
      by_cases hAchou :
          Completa linha ∧ ComecaCom idProcurado linha
      · rcases sscanfLinha_of_completa hAchou.1 with
          ⟨lida, hLida, _, hProva⟩
        rw [if_pos hAchou, hLida] at hBusca
        rw [← Option.some.inj hBusca]
        intro hZero
        have hFirst :
            (slice 98 128 (textoLido linha))[0]? =
              some '\x00' := by
          have hZeroProva :
              lida.prova = Vector.replicate 128 '\x00' :=
            hZero
          rw [← hProva, hZeroProva]
          rfl
        rw [slice, List.getElem?_take_of_lt (by omega),
          List.getElem?_drop] at hFirst
        exact
          not_mem_textoLido linha (List.mem_of_getElem? hFirst)
      · rw [if_neg hAchou] at hBusca
        exact ih hBusca

------------------------------------------------------------
-- Agreement
------------------------------------------------------------

/-
  The first line that begins with the identifier is complete;
  and no row is without an identifier, if one searches for
  zeros.
-/
structure BuscaSegura
    (arquivo : List (List Char))
    (idProcurado : Vector Char 32) : Prop where
  primeira :
    ∀ linha,
      arquivo.find? (ComecaCom idProcurado) = some linha →
        Completa linha
  nulo :
    idProcurado = Vector.replicate 32 '\x00' →
      arquivo.length = idMax ∧
        ∀ linha ∈ arquivo, 32 ≤ (textoLido linha).length

/- No line begins with an identifier that has a zero. -/
theorem not_comecaCom_zero
    (linha : List Char) :
    ¬ ComecaCom (Vector.replicate 32 '\x00') linha := by
  intro hComeca
  have hMem : '\x00' ∈ (textoLido linha).take 32 := by
    rw [hComeca, Vector.toList_replicate]
    simp
  exact not_mem_textoLido linha (List.mem_of_mem_take hMem)

/- The row of a line, for an identifier that is not zeros. -/
theorem daRow_eq_none_of_not
    {idProcurado : Vector Char 32}
    {linha : List Char}
    (hZero : idProcurado ≠ Vector.replicate 32 '\x00')
    (hNot : ¬ ComecaCom idProcurado linha) :
    daRow idProcurado (sscanfRegistro linha .zero) = none := by
  rw [daRow, if_neg ?_]
  intro hId
  by_cases hLong : 32 ≤ (textoLido linha).length
  · exact hNot ((comecaCom_iff hLong .zero _).mpr hId)
  · rw [sscanfRegistro, sscanfLinha_of_curta (by omega)] at hId
    exact hZero hId.symm

/-
  The lines and the search of the file, for an identifier that
  is not zeros. The induction passes over the lines that do
  not begin with it; the first one that does decides.
-/
theorem linhas_eq_buscarPorId_iff
    {idProcurado : Vector Char 32}
    (hZero : idProcurado ≠ Vector.replicate 32 '\x00')
    {arquivo : List (List Char)} :
    ∀ locais : IdChaveProva,
      (arquivo.findSome? fun linha =>
            daRow idProcurado (sscanfRegistro linha .zero)) =
          buscarPorId idProcurado locais arquivo ↔
        ∀ linha,
          arquivo.find? (ComecaCom idProcurado) =
              some linha →
            Completa linha := by
  induction arquivo with
  | nil =>
      intro locais
      exact ⟨fun _ linha h => (by cases h), fun _ => rfl⟩
  | cons linha resto ih =>
      intro locais
      rw [List.findSome?_cons, buscarPorId_cons]
      by_cases hComeca : ComecaCom idProcurado linha
      · have hLong := length_of_comecaCom hComeca
        have hId :
            (sscanfLinha linha .zero).1.idDispositivo =
              idProcurado :=
          (comecaCom_iff hLong .zero _).mp hComeca
        rw [List.find?_cons_of_pos (by simpa using hComeca),
          daRow, sscanfRegistro, if_pos hId]
        by_cases hCompleta : Completa linha
        · rcases sscanfLinha_of_completa hCompleta with
            ⟨lida, hLida, _⟩
          rw [if_pos ⟨hCompleta, hComeca⟩, hLida, hLida]
          refine ⟨fun _ outra hOutra => ?_, fun _ => rfl⟩
          rw [← Option.some.inj hOutra]
          exact hCompleta
        · rw [if_neg (fun h => hCompleta h.1)]
          have hProva :=
            (sscanfLinha_of_not_completa hCompleta hLong
              .zero).2.1
          constructor
          · intro hSame
            exact
              absurd hProva (prova_of_buscarPorId hSame.symm)
          · intro hEach
            exact absurd (hEach linha rfl) hCompleta
      · rw [List.find?_cons_of_neg (by simpa using hComeca),
          daRow_eq_none_of_not hZero hComeca,
          if_neg (fun h => hComeca h.2)]
        exact ih _

/- No line begins with the identifier that is searched for. -/
theorem buscarPorId_eq_none
    {idProcurado : Vector Char 32}
    {arquivo : List (List Char)}
    (hNot : ∀ linha, ¬ ComecaCom idProcurado linha) :
    ∀ locais,
      buscarPorId idProcurado locais arquivo = none := by
  induction arquivo with
  | nil =>
      intro locais
      rfl
  | cons linha resto ih =>
      intro locais
      rw [buscarPorId_cons, if_neg (fun h => hNot linha h.2)]
      exact ih _

/- A row of a line has zeros only when the line is short. -/
theorem daRow_zero_eq_none_iff
    (linha : List Char) :
    daRow (Vector.replicate 32 '\x00')
          (sscanfRegistro linha .zero) = none ↔
      32 ≤ (textoLido linha).length := by
  constructor
  · intro hNone
    by_contra hShort
    rw [sscanfRegistro, sscanfLinha_of_curta (by omega)]
      at hNone
    cases hNone
  · intro hLong
    rw [daRow, if_neg ?_]
    intro hId
    exact
      not_comecaCom_zero linha
        ((comecaCom_iff hLong .zero _).mpr hId)

/-
  The two searches agree on the code, the key and the proof
  exactly when the search is safe.
-/
theorem buscas_agree_iff
    {arquivo : List (List Char)}
    (hMax : arquivo.length ≤ idMax)
    (idProcurado : Vector Char 32)
    (locais : IdChaveProva) :
    buscarPorIdMemoria (carregarArquivoMemoria arquivo)
          idProcurado =
        buscarPorId idProcurado locais arquivo ↔
      BuscaSegura arquivo idProcurado := by
  rw [buscarPorIdMemoria_eq hMax]
  by_cases hZero : idProcurado = Vector.replicate 32 '\x00'
  · rw [hZero, buscarPorId_eq_none not_comecaCom_zero]
    have hRowZero :
        daRow (Vector.replicate 32 '\x00') .zero =
          some (IdChaveProva.zero.chave,
            IdChaveProva.zero.prova) := rfl
    rw [Option.or_eq_none_iff, List.findSome?_eq_none_iff,
      hRowZero]
    simp only [daRow_zero_eq_none_iff]
    constructor
    · rintro ⟨hLines, hRoom⟩
      refine ⟨?_, fun _ => ⟨?_, hLines⟩⟩
      · intro linha hFind
        have hComeca := List.find?_some hFind
        exact
          absurd (by simpa using hComeca)
            (not_comecaCom_zero linha)
      · by_contra hNot
        rw [if_pos (by omega)] at hRoom
        cases hRoom
    · rintro ⟨_, hNulo⟩
      rcases hNulo rfl with ⟨hLength, hLines⟩
      exact ⟨hLines, if_neg (by omega)⟩
  · have hRowZero : daRow idProcurado .zero = none :=
      if_neg (fun h => hZero h.symm)
    rw [hRowZero, ite_self, Option.or_none,
      linhas_eq_buscarPorId_iff hZero locais]
    exact
      ⟨fun h => ⟨h, fun hEq => absurd hEq hZero⟩,
        fun h => h.primeira⟩

/- An identifier, and a line that ends after it. -/
def idDeUns : Vector Char 32 :=
  Vector.replicate 32 '1'

def linhaTruncada : List Char :=
  List.replicate 32 '1' ++ [':', '\n']

theorem buscas_agree_iff_truncada :
    buscarPorIdMemoria
          (carregarArquivoMemoria [linhaTruncada]) idDeUns =
        buscarPorId idDeUns .zero [linhaTruncada] ↔
      BuscaSegura [linhaTruncada] idDeUns :=
  buscas_agree_iff (by decide) idDeUns .zero

/- The table has the device, with a key of zeros. -/
theorem buscas_not_agree_truncada :
    ¬ ∀ (arquivo : List (List Char))
        (idProcurado : Vector Char 32)
        (locais : IdChaveProva),
      arquivo.length ≤ idMax →
        buscarPorIdMemoria (carregarArquivoMemoria arquivo)
            idProcurado =
          buscarPorId idProcurado locais arquivo := by
  intro hClaim
  have hMax : [linhaTruncada].length ≤ idMax := by decide
  have hZero : idDeUns ≠ Vector.replicate 32 '\x00' := by
    decide
  have hRowZero : daRow idDeUns .zero = none :=
    if_neg (fun h => hZero h.symm)
  have hSame := hClaim [linhaTruncada] idDeUns .zero hMax
  rw [buscarPorIdMemoria_eq hMax, hRowZero, ite_self,
    Option.or_none] at hSame
  have hCompleta :=
    (linhas_eq_buscarPorId_iff hZero .zero).mp hSame
      linhaTruncada (by decide +kernel)
  revert hCompleta
  decide +kernel

end VerificaRede

end Tools

end P4dra
