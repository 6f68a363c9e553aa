import P4dra.Library.Decimal
import P4dra.Tools.OfflineCheck

/-
  The script `gerar_provas.sh`.

  The script writes a device file: for every number of a
  sequence an identifier from the number and the clock, a key
  from a digest, and the proof that the proof program prints.
  Every record is one that the switch accepts: with the file
  in `setup.py`, and the round in `envia_provas_arquivo`, the
  frame of every row comes out to the controller. So does
  `le_provas_arquivo` find every proof of the file again.

  Main declarations:
    * `GerarProvas.gerarProvas`
    * `GerarProvas.exists_registros`
    * `GerarProvas.conferencia_gerada`
    * `GerarProvas.provas_aceitas`
-/

------------------------------------------------------------
-- Script
------------------------------------------------------------

namespace P4dra

open Bytes (Byte slice)

namespace Tools

namespace GerarProvas

open EnviaProvasArquivo
  (exists_frame exists_quadroResposta idMax linhas orientada
    provaDaLinha quadroDaRow quadroProva trocarRow)
open LeProvasArquivo
  (Rodada conferencia estadoDoRegistro estadoDoRegistro_eq
    main_of_registro main_registros payload_eq_iff
    rodada_exemplo verificacaoDe verificacaoDe_congr)

def nonce : List Char := "3132333435363738".toList

def idRodada : List Char := "3132333435363738".toList

/-
  What the script finds in a turn: what `date +%N` reads off
  the clock, what `sha256sum` prints for a text, and the
  memory that the proof program starts in.
-/
structure Ambiente where
  nanossegundos : Nat → Nat
  sha256sum : List Char → List Char
  memoria : Nat → ForroArgsDra.Memoria

namespace Ambiente

/- Two fields of fixed widths, a `3` before every digit. -/
def idDispositivo
    (ambiente : Ambiente)
    (i : Nat) : List Char :=
  let id :=
    Decimal.padded 7 i ++
      Decimal.padded 9 (ambiente.nanossegundos i)
  (List.range 16).flatMap (fun j => '3' :: slice j 1 id)

/- The first field of the line that `sha256sum` prints. -/
def chave
    (ambiente : Ambiente)
    (i : Nat) : List Char :=
  (ambiente.sha256sum
    (nonce ++ ':' :: (ambiente.idDispositivo i ++ ':' ::
      (idRodada ++ ['\n'])))).takeWhile (· ≠ ' ')

/- What is printed; nothing is if the program fails. -/
def prova
    (ambiente : Ambiente)
    (i : Nat) : List Char :=
  (ForroArgsDra.main (ambiente.memoria i)
    ["../forro-args-dra2".toList, ambiente.chave i, nonce,
      idRodada, ambiente.idDispositivo i, ['0']]).getD []

/- The line of a turn. -/
def linha
    (ambiente : Ambiente)
    (i : Nat) : List Char :=
  ambiente.idDispositivo i ++ ':' ::
    (ambiente.chave i ++ ':' :: (ambiente.prova i ++ [':', '\n']))

end Ambiente

/- The lines for `seq 1 ate`; the script has a million. -/
def gerarProvas
    (ambiente : Ambiente)
    (ate : Nat) : List (List Char) :=
  (List.range' 1 ate).map ambiente.linha

/- The last lines of a file. -/
def tail
    (n : Nat)
    (arquivo : List (List Char)) : List (List Char) :=
  arquivo.drop (arquivo.length - n)

/-
  The clock gives less than a second, the digest is 64 digits
  before two blanks and the name of the standard input, and
  the proof program starts in one memory where it does not
  set it.
-/
structure Ambiente.Documentado
    (ambiente : Ambiente)
    (configuracao : Vector Byte 32) : Prop where
  nanossegundos : ∀ i, ambiente.nanossegundos i < 10 ^ 9
  sha256sum : ∀ texto, ∃ digest,
    Hex.IsHex digest ∧ digest.length = 64 ∧
      ambiente.sha256sum texto =
        digest ++ [' ', ' ', '-', '\x00']
  limpa : ∀ i, (ambiente.memoria i).Limpa
  configuracao : ∀ i,
    (ambiente.memoria i).configuracao = configuracao

/- A first turn, with the digest of its line. -/
def ambienteExemplo : Ambiente where
  nanossegundos := fun _ => 123456789
  sha256sum := fun _ =>
    ("e1eda8b92bdcdff50ab730668b7faf07" ++
      "f12d75c52be6c0fd3925ed6d32da7229").toList ++
      [' ', ' ', '-', '\x00']
  memoria := fun _ => ForroArgsDra.memoriaZero

theorem documentado_ambienteExemplo :
    ambienteExemplo.Documentado (Vector.replicate 32 0) where
  nanossegundos := fun _ =>
    (by decide : 123456789 < 10 ^ 9)
  sha256sum := fun _ =>
    ⟨_, by decide +kernel, by decide +kernel, rfl⟩
  limpa := fun _ => ForroArgsDra.limpa_memoriaZero
  configuracao := fun _ => rfl

------------------------------------------------------------
-- Identifiers
------------------------------------------------------------

/- One character at a time is the whole text. -/
theorem flatMap_slice
    (f : List Char → List Char)
    (texto : List Char) :
    (List.range texto.length).flatMap
        (fun j => f (slice j 1 texto)) =
      texto.flatMap (fun c => f [c]) := by
  induction texto with
  | nil => rfl
  | cons c rest ih =>
      rw [List.length_cons, List.range_succ_eq_map,
        List.flatMap_cons, List.flatMap_map, List.flatMap_cons,
        ← ih]
      rfl

theorem length_flatMap_tres
    (texto : List Char) :
    (texto.flatMap (fun c => ['3', c])).length =
      2 * texto.length := by
  induction texto with
  | nil => rfl
  | cons c rest ih =>
      rw [List.flatMap_cons, List.length_append, ih,
        List.length_cons, List.length_cons, List.length_cons,
        List.length_nil]
      omega

/- The digits can be read off the identifier. -/
theorem flatMap_tres_injective :
    Function.Injective
      (fun texto : List Char =>
        texto.flatMap (fun c => ['3', c])) := by
  intro texto
  induction texto with
  | nil =>
      intro outro hSame
      cases outro with
      | nil => rfl
      | cons c rest => cases hSame
  | cons c rest ih =>
      intro outro hSame
      cases outro with
      | nil => cases hSame
      | cons d resto =>
          simp only [List.flatMap_cons, List.cons_append,
            List.nil_append, List.cons.injEq, true_and] at hSame
          rw [hSame.1, ih hSame.2]

section Documentado

variable {ambiente : Ambiente}
variable {configuracao : Vector Byte 32}

/- The sixteen decimal digits of an identifier. -/
theorem idDispositivo_eq
    (hAmbiente : ambiente.Documentado configuracao)
    {i : Nat}
    (hi : i < 10 ^ 7) :
    ambiente.idDispositivo i =
      (Decimal.padded 7 i ++
        Decimal.padded 9 (ambiente.nanossegundos i)).flatMap
          (fun c => ['3', c]) := by
  have hLength :
      (Decimal.padded 7 i ++
        Decimal.padded 9 (ambiente.nanossegundos i)).length =
        16 := by
    rw [List.length_append, Decimal.length_padded (by omega) hi,
      Decimal.length_padded (by omega)
        (hAmbiente.nanossegundos i)]
  have hTexto :=
    flatMap_slice (fun texto => '3' :: texto)
      (Decimal.padded 7 i ++
        Decimal.padded 9 (ambiente.nanossegundos i))
  rw [hLength] at hTexto
  exact hTexto

theorem length_idDispositivo
    (hAmbiente : ambiente.Documentado configuracao)
    {i : Nat}
    (hi : i < 10 ^ 7) :
    (ambiente.idDispositivo i).length = 32 := by
  rw [idDispositivo_eq hAmbiente hi, length_flatMap_tres,
    List.length_append, Decimal.length_padded (by omega) hi,
    Decimal.length_padded (by omega)
      (hAmbiente.nanossegundos i)]

theorem isDigit_of_mem_idDispositivo
    (hAmbiente : ambiente.Documentado configuracao)
    {i : Nat}
    (hi : i < 10 ^ 7)
    {c : Char}
    (hMem : c ∈ ambiente.idDispositivo i) :
    c.isDigit := by
  rw [idDispositivo_eq hAmbiente hi] at hMem
  rcases List.mem_flatMap.mp hMem with ⟨d, hDigit, hPair⟩
  rcases List.mem_cons.mp hPair with hThree | hSame
  · rw [hThree]
    rfl
  · rw [List.mem_singleton.mp hSame]
    rcases List.mem_append.mp hDigit with hNumero | hClock
    · exact Decimal.isDigit_of_mem_padded hNumero
    · exact Decimal.isDigit_of_mem_padded hClock

theorem isHex_idDispositivo
    (hAmbiente : ambiente.Documentado configuracao)
    {i : Nat}
    (hi : i < 10 ^ 7) :
    Hex.IsHex (ambiente.idDispositivo i) :=
  fun _ hMem =>
    Decimal.isDigit_hex
      (isDigit_of_mem_idDispositivo hAmbiente hi hMem)

/- Whatever the clock says, two turns name two devices. -/
theorem decode_idDispositivo_inj
    (hAmbiente : ambiente.Documentado configuracao)
    {i j : Nat}
    (hi : i < 10 ^ 7)
    (hj : j < 10 ^ 7)
    (hSame :
      Hex.decode (ambiente.idDispositivo i) =
        Hex.decode (ambiente.idDispositivo j)) :
    i = j := by
  have hTexto : ∀ n, n < 10 ^ 7 →
      Hex.encode (Hex.decode (ambiente.idDispositivo n)) =
        ambiente.idDispositivo n := by
    intro n hn
    rw [Hex.encode_decode 16 _
      (isHex_idDispositivo hAmbiente hn)
      (length_idDispositivo hAmbiente hn)]
    refine (List.map_congr_left ?_).trans (List.map_id _)
    intro c hMem
    exact Decimal.toLower_of_isDigit
      (isDigit_of_mem_idDispositivo hAmbiente hn hMem)
  have hIds :
      ambiente.idDispositivo i = ambiente.idDispositivo j := by
    rw [← hTexto i hi, hSame, hTexto j hj]
  rw [idDispositivo_eq hAmbiente hi,
    idDispositivo_eq hAmbiente hj] at hIds
  have hDigits := flatMap_tres_injective hIds
  have hNumeros := List.append_inj_left hDigits (by
    rw [Decimal.length_padded (by omega) hi,
      Decimal.length_padded (by omega) hj])
  exact Decimal.padded_injective 7 hNumeros

------------------------------------------------------------
-- Records
------------------------------------------------------------

theorem chave_digest
    (hAmbiente : ambiente.Documentado configuracao)
    (i : Nat) :
    Hex.IsHex (ambiente.chave i) ∧
      (ambiente.chave i).length = 64 := by
  rcases hAmbiente.sha256sum
      (nonce ++ ':' :: (ambiente.idDispositivo i ++ ':' ::
        (idRodada ++ ['\n']))) with
    ⟨digest, hHex, hLength, hSaida⟩
  have hBlank : ∀ c ∈ digest, decide (c ≠ ' ') = true := by
    intro c hMem
    exact decide_eq_true
      (Hex.ne_of_isDigit (hHex c hMem) (by decide))
  have hChave : ambiente.chave i = digest := by
    rw [Ambiente.chave, hSaida, List.takeWhile_append_of_pos
      hBlank]
    exact List.append_nil digest
  rw [hChave]
  exact ⟨hHex, hLength⟩

/- The proof of a record is the one of its round. -/
def Gerado
    (configuracao : Vector Byte 32)
    (r : Registro) : Prop :=
  ∃ memoria : ForroArgsDra.Memoria,
    memoria.configuracao = configuracao ∧
      r.prova = verificacaoDe memoria idRodada nonce r

theorem rodada_script : Rodada idRodada nonce :=
  rodada_exemplo

/- A turn writes a record. -/
theorem exists_registro
    (hAmbiente : ambiente.Documentado configuracao)
    {i : Nat}
    (hi : i < 10 ^ 7) :
    ∃ r : Registro,
      ambiente.linha i = r.texto ∧
        r.idDispositivo = ambiente.idDispositivo i ∧
        Gerado configuracao r := by
  rcases chave_digest hAmbiente i with
    ⟨hHexChave, hLengthChave⟩
  -- the record but for its proof
  let base : Registro :=
    { registroExemplo with
        idDispositivo := ambiente.idDispositivo i
        chave := ambiente.chave i
        hexId := isHex_idDispositivo hAmbiente hi
        hexChave := hHexChave
        lengthId := length_idDispositivo hAmbiente hi
        lengthChave := hLengthChave }
  have hMain :=
    main_of_registro (hAmbiente.limpa i) rodada_script base
      "../forro-args-dra2".toList
  have hProva :
      ambiente.prova i =
        verificacaoDe (ambiente.memoria i) idRodada nonce
          base :=
    congrArg (fun saida => saida.getD []) hMain
  refine
    ⟨{ base with
        prova := ambiente.prova i
        hexProva := ?_
        lengthProva := ?_ }, rfl, rfl, ambiente.memoria i,
      hAmbiente.configuracao i, hProva⟩
  · rw [hProva]
    exact Hex.isHex_encode _
  · rw [hProva]
    exact VerificaRede.length_encode_forro _

/- The file is records of distinct devices. -/
theorem exists_registros
    (hAmbiente : ambiente.Documentado configuracao)
    {ate : Nat}
    (hAte : ate < 10 ^ 7) :
    ∃ registros : List Registro,
      gerarProvas ambiente ate =
          registros.map Registro.texto ∧
        (registros.map Registro.bytesId).Nodup ∧
        ∀ r ∈ registros, Gerado configuracao r := by
  have hTurnos : ∀ i, ∃ r : Registro, i < 10 ^ 7 →
      ambiente.linha i = r.texto ∧
        r.idDispositivo = ambiente.idDispositivo i ∧
        Gerado configuracao r := by
    intro i
    by_cases hi : i < 10 ^ 7
    · rcases exists_registro hAmbiente hi with ⟨r, hr⟩
      exact ⟨r, fun _ => hr⟩
    · exact ⟨registroExemplo, fun h => absurd h hi⟩
  choose registro hRegistro using hTurnos
  have hRange : ∀ i ∈ List.range' 1 ate, i < 10 ^ 7 := by
    intro i hMem
    rw [List.mem_range'_1] at hMem
    omega
  refine ⟨(List.range' 1 ate).map registro, ?_, ?_, ?_⟩
  · rw [gerarProvas, List.map_map]
    apply List.map_congr_left
    intro i hMem
    exact (hRegistro i (hRange i hMem)).1
  · rw [List.map_map]
    refine List.Nodup.map_on ?_ List.nodup_range'
    intro i hMem j hMemJ hSame
    have hi := hRange i hMem
    have hj := hRange j hMemJ
    apply decode_idDispositivo_inj hAmbiente hi hj
    rw [← (hRegistro i hi).2.1, ← (hRegistro j hj).2.1]
    exact hSame
  · intro r hMem
    rcases List.mem_map.mp hMem with ⟨i, hIn, hSame⟩
    rw [← hSame]
    exact (hRegistro i (hRange i hIn)).2.2

/- So are its last lines. -/
theorem exists_registros_tail
    (hAmbiente : ambiente.Documentado configuracao)
    {ate n : Nat}
    (hAte : ate ≤ 1000000)
    {arquivo : List (List Char)}
    (hArquivo : arquivo = tail n (gerarProvas ambiente ate)) :
    ∃ registros : List Registro,
      arquivo = registros.map Registro.texto ∧
        registros.length ≤ 1000000 ∧
        (registros.map Registro.bytesId).Nodup ∧
        ∀ r ∈ registros, Gerado configuracao r := by
  rcases exists_registros hAmbiente
      (Nat.lt_of_le_of_lt hAte (by omega)) with
    ⟨todos, hTodos, hIds, hGerados⟩
  have hSub :
      (todos.drop (todos.length - n)).Sublist todos :=
    List.drop_sublist _ _
  have hLength : todos.length = ate := by
    have hGerar := congrArg List.length hTodos
    rw [gerarProvas, List.length_map, List.length_range',
      List.length_map] at hGerar
    exact hGerar.symm
  refine
    ⟨todos.drop (todos.length - n), ?_, ?_,
      hIds.sublist (hSub.map _),
      fun r hMem => hGerados r (hSub.subset hMem)⟩
  · rw [hArquivo, hTodos, tail, List.length_map,
      ← List.map_drop]
  · rw [List.length_drop, hLength]
    exact (Nat.sub_le _ _).trans hAte

------------------------------------------------------------
-- From The Script To The Check Of A File
------------------------------------------------------------

theorem provaDaLinha_texto
    (r : Registro) :
    provaDaLinha r.texto = r.prova := by
  have hFront :
      (r.idDispositivo ++ ':' :: (r.chave ++ [':'])).length =
        98 := by
    simp only [List.length_append, List.length_cons,
      List.length_nil, r.lengthId, r.lengthChave]
  have hSlice :=
    Bytes.slice_middle [':', '\n'] hFront r.lengthProva
  rw [provaDaLinha, textoLido_texto, Registro.texto]
  refine Eq.trans ?_ hSlice
  simp only [List.append_assoc, List.cons_append,
    List.nil_append]

/-
  In the round of the script `le_provas_arquivo` computes for
  every line the proof that the line has.
-/
theorem conferencia_gerada
    (hAmbiente : ambiente.Documentado configuracao)
    {ate n : Nat}
    (hAte : ate ≤ 1000000)
    {arquivo : List (List Char)}
    (hArquivo : arquivo = tail n (gerarProvas ambiente ate))
    {memoria : Nat → ForroArgsDra.Memoria}
    (hMemoria : ∀ i, (memoria i).Limpa)
    (hConfiguracao :
      ∀ i, (memoria i).configuracao = configuracao) :
    LeProvasArquivo.main memoria arquivo idRodada nonce =
      (arquivo.flatMap
          (fun linha =>
            conferencia (provaDaLinha linha)
              (provaDaLinha linha)),
        []) := by
  rcases exists_registros_tail hAmbiente hAte hArquivo with
    ⟨registros, hTextos, _, _, hGerados⟩
  have hLinhas :
      registros.zipIdx.flatMap
          (fun r =>
            conferencia r.1.prova
              (verificacaoDe (memoria r.2) idRodada nonce
                r.1)) =
        (registros.zipIdx.map Prod.fst).flatMap
          (fun r => conferencia r.prova r.prova) := by
    rw [List.flatMap_map]
    apply List.flatMap_congr
    intro r hMem
    rcases hGerados r.1 (List.fst_mem_of_mem_zipIdx hMem) with
      ⟨outra, hOutra, hProva⟩
    rw [verificacaoDe_congr
      ((hConfiguracao r.2).trans hOutra.symm) rodada_script,
      ← hProva]
  rw [hTextos, main_registros hMemoria rodada_script, hLinhas,
    List.zipIdx_map_fst, List.flatMap_map]
  simp only [provaDaLinha_texto]

end Documentado

theorem conferencia_gerada_exemplo :
    LeProvasArquivo.main (fun _ => ForroArgsDra.memoriaZero)
        (tail 1 (gerarProvas ambienteExemplo 1)) idRodada
        nonce =
      ((tail 1 (gerarProvas ambienteExemplo 1)).flatMap
          (fun linha =>
            conferencia (provaDaLinha linha)
              (provaDaLinha linha)),
        []) :=
  conferencia_gerada documentado_ambienteExemplo
    (by decide : 1 ≤ 1000000) rfl
    (fun _ => ForroArgsDra.limpa_memoriaZero) (fun _ => rfl)

------------------------------------------------------------
-- From The Script To The Switch
------------------------------------------------------------

/- A row of the first pass, and of every second one. -/
theorem getElem?_main_trocada
    {arquivo : List (List Char)}
    (argv3 : List Char)
    {quantidade k : Nat}
    (hRoom : arquivo.length ≤ idMax)
    (hQuantidade : quantidade ≤ idMax)
    (hLinhas :
      quantidade ≤ linhas ∨ linhas ≤ arquivo.length)
    (hk : k < quantidade)
    (hPar : k / linhas % 2 = 0) :
    ∃ frames,
      EnviaProvasArquivo.main arquivo argv3 quantidade =
          some frames ∧
        frames[k]? =
          some
            (quadroDaRow
              (bytesDeDigitos 16 (swapEndian argv3 idRodadaLen))
              k
              (trocarRow
                ((carregarArquivoMemoria arquivo).row
                  (k % linhas)))) := by
  rcases hLinhas with hPoucas | hCheio
  · rw [Nat.mod_eq_of_lt (by omega)]
    exact exists_frame argv3 hRoom hPoucas hk
  · have hOrientada : ∀ row : IdChaveProva,
        orientada (k / linhas + 1) row = trocarRow row := by
      intro row
      rw [orientada, if_neg (by omega)]
    have hMain :=
      EnviaProvasArquivo.main_eq argv3 hCheio hQuantidade
    rw [if_pos hRoom] at hMain
    refine ⟨_, hMain, ?_⟩
    rw [List.getElem?_map, List.getElem?_range hk,
      Option.map_some, quadroProva, hOrientada]

/- The script reads no more than its number of devices. -/
theorem setup_take
    (confIni : Nat)
    (arquivo : List (List Char)) :
    Tna.setup confIni
        (arquivo.take Tna.quantidadeDispositivos) =
      Tna.setup confIni arquivo := by
  have hLido :
      Tna.processFile (arquivo.take Tna.quantidadeDispositivos)
          Tna.quantidadeDispositivos =
        Tna.processFile arquivo Tna.quantidadeDispositivos := by
    rw [Tna.processFile, List.take_take, Nat.min_self,
      Tna.processFile]
  unfold Tna.setup
  rw [hLido]

/-
  The switch that is set up with the last lines of the file
  accepts the frames that are sent for them in the round of
  the script.
-/
theorem provas_aceitas
    {ambiente : Ambiente}
    {configuracao : Vector Byte 32}
    (hAmbiente : ambiente.Documentado configuracao)
    {ate n : Nat}
    (hAte : ate ≤ 1000000)
    {arquivo : List (List Char)}
    (hArquivo : arquivo = tail n (gerarProvas ambiente ate))
    {quantidade k : Nat}
    (hQuantidade : quantidade ≤ idMax)
    (hLinhas :
      quantidade ≤ linhas ∨ linhas ≤ arquivo.length)
    (hk : k < quantidade)
    (hRow : k % linhas < arquivo.length)
    (hPar : k / linhas % 2 = 0) :
    ∃ frames frame sent,
      EnviaProvasArquivo.main arquivo (idRodada ++ nonce)
            quantidade =
          some frames ∧
        frames[k]? = some frame ∧
        Tna.processar
            (Tna.setup
              (Tna.configuracaoDaMedida
                configuracao.toList).toNat arquivo).calls 30
            frame =
          some (.emitido Tna.portaCPU sent) := by
  rcases exists_registros_tail hAmbiente hAte hArquivo with
    ⟨registros, hTextos, hQuantos, hIds, hGerados⟩
  have hLength : arquivo.length = registros.length := by
    rw [hTextos, List.length_map]
  have hRoom : arquivo.length ≤ idMax :=
    hLength ▸ hQuantos
  rw [hLength] at hRow
  let r := registros[k % linhas]
  have hRegistro : registros[k % linhas]? = some r :=
    List.getElem?_eq_getElem hRow
  have hMem : r ∈ registros := List.getElem_mem hRow
  have hMemTake :
      r ∈ registros.take Tna.quantidadeDispositivos := by
    rw [List.mem_take_iff_getElem]
    have hMod : k % linhas < linhas := Nat.mod_lt k (by decide)
    exact ⟨k % linhas, lt_min hMod hRow, rfl⟩
  have hValido :
      ArquivoValido
        (registros.take Tna.quantidadeDispositivos) :=
    ⟨hIds.sublist ((List.take_sublist _ _).map _),
      by
        rw [List.length_take]
        exact Nat.min_le_left _ _⟩
  rcases exists_quadroResposta rodada_script r k with
    ⟨c, payload, hDoRegistro, hFirst, hSecond, hPayload,
      hQuadro⟩
  rcases hGerados r hMem with
    ⟨memoria, hConfiguracao, hProva⟩
  have hEstado :=
    estadoDoRegistro_eq memoria hDoRegistro hFirst hSecond
  rw [hConfiguracao] at hEstado
  have hVerificacao :
      Hex.encode
          (Forro.forro
            (estadoDoRegistro memoria idRodada nonce r)) =
        r.prova.map Char.toLower := by
    have hLower :=
      Hex.encode_decode 64 r.prova r.hexProva r.lengthProva
    rw [← hLower, hProva, verificacaoDe, Hex.decode_encode]
  have hPalavras := (payload_eq_iff hPayload _).mpr hVerificacao
  rw [hEstado] at hPalavras
  rcases getElem?_main_trocada (idRodada ++ nonce) hRoom
      hQuantidade hLinhas hk hPar with
    ⟨frames, hMain, hFrame⟩
  have hConf :
      (Tna.configuracaoDaMedida configuracao.toList).toNat <
        2 ^ 256 :=
    BitVec.isLt _
  have hRun :=
    Tna.processar_registro hConf hValido hMemTake hDoRegistro
      payload [] (le_refl 30)
  rw [BitVec.ofNat_toNat, BitVec.setWidth_eq,
    if_pos hPalavras, List.map_take, ← hTextos, setup_take]
    at hRun
  have hLida :
      (carregarArquivoMemoria arquivo).row (k % linhas) =
        sscanfRegistro r.texto .zero := by
    rw [hTextos]
    exact row_registros_eq hRegistro
  rw [hLida, hQuadro] at hFrame
  exact ⟨frames, _, _, hMain, hFrame, hRun⟩

theorem provas_aceitas_exemplo :
    ∃ frames frame sent,
      EnviaProvasArquivo.main
            (tail 1 (gerarProvas ambienteExemplo 1))
            (idRodada ++ nonce) 1 =
          some frames ∧
        frames[0]? = some frame ∧
        Tna.processar
            (Tna.setup
              (Tna.configuracaoDaMedida
                (Vector.replicate 32 (0 : Byte)).toList).toNat
              (tail 1 (gerarProvas ambienteExemplo 1))).calls 30
            frame =
          some (.emitido Tna.portaCPU sent) := by
  have hUma : (1 : Nat) ≤ 1000000 := by decide
  have hLinha :
      (tail 1 (gerarProvas ambienteExemplo 1)).length = 1 := by
    rw [tail, gerarProvas, List.length_drop, List.length_map,
      List.length_range']
  exact provas_aceitas documentado_ambienteExemplo hUma rfl
    (by decide) (Or.inl (by decide)) (by decide)
    (by rw [hLinha]; decide) (by decide)

end GerarProvas

end Tools

end P4dra
