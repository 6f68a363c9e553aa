import Mathlib.Data.List.TakeWhile
import P4dra.Tna.DeviceFile

/-
  The record table of the C tools.

  `carregarArquivoMemoria` reads every line of a device file
  with `sscanf` into its row of a table of zeros.

  Main declarations:
    * `IdChaveProva`, `sscanfRegistro`
    * `carregarArquivoMemoria`
    * `row_registros`
-/

------------------------------------------------------------
-- Scanning A Line
------------------------------------------------------------

namespace P4dra

namespace Tools

/- `struct id_chave_prova_t` -/
structure IdChaveProva where
  idDispositivo : Vector Char 32
  chave : Vector Char 64
  prova : Vector Char 128
deriving DecidableEq, Repr

/- A row of the table before it is read. -/
def IdChaveProva.zero : IdChaveProva where
  idDispositivo := Vector.replicate 32 '\x00'
  chave := Vector.replicate 64 '\x00'
  prova := Vector.replicate 128 '\x00'

/- The string that a line holds, up to its terminator. -/
def textoLido (linha : List Char) : List Char :=
  linha.takeWhile (· ≠ '\x00')

/-
  `%<n>c`: exactly `n` characters. On fewer the conversion
  fails and stores nothing.
-/
def lerCaracteres
    (n : Nat)
    (texto : List Char) : Option (Vector Char n × List Char) :=
  if h : n ≤ texto.length then
    some (⟨(texto.take n).toArray, by simp [h]⟩, texto.drop n)
  else
    none

/- The literal colon of a format. -/
def lerDoisPontos : List Char → Option (List Char)
| ':' :: resto => some resto
| _ => none

/-
  `sscanf(linha, "%32c:%64c:%128c:", ..)` into a row: the row
  and the number of conversions.
-/
def sscanfLinha
    (linha : List Char)
    (row : IdChaveProva) : IdChaveProva × Nat :=
  match lerCaracteres 32 (textoLido linha) with
  | none => (row, 0)
  | some (id, resto) =>
      let row := { row with idDispositivo := id }
      match (lerDoisPontos resto).bind (lerCaracteres 64) with
      | none => (row, 1)
      | some (chave, resto) =>
          let row := { row with chave := chave }
          match
            (lerDoisPontos resto).bind (lerCaracteres 128) with
          | none => (row, 2)
          | some (prova, _) => ({ row with prova := prova }, 3)

/- The row after a line was read into it. -/
def sscanfRegistro
    (linha : List Char)
    (row : IdChaveProva) : IdChaveProva :=
  (sscanfLinha linha row).1

/- `dados`; the rows after the ones that were read are zero. -/
abbrev Dados := List IdChaveProva

/- A file of at most `ID_MAX` lines. -/
def carregarArquivoMemoria
    (arquivo : List (List Char)) : Dados :=
  arquivo.map (fun linha => sscanfRegistro linha .zero)

/- `dados[i]` -/
def Dados.row
    (dados : Dados)
    (i : Nat) : IdChaveProva :=
  dados.getD i .zero

------------------------------------------------------------
-- Scanning A Record
------------------------------------------------------------

/- Text of the size of a field fills it. -/
theorem lerCaracteres_append
    {n : Nat}
    {texto : List Char}
    (resto : List Char)
    (hLength : texto.length = n) :
    ∃ lido : Vector Char n,
      lerCaracteres n (texto ++ resto) = some (lido, resto) ∧
        lido.toList = texto := by
  have hRoom : n ≤ (texto ++ resto).length := by
    rw [List.length_append]
    omega
  have hDrop : (texto ++ resto).drop n = resto := by
    rw [← hLength, List.drop_left]
  have hTake : (texto ++ resto).take n = texto := by
    rw [← hLength, List.take_left]
  rw [lerCaracteres, dif_pos hRoom, hDrop]
  refine ⟨_, rfl, ?_⟩
  rw [Vector.toList_mk, hTake]

/- A record has no terminator in its line. -/
theorem textoLido_texto
    (r : Registro) :
    textoLido r.texto = r.texto := by
  have hDigits : ∀ texto : List Char, Hex.IsHex texto →
      '\x00' ∉ texto :=
    fun texto hHex hMem => absurd (hHex _ hMem) (by decide)
  apply List.takeWhile_eq_self_iff.mpr
  intro c hc
  have hNe : c ≠ '\x00' := by
    intro hEq
    rw [hEq, Registro.texto] at hc
    simp only [List.mem_append, List.mem_cons,
      hDigits _ r.hexId, hDigits _ r.hexChave,
      hDigits _ r.hexProva, List.not_mem_nil] at hc
    revert hc
    decide
  simpa using hNe

/- The row of a record holds its fields. -/
theorem sscanfRegistro_texto
    (r : Registro)
    (row : IdChaveProva) :
    (sscanfRegistro r.texto row).idDispositivo.toList =
        r.idDispositivo ∧
      (sscanfRegistro r.texto row).chave.toList = r.chave ∧
      (sscanfRegistro r.texto row).prova.toList = r.prova := by
  rcases lerCaracteres_append
      (':' :: (r.chave ++ ':' :: (r.prova ++ [':', '\n'])))
      r.lengthId with
    ⟨id, hId, hIdTexto⟩
  rcases lerCaracteres_append
      (':' :: (r.prova ++ [':', '\n'])) r.lengthChave with
    ⟨chave, hChave, hChaveTexto⟩
  rcases lerCaracteres_append [':', '\n'] r.lengthProva with
    ⟨prova, hProva, hProvaTexto⟩
  rw [sscanfRegistro, sscanfLinha, textoLido_texto]
  simp only [Registro.texto, hId, lerDoisPontos,
    Option.bind_some, hChave, hProva]
  exact ⟨hIdTexto, hChaveTexto, hProvaTexto⟩

/- The row of the `i`-th record. -/
theorem row_registros_eq
    {registros : List Registro}
    {r : Registro}
    {i : Nat}
    (hRegistro : registros[i]? = some r) :
    (carregarArquivoMemoria
        (registros.map Registro.texto)).row i =
      sscanfRegistro r.texto .zero := by
  rw [Dados.row, carregarArquivoMemoria, List.map_map,
    List.getD_eq_getElem?_getD, List.getElem?_map, hRegistro]
  rfl

theorem row_registros
    {registros : List Registro}
    {r : Registro}
    {i : Nat}
    (hRegistro : registros[i]? = some r) :
    ((carregarArquivoMemoria
        (registros.map Registro.texto)).row
          i).idDispositivo.toList = r.idDispositivo ∧
      ((carregarArquivoMemoria
        (registros.map Registro.texto)).row i).chave.toList =
        r.chave := by
  rw [row_registros_eq hRegistro]
  have hFields := sscanfRegistro_texto r .zero
  exact ⟨hFields.1, hFields.2.1⟩

end Tools

end P4dra
