import Mathlib.Data.List.TakeWhile
import P4dra.Tools.Hexstring

/-
  Programs that run another program and read what it prints.

  Main declarations:
    * `precisao`, `palavrasDoShell`, `getline`, `atoi`
    * `palavrasDoShell_intercalate`, `palavrasDoShell_digitos`
-/

------------------------------------------------------------
-- Library Functions
------------------------------------------------------------

namespace P4dra

namespace Tools

/- `%.*s` with a precision of `n`. -/
def precisao
    (n : Nat)
    (texto : List Char) : List Char :=
  (texto.take n).takeWhile (· ≠ '\x00')

/-
  The words of a command without characters that are special
  to the shell.
-/
def palavrasDoShell (comando : List Char) : List (List Char) :=
  (comando.splitOn ' ').filter (· ≠ [])

/- The first line of a text, its line break included. -/
def primeiraLinha : List Char → List Char
| [] => []
| c :: resto =>
    if c = '\n' then
      [c]
    else
      c :: primeiraLinha resto

/-
  `getline` into a buffer that holds `heap`: the buffer after
  the first line of `saida` was read.
-/
def getline (heap saida : List Char) : List Char :=
  let linha := primeiraLinha saida
  if linha = [] then
    heap
  else
    linha ++ '\x00' :: heap.drop (linha.length + 1)

/- The digits of `atoi` after white space and a sign. -/
def atoiDigitos (texto : List Char) : Int :=
  ((texto.takeWhile Char.isDigit).foldl
    (fun n c => 10 * n + (c.toNat - '0'.toNat)) 0 : Nat)

def atoi (texto : List Char) : Int :=
  match texto.dropWhile Hex.isspace with
  | '-' :: resto => -atoiDigitos resto
  | '+' :: resto => atoiDigitos resto
  | resto => atoiDigitos resto

------------------------------------------------------------
-- On Hexadecimal Digits
------------------------------------------------------------

theorem precisao_of_isHex
    {n : Nat}
    {texto : List Char}
    (hHex : Hex.IsHex texto)
    (hLength : texto.length = n) :
    precisao n texto = texto := by
  have hTexto := Hex.takeWhile_ne_nul_append hHex []
  rw [List.append_nil, List.takeWhile_nil,
    List.append_nil] at hTexto
  rw [precisao, List.take_of_length_le (by omega), hTexto]

/- Digits belong to the first line, whatever follows them. -/
theorem primeiraLinha_append_of_isHex
    {texto : List Char}
    (hHex : Hex.IsHex texto)
    (resto : List Char) :
    primeiraLinha (texto ++ resto) =
      texto ++ primeiraLinha resto := by
  induction texto with
  | nil => rfl
  | cons c texto ih =>
      have hNe : c ≠ '\n' :=
        Hex.ne_of_isDigit (hHex c (by simp)) (by decide)
      rw [List.cons_append, primeiraLinha, if_neg hNe,
        ih (fun d hd => hHex d (by simp [hd])),
        List.cons_append]

/- Text without a line break is its own first line. -/
theorem primeiraLinha_of_isHex
    {texto : List Char}
    (hHex : Hex.IsHex texto) :
    primeiraLinha texto = texto := by
  have hLinha := primeiraLinha_append_of_isHex hHex []
  rw [List.append_nil, primeiraLinha, List.append_nil] at hLinha
  exact hLinha

/- Digits that a program prints first stand first in the buffer. -/
theorem getline_append_of_isHex
    {digitos : List Char}
    (heap resto : List Char)
    (hHex : Hex.IsHex digitos)
    (hNonempty : digitos ≠ []) :
    ∃ apos,
      getline heap (digitos ++ resto) = digitos ++ apos := by
  have hLinha :
      digitos ++ primeiraLinha resto ≠ [] :=
    List.append_ne_nil_of_left_ne_nil hNonempty _
  simp only [getline, primeiraLinha_append_of_isHex hHex,
    if_neg hLinha, List.append_assoc]
  exact ⟨_, rfl⟩

/- A text of digits is terminated there. -/
theorem getline_of_isHex
    {saida : List Char}
    (heap : List Char)
    (hHex : Hex.IsHex saida)
    (hNonempty : saida ≠ []) :
    ∃ resto, getline heap saida = saida ++ '\x00' :: resto := by
  simp only [getline, primeiraLinha_of_isHex hHex,
    if_neg hNonempty]
  exact ⟨_, rfl⟩

/- Words without spaces are the words of their command. -/
theorem palavrasDoShell_intercalate
    {palavras : List (List Char)}
    (hNonempty : palavras ≠ [])
    (hPalavras : ∀ palavra ∈ palavras,
      palavra ≠ [] ∧ ' ' ∉ palavra) :
    palavrasDoShell ([' '].intercalate palavras) =
      palavras := by
  have hSplit :
      ([' '].intercalate palavras).splitOn ' ' = palavras :=
    List.splitOn_intercalate ' '
      (fun palavra hMem => (hPalavras palavra hMem).2)
      hNonempty
  rw [palavrasDoShell, hSplit, List.filter_eq_self]
  intro palavra hMem
  simpa using (hPalavras palavra hMem).1

/- A command whose arguments are hexadecimal digits. -/
theorem palavrasDoShell_digitos
    {nome argumentos : List (List Char)}
    (hNonempty : nome ≠ [])
    (hNome : ∀ palavra ∈ nome, palavra ≠ [] ∧ ' ' ∉ palavra)
    (hArgumentos : ∀ palavra ∈ argumentos,
      palavra ≠ [] ∧ Hex.IsHex palavra) :
    palavrasDoShell ([' '].intercalate (nome ++ argumentos)) =
      nome ++ argumentos := by
  apply palavrasDoShell_intercalate
  · simp [hNonempty]
  · intro palavra hMem
    rcases List.mem_append.mp hMem with hLeft | hRight
    · exact hNome palavra hLeft
    · rcases hArgumentos palavra hRight with ⟨hNe, hHex⟩
      refine ⟨hNe, ?_⟩
      intro hSpace
      exact Hex.ne_of_isDigit (hHex ' ' hSpace) (by decide) rfl

end Tools

end P4dra
