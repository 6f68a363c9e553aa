import P4dra.Library.Hex
import P4dra.Tna.Actions

/-
  The controller script `setup.py`, which programs the
  tables of the switch.

  The script is modelled by the driver calls it makes, in
  order. A text file is the list of its lines. Python raises
  where the model returns `none`; the loop over the devices
  has then made the calls of the devices before it. The
  driver takes a key field or an action parameter that a
  call leaves out as zero, and refuses a number that does not
  fit its field.

  Main declarations:
    * `inverterEndianess`, `pyInt16`, `processFile`
    * `regrasForro`, `regrasPadrao`
    * `percorrerDispositivos` and `setup`
-/

------------------------------------------------------------
-- Driver Calls
------------------------------------------------------------

namespace P4dra

open Bytes (piece)

namespace Tna

/-
  The calls `p4.<gress>.<table>.add_with_<action>(..)` that
  the script makes; an exact key comes first.
-/
inductive BfrtCall where
| forroIg (i : Fin 12) (qr : Fin 8) (rodada : BitVec 8)
| forroEg (i : Fin 12) (qr : Fin 8) (rodada : BitVec 8)
| forroEg11Fin (rodada : BitVec 8)
| ig0CarregarEstado0
    (oper : BitVec 8) (idDispositivo : BitVec 128)
    (configuracao : BitVec 256) (key : Key)
| ig0ForwardRequest
    (oper : BitVec 8) (idDispositivo : BitVec 128)
    (port : BitVec 9)
| ig0Forward
    (oper : BitVec 8) (idDispositivo : BitVec 128)
    (port : BitVec 9)
| ig1CarregarEstado1 (oper : BitVec 8)
| ig2CarregarEstado2 (oper : BitVec 8)
| ig3CarregarEstado3Iniciar (oper : BitVec 8)
| ig0FinFinalizarForro0
    (idDispositivo : BitVec 128)
    (configuracao : BitVec 256) (key : Key)
| ig1FinFinalizarForro1 (oper : BitVec 8)
| ig2FinFinalizarForro2 (oper : BitVec 8)
| ig3FinFinalizarForro3 (oper : BitVec 8)
| ig4FinFinalizarForro4 (oper : BitVec 8) (port : BitVec 9)
| ig5FinVerificarProva0 (oper : BitVec 8)
| ig6FinVerificarProva0
    (verificacao0 verificacao1 : Word)
    (verificacao2 verificacao3 : Word)
| ig7FinVerificarProva1
    (verificacao0 verificacao1 : Word)
    (verificacao2 verificacao3 : Word)
| ig8FinNoAction
    (verificacao0 verificacao1 verificacao2 : Word)
| eg0FinVerificarProva (oper : BitVec 8)
| eg1FinNoAction (verificacao : BitVec 160)
deriving DecidableEq, Repr

------------------------------------------------------------
-- Constants
------------------------------------------------------------

/- Version of the cipher. -/
def versaoForro : Nat := 14

/- `total_rodadas = (forro * 4) + 1` -/
def totalRodadas : Nat := versaoForro * 4 + 1

/- Port of the prover. -/
def portaCliente : BitVec 9 := 0

/- Port of the controller. -/
def portaCPU : BitVec 9 := 1

/- How many devices the switch can verify. -/
def quantidadeDispositivos : Nat := 20000

------------------------------------------------------------
-- Reading The Device File
------------------------------------------------------------

/- `str.isspace` on one character. -/
def pyIsspace (c : Char) : Bool :=
  (9 ≤ c.toNat && c.toNat ≤ 13) ||
    (28 ≤ c.toNat && c.toNat ≤ 32) ||
      c.toNat ∈ [0x85, 0xa0, 0x1680, 0x2028, 0x2029, 0x202f,
        0x205f, 0x3000] ||
        (0x2000 ≤ c.toNat && c.toNat ≤ 0x200a)

/- `str.strip` -/
def pyStrip (text : List Char) : List Char :=
  ((text.dropWhile pyIsspace).reverse.dropWhile
    pyIsspace).reverse

/- The digit pairs of a block of eight characters, reversed. -/
def blocoInvertido (block : List Char) : List Char :=
  ((List.range 4).map (fun j => piece 2 j block)).reverse.flatten

def inverterEndianess
    (inputHex : List Char) : Option (List Char) :=
  if inputHex.length % 8 ≠ 0 then
    none
  else
    some
      ((List.range (inputHex.length / 8)).flatMap
        (fun i => blocoInvertido (piece 8 i inputHex)))

/-
  Digits of base 16 with single underscores between them;
  `ready` says that the last character was a digit.
-/
def pyDigits : Nat → Bool → List Char → Option Nat
| value, ready, [] => if ready then some value else none
| value, ready, c :: rest =>
    if c = '_' then
      if ready then pyDigits value false rest else none
    else
      match Hex.digitValue? c with
      | some digit => pyDigits (16 * value + digit) true rest
      | none => none

/- The prefix `0x` and an underscore after it. -/
def pyPrefix : List Char → List Char
| '0' :: x :: rest =>
    if x = 'x' ∨ x = 'X' then
      match rest with
      | '_' :: digits => digits
      | digits => digits
    else
      '0' :: x :: rest
| text => text

/- `int(text, 16)` -/
def pyInt16 (text : List Char) : Option Int :=
  let signed := Hex.dropSign (pyStrip text)
  let digits := pyPrefix signed.2
  (pyDigits 0 false digits).map
    (fun n => if signed.1 then - (n : Int) else (n : Int))

/- One entry of the result of `process_file`. -/
structure Linha where
  idDispositivo : List Char
  chave : List (List Char)
deriving DecidableEq, Repr

/- `chave_hex[i:i+8]` for `i` in steps of eight. -/
def partesDaChave (chaveHex : List Char) : List (List Char) :=
  (List.range ((chaveHex.length + 7) / 8)).map
    (fun i => piece 8 i chaveHex)

/- The body of the loop of `process_file`. -/
def processLine (line : List Char) : Option Linha :=
  match (pyStrip line).splitOn ':' with
  | idDispositivo :: chaveHex :: _ =>
      some ⟨idDispositivo, partesDaChave chaveHex⟩
  | _ => none

def processFile
    (lines : List (List Char))
    (quantidade : Nat) : Option (List Linha) :=
  (lines.take quantidade).mapM processLine

------------------------------------------------------------
-- Quarter-Round Rules
------------------------------------------------------------

/- The rules of one quarter-round, one for each stage. -/
def regrasRodada (rodada : Nat) : List BfrtCall :=
  let qr := Fin.ofNat 8 (rodada - 1)
  let limite := if rodada = totalRodadas - 1 then 11 else 12
  (List.range limite).map fun i =>
    if rodada % 2 = 0 then
      .forroEg (Fin.ofNat 12 i) qr (BitVec.ofNat 8 rodada)
    else
      .forroIg (Fin.ofNat 12 i) qr (BitVec.ofNat 8 rodada)

/- The rules of all quarter-rounds. -/
def regrasForro : List BfrtCall :=
  (List.range' 1 (totalRodadas - 1)).flatMap regrasRodada ++
    [.forroEg11Fin (BitVec.ofNat 8 (totalRodadas - 1))]

------------------------------------------------------------
-- Device Rules
------------------------------------------------------------

/- A number that fits a field of `w` bits. -/
def campo (w : Nat) (n : Int) : Option (BitVec w) :=
  if 0 ≤ n ∧ n < 2 ^ w then
    some (BitVec.ofNat w n.toNat)
  else
    none

/-
  The global variables `key_0 .. key_7`; a variable that no
  assignment has created yet is `none`.
-/
abbrev Globals := Vector (Option Int) 8

/- `exec(f"key_{i} = {parte}")` for the parts of one key. -/
def atribuirChaves
    (globals : Globals) :
    Nat → List (List Char) → Option Globals
| _, [] => some globals
| i, parte :: rest => do
    let invertida ← inverterEndianess parte
    let valor ← pyInt16 invertida
    atribuirChaves (globals.setIfInBounds i (some valor))
      (i + 1) rest

/- The parameters `key0=key_0 .. key7=key_7` of a call. -/
def lerChaves (globals : Globals) : Option Key := do
  let k0 ← globals.get 0
  let k1 ← globals.get 1
  let k2 ← globals.get 2
  let k3 ← globals.get 3
  let k4 ← globals.get 4
  let k5 ← globals.get 5
  let k6 ← globals.get 6
  let k7 ← globals.get 7
  some #v[← campo 32 k0, ← campo 32 k1, ← campo 32 k2,
    ← campo 32 k3, ← campo 32 k4, ← campo 32 k5,
    ← campo 32 k6, ← campo 32 k7]

/- `conf_ini ^ (..)`: the configuration XOR the identifier. -/
def confParam (confIni id : Nat) : Nat :=
  confIni ^^^
    ((((id &&& 0xFFFFFFFFFFFFFFFF0000000000000000) >>> 64)
        <<< 128) |||
      (id &&& 0xFFFFFFFFFFFFFFFF))

/- The two calls for one device and the globals after it. -/
def programarDispositivo
    (confIni : Nat)
    (globals : Globals)
    (linha : Linha) : Option (Globals × List BfrtCall) := do
  let invertido ← inverterEndianess linha.idDispositivo
  let id ← pyInt16 invertido
  let globals ← atribuirChaves globals 0 linha.chave
  let idDispositivo ← campo 128 id
  let configuracao ← campo 256 (confParam confIni id.toNat)
  let key ← lerChaves globals
  some
    (globals,
      [.ig0CarregarEstado0 0x2 idDispositivo configuracao key,
        .ig0FinFinalizarForro0 idDispositivo configuracao key])

/-
  The calls made for the devices, and whether the loop came
  to its end.
-/
def percorrerDispositivos
    (confIni : Nat) :
    Globals → List Linha → List BfrtCall × Bool
| _, [] => ([], true)
| globals, linha :: rest =>
    match programarDispositivo confIni globals linha with
    | none => ([], false)
    | some (globals, calls) =>
        let later := percorrerDispositivos confIni globals rest
        (calls ++ later.1, later.2)

------------------------------------------------------------
-- Default Rules
------------------------------------------------------------

/- The rules after the devices. -/
def regrasPadrao : List BfrtCall :=
  [.ig0ForwardRequest 0x0 0 portaCliente,
    .ig0Forward 0x5 0 0,
    .ig1CarregarEstado1 0x2,
    .ig2CarregarEstado2 0x2,
    .ig3CarregarEstado3Iniciar 0x2,
    .ig1FinFinalizarForro1 0x4,
    .ig2FinFinalizarForro2 0x4,
    .ig3FinFinalizarForro3 0x4,
    .ig4FinFinalizarForro4 0x4 portaCPU,
    .ig5FinVerificarProva0 0x4,
    .ig6FinVerificarProva0 0x0 0x0 0x0 0x0,
    .ig7FinVerificarProva1 0x0 0x0 0x0 0x0,
    .ig8FinNoAction 0x0 0x0 0x0,
    .eg0FinVerificarProva 0x4,
    .eg1FinNoAction 0x0]

/- The calls of a run of the script and whether it finished. -/
structure Programacao where
  calls : List BfrtCall
  concluida : Bool
deriving DecidableEq, Repr

/-
  `setup.py` on a device file, with the configuration that
  the script has as `conf_ini`.
-/
def setup
    (confIni : Nat)
    (arquivo : List (List Char)) : Programacao :=
  match processFile arquivo quantidadeDispositivos with
  | none => ⟨regrasForro, false⟩
  | some idChaves =>
      let dispositivos :=
        percorrerDispositivos confIni
          (Vector.replicate 8 none) idChaves
      if dispositivos.2 then
        ⟨regrasForro ++ dispositivos.1 ++ regrasPadrao, true⟩
      else
        ⟨regrasForro ++ dispositivos.1, false⟩

end Tna

end P4dra
