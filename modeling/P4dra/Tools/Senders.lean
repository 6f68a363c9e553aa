import P4dra.Tools.Hexstring
import P4dra.Tools.RecordFile
import P4dra.Tools.WireFrames

/-
  The programs that send frames to the devices.

  `envia_setup_host_arquivo` and `envia_configuracoes_arquivo`
  send the keys and the identifiers of a file, the second
  with a round identifier of eight bytes and without swapping
  the words. `envia_pedidos` starts a round, and
  `envia_pedidos_host` sends the Requests of one. `socket`
  and `sendto` succeed.

  Main declarations:
    * `EnviaSetupHostArquivo.main`
    * `EnviaConfiguracoesArquivo.main`
    * `EnviaPedidos.main`, `EnviaPedidosHost.main`
-/

------------------------------------------------------------
-- Frames
------------------------------------------------------------

namespace P4dra

open Bytes (Byte slice)
open Tna (Frame)

namespace Tools

/- A byte of an address; the store truncates. -/
def byteDe (n : Nat) : Byte :=
  BitVec.ofNat 8 n

/- The address of the controller. -/
def macControlador : List Byte := [0x08, 0x00, 0x00, 0x00, 0x01, 0x01]

/- `create_custom_packet` on the bytes of a header. -/
def pacoteDe
    (destMac srcMac customHdr : List Byte) : Frame :=
  destMac ++ (srcMac ++ (etherTypeCustom ++ customHdr))

------------------------------------------------------------
-- envia_setup_host_arquivo
------------------------------------------------------------

namespace EnviaSetupHostArquivo

def idMax : Nat := 1000000

/- `dest_mac` in the turn `id`. -/
def destMac (id : Nat) : List Byte :=
  [0x52, 0x54, 0x00, byteDe (id / 65536 % 256),
    byteDe (id / 256 % 256), byteDe ((id + 1) % 256)]

/- `custom_hdr` for a row. Every row is used once. -/
def customHdr (row : IdChaveProva) : Option (List Byte) := do
  let idDispositivo :=
    swapEndian row.idDispositivo.toList idDispositivoLen
  let chave := swapEndian row.chave.toList chaveLen
  let idDispositivo ← hexstringToByteArray
    (Vector.replicate 16 0) idDispositivo idDispositivoLen
  let chave ← hexstringToByteArray
    (Vector.replicate 32 0) chave chaveLen
  some
    ([0x5] ++ (List.replicate 16 0 ++ (chave.toList ++
      idDispositivo.toList)))

/- `main`: the frames that are sent. -/
def main
    (dados : Dados)
    (quantidadeConfiguracoes : Nat) : Option (List Frame) :=
  (List.range (min quantidadeConfiguracoes idMax)).mapM
    (fun id => do
      let hdr ← customHdr (dados.row id)
      some (pacoteDe (destMac id) macControlador hdr))

end EnviaSetupHostArquivo

------------------------------------------------------------
-- envia_configuracoes_arquivo
------------------------------------------------------------

namespace EnviaConfiguracoesArquivo

def idMax : Nat := 200

/- A file of more than `ID_MAX` lines is stored past `dados`. -/
def carregar (arquivo : List (List Char)) : Option Dados :=
  if arquivo.length ≤ idMax then
    some (carregarArquivoMemoria arquivo)
  else
    none

/- `dest_mac` in the turn `id`. -/
def destMac (id : Nat) : List Byte :=
  [0x52, 0x54, 0x00, 0x00, byteDe (id / 256),
    byteDe ((id + 1) % 256)]

/- `custom_hdr` for a row: nothing is swapped. -/
def customHdr (row : IdChaveProva) : Option (List Byte) := do
  let idDispositivo ← hexstringToByteArray
    (Vector.replicate 16 0) row.idDispositivo.toList
    idDispositivoLen
  let chave ← hexstringToByteArray
    (Vector.replicate 32 0) row.chave.toList chaveLen
  some
    ([0x5] ++ (List.replicate 8 0 ++ (chave.toList ++
      idDispositivo.toList)))

/- `main`: the frames that are sent. -/
def main
    (arquivo : List (List Char))
    (quantidadeConfiguracoes : Nat) : Option (List Frame) := do
  let dados ← carregar arquivo
  (List.range (min quantidadeConfiguracoes idMax)).mapM
    (fun id => do
      let hdr ← customHdr (dados.row id)
      some (pacoteDe (destMac id) macControlador hdr))

end EnviaConfiguracoesArquivo

------------------------------------------------------------
-- envia_pedidos
------------------------------------------------------------

namespace EnviaPedidos

def idMax : Nat := 1000000

/- `dest_mac` in the turn `id`. -/
def destMac (id : Nat) : List Byte :=
  [0x52, 0x54, 0x00, byteDe (id / 65536 % 256),
    byteDe (id / 256 % 256), byteDe ((id + 1) % 256)]

/- `custom_hdr` for the memory from `argv[2]` on. -/
def customHdr (argv2 : List Char) : Option (List Byte) := do
  let idRodada ← hexstringToByteArray (Vector.replicate 16 0)
    (swapEndian argv2 idRodadaLen) idRodadaLen
  some ([0x0] ++ idRodada.toList)

/- `main`: the frames that are sent. -/
def main
    (argv2 : List Char)
    (quantidadeConfiguracoes : Nat) : Option (List Frame) := do
  let hdr ← customHdr argv2
  some
    ((List.range (min quantidadeConfiguracoes idMax)).map
      (fun id => pacoteDe (destMac id) macControlador hdr))

end EnviaPedidos

------------------------------------------------------------
-- envia_pedidos_host
------------------------------------------------------------

namespace EnviaPedidosHost

def idMax : Nat := 1000000

/- `dest_mac` in the turn `id`. -/
def destMac (id : Nat) : List Byte :=
  [0x52, 0x54, 0x00, byteDe (id / 65536 % 256),
    byteDe (id / 256 % 256), byteDe ((id + 1) % 256)]

/- `custom_hdr` for the memory from `argv[2]` on. -/
def customHdr (argv2 : List Char) : Option (List Byte) := do
  let idRodada ← hexstringToByteArray (Vector.replicate 16 0)
    (swapEndian argv2 idRodadaLen) idRodadaLen
  some ([0x1] ++ idRodada.toList)

/- `main`: the frames that are sent. -/
def main
    (argv2 : List Char)
    (quantidadeConfiguracoes : Nat) : Option (List Frame) := do
  let hdr ← customHdr argv2
  some
    ((List.range (min quantidadeConfiguracoes idMax)).map
      (fun id => pacoteDe (destMac id) macControlador hdr))

end EnviaPedidosHost

------------------------------------------------------------
-- Frames For Rows
------------------------------------------------------------

/- A loop whose turns all succeed. -/
theorem mapM_eq_map
    {α β : Type}
    {f : α → Option β}
    {g : α → β}
    (hTurn : ∀ a, f a = some (g a))
    (as : List α) :
    as.mapM f = some (as.map g) := by
  have hSame : f = fun a => some (g a) := funext hTurn
  rw [hSame]
  exact List.mapM_pure

/- What a loop sends at a position is sent in that turn. -/
theorem getElem?_turnos
    {α : Type}
    {f : Nat → α}
    {n k : Nat}
    {a : α} :
    ((List.range n).map f)[k]? = some a ↔ k < n ∧ f k = a := by
  rw [List.getElem?_map]
  by_cases hk : k < n
  · rw [List.getElem?_range hk, Option.map_some,
      Option.some.injEq]
    exact ⟨fun h => ⟨hk, h⟩, fun h => h.2⟩
  · have hLength : (List.range n).length ≤ k := by
      rw [List.length_range]
      omega
    rw [List.getElem?_eq_none hLength]
    constructor
    · intro h
      cases h
    · rintro ⟨h, -⟩
      exact absurd h hk

/- The fields behind the Ethernet header of a frame. -/
theorem slice_pacoteDe
    {destMac : List Byte}
    (hDest : destMac.length = 6)
    (hdr resto : List Byte)
    (offset size : Nat) :
    slice (14 + offset) size
        (pacoteDe destMac macControlador hdr ++ resto) =
      slice offset size (hdr ++ resto) := by
  have hFront :
      (destMac ++ (macControlador ++ etherTypeCustom)).length =
        14 := by
    rw [List.length_append, hDest]
    rfl
  have hPacote :
      pacoteDe destMac macControlador hdr ++ resto =
        (destMac ++ (macControlador ++ etherTypeCustom)) ++
          (hdr ++ resto) := by
    simp only [pacoteDe, List.append_assoc]
  rw [slice, ← List.drop_drop, hPacote, List.drop_left' hFront,
    slice]

namespace EnviaSetupHostArquivo

/- The header of a row, whatever the row holds. -/
def cabecalho (row : IdChaveProva) : List Byte :=
  [0x5] ++ (List.replicate 16 0 ++
    (bytesDeDigitos 32 (swapEndian row.chave.toList chaveLen) ++
      bytesDeDigitos 16
        (swapEndian row.idDispositivo.toList
          idDispositivoLen)))

theorem customHdr_eq
    (row : IdChaveProva) :
    customHdr row = some (cabecalho row) := by
  rcases hexstringToByteArray_eq (Vector.replicate 16 0)
      (swapEndian row.idDispositivo.toList idDispositivoLen)
    with ⟨id, hId, hIdBytes⟩
  rcases hexstringToByteArray_eq (Vector.replicate 32 0)
      (swapEndian row.chave.toList chaveLen) with
    ⟨chave, hChave, hChaveBytes⟩
  unfold customHdr
  dsimp only [Option.bind_eq_bind]
  rw [idDispositivoLen, chaveLen] at *
  rw [hId, Option.bind_some, hChave, Option.bind_some,
    hIdBytes, hChaveBytes, cabecalho, idDispositivoLen,
    chaveLen]

/- The frame of the turn `id`. -/
def quadroSetup
    (dados : Dados)
    (id : Nat) : Frame :=
  pacoteDe (destMac id) macControlador (cabecalho (dados.row id))

theorem main_eq
    (dados : Dados)
    (quantidade : Nat) :
    main dados quantidade =
      some
        ((List.range (min quantidade idMax)).map
          (quadroSetup dados)) := by
  rw [main]
  apply mapM_eq_map
  intro id
  rw [customHdr_eq]
  rfl

/- The frame at a position is the one of that turn. -/
theorem quadroSetup_of_main
    {dados : Dados}
    {quantidade k : Nat}
    {frames : List Frame}
    {frame : Frame}
    (hMain : main dados quantidade = some frames)
    (hFrame : frames[k]? = some frame) :
    frame = quadroSetup dados k := by
  rw [main_eq] at hMain
  rw [← Option.some.inj hMain] at hFrame
  exact (getElem?_turnos.mp hFrame).2.symm

end EnviaSetupHostArquivo

namespace EnviaConfiguracoesArquivo

/- The header of a row, whatever the row holds. -/
def cabecalho (row : IdChaveProva) : List Byte :=
  [0x5] ++ (List.replicate 8 0 ++
    (bytesDeDigitos 32 row.chave.toList ++
      bytesDeDigitos 16 row.idDispositivo.toList))

theorem customHdr_eq
    (row : IdChaveProva) :
    customHdr row = some (cabecalho row) := by
  rcases hexstringToByteArray_eq (Vector.replicate 16 0)
      row.idDispositivo.toList with
    ⟨id, hId, hIdBytes⟩
  rcases hexstringToByteArray_eq (Vector.replicate 32 0)
      row.chave.toList with
    ⟨chave, hChave, hChaveBytes⟩
  unfold customHdr
  dsimp only [Option.bind_eq_bind]
  rw [idDispositivoLen, chaveLen]
  rw [hId, Option.bind_some, hChave, Option.bind_some,
    hIdBytes, hChaveBytes, cabecalho]

/- The frame of the turn `id`. -/
def quadroSetup
    (dados : Dados)
    (id : Nat) : Frame :=
  pacoteDe (destMac id) macControlador (cabecalho (dados.row id))

/- The file has room in the table, or it is not read. -/
theorem main_eq
    (arquivo : List (List Char))
    (quantidade : Nat) :
    main arquivo quantidade =
      if arquivo.length ≤ idMax then
        some
          ((List.range (min quantidade idMax)).map
            (quadroSetup (carregarArquivoMemoria arquivo)))
      else
        none := by
  rw [main, carregar]
  by_cases hRoom : arquivo.length ≤ idMax
  · rw [if_pos hRoom, if_pos hRoom]
    apply mapM_eq_map
    intro id
    rw [customHdr_eq]
    rfl
  · rw [if_neg hRoom, if_neg hRoom]
    rfl

end EnviaConfiguracoesArquivo

namespace EnviaPedidos

/- Every frame is a Start with the round of the argument. -/
theorem pacoteDe_of_main
    {argv2 : List Char}
    {quantidade : Nat}
    {frames : List Frame}
    {frame : Frame}
    (hMain : main argv2 quantidade = some frames)
    (hMem : frame ∈ frames) :
    ∃ id,
      frame =
        pacoteDe (destMac id) macControlador
          ([0x0] ++
            bytesDeDigitos 16
              (swapEndian argv2 idRodadaLen)) := by
  rcases hexstringToByteArray_eq (Vector.replicate 16 0)
      (swapEndian argv2 idRodadaLen) with
    ⟨idRodada, hLido, hBytes⟩
  have hHdr :
      customHdr argv2 = some ([0x0] ++ idRodada.toList) := by
    unfold customHdr
    dsimp only [Option.bind_eq_bind]
    rw [idRodadaLen] at *
    rw [hLido]
    rfl
  unfold main at hMain
  dsimp only [Option.bind_eq_bind] at hMain
  rw [hHdr, Option.bind_some, hBytes] at hMain
  rw [← Option.some.inj hMain] at hMem
  rcases List.mem_map.mp hMem with ⟨id, _, hFrame⟩
  exact ⟨id, hFrame.symm⟩

end EnviaPedidos

end Tools

end P4dra
