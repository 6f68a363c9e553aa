import P4dra.Tna.DeviceFile

/-
  P4DRA frames as the C programs see them.

  The programs lay their structures over the captured bytes;
  a field is the bytes at its offset.

  Main declarations:
    * `etherDhost`, `etherShost`, `etherType`
    * `operHdrOper`, `operHdrIdRodada`
    * `Cabecalho.trocado`, `quadroSemId_eq`
-/

------------------------------------------------------------
-- Offsets
------------------------------------------------------------

namespace P4dra

open Bytes (Byte slice)
open Tna (Cabecalho Frame quadro quadroSemId quadroResposta)

namespace Tools

/- `htons(ETHERTYPE_CUSTOM)` as it lies in memory. -/
def etherTypeCustom : List Byte := [0x12, 0x34]

def etherDhost (packet : Frame) : List Byte :=
  slice 0 6 packet

def etherShost (packet : Frame) : List Byte :=
  slice 6 6 packet

def etherType (packet : Frame) : List Byte :=
  slice 12 2 packet

/- `oper_hdr->oper` -/
def operHdrOper (packet : Frame) : List Byte :=
  slice 14 1 packet

/- `oper_hdr->id_rodada` -/
def operHdrIdRodada (packet : Frame) : List Byte :=
  slice 15 16 packet

/- `reply_hdr->id_dispositivo` and `reply_hdr->prova` -/
def replyIdDispositivo (packet : Frame) : List Byte :=
  slice 31 16 packet

def replyProva (packet : Frame) : List Byte :=
  slice 47 64 packet

------------------------------------------------------------
-- Fields Of Frames
------------------------------------------------------------

/- A MAC address as it lies in a frame. -/
def mac (addr : BitVec 48) : List Byte :=
  (Codec.bits 6).encode addr

theorem length_mac
    (addr : BitVec 48) :
    (mac addr).length = 6 :=
  (Codec.bits 6).length_encode addr

/- The header fields with the two addresses exchanged. -/
def trocado (c : Cabecalho) : Cabecalho :=
  { c with dstAddr := c.srcAddr, srcAddr := c.dstAddr }

/- The bytes of a frame in order. -/
theorem quadroSemId_eq
    (c : Cabecalho)
    (oper : BitVec 8)
    (corpo : List Byte) :
    quadroSemId c oper corpo =
      mac c.dstAddr ++ (mac c.srcAddr ++ (etherTypeCustom ++
        ([oper] ++ (c.bytesIdRodada ++ corpo)))) := by
  have hType :
      (Codec.bits 2).encode Tna.etherTypeP4DRA =
        etherTypeCustom := by
    decide
  have hEthernet :
      Tna.ethernetH.encode c.ethernet =
        mac c.dstAddr ++ (mac c.srcAddr ++ etherTypeCustom) := by
    rw [← hType]
    rfl
  have hOper :
      Tna.p4draOperT.encode (c.p4draOper oper) =
        [oper] ++ c.bytesIdRodada := by
    rw [← Codec.encode_bits_one]
    rfl
  rw [quadroSemId, hEthernet, hOper]
  simp only [List.append_assoc]

/- Every choice of the bytes of these fields is a header. -/
theorem exists_cabecalho
    {dstAddr srcAddr idRodada : List Byte}
    (hDst : dstAddr.length = 6)
    (hSrc : srcAddr.length = 6)
    (hIdRodada : idRodada.length = 16) :
    ∃ c : Cabecalho,
      mac c.dstAddr = dstAddr ∧ mac c.srcAddr = srcAddr ∧
        c.bytesIdRodada = idRodada := by
  let words :=
    (Tna.word.pair (Tna.word.pair (Tna.word.pair Tna.word)))
  let w := words.decode idRodada
  exact
    ⟨{ dstAddr := (Codec.bits 6).decode dstAddr
       srcAddr := (Codec.bits 6).decode srcAddr
       idRodada0 := w.1
       idRodada1 := w.2.1
       idRodada2 := w.2.2.1
       idRodada3 := w.2.2.2
       idDispositivo := 0 },
      (Codec.bits 6).encode_decode dstAddr hDst,
      (Codec.bits 6).encode_decode srcAddr hSrc,
      words.encode_decode idRodada hIdRodada⟩

theorem etherDhost_quadroSemId
    (c : Cabecalho)
    (oper : BitVec 8)
    (corpo : List Byte) :
    etherDhost (quadroSemId c oper corpo) = mac c.dstAddr := by
  rw [quadroSemId_eq]
  exact Bytes.slice_front _ (length_mac _)

theorem etherShost_quadroSemId
    (c : Cabecalho)
    (oper : BitVec 8)
    (corpo : List Byte) :
    etherShost (quadroSemId c oper corpo) = mac c.srcAddr := by
  rw [quadroSemId_eq]
  exact Bytes.slice_middle _ (length_mac _) (length_mac _)

theorem etherType_quadroSemId
    (c : Cabecalho)
    (oper : BitVec 8)
    (corpo : List Byte) :
    etherType (quadroSemId c oper corpo) = etherTypeCustom := by
  rw [quadroSemId_eq, ← List.append_assoc]
  exact Bytes.slice_middle _
    (by rw [List.length_append, length_mac, length_mac]) rfl

theorem operHdrOper_quadroSemId
    (c : Cabecalho)
    (oper : BitVec 8)
    (corpo : List Byte) :
    operHdrOper (quadroSemId c oper corpo) = [oper] := by
  rw [quadroSemId_eq, ← List.append_assoc, ← List.append_assoc]
  refine Bytes.slice_middle _ ?_ rfl
  rw [List.length_append, List.length_append, length_mac,
    length_mac]
  rfl

/- Everything before `id_rodada`. -/
theorem length_beforeIdRodada
    (c : Cabecalho)
    (oper : BitVec 8) :
    (mac c.dstAddr ++ mac c.srcAddr ++ etherTypeCustom ++
      [oper]).length = 15 := by
  rw [List.length_append, List.length_append,
    List.length_append, length_mac, length_mac]
  rfl

theorem operHdrIdRodada_quadroSemId
    (c : Cabecalho)
    (oper : BitVec 8)
    (corpo : List Byte) :
    operHdrIdRodada (quadroSemId c oper corpo) =
      c.bytesIdRodada := by
  rw [quadroSemId_eq, ← List.append_assoc,
    ← List.append_assoc, ← List.append_assoc]
  exact Bytes.slice_middle _ (length_beforeIdRodada c oper)
    (Tna.length_bytesIdRodada c)

/- What follows the fields of `struct p4dra_oper_h`. -/
theorem drop_quadroSemId
    (c : Cabecalho)
    (oper : BitVec 8)
    (corpo : List Byte) :
    (quadroSemId c oper corpo).drop 31 = corpo := by
  rw [quadroSemId_eq, ← List.append_assoc,
    ← List.append_assoc, ← List.append_assoc,
    ← List.append_assoc]
  apply List.drop_left'
  rw [List.length_append, length_beforeIdRodada,
    Tna.length_bytesIdRodada]

/- A field of the body of a frame. -/
theorem slice_quadroSemId
    (c : Cabecalho)
    (oper : BitVec 8)
    (corpo : List Byte)
    (offset size : Nat) :
    slice (31 + offset) size (quadroSemId c oper corpo) =
      slice offset size corpo := by
  rw [slice, ← List.drop_drop, drop_quadroSemId, slice]

/- A Reply frame behind its first header. -/
theorem quadroResposta_eq
    (c : Cabecalho)
    (payload : State)
    (rest : List Byte) :
    Tna.quadroResposta c payload rest =
      quadroSemId c 0x2
        (c.bytesIdDispositivo ++
          (Tna.forroStateT.encode payload ++ rest)) := rfl

/- The fields of a Reply frame as the handler reads them. -/
theorem replyIdDispositivo_quadroResposta
    (c : Cabecalho)
    (payload : State)
    (rest : List Byte) :
    replyIdDispositivo (quadroResposta c payload rest) =
      c.bytesIdDispositivo := by
  have hField := slice_quadroSemId c 0x2
    (c.bytesIdDispositivo ++
      (Tna.forroStateT.encode payload ++ rest)) 0 16
  rw [Nat.add_zero] at hField
  rw [replyIdDispositivo, quadroResposta_eq, hField]
  exact Bytes.slice_front _ (Tna.length_bytesIdDispositivo c)

theorem replyProva_quadroResposta
    (c : Cabecalho)
    (payload : State)
    (rest : List Byte) :
    replyProva (quadroResposta c payload rest) =
      Tna.forroStateT.encode payload := by
  have hState : (Tna.forroStateT.encode payload).length = 64 :=
    Tna.forroStateT.length_encode payload
  have hField := slice_quadroSemId c 0x2
    (c.bytesIdDispositivo ++
      (Tna.forroStateT.encode payload ++ rest)) 16 64
  have hOffset : 31 + 16 = 47 := by omega
  rw [hOffset] at hField
  rw [replyProva, quadroResposta_eq, hField]
  exact Bytes.slice_middle _
    (Tna.length_bytesIdDispositivo c) hState

end Tools

end P4dra
