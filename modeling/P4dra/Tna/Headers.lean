import P4dra.Forro.Cipher
import P4dra.Library.MatchAction

/-
  The headers and the two parsers of the switch program
  (`headers.p4`, `hdr_p4dra.p4`, `hdr_forro.p4`, the `prs_*`
  files) and its deparsers.

  A header type with sixteen 32-bit fields `v0 .. v15` is a
  vector of sixteen words. The fields of a header that was
  not parsed read as zero. A parser that runs out of bytes
  is an error and returns `none`.

  Main declarations:
    * `ingressParser`, `ingressDeparser`
    * `egressParser`, `egressDeparser`
-/

------------------------------------------------------------
-- Header Types
------------------------------------------------------------

namespace P4dra

open Bytes (Byte)
open MatchAction (Header)

namespace Tna

/- `ether_type_t.P4DRA` -/
def etherTypeP4DRA : BitVec 16 := 0x1234

/- `header ethernet_h` -/
structure EthernetH where
  dstAddr : BitVec 48
  srcAddr : BitVec 48
  etherType : BitVec 16
deriving DecidableEq, Repr

/- `header p4dra_oper_t` -/
structure P4draOperT where
  oper : BitVec 8
  idRodada0 : Word
  idRodada1 : Word
  idRodada2 : Word
  idRodada3 : Word
deriving DecidableEq, Repr

/- `header p4dra_id_dispositivo_t` -/
structure P4draIdDispositivoT where
  idDispositivo : BitVec 128
deriving DecidableEq, Repr

/- `header forro_rodada_t` -/
structure ForroRodadaT where
  rodada : BitVec 8
deriving DecidableEq, Repr

/- `header forro_state_cipher_verify_t` -/
structure ForroStateCipherVerifyT where
  verificar : BitVec 160
  pular : BitVec 352
deriving DecidableEq, Repr

/- `header forro_half_payload_t` -/
structure ForroHalfPayloadT where
  verificar : BitVec 160
deriving DecidableEq, Repr

------------------------------------------------------------
-- Layouts
------------------------------------------------------------

/- A 32-bit field. -/
def word : Codec Word := Codec.bits 4

def ethernetH : Codec EthernetH :=
  ((Codec.bits 6).pair ((Codec.bits 6).pair (Codec.bits 2))).iso
    { toFun := fun h => ⟨h.1, h.2.1, h.2.2⟩
      invFun := fun h => (h.dstAddr, h.srcAddr, h.etherType)
      left_inv := fun _ => rfl
      right_inv := fun _ => rfl }

def p4draOperT : Codec P4draOperT :=
  ((Codec.bits 1).pair
      (word.pair (word.pair (word.pair word)))).iso
    { toFun := fun h =>
        ⟨h.1, h.2.1, h.2.2.1, h.2.2.2.1, h.2.2.2.2⟩
      invFun := fun h =>
        (h.oper, h.idRodada0, h.idRodada1, h.idRodada2,
          h.idRodada3)
      left_inv := fun _ => rfl
      right_inv := fun _ => rfl }

def p4draIdDispositivoT : Codec P4draIdDispositivoT :=
  (Codec.bits 16).iso
    { toFun := fun h => ⟨h⟩
      invFun := fun h => h.idDispositivo
      left_inv := fun _ => rfl
      right_inv := fun _ => rfl }

def forroRodadaT : Codec ForroRodadaT :=
  (Codec.bits 1).iso
    { toFun := fun h => ⟨h⟩
      invFun := fun h => h.rodada
      left_inv := fun _ => rfl
      right_inv := fun _ => rfl }

/- `forro_state_t`, `forro_state_cipher_t`, `forro_payload_t` -/
def forroStateT : Codec State :=
  word.vector 16

def forroStateCipherVerifyT : Codec ForroStateCipherVerifyT :=
  ((Codec.bits 20).pair (Codec.bits 44)).iso
    { toFun := fun h => ⟨h.1, h.2⟩
      invFun := fun h => (h.verificar, h.pular)
      left_inv := fun _ => rfl
      right_inv := fun _ => rfl }

def forroHalfPayloadT : Codec ForroHalfPayloadT :=
  (Codec.bits 20).iso
    { toFun := fun h => ⟨h⟩
      invFun := fun h => h.verificar
      left_inv := fun _ => rfl
      right_inv := fun _ => rfl }

------------------------------------------------------------
-- Ingress Parser And Deparser
------------------------------------------------------------

/- `struct my_ingress_headers_t` -/
structure MyIngressHeadersT where
  ethernet : Header EthernetH
  p4draOper : Header P4draOperT
  p4draIdDispositivo : Header P4draIdDispositivoT
  forroRodada : Header ForroRodadaT
  forroState : Header State
  forroCipher : Header State
  forroPayload : Header State
deriving DecidableEq, Repr

/- Sixteen zero words. -/
def zeroState : State := Vector.replicate 16 0

/- No header parsed. -/
def MyIngressHeadersT.empty : MyIngressHeadersT where
  ethernet := ⟨false, ⟨0, 0, 0⟩⟩
  p4draOper := ⟨false, ⟨0, 0, 0, 0, 0⟩⟩
  p4draIdDispositivo := ⟨false, ⟨0⟩⟩
  forroRodada := ⟨false, ⟨0⟩⟩
  forroState := ⟨false, zeroState⟩
  forroCipher := ⟨false, zeroState⟩
  forroPayload := ⟨false, zeroState⟩

namespace IngressParser

def parseForroRodadaState
    (hdr : MyIngressHeadersT)
    (pkt : List Byte) :
    Option (MyIngressHeadersT × List Byte) := do
  let (rodada, pkt) ← forroRodadaT.extract pkt
  let (state, pkt) ← forroStateT.extract pkt
  some
    ({ hdr with
        forroRodada := .extracted rodada
        forroState := .extracted state }, pkt)

def parseForroCipherPayload
    (hdr : MyIngressHeadersT)
    (pkt : List Byte) :
    Option (MyIngressHeadersT × List Byte) := do
  let (cipher, pkt) ← forroStateT.extract pkt
  let (payload, pkt) ← forroStateT.extract pkt
  some
    ({ hdr with
        forroCipher := .extracted cipher
        forroPayload := .extracted payload }, pkt)

def parseP4draIdDispositivo
    (hdr : MyIngressHeadersT)
    (pkt : List Byte) :
    Option (MyIngressHeadersT × List Byte) := do
  let (id, pkt) ← p4draIdDispositivoT.extract pkt
  let hdr := { hdr with p4draIdDispositivo := .extracted id }
  if hdr.p4draOper.fields.oper = 0x3 then
    parseForroRodadaState hdr pkt
  else if hdr.p4draOper.fields.oper = 0x4 then
    parseForroCipherPayload hdr pkt
  else
    some (hdr, pkt)

def parseP4draOper
    (hdr : MyIngressHeadersT)
    (pkt : List Byte) :
    Option (MyIngressHeadersT × List Byte) := do
  let (oper, pkt) ← p4draOperT.extract pkt
  let hdr := { hdr with p4draOper := .extracted oper }
  if oper.oper = 0x2 ∨ oper.oper = 0x3 ∨ oper.oper = 0x4 then
    parseP4draIdDispositivo hdr pkt
  else
    some (hdr, pkt)

def parseEthernet
    (pkt : List Byte) :
    Option (MyIngressHeadersT × List Byte) := do
  let (ethernet, pkt) ← ethernetH.extract pkt
  let hdr :=
    { MyIngressHeadersT.empty with
      ethernet := .extracted ethernet }
  if ethernet.etherType = etherTypeP4DRA then
    parseP4draOper hdr pkt
  else
    some (hdr, pkt)

end IngressParser

/- The headers and the bytes that no header claimed. -/
def ingressParser
    (pkt : List Byte) :
    Option (MyIngressHeadersT × List Byte) :=
  IngressParser.parseEthernet pkt

/- `pkt.emit(hdr)`: the valid headers in order. -/
def ingressDeparser (hdr : MyIngressHeadersT) : List Byte :=
  hdr.ethernet.emit ethernetH ++
    (hdr.p4draOper.emit p4draOperT ++
      (hdr.p4draIdDispositivo.emit p4draIdDispositivoT ++
        (hdr.forroRodada.emit forroRodadaT ++
          (hdr.forroState.emit forroStateT ++
            (hdr.forroCipher.emit forroStateT ++
              hdr.forroPayload.emit forroStateT)))))

------------------------------------------------------------
-- Egress Parser And Deparser
------------------------------------------------------------

/- `struct my_egress_headers_t` -/
structure MyEgressHeadersT where
  ethernet : Header EthernetH
  p4draOper : Header P4draOperT
  p4draIdDispositivo : Header P4draIdDispositivoT
  forroRodada : Header ForroRodadaT
  forroState : Header State
  forroCipher : Header State
  forroCipherVerify : Header ForroStateCipherVerifyT
  forroPayload : Header State
  forroHalfPayload : Header ForroHalfPayloadT
deriving DecidableEq, Repr

/- No header parsed. -/
def MyEgressHeadersT.empty : MyEgressHeadersT where
  ethernet := ⟨false, ⟨0, 0, 0⟩⟩
  p4draOper := ⟨false, ⟨0, 0, 0, 0, 0⟩⟩
  p4draIdDispositivo := ⟨false, ⟨0⟩⟩
  forroRodada := ⟨false, ⟨0⟩⟩
  forroState := ⟨false, zeroState⟩
  forroCipher := ⟨false, zeroState⟩
  forroCipherVerify := ⟨false, ⟨0, 0⟩⟩
  forroPayload := ⟨false, zeroState⟩
  forroHalfPayload := ⟨false, ⟨0⟩⟩

namespace EgressParser

def parseForroRodadaState
    (hdr : MyEgressHeadersT)
    (pkt : List Byte) :
    Option (MyEgressHeadersT × List Byte) := do
  let (rodada, pkt) ← forroRodadaT.extract pkt
  let (state, pkt) ← forroStateT.extract pkt
  some
    ({ hdr with
        forroRodada := .extracted rodada
        forroState := .extracted state }, pkt)

def parseForroCipherHalfPayload
    (hdr : MyEgressHeadersT)
    (pkt : List Byte) :
    Option (MyEgressHeadersT × List Byte) := do
  let (cipher, pkt) ← forroStateCipherVerifyT.extract pkt
  let (payload, pkt) ← forroHalfPayloadT.extract pkt
  some
    ({ hdr with
        forroCipherVerify := .extracted cipher
        forroHalfPayload := .extracted payload }, pkt)

def parseP4draIdDispositivo
    (hdr : MyEgressHeadersT)
    (pkt : List Byte) :
    Option (MyEgressHeadersT × List Byte) := do
  let (id, pkt) ← p4draIdDispositivoT.extract pkt
  let hdr := { hdr with p4draIdDispositivo := .extracted id }
  if hdr.p4draOper.fields.oper = 0x3 then
    parseForroRodadaState hdr pkt
  else if hdr.p4draOper.fields.oper = 0x4 then
    parseForroCipherHalfPayload hdr pkt
  else
    some (hdr, pkt)

def parseP4draOper
    (hdr : MyEgressHeadersT)
    (pkt : List Byte) :
    Option (MyEgressHeadersT × List Byte) := do
  let (oper, pkt) ← p4draOperT.extract pkt
  parseP4draIdDispositivo
    { hdr with p4draOper := .extracted oper } pkt

def parseEthernet
    (pkt : List Byte) :
    Option (MyEgressHeadersT × List Byte) := do
  let (ethernet, pkt) ← ethernetH.extract pkt
  let hdr :=
    { MyEgressHeadersT.empty with
      ethernet := .extracted ethernet }
  if ethernet.etherType = etherTypeP4DRA then
    parseP4draOper hdr pkt
  else
    some (hdr, pkt)

end EgressParser

/- The headers and the bytes that no header claimed. -/
def egressParser
    (pkt : List Byte) :
    Option (MyEgressHeadersT × List Byte) :=
  EgressParser.parseEthernet pkt

/- `pkt.emit(hdr)`: the valid headers in order. -/
def egressDeparser (hdr : MyEgressHeadersT) : List Byte :=
  hdr.ethernet.emit ethernetH ++
    (hdr.p4draOper.emit p4draOperT ++
      (hdr.p4draIdDispositivo.emit p4draIdDispositivoT ++
        (hdr.forroRodada.emit forroRodadaT ++
          (hdr.forroState.emit forroStateT ++
            (hdr.forroCipher.emit forroStateT ++
              (hdr.forroCipherVerify.emit
                  forroStateCipherVerifyT ++
                (hdr.forroPayload.emit forroStateT ++
                  hdr.forroHalfPayload.emit
                    forroHalfPayloadT)))))))

end Tna

end P4dra
