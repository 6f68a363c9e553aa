import P4dra.Tna.Headers

/-
  The P4DRA actions of the switch program (`act_p4dra_ig.p4`,
  `act_p4dra_eg.p4`) and the state they work on.

  The state of a gress is its headers, its metadata and the
  intrinsic metadata the program writes. The identity hash
  `copy32_i.get(x)` is `x`.

  Main declarations:
    * `IngressState`, `EgressState`
    * `carregarEstado0` .. `carregarEstado3Iniciar`
    * `finalizarForro0` .. `finalizarForro4`
    * `verificarProva0`, `verificarProva1`, `verificarProva`
-/

------------------------------------------------------------
-- Ingress State
------------------------------------------------------------

namespace P4dra

open MatchAction (Flow Header)
open Registers (mapAt setAt)

namespace Tna

/- `struct my_ingress_metadata_t` -/
structure MyIngressMetadataT where
  conf0 : Word
  conf1 : Word
  conf2 : Word
  conf3 : Word
  verificacao0 : Word
  verificacao1 : Word
  verificacao2 : Word
  verificacao3 : Word
deriving DecidableEq, Repr

/- `init_metadata` of the ingress parser. -/
def MyIngressMetadataT.init : MyIngressMetadataT :=
  ⟨0, 0, 0, 0, 0, 0, 0, 0⟩

/-
  What the ingress control reads and writes. The port is
  unset until an action sets it.
-/
structure IngressState where
  hdr : MyIngressHeadersT
  metadata : MyIngressMetadataT
  ucastEgressPort : Option (BitVec 9)
  bypassEgress : Bool
  dropCtl : Bool
deriving DecidableEq, Repr

/- The state the ingress control starts from. -/
def IngressState.init (hdr : MyIngressHeadersT) : IngressState :=
  ⟨hdr, .init, none, false, false⟩

/- The key words `key0 .. key7` of a table entry. -/
abbrev Key := Vector Word 8

/- `HashAlgorithm_t.IDENTITY` over 32 bits. -/
def copy32 (x : Word) : Word := x

/- `NoAction` -/
def noAction {σ : Type} (s : σ) : Flow σ :=
  .next s

namespace Ingress

def drop (s : IngressState) : Flow IngressState :=
  .exit { s with dropCtl := true }

def forwardRequest
    (port : BitVec 9)
    (s : IngressState) : Flow IngressState :=
  .exit
    { s with
      hdr.p4draOper :=
        s.hdr.p4draOper.modify
          (fun oper => { oper with oper := 0x1 })
      ucastEgressPort := some port
      bypassEgress := true }

def forward
    (port : BitVec 9)
    (s : IngressState) : Flow IngressState :=
  .exit
    { s with
      ucastEgressPort := some port
      bypassEgress := true }

------------------------------------------------------------
-- Loading The State
------------------------------------------------------------

/- The words `carregar_estado_0` writes to `forro_state`. -/
def estadoCarregado
    (configuracao : BitVec 256)
    (key : Key)
    (oper : P4draOperT)
    (v : State) : State :=
  let v := setAt v 0 (key.get 0)
  let v := setAt v 1 (key.get 1)
  let v := setAt v 2 (key.get 2)
  let v := setAt v 3 (key.get 3)
  let v := setAt v 8 (key.get 4)
  let v := setAt v 9 (key.get 5)
  let v := setAt v 10 (key.get 6)
  let v := setAt v 11 (key.get 7)
  let v := setAt v 4
    (configuracao.extractLsb 255 224 ^^^
      copy32 oper.idRodada0)
  let v := setAt v 5 (configuracao.extractLsb 223 192)
  let v := setAt v 6 (configuracao.extractLsb 191 160)
  let v := setAt v 7 (configuracao.extractLsb 159 128)
  let v := setAt v 12 (configuracao.extractLsb 127 96)
  let v := setAt v 13 (configuracao.extractLsb 95 64)
  let v := setAt v 14 (configuracao.extractLsb 63 32)
  setAt v 15 (configuracao.extractLsb 31 0)

def carregarEstado0
    (configuracao : BitVec 256)
    (key : Key)
    (s : IngressState) : Flow IngressState :=
  .next
    { s with
      hdr.forroRodada := s.hdr.forroRodada.setValid
      hdr.forroState :=
        s.hdr.forroState.setValid.modify
          (estadoCarregado configuracao key
            s.hdr.p4draOper.fields) }

/- `forro_state.v = forro_state.v ^ copy32.get(id)` -/
def xorIdRodada
    (v : Fin 16)
    (id : Word)
    (s : IngressState) : IngressState :=
  { s with
    hdr.forroState :=
      s.hdr.forroState.modify
        (fun state => mapAt state v (· ^^^ copy32 id)) }

def carregarEstado1 (s : IngressState) : Flow IngressState :=
  .next (xorIdRodada 5 s.hdr.p4draOper.fields.idRodada1 s)

def carregarEstado2 (s : IngressState) : Flow IngressState :=
  .next (xorIdRodada 12 s.hdr.p4draOper.fields.idRodada2 s)

def carregarEstado3Iniciar
    (s : IngressState) : Flow IngressState :=
  let s := xorIdRodada 13 s.hdr.p4draOper.fields.idRodada3 s
  .exit
    { s with
      hdr.forroRodada :=
        s.hdr.forroRodada.modify (fun _ => ⟨1⟩)
      hdr.p4draOper :=
        s.hdr.p4draOper.modify
          (fun oper => { oper with oper := 0x3 })
      bypassEgress := true
      ucastEgressPort := some (68 + 128) }

------------------------------------------------------------
-- Feed-Forward
------------------------------------------------------------

/- The words `finalizar_forro_0` adds to `forro_cipher`. -/
def somarEstado
    (configuracao : BitVec 256)
    (key : Key)
    (v : State) : State :=
  let v := mapAt v 0 (· + key.get 0)
  let v := mapAt v 1 (· + key.get 1)
  let v := mapAt v 2 (· + key.get 2)
  let v := mapAt v 3 (· + key.get 3)
  let v := mapAt v 6 (· + configuracao.extractLsb 191 160)
  let v := mapAt v 7 (· + configuracao.extractLsb 159 128)
  let v := mapAt v 8 (· + key.get 4)
  let v := mapAt v 9 (· + key.get 5)
  let v := mapAt v 10 (· + key.get 6)
  let v := mapAt v 11 (· + key.get 7)
  let v := mapAt v 14 (· + configuracao.extractLsb 63 32)
  mapAt v 15 (· + configuracao.extractLsb 31 0)

def finalizarForro0
    (configuracao : BitVec 256)
    (key : Key)
    (s : IngressState) : Flow IngressState :=
  .next
    { s with
      hdr.forroCipher :=
        s.hdr.forroCipher.modify
          (somarEstado configuracao key)
      metadata.conf0 :=
        configuracao.extractLsb 255 224 ^^^
          copy32 s.hdr.p4draOper.fields.idRodada0
      metadata.conf1 := configuracao.extractLsb 223 192
      metadata.conf2 := configuracao.extractLsb 127 96
      metadata.conf3 := configuracao.extractLsb 95 64 }

/- `forro_cipher.v = forro_cipher.v + conf` -/
def somarConf
    (v : Fin 16)
    (conf : Word)
    (s : IngressState) : IngressState :=
  { s with
    hdr.forroCipher :=
      s.hdr.forroCipher.modify
        (fun cipher => mapAt cipher v (· + conf)) }

def finalizarForro1 (s : IngressState) : Flow IngressState :=
  let s := somarConf 4 s.metadata.conf0 s
  .next
    { s with
      metadata.conf1 :=
        s.metadata.conf1 ^^^
          copy32 s.hdr.p4draOper.fields.idRodada1 }

def finalizarForro2 (s : IngressState) : Flow IngressState :=
  let s := somarConf 5 s.metadata.conf1 s
  .next
    { s with
      metadata.conf2 :=
        s.metadata.conf2 ^^^
          copy32 s.hdr.p4draOper.fields.idRodada2 }

def finalizarForro3 (s : IngressState) : Flow IngressState :=
  let s := somarConf 12 s.metadata.conf2 s
  .next
    { s with
      metadata.conf3 :=
        s.metadata.conf3 ^^^
          copy32 s.hdr.p4draOper.fields.idRodada3 }

def finalizarForro4
    (port : BitVec 9)
    (s : IngressState) : Flow IngressState :=
  let s := somarConf 13 s.metadata.conf3 s
  .next { s with ucastEgressPort := some port }

------------------------------------------------------------
-- Comparing The Proof
------------------------------------------------------------

/- Four words of `forro_cipher` against `forro_payload`. -/
def verificarProva0
    (v0 v1 v2 v3 : Fin 16)
    (s : IngressState) : Flow IngressState :=
  let cipher := s.hdr.forroCipher.fields
  let payload := s.hdr.forroPayload.fields
  .next
    { s with
      metadata.verificacao0 := cipher.get v0 ^^^ payload.get v0
      metadata.verificacao1 := cipher.get v1 ^^^ payload.get v1
      metadata.verificacao2 := cipher.get v2 ^^^ payload.get v2
      metadata.verificacao3 := cipher.get v3 ^^^ payload.get v3 }

/- Three words of `forro_cipher` against `forro_payload`. -/
def verificarProva1
    (v0 v1 v2 : Fin 16)
    (s : IngressState) : Flow IngressState :=
  let cipher := s.hdr.forroCipher.fields
  let payload := s.hdr.forroPayload.fields
  .next
    { s with
      metadata.verificacao0 := cipher.get v0 ^^^ payload.get v0
      metadata.verificacao1 := cipher.get v1 ^^^ payload.get v1
      metadata.verificacao2 := cipher.get v2 ^^^ payload.get v2 }

end Ingress

------------------------------------------------------------
-- Egress State
------------------------------------------------------------

/-
  What the egress control reads and writes; `verificacao` is
  the metadata field, zero after the parser.
-/
structure EgressState where
  hdr : MyEgressHeadersT
  verificacao : BitVec 160
  dropCtl : Bool
deriving DecidableEq, Repr

/- The state the egress control starts from. -/
def EgressState.init (hdr : MyEgressHeadersT) : EgressState :=
  ⟨hdr, 0, false⟩

namespace Egress

def drop (s : EgressState) : Flow EgressState :=
  .exit { s with dropCtl := true }

/- The first 160 bits of the cipher against the payload. -/
def verificarProva (s : EgressState) : Flow EgressState :=
  .next
    { s with
      verificacao :=
        s.hdr.forroCipherVerify.fields.verificar ^^^
          s.hdr.forroHalfPayload.fields.verificar }

end Egress

end Tna

end P4dra
