import P4dra.Library.Recirculation
import P4dra.Tna.ForroActions
import P4dra.Tna.Setup

/-
  The tables, the two controls and the traversals of the
  switch (`tbl_*`, `ingress.p4`, `egress.p4`).

  The entries of a table are those that the driver calls
  add to it, in order. A traversal is one pass of a frame
  through ingress and, unless it is bypassed, egress. A frame
  that leaves on a recirculation port enters ingress again.
  The traffic manager drops a frame with no port, and a
  parser error drops the frame.

  Main declarations:
    * `ingressApply`, `egressApply`
    * `ingressPass`, `egressPass`, `travessia`
    * `processar`
-/

------------------------------------------------------------
-- Quarter-Round Tables
------------------------------------------------------------

namespace P4dra

open Bytes (Byte)
open MatchAction (Flow Table sequence)
open Recirculation (Outcome)

namespace Tna

/- The entry a call adds to `tbl_forro_ig<i>`. -/
def entradaForroIg
    (i : Fin 12) :
    BfrtCall → Option (BitVec 8 × (IngressState → Flow IngressState))
| .forroIg j qr rodada =>
    if j = i then
      (acaoForroIg qr i).map (fun action => (rodada, action))
    else
      none
| _ => none

/- The entry a call adds to `tbl_forro_eg<i>`. -/
def entradaForroEg
    (i : Fin 12) :
    BfrtCall → Option (BitVec 8 × (EgressState → Flow EgressState))
| .forroEg j qr rodada =>
    if j = i then
      (acaoForroEg qr i).map (fun action => (rodada, action))
    else
      none
| .forroEg11Fin rodada =>
    if i = 11 then some (rodada, e11Qr7Fin) else none
| _ => none

/- `tbl_forro_ig<i>`; from stage 1 on the default action acts. -/
def tblForroIg
    (calls : List BfrtCall)
    (i : Fin 12) : Table (BitVec 8) IngressState where
  entries := calls.filterMap (entradaForroIg i)
  default := if i = 0 then noAction else igQr0.get i

/- `tbl_forro_eg<i>` -/
def tblForroEg
    (calls : List BfrtCall)
    (i : Fin 12) : Table (BitVec 8) EgressState where
  entries := calls.filterMap (entradaForroEg i)
  default := noAction

------------------------------------------------------------
-- Initialization Tables
------------------------------------------------------------

def entradaP4draIg0 :
    BfrtCall →
      Option ((BitVec 8 × BitVec 128) ×
        (IngressState → Flow IngressState))
| .ig0CarregarEstado0 oper id configuracao key =>
    some ((oper, id), Ingress.carregarEstado0 configuracao key)
| .ig0ForwardRequest oper id port =>
    some ((oper, id), Ingress.forwardRequest port)
| .ig0Forward oper id port =>
    some ((oper, id), Ingress.forward port)
| _ => none

def tblP4draIg0
    (calls : List BfrtCall) :
    Table (BitVec 8 × BitVec 128) IngressState where
  entries := calls.filterMap entradaP4draIg0
  default := Ingress.drop

def tblP4draIg1
    (calls : List BfrtCall) :
    Table (BitVec 8) IngressState where
  entries := calls.filterMap fun
    | .ig1CarregarEstado1 oper =>
        some (oper, Ingress.carregarEstado1)
    | _ => none
  default := noAction

def tblP4draIg2
    (calls : List BfrtCall) :
    Table (BitVec 8) IngressState where
  entries := calls.filterMap fun
    | .ig2CarregarEstado2 oper =>
        some (oper, Ingress.carregarEstado2)
    | _ => none
  default := noAction

def tblP4draIg3
    (calls : List BfrtCall) :
    Table (BitVec 8) IngressState where
  entries := calls.filterMap fun
    | .ig3CarregarEstado3Iniciar oper =>
        some (oper, Ingress.carregarEstado3Iniciar)
    | _ => none
  default := noAction

------------------------------------------------------------
-- Finalization Tables
------------------------------------------------------------

def entradaP4draIg0Fin :
    BfrtCall →
      Option (BitVec 128 × (IngressState → Flow IngressState))
| .ig0FinFinalizarForro0 id configuracao key =>
    some (id, Ingress.finalizarForro0 configuracao key)
| _ => none

def tblP4draIg0Fin
    (calls : List BfrtCall) :
    Table (BitVec 128) IngressState where
  entries := calls.filterMap entradaP4draIg0Fin
  default := noAction

def tblP4draIg1Fin
    (calls : List BfrtCall) :
    Table (BitVec 8) IngressState where
  entries := calls.filterMap fun
    | .ig1FinFinalizarForro1 oper =>
        some (oper, Ingress.finalizarForro1)
    | _ => none
  default := noAction

def tblP4draIg2Fin
    (calls : List BfrtCall) :
    Table (BitVec 8) IngressState where
  entries := calls.filterMap fun
    | .ig2FinFinalizarForro2 oper =>
        some (oper, Ingress.finalizarForro2)
    | _ => none
  default := noAction

def tblP4draIg3Fin
    (calls : List BfrtCall) :
    Table (BitVec 8) IngressState where
  entries := calls.filterMap fun
    | .ig3FinFinalizarForro3 oper =>
        some (oper, Ingress.finalizarForro3)
    | _ => none
  default := noAction

def tblP4draIg4Fin
    (calls : List BfrtCall) :
    Table (BitVec 8) IngressState where
  entries := calls.filterMap fun
    | .ig4FinFinalizarForro4 oper port =>
        some (oper, Ingress.finalizarForro4 port)
    | _ => none
  default := noAction

def tblP4draIg5Fin
    (calls : List BfrtCall) :
    Table (BitVec 8) IngressState where
  entries := calls.filterMap fun
    | .ig5FinVerificarProva0 oper =>
        some (oper, Ingress.verificarProva0 15 14 13 12)
    | _ => none
  default := Ingress.verificarProva0 15 14 13 12

/- The four comparison words of the metadata. -/
abbrev QuatroPalavras := Word × Word × Word × Word

def tblP4draIg6Fin
    (calls : List BfrtCall) :
    Table QuatroPalavras IngressState where
  entries := calls.filterMap fun
    | .ig6FinVerificarProva0 v0 v1 v2 v3 =>
        some
          ((v0, v1, v2, v3),
            Ingress.verificarProva0 11 10 9 8)
    | _ => none
  default := Ingress.drop

def tblP4draIg7Fin
    (calls : List BfrtCall) :
    Table QuatroPalavras IngressState where
  entries := calls.filterMap fun
    | .ig7FinVerificarProva1 v0 v1 v2 v3 =>
        some ((v0, v1, v2, v3), Ingress.verificarProva1 7 6 5)
    | _ => none
  default := Ingress.drop

def tblP4draIg8Fin
    (calls : List BfrtCall) :
    Table (Word × Word × Word) IngressState where
  entries := calls.filterMap fun
    | .ig8FinNoAction v0 v1 v2 => some ((v0, v1, v2), noAction)
    | _ => none
  default := Ingress.drop

def tblP4draEg0Fin
    (calls : List BfrtCall) :
    Table (BitVec 8) EgressState where
  entries := calls.filterMap fun
    | .eg0FinVerificarProva oper =>
        some (oper, Egress.verificarProva)
    | _ => none
  default := Egress.verificarProva

def tblP4draEg1Fin
    (calls : List BfrtCall) :
    Table (BitVec 160) EgressState where
  entries := calls.filterMap fun
    | .eg1FinNoAction verificacao => some (verificacao, noAction)
    | _ => none
  default := Egress.drop

------------------------------------------------------------
-- Controls
------------------------------------------------------------

namespace IngressState

def oper (s : IngressState) : BitVec 8 :=
  s.hdr.p4draOper.fields.oper

def idDispositivo (s : IngressState) : BitVec 128 :=
  s.hdr.p4draIdDispositivo.fields.idDispositivo

def rodada (s : IngressState) : BitVec 8 :=
  s.hdr.forroRodada.fields.rodada

/- The four keys `meta.verificacao0 .. verificacao3`. -/
def verificacao (s : IngressState) : QuatroPalavras :=
  (s.metadata.verificacao0, s.metadata.verificacao1,
    s.metadata.verificacao2, s.metadata.verificacao3)

end IngressState

/- The twelve stages of a quarter-round on ingress. -/
def quartoIngress
    (calls : List BfrtCall) :
    List (IngressState → Flow IngressState) :=
  (List.finRange 12).map
    (fun i => (tblForroIg calls i).apply IngressState.rodada)

/- The tables that add the initial state and compare. -/
def trilhaFinalizacao
    (calls : List BfrtCall) :
    List (IngressState → Flow IngressState) :=
  [(tblP4draIg0Fin calls).apply IngressState.idDispositivo,
    (tblP4draIg1Fin calls).apply IngressState.oper,
    (tblP4draIg2Fin calls).apply IngressState.oper,
    (tblP4draIg3Fin calls).apply IngressState.oper,
    (tblP4draIg4Fin calls).apply IngressState.oper,
    (tblP4draIg5Fin calls).apply IngressState.oper,
    (tblP4draIg6Fin calls).apply IngressState.verificacao,
    (tblP4draIg7Fin calls).apply IngressState.verificacao,
    (tblP4draIg8Fin calls).apply
      (fun s =>
        (s.metadata.verificacao0, s.metadata.verificacao1,
          s.metadata.verificacao2))]

/- The tables that load the initial state. -/
def trilhaInicializacao
    (calls : List BfrtCall) :
    List (IngressState → Flow IngressState) :=
  [(tblP4draIg0 calls).apply
      (fun s => (s.oper, s.idDispositivo)),
    (tblP4draIg1 calls).apply IngressState.oper,
    (tblP4draIg2 calls).apply IngressState.oper,
    (tblP4draIg3 calls).apply IngressState.oper]

/- `apply` of the ingress control. -/
def ingressApply
    (calls : List BfrtCall)
    (s : IngressState) : IngressState :=
  if s.oper = 0x3 then
    (sequence (quartoIngress calls) s).state
  else if s.oper = 0x4 then
    (sequence (trilhaFinalizacao calls) s).state
  else
    (sequence (trilhaInicializacao calls) s).state

namespace EgressState

def oper (s : EgressState) : BitVec 8 :=
  s.hdr.p4draOper.fields.oper

def rodada (s : EgressState) : BitVec 8 :=
  s.hdr.forroRodada.fields.rodada

end EgressState

/- The twelve stages of a quarter-round on egress. -/
def quartoEgress
    (calls : List BfrtCall) :
    List (EgressState → Flow EgressState) :=
  (List.finRange 12).map
    (fun i => (tblForroEg calls i).apply EgressState.rodada)

/- The tables that compare the rest of the proof. -/
def trilhaVerificacao
    (calls : List BfrtCall) :
    List (EgressState → Flow EgressState) :=
  [(tblP4draEg0Fin calls).apply EgressState.oper,
    (tblP4draEg1Fin calls).apply EgressState.verificacao]

/- `apply` of the egress control. -/
def egressApply
    (calls : List BfrtCall)
    (s : EgressState) : EgressState :=
  if s.oper = 0x3 then
    (sequence (quartoEgress calls) s).state
  else
    (sequence (trilhaVerificacao calls) s).state

------------------------------------------------------------
-- Traversals
------------------------------------------------------------

/- A frame on the wire. -/
abbrev Frame := List Byte

/- What the traffic manager gets from ingress. -/
structure Unicast where
  port : BitVec 9
  bypassEgress : Bool
  frame : Frame
deriving DecidableEq, Repr

/- Ingress parser, control and deparser on a frame. -/
def ingressPass
    (calls : List BfrtCall)
    (frame : Frame) : Option Unicast := do
  let (hdr, rest) ← ingressParser frame
  let s := ingressApply calls (.init hdr)
  if s.dropCtl then
    none
  else
    let port ← s.ucastEgressPort
    some ⟨port, s.bypassEgress, ingressDeparser s.hdr ++ rest⟩

/- Egress parser, control and deparser on a frame. -/
def egressPass
    (calls : List BfrtCall)
    (frame : Frame) : Option Frame := do
  let (hdr, rest) ← egressParser frame
  let s := egressApply calls (.init hdr)
  if s.dropCtl then
    none
  else
    some (egressDeparser s.hdr ++ rest)

/- The ports whose frames enter ingress again. -/
def portaRecirculacao (port : BitVec 9) : Bool :=
  port = 68 || port = 68 + 128

/- How the processing of a frame ends. -/
inductive Resultado where
| emitido : BitVec 9 → Frame → Resultado
| descartado : Resultado
deriving DecidableEq, Repr

/- The port and the bytes with which a frame leaves a pass. -/
def passagem
    (calls : List BfrtCall)
    (frame : Frame) : Option (BitVec 9 × Frame) := do
  let unicast ← ingressPass calls frame
  if unicast.bypassEgress then
    some (unicast.port, unicast.frame)
  else
    let frame ← egressPass calls unicast.frame
    some (unicast.port, frame)

/- One pass of a frame through the switch. -/
def travessia
    (calls : List BfrtCall)
    (frame : Frame) : Outcome Frame Resultado :=
  match passagem calls frame with
  | none => .done .descartado
  | some (port, frame) =>
      if portaRecirculacao port then
        .again frame
      else
        .done (.emitido port frame)

/- Process a frame in at most so many passes. -/
def processar
    (calls : List BfrtCall)
    (fuel : Nat)
    (frame : Frame) : Option Resultado :=
  Recirculation.run (travessia calls) fuel frame

end Tna

end P4dra
