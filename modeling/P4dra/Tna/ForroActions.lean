import P4dra.Tna.Actions

/-
  The 97 quarter-round actions of the switch program (the
  `act_forro_*` files): stage `i` of quarter-round `qr` is
  `i<i>_qr<qr>` on ingress and `e<i>_qr<qr>` on egress.

  Main declarations:
    * `i0Qr0` .. `i11Qr6`, `e0Qr1` .. `e11Qr7`, `e11Qr7Fin`
    * `acaoForroIg`, `acaoForroEg`
-/

------------------------------------------------------------
-- Shapes Of The Actions
------------------------------------------------------------

namespace P4dra

open MatchAction (Flow Header)
open Registers (addTo xorTo mapAt)

namespace Tna

/- `v[21:0] ++ v[31:22]` -/
def slices10 (v : Word) : Word :=
  v.extractLsb 21 0 ++ v.extractLsb 31 22

/- `v[4:0] ++ v[31:5]` -/
def slices27 (v : Word) : Word :=
  v.extractLsb 4 0 ++ v.extractLsb 31 5

/- `v[23:0] ++ v[31:24]` -/
def slices8 (v : Word) : Word :=
  v.extractLsb 23 0 ++ v.extractLsb 31 24

/- An ingress action on `hdr.forro_state`. -/
def onIngress
    (f : State → State)
    (s : IngressState) : Flow IngressState :=
  .next { s with hdr.forroState := s.hdr.forroState.modify f }

/-
  The last ingress action of a quarter-round also counts
  `rodada` and chooses the recirculation port.
-/
def lastIngress
    (f : State → State)
    (port : BitVec 9)
    (s : IngressState) : Flow IngressState :=
  .next
    { s with
      hdr.forroState := s.hdr.forroState.modify f
      hdr.forroRodada :=
        s.hdr.forroRodada.modify (fun h => ⟨h.rodada + 1⟩)
      ucastEgressPort := some port }

/- An egress action on `hdr.forro_state`. -/
def onEgress
    (f : State → State)
    (s : EgressState) : Flow EgressState :=
  .next { s with hdr.forroState := s.hdr.forroState.modify f }

/- The last egress action of a quarter-round counts `rodada`. -/
def lastEgress
    (f : State → State)
    (s : EgressState) : Flow EgressState :=
  .next
    { s with
      hdr.forroState := s.hdr.forroState.modify f
      hdr.forroRodada :=
        s.hdr.forroRodada.modify (fun h => ⟨h.rodada + 1⟩) }

/- The last egress action of all turns to verification. -/
def finishEgress
    (f : State → State)
    (s : EgressState) : Flow EgressState :=
  .next
    { s with
      hdr.forroState := s.hdr.forroState.modify f
      hdr.p4draOper :=
        s.hdr.p4draOper.modify
          (fun oper => { oper with oper := 0x4 })
      hdr.forroRodada := s.hdr.forroRodada.setInvalid }

------------------------------------------------------------
-- Ingress Actions
------------------------------------------------------------

/- `act_forro_ig_qr0.p4` -/
def i0Qr0 := onIngress (addTo · 12 3)

def i1Qr0 := onIngress (xorTo · 8 12)

def i2Qr0 := onIngress (addTo · 4 8)

def i3Qr0 := onIngress (mapAt · 4 slices10)

def i4Qr0 := onIngress (addTo · 0 4)

def i5Qr0 := onIngress (xorTo · 3 0)

def i6Qr0 := onIngress (addTo · 12 3)

def i7Qr0 := onIngress (mapAt · 12 slices27)

def i8Qr0 := onIngress (addTo · 8 12)

def i9Qr0 := onIngress (xorTo · 4 8)

def i10Qr0 := onIngress (addTo · 0 4)

def i11Qr0 := lastIngress (mapAt · 0 slices8) 68

/- `act_forro_ig_qr2.p4` -/
def i0Qr2 := onIngress (addTo · 14 1)

def i1Qr2 := onIngress (xorTo · 10 14)

def i2Qr2 := onIngress (addTo · 6 10)

def i3Qr2 := onIngress (mapAt · 6 slices10)

def i4Qr2 := onIngress (addTo · 2 6)

def i5Qr2 := onIngress (xorTo · 1 2)

def i6Qr2 := onIngress (addTo · 14 1)

def i7Qr2 := onIngress (mapAt · 14 slices27)

def i8Qr2 := onIngress (addTo · 10 14)

def i9Qr2 := onIngress (xorTo · 6 10)

def i10Qr2 := onIngress (addTo · 2 6)

def i11Qr2 := lastIngress (mapAt · 2 slices8) (68 + 128)

/- `act_forro_ig_qr4.p4` -/
def i0Qr4 := onIngress (addTo · 15 3)

def i1Qr4 := onIngress (xorTo · 10 15)

def i2Qr4 := onIngress (addTo · 5 10)

def i3Qr4 := onIngress (mapAt · 5 slices10)

def i4Qr4 := onIngress (addTo · 0 5)

def i5Qr4 := onIngress (xorTo · 3 0)

def i6Qr4 := onIngress (addTo · 15 3)

def i7Qr4 := onIngress (mapAt · 15 slices27)

def i8Qr4 := onIngress (addTo · 10 15)

def i9Qr4 := onIngress (xorTo · 5 10)

def i10Qr4 := onIngress (addTo · 0 5)

def i11Qr4 := lastIngress (mapAt · 0 slices8) 68

/- `act_forro_ig_qr6.p4` -/
def i0Qr6 := onIngress (addTo · 13 1)

def i1Qr6 := onIngress (xorTo · 8 13)

def i2Qr6 := onIngress (addTo · 7 8)

def i3Qr6 := onIngress (mapAt · 7 slices10)

def i4Qr6 := onIngress (addTo · 2 7)

def i5Qr6 := onIngress (xorTo · 1 2)

def i6Qr6 := onIngress (addTo · 13 1)

def i7Qr6 := onIngress (mapAt · 13 slices27)

def i8Qr6 := onIngress (addTo · 8 13)

def i9Qr6 := onIngress (xorTo · 7 8)

def i10Qr6 := onIngress (addTo · 2 7)

def i11Qr6 := lastIngress (mapAt · 2 slices8) (68 + 128)

------------------------------------------------------------
-- Egress Actions
------------------------------------------------------------

/- `act_forro_eg_qr1.p4` -/
def e0Qr1 := onEgress (addTo · 13 0)

def e1Qr1 := onEgress (xorTo · 9 13)

def e2Qr1 := onEgress (addTo · 5 9)

def e3Qr1 := onEgress (mapAt · 5 slices10)

def e4Qr1 := onEgress (addTo · 1 5)

def e5Qr1 := onEgress (xorTo · 0 1)

def e6Qr1 := onEgress (addTo · 13 0)

def e7Qr1 := onEgress (mapAt · 13 slices27)

def e8Qr1 := onEgress (addTo · 9 13)

def e9Qr1 := onEgress (xorTo · 5 9)

def e10Qr1 := onEgress (addTo · 1 5)

def e11Qr1 := lastEgress (mapAt · 1 slices8)

/- `act_forro_eg_qr3.p4` -/
def e0Qr3 := onEgress (addTo · 15 2)

def e1Qr3 := onEgress (xorTo · 11 15)

def e2Qr3 := onEgress (addTo · 7 11)

def e3Qr3 := onEgress (mapAt · 7 slices10)

def e4Qr3 := onEgress (addTo · 3 7)

def e5Qr3 := onEgress (xorTo · 2 3)

def e6Qr3 := onEgress (addTo · 15 2)

def e7Qr3 := onEgress (mapAt · 15 slices27)

def e8Qr3 := onEgress (addTo · 11 15)

def e9Qr3 := onEgress (xorTo · 7 11)

def e10Qr3 := onEgress (addTo · 3 7)

def e11Qr3 := lastEgress (mapAt · 3 slices8)

/- `act_forro_eg_qr5.p4` -/
def e0Qr5 := onEgress (addTo · 12 0)

def e1Qr5 := onEgress (xorTo · 11 12)

def e2Qr5 := onEgress (addTo · 6 11)

def e3Qr5 := onEgress (mapAt · 6 slices10)

def e4Qr5 := onEgress (addTo · 1 6)

def e5Qr5 := onEgress (xorTo · 0 1)

def e6Qr5 := onEgress (addTo · 12 0)

def e7Qr5 := onEgress (mapAt · 12 slices27)

def e8Qr5 := onEgress (addTo · 11 12)

def e9Qr5 := onEgress (xorTo · 6 11)

def e10Qr5 := onEgress (addTo · 1 6)

def e11Qr5 := lastEgress (mapAt · 1 slices8)

/- `act_forro_eg_qr7.p4` -/
def e0Qr7 := onEgress (addTo · 14 2)

def e1Qr7 := onEgress (xorTo · 9 14)

def e2Qr7 := onEgress (addTo · 4 9)

def e3Qr7 := onEgress (mapAt · 4 slices10)

def e4Qr7 := onEgress (addTo · 3 4)

def e5Qr7 := onEgress (xorTo · 2 3)

def e6Qr7 := onEgress (addTo · 14 2)

def e7Qr7 := onEgress (mapAt · 14 slices27)

def e8Qr7 := onEgress (addTo · 9 14)

def e9Qr7 := onEgress (xorTo · 4 9)

def e10Qr7 := onEgress (addTo · 3 4)

def e11Qr7 := lastEgress (mapAt · 3 slices8)

def e11Qr7Fin := finishEgress (mapAt · 3 slices8)

------------------------------------------------------------
-- Actions By Name
------------------------------------------------------------

/- The actions of one file, by stage. -/
def igQr0 :
    Vector (IngressState → Flow IngressState) 12 :=
  #v[i0Qr0, i1Qr0, i2Qr0, i3Qr0, i4Qr0, i5Qr0,
    i6Qr0, i7Qr0, i8Qr0, i9Qr0, i10Qr0, i11Qr0]

def igQr2 :
    Vector (IngressState → Flow IngressState) 12 :=
  #v[i0Qr2, i1Qr2, i2Qr2, i3Qr2, i4Qr2, i5Qr2,
    i6Qr2, i7Qr2, i8Qr2, i9Qr2, i10Qr2, i11Qr2]

def igQr4 :
    Vector (IngressState → Flow IngressState) 12 :=
  #v[i0Qr4, i1Qr4, i2Qr4, i3Qr4, i4Qr4, i5Qr4,
    i6Qr4, i7Qr4, i8Qr4, i9Qr4, i10Qr4, i11Qr4]

def igQr6 :
    Vector (IngressState → Flow IngressState) 12 :=
  #v[i0Qr6, i1Qr6, i2Qr6, i3Qr6, i4Qr6, i5Qr6,
    i6Qr6, i7Qr6, i8Qr6, i9Qr6, i10Qr6, i11Qr6]

def egQr1 :
    Vector (EgressState → Flow EgressState) 12 :=
  #v[e0Qr1, e1Qr1, e2Qr1, e3Qr1, e4Qr1, e5Qr1,
    e6Qr1, e7Qr1, e8Qr1, e9Qr1, e10Qr1, e11Qr1]

def egQr3 :
    Vector (EgressState → Flow EgressState) 12 :=
  #v[e0Qr3, e1Qr3, e2Qr3, e3Qr3, e4Qr3, e5Qr3,
    e6Qr3, e7Qr3, e8Qr3, e9Qr3, e10Qr3, e11Qr3]

def egQr5 :
    Vector (EgressState → Flow EgressState) 12 :=
  #v[e0Qr5, e1Qr5, e2Qr5, e3Qr5, e4Qr5, e5Qr5,
    e6Qr5, e7Qr5, e8Qr5, e9Qr5, e10Qr5, e11Qr5]

def egQr7 :
    Vector (EgressState → Flow EgressState) 12 :=
  #v[e0Qr7, e1Qr7, e2Qr7, e3Qr7, e4Qr7, e5Qr7,
    e6Qr7, e7Qr7, e8Qr7, e9Qr7, e10Qr7, e11Qr7]

/- The action `i<i>_qr<qr>`, where the program has one. -/
def acaoForroIg
    (qr : Fin 8)
    (i : Fin 12) :
    Option (IngressState → Flow IngressState) :=
  match qr with
  | 0 => some (igQr0[i])
  | 2 => some (igQr2[i])
  | 4 => some (igQr4[i])
  | 6 => some (igQr6[i])
  | _ => none

/- The action `e<i>_qr<qr>`, where the program has one. -/
def acaoForroEg
    (qr : Fin 8)
    (i : Fin 12) :
    Option (EgressState → Flow EgressState) :=
  match qr with
  | 1 => some (egQr1[i])
  | 3 => some (egQr3[i])
  | 5 => some (egQr5[i])
  | 7 => some (egQr7[i])
  | _ => none

end Tna

end P4dra
