import Mathlib.Logic.Function.Basic

/-
  Register files and add-xor-rotate steps.

  A register file is a vector of words. The steps below
  write one register from registers of the same file; they
  are what both a C macro over an array and a match-action
  stage over header fields consist of.

  Main declarations:
    * `Registers.addTo`, `Registers.xorTo`, `Registers.mapAt`,
      `Registers.setAt`
    * `Registers.getElem_mapAt`
    * `Registers.addTo_bijective`, `Registers.xorTo_bijective`,
      `Registers.mapAt_bijective`
-/

------------------------------------------------------------
-- Steps
------------------------------------------------------------

namespace Registers

variable {n w : Nat}

/- `d += e`. -/
def addTo
    (v : Vector (BitVec w) n)
    (d e : Fin n) : Vector (BitVec w) n :=
  v.set d (v[d] + v[e])

/- `d ^= e`. -/
def xorTo
    (v : Vector (BitVec w) n)
    (d e : Fin n) : Vector (BitVec w) n :=
  v.set d (v[d] ^^^ v[e])

/- `d = f(d)`. -/
def mapAt
    (v : Vector (BitVec w) n)
    (d : Fin n)
    (f : BitVec w → BitVec w) : Vector (BitVec w) n :=
  v.set d (f v[d])

/- `d = x`. -/
def setAt
    (v : Vector (BitVec w) n)
    (d : Fin n)
    (x : BitVec w) : Vector (BitVec w) n :=
  v.set d x

theorem getElem_setAt
    (v : Vector (BitVec w) n)
    (d : Fin n)
    (x : BitVec w)
    (i : Nat)
    (hi : i < n) :
    (setAt v d x)[i] = if d.val = i then x else v[i] :=
  Vector.getElem_set _ _

/- One register changes and the others stay. -/
theorem getElem_mapAt
    (v : Vector (BitVec w) n)
    (d : Fin n)
    (f : BitVec w → BitVec w)
    (i : Nat)
    (hi : i < n) :
    (mapAt v d f)[i] = (if d.val = i then f else id) v[i] := by
  unfold mapAt
  by_cases hSame : d.val = i
  · subst hSame
    simp
  · simp [Vector.getElem_set_ne, hSame]

------------------------------------------------------------
-- Inverse Steps
------------------------------------------------------------

/- `d -= e`. -/
def subFrom
    (v : Vector (BitVec w) n)
    (d e : Fin n) : Vector (BitVec w) n :=
  v.set d (v[d] - v[e])

/- Writing a register back undoes a write to it. -/
theorem set_set_of_eq
    (v : Vector (BitVec w) n)
    (d : Fin n)
    (x : BitVec w)
    {y : BitVec w}
    (hy : y = v[d]) :
    (v.set d x).set d y = v := by
  subst hy
  simp

/- A register is not changed by a write to another one. -/
theorem getElem_set_other
    (v : Vector (BitVec w) n)
    {d e : Fin n}
    (hNe : d ≠ e)
    (x : BitVec w) :
    (v.set d x)[e] = v[e] := by
  have hVal : d.val ≠ e.val := fun h => hNe (Fin.ext h)
  exact Vector.getElem_set_ne _ _ hVal

theorem getElem_set_same
    (v : Vector (BitVec w) n)
    (d : Fin n)
    (x : BitVec w) :
    (v.set d x)[d] = x :=
  Vector.getElem_set_self _

/- Subtracting undoes adding. -/
theorem subFrom_addTo
    (v : Vector (BitVec w) n)
    {d e : Fin n}
    (hNe : d ≠ e) :
    subFrom (addTo v d e) d e = v := by
  unfold subFrom addTo
  apply set_set_of_eq
  rw [getElem_set_same, getElem_set_other v hNe]
  exact BitVec.add_sub_cancel _ _

theorem addTo_subFrom
    (v : Vector (BitVec w) n)
    {d e : Fin n}
    (hNe : d ≠ e) :
    addTo (subFrom v d e) d e = v := by
  unfold subFrom addTo
  apply set_set_of_eq
  rw [getElem_set_same, getElem_set_other v hNe]
  exact BitVec.sub_add_cancel _ _

/- The exclusive or with another register undoes itself. -/
theorem xorTo_xorTo
    (v : Vector (BitVec w) n)
    {d e : Fin n}
    (hNe : d ≠ e) :
    xorTo (xorTo v d e) d e = v := by
  unfold xorTo
  apply set_set_of_eq
  rw [getElem_set_same, getElem_set_other v hNe,
    BitVec.xor_assoc, BitVec.xor_self, BitVec.xor_zero]

/- A function on a register is undone by its inverse. -/
theorem mapAt_mapAt
    {f g : BitVec w → BitVec w}
    (hInverse : Function.LeftInverse g f)
    (v : Vector (BitVec w) n)
    (d : Fin n) :
    mapAt (mapAt v d f) d g = v := by
  unfold mapAt
  apply set_set_of_eq
  rw [getElem_set_same]
  exact hInverse _

theorem addTo_bijective
    {d e : Fin n}
    (hNe : d ≠ e) :
    Function.Bijective
      (fun v : Vector (BitVec w) n => addTo v d e) :=
  Function.bijective_iff_has_inverse.mpr
    ⟨fun v => subFrom v d e,
      fun v => subFrom_addTo v hNe,
      fun v => addTo_subFrom v hNe⟩

theorem xorTo_bijective
    {d e : Fin n}
    (hNe : d ≠ e) :
    Function.Bijective
      (fun v : Vector (BitVec w) n => xorTo v d e) :=
  Function.Involutive.bijective (fun v => xorTo_xorTo v hNe)

theorem mapAt_bijective
    {f g : BitVec w → BitVec w}
    (d : Fin n)
    (hLeft : Function.LeftInverse g f)
    (hRight : Function.RightInverse g f) :
    Function.Bijective
      (fun v : Vector (BitVec w) n => mapAt v d f) :=
  Function.bijective_iff_has_inverse.mpr
    ⟨fun v => mapAt v d g,
      fun v => mapAt_mapAt hLeft v d,
      fun v => mapAt_mapAt hRight v d⟩

end Registers
