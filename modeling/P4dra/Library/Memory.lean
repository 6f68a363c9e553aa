import Mathlib.Tactic.Common

/-
  Memory and loops that fill a buffer in it.

  A memory gives a value at every address. A C loop that writes
  a buffer element by element may read the memory that it is
  writing; what it leaves is known once every value it writes is
  known from the memory with the earlier elements in place.

  Main declarations:
    * `Memory.read`, `Memory.write`, `Memory.overwrite`
    * `Memory.storeLoop_eq`
    * `Memory.Compatible`, `Memory.read_overwrite_compatible`
-/

------------------------------------------------------------
-- Buffers
------------------------------------------------------------

namespace Memory

variable {α : Type}

/- The `n` values from an address on. -/
def read
    (mem : Nat → α)
    (a n : Nat) : List α :=
  (List.range n).map (fun i => mem (a + i))

/- A store at one address. -/
def write
    (mem : Nat → α)
    (a : Nat)
    (x : α) : Nat → α :=
  fun b => if b = a then x else mem b

/- The memory with a list of values from an address on. -/
def overwrite
    (mem : Nat → α)
    (a : Nat)
    (xs : List α) : Nat → α :=
  fun b => if a ≤ b then (xs[b - a]?).getD (mem b) else mem b

@[simp] theorem length_read
    (mem : Nat → α)
    (a n : Nat) :
    (read mem a n).length = n := by
  simp [read]

/- Two memories that agree on a buffer hold the same in it. -/
theorem read_congr
    {mem mem' : Nat → α}
    {a n : Nat}
    (hSame : ∀ i < n, mem (a + i) = mem' (a + i)) :
    read mem a n = read mem' a n := by
  apply List.map_congr_left
  intro i hi
  exact hSame i (List.mem_range.mp hi)

/- A buffer is one part of it behind the other. -/
theorem read_add
    (mem : Nat → α)
    (a m n : Nat) :
    read mem a (m + n) = read mem a m ++ read mem (a + m) n := by
  simp only [read, List.range_add, List.map_append,
    List.map_map, Function.comp_def, Nat.add_assoc]

@[simp] theorem overwrite_nil
    (mem : Nat → α)
    (a : Nat) :
    overwrite mem a [] = mem := by
  funext b
  simp [overwrite]

theorem overwrite_inside
    (mem : Nat → α)
    (a : Nat)
    (xs : List α)
    (i : Nat)
    (hi : i < xs.length) :
    overwrite mem a xs (a + i) = xs[i] := by
  simp [overwrite, hi]

theorem overwrite_outside
    (mem : Nat → α)
    {a b : Nat}
    {xs : List α}
    (hb : b < a ∨ a + xs.length ≤ b) :
    overwrite mem a xs b = mem b := by
  unfold overwrite
  by_cases hLow : a ≤ b
  · have hNone : xs[b - a]? = none :=
      List.getElem?_eq_none (by omega)
    rw [if_pos hLow, hNone, Option.getD_none]
  · rw [if_neg hLow]

/- What was written is what is read. -/
theorem read_overwrite
    (mem : Nat → α)
    (a : Nat)
    (xs : List α) :
    read (overwrite mem a xs) a xs.length = xs := by
  apply List.ext_getElem
  · simp
  · intro i hi hi'
    simp only [read, List.getElem_map, List.getElem_range]
    exact overwrite_inside mem a xs i hi'

/- Writing what is there changes nothing. -/
theorem overwrite_read
    (mem : Nat → α)
    (a n : Nat) :
    overwrite mem a (read mem a n) = mem := by
  funext b
  by_cases hInside : a ≤ b ∧ b < a + n
  · rcases Nat.exists_eq_add_of_le hInside.1 with ⟨i, hi⟩
    subst hi
    rw [overwrite_inside _ _ _ _ (by rw [length_read]; omega)]
    simp [read]
  · apply overwrite_outside
    rw [length_read]
    omega

/- One list written behind another. -/
theorem overwrite_append
    (mem : Nat → α)
    (a : Nat)
    (xs ys : List α) :
    overwrite mem a (xs ++ ys) =
      overwrite (overwrite mem a xs) (a + xs.length) ys := by
  funext b
  unfold overwrite
  by_cases hLow : a ≤ b
  · rw [if_pos hLow, if_pos hLow, List.getElem?_append]
    by_cases hFirst : b - a < xs.length
    · rw [if_pos hFirst, if_neg (by omega)]
    · have hNone : xs[b - a]? = none :=
        List.getElem?_eq_none (by omega)
      have hIndex : b - a - xs.length = b - (a + xs.length) := by
        omega
      rw [if_neg hFirst, if_pos (by omega), hNone, hIndex,
        Option.getD_none]
  · rw [if_neg hLow, if_neg hLow, if_neg (by omega)]

theorem overwrite_concat
    (mem : Nat → α)
    (a : Nat)
    (xs : List α)
    (x : α) :
    overwrite mem a (xs ++ [x]) =
      write (overwrite mem a xs) (a + xs.length) x := by
  rw [overwrite_append]
  funext b
  by_cases hHere : b = a + xs.length
  · subst hHere
    simp [overwrite, write]
  · rw [overwrite_outside, write, if_neg hHere]
    rw [List.length_singleton]
    omega

/- The first value is written first. -/
theorem overwrite_cons
    (mem : Nat → α)
    (a : Nat)
    (x : α)
    (xs : List α) :
    overwrite mem a (x :: xs) =
      overwrite (write mem a x) (a + 1) xs := by
  have hFirst := overwrite_concat mem a [] x
  have hRest := overwrite_append mem a [x] xs
  rw [List.nil_append, overwrite_nil] at hFirst
  rw [List.singleton_append, hFirst] at hRest
  exact hRest

/- A list of the same length covers what was written. -/
theorem overwrite_overwrite
    (mem : Nat → α)
    (a : Nat)
    {xs ys : List α}
    (hLength : xs.length = ys.length) :
    overwrite (overwrite mem a xs) a ys = overwrite mem a ys := by
  funext b
  by_cases hInside : a ≤ b ∧ b < a + ys.length
  · rcases Nat.exists_eq_add_of_le hInside.1 with ⟨i, hi⟩
    subst hi
    have hIndex : i < ys.length := by omega
    rw [overwrite_inside _ _ _ _ hIndex,
      overwrite_inside _ _ _ _ hIndex]
  · have hOutside : b < a ∨ a + ys.length ≤ b := by omega
    rw [overwrite_outside _ hOutside,
      overwrite_outside _ hOutside]
    rw [← hLength] at hOutside
    exact overwrite_outside mem hOutside

------------------------------------------------------------
-- Loops
------------------------------------------------------------

/- `for (i = 0; i < n; ++i) a[i] = value(i)`. -/
def storeLoop
    (value : Nat → (Nat → α) → α)
    (a : Nat) : Nat → (Nat → α) → Nat → α
| 0, mem => mem
| n + 1, mem =>
    let mem := storeLoop value a n mem
    write mem (a + n) (value n mem)

/-
  The loop writes a list when each value is the one of the list
  in the memory that holds the values before it.
-/
theorem storeLoop_eq
    {value : Nat → (Nat → α) → α}
    {a : Nat}
    {mem : Nat → α}
    {xs : List α}
    (hValue :
      ∀ i x, xs[i]? = some x →
        value i (overwrite mem a (xs.take i)) = x) :
    storeLoop value a xs.length mem = overwrite mem a xs := by
  have hPrefix : ∀ n ≤ xs.length,
      storeLoop value a n mem = overwrite mem a (xs.take n) := by
    intro n
    induction n with
    | zero =>
        intro _
        simp [storeLoop]
    | succ n ih =>
        intro hn
        have hLt : n < xs.length := by omega
        have hLength : (xs.take n).length = n := by
          rw [List.length_take]
          omega
        have hWrite :=
          overwrite_concat mem a (xs.take n) xs[n]
        rw [hLength] at hWrite
        rw [storeLoop, ih (by omega),
          hValue n xs[n] (List.getElem?_eq_getElem hLt),
          ← hWrite, List.take_append_getElem hLt]
  have hAll := hPrefix xs.length (Nat.le_refl _)
  rw [List.take_length] at hAll
  exact hAll

/- Two buffers of a size are the same one, or are disjoint. -/
def Compatible (a b n : Nat) : Prop :=
  a = b ∨ a + n ≤ b ∨ b + n ≤ a

/- A write to the front of one keeps the rest of the other. -/
theorem read_overwrite_compatible
    (mem : Nat → α)
    {a b m n : Nat}
    {xs : List α}
    (hCompatible : Compatible a b (m + n))
    (hLength : xs.length ≤ m) :
    read (overwrite mem b xs) (a + m) n = read mem (a + m) n := by
  apply read_congr
  intro i hi
  apply overwrite_outside
  rcases hCompatible with hSame | hBefore | hBehind
  · omega
  · omega
  · omega

/- Behind what was written one buffer keeps the other. -/
theorem Compatible.overwrite_behind
    {a b m n : Nat}
    (h : Compatible a b (m + n))
    (mem : Nat → α)
    {xs : List α}
    (hLength : xs.length = m)
    {i : Nat}
    (hi : i < n) :
    overwrite mem b xs (a + (m + i)) = mem (a + (m + i)) := by
  apply overwrite_outside
  rw [hLength]
  rcases h with hSame | hBefore | hBehind
  · omega
  · omega
  · omega

/- The fronts of two such buffers are such. -/
theorem Compatible.front
    {a b m n : Nat}
    (h : Compatible a b (m + n)) :
    Compatible a b m := by
  rcases h with hSame | hBefore | hBehind
  · exact Or.inl hSame
  · exact Or.inr (Or.inl (by omega))
  · exact Or.inr (Or.inr (by omega))

/- The parts behind the front of two such buffers are such. -/
theorem Compatible.behind
    {a b m n : Nat}
    (h : Compatible a b (m + n)) :
    Compatible (a + m) (b + m) n := by
  rcases h with hSame | hBefore | hBehind
  · exact Or.inl (by omega)
  · exact Or.inr (Or.inl (by omega))
  · exact Or.inr (Or.inr (by omega))

end Memory
