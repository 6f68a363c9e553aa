import Mathlib.Tactic.Common

/-
  Pieces of text that end with a separator.

  When no piece contains the separator, the pieces can be read
  back from the text that they make one after the other.

  Main declarations:
    * `Terminated.join`
    * `Terminated.join_map_injective`
-/

------------------------------------------------------------
-- Pieces
------------------------------------------------------------

namespace Terminated

variable {α : Type}

/- Every piece with a separator behind it. -/
def join (c : α) (pieces : List (List α)) : List α :=
  pieces.flatMap (fun piece => piece ++ [c])

@[simp] theorem join_nil
    (c : α) :
    join c [] = [] := rfl

@[simp] theorem join_cons
    (c : α)
    (piece : List α)
    (pieces : List (List α)) :
    join c (piece :: pieces) = piece ++ c :: join c pieces := by
  rw [join, List.flatMap_cons, List.append_assoc,
    List.singleton_append]
  rfl

theorem join_append
    (c : α)
    (pieces more : List (List α)) :
    join c (pieces ++ more) = join c pieces ++ join c more :=
  List.flatMap_append

/- The first separator ends the first piece. -/
theorem append_cons_inj
    {c : α}
    {piece : List α} :
    ∀ {piece' rest rest' : List α},
      c ∉ piece → c ∉ piece' →
        piece ++ c :: rest = piece' ++ c :: rest' →
        piece = piece' ∧ rest = rest' := by
  induction piece with
  | nil =>
      intro piece' rest rest' _ hOther hSame
      cases piece' with
      | nil =>
          injection hSame with _ hRest
          exact ⟨rfl, hRest⟩
      | cons a piece' =>
          injection hSame with hHead _
          exact absurd (hHead ▸ List.mem_cons_self) hOther
  | cons a piece ih =>
      intro piece' rest rest' hPiece hOther hSame
      cases piece' with
      | nil =>
          injection hSame with hHead _
          exact absurd (hHead ▸ List.mem_cons_self) hPiece
      | cons a' piece' =>
          injection hSame with hHead hTail
          rcases ih
              (fun hMem =>
                hPiece (List.mem_cons_of_mem a hMem))
              (fun hMem =>
                hOther (List.mem_cons_of_mem a' hMem))
              hTail with
            ⟨hSamePiece, hRest⟩
          exact ⟨by rw [hHead, hSamePiece], hRest⟩

/-
  Values that are written without the separator, and each in
  its own way, are read back from the text of all of them.
-/
theorem join_map_injective
    {β : Type}
    {P : β → Prop}
    {write : β → List α}
    {c : α}
    (hFree : ∀ b, P b → c ∉ write b)
    (hOwn : ∀ b b', P b → P b' → write b = write b' → b = b')
    {values : List β} :
    ∀ {others : List β},
      (∀ b ∈ values, P b) →
        (∀ b ∈ others, P b) →
        join c (values.map write) = join c (others.map write) →
        values = others := by
  induction values with
  | nil =>
      intro others _ _ hSame
      cases others with
      | nil => rfl
      | cons other others => simp at hSame
  | cons value values ih =>
      intro others hValues hOthers hSame
      cases others with
      | nil => simp at hSame
      | cons other others =>
          have hValue := hValues value List.mem_cons_self
          have hOther := hOthers other List.mem_cons_self
          rw [List.map_cons, List.map_cons, join_cons,
            join_cons] at hSame
          rcases append_cons_inj (hFree value hValue)
              (hFree other hOther) hSame with
            ⟨hFirst, hRest⟩
          rw [hOwn value other hValue hOther hFirst,
            ih
              (fun b hb =>
                hValues b (List.mem_cons_of_mem value hb))
              (fun b hb =>
                hOthers b (List.mem_cons_of_mem other hb))
              hRest]

theorem join_injective
    {c : α}
    {pieces others : List (List α)}
    (hPieces : ∀ piece ∈ pieces, c ∉ piece)
    (hOthers : ∀ piece ∈ others, c ∉ piece)
    (hSame : join c pieces = join c others) :
    pieces = others := by
  rw [← List.map_id pieces, ← List.map_id others] at hSame
  exact
    join_map_injective (fun _ hFree => hFree)
      (fun _ _ _ _ hEq => hEq) hPieces hOthers hSame

end Terminated
