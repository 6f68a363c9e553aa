import P4dra.Library.Codec

/-
  Match-action processing.

  A control block runs a list of tables one after the other
  on a state; an action may leave the block early with
  `exit`. A table maps exact keys to actions and has a
  default action. A header is a record with a validity bit;
  only valid headers are emitted.

  Main declarations:
    * `MatchAction.sequence` and `MatchAction.Table.apply`
    * `MatchAction.sequence_append_next`
    * `MatchAction.sequence_congr`
    * `MatchAction.keeps_sequence`, `MatchAction.Table.keeps`
    * `MatchAction.Table.apply_of_prefix`
    * `MatchAction.lookup_map_eq_find?`
    * `MatchAction.Header.emit`
-/

------------------------------------------------------------
-- Control Flow
------------------------------------------------------------

open Bytes (Byte)

namespace MatchAction

variable {σ κ α ρ : Type}

/- A control block goes on with a state or exits with it. -/
inductive Flow (σ : Type) where
| next : σ → Flow σ
| exit : σ → Flow σ
deriving DecidableEq, Repr

/- The state, however the block goes on. -/
def Flow.state : Flow σ → σ
| .next s => s
| .exit s => s

/- Apply statements in order until one of them exits. -/
def sequence : List (σ → Flow σ) → σ → Flow σ
| [], s => .next s
| statement :: rest, s =>
    match statement s with
    | .next s' => sequence rest s'
    | .exit s' => .exit s'

theorem sequence_cons_next
    {statement : σ → Flow σ}
    {s s' : σ}
    (rest : List (σ → Flow σ))
    (h : statement s = .next s') :
    sequence (statement :: rest) s = sequence rest s' := by
  simp [sequence, h]

theorem sequence_cons_exit
    {statement : σ → Flow σ}
    {s s' : σ}
    (rest : List (σ → Flow σ))
    (h : statement s = .exit s') :
    sequence (statement :: rest) s = .exit s' := by
  simp [sequence, h]

/- A second block runs where the first one goes on. -/
theorem sequence_append_next
    {first : List (σ → Flow σ)}
    {s s' : σ}
    (second : List (σ → Flow σ))
    (h : sequence first s = .next s') :
    sequence (first ++ second) s = sequence second s' := by
  induction first generalizing s with
  | nil =>
      cases h
      rfl
  | cons statement rest ih =>
      rw [List.cons_append]
      cases hStep : statement s with
      | next t =>
          rw [sequence_cons_next rest hStep] at h
          rw [sequence_cons_next _ hStep]
          exact ih h
      | exit t =>
          rw [sequence_cons_exit rest hStep] at h
          cases h

/-
  Blocks whose statements agree where `I` holds are the same
  block there, if all but the last statement keep `I`.
-/
theorem sequence_congr
    (I : σ → Prop)
    {statements actions : List (σ → Flow σ)}
    (hAgree :
      List.Forall₂ (fun statement action =>
        ∀ s, I s → statement s = action s) statements actions)
    (hKeep :
      ∀ action ∈ actions.dropLast, ∀ s,
        I s → I (action s).state) :
    ∀ s, I s → sequence statements s = sequence actions s := by
  induction hAgree with
  | nil =>
      intro s _
      rfl
  | @cons statement action rest others hFirst hRest ih =>
      intro s hs
      have hSame := hFirst s hs
      cases hStep : action s with
      | exit s' =>
          rw [sequence_cons_exit others hStep,
            sequence_cons_exit rest (hSame.trans hStep)]
      | next s' =>
          rw [sequence_cons_next others hStep,
            sequence_cons_next rest (hSame.trans hStep)]
          cases hRest with
          | nil => rfl
          | cons hSecond hLater =>
              apply ih
              · intro later hLater
                exact hKeep later (by simp [hLater])
              · have hState := hKeep action (by simp) s hs
                simpa [hStep, Flow.state] using hState

/-
  A statement keeps a condition, unless it exits with another
  one.
-/
def Keeps
    (P Q : σ → Prop)
    (statement : σ → Flow σ) : Prop :=
  ∀ s, P s →
    (∃ s', statement s = .next s' ∧ P s') ∨
      ∃ s', statement s = .exit s' ∧ Q s'

/- So does a block of such statements. -/
theorem keeps_sequence
    {P Q : σ → Prop}
    {statements : List (σ → Flow σ)}
    (hKeeps : ∀ statement ∈ statements, Keeps P Q statement) :
    Keeps P Q (sequence statements) := by
  induction statements with
  | nil =>
      intro s hs
      exact Or.inl ⟨s, rfl, hs⟩
  | cons statement rest ih =>
      intro s hs
      rcases hKeeps statement List.mem_cons_self s hs with
        ⟨s', hNext, hs'⟩ | ⟨s', hExit, hs'⟩
      · rw [sequence_cons_next rest hNext]
        exact
          ih (fun other hOther =>
            hKeeps other (List.mem_cons_of_mem _ hOther)) s' hs'
      · rw [sequence_cons_exit rest hExit]
        exact Or.inr ⟨s', rfl, hs'⟩

/- A block whose last statement always exits never goes on. -/
theorem exit_of_keeps
    {P Q : σ → Prop}
    {first : List (σ → Flow σ)}
    {last : σ → Flow σ}
    (hFirst : ∀ statement ∈ first, Keeps P Q statement)
    (hLast : ∀ s, P s → ∃ s', last s = .exit s' ∧ Q s')
    {s : σ}
    (hs : P s) :
    ∃ s', sequence (first ++ [last]) s = .exit s' ∧ Q s' := by
  induction first generalizing s with
  | nil =>
      rcases hLast s hs with ⟨s', hExit, hs'⟩
      exact ⟨s', sequence_cons_exit [] hExit, hs'⟩
  | cons statement rest ih =>
      rw [List.cons_append]
      rcases hFirst statement List.mem_cons_self s hs with
        ⟨s', hNext, hs'⟩ | ⟨s', hExit, hs'⟩
      · rw [sequence_cons_next _ hNext]
        exact
          ih (fun other hOther =>
            hFirst other (List.mem_cons_of_mem _ hOther)) hs'
      · exact ⟨s', sequence_cons_exit _ hExit, hs'⟩

------------------------------------------------------------
-- Tables
------------------------------------------------------------

/- Exact-match entries and the action of a miss. -/
structure Table (κ σ : Type) where
  entries : List (κ × (σ → Flow σ))
  default : σ → Flow σ

/- Apply the action selected by the key of the state. -/
def Table.apply
    [DecidableEq κ]
    (table : Table κ σ)
    (key : σ → κ)
    (s : σ) : Flow σ :=
  ((table.entries.lookup (key s)).getD table.default) s

theorem Table.apply_of_lookup
    [DecidableEq κ]
    {table : Table κ σ}
    {key : σ → κ}
    {s : σ}
    {action : σ → Flow σ}
    (h : table.entries.lookup (key s) = some action) :
    table.apply key s = action s := by
  simp [Table.apply, h]

theorem Table.apply_of_miss
    [DecidableEq κ]
    {table : Table κ σ}
    {key : σ → κ}
    {s : σ}
    (h : table.entries.lookup (key s) = none) :
    table.apply key s = table.default s := by
  simp [Table.apply, h]

/- A table runs its default action or that of an entry. -/
theorem Table.apply_cases
    [DecidableEq κ]
    (table : Table κ σ)
    (key : σ → κ)
    (s : σ) :
    table.apply key s = table.default s ∨
      ∃ entry ∈ table.entries,
        entry.1 = key s ∧ table.apply key s = entry.2 s := by
  cases hLookup : table.entries.lookup (key s) with
  | none => exact Or.inl (Table.apply_of_miss hLookup)
  | some action =>
      rcases List.lookup_eq_some_iff.mp hLookup with
        ⟨before, after, hEntries, _⟩
      refine
        Or.inr
          ⟨(key s, action), ?_, rfl,
            Table.apply_of_lookup hLookup⟩
      rw [hEntries]
      exact List.mem_append_right _ List.mem_cons_self

/- A table whose actions keep a condition keeps it. -/
theorem Table.keeps
    [DecidableEq κ]
    {P Q : σ → Prop}
    {table : Table κ σ}
    (hDefault : Keeps P Q table.default)
    (hEntries : ∀ entry ∈ table.entries, Keeps P Q entry.2)
    (key : σ → κ) :
    Keeps P Q (table.apply key) := by
  intro s hs
  rcases table.apply_cases key s with
    hApply | ⟨entry, hMem, _, hApply⟩
  · rw [hApply]
    exact hDefault s hs
  · rw [hApply]
    exact hEntries entry hMem s hs

/-
  A table that has got the first entries of another one does
  what the other one does, or its default action.
-/
theorem Table.apply_of_prefix
    [DecidableEq κ]
    {table later : Table κ σ}
    (hEntries : table.entries <+: later.entries)
    (key : σ → κ)
    (s : σ) :
    table.apply key s = table.default s ∨
      table.apply key s = later.apply key s := by
  cases hLookup : table.entries.lookup (key s) with
  | none => exact Or.inl (Table.apply_of_miss hLookup)
  | some action =>
      rcases hEntries with ⟨rest, hRest⟩
      have hLater :
          later.entries.lookup (key s) = some action := by
        rw [← hRest, List.lookup_append, hLookup]
        rfl
      right
      rw [Table.apply_of_lookup hLookup,
        Table.apply_of_lookup hLater]

/- The first of several entries matches or is left out. -/
theorem Table.apply_cons
    [DecidableEq κ]
    (k : κ)
    (action default : σ → Flow σ)
    (entries : List (κ × (σ → Flow σ)))
    (f : σ → κ)
    (s : σ) :
    (⟨(k, action) :: entries, default⟩ : Table κ σ).apply f s =
      if f s = k then
        action s
      else
        (⟨entries, default⟩ : Table κ σ).apply f s := by
  by_cases hKey : f s = k
  · simp [Table.apply, hKey]
  · have hBeq : (f s == k) = false := by
      simpa using hKey
    simp [Table.apply, List.lookup_cons, hBeq, hKey]

theorem Table.apply_nil
    [DecidableEq κ]
    (default : σ → Flow σ)
    (f : σ → κ)
    (s : σ) :
    (⟨[], default⟩ : Table κ σ).apply f s = default s := rfl

/- A table with one entry and a default action. -/
theorem Table.apply_singleton
    [DecidableEq κ]
    {table : Table κ σ}
    {k : κ}
    {action : σ → Flow σ}
    (hEntries : table.entries = [(k, action)])
    (f : σ → κ)
    (s : σ) :
    table.apply f s =
      if f s = k then action s else table.default s := by
  have hTable : table = ⟨[(k, action)], table.default⟩ := by
    rw [← hEntries]
  rw [hTable, Table.apply_cons]
  rfl

/- Entries made from records are found by their key. -/
theorem lookup_map_eq_find?
    [DecidableEq κ]
    (key : ρ → κ)
    (value : ρ → α)
    (records : List ρ)
    (k : κ) :
    (records.map (fun r => (key r, value r))).lookup k =
      (records.find? (fun r => key r = k)).map value := by
  induction records with
  | nil => rfl
  | cons head tail ih =>
      rw [List.map_cons, List.lookup_cons, List.find?_cons, ih]
      by_cases hKey : key head = k
      · simp [hKey]
      · have hBeq : (k == key head) = false := by
          simpa using fun h => hKey h.symm
        simp [hKey, hBeq]

/- Entries made from records come before the others. -/
theorem Table.apply_of_records
    [DecidableEq κ]
    {table : Table κ σ}
    {records : List ρ}
    {key : ρ → κ}
    {action : ρ → σ → Flow σ}
    {others : List (κ × (σ → Flow σ))}
    (hEntries :
      table.entries =
        records.map (fun r => (key r, action r)) ++ others)
    (f : σ → κ)
    (s : σ) :
    table.apply f s =
      match records.find? (fun r => key r = f s) with
      | some r => action r s
      | none => (⟨others, table.default⟩ : Table κ σ).apply f s := by
  rw [Table.apply, hEntries, List.lookup_append,
    lookup_map_eq_find?]
  cases records.find? (fun r => key r = f s) with
  | some r => rfl
  | none => rfl

/- A key no record has is not found. -/
theorem lookup_map_eq_none
    [DecidableEq κ]
    (key : ρ → κ)
    (value : ρ → α)
    (records : List ρ)
    (k : κ)
    (hAbsent : k ∉ records.map key) :
    (records.map
      (fun r => (key r, value r))).lookup k = none := by
  rw [lookup_map_eq_find?]
  have hMiss :
      records.find? (fun r => key r = k) = none := by
    apply List.find?_eq_none.mpr
    intro r hMem
    have hNe : key r ≠ k :=
      fun hKey => hAbsent (hKey ▸ List.mem_map_of_mem hMem)
    simpa using hNe
  rw [hMiss]
  rfl

------------------------------------------------------------
-- Headers
------------------------------------------------------------

/- A header with its validity bit. -/
structure Header (α : Type) where
  valid : Bool
  fields : α
deriving DecidableEq, Repr

namespace Header

/- A header that the parser extracted. -/
def extracted (fields : α) : Header α :=
  ⟨true, fields⟩

/- Change the fields and keep the validity. -/
def modify
    (h : Header α)
    (f : α → α) : Header α :=
  { h with fields := f h.fields }

/- Make a header part of the packet. -/
def setValid (h : Header α) : Header α :=
  { h with valid := true }

/- Take a header out of the packet. -/
def setInvalid (h : Header α) : Header α :=
  { h with valid := false }

/- The bytes a header contributes to the packet. -/
def emit
    (codec : Codec α)
    (h : Header α) : List Byte :=
  if h.valid then codec.encode h.fields else []

@[simp] theorem emit_extracted
    (codec : Codec α)
    (fields : α) :
    (extracted fields).emit codec = codec.encode fields := rfl

@[simp] theorem emit_mk_true
    (codec : Codec α)
    (fields : α) :
    (⟨true, fields⟩ : Header α).emit codec =
      codec.encode fields := rfl

@[simp] theorem emit_mk_false
    (codec : Codec α)
    (fields : α) :
    (⟨false, fields⟩ : Header α).emit codec = [] := rfl

end Header

end MatchAction
