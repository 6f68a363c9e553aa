import Mathlib.Logic.Function.Basic
import P4dra.Library.Transition

/-
  Stores of values under keys, and where a value comes from.

  Every step of a machine has one effect on its store: it
  keeps it, puts a value under a key, or erases a key. What a
  run finds under a key is what the last step that concerned
  the key left there, or what was there at the start.

  Main declarations:
    * `ObjectStore.Effect`
    * `ObjectStore.Source`
    * `ObjectStore.source_of_exec`
-/

------------------------------------------------------------
-- Effects
------------------------------------------------------------

namespace ObjectStore

open Transition (Step exec)

variable {κ ν σ ε ω : Type} [DecidableEq κ]

/- What a step does to the store. -/
inductive Effect (κ ν : Type) where
| keep : Effect κ ν
| put : κ → ν → Effect κ ν
| erase : κ → Effect κ ν
deriving DecidableEq, Repr

namespace Effect

/- The store after a step. -/
def apply
    (store : κ → Option ν) : Effect κ ν → κ → Option ν
| keep => store
| put key value => Function.update store key (some value)
| erase key => Function.update store key none

/- What the step leaves under a key that it concerns. -/
def leaves
    (key : κ) : Effect κ ν → Option (Option ν)
| keep => none
| put key' value =>
    if key' = key then some (some value) else none
| erase key' => if key' = key then some none else none

/- The step that leaves a given content under a key. -/
def set (key : κ) : Option ν → Effect κ ν
| none => erase key
| some value => put key value

theorem apply_set
    (store : κ → Option ν)
    (key : κ)
    (content : Option ν) :
    (set key content).apply store =
      Function.update store key content := by
  cases content with
  | none => rfl
  | some value => rfl

theorem leaves_set
    (key key' : κ)
    (content : Option ν) :
    (set key' content).leaves key =
      if key' = key then some content else none := by
  cases content with
  | none => rfl
  | some value => rfl

/- A step that does not concern a key leaves it as it was. -/
theorem apply_eq_getD
    (store : κ → Option ν)
    (effect : Effect κ ν)
    (key : κ) :
    effect.apply store key =
      (effect.leaves key).getD (store key) := by
  cases effect with
  | keep => rfl
  | put key' value =>
      by_cases hSame : key' = key
      · subst hSame
        simp [apply, leaves]
      · simp [apply, leaves, hSame,
          Function.update_of_ne (Ne.symm hSame)]
  | erase key' =>
      by_cases hSame : key' = key
      · subst hSame
        simp [apply, leaves]
      · simp [apply, leaves, hSame,
          Function.update_of_ne (Ne.symm hSame)]

end Effect

------------------------------------------------------------
-- Sources
------------------------------------------------------------

variable {effect : Step σ ε ω → Effect κ ν}

/-
  The content is what the last step that concerned the key
  left, or none did and it was there at the start.
-/
def Source
    (effect : Step σ ε ω → Effect κ ν)
    (start : Option ν)
    (past : List (Step σ ε ω))
    (key : κ)
    (content : Option ν) : Prop :=
  (∃ before x after,
    past = before ++ x :: after ∧
      (effect x).leaves key = some content ∧
      ∀ z ∈ after, (effect z).leaves key = none) ∨
    (start = content ∧
      ∀ z ∈ past, (effect z).leaves key = none)

/- One more step either leaves the content or is its source. -/
theorem source_append
    {start : Option ν}
    {past : List (Step σ ε ω)}
    {key : κ}
    {content : Option ν}
    (hSource : Source effect start past key content)
    (x : Step σ ε ω) :
    Source effect start (past ++ [x]) key
      (((effect x).leaves key).getD content) := by
  cases hLeaves : (effect x).leaves key with
  | some left =>
      exact Or.inl
        ⟨past, x, [], rfl, hLeaves,
          fun z hz => absurd hz List.not_mem_nil⟩
  | none =>
      have hLast :
          ∀ zs : List (Step σ ε ω),
            (∀ z ∈ zs, (effect z).leaves key = none) →
              ∀ z ∈ zs ++ [x],
                (effect z).leaves key = none := by
        intro zs hAll z hz
        rcases List.mem_append.mp hz with hz | hz
        · exact hAll z hz
        · rw [List.mem_singleton.mp hz]
          exact hLeaves
      rcases hSource with
        ⟨before, y, after, hPast, hLeft, hAfter⟩ |
          ⟨hStart, hAll⟩
      · refine Or.inl
          ⟨before, y, after ++ [x], ?_, hLeft,
            hLast after hAfter⟩
        rw [hPast, List.append_assoc, List.cons_append]
      · exact Or.inr ⟨hStart, hLast past hAll⟩

/- What every step of a run finds in the store has a source. -/
theorem source_of_exec
    {step : σ → ε → Option (σ × ω)}
    (store : σ → κ → Option ν)
    (hEffect :
      ∀ history s e s' output,
        step s e = some (s', output) →
          store s' =
            (effect ⟨history, s, e, output⟩).apply (store s))
    {s last : σ}
    {events : List ε}
    {steps : List (Step σ ε ω)}
    (hRun : exec step s events = some (last, steps))
    (key : κ)
    {before after : List (Step σ ε ω)}
    {x : Step σ ε ω}
    (hSplit : steps = before ++ x :: after) :
    Source effect (store s key) before key
      (store x.before key) := by
  let Past : List (Step σ ε ω) → σ → Prop := fun past s' =>
    Source effect (store s key) past key (store s' key)
  let R : List (Step σ ε ω) → Step σ ε ω → Prop :=
    fun past x =>
      Source effect (store s key) past key (store x.before key)
  have hStep :
      ∀ past s' e s'' output,
        Past past s' →
          step s' e = some (s'', output) →
          True →
          Past (past ++ [⟨past.map Step.event, s', e, output⟩])
              s'' ∧
            R past ⟨past.map Step.event, s', e, output⟩ := by
    intro past s' e s'' output hPast hOne _
    refine ⟨?_, hPast⟩
    change Source effect (store s key) _ key (store s'' key)
    rw [hEffect (past.map Step.event) s' e s'' output hOne,
      Effect.apply_eq_getD]
    exact source_append hPast _
  have hInit : Past [] s :=
    Or.inr ⟨rfl, fun z hz => absurd hz List.not_mem_nil⟩
  have hAll :=
    @Transition.exec_past σ ε ω (fun _ => True) Past R step
      hStep s last events steps hInit hRun (fun _ _ => trivial)
  exact hAll.2 before x after hSplit

end ObjectStore
