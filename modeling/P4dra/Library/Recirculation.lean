import Mathlib.Tactic.Common

/-
  Processes that go around until they produce a result.

  A step either sends a state around again or is done with
  a result. `run` bounds the number of steps by fuel; the
  bound does not change the result once it is large enough.

  Main declarations:
    * `Recirculation.run_mono`
    * `Recirculation.run_of_advance`, `Recirculation.run_eq_ite`
    * `Recirculation.invariant_of_advance`
    * `Recirculation.exists_run_of_measure`
    * `Recirculation.exists_advance_of_measure`
    * `Recirculation.seen`, `Recirculation.seen_add`
-/

------------------------------------------------------------
-- Runs
------------------------------------------------------------

namespace Recirculation

variable {σ ω : Type}

/- One step goes around again or is done. -/
inductive Outcome (σ ω : Type) where
| again : σ → Outcome σ ω
| done : ω → Outcome σ ω
deriving DecidableEq, Repr

/- Step until done, at most as often as there is fuel. -/
def run
    (step : σ → Outcome σ ω) : Nat → σ → Option ω
| 0, _ => none
| fuel + 1, s =>
    match step s with
    | .again s' => run step fuel s'
    | .done result => some result

/- The state after going around `n` times. -/
def advance
    (step : σ → Outcome σ ω) : Nat → σ → Option σ
| 0, s => some s
| n + 1, s =>
    match step s with
    | .again s' => advance step n s'
    | .done _ => none

theorem run_again
    {step : σ → Outcome σ ω}
    {s s' : σ}
    (fuel : Nat)
    (h : step s = .again s') :
    run step (fuel + 1) s = run step fuel s' := by
  simp [run, h]

theorem run_done
    {step : σ → Outcome σ ω}
    {s : σ}
    {result : ω}
    (fuel : Nat)
    (h : step s = .done result) :
    run step (fuel + 1) s = some result := by
  simp [run, h]

/- More fuel gives the same result. -/
theorem run_mono
    {step : σ → Outcome σ ω}
    {fuel more : Nat}
    {s : σ}
    {result : ω}
    (hRun : run step fuel s = some result)
    (hMore : fuel ≤ more) :
    run step more s = some result := by
  induction fuel generalizing s more with
  | zero => simp [run] at hRun
  | succ fuel ih =>
      cases more with
      | zero => omega
      | succ more =>
          cases hStep : step s with
          | again s' =>
              rw [run_again fuel hStep] at hRun
              rw [run_again more hStep]
              exact ih hRun (by omega)
          | done w =>
              rw [run_done fuel hStep] at hRun
              rw [run_done more hStep]
              exact hRun

/- Two runs of one process have the same result. -/
theorem run_unique
    {step : σ → Outcome σ ω}
    {fuel fuel' : Nat}
    {s : σ}
    {result result' : ω}
    (hRun : run step fuel s = some result)
    (hRun' : run step fuel' s = some result') :
    result = result' := by
  have hLeft :=
    run_mono hRun (Nat.le_max_left fuel fuel')
  have hRight :=
    run_mono hRun' (Nat.le_max_right fuel fuel')
  exact Option.some.inj (hLeft.symm.trans hRight)

/- Going around composes. -/
theorem advance_add
    {step : σ → Outcome σ ω}
    (m n : Nat)
    {s s' : σ}
    (h : advance step m s = some s') :
    advance step (m + n) s = advance step n s' := by
  induction m generalizing s with
  | zero =>
      have hSame : s = s' := by
        simpa [advance] using h
      simp [hSame]
  | succ m ih =>
      cases hStep : step s with
      | again t =>
          have hRest : advance step m t = some s' := by
            simpa [advance, hStep] using h
          rw [Nat.add_right_comm, advance, hStep]
          exact ih hRest
      | done w => simp [advance, hStep] at h

/- A run continues from the state it has gone around to. -/
theorem run_of_advance
    {step : σ → Outcome σ ω}
    (n fuel : Nat)
    {s s' : σ}
    (h : advance step n s = some s') :
    run step (n + fuel) s = run step fuel s' := by
  induction n generalizing s with
  | zero =>
      have hSame : s = s' := by
        simpa [advance] using h
      simp [hSame]
  | succ n ih =>
      cases hStep : step s with
      | again t =>
          have hRest : advance step n t = some s' := by
            simpa [advance, hStep] using h
          rw [Nat.add_right_comm, run_again _ hStep]
          exact ih hRest
      | done w => simp [advance, hStep] at h

------------------------------------------------------------
-- Rules For Every Run
------------------------------------------------------------

/- What every turn keeps holds after any number of turns. -/
theorem invariant_of_advance
    {step : σ → Outcome σ ω}
    (I : σ → Prop)
    (hAgain : ∀ s s', I s → step s = .again s' → I s')
    {n : Nat}
    {s s' : σ}
    (hStart : I s)
    (hAdvance : advance step n s = some s') :
    I s' := by
  induction n generalizing s with
  | zero =>
      have hSame : s = s' := by
        simpa [advance] using hAdvance
      exact hSame ▸ hStart
  | succ n ih =>
      cases hStep : step s with
      | again t =>
          have hRest : advance step n t = some s' := by
            simpa [advance, hStep] using hAdvance
          exact ih (hAgain s t hStart hStep) hRest
      | done w => simp [advance, hStep] at hAdvance

/- The result needs the steps that the run takes, all of them. -/
theorem run_eq_ite
    {step : σ → Outcome σ ω}
    {n : Nat}
    {s last : σ}
    {result : ω}
    (hAdvance : advance step n s = some last)
    (hLast : step last = .done result)
    (fuel : Nat) :
    run step fuel s =
      if n + 1 ≤ fuel then some result else none := by
  induction n generalizing s fuel with
  | zero =>
      have hSame : s = last := by
        simpa [advance] using hAdvance
      subst hSame
      cases fuel with
      | zero => rfl
      | succ fuel => simp [run_done fuel hLast]
  | succ n ih =>
      cases fuel with
      | zero => rfl
      | succ fuel =>
          cases hStep : step s with
          | again t =>
              have hRest : advance step n t = some last := by
                simpa [advance, hStep] using hAdvance
              rw [run_again fuel hStep, ih hRest fuel]
              simp only [Nat.add_le_add_iff_right]
          | done w => simp [advance, hStep] at hAdvance

/- A result is the one of the last state of the run. -/
theorem exists_done_of_run
    {step : σ → Outcome σ ω}
    {fuel : Nat}
    {s : σ}
    {result : ω}
    (hRun : run step fuel s = some result) :
    ∃ last, step last = .done result := by
  induction fuel generalizing s with
  | zero => simp [run] at hRun
  | succ fuel ih =>
      cases hStep : step s with
      | again t =>
          rw [run_again fuel hStep] at hRun
          exact ih hRun
      | done w =>
          rw [run_done fuel hStep] at hRun
          exact ⟨s, by rw [hStep, Option.some.inj hRun]⟩

------------------------------------------------------------
-- Decreasing Measures
------------------------------------------------------------

/- A measure that every turn decreases bounds the run. -/
theorem exists_run_of_measure
    {step : σ → Outcome σ ω}
    (I : σ → Prop)
    (measure : σ → Nat)
    (hAgain :
      ∀ s s', I s → step s = .again s' →
        I s' ∧ measure s' < measure s)
    (bound : Nat)
    (s : σ)
    (hStart : I s)
    (hBound : measure s < bound) :
    ∃ result, run step bound s = some result := by
  induction bound generalizing s with
  | zero => omega
  | succ bound ih =>
      cases hStep : step s with
      | again s' =>
          rcases hAgain s s' hStart hStep with
            ⟨hNext, hLess⟩
          rw [run_again bound hStep]
          exact ih s' hNext (by omega)
      | done result => exact ⟨result, run_done bound hStep⟩

/-
  A process that goes around with a smaller measure wherever
  it is not yet at a goal comes to the goal.
-/
theorem exists_advance_of_measure
    {step : σ → Outcome σ ω}
    (I Goal : σ → Prop)
    (measure : σ → Nat)
    (hAgain :
      ∀ s, I s → ¬ Goal s →
        ∃ s', step s = .again s' ∧
          I s' ∧ measure s' < measure s)
    (bound : Nat)
    (s : σ)
    (hStart : I s)
    (hBound : measure s < bound) :
    ∃ n < bound, ∃ goal,
      advance step n s = some goal ∧ Goal goal := by
  induction bound generalizing s with
  | zero => omega
  | succ bound ih =>
      by_cases hGoal : Goal s
      · exact ⟨0, by omega, s, rfl, hGoal⟩
      · rcases hAgain s hStart hGoal with
          ⟨s', hStep, hNext, hLess⟩
        rcases ih s' hNext (by omega) with
          ⟨n, hn, goal, hAdvance, hReached⟩
        refine ⟨n + 1, by omega, goal, ?_, hReached⟩
        rw [advance, hStep]
        exact hAdvance

------------------------------------------------------------
-- What Is Seen On The Way
------------------------------------------------------------

section Seen

variable {β : Type}

/- What the first `n` steps show, in order. -/
def seen
    (step : σ → Outcome σ ω)
    (shows : σ → List β)
    (n : Nat)
    (s : σ) : List β :=
  (List.range n).flatMap
    (fun k => (advance step k s).elim [] shows)

theorem seen_one
    (step : σ → Outcome σ ω)
    (shows : σ → List β)
    (s : σ) :
    seen step shows 1 s = shows s := by
  rw [seen, List.range_one, List.flatMap_singleton]
  rfl

/- What is seen later is what is seen from there on. -/
theorem seen_add
    {step : σ → Outcome σ ω}
    (shows : σ → List β)
    {m : Nat}
    (n : Nat)
    {s s' : σ}
    (h : advance step m s = some s') :
    seen step shows (m + n) s =
      seen step shows m s ++ seen step shows n s' := by
  rw [seen, List.range_add, List.flatMap_append,
    List.flatMap_map, seen, seen]
  simp only [advance_add m _ h]

end Seen

end Recirculation
