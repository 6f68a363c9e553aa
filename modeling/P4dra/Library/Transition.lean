import Mathlib.Tactic.Common

/-
  Runs of a machine on a sequence of events.

  A step takes a state and an event to a new state and an
  output, or refuses the event. A run records for every step
  the events before it, the state before it, the event and
  the output.

  Main declarations:
    * `Transition.exec`
    * `Transition.exec_invariant`
    * `Transition.exec_past`
    * `Transition.exists_foldlM`
-/

------------------------------------------------------------
-- Runs
------------------------------------------------------------

namespace Transition

variable {σ ε ω : Type}

/- A step of a run. -/
structure Step (σ ε ω : Type) where
  history : List ε
  before : σ
  event : ε
  output : ω

/- Run on events after some others. -/
def execFrom
    (step : σ → ε → Option (σ × ω)) :
    List ε → σ → List ε → Option (σ × List (Step σ ε ω))
| _, s, [] => some (s, [])
| history, s, e :: events =>
    match step s e with
    | none => none
    | some (s', output) =>
        match execFrom step (history ++ [e]) s' events with
        | none => none
        | some (last, steps) =>
            some (last, ⟨history, s, e, output⟩ :: steps)

/- A run from its first event on. -/
def exec
    (step : σ → ε → Option (σ × ω))
    (s : σ)
    (events : List ε) : Option (σ × List (Step σ ε ω)) :=
  execFrom step [] s events

/- A run takes a step and goes on. -/
theorem execFrom_cons_eq_some
    {step : σ → ε → Option (σ × ω)}
    {history events : List ε}
    {s last : σ}
    {e : ε}
    {steps : List (Step σ ε ω)}
    (hRun :
      execFrom step history s (e :: events) =
        some (last, steps)) :
    ∃ s' output later,
      step s e = some (s', output) ∧
        execFrom step (history ++ [e]) s' events =
          some (last, later) ∧
        steps = ⟨history, s, e, output⟩ :: later := by
  rw [execFrom] at hRun
  cases hStep : step s e with
  | none =>
      rw [hStep] at hRun
      cases hRun
  | some result =>
      rcases result with ⟨s', output⟩
      simp only [hStep] at hRun
      cases hLater :
          execFrom step (history ++ [e]) s' events with
      | none =>
          rw [hLater] at hRun
          cases hRun
      | some later =>
          rcases later with ⟨last', later⟩
          rw [hLater] at hRun
          cases hRun
          exact ⟨s', output, later, rfl, hLater, rfl⟩

/- A step before a run is a run. -/
theorem exists_execFrom_cons
    {step : σ → ε → Option (σ × ω)}
    {history events : List ε}
    {s s' last : σ}
    {e : ε}
    {output : ω}
    (hStep : step s e = some (s', output))
    (hLater :
      ∃ later,
        execFrom step (history ++ [e]) s' events =
          some (last, later)) :
    ∃ steps,
      execFrom step history s (e :: events) =
        some (last, steps) := by
  rcases hLater with ⟨later, hLater⟩
  refine ⟨⟨history, s, e, output⟩ :: later, ?_⟩
  rw [execFrom, hStep]
  simp only [hLater]

/- A run may take one more step at its end. -/
theorem execFrom_snoc
    {step : σ → ε → Option (σ × ω)}
    {e : ε}
    {events : List ε} :
    ∀ {history : List ε} {s mid last : σ}
        {steps : List (Step σ ε ω)} {output : ω},
      execFrom step history s events = some (mid, steps) →
        step mid e = some (last, output) →
        execFrom step history s (events ++ [e]) =
          some
            (last,
              steps ++
                [⟨history ++ events, mid, e, output⟩]) := by
  induction events with
  | nil =>
      intro history s mid last steps output hRun hStep
      cases hRun
      rw [List.append_nil, List.nil_append, execFrom, hStep]
      rfl
  | cons e' events ih =>
      intro history s mid last steps output hRun hStep
      rcases execFrom_cons_eq_some hRun with
        ⟨s', output', later, hOne, hLater, hSteps⟩
      have hMore := ih hLater hStep
      rw [List.append_assoc, List.singleton_append] at hMore
      rw [List.cons_append, execFrom, hOne]
      simp only [hMore, hSteps]
      rfl

theorem exec_snoc
    {step : σ → ε → Option (σ × ω)}
    {s mid last : σ}
    {events : List ε}
    {steps : List (Step σ ε ω)}
    {e : ε}
    {output : ω}
    (hRun : exec step s events = some (mid, steps))
    (hStep : step mid e = some (last, output)) :
    exec step s (events ++ [e]) =
      some (last, steps ++ [⟨events, mid, e, output⟩]) :=
  execFrom_snoc hRun hStep

/- A finished run has taken every event in order. -/
theorem map_event_execFrom
    {step : σ → ε → Option (σ × ω)}
    {events : List ε} :
    ∀ {history : List ε} {s last : σ}
        {steps : List (Step σ ε ω)},
      execFrom step history s events = some (last, steps) →
        steps.map Step.event = events := by
  induction events with
  | nil =>
      intro history s last steps hRun
      cases hRun
      rfl
  | cons e events ih =>
      intro history s last steps hRun
      rcases execFrom_cons_eq_some hRun with
        ⟨s', output, later, _, hLater, hSteps⟩
      rw [hSteps, List.map_cons, ih hLater]

theorem event_mem_of_exec
    {step : σ → ε → Option (σ × ω)}
    {s last : σ}
    {events : List ε}
    {steps : List (Step σ ε ω)}
    (hRun : exec step s events = some (last, steps)) :
    ∀ x ∈ steps, x.event ∈ events := by
  intro x hx
  rw [← map_event_execFrom hRun]
  exact List.mem_map_of_mem hx

------------------------------------------------------------
-- Invariants
------------------------------------------------------------

variable {Inv : List ε → σ → Prop}
variable {C Q : Step σ ε ω → Prop}

/-
  When every step that meets a condition keeps an invariant of
  history and state and has a property, every run whose steps
  all meet the condition keeps the invariant and has the
  property at every step.
-/
theorem execFrom_invariant
    {step : σ → ε → Option (σ × ω)}
    (hStep :
      ∀ history s e s' output,
        Inv history s →
          step s e = some (s', output) →
          C ⟨history, s, e, output⟩ →
          Inv (history ++ [e]) s' ∧ Q ⟨history, s, e, output⟩)
    {events : List ε} :
    ∀ {history : List ε} {s last : σ}
        {steps : List (Step σ ε ω)},
      Inv history s →
        execFrom step history s events = some (last, steps) →
        (∀ x ∈ steps, C x) →
        Inv (history ++ events) last ∧ ∀ x ∈ steps, Q x := by
  induction events with
  | nil =>
      intro history s last steps hInv hRun _
      cases hRun
      rw [List.append_nil]
      exact ⟨hInv, fun x hx => absurd hx (List.not_mem_nil)⟩
  | cons e events ih =>
      intro history s last steps hInv hRun hC
      rcases execFrom_cons_eq_some hRun with
        ⟨s', output, later, hOne, hLater, hSteps⟩
      subst hSteps
      have hFirst :=
        hStep history s e s' output hInv hOne
          (hC _ List.mem_cons_self)
      have hRest :=
        ih hFirst.1 hLater
          (fun x hx => hC x (List.mem_cons_of_mem _ hx))
      rw [List.append_assoc] at hRest
      refine ⟨hRest.1, ?_⟩
      intro x hx
      rcases List.mem_cons.mp hx with hHead | hTail
      · rw [hHead]
        exact hFirst.2
      · exact hRest.2 x hTail

theorem exec_invariant
    {step : σ → ε → Option (σ × ω)}
    (hStep :
      ∀ history s e s' output,
        Inv history s →
          step s e = some (s', output) →
          C ⟨history, s, e, output⟩ →
          Inv (history ++ [e]) s' ∧ Q ⟨history, s, e, output⟩)
    {s last : σ}
    {events : List ε}
    {steps : List (Step σ ε ω)}
    (hInit : Inv [] s)
    (hRun : exec step s events = some (last, steps))
    (hC : ∀ x ∈ steps, C x) :
    Inv events last ∧ ∀ x ∈ steps, Q x :=
  execFrom_invariant hStep hInit hRun hC

/- Every step of a run is a step of the machine. -/
theorem step_of_exec
    {step : σ → ε → Option (σ × ω)}
    {s last : σ}
    {events : List ε}
    {steps : List (Step σ ε ω)}
    (hRun : exec step s events = some (last, steps)) :
    ∀ x ∈ steps,
      ∃ s', step x.before x.event = some (s', x.output) :=
  (@exec_invariant σ ε ω (fun _ _ => True) (fun _ => True)
    (fun x => ∃ s', step x.before x.event = some (s', x.output))
    step
    (fun _ _ _ s' _ _ hStep _ => ⟨trivial, s', hStep⟩)
    s last events steps trivial hRun (fun _ _ => trivial)).2

------------------------------------------------------------
-- Invariants Of The Steps So Far
------------------------------------------------------------

variable {Past : List (Step σ ε ω) → σ → Prop}
variable {R : List (Step σ ε ω) → Step σ ε ω → Prop}

/-
  An invariant may speak of the steps that were taken, with
  their outputs. Every step of a run then has a property that
  refers to the steps before it.
-/
theorem execFrom_past
    {step : σ → ε → Option (σ × ω)}
    (hStep :
      ∀ past s e s' output,
        Past past s →
          step s e = some (s', output) →
          C ⟨past.map Step.event, s, e, output⟩ →
          Past (past ++ [⟨past.map Step.event, s, e, output⟩])
              s' ∧
            R past ⟨past.map Step.event, s, e, output⟩)
    {events : List ε} :
    ∀ {past : List (Step σ ε ω)} {s last : σ}
        {steps : List (Step σ ε ω)},
      Past past s →
        execFrom step (past.map Step.event) s events =
          some (last, steps) →
        (∀ x ∈ steps, C x) →
        Past (past ++ steps) last ∧
          ∀ before x after,
            steps = before ++ x :: after →
              R (past ++ before) x := by
  induction events with
  | nil =>
      intro past s last steps hPast hRun _
      cases hRun
      rw [List.append_nil]
      exact ⟨hPast, fun before x after hNil => by simp at hNil⟩
  | cons e events ih =>
      intro past s last steps hPast hRun hC
      rcases execFrom_cons_eq_some hRun with
        ⟨s', output, later, hOne, hLater, hSteps⟩
      subst hSteps
      have hFirst :=
        hStep past s e s' output hPast hOne
          (hC _ List.mem_cons_self)
      let x : Step σ ε ω :=
        ⟨past.map Step.event, s, e, output⟩
      have hEvents :
          (past ++ [x]).map Step.event =
            past.map Step.event ++ [e] := by
        rw [List.map_append]
        rfl
      rw [← hEvents] at hLater
      have hRest :=
        ih hFirst.1 hLater
          (fun y hy => hC y (List.mem_cons_of_mem _ hy))
      rw [List.append_assoc] at hRest
      refine ⟨hRest.1, ?_⟩
      intro before y after hSplit
      cases before with
      | nil =>
          rw [List.nil_append, List.cons.injEq] at hSplit
          rw [← hSplit.1, List.append_nil]
          exact hFirst.2
      | cons b before =>
          rw [List.cons_append, List.cons.injEq] at hSplit
          have hLaterStep := hRest.2 before y after hSplit.2
          rw [List.append_assoc] at hLaterStep
          rw [← hSplit.1]
          exact hLaterStep

theorem exec_past
    {step : σ → ε → Option (σ × ω)}
    (hStep :
      ∀ past s e s' output,
        Past past s →
          step s e = some (s', output) →
          C ⟨past.map Step.event, s, e, output⟩ →
          Past (past ++ [⟨past.map Step.event, s, e, output⟩])
              s' ∧
            R past ⟨past.map Step.event, s, e, output⟩)
    {s last : σ}
    {events : List ε}
    {steps : List (Step σ ε ω)}
    (hInit : Past [] s)
    (hRun : exec step s events = some (last, steps))
    (hC : ∀ x ∈ steps, C x) :
    Past steps last ∧
      ∀ before x after,
        steps = before ++ x :: after → R before x :=
  execFrom_past hStep hInit hRun hC

------------------------------------------------------------
-- Loops
------------------------------------------------------------

/-
  A loop that may fail. When every turn succeeds and keeps an
  invariant of the turns so far, the loop succeeds.
-/
theorem exists_foldlM_append
    {α : Type}
    {f : σ → α → Option σ}
    {Turns : List α → σ → Prop}
    {rest : List α} :
    ∀ {done : List α} {s : σ},
      (∀ before a after s,
        done ++ rest = before ++ a :: after →
          Turns before s →
          ∃ s', f s a = some s' ∧ Turns (before ++ [a]) s') →
        Turns done s →
        ∃ last,
          rest.foldlM f s = some last ∧
            Turns (done ++ rest) last := by
  induction rest with
  | nil =>
      intro done s _ hDone
      rw [List.append_nil]
      exact ⟨s, rfl, hDone⟩
  | cons a rest ih =>
      intro done s hTurn hDone
      rcases hTurn done a rest s rfl hDone with
        ⟨s', hOne, hNext⟩
      have hAppend :
          (done ++ [a]) ++ rest = done ++ a :: rest := by
        rw [List.append_assoc, List.singleton_append]
      rcases ih
          (fun before b after t hSplit =>
            hTurn before b after t (hAppend ▸ hSplit))
          hNext with
        ⟨last, hRest, hLast⟩
      rw [hAppend] at hLast
      refine ⟨last, ?_, hLast⟩
      rw [List.foldlM_cons, hOne]
      exact hRest

theorem exists_foldlM
    {α : Type}
    {f : σ → α → Option σ}
    {Turns : List α → σ → Prop}
    {turns : List α}
    {s : σ}
    (hTurn :
      ∀ before a after s,
        turns = before ++ a :: after →
          Turns before s →
          ∃ s', f s a = some s' ∧ Turns (before ++ [a]) s')
    (hInit : Turns [] s) :
    ∃ last, turns.foldlM f s = some last ∧ Turns turns last :=
  @exists_foldlM_append σ α f Turns turns [] s hTurn hInit

end Transition
