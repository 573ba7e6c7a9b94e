import Mathlib.Data.List.Basic

/-!
Executable labelled transition systems. `step` returns `none` for a label that
is not enabled, so a finite run is a list of labels that can be evaluated.
`Reached` collects the states at the end of the runs whose every step satisfies
a side condition on the state before it; `Reachable` has no side condition.
-/

namespace LabelledRuns

universe u v

structure System (State : Type u) (Label : Type v) where
  initial : State
  step : State → Label → Option State

variable {State : Type u} {Label : Type v}

inductive System.Reached (system : System State Label) (allowed : State → Label → Prop) :
    State → Prop where
  | initial : Reached system allowed system.initial
  | next {before after : State} (label : Label) :
      Reached system allowed before → allowed before label →
      system.step before label = some after → Reached system allowed after

def System.Reachable (system : System State Label) : State → Prop :=
  system.Reached (fun _ _ => True)

/-- The invariant rule: what holds initially and survives every allowed step
holds of every state that such steps reach. -/
theorem reached_invariant (system : System State Label) (allowed : State → Label → Prop)
    (holds : State → Prop) (start : holds system.initial)
    (preserved : ∀ before label after, holds before → allowed before label →
      system.step before label = some after → holds after)
    {state : State} (reached : system.Reached allowed state) : holds state := by
  induction reached with
  | initial => exact start
  | next label _ permitted stepped ih => exact preserved _ label _ ih permitted stepped

theorem reached_weaken (system : System State Label) {strict loose : State → Label → Prop}
    (implies : ∀ state label, strict state label → loose state label)
    {state : State} (reached : system.Reached strict state) : system.Reached loose state := by
  induction reached with
  | initial => exact .initial
  | next label _ permitted stepped ih => exact .next label ih (implies _ label permitted) stepped

-- A later invariant may lean on an earlier one instead of carrying it along.
theorem reached_invariant_given (system : System State Label) (allowed : State → Label → Prop)
    (known holds : State → Prop) (given : ∀ state, system.Reached allowed state → known state)
    (start : holds system.initial)
    (preserved : ∀ before label after, known before → holds before → allowed before label →
      system.step before label = some after → holds after)
    {state : State} (reached : system.Reached allowed state) : holds state := by
  induction reached with
  | initial => exact start
  | next label earlier permitted stepped ih =>
      exact preserved _ label _ (given _ earlier) ih permitted stepped

section Execution

variable (system : System State Label) (allowed : State → Label → Prop)
  [∀ state label, Decidable (allowed state label)]

def System.runWhen : State → List Label → Option State
  | state, [] => some state
  | state, label :: rest =>
      if allowed state label then
        match system.step state label with
        | some next => runWhen next rest
        | none => none
      else none

theorem run_when_extends (labels : List Label) {before after : State}
    (reached : system.Reached allowed before)
    (ran : system.runWhen allowed before labels = some after) :
    system.Reached allowed after := by
  induction labels generalizing before with
  | nil =>
      have same : before = after := by simpa [System.runWhen] using ran
      exact same ▸ reached
  | cons label rest ih =>
      simp only [System.runWhen] at ran
      split at ran
      · rename_i permitted
        cases stepped : system.step before label with
        | none => simp [stepped] at ran
        | some next =>
            exact ih (.next label reached permitted stepped) (by simpa [stepped] using ran)
      · simp at ran

/-- A concrete run is a certificate of reachability that can be evaluated. -/
theorem run_when_reached (labels : List Label) {after : State}
    (ran : system.runWhen allowed system.initial labels = some after) :
    system.Reached allowed after :=
  run_when_extends system allowed labels .initial ran

theorem run_when_shows (labels : List Label) (shows : State → Bool)
    (ran : (system.runWhen allowed system.initial labels).any shows = true) :
    ∃ state, system.Reached allowed state ∧ shows state = true := by
  obtain ⟨state, finished, shown⟩ := (Option.any_eq_true _ _).mp ran
  exact ⟨state, run_when_reached system allowed labels finished, shown⟩

end Execution

end LabelledRuns
