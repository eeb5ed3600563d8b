import Mathlib.Tactic

/-!
# Runs of a deterministic system

A run is a list of events; each event changes the state.  `EveryStep step p` says that `p` holds
of every state of a run together with the event that comes next, and `EveryState step p` that
`p` holds of every state reached.

`Reaches` is about events that may be undefined; `Reaches.invariant` is the induction over them.

`everyStep_congr` and `everyState_iff_everyStep` characterise the runs in which nothing goes
wrong: a fact about one step, under an invariant, is a fact about runs.
-/

namespace Runs

variable {σ ε : Type} {step : σ → ε → σ}

/-- Something holds of every step of a run. -/
def EveryStep (step : σ → ε → σ) (p : σ → ε → Prop) : σ → List ε → Prop
  | _, [] => True
  | s, e :: es => p s e ∧ EveryStep step p (step s e) es

/-- Something holds of every state that a run reaches. -/
def EveryState (step : σ → ε → σ) (p : σ → Prop) : σ → List ε → Prop
  | s, [] => p s
  | s, e :: es => p s ∧ EveryState step p (step s e) es

variable {inv : σ → Prop} {may p q : σ → ε → Prop}

/-- Two facts about steps that agree under an invariant hold of the same runs, when either of
them keeps the invariant. -/
theorem everyStep_congr (hiff : ∀ s e, inv s → may s e → (p s e ↔ q s e))
    (hkeep : ∀ s e, inv s → may s e → p s e → inv (step s e)) {s : σ} {es : List ε}
    (hs : inv s) (hes : EveryStep step may s es) :
    EveryStep step p s es ↔ EveryStep step q s es := by
  induction es generalizing s with
  | nil => exact Iff.rfl
  | cons e es ih =>
    have hstep := hiff s e hs hes.1
    constructor
    · rintro ⟨hp, hrest⟩
      exact ⟨hstep.mp hp, (ih (hkeep s e hs hes.1 hp) hes.2).mp hrest⟩
    · rintro ⟨hq, hrest⟩
      have hp := hstep.mpr hq
      exact ⟨hp, (ih (hkeep s e hs hes.1 hp) hes.2).mpr hrest⟩

/-- A property of states that the invariant gives holds throughout a run exactly when every step
meets the condition, if the condition is what keeps the invariant and a step without it is seen
in the next state. -/
theorem everyState_iff_everyStep {good : σ → Prop} (hgood : ∀ s, inv s → good s)
    (hkeep : ∀ s e, inv s → may s e → q s e → inv (step s e))
    (hseen : ∀ s e, inv s → may s e → good (step s e) → q s e) {s : σ} {es : List ε}
    (hs : inv s) (hes : EveryStep step may s es) :
    EveryState step good s es ↔ EveryStep step q s es := by
  induction es generalizing s with
  | nil => exact iff_of_true (hgood s hs) trivial
  | cons e es ih =>
    have hfirst : EveryState step good (step s e) es → good (step s e) := by
      cases es with
      | nil => exact id
      | cons e' es => exact And.left
    constructor
    · rintro ⟨-, hrest⟩
      have hq := hseen s e hs hes.1 (hfirst hrest)
      exact ⟨hq, (ih (hkeep s e hs hes.1 hq) hes.2).mp hrest⟩
    · rintro ⟨hq, hrest⟩
      exact ⟨hgood s hs, (ih (hkeep s e hs hes.1 hq) hes.2).mpr hrest⟩

/-! ## Events that may be undefined -/

/-- The states that are reached from a first one by events that may happen and are defined. -/
inductive Reaches (may : σ → ε → Prop) (next : σ → ε → Option σ) (s₀ : σ) : σ → Prop
  | start : Reaches may next s₀ s₀
  | step {s s' : σ} {e : ε} : Reaches may next s₀ s → may s e → next s e = some s' →
      Reaches may next s₀ s'

/-- What holds at first and is kept by every event that may happen holds of every state
reached. -/
theorem Reaches.invariant {next : σ → ε → Option σ} {s₀ s : σ} (hinit : inv s₀)
    (hkeep : ∀ s e s', inv s → may s e → next s e = some s' → inv s')
    (h : Reaches may next s₀ s) : inv s := by
  induction h with
  | start => exact hinit
  | step _ hmay hnext ih => exact hkeep _ _ _ ih hmay hnext

/-- A whole run, unless one of its events may not happen or is undefined. -/
def run (may : σ → ε → Prop) [∀ s e, Decidable (may s e)] (next : σ → ε → Option σ) :
    σ → List ε → Option σ
  | s, [] => some s
  | s, e :: es => if may s e then (next s e).bind fun s' => run may next s' es else none

theorem Reaches.of_run [∀ s e, Decidable (may s e)] {next : σ → ε → Option σ} {s₀ s s' : σ}
    {es : List ε} (h : Reaches may next s₀ s) (hrun : run may next s es = some s') :
    Reaches may next s₀ s' := by
  induction es generalizing s with
  | nil => exact Option.some.inj hrun ▸ h
  | cons e es ih =>
    rw [run] at hrun
    split at hrun
    case isTrue hmay =>
      obtain ⟨s₁, hnext, hrest⟩ := Option.bind_eq_some_iff.mp hrun
      exact ih (h.step hmay hnext) hrest
    case isFalse => cases hrun

end Runs
