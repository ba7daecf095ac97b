import Lldpad.Lib.Fault

/-!
# `Lldpad.Lib.Transition`: runs of an event-driven system

A `System` handles one event at a time. `System.RunWhere cond` is a run all of
whose steps met `cond` before they were taken; with the trivial condition it is
any run. `System.Reachable` collects the states of the runs that start in an
initial state.

* `System.RunWhere.invariant`: what one step that meets the condition
  preserves, a run preserves.
* `System.run_iff`: what every step preserves exactly under a condition, a run
  preserves exactly when all its steps meet the condition.
* `System.run_simulates`: a simulation of steps by moves is one of runs by paths.
* `System.runWhere_of_run`: a computed run with its conditions is a `RunWhere`;
  concrete histories enter the theory this way.
-/

namespace Lldpad.Lib

/-- A system that handles one event at a time, or stops. -/
structure System (σ ε : Type) where
  init : σ → Prop
  step : σ → ε → Except Fault σ

namespace System

variable {σ ε : Type} (S : System σ ε)

/-- The state after a list of events. -/
def run : σ → List ε → Except Fault σ
  | s, [] => .ok s
  | s, e :: es => S.step s e >>= fun t => run t es

/-- A run whose steps all meet `cond`, a condition on the event and on the
state before the step. -/
inductive RunWhere (cond : σ → ε → Prop) : σ → List ε → σ → Prop
  | nil (s : σ) : RunWhere cond s [] s
  | cons {s t u : σ} {e : ε} {es : List ε} :
      cond s e → S.step s e = .ok t → RunWhere cond t es u → RunWhere cond s (e :: es) u

/-- A state that some run from an initial state ends in. -/
def Reachable (s : σ) : Prop :=
  ∃ s₀ es, S.init s₀ ∧ S.run s₀ es = .ok s

/-- A state that some run from an initial state ends in, all of whose steps
meet `cond`. -/
def ReachableWhere (cond : σ → ε → Prop) (s : σ) : Prop :=
  ∃ s₀ es, S.init s₀ ∧ S.RunWhere cond s₀ es s

/-- Every step of the list of events meets `cond` where it is taken. -/
def StepsMeet (cond : σ → ε → Prop) : σ → List ε → Prop
  | _, [] => True
  | s, e :: es => cond s e ∧ ∀ t, S.step s e = .ok t → StepsMeet cond t es

variable {S}

theorem run_append (s : σ) (es fs : List ε) :
    S.run s (es ++ fs) = S.run s es >>= fun t => S.run t fs := by
  induction es generalizing s with
  | nil => rfl
  | cons e es ih =>
    rw [List.cons_append, run, run]
    cases h : S.step s e with
    | error f => rfl
    | ok t => exact ih t

variable {I : σ → Prop} {s t : σ}

theorem run_snoc {u : σ} {es : List ε} {e : ε} (h : S.run s es = .ok t)
    (he : S.step t e = .ok u) : S.run s (es ++ [e]) = .ok u := by
  rw [run_append, h, bind_ok, run, he]
  rfl

/-- A run that was computed, and what was checked of its last state -/
theorem exists_run (S : System σ ε) (s : σ) (es : List ε) (p : σ → Bool)
    (h : (S.run s es).toOption.any p = true) : ∃ t, S.run s es = .ok t ∧ p t = true := by
  cases hr : S.run s es with
  | error f =>
    rw [hr] at h
    cases h
  | ok t =>
    rw [hr] at h
    exact ⟨t, rfl, h⟩

variable {cond : σ → ε → Prop}

/-- A computed run whose steps meet `cond` is a run under `cond`. -/
theorem runWhere_of_run {es : List ε}
    (h : S.run s es = .ok t) (hc : S.StepsMeet cond s es) : S.RunWhere cond s es t := by
  induction es generalizing s with
  | nil => cases h; exact .nil _
  | cons e es ih =>
    obtain ⟨u, hu, h⟩ := bind_eq_ok.mp h
    exact .cons hc.1 hu (ih h (hc.2 u hu))

/-- A condition that always holds. -/
theorem stepsMeet_of_forall (hc : ∀ s e, cond s e) (es : List ε) :
    ∀ s, S.StepsMeet cond s es := by
  induction es with
  | nil => intro s; trivial
  | cons e es ih => intro s; exact ⟨hc s e, fun t _ => ih t⟩

/-- Two conditions that agree under an invariant, which the steps that meet them keep. -/
theorem stepsMeet_iff {cond cond' : σ → ε → Prop} (hiff : ∀ s e, I s → (cond s e ↔ cond' s e))
    (hstep : ∀ s e t, I s → cond s e → S.step s e = .ok t → I t) (es : List ε) :
    ∀ s, I s → (S.StepsMeet cond s es ↔ S.StepsMeet cond' s es) := by
  induction es with
  | nil => exact fun s _ => Iff.rfl
  | cons e es ih =>
    intro s hI
    constructor
    · rintro ⟨hc, hrest⟩
      refine ⟨(hiff s e hI).mp hc, fun t ht => ?_⟩
      exact (ih t (hstep s e t hI hc ht)).mp (hrest t ht)
    · rintro ⟨hc, hrest⟩
      have hc' := (hiff s e hI).mpr hc
      exact ⟨hc', fun t ht => (ih t (hstep s e t hI hc' ht)).mpr (hrest t ht)⟩

/-- A property that every step keeps exactly when it meets `cond` holds after a run exactly when it
held before and all steps met `cond`. -/
theorem run_iff {P : σ → Prop} (hinv : ∀ s e t, I s → S.step s e = .ok t → I t)
    (hstep : ∀ s e t, I s → S.step s e = .ok t → (P t ↔ P s ∧ cond s e)) {es : List ε}
    (hI : I s) (h : S.run s es = .ok t) : P t ↔ P s ∧ S.StepsMeet cond s es := by
  induction es generalizing s with
  | nil =>
    cases h
    exact (and_iff_left trivial).symm
  | cons e es ih =>
    obtain ⟨u, hu, h⟩ := bind_eq_ok.mp h
    rw [ih (hinv s e u hI hu) h, hstep s e u hI hu, and_assoc]
    refine and_congr_right' (and_congr_right' ⟨fun hrest v hv => ?_, fun hrest => hrest u hu⟩)
    cases hu.symm.trans hv
    exact hrest

/-- A computed run whose events meet `cond` in every state is a run under `cond`. -/
theorem runWhere_of_forall {es : List ε}
    (hc : ∀ e ∈ es, ∀ s, cond s e) (h : S.run s es = .ok t) : S.RunWhere cond s es t := by
  induction es generalizing s with
  | nil => cases h; exact .nil _
  | cons e es ih =>
    obtain ⟨u, hu, h⟩ := bind_eq_ok.mp h
    exact .cons (hc e (List.mem_cons_self ..) s) hu
      (ih (fun e' he' => hc e' (List.mem_cons_of_mem _ he')) h)

/-- Moves of another level along a list of events -/
inductive Path {τ : Type} (move : τ → ε → τ → Prop) : τ → List ε → τ → Prop
  | nil (t : τ) : Path move t [] t
  | cons {t u v : τ} {e : ε} {es : List ε} :
      move t e u → Path move u es v → Path move t (e :: es) v

theorem Path.append {τ : Type} {move : τ → ε → τ → Prop} {t u v : τ} {es fs : List ε}
    (h : Path move t es u) (h' : Path move u fs v) : Path move t (es ++ fs) v := by
  induction h with
  | nil => exact h'
  | cons hmove _ ih => exact .cons hmove (ih h')

/-- Steps that return and that a move simulates make runs that return and that a path
simulates. -/
theorem run_simulates {τ : Type} {R : σ → τ → Prop} {move : τ → ε → τ → Prop}
    (hstep : ∀ s t e, R s t → ∃ s' t', S.step s e = .ok s' ∧ move t e t' ∧ R s' t')
    (es : List ε) : ∀ s t, R s t →
      ∃ s' t', S.run s es = .ok s' ∧ Path move t es t' ∧ R s' t' := by
  induction es with
  | nil => exact fun s t hR => ⟨s, t, rfl, .nil t, hR⟩
  | cons e es ih =>
    intro s t hR
    obtain ⟨u, v, hu, hmove, hR⟩ := hstep s t e hR
    obtain ⟨s', t', hrun, hpath, hR⟩ := ih u v hR
    refine ⟨s', t', ?_, .cons hmove hpath, hR⟩
    rw [run, hu]
    exact hrun

/-- The state after a list of events whose steps all pass a check -/
def checkedRun (S : System σ ε) (c : σ → ε → Bool) : σ → List ε → Except Fault σ
  | s, [] => .ok s
  | s, e :: es => do
    assert (c s e)
    let t ← S.step s e
    checkedRun S c t es

/-- A computed run whose checks imply `cond`, and what was checked of its last state -/
theorem exists_runWhere (S : System σ ε) (c : σ → ε → Bool)
    (hc : ∀ s e, c s e = true → cond s e) (s : σ) (es : List ε) (p : σ → Bool)
    (h : (S.checkedRun c s es).toOption.any p = true) :
    ∃ t, S.RunWhere cond s es t ∧ p t = true := by
  induction es generalizing s with
  | nil => exact ⟨s, .nil s, h⟩
  | cons e es ih =>
    rw [checkedRun] at h
    cases hce : c s e with
    | false =>
      rw [hce] at h
      cases h
    | true =>
      rw [hce, assert_true, bind_ok] at h
      cases hs : S.step s e with
      | error f =>
        rw [hs] at h
        cases h
      | ok u =>
        rw [hs, bind_ok] at h
        obtain ⟨t, hrun, ht⟩ := ih u h
        exact ⟨t, .cons (hc s e hce) hs hrun, ht⟩

namespace RunWhere

variable {cond : σ → ε → Prop} {es : List ε}

variable {s t : σ}

/-- One more step. -/
theorem snoc {u : σ} {e : ε}
    (h : S.RunWhere cond s es t) (hc : cond t e) (he : S.step t e = .ok u) :
    S.RunWhere cond s (es ++ [e]) u := by
  induction h with
  | nil s => exact .cons hc he (.nil u)
  | cons hc' he' _ ih => exact .cons hc' he' (ih hc he)

/-- The invariant rule of runs. -/
theorem invariant {I : σ → Prop} (hstep : ∀ s e t, I s → cond s e → S.step s e = .ok t → I t)
    (h : S.RunWhere cond s es t) (hI : I s) : I t := by
  induction h with
  | nil s => exact hI
  | cons hc he _ ih => exact ih (hstep _ _ _ hI hc he)

/-- A run under a condition is a run. -/
theorem run_eq (h : S.RunWhere cond s es t) :
    S.run s es = .ok t := by
  induction h with
  | nil s => rfl
  | cons _ he _ ih => rw [run, he, bind_ok]; exact ih

end RunWhere

/-- The invariant rule of reachable states. -/
theorem ReachableWhere.invariant (hinit : ∀ s, S.init s → I s)
    (hstep : ∀ s e t, I s → cond s e → S.step s e = .ok t → I t)
    (h : S.ReachableWhere cond s) : I s := by
  obtain ⟨s₀, es, h₀, hrun⟩ := h
  exact hrun.invariant hstep (hinit s₀ h₀)

/-- Every run meets the trivial condition. -/
theorem Reachable.always (h : S.Reachable s) : S.ReachableWhere (fun _ _ => True) s := by
  obtain ⟨s₀, es, h₀, hrun⟩ := h
  exact ⟨s₀, es, h₀, runWhere_of_run hrun (stepsMeet_of_forall (fun _ _ => trivial) es s₀)⟩

/-- The invariant rule of reachable states, without a condition. -/
theorem Reachable.invariant (hinit : ∀ s, S.init s → I s)
    (hstep : ∀ s e t, I s → S.step s e = .ok t → I t) (h : S.Reachable s) : I s :=
  h.always.invariant hinit fun s e t hI _ he => hstep s e t hI he

/-- An initial state is reachable. -/
theorem reachable_of_init (h : S.init s) : S.Reachable s := ⟨s, [], h, rfl⟩

/-- A run from a reachable state. -/
theorem Reachable.of_run {es : List ε} (h : S.Reachable s) (he : S.run s es = .ok t) :
    S.Reachable t := by
  obtain ⟨s₀, fs, h₀, hrun⟩ := h
  refine ⟨s₀, fs ++ es, h₀, ?_⟩
  rw [run_append, hrun]
  exact he

/-- One more step from a reachable state. -/
theorem Reachable.step {e : ε} (h : S.Reachable s) (he : S.step s e = .ok t) :
    S.Reachable t := by
  obtain ⟨s₀, es, h₀, hrun⟩ := h
  exact ⟨s₀, es ++ [e], h₀, run_snoc hrun he⟩

end System

end Lldpad.Lib
