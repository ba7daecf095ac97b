import Lldpad.Lib.Buffer

/-!
# `Lldpad.Lib.Checked`: a loop that takes one item after the other

`checkAll` is a loop over a list whose body takes an item, refuses it, which ends the loop, or
stops the program. `Checks` says of such a body, for a state that stands for the items before,
which items are inside what the program may read, and which of them it takes.

* `checkAll_returns`: the loop returns when every item that it comes to is inside.
* `checkAll_takes`: it takes the list when each item is good behind those before it.
* `checkAll_inv`: then the state stands for the whole list.
-/

namespace Lldpad.Lib

variable {σ α : Type}

/-- A loop whose body takes an item (`some`) or refuses it (`none`) -/
def checkAll (step : σ → α → Except Fault (Option σ)) : σ → List α → Except Fault (Option σ)
  | s, [] => .ok (some s)
  | s, a :: post => do
    match ← step s a with
    | none => pure none
    | some s => checkAll step s post

/-- What the body does with an item, in a state that stands for the items `pre` before it -/
structure Checks (step : σ → α → Except Fault (Option σ)) (Inv : List α → σ → Prop)
    (inside good : List α → α → Prop) : Prop where
  stops : ∀ {pre s a}, Inv pre s → ¬inside pre a → ¬Returns (step s a)
  takes : ∀ {pre s a}, Inv pre s → inside pre a → good pre a →
    ∃ t, step s a = .ok (some t) ∧ Inv (pre ++ [a]) t
  refuses : ∀ {pre s a}, Inv pre s → inside pre a → ¬good pre a → step s a = .ok none

/-- Each item of `post` is `good` behind those before it. -/
def Each (good : List α → α → Prop) (pre post : List α) : Prop :=
  ∀ p a q, post = p ++ a :: q → good (pre ++ p) a

/-- Each item of `post` that a loop comes to is `inside`: those before it are good. -/
def Reached (good inside : List α → α → Prop) (pre post : List α) : Prop :=
  ∀ p a q, post = p ++ a :: q → Each good pre p → inside (pre ++ p) a

variable {good inside : List α → α → Prop} {pre post : List α} {a : α}

theorem each_nil : Each good pre [] := fun p _ _ h => absurd h.symm (by simp)

theorem each_cons : Each good pre (a :: post) ↔ good pre a ∧ Each good (pre ++ [a]) post := by
  constructor
  · intro h
    refine ⟨?_, fun p b q hpost => ?_⟩
    · have hfirst := h [] a post rfl
      rwa [List.append_nil] at hfirst
    · rw [List.append_assoc]
      exact h (a :: p) b q (by rw [hpost, List.cons_append])
  · rintro ⟨ha, hrest⟩ p b q hpost
    cases p with
    | nil =>
      cases hpost
      rwa [List.append_nil]
    | cons c p =>
      obtain ⟨rfl, hbehind⟩ := List.cons.inj hpost
      have hb := hrest p b q hbehind
      rwa [List.append_assoc] at hb

theorem reached_nil : Reached good inside pre [] := fun p _ _ h => absurd h.symm (by simp)

theorem reached_cons : Reached good inside pre (a :: post) ↔
    inside pre a ∧ (good pre a → Reached good inside (pre ++ [a]) post) := by
  constructor
  · intro h
    refine ⟨?_, fun ha p b q hpost heach => ?_⟩
    · have hfirst := h [] a post rfl each_nil
      rwa [List.append_nil] at hfirst
    · rw [List.append_assoc]
      exact h (a :: p) b q (by rw [hpost, List.cons_append]) (each_cons.mpr ⟨ha, heach⟩)
  · rintro ⟨ha, hrest⟩ p b q hpost heach
    cases p with
    | nil =>
      cases hpost
      rwa [List.append_nil]
    | cons c p =>
      obtain ⟨rfl, hbehind⟩ := List.cons.inj hpost
      obtain ⟨hc, heach⟩ := each_cons.mp heach
      have hb := hrest hc p b q hbehind heach
      rwa [List.append_assoc] at hb

variable {step : σ → α → Except Fault (Option σ)} {Inv : List α → σ → Prop} {s t : σ}

theorem checkAll_returns (h : Checks step Inv inside good) (hs : Inv pre s) :
    Returns (checkAll step s post) ↔ Reached good inside pre post := by
  induction post generalizing pre s with
  | nil => exact iff_of_true ⟨_, rfl⟩ reached_nil
  | cons a post ih =>
    rw [reached_cons, checkAll]
    by_cases hinside : inside pre a
    · by_cases hgood : good pre a
      · obtain ⟨t, hstep, ht⟩ := h.takes hs hinside hgood
        rw [hstep, bind_ok, ih ht]
        simp [hinside, hgood]
      · rw [h.refuses hs hinside hgood, bind_ok]
        exact iff_of_true ⟨_, rfl⟩ ⟨hinside, fun hg => absurd hg hgood⟩
    · have hstops := h.stops hs hinside
      refine iff_of_false (fun hreturns => hstops ?_) fun hi => hinside hi.1
      obtain ⟨r, hr⟩ := hreturns
      obtain ⟨x, hx, -⟩ := bind_eq_ok.mp hr
      exact ⟨x, hx⟩

theorem checkAll_takes (h : Checks step Inv inside good) (hs : Inv pre s) :
    (∃ t, checkAll step s post = .ok (some t)) ↔
      Each good pre post ∧ Reached good inside pre post := by
  induction post generalizing pre s with
  | nil => exact iff_of_true ⟨s, rfl⟩ ⟨each_nil, reached_nil⟩
  | cons a post ih =>
    rw [each_cons, reached_cons, checkAll]
    by_cases hinside : inside pre a
    · by_cases hgood : good pre a
      · obtain ⟨t, hstep, ht⟩ := h.takes hs hinside hgood
        rw [hstep, bind_ok, ih ht]
        simp [hinside, hgood]
      · rw [h.refuses hs hinside hgood, bind_ok]
        refine iff_of_false ?_ fun hi => hgood hi.1.1
        rintro ⟨t, ht⟩
        cases ht
    · refine iff_of_false ?_ fun hi => hinside hi.2.1
      rintro ⟨t, ht⟩
      obtain ⟨x, hx, -⟩ := bind_eq_ok.mp ht
      exact h.stops hs hinside ⟨x, hx⟩

theorem checkAll_inv (h : Checks step Inv inside good) (hs : Inv pre s)
    (hrun : checkAll step s post = .ok (some t)) : Inv (pre ++ post) t := by
  induction post generalizing pre s with
  | nil =>
    cases hrun
    rwa [List.append_nil]
  | cons a post ih =>
    obtain ⟨x, hx, hrest⟩ := bind_eq_ok.mp hrun
    cases x with
    | none => cases hrest
    | some u =>
      have hu : Inv (pre ++ [a]) u := by
        by_cases hinside : inside pre a
        · by_cases hgood : good pre a
          · obtain ⟨v, hstep, hv⟩ := h.takes hs hinside hgood
            cases hx.symm.trans hstep
            exact hv
          · cases hx.symm.trans (h.refuses hs hinside hgood)
        · exact absurd ⟨_, hx⟩ (h.stops hs hinside)
      have hall := ih hu hrest
      rwa [List.append_assoc] at hall

/-- A list with an item that is never taken is not taken. -/
theorem checkAll_refused (ha : a ∈ post) (hrefused : ∀ s t, step s a ≠ .ok (some t)) (s t : σ) :
    checkAll step s post ≠ .ok (some t) := by
  induction post generalizing s with
  | nil => cases ha
  | cons b post ih =>
    intro hrun
    obtain ⟨x, hx, hrest⟩ := bind_eq_ok.mp hrun
    cases x with
    | none => cases hrest
    | some u =>
      rcases List.mem_cons.mp ha with rfl | ha
      · exact hrefused s u hx
      · exact ih ha u hrest

end Lldpad.Lib
