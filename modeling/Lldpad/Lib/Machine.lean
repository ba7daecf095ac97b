import Lldpad.Lib.Fault

/-!
# `Lldpad.Lib.Machine`: state machines run by a `do { act } while (move)` loop

A protocol daemon keeps one function that picks the next state (`move`) and
one that executes the state just entered (`act`), and drives them with

```
move(s);
do { act(s); } while (move(s));
```

`Machine` is this pair, `Machine.run` the driver. Both functions may stop the
program.

Where the driver has no move in front, it is the loop alone.

* `Machine.loop_rule`, `Machine.run_rule`: the invariant rule. One invariant holds before an
  action, another one after it, and a third one after the last move.
* `Machine.run_induction`: the same where every move leaves the first invariant.
* `Machine.run_final`: a run stops at a move that reports its state as final.
* `Machine.loop_total`, `Machine.run_total`: with a rank below the fuel the run returns.
* `Machine.loop_ends`, `Machine.run_ends`: where an action may stop the program, the run
  returns or an action stopped it.
-/

namespace Lldpad.Lib

/-- A state machine: `move` picks the next state and tells whether to go on,
`act` executes the state that was picked. -/
structure Machine (σ : Type) where
  move : σ → Except Fault (σ × Bool)
  act : σ → Except Fault σ

namespace Machine

variable {σ : Type} (m : Machine σ)

/-- One pass of the driver's loop. -/
def round (s : σ) : Except Fault (Pass σ σ) := do
  let t ← m.act s
  let (u, again) ← m.move t
  pure (if again then .again u else .leave u)

/-- The driver: one move whose answer is not looked at, then
`do { act } while (move)`, at most `fuel` rounds. -/
def run (fuel : Nat) (s : σ) : Except Fault σ := do
  let (t, _) ← m.move s
  iterate m.round fuel t

variable {m}

/-- A round is an action and a move. -/
theorem round_eq_ok {s : σ} {p : Pass σ σ} :
    m.round s = .ok p ↔ ∃ t u again, m.act s = .ok t ∧ m.move t = .ok (u, again) ∧
      p = if again then .again u else .leave u := by
  simp only [round, bind_eq_ok, pure_eq_ok, Except.ok.injEq]
  constructor
  · rintro ⟨t, ht, ⟨u, again⟩, hu, rfl⟩
    exact ⟨t, u, again, ht, hu, rfl⟩
  · rintro ⟨t, u, again, ht, hu, rfl⟩
    exact ⟨t, ht, (u, again), hu, rfl⟩

variable {fuel : Nat} {s s' : σ} {I : σ → Prop}

/-- A run is a move followed by the loop. -/
theorem run_eq_ok :
    m.run fuel s = .ok s' ↔
      ∃ t again, m.move s = .ok (t, again) ∧ iterate m.round fuel t = .ok s' := by
  simp only [run, bind_eq_ok]
  constructor
  · rintro ⟨⟨t, again⟩, ht, h⟩
    exact ⟨t, again, ht, h⟩
  · rintro ⟨t, again, ht, h⟩
    exact ⟨(t, again), ht, h⟩

/-- The invariant rule of the loop: `I` before an action, `J` after it, `Q` after the last
move. -/
theorem loop_rule {I J Q : σ → Prop} (hact : ∀ s t, I s → m.act s = .ok t → J t)
    (hagain : ∀ s t, J s → m.move s = .ok (t, true) → I t)
    (hlast : ∀ s t, J s → m.move s = .ok (t, false) → Q t)
    (hI : I s) (h : iterate m.round fuel s = .ok s') : Q s' := by
  refine iterate_induction ?_ ?_ fuel s s' hI h
  · intro a a' hI ha
    obtain ⟨t, u, again, ht, hu, hp⟩ := round_eq_ok.mp ha
    cases again with
    | true => cases hp; exact hagain t _ (hact a t hI ht) hu
    | false => cases hp
  · intro a b hI hb
    obtain ⟨t, u, again, ht, hu, hp⟩ := round_eq_ok.mp hb
    cases again with
    | true => cases hp
    | false => cases hp; exact hlast t _ (hact a t hI ht) hu

/-- The invariant rule of a run: `P` before it starts, `I` before an action, `J` after it, `Q`
after the last move. -/
theorem run_rule {P I J Q : σ → Prop} (hfirst : ∀ s t b, P s → m.move s = .ok (t, b) → I t)
    (hact : ∀ s t, I s → m.act s = .ok t → J t)
    (hagain : ∀ s t, J s → m.move s = .ok (t, true) → I t)
    (hlast : ∀ s t, J s → m.move s = .ok (t, false) → Q t)
    (hP : P s) (h : m.run fuel s = .ok s') : Q s' := by
  obtain ⟨t, again, ht, h⟩ := run_eq_ok.mp h
  exact loop_rule hact hagain hlast (hfirst s t again hP ht) h

/-- A run stops at a move that reports its state as final, from a state with `J`. -/
theorem run_final {P I J : σ → Prop} (hfirst : ∀ s t b, P s → m.move s = .ok (t, b) → I t)
    (hact : ∀ s t, I s → m.act s = .ok t → J t) (hmove : ∀ s t b, J s → m.move s = .ok (t, b) → I t)
    (hP : P s) (h : m.run fuel s = .ok s') :
    ∃ t, J t ∧ m.move t = .ok (s', false) :=
  run_rule (Q := fun v => ∃ t, J t ∧ m.move t = .ok (v, false)) hfirst hact
    (fun s t => hmove s t true) (fun s _ hJ hm => ⟨s, hJ, hm⟩) hP h

/-- The invariant rule of a run, for the state in which it stops. -/
theorem run_induction {P I J : σ → Prop} (hfirst : ∀ s t b, P s → m.move s = .ok (t, b) → I t)
    (hact : ∀ s t, I s → m.act s = .ok t → J t) (hmove : ∀ s t b, J s → m.move s = .ok (t, b) → I t)
    (hP : P s) (h : m.run fuel s = .ok s') : I s' := by
  obtain ⟨t, hJ, ht⟩ := run_final hfirst hact hmove hP h
  exact hmove t s' false hJ ht

/-- What both functions preserve, a run preserves. -/
theorem run_preserves (hact : ∀ s t, I s → m.act s = .ok t → I t)
    (hmove : ∀ s t b, I s → m.move s = .ok (t, b) → I t)
    (hI : I s) (h : m.run fuel s = .ok s') : I s' :=
  run_induction hmove hact hmove hI h

/-- A run that stops at once: the first move, one action, a final move. -/
theorem run_eq_of_final {s t u v : σ} {b : Bool} (hfirst : m.move s = .ok (t, b))
    (hact : m.act t = .ok u) (hmove : m.move u = .ok (v, false)) :
    m.run (fuel + 1) s = .ok v := by
  have hround : m.round t = .ok (.leave v) := round_eq_ok.mpr ⟨u, v, false, hact, hmove, rfl⟩
  exact run_eq_ok.mpr ⟨t, b, hfirst, iterate_succ_of_leave hround⟩

/-- A round whose move is not final. -/
theorem iterate_round_again {s t u : σ} (hact : m.act s = .ok t)
    (hmove : m.move t = .ok (u, true)) :
    iterate m.round (fuel + 1) s = iterate m.round fuel u :=
  iterate_succ_of_again (round_eq_ok.mpr ⟨t, u, true, hact, hmove, rfl⟩)

/-- A round whose move is final. -/
theorem iterate_round_final {s t u : σ} (hact : m.act s = .ok t)
    (hmove : m.move t = .ok (u, false)) : iterate m.round (fuel + 1) s = .ok u :=
  iterate_succ_of_leave (round_eq_ok.mpr ⟨t, u, false, hact, hmove, rfl⟩)

/-- The loop returns when its rank is below the fuel. -/
theorem loop_total (rank : σ → Nat)
    (hround : ∀ s, I s → ∃ t u b, m.act s = .ok t ∧ m.move t = .ok (u, b) ∧
      (b = true → I u ∧ rank u < rank s))
    {s : σ} (hI : I s) (hrank : rank s < fuel) :
    ∃ s', iterate m.round fuel s = .ok s' := by
  have hpass : ∀ a, I a → (∃ b, m.round a = .ok (.leave b)) ∨
      ∃ a', m.round a = .ok (.again a') ∧ I a' ∧ rank a' < rank a := by
    intro a hIa
    obtain ⟨t, u, b, ht, hu, hlt⟩ := hround a hIa
    cases b with
    | false => exact .inl ⟨u, round_eq_ok.mpr ⟨t, u, false, ht, hu, rfl⟩⟩
    | true =>
      obtain ⟨hIu, hlt⟩ := hlt rfl
      exact .inr ⟨u, round_eq_ok.mpr ⟨t, u, true, ht, hu, rfl⟩, hIu, hlt⟩
  exact iterate_total rank hpass fuel s hI hrank

/-- Where an action may stop the program: with a rank below the fuel the loop returns, or it
stops for the reason for which an action did. -/
theorem loop_ends (rank : σ → Nat) (hround : ∀ s, I s → (∃ e, m.act s = .error e) ∨
      ∃ t u b, m.act s = .ok t ∧ m.move t = .ok (u, b) ∧ (b = true → I u ∧ rank u < rank s)) :
    ∀ (fuel : Nat) (s : σ), I s → rank s < fuel →
      (∃ s', iterate m.round fuel s = .ok s') ∨
        ∃ t e, I t ∧ m.act t = .error e ∧ iterate m.round fuel s = .error e := by
  intro fuel
  induction fuel with
  | zero => intro s _ hrank; omega
  | succ fuel ih =>
    intro s hI hrank
    rcases hround s hI with ⟨e, he⟩ | ⟨t, u, b, ht, hu, hlt⟩
    · exact .inr ⟨s, e, hI, he, by rw [iterate, round, he]; rfl⟩
    · cases b with
      | false => exact .inl ⟨u, iterate_round_final ht hu⟩
      | true =>
        obtain ⟨hIu, hlt⟩ := hlt rfl
        rw [iterate_round_again ht hu]
        exact ih u hIu (by omega)

/-- The same for a run whose first move returns. -/
theorem run_ends (rank : σ → Nat) (hround : ∀ s, I s → (∃ e, m.act s = .error e) ∨
      ∃ t u b, m.act s = .ok t ∧ m.move t = .ok (u, b) ∧ (b = true → I u ∧ rank u < rank s))
    {s : σ} (hfirst : ∃ t b, m.move s = .ok (t, b) ∧ I t ∧ rank t < fuel) :
    (∃ s', m.run fuel s = .ok s') ∨
      ∃ t e, I t ∧ m.act t = .error e ∧ m.run fuel s = .error e := by
  obtain ⟨t, b, ht, hI, hrank⟩ := hfirst
  have hrun : m.run fuel s = iterate m.round fuel t := by rw [run, ht, bind_ok]
  rw [hrun]
  exact loop_ends rank hround fuel t hI hrank

/-- A run returns when its first move does and the loop's rank is below the fuel. -/
theorem run_total (rank : σ → Nat)
    (hround : ∀ s, I s → ∃ t u b, m.act s = .ok t ∧ m.move t = .ok (u, b) ∧
      (b = true → I u ∧ rank u < rank s))
    {s : σ} (hfirst : ∃ t b, m.move s = .ok (t, b) ∧ I t ∧ rank t < fuel) :
    ∃ s', m.run fuel s = .ok s' := by
  obtain ⟨t, b, ht, hI, hrank⟩ := hfirst
  obtain ⟨s', hs'⟩ := loop_total rank hround hI hrank
  exact ⟨s', run_eq_ok.mpr ⟨t, b, ht, hs'⟩⟩

end Machine

end Lldpad.Lib
