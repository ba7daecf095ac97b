import Lldpad.Eloop
import Mathlib.Data.List.Perm.Basic

/-!
# `Lldpad.Proofs.Eloop`: what the event loop owes its timeouts

* `sleep_until_due`: `select` does not sleep past the first timeout, nor wake up before it.
* `timeouts_kept`: the list is in order, a timeout is called or cancelled at most once, and none is
  called early.
* `due_called`: a timeout that is due is called once there were more passes than timeouts in front
  of it. What the handlers register meanwhile goes behind it.
-/

namespace Lldpad.Eloop

open Lldpad.Lib

/-! ### Time as a number -/

def OsTime.micros (t : OsTime) : Nat := t.sec * 1000000 + t.usec

theorem osTimeBefore_iff (a b : OsTime) : osTimeBefore a b = true ↔ a.micros < b.micros := by
  have ha := a.usec_lt
  have hb := b.usec_lt
  simp only [osTimeBefore, OsTime.micros, Bool.or_eq_true, Bool.and_eq_true, decide_eq_true_eq]
  omega

theorem micros_later (now : OsTime) (secs usecs : Nat) :
    (now.later secs usecs).micros = now.micros + secs * 1000000 + usecs := by
  simp only [OsTime.micros, OsTime.later]
  omega

theorem micros_sub {a b : OsTime} (h : b.micros ≤ a.micros) :
    (osTimeSub a b).micros = a.micros - b.micros := by
  have ha := a.usec_lt
  have hb := b.usec_lt
  unfold OsTime.micros at h ⊢
  unfold osTimeSub
  split <;> dsimp only <;> omega

/-! ### The order of the list -/

variable {η γ : Type} {t x : EloopTimeout η γ} {l pre post : List (EloopTimeout η γ)}

/-- The earlier timeout, and of two at the same time the one that was registered first -/
def Precedes (s t : EloopTimeout η γ) : Prop :=
  s.time.micros < t.time.micros ∨ s.time.micros = t.time.micros ∧ s.number < t.number

theorem insertTimeout_perm (t : EloopTimeout η γ) (l : List (EloopTimeout η γ)) :
    (insertTimeout t l).Perm (t :: l) := by
  induction l with
  | nil => exact .refl _
  | cons a l ih =>
    unfold insertTimeout
    split
    · exact .refl _
    · exact (ih.cons a).trans (.swap t a l)

theorem insertTimeout_ordered (hl : l.Pairwise Precedes) (hnew : ∀ s ∈ l, s.number < t.number) :
    (insertTimeout t l).Pairwise Precedes := by
  induction l with
  | nil => exact List.pairwise_singleton _ _
  | cons a l ih =>
    obtain ⟨ha, hl'⟩ := List.pairwise_cons.mp hl
    unfold insertTimeout
    split
    · next hbefore =>
      have hlt := (osTimeBefore_iff _ _).mp hbefore
      refine List.pairwise_cons.mpr ⟨fun b hb => .inl ?_, hl⟩
      rcases List.mem_cons.mp hb with rfl | hb
      · exact hlt
      · rcases ha b hb with h | h <;> omega
    · next hbefore =>
      rw [osTimeBefore_iff] at hbefore
      refine List.pairwise_cons.mpr
        ⟨fun b hb => ?_, ih hl' fun s hs => hnew s (List.mem_cons_of_mem a hs)⟩
      rcases List.mem_cons.mp ((insertTimeout_perm t l).mem_iff.mp hb) with rfl | hb
      · have hnumber := hnew a (List.mem_cons_self ..)
        unfold Precedes
        omega
      · exact ha b hb

/-- A new timeout goes behind those that are not later. -/
theorem insertTimeout_behind (h : ∀ s ∈ pre ++ [x], s.time.micros ≤ t.time.micros) :
    insertTimeout t (pre ++ x :: post) = pre ++ x :: insertTimeout t post := by
  have hnot : ∀ s ∈ pre ++ [x], osTimeBefore t.time s.time = false := by
    intro s hs
    rw [Bool.eq_false_iff, Ne, osTimeBefore_iff]
    exact Nat.not_lt.mpr (h s hs)
  clear h
  induction pre with
  | nil => rw [List.nil_append, insertTimeout, hnot x (List.mem_singleton_self x)]; rfl
  | cons a pre ih =>
    rw [List.cons_append, insertTimeout, hnot a (List.mem_cons_self ..),
      ih fun s hs => hnot s (List.mem_cons_of_mem a hs)]
    rfl

/-! ### Sleeping -/

/-- `select` sleeps until the first timeout is due, and no longer. -/
theorem sleep_until_due (now : OsTime) (t : EloopTimeout η γ) (l : List (EloopTimeout η γ)) :
    ∃ tv, selectTimeout now (t :: l) = some tv ∧
      (now.later tv.sec tv.usec).micros = max now.micros t.time.micros := by
  rw [selectTimeout]
  by_cases hbefore : osTimeBefore now t.time = true
  · have hlt := (osTimeBefore_iff _ _).mp hbefore
    refine ⟨_, if_pos hbefore, ?_⟩
    have hsub := micros_sub (Nat.le_of_lt hlt)
    rw [OsTime.micros] at hsub
    rw [micros_later]
    omega
  · refine ⟨_, if_neg hbefore, ?_⟩
    rw [osTimeBefore_iff] at hbefore
    rw [micros_later]
    show _ + 0 * 1000000 + 0 = _
    omega

/-! ### Every timeout once -/

/-- What holds between the calls of the event loop -/
structure Kept (s : EloopData η γ) : Prop where
  /-- The next timeout is the first one. -/
  ordered : s.timeout.Pairwise Precedes
  /-- A registered timeout waits, or was called once, or was cancelled once. -/
  once : ((s.timeout ++ (s.called ++ s.cancelled)).map (·.number)).Perm (List.range s.registered)
  /-- None was called early. -/
  due : ∀ t ∈ s.called, t.time.micros ≤ s.now.micros

theorem Kept.number_lt {s : EloopData η γ} (h : Kept s) (ht : t ∈ s.timeout) :
    t.number < s.registered := by
  refine List.mem_range.mp (h.once.mem_iff.mp ?_)
  exact List.mem_map_of_mem (List.mem_append_left _ ht)

variable [DecidableEq η] [DecidableEq γ] {allCtx : γ} {s s' : EloopData η γ}
  {e : EloopEvent η γ} {es : List (EloopEvent η γ)}

theorem Kept.step (h : Kept s) (he : (eloopSystem allCtx).step s e = .ok s') : Kept s' := by
  cases e with
  | wait secs usecs =>
    cases he
    refine ⟨h.ordered, h.once, fun t ht => ?_⟩
    have hdue := h.due t ht
    show _ ≤ (s.now.later secs usecs).micros
    rw [micros_later]
    omega
  | register secs usecs handler eloopData userData =>
    cases he
    refine ⟨insertTimeout_ordered h.ordered fun t ht => h.number_lt ht, ?_, h.due⟩
    refine (((insertTimeout_perm _ s.timeout).append_right _).map _).trans ?_
    refine (h.once.cons s.registered).trans ?_
    show (s.registered :: List.range s.registered).Perm (List.range (s.registered + 1))
    rw [List.range_succ]
    exact (List.perm_append_singleton _ _).symm
  | cancel handler eloopData userData =>
    cases he
    refine ⟨h.ordered.filter _, ?_, h.due⟩
    refine List.Perm.trans (List.Perm.map _ ?_) h.once
    have hsplit := List.filter_append_perm (cancels allCtx handler eloopData userData) s.timeout
    show (_ ++ (s.called ++ (s.cancelled ++ _))).Perm _
    rw [← List.append_assoc s.called]
    refine (List.perm_append_comm.append_left _).trans ?_
    rw [← List.append_assoc]
    exact (List.perm_append_comm.trans hsplit).append_right _
  | pass =>
    cases he
    unfold eloopPass
    cases hl : s.timeout with
    | nil => exact h
    | cons a l =>
      dsimp only
      split
      · exact h
      · next hdue =>
        rw [osTimeBefore_iff] at hdue
        obtain ⟨hordered, honce, hcalled⟩ := h
        rw [hl] at hordered honce
        refine ⟨(List.pairwise_cons.mp hordered).2, ?_, fun t ht => ?_⟩
        · refine List.Perm.trans (List.Perm.map _ ?_) honce
          show (l ++ (s.called ++ [a] ++ s.cancelled)).Perm _
          rw [List.append_assoc, ← List.append_assoc]
          exact List.perm_middle.trans (by rw [List.append_assoc]; rfl)
        · rcases List.mem_append.mp ht with ht | ht
          · exact hcalled t ht
          · cases List.mem_singleton.mp ht
            exact Nat.not_lt.mp hdue

/-- In every state that any order of registrations, cancellations and passes leads to. -/
theorem timeouts_kept (h : (eloopSystem allCtx).Reachable s) : Kept s := by
  refine h.invariant ?_ fun s e t hs he => hs.step he
  rintro _ ⟨now, rfl⟩
  exact ⟨.nil, .refl _, nofun⟩

/-- Before the first event -/
def started : EloopData Unit Bool := { now := .zero }

/-- Two timeouts at one time, which goes by -/
def twoDue : List (EloopEvent Unit Bool) :=
  [.register 1 0 () true true, .register 0 1000000 () true false, .wait 1 500]

theorem twoDue_run : ∃ s a x s', (eloopSystem false).run started twoDue = .ok s ∧
    s.timeout = [a, x] ∧ x.time.micros ≤ s.now.micros ∧
      (eloopSystem false).run s [.pass, .register 0 0 () false false, .pass] = .ok s' :=
  ⟨_, _, _, _, rfl, rfl, by decide, rfl⟩

/-- One of the two is cancelled, a pass calls the other, and a third one is left. -/
def twoServed : List (EloopEvent Unit Bool) :=
  twoDue ++ [.register 7 0 () false false, .cancel () true true, .pass]

theorem twoDue_kept : ∃ s, (eloopSystem false).run started twoServed = .ok s ∧
    s.called.length = 1 ∧ s.cancelled.length = 1 ∧ s.timeout.length = 1 ∧ Kept s := by
  have hrun : ∃ s, (eloopSystem false).run started twoServed = .ok s ∧
      s.called.length = 1 ∧ s.cancelled.length = 1 ∧ s.timeout.length = 1 :=
    ⟨_, rfl, rfl, rfl, rfl⟩
  obtain ⟨s, hrun, hcalled, hcancelled, hleft⟩ := hrun
  have hreach : (eloopSystem false).Reachable s := ⟨started, twoServed, ⟨_, rfl⟩, hrun⟩
  exact ⟨s, hrun, hcalled, hcancelled, hleft, timeouts_kept hreach⟩

/-! ### A timeout that is due -/

/-- The passes among the events -/
def EloopEvent.passes : EloopEvent η γ → Nat
  | .pass => 1
  | .wait .. | .register .. | .cancel .. => 0

/-- The timeout was called or cancelled, or it is due and has fewer than `n` in front of it. -/
def Served (x : EloopTimeout η γ) (n : Nat) (s : EloopData η γ) : Prop :=
  (x ∈ s.called ∨ x ∈ s.cancelled) ∨ (x.time.micros ≤ s.now.micros ∧
    ∃ pre post, s.timeout = pre ++ x :: post ∧ pre.length < n)

theorem Served.step {n : Nat} (hk : Kept s) (h : Served x (e.passes + n) s)
    (he : (eloopSystem allCtx).step s e = .ok s') : Served x n s' := by
  rcases h with hover | ⟨hdue, pre, post, hl, hn⟩
  · left
    cases e <;> cases he
    · exact hover
    · exact hover
    · exact hover.imp_right (List.mem_append_left _)
    · unfold eloopPass
      split
      · exact hover
      · split
        · exact hover
        · exact hover.imp_left (List.mem_append_left _)
  have hfront : ∀ a ∈ pre ++ [x], a.time.micros ≤ x.time.micros := by
    intro a ha
    rcases List.mem_append.mp ha with ha | ha
    · have hordered := hk.ordered
      rw [hl] at hordered
      rcases (List.pairwise_append.mp hordered).2.2 a ha x (List.mem_cons_self ..) with h | h
      · exact Nat.le_of_lt h
      · exact Nat.le_of_eq h.1
    · rw [List.mem_singleton.mp ha]
  have hlater : ∀ secs usecs, x.time.micros ≤ (s.now.later secs usecs).micros := by
    intro secs usecs
    rw [micros_later]
    omega
  cases e with
  | wait secs usecs =>
    cases he
    rw [EloopEvent.passes, Nat.zero_add] at hn
    exact .inr ⟨hlater secs usecs, pre, post, hl, hn⟩
  | register secs usecs handler eloopData userData =>
    cases he
    rw [EloopEvent.passes, Nat.zero_add] at hn
    refine .inr ⟨hdue, pre, _, (congrArg (insertTimeout _) hl).trans (insertTimeout_behind ?_), hn⟩
    exact fun a ha => (hfront a ha).trans (hlater secs usecs)
  | cancel handler eloopData userData =>
    cases he
    rw [EloopEvent.passes, Nat.zero_add] at hn
    by_cases hc : cancels allCtx handler eloopData userData x = true
    · refine .inl (.inr (List.mem_append_right _ (List.mem_filter.mpr ⟨?_, hc⟩)))
      rw [hl]
      exact List.mem_append_right _ (List.mem_cons_self ..)
    · let kept := List.filter fun t => !cancels allCtx handler eloopData userData t
      have hlist : kept (pre ++ x :: post) = kept pre ++ x :: kept post := by
        simp only [kept, List.filter_append, List.filter_cons_of_pos, hc, Bool.not_false]
      exact .inr ⟨hdue, kept pre, kept post, (congrArg kept hl).trans hlist,
        Nat.lt_of_le_of_lt (List.length_filter_le _ pre) hn⟩
  | pass =>
    cases he
    unfold eloopPass
    rw [hl]
    cases pre with
    | nil =>
      have hnow : osTimeBefore s.now x.time = false := by
        rw [Bool.eq_false_iff, Ne, osTimeBefore_iff]
        exact Nat.not_lt.mpr hdue
      simp [hnow, Served]
    | cons a pre =>
      have ha := hfront a (List.mem_cons_self ..)
      have hnow : osTimeBefore s.now a.time = false := by
        rw [Bool.eq_false_iff, Ne, osTimeBefore_iff]
        omega
      simp only [List.cons_append, hnow]
      refine .inr ⟨hdue, pre, post, rfl, ?_⟩
      simp only [List.length_cons, EloopEvent.passes] at hn
      omega

/-- The induction is on the events. -/
theorem due_called (h : (eloopSystem allCtx).Reachable s) (hdue : x.time.micros ≤ s.now.micros)
    (hl : s.timeout = pre ++ x :: post) (hpasses : pre.length < (es.map EloopEvent.passes).sum)
    (hrun : (eloopSystem allCtx).run s es = .ok s') : x ∈ s'.called ∨ x ∈ s'.cancelled := by
  have hserved : ∀ (es : List (EloopEvent η γ)) (s : EloopData η γ), Kept s →
      Served x (es.map EloopEvent.passes).sum s → (eloopSystem allCtx).run s es = .ok s' →
        Served x 0 s' := by
    intro es
    induction es with
    | nil =>
      intro s _ hs hrun
      cases hrun
      exact hs
    | cons e es ih =>
      intro s hk hs hrun
      obtain ⟨u, hu, hrun⟩ := bind_eq_ok.mp hrun
      exact ih u (hk.step hu) (hs.step hk hu) hrun
  have hend := hserved es s (timeouts_kept h) (.inr ⟨hdue, pre, post, hl, hpasses⟩) hrun
  exact hend.resolve_right fun ⟨_, _, _, _, hn⟩ => Nat.not_lt_zero _ hn

theorem twoDue_called : ∃ s a x s', (eloopSystem false).run started twoDue = .ok s ∧
    s.timeout = [a, x] ∧
      (eloopSystem false).run s [.pass, .register 0 0 () false false, .pass] = .ok s' ∧
        (x ∈ s'.called ∨ x ∈ s'.cancelled) := by
  obtain ⟨s, a, x, s', hrun, hl, hdue, hpasses⟩ := twoDue_run
  have hreach : (eloopSystem false).Reachable s := ⟨started, twoDue, ⟨_, rfl⟩, hrun⟩
  have hsplit : s.timeout = [a] ++ x :: [] := hl
  exact ⟨s, a, x, s', hrun, hl, hpasses,
    due_called hreach hdue hsplit (by exact Nat.one_lt_two) hpasses⟩

end Lldpad.Eloop
