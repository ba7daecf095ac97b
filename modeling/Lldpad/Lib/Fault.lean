import Mathlib.Algebra.Ring.Int.Defs
import Mathlib.Algebra.Ring.Nat

/-!
# `Lldpad.Lib.Fault`: programs that may stop

`Except Fault` is the type of a computation that returns or stops the program.
`Fault` lists the ways to stop.

* `bind_eq_ok`: a sequence returns when its parts do.
* `StopsOnly`: a computation that stops for one reason at most, and its rule for sequences.
* `iterate`: a loop whose body says whether to go around again, with fuel.
* `iterate_induction`, `iterate_total`: the invariant rule of such a loop, and
  the rank rule that makes its fuel sufficient.
* `foldlM_total`: the rule of a loop over a list that never stops, and `foldlM_induction`: what
  such a loop leaves when it returns.
-/

namespace Lldpad.Lib

/-- What stops a program before it returns. -/
inductive Fault where
  /-- an `assert` whose condition is false -/
  | assertFailed
  /-- an access through a handle whose object was released -/
  | useAfterFree (ref : Nat)
  /-- an access beyond the end of a buffer -/
  | outOfBounds
  /-- the model's own bound on a loop; no source program does this -/
  | outOfFuel
  deriving DecidableEq, Repr

/-- An `assert`: the program stops unless the condition holds. -/
def assert (b : Bool) : Except Fault Unit :=
  if b then .ok () else .error .assertFailed

@[simp] theorem assert_true : assert true = .ok () := rfl

@[simp] theorem assert_false : assert false = .error .assertFailed := rfl

theorem assert_eq_ok {b : Bool} {u : Unit} : assert b = .ok u ↔ b = true := by
  cases b <;> simp

/-- Binding a computation that returned. -/
@[simp] theorem bind_ok {ε α β : Type} (a : α) (f : α → Except ε β) :
    (Except.ok a >>= f) = f a := rfl

/-- Binding a computation that stopped. -/
@[simp] theorem bind_error {α β : Type} (e : Fault) (f : α → Except Fault β) :
    (Except.error e >>= f) = .error e := rfl

@[simp] theorem pure_eq_ok {α : Type} (a : α) : (pure a : Except Fault α) = .ok a := rfl

/-- A sequence returns when its first part returns and the rest returns from there. -/
theorem bind_eq_ok {α β : Type} {x : Except Fault α} {f : α → Except Fault β} {b : β} :
    (x >>= f) = .ok b ↔ ∃ a, x = .ok a ∧ f a = .ok b := by
  cases x with
  | error e => simp
  | ok a => simp

/-- The computation returns, or stops for the reason `f`. -/
def StopsOnly {α : Type} (f : Fault) (x : Except Fault α) : Prop := ∀ g, x = .error g → g = f

theorem stopsOnly_of_ok {α : Type} {f : Fault} {x : Except Fault α} (h : ∃ a, x = .ok a) :
    StopsOnly f x := by
  obtain ⟨a, rfl⟩ := h
  exact fun g hg => nomatch hg

/-- A sequence stops only for the reason that its parts stop for. -/
theorem StopsOnly.bind {α β : Type} {f : Fault} {x : Except Fault α} {k : α → Except Fault β}
    (hx : StopsOnly f x) (hk : ∀ a, x = .ok a → StopsOnly f (k a)) : StopsOnly f (x >>= k) := by
  intro g hg
  cases x with
  | error e =>
    cases hg
    exact hx _ rfl
  | ok a => exact hk a rfl g hg

/-- A loop over a list stops only for the reason that its body stops for. -/
theorem foldlM_stopsOnly {α β : Type} {f : Fault} {g : β → α → Except Fault β}
    (hg : ∀ b a, StopsOnly f (g b a)) (xs : List α) (b : β) : StopsOnly f (xs.foldlM g b) := by
  induction xs generalizing b with
  | nil => exact stopsOnly_of_ok ⟨b, rfl⟩
  | cons a xs ih =>
    rw [List.foldlM_cons]
    exact (hg b a).bind fun b' _ => ih b'

theorem mapM_stopsOnly {α β : Type} {f : Fault} {g : α → Except Fault β}
    (hg : ∀ a, StopsOnly f (g a)) (xs : List α) : StopsOnly f (xs.mapM g) := by
  induction xs with
  | nil => exact stopsOnly_of_ok ⟨[], rfl⟩
  | cons a xs ih =>
    rw [List.mapM_cons]
    exact (hg a).bind fun _ _ => ih.bind fun _ _ => stopsOnly_of_ok ⟨_, rfl⟩

theorem optionMapM_stopsOnly {α β : Type} {f : Fault} {g : α → Except Fault β}
    (hg : ∀ a, StopsOnly f (g a)) (x : Option α) : StopsOnly f (x.mapM g) := by
  cases x with
  | none => exact stopsOnly_of_ok ⟨none, rfl⟩
  | some a =>
    have hmap : (some a).mapM g = some <$> g a := rfl
    rw [hmap, map_eq_pure_bind]
    exact (hg a).bind fun _ _ => stopsOnly_of_ok ⟨_, rfl⟩

/-! ### Loops -/

/-- The end of one pass of a loop: go around again, or leave. -/
inductive Pass (α β : Type) where
  | again (a : α)
  | leave (b : β)

variable {α β : Type}

/-- A loop, at most `fuel` passes. -/
def iterate (body : α → Except Fault (Pass α β)) : Nat → α → Except Fault β
  | 0, _ => .error .outOfFuel
  | fuel + 1, a => do
    match ← body a with
    | .again a' => iterate body fuel a'
    | .leave b => pure b

variable {body : α → Except Fault (Pass α β)}

theorem iterate_succ_of_again {fuel : Nat} {a a' : α} (h : body a = .ok (.again a')) :
    iterate body (fuel + 1) a = iterate body fuel a' := by
  rw [iterate, h, bind_ok]

theorem iterate_succ_of_leave {fuel : Nat} {a : α} {b : β} (h : body a = .ok (.leave b)) :
    iterate body (fuel + 1) a = .ok b := by
  rw [iterate, h, bind_ok]
  rfl

/-- The result of a loop comes from its first pass or from a shorter loop. -/
theorem iterate_succ_eq_ok {fuel : Nat} {a : α} {b : β} :
    iterate body (fuel + 1) a = .ok b ↔
      body a = .ok (.leave b) ∨
        ∃ a', body a = .ok (.again a') ∧ iterate body fuel a' = .ok b := by
  rw [iterate, bind_eq_ok]
  constructor
  · rintro ⟨p, hp, h⟩
    cases p with
    | again a' => exact .inr ⟨a', hp, h⟩
    | leave b' => cases h; exact .inl hp
  · rintro (h | ⟨a', ha, h⟩)
    · exact ⟨_, h, rfl⟩
    · exact ⟨_, ha, h⟩

/-- The invariant rule: what holds before every pass and what holds on leaving. -/
theorem iterate_induction {I : α → Prop} {Q : β → Prop}
    (hagain : ∀ a a', I a → body a = .ok (.again a') → I a')
    (hleave : ∀ a b, I a → body a = .ok (.leave b) → Q b) :
    ∀ (fuel : Nat) (a : α) (b : β), I a → iterate body fuel a = .ok b → Q b := by
  intro fuel
  induction fuel with
  | zero => intro a b _ h; simp [iterate] at h
  | succ fuel ih =>
    intro a b hI h
    rcases iterate_succ_eq_ok.mp h with h | ⟨a', ha, h⟩
    · exact hleave a b hI h
    · exact ih a' b (hagain a a' hI ha) h

/-- The rank rule: no pass stops the program, and going around lowers the rank. -/
theorem iterate_total {I : α → Prop} (rank : α → Nat)
    (hpass : ∀ a, I a → (∃ b, body a = .ok (.leave b)) ∨
      ∃ a', body a = .ok (.again a') ∧ I a' ∧ rank a' < rank a) :
    ∀ (fuel : Nat) (a : α), I a → rank a < fuel → ∃ b, iterate body fuel a = .ok b := by
  intro fuel
  induction fuel with
  | zero => intro a _ h; omega
  | succ fuel ih =>
    intro a hI hrank
    rcases hpass a hI with ⟨b, hb⟩ | ⟨a', ha, hI', hlt⟩
    · exact ⟨b, iterate_succ_of_leave hb⟩
    · obtain ⟨b, hb⟩ := ih a' hI' (by omega)
      exact ⟨b, (iterate_succ_of_again ha).trans hb⟩

/-- The rule of a loop over a list: no pass stops the program, and `I` says what holds after
the passes done so far. -/
theorem foldlM_total {f : β → α → Except Fault β} (I : List α → β → Prop)
    (hpass : ∀ done b a, I done b → ∃ b', f b a = .ok b' ∧ I (a :: done) b') :
    ∀ (l done : List α) (b : β), I done b →
      ∃ b', l.foldlM f b = .ok b' ∧ I (l.reverse ++ done) b' := by
  intro l
  induction l with
  | nil => exact fun done b h => ⟨b, rfl, h⟩
  | cons a l ih =>
    intro done b h
    obtain ⟨b₁, hb₁, h₁⟩ := hpass done b a h
    obtain ⟨b', hb', h'⟩ := ih (a :: done) b₁ h₁
    refine ⟨b', ?_, ?_⟩
    · rw [List.foldlM_cons, hb₁]
      exact hb'
    · rw [List.reverse_cons, List.append_assoc]
      exact h'

/-- The rule of a loop over a list whose items are related to all that come after them: what a
pass that returns makes of `I` holds after the passes done so far. -/
theorem foldlM_induction {f : β → α → Except Fault β} {R : α → α → Prop} (I : List α → β → Prop)
    (hpass : ∀ done b a b', (∀ x ∈ done, R a x) → I done b → f b a = .ok b' → I (a :: done) b') :
    ∀ (l done : List α) (b b' : β), (l.reverse ++ done).Pairwise R → I done b →
      l.foldlM f b = .ok b' → I (l.reverse ++ done) b' := by
  intro l
  induction l with
  | nil =>
    intro done b b' _ h hb
    cases hb
    exact h
  | cons a l ih =>
    intro done b b' hrel h hb
    rw [List.foldlM_cons] at hb
    obtain ⟨b₁, hb₁, hb⟩ := bind_eq_ok.mp hb
    rw [List.reverse_cons, List.append_assoc] at hrel ⊢
    have ha : ∀ x ∈ done, R a x := (List.pairwise_cons.mp (List.pairwise_append.mp hrel).2.1).1
    exact ih (a :: done) b₁ b' hrel (hpass done b a b₁ ha h hb₁) hb

end Lldpad.Lib
