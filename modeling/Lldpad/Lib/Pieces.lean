import Lldpad.Lib.Buffer

/-!
# `Lldpad.Lib.Pieces`: writers that thread an offset

A message is written piece by piece. Each writer gets the offset that was reached, and the loop
adds its answer to it. A writer that answers with the number of elements that it wrote keeps the
offset right. A writer that answers with the position that it reached adds what was there before
once more.

* `writePieces`: the loop.
* `Straight`: no writer of the second kind stands between two pieces that are not empty.
* `writePieces_iff`: the pieces stand one behind the other exactly when they are straight.
-/

namespace Lldpad.Lib

variable {α : Type}

/-- What a writer writes, and whether it answers with the position that it reached -/
structure Piece (α : Type) where
  content : List α
  absolute : Bool

/-- The answer of a writer that was called with `offset` -/
def Piece.answer (x : Piece α) (offset : Nat) : Nat :=
  if x.absolute then offset + x.content.length else x.content.length

/-- The pieces one behind the other, from `offset` behind `base` on -/
def writePieces (base : Nat) : Nat → List (Piece α) → List α → Except Fault (List α)
  | _, [], mem => .ok mem
  | offset, x :: xs, mem => do
    let mem ← writeAt mem (base + offset) x.content
    writePieces base (offset + x.answer offset) xs mem

/-- The message that the pieces are -/
def contents (xs : List (Piece α)) : List α := xs.flatMap Piece.content

/-- Of two pieces, the first one with the wrong answer, the second one is empty. -/
def NoneBehind (xs : List (Piece α)) : Prop :=
  ∀ b c : Piece α, [b, c].Sublist xs → b.absolute = true → c.content = []

/-- No writer with the wrong answer stands between two pieces that are not empty. -/
def Straight (xs : List (Piece α)) : Prop :=
  ∀ a b c : Piece α, [a, b, c].Sublist xs → b.absolute = true → a.content = [] ∨ c.content = []

variable {xs : List (Piece α)}

theorem noneBehind_cons {x : Piece α} :
    NoneBehind (x :: xs) ↔ NoneBehind xs ∧ (x.absolute = true → ∀ c ∈ xs, c.content = []) := by
  simp only [NoneBehind, List.cons_sublist_cons', List.singleton_sublist]
  constructor
  · intro h
    exact ⟨fun b c hsub => h b c (.inl hsub), fun habs c hmem => h x c (.inr ⟨rfl, hmem⟩) habs⟩
  · rintro ⟨hrest, hhead⟩ b c (hsub | ⟨rfl, hmem⟩) habs
    · exact hrest b c hsub habs
    · exact hhead habs c hmem

theorem straight_cons {x : Piece α} :
    Straight (x :: xs) ↔ Straight xs ∧ (x.content ≠ [] → NoneBehind xs) := by
  simp only [Straight, NoneBehind]
  constructor
  · intro h
    refine ⟨fun a b c hsub => h a b c (hsub.cons x), fun hne b c hsub habs => ?_⟩
    exact (h x b c (hsub.cons_cons x) habs).resolve_left hne
  · rintro ⟨hrest, hhead⟩ a b c hsub habs
    rcases List.cons_sublist_cons'.mp hsub with htail | ⟨rfl, htail⟩
    · exact hrest a b c htail habs
    · by_cases hne : a.content = []
      · exact .inl hne
      · exact .inr (hhead hne b c htail habs)

/-- Behind the right offset only empty pieces fit. -/
theorem writePieces_behind {base offset size : Nat} (hlt : size < offset)
    {mem mem' : List α} (hlen : mem.length = base + size + (contents xs).length)
    (h : writePieces base offset xs mem = .ok mem') : ∀ x ∈ xs, x.content = [] := by
  induction xs generalizing offset size mem with
  | nil => nofun
  | cons x xs ih =>
    obtain ⟨mem₁, hwrite, h⟩ := bind_eq_ok.mp h
    obtain ⟨hfit, hlen₁⟩ := writeAt_eq_ok hwrite
    have hcons : (contents (x :: xs)).length = x.content.length + (contents xs).length := by
      simp [contents]
    have hanswer : x.content.length ≤ x.answer offset := by
      unfold Piece.answer
      split_ifs <;> omega
    have hrest := ih (show size + x.content.length < offset + x.answer offset by omega) (by omega) h
    have hzero : (contents xs).length = 0 := by
      rw [contents, List.flatMap_eq_nil_iff.mpr hrest]
      rfl
    rintro y (_ | ⟨_, hmem⟩)
    · by_contra hne
      have hle := hfit hne
      omega
    · exact hrest y hmem

/-- Empty pieces change nothing. -/
theorem writePieces_empty {base : Nat} (hempty : ∀ x ∈ xs, x.content = [])
    (offset : Nat) (mem : List α) : writePieces base offset xs mem = .ok mem := by
  induction xs generalizing offset with
  | nil => rfl
  | cons x xs ih =>
    rw [writePieces, hempty x (List.mem_cons_self ..), writeAt_nil, bind_ok]
    exact ih (fun y hmem => hempty y (List.mem_cons_of_mem _ hmem)) _

/-- The loop in a message that has `before` already, from the right offset on -/
theorem writePieces_append_iff {base offset : Nat} {before old : List α}
    (hbefore : before.length = base + offset) (hold : old.length = (contents xs).length) :
    writePieces base offset xs (before ++ old) = .ok (before ++ contents xs) ↔
      Straight xs ∧ (offset ≠ 0 → NoneBehind xs) := by
  induction xs generalizing offset before old with
  | nil =>
    obtain rfl : old = [] := List.length_eq_zero_iff.mp hold
    refine iff_of_true rfl ⟨fun a b c h => ?_, fun _ b c h => ?_⟩ <;> cases h
  | cons x xs ih =>
    have hcons : contents (x :: xs) = x.content ++ contents xs := rfl
    rw [hcons, List.length_append] at hold
    obtain ⟨o₁, o₂, rfl, hlen₁, hlen₂⟩ : ∃ o₁ o₂, old = o₁ ++ o₂ ∧
        o₁.length = x.content.length ∧ o₂.length = (contents xs).length := by
      refine ⟨old.take x.content.length, old.drop x.content.length, ?_, ?_, ?_⟩
      · rw [List.take_append_drop]
      all_goals
        simp only [List.length_take, List.length_drop]
        omega
    have hstep : writePieces base offset (x :: xs) (before ++ (o₁ ++ o₂)) =
        writePieces base (offset + x.answer offset) xs (before ++ x.content ++ o₂) := by
      rw [writePieces, ← List.append_assoc, ← hbefore, writeAt_append hlen₁, bind_ok]
    rw [hstep, hcons, ← List.append_assoc, straight_cons, noneBehind_cons]
    have hnext : (before ++ x.content).length = base + (offset + x.content.length) := by
      rw [List.length_append]
      omega
    by_cases hright : x.answer offset = x.content.length
    · -- The offset stays right: the writer counts, or there was nothing before it.
      have hcase : x.absolute = true → offset = 0 := by
        intro habs
        rw [Piece.answer, if_pos habs] at hright
        omega
      have hsum : offset + x.content.length ≠ 0 ↔ offset ≠ 0 ∨ x.content ≠ [] := by
        rw [ne_eq, Nat.add_eq_zero_iff, List.length_eq_zero_iff, Classical.not_and_iff_not_or_not]
      rw [hright, ih hnext hlen₂, hsum]
      constructor
      · rintro ⟨hstraight, hbehind⟩
        refine ⟨⟨hstraight, fun hne => hbehind (.inr hne)⟩, fun hpos => ⟨hbehind (.inl hpos), ?_⟩⟩
        exact fun habs => absurd (hcase habs) hpos
      · rintro ⟨⟨hstraight, hbehind⟩, hpos⟩
        exact ⟨hstraight, fun h => h.elim (fun hne => (hpos hne).1) hbehind⟩
    · -- The writer adds what was there before once more.
      obtain ⟨habs, hpos⟩ : x.absolute = true ∧ offset ≠ 0 := by
        unfold Piece.answer at hright
        split_ifs at hright with habs
        · exact ⟨habs, fun hzero => hright (by omega)⟩
        · exact absurd rfl hright
      have hanswer : x.answer offset = offset + x.content.length := if_pos habs
      have hempty : writePieces base (offset + x.answer offset) xs (before ++ x.content ++ o₂) =
          .ok (before ++ x.content ++ contents xs) ↔ ∀ c ∈ xs, c.content = [] := by
        constructor
        · have hlt : offset + x.content.length < offset + x.answer offset := by omega
          refine writePieces_behind hlt ?_
          simp only [List.length_append] at hnext ⊢
          omega
        · intro hall
          have hnil : contents xs = [] := List.flatMap_eq_nil_iff.mpr hall
          rw [hnil, List.length_nil, List.length_eq_zero_iff] at hlen₂
          rw [writePieces_empty hall, hlen₂, hnil]
      rw [hempty]
      constructor
      · intro hall
        have hbehind : NoneBehind xs := fun b c hsub _ =>
          hall c (hsub.subset (List.mem_cons_of_mem _ (List.mem_cons_self ..)))
        refine ⟨⟨fun a b c hsub _ => ?_, fun _ => hbehind⟩, fun _ => ⟨hbehind, fun _ => hall⟩⟩
        exact .inr (hall c (hsub.subset (by simp)))
      · exact fun h => (h.2 hpos).2 habs

/-- The pieces stand one behind the other exactly when they are straight. -/
theorem writePieces_iff {before old : List α} (hold : old.length = (contents xs).length) :
    writePieces before.length 0 xs (before ++ old) = .ok (before ++ contents xs) ↔ Straight xs := by
  rw [writePieces_append_iff (Nat.add_zero _).symm hold]
  exact ⟨fun h => h.1, fun h => ⟨h, fun hne => absurd rfl hne⟩⟩

/-- The loop leaves the length as it is. -/
theorem writePieces_length {base offset : Nat} {mem mem' : List α}
    (h : writePieces base offset xs mem = .ok mem') : mem'.length = mem.length := by
  induction xs generalizing offset mem with
  | nil =>
    cases h
    rfl
  | cons x xs ih =>
    obtain ⟨mem₁, hwrite, h⟩ := bind_eq_ok.mp h
    rw [ih h, (writeAt_eq_ok hwrite).2]

end Lldpad.Lib
