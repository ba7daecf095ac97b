import Mathlib.Data.List.Nodup

/-!
# `Lldpad.Lib.Keyed`: lists as tables

A list whose elements have keys is a table when no key stands twice (`UniqueKeys`). `rowOf` is
the table as a function of the key, and each operation of a table is one equation about it:

* `rowOf_map`, `rowOf_cons`: all rows are written, a row is added.
* `rowOf_modifyKey`: the row of one key is written.
* `rowOf_filter`: rows are dropped.
-/

namespace Lldpad.Lib

variable {α κ : Type} [DecidableEq κ] (key : α → κ)

/-- The row of a key -/
def rowOf (l : List α) (k : κ) : Option α := l.find? (key · = k)

/-- No key stands twice. -/
def UniqueKeys (l : List α) : Prop := (l.map key).Nodup

/-- The first row of a key is written. -/
def modifyKey (k : κ) (f : α → α) : List α → Option (List α)
  | [] => none
  | x :: rest => if key x = k then some (f x :: rest) else (modifyKey k f rest).map (x :: ·)

variable {key}

/-! ### Rows -/

variable {k : κ} {l : List α}

theorem rowOf_key {x : α} (h : rowOf key l k = some x) : key x = k := by
  simpa using List.find?_some h

theorem rowOf_mem {x : α} (h : rowOf key l k = some x) : x ∈ l :=
  List.mem_of_find?_eq_some h

theorem rowOf_eq_none : rowOf key l k = none ↔ k ∉ l.map key := by
  simp [rowOf, List.find?_eq_none]

/-- A key that stands in the list has a row. -/
theorem exists_rowOf : (∃ x, rowOf key l k = some x) ↔ k ∈ l.map key := by
  rw [← Option.ne_none_iff_exists', ne_eq, rowOf_eq_none, not_not]

/-- An element is the row of its key. -/
theorem rowOf_of_mem {x : α} (hl : UniqueKeys key l) (hx : x ∈ l) :
    rowOf key l (key x) = some x := by
  have hmem : key x ∈ l.map key := List.mem_map_of_mem hx
  obtain ⟨y, hy⟩ := exists_rowOf.mpr hmem
  have heq : y = x := List.inj_on_of_nodup_map hl (rowOf_mem hy) hx (rowOf_key hy)
  rw [hy, heq]

/-! ### Operations -/

@[simp] theorem rowOf_nil (k : κ) : rowOf key [] k = none := rfl

theorem rowOf_cons (x : α) (l : List α) (k : κ) :
    rowOf key (x :: l) k = if key x = k then some x else rowOf key l k := by
  unfold rowOf
  rw [List.find?_cons]
  by_cases h : key x = k <;> simp [h]

/-- All rows are written, and keep their keys. -/
theorem rowOf_map {f : α → α} (hf : ∀ x, key (f x) = key x) (l : List α) (k : κ) :
    rowOf key (l.map f) k = (rowOf key l k).map f := by
  induction l with
  | nil => rfl
  | cons x l ih =>
    rw [List.map_cons, rowOf_cons, rowOf_cons, ih, hf]
    split_ifs <;> rfl

omit [DecidableEq κ] in
theorem uniqueKeys_map {f : α → α} (hf : ∀ x, key (f x) = key x) :
    UniqueKeys key (l.map f) ↔ UniqueKeys key l := by
  have hcomp : key ∘ f = key := funext hf
  unfold UniqueKeys
  rw [List.map_map, hcomp]

theorem uniqueKeys_cons {x : α} (hx : rowOf key l (key x) = none)
    (hl : UniqueKeys key l) : UniqueKeys key (x :: l) := by
  unfold UniqueKeys
  rw [List.map_cons]
  exact List.nodup_cons.mpr ⟨rowOf_eq_none.mp hx, hl⟩

omit [DecidableEq κ] in
theorem uniqueKeys_filter (p : α → Bool) (hl : UniqueKeys key l) :
    UniqueKeys key (l.filter p) :=
  List.Nodup.sublist (List.Sublist.map key List.filter_sublist) hl

/-- Rows are dropped. -/
theorem rowOf_filter (p : α → Bool) (hl : UniqueKeys key l) (k : κ) :
    rowOf key (l.filter p) k = (rowOf key l k).filter p := by
  cases h : rowOf key (l.filter p) k with
  | some x =>
    obtain ⟨hmem, hp⟩ := List.mem_filter.mp (rowOf_mem h)
    have hx := rowOf_of_mem hl hmem
    rw [rowOf_key h] at hx
    rw [hx, Option.filter_some, if_pos hp]
  | none =>
    cases hx : rowOf key l k with
    | none => rfl
    | some x =>
      -- The row of the key was dropped.
      have hnot : ¬ p x = true := by
        intro hp
        refine rowOf_eq_none.mp h ?_
        rw [← rowOf_key hx]
        exact List.mem_map_of_mem (List.mem_filter.mpr ⟨rowOf_mem hx, hp⟩)
      rw [Option.filter_some, if_neg hnot]

/-- There is no row to write. -/
theorem modifyKey_none {f : α → α} :
    modifyKey key k f l = none ↔ rowOf key l k = none := by
  induction l with
  | nil => simp [modifyKey]
  | cons x l ih =>
    rw [modifyKey, rowOf_cons]
    split_ifs with h
    · simp
    · rw [Option.map_eq_none_iff, ih]

/-- A row that is written as it is -/
theorem modifyKey_self {f : α → α} (hf : ∀ x ∈ l, f x = x)
    (hk : k ∈ l.map key) : modifyKey key k f l = some l := by
  induction l with
  | nil => cases hk
  | cons x l ih =>
    unfold modifyKey
    by_cases hx : key x = k
    · rw [if_pos hx, hf x List.mem_cons_self]
    · have hrest : k ∈ l.map key := by
        rw [List.map_cons] at hk
        exact (List.mem_cons.mp hk).resolve_left (Ne.symm hx)
      rw [if_neg hx, ih (fun y hy => hf y (List.mem_cons_of_mem x hy)) hrest]
      rfl

/-- A row that is written is there. -/
theorem exists_rowOf_of_modifyKey {f : α → α} {l l' : List α}
    (h : modifyKey key k f l = some l') : ∃ x, rowOf key l k = some x := by
  rw [← Option.ne_none_iff_exists', ne_eq, ← modifyKey_none, h]
  exact Option.some_ne_none l'

/-- The row of one key is written, the others are not. -/
theorem rowOf_modifyKey {f : α → α} (hf : ∀ x, key (f x) = key x) {l l' : List α}
    (h : modifyKey key k f l = some l') (j : κ) :
    rowOf key l' j = if j = k then (rowOf key l j).map f else rowOf key l j := by
  induction l generalizing l' with
  | nil => cases h
  | cons x l ih =>
    rw [modifyKey] at h
    split_ifs at h with hx
    · cases h
      rw [rowOf_cons, rowOf_cons, hf, hx]
      by_cases hj : j = k
      · simp [hj]
      · rw [if_neg (Ne.symm hj), if_neg hj, if_neg (Ne.symm hj)]
    · obtain ⟨l₁, hl₁, rfl⟩ := Option.map_eq_some_iff.mp h
      rw [rowOf_cons, rowOf_cons, ih hl₁]
      by_cases hj : j = k
      · subst hj
        simp [hx]
      · simp [hj]

theorem modifyKey_keys {f : α → α} (hf : ∀ x, key (f x) = key x) {l l' : List α}
    (h : modifyKey key k f l = some l') : l'.map key = l.map key := by
  induction l generalizing l' with
  | nil => cases h
  | cons x l ih =>
    rw [modifyKey] at h
    split_ifs at h with hx
    · cases h
      simp [hf]
    · obtain ⟨l₁, hl₁, rfl⟩ := Option.map_eq_some_iff.mp h
      simp [ih hl₁]

theorem uniqueKeys_modifyKey {f : α → α} (hf : ∀ x, key (f x) = key x) {l l' : List α}
    (h : modifyKey key k f l = some l') (hl : UniqueKeys key l) : UniqueKeys key l' := by
  unfold UniqueKeys
  rw [modifyKey_keys hf h]
  exact hl

end Lldpad.Lib
