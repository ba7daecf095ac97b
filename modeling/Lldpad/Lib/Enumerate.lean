import Mathlib.Data.List.Basic
import Mathlib.Data.List.Nodup
import Mathlib.Logic.Function.Basic

/-!
# `Lldpad.Lib.Enumerate`: a list that is asked for entry 1, 2, 3 and so on

A list is read by asking for its first entry, its second and so on, until there is none. The
question may change an entry and it may remove the entry that it answers with. Then the entry
behind moves up and is not asked for.

* `reported`, `remaining`: the entries that are answered, and what is left of the list.
* `reported_eq_self`: nothing is left out if only the last entry is removed.
* `walk_eq`: the loop does to the answers what it would do to `reported`.
-/

namespace Lldpad.Lib

section

variable {α : Type} (removes : α → Bool) (touched : α → α)

/-- The entries that are answered. The first one is left out (`skip`) if the entry before it was
removed. -/
def reported : Bool → List α → List α
  | _, [] => []
  | true, _ :: xs => reported false xs
  | false, x :: xs => x :: reported (removes x) xs

/-- What is left of the list. -/
def remaining : Bool → List α → List α
  | _, [] => []
  | true, x :: xs => x :: remaining false xs
  | false, x :: xs =>
    if removes x then remaining true xs else touched x :: remaining false xs

theorem reported_sublist (skip : Bool) (xs : List α) : (reported removes skip xs).Sublist xs := by
  induction xs generalizing skip with
  | nil => exact .slnil
  | cons x xs ih =>
    cases skip with
    | true => exact (ih false).cons x
    | false => exact (ih (removes x)).cons_cons x

/-- Nothing is left out if and only if only the last entry is removed. -/
theorem reported_eq_self (xs : List α) :
    reported removes false xs = xs ↔ ∀ x ∈ xs.dropLast, removes x = false := by
  induction xs with
  | nil => simp [reported]
  | cons x xs ih =>
    cases xs with
    | nil => simp [reported]
    | cons y ys =>
      rw [reported, List.cons_inj_right, List.dropLast_cons_cons, List.forall_mem_cons, ← ih]
      cases hx : removes x with
      | false => simp
      | true =>
        -- the second entry is left out, and so there is one answer too few
        have hshort := (reported_sublist removes false ys).length_le
        have hne : reported removes true (y :: ys) ≠ y :: ys := by
          intro heq
          rw [reported] at heq
          rw [heq, List.length_cons] at hshort
          omega
        simp [hne]

/-- What is left if only the last entry is removed. -/
theorem remaining_of_last {xs : List α} (h : ∀ x ∈ xs.dropLast, removes x = false) :
    remaining removes touched false xs = (xs.filter fun x => !removes x).map touched := by
  induction xs with
  | nil => rfl
  | cons x xs ih =>
    cases xs with
    | nil => cases hx : removes x <;> simp [remaining, hx]
    | cons y ys =>
      rw [List.dropLast_cons_cons, List.forall_mem_cons] at h
      have hkept : (x :: y :: ys).filter (fun x => !removes x)
          = x :: (y :: ys).filter fun x => !removes x := List.filter_cons_of_pos (by simp [h.1])
      rw [remaining, if_neg (by simp [h.1]), ih h.2, hkept, List.map_cons]

end

/-! ### A list of handles -/

/-- An entry of a list that is kept as different handles and what they stand for: its handle, and
the list after the entry was changed or removed. -/
theorem exists_handle {α : Type} {nodes : Nat → α} {hs : List Nat} (hnd : hs.Nodup)
    {pre rest : List α} {x : α} (h : hs.map nodes = pre ++ x :: rest) :
    ∃ i, hs[pre.length]? = some i ∧ i ∈ hs ∧ nodes i = x ∧
      ∀ y, hs.map (Function.update nodes i y) = pre ++ y :: rest ∧
        (hs.erase i).map (Function.update nodes i y) = pre ++ rest := by
  obtain ⟨front, back, rfl, hfront, hback⟩ := List.map_eq_append_iff.mp h
  obtain ⟨i, back, rfl, hi, hback⟩ := List.map_eq_cons_iff.mp hback
  have hlen : pre.length = front.length := by rw [← hfront, List.length_map]
  have hni : i ∉ front ∧ i ∉ back := by
    have hmid := List.nodup_middle.mp hnd
    rw [List.nodup_cons, List.mem_append, not_or] at hmid
    exact hmid.1
  have hkeep : ∀ y, ∀ l : List Nat, i ∉ l → l.map (Function.update nodes i y) = l.map nodes := by
    intro y l hl
    refine List.map_congr_left fun j hj => Function.update_of_ne ?_ _ _
    rintro rfl
    exact hl hj
  refine ⟨i, ?_, by simp, hi, fun y => ⟨?_, ?_⟩⟩
  · rw [hlen, List.getElem?_append_right (Nat.le_refl _), Nat.sub_self]
    rfl
  · rw [List.map_append, List.map_cons, hkeep y front hni.1, hkeep y back hni.2, hfront, hback,
      Function.update_self]
  · rw [List.erase_append_right _ hni.1, List.erase_cons_head, List.map_append,
      hkeep y front hni.1, hkeep y back hni.2, hfront, hback]

/-! ### The loop -/

variable {σ α β ρ γ : Type}

/-- The loop that asks for entry `n + 1`, `n + 2` and so on. `next` is what becomes of the record
that the answer is put into, and `body` works on what is seen of the answer; it may give up. -/
def walk (status : Nat → β → σ → σ × β × Bool) (next : β → β) (view : β → ρ)
    (body : γ → ρ → Option γ) : Nat → Nat → β → γ → σ → Option (σ × Option γ)
  | 0, _, _, _, _ => none
  | fuel + 1, n, v, acc, s =>
    match status (n + 1) v s with
    | (s, _, false) => some (s, some acc)
    | (s, v, true) =>
      match body acc (view v) with
      | none => some (s, none)
      | some acc => walk status next view body fuel (n + 1) (next v) acc s

/-- A question about a list: there is no answer behind its end, and an entry is reported as it
is, and changed or removed. -/
structure Enumerates (status : Nat → β → σ → σ × β × Bool) (next : β → β) (view : β → ρ)
    (queue : σ → List α) (good : σ → β → Prop) (removes : α → Bool) (touched : α → α)
    (report : α → ρ) : Prop where
  finish : ∀ {s v n}, good s v → (queue s).length ≤ n →
    (status (n + 1) v s).1 = s ∧ (status (n + 1) v s).2.2 = false
  hit : ∀ {s v pre x rest}, good s v → queue s = pre ++ x :: rest →
    ∃ s' v', status (pre.length + 1) v s = (s', v', true) ∧ view v' = report x ∧
      good s' (next v') ∧
      queue s' = if removes x then pre ++ rest else pre ++ touched x :: rest

/-- The loop over the rest of a list, from the entry behind `pre`, or from the one behind that. -/
theorem walk_eq {status : Nat → β → σ → σ × β × Bool} {next : β → β} {view : β → ρ}
    {queue : σ → List α} {good : σ → β → Prop} {removes : α → Bool} {touched : α → α}
    {report : α → ρ} (h : Enumerates status next view queue good removes touched report)
    (body : γ → ρ → Option γ) {rest pre : List α} {skip : Bool} {fuel : Nat} {v : β} {acc : γ}
    {s : σ} (hgood : good s v) (hqueue : queue s = pre ++ rest) (hfuel : rest.length < fuel) :
    ∃ s', walk status next view body fuel (pre.length + if skip then 1 else 0) v acc s
        = some (s', ((reported removes skip rest).map report).foldlM body acc) ∧
      (((reported removes skip rest).map report).foldlM body acc ≠ none →
        queue s' = pre ++ remaining removes touched skip rest) := by
  induction rest generalizing pre skip fuel v acc s with
  | nil =>
    obtain ⟨fuel, rfl⟩ := Nat.exists_eq_succ_of_ne_zero (Nat.ne_of_gt hfuel)
    obtain ⟨hsame, hend⟩ := h.finish (n := pre.length + if skip then 1 else 0) hgood (by
      rw [hqueue, List.append_nil]
      exact Nat.le_add_right ..)
    refine ⟨s, ?_, fun _ => hqueue⟩
    rw [walk]
    generalize status _ v s = r at *
    obtain ⟨s', v', ok⟩ := r
    cases hsame
    cases hend
    rfl
  | cons x rest ih =>
    obtain ⟨fuel, rfl⟩ := Nat.exists_eq_succ_of_ne_zero (Nat.ne_of_gt (Nat.zero_lt_of_lt hfuel))
    have hfuel' : rest.length < fuel := Nat.lt_of_succ_lt_succ hfuel
    cases skip with
    | true =>
      have hpre : (pre ++ [x]).length = pre.length + 1 := List.length_append
      have hrec := @ih (pre ++ [x]) false (fuel + 1) v acc s hgood (by simp [hqueue]) (by omega)
      rw [hpre] at hrec
      simpa [reported, remaining] using hrec
    | false =>
      obtain ⟨s', v', hstatus, hview, hgood', hqueue'⟩ := h.hit hgood hqueue
      simp only [Bool.false_eq_true, if_false, Nat.add_zero, walk, hstatus, hview, reported,
        List.map_cons, List.foldlM_cons]
      cases hbody : body acc (report x) with
      | none => exact ⟨s', rfl, fun hc => absurd rfl hc⟩
      | some acc' =>
        cases hx : removes x with
        | true =>
          rw [hx, if_pos rfl] at hqueue'
          have hrec := @ih pre true fuel (next v') acc' s' hgood' hqueue' hfuel'
          simpa [remaining, hx] using hrec
        | false =>
          rw [hx, if_neg Bool.false_ne_true] at hqueue'
          have hpre : (pre ++ [touched x]).length = pre.length + 1 := List.length_append
          have hrec := @ih (pre ++ [touched x]) false fuel (next v') acc' s' hgood'
            (by simp [hqueue']) hfuel'
          rw [hpre] at hrec
          simpa [remaining, hx] using hrec

/-- The loop over the whole list. -/
theorem walk_start {status : Nat → β → σ → σ × β × Bool} {next : β → β} {view : β → ρ}
    {queue : σ → List α} {good : σ → β → Prop} {removes : α → Bool} {touched : α → α}
    {report : α → ρ} (h : Enumerates status next view queue good removes touched report)
    (body : γ → ρ → Option γ) (acc : γ) {fuel : Nat} {v : β} {s : σ} (hgood : good s v)
    (hfuel : (queue s).length < fuel) :
    ∃ s', walk status next view body fuel 0 v acc s
        = some (s', ((reported removes false (queue s)).map report).foldlM body acc) ∧
      (((reported removes false (queue s)).map report).foldlM body acc ≠ none →
        queue s' = remaining removes touched false (queue s)) := by
  have hwalk := @walk_eq σ α β ρ γ status next view queue good removes touched report h body
    (queue s) [] false fuel v acc s hgood rfl hfuel
  simpa using hwalk

end Lldpad.Lib
