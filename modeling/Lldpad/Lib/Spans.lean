import Lldpad.Lib.Buffer

/-!
# `Lldpad.Lib.Spans`: texts that are ended in place

A `Span` is a text in a buffer. `markEach` ends such texts where they stand: it writes a mark
behind each. A pointer that was never set is no span.

* `Span.text_writeAt`: a text that is written.
* `Apart`: a text begins behind the mark of the text before it.
* `markEach_ended`: texts that are apart stay as they are, each with its mark behind it.
* `markEach_unset`: a mark behind a pointer that was never set stops the program.
-/

namespace Lldpad.Lib

variable {α : Type}

/-- A text in a buffer: where it begins, and its length -/
structure Span where
  start : Nat
  len : Nat
  deriving DecidableEq, Repr

namespace Span

/-- The place of the mark -/
def stop (s : Span) : Nat := s.start + s.len

/-- The text itself -/
def text (mem : List α) (s : Span) : List α := (mem.drop s.start).take s.len

/-- A text is known from what stands before its mark. -/
theorem text_eq (mem : List α) (s : Span) : s.text mem = (mem.take s.stop).drop s.start := by
  unfold text stop
  rw [List.drop_take, Nat.add_sub_cancel_left]

end Span

/-! ### A text that is written -/

/-- What is written is there. -/
theorem writeAt_drop {mem mem' : List α} {i : Nat} {xs : List α} (hfit : i + xs.length ≤ mem.length)
    (h : writeAt mem i xs = .ok mem') : mem'.drop i = xs ++ mem.drop (i + xs.length) := by
  unfold writeAt at h
  rw [if_pos (.inr hfit)] at h
  cases h
  have hlen : (mem.take i).length = i := by
    rw [List.length_take]
    omega
  rw [List.append_assoc]
  exact List.drop_left' hlen

/-- The elements before a written text and behind it stay. -/
theorem writeAt_getElem? {mem mem' : List α} {i : Nat} {xs : List α}
    (h : writeAt mem i xs = .ok mem') {j : Nat} (hj : j < i ∨ i + xs.length ≤ j) :
    mem'[j]? = mem[j]? := by
  cases xs with
  | nil =>
    rw [writeAt_nil] at h
    cases h
    rfl
  | cons x xs =>
    have hfit := (writeAt_eq_ok h).1 nofun
    rcases hj with hj | hj
    · -- before the text
      unfold writeAt at h
      rw [if_pos (.inr hfit)] at h
      cases h
      have hlt : j < (mem.take i).length := by
        rw [List.length_take]
        omega
      rw [List.append_assoc, List.getElem?_append_left hlt, List.getElem?_take_of_lt hj]
    · -- behind the text
      have hdrop := congrArg (fun l : List α => l[j - i]?) (writeAt_drop hfit h)
      have hij : i + (j - i) = j := by omega
      have hbehind : (x :: xs).length ≤ j - i := by omega
      have hj' : i + (x :: xs).length + (j - i - (x :: xs).length) = j := by omega
      simp only [List.getElem?_drop, hij] at hdrop
      rw [hdrop, List.getElem?_append_right hbehind, List.getElem?_drop, hj']

namespace Span

variable {mem mem' xs : List α} {s : Span}

/-- A text that is written over one of its length -/
theorem text_writeAt (hfit : s.stop ≤ mem.length) (hlen : xs.length = s.len)
    (h : writeAt mem s.start xs = .ok mem') : s.text mem' = xs := by
  have hdrop := writeAt_drop (by rw [hlen]; exact hfit) h
  unfold text
  rw [hdrop, ← hlen, List.take_left]

end Span

/-- The mark, behind each of some texts -/
def markEach (mark : α) (mem : List α) (spans : List (Option Span)) : Except Fault (List α) :=
  spans.foldlM (fun mem s =>
    match s with
    | some s => writeAt mem s.stop [mark]
    | none => .error .outOfBounds) mem

/-- Each text begins behind the mark of the text before it. -/
def Apart (spans : List Span) : Prop := spans.Pairwise fun s t => s.stop < t.start

/-- A text stands as it stood, and the mark behind it -/
structure Span.Ended (mark : α) (mem mem' : List α) (s : Span) : Prop where
  text_eq : s.text mem' = s.text mem
  marked : mem'[s.stop]? = some mark

theorem markEach_cons (mark : α) (mem : List α) (s : Span) (spans : List (Option Span)) :
    markEach mark mem (some s :: spans) =
      writeAt mem s.stop [mark] >>= fun mem => markEach mark mem spans := List.foldlM_cons ..

theorem writeAt_singleton {mem : List α} {i : Nat} (h : i < mem.length) (x : α) :
    writeAt mem i [x] = .ok (mem.set i x) := by
  unfold writeAt
  rw [if_pos (.inr h), List.set_eq_take_append_cons_drop, if_pos h, List.append_assoc]
  rfl

/-- What stands before the first mark stays, and so do texts that are apart. -/
theorem markEach_frame (mark : α) : ∀ (spans : List Span) (mem : List α),
    Apart spans → (∀ s ∈ spans, s.stop < mem.length) →
    ∃ mem', markEach mark mem (spans.map some) = .ok mem' ∧
      (∀ n, (∀ s ∈ spans, n ≤ s.stop) → mem'.take n = mem.take n) ∧
      ∀ s ∈ spans, s.Ended mark mem mem' := by
  intro spans
  induction spans with
  | nil => exact fun mem _ _ => ⟨mem, rfl, fun _ _ => rfl, nofun⟩
  | cons s spans ih =>
    intro mem hapart hin
    obtain ⟨hbehind, hrest⟩ := List.pairwise_cons.mp hapart
    obtain ⟨hs, hins⟩ := List.forall_mem_cons.mp hin
    -- all other marks are behind this one
    have hlater : ∀ t ∈ spans, s.stop + 1 ≤ t.stop := by
      intro t ht
      have hlt := hbehind t ht
      show s.stop + 1 ≤ t.start + t.len
      omega
    obtain ⟨mem', hok, hframe, hended⟩ := ih (mem.set s.stop mark) hrest fun t ht => by
      rw [List.length_set]
      exact hins t ht
    have hbefore := hframe (s.stop + 1) hlater
    refine ⟨mem', ?_, ?_, List.forall_mem_cons.mpr ⟨⟨?_, ?_⟩, ?_⟩⟩
    · rw [List.map_cons, markEach_cons, writeAt_singleton hs]
      exact hok
    · intro n hn
      obtain ⟨hns, hnrest⟩ := List.forall_mem_cons.mp hn
      rw [hframe n hnrest, List.take_set_of_le hns]
    · have htake : mem'.take s.stop = mem.take s.stop := by
        have h := congrArg (List.take s.stop) hbefore
        rwa [List.take_take, List.take_take, Nat.min_eq_left (Nat.le_succ _),
          List.take_set_of_le (Nat.le_refl _)] at h
      rw [Span.text_eq, Span.text_eq, htake]
    · have h := congrArg (fun l : List α => l[s.stop]?) hbefore
      simp only [List.getElem?_take_of_lt (Nat.lt_succ_self _)] at h
      rw [h, List.getElem?_set_self hs]
    · intro t ht
      obtain ⟨htext, hmark⟩ := hended t ht
      refine ⟨?_, hmark⟩
      rw [htext]
      unfold Span.text
      rw [List.drop_set_of_lt (hbehind t ht)]

/-- Texts that are apart stay as they are, each with its mark behind it. -/
theorem markEach_ended (mark : α) {spans : List Span} {mem : List α} (hapart : Apart spans)
    (hin : ∀ s ∈ spans, s.stop < mem.length) :
    ∃ mem', markEach mark mem (spans.map some) = .ok mem' ∧ ∀ s ∈ spans, s.Ended mark mem mem' :=
  let ⟨mem', hok, _, hended⟩ := markEach_frame mark spans mem hapart hin
  ⟨mem', hok, hended⟩

/-- A mark behind a pointer that was never set stops the program. -/
theorem markEach_unset (mark : α) : ∀ (spans : List (Option Span)) (mem : List α),
    none ∈ spans → ¬ Returns (markEach mark mem spans) := by
  intro spans
  induction spans with
  | nil => exact fun _ h => absurd h List.not_mem_nil
  | cons s spans ih =>
    intro mem hmem
    cases s with
    | none => exact not_returns_error _
    | some s =>
      have hrest : none ∈ spans := (List.mem_cons.mp hmem).resolve_left nofun
      rw [markEach_cons]
      rintro ⟨mem', h⟩
      obtain ⟨mem₁, _, hok⟩ := bind_eq_ok.mp h
      exact ih mem₁ hrest ⟨mem', hok⟩

end Lldpad.Lib
