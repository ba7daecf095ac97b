import Lldpad.Lib.Fault
import Mathlib.Data.List.Basic
import Mathlib.Data.List.Induction
import Mathlib.Tactic.SplitIfs

/-!
# `Lldpad.Lib.Buffer`: reading and writing a buffer

A buffer is a list. A reader or a writer takes the buffer and an offset, and stops at the end.

* `At`: some elements stand at an offset. `at_append_iff` splits them, and a codec's round
  trip follows part by part.
* `readAt`, `sliceAt`: one element, and `n` elements. They stop at the end only.
* `Returns`: a computation returns, so that each of its reads lies inside the buffer.
  `foldlM_readAt_returns` and `mapM_readAt_returns` are the rules of a loop that reads, and
  `foldlM_readAt_of_at` and `mapM_readAt_of_at` say what it reads.
* `readAt_middle`, `sliceAt_middle`: a reader that stays inside a part of a buffer reads nothing
  else.
* `writeAt`: some elements, over those that stand at an offset. `writeAt_writeAt` joins two
  writers.
-/

namespace Lldpad.Lib

variable {α : Type}

/-- The elements `xs` stand in the buffer from offset `i` on. -/
def At (mem : List α) (i : Nat) (xs : List α) : Prop := xs <+: mem.drop i

/-- What stands between two parts of a buffer. -/
theorem at_append (before xs after : List α) : At (before ++ xs ++ after) before.length xs := by
  rw [At, List.append_assoc, List.drop_left]
  exact List.prefix_append _ _

/-- What a buffer starts with. -/
theorem at_zero (xs after : List α) : At (xs ++ after) 0 xs := at_append [] xs after

variable {i : Nat} {mem : List α}

/-- Two parts stand one behind the other. -/
theorem at_append_iff {xs ys : List α} :
    At mem i (xs ++ ys) ↔ At mem i xs ∧ At mem (i + xs.length) ys := by
  unfold At
  rw [← List.drop_drop]
  constructor
  · rintro ⟨zs, hzs⟩
    rw [← hzs, List.append_assoc, List.drop_left]
    exact ⟨List.prefix_append _ _, List.prefix_append _ _⟩
  · rintro ⟨⟨zs, hzs⟩, hys⟩
    rw [← hzs, List.drop_left] at hys
    obtain ⟨ws, rfl⟩ := hys
    exact ⟨ws, by rw [← hzs, List.append_assoc]⟩

/-- All but the first element stand one further. -/
theorem At.tail {x : α} {xs : List α} (h : At mem i (x :: xs)) :
    At mem (i + 1) xs := by
  rw [← List.singleton_append] at h
  exact (at_append_iff.mp h).2

/-- What stands in a buffer is as long as the rest of it at most. -/
theorem At.length_le {xs : List α} (h : At mem i xs) :
    xs.length ≤ mem.length - i := by
  have hle := List.IsPrefix.length_le h
  rwa [List.length_drop] at hle

/-- What stands at an offset, and what stands behind it. -/
theorem At.drop_eq {xs : List α} (h : At mem i xs) :
    mem.drop i = xs ++ mem.drop (i + xs.length) := by
  obtain ⟨ys, hys⟩ := h
  rw [← List.drop_drop, ← hys, List.drop_left]

/-- The elements that stand at an offset. -/
theorem At.slice {xs : List α} (h : At mem i xs) :
    (mem.drop i).take xs.length = xs := (List.prefix_iff_eq_take.mp h).symm

/-! ### Readers -/

/-- One element. -/
def readAt (mem : List α) (i : Nat) : Except Fault α :=
  match mem[i]? with
  | some x => .ok x
  | none => .error .outOfBounds

/-- `n` elements. -/
def sliceAt (mem : List α) (i n : Nat) : Except Fault {xs : List α // xs.length = n} :=
  if h : i + n ≤ mem.length then
    .ok ⟨(mem.drop i).take n, by rw [List.length_take, List.length_drop]; omega⟩
  else .error .outOfBounds

theorem readAt_eq_ok {x : α} :
    readAt mem i = .ok x ↔ mem[i]? = some x := by
  unfold readAt
  cases mem[i]? <;> simp

/-- A reader stops at the end only. -/
theorem readAt_stopsOnly (mem : List α) (i : Nat) : StopsOnly .outOfBounds (readAt mem i) := by
  intro g h
  unfold readAt at h
  cases hi : mem[i]? with
  | some x =>
    rw [hi] at h
    cases h
  | none =>
    rw [hi] at h
    cases h
    rfl

theorem sliceAt_stopsOnly (mem : List α) (i n : Nat) :
    StopsOnly .outOfBounds (sliceAt mem i n) := by
  intro g h
  unfold sliceAt at h
  split_ifs at h
  cases h
  rfl

/-- The element that stands at an offset is read. -/
theorem readAt_of_at {x : α} {xs : List α} (h : At mem i (x :: xs)) :
    readAt mem i = .ok x := by
  obtain ⟨ys, hys⟩ := h
  have hget : (mem.drop i)[0]? = some x := by rw [← hys]; rfl
  rw [List.getElem?_drop, Nat.add_zero] at hget
  exact readAt_eq_ok.mpr hget

/-- The elements that stand at an offset are read. -/
theorem sliceAt_of_at {i n : Nat} {xs : List α} (h : At mem i xs)
    (hn : xs.length = n) (hpos : 0 < n) : sliceAt mem i n = .ok ⟨xs, hn⟩ := by
  subst hn
  have hle := h.length_le
  unfold sliceAt
  rw [dif_pos (by omega)]
  exact congrArg _ (Subtype.ext h.slice)

/-! ### Reads inside the buffer -/

/-- The computation returns. -/
def Returns {β : Type} (x : Except Fault β) : Prop := ∃ b, x = .ok b

theorem returns_ok {β : Type} (b : β) : Returns (Except.ok b) := ⟨b, rfl⟩

theorem not_returns_error {β : Type} (f : Fault) : ¬ Returns (Except.error f : Except Fault β) :=
  nofun

/-- One read is inside below the length. -/
theorem readAt_returns : Returns (readAt mem i) ↔ i < mem.length := by
  simp only [Returns, readAt_eq_ok, ← Option.isSome_iff_exists, isSome_getElem?]

theorem sliceAt_returns {i n : Nat} :
    Returns (sliceAt mem i n) ↔ i + n ≤ mem.length := by
  unfold sliceAt
  by_cases h : i + n ≤ mem.length
  · rw [dif_pos h]
    exact iff_of_true (returns_ok _) h
  · rw [dif_neg h]
    exact iff_of_false (not_returns_error _) h

/-- A sequence is inside when both parts are, whatever the first one returns. -/
theorem returns_bind {β γ : Type} {x : Except Fault β} {f : β → Except Fault γ} {P : Prop}
    (hf : ∀ b, Returns (f b) ↔ P) : Returns (x >>= f) ↔ Returns x ∧ P := by
  cases x with
  | error e => simp [Returns]
  | ok b => simpa [returns_ok] using hf b

/-- A last step that reads nothing. -/
theorem returns_bind_pure {β γ : Type} {x : Except Fault β} {f : β → γ} :
    Returns (x >>= fun b => pure (f b)) ↔ Returns x := by
  have hlast (b : β) : Returns (pure (f b) : Except Fault γ) ↔ True :=
    iff_of_true ⟨f b, rfl⟩ trivial
  rw [returns_bind hlast, and_true]

/-- A loop that reads one element in each turn. -/
theorem foldlM_readAt_returns {σ ι : Type} (mem : List α) (at' : ι → Nat) (g : σ → ι → α → σ)
    (is : List ι) (s : σ) :
    Returns (is.foldlM (fun s i => do
        let x ← readAt mem (at' i)
        pure (g s i x)) s) ↔ ∀ i ∈ is, at' i < mem.length := by
  induction is generalizing s with
  | nil => simpa using returns_ok s
  | cons i is ih =>
    rw [List.foldlM_cons, returns_bind ih, returns_bind_pure, readAt_returns, List.forall_mem_cons]

/-- A loop that keeps what it reads. -/
theorem mapM_readAt_returns {ι : Type} (mem : List α) (at' : ι → Nat) (is : List ι) :
    Returns (is.mapM fun i => readAt mem (at' i)) ↔ ∀ i ∈ is, at' i < mem.length := by
  induction is with
  | nil => simpa using returns_ok []
  | cons i is ih =>
    rw [List.mapM_cons, List.forall_mem_cons, ← ih, ← readAt_returns]
    exact returns_bind fun x => returns_bind_pure

/-- A loop over what stands at an offset reads it element by element. -/
theorem foldlM_readAt_of_at {σ : Type} {offset : Nat} {xs : List α}
    (h : At mem offset xs) (g : σ → Nat → α → σ) (s : σ) :
    (List.range xs.length).foldlM (fun s i => do
        let x ← readAt mem (offset + i)
        pure (g s i x)) s = .ok (xs.zipIdx.foldl (fun s x => g s x.2 x.1) s) := by
  induction xs using List.reverseRecOn with
  | nil => rfl
  | append_singleton ys y ih =>
    obtain ⟨hys, hy⟩ := at_append_iff.mp h
    rw [List.length_append, List.length_singleton, List.range_succ, List.foldlM_append, ih hys,
      bind_ok, List.foldlM_cons, readAt_of_at hy, List.zipIdx_append, List.foldl_append]
    simp

/-- A loop that keeps what it reads returns what stands at the offset. -/
theorem mapM_readAt_of_at {offset : Nat} {xs : List α} (h : At mem offset xs) :
    (List.range xs.length).mapM (fun i => readAt mem (offset + i)) = .ok xs := by
  induction xs using List.reverseRecOn with
  | nil => rfl
  | append_singleton ys y ih =>
    obtain ⟨hys, hy⟩ := at_append_iff.mp h
    rw [List.length_append, List.length_singleton, List.range_succ, List.mapM_append, ih hys,
      bind_ok, List.mapM_cons, readAt_of_at hy]
    rfl

/-- What is read when there is something to read. -/
theorem optionMapM_returns {β γ : Type} (x : Option β) (f : β → Except Fault γ) :
    Returns (x.mapM f) ↔ ∀ b, x = some b → Returns (f b) := by
  cases x with
  | none => exact iff_of_true ⟨none, rfl⟩ nofun
  | some b =>
    have hmap : (some b).mapM f = some <$> f b := rfl
    rw [hmap, map_eq_pure_bind, returns_bind_pure]
    simp

/-! ### A part of a buffer -/

section Middle

variable (before xs after : List α)

/-- A read inside a part -/
theorem readAt_middle {j : Nat} (h : j < xs.length) :
    readAt (before ++ xs ++ after) (before.length + j) = readAt xs j := by
  unfold readAt
  rw [List.append_assoc, List.getElem?_append_right (Nat.le_add_right ..),
    Nat.add_sub_cancel_left, List.getElem?_append_left h]

theorem sliceAt_middle {j n : Nat} (h : j + n ≤ xs.length) :
    sliceAt (before ++ xs ++ after) (before.length + j) n = sliceAt xs j n := by
  unfold sliceAt
  rw [dif_pos (by simp only [List.length_append]; omega), dif_pos h]
  refine congrArg Except.ok (Subtype.ext ?_)
  show ((before ++ xs ++ after).drop (before.length + j)).take n = (xs.drop j).take n
  rw [List.append_assoc, ← List.drop_drop, List.drop_left,
    List.drop_append_of_le_length (by omega),
    List.take_append_of_le_length (by rw [List.length_drop]; omega)]

end Middle

/-! ### Writers -/

/-- The elements `xs`, over those at the offset `i`. Nothing is written where `xs` is empty. -/
def writeAt (mem : List α) (i : Nat) (xs : List α) : Except Fault (List α) :=
  if xs.isEmpty ∨ i + xs.length ≤ mem.length then
    .ok (mem.take i ++ xs ++ mem.drop (i + xs.length))
  else .error .outOfBounds

@[simp] theorem writeAt_nil (mem : List α) (i : Nat) : writeAt mem i [] = .ok mem := by
  simp [writeAt]

/-- What is written over as many elements -/
theorem writeAt_append {before old after xs : List α} (hlen : old.length = xs.length) :
    writeAt (before ++ old ++ after) before.length xs = .ok (before ++ xs ++ after) := by
  have hfit : before.length + xs.length ≤ (before ++ old ++ after).length := by
    simp only [List.length_append]
    omega
  have hdrop : (before ++ old ++ after).drop (before.length + xs.length) = after := by
    rw [← hlen, ← List.length_append, List.drop_left]
  unfold writeAt
  rw [if_pos (.inr hfit), hdrop, List.append_assoc before, List.take_left]

/-- A writer stops behind the end, and it leaves the length as it is. -/
theorem writeAt_eq_ok {mem mem' : List α} {xs : List α} (h : writeAt mem i xs = .ok mem') :
    (xs ≠ [] → i + xs.length ≤ mem.length) ∧ mem'.length = mem.length := by
  unfold writeAt at h
  split_ifs at h with hfit
  cases h
  cases xs with
  | nil => simp
  | cons x xs =>
    have hle : i + (x :: xs).length ≤ mem.length := hfit.resolve_left (by simp)
    refine ⟨fun _ => hle, ?_⟩
    simp only [List.length_append, List.length_take, List.length_drop]
    omega

/-- Two writers, one behind the other -/
theorem writeAt_writeAt (mem : List α) (i : Nat) (xs ys : List α) :
    (writeAt mem i xs >>= fun mem => writeAt mem (i + xs.length) ys) =
      writeAt mem i (xs ++ ys) := by
  by_cases hxs : xs = []
  · rw [hxs, writeAt_nil, bind_ok]
    rfl
  by_cases hys : ys = []
  · rw [hys, List.append_nil]
    cases h : writeAt mem i xs with
    | error e => rfl
    | ok mem' => rw [bind_ok, writeAt_nil]
  by_cases hfit : i + (xs ++ ys).length ≤ mem.length
  · -- The memory is what stands before, what is written over, and what stands behind.
    rw [List.length_append] at hfit
    obtain ⟨before, old, old', after, rfl, hi, hold, hold'⟩ : ∃ before old old' after,
        mem = before ++ old ++ old' ++ after ∧ before.length = i ∧ old.length = xs.length ∧
          old'.length = ys.length := by
      refine ⟨mem.take i, (mem.drop i).take xs.length, (mem.drop (i + xs.length)).take ys.length,
        mem.drop (i + xs.length + ys.length), ?_, ?_, ?_, ?_⟩
      · simp only [← List.drop_drop, List.append_assoc, List.take_append_drop]
      all_goals
        simp only [List.length_take, List.length_drop]
        omega
    have hsplit : before ++ old ++ old' ++ after = before ++ (old ++ old') ++ after := by
      simp only [List.append_assoc]
    rw [← hi, List.append_assoc _ old', writeAt_append hold, bind_ok, ← List.length_append,
      ← List.append_assoc, writeAt_append hold', ← List.append_assoc, hsplit,
      writeAt_append (by rw [List.length_append, List.length_append, hold, hold'])]
    simp only [List.append_assoc]
  · have hjoin : writeAt mem i (xs ++ ys) = .error .outOfBounds := by
      unfold writeAt
      rw [if_neg]
      rintro (hempty | hle)
      · exact hxs (List.append_eq_nil_iff.mp (List.isEmpty_iff.mp hempty)).1
      · exact hfit hle
    rw [hjoin]
    cases h : writeAt mem i xs with
    | error e =>
      unfold writeAt at h
      split_ifs at h
      cases h
      rfl
    | ok mem' =>
      rw [List.length_append] at hfit
      have hlen := (writeAt_eq_ok h).2
      rw [bind_ok]
      unfold writeAt
      rw [if_neg]
      simp only [List.isEmpty_iff, hys, false_or, hlen]
      omega

end Lldpad.Lib
