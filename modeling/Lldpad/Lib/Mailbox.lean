import Mathlib.Data.List.Basic

/-!
# `Lldpad.Lib.Mailbox`: one slot for many letters

A sender writes its letter over the one in the slot and calls a reader, who comes later and takes
what the slot then holds. `Mailbox.InOrder` says that every letter is read once and in order: the
letters that arrived are those that were read, and what the readers on their way will find.

* `inOrder_put`: a letter keeps the order exactly when no reader is on its way, or it says the
  same as the one in the slot.
* `inOrder_call`: a reader never changes the order.

`NewestInSlot` is the invariant behind `inOrder_put`: while a reader is on its way, the slot holds
the letter that arrived last.
-/

namespace Lldpad.Lib

variable {α : Type}

/-- A slot, and the readers on their way. `arrived` and `read` are the letters of the past. -/
structure Mailbox (α : Type) where
  slot : α
  calls : Nat
  arrived : List α
  read : List α

namespace Mailbox

/-- A letter arrives. -/
def put (b : Mailbox α) (x : α) : Mailbox α :=
  { b with slot := x, calls := b.calls + 1, arrived := b.arrived ++ [x] }

/-- A reader comes. -/
def call (b : Mailbox α) : Mailbox α :=
  { b with calls := b.calls - 1, read := b.read ++ [b.slot] }

/-- Every letter is read once, and in order. -/
def InOrder (b : Mailbox α) : Prop := b.arrived = b.read ++ List.replicate b.calls b.slot

/-- While a reader is on its way, the slot holds the letter that arrived last. -/
def NewestInSlot (b : Mailbox α) : Prop := b.calls ≠ 0 → b.arrived.getLast? = some b.slot

theorem newestInSlot_put (b : Mailbox α) (x : α) : (b.put x).NewestInSlot := by
  intro _
  exact List.getLast?_concat

theorem NewestInSlot.call {b : Mailbox α} (h : b.NewestInSlot) : b.call.NewestInSlot := by
  intro hcalls
  refine h fun hzero => hcalls ?_
  show b.calls - 1 = 0
  rw [hzero]

/-- A letter is read in its turn exactly when no other one waits, or one that says the same. -/
theorem inOrder_put {b : Mailbox α} (h : b.NewestInSlot) (x : α) :
    (b.put x).InOrder ↔ b.InOrder ∧ (b.calls = 0 ∨ x = b.slot) := by
  have hput : (b.put x).InOrder ↔ b.arrived = b.read ++ List.replicate b.calls x := by
    show b.arrived ++ [x] = b.read ++ List.replicate (b.calls + 1) x ↔ _
    rw [List.replicate_succ', ← List.append_assoc, List.append_left_inj]
  rw [hput]
  unfold InOrder
  cases hcalls : b.calls with
  | zero => simp
  | succ n =>
    -- The readers on their way find `x`, so the letter that arrived last says `x`.
    have hlast := h (by rw [hcalls]; exact Nat.succ_ne_zero n)
    constructor
    · intro hx
      have heq : x = b.slot := by
        rw [hx, List.replicate_succ', ← List.append_assoc, List.getLast?_concat] at hlast
        exact Option.some.inj hlast
      exact ⟨heq ▸ hx, .inr heq⟩
    · rintro ⟨hslot, hor⟩
      rw [hor.resolve_left (Nat.succ_ne_zero n)]
      exact hslot

/-- A reader on its way finds what it would find later. -/
theorem inOrder_call {b : Mailbox α} (h : b.calls ≠ 0) : b.call.InOrder ↔ b.InOrder := by
  obtain ⟨n, hn⟩ := Nat.exists_eq_succ_of_ne_zero h
  show b.arrived = (b.read ++ [b.slot]) ++ List.replicate (b.calls - 1) b.slot ↔ _
  unfold InOrder
  rw [hn, Nat.succ_sub_one, List.replicate_succ, List.append_assoc, List.singleton_append]

end Mailbox

end Lldpad.Lib
