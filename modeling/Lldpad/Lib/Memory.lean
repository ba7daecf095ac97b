import Mathlib.Algebra.Ring.Nat
import Mathlib.Data.List.Basic
import Mathlib.Tactic.SplitIfs

/-!
# `Lldpad.Lib.Memory`: flat memory

Memory is a function from addresses to bytes. What is read and written are strings of bytes at
an address.

* `read_write_self`, `read_write_of_disjoint`: a string that is read back where it was written,
  and one that is read elsewhere.
* `read_writeBlocks`: the same for an array of blocks of one size.
* `ofBytes_toBytes`: a number of a given width, stored with its low byte first.
-/

namespace Lldpad.Lib

/-- Flat memory. -/
def Memory := Nat → UInt8

namespace Memory

/-- `n` bytes from `addr` on. -/
def read (m : Memory) (addr n : Nat) : List UInt8 := (List.range n).map fun k => m (addr + k)

/-- The memory with a string at `addr`. -/
def write (m : Memory) (addr : Nat) (xs : List UInt8) : Memory := fun k =>
  if addr ≤ k ∧ k < addr + xs.length then xs.getD (k - addr) 0 else m k

@[simp] theorem length_read (m : Memory) (addr n : Nat) : (m.read addr n).length = n := by
  simp [read]

/-- Two memories agree on a string if they agree on its bytes. -/
theorem read_congr {m m' : Memory} {addr n : Nat}
    (h : ∀ k, addr ≤ k → k < addr + n → m' k = m k) : m'.read addr n = m.read addr n := by
  refine List.map_congr_left fun k hk => h _ (Nat.le_add_right ..) ?_
  have := List.mem_range.mp hk
  omega

/-- A byte of a string that was read. -/
theorem getElem?_read {m : Memory} {addr n k : Nat} (h : k < n) :
    (m.read addr n)[k]? = some (m (addr + k)) := by
  rw [read, List.getElem?_map, List.getElem?_range h]
  rfl

theorem read_append (m : Memory) (addr n k : Nat) :
    m.read addr (n + k) = m.read addr n ++ m.read (addr + n) k := by
  unfold read
  rw [List.range_add, List.map_append, List.map_map]
  congr 1
  refine List.map_congr_left fun j _ => ?_
  show m (addr + (n + j)) = m (addr + n + j)
  rw [Nat.add_assoc]

/-- The first byte of a string and the rest. -/
theorem read_succ (m : Memory) (addr n : Nat) :
    m.read addr (n + 1) = m addr :: m.read (addr + 1) n := by
  rw [Nat.add_comm n 1, read_append]
  rfl

/-- The start of a string. -/
theorem take_read (m : Memory) (addr : Nat) {n k : Nat} (h : k ≤ n) :
    (m.read addr n).take k = m.read addr k := by
  obtain ⟨j, rfl⟩ := Nat.exists_eq_add_of_le h
  rw [read_append, List.take_left' (length_read ..)]

/-- A part of a string. -/
theorem take_drop_read (m : Memory) (addr : Nat) {n k j : Nat} (h : k + j ≤ n) :
    ((m.read addr n).drop k).take j = m.read (addr + k) j := by
  obtain ⟨i, rfl⟩ := Nat.exists_eq_add_of_le h
  rw [Nat.add_assoc, read_append, List.drop_left' (length_read ..), take_read _ _ (by omega)]

/-- What was written is read back. -/
theorem read_write_self (m : Memory) (addr : Nat) (xs : List UInt8) :
    (m.write addr xs).read addr xs.length = xs := by
  refine List.ext_getElem? fun k => ?_
  by_cases hk : k < xs.length
  · rw [getElem?_read hk, write, if_pos ⟨by omega, by omega⟩, Nat.add_sub_cancel_left,
      List.getD_eq_getElem?_getD, List.getElem?_eq_getElem hk, Option.getD_some]
  · rw [List.getElem?_eq_none (by simp; omega), List.getElem?_eq_none (by omega)]

/-- A byte that a write does not reach. -/
theorem write_of_outside {m : Memory} {addr k : Nat} {xs : List UInt8}
    (h : k < addr ∨ addr + xs.length ≤ k) : m.write addr xs k = m k := by
  rw [write, if_neg (by omega)]

/-- A write leaves alone what it does not reach. -/
theorem read_write_of_disjoint {m : Memory} {addr addr' n : Nat} {xs : List UInt8}
    (h : addr' + n ≤ addr ∨ addr + xs.length ≤ addr') :
    (m.write addr xs).read addr' n = m.read addr' n :=
  read_congr fun k _ _ => write_of_outside (by omega)

/-- A write of what is there changes nothing. -/
theorem write_read_self (m : Memory) (addr n : Nat) : m.write addr (m.read addr n) = m := by
  funext k
  by_cases hk : addr ≤ k ∧ k < addr + n
  · have hlt : k - addr < n := by omega
    rw [write, if_pos (by rw [length_read]; exact hk), List.getD_eq_getElem?_getD,
      getElem?_read hlt, Option.getD_some, Nat.add_sub_cancel' hk.1]
  · exact write_of_outside (by rw [length_read]; omega)

/-! ### Arrays -/

/-- The memory with the first `n` blocks of an array, of `size` bytes each. -/
def writeBlocks (m : Memory) (addr size : Nat) (block : Nat → List UInt8) : Nat → Memory
  | 0 => m
  | n + 1 => (writeBlocks m addr size block n).write (addr + n * size) (block n)

variable {m : Memory} {addr size : Nat} {block : Nat → List UInt8}

/-- Nothing but the array is written. -/
theorem writeBlocks_of_outside (hsize : ∀ i, (block i).length = size) {n k : Nat}
    (h : k < addr ∨ addr + n * size ≤ k) : writeBlocks m addr size block n k = m k := by
  induction n with
  | zero => rfl
  | succ n ih =>
    rw [Nat.succ_mul] at h
    have hlen := hsize n
    rw [writeBlocks, write_of_outside (by omega)]
    exact ih (by omega)

/-- A block of the array is read back. The induction is on the number of blocks: the later ones
lie behind it. -/
theorem read_writeBlocks (hsize : ∀ i, (block i).length = size) {n i : Nat} (hi : i < n) :
    (writeBlocks m addr size block n).read (addr + i * size) size = block i := by
  induction n with
  | zero => omega
  | succ n ih =>
    rw [writeBlocks]
    by_cases hlast : i = n
    · subst hlast
      have hself := read_write_self (writeBlocks m addr size block i) (addr + i * size) (block i)
      rw [hsize i] at hself
      exact hself
    · have hbefore : i + 1 ≤ n := by omega
      have hroom : (i + 1) * size ≤ n * size := Nat.mul_le_mul_right size hbefore
      rw [Nat.succ_mul] at hroom
      rw [read_write_of_disjoint (by omega)]
      exact ih (by omega)

/-! ### Numbers -/

/-- A number in `n` bytes, the low byte first. -/
def toBytes : Nat → Nat → List UInt8
  | 0, _ => []
  | n + 1, x => UInt8.ofNat (x % 256) :: toBytes n (x / 256)

/-- The number that some bytes stand for. -/
def ofBytes : List UInt8 → Nat
  | [] => 0
  | b :: bs => b.toNat + 256 * ofBytes bs

@[simp] theorem length_toBytes (n x : Nat) : (toBytes n x).length = n := by
  induction n generalizing x with
  | zero => rfl
  | succ n ih => simp [toBytes, ih]

/-- A number that fits comes back. -/
theorem ofBytes_toBytes {n x : Nat} (h : x < 256 ^ n) : ofBytes (toBytes n x) = x := by
  induction n generalizing x with
  | zero =>
    have hx : x = 0 := by simpa using h
    rw [hx]
    rfl
  | succ n ih =>
    rw [Nat.pow_succ] at h
    have hdiv : x / 256 < 256 ^ n := Nat.div_lt_of_lt_mul (by omega)
    have hbyte : (UInt8.ofNat (x % 256)).toNat = x % 256 := by
      rw [UInt8.toNat_ofNat']
      omega
    rw [toBytes, ofBytes, ih hdiv, hbyte]
    omega

/-- The number that zeros stand for. -/
theorem ofBytes_replicate_zero (n : Nat) : ofBytes (List.replicate n 0) = 0 := by
  induction n with
  | zero => rfl
  | succ n ih =>
    rw [List.replicate_succ, ofBytes, ih]
    rfl

theorem ofBytes_lt (bs : List UInt8) : ofBytes bs < 256 ^ bs.length := by
  induction bs with
  | nil => decide
  | cons b bs ih =>
    have hb : b.toNat < 256 := b.toNat_lt
    rw [ofBytes, List.length_cons, Nat.pow_succ]
    omega

end Memory

end Lldpad.Lib
