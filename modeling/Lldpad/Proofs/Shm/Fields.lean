import Lldpad.Shm.Table

/-!
# `Lldpad.Proofs.Shm.Fields`: reading and writing the table

* `getField_setField_self`, `getField_setField_of_ne`: a field is read back, and every other
  field of every entry is as it was.
* `numEntriesWord_setNumEntriesWord`: the same for the word of the version and the count.
* `strEq_iff`: `strcmp` compares with the string that a field holds.
* `upgrade_fields`: the upgrade keeps every field of every entry.
-/

namespace Lldpad.Shm

open Lldpad.Lib

/-! ### Fields -/

theorem maxLldpadShmEntries_eq : maxLldpadShmEntries = 36 := by decide

theorem field_disjoint {f g : Field} (h : f ≠ g) :
    f.offset + f.size ≤ g.offset ∨ g.offset + g.size ≤ f.offset := by
  cases f <;> cases g <;> first | exact absurd rfl h | decide

theorem field_le (f : Field) : f.offset + f.size ≤ Layout.ver1.entrySize := by
  cases f <;> decide

theorem ent_ver1 (i : Nat) : ent .ver1 i = 8 + i * 108 := rfl

theorem ent_ver0 (i : Nat) : ent .ver0 i = 8 + i * 104 := rfl

variable {m : Memory} {i j : Nat} {f g : Field} {xs : Bytes}

@[simp] theorem length_getField (v : Layout) : (getField v m i f).length = f.size :=
  Memory.length_read ..

theorem getField_setField_self (hlen : xs.length = f.size) :
    getField .ver1 (setField m i f xs) i f = xs := by
  rw [getField, setField, ← hlen]
  exact Memory.read_write_self ..

theorem setField_of_outside {k : Nat} (hlen : xs.length ≤ f.size)
    (h : k < ent .ver1 i + f.offset ∨ ent .ver1 i + f.offset + f.size ≤ k) :
    setField m i f xs k = m k :=
  Memory.write_of_outside (by omega)

theorem getField_setField_of_ne (hlen : xs.length ≤ f.size) (h : j ≠ i ∨ g ≠ f) :
    getField .ver1 (setField m i f xs) j g = getField .ver1 m j g := by
  refine Memory.read_write_of_disjoint ?_
  have hf := field_le f
  have hg := field_le g
  have hsize : Layout.ver1.entrySize = 108 := rfl
  rw [ent_ver1, ent_ver1]
  rcases Nat.lt_trichotomy j i with hlt | rfl | hlt
  · omega
  · rcases h with h | h
    · exact absurd rfl h
    · rcases field_disjoint h with hd | hd <;> omega
  · omega

/-! ### The word of the version and the count -/

theorem numEntriesWord_setField : numEntriesWord (setField m i f xs) = numEntriesWord m := by
  have hbefore : 4 + 4 ≤ ent .ver1 i + f.offset := by
    rw [ent_ver1]
    omega
  rw [numEntriesWord, setField, Memory.read_write_of_disjoint (.inl hbefore)]
  rfl

theorem numEntriesWord_setNumEntriesWord {word : Nat} (h : word < 2 ^ 32) :
    numEntriesWord (setNumEntriesWord m word) = word := by
  have hself := Memory.read_write_self m 4 (Memory.toBytes 4 word)
  rw [Memory.length_toBytes] at hself
  rw [numEntriesWord, setNumEntriesWord, hself, Memory.ofBytes_toBytes (by omega)]

theorem getField_setNumEntriesWord (v : Layout) (word : Nat) :
    getField v (setNumEntriesWord m word) i f = getField v m i f := by
  refine Memory.read_write_of_disjoint (.inr ?_)
  rw [Memory.length_toBytes, ent]
  omega

theorem setNumEntriesWord_of_outside {k word : Nat} (h : 8 ≤ k) :
    setNumEntriesWord m word k = m k :=
  Memory.write_of_outside (.inr (by rw [Memory.length_toBytes]; omega))

theorem numEntriesWord_lt (m : Memory) : numEntriesWord m < 2 ^ 32 := by
  have hlt := Memory.ofBytes_lt (m.read 4 4)
  rw [Memory.length_read] at hlt
  exact Nat.lt_of_lt_of_eq hlt (by decide)

theorem numEntries_eq (m : Memory) : numEntries m = numEntriesWord m % 65536 :=
  Nat.and_two_pow_sub_one_eq_mod (numEntriesWord m) 16

theorem version_eq (m : Memory) : version m = numEntriesWord m / 65536 := by
  have hlt := numEntriesWord_lt m
  have hmask : 0xffff0000 >>> 16 = 2 ^ 16 - 1 := by decide
  rw [version, Nat.shiftRight_and_distrib, hmask, Nat.and_two_pow_sub_one_eq_mod,
    Nat.shiftRight_eq_div_pow]
  omega

theorem word_of_version {n : Nat} (hv : version m = 1) (hn : numEntries m = n) :
    numEntriesWord m = 65536 + n := by
  rw [version_eq] at hv
  rw [numEntries_eq] at hn
  omega

theorem version_of_word {n : Nat} (h : numEntriesWord m = 65536 + n) (hn : n < 65536) :
    version m = 1 ∧ numEntries m = n := by
  rw [version_eq, numEntries_eq, h]
  omega

/-! ### Names -/

/-- The string in the name field of an entry. -/
def nameAt (v : Layout) (m : Memory) (i : Nat) : Bytes :=
  (getField v m i .ifname).takeWhile (· ≠ 0)

theorem append_zero_of_takeWhile {s raw : Bytes} (h : raw.takeWhile (· ≠ 0) = s)
    (hlen : s.length < raw.length) : ∃ rest, raw = s ++ 0 :: rest := by
  have hsplit := List.takeWhile_append_dropWhile (p := fun b : UInt8 => b ≠ 0) (l := raw)
  rw [h] at hsplit
  cases hrest : raw.dropWhile (· ≠ 0) with
  | nil =>
    rw [hrest, List.append_nil] at hsplit
    rw [hsplit] at hlen
    exact absurd hlen (Nat.lt_irrefl _)
  | cons b rest =>
    have hb : b = 0 := by
      have hfirst := List.head?_dropWhile_not (fun b : UInt8 => decide (b ≠ 0)) raw
      rw [hrest] at hfirst
      simpa using hfirst
    exact ⟨rest, by rw [← hsplit, hrest, hb]⟩

theorem takeWhile_append_zero {s : Bytes} (hs : 0 ∉ s) (rest : Bytes) :
    (s ++ 0 :: rest).takeWhile (· ≠ 0) = s := by
  induction s with
  | nil => rfl
  | cons c cs ih =>
    have hc : c ≠ 0 := fun h => hs (by simp [h])
    have hcs : 0 ∉ cs := fun h => hs (List.mem_cons_of_mem _ h)
    rw [List.cons_append, List.takeWhile_cons_of_pos (by simp [hc]), ih hcs]

theorem strEq_iff_read (s : Bytes) :
    ∀ addr : Nat, strEq m addr s = true ↔ m.read addr (s.length + 1) = s ++ [0] := by
  induction s with
  | nil =>
    intro addr
    simp [strEq, Memory.read]
  | cons c cs ih =>
    intro addr
    rw [strEq, Bool.and_eq_true, ih, List.length_cons, Memory.read_succ m addr (cs.length + 1),
      List.cons_append, List.cons_eq_cons, decide_eq_true_iff]

theorem strEq_iff {v : Layout} (hterm : (nameAt v m i).length ≤ ifNamSiz) {s : Bytes}
    (hs : 0 ∉ s) : strEq m (ent v i) s = true ↔ nameAt v m i = s := by
  have hraw : (getField v m i .ifname).length = 17 := length_getField v
  have hfield : getField v m i .ifname = m.read (ent v i) 17 := rfl
  rw [strEq_iff_read]
  obtain ⟨rest, hrest⟩ := append_zero_of_takeWhile (s := nameAt v m i) rfl (by
    rw [hraw]
    exact Nat.lt_succ_of_le hterm)
  constructor
  · intro h
    by_cases hshort : s.length + 1 ≤ 17
    · have htake := Memory.take_read m (ent v i) hshort
      rw [h, ← hfield] at htake
      have hsplit := List.take_append_drop (s.length + 1) (getField v m i .ifname)
      rw [htake, List.append_assoc] at hsplit
      rw [nameAt, ← hsplit]
      exact takeWhile_append_zero hs _
    · -- the string is longer than the field, which has a zero in it
      have htake := Memory.take_read m (ent v i) (Nat.le_of_not_le hshort)
      rw [h, ← hfield, List.take_append_of_le_length (by omega)] at htake
      have hzero : (0 : UInt8) ∈ s.take 17 := by
        rw [htake, hrest]
        simp
      exact absurd (List.mem_of_mem_take hzero) hs
  · rintro rfl
    have hshort : (nameAt v m i).length + 1 ≤ 17 := Nat.succ_le_succ hterm
    rw [← Memory.take_read m (ent v i) hshort, ← hfield]
    generalize nameAt v m i = s at hrest
    rw [hrest, List.take_length_add_append]
    rfl

/-! ### The upgrade -/

variable {stack : Memory}

theorem length_newEnt (m stack : Memory) (i : Nat) : (newEnt m stack i).length = 108 := by
  simp [newEnt, Field.size, ifNamSiz, shmMsapLen, sizeofDcbxState]

theorem newEnt_field (f : Field) :
    ((newEnt m stack i).drop f.offset).take f.size
      = if f = .dcbxMode then [0] else getField .ver0 m i f := by
  have h₁ : (getField .ver0 m i .ifname).length = 17 := length_getField _
  have h₂ : (getField .ver0 m i .chassisid).length = 32 := length_getField _
  have h₃ : (getField .ver0 m i .chassisidLen).length = 4 := length_getField _
  have h₄ : (getField .ver0 m i .portid).length = 32 := length_getField _
  have h₅ : (getField .ver0 m i .portidLen).length = 4 := length_getField _
  have h₆ : (getField .ver0 m i .st).length = 12 := length_getField _
  have h₇ : (stack.read (i * 108 + 49) 3).length = 3 := Memory.length_read ..
  unfold newEnt
  cases f <;> simp (disch := omega) [Field.offset, Field.size, List.drop_append,
    List.drop_of_length_le, h₁, h₂, h₃, h₄, h₅, h₆, h₇, ifNamSiz, shmMsapLen, sizeofDcbxState]

theorem upgrade_word {n : Nat} (h : n ≤ maxLldpadShmEntries) :
    (n &&& 0xffff ||| 1 <<< 16) = 65536 + n := by
  have hall : ∀ n < 37, (n &&& 0xffff ||| 1 <<< 16) = 65536 + n := by decide
  exact hall n (by rw [maxLldpadShmEntries_eq] at h; omega)

/-- What the upgrade of a table with `n` entries makes of the memory: every field comes from
the old entry, and behind the entries nothing changes. -/
theorem upgrade_fields {n : Nat} (h : n ≤ maxLldpadShmEntries) :
    numEntriesWord (lldpadShmVer0ToVer1 stack m n) = 65536 + n ∧
      (∀ i < n, ∀ f, getField .ver1 (lldpadShmVer0ToVer1 stack m n) i f
        = if f = .dcbxMode then [0] else getField .ver0 m i f) ∧
      ∀ k, ent .ver1 n ≤ k → lldpadShmVer0ToVer1 stack m n k = m k := by
  have hmax := maxLldpadShmEntries_eq
  have hword := upgrade_word h
  have hblock : ∀ w i, newEnt (setNumEntriesWord m w) stack i = newEnt m stack i := by
    intro w i
    simp only [newEnt, getField_setNumEntriesWord]
  have heq : lldpadShmVer0ToVer1 stack m n
      = (setNumEntriesWord m (65536 + n)).writeBlocks 8 108 (newEnt m stack) n := by
    rw [lldpadShmVer0ToVer1, if_neg (by omega), hword]
    congr 1
    exact funext (hblock _)
  rw [heq]
  refine ⟨?_, ?_, ?_⟩
  · have hbefore : ((setNumEntriesWord m (65536 + n)).writeBlocks 8 108 (newEnt m stack) n).read 4 4
        = (setNumEntriesWord m (65536 + n)).read 4 4 :=
      Memory.read_congr fun k _ hk => Memory.writeBlocks_of_outside (length_newEnt m stack)
        (.inl (by omega))
    rw [numEntriesWord, hbefore]
    exact numEntriesWord_setNumEntriesWord (by omega)
  · intro i hi f
    have hread : ((setNumEntriesWord m (65536 + n)).writeBlocks 8 108 (newEnt m stack) n).read
        (8 + i * 108) 108 = newEnt m stack i := Memory.read_writeBlocks (length_newEnt m stack) hi
    have hle : f.offset + f.size ≤ 108 := field_le f
    rw [getField, ent_ver1, ← Memory.take_drop_read _ _ hle, hread]
    exact newEnt_field f
  · intro k hk
    rw [ent_ver1] at hk
    rw [Memory.writeBlocks_of_outside (length_newEnt m stack) (.inr (by omega))]
    exact setNumEntriesWord_of_outside (by omega)

end Lldpad.Shm
