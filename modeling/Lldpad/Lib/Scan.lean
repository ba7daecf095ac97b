import Lldpad.Lib.CString

/-!
# `Lldpad.Lib.Scan`: numbers and bytes that are written in a string

`strchr` cuts a string at a character. `integer` reads a number as `strtol` does, without the
bounds of a `long`: `strtol_eq` says that `strtol` gives the nearest `long`. `scanHexByte` is the
item `%02hhx` of `sscanf`, and `scanHexBytes` several of them with colons in between.

* `integer_append`: a number that was read to its end is read up to a character that cannot
  belong to it.
* `integer_decimal`, `atoi_of_integer`: a number is read as `%d` writes it, and by `atoi` too.
* `scanHexBytes_colonHex`: two digits for each byte are read as they are written.
-/

namespace Lldpad.Lib

/-! ### Cuts -/

/-- What stands before and behind the first `c` of a string -/
def strchr (c : Char) : CStr → Option (CStr × CStr)
  | [] => none
  | d :: s => if d = c then some ([], s) else (strchr c s).map fun r => (d :: r.1, r.2)

variable {c : Char} {s : CStr}

theorem strchr_eq_some {s a b : CStr} :
    strchr c s = some (a, b) ↔ s = a ++ c :: b ∧ c ∉ a := by
  induction s generalizing a with
  | nil => simp [strchr]
  | cons d s ih =>
    by_cases hd : d = c
    · subst hd
      cases a with
      | nil => simp [strchr, eq_comm]
      | cons e a => simp +contextual [strchr]
    · cases a with
      | nil => simp [strchr, hd]
      | cons e a =>
        simp only [strchr, if_neg hd, Option.map_eq_some_iff, Prod.mk.injEq, List.cons.injEq,
          Prod.exists, List.cons_append, List.mem_cons, not_or]
        constructor
        · rintro ⟨a', b', h, ⟨rfl, rfl⟩, rfl⟩
          obtain ⟨hs, hmem⟩ := ih.mp h
          exact ⟨⟨rfl, hs⟩, fun h => hd h.symm, hmem⟩
        · rintro ⟨⟨rfl, hs⟩, -, hmem⟩
          exact ⟨a, b, ih.mpr ⟨hs, hmem⟩, ⟨rfl, rfl⟩, rfl⟩

theorem strchr_eq_none : strchr c s = none ↔ c ∉ s := by
  induction s with
  | nil => simp [strchr]
  | cons d s ih =>
    by_cases hd : d = c
    · simp [strchr, hd]
    · simp [strchr, hd, ih, Ne.symm hd]

/-! ### Integers -/

/-- A sign, and what follows it -/
def readSign : CStr → Bool × CStr
  | '-' :: t => (true, t)
  | '+' :: t => (false, t)
  | t => (false, t)

/-- The integer that a string starts with, and what follows it: what `strtol` reads, without the
bounds of a `long` -/
def integer (base : Nat) (s : CStr) : Option (Int × CStr) :=
  let (negative, t) := readSign (s.dropWhile isSpace)
  let (base, t) := chooseBase base t
  let (n, rest) := readDigits base 0 t
  if rest.length = t.length then none else some (if negative then -(n : Int) else n, rest)

/-- The `long` that is nearest to an integer -/
def clampLong (n : Int) : Int := if n < longMin then longMin else if longMax < n then longMax else n

theorem strtol_eq (base : Nat) (s : CStr) :
    (strtol base s).value = ((integer base s).map fun r => clampLong r.1).getD 0 ∧
      (strtol base s).rest = ((integer base s).map Prod.snd).getD s := by
  have hread : strtol base s =
      match readSign (s.dropWhile isSpace) with
      | (negative, t) =>
        match chooseBase base t with
        | (base, t) =>
          match readDigits base 0 t with
          | (n, rest) =>
            if rest.length = t.length then { value := 0, rest := s, moved := false, range := false }
            else
              let n : Int := if negative then -n else n
              if n < longMin then { value := longMin, rest := rest, moved := true, range := true }
              else if longMax < n then
                { value := longMax, rest := rest, moved := true, range := true }
              else { value := n, rest := rest, moved := true, range := false } := rfl
  rw [hread]
  unfold integer
  dsimp only
  split
  · exact ⟨rfl, rfl⟩
  · simp only [Option.map_some, Option.getD_some, clampLong]
    split_ifs <;> exact ⟨rfl, rfl⟩

/-- A character that is no hexadecimal digit is no digit. -/
theorem digitValue_none (h : digitValue 16 c = none) (base : Nat) :
    digitValue base c = none := by
  have hle {a b : Char} (hab : a ≤ b) : a.toNat ≤ b.toNat := hab
  have hdigit : ¬('0' ≤ c ∧ c ≤ '9') := by
    intro hd
    have hhigh : c.toNat ≤ 57 := hle hd.2
    unfold digitValue at h
    rw [if_pos hd] at h
    exact absurd h (by simp; omega)
  have hlower : ¬('a' ≤ c ∧ c ≤ 'f') := by
    intro hd
    have hhigh : c.toNat ≤ 102 := hle hd.2
    unfold digitValue at h
    rw [if_neg hdigit, if_pos hd] at h
    exact absurd h (by simp; omega)
  have hupper : ¬('A' ≤ c ∧ c ≤ 'F') := by
    intro hd
    have hhigh : c.toNat ≤ 70 := hle hd.2
    unfold digitValue at h
    rw [if_neg hdigit, if_neg hlower, if_pos hd] at h
    exact absurd h (by simp; omega)
  unfold digitValue
  rw [if_neg hdigit, if_neg hlower, if_neg hupper]
  exact if_neg (Nat.lt_irrefl base)

theorem readDigits_append {base : Nat} (hc : digitValue base c = none) (t : CStr) :
    ∀ {s : CStr} {acc n : Nat}, readDigits base acc s = (n, []) →
      readDigits base acc (s ++ c :: t) = (n, c :: t) := by
  intro s
  induction s with
  | nil =>
    intro acc n h
    obtain rfl : acc = n := congrArg Prod.fst h
    simp [readDigits, hc]
  | cons d s ih =>
    intro acc n h
    rw [List.cons_append, readDigits]
    rw [readDigits] at h
    cases hd : digitValue base d with
    | none =>
      rw [hd] at h
      cases h
    | some v =>
      rw [hd] at h
      exact ih h

theorem chooseBase_ten {d : Char} (hd : d ≠ '0') (v : CStr) :
    chooseBase 0 (d :: v) = (10, d :: v) := by
  unfold chooseBase
  rw [if_pos rfl]
  split <;> simp_all

theorem chooseBase_zero (v : CStr) :
    chooseBase 0 ('0' :: v) =
      match v with
      | x :: d :: rest =>
        if (x = 'x' ∨ x = 'X') ∧ (digitValue 16 d).isSome then (16, d :: rest) else (8, '0' :: v)
      | _ => (8, '0' :: v) := by
  match v with
  | [] | [_] | _ :: _ :: _ => rfl

/-- The base of a number is not changed by a character behind it that cannot belong to it. -/
theorem chooseBase_append {base : Nat} (hc : digitValue 16 c = none)
    (hx : c ≠ 'x' ∧ c ≠ 'X') (t : CStr) (hs : s ≠ []) :
    chooseBase base (s ++ c :: t) = ((chooseBase base s).1, (chooseBase base s).2 ++ c :: t) := by
  by_cases hbase : base = 0
  · subst hbase
    cases s with
    | nil => exact absurd rfl hs
    | cons d v =>
      rw [List.cons_append]
      by_cases hd : d = '0'
      · subst hd
        rw [chooseBase_zero, chooseBase_zero]
        -- behind the zero: nothing, one character, or what may be an `x` and a digit
        match v with
        | [] => cases t <;> simp [hx]
        | [_] => simp [hc]
        | x :: d :: rest =>
          dsimp only [List.cons_append]
          split_ifs <;> rfl
      · rw [chooseBase_ten hd, chooseBase_ten hd]
        rfl
  · unfold chooseBase
    rw [if_neg hbase, if_neg hbase]

theorem readSign_append (hs : s ≠ []) (t : CStr) :
    readSign (s ++ t) = ((readSign s).1, (readSign s).2 ++ t) := by
  cases s with
  | nil => exact absurd rfl hs
  | cons d s =>
    rw [List.cons_append]
    unfold readSign
    split <;> simp_all

theorem integer_eq_some {base : Nat} {s rest : CStr} {n : Int} :
    integer base s = some (n, rest) ↔ ∃ negative t b u m,
      readSign (s.dropWhile isSpace) = (negative, t) ∧ chooseBase base t = (b, u) ∧
        readDigits b 0 u = (m, rest) ∧ rest.length ≠ u.length ∧
        n = if negative then -(m : Int) else m := by
  unfold integer
  obtain ⟨negative, t, hsign⟩ : ∃ negative t, readSign (s.dropWhile isSpace) = (negative, t) :=
    ⟨_, _, rfl⟩
  obtain ⟨b, u, hbase⟩ : ∃ b u, chooseBase base t = (b, u) := ⟨_, _, rfl⟩
  obtain ⟨m, v, hread⟩ : ∃ m v, readDigits b 0 u = (m, v) := ⟨_, _, rfl⟩
  simp only [hsign, hbase, hread]
  constructor
  · intro h
    split_ifs at h with hlen hneg
    · cases h
      exact ⟨true, t, b, u, m, by rw [hneg], hbase, hread, hlen, rfl⟩
    · cases h
      exact ⟨false, t, b, u, m, by rw [Bool.eq_false_iff.mpr hneg], hbase, hread, hlen, rfl⟩
  · rintro ⟨negative', t', b', u', m', hsign', hbase', hread', hlen, rfl⟩
    cases hsign'
    cases hbase.symm.trans hbase'
    cases hread.symm.trans hread'
    rw [if_neg hlen]

/-- A number that was read to its end is read up to a character that cannot belong to it. -/
theorem integer_append {base : Nat} {n : Int} (hc : digitValue 16 c = none)
    (hx : c ≠ 'x' ∧ c ≠ 'X') (t : CStr) (h : integer base s = some (n, [])) :
    integer base (s ++ c :: t) = some (n, c :: t) := by
  obtain ⟨negative, v, b, u, m, hsign, hbase, hread, hlen, hn⟩ := integer_eq_some.mp h
  -- A digit was read, so that there is something behind the blanks and the sign.
  have hv : v ≠ [] := by
    rintro rfl
    have hu : u = [] := by
      unfold chooseBase at hbase
      split_ifs at hbase <;> cases hbase <;> rfl
    subst hu
    exact hlen rfl
  have hblank : s.dropWhile isSpace ≠ [] := by
    intro hnil
    rw [hnil] at hsign
    cases hsign
    exact hv rfl
  have hdrop : (s ++ c :: t).dropWhile isSpace = s.dropWhile isSpace ++ c :: t := by
    rw [List.dropWhile_append]
    simp [hblank]
  refine integer_eq_some.mpr ⟨negative, v ++ c :: t, b, u ++ c :: t, m, ?_, ?_, ?_, ?_, hn⟩
  · rw [hdrop, readSign_append hblank, hsign]
  · rw [chooseBase_append hc hx t hv, hbase]
  · exact readDigits_append (digitValue_none hc b) t hread
  · rw [List.length_append]
    have hpos : u.length ≠ 0 := fun h => hlen h.symm
    omega

/-- A number is read as `%d` writes it. -/
theorem integer_decimal (n : Int) : integer 10 (decimal n) = some (n, []) := by
  obtain ⟨c, s, hs, hdigit, -⟩ := exists_toDigits n.natAbs
  have hread : readDigits 10 0 (Nat.toDigits 10 n.natAbs) = (n.natAbs, []) := by
    rw [readDigits_ten isDigit_of_mem_toDigits]
    simp
  have hpos : ([] : CStr).length ≠ (Nat.toDigits 10 n.natAbs).length := by
    rw [hs]
    simp
  refine integer_eq_some.mpr ⟨decide (n < 0), Nat.toDigits 10 n.natAbs, 10, _, _, ?_, rfl, hread,
    hpos, ?_⟩
  · unfold decimal
    split
    · next hneg => simp [isSpace, readSign, hneg]
    · next hneg =>
      have hsign : c ≠ '-' ∧ c ≠ '+' := by
        constructor <;> rintro rfl <;> cases hdigit
      rw [hs, List.dropWhile_cons_of_neg (by simp [isSpace_of_isDigit hdigit])]
      unfold readSign
      split <;> simp_all
  · by_cases hneg : n < 0
    · rw [if_pos (decide_eq_true hneg)]
      omega
    · rw [if_neg (by simpa using hneg)]
      omega

/-- What can neither be before a number nor in it is not in a text that is a number. -/
theorem not_mem_of_integer (hspace : isSpace c = false) (hsign : c ≠ '-' ∧ c ≠ '+')
    (hc : digitValue 10 c = none) {n : Int} (h : integer 10 s = some (n, [])) :
    c ∉ s := by
  obtain ⟨negative, t, b, u, m, hs, hbase, hread, -, -⟩ := integer_eq_some.mp h
  cases hbase
  -- every character is read as a digit
  have hdigits : ∀ (v : CStr) (acc : Nat), readDigits 10 acc v = (m, []) → c ∉ v := by
    intro v
    induction v with
    | nil => simp
    | cons d v ih =>
      intro acc hv
      rw [readDigits] at hv
      cases hd : digitValue 10 d with
      | none =>
        rw [hd] at hv
        cases hv
      | some x =>
        rw [hd] at hv
        intro hmem
        rcases List.mem_cons.mp hmem with rfl | hmem
        · cases hc.symm.trans hd
        · exact ih _ hv hmem
  intro hmem
  rw [← List.takeWhile_append_dropWhile (p := isSpace) (l := s), List.mem_append] at hmem
  rcases hmem with hmem | hmem
  · have hblank := List.mem_takeWhile_imp hmem
    simp [hspace] at hblank
  · have ht : c ∈ t := by
      generalize s.dropWhile isSpace = v at hs hmem
      unfold readSign at hs
      split at hs <;> cases hs <;> simp_all
    exact hdigits t 0 hread ht

/-- `atoi` reads a number that is an `int` as it is. -/
theorem atoi_of_integer {n : Int} (h : integer 10 s = some (n, []))
    (hn : -(2 ^ 31) ≤ n ∧ n < 2 ^ 31) : atoi s = n := by
  have hvalue := (strtol_eq 10 s).1
  rw [h] at hvalue
  have hclamp : clampLong n = n := by
    unfold clampLong longMin longMax
    rw [if_neg (by omega), if_neg (by omega)]
  unfold atoi toInt32
  rw [hvalue]
  show (clampLong n).bmod (2 ^ 32) = n
  rw [hclamp]
  exact Int.bmod_eq_of_le (by omega) (by omega)

/-! ### Bytes of two hexadecimal digits -/

/-- The item `%02hhx` of `sscanf`: a sign counts for the two characters, and `0x` is not yet a
number. -/
def scanHexByte (s : CStr) : Option (UInt8 × CStr) :=
  let t := s.dropWhile isSpace
  let (negative, u) := readSign t
  let width := 2 - (t.length - u.length)
  let field := u.take width
  let (n, left) := readDigits 16 0 field
  if left.length = field.length ∨ field = ['0', 'x'] ∨ field = ['0', 'X'] then none
  else some (UInt8.ofInt (if negative then -(n : Int) else n), left ++ u.drop width)

/-- Several items `%02hhx` with colons in between -/
def scanHexBytes : Nat → CStr → Option (List UInt8)
  | 0, _ => some []
  | n + 1, s => do
    let (b, rest) ← scanHexByte s
    if n = 0 then some [b]
    else
      match rest with
      | ':' :: rest => (scanHexBytes n rest).map (b :: ·)
      | _ => none

/-- Bytes that are written with two digits each and colons in between -/
def colonHex : Nat → CStr → Option (List UInt8)
  | n + 1, a :: b :: rest => do
    let high ← digitValue 16 a
    let low ← digitValue 16 b
    if n = 0 then
      if rest = [] then some [UInt8.ofNat (16 * high + low)] else none
    else
      match rest with
      | ':' :: rest => (colonHex n rest).map (UInt8.ofNat (16 * high + low) :: ·)
      | _ => none
  | _, _ => none

theorem zero_le_of_digitValue {a : Char} {v : Nat} (h : digitValue 16 a = some v) : '0' ≤ a := by
  have htrans {c : Char} (hc : '0' ≤ c) (hle : c ≤ a) : '0' ≤ a := Char.le_trans hc hle
  unfold digitValue at h
  split_ifs at h with hdigit hlower hupper
  · exact hdigit.1
  · exact htrans (by decide) hlower.1
  · exact htrans (by decide) hupper.1
  · simp at h

/-- A digit is neither a blank nor a sign. -/
theorem readSign_digit {a : Char} {v : Nat} (h : digitValue 16 a = some v) (s : CStr) :
    (a :: s).dropWhile isSpace = a :: s ∧ readSign (a :: s) = (false, a :: s) := by
  have hle := zero_le_of_digitValue h
  have hspace : isSpace a = false := by
    have hblank : a ≠ ' ' := fun hc => absurd (hc ▸ hle) (by decide)
    have hhigh : ¬a ≤ '\r' := fun hc => absurd (Char.le_trans hle hc) (by decide)
    simp [isSpace, hblank, hhigh]
  have hminus : a ≠ '-' := fun hc => absurd (hc ▸ hle) (by decide)
  have hplus : a ≠ '+' := fun hc => absurd (hc ▸ hle) (by decide)
  refine ⟨List.dropWhile_cons_of_neg (by simp [hspace]), ?_⟩
  unfold readSign
  split <;> simp_all

theorem ofInt_natCast (n : Nat) : UInt8.ofInt n = UInt8.ofNat n := by
  refine UInt8.toNat_inj.mp ?_
  simp only [UInt8.ofInt, UInt8.toNat_ofNat']
  omega

theorem scanHexByte_digits {a b : Char} {high low : Nat} (ha : digitValue 16 a = some high)
    (hb : digitValue 16 b = some low) (rest : CStr) :
    scanHexByte (a :: b :: rest) = some (UInt8.ofNat (16 * high + low), rest) := by
  obtain ⟨hspace, hsign⟩ := readSign_digit ha (b :: rest)
  have hread : readDigits 16 0 [a, b] = (16 * high + low, []) := by
    simp [readDigits, ha, hb]
  have hx : [a, b] ≠ ['0', 'x'] ∧ [a, b] ≠ ['0', 'X'] := by
    constructor <;> rintro ⟨-, rfl⟩ <;> cases hb
  unfold scanHexByte
  rw [hspace]
  simp only [hsign, Nat.sub_self, Nat.sub_zero, List.take_succ_cons, List.take_zero, hread,
    List.drop_succ_cons, List.drop_zero]
  rw [if_neg (by simp [hx.1, hx.2]), if_neg Bool.false_ne_true, List.nil_append]
  rw [ofInt_natCast]

/-- Bytes are read as they are written. -/
theorem scanHexBytes_colonHex {n : Nat} {bytes : List UInt8}
    (h : colonHex n s = some bytes) : scanHexBytes n s = some bytes := by
  induction n generalizing s bytes with
  | zero => simp [colonHex] at h
  | succ n ih =>
    match s with
    | [] | [_] => simp [colonHex] at h
    | a :: b :: rest =>
      simp only [colonHex, Option.bind_eq_bind, Option.bind_eq_some_iff] at h
      obtain ⟨high, ha, low, hb, h⟩ := h
      simp only [scanHexBytes, scanHexByte_digits ha hb, Option.bind_eq_bind, Option.bind_some]
      split_ifs at h ⊢ with hzero hrest
      · exact h
      · split at h
        · obtain ⟨behind, hbehind, rfl⟩ := Option.map_eq_some_iff.mp h
          simp only [ih hbehind, Option.map_some]
        · cases h

end Lldpad.Lib
