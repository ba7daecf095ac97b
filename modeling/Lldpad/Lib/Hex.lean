import Lldpad.Lib.CString
import Mathlib.Tactic.IntervalCases

/-!
# `Lldpad.Lib.Hex`: numbers in hexadecimal text

`hexField` is `%0Nx` of `printf`: a minimal width, so a large number takes more digits.
`hexstr2bin` reads a fixed number of bytes, and leaves what it cannot read as it was. `hexNat` is
such a read into an integer that is in network order.

* `hexNat_hexField`: a number that fits the width is read back.
* `hexNat_lt`: what is read fits the width, whatever the text.
* `length_hexField`: a number that fits the width has that width, another one has more digits.
-/

namespace Lldpad.Lib

/-! ### Printing -/

/-- `%0Nx` of `printf`, where `N` is `width` -/
def hexField (width n : Nat) : CStr :=
  List.replicate (width - (Nat.toDigits 16 n).length) '0' ++ Nat.toDigits 16 n

/-- The digits of a number in a fixed width -/
def hexFixed : Nat → Nat → CStr
  | 0, _ => []
  | width + 1, n => hexFixed width (n / 16) ++ [Nat.digitChar (n % 16)]

theorem length_hexFixed (width : Nat) : ∀ n, (hexFixed width n).length = width := by
  induction width with
  | zero => intro n; rfl
  | succ width ih =>
    intro n
    rw [hexFixed, List.length_append, ih]
    rfl

theorem hexFixed_zero (width : Nat) : hexFixed width 0 = List.replicate width '0' := by
  induction width with
  | zero => rfl
  | succ width ih =>
    rw [hexFixed, ih, List.replicate_succ']
    rfl

/-- A number that fits the width has just that width. -/
theorem hexField_eq_hexFixed (width : Nat) : ∀ n, 0 < width → n < 16 ^ width →
    hexField width n = hexFixed width n := by
  induction width with
  | zero => intro n h; exact absurd h (Nat.lt_irrefl 0)
  | succ width ih =>
    intro n _ hlt
    by_cases hn : n < 16
    · -- one digit, and zeros before it
      have hdiv : n / 16 = 0 := Nat.div_eq_of_lt hn
      have hmod : n % 16 = n := Nat.mod_eq_of_lt hn
      rw [hexField, Nat.toDigits_of_lt_base hn, hexFixed, hdiv, hmod, hexFixed_zero]
      rfl
    · -- the last digit, behind the digits of the quotient
      have hpow : 16 ^ (width + 1) = 16 ^ width * 16 := Nat.pow_succ ..
      have hdiv : n / 16 < 16 ^ width := by omega
      have hwidth : 0 < width := by
        rcases Nat.eq_zero_or_pos width with rfl | hpos
        · omega
        · exact hpos
      rw [hexFixed, ← ih (n / 16) hwidth hdiv, hexField, hexField,
        Nat.toDigits_of_base_le (by decide) (by omega), List.length_append, List.length_singleton,
        Nat.add_sub_add_right, List.append_assoc]

/-- The width of a printed number is the width that was asked for, if it fits. -/
theorem length_hexField {width n : Nat} (hwidth : 0 < width) (h : n < 16 ^ width) :
    (hexField width n).length = width := by
  rw [hexField_eq_hexFixed width n hwidth h, length_hexFixed]

/-! ### Reading -/

def hex2num (c : Char) : Option Nat := digitValue 16 c

def hex2byte (a b : Char) : Option UInt8 := do
  let a ← hex2num a
  let b ← hex2num b
  pure (UInt8.ofNat (16 * a + b))

/-- `hexstr2bin`, over the bytes that are in the buffer. It stops where there are no two digits,
and the rest stays as it is. -/
def hexstr2bin : CStr → List UInt8 → List UInt8
  | a :: b :: hex, o :: old =>
    match hex2byte a b with
    | some x => x :: hexstr2bin hex old
    | none => o :: old
  | _, old => old

/-- The bytes of a number, the lowest first -/
def leBytes : Nat → Nat → List UInt8
  | 0, _ => []
  | k + 1, n => UInt8.ofNat (n % 256) :: leBytes k (n / 256)

/-- The number of some bytes, the highest first: what `ntohs` and `ntohl` make of them -/
def beNat (bytes : List UInt8) : Nat := bytes.foldl (fun acc b => 256 * acc + b.toNat) 0

/-- `hexstr2bin` into an integer of `k` bytes that had the value `old`, and its `ntohs` or
`ntohl` -/
def hexNat (k : Nat) (hex : CStr) (old : Nat) : Nat := beNat (hexstr2bin hex (leBytes k old))

theorem length_leBytes (k : Nat) : ∀ n, (leBytes k n).length = k := by
  induction k with
  | zero => intro n; rfl
  | succ k ih => intro n; rw [leBytes, List.length_cons, ih]

theorem length_hexstr2bin (old : List UInt8) :
    ∀ hex, (hexstr2bin hex old).length = old.length := by
  induction old with
  | nil =>
    intro hex
    rw [hexstr2bin]
    nofun
  | cons o old ih =>
    intro hex
    match hex with
    | [] => rfl
    | [_] => rfl
    | a :: b :: hex =>
      rw [hexstr2bin]
      cases hex2byte a b with
      | none => rfl
      | some x => exact congrArg Nat.succ (ih hex)

/-- One more byte at the end -/
theorem beNat_snoc (bytes : List UInt8) (b : UInt8) :
    beNat (bytes ++ [b]) = 256 * beNat bytes + b.toNat := by
  unfold beNat
  rw [List.foldl_append]
  rfl

/-- The fold from a number on -/
theorem foldl_beNat_lt (bytes : List UInt8) : ∀ acc : Nat,
    bytes.foldl (fun acc b => 256 * acc + b.toNat) acc < 256 ^ bytes.length * (acc + 1) := by
  induction bytes with
  | nil =>
    intro acc
    simp
  | cons b bytes ih =>
    intro acc
    have hb := b.toNat_lt
    have hstep : 256 * acc + b.toNat + 1 ≤ 256 * (acc + 1) := by omega
    calc (b :: bytes).foldl (fun acc b => 256 * acc + b.toNat) acc
        < 256 ^ bytes.length * (256 * acc + b.toNat + 1) := ih (256 * acc + b.toNat)
      _ ≤ 256 ^ bytes.length * (256 * (acc + 1)) := Nat.mul_le_mul_left _ hstep
      _ = 256 ^ (b :: bytes).length * (acc + 1) := by
        rw [List.length_cons, Nat.pow_succ, Nat.mul_assoc]

theorem beNat_lt (bytes : List UInt8) : beNat bytes < 256 ^ bytes.length := by
  have h := foldl_beNat_lt bytes 0
  rw [Nat.zero_add, Nat.mul_one] at h
  exact h

/-- What is read fits the integer. -/
theorem hexNat_lt (k : Nat) (hex : CStr) (old : Nat) : hexNat k hex old < 256 ^ k := by
  have h := beNat_lt (hexstr2bin hex (leBytes k old))
  rw [length_hexstr2bin, length_leBytes] at h
  exact h

/-! ### What is printed is read back -/

theorem hex2num_digitChar {d : Nat} (h : d < 16) : hex2num (Nat.digitChar d) = some d := by
  interval_cases d <;> rfl

/-- Two digits make a byte. -/
theorem hexFixed_two (n : Nat) (hn : n < 256) :
    ∃ a b, hexFixed 2 n = [a, b] ∧ hex2byte a b = some (UInt8.ofNat n) := by
  have hhigh : n / 16 < 16 := by omega
  have hlow : n % 16 < 16 := by omega
  refine ⟨Nat.digitChar (n / 16 % 16), Nat.digitChar (n % 16), rfl, ?_⟩
  unfold hex2byte
  rw [Nat.mod_eq_of_lt hhigh, hex2num_digitChar hhigh, hex2num_digitChar hlow]
  show some (UInt8.ofNat (16 * (n / 16) + n % 16)) = _
  rw [Nat.div_add_mod]

/-- The last two digits are those of the last byte. -/
theorem hexFixed_add_two (width n : Nat) :
    hexFixed (width + 2) n = hexFixed width (n / 256) ++ hexFixed 2 (n % 256) := by
  have hdiv : n / 16 / 16 = n / 256 := Nat.div_div_eq_div_mul ..
  have hhigh : n % 256 / 16 % 16 = n / 16 % 16 := by omega
  have hlow : n % 256 % 16 = n % 16 := by omega
  simp only [hexFixed, hdiv, hhigh, hlow, List.nil_append, List.append_assoc, List.cons_append]

/-- The digits of `k` bytes are read as those bytes, and the read goes on behind them. -/
theorem hexstr2bin_hexFixed (k : Nat) : ∀ (n : Nat) (rest : CStr) (old old' : List UInt8),
    n < 256 ^ k → old.length = k → ∃ bytes, bytes.length = k ∧ beNat bytes = n ∧
      hexstr2bin (hexFixed (2 * k) n ++ rest) (old ++ old') = bytes ++ hexstr2bin rest old' := by
  induction k with
  | zero =>
    intro n rest old old' hn hold
    have hnil : old = [] := List.eq_nil_of_length_eq_zero hold
    have hzero : n = 0 := by omega
    subst hnil hzero
    exact ⟨[], rfl, rfl, rfl⟩
  | succ k ih =>
    intro n rest old old' hn hold
    -- the bytes before the last one, then the last one
    obtain ⟨o, old₀, rfl⟩ : ∃ o old₀, old = old₀ ++ [o] :=
      ⟨_, _, (List.dropLast_concat_getLast (by rintro rfl; cases hold)).symm⟩
    have hlen : old₀.length = k := by
      rw [List.length_append, List.length_singleton] at hold
      omega
    have hdiv : n / 256 < 256 ^ k := by
      rw [Nat.pow_succ] at hn
      omega
    obtain ⟨a, b, hab, hbyte⟩ := hexFixed_two (n % 256) (by omega)
    obtain ⟨bytes, hbytes, hvalue, hread⟩ :=
      ih (n / 256) (hexFixed 2 (n % 256) ++ rest) old₀ ([o] ++ old') hdiv hlen
    refine ⟨bytes ++ [UInt8.ofNat (n % 256)], ?_, ?_, ?_⟩
    · rw [List.length_append, hbytes]
      rfl
    · rw [beNat_snoc, hvalue, UInt8.toNat_ofNat', Nat.mod_eq_of_lt (by omega)]
      omega
    · rw [Nat.mul_add, Nat.mul_one, hexFixed_add_two, List.append_assoc, List.append_assoc, hread,
        hab, List.append_assoc]
      show bytes ++ hexstr2bin (a :: b :: rest) (o :: old') = _
      rw [hexstr2bin, hbyte]
      rfl

/-- A number that fits the width is read back, whatever follows it. -/
theorem hexNat_hexField {k n : Nat} (hk : 0 < k) (hn : n < 256 ^ k) (rest : CStr) (old : Nat) :
    hexNat k (hexField (2 * k) n ++ rest) old = n := by
  have hpow : (16 : Nat) ^ (2 * k) = 256 ^ k := by rw [Nat.pow_mul]
  obtain ⟨bytes, _, hvalue, hread⟩ :=
    hexstr2bin_hexFixed k n rest (leBytes k old) [] hn (length_leBytes k old)
  have hnil : hexstr2bin rest [] = [] := by
    rw [hexstr2bin]
    nofun
  unfold hexNat
  rw [hexField_eq_hexFixed (2 * k) n (by omega) (hpow ▸ hn)]
  rw [List.append_nil, hnil, List.append_nil] at hread
  rw [hread, hvalue]

end Lldpad.Lib
