import Mathlib.Algebra.Ring.Int.Defs
import Mathlib.Algebra.Ring.Nat
import Mathlib.Data.List.TakeWhile
import Mathlib.Tactic.Common

/-!
# `Lldpad.Lib.CString`: C strings and the numbers in them

`CStr` is a C string. `tokens` is what a loop of `strtok` takes apart, `strtol` and `atoi` read
a number from the start of a string, and `decimal` and `padded` are `%d` and `%Nu` of `printf`.

* `tokens_append`, `tokens_last`: the tokens of strings that are joined with the separator.
* `strtol_padded`: what `%Nu` prints is read back, in base ten and in the base that the text
  itself chooses.
* `length_decimal_le_iff`: how many characters an integer takes.
-/

namespace Lldpad.Lib

/-- A C string: its characters up to the NUL -/
abbrev CStr := List Char

/-- The characters of a text as bytes -/
def textBytes (text : CStr) : List UInt8 := text.map fun c => UInt8.ofNat c.toNat

/-! ### Numbers -/

/-- A 32-bit `int` of two's complement -/
def toInt32 (n : Int) : Int := n.bmod (2 ^ 32)

/-- The largest `long` -/
def longMax : Int := 2 ^ 63 - 1

/-- The smallest `long` -/
def longMin : Int := -(2 ^ 63)

variable {s : CStr} {n : Nat} {c : Char}

theorem toInt32_of_lt (h : n < 2 ^ 31) : toInt32 n = n := by
  unfold toInt32
  rw [Int.bmod_def]
  omega

def isSpace (c : Char) : Bool := c = ' ' || ('\t' ≤ c && c ≤ '\r')

/-- The value of a digit in a base of up to sixteen -/
def digitValue (base : Nat) (c : Char) : Option Nat :=
  let d :=
    if '0' ≤ c ∧ c ≤ '9' then c.toNat - '0'.toNat
    else if 'a' ≤ c ∧ c ≤ 'f' then c.toNat - 'a'.toNat + 10
    else if 'A' ≤ c ∧ c ≤ 'F' then c.toNat - 'A'.toNat + 10
    else base
  if d < base then some d else none

/-- The digits that a string starts with: their value, and what follows them -/
def readDigits (base : Nat) : Nat → CStr → Nat × CStr
  | acc, [] => (acc, [])
  | acc, c :: s =>
    match digitValue base c with
    | some d => readDigits base (base * acc + d) s
    | none => (acc, c :: s)

/-- The base of a number, and where its digits start: base 0 is the one that the text chooses. -/
def chooseBase (base : Nat) (s : CStr) : Nat × CStr :=
  if base = 0 then
    match s with
    | '0' :: x :: d :: rest =>
      if (x = 'x' ∨ x = 'X') ∧ (digitValue 16 d).isSome then (16, d :: rest) else (8, s)
    | '0' :: _ => (8, s)
    | _ => (10, s)
  else (base, s)

/-- What `strtol` says: `rest` is the string at `*end`, `moved` that a number was there, and
`range` that `errno` is `ERANGE`. -/
structure Strtol where
  value : Int
  rest : CStr
  moved : Bool
  range : Bool
  deriving DecidableEq, Repr

def strtol (base : Nat) (s : CStr) : Strtol :=
  let t := s.dropWhile isSpace
  let (negative, t) :=
    match t with
    | '-' :: t => (true, t)
    | '+' :: t => (false, t)
    | t => (false, t)
  let (base, t) := chooseBase base t
  let (n, rest) := readDigits base 0 t
  if rest.length = t.length then { value := 0, rest := s, moved := false, range := false }
  else
    let n : Int := if negative then -n else n
    if n < longMin then { value := longMin, rest := rest, moved := true, range := true }
    else if longMax < n then { value := longMax, rest := rest, moved := true, range := true }
    else { value := n, rest := rest, moved := true, range := false }

def atoi (s : CStr) : Int := toInt32 (strtol 10 s).value

/-- `%d` of `printf` -/
def decimal (n : Int) : CStr :=
  if n < 0 then '-' :: Nat.toDigits 10 n.natAbs else Nat.toDigits 10 n.natAbs

/-- `%Nu` of `printf`, where `N` is `width` -/
def padded (width n : Nat) : CStr :=
  List.replicate (width - (Nat.toDigits 10 n).length) ' ' ++ Nat.toDigits 10 n

/-! ### Tokens -/

/-- A token of `strtok`: its text, and the string behind its NUL when the buffer goes on there -/
structure Token where
  text : CStr
  behind : Option CStr
  deriving DecidableEq, Repr

/-- The string at `&token[n]`. It may lie behind the token, or behind the buffer. -/
def Token.drop (token : Token) (n : Nat) : Option CStr :=
  if n ≤ token.text.length then some (token.text.drop n)
  else token.behind.bind fun behind =>
    let n := n - (token.text.length + 1)
    if n ≤ behind.length then some (behind.drop n) else none

/-- The token that a string starts with -/
def firstToken (sep : Char) (s : CStr) : Token :=
  { text := s.takeWhile (· ≠ sep)
    behind :=
      match s.dropWhile (· ≠ sep) with
      | [] => none
      | _ :: behind => some behind }

/-- The tokens of a string from a place on, where `inside` is that the token of this place was
already taken -/
def tokensFrom (sep : Char) : Bool → CStr → List Token
  | _, [] => []
  | inside, c :: s =>
    if c = sep then tokensFrom sep false s
    else if inside then tokensFrom sep true s
    else firstToken sep (c :: s) :: tokensFrom sep true s

/-- What a loop of `strtok` takes from a string -/
def tokens (sep : Char) (s : CStr) : List Token := tokensFrom sep false s

/-! ### The tokens of strings that are joined -/

variable {sep : Char}

/-- A token that was taken is passed over. -/
theorem tokensFrom_inside (h : sep ∉ s) (rest : CStr) :
    tokensFrom sep true (s ++ rest) = tokensFrom sep true rest := by
  induction s with
  | nil => rfl
  | cons c s ih =>
    have hc : c ≠ sep := fun hc => h (hc ▸ List.mem_cons_self)
    rw [List.cons_append, tokensFrom, if_neg hc, if_pos rfl]
    exact ih fun hs => h (List.mem_cons_of_mem c hs)

theorem firstToken_append (h : sep ∉ s) (rest : CStr) :
    firstToken sep (s ++ sep :: rest) = { text := s, behind := some rest } := by
  have hall : ∀ c ∈ s, (decide (c ≠ sep)) = true := by
    intro c hc
    simpa using fun hsep : c = sep => h (hsep ▸ hc)
  unfold firstToken
  rw [List.takeWhile_append_of_pos hall, List.dropWhile_append_of_pos hall]
  simp

theorem firstToken_last (h : sep ∉ s) :
    firstToken sep s = { text := s, behind := none } := by
  have hall : ∀ c ∈ s, (decide (c ≠ sep)) = true := by
    intro c hc
    simpa using fun hsep : c = sep => h (hsep ▸ hc)
  unfold firstToken
  rw [List.takeWhile_eq_self_iff.mpr hall, List.dropWhile_eq_nil_iff.mpr hall]

/-- The first of several strings that are joined -/
theorem tokens_append (h : sep ∉ s) (hne : s ≠ []) (rest : CStr) :
    tokens sep (s ++ sep :: rest) =
      { text := s, behind := some rest } :: tokens sep rest := by
  cases s with
  | nil => exact absurd rfl hne
  | cons c s =>
    have hc : c ≠ sep := fun hc => h (hc ▸ List.mem_cons_self)
    have hs : sep ∉ s := fun hs => h (List.mem_cons_of_mem c hs)
    have hfirst := firstToken_append h rest
    unfold tokens
    rw [List.cons_append] at hfirst ⊢
    rw [tokensFrom, if_neg hc, if_neg (by decide), hfirst, tokensFrom_inside hs, tokensFrom,
      if_pos rfl]

/-- The last of several strings that are joined -/
theorem tokens_last (h : sep ∉ s) (hne : s ≠ []) :
    tokens sep s = [{ text := s, behind := none }] := by
  cases s with
  | nil => exact absurd rfl hne
  | cons c s =>
    have hc : c ≠ sep := fun hc => h (hc ▸ List.mem_cons_self)
    have hs : sep ∉ s := fun hs => h (List.mem_cons_of_mem c hs)
    have hpass := tokensFrom_inside hs []
    rw [List.append_nil] at hpass
    unfold tokens
    rw [tokensFrom, if_neg hc, if_neg (by decide), firstToken_last h, hpass]
    rfl

/-- Texts that are joined are the tokens of the whole. -/
theorem tokens_intercalate {ts : List CStr} (h : ∀ t ∈ ts, sep ∉ t ∧ t ≠ []) :
    (tokens sep ([sep].intercalate ts)).map Token.text = ts := by
  induction ts with
  | nil => rfl
  | cons t ts ih =>
    have ht := h t List.mem_cons_self
    cases ts with
    | nil => simp [tokens_last ht.1 ht.2]
    | cons u ts =>
      have hjoin : [sep].intercalate (t :: u :: ts) = t ++ sep :: [sep].intercalate (u :: ts) := by
        simp
      rw [hjoin, tokens_append ht.1 ht.2, List.map_cons]
      rw [ih fun v hv => h v (List.mem_cons_of_mem t hv)]

/-! ### What is printed is read back -/

/-- A decimal digit has the value that `Nat.ofDigitChars` gives it. -/
theorem digitValue_ten (h : c.isDigit = true) :
    digitValue 10 c = some (c.toNat - '0'.toNat) := by
  have hrange : '0' ≤ c ∧ c ≤ '9' := by
    simpa [Char.isDigit, Char.le_def] using h
  have hle : c.toNat ≤ 57 := by
    have := hrange.2
    rw [Char.le_def] at this
    exact this
  unfold digitValue
  rw [if_pos hrange]
  have hzero : '0'.toNat = 48 := rfl
  exact if_pos (by omega)

/-- A run of decimal digits is read to its end. -/
theorem readDigits_ten (h : ∀ c ∈ s, c.isDigit = true) (acc : Nat) :
    readDigits 10 acc s = (Nat.ofDigitChars 10 s acc, []) := by
  induction s generalizing acc with
  | nil => simp [readDigits]
  | cons c s ih =>
    rw [readDigits, digitValue_ten (h c List.mem_cons_self)]
    dsimp only
    rw [ih fun c' hc' => h c' (List.mem_cons_of_mem c hc'), Nat.ofDigitChars_cons]

/-- A number has digits, and its first digit is not zero unless it is the only one. -/
theorem exists_toDigits (n : Nat) : ∃ c s, Nat.toDigits 10 n = c :: s ∧ c.isDigit = true ∧
    (c = '0' → n = 0) := by
  induction n using Nat.strongRecOn with
  | _ n ih =>
    rw [Nat.toDigits_eq_if (by decide)]
    split_ifs with hn
    · refine ⟨n.digitChar, [], rfl, by simpa using hn, fun hzero => ?_⟩
      simpa using hzero
    · obtain ⟨c, s, hs, hdigit, hc⟩ := ih (n / 10) (by omega)
      refine ⟨c, s ++ [(n % 10).digitChar], by rw [hs]; rfl, hdigit, fun hzero => ?_⟩
      have hdiv := hc hzero
      omega

theorem isDigit_of_mem_toDigits : ∀ c ∈ Nat.toDigits 10 n, c.isDigit = true :=
  fun _ hc => Nat.isDigit_of_mem_toDigits (by decide) (by decide) hc

/-- A digit is no white space. -/
theorem isSpace_of_isDigit (h : c.isDigit = true) : isSpace c = false := by
  have hrange : '0' ≤ c := by
    have := h
    simp only [Char.isDigit, Bool.and_eq_true, decide_eq_true_eq] at this
    exact this.1
  have hspace : c ≠ ' ' := fun hc => absurd (hc ▸ hrange) (by decide)
  have hhigh : ¬c ≤ '\r' := fun hc => absurd (Char.le_trans hrange hc) (by decide)
  simp [isSpace, hspace, hhigh]

/-- The digits of a number are read in base ten, or in base zero. -/
theorem chooseBase_toDigits {base : Nat} (hbase : base = 10 ∨ base = 0) (n : Nat) :
    ∃ b, chooseBase base (Nat.toDigits 10 n) = (b, Nat.toDigits 10 n) ∧
      readDigits b 0 (Nat.toDigits 10 n) = (n, []) := by
  have hten : readDigits 10 0 (Nat.toDigits 10 n) = (n, []) := by
    rw [readDigits_ten isDigit_of_mem_toDigits]
    simp
  rcases hbase with rfl | rfl
  · exact ⟨10, rfl, hten⟩
  · by_cases hn : n = 0
    · -- A zero is octal, and has the same digit there.
      subst hn
      exact ⟨8, rfl, rfl⟩
    · obtain ⟨c, s, hs, -, hc⟩ := exists_toDigits n
      refine ⟨10, ?_, hten⟩
      rw [hs]
      unfold chooseBase
      rw [if_pos rfl]
      have hne : c ≠ '0' := fun hzero => hn (hc hzero)
      split <;> simp_all

theorem strtol_padded {base : Nat} (hbase : base = 10 ∨ base = 0) (width : Nat)
    (hn : n < 2 ^ 63) : strtol base (padded width n) =
      { value := n, rest := [], moved := true, range := false } := by
  obtain ⟨c, s, hs, hdigit, -⟩ := exists_toDigits n
  obtain ⟨b, hchoose, hread⟩ := chooseBase_toDigits hbase n
  have hspace : (padded width n).dropWhile isSpace = Nat.toDigits 10 n := by
    unfold padded
    rw [List.dropWhile_append_of_pos]
    · rw [hs, List.dropWhile_cons_of_neg]
      simp [isSpace_of_isDigit hdigit]
    · intro c hc
      rw [List.eq_of_mem_replicate hc]
      rfl
  have hsign : (match Nat.toDigits 10 n with
      | '-' :: t => (true, t)
      | '+' :: t => (false, t)
      | t => (false, t)) = (false, Nat.toDigits 10 n) := by
    rw [hs]
    split
    · simp_all
    · simp_all
    · rfl
  unfold strtol
  simp only [hspace, hsign, hchoose, hread]
  have hlen : ¬([] : CStr).length = (Nat.toDigits 10 n).length := by
    rw [hs]
    simp
  rw [if_neg hlen]
  have hlow : ¬(n : Int) < longMin := by
    unfold longMin
    omega
  have hhigh : ¬longMax < (n : Int) := by
    unfold longMax
    omega
  simp [hlow, hhigh]

theorem atoi_padded (width : Nat) (hn : n < 2 ^ 31) : atoi (padded width n) = n := by
  unfold atoi
  rw [strtol_padded (.inl rfl) width (by omega)]
  exact toInt32_of_lt hn

/-- A printed number has no separator in it. -/
theorem not_mem_padded (hdigit : c.isDigit = false) (hc : c ≠ ' ') (width n : Nat) :
    c ∉ padded width n := by
  intro hmem
  rcases List.mem_append.mp hmem with hmem | hmem
  · exact hc (List.eq_of_mem_replicate hmem)
  · exact Bool.noConfusion (hdigit.symm.trans (isDigit_of_mem_toDigits c hmem))

/-- A sign takes a character of its own. -/
theorem length_decimal_le_iff {n : Int} {k : Nat} :
    (decimal n).length ≤ k + 1 ↔ -(10 ^ k : Int) < n ∧ n < 10 ^ (k + 1) := by
  have hcast : ∀ j : Nat, ((10 ^ j : Nat) : Int) = 10 ^ j := fun j => Int.natCast_pow 10 j
  have hpos : ∀ j : Nat, (0 : Int) < 10 ^ j := by
    intro j
    rw [← hcast j]
    exact Int.natCast_pos.mpr (Nat.pow_pos (by decide))
  have hone := hpos k
  have hnext := hpos (k + 1)
  unfold decimal
  split
  · next hneg =>
    have hdigits : (Nat.toDigits 10 n.natAbs).length ≤ k ↔ n.natAbs < 10 ^ k := by
      cases k with
      | zero =>
        have hlen := Nat.length_toDigits_pos (b := 10) (n := n.natAbs)
        omega
      | succ k => exact Nat.length_toDigits_le_iff (by decide) (Nat.succ_pos k)
    have habs : n.natAbs < 10 ^ k ↔ -(10 ^ k : Int) < n := by
      rw [← hcast k]
      omega
    rw [List.length_cons, Nat.succ_le_succ_iff, hdigits, habs]
    constructor
    · intro h
      exact ⟨h, by omega⟩
    · exact And.left
  · next hnonneg =>
    have hdigits := Nat.length_toDigits_le_iff (n := n.natAbs) (b := 10) (by decide)
      (Nat.succ_pos k)
    have habs : n.natAbs < 10 ^ (k + 1) ↔ n < 10 ^ (k + 1) := by
      rw [← hcast (k + 1)]
      omega
    rw [hdigits, habs]
    constructor
    · intro h
      exact ⟨by omega, h⟩
    · exact And.right

theorem padded_ne_nil (width n : Nat) : padded width n ≠ [] := by
  obtain ⟨c, s, hs, -, -⟩ := exists_toDigits n
  simp [padded, hs]

end Lldpad.Lib
