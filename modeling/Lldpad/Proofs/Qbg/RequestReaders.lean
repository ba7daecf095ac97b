import Lldpad.Qbg.VdpAscii

/-!
# `Lldpad.Proofs.Qbg.RequestReaders`: the documented arguments of a VSI request

What the manual page and the comments of `vdp_ascii.c` allow as the value of a key, next to what
the reader of that key takes. `Documented` reads a number as an integer without bounds and asks
for its range. `Reads` is what the reader takes.

A reader takes more than that, and `Loose` lists what: a number that is empty or does not fit 32
bits, an error code that is no number between 0 and 255 in brackets, an identifier of dashes, a MAC
address that is not six times two digits with colons in between, a filter with nothing behind its
last dash, and OUI data without the length of its name. A manager identifier of sixteen letters and
digits is documented but not taken (`documented_iff`).
-/

namespace Lldpad.Qbg

open Lldpad.Lib
open Lldpad.Lldp (ethAlen)

/-! ### Readers that take more than they should -/

/-- The reader `strict` takes what `reader` takes, unless it is `loose`. -/
def StrictOf {β : Type} (strict reader : Option β) (loose : Prop) : Prop :=
  ∀ x, strict = some x ↔ reader = some x ∧ ¬loose

theorem StrictOf.bind {β γ : Type} {strict reader : Option β} {p q : Prop}
    {strict' reader' : β → Option γ} (h : StrictOf strict reader p)
    (h' : ∀ x, StrictOf (strict' x) (reader' x) q) :
    StrictOf (strict >>= strict') (reader >>= reader') (p ∨ q) := by
  intro y
  simp only [Option.bind_eq_bind, Option.bind_eq_some_iff, not_or]
  constructor
  · rintro ⟨x, hx, hy⟩
    obtain ⟨hx, hp⟩ := (h x).mp hx
    obtain ⟨hy, hq⟩ := (h' x y).mp hy
    exact ⟨⟨x, hx, hy⟩, hp, hq⟩
  · rintro ⟨⟨x, hx, hy⟩, hp, hq⟩
    exact ⟨x, (h x).mpr ⟨hx, hp⟩, (h' x y).mpr ⟨hy, hq⟩⟩

theorem StrictOf.map {β γ : Type} {strict reader : Option β} {p : Prop} (f : β → γ)
    (h : StrictOf strict reader p) : StrictOf (strict.map f) (reader.map f) p := by
  intro y
  simp only [Option.map_eq_some_iff]
  constructor
  · rintro ⟨x, hx, hy⟩
    obtain ⟨hx, hp⟩ := (h x).mp hx
    exact ⟨⟨x, hx, hy⟩, hp⟩
  · rintro ⟨⟨x, hx, hy⟩, hp⟩
    exact ⟨x, (h x).mpr ⟨hx, hp⟩, hy⟩

theorem StrictOf.of_iff {β : Type} {strict reader : Option β} {p q : Prop}
    (h : StrictOf strict reader p) (hpq : p ↔ q) : StrictOf strict reader q := by
  intro x
  rw [h x, hpq]

theorem strictOf_self {β : Type} (reader : Option β) : StrictOf reader reader False :=
  fun _ => ⟨fun h => ⟨h, id⟩, And.left⟩

/-! ### Numbers -/

/-- A number in its range, read without bounds -/
def numberIn (s : CStr) (min max : UInt32) : Option UInt32 :=
  match integer 0 s with
  | some (n, []) =>
    if (min.toNat : Int) ≤ n ∧ n ≤ max.toNat then some (UInt32.ofNat n.toNat) else none
  | _ => none

/-- A number that is empty or does not fit 32 bits -/
def LooseNumber (s : CStr) : Prop :=
  s = [] ∨ ∃ n, integer 0 s = some (n, []) ∧ (n < 0 ∨ 2 ^ 32 ≤ n)

theorem integer_nil (base : Nat) : integer base [] = none := by
  unfold integer
  by_cases h : base = 0 <;> simp [readSign, chooseBase, readDigits, h]

theorem ofInt_of_fits {n : Int} (h : 0 ≤ n) : UInt32.ofInt n = UInt32.ofNat n.toNat := by
  refine UInt32.toNat_inj.mp ?_
  simp only [UInt32.ofInt, UInt32.toNat_ofNat']
  omega

variable {s : CStr}

theorem getnumber_of_fits {n : Int} (hs : integer 0 s = some (n, []))
    (hn : 0 ≤ n ∧ n < 2 ^ 32) (min max : UInt32) :
    getnumber s min max = numberIn s min max := by
  obtain ⟨hvalue, hrest⟩ := strtol_eq 0 s
  rw [hs] at hvalue hrest
  have hclamp : clampLong n = n := by
    unfold clampLong longMin longMax
    rw [if_neg (by omega), if_neg (by omega)]
  simp only [Option.map_some, Option.getD_some, hclamp] at hvalue hrest
  have hsize : (UInt32.ofNat n.toNat).toNat = n.toNat := by
    rw [UInt32.toNat_ofNat']
    omega
  unfold getnumber numberIn
  simp only [hs, hvalue, hrest, ofInt_of_fits hn.1, UInt32.le_iff_toNat_le, hsize, true_and]
  have hrange : min.toNat ≤ n.toNat ∧ n.toNat ≤ max.toNat ↔
      (min.toNat : Int) ≤ n ∧ n ≤ max.toNat := by omega
  simp only [hrange]

theorem numberIn_eq_some {min max no : UInt32} (h : numberIn s min max = some no) :
    getnumber s min max = some no ∧ ¬LooseNumber s := by
  unfold numberIn at h
  split at h
  · next n hs =>
    split_ifs at h with hrange
    have hmax := max.toNat_lt
    have hn : 0 ≤ n ∧ n < 2 ^ 32 := by omega
    refine ⟨?_, ?_⟩
    · rw [getnumber_of_fits hs hn]
      unfold numberIn
      rw [hs]
      dsimp only
      rw [if_pos hrange]
      exact h
    · rintro (rfl | ⟨m, hm, hloose⟩)
      · rw [integer_nil] at hs
        cases hs
      · cases hs.symm.trans hm
        omega
  · cases h

theorem getnumber_eq_some {min max no : UInt32} (h : getnumber s min max = some no)
    (hloose : ¬LooseNumber s) : numberIn s min max = some no := by
  obtain ⟨-, hrest⟩ := strtol_eq 0 s
  have hend : (strtol 0 s).rest = [] := by
    unfold getnumber at h
    dsimp only at h
    split_ifs at h with hif
    exact hif.1
  cases hs : integer 0 s with
  | none =>
    rw [hs, hend] at hrest
    exact absurd (.inl hrest.symm) hloose
  | some r =>
    obtain ⟨n, rest⟩ := r
    rw [hs, hend] at hrest
    obtain rfl : [] = rest := hrest
    have hn : 0 ≤ n ∧ n < 2 ^ 32 := by
      by_contra hn
      exact hloose (.inr ⟨n, hs, by omega⟩)
    rw [← getnumber_of_fits hs hn]
    exact h

theorem numberIn_strict (s : CStr) (min max : UInt32) :
    StrictOf (numberIn s min max) (getnumber s min max) (LooseNumber s) :=
  fun _ => ⟨numberIn_eq_some, fun h => getnumber_eq_some h.1 h.2⟩

/-! ### Modes -/

/-- The error code behind a mode: a number between 0 and 255, and the closing bracket -/
def errorCode (behind : CStr) : Bool :=
  match strchr ']' behind with
  | some (no, []) => (numberIn no 0 255).isSome
  | _ => false

/-- The documented modes: a digit of draft 0.2, or a word with an error code in brackets or
without one -/
def modeText (s : CStr) : Bool :=
  if s.length = 1 then (modeDigit s).isSome
  else
    match strchr '[' s with
    | none => (modeWord s).isSome
    | some (word, behind) => errorCode behind && (modeWord word).isSome

/-- What `getmode` takes -/
def readsMode (s : CStr) : Bool :=
  if s.length = 1 then (modeDigit s).isSome
  else
    match strchr '[' s with
    | none => (modeWord s).isSome
    | some (word, behind) => ((strtol 0 behind).rest.head? = some ']') && (modeWord word).isSome

/-- A bracket with something else than an error code behind it -/
def LooseMode (s : CStr) : Prop :=
  s.length ≠ 1 ∧ ∃ word behind, strchr '[' s = some (word, behind) ∧ errorCode behind = false

theorem strtol_of_errorCode {behind : CStr} (h : errorCode behind = true) :
    (strtol 0 behind).rest.head? = some ']' := by
  unfold errorCode at h
  split at h
  · next no hcut =>
    obtain ⟨rfl, -⟩ := strchr_eq_some.mp hcut
    obtain ⟨v, hv⟩ := Option.isSome_iff_exists.mp h
    unfold numberIn at hv
    split at hv
    · next n hn =>
      have hread := integer_append (c := ']') (by decide) (by decide) [] hn
      rw [(strtol_eq 0 (no ++ [']'])).2, hread]
      rfl
    · cases hv
  · cases h

theorem modeText_iff : modeText s = true ↔ readsMode s = true ∧ ¬LooseMode s := by
  unfold modeText readsMode LooseMode
  by_cases hlen : s.length = 1
  · simp [hlen]
  · simp only [hlen, ne_eq, not_false_eq_true, true_and, if_false]
    cases hcut : strchr '[' s with
    | none => simp
    | some r =>
      obtain ⟨word, behind⟩ := r
      simp only [Bool.and_eq_true, Option.some.injEq, Prod.mk.injEq, decide_eq_true_eq]
      constructor
      · rintro ⟨hcode, hword⟩
        refine ⟨⟨strtol_of_errorCode hcode, hword⟩, ?_⟩
        rintro ⟨_, _, ⟨rfl, rfl⟩, hfalse⟩
        exact Bool.noConfusion (hcode.symm.trans hfalse)
      · rintro ⟨⟨-, hword⟩, hloose⟩
        refine ⟨?_, hword⟩
        by_contra hcode
        exact hloose ⟨word, behind, ⟨rfl, rfl⟩, Bool.eq_false_iff.mpr hcode⟩

/-! ### Identifiers -/

/-- What `vdp_str2uuid` takes -/
def readsUuid (s : CStr) : Prop := (vdpStr2uuid (.zero 16) s).2 = 0

instance (s : CStr) : Decidable (readsUuid s) := inferInstanceAs (Decidable (_ = _))

theorem vdpStr2uuid_eq_zero {old : Octets 16} :
    (vdpStr2uuid old s).2 = 0 ↔ readsUuid s := by
  unfold readsUuid vdpStr2uuid
  split_ifs <;> rfl

/-- The documented UUIDs: hexadecimal digits with dashes in between, for at most sixteen bytes -/
def UuidText (s : CStr) : Prop := readsUuid s ∧ ∃ c ∈ s, c ≠ '-'

/-- Letters and digits -/
def alnum (s : CStr) : Prop := ∀ c ∈ s, c.isAlphanum = true

/-- What `getmgr2id` takes -/
def readsMgrid (s : CStr) : Prop := readsUuid s ∨ alnum s ∧ s.length < 16

/-- The documented manager identifiers: up to sixteen letters and digits, or a UUID -/
def MgridText (s : CStr) : Prop := UuidText s ∨ alnum s ∧ s.length ≤ 16

/-- An identifier without any digit -/
def LooseUuid (s : CStr) : Prop := ∀ c ∈ s, c = '-'

/-- A manager identifier of sixteen letters and digits that is no UUID -/
def FullMgrid (s : CStr) : Prop := alnum s ∧ s.length = 16 ∧ ¬readsUuid s

theorem uuidText_iff : UuidText s ↔ readsUuid s ∧ ¬LooseUuid s := by
  unfold UuidText LooseUuid
  simp

theorem mgridText_iff :
    MgridText s ∧ ¬FullMgrid s ↔ readsMgrid s ∧ ¬(s ≠ [] ∧ LooseUuid s) := by
  have hdash : alnum s → LooseUuid s → s = [] := by
    intro halnum hloose
    cases s with
    | nil => rfl
    | cons c s =>
      have hc := halnum c List.mem_cons_self
      rw [hloose c List.mem_cons_self] at hc
      cases hc
  constructor
  · rintro ⟨htext, hfull⟩
    rcases htext with huuid | ⟨halnum, hlen⟩
    · obtain ⟨hreads, hloose⟩ := uuidText_iff.mp huuid
      exact ⟨.inl hreads, fun h => hloose h.2⟩
    · refine ⟨?_, fun h => h.1 (hdash halnum h.2)⟩
      by_cases hreads : readsUuid s
      · exact .inl hreads
      · have hne : s.length ≠ 16 := fun h => hfull ⟨halnum, h, hreads⟩
        exact .inr ⟨halnum, by omega⟩
  · rintro ⟨hreads, hloose⟩
    rcases hreads with hreads | ⟨halnum, hlen⟩
    · refine ⟨?_, fun h => h.2.2 hreads⟩
      by_cases hs : s = []
      · subst hs
        exact .inr ⟨nofun, Nat.zero_le 16⟩
      · exact .inl (uuidText_iff.mpr ⟨hreads, fun h => hloose ⟨hs, h⟩⟩)
    · exact ⟨.inr ⟨halnum, by omega⟩, fun h => by have := h.2.1; omega⟩

/-! ### Filters -/

/-- A MAC address of six times two digits with colons in between -/
def macText (s : CStr) : Option MacAddr := (colonHex ethAlen s).bind macOfBytes

/-- The MAC address of a documented filter -/
def macPart : Option CStr → Option (Option MacAddr)
  | none => some none
  | some s => (macText s).map some

/-- The group of a documented filter -/
def groupPart : Option CStr → Option (Option UInt32)
  | none => some none
  | some group => (numberIn group 1 0xffffffff).map some

/-- The documented filters: a VLAN, then a MAC address, a group or both -/
def fidText (value : CStr) : Option Fid := do
  let vlan ← numberIn (splitFid value).1 0 0xffff
  let mac ← macPart (splitFid value).2.1
  let gpid ← groupPart (splitFid value).2.2
  some { vlan, mac, gpid }

/-- A filter with a loose number, a MAC address in another form, or nothing behind its last dash -/
def LooseFid (value : CStr) : Prop :=
  LooseNumber (splitFid value).1 ∨
    (∃ s, (splitFid value).2.1 = some s ∧ macText s = none) ∨
    ∃ group, (splitFid value).2.2 = some group ∧ (group = [] ∨ LooseNumber group)

theorem macText_strict (s : CStr) :
    StrictOf (macText s) ((scanHexBytes ethAlen s).bind macOfBytes) (macText s = none) := by
  intro mac
  constructor
  · intro h
    obtain ⟨bytes, hbytes, hmac⟩ := Option.bind_eq_some_iff.mp h
    refine ⟨?_, by rw [h]; nofun⟩
    rw [scanHexBytes_colonHex hbytes]
    exact hmac
  · rintro ⟨hscan, hne⟩
    obtain ⟨x, hx⟩ := Option.ne_none_iff_exists'.mp hne
    obtain ⟨bytes, hbytes, hmac⟩ := Option.bind_eq_some_iff.mp hx
    rw [scanHexBytes_colonHex hbytes] at hscan
    rw [hx, ← hscan, Option.bind_some, hmac]

theorem macPart_strict (mac : Option CStr) :
    StrictOf (macPart mac) (readMac mac) (∃ s, mac = some s ∧ macText s = none) := by
  cases mac with
  | none => exact (strictOf_self _).of_iff (by simp)
  | some s => exact ((macText_strict s).map some).of_iff (by simp)

theorem groupPart_strict (group : Option CStr) :
    StrictOf (groupPart group) (readGroup group)
      (∃ s, group = some s ∧ (s = [] ∨ LooseNumber s)) := by
  match group with
  | none => exact (strictOf_self _).of_iff (by simp)
  | some [] =>
    -- The reader takes the empty group for none.
    intro x
    simp [groupPart, readGroup, numberIn, integer_nil]
  | some (c :: s) => exact ((numberIn_strict (c :: s) 1 0xffffffff).map some).of_iff (by simp)

theorem fidText_strict (value : CStr) :
    StrictOf (fidText value) (readFid value) (LooseFid value) := by
  have hall := (numberIn_strict (splitFid value).1 0 0xffff).bind fun vlan =>
    (macPart_strict (splitFid value).2.1).bind fun mac =>
      (groupPart_strict (splitFid value).2.2).bind fun gpid =>
        strictOf_self (some ({ vlan, mac, gpid } : Fid))
  exact hall.of_iff (by rw [or_false]; rfl)

/-! ### OUI data -/

/-- The length of the name, when it has its two digits -/
def ouiNameLength : CStr → Option UInt8
  | a :: b :: _ => hex2byte a b
  | _ => none

/-- The entry that OUI data with a name of this length stands for -/
def ouiEntry {δ : Type} (readers : OuiReaders δ) (p : CStr) (len : Nat) :
    Option (VdpnlOuiData δ) :=
  if vdp22OuiMaxName ≤ len ∨ p.length < 2 + len then none
  else do
    let str2vdpnl ← readers ((p.drop 2).take len)
    let str2vdpnl ← str2vdpnl
    let data ← str2vdpnl (p.drop (2 + len))
    some { ouiName := (p.drop 2).take len, data := some data }

/-- The documented OUI data: the length of a name, the name, and what its handler takes -/
def ouiText {δ : Type} (readers : OuiReaders δ) (p : CStr) : Option (VdpnlOuiData δ) :=
  (ouiNameLength p).bind fun len => ouiEntry readers p len.toNat

/-- The OUI data that `oui_str2vdpnl` takes -/
def readOui {δ : Type} (readers : OuiReaders δ) (stale : UInt8) (p : CStr) :
    Option (VdpnlOuiData δ) := ouiEntry readers p (hexNat 1 p stale.toNat)

theorem hexNat_name (p : CStr) (stale : UInt8) :
    hexNat 1 p stale.toNat = ((ouiNameLength p).getD stale).toNat := by
  have hold : leBytes 1 stale.toNat = [stale] := by
    have hlt := stale.toNat_lt
    simp [leBytes, Nat.mod_eq_of_lt hlt]
  unfold hexNat
  rw [hold]
  rcases p with _ | ⟨a, _ | ⟨b, rest⟩⟩
  · simp [hexstr2bin, ouiNameLength, beNat]
  · simp [hexstr2bin, ouiNameLength, beNat]
  · rw [hexstr2bin, ouiNameLength]
    cases hex2byte a b with
    | none => simp [beNat]
    | some x =>
      have hnil : hexstr2bin rest [] = [] := by
        rw [hexstr2bin]
        simp
      simp [beNat, hnil]

theorem ouiText_strict {δ : Type} (readers : OuiReaders δ) (stale : UInt8) (p : CStr) :
    StrictOf (ouiText readers p) (readOui readers stale p) (ouiNameLength p = none) := by
  intro x
  unfold ouiText readOui
  rw [hexNat_name]
  cases ouiNameLength p with
  | none => simp
  | some len => simp

/-! ### Arguments -/

/-- The words of `hints` -/
def hintsText (s : CStr) : Prop :=
  isWord "to" s ∨ isWord "from" s ∨ isWord "none" s ∨ isWord "-" s

variable {δ : Type}

/-- An argument with a documented key and a value of the form that is documented for it -/
def Documented (readers : OuiReaders δ) (a : CStr × CStr) : Prop :=
  match getKeyworkVal a.1 with
  | .mode => modeText a.2 = true
  | .mgrid2 => MgridText a.2
  | .typeid => (numberIn a.2 0 0xffffff).isSome
  | .typeidver => (numberIn a.2 0 0xff).isSome
  | .vsiid => UuidText a.2
  | .filter => (fidText a.2).isSome
  | .hints => hintsText a.2
  | .oui => (ouiText readers a.2).isSome
  | .invalid => False

/-- An argument that the reader of its key takes -/
def Reads (readers : OuiReaders δ) (stale : UInt8) (a : CStr × CStr) : Prop :=
  match getKeyworkVal a.1 with
  | .mode => readsMode a.2 = true
  | .mgrid2 => readsMgrid a.2
  | .typeid => (getnumber a.2 0 0xffffff).isSome
  | .typeidver => (getnumber a.2 0 0xff).isSome
  | .vsiid => readsUuid a.2
  | .filter => (readFid a.2).isSome
  | .hints => hintsText a.2
  | .oui => (readOui readers stale a.2).isSome
  | .invalid => False

/-- An argument whose value is not of the documented form, but may be taken -/
def Loose (a : CStr × CStr) : Prop :=
  match getKeyworkVal a.1 with
  | .mode => LooseMode a.2
  | .mgrid2 => a.2 ≠ [] ∧ LooseUuid a.2
  | .typeid | .typeidver => LooseNumber a.2
  | .vsiid => LooseUuid a.2
  | .filter => LooseFid a.2
  | .oui => ouiNameLength a.2 = none
  | .hints | .invalid => False

/-- A manager identifier that is documented but not taken -/
def FullId (a : CStr × CStr) : Prop := getKeyworkVal a.1 = .mgrid2 ∧ FullMgrid a.2

theorem StrictOf.isSome {β : Type} {strict reader : Option β} {p : Prop}
    (h : StrictOf strict reader p) : strict.isSome ↔ reader.isSome ∧ ¬p := by
  simp only [Option.isSome_iff_exists]
  constructor
  · rintro ⟨x, hx⟩
    obtain ⟨hreader, hp⟩ := (h x).mp hx
    exact ⟨⟨x, hreader⟩, hp⟩
  · rintro ⟨⟨x, hx⟩, hp⟩
    exact ⟨x, (h x).mpr ⟨hx, hp⟩⟩

theorem documented_iff {readers : OuiReaders δ} (stale : UInt8) {a : CStr × CStr} :
    Documented readers a ∧ ¬FullId a ↔ Reads readers stale a ∧ ¬Loose a := by
  unfold Documented Reads Loose FullId
  cases getKeyworkVal a.1 with
  | mode => simpa using modeText_iff
  | mgrid2 => simpa using mgridText_iff
  | typeid | typeidver => simpa using (numberIn_strict a.2 0 _).isSome
  | vsiid => simpa using uuidText_iff
  | filter => simpa using (fidText_strict a.2).isSome
  | hints | invalid => simp
  | oui => simpa using (ouiText_strict readers stale a.2).isSome

theorem not_fullId_of_reads {readers : OuiReaders δ} {stale : UInt8} {a : CStr × CStr}
    (h : Reads readers stale a) : ¬FullId a := by
  rintro ⟨hkey, -, hlen, hreads⟩
  unfold Reads at h
  rw [hkey] at h
  rcases h with huuid | ⟨-, hshort⟩
  · exact hreads huuid
  · omega

end Lldpad.Qbg
