import Lldpad.Proofs.Qbg.PrintedValues
import Lldpad.Qbg.VdpCmds
import Lldpad.Qbg.VdpSystem

/-!
# `Lldpad.Proofs.Qbg.VdpCmds`: which profile lines are read and listed faithfully

`vdp_parse_mode_line` checks how many tokens there are and that each pair starts with something that
`str2mac` takes. So a line that is refused is refused rightly, and one that is accepted may be none
at all: with numbers of which a part is read or kept, with an instance id of any length, with commas
that stand for nothing. `get_arg_mode` leaves what it wrote of the last profile.

* `ModeLine.WrittenAs`: a line that says some values.
* `parsedFaithfully_iff`: when a line is read faithfully.
* `listedFaithfully_iff`: when profiles are listed faithfully.
* `profileLines_iff`: both.
-/

namespace Lldpad.Qbg

open Lldpad.Lib
open Lldpad.Lldp (Bytes)
open Lldpad.Clif.InPlace (CmdHead)
open Lldpad.Basman (str2mac mac2str upperHex)

/-! ### What a line says -/

/-- `strtol` reads all of the text, and this number. -/
def Says (text : CStr) (n : Int) : Prop := integer 10 text = some (n, [])

/-- Two hexadecimal digits -/
def HexPair (text : CStr) (b : UInt8) : Prop :=
  ∃ c d high low, text = [c, d] ∧ digitValue 16 c = some high ∧ digitValue 16 d = some low ∧
    UInt8.ofNat (16 * high + low) = b

/-- Bytes with two digits each, and dashes between the bytes -/
inductive InstanceText : CStr → Bytes → Prop
  | nil : InstanceText [] []
  | dash {s : CStr} {bytes : Bytes} : InstanceText s bytes → InstanceText ('-' :: s) bytes
  | byte {pair s : CStr} {b : UInt8} {bytes : Bytes} :
      HexPair pair b → InstanceText s bytes → InstanceText (pair ++ s) (b :: bytes)

/-- Six bytes with two digits each, and a colon between two of them -/
def MacText (text : CStr) (mac : MacAddr) : Prop :=
  ∃ pairs, List.Forall₂ HexPair pairs mac.bytes ∧ text = [':'].intercalate pairs

inductive PairsText : List (MacAddr × UInt16) → List CStr → Prop
  | nil : PairsText [] []
  | cons {mac : MacAddr} {vlan : UInt16} {macvid : List (MacAddr × UInt16)} {t u : CStr}
      {ts : List CStr} : MacText t mac → Says u vlan.toNat → PairsText macvid ts →
      PairsText ((mac, vlan) :: macvid) (t :: u :: ts)

/-- The values of a line, each of the type of its field -/
structure ModeLine where
  mode : Int32
  mgrid : UInt8
  id : Int32
  version : UInt8
  instanceId : Octets 16
  format : UInt8
  macvid : List (MacAddr × UInt16)

namespace ModeLine

/-- The tokens of a line that says these values -/
inductive Texts (l : ModeLine) : List CStr → Prop
  | mk {mode mgrid id version inst format : CStr} {rest : List CStr} :
      Says mode l.mode.toInt → Says mgrid l.mgrid.toNat → Says id l.id.toInt →
      Says version l.version.toNat → InstanceText inst l.instanceId.bytes →
      Says format l.format.toNat → PairsText l.macvid rest →
      Texts l (mode :: mgrid :: id :: version :: inst :: format :: rest)

def WrittenAs (l : ModeLine) (line : CStr) : Prop :=
  ∃ ts, l.Texts ts ∧ line = [','].intercalate ts

/-- The profile with these values. The pair that came last is the first of the list. -/
def profile (l : ModeLine) : VdpProfile where
  mode := l.mode.toUInt32
  mgrid := l.mgrid
  id := l.id.toUInt32
  version := l.version
  instanceId := l.instanceId
  format := l.format
  macvid := (l.macvid.map fun mv => { mac := mv.1, vlan := mv.2 }).reverse

end ModeLine

/-- The line is read without a write behind the array, it is accepted if it says some values, and
then the profile has these. -/
def ParsedFaithfully (line : CStr) : Prop :=
  ∃ r, VdpCmds.vdpParseModeLine line = .ok r ∧
    ∀ p, r = some p ↔ ∃ l : ModeLine, l.WrittenAs line ∧ p = l.profile

/-! ### When a line is read faithfully -/

/-- A text that is a number from `lo` to below `hi` -/
def InField (lo hi : Int) (text : CStr) : Prop := ∃ n, Says text n ∧ lo ≤ n ∧ n < hi

/-- The fifth token has no more bytes than the array. -/
def InstanceFits (ts : List CStr) : Prop :=
  ∀ t, ts[4]? = some t → (instanceBytes t).length ≤ 16

/-- Pairs that `vdp_parse_mode_line` takes -/
def PairsTaken : List CStr → Prop
  | [] => True
  | [_] => False
  | mac :: _ :: rest => (str2mac mac).isSome ∧ PairsTaken rest

/-- Pairs of a MAC address and a VLAN -/
def PairsExact : List CStr → Prop
  | [] => True
  | [_] => False
  | mac :: vlan :: rest => (∃ m, MacText mac m) ∧ InField 0 (2 ^ 16) vlan ∧ PairsExact rest

/-- Every token is what its place asks for. -/
def TokensExact : List CStr → Prop
  | mode :: mgrid :: id :: version :: inst :: format :: rest =>
    InField (-(2 ^ 31)) (2 ^ 31) mode ∧ InField 0 256 mgrid ∧ InField (-(2 ^ 31)) (2 ^ 31) id ∧
      InField 0 256 version ∧ (∃ bytes, InstanceText inst bytes ∧ bytes.length = 16) ∧
      InField 0 256 format ∧ PairsExact rest
  | _ => False

/-- The instance id stays in its array. With six tokens or more, and pairs behind them that are
taken, each token is exact, and no comma is left over. -/
def LineKept (line : CStr) : Prop :=
  InstanceFits (lineTokens line) ∧
    (6 ≤ (lineTokens line).length → PairsTaken ((lineTokens line).drop 6) →
      TokensExact (lineTokens line) ∧ [','].intercalate (lineTokens line) = line)


/-! ### Tokens -/

variable {text : CStr} {ts : List CStr}

theorem Says.unique {n m : Int} (hn : Says text n) (hm : Says text m) : n = m := by
  cases hn.symm.trans hm
  rfl

theorem Says.token {n : Int} (h : Says text n) : ',' ∉ text ∧ text ≠ [] := by
  refine ⟨not_mem_of_integer rfl (by decide) rfl h, ?_⟩
  intro hnil
  subst hnil
  cases h

theorem HexPair.token {b : UInt8} (h : HexPair text b) : ',' ∉ text := by
  obtain ⟨c, d, high, low, rfl, hc, hd, -⟩ := h
  intro hmem
  rcases List.mem_pair.mp hmem with rfl | rfl
  · cases hc
  · cases hd

variable {bytes : Bytes} {mac : MacAddr} {l : ModeLine}

theorem InstanceText.token (h : InstanceText text bytes) :
    ',' ∉ text := by
  induction h with
  | nil => simp
  | dash _ ih => simpa using ih
  | byte hpair _ ih => simp [hpair.token, ih]

theorem InstanceText.ne_nil (h : InstanceText text bytes)
    (hbytes : bytes.length = 16) : text ≠ [] := by
  cases h with
  | nil => simp at hbytes
  | dash _ => simp
  | byte hpair _ =>
    obtain ⟨c, d, high, low, rfl, -⟩ := hpair
    simp

theorem InstanceText.bytes_eq (h : InstanceText text bytes) :
    instanceBytes text = bytes := by
  induction h with
  | nil => rfl
  | @dash s bytes _ ih =>
    cases s with
    | nil => exact ih
    | cons c s => exact ih
  | @byte pair s b bytes hpair _ ih =>
    obtain ⟨c, d, high, low, rfl, hc, hd, hb⟩ := hpair
    have hdash : c ≠ '-' := by
      intro h
      subst h
      cases hc
    show instanceBytes (c :: d :: s) = b :: bytes
    rw [instanceBytes, if_neg hdash, scanHexByte_digits hc hd, hb, ← ih]

theorem MacText.cases (h : MacText text mac) :
    ∃ p0 p1 p2 p3 p4 p5 b0 b1 b2 b3 b4 b5, mac.bytes = [b0, b1, b2, b3, b4, b5] ∧
      text = p0 ++ ':' :: (p1 ++ ':' :: (p2 ++ ':' :: (p3 ++ ':' :: (p4 ++ ':' :: p5)))) ∧
      HexPair p0 b0 ∧ HexPair p1 b1 ∧ HexPair p2 b2 ∧ HexPair p3 b3 ∧ HexPair p4 b4 ∧
      HexPair p5 b5 := by
  obtain ⟨pairs, hall, rfl⟩ := h
  obtain ⟨bytes, hlen⟩ := mac
  match bytes, hlen, hall with
  | [b0, b1, b2, b3, b4, b5], _, hall =>
    simp only [List.forall₂_cons_right_iff, List.forall₂_nil_right_iff] at hall
    obtain ⟨p0, _, h0, ⟨p1, _, h1, ⟨p2, _, h2, ⟨p3, _, h3, ⟨p4, _, h4, ⟨p5, _, h5, rfl, rfl⟩, rfl⟩,
      rfl⟩, rfl⟩, rfl⟩, rfl⟩ := hall
    exact ⟨p0, p1, p2, p3, p4, p5, b0, b1, b2, b3, b4, b5, rfl, by simp, h0, h1, h2, h3, h4, h5⟩

theorem MacText.token (h : MacText text mac) :
    ',' ∉ text ∧ text ≠ [] := by
  obtain ⟨p0, p1, p2, p3, p4, p5, _, _, _, _, _, _, -, rfl, h0, h1, h2, h3, h4, h5⟩ := h.cases
  constructor
  · simp [h0.token, h1.token, h2.token, h3.token, h4.token, h5.token]
  · simp

theorem MacText.read (h : MacText text mac) :
    ∃ v, str2mac text = some v ∧ octetsOfMac v = mac := by
  obtain ⟨_, _, _, _, _, _, b0, b1, b2, b3, b4, b5, hmac, rfl, ⟨c0, d0, i0, j0, rfl, hc0, hd0, hb0⟩,
    ⟨c1, d1, i1, j1, rfl, hc1, hd1, hb1⟩, ⟨c2, d2, i2, j2, rfl, hc2, hd2, hb2⟩,
    ⟨c3, d3, i3, j3, rfl, hc3, hd3, hb3⟩, ⟨c4, d4, i4, j4, rfl, hc4, hd4, hb4⟩,
    ⟨c5, d5, i5, j5, rfl, hc5, hd5, hb5⟩⟩ := h.cases
  refine ⟨#v[b0, b1, b2, b3, b4, b5], ?_, ?_⟩
  · unfold str2mac
    rw [if_neg (by simp)]
    simp only [List.cons_append, List.nil_append, List.drop_succ_cons, List.drop_zero,
      scanHexByte_digits hc0 hd0, scanHexByte_digits hc1 hd1, scanHexByte_digits hc2 hd2,
      scanHexByte_digits hc3 hd3, scanHexByte_digits hc4 hd4, scanHexByte_digits hc5 hd5, hb0, hb1,
      hb2, hb3, hb4, hb5]
    rfl
  · cases mac
    cases hmac
    rfl

theorem PairsText.token {macvid : List (MacAddr × UInt16)}
    (h : PairsText macvid ts) : ∀ t ∈ ts, ',' ∉ t ∧ t ≠ [] := by
  induction h with
  | nil => simp
  | cons hmac hvlan _ ih =>
    intro t ht
    rcases List.mem_cons.mp ht with rfl | ht
    · exact hmac.token
    rcases List.mem_cons.mp ht with rfl | ht
    · exact hvlan.token
    · exact ih t ht

theorem ModeLine.Texts.token (h : l.Texts ts) :
    ∀ t ∈ ts, ',' ∉ t ∧ t ≠ [] := by
  obtain ⟨hmode, hmgrid, hid, hversion, hinst, hformat, hpairs⟩ := h
  have hne := hinst.ne_nil l.instanceId.length_eq
  simp only [List.forall_mem_cons]
  exact ⟨hmode.token, hmgrid.token, hid.token, hversion.token, ⟨hinst.token, hne⟩, hformat.token,
    hpairs.token⟩

theorem ModeLine.WrittenAs.tokens {line : CStr} (h : l.WrittenAs line) :
    l.Texts (lineTokens line) ∧ [','].intercalate (lineTokens line) = line := by
  obtain ⟨ts, hts, rfl⟩ := h
  have htokens : lineTokens ([','].intercalate ts) = ts := tokens_intercalate hts.token
  rw [htokens]
  exact ⟨hts, rfl⟩

/-! ### Exact tokens say something -/

theorem pairsExact_iff : PairsExact ts ↔ ∃ macvid, PairsText macvid ts := by
  constructor
  · intro h
    induction ts using PairsExact.induct with
    | case1 => exact ⟨[], .nil⟩
    | case2 => exact h.elim
    | case3 mac vlan rest ih =>
      obtain ⟨⟨m, hmac⟩, ⟨n, hn, hlow, hhigh⟩, hrest⟩ := h
      obtain ⟨macvid, hpairs⟩ := ih hrest
      have hvlan : ((UInt16.ofNat n.toNat).toNat : Int) = n := by
        rw [UInt16.toNat_ofNat']
        omega
      exact ⟨(m, UInt16.ofNat n.toNat) :: macvid, .cons hmac (by rwa [hvlan]) hpairs⟩
  · rintro ⟨macvid, h⟩
    induction h with
    | nil => trivial
    | @cons mac vlan _ _ _ _ hmac hvlan _ ih =>
      have hlt := vlan.toNat_lt
      exact ⟨⟨mac, hmac⟩, ⟨_, hvlan, by omega, by omega⟩, ih⟩

theorem InField.byte : InField 0 256 text ↔ ∃ x : UInt8, Says text x.toNat := by
  constructor
  · rintro ⟨n, hn, hlow, hhigh⟩
    have hx : ((UInt8.ofNat n.toNat).toNat : Int) = n := by
      rw [UInt8.toNat_ofNat']
      omega
    exact ⟨UInt8.ofNat n.toNat, by rwa [hx]⟩
  · rintro ⟨x, hx⟩
    have hlt := x.toNat_lt
    exact ⟨_, hx, by omega, by omega⟩

theorem InField.int :
    InField (-(2 ^ 31)) (2 ^ 31) text ↔ ∃ x : Int32, Says text x.toInt := by
  constructor
  · rintro ⟨n, hn, hlow, hhigh⟩
    have hx : (Int32.ofInt n).toInt = n := Int32.toInt_ofInt_of_le hlow hhigh
    exact ⟨Int32.ofInt n, by rwa [hx]⟩
  · rintro ⟨x, hx⟩
    exact ⟨_, hx, x.le_toInt, x.toInt_lt⟩

theorem tokensExact_iff : TokensExact ts ↔ ∃ l : ModeLine, l.Texts ts := by
  constructor
  · intro h
    unfold TokensExact at h
    split at h
    · obtain ⟨hmode, hmgrid, hid, hversion, ⟨bytes, hinst, hlen⟩, hformat, hpairs⟩ := h
      obtain ⟨mode, hmode⟩ := InField.int.mp hmode
      obtain ⟨mgrid, hmgrid⟩ := InField.byte.mp hmgrid
      obtain ⟨id, hid⟩ := InField.int.mp hid
      obtain ⟨version, hversion⟩ := InField.byte.mp hversion
      obtain ⟨format, hformat⟩ := InField.byte.mp hformat
      obtain ⟨macvid, hpairs⟩ := pairsExact_iff.mp hpairs
      exact ⟨⟨mode, mgrid, id, version, ⟨bytes, hlen⟩, format, macvid⟩,
        .mk hmode hmgrid hid hversion hinst hformat hpairs⟩
    · exact h.elim
  · rintro ⟨l, hmode, hmgrid, hid, hversion, hinst, hformat, hpairs⟩
    exact ⟨InField.int.mpr ⟨_, hmode⟩, InField.byte.mpr ⟨_, hmgrid⟩, InField.int.mpr ⟨_, hid⟩,
      InField.byte.mpr ⟨_, hversion⟩, ⟨_, hinst, l.instanceId.length_eq⟩,
      InField.byte.mpr ⟨_, hformat⟩, pairsExact_iff.mpr ⟨_, hpairs⟩⟩


/-! ### What the parser makes of a line -/

theorem str2instance_returns {old : Octets 16} {buffer : CStr} :
    (∃ r, str2instance old buffer = .ok r) ↔ (instanceBytes buffer).length ≤ 16 := by
  unfold str2instance
  split
  · next h => exact iff_of_true ⟨_, rfl⟩ h
  · next h => exact iff_of_false (by simp) h

theorem addMacvlans_isSome {p : VdpProfile} :
    (addMacvlans p ts).isSome ↔ PairsTaken ts := by
  induction ts using PairsTaken.induct generalizing p with
  | case1 | case2 => simp [addMacvlans, PairsTaken]
  | case3 mac vlan rest ih =>
    cases h : str2mac mac with
    | none => simp [addMacvlans, PairsTaken, h]
    | some m => simp [addMacvlans, PairsTaken, h, ih]

theorem addMacvlans_text {macvid : List (MacAddr × UInt16)}
    (h : PairsText macvid ts) (p : VdpProfile) :
    addMacvlans p ts = some { p with
      macvid :=
        (macvid.map fun mv => { mac := mv.1, vlan := mv.2 : MacVlan }).reverse ++ p.macvid } := by
  induction h generalizing p with
  | nil => rfl
  | @cons mac vlan macvid t u ts hmac hvlan _ ih =>
    obtain ⟨v, hread, hv⟩ := hmac.read
    have hlt := vlan.toNat_lt
    have hatoi : atoi u = vlan.toNat := atoi_of_integer hvlan (by omega)
    have hofInt : UInt16.ofInt (vlan.toNat : Int) = vlan := by
      refine UInt16.toNat_inj.mp ?_
      simp only [UInt16.ofInt, UInt16.toNat_ofNat']
      omega
    simp only [addMacvlans, hread, hv, hatoi, hofInt, Option.bind_eq_bind, Option.bind_some]
    rw [ih]
    simp

section Line

variable {line mode mgrid id version inst format : CStr} {rest : List CStr}

theorem parse_of_six
    (h : lineTokens line = mode :: mgrid :: id :: version :: inst :: format :: rest) :
    VdpCmds.vdpParseModeLine line = (str2instance (.zero 16) inst).map fun i =>
      addMacvlans
        { mode := .ofInt (atoi mode), mgrid := .ofInt (atoi mgrid), id := .ofInt (atoi id),
          version := .ofInt (atoi version), instanceId := i, format := .ofInt (atoi format) }
        rest := by
  unfold VdpCmds.vdpParseModeLine
  rw [h]
  show ((modeFields.zip _).foldlM _ _ >>= _) = _
  cases hinst : str2instance (.zero 16) inst with
  | error f => simp [modeFields, vdpFillProfile, hinst, Except.map]
  | ok i => simp [modeFields, vdpFillProfile, hinst, Except.map]

end Line

theorem parse_returns (line : CStr) :
    (∃ r, VdpCmds.vdpParseModeLine line = .ok r) ↔ InstanceFits (lineTokens line) := by
  match h : lineTokens line with
  | [] | [_] | [_, _] | [_, _, _] | [_, _, _, _] =>
    exact iff_of_true ⟨none, by simp [VdpCmds.vdpParseModeLine, h, modeFields, vdpFillProfile]⟩
      (by simp [InstanceFits])
  | [mode, mgrid, id, version, inst] =>
    have hfits : InstanceFits [mode, mgrid, id, version, inst] ↔
        (instanceBytes inst).length ≤ 16 := by
      simp [InstanceFits]
    rw [hfits, ← @str2instance_returns (.zero 16) inst]
    cases hinst : str2instance (.zero 16) inst with
    | error f => simp [VdpCmds.vdpParseModeLine, h, modeFields, vdpFillProfile, hinst, Except.map]
    | ok i => simp [VdpCmds.vdpParseModeLine, h, modeFields, vdpFillProfile, hinst, Except.map]
  | mode :: mgrid :: id :: version :: inst :: format :: rest =>
    have hfits : InstanceFits (mode :: mgrid :: id :: version :: inst :: format :: rest) ↔
        (instanceBytes inst).length ≤ 16 := by
      simp [InstanceFits]
    rw [hfits, ← @str2instance_returns (.zero 16) inst, parse_of_six h]
    cases hinst : str2instance (.zero 16) inst with
    | error f => simp [Except.map]
    | ok i => simp [Except.map]

theorem parse_accepts {line : CStr} {r : Option VdpProfile}
    (h : VdpCmds.vdpParseModeLine line = .ok r) :
    r.isSome ↔ 6 ≤ (lineTokens line).length ∧ PairsTaken ((lineTokens line).drop 6) := by
  by_cases hsix : 6 ≤ (lineTokens line).length
  · match hts : lineTokens line, hsix with
    | mode :: mgrid :: id :: version :: inst :: format :: rest, _ =>
      rw [parse_of_six hts] at h
      cases hinst : str2instance (.zero 16) inst with
      | error f =>
        rw [hinst] at h
        cases h
      | ok i =>
        rw [hinst] at h
        cases h
        rw [addMacvlans_isSome]
        simp
  · have hnone : r = none := by
      unfold VdpCmds.vdpParseModeLine at h
      dsimp only at h
      cases hfold : (modeFields.zip (lineTokens line)).foldlM
          (fun p f => vdpFillProfile p f.1 f.2) ({} : VdpProfile) with
      | error f =>
        rw [hfold] at h
        cases h
      | ok p =>
        rw [hfold] at h
        simp only [bind_ok] at h
        rw [if_pos (by simpa [modeFields] using hsix)] at h
        cases h
        rfl
    simp [hnone, hsix]

theorem ofInt_toInt (x : Int32) : UInt32.ofInt x.toInt = x.toUInt32 := by
  refine UInt32.toBitVec_inj.mp ?_
  show BitVec.ofNat 32 (x.toInt % 2 ^ 32).toNat = x.toBitVec
  have hx : BitVec.ofInt 32 x.toInt = x.toBitVec := BitVec.ofInt_toInt
  rw [← hx]
  refine BitVec.eq_of_toNat_eq ?_
  rw [BitVec.toNat_ofNat, BitVec.toNat_ofInt]
  omega

theorem parse_of_texts {line : CStr} (h : l.Texts (lineTokens line)) :
    VdpCmds.vdpParseModeLine line = .ok (some l.profile) := by
  generalize hts : lineTokens line = ts at h
  obtain ⟨hmode, hmgrid, hid, hversion, hinst, hformat, hpairs⟩ := h
  have hbyte {t : CStr} {x : UInt8} (hx : Says t x.toNat) : UInt8.ofInt (atoi t) = x := by
    have hlt := x.toNat_lt
    rw [atoi_of_integer hx (by omega), ofInt_natCast, UInt8.ofNat_toNat]
  have hint {t : CStr} {x : Int32} (hx : Says t x.toInt) : UInt32.ofInt (atoi t) = x.toUInt32 := by
    rw [atoi_of_integer hx ⟨x.le_toInt, x.toInt_lt⟩, ofInt_toInt]
  have hbytes := l.instanceId.length_eq
  have hinstance : ∀ inst, InstanceText inst l.instanceId.bytes →
      str2instance (.zero 16) inst = .ok l.instanceId := by
    intro inst hinst
    unfold str2instance
    simp [hinst.bytes_eq, hbytes, Octets.zero]
  rw [parse_of_six hts, hinstance _ hinst, hbyte hmgrid, hbyte hversion, hbyte hformat, hint hmode,
    hint hid]
  simp [Except.map, addMacvlans_text hpairs, ModeLine.profile]

theorem parsedFaithfully_iff (line : CStr) : ParsedFaithfully line ↔ LineKept line := by
  constructor
  · rintro ⟨r, hr, hvalues⟩
    refine ⟨(parse_returns line).mp ⟨r, hr⟩, fun hsix hpairs => ?_⟩
    obtain ⟨p, hp⟩ := Option.isSome_iff_exists.mp ((parse_accepts hr).mpr ⟨hsix, hpairs⟩)
    obtain ⟨l, hwritten, -⟩ := (hvalues p).mp hp
    exact ⟨tokensExact_iff.mpr ⟨l, hwritten.tokens.1⟩, hwritten.tokens.2⟩
  · rintro ⟨hfits, hexact⟩
    obtain ⟨r, hr⟩ := (parse_returns line).mpr hfits
    -- values that the line says are those of the profile
    have hread : ∀ l : ModeLine, l.WrittenAs line → r = some l.profile := by
      intro l hl
      rw [parse_of_texts hl.tokens.1] at hr
      cases hr
      rfl
    refine ⟨r, hr, fun p => ⟨fun hp => ?_, ?_⟩⟩
    · have haccepted := (parse_accepts hr).mp (Option.isSome_iff_exists.mpr ⟨p, hp⟩)
      obtain ⟨htokens, hjoin⟩ := hexact haccepted.1 haccepted.2
      obtain ⟨l, hl⟩ := tokensExact_iff.mp htokens
      have hwritten : l.WrittenAs line := ⟨lineTokens line, hl, hjoin.symm⟩
      rw [hread l hwritten] at hp
      exact ⟨l, hwritten, (Option.some.inj hp).symm⟩
    · rintro ⟨l, hl, rfl⟩
      exact hread l hl


/-! ### What is printed is a line -/

theorem hexPair_byte (b : UInt8) : HexPair (hexField 2 b.toNat) b := by
  obtain ⟨c, d, high, low, h⟩ := hexField_byte b
  exact ⟨c, d, high, low, h⟩

theorem InstanceText.append_hexBytes {s : CStr} {rest : Bytes} (h : InstanceText s rest)
    (bytes : Bytes) : InstanceText (hexBytes bytes ++ s) (bytes ++ rest) := by
  induction bytes with
  | nil => exact h
  | cons b bytes ih =>
    rw [hexBytes_cons, List.append_assoc]
    exact .byte (hexPair_byte b) ih

theorem instanceText_printed (u : Octets 16) : InstanceText (vdpUuid2str u) u.bytes := by
  obtain ⟨a, b, c, d, e, ha, hb, hc, hd, he, -, hbytes⟩ := uuid_parts u.bytes u.length_eq
  unfold vdpUuid2str
  dsimp only
  rw [ha, hb, hc, hd, he, hbytes]
  have hlast : InstanceText (hexBytes e) e := by
    have h := InstanceText.nil.append_hexBytes e
    rwa [List.append_nil, List.append_nil] at h
  have hd := hlast.dash.append_hexBytes d
  have hc := hd.dash.append_hexBytes c
  have hb := hc.dash.append_hexBytes b
  have ha := hb.dash.append_hexBytes a
  simpa using ha

theorem hexPair_upper (b : UInt8) :
    HexPair [upperHex (b.toNat / 16), upperHex (b.toNat % 16)] b := by
  have hdigit : ∀ n < 16, digitValue 16 (upperHex n) = some n := by decide
  have hlt := b.toNat_lt
  refine ⟨_, _, b.toNat / 16, b.toNat % 16, rfl, hdigit _ (by omega), hdigit _ (by omega), ?_⟩
  rw [Nat.div_add_mod]
  exact UInt8.ofNat_toNat

theorem macText_printed (mac : MacAddr) : MacText (mac2str (macOfOctets mac)) mac := by
  have hlist : (macOfOctets mac).toList = mac.bytes := by simp [macOfOctets, Vector.toList]
  refine ⟨mac.bytes.map fun b => [upperHex (b.toNat / 16), upperHex (b.toNat % 16)], ?_, ?_⟩
  · rw [List.forall₂_map_left_iff, List.forall₂_same]
    exact fun b _ => hexPair_upper b
  · unfold mac2str
    rw [hlist]

/-- The values of a printed profile -/
def VdpProfile.line (p : VdpProfile) : ModeLine where
  mode := Int32.ofInt p.state.code
  mgrid := p.mgrid
  id := p.id.toInt32
  version := p.version
  instanceId := p.instanceId
  format := p.format
  macvid := p.macvid.map MacVlan.pair

theorem pairsText_printed (macvid : List MacVlan) :
    PairsText (macvid.map MacVlan.pair) (macvid.flatMap pairTexts) := by
  induction macvid with
  | nil => exact .nil
  | cons mv macvid ih => exact .cons (macText_printed mv.mac) (integer_decimal _) ih

theorem profileText_eq (p : VdpProfile) :
    profileText p = [','].intercalate (headTexts p ++ p.macvid.flatMap pairTexts) := by
  -- one pair more behind the texts that are there
  have hjoin : ∀ (macvid : List MacVlan) (ts : List CStr), ts ≠ [] →
      [','].intercalate (ts ++ macvid.flatMap pairTexts) = [','].intercalate ts ++
        (macvid.map fun mv => ',' :: [','].intercalate (pairTexts mv)).flatten := by
    intro macvid ts hts
    induction ts with
    | nil => exact absurd rfl hts
    | cons t ts ih =>
      cases ts with
      | cons u ts => simpa using ih (List.cons_ne_nil u ts)
      | nil =>
        clear ih hts
        induction macvid generalizing t with
        | nil => simp
        | cons mv macvid ih =>
          have hlast := ih (decimal mv.vlan.toNat)
          simp only [List.cons_append, List.nil_append] at hlast
          simp [pairTexts, hlast]
  exact (hjoin p.macvid (headTexts p) (by simp [headTexts])).symm

theorem profileText_written (p : VdpProfile) : p.line.WrittenAs (profileText p) := by
  refine ⟨_, ?_, profileText_eq p⟩
  have hcode : (p.line.mode).toInt = p.state.code := by
    unfold VdpProfile.line
    cases p.state <;> rfl
  have hmode : Says (decimal p.state.code) p.line.mode.toInt := by
    rw [hcode]
    exact integer_decimal _
  exact .mk hmode (integer_decimal _) (integer_decimal _) (integer_decimal _)
    (instanceText_printed p.instanceId) (integer_decimal _) (pairsText_printed p.macvid)

/-- The fields after the first, and the pairs in the other order -/
structure SameFields (p q : VdpProfile) : Prop where
  mgrid : q.mgrid = p.mgrid
  id : q.id = p.id
  version : q.version = p.version
  instanceId : q.instanceId = p.instanceId
  format : q.format = p.format
  pairs : q.macvid.map MacVlan.pair = (p.macvid.map MacVlan.pair).reverse

theorem profileText_read (p : VdpProfile) :
    ∃ q, VdpCmds.vdpParseModeLine (profileText p) = .ok (some q) ∧ SameFields p q := by
  refine ⟨_, parse_of_texts (profileText_written p).tokens.1, rfl, ?_, rfl, rfl, rfl, ?_⟩
  · simp [ModeLine.profile, VdpProfile.line]
  · simp [ModeLine.profile, VdpProfile.line, MacVlan.pair, Function.comp_def]

/-! ### When profiles are listed faithfully -/

/-- The profiles for each of which there is room behind those before it -/
def listed (profiles : List VdpProfile) : List VdpProfile :=
  profiles.foldl (fun shown p =>
    if (shown.flatMap profileText).length + (profileText p).length < vdpBufSize then shown ++ [p]
    else shown) []

/-- An answer has these profiles and nothing else, each in a form that is read back. -/
def ListedFaithfully (cmd : CmdHead) (arg : CStr) (obufLen : Nat) (profiles : List VdpProfile) :
    Prop :=
  ∀ obuf, getArgMode cmd (some profiles) arg obufLen = .ok obuf →
    obuf = keyText arg ++ valueText ((listed profiles).flatMap profileText) ∧
      ∀ p ∈ listed profiles,
        ∃ q, VdpCmds.vdpParseModeLine (profileText p) = .ok (some q) ∧ SameFields p q

/-- There is room for the last profile, or no room for a part of it either. -/
def LastFits (profiles : List VdpProfile) : Prop :=
  ∀ init p, profiles = init ++ [p] →
    ((listed init).flatMap profileText).length + (profileText p).length < vdpBufSize ∨
      ((listed init).flatMap profileText).length + 1 = vdpBufSize

/-- Where the profiles are asked for, the last one is not cut, nor is the answer. -/
def ListKept (cmd : CmdHead) (arg : CStr) (obufLen : Nat) (profiles : List VdpProfile) : Prop :=
  cmd.cmd = 1 → cmd.tlvid = vdpTlvid →
    LastFits profiles ∧
      (keyText arg ++ valueText ((listed profiles).flatMap profileText)).length < obufLen

theorem listed_concat (init : List VdpProfile) (p : VdpProfile) :
    listed (init ++ [p]) =
      if ((listed init).flatMap profileText).length + (profileText p).length < vdpBufSize then
        listed init ++ [p]
      else listed init := by
  show List.foldl _ [] (init ++ [p]) = _
  rw [List.foldl_append]
  rfl

theorem printPieces_eq {room : Nat} (hroom : 0 < room) (pieces : List CStr) :
    printPieces room pieces = snprintf room pieces.flatten := by
  induction pieces generalizing room with
  | nil => simp [printPieces, snprintf, hroom]
  | cons piece pieces ih =>
    unfold printPieces
    by_cases hpiece : piece.length < room
    · have hone : snprintf room piece = .ok piece := if_pos hpiece
      rw [hone]
      dsimp only
      rw [ih (by omega)]
      unfold snprintf
      by_cases hall : pieces.flatten.length < room - piece.length
      · rw [if_pos hall, List.flatten_cons, List.length_append, if_pos (by omega)]
      · rw [if_neg hall, List.flatten_cons, List.length_append, if_neg (by omega)]
        rw [List.take_append, List.take_of_length_le (by omega : piece.length ≤ room - 1),
          Nat.sub_right_comm]
    · have hcut : snprintf room piece = .error (piece.take (room - 1)) := if_neg hpiece
      rw [hcut]
      unfold snprintf
      rw [List.flatten_cons, List.length_append, if_neg (by omega),
        List.take_append_of_le_length (by omega)]

/-- What the loop leaves in its buffer -/
theorem modeStr_eq (profiles : List VdpProfile) :
    (modeStr profiles).done = (listed profiles).flatMap profileText ∧
      ((modeStr profiles).done ++ (modeStr profiles).left).length < vdpBufSize ∧
      ((modeStr profiles).left = [] ↔ LastFits profiles) := by
  induction profiles using List.reverseRecOn with
  | nil => exact ⟨rfl, by decide, iff_of_true rfl (by simp [LastFits])⟩
  | append_singleton init p ih =>
    obtain ⟨hdone, hlen, -⟩ := ih
    have hstep : modeStr (init ++ [p]) = (modeStr init).add p := by
      unfold modeStr
      rw [List.foldl_append]
      rfl
    have hlast : LastFits (init ++ [p]) ↔
        (modeStr init).done.length + (profileText p).length < vdpBufSize ∨
          (modeStr init).done.length + 1 = vdpBufSize := by
      rw [hdone]
      constructor
      · intro h
        exact h init p rfl
      · intro h init' p' heq
        obtain ⟨rfl, hp⟩ := List.append_inj' heq rfl
        cases hp
        exact h
    rw [List.length_append] at hlen
    have hprint : printMode (vdpBufSize - (modeStr init).done.length) p =
        snprintf (vdpBufSize - (modeStr init).done.length) (profileText p) :=
      printPieces_eq (by omega) (profilePieces p)
    rw [hstep, hlast, listed_concat, ← hdone]
    unfold ModeStr.add
    rw [hprint]
    unfold snprintf
    by_cases hfits : (modeStr init).done.length + (profileText p).length < vdpBufSize
    · rw [if_pos (by omega), if_pos hfits]
      exact ⟨by simp [hdone], by simpa using hfits, iff_of_true rfl (.inl hfits)⟩
    · rw [if_neg (by omega), if_neg hfits]
      refine ⟨hdone, ?_, ?_⟩
      · simp only [List.length_append, List.length_take]
        omega
      · rw [← List.length_eq_zero_iff]
        simp only [List.length_take]
        omega

theorem take_valueText_iff {key done left : CStr} {n : Nat}
    (hsize : (done ++ left).length < 65536) :
    (key ++ valueText (done ++ left)).take (n - 1) = key ++ valueText done ↔
      left = [] ∧ (key ++ valueText done).length < n := by
  have hdone : done.length < 65536 := by
    rw [List.length_append] at hsize
    omega
  have hfour : ∀ m < 65536, (hexField 4 m).length = 4 := fun m hm =>
    length_hexField (by decide) (show m < 16 ^ 4 from hm)
  -- the length that stands before a value
  have hlength : ∀ m < 65536, ∀ rest : CStr, hexNat 2 (hexField 4 m ++ rest) 0 = m :=
    fun m hm rest => hexNat_hexField (by decide) (show m < 256 ^ 2 from hm) rest 0
  constructor
  · intro h
    have hlen := congrArg List.length h
    simp only [valueText, List.length_append, List.length_take, hfour _ hdone] at hlen
    have hfits : (key ++ valueText done).length < n := by
      simp only [valueText, List.length_append, hfour _ hdone]
      omega
    refine ⟨?_, hfits⟩
    rw [List.take_append, List.take_of_length_le (by omega)] at h
    have hvalue := List.append_cancel_left h
    unfold valueText at hvalue
    rw [List.take_append, List.take_of_length_le (by rw [hfour _ hsize]; omega)] at hvalue
    have hsame : (done ++ left).length = done.length := by
      rw [← hlength _ hsize, hvalue, hlength _ hdone]
    rw [List.length_append] at hsame
    exact List.length_eq_zero_iff.mp (by omega)
  · rintro ⟨rfl, hfits⟩
    rw [List.append_nil]
    exact List.take_of_length_le (by omega)

theorem getArgMode_eq {cmd : CmdHead} (hcmd : cmd.cmd = 1) (htlv : cmd.tlvid = vdpTlvid)
    (profiles : List VdpProfile) (arg : CStr) (obufLen : Nat) :
    getArgMode cmd (some profiles) arg obufLen =
      .ok ((keyText arg ++ valueText ((modeStr profiles).done ++ (modeStr profiles).left)).take
        (obufLen - 1)) := by
  unfold getArgMode
  rw [if_neg (by simp [hcmd]), if_pos htlv]
  dsimp only
  unfold snprintf
  split
  · next h =>
    split at h
    · next hfits =>
      cases h
      rw [List.take_of_length_le (by omega)]
    · cases h
  · next h =>
    split at h
    · cases h
    · cases h
      rfl

theorem listedFaithfully_iff (cmd : CmdHead) (arg : CStr) (obufLen : Nat)
    (profiles : List VdpProfile) :
    ListedFaithfully cmd arg obufLen profiles ↔ ListKept cmd arg obufLen profiles := by
  by_cases hcmd : cmd.cmd = 1
  swap
  · exact iff_of_true (by simp [ListedFaithfully, getArgMode, hcmd]) fun h => absurd h hcmd
  by_cases htlv : cmd.tlvid = vdpTlvid
  swap
  · refine iff_of_true ?_ fun _ h => absurd h htlv
    intro obuf h
    unfold getArgMode at h
    rw [if_neg (by simp [hcmd]), if_neg htlv] at h
    split at h <;> cases h
  obtain ⟨hdone, hlen, hleft⟩ := modeStr_eq profiles
  have hsize : ((modeStr profiles).done ++ (modeStr profiles).left).length < 65536 :=
    Nat.lt_trans hlen (by decide)
  have hcut := @take_valueText_iff (keyText arg) _ _ obufLen hsize
  rw [hdone, hleft] at hcut
  unfold ListedFaithfully ListKept
  rw [getArgMode_eq hcmd htlv, hdone]
  constructor
  · intro h _ _
    exact hcut.mp (h _ rfl).1
  · intro h obuf hobuf
    cases hobuf
    exact ⟨hcut.mpr (h hcmd htlv), fun p _ => profileText_read p⟩

theorem profileLines_iff (line : CStr) (cmd : CmdHead) (arg : CStr) (obufLen : Nat)
    (profiles : List VdpProfile) :
    ParsedFaithfully line ∧ ListedFaithfully cmd arg obufLen profiles ↔
      LineKept line ∧ ListKept cmd arg obufLen profiles :=
  and_congr (parsedFaithfully_iff line) (listedFaithfully_iff cmd arg obufLen profiles)

/-- The manager id 256 becomes 0, a seventeenth byte is written behind the instance id, and of a
profile with eleven pairs a part is listed. -/
theorem profileLines_unfaithful :
    ¬ParsedFaithfully "2,256,1,1,00010203-0405-0607-0809-0a0b0c0d0e0f,1".toList ∧
    VdpCmds.vdpParseModeLine "2,1,1,1,00010203-0405-0607-0809-0a0b0c0d0e0f10,1".toList =
      .error .outOfBounds ∧
    ∀ kept : List VdpProfile, kept.Sublist [{ macvid := List.replicate 11 {} }] →
      getArgMode ⟨1, 0, "eth0".toList, 0, vdpTlvid, 0⟩ (some [{ macvid := List.replicate 11 {} }])
        "mode".toList 4000 ≠
        .ok (keyText "mode".toList ++ valueText (kept.flatMap profileText)) := by
  refine ⟨?_, by decide +kernel, ?_⟩
  · rw [parsedFaithfully_iff]
    intro h
    have htokens : lineTokens "2,256,1,1,00010203-0405-0607-0809-0a0b0c0d0e0f,1".toList =
        ["2".toList, "256".toList, "1".toList, "1".toList,
          "00010203-0405-0607-0809-0a0b0c0d0e0f".toList, "1".toList] := by decide +kernel
    unfold LineKept at h
    rw [htokens] at h
    obtain ⟨⟨-, ⟨n, hn, -, hlt⟩, -⟩, -⟩ := h.2 (by decide) trivial
    have hread : Says "256".toList 256 := by
      unfold Says
      decide +kernel
    have hn256 := hn.unique hread
    omega
  · intro kept hkept
    rcases List.sublist_singleton.mp hkept with rfl | rfl
    · decide +kernel
    · decide +kernel

end Lldpad.Qbg
