import Lldpad.Proofs.Qbg.PrintedText
import Lldpad.Proofs.Qbg.RequestText
import Lldpad.Proofs.Qbg.Vdp22Tlv

/-!
# `Lldpad.Proofs.Qbg.PrintedValues`: the values of a printed VSI

What `vdp_vdpnl2str` prints as a value, each reader of `vdp22_parse_str_vdpnl` reads back: numbers,
modes, UUIDs, manager identifiers and filters. Where more can be printed than a reader takes, the
values are those that have the form of the input (`MgridPrints`, `FidPrints`).
-/

namespace Lldpad.Qbg

open Lldpad.Lib
open Lldpad.Lldp (Bytes ethAlen)

/-! ### Numbers and modes -/

theorem getnumber_toDigits {n : Nat} {min max : UInt32} (hmin : min.toNat ≤ n)
    (hmax : n ≤ max.toNat) : getnumber (Nat.toDigits 10 n) min max = some (UInt32.ofNat n) := by
  have hlt := max.toNat_lt
  have hpadded : Lib.padded 0 n = Nat.toDigits 10 n := by simp [Lib.padded]
  have hbase : (0 : Nat) = 10 ∨ (0 : Nat) = 0 := .inr rfl
  have hread := strtol_padded hbase 0 (n := n) (by omega)
  rw [hpadded] at hread
  have hvalue : UInt32.ofInt (n : Int) = UInt32.ofNat n :=
    ofInt_of_fits (Int.natCast_nonneg n)
  have hnat : (UInt32.ofNat n).toNat = n := UInt32.toNat_ofNat_of_lt' (show n < 2 ^ 32 by omega)
  unfold getnumber
  dsimp only
  rw [hread, hvalue, if_pos]
  refine ⟨rfl, ?_, ?_⟩
  · rw [UInt32.le_iff_toNat_le, hnat]
    exact hmin
  · rw [UInt32.le_iff_toNat_le, hnat]
    exact hmax

/-- The modes of a request -/
def isMode (mode : UInt8) : Prop :=
  mode = vdp22Assoc ∨ mode = vdp22Preassoc ∨ mode = vdp22PreassocWithRr ∨ mode = vdp22Deassoc

theorem getmode_mode2str (p : VdpnlVsi) {mode : UInt8} (h : isMode mode) :
    getmode p (mode2str mode) = some { p with request := mode, nlVersion := .nlf2 } := by
  rcases h with rfl | rfl | rfl | rfl <;> rfl

/-! ### Bytes -/

theorem hexField_byte (b : UInt8) : ∃ c d high low, hexField 2 b.toNat = [c, d] ∧
    digitValue 16 c = some high ∧ digitValue 16 d = some low ∧
      UInt8.ofNat (16 * high + low) = b := by
  have hlt := b.toNat_lt
  have hhigh : b.toNat / 16 < 16 := by omega
  have hlow : b.toNat % 16 < 16 := by omega
  refine ⟨_, _, b.toNat / 16, b.toNat % 16, hexField_eq_hexFixed 2 b.toNat (by decide) hlt, ?_, ?_,
    ?_⟩
  · rw [Nat.mod_eq_of_lt hhigh]
    exact hex2num_digitChar hhigh
  · exact hex2num_digitChar hlow
  · rw [Nat.div_add_mod]
    exact UInt8.ofNat_toNat

theorem hexBytes_cons (b : UInt8) (bytes : Bytes) :
    hexBytes (b :: bytes) = hexField 2 b.toNat ++ hexBytes bytes := List.flatMap_cons

theorem isDigit_hexBytes (bytes : Bytes) :
    ∀ c ∈ hexBytes bytes, (digitValue 16 c).isSome = true := by
  induction bytes with
  | nil => nofun
  | cons b bytes ih =>
    obtain ⟨c, d, high, low, hb, hc, hd, -⟩ := hexField_byte b
    intro e he
    rw [hexBytes_cons, hb] at he
    rcases List.mem_append.mp he with he | he
    · rcases List.mem_cons.mp he with rfl | he
      · rw [hc]
        rfl
      · rw [List.mem_singleton.mp he, hd]
        rfl
    · exact ih e he

theorem ne_dash_of_digit {c : Char} {v : Nat} (h : digitValue 16 c = some v) : c ≠ '-' := by
  rintro rfl
  cases h

/-! ### UUIDs -/

theorem uuidLoop_dash (room : Nat) (s : CStr) : uuidLoop room ('-' :: s) =
    if room = 0 then ([], '-' :: s) else uuidLoop room s := by
  cases room with
  | zero => rfl
  | succ room => rw [uuidLoop, if_pos rfl, if_neg (Nat.succ_ne_zero room)]

theorem uuidLoop_hexBytes (bytes : Bytes) (room : Nat) (rest : CStr) :
    uuidLoop (bytes.length + room) (hexBytes bytes ++ rest) =
      (bytes ++ (uuidLoop room rest).1, (uuidLoop room rest).2) := by
  induction bytes with
  | nil => simp [hexBytes]
  | cons b bytes ih =>
    obtain ⟨c, d, high, low, hb, hc, hd, hvalue⟩ := hexField_byte b
    have hroom : (b :: bytes).length + room = bytes.length + room + 1 := by
      rw [List.length_cons]
      omega
    rw [hroom, hexBytes_cons, hb]
    show uuidLoop (bytes.length + room + 1) (c :: d :: (hexBytes bytes ++ rest)) = _
    rw [uuidLoop, if_neg (ne_dash_of_digit hc), scanHexByte_digits hc hd, hvalue]
    dsimp only
    rw [ih]
    rfl

theorem uuid_parts (bytes : Bytes) (h : bytes.length = 16) : ∃ a b c d e : Bytes,
    (bytes.drop 0).take 4 = a ∧ (bytes.drop 4).take 2 = b ∧ (bytes.drop 6).take 2 = c ∧
      (bytes.drop 8).take 2 = d ∧ (bytes.drop 10).take 6 = e ∧
      (a.length = 4 ∧ b.length = 2 ∧ c.length = 2 ∧ d.length = 2 ∧ e.length = 6) ∧
      bytes = a ++ (b ++ (c ++ (d ++ e))) := by
  refine ⟨_, _, _, _, _, rfl, rfl, rfl, rfl, rfl, ?_, ?_⟩
  · simp only [List.length_take, List.length_drop, h]
    decide
  · have hend : (bytes.drop 10).take 6 = bytes.drop 10 :=
      List.take_of_length_le (by rw [List.length_drop]; omega)
    have hcut (n k : Nat) : (bytes.drop n).take k ++ bytes.drop (n + k) = bytes.drop n := by
      rw [← List.drop_drop, List.take_append_drop]
    rw [hend, hcut 8 2, hcut 6 2, hcut 4 2, hcut 0 4]
    rfl

theorem ofBytes_bytes (u : Octets 16) : Octets.ofBytes u.bytes = u := by
  unfold Octets.ofBytes
  congr 1
  exact List.take_left' u.length_eq

theorem vdpUuid2str_parts (u : Octets 16) : ∃ a b c d e : Bytes,
    vdpUuid2str u = hexBytes a ++ '-' :: (hexBytes b ++ '-' :: (hexBytes c ++ '-' ::
      (hexBytes d ++ '-' :: hexBytes e))) ∧
      (a.length = 4 ∧ b.length = 2 ∧ c.length = 2 ∧ d.length = 2 ∧ e.length = 6) ∧
      u.bytes = a ++ (b ++ (c ++ (d ++ e))) := by
  obtain ⟨a, b, c, d, e, ha, hb, hc, hd, he, hlen, hbytes⟩ := uuid_parts u.bytes u.length_eq
  refine ⟨a, b, c, d, e, ?_, hlen, hbytes⟩
  unfold vdpUuid2str
  dsimp only
  rw [ha, hb, hc, hd, he]
  simp only [List.append_assoc, List.cons_append]

theorem length_vdpUuid2str (u : Octets 16) : (vdpUuid2str u).length = 36 := by
  obtain ⟨a, b, c, d, e, htext, ⟨hla, hlb, hlc, hld, hle⟩, -⟩ := vdpUuid2str_parts u
  rw [htext]
  simp only [List.length_append, List.length_cons, length_hexBytes]
  omega

theorem all_vdpUuid2str (u : Octets 16) :
    ((vdpUuid2str u).all fun c => (digitValue 16 c).isSome || c = '-') = true := by
  obtain ⟨a, b, c, d, e, htext, -⟩ := vdpUuid2str_parts u
  rw [List.all_eq_true]
  intro x hx
  have hdigits := isDigit_hexBytes
  rw [htext] at hx
  simp only [List.mem_append, List.mem_cons] at hx
  rw [Bool.or_eq_true, decide_eq_true_eq]
  rcases hx with hx | rfl | hx | rfl | hx | rfl | hx | rfl | hx
  · exact .inl (hdigits a x hx)
  · exact .inr rfl
  · exact .inl (hdigits b x hx)
  · exact .inr rfl
  · exact .inl (hdigits c x hx)
  · exact .inr rfl
  · exact .inl (hdigits d x hx)
  · exact .inr rfl
  · exact .inl (hdigits e x hx)

/-- The loop has its sixteen bytes at the end of the text, and leaves what follows. -/
theorem uuidLoop_printed (u : Octets 16) (rest : CStr) :
    uuidLoop 16 (vdpUuid2str u ++ rest) = (u.bytes, rest) := by
  obtain ⟨a, b, c, d, e, htext, ⟨hla, hlb, hlc, hld, hle⟩, hbytes⟩ := vdpUuid2str_parts u
  have hread (bytes : Bytes) (room : Nat) (rest : CStr) (h : room ≠ 0) :
      uuidLoop (bytes.length + room) (hexBytes bytes ++ '-' :: rest) =
        (bytes ++ (uuidLoop room rest).1, (uuidLoop room rest).2) := by
    rw [uuidLoop_hexBytes, uuidLoop_dash, if_neg h]
  have hfull : uuidLoop 0 rest = ([], rest) := by
    cases rest <;> rfl
  have hlast : uuidLoop 6 (hexBytes e ++ rest) = (e, rest) := by
    have := uuidLoop_hexBytes e 0 rest
    rw [hle, hfull, List.append_nil] at this
    exact this
  have h4 := hread a 12 (hexBytes b ++ '-' :: (hexBytes c ++ '-' ::
    (hexBytes d ++ '-' :: (hexBytes e ++ rest)))) (by decide)
  have h6 := hread b 10 (hexBytes c ++ '-' :: (hexBytes d ++ '-' :: (hexBytes e ++ rest)))
    (by decide)
  have h8 := hread c 8 (hexBytes d ++ '-' :: (hexBytes e ++ rest)) (by decide)
  have h10 := hread d 6 (hexBytes e ++ rest) (by decide)
  rw [hla] at h4
  rw [hlb] at h6
  rw [hlc] at h8
  rw [hld, hlast] at h10
  rw [htext]
  simp only [List.append_assoc, List.cons_append]
  rw [h4, h6, h8, h10, hbytes]

/-- A UUID is read as it is printed. -/
theorem vdpStr2uuid_printed (old u : Octets 16) : vdpStr2uuid old (vdpUuid2str u) = (u, 0) := by
  have hloop := uuidLoop_printed u []
  rw [List.append_nil] at hloop
  unfold vdpStr2uuid
  rw [if_pos (all_vdpUuid2str u), hloop]
  exact Prod.ext (ofBytes_bytes u) rfl

/-- Behind a printed UUID nothing may follow. -/
theorem vdpStr2uuid_longer (old u : Octets 16) {rest : CStr} (h : rest ≠ []) :
    (vdpStr2uuid old (vdpUuid2str u ++ rest)).2 ≠ 0 := by
  unfold vdpStr2uuid
  split_ifs with hall
  · rw [uuidLoop_printed]
    dsimp only
    rw [if_neg h]
    decide
  · dsimp only
    decide

/-! ### Manager identifiers -/

/-- The manager identifiers that are printed as they are read: a digit, or two to fifteen letters
and digits that are not all hexadecimal -/
def MgridPrints (m : Octets 16) : Prop :=
  (∃ d, d < 10 ∧ m = .ofBytes [UInt8.ofNat d]) ∨
    ∃ text, alnum text ∧ 2 ≤ text.length ∧ text.length < 16 ∧
      (∃ c ∈ text, digitValue 16 c = none ∧ c ≠ '-') ∧ m = .ofBytes (textBytes text)

theorem toNat_of_alnum {c : Char} (h : c.isAlphanum = true) : 0 < c.toNat ∧ c.toNat < 256 := by
  have hbounds {a b : Char} (hle : a ≤ c ∧ c ≤ b) : a.toNat ≤ c.toNat ∧ c.toNat ≤ b.toNat := hle
  have hrange {a b : Char} (hin : (decide (a ≤ c) && decide (c ≤ b)) = true) :
      a.toNat ≤ c.toNat ∧ c.toNat ≤ b.toNat := by
    rw [Bool.and_eq_true, decide_eq_true_eq, decide_eq_true_eq] at hin
    exact hbounds hin
  rcases (Bool.or_eq_true _ _).mp h with h | h
  · rcases (Bool.or_eq_true _ _).mp h with h | h
    · have := hbounds (a := 'A') (b := 'Z') (of_decide_eq_true h)
      simp at this
      omega
    · have := hrange (a := 'a') (b := 'z') h
      simp at this
      omega
  · have := hrange (a := '0') (b := '9') h
    simp at this
    omega

theorem ofBytes_textBytes {text : CStr} (hlen : text.length < 16) :
    (Octets.ofBytes (textBytes text)).bytes =
      textBytes text ++ List.replicate (16 - text.length) 0 := by
  show (textBytes text ++ List.replicate 16 0).take 16 = _
  rw [List.take_append, List.take_of_length_le (by simp [textBytes]; omega), List.take_replicate]
  simp [textBytes]

theorem fieldText_ofBytes {text : CStr} (halnum : alnum text) (hlen : text.length < 16) :
    fieldText (Octets.ofBytes (textBytes text)).bytes = text := by
  have hne : ∀ b ∈ textBytes text, decide (b ≠ 0) = true := by
    intro b hb
    obtain ⟨c, hc, rfl⟩ := List.mem_map.mp hb
    obtain ⟨hpos, hlt⟩ := toNat_of_alnum (halnum c hc)
    rw [decide_eq_true_eq, ← UInt8.toNat_inj.ne, UInt8.toNat_ofNat_of_lt' hlt]
    exact Nat.pos_iff_ne_zero.mp hpos
  unfold fieldText
  rw [ofBytes_textBytes hlen, List.takeWhile_append_of_pos hne]
  have hend : (List.replicate (16 - text.length) (0 : UInt8)).takeWhile (· ≠ 0) = [] := by
    cases 16 - text.length <;> rfl
  rw [hend, List.append_nil, textBytes, List.map_map]
  refine (List.map_congr_left fun c hc => ?_).trans (List.map_id text)
  show Char.ofNat (UInt8.ofNat c.toNat).toNat = c
  rw [UInt8.toNat_ofNat_of_lt' (toNat_of_alnum (halnum c hc)).2, Char.ofNat_toNat]

theorem getmgr2id_printed (p : VdpnlVsi) {from' : VdpnlVsi} (hzero : p.vsiMgrid2 = .zero 16)
    (h : MgridPrints from'.vsiMgrid2) :
    getmgr2id p (mgrid2str from') = some { p with vsiMgrid2 := from'.vsiMgrid2 } := by
  rcases h with ⟨d, hd, hm⟩ | ⟨text, halnum, htwo, hlen, ⟨c, hc, hnone, hdash⟩, hm⟩
  · unfold mgrid2str getmgr2id
    rw [hm]
    interval_cases d <;> rfl
  · have htext : mgrid2str from' = text := by
      -- There is a character behind the first one.
      have hsecond : ((from'.vsiMgrid2.bytes.drop 1).any (· ≠ 0)) = true := by
        match text, htwo with
        | a :: b :: rest, _ =>
          rw [hm, List.any_eq_true]
          refine ⟨UInt8.ofNat b.toNat, ?_, ?_⟩
          · show UInt8.ofNat b.toNat ∈ (UInt8.ofNat b.toNat :: _ : Bytes)
            exact List.mem_cons_self
          · obtain ⟨hpos, hlt⟩ := toNat_of_alnum (halnum b (by simp))
            rw [decide_eq_true_eq, ← UInt8.toNat_inj.ne, UInt8.toNat_ofNat_of_lt' hlt]
            exact Nat.pos_iff_ne_zero.mp hpos
      unfold mgrid2str
      rw [if_pos hsecond, hm]
      exact fieldText_ofBytes halnum hlen
    have huuid : vdpStr2uuid p.vsiMgrid2 text = (p.vsiMgrid2, -1) := by
      unfold vdpStr2uuid
      rw [if_neg]
      intro hall
      have := List.all_eq_true.mp hall c hc
      simp [hnone, hdash] at this
    have hfield : Octets.ofBytes (textBytes text ++ (Octets.zero 16).bytes.drop text.length) =
        from'.vsiMgrid2 := by
      have hdrop : (Octets.zero 16).bytes.drop text.length = List.replicate (16 - text.length) 0 :=
        List.drop_replicate
      rw [hm, hdrop, ← ofBytes_textBytes hlen]
      exact ofBytes_bytes _
    unfold getmgr2id
    rw [htext, huuid]
    dsimp only
    rw [if_neg (by decide), if_pos ⟨List.all_eq_true.mpr halnum, hlen⟩, ← hfield, hzero]
    simp [textBytes]

/-! ### Filters -/

/-- The field with the VLAN and the QoS of a filter -/
def VdpnlMac.vlanQos (m : VdpnlMac) : UInt16 :=
  vdp22SetQos m.qos.toUInt16 ||| vdp22GetVlanid m.vlan

/-- The entries that are printed as they are read: a VLAN of twelve bits, a QoS of four, and what
the format says. The documented input has two dashes before a group that stands alone, but one is
printed, so this format is left out. -/
structure FidPrints (fif : UInt8) (m : VdpnlMac) : Prop where
  vlan : m.vlan.toNat < 2 ^ 12
  qos : m.qos.toNat < 2 ^ 4
  changed : m.changed = 0
  format : fif = vdp22FfmtVid ∨ fif = vdp22FfmtMacvid ∨ fif = vdp22FfmtGroupmacvid
  mac : m.mac = .zero ↔ fif = vdp22FfmtVid
  gpid : if fif = vdp22FfmtGroupmacvid then 0 < m.gpid.toNat ∧ m.gpid.toNat < 2 ^ 32
    else m.gpid = 0

theorem vlanQos_split {m : VdpnlMac} (hvlan : m.vlan.toNat < 2 ^ 12) (hqos : m.qos.toNat < 2 ^ 4) :
    vdp22GetVlanid m.vlanQos = m.vlan ∧ (vdp22GetQos m.vlanQos).toUInt8 = m.qos := by
  have hshift : (vdp22SetQos m.qos.toUInt16).toNat = m.qos.toNat <<< 12 := by
    have hsame : (m.qos.toUInt16 &&& 0xf : UInt16).toNat = m.qos.toNat := by
      rw [UInt16.toNat_and, UInt8.toNat_toUInt16]
      exact (Nat.and_two_pow_sub_one_eq_mod _ 4).trans (Nat.mod_eq_of_lt hqos)
    rw [vdp22SetQos, UInt16.toNat_shiftLeft, hsame]
    refine Nat.mod_eq_of_lt ?_
    show m.qos.toNat <<< 12 < 2 ^ 16
    rw [Nat.shiftLeft_eq]
    omega
  have hvlanid : (vdp22GetVlanid m.vlan).toNat = m.vlan.toNat := by
    rw [vdp22GetVlanid_toNat, Nat.mod_eq_of_lt hvlan]
  have hfield : m.vlanQos.toNat = m.qos.toNat * 2 ^ 12 + m.vlan.toNat := by
    rw [VdpnlMac.vlanQos, UInt16.toNat_or, hshift, hvlanid, shift_or_eq hvlan]
  constructor
  · refine UInt16.toNat_inj.mp ?_
    rw [vdp22GetVlanid_toNat, hfield]
    omega
  · have hfield' : (vdp22GetQos m.vlanQos).toNat = m.qos.toNat := by
      rw [vdp22GetQos, UInt16.toNat_and, UInt16.toNat_shiftRight, Nat.shiftRight_eq_div_pow, hfield]
      refine (Nat.and_two_pow_sub_one_eq_mod _ 4).trans ?_
      show (m.qos.toNat * 2 ^ 12 + m.vlan.toNat) / 2 ^ 12 % 2 ^ 4 = m.qos.toNat
      omega
    refine UInt8.toNat_inj.mp ?_
    rw [UInt16.toNat_toUInt8, hfield']
    omega

/-- What an entry is printed as -/
def VdpnlMac.fid (fif : UInt8) (m : VdpnlMac) : Fid where
  vlan := m.vlanQos.toUInt32
  mac := if fif = vdp22FfmtVid then none else some m.mac
  gpid := if fif = vdp22FfmtGroupmacvid then some m.gpid.toUInt32 else none

variable {fif : UInt8} {m : VdpnlMac}

theorem FidPrints.fid_fif (h : FidPrints fif m) : (m.fid fif).fif = fif := by
  rcases h.format with rfl | rfl | rfl <;> rfl

theorem FidPrints.fid_entry (h : FidPrints fif m) : (m.fid fif).entry = m := by
  obtain ⟨hvlan, hqos⟩ := vlanQos_split h.vlan h.qos
  have hmac := h.mac
  have hgpid := h.gpid
  have hchanged := h.changed
  have hround : m.vlanQos.toUInt32.toUInt16 = m.vlanQos := by
    refine UInt16.toNat_inj.mp ?_
    have hlt : m.vlanQos.toNat < 2 ^ 16 := m.vlanQos.toNat_lt
    rw [UInt32.toNat_toUInt16, UInt16.toNat_toUInt32, Nat.mod_eq_of_lt hlt]
  unfold Fid.entry VdpnlMac.fid
  rw [hround, hvlan, hqos]
  obtain ⟨vlan, mac, qos, changed, gpid⟩ := m
  dsimp only at hmac hgpid hchanged ⊢
  subst hchanged
  have hgroup : 0 < gpid.toNat ∧ gpid.toNat < 2 ^ 32 → gpid.toUInt32.toUInt64 = gpid := by
    rintro ⟨-, hlt⟩
    refine UInt64.toNat_inj.mp ?_
    rw [UInt32.toNat_toUInt64, UInt64.toNat_toUInt32, Nat.mod_eq_of_lt hlt]
  rcases h.format with rfl | rfl | rfl
  · -- the VLAN alone
    rw [hmac.mpr rfl, show gpid = 0 from hgpid]
    rfl
  · -- with a MAC address
    rw [show gpid = 0 from hgpid]
    rfl
  · -- with a MAC address and a group
    rw [if_pos rfl] at hgpid
    have hback := hgroup hgpid
    simp only [if_pos, Option.getD_some, hback]
    rfl

/-! ### The text of a filter -/

theorem not_mem_toDigits {c : Char} (hc : c.isDigit = false) (n : Nat) :
    c ∉ Nat.toDigits 10 n := fun h =>
  Bool.noConfusion (hc.symm.trans (isDigit_of_mem_toDigits c h))

/-- The bytes of a MAC address with colons in between -/
def colonText (bytes : Bytes) : CStr :=
  (bytes.map fun b => hexField 2 b.toNat).intersperse [':'] |>.flatten

theorem colonText_cons (b c : UInt8) (bytes : Bytes) :
    colonText (b :: c :: bytes) = hexField 2 b.toNat ++ ':' :: colonText (c :: bytes) := rfl

theorem colonHex_colonText (bytes : Bytes) (h : bytes ≠ []) :
    colonHex bytes.length (colonText bytes) = some bytes := by
  induction bytes with
  | nil => exact absurd rfl h
  | cons b bytes ih =>
    obtain ⟨c, d, high, low, hb, hc, hd, hvalue⟩ := hexField_byte b
    cases bytes with
    | nil =>
      have htext : colonText [b] = [c, d] := by
        unfold colonText
        simp [hb]
      rw [htext]
      show colonHex (0 + 1) [c, d] = _
      rw [colonHex, hc, hd]
      simp only [Option.bind_eq_bind, Option.bind_some, if_true, hvalue]
    | cons e bytes =>
      rw [colonText_cons, hb]
      show colonHex ((e :: bytes).length + 1) (c :: d :: ':' :: colonText (e :: bytes)) = _
      rw [colonHex, hc, hd]
      simp only [Option.bind_eq_bind, Option.bind_some, hvalue, List.length_cons,
        if_neg (Nat.succ_ne_zero _)]
      rw [List.length_cons] at ih
      rw [ih (List.cons_ne_nil e bytes)]
      rfl

theorem colonText_spec (bytes : Bytes) :
    '-' ∉ colonText bytes ∧ (colonText bytes).length ≤ 3 * bytes.length ∧
      (bytes ≠ [] → colonText bytes ≠ []) := by
  induction bytes with
  | nil => exact ⟨nofun, Nat.le_refl _, fun h => absurd rfl h⟩
  | cons b bytes ih =>
    obtain ⟨c, d, high, low, hb, hc, hd, -⟩ := hexField_byte b
    have hnot : '-' ∉ [c, d] := by
      have hcne := ne_dash_of_digit hc
      have hdne := ne_dash_of_digit hd
      simp [hcne.symm, hdne.symm]
    cases bytes with
    | nil =>
      have htext : colonText [b] = [c, d] := by
        unfold colonText
        simp [hb]
      rw [htext]
      exact ⟨hnot, by simp, fun _ => by simp⟩
    | cons e bytes =>
      obtain ⟨hdash, hlen, -⟩ := ih
      rw [colonText_cons, hb]
      refine ⟨?_, ?_, by simp⟩
      · simp only [List.mem_append, List.mem_cons, not_or]
        simp only [List.mem_cons, not_or] at hnot
        exact ⟨hnot, by decide, hdash⟩
      · simp only [List.length_append, List.length_cons, List.length_nil] at hlen ⊢
        omega

theorem readMac_printed (mac : MacAddr) :
    readMac (some (colonText mac.bytes)) = some (some mac) := by
  have hread := colonHex_colonText mac.bytes (by
    intro h
    have := mac.length_eq
    rw [h] at this
    cases this)
  rw [mac.length_eq] at hread
  show ((scanHexBytes ethAlen (colonText mac.bytes)).bind macOfBytes).map some = _
  rw [scanHexBytes_colonHex hread, Option.bind_some]
  unfold macOfBytes
  rw [dif_pos mac.length_eq]
  rfl

theorem fidGroup_eq {m : VdpnlMac} (h : m.gpid.toNat < 2 ^ 32) :
    fidGroup m = Nat.toDigits 10 m.gpid.toNat := by
  have hint : m.gpid.toInt64.toInt = (m.gpid.toNat : Int) :=
    BitVec.toInt_eq_toNat_of_lt (show 2 * m.gpid.toNat < 2 ^ 64 by omega)
  unfold fidGroup decimal
  rw [hint]
  simp

theorem fidValue_eq (h : FidPrints fif m) : fidValue fif m =
    Nat.toDigits 10 m.vlanQos.toNat ++
      (if fif = vdp22FfmtVid then [] else '-' :: colonText m.mac.bytes) ++
      if fif = vdp22FfmtGroupmacvid then '-' :: Nat.toDigits 10 m.gpid.toNat else [] := by
  have hvlan := length_toDigits_le (n := m.vlanQos.toNat) (k := 4) (by
    have : m.vlanQos.toNat < 2 ^ 16 := m.vlanQos.toNat_lt
    omega)
  have hmac := (colonText_spec m.mac.bytes).2.1
  have hlen : m.mac.bytes.length = 6 := m.mac.length_eq
  have hgpid := h.gpid
  rcases h.format with rfl | rfl | rfl
  · show (Nat.toDigits 10 m.vlanQos.toNat).take 49 = Nat.toDigits 10 m.vlanQos.toNat ++ [] ++ []
    rw [List.take_of_length_le (by omega), List.append_nil, List.append_nil]
  · show (Nat.toDigits 10 m.vlanQos.toNat ++ '-' :: colonText m.mac.bytes).take 49 =
      Nat.toDigits 10 m.vlanQos.toNat ++ '-' :: colonText m.mac.bytes ++ []
    rw [List.take_of_length_le, List.append_nil]
    rw [List.length_append, List.length_cons]
    omega
  · rw [if_pos rfl] at hgpid
    have hgroup := length_toDigits_le (n := m.gpid.toNat) (k := 9) (by omega)
    show (Nat.toDigits 10 m.vlanQos.toNat ++ '-' :: colonText m.mac.bytes ++ '-' :: fidGroup m).take
        49 = Nat.toDigits 10 m.vlanQos.toNat ++ '-' :: colonText m.mac.bytes ++
          '-' :: Nat.toDigits 10 m.gpid.toNat
    rw [fidGroup_eq hgpid.2, List.take_of_length_le]
    rw [List.length_append, List.length_append, List.length_cons, List.length_cons]
    omega

theorem readVlan_printed (m : VdpnlMac) :
    getnumber (Nat.toDigits 10 m.vlanQos.toNat) 0 0xffff = some m.vlanQos.toUInt32 := by
  have hlt : m.vlanQos.toNat < 2 ^ 16 := m.vlanQos.toNat_lt
  have hmax : m.vlanQos.toNat ≤ (0xffff : UInt32).toNat := Nat.le_of_lt_succ hlt
  rw [getnumber_toDigits (Nat.zero_le _) hmax]
  refine congrArg some (UInt32.toNat_inj.mp ?_)
  rw [UInt16.toNat_toUInt32]
  exact UInt32.toNat_ofNat_of_lt' (show m.vlanQos.toNat < 2 ^ 32 by omega)

theorem readGroup_printed {gpid : UInt64} (h : 0 < gpid.toNat ∧ gpid.toNat < 2 ^ 32) :
    readGroup (some (Nat.toDigits 10 gpid.toNat)) = some (some gpid.toUInt32) := by
  have hmax : gpid.toNat ≤ (0xffffffff : UInt32).toNat := Nat.le_of_lt_succ h.2
  have hread := getnumber_toDigits (show (1 : UInt32).toNat ≤ gpid.toNat from h.1) hmax
  have hvalue : UInt32.ofNat gpid.toNat = gpid.toUInt32 := by
    refine UInt32.toNat_inj.mp ?_
    rw [UInt64.toNat_toUInt32, UInt32.toNat_ofNat_of_lt' (show gpid.toNat < 2 ^ 32 from h.2),
      Nat.mod_eq_of_lt h.2]
  obtain ⟨c, s, hs, -, -⟩ := exists_toDigits gpid.toNat
  rw [hs, hvalue] at hread
  rw [hs]
  show (getnumber (c :: s) 1 0xffffffff).map some = _
  rw [hread]
  rfl

theorem splitFid_printed (h : FidPrints fif m) : splitFid (fidValue fif m) =
    (Nat.toDigits 10 m.vlanQos.toNat,
      if fif = vdp22FfmtVid then none else some (colonText m.mac.bytes),
      if fif = vdp22FfmtGroupmacvid then some (Nat.toDigits 10 m.gpid.toNat) else none) := by
  have hdigits := not_mem_toDigits (show '-'.isDigit = false from rfl) m.vlanQos.toNat
  obtain ⟨hdash, -, hne⟩ := colonText_spec m.mac.bytes
  have hmac : colonText m.mac.bytes ≠ [] := hne fun h => by
    have := m.mac.length_eq
    rw [h] at this
    cases this
  rw [fidValue_eq h]
  rcases h.format with rfl | rfl | rfl
  · show splitFid (Nat.toDigits 10 m.vlanQos.toNat ++ [] ++ []) = (_, none, none)
    rw [List.append_nil, List.append_nil]
    unfold splitFid
    rw [strchr_eq_none.mpr hdigits]
  · show splitFid (Nat.toDigits 10 m.vlanQos.toNat ++ '-' :: colonText m.mac.bytes ++ []) =
      (_, some _, none)
    rw [List.append_nil]
    unfold splitFid
    rw [strchr_eq_some.mpr ⟨rfl, hdigits⟩]
    dsimp only
    rw [strchr_eq_none.mpr hdash]
  · show splitFid (Nat.toDigits 10 m.vlanQos.toNat ++ '-' :: colonText m.mac.bytes ++
      '-' :: Nat.toDigits 10 m.gpid.toNat) = (_, some _, some _)
    rw [List.append_assoc]
    unfold splitFid
    rw [List.cons_append, strchr_eq_some.mpr ⟨rfl, hdigits⟩]
    dsimp only
    rw [strchr_eq_some.mpr ⟨rfl, hdash⟩]
    cases htext : colonText m.mac.bytes with
    | nil => exact absurd htext hmac
    | cons c s => rfl

theorem readFid_printed (h : FidPrints fif m) : readFid (fidValue fif m) = some (m.fid fif) := by
  have hmac : readMac (if fif = vdp22FfmtVid then none else some (colonText m.mac.bytes)) =
      some (if fif = vdp22FfmtVid then none else some m.mac) := by
    split_ifs
    · rfl
    · exact readMac_printed m.mac
  have hgpid := h.gpid
  have hgroup : readGroup (if fif = vdp22FfmtGroupmacvid then
        some (Nat.toDigits 10 m.gpid.toNat) else none) =
      some (if fif = vdp22FfmtGroupmacvid then some m.gpid.toUInt32 else none) := by
    split_ifs at hgpid ⊢
    · exact readGroup_printed hgpid
    · rfl
  unfold readFid
  rw [splitFid_printed h]
  rw [readVlan_printed, hmac, hgroup]
  rfl

end Lldpad.Qbg
