import Lldpad.Proofs.Qbg.Vdp22Tlv
import Lldpad.Qbg.VdpTlv

/-!
# `Lldpad.Proofs.Qbg.VdpTlv`: the round trip of the VSI TLV

`tlvInfoVdpAt_header` and `makeMacvid_of_at` read what `vdp_bld_vsi_tlv` wrote, part by part.
The header comes back as far as its fields are wide enough, and the pairs come back in the
opposite order (`vdpRoundTrips_iff`).

Nothing in the encoder looks at the length of the content, and `vdp_validate_tlv` divides
before it compares. `vdp_tlv_ok_iff` is the exact condition under which neither matters.
-/

namespace Lldpad.Qbg

open Lldpad.Lib
open Lldpad.Lldp (Bytes ethAlen)

/-! ### Numbers of 24 bits -/

theorem append3o_low24 (x : UInt64) : append3o x = append3o (x &&& 0xffffff) := by
  have hand : x.toNat &&& 16777215 = x.toNat % 2 ^ 24 := Nat.and_two_pow_sub_one_eq_mod _ 24
  have hlow : (x &&& 0xffffff).toNat = x.toNat % 2 ^ 24 := by
    rw [UInt64.toNat_and]
    exact hand
  unfold append3o
  congr 1
  · refine UInt8.toNat_inj.mp ?_
    simp only [UInt64.toNat_toUInt8, UInt64.toNat_shiftRight, hlow, Nat.shiftRight_eq_div_pow]
    show x.toNat / 2 ^ 16 % 256 = x.toNat % 2 ^ 24 / 2 ^ 16 % 256
    omega
  · congr 1
    · refine UInt8.toNat_inj.mp ?_
      simp only [UInt64.toNat_toUInt8, UInt64.toNat_shiftRight, hlow, Nat.shiftRight_eq_div_pow]
      show x.toNat / 2 ^ 8 % 256 = x.toNat % 2 ^ 24 / 2 ^ 8 % 256
      omega
    · congr 1
      refine UInt8.toNat_inj.mp ?_
      simp only [UInt64.toNat_toUInt8, hlow]
      omega

theorem extract3o_hton24 {mem : Bytes} {i : Nat} {x : UInt32} (h : At mem i (hton24 x)) :
    ∃ y : UInt64, extract3o mem i = .ok y ∧ y.toUInt32.toNat = x.toNat % 2 ^ 24 := by
  have hand : x.toNat &&& 16777215 = x.toNat % 2 ^ 24 := Nat.and_two_pow_sub_one_eq_mod _ 24
  have hlow : (x.toUInt64 &&& 0xffffff).toNat = x.toNat % 2 ^ 24 := by
    rw [UInt64.toNat_and, UInt32.toNat_toUInt64]
    exact hand
  rw [hton24, append3o_low24] at h
  refine ⟨x.toUInt64 &&& 0xffffff, extract3o_of_at h (by rw [hlow]; omega), ?_⟩
  rw [UInt64.toNat_toUInt32, hlow]
  omega

/-! ### The header -/

theorem macVlanP_length (mv : MacVlan) : (macVlanP mv).length = macVlanPSz := by
  have hmac : mv.mac.bytes.length = 6 := mv.mac.length_eq
  simp [macVlanP, macVlanPSz, hmac]

theorem macVlanPs_length (mvs : List MacVlan) :
    (mvs.flatMap macVlanP).length = mvs.length * macVlanPSz := by
  induction mvs with
  | nil => rfl
  | cons mv mvs ih =>
    rw [List.flatMap_cons, List.length_append, macVlanP_length, ih, List.length_cons,
      Nat.succ_mul, Nat.add_comm]

/-- The header that `vdp_bld_vsi_tlv` writes -/
def vdpHeader (p : VdpProfile) : Bytes :=
  ouiIeee8021Qbg ++ [lldpVdpSubtype, p.mode.toUInt8, 0, p.mgrid] ++ hton24 p.id ++
    [p.version] ++ p.instanceId.bytes ++ [vdpFilterInfoFormatMacvid] ++ append2o p.entries

theorem vdpHeader_length (p : VdpProfile) : (vdpHeader p).length = tlvInfoVdpSz := by
  have hid : p.instanceId.bytes.length = 16 := p.instanceId.length_eq
  simp [vdpHeader, ouiIeee8021Qbg, hton24, tlvInfoVdpSz, hid]

variable {info : Bytes}

theorem tlvInfoVdpAt_header {p : VdpProfile} (h : At info 0 (vdpHeader p)) :
    ∃ id : UInt32, id.toNat = p.id.toNat % 2 ^ 24 ∧
      tlvInfoVdpAt info = .ok {
        oui := ouiIeee8021Qbg
        sub := lldpVdpSubtype
        mode := p.mode.toUInt8
        response := 0
        mgrid := p.mgrid
        id := id
        version := p.version
        instanceId := p.instanceId
        format := vdpFilterInfoFormatMacvid
        entries := p.entries } := by
  have hid : p.instanceId.bytes.length = 16 := p.instanceId.length_eq
  unfold vdpHeader at h
  simp only [at_append_iff, List.length_append, hid] at h
  obtain ⟨⟨⟨⟨⟨⟨houi, hfields⟩, hid24⟩, hversion⟩, hinstance⟩, hformat⟩, hentries⟩ := h
  obtain ⟨y, hy, hval⟩ := extract3o_hton24 hid24
  refine ⟨y.toUInt32, hval, ?_⟩
  have h0 : sliceAt info 0 3 = .ok ⟨ouiIeee8021Qbg, rfl⟩ := sliceAt_of_at houi rfl (by decide)
  have h3 : readAt info 3 = .ok lldpVdpSubtype := readAt_of_at hfields
  have h4 : readAt info 4 = .ok p.mode.toUInt8 := readAt_of_at hfields.tail
  have h5 : readAt info 5 = .ok 0 := readAt_of_at hfields.tail.tail
  have h6 : readAt info 6 = .ok p.mgrid := readAt_of_at hfields.tail.tail.tail
  have h7 : extract3o info 7 = .ok y := hy
  have h10 : readAt info 10 = .ok p.version := readAt_of_at hversion
  have h11 : extractNo info 11 16 = .ok p.instanceId := extractNo_of_at hinstance (by decide)
  have h27 : readAt info 27 = .ok vdpFilterInfoFormatMacvid := readAt_of_at hformat
  have h28 : extract2o info 28 = .ok p.entries := extract2o_of_at hentries
  unfold tlvInfoVdpAt
  simp only [h0, h3, h4, h5, h6, h7, h10, h11, h27, h28, bind_ok, pure_eq_ok]

/-! ### The pairs -/

/-- What comes back of a pair -/
def MacVlan.received (mv : MacVlan) : MacVlan := { mac := mv.mac, vlan := mv.vlan }

theorem makeMacvid_of_at {mvs : List MacVlan} {pos : Nat} {macvid : List MacVlan}
    (h : At info pos (mvs.flatMap macVlanP)) :
    makeMacvid info mvs.length pos macvid = .ok ((mvs.map MacVlan.received).reverse ++ macvid) := by
  induction mvs generalizing pos macvid with
  | nil => rfl
  | cons mv mvs ih =>
    have hmac : mv.mac.bytes.length = ethAlen := mv.mac.length_eq
    rw [List.flatMap_cons, at_append_iff, macVlanP_length] at h
    obtain ⟨hpair, hrest⟩ := h
    rw [macVlanP, at_append_iff, hmac] at hpair
    rw [List.length_cons, makeMacvid, sliceAt_of_at hpair.1 hmac (by decide), bind_ok,
      extract2o_of_at hpair.2, bind_ok, ih hrest, List.map_cons, List.reverse_cons,
      List.append_assoc]
    rfl

/-! ### The round trip -/

/-- The profile of its own TLV has the same data, and the same pairs in some order. -/
def VdpRoundTrips (p : VdpProfile) : Prop :=
  ∃ info vdp q, vdpBldVsiTlv p = .ok info ∧ tlvInfoVdpAt info = .ok vdp ∧
    makeProfile vdp info = .ok q ∧ q.mode = p.mode ∧ q.mgrid = p.mgrid ∧ q.id = p.id ∧
    q.version = p.version ∧ q.instanceId = p.instanceId ∧ q.format = p.format ∧
    (q.macvid.map MacVlan.pair).Perm (p.macvid.map MacVlan.pair)

theorem vdpBldVsiTlv_eq {p : VdpProfile} (h : p.macvid.length ≤ 60) :
    vdpBldVsiTlv p = .ok (vdpHeader p ++ p.macvid.flatMap macVlanP) := by
  have hentries : p.entries.toNat = p.macvid.length := by
    rw [VdpProfile.entries, UInt16.toNat_ofNat']
    omega
  have hlen : (vdpHeader p ++ p.macvid.flatMap macVlanP).length = vdpVsiTlvSz p := by
    rw [List.length_append, vdpHeader_length, macVlanPs_length, vdpVsiTlvSz, hentries]
  have hsz : (UInt16.ofNat (vdpVsiTlvSz p)).toNat = vdpVsiTlvSz p := by
    rw [UInt16.toNat_ofNat', vdpVsiTlvSz, hentries, tlvInfoVdpSz, macVlanPSz]
    omega
  unfold vdpBldVsiTlv vdpVsiInfo
  rw [if_pos (Nat.le_of_eq hentries.symm), bind_ok, hsz, ← hlen]
  exact congrArg _ (List.take_length ..)

theorem makeProfile_bldVsiTlv {p : VdpProfile} (h : p.macvid.length ≤ 60) :
    ∃ info vdp, vdpBldVsiTlv p = .ok info ∧ tlvInfoVdpAt info = .ok vdp ∧
      ∃ id : UInt32, id.toNat = p.id.toNat % 2 ^ 24 ∧ makeProfile vdp info = .ok {
        mode := p.mode.toUInt8.toUInt32
        mgrid := p.mgrid
        id := id
        version := p.version
        instanceId := p.instanceId
        format := vdpFilterInfoFormatMacvid
        macvid := (p.macvid.map MacVlan.received).reverse } := by
  have hentries : p.entries.toNat = p.macvid.length := by
    rw [VdpProfile.entries, UInt16.toNat_ofNat']
    omega
  obtain ⟨id, hid, hread⟩ := tlvInfoVdpAt_header (at_zero (vdpHeader p) (p.macvid.flatMap macVlanP))
  have hpairs : At (vdpHeader p ++ p.macvid.flatMap macVlanP) tlvInfoVdpSz
      (p.macvid.flatMap macVlanP) := by
    have hat := at_append (vdpHeader p) (p.macvid.flatMap macVlanP) []
    rwa [List.append_nil, vdpHeader_length] at hat
  refine ⟨_, _, vdpBldVsiTlv_eq h, hread, id, hid, ?_⟩
  unfold makeProfile
  rw [hentries, makeMacvid_of_at hpairs, bind_ok, List.append_nil]
  rfl

theorem macvid_received_perm (mvs : List MacVlan) :
    (((mvs.map MacVlan.received).reverse).map MacVlan.pair).Perm (mvs.map MacVlan.pair) := by
  have hpair : MacVlan.pair ∘ MacVlan.received = MacVlan.pair := rfl
  rw [List.map_reverse, List.map_map, hpair]
  exact List.reverse_perm _

theorem vdpRoundTrips_iff {p : VdpProfile} (h : p.macvid.length ≤ 60) :
    VdpRoundTrips p ↔
      p.mode.toNat < 2 ^ 8 ∧ p.id.toNat < 2 ^ 24 ∧ p.format = vdpFilterInfoFormatMacvid := by
  obtain ⟨info, vdp, hbld, hread, id, hid, hmake⟩ := makeProfile_bldVsiTlv h
  have hmode : p.mode.toUInt8.toUInt32 = p.mode ↔ p.mode.toNat < 2 ^ 8 := by
    rw [← UInt32.toNat_inj, UInt8.toNat_toUInt32, UInt32.toNat_toUInt8]
    omega
  have hid' : id = p.id ↔ p.id.toNat < 2 ^ 24 := by
    rw [← UInt32.toNat_inj, hid]
    omega
  constructor
  · rintro ⟨info', vdp', q, hbld', hread', hmake', hm, -, hi, -, -, hf, -⟩
    cases hbld.symm.trans hbld'
    cases hread.symm.trans hread'
    cases hmake.symm.trans hmake'
    exact ⟨hmode.mp hm, hid'.mp hi, hf.symm⟩
  · rintro ⟨hm, hi, hf⟩
    exact ⟨info, vdp, _, hbld, hread, hmake, hmode.mpr hm, rfl, hid'.mpr hi, rfl, rfl, hf.symm,
      macvid_received_perm p.macvid⟩

/-! ### Lengths -/

theorem vdpGettlv_ne_none (p : VdpProfile) : vdpGettlv p ≠ .ok none := by
  intro hnone
  obtain ⟨info, hbld, hpack⟩ := bind_eq_ok.mp hnone
  obtain ⟨vdp, hvdp, htake⟩ := bind_eq_ok.mp hbld
  unfold vdpVsiInfo at hvdp
  split_ifs at hvdp with hlen
  cases hvdp
  cases htake
  have hsz : (UInt16.ofNat (vdpVsiTlvSz p)).toNat ≠ 0 := by
    rw [UInt16.toNat_ofNat', vdpVsiTlvSz, tlvInfoVdpSz, macVlanPSz]
    omega
  have hpos : ((vdpHeader p ++ p.macvid.flatMap macVlanP).take
      (UInt16.ofNat (vdpVsiTlvSz p)).toNat).length ≠ 0 := by
    rw [List.length_take, List.length_append, vdpHeader_length, tlvInfoVdpSz]
    omega
  have hpack : packTlv orgSpecificTlv ((vdpHeader p ++ p.macvid.flatMap macVlanP).take
      (UInt16.ofNat (vdpVsiTlvSz p)).toNat) = none := Except.ok.inj hpack
  -- a content that is not empty is always packed
  generalize (vdpHeader p ++ p.macvid.flatMap macVlanP).take
    (UInt16.ofNat (vdpVsiTlvSz p)).toNat = info at hpos hpack
  have hok : tlvOk orgSpecificTlv info = true := by simp [tlvOk, hpos]
  rw [packTlv, if_pos hok] at hpack
  cases hpack

theorem tlvInfoVdpAt_length {vdp : TlvInfoVdp} (h : tlvInfoVdpAt info = .ok vdp) :
    tlvInfoVdpSz ≤ info.length := by
  obtain ⟨_, _, h⟩ := bind_eq_ok.mp h
  obtain ⟨_, _, h⟩ := bind_eq_ok.mp h
  obtain ⟨_, _, h⟩ := bind_eq_ok.mp h
  obtain ⟨_, _, h⟩ := bind_eq_ok.mp h
  obtain ⟨_, _, h⟩ := bind_eq_ok.mp h
  obtain ⟨_, _, h⟩ := bind_eq_ok.mp h
  obtain ⟨_, _, h⟩ := bind_eq_ok.mp h
  obtain ⟨_, _, h⟩ := bind_eq_ok.mp h
  obtain ⟨_, _, h⟩ := bind_eq_ok.mp h
  obtain ⟨entries, hentries, -⟩ := bind_eq_ok.mp h
  -- The last byte of the header is the second one of `entries`.
  obtain ⟨_, _, hentries⟩ := bind_eq_ok.mp hentries
  obtain ⟨b, hb, -⟩ := bind_eq_ok.mp hentries
  have hlt := (List.getElem?_eq_some_iff.mp (readAt_eq_ok.mp hb)).1
  exact hlt

/-- What is asked of the encoder for a profile, and of the receiver for a TLV -/
structure VdpTlvOk (p : VdpProfile) (info : Bytes) : Prop where
  roundTrip : (∃ ptlv, vdpGettlv p = .ok (some ptlv)) → VdpRoundTrips p
  fits : 511 < tlvInfoVdpSz + p.macvid.length * macVlanPSz → vdpGettlv p = .ok none
  exactLength : ∀ vdp, tlvInfoVdpAt info = .ok vdp → vdpValidateTlv vdp info = true →
    info.length = tlvInfoVdpSz + vdp.entries.toNat * macVlanPSz

/-- A header in order, with at least one pair, all of them in the TLV, and one to seven bytes
behind the last one -/
structure TrailingBytes (vdp : TlvInfoVdp) (info : Bytes) : Prop where
  oui : vdp.oui = ouiIeee8021Qbg
  sub : vdp.sub = lldpVdpSubtype
  mode : vdp.mode.toUInt32 ≤ vdpModeDeassociate
  response : vdp.response ≤ vdpResponseOutOfSync
  format : vdp.format = vdpFilterInfoFormatMacvid
  entries : 1 ≤ vdp.entries
  longer : tlvInfoVdpSz + vdp.entries.toNat * macVlanPSz < info.length
  noPair : info.length < tlvInfoVdpSz + (vdp.entries.toNat + 1) * macVlanPSz

theorem TrailingBytes.accepted {vdp : TlvInfoVdp} (h : TrailingBytes vdp info) :
    vdpValidateTlv vdp info = true := by
  have hlonger := h.longer
  have hnoPair := h.noPair
  have hpairs : vdp.entries.toNat = (info.length - tlvInfoVdpSz) / macVlanPSz := by
    rw [tlvInfoVdpSz, macVlanPSz] at *
    omega
  simp only [vdpValidateTlv, Bool.and_eq_true, beq_iff_eq, decide_eq_true_eq]
  exact ⟨⟨⟨⟨⟨⟨h.oui, h.sub⟩, h.mode⟩, h.response⟩, h.format⟩, h.entries⟩, hpairs⟩

theorem exact_or_trailingBytes {vdp : TlvInfoVdp}
    (hread : tlvInfoVdpAt info = .ok vdp) (hvalid : vdpValidateTlv vdp info = true) :
    info.length = tlvInfoVdpSz + vdp.entries.toNat * macVlanPSz ∨ TrailingBytes vdp info := by
  have hheader := tlvInfoVdpAt_length hread
  simp only [vdpValidateTlv, Bool.and_eq_true, beq_iff_eq, decide_eq_true_eq] at hvalid
  obtain ⟨⟨⟨⟨⟨⟨houi, hsub⟩, hmode⟩, hresponse⟩, hformat⟩, hentries⟩, hpairs⟩ := hvalid
  rcases Nat.lt_or_ge (tlvInfoVdpSz + vdp.entries.toNat * macVlanPSz) info.length with hlt | hge
  · refine .inr ⟨houi, hsub, hmode, hresponse, hformat, hentries, hlt, ?_⟩
    rw [tlvInfoVdpSz, macVlanPSz] at *
    omega
  · refine .inl ?_
    rw [tlvInfoVdpSz, macVlanPSz] at *
    omega

/-- A profile with at most 60 pairs whose numbers fit their fields comes back, and a TLV is
accepted with the length that its count implies unless it has less than a pair behind its last
one. -/
theorem vdp_tlv_ok_iff (p : VdpProfile) (info : Bytes) :
    VdpTlvOk p info ↔
      (p.mode.toNat < 2 ^ 8 ∧ p.id.toNat < 2 ^ 24 ∧ p.format = vdpFilterInfoFormatMacvid ∧
        p.macvid.length ≤ 60) ∧
      ∀ vdp, tlvInfoVdpAt info = .ok vdp → ¬ TrailingBytes vdp info := by
  constructor
  · intro h
    have hlen : p.macvid.length ≤ 60 := by
      by_contra hlong
      refine vdpGettlv_ne_none p (h.fits ?_)
      rw [tlvInfoVdpSz, macVlanPSz]
      omega
    have hsome : ∃ ptlv, vdpGettlv p = .ok (some ptlv) := by
      cases hpack : packTlv orgSpecificTlv (vdpHeader p ++ p.macvid.flatMap macVlanP) with
      | some ptlv => exact ⟨ptlv, by rw [vdpGettlv, vdpBldVsiTlv_eq hlen, bind_ok, hpack]; rfl⟩
      | none =>
        refine (vdpGettlv_ne_none p ?_).elim
        rw [vdpGettlv, vdpBldVsiTlv_eq hlen, bind_ok, hpack]
        rfl
    obtain ⟨hmode, hid, hformat⟩ := (vdpRoundTrips_iff hlen).mp (h.roundTrip hsome)
    refine ⟨⟨hmode, hid, hformat, hlen⟩, fun vdp hread htrailing => ?_⟩
    have hexact := h.exactLength vdp hread htrailing.accepted
    have hlonger := htrailing.longer
    omega
  · rintro ⟨⟨hmode, hid, hformat, hlen⟩, hinfo⟩
    refine ⟨fun _ => (vdpRoundTrips_iff hlen).mpr ⟨hmode, hid, hformat⟩, fun hlong => ?_,
      fun vdp hread hvalid => ?_⟩
    · rw [tlvInfoVdpSz, macVlanPSz] at hlong
      omega
    · rcases exact_or_trailingBytes hread hvalid with hexact | htrailing
      · exact hexact
      · exact (hinfo vdp hread htrailing).elim

/-- A TLV with one pair and seven more bytes -/
def trailingInfo : Bytes :=
  [0x00, 0x1b, 0x3f, 2, 2, 0, 1, 0, 0, 7, 1] ++ List.replicate 16 5 ++ [2, 0, 1] ++
    [2, 0, 0, 0, 0, 9, 0, 100] ++ List.replicate 7 0xee

/-- The seven bytes behind the last pair are not noticed. -/
theorem vdp_trailing_accepted :
    ¬ ∀ (p : VdpProfile) (info : Bytes), p.mode.toNat < 2 ^ 8 → p.id.toNat < 2 ^ 24 →
      p.format = vdpFilterInfoFormatMacvid → VdpTlvOk p info := by
  intro h
  obtain ⟨-, -, hexact⟩ := h { format := 2 } trailingInfo (by decide) (by decide) rfl
  have haccept : ∃ vdp, tlvInfoVdpAt trailingInfo = .ok vdp ∧
      vdpValidateTlv vdp trailingInfo = true ∧ vdp.entries = 1 := by
    refine ⟨_, rfl, ?_, ?_⟩ <;> decide
  obtain ⟨vdp, hread, hvalid, hone⟩ := haccept
  have hlen := hexact vdp hread hvalid
  rw [hone] at hlen
  exact absurd hlen (by decide)

end Lldpad.Qbg
