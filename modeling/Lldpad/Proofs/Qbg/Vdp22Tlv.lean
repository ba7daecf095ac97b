import Lldpad.Qbg.Vdp22Tlv

/-!
# `Lldpad.Proofs.Qbg.Vdp22Tlv`: a VSI that is sent and received

* `extract2o_of_at`, `extract3o_of_at`, `extract4o_of_at`: integers in network order are read
  back, a group identifier with its sign bit extended.
* `ptlvToFdatas_of_at`: so are the filter entries.
* `RoundTrips`, `roundTrips_iff`: exactly which VSIs come back as they were sent.
-/

namespace Lldpad.Qbg

open Lldpad.Lib
open Lldpad.Lldp (Bytes ethAlen)

/-! ### Integers -/

@[simp] theorem append2o_length (x : UInt16) : (append2o x).length = 2 := rfl

@[simp] theorem append3o_length (x : UInt64) : (append3o x).length = 3 := rfl

@[simp] theorem append4o_length (x : UInt64) : (append4o x).length = 4 := rfl

variable {i : Nat} {fif : UInt8} {x : UInt64} {v : Vsi22}

theorem shift_or_eq {a b : Nat} (hb : b < 2 ^ i) : a <<< i ||| b = a * 2 ^ i + b := by
  rw [← Nat.shiftLeft_add_eq_or_of_lt hb, Nat.shiftLeft_eq]

theorem vdp22GetVlanid_toNat (x : UInt16) : (vdp22GetVlanid x).toNat = x.toNat % 2 ^ 12 :=
  Nat.and_two_pow_sub_one_eq_mod x.toNat 12

variable {mem : Bytes}

theorem extract2o_of_at {x : UInt16} (h : At mem i (append2o x)) :
    extract2o mem i = .ok x := by
  rw [extract2o, readAt_of_at h, bind_ok, readAt_of_at h.tail, bind_ok]
  refine congrArg _ (UInt16.toNat_inj.mp ?_)
  have hx : x.toNat < 65536 := x.toNat_lt
  simp only [UInt16.toNat_or, UInt16.toNat_shiftLeft, UInt8.toNat_toUInt16, UInt16.toNat_toUInt8,
    UInt16.toNat_shiftRight, Nat.shiftRight_eq_div_pow]
  show (x.toNat / 256 % 256) <<< 8 % 65536 ||| x.toNat % 256 = x.toNat
  have hhigh : (x.toNat / 256 % 256) <<< 8 % 65536 = (x.toNat / 256) <<< 8 := by
    rw [Nat.shiftLeft_eq, Nat.shiftLeft_eq]
    omega
  have hlow : x.toNat % 256 < 2 ^ 8 := Nat.mod_lt _ (by decide)
  rw [hhigh, shift_or_eq hlow]
  omega

theorem bytes3_eq {x : Nat} (hx : x < 2 ^ 24) :
    (x / 2 ^ 16 % 256) <<< 16 ||| (x / 2 ^ 8 % 256) <<< 8 ||| x % 256 = x := by
  have hlast : x % 256 < 2 ^ 8 := Nat.mod_lt _ (by decide)
  have hrest : x % 2 ^ 16 < 2 ^ 16 := Nat.mod_lt _ (by decide)
  have hlow : (x / 2 ^ 8 % 256) <<< 8 ||| x % 256 = x % 2 ^ 16 := by
    rw [shift_or_eq hlast]
    omega
  rw [Nat.or_assoc, hlow, shift_or_eq hrest]
  omega

theorem extract3o_of_at (h : At mem i (append3o x))
    (hx : x.toNat < 2 ^ 24) : extract3o mem i = .ok x := by
  rw [extract3o, readAt_of_at h, bind_ok, readAt_of_at h.tail, bind_ok, readAt_of_at h.tail.tail,
    bind_ok]
  refine congrArg _ (UInt64.toNat_inj.mp ?_)
  simp only [UInt64.toNat_or, UInt64.toNat_shiftLeft, UInt8.toNat_toUInt64, UInt64.toNat_toUInt8,
    UInt64.toNat_shiftRight, Nat.shiftRight_eq_div_pow]
  show (x.toNat / 2 ^ 16 % 256) <<< 16 % 2 ^ 64 ||| (x.toNat / 2 ^ 8 % 256) <<< 8 % 2 ^ 64
    ||| x.toNat % 256 = x.toNat
  rw [Nat.mod_eq_of_lt (a := (x.toNat / 2 ^ 16 % 256) <<< 16) (by rw [Nat.shiftLeft_eq]; omega),
    Nat.mod_eq_of_lt (a := (x.toNat / 2 ^ 8 % 256) <<< 8) (by rw [Nat.shiftLeft_eq]; omega)]
  exact bytes3_eq hx

/-- The lower 32 bits of a number. -/
def low32 (x : UInt64) : UInt64 := x &&& 0xffffffff

theorem extract4o_of_at (h : At mem i (append4o x)) :
    extract4o mem i = .ok (signExtend (low32 x)) := by
  rw [extract4o, readAt_of_at h, bind_ok, readAt_of_at h.tail, bind_ok, readAt_of_at h.tail.tail,
    bind_ok, readAt_of_at h.tail.tail.tail, bind_ok]
  refine congrArg (Except.ok ∘ signExtend) (UInt64.toNat_inj.mp ?_)
  simp only [low32, UInt64.toNat_or, UInt64.toNat_shiftLeft, UInt8.toNat_toUInt64,
    UInt64.toNat_toUInt8, UInt64.toNat_shiftRight, Nat.shiftRight_eq_div_pow, UInt64.toNat_and]
  have hand : x.toNat &&& 4294967295 = x.toNat % 2 ^ 32 := Nat.and_two_pow_sub_one_eq_mod _ 32
  show (x.toNat / 2 ^ 24 % 256) <<< 24 % 2 ^ 64 ||| (x.toNat / 2 ^ 16 % 256) <<< 16 % 2 ^ 64
    ||| (x.toNat / 2 ^ 8 % 256) <<< 8 % 2 ^ 64 ||| x.toNat % 256 = x.toNat &&& 4294967295
  rw [hand, Nat.mod_eq_of_lt (a := (x.toNat / 2 ^ 24 % 256) <<< 24)
      (by rw [Nat.shiftLeft_eq]; omega),
    Nat.mod_eq_of_lt (a := (x.toNat / 2 ^ 16 % 256) <<< 16) (by rw [Nat.shiftLeft_eq]; omega),
    Nat.mod_eq_of_lt (a := (x.toNat / 2 ^ 8 % 256) <<< 8) (by rw [Nat.shiftLeft_eq]; omega)]
  have hrest : (x.toNat / 2 ^ 16 % 256) <<< 16 ||| (x.toNat / 2 ^ 8 % 256) <<< 8 ||| x.toNat % 256
      = x.toNat % 2 ^ 24 := by
    have h3 := bytes3_eq (x := x.toNat % 2 ^ 24) (Nat.mod_lt _ (by decide))
    rw [show x.toNat % 2 ^ 24 / 2 ^ 16 % 256 = x.toNat / 2 ^ 16 % 256 by omega,
      show x.toNat % 2 ^ 24 / 2 ^ 8 % 256 = x.toNat / 2 ^ 8 % 256 by omega,
      show x.toNat % 2 ^ 24 % 256 = x.toNat % 256 by omega] at h3
    exact h3
  have hlow : x.toNat % 2 ^ 24 < 2 ^ 24 := Nat.mod_lt _ (by decide)
  rw [Nat.or_assoc, Nat.or_assoc, ← Nat.or_assoc (_ <<< 16), hrest, shift_or_eq hlow]
  omega

theorem signExtend_low32_eq (hx : x.toNat < 2 ^ 32) :
    signExtend (low32 x) = x ↔ x.toNat < 2 ^ 31 := by
  have hlow : low32 x = x := by
    refine UInt64.toNat_inj.mp ?_
    rw [low32, UInt64.toNat_and]
    have hand : x.toNat &&& 4294967295 = x.toNat % 2 ^ 32 := Nat.and_two_pow_sub_one_eq_mod _ 32
    show x.toNat &&& 4294967295 = x.toNat
    rw [hand, Nat.mod_eq_of_lt hx]
  rw [hlow, signExtend]
  have hsign : x < 0x80000000 ↔ x.toNat < 2 ^ 31 := UInt64.lt_iff_toNat_lt
  by_cases hlt : x.toNat < 2 ^ 31
  · rw [if_pos (hsign.mpr hlt)]
    exact ⟨fun _ => hlt, fun _ => rfl⟩
  · rw [if_neg (mt hsign.mp hlt)]
    refine ⟨fun heq => ?_, fun h => absurd h hlt⟩
    -- the extended bits are far above the number itself
    have hge : 0xffffffff00000000 ≤ x.toNat := by
      rw [← heq, UInt64.toNat_or]
      exact Nat.right_le_or
    omega

theorem extractNo_of_at {n : Nat} {x : Octets n} (h : At mem i x.bytes)
    (hn : 0 < n) : extractNo mem i n = .ok x := by
  rw [extractNo, sliceAt_of_at h x.length_eq hn, bind_ok]
  rfl

/-! ### Headers -/

theorem ptlvHead_toNat (type : UInt8) (len : Nat) :
    (ptlvHead type len).toNat = type.toNat % 128 * 512 + len % 512 := by
  have hmask : type.toNat &&& 127 = type.toNat % 2 ^ 7 := Nat.and_two_pow_sub_one_eq_mod _ 7
  have hlen : len % 2 ^ 16 &&& 511 = len % 2 ^ 16 % 2 ^ 9 := Nat.and_two_pow_sub_one_eq_mod _ 9
  simp only [ptlvHead, UInt16.toNat_or, UInt16.toNat_shiftLeft, UInt16.toNat_and,
    UInt8.toNat_toUInt16, UInt16.toNat_ofNat']
  show (type.toNat &&& 127) <<< 9 % 2 ^ 16 ||| (len % 2 ^ 16 &&& 511) = _
  have hlow : len % 2 ^ 16 % 2 ^ 9 < 2 ^ 9 := Nat.mod_lt _ (by decide)
  rw [hmask, hlen, Nat.mod_eq_of_lt (a := (type.toNat % 2 ^ 7) <<< 9)
    (by rw [Nat.shiftLeft_eq]; omega), shift_or_eq hlow]
  omega

theorem ptlvLength_head (type : UInt8) (len : Nat) :
    ptlvLength (ptlvHead type len) = 2 + len % 512 := by
  have hmask : (ptlvHead type len).toNat &&& 511 = (ptlvHead type len).toNat % 2 ^ 9 :=
    Nat.and_two_pow_sub_one_eq_mod _ 9
  rw [ptlvLength, UInt16.toNat_and]
  show 2 + ((ptlvHead type len).toNat &&& 511) = _
  rw [hmask, ptlvHead_toNat]
  omega

/-! ### Filter entries -/

/-- What comes of a filter entry that is sent in the format `fif`. -/
def Fid22.received (p : Fid22) (fif : UInt8) : Fid22 :=
  if fif = vdp22FfmtVid then { vlan := p.vlan }
  else if fif = vdp22FfmtMacvid then { mac := p.mac, vlan := p.vlan }
  else if fif = vdp22FfmtGroupvid then { grpid := signExtend (low32 p.grpid), vlan := p.vlan }
  else if fif = vdp22FfmtGroupmacvid then
    { grpid := signExtend (low32 p.grpid), mac := p.mac, vlan := p.vlan }
  else {}

theorem vsi22ToTlvFdata_length (p : Fid22) (fif : UInt8) :
    (vsi22ToTlvFdata p fif).length = vsi22FdataSz fif := by
  have hmac : p.mac.bytes.length = 6 := p.mac.length_eq
  unfold vsi22ToTlvFdata vsi22FdataSz
  split_ifs <;> simp [hmac]

theorem ptlvToFdata_of_at {p : Fid22}
    (h : At mem i (vsi22ToTlvFdata p fif)) : ptlvToFdata mem i fif = .ok (p.received fif) := by
  have hmac : p.mac.bytes.length = ethAlen := p.mac.length_eq
  unfold vsi22ToTlvFdata at h
  unfold ptlvToFdata Fid22.received
  split_ifs at h ⊢ with hvid hmacvid hgroupvid hgroupmacvid
  · rw [extract2o_of_at h, bind_ok, pure_eq_ok]
  · obtain ⟨hm, hv⟩ := at_append_iff.mp h
    rw [hmac] at hv
    rw [sliceAt_of_at hm hmac (by decide), bind_ok, extract2o_of_at hv, bind_ok, pure_eq_ok]
    rfl
  · obtain ⟨hg, hv⟩ := at_append_iff.mp h
    rw [append4o_length] at hv
    rw [extract4o_of_at hg, bind_ok, extract2o_of_at hv, bind_ok, pure_eq_ok]
  · obtain ⟨hgm, hv⟩ := at_append_iff.mp h
    obtain ⟨hg, hm⟩ := at_append_iff.mp hgm
    rw [List.length_append, append4o_length, hmac] at hv
    rw [append4o_length] at hm
    rw [extract4o_of_at hg, bind_ok, sliceAt_of_at hm hmac (by decide), bind_ok,
      extract2o_of_at hv, bind_ok, pure_eq_ok]
    rfl
  · rfl

theorem ptlvToFdatas_of_at {ps : List Fid22} (h : At mem i (ps.flatMap (vsi22ToTlvFdata · fif))) :
    ptlvToFdatas mem fif ps.length i = .ok (ps.map (·.received fif)) := by
  induction ps generalizing i with
  | nil => rfl
  | cons p ps ih =>
    rw [List.flatMap_cons] at h
    obtain ⟨hfirst, hrest⟩ := at_append_iff.mp h
    rw [vsi22ToTlvFdata_length] at hrest
    rw [List.length_cons, ptlvToFdatas, ptlvToFdata_of_at hfirst, bind_ok, ih hrest, bind_ok]
    rfl

/-! ### The VSI TLV -/

theorem ptlvToVsi22Fixed_of_at {ptlv : Nat} {vsip : Vsi22} {stat : UInt8}
    (h : At mem ptlv (vsi22ToTlv v stat)) (htype : v.typeId.toNat < 2 ^ 24) :
    ptlvToVsi22Fixed mem ptlv vsip = .ok ({ vsip with
      status := stat
      typeId := v.typeId
      typeVer := v.typeVer
      vsiFmt := v.vsiFmt
      vsi := v.vsi
      fif := v.fif }, UInt16.ofNat v.fdata.length) := by
  have hvsi : v.vsi.bytes.length = 16 := v.vsi.length_eq
  obtain ⟨hfront, -⟩ := at_append_iff.mp h
  obtain ⟨-, hfixed⟩ := at_append_iff.mp hfront
  obtain ⟨hfixed, hnum⟩ := at_append_iff.mp hfixed
  obtain ⟨hfixed, hfif⟩ := at_append_iff.mp hfixed
  obtain ⟨hfixed, hid⟩ := at_append_iff.mp hfixed
  obtain ⟨hfixed, hfmt⟩ := at_append_iff.mp hfixed
  obtain ⟨hfixed, hver⟩ := at_append_iff.mp hfixed
  obtain ⟨hstat, htid⟩ := at_append_iff.mp hfixed
  simp only [List.length_append, List.length_singleton, append2o_length, append3o_length, hvsi]
    at hstat htid hver hfmt hid hfif hnum
  unfold ptlvToVsi22Fixed extract1o
  dsimp only
  rw [readAt_of_at hstat, bind_ok, extract3o_of_at htid htype, bind_ok, readAt_of_at hver, bind_ok,
    readAt_of_at hfmt, bind_ok, extractNo_of_at hid (by decide), bind_ok, readAt_of_at hfif,
      bind_ok,
    extract2o_of_at hnum, bind_ok]
  rfl

/-- The TLV is handed on if its length fits the nine bits, it has filter entries, and it is
not an answer. -/
theorem ptlvToVsi22_of_at {ptlv : Nat} (vsip : Vsi22) {stat : UInt8}
    (h : At mem ptlv (vsi22ToTlv v stat)) (htype : v.typeId.toNat < 2 ^ 24)
    (hcount : v.fdata.length < 65536) :
    ptlvToVsi22 .bridge mem ptlv vsip =
      let w := { vsip with
        status := stat
        typeId := v.typeId
        typeVer := v.typeVer
        vsiFmt := v.vsiFmt
        vsi := v.vsi
        fif := v.fif }
      if vsi22TlvSz v.fdata.length v.fif ≤ 511 ∧ v.fdata ≠ [] ∧ stat &&& vdp22Ackbit = 0 then
        .ok ({ w with fdata := v.fdata.map (·.received v.fif) }, true)
      else .ok (w, false) := by
  have hvsi : v.vsi.bytes.length = 16 := v.vsi.length_eq
  obtain ⟨hfront, hfdata⟩ := at_append_iff.mp h
  obtain ⟨hhead, -⟩ := at_append_iff.mp hfront
  simp only [List.length_append, List.length_singleton, append2o_length, append3o_length, hvsi]
    at hfdata
  have hnum : (UInt16.ofNat v.fdata.length).toNat = v.fdata.length := by
    rw [UInt16.toNat_ofNat', Nat.mod_eq_of_lt hcount]
  have hzero : UInt16.ofNat v.fdata.length ≠ 0 ↔ v.fdata ≠ [] := by
    rw [← List.length_pos_iff, Ne, ← UInt16.toNat_inj, hnum]
    exact Nat.pos_iff_ne_zero.symm
  unfold ptlvToVsi22 ptlvAt
  rw [ptlvToVsi22Fixed_of_at h htype, bind_ok, extract2o_of_at hhead, bind_ok]
  rw [hnum, ptlvLength_head]
  have hfits : 2 + vsi22TlvSz v.fdata.length v.fif % 512 = vsi22PtlvSz v.fdata.length v.fif ↔
      vsi22TlvSz v.fdata.length v.fif ≤ 511 := by
    unfold vsi22PtlvSz
    omega
  by_cases hcond : vsi22TlvSz v.fdata.length v.fif ≤ 511 ∧ v.fdata ≠ [] ∧ stat &&& vdp22Ackbit = 0
  · rw [if_pos hcond, if_pos ⟨hfits.mpr hcond.1, hzero.mpr hcond.2.1, beq_iff_eq.mpr hcond.2.2⟩,
      ptlvToFdatas_of_at hfdata, bind_ok]
    rfl
  · rw [if_neg hcond, if_neg fun hc =>
      hcond ⟨hfits.mp hc.1, hzero.mp hc.2.1, beq_iff_eq.mp hc.2.2⟩]
    rfl

/-! ### The round trip -/

/-- What a bridge reads in a message that holds a manager ID TLV and a VSI TLV: the node, and
whether it is handed on. -/
def receivedVsi (buf : Bytes) : Except Fault (Vsi22 × Bool) := do
  let mgrid ← extractNo buf 2 16
  let head ← ptlvAt buf mgr22PtlvSz
  ptlvToVsi22 .bridge buf mgr22PtlvSz { mgrid := mgrid, vsiMode := ptlvType head }

/-- A filter entry without its requester, which is not sent. -/
def Fid22.filter (p : Fid22) : Fid22 := { p with requestor := {} }

/-- Two nodes stand for one association: their manager ID, type, VSI ID, formats and filter
entries agree. -/
structure SameVsi (v w : Vsi22) : Prop where
  mgrid : w.mgrid = v.mgrid
  typeId : w.typeId = v.typeId
  typeVer : w.typeVer = v.typeVer
  vsiFmt : w.vsiFmt = v.vsiFmt
  vsi : w.vsi = v.vsi
  fif : w.fif = v.fif
  fdata : w.fdata.map Fid22.filter = v.fdata.map Fid22.filter

/-- The VSI TLV of the node fits its length field, and the node comes back as it was sent. -/
def RoundTrips (v : Vsi22) : Prop :=
  vsi22TlvSz v.fdata.length v.fif ≤ 511 ∧
    ∃ w, receivedVsi (mgr22ToTlv v ++ vsi22ToTlv v v.hints) = .ok (w, true) ∧ SameVsi v w

/-- The format has a group identifier. -/
def hasGroup (fif : UInt8) : Bool := fif == vdp22FfmtGroupvid || fif == vdp22FfmtGroupmacvid

/-- The nodes that come back. -/
structure Codable (v : Vsi22) : Prop where
  fits : vsi22TlvSz v.fdata.length v.fif ≤ 511
  nonempty : v.fdata ≠ []
  groups : hasGroup v.fif = true → ∀ p ∈ v.fdata, p.grpid.toNat < 2 ^ 31
  request : v.hints &&& vdp22Ackbit = 0

/-- A filter entry of a request comes back as it was sent, unless the sign bit of its group
identifier is set. -/
theorem copyFilter_received {m : VdpnlMac} {o : VsiOrigin}
    (hfif : checkFilterfmt fif = true) (hgroup : m.gpid.toNat < 2 ^ 32) :
    let p : Fid22 := { copyFilter fif m with requestor := o }
    (p.received fif).filter = p.filter ↔ (hasGroup fif = true → p.grpid.toNat < 2 ^ 31) := by
  have hsign := signExtend_low32_eq hgroup
  simp only [checkFilterfmt, Bool.or_eq_true, beq_iff_eq] at hfif
  rcases hfif with ((rfl | rfl) | rfl) | rfl
  · exact ⟨fun _ => nofun, fun _ => rfl⟩
  · exact ⟨fun _ => nofun, fun _ => rfl⟩
  · refine Iff.trans ⟨fun h => ?_, fun h => ?_⟩ (forall_prop_of_true rfl).symm
    · exact hsign.mp (congrArg Fid22.grpid h)
    · show (Fid22.mk (signExtend (low32 m.gpid)) _ _ _) = Fid22.mk m.gpid _ _ _
      rw [hsign.mpr h]
      rfl
  · refine Iff.trans ⟨fun h => ?_, fun h => ?_⟩ (forall_prop_of_true rfl).symm
    · exact hsign.mp (congrArg Fid22.grpid h)
    · show (Fid22.mk (signExtend (low32 m.gpid)) _ _ _) = Fid22.mk m.gpid _ _ _
      rw [hsign.mpr h]
      rfl

theorem alloc_eq_ok {req : VdpnlVsi} {gpid vsinlChk : Bool}
    (h : vdp22AllocVsiInt req gpid vsinlChk = .ok v) :
    v.fif = req.filterFmt ∧ v.typeId = req.vsiTypeid ∧
      (req.maclist ≠ [] → checkFilterfmt req.filterFmt = true) ∧
      v.fdata = (req.maclist.take (req.maclist.length % 65536)).map fun m =>
        { copyFilter req.filterFmt m with
          requestor := { reqPid := req.reqPid, reqSeq := req.reqSeq } } := by
  unfold vdp22AllocVsiInt at h
  split_ifs at h with hchk hall
  cases h
  refine ⟨rfl, rfl, fun hne => ?_, rfl⟩
  obtain ⟨m, ms, hms⟩ := List.exists_cons_of_ne_nil hne
  have hm : allocFilterOk req gpid m = true :=
    List.all_eq_true.mp hall m (hms ▸ List.mem_cons_self ..)
  have hok : filterOk req.filterFmt (copyFilter req.filterFmt m) gpid = true :=
    (Bool.and_eq_true_iff.mp hm).2
  unfold filterOk at hok
  unfold checkFilterfmt
  split_ifs at hok with h1 h2 h3 h4
  all_goals simp [*]

/-- An admitted VSI comes back as it was sent exactly when its TLV fits the length field, it
has a filter entry, no group identifier has its sign bit set, and its hints do not look like
an acknowledgement. -/
theorem roundTrips_iff (req : VdpnlVsi) (gpid vsinlChk : Bool) (v : Vsi22)
    (halloc : vdp22AllocVsiInt req gpid vsinlChk = .ok v)
    (htype : req.vsiTypeid.toNat < 2 ^ 24) (hgroup : ∀ m ∈ req.maclist, m.gpid.toNat < 2 ^ 32) :
    RoundTrips v ↔ Codable v := by
  obtain ⟨hfif, htid, hfmt, hfdata⟩ := alloc_eq_ok halloc
  have hmgrid : v.mgrid.bytes.length = 16 := v.mgrid.length_eq
  have hcount : v.fdata.length < 65536 := by
    rw [hfdata, List.length_map, List.length_take]
    exact Nat.lt_of_le_of_lt (Nat.min_le_left _ _) (Nat.mod_lt _ (by decide))
  -- what the bridge reads
  have hmgr : At (mgr22ToTlv v ++ vsi22ToTlv v v.hints) 2 v.mgrid.bytes := by
    rw [mgr22ToTlv]
    exact at_append _ _ _
  have hvsi : At (mgr22ToTlv v ++ vsi22ToTlv v v.hints) mgr22PtlvSz (vsi22ToTlv v v.hints) := by
    have hlen : (mgr22ToTlv v).length = mgr22PtlvSz := by
      rw [mgr22ToTlv, List.length_append, append2o_length, hmgrid]
      rfl
    have hat := at_append (mgr22ToTlv v) (vsi22ToTlv v v.hints) []
    rwa [List.append_nil, hlen] at hat
  have hhead := (at_append_iff.mp (at_append_iff.mp hvsi).1).1
  have hreceived := ptlvToVsi22_of_at { mgrid := v.mgrid, vsiMode := ptlvType (ptlvHead
    v.vsiMode (vsi22TlvSz v.fdata.length v.fif)) } hvsi (htid ▸ htype) hcount
  -- the filter entries come back one by one
  have hentries : (v.fdata.map (·.received v.fif)).map Fid22.filter = v.fdata.map Fid22.filter ↔
      (hasGroup v.fif = true → ∀ p ∈ v.fdata, p.grpid.toNat < 2 ^ 31) := by
    rw [List.map_map, List.map_inj_left]
    constructor
    · intro h hgrp p hp
      have hp' := h p hp
      rw [hfdata] at hp
      obtain ⟨m, hm, rfl⟩ := List.mem_map.mp hp
      have hmem := List.mem_of_mem_take hm
      rw [hfif] at hp' hgrp
      exact (copyFilter_received (hfmt (List.ne_nil_of_mem hmem)) (hgroup m hmem)).mp hp' hgrp
    · intro h p hp
      have hp' := fun hgrp => h hgrp p hp
      rw [hfdata] at hp
      obtain ⟨m, hm, rfl⟩ := List.mem_map.mp hp
      have hmem := List.mem_of_mem_take hm
      rw [hfif] at hp' ⊢
      exact (copyFilter_received (hfmt (List.ne_nil_of_mem hmem)) (hgroup m hmem)).mpr hp'
  unfold RoundTrips receivedVsi ptlvAt
  rw [extractNo_of_at hmgr (by decide), bind_ok, extract2o_of_at hhead, bind_ok, hreceived]
  constructor
  · rintro ⟨hfits, w, hw, hsame⟩
    split_ifs at hw with hcond
    · cases hw
      exact ⟨hfits, hcond.2.1, hentries.mp hsame.fdata, hcond.2.2⟩
    · cases hw
  · rintro ⟨hfits, hne, hgrp, hreq⟩
    refine ⟨hfits, _, if_pos ⟨hfits, hne, hreq⟩, rfl, rfl, rfl, rfl, rfl, rfl, ?_⟩
    exact hentries.mpr hgrp

/-- A request to associate a VSI with group 1 and VLAN 5. -/
def groupRequest (gpid : UInt64) : VdpnlVsi :=
  { request := vdp22Assoc
    vsiIdfmt := vdp22IdLocal
    filterFmt := vdp22FfmtGroupvid
    maclist := [{ vlan := 5, gpid := gpid }] }

/-- The node that `vdp22_alloc_vsi_int` makes out of it. -/
def groupVsi (gpid : UInt64) : Vsi22 :=
  { vsiMode := vdp22Assoc
    ccVsiMode := vdp22Deassoc
    status := vdp22RespNone
    flags := { busy := true, nlcmd := true }
    vsiFmt := vdp22IdUuid
    fif := vdp22FfmtGroupvid
    fdata := [{ grpid := gpid, vlan := 5 }] }

/-- Group 1 comes back. -/
theorem groupVsi_roundTrips : RoundTrips (groupVsi 1) :=
  (roundTrips_iff (groupRequest 1) true true (groupVsi 1) (by rfl) (by decide) (by decide)).mpr
    { fits := by decide
      nonempty := by decide
      groups := by decide
      request := by decide }

/-- A group identifier with its sign bit set does not come back: the bridge puts its bytes
together in an `int`. -/
theorem not_roundTrips :
    ¬ ∀ (req : VdpnlVsi) (gpid vsinlChk : Bool) (v : Vsi22),
      vdp22AllocVsiInt req gpid vsinlChk = .ok v → req.vsiTypeid.toNat < 2 ^ 24 →
      (∀ m ∈ req.maclist, m.gpid.toNat < 2 ^ 32) → RoundTrips v := by
  intro h
  obtain ⟨-, w, hw, hsame⟩ := h (groupRequest 0x80000001) true true (groupVsi 0x80000001) (by rfl)
    (by decide) (by decide)
  have hread : receivedVsi (mgr22ToTlv (groupVsi 0x80000001) ++
      vsi22ToTlv (groupVsi 0x80000001) (groupVsi 0x80000001).hints) = .ok ({
        vsiMode := vdp22Assoc
        vsiFmt := vdp22IdUuid
        fif := vdp22FfmtGroupvid
        fdata := [{ grpid := 0xffffffff80000001, vlan := 5 }] }, true) := by rfl
  have hw' : w.fdata = [{ grpid := 0xffffffff80000001, vlan := 5 }] := by
    cases Except.ok.inj (hread.symm.trans hw)
    rfl
  have hfdata := hsame.fdata
  rw [hw'] at hfdata
  exact absurd hfdata (by decide)

end Lldpad.Qbg
