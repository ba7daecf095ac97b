import Mathlib.Tactic.FinCases
import Lldpad.Proofs.Dcbx.PgShape
import Lldpad.Proofs.Dcbx.Versions

/-!
# `Lldpad.Proofs.Dcbx.RoundTrip`: the sub-TLVs, sent and received

The `bld_` functions write a sub-TLV of the local store, the `process_` functions of the peer
read it into the store of the peer. `roundTrip_of_reachable` says what comes back of a
configuration that `put_pg` and `put_pfc` admit.

* The two layouts of the priority groups have nothing in common. CIN has a byte for the
  bandwidth group and the strict priority, and one for the percentage of the group. CEE has a
  nibble for the group, where 15 stands for link strict.
* CEE leaves the percentage of the group out. `put_peer_pg` computes it again, with the result
  that the rule checker demands of an admitted configuration (`checked_shape`).
* CIN leaves the number of traffic classes out.
-/

namespace Lldpad.Dcbx

open Lldpad.Lib
open Lldpad.Lldp (Bytes)

/-! ### Bits and bytes -/

theorem flags_of_header (enable willing error : Bool) :
    hasFlag (orFlag (orFlag (orFlag 0 bit7 enable) bit6 willing) bit5 error) bit7 = enable ∧
      hasFlag (orFlag (orFlag (orFlag 0 bit7 enable) bit6 willing) bit5 error) bit6 = willing ∧
      hasFlag (orFlag (orFlag (orFlag 0 bit7 enable) bit6 willing) bit5 error) bit5 = error := by
  cases enable <;> cases willing <;> cases error <;> decide

theorem toNat_pack {a b : UInt8} (ha : a.toNat < 16) (hb : b.toNat < 16) :
    (a <<< 4 ||| b).toNat = a.toNat * 16 + b.toNat := by
  have h : a.toNat <<< 4 < 256 := by
    rw [Nat.shiftLeft_eq]
    omega
  rw [UInt8.toNat_or, UInt8.toNat_shiftLeft]
  change a.toNat <<< 4 % 256 ||| b.toNat = _
  rw [Nat.mod_eq_of_lt h, ← Nat.shiftLeft_add_eq_or_of_lt hb, Nat.shiftLeft_eq]

theorem pack_high {a b : UInt8} (ha : a.toNat < 16) (hb : b.toNat < 16) :
    (a <<< 4 ||| b) >>> 4 = a := by
  apply UInt8.toNat_inj.mp
  rw [UInt8.toNat_shiftRight, toNat_pack ha hb]
  change (a.toNat * 16 + b.toNat) >>> 4 = _
  rw [Nat.shiftRight_eq_div_pow]
  omega

theorem pack_low {a b : UInt8} (ha : a.toNat < 16) (hb : b.toNat < 16) :
    (a <<< 4 ||| b) &&& 0xf = b := by
  apply UInt8.toNat_inj.mp
  rw [UInt8.toNat_and, toNat_pack ha hb]
  change (a.toNat * 16 + b.toNat) &&& 15 = _
  rw [Nat.and_two_pow_sub_one_eq_mod _ 4]
  omega

theorem bandwidth_byte (g : Fin 8) (p : StrictPriority) :
    (UInt8.ofNat g <<< 5 ||| UInt8.ofNat p.toNat <<< 3) >>> 5 = UInt8.ofNat g ∧
      StrictPriority.ofByte ((UInt8.ofNat g <<< 5 ||| UInt8.ofNat p.toNat <<< 3) >>> 3) = p := by
  revert g
  cases p <;> decide

theorem testBit_byte (n k i : Nat) :
    (n >>> k % 256).testBit i = (decide (i < 8) && n.testBit (k + i)) := by
  rw [show 256 = 2 ^ 8 from rfl, Nat.testBit_mod_two_pow, Nat.testBit_shiftRight]

theorem ntohl_htonl (x : UInt32) (rest : Bytes) : ntohl (htonl x ++ rest) 0 = x := by
  apply UInt32.toNat_inj.mp
  apply Nat.eq_of_testBit_eq
  intro i
  have hx : 32 ≤ i → x.toNat.testBit i = false := fun h =>
    Nat.testBit_lt_two_pow (Nat.lt_of_lt_of_le x.toNat_lt
      (Nat.pow_le_pow_right (by decide) h))
  have h0 := testBit_byte x.toNat 0 i
  simp only [Nat.shiftRight_zero, Nat.zero_add] at h0
  simp only [ntohl, htonl, List.cons_append, List.getD_cons_zero, List.getD_cons_succ,
    UInt32.toNat_or, UInt32.toNat_shiftLeft, UInt8.toNat_toUInt32, UInt32.toNat_toUInt8,
    UInt32.toNat_shiftRight, UInt32.reduceToNat, Nat.reduceMod, Nat.testBit_or,
    Nat.testBit_shiftLeft, Nat.testBit_mod_two_pow, h0]
  -- Each byte has the bits of its own eighth of the number.
  by_cases h8 : i < 8
  · simp [h8, show i < 32 by omega, show ¬ 8 ≤ i by omega, show ¬ 16 ≤ i by omega,
      show ¬ 24 ≤ i by omega]
  by_cases h16 : i < 16
  · simp [h8, show i < 32 by omega, show 8 ≤ i by omega, show ¬ 16 ≤ i by omega,
      show ¬ 24 ≤ i by omega, show i - 8 < 8 by omega]
  by_cases h24 : i < 24
  · simp [h8, show i < 32 by omega, show 8 ≤ i by omega, show 16 ≤ i by omega,
      show ¬ 24 ≤ i by omega, show ¬ i - 8 < 8 by omega, show i - 16 < 8 by omega]
  by_cases h32 : i < 32
  · simp [h8, h32, show 8 ≤ i by omega, show 16 ≤ i by omega, show 24 ≤ i by omega,
      show ¬ i - 8 < 8 by omega, show ¬ i - 16 < 8 by omega, show i - 24 < 8 by omega]
  · simp [h8, h32, hx (by omega)]

/-! ### The header -/

/-- The bits and the versions of the header are the same. -/
structure SameHeader (p q : FeatureProtocolAttribs) : Prop where
  enable : q.enable = p.enable
  willing : q.willing = p.willing
  error : q.error = p.error
  operVersion : q.operVersion = p.operVersion
  maxVersion : q.maxVersion = p.maxVersion

theorem headerProtocol_tlvHeader {p : FeatureProtocolAttribs} (hmax : p.maxVersion = 0)
    (hoper : p.operVersion = 0) (subtype : Nat) (rest : Bytes) :
    SameHeader p (headerProtocol (tlvHeader p subtype ++ rest)) := by
  obtain ⟨he, hw, hr⟩ := flags_of_header p.enable p.willing p.error
  refine ⟨he, hw, hr, ?_, ?_⟩
  · change (UInt8.ofNat p.operVersion).toNat = _
    rw [hoper]
    rfl
  · change (UInt8.ofNat p.maxVersion).toNat = _
    rw [hmax]
    rfl

theorem takePeer_header {p q new : FeatureProtocolAttribs} (h : SameHeader p new) :
    SameHeader p (q.takePeer new) :=
  ⟨h.enable, h.willing, h.error, h.operVersion, h.maxVersion⟩

/-! ### The priority groups in the layout of CEE -/

/-- A sub-TLV with these nibbles, percentages and number of traffic classes -/
def ceeBytes (p : FeatureProtocolAttribs) (n : Fin 8 → UInt8) (percent : Fin 8 → UInt8)
    (numTcs : Nat) : Bytes :=
  tlvHeader p 0 ++
    [n 0 <<< 4 ||| n 1, n 2 <<< 4 ||| n 3, n 4 <<< 4 ||| n 5, n 6 <<< 4 ||| n 7] ++
    List.ofFn percent ++ [UInt8.ofNat numTcs]

section Cee

variable (p : FeatureProtocolAttribs) {n : Fin 8 → UInt8} (percent : Fin 8 → UInt8)
  (numTcs : Nat)

theorem ceeBytes_nibble (hn : ∀ i, (n i).toNat < 16) (i : Fin 8) :
    readNibble (ceeBytes p n percent numTcs) i = n i := by
  fin_cases i
  · exact pack_high (hn 0) (hn 1)
  · exact pack_low (hn 0) (hn 1)
  · exact pack_high (hn 2) (hn 3)
  · exact pack_low (hn 2) (hn 3)
  · exact pack_high (hn 4) (hn 5)
  · exact pack_low (hn 4) (hn 5)
  · exact pack_high (hn 6) (hn 7)
  · exact pack_low (hn 6) (hn 7)

theorem ceeBytes_percent (i : Fin 8) :
    (ceeBytes p n percent numTcs).getD (8 + i.val) 0 = percent i := by
  fin_cases i <;> rfl

theorem ceeBytes_numTcs : (ceeBytes p n percent numTcs).getD 16 0 = UInt8.ofNat numTcs := rfl

theorem ceeBytes_length : (ceeBytes p n percent numTcs).length = 17 := rfl

end Cee

theorem pgNibble_eq {t : TrafficAttribs} {i : Fin 8} (h : (t.up i).pgid.toNat < 8) :
    pgNibble t i = if (t.up i).strictPriority = .link then linkStrictPgid
      else (t.up i).pgid := by
  unfold pgNibble
  split
  · rfl
  · apply UInt8.toNat_inj.mp
    rw [UInt8.toNat_and]
    change (t.up i).pgid.toNat &&& 15 = _
    rw [Nat.and_two_pow_sub_one_eq_mod _ 4]
    omega

theorem pgNibble_lt (t : TrafficAttribs) (i : Fin 8) : (pgNibble t i).toNat < 16 := by
  unfold pgNibble
  split
  · decide
  · rw [UInt8.toNat_and]
    change (t.up i).pgid.toNat &&& 15 < 16
    rw [Nat.and_two_pow_sub_one_eq_mod _ 4]
    omega

/-! ### The priority groups, sent and received -/

/-- `bld_dcbx1_pg_tlv` or `bld_dcbx2_pg_tlv`, as `dcbx_st` of the device says -/
def bldPgTlv (st : Nat) (a : Attribs PgConfig) : Option Bytes :=
  if st = dcbxSubtype2 then bldDcbx2PgTlv a else bldDcbx1PgTlv a

/-- `bld_dcbx1_pfc_tlv` or `bld_dcbx2_pfc_tlv` -/
def bldPfcTlv (st : Nat) (a : Attribs PfcConfig) : Option Bytes :=
  if st = dcbxSubtype2 then bldDcbx2PfcTlv a else bldDcbx1PfcTlv a

/-- The link strict priorities are in a group of their own, and all others are in the same
group as before. -/
structure SameGroups (t t' : TrafficAttribs) : Prop where
  kept : ∀ i, (t.up i).strictPriority ≠ .link → (t'.up i).pgid = (t.up i).pgid
  own : ∀ i, (t.up i).strictPriority = .link → (t'.up i).pgid.toNat < 8 ∧
    ∀ j, (t'.up j).pgid = (t'.up i).pgid ↔ (t.up j).strictPriority = .link

/-- What comes back of the priority groups -/
structure SamePg (st : Nat) (a b : Attribs PgConfig) : Prop where
  header : SameHeader a.protocol b.protocol
  /-- Both directions of the peer are the one that was sent. -/
  rx : b.config.rx = b.config.tx
  pgPercent : b.config.tx.pgPercent = a.config.tx.pgPercent
  percentOfPgCap : ∀ i, (b.config.tx.up i).percentOfPgCap = (a.config.tx.up i).percentOfPgCap
  bwgid : ∀ i, (b.config.tx.up i).bwgid = (a.config.tx.up i).bwgid
  link : ∀ i, (b.config.tx.up i).strictPriority = .link ↔
    (a.config.tx.up i).strictPriority = .link
  cee : st = dcbxSubtype2 →
    SameGroups a.config.tx b.config.tx ∧ b.config.numTcs = a.config.numTcs
  cin : st ≠ dcbxSubtype2 →
    ∀ i, (b.config.tx.up i).strictPriority = (a.config.tx.up i).strictPriority

section Groups

variable {rx : RxInfo} {a : Attribs PgConfig} {info : Bytes}

/-- `put_peer_pg` has the header of the TLV in the store, also when the store has it
already. -/
theorem putPeerPg_header {data : Attribs PgConfig} {p : FeatureProtocolAttribs} (d : Device)
    (h : SameHeader p data.protocol) : SameHeader p (putPeerPg data d).pg.peer.protocol := by
  unfold putPeerPg
  dsimp only
  generalize hdata : (if data.protocol.dcbxSt = dcbxSubtype2 then
    { data with config := rebalanceUppcts data.config } else data) = data'
  have hp : data'.protocol = data.protocol := by
    rw [← hdata]
    split <;> rfl
  split
  · rename_i heq
    rw [heq, hp]
    exact h
  · rw [← hp] at h
    exact takePeer_header h

/-- The nibbles of a sub-TLV are those of the groups `t`. -/
def Nibbles (t : TrafficAttribs) (info : Bytes) : Prop :=
  ∀ i, readNibble info i =
    if (t.up i).strictPriority = .link then linkStrictPgid else (t.up i).pgid

section Nibbles

variable {t : TrafficAttribs} (hlt : ∀ i, (t.up i).pgid.toNat < 8) (hn : Nibbles t info)
include hlt hn

theorem nibble_marked (i : Fin 8) :
    readNibble info i = linkStrictPgid ↔ (t.up i).strictPriority = .link := by
  rw [hn i]
  split
  · rename_i hlink
    exact iff_of_true rfl hlink
  · rename_i hlink
    refine iff_of_false (fun h15 => ?_) hlink
    have hi := hlt i
    rw [h15] at hi
    exact absurd hi (by decide)

theorem good_of_nibbles : GoodNibbles info := by
  intro i
  rw [hn i]
  split
  · exact .inr rfl
  · exact .inl (hlt i)

theorem readTraffic2_link (i : Fin 8) :
    ((readTraffic2 info).up i).strictPriority = .link ↔ (t.up i).strictPriority = .link := by
  rw [← nibble_marked hlt hn i]
  unfold readTraffic2
  dsimp only
  split
  · rename_i h
    exact iff_of_true rfl h
  · rename_i h
    exact iff_of_false nofun h

theorem readTraffic2_pgid (i : Fin 8) :
    ((readTraffic2 info).up i).pgid =
      if (t.up i).strictPriority = .link then unusedPgid (readNibble info)
      else (t.up i).pgid := by
  change (if readNibble info i = linkStrictPgid then unusedPgid (readNibble info)
    else readNibble info i) = _
  rw [if_congr (nibble_marked hlt hn i) rfl rfl]
  split
  · rfl
  · rename_i hlink
    rw [hn i, if_neg hlink]

theorem readTraffic2_groups : SameGroups t (readTraffic2 info) := by
  constructor
  · intro i hi
    rw [readTraffic2_pgid hlt hn i, if_neg hi]
  · intro i hi
    obtain ⟨hunused, hfree⟩ := unusedPgid_spec ((nibble_marked hlt hn i).mpr hi)
    rw [readTraffic2_pgid hlt hn i, if_pos hi]
    refine ⟨hunused, fun j => ?_⟩
    rw [readTraffic2_pgid hlt hn j]
    split
    · rename_i hj
      exact iff_of_true rfl hj
    · rename_i hj
      refine iff_of_false (fun hsame => hfree j ?_) hj
      rw [hn j, if_neg hj]
      exact hsame

end Nibbles

theorem SameGroups.shared {t t' : TrafficAttribs} (h : SameGroups t t') :
    SameGroups t { t' with up := fun i => share (t'.up i) } := by
  constructor
  · intro i hi
    rw [share_pgid]
    exact h.kept i hi
  · intro i hi
    simp only [share_pgid]
    exact h.own i hi

/-- The groups of an admitted configuration come back from a CEE sub-TLV. -/
theorem cee_samePg (d : Device) (hst : rx.dcbxSt = dcbxSubtype2)
    (hmax : a.protocol.maxVersion = 0) (hoper : a.protocol.operVersion = 0)
    (hshape : Shaped a.config.tx) (hlt : ∀ i, (a.config.tx.up i).pgid.toNat < 8)
    (htcs : a.config.numTcs ≤ 8) (h : bldDcbx2PgTlv a = some info) :
    ∃ e, processDcbxPgTlv rx info d = .ok (e, true) ∧ SamePg rx.dcbxSt a e.pg.peer := by
  have hinfo : ceeBytes a.protocol (pgNibble a.config.tx) a.config.tx.pgPercent
      a.config.numTcs = info := by
    unfold bldDcbx2PgTlv advertised at h
    dsimp only at h
    split at h
    · exact Option.some.inj h
    · cases h
  have hn : Nibbles a.config.tx info := by
    intro i
    rw [← hinfo, ceeBytes_nibble _ _ _ (pgNibble_lt a.config.tx), pgNibble_eq (hlt i)]
  have hlen : info.length = 17 := by
    rw [← hinfo]
    exact ceeBytes_length ..
  refine ⟨putPeerPg (ceePg rx info) d, ?_, ?_⟩
  · rw [processDcbxPgTlv_cee d hst hlen, if_neg (not_bad_of_good (good_of_nibbles hlt hn))]
  have hread : (ceePg rx info).config = { tx := readTraffic2 info, rx := readTraffic2 info
                                          numTcs := a.config.numTcs } := by
    have hbyte : (info.getD 16 0).toNat = a.config.numTcs := by
      rw [← hinfo, ceeBytes_numTcs]
      exact UInt8.toNat_ofNat_of_lt' (show a.config.numTcs < 2 ^ 8 by omega)
    unfold ceePg
    rw [hbyte]
  have hconfig : (putPeerPg (ceePg rx info) d).pg.peer.config =
      rebalanceUppcts (ceePg rx info).config := putPeerPg_config d hst
  rw [hread, rebalanceUppcts_single a.config.numTcs fun i => rfl] at hconfig
  constructor
  · refine putPeerPg_header d ?_
    rw [← hinfo]
    have hheader := headerProtocol_tlvHeader hmax hoper 0
      ((ceeBytes a.protocol (pgNibble a.config.tx) a.config.tx.pgPercent
        a.config.numTcs).drop 4)
    exact ⟨hheader.enable, hheader.willing, hheader.error, hheader.operVersion,
      hheader.maxVersion⟩
  · rw [hconfig]
  · rw [hconfig]
    funext i
    change info.getD (8 + i.val) 0 = _
    rw [← hinfo, ceeBytes_percent]
  · intro i
    rw [hconfig]
    rw [share_percent, hshape.percent i, if_congr (readTraffic2_link hlt hn i) rfl rfl]
  · intro i
    rw [hconfig]
    rw [share_bwgid, hshape.bwgid i]
    rfl
  · intro i
    rw [hconfig]
    rw [share_link]
    exact readTraffic2_link hlt hn i
  · intro _
    rw [hconfig]
    exact ⟨(readTraffic2_groups hlt hn).shared, rfl⟩
  · exact fun hne => absurd hst hne

/-- A CIN sub-TLV with these percentages and these two bytes for each priority -/
def cinBytes (p : FeatureProtocolAttribs) (percent byte1 byte2 : Fin 8 → UInt8) : Bytes :=
  tlvHeader p 0 ++ List.ofFn percent ++ (List.finRange 8).flatMap fun i => [byte1 i, byte2 i]

theorem cinBytes_percent (p : FeatureProtocolAttribs) (percent byte1 byte2 : Fin 8 → UInt8)
    (i : Fin 8) : (cinBytes p percent byte1 byte2).getD (4 + i.val) 0 = percent i := by
  fin_cases i <;> rfl

theorem cinBytes_byte1 (p : FeatureProtocolAttribs) (percent byte1 byte2 : Fin 8 → UInt8)
    (i : Fin 8) : (cinBytes p percent byte1 byte2).getD (12 + 2 * i.val) 0 = byte1 i := by
  fin_cases i <;> rfl

theorem cinBytes_byte2 (p : FeatureProtocolAttribs) (percent byte1 byte2 : Fin 8 → UInt8)
    (i : Fin 8) : (cinBytes p percent byte1 byte2).getD (13 + 2 * i.val) 0 = byte2 i := by
  fin_cases i <;> rfl

/-- What a CIN sub-TLV says about the priority groups of the peer -/
def cinPg (rx : RxInfo) (info : Bytes) : Attribs PgConfig where
  protocol := peerProtocol rx dupDcbxTlvPg info
  config := { tx := readTraffic1 info, rx := readTraffic1 info }

theorem putPeerPg_cin (data : Attribs PgConfig) (d : Device)
    (hst : data.protocol.dcbxSt ≠ dcbxSubtype2) :
    (putPeerPg data d).pg.peer.config.tx = data.config.tx ∧
      (putPeerPg data d).pg.peer.config.rx = data.config.rx ∧
      (putPeerPg data d).pg.peer.config.numTcs = d.pg.peer.config.numTcs := by
  unfold putPeerPg
  rw [if_neg hst]
  dsimp only
  split
  · rename_i heq
    refine ⟨?_, ?_, rfl⟩ <;> rw [heq]
  · exact ⟨rfl, rfl, if_neg hst⟩

/-- The groups of an admitted configuration come back from a CIN sub-TLV. The number of traffic
classes is the old one. -/
theorem cin_samePg (d : Device) (hst : rx.dcbxSt ≠ dcbxSubtype2)
    (hmax : a.protocol.maxVersion = 0) (hoper : a.protocol.operVersion = 0)
    (hshape : Shaped a.config.tx) (h : bldDcbx1PgTlv a = some info) :
    ∃ e, processDcbxPgTlv rx info d = .ok (e, true) ∧ SamePg rx.dcbxSt a e.pg.peer ∧
      e.pg.peer.config.numTcs = d.pg.peer.config.numTcs := by
  let byte1 (i : Fin 8) : UInt8 := (a.config.tx.up i).bwgid <<< 5 |||
    UInt8.ofNat (a.config.tx.up i).strictPriority.toNat <<< 3
  have hinfo : cinBytes a.protocol a.config.tx.pgPercent byte1
      (fun i => (a.config.tx.up i).percentOfPgCap) = info := by
    unfold bldDcbx1PgTlv advertised at h
    dsimp only at h
    split at h
    · exact Option.some.inj h
    · cases h
  have hlen : info.length = 28 := by
    rw [← hinfo]
    rfl
  have hprocess : processDcbxPgTlv rx info d = .ok (putPeerPg (cinPg rx info) d, true) := by
    unfold processDcbxPgTlv
    rw [if_neg hst, if_neg (by rw [hlen]; decide)]
    rfl
  obtain ⟨htx, hrx, hnum⟩ := putPeerPg_cin (cinPg rx info) d hst
  have hbyte : ∀ i, info.getD (12 + 2 * i.val) 0 = UInt8.ofNat i.val <<< 5 |||
      UInt8.ofNat (a.config.tx.up i).strictPriority.toNat <<< 3 := by
    intro i
    rw [← hinfo, cinBytes_byte1, ← hshape.bwgid i]
  have hbwgid : ∀ i, ((readTraffic1 info).up i).bwgid = UInt8.ofNat i.val := by
    intro i
    change info.getD (12 + 2 * i.val) 0 >>> 5 = _
    rw [hbyte i]
    exact (bandwidth_byte i _).1
  have hstrict : ∀ i, ((readTraffic1 info).up i).strictPriority =
      (a.config.tx.up i).strictPriority := by
    intro i
    change StrictPriority.ofByte (info.getD (12 + 2 * i.val) 0 >>> 3) = _
    rw [hbyte i]
    exact (bandwidth_byte i _).2
  refine ⟨putPeerPg (cinPg rx info) d, hprocess, ?_, hnum⟩
  constructor
  · refine putPeerPg_header d ?_
    rw [← hinfo]
    have hheader := headerProtocol_tlvHeader hmax hoper 0
      ((cinBytes a.protocol a.config.tx.pgPercent byte1
        (fun i => (a.config.tx.up i).percentOfPgCap)).drop 4)
    exact ⟨hheader.enable, hheader.willing, hheader.error, hheader.operVersion,
      hheader.maxVersion⟩
  · rw [htx, hrx]
    rfl
  · rw [htx]
    funext i
    change info.getD (4 + i.val) 0 = _
    rw [← hinfo, cinBytes_percent]
  · intro i
    rw [htx]
    change info.getD (13 + 2 * i.val) 0 = _
    rw [← hinfo, cinBytes_byte2]
  · intro i
    rw [htx, hshape.bwgid i]
    exact hbwgid i
  · intro i
    rw [htx]
    change ((readTraffic1 info).up i).strictPriority = .link ↔ _
    rw [hstrict i]
  · exact fun heq => absurd heq hst
  · intro _ i
    rw [htx]
    exact hstrict i

end Groups

/-! ### PFC, the logical link and the control TLV -/

theorem adminMap_bit {admin : Fin 8 → PfcType} (h : ∀ i, admin i ≠ .invalid) (k : Fin 8) :
    adminMap admin >>> UInt8.ofNat k &&& 1 = 1 ↔ admin k = .enabled := by
  have hbit : ∀ i k : Fin 8, ∀ p ∈ [PfcType.disabled, .enabled],
      (UInt8.ofNat (p.toNat <<< i.val)) >>> UInt8.ofNat k &&& 1 =
        if i = k ∧ p = .enabled then 1 else 0 := by
    decide
  have hterm : ∀ i, UInt8.ofNat ((admin i).toNat <<< i.val) >>> UInt8.ofNat k &&& 1 =
      if i = k ∧ admin i = .enabled then 1 else 0 := by
    intro i
    refine hbit i k (admin i) ?_
    cases hi : admin i with
    | disabled => simp
    | enabled => simp
    | invalid => exact absurd hi (h i)
  -- The bit is set as soon as the loop has passed the priority.
  have hfold : ∀ (l : List (Fin 8)) (m : UInt8),
      l.foldl (fun m i => m ||| UInt8.ofNat ((admin i).toNat <<< i.val)) m >>> UInt8.ofNat k
          &&& 1 =
        m >>> UInt8.ofNat k &&& 1 ||| if k ∈ l ∧ admin k = .enabled then 1 else 0 := by
    intro l
    induction l with
    | nil =>
      intro m
      simp
    | cons i l ih =>
      intro m
      rw [List.foldl_cons, ih, UInt8.shiftRight_or, or_and_right, hterm i]
      by_cases hik : i = k
      · subst hik
        by_cases hi : admin i = .enabled
        · by_cases hl : i ∈ l <;> simp [hi, hl, UInt8.or_assoc]
        · simp [hi]
      · simp [hik, Ne.symm hik]
  have hmap := hfold (List.finRange 8) 0
  rw [UInt8.zero_shiftRight, UInt8.zero_and, UInt8.zero_or] at hmap
  unfold adminMap
  rw [hmap]
  by_cases hk : admin k = .enabled <;> simp [hk]

/-- What comes back of PFC -/
structure SamePfc (st : Nat) (a b : Attribs PfcConfig) : Prop where
  header : SameHeader a.protocol b.protocol
  admin : b.config.admin = a.config.admin
  cee : st = dcbxSubtype2 → b.config.numTcs = a.config.numTcs

theorem putPeerPfc_store (data : Attribs PfcConfig) (d : Device) :
    (putPeerPfc data d).pfc.peer.config.admin = data.config.admin ∧
      (data.protocol.dcbxSt = dcbxSubtype2 →
        (putPeerPfc data d).pfc.peer.config.numTcs = data.config.numTcs) ∧
      (data.protocol.dcbxSt ≠ dcbxSubtype2 →
        (putPeerPfc data d).pfc.peer.config.numTcs = d.pfc.peer.config.numTcs) ∧
      ∀ p, SameHeader p data.protocol → SameHeader p (putPeerPfc data d).pfc.peer.protocol := by
  unfold putPeerPfc
  split
  · rename_i heq
    rw [heq]
    exact ⟨rfl, fun _ => rfl, fun _ => rfl, fun _ h => h⟩
  · exact ⟨rfl, fun hst => if_pos hst, fun hst => if_neg hst, fun _ h => takePeer_header h⟩

/-- The map of PFC comes back. Without a number of traffic classes in the sub-TLV, the old one
stays. -/
theorem pfc_samePfc {rx : RxInfo} {a : Attribs PfcConfig} {info : Bytes} (d : Device)
    (hmax : a.protocol.maxVersion = 0) (hoper : a.protocol.operVersion = 0)
    (hadmin : ∀ i, a.config.admin i ≠ .invalid) (htcs : a.config.numTcs < 256)
    (h : bldPfcTlv rx.dcbxSt a = some info) :
    ∃ e, processDcbxPfcTlv rx info d = (e, true) ∧ SamePfc rx.dcbxSt a e.pfc.peer ∧
      (rx.dcbxSt ≠ dcbxSubtype2 →
        e.pfc.peer.config.numTcs = d.pfc.peer.config.numTcs) := by
  -- Both layouts start with the header and the map.
  obtain ⟨rest, hinfo, hlen, hbyte⟩ : ∃ rest : Bytes,
      tlvHeader a.protocol 0 ++ adminMap a.config.admin :: rest = info ∧
        info.length = (if rx.dcbxSt = dcbxSubtype2 then 6 else 5) ∧
        (rx.dcbxSt = dcbxSubtype2 → info.getD 5 0 = UInt8.ofNat a.config.numTcs) := by
    unfold bldPfcTlv at h
    split at h
    · rename_i hst
      unfold bldDcbx2PfcTlv advertised at h
      split at h
      · cases h
        exact ⟨[UInt8.ofNat a.config.numTcs], rfl, by rw [if_pos hst]; rfl, fun _ => rfl⟩
      · cases h
    · rename_i hst
      unfold bldDcbx1PfcTlv advertised at h
      split at h
      · cases h
        exact ⟨[], rfl, by rw [if_neg hst]; rfl, fun heq => absurd heq hst⟩
      · cases h
  have hmap : info.getD 4 0 = adminMap a.config.admin := by
    rw [← hinfo]
    rfl
  have hadm : (fun i : Fin 8 => if info.getD 4 0 >>> UInt8.ofNat i &&& 1 = 1
      then PfcType.enabled else .disabled) = a.config.admin := by
    funext i
    rw [hmap, if_congr (adminMap_bit hadmin i) rfl rfl]
    cases hi : a.config.admin i with
    | disabled => rfl
    | enabled => rfl
    | invalid => exact absurd hi (hadmin i)
  have hheader : SameHeader a.protocol (peerProtocol rx dupDcbxTlvPfc info) := by
    rw [← hinfo]
    have hh := headerProtocol_tlvHeader hmax hoper 0 (adminMap a.config.admin :: rest)
    exact ⟨hh.enable, hh.willing, hh.error, hh.operVersion, hh.maxVersion⟩
  unfold processDcbxPfcTlv
  rw [if_neg (by rw [hlen]; simp)]
  refine ⟨_, rfl, ?_⟩
  obtain ⟨ha, hn, hold, hp⟩ := putPeerPfc_store {
    protocol := peerProtocol rx dupDcbxTlvPfc info
    config := {
      admin := fun i => if info.getD 4 0 >>> UInt8.ofNat i &&& 1 = 1 then .enabled
        else .disabled
      numTcs := if decide (rx.dcbxSt = dcbxSubtype2) then (info.getD 5 0).toNat else 0 } } d
  refine ⟨⟨hp _ hheader, ha.trans hadm, fun hst => (hn hst).trans ?_⟩, hold⟩
  rw [if_pos (decide_eq_true hst), hbyte hst]
  exact UInt8.toNat_ofNat_of_lt' (show a.config.numTcs < 2 ^ 8 by omega)

/-- What comes back of the logical link -/
structure SameLlink (a b : Attribs LlinkConfig) : Prop where
  header : SameHeader a.protocol b.protocol
  status : b.config.llinkStatus = 1 ↔ a.config.llinkStatus = 1

theorem putPeerLlink_store (data : Attribs LlinkConfig) (d : Device) :
    (putPeerLlink data d).llink.peer.config.llinkStatus = data.config.llinkStatus ∧
      ∀ p, SameHeader p data.protocol →
        SameHeader p (putPeerLlink data d).llink.peer.protocol := by
  unfold putPeerLlink
  split
  · rename_i heq
    rw [heq]
    exact ⟨rfl, fun _ h => h⟩
  · exact ⟨rfl, fun _ h => takePeer_header h⟩

theorem llink_sameLlink {rx : RxInfo} {a : Attribs LlinkConfig} {info : Bytes} (d : Device)
    (hmax : a.protocol.maxVersion = 0) (hoper : a.protocol.operVersion = 0)
    (h : bldDcbxLlinkTlv a = some info) :
    ∃ e, processDcbxLlinkTlv rx info d = (e, true) ∧ SameLlink a e.llink.peer := by
  unfold bldDcbxLlinkTlv advertised at h
  split at h
  · cases h
    have hh := headerProtocol_tlvHeader hmax hoper llinkFcoeStype
      [orFlag 0 bit7 (decide (a.config.llinkStatus = 1))]
    have hflag : ∀ b : Bool, (if hasFlag (orFlag 0 bit7 b) bit7 then (1 : UInt8) else 0) = 1 ↔
        b = true := by
      decide
    obtain ⟨hstatus, hp⟩ := putPeerLlink_store {
      protocol := peerProtocol rx dupDcbxTlvLlink (tlvHeader a.protocol llinkFcoeStype ++
        [orFlag 0 bit7 (decide (a.config.llinkStatus = 1))])
      config := { llinkStatus :=
        if hasFlag (orFlag 0 bit7 (decide (a.config.llinkStatus = 1))) bit7 then 1 else 0 } } d
    refine ⟨_, rfl, hp _ ⟨hh.enable, hh.willing, hh.error, hh.operVersion, hh.maxVersion⟩, ?_⟩
    exact (iff_of_eq (congrArg (· = 1) hstatus)).trans
      ((hflag (decide (a.config.llinkStatus = 1))).trans decide_eq_true_iff)
  · cases h

/-- The versions and the sequence numbers are the same. -/
structure SameNumbers (c c' : ControlProtocolAttribs) : Prop where
  operVersion : c'.operVersion = c.operVersion
  maxVersion : c'.maxVersion = c.maxVersion
  seqNo : c'.seqNo = c.seqNo
  ackNo : c'.ackNo = c.ackNo

theorem ctrl_sameNumbers {rx : RxInfo} {c : ControlProtocolAttribs} (d : Device)
    (hc : ControlVersion c) (hdup : hasFlag rx.dupTlvs dupDcbxTlvCtrl = false)
    (hmany : rx.tooManyNghbrs = false) :
    SameNumbers c (processDcbxCtrlTlv rx (bldDcbxCtrlTlv c) d).peerCtrl := by
  have hseq : ntohl (bldDcbxCtrlTlv c) 2 = c.seqNo := ntohl_htonl c.seqNo (htonl c.ackNo)
  have hack : ntohl (bldDcbxCtrlTlv c) 6 = c.ackNo := ntohl_htonl c.ackNo []
  have hlen : (bldDcbxCtrlTlv c).length = 10 := rfl
  unfold processDcbxCtrlTlv putPeerControl
  rw [if_neg (by rw [hlen]; decide), hdup, hmany, hseq, hack]
  rw [if_neg (show ¬ (hasFlag (orFlag (orFlag 0 dupDcbxTlvCtrl false) tooManyNghbrs false)
    dupDcbxTlvCtrl || hasFlag (orFlag (orFlag 0 dupDcbxTlvCtrl false) tooManyNghbrs false)
    tooManyNghbrs) = true by decide)]
  refine ⟨?_, ?_, rfl, rfl⟩
  · change (UInt8.ofNat c.operVersion).toNat = _
    rw [hc.operVersion]
    rfl
  · change (UInt8.ofNat c.maxVersion).toNat = _
    rw [hc.maxVersion]
    rfl

/-! ### The round trip -/

/-- The local configuration is one that `put_pg` and `put_pfc` admit, for a device with at most
eight traffic classes. The rule checker has the groups below the number of traffic classes, and
the arrays have eight entries. -/
structure Admitted (st : Nat) (d : Device) : Prop where
  pg : ∃ old pg pfc c, dcbCheckConfig pg pfc = .ok (c, .success) ∧
    d.pg.loc.config = storedPg st old c
  classes : d.pg.loc.config.numTcs ≤ 8
  pfc : ∀ i, d.pfc.loc.config.admin i ≠ .invalid
  pfcClasses : d.pfc.loc.config.numTcs ≤ 8

/-- The sub-TLVs of `d`, read by the device `e`. For CIN the number of traffic classes in the stores
of the peer is the one that `e` had. -/
structure RoundTrip (rx : RxInfo) (d e : Device) : Prop where
  ctrl : hasFlag rx.dupTlvs dupDcbxTlvCtrl = false → rx.tooManyNghbrs = false →
    SameNumbers d.ctrl (processDcbxCtrlTlv rx (bldDcbxCtrlTlv d.ctrl) e).peerCtrl
  pg : ∀ info, bldPgTlv rx.dcbxSt d.pg.loc = some info →
    ∃ e', processDcbxPgTlv rx info e = .ok (e', true) ∧
      SamePg rx.dcbxSt d.pg.loc e'.pg.peer ∧
      (rx.dcbxSt ≠ dcbxSubtype2 → e'.pg.peer.config.numTcs = e.pg.peer.config.numTcs)
  pfc : ∀ info, bldPfcTlv rx.dcbxSt d.pfc.loc = some info →
    ∃ e', processDcbxPfcTlv rx info e = (e', true) ∧
      SamePfc rx.dcbxSt d.pfc.loc e'.pfc.peer ∧
      (rx.dcbxSt ≠ dcbxSubtype2 → e'.pfc.peer.config.numTcs = e.pfc.peer.config.numTcs)
  llink : ∀ info, bldDcbxLlinkTlv d.llink.loc = some info →
    ∃ e', processDcbxLlinkTlv rx info e = (e', true) ∧ SameLlink d.llink.loc e'.llink.peer

/-- What a station sends of a configuration that the setters admit comes back in the stores of
any peer that reads the version of the station. -/
theorem roundTrip_of_reachable {s : Station} (hs : dcbxSystem.Reachable s)
    (hadm : Admitted s.dcbxSt s.dev) (rx : RxInfo) (hst : rx.dcbxSt = s.dcbxSt) (e : Device) :
    RoundTrip rx s.dev e := by
  have hv := versions_of_reachable hs
  obtain ⟨old, pg, pfc, c, hc, hloc⟩ := hadm.pg
  obtain ⟨hshape, hlt⟩ := checked_shape hc
  have htx : s.dev.pg.loc.config.tx = c.tx := by
    rw [hloc]
    rfl
  rw [← htx] at hshape hlt
  constructor
  · exact ctrl_sameNumbers e hv.ctrl
  · intro info h
    have hpg := hv.feat .pg
    unfold bldPgTlv at h
    split at h
    · rename_i hcee
      -- CEE stores the number of traffic classes with the groups.
      have hnum : s.dev.pg.loc.config.numTcs = c.numTcs := by
        rw [hloc]
        exact if_pos (hst ▸ hcee)
      have hclasses : c.numTcs ≤ 8 := hnum ▸ hadm.classes
      obtain ⟨e', he, hsame⟩ := cee_samePg e hcee hpg.maxVersion hpg.operVersion hshape
        (hlt hclasses) hadm.classes h
      exact ⟨e', he, hsame, fun hne => absurd hcee hne⟩
    · rename_i hcin
      obtain ⟨e', he, hsame, hnum⟩ := cin_samePg e hcin hpg.maxVersion hpg.operVersion hshape h
      exact ⟨e', he, hsame, fun _ => hnum⟩
  · intro info h
    have hpfc := hv.feat .pfc
    have hclasses := hadm.pfcClasses
    exact pfc_samePfc e hpfc.maxVersion hpfc.operVersion hadm.pfc (by omega) h
  · intro info h
    have hllink := hv.feat .llink
    exact llink_sameLlink e hllink.maxVersion hllink.operVersion h

theorem plainStation_admitted (st : Nat) : Admitted st (plainStation st).dev := by
  refine ⟨⟨plainAttribs.pg.config, plainAttribs.pg.config, none, plainAttribs.pg.config,
    by decide, ?_⟩, Nat.le_refl 8, nofun, Nat.le_refl 8⟩
  unfold storedPg
  rw [ite_self]
  rfl

/-- The default configuration of a CEE station, read by another one -/
theorem plainStation_roundTrip :
    RoundTrip { dcbxSt := dcbxSubtype2 } (plainStation 2).dev (plainStation 2).dev :=
  roundTrip_of_reachable (System.reachable_of_init (plainStation_fresh 2)) (plainStation_admitted 2)
    { dcbxSt := dcbxSubtype2 } rfl (plainStation 2).dev

/-- A local store with these groups and eight traffic classes in use, up to the percentages -/
def groupsAttribs (up : Fin 8 → UserPriorityAttribs) (numTcs : Nat) : Attribs PgConfig :=
  let t : TrafficAttribs := { pgPercent := fun i => if i = 1 then 100 else 0, up }
  { protocol := { enable := true, advertise := true }, config := { tx := t, rx := t, numTcs } }

/-- All priorities are in group 0, and one of them is link strict. -/
def sharedStrict : Attribs PgConfig :=
  groupsAttribs (fun i => { bwgid := UInt8.ofNat i
                            percentOfPgCap := if i = 0 then 0 else 100
                            strictPriority := if i = 0 then .link else .none }) 8

/-- A group of a device with ten traffic classes -/
def tenClasses : Attribs PgConfig :=
  groupsAttribs (fun i => { pgid := if i = 0 then 9 else 1
                            bwgid := UInt8.ofNat i
                            percentOfPgCap := 100 }) 10

/-- CIN does not send the number of traffic classes. CEE takes a link strict priority out of a
group that it shares. A group from eight on is written behind the end of `used`. -/
theorem not_roundTrip :
    (∃ s info e, dcbxSystem.Reachable s ∧ Admitted s.dcbxSt s.dev ∧
      bldPgTlv s.dcbxSt s.dev.pg.loc = some info ∧
      processDcbxPgTlv { dcbxSt := s.dcbxSt } info s.dev = .ok (e, true) ∧
      e.pg.peer.config.numTcs ≠ s.dev.pg.loc.config.numTcs) ∧
    (dcbCheckConfig sharedStrict.config none = .ok (sharedStrict.config, .success) ∧
      ∃ info e, bldDcbx2PgTlv sharedStrict = some info ∧
        processDcbxPgTlv { dcbxSt := dcbxSubtype2 } info (plainStation 2).dev = .ok (e, true) ∧
        (sharedStrict.config.tx.up 0).pgid = (sharedStrict.config.tx.up 1).pgid ∧
        (e.pg.peer.config.tx.up 0).pgid ≠ (e.pg.peer.config.tx.up 1).pgid) ∧
    (dcbCheckConfig tenClasses.config none = .ok (tenClasses.config, .success) ∧
      ∃ info, bldDcbx2PgTlv tenClasses = some info ∧
        processDcbxPgTlv { dcbxSt := dcbxSubtype2 } info (plainStation 2).dev =
          .error .outOfBounds) := by
  refine ⟨?_, ⟨by decide, _, _, rfl, rfl, rfl, by decide⟩, by decide, _, rfl, rfl⟩
  exact ⟨plainStation 1, _, _, System.reachable_of_init (plainStation_fresh 1),
    plainStation_admitted 1, rfl, rfl, by decide⟩

end Lldpad.Dcbx
