import Lldpad.Dcbx.Container
import Lldpad.Proofs.Dcbx.Station
import Lldpad.Proofs.Tlv.Pack
import Mathlib.Algebra.Order.BigOperators.Group.List

/-!
# `Lldpad.Proofs.Dcbx.ContainerBuilt`: the TLV around the sub-TLVs is built whole

`bld_dcbx1_tlv` and `bld_dcbx2_tlv` sum up the length by one rule and copy the sub-TLVs by another.
No sub-TLV of `dcbx_bld_tlv` is empty, so both count the same (`bldContainer_eq`).

Only the application of the older protocol has a length that is not fixed. A client can set 127
bytes at most and the configuration file 253 (`AppsShort`), so the nine bits of the header are
enough.
-/

namespace Lldpad.Dcbx

open Lldpad.Lib
open Lldpad.Lldp (Bytes)
open Lldpad.Tlv (UnpackedTlv tlvOk copyTo copyTo_fits wireBytes length_wireBytes packTlv_eq toNat_size)

/-! ### The block -/

/-- The sub-TLVs that are there -/
def present (dcbtlvs : List (Option UnpackedTlv)) : List UnpackedTlv := dcbtlvs.reduceOption

theorem appendSubTlv_eq {front rest : Bytes} {t : UnpackedTlv} (hok : tlvOk t = true)
    (hlen : t.length.toNat + 2 < 65536) (hroom : (wireBytes t).length ≤ rest.length) :
    appendSubTlv (some (front ++ rest, front.length)) (some t) =
      .ok (some (front ++ wireBytes t ++ rest.drop (wireBytes t).length,
        (front ++ wireBytes t).length)) := by
  have hwire := length_wireBytes t
  have hsize := toNat_size hlen
  have hnot : ¬ (t.length + 2).toNat + front.length > (front ++ rest).length := by
    rw [List.length_append]
    omega
  have htake : (wireBytes t).take (t.length + 2).toNat = wireBytes t :=
    List.take_of_length_le (by omega)
  have hcopy : copyTo (front ++ rest) front.length (wireBytes t) =
      .ok (front ++ wireBytes t ++ rest.drop (wireBytes t).length) := by
    rw [copyTo_fits (by rw [List.length_append]; omega), List.take_left, ← List.drop_drop,
      List.drop_left]
  unfold appendSubTlv
  simp only [hok, if_true, packTlv_eq hok hlen, bind_ok, hnot, if_false, htake, hcopy]
  rw [List.length_append, hsize, hwire, Nat.add_comm 2]
  rfl

theorem foldlM_appendSubTlv {dcbtlvs : List (Option UnpackedTlv)} {front rest : Bytes}
    (hok : ∀ t ∈ present dcbtlvs, tlvOk t = true ∧ t.length.toNat + 2 < 65536)
    (hroom : ((present dcbtlvs).flatMap wireBytes).length = rest.length) :
    dcbtlvs.foldlM appendSubTlv (some (front ++ rest, front.length)) =
      .ok (some (front ++ (present dcbtlvs).flatMap wireBytes,
        (front ++ (present dcbtlvs).flatMap wireBytes).length)) := by
  induction dcbtlvs generalizing front rest with
  | nil =>
    have hrest : rest = [] := List.eq_nil_of_length_eq_zero hroom.symm
    have hall : front ++ (present []).flatMap wireBytes = front := List.append_nil front
    rw [hrest, List.append_nil, hall]
    rfl
  | cons x xs ih =>
    rw [List.foldlM_cons]
    cases x with
    | none => exact ih hok hroom
    | some t =>
      obtain ⟨⟨htok, htlen⟩, hok⟩ := List.forall_mem_cons.mp
        (show ∀ u ∈ t :: present xs, _ from hok)
      have hroom : (wireBytes t ++ (present xs).flatMap wireBytes).length = rest.length := hroom
      rw [List.length_append] at hroom
      have hall : (present (some t :: xs)).flatMap wireBytes =
          wireBytes t ++ (present xs).flatMap wireBytes := rfl
      rw [appendSubTlv_eq htok htlen (by omega), bind_ok,
        ih hok (by rw [List.length_drop]; omega), hall, List.append_assoc]

theorem containerHead_eq (subtype : UInt8) {length : UInt16}
    (h : dcbOuiSubtypeLen ≤ length.toNat) :
    containerHead subtype length =
      .ok (some ([0x00, 0x1b, 0x21, subtype] ++ List.replicate (length.toNat - dcbOuiSubtypeLen) 0,
        dcbOuiSubtypeLen)) := by
  obtain ⟨n, hn⟩ := Nat.exists_eq_add_of_le h
  unfold containerHead
  rw [if_neg (Nat.not_lt.mpr h), hn, Nat.add_sub_cancel_left, Nat.add_comm dcbOuiSubtypeLen]
  rfl

theorem bldContainer_eq (subtype : UInt8) {length : UInt16} {dcbtlvs : List (Option UnpackedTlv)}
    (hok : ∀ t ∈ present dcbtlvs, tlvOk t = true ∧ t.length.toNat + 2 < 65536)
    (hlen : length.toNat = dcbOuiSubtypeLen + ((present dcbtlvs).flatMap wireBytes).length) :
    bldContainer subtype length dcbtlvs =
      .ok (some ([0x00, 0x1b, 0x21, subtype] ++ (present dcbtlvs).flatMap wireBytes)) := by
  unfold bldContainer
  rw [containerHead_eq subtype (by omega), bind_ok]
  have hfold : dcbtlvs.foldlM appendSubTlv (some ([0x00, 0x1b, 0x21, subtype] ++
      List.replicate (length.toNat - dcbOuiSubtypeLen) 0, dcbOuiSubtypeLen)) = _ :=
    foldlM_appendSubTlv hok (by rw [List.length_replicate]; omega)
  have hend : ([0x00, 0x1b, 0x21, subtype] ++ (present dcbtlvs).flatMap wireBytes).length =
      length.toNat := by
    rw [List.length_append, hlen]
    rfl
  rw [hfold, bind_ok, hend]
  simp

/-! ### The length -/

/-- What a sub-TLV takes in the container -/
def wireSize (dcbtlv : Option UnpackedTlv) : Nat :=
  match dcbtlv with
  | none => 0
  | some t => t.length.toNat + 2

theorem toNat_addLength (length : UInt16) {dcbtlv : Option UnpackedTlv}
    (hpos : ∀ t ∈ dcbtlv, t.length ≠ 0) (hsum : length.toNat + wireSize dcbtlv < 65536) :
    (addLength length dcbtlv).toNat = length.toNat + wireSize dcbtlv := by
  cases dcbtlv with
  | none => rfl
  | some t =>
    unfold addLength
    simp only [wireSize] at hsum ⊢
    rw [if_pos (hpos t rfl), UInt16.toNat_add, UInt16.toNat_add,
      show (2 : UInt16).toNat = 2 from rfl]
    omega

theorem toNat_addAppLength (length : UInt16) (dcbtlv : Option UnpackedTlv)
    (hsum : length.toNat + wireSize dcbtlv < 65536) :
    (addAppLength length dcbtlv).toNat = length.toNat + wireSize dcbtlv := by
  cases dcbtlv with
  | none => rfl
  | some t =>
    unfold addAppLength
    simp only [wireSize] at hsum ⊢
    rw [UInt16.toNat_add, UInt16.toNat_add, show (2 : UInt16).toNat = 2 from rfl]
    omega

theorem length_present (dcbtlvs : List (Option UnpackedTlv)) :
    ((present dcbtlvs).flatMap wireBytes).length = (dcbtlvs.map wireSize).sum := by
  induction dcbtlvs with
  | nil => rfl
  | cons x xs ih =>
    cases x with
    | none =>
      rw [List.map_cons, List.sum_cons, ← ih]
      exact (Nat.zero_add _).symm
    | some t =>
      have hall : (present (some t :: xs)).flatMap wireBytes =
          wireBytes t ++ (present xs).flatMap wireBytes := rfl
      rw [hall, List.length_append, ih, length_wireBytes, List.map_cons, List.sum_cons, wireSize]
      omega

/-! ### The sub-TLVs of a manifest -/

/-- What a slot takes in the container -/
def slotSize (slot : Option Bytes) : Nat :=
  match slot with
  | none => 0
  | some info => info.length + 2

/-- The sub-TLVs that go into the container, with their types. The logical link is left out of the
CEE version. -/
def Manifest.slots (st : Nat) (m : Manifest) : List (UInt8 × Option Bytes) :=
  if st = dcbxSubtype2 then
    [(dcbControlTlv, m.ctrl), (dcbPriorityGroupsTlv, m.pg), (dcbPriorityFlowControlTlv, m.pfc),
      (dcbApplicationTlv2, m.app)]
  else
    [(dcbControlTlv, m.ctrl), (dcbPriorityGroupsTlv, m.pg), (dcbPriorityFlowControlTlv, m.pfc),
      (dcbApplicationTlv, m.app), (dcbLlinkTlv, m.llink)]

/-- What all the slots take -/
def Manifest.size (st : Nat) (m : Manifest) : Nat := ((m.slots st).map fun p => slotSize p.2).sum

/-- No sub-TLV is empty, and the nine bits are enough for all of them. -/
structure Fits (st : Nat) (m : Manifest) : Prop where
  nonempty : ∀ p ∈ m.slots st, ∀ info, p.2 = some info → info ≠ []
  size : dcbOuiSubtypeLen + m.size st ≤ 511

theorem toNat_subTlv (type : UInt8) {info : Bytes} (h : info.length < 65536) :
    (subTlv type info).length.toNat = info.length := by
  show (UInt16.ofNat info.length).toNat = _
  rw [UInt16.toNat_ofNat']
  exact Nat.mod_eq_of_lt h

theorem wireSize_subTlv (type : UInt8) {slot : Option Bytes} (h : slotSize slot < 65536) :
    wireSize (slot.map (subTlv type)) = slotSize slot := by
  cases slot with
  | none => rfl
  | some info =>
    have hinfo : info.length + 2 < 65536 := h
    show (subTlv type info).length.toNat + 2 = info.length + 2
    rw [toNat_subTlv type (by omega)]

theorem subTlv_packs {type : UInt8} {slot : Option Bytes} (h : slotSize slot < 65536)
    (hne : ∀ info, slot = some info → info ≠ []) :
    ∀ t ∈ slot.map (subTlv type), t.length ≠ 0 ∧ tlvOk t = true ∧ t.length.toNat + 2 < 65536 := by
  intro t ht
  obtain ⟨info, rfl, rfl⟩ := Option.map_eq_some_iff.mp ht
  have hinfo : info.length + 2 < 65536 := h
  have hlen := toNat_subTlv type (show info.length < 65536 by omega)
  have hpos : (subTlv type info).length ≠ 0 := by
    intro hzero
    rw [hzero] at hlen
    exact hne info rfl (List.eq_nil_of_length_eq_zero hlen.symm)
  exact ⟨hpos, by simp [tlvOk, hpos], by omega⟩

/-- The sub-TLVs of the container -/
def containerSubs (st : Nat) (m : Manifest) : List (Option UnpackedTlv) :=
  (m.slots st).map fun p => p.2.map (subTlv p.1)

/-- `tlv->length` of the container -/
def containerLength (st : Nat) (m : Manifest) : UInt16 :=
  if st = dcbxSubtype2 then
    dcbx2Length (m.ctrl.map (subTlv dcbControlTlv)) (m.pg.map (subTlv dcbPriorityGroupsTlv))
      (m.pfc.map (subTlv dcbPriorityFlowControlTlv)) (m.app.map (subTlv dcbApplicationTlv2))
  else
    dcbx1Length (m.ctrl.map (subTlv dcbControlTlv)) (m.pg.map (subTlv dcbPriorityGroupsTlv))
      (m.pfc.map (subTlv dcbPriorityFlowControlTlv)) (m.app.map (subTlv dcbApplicationTlv))
      (m.llink.map (subTlv dcbLlinkTlv))

/-- The subtype of the container -/
def containerSubtype (st : Nat) : UInt8 := if st = dcbxSubtype2 then 2 else 1

/-- The bytes of the container: nothing is left out. -/
def containerBytes (st : Nat) (m : Manifest) : Bytes :=
  [0x00, 0x1b, 0x21, containerSubtype st] ++ (present (containerSubs st m)).flatMap wireBytes

theorem bldDcbxTlv_def (st : Nat) (m : Manifest) :
    bldDcbxTlv st m =
      bldContainer (containerSubtype st) (containerLength st m) (containerSubs st m) := by
  unfold bldDcbxTlv containerSubtype containerLength containerSubs Manifest.slots
  split <;> rfl

section Lengths

variable {control pg pfc app llink : Option UnpackedTlv}
  (hcontrol : ∀ t ∈ control, t.length ≠ 0) (hpg : ∀ t ∈ pg, t.length ≠ 0)
  (hpfc : ∀ t ∈ pfc, t.length ≠ 0)
include hcontrol hpg hpfc

theorem toNat_lengthToPfc
    (hsum : 4 + wireSize control + wireSize pg + wireSize pfc < 65536) :
    (addLength (addLength (addLength 4 control) pg) pfc).toNat =
      4 + wireSize control + wireSize pg + wireSize pfc := by
  have h₁ := toNat_addLength 4 hcontrol (by
    rw [show (4 : UInt16).toNat = 4 from rfl]
    omega)
  rw [show (4 : UInt16).toNat = 4 from rfl] at h₁
  have h₂ := toNat_addLength (addLength 4 control) hpg (by omega)
  have h₃ := toNat_addLength (addLength (addLength 4 control) pg) hpfc (by omega)
  omega

theorem toNat_dcbx2Length
    (hsum : 4 + wireSize control + wireSize pg + wireSize pfc + wireSize app < 65536) :
    (dcbx2Length control pg pfc app).toNat =
      4 + wireSize control + wireSize pg + wireSize pfc + wireSize app := by
  have h₃ := toNat_lengthToPfc hcontrol hpg hpfc (by omega)
  unfold dcbx2Length
  rw [toNat_addAppLength _ _ (by omega), h₃]

theorem toNat_dcbx1Length (hllink : ∀ t ∈ llink, t.length ≠ 0)
    (hsum : 4 + wireSize control + wireSize pg + wireSize pfc + wireSize app + wireSize llink <
      65536) :
    (dcbx1Length control pg pfc app llink).toNat =
      4 + wireSize control + wireSize pg + wireSize pfc + wireSize app + wireSize llink := by
  have h₃ := toNat_lengthToPfc hcontrol hpg hpfc (by omega)
  have h₄ := toNat_addAppLength (addLength (addLength (addLength 4 control) pg) pfc) app
    (by omega)
  unfold dcbx1Length
  rw [toNat_addLength _ hllink (by omega), h₄, h₃]

end Lengths

variable {m : Manifest} {st : Nat}

theorem containerSubs_pack (h : Fits st m) :
    ((containerSubs st m).map wireSize).sum = m.size st ∧
      ∀ t ∈ present (containerSubs st m), tlvOk t = true ∧ t.length.toNat + 2 < 65536 := by
  have hsize := h.size
  have hsmall : ∀ p ∈ m.slots st, slotSize p.2 < 65536 := by
    intro p hp
    have hle := List.le_sum_of_mem (List.mem_map_of_mem (f := fun p => slotSize p.2) hp)
    unfold Manifest.size at hsize
    omega
  constructor
  · unfold containerSubs Manifest.size
    rw [List.map_map]
    refine congrArg List.sum (List.map_congr_left fun p hp => ?_)
    exact wireSize_subTlv p.1 (hsmall p hp)
  · intro t ht
    obtain ⟨x, hx, hxt⟩ := List.mem_filterMap.mp ht
    obtain ⟨p, hp, rfl⟩ := List.mem_map.mp hx
    exact (subTlv_packs (hsmall p hp) (h.nonempty p hp) t hxt).2

theorem toNat_containerLength (h : Fits st m) :
    (containerLength st m).toNat = dcbOuiSubtypeLen + m.size st := by
  obtain ⟨hne, hsize⟩ := h
  have hof : dcbOuiSubtypeLen = 4 := rfl
  have hpos {type : UInt8} {slot : Option Bytes} (hslot : slotSize slot < 65536)
      (hne : ∀ info, slot = some info → info ≠ []) :
      ∀ t ∈ slot.map (subTlv type), t.length ≠ 0 := fun t ht => (subTlv_packs hslot hne t ht).1
  unfold containerLength
  unfold Manifest.size Manifest.slots at hsize ⊢
  unfold Manifest.slots at hne
  by_cases hst : st = dcbxSubtype2
  · simp only [if_pos hst, List.map_cons, List.map_nil, List.sum_cons, List.sum_nil,
      List.forall_mem_cons] at hne hsize ⊢
    obtain ⟨hcontrol, hpg, hpfc, -, -⟩ := hne
    rw [toNat_dcbx2Length (hpos (by omega) hcontrol) (hpos (by omega) hpg) (hpos (by omega) hpfc)]
    all_goals
      simp only [wireSize_subTlv _ (show slotSize m.ctrl < 65536 by omega),
        wireSize_subTlv _ (show slotSize m.pg < 65536 by omega),
        wireSize_subTlv _ (show slotSize m.pfc < 65536 by omega),
        wireSize_subTlv _ (show slotSize m.app < 65536 by omega)]
      omega
  · simp only [if_neg hst, List.map_cons, List.map_nil, List.sum_cons, List.sum_nil,
      List.forall_mem_cons] at hne hsize ⊢
    obtain ⟨hcontrol, hpg, hpfc, -, hllink, -⟩ := hne
    rw [toNat_dcbx1Length (hpos (by omega) hcontrol) (hpos (by omega) hpg) (hpos (by omega) hpfc)
      (hpos (by omega) hllink)]
    all_goals
      simp only [wireSize_subTlv _ (show slotSize m.ctrl < 65536 by omega),
        wireSize_subTlv _ (show slotSize m.pg < 65536 by omega),
        wireSize_subTlv _ (show slotSize m.pfc < 65536 by omega),
        wireSize_subTlv _ (show slotSize m.app < 65536 by omega),
        wireSize_subTlv _ (show slotSize m.llink < 65536 by omega)]
      omega

theorem bldDcbxTlv_of_fits (h : Fits st m) :
    bldDcbxTlv st m = .ok (some (containerBytes st m)) ∧
      (containerBytes st m).length = (containerLength st m).toNat := by
  obtain ⟨hsum, hpack⟩ := containerSubs_pack h
  have hlen : (containerLength st m).toNat =
      dcbOuiSubtypeLen + ((present (containerSubs st m)).flatMap wireBytes).length := by
    rw [toNat_containerLength h, length_present, hsum]
  rw [bldDcbxTlv_def, bldContainer_eq _ hpack hlen, hlen]
  refine ⟨rfl, ?_⟩
  unfold containerBytes
  rw [List.length_append]
  rfl

/-! ### The sub-TLVs of a device -/

/-- What no sub-TLV of `dcbx_bld_tlv` exceeds, and none is empty -/
structure SlotAtMost (n : Nat) (slot : Option Bytes) : Prop where
  nonempty : ∀ info, slot = some info → info ≠ []
  size : slotSize slot ≤ n + 2

theorem advertised_atMost {C : Type} (a : Attribs C) {p : FeatureProtocolAttribs} {subtype n : Nat}
    {rest : Bytes} (hlen : 4 + rest.length ≤ n) :
    SlotAtMost n (advertised a (tlvHeader p subtype ++ rest)) := by
  unfold advertised
  split
  · refine ⟨fun info hi => ?_, ?_⟩
    · cases hi
      exact List.cons_ne_nil _ _
    · show (tlvHeader p subtype ++ rest).length + 2 ≤ n + 2
      rw [List.length_append, show (tlvHeader p subtype).length = 4 from rfl]
      omega
  · exact ⟨nofun, Nat.zero_le _⟩

theorem length_takeBytes (n : Nat) (data : Bytes) : (takeBytes n data).length = n := by
  unfold takeBytes
  rw [List.length_append, List.length_take, List.length_replicate]
  omega

theorem bldDcbx1PgTlv_atMost (a : Attribs PgConfig) : SlotAtMost 28 (bldDcbx1PgTlv a) := by
  unfold bldDcbx1PgTlv
  simp only [List.append_assoc]
  exact advertised_atMost a (by simp)

theorem bldDcbx2PgTlv_atMost (a : Attribs PgConfig) : SlotAtMost 17 (bldDcbx2PgTlv a) := by
  unfold bldDcbx2PgTlv
  simp only [List.append_assoc]
  exact advertised_atMost a (by simp)

theorem bldDcbx1PfcTlv_atMost (a : Attribs PfcConfig) : SlotAtMost 5 (bldDcbx1PfcTlv a) :=
  advertised_atMost a (Nat.le_refl 5)

theorem bldDcbx2PfcTlv_atMost (a : Attribs PfcConfig) : SlotAtMost 6 (bldDcbx2PfcTlv a) :=
  advertised_atMost a (Nat.le_refl 6)

theorem bldDcbx1AppTlv_atMost (a : Attribs AppConfig) (subtype : Nat) :
    SlotAtMost (4 + a.config.length) (bldDcbx1AppTlv a subtype) :=
  advertised_atMost a (by rw [length_takeBytes])

theorem bldDcbxLlinkTlv_atMost (a : Attribs LlinkConfig) : SlotAtMost 5 (bldDcbxLlinkTlv a) :=
  advertised_atMost a (Nat.le_refl 5)

theorem bldDcbx2AppTlv_atMost (d : Device) : SlotAtMost 22 (bldDcbx2AppTlv d) := by
  have hentry (i : Fin 3) : (appEntry i (d.app i).loc).length = 6 := by
    unfold appEntry
    rw [List.length_append, length_takeBytes]
    match i with
    | 0 | 1 | 2 => rfl
  have hentries (is : List (Fin 3)) :
      (is.flatMap fun i => appEntry i (d.app i).loc).length = 6 * is.length := by
    induction is with
    | nil => rfl
    | cons i is ih => rw [List.flatMap_cons, List.length_append, hentry, ih, List.length_cons,
        Nat.mul_succ, Nat.add_comm]
  have hcount := List.length_filter_le (fun i => (d.app i).feat.advertise) (List.finRange 3)
  rw [List.length_finRange] at hcount
  unfold bldDcbx2AppTlv
  cases (List.finRange 3).find? fun i => (d.app i).feat.advertise with
  | none => exact ⟨nofun, Nat.zero_le _⟩
  | some first =>
    refine ⟨fun info hi => ?_, ?_⟩
    · cases hi
      exact List.cons_ne_nil _ _
    · show (tlvHeader _ 0 ++ _).length + 2 ≤ 22 + 2
      rw [List.length_append, hentries, show (tlvHeader (d.app first).feat 0).length = 4 from rfl]
      omega

theorem fits_cee (hst : st = dcbxSubtype2) (hctrl : SlotAtMost 10 m.ctrl)
    (hpg : SlotAtMost 17 m.pg) (hpfc : SlotAtMost 6 m.pfc) (happ : SlotAtMost 22 m.app) :
    Fits st m := by
  obtain ⟨hctrl, h₁⟩ := hctrl
  obtain ⟨hpg, h₂⟩ := hpg
  obtain ⟨hpfc, h₃⟩ := hpfc
  obtain ⟨happ, h₄⟩ := happ
  constructor
  · unfold Manifest.slots
    rw [if_pos hst]
    simp only [List.forall_mem_cons]
    exact ⟨hctrl, hpg, hpfc, happ, nofun⟩
  · unfold Manifest.size Manifest.slots
    rw [if_pos hst]
    simp only [List.map_cons, List.map_nil, List.sum_cons, List.sum_nil, dcbOuiSubtypeLen]
    omega

theorem fits_cin (hst : st ≠ dcbxSubtype2) (hctrl : SlotAtMost 10 m.ctrl)
    (hpg : SlotAtMost 28 m.pg) (hpfc : SlotAtMost 5 m.pfc) (happ : SlotAtMost 257 m.app)
    (hllink : SlotAtMost 5 m.llink) : Fits st m := by
  obtain ⟨hctrl, h₁⟩ := hctrl
  obtain ⟨hpg, h₂⟩ := hpg
  obtain ⟨hpfc, h₃⟩ := hpfc
  obtain ⟨happ, h₄⟩ := happ
  obtain ⟨hllink, h₅⟩ := hllink
  constructor
  · unfold Manifest.slots
    rw [if_neg hst]
    simp only [List.forall_mem_cons]
    exact ⟨hctrl, hpg, hpfc, happ, hllink, nofun⟩
  · unfold Manifest.size Manifest.slots
    rw [if_neg hst]
    simp only [List.map_cons, List.map_nil, List.sum_cons, List.sum_nil, dcbOuiSubtypeLen]
    omega

/-- The local data of each application keeps to what a text can install. -/
def AppsShort (d : Device) : Prop := ∀ k, (d.app k).loc.config.length ≤ 253

theorem dcbxBldTlv_fits {d : Device} (h : AppsShort d)
    (hm : (dcbxBldTlv st d).2 = some m) : Fits st m := by
  have hctrl : SlotAtMost 10 (some (bldDcbxCtrlTlv d.ctrl)) :=
    ⟨fun info hi => by cases hi; exact List.cons_ne_nil _ _, Nat.le_refl 12⟩
  have hfcoe : d.appFcoe.loc.config.length ≤ 253 := h 0
  unfold dcbxBldTlv at hm
  split at hm
  · cases hm
  split at hm
  · rename_i hst
    cases hm
    exact fits_cee hst hctrl (bldDcbx2PgTlv_atMost _) (bldDcbx2PfcTlv_atMost _)
      (bldDcbx2AppTlv_atMost d)
  · rename_i hst
    cases hm
    have happ := bldDcbx1AppTlv_atMost d.appFcoe.loc 0
    exact fits_cin hst hctrl (bldDcbx1PgTlv_atMost _) (bldDcbx1PfcTlv_atMost _)
      ⟨happ.nonempty, happ.size.trans (by omega)⟩ (bldDcbxLlinkTlv_atMost _)

/-! ### What a text can install -/

theorem length_hexBytes {n : Nat} {hex : CStr} {data : Bytes} (h : hexBytes n hex = some data) :
    data.length = n := by
  induction n generalizing hex data with
  | zero =>
    cases h
    rfl
  | succ n ih =>
    match hex with
    | [] | [_] => cases h
    | a :: b :: hex =>
      obtain ⟨x, -, h⟩ := Option.bind_eq_some_iff.mp h
      obtain ⟨xs, hxs, h⟩ := Option.bind_eq_some_iff.mp h
      cases h
      rw [List.length_cons, ih hxs]

theorem setAppConfig_short {ibuf : CStr} {old new : AppConfig}
    (h : setAppConfig ibuf old = some new) (hold : old.length ≤ 253) : new.length ≤ 253 := by
  have hlt := hexNat_lt 1 ibuf 0
  unfold setAppConfig at h
  dsimp only at h
  split at h
  · obtain ⟨data, hdata, rfl⟩ := Option.map_eq_some_iff.mp h
    have hlen := length_hexBytes hdata
    show data.length ≤ 253
    omega
  split at h
  · cases h
  · cases h
    exact hold

theorem persistentApp_short (appCfgHex : Option CStr) (i : Fin 3) :
    (persistentApp appCfgHex i).length ≤ 253 := by
  have hdefault : (appDefault i).length ≤ 253 := by
    show 1 ≤ 253
    decide
  unfold persistentApp
  cases hread : readAppCfg appCfgHex (appDefault i) with
  | none => exact hdefault
  | some new =>
    unfold readAppCfg at hread
    cases appCfgHex with
    | none =>
      cases hread
      exact hdefault
    | some hex =>
      dsimp only at hread
      split at hread
      · cases hread
      · rename_i hlen
        obtain ⟨data, hdata, rfl⟩ := Option.map_eq_some_iff.mp hread
        have hlen' := length_hexBytes hdata
        have hmax : dcbMaxTlvLength = 507 := rfl
        show data.length ≤ 253
        omega

/-! ### Runs -/

theorem AppsShort.congr {d d' : Device} (h : AppsShort d)
    (hconfig : ∀ k, (d'.app k).loc.config = (d.app k).loc.config) : AppsShort d' := by
  intro k
  rw [hconfig k]
  exact h k

theorem app_config {d d' : Device}
    (h : ∀ k, (d'.get (appFeature k)).loc.config = (d.get (appFeature k)).loc.config) (k : Fin 3) :
    (d'.app k).loc.config = (d.app k).loc.config := by
  match k with
  | 0 => exact h 0
  | 1 => exact h 1
  | 2 => exact h 2

theorem put_app_config {persist : Persist} {d : Device} {p : Put} {w : Write}
    (hw : p.write persist d = .ok w) (hp : ∀ k, p.feature ≠ some (appFeature k)) (k : Fin 3) :
    (w.dev.app k).loc.config = (d.app k).loc.config := by
  refine app_config (fun k => ?_) k
  rcases (write_cases hw).2 with hu | ⟨f, hf⟩
  · exact (hu.same _).config
  · refine (hf.others _ fun hk => hp k ?_).config
    rw [hk]
    exact hf.feature

theorem putSiblings_config {persist : Persist} {new : FeatureProtocolAttribs} {is : List (Fin 3)}
    {d d' : Device} {ok : Bool} (h : putSiblings persist new is d = (d', ok)) (k : Fin 3) :
    (d'.app k).loc.config = (d.app k).loc.config :=
  app_config (fun _ => ((putSiblings_write h).2 _).config) k

theorem writeApp_config (persist : Persist) (subtype : Nat) (data : Attribs AppConfig) (d : Device)
    (k : Fin 3) :
    ((writeApp persist subtype data d).dev.app k).loc.config = (d.app k).loc.config ∨
      k.val = subtype ∧ ((writeApp persist subtype data d).dev.app k).loc.config =
        storedApp (d.app k).loc.config data.config := by
  unfold writeApp
  split
  · rename_i hi
    dsimp only
    split
    · exact .inl rfl
    split
    · exact .inl rfl
    generalize hsib : putSiblings persist data.protocol (siblings ⟨subtype, hi⟩) d = r
    obtain ⟨d₁, ok⟩ := r
    have hkeep := putSiblings_config hsib
    split
    · exact .inl (hkeep k)
    · rw [app_setApp]
      split
      · rename_i hk
        rw [← hk]
        refine .inr ⟨congrArg Fin.val hk, ?_⟩
        show storedApp (d₁.app k).loc.config data.config = _
        rw [hkeep k]
      · exact .inl (hkeep k)
  · exact .inl rfl

/-- An event that installs what comes from outside keeps the applications short. -/
theorem AppsShort.write {s : Station} {i : Input} {w : Write} (h : AppsShort s.dev)
    (hfrom : AppsFromOutside s i) (hw : i.event.write i.persist s = .ok w) : AppsShort w.dev := by
  obtain ⟨drv, persist, e⟩ := i
  have hw : e.write persist s = .ok w := hw
  cases e with
  | put p =>
    have hw : p.write persist s.dev = .ok w := hw
    cases p with
    | app subtype data =>
      cases hw
      intro k
      rcases writeApp_config persist subtype data s.dev k with hsame | ⟨hk, hstored⟩
      · rw [hsame]
        exact h k
      · obtain ⟨ibuf, htext⟩ := hfrom k hk
        have hshort := setAppConfig_short htext (h k)
        rw [hstored]
        unfold storedApp
        split
        · exact h k
        · exact hshort
    | pg data pfcData =>
      exact h.congr (put_app_config hw (show ∀ k, some Feature.pg ≠ _ by decide))
    | pfc data => exact h.congr (put_app_config hw (show ∀ k, some Feature.pfc ≠ _ by decide))
    | llink subtype data =>
      refine h.congr (put_app_config hw ?_)
      match subtype with
      | 0 => exact show ∀ k, some Feature.llink ≠ some (appFeature k) by decide
      | _ + 1 => exact fun k => nofun
  | addAdapter dormant attribs state =>
    obtain ⟨a, ha, hw⟩ := bind_eq_ok.mp hw
    cases hw
    obtain ⟨⟨pg, st⟩, -, ha⟩ := bind_eq_ok.mp ha
    cases ha
    intro k
    obtain ⟨appCfgHex, hk⟩ := hfrom k
    have hlen : ((readd dormant { attribs with pg := { attribs.pg with config := pg } } state
        s.dev).app k).loc.config.length = (attribs.app k).config.length := by
      match k with
      | 0 | 1 | 2 => rfl
    rw [hlen, hk]
    exact persistentApp_short appCfgHex k
  | setActive active =>
    cases hw
    exact h
  | build =>
    cases hw
    unfold dcbxBldTlv
    have hmark : AppsShort (markSent s.dcbxSt s.dev) := by
      refine h.congr (app_config fun k => ?_)
      rcases markSent_get s.dcbxSt s.dev (appFeature k) with hk | hk <;> rw [hk]
      rfl
    split
    · exact h
    split
    · exact hmark
    · exact hmark
  | frame rx m ack =>
    obtain ⟨⟨d, apps⟩, hd, hw⟩ := bind_eq_ok.mp hw
    cases hw
    refine h.congr (app_config fun k => ?_)
    exact congrArg (·.config) ((readManifest_write hd).stores (appFeature k)).loc
  | expire =>
    cases hw
    refine h.congr (app_config fun k => ?_)
    exact congrArg (·.config) ((expirePeer_write s.dev).stores (appFeature k)).loc

theorem appsShort_of_fresh {attribs : FullDcbAttribs} {state : DcbxState} {d : Device}
    (h : newDevice st attribs state = .ok d) (hfrom : FromConfig attribs) : AppsShort d := by
  obtain ⟨a, ha, h⟩ := bind_eq_ok.mp h
  obtain ⟨⟨pg, st'⟩, -, ha⟩ := bind_eq_ok.mp ha
  cases ha
  cases h
  intro k
  obtain ⟨appCfgHex, hk⟩ := hfrom k
  have hlen : ((newStores st { attribs with pg := { attribs.pg with config := pg } } state).app
      k).loc.config.length = (attribs.app k).config.length := by
    match k with
    | 0 | 1 | 2 => rfl
  rw [hlen, hk]
  exact persistentApp_short appCfgHex k

/-- Whatever the peer sends and the clients and the configuration file install, the container is
built whole, with the length that was computed, and the nine bits are enough for it. -/
theorem containers_whole {s₀ s : Station} {es : List Input} {attribs : FullDcbAttribs}
    {state : DcbxState} (hnew : newDevice s₀.dcbxSt attribs state = .ok s₀.dev)
    (hfrom : FromConfig attribs) (hrun : dcbxSystem.RunWhere AppsFromOutside s₀ es s) {st : Nat}
    {m : Manifest} (hm : (dcbxBldTlv st s.dev).2 = some m) :
    bldDcbxTlv st m = .ok (some (containerBytes st m)) ∧
      (containerBytes st m).length = (containerLength st m).toNat ∧
      (containerBytes st m).length ≤ 511 := by
  have hshort : AppsShort s.dev ∧ Alive s.dev := by
    refine hrun.invariant (I := fun s => AppsShort s.dev ∧ Alive s.dev) ?_
      ⟨appsShort_of_fresh hnew hfrom, alive_of_fresh hnew⟩
    rintro s i t ⟨hs, ha⟩ hi hstep
    obtain ⟨w, hw, hfin, -⟩ := step_cases hstep
    have haw := ha.write hw
    refine ⟨(hs.write hi hw).congr ?_, (haw.finished hfin).2⟩
    exact app_config fun k => hfin.config haw _
  have hfits := dcbxBldTlv_fits hshort.1 hm
  obtain ⟨hbuilt, hlen⟩ := bldDcbxTlv_of_fits hfits
  refine ⟨hbuilt, hlen, ?_⟩
  rw [hlen, toNat_containerLength hfits]
  exact hfits.size

/-- A CIN station whose configuration file says nothing -/
def defaultStation : Station where
  dev := newStores 1 { plainAttribs with
    app := fun i => { protocol := { enable := true, advertise := true }
                      config := persistentApp none i } } {}
  dcbxSt := 1
  mid := newStores 1 plainAttribs {}

/-- The longest data that a client can set: 254 digits -/
def longText : CStr := 'f' :: 'e' :: List.replicate 254 '7'

/-- The data of this text -/
def longApp : Attribs AppConfig where
  protocol := { enable := true, advertise := true }
  config := { length := 127, appData := List.replicate 127 0x77 }

/-- The station gets active, and a client sets the data. -/
def longEvents : List Input := [plainInput (.setActive true), plainInput (.put (.app 0 longApp))]

/-- An event is one of the run, for evaluation. -/
def longCheck (s : Station) (i : Input) : Bool :=
  match i.event with
  | .setActive _ => true
  | .put (.app 0 appData) => setAppConfig longText (s.dev.app 0).loc.config = some appData.config
  | _ => false

/-- The container with it is built whole. -/
theorem longApp_whole : ∃ s m, dcbxSystem.RunWhere AppsFromOutside defaultStation longEvents s ∧
    (dcbxBldTlv 1 s.dev).2 = some m ∧ bldDcbxTlv 1 m = .ok (some (containerBytes 1 m)) := by
  have hcheck : ∀ s i, longCheck s i = true → AppsFromOutside s i := by
    intro s i h
    unfold longCheck at h
    unfold AppsFromOutside
    split at h
    · rename_i hi
      rw [hi]
      trivial
    · rename_i appData hi
      rw [hi]
      intro k hk
      have hk0 : k = 0 := Fin.ext hk
      subst hk0
      exact ⟨longText, of_decide_eq_true h⟩
    · cases h
  obtain ⟨s, hrun, hactive⟩ := dcbxSystem.exists_runWhere longCheck hcheck defaultStation longEvents
    (fun s => s.dev.active) (by decide +kernel)
  have hm : ∃ m, (dcbxBldTlv 1 s.dev).2 = some m := by
    unfold dcbxBldTlv
    simp [hactive, dcbxSubtype2]
  obtain ⟨m, hm⟩ := hm
  have hfrom : FromConfig { plainAttribs with
      app := fun i => { protocol := { enable := true, advertise := true }
                        config := persistentApp none i } } := fun i => ⟨none, rfl⟩
  exact ⟨s, m, hrun, hm, (containers_whole rfl hfrom hrun hm).1⟩

end Lldpad.Dcbx
