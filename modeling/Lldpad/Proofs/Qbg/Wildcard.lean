import Lldpad.Proofs.Qbg.VsiReport
import Mathlib.Data.List.Forall2

/-!
# `Lldpad.Proofs.Qbg.Wildcard`: what the bridge fills in

A filter entry has the VLAN ID, the PCP bits and the PS bit in one field of sixteen bits. A
request may leave the VLAN ID 0, and it may leave the PS bit 0. The bridge fills in the ID and
the PCP bits. `AnswerMatches` says so entry by entry.

`vdp22_cmp_fdata` does the same, but it compares the whole field where the request set PS. Then
an ID that the bridge filled in is a mismatch. It does not compare the PS bit where the request
left it 0, so an answer may set it. The statements have a parameter for this bit: `free` counts
it to the bits that the bridge fills in.

`wildcards_iff` is the whole comparison. `cmpFdata1_iff` is one entry.
-/

namespace Lldpad.Qbg

open Lldpad.Lib

/-! ### The field of sixteen bits -/

/-- The PCP bits -/
def vdp22GetPcp (x : UInt16) : UInt16 := (x >>> 12) &&& 0x7

/-- The format has a MAC address. -/
def hasMac (fif : UInt8) : Bool := fif == vdp22FfmtMacvid || fif == vdp22FfmtGroupmacvid

theorem vdp22GetPs_toNat (x : UInt16) : (vdp22GetPs x).toNat = x.toNat / 2 ^ 15 := by
  have hlt := x.toNat_lt
  have hand : (vdp22GetPs x).toNat = x.toNat / 2 ^ 15 % 2 ^ 1 := by
    rw [vdp22GetPs, UInt16.toNat_and, UInt16.toNat_shiftRight, Nat.shiftRight_eq_div_pow]
    exact Nat.and_two_pow_sub_one_eq_mod _ 1
  omega

theorem vdp22GetPcp_toNat (x : UInt16) : (vdp22GetPcp x).toNat = x.toNat / 2 ^ 12 % 2 ^ 3 := by
  rw [vdp22GetPcp, UInt16.toNat_and, UInt16.toNat_shiftRight, Nat.shiftRight_eq_div_pow]
  exact Nat.and_two_pow_sub_one_eq_mod _ 3

theorem vlan_ext_iff {x y : UInt16} : x = y ↔
    vdp22GetVlanid x = vdp22GetVlanid y ∧ vdp22GetPcp x = vdp22GetPcp y ∧
      vdp22GetPs x = vdp22GetPs y := by
  simp only [← UInt16.toNat_inj, vdp22GetVlanid_toNat, vdp22GetPcp_toNat, vdp22GetPs_toNat]
  omega

/-! ### One entry -/

/-- The entry `p2` of an answer is the one of the request, but for what the bridge fills in. -/
structure EntryMatches (free : Bool) (fif : UInt8) (p1 p2 : Fid22) : Prop where
  mac : hasMac fif = true → p1.mac = p2.mac
  grpid : hasGroup fif = true → p1.grpid = p2.grpid
  vlanid : vdp22GetVlanid p1.vlan ≠ 0 → vdp22GetVlanid p1.vlan = vdp22GetVlanid p2.vlan
  pcp : vdp22GetPs p1.vlan ≠ 0 → vdp22GetPcp p1.vlan = vdp22GetPcp p2.vlan
  ps : free = false ∨ vdp22GetPs p1.vlan ≠ 0 → vdp22GetPs p1.vlan = vdp22GetPs p2.vlan

/-- The bridge filled in a VLAN ID where the request set PS. -/
def FilledUnderPs (p1 p2 : Fid22) : Prop :=
  vdp22GetPs p1.vlan ≠ 0 ∧ vdp22GetVlanid p1.vlan = 0 ∧ vdp22GetVlanid p2.vlan ≠ 0

/-- The bridge set PS where the request did not. -/
def PsRaised (p1 p2 : Fid22) : Prop := vdp22GetPs p1.vlan = 0 ∧ vdp22GetPs p2.vlan ≠ 0

instance (p1 p2 : Fid22) : Decidable (FilledUnderPs p1 p2) :=
  inferInstanceAs (Decidable (_ ∧ _ ∧ _))

instance (p1 p2 : Fid22) : Decidable (PsRaised p1 p2) := inferInstanceAs (Decidable (_ ∧ _))

theorem cmpFdata1_eq (p1 p2 : Fid22) (fif : UInt8) : cmpFdata1 p1 p2 fif = true ↔
    (hasMac fif = true → p1.mac = p2.mac) ∧ (hasGroup fif = true → p1.grpid = p2.grpid) ∧
      (vdp22GetVlanid p1.vlan ≠ 0 → vdp22GetVlanid p1.vlan = vdp22GetVlanid p2.vlan) ∧
      (vdp22GetPs p1.vlan ≠ 0 → p1.vlan = p2.vlan) := by
  simp only [cmpFdata1, hasMac, hasGroup, Bool.and_eq_true, Bool.or_eq_true, Bool.not_eq_true',
    beq_iff_eq, Bool.or_eq_false_iff, beq_eq_false_iff_ne, and_assoc, ne_eq]
  tauto

theorem cmpFdata1_iff (p1 p2 : Fid22) (fif : UInt8) :
    cmpFdata1 p1 p2 fif = true ↔ EntryMatches true fif p1 p2 ∧ ¬ FilledUnderPs p1 p2 := by
  rw [cmpFdata1_eq]
  constructor
  · rintro ⟨hmac, hgrpid, hid, hword⟩
    refine ⟨⟨hmac, hgrpid, hid, fun hps => ?_, fun h => ?_⟩, ?_⟩
    · rw [hword hps]
    · rw [hword (h.resolve_left (by decide))]
    · rintro ⟨hps, hzero, hfilled⟩
      rw [hword hps] at hzero
      exact hfilled hzero
  · rintro ⟨hmatch, hnot⟩
    refine ⟨hmatch.mac, hmatch.grpid, hmatch.vlanid, fun hps => ?_⟩
    refine vlan_ext_iff.mpr ⟨?_, hmatch.pcp hps, hmatch.ps (.inr hps)⟩
    -- Without an ID of its own, the request gets none either.
    by_cases hzero : vdp22GetVlanid p1.vlan = 0
    · by_contra hne
      exact hnot ⟨hps, hzero, fun h => hne (hzero.trans h.symm)⟩
    · exact hmatch.vlanid hzero

theorem entryMatches_false_iff (fif : UInt8) (p1 p2 : Fid22) :
    EntryMatches false fif p1 p2 ↔ EntryMatches true fif p1 p2 ∧ ¬ PsRaised p1 p2 := by
  constructor
  · intro h
    refine ⟨⟨h.mac, h.grpid, h.vlanid, h.pcp, fun _ => h.ps (.inl rfl)⟩, fun hraised => ?_⟩
    exact hraised.2 ((h.ps (.inl rfl)).symm.trans hraised.1)
  · rintro ⟨h, hnot⟩
    refine ⟨h.mac, h.grpid, h.vlanid, h.pcp, fun _ => ?_⟩
    by_cases hps : vdp22GetPs p1.vlan = 0
    · by_contra hne
      exact hnot ⟨hps, fun hzero => hne (hps.trans hzero.symm)⟩
    · exact h.ps (.inr hps)

/-! ### The list -/

/-- The answer has an entry for each one of the request, and each matches. -/
def AnswerMatches (free : Bool) (p vsip : Vsi22) : Prop :=
  List.Forall₂ (EntryMatches free p.fif) p.fdata vsip.fdata

theorem vdp22CmpFdata_iff (p vsip : Vsi22) : vdp22CmpFdata p vsip = true ↔
    List.Forall₂ (fun p1 p2 => cmpFdata1 p1 p2 p.fif = true) p.fdata vsip.fdata := by
  rw [List.forall₂_iff_zip, vdp22CmpFdata, Bool.and_eq_true, beq_iff_eq, List.all_eq_true]
  constructor
  · rintro ⟨hlen, hall⟩
    exact ⟨hlen, fun {a b} hmem => hall (a, b) hmem⟩
  · rintro ⟨hlen, hall⟩
    exact ⟨hlen, fun x hmem => hall hmem⟩

theorem forall₂_and_not {α β : Type} {R S : α → β → Prop} {l₁ : List α} {l₂ : List β} :
    List.Forall₂ (fun a b => R a b ∧ ¬ S a b) l₁ l₂ ↔
      List.Forall₂ R l₁ l₂ ∧ ¬ ∃ x ∈ l₁.zip l₂, S x.1 x.2 := by
  simp only [List.forall₂_iff_zip, not_exists, not_and, Prod.forall]
  constructor
  · rintro ⟨hlen, hall⟩
    exact ⟨⟨hlen, fun hmem => (hall hmem).1⟩, fun a b hmem => (hall hmem).2⟩
  · rintro ⟨⟨hlen, hall⟩, hnot⟩
    exact ⟨hlen, fun hmem => ⟨hall hmem, hnot _ _ hmem⟩⟩

/-- The bridge filled in a VLAN ID under PS. -/
def FillsUnderPs (p vsip : Vsi22) : Prop := ∃ x ∈ p.fdata.zip vsip.fdata, FilledUnderPs x.1 x.2

/-- The bridge set PS in an entry that came without it. -/
def RaisesPs (p vsip : Vsi22) : Prop := ∃ x ∈ p.fdata.zip vsip.fdata, PsRaised x.1 x.2

theorem accepts_iff (p vsip : Vsi22) :
    vdp22CmpFdata p vsip = true ↔ AnswerMatches true p vsip ∧ ¬ FillsUnderPs p vsip := by
  rw [vdp22CmpFdata_iff, AnswerMatches, FillsUnderPs, ← forall₂_and_not]
  simp only [cmpFdata1_iff]

theorem answerMatches_false_iff (p vsip : Vsi22) :
    AnswerMatches false p vsip ↔ AnswerMatches true p vsip ∧ ¬ RaisesPs p vsip := by
  rw [AnswerMatches, AnswerMatches, RaisesPs, ← forall₂_and_not]
  constructor
  · exact List.Forall₂.imp fun p1 p2 => (entryMatches_false_iff p.fif p1 p2).mp
  · exact List.Forall₂.imp fun p1 p2 => (entryMatches_false_iff p.fif p1 p2).mpr

/-- The entry that is kept when the bridge answers with `p2` -/
def filledIn (p1 p2 : Fid22) : Fid22 :=
  let vlanid := if vdp22GetVlanid p1.vlan = 0 then p2.vlan else p1.vlan
  let qos := if vdp22GetPs p1.vlan = 0 then p2.vlan else p1.vlan
  { p1 with vlan := vdp22GetVlanid vlanid ||| vdp22SetQos (vdp22GetQos qos) }

theorem vlan_split (x : UInt16) : vdp22GetVlanid x ||| vdp22SetQos (vdp22GetQos x) = x := by
  have hlt := x.toNat_lt
  refine UInt16.toNat_inj.mp ?_
  have hqos : (vdp22SetQos (vdp22GetQos x)).toNat = (x.toNat / 2 ^ 12) <<< 12 := by
    have hand : (vdp22GetQos x).toNat = x.toNat / 2 ^ 12 := by
      rw [vdp22GetQos, UInt16.toNat_and, UInt16.toNat_shiftRight, Nat.shiftRight_eq_div_pow]
      refine (Nat.and_two_pow_sub_one_eq_mod _ 4).trans (Nat.mod_eq_of_lt ?_)
      show x.toNat / 2 ^ 12 < 16
      omega
    have hsame : (vdp22GetQos x &&& 0xf : UInt16).toNat = x.toNat / 2 ^ 12 := by
      rw [UInt16.toNat_and, hand]
      refine (Nat.and_two_pow_sub_one_eq_mod _ 4).trans (Nat.mod_eq_of_lt ?_)
      omega
    rw [vdp22SetQos, UInt16.toNat_shiftLeft, hsame]
    refine Nat.mod_eq_of_lt ?_
    show (x.toNat / 2 ^ 12) <<< 12 < 2 ^ 16
    rw [Nat.shiftLeft_eq]
    omega
  rw [UInt16.toNat_or, hqos, vdp22GetVlanid_toNat, Nat.or_comm, shift_or_eq (by omega)]
  omega

theorem filledIn_of_cmp {p1 p2 : Fid22} {fif : UInt8} (h : cmpFdata1 p1 p2 fif = true) :
    filledIn p1 p2 = { p1 with vlan := p2.vlan } := by
  obtain ⟨-, -, hid, hword⟩ := (cmpFdata1_eq p1 p2 fif).mp h
  refine congrArg (fun vlan => { p1 with vlan := vlan }) ?_
  by_cases hps : vdp22GetPs p1.vlan = 0
  · have hvlanid : vdp22GetVlanid (if vdp22GetVlanid p1.vlan = 0 then p2.vlan else p1.vlan) =
        vdp22GetVlanid p2.vlan := by
      split_ifs with hzero
      · rfl
      · exact hid hzero
    rw [hvlanid, if_pos hps, vlan_split]
  · rw [hword hps, ite_self, ite_self, vlan_split]

/-- The list that is kept -/
def keptFilter (p vsip : Vsi22) : List Fid22 := List.zipWith filledIn p.fdata vsip.fdata

theorem vdp22Cpfid_fdata {p vsip : Vsi22} (h : vdp22CmpFdata p vsip = true) :
    (vdp22Cpfid p vsip).fdata = keptFilter p vsip := by
  have hall := (vdp22CmpFdata_iff p vsip).mp h
  have hlen : ¬ p.fdata.length ≠ vsip.fdata.length := not_not.mpr hall.length_eq
  have hzip : (vdp22Cpfid p vsip).fdata =
      (p.fdata.zip vsip.fdata).map fun x => { x.1 with vlan := x.2.vlan } := by
    unfold vdp22Cpfid
    rw [if_neg hlen]
  rw [hzip, keptFilter, ← List.map_uncurry_zip_eq_zipWith]
  refine List.map_congr_left fun x hmem => ?_
  exact (filledIn_of_cmp ((List.forall₂_iff_zip.mp hall).2 hmem)).symm

/-! ### The node -/

theorem vdp22stProcess_fdata (rc : Int) (x : Vsi22Ctx) :
    (vdp22stProcess rc x).vsi.fdata = x.vsi.fdata := by
  unfold vdp22stProcess
  split_ifs <;> rfl

theorem vdp22Back_fdata (pid : Int) (x : Vsi22Ctx) : (vdp22Back pid x).vsi.fdata = x.vsi.fdata := by
  unfold vdp22Back vdp22ListdelVsi vdp22DeleteVsi
  dsimp only
  split_ifs <;> simp only [deref_vsi]

theorem vdp22Clntback_fdata (x : Vsi22Ctx) : (vdp22Clntback x).vsi.fdata = x.vsi.fdata := by
  unfold vdp22Clntback
  dsimp only
  split_ifs
  · rw [vdp22Back_fdata, deref_vsi]
  · rw [deref_vsi]

theorem vdp22Nlback_fdata (x : Vsi22Ctx) : (vdp22Nlback x).vsi.fdata = x.vsi.fdata := by
  unfold vdp22Nlback
  dsimp only
  split_ifs
  · rw [vdp22Back_fdata, deref_vsi]
  · rw [deref_vsi]

theorem vdp22stAction_fdata (rc : Int) (x : Vsi22Ctx) :
    (vdp22stAction rc x).vsi.fdata = x.vsi.fdata := by
  unfold vdp22stAction
  dsimp only
  rw [← deref_vsi x]
  split
  all_goals
    first
    | exact vdp22stProcess_fdata rc _
    | exact vdp22Clntback_fdata _
    | rfl

theorem vdp22stEnd_fdata (x : Vsi22Ctx) : (vdp22stEnd x).vsi.fdata = x.vsi.fdata := by
  unfold vdp22stEnd
  have hderef : x.deref.vsi.fdata = x.vsi.fdata := by rw [deref_vsi]
  rw [vdp22Clntback_fdata]
  split_ifs
  · rw [vdp22Nlback_fdata]
    exact hderef
  · exact hderef

theorem vdp22stRun_fdata {rc : Int} {x y : Vsi22Ctx} (h : vdp22stRun rc x = .ok y) :
    y.vsi.fdata = x.vsi.fdata := by
  obtain ⟨z, hz, hy⟩ := bind_eq_ok.mp h
  have hsame : z.vsi.fdata = x.vsi.fdata := by
    refine Machine.run_preserves (I := fun z => z.vsi.fdata = x.vsi.fdata) ?_ ?_ rfl hz
    · intro s t hs ht
      cases ht
      exact (vdp22stAction_fdata rc s).trans hs
    · intro s t b hs ht
      rw [← deref_vsi s] at hs
      rcases vdp22stNextState_eq_ok ht with hr | ⟨_, hr⟩ <;> (cases hr; exact hs)
  cases hy
  split_ifs
  · rw [vdp22stEnd_fdata, deref_vsi, hsame]
  · rw [deref_vsi, hsame]

theorem vdp22CmpFdata_congr {p q vsip : Vsi22} (hfdata : p.fdata = q.fdata) (hfif : p.fif = q.fif) :
    vdp22CmpFdata p vsip = vdp22CmpFdata q vsip := by
  unfold vdp22CmpFdata
  rw [hfdata, hfif]

theorem compared_fdata (vsip : Vsi22) (c : Vsi22Ctx) : (compared vsip c).vsi.fdata =
    if vdp22CmpFdata c.vsi vsip = true then keptFilter c.vsi vsip else c.vsi.fdata := by
  obtain ⟨hkey, hfdata, -, -⟩ := vdp22CmpStatus_kept c.vsi vsip
  have hfif : (vdp22CmpStatus c.vsi vsip).fif = c.vsi.fif := by
    have hparts := hkey
    simp only [vsiKey, Prod.mk.injEq] at hparts
    exact hparts.2.2.2.2.2
  unfold compared
  dsimp only
  by_cases hcmp : vdp22CmpFdata c.vsi vsip = true
  · rw [if_pos hcmp, if_pos hcmp]
    let u : Vsi22 :=
      { vdp22CmpStatus c.vsi vsip with
        smi := { (vdp22CmpStatus c.vsi vsip).smi with respOk := true }
        respVsiMode := vsip.vsiMode }
    have hsame : vdp22CmpFdata u vsip = true := (vdp22CmpFdata_congr hfdata hfif).trans hcmp
    have hkept : (vdp22Cpfid u vsip).fdata = keptFilter c.vsi vsip :=
      (vdp22Cpfid_fdata hsame).trans (congrArg (List.zipWith filledIn · vsip.fdata) hfdata)
    split_ifs <;> exact hkept
  · rw [if_neg hcmp, if_neg hcmp]
    exact hfdata

theorem vdp22BridgeSeen_fdata (vsip : Vsi22) (c : Vsi22Ctx) :
    (vdp22BridgeSeen vsip c).vsi.fdata =
      if vdp22CmpFdata c.vsi vsip = true then keptFilter c.vsi vsip else c.vsi.fdata := by
  have hheard : (heardCtx vsip c).vsi.fdata = c.vsi.fdata ∧
      (heardCtx vsip c).vsi.fif = c.vsi.fif := by
    unfold heardCtx
    rw [← deref_vsi c]
    split_ifs <;> exact ⟨rfl, rfl⟩
  rw [vdp22BridgeSeen_eq, compared_fdata, vdp22CmpFdata_congr hheard.1 hheard.2, keptFilter,
    hheard.1]
  rfl

/-! ### The whole comparison -/

/-- The node takes the answer of the bridge exactly when it matches, and keeps its list with what
the bridge filled in, or as it is. -/
structure WildcardsTaken (free : Bool) (rc : Int) (c : Vsi22Ctx) (vsip : Vsi22) : Prop where
  accepted : vdp22CmpFdata c.vsi vsip = true ↔ AnswerMatches free c.vsi vsip
  stored : ∃ c', vdp22BridgeHit rc vsip c = .ok c' ∧
    (vdp22CmpFdata c.vsi vsip = true → c'.vsi.fdata = keptFilter c.vsi vsip) ∧
    (vdp22CmpFdata c.vsi vsip = false → c'.vsi.fdata = c.vsi.fdata)

/-- The answer does not match, or it fills in no VLAN ID under PS. Where the PS bit is compared,
and the answer has no other fault, it raises none. -/
def FillsPlainly (free : Bool) (p vsip : Vsi22) : Prop :=
  (AnswerMatches free p vsip → ¬ FillsUnderPs p vsip) ∧
    (free = false → AnswerMatches true p vsip → FillsUnderPs p vsip ∨ ¬ RaisesPs p vsip)

theorem vdp22BridgeHit_fdata (rc : Int) (c : Vsi22Ctx) (vsip : Vsi22) :
    ∃ c', vdp22BridgeHit rc vsip c = .ok c' ∧
      (vdp22CmpFdata c.vsi vsip = true → c'.vsi.fdata = keptFilter c.vsi vsip) ∧
      (vdp22CmpFdata c.vsi vsip = false → c'.vsi.fdata = c.vsi.fdata) := by
  obtain ⟨c', hrun⟩ := vdp22stRun_total rc (vdp22BridgeSeen vsip c)
  have hfdata := vdp22stRun_fdata hrun
  rw [vdp22BridgeSeen_fdata] at hfdata
  refine ⟨c', hrun, fun hcmp => ?_, fun hcmp => ?_⟩
  · rwa [if_pos hcmp] at hfdata
  · rwa [if_neg (by rw [hcmp]; decide)] at hfdata

/-- **The wildcards.** Every node takes every answer exactly when it matches, and keeps the VLAN
IDs and the QoS bits that the bridge filled in, exactly when the answer fills in no VLAN ID
where the request set PS. -/
theorem wildcards_iff (free : Bool) (rc : Int) (c : Vsi22Ctx) (vsip : Vsi22) :
    WildcardsTaken free rc c vsip ↔ FillsPlainly free c.vsi vsip := by
  have hiff : (vdp22CmpFdata c.vsi vsip = true ↔ AnswerMatches free c.vsi vsip) ↔
      FillsPlainly free c.vsi vsip := by
    rw [accepts_iff, FillsPlainly]
    cases free with
    | true => tauto
    | false =>
      rw [answerMatches_false_iff]
      tauto
  rw [← hiff]
  exact ⟨fun h => h.accepted, fun h => ⟨h, vdp22BridgeHit_fdata rc c vsip⟩⟩

/-- The request for any VLAN with PS and the PCP bits 3 -/
def psRequest : VdpnlVsi :=
  { request := vdp22Assoc
    vsiIdfmt := vdp22IdUuid
    vsiUuid := ⟨List.replicate 16 1, rfl⟩
    filterFmt := vdp22FfmtVid
    maclist := [{ vlan := 0, qos := 11 }] }

/-- The answer that fills in the VLAN 100 -/
def psAnswer : Vsi22 :=
  { vsiMode := vdp22Assoc
    status := vdp22Ackbit
    vsiFmt := vdp22IdUuid
    vsi := ⟨List.replicate 16 1, rfl⟩
    fif := vdp22FfmtVid
    fdata := [{ vlan := 0xb064 }] }

/-- The answer matches, and the VSI does not take it. -/
theorem ps_answer_refused :
    ∃ c, vdp22System.run (vdp22Create .station) [.fromEvb true true, .request psRequest true] =
        .ok c ∧ vdp22Findvsi c psAnswer = some 0 ∧
      ∀ free, ¬ WildcardsTaken free c.ecpRc (c.nodes 0) psAnswer := by
  obtain ⟨c, hrun, hfind, hfif, hfdata, hcmp⟩ : ∃ c, vdp22System.run (vdp22Create .station)
      [.fromEvb true true, .request psRequest true] = .ok c ∧
      vdp22Findvsi c psAnswer = some 0 ∧ (c.nodes 0).vsi.fif = vdp22FfmtVid ∧
      (c.nodes 0).vsi.fdata = [{ vlan := 0xb000 }] ∧
      vdp22CmpFdata (c.nodes 0).vsi psAnswer = false := ⟨_, rfl, rfl, rfl, rfl, rfl⟩
  refine ⟨c, hrun, hfind, fun free h => ?_⟩
  have hmatch : AnswerMatches free (c.nodes 0).vsi psAnswer := by
    rw [AnswerMatches, hfdata, hfif]
    refine .cons ⟨?_, ?_, ?_, ?_, ?_⟩ .nil <;> cases free <;> decide
  rw [h.accepted.mpr hmatch] at hcmp
  cases hcmp

end Lldpad.Qbg
