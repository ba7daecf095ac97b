import Mathlib.Data.Fintype.EquivFin
import Lldpad.Proofs.Dcbx.PgValid

/-!
# `Lldpad.Proofs.Dcbx.PgRange`: the groups of a peer as array indices

A CEE sub-TLV has a nibble for each user priority. `process_dcbx_pg_tlv` takes 15 for the link
strict group and everything else for the index of a group, also 8 to 14.

`Ranged` is what a configuration needs so that the rule checker stays inside its arrays: the
groups are below eight, and the link strict one has nothing else in it. The decoder gives such
configurations (`readTraffic2_ranged`), and the rule checker keeps them so, for any number of
traffic classes and any PFC map (`dcbCheckConfig_ranged`). `pgInRange_iff` puts these together.
-/

namespace Lldpad.Dcbx

open Lldpad.Lib
open Lldpad.Lldp (Bytes)

/-- The groups of one direction are in range. -/
structure Ranged (t : TrafficAttribs) : Prop where
  lt : ∀ i, (t.up i).pgid.toNat < 8
  /-- There is one link strict group. -/
  one : ∀ i j, (t.up i).strictPriority = .link → (t.up j).strictPriority = .link →
    (t.up i).pgid = (t.up j).pgid
  /-- The link strict group is link strict for all its user priorities. -/
  pure : ∀ i j, (t.up i).strictPriority = .link → (t.up j).pgid = (t.up i).pgid →
    (t.up j).strictPriority = .link
  /-- Alone it is the first group. -/
  alone : (∀ i, (t.up i).strictPriority = .link) → ∀ i, (t.up i).pgid = 0

/-! ### The rule checker -/

theorem ownBwgid_ranged {t : TrafficAttribs} (h : Ranged t) : Ranged t.ownBwgid :=
  ⟨h.lt, h.one, h.pure, h.alone⟩

variable {info : Bytes} {pg c : PgConfig}

/-- The direction that the groups are taken from stays in range. -/
theorem FixedUp.ranged {pfc : Option PfcConfig} {n : TypeCounts}
    {classOf : Fin 8 → Fin 8} {tcbw : Fin 8 → Int} (hfix : FixedUp pg pfc c n classOf tcbw)
    (h : Ranged pg.tx) (hmixed : ¬ ∀ i, (pg.tx.up i).strictPriority = .link) : Ranged c.tx := by
  have hlink := hfix.strictTx
  -- The class of a user priority, by whether the priority is link strict
  have hclass : ∀ i, ((pg.tx.up i).strictPriority = .link →
        n.be + n.pfc ≤ (c.tx.up i).pgid.toNat) ∧
      ((pg.tx.up i).strictPriority ≠ .link →
        (c.tx.up i).pgid.toNat < n.be + n.pfc) := by
    intro i
    obtain ⟨g, k, hrow, hk⟩ := row_of_up h.lt i
    have hg : (pg.tx.up k).pgid.toNat = g.val := mem_pgidUpList.mp (List.mem_of_head? hrow)
    rw [hfix.pgidTx i g (hk ▸ hg), toNat_ofNat_class]
    obtain ⟨hbase, htop⟩ := hfix.inType g k hrow
    constructor
    · intro hs
      have hks : (pg.tx.up k).strictPriority = .link := h.pure i k hs hk
      rw [trafficType_strict.mpr hks] at hbase
      exact hbase
    · intro hs
      have hks : trafficType pg.tx pfc k ≠ .strict := by
        intro hks
        exact hs (h.pure k i (trafficType_strict.mp hks) hk.symm)
      cases htype : trafficType pg.tx pfc k with
      | strict => exact absurd htype hks
      | pfc =>
        rw [htype] at htop
        exact htop
      | bestEffort =>
        rw [htype] at htop
        simp only [TypeCounts.base, TypeCounts.of] at htop
        omega
  refine ⟨?_, ?_, ?_, fun hall => absurd (fun i => hlink i ▸ hall i) hmixed⟩
  · intro i
    rw [hfix.pgidTx i ⟨_, h.lt i⟩ rfl, toNat_ofNat_class]
    exact (classOf _).isLt
  · intro i j hi hj
    rw [hlink] at hi hj
    have hij := congrArg UInt8.toNat (h.one i j hi hj)
    rw [hfix.pgidTx i ⟨_, h.lt i⟩ rfl, hfix.pgidTx j ⟨_, h.lt i⟩ hij.symm]
  · intro i j hi hij
    rw [hlink] at hi ⊢
    refine Classical.byContradiction fun hj => ?_
    have h₁ := (hclass i).1 hi
    have h₂ := (hclass j).2 hj
    rw [hij] at h₂
    omega

/-- `dcb_fixup_pg` stays inside its arrays and leaves groups in range. -/
theorem dcbFixupPg_ranged (pfc : Option PfcConfig) (htx : Ranged pg.tx)
    (hrx : ∀ i, (pg.rx.up i).pgid.toNat < 8) :
    ∃ r, dcbFixupPg pg pfc = .ok r ∧
      ∀ c, r = some c → Ranged c.tx ∧ ∀ i, (c.rx.up i).pgid.toNat < 8 := by
  -- Link strict alone would have fitted into one class.
  have hmixed : ∀ n, pg.numTcs < pgidsUsed pg.tx → fixupCounts pg pfc = some n →
      ¬ ∀ i, (pg.tx.up i).strictPriority = .link := by
    intro n hbig hn hall
    have hclipped := clipCounts_clipped hn
    have hzero := htx.alone hall
    have hone : pgidsUsed pg.tx = 1 := by
      unfold pgidsUsed
      simp only [hzero]
      decide
    obtain ⟨g, k, hrow, -⟩ := row_of_up htx.lt 0
    have hcount := countType_pos pfc hrow
    rw [trafficType_strict.mpr (hall k)] at hcount
    have hk : 0 < n.strict := hclipped.pos .strict hcount
    have hsum := hclipped.sum
    omega
  have hroom : ∀ n, pg.numTcs < pgidsUsed pg.tx → fixupCounts pg pfc = some n →
      usedTotal pg.tx = 100 ∨ n.strict < pg.numTcs := by
    intro n hbig hn
    refine .inr ((clipCounts_clipped hn).room ?_)
    obtain ⟨i, hi⟩ := Classical.not_forall.mp (hmixed n hbig hn)
    obtain ⟨g, k, hrow, hk⟩ := row_of_up htx.lt i
    have hcount := countType_pos pfc hrow
    cases htype : trafficType pg.tx pfc k with
    | strict =>
      exact absurd (htx.pure k i (trafficType_strict.mp htype) hk.symm) hi
    | pfc =>
      rw [htype] at hcount
      exact .inr hcount
    | bestEffort =>
      rw [htype] at hcount
      exact .inl hcount
  obtain ⟨r, hr⟩ := dcbFixupPg_returns htx.lt hroom
  refine ⟨r, hr, ?_⟩
  rintro c rfl
  rcases Nat.lt_or_ge pg.numTcs (pgidsUsed pg.tx) with hbig | hfits
  · obtain ⟨n, classOf, tcbw, hfix⟩ := fixedUp_of_ok htx.lt hbig hr
    refine ⟨hfix.ranged htx (hmixed n hbig hfix.counts), fun i => ?_⟩
    rw [hfix.pgidRx i, hfix.pgidTx i ⟨_, htx.lt i⟩ rfl, toNat_ofNat_class]
    exact (classOf _).isLt
  · unfold dcbFixupPg at hr
    rw [if_pos hfits] at hr
    cases hr
    exact ⟨ownBwgid_ranged htx, hrx⟩

theorem dcbCheckConfig_ranged (pg : PgConfig) (pfc : Option PfcConfig) (htx : Ranged pg.tx)
    (hrx : ∀ i, (pg.rx.up i).pgid.toNat < 8) :
    ∃ c st, dcbCheckConfig pg pfc = .ok (c, st) ∧ Ranged c.tx ∧
      ∀ i, (c.rx.up i).pgid.toNat < 8 := by
  obtain ⟨r, hr, hranged⟩ := dcbFixupPg_ranged pfc htx hrx
  unfold dcbCheckConfig
  rw [hr, bind_ok]
  cases r with
  | none => exact ⟨pg, .failed, rfl, htx, hrx⟩
  | some c => exact ⟨c, _, rfl, hranged c rfl⟩

/-! ### The decoder -/

/-- A nibble that is a group, or stands for the link strict one -/
def GoodNibbles (info : Bytes) : Prop :=
  ∀ i, (readNibble info i).toNat < 8 ∨ readNibble info i = linkStrictPgid

theorem not_bad_of_good (h : GoodNibbles info) :
    ¬ ∃ i, 8 ≤ (readNibble info i).toNat ∧ readNibble info i ≠ linkStrictPgid := by
  rintro ⟨i, hge, hn⟩
  rcases h i with hlt | h15
  · omega
  · exact hn h15

theorem unusedPgid_spec {nibble : Fin 8 → UInt8} {i : Fin 8} (hi : nibble i = linkStrictPgid) :
    (unusedPgid nibble).toNat < 8 ∧ ∀ j, nibble j ≠ unusedPgid nibble := by
  unfold unusedPgid
  cases hfind : (List.finRange 8).find? fun j : Fin 8 => ∀ i, (nibble i).toNat ≠ j.val with
  | some j =>
    have hj : ∀ i, (nibble i).toNat ≠ j.val := by
      have h := List.find?_some hfind
      exact of_decide_eq_true h
    refine ⟨by rw [toNat_ofNat_class]; exact j.isLt, fun k hk => hj k ?_⟩
    rw [hk]
    exact toNat_ofNat_class j
  | none =>
    -- Otherwise seven priorities would use eight groups.
    have hall : ∀ j : Fin 8, ∃ k, (nibble k).toNat = j.val := by
      intro j
      have h := List.find?_eq_none.mp hfind j (List.mem_finRange j)
      simpa using h
    obtain ⟨f, hf⟩ := Classical.skolem.mp hall
    have hinj : Function.Injective f := by
      intro a b hab
      apply Fin.ext
      rw [← hf a, ← hf b, hab]
    obtain ⟨j, hj⟩ := Finite.injective_iff_surjective.mp hinj i
    have h15 := hf j
    rw [hj, hi] at h15
    have hlt := j.isLt
    rw [← h15] at hlt
    exact absurd hlt (by decide)

theorem unusedPgid_alone {nibble : Fin 8 → UInt8} (h : ∀ i, nibble i = linkStrictPgid) :
    unusedPgid nibble = 0 := by
  have hn : nibble = fun _ => linkStrictPgid := funext h
  rw [hn]
  decide

theorem readTraffic2_ranged (h : GoodNibbles info) :
    Ranged (readTraffic2 info) := by
  have hlink : ∀ i, ((readTraffic2 info).up i).strictPriority = .link ↔
      readNibble info i = linkStrictPgid := by
    intro i
    unfold readTraffic2
    dsimp only
    split
    · rename_i hn
      exact ⟨fun _ => hn, fun _ => rfl⟩
    · rename_i hn
      exact ⟨nofun, fun hn' => absurd hn' hn⟩
  have hpgid : ∀ i, ((readTraffic2 info).up i).pgid =
      if readNibble info i = linkStrictPgid then unusedPgid (readNibble info)
      else readNibble info i := fun i => rfl
  constructor
  · intro i
    rw [hpgid]
    split
    · rename_i hn
      exact (unusedPgid_spec hn).1
    · rename_i hn
      exact (h i).resolve_right hn
  · intro i j hi hj
    rw [hpgid, hpgid, if_pos ((hlink i).mp hi), if_pos ((hlink j).mp hj)]
  · intro i j hi hij
    have hi := (hlink i).mp hi
    rw [hpgid, hpgid, if_pos hi] at hij
    rw [hlink]
    refine Classical.byContradiction fun hj => ?_
    rw [if_neg hj] at hij
    exact (unusedPgid_spec hi).2 j hij
  · intro hall i
    have hall : ∀ i, readNibble info i = linkStrictPgid := fun i => (hlink i).mp (hall i)
    rw [hpgid, if_pos (hall i)]
    exact unusedPgid_alone hall

theorem Ranged.congr {t t' : TrafficAttribs} (h : Ranged t)
    (hpgid : ∀ i, (t'.up i).pgid = (t.up i).pgid)
    (hlink : ∀ i, (t'.up i).strictPriority = .link ↔ (t.up i).strictPriority = .link) :
    Ranged t' where
  lt i := by
    rw [hpgid i]
    exact h.lt i
  one i j hi hj := by
    rw [hpgid i, hpgid j]
    exact h.one i j ((hlink i).mp hi) ((hlink j).mp hj)
  pure i j hi hij := by
    rw [hpgid i, hpgid j] at hij
    exact (hlink j).mpr (h.pure i j ((hlink i).mp hi) hij)
  alone hall i := by
    rw [hpgid i]
    exact h.alone (fun i => (hlink i).mp (hall i)) i

theorem rebalanceGroup_pgid (tx t : TrafficAttribs) (g i : Fin 8) :
    ((rebalanceGroup tx t g).up i).pgid = (t.up i).pgid := by
  unfold rebalanceGroup
  dsimp only
  split
  · dsimp only
    split <;> rfl
  · dsimp only
    split <;> rfl

theorem rebalanceGroup_link (t : TrafficAttribs) (g i : Fin 8) :
    ((rebalanceGroup t t g).up i).strictPriority = .link ↔
      (t.up i).strictPriority = .link := by
  unfold rebalanceGroup
  dsimp only
  split
  · dsimp only
    split <;> exact Iff.rfl
  · rename_i hany
    dsimp only
    split
    · rename_i hi
      refine iff_of_false nofun fun hlink => hany ?_
      rw [List.any_eq_true]
      exact ⟨i, hi, decide_eq_true hlink⟩
    · exact Iff.rfl

theorem rebalanceUppcts_ranged (htx : Ranged pg.tx) (hrx : ∀ i, (pg.rx.up i).pgid.toNat < 8) :
    Ranged (rebalanceUppcts pg).tx ∧ ∀ i, ((rebalanceUppcts pg).rx.up i).pgid.toNat < 8 := by
  unfold rebalanceUppcts
  generalize List.finRange 8 = gs
  induction gs generalizing pg with
  | nil => exact ⟨htx, hrx⟩
  | cons g gs ih =>
    rw [List.foldl_cons]
    refine ih ?_ ?_
    · exact htx.congr (rebalanceGroup_pgid pg.tx pg.tx g) (rebalanceGroup_link pg.tx g)
    · intro i
      rw [rebalanceGroup_pgid]
      exact hrx i

/-! ### The groups of the peer -/

/-- The configurations that come from the groups of the peer: a copy with the traffic classes
of the device, and what the rule checker makes of it, any number of times. `step_peerGroups` finds
the operational ones among them. -/
inductive PeerGroups (peer : PgConfig) : PgConfig → Prop
  | copied (numTcs : Nat) : PeerGroups peer { peer with numTcs := numTcs }
  | renumbered {c : PgConfig} (numTcs : Nat) (h : PeerGroups peer c) :
      PeerGroups peer { c with numTcs := numTcs }
  | checked {c c' : PgConfig} {pfc : Option PfcConfig} {st : CmdStatus} (numTcs : Nat)
      (h : PeerGroups peer c)
      (hc : dcbCheckConfig { c with numTcs := numTcs } pfc = .ok (c', st)) :
      PeerGroups peer c'

/-- Every use of a configuration as an array index is in range: its groups are below eight, and
the rule checker stays inside its arrays. -/
def UsedInRange (c : PgConfig) : Prop :=
  (∀ i, (c.tx.up i).pgid.toNat < 8 ∧ (c.rx.up i).pgid.toNat < 8) ∧
    ∀ numTcs pfc, ∃ r, dcbCheckConfig { c with numTcs := numTcs } pfc = .ok r

/-- A sub-TLV of priority groups is decoded inside `used`. If it is taken, then every later use
of the groups of the peer is in range. -/
def PgInRange (rx : RxInfo) (info : Bytes) (d : Device) : Prop :=
  ∃ d' ok, processDcbxPgTlv rx info d = .ok (d', ok) ∧
    (ok = true → ∀ c, PeerGroups d'.pg.peer.config c → UsedInRange c)

theorem PeerGroups.ranged {peer : PgConfig} (h : PeerGroups peer c) (htx : Ranged peer.tx)
    (hrx : ∀ i, (peer.rx.up i).pgid.toNat < 8) :
    Ranged c.tx ∧ ∀ i, (c.rx.up i).pgid.toNat < 8 := by
  induction h with
  | copied numTcs => exact ⟨htx, hrx⟩
  | renumbered numTcs _ ih => exact ih
  | @checked c c' pfc st numTcs _ hc ih =>
    obtain ⟨r, st', hr, hranged⟩ :=
      dcbCheckConfig_ranged { c with numTcs := numTcs } pfc ih.1 ih.2
    rw [hc] at hr
    obtain ⟨rfl, -⟩ := Prod.mk.inj (Except.ok.inj hr)
    exact hranged

theorem usedInRange_of_ranged (htx : Ranged c.tx)
    (hrx : ∀ i, (c.rx.up i).pgid.toNat < 8) : UsedInRange c := by
  refine ⟨fun i => ⟨htx.lt i, hrx i⟩, fun numTcs pfc => ?_⟩
  obtain ⟨c', st, hc, -⟩ := dcbCheckConfig_ranged { c with numTcs := numTcs } pfc htx hrx
  exact ⟨_, hc⟩

/-- What a CEE sub-TLV says about the priority groups of the peer -/
def ceePg (rx : RxInfo) (info : Bytes) : Attribs PgConfig where
  protocol := peerProtocol rx dupDcbxTlvPg info
  config := { tx := readTraffic2 info, rx := readTraffic2 info
              numTcs := (info.getD 16 0).toNat }

theorem putPeerPg_config {data : Attribs PgConfig} (d : Device)
    (hst : data.protocol.dcbxSt = dcbxSubtype2) :
    (putPeerPg data d).pg.peer.config = rebalanceUppcts data.config := by
  unfold putPeerPg
  rw [if_pos hst]
  generalize rebalanceUppcts data.config = config
  dsimp only
  split
  · rename_i heq
    rw [heq]
  · change storedPg data.protocol.dcbxSt d.pg.peer.config config = config
    unfold storedPg
    rw [if_pos hst]

theorem ceePg_ranged {rx : RxInfo} (d : Device)
    (hst : rx.dcbxSt = dcbxSubtype2) (hgood : GoodNibbles info) :
    Ranged (putPeerPg (ceePg rx info) d).pg.peer.config.tx ∧
      ∀ i, ((putPeerPg (ceePg rx info) d).pg.peer.config.rx.up i).pgid.toNat < 8 := by
  have hranged : Ranged (ceePg rx info).config.tx := readTraffic2_ranged hgood
  have hrx : ∀ i, ((ceePg rx info).config.rx.up i).pgid.toNat < 8 := hranged.lt
  rw [putPeerPg_config d (show (ceePg rx info).protocol.dcbxSt = dcbxSubtype2 from hst)]
  exact rebalanceUppcts_ranged hranged hrx

theorem processDcbxPgTlv_cee {rx : RxInfo} (d : Device)
    (hst : rx.dcbxSt = dcbxSubtype2) (hlen : info.length = 17) :
    processDcbxPgTlv rx info d =
      if ∃ i, 8 ≤ (readNibble info i).toNat ∧ readNibble info i ≠ linkStrictPgid then
        .error .outOfBounds
      else .ok (putPeerPg (ceePg rx info) d, true) := by
  unfold processDcbxPgTlv
  rw [if_pos hst, if_neg (by rw [hlen]; decide)]
  rfl

/-- A CEE sub-TLV of the right length is decoded in range, and every later use of its groups is
in range, exactly when no nibble of it is from 8 to 14. -/
theorem pgInRange_iff {rx : RxInfo} {info : Bytes} (d : Device)
    (hst : rx.dcbxSt = dcbxSubtype2) (hlen : info.length = 17) :
    PgInRange rx info d ↔ GoodNibbles info := by
  have hprocess := processDcbxPgTlv_cee d hst hlen
  constructor
  · rintro ⟨d', ok, h, -⟩ i
    rw [hprocess] at h
    split at h
    · cases h
    · rename_i hbad
      by_cases hlt : (readNibble info i).toNat < 8
      · exact .inl hlt
      · exact .inr (Classical.byContradiction fun hn => hbad ⟨i, by omega, hn⟩)
  · intro hgood
    refine ⟨putPeerPg (ceePg rx info) d, true, ?_, fun _ c hc => ?_⟩
    · rw [hprocess, if_neg (not_bad_of_good hgood)]
    · obtain ⟨hpeer, hpeer'⟩ := ceePg_ranged d hst hgood
      obtain ⟨htx, hrx⟩ := hc.ranged hpeer hpeer'
      exact usedInRange_of_ranged htx hrx

/-- Eight groups with one user priority each -/
def eightGroups : Bytes :=
  [0, 0, bit7, 0, 0x01, 0x23, 0x45, 0x67, 13, 13, 13, 13, 12, 12, 12, 12, 8]

theorem eightGroups_inRange :
    PgInRange { dcbxSt := dcbxSubtype2 } eightGroups (plainStation 2).dev :=
  (pgInRange_iff _ rfl rfl).mpr (by unfold GoodNibbles; decide)

/-- The group 8 is written behind the end of `used`. -/
theorem not_pgInRange :
    ¬ ∀ (rx : RxInfo) (info : Bytes) (d : Device), rx.dcbxSt = dcbxSubtype2 →
      info.length = 17 → PgInRange rx info d := by
  intro h
  have hrange := h { dcbxSt := dcbxSubtype2 }
    [0, 0, bit7, 0, 0x80, 0x00, 0x00, 0x00, 100, 0, 0, 0, 0, 0, 0, 0, 8]
    (plainStation 2).dev rfl rfl
  have hgood := (pgInRange_iff _ rfl rfl).mp hrange 0
  exact absurd hgood (by decide)

end Lldpad.Dcbx
