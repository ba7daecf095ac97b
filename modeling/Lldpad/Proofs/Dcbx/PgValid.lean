import Lldpad.Proofs.Dcbx.Station
import Lldpad.Proofs.Dcbx.Fixup

/-!
# `Lldpad.Proofs.Dcbx.PgValid`: the operational priority groups are valid

`set_configuration` runs the rule checker on the operational priority groups, for a remote
change, after the configuration was copied there. F18, F20 and F22 of the CEE version set
`OperMode` first, and keep it when `set_configuration` fails. F5 ignores its result, and has
no check for a local change.

The rule checker adds up bytes, takes a link strict group 15 for none, and leaves the groups that
are received where those that are sent fit. `SeenRight` are the configurations where this does not
matter.

`PgReady` names the inputs for which none of this happens. Its conditions are on the state in
which the machine of the priority groups starts. `machine_good` is one run of the machine.
-/

namespace Lldpad.Dcbx

open Lldpad.Lib

/-! ### The rule checker -/

/-- A direction whose groups fit, as the rule checker should see it -/
structure FitsRight (numTcs : Nat) (t : TrafficAttribs) : Prop where
  /-- The sum does not run over a byte. -/
  sum : otherPercents t < 256
  strict : ∀ i, (t.up i).strictPriority = .link → (t.up i).pgid ≠ linkStrictPgid
  used : ∀ g, ¬ Used t g → t.pgPercent g = 0
  below : ∀ i, (t.up i).pgid.toNat < numTcs

/-- The rule checker sees the configuration as it is. Where groups are moved, the class with the
rest has priorities, and percentages for what the groups in use have over 100. -/
def SeenRight (pfc : Option PfcConfig) (c : PgConfig) : Prop :=
  if pgidsUsed c.tx ≤ c.numTcs then FitsRight c.numTcs c.tx ∧ FitsRight c.numTcs c.rx
  else ∀ n k, fixupCounts c pfc = some n → TakesRest c n k → usedTotal c.tx ≠ 100 →
    usedTotal c.tx ≤ 100 + load c pfc n k ∧ ∃ g, Used c.tx g ∧ classNo c.tx pfc n g = k

/-- A configuration that the rule checker left behind as valid, and that it saw as it was -/
def Passed (c : PgConfig) : Prop :=
  ∃ c₀ pfc, SeenRight pfc c₀ ∧ dcbCheckConfig c₀ pfc = .ok (c, .success)

/-- The rule checker accepts the configuration, next to this PFC map, and sees it as it is. -/
def Accepts (pfc : PfcConfig) (c : PgConfig) : Prop :=
  SeenRight (some pfc) c ∧ ∃ c', dcbCheckConfig c (some pfc) = .ok (c', .success)

/-- The rule checker accepts the configuration, and the driver sets it. -/
def TakenBy (drv : Driver) (pfc : PfcConfig) (c : PgConfig) : Prop :=
  ∃ c', dcbCheckConfig c (some pfc) = .ok (c', .success) ∧ drv.setHw .pg c' true = true

/-- A configuration with the traffic classes of the device -/
def onDevice (loc c : PgConfig) : PgConfig := { c with numTcs := loc.numTcs }

/-- The local configuration, as the rule checker may have changed it -/
inductive OwnConfig (loc : PgConfig) : PgConfig → Prop
  | loc : OwnConfig loc loc
  | checked {c c' : PgConfig} {pfc : PfcConfig} {st : CmdStatus} (h : OwnConfig loc c)
      (hc : dcbCheckConfig (onDevice loc c) (some pfc) = .ok (c', st)) : OwnConfig loc c'

/-- `OperMode` comes with a valid configuration and without an error. -/
def PgGood (v : Stores PgConfig) : Prop :=
  v.feat.operMode = true → v.feat.error = false ∧
    hasFlag v.feat.errorFlag featErrCfg = false ∧ Passed v.oper.config

/-! ### `set_configuration` -/

/-- The operations of the priority groups, with the PFC map that is in force -/
def pgOps (drv : Driver) (pfc : PfcConfig) : FeatureOps PgConfig where
  copy := copyPg
  localPeerCompatible := compatiblePg
  setConfiguration := configurePg drv pfc

variable {drv : Driver} {pfc : PfcConfig} {side : Side} {v w : Stores PgConfig}

theorem configurePg_loc {r : Configured PgConfig} (h : configurePg drv pfc .loc v = .ok r) :
    r.oper = onDevice v.loc.config v.oper.config := by
  obtain ⟨⟨oper, st⟩, ho, h⟩ := bind_eq_ok.mp h
  cases ho
  cases h
  rfl

theorem configurePg_rem {r : Configured PgConfig} (h : configurePg drv pfc .rem v = .ok r) :
    ∃ st, dcbCheckConfig (onDevice v.loc.config v.oper.config) (some pfc) = .ok (r.oper, st) ∧
      r.ok = (st = .success && drv.setHw .pg r.oper v.feat.operMode) := by
  obtain ⟨⟨oper, st⟩, ho, h⟩ := bind_eq_ok.mp h
  have ho : dcbCheckConfig (onDevice v.loc.config v.oper.config) (some pfc) =
      .ok (oper, st) := ho
  refine ⟨st, ?_⟩
  dsimp only at h
  split at h
  · rename_i hst
    cases h
    exact ⟨ho, by simp [hst]⟩
  · rename_i hst
    have hst : st = .success := Classical.byContradiction hst
    cases h
    exact ⟨ho, by simp [hst]⟩

/-- The configuration that a branch copies -/
def sourceConfig (src : Side) (v : Stores PgConfig) : PgConfig :=
  onDevice v.loc.config (if src = .loc then v.loc.config else v.peer.config)

/-! ### The branches -/

namespace Stores

/-- `OperMode` is good, or CIN is about to take it back because of an error. -/
def GoodSoFar (v : Stores PgConfig) : Prop :=
  PgGood v ∨ v.feat.dcbxSt = dcbxSubtype1 ∧ v.feat.error = true

/-- The operational configuration is the local one, or the rule checker accepts the one of the
peer. -/
def Sourced (pfc : PfcConfig) (v : Stores PgConfig) : Prop :=
  OwnConfig v.loc.config v.oper.config ∨ Accepts pfc (onDevice v.loc.config v.peer.config)

theorem settle_pg {src : Side} {mode : Bool} (h : v.settle (pgOps drv pfc) src mode = .ok w) :
    ∃ st, dcbCheckConfig (sourceConfig src v) (some pfc) = .ok (w.oper.config, st) ∧
      w.feat.operMode = mode ∧
      hasFlag w.feat.errorFlag featErrCfg =
        !(st = .success && drv.setHw .pg w.oper.config mode) ∧
      w.feat.error = (decide (v.feat.dcbxSt ≠ dcbxSubtype2) &&
        !(st = .success && drv.setHw .pg w.oper.config mode)) := by
  -- The flag is raised on top of no flag at all.
  have hflag : ∀ b, hasFlag (orFlag featErrNone featErrCfg b) featErrCfg = b := by decide
  unfold settle at h
  dsimp only at h
  split at h
  · rename_i hst
    have hst : v.feat.dcbxSt = dcbxSubtype2 := hst
    obtain ⟨r, hr, rfl⟩ := setOrFlag_eq_ok.mp h
    obtain ⟨st, hc, hok⟩ := configurePg_rem hr
    refine ⟨st, hc, rfl, (hflag _).trans (congrArg not hok), ?_⟩
    rw [hst]
    rfl
  · rename_i hst
    have hst : v.feat.dcbxSt ≠ dcbxSubtype2 := hst
    obtain ⟨r, hr, rfl⟩ := setOrFail_eq_ok.mp h
    obtain ⟨st, hc, hok⟩ := configurePg_rem hr
    refine ⟨st, hc, rfl, (hflag _).trans (congrArg not hok), ?_⟩
    rw [decide_eq_true hst, Bool.true_and]
    exact congrArg not hok

/-- F16, F18, F20 and F22. With `OperMode` the driver takes the configuration, or the version
is CIN. -/
theorem settle_good {src : Side} {mode : Bool} (h : v.settle (pgOps drv pfc) src mode = .ok w)
    (hs : v.feat.syncd = true)
    (hseen : mode = true → SeenRight (some pfc) (sourceConfig src v))
    (hmode : mode = true → v.feat.dcbxSt ≠ dcbxSubtype1 →
      TakenBy drv pfc (sourceConfig src v))
    (hpeer : src = .rem → Accepts pfc (onDevice v.loc.config v.peer.config)) :
    GoodSoFar w ∧ Sourced pfc w := by
  obtain ⟨hframe, -⟩ := settle_move h hs
  obtain ⟨st, hc, hm, hflag, herror⟩ := settle_pg h
  have hst : w.feat.dcbxSt = v.feat.dcbxSt := hframe.kept.dcbxSt
  constructor
  · cases hok : decide (st = .success) && drv.setHw .pg w.oper.config mode with
    | true =>
      rw [hok] at hflag herror
      refine .inl fun ho => ⟨by rw [herror]; simp, hflag, sourceConfig src v, some pfc,
        hseen (hm.symm.trans ho), ?_⟩
      rw [of_decide_eq_true (Bool.and_eq_true_iff.mp hok).1] at hc
      exact hc
    | false =>
      rw [hok] at herror
      cases hmode' : mode with
      | false =>
        refine .inl fun ho => ?_
        rw [hm, hmode'] at ho
        cases ho
      | true =>
        by_cases hcin : v.feat.dcbxSt = dcbxSubtype1
        · refine .inr ⟨hst.trans hcin, ?_⟩
          rw [herror, hcin]
          rfl
        · -- The driver took this configuration.
          obtain ⟨c, hc', hset⟩ := hmode hmode' hcin
          rw [hc] at hc'
          obtain ⟨rfl, rfl⟩ := Prod.mk.inj (Except.ok.inj hc')
          rw [hmode', hset] at hok
          cases hok
  · unfold Sourced
    rw [hframe.config, hframe.peer]
    cases src with
    | loc => exact .inl (.checked .loc hc)
    | rem => exact .inr (hpeer rfl)

theorem incompatible_good (h : v.incompatible (pgOps drv pfc) = .ok w) :
    GoodSoFar w ∧ Sourced pfc w := by
  obtain ⟨u, hu, h⟩ := bind_eq_ok.mp h
  obtain ⟨r, hr, rfl⟩ := setOrFlag_eq_ok.mp hu
  cases h
  obtain ⟨st, hc, -⟩ := configurePg_rem hr
  exact ⟨.inl nofun, .inl (.checked .loc hc)⟩

theorem multipleTlvs_good (h : v.multipleTlvs (pgOps drv pfc) = .ok w) :
    GoodSoFar w ∧ Sourced pfc w := by
  obtain ⟨r, hr, rfl⟩ := setOrFlag_eq_ok.mp h
  obtain ⟨st, hc, -⟩ := configurePg_rem hr
  exact ⟨.inl nofun, .inl (.checked .loc hc)⟩

theorem peerExpired_good (h : v.peerExpired (pgOps drv pfc) = .ok w) :
    PgGood w ∧ Sourced pfc w := by
  obtain ⟨r, hr, rfl⟩ := trySetConfiguration_eq_ok.mp h
  obtain ⟨st, hc, -⟩ := configurePg_rem hr
  exact ⟨nofun, .inl (.checked .loc hc)⟩

theorem notPresent_good (h : v.notPresent (pgOps drv pfc) = .ok w) :
    PgGood w ∧ Sourced pfc w := by
  obtain ⟨r, hr, rfl⟩ := trySetConfiguration_eq_ok.mp h
  obtain ⟨st, hc, -⟩ := configurePg_rem hr
  exact ⟨nofun, .inl (.checked .loc hc)⟩

theorem advertiseOff_good (h : v.advertiseOff (pgOps drv pfc) side = .ok w)
    (hloc : v.feat.enable = true → side = .loc → Passed v.loc.config)
    (hrem : v.feat.enable = true → side = .rem → Accepts pfc v.loc.config) :
    PgGood w ∧ OwnConfig w.loc.config w.oper.config := by
  obtain ⟨r, hr, rfl⟩ := trySetConfiguration_eq_ok.mp h
  -- Neither of the flags that F5 keeps is `FEAT_ERR_CFG`.
  have hflag : ∀ x : UInt8, hasFlag
      (orFlag (orFlag featErrNone featErrMultiPeer (hasFlag (errorFlagAsBool x) featErrMultiPeer))
        (errorFlagAsBool x &&& featErrMultiTlv) (hasFlag (errorFlagAsBool x) featErrMultiTlv))
      featErrCfg = false := by
    intro x
    unfold errorFlagAsBool
    split <;> decide
  cases side with
  | loc =>
    have hr : configurePg drv pfc .loc _ = .ok r := hr
    have hoper : r.oper = v.loc.config := configurePg_loc hr
    refine ⟨fun hm => ⟨rfl, hflag _, ?_⟩, ?_⟩
    · change Passed r.oper
      rw [hoper]
      exact hloc hm rfl
    · change OwnConfig v.loc.config r.oper
      rw [hoper]
      exact .loc
  | rem =>
    obtain ⟨st, hc, -⟩ := configurePg_rem hr
    refine ⟨fun hm => ⟨rfl, hflag _, ?_⟩, .checked .loc hc⟩
    obtain ⟨hseen, c, hc'⟩ := hrem hm rfl
    have hc : dcbCheckConfig v.loc.config (some pfc) = .ok (r.oper, st) := hc
    rw [hc] at hc'
    obtain ⟨-, rfl⟩ := Prod.mk.inj (Except.ok.inj hc')
    exact ⟨_, _, hseen, hc⟩

theorem errProt_good {ctrl : ControlProtocolAttribs} {err : Bool}
    (h : v.errProt (pgOps drv pfc) ctrl err = .ok w) (hgood : GoodSoFar v)
    (hsrc : Sourced pfc v) : PgGood w ∧ Sourced pfc w := by
  obtain ⟨u, hu, h⟩ := bind_eq_ok.mp h
  -- A change of `Error` sets nothing else.
  have hlast : PgGood u ∧ Sourced pfc u → PgGood w ∧ Sourced pfc w := by
    intro hu
    split at h
    · cases h
      exact hu
    · cases h
      exact hu
  refine hlast ?_
  unfold stopOnError at hu
  split at hu
  · obtain ⟨r, hr, rfl⟩ := trySetConfiguration_eq_ok.mp hu
    obtain ⟨st, hc, -⟩ := configurePg_rem hr
    refine ⟨nofun, ?_⟩
    rcases hsrc with hown | hacc
    · exact .inl (.checked hown hc)
    · exact .inr hacc
  · rename_i hstop
    cases hu
    refine ⟨fun hm => ?_, hsrc⟩
    rcases hgood with hgood | ⟨hst, herror⟩
    · obtain ⟨he, hf, hp⟩ := hgood hm
      refine ⟨he, ?_, hp⟩
      change hasFlag (orFlag v.feat.errorFlag featErrPeer v.peerFeat.error) featErrCfg = false
      rw [hasFlag_orFlag (by decide), hf]
    · exact absurd ⟨hst, by rw [Bool.or_eq_true]; exact .inl herror, hm⟩ hstop

/-! ### The machine -/

/-- A remote change gets as far as F15. -/
def Decides (ctrl peerCtrl : ControlProtocolAttribs) (v : Stores PgConfig) : Prop :=
  versionsAgree ctrl peerCtrl = true ∧
    ¬ (v.feat.dcbxSt = dcbxSubtype2 ∧ peerCtrl.rxDcbTlvState = .expired) ∧
    v.peerFeat.tlvPresent = true ∧ v.waits peerCtrl = false ∧
    hasFlag v.feat.errorFlag featErrMultiTlv = false ∧
    v.feat.operVersion = min v.peerFeat.maxVersion v.feat.maxVersion ∧
    v.feat.operVersion = v.peerFeat.operVersion

/-- F18 with `OperMode`: the configuration of the peer is taken over. -/
def TakesPeer (v : Stores PgConfig) : Prop :=
  v.feat.enable = true ∧ v.peerFeat.enable = true ∧
    v.feat.willing = true ∧ v.peerFeat.willing = false ∧ v.agreedMode = true

/-- F20 or F22 with `OperMode`: the local configuration stays. -/
def KeepsOwn (v : Stores PgConfig) : Prop :=
  v.feat.enable = true ∧ v.peerFeat.enable = true ∧ v.agreedMode = true ∧
    (v.feat.willing = false ∧ v.peerFeat.willing = true ∨
      v.feat.willing = v.peerFeat.willing ∧ compatiblePg v = true)

/-- The state in which the machine starts, as far as a configuration comes into force that is
not valid or that the driver does not take. -/
structure PgReady (drv : Driver) (pfc : PfcConfig) (side : Side)
    (ctrl peerCtrl : ControlProtocolAttribs) (v : Stores PgConfig) : Prop where
  /-- F5, for a local change -/
  localOff : side = .loc → v.feat.advertise = false → v.feat.enable = true →
    Passed v.loc.config
  /-- F5, for a remote change -/
  remoteOff : side = .rem → v.feat.advertise = false → v.feat.enable = true →
    Accepts pfc v.loc.config
  /-- F18 -/
  peerValid : side = .rem → v.feat.advertise = true → Decides ctrl peerCtrl v → TakesPeer v →
    Accepts pfc (onDevice v.loc.config v.peer.config)
  /-- F18, where an error does not end `OperMode` -/
  peerTaken : side = .rem → v.feat.advertise = true → Decides ctrl peerCtrl v → TakesPeer v →
    v.feat.dcbxSt ≠ dcbxSubtype1 → TakenBy drv pfc (onDevice v.loc.config v.peer.config)
  /-- F20 and F22 -/
  ownSeen : side = .rem → v.feat.advertise = true → Decides ctrl peerCtrl v → KeepsOwn v →
    SeenRight (some pfc) v.loc.config
  /-- F20 and F22, where an error does not end `OperMode` -/
  ownTaken : side = .rem → v.feat.advertise = true → Decides ctrl peerCtrl v → KeepsOwn v →
    v.feat.dcbxSt ≠ dcbxSubtype1 → TakenBy drv pfc v.loc.config

/-- F15 to F23 -/
theorem decideOper_good (h : v.decideOper (pgOps drv pfc) = .ok w) (hs : v.feat.syncd = true)
    (hvalid : TakesPeer v → Accepts pfc (onDevice v.loc.config v.peer.config))
    (hpeer : TakesPeer v → v.feat.dcbxSt ≠ dcbxSubtype1 →
      TakenBy drv pfc (onDevice v.loc.config v.peer.config))
    (hseen : KeepsOwn v → SeenRight (some pfc) v.loc.config)
    (hown : KeepsOwn v → v.feat.dcbxSt ≠ dcbxSubtype1 → TakenBy drv pfc v.loc.config) :
    GoodSoFar w ∧ Sourced pfc w := by
  let u := v.withFeat { v.feat with peerWilling := v.peerFeat.willing }
  have hmode : u.agreedMode = v.agreedMode := rfl
  change (if !v.feat.enable || !v.peerFeat.enable then u.settle (pgOps drv pfc) .loc false
    else if v.feat.willing && !v.peerFeat.willing then
      u.settle (pgOps drv pfc) (if v.agreedMode then .rem else .loc) v.agreedMode
    else if !v.feat.willing && v.peerFeat.willing then
      u.settle (pgOps drv pfc) .loc v.agreedMode
    else if compatiblePg v then u.settle (pgOps drv pfc) .loc v.agreedMode
    else u.incompatible (pgOps drv pfc)) = .ok w at h
  split at h
  · -- F16
    exact settle_good h hs nofun nofun nofun
  rename_i henable
  have henable : v.feat.enable = true ∧ v.peerFeat.enable = true := by
    simpa using henable
  split at h
  · -- F18
    rename_i hw
    have hw : v.feat.willing = true ∧ v.peerFeat.willing = false := by simpa using hw
    have htakes : v.agreedMode = true → TakesPeer v := fun ha =>
      ⟨henable.1, henable.2, hw.1, hw.2, ha⟩
    cases ha : v.agreedMode with
    | true =>
      rw [ha] at h
      exact settle_good h hs (fun _ => (hvalid (htakes ha)).1)
        (fun _ hst => hpeer (htakes ha) hst) fun _ => hvalid (htakes ha)
    | false =>
      rw [ha] at h
      exact settle_good h hs nofun nofun nofun
  rename_i hw₁
  split at h
  · -- F20
    rename_i hw
    have hw : v.feat.willing = false ∧ v.peerFeat.willing = true := by simpa using hw
    have hkeeps : v.agreedMode = true → KeepsOwn v := fun ha =>
      ⟨henable.1, henable.2, ha, .inl hw⟩
    exact settle_good h hs (fun ha => hseen (hkeeps ha)) (fun ha hst => hown (hkeeps ha) hst) nofun
  rename_i hw₂
  split at h
  · -- F22
    rename_i hcomp
    have hsame : v.feat.willing = v.peerFeat.willing := by
      cases hl : v.feat.willing <;> cases hp : v.peerFeat.willing <;> simp_all
    have hkeeps : v.agreedMode = true → KeepsOwn v := fun ha =>
      ⟨henable.1, henable.2, ha, .inr ⟨hsame, hcomp⟩⟩
    exact settle_good h hs (fun ha => hseen (hkeeps ha)) (fun ha hst => hown (hkeeps ha) hst) nofun
  · -- F23
    exact incompatible_good h

/-- The operational configuration is the one from before, or it has a known source. Only a
remote change takes over that of the peer. -/
def KeptOrSourced (pfc : PfcConfig) (side : Side) (v w : Stores PgConfig) : Prop :=
  w.oper.config = v.oper.config ∨ OwnConfig w.loc.config w.oper.config ∨
    side = .rem ∧ Accepts pfc (onDevice w.loc.config w.peer.config)

theorem Sourced.remote (h : Sourced pfc w) : KeptOrSourced pfc .rem v w :=
  .inr (h.imp id fun h => ⟨rfl, h⟩)

theorem answered_good {ctrl : ControlProtocolAttribs}
    (h : v.answered (pgOps drv pfc) ctrl = .ok w) (hgood : PgGood v)
    (hready : hasFlag v.feat.errorFlag featErrMultiTlv = false →
      v.feat.operVersion = min v.peerFeat.maxVersion v.feat.maxVersion →
      v.feat.operVersion = v.peerFeat.operVersion →
      (TakesPeer v → Accepts pfc (onDevice v.loc.config v.peer.config)) ∧
      (TakesPeer v → v.feat.dcbxSt ≠ dcbxSubtype1 →
        TakenBy drv pfc (onDevice v.loc.config v.peer.config)) ∧
      (KeepsOwn v → SeenRight (some pfc) v.loc.config) ∧
      (KeepsOwn v → v.feat.dcbxSt ≠ dcbxSubtype1 → TakenBy drv pfc v.loc.config)) :
    PgGood w ∧ KeptOrSourced pfc .rem v w := by
  unfold answered at h
  split at h
  · obtain ⟨u, hu, h⟩ := bind_eq_ok.mp h
    obtain ⟨hg, hsrc⟩ := multipleTlvs_good hu
    obtain ⟨hg, hsrc⟩ := errProt_good h hg hsrc
    exact ⟨hg, hsrc.remote⟩
  rename_i hmulti
  split at h
  · cases h
    exact ⟨hgood, .inl rfl⟩
  rename_i hmin
  dsimp only at h
  split at h
  · cases h
    exact ⟨hgood, .inl rfl⟩
  rename_i hop
  obtain ⟨hvalid, hpeer, hseen, hown⟩ := hready (Bool.eq_false_iff.mpr hmulti)
    (Classical.byContradiction hmin) (Classical.byContradiction hop)
  obtain ⟨u, hu, h⟩ := bind_eq_ok.mp h
  obtain ⟨hg, hsrc⟩ := decideOper_good hu rfl hvalid hpeer hseen hown
  obtain ⟨hg, hsrc⟩ := errProt_good h hg hsrc
  exact ⟨hg, hsrc.remote⟩

variable {ctrl peerCtrl : ControlProtocolAttribs}

theorem remoteChange_good (h : v.remoteChange (pgOps drv pfc) ctrl peerCtrl = .ok w)
    (hv : versionsAgree ctrl peerCtrl = true) (ha : v.feat.advertise = true)
    (hgood : PgGood v) (hready : PgReady drv pfc .rem ctrl peerCtrl v) :
    PgGood w ∧ KeptOrSourced pfc .rem v w := by
  unfold remoteChange at h
  split at h
  · obtain ⟨hg, hsrc⟩ := peerExpired_good h
    exact ⟨hg, hsrc.remote⟩
  rename_i hx
  split at h
  · obtain ⟨hg, hsrc⟩ := notPresent_good h
    exact ⟨hg, hsrc.remote⟩
  rename_i ht
  have ht : v.peerFeat.tlvPresent = true := by simpa using ht
  let u := v.withFeat { v.feat with errorFlag := putFlag v.feat.errorFlag featErrNoTlv false }
  change (if u.waits peerCtrl then .ok u else u.answered (pgOps drv pfc) ctrl) = .ok w at h
  -- The flag of a missing TLV is no other flag.
  have hflag : ∀ other, featErrNoTlv &&& other = 0 → ~~~featErrNoTlv &&& other = other →
      hasFlag u.feat.errorFlag other = hasFlag v.feat.errorFlag other :=
    fun other h h' => hasFlag_putFlag h h' v.feat.errorFlag false
  have hgood : PgGood u := by
    intro hm
    obtain ⟨he, hf, hp⟩ := hgood hm
    exact ⟨he, (hflag featErrCfg (by decide) (by decide)).trans hf, hp⟩
  split at h
  · rw [← Except.ok.inj h]
    exact ⟨hgood, .inl rfl⟩
  · rename_i hw
    have hans : PgGood w ∧ KeptOrSourced pfc .rem u w := by
      refine answered_good h hgood fun hmulti hmin hop => ?_
      rw [hflag featErrMultiTlv (by decide) (by decide)] at hmulti
      have hd : Decides ctrl peerCtrl v :=
        ⟨hv, hx, ht, Bool.eq_false_iff.mpr hw, hmulti, hmin, hop⟩
      exact ⟨hready.peerValid rfl ha hd, hready.peerTaken rfl ha hd, hready.ownSeen rfl ha hd,
        hready.ownTaken rfl ha hd⟩
    exact hans

/-- `DCB_LISTEN`, where the event is not the first one of a new device -/
theorem listen_good {st : CmdStatus}
    (h : v.listen (pgOps drv pfc) side false ctrl peerCtrl = .ok (w, st)) (hgood : PgGood v)
    (hready : PgReady drv pfc side ctrl peerCtrl v) :
    PgGood w ∧ KeptOrSourced pfc side v w := by
  let u := if side = .loc then v.localChange ctrl else v
  have hu : u.oper = v.oper ∧ u.loc.config = v.loc.config ∧
      u.feat.advertise = v.feat.advertise ∧ u.feat.enable = v.feat.enable ∧ PgGood u := by
    dsimp only [u]
    split
    · unfold localChange
      split <;> exact ⟨rfl, rfl, rfl, rfl, hgood⟩
    · exact ⟨rfl, rfl, rfl, rfl, hgood⟩
  obtain ⟨hoper, hconfig, hadv, henable, hgood'⟩ := hu
  change (if !u.feat.advertise then u.advertiseOff (pgOps drv pfc) side >>= fun v =>
      pure (v, .success)
    else if side = .loc then pure (u, .success)
    else if !versionsAgree ctrl peerCtrl then pure (u, .ctrlVersNotCompatible)
    else u.remoteChange (pgOps drv pfc) ctrl peerCtrl >>= fun v => pure (v, .success)) =
      .ok (w, st) at h
  split at h
  · rename_i ha
    have ha : v.feat.advertise = false := by
      rw [← hadv]
      simpa using ha
    obtain ⟨x, hx, h⟩ := bind_eq_ok.mp h
    cases h
    obtain ⟨hg, hown⟩ := advertiseOff_good hx
      (fun he hs => by rw [hconfig]; exact hready.localOff hs ha (henable ▸ he))
      (fun he hs => by rw [hconfig]; exact hready.remoteOff hs ha (henable ▸ he))
    exact ⟨hg, .inr (.inl hown)⟩
  rename_i ha
  have ha : v.feat.advertise = true := by
    rw [← hadv]
    simpa using ha
  split at h
  · obtain ⟨hw, -⟩ := Prod.mk.inj (Except.ok.inj h)
    rw [← hw]
    exact ⟨hgood', .inl (congrArg _ hoper)⟩
  rename_i hside
  split at h
  · obtain ⟨hw, -⟩ := Prod.mk.inj (Except.ok.inj h)
    rw [← hw]
    exact ⟨hgood', .inl (congrArg _ hoper)⟩
  rename_i hv
  obtain ⟨x, hx, h⟩ := bind_eq_ok.mp h
  cases h
  have huv : u = v := if_neg hside
  have hrem : side = .rem := by
    cases side with
    | loc => exact absurd rfl hside
    | rem => rfl
  rw [huv] at hx
  rw [hrem] at hready ⊢
  exact remoteChange_good hx (by simpa using hv) ha hgood hready

/-- One run of the machine of the priority groups. The conditions are on the state in which it
looks at the event. -/
theorem machine_good {dup : Bool} {st : CmdStatus}
    (h : v.featureMachine (pgOps drv pfc) side dup false ctrl peerCtrl = .ok (w, st))
    (hst : v.feat.state ≠ .closed) (hgood : PgGood v)
    (hready : PgReady drv pfc side ctrl peerCtrl (v.opened dup ctrl peerCtrl)) :
    PgGood w ∧ KeptOrSourced pfc side v w := by
  rw [featureMachine_eq hst] at h
  simp only [Bool.false_eq_true, and_false, decide_false] at h
  have hopened : PgGood (v.opened dup ctrl peerCtrl) := by
    by_cases hi : v.feat.state = .init
    · -- The first run of the machine clears `OperMode`.
      have hmode : (v.opened dup ctrl peerCtrl).feat.operMode = false := by
        have hi' : (v.noteErrors dup (hasFlag peerCtrl.errorFlag tooManyNghbrs)).feat.state =
          .init := hi
        unfold opened start
        rw [if_pos hi']
        rfl
      intro hm
      rw [hmode] at hm
      cases hm
    · rw [opened_of_state hi]
      intro hm
      obtain ⟨he, hf, hp⟩ := hgood hm
      refine ⟨he, ?_, hp⟩
      change hasFlag (putFlag (putFlag v.feat.errorFlag featErrMultiTlv dup) featErrMultiPeer
        (hasFlag peerCtrl.errorFlag tooManyNghbrs)) featErrCfg = false
      rw [hasFlag_putFlag (by decide) (by decide), hasFlag_putFlag (by decide) (by decide), hf]
  obtain ⟨hg, hsrc⟩ := listen_good h hopened hready
  refine ⟨hg, ?_⟩
  unfold KeptOrSourced at hsrc
  rw [opened_oper] at hsrc
  exact hsrc

end Stores

end Lldpad.Dcbx
