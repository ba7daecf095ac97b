import Lldpad.Proofs.Dcbx.Station

/-!
# `Lldpad.Proofs.Dcbx.ErrorFlags`: what `Error_Flag` reports

`run_feature_protocol` notes double TLVs and several neighbours before it looks at the event,
and the branches add to the flags or start over. `MachineRuns.truthful_iff` says when the flags
are right at the end of the machine.
-/

namespace Lldpad.Dcbx

open Lldpad.Lib

variable {C : Type}

/-! ### What the flags report -/

/-- Two values of `Error_Flag` that report the same about the TLVs of the peer. -/
structure SameReports (x y : UInt8) : Prop where
  multiTlv : hasFlag y featErrMultiTlv = hasFlag x featErrMultiTlv
  multiPeer : hasFlag y featErrMultiPeer = hasFlag x featErrMultiPeer
  noTlv : hasFlag y featErrNoTlv = hasFlag x featErrNoTlv

namespace SameReports

theorem refl (x : UInt8) : SameReports x x := ⟨rfl, rfl, rfl⟩

theorem trans {x y z : UInt8} (h : SameReports x y) (h' : SameReports y z) :
    SameReports x z :=
  ⟨h'.multiTlv.trans h.multiTlv, h'.multiPeer.trans h.multiPeer, h'.noTlv.trans h.noTlv⟩

theorem orFlag {bit : UInt8}
    (h : bit &&& (featErrMultiTlv ||| featErrMultiPeer ||| featErrNoTlv) = 0) (x : UInt8)
    (b : Bool) : SameReports x (orFlag x bit b) := by
  have hbit : ∀ other : UInt8,
      (featErrMultiTlv ||| featErrMultiPeer ||| featErrNoTlv) &&& other = other →
        bit &&& other = 0 := by
    intro other hother
    rw [← hother, ← UInt8.and_assoc, h, UInt8.zero_and]
  exact ⟨hasFlag_orFlag (hbit _ (by decide)) x b, hasFlag_orFlag (hbit _ (by decide)) x b,
    hasFlag_orFlag (hbit _ (by decide)) x b⟩

end SameReports

namespace Stores

variable {o : FeatureOps C} {side : Side} {v w : Stores C}

/-! ### The branches behind the acknowledgement -/

theorem multipleTlvs_reports (h : v.multipleTlvs o = .ok w) :
    SameReports v.feat.errorFlag w.feat.errorFlag := by
  obtain ⟨r, -, rfl⟩ := setOrFlag_eq_ok.mp h
  exact .orFlag (by decide) _ _

theorem settle_reports {src : Side} {operMode : Bool} (h : v.settle o src operMode = .ok w)
    (hnone : SameReports v.feat.errorFlag featErrNone) :
    SameReports v.feat.errorFlag w.feat.errorFlag := by
  refine hnone.trans ?_
  unfold settle at h
  dsimp only at h
  split at h
  · obtain ⟨r, -, rfl⟩ := setOrFlag_eq_ok.mp h
    exact .orFlag (by decide) _ _
  · obtain ⟨r, -, rfl⟩ := setOrFail_eq_ok.mp h
    exact .orFlag (by decide) _ _

theorem incompatible_reports (h : v.incompatible o = .ok w) :
    SameReports v.feat.errorFlag w.feat.errorFlag := by
  obtain ⟨u, hu, h⟩ := bind_eq_ok.mp h
  obtain ⟨r, -, rfl⟩ := setOrFlag_eq_ok.mp hu
  cases h
  have hcfg : SameReports v.feat.errorFlag (orFlag v.feat.errorFlag featErrCfg !r.ok) :=
    .orFlag (by decide) _ _
  have hmismatch : SameReports (orFlag v.feat.errorFlag featErrCfg !r.ok)
      (orFlag (orFlag v.feat.errorFlag featErrCfg !r.ok) featErrMismatch true) :=
    .orFlag (by decide) _ _
  exact hcfg.trans hmismatch

theorem decideOper_reports (h : v.decideOper o = .ok w)
    (hnone : SameReports v.feat.errorFlag featErrNone) :
    SameReports v.feat.errorFlag w.feat.errorFlag := by
  rcases decideOper_cases h with ⟨src, mode, h⟩ | h
  · have hsettled := settle_reports h hnone
    exact hsettled
  · have hfailed := incompatible_reports h
    exact hfailed

theorem stopOnError_flags (h : v.stopOnError o = .ok w) :
    w.feat.errorFlag = v.feat.errorFlag := by
  unfold stopOnError at h
  split at h
  · obtain ⟨r, -, rfl⟩ := trySetConfiguration_eq_ok.mp h
    rfl
  · cases h
    rfl

theorem errProt_reports {ctrl : ControlProtocolAttribs} {err : Bool}
    (h : v.errProt o ctrl err = .ok w) : SameReports v.feat.errorFlag w.feat.errorFlag := by
  obtain ⟨u, hu, h⟩ := bind_eq_ok.mp h
  have hflag := stopOnError_flags hu
  have hw : w.feat.errorFlag = u.feat.errorFlag := by
    split at h
    · cases h
      rfl
    · cases h
      rfl
  rw [hw, hflag]
  exact .orFlag (by decide) _ _

theorem answered_reports {ctrl : ControlProtocolAttribs} (h : v.answered o ctrl = .ok w)
    (hpeer : hasFlag v.feat.errorFlag featErrMultiPeer = false)
    (hno : hasFlag v.feat.errorFlag featErrNoTlv = false) :
    SameReports v.feat.errorFlag w.feat.errorFlag := by
  unfold answered at h
  split at h
  · obtain ⟨u, hu, h⟩ := bind_eq_ok.mp h
    exact (multipleTlvs_reports hu).trans (errProt_reports h)
  rename_i hmulti
  split at h
  · cases h
    exact .refl _
  dsimp only at h
  split at h
  · cases h
    exact .refl _
  · obtain ⟨u, hu, h⟩ := bind_eq_ok.mp h
    -- None of the three is raised here, so to start over loses none.
    have hnone : SameReports v.feat.errorFlag featErrNone :=
      ⟨(Bool.eq_false_iff.mpr hmulti).symm, hpeer.symm, hno.symm⟩
    exact (decideOper_reports hu hnone).trans (errProt_reports h)

/-! ### The machine -/

/-- What `Error_Flag` has to report: double TLVs, several neighbours, and no TLV only without
one. -/
structure Reports (dup tooMany tlv : Bool) (x : UInt8) : Prop where
  multiTlv : hasFlag x featErrMultiTlv = dup
  multiPeer : hasFlag x featErrMultiPeer = tooMany
  noTlv : hasFlag x featErrNoTlv = true → tlv = false

/-- Where the machine starts, as far as it keeps the flags right. `tlv` says that there is a
TLV of the peer, and only one neighbour. -/
structure FlagsStay (side : Side) (dup tooMany tlv : Bool) (ctrl peerCtrl : ControlProtocolAttribs)
    (p : FeatureProtocolAttribs) : Prop where
  /-- F5 gives up both flags. -/
  off : p.advertise = false → dup = false ∧ tooMany = false
  /-- A local change leaves `FEAT_ERR_NO_TLV` as it is. -/
  stale : side = .loc → p.advertise = true → hasFlag p.errorFlag featErrNoTlv = true →
    tlv = false
  /-- F6.2 raises `FEAT_ERR_NO_TLV`, whether there is a TLV or not. -/
  expired : side = .rem → p.advertise = true → versionsAgree ctrl peerCtrl = true →
    p.dcbxSt = dcbxSubtype2 → peerCtrl.rxDcbTlvState = .expired → tlv = false

section Machine

variable {dup tooMany tlv : Bool} {ctrl peerCtrl : ControlProtocolAttribs}

theorem Reports.congr {x y : UInt8} (h : SameReports x y) (hx : Reports dup tooMany tlv x) :
    Reports dup tooMany tlv y :=
  ⟨h.multiTlv.trans hx.multiTlv, h.multiPeer.trans hx.multiPeer,
    fun hy => hx.noTlv (h.noTlv.symm.trans hy)⟩

theorem reports_noTlv_iff {x : UInt8} (hdup : hasFlag x featErrMultiTlv = dup)
    (hmany : hasFlag x featErrMultiPeer = tooMany) :
    Reports dup tooMany tlv (x ||| featErrNoTlv) ↔ tlv = false := by
  show Reports dup tooMany tlv (putFlag x featErrNoTlv true) ↔ tlv = false
  have hraised : hasFlag (putFlag x featErrNoTlv true) featErrNoTlv = true :=
    hasFlag_putFlag_self (by decide) (by decide) x true
  refine ⟨fun h => h.noTlv hraised, fun h => ⟨?_, ?_, fun _ => h⟩⟩
  · rw [← hdup]
    exact hasFlag_putFlag (by decide) (by decide) x true
  · rw [← hmany]
    exact hasFlag_putFlag (by decide) (by decide) x true

theorem advertiseOff_flags (h : v.advertiseOff o side = .ok w) :
    w.feat.errorFlag = featErrNone := by
  obtain ⟨r, -, rfl⟩ := trySetConfiguration_eq_ok.mp h
  have hflag : ∀ x : UInt8,
      orFlag (orFlag featErrNone featErrMultiPeer (hasFlag (errorFlagAsBool x) featErrMultiPeer))
        (errorFlagAsBool x &&& featErrMultiTlv) (hasFlag (errorFlagAsBool x) featErrMultiTlv) =
      featErrNone := by
    intro x
    unfold errorFlagAsBool
    split <;> decide
  exact hflag _

theorem reports_none_iff :
    Reports dup tooMany tlv featErrNone ↔ dup = false ∧ tooMany = false := by
  constructor
  · rintro ⟨hdup, hmany, -⟩
    exact ⟨hdup.symm, hmany.symm⟩
  · rintro ⟨rfl, rfl⟩
    exact ⟨rfl, rfl, nofun⟩

/-- A remote change keeps the flags right, F6.2 apart. -/
theorem remoteChange_reports_iff (h : v.remoteChange o ctrl peerCtrl = .ok w)
    (hdup : hasFlag v.feat.errorFlag featErrMultiTlv = dup)
    (hmany : hasFlag v.feat.errorFlag featErrMultiPeer = tooMany)
    (htlv : tooMany = true → v.peerFeat.tlvPresent = false) :
    Reports dup tooMany v.peerFeat.tlvPresent w.feat.errorFlag ↔
      (v.feat.dcbxSt = dcbxSubtype2 → peerCtrl.rxDcbTlvState = .expired →
        v.peerFeat.tlvPresent = false) := by
  unfold remoteChange at h
  split at h
  · -- F6.2
    rename_i hx
    obtain ⟨r, -, rfl⟩ := trySetConfiguration_eq_ok.mp h
    refine (reports_noTlv_iff hdup hmany).trans ?_
    exact ⟨fun h _ _ => h, fun h => h hx.1 hx.2⟩
  rename_i hx
  have hnever : ∀ p : Prop, v.feat.dcbxSt = dcbxSubtype2 → peerCtrl.rxDcbTlvState = .expired → p :=
    fun p h h' => absurd ⟨h, h'⟩ hx
  refine iff_of_true ?_ (hnever _)
  split at h
  · -- F8
    rename_i ht
    obtain ⟨r, -, rfl⟩ := trySetConfiguration_eq_ok.mp h
    exact (reports_noTlv_iff hdup hmany).mpr (by simpa using ht)
  rename_i ht
  let u := v.withFeat { v.feat with errorFlag := putFlag v.feat.errorFlag featErrNoTlv false }
  change (if u.waits peerCtrl then .ok u else u.answered o ctrl) = .ok w at h
  -- There is a TLV, so there is one neighbour.
  have hone : tooMany = false := by
    cases hm : tooMany with
    | true => simp [htlv hm] at ht
    | false => rfl
  have hno : hasFlag u.feat.errorFlag featErrNoTlv = false :=
    hasFlag_putFlag_self (by decide) (by decide) _ false
  have hu : Reports dup tooMany v.peerFeat.tlvPresent u.feat.errorFlag := by
    refine ⟨?_, ?_, fun h => absurd (hno.symm.trans h) (by decide)⟩
    · rw [← hdup]
      exact hasFlag_putFlag (by decide) (by decide) _ false
    · rw [← hmany]
      exact hasFlag_putFlag (by decide) (by decide) _ false
  split at h
  · rw [← Except.ok.inj h]
    exact hu
  · exact hu.congr (answered_reports h (hu.multiPeer.trans hone) hno)

/-- `DCB_LISTEN` -/
theorem listen_reports_iff {justAdded : Bool}
    (h : v.listen o side justAdded ctrl peerCtrl = .ok (w, .success))
    (hdup : hasFlag v.feat.errorFlag featErrMultiTlv = dup)
    (hmany : hasFlag v.feat.errorFlag featErrMultiPeer = tooMany)
    (htlv : tooMany = true → v.peerFeat.tlvPresent = false) :
    Reports dup tooMany v.peerFeat.tlvPresent w.feat.errorFlag ↔
      FlagsStay side dup tooMany v.peerFeat.tlvPresent ctrl peerCtrl v.feat := by
  obtain ⟨u, hu, hcases⟩ := listen_cases h
  have hvu : Frame v u ∧ u.feat.errorFlag = v.feat.errorFlag := by
    rw [hu]
    split
    · refine ⟨(localChange_move v ctrl).1, ?_⟩
      unfold localChange
      split <;> rfl
    · exact ⟨.refl v, rfl⟩
  obtain ⟨hvu, huf⟩ := hvu
  rcases hcases with ⟨ha, hoff, -⟩ | ⟨ha, x, hx, hcases⟩
  · -- F5
    rw [hvu.kept.advertise] at ha
    rw [advertiseOff_flags hoff, reports_none_iff]
    constructor
    · intro hnone
      exact ⟨fun _ => hnone, fun _ ha' => absurd (ha.symm.trans ha') (by decide),
        fun _ ha' => absurd (ha.symm.trans ha') (by decide)⟩
    · exact fun hstay => hstay.off ha
  rw [hvu.kept.advertise] at ha
  have hon : v.feat.advertise = false → dup = false ∧ tooMany = false := fun ha' =>
    absurd (ha.symm.trans ha') (by decide)
  -- The copy of a new device is about the configuration only.
  have hux : Frame u x ∧ x.feat.errorFlag = u.feat.errorFlag := by
    rcases hx with ⟨-, rfl⟩ | ⟨-, hx⟩
    · exact ⟨.refl x, rfl⟩
    · obtain ⟨r, -, rfl⟩ := trySetConfiguration_eq_ok.mp hx
      exact ⟨⟨rfl, rfl, rfl, .refl _⟩, rfl⟩
  have hvx : Frame v x := hvu.trans hux.1
  have hxf : x.feat.errorFlag = v.feat.errorFlag := hux.2.trans huf
  rcases hcases with ⟨rfl, rfl, -⟩ | ⟨-, -, hst⟩ | ⟨rfl, hver, hrem, -⟩
  · rw [hxf]
    constructor
    · exact fun hr => ⟨hon, fun _ _ => hr.noTlv, nofun⟩
    · exact fun hstay => ⟨hdup, hmany, hstay.stale rfl ha⟩
  · cases hst
  · have hpeer : x.peerFeat.tlvPresent = v.peerFeat.tlvPresent :=
      congrArg (·.protocol.tlvPresent) hvx.peer
    have hiff := remoteChange_reports_iff hrem (hxf ▸ hdup) (hxf ▸ hmany) (hpeer ▸ htlv)
    rw [hpeer, hvx.kept.dcbxSt] at hiff
    rw [hiff]
    constructor
    · exact fun hx => ⟨hon, nofun, fun _ _ _ => hx⟩
    · exact fun hstay => hstay.expired rfl ha hver

/-- One run of the machine -/
theorem machine_reports_iff {adds : Bool} (hst : v.feat.state ≠ .closed)
    (h : v.featureMachine o side dup adds ctrl peerCtrl = .ok (w, .success)) :
    Reports dup (hasFlag peerCtrl.errorFlag tooManyNghbrs) w.peerFeat.tlvPresent
        w.feat.errorFlag ↔
      FlagsStay side dup (hasFlag peerCtrl.errorFlag tooManyNghbrs)
        (v.peerFeat.tlvPresent && !hasFlag peerCtrl.errorFlag tooManyNghbrs) ctrl peerCtrl
        v.feat := by
  have hopen : (v.opened dup ctrl peerCtrl).peerFeat.tlvPresent =
      (v.peerFeat.tlvPresent && !hasFlag peerCtrl.errorFlag tooManyNghbrs) :=
    congrArg (fun a : Attribs C => a.protocol.tlvPresent) (opened_peer (v := v))
  have hpeer : w.peerFeat.tlvPresent = (v.opened dup ctrl peerCtrl).peerFeat.tlvPresent :=
    congrArg (·.protocol.tlvPresent) (featureMachine_frame hst h).peer
  rw [featureMachine_eq hst] at h
  generalize hmany : hasFlag peerCtrl.errorFlag tooManyNghbrs = tooMany at hopen ⊢
  -- The flags when the machine is open
  have hflag : (v.opened dup ctrl peerCtrl).feat.errorFlag =
      putFlag (putFlag v.feat.errorFlag featErrMultiTlv dup) featErrMultiPeer tooMany := by
    rw [← hmany]
    unfold opened start
    split <;> rfl
  have hdup : hasFlag (v.opened dup ctrl peerCtrl).feat.errorFlag featErrMultiTlv = dup := by
    rw [hflag, hasFlag_putFlag (by decide) (by decide),
      hasFlag_putFlag_self (by decide) (by decide)]
  have hnoted : hasFlag (v.opened dup ctrl peerCtrl).feat.errorFlag featErrMultiPeer =
      tooMany := by
    rw [hflag, hasFlag_putFlag_self (by decide) (by decide)]
  have hiff := listen_reports_iff h hdup hnoted (by
    intro hm
    rw [hopen, hm, Bool.not_true, Bool.and_false])
  rw [hopen] at hiff hpeer
  rw [hpeer, hiff]
  have hno : hasFlag (v.opened dup ctrl peerCtrl).feat.errorFlag featErrNoTlv =
      hasFlag v.feat.errorFlag featErrNoTlv := by
    rw [hflag, hasFlag_putFlag (by decide) (by decide), hasFlag_putFlag (by decide) (by decide)]
  have hadv : (v.opened dup ctrl peerCtrl).feat.advertise = v.feat.advertise :=
    opened_kept.advertise
  have hdcb : (v.opened dup ctrl peerCtrl).feat.dcbxSt = v.feat.dcbxSt := opened_kept.dcbxSt
  constructor
  · rintro ⟨hoff, hstale, hexp⟩
    rw [hadv] at hoff hstale hexp
    rw [hno] at hstale
    rw [hdcb] at hexp
    exact ⟨hoff, hstale, hexp⟩
  · rintro ⟨hoff, hstale, hexp⟩
    rw [← hadv] at hoff hstale hexp
    rw [← hno] at hstale
    rw [← hdcb] at hexp
    exact ⟨hoff, hstale, hexp⟩

end Machine

end Stores

/-! ### A station -/

variable {d d' : Device} {f : Feature} {s : Station} {i : Input} {call : ChangeEvent × Nat}

/-- `Error_Flag` of a feature is right. -/
def Truthful (d : Device) (f : Feature) : Prop :=
  Stores.Reports (dupOf d f) (hasFlag d.peerCtrl.errorFlag tooManyNghbrs)
    (d.peerProt f).tlvPresent (d.prot f).errorFlag

/-- Every machine that runs to its end in this event leaves its flags right. -/
def FlagsTruthful (s : Station) (i : Input) : Prop :=
  ∀ call f d d', MachineRuns s i call f d d' .success → Truthful d' f

/-- Every machine that runs to its end in this event starts where it keeps the flags right. -/
def FlagsSafe (s : Station) (i : Input) : Prop :=
  ∀ call f d d', MachineRuns s i call f d d' .success →
    Stores.FlagsStay call.1.side (dupOf d f) (hasFlag d.peerCtrl.errorFlag tooManyNghbrs)
      ((d.peerProt f).tlvPresent && !hasFlag d.peerCtrl.errorFlag tooManyNghbrs) d.ctrl
      d.peerCtrl (d.prot f)

theorem MachineRuns.truthful_iff (h : MachineRuns s i call f d d' .success) (hs : Alive s.dev) :
    Truthful d' f ↔
      Stores.FlagsStay call.1.side (dupOf d f) (hasFlag d.peerCtrl.errorFlag tooManyNghbrs)
        ((d.peerProt f).tlvPresent && !hasFlag d.peerCtrl.errorFlag tooManyNghbrs) d.ctrl
        d.peerCtrl (d.prot f) := by
  obtain ⟨hd, v, hv, rfl⟩ := h.machine hs
  have hpeer : v.peerFeat.errorFlag = (d.peerProt f).errorFlag :=
    (congrArg (·.protocol.errorFlag) (Stores.featureMachine_frame (hd.feat f) hv).peer).trans
      (congrArg (fun a : Attribs _ => a.protocol.errorFlag)
        (Stores.opened_peer (v := d.get f)))
  have hdup : dupOf (d.set f v) f = dupOf d f := by
    unfold dupOf
    rw [Device.peerProt, Device.set_get_self, hpeer]
  unfold Truthful
  rw [hdup, Device.set_peerCtrl, Device.peerProt, Device.prot, Device.set_get_self]
  exact Stores.machine_reports_iff (hd.feat f) hv

/-- The flags are right after every machine of a run exactly when every machine starts where it
keeps them right. -/
theorem flags_truthful_iff {s₀ : Station} (h : FreshStation s₀) (es : List Input) :
    dcbxSystem.StepsMeet FlagsTruthful s₀ es ↔ dcbxSystem.StepsMeet FlagsSafe s₀ es := by
  refine System.stepsMeet_iff (I := fun s => Alive s.dev) ?_ ?_ es s₀ ?_
  · intro s i hs
    exact ⟨fun hall call f d d' hm => (hm.truthful_iff hs).mp (hall call f d d' hm),
      fun hall call f d d' hm => (hm.truthful_iff hs).mpr (hall call f d d' hm)⟩
  · intro s i t hs _ hstep
    obtain ⟨w, hw, hfin, -⟩ := step_cases hstep
    exact ((hs.write hw).finished hfin).2
  · obtain ⟨attribs, state, hnew, -⟩ := h
    exact alive_of_fresh hnew

/-- A local change of PFC of a station that becomes active -/
def changeEvents : List Input :=
  [plainInput (.setActive true),
    plainInput (.put (.pfc
      { protocol := { enable := true, willing := true, advertise := true }
        config := { numTcs := 8 } }))]

/-- The first local change of a feature that is advertised leaves its flags right. -/
theorem firstChange_truthful :
    dcbxSystem.StepsMeet FlagsTruthful (plainStation dcbxSubtype2) changeEvents := by
  refine (flags_truthful_iff (plainStation_fresh _) _).mpr
    ⟨?_, fun t ht => ⟨?_, fun _ _ => trivial⟩⟩
  · -- Nothing runs when the station becomes active.
    rintro call f d d' ⟨⟨w, hw, hcalled⟩, -, -, -⟩
    cases hw
    exact hcalled.elim
  · rintro call f d d' ⟨⟨w, hw, hcalled⟩, -, htarget, -⟩
    cases ht
    cases hw
    obtain ⟨calls, calls', hsplit, hcalls⟩ := hcalled.calls
    have hsplit : [(ChangeEvent.pfc .loc, subtypeDefault)] = calls ++ call :: calls' := hsplit
    cases calls with
    | nil =>
      -- The change is the only call, and it finds the stores as they were written.
      obtain ⟨rfl, -⟩ := List.cons.inj hsplit
      cases hcalls
      cases htarget
      exact ⟨nofun, fun _ _ => by decide +kernel, nofun⟩
    | cons c calls => simp at hsplit

/-- The attributes of a device that does not advertise PFC -/
def quietAttribs : FullDcbAttribs :=
  { plainAttribs with pfc := { protocol := { enable := true }, config := { numTcs := 8 } } }

/-- A station with these attributes -/
def quietStation : Station where
  dev := newStores dcbxSubtype2 quietAttribs {}
  dcbxSt := dcbxSubtype2
  mid := newStores dcbxSubtype2 quietAttribs {}

/-- The station becomes active, and a frame comes while there are several neighbours. -/
def crowdedEvents : List Input :=
  [plainInput (.setActive true),
    plainInput (.frame { dcbxSt := dcbxSubtype2, tooManyNghbrs := true }
      { ctrl := some [0, 0, 0, 0, 0, 1, 0, 0, 0, 0] } none)]

/-- PFC does not report the neighbours. -/
theorem neighbours_unreported :
    FreshStation quietStation ∧
      ¬ dcbxSystem.StepsMeet FlagsTruthful quietStation crowdedEvents := by
  refine ⟨⟨quietAttribs, {}, rfl, rfl, rfl, fun _ => rfl⟩, fun h => ?_⟩
  obtain ⟨-, hrest⟩ := h
  obtain ⟨hframe, -⟩ := hrest _ rfl
  have htruth := hframe (.pfc .rem, 0) .pfc _ _
    ⟨⟨_, rfl, [], _, [], [], (_, _), _, rfl, rfl, by decide, rfl⟩, rfl, rfl, rfl⟩
  have hflag := htruth.multiPeer
  revert hflag
  decide +kernel

end Lldpad.Dcbx
