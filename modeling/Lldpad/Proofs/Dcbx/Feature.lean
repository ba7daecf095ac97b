import Lldpad.Dcbx.Feature

/-!
# `Lldpad.Proofs.Dcbx.Feature`: what the feature state machine does

`setConfiguration` leaves the local store and the store of the peer alone, so what a branch
of the machine does to the protocol variables can be read off its definition. The lemmas
`.._eq_ok` say it once for each way to call it.

`Kept` is what no branch touches. `RemoteMove` and `LocalMove` are the ways in which `Syncd`
and `FeatureSeqNo` move, and `listen_loc` and `listen_rem` say that there are no others. `OperFrom` says
where the operational configuration comes from, and `featureMachine_operFrom` that a run of the
machine gives no other.
-/

namespace Lldpad.Dcbx

open Lldpad.Lib

/-! ### Error flags -/

theorem or_and_right (x a b : UInt8) : (x ||| a) &&& b = x &&& b ||| a &&& b := by
  apply UInt8.eq_of_toBitVec_eq
  ext i hi
  simp [Bool.and_or_distrib_right]

theorem hasFlag_orFlag {bit other : UInt8} (h : bit &&& other = 0) (x : UInt8) (b : Bool) :
    hasFlag (orFlag x bit b) other = hasFlag x other := by
  unfold hasFlag orFlag
  split
  · rw [or_and_right, h, UInt8.or_zero]
  · rfl

theorem hasFlag_putFlag {bit other : UInt8} (h : bit &&& other = 0)
    (h' : ~~~bit &&& other = other) (x : UInt8) (b : Bool) :
    hasFlag (putFlag x bit b) other = hasFlag x other := by
  unfold hasFlag putFlag
  split
  · rw [or_and_right, h, UInt8.or_zero]
  · rw [UInt8.and_assoc, h']

theorem hasFlag_putFlag_self {bit : UInt8} (h : bit ≠ 0) (h' : ~~~bit &&& bit = 0) (x : UInt8)
    (b : Bool) : hasFlag (putFlag x bit b) bit = b := by
  unfold hasFlag putFlag
  cases b with
  | true =>
    have hself : (x ||| bit) &&& bit = bit := by
      apply UInt8.eq_of_toBitVec_eq
      ext i hi
      simp only [UInt8.toBitVec_and, UInt8.toBitVec_or, BitVec.getElem_and, BitVec.getElem_or]
      cases x.toBitVec[i] <;> cases bit.toBitVec[i] <;> rfl
    rw [if_pos rfl, hself]
    simpa using h
  | false =>
    rw [if_neg (by decide), UInt8.and_assoc, h', UInt8.and_zero]
    rfl

variable {C : Type}

namespace Stores

variable {o : FeatureOps C} {side : Side} {v w x : Stores C}

/-! ### The driver -/

/-- The stores after `set_configuration` with this outcome. -/
def configured (v : Stores C) (r : Configured C) : Stores C :=
  { v with oper := { v.oper with config := r.oper }, hw := v.hw ++ r.hw }

theorem setConfiguration_eq_ok {b : Bool} :
    v.setConfiguration o side = .ok (w, b) ↔
      ∃ r, o.setConfiguration side v = .ok r ∧ w = v.configured r ∧ b = r.ok := by
  unfold setConfiguration
  rw [bind_eq_ok]
  constructor
  · rintro ⟨r, hr, h⟩
    cases h
    exact ⟨r, hr, rfl, rfl⟩
  · rintro ⟨r, hr, rfl, rfl⟩
    exact ⟨r, hr, rfl⟩

/-- What is made of the outcome of the driver -/
theorem setConfiguration_then {f : Stores C → Bool → Stores C} :
    (v.setConfiguration o side >>= fun x => pure (f x.1 x.2) : Except Fault (Stores C)) = .ok w ↔
      ∃ r, o.setConfiguration side v = .ok r ∧ w = f (v.configured r) r.ok := by
  rw [bind_eq_ok]
  constructor
  · rintro ⟨⟨u, b⟩, hu, h⟩
    obtain ⟨r, hr, rfl, rfl⟩ := setConfiguration_eq_ok.mp hu
    cases h
    exact ⟨r, hr, rfl⟩
  · rintro ⟨r, hr, rfl⟩
    exact ⟨_, setConfiguration_eq_ok.mpr ⟨r, hr, rfl, rfl⟩, rfl⟩

theorem trySetConfiguration_eq_ok :
    v.trySetConfiguration o side = .ok w ↔
      ∃ r, o.setConfiguration side v = .ok r ∧ w = v.configured r :=
  setConfiguration_then (f := fun u _ => u)

theorem setOrFlag_eq_ok :
    v.setOrFlag o side = .ok w ↔
      ∃ r, o.setConfiguration side v = .ok r ∧
        w = (v.configured r).withFeat { v.feat with
          errorFlag := orFlag v.feat.errorFlag featErrCfg !r.ok } :=
  setConfiguration_then (f := fun u ok => u.withFeat { u.feat with
    errorFlag := orFlag u.feat.errorFlag featErrCfg !ok })

theorem setOrFail_eq_ok :
    v.setOrFail o side = .ok w ↔
      ∃ r, o.setConfiguration side v = .ok r ∧
        w = (v.configured r).withFeat { v.feat with
          error := !r.ok
          errorFlag := orFlag v.feat.errorFlag featErrCfg !r.ok } :=
  setConfiguration_then (f := fun u ok => u.withFeat { u.feat with
    error := !ok
    errorFlag := orFlag u.feat.errorFlag featErrCfg !ok })

/-! ### What no branch touches -/

/-- Protocol variables that belong to the setters, and those that only grow. -/
structure Kept (p q : FeatureProtocolAttribs) : Prop where
  enable : q.enable = p.enable
  willing : q.willing = p.willing
  advertise : q.advertise = p.advertise
  advertisePrev : q.advertisePrev = p.advertisePrev
  maxVersion : q.maxVersion = p.maxVersion
  dcbxSt : q.dcbxSt = p.dcbxSt
  state : q.state = p.state
  forceSend : p.forceSend = true → q.forceSend = true

theorem Kept.refl (p : FeatureProtocolAttribs) : Kept p p :=
  ⟨rfl, rfl, rfl, rfl, rfl, rfl, rfl, id⟩

theorem Kept.trans {p q r : FeatureProtocolAttribs} (h : Kept p q) (h' : Kept q r) :
    Kept p r where
  enable := h'.enable.trans h.enable
  willing := h'.willing.trans h.willing
  advertise := h'.advertise.trans h.advertise
  advertisePrev := h'.advertisePrev.trans h.advertisePrev
  maxVersion := h'.maxVersion.trans h.maxVersion
  dcbxSt := h'.dcbxSt.trans h.dcbxSt
  state := h'.state.trans h.state
  forceSend hf := h'.forceSend (h.forceSend hf)

/-- What a branch keeps: the local configuration, the store of the peer, and `Kept`. -/
structure Frame (v w : Stores C) : Prop where
  config : w.loc.config = v.loc.config
  peer : w.peer = v.peer
  operProtocol : w.oper.protocol = v.oper.protocol
  kept : Kept v.feat w.feat

theorem Frame.refl (v : Stores C) : Frame v v := ⟨rfl, rfl, rfl, .refl _⟩

theorem Frame.trans (h : Frame v w) (h' : Frame w x) : Frame v x :=
  ⟨h'.config.trans h.config, h'.peer.trans h.peer, h'.operProtocol.trans h.operProtocol,
    h.kept.trans h'.kept⟩

theorem Frame.withFeat (v : Stores C) {p : FeatureProtocolAttribs} (h : Kept v.feat p) :
    Frame v (v.withFeat p) := ⟨rfl, rfl, rfl, h⟩

/-- The two ways to say that a feature is in sync, or has a new number to wait for. -/
def SyncedOrRenewed (ctrl : ControlProtocolAttribs) (p : FeatureProtocolAttribs) : Prop :=
  p.syncd = true ∨ p.syncd = false ∧ p.featureSeqNo = ctrl.seqNo + 1

/-! ### The branches -/

theorem advertiseOff_move (h : v.advertiseOff o side = .ok w) :
    Frame v w ∧ w.feat.syncd = v.feat.syncd ∧ w.feat.featureSeqNo = v.feat.featureSeqNo ∧
      w.feat.forceSend = v.feat.forceSend := by
  obtain ⟨r, -, rfl⟩ := trySetConfiguration_eq_ok.mp h
  exact ⟨⟨rfl, rfl, rfl, ⟨rfl, rfl, rfl, rfl, rfl, rfl, rfl, id⟩⟩, rfl, rfl, rfl⟩

theorem peerExpired_move (h : v.peerExpired o = .ok w) :
    Frame v w ∧ w.feat.syncd = false ∧ w.feat.featureSeqNo = 1 := by
  obtain ⟨r, -, rfl⟩ := trySetConfiguration_eq_ok.mp h
  exact ⟨⟨rfl, rfl, rfl, ⟨rfl, rfl, rfl, rfl, rfl, rfl, rfl, id⟩⟩, rfl, rfl⟩

theorem notPresent_move (h : v.notPresent o = .ok w) :
    Frame v w ∧ w.feat.syncd = true := by
  obtain ⟨r, -, rfl⟩ := trySetConfiguration_eq_ok.mp h
  exact ⟨⟨rfl, rfl, rfl, ⟨rfl, rfl, rfl, rfl, rfl, rfl, rfl, id⟩⟩, rfl⟩

theorem multipleTlvs_move (h : v.multipleTlvs o = .ok w) :
    Frame v w ∧ w.feat.syncd = v.feat.syncd ∧ w.feat.featureSeqNo = v.feat.featureSeqNo ∧
      w.feat.forceSend = true := by
  obtain ⟨r, -, rfl⟩ := setOrFlag_eq_ok.mp h
  exact ⟨⟨rfl, rfl, rfl, ⟨rfl, rfl, rfl, rfl, rfl, rfl, rfl, fun _ => rfl⟩⟩, rfl, rfl, rfl⟩

theorem settle_move {src : Side} {operMode : Bool} (h : v.settle o src operMode = .ok w)
    (hs : v.feat.syncd = true) :
    Frame v w ∧ w.feat.featureSeqNo = v.feat.featureSeqNo ∧
      (w.feat.syncd = false → v.feat.error ≠ w.feat.error) := by
  unfold settle at h
  dsimp only at h
  split at h
  -- CEE gives up the old error, CIN takes the outcome of the driver for the error.
  · obtain ⟨r, -, rfl⟩ := setOrFlag_eq_ok.mp h
    refine ⟨⟨rfl, rfl, rfl, ⟨rfl, rfl, rfl, rfl, rfl, rfl, rfl, id⟩⟩, rfl, ?_⟩
    intro hw
    change (!v.feat.error) = false at hw
    change v.feat.error ≠ false
    simpa using hw
  · obtain ⟨r, -, rfl⟩ := setOrFail_eq_ok.mp h
    refine ⟨⟨rfl, rfl, rfl, ⟨rfl, rfl, rfl, rfl, rfl, rfl, rfl, id⟩⟩, rfl, ?_⟩
    intro hw
    change v.feat.syncd = false at hw
    simp [hs] at hw

theorem incompatible_move (h : v.incompatible o = .ok w) (hs : v.feat.syncd = true) :
    Frame v w ∧ w.feat.featureSeqNo = v.feat.featureSeqNo ∧
      (w.feat.syncd = false → v.feat.error ≠ w.feat.error) := by
  obtain ⟨u, hu, h⟩ := bind_eq_ok.mp h
  obtain ⟨r, -, rfl⟩ := setOrFlag_eq_ok.mp hu
  cases h
  refine ⟨⟨rfl, rfl, rfl, ⟨rfl, rfl, rfl, rfl, rfl, rfl, rfl, id⟩⟩, rfl, ?_⟩
  intro hw
  change (if v.feat.dcbxSt = dcbxSubtype2 then v.feat.error else v.feat.syncd) = false at hw
  change v.feat.error ≠ true
  split at hw
  · simp [hw]
  · simp [hs] at hw

/-- The willingness of the peer is taken over, and the feature settles or is not compatible. -/
theorem decideOper_cases (h : v.decideOper o = .ok w) :
    let u := v.withFeat { v.feat with peerWilling := v.peerFeat.willing }
    (∃ src mode, u.settle o src mode = .ok w) ∨ u.incompatible o = .ok w := by
  unfold decideOper disabled localWilling peerWilling compatible at h
  dsimp only at h
  split_ifs at h
  all_goals first | exact .inl ⟨_, _, h⟩ | exact .inr h

theorem decideOper_move (h : v.decideOper o = .ok w) (hs : v.feat.syncd = true) :
    Frame v w ∧ w.feat.featureSeqNo = v.feat.featureSeqNo ∧
      (w.feat.syncd = false → v.feat.error ≠ w.feat.error) := by
  -- Taking over the willingness of the peer is no move.
  have hvu := Frame.withFeat v (p := { v.feat with peerWilling := v.peerFeat.willing })
    ⟨rfl, rfl, rfl, rfl, rfl, rfl, rfl, id⟩
  rcases decideOper_cases h with ⟨src, mode, h⟩ | h
  · obtain ⟨hf, hn, he⟩ := settle_move h hs
    exact ⟨hvu.trans hf, hn, he⟩
  · obtain ⟨hf, hn, he⟩ := incompatible_move h hs
    exact ⟨hvu.trans hf, hn, he⟩

theorem stopOnError_move (h : v.stopOnError o = .ok w) :
    Frame v w ∧ w.feat.syncd = v.feat.syncd ∧ w.feat.featureSeqNo = v.feat.featureSeqNo ∧
      w.feat.error = v.feat.error := by
  unfold stopOnError at h
  split at h
  · obtain ⟨r, -, rfl⟩ := trySetConfiguration_eq_ok.mp h
    exact ⟨⟨rfl, rfl, rfl, ⟨rfl, rfl, rfl, rfl, rfl, rfl, rfl, id⟩⟩, rfl, rfl, rfl⟩
  · cases h
    exact ⟨.refl _, rfl, rfl, rfl⟩

theorem errProt_cases {ctrl : ControlProtocolAttribs} {err : Bool}
    (h : v.errProt o ctrl err = .ok w) :
    Frame v w ∧
      (err = v.feat.error ∧ w.feat.syncd = v.feat.syncd ∧
          w.feat.featureSeqNo = v.feat.featureSeqNo ∨
        err ≠ v.feat.error ∧ (w.feat.syncd = true → v.feat.syncd = true) ∧
          w.feat.featureSeqNo = ctrl.seqNo + 1) := by
  obtain ⟨u, hu, h⟩ := bind_eq_ok.mp h
  obtain ⟨hf, hs, hn, -⟩ := stopOnError_move hu
  -- The flag of the peer's error is no move.
  have hv : Frame v (v.withFeat { v.feat with
      errorFlag := orFlag v.feat.errorFlag featErrPeer v.peerFeat.error }) :=
    .withFeat v ⟨rfl, rfl, rfl, rfl, rfl, rfl, rfl, id⟩
  have hvu : Frame v u := hv.trans hf
  have hs' : u.feat.syncd = v.feat.syncd := hs
  have hn' : u.feat.featureSeqNo = v.feat.featureSeqNo := hn
  by_cases hc : err = v.feat.error
  · rw [if_pos hc] at h
    cases h
    exact ⟨hvu, .inl ⟨hc, hs', hn'⟩⟩
  · rw [if_neg hc] at h
    cases h
    refine ⟨hvu.trans (.withFeat u ⟨rfl, rfl, rfl, rfl, rfl, rfl, rfl, id⟩),
      .inr ⟨hc, ?_, rfl⟩⟩
    intro hw
    change (u.feat.syncd && u.feat.dcbxSt != dcbxSubtype1) = true at hw
    rw [← hs']
    exact (Bool.and_eq_true_iff.mp hw).1

/-- A feature that is out of sync after `ErrProt` has a new number, where it was out of sync
before only with a change of `Error`. -/
theorem errProt_move {ctrl : ControlProtocolAttribs} {err : Bool}
    (h : v.errProt o ctrl err = .ok w) (hs : v.feat.syncd = false → err ≠ v.feat.error) :
    Frame v w ∧ SyncedOrRenewed ctrl w.feat := by
  obtain ⟨hf, ⟨he, hsw, -⟩ | ⟨-, -, hn⟩⟩ := errProt_cases h
  · refine ⟨hf, .inl ?_⟩
    rw [hsw]
    cases hv : v.feat.syncd with
    | true => rfl
    | false => exact absurd he (hs hv)
  · refine ⟨hf, ?_⟩
    cases hw : w.feat.syncd with
    | true => exact .inl hw
    | false => exact .inr ⟨hw, hn⟩

/-! ### The machine -/

/-- How a remote change moves a feature that is advertised. `tlv` says that the peer sends
its TLV. -/
inductive RemoteMove (ctrl peerCtrl : ControlProtocolAttribs) (tlv : Bool)
    (p q : FeatureProtocolAttribs) : Prop
  /-- F6.2 -/
  | expired (hst : p.dcbxSt = dcbxSubtype2) (hx : peerCtrl.rxDcbTlvState = .expired)
      (hs : q.syncd = false) (hn : q.featureSeqNo = 1)
  /-- F8 -/
  | absent (ht : tlv = false) (hs : q.syncd = true)
  /-- The acknowledgement is not there yet. -/
  | waits (ht : tlv = true) (hp : p.syncd = false) (ha : peerCtrl.ackNo ≠ p.featureSeqNo)
      (hs : q.syncd = false) (hn : q.featureSeqNo = p.featureSeqNo)
  /-- F9.1. The number stays, or a change of `Error` takes a new one. -/
  | forced (ht : tlv = true) (ha : p.syncd = true ∨ peerCtrl.ackNo = p.featureSeqNo)
      (hf : q.forceSend = true) (hs : q.syncd = true → p.syncd = true)
      (hn : q.syncd = p.syncd ∧ q.featureSeqNo = p.featureSeqNo ∨
        q.featureSeqNo = ctrl.seqNo + 1)
  /-- F13 to F23 -/
  | decided (ht : tlv = true) (ha : p.syncd = true ∨ peerCtrl.ackNo = p.featureSeqNo)
      (hq : SyncedOrRenewed ctrl q)

theorem answered_of_not_waits {peerCtrl : ControlProtocolAttribs}
    (h : v.waits peerCtrl = false) :
    v.feat.syncd = true ∨ peerCtrl.ackNo = v.feat.featureSeqNo := by
  unfold waits at h
  cases hs : v.feat.syncd with
  | true => exact .inl rfl
  | false => exact .inr (by simpa [hs] using h)

theorem answered_move {ctrl peerCtrl : ControlProtocolAttribs}
    (h : v.answered o ctrl = .ok w)
    (ha : v.feat.syncd = true ∨ peerCtrl.ackNo = v.feat.featureSeqNo) :
    Frame v w ∧ RemoteMove ctrl peerCtrl true v.feat w.feat := by
  unfold answered at h
  split at h
  · -- F9.1: the number stays, or `ErrProt` takes a new one.
    obtain ⟨u, hu, h⟩ := bind_eq_ok.mp h
    obtain ⟨hvu, hs, hn, hf⟩ := multipleTlvs_move hu
    obtain ⟨huw, hcases⟩ := errProt_cases h
    refine ⟨hvu.trans huw, .forced rfl ha (huw.kept.forceSend hf) ?_ ?_⟩
    · rcases hcases with ⟨-, hs', -⟩ | ⟨-, hs', -⟩
      · rw [hs', hs]
        exact id
      · rw [← hs]
        exact hs'
    · rcases hcases with ⟨-, hs', hn'⟩ | ⟨-, -, hn'⟩
      · exact .inl ⟨hs'.trans hs, hn'.trans hn⟩
      · exact .inr hn'
  split at h
  · -- a new version of the feature
    cases h
    exact ⟨⟨rfl, rfl, rfl, ⟨rfl, rfl, rfl, rfl, rfl, rfl, rfl, id⟩⟩,
      .decided rfl ha (.inr ⟨rfl, rfl⟩)⟩
  dsimp only at h
  split at h
  · cases h
    exact ⟨⟨rfl, rfl, rfl, ⟨rfl, rfl, rfl, rfl, rfl, rfl, rfl, id⟩⟩,
      .decided rfl ha (.inl rfl)⟩
  · obtain ⟨u, hu, h⟩ := bind_eq_ok.mp h
    obtain ⟨hf, -, he⟩ := decideOper_move hu rfl
    obtain ⟨huw, hq⟩ := errProt_move h he
    have hv : Frame v (v.withFeat { v.feat with syncd := true }) :=
      .withFeat v ⟨rfl, rfl, rfl, rfl, rfl, rfl, rfl, id⟩
    exact ⟨(hv.trans hf).trans huw, .decided rfl ha hq⟩

theorem remoteChange_move {ctrl peerCtrl : ControlProtocolAttribs}
    (h : v.remoteChange o ctrl peerCtrl = .ok w) :
    Frame v w ∧ RemoteMove ctrl peerCtrl v.peerFeat.tlvPresent v.feat w.feat := by
  unfold remoteChange at h
  split at h
  · rename_i hx
    obtain ⟨hf, hs, hn⟩ := peerExpired_move h
    exact ⟨hf, .expired hx.1 hx.2 hs hn⟩
  split at h
  · rename_i ht
    obtain ⟨hf, hs⟩ := notPresent_move h
    exact ⟨hf, .absent (by simpa using ht) hs⟩
  rename_i ht
  have ht : v.peerFeat.tlvPresent = true := by simpa using ht
  let u := v.withFeat { v.feat with errorFlag := putFlag v.feat.errorFlag featErrNoTlv false }
  change (if u.waits peerCtrl then .ok u else u.answered o ctrl) = .ok w at h
  have hvu : Frame v u := .withFeat v ⟨rfl, rfl, rfl, rfl, rfl, rfl, rfl, id⟩
  rw [ht]
  split at h
  · rename_i hw
    have hw : v.feat.syncd = false ∧ peerCtrl.ackNo ≠ v.feat.featureSeqNo := by
      change (!v.feat.syncd && peerCtrl.ackNo != v.feat.featureSeqNo) = true at hw
      simpa using hw
    rw [← Except.ok.inj h]
    exact ⟨hvu, .waits rfl hw.1 hw.2 hw.1 rfl⟩
  · rename_i hw
    obtain ⟨hf, hmove⟩ :=
      answered_move h (answered_of_not_waits (Bool.eq_false_iff.mpr hw))
    refine ⟨hvu.trans hf, ?_⟩
    cases hmove with
    | expired hst hx hs hn => exact .expired hst hx hs hn
    | absent ht hs => exact .absent ht hs
    | waits ht hp ha hs hn => exact .waits ht hp ha hs hn
    | forced ht ha hf hs hn => exact .forced ht ha hf hs hn
    | decided ht ha hq => exact .decided ht ha hq

/-! ### Where the operational configuration comes from -/

/-- What the machine can make of the configurations of `v`: it copies the local one or that of the
peer, and it calls the driver. -/
inductive OperFrom (o : FeatureOps C) (v : Stores C) : Stores C → Prop
  | same {u : Stores C} (hloc : u.loc.config = v.loc.config)
      (hpeer : u.peer.config = v.peer.config) (hoper : u.oper.config = v.oper.config) :
      OperFrom o v u
  | flags {u : Stores C} (p : FeatureProtocolAttribs) (h : OperFrom o v u) :
      OperFrom o v (u.withFeat p)
  | copied {u : Stores C} (src : Side) (h : OperFrom o v u) :
      OperFrom o v (u.copyConfigToOper o src)
  | set {u : Stores C} {side : Side} {r : Configured C} (h : OperFrom o v u)
      (hr : o.setConfiguration side u = .ok r) : OperFrom o v (u.configured r)

namespace OperFrom

variable {u : Stores C}

theorem frame (h : OperFrom o v w) :
    w.loc.config = v.loc.config ∧ w.peer.config = v.peer.config := by
  induction h with
  | same hloc hpeer _ => exact ⟨hloc, hpeer⟩
  | flags _ _ ih => exact ih
  | copied _ _ ih => exact ih
  | set _ _ ih => exact ih

/-- What holds of the operational configuration before, of every copy, and of what
`set_configuration` leaves behind, holds afterwards. -/
theorem keeps {Q : C → Prop} (h : OperFrom o v w) (hstart : Q v.oper.config)
    (hcopy : ∀ c, Q (o.copy c v.loc.config) ∧ Q (o.copy c v.peer.config))
    (hset : ∀ u side r, Q u.oper.config → o.setConfiguration side u = .ok r → Q r.oper) :
    Q w.oper.config := by
  induction h with
  | same _ _ hoper => exact hoper ▸ hstart
  | flags _ _ ih => exact ih
  | copied src hu _ =>
    unfold copyConfigToOper
    split
    · rw [hu.frame.1]
      exact (hcopy _).1
    · rw [hu.frame.2]
      exact (hcopy _).2
  | set _ hr ih => exact hset _ _ _ ih hr

theorem trySet (hv : OperFrom o v u) (h : u.trySetConfiguration o side = .ok w) :
    OperFrom o v w := by
  obtain ⟨r, hr, rfl⟩ := trySetConfiguration_eq_ok.mp h
  exact hv.set hr

theorem orFlag (hv : OperFrom o v u) (h : u.setOrFlag o side = .ok w) : OperFrom o v w := by
  obtain ⟨r, hr, rfl⟩ := setOrFlag_eq_ok.mp h
  exact (hv.set hr).flags _

theorem settle {src : Side} {mode : Bool} (hv : OperFrom o v u)
    (h : u.settle o src mode = .ok w) : OperFrom o v w := by
  have hcopied := (hv.copied src).flags
    { u.feat with errorFlag := featErrNone, operMode := mode }
  unfold Stores.settle at h
  dsimp only at h
  split at h
  · exact (hcopied.flags _).orFlag h
  · obtain ⟨r, hr, rfl⟩ := setOrFail_eq_ok.mp h
    exact (hcopied.set hr).flags _

theorem decideOper (hv : OperFrom o v u) (h : u.decideOper o = .ok w) : OperFrom o v w := by
  have hwilling := hv.flags { u.feat with peerWilling := u.peerFeat.willing }
  rcases decideOper_cases h with ⟨src, mode, h⟩ | h
  · exact hwilling.settle h
  · obtain ⟨x, hx, h⟩ := bind_eq_ok.mp h
    cases h
    exact (((hwilling.copied .loc).flags _).orFlag hx).flags _

theorem errProt {ctrl : ControlProtocolAttribs} {err : Bool} (hv : OperFrom o v u)
    (h : u.errProt o ctrl err = .ok w) : OperFrom o v w := by
  obtain ⟨x, hx, h⟩ := bind_eq_ok.mp h
  have hstop : OperFrom o v x := by
    have hpeer := hv.flags
      { u.feat with errorFlag := Dcbx.orFlag u.feat.errorFlag featErrPeer u.peerFeat.error }
    unfold stopOnError at hx
    split at hx
    · exact (hpeer.flags _).trySet hx
    · cases hx
      exact hpeer
  cases h
  split
  · exact hstop
  · exact hstop.flags _

theorem answered {ctrl : ControlProtocolAttribs} (hv : OperFrom o v u)
    (h : u.answered o ctrl = .ok w) : OperFrom o v w := by
  unfold Stores.answered at h
  split at h
  · obtain ⟨x, hx, h⟩ := bind_eq_ok.mp h
    exact (((hv.copied .loc).flags _).orFlag hx).errProt h
  split at h
  · cases h
    exact hv.flags _
  dsimp only at h
  split at h
  · cases h
    exact hv.flags _
  · obtain ⟨x, hx, h⟩ := bind_eq_ok.mp h
    exact ((hv.flags _).decideOper hx).errProt h

theorem remoteChange {ctrl peerCtrl : ControlProtocolAttribs} (hv : OperFrom o v u)
    (h : u.remoteChange o ctrl peerCtrl = .ok w) : OperFrom o v w := by
  unfold Stores.remoteChange at h
  split at h
  · exact ((hv.copied .loc).flags _).trySet h
  split at h
  · exact ((hv.copied .loc).flags _).trySet h
  dsimp only at h
  split at h
  · cases h
    exact hv.flags _
  · exact (hv.flags _).answered h

end OperFrom

/-! ### Before the event -/

/-- The stores when the machine has looked at the flags of the TLV and left `DCB_INIT`. -/
def opened (v : Stores C) (dup : Bool) (ctrl peerCtrl : ControlProtocolAttribs) : Stores C :=
  (v.noteErrors dup (hasFlag peerCtrl.errorFlag tooManyNghbrs)).start ctrl

section Opened

variable {dup : Bool} {ctrl peerCtrl : ControlProtocolAttribs}

theorem opened_config : (v.opened dup ctrl peerCtrl).loc.config = v.loc.config := by
  unfold opened start
  split <;> rfl

theorem opened_peer : (v.opened dup ctrl peerCtrl).peer = { v.peer with
    protocol := { v.peerFeat with
      tlvPresent := v.peerFeat.tlvPresent && !hasFlag peerCtrl.errorFlag tooManyNghbrs } } := by
  unfold opened start
  split <;> rfl

theorem opened_oper : (v.opened dup ctrl peerCtrl).oper = v.oper := by
  unfold opened start
  split <;> rfl

theorem opened_of_state (h : v.feat.state ≠ .init) :
    v.opened dup ctrl peerCtrl = v.noteErrors dup (hasFlag peerCtrl.errorFlag tooManyNghbrs) :=
  if_neg h

theorem opened_of_init (h : v.feat.state = .init) :
    (v.opened dup ctrl peerCtrl).feat.state = .listen ∧
      (v.opened dup ctrl peerCtrl).feat.syncd = !v.feat.advertise ∧
      (v.opened dup ctrl peerCtrl).feat.featureSeqNo = ctrl.seqNo + 1 := by
  have h' : (v.noteErrors dup (hasFlag peerCtrl.errorFlag tooManyNghbrs)).feat.state = .init :=
    h
  unfold opened start
  rw [if_pos h']
  exact ⟨rfl, rfl, rfl⟩

theorem opened_kept :
    Kept { v.feat with state := (v.opened dup ctrl peerCtrl).feat.state }
      (v.opened dup ctrl peerCtrl).feat := by
  unfold opened start
  split
  · exact ⟨rfl, rfl, rfl, rfl, rfl, rfl, rfl, id⟩
  · exact ⟨rfl, rfl, rfl, rfl, rfl, rfl, rfl, id⟩

theorem opened_forceSend :
    (v.opened dup ctrl peerCtrl).feat.forceSend = v.feat.forceSend := by
  unfold opened start
  split <;> rfl

/-- How a local change moves a feature. A feature that waits goes on waiting. -/
structure LocalMove (ctrl : ControlProtocolAttribs) (p q : FeatureProtocolAttribs) : Prop where
  forceSend : q.forceSend = p.forceSend
  synced : p.syncd = true →
    q.syncd = (!(p.advertise || p.advertisePrev)) ∧ q.featureSeqNo = ctrl.seqNo + 1
  waiting : p.syncd = false → q.syncd = false ∧ q.featureSeqNo = p.featureSeqNo

theorem localChange_move (v : Stores C) (ctrl : ControlProtocolAttribs) :
    Frame v (v.localChange ctrl) ∧
    LocalMove ctrl v.feat (v.localChange ctrl).feat := by
  unfold localChange
  split
  · rename_i hs
    exact ⟨.withFeat v ⟨rfl, rfl, rfl, rfl, rfl, rfl, rfl, id⟩, rfl, fun _ => ⟨rfl, rfl⟩,
      fun h => absurd (hs.symm.trans h) (by decide)⟩
  · rename_i hs
    exact ⟨.refl v, rfl, fun h => absurd h hs, fun h => ⟨h, rfl⟩⟩

variable {justAdded : Bool} {st : CmdStatus}

theorem justAdded_move {α : Type} {k : Stores C → Except Fault α} {y : α}
    (h : (if justAdded then (v.copyConfigToOper o .loc).trySetConfiguration o side >>= k
      else pure v >>= k) = .ok y) :
    ∃ w, Frame v w ∧ w.feat = v.feat ∧ k w = .ok y := by
  split at h
  · obtain ⟨w, hw, h⟩ := bind_eq_ok.mp h
    obtain ⟨r, -, rfl⟩ := trySetConfiguration_eq_ok.mp hw
    exact ⟨(v.copyConfigToOper o .loc).configured r, ⟨rfl, rfl, rfl, .refl _⟩, rfl, h⟩
  · exact ⟨v, .refl v, rfl, h⟩

theorem listen_loc (h : v.listen o .loc justAdded ctrl peerCtrl = .ok (w, st)) :
    Frame v w ∧ LocalMove ctrl v.feat w.feat ∧ st = .success := by
  obtain ⟨hvu, hmove⟩ := localChange_move v ctrl
  unfold listen at h
  simp only [↓reduceIte] at h
  split at h
  · obtain ⟨x, hx, h⟩ := bind_eq_ok.mp h
    cases h
    obtain ⟨hux, hs, hn, hf⟩ := advertiseOff_move hx
    refine ⟨hvu.trans hux, ⟨hf.trans hmove.forceSend, ?_, ?_⟩, rfl⟩
    · rw [hs, hn]
      exact hmove.synced
    · rw [hs, hn]
      exact hmove.waiting
  · obtain ⟨x, hux, hf, h⟩ := justAdded_move h
    cases h
    refine ⟨hvu.trans hux, ?_, rfl⟩
    rw [hf]
    exact hmove

/-- A local change of a feature that is not advertised sets the operational store. `u` is the
stores when the driver is called. -/
theorem listen_loc_off
    (h : v.listen o .loc justAdded ctrl peerCtrl = .ok (w, st)) (ha : v.feat.advertise = false) :
    w.feat.operMode = v.feat.enable ∧ ∃ u r,
      u.loc.config = v.loc.config ∧ u.oper.config = o.copy v.oper.config v.loc.config ∧
        o.setConfiguration .loc u = .ok r ∧ w.oper.config = r.oper := by
  have hsame : (v.localChange ctrl).oper = v.oper ∧ (v.localChange ctrl).loc.config = v.loc.config ∧
      (v.localChange ctrl).feat.enable = v.feat.enable ∧
      (v.localChange ctrl).feat.advertise = v.feat.advertise := by
    unfold localChange
    split <;> exact ⟨rfl, rfl, rfl, rfl⟩
  obtain ⟨hoper, hconfig, henable, hadv⟩ := hsame
  unfold listen at h
  simp only [↓reduceIte] at h
  rw [hadv, ha] at h
  obtain ⟨x, hx, h⟩ := bind_eq_ok.mp h
  cases h
  obtain ⟨r, hr, rfl⟩ := trySetConfiguration_eq_ok.mp hx
  refine ⟨henable, _, r, ?_, ?_, hr, rfl⟩
  · exact hconfig
  change o.copy (v.localChange ctrl).oper.config (v.localChange ctrl).loc.config = _
  rw [hoper, hconfig]

theorem listen_rem (h : v.listen o .rem justAdded ctrl peerCtrl = .ok (w, st)) :
    Frame v w ∧
      ((v.feat.advertise = false ∨ versionsAgree ctrl peerCtrl = false) ∧
          w.feat.syncd = v.feat.syncd ∧ w.feat.featureSeqNo = v.feat.featureSeqNo ∧
          (st = .success ∨ versionsAgree ctrl peerCtrl = false) ∨
        v.feat.advertise = true ∧ versionsAgree ctrl peerCtrl = true ∧
          RemoteMove ctrl peerCtrl v.peerFeat.tlvPresent v.feat w.feat ∧ st = .success) := by
  unfold listen at h
  simp only [reduceCtorEq, ↓reduceIte] at h
  split at h
  · rename_i hadv
    obtain ⟨x, hx, h⟩ := bind_eq_ok.mp h
    cases h
    obtain ⟨hux, hs, hn, -⟩ := advertiseOff_move hx
    exact ⟨hux, .inl ⟨.inl (by simpa using hadv), hs, hn, .inl rfl⟩⟩
  rename_i hadv
  obtain ⟨x, hvx, hf, h⟩ := justAdded_move h
  split at h
  · rename_i hver
    cases h
    have hver : versionsAgree ctrl peerCtrl = false := by simpa using hver
    exact ⟨hvx, .inl ⟨.inr hver, by rw [hf], by rw [hf], .inr hver⟩⟩
  · rename_i hver
    obtain ⟨y, hy, h⟩ := bind_eq_ok.mp h
    cases h
    obtain ⟨hxy, hmove⟩ := remoteChange_move hy
    have ht : x.peerFeat.tlvPresent = v.peerFeat.tlvPresent :=
      congrArg (·.protocol.tlvPresent) hvx.peer
    rw [hf, ht] at hmove
    exact ⟨hvx.trans hxy,
      .inr ⟨by simpa using hadv, by simpa using hver, hmove, rfl⟩⟩

/-- How the machine ends in `DCB_LISTEN`: with F5, or with the event. A new device copies its
configuration before the event. -/
theorem listen_cases (h : v.listen o side justAdded ctrl peerCtrl = .ok (w, st)) :
    ∃ u, u = (if side = .loc then v.localChange ctrl else v) ∧
      (u.feat.advertise = false ∧ u.advertiseOff o side = .ok w ∧ st = .success ∨
        u.feat.advertise = true ∧ ∃ x,
          (justAdded = false ∧ x = u ∨
            justAdded = true ∧ (u.copyConfigToOper o .loc).trySetConfiguration o side = .ok x) ∧
          (side = .loc ∧ w = x ∧ st = .success ∨
            side = .rem ∧ w = x ∧ st = .ctrlVersNotCompatible ∨
            side = .rem ∧ versionsAgree ctrl peerCtrl = true ∧
              x.remoteChange o ctrl peerCtrl = .ok w ∧ st = .success)) := by
  refine ⟨_, rfl, ?_⟩
  unfold listen at h
  dsimp only at h
  generalize (if side = .loc then v.localChange ctrl else v) = u at h ⊢
  split at h
  · rename_i ha
    obtain ⟨x, hx, h⟩ := bind_eq_ok.mp h
    cases h
    exact .inl ⟨by simpa using ha, hx, rfl⟩
  rename_i ha
  refine .inr ⟨by simpa using ha, ?_⟩
  -- What follows for a device that is new or not
  have hrest : ∀ x, (if side = .loc then (pure (x, .success) : Except Fault (Stores C × CmdStatus))
      else if !versionsAgree ctrl peerCtrl then pure (x, .ctrlVersNotCompatible)
      else x.remoteChange o ctrl peerCtrl >>= fun v => pure (v, .success)) = .ok (w, st) →
      (side = .loc ∧ w = x ∧ st = .success ∨ side = .rem ∧ w = x ∧ st = .ctrlVersNotCompatible ∨
        side = .rem ∧ versionsAgree ctrl peerCtrl = true ∧
          x.remoteChange o ctrl peerCtrl = .ok w ∧ st = .success) := by
    intro x hx
    split at hx
    · rename_i hside
      cases hx
      exact .inl ⟨hside, rfl, rfl⟩
    rename_i hside
    have hside : side = .rem := by
      cases side with
      | loc => exact absurd rfl hside
      | rem => rfl
    split at hx
    · cases hx
      exact .inr (.inl ⟨hside, rfl, rfl⟩)
    · rename_i hver
      obtain ⟨y, hy, hx⟩ := bind_eq_ok.mp hx
      cases hx
      exact .inr (.inr ⟨hside, by simpa using hver, hy, rfl⟩)
  split at h
  · rename_i hnew
    obtain ⟨x, hx, h⟩ := bind_eq_ok.mp h
    exact ⟨x, .inr ⟨hnew, hx⟩, hrest x h⟩
  · rename_i hnew
    exact ⟨u, .inl ⟨by simpa using hnew, rfl⟩, hrest u h⟩

theorem opened_state (hst : v.feat.state ≠ .closed) :
    (v.opened dup ctrl peerCtrl).feat.state = .listen := by
  by_cases hi : v.feat.state = .init
  · exact (opened_of_init hi).1
  · rw [opened_of_state hi]
    change v.feat.state = .listen
    cases hs : v.feat.state with
    | closed => exact absurd hs hst
    | init => exact absurd hs hi
    | listen => rfl

theorem featureMachine_eq {adds : Bool} (hst : v.feat.state ≠ .closed) :
    v.featureMachine o side dup adds ctrl peerCtrl =
      (v.opened dup ctrl peerCtrl).listen o side (v.feat.state = .init ∧ adds) ctrl
        peerCtrl := by
  have hlisten : (v.opened dup ctrl peerCtrl).feat.state = .listen := opened_state hst
  change (if (v.opened dup ctrl peerCtrl).feat.state = .listen then _ else _) = _
  rw [if_pos hlisten]
  rfl

theorem featureMachine_frame {adds : Bool} (hst : v.feat.state ≠ .closed)
    (h : v.featureMachine o side dup adds ctrl peerCtrl = .ok (w, st)) :
    Frame (v.opened dup ctrl peerCtrl) w := by
  rw [featureMachine_eq hst] at h
  cases side with
  | loc => exact (listen_loc h).1
  | rem => exact (listen_rem h).1

theorem featureMachine_status {adds : Bool}
    (h : v.featureMachine o side dup adds ctrl peerCtrl = .ok (w, st)) (hst : st ≠ .success) :
    side = .rem ∧ versionsAgree ctrl peerCtrl = false := by
  by_cases hc : v.feat.state = .closed
  · -- A closed feature stays closed, and nothing runs.
    have hi : v.feat.state ≠ .init := by
      rw [hc]
      nofun
    have hl : (v.opened dup ctrl peerCtrl).feat.state ≠ .listen := by
      rw [opened_of_state hi]
      change v.feat.state ≠ .listen
      rw [hc]
      nofun
    change (if (v.opened dup ctrl peerCtrl).feat.state = .listen then _ else _) = _ at h
    rw [if_neg hl] at h
    cases h
    exact absurd rfl hst
  rw [featureMachine_eq hc] at h
  cases side with
  | loc => exact absurd (listen_loc h).2.2 hst
  | rem =>
    refine ⟨rfl, ?_⟩
    rcases (listen_rem h).2 with ⟨-, -, -, hs | hv⟩ | ⟨-, -, -, hs⟩
    · exact absurd hs hst
    · exact hv
    · exact absurd hs hst

/-- One run of the machine gives the operational configuration from before, or one that comes from
the local one or that of the peer. -/
theorem featureMachine_operFrom {adds : Bool}
    (h : v.featureMachine o side dup adds ctrl peerCtrl = .ok (w, st)) : OperFrom o v w := by
  have hopened : OperFrom o v (v.opened dup ctrl peerCtrl) :=
    .same opened_config (congrArg (·.config) opened_peer) (congrArg (·.config) opened_oper)
  change (if (v.opened dup ctrl peerCtrl).feat.state = .listen then _ else _) = _ at h
  split at h
  · obtain ⟨u, hu, hcases⟩ := listen_cases h
    have hu : OperFrom o v u := by
      rw [hu]
      unfold localChange
      split_ifs
      · exact hopened.flags _
      · exact hopened
      · exact hopened
    rcases hcases with ⟨-, hoff, -⟩ | ⟨-, x, hx, hrest⟩
    · exact ((hu.copied .loc).flags _).trySet hoff
    · have hx : OperFrom o v x := by
        rcases hx with ⟨-, rfl⟩ | ⟨-, hx⟩
        · exact hu
        · exact (hu.copied .loc).trySet hx
      rcases hrest with ⟨-, rfl, -⟩ | ⟨-, rfl, -⟩ | ⟨-, -, hrem, -⟩
      · exact hx
      · exact hx
      · exact hx.remoteChange hrem
  · cases h
    exact hopened

end Opened

end Stores

end Lldpad.Dcbx
