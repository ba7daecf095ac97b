import Lldpad.Proofs.Dcbx.Station

/-!
# `Lldpad.Proofs.Dcbx.Versions`: the versions of a device

The versions of a new device are zero, and nothing raises the highest one. The version in use
never exceeds it. `versions_of_reachable` is the invariant: every version of a station is zero,
and all its features run the DCBX version that the station runs.
-/

namespace Lldpad.Dcbx

open Lldpad.Lib

/-! ### The version in use, through the machine -/

namespace Stores

variable {C : Type} {o : FeatureOps C} {side : Side} {v w : Stores C}

/-- The version in use is at most the highest one. -/
def Level (v : Stores C) : Prop := v.feat.operVersion ≤ v.feat.maxVersion

theorem setOrFlag_level (h : v.setOrFlag o side = .ok w) (hv : v.Level) : w.Level := by
  obtain ⟨r, -, rfl⟩ := setOrFlag_eq_ok.mp h
  exact hv

theorem trySetConfiguration_level (h : v.trySetConfiguration o side = .ok w) (hv : v.Level) :
    w.Level := by
  obtain ⟨r, -, rfl⟩ := trySetConfiguration_eq_ok.mp h
  exact hv

theorem settle_level {src : Side} {mode : Bool} (h : v.settle o src mode = .ok w)
    (hv : v.Level) : w.Level := by
  unfold settle at h
  dsimp only at h
  split at h
  · exact setOrFlag_level h hv
  · obtain ⟨r, -, rfl⟩ := setOrFail_eq_ok.mp h
    exact hv

theorem decideOper_level (h : v.decideOper o = .ok w) (hv : v.Level) : w.Level := by
  rcases decideOper_cases h with ⟨src, mode, h⟩ | h
  · exact settle_level h hv
  · obtain ⟨u, hu, h⟩ := bind_eq_ok.mp h
    cases h
    have hu : u.Level := setOrFlag_level hu hv
    exact hu

theorem errProt_level {ctrl : ControlProtocolAttribs} {err : Bool}
    (h : v.errProt o ctrl err = .ok w) (hv : v.Level) : w.Level := by
  obtain ⟨u, hu, h⟩ := bind_eq_ok.mp h
  have hu : u.Level := by
    unfold stopOnError at hu
    split at hu
    · exact trySetConfiguration_level hu hv
    · cases hu
      exact hv
  split at h
  · cases h
    exact hu
  · cases h
    exact hu

variable {ctrl peerCtrl : ControlProtocolAttribs}

theorem remoteChange_level
    (h : v.remoteChange o ctrl peerCtrl = .ok w) (hv : v.Level) : w.Level := by
  unfold remoteChange at h
  split at h
  · exact trySetConfiguration_level h hv
  split at h
  · -- F8 goes back to the highest version.
    refine trySetConfiguration_level h ?_
    exact Nat.le_refl _
  dsimp only at h
  split at h
  · cases h
    exact hv
  unfold answered at h
  split at h
  · obtain ⟨u, hu, h⟩ := bind_eq_ok.mp h
    exact errProt_level h (setOrFlag_level hu hv)
  split at h
  · cases h
    exact Nat.min_le_right _ _
  dsimp only at h
  split at h
  · cases h
    exact hv
  · obtain ⟨u, hu, h⟩ := bind_eq_ok.mp h
    exact errProt_level h (decideOper_level hu hv)

theorem listen_level {justAdded : Bool}
    {st : CmdStatus} (h : v.listen o side justAdded ctrl peerCtrl = .ok (w, st))
    (hv : v.Level) : w.Level := by
  have hchange : (v.localChange ctrl).Level := by
    unfold localChange
    split <;> exact hv
  have hv : (if side = .loc then v.localChange ctrl else v).Level := by
    split
    · exact hchange
    · exact hv
  unfold listen at h
  dsimp only at h
  generalize (if side = .loc then v.localChange ctrl else v) = u at h hv
  split at h
  · obtain ⟨x, hx, h⟩ := bind_eq_ok.mp h
    cases h
    exact trySetConfiguration_level hx hv
  obtain ⟨x, -, hf, h⟩ := justAdded_move h
  have hx : x.Level := by
    unfold Level
    rw [hf]
    exact hv
  split at h
  · cases h
    exact hx
  split at h
  · cases h
    exact hx
  · obtain ⟨y, hy, h⟩ := bind_eq_ok.mp h
    cases h
    exact remoteChange_level hy hx

theorem featureMachine_level {dup adds : Bool} {st : CmdStatus} (hst : v.feat.state ≠ .closed)
    (h : v.featureMachine o side dup adds ctrl peerCtrl = .ok (w, st)) (hv : v.Level) :
    w.Level := by
  rw [featureMachine_eq hst] at h
  refine listen_level h ?_
  unfold opened start
  split
  · exact Nat.le_refl _
  · exact hv

end Stores

/-! ### The invariant -/

/-- The versions of a feature are zero, and it runs the DCBX version `st`. -/
structure FeatureVersion (st : Nat) (p : FeatureProtocolAttribs) : Prop where
  maxVersion : p.maxVersion = 0
  operVersion : p.operVersion = 0
  dcbxSt : p.dcbxSt = st

/-- The versions of the control machine are zero. -/
structure ControlVersion (c : ControlProtocolAttribs) : Prop where
  maxVersion : c.maxVersion = 0
  operVersion : c.operVersion = 0

/-- The versions of a device that runs the DCBX version `st` -/
structure Versions (st : Nat) (d : Device) : Prop where
  feat : ∀ f, FeatureVersion st (d.prot f)
  ctrl : ControlVersion d.ctrl

section Versions

variable {drv : Driver} {d d' : Device} {st : Nat}

theorem Versions.calls {calls : List (ChangeEvent × Nat)} (h : Versions st d)
    (halive : Alive d) (hcalls : Calls drv d calls d') : Versions st d' := by
  -- The calls before this one leave a device that is alive, and has these versions.
  induction hcalls with
  | nil d => exact h
  | skip _ _ ih => exact ih h halive
  | @call d d₁ d' call calls status hc _ ih =>
    have halive₁ : Alive d₁ := halive.calls (.call hc (.nil d₁))
    refine ih ?_ halive₁
    obtain ⟨hsame, hget⟩ := runFeatureProtocol_frame hc
    refine ⟨fun f => ?_, by rw [hsame.ctrl]; exact h.ctrl⟩
    by_cases hf : target call = some f
    · cases ha : d.active with
      | false =>
        rw [Calls.inactive (.call hc (.nil d₁)) ha]
        exact h.feat f
      | true =>
        obtain ⟨v, hv, rfl⟩ := (runFeatureProtocol_eq_ok ha hf).mp hc
        have hkept := (Stores.featureMachine_frame (halive.feat f) hv).kept
        have hopened : Stores.Kept { (d.get f).feat with
            state := ((d.get f).opened (dupOf d f) d.ctrl d.peerCtrl).feat.state }
            ((d.get f).opened (dupOf d f) d.ctrl d.peerCtrl).feat := Stores.opened_kept
        have hlevel := Stores.featureMachine_level (halive.feat f) hv (by
          unfold Stores.Level
          rw [(h.feat f).operVersion]
          exact Nat.zero_le _)
        have hmax : v.feat.maxVersion = 0 :=
          (hkept.maxVersion.trans hopened.maxVersion).trans (h.feat f).maxVersion
        rw [Device.prot, Device.set_get_self]
        refine ⟨hmax, ?_, (hkept.dcbxSt.trans hopened.dcbxSt).trans (h.feat f).dcbxSt⟩
        exact Nat.le_zero.mp (hmax ▸ hlevel)
    · rw [Device.prot, hget f hf]
      exact h.feat f

theorem ControlVersion.start (h : ControlVersion d.ctrl) :
    ControlVersion (controlStart d).ctrl := by
  unfold controlStart
  split
  · exact ⟨h.maxVersion, h.maxVersion⟩
  · exact h

theorem ControlVersion.send {b : Bool} (h : ControlVersion d.ctrl) :
    ControlVersion (controlSend b d).ctrl := by
  rcases controlSend_cases b d with ⟨-, h'⟩ | ⟨-, h'⟩
  · rw [h'.ctrl]
    exact ⟨h.maxVersion, h.operVersion⟩
  · rw [h'.ctrl]
    exact h

theorem ControlVersion.remote (h : ControlVersion d.ctrl) :
    ControlVersion (controlRemote d).ctrl := by
  have hreset : ControlVersion (resetNumbers d).ctrl := ⟨h.maxVersion, h.maxVersion⟩
  unfold controlRemote
  dsimp only
  split
  · split
    · exact hreset
    · exact hreset.send
  split
  · exact h.send
  split
  · refine ControlVersion.send ⟨h.maxVersion, ?_⟩
    change min _ d.ctrl.maxVersion = 0
    rw [h.maxVersion]
    exact Nat.min_zero _
  split
  · exact h.send
  · refine ControlVersion.send ?_
    unfold takeAck
    dsimp only
    split
    · exact ⟨h.maxVersion, h.operVersion⟩
    · exact ⟨h.maxVersion, h.operVersion⟩

theorem ControlVersion.run {flags : EventFlag} (h : ControlVersion d.ctrl) :
    ControlVersion (runControlProtocol d flags).ctrl := by
  unfold runControlProtocol
  dsimp only
  split
  · exact h
  split
  · exact h.start
  split
  · split
    · rw [(sendNew_spec _).ctrl]
      exact ⟨h.start.maxVersion, h.start.operVersion⟩
    · exact h.start
  split
  · exact h.start.remote
  · exact h.start

theorem Versions.control {flags : EventFlag} (h : Versions st d) :
    Versions st (runControlProtocol d flags) := by
  refine ⟨fun f => ?_, h.ctrl.run⟩
  rcases (runControlProtocol_kept d flags).get with hget | hget
  · rw [Device.prot, hget f]
    exact h.feat f
  · rw [Device.prot, hget f]
    exact ⟨(h.feat f).maxVersion, (h.feat f).operVersion, (h.feat f).dcbxSt⟩

theorem Versions.write {s : Station} {persist : Persist} {e : Event} {w : Write}
    (h : Versions st s.dev) (hw : e.write persist s = .ok w) : Versions st w.dev := by
  constructor
  · intro f
    have hprot := (event_kept hw).prot f
    exact ⟨hprot.maxVersion.trans (h.feat f).maxVersion,
      hprot.operVersion.trans (h.feat f).operVersion, hprot.dcbxSt.trans (h.feat f).dcbxSt⟩
  · rcases event_ctrl hw with hc | ⟨attribs, state, -, hc⟩
    · rw [hc]
      exact h.ctrl
    · rw [hc]
      exact ⟨rfl, rfl⟩

theorem Versions.finished {w : Write} {mid dev : Device} (h : Versions st w.dev)
    (halive : Alive w.dev) (hfin : Finished drv w mid dev) :
    Versions st mid ∧ Versions st dev := by
  rcases hfin with ⟨-, rfl, rfl⟩ | ⟨-, -, hcalls, rfl⟩
  · exact ⟨h, h⟩
  · have hmid := h.calls halive hcalls
    exact ⟨hmid, hmid.control⟩

theorem versions_of_fresh {attribs : FullDcbAttribs} {state : DcbxState}
    (h : newDevice st attribs state = .ok d) : Versions st d := by
  obtain ⟨a, -, h⟩ := bind_eq_ok.mp h
  have h : newStores st a state = d := Except.ok.inj h
  rw [← h]
  refine ⟨fun f => ?_, ⟨rfl, rfl⟩⟩
  cases f <;> exact ⟨rfl, rfl, rfl⟩

theorem versions_of_reachable {s : Station} (h : dcbxSystem.Reachable s) :
    Versions s.dcbxSt s.dev := by
  have hboth : Alive s.dev ∧ Versions s.dcbxSt s.dev := by
    refine h.invariant (I := fun s => Alive s.dev ∧ Versions s.dcbxSt s.dev) ?_ ?_
    · rintro s ⟨attribs, state, hs, -⟩
      exact ⟨alive_of_fresh hs, versions_of_fresh hs⟩
    · intro s i t ⟨halive, hs⟩ hstep
      obtain ⟨w, hw, hfin, hst, -⟩ := step_cases hstep
      rw [hst]
      exact ⟨((halive.write hw).finished hfin).2,
        ((hs.write hw).finished (halive.write hw) hfin).2⟩
  exact hboth.2

end Versions

end Lldpad.Dcbx
