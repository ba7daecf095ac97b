import Mathlib.Tactic.SplitIfs
import Lldpad.Dcbx.Tlv
import Lldpad.Proofs.Dcbx.Control

/-!
# `Lldpad.Proofs.Dcbx.Peer`: what a frame of the peer writes

A frame and the expiry of the peer write the stores of the peer and its control attributes.
`PeerWrite` is what they leave alone: the local stores, the operational ones, and the control
machine. `readManifest_write` and `expirePeer_write` say so for a whole frame and for the
expiry.
-/

namespace Lldpad.Dcbx

open Lldpad.Lib
open Lldpad.Lldp (Bytes)

/-- What a write of the peer leaves alone in the stores of a feature. -/
structure PeerKept {C : Type} (v w : Stores C) : Prop where
  loc : w.loc = v.loc
  oper : w.oper = v.oper
  hw : w.hw = v.hw

theorem PeerKept.refl {C : Type} (v : Stores C) : PeerKept v v := ⟨rfl, rfl, rfl⟩

/-- What a write of the peer leaves alone in a device. -/
structure PeerWrite (d d' : Device) : Prop where
  active : d'.active = d.active
  ctrl : d'.ctrl = d.ctrl
  stores : ∀ f, PeerKept (d.get f) (d'.get f)

theorem PeerWrite.refl (d : Device) : PeerWrite d d := ⟨rfl, rfl, fun _ => .refl _⟩

theorem PeerWrite.trans {d₁ d₂ d₃ : Device} (h : PeerWrite d₁ d₂) (h' : PeerWrite d₂ d₃) :
    PeerWrite d₁ d₃ where
  active := h'.active.trans h.active
  ctrl := h'.ctrl.trans h.ctrl
  stores f := ⟨(h'.stores f).loc.trans (h.stores f).loc,
    (h'.stores f).oper.trans (h.stores f).oper, (h'.stores f).hw.trans (h.stores f).hw⟩

theorem PeerWrite.set (d : Device) (f : Feature) (new : FeatureProtocolAttribs)
    (config : Config f) : PeerWrite d (d.set f ((d.get f).takePeer new config)) where
  active := d.set_active f _
  ctrl := d.set_ctrl f _
  stores g := by
    by_cases hg : g = f
    · cases hg
      rw [Device.set_get_self]
      exact ⟨rfl, rfl, rfl⟩
    · rw [d.set_get_of_ne _ hg]
      exact .refl _

/-! ### The stores -/

theorem putPeerPg_write (data : Attribs PgConfig) (d : Device) :
    PeerWrite d (putPeerPg data d) := by
  unfold putPeerPg
  dsimp only
  -- The attributes are rebalanced first, and then compared.
  generalize (if data.protocol.dcbxSt = dcbxSubtype2 then
    { data with config := rebalanceUppcts data.config } else data) = new
  split
  · exact .refl d
  · exact .set d .pg _ _

theorem putPeerPfc_write (data : Attribs PfcConfig) (d : Device) :
    PeerWrite d (putPeerPfc data d) := by
  unfold putPeerPfc
  split
  · exact .refl d
  · exact .set d .pfc _ _

theorem putPeerLlink_write (data : Attribs LlinkConfig) (d : Device) :
    PeerWrite d (putPeerLlink data d) := by
  unfold putPeerLlink
  split
  · exact .refl d
  · exact .set d .llink _ _

theorem putPeerApp_write (subtype : Nat) (data : Attribs AppConfig) (d : Device) :
    PeerWrite d (putPeerApp subtype data d) := by
  unfold putPeerApp
  split
  · rename_i hi
    dsimp only
    split
    · exact .refl d
    · match subtype, hi with
      | 0, _ => exact .set d .appFcoe _ _
      | 1, _ => exact .set d .appIscsi _ _
      | 2, _ => exact .set d .appFip _ _
  · exact .refl d

theorem putPeerControl_write (data : ControlProtocolAttribs) (d : Device) :
    PeerWrite d (putPeerControl data d) := by
  unfold putPeerControl
  split
  · exact ⟨rfl, rfl, fun f => by cases f <;> exact ⟨rfl, rfl, rfl⟩⟩
  · exact ⟨rfl, rfl, fun f => by cases f <;> exact ⟨rfl, rfl, rfl⟩⟩

/-! ### A frame -/

variable {rx : RxInfo} {m : Manifest} {d d' : Device}

theorem processDcbxCtrlTlv_write (rx : RxInfo) (info : Bytes) (d : Device) :
    PeerWrite d (processDcbxCtrlTlv rx info d) := by
  unfold processDcbxCtrlTlv
  split
  · exact .refl d
  · exact putPeerControl_write _ d

theorem processDcbxPgTlv_write {info : Bytes} {ok : Bool}
    (h : processDcbxPgTlv rx info d = .ok (d', ok)) : PeerWrite d d' := by
  unfold processDcbxPgTlv at h
  dsimp only at h
  split at h
  · split at h
    · cases h
      exact .refl _
    split at h
    · cases h
    · cases h
      exact putPeerPg_write _ d
  · split at h
    · cases h
      exact .refl _
    · cases h
      exact putPeerPg_write _ d

theorem notPresentPg_write (d : Device) : PeerWrite d (notPresentPg d) := by
  unfold notPresentPg
  split
  · exact putPeerPg_write _ d
  · exact .refl d

theorem notPresentPfc_write (d : Device) : PeerWrite d (notPresentPfc d) := by
  unfold notPresentPfc
  split
  · exact putPeerPfc_write _ d
  · exact .refl d

theorem notPresentLlink_write (d : Device) : PeerWrite d (notPresentLlink d) := by
  unfold notPresentLlink
  split
  · exact putPeerLlink_write _ d
  · exact .refl d

theorem readPg_write (h : readPg rx m d = .ok d') : PeerWrite d d' := by
  unfold readPg at h
  split at h
  · cases h
    exact notPresentPg_write d
  · obtain ⟨⟨d₁, ok⟩, hd, h⟩ := bind_eq_ok.mp h
    cases h
    have hw := processDcbxPgTlv_write hd
    split
    · exact hw
    · exact hw.trans (notPresentPg_write d₁)

theorem readPfc_write (rx : RxInfo) (m : Manifest) (d : Device) :
    PeerWrite d (readPfc rx m d) := by
  have hprocess : ∀ info, PeerWrite d (processDcbxPfcTlv rx info d).1 := by
    intro info
    unfold processDcbxPfcTlv
    generalize decide (rx.dcbxSt = dcbxSubtype2) = cee
    dsimp only
    split_ifs
    · exact .refl d
    · exact putPeerPfc_write _ d
    · exact .refl d
    · exact putPeerPfc_write _ d
  unfold readPfc
  split
  · exact notPresentPfc_write d
  · dsimp only
    split
    · exact hprocess _
    · exact (hprocess _).trans (notPresentPfc_write _)

theorem readLlink_write (rx : RxInfo) (m : Manifest) (d : Device) :
    PeerWrite d (readLlink rx m d) := by
  have hprocess : ∀ info, PeerWrite d (processDcbxLlinkTlv rx info d).1 := by
    intro info
    unfold processDcbxLlinkTlv
    split
    · exact .refl d
    · exact putPeerLlink_write _ d
  unfold readLlink
  split
  · exact notPresentLlink_write d
  · dsimp only
    split
    · exact hprocess _
    · exact (hprocess _).trans (notPresentLlink_write _)

theorem readAppEntries_write (protocol : FeatureProtocolAttribs) (info : Bytes) (s : AppLoop) :
    PeerWrite s.dev (readAppEntries protocol info s).dev := by
  induction info, s using readAppEntries.induct protocol with
  | case1 p0 p1 b o1 o2 up rest s sel hskip ih =>
    rw [readAppEntries, if_pos hskip]
    exact ih
  | case2 p0 p1 b o1 o2 up rest s sel hskip s' ih =>
    rw [readAppEntries, if_neg hskip]
    -- The entry settles the subtype before anything is written.
    have hdev : PeerWrite s.dev s'.dev := by
      dsimp only [s']
      split <;> exact .refl _
    exact hdev.trans ((putPeerApp_write ..).trans ih)
  | case3 s info hshort =>
    rw [readAppEntries]
    · exact .refl _
    · exact hshort

theorem nullApps_write (found : List Nat) (d : Device) : PeerWrite d (nullApps found d) := by
  have hfold : ∀ (is : List Nat) (d : Device), PeerWrite d
      (is.foldl (fun d i => if i ∈ found then d else putPeerApp i nullApp d) d) := by
    intro is
    induction is with
    | nil => exact PeerWrite.refl
    | cons i is ih =>
      intro d
      rw [List.foldl_cons]
      refine .trans ?_ (ih _)
      split
      · exact .refl d
      · exact putPeerApp_write i nullApp d
  exact hfold _ d

theorem processDcbxAppTlv_write (rx : RxInfo) (info : Bytes) (d : Device) :
    PeerWrite d (processDcbxAppTlv rx info d).1 := by
  unfold processDcbxAppTlv
  split
  · exact .refl d
  split
  · exact (readAppEntries_write _ _ { dev := d }).trans (nullApps_write _ _)
  split
  · split
    · exact .refl d
    · exact putPeerApp_write _ _ d
  · exact .refl d

theorem readApp_write (rx : RxInfo) (m : Manifest) (d : Device) :
    PeerWrite d (readApp rx m d).1 := by
  unfold readApp
  split
  · exact nullApps_write [] d
  · exact processDcbxAppTlv_write rx _ d

theorem readManifest_write {apps : Bool} (h : readManifest rx m d = .ok (d', apps)) :
    PeerWrite d d' := by
  obtain ⟨d₁, hpg, h⟩ := bind_eq_ok.mp h
  cases h
  refine .trans ?_ ((readPg_write hpg).trans ((readPfc_write rx m d₁).trans
    ((readApp_write rx m _).trans (readLlink_write rx m _))))
  split
  · exact .refl d
  · exact processDcbxCtrlTlv_write rx _ d

/-! ### The expiry -/

theorem goneApp_write (d : Device) (i : Fin 3) : PeerWrite d (goneApp d i) := by
  unfold goneApp
  split
  · exact putPeerApp_write _ _ d
  · exact .refl d

theorem expirePeer_write (d : Device) : PeerWrite d (expirePeer d) := by
  have hfold : ∀ (is : List (Fin 3)) (d : Device), PeerWrite d (is.foldl goneApp d) := by
    intro is
    induction is with
    | nil => exact PeerWrite.refl
    | cons i is ih =>
      intro d
      exact (goneApp_write d i).trans (ih _)
  exact (notPresentPg_write d).trans ((notPresentPfc_write _).trans ((hfold _ _).trans
    ((notPresentLlink_write _).trans (putPeerControl_write _ _))))

end Lldpad.Dcbx
