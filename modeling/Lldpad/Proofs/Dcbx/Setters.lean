import Lldpad.Proofs.Dcbx.Calls

/-!
# `Lldpad.Proofs.Dcbx.Setters`: what a setter writes, and what it runs

A setter writes `Enable`, `Willing`, `Advertise` and the configuration of the local stores, and
leaves the rest of the protocol variables to the machines: `LocalWrite` and `DeviceWrite`.

`write_cases` is the inversion of the four setters. A setter either runs nothing, or it names
one feature (`Put.feature`), and raises the event of that feature. `put_app` writes the
siblings of its subtype, too, but raises no event for them.
-/

namespace Lldpad.Dcbx

open Lldpad.Lib

/-! ### Writes -/

/-- Other local protocol variables, as far as a setter changes them -/
structure LocalProt (p q : FeatureProtocolAttribs) : Prop where
  state : q.state = p.state
  syncd : q.syncd = p.syncd
  featureSeqNo : q.featureSeqNo = p.featureSeqNo
  forceSend : q.forceSend = p.forceSend
  dcbxSt : q.dcbxSt = p.dcbxSt
  operMode : q.operMode = p.operMode
  error : q.error = p.error
  errorFlag : q.errorFlag = p.errorFlag
  operVersion : q.operVersion = p.operVersion
  maxVersion : q.maxVersion = p.maxVersion

theorem LocalProt.refl (p : FeatureProtocolAttribs) : LocalProt p p :=
  ⟨rfl, rfl, rfl, rfl, rfl, rfl, rfl, rfl, rfl, rfl⟩

/-- What a setter leaves alone in the stores of a feature. -/
structure LocalWrite {C : Type} (v w : Stores C) : Prop where
  peer : w.peer = v.peer
  oper : w.oper = v.oper
  hw : w.hw = v.hw
  prot : LocalProt v.feat w.feat

theorem LocalWrite.refl {C : Type} (v : Stores C) : LocalWrite v v :=
  ⟨rfl, rfl, rfl, .refl _⟩

namespace Stores

variable {C : Type} (v : Stores C) (new : FeatureProtocolAttribs) (config : C)

theorem takeLocal_write : LocalWrite v (v.takeLocal new config) :=
  ⟨rfl, rfl, rfl, ⟨rfl, rfl, rfl, rfl, rfl, rfl, rfl, rfl, rfl, rfl⟩⟩

theorem putLocal_write : LocalWrite v (v.putLocal new config) :=
  ⟨rfl, rfl, rfl, ⟨rfl, rfl, rfl, rfl, rfl, rfl, rfl, rfl, rfl, rfl⟩⟩

theorem putSibling_write : LocalWrite v (v.putSibling new) :=
  ⟨rfl, rfl, rfl, ⟨rfl, rfl, rfl, rfl, rfl, rfl, rfl, rfl, rfl, rfl⟩⟩

end Stores

/-- What a setter leaves alone in a device. -/
structure DeviceWrite (d d' : Device) : Prop where
  same : SameControl d d'
  stores : ∀ f, LocalWrite (d.get f) (d'.get f)

theorem DeviceWrite.refl (d : Device) : DeviceWrite d d := ⟨.refl d, fun _ => .refl _⟩

variable {d : Device} {persist : Persist} {f : Feature}

theorem DeviceWrite.set {v : Stores (Config f)}
    (h : LocalWrite (d.get f) v) : DeviceWrite d (d.set f v) where
  same := ⟨d.set_active f v, d.set_ctrl f v, d.set_peerCtrl f v⟩
  stores g := by
    by_cases hg : g = f
    · cases hg
      rw [Device.set_get_self]
      exact h
    · rw [d.set_get_of_ne v hg]
      exact .refl _

/-! ### Names -/

namespace Feature

/-- The event of a local change of the feature -/
def localEvent : Feature → ChangeEvent
  | .pg => .pg .loc
  | .pfc => .pfc .loc
  | .appFcoe => .app .loc 0
  | .appIscsi => .app .loc 1
  | .appFip => .app .loc 2
  | .llink => .llink .loc

/-- The subtype of the feature -/
def subtype : Feature → Nat
  | .appIscsi => 1
  | .appFip => 2
  | _ => 0

end Feature

namespace Put

/-- The feature that a setter names -/
def feature : Put → Option Feature
  | .pg .. => some .pg
  | .pfc .. => some .pfc
  | .app subtype _ => apptlvFind subtype
  | .llink subtype _ => llinkFind subtype

/-- The protocol variables that a setter is given -/
def protocol : Put → FeatureProtocolAttribs
  | .pg data _ => data.protocol
  | .pfc data => data.protocol
  | .app _ data => data.protocol
  | .llink _ data => data.protocol

end Put

/-! ### The inversion of the setters -/

theorem app_setApp (d : Device) (v : Stores AppConfig) (i j : Fin 3) :
    (d.setApp v i).app j = if j = i then v else d.app j := by
  match i, j with
  | 0, 0 | 0, 1 | 0, 2 | 1, 0 | 1, 1 | 1, 2 | 2, 0 | 2, 1 | 2, 2 => rfl

theorem LocalProt.trans {p q r : FeatureProtocolAttribs} (h : LocalProt p q)
    (h' : LocalProt q r) : LocalProt p r where
  state := h'.state.trans h.state
  syncd := h'.syncd.trans h.syncd
  featureSeqNo := h'.featureSeqNo.trans h.featureSeqNo
  forceSend := h'.forceSend.trans h.forceSend
  dcbxSt := h'.dcbxSt.trans h.dcbxSt
  operMode := h'.operMode.trans h.operMode
  error := h'.error.trans h.error
  errorFlag := h'.errorFlag.trans h.errorFlag
  operVersion := h'.operVersion.trans h.operVersion
  maxVersion := h'.maxVersion.trans h.maxVersion

theorem DeviceWrite.trans {d₁ d₂ d₃ : Device} (h : DeviceWrite d₁ d₂)
    (h' : DeviceWrite d₂ d₃) : DeviceWrite d₁ d₃ where
  same := h.same.trans h'.same
  stores f :=
    ⟨(h'.stores f).peer.trans (h.stores f).peer, (h'.stores f).oper.trans (h.stores f).oper,
      (h'.stores f).hw.trans (h.stores f).hw, (h.stores f).prot.trans (h'.stores f).prot⟩

/-- A feature keeps what it advertises. `Enable` and `Willing` may be others. -/
structure SameOffer (d d' : Device) (f : Feature) : Prop where
  advertise : (d'.prot f).advertise = (d.prot f).advertise
  advertisePrev : (d'.prot f).advertisePrev = (d.prot f).advertisePrev
  tlvSent : (d'.prot f).tlvSent = (d.prot f).tlvSent
  config : (d'.get f).loc.config = (d.get f).loc.config

theorem SameOffer.of_eq {d' : Device} (h : d'.get f = d.get f) :
    SameOffer d d' f := by
  constructor <;> simp only [Device.prot, h]

theorem SameOffer.trans {d₁ d₂ d₃ : Device} (h : SameOffer d₁ d₂ f)
    (h' : SameOffer d₂ d₃ f) : SameOffer d₁ d₃ f :=
  ⟨h'.advertise.trans h.advertise, h'.advertisePrev.trans h.advertisePrev,
    h'.tlvSent.trans h.tlvSent, h'.config.trans h.config⟩

/-- A setter raises the event of the feature that it names. -/
structure Raised (d : Device) (p : Put) (w : Write) (f : Feature) : Prop where
  feature : p.feature = some f
  run : w.run = .protocol [f.localEvent] f.subtype
  advertise : (w.dev.prot f).advertise = p.protocol.advertise
  advertisePrev : (w.dev.prot f).advertisePrev = (d.prot f).advertise
  tlvSent : (w.dev.prot f).tlvSent = false
  others : ∀ g, g ≠ f → SameOffer d w.dev g

/-- A setter runs nothing. -/
structure Unraised (d : Device) (w : Write) : Prop where
  run : w.run = .idle
  same : ∀ f, SameOffer d w.dev f
  dev : w.status = .success → w.dev = d

theorem unraised_self (d : Device) (status : CmdStatus) : Unraised d { dev := d, status } :=
  ⟨rfl, fun _ => .of_eq rfl, fun _ => rfl⟩

theorem raised_set {d₀ : Device} {p : Put} {config : Config f} (hf : p.feature = some f)
    (hd : DeviceWrite d₀ d) (hs : ∀ f, SameOffer d₀ d f) :
    Raised d₀ p { dev := d.set f ((d.get f).putLocal p.protocol config)
                  run := .protocol [f.localEvent] f.subtype } f ∧
      DeviceWrite d₀ (d.set f ((d.get f).putLocal p.protocol config)) := by
  refine ⟨⟨hf, rfl, ?_, ?_, ?_, ?_⟩, hd.trans (.set (Stores.putLocal_write ..))⟩
  · rw [Device.prot, Device.set_get_self]
    rfl
  · rw [Device.prot, Device.set_get_self, ← (hs f).advertise]
    rfl
  · rw [Device.prot, Device.set_get_self]
    rfl
  · intro g hg
    exact (hs g).trans (.of_eq (d.set_get_of_ne _ hg))

theorem putSibling_write (d : Device) (i : Fin 3) (new : FeatureProtocolAttribs) :
    DeviceWrite d (d.setApp ((d.app i).putSibling new) i) ∧
      ∀ f, SameOffer d (d.setApp ((d.app i).putSibling new) i) f := by
  -- An application is a feature, and `putSibling` keeps its offer.
  have hset : ∀ {f : Feature} {v : Stores (Config f)}, LocalWrite (d.get f) v →
      v.feat.advertise = (d.prot f).advertise → v.feat.advertisePrev = (d.prot f).advertisePrev →
      v.feat.tlvSent = (d.prot f).tlvSent → v.loc.config = (d.get f).loc.config →
      DeviceWrite d (d.set f v) ∧ ∀ g, SameOffer d (d.set f v) g := by
    intro f v hv h₁ h₂ h₃ h₄
    refine ⟨.set hv, fun g => ?_⟩
    by_cases hg : g = f
    · cases hg
      constructor <;> simpa only [Device.prot, Device.set_get_self]
    · exact .of_eq (d.set_get_of_ne v hg)
  match i with
  | 0 => exact hset (f := .appFcoe) (Stores.putSibling_write ..) rfl rfl rfl rfl
  | 1 => exact hset (f := .appIscsi) (Stores.putSibling_write ..) rfl rfl rfl rfl
  | 2 => exact hset (f := .appFip) (Stores.putSibling_write ..) rfl rfl rfl rfl

theorem putSiblings_write {new : FeatureProtocolAttribs}
    {is : List (Fin 3)} {d' : Device} {ok : Bool} (h : putSiblings persist new is d = (d', ok)) :
    DeviceWrite d d' ∧ ∀ f, SameOffer d d' f := by
  induction is generalizing d with
  | nil =>
    cases h
    exact ⟨.refl _, fun _ => .of_eq rfl⟩
  | cons i is ih =>
    obtain ⟨hd, hs⟩ := putSibling_write d i new
    unfold putSiblings at h
    dsimp only at h
    split at h
    · obtain ⟨hd', hs'⟩ := ih h
      exact ⟨hd.trans hd', fun f => (hs f).trans (hs' f)⟩
    · cases h
      exact ⟨hd, hs⟩

theorem writeApp_cases {subtype : Nat} {data : Attribs AppConfig} :
    DeviceWrite d (writeApp persist subtype data d).dev ∧
      (Unraised d (writeApp persist subtype data d) ∨
        ∃ f, Raised d (.app subtype data) (writeApp persist subtype data d) f) := by
  unfold writeApp
  split
  · rename_i hi
    dsimp only
    split
    · exact ⟨.refl d, .inl (unraised_self d _)⟩
    split
    · exact ⟨.refl d, .inl (unraised_self d _)⟩
    generalize hsib : putSiblings persist data.protocol (siblings ⟨subtype, hi⟩) d = r
    obtain ⟨d₁, ok⟩ := r
    obtain ⟨hd, hs⟩ := putSiblings_write hsib
    split
    · exact ⟨hd, .inl ⟨rfl, hs, nofun⟩⟩
    · match subtype, hi with
      | 0, _ =>
        obtain ⟨hr, hw⟩ := raised_set (p := .app 0 data) (f := .appFcoe) rfl hd hs
        exact ⟨hw, .inr ⟨.appFcoe, hr⟩⟩
      | 1, _ =>
        obtain ⟨hr, hw⟩ := raised_set (p := .app 1 data) (f := .appIscsi) rfl hd hs
        exact ⟨hw, .inr ⟨.appIscsi, hr⟩⟩
      | 2, _ =>
        obtain ⟨hr, hw⟩ := raised_set (p := .app 2 data) (f := .appFip) rfl hd hs
        exact ⟨hw, .inr ⟨.appFip, hr⟩⟩
  · exact ⟨.refl d, .inl (unraised_self d _)⟩

/-- What a setter writes and what it runs -/
theorem write_cases {p : Put} {w : Write} (h : p.write persist d = .ok w) :
    DeviceWrite d w.dev ∧ (Unraised d w ∨ ∃ f, Raised d p w f) := by
  cases p with
  | pg data pfcData =>
    have h : writePg persist data pfcData d = .ok w := h
    unfold writePg at h
    split at h
    · cases h
      exact ⟨.refl d, .inl (unraised_self d _)⟩
    obtain ⟨⟨config, status⟩, -, h⟩ := bind_eq_ok.mp h
    dsimp only at h
    split at h
    · cases h
      exact ⟨.refl d, .inl (unraised_self d _)⟩
    split at h
    · cases h
      exact ⟨.refl d, .inl (unraised_self d _)⟩
    · cases h
      obtain ⟨hr, hw⟩ := raised_set (p := .pg data pfcData) (f := .pg) rfl (.refl d)
        (fun _ => .of_eq rfl)
      exact ⟨hw, .inr ⟨.pg, hr⟩⟩
  | pfc data =>
    have h : Except.ok (writePfc persist data d) = .ok w := h
    rw [← Except.ok.inj h]
    unfold writePfc
    split
    · exact ⟨.refl d, .inl (unraised_self d _)⟩
    split
    · exact ⟨.refl d, .inl (unraised_self d _)⟩
    · obtain ⟨hr, hw⟩ := raised_set (p := .pfc data) (f := .pfc) rfl (.refl d)
        (fun _ => .of_eq rfl)
      exact ⟨hw, .inr ⟨.pfc, hr⟩⟩
  | app subtype data =>
    have h : Except.ok (writeApp persist subtype data d) = .ok w := h
    rw [← Except.ok.inj h]
    exact writeApp_cases
  | llink subtype data =>
    have h : Except.ok (writeLlink persist subtype data d) = .ok w := h
    rw [← Except.ok.inj h]
    unfold writeLlink
    split
    · rename_i hsub
      split
      · exact ⟨.refl d, .inl (unraised_self d _)⟩
      split
      · exact ⟨.refl d, .inl (unraised_self d _)⟩
      · cases hsub
        obtain ⟨hr, hw⟩ := raised_set (p := .llink 0 data) (f := .llink) rfl (.refl d)
          (fun _ => .of_eq rfl)
        exact ⟨hw, .inr ⟨.llink, hr⟩⟩
    · exact ⟨.refl d, .inl (unraised_self d _)⟩

end Lldpad.Dcbx
