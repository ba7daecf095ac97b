import Lldpad.Proofs.Dcbx.Setters

/-!
# `Lldpad.Proofs.Dcbx.Control`: what the control state machine does

The control machine has one way to change a feature: before a new sequence number,
`update_feature_syncd` takes the features for synced that are not advertised or that have
`force_send`. `controlSend_cases` says when, `runControlProtocol_loc` and
`runControlProtocol_rem` what the machine does for a local and for a remote change.
-/

namespace Lldpad.Dcbx

open Lldpad.Lib

/-- The stores of no feature change, and `ctrl` and `peerCtrl` are the ones given. -/
structure OnlyControl (d d' : Device) (ctrl peerCtrl : ControlProtocolAttribs) : Prop where
  active : d'.active = d.active
  ctrl : d'.ctrl = ctrl
  peerCtrl : d'.peerCtrl = peerCtrl
  get : ∀ f, d'.get f = d.get f

/-- A new sequence number is taken. -/
structure TookNumber (d d' : Device) (ctrl peerCtrl : ControlProtocolAttribs) : Prop where
  active : d'.active = d.active
  ctrl : d'.ctrl = { ctrl with seqNo := ctrl.seqNo + 1 }
  peerCtrl : d'.peerCtrl = peerCtrl
  get : ∀ f, d'.get f = (d.get f).withFeat (updateSyncd (d.prot f))

theorem featuresSynched_iff {d : Device} :
    featuresSynched d = true ↔ ∀ f, (d.prot f).state = .listen →
      (d.prot f).syncd = true ∧ (d.prot f).tlvSent = true := by
  unfold featuresSynched
  rw [List.all_eq_true]
  constructor
  · intro h f hf
    have hf' := h f (Device.mem_features f)
    simpa [hf] using hf'
  · intro h f _
    by_cases hf : (d.prot f).state = .listen
    · simp [h f hf]
    · simp [hf]

theorem sendNew_spec (d : Device) : TookNumber d (sendNew d) d.ctrl d.peerCtrl :=
  ⟨rfl, rfl, rfl, fun f => Device.mapProt_get d updateSyncd f⟩

theorem controlSend_cases (b : Bool) (d : Device) :
    newToSend d = true ∧ TookNumber d (controlSend b d) d.ctrl d.peerCtrl ∨
      newToSend d = false ∧ OnlyControl d (controlSend b d) d.ctrl d.peerCtrl := by
  unfold controlSend
  cases hn : newToSend d with
  | true =>
    rw [if_pos rfl]
    exact .inl ⟨rfl, sendNew_spec d⟩
  | false =>
    refine .inr ⟨rfl, ?_⟩
    rw [if_neg (by decide)]
    cases b with
    | true => exact ⟨rfl, rfl, rfl, fun f => by cases f <;> rfl⟩
    | false => exact ⟨rfl, rfl, rfl, fun f => rfl⟩

theorem controlStart_spec (d : Device) :
    OnlyControl d (controlStart d) (controlStart d).ctrl d.peerCtrl ∧
      (controlStart d).ctrl.seqNo = d.ctrl.seqNo ∧
      (controlStart d).ctrl.myAckNo = d.ctrl.myAckNo ∧
      ((controlStart d).ctrl.state = .listen ∨ d.ctrl.state = .closed) := by
  unfold controlStart
  split
  · exact ⟨⟨rfl, rfl, rfl, fun f => by cases f <;> rfl⟩, rfl, rfl, .inl rfl⟩
  · rename_i hi
    refine ⟨⟨rfl, rfl, rfl, fun f => rfl⟩, rfl, rfl, ?_⟩
    cases hs : d.ctrl.state with
    | closed => exact .inr rfl
    | init => exact absurd hs hi
    | listen => exact .inl rfl

theorem OnlyControl.trans {d₁ d₂ d₃ : Device} {c₁ c₂ p₁ p₂ : ControlProtocolAttribs}
    (h : OnlyControl d₁ d₂ c₁ p₁) (h' : OnlyControl d₂ d₃ c₂ p₂) : OnlyControl d₁ d₃ c₂ p₂ :=
  ⟨h'.active.trans h.active, h'.ctrl, h'.peerCtrl, fun f => (h'.get f).trans (h.get f)⟩

/-- What the control machine does at the label `send` -/
def Sends (d d' : Device) : Prop :=
  newToSend d = true ∧ TookNumber d d' d.ctrl d.peerCtrl ∨
    newToSend d = false ∧ OnlyControl d d' d.ctrl d.peerCtrl

theorem runControlProtocol_loc {d : Device} {flags : EventFlag} (ha : d.active = true)
    (hs : d.ctrl.state ≠ .closed) (hloc : flags.any (·.side = .loc) = true) :
    ∃ d₁, OnlyControl d d₁ d₁.ctrl d.peerCtrl ∧ d₁.ctrl.state = .listen ∧
      d₁.ctrl.seqNo = d.ctrl.seqNo ∧ d₁.ctrl.myAckNo = d.ctrl.myAckNo ∧
      Sends d₁ (runControlProtocol d flags) := by
  obtain ⟨honly, hseq, hack, hstate⟩ := controlStart_spec d
  have hlisten : (controlStart d).ctrl.state = .listen := hstate.resolve_right hs
  refine ⟨controlStart d, honly, hlisten, hseq, hack, ?_⟩
  unfold runControlProtocol
  simp only [ha, hlisten, hloc, Bool.not_true, Bool.false_eq_true, ↓reduceIte, ne_eq,
    not_true_eq_false]
  cases hn : newToSend (controlStart d) with
  | true =>
    rw [if_pos rfl]
    exact .inl ⟨hn, sendNew_spec _⟩
  | false =>
    rw [if_neg (by decide)]
    exact .inr ⟨hn, rfl, rfl, rfl, fun _ => rfl⟩

/-- The numbers of the control machine before the label `send`, for a remote change. `d₁` is
the device there. -/
inductive AtSend (d d₁ : Device) : Prop
  /-- The TLVs of the peer expired, and the numbers start again. -/
  | reset (hx : d.peerCtrl.rxDcbTlvState = .expired) (hseq : d₁.ctrl.seqNo = 0)
      (hack : d₁.ctrl.myAckNo = 0)
  /-- The control TLV of the peer says nothing new. -/
  | kept (hx : d.peerCtrl.rxDcbTlvState ≠ .expired)
      (hv : Stores.versionsAgree d.ctrl d.peerCtrl = false ∨
        hasFlag d.peerCtrl.errorFlag dupDcbxTlvCtrl = true)
      (hseq : d₁.ctrl.seqNo = d.ctrl.seqNo) (hack : d₁.ctrl.myAckNo = d.ctrl.myAckNo)
      (hpeer : d₁.peerCtrl = d.peerCtrl)
  /-- The acknowledgement of the peer is taken. -/
  | acked (hx : d.peerCtrl.rxDcbTlvState ≠ .expired)
      (hv : Stores.versionsAgree d.ctrl d.peerCtrl = true)
      (hseq : d₁.ctrl.seqNo = d.ctrl.seqNo) (hack : d₁.ctrl.myAckNo = d.peerCtrl.ackNo)
      (hpeer : d₁.peerCtrl = d.peerCtrl)

theorem controlSend_sends (b : Bool) (d : Device) : Sends d (controlSend b d) :=
  controlSend_cases b d

/-- `run_control_protocol` for a remote change, in `DCB_LISTEN` -/
theorem controlRemote_cases (d : Device) :
    ∃ d₁, OnlyControl d d₁ d₁.ctrl d₁.peerCtrl ∧ d₁.ctrl.state = d.ctrl.state ∧
      AtSend d d₁ ∧ (Sends d₁ (controlRemote d) ∨
        d.peerCtrl.rxDcbTlvState = .expired ∧ d.pg.feat.dcbxSt = dcbxSubtype2 ∧
          OnlyControl d₁ (controlRemote d) d₁.ctrl d₁.peerCtrl) := by
  have honly : ∀ c pc, OnlyControl d { d with ctrl := c, peerCtrl := pc } c pc :=
    fun c pc => ⟨rfl, rfl, rfl, fun f => by cases f <;> rfl⟩
  unfold controlRemote
  split
  · rename_i hx
    refine ⟨resetNumbers d, honly _ _, rfl, .reset hx rfl rfl, ?_⟩
    dsimp only
    split
    · rename_i hst
      exact .inr ⟨hx, hst, rfl, rfl, rfl, fun _ => rfl⟩
    · exact .inl (controlSend_sends true _)
  rename_i hx
  split
  · rename_i hdup
    exact ⟨d, honly d.ctrl d.peerCtrl, rfl, .kept hx (.inr hdup) rfl rfl rfl,
      .inl (controlSend_sends false d)⟩
  split
  · rename_i hv
    have hv : Stores.versionsAgree d.ctrl d.peerCtrl = false := by
      unfold Stores.versionsAgree
      simp [hv]
    exact ⟨{ d with ctrl := { d.ctrl with
      operVersion := min d.peerCtrl.maxVersion d.ctrl.maxVersion } },
      honly _ d.peerCtrl, rfl, .kept hx (.inl hv) rfl rfl rfl,
      .inl (controlSend_sends true _)⟩
  rename_i hmin
  split
  · rename_i hv
    have hv : Stores.versionsAgree d.ctrl d.peerCtrl = false := by
      unfold Stores.versionsAgree
      simp [hv]
    exact ⟨d, honly d.ctrl d.peerCtrl, rfl, .kept hx (.inl hv) rfl rfl rfl,
      .inl (controlSend_sends false d)⟩
  · rename_i hop
    have hv : Stores.versionsAgree d.ctrl d.peerCtrl = true := by
      unfold Stores.versionsAgree
      rw [decide_eq_true_eq]
      exact ⟨Classical.byContradiction hmin, Classical.byContradiction hop⟩
    have htake : OnlyControl d (takeAck d).1 (takeAck d).1.ctrl (takeAck d).1.peerCtrl ∧
        (takeAck d).1.ctrl.state = d.ctrl.state ∧ (takeAck d).1.ctrl.seqNo = d.ctrl.seqNo ∧
        (takeAck d).1.ctrl.myAckNo = d.peerCtrl.ackNo ∧
        (takeAck d).1.peerCtrl = d.peerCtrl := by
      unfold takeAck
      dsimp only
      split
      · exact ⟨honly _ _, rfl, rfl, rfl, rfl⟩
      · exact ⟨honly _ _, rfl, rfl, rfl, rfl⟩
    obtain ⟨h, hs, hseq, hack, hp⟩ := htake
    exact ⟨(takeAck d).1, h, hs, .acked hx hv hseq hack hp,
      .inl (controlSend_sends (takeAck d).2 _)⟩

theorem runControlProtocol_rem {d : Device} {flags : EventFlag} (ha : d.active = true)
    (hs : d.ctrl.state ≠ .closed) (hloc : flags.any (·.side = .loc) = false)
    (hrem : flags.any (·.side = .rem) = true) :
    runControlProtocol d flags = controlRemote (controlStart d) := by
  have hlisten : (controlStart d).ctrl.state = .listen :=
    (controlStart_spec d).2.2.2.resolve_right hs
  unfold runControlProtocol
  simp only [ha, hlisten, hloc, hrem, Bool.not_true, Bool.false_eq_true, ↓reduceIte, ne_eq,
    not_true_eq_false]

theorem runControlProtocol_inactive {d : Device} {flags : EventFlag} (ha : d.active = false) :
    runControlProtocol d flags = d := by
  unfold runControlProtocol
  simp [ha]

/-- What the control machine leaves alone, whatever the event. -/
structure ControlKept (d d' : Device) : Prop where
  active : d'.active = d.active
  state : d.ctrl.state ≠ .closed → d'.ctrl.state ≠ .closed
  get : (∀ f, d'.get f = d.get f) ∨ ∀ f, d'.get f = (d.get f).withFeat (updateSyncd (d.prot f))

theorem Sends.kept {d d₁ d' : Device} {c p : ControlProtocolAttribs}
    (h : OnlyControl d d₁ c p) (hs : d₁.ctrl.state = .listen) (h' : Sends d₁ d') :
    ControlKept d d' := by
  rcases h' with ⟨-, h'⟩ | ⟨-, h'⟩
  · refine ⟨h'.active.trans h.active, fun _ => ?_, .inr fun f => ?_⟩
    · rw [h'.ctrl]
      simp [hs]
    · rw [h'.get f, Device.prot, Device.prot, h.get f]
  · refine ⟨h'.active.trans h.active, fun _ => ?_, .inl fun f => (h'.get f).trans (h.get f)⟩
    rw [h'.ctrl, hs]
    decide

theorem runControlProtocol_kept (d : Device) (flags : EventFlag) :
    ControlKept d (runControlProtocol d flags) := by
  cases ha : d.active with
  | false =>
    rw [runControlProtocol_inactive ha]
    exact ⟨rfl, id, .inl fun _ => rfl⟩
  | true =>
    obtain ⟨honly, -, -, hstate⟩ := controlStart_spec d
    by_cases hs : d.ctrl.state = .closed
    · -- A closed control machine does nothing.
      have hstart : controlStart d = d := if_neg (by rw [hs]; decide)
      have hrun : runControlProtocol d flags = d := by
        unfold runControlProtocol
        simp [ha, hstart, hs]
      rw [hrun]
      exact ⟨rfl, id, .inl fun _ => rfl⟩
    have hlisten : (controlStart d).ctrl.state = .listen := hstate.resolve_right hs
    cases hloc : flags.any (·.side = .loc) with
    | true =>
      obtain ⟨d₁, h₁, hs₁, -, -, hsend⟩ := runControlProtocol_loc ha hs hloc
      exact hsend.kept h₁ hs₁
    | false =>
      cases hrem : flags.any (·.side = .rem) with
      | true =>
        rw [runControlProtocol_rem ha hs hloc hrem]
        obtain ⟨d₁, h₁, hs₁, -, hsend | ⟨-, -, h'⟩⟩ := controlRemote_cases (controlStart d)
        · exact hsend.kept (honly.trans h₁) (hs₁.trans hlisten)
        · refine ⟨h'.active.trans (h₁.active.trans honly.active), fun _ => ?_,
            .inl fun f => (h'.get f).trans ((h₁.get f).trans (honly.get f))⟩
          rw [h'.ctrl, hs₁, hlisten]
          decide
      | false =>
        have hrun : runControlProtocol d flags = controlStart d := by
          unfold runControlProtocol
          simp only [ha, hlisten, hloc, hrem, Bool.not_true, Bool.false_eq_true, ↓reduceIte,
            ne_eq, not_true_eq_false]
        rw [hrun]
        refine ⟨honly.active, fun _ => ?_, .inl honly.get⟩
        rw [hlisten]
        decide

end Lldpad.Dcbx
