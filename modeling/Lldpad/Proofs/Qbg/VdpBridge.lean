import Lldpad.Proofs.Qbg.VdpMoves
import Lldpad.Proofs.Qbg.VdpTlv

/-!
# `Lldpad.Proofs.Qbg.VdpBridge`: a bridge and the VSI TLVs that it gets

The machine of a bridge only ever runs on the profile that was made of a TLV, in
`VSI_UNASSOCIATED`. `vdpVsiSmBridge_new` is such a run. An association goes through
`VSI_ASSOCIATED` and ends in `VSI_EXIT`, because the condition of `VSI_ASSOCIATED` that leads to
the disassociation asks for the mode of an association. No run executes the action of `VSI_EXIT`.

`BridgeTlvDone` is what is asked of one TLV, `BridgeServes` the same for a sequence of them, and
`bridge_serves_iff` says for which sequences the bridge does it: for those that never associate,
never disassociate and never name a known profile.
-/

namespace Lldpad.Qbg

open Lldpad.Lib
open Lldpad.Lldp (Bytes)

/-! ### The machine -/

/-- What the machine makes of a new profile. -/
def vdpBridged (q : VdpProfile) : VdpProfile :=
  if q.mode = vdpModeDeassociate ∨ q.mode = vdpModeAssociate then { q with state := .exit }
  else if q.mode = vdpModePreassociate then
    { q with response := vdpResponseSuccess, state := .preassociated }
  else q

variable {q : VdpProfile}

theorem vdpVsiSmBridge_new (hq : q.state = .unassociated) (freed : Bool) :
    ∃ n acks, vdpVsiSmBridge { profile := q, freed := freed } = .ok
      { profile := vdpBridged q
        freed := freed
        stale := if freed then n + 1 else 0
        acks := acks } := by
  have hda : vdpModeAssociate ≠ vdpModeDeassociate := by decide
  have hpd : vdpModePreassociate ≠ vdpModeDeassociate := by decide
  have hpa : vdpModePreassociate ≠ vdpModeAssociate := by decide
  by_cases hde : q.mode = vdpModeDeassociate
  · refine ⟨2, 0, ?_⟩
    cases freed <;>
      simp [vdpVsiSmBridge, Machine.run, vdpBridgeMachine, iterate, Machine.round,
        vdpVsiSetBridgeState, vdpBridgeNextState, vdpBridgeGoto, vdpVsiChangeBridgeState,
        vdpBridgeState, vdpBridged, ProfileCtx.set, ProfileCtx.deref, hq, hde]
  · by_cases ha : q.mode = vdpModeAssociate
    · refine ⟨6, 0, ?_⟩
      cases freed <;>
        simp [vdpVsiSmBridge, Machine.run, vdpBridgeMachine, iterate, Machine.round,
          vdpVsiSetBridgeState, vdpBridgeNextState, vdpBridgeGoto, vdpVsiChangeBridgeState,
          vdpBridgeState, vdpBridged, ProfileCtx.set, ProfileCtx.deref, hq, ha, hda]
    · by_cases hpre : q.mode = vdpModePreassociate
      · refine ⟨2, 1, ?_⟩
        cases freed <;>
          simp [vdpVsiSmBridge, Machine.run, vdpBridgeMachine, iterate, Machine.round,
            vdpVsiSetBridgeState, vdpBridgeNextState, vdpBridgeGoto, vdpVsiChangeBridgeState,
            vdpBridgeState, vdpBridged, ProfileCtx.set, ProfileCtx.deref, hq, hpre, hpd, hpa]
      · refine ⟨2, 0, ?_⟩
        cases freed <;>
          simp [vdpVsiSmBridge, Machine.run, vdpBridgeMachine, iterate, Machine.round,
            vdpVsiSetBridgeState, vdpBridgeNextState, vdpBridgeState, vdpBridged,
            ProfileCtx.deref, hq, hde, ha, hpre]

/-! ### One TLV -/

variable {s s' : VdpCtx} {info ack : Bytes}

theorem vdpProfileOfTlv_new (h : vdpProfileOfTlv info = .ok (some q)) :
    q.state = .unassociated ∧ q.mode ≤ vdpModeDeassociate := by
  obtain ⟨vdp, -, h⟩ := bind_eq_ok.mp h
  split_ifs at h with hvalid
  · cases hmake : makeProfile vdp info with
    | error f =>
      rw [hmake] at h
      cases h
    | ok p =>
      rw [hmake] at h
      cases h
      obtain ⟨macvid, -, hp⟩ := bind_eq_ok.mp hmake
      cases hp
      simp only [vdpValidateTlv, Bool.and_eq_true, decide_eq_true_eq] at hvalid
      exact ⟨rfl, hvalid.1.1.1.1.2⟩
  · cases h

theorem vdpProfileEqual_refl (p : VdpProfile) : vdpProfileEqual p p = true := by
  simp [vdpProfileEqual]

theorem vdpProfileEqual_bridged (q : VdpProfile) : vdpProfileEqual (vdpBridged q) q = true := by
  unfold vdpBridged
  split_ifs <;> exact vdpProfileEqual_refl q

theorem not_equal_of_findProfile_none
    (hfind : vdpFindProfile s q = none) {h : Nat} (hmem : h ∈ s.que) :
    vdpProfileEqual (s.nodes h).profile q = false := by
  have hnone := List.find?_eq_none.mp hfind h hmem
  exact Bool.eq_false_iff.mpr hnone

theorem vdpIndicateBridge_new (hq : q.state = .unassociated)
    (hfind : vdpFindProfile s q = none) (ack : Bytes) :
    ∃ s', vdpIndicateBridge q ack s = .ok s' ∧ s'.que = s.next :: s.que ∧
      s'.nodes s.next = { profile := vdpBridged q } ∧
      ∀ h, h ≠ s.next → s'.nodes h = s.nodes h := by
  obtain ⟨n, acks, hrun⟩ := vdpVsiSmBridge_new hq false
  unfold vdpIndicateBridge
  rw [hfind]
  dsimp only [Option.isSome_none]
  rw [hrun]
  exact ⟨_, rfl, rfl, VdpCtx.put_nodes_self .., fun h hne => put_insert_nodes_of_ne s _ _ hne⟩

theorem vdpIndicateBridge_known (hq : q.state = .unassociated)
    (hfind : (vdpFindProfile s q).isSome) (ack : Bytes) :
    ∃ s', vdpIndicateBridge q ack s = .ok s' ∧ 0 < (s'.nodes s.next).stale := by
  obtain ⟨n, acks, hrun⟩ := vdpVsiSmBridge_new hq true
  unfold vdpIndicateBridge
  rw [hfind]
  dsimp only
  rw [hrun]
  refine ⟨_, rfl, ?_⟩
  have hnode := VdpCtx.put_nodes_self (s.alloc { profile := q }) s.next
    { profile := vdpBridged q, freed := true, stale := n + 1, acks := acks }
  show 0 < (((s.alloc { profile := q }).put s.next _).nodes s.next).stale
  exact hnode ▸ Nat.succ_pos n

/-- What is asked of a bridge for one TLV, whose profile is `q`. -/
structure BridgeTlvDone (s : VdpCtx) (q : VdpProfile) (s' : VdpCtx) : Prop where
  /-- an association leaves an associated profile -/
  associated : q.mode = vdpModeAssociate → ∃ h ∈ s'.que,
    vdpProfileEqual (s'.nodes h).profile q = true ∧ (s'.nodes h).profile.state = .associated
  /-- which only its disassociation ends -/
  stays : ∀ h ∈ s.que, (s.nodes h).profile.state = .associated →
    (q.mode = vdpModeDeassociate → vdpProfileEqual (s.nodes h).profile q = false) →
    h ∈ s'.que ∧ (s'.nodes h).profile.state = .associated
  /-- a disassociation leaves no profile -/
  removed : q.mode = vdpModeDeassociate → ∀ h ∈ s'.que,
    vdpProfileEqual (s'.nodes h).profile q = false
  /-- a known profile gets the mode of the TLV -/
  updated : ∀ h ∈ s.que, vdpProfileEqual (s.nodes h).profile q = true → h ∈ s'.que →
    (s'.nodes h).profile.mode = q.mode
  /-- and nobody looks at the copy that was released -/
  released : (s'.nodes s.next).stale = 0

theorem bridgeTlvDone_iff (hs : s.Wf)
    (hq : q.state = .unassociated) (hrun : vdpIndicateBridge q ack s = .ok s') :
    BridgeTlvDone s q s' ↔
      (q.mode ≠ vdpModeAssociate ∧ q.mode ≠ vdpModeDeassociate) ∧ vdpFindProfile s q = none := by
  cases hfind : vdpFindProfile s q with
  | some h =>
    obtain ⟨t, ht, hstale⟩ := vdpIndicateBridge_known hq (by rw [hfind]; rfl) ack
    cases ht.symm.trans hrun
    refine ⟨fun hdone => ?_, fun hno => nomatch hno.2⟩
    exact absurd hdone.released hstale.ne'
  | none =>
    obtain ⟨t, ht, hque, hself, hother⟩ := vdpIndicateBridge_new hq hfind ack
    cases ht.symm.trans hrun
    -- the profiles of the list are not the new one, and stay as they are
    have hold : ∀ h ∈ s.que, s'.nodes h = s.nodes h := fun h hmem =>
      hother h (hs.lt h hmem).ne
    constructor
    · intro hdone
      refine ⟨⟨fun ha => ?_, fun hde => ?_⟩, rfl⟩
      · obtain ⟨h, hmem, hequal, hstate⟩ := hdone.associated ha
        rw [hque] at hmem
        rcases List.mem_cons.mp hmem with rfl | hmem
        · rw [hself] at hstate
          simp [vdpBridged, ha] at hstate
        · rw [hold h hmem, not_equal_of_findProfile_none hfind hmem] at hequal
          cases hequal
      · have hgone := hdone.removed hde s.next (hque ▸ List.mem_cons_self)
        rw [hself, vdpProfileEqual_bridged] at hgone
        cases hgone
    · rintro ⟨⟨ha, hde⟩, -⟩
      refine ⟨fun h => absurd h ha, fun h hmem hstate _ => ?_, fun h => absurd h hde,
        fun h hmem hequal _ => ?_, ?_⟩
      · rw [hque, hold h hmem]
        exact ⟨List.mem_cons_of_mem _ hmem, hstate⟩
      · rw [not_equal_of_findProfile_none hfind hmem] at hequal
        cases hequal
      · rw [hself]

/-! ### Sequences of TLVs -/

/-- The bridge does what is asked for every TLV of a sequence. A TLV comes with the
acknowledgement of its frame. -/
def BridgeServes : VdpCtx → List (Bytes × Bytes) → Prop
  | _, [] => True
  | s, (info, ack) :: tlvs => ∀ s', vdpIndicate info ack s = .ok s' →
    (∀ q, vdpProfileOfTlv info = .ok (some q) → BridgeTlvDone s q s') ∧ BridgeServes s' tlvs

/-- Every TLV of a sequence that is valid preassociates a profile that is not known. -/
def OnlyNewPreassociations : VdpCtx → List (Bytes × Bytes) → Prop
  | _, [] => True
  | s, (info, ack) :: tlvs => ∀ s', vdpIndicate info ack s = .ok s' →
    (∀ q, vdpProfileOfTlv info = .ok (some q) →
      (q.mode = vdpModePreassociate ∨ q.mode = vdpModePreassociateWithRr) ∧
        vdpFindProfile s q = none) ∧ OnlyNewPreassociations s' tlvs

theorem preassociates_iff {mode : UInt32} (h : mode ≤ vdpModeDeassociate) :
    (mode ≠ vdpModeAssociate ∧ mode ≠ vdpModeDeassociate) ↔
      (mode = vdpModePreassociate ∨ mode = vdpModePreassociateWithRr) := by
  rw [UInt32.le_iff_toNat_le] at h
  simp only [ne_eq, ← UInt32.toNat_inj, vdpModePreassociate, vdpModePreassociateWithRr,
    vdpModeAssociate, vdpModeDeassociate, UInt32.reduceToNat] at *
  omega

theorem vdpIndicate_bridge (hrole : s.role = .bridge)
    (hport : s.vd.port.isSome) (hrun : vdpIndicate info ack s = .ok s') :
    (vdpProfileOfTlv info = .ok none ∧ s' = s) ∨
      ∃ q, vdpProfileOfTlv info = .ok (some q) ∧ vdpIndicateBridge q ack s = .ok s' := by
  obtain ⟨port, hport⟩ := Option.isSome_iff_exists.mp hport
  unfold vdpIndicate at hrun
  rw [hport] at hrun
  obtain ⟨q, htlv, hrun⟩ := bind_eq_ok.mp hrun
  cases q with
  | none =>
    cases hrun
    exact .inl ⟨htlv, rfl⟩
  | some q =>
    rw [hrole] at hrun
    exact .inr ⟨q, htlv, hrun⟩

theorem ecpChanged_port (n : Nat) (vd : VdpData) : (ecpChanged n vd).port = vd.port := by
  induction n with
  | zero => rfl
  | succ n ih => exact ih

theorem ecpRxSendAckFrames_port (ack : Bytes) (n : Nat) (vd : VdpData) :
    (ecpRxSendAckFrames ack n vd).port = vd.port := by
  induction n with
  | zero => rfl
  | succ n ih => exact ih

theorem vdpIndicate_bridge_keeps (hrole : s.role = .bridge)
    (hport : s.vd.port.isSome) (hrun : vdpIndicate info ack s = .ok s') :
    s'.role = .bridge ∧ s'.vd.port.isSome := by
  rcases vdpIndicate_bridge hrole hport hrun with ⟨-, rfl⟩ | ⟨q, -, hrun⟩
  · exact ⟨hrole, hport⟩
  · obtain ⟨x, -, hs'⟩ := bind_eq_ok.mp hrun
    cases hs'
    cases hknown : (vdpFindProfile s q).isSome with
    | true =>
      refine ⟨hrole, ?_⟩
      show Option.isSome (ecpRxSendAckFrames _ _ (ecpChanged _ s.vd)).port = true
      rw [ecpRxSendAckFrames_port, ecpChanged_port]
      exact hport
    | false =>
      refine ⟨hrole, ?_⟩
      show Option.isSome (ecpRxSendAckFrames _ _ (ecpChanged _ s.vd)).port = true
      rw [ecpRxSendAckFrames_port, ecpChanged_port]
      exact hport

/-- The bridge does what is asked for the sequences of new preassociations, and for no other
ones. -/
theorem bridge_serves_iff {s : VdpCtx} (h : vdpSystem.Reachable s) (hrole : s.role = .bridge)
    (hport : s.vd.port.isSome) (tlvs : List (Bytes × Bytes)) :
    BridgeServes s tlvs ↔ OnlyNewPreassociations s tlvs := by
  induction tlvs generalizing s with
  | nil => exact Iff.rfl
  | cons tlv tlvs ih =>
    obtain ⟨info, ack⟩ := tlv
    refine forall_congr' fun s' => forall_congr' fun hrun => ?_
    have hreach : vdpSystem.Reachable s' := h.step (e := .tlv info ack) hrun
    obtain ⟨hrole', hport'⟩ := vdpIndicate_bridge_keeps hrole hport hrun
    refine and_congr (forall_congr' fun q => forall_congr' fun htlv => ?_)
      (ih hreach hrole' hport')
    -- the TLV is valid, so it is the one that the machine ran for
    rcases vdpIndicate_bridge hrole hport hrun with ⟨hnone, -⟩ | ⟨q', htlv', hbridge⟩
    · cases hnone.symm.trans htlv
    · cases htlv'.symm.trans htlv
      obtain ⟨hnew, hmode⟩ := vdpProfileOfTlv_new htlv
      rw [bridgeTlvDone_iff (wf_of_vdpReachable h) hnew hbridge, preassociates_iff hmode]

/-- A bridge at the start -/
def newBridge : VdpCtx := vdpCreate .bridge .zero (some { portEnabled := true })

/-- A TLV with one pair -/
def vsiInfo (mode : UInt8) : Bytes :=
  [0x00, 0x1b, 0x3f, 2, mode, 0, 1, 0, 0, 7, 1] ++ List.replicate 16 5 ++ [2, 0, 1] ++
    [2, 0, 0, 0, 0, 9, 0, 100]

theorem newBridge_reachable : vdpSystem.Reachable newBridge :=
  System.reachable_of_init ⟨.bridge, .zero, _, rfl⟩

theorem newBridge_serves_iff :
    BridgeServes newBridge [(vsiInfo 0, []), (vsiInfo 1, [])] ↔
      OnlyNewPreassociations newBridge [(vsiInfo 0, []), (vsiInfo 1, [])] :=
  bridge_serves_iff newBridge_reachable rfl rfl _

/-- An association, and the profile is in `VSI_EXIT`. -/
theorem association_not_served :
    ¬ ∀ (s : VdpCtx) (tlvs : List (Bytes × Bytes)), vdpSystem.Reachable s → s.role = .bridge →
      s.vd.port.isSome → BridgeServes s tlvs := by
  intro hall
  have hserves := hall newBridge [(vsiInfo 2, [])] newBridge_reachable rfl rfl
  have hrun : ∃ s', vdpIndicate (vsiInfo 2) [] newBridge = .ok s' ∧ s'.que = [0] ∧
      (s'.nodes 0).profile.state = .exit := ⟨_, rfl, by decide, by decide⟩
  obtain ⟨s', hs', hque, hstate⟩ := hrun
  have htlv : ∃ q, vdpProfileOfTlv (vsiInfo 2) = .ok (some q) ∧ q.mode = vdpModeAssociate :=
    ⟨_, rfl, by decide⟩
  obtain ⟨q, hq, hmode⟩ := htlv
  obtain ⟨h, hmem, -, hassoc⟩ := ((hserves s' hs').1 q hq).associated hmode
  rw [hque, List.mem_singleton] at hmem
  rw [hmem, hstate] at hassoc
  cases hassoc

end Lldpad.Qbg
