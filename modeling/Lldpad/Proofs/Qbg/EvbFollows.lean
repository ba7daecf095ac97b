import Lldpad.Qbg.Evb

/-!
# `Lldpad.Proofs.Qbg.EvbFollows`: what the EVB TLV of draft 0.2 announces

`follows_iff` says, for every state that the module can be in, when the TLV that it builds follows
the policy and the neighbour (`TlvFollows`), and VDP with it. It does not in general:

* The supported mode and capabilities of the TLV are those of the start (`EvbInv.smode`). The
  commands change the policy alone.
* A TLV without a forwarding mode, like the zeros after a loss of the neighbour, ends
  `evb_update_tlv` early. Then the module sends what it sent before (`Stale`).
* The number of VSIs is announced only when both sides support VDP, an exponent is taken over
  from a neighbour that does not support it, and at the start the neighbour is taken to know
  reflective relay (`Fresh`).
-/

namespace Lldpad.Qbg.Evb

open Lldpad.Lib
open Lldpad.Lldp (Bytes)

/-! ### What the TLV should say -/

/-- What the neighbour's last TLV says; nothing without a neighbour -/
def EvbState.neighbourSmode (s : EvbState) : UInt8 := smodeOf (s.neighbour.getD [])
def EvbState.neighbourScap (s : EvbState) : UInt8 := scapOf (s.neighbour.getD [])
def EvbState.neighbourRte (s : EvbState) : UInt8 := rteOf (s.neighbour.getD [])

/-- Both sides know reflective relay. -/
def EvbState.BothRelay (s : EvbState) : Prop :=
  s.neighbourSmode &&& s.ed.policy.smode &&& forwardReflectiveRelay ≠ 0

instance (s : EvbState) : Decidable s.BothRelay := inferInstanceAs (Decidable (_ ≠ _))

/-- The maximum of the exponents if both sides support them, otherwise the policy's -/
def EvbState.agreedRte (s : EvbState) : UInt8 :=
  if s.neighbourScap &&& s.ed.policy.scap &&& protocolRte ≠ 0 then
    max s.ed.policy.rte s.neighbourRte
  else s.ed.policy.rte

/-- TLV `t` follows the policy and the neighbour, and VDP follows it. -/
structure Follows (s : EvbState) (t : TlvInfoEvb) : Prop where
  smode : t.smode = s.ed.policy.smode
  scap : t.scap = s.ed.policy.scap
  svsi : t.svsi = s.ed.policy.svsi
  cmode : t.cmode = forwardStandard ∨ t.cmode = forwardReflectiveRelay ∧ s.BothRelay
  ccap : t.ccap &&& (s.neighbourScap &&& s.ed.policy.scap) = t.ccap
  rte : t.rte = s.agreedRte
  vdp : ∀ bit, s.vdp = some bit → (bit = true ↔ t.ccap &&& protocolVdp ≠ 0)

/-- Every TLV that is built follows the policy and the neighbour. -/
def TlvFollows (s : EvbState) : Prop :=
  ∀ vsis t, (evbBuildTlv vsis s.ed).2 = some t → Follows s t

/-! ### When it does -/

/-- The TLV received last names a forwarding mode. -/
def EvbData.NamesMode (ed : EvbData) : Prop :=
  smodeOf ed.last &&& (forwardStandard ||| forwardReflectiveRelay) ≠ 0

instance (ed : EvbData) : Decidable ed.NamesMode := inferInstanceAs (Decidable (_ ≠ _))

/-- What the module has received and the policy have in common -/
def EvbData.common (ed : EvbData) : UInt8 := scapOf ed.last &&& ed.policy.scap

/-- The module takes over the exponent that it has received. -/
def EvbData.TakesRte (ed : EvbData) : Prop :=
  ed.policy.scap &&& protocolRte ≠ 0 ∧ rteOf ed.last > 0 ∧ ed.policy.rte > 0

instance (ed : EvbData) : Decidable ed.TakesRte := inferInstanceAs (Decidable (_ ∧ _))

/-- What the module has received is good to build a TLV from: it is what the neighbour says as far
as the policy is concerned. -/
structure Fresh (s : EvbState) : Prop where
  relay : smodeOf s.ed.last &&& s.ed.policy.smode &&& forwardReflectiveRelay ≠ 0 → s.BothRelay
  ccap : s.ed.common &&& 7 &&& (s.neighbourScap &&& s.ed.policy.scap) = s.ed.common &&& 7
  vsis : s.ed.common &&& protocolVdp = 0 → s.ed.policy.svsi = 0
  taken : s.ed.TakesRte → max s.ed.policy.rte (rteOf s.ed.last) = s.agreedRte
  kept : ¬ s.ed.TakesRte → s.ed.tie.rte = s.agreedRte
  vdp : ∀ bit, s.vdp = some bit → (bit = true ↔ s.ed.common &&& protocolVdp ≠ 0)

/-- What was sent before is still good. -/
structure Stale (s : EvbState) : Prop where
  svsi : s.ed.tie.svsi = s.ed.policy.svsi
  cmode : s.ed.tie.cmode = forwardReflectiveRelay → s.BothRelay
  ccap : s.ed.tie.ccap &&& (s.neighbourScap &&& s.ed.policy.scap) = s.ed.tie.ccap
  rte : s.ed.tie.rte = s.agreedRte
  vdp : ∀ bit, s.vdp = some bit → (bit = true ↔ s.ed.tie.ccap &&& protocolVdp ≠ 0)

/-- No command has changed the mode or the capabilities, and what the TLV is made of is good. -/
structure Settled (s : EvbState) : Prop where
  mode : s.ed.policy.smode = s.start.smode
  capa : s.ed.policy.scap = s.start.scap
  fresh : s.ed.NamesMode → Fresh s
  stale : ¬ s.ed.NamesMode → Stale s

/-! ### The capabilities as a set of three bits -/

/-- The three steps of `evb_update_tlv` on the configured capabilities -/
def configureAll (recv policy ccap : UInt8) : UInt8 :=
  configure protocolVdp recv policy
    (configure protocolEcp recv policy (configure protocolRte recv policy ccap))

theorem ofNat_of_lt_eight {x : UInt8} (h : x &&& 7 = x) : ∃ n : Fin 8, x = UInt8.ofNat n := by
  have hlt : x.toNat < 8 := by
    have hmod : x.toNat &&& (2 ^ 3 - 1) = x.toNat := by
      have hand := congrArg UInt8.toNat h
      rwa [UInt8.toNat_and] at hand
    rw [Nat.and_two_pow_sub_one_eq_mod] at hmod
    omega
  exact ⟨⟨x.toNat, hlt⟩, (UInt8.ofNat_toNat).symm⟩

theorem configure_low {bit : UInt8} (hbit : 7 &&& bit = bit) (recv policy ccap : UInt8) :
    configure bit recv policy ccap = configure bit (recv &&& policy &&& 7) 7 ccap := by
  unfold configure
  rw [UInt8.and_assoc (recv &&& policy) 7 7, UInt8.and_self, UInt8.and_assoc (recv &&& policy) 7,
    hbit]

theorem configureAll_eq {recv policy ccap : UInt8} (h : ccap &&& 7 = ccap) :
    configureAll recv policy ccap = recv &&& policy &&& 7 := by
  have hbits : ∀ x c : Fin 8, configure protocolVdp (UInt8.ofNat x) 7
      (configure protocolEcp (UInt8.ofNat x) 7 (configure protocolRte (UInt8.ofNat x) 7
        (UInt8.ofNat c))) = UInt8.ofNat x := by decide
  obtain ⟨c, rfl⟩ := ofNat_of_lt_eight h
  obtain ⟨x, hx⟩ := ofNat_of_lt_eight (x := recv &&& policy &&& 7) (by
    rw [UInt8.and_assoc, UInt8.and_self])
  unfold configureAll
  rw [configure_low (by decide) recv policy, configure_low (by decide) recv policy,
    configure_low (by decide) recv policy, hx]
  exact hbits x c

/-! ### What the module keeps -/

/-- What holds in every state -/
structure EvbInv (s : EvbState) : Prop where
  smode : s.ed.tie.smode = s.start.smode
  scap : s.ed.tie.scap = s.start.scap
  cmode : s.ed.tie.cmode = forwardStandard ∨ s.ed.tie.cmode = forwardReflectiveRelay
  ccap : s.ed.tie.ccap &&& 7 = s.ed.tie.ccap

theorem evbUpdateTlv_stale {ed : EvbData} (h : ¬ ed.NamesMode) (vsis : Nat) :
    evbUpdateTlv vsis ed = ed := if_pos (Decidable.not_not.mp h)

theorem evbUpdateTlv_fresh {ed : EvbData} (h : ed.NamesMode)
    (hccap : ed.tie.ccap &&& 7 = ed.tie.ccap) (vsis : Nat) :
    evbUpdateTlv vsis ed = { ed with
      tie := { ed.tie with
        cmode := if smodeOf ed.last &&& ed.policy.smode &&& forwardReflectiveRelay ≠ 0 then
            forwardReflectiveRelay
          else forwardStandard
        ccap := ed.common &&& 7
        rte := if ed.tie.scap &&& protocolRte ≠ 0 ∧ rteOf ed.last > 0 ∧ ed.policy.rte > 0 then
            max ed.policy.rte (rteOf ed.last)
          else ed.tie.rte
        cvsi := if ed.common &&& protocolVdp ≠ 0 then UInt16.ofNat vsis else 0
        svsi := if ed.common &&& protocolVdp ≠ 0 then ed.policy.svsi else 0 } } := by
  have hall : configureAll (scapOf ed.last) ed.policy.scap ed.tie.ccap =
      scapOf ed.last &&& ed.policy.scap &&& 7 := configureAll_eq hccap
  unfold configureAll at hall
  unfold evbUpdateTlv EvbData.common
  rw [if_neg h]
  simp only [hall]

/-- What `evb_update_tlv` keeps of the TLV that is sent -/
structure TieKept (ed ed' : EvbData) : Prop where
  smode : ed'.tie.smode = ed.tie.smode
  scap : ed'.tie.scap = ed.tie.scap
  cmode : ed'.tie.cmode = ed.tie.cmode ∨ ed'.tie.cmode = forwardStandard ∨
    ed'.tie.cmode = forwardReflectiveRelay
  ccap : ed.tie.ccap &&& 7 = ed.tie.ccap → ed'.tie.ccap &&& 7 = ed'.tie.ccap

theorem TieKept.of_tie {ed ed' : EvbData} (h : ed'.tie = ed.tie) : TieKept ed ed' := by
  refine ⟨?_, ?_, .inl ?_, ?_⟩
  all_goals rw [h]
  exact id

theorem tieKept_update (vsis : Nat) (ed : EvbData) : TieKept ed (evbUpdateTlv vsis ed) := by
  by_cases hmode : ed.NamesMode
  · refine ⟨?_, ?_, .inr ?_, fun hccap => ?_⟩
    · unfold evbUpdateTlv
      rw [if_neg hmode]
    · unfold evbUpdateTlv
      rw [if_neg hmode]
    · unfold evbUpdateTlv
      rw [if_neg hmode]
      split
      · exact .inr rfl
      · exact .inl rfl
    · rw [evbUpdateTlv_fresh hmode hccap]
      rw [UInt8.and_assoc, UInt8.and_self]
  · rw [evbUpdateTlv_stale hmode]
    exact .of_tie rfl

theorem EvbInv.keep {s s' : EvbState} (h : EvbInv s) (hstart : s'.start = s.start)
    (htie : TieKept s.ed s'.ed) : EvbInv s' where
  smode := by rw [htie.smode, hstart, h.smode]
  scap := by rw [htie.scap, hstart, h.scap]
  cmode := by
    rcases htie.cmode with hold | hnew
    · rw [hold]
      exact h.cmode
    · exact hnew
  ccap := htie.ccap h.ccap

theorem tie_handle {setting : EvbSetting} {argvalue : CStr} {vsis : Nat} {ed ed' : EvbData}
    (h : setting.handle argvalue vsis ed = some ed') : ed'.tie = ed.tie := by
  cases setting with
  | tlvtxenable evb22 =>
    simp only [EvbSetting.handle, setArgTlvtxenable] at h
    split_ifs at h <;> exact (Option.some.inj h) ▸ rfl
  | fmode =>
    simp only [EvbSetting.handle, setArgFmode] at h
    split_ifs at h <;> exact (Option.some.inj h) ▸ rfl
  | capabilities =>
    simp only [EvbSetting.handle, setArgCapabilities] at h
    split at h
    · cases h
    · split_ifs at h
      exact (Option.some.inj h) ▸ rfl
  | rte =>
    simp only [EvbSetting.handle, setArgRte] at h
    split_ifs at h
    exact (Option.some.inj h) ▸ rfl
  | vsis =>
    simp only [EvbSetting.handle, setArgVsis] at h
    split_ifs at h
    exact (Option.some.inj h) ▸ rfl

theorem evbTimer_start (dormantDelay : Nat) (started : Bool) (s : EvbState) :
    (evbTimer dormantDelay started s).start = s.start := by
  unfold evbTimer
  by_cases hstart : s.ed.vdpStart = false ∧ (dormantDelay = 1 ∨
      (protocolEcp ||| protocolVdp) &&& s.ed.tie.ccap = protocolEcp ||| protocolVdp)
  · rw [if_pos hstart]
  · rw [if_neg hstart]

theorem evbTimer_tie (dormantDelay : Nat) (started : Bool) (s : EvbState) :
    (evbTimer dormantDelay started s).ed.tie = s.ed.tie := by
  unfold evbTimer
  by_cases hstart : s.ed.vdpStart = false ∧ (dormantDelay = 1 ∨
      (protocolEcp ||| protocolVdp) &&& s.ed.tie.ccap = protocolEcp ||| protocolVdp)
  · rw [if_pos hstart]
  · rw [if_neg hstart]

theorem EvbInv.step {s s' : EvbState} (h : EvbInv s) {e : EvbEvent} (hstep : s.step e = .ok s') :
    EvbInv s' := by
  cases e with
  | set setting argvalue vsis =>
    unfold EvbState.step at hstep
    dsimp only at hstep
    split at hstep
    · cases hstep
      exact h
    · next hset =>
      cases hstep
      exact h.keep rfl (.of_tie (tie_handle hset))
  | rchange info vsis =>
    simp only [EvbState.step, evbRchange] at hstep
    split_ifs at hstep
    · cases hstep
      exact h
    · -- The module is switched off and ignores the TLV.
      cases hstep
      exact h.keep rfl (.of_tie rfl)
    · -- The TLV is taken.
      cases hstep
      have htie := tieKept_update vsis
        { s.ed with last := info ++ s.ed.last.drop info.length }
      exact h.keep rfl ⟨htie.smode, htie.scap, htie.cmode, htie.ccap⟩
  | mibdelete =>
    cases hstep
    exact h.keep rfl (.of_tie rfl)
  | timer dormantDelay started =>
    cases hstep
    exact h.keep (evbTimer_start dormantDelay started s)
      (.of_tie (evbTimer_tie dormantDelay started s))
  | gettlv vsis =>
    cases hstep
    refine h.keep rfl ?_
    unfold evbBuildTlv
    split
    · exact tieKept_update vsis s.ed
    · exact .of_tie rfl

theorem evbInv_of_init {s : EvbState} (h : evbSystem.init s) : EvbInv s := by
  obtain ⟨conf, vsis, rfl⟩ := h
  unfold evbInitTlv
  have hmode : EvbData.NamesMode
      { txmit := conf.enabletx
        policy := conf.policy
        tie := { smode := conf.fmode, scap := conf.capa, svsi := conf.vsis, rte := conf.rte }
        last := (List.replicate tlvInfoEvbSz 0).set 4
          (forwardStandard ||| forwardReflectiveRelay) } := by
    show smodeOf ((List.replicate tlvInfoEvbSz 0).set 4
      (forwardStandard ||| forwardReflectiveRelay)) &&& _ ≠ 0
    decide
  rw [evbUpdateTlv_fresh hmode (show (0 : UInt8) &&& 7 = 0 by decide)]
  refine ⟨rfl, rfl, ?_, ?_⟩
  · split
    · exact .inr rfl
    · exact .inl rfl
  · rw [UInt8.and_assoc, UInt8.and_self]

theorem evbInv_of_reachable {s : EvbState} (h : evbSystem.Reachable s) : EvbInv s :=
  h.invariant (fun _ hinit => evbInv_of_init hinit) fun _ _ _ hs hstep => hs.step hstep

/-! ### The TLV that is built -/

/-- The TLV that is built while a forwarding mode is on record -/
theorem follows_fresh_iff {s : EvbState} (h : EvbInv s) (hmode : s.ed.NamesMode) (vsis : Nat) :
    Follows s (evbUpdateTlv vsis s.ed).tie ↔
      s.ed.policy.smode = s.start.smode ∧ s.ed.policy.scap = s.start.scap ∧ Fresh s := by
  rw [evbUpdateTlv_fresh hmode h.ccap]
  constructor
  · intro hf
    have hcapa : s.ed.policy.scap = s.start.scap := hf.scap.symm.trans h.scap
    have htie : s.ed.tie.scap = s.ed.policy.scap := hf.scap
    have hrte := hf.rte
    dsimp only at hrte
    rw [htie] at hrte
    refine ⟨hf.smode.symm.trans h.smode, hcapa, ?_, hf.ccap, ?_, ?_, ?_, ?_⟩
    · intro hrelay
      have hcmode := hf.cmode
      dsimp only at hcmode
      rw [if_pos hrelay] at hcmode
      rcases hcmode with hstd | ⟨_, hboth⟩
      · exact absurd hstd (by decide)
      · exact hboth
    · intro hvdp
      have hsvsi := hf.svsi
      dsimp only at hsvsi
      rw [if_neg (not_not.mpr hvdp)] at hsvsi
      exact hsvsi.symm
    · intro htakes
      unfold EvbData.TakesRte at htakes
      rw [if_pos htakes] at hrte
      exact hrte
    · intro hkeeps
      unfold EvbData.TakesRte at hkeeps
      rw [if_neg hkeeps] at hrte
      exact hrte
    · intro bit hbit
      have hvdp := hf.vdp bit hbit
      dsimp only at hvdp
      rw [UInt8.and_assoc, show (7 : UInt8) &&& protocolVdp = protocolVdp by decide] at hvdp
      exact hvdp
  · rintro ⟨hsmode, hcapa, hfresh⟩
    have htie : s.ed.tie.scap = s.ed.policy.scap := h.scap.trans hcapa.symm
    refine ⟨h.smode.trans hsmode.symm, htie, ?_, ?_, hfresh.ccap, ?_, ?_⟩
    · dsimp only
      split
      · rfl
      · next hvdp => exact (hfresh.vsis (not_not.mp hvdp)).symm
    · split
      · next hrelay => exact .inr ⟨rfl, hfresh.relay hrelay⟩
      · exact .inl rfl
    · dsimp only
      rw [htie]
      split
      · next htakes => exact hfresh.taken htakes
      · next hkeeps => exact hfresh.kept hkeeps
    · intro bit hbit
      rw [UInt8.and_assoc, show (7 : UInt8) &&& protocolVdp = protocolVdp by decide]
      exact hfresh.vdp bit hbit

theorem follows_stale_iff {s : EvbState} (h : EvbInv s) :
    Follows s s.ed.tie ↔
      s.ed.policy.smode = s.start.smode ∧ s.ed.policy.scap = s.start.scap ∧ Stale s := by
  constructor
  · intro hf
    refine ⟨hf.smode.symm.trans h.smode, hf.scap.symm.trans h.scap, hf.svsi, ?_, hf.ccap, hf.rte,
      hf.vdp⟩
    intro hrelay
    rcases hf.cmode with hstd | ⟨_, hboth⟩
    · exact absurd (hstd.symm.trans hrelay) (by decide)
    · exact hboth
  · rintro ⟨hsmode, hcapa, hstale⟩
    refine ⟨h.smode.trans hsmode.symm, h.scap.trans hcapa.symm, hstale.svsi, ?_, hstale.ccap,
      hstale.rte, hstale.vdp⟩
    rcases h.cmode with hstd | hrelay
    · exact .inl hstd
    · exact .inr ⟨hrelay, hstale.cmode hrelay⟩

/-- In every state that the module can be in, the TLV that it builds follows the policy and the
neighbour if and only if it is switched off or what the TLV is made of is good. -/
theorem follows_iff {s : EvbState} (h : evbSystem.Reachable s) :
    TlvFollows s ↔ (s.ed.txmit = true → Settled s) := by
  have hinv := evbInv_of_reachable h
  unfold TlvFollows evbBuildTlv
  cases htx : s.ed.txmit with
  | false => exact iff_of_true nofun nofun
  | true =>
    simp only [if_true, Option.some.injEq, forall_eq', forall_const]
    by_cases hmode : s.ed.NamesMode
    · simp only [follows_fresh_iff hinv hmode, forall_const]
      constructor
      · rintro ⟨hsmode, hcapa, hfresh⟩
        exact ⟨hsmode, hcapa, fun _ => hfresh, fun hnot => absurd hmode hnot⟩
      · intro hset
        exact ⟨hset.mode, hset.capa, hset.fresh hmode⟩
    · simp only [evbUpdateTlv_stale hmode, follows_stale_iff hinv, forall_const]
      constructor
      · rintro ⟨hsmode, hcapa, hstale⟩
        exact ⟨hsmode, hcapa, fun hnamed => absurd hnamed hmode, fun _ => hstale⟩
      · intro hset
        exact ⟨hset.mode, hset.capa, hset.stale hmode⟩

/-- A station that supports everything, and its bridge -/
def allConf : EvbConf :=
  { enabletx := true, fmode := forwardReflectiveRelay, capa := 7, rte := 15, vsis := 3295 }

def bridgeTlv : Bytes := ouiSubtype ++ [0xc0, 7, 0, 0, 0, 0, 0, 0, 20]

/-- The station has heard the bridge. -/
theorem follows_bridge : ∃ s, evbSystem.Reachable s ∧ s.ed.txmit = true ∧ TlvFollows s := by
  obtain ⟨s, hrun, hs⟩ := evbSystem.exists_run
    { ed := evbInitTlv allConf 0, start := allConf.policy } [.rchange bridgeTlv 1]
    (fun s => decide (s = {
      ed := {
        txmit := true
        policy := allConf.policy
        last := bridgeTlv
        tie := {
          smode := 0x40, scap := 7, cmode := 0x40, ccap := 7, svsi := 3295, cvsi := 1, rte := 20 } }
      neighbour := some bridgeTlv
      start := allConf.policy })) (by decide +kernel)
  have hreach : evbSystem.Reachable s := ⟨_, _, ⟨allConf, 0, rfl⟩, hrun⟩
  have hs := of_decide_eq_true hs
  refine ⟨s, hreach, by rw [hs], (follows_iff hreach).mpr fun _ => ?_⟩
  subst hs
  refine ⟨rfl, rfl, fun _ => ⟨by decide, by decide, by decide, by decide, by decide, nofun⟩, ?_⟩
  intro hnot
  exact absurd (by decide) hnot

/-- The mode command changes the policy, but not the mode that the TLV announces. -/
theorem not_follows_fmode : ¬ ∀ s, evbSystem.Reachable s → TlvFollows s := by
  intro hall
  obtain ⟨s, hrun, hs⟩ := evbSystem.exists_run
    { ed := evbInitTlv { allConf with fmode := forwardStandard } 0
      start := ({ allConf with fmode := forwardStandard } : EvbConf).policy }
    [.rchange bridgeTlv 0, .set .fmode "reflectiverelay".toList 0]
    (fun s => decide (s.ed.policy.smode = forwardReflectiveRelay ∧
      ((evbBuildTlv 0 s.ed).2.map (·.smode)) = some forwardStandard)) (by decide +kernel)
  have hreach : evbSystem.Reachable s := ⟨_, _, ⟨_, 0, rfl⟩, hrun⟩
  obtain ⟨hpolicy, hbuilt⟩ := of_decide_eq_true hs
  obtain ⟨t, ht, hsmode⟩ := Option.map_eq_some_iff.mp hbuilt
  have hfollows := (hall s hreach 0 t ht).smode
  rw [hpolicy, hsmode] at hfollows
  exact absurd hfollows (by decide)

end Lldpad.Qbg.Evb
