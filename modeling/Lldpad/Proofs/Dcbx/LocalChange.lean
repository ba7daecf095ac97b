import Lldpad.Proofs.Dcbx.Station

/-!
# `Lldpad.Proofs.Dcbx.LocalChange`: a local change reaches its feature machine

`run_dcb_protocol` passes the local change of a feature on to `run_feature_protocol`, with a
subtype. `put_app` writes three features and raises the event of one. `put_llink` raises its
event, but the subtype that reaches the machine is the loop index that the loop over the
applications left behind, and no logical link has it.

`reaches_iff` says exactly which accepted changes take effect.
-/

namespace Lldpad.Dcbx

open Lldpad.Lib
open Lldpad.Lldp (Bytes)

variable {drv : Driver} {d d' : Device} {f : Feature}

/-! ### The operational store -/

/-- The operational configuration is the local one, as far as it is copied: of PFC the map, of
an application its data. -/
def SameConfig : (f : Feature) → Config f → Config f → Prop
  | .pg, oper, loc => oper = loc
  | .pfc, oper, loc => oper.admin = loc.admin
  | .appFcoe, oper, loc | .appIscsi, oper, loc | .appFip, oper, loc =>
    oper.length = loc.length ∧
      takeBytes loc.length oper.appData = takeBytes loc.length loc.appData
  | .llink, oper, loc => oper = loc

theorem takeBytes_length (n : Nat) (data : Bytes) : (takeBytes n data).length = n := by
  unfold takeBytes
  rw [List.length_append, List.length_take, List.length_replicate]
  omega

theorem takeBytes_of_length {n : Nat} {data rest : Bytes} (h : data.length = n) :
    takeBytes n (data ++ rest) = data := by
  unfold takeBytes
  have hn : n - (data ++ rest).length = 0 := by
    rw [List.length_append]
    omega
  rw [hn, List.take_left' h]
  exact List.append_nil data

theorem takeBytes_copyBytes (n : Nat) (src dst : Bytes) :
    takeBytes n (copyBytes n src dst) = takeBytes n src :=
  takeBytes_of_length (takeBytes_length n src)

theorem sameConfig_of_set {old : Config f} {u : Stores (Config f)} {r : Configured (Config f)}
    (hu : u.oper.config = (ops drv d f).copy old u.loc.config)
    (h : (ops drv d f).setConfiguration .loc u = .ok r) :
    SameConfig f r.oper u.loc.config := by
  cases f with
  | pg =>
    have h : configurePg drv d.pfc.oper.config .loc u = .ok r := h
    obtain ⟨⟨oper, status⟩, ho, h⟩ := bind_eq_ok.mp h
    cases ho
    cases h
    change ({ u.oper.config with numTcs := u.loc.config.numTcs } : PgConfig) = u.loc.config
    rw [hu]
    rfl
  | pfc =>
    cases h
    change u.oper.config.admin = u.loc.config.admin
    rw [hu]
    rfl
  | appFcoe | appIscsi =>
    cases h
    change u.oper.config.length = _ ∧ takeBytes _ u.oper.config.appData = _
    rw [hu]
    exact ⟨rfl, takeBytes_copyBytes ..⟩
  | appFip =>
    have h : Except.ok (configureFip drv u) = .ok r := h
    have hr : r.oper = u.oper.config := by
      rw [← Except.ok.inj h]
      unfold configureFip
      split <;> rfl
    rw [hr, hu]
    exact ⟨rfl, takeBytes_copyBytes ..⟩
  | llink =>
    cases h
    exact hu

/-! ### The machine of the feature -/

/-- What an accepted change of a feature leads to: without Advertise the operational store has
it, elsewhere the feature waits. -/
def TakesEffect (d : Device) (f : Feature) : Prop :=
  (d.prot f).advertise = false ∧ SameConfig f (d.get f).oper.config (d.get f).loc.config ∧
      (d.prot f).operMode = (d.prot f).enable ∨
    (d.prot f).syncd = false

theorem machine_off {d₀ : Device} {dup adds : Bool} {ctrl peerCtrl : ControlProtocolAttribs}
    {v w : Stores (Config f)} {st : CmdStatus} (hst : v.feat.state ≠ .closed)
    (h : v.featureMachine (ops drv d₀ f) .loc dup adds ctrl peerCtrl = .ok (w, st))
    (ha : v.feat.advertise = false) :
    w.feat.operMode = w.feat.enable ∧ SameConfig f w.oper.config w.loc.config := by
  have hframe := Stores.featureMachine_frame hst h
  rw [Stores.featureMachine_eq hst] at h
  have hadv : (v.opened dup ctrl peerCtrl).feat.advertise = false :=
    Stores.opened_kept.advertise.trans ha
  obtain ⟨hmode, u, r, hconfig, hcopy, hset, hoper⟩ := Stores.listen_loc_off h hadv
  rw [← hconfig] at hcopy
  rw [hmode, hoper, hframe.config, ← hconfig]
  exact ⟨hframe.kept.enable.symm, sameConfig_of_set hcopy hset⟩

theorem machine_on {d₀ : Device} {dup adds : Bool} {ctrl peerCtrl : ControlProtocolAttribs}
    {v w : Stores (Config f)} {st : CmdStatus} (hst : v.feat.state ≠ .closed)
    (h : v.featureMachine (ops drv d₀ f) .loc dup adds ctrl peerCtrl = .ok (w, st))
    (ha : v.feat.advertise = true) :
    w.feat.syncd = false ∧ w.feat.forceSend = v.feat.forceSend := by
  rw [Stores.featureMachine_eq hst] at h
  have hadv : (v.opened dup ctrl peerCtrl).feat.advertise = true :=
    Stores.opened_kept.advertise.trans ha
  have hmove := (Stores.listen_loc h).2.1
  refine ⟨?_, hmove.forceSend.trans Stores.opened_forceSend⟩
  cases hs : (v.opened dup ctrl peerCtrl).feat.syncd with
  | true =>
    rw [(hmove.synced hs).1, hadv]
    rfl
  | false => exact (hmove.waiting hs).1

theorem Calls.localValues {calls : List (ChangeEvent × Nat)} (h : Calls drv d calls d')
    (halive : Alive d) (f : Feature) : localValues d' f = localValues d f := by
  induction h with
  | nil d => rfl
  | skip _ _ ih => exact ih halive
  | @call d d₁ d' call calls st hc _ ih =>
    rw [ih (halive.calls (.call hc (.nil d₁)))]
    by_cases hf : target call = some f
    · cases ha : d.active with
      | false => rw [Calls.inactive (.call hc (.nil d₁)) ha]
      | true =>
        obtain ⟨v, hv, rfl⟩ := (runFeatureProtocol_eq_ok ha hf).mp hc
        have hframe := Stores.featureMachine_frame (halive.feat f) hv
        have hopened : Stores.Kept _ ((d.get f).opened (dupOf d f) d.ctrl d.peerCtrl).feat :=
          Stores.opened_kept
        have hconfig := hframe.config.trans Stores.opened_config
        unfold Dcbx.localValues
        rw [Device.prot, Device.prot, Device.set_get_self, hframe.kept.enable,
          hframe.kept.willing, hframe.kept.advertise, hconfig, hopened.enable, hopened.willing,
          hopened.advertise]
    · unfold Dcbx.localValues
      rw [Device.prot, Device.prot, (runFeatureProtocol_frame hc).2 f hf]

/-! ### The control machine after it -/

theorem control_same (d : Device) (flags : EventFlag) (f : Feature) :
    localValues (runControlProtocol d flags) f = localValues d f ∧
      ((runControlProtocol d flags).get f).oper = (d.get f).oper ∧
      ((runControlProtocol d flags).prot f).operMode = (d.prot f).operMode := by
  unfold localValues
  rcases (runControlProtocol_kept d flags).get with hget | hget
  · rw [Device.prot, Device.prot, hget f]
    exact ⟨rfl, rfl, rfl⟩
  · rw [Device.prot, Device.prot, hget f]
    exact ⟨rfl, rfl, rfl⟩

/-- A feature that waits after a local change goes on waiting, unless `force_send` lets the
control machine take it for synced. -/
theorem control_waits (flags : EventFlag) (ha : d.active = true) (hs : d.ctrl.state ≠ .closed)
    (hloc : flags.any (·.side = .loc) = true) (hadv : (d.prot f).advertise = true)
    (hsync : (d.prot f).syncd = false) (hlisten : (d.prot f).state = .listen) :
    ((runControlProtocol d flags).prot f).syncd =
      ((d.prot f).forceSend && d.ctrl.seqNo == d.ctrl.myAckNo) := by
  obtain ⟨d₁, h₁, -, hseq, hack, hsend⟩ := runControlProtocol_loc ha hs hloc
  have hnot : featuresSynched d₁ = false := by
    rw [Bool.eq_false_iff]
    intro h
    have hf := featuresSynched_iff.mp h f (by rw [Device.prot, h₁.get f]; exact hlisten)
    rw [Device.prot, h₁.get f, hsync] at hf
    exact absurd hf.1 (by decide)
  have hnew : newToSend d₁ = (d.ctrl.seqNo == d.ctrl.myAckNo) := by
    unfold newToSend
    rw [hnot, hseq, hack]
    simp
  rcases hsend with ⟨hn, h'⟩ | ⟨hn, h'⟩
  · rw [hnew] at hn
    rw [Device.prot, h'.get f, Device.prot, h₁.get f, hn, Bool.and_true]
    change ((d.prot f).syncd || !(d.prot f).advertise || (d.prot f).forceSend) = _
    rw [hsync, hadv]
    rfl
  · rw [hnew] at hn
    rw [Device.prot, h'.get f, h₁.get f, hn, Bool.and_false]
    exact hsync

/-! ### The change -/

/-- The feature machine runs for a local change of the feature, and finds its stores. -/
def Notified (w : Write) (f : Feature) : Prop :=
  ∃ call ∈ w.calls, call.1.side = .loc ∧ target call = some f

/-- An accepted change reaches the machine of the feature, and takes effect there. -/
def Reaches (persist : Persist) (p : Put) (d d' : Device) (f : Feature) : Prop :=
  ∃ w, p.write persist d = .ok w ∧ Notified w f ∧ TakesEffect d' f

/-- The change of a feature that its setter names takes effect, unless `force_send` lets the
control machine take an advertised feature for synced. -/
theorem takesEffect_iff {persist : Persist} {p : Put} {w : Write} (halive : Alive d)
    (ha : d.active = true) (hw : p.write persist d = .ok w) (hr : Raised d p w f)
    (hl : f ≠ .llink) (hfin : w.finish drv = .ok d') :
    TakesEffect d' f ↔ ¬ (p.protocol.advertise = true ∧ (d.prot f).forceSend = true ∧
      d.ctrl.seqNo = d.ctrl.myAckNo) := by
  obtain ⟨hwrite, -⟩ := write_cases hw
  obtain ⟨hcalls, hflags⟩ := raised_calls hr
  have hwa : w.dev.active = true := hwrite.same.active.trans ha
  have hwalive : Alive w.dev :=
    ⟨by rw [hwrite.same.ctrl]; exact halive.ctrl,
      fun g => by rw [(hwrite.stores g).prot.state]; exact halive.feat g⟩
  obtain ⟨mid, ran, -, ⟨hidle, -⟩ | ⟨-, -, hruns, rfl⟩⟩ := finish_cases hfin
  · -- The event of the feature runs.
    rcases hidle with hi | hi
    · rw [hr.run] at hi
      cases hi
    · exact absurd (hwa.symm.trans hi) (by decide)
  have htarget : target (f.localEvent, f.localSubtype) = some f := by
    rw [target_local, if_neg hl]
  have hmid := hwalive.calls hruns
  have hsame := hruns.sameControl
  have hvalues := hruns.localValues hwalive f
  rw [hcalls] at hruns
  obtain ⟨d₀, st, -, -, hm⟩ := (hruns.ran_or_stopped (List.mem_singleton.mpr rfl) htarget
    (by simp) hwa).resolve_right
    fun h => absurd ((localEvent_side f).symm.trans h.1.1) (by decide)
  dsimp only at hm
  rw [localEvent_side f] at hm
  have hadvMid : (mid.prot f).advertise = p.protocol.advertise := by
    rw [← hr.advertise]
    exact congrArg (·.2.2.1) hvalues
  obtain ⟨hlv, hoper, hmode⟩ := control_same mid w.flags f
  have hadv : ((runControlProtocol mid w.flags).prot f).advertise = p.protocol.advertise :=
    (congrArg (·.2.2.1) hlv).trans hadvMid
  cases hp : p.protocol.advertise with
  | false =>
    -- F5: the operational store is set at once.
    have hoff := machine_off (hwalive.feat f) hm (hr.advertise.trans hp)
    refine iff_of_true (.inl ⟨hadv.trans hp, ?_, ?_⟩) (fun h => absurd h.1 (by decide))
    · rw [hoper, show ((runControlProtocol mid w.flags).get f).loc.config =
        (mid.get f).loc.config from congrArg (·.2.2.2) hlv]
      exact hoff.2
    · rw [hmode, show ((runControlProtocol mid w.flags).prot f).enable = (mid.prot f).enable
        from congrArg (·.1) hlv]
      exact hoff.1
  | true =>
    obtain ⟨hsync, hforce⟩ := machine_on (hwalive.feat f) hm (hr.advertise.trans hp)
    have hforce : (mid.prot f).forceSend = (d.prot f).forceSend :=
      hforce.trans (hwrite.stores f).prot.forceSend
    have hlisten : (mid.prot f).state = .listen := by
      have hkept := (Stores.featureMachine_frame (hwalive.feat f) hm).kept.state
      exact hkept.trans (Stores.opened_state (hwalive.feat f))
    have hwaits := control_waits w.flags (hsame.active.trans hwa) hmid.ctrl
      (by rw [hflags]; simp [localEvent_side]) (hadvMid.trans hp) hsync hlisten
    rw [hforce, hsame.ctrl, hwrite.same.ctrl] at hwaits
    have hadv : ((runControlProtocol mid w.flags).prot f).advertise = true := hadv.trans hp
    unfold TakesEffect
    rw [hwaits, hadv]
    simp

/-- An accepted change of a feature reaches its machine and takes effect exactly when the
setter names the feature, the feature is not the logical link, and the control machine does
not take it for synced because of `force_send`. -/
theorem reaches_iff {s : Station} {persist : Persist} {p : Put}
    (hs : dcbxSystem.Reachable s) (ha : s.dev.active = true)
    (h : put drv persist p s.dev = .ok (d', .success))
    (hne : localValues d' f ≠ localValues s.dev f) :
    Reaches persist p s.dev d' f ↔
      p.feature = some f ∧ f ≠ .llink ∧
        ¬ (p.protocol.advertise = true ∧ (s.dev.prot f).forceSend = true ∧
          s.dev.ctrl.seqNo = s.dev.ctrl.myAckNo) := by
  have halive := alive_of_reachable hs
  obtain ⟨w, hw, h⟩ := bind_eq_ok.mp h
  obtain ⟨dev, hfin, h⟩ := bind_eq_ok.mp h
  obtain ⟨hdev, hst⟩ := Prod.mk.inj (Except.ok.inj h)
  cases hdev
  obtain ⟨-, hu | ⟨g, hr⟩⟩ := write_cases hw
  · -- Nothing was written.
    have hsame : d' = s.dev := by
      obtain ⟨mid, ran, -, ⟨-, -, hd⟩ | ⟨hrun, -⟩⟩ := finish_cases hfin
      · rw [hd, hu.dev hst]
      · exact absurd hu.run hrun
    rw [hsame] at hne
    exact absurd rfl hne
  obtain ⟨hcalls, -⟩ := raised_calls hr
  -- The only call finds the feature that the setter names, or nothing.
  have hnotified : Notified w f ↔ p.feature = some f ∧ f ≠ .llink := by
    unfold Notified
    rw [hcalls, hr.feature]
    constructor
    · rintro ⟨call, hc, -, ht⟩
      rw [List.mem_singleton.mp hc, target_local] at ht
      split at ht
      · cases ht
      · rename_i hl
        cases ht
        exact ⟨rfl, hl⟩
    · rintro ⟨hg, hl⟩
      cases hg
      refine ⟨_, List.mem_singleton.mpr rfl, localEvent_side f, ?_⟩
      rw [target_local, if_neg hl]
  constructor
  · rintro ⟨w', hw', hn, ht⟩
    rw [hw] at hw'
    cases hw'
    obtain ⟨hf, hl⟩ := hnotified.mp hn
    cases Option.some.inj (hr.feature.symm.trans hf)
    exact ⟨hf, hl, (takesEffect_iff halive ha hw hr hl hfin).mp ht⟩
  · rintro ⟨hf, hl, hc⟩
    cases Option.some.inj (hr.feature.symm.trans hf)
    exact ⟨w, hw, hnotified.mpr ⟨hf, hl⟩, (takesEffect_iff halive ha hw hr hl hfin).mpr hc⟩

/-- PFC that is switched off reaches its machine. -/
theorem pfcOff_reaches :
    ∃ s d', dcbxSystem.run (plainStation 2) [plainInput (.setActive true)] = .ok s ∧
      put obedientDriver (fun _ => true) (.pfc { config := {} }) s.dev = .ok (d', .success) ∧
      Reaches (fun _ => true) (.pfc { config := {} }) s.dev d' .pfc := by
  obtain ⟨s, d', hrun, hput, ha, hne⟩ : ∃ s d',
      dcbxSystem.run (plainStation 2) [plainInput (.setActive true)] = .ok s ∧
      put obedientDriver (fun _ => true) (.pfc { config := {} }) s.dev = .ok (d', .success) ∧
      s.dev.active = true ∧ localValues d' .pfc ≠ localValues s.dev .pfc :=
    ⟨_, _, rfl, rfl, rfl, by decide⟩
  exact ⟨s, d', hrun, hput,
    (reaches_iff ⟨_, _, plainStation_fresh 2, hrun⟩ ha hput hne).mpr
      ⟨rfl, by decide, fun h => absurd h.1 (by decide)⟩⟩

/-- A logical link that is switched off reaches no machine. -/
theorem not_reaches :
    ¬ ∀ (s : Station) (drv : Driver) (persist : Persist) (p : Put) (d' : Device) (f : Feature),
      dcbxSystem.Reachable s → s.dev.active = true →
      put drv persist p s.dev = .ok (d', .success) →
      localValues d' f ≠ localValues s.dev f → Reaches persist p s.dev d' f := by
  intro h
  obtain ⟨s, d', hrun, hput, ha, hne, hnone⟩ : ∃ s d',
      dcbxSystem.run (plainStation 2) [plainInput (.setActive true)] = .ok s ∧
      put obedientDriver (fun _ => true) (.llink 0 { config := {} }) s.dev =
        .ok (d', .success) ∧
      s.dev.active = true ∧ localValues d' .llink ≠ localValues s.dev .llink ∧
      ∀ w, (Put.llink 0 { config := {} }).write (fun _ => true) s.dev = .ok w →
        ∀ call ∈ w.calls, target call ≠ some .llink :=
    ⟨_, _, rfl, rfl, rfl, by decide, by
      intro w hw
      rw [← Except.ok.inj hw]
      decide⟩
  obtain ⟨w, hw, ⟨call, hc, -, ht⟩, -⟩ :=
    h s _ _ _ d' .llink ⟨_, _, plainStation_fresh 2, hrun⟩ ha hput hne
  exact hnone w hw call hc ht

end Lldpad.Dcbx
