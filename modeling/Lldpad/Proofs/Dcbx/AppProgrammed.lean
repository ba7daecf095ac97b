import Lldpad.Proofs.Dcbx.Station

/-!
# `Lldpad.Proofs.Dcbx.AppProgrammed`: what the driver is told about an application

The machine of an application copies a configuration to the operational store and then calls
`set_configuration`. `ConfigRule` is the rule for what all its branches bring about: a branch
calls `set_configuration` last, or leaves the operational store and the driver alone.
-/

namespace Lldpad.Dcbx

open Lldpad.Lib

variable {C : Type}

namespace Stores

/-! ### A rule for the machine -/

/-- A relation that holds between the stores before and after the machine when it holds for a
call of `set_configuration`, and where neither the operational store nor the driver is
touched. -/
structure ConfigRule (o : FeatureOps C) (R : Stores C → Stores C → Prop) : Prop where
  trans {u v w : Stores C} : R u v → R v w → R u w
  keep {v w : Stores C} : w.oper = v.oper → w.hw = v.hw →
    (w.feat.operMode = true → v.feat.operMode = true) → R v w
  set {v x : Stores C} {side : Side} {r : Configured C} (p : FeatureProtocolAttribs) :
    o.setConfiguration side x = .ok r → x.oper.protocol = v.oper.protocol → x.hw = v.hw →
      R v ((x.configured r).withFeat p)

section Rule

variable {o : FeatureOps C} {R : Stores C → Stores C → Prop} (hR : ConfigRule o R)
variable {side : Side} {v w x : Stores C} {ctrl peerCtrl : ControlProtocolAttribs}
include hR

namespace ConfigRule

theorem trySet (h : x.trySetConfiguration o side = .ok w)
    (hoper : x.oper.protocol = v.oper.protocol) (hhw : x.hw = v.hw) : R v w := by
  obtain ⟨r, hr, rfl⟩ := trySetConfiguration_eq_ok.mp h
  exact hR.set x.feat hr hoper hhw

theorem setOrFlag (h : x.setOrFlag o side = .ok w)
    (hoper : x.oper.protocol = v.oper.protocol) (hhw : x.hw = v.hw) : R v w := by
  obtain ⟨r, hr, rfl⟩ := setOrFlag_eq_ok.mp h
  exact hR.set _ hr hoper hhw

theorem setOrFail (h : x.setOrFail o side = .ok w)
    (hoper : x.oper.protocol = v.oper.protocol) (hhw : x.hw = v.hw) : R v w := by
  obtain ⟨r, hr, rfl⟩ := setOrFail_eq_ok.mp h
  exact hR.set _ hr hoper hhw

theorem settle {src : Side} {operMode : Bool} (h : v.settle o src operMode = .ok w) :
    R v w := by
  unfold Stores.settle at h
  dsimp only at h
  split at h
  · exact hR.setOrFlag h rfl rfl
  · exact hR.setOrFail h rfl rfl

theorem incompatible (h : v.incompatible o = .ok w) : R v w := by
  obtain ⟨u, hu, h⟩ := bind_eq_ok.mp h
  cases h
  exact hR.trans (hR.setOrFlag hu rfl rfl) (hR.keep rfl rfl id)

theorem decideOper (h : v.decideOper o = .ok w) : R v w := by
  have hvu : R v (v.withFeat { v.feat with peerWilling := v.peerFeat.willing }) :=
    hR.keep rfl rfl id
  rcases decideOper_cases h with ⟨src, mode, h⟩ | h
  · have hsettled := hR.settle h
    exact hR.trans hvu hsettled
  · have hfailed := hR.incompatible h
    exact hR.trans hvu hfailed

theorem errProt {err : Bool} (h : v.errProt o ctrl err = .ok w) : R v w := by
  obtain ⟨u, hu, h⟩ := bind_eq_ok.mp h
  have huw : R u w := by
    split at h
    · cases h
      exact hR.keep rfl rfl id
    · cases h
      exact hR.keep rfl rfl id
  refine hR.trans ?_ huw
  unfold stopOnError at hu
  split at hu
  · exact hR.trySet hu rfl rfl
  · cases hu
    exact hR.keep rfl rfl id

theorem answered (h : v.answered o ctrl = .ok w) : R v w := by
  unfold Stores.answered at h
  split at h
  · obtain ⟨u, hu, h⟩ := bind_eq_ok.mp h
    exact hR.trans (hR.setOrFlag hu rfl rfl) (hR.errProt h)
  split at h
  · cases h
    exact hR.keep rfl rfl id
  dsimp only at h
  split at h
  · cases h
    exact hR.keep rfl rfl id
  · obtain ⟨u, hu, h⟩ := bind_eq_ok.mp h
    have hsync : R v (v.withFeat { v.feat with syncd := true }) := hR.keep rfl rfl id
    exact hR.trans hsync (hR.trans (hR.decideOper hu) (hR.errProt h))

theorem remoteChange (h : v.remoteChange o ctrl peerCtrl = .ok w) : R v w := by
  unfold Stores.remoteChange at h
  split at h
  · exact hR.trySet h rfl rfl
  split at h
  · exact hR.trySet h rfl rfl
  dsimp only at h
  have hflag : R v (v.withFeat { v.feat with
      errorFlag := putFlag v.feat.errorFlag featErrNoTlv false }) := hR.keep rfl rfl id
  split at h
  · cases h
    exact hflag
  · exact hR.trans hflag (hR.answered h)

theorem listen {justAdded : Bool} {st : CmdStatus}
    (h : v.listen o side justAdded ctrl peerCtrl = .ok (w, st)) : R v w := by
  obtain ⟨u, hu, hcases⟩ := listen_cases h
  have hvu : R v u := by
    rw [hu]
    split
    · unfold localChange
      split <;> exact hR.keep rfl rfl id
    · exact hR.keep rfl rfl id
  refine hR.trans hvu ?_
  rcases hcases with ⟨-, hoff, -⟩ | ⟨-, x, hx, hcases⟩
  · exact hR.trySet hoff rfl rfl
  have hux : R u x := by
    rcases hx with ⟨-, rfl⟩ | ⟨-, hx⟩
    · exact hR.keep rfl rfl id
    · exact hR.trySet hx rfl rfl
  refine hR.trans hux ?_
  rcases hcases with ⟨-, rfl, -⟩ | ⟨-, rfl, -⟩ | ⟨-, -, hrem, -⟩
  · exact hR.keep rfl rfl id
  · exact hR.keep rfl rfl id
  · exact hR.remoteChange hrem

theorem machine {dup adds : Bool} {st : CmdStatus} (hst : v.feat.state ≠ .closed)
    (h : v.featureMachine o side dup adds ctrl peerCtrl = .ok (w, st)) : R v w := by
  rw [featureMachine_eq hst] at h
  refine hR.trans ?_ (hR.listen h)
  unfold opened start
  split
  · exact hR.keep rfl rfl nofun
  · exact hR.keep rfl rfl id

end ConfigRule

end Rule

/-! ### The applications -/

/-- The driver was told the operational configuration last. -/
def Driven (v : Stores AppConfig) : Prop := v.hw.getLast? = some (v.oper.config, none)

theorem driven_rule {o : FeatureOps AppConfig}
    (hset : ∀ side v r, o.setConfiguration side v = .ok r →
      r.oper = v.oper.config ∧ r.hw = [(v.oper.config, none)]) :
    ConfigRule o fun v w => (v.feat.operMode = true → v.Driven) →
      w.feat.operMode = true → w.Driven where
  trans huv hvw hu := hvw (huv hu)
  keep hoper hhw hmode hv hw := by
    unfold Driven
    rw [hhw, hoper]
    exact hv (hmode hw)
  set := by
    intro v x side r p hr _ _ _ _
    obtain ⟨hoper, hhw⟩ := hset side x r hr
    show (x.hw ++ r.hw).getLast? = some (r.oper, none)
    rw [hhw, hoper, List.getLast?_append]
    rfl

theorem silent_rule {o : FeatureOps AppConfig}
    (hset : ∀ side v r, o.setConfiguration side v = .ok r →
      v.oper.protocol.operMode = false → r.hw = []) :
    ConfigRule o fun v w => w.oper.protocol = v.oper.protocol ∧
      (v.oper.protocol.operMode = false → w.hw = v.hw) where
  trans := by
    rintro u v w ⟨hp, hh⟩ ⟨hp', hh'⟩
    exact ⟨hp'.trans hp, fun hu => (hh' (hp ▸ hu)).trans (hh hu)⟩
  keep hoper hhw _ := ⟨congrArg _ hoper, fun _ => hhw⟩
  set := by
    intro v x side r p hr hprot hhw
    refine ⟨hprot, fun hv => ?_⟩
    show x.hw ++ r.hw = v.hw
    rw [hset side x r hr (hprot ▸ hv), List.append_nil, hhw]

end Stores

/-! ### A station -/

variable {drv : Driver} {d d' : Device}

/-- What the driver knows of a feature: an application with `OperMode` is in force as it was set
last, but FIP never reaches the driver. -/
def DriverKnows : (f : Feature) → Stores (Config f) → Prop
  | .appFcoe, v => v.feat.operMode = true → v.Driven
  | .appIscsi, v => v.feat.operMode = true → v.Driven
  | .appFip, v => v.oper.protocol.operMode = false ∧ v.hw = []
  | _, _ => True

theorem DriverKnows.keep {f : Feature} {v w : Stores (Config f)} (h : DriverKnows f v)
    (hoper : w.oper = v.oper) (hhw : w.hw = v.hw) (hmode : w.feat.operMode = v.feat.operMode) :
    DriverKnows f w := by
  cases f with
  | appFcoe | appIscsi =>
    intro hw
    unfold Stores.Driven
    rw [hhw, hoper]
    exact h (hmode ▸ hw)
  | appFip => exact ⟨by rw [hoper]; exact h.1, hhw.trans h.2⟩
  | pg | pfc | llink => exact trivial

theorem DriverKnows.machine {f : Feature} {v w : Stores (Config f)} {side : Side}
    {dup adds : Bool} {ctrl peerCtrl : ControlProtocolAttribs} {st : CmdStatus}
    (h : DriverKnows f v) (hst : v.feat.state ≠ .closed)
    (hm : v.featureMachine (ops drv d f) side dup adds ctrl peerCtrl = .ok (w, st)) :
    DriverKnows f w := by
  cases f with
  | appFcoe =>
    refine (Stores.driven_rule (o := ops drv d .appFcoe) ?_).machine hst hm h
    intro side v r hr
    cases hr
    exact ⟨rfl, rfl⟩
  | appIscsi =>
    refine (Stores.driven_rule (o := ops drv d .appIscsi) ?_).machine hst hm h
    intro side v r hr
    cases hr
    exact ⟨rfl, rfl⟩
  | appFip =>
    have hrule := (Stores.silent_rule (o := ops drv d .appFip) (by
      intro side v r hr hoff
      cases hr
      simp only [configureFip, hoff, Bool.false_eq_true, ↓reduceIte])).machine hst hm
    exact ⟨by rw [hrule.1]; exact h.1, (hrule.2 h.1).trans h.2⟩
  | pg | pfc | llink => exact trivial

theorem Calls.driverKnows {calls : List (ChangeEvent × Nat)} (ha : Alive d)
    (h : ∀ f, DriverKnows f (d.get f)) (hcalls : Calls drv d calls d') :
    ∀ f, DriverKnows f (d'.get f) := by
  induction hcalls with
  | nil d => exact h
  | skip _ _ ih => exact ih ha h
  | @call d d₁ d' call calls st hc _ ih =>
    refine ih (ha.calls (.call hc (.nil d₁))) fun f => ?_
    by_cases hf : target call = some f
    · cases hactive : d.active with
      | false =>
        rw [Calls.inactive (.call hc (.nil d₁)) hactive]
        exact h f
      | true =>
        obtain ⟨v, hv, rfl⟩ := (runFeatureProtocol_eq_ok hactive hf).mp hc
        rw [Device.set_get_self]
        exact (h f).machine (ha.feat f) hv
    · rw [(runFeatureProtocol_frame hc).2 f hf]
      exact h f

theorem write_driverKnows {s : Station} {persist : Persist} {e : Event} {w : Write}
    (h : ∀ f, DriverKnows f (s.dev.get f)) (hw : e.write persist s = .ok w) :
    ∀ f, DriverKnows f (w.dev.get f) := fun f =>
  (h f).keep ((event_kept hw).oper f) ((event_kept hw).hw f) ((event_kept hw).prot f).operMode

theorem driverKnows_of_reachable {s : Station} (h : dcbxSystem.Reachable s) :
    ∀ f, DriverKnows f (s.dev.get f) := by
  have hinv := h.invariant (I := fun s => Alive s.dev ∧ ∀ f, DriverKnows f (s.dev.get f)) ?_ ?_
  · exact hinv.2
  · rintro s ⟨attribs, state, hs, -⟩
    refine ⟨alive_of_fresh hs, ?_⟩
    obtain ⟨a, -, hs⟩ := bind_eq_ok.mp hs
    have hs : newStores s.dcbxSt a state = s.dev := Except.ok.inj hs
    rw [← hs]
    intro f
    cases f with
    | appFcoe | appIscsi => exact nofun
    | appFip => exact ⟨rfl, rfl⟩
    | pg | pfc | llink => exact trivial
  · rintro s i t ⟨ha, hknows⟩ hstep
    obtain ⟨w, hw, hfin, -⟩ := step_cases hstep
    refine ⟨((ha.write hw).finished hfin).2, ?_⟩
    have hwrite := write_driverKnows hknows hw
    rcases hfin with ⟨-, -, hdev⟩ | ⟨-, -, hcalls, hdev⟩
    · rw [hdev]
      exact hwrite
    · rw [hdev]
      have hmid := hcalls.driverKnows (ha.write hw) hwrite
      rcases (runControlProtocol_kept t.mid w.flags).get with hget | hget
      · intro f
        rw [hget f]
        exact hmid f
      · intro f
        rw [hget f]
        exact (hmid f).keep rfl rfl rfl

/-! ### The last call of the driver -/

/-- The last call of `set_hw_app` for the selector and the protocol of the application carries
the priority map of its operational store. -/
def Programmed (d : Device) (k : Fin 3) : Prop :=
  (d.setHwAppCalls (appSelector k)).getLast? = some (appgroup k (d.app k).oper.config)

theorem setHwAppCalls_eq (d : Device) (k : Fin 3) :
    d.setHwAppCalls (appSelector k) = (d.app k).hw.map fun c => appgroup k c.1 := by
  have hown : ∀ (i : Fin 3) (hw : List (AppConfig × Option Bool)),
      (hw.map fun c => appgroup i c.1).filter
          (fun a => (a.dcbAppIdtype, a.dcbAppId) = appSelector k) =
        if appSelector i = appSelector k then hw.map fun c => appgroup i c.1 else [] := by
    intro i hw
    split
    · rename_i hi
      refine List.filter_eq_self.mpr fun a ha => ?_
      obtain ⟨c, -, rfl⟩ := List.mem_map.mp ha
      exact decide_eq_true hi
    · rename_i hi
      refine List.filter_eq_nil_iff.mpr fun a ha => ?_
      obtain ⟨c, -, rfl⟩ := List.mem_map.mp ha
      exact fun h => hi (of_decide_eq_true h)
  show List.filter _ (_ ++ (_ ++ (_ ++ []))) = _
  rw [List.filter_append, List.filter_append, List.filter_append, hown, hown, hown]
  match k with
  | 0 | 1 | 2 => simp [appSelector]

theorem programmed_of_driven {k : Fin 3} (h : (d.app k).Driven) : Programmed d k := by
  unfold Programmed
  rw [setHwAppCalls_eq, List.getLast?_map, h]
  rfl

theorem not_programmed_of_silent {k : Fin 3} (h : (d.app k).hw = []) : ¬ Programmed d k := by
  unfold Programmed
  rw [setHwAppCalls_eq, h]
  nofun

theorem MachineRuns.calls {s : Station} {i : Input} {call : ChangeEvent × Nat} {f : Feature}
    {st : CmdStatus} (h : MachineRuns s i call f d d' st) :
    ∃ w, i.event.write i.persist s = .ok w ∧ ∃ calls, Calls i.drv w.dev calls d' := by
  obtain ⟨w, hw, hcalled⟩ := h.called
  obtain ⟨calls, -, -, hcalls⟩ := hcalled.calls
  exact ⟨w, hw, calls ++ [call], hcalls.append (.call h.runs (.nil d'))⟩

/-- An application whose machine ends with `OperMode` has its priority map in the driver exactly
when it is not FIP. -/
theorem app_programmed_iff {s : Station} (hs : dcbxSystem.Reachable s) {i : Input}
    {call : ChangeEvent × Nat} {k : Fin 3} {st : CmdStatus}
    (h : MachineRuns s i call (appFeature k) d d' st)
    (hmode : (d'.app k).feat.operMode = true) :
    Programmed d' k ↔ appFeature k ≠ .appFip := by
  obtain ⟨w, hw, calls, hcalls⟩ := h.calls
  have hknows := hcalls.driverKnows ((alive_of_reachable hs).write hw)
    (write_driverKnows (driverKnows_of_reachable hs) hw)
  obtain rfl | rfl | rfl : k = 0 ∨ k = 1 ∨ k = 2 := by omega
  · exact iff_of_true (programmed_of_driven (hknows .appFcoe hmode)) (by decide)
  · exact iff_of_true (programmed_of_driven (hknows .appIscsi hmode)) (by decide)
  · exact iff_of_false (not_programmed_of_silent (hknows .appFip).2) (by decide)

/-- The attributes of a device that does not advertise its applications -/
def homeAttribs : FullDcbAttribs :=
  { plainAttribs with app := fun _ => { protocol := { enable := true }, config := {} } }

/-- A station with these attributes, once it is active -/
def homeStation : Station where
  dev := { newStores dcbxSubtype2 homeAttribs {} with active := true }
  dcbxSt := dcbxSubtype2
  mid := { newStores dcbxSubtype2 homeAttribs {} with active := true }

theorem homeStation_reachable : dcbxSystem.Reachable homeStation :=
  ⟨{ dev := newStores dcbxSubtype2 homeAttribs {}, dcbxSt := dcbxSubtype2
     mid := newStores dcbxSubtype2 homeAttribs {} },
    [plainInput (.setActive true)], ⟨homeAttribs, {}, rfl, rfl, rfl, fun _ => rfl⟩, rfl⟩

/-- A new priority map for an application -/
def mapChange (k : Fin 3) : Input :=
  plainInput (.put (.app k { protocol := { enable := true, willing := true }
                             config := { length := 1, appData := [8] } }))

/-- FCoE reaches the driver. -/
theorem fcoe_programmed : ∃ d d' st,
    MachineRuns homeStation (mapChange 0) (.app .loc 0, 0) .appFcoe d d' st ∧
      (d'.app 0).feat.operMode = true ∧ Programmed d' 0 := by
  have hruns : ∃ d d' st, MachineRuns homeStation (mapChange 0) (.app .loc 0, 0) .appFcoe d d' st ∧
      (d'.app 0).feat.operMode = true :=
    ⟨_, _, _, ⟨⟨_, rfl, [[], []], _, [], [], (_, _), _, rfl, rfl, by decide, rfl⟩, rfl, rfl, rfl⟩,
      by decide +kernel⟩
  obtain ⟨d, d', st, hruns, hmode⟩ := hruns
  exact ⟨d, d', st, hruns, hmode,
    (app_programmed_iff homeStation_reachable (k := 0) hruns hmode).mpr (by decide)⟩

/-- FIP does not. -/
theorem fip_unprogrammed : dcbxSystem.Reachable homeStation ∧
    ∃ d d', MachineRuns homeStation (mapChange 2) (.app .loc 2, 2) .appFip d d' .success ∧
      (d'.app 2).feat.operMode = true ∧ ¬ Programmed d' 2 :=
  ⟨homeStation_reachable, _, _,
    ⟨⟨_, rfl, [[], []], _, [], [], (_, _), _, rfl, rfl, by decide, rfl⟩, rfl, rfl, rfl⟩,
    by decide +kernel, by unfold Programmed; decide +kernel⟩

end Lldpad.Dcbx
