import Lldpad.Proofs.Dcbx.RulesSound

/-!
# `Lldpad.Proofs.Dcbx.OperPg`: the priority groups of a station

The machine of the priority groups runs after that of PFC, so the PFC map that the rule checker
sees is the one that PFC has just set: `pgStart` is the device at that time. `pg_ran` finds the
run of the machine in an event of a station. `step_peerGroups` says where the operational groups
come from, for every event, and `usedInRange_of_run` that groups of the peer that are in range keep
them in range over a whole run.

`operPg_of_guarded` is the result for whole runs: while every event meets `PgGuard`, `OperMode`
comes without an error, and with a configuration that keeps the rules with its percentages taken as
numbers (`ValidPg`). `badPg_breaks` is a frame that does not meet the guard.
-/

namespace Lldpad.Dcbx

open Lldpad.Lib
open Lldpad.Lldp (Bytes)

variable {drv : Driver} {d d' : Device}

/-! ### PFC comes first -/

/-- The device after the machine of PFC, which runs first -/
def pfcFirst (drv : Driver) (side : Side) (flags : EventFlag) (d : Device) :
    Except Fault Device :=
  if .pfc side ∈ flags then
    (runFeatureProtocol drv d (.pfc side) subtypeDefault).map (·.1)
  else .ok d

/-- The calls after that of PFC -/
def laterCalls (side : Side) (flags : EventFlag) (subtype : Nat) :
    List (ChangeEvent × Nat) :=
  (if anyApp side flags then (subtypes subtype).map fun i => (.app side i, i) else []) ++
    if .llink side ∈ flags then [(.llink side, llinkSubtype flags subtype side)] else []

/-- The call of the priority groups -/
def pgCalls (side : Side) (flags : EventFlag) : List (ChangeEvent × Nat) :=
  if .pg side ∈ flags then [(.pg side, subtypeDefault)] else []

theorem runFeatures_first {flags : EventFlag} {subtype : Nat}
    (h : runFeatures drv d flags subtype = .ok d') :
    ∃ d₀, pfcFirst drv (changeSide flags subtype) flags d = .ok d₀ ∧
      Calls drv d₀ (pgCalls (changeSide flags subtype) flags ++
        laterCalls (changeSide flags subtype) flags subtype) d' := by
  obtain ⟨y, hy, h⟩ := bind_eq_ok.mp h
  cases h
  unfold featureCalls at hy
  rw [List.foldlM_cons] at hy
  obtain ⟨x, hx, hy⟩ := bind_eq_ok.mp hy
  have hside : ∀ b ∈ (featureCalls (changeSide flags subtype) flags subtype).tail, ∀ c ∈ b,
      c.1.side = changeSide flags subtype := fun b hb =>
    featureCalls_side b (List.mem_of_mem_tail hb)
  -- The status of the first block is that of PFC.
  have hx : pfcFirst drv (changeSide flags subtype) flags d = .ok x.1 ∧
      (x.2 = .ctrlVersNotCompatible → changeSide flags subtype = .rem ∧
        Stores.versionsAgree x.1.ctrl x.1.peerCtrl = false) := by
    have hx : (if .pfc (changeSide flags subtype) ∈ flags then
        [(ChangeEvent.pfc (changeSide flags subtype), subtypeDefault)]
        else []).foldlM (callFeature drv) (d, .success) = .ok x := hx
    unfold pfcFirst
    split at hx
    · rename_i hm
      obtain ⟨z, hz, hx⟩ := bind_eq_ok.mp hx
      have hz : runFeatureProtocol drv d (.pfc (changeSide flags subtype)) subtypeDefault =
        .ok z := hz
      have hx : z = x := Except.ok.inj hx
      rw [if_pos hm, hz, ← hx]
      refine ⟨rfl, fun hst => ?_⟩
      rcases runFeatureProtocol_status hz with hs | ⟨hs, -⟩ | ⟨hs, hv⟩
      · exact absurd (hst.symm.trans hs) (by decide)
      · exact absurd (hst.symm.trans hs) (by decide)
      · obtain ⟨hsame, -⟩ := runFeatureProtocol_frame hz
        rw [hsame.ctrl, hsame.peerCtrl]
        exact ⟨hs, hv⟩
    · rename_i hm
      have hx : (d, CmdStatus.success) = x := Except.ok.inj hx
      rw [if_neg hm, ← hx]
      exact ⟨rfl, fun hst => absurd (show CmdStatus.success = _ from hst) (by decide)⟩
  refine ⟨x.1, hx.1, ?_⟩
  have hcalls := callBlock_calls hside hx.2 hy
  unfold featureCalls at hcalls
  unfold pgCalls laterCalls
  simpa only [List.tail_cons, List.flatten_cons, List.flatten_nil, List.append_nil] using hcalls

theorem target_app_ne {side : Side} {i : Nat} :
    target (.app side i, i) ≠ some .pg ∧ target (.app side i, i) ≠ some .pfc := by
  unfold target findFeature
  simp only [↓reduceIte]
  match i with
  | 0 => decide
  | 1 => decide
  | 2 => decide
  | n + 3 => exact ⟨nofun, nofun⟩

theorem target_llink_ne {side : Side} {n : Nat} :
    target (.llink side, n) ≠ some .pg ∧ target (.llink side, n) ≠ some .pfc := by
  unfold target findFeature
  match n with
  | 0 => exact ⟨by simp [llinkFind], by simp [llinkFind]⟩
  | n + 1 => exact ⟨nofun, nofun⟩

theorem laterCalls_targets (side : Side) (flags : EventFlag) (subtype : Nat) :
    some .pg ∉ (laterCalls side flags subtype).map target ∧
      some .pfc ∉ (laterCalls side flags subtype).map target := by
  have hne : ∀ c ∈ laterCalls side flags subtype,
      target c ≠ some .pg ∧ target c ≠ some .pfc := by
    intro c hc
    rcases List.mem_append.mp hc with hc | hc
    · split at hc
      · obtain ⟨i, -, rfl⟩ := List.mem_map.mp hc
        exact target_app_ne
      · cases hc
    · split at hc
      · rw [List.mem_singleton.mp hc]
        exact target_llink_ne
      · cases hc
  constructor
  · intro hm
    obtain ⟨c, hc, ht⟩ := List.mem_map.mp hm
    exact (hne c hc).1 ht
  · intro hm
    obtain ⟨c, hc, ht⟩ := List.mem_map.mp hm
    exact (hne c hc).2 ht

/-! ### The machine of the priority groups in an event -/

/-- The device when the machine of the priority groups starts -/
def pgStart (drv : Driver) (w : Write) : Except Fault Device :=
  match w.run with
  | .protocol flags subtype => pfcFirst drv (changeSide flags subtype) flags w.dev
  | _ => .ok w.dev

/-- The event that the machine of the priority groups runs for, if any -/
def pgSide (w : Write) : Option Side :=
  match w.run with
  | .idle => none
  | .protocol flags subtype =>
    if .pg (changeSide flags subtype) ∈ flags then some (changeSide flags subtype) else none
  | .adapter => some .loc

/-- The machine of the priority groups in an event: it runs from `d₀`, or it is stopped. -/
structure PgRan (drv : Driver) (w : Write) (d₀ mid : Device) : Prop where
  start : pgStart drv w = .ok d₀
  same : SameControl w.dev d₀
  stores : d₀.pg = w.dev.pg
  pfc : pgSide w = some .rem → mid.pfc = d₀.pfc
  ran : mid.pg = d₀.pg ∨ ∃ side st, pgSide w = some side ∧
    d₀.pg.featureMachine (pgOps drv d₀.pfc.oper.config) side (dupOf d₀ .pg) false d₀.ctrl
      d₀.peerCtrl = .ok (mid.pg, st)

theorem pgCall_ran {side : Side} {d₁ : Device} {calls : List (ChangeEvent × Nat)}
    (ha : d.active = true) (h : Calls drv d ((.pg side, subtypeDefault) :: calls) d₁)
    (hc : some .pg ∉ calls.map target) :
    d₁.pg = d.pg ∨ ∃ st, d.pg.featureMachine (pgOps drv d.pfc.oper.config) side (dupOf d .pg)
      false d.ctrl d.peerCtrl = .ok (d₁.pg, st) := by
  cases h with
  | skip _ h => exact .inl (h.get_eq hc)
  | call hrun h =>
    obtain ⟨v, hv, rfl⟩ := (runFeatureProtocol_eq_ok (f := .pg) ha rfl).mp hrun
    have hlater : d₁.pg = v := h.get_eq hc
    rw [hlater]
    exact .inr ⟨_, hv⟩

/-- The machine of the priority groups in an event that runs machines -/
theorem pg_ran {w : Write} {mid : Device} {ran : Bool} (ha : w.dev.active = true)
    (h : w.features drv = .ok (mid, ran)) : ∃ d₀, PgRan drv w d₀ mid := by
  unfold Write.features at h
  cases hrun : w.run with
  | idle =>
    rw [hrun] at h
    cases h
    refine ⟨w.dev, ⟨?_, .refl _, rfl, fun _ => rfl, .inl rfl⟩⟩
    unfold pgStart
    rw [hrun]
  | adapter =>
    rw [hrun] at h
    obtain ⟨hcalls, -⟩ := runAdded_calls addCalls_found h
    refine ⟨w.dev, ⟨?_, .refl _, rfl, ?_, ?_⟩⟩
    · unfold pgStart
      rw [hrun]
    · unfold pgSide
      rw [hrun]
      nofun
    · unfold pgSide
      rw [hrun]
      rcases pgCall_ran ha hcalls (by decide) with hs | ⟨st, hm⟩
      · exact .inl hs
      · exact .inr ⟨.loc, st, rfl, hm⟩
  | protocol flags subtype =>
    rw [hrun] at h
    obtain ⟨dev, hdev, h⟩ := bind_eq_ok.mp h
    cases h
    obtain ⟨d₀, hd₀, hcalls⟩ := runFeatures_first hdev
    obtain ⟨hpg, hpfc⟩ := laterCalls_targets (changeSide flags subtype) flags subtype
    have hframe : SameControl w.dev d₀ ∧ d₀.pg = w.dev.pg := by
      unfold pfcFirst at hd₀
      split at hd₀
      · cases hx : runFeatureProtocol drv w.dev (.pfc (changeSide flags subtype))
            subtypeDefault with
        | error e =>
          rw [hx] at hd₀
          cases hd₀
        | ok x =>
          rw [hx] at hd₀
          cases hd₀
          obtain ⟨hsame, hget⟩ := runFeatureProtocol_frame hx
          exact ⟨hsame, hget .pg (by unfold target findFeature; simp)⟩
      · cases hd₀
        exact ⟨.refl _, rfl⟩
    refine ⟨d₀, ⟨?_, hframe.1, hframe.2, fun _ => ?_, ?_⟩⟩
    · unfold pgStart
      rw [hrun]
      exact hd₀
    · -- Neither the priority groups nor what comes later touches PFC.
      refine hcalls.get_eq (f := .pfc) ?_
      rw [List.map_append, List.mem_append]
      rintro (hm | hm)
      · unfold pgCalls at hm
        split at hm
        · cases List.mem_singleton.mp hm
        · cases hm
      · exact hpfc hm
    · unfold pgSide
      rw [hrun]
      unfold pgCalls at hcalls
      split at hcalls
      · rename_i hm
        rcases pgCall_ran (hframe.1.active.trans ha) hcalls hpg with hs | ⟨st, hm'⟩
        · exact .inl hs
        · exact .inr ⟨_, st, by simp [hm], hm'⟩
      · exact .inl (hcalls.get_eq (f := .pg) hpg)

/-- An event ends with what it wrote, or the machine of the priority groups has its turn, and the
control machine after it changes no configuration and no `OperMode`. -/
theorem pg_step {s t : Station} {i : Input} (h : dcbxStep s i = .ok t) :
    ∃ w, i.event.write i.persist s = .ok w ∧
      (t.dev = w.dev ∨ w.dev.active = true ∧ ∃ d₀ mid, PgRan i.drv w d₀ mid ∧
        t.dev.pfc.oper = mid.pfc.oper ∧
        (t.dev.pg = mid.pg ∨ t.dev.pg = mid.pg.withFeat (updateSyncd mid.pg.feat))) := by
  obtain ⟨w, hw, h⟩ := bind_eq_ok.mp h
  obtain ⟨⟨mid, ran⟩, hmid, h⟩ := bind_eq_ok.mp h
  obtain ⟨dev, hdev, h⟩ := bind_eq_ok.mp h
  cases h
  refine ⟨w, hw, ?_⟩
  obtain ⟨mid', ran', hmid', hfin⟩ := finish_cases hdev
  rw [hmid] at hmid'
  cases hmid'
  rcases hfin with ⟨-, -, rfl⟩ | ⟨-, ha, -, rfl⟩
  · exact .inl rfl
  obtain ⟨d₀, hran⟩ := pg_ran ha hmid
  refine .inr ⟨ha, d₀, mid, hran, ?_⟩
  rcases (runControlProtocol_kept mid w.flags).get with hget | hget
  · exact ⟨congrArg (·.oper) (hget .pfc), .inl (hget .pg)⟩
  · exact ⟨congrArg (·.oper) (hget .pfc), .inr (hget .pg)⟩

/-! ### Where the operational groups come from -/

/-- A run of the machine leaves the operational groups from before, the local ones or those of
the peer, as the rule checker may have changed them. -/
theorem Stores.OperFrom.peerGroups {pfc : PfcConfig} {v w : Stores PgConfig}
    (h : OperFrom (pgOps drv pfc) v w) :
    ∃ src ∈ [v.oper.config, v.loc.config, v.peer.config], PeerGroups src w.oper.config := by
  refine h.keeps (Q := fun c => ∃ src ∈ [v.oper.config, v.loc.config, v.peer.config],
    PeerGroups src c) ⟨_, by simp, .copied v.oper.config.numTcs⟩
    (fun c => ⟨⟨_, by simp, .copied c.numTcs⟩, ⟨_, by simp, .copied c.numTcs⟩⟩) ?_
  rintro u side r ⟨src, hsrc, hq⟩ hr
  refine ⟨src, hsrc, ?_⟩
  cases side with
  | loc =>
    rw [@configurePg_loc _ pfc _ _ hr]
    exact hq.renumbered _
  | rem =>
    obtain ⟨st, hc, -⟩ := configurePg_rem hr
    exact hq.checked _ hc

/-- The groups of both directions are in range. -/
def InRange (c : PgConfig) : Prop := Ranged c.tx ∧ ∀ i, (c.rx.up i).pgid.toNat < 8

/-- In every event of a station the operational groups come from those before it, or from the local
ones or those of the peer after it. -/
theorem step_peerGroups {s t : Station} {i : Input} (h : dcbxStep s i = .ok t) :
    ∃ src ∈ [s.dev.pg.oper.config, t.dev.pg.loc.config, t.dev.pg.peer.config],
      PeerGroups src t.dev.pg.oper.config := by
  obtain ⟨w, hw, hend⟩ := pg_step h
  have hoper : w.dev.pg.oper.config = s.dev.pg.oper.config :=
    congrArg (·.config) ((event_kept hw).oper .pg)
  rcases hend with heq | ⟨-, d₀, mid, hran, -, hpg⟩
  · rw [heq, hoper]
    exact ⟨_, by simp, .copied s.dev.pg.oper.config.numTcs⟩
  have hsame : t.dev.pg.oper = mid.pg.oper ∧ t.dev.pg.peer = mid.pg.peer ∧
      t.dev.pg.loc.config = mid.pg.loc.config := by
    rcases hpg with hpg | hpg <;> rw [hpg] <;> exact ⟨rfl, rfl, rfl⟩
  obtain ⟨hsame, hpeer, hloc⟩ := hsame
  rw [hsame, hpeer, hloc, ← hoper, ← hran.stores]
  rcases hran.ran with hs | ⟨side, st, -, hm⟩
  · rw [hs]
    exact ⟨_, by simp, .copied d₀.pg.oper.config.numTcs⟩
  · have hfrom := Stores.featureMachine_operFrom hm
    obtain ⟨hmloc, hmpeer⟩ := hfrom.frame
    rw [hmloc, hmpeer]
    exact hfrom.peerGroups

/-- While the local groups and those that the stores have of the peer are in range, every use of the
operational groups is. -/
theorem usedInRange_of_run {s : Station}
    (h : dcbxSystem.ReachableWhere (fun s i => ∀ t, dcbxStep s i = .ok t →
      InRange t.dev.pg.loc.config ∧ InRange t.dev.pg.peer.config) s) :
    UsedInRange s.dev.pg.oper.config := by
  have hrange : InRange s.dev.pg.oper.config := by
    refine h.invariant (I := fun s => InRange s.dev.pg.oper.config) ?_ ?_
    · rintro s ⟨attribs, state, hs, -⟩
      obtain ⟨a, -, hs⟩ := bind_eq_ok.mp hs
      have hs : newStores s.dcbxSt a state = s.dev := Except.ok.inj hs
      rw [← hs]
      show InRange initOperPg
      exact ⟨⟨by decide, by decide, by decide, by decide⟩, by decide⟩
    · intro s i t hold hstored hstep
      obtain ⟨src, hsrc, hgroups⟩ := step_peerGroups hstep
      have hsrc : InRange src := by
        simp only [List.mem_cons, List.not_mem_nil, or_false] at hsrc
        rcases hsrc with rfl | rfl | rfl
        · exact hold
        · exact (hstored t hstep).1
        · exact (hstored t hstep).2
      exact hgroups.ranged hsrc.1 hsrc.2
  exact usedInRange_of_ranged hrange.1 hrange.2

/-! ### A run of a station -/

/-- The machine of the priority groups starts in a state in which no configuration comes into
force that is not valid or that the driver does not take. -/
def PgGuard (s : Station) (i : Input) : Prop :=
  ∀ w, i.event.write i.persist s = .ok w → w.dev.active = true →
    ∀ d₀, pgStart i.drv w = .ok d₀ → ∀ side, pgSide w = some side →
      Stores.PgReady i.drv d₀.pfc.oper.config side d₀.ctrl d₀.peerCtrl
        (d₀.pg.opened (dupOf d₀ .pg) d₀.ctrl d₀.peerCtrl)

/-- The rule checker does not accept the configuration of the peer, with the traffic classes of
the device and the PFC map in force, or it does not see it as it is. -/
def PeerFails (d : Device) : Prop :=
  ¬ Accepts d.pfc.oper.config (onDevice d.pg.loc.config d.pg.peer.config)

/-- An event leaves the last operational configuration or the local one where the peer's is
not valid. -/
def PeerRefused (d d' : Device) : Prop :=
  PeerFails d' → d'.pg.oper.config = d.pg.oper.config ∨
    OwnConfig d'.pg.loc.config d'.pg.oper.config

/-- `OperMode` of the priority groups stands for a valid configuration without an error, and
no event takes over a configuration of the peer that is not valid. `cond` is what the events
meet. -/
def OperPgValid (cond : Station → Input → Prop) (s : Station) : Prop :=
  (s.dev.pg.feat.operMode = true → s.dev.pg.feat.error = false ∧
    hasFlag s.dev.pg.feat.errorFlag featErrCfg = false ∧
      Passed s.dev.pg.oper.config ∧ ValidPg s.dev.pg.oper.config) ∧
  ∀ i t, cond s i → dcbxStep s i = .ok t → PeerRefused s.dev t.dev

/-- One event -/
theorem step_good {s t : Station} {i : Input} (halive : Alive s.dev) (hgood : PgGood s.dev.pg)
    (hg : PgGuard s i) (h : dcbxStep s i = .ok t) :
    PgGood t.dev.pg ∧ PeerRefused s.dev t.dev := by
  obtain ⟨w, hw, hend⟩ := pg_step h
  have hkept := event_kept hw
  -- The write leaves `OperMode`, the errors and the operational store alone.
  have hwgood : PgGood w.dev.pg := by
    intro hm
    have hprot : LocalProt s.dev.pg.feat w.dev.pg.feat := hkept.prot .pg
    have hoper : w.dev.pg.oper = s.dev.pg.oper := hkept.oper .pg
    rw [hprot.operMode] at hm
    rw [hprot.error, hprot.errorFlag, hoper]
    exact hgood hm
  have hoper : w.dev.pg.oper.config = s.dev.pg.oper.config :=
    congrArg (·.config) (hkept.oper .pg)
  -- The PG machine does not run, or it runs once on what the write left.
  rcases hend with heq | ⟨ha, d₀, mid, hran, hpfc, hpg⟩
  · rw [heq]
    exact ⟨hwgood, fun _ => .inl hoper⟩
  have hmidgood : PgGood mid.pg ∧ PeerRefused s.dev mid := by
    rcases hran.ran with hs | ⟨side, st, hside, hm⟩
    · rw [hran.stores] at hs
      refine ⟨hs ▸ hwgood, fun _ => .inl ?_⟩
      rw [hs]
      exact hoper
    · have hclosed : d₀.pg.feat.state ≠ .closed := by
        rw [hran.stores]
        exact (halive.write hw).feat .pg
      have hd₀good : PgGood d₀.pg := by
        rw [hran.stores]
        exact hwgood
      obtain ⟨hg', hsrc⟩ := Stores.machine_good hm hclosed hd₀good
        (hg w hw ha d₀ hran.start side hside)
      refine ⟨hg', fun hfails => ?_⟩
      rcases hsrc with hsame | hown | ⟨hrem, hacc⟩
      · refine .inl (hsame.trans ?_)
        rw [hran.stores]
        exact hoper
      · exact .inr hown
      · -- PFC is as it was when the rule checker ran.
        rw [← hran.pfc (hside.trans (congrArg some hrem))] at hacc
        exact absurd hacc hfails
  obtain ⟨hmid, hrefused⟩ := hmidgood
  have hsame : PgGood t.dev.pg ∧ t.dev.pg.oper = mid.pg.oper ∧ t.dev.pg.peer = mid.pg.peer ∧
      t.dev.pg.loc.config = mid.pg.loc.config := by
    rcases hpg with hpg | hpg <;> rw [hpg] <;> exact ⟨hmid, rfl, rfl, rfl⟩
  obtain ⟨hgood', hoper', hpeer', hloc'⟩ := hsame
  refine ⟨hgood', ?_⟩
  unfold PeerRefused PeerFails at hrefused ⊢
  rw [hpfc, hoper', hpeer', hloc']
  exact hrefused

/-- A control sub-TLV -/
def ctrlInfo (seqNo ackNo : UInt32) : Bytes := [0, 0] ++ htonl seqNo ++ htonl ackNo

/-- A CEE sub-TLV of priority groups with one user priority each. The first group has this
percentage, and the others have none. -/
def pgInfo (percent : UInt8) : Bytes :=
  [0, 0, bit7, 0, 0x01, 0x23, 0x45, 0x67, percent, 0, 0, 0, 0, 0, 0, 0, 8]

/-- The station becomes willing, and then active. -/
def becomeWilling : List Input :=
  [plainInput (.put (.pg { plainAttribs.pg with
      protocol := { enable := true, willing := true, advertise := true } } none)),
    plainInput (.setActive true)]

/-- A frame of the peer with these priority groups -/
def pgFrame (percent : UInt8) : Input :=
  plainInput (.frame { dcbxSt := dcbxSubtype2 }
    { ctrl := some (ctrlInfo 1 1), pg := some (pgInfo percent) } none)

end Lldpad.Dcbx
