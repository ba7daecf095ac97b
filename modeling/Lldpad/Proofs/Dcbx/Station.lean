import Lldpad.Dcbx.System
import Lldpad.Proofs.Dcbx.Peer

/-!
# `Lldpad.Proofs.Dcbx.Station`: one event of a station

An event writes the stores, runs the machines of some features, and then the control machine.
`step_cases` takes an event apart into these three. `Write.calls` is the list of the feature
machines that run, and `raised_calls` computes it for a local change.

`Alive` is the first invariant: no machine of a station is closed.
-/

namespace Lldpad.Dcbx

open Lldpad.Lib

variable {drv : Driver} {d d' : Device}

/-! ### The three parts of an event -/

/-- The calls of `run_feature_protocol` after a write -/
def Write.calls (w : Write) : List (ChangeEvent × Nat) :=
  match w.run with
  | .idle => []
  | .protocol flags subtype => (featureCalls (changeSide flags subtype) flags subtype).flatten
  | .adapter => addCalls

/-- What runs after a write. `mid` is the device between the feature machines and the control
machine. -/
def Finished (drv : Driver) (w : Write) (mid dev : Device) : Prop :=
  (w.run = .idle ∨ w.dev.active = false) ∧ mid = w.dev ∧ dev = w.dev ∨
    w.run ≠ .idle ∧ w.dev.active = true ∧ Calls drv w.dev w.calls mid ∧
      dev = runControlProtocol mid w.flags

theorem Calls.inactive {calls : List (ChangeEvent × Nat)} (h : Calls drv d calls d')
    (ha : d.active = false) : d' = d := by
  induction h with
  | nil d => rfl
  | skip _ _ ih => exact ih ha
  | call hc _ ih =>
    unfold runFeatureProtocol at hc
    simp only [ha, Bool.not_false, ↓reduceIte] at hc
    cases hc
    exact ih ha

section Inactive

variable {x : Device × CmdStatus} (ha : x.1.active = false)
include ha

theorem callBlock_inactive (drv : Driver) (calls : List (ChangeEvent × Nat)) :
    ∃ st, callBlock drv x calls = .ok (x.1, st) := by
  unfold callBlock
  split
  · exact ⟨x.2, rfl⟩
  · induction calls generalizing x with
    | nil => exact ⟨x.2, rfl⟩
    | cons c cs ih =>
      have hc : callFeature drv x c = .ok (x.1, .success) := by
        unfold callFeature runFeatureProtocol
        simp only [ha, Bool.not_false, ↓reduceIte]
      rw [List.foldlM_cons, hc]
      exact ih (x := (x.1, .success)) ha (show CmdStatus.success ≠ _ by decide)

theorem callBlocks_inactive (drv : Driver) (blocks : List (List (ChangeEvent × Nat))) :
    ∃ st, blocks.foldlM (callBlock drv) x = .ok (x.1, st) := by
  induction blocks generalizing x with
  | nil => exact ⟨x.2, rfl⟩
  | cons b bs ih =>
    obtain ⟨st, hst⟩ := callBlock_inactive ha drv b
    rw [List.foldlM_cons, hst]
    exact ih (x := (x.1, st)) ha

end Inactive

variable {w : Write} {s : Station} {persist : Persist} {flags : EventFlag} {dev mid : Device}
  {e : Event} {f : Feature}

theorem runFeatures_inactive {subtype : Nat} (ha : d.active = false) :
    runFeatures drv d flags subtype = .ok d := by
  obtain ⟨st, hst⟩ := callBlocks_inactive (show (d, CmdStatus.success).1.active = false from ha) drv
    (featureCalls (changeSide flags subtype) flags subtype)
  unfold runFeatures
  rw [bind_eq_ok]
  exact ⟨_, hst, rfl⟩

theorem addCalls_found : ∀ c ∈ addCalls, c.1.side = .loc ∧ target c ≠ none := by decide

theorem features_calls {ran : Bool} (h : w.features drv = .ok (mid, ran)) :
    Calls drv w.dev w.calls mid ∧ (ran = true ↔ w.run ≠ .idle) := by
  unfold Write.features at h
  unfold Write.calls
  cases hrun : w.run with
  | idle =>
    rw [hrun] at h
    cases h
    exact ⟨.nil _, by simp⟩
  | protocol flags subtype =>
    rw [hrun] at h
    obtain ⟨d, hd, h⟩ := bind_eq_ok.mp h
    cases h
    exact ⟨runFeatures_calls hd, by simp⟩
  | adapter =>
    rw [hrun] at h
    obtain ⟨hcalls, rfl⟩ := runAdded_calls addCalls_found h
    exact ⟨hcalls, by simp⟩

theorem finish_eq (h : w.finish drv = .ok dev) :
    ∃ mid ran, w.features drv = .ok (mid, ran) ∧
      dev = if ran then runControlProtocol mid w.flags else mid := by
  unfold Write.finish at h
  unfold Write.features Write.flags
  cases hrun : w.run with
  | idle =>
    rw [hrun] at h
    cases h
    exact ⟨w.dev, false, rfl, rfl⟩
  | protocol flags subtype =>
    rw [hrun] at h
    have h : runDcbProtocol drv w.dev flags subtype = .ok dev := h
    unfold runDcbProtocol at h
    split at h
    · rename_i ha
      have ha : w.dev.active = false := by simpa using ha
      cases h
      refine ⟨w.dev, true, ?_, ?_⟩
      · rw [bind_eq_ok]
        exact ⟨w.dev, runFeatures_inactive ha, rfl⟩
      · rw [if_pos rfl, runControlProtocol_inactive ha]
    · obtain ⟨mid, hmid, h⟩ := bind_eq_ok.mp h
      cases h
      refine ⟨mid, true, ?_, rfl⟩
      rw [bind_eq_ok]
      exact ⟨mid, hmid, rfl⟩
  | adapter =>
    rw [hrun] at h
    obtain ⟨⟨mid, ran⟩, hmid, h⟩ := bind_eq_ok.mp h
    cases h
    exact ⟨mid, ran, hmid, rfl⟩

theorem finish_cases (h : w.finish drv = .ok dev) :
    ∃ mid ran, w.features drv = .ok (mid, ran) ∧ Finished drv w mid dev := by
  obtain ⟨mid, ran, hmid, rfl⟩ := finish_eq h
  obtain ⟨hcalls, hran⟩ := features_calls hmid
  refine ⟨mid, ran, hmid, ?_⟩
  by_cases hi : w.run = .idle
  · have hr : ran = false := Bool.eq_false_iff.mpr fun hr => hran.mp hr hi
    have hm : mid = w.dev := by
      unfold Write.calls at hcalls
      rw [hi] at hcalls
      cases hcalls
      rfl
    rw [if_neg (by rw [hr]; decide)]
    exact .inl ⟨.inl hi, hm, hm⟩
  · rw [if_pos (hran.mpr hi)]
    cases ha : w.dev.active with
    | false =>
      have hm : mid = w.dev := hcalls.inactive ha
      refine .inl ⟨.inr ha, hm, ?_⟩
      rw [hm, runControlProtocol_inactive ha]
    | true => exact .inr ⟨hi, ha, hcalls, rfl⟩

theorem step_cases {t : Station} {i : Input} (h : dcbxStep s i = .ok t) :
    ∃ w, i.event.write i.persist s = .ok w ∧ Finished i.drv w t.mid t.dev ∧
      t.dcbxSt = s.dcbxSt ∧ t.sent = i.event.sent s ∧
      t.changed = i.event.changed s w ∧ t.acked = i.event.acked s := by
  obtain ⟨w, hw, h⟩ := bind_eq_ok.mp h
  obtain ⟨⟨mid, ran⟩, hmid, h⟩ := bind_eq_ok.mp h
  obtain ⟨dev, hdev, h⟩ := bind_eq_ok.mp h
  cases h
  obtain ⟨mid', ran', hmid', hfin⟩ := finish_cases hdev
  -- Both computations of the features are the same.
  rw [hmid] at hmid'
  cases hmid'
  exact ⟨w, hw, hfin, rfl, rfl, rfl, rfl⟩

/-! ### The calls that are made -/

/-- `run_feature_protocol` is called with `call` after the write, and finds the device `d`. A
version that is not compatible, or an error, ends the calls. -/
def Write.CalledAt (drv : Driver) (w : Write) (call : ChangeEvent × Nat) (d : Device) : Prop :=
  match w.run with
  | .idle => False
  | .protocol flags subtype =>
    ∃ blocks blocks' calls calls' x st,
      featureCalls (changeSide flags subtype) flags subtype =
          blocks ++ (calls ++ call :: calls') :: blocks' ∧
        blocks.foldlM (callBlock drv) (w.dev, .success) = .ok x ∧
        x.2 ≠ .ctrlVersNotCompatible ∧ calls.foldlM (callFeature drv) x = .ok (d, st)
  | .adapter =>
    ∃ calls calls', addCalls = calls ++ call :: calls' ∧ runAdded drv calls w.dev = .ok (d, true)

theorem Write.CalledAt.calls {call : ChangeEvent × Nat} (h : w.CalledAt drv call d) :
    ∃ calls calls', w.calls = calls ++ call :: calls' ∧ Calls drv w.dev calls d := by
  unfold Write.CalledAt at h
  unfold Write.calls
  cases hrun : w.run with
  | idle =>
    rw [hrun] at h
    exact h.elim
  | protocol flags subtype =>
    rw [hrun] at h
    obtain ⟨blocks, blocks', calls, calls', x, st, hsplit, hblocks, hx, hcalls⟩ := h
    have hside : ∀ b ∈ blocks ++ (calls ++ call :: calls') :: blocks', ∀ c ∈ b,
        c.1.side = changeSide flags subtype := by
      rw [← hsplit]
      exact featureCalls_side
    refine ⟨blocks.flatten ++ calls, calls' ++ blocks'.flatten, ?_, ?_⟩
    · show (featureCalls (changeSide flags subtype) flags subtype).flatten = _
      rw [hsplit]
      simp
    -- The blocks before it, and then the calls of its own block
    have hfirst := callBlock_calls (fun b hb => hside b (List.mem_append_left _ hb))
      (fun h : CmdStatus.success = .ctrlVersNotCompatible => absurd h (by decide)) hblocks
    have hown := callFeature_calls
      (fun c hc => hside _ (List.mem_append_right _ (List.mem_cons_self ..)) c
        (List.mem_append_left _ hc)) (fun h => absurd h hx) hcalls
    exact hfirst.append hown.1
  | adapter =>
    rw [hrun] at h
    obtain ⟨calls, calls', hsplit, hcalls⟩ := h
    refine ⟨calls, calls', hsplit, (runAdded_calls (fun c hc => ?_) hcalls).1⟩
    refine addCalls_found c ?_
    rw [hsplit]
    exact List.mem_append_left _ hc

/-- In an event `run_feature_protocol` is called for a feature and runs its machine. `d` is the
device before, `d'` the device after, and `st` what it returns. -/
structure MachineRuns (s : Station) (i : Input) (call : ChangeEvent × Nat) (f : Feature)
    (d d' : Device) (st : CmdStatus) : Prop where
  called : ∃ w, i.event.write i.persist s = .ok w ∧ w.CalledAt i.drv call d
  active : d.active = true
  target : target call = some f
  runs : runFeatureProtocol i.drv d call.1 call.2 = .ok (d', st)

/-! ### The calls of a local change -/

/-- The subtype that reaches `run_feature_protocol` for a local change of a feature. For the
logical link it is the index that the loop over the applications leaves behind. -/
def Feature.localSubtype : Feature → Nat
  | .llink => dcbMaxApptlv
  | f => f.subtype

theorem raised_calls {p : Put} (h : Raised d p w f) :
    w.calls = [(f.localEvent, f.localSubtype)] ∧ w.flags = [f.localEvent] := by
  unfold Write.calls Write.flags
  rw [h.run]
  exact ⟨by cases f <;> decide, rfl⟩

theorem localEvent_side (f : Feature) : f.localEvent.side = .loc := by
  cases f <;> rfl

theorem target_local (f : Feature) :
    target (f.localEvent, f.localSubtype) = if f = .llink then none else some f := by
  cases f <;> decide

/-! ### The stores after an event is written -/

theorem markSent_get (st : Nat) (d : Device) (f : Feature) :
    (markSent st d).get f = d.get f ∨ (markSent st d).get f = (d.get f).markSent := by
  unfold markSent
  dsimp only
  split
  · cases f <;> first | exact .inl rfl | exact .inr rfl
  · cases f <;> exact .inr rfl

theorem localProt_of_loc (h : (d'.get f).loc = (d.get f).loc) :
    LocalProt (d.prot f) (d'.prot f) := by
  have hprot : d'.prot f = d.prot f := congrArg (·.protocol) h
  rw [hprot]
  exact .refl _

/-- What every event leaves alone when it writes the stores. -/
structure EventKept (d d' : Device) : Prop where
  prot : ∀ f, LocalProt (d.prot f) (d'.prot f)
  oper : ∀ f, (d'.get f).oper = (d.get f).oper
  hw : ∀ f, (d'.get f).hw = (d.get f).hw

theorem PeerWrite.eventKept (h : PeerWrite d d') : EventKept d d' :=
  ⟨fun f => localProt_of_loc (h.stores f).loc, fun f => (h.stores f).oper,
    fun f => (h.stores f).hw⟩

theorem DeviceWrite.eventKept (h : DeviceWrite d d') : EventKept d d' :=
  ⟨fun f => (h.stores f).prot, fun f => (h.stores f).oper, fun f => (h.stores f).hw⟩

theorem readd_get (dormant : Bool) (attribs : FullDcbAttribs) (state : DcbxState) (d : Device)
    (f : Feature) : ∃ new config,
      (readd dormant attribs state d).get f = (d.get f).takeLocal new config := by
  cases f <;> exact ⟨_, _, rfl⟩

theorem event_kept (h : e.write persist s = .ok w) : EventKept s.dev w.dev := by
  cases e with
  | put p => exact (write_cases h).1.eventKept
  | addAdapter dormant attribs state =>
    obtain ⟨a, -, h⟩ := bind_eq_ok.mp h
    cases h
    constructor
    · intro f
      obtain ⟨new, config, hf⟩ := readd_get dormant a state s.dev f
      rw [Device.prot, Device.prot, hf]
      exact (Stores.takeLocal_write ..).prot
    · intro f
      obtain ⟨new, config, hf⟩ := readd_get dormant a state s.dev f
      rw [hf]
      rfl
    · intro f
      obtain ⟨new, config, hf⟩ := readd_get dormant a state s.dev f
      rw [hf]
      rfl
  | setActive active =>
    cases h
    have hget : ∀ f, ({ s.dev with active } : Device).get f = s.dev.get f := by
      intro f
      cases f <;> rfl
    refine ⟨fun f => localProt_of_loc ?_, fun f => ?_, fun f => ?_⟩ <;> rw [hget f]
  | build =>
    cases h
    unfold dcbxBldTlv
    have hmark : EventKept s.dev (markSent s.dcbxSt s.dev) := by
      constructor
      · intro f
        rw [Device.prot, Device.prot]
        rcases markSent_get s.dcbxSt s.dev f with hf | hf
        · rw [hf]
          exact .refl _
        · rw [hf]
          exact ⟨rfl, rfl, rfl, rfl, rfl, rfl, rfl, rfl, rfl, rfl⟩
      · intro f
        rcases markSent_get s.dcbxSt s.dev f with hf | hf <;> rw [hf]
        rfl
      · intro f
        rcases markSent_get s.dcbxSt s.dev f with hf | hf <;> rw [hf]
        rfl
    split
    · exact (PeerWrite.refl _).eventKept
    · split
      · exact hmark
      · exact hmark
  | frame rx m ack =>
    obtain ⟨⟨d, apps⟩, hd, h⟩ := bind_eq_ok.mp h
    cases h
    exact (readManifest_write hd).eventKept
  | expire =>
    cases h
    exact (expirePeer_write s.dev).eventKept

/-- The control machine after an event is written: only a dormant `dcbx_add_adapter` starts it
again. -/
theorem event_ctrl (h : e.write persist s = .ok w) : w.dev.ctrl = s.dev.ctrl ∨
      ∃ attribs state, e = .addAdapter true attribs state ∧
        w.dev.ctrl = initControlProt state := by
  cases e with
  | put p => exact .inl (write_cases h).1.same.ctrl
  | addAdapter dormant attribs state =>
    obtain ⟨a, -, h⟩ := bind_eq_ok.mp h
    cases h
    cases dormant with
    | true => exact .inr ⟨attribs, state, rfl, rfl⟩
    | false => exact .inl rfl
  | setActive active =>
    cases h
    exact .inl rfl
  | build =>
    cases h
    refine .inl ?_
    have hmark : (markSent s.dcbxSt s.dev).ctrl = s.dev.ctrl := by
      unfold markSent
      dsimp only
      split <;> rfl
    unfold dcbxBldTlv
    split
    · rfl
    · split
      · exact hmark
      · exact hmark
  | frame rx m ack =>
    obtain ⟨⟨d, apps⟩, hd, h⟩ := bind_eq_ok.mp h
    cases h
    exact .inl (readManifest_write hd).ctrl
  | expire =>
    cases h
    exact .inl (expirePeer_write s.dev).ctrl

theorem event_active (h : e.write persist s = .ok w) (he : ∀ active, e ≠ .setActive active) :
    w.dev.active = s.dev.active := by
  cases e with
  | put p => exact (write_cases h).1.same.active
  | addAdapter dormant attribs state =>
    obtain ⟨a, -, h⟩ := bind_eq_ok.mp h
    cases h
    rfl
  | setActive active => exact absurd rfl (he active)
  | build =>
    cases h
    have hmark : (markSent s.dcbxSt s.dev).active = s.dev.active := by
      unfold markSent
      dsimp only
      split <;> rfl
    unfold dcbxBldTlv
    split
    · rfl
    · split
      · exact hmark
      · exact hmark
  | frame rx m ack =>
    obtain ⟨⟨d, apps⟩, hd, h⟩ := bind_eq_ok.mp h
    cases h
    exact (readManifest_write hd).active
  | expire =>
    cases h
    exact (expirePeer_write s.dev).active

/-! ### No machine is closed -/

/-- The machines of a station run, or wait for their first event. -/
structure Alive (d : Device) : Prop where
  ctrl : d.ctrl.state ≠ .closed
  feat : ∀ f, (d.prot f).state ≠ .closed

theorem Alive.calls {calls : List (ChangeEvent × Nat)} (h : Alive d)
    (hcalls : Calls drv d calls d') : Alive d' := by
  induction hcalls with
  | nil d => exact h
  | skip _ _ ih => exact ih h
  | @call d d₁ d' call calls st hc _ ih =>
    refine ih ?_
    obtain ⟨hsame, hget⟩ := runFeatureProtocol_frame hc
    refine ⟨by rw [hsame.ctrl]; exact h.ctrl, fun f => ?_⟩
    by_cases hf : target call = some f
    · cases ha : d.active with
      | false =>
        -- Nothing runs.
        rw [Calls.inactive (.call hc (.nil d₁)) ha]
        exact h.feat f
      | true =>
        obtain ⟨v, hv, rfl⟩ := (runFeatureProtocol_eq_ok ha hf).mp hc
        have hkept := (Stores.featureMachine_frame (h.feat f) hv).kept.state
        rw [Device.prot, Device.set_get_self, hkept, Stores.opened_state (h.feat f)]
        decide
    · rw [Device.prot, hget f hf]
      exact h.feat f

theorem Alive.control (h : Alive d) :
    Alive (runControlProtocol d flags) := by
  have hkept := runControlProtocol_kept d flags
  refine ⟨hkept.state h.ctrl, fun f => ?_⟩
  rcases hkept.get with hget | hget
  · rw [Device.prot, hget f]
    exact h.feat f
  · rw [Device.prot, hget f]
    exact h.feat f

theorem Alive.finished (h : Alive w.dev)
    (hfin : Finished drv w mid dev) : Alive mid ∧ Alive dev := by
  rcases hfin with ⟨-, rfl, rfl⟩ | ⟨-, -, hcalls, rfl⟩
  · exact ⟨h, h⟩
  · have hmid := h.calls hcalls
    exact ⟨hmid, hmid.control⟩

theorem Alive.write (h : Alive s.dev) (hw : e.write persist s = .ok w) : Alive w.dev := by
  constructor
  · rcases event_ctrl hw with hc | ⟨attribs, state, -, hc⟩
    · rw [hc]
      exact h.ctrl
    · rw [hc]
      exact DcbState.noConfusion
  · intro f
    rw [((event_kept hw).prot f).state]
    exact h.feat f

theorem MachineRuns.machine {i : Input} {call : ChangeEvent × Nat}
    {st : CmdStatus} (h : MachineRuns s i call f d d' st) (hs : Alive s.dev) :
    Alive d ∧ ∃ v, (d.get f).featureMachine (ops i.drv d f) call.1.side (dupOf d f)
      (call.1 = .pfc .loc) d.ctrl d.peerCtrl = .ok (v, st) ∧ d' = d.set f v := by
  obtain ⟨w, hw, hcalled⟩ := h.called
  obtain ⟨calls, calls', -, hcalls⟩ := hcalled.calls
  exact ⟨(hs.write hw).calls hcalls, (runFeatureProtocol_eq_ok h.active h.target).mp h.runs⟩

theorem alive_of_fresh {st : Nat} {attribs : FullDcbAttribs} {state : DcbxState}
    (h : newDevice st attribs state = .ok d) : Alive d := by
  obtain ⟨a, -, h⟩ := bind_eq_ok.mp h
  have h : newStores st a state = d := Except.ok.inj h
  rw [← h]
  refine ⟨DcbState.noConfusion, fun f => ?_⟩
  cases f <;> exact DcbState.noConfusion

theorem Calls.config {calls : List (ChangeEvent × Nat)} (h : Alive d)
    (hcalls : Calls drv d calls d') (f : Feature) :
    (d'.get f).loc.config = (d.get f).loc.config := by
  induction hcalls with
  | nil d => rfl
  | skip _ _ ih => exact ih h
  | @call d d₁ d' call calls st hc _ ih =>
    rw [ih (h.calls (.call hc (.nil d₁)))]
    by_cases hf : target call = some f
    · cases ha : d.active with
      | false => rw [Calls.inactive (.call hc (.nil d₁)) ha]
      | true =>
        obtain ⟨v, hv, rfl⟩ := (runFeatureProtocol_eq_ok ha hf).mp hc
        rw [Device.set_get_self, (Stores.featureMachine_frame (h.feat f) hv).config,
          Stores.opened_config]
    · rw [(runFeatureProtocol_frame hc).2 f hf]

theorem Finished.config (h : Alive w.dev) (hfin : Finished drv w mid dev) (f : Feature) :
    (dev.get f).loc.config = (w.dev.get f).loc.config := by
  rcases hfin with ⟨-, rfl, rfl⟩ | ⟨-, -, hcalls, rfl⟩
  · rfl
  · rw [← hcalls.config h f]
    rcases (runControlProtocol_kept mid w.flags).get with hget | hget
    · rw [hget f]
    · rw [hget f]
      rfl

theorem alive_of_reachable (h : dcbxSystem.Reachable s) : Alive s.dev := by
  refine h.invariant (I := fun s => Alive s.dev) ?_ ?_
  · rintro s ⟨attribs, state, hs, -⟩
    exact alive_of_fresh hs
  · intro s i t hs hstep
    obtain ⟨w, hw, hfin, -⟩ := step_cases hstep
    exact ((hs.write hw).finished hfin).2

/-! ### A station to start from -/

/-- The attributes of a device whose features are all enabled and advertised, with the default
priority groups -/
def plainAttribs : FullDcbAttribs where
  pg := { protocol := { enable := true, advertise := true }
          config := { tx := defaultTraffic, rx := defaultTraffic, numTcs := 8 } }
  pfc := { protocol := { enable := true, advertise := true }, config := { numTcs := 8 } }
  app _ := { protocol := { enable := true, advertise := true }, config := {} }
  llink := { protocol := { enable := true, advertise := true }, config := {} }

/-- A station with these attributes -/
def plainStation (st : Nat) : Station where
  dev := newStores st plainAttribs {}
  dcbxSt := st
  mid := newStores st plainAttribs {}

theorem plainStation_fresh (st : Nat) : FreshStation (plainStation st) :=
  ⟨plainAttribs, {}, rfl, rfl, rfl, fun _ => rfl⟩

/-- A driver that sets everything. -/
def obedientDriver : Driver := ⟨fun _ _ _ => true⟩

/-- An event, where the driver and the persistent storage do their part. -/
def plainInput (event : Event) : Input := ⟨obedientDriver, fun _ => true, event⟩

end Lldpad.Dcbx
