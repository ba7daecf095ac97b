import Lldpad.Proofs.Qbg.OwnMachine

/-!
# `Lldpad.Proofs.Qbg.Confirmed`: what the bridge confirmed

`cc_vsi_mode` is the mode in which a VSI of the station is confirmed. The machine sets it in
`VDP22_ASSOC_NEW` and in `VDP22_PREASSOC_NEW`, to the mode of the last answer. `vsi_mode`, the
mode that was asked for, is not looked at.

A run of the machine changes `cc_vsi_mode` only if the node waited for the answer to a request
and a successful one is there (`StGranted`). `Before` and `After` follow this answer through the
states of a run. Between two events no answer is left over (`Settled`).
-/

namespace Lldpad.Qbg

open Lldpad.Lib

/-! ### A run of the machine -/

/-- A successful answer is there for the request of the node. -/
structure StGranted (v : Vsi22) : Prop where
  state : v.smi.state = .station .stationProcwait
  ackreceived : v.smi.ackreceived = true
  respOk : v.smi.respOk = true
  status : v.status = 0
  mode : v.respVsiMode ≠ vdp22Deassoc

/-- The mode is as before, or that of the answer. -/
def Confirms (v w : Vsi22) : Prop :=
  w.ccVsiMode = v.ccVsiMode ∨ StGranted v ∧ w.ccVsiMode = v.respVsiMode

/-- No answer can be taken. -/
def Silent (smi : Vdp22smi) : Prop :=
  smi.ackreceived = false ∧ smi.respOk = false ∨ smi.txmitError ≠ 0 ∨ smi.acktimeout = true

/-- The run from `v` has taken the answer that was there. -/
structure Took (v w : Vsi22) : Prop where
  state : v.smi.state = .station .stationProcwait
  ackreceived : v.smi.ackreceived = true
  respOk : w.smi.respOk = v.smi.respOk
  status : w.status = v.status
  mode : w.respVsiMode = v.respVsiMode

/-- A node in a run from `v`, before an action -/
structure Before (v w : Vsi22) : Prop where
  cc : Confirms v w
  wait : w.smi.state = .station .stationProcwait →
    Silent w.smi ∨ Took v w ∧ w.smi.ackreceived = true
  answer : w.smi.state = .station .stationProcwait2 → Took v w
  new : w.smi.state = .station .assocNew ∨ w.smi.state = .station .preassocNew →
    StGranted v ∧ w.respVsiMode = v.respVsiMode

/-- A node in a run from `v`, after an action -/
structure After (v w : Vsi22) : Prop where
  cc : Confirms v w
  sending : w.smi.state = .station .stationProc → Silent w.smi
  wait : w.smi.state = .station .stationProcwait →
    Silent w.smi ∨ Took v w ∧ w.smi.ackreceived = true
  answer : w.smi.state = .station .stationProcwait2 → Took v w

theorem vdp22stProcess_silent (rc : Int) (x : Vsi22Ctx) : Silent (vdp22stProcess rc x).vsi.smi := by
  unfold vdp22stProcess
  split_ifs with hrc
  · exact .inl ⟨rfl, rfl⟩
  · exact .inr (.inl hrc)

@[simp] theorem vdp22stProcess_ccVsiMode (rc : Int) (x : Vsi22Ctx) :
    (vdp22stProcess rc x).vsi.ccVsiMode = x.vsi.ccVsiMode := by
  unfold vdp22stProcess
  split_ifs <;> rfl

variable {x : Vsi22Ctx}

theorem vdp22stAction_ccVsiMode (rc : Int) (hassoc : x.vsi.smi.state ≠ .station .assocNew)
    (hpreassoc : x.vsi.smi.state ≠ .station .preassocNew) :
    (vdp22stAction rc x).vsi.ccVsiMode = x.vsi.ccVsiMode := by
  unfold vdp22stAction
  dsimp only
  rw [deref_vsi]
  cases hstate : x.vsi.smi.state with
  | none => simp
  | bridge s => simp
  | station s =>
    cases s with
    | assocNew => exact absurd hstate hassoc
    | preassocNew => exact absurd hstate hpreassoc
    | _ =>
      simp [vdp22stInit, vdp22stAssocCompl, vdp22stTxdea, vdp22stStartKatimer,
        Vsi22Ctx.setFlags, Vsi22Ctx.setSmi]

theorem vdp22stAction_confirms {rc : Int}
    (hstate : x.vsi.smi.state = .station .assocNew ∨ x.vsi.smi.state = .station .preassocNew) :
    (vdp22stAction rc x).vsi.ccVsiMode = x.vsi.respVsiMode := by
  unfold vdp22stAction
  dsimp only
  rw [deref_vsi]
  rcases hstate with hstate | hstate <;> rw [hstate] <;>
    simp [vdp22stAssocNew, vdp22stAssocCompl, Vsi22Ctx.setFlags]

theorem vdp22stAction_wait {rc : Int} (hstate : x.vsi.smi.state = .station .stationProcwait ∨
      x.vsi.smi.state = .station .stationProcwait2) :
    (vdp22stAction rc x).vsi = x.vsi := by
  unfold vdp22stAction
  dsimp only
  rw [deref_vsi]
  rcases hstate with hstate | hstate <;> rw [hstate] <;> exact deref_vsi x

theorem Before.act {rc : Int} {v : Vsi22} (hx : Before v x.vsi) :
    After v (vdp22stAction rc x).vsi := by
  have hstate := vdp22stAction_state rc x
  constructor
  · by_cases hnew : x.vsi.smi.state = .station .assocNew ∨ x.vsi.smi.state = .station .preassocNew
    · obtain ⟨hgranted, hmode⟩ := hx.new hnew
      exact .inr ⟨hgranted, (vdp22stAction_confirms hnew).trans hmode⟩
    · simp only [not_or] at hnew
      have hsame := vdp22stAction_ccVsiMode rc hnew.1 hnew.2
      unfold Confirms
      rw [hsame]
      exact hx.cc
  · intro hsend
    rw [hstate] at hsend
    unfold vdp22stAction
    dsimp only
    rw [deref_vsi, hsend]
    exact vdp22stProcess_silent rc _
  · intro hwait
    rw [hstate] at hwait
    rw [vdp22stAction_wait (.inl hwait)]
    exact hx.wait hwait
  · intro hanswer
    rw [hstate] at hanswer
    rw [vdp22stAction_wait (.inr hanswer)]
    exact hx.answer hanswer

theorem After.deref {v : Vsi22} (hx : After v x.vsi) : After v x.deref.vsi := by
  rwa [deref_vsi]

theorem After.goto {v : Vsi22} (hx : After v x.vsi) {s : Vdp22State}
    (hs : s ∉ [.stationProcwait, .stationProcwait2, .assocNew, .preassocNew]) :
    Before v (x.setSmi fun smi => { smi with state := .station s }).vsi := by
  simp only [List.mem_cons, not_or, List.not_mem_nil, not_false_iff, and_true] at hs
  refine ⟨hx.cc, ?_, ?_, ?_⟩ <;> simp [Vsi22Ctx.setSmi, hs]

theorem Took.granted {v w : Vsi22} (h : Took v w) (hok : w.smi.respOk = true)
    (hbad : badError w.status = false) (hkeep : keepError w.status = false)
    (hmode : w.respVsiMode ≠ vdp22Deassoc) : StGranted v where
  state := h.state
  ackreceived := h.ackreceived
  respOk := h.respOk ▸ hok
  status := by
    rw [← h.status]
    refine Classical.byContradiction fun hne => ?_
    unfold badError at hbad
    unfold keepError at hkeep
    rw [bne_iff_ne.mpr hne, Bool.true_and] at hbad hkeep
    rw [beq_eq_false_iff_ne] at hbad
    rw [bne_eq_false_iff_eq] at hkeep
    exact hbad hkeep
  mode := h.mode ▸ hmode

theorem vdp22stProcAnswer_granted {v w : Vsi22} (h : Took v w)
    (hnew : vdp22stProcAnswer w = .assocNew ∨ vdp22stProcAnswer w = .preassocNew) :
    StGranted v := by
  unfold vdp22stProcAnswer at hnew
  split_ifs at hnew with hbad hkeep hassoc hpreassoc hdeassoc
  · simp at hnew
  · simp at hnew
  · simp at hnew
  · simp only [Bool.or_eq_true, Bool.not_eq_true', not_or, Bool.not_eq_false, Bool.not_eq_true]
      at hbad hkeep
    refine h.granted hbad.1 hbad.2 hkeep ?_
    rcases hpreassoc with hmode | hmode <;> rw [hmode] <;> decide
  · simp at hnew
  · simp only [Bool.or_eq_true, Bool.not_eq_true', not_or, Bool.not_eq_false, Bool.not_eq_true]
      at hbad hkeep
    exact h.granted hbad.1 hbad.2 hkeep hdeassoc

/-- A node between two events. No answer is left over. -/
structure Settled (v : Vsi22) : Prop where
  sending : v.smi.state ≠ .station .stationProc
  answer : v.smi.state ≠ .station .stationProcwait2
  wait : v.smi.state = .station .stationProcwait →
    v.smi.ackreceived = false ∧ v.smi.respOk = false

/-- The machine does not wait for an answer that is left over. -/
theorem After.settled {v w : Vsi22} (hx : After v w) (hrest : AtRest w.smi) :
    Before v w ∧ Settled w := by
  have hwait (h : w.smi.state = .station .stationProcwait) :
      w.smi.ackreceived = false ∧ w.smi.respOk = false := by
    obtain ⟨herr, hto, hrec⟩ := hrest.waiting (by rw [h]; rfl)
    rcases hx.wait h with (hsilent | hsilent | hsilent) | ⟨-, htook⟩
    · exact hsilent
    · exact absurd herr hsilent
    · cases hsilent.symm.trans hto
    · cases htook.symm.trans hrec
  have hstate {s : Vdp22State} (h : w.smi.state = .station s) :
      AtRest { w.smi with state := .station s } := by rwa [← h]
  refine ⟨⟨hx.cc, fun h => .inl (.inl (hwait h)), hx.answer, ?_⟩, ?_, ?_, hwait⟩
  · rintro (h | h)
    · exact (hstate h).elim
    · exact (hstate h).elim
  · exact fun h => hstate h
  · exact fun h => hstate h

/-- A move follows the answer, and stops where none is left over. -/
theorem After.move {v : Vsi22} {x y : Vsi22Ctx} {b : Bool} (hx : After v x.vsi)
    (h : vdp22stNextState x = .ok (y, b)) : Before v y.vsi ∧ (b = false → Settled y.vsi) := by
  obtain ⟨rfl, rfl, hrest⟩ | ⟨rfl, s, t, hstate, hnext, rfl⟩ := vdp22stNextState_cases h
  · exact ⟨(hx.settled hrest).1, fun _ => (hx.settled hrest).2⟩
  · refine ⟨?_, nofun⟩
    cases hnext with
    | stationProc =>
      -- The request was sent in this state.
      have hsilent := hx.sending hstate
      refine ⟨hx.cc, fun _ => .inl hsilent, ?_, ?_⟩ <;> simp [Vsi22Ctx.setSmi]
    | answered hno hreceived =>
      -- The machine does not get here without an answer.
      have htook : Took v x.vsi := by
        rcases hx.wait hstate with (hsilent | hsilent | hsilent) | htook
        · cases hsilent.1.symm.trans hreceived
        · exact absurd (.inl hsilent) hno
        · exact absurd (.inr hsilent) hno
        · exact htook.1
      have htook' : Took v (x.setSmi fun s => { s with state := .station .stationProcwait2 }).vsi :=
        ⟨htook.state, htook.ackreceived, htook.respOk, htook.status, htook.mode⟩
      refine ⟨hx.cc, ?_, fun _ => htook', ?_⟩ <;> simp [Vsi22Ctx.setSmi]
    | judged =>
      have htook := hx.answer hstate
      have hgranted := vdp22stProcAnswer_granted htook
      rcases vdp22stProcAnswer_cases x.vsi with hs | hs | hs | hs <;> rw [hs] at hgranted ⊢
      · exact hx.goto (by decide)
      · exact hx.goto (by decide)
      all_goals
        refine ⟨hx.cc, ?_, ?_, fun _ => ⟨hgranted (by simp), htook.mode⟩⟩ <;>
          simp [Vsi22Ctx.setSmi]
    | renewed =>
      rcases vdp22stKaAnswer_cases x.vsi with hs | hs | hs <;> rw [hs] <;>
        exact hx.goto (by decide)
    | _ => exact hx.goto (by decide)

/-- A node on which the machine may run. In the state that waits it has its answer, or none was
left over. -/
structure Runnable (v : Vsi22) : Prop where
  sending : v.smi.state ≠ .station .stationProc
  answer : v.smi.state ≠ .station .stationProcwait2
  wait : v.smi.state = .station .stationProcwait →
    v.smi.ackreceived = true ∨ v.smi.respOk = false

theorem vdp22stEnd_ccVsiMode (x : Vsi22Ctx) : (vdp22stEnd x).vsi.ccVsiMode = vdp22Deassoc := by
  unfold vdp22stEnd vdp22stStopKatimer vdp22stStopAcktimer Vsi22Ctx.setFlags
  dsimp only
  split_ifs <;> simp

theorem vdp22stRun_confirms {rc : Int} {x y : Vsi22Ctx} (hx : Runnable x.vsi)
    (h : vdp22stRun rc x = .ok y) :
    (Confirms x.vsi y.vsi ∨ y.vsi.ccVsiMode = vdp22Deassoc) ∧ Settled y.vsi := by
  have hstart : After x.vsi x.vsi := by
    refine ⟨.inl rfl, fun hsend => absurd hsend hx.sending, fun hwait => ?_,
      fun hanswer => absurd hanswer hx.answer⟩
    cases hreceived : x.vsi.smi.ackreceived with
    | true => exact .inr ⟨⟨hwait, hreceived, rfl, rfl, rfl⟩, rfl⟩
    | false =>
      refine .inl (.inl ⟨hreceived, (hx.wait hwait).resolve_left ?_⟩)
      rw [hreceived]
      simp
  obtain ⟨z, hz, hy⟩ := bind_eq_ok.mp h
  have hend : Confirms x.vsi z.vsi ∧ Settled z.vsi := by
    refine Machine.run_rule (P := fun s => After x.vsi s.vsi) (I := fun s => Before x.vsi s.vsi)
      (J := fun s => After x.vsi s.vsi) (Q := fun s => Confirms x.vsi s.vsi ∧ Settled s.vsi)
      ?_ ?_ ?_ ?_ hstart hz
    · exact fun s t b hs ht => (hs.deref.move ht).1
    · intro s t hs ht
      cases ht
      exact hs.act
    · exact fun s t hs ht => (hs.deref.move ht).1
    · intro s t hs ht
      obtain ⟨hbefore, hsettled⟩ := hs.deref.move ht
      exact ⟨hbefore.cc, hsettled rfl⟩
  cases hy
  split_ifs with hstate
  · refine ⟨.inr (vdp22stEnd_ccVsiMode _), ?_⟩
    have hsmi := vdp22stEnd_smi z.deref
    constructor <;> rw [hsmi, hstate] <;> simp
  · rw [deref_vsi]
    exact ⟨.inl hend.1, hend.2⟩

/-! ### The nodes of a station -/

theorem Settled.runnable {v w : Vsi22} (hv : Settled v) (hstate : w.smi.state = v.smi.state)
    (hanswer : w.smi.ackreceived = true ∨ w.smi.respOk = v.smi.respOk) : Runnable w where
  sending := by rw [hstate]; exact hv.sending
  answer := by rw [hstate]; exact hv.answer
  wait hwait := by
    rw [hstate] at hwait
    exact hanswer.imp_right fun hsame => hsame.trans (hv.wait hwait).2

theorem Settled.congr {v w : Vsi22} (hv : Settled v) (hstate : w.smi.state = v.smi.state)
    (hreceived : w.smi.ackreceived = v.smi.ackreceived) (hok : w.smi.respOk = v.smi.respOk) :
    Settled w where
  sending := by rw [hstate]; exact hv.sending
  answer := by rw [hstate]; exact hv.answer
  wait := by rw [hstate, hreceived, hok]; exact hv.wait

theorem Settled.modvsi {rc rc' : Int} {mode : UInt8} {x y : Vsi22Ctx} (hx : Settled x.vsi)
    (h : vdp22Modvsi rc mode x = .ok (y, rc')) : Settled y.vsi := by
  unfold vdp22Modvsi at h
  dsimp only at h
  split_ifs at h
  · cases h
    rwa [deref_vsi]
  · cases h
    rwa [deref_vsi]
  · obtain ⟨z, hz, hy⟩ := bind_eq_ok.mp h
    cases hy
    refine (vdp22stRun_confirms (hx.runnable ?_ (.inr ?_)) hz).2 <;>
      simp [Vsi22Ctx.setSmi, Vsi22Ctx.setFlags]

theorem Settled.expire {rc : Int} {timer : Vdp22Timer} {x y : Vsi22Ctx} (hx : Settled x.vsi)
    (hown : timer.machine = .station) (h : vdp22Expire rc timer x = .ok y) : Settled y.vsi := by
  unfold vdp22Expire at h
  split_ifs at h with hpending
  · cases h
    exact hx
  · rw [vdp22Handler_eq, hown] at h
    split_ifs at h
    · refine (vdp22stRun_confirms (hx.runnable ?_ (.inr ?_)) h).2
      all_goals
        cases timer with
        | brKato | resto => cases hown
        | _ => simp [Vsi22Ctx.setSmi, Vdp22Timer.mark]
    · cases h
      rwa [deref_vsi]

/-- A move leaves a node of a station settled. -/
theorem settled_move {c : Vdp22Ctx} {e : Vdp22Event} {h : Nat} {y : Vsi22Ctx} (hc : c.Wf)
    (hrole : c.myrole = .station) (hown : ∀ h < c.next, OwnNode .station (c.nodes h))
    (hQ : ∀ h < c.next, Settled (c.nodes h).vsi) (hm : Vsi22Move c e h y) : Settled y.vsi := by
  have hbridge : c.myrole ≠ .bridge := by rw [hrole]; decide
  have hnode : ∀ h ∈ c.que, Settled (c.nodes h).vsi := fun h hmem => hQ h (hc.lt h hmem)
  cases hm with
  | added _ hrun hnew =>
    rw [deref_vsi]
    refine (vdp22stRun_confirms ⟨?_, ?_, ?_⟩ hrun).2 <;> simp
  | refused _ hnew =>
    rw [deleteVsi_vsi]
    constructor <;> rw [hnew] <;> simp
  | modified _ hmem _ hrun => exact (hnode h hmem).modvsi hrun
  | mismatched _ hmem =>
    have hsmi := vdp22CmpStatus_smi (c.nodes h).vsi
    exact (hnode h hmem).congr (congrArg (·.state) (hsmi _)) (congrArg (·.ackreceived) (hsmi _))
      (congrArg (·.respOk) (hsmi _))
  | queried hmem =>
    obtain ⟨hsmi, -⟩ := vdp22StatusHit_smi _ (c.nodes h)
    exact (hnode h hmem).congr (congrArg (·.state) hsmi) (congrArg (·.ackreceived) hsmi)
      (congrArg (·.respOk) hsmi)
  | answered _ hmem _ _ hrun =>
    obtain ⟨deassoc, respOk, hsmi, -⟩ := vdp22BridgeSeen_smi _ (c.nodes h)
    refine (vdp22stRun_confirms ((hnode h hmem).runnable ?_ (.inl ?_)) hrun).2 <;> rw [hsmi]
  | brAdded hrole' | asked hrole' => exact absurd hrole' hbridge
  | @expired timer _ _ hlt hrun =>
    by_cases hpending : (c.nodes h).timers.count timer = 0
    · unfold vdp22Expire at hrun
      rw [if_pos hpending] at hrun
      cases hrun
      exact hQ h hlt
    · exact (hQ h hlt).expire (machine_of_pending (hown h hlt).timers hpending) hrun
  | stopped hmem =>
    have hvsi : (vdp22StopTimers (c.nodes h)).vsi = (c.nodes h).vsi := deref_vsi _
    rw [hvsi]
    exact hnode h hmem
  | started hmem =>
    have hsmi : (vdp22StartLocalchange (c.nodes h)).vsi.smi =
        { (c.nodes h).vsi.smi with localchg := true } := by
      show { (c.nodes h).deref.vsi.smi with localchg := true } = _
      rw [deref_vsi]
    refine (hnode h hmem).congr ?_ ?_ ?_ <;> rw [hsmi]

theorem settled_of_reachable {c : Vdp22Ctx} (hreach : vdp22System.Reachable c)
    (hrole : c.myrole = .station) : c.Wf ∧ ∀ h ∈ c.que, Settled (c.nodes h).vsi := by
  obtain ⟨hwf, hQ⟩ := nodes_of_reachableWhere
    (Q := fun role x => role = .station → OwnNode .station x ∧ Settled x.vsi)
    (fun {c e h y} hc hQ _ hm hrole => by
      have hown : ∀ h < c.next, OwnNode c.myrole (c.nodes h) := fun h hlt => by
        rw [hrole]
        exact (hQ h hlt hrole).1
      have hrestarted : NotRestarted c e := by
        cases e with
        | start => exact .inl hrole
        | _ => trivial
      have hy := ownNode_move hc hown hrestarted hm
      rw [hrole] at hy hown
      have hsettled : Settled y.vsi :=
        settled_move hc hrole hown (fun h hlt => (hQ h hlt hrole).2) hm
      exact ⟨hy.congr rfl rfl id, hsettled⟩)
    hreach.always
  exact ⟨hwf, fun h hmem => (hQ h (hwf.lt h hmem) hrole).2⟩

/-! ### An answer of the bridge -/

/-- A TLV of the bridge is a successful answer to the request of the node. -/
structure Successful (v vsip : Vsi22) : Prop where
  asked : v.smi.state = .station .stationProcwait
  ack : vsip.status &&& vdp22Ackbit ≠ 0
  noError : vsip.status &&& vdp22StatusMask = 0

theorem status_of_getError {x : UInt8} (h : getError x = 0) : x &&& vdp22StatusMask = 0 := by
  unfold getError at h
  split_ifs at h with hmask
  · have hand : x &&& vdp22StatusMask =
        (x &&& ~~~(vdp22Resbit ||| vdp22Ackbit)) &&& vdp22StatusMask := by
      rw [UInt8.and_assoc]
      rfl
    rw [hand, h]
    rfl
  · exact not_not.mp hmask

theorem vdp22BridgeSeen_respOk {vsip : Vsi22} (hcmp : vdp22CmpFdata x.vsi vsip = false) :
    (vdp22BridgeSeen vsip x).vsi.smi.respOk = x.vsi.smi.respOk := by
  -- The comparison looks at neither of the two.
  have hcmp' : ∀ status smi,
      vdp22CmpFdata { x.vsi with status := status, smi := smi } vsip = false := fun _ _ => hcmp
  have hsmi := vdp22CmpStatus_smi
  unfold vdp22BridgeSeen vdp22stStopAcktimer Vsi22Ctx.setSmi Vsi22Ctx.setFlags
  simp only [deref_vsi]
  split_ifs <;> simp_all

theorem vdp22CmpStatus_of_same {p vsip : Vsi22} (hcmp : vdp22CmpFdata p vsip = true) :
    vdp22CmpStatus p vsip = p := by
  unfold vdp22CmpStatus
  rw [if_neg]
  simp [hcmp]

theorem vdp22Cpfid_kept (hit from' : Vsi22) :
    (vdp22Cpfid hit from').status = hit.status ∧
      (vdp22Cpfid hit from').respVsiMode = hit.respVsiMode ∧
      (vdp22Cpfid hit from').ccVsiMode = hit.ccVsiMode := by
  unfold vdp22Cpfid
  split_ifs <;> exact ⟨rfl, rfl, rfl⟩

theorem vdp22CmpStatus_ccVsiMode (p vsip : Vsi22) :
    (vdp22CmpStatus p vsip).ccVsiMode = p.ccVsiMode := by
  unfold vdp22CmpStatus
  split_ifs <;> rfl

theorem vdp22BridgeSeen_ccVsiMode (vsip : Vsi22) (x : Vsi22Ctx) :
    (vdp22BridgeSeen vsip x).vsi.ccVsiMode = x.vsi.ccVsiMode := by
  unfold vdp22BridgeSeen vdp22stStopAcktimer Vsi22Ctx.setSmi Vsi22Ctx.setFlags
  simp only [deref_vsi]
  split_ifs <;> simp [vdp22Cpfid_kept, vdp22CmpStatus_ccVsiMode]

theorem vdp22BridgeSeen_answer {vsip : Vsi22} (hcmp : vdp22CmpFdata x.vsi vsip = true) :
    (vdp22BridgeSeen vsip x).vsi.respVsiMode = vsip.vsiMode ∧
      (vsip.vsiMode ≠ vdp22Deassoc →
        (vdp22BridgeSeen vsip x).vsi.status = getError vsip.status) := by
  have hcmp' : ∀ status smi,
      vdp22CmpFdata { x.vsi with status := status, smi := smi } vsip = true := fun _ _ => hcmp
  have hkept := vdp22Cpfid_kept
  unfold vdp22BridgeSeen vdp22stStopAcktimer Vsi22Ctx.setSmi Vsi22Ctx.setFlags
  simp only [deref_vsi]
  split_ifs <;> simp_all [vdp22CmpStatus_of_same]

theorem successful_of_granted {vsip : Vsi22} (hx : Settled x.vsi)
    (hok : responseOk .station vsip = true) (h : StGranted (vdp22BridgeSeen vsip x).vsi) :
    Successful x.vsi vsip ∧ (vdp22BridgeSeen vsip x).vsi.respVsiMode = vsip.vsiMode := by
  obtain ⟨deassoc, respOk, hsmi, -⟩ := vdp22BridgeSeen_smi vsip x
  have hstate : x.vsi.smi.state = .station .stationProcwait := by
    have hstate := h.state
    rw [hsmi] at hstate
    exact hstate
  have hcmp : vdp22CmpFdata x.vsi vsip = true := by
    refine Classical.byContradiction fun hcmp => ?_
    rw [Bool.not_eq_true] at hcmp
    have hrespOk := h.respOk
    rw [vdp22BridgeSeen_respOk hcmp, (hx.wait hstate).2] at hrespOk
    cases hrespOk
  obtain ⟨hmode, hstatus⟩ := vdp22BridgeSeen_answer hcmp
  have hdeassoc : vsip.vsiMode ≠ vdp22Deassoc := hmode ▸ h.mode
  have hack : vsip.status &&& vdp22Ackbit ≠ 0 := by
    simpa [responseOk, hdeassoc] using hok
  exact ⟨⟨hstate, hack, status_of_getError ((hstatus hdeassoc).symm.trans h.status)⟩, hmode⟩

theorem vdp22BridgeHit_cc {rc : Int} {x y : Vsi22Ctx} {vsip : Vsi22} (hx : Settled x.vsi)
    (hok : responseOk .station vsip = true) (h : vdp22BridgeHit rc vsip x = .ok y) :
    y.vsi.ccVsiMode = x.vsi.ccVsiMode ∨ y.vsi.ccVsiMode = vdp22Deassoc ∨
      Successful x.vsi vsip ∧ y.vsi.ccVsiMode = vsip.vsiMode := by
  obtain ⟨deassoc, respOk, hsmi, -⟩ := vdp22BridgeSeen_smi vsip x
  have hrunnable : Runnable (vdp22BridgeSeen vsip x).vsi := by
    refine hx.runnable ?_ (.inl ?_) <;> rw [hsmi]
  have hsame := vdp22BridgeSeen_ccVsiMode vsip x
  rcases (vdp22stRun_confirms hrunnable h).1 with (hcc | ⟨hgranted, hcc⟩) | hcc
  · exact .inl (hcc.trans hsame)
  · obtain ⟨hsuccessful, hmode⟩ := successful_of_granted hx hok hgranted
    exact .inr (.inr ⟨hsuccessful, hcc.trans hmode⟩)
  · exact .inr (.inl hcc)

/-- A TLV of the bridge leaves the confirmed mode of the VSI, disassociates it, or is a successful
answer and confirms its own mode. The mode that was asked for is not looked at. -/
theorem confirmed_of_answer (c c' : Vdp22Ctx) (vsip : Vsi22) (h : Nat)
    (hreach : vdp22System.Reachable c) (hrole : c.myrole = .station)
    (hfind : vdp22Findvsi c vsip = some h) (he : vdp22Step c (.tlv vsip) = .ok c') :
    (c'.nodes h).vsi.ccVsiMode = (c.nodes h).vsi.ccVsiMode ∨
    (c'.nodes h).vsi.ccVsiMode = vdp22Deassoc ∨
    Successful (c.nodes h).vsi vsip ∧ (c'.nodes h).vsi.ccVsiMode = vsip.vsiMode := by
  obtain ⟨-, hsettled⟩ := settled_of_reachable hreach hrole
  have hx := hsettled h (mem_of_findvsi hfind)
  change vdp22Tlv vsip c = .ok c' at he
  unfold vdp22Tlv at he
  rw [hrole] at he
  split_ifs at he with hvalid
  · change vdp22BridgeInfo vsip c = .ok c' at he
    unfold vdp22BridgeInfo at he
    rw [hfind] at he
    obtain ⟨y, hy, hput⟩ := bind_eq_ok.mp he
    cases hput
    have hcc := vdp22BridgeHit_cc hx hvalid.2.2 hy
    rw [Vdp22Ctx.put_nodes_self]
    exact hcc
  · cases he
    exact .inl rfl

/-- The answer of the bridge to a request for the VLAN `vlan` -/
def vlanAnswer (mode : UInt8) (vlan : UInt16) : Vsi22 :=
  { vsiMode := mode, status := vdp22Ackbit, vsiFmt := vdp22IdUuid, fif := vdp22FfmtVid,
    fdata := [{ vlan := vlan }] }

/-- The bridge associates a VSI that asked for it. -/
theorem associated_confirmed :
    ∃ c c', vdp22System.run (vdp22Create .station)
        [.fromEvb true true, .request (vlanVdpnl vdp22Assoc 5) true] = .ok c ∧
      vdp22Step c (.tlv (vlanAnswer vdp22Assoc 5)) = .ok c' ∧
      (c'.nodes 0).vsi.ccVsiMode = vdp22Assoc ∧
      ((c'.nodes 0).vsi.ccVsiMode = (c.nodes 0).vsi.ccVsiMode ∨
        (c'.nodes 0).vsi.ccVsiMode = vdp22Deassoc ∨
        Successful (c.nodes 0).vsi (vlanAnswer vdp22Assoc 5) ∧
          (c'.nodes 0).vsi.ccVsiMode = (vlanAnswer vdp22Assoc 5).vsiMode) := by
  obtain ⟨c, c', hrun, hrole, hfind, he, hcc⟩ : ∃ c c', vdp22System.run (vdp22Create .station)
        [.fromEvb true true, .request (vlanVdpnl vdp22Assoc 5) true] = .ok c ∧
      c.myrole = .station ∧ vdp22Findvsi c (vlanAnswer vdp22Assoc 5) = some 0 ∧
      vdp22Step c (.tlv (vlanAnswer vdp22Assoc 5)) = .ok c' ∧
      (c'.nodes 0).vsi.ccVsiMode = vdp22Assoc := ⟨_, _, rfl, rfl, rfl, rfl, rfl⟩
  exact ⟨c, c', hrun, he, hcc, confirmed_of_answer c c' (vlanAnswer vdp22Assoc 5) 0
    ⟨_, _, ⟨.station, rfl⟩, hrun⟩ hrole hfind he⟩

/-- The bridge answers a request to associate with a pre-association, and the VSI is confirmed in
a mode that it did not ask for. -/
theorem not_confirmed_as_asked :
    ¬ ∀ (c c' : Vdp22Ctx) (vsip : Vsi22) (h : Nat), vdp22System.Reachable c →
      c.myrole = .station → vdp22Findvsi c vsip = some h →
      vdp22Step c (.tlv vsip) = .ok c' →
      (c'.nodes h).vsi.ccVsiMode = (c.nodes h).vsi.ccVsiMode ∨
      (c'.nodes h).vsi.ccVsiMode = vdp22Deassoc ∨
      vsip.status &&& vdp22Ackbit ≠ 0 ∧ vsip.status &&& vdp22StatusMask = 0 ∧
        vsip.vsiMode = (c.nodes h).vsi.vsiMode ∧
        (c'.nodes h).vsi.ccVsiMode = (c.nodes h).vsi.vsiMode := by
  intro hall
  obtain ⟨c, c', hrun, hrole, hfind, he, hmode, hbefore, hafter⟩ : ∃ c c',
      vdp22System.run (vdp22Create .station)
        [.fromEvb true true, .request (vlanVdpnl vdp22Assoc 5) true] = .ok c ∧
      c.myrole = .station ∧ vdp22Findvsi c (vlanAnswer vdp22Preassoc 5) = some 0 ∧
      vdp22Step c (.tlv (vlanAnswer vdp22Preassoc 5)) = .ok c' ∧
      (c.nodes 0).vsi.vsiMode = vdp22Assoc ∧ (c.nodes 0).vsi.ccVsiMode = vdp22Deassoc ∧
      (c'.nodes 0).vsi.ccVsiMode = vdp22Preassoc := ⟨_, _, rfl, rfl, rfl, rfl, rfl, rfl, rfl⟩
  have hcc := hall c c' (vlanAnswer vdp22Preassoc 5) 0 ⟨_, _, ⟨.station, rfl⟩, hrun⟩ hrole hfind he
  rw [hmode, hbefore, hafter] at hcc
  revert hcc
  decide

end Lldpad.Qbg
