import Lldpad.Proofs.Qbg.Vdp22Moves

/-!
# `Lldpad.Proofs.Qbg.Vdp22Station`: the station supervises the bridge

A station that sent a request waits for the bridge in one of three states (`Waiting`). The
acknowledgement timer ends the wait. `StationSupervised` says so, for every node.

The invariant of a run of the machine is about the three states and about the three states
in front of them, in which the request is sent. `vdp22_stop` cancels the timers of nodes
that wait, and nothing starts them again.
-/

namespace Lldpad.Qbg

open Lldpad.Lib

/-- The station sends a request in this state. -/
def isSending : Vdp22SmState → Bool
  | .station .stationProc | .station .txmitKa | .station .txmitDeassoc => true
  | _ => false

/-- The wait of the node can end: a timer is pending, or something has happened. -/
def CanLeave (x : Vsi22Ctx) : Prop :=
  0 < x.timers.ackto ∨ x.vsi.smi.acktimeout = true ∨ x.vsi.smi.ackreceived = true ∨
    x.vsi.smi.txmitError ≠ 0

/-- The node waits, and nothing has happened yet. -/
structure Awaited (x : Vsi22Ctx) : Prop where
  ackto : 0 < x.timers.ackto
  acktimeout : x.vsi.smi.acktimeout = false
  ackreceived : x.vsi.smi.ackreceived = false
  txmitError : x.vsi.smi.txmitError = 0

/-! ### What the actions leave alone -/

@[simp] theorem deleteVsi_vsi (x : Vsi22Ctx) : (vdp22DeleteVsi x).vsi = x.vsi := deref_vsi x

@[simp] theorem deleteVsi_timers (x : Vsi22Ctx) : (vdp22DeleteVsi x).timers = x.timers :=
  deref_timers x

@[simp] theorem vdp22Back_vsi (pid : Int) (x : Vsi22Ctx) : (vdp22Back pid x).vsi = x.vsi := by
  unfold vdp22Back vdp22ListdelVsi
  dsimp only
  split_ifs <;> simp

@[simp] theorem vdp22Back_timers (pid : Int) (x : Vsi22Ctx) :
    (vdp22Back pid x).timers = x.timers := by
  unfold vdp22Back vdp22ListdelVsi
  dsimp only
  split_ifs <;> simp

@[simp] theorem vdp22Nlback_vsi (x : Vsi22Ctx) : (vdp22Nlback x).vsi = x.vsi := by
  unfold vdp22Nlback
  dsimp only
  split_ifs <;> simp

@[simp] theorem vdp22Nlback_timers (x : Vsi22Ctx) : (vdp22Nlback x).timers = x.timers := by
  unfold vdp22Nlback
  dsimp only
  split_ifs <;> simp

@[simp] theorem vdp22Clntback_vsi (x : Vsi22Ctx) : (vdp22Clntback x).vsi = x.vsi := by
  unfold vdp22Clntback
  dsimp only
  split_ifs <;> simp

@[simp] theorem vdp22Clntback_timers (x : Vsi22Ctx) : (vdp22Clntback x).timers = x.timers := by
  unfold vdp22Clntback
  dsimp only
  split_ifs <;> simp

theorem vdp22stEnd_smi (x : Vsi22Ctx) : (vdp22stEnd x).vsi.smi = x.vsi.smi := by
  unfold vdp22stEnd vdp22stStopKatimer vdp22stStopAcktimer Vsi22Ctx.setFlags
  dsimp only
  split_ifs <;> simp

theorem vdp22stEnd_busy (x : Vsi22Ctx) : (vdp22stEnd x).vsi.flags.busy = false := by
  unfold vdp22stEnd vdp22stStopKatimer vdp22stStopAcktimer Vsi22Ctx.setFlags
  dsimp only
  split_ifs <;> simp

/-! ### One round of the machine -/

theorem vdp22stProcess_canLeave (rc : Int) (x : Vsi22Ctx) : CanLeave (vdp22stProcess rc x) := by
  unfold vdp22stProcess
  split_ifs with hrc
  · exact .inl (Nat.succ_pos _)
  · exact .inr (.inr (.inr hrc))

/-- After an action the node can leave the state in which it waits, and the state in which it
sends. -/
theorem vdp22stAction_canLeave (rc : Int) {x : Vsi22Ctx}
    (hx : isWaiting x.vsi.smi.state = true → CanLeave x) :
    isWaiting (vdp22stAction rc x).vsi.smi.state = true ∨
      isSending (vdp22stAction rc x).vsi.smi.state = true → CanLeave (vdp22stAction rc x) := by
  unfold vdp22stAction
  dsimp only
  rw [deref_vsi]
  cases hstate : x.vsi.smi.state with
  | none => simp [hstate, isWaiting, isSending]
  | bridge s => simp [hstate, isWaiting, isSending]
  | station s =>
    cases s with
    | stationProc | txmitKa | txmitDeassoc => exact fun _ => vdp22stProcess_canLeave rc _
    | stationProcwait | txmitKawait | txmitDeawait =>
      intro _
      have hleave := hx (by rw [hstate]; rfl)
      unfold CanLeave at hleave ⊢
      rwa [deref_vsi, deref_timers]
    | _ =>
      simp [hstate, isWaiting, isSending, vdp22stInit, vdp22stAssocNew, vdp22stAssocCompl,
        vdp22stStartKatimer, Vsi22Ctx.setFlags, Vsi22Ctx.setSmi]

theorem procAnswer_waiting (vsi : Vsi22) :
    isWaiting (.station (vdp22stProcAnswer vsi)) = false := by
  unfold vdp22stProcAnswer
  split_ifs <;> rfl

theorem kaAnswer_waiting (vsi : Vsi22) : isWaiting (.station (vdp22stKaAnswer vsi)) = false := by
  unfold vdp22stKaAnswer
  split_ifs <;> rfl

variable {x y : Vsi22Ctx}

theorem AtRest.waiting {smi : Vdp22smi} (h : AtRest smi) (hwait : isWaiting smi.state = true) :
    smi.txmitError = 0 ∧ smi.acktimeout = false ∧ smi.ackreceived = false := by
  unfold AtRest at h
  split at h <;> simp_all [isWaiting]

theorem AtRest.not_sending {smi : Vdp22smi} (h : AtRest smi) : isSending smi.state = false := by
  unfold AtRest at h
  split at h <;> simp_all [isSending]

/-- A move leads into a state that waits from the one in which the request was sent, or it
stays there because nothing has happened. -/
theorem vdp22stNextState_waiting {b : Bool}
    (h : vdp22stNextState x = .ok (y, b)) (hwait : isWaiting y.vsi.smi.state = true) :
    (b = true ∧ isSending x.vsi.smi.state = true ∧ y.timers = x.timers ∧
      y.vsi.smi = { x.vsi.smi with state := y.vsi.smi.state }) ∨
    (b = false ∧ y = x ∧ x.vsi.smi.acktimeout = false ∧ x.vsi.smi.ackreceived = false ∧
      x.vsi.smi.txmitError = 0) := by
  obtain ⟨rfl, rfl, hrest⟩ | ⟨rfl, s, t, hstate, hnext, rfl⟩ := vdp22stNextState_cases h
  · obtain ⟨herr, hto, hrec⟩ := hrest.waiting hwait
    exact .inr ⟨rfl, rfl, hto, hrec, herr⟩
  · rw [hstate]
    cases hnext with
    | stationProc | txmitKa | txmitDeassoc => exact .inl ⟨rfl, rfl, rfl, rfl⟩
    | judged => exact absurd ((procAnswer_waiting x.vsi).symm.trans hwait) (by decide)
    | renewed => exact absurd ((kaAnswer_waiting x.vsi).symm.trans hwait) (by decide)
    | _ => cases hwait

theorem vdp22stNextState_sending (h : vdp22stNextState x = .ok (y, false)) :
    isSending y.vsi.smi.state = false := by
  obtain ⟨-, rfl, hrest⟩ | ⟨hb, -⟩ := vdp22stNextState_cases h
  · exact hrest.not_sending
  · cases hb

/-- A node between two events: it is not about to send, and when it waits nothing has happened
yet and its timer is pending. -/
structure StRest (x : Vsi22Ctx) : Prop where
  sending : isSending x.vsi.smi.state = false
  awaited : isWaiting x.vsi.smi.state = true → Awaited x

/-- A node on which the machine may run. -/
def StReady (x : Vsi22Ctx) : Prop :=
  isWaiting x.vsi.smi.state = true ∨ isSending x.vsi.smi.state = true → CanLeave x

theorem StReady.move {b : Bool} (hx : StReady x)
    (h : vdp22stMoveState x = .ok (y, b)) (hwait : isWaiting y.vsi.smi.state = true) :
    CanLeave y := by
  have hderef : CanLeave x.deref ↔ CanLeave x := by
    unfold CanLeave
    rw [deref_vsi, deref_timers]
  unfold StReady at hx
  rw [← deref_vsi, ← hderef] at hx
  rcases vdp22stNextState_waiting h hwait with ⟨-, hsend, htimers, hsmi⟩ | ⟨-, rfl, -⟩
  · have hleave := hx (.inr hsend)
    unfold CanLeave at hleave ⊢
    rw [htimers, hsmi]
    exact hleave
  · exact hx (.inl hwait)

theorem vdp22stRun_rest {rc : Int} (hx : StReady x) (h : vdp22stRun rc x = .ok y) : StRest y := by
  obtain ⟨z, hz, hy⟩ := bind_eq_ok.mp h
  have hrest : StRest z := by
    refine Machine.run_rule (P := StReady)
      (I := fun x => isWaiting x.vsi.smi.state = true → CanLeave x) (J := StReady) (Q := StRest)
      ?_ ?_ ?_ ?_ hx hz
    · exact fun s t b hs ht => hs.move ht
    · intro s t hs ht
      cases ht
      exact vdp22stAction_canLeave rc hs
    · exact fun s t hs ht => hs.move ht
    · intro s t hs ht
      refine ⟨vdp22stNextState_sending ht, fun hwait => ?_⟩
      have hleave := hs.move ht hwait
      rcases vdp22stNextState_waiting ht hwait with ⟨hb, -⟩ | ⟨-, rfl, hto, hrec, herr⟩
      · cases hb
      · rcases hleave with hleave | hleave | hleave | hleave
        · exact ⟨hleave, hto, hrec, herr⟩
        · rw [hto] at hleave
          cases hleave
        · rw [hrec] at hleave
          cases hleave
        · exact absurd herr hleave
  cases hy
  split_ifs with hend
  · have hstate : (vdp22stEnd z.deref).vsi.smi.state = .station .vdpEnd := by
      rw [vdp22stEnd_smi]
      exact hend
    exact ⟨by rw [hstate]; rfl, fun hwait => by rw [hstate] at hwait; cases hwait⟩
  · refine ⟨by rw [deref_vsi]; exact hrest.sending, fun hwait => ?_⟩
    rw [deref_vsi] at hwait
    have ha := hrest.awaited hwait
    exact ⟨by rw [deref_timers]; exact ha.ackto, by rw [deref_vsi]; exact ha.acktimeout,
      by rw [deref_vsi]; exact ha.ackreceived, by rw [deref_vsi]; exact ha.txmitError⟩

/-! ### The other timers -/

/-- The timers of a node that the station machine does not know. -/
def otherTimers (t : Vsi22Timers) : Nat × Nat × Nat := (t.brKato, t.resto, t.localchange)

theorem vdp22stProcess_otherTimers (rc : Int) (x : Vsi22Ctx) :
    otherTimers (vdp22stProcess rc x).timers = otherTimers x.timers := by
  unfold vdp22stProcess
  split_ifs <;> rfl

theorem vdp22stAction_otherTimers (rc : Int) (x : Vsi22Ctx) :
    otherTimers (vdp22stAction rc x).timers = otherTimers x.timers := by
  unfold vdp22stAction
  dsimp only
  rw [← deref_timers x]
  split
  all_goals
    first
    | exact vdp22stProcess_otherTimers rc _
    | (rw [vdp22Clntback_timers]; rfl)
    | rfl

theorem vdp22stEnd_timers (x : Vsi22Ctx) :
    (vdp22stEnd x).timers = { x.timers with ackto := 0, kato := 0 } := by
  unfold vdp22stEnd vdp22stStopKatimer vdp22stStopAcktimer Vsi22Ctx.setFlags
  dsimp only
  split_ifs <;> simp

theorem vdp22stRun_otherTimers {rc : Int} (h : vdp22stRun rc x = .ok y) :
    otherTimers y.timers = otherTimers x.timers := by
  obtain ⟨z, hz, hy⟩ := bind_eq_ok.mp h
  have hsame : otherTimers z.timers = otherTimers x.timers := by
    refine Machine.run_preserves (I := fun z => otherTimers z.timers = otherTimers x.timers)
      ?_ ?_ rfl hz
    · intro s t hs ht
      cases ht
      exact (vdp22stAction_otherTimers rc s).trans hs
    · intro s t b hs ht
      rw [← deref_timers s] at hs
      rcases vdp22stNextState_eq_ok ht with hr | ⟨_, hr⟩ <;> (cases hr; exact hs)
  cases hy
  split_ifs
  · rw [vdp22stEnd_timers, deref_timers]
    exact hsame
  · rw [deref_timers, hsame]

/-! ### The nodes of a station -/

/-- A node of a station between two events. -/
structure StNode (x : Vsi22Ctx) : Prop extends StRest x where
  brKato : x.timers.brKato = 0
  resto : x.timers.resto = 0

theorem StNode.congr (hx : StNode x) (hsmi : y.vsi.smi = x.vsi.smi)
    (htimers : y.timers = x.timers) : StNode y where
  sending := by rw [hsmi]; exact hx.sending
  awaited hwait := by
    have ha := hx.awaited (by rw [← hsmi]; exact hwait)
    exact ⟨by rw [htimers]; exact ha.ackto, by rw [hsmi]; exact ha.acktimeout,
      by rw [hsmi]; exact ha.ackreceived, by rw [hsmi]; exact ha.txmitError⟩
  brKato := by rw [htimers]; exact hx.brKato
  resto := by rw [htimers]; exact hx.resto

/-- The machine may run on a node that was at rest, when something happened to it or its timer
is still pending. -/
theorem StNode.ready (hx : StNode x)
    (hstate : y.vsi.smi.state = x.vsi.smi.state) (hleave : Awaited x → CanLeave y) : StReady y := by
  intro h
  rw [hstate] at h
  rcases h with hwait | hsend
  · exact hleave (hx.awaited hwait)
  · rw [hx.sending] at hsend
    cases hsend

theorem StNode.run {rc : Int} (hready : StReady x) (hkato : x.timers.brKato = 0)
    (hresto : x.timers.resto = 0) (h : vdp22stRun rc x = .ok y) : StNode y := by
  have hother := vdp22stRun_otherTimers h
  unfold otherTimers at hother
  rw [hkato, hresto] at hother
  exact ⟨vdp22stRun_rest hready h, (Prod.mk.inj hother).1, (Prod.mk.inj (Prod.mk.inj hother).2).1⟩

theorem vdp22Modvsi_stNode {rc rc' : Int} {m : UInt8} (hx : StNode x)
    (h : vdp22Modvsi rc m x = .ok (y, rc')) : StNode y := by
  unfold vdp22Modvsi at h
  dsimp only at h
  split_ifs at h
  · cases h
    exact hx.congr (by rw [deref_vsi]) (deref_timers x)
  · cases h
    exact hx.congr (by rw [deref_vsi]) (deref_timers x)
  · obtain ⟨z, hz, hy⟩ := bind_eq_ok.mp h
    cases hy
    refine StNode.run (hx.ready (congrArg (·.smi.state) (deref_vsi x)) fun ha => .inl ?_) ?_ ?_ hz
    · exact (deref_timers x).symm ▸ ha.ackto
    · exact (deref_timers x).symm ▸ hx.brKato
    · exact (deref_timers x).symm ▸ hx.resto

theorem vdp22CmpStatus_smi (p vsip : Vsi22) : (vdp22CmpStatus p vsip).smi = p.smi := by
  unfold vdp22CmpStatus
  split_ifs <;> rfl

theorem vdp22Cpfid_smi (hit from' : Vsi22) : (vdp22Cpfid hit from').smi = hit.smi := by
  unfold vdp22Cpfid
  split_ifs <;> rfl

theorem vdp22BridgeSeen_smi (vsip : Vsi22) (x : Vsi22Ctx) :
    ∃ deassoc respOk, (vdp22BridgeSeen vsip x).vsi.smi = { x.vsi.smi with
      ackreceived := true
      acktimeout := false
      deassoc := deassoc
      respOk := respOk } ∧
    (vdp22BridgeSeen vsip x).timers = { x.timers with ackto := 0 } := by
  unfold vdp22BridgeSeen vdp22stStopAcktimer Vsi22Ctx.setSmi Vsi22Ctx.setFlags
  dsimp only
  split_ifs <;> simp only [vdp22CmpStatus_smi, vdp22Cpfid_smi, deref_vsi, deref_timers] <;>
    exact ⟨_, _, rfl, trivial⟩

theorem vdp22BridgeHit_stNode {rc : Int} {vsip : Vsi22} (hx : StNode x)
    (h : vdp22BridgeHit rc vsip x = .ok y) : StNode y := by
  obtain ⟨deassoc, respOk, hsmi, htimers⟩ := vdp22BridgeSeen_smi vsip x
  refine StNode.run (hx.ready (by rw [hsmi]) fun _ => .inr (.inr (.inl ?_))) ?_ ?_ h
  · rw [hsmi]
  · rw [htimers]
    exact hx.brKato
  · rw [htimers]
    exact hx.resto

/-- A timer of a node of a station. -/
theorem vdp22Expire_stNode {rc : Int} {t : Vdp22Timer} (hx : StNode x)
    (h : vdp22Expire rc t x = .ok y) : StNode y := by
  by_cases hcount : x.timers.count t = 0
  · unfold vdp22Expire at h
    rw [if_pos hcount] at h
    cases h
    exact hx
  unfold vdp22Expire at h
  rw [if_neg hcount] at h
  let z : Vsi22Ctx := { x with timers := x.timers.expire t }
  have hzvsi : z.deref.vsi = x.vsi := deref_vsi z
  have hztimers : z.deref.timers = x.timers.expire t := deref_timers z
  cases t with
  | brKato => exact absurd hx.brKato hcount
  | resto => exact absurd hx.resto hcount
  | ackto =>
    change vdp22stHandleAckto rc z = .ok y at h
    unfold vdp22stHandleAckto at h
    dsimp only at h
    split_ifs at h with hreceived
    · refine StNode.run (hx.ready ?_ fun _ => .inr (.inl rfl)) ?_ ?_ h
      · exact congrArg (·.smi.state) hzvsi
      · exact hztimers ▸ hx.brKato
      · exact hztimers ▸ hx.resto
    · -- the machine had its answer, so it does not wait
      rw [hzvsi] at hreceived
      rw [← Except.ok.inj h]
      refine ⟨⟨by rw [hzvsi]; exact hx.sending, fun hwait => ?_⟩, ?_, ?_⟩
      · rw [hzvsi] at hwait
        exact absurd (hx.awaited hwait).ackreceived hreceived
      · rw [hztimers]
        exact hx.brKato
      · rw [hztimers]
        exact hx.resto
  | kato =>
    change vdp22stHandleKato rc z = .ok y at h
    refine StNode.run (hx.ready ?_ fun ha => .inl ?_) ?_ ?_ h
    · exact congrArg (·.smi.state) hzvsi
    · exact hztimers ▸ ha.ackto
    · exact hztimers ▸ hx.brKato
    · exact hztimers ▸ hx.resto
  | localchange =>
    change vdp22LocalchangeHandler rc z = .ok y at h
    unfold vdp22LocalchangeHandler at h
    dsimp only at h
    split_ifs at h
    · refine StNode.run (hx.ready ?_ fun ha => .inl ?_) ?_ ?_ h
      · exact congrArg (·.smi.state) hzvsi
      · exact hztimers ▸ ha.ackto
      · exact hztimers ▸ hx.brKato
      · exact hztimers ▸ hx.resto
    · rw [← Except.ok.inj h]
      refine ⟨⟨by rw [hzvsi]; exact hx.sending, fun hwait => ?_⟩, ?_, ?_⟩
      · rw [hzvsi] at hwait
        have ha := hx.awaited hwait
        exact ⟨hztimers ▸ ha.ackto, hzvsi ▸ ha.acktimeout, hzvsi ▸ ha.ackreceived,
          hzvsi ▸ ha.txmitError⟩
      · rw [hztimers]
        exact hx.brKato
      · rw [hztimers]
        exact hx.resto

theorem vdp22StatusHit_smi (clif : Bool) (x : Vsi22Ctx) :
    (vdp22StatusHit clif x).vsi.smi = x.vsi.smi ∧ (vdp22StatusHit clif x).timers = x.timers := by
  have hcopy : (copyVsi {} x.vsi clif).1.smi = x.vsi.smi := by
    unfold copyVsi
    dsimp only
    split_ifs <;> rfl
  unfold vdp22StatusHit vdp22ListdelVsi
  dsimp only
  split_ifs <;> simp [hcopy]

/-- The machine ends a node whose answer did not come. -/
theorem vdp22stRun_timeout (rc : Int) {x : Vsi22Ctx} (hlive : x.freed = false)
    (hwait : isWaiting x.vsi.smi.state = true) (htimeout : x.vsi.smi.acktimeout = true) :
    ∃ y, vdp22stRun rc x = .ok y ∧ y.vsi.smi.state = .station .vdpEnd ∧
      y.vsi.flags.busy = false := by
  let z := x.setSmi fun s => { s with state := .station .vdpEnd }
  have hzlive : z.deref = z := deref_of_live hlive
  have hgoto : vdp22stGoto x .vdpEnd = .ok (z, true) := by
    unfold vdp22stGoto vdp22stChangeState
    cases hstate : x.vsi.smi.state with
    | none => rw [hstate] at hwait; cases hwait
    | bridge s => rw [hstate] at hwait; cases hwait
    | station s =>
      rw [hstate] at hwait
      cases s with
      | stationProcwait | txmitKawait | txmitDeawait => simp [z]
      | _ => cases hwait
  have hfirst : (vdp22stMachine rc).move x = .ok (z, true) := by
    show vdp22stNextState x.deref = _
    rw [deref_of_live hlive, ← hgoto]
    unfold vdp22stNextState vdp22stWait
    cases hstate : x.vsi.smi.state with
    | none => rw [hstate] at hwait; cases hwait
    | bridge s => rw [hstate] at hwait; cases hwait
    | station s =>
      rw [hstate] at hwait
      cases s with
      | stationProcwait | txmitKawait | txmitDeawait => exact if_pos (.inr htimeout)
      | _ => cases hwait
  have hact : (vdp22stMachine rc).act z = .ok z := by
    show Except.ok (vdp22stAction rc z) = _
    unfold vdp22stAction
    rw [hzlive]
    rfl
  have hlast : (vdp22stMachine rc).move z = .ok (z, false) := by
    show vdp22stNextState z.deref = _
    rw [hzlive]
    rfl
  refine ⟨vdp22stEnd z, ?_, ?_, vdp22stEnd_busy z⟩
  · unfold vdp22stRun
    rw [Machine.run_eq_of_final hfirst hact hlast, bind_ok, hzlive]
    rfl
  · rw [vdp22stEnd_smi]
    rfl

end Lldpad.Qbg
