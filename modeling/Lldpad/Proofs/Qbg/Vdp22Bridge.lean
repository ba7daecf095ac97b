import Lldpad.Proofs.Qbg.Vdp22Moves
import Lldpad.Proofs.Qbg.Vdp22Tlv

/-!
# `Lldpad.Proofs.Qbg.Vdp22Bridge`: the bridge side of VDP

Between two events every node of a bridge waits for the station (`BrWait`). A run of the
machine on it ends with one reply (`BrReplied`), or frees it.

`vdp22br_init` sets the current mode of a node to DEASSOC, and nothing in `vdp22sm.c` sets
it again. So a request to disassociate looks like a keep alive to `vdp22br_move_state`.
`bridgeAnswer_iff` says for which TLVs the bridge answers as it should.
-/

namespace Lldpad.Qbg

open Lldpad.Lib

/-- A node of the bridge that waits for the station. Its keep alive timer may just have
expired. -/
structure BrHeld (x : Vsi22Ctx) : Prop where
  state : x.vsi.smi.state = .bridge .waitcmd
  live : x.freed = false
  busy : x.vsi.flags.busy = false
  deleteMe : x.vsi.flags.deleteMe = false
  cc : x.vsi.ccVsiMode = vdp22Deassoc
  ackto : x.timers.ackto = 0
  stKato : x.timers.kato = 0
  resto : x.timers.resto = 0

/-- A node of the bridge between two events. -/
structure BrWait (x : Vsi22Ctx) : Prop extends BrHeld x where
  kato : x.vsi.smi.kato = false

/-- The machine sent one reply and waits for the station. -/
structure BrReplied (x y : Vsi22Ctx) : Prop where
  wait : BrWait y
  vsiMode : y.vsi.vsiMode = x.vsi.vsiMode
  status : y.vsi.status = vdp22Ackbit
  localchg : y.vsi.smi.localchg = false
  brKato : y.timers.brKato = x.timers.brKato + 1
  localchange : y.timers.localchange = x.timers.localchange
  stale : y.stale = x.stale
  sent : y.sent = x.sent ++ [vdp22Msg y.vsi y.vsi.status]

/-- The node in another state of the bridge machine. -/
def Vsi22Ctx.brTo (x : Vsi22Ctx) (s : Vdp22brState) : Vsi22Ctx :=
  x.setSmi fun smi => { smi with state := .bridge s }

variable {x : Vsi22Ctx}

theorem deref_brTo (hlive : x.freed = false) (s : Vdp22brState) :
    (x.brTo s).deref = x.brTo s := deref_of_live hlive

/-! ### The rounds of the machine -/

theorem brMove_of_live (hlive : x.freed = false) :
    vdp22brMachine.move x = vdp22brNextState x := by
  show vdp22brNextState x.deref = _
  rw [deref_of_live hlive]

theorem brLoop_again {x y z : Vsi22Ctx} {fuel : Nat} (haction : vdp22brAction x = y)
    (hlive : y.freed = false) (hnext : vdp22brNextState y = .ok (z, true)) :
    iterate vdp22brMachine.round (fuel + 1) x = iterate vdp22brMachine.round fuel z :=
  Machine.iterate_round_again (congrArg Except.ok haction) ((brMove_of_live hlive).trans hnext)

theorem brLoop_waitcmd {fuel : Nat} (hlive : x.freed = false)
    (hstate : x.vsi.smi.state = .bridge .waitcmd) (hlocalchg : x.vsi.smi.localchg = false) :
    iterate vdp22brMachine.round (fuel + 1) x = .ok (vdp22brStartKatimer x) := by
  have hact : vdp22brAction x = vdp22brStartKatimer x := by
    simp only [vdp22brAction, deref_of_live hlive, hstate]
  refine Machine.iterate_round_final (congrArg Except.ok hact) ?_
  rw [brMove_of_live (by exact hlive)]
  simp [vdp22brNextState, vdp22brStartKatimer, Vsi22Ctx.setSmi, hstate, hlocalchg]

/-- The node after a reply: the machine waits for the station again. -/
def Vsi22Ctx.brReplied (x : Vsi22Ctx) : Vsi22Ctx :=
  vdp22brStartKatimer ((vdp22brReply x).brTo .waitcmd)

theorem brReplied_eq (x : Vsi22Ctx) : x.brReplied = { x with
    vsi := { x.vsi with
      flags := { x.vsi.flags with busy := false }
      smi := { x.vsi.smi with localchg := false, state := .bridge .waitcmd, kato := false } }
    timers := { x.timers with brKato := x.timers.brKato + 1 }
    sent := x.sent ++ [vdp22Msg x.vsi x.vsi.status] } := by
  simp only [Vsi22Ctx.brReplied, vdp22brStartKatimer, Vsi22Ctx.brTo, vdp22brReply, Vsi22Ctx.setSmi,
    Vsi22Ctx.setFlags]

theorem brLoop_send {fuel : Nat} (hlive : x.freed = false)
    (hstate : x.vsi.smi.state = .bridge .send) :
    iterate vdp22brMachine.round (fuel + 2) x = .ok x.brReplied := by
  have hact : vdp22brAction x = vdp22brReply x := by
    simp only [vdp22brAction, deref_of_live hlive, hstate]
  rw [brLoop_again (z := (vdp22brReply x).brTo .waitcmd) hact (by exact hlive)]
  · exact brLoop_waitcmd (by exact hlive) rfl rfl
  · have hstate' : (vdp22brReply x).vsi.smi.state = .bridge .send := hstate
    simp [vdp22brNextState, vdp22brGoto, vdp22brChangeState, hstate', Vsi22Ctx.brTo]

theorem brLoop_alive {fuel : Nat} (hlive : x.freed = false)
    (hstate : x.vsi.smi.state = .bridge .alive) :
    iterate vdp22brMachine.round (fuel + 2) x =
      .ok { x with vsi := { x.vsi with status := vdp22Ackbit } }.brReplied := by
  have hact : vdp22brAction x = vdp22brSendack x vdp22Ackbit := by
    simp only [vdp22brAction, deref_of_live hlive, hstate]
  rw [brLoop_again (z := (vdp22brSendack x vdp22Ackbit).brTo .waitcmd) hact (by exact hlive)]
  · exact brLoop_waitcmd (by exact hlive) rfl rfl
  · have hstate' : (vdp22brSendack x vdp22Ackbit).vsi.smi.state = .bridge .alive := hstate
    simp [vdp22brNextState, vdp22brGoto, vdp22brChangeState, hstate', Vsi22Ctx.brTo]

theorem vdp22brProcess_eq (hmode : x.vsi.vsiMode ≠ vdp22Deassoc) :
    vdp22brProcess x = { x with
      vsi := { x.vsi with
        status := vdp22Ackbit
        respVsiMode := vdp22RespSuccess
        smi := { x.vsi.smi with respOk := true } }
      timers := { x.timers with resto := 0 } } := by
  have hres : vdp22brResources x.vsi = vdp22RespSuccess := if_neg hmode
  simp [vdp22brProcess, vdp22brStartRestimer, vdp22brStopRestimer, Vsi22Ctx.setSmi,
    vdp22brResources,
    hmode, vdp22RespSuccess, vdp22RespTimeout, vdp22RespKeep, makeStatus]

theorem brLoop_process {fuel : Nat} (hlive : x.freed = false)
    (hstate : x.vsi.smi.state = .bridge .process) (hmode : x.vsi.vsiMode ≠ vdp22Deassoc) :
    iterate vdp22brMachine.round (fuel + 3) x =
      .ok ((vdp22brProcess x).brTo .send).brReplied := by
  have hact : vdp22brAction x = vdp22brProcess x := by
    simp only [vdp22brAction, deref_of_live hlive, hstate]
  have hlive' : (vdp22brProcess x).freed = false := by rw [vdp22brProcess_eq hmode]; exact hlive
  rw [brLoop_again (z := (vdp22brProcess x).brTo .send) hact hlive']
  · exact brLoop_send hlive' rfl
  · rw [vdp22brProcess_eq hmode]
    simp [vdp22brNextState, vdp22brGoto, vdp22brChangeState, hstate, Vsi22Ctx.brTo, vdp22RespNone,
      vdp22RespSuccess]

/-! ### The runs of the machine -/

/-- What a node must be so that a reply leaves it waiting. -/
structure BrReady (x p : Vsi22Ctx) : Prop where
  live : p.freed = false
  deleteMe : p.vsi.flags.deleteMe = false
  cc : p.vsi.ccVsiMode = vdp22Deassoc
  status : p.vsi.status = vdp22Ackbit
  vsiMode : p.vsi.vsiMode = x.vsi.vsiMode
  ackto : p.timers.ackto = 0
  stKato : p.timers.kato = 0
  resto : p.timers.resto = 0
  brKato : p.timers.brKato = x.timers.brKato
  localchange : p.timers.localchange = x.timers.localchange
  stale : p.stale = x.stale
  sent : p.sent = x.sent

theorem BrReady.replied {x p : Vsi22Ctx} (hp : BrReady x p) : BrReplied x p.brReplied := by
  rw [brReplied_eq]
  constructor
  · exact ⟨⟨rfl, hp.live, rfl, hp.deleteMe, hp.cc, hp.ackto, hp.stKato, hp.resto⟩, rfl⟩
  · exact hp.vsiMode
  · exact hp.status
  · rfl
  · exact congrArg (· + 1) hp.brKato
  · exact hp.localchange
  · exact hp.stale
  · exact congrArg (· ++ [vdp22Msg p.vsi p.vsi.status]) hp.sent

theorem brReady_process {x p : Vsi22Ctx} (hlive : p.freed = false)
    (hmode : x.vsi.vsiMode ≠ vdp22Deassoc) (hvsi : p.vsi.vsiMode = x.vsi.vsiMode)
    (hdelete : p.vsi.flags.deleteMe = false) (hcc : p.vsi.ccVsiMode = vdp22Deassoc)
    (hackto : p.timers.ackto = 0) (hkato : p.timers.kato = 0)
    (hbrKato : p.timers.brKato = x.timers.brKato)
    (hlocalchange : p.timers.localchange = x.timers.localchange) (hstale : p.stale = x.stale)
    (hsent : p.sent = x.sent) : BrReady x ((vdp22brProcess p).brTo .send) := by
  rw [vdp22brProcess_eq (hvsi ▸ hmode)]
  exact ⟨hlive, hdelete, hcc, rfl, hvsi, hackto, hkato, rfl, hbrKato, hlocalchange, hstale, hsent⟩

theorem vdp22brRun_begin (hstate : x.vsi.smi.state = .bridge .begin)
    (hlive : x.freed = false) (hmode : x.vsi.vsiMode ≠ vdp22Deassoc)
    (hackto : x.timers.ackto = 0) (hkato : x.timers.kato = 0) :
    ∃ y, vdp22brRun x = .ok y ∧ BrReplied x y := by
  let p := (vdp22brInit (x.brTo .init)).brTo .process
  have hfirst : vdp22brMachine.move x = .ok (x.brTo .init, true) := by
    rw [brMove_of_live hlive]
    simp [vdp22brNextState, vdp22brGoto, vdp22brChangeState, hstate, Vsi22Ctx.brTo]
  have hact : vdp22brAction (x.brTo .init) = vdp22brInit (x.brTo .init) := by
    unfold vdp22brAction
    rw [deref_brTo hlive]
    rfl
  have hinit : iterate vdp22brMachine.round 8 (x.brTo .init) =
      iterate vdp22brMachine.round 7 p := by
    refine brLoop_again hact hlive ?_
    simp [vdp22brNextState, vdp22brGoto, vdp22brChangeState, vdp22brInit, Vsi22Ctx.brTo,
      Vsi22Ctx.setSmi, p]
  refine ⟨_, Machine.run_eq_ok.mpr ⟨_, _, hfirst, hinit.trans (brLoop_process hlive rfl hmode)⟩, ?_⟩
  exact (brReady_process (p := p) hlive hmode rfl rfl rfl hackto hkato rfl rfl rfl rfl).replied

/-- A new request for a node that waits. The stored current mode is DEASSOC, so the machine
takes a request to disassociate for a keep alive. -/
theorem vdp22brRun_localchg (hx : BrHeld x) (hlocalchg : x.vsi.smi.localchg = true) :
    ∃ y, vdp22brRun x = .ok y ∧ BrReplied x y := by
  have hfirst : vdp22brMachine.move x = .ok (x.brTo .waitcmd2, true) := by
    rw [brMove_of_live hx.live]
    simp [vdp22brNextState, vdp22brGoto, vdp22brChangeState, hx.state, hlocalchg, Vsi22Ctx.brTo]
  have hact : vdp22brAction (x.brTo .waitcmd2) = x.brTo .waitcmd2 := by
    unfold vdp22brAction
    rw [deref_brTo hx.live]
    rfl
  by_cases hmode : x.vsi.vsiMode = vdp22Deassoc
  · have halive : iterate vdp22brMachine.round 8 (x.brTo .waitcmd2) =
        iterate vdp22brMachine.round 7 (x.brTo .alive) := by
      refine brLoop_again hact hx.live ?_
      simp [vdp22brNextState, vdp22brGoto, vdp22brChangeState, Vsi22Ctx.brTo, Vsi22Ctx.setSmi,
        hx.cc, hmode]
    refine ⟨_, Machine.run_eq_ok.mpr ⟨_, _, hfirst, halive.trans (brLoop_alive hx.live rfl)⟩, ?_⟩
    refine BrReady.replied (p := { x.brTo .alive with
      vsi := { (x.brTo .alive).vsi with status := vdp22Ackbit } }) ?_
    exact ⟨hx.live, hx.deleteMe, hx.cc, rfl, rfl, hx.ackto, hx.stKato, hx.resto, rfl, rfl, rfl, rfl⟩
  · have hprocess : iterate vdp22brMachine.round 8 (x.brTo .waitcmd2) =
        iterate vdp22brMachine.round 7 (x.brTo .process) := by
      refine brLoop_again hact hx.live ?_
      simp [vdp22brNextState, vdp22brGoto, vdp22brChangeState, Vsi22Ctx.brTo, Vsi22Ctx.setSmi,
        hx.cc, Ne.symm hmode]
    refine ⟨_, Machine.run_eq_ok.mpr ⟨_, _, hfirst,
      hprocess.trans (brLoop_process hx.live rfl hmode)⟩, ?_⟩
    exact (brReady_process (p := x.brTo .process) hx.live hmode rfl hx.deleteMe hx.cc hx.ackto
      hx.stKato rfl rfl rfl
      rfl).replied

/-- The keep alive timer expired for a node that waits: the machine reports that it is
disassociated and frees it. The last move reads it again. -/
theorem vdp22brRun_kato (hx : BrHeld x) (hkato : x.vsi.smi.kato = true)
    (hlocalchg : x.vsi.smi.localchg = false) :
    ∃ y, vdp22brRun x = .ok y ∧ y.freed = true ∧ y.timers = x.timers ∧ y.stale = x.stale + 1 := by
  have hlive := hx.live
  have hstate := hx.state
  have hfirst : vdp22brMachine.move x = .ok (x.brTo .deassociated, true) := by
    rw [brMove_of_live hlive]
    simp [vdp22brNextState, vdp22brGoto, vdp22brChangeState, hstate, hlocalchg, hkato,
      Vsi22Ctx.brTo]
  have hact : vdp22brAction (x.brTo .deassociated) = vdp22brDeassoc (x.brTo .deassociated) 0 := by
    unfold vdp22brAction
    rw [deref_brTo hlive]
    rfl
  let p := (vdp22brDeassoc (x.brTo .deassociated) 0).brTo .vdpEnd
  have hdeassoc : iterate vdp22brMachine.round 8 (x.brTo .deassociated) =
      iterate vdp22brMachine.round 7 p := by
    refine brLoop_again hact hlive ?_
    simp [vdp22brNextState, vdp22brGoto, vdp22brChangeState, Vsi22Ctx.brTo, Vsi22Ctx.setSmi,
      vdp22brDeassoc, vdp22brSendack, vdp22brReply, Vsi22Ctx.setFlags, p]
  have hend : vdp22brAction p = { p with freed := true } := by
    have hp : p.deref = p := deref_of_live hlive
    unfold vdp22brAction vdp22brEnd vdp22ListdelVsi vdp22DeleteVsi
    rw [hp]
    show { p.deref with freed := true } = _
    rw [hp]
  have hlast : vdp22brMachine.move { p with freed := true } =
      .ok ({ p with freed := true, stale := p.stale + 1 }, false) := rfl
  refine ⟨_, Machine.run_eq_ok.mpr ⟨_, _, hfirst,
    hdeassoc.trans (Machine.iterate_round_final (congrArg Except.ok hend) hlast)⟩, rfl, rfl, rfl⟩

/-! ### What the events do to a node that waits -/

/-- A request for a node that waits. With other filter entries nothing runs, and the keep alive
timer is not started again. -/
theorem vdp22StationHit_cases {x y : Vsi22Ctx} {vsip : Vsi22} (hx : BrWait x)
    (h : vdp22StationHit vsip x = .ok y) :
    (vdp22CmpFdata x.vsi vsip = false ∧ BrWait y ∧ y.timers.brKato = 0 ∧ y.sent = x.sent ∧
      y.stale = x.stale ∧ y.timers.localchange = x.timers.localchange) ∨
    (vdp22CmpFdata x.vsi vsip = true ∧ BrReplied { x with
      vsi := { x.vsi with vsiMode := vsip.vsiMode }
      timers := { x.timers with brKato := 0 } } y) := by
  unfold vdp22StationHit at h
  rw [deref_of_live hx.live] at h
  dsimp only at h
  rw [if_neg (by rw [hx.busy]; decide)] at h
  cases hcmp : vdp22CmpFdata x.vsi vsip with
  | false =>
    have hcmp' : vdp22CmpFdata (vdp22brStopKatimer x).vsi vsip = false := hcmp
    rw [hcmp', if_pos rfl] at h
    cases h
    have hstatus : ∃ st, vdp22CmpStatus x.vsi vsip = { x.vsi with status := st } := by
      unfold vdp22CmpStatus
      split_ifs
      · exact ⟨_, rfl⟩
      · exact ⟨x.vsi.status, rfl⟩
    obtain ⟨st, hst⟩ := hstatus
    refine .inl ⟨rfl, ?_, rfl, rfl, rfl, rfl⟩
    show BrWait { vdp22brStopKatimer x with vsi := vdp22CmpStatus x.vsi vsip }
    rw [hst]
    exact ⟨⟨hx.state, hx.live, hx.busy, hx.deleteMe, hx.cc, hx.ackto, hx.stKato, hx.resto⟩, hx.kato⟩
  | true =>
    have hcmp' : vdp22CmpFdata (vdp22brStopKatimer x).vsi vsip = true := hcmp
    have hsame : vdp22CmpStatus (vdp22brStopKatimer x).vsi vsip = x.vsi := by
      unfold vdp22CmpStatus
      rw [hcmp']
      exact if_neg (by simp)
    rw [hcmp', if_neg (by decide), hsame] at h
    obtain ⟨z, hz, hreplied⟩ := vdp22brRun_localchg (x := { vdp22brStopKatimer x with
        vsi := { x.vsi with
          vsiMode := vsip.vsiMode
          smi := { x.vsi.smi with localchg := true } } })
      ⟨hx.state, hx.live, hx.busy, hx.deleteMe, hx.cc, hx.ackto, hx.stKato, hx.resto⟩ rfl
    have hzy : z = y := Except.ok.inj (hz.symm.trans h)
    subst hzy
    exact .inr ⟨rfl, hreplied.wait, hreplied.vsiMode, hreplied.status, hreplied.localchg,
      hreplied.brKato, hreplied.localchange, hreplied.stale, hreplied.sent⟩

theorem vdp22stRun_bridge {rc : Int} (hx : BrWait x) : vdp22stRun rc x = .ok x := by
  rw [vdp22stRun_still hx.live, if_neg (by rw [hx.state]; decide)]
  · unfold vdp22stNextState
    rw [hx.state]
    rfl
  · unfold vdp22stAction
    rw [deref_of_live hx.live]
    dsimp only
    rw [hx.state]

/-- The keep alive timer of a node that waits. It frees the node, unless `vdp22_start` made it
look like one with a new request. -/
theorem vdp22Expire_brKato (rc : Int) (hx : BrWait x) (hpending : x.timers.brKato ≠ 0) :
    ∃ y, vdp22Expire rc .brKato x = .ok y ∧
      ((x.vsi.smi.localchg = true ∧
        BrReplied { x with timers := { x.timers with brKato := x.timers.brKato - 1 } } y) ∨
      (x.vsi.smi.localchg = false ∧ y.freed = true ∧
        y.timers = { x.timers with brKato := x.timers.brKato - 1 } ∧ y.stale = x.stale + 1)) := by
  let z : Vsi22Ctx := { x with timers := x.timers.expire .brKato }
  have hz : BrHeld (z.setSmi fun s => { s with kato := true }) :=
    ⟨hx.state, hx.live, hx.busy, hx.deleteMe, hx.cc, hx.ackto, hx.stKato, hx.resto⟩
  have hrun : vdp22Expire rc .brKato x =
      vdp22brRun (z.setSmi fun s => { s with kato := true }) := by
    have hcount : x.timers.count .brKato ≠ 0 := hpending
    unfold vdp22Expire
    rw [if_neg hcount]
    show vdp22brRun (z.deref.setSmi _) = _
    rw [deref_of_live (x := z) hx.live]
  cases hlocalchg : x.vsi.smi.localchg with
  | true =>
    obtain ⟨y, hy, hreplied⟩ := vdp22brRun_localchg hz hlocalchg
    exact ⟨y, hrun.trans hy, .inl ⟨rfl, hreplied.wait, hreplied.vsiMode, hreplied.status,
      hreplied.localchg, hreplied.brKato, hreplied.localchange, hreplied.stale, hreplied.sent⟩⟩
  | false =>
    obtain ⟨y, hy, hfreed, htimers, hstale⟩ := vdp22brRun_kato hz rfl hlocalchg
    exact ⟨y, hrun.trans hy, .inr ⟨rfl, hfreed, htimers, hstale⟩⟩

theorem vdp22Expire_brWait {rc : Int} {t : Vdp22Timer} {x y : Vsi22Ctx} (hx : BrWait x)
    (h : vdp22Expire rc t x = .ok y) :
    (BrWait y ∧ y.timers.brKato = x.timers.brKato) ∨
    (t = .brKato ∧ x.timers.brKato ≠ 0 ∧ x.vsi.smi.localchg = true ∧
      BrReplied { x with timers := { x.timers with brKato := x.timers.brKato - 1 } } y) ∨
    (t = .brKato ∧ x.timers.brKato ≠ 0 ∧ x.vsi.smi.localchg = false ∧ y.freed = true ∧
      y.timers = { x.timers with brKato := x.timers.brKato - 1 } ∧ y.stale = x.stale + 1) := by
  by_cases hcount : x.timers.count t = 0
  · unfold vdp22Expire at h
    rw [if_pos hcount] at h
    cases h
    exact .inl ⟨hx, rfl⟩
  cases t with
  | ackto => exact absurd hx.ackto hcount
  | kato => exact absurd hx.stKato hcount
  | resto => exact absurd hx.resto hcount
  | localchange =>
    let z : Vsi22Ctx := { x with timers := x.timers.expire .localchange }
    have hz : BrWait z :=
      ⟨⟨hx.state, hx.live, hx.busy, hx.deleteMe, hx.cc, hx.ackto, hx.stKato, hx.resto⟩, hx.kato⟩
    unfold vdp22Expire at h
    rw [if_neg hcount] at h
    change vdp22LocalchangeHandler rc z = .ok y at h
    unfold vdp22LocalchangeHandler at h
    rw [deref_of_live hz.live] at h
    dsimp only at h
    split_ifs at h
    · rw [vdp22stRun_bridge hz] at h
      rw [← Except.ok.inj h]
      exact .inl ⟨hz, rfl⟩
    · rw [← Except.ok.inj h]
      exact .inl ⟨hz, rfl⟩
  | brKato =>
    obtain ⟨w, hw, hcases⟩ := vdp22Expire_brKato rc hx hcount
    cases Except.ok.inj (hw.symm.trans h)
    rcases hcases with ⟨hlocalchg, hreplied⟩ | ⟨hlocalchg, hfreed⟩
    · exact .inr (.inl ⟨rfl, hcount, hlocalchg, hreplied⟩)
    · exact .inr (.inr ⟨rfl, hcount, hlocalchg, hfreed⟩)

theorem vdp22StatusHit_brWait {clif : Bool} (hx : BrWait x) :
    BrWait (vdp22StatusHit clif x) ∧ (vdp22StatusHit clif x).timers = x.timers := by
  unfold vdp22StatusHit
  rw [deref_of_live hx.live]
  have hcopy : ∀ {w : Vsi22}, w = (copyVsi {} x.vsi clif).1 →
      w.flags.deleteMe = false ∧ w.flags.busy = false ∧ w.smi = x.vsi.smi ∧
        w.ccVsiMode = x.vsi.ccVsiMode := by
    rintro _ rfl
    unfold copyVsi
    dsimp only
    split_ifs
    · exact ⟨hx.deleteMe, hx.busy, rfl, rfl⟩
    · exact ⟨hx.deleteMe, hx.busy, rfl, rfl⟩
  obtain ⟨hdelete, hbusy, hsmi, hcc⟩ := hcopy rfl
  rw [if_neg (by rw [hdelete]; simp)]
  refine ⟨⟨⟨?_, hx.live, hbusy, hdelete, hcc.trans hx.cc, hx.ackto, hx.stKato, hx.resto⟩, ?_⟩, rfl⟩
  · show (copyVsi {} x.vsi clif).1.smi.state = _
    rw [hsmi, hx.state]
  · show (copyVsi {} x.vsi clif).1.smi.kato = _
    rw [hsmi, hx.kato]

/-! ### The nodes of a bridge -/

theorem BrWait.reset (hx : BrWait x) : BrWait x.reset :=
  ⟨⟨hx.state, hx.live, hx.busy, hx.deleteMe, hx.cc, hx.ackto, hx.stKato, hx.resto⟩, hx.kato⟩

/-- What a move does to a node of a bridge: the node was freed, or it waits. The keep alive
timer of a node that waits is lost by a request with other filter entries only. -/
theorem brNode_move {c : Vdp22Ctx} {e : Vdp22Event} {h : Nat} {y : Vsi22Ctx} (hc : c.Wf)
    (hrole : c.myrole = .bridge) (hQ : ∀ h < c.next, (c.nodes h).freed = true ∨ BrWait (c.nodes h))
    (hm : Vsi22Move c e h y) :
    y.freed = true ∨ BrWait y ∧ (y.timers.brKato = 1 ∨
      h < c.next ∧ BrWait (c.nodes h) ∧ y.timers.brKato = (c.nodes h).timers.brKato ∨
      ∃ vsip, e = .tlv vsip ∧ vdp22Findvsi c vsip = some h ∧
        (isVsiMode vsip.vsiMode ∧ vsip.fdata ≠ [] ∧ responseOk .bridge vsip) ∧
        vdp22CmpFdata (c.nodes h).vsi vsip = false) := by
  have hstation : c.myrole ≠ .station := by rw [hrole]; decide
  have hwait : ∀ h ∈ c.que, BrWait (c.nodes h) := fun h hmem =>
    (hQ h (hc.lt h hmem)).resolve_left (by rw [hc.live h hmem]; decide)
  cases hm with
  | added hrole' | refused hrole' | modified hrole' | mismatched hrole' | answered hrole' =>
    exact absurd hrole' hstation
  | queried hmem =>
    obtain ⟨hy, htimers⟩ := vdp22StatusHit_brWait (hwait h hmem)
    exact .inr ⟨hy, .inr (.inl ⟨hc.lt h hmem, hwait h hmem, by rw [htimers]⟩)⟩
  | @brAdded vsip v y _ hmode hrun =>
    obtain ⟨w, hw, hreplied⟩ := vdp22brRun_begin (x := { vsi := { v with
      flags := { busy := true }
      smi := { v.smi with state := .bridge .begin } } }) rfl rfl hmode rfl rfl
    cases Except.ok.inj (hw.symm.trans hrun)
    exact .inr ⟨hreplied.wait, .inl hreplied.brKato⟩
  | asked _ hmem hfind hok hrun =>
    rcases vdp22StationHit_cases (hwait h hmem) hrun with ⟨hcmp, hy, -⟩ | ⟨-, hreplied⟩
    · exact .inr ⟨hy, .inr (.inr ⟨_, rfl, hfind, hok, hcmp⟩)⟩
    · exact .inr ⟨hreplied.wait, .inl hreplied.brKato⟩
  | expired hlt hrun =>
    rcases hQ h hlt with hfreed | hx
    · exact .inl (vdp22Expire_freed hfreed hrun)
    · rcases vdp22Expire_brWait hx hrun with ⟨hy, hkato⟩ | ⟨-, hpos, -, hreplied⟩ | ⟨-, -, -, hy, -⟩
      · exact .inr ⟨hy, .inr (.inl ⟨hlt, hx, hkato⟩)⟩
      · refine .inr ⟨hreplied.wait, .inr (.inl ⟨hlt, hx, ?_⟩)⟩
        rw [hreplied.brKato]
        exact Nat.succ_pred_eq_of_ne_zero hpos
      · exact .inl hy
  | stopped hmem =>
    have hx := hwait h hmem
    unfold vdp22StopTimers
    rw [deref_of_live hx.live]
    exact .inr ⟨⟨⟨hx.state, hx.live, hx.busy, hx.deleteMe, hx.cc, rfl, rfl, hx.resto⟩, hx.kato⟩,
      .inr (.inl ⟨hc.lt h hmem, hx, rfl⟩)⟩
  | started hmem =>
    have hx := hwait h hmem
    unfold vdp22StartLocalchange
    rw [deref_of_live hx.live]
    exact .inr ⟨⟨⟨hx.state, hx.live, hx.busy, hx.deleteMe, hx.cc, hx.ackto, hx.stKato, hx.resto⟩,
      hx.kato⟩, .inr (.inl ⟨hc.lt h hmem, hx, rfl⟩)⟩

theorem brWait_of_reachable {c : Vdp22Ctx} (hreach : vdp22System.Reachable c)
    (hrole : c.myrole = .bridge) : c.Wf ∧ ∀ h ∈ c.que, BrWait (c.nodes h) := by
  obtain ⟨hwf, hQ⟩ := nodes_of_reachableWhere
    (Q := fun role x => role = .bridge → x.freed = true ∨ BrWait x)
    (fun hc hQ _ hm hrole => (brNode_move hc hrole (fun h hlt => hQ h hlt hrole) hm).imp
      (fun hfreed => hfreed) fun hy => hy.1.reset) hreach.always
  exact ⟨hwf, fun h hmem => (hQ h (hwf.lt h hmem) hrole).resolve_left
    (by rw [hwf.live h hmem]; decide)⟩

end Lldpad.Qbg
