import Lldpad.Proofs.Qbg.KeepAlive
import Lldpad.Proofs.Qbg.StationWait
import Lldpad.Proofs.Qbg.Vdp22Total

/-!
# `Lldpad.Proofs.Qbg.OwnMachine`: each machine has its own nodes

A node belongs to the station or to the bridge for its whole life (`OwnNode`), and
`OwnMachines` says that an event runs no other machine on it. `Runs` lists the runs of an event, and
`runs_of_changed` says that no node changes its state without one of them.

Requests and TLVs choose the machine by the role of the instance. A timer chooses it by its
handler. `vdp22_start` queues `vdp22_localchange_handler` for every node whatever the role is,
and the handler knows the station machine only. So `ownMachines_of_notRestarted` asks that
nobody starts a bridge that has nodes.
-/

namespace Lldpad.Qbg

open Lldpad.Lib

/-! ### Which machine runs -/

/-- A state of the machine of this role -/
def Vdp22Role.owns : Vdp22Role → Vdp22SmState → Bool
  | .station, .station _ => true
  | .bridge, .bridge _ => true
  | _, _ => false

/-- `vdp22st_run` and `vdp22br_run` -/
def vdp22Run (rc : Int) : Vdp22Role → Vsi22Ctx → Except Fault Vsi22Ctx
  | .station => vdp22stRun rc
  | .bridge => vdp22brRun

/-- The machine that the handler of a timer runs -/
def Vdp22Timer.machine : Vdp22Timer → Vdp22Role
  | .ackto | .kato | .localchange => .station
  | .brKato | .resto => .bridge

/-- The handler of a timer runs its machine. -/
def Vdp22Timer.runs (smi : Vdp22smi) : Vdp22Timer → Bool
  | .ackto => !smi.ackreceived
  | .localchange => smi.localchg
  | .kato | .brKato | .resto => true

/-- What the handler of a timer writes before it runs its machine -/
def Vdp22Timer.mark (smi : Vdp22smi) : Vdp22Timer → Vdp22smi
  | .ackto => { smi with acktimeout := true }
  | .kato | .brKato => { smi with kato := true }
  | .resto => { smi with respOk := true }
  | .localchange => smi

theorem vdp22Handler_eq (rc : Int) (t : Vdp22Timer) (x : Vsi22Ctx) :
    vdp22Handler rc t x =
      if t.runs x.vsi.smi then vdp22Run rc t.machine (x.deref.setSmi fun smi => t.mark smi)
      else .ok x.deref := by
  cases t with
  | ackto =>
    simp only [vdp22Handler, vdp22stHandleAckto, deref_vsi, Vdp22Timer.runs, Bool.not_eq_true']
    rfl
  | kato | brKato | resto => rfl
  | localchange =>
    simp only [vdp22Handler, vdp22LocalchangeHandler, deref_vsi, Vdp22Timer.runs]
    rfl

/-- The event runs the machine of the role on a node in this state. For requests and TLVs, any
node of the queue may be the one that is found. -/
inductive Runs (c : Vdp22Ctx) : Vdp22Event → Vdp22Role → Vdp22SmState → Prop
  /-- `vdp22_addvsi` -/
  | added {vsi : VdpnlVsi} {clif : Bool} (hrole : c.myrole = .station) :
      Runs c (.request vsi clif) .station (.station .begin)
  /-- `vdp22_modvsi` -/
  | modified {vsi : VdpnlVsi} {clif : Bool} {h : Nat} (hrole : c.myrole = .station)
      (hmem : h ∈ c.que) : Runs c (.request vsi clif) .station (c.nodes h).vsi.smi.state
  /-- `vdp22_bridge_info` -/
  | answered {vsip : Vsi22} {h : Nat} (hrole : c.myrole = .station) (hmem : h ∈ c.que) :
      Runs c (.tlv vsip) .station (c.nodes h).vsi.smi.state
  /-- `vdp22br_addvsi` -/
  | brAdded {vsip : Vsi22} (hrole : c.myrole = .bridge) :
      Runs c (.tlv vsip) .bridge (.bridge .begin)
  /-- `vdp22_station_info` -/
  | asked {vsip : Vsi22} {h : Nat} (hrole : c.myrole = .bridge) (hmem : h ∈ c.que) :
      Runs c (.tlv vsip) .bridge (c.nodes h).vsi.smi.state
  /-- a handler of a timer -/
  | expired {t : Vdp22Timer} {h : Nat} (hpending : (c.nodes h).timers.count t ≠ 0)
      (hruns : t.runs (c.nodes h).vsi.smi = true) :
      Runs c (.timer t h) t.machine (c.nodes h).vsi.smi.state

/-- An event runs each machine on its own nodes only. -/
def OwnMachines (c : Vdp22Ctx) (e : Vdp22Event) : Prop :=
  ∀ role state, Runs c e role state → role.owns state = true

/-- A move leaves the machine of the node in its state, or it is a run of `Runs`. -/
theorem vsi22Move_runs {c : Vdp22Ctx} {e : Vdp22Event} {h : Nat} {y : Vsi22Ctx} (hc : c.Wf)
    (hm : Vsi22Move c e h y) : y.vsi.smi.state = (c.nodes h).vsi.smi.state ∨
      ∃ rc role x, Runs c e role x.vsi.smi.state ∧
        ∃ z, vdp22Run rc role x = .ok z ∧ z.vsi.smi = y.vsi.smi := by
  cases hm with
  | added hrole hrun =>
    exact .inr ⟨c.ecpRc, .station, _, .added hrole, _, hrun, by rw [deref_vsi]⟩
  | refused hrole hnew =>
    left
    rw [hc.fresh c.next (Nat.le_refl _), deleteVsi_vsi, hnew]
  | modified hrole hmem _ hrun =>
    rw [vdp22Modvsi, deref_of_live (hc.live h hmem)] at hrun
    dsimp only at hrun
    split_ifs at hrun
    · cases hrun
      exact .inl rfl
    · cases hrun
      exact .inl rfl
    · obtain ⟨z, hz, hy⟩ := bind_eq_ok.mp hrun
      cases hy
      have hruns (vsi : VdpnlVsi) (clif : Bool) : Runs c (.request vsi clif) .station
          (c.nodes h).vsi.smi.state := .modified hrole hmem
      exact .inr ⟨c.ecpRc, .station, _, by exact hruns _ _, _, hz, rfl⟩
  | mismatched hrole hmem => exact .inl (by rw [vdp22CmpStatus_smi])
  | queried hmem => exact .inl (by rw [(vdp22StatusHit_smi _ (c.nodes h)).1])
  | @answered vsip _ _ hrole hmem _ _ hrun =>
    obtain ⟨deassoc, respOk, hsmi, -⟩ := vdp22BridgeSeen_smi vsip (c.nodes h)
    refine .inr ⟨c.ecpRc, .station, vdp22BridgeSeen vsip (c.nodes h), ?_, _, hrun, rfl⟩
    rw [hsmi]
    exact .answered hrole hmem
  | brAdded hrole _ hrun => exact .inr ⟨0, .bridge, _, .brAdded hrole, _, hrun, rfl⟩
  | @asked vsip _ _ hrole hmem _ _ hrun =>
    have hsmi := vdp22CmpStatus_smi (c.nodes h).vsi vsip
    rw [vdp22StationHit, deref_of_live (hc.live h hmem)] at hrun
    dsimp only at hrun
    split_ifs at hrun
    · cases hrun
      exact .inl rfl
    · cases hrun
      exact .inl (congrArg Vdp22smi.state hsmi)
    · refine .inr ⟨0, .bridge, _, ?_, _, hrun, rfl⟩
      have hruns : Runs c (.tlv vsip) .bridge (c.nodes h).vsi.smi.state := .asked hrole hmem
      rw [← hsmi] at hruns
      exact hruns
  | @expired t _ _ hlt hrun =>
    unfold vdp22Expire at hrun
    split_ifs at hrun with hpending
    · cases hrun
      exact .inl rfl
    · rw [vdp22Handler_eq] at hrun
      split_ifs at hrun with hruns
      · refine .inr ⟨c.ecpRc, t.machine, _, ?_, _, hrun, rfl⟩
        have hown := Runs.expired (c := c) hpending hruns
        cases t <;> simpa [Vsi22Ctx.setSmi, Vdp22Timer.mark] using hown
      · cases hrun
        exact .inl (by rw [deref_vsi])
  | stopped hmem =>
    left
    rw [vdp22StopTimers, deref_of_live (hc.live h hmem)]
    rfl
  | started hmem =>
    left
    rw [vdp22StartLocalchange, deref_of_live (hc.live h hmem)]
    rfl

/-- An event changes the state of a machine by a run of `Runs` only. -/
theorem runs_of_changed {c c' : Vdp22Ctx} {e : Vdp22Event} (hc : c.Wf)
    (he : vdp22Step c e = .ok c') {h : Nat}
    (hchanged : (c'.nodes h).vsi.smi.state ≠ (c.nodes h).vsi.smi.state) :
    ∃ rc role x, Runs c e role x.vsi.smi.state ∧
      ∃ z, vdp22Run rc role x = .ok z ∧ z.vsi.smi = (c'.nodes h).vsi.smi := by
  rcases (vdp22Step_moves hc he).node h with ⟨hsame, -⟩ | ⟨y, hm, hy⟩
  · rw [hsame] at hchanged
    exact absurd rfl hchanged
  · rw [hy] at hchanged ⊢
    exact (vsi22Move_runs hc hm).resolve_left hchanged

/-! ### What a run keeps -/

variable {x y : Vsi22Ctx} {role : Vdp22Role}

theorem vdp22stRun_owns {rc : Int}
    (hx : Vdp22Role.station.owns x.vsi.smi.state = true) (h : vdp22stRun rc x = .ok y) :
    Vdp22Role.station.owns y.vsi.smi.state = true := by
  obtain ⟨z, hz, hy⟩ := bind_eq_ok.mp h
  have hown : Vdp22Role.station.owns z.vsi.smi.state = true := by
    refine Machine.run_preserves (I := fun x => Vdp22Role.station.owns x.vsi.smi.state = true)
      ?_ ?_ hx hz
    · intro s t hs ht
      cases ht
      rwa [vdp22stAction_state]
    · intro s t b hs ht
      rw [← deref_vsi] at hs
      rcases vdp22stNextState_eq_ok ht with hr | ⟨_, hr⟩
      · cases hr
        exact hs
      · cases hr
        rfl
  cases hy
  split_ifs
  · rwa [vdp22stEnd_smi, deref_vsi]
  · rwa [deref_vsi]

theorem vdp22brRun_owns (hx : Vdp22Role.bridge.owns x.vsi.smi.state = true)
    (h : vdp22brRun x = .ok y) : Vdp22Role.bridge.owns y.vsi.smi.state = true := by
  refine Machine.run_preserves (I := fun x => Vdp22Role.bridge.owns x.vsi.smi.state = true)
    ?_ ?_ hx h
  · intro s t hs ht
    cases ht
    rwa [vdp22brAction_state]
  · intro s t b hs ht
    rw [← deref_vsi] at hs
    rcases vdp22brNextState_eq_ok ht with hr | ⟨_, hr⟩
    · cases hr
      exact hs
    · cases hr
      rfl

/-- The timers of a node that the bridge machine does not know. -/
def stationTimers (t : Vsi22Timers) : Nat × Nat × Nat := (t.ackto, t.kato, t.localchange)

theorem vdp22brProcess_stationTimers (x : Vsi22Ctx) :
    stationTimers (vdp22brProcess x).timers = stationTimers x.timers := by
  unfold vdp22brProcess
  dsimp only
  split_ifs <;> rfl

theorem vdp22brAction_stationTimers (x : Vsi22Ctx) :
    stationTimers (vdp22brAction x).timers = stationTimers x.timers := by
  have hderef : stationTimers x.deref.timers = stationTimers x.timers := by rw [deref_timers]
  unfold vdp22brAction
  dsimp only
  rw [deref_vsi]
  cases x.vsi.smi.state with
  | none => exact hderef
  | station s => exact hderef
  | bridge s =>
    cases s with
    | process => exact (vdp22brProcess_stationTimers _).trans hderef
    | vdpEnd =>
      show stationTimers x.deref.deref.timers = _
      rw [deref_timers, deref_timers]
    | _ => exact hderef

theorem vdp22brRun_stationTimers (h : vdp22brRun x = .ok y) :
    stationTimers y.timers = stationTimers x.timers := by
  refine Machine.run_preserves (I := fun z => stationTimers z.timers = stationTimers x.timers)
    ?_ ?_ rfl h
  · intro s t hs ht
    cases ht
    exact (vdp22brAction_stationTimers s).trans hs
  · intro s t b hs ht
    rw [← deref_timers s] at hs
    rcases vdp22brNextState_eq_ok ht with hr | ⟨_, hr⟩ <;> (cases hr; exact hs)

/-! ### The nodes of a role -/

/-- No timer of the other role names the node. -/
def NoForeignTimers (t : Vsi22Timers) : Vdp22Role → Prop
  | .station => t.brKato = 0 ∧ t.resto = 0
  | .bridge => t.ackto = 0 ∧ t.kato = 0 ∧ t.localchange = 0

theorem machine_of_pending {t : Vsi22Timers} (ht : NoForeignTimers t role)
    {timer : Vdp22Timer} (hpending : t.count timer ≠ 0) : timer.machine = role := by
  cases role with
  | station =>
    obtain ⟨hbrKato, hresto⟩ := ht
    cases timer with
    | brKato => exact absurd hbrKato hpending
    | resto => exact absurd hresto hpending
    | _ => rfl
  | bridge =>
    obtain ⟨hackto, hkato, hlocalchange⟩ := ht
    cases timer with
    | ackto => exact absurd hackto hpending
    | kato => exact absurd hkato hpending
    | localchange => exact absurd hlocalchange hpending
    | _ => rfl

theorem NoForeignTimers.expire {t : Vsi22Timers} (ht : NoForeignTimers t role)
    (timer : Vdp22Timer) : NoForeignTimers (t.expire timer) role := by
  cases role <;> cases timer <;> simp_all [NoForeignTimers, Vsi22Timers.expire]

/-- A node of this role. A node that was freed before it got a state has no timers. -/
structure OwnNode (role : Vdp22Role) (x : Vsi22Ctx) : Prop where
  own : role.owns x.vsi.smi.state = true ∨ x.freed = true ∧ x.timers = {}
  timers : NoForeignTimers x.timers role

theorem OwnNode.owns_of_live {x : Vsi22Ctx} (hx : OwnNode role x)
    (hlive : x.freed = false) : role.owns x.vsi.smi.state = true :=
  hx.own.resolve_right fun hfreed => by rw [hlive] at hfreed; cases hfreed.1

theorem OwnNode.owns_of_pending {x : Vsi22Ctx} (hx : OwnNode role x)
    {timer : Vdp22Timer} (hpending : x.timers.count timer ≠ 0) :
    role.owns x.vsi.smi.state = true := by
  refine hx.own.resolve_right fun hfreed => hpending ?_
  rw [hfreed.2]
  cases timer <;> rfl

theorem OwnNode.congr (hx : OwnNode role x)
    (hsmi : y.vsi.smi = x.vsi.smi) (htimers : y.timers = x.timers)
    (hfreed : x.freed = true → y.freed = true) : OwnNode role y where
  own := by
    rw [hsmi, htimers]
    exact hx.own.imp_right fun h => ⟨hfreed h.1, h.2⟩
  timers := by
    rw [htimers]
    exact hx.timers

theorem OwnNode.run (rc : Int) (role : Vdp22Role)
    (h : vdp22Run rc role x = .ok y) (hown : role.owns x.vsi.smi.state = true)
    (htimers : NoForeignTimers x.timers role) : OwnNode role y := by
  cases role with
  | station =>
    have hother : otherTimers y.timers = otherTimers x.timers := vdp22stRun_otherTimers h
    obtain ⟨hbrKato, hother⟩ := Prod.mk.inj hother
    obtain ⟨hresto, -⟩ := Prod.mk.inj hother
    exact ⟨.inl (vdp22stRun_owns hown h), hbrKato.trans htimers.1, hresto.trans htimers.2⟩
  | bridge =>
    have hother : stationTimers y.timers = stationTimers x.timers := vdp22brRun_stationTimers h
    obtain ⟨hackto, hother⟩ := Prod.mk.inj hother
    obtain ⟨hkato, hlocalchange⟩ := Prod.mk.inj hother
    exact ⟨.inl (vdp22brRun_owns hown h), hackto.trans htimers.1, hkato.trans htimers.2.1,
      hlocalchange.trans htimers.2.2⟩

theorem OwnNode.modvsi {rc rc' : Int} {mode : UInt8}
    (hx : OwnNode .station x) (hlive : x.freed = false)
    (h : vdp22Modvsi rc mode x = .ok (y, rc')) : OwnNode .station y := by
  unfold vdp22Modvsi at h
  rw [deref_of_live hlive] at h
  dsimp only at h
  split_ifs at h
  · cases h
    exact hx
  · cases h
    exact hx
  · obtain ⟨z, hz, hy⟩ := bind_eq_ok.mp h
    cases hy
    exact OwnNode.run rc .station hz (hx.owns_of_live hlive) hx.timers

theorem OwnNode.bridgeHit {rc : Int} {vsip : Vsi22}
    (hx : OwnNode .station x) (hlive : x.freed = false)
    (h : vdp22BridgeHit rc vsip x = .ok y) : OwnNode .station y := by
  obtain ⟨deassoc, respOk, hsmi, htimers⟩ := vdp22BridgeSeen_smi vsip x
  refine OwnNode.run rc .station h ?_ ?_
  · rw [hsmi]
    exact hx.owns_of_live hlive
  · rw [htimers]
    exact hx.timers

theorem OwnNode.stationHit {vsip : Vsi22} (hx : OwnNode .bridge x)
    (hlive : x.freed = false) (h : vdp22StationHit vsip x = .ok y) : OwnNode .bridge y := by
  have hown := hx.owns_of_live hlive
  have hsmi := vdp22CmpStatus_smi x.vsi vsip
  unfold vdp22StationHit at h
  rw [deref_of_live hlive] at h
  dsimp only at h
  split_ifs at h
  · cases h
    exact hx
  · cases h
    exact ⟨.inl (by rw [← hsmi] at hown; exact hown), hx.timers⟩
  · rw [← hsmi] at hown
    exact OwnNode.run 0 .bridge h hown hx.timers

theorem OwnNode.expire {rc : Int} {timer : Vdp22Timer}
    (hx : OwnNode role x) (h : vdp22Expire rc timer x = .ok y) : OwnNode role y := by
  unfold vdp22Expire at h
  split_ifs at h with hpending
  · cases h
    exact hx
  · have hown := hx.owns_of_pending hpending
    have htimers := hx.timers.expire timer
    rw [vdp22Handler_eq] at h
    split_ifs at h
    · rw [machine_of_pending hx.timers hpending] at h
      refine OwnNode.run rc role h ?_ ?_
      · cases timer <;> simpa [Vsi22Ctx.setSmi, Vdp22Timer.mark] using hown
      · simpa [Vsi22Ctx.setSmi] using htimers
    · cases h
      exact ⟨.inl (by rw [deref_vsi]; exact hown), by rw [deref_timers]; exact htimers⟩

/-- The instance is not started as a bridge while it has nodes. -/
def NotRestarted (c : Vdp22Ctx) : Vdp22Event → Prop
  | .start => c.myrole = .station ∨ c.que = []
  | _ => True

/-- A move leaves a node with its role. -/
theorem ownNode_move {c : Vdp22Ctx} {e : Vdp22Event} {h : Nat} {y : Vsi22Ctx} (hc : c.Wf)
    (hQ : ∀ h < c.next, OwnNode c.myrole (c.nodes h)) (hcond : NotRestarted c e)
    (hm : Vsi22Move c e h y) : OwnNode c.myrole y := by
  have hnode : ∀ h ∈ c.que, OwnNode c.myrole (c.nodes h) := fun h hmem => hQ h (hc.lt h hmem)
  cases hm with
  | added hrole hrun hnew =>
    rw [hrole]
    have hy : OwnNode .station _ := OwnNode.run c.ecpRc .station hrun rfl ⟨rfl, rfl⟩
    exact hy.congr (by rw [deref_vsi]) (deref_timers _) fun hfreed => by rw [deref_freed, hfreed]
  | refused hrole hnew =>
    rw [hrole]
    exact ⟨.inr ⟨rfl, deleteVsi_timers _⟩, by rw [deleteVsi_timers]; exact ⟨rfl, rfl⟩⟩
  | modified hrole hmem _ hrun =>
    rw [hrole] at hnode ⊢
    exact (hnode h hmem).modvsi (hc.live h hmem) hrun
  | mismatched hrole hmem => exact (hnode h hmem).congr (vdp22CmpStatus_smi _ _) rfl id
  | queried hmem =>
    obtain ⟨hsmi, htimers⟩ := vdp22StatusHit_smi _ (c.nodes h)
    exact (hnode h hmem).congr hsmi htimers fun hfreed => by
      rw [hc.live h hmem] at hfreed
      cases hfreed
  | answered hrole hmem _ _ hrun =>
    rw [hrole] at hnode ⊢
    exact (hnode h hmem).bridgeHit (hc.live h hmem) hrun
  | brAdded hrole _ hrun =>
    rw [hrole]
    exact OwnNode.run 0 .bridge hrun rfl ⟨rfl, rfl, rfl⟩
  | asked hrole hmem _ _ hrun =>
    rw [hrole] at hnode ⊢
    exact (hnode h hmem).stationHit (hc.live h hmem) hrun
  | expired hlt hrun => exact (hQ h hlt).expire hrun
  | stopped hmem =>
    have hx := hnode h hmem
    have hown := hx.owns_of_live (hc.live h hmem)
    unfold vdp22StopTimers
    rw [deref_of_live (hc.live h hmem)]
    refine ⟨.inl hown, ?_⟩
    have htimers := hx.timers
    cases hrole : c.myrole with
    | station => rw [hrole] at htimers; exact htimers
    | bridge => rw [hrole] at htimers; exact ⟨rfl, rfl, htimers.2.2⟩
  | started hmem =>
    -- A bridge with this node is not started.
    have hrole : c.myrole = .station :=
      hcond.resolve_right fun hque => List.ne_nil_of_mem hmem hque
    have hx := hnode h hmem
    have hown := hx.owns_of_live (hc.live h hmem)
    have htimers := hx.timers
    unfold vdp22StartLocalchange
    rw [deref_of_live (hc.live h hmem)]
    rw [hrole] at hown htimers ⊢
    exact ⟨.inl hown, htimers⟩

/-- Every event returns. In a run in which no bridge with nodes is started, it runs each machine
on its own nodes only. -/
theorem ownMachines_of_notRestarted (c : Vdp22Ctx) (e : Vdp22Event)
    (hreach : vdp22System.ReachableWhere NotRestarted c) :
    (∃ c', vdp22Step c e = .ok c') ∧ OwnMachines c e := by
  refine ⟨vdp22Step_total c e, fun role state hruns => ?_⟩
  obtain ⟨hwf, hQ⟩ := nodes_of_reachableWhere (Q := OwnNode)
    (fun hc hQ hcond hm => (ownNode_move hc hQ hcond hm).congr rfl rfl id) hreach
  have hnode : ∀ h ∈ c.que, c.myrole.owns (c.nodes h).vsi.smi.state = true := fun h hmem =>
    (hQ h (hwf.lt h hmem)).owns_of_live (hwf.live h hmem)
  cases hruns with
  | added => rfl
  | brAdded => rfl
  | modified hrole hmem => exact hrole ▸ hnode _ hmem
  | answered hrole hmem => exact hrole ▸ hnode _ hmem
  | asked hrole hmem => exact hrole ▸ hnode _ hmem
  | @expired timer h hpending _ =>
    have hlt : h < c.next := by
      refine Nat.lt_of_not_le fun hle => hpending ?_
      rw [hwf.fresh h hle]
      cases timer <;> rfl
    have hx := hQ h hlt
    rw [machine_of_pending hx.timers hpending]
    exact hx.owns_of_pending hpending

theorem not_ownMachines_of_start {c : Vdp22Ctx} (hreach : vdp22System.Reachable c)
    (hrole : c.myrole = .bridge) {h : Nat} (hmem : h ∈ c.que) :
    ¬ OwnMachines (vdp22Start c) (.timer .localchange h) := by
  intro hown
  obtain ⟨hwf, hwait⟩ := brWait_of_reachable hreach hrole
  have hnode : (vdp22Start c).nodes h = vdp22StartLocalchange (c.nodes h) := if_pos hmem
  have hx : (vdp22StartLocalchange (c.nodes h)).vsi.smi.state = .bridge .waitcmd := by
    unfold vdp22StartLocalchange
    rw [deref_of_live (hwf.live h hmem)]
    exact (hwait h hmem).state
  have hruns : Runs (vdp22Start c) (.timer .localchange h) .station (.bridge .waitcmd) := by
    have hrun := Runs.expired (c := vdp22Start c) (t := .localchange) (h := h)
      (by rw [hnode]; exact Nat.succ_ne_zero _) (by rw [hnode]; rfl)
    rw [hnode, hx] at hrun
    exact hrun
  exact absurd (hown _ _ hruns) (by decide)

/-- A bridge that was asked for an association runs the bridge machine on its node. -/
theorem asked_ownMachines :
    ∃ c, vdp22System.run (vdp22Create .bridge)
        [.fromEvb true true, .tlv (vlanRequest vdp22Assoc 5)] = .ok c ∧ c.que = [0] ∧
      ∀ e, (∃ c', vdp22Step c e = .ok c') ∧ OwnMachines c e :=
  ⟨_, rfl, rfl, fun e => ownMachines_of_notRestarted _ e
    ⟨_, [.fromEvb true true, .tlv (vlanRequest vdp22Assoc 5)], ⟨.bridge, rfl⟩,
      System.runWhere_of_run rfl ⟨trivial, fun _ _ => ⟨trivial, fun _ _ => trivial⟩⟩⟩⟩

/-- EVB starts the bridge again, and the station machine runs on its node. -/
theorem not_ownMachines :
    ¬ ∀ c e, vdp22System.Reachable c → (∃ c', vdp22Step c e = .ok c') ∧ OwnMachines c e := by
  intro h
  have hinit : vdp22System.init (vdp22Create .bridge) := ⟨.bridge, rfl⟩
  obtain ⟨c, hrun, hrole, hque⟩ : ∃ c, vdp22System.run (vdp22Create .bridge)
      [.fromEvb true true, .tlv (vlanRequest vdp22Assoc 5)] = .ok c ∧ c.myrole = .bridge ∧
      0 ∈ c.que := ⟨_, rfl, rfl, List.mem_cons_self ..⟩
  have hreach : vdp22System.Reachable c := ⟨_, _, hinit, hrun⟩
  have hstarted : vdp22System.Reachable (vdp22Start c) := hreach.step (e := .start) rfl
  exact not_ownMachines_of_start hreach hrole hque (h _ _ hstarted).2

end Lldpad.Qbg
