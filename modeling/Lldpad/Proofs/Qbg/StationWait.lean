import Lldpad.Proofs.Qbg.Vdp22Station

/-!
# `Lldpad.Proofs.Qbg.StationWait`: no station waits forever

`StationSupervised` is the purpose of the acknowledgement timer of the station: every node
that waits for the bridge has one, and it ends the wait.

`vdp22_stop` cancels the timers of every node. `vdp22_start` runs the machine of a node
again, but a node that waits stays where it is. So `stationSupervised_of_notStopped` asks
that nobody stops the instance while a node waits.
-/

namespace Lldpad.Qbg

open Lldpad.Lib

/-- Every node that waits for the bridge has an acknowledgement timer. When the timer expires,
the node is at its end and takes requests again, or it is gone. -/
structure StationSupervised (c : Vdp22Ctx) : Prop where
  timer : ∀ h ∈ c.que, isWaiting (c.nodes h).vsi.smi.state = true → 0 < (c.nodes h).timers.ackto
  released : ∀ h ∈ c.que, isWaiting (c.nodes h).vsi.smi.state = true →
    ∃ c', vdp22Step c (.timer .ackto h) = .ok c' ∧
      (c'.nodes h).vsi.smi.state = .station .vdpEnd ∧ (c'.nodes h).vsi.flags.busy = false

/-- The instance is not stopped while a node waits for the bridge. -/
def NotStopped (c : Vdp22Ctx) : Vdp22Event → Prop
  | .stop => ∀ h ∈ c.que, isWaiting (c.nodes h).vsi.smi.state = false
  | _ => True

/-- What a move does to a node of a station. -/
theorem stNode_move {c : Vdp22Ctx} {e : Vdp22Event} {h : Nat} {y : Vsi22Ctx} (hc : c.Wf)
    (hrole : c.myrole = .station) (hQ : ∀ h < c.next, StNode (c.nodes h)) (hcond : NotStopped c e)
    (hm : Vsi22Move c e h y) : StNode y := by
  have hbridge : c.myrole ≠ .bridge := by rw [hrole]; decide
  have hnode : ∀ h ∈ c.que, StNode (c.nodes h) := fun h hmem => hQ h (hc.lt h hmem)
  cases hm with
  | added _ hrun hnew =>
    have hy : StNode _ := StNode.run
        (fun hstate => by rcases hstate with hstate | hstate <;> cases hstate)
      rfl rfl hrun
    exact hy.congr (by rw [deref_vsi]) (deref_timers _)
  | refused _ hnew =>
    refine ⟨⟨?_, fun hwait => ?_⟩, ?_, ?_⟩
    · rw [deleteVsi_vsi, hnew]
      rfl
    · rw [deleteVsi_vsi, hnew] at hwait
      cases hwait
    · rw [deleteVsi_timers]
    · rw [deleteVsi_timers]
  | modified _ hmem _ hrun => exact vdp22Modvsi_stNode (hnode h hmem) hrun
  | mismatched _ hmem => exact (hnode h hmem).congr (vdp22CmpStatus_smi _ _) rfl
  | queried hmem =>
    obtain ⟨hsmi, htimers⟩ := vdp22StatusHit_smi _ (c.nodes h)
    exact (hnode h hmem).congr hsmi htimers
  | answered _ hmem _ _ hrun => exact vdp22BridgeHit_stNode (hnode h hmem) hrun
  | brAdded hrole' | asked hrole' => exact absurd hrole' hbridge
  | expired hlt hrun => exact vdp22Expire_stNode (hQ h hlt) hrun
  | stopped hmem =>
    have hx := hnode h hmem
    have hsmi : (vdp22StopTimers (c.nodes h)).vsi = (c.nodes h).vsi := deref_vsi _
    have htimers : (vdp22StopTimers (c.nodes h)).timers =
        { (c.nodes h).timers with ackto := 0, kato := 0 } := by
      show { (c.nodes h).deref.timers with ackto := 0, kato := 0 } = _
      rw [deref_timers]
    refine ⟨⟨by rw [hsmi]; exact hx.sending, fun hwait => ?_⟩, ?_, ?_⟩
    · rw [hsmi, hcond h hmem] at hwait
      cases hwait
    · rw [htimers]
      exact hx.brKato
    · rw [htimers]
      exact hx.resto
  | started hmem =>
    have hx := hnode h hmem
    have hsmi : (vdp22StartLocalchange (c.nodes h)).vsi.smi =
        { (c.nodes h).vsi.smi with localchg := true } := by
      show { (c.nodes h).deref.vsi.smi with localchg := true } = _
      rw [deref_vsi]
    have htimers : (vdp22StartLocalchange (c.nodes h)).timers = { (c.nodes h).timers with
        localchange := (c.nodes h).timers.localchange + 1 } := by
      show { (c.nodes h).deref.timers with
        localchange := (c.nodes h).deref.timers.localchange + 1 } = _
      rw [deref_timers]
    refine ⟨⟨by rw [hsmi]; exact hx.sending, fun hwait => ?_⟩, ?_, ?_⟩
    · rw [hsmi] at hwait
      have ha := hx.awaited hwait
      exact ⟨by rw [htimers]; exact ha.ackto, by rw [hsmi]; exact ha.acktimeout,
        by rw [hsmi]; exact ha.ackreceived, by rw [hsmi]; exact ha.txmitError⟩
    · rw [htimers]
      exact hx.brKato
    · rw [htimers]
      exact hx.resto

/-- A station supervises the bridge in every run in which it is not stopped while a node
waits. -/
theorem stationSupervised_of_notStopped (c : Vdp22Ctx)
    (hreach : vdp22System.ReachableWhere NotStopped c) (hrole : c.myrole = .station) :
    StationSupervised c := by
  obtain ⟨hwf, hQ⟩ := nodes_of_reachableWhere (Q := fun role x => role = .station → StNode x)
    (fun hc hQ hcond hm hrole =>
      (stNode_move hc hrole (fun h hlt => hQ h hlt hrole) hcond hm).congr rfl rfl) hreach
  have hnode : ∀ h ∈ c.que, StNode (c.nodes h) := fun h hmem => hQ h (hwf.lt h hmem) hrole
  refine ⟨fun h hmem hwait => ((hnode h hmem).awaited hwait).ackto, fun h hmem hwait => ?_⟩
  have ha := (hnode h hmem).awaited hwait
  have hlive := hwf.live h hmem
  let z : Vsi22Ctx := { c.nodes h with timers := (c.nodes h).timers.expire .ackto }
  obtain ⟨y, hy, hend, hbusy⟩ := vdp22stRun_timeout c.ecpRc
    (x := z.setSmi fun s => { s with acktimeout := true }) hlive hwait rfl
  have hexpire : vdp22Expire c.ecpRc .ackto (c.nodes h) = .ok y := by
    have hcount : (c.nodes h).timers.count .ackto ≠ 0 := Nat.ne_of_gt ha.ackto
    unfold vdp22Expire
    rw [if_neg hcount]
    show vdp22stHandleAckto c.ecpRc z = _
    unfold vdp22stHandleAckto
    rw [deref_of_live (x := z) hlive]
    exact (if_pos ha.ackreceived).trans hy
  refine ⟨c.put h y, bind_eq_ok.mpr ⟨y, hexpire, rfl⟩, ?_⟩
  rw [Vdp22Ctx.put_nodes_self]
  exact ⟨hend, hbusy⟩

/-! ### A station and its bridge -/

/-- A request of a client: a VSI with the VLAN `vlan`. -/
def vlanVdpnl (request : UInt8) (vlan : UInt16) : VdpnlVsi :=
  { request := request, vsiIdfmt := vdp22IdLocal, filterFmt := vdp22FfmtVid,
    maclist := [{ vlan := vlan }] }

/-- A station whose bridge has not answered yet supervises it. -/
theorem requested_stationSupervised :
    ∃ c, vdp22System.run (vdp22Create .station)
        [.fromEvb true true, .request (vlanVdpnl vdp22Assoc 5) true] = .ok c ∧
      StationSupervised c :=
  ⟨_, rfl, stationSupervised_of_notStopped _
    ⟨_, [.fromEvb true true, .request (vlanVdpnl vdp22Assoc 5) true], ⟨.station, rfl⟩,
      System.runWhere_of_run rfl ⟨trivial, fun _ _ => ⟨trivial, fun _ _ => trivial⟩⟩⟩ rfl⟩

/-- A renegotiation of EVB leaves a node that waits without a timer. -/
theorem not_stationSupervised :
    ¬ ∀ c, vdp22System.Reachable c → c.myrole = .station → StationSupervised c := by
  intro h
  obtain ⟨c, hrun, hrole, hque, hwait, htimer⟩ : ∃ c, vdp22System.run (vdp22Create .station)
      [.fromEvb true true, .request (vlanVdpnl vdp22Assoc 5) true, .stop, .start,
        .timer .localchange 0] = .ok c ∧ c.myrole = .station ∧ 0 ∈ c.que ∧
      isWaiting (c.nodes 0).vsi.smi.state = true ∧ (c.nodes 0).timers.ackto = 0 :=
    ⟨_, rfl, rfl, List.mem_cons_self .., rfl, rfl⟩
  have hpos := (h c ⟨_, _, ⟨.station, rfl⟩, hrun⟩ hrole).timer 0 hque hwait
  rw [htimer] at hpos
  exact absurd hpos (Nat.lt_irrefl 0)

end Lldpad.Qbg
