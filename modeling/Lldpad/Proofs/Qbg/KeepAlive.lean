import Lldpad.Proofs.Qbg.Vdp22Bridge

/-!
# `Lldpad.Proofs.Qbg.KeepAlive`: the bridge supervises its stations

`Supervised` is the purpose of the keep alive timer of the bridge: every node that waits for
the station has one, and a station that stays silent loses its node.

`vdp22_station_info` stops the timer before it compares the filter entries, and it returns
when they differ. So `supervised_of_keepsFilter` asks for requests that keep them.
-/

namespace Lldpad.Qbg

open Lldpad.Lib

/-- Every node that waits for the station has one keep alive timer. When the timer expires
and nothing else happens, the node is gone, at the second time if the EVB module has started
the instance again in between. -/
structure Supervised (c : Vdp22Ctx) : Prop where
  timer : ∀ h ∈ c.que, (c.nodes h).vsi.smi.state = .bridge .waitcmd →
    (c.nodes h).timers.brKato = 1
  removed : ∀ h ∈ c.que, (c.nodes h).vsi.smi.state = .bridge .waitcmd →
    ∃ c', vdp22System.run c [.timer .brKato h, .timer .brKato h] = .ok c' ∧ h ∉ c'.que

/-- A TLV that names a node has the filter entries of the node. -/
def KeepsFilter (c : Vdp22Ctx) : Vdp22Event → Prop
  | .tlv vsip => isVsiMode vsip.vsiMode ∧ vsip.fdata ≠ [] ∧ responseOk c.myrole vsip →
      ∀ h, vdp22Findvsi c vsip = some h → vdp22CmpFdata (c.nodes h).vsi vsip = true
  | _ => True

theorem Vdp22Ctx.Wf.not_mem_put {c : Vdp22Ctx} (hc : c.Wf) {h : Nat} {x : Vsi22Ctx}
    (hfreed : x.freed = true) : h ∉ (c.put h x).que := by
  unfold Vdp22Ctx.put
  rw [if_pos hfreed]
  exact hc.nodup.not_mem_erase

theorem vdp22Step_brKato {c : Vdp22Ctx} (hc : c.Wf) {h : Nat} (hx : BrWait (c.nodes h))
    (htimer : (c.nodes h).timers.brKato = 1) :
    ∃ c', vdp22Step c (.timer .brKato h) = .ok c' ∧ c'.Wf ∧
      ((h ∉ c'.que ∧ (c'.nodes h).timers.brKato = 0) ∨
        ((c.nodes h).vsi.smi.localchg = true ∧ BrWait (c'.nodes h) ∧
          (c'.nodes h).timers.brKato = 1 ∧ (c'.nodes h).vsi.smi.localchg = false)) := by
  obtain ⟨y, hy, hcases⟩ := vdp22Expire_brKato c.ecpRc hx (by rw [htimer]; decide)
  have hstep : vdp22Step c (.timer .brKato h) = .ok (c.put h y) := bind_eq_ok.mpr ⟨y, hy, rfl⟩
  refine ⟨_, hstep, (vdp22Step_moves hc hstep).wf, ?_⟩
  rw [Vdp22Ctx.put_nodes_self]
  rcases hcases with ⟨hlocalchg, hreplied⟩ | ⟨-, hfreed, htimers, -⟩
  · refine .inr ⟨hlocalchg, hreplied.wait.reset, ?_, hreplied.localchg⟩
    show y.timers.brKato = 1
    rw [hreplied.brKato, htimer]
  · refine .inl ⟨hc.not_mem_put hfreed, ?_⟩
    show y.timers.brKato = 0
    rw [htimers, htimer]

theorem not_mem_of_no_timer {c : Vdp22Ctx} {h : Nat} (hmem : h ∉ c.que)
    (htimer : (c.nodes h).timers.brKato = 0) :
    ∃ c', vdp22Step c (.timer .brKato h) = .ok c' ∧ h ∉ c'.que :=
  ⟨c.put h (c.nodes h), bind_eq_ok.mpr ⟨_, if_pos htimer, rfl⟩,
    fun hmem' => hmem (Vdp22Ctx.mem_of_mem_put hmem')⟩

/-- A bridge supervises its stations in every run in which no TLV names a node and has other
filter entries. -/
theorem supervised_of_keepsFilter (c : Vdp22Ctx)
    (hreach : vdp22System.ReachableWhere KeepsFilter c) (hrole : c.myrole = .bridge) :
    Supervised c := by
  obtain ⟨hwf, hQ⟩ := nodes_of_reachableWhere
    (Q := fun role x => role = .bridge → x.freed = true ∨ BrWait x ∧ x.timers.brKato = 1)
    (fun {c e h y} hc hQ hcond hm hrole => by
      have hnode := fun h hlt => (hQ h hlt hrole).imp (fun hfreed => hfreed) And.left
      refine (brNode_move hc hrole hnode hm).imp (fun hfreed => hfreed) fun hy => ⟨hy.1.reset, ?_⟩
      rcases hy.2 with hone | ⟨hlt, hx, hsame⟩ | ⟨vsip, rfl, hfind, hok, hcmp⟩
      · exact hone
      · rcases hQ h hlt hrole with hfreed | ⟨-, hone⟩
        · exact absurd hx.live (by rw [hfreed]; decide)
        · exact hsame.trans hone
      · -- a request with other filter entries is excluded
        have hkept := hcond (by rw [hrole]; exact hok) h hfind
        rw [hcmp] at hkept
        cases hkept) hreach
  have hnode : ∀ h ∈ c.que, BrWait (c.nodes h) ∧ (c.nodes h).timers.brKato = 1 := fun h hmem =>
    (hQ h (hwf.lt h hmem) hrole).resolve_left (by rw [hwf.live h hmem]; decide)
  refine ⟨fun h hmem _ => (hnode h hmem).2, fun h hmem _ => ?_⟩
  obtain ⟨c₁, hstep, hwf₁, hcases⟩ := vdp22Step_brKato hwf (hnode h hmem).1 (hnode h hmem).2
  have hsecond : ∃ c₂, vdp22Step c₁ (.timer .brKato h) = .ok c₂ ∧ h ∉ c₂.que := by
    rcases hcases with ⟨hgone, htimer⟩ | ⟨-, hx, htimer, hlocalchg⟩
    · exact not_mem_of_no_timer hgone htimer
    · obtain ⟨c₂, hstep₂, -, hcases₂⟩ := vdp22Step_brKato hwf₁ hx htimer
      refine ⟨c₂, hstep₂, ?_⟩
      rcases hcases₂ with ⟨hgone, -⟩ | ⟨hlocalchg', -⟩
      · exact hgone
      · rw [hlocalchg] at hlocalchg'
        cases hlocalchg'
  obtain ⟨c₂, hstep₂, hgone⟩ := hsecond
  exact ⟨c₂, bind_eq_ok.mpr ⟨c₁, hstep, bind_eq_ok.mpr ⟨c₂, hstep₂, rfl⟩⟩, hgone⟩

/-! ### A bridge and a station -/

/-- A request of a station: a VSI with the VLAN `vlan`. -/
def vlanRequest (mode : UInt8) (vlan : UInt16) : Vsi22 :=
  { vsiMode := mode, vsiFmt := vdp22IdLocal, fif := vdp22FfmtVid, fdata := [{ vlan := vlan }] }

/-- A bridge that associated a VSI supervises its station. -/
theorem associated_supervised :
    ∃ c, vdp22System.run (vdp22Create .bridge) [.tlv (vlanRequest vdp22Assoc 5)] = .ok c ∧
      Supervised c :=
  ⟨_, rfl, supervised_of_keepsFilter _
    ⟨_, [.tlv (vlanRequest vdp22Assoc 5)], ⟨.bridge, rfl⟩,
      System.runWhere_of_run rfl ⟨fun _ _ => nofun, fun _ _ => trivial⟩⟩ rfl⟩

/-- A request with another VLAN for the same VSI takes the keep alive timer away. -/
theorem not_supervised :
    ¬ ∀ c, vdp22System.Reachable c → c.myrole = .bridge → Supervised c := by
  intro h
  obtain ⟨c, hrun, hque, hstate, htimer⟩ : ∃ c, vdp22System.run (vdp22Create .bridge)
      [.tlv (vlanRequest vdp22Assoc 5), .tlv (vlanRequest vdp22Assoc 6)] = .ok c ∧
      0 ∈ c.que ∧ (c.nodes 0).vsi.smi.state = .bridge .waitcmd ∧ (c.nodes 0).timers.brKato = 0 :=
    ⟨_, rfl, List.mem_cons_self .., rfl, rfl⟩
  have hrole : c.myrole = .bridge := by
    cases Except.ok.inj hrun
    rfl
  have hone := (h c ⟨_, _, ⟨.bridge, rfl⟩, hrun⟩ hrole).timer 0 hque hstate
  rw [htimer] at hone
  cases hone

end Lldpad.Qbg
