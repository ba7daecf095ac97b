import Lldpad.Proofs.Lldp.AgentRuns
import Lldpad.Proofs.Qbg.EcpTx
import Lldpad.Qbg.EcpPort

/-!
# `Lldpad.Proofs.Qbg.PortDown`: what a port's machines make of a link that goes down

Every machine of a port is to start over when the link goes down. The agents and the ECP
instances share the flag that tells them so, and the first agent of the list takes it away.

* `Reinitialised`: every machine of the port has started over, or does so when it runs next.
* `OnlyFirstUnderWay`: no machine but the first agent's has anything to start over.
* `reinitialised_iff`: the first holds after the link went down if and only if the second held
  before.
-/

namespace Lldpad.Qbg

open Lldpad.Lib
open Lldpad.Lldp (Port PortState Env AgentType lldpStep TxInit NotUp DownInit)

variable {μ : Type}

/-! ### What is to hold -/

/-- The event does not take the link up. -/
def StaysDown : EcpPortEvent μ → Prop
  | .lldp e => NotUp e
  | _ => True

/-- The event runs the transmit machine of the standard's ECP. -/
def RunsEcp22 : EcpPortEvent μ → Prop
  | .ecp22 e => e.runsTx = true
  | .ecp22Start _ => True
  | _ => False

/-- The event runs the transmit machine of the draft ECP. -/
def RunsEcp : EcpPortEvent μ → Prop
  | .ecp e => e.runsTx = true
  | _ => False

/-- Every transmit machine of the port started over: those of the agents are in their initial
state and stay there while the link is down, and those of the ECP instances start from theirs
when they run next. -/
structure Reinitialised (env : Env μ) (s : EcpPort μ) : Prop where
  agents : ∀ es t, (ecpPortSystem env).RunWhere (fun _ e => StaysDown e) s es t →
    ∀ a ∈ t.lldp.agents, TxInit a
  ecp22 : ∀ es t, (ecpPortSystem env).RunWhere (fun _ e => StaysDown e ∧ ¬ RunsEcp22 e) s es t →
    ∀ x, t.ecp22 = some x →
      ∃ y, ecp22TxSeePort x t.lldp.port = .ok y ∧ y.ecp.tx.state = .txBegin
  ecp : ∀ es t, (ecpPortSystem env).RunWhere (fun _ e => StaysDown e ∧ ¬ RunsEcp e) s es t →
    ∀ x, t.vd = some x →
      ∃ y, ecpTxRunSm { x with port := some t.lldp.port } = .ok y ∧
        y.ecp.tx.state = .initTransmit

/-- At most the first agent of the list has its transmit machine under way. -/
structure OnlyFirstUnderWay (s : EcpPort μ) : Prop where
  agents : ∀ a ∈ s.lldp.agents.tail, TxInit a
  ecp22 : s.ecp22 = none
  ecp : ∀ x, s.vd = some x → x.ecp.tx.state = .initTransmit

/-! ### What an event can do -/

/-- What an event of a port can do. -/
inductive EcpPortMove (env : Env μ) (s : EcpPort μ) : EcpPortEvent μ → EcpPort μ → Prop
  | agents {e : Lldp.Event μ} {t : PortState μ} (h : lldpStep env s.lldp e = .ok t) :
      EcpPortMove env s (.lldp e) { s with lldp := t }
  | nothing {e : EcpPortEvent μ} : EcpPortMove env s e s
  | ecp22Start {ownSrcAddr : MacAddr} {y : Ecp22Ctx} (hagents : s.lldp.agents ≠ [])
      (h : ecp22Start (some s.lldp.port) ownSrcAddr = .ok y) :
      EcpPortMove env s (.ecp22Start ownSrcAddr) { s.withPort y.port with ecp22 := some y }
  | ecp22Stop : EcpPortMove env s .ecp22Stop { s with ecp22 := none }
  | ecp22 {e : Ecp22Event} {x y : Ecp22Ctx} (hx : s.ecp22 = some x) (hport : ∀ q, e ≠ .port q)
      (h : ecp22Step { x with port := some s.lldp.port } e = .ok y) :
      EcpPortMove env s (.ecp22 e) { s.withPort y.port with ecp22 := some y }
  | vdpIfup {ownSrcAddr : MacAddr} {x : VdpData} (hagents : s.lldp.agents ≠ [])
      (hx : s.vd = some x ∨ x.enabletx = true ∧ x.ecp = {}) :
      EcpPortMove env s (.vdpIfup ownSrcAddr) { s with vd := some (ecpInit x) }
  | vdpIfdown : EcpPortMove env s .vdpIfdown { s with vd := s.vd.map ecpDeinit }
  | ecp {e : EcpEvent} {x y : VdpData} (hx : s.vd = some x)
      (h : ecpHandle { x with port := some s.lldp.port } e = .ok y) :
      EcpPortMove env s (.ecp e) { s.withPort y.port with vd := some y }

theorem agents_ne_of_hasCustomerBridge {s : EcpPort μ} (h : s.hasCustomerBridge = true) :
    s.lldp.agents ≠ [] := by
  intro hnil
  unfold EcpPort.hasCustomerBridge at h
  rw [hnil] at h
  cases h

variable {e : EcpPortEvent μ} {env : Env μ} {s s' : EcpPort μ} {es : List (EcpPortEvent μ)}

theorem ecpPortMove_of_ok (h : ecpPortStep env s e = .ok s') : EcpPortMove env s e s' := by
  cases e with
  | lldp e =>
    cases e with
    | ecpTx => cases h; exact .nothing
    | _ =>
      obtain ⟨t, ht, h⟩ := bind_eq_ok.mp h
      cases h
      exact .agents ht
  | ecp22Start ownSrcAddr =>
    change ecp22StartOnce ownSrcAddr s = .ok s' at h
    unfold ecp22StartOnce at h
    split at h
    · next hstart =>
      obtain ⟨y, hy, h⟩ := bind_eq_ok.mp h
      cases h
      exact .ecp22Start (agents_ne_of_hasCustomerBridge hstart.1) hy
    · cases h
      exact .nothing
  | ecp22Stop => cases h; exact .ecp22Stop
  | ecp22 e =>
    have hon : ∀ e : Ecp22Event, (∀ q, e ≠ .port q) →
        (s.onEcp22 fun x => ecp22Step x e) = .ok s' → EcpPortMove env s (.ecp22 e) s' := by
      intro e hport h
      unfold EcpPort.onEcp22 at h
      cases hx : s.ecp22 with
      | none =>
        rw [hx] at h
        cases h
        exact .nothing
      | some x =>
        rw [hx] at h
        obtain ⟨y, hy, h⟩ := bind_eq_ok.mp h
        cases h
        exact .ecp22 hx hport hy
    cases e with
    | port q => cases h; exact .nothing
    | payload | frame | ackTimeout | fromEvb => exact hon _ nofun h
  | vdpIfup ownSrcAddr =>
    cases h
    unfold vdpIfup
    split
    · next hagents =>
      refine .vdpIfup (agents_ne_of_hasCustomerBridge hagents) ?_
      cases hvd : s.vd with
      | none => exact .inr ⟨rfl, rfl⟩
      | some x => exact .inl rfl
    · exact .nothing
  | vdpIfdown => cases h; exact .vdpIfdown
  | ecp e =>
    change (s.onVd fun x => ecpHandle x e) = .ok s' at h
    unfold EcpPort.onVd at h
    cases hx : s.vd with
    | none =>
      rw [hx] at h
      cases h
      exact .nothing
    | some x =>
      rw [hx] at h
      obtain ⟨y, hy, h⟩ := bind_eq_ok.mp h
      cases h
      exact .ecp hx hy

/-! ### At rest -/

/-- What holds of the instances of a port between two events. -/
structure EcpPortRest (s : EcpPort μ) : Prop where
  ecp22 : ∀ x, s.ecp22 = some x → s.lldp.agents ≠ [] ∧ Ecp22Rest x ∧ x.ecp.tx.state ≠ .txBegin
  vd : ∀ x, s.vd = some x → s.lldp.agents ≠ [] ∧ EcpRest x

theorem Ecp22Rest.withPort {c : Ecp22Ctx} (h : Ecp22Rest c) (q : Option Port) :
    Ecp22Rest { c with port := q } :=
  ⟨h.tx.congr rfl, h.rx.congr rfl⟩

theorem ecp22Start_rest {p : Port} {ownSrcAddr : MacAddr} {y : Ecp22Ctx}
    (h : ecp22Start (some p) ownSrcAddr = .ok y) :
    Ecp22Rest y ∧ y.ecp.tx.state ≠ .txBegin ∧ PortOf p y.port := by
  rw [ecp22Start_eq] at h
  have hnew : (newEcp22 (some p) ownSrcAddr).port = some p := (rxRun_sameTx _).port
  exact ⟨(newEcp22_rest _ _).txRun h, ecp22TxRunSm_started h (.inl hnew)⟩

/-- Every event leaves the instances at rest. -/
theorem EcpPortMove.rest (h : EcpPortRest s) (hm : EcpPortMove env s e s') : EcpPortRest s' := by
  cases hm with
  | agents hstep =>
    have hne := Lldp.lldpStep_agents_ne hstep
    refine ⟨fun x hx => ?_, fun x hx => ?_⟩
    · obtain ⟨hagents, hrest⟩ := h.ecp22 x hx
      exact ⟨hne hagents, hrest⟩
    · obtain ⟨hagents, hrest⟩ := h.vd x hx
      exact ⟨hne hagents, hrest⟩
  | nothing => exact h
  | ecp22Start hagents hstart =>
    obtain ⟨hrest, hstate, -⟩ := ecp22Start_rest hstart
    refine ⟨fun x hx => ?_, h.vd⟩
    cases hx
    exact ⟨hagents, hrest, hstate⟩
  | ecp22Stop =>
    refine ⟨fun x hx => ?_, h.vd⟩
    cases hx
  | ecp22 hx hport hstep =>
    obtain ⟨hagents, hrest, hstate⟩ := h.ecp22 _ hx
    refine ⟨fun y hy => ?_, h.vd⟩
    cases hy
    have hp := hrest.withPort (some s.lldp.port)
    exact ⟨hagents, ecp22Step_rest hp hstep, (ecp22Step_started hstep rfl hp hstate hport).1⟩
  | vdpIfup hagents hx =>
    refine ⟨h.ecp22, fun y hy => ?_⟩
    cases hy
    rcases hx with hx | ⟨htx, hecp⟩
    · obtain ⟨hne, hrest⟩ := h.vd _ hx
      exact ⟨hne, hrest.enabletx, hrest.state⟩
    · have hstate : (ecpInit _).ecp.tx.state = .initTransmit := congrArg (·.tx.state) hecp
      exact ⟨hagents, htx, fun h => absurd (hstate.symm.trans h) nofun⟩
  | vdpIfdown =>
    refine ⟨h.ecp22, fun y hy => ?_⟩
    obtain ⟨x, hx, rfl⟩ := Option.map_eq_some_iff.mp hy
    obtain ⟨hne, hrest⟩ := h.vd x hx
    exact ⟨hne, hrest.enabletx, hrest.state⟩
  | ecp hx hstep =>
    obtain ⟨hne, hrest⟩ := h.vd _ hx
    refine ⟨h.ecp22, fun y hy => ?_⟩
    cases hy
    exact ⟨hne, (ecpHandle_rest hstep rfl ⟨hrest.enabletx, hrest.state⟩).1⟩

theorem withPort_lldp {s : EcpPort μ} (env : Env μ) {q : Option Port}
    (hq : PortOf s.lldp.port q) :
    (s.withPort q).lldp = s.lldp ∨ lldpStep env s.lldp .ecpTx = .ok (s.withPort q).lldp := by
  rcases hq with rfl | rfl
  · exact .inl rfl
  · exact .inr rfl

theorem EcpPortMove.lldp (h : EcpPortRest s) (hm : EcpPortMove env s e s') :
    s'.lldp = s.lldp ∨
      ∃ e', lldpStep env s.lldp e' = .ok s'.lldp ∧ (StaysDown e → NotUp e') := by
  have hport : ∀ q, PortOf s.lldp.port q → (s.withPort q).lldp = s.lldp ∨
      ∃ e', lldpStep env s.lldp e' = .ok (s.withPort q).lldp ∧ (StaysDown e → NotUp e') :=
    fun q hq => (withPort_lldp env hq).imp_right fun hstep => ⟨.ecpTx, hstep, fun _ => trivial⟩
  cases hm with
  | agents hstep => exact .inr ⟨_, hstep, fun hdown => hdown⟩
  | nothing | ecp22Stop | vdpIfup | vdpIfdown => exact .inl rfl
  | ecp22Start hagents hstart => exact hport _ (ecp22Start_rest hstart).2.2
  | ecp22 hx hne hstep =>
    obtain ⟨-, hrest, hstate⟩ := h.ecp22 _ hx
    exact hport _ (ecp22Step_started hstep rfl (hrest.withPort _) hstate hne).2
  | ecp hx hstep =>
    obtain ⟨-, hrest⟩ := h.vd _ hx
    exact hport _ (ecpHandle_rest hstep rfl ⟨hrest.enabletx, hrest.state⟩).2

/-- In every reachable state the instances are at rest, and the agents are in a reachable
state of their own. -/
theorem ecpPort_of_reachable {s : EcpPort μ} (h : (ecpPortSystem env).Reachable s) :
    EcpPortRest s ∧ (Lldp.lldpSystem env).Reachable s.lldp := by
  refine h.invariant (I := fun s => EcpPortRest s ∧ (Lldp.lldpSystem env).Reachable s.lldp) ?_ ?_
  · rintro s ⟨hfresh, hecp22, hvd⟩
    refine ⟨⟨fun x hx => ?_, fun x hx => ?_⟩, s.lldp, [], hfresh, rfl⟩
    · rw [hecp22] at hx
      cases hx
    · rw [hvd] at hx
      cases hx
  · rintro s e t ⟨hrest, hreach⟩ hstep
    have hm := ecpPortMove_of_ok hstep
    refine ⟨hm.rest hrest, ?_⟩
    rcases hm.lldp hrest with hsame | ⟨e', hstep', -⟩
    · rw [hsame]
      exact hreach
    · exact hreach.step hstep'

/-! ### While the link is down -/

theorem EcpPortMove.down
    (hrest : EcpPortRest s) (hdown : s.lldp.port.portEnabled = false) (he : StaysDown e)
    (hm : EcpPortMove env s e s') : s'.lldp.port.portEnabled = false := by
  rcases hm.lldp hrest with hsame | ⟨e', hstep, hup⟩
  · rw [hsame]
    exact hdown
  · exact Lldp.lldpStep_down hdown (hup he) hstep

theorem downInit_of_run {s t : EcpPort μ} (hrest : EcpPortRest s) (h : DownInit s.lldp)
    (hrun : (ecpPortSystem env).RunWhere (fun _ e => StaysDown e) s es t) : DownInit t.lldp := by
  refine (hrun.invariant (I := fun t => EcpPortRest t ∧ DownInit t.lldp) ?_ ⟨hrest, h⟩).2
  rintro x e y ⟨hx, hinit⟩ he hstep
  have hm := ecpPortMove_of_ok hstep
  refine ⟨hm.rest hx, ?_⟩
  rcases hm.lldp hx with hsame | ⟨e', hstep', hup⟩
  · rw [hsame]
    exact hinit
  · exact hinit.step (hup he) hstep'

theorem noEcp22_of_run {s t : EcpPort μ}
    (hrun : (ecpPortSystem env).RunWhere (fun _ e => StaysDown e ∧ ¬ RunsEcp22 e) s es t)
    (h : s.ecp22 = none) : t.ecp22 = none := by
  refine hrun.invariant (I := fun t => t.ecp22 = none) ?_ h
  rintro x e y hx ⟨-, hruns⟩ hstep
  cases ecpPortMove_of_ok hstep with
  | ecp22Start => exact absurd trivial hruns
  | ecp22 hsome =>
    rw [hx] at hsome
    cases hsome
  | ecp22Stop => rfl
  | agents | nothing | vdpIfup | vdpIfdown | ecp => exact hx

theorem ecpInit_of_run {s t : EcpPort μ}
    (hrest : EcpPortRest s) (hdown : s.lldp.port.portEnabled = false)
    (h : ∀ x, s.vd = some x → x.ecp.tx.state = .initTransmit)
    (hrun : (ecpPortSystem env).RunWhere (fun _ e => StaysDown e ∧ ¬ RunsEcp e) s es t) :
    t.lldp.port.portEnabled = false ∧ ∀ x, t.vd = some x → x.ecp.tx.state = .initTransmit := by
  refine (hrun.invariant (I := fun t => EcpPortRest t ∧ t.lldp.port.portEnabled = false ∧
    ∀ x, t.vd = some x → x.ecp.tx.state = .initTransmit) ?_ ⟨hrest, hdown, h⟩).2
  rintro x e y ⟨hx, hxdown, hinit⟩ ⟨he, hruns⟩ hstep
  have hm := ecpPortMove_of_ok hstep
  refine ⟨hm.rest hx, hm.down hx hxdown he, fun v hv => ?_⟩
  cases hm with
  | agents | nothing | ecp22Start | ecp22Stop | ecp22 => exact hinit v hv
  | vdpIfup hagents hvd =>
    cases hv
    rcases hvd with hvd | ⟨-, hecp⟩
    · have hstate := hinit _ hvd
      exact hstate
    · exact congrArg (·.tx.state) hecp
  | vdpIfdown =>
    obtain ⟨w, hw, rfl⟩ := Option.map_eq_some_iff.mp hv
    exact hinit w hw
  | ecp hvd hhandle =>
    cases hv
    have hnot := Bool.eq_false_iff.mpr hruns
    have hstate := hinit _ hvd
    exact (ecpHandle_state hnot hhandle).1.trans hstate

/-! ### The link goes down -/

theorem seen_of_portEnable (hne : s.lldp.agents ≠ [])
    (h : ecpPortStep env s (.lldp (.portEnable false)) = .ok s') :
    s'.lldp.port.portEnabled = false ∧ s'.lldp.port.prevPortEnabled = false ∧
      s'.ecp22 = s.ecp22 ∧ s'.vd = s.vd := by
  obtain ⟨t, ht, h⟩ := bind_eq_ok.mp h
  cases h
  obtain ⟨⟨w, as⟩, hloop, ht⟩ := bind_eq_ok.mp ht
  cases ht
  obtain ⟨henabled, hprev⟩ := Lldp.forAgents_ran (fun _ _ => Lldp.runSms_ran) hloop
  refine ⟨henabled, hprev fun hnil => hne ?_, rfl, rfl⟩
  exact List.map_eq_nil_iff.mp hnil

/-- Every machine of a port starts over when the link goes down if and only if at most the
first agent had its transmit machine under way. -/
theorem reinitialised_iff (env : Env μ) (s s' : EcpPort μ)
    (hreach : (ecpPortSystem env).Reachable s)
    (h : ecpPortStep env s (.lldp (.portEnable false)) = .ok s') :
    Reinitialised env s' ↔ OnlyFirstUnderWay s := by
  obtain ⟨hrest, hlldp⟩ := ecpPort_of_reachable hreach
  have hrest' := (ecpPortMove_of_ok h).rest hrest
  obtain ⟨t, ht, hs'⟩ := bind_eq_ok.mp h
  cases hs'
  constructor
  · intro hre
    refine ⟨?_, ?_, fun x hx => ?_⟩
    · exact Lldp.setLldpPortEnable_tail (Lldp.agentAtRest_of_reachable hlldp) ht
        (hre.agents [] _ (.nil _))
    · -- an instance does not see the edge that an agent has taken
      cases hx : s.ecp22 with
      | none => rfl
      | some x =>
        obtain ⟨hne, -, hstate⟩ := hrest.ecp22 x hx
        obtain ⟨-, hprev, hsame, -⟩ := seen_of_portEnable hne h
        obtain ⟨y, hy, hbegin⟩ := hre.ecp22 [] _ (.nil _) x (hsame.trans hx)
        rw [ecp22TxSeePort_eq] at hy
        cases hy
        refine absurd hbegin ?_
        show Ecp22Ctx.startState _ _ ≠ _
        unfold Ecp22Ctx.startState falls
        rw [hprev, Bool.and_false, if_neg Bool.false_ne_true]
        exact hstate
    · obtain ⟨hne, hecp⟩ := hrest.vd x hx
      obtain ⟨-, hprev, -, hsame⟩ := seen_of_portEnable hne h
      obtain ⟨y, hy, hinit⟩ := hre.ecp [] _ (.nil _) x (hsame.trans hx)
      refine Classical.byContradiction fun hne => ?_
      refine ecpTxRunSm_keepsOn hy rfl ?_ hecp.enabletx hne hinit
      unfold falls
      rw [hprev, Bool.and_false]
  · intro honly
    have hinit := DownInit.of_portEnable (Lldp.headReady_of_reachable hlldp) honly.agents ht
    refine ⟨fun es u hrun => (downInit_of_run hrest' hinit hrun).init, fun es u hrun x hx => ?_,
      fun es u hrun x hx => ?_⟩
    · rw [noEcp22_of_run hrun honly.ecp22] at hx
      cases hx
    · obtain ⟨hdown, hstate⟩ := ecpInit_of_run hrest' hinit.down honly.ecp hrun
      exact ecpTxRunSm_init rfl hdown (hstate x hx)

/-! ### One agent and two -/

/-- A port of the daemon `Lldp.stationEnv` with the agents of the given types, the last one
first, whose link is up. -/
def upWith (types : List AgentType) : List (EcpPortEvent Unit) :=
  types.map (fun type => .lldp (.addAgent type)) ++ [.lldp (.portEnable true)]

/-- A port with one agent starts over. -/
theorem oneAgent_reinitialised :
    ∃ s s', (ecpPortSystem Lldp.stationEnv).run { lldp := Lldp.stationPort }
        (upWith [.nearestBridge]) = .ok s ∧
      ecpPortStep Lldp.stationEnv s (.lldp (.portEnable false)) = .ok s' ∧
      Reinitialised Lldp.stationEnv s' := by
  obtain ⟨s, s', hrun, hstep, htail, hecp22, hvd⟩ : ∃ s s',
      (ecpPortSystem Lldp.stationEnv).run { lldp := Lldp.stationPort }
        (upWith [.nearestBridge]) = .ok s ∧
      ecpPortStep Lldp.stationEnv s (.lldp (.portEnable false)) = .ok s' ∧
      s.lldp.agents.tail = [] ∧ s.ecp22 = none ∧ s.vd = none :=
    ⟨_, _, rfl, rfl, rfl, rfl, rfl⟩
  refine ⟨s, s', hrun, hstep, ?_⟩
  refine (reinitialised_iff Lldp.stationEnv s s' ⟨_, _, ⟨⟨rfl, rfl⟩, rfl, rfl⟩, hrun⟩ hstep).mpr
    ⟨fun a ha => ?_, hecp22, fun x hx => ?_⟩
  · rw [htail] at ha
    exact absurd ha List.not_mem_nil
  · rw [hvd] at hx
    cases hx

/-- The second of two agents goes on as if nothing had happened. -/
theorem not_reinitialised :
    ¬ ∀ s s', (ecpPortSystem Lldp.stationEnv).Reachable s →
      ecpPortStep Lldp.stationEnv s (.lldp (.portEnable false)) = .ok s' →
      Reinitialised Lldp.stationEnv s' := by
  intro h
  obtain ⟨s, s', a, hrun, hstep, ha, hidle⟩ : ∃ s s' a, (ecpPortSystem Lldp.stationEnv).run
      { lldp := Lldp.stationPort } (upWith [.nearestBridge, .nearestCustomerBridge]) = .ok s ∧
      ecpPortStep Lldp.stationEnv s (.lldp (.portEnable false)) = .ok s' ∧
      a ∈ s'.lldp.agents ∧ a.tx.state = .txIdle :=
    ⟨_, _, _, rfl, rfl, List.mem_cons_of_mem _ (List.mem_cons_self ..), rfl⟩
  have hinit := (h s s' ⟨_, _, ⟨⟨rfl, rfl⟩, rfl, rfl⟩, hrun⟩ hstep).agents [] s' (.nil s') a ha
  exact absurd (hidle.symm.trans hinit) nofun

end Lldpad.Qbg
