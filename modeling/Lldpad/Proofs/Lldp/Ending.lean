import Lldpad.Proofs.Lldp.Shutdown

/-!
# `Lldpad.Proofs.Lldp.Ending`: every run of the three machines ends

The transmit machine and its timers always come to rest (`runTxSm_total`,
`runTxTimersSm_total`), and the receive machine does unless a frame arrives while an age-out
is pending (`runRxSm_ends`). `machines_end_iff` puts the three together for whole events.
-/

namespace Lldpad.Lldp

open Lldpad.Lib

variable {μ : Type}

/-! ### Whole events -/

variable {env : RaisingEnv μ} {c : Ctx μ}

theorem runSms_rest (env : RaisingEnv μ) (hdelays : DelaysSet c.agent) (h : RxAtRest c.agent) :
    ∃ d, Reentry.runSms env.toEnv (Reentry.runRxSm env) c = .ok d ∧ AgentAtRest d.agent := by
  obtain ⟨d, hd⟩ := runTxSm_total env.toEnv c
  obtain ⟨e, he, hrest⟩ := agentAtRest_runRxSm env
    ⟨runTxSm_delays hd hdelays, runTxSm_shutdownWhile hd⟩
    ((runTxSm_keeps hd).sameRxSide.rxAtRest h)
  exact ⟨e, bind_eq_ok.mpr ⟨d, hd, he⟩, hrest⟩

theorem setAgentAdmin_rest (env : RaisingEnv μ) (admin : AdminStatus) (h : AgentAtRest c.agent) :
    ∃ d, Reentry.setAgentAdmin (Reentry.runSms env.toEnv (Reentry.runRxSm env)) admin c = .ok d ∧
      AgentAtRest d.agent := by
  unfold Reentry.setAgentAdmin
  split
  · exact runSms_rest env h.txReady.delays (h.rxAtRest.of_rx rfl rfl)
  · exact ⟨c, rfl, h⟩

theorem agentTick_rest (env : RaisingEnv μ) (h : AgentAtRest c.agent) :
    ∃ d, Reentry.agentTick env.toEnv (Reentry.runRxSm env) c = .ok d ∧ AgentAtRest d.agent := by
  have hready : TimersReady (updateTxTimers c.agent) := h.timersReady
  obtain ⟨a, ha⟩ := runTxTimersSm_total (p := c.port) hready
  have hdelays : DelaysSet (updateTxTimers c.agent) := ⟨h.timersReady, h.reinitDelay⟩
  have hrest : RxAtRest a :=
    (runTxTimersSm_keeps ha).sameRxSide.rxAtRest (h.rxAtRest.of_rx rfl rfl)
  obtain ⟨d, hd, hatRest⟩ := runSms_rest env (c := { c with agent := a })
    (hdelays.of_keep (runTxTimersSm_keeps ha)) hrest
  obtain ⟨e, he, hd⟩ := bind_eq_ok.mp hd
  exact ⟨_, bind_eq_ok.mpr ⟨a, ha, bind_eq_ok.mpr ⟨e, he, bind_eq_ok.mpr ⟨d, hd, rfl⟩⟩⟩,
    hatRest.afterTimers⟩

/-- A frame is accepted and handled, or it arrives while an age-out is pending. -/
theorem rxAcceptFrame_ends (env : RaisingEnv μ) {f : Frame} (hsize : f.size ≠ 0)
    (h : AgentAtRest c.agent) :
    (∃ d, Reentry.rxAcceptFrame (Reentry.runRxSm env) f c = .ok d ∧ AgentAtRest d.agent) ∧
        ¬AgePending c.port c.agent ∨
      AgePending c.port c.agent ∧
        Reentry.rxAcceptFrame (Reentry.runRxSm env) f c = .error .assertFailed := by
  unfold Reentry.rxAcceptFrame
  by_cases hbarred : c.agent.adminStatus = .disabled ∨ c.agent.adminStatus = .enabledTxOnly
  · rw [if_pos hbarred]
    refine .inl ⟨⟨c, rfl, h⟩, fun hpending => ?_⟩
    have hrx := hpending.2.2.1
    rcases hbarred with hs | hs
    all_goals
      rw [hs] at hrx
      cases hrx
  · rw [if_neg hbarred]
    by_cases hpending : AgePending c.port c.agent
    · exact .inr ⟨hpending, runRxSm_aged env hpending rfl⟩
    · refine .inl ⟨?_, hpending⟩
      let d : Ctx μ := { c with
        agent := { c.agent with
          rx := { c.agent.rx with framein := some f, rcvFrame := true }
          stats := { c.agent.stats with
            statsFramesInTotal := c.agent.stats.statsFramesInTotal + 1 } } }
      rcases runRxSm_ends env (c := d) (h.txReady.congr rfl rfl) h.rxAtRest.state
          (fun _ _ => ⟨f, rfl, hsize⟩) with hrun | ⟨⟨hp, -⟩, -⟩
      · exact hrun
      · exact absurd hp hpending

theorem forAgents_rest {f : Ctx μ → Except Fault (Ctx μ)}
    (hf : ∀ c : Ctx μ, AgentAtRest c.agent → ∃ d, f c = .ok d ∧ AgentAtRest d.agent)
    (w : World μ) {as : List LldpAgent} (h : ∀ a ∈ as, AgentAtRest a) :
    ∃ x, forAgents f w as = .ok x ∧ ∀ a ∈ x.2, AgentAtRest a := by
  obtain ⟨x, hx⟩ := forAgents_total (P := AgentAtRest)
    (fun c hc => (hf c hc).imp fun _ hd => hd.1) as w h
  refine ⟨x, hx, forAgents_forall as w x.1 x.2 (fun c c' _ hc hc' => ?_) h hx⟩
  obtain ⟨d, hd, hrest⟩ := hf c hc
  cases hd.symm.trans hc'
  exact hrest

theorem forAgent_rest {p : LldpAgent → Bool} {f : Ctx μ → Except Fault (Ctx μ)}
    (hf : ∀ c : Ctx μ, AgentAtRest c.agent → ∃ d, f c = .ok d ∧ AgentAtRest d.agent)
    (w : World μ) : ∀ as : List LldpAgent, (∀ a ∈ as, AgentAtRest a) →
      ∃ x, forAgent p f w as = .ok x ∧ ∀ a ∈ x.2, AgentAtRest a := by
  intro as
  induction as with
  | nil => exact fun h => ⟨_, rfl, h⟩
  | cons a as ih =>
    intro h
    rw [List.forall_mem_cons] at h
    rw [forAgent]
    split
    · obtain ⟨d, hd, hrest⟩ := hf { w with agent := a } h.1
      exact ⟨_, bind_eq_ok.mpr ⟨d, hd, rfl⟩, List.forall_mem_cons.mpr ⟨hrest, h.2⟩⟩
    · obtain ⟨x, hx, hrest⟩ := ih h.2
      exact ⟨_, bind_eq_ok.mpr ⟨x, hx, rfl⟩, List.forall_mem_cons.mpr ⟨h.1, hrest⟩⟩

/-- The agents receive a frame, or it is for one whose age-out is pending. -/
theorem rxReceiveLoop_ends (env : RaisingEnv μ) {f : Frame} (hsize : f.size ≠ 0) (w : World μ) :
    ∀ as : List LldpAgent, (∀ a ∈ as, AgentAtRest a) →
      (∃ x, Reentry.rxReceiveLoop (Reentry.runRxSm env) f w as = .ok x ∧
          ∀ a ∈ x.2, AgentAtRest a) ∧
          (∀ a, receiver f as = some (.accept f, a) → ¬AgePending w.port a) ∨
        (∃ a, receiver f as = some (.accept f, a) ∧ AgePending w.port a) ∧
          Reentry.rxReceiveLoop (Reentry.runRxSm env) f w as = .error .assertFailed := by
  intro as
  induction as with
  | nil =>
    refine fun h => .inl ⟨⟨(w, []), by rw [Reentry.rxReceiveLoop], h⟩, fun a ha => ?_⟩
    rw [receiver] at ha
    cases ha
  | cons a as ih =>
    intro hrest
    rw [List.forall_mem_cons] at hrest
    rw [Reentry.rxReceiveLoop, receiver]
    by_cases hold : a.holdsFrame f = true
    · rw [if_pos hold, if_pos hold]
      have ha := hrest.1
      have hrepeated : AgentAtRest (rxRepeatFrame f a) :=
        ⟨ha.timersReady, ha.reinitDelay, ha.rxAtRest.of_rx rfl rfl, ha.shutdownWhile⟩
      refine .inl ⟨⟨_, rfl, List.forall_mem_cons.mpr ⟨hrepeated, hrest.2⟩⟩, fun b hb => ?_⟩
      have hev : AgentEvent.repeated f = .accept f := (Prod.mk.inj (Option.some.inj hb)).1
      cases hev
    · rw [if_neg hold, if_neg hold]
      by_cases hproto : f.hProto ≠ ethPLldp
      · rw [if_pos hproto, if_pos hproto]
        exact .inl ⟨⟨_, rfl, List.forall_mem_cons.mpr hrest⟩,
          fun b hb => absurd hb (Option.some_ne_none _).symm⟩
      · rw [if_neg hproto, if_neg hproto]
        by_cases hdest : f.hDest = a.macAddr
        · rw [if_pos hdest, if_pos hdest]
          rcases rxAcceptFrame_ends env (c := { w with agent := a }) hsize hrest.1 with
            ⟨⟨d, hd, hrest'⟩, hnot⟩ | ⟨hpending, herr⟩
          · refine .inl ⟨⟨_, bind_eq_ok.mpr ⟨d, hd, rfl⟩,
              List.forall_mem_cons.mpr ⟨hrest', hrest.2⟩⟩, ?_⟩
            rintro b hb
            cases hb
            exact hnot
          · exact .inr ⟨⟨a, rfl, hpending⟩, by rw [herr, bind_error]⟩
        · rw [if_neg hdest, if_neg hdest]
          rcases ih hrest.2 with ⟨⟨x, hx, hrest'⟩, hnot⟩ | ⟨hpending, herr⟩
          · exact .inl ⟨⟨_, bind_eq_ok.mpr ⟨x, hx, rfl⟩,
              List.forall_mem_cons.mpr ⟨hrest.1, hrest'⟩⟩, hnot⟩
          · exact .inr ⟨hpending, by rw [herr, bind_error]⟩

/-- The event is a frame for an agent whose age-out is pending. -/
def FrameWhileAged (s : PortState μ) (e : Event μ) : Prop :=
  ∃ f a, e = .frame f ∧ f.size ≠ 0 ∧ receiver f s.agents = some (.accept f, a) ∧
    AgePending s.port a

/-- The handler of every event returns, but for a frame that arrives while an age-out is
pending. -/
theorem lldpStep_ends (env : RaisingEnv μ) {s : PortState μ} (h : ∀ a ∈ s.agents, AgentAtRest a)
    (e : Event μ) :
    (∃ t, (Reentry.lldpSystem env).step s e = .ok t ∧ ∀ a ∈ t.agents, AgentAtRest a) ∧
        ¬FrameWhileAged s e ∨
      FrameWhileAged s e ∧ (Reentry.lldpSystem env).step s e = .error .assertFailed := by
  -- The events that run no machine are those of the plain system.
  have hplain : ∀ e : Event μ, ¬FrameWhileAged s e → (∃ t, lldpStep env.toEnv s e = .ok t) →
      (∃ t, lldpStep env.toEnv s e = .ok t ∧ ∀ a ∈ t.agents, AgentAtRest a) ∧
        ¬FrameWhileAged s e := by
    rintro e hno ⟨t, ht⟩
    exact ⟨⟨t, ht, lldpStep_forall (lldpInitAgent_atRest env.toEnv)
      (fun ev c c' _ => agentHandle_atRest ev c c') h ht⟩, hno⟩
  have hno : ∀ e : Event μ, (∀ f, e ≠ .frame f) → ¬FrameWhileAged s e :=
    fun e he ⟨f, _, hf, _⟩ => he f hf
  cases e with
  | frame f =>
    by_cases hsize : f.size = 0
    · refine .inl ⟨⟨s, ?_, h⟩, ?_⟩
      · show Reentry.rxReceiveFrame (Reentry.runRxSm env) f s = _
        rw [Reentry.rxReceiveFrame, if_pos hsize]
        rfl
      · rintro ⟨g, -, hg, hne, -⟩
        cases hg
        exact hne hsize
    · have hstep : (Reentry.lldpSystem env).step s (.frame f)
          = Reentry.rxReceiveLoop (Reentry.runRxSm env) f s.toWorld s.agents >>=
            fun x => pure { x.1 with agents := x.2 } := by
        show Reentry.rxReceiveFrame (Reentry.runRxSm env) f s = _
        rw [Reentry.rxReceiveFrame, if_neg hsize]
      rcases rxReceiveLoop_ends env hsize s.toWorld s.agents h with
        ⟨⟨x, hx, hrest⟩, hnot⟩ | ⟨⟨a, ha, hpending⟩, herr⟩
      · refine .inl ⟨⟨_, by rw [hstep, hx]; rfl, hrest⟩, ?_⟩
        rintro ⟨g, a, hg, -, ha, hpending⟩
        cases hg
        exact hnot a ha hpending
      · exact .inr ⟨⟨f, a, rfl, hsize, ha, hpending⟩, by rw [hstep, herr]; rfl⟩
  | tick =>
    obtain ⟨x, hx, hrest⟩ := forAgents_rest (fun c hc => agentTick_rest env hc) s.toWorld h
    exact .inl ⟨⟨_, bind_eq_ok.mpr ⟨x, hx, rfl⟩, hrest⟩, hno _ nofun⟩
  | setAdmin type admin =>
    obtain ⟨x, hx, hrest⟩ := forAgent_rest (p := fun a => a.type = type)
      (fun c hc => setAgentAdmin_rest env admin hc) s.toWorld s.agents h
    exact .inl ⟨⟨_, bind_eq_ok.mpr ⟨x, hx, rfl⟩, hrest⟩, hno _ nofun⟩
  | portEnable enable =>
    have hagents : ∀ a ∈ (if enable then s.agents else s.agents.map dropInfoAge),
        AgentAtRest a := by
      cases enable with
      | true => exact h
      | false =>
        intro b hb
        obtain ⟨a, ha, rfl⟩ := List.mem_map.mp hb
        have hready : TxReady (dropInfoAge a) := (h a ha).txReady.congr rfl rfl
        exact hready.atRest ((h a ha).rxAtRest.of_rx rfl rfl)
    obtain ⟨x, hx, hrest⟩ := forAgents_rest
      (fun c hc => runSms_rest env hc.txReady.delays hc.rxAtRest) (s.worldWithLink enable) hagents
    exact .inl ⟨⟨_, bind_eq_ok.mpr ⟨x, hx, rfl⟩, hrest⟩, hno _ nofun⟩
  | reinitPort =>
    obtain ⟨x, hx⟩ := forAgents_total (f := fun c => .ok (reinitAgent env.toEnv c))
      (P := fun _ => True) (fun c _ => ⟨_, rfl⟩) s.agents s.worldReinit fun _ _ => trivial
    exact .inl (hplain .reinitPort (hno _ nofun) ⟨_, bind_eq_ok.mpr ⟨x, hx, rfl⟩⟩)
  | operDelay => exact .inl (hplain .operDelay (hno _ nofun) ⟨_, rfl⟩)
  | addAgent type => exact .inl (hplain (.addAgent type) (hno _ nofun) ⟨_, rfl⟩)
  | localChange type => exact .inl (hplain (.localChange type) (hno _ nofun) ⟨_, rfl⟩)
  | updateTtl ttl => exact .inl (hplain (.updateTtl ttl) (hno _ nofun) ⟨_, rfl⟩)
  | ecpTx => exact .inl (hplain .ecpTx (hno _ nofun) ⟨_, rfl⟩)
  | modulesWork m => exact .inl (hplain (.modulesWork m) (hno _ nofun) ⟨_, rfl⟩)

theorem agents_rest (env : RaisingEnv μ) {s : PortState μ}
    (h : (Reentry.lldpSystem env).Reachable s) : ∀ a ∈ s.agents, AgentAtRest a := by
  refine h.invariant (I := fun s => ∀ a ∈ s.agents, AgentAtRest a) ?_ ?_
  · intro s hs
    rw [hs.1]
    exact fun a ha => absurd ha List.not_mem_nil
  · intro s e t hrest hstep
    rcases lldpStep_ends env hrest e with ⟨⟨t', ht', hrest'⟩, -⟩ | ⟨-, herr⟩
    · cases ht'.symm.trans hstep
      exact hrest'
    · cases herr.symm.trans hstep

/-! ### The machines -/

/-- The agent with another admin status and, if there is one, a frame for it. -/
def LldpAgent.offered (a : LldpAgent) (admin : AdminStatus) (frame : Option Frame) : LldpAgent :=
  { a with
    adminStatus := admin
    rx := match frame with
      | none => a.rx
      | some f => { a.rx with framein := some f, rcvFrame := true } }

/-- Every machine of the agent comes to rest when it is run. -/
structure MachinesEnd (env : RaisingEnv μ) (c : Ctx μ) : Prop where
  timers : ∃ a, runTxTimersSm c.port c.agent = .ok a
  tick : ∃ a, runTxTimersSm c.port (updateTxTimers c.agent) = .ok a
  tx : ∃ d, runTxSm env.toEnv c = .ok d
  rx : ∃ d, Reentry.runRxSm env c = .ok d

/-- The machines of an agent at rest end, whatever the link, the administrator and a frame
made of it, but for a frame while an age-out is pending. -/
theorem machinesEnd_iff (env : RaisingEnv μ) {a : LldpAgent} (h : AgentAtRest a) (w : World μ)
    (admin : AdminStatus) {frame : Option Frame} (hsize : ∀ f ∈ frame, f.size ≠ 0) :
    MachinesEnd env { w with agent := a.offered admin frame } ↔
      ¬(frame.isSome = true ∧ AgePending w.port (a.offered admin frame)) := by
  have hready : TimersReady (a.offered admin frame) := h.timersReady
  have htx : TxReady (a.offered admin frame) := h.txReady.congr rfl rfl
  cases frame with
  | none =>
    obtain ⟨d, hd, -⟩ := agentAtRest_runRxSm env (c := { w with agent := a.offered admin none })
      htx (h.rxAtRest.of_rx rfl rfl)
    exact iff_of_true ⟨runTxTimersSm_total hready, runTxTimersSm_total hready,
      runTxSm_total _ _, d, hd⟩ (fun hn => nomatch hn.1)
  | some f =>
    constructor
    · rintro hends ⟨-, hpending⟩
      obtain ⟨d, hd⟩ := hends.rx
      have herr := runRxSm_aged env (c := { w with agent := a.offered admin (some f) })
        hpending rfl
      cases herr.symm.trans hd
    · intro hnot
      refine ⟨runTxTimersSm_total hready, runTxTimersSm_total hready, runTxSm_total _ _, ?_⟩
      rcases runRxSm_ends env (c := { w with agent := a.offered admin (some f) }) htx
          h.rxAtRest.state (fun _ _ => ⟨f, rfl, hsize f rfl⟩) with ⟨d, hd, -⟩ | ⟨⟨hp, -⟩, -⟩
      · exact ⟨d, hd⟩
      · exact absurd ⟨rfl, hp⟩ hnot

/-- The machines of a port are well behaved, exactly as long as no frame is accepted while an
age-out is pending. From every reachable state the handler of every event returns, and each machine
of each agent ends under every admin status, in every surrounding and with every frame, unless a
frame is for an agent that waits for one with `rxInfoAge` set. No assertion of `rx_change_state` or
`tx_change_state` ever fails. -/
theorem machines_end_iff (env : RaisingEnv μ) {s : PortState μ}
    (h : (Reentry.lldpSystem env).Reachable s) :
    (∀ e, (∃ t, (Reentry.lldpSystem env).step s e = .ok t) ↔ ¬FrameWhileAged s e) ∧
      (∀ a ∈ s.agents, ∀ (w : World μ) (admin : AdminStatus) (frame : Option Frame),
        (∀ f ∈ frame, f.size ≠ 0) →
          (MachinesEnd env { w with agent := a.offered admin frame } ↔
            ¬(frame.isSome = true ∧ AgePending w.port (a.offered admin frame)))) ∧
      ∀ c : Ctx μ, (∃ r, setRxState c.port c.agent = .ok r) ∧ ∃ r, setTxState c = .ok r := by
  have hrest := agents_rest env h
  refine ⟨fun e => ?_, fun a ha w admin frame => machinesEnd_iff env (hrest a ha) w admin,
    fun c => ⟨⟨_, setRxState_eq _ _⟩, _, setTxState_eq c⟩⟩
  rcases lldpStep_ends env hrest e with ⟨⟨t, ht, -⟩, hnot⟩ | ⟨haged, herr⟩
  · exact iff_of_true ⟨t, ht⟩ hnot
  · exact iff_of_false (fun ⟨t, ht⟩ => nomatch herr.symm.trans ht) (not_not_intro haged)

/-- A frame of a neighbour whose information lives for one second -/
def shortLived (portId : UInt8) : Frame where
  bytes := [0x01, 0x80, 0xc2, 0x00, 0x00, 0x0e, 0x02, 0x00, 0x00, 0x00, 0x00, 0x02, 0x88, 0xcc,
    0x02, 0x07, 0x04, 0x02, 0x00, 0x00, 0x00, 0x00, 0x02, 0x04, 0x02, 0x07, portId,
    0x06, 0x02, 0x00, 0x01, 0x00, 0x00]
  past := []
  bytes_le := by simp [l2BufferLen]

/-- The information of a neighbour runs out, and before the next tick another frame arrives. -/
def runsOut : List (Event Unit) :=
  [.addAgent .nearestBridge, .portEnable true, .frame (shortLived 1), .tick]

/-- Not every frame is handled: here the daemon stops at the assertion of `rxProcessFrame`. -/
theorem not_machines_end :
    ¬ ∀ s, (Reentry.lldpSystem stationEnv.quiet).Reachable s →
      ∀ e, ∃ t, (Reentry.lldpSystem stationEnv.quiet).step s e = .ok t := by
  intro hall
  obtain ⟨s, hrun, hstop⟩ : ∃ s,
      (Reentry.lldpSystem stationEnv.quiet).run stationPort runsOut = .ok s ∧
      (Reentry.lldpSystem stationEnv.quiet).step s (.frame (shortLived 2)) =
        .error .assertFailed := ⟨_, rfl, rfl⟩
  obtain ⟨t, ht⟩ := hall s ⟨stationPort, _, ⟨rfl, rfl⟩, hrun⟩ (.frame (shortLived 2))
  cases hstop.symm.trans ht

/-- A module that raises the admin status on the End TLV, as DCBX of 802.1Qaz does when the peer has
it too -/
def raisingModule : LldpModule Unit where
  rchange := some fun _ _ m _ => { modules := m, answer := .tlvOk }

/-- A station that only receives, until a peer is heard -/
def raisingEnv : RaisingEnv Unit where
  modules := [raisingModule, stationMand]
  ownSrcAddr := [0x02, 0x00, 0x00, 0x00, 0x00, 0x01]
  adminConfig := fun _ => some .enabledRxOnly
  hooks := [(raisingModule, some {
    raises := fun _ _ _ => true
    rest := fun _ _ m _ => { modules := m, answer := .tlvOk } }), (stationMand, none)]
  hooks_modules := rfl

/-- Both machines ran within the frame, and afterwards every machine and every event ends but for
a frame while an age-out is pending. -/
theorem raised_machines_end :
    ∃ s a, (Reentry.lldpSystem raisingEnv).run stationPort (runsOut.take 3) = .ok s ∧
      s.agents = [a] ∧ a.adminStatus = .enabledRxTx ∧ a.tx.state = .txIdle ∧
      (∀ e, (∃ t, (Reentry.lldpSystem raisingEnv).step s e = .ok t) ↔ ¬FrameWhileAged s e) ∧
      (MachinesEnd raisingEnv { s.toWorld with agent := a.offered .enabledRxTx none } ↔
        ¬(Option.isSome (none : Option Frame) = true ∧
          AgePending s.port (a.offered .enabledRxTx none))) := by
  obtain ⟨s, a, hrun, ha, hadmin, htx⟩ : ∃ s a,
      (Reentry.lldpSystem raisingEnv).run stationPort (runsOut.take 3) = .ok s ∧
      s.agents = [a] ∧ a.adminStatus = .enabledRxTx ∧ a.tx.state = .txIdle :=
    ⟨_, _, rfl, rfl, rfl, rfl⟩
  obtain ⟨hevents, hmachines, -⟩ := machines_end_iff raisingEnv ⟨stationPort, _, ⟨rfl, rfl⟩, hrun⟩
  exact ⟨s, a, hrun, ha, hadmin, htx, hevents,
    hmachines a (by simp [ha]) s.toWorld .enabledRxTx none nofun⟩

end Lldpad.Lldp
