import Lldpad.Proofs.Lldp.RxRun
import Lldpad.Proofs.Lldp.Turns

/-!
# `Lldpad.Proofs.Lldp.Shutdown`: how an agent leaves the shutdown state

An agent that stops transmitting sends a shutdown frame, starts `txShutdownWhile`
and waits in the shutdown state until that timer is zero. Nothing counts the timer
down. It becomes zero only when the timer machine is reset, and that machine is reset
only while the agent may not transmit.

* `AgentAtRest`: what holds of every agent between two events, and
  `agentAtRest_of_reachable`.
* `TxInvariant.of_reachable`: what the actions of the transmit machines keep holds in every run.
* `timer_total`: the one-second timer never stops the program.
* `leavesShutdown_iff`: the agent leaves the shutdown state within `reinitDelay` ticks
  if and only if it may not transmit. An agent that is let transmit again before the
  next tick stays where it is.
-/

namespace Lldpad.Lldp

open Lldpad.Lib

variable {μ : Type}

/-! ### Between two events -/

variable {a b : LldpAgent} {s : PortState μ} {i : Nat}

theorem AgentAtRest.kick (h : AgentAtRest a) (b : Bool) :
    AgentAtRest (kick a b) where
  timersReady := (kick_sameTxSide a b).timersReady h.timersReady
  reinitDelay := by rw [kick_timers]; exact h.reinitDelay
  rxAtRest := h.rxAtRest.of_rx (by rw [kick_rx]) (by rw [kick_rx])
  shutdownWhile := by rw [kick_tx_state, kick_timers]; exact h.shutdownWhile

variable {env : Env μ} {c c' : Ctx μ}

theorem runSms_atRest (h : runSms env c = .ok c')
    (hd : DelaysSet c.agent) : AgentAtRest c'.agent := by
  obtain ⟨d, htx, hrx⟩ := bind_eq_ok.mp h
  have hdelays := runTxSm_delays htx hd
  have hkeep := (runRxSm_keeps hrx).sameTxSide
  refine ⟨hkeep.timersReady hdelays.1, ?_, runRxSm_atRest hrx, ?_⟩
  · rw [hkeep.timers]
    exact hdelays.2
  · rw [hkeep.txState, hkeep.txShutdownWhile]
    exact runTxSm_shutdownWhile htx

theorem updateRxTimers_sameTxSide (a : LldpAgent) : SameTxSide a (updateRxTimers a) := by
  unfold updateRxTimers
  dsimp only
  split_ifs <;> (constructor <;> rfl)

theorem updateRxTimers_rx (a : LldpAgent) :
    (updateRxTimers a).rx.state = a.rx.state ∧
      (updateRxTimers a).rx.rcvFrame = a.rx.rcvFrame := by
  unfold updateRxTimers
  dsimp only
  split_ifs <;> exact ⟨rfl, rfl⟩

theorem AgentAtRest.afterTimers {c : Ctx μ} (h : AgentAtRest c.agent) :
    AgentAtRest
      (callHooks LldpModule.timer env.modules
        { c with agent := updateRxTimers c.agent }).agent := by
  obtain ⟨-, -, b, hb⟩ := callHooks_frame LldpModule.timer env.modules
    { c with agent := updateRxTimers c.agent }
  rw [hb]
  refine AgentAtRest.kick ?_ b
  have hkeep := updateRxTimers_sameTxSide c.agent
  obtain ⟨hstate, hframe⟩ := updateRxTimers_rx c.agent
  refine ⟨hkeep.timersReady h.timersReady, ?_, h.rxAtRest.of_rx hstate hframe, ?_⟩
  · show (updateRxTimers c.agent).timers.reinitDelay = _
    rw [hkeep.timers]
    exact h.reinitDelay
  · show (updateRxTimers c.agent).tx.state = _ → (updateRxTimers c.agent).timers.txShutdownWhile ≠ 0
    rw [hkeep.txState, hkeep.txShutdownWhile]
    exact h.shutdownWhile

theorem agentTick_eq_ok :
    agentTick env c = .ok c' ↔
      ∃ a d, runTxTimersSm c.port (updateTxTimers c.agent) = .ok a ∧
        runSms env { c with agent := a } = .ok d ∧
        callHooks LldpModule.timer env.modules { d with agent := updateRxTimers d.agent } = c' := by
  simp only [agentTick, runSms, bind_eq_ok, pure_eq_ok, Except.ok.injEq]
  constructor
  · rintro ⟨a, ha, d, hd, e, he, h⟩
    exact ⟨a, e, ha, ⟨d, hd, he⟩, h⟩
  · rintro ⟨a, e, ha, ⟨d, hd, he⟩, h⟩
    exact ⟨a, ha, d, hd, e, he, h⟩

theorem DelaysSet.of_keep (h : DelaysSet a) (hk : TimersKeep a b) :
    DelaysSet b :=
  ⟨h.1.of_keep hk, hk.reinitDelay.trans h.2⟩

theorem agentTick_atRest (h : agentTick env c = .ok c')
    (hr : AgentAtRest c.agent) : AgentAtRest c'.agent := by
  obtain ⟨a, d, ha, hd, rfl⟩ := agentTick_eq_ok.mp h
  have hdelays : DelaysSet (updateTxTimers c.agent) := ⟨hr.timersReady, hr.reinitDelay⟩
  exact (runSms_atRest hd (hdelays.of_keep (runTxTimersSm_keeps ha))).afterTimers

theorem rxInitializeLLDP_rx (env : Env μ) (c : Ctx μ) :
    (rxInitializeLLDP env c).agent.rx.state = c.agent.rx.state ∧
      (rxInitializeLLDP env c).agent.rx.rcvFrame = false := by
  unfold rxInitializeLLDP
  rw [mibDeleteObjects_rx]
  exact ⟨rfl, rfl⟩

/-- An agent whose transmit side was initialised, with the receive machine waiting for
the link. -/
theorem atRest_of_initialized (env : Env μ) (h : a.rx.state = .lldpWaitPortOperational) :
    AgentAtRest (txInitializeLLDP env (txInitializeTimers a)) where
  timersReady := (txInitializeLLDP_delays env _).1
  reinitDelay := (txInitializeLLDP_delays env _).2
  rxAtRest := ⟨.inl h, fun hn => absurd h hn⟩
  shutdownWhile := nofun

theorem lldpInitAgent_atRest (env : Env μ) (w : World μ) (type : AgentType) :
    AgentAtRest (lldpInitAgent env w type).agent :=
  atRest_of_initialized env (rxInitializeLLDP_rx env _).1

theorem agentHandle_atRest (ev : AgentEvent) (c c' : Ctx μ)
    (hr : AgentAtRest c.agent) (h : agentHandle env ev c = .ok c') : AgentAtRest c'.agent := by
  have hdelays : DelaysSet c.agent := ⟨hr.timersReady, hr.reinitDelay⟩
  cases ev with
  | tick => exact agentTick_atRest h hr
  | setAdmin admin =>
    rcases setAgentAdmin_eq_ok h with ⟨-, h⟩ | ⟨-, rfl⟩
    · exact runSms_atRest h hdelays
    · exact hr
  | portEnable enable =>
    refine runSms_atRest h ?_
    cases enable <;> exact hdelays
  | reinit => cases h; exact atRest_of_initialized env (rxInitializeLLDP_rx env _).1
  | accept f =>
    rcases rxAcceptFrame_eq_ok h with ⟨-, rfl⟩ | ⟨-, h⟩
    · exact hr
    · have hkeep := (runRxSm_keeps h).sameTxSide
      refine ⟨hkeep.timersReady hr.timersReady, ?_, runRxSm_atRest h, ?_⟩
      · rw [hkeep.timers]
        exact hr.reinitDelay
      · rw [hkeep.txState, hkeep.txShutdownWhile]
        exact hr.shutdownWhile
  | repeated f =>
    cases h
    exact ⟨hr.timersReady, hr.reinitDelay, hr.rxAtRest.of_rx rfl rfl, hr.shutdownWhile⟩
  | localChange => cases h; exact hr.kick true
  | updateTtl ttl =>
    cases h
    exact ⟨hr.timersReady, hr.reinitDelay, hr.rxAtRest.of_rx rfl rfl, hr.shutdownWhile⟩

theorem agentAtRest_of_reachable
    (h : (lldpSystem env).Reachable s) : ∀ a ∈ s.agents, AgentAtRest a :=
  agents_invariant_of_reachable (lldpInitAgent_atRest env) agentHandle_atRest h

/-! ### Ticks -/

theorem agentTick_total (env : Env μ) {c : Ctx μ} (h : AgentAtRest c.agent) :
    ∃ c', agentTick env c = .ok c' := by
  have hready : TimersReady (updateTxTimers c.agent) := h.timersReady
  obtain ⟨a, ha⟩ := runTxTimersSm_total (p := c.port) hready
  obtain ⟨d, hd⟩ := runTxSm_total env { c with agent := a }
  have hrest : RxAtRest d.agent := by
    refine (runTxSm_keeps hd).sameRxSide.rxAtRest ?_
    exact (runTxTimersSm_keeps ha).sameRxSide.rxAtRest (h.rxAtRest.of_rx rfl rfl)
  have hdelays : DelaysSet (updateTxTimers c.agent) := ⟨h.timersReady, h.reinitDelay⟩
  obtain ⟨e, he⟩ := runRxSm_total_of_atRest env
    ⟨runTxSm_delays hd (hdelays.of_keep (runTxTimersSm_keeps ha)), runTxSm_shutdownWhile hd⟩ hrest
  exact ⟨_, agentTick_eq_ok.mpr ⟨a, e, ha, bind_eq_ok.mpr ⟨d, hd, he⟩, rfl⟩⟩

/-- What a tick makes of the transmit side of an agent, given what the timer machine and
the transmit machine make of it. -/
theorem agentTick_tx (h : agentTick env c = .ok c') :
    ∃ a d, runTxTimersSm c.port (updateTxTimers c.agent) = .ok a ∧
      runTxSm env { c with agent := a } = .ok d ∧ SameTxSide d.agent c'.agent ∧
      c'.port = d.port := by
  obtain ⟨a, e, ha, hsms, rfl⟩ := agentTick_eq_ok.mp h
  obtain ⟨d, hd, he⟩ := bind_eq_ok.mp hsms
  have hrx := runRxSm_keeps he
  have htimers : RxKeeps e { e with agent := updateRxTimers e.agent } :=
    ⟨updateRxTimers_sameTxSide e.agent, rfl, rfl⟩
  have hall := hrx.trans (htimers.trans (callHooks_rxKeeps LldpModule.timer env.modules _))
  exact ⟨a, d, ha, hd, hall.sameTxSide, hall.port⟩

theorem agentTick_keeps (h : agentTick env c = .ok c') :
    c'.port.portEnabled = c.port.portEnabled ∧ c'.agent.adminStatus = c.agent.adminStatus := by
  obtain ⟨a, d, ha, hd, hkeep, hport⟩ := agentTick_tx h
  have htimers := (runTxTimersSm_keeps ha).sameRxSide
  have htx := runTxSm_keeps hd
  exact ⟨by rw [hport, htx.portEnabled],
    hkeep.adminStatus.trans (htx.sameRxSide.adminStatus.trans htimers.adminStatus)⟩

/-! ### Invariants of the transmit side -/

/-- The agents have the same type, the same frame and the same transmit timers. -/
structure SendsAlike (a b : LldpAgent) : Prop where
  type : b.type = a.type
  frameout : b.tx.frameout = a.tx.frameout
  sizeout : b.tx.sizeout = a.tx.sizeout
  timers : b.timers = { a.timers with
    tooManyNghbrsTimer := b.timers.tooManyNghbrsTimer
    rxTTL := b.timers.rxTTL
    lastrxTTL := b.timers.lastrxTTL }

/-- What the actions of the two transmit machines keep, and what is about nothing else -/
structure TxInvariant (env : Env μ) (P : LldpAgent → Prop) : Prop where
  congr {a b : LldpAgent} : SendsAlike a b → P a → P b
  act {c : Ctx μ} : P c.agent → P (txAction env c).agent
  timers {p : Port} {a b : LldpAgent} : runTxTimersSm p (updateTxTimers a) = .ok b → P a → P b
  reinit (a : LldpAgent) : P (txInitializeLLDP env (txInitializeTimers a))

namespace TxInvariant

variable {P : LldpAgent → Prop}

theorem rx (hP : TxInvariant env P) (h : SameTxSide a b) (ha : P a) : P b :=
  hP.congr ⟨h.type, by rw [h.tx], by rw [h.tx], h.timers⟩ ha

theorem tx (hP : TxInvariant env P) (h : runTxSm env c = .ok c') (hc : P c.agent) :
    P c'.agent := by
  refine Machine.run_preserves (I := fun d : Ctx μ => P d.agent) ?_ ?_ hc h
  · intro s t hs ht
    cases ht
    exact hP.act hs
  · intro s t b hs ht
    obtain ⟨rfl, -⟩ := txMove_of_ok ht
    exact hP.congr (a := s.agent) ⟨rfl, rfl, rfl, rfl⟩ hs

theorem sms (hP : TxInvariant env P) (h : runSms env c = .ok c') (hc : P c.agent) :
    P c'.agent := by
  obtain ⟨d, htx, hrx⟩ := bind_eq_ok.mp h
  exact hP.rx (runRxSm_keeps hrx).sameTxSide (hP.tx htx hc)

theorem turn (hP : TxInvariant env P) (ev : AgentEvent) (c c' : Ctx μ) (hc : P c.agent)
    (h : agentHandle env ev c = .ok c') : P c'.agent := by
  cases ev with
  | tick =>
    obtain ⟨a, d, ha, hd, hkeep, -⟩ := agentTick_tx h
    exact hP.rx hkeep (hP.tx hd (hP.timers ha hc))
  | setAdmin admin =>
    rcases setAgentAdmin_eq_ok h with ⟨-, h⟩ | ⟨-, rfl⟩
    · exact hP.sms h (hP.congr (a := c.agent) ⟨rfl, rfl, rfl, rfl⟩ hc)
    · exact hc
  | portEnable enable =>
    refine hP.sms h (hP.congr (a := c.agent) ?_ hc)
    cases enable <;> exact ⟨rfl, rfl, rfl, rfl⟩
  | reinit =>
    cases h
    exact hP.reinit _
  | accept f =>
    rcases rxAcceptFrame_eq_ok h with ⟨-, rfl⟩ | ⟨-, h⟩
    · exact hc
    · exact hP.rx (runRxSm_keeps h).sameTxSide (hP.congr (a := c.agent) ⟨rfl, rfl, rfl, rfl⟩ hc)
  | repeated f | localChange | updateTtl ttl =>
    cases h
    exact hP.congr (a := c.agent) ⟨rfl, rfl, rfl, rfl⟩ hc

theorem of_reachable (hP : TxInvariant env P) {s : PortState μ}
    (h : (lldpSystem env).Reachable s) : ∀ a ∈ s.agents, P a :=
  agents_invariant_of_reachable (fun _ _ => hP.reinit _) hP.turn h

end TxInvariant

/-! ### In the shutdown state -/

/-- In the shutdown state, with the timer running and the link up, the transmit machine
stays where it is. -/
theorem runTxSm_stays (hup : c.port.portEnabled = true)
    (hs : c.agent.tx.state = .txShutdownFrame) (hw : c.agent.timers.txShutdownWhile ≠ 0)
    (h : runTxSm env c = .ok c') : c'.agent = c.agent := by
  have hnext : ∀ p : Port, p.portEnabled = true →
      nextTx p c.agent = (.txShutdownFrame, false) := by
    intro p hp
    rw [nextTx_of_not_falls _ (by simp [hp])]
    simp [hs, hw]
  have hself : c.agent.withTxState .txShutdownFrame = c.agent := by
    rw [← hs, withTxState_self]
  have hmove : ∀ d : Ctx μ, d.agent = c.agent → d.port.portEnabled = true →
      (txMachine env).move d = .ok (d.txMove .txShutdownFrame, false) := by
    intro d hd hp
    show setTxState d = _
    rw [setTxState_eq, hd, hnext _ hp]
  have hact : ∀ d : Ctx μ, d.agent = c.agent → (txMachine env).act d = .ok d := by
    intro d hd
    show Except.ok (txAction env d) = _
    rw [txAction, hd, hs]
    simp [processTxShutdownFrame, hd, hw]
  have hfirst : (c.txMove .txShutdownFrame).agent = c.agent := hself
  have hrun : runTxSm env c = .ok _ :=
    Machine.run_eq_of_final (hmove c rfl hup) (hact _ hfirst) (hmove _ hfirst hup)
  have heq := Except.ok.inj (h.symm.trans hrun)
  rw [heq]
  show (c.txMove .txShutdownFrame).agent.withTxState _ = _
  rw [hfirst, hself]

theorem runTxSm_initializes (hmay : maySend c.port c.agent = false)
    (hs : c.agent.tx.state = .txShutdownFrame ∨ c.agent.tx.state = .txLldpInitialize)
    (hw : c.agent.timers.txShutdownWhile = 0) (h : runTxSm env c = .ok c') :
    c'.agent.tx.state = .txLldpInitialize := by
  have hnot : ¬(c.port.portEnabled = true ∧ c.agent.adminStatus.allowsTx = true) := by
    rw [← Bool.and_eq_true_iff]
    exact Bool.eq_false_iff.mp hmay
  have hfirst : (nextTx c.port c.agent).1 = .txLldpInitialize := by
    by_cases hfall : c.port.portEnabled = false ∧ c.port.prevPortEnabled = true
    · rw [nextTx_of_falls _ hfall]
    · rw [nextTx_of_not_falls _ hfall]
      rcases hs with hs | hs
      · simp [hs, hw]
      · simp only [hs, if_neg hnot]
  let d := c.txMove .txLldpInitialize
  let e : Ctx μ := { d with agent := txInitializeLLDP env d.agent }
  have hmove : (txMachine env).move c = .ok (d, (nextTx c.port c.agent).2) := by
    show setTxState c = _
    rw [setTxState_eq, hfirst]
  have hstop : (txMachine env).move e = .ok (e.txMove .txLldpInitialize, false) := by
    show setTxState e = _
    have hnofall : ¬(e.port.portEnabled = false ∧ e.port.prevPortEnabled = true) := by
      show ¬(c.port.portEnabled = false ∧ c.port.portEnabled = true)
      simp
    have hnext : nextTx e.port e.agent = (.txLldpInitialize, false) := by
      rw [nextTx_of_not_falls _ hnofall]
      show (if c.port.portEnabled = true ∧ c.agent.adminStatus.allowsTx = true then
        (TxState.txIdle, true) else (TxState.txLldpInitialize, false)) = _
      rw [if_neg hnot]
    rw [setTxState_eq, hnext]
  have hrun : runTxSm env c = .ok _ := Machine.run_eq_of_final hmove rfl hstop
  have heq := Except.ok.inj (h.symm.trans hrun)
  rw [heq]
  rfl

/-- A tick of an agent that may transmit again, in the shutdown state with the timer
running: nothing moves. -/
theorem agentTick_stuck (hmay : maySend c.port c.agent = true)
    (hs : c.agent.tx.state = .txShutdownFrame) (hw : c.agent.timers.txShutdownWhile ≠ 0)
    (h : agentTick env c = .ok c') :
    c'.agent.tx.state = .txShutdownFrame ∧ c'.agent.timers.txShutdownWhile ≠ 0 := by
  obtain ⟨a, d, ha, hd, hkeep, -⟩ := agentTick_tx h
  have hwa := runTxTimersSm_shutdownWhile (p := c.port) (a := updateTxTimers c.agent) hmay ha
  have hsa := (runTxTimersSm_keeps ha).txState
  have hda := runTxSm_stays (c := { c with agent := a }) (Bool.and_eq_true_iff.mp hmay).1
    (hsa.trans hs) (by rw [hwa]; exact hw) hd
  rw [hkeep.txState, hkeep.txShutdownWhile, hda]
  exact ⟨hsa.trans hs, by rw [hwa]; exact hw⟩

theorem agentTick_leaves (hmay : maySend c.port c.agent = false)
    (hs : c.agent.tx.state = .txShutdownFrame ∨ c.agent.tx.state = .txLldpInitialize)
    (h : agentTick env c = .ok c') : c'.agent.tx.state = .txLldpInitialize := by
  obtain ⟨a, d, ha, hd, hkeep, -⟩ := agentTick_tx h
  have hk := runTxTimersSm_keeps ha
  have hwa : a.timers.txShutdownWhile = 0 := by
    rw [runTxTimersSm_of_barred (p := c.port) (a := updateTxTimers c.agent) hmay] at ha
    cases ha
    rfl
  rw [hkeep.txState]
  refine runTxSm_initializes (c := { c with agent := a }) ?_ ?_ hwa hd
  · rw [maySend_of_keep hk]
    exact hmay
  · have hsa : a.tx.state = c.agent.tx.state := hk.txState
    rw [hsa]
    exact hs

/-! ### The one-second timer -/

theorem timer_total (env : Env μ) (h : ∀ a ∈ s.agents, AgentAtRest a) :
    ∃ s', timer env s = .ok s' := by
  obtain ⟨x, hx⟩ := forAgents_total (f := agentTick env) (P := AgentAtRest)
    (fun c hc => agentTick_total env hc) s.agents s.toWorld h
  exact ⟨_, bind_eq_ok.mpr ⟨x, hx, rfl⟩⟩

/-- What the one-second timer does to the agent at a place: it takes its turn, in a world
with the same link state. -/
theorem timer_get {s' : PortState μ} (h : timer env s = .ok s') (ha : s.agents[i]? = some a) :
    s'.port.portEnabled = s.port.portEnabled ∧
      ∃ c c', c.agent = a ∧ c.port.portEnabled = s.port.portEnabled ∧
        agentTick env c = .ok c' ∧ s'.agents[i]? = some c'.agent := by
  obtain ⟨⟨w, as⟩, hx, hs'⟩ := bind_eq_ok.mp h
  cases hs'
  have hf : ∀ c c' : Ctx μ, c.port.portEnabled = s.port.portEnabled →
      agentTick env c = .ok c' → c'.port.portEnabled = s.port.portEnabled :=
    fun c c' hc hstep => (agentTick_keeps hstep).1.trans hc
  exact ⟨forAgents_world (W := fun w => w.port.portEnabled = s.port.portEnabled) hf
      s.agents s.toWorld w as rfl hx,
    forAgents_get (W := fun w => w.port.portEnabled = s.port.portEnabled) hf
      s.agents s.toWorld w as i a rfl hx ha⟩

/-- `n` ticks with no other event in between. -/
def ticks (env : Env μ) (n : Nat) (s : PortState μ) : Except Fault (PortState μ) :=
  (lldpSystem env).run s (List.replicate n .tick)

theorem ticks_succ {n : Nat} {s' : PortState μ} :
    ticks env (n + 1) s = .ok s' ↔ ∃ t, timer env s = .ok t ∧ ticks env n t = .ok s' :=
  bind_eq_ok

/-- A frame of the agent went out between two states. -/
def Transmitted (a : LldpAgent) (s s' : PortState μ) : Prop :=
  ∃ new, s'.wire = new ++ s.wire ∧ ∃ b ∈ new, b.take ethAlen = a.macAddr

/-- After `n` ticks the agent at place `i` has left the shutdown state, and it has
transmitted if it may. -/
def LeavesShutdown (env : Env μ) (s : PortState μ) (i n : Nat) : Prop :=
  ∃ s' a', ticks env n s = .ok s' ∧ s'.agents[i]? = some a' ∧
    a'.tx.state ≠ .txShutdownFrame ∧ (maySend s'.port a' = true → Transmitted a' s s')

theorem ticks_stuck :
    ∀ (n : Nat) (s s' : PortState μ) (a : LldpAgent), s.agents[i]? = some a →
      maySend s.port a = true → a.tx.state = .txShutdownFrame →
      a.timers.txShutdownWhile ≠ 0 → ticks env n s = .ok s' →
        ∃ a', s'.agents[i]? = some a' ∧ a'.tx.state = .txShutdownFrame := by
  intro n
  induction n with
  | zero =>
    intro s s' a ha _ hs _ h
    cases h
    exact ⟨a, ha, hs⟩
  | succ n ih =>
    intro s s' a ha hmay hs hw h
    obtain ⟨t, ht, h⟩ := ticks_succ.mp h
    obtain ⟨hlink, c, c', rfl, hc, hstep, hget⟩ := timer_get ht ha
    have hmayc : maySend c.port c.agent = true := by
      rw [maySend, hc]
      exact hmay
    obtain ⟨hs', hw'⟩ := agentTick_stuck hmayc hs hw hstep
    refine ih t s' c'.agent hget ?_ hs' hw' h
    rw [maySend, hlink, (agentTick_keeps hstep).2]
    exact hmay

/-- The first tick takes an agent that may not transmit out of the shutdown state, and the
next ones leave it there. -/
theorem ticks_left :
    ∀ (n : Nat) (s s' : PortState μ) (a : LldpAgent), s.agents[i]? = some a →
      maySend s.port a = false →
      (a.tx.state = .txShutdownFrame ∨ a.tx.state = .txLldpInitialize) →
      ticks env (n + 1) s = .ok s' →
        ∃ a', s'.agents[i]? = some a' ∧ a'.tx.state = .txLldpInitialize ∧
          maySend s'.port a' = false := by
  intro n
  induction n with
  | zero =>
    intro s s' a ha hmay hs h
    obtain ⟨t, ht, h⟩ := ticks_succ.mp h
    cases h
    obtain ⟨hlink, c, c', rfl, hc, hstep, hget⟩ := timer_get ht ha
    refine ⟨c'.agent, hget, agentTick_leaves (by rw [maySend, hc]; exact hmay) hs hstep, ?_⟩
    rw [maySend, hlink, (agentTick_keeps hstep).2]
    exact hmay
  | succ n ih =>
    intro s s' a ha hmay hs h
    obtain ⟨t, ht, h⟩ := ticks_succ.mp h
    obtain ⟨hlink, c, c', rfl, hc, hstep, hget⟩ := timer_get ht ha
    have hs' := agentTick_leaves (by rw [maySend, hc]; exact hmay) hs hstep
    refine ih t s' c'.agent hget ?_ (.inr hs') h
    rw [maySend, hlink, (agentTick_keeps hstep).2]
    exact hmay

theorem ticks_total (env : Env μ) :
    ∀ (n : Nat) (s : PortState μ), (lldpSystem env).Reachable s → ∃ s', ticks env n s = .ok s' := by
  intro n
  induction n with
  | zero => intro s _; exact ⟨s, rfl⟩
  | succ n ih =>
    intro s h
    obtain ⟨t, ht⟩ := timer_total env (agentAtRest_of_reachable h)
    obtain ⟨s', hs'⟩ := ih t (h.step (e := .tick) ht)
    exact ⟨s', ticks_succ.mpr ⟨t, ht, hs'⟩⟩

/-- An agent in the shutdown state leaves it within `reinitDelay` ticks if and only if it
may not transmit: the link is down, or the administrator does not let it. -/
theorem leavesShutdown_iff (env : Env μ) {s : PortState μ} (h : (lldpSystem env).Reachable s)
    {i : Nat} {a : LldpAgent} (ha : s.agents[i]? = some a)
    (hs : a.tx.state = .txShutdownFrame) :
    LeavesShutdown env s i a.timers.reinitDelay ↔
      s.port.portEnabled = false ∨ a.adminStatus.allowsTx = false := by
  have hrest := agentAtRest_of_reachable h a (List.mem_of_getElem? ha)
  rw [← Bool.and_eq_false_iff]
  change _ ↔ maySend s.port a = false
  constructor
  · rintro ⟨s', a', hticks, hget, hleft, -⟩
    cases hmay : maySend s.port a with
    | false => rfl
    | true =>
      obtain ⟨b, hb, hstuck⟩ := ticks_stuck _ s s' a ha hmay hs (hrest.shutdownWhile hs) hticks
      rw [hget] at hb
      cases hb
      exact absurd hstuck hleft
  · intro hmay
    obtain ⟨s', hticks⟩ := ticks_total env a.timers.reinitDelay s h
    rw [hrest.reinitDelay] at hticks ⊢
    obtain ⟨a', hget, hleft, hmay'⟩ := ticks_left 1 s s' a ha hmay (.inl hs) hticks
    exact ⟨s', a', hticks, hget, by simp [hleft], by simp [hmay']⟩

/-! ### An agent that stays in the shutdown state -/

/-- The mandatory TLVs of a station: chassis `01`, port `02`, TTL 120. -/
def stationMand : LldpModule Unit where
  isMand := true
  gettlv := some fun _ _ m =>
    (m, some [0x02, 0x02, 0x07, 0x01, 0x04, 0x02, 0x07, 0x02, 0x06, 0x02, 0x00, 0x78])

/-- A daemon with the mandatory module, whose agents are configured to do both. -/
def stationEnv : Env Unit where
  modules := [stationMand]
  ownSrcAddr := [0x02, 0x00, 0x00, 0x00, 0x00, 0x01]
  adminConfig := fun _ => some .enabledRxTx

/-- A port of that daemon as `add_port` leaves it. -/
def stationPort : PortState Unit :=
  { port := { dormantDelay := dormantDelayDefault }, modules := (), agents := [] }

/-- The administrator turns the agent off and on again before the next tick. -/
def offAndOn : List (Event Unit) :=
  [.addAgent .nearestBridge, .portEnable true, .tick,
    .setAdmin .nearestBridge .disabled, .setAdmin .nearestBridge .enabledRxTx]

theorem offAndOn_run :
    ∃ s a, (lldpSystem stationEnv).run stationPort offAndOn = .ok s ∧ s.agents[0]? = some a ∧
      a.tx.state = .txShutdownFrame ∧ s.port.portEnabled = true ∧
      a.adminStatus = .enabledRxTx :=
  ⟨_, _, rfl, rfl, rfl, rfl, rfl⟩

/-- Not every agent leaves the shutdown state: this one does not. -/
theorem not_leavesShutdown :
    ¬ ∀ s i a, (lldpSystem stationEnv).Reachable s → s.agents[i]? = some a →
      a.tx.state = .txShutdownFrame → LeavesShutdown stationEnv s i a.timers.reinitDelay := by
  intro hall
  obtain ⟨s, a, hrun, ha, hs, hup, hadmin⟩ := offAndOn_run
  have hreach : (lldpSystem stationEnv).Reachable s := ⟨stationPort, offAndOn, ⟨rfl, rfl⟩, hrun⟩
  have hrest := agentAtRest_of_reachable hreach a (List.mem_of_getElem? ha)
  obtain ⟨s', a', hticks, hget, hleft, -⟩ := hall s 0 a hreach ha hs
  have hmay : maySend s.port a = true := by simp [maySend, hup, hadmin, AdminStatus.allowsTx]
  obtain ⟨b, hb, hstuck⟩ := ticks_stuck _ s s' a ha hmay hs (hrest.shutdownWhile hs) hticks
  rw [hget] at hb
  cases hb
  exact hleft hstuck

/-- The agent that is only turned off leaves the shutdown state. -/
theorem off_leavesShutdown :
    ∃ s a, (lldpSystem stationEnv).run stationPort (offAndOn.take 4) = .ok s ∧
      s.agents[0]? = some a ∧ a.tx.state = .txShutdownFrame ∧
      LeavesShutdown stationEnv s 0 a.timers.reinitDelay := by
  obtain ⟨s, a, hrun, ha, hs, hadmin⟩ : ∃ s a,
      (lldpSystem stationEnv).run stationPort (offAndOn.take 4) = .ok s ∧
        s.agents[0]? = some a ∧ a.tx.state = .txShutdownFrame ∧
        a.adminStatus.allowsTx = false :=
    ⟨_, _, rfl, rfl, rfl, rfl⟩
  refine ⟨s, a, hrun, ha, hs, ?_⟩
  exact (leavesShutdown_iff stationEnv ⟨stationPort, _, ⟨rfl, rfl⟩, hrun⟩ ha hs).mpr (.inr hadmin)

end Lldpad.Lldp
