import Lldpad.Proofs.Lldp.Shutdown

/-!
# `Lldpad.Proofs.Lldp.LinkDown`: the agents of a port whose link went down

The transmit machines of a port share one flag, `prevPortEnabled`. The first of them that runs
after the link went down sees the falling edge, goes to its initial state and takes the edge
away from the others.

* `Ran`: what a run of a transmit machine does with the flag and with the state.
* `headReady_of_reachable`: the first agent of the list sees the edge or does not need it.
* `downInit_of_run`: agents in the initial state stay there while the link is down.
* `setLldpPortEnable_tail`: an agent behind the first one keeps running.
-/

namespace Lldpad.Lldp

open Lldpad.Lib

variable {μ : Type}

/-- The transmit machine of the agent is in its initial state. -/
def TxInit (a : LldpAgent) : Prop := a.tx.state = .txLldpInitialize

/-! ### Turns and the flag -/

/-- The transmit machine ran: it took note of the link. While the link is down, it is in its
initial state afterwards if it saw the edge or was there before. -/
structure Ran (c c' : Ctx μ) : Prop where
  portEnabled : c'.port.portEnabled = c.port.portEnabled
  prevPortEnabled : c'.port.prevPortEnabled = c.port.portEnabled
  init : c.port.portEnabled = false → c.port.prevPortEnabled = true ∨ TxInit c.agent →
    TxInit c'.agent

/-- The transmit machine did not run. -/
structure NotRan (c c' : Ctx μ) : Prop where
  port : c'.port = c.port
  state : c'.agent.tx.state = c.agent.tx.state

variable {c c' : Ctx μ} {env : Env μ} {as as' : List LldpAgent} {f : Ctx μ → Except Fault (Ctx μ)}
  {w w' : World μ} {s s' : PortState μ}

theorem RxKeeps.notRan (h : RxKeeps c c') : NotRan c c' :=
  ⟨h.port, h.sameTxSide.txState⟩

theorem Ran.followed {c d e : Ctx μ} (h : Ran c d) (hn : NotRan d e) : Ran c e where
  portEnabled := by rw [hn.port]; exact h.portEnabled
  prevPortEnabled := by rw [hn.port]; exact h.prevPortEnabled
  init hdown hseen := hn.state.trans (h.init hdown hseen)

theorem Ran.from {a : LldpAgent} (h : Ran { c with agent := a } c')
    (hstate : a.tx.state = c.agent.tx.state) : Ran c c' :=
  ⟨h.portEnabled, h.prevPortEnabled, fun hdown hseen =>
    h.init hdown (hseen.imp_right hstate.trans)⟩

theorem runTxSm_ran (h : runTxSm env c = .ok c') : Ran c c' := by
  have hmove : ∀ (s t : Ctx μ) (b : Bool), Ran c s → (txMachine env).move s = .ok (t, b) →
      Ran c t := by
    intro s t b hs ht
    obtain ⟨rfl, -⟩ := txMove_of_ok ht
    -- the flag is up to date, so only the state counts
    have hfall : ¬(s.port.portEnabled = false ∧ s.port.prevPortEnabled = true) := by
      rw [hs.portEnabled, hs.prevPortEnabled]
      rintro ⟨hdown, hup⟩
      rw [hdown] at hup
      cases hup
    refine ⟨hs.portEnabled, hs.portEnabled, fun hdown hseen => ?_⟩
    have hinit : s.agent.tx.state = .txLldpInitialize := hs.init hdown hseen
    show (nextTx s.port s.agent).1 = _
    rw [nextTx_of_not_falls _ hfall, hinit, hs.portEnabled]
    simp [hdown]
  refine Machine.run_rule (P := (· = c)) (I := Ran c) (J := Ran c) (Q := Ran c)
    ?_ ?_ (fun s t => hmove s t true) (fun s t => hmove s t false) rfl h
  · rintro s t b rfl ht
    obtain ⟨rfl, -⟩ := txMove_of_ok ht
    refine ⟨rfl, rfl, fun hdown hseen => ?_⟩
    show (nextTx s.port s.agent).1 = _
    by_cases hfall : s.port.portEnabled = false ∧ s.port.prevPortEnabled = true
    · rw [nextTx_of_falls _ hfall]
    · have hinit : s.agent.tx.state = .txLldpInitialize :=
        hseen.resolve_left fun hprev => hfall ⟨hdown, hprev⟩
      rw [nextTx_of_not_falls _ hfall, hinit]
      simp [hdown]
  · intro s t hs ht
    cases ht
    have hport : (txAction env s).port = s.port := (txAction_keeps env s).2.1
    exact hs.followed ⟨hport, (txAction_state env s).1⟩

theorem runSms_ran (h : runSms env c = .ok c') : Ran c c' := by
  obtain ⟨d, htx, hrx⟩ := bind_eq_ok.mp h
  exact (runTxSm_ran htx).followed (runRxSm_keeps hrx).notRan

theorem agentTick_ran (h : agentTick env c = .ok c') : Ran c c' := by
  obtain ⟨a, d, ha, hd, hkeep, hport⟩ := agentTick_tx h
  have hstate : a.tx.state = c.agent.tx.state := (runTxTimersSm_keeps ha).txState
  exact ((runTxSm_ran hd).from hstate).followed ⟨hport, hkeep.txState⟩

theorem setAgentAdmin_ran {admin : AdminStatus}
    (h : setAgentAdmin env admin c = .ok c') : Ran c c' ∨ NotRan c c' := by
  rcases setAgentAdmin_eq_ok h with ⟨-, h⟩ | ⟨-, rfl⟩
  · exact .inl ((runSms_ran h).from (c := c) rfl)
  · exact .inr ⟨rfl, rfl⟩

theorem rxAcceptFrame_notRan {f : Frame} (h : rxAcceptFrame env f c = .ok c') : NotRan c c' := by
  rcases rxAcceptFrame_eq_ok h with ⟨-, rfl⟩ | ⟨-, h⟩
  · exact ⟨rfl, rfl⟩
  · obtain ⟨hport, hstate⟩ := (runRxSm_keeps h).notRan
    exact ⟨hport, hstate⟩

theorem agentHandle_down {ev : AgentEvent}
    (h : agentHandle env ev c = .ok c') (hdown : c.port.portEnabled = false)
    (hinit : TxInit c.agent) : TxInit c'.agent := by
  cases ev with
  | tick => exact (agentTick_ran h).init hdown (.inr hinit)
  | setAdmin admin =>
    rcases setAgentAdmin_ran h with hran | hnot
    · exact hran.init hdown (.inr hinit)
    · exact hnot.state.trans hinit
  | portEnable enable =>
    have hstate : (if enable then c.agent else dropInfoAge c.agent).tx.state =
        c.agent.tx.state := by
      cases enable <;> rfl
    exact ((runSms_ran h).from (c := c) hstate).init hdown (.inr hinit)
  | reinit => cases h; rfl
  | accept f =>
    change rxAcceptFrame env f c = .ok c' at h
    exact (rxAcceptFrame_notRan h).state.trans hinit
  | repeated f => cases h; exact hinit
  | localChange => cases h; exact hinit
  | updateTtl ttl => cases h; exact hinit

theorem reinitAgent_port (env : Env μ) (c : Ctx μ) : (reinitAgent env c).port = c.port :=
  (rxInitializeLLDP_rxKeeps env _).port

theorem lldpInitAgent_port (env : Env μ) (w : World μ) (type : AgentType) :
    (lldpInitAgent env w type).port = w.port :=
  (rxInitializeLLDP_rxKeeps env _).port

/-! ### The first agent -/

/-- The first agent of the list sees the next falling edge, or it is in its initial state. An
edge that nobody has seen yet finds every agent there. -/
structure HeadReady (s : PortState μ) : Prop where
  unseen : s.port.portEnabled = false → s.port.prevPortEnabled = true → ∀ a ∈ s.agents, TxInit a
  head : s.port.prevPortEnabled = false → ∀ a, s.agents.head? = some a → TxInit a

theorem HeadReady.of_up {s : PortState μ} (hup : s.port.portEnabled = true)
    (hprev : s.port.prevPortEnabled = true) : HeadReady s where
  unseen hdown := by rw [hup] at hdown; cases hdown
  head hprev' := by rw [hprev] at hprev'; cases hprev'

theorem HeadReady.of_all {s : PortState μ} (h : ∀ a ∈ s.agents, TxInit a) : HeadReady s where
  unseen _ _ := h
  head _ a ha := h a (List.mem_of_mem_head? ha)

theorem forAgents_all {P : LldpAgent → Prop} (hf : ∀ c c', f c = .ok c' → P c'.agent)
    (h : forAgents f w as = .ok (w', as')) : ∀ a ∈ as', P a := by
  induction as generalizing w as' with
  | nil =>
    cases h
    exact fun a ha => absurd ha List.not_mem_nil
  | cons a as ih =>
    obtain ⟨c, as'', hc, hrest, rfl⟩ := forAgents_cons h
    intro b hb
    rcases List.mem_cons.mp hb with rfl | hb
    · exact hf { w with agent := a } c hc
    · exact ih hrest b hb

theorem forAgents_ran (hf : ∀ c c', f c = .ok c' → Ran c c')
    (h : forAgents f w as = .ok (w', as')) :
    w'.port.portEnabled = w.port.portEnabled ∧
      (as ≠ [] → w'.port.prevPortEnabled = w.port.portEnabled) := by
  induction as generalizing w as' with
  | nil =>
    cases h
    exact ⟨rfl, fun hne => absurd rfl hne⟩
  | cons a as ih =>
    obtain ⟨c, as'', hc, hrest, rfl⟩ := forAgents_cons h
    have hran := hf { w with agent := a } c hc
    obtain ⟨henabled, hprev⟩ := ih hrest
    have hkept : w'.port.portEnabled = w.port.portEnabled := henabled.trans hran.portEnabled
    refine ⟨hkept, fun _ => ?_⟩
    cases as with
    | nil =>
      cases hrest
      exact hran.prevPortEnabled
    | cons b bs => exact (hprev (List.cons_ne_nil b bs)).trans hran.portEnabled

theorem forAgents_head (hf : ∀ c c', f c = .ok c' → Ran c c') (h : forAgents f w as = .ok (w', as'))
    (hdown : w.port.portEnabled = false)
    (hseen : w.port.prevPortEnabled = true ∨ ∀ a, as.head? = some a → TxInit a) :
    ∀ b, as'.head? = some b → TxInit b := by
  cases as with
  | nil =>
    cases h
    intro b hb
    cases hb
  | cons a as =>
    obtain ⟨c, as'', hc, -, rfl⟩ := forAgents_cons h
    intro b hb
    cases hb
    have hran := hf { w with agent := a } c hc
    exact hran.init hdown (hseen.imp_right fun hhead => hhead a rfl)

theorem HeadReady.walk (hf : ∀ c c', f c = .ok c' → Ran c c') (h : forAgents f w as = .ok (w', as'))
    (hhead : w.port.portEnabled = false → w.port.prevPortEnabled = false →
      ∀ a, as.head? = some a → TxInit a) : HeadReady (.ofPair (w', as')) := by
  obtain ⟨henabled, hprev⟩ := forAgents_ran hf h
  cases as with
  | nil =>
    cases h
    exact HeadReady.of_all fun a ha => absurd ha List.not_mem_nil
  | cons a as =>
    have hseen := hprev (List.cons_ne_nil a as)
    cases hup : w.port.portEnabled with
    | true => exact .of_up (henabled.trans hup) (hseen.trans hup)
    | false =>
      have hedge : w.port.prevPortEnabled = true ∨ ∀ b, (a :: as).head? = some b → TxInit b := by
        cases hprev : w.port.prevPortEnabled with
        | true => exact .inl rfl
        | false => exact .inr (hhead hup hprev)
      refine ⟨fun _ hprev' => ?_, fun _ => forAgents_head hf h hup hedge⟩
      have hfalse : w'.port.prevPortEnabled = false := hseen.trans hup
      exact absurd (hfalse.symm.trans hprev') nofun

/-! ### Events that concern one agent -/

variable {found : Option (AgentEvent × LldpAgent)}

theorem NotRan.states {a : LldpAgent} (h : NotRan { w with agent := a } c)
    (pre post : List LldpAgent) :
    (pre ++ c.agent :: post).map (·.tx.state) = (pre ++ a :: post).map (·.tx.state) := by
  rw [List.map_append, List.map_append, List.map_cons, List.map_cons, h.state]

theorem OneTurn.ran (h : OneTurn env w found as w' as')
    (hf : ∀ ev a c c', found = some (ev, a) → agentHandle env ev c = .ok c' →
      Ran c c' ∨ NotRan c c') :
    w'.port = w.port ∧ as'.map (·.tx.state) = as.map (·.tx.state) ∨
      w'.port.portEnabled = w.port.portEnabled ∧
        w'.port.prevPortEnabled = w.port.portEnabled := by
  cases h with
  | idle => exact .inl ⟨rfl, rfl⟩
  | turn pre post hrun =>
    rcases hf _ _ _ _ rfl hrun with hran | hnot
    · exact .inr ⟨hran.portEnabled, hran.prevPortEnabled⟩
    · exact .inl ⟨hnot.port, hnot.states _ _⟩

theorem OneTurn.down (h : OneTurn env w found as w' as')
    (hf : ∀ ev a c c', found = some (ev, a) → agentHandle env ev c = .ok c' →
      Ran c c' ∨ NotRan c c')
    (hdown : w.port.portEnabled = false) (hhead : ∀ a, as.head? = some a → TxInit a) :
    ∀ b, as'.head? = some b → TxInit b := by
  cases h with
  | idle => exact hhead
  | @turn pre post _ a _ hrun =>
    cases pre with
    | cons b pre => exact hhead
    | nil =>
      intro b hb
      cases hb
      rcases hf _ _ _ _ rfl hrun with hran | hnot
      · exact hran.init hdown (.inr (hhead a rfl))
      · exact hnot.state.trans (hhead a rfl)

theorem setAdmin_ran {admin : AdminStatus} {o : Option LldpAgent} :
    ∀ ev a c c', o.map (AgentEvent.setAdmin admin, ·) = some (ev, a) →
      agentHandle env ev c = .ok c' → Ran c c' ∨ NotRan c c' := by
  intro ev a c c' hfind hc
  obtain ⟨b, -, hb⟩ := Option.map_eq_some_iff.mp hfind
  cases hb
  exact setAgentAdmin_ran hc

theorem rxReceiveLoop_notRan {f : Frame} (h : rxReceiveLoop env f w as = .ok (w', as')) :
    w'.port = w.port ∧ as'.map (·.tx.state) = as.map (·.tx.state) := by
  have hturn := rxReceiveLoop_oneTurn h
  generalize hfound : receiver f as = found at hturn
  cases hturn with
  | idle => exact ⟨rfl, rfl⟩
  | @turn _ _ _ a c hrun =>
    have hnot : NotRan { w with agent := a } c := by
      rcases (receiver_eq_some hfound).2 with rfl | rfl
      · exact rxAcceptFrame_notRan hrun
      · cases hrun
        exact ⟨rfl, rfl⟩
    exact ⟨hnot.port, hnot.states _ _⟩

theorem HeadReady.congr {s t : PortState μ} (h : HeadReady s) (hport : t.port = s.port)
    (hstates : t.agents.map (·.tx.state) = s.agents.map (·.tx.state)) : HeadReady t where
  unseen hdown hprev b hb := by
    rw [hport] at hdown hprev
    have hmem : b.tx.state ∈ s.agents.map (·.tx.state) := hstates ▸ List.mem_map_of_mem hb
    obtain ⟨a, ha, hstate⟩ := List.mem_map.mp hmem
    exact hstate.symm.trans (h.unseen hdown hprev a ha)
  head hprev b hb := by
    rw [hport] at hprev
    have hhead : (s.agents.map (·.tx.state)).head? = some b.tx.state := by
      rw [← hstates, List.head?_map, hb]
      rfl
    rw [List.head?_map, Option.map_eq_some_iff] at hhead
    obtain ⟨a, ha, hstate⟩ := hhead
    exact hstate.symm.trans (h.head hprev a ha)

/-! ### Runs -/

/-- Every event leaves the first agent ready. -/
theorem lldpStep_headReady {e : Event μ} (h : HeadReady s)
    (hstep : lldpStep env s e = .ok s') : HeadReady s' := by
  cases e with
  | frame f =>
    change rxReceiveFrame env f s = .ok s' at hstep
    unfold rxReceiveFrame at hstep
    split_ifs at hstep
    · cases hstep
      exact h
    · obtain ⟨⟨w, as⟩, hloop, hstep⟩ := bind_eq_ok.mp hstep
      cases hstep
      obtain ⟨hport, hstates⟩ := rxReceiveLoop_notRan hloop
      exact h.congr hport hstates
  | tick =>
    obtain ⟨⟨w, as⟩, hloop, hstep⟩ := bind_eq_ok.mp hstep
    cases hstep
    have hwalk := HeadReady.walk (fun _ _ => agentTick_ran) hloop fun _ => h.head
    exact ⟨hwalk.unseen, hwalk.head⟩
  | setAdmin type admin =>
    obtain ⟨⟨w, as⟩, hloop, hstep⟩ := bind_eq_ok.mp hstep
    cases hstep
    have hturn := forAgent_oneTurn (.setAdmin admin) hloop
    rcases hturn.ran setAdmin_ran with hsame | ⟨henabled, hprev⟩
    · exact h.congr hsame.1 hsame.2
    · cases hup : s.port.portEnabled with
      | true => exact .of_up (henabled.trans hup) (hprev.trans hup)
      | false =>
        have hhead : ∀ a, s.agents.head? = some a → TxInit a := by
          cases hedge : s.port.prevPortEnabled with
          | true => exact fun a ha => h.unseen hup hedge a (List.mem_of_mem_head? ha)
          | false => exact h.head hedge
        refine ⟨fun _ hprev' => ?_, fun _ => hturn.down setAdmin_ran hup hhead⟩
        have hfalse : w.port.prevPortEnabled = false := hprev.trans hup
        exact absurd (hfalse.symm.trans hprev') nofun
  | portEnable enable =>
    obtain ⟨⟨w, as⟩, hloop, hstep⟩ := bind_eq_ok.mp hstep
    cases hstep
    refine HeadReady.walk (fun _ _ => runSms_ran) hloop fun _ hprev a ha => ?_
    cases enable with
    | true => exact h.head hprev a ha
    | false =>
      have hhead : (s.agents.map dropInfoAge).head? = some a := ha
      rw [List.head?_map, Option.map_eq_some_iff] at hhead
      obtain ⟨b, hb, rfl⟩ := hhead
      exact h.head hprev b hb
  | operDelay => cases hstep; exact ⟨h.unseen, h.head⟩
  | reinitPort =>
    obtain ⟨⟨w, as⟩, hloop, hstep⟩ := bind_eq_ok.mp hstep
    cases hstep
    refine .of_all (forAgents_all (fun c c' hc => ?_) hloop)
    cases hc
    rfl
  | addAgent type =>
    cases hstep
    unfold lldpAddAgent
    split
    · exact h
    · have hport := lldpInitAgent_port env s.toWorld type
      refine ⟨fun hdown hprev a ha => ?_, fun _ a ha => ?_⟩
      · rcases List.mem_cons.mp ha with rfl | ha
        · rfl
        · exact h.unseen (hport ▸ hdown) (hport ▸ hprev) a ha
      · cases ha
        rfl
  | localChange type =>
    cases hstep
    refine h.congr rfl ?_
    show List.map _ (List.map _ _) = _
    rw [List.map_map]
    refine List.map_congr_left fun a _ => ?_
    show (if a.type = type then somethingChangedLocal a else a).tx.state = _
    split <;> rfl
  | updateTtl ttl =>
    cases hstep
    refine h.congr rfl ?_
    show List.map _ (List.map _ _) = _
    rw [List.map_map]
    rfl
  | ecpTx =>
    cases hstep
    cases hup : s.port.portEnabled with
    | true => exact .of_up hup rfl
    | false =>
      refine ⟨fun _ hprev => absurd hprev nofun, fun _ a ha => ?_⟩
      cases hedge : s.port.prevPortEnabled with
      | true => exact h.unseen hup hedge a (List.mem_of_mem_head? ha)
      | false => exact h.head hedge a ha
  | modulesWork m => cases hstep; exact ⟨h.unseen, h.head⟩

theorem headReady_of_reachable {s : PortState μ}
    (h : (lldpSystem env).Reachable s) : HeadReady s := by
  refine h.invariant (I := HeadReady) ?_ (fun s e t hs hstep => lldpStep_headReady hs hstep)
  intro s hs
  refine .of_all fun a ha => ?_
  rw [hs.1] at ha
  cases ha

/-! ### While the link is down -/

/-- The event does not take the link up. -/
def NotUp : Event μ → Prop
  | .portEnable enable => enable = false
  | _ => True

/-- The link is down, and every transmit machine is in its initial state. -/
structure DownInit (s : PortState μ) : Prop where
  down : s.port.portEnabled = false
  init : ∀ a ∈ s.agents, TxInit a

theorem AgentTurn.portEnabled
    (hf : ∀ c c', f c = .ok c' → c'.port.portEnabled = c.port.portEnabled) {w : World μ}
    {as : List LldpAgent} {c : Ctx μ} (h : AgentTurn f w as c) :
    c.port.portEnabled = w.port.portEnabled := by
  induction h with
  | head => rfl
  | tail hc _ ih => exact ih.trans (hf _ _ hc)

theorem portEnable_ran {enable : Bool}
    (h : agentHandle env (.portEnable enable) c = .ok c') : Ran c c' := by
  have hstate : (if enable then c.agent else dropInfoAge c.agent).tx.state = c.agent.tx.state := by
    cases enable <;> rfl
  exact (runSms_ran h).from (c := c) hstate

/-- The link state after an event. -/
theorem lldpStep_down {e : Event μ}
    (hdown : s.port.portEnabled = false) (hup : NotUp e) (hstep : lldpStep env s e = .ok s') :
    s'.port.portEnabled = false := by
  cases e with
  | frame f =>
    change rxReceiveFrame env f s = .ok s' at hstep
    unfold rxReceiveFrame at hstep
    split_ifs at hstep
    · cases hstep
      exact hdown
    · obtain ⟨⟨w, as⟩, hloop, hstep⟩ := bind_eq_ok.mp hstep
      cases hstep
      exact (congrArg (·.portEnabled) (rxReceiveLoop_notRan hloop).1).trans hdown
  | tick =>
    obtain ⟨⟨w, as⟩, hloop, hstep⟩ := bind_eq_ok.mp hstep
    cases hstep
    exact (forAgents_ran (fun _ _ => agentTick_ran) hloop).1.trans hdown
  | setAdmin type admin =>
    obtain ⟨⟨w, as⟩, hloop, hstep⟩ := bind_eq_ok.mp hstep
    cases hstep
    have hturn := forAgent_oneTurn (.setAdmin admin) hloop
    rcases hturn.ran setAdmin_ran with hsame | ⟨henabled, -⟩
    · exact (congrArg (·.portEnabled) hsame.1).trans hdown
    · exact henabled.trans hdown
  | portEnable enable =>
    obtain ⟨⟨w, as⟩, hloop, hstep⟩ := bind_eq_ok.mp hstep
    cases hstep
    exact (forAgents_ran (fun _ _ => runSms_ran) hloop).1.trans hup
  | reinitPort =>
    obtain ⟨⟨w, as⟩, hloop, hstep⟩ := bind_eq_ok.mp hstep
    cases hstep
    refine forAgents_world (W := fun w => w.port.portEnabled = false) ?_ _ _ w as rfl hloop
    intro c c' hc h
    cases h
    exact (congrArg (·.portEnabled) (reinitAgent_port env c)).trans hc
  | addAgent type =>
    cases hstep
    unfold lldpAddAgent
    split
    · exact hdown
    · exact (congrArg (·.portEnabled) (lldpInitAgent_port env s.toWorld type)).trans hdown
  | operDelay | localChange | updateTtl | ecpTx | modulesWork => cases hstep; exact hdown

theorem DownInit.step {e : Event μ} (h : DownInit s)
    (hup : NotUp e) (hstep : lldpStep env s e = .ok s') : DownInit s' := by
  refine ⟨lldpStep_down h.down hup hstep, lldpStep_forall (fun _ _ => rfl) ?_ h.init hstep⟩
  intro ev c c' hturn hinit hc
  have hdown : c.port.portEnabled = false := by
    cases hturn with
    | tick hc => exact (hc.portEnabled fun _ _ h => (agentTick_ran h).portEnabled).trans h.down
    | portEnable hc => exact (hc.portEnabled fun _ _ h => (portEnable_ran h).portEnabled).trans hup
    | reinit hc =>
      refine hc.portEnabled fun d d' h => ?_
      cases h
      exact congrArg (·.portEnabled) (reinitAgent_port env d)
    | setAdmin | frame | localChange | updateTtl => exact h.down
  exact agentHandle_down hc hdown hinit

/-! ### The agents behind the first one -/

/-- The transmit machine is under way and does not see an edge. Its shutdown timer runs. -/
structure UnderWay (c : Ctx μ) : Prop where
  noEdge : ¬(c.port.portEnabled = false ∧ c.port.prevPortEnabled = true)
  notInit : ¬ TxInit c.agent
  delays : DelaysSet c.agent
  running : c.agent.tx.state = .txShutdownFrame → c.agent.timers.txShutdownWhile ≠ 0

theorem UnderWay.move {b : Bool} (h : UnderWay c) (hm : (txMachine env).move c = .ok (c', b)) :
    ¬(c'.port.portEnabled = false ∧ c'.port.prevPortEnabled = true) ∧ ¬ TxInit c'.agent ∧
      DelaysSet c'.agent := by
  obtain ⟨rfl, -⟩ := txMove_of_ok hm
  refine ⟨fun hedge => ?_, fun hinit => ?_, h.delays⟩
  · have hup : c.port.portEnabled = true := hedge.2
    exact absurd (hup.symm.trans hedge.1) nofun
  · have hnext : (nextTx c.port c.agent).1 = .txLldpInitialize := hinit
    rw [nextTx_of_not_falls _ h.noEdge] at hnext
    cases hs : c.agent.tx.state with
    | txLldpInitialize => exact h.notInit hs
    | txIdle =>
      rw [hs] at hnext
      dsimp only at hnext
      split_ifs at hnext
    | txShutdownFrame =>
      rw [hs] at hnext
      dsimp only at hnext
      rw [if_neg (h.running hs)] at hnext
      cases hnext
    | txInfoFrame =>
      rw [hs] at hnext
      cases hnext

theorem UnderWay.act (env : Env μ) {c : Ctx μ}
    (hedge : ¬(c.port.portEnabled = false ∧ c.port.prevPortEnabled = true))
    (hinit : ¬ TxInit c.agent) (hd : DelaysSet c.agent) : UnderWay (txAction env c) := by
  have hstate := (txAction_state env c).1
  refine ⟨?_, fun h => hinit (hstate.symm.trans h), txAction_delays hd, fun hs => ?_⟩
  · rw [(txAction_keeps env c).2.1]
    exact hedge
  · rw [hstate] at hs
    have hact : txAction env c = processTxShutdownFrame env c := by
      unfold txAction
      rw [hs]
    obtain ⟨d, -, heq⟩ := processTxShutdownFrame_eq env c
    rw [hact, heq]
    dsimp only
    split_ifs with hzero
    · -- the timer starts with `reinitDelay`
      rw [hd.2]
      decide
    · exact hzero

/-- A run of the transmit machine that neither sees an edge nor starts in the initial state
does not get there. -/
theorem runTxSm_underWay (h : runTxSm env c = .ok c') (hc : UnderWay c) : ¬ TxInit c'.agent := by
  refine (Machine.run_induction (P := UnderWay) (J := UnderWay)
    (I := fun d : Ctx μ => ¬(d.port.portEnabled = false ∧ d.port.prevPortEnabled = true) ∧
      ¬ TxInit d.agent ∧ DelaysSet d.agent)
    (fun _ _ _ hd hm => hd.move hm) (fun d e hd ha => ?_) (fun _ _ _ hd hm => hd.move hm) hc h).2.1
  cases ha
  exact .act env hd.1 hd.2.1 hd.2.2

/-- Both machines run for an agent behind the first one: it keeps its transmit machine under
way. -/
theorem runSms_notInit (h : runSms env c = .ok c')
    (hrest : AgentAtRest c.agent) (hprev : c.port.prevPortEnabled = false)
    (hinit : ¬ TxInit c.agent) : ¬ TxInit c'.agent := by
  obtain ⟨d, htx, hrx⟩ := bind_eq_ok.mp h
  have hway : UnderWay c :=
    ⟨fun hedge => absurd (hprev.symm.trans hedge.2) nofun, hinit,
      ⟨hrest.timersReady, hrest.reinitDelay⟩, hrest.shutdownWhile⟩
  intro hc'
  exact runTxSm_underWay htx hway ((runRxSm_keeps hrx).notRan.state.symm.trans hc')

/-- When every agent is in the initial state after the link went down, those behind the first
one were there before. -/
theorem setLldpPortEnable_tail
    (hrest : ∀ a ∈ s.agents, AgentAtRest a) (h : setLldpPortEnable env false s = .ok s')
    (hall : ∀ a ∈ s'.agents, TxInit a) : ∀ a ∈ s.agents.tail, TxInit a := by
  obtain ⟨⟨w, as'⟩, hloop, h⟩ := bind_eq_ok.mp h
  cases h
  have hwalk : forAgents (runSms env) (s.worldWithLink false) (s.agents.map dropInfoAge) =
      .ok (w, as') := hloop
  cases hagents : s.agents with
  | nil => exact fun a ha => absurd ha List.not_mem_nil
  | cons a as =>
    rw [hagents, List.map_cons] at hwalk
    obtain ⟨c, hc, hwalk⟩ := bind_eq_ok.mp hwalk
    obtain ⟨⟨w', bs⟩, htail, hwalk⟩ := bind_eq_ok.mp hwalk
    cases hwalk
    have hran := runSms_ran hc
    intro b hb
    obtain ⟨i, hi⟩ := List.getElem?_of_mem hb
    refine Classical.byContradiction fun hinit => ?_
    have hget : (as.map dropInfoAge)[i]? = some (dropInfoAge b) := by
      rw [List.getElem?_map]
      exact congrArg (Option.map dropInfoAge) hi
    -- the first agent has taken the edge away
    obtain ⟨d, d', hd, hedge, hrun, hplace⟩ := forAgents_get
      (W := fun w => w.port.portEnabled = false ∧ w.port.prevPortEnabled = false)
      (fun d d' hW hd => ⟨(runSms_ran hd).portEnabled.trans hW.1,
        (runSms_ran hd).prevPortEnabled.trans hW.1⟩)
      _ _ _ _ i (dropInfoAge b) ⟨hran.portEnabled, hran.prevPortEnabled⟩ htail hget
    have hmem : b ∈ s.agents := by
      rw [hagents]
      exact List.mem_cons_of_mem a hb
    have hbrest := hrest b hmem
    refine runSms_notInit hrun ?_ hedge.2 ?_ (hall _ (List.mem_cons_of_mem _ ?_))
    · rw [hd]
      exact ⟨hbrest.timersReady, hbrest.reinitDelay, hbrest.rxAtRest.of_rx rfl rfl,
        hbrest.shutdownWhile⟩
    · rw [hd]
      exact hinit
    · exact List.mem_of_getElem? hplace

/-- After the link went down, every agent is in its initial state if those behind the first
one were there before. -/
theorem DownInit.of_portEnable (hready : HeadReady s)
    (htail : ∀ a ∈ s.agents.tail, TxInit a) (h : setLldpPortEnable env false s = .ok s') :
    DownInit s' := by
  obtain ⟨⟨w, as'⟩, hloop, h⟩ := bind_eq_ok.mp h
  cases h
  have hwalk : forAgents (runSms env) (s.worldWithLink false) (s.agents.map dropInfoAge) =
      .ok (w, as') := hloop
  refine ⟨(forAgents_ran (fun _ _ => runSms_ran) hwalk).1, ?_⟩
  cases hagents : s.agents with
  | nil =>
    rw [hagents] at hwalk
    cases hwalk
    exact fun a ha => absurd ha List.not_mem_nil
  | cons a as =>
    rw [hagents] at hwalk htail
    have hhead := forAgents_head (fun _ _ => runSms_ran) hwalk rfl
    obtain ⟨c, hc, hwalk⟩ := bind_eq_ok.mp hwalk
    obtain ⟨⟨w', bs⟩, hrest, hwalk⟩ := bind_eq_ok.mp hwalk
    cases hwalk
    have hran := runSms_ran hc
    have hfirst : TxInit c.agent := by
      refine hhead ?_ c.agent rfl
      cases hedge : s.port.prevPortEnabled with
      | true => exact .inl hedge
      | false =>
        refine .inr fun b hb => ?_
        cases hb
        exact hready.head hedge a (by rw [hagents]; rfl)
    have hbs : ∀ b ∈ bs, TxInit b := by
      refine forAgents_forall _ _ _ bs (fun d d' hturn hinit hd => ?_) ?_ hrest
      · have hdown : d.port.portEnabled = false :=
          (hturn.portEnabled fun _ _ h => (runSms_ran h).portEnabled).trans hran.portEnabled
        exact (runSms_ran hd).init hdown (.inr hinit)
      · intro b hb
        obtain ⟨b₀, hb₀, rfl⟩ := List.mem_map.mp hb
        exact htail b₀ hb₀
    intro b hb
    rcases List.mem_cons.mp hb with rfl | hb
    · exact hfirst
    · exact hbs b hb

end Lldpad.Lldp
