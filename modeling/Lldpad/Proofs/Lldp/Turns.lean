import Lldpad.Lldp.Agent

/-!
# `Lldpad.Proofs.Lldp.Turns`: an event as turns of the agents

Every event of a port comes down to turns of its agents: each agent concerned runs
one handler (`agentHandle`) in what the turns before it left of the shared part.
`Turn` relates a state and an event to these turns.

* `lldpStep_forall`: what every turn preserves of its agent, the event preserves of
  every agent.
* `agents_invariant`: the invariant rule of runs all of whose turns meet a condition.
* `agents_invariant_of_reachable`: the same for all runs.
-/

namespace Lldpad.Lldp

open Lldpad.Lib

variable {μ : Type}

/-- What an event asks of one agent. -/
inductive AgentEvent where
  | tick
  | setAdmin (admin : AdminStatus)
  | portEnable (enable : Bool)
  | reinit
  | accept (f : Frame)
  | repeated (f : Frame)
  | localChange
  | updateTtl (ttl : Nat)

/-- The handler of one agent. -/
def agentHandle (env : Env μ) : AgentEvent → Ctx μ → Except Fault (Ctx μ)
  | .tick, c => agentTick env c
  | .setAdmin admin, c => setAgentAdmin env admin c
  | .portEnable enable, c =>
    runSms env { c with agent := if enable then c.agent else dropInfoAge c.agent }
  | .reinit, c => .ok (reinitAgent env c)
  | .accept f, c => rxAcceptFrame env f c
  | .repeated f, c => .ok { c with agent := rxRepeatFrame f c.agent }
  | .localChange, c => .ok { c with agent := somethingChangedLocal c.agent }
  | .updateTtl ttl, c => .ok { c with agent := mandUpdateTtl c.agent ttl }

theorem setAgentAdmin_eq_ok {env : Env μ} {admin : AdminStatus} {c c' : Ctx μ}
    (h : agentHandle env (.setAdmin admin) c = .ok c') :
    (c.agent.adminStatus ≠ admin ∧ runSms env { c with
        agent := somethingChangedLocal { c.agent with adminStatus := admin } } = .ok c') ∨
      (c.agent.adminStatus = admin ∧ c = c') := by
  change setAgentAdmin env admin c = .ok c' at h
  unfold setAgentAdmin at h
  split_ifs at h with hne
  · exact .inl ⟨hne, h⟩
  · exact .inr ⟨not_not.mp hne, Except.ok.inj h⟩

theorem rxAcceptFrame_eq_ok {env : Env μ} {f : Frame} {c c' : Ctx μ}
    (h : agentHandle env (.accept f) c = .ok c') :
    ((c.agent.adminStatus = .disabled ∨ c.agent.adminStatus = .enabledTxOnly) ∧ c = c') ∨
      (¬(c.agent.adminStatus = .disabled ∨ c.agent.adminStatus = .enabledTxOnly) ∧
        runRxSm env { c with agent := { c.agent with
          rx := { c.agent.rx with framein := some f, rcvFrame := true }
          stats := { c.agent.stats with
            statsFramesInTotal := c.agent.stats.statsFramesInTotal + 1 } } } = .ok c') := by
  change rxAcceptFrame env f c = .ok c' at h
  unfold rxAcceptFrame at h
  dsimp only at h
  split_ifs at h with hbarred
  · exact .inl ⟨hbarred, Except.ok.inj h⟩
  · exact .inr ⟨hbarred, h⟩

/-! ### Turns -/

/-- The contexts in which the agents of a list take their turns. -/
inductive AgentTurn (f : Ctx μ → Except Fault (Ctx μ)) :
    World μ → List LldpAgent → Ctx μ → Prop
  | head {w : World μ} {a : LldpAgent} {as : List LldpAgent} :
      AgentTurn f w (a :: as) { w with agent := a }
  | tail {w : World μ} {a : LldpAgent} {as : List LldpAgent} {c d : Ctx μ} :
      f { w with agent := a } = .ok c → AgentTurn f c.toWorld as d →
        AgentTurn f w (a :: as) d

/-- The agent that a frame is for, and whether the frame repeats its stored one. -/
def receiver (f : Frame) : List LldpAgent → Option (AgentEvent × LldpAgent)
  | [] => none
  | a :: as =>
    if a.holdsFrame f then some (.repeated f, a)
    else if f.hProto ≠ ethPLldp then none
    else if f.hDest = a.macAddr then some (.accept f, a)
    else receiver f as

theorem receiver_eq_some {f : Frame} {as : List LldpAgent} {ev : AgentEvent} {a : LldpAgent}
    (h : receiver f as = some (ev, a)) : a ∈ as ∧ (ev = .accept f ∨ ev = .repeated f) := by
  induction as with
  | nil => cases h
  | cons b as ih =>
    rw [receiver] at h
    split at h
    · cases h
      exact ⟨List.mem_cons_self .., .inr rfl⟩
    · split at h
      · cases h
      · split at h
        · cases h
          exact ⟨List.mem_cons_self .., .inl rfl⟩
        · obtain ⟨ha, hev⟩ := ih h
          exact ⟨List.mem_cons_of_mem _ ha, hev⟩

/-- The shared part when the link changes. -/
def PortState.worldWithLink (s : PortState μ) (enable : Bool) : World μ :=
  { s.toWorld with port := { s.port with portEnabled := enable } }

/-- The shared part when `reinit_port` starts on the agents. -/
def PortState.worldReinit (s : PortState μ) : World μ :=
  { s.toWorld with
    port := { s.port with
      hwResetting := false, portEnabled := false, dormantDelay := dormantDelayDefault } }

/-- The turns that an event gives the agents of a port. -/
inductive Turn (env : Env μ) (s : PortState μ) : Event μ → AgentEvent → Ctx μ → Prop
  | tick {c : Ctx μ} (h : AgentTurn (agentTick env) s.toWorld s.agents c) :
      Turn env s .tick .tick c
  | setAdmin {type : AgentType} {admin : AdminStatus} {a : LldpAgent}
      (h : s.agents.find? (fun a => a.type = type) = some a) :
      Turn env s (.setAdmin type admin) (.setAdmin admin) { s.toWorld with agent := a }
  | portEnable {enable : Bool} {c : Ctx μ}
      (h : AgentTurn (agentHandle env (.portEnable enable)) (s.worldWithLink enable) s.agents c) :
      Turn env s (.portEnable enable) (.portEnable enable) c
  | reinit {c : Ctx μ}
      (h : AgentTurn (agentHandle env .reinit) s.worldReinit s.agents c) :
      Turn env s .reinitPort .reinit c
  | frame {f : Frame} {ev : AgentEvent} {a : LldpAgent} (hsize : f.size ≠ 0)
      (h : receiver f s.agents = some (ev, a)) :
      Turn env s (.frame f) ev { s.toWorld with agent := a }
  | localChange {type : AgentType} {a : LldpAgent} (ha : a ∈ s.agents) (htype : a.type = type) :
      Turn env s (.localChange type) .localChange { s.toWorld with agent := a }
  | updateTtl {ttl : Nat} {a : LldpAgent} (ha : a ∈ s.agents) :
      Turn env s (.updateTtl ttl) (.updateTtl ttl) { s.toWorld with agent := a }

/-! ### What the turns preserve -/

variable {P : LldpAgent → Prop} {f : Ctx μ → Except Fault (Ctx μ)}

/-- The first agent takes its turn, and the others find what it leaves. -/
theorem forAgents_cons {w : World μ} {a : LldpAgent} {as : List LldpAgent}
    {r : World μ × List LldpAgent} (h : forAgents f w (a :: as) = .ok r) :
    ∃ c as', f { w with agent := a } = .ok c ∧ forAgents f c.toWorld as = .ok (r.1, as') ∧
      r.2 = c.agent :: as' := by
  obtain ⟨c, hc, h⟩ := bind_eq_ok.mp h
  obtain ⟨⟨w', as'⟩, hrest, h⟩ := bind_eq_ok.mp h
  cases h
  exact ⟨c, as', hc, hrest, rfl⟩

theorem forAgents_forall :
    ∀ (as : List LldpAgent) (w w' : World μ) (as' : List LldpAgent),
      (∀ c c', AgentTurn f w as c → P c.agent → f c = .ok c' → P c'.agent) →
      (∀ a ∈ as, P a) → forAgents f w as = .ok (w', as') → ∀ a ∈ as', P a := by
  intro as
  induction as with
  | nil =>
    intro w w' as' _ _ h
    cases h
    simp
  | cons a as ih =>
    intro w w' as' hf hP h
    obtain ⟨c, as'', hc, hrest, rfl⟩ := forAgents_cons h
    have hhead : P c.agent := hf _ c .head (hP a (List.mem_cons_self ..)) hc
    have htail := ih c.toWorld _ _ (fun d d' hd => hf d d' (.tail hc hd))
      (fun b hb => hP b (List.mem_cons_of_mem _ hb)) hrest
    intro b hb
    rcases List.mem_cons.mp hb with rfl | hb
    · exact hhead
    · exact htail b hb

theorem forAgents_total (hf : ∀ c, P c.agent → ∃ c', f c = .ok c') :
    ∀ (as : List LldpAgent) (w : World μ), (∀ a ∈ as, P a) → ∃ x, forAgents f w as = .ok x := by
  intro as
  induction as with
  | nil => intro w _; exact ⟨(w, []), rfl⟩
  | cons a as ih =>
    intro w hP
    obtain ⟨c, hc⟩ := hf { w with agent := a } (hP a (List.mem_cons_self ..))
    obtain ⟨⟨w', as'⟩, hrest⟩ := ih c.toWorld fun b hb => hP b (List.mem_cons_of_mem _ hb)
    exact ⟨(w', c.agent :: as'), bind_eq_ok.mpr ⟨c, hc, bind_eq_ok.mpr ⟨_, hrest, rfl⟩⟩⟩

theorem forAgents_world {W : World μ → Prop}
    (hf : ∀ c c', W c.toWorld → f c = .ok c' → W c'.toWorld) :
    ∀ (as : List LldpAgent) (w w' : World μ) (as' : List LldpAgent),
      W w → forAgents f w as = .ok (w', as') → W w' := by
  intro as
  induction as with
  | nil => intro w w' as' hW h; cases h; exact hW
  | cons b as ih =>
    intro w w' as' hW h
    obtain ⟨c, as'', hc, hrest, rfl⟩ := forAgents_cons h
    exact ih c.toWorld _ _ (hf _ c hW hc) hrest

/-- The agent at a place of the list takes its turn there, in a world that satisfies what
the turns before it preserve. -/
theorem forAgents_get {W : World μ → Prop}
    (hf : ∀ c c', W c.toWorld → f c = .ok c' → W c'.toWorld) :
    ∀ (as : List LldpAgent) (w w' : World μ) (as' : List LldpAgent) (i : Nat) (a : LldpAgent),
      W w → forAgents f w as = .ok (w', as') → as[i]? = some a →
        ∃ c c', c.agent = a ∧ W c.toWorld ∧ f c = .ok c' ∧ as'[i]? = some c'.agent := by
  intro as
  induction as with
  | nil => intro w w' as' i a _ _ ha; simp at ha
  | cons b as ih =>
    intro w w' as' i a hW h ha
    obtain ⟨c, as'', hc, hrest, rfl⟩ := forAgents_cons h
    cases i with
    | zero => exact ⟨_, c, by simpa using ha, hW, hc, rfl⟩
    | succ i =>
      obtain ⟨d, d', hd, hWd, hfd, hget⟩ :=
        ih c.toWorld _ _ i a (hf _ c hW hc) hrest (by simpa using ha)
      exact ⟨d, d', hd, hWd, hfd, by simpa using hget⟩

theorem forAgents_map (f : Ctx μ → Except Fault (Ctx μ)) (g : LldpAgent → LldpAgent) :
    ∀ (as : List LldpAgent) (w : World μ),
      forAgents f w (as.map g) = forAgents (fun c => f { c with agent := g c.agent }) w as := by
  intro as
  induction as with
  | nil => intro w; rfl
  | cons a as ih =>
    intro w
    rw [List.map_cons, forAgents, forAgents]
    refine congrArg (_ >>= ·) ?_
    funext c
    rw [ih]

/-- `set_lldp_port_enable` drops `rxInfoAge` before the walk. -/
theorem forAgents_portEnable {env : Env μ} {enable : Bool} {as : List LldpAgent} {w : World μ}
    {r : World μ × List LldpAgent}
    (h : forAgents (runSms env) w (if enable = true then as else as.map dropInfoAge) = .ok r) :
    forAgents (agentHandle env (.portEnable enable)) w as = .ok r := by
  have hmap : (if enable = true then as else as.map dropInfoAge)
      = as.map fun a => if enable then a else dropInfoAge a := by
    cases enable <;> simp
  rw [hmap, forAgents_map] at h
  exact h

variable {env : Env μ} {w w' : World μ} {as as' : List LldpAgent}
  {found : Option (AgentEvent × LldpAgent)}

/-- The agent found in a list takes its turn, and the others stay. -/
inductive OneTurn (env : Env μ) (w : World μ) : Option (AgentEvent × LldpAgent) →
    List LldpAgent → World μ → List LldpAgent → Prop
  | idle {as : List LldpAgent} : OneTurn env w none as w as
  | turn (pre post : List LldpAgent) {ev : AgentEvent} {a : LldpAgent} {c : Ctx μ}
      (hrun : agentHandle env ev { w with agent := a } = .ok c) :
      OneTurn env w (some (ev, a)) (pre ++ a :: post) c.toWorld (pre ++ c.agent :: post)

theorem OneTurn.cons (h : OneTurn env w found as w' as') (a : LldpAgent) :
    OneTurn env w found (a :: as) w' (a :: as') := by
  cases h with
  | idle => exact .idle
  | turn pre post hrun => exact .turn (a :: pre) post hrun

theorem OneTurn.forall (h : OneTurn env w found as w' as')
    (hf : ∀ ev a c', found = some (ev, a) → P a →
      agentHandle env ev { w with agent := a } = .ok c' → P c'.agent)
    (hP : ∀ a ∈ as, P a) : ∀ a ∈ as', P a := by
  cases h with
  | idle => exact hP
  | turn pre post hrun =>
    rw [List.forall_mem_append, List.forall_mem_cons] at hP ⊢
    obtain ⟨hpre, ha, hpost⟩ := hP
    exact ⟨hpre, hf _ _ _ rfl ha hrun, hpost⟩

/-- The first agent that `p` holds of takes the turn. -/
theorem forAgent_oneTurn {p : LldpAgent → Bool} (ev : AgentEvent)
    (h : forAgent p (agentHandle env ev) w as = .ok (w', as')) :
    OneTurn env w ((as.find? p).map fun a => (ev, a)) as w' as' := by
  induction as generalizing as' with
  | nil =>
    cases h
    exact .idle
  | cons a as ih =>
    rw [forAgent] at h
    by_cases hp : p a = true
    · rw [if_pos hp] at h
      obtain ⟨c, hc, h⟩ := bind_eq_ok.mp h
      cases h
      rw [List.find?_cons_of_pos hp]
      exact .turn [] as hc
    · rw [if_neg hp] at h
      obtain ⟨⟨w'', as''⟩, hrest, h⟩ := bind_eq_ok.mp h
      cases h
      rw [List.find?_cons_of_neg hp]
      exact (ih hrest).cons a

/-- The arrival of a frame is a turn of its receiver, if it has one. -/
theorem rxReceiveLoop_oneTurn {f : Frame} (h : rxReceiveLoop env f w as = .ok (w', as')) :
    OneTurn env w (receiver f as) as w' as' := by
  induction as generalizing as' with
  | nil =>
    cases h
    exact .idle
  | cons a as ih =>
    rw [rxReceiveLoop] at h
    rw [receiver]
    split_ifs at h ⊢
    · cases h
      have hrun : agentHandle env (.repeated f) { w with agent := a }
          = .ok { w with agent := rxRepeatFrame f a } := rfl
      exact .turn [] as hrun
    · cases h
      exact .idle
    · obtain ⟨c, hc, h⟩ := bind_eq_ok.mp h
      cases h
      exact .turn [] as hc
    · obtain ⟨⟨w'', as''⟩, hrest, h⟩ := bind_eq_ok.mp h
      cases h
      exact (ih hrest).cons a

/-- What every turn preserves of its agent, the event preserves of every agent. -/
theorem lldpStep_forall
    (hnew : ∀ w type, P (lldpInitAgent env w type).agent) {s s' : PortState μ} {e : Event μ}
    (hturn : ∀ ev c c', Turn env s e ev c → P c.agent → agentHandle env ev c = .ok c' →
      P c'.agent)
    (hP : ∀ a ∈ s.agents, P a) (h : lldpStep env s e = .ok s') : ∀ a ∈ s'.agents, P a := by
  cases e with
  | frame f =>
    change rxReceiveFrame env f s = .ok s' at h
    unfold rxReceiveFrame at h
    by_cases hsize : f.size = 0
    · rw [if_pos hsize] at h
      cases h
      exact hP
    · rw [if_neg hsize] at h
      obtain ⟨⟨w, as⟩, hloop, h⟩ := bind_eq_ok.mp h
      cases h
      exact (rxReceiveLoop_oneTurn hloop).forall
        (fun ev a c' hrecv => hturn ev _ c' (.frame hsize hrecv)) hP
  | tick =>
    obtain ⟨⟨w, as⟩, hloop, h⟩ := bind_eq_ok.mp h
    cases h
    exact forAgents_forall s.agents s.toWorld w as
      (fun c c' hc => hturn .tick c c' (.tick hc)) hP hloop
  | setAdmin type admin =>
    obtain ⟨⟨w, as⟩, hloop, h⟩ := bind_eq_ok.mp h
    cases h
    refine (forAgent_oneTurn (.setAdmin admin) hloop).forall (fun ev a c' ha => ?_) hP
    obtain ⟨b, hb, hab⟩ := Option.map_eq_some_iff.mp ha
    cases hab
    exact hturn (.setAdmin admin) _ c' (.setAdmin hb)
  | portEnable enable =>
    obtain ⟨⟨w, as⟩, hloop, h⟩ := bind_eq_ok.mp h
    cases h
    exact forAgents_forall s.agents _ w as
      (fun c c' hc => hturn (.portEnable enable) c c' (.portEnable hc)) hP
      (forAgents_portEnable hloop)
  | operDelay | ecpTx => cases h; exact hP
  | reinitPort =>
    obtain ⟨⟨w, as⟩, hloop, h⟩ := bind_eq_ok.mp h
    cases h
    exact forAgents_forall s.agents _ w as
      (fun c c' hc => hturn .reinit c c' (.reinit hc)) hP hloop
  | addAgent type =>
    cases h
    unfold lldpAddAgent
    split
    · exact hP
    · intro a ha
      rcases List.mem_cons.mp ha with rfl | ha
      · exact hnew _ type
      · exact hP a ha
  | localChange type =>
    cases h
    intro b hb
    obtain ⟨a, ha, rfl⟩ := List.mem_map.mp hb
    by_cases htype : a.type = type
    · simp only [if_pos htype]
      exact hturn .localChange { s.toWorld with agent := a } _ (.localChange ha htype) (hP a ha) rfl
    · simp only [if_neg htype]
      exact hP a ha
  | updateTtl ttl =>
    cases h
    intro b hb
    obtain ⟨a, ha, rfl⟩ := List.mem_map.mp hb
    exact hturn (.updateTtl ttl) { s.toWorld with agent := a } _ (.updateTtl ha) (hP a ha) rfl
  | modulesWork m => cases h; exact hP

/-- All turns of an event meet a condition. -/
def TurnsMeet (env : Env μ) (cond : AgentEvent → Ctx μ → Prop) (s : PortState μ)
    (e : Event μ) : Prop :=
  ∀ ev c, Turn env s e ev c → cond ev c

theorem agents_invariant {cond : AgentEvent → Ctx μ → Prop}
    (hnew : ∀ w type, P (lldpInitAgent env w type).agent)
    (hturn : ∀ ev c c', cond ev c → P c.agent → agentHandle env ev c = .ok c' → P c'.agent)
    {s : PortState μ} (h : (lldpSystem env).ReachableWhere (TurnsMeet env cond) s) :
    ∀ a ∈ s.agents, P a := by
  refine h.invariant (I := fun s => ∀ a ∈ s.agents, P a) ?_ ?_
  · intro s hs
    rw [hs.1]
    simp
  · intro s e t hP hcond hstep
    exact lldpStep_forall hnew (fun ev c c' hc => hturn ev c c' (hcond ev c hc)) hP hstep

theorem agents_invariant_of_reachable
    (hnew : ∀ w type, P (lldpInitAgent env w type).agent)
    (hturn : ∀ ev c c', P c.agent → agentHandle env ev c = .ok c' → P c'.agent)
    {s : PortState μ} (h : (lldpSystem env).Reachable s) : ∀ a ∈ s.agents, P a := by
  refine h.invariant (I := fun s => ∀ a ∈ s.agents, P a) ?_ ?_
  · intro s hs
    rw [hs.1]
    simp
  · intro s e t hP hstep
    exact lldpStep_forall hnew (fun ev c c' _ => hturn ev c c') hP hstep

end Lldpad.Lldp
