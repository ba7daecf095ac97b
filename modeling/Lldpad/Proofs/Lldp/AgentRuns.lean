import Lldpad.Proofs.Lldp.LinkDown

/-!
# `Lldpad.Proofs.Lldp.AgentRuns`: the turns of one agent

A port has at most one agent of a type (`typesDistinct_of_reachable`). So an event gives the
agent of a type at most one turn, `turnOf`, and `agentOf_step` says what the event makes of that
agent: what the handler of its turn makes of it, and nothing without a turn.
-/

namespace Lldpad.Lldp

open Lldpad.Lib

variable {μ : Type}

/-! ### One agent for each type -/

/-- The agents of a port are of different types. -/
def TypesDistinct (as : List LldpAgent) : Prop := (as.map (·.type)).Nodup

/-- The agent of a type. -/
def ofType (type : AgentType) (as : List LldpAgent) : Option LldpAgent :=
  as.find? fun a => a.type = type

variable {a : LldpAgent} {type : AgentType} {env : Env μ} {f : Ctx μ → Except Fault (Ctx μ)}

theorem ofType_cons_self (h : a.type = type)
    (as : List LldpAgent) : ofType type (a :: as) = some a :=
  List.find?_cons_of_pos (by simp [h])

theorem ofType_cons_of_ne (h : a.type ≠ type)
    (as : List LldpAgent) : ofType type (a :: as) = ofType type as :=
  List.find?_cons_of_neg (by simp [h])

variable {as : List LldpAgent} {s : PortState μ} {c' c : Ctx μ}

theorem type_of_ofType (h : ofType type as = some a) : a.type = type := by
  simpa using List.find?_some h

theorem mem_of_ofType (h : ofType type as = some a) : a ∈ as := List.mem_of_find?_eq_some h

theorem ofType_of_mem (hdis : TypesDistinct as) (ha : a ∈ as) (htype : a.type = type) :
    ofType type as = some a := by
  induction as with
  | nil => cases ha
  | cons b as ih =>
    obtain ⟨hb, hdis⟩ := List.nodup_cons.mp hdis
    rcases List.mem_cons.mp ha with rfl | ha
    · exact ofType_cons_self htype as
    · have hne : b.type ≠ type := by
        intro hsame
        exact hb (List.mem_map.mpr ⟨a, ha, htype.trans hsame.symm⟩)
      rw [ofType_cons_of_ne hne]
      exact ih hdis ha

theorem ofType_map {g : LldpAgent → LldpAgent}
    (hg : ∀ a, (g a).type = a.type) (as : List LldpAgent) :
    ofType type (as.map g) = (ofType type as).map g := by
  induction as with
  | nil => rfl
  | cons a as ih =>
    rw [List.map_cons]
    by_cases htype : a.type = type
    · rw [ofType_cons_self htype, ofType_cons_self ((hg a).trans htype), Option.map_some]
    · rw [ofType_cons_of_ne htype, ofType_cons_of_ne (by rw [hg a]; exact htype), ih]

theorem types_map {g : LldpAgent → LldpAgent} (hg : ∀ a, (g a).type = a.type)
    (as : List LldpAgent) : (as.map g).map (·.type) = as.map (·.type) := by
  rw [List.map_map]
  exact List.map_congr_left fun a _ => hg a

/-! ### A handler keeps the type -/

theorem runSms_type (h : runSms env c = .ok c') :
    c'.agent.type = c.agent.type := by
  obtain ⟨d, htx, hrx⟩ := bind_eq_ok.mp h
  exact (runRxSm_keeps hrx).sameTxSide.type.trans (runTxSm_keeps htx).sameRxSide.type

theorem agentHandle_type {ev : AgentEvent}
    (h : agentHandle env ev c = .ok c') : c'.agent.type = c.agent.type := by
  cases ev with
  | tick =>
    obtain ⟨a, d, ha, hd, hkeep, -⟩ := agentTick_tx h
    have htx := (runTxSm_keeps hd).sameRxSide.type
    have htimers := (runTxTimersSm_keeps ha).sameRxSide.type
    exact hkeep.type.trans (htx.trans htimers)
  | setAdmin admin =>
    rcases setAgentAdmin_eq_ok h with ⟨-, h⟩ | ⟨-, rfl⟩
    · have hrun := runSms_type h
      exact hrun
    · rfl
  | portEnable enable =>
    have hrun := runSms_type h
    cases enable <;> exact hrun
  | reinit =>
    cases h
    exact (rxInitializeLLDP_rxKeeps env _).sameTxSide.type
  | accept f =>
    rcases rxAcceptFrame_eq_ok h with ⟨-, rfl⟩ | ⟨-, h⟩
    · rfl
    · have hrun := (runRxSm_keeps h).sameTxSide.type
      exact hrun
  | repeated f =>
    cases h
    rfl
  | localChange | updateTtl ttl =>
    cases h
    rfl

/-! ### The turn of the agent of a type -/

/-- What the agent of a type finds in a walk over the agents when its turn comes. -/
def turnIn (f : Ctx μ → Except Fault (Ctx μ)) (type : AgentType) :
    World μ → List LldpAgent → Option (Ctx μ)
  | _, [] => none
  | w, a :: as =>
    if a.type = type then some { w with agent := a }
    else
      match f { w with agent := a } with
      | .error _ => none
      | .ok c => turnIn f type c.toWorld as

/-- The turn that an event gives the agent of a type. -/
def turnOf (env : Env μ) (type : AgentType) (s : PortState μ) :
    Event μ → Option (AgentEvent × Ctx μ)
  | .tick => (turnIn (agentTick env) type s.toWorld s.agents).map fun c => (.tick, c)
  | .portEnable enable =>
    (turnIn (agentHandle env (.portEnable enable)) type (s.worldWithLink enable) s.agents).map
      fun c => (.portEnable enable, c)
  | .reinitPort =>
    (turnIn (agentHandle env .reinit) type s.worldReinit s.agents).map fun c => (.reinit, c)
  | .frame f =>
    if f.size = 0 then none
    else
      match receiver f s.agents with
      | none => none
      | some (ev, a) => if a.type = type then some (ev, { s.toWorld with agent := a }) else none
  | .setAdmin type' admin =>
    if type' = type then
      (ofType type s.agents).map fun a => (.setAdmin admin, { s.toWorld with agent := a })
    else none
  | .localChange type' =>
    if type' = type then
      (ofType type s.agents).map fun a => (.localChange, { s.toWorld with agent := a })
    else none
  | .updateTtl ttl =>
    (ofType type s.agents).map fun a => (.updateTtl ttl, { s.toWorld with agent := a })
  | .operDelay | .addAgent _ | .ecpTx | .modulesWork _ => none

/-- What an event makes of an agent: nothing, or what the handler of its turn makes of it. The
turn takes place with the link up, if the link is up before and after the event, and it is not
one of `reinit_port` then. -/
inductive AgentStep (env : Env μ) (type : AgentType) (s s' : PortState μ) (e : Event μ)
    (a a' : LldpAgent) : Prop
  | idle (h : turnOf env type s e = none) (ha : a' = a)
  | turn {ev : AgentEvent} {c c' : Ctx μ} (h : turnOf env type s e = some (ev, c))
      (hc : c.agent = a) (hrun : agentHandle env ev c = .ok c') (ha : a' = c'.agent)
      (hup : s.port.portEnabled = true → s'.port.portEnabled = true →
        c.port.portEnabled = true ∧ ev ≠ .reinit)

/-- In a walk the agent of a type takes its turn. The induction is on the agents; those in front
of it are of other types and stay so. -/
theorem forAgents_turn {W : World μ → Prop} (hf : ∀ c c', W c.toWorld → f c = .ok c' → W c'.toWorld)
    (hkeep : ∀ c c', f c = .ok c' → c'.agent.type = c.agent.type) :
    ∀ (as : List LldpAgent) (w w' : World μ) (as' : List LldpAgent),
      W w → forAgents f w as = .ok (w', as') → ofType type as = some a →
        ∃ c c', turnIn f type w as = some c ∧ c.agent = a ∧ W c.toWorld ∧ f c = .ok c' ∧
          ofType type as' = some c'.agent := by
  intro as
  induction as with
  | nil =>
    intro w w' as' _ _ ha
    cases ha
  | cons b as ih =>
    intro w w' as' hW h ha
    obtain ⟨c, as'', hc, hrest, rfl⟩ := forAgents_cons h
    have hkeepb := hkeep _ _ hc
    by_cases htype : b.type = type
    · rw [ofType_cons_self htype] at ha
      cases ha
      refine ⟨{ w with agent := a }, c, ?_, rfl, hW, hc, ofType_cons_self ?_ _⟩
      · rw [turnIn, if_pos htype]
      · exact hkeepb.trans htype
    · rw [ofType_cons_of_ne htype] at ha
      obtain ⟨d, d', hturn, hd, hWd, hrun, hget⟩ := ih c.toWorld _ _ (hf _ c hW hc) hrest ha
      refine ⟨d, d', ?_, hd, hWd, hrun, ?_⟩
      · rw [turnIn, if_neg htype, hc]
        exact hturn
      · rw [ofType_cons_of_ne (by rw [hkeepb]; exact htype)]
        exact hget

theorem forAgents_types (hkeep : ∀ c c', f c = .ok c' → c'.agent.type = c.agent.type) :
    ∀ (as : List LldpAgent) (w w' : World μ) (as' : List LldpAgent),
      forAgents f w as = .ok (w', as') → as'.map (·.type) = as.map (·.type) := by
  intro as
  induction as with
  | nil =>
    intro w w' as' h
    cases h
    rfl
  | cons b as ih =>
    intro w w' as' h
    obtain ⟨c, as'', hc, hrest, rfl⟩ := forAgents_cons h
    rw [List.map_cons, List.map_cons, ih _ _ _ hrest, hkeep _ _ hc]

variable {w w' : World μ} {as' : List LldpAgent} {found : Option (AgentEvent × LldpAgent)}

theorem OneTurn.types (h : OneTurn env w found as w' as') :
    as'.map (·.type) = as.map (·.type) := by
  cases h with
  | idle => rfl
  | turn pre post hrun =>
    rw [List.map_append, List.map_append, List.map_cons, List.map_cons, agentHandle_type hrun]

/-- The agent of a type stays, or the turn is its own. -/
theorem OneTurn.ofType (h : OneTurn env w found as w' as') (hdis : TypesDistinct as)
    (ha : ofType type as = some a) :
    (Lldp.ofType type as' = some a ∧ ∀ ev b, found = some (ev, b) → b.type ≠ type) ∨
      ∃ ev c', found = some (ev, a) ∧ agentHandle env ev { w with agent := a } = .ok c' ∧
        Lldp.ofType type as' = some c'.agent := by
  have hdis' : TypesDistinct as' := by
    rw [TypesDistinct, h.types]
    exact hdis
  cases h with
  | idle => exact .inl ⟨ha, fun _ _ hnone => by cases hnone⟩
  | @turn pre post ev b c hrun =>
    have hkeep : c.agent.type = b.type := agentHandle_type hrun
    by_cases hb : b.type = type
    · have hown := ofType_of_mem hdis (List.mem_append_right pre (List.mem_cons_self ..)) hb
      have hafter := ofType_of_mem hdis' (List.mem_append_right pre (List.mem_cons_self ..))
        (hkeep.trans hb)
      cases hown.symm.trans ha
      exact .inr ⟨ev, c, rfl, hrun, hafter⟩
    · refine .inl ⟨?_, fun _ _ hsome => ?_⟩
      · rw [← ha, Lldp.ofType, Lldp.ofType, List.find?_append, List.find?_append,
          List.find?_cons_of_neg (by rw [hkeep]; simpa using hb),
          List.find?_cons_of_neg (by simpa using hb)]
      · cases hsome
        exact hb

/-! ### An event -/

theorem runSms_portEnabled (h : runSms env c = .ok c') :
    c'.port.portEnabled = c.port.portEnabled := by
  obtain ⟨d, htx, hrx⟩ := bind_eq_ok.mp h
  rw [(runRxSm_keeps hrx).port, (runTxSm_keeps htx).portEnabled]

/-- A walk whose turns keep the state of the link gives the agent of a type its turn. -/
theorem walk_turn (ev : AgentEvent) (up : Bool)
    (hkeep : ∀ c c', agentHandle env ev c = .ok c' → c'.port.portEnabled = c.port.portEnabled)
    (hw : w.port.portEnabled = up) (h : forAgents (agentHandle env ev) w as = .ok (w', as'))
    (ha : ofType type as = some a) :
    w'.port.portEnabled = up ∧ ∃ c c', turnIn (agentHandle env ev) type w as = some c ∧
      c.agent = a ∧ c.port.portEnabled = up ∧ agentHandle env ev c = .ok c' ∧
      ofType type as' = some c'.agent := by
  let W : World μ → Prop := fun w => w.port.portEnabled = up
  have hW : ∀ c c', W c.toWorld → agentHandle env ev c = .ok c' → W c'.toWorld :=
    fun c c' hc hrun => (hkeep c c' hrun).trans hc
  exact ⟨forAgents_world hW as w w' as' hw h,
    forAgents_turn hW (fun _ _ => agentHandle_type) as w w' as' hw h ha⟩

/-- What an event makes of the agent of a type. -/
theorem agentOf_step {s' : PortState μ} {e : Event μ}
    (hdis : TypesDistinct s.agents) (h : lldpStep env s e = .ok s')
    (ha : ofType type s.agents = some a) :
    ∃ a', ofType type s'.agents = some a' ∧ AgentStep env type s s' e a a' := by
  cases e with
  | frame f =>
    change rxReceiveFrame env f s = .ok s' at h
    unfold rxReceiveFrame at h
    by_cases hsize : f.size = 0
    · rw [if_pos hsize] at h
      cases h
      exact ⟨a, ha, .idle (if_pos hsize) rfl⟩
    · rw [if_neg hsize] at h
      obtain ⟨⟨w, as⟩, hloop, h⟩ := bind_eq_ok.mp h
      cases h
      rcases (rxReceiveLoop_oneTurn hloop).ofType hdis ha with
        ⟨hget, hother⟩ | ⟨ev, c', hrecv, hrun, hget⟩
      · refine ⟨a, hget, .idle ?_ rfl⟩
        rw [turnOf, if_neg hsize]
        cases hx : receiver f s.agents with
        | none => rfl
        | some x => exact if_neg (hother x.1 x.2 hx)
      · have hturn : turnOf env type s (.frame f) = some (ev, { s.toWorld with agent := a }) := by
          rw [turnOf, if_neg hsize, hrecv]
          exact if_pos (type_of_ofType ha)
        have hev : ev ≠ .reinit := by
          rcases (receiver_eq_some hrecv).2 with hev | hev <;> simp [hev]
        exact ⟨c'.agent, hget, .turn hturn rfl hrun rfl fun hup _ => ⟨hup, hev⟩⟩
  | tick =>
    obtain ⟨⟨w, as⟩, hloop, h⟩ := bind_eq_ok.mp h
    cases h
    obtain ⟨-, c, c', hin, hc, hup, hrun, hget⟩ :=
      walk_turn .tick s.port.portEnabled (fun _ _ hrun => (agentTick_keeps hrun).1) rfl hloop ha
    have hturn : turnOf env type s .tick = some (.tick, c) := congrArg (Option.map _) hin
    exact ⟨c'.agent, hget, .turn hturn hc hrun rfl fun h _ => ⟨hup.trans h, nofun⟩⟩
  | portEnable enable =>
    obtain ⟨⟨w, as⟩, hloop, h⟩ := bind_eq_ok.mp h
    cases h
    have hkeep : ∀ c c', agentHandle env (.portEnable enable) c = .ok c' →
        c'.port.portEnabled = c.port.portEnabled := by
      intro c c' hrun
      have hup := runSms_portEnabled hrun
      exact hup
    obtain ⟨hafter, c, c', hin, hc, hup, hrun, hget⟩ :=
      walk_turn _ enable hkeep rfl (forAgents_portEnable hloop) ha
    have hturn : turnOf env type s (.portEnable enable) = some (.portEnable enable, c) :=
      congrArg (Option.map _) hin
    refine ⟨c'.agent, hget, .turn hturn hc hrun rfl fun _ h => ⟨?_, nofun⟩⟩
    exact hup.trans (hafter.symm.trans h)
  | reinitPort =>
    obtain ⟨⟨w, as⟩, hloop, h⟩ := bind_eq_ok.mp h
    cases h
    have hkeep : ∀ c c', agentHandle env .reinit c = .ok c' →
        c'.port.portEnabled = c.port.portEnabled := by
      intro c c' hrun
      cases hrun
      exact congrArg Port.portEnabled (reinitAgent_port env c)
    obtain ⟨hafter, c, c', hin, hc, hdown, hrun, hget⟩ :=
      walk_turn .reinit false hkeep rfl hloop ha
    have hturn : turnOf env type s .reinitPort = some (.reinit, c) := congrArg (Option.map _) hin
    refine ⟨c'.agent, hget, .turn hturn hc hrun rfl fun _ h => ?_⟩
    exact absurd (hafter.symm.trans h) (by decide)
  | setAdmin type' admin =>
    obtain ⟨⟨w, as⟩, hloop, h⟩ := bind_eq_ok.mp h
    cases h
    rcases (forAgent_oneTurn (.setAdmin admin) hloop).ofType hdis ha with
      ⟨hget, hother⟩ | ⟨ev, c', hfind, hrun, hget⟩
    · refine ⟨a, hget, .idle (if_neg fun htype => ?_) rfl⟩
      subst htype
      refine hother (.setAdmin admin) a ?_ (type_of_ofType ha)
      exact congrArg (Option.map _) ha
    · obtain ⟨b, hb, hab⟩ := Option.map_eq_some_iff.mp hfind
      cases hab
      have htype : type' = type := (type_of_ofType hb).symm.trans (type_of_ofType ha)
      have hturn : turnOf env type s (.setAdmin type' admin)
          = some (.setAdmin admin, { s.toWorld with agent := a }) := by
        rw [turnOf, if_pos htype, ha]
        rfl
      exact ⟨c'.agent, hget, .turn hturn rfl hrun rfl fun hup _ => ⟨hup, nofun⟩⟩
  | addAgent type' =>
    cases h
    refine ⟨a, ?_, .idle rfl rfl⟩
    unfold lldpAddAgent
    split
    · exact ha
    · next hnone =>
      -- there is an agent of this type, so the new one is of another
      have hnew : (lldpInitAgent env s.toWorld type').agent.type = type' :=
        (rxInitializeLLDP_rxKeeps env _).sameTxSide.type
      have hne : type' ≠ type := by
        rintro rfl
        exact hnone (List.any_eq_true.mpr ⟨a, mem_of_ofType ha, by simp [type_of_ofType ha]⟩)
      show ofType type (_ :: s.agents) = some a
      rw [ofType_cons_of_ne (by rw [hnew]; exact hne)]
      exact ha
  | localChange type' =>
    cases h
    have hkeep : ∀ a : LldpAgent,
        (if a.type = type' then somethingChangedLocal a else a).type = a.type := by
      intro a
      split <;> rfl
    have hget : ofType type (s.mapType type' somethingChangedLocal).agents
        = some (if a.type = type' then somethingChangedLocal a else a) := by
      show ofType type (s.agents.map _) = _
      rw [ofType_map hkeep, ha]
      rfl
    rw [type_of_ofType ha] at hget
    by_cases htype : type = type'
    · rw [if_pos htype] at hget
      have hturn : turnOf env type s (.localChange type')
          = some (.localChange, { s.toWorld with agent := a }) := by
        rw [turnOf, if_pos htype.symm, ha]
        rfl
      exact ⟨_, hget, .turn hturn rfl rfl rfl fun hup _ => ⟨hup, nofun⟩⟩
    · rw [if_neg htype] at hget
      exact ⟨a, hget, .idle (if_neg fun h => htype h.symm) rfl⟩
  | updateTtl ttl =>
    cases h
    have hget : ofType type (s.agents.map fun a => mandUpdateTtl a ttl)
        = some (mandUpdateTtl a ttl) := by
      rw [ofType_map (g := fun a => mandUpdateTtl a ttl) (fun _ => rfl), ha]
      rfl
    have hturn : turnOf env type s (.updateTtl ttl)
        = some (.updateTtl ttl, { s.toWorld with agent := a }) := by
      rw [turnOf, ha]
      rfl
    exact ⟨_, hget, .turn hturn rfl rfl rfl fun hup _ => ⟨hup, nofun⟩⟩
  | operDelay | ecpTx | modulesWork m =>
    cases h
    exact ⟨a, ha, .idle rfl rfl⟩

/-! ### Distinct types -/

/-- The types of the agents after an event. A new agent has a new type, and every other event
keeps the types. -/
theorem lldpStep_types {s' : PortState μ} {e : Event μ} (h : lldpStep env s e = .ok s') :
    s'.agents.map (·.type) = s.agents.map (·.type) ∨
      ∃ type ∉ s.agents.map (·.type), s'.agents.map (·.type) = type :: s.agents.map (·.type) := by
  cases e with
  | frame f =>
    change rxReceiveFrame env f s = .ok s' at h
    unfold rxReceiveFrame at h
    split at h
    · cases h
      exact .inl rfl
    · obtain ⟨⟨w, as⟩, hloop, h⟩ := bind_eq_ok.mp h
      cases h
      exact .inl (rxReceiveLoop_oneTurn hloop).types
  | tick =>
    obtain ⟨⟨w, as⟩, hloop, h⟩ := bind_eq_ok.mp h
    cases h
    have htick : ∀ c c', agentHandle env .tick c = .ok c' → c'.agent.type = c.agent.type :=
      fun _ _ => agentHandle_type
    exact .inl (forAgents_types htick _ _ _ _ hloop)
  | portEnable enable =>
    obtain ⟨⟨w, as⟩, hloop, h⟩ := bind_eq_ok.mp h
    cases h
    exact .inl (forAgents_types (fun _ _ => agentHandle_type) _ _ _ _ (forAgents_portEnable hloop))
  | reinitPort =>
    obtain ⟨⟨w, as⟩, hloop, h⟩ := bind_eq_ok.mp h
    cases h
    have hreinit : ∀ c c', agentHandle env .reinit c = .ok c' → c'.agent.type = c.agent.type :=
      fun _ _ => agentHandle_type
    exact .inl (forAgents_types hreinit _ _ _ _ hloop)
  | setAdmin type admin =>
    obtain ⟨⟨w, as⟩, hloop, h⟩ := bind_eq_ok.mp h
    cases h
    exact .inl (forAgent_oneTurn (.setAdmin admin) hloop).types
  | addAgent type =>
    cases h
    unfold lldpAddAgent
    split
    · exact .inl rfl
    · next hnone =>
      have hnew : (lldpInitAgent env s.toWorld type).agent.type = type :=
        (rxInitializeLLDP_rxKeeps env _).sameTxSide.type
      refine .inr ⟨_, fun hmem => ?_, rfl⟩
      obtain ⟨a, ha, htype⟩ := List.mem_map.mp hmem
      exact hnone (List.any_eq_true.mpr ⟨a, ha, by simp [htype.trans hnew]⟩)
  | localChange type =>
    cases h
    refine .inl (types_map (fun a => ?_) s.agents)
    show (if a.type = type then somethingChangedLocal a else a).type = a.type
    split <;> rfl
  | updateTtl ttl =>
    cases h
    exact .inl (types_map (g := fun a => mandUpdateTtl a ttl) (fun _ => rfl) s.agents)
  | operDelay | ecpTx | modulesWork m =>
    cases h
    exact .inl rfl

theorem lldpStep_distinct {s' : PortState μ} {e : Event μ}
    (hdis : TypesDistinct s.agents) (h : lldpStep env s e = .ok s') : TypesDistinct s'.agents := by
  unfold TypesDistinct at *
  rcases lldpStep_types h with hsame | ⟨type, hnew, hadded⟩
  · rw [hsame]
    exact hdis
  · rw [hadded]
    exact List.nodup_cons.mpr ⟨hnew, hdis⟩

/-- A port that has an agent keeps one. -/
theorem lldpStep_agents_ne {s' : PortState μ} {e : Event μ}
    (h : lldpStep env s e = .ok s') (hne : s.agents ≠ []) : s'.agents ≠ [] := by
  rintro hnil
  have htypes := lldpStep_types h
  rw [hnil] at htypes
  rcases htypes with hsame | ⟨type, -, hadded⟩
  · exact hne (List.map_eq_nil_iff.mp hsame.symm)
  · cases hadded

theorem typesDistinct_of_reachable (h : (lldpSystem env).Reachable s) : TypesDistinct s.agents := by
  refine h.invariant (I := fun s => TypesDistinct s.agents) ?_ ?_
  · intro s hs
    rw [hs.1]
    exact List.nodup_nil
  · intro s e t hdis hstep
    exact lldpStep_distinct hdis hstep

end Lldpad.Lldp
