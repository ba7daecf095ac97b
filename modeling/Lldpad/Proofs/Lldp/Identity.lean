import Lldpad.Proofs.Lldp.Arrival

/-!
# `Lldpad.Proofs.Lldp.Identity`: the recorded identity is that of one accepted frame

The two halves of `agent->msap` are stored while a frame is still being taken apart, and a
frame that turns out to be in error does not take them back. Only a time to live of zero
deletes them. The other way to keep a record too long is a link that goes down: it drops a
pending age-out.

* `Identified`: the record is empty or the identity of one accepted frame, and it will not
  be kept for ever.
* `RecordsBad`, `DropsAged`: the two ways in which a turn goes wrong.
* `identified_of_guarded`: in a run without them every agent is `Identified`.
-/

namespace Lldpad.Lldp

open Lldpad.Lib

variable {μ : Type}

/-! ### The property -/

/-- The identity that a frame announces. -/
def Frame.identity (f : Frame) : Msap :=
  { length1 := f.chassisId.length, msap1 := some f.chassisId
    length2 := f.portId.length, msap2 := some f.portId }

variable {f : Frame} {env : Env μ}

theorem Msap.Wf.eq_identity {m : Msap} (h : m.Wf) (h₁ : m.msap1 = some f.chassisId)
    (h₂ : m.msap2 = some f.portId) : m = f.identity := by
  obtain ⟨length1, msap1, length2, msap2⟩ := m
  cases h₁
  cases h₂
  have hl₁ : length1 = f.chassisId.length := h.length1 _ rfl
  have hl₂ : length2 = f.portId.length := h.length2 _ rfl
  rw [hl₁, hl₂]
  rfl

/-- Nobody is on record, or the record is the identity of one frame that was processed
without error. A record has a time to live, or an age-out is pending. -/
structure Identified (a : LldpAgent) : Prop where
  atomic : a.msap = {} ∨ ∃ f, (f, true) ∈ a.history.processed ∧ a.msap = f.identity
  alive : a.msap ≠ {} → Alive a

/-! ### What goes wrong -/

/-- The time to live that is left after a frame that comes when nobody is on record. -/
def ttlLeft (env : Env μ) (c : Ctx μ) (f : Frame) : Nat :=
  if 3 ≤ (c.outcome env f).created.length ∧ c.agent.rx.tooManyNghbrs = false then f.ttl
  else c.agent.timers.rxTTL

/-- The walk over the frame gets to its port ID, and a frame that was processed without
error announced the same identity. -/
def KnownIdentity (env : Env μ) (c : Ctx μ) (f : Frame) : Prop :=
  2 ≤ (c.outcome env f).created.length ∧
    ∃ x ∈ c.agent.history.processed, x.2 = true ∧ x.1.identity = f.identity

/-- A frame in error with a chassis ID is processed while nobody is on record, and a time
to live is left after it. No accepted frame announced the same identity. -/
def RecordsBad (env : Env μ) (c : Ctx μ) (f : Frame) : Prop :=
  Receives c.port c.agent ∧ c.agent.msap = {} ∧ f.valid 0 = true ∧
    (c.outcome env f).error = true ∧ ttlLeft env c f ≠ 0 ∧ ¬KnownIdentity env c f

/-- The turn neither records a frame in error nor drops a pending age-out. -/
def KeepsIdentity (env : Env μ) : AgentEvent → Ctx μ → Prop
  | .accept f, c => ¬RecordsBad env c f
  | ev, c => ¬DropsAged ev c

/-! ### A frame, by the record that it finds -/

theorem replay_created_of_ok {p : Port} :
    ∀ (fuel n ref : Nat) (o : Offer μ), (replay env p f fuel n ref o).error = false →
      4 ≤ n + (replay env p f fuel n ref o).created.length := by
  intro fuel
  induction fuel with
  | zero => intro n ref o h; cases h
  | succ fuel ih =>
    intro n ref o h
    cases hvalid : f.valid n with
    | false =>
      rw [replay_invalid hvalid] at h
      cases h
    | true =>
      rcases hoffer : offerAll p env.modules (o.mark (f.tlvType n)) (f.tlv n ref)
        (coreType (f.tlvType n)) with ⟨o', _ | stored⟩
      · rw [replay_rejected hvalid hoffer] at h
        cases h
      · rw [replay_taken hvalid hoffer] at h ⊢
        by_cases hend : f.tlvType n = 0
        · -- the End TLV is not among the first three
          obtain ⟨head, hread⟩ := Option.isSome_iff_exists.mp hvalid
          have htype := (readTlv_type hread).1
          rw [readTlv_eq_some hread] at htype
          have hn : ¬n + 1 ≤ 3 := fun hle => by
            have := htype hle
            rw [show f.word (f.offsetOf n) / 512 = f.tlvType n from rfl, hend] at this
            omega
          rw [if_pos hend]
          show 4 ≤ n + 1
          omega
        · rw [if_neg hend] at h ⊢
          have hrest := ih (n + 1) (ref + 1) o' h
          rw [Outcome.cons_created, List.length_cons]
          omega

theorem outcome_created_of_ok {c : Ctx μ}
    (h : (c.outcome env f).error = false) : 4 ≤ (c.outcome env f).created.length := by
  have hle := replay_created_of_ok _ 0 _ _ h
  rwa [Nat.zero_add] at hle

theorem outcome_of_invalid (env : Env μ) {c : Ctx μ} (h : f.valid 0 = false) :
    (c.outcome env f).created = [] := by
  rw [Ctx.outcome, tlvFuel, replay_invalid h]
  rfl

theorem outcome_of_valid (env : Env μ) {c : Ctx μ} (h : f.valid 0 = true) :
    1 ≤ (c.outcome env f).created.length := by
  rw [Ctx.outcome, tlvFuel]
  rcases hoffer : offerAll c.port env.modules (c.offer.mark (f.tlvType 0))
    (f.tlv 0 c.tlvs.created) (coreType (f.tlvType 0)) with ⟨o', _ | stored⟩
  · rw [replay_rejected h hoffer]
    exact Nat.le_refl 1
  · rw [replay_taken h hoffer]
    split_ifs
    · exact Nat.le_refl 1
    · rw [Outcome.cons_created, List.length_cons]
      omega

theorem takesTtl_of_empty {s : AdminStatus} {b : Neighbour} (h : b.msap = {}) :
    TakesTtl s f b ↔ b.tooManyNghbrs = false := by
  have h₁ : (Neighbour.seeChassisId f.chassisId (b, {})).1.msap.msap2 = none ∧
      (Neighbour.seeChassisId f.chassisId (b, {})).1.tooManyNghbrs = b.tooManyNghbrs ∧
      (Neighbour.seeChassisId f.chassisId (b, {})).2.good = false := by
    unfold Neighbour.seeChassisId
    simp [h]
  have h₂ : (see s f b 2).1.tooManyNghbrs = b.tooManyNghbrs ∧
      (see s f b 2).2.good = false := by
    unfold see Neighbour.seePortId
    simp [h₁]
  simp [TakesTtl, h₂]

theorem heard_ttl_of_empty {c : Ctx μ} (h : c.agent.msap = {}) :
    (c.heard env f).rxTTL = ttlLeft env c f := by
  have hiff := takesTtl_of_empty (s := c.agent.adminStatus) (f := f) (b := c.agent.neighbour) h
  rw [Ctx.heard, (see_ttl _).1, ttlLeft]
  exact if_congr (and_congr_right' hiff) rfl rfl

theorem heard_msap_of_empty {c : Ctx μ} (h : c.agent.msap = {})
    (hlen : 2 ≤ (c.outcome env f).created.length) : (c.heard env f).msap = f.identity := by
  rw [Ctx.heard, see_msap_of_empty (b := c.agent.neighbour) h]
  obtain ⟨k, hk⟩ := Nat.exists_eq_add_of_le' hlen
  rw [hk]
  rfl

/-! ### Every turn -/

/-- A frame that is processed keeps the agent identified, unless it is one in error that is
recorded. -/
theorem received_identified {c c' : Ctx μ}
    (hr : Receives c.port c.agent) (hi : Identified c.agent) (hbad : ¬RecordsBad env c f)
    (h : Received env f c c') : Identified c'.agent := by
  by_cases httl : (c.heard env f).rxTTL = 0
  · have hempty : c'.agent.msap = {} := by rw [h.msap, if_pos httl]
    exact ⟨.inl hempty, fun hne => absurd hempty hne⟩
  · refine ⟨?_, fun _ => .inl (by rw [h.rxTTL]; exact httl)⟩
    rw [h.msap, if_neg httl, h.processed]
    rcases hi.atomic with hempty | ⟨g, hg, hid⟩
    · -- the frame is the first one
      by_cases hvalid : f.valid 0 = true
      · cases herr : (c.outcome env f).error with
        | false =>
          have hlen := outcome_created_of_ok herr
          exact .inr ⟨f, by simp, heard_msap_of_empty hempty (by omega)⟩
        | true =>
          -- the identity is recorded, so an accepted frame must have announced it
          rw [heard_ttl_of_empty hempty] at httl
          obtain ⟨hlen, ⟨g, ok⟩, hg, rfl, hid⟩ : KnownIdentity env c f :=
            Classical.not_not.mp fun hnew => hbad ⟨hr, hempty, hvalid, herr, httl, hnew⟩
          exact .inr ⟨g, List.mem_cons_of_mem _ hg,
            (heard_msap_of_empty hempty hlen).trans hid.symm⟩
      · have hnone := outcome_of_invalid env (c := c) (Bool.eq_false_iff.mpr hvalid)
        left
        rw [Ctx.heard, hnone]
        exact hempty
    · -- somebody is on record already
      have hsame : (c.heard env f).msap = c.agent.msap :=
        see_msap_of_full (x := g.chassisId) (y := g.portId) (congrArg Msap.msap1 hid)
          (congrArg Msap.msap2 hid) _
      exact .inr ⟨g, List.mem_cons_of_mem _ hg, hsame.trans hid⟩

theorem agentHandle_identified (ev : AgentEvent) (c c' : Ctx μ)
    (hkeep : KeepsIdentity env ev c) (hs : AgentSound c.agent) (hi : Identified c.agent)
    (h : agentHandle env ev c = .ok c') : Identified c'.agent := by
  cases turn_kind hs.toAgentAtRest hs.barred h with
  | received hr hf => exact received_identified hr hi hkeep hf
  | repeated hc =>
    subst hc
    refine ⟨hi.atomic, fun hne => ?_⟩
    rcases hi.alive hne with httl | hage
    · -- the time to live that was loaded last is not smaller
      have hle := hs.ttl
      exact .inl (by show c.agent.timers.lastrxTTL ≠ 0; omega)
    · exact .inr hage
  | idled hidle =>
    have hdrop : ¬DropsAged ev c := by
      cases ev <;> first | exact hkeep | exact id
    refine ⟨?_, fun hne => hidle.alive hdrop hne (hi.alive ?_)⟩
    · rw [hidle.subsides.processed]
      rcases hidle.subsides.record with hsame | hempty
      · rw [hsame]
        exact hi.atomic
      · exact .inl hempty
    · rcases hidle.subsides.record with hsame | hempty
      · rwa [← hsame]
      · exact absurd hempty hne

theorem not_identified_of_recordsBad {c c' : Ctx μ}
    (hbad : RecordsBad env c f) (h : Received env f c c') : ¬Identified c'.agent := by
  obtain ⟨-, hempty, hvalid, herr, httl, hnew⟩ := hbad
  intro hi
  rw [← heard_ttl_of_empty hempty] at httl
  have hmsap : c'.agent.msap = (c.heard env f).msap := by rw [h.msap, if_neg httl]
  have hrec := see_msap_of_empty (s := c.agent.adminStatus) (f := f) (b := c.agent.neighbour)
    hempty (c.outcome env f).created.length
  have hfirst := outcome_of_valid env (c := c) hvalid
  rcases hi.atomic with hnone | ⟨g, hg, hid⟩
  · rw [hmsap, Ctx.heard, hrec] at hnone
    split at hnone
    · omega
    · exact absurd (congrArg Msap.msap1 hnone) (Option.some_ne_none _)
    · exact absurd (congrArg Msap.msap1 hnone) (Option.some_ne_none _)
  · rw [h.processed, herr] at hg
    have hg' : (g, true) ∈ c.agent.history.processed := by simpa using hg
    by_cases hlen : 2 ≤ (c.outcome env f).created.length
    · rw [hmsap, heard_msap_of_empty hempty hlen] at hid
      exact hnew ⟨hlen, (g, true), hg', rfl, hid.symm⟩
    · -- half an identity is not that of any frame
      rw [hmsap, Ctx.heard, hrec, show (c.outcome env f).created.length = 1 by omega] at hid
      exact absurd (congrArg Msap.msap2 hid).symm (Option.some_ne_none _)

/-- The condition is exact for the link: an age-out that is dropped leaves the record for
ever. -/
theorem not_identified_of_dropsAged {c c' : Ctx μ} {enable : Bool}
    (hrest : AgentAtRest c.agent) (hdown : c.port.portEnabled = enable)
    (hdrop : DropsAged (.portEnable enable) c)
    (h : agentHandle env (.portEnable enable) c = .ok c') : ¬Identified c'.agent := by
  cases enable with
  | true => exact absurd hdrop id
  | false =>
    obtain ⟨hne, httl, hnot⟩ := hdrop
    obtain ⟨d, htx, hrx⟩ := bind_eq_ok.mp h
    have hdelay : c.agent.timers.reinitDelay ≠ 0 := by
      rw [hrest.reinitDelay]
      decide
    have hkeep := runTxSm_keeps htx
    have hsame := hkeep.sameRxSide
    have hmsap := (runTxSm_record_of_not (c := { c with agent := dropInfoAge c.agent })
      hnot hdelay htx).1
    have hage : d.agent.rx.rxInfoAge = false := by
      rw [hsame.rx]
      rfl
    rw [runRxSm_down hage (hkeep.portEnabled.trans hdown)] at hrx
    cases hrx
    intro hi
    have hne' : d.agent.msap ≠ {} := by
      rw [hmsap]
      exact hne
    rcases hi.alive hne' with httl' | hage'
    · exact httl' (hsame.rxTTL.trans httl)
    · exact absurd hage' (by simp [LldpAgent.withRxState, hage])

/-- The condition is exact: from an identified agent, a turn that breaks it leaves one that
is not identified. -/
theorem agentHandle_identified_iff {ev : AgentEvent} {c c' : Ctx μ}
    (hs : AgentSound c.agent) (hi : Identified c.agent)
    (hlink : ∀ enable, ev = .portEnable enable → c.port.portEnabled = enable)
    (h : agentHandle env ev c = .ok c') : Identified c'.agent ↔ KeepsIdentity env ev c := by
  refine ⟨fun hi' => ?_, fun hkeep => agentHandle_identified ev c c' hkeep hs hi h⟩
  cases ev with
  | accept f =>
    intro hbad
    exact not_identified_of_recordsBad hbad (accept_received hbad.1 h) hi'
  | portEnable enable =>
    intro hdrop
    exact not_identified_of_dropsAged hs.toAgentAtRest (hlink enable rfl) hdrop h hi'
  | tick | setAdmin | reinit | repeated | localChange | updateTtl => exact id

theorem lldpInitAgent_identified (env : Env μ) (w : World μ) (type : AgentType) :
    Identified (lldpInitAgent env w type).agent :=
  ⟨.inl rfl, fun hne => absurd rfl hne⟩

/-- In a run in which no turn records a frame in error or drops a pending age-out, every
agent's record is that of one accepted frame and will not be kept for ever. -/
theorem identified_of_guarded (env : Env μ) {s : PortState μ}
    (h : (lldpSystem env).ReachableWhere (TurnsMeet env (KeepsIdentity env)) s) :
    ∀ a ∈ s.agents, Identified a := by
  have hboth : ∀ a ∈ s.agents, AgentSound a ∧ Identified a := by
    refine agents_invariant (P := fun a => AgentSound a ∧ Identified a) ?_ ?_ h
    · exact fun w type => ⟨lldpInitAgent_sound env w type, lldpInitAgent_identified env w type⟩
    · exact fun ev c c' hkeep hs hstep => ⟨agentHandle_sound ev c c' hs.1 hstep,
        agentHandle_identified ev c c' hkeep hs.1 hs.2 hstep⟩
  exact fun a ha => (hboth a ha).2

/-! ### A record that no accepted frame announced -/

/-- A frame to the nearest bridge from station `src`, with the given TLVs. -/
def stationFrame (src : UInt8) (tlvs : Bytes) : Frame where
  bytes := [0x01, 0x80, 0xc2, 0x00, 0x00, 0x0e, 0x02, 0x00, 0x00, 0x00, 0x00, src, 0x88, 0xcc]
    ++ tlvs.take ethDataLen
  past := []
  bytes_le := by
    rw [List.length_append, List.length_take]
    exact Nat.le_trans (Nat.add_le_add_left (Nat.min_le_left ..) 14) (by decide)

/-- The first three TLVs of station `src`: chassis `src`, port 1 and the given TTL. -/
def stationTlvs (src ttl : UInt8) : Bytes :=
  [0x02, 0x02, 0x07, src, 0x04, 0x02, 0x07, 0x01, 0x06, 0x02, 0x00, ttl]

/-- A frame of station 5 without an error, TTL 120. -/
def goodFrame : Frame := stationFrame 5 (stationTlvs 5 120 ++ [0x00, 0x00])

/-- A frame of station 5 with a second chassis ID behind the TTL. -/
def badFrame : Frame := stationFrame 5 (stationTlvs 5 120 ++ [0x02, 0x02, 0x07, 0x05])

/-- A port whose agent waits for frames. -/
def portUp : List (Event Unit) := [.addAgent .nearestBridge, .portEnable true, .tick]

theorem badFrame_run :
    ∃ s a, (lldpSystem stationEnv).run stationPort (portUp ++ [.frame badFrame]) = .ok s ∧
      s.agents = [a] ∧ a.msap = badFrame.identity ∧ a.history.processed = [(badFrame, false)] :=
  ⟨_, _, rfl, rfl, rfl, rfl⟩

/-- The turn in which the agent processes it -/
theorem badFrame_turn :
    ∃ s a c', (lldpSystem stationEnv).run stationPort portUp = .ok s ∧ s.agents = [a] ∧
      agentHandle stationEnv (.accept badFrame) { s.toWorld with agent := a } = .ok c' ∧
      (Identified c'.agent ↔
        KeepsIdentity stationEnv (.accept badFrame) { s.toWorld with agent := a }) := by
  obtain ⟨s, a, c', hrun, hagents, hmsap, hturn⟩ : ∃ s a c',
      (lldpSystem stationEnv).run stationPort portUp = .ok s ∧ s.agents = [a] ∧ a.msap = {} ∧
        agentHandle stationEnv (.accept badFrame) { s.toWorld with agent := a } = .ok c' :=
    ⟨_, _, _, rfl, rfl, rfl, rfl⟩
  have hs : AgentSound a :=
    agentSound_of_reachable ⟨stationPort, portUp, ⟨rfl, rfl⟩, hrun⟩ a (by simp [hagents])
  have hi : Identified a := ⟨.inl hmsap, fun hne => absurd hmsap hne⟩
  exact ⟨s, a, c', hrun, hagents, hturn, agentHandle_identified_iff hs hi nofun hturn⟩

/-- Not every agent's record is that of one accepted frame. -/
theorem not_identified :
    ¬ ∀ s, (lldpSystem stationEnv).Reachable s → ∀ a ∈ s.agents, Identified a := by
  intro hall
  obtain ⟨s, a, hrun, hagents, hmsap, hprocessed⟩ := badFrame_run
  have hi := hall s ⟨stationPort, _, ⟨rfl, rfl⟩, hrun⟩ a (by simp [hagents])
  rcases hi.atomic with hempty | ⟨f, hf, -⟩
  · rw [hmsap] at hempty
    exact absurd (congrArg Msap.msap1 hempty) nofun
  · rw [hprocessed] at hf
    simp at hf

theorem portUp_keeps {e : Event Unit} (he : e ∈ portUp) (s : PortState Unit) :
    TurnsMeet stationEnv (KeepsIdentity stationEnv) s e := by
  intro ev c hturn
  simp only [portUp, List.mem_cons, List.not_mem_nil, or_false] at he
  rcases he with rfl | rfl | rfl
  · cases hturn
  · cases hturn with
    | portEnable h => exact id
  · cases hturn with
    | tick h => exact id

/-- The frame without an error is recorded, and the agent is identified. -/
theorem goodFrame_identified :
    ∃ s a, (lldpSystem stationEnv).run stationPort (portUp ++ [.frame goodFrame]) = .ok s ∧
      s.agents = [a] ∧ a.msap = goodFrame.identity ∧ ∀ a ∈ s.agents, Identified a := by
  obtain ⟨s, a, t, b, hrun, hagents, herr, hstep, hagents', hmsap⟩ : ∃ s a t b,
      (lldpSystem stationEnv).run stationPort portUp = .ok s ∧ s.agents = [a] ∧
        (Ctx.outcome stationEnv { s.toWorld with agent := a } goodFrame).error = false ∧
        lldpStep stationEnv s (.frame goodFrame) = .ok t ∧ t.agents = [b] ∧
        b.msap = goodFrame.identity :=
    ⟨_, _, _, _, rfl, rfl, rfl, rfl, rfl, rfl⟩
  have hcond : TurnsMeet stationEnv (KeepsIdentity stationEnv) s (.frame goodFrame) := by
    intro ev c hturn
    cases hturn with
    | frame hsize hrecv =>
      obtain ⟨ha, rfl | rfl⟩ := receiver_eq_some hrecv
      · intro hbad
        rw [hagents, List.mem_singleton] at ha
        rw [ha] at hbad
        exact absurd hbad.2.2.2.1 (by rw [herr]; decide)
      · exact id
  have hreach := (System.runWhere_of_forall (fun e he s => portUp_keeps he s) hrun).snoc hcond hstep
  exact ⟨t, b, hreach.run_eq, hagents', hmsap,
    identified_of_guarded stationEnv ⟨stationPort, _, ⟨rfl, rfl⟩, hreach⟩⟩

end Lldpad.Lldp
