import Lldpad.Proofs.Lldp.Identity

/-!
# `Lldpad.Proofs.Lldp.Refresh`: who keeps the record of a neighbour alive

`rxReceiveFrame` does not process a copy of the frame that was received last. It loads the
time to live that was loaded last, whoever sent that frame and whatever became of it.

* `RefreshOk`: the short cut loads the time to live for the recorded neighbour, and it
  leaves the timers and the error counters as processing the frame would.
* `refresh_iff`: it does so if and only if the neighbour on record sent the frame, the
  administrator lets the agent receive, and the time to live that was loaded last is the
  one that processing would leave.
* `onlyTracked_of_guarded`: in a run all of whose short cuts are of this kind, only the
  recorded neighbour's frames load the time to live.
-/

namespace Lldpad.Lldp

open Lldpad.Lib

variable {μ : Type}

/-! ### The property -/

/-- The time to live was loaded for a frame that the administrator lets the agent receive,
from the neighbour on record. -/
def LoadOk (l : TtlLoad) : Prop :=
  l.adminStatus.allowsRx = true ∧ l.msap = l.frame.identity

/-- The time to live was only ever loaded for the neighbour on record. -/
def OnlyTracked (a : LldpAgent) : Prop := ∀ l ∈ a.history.loads, LoadOk l

/-- The timers of the receive side and the error counters are the same. -/
def SameTiming (a b : LldpAgent) : Prop :=
  b.timers.rxTTL = a.timers.rxTTL ∧ b.timers.lastrxTTL = a.timers.lastrxTTL ∧
    b.timers.tooManyNghbrsTimer = a.timers.tooManyNghbrsTimer ∧
    b.stats.statsFramesInErrorsTotal = a.stats.statsFramesInErrorsTotal ∧
    b.stats.statsFramesDiscardedTotal = a.stats.statsFramesDiscardedTotal

/-- The short cut for frame `f` loads the time to live for the neighbour on record, and it
leaves what processing the frame would leave. -/
def RefreshOk (env : Env μ) (f : Frame) (c : Ctx μ) : Prop :=
  LoadOk { frame := f, adminStatus := c.agent.adminStatus, msap := c.agent.msap } ∧
    ∃ c', rxAcceptFrame env f c = .ok c' ∧ SameTiming c'.agent (rxRepeatFrame f c.agent)

/-! ### What goes wrong -/

/-- The condition on the state in which the short cut is taken. While the agent does not
process frames the time to live must be the one that was loaded last. -/
def RefreshMeets (env : Env μ) (f : Frame) (c : Ctx μ) : Prop :=
  c.agent.adminStatus.allowsRx = true ∧ c.agent.msap = f.identity ∧
    if c.port.portEnabled = true ∧ c.agent.rx.state = .rxWaitForFrame then
      c.agent.rx.rxInfoAge = false ∧ (c.outcome env f).error = false ∧
        c.agent.timers.lastrxTTL = f.ttl
    else c.agent.timers.rxTTL = c.agent.timers.lastrxTTL

/-- A frame with another chassis ID completes a record of which only the chassis ID is
there. -/
def CompletesForeign (env : Env μ) (f : Frame) (c : Ctx μ) : Prop :=
  Receives c.port c.agent ∧ 3 ≤ (c.outcome env f).created.length ∧
    c.agent.rx.tooManyNghbrs = false ∧ c.agent.msap.msap2 = none ∧
    c.agent.msap.msap1 ≠ none ∧ c.agent.msap.msap1 ≠ some f.chassisId

/-- The turn loads the time to live for the neighbour on record, if it loads it. -/
def KeepsTracked (env : Env μ) : AgentEvent → Ctx μ → Prop
  | .accept f, c => ¬CompletesForeign env f c
  | .repeated f, c => RefreshMeets env f c
  | _, _ => True

/-! ### Processing the frame instead -/

variable {env : Env μ} {f : Frame}

/-- The frame of the neighbour on record, without error: its time to live is loaded and
nothing else happens to the timers. -/
theorem received_of_identity {c c' : Ctx μ}
    (hs : AgentSound c.agent) (hid : c.agent.msap = f.identity)
    (hok : (c.outcome env f).error = false) (h : Received env f c c') :
    c'.agent.timers.rxTTL = f.ttl ∧ c'.agent.timers.lastrxTTL = f.ttl ∧
      c'.agent.timers.tooManyNghbrsTimer = c.agent.timers.tooManyNghbrsTimer := by
  obtain ⟨htwo, htakes⟩ := see_same (s := c.agent.adminStatus) (f := f) (b := c.agent.neighbour)
    hs.msap (congrArg Msap.msap1 hid) (congrArg Msap.msap2 hid) rfl rfl
  obtain ⟨k, hk⟩ := Nat.exists_eq_add_of_le'
    (Nat.le_trans (by decide : 3 ≤ 4) (outcome_created_of_ok hok))
  rw [h.rxTTL, h.lastrxTTL, h.tooManyNghbrsTimer, Ctx.heard, hk, see_three, if_pos htakes, htwo]
  exact ⟨rfl, rfl, rfl⟩

/-- A frame that arrives while an age-out is pending stops the program. -/
theorem rxAcceptFrame_aged {c : Ctx μ} (h : AgePending c.port c.agent) (c' : Ctx μ) :
    rxAcceptFrame env f c ≠ .ok c' := by
  rw [rxAcceptFrame_eq h.2.2.1, ← Reentry.runRxSm_quiet]
  rw [runRxSm_aged env.quiet (c := { c with agent := c.agent.arrived f }) h rfl]
  nofun

/-- An agent that the administrator lets receive, at rest, with no use for the frame: it
keeps its timers and counts no error. -/
theorem accept_idle (env : Env μ) {c : Ctx μ} (hs : AgentSound c.agent) (hsize : f.size ≠ 0)
    (hadmin : c.agent.adminStatus.allowsRx = true)
    (hnot : ¬(c.port.portEnabled = true ∧ c.agent.rx.state = .rxWaitForFrame)) :
    ∃ c', rxAcceptFrame env f c = .ok c' ∧ c'.agent.timers = c.agent.timers ∧
      c'.agent.stats = (c.agent.arrived f).stats := by
  have hinit : c.agent.rx.state ≠ .rxLldpInitialize := by
    intro hst
    rw [(hs.barred hst).2] at hadmin
    cases hadmin
  have hstart : IdleStart c.port (c.agent.arrived f) :=
    ⟨hs.rxAtRest.state, fun hst => absurd hst hinit, fun hr => absurd ⟨hr.1, hr.2.2.1⟩ hnot⟩
  rw [rxAcceptFrame_eq hadmin]
  let d : Ctx μ := { c with agent := c.agent.arrived f }
  obtain ⟨c', hc'⟩ : ∃ c', runRxSm env d = .ok c' := by
    -- the one run that does not end needs an enabled port and a machine that waits
    rw [← Reentry.runRxSm_quiet]
    rcases runRxSm_ends env.quiet (c := d) (hs.txReady.congr rfl rfl) hs.rxAtRest.state
      (fun _ _ => ⟨f, rfl, hsize⟩) with ⟨c', hc', -⟩ | ⟨⟨⟨hup, hst, -⟩, -⟩, -⟩
    · exact ⟨c', hc'⟩
    · exact absurd ⟨hup, hst⟩ hnot
  obtain ⟨hidle, -⟩ := runRxSm_idle (c := d) hstart hc'
  exact ⟨c', hc', hidle.timers, hidle.stats⟩

/-! ### The short cut -/

/-- The agent that processes the frame: the short cut leaves the same if and only if the
frame is without error and its time to live is the one that was loaded last. -/
theorem sameTiming_of_receives {c : Ctx μ} (hs : AgentSound c.agent)
    (hsize : f.size ≠ 0) (hr : Receives c.port c.agent) (hid : c.agent.msap = f.identity) :
    (∃ c', rxAcceptFrame env f c = .ok c' ∧ SameTiming c'.agent (rxRepeatFrame f c.agent)) ↔
      (c.outcome env f).error = false ∧ c.agent.timers.lastrxTTL = f.ttl := by
  constructor
  · rintro ⟨c', hc', -, hlast, -, herrors, -⟩
    have hf := accept_received hr hc'
    have hok : (c.outcome env f).error = false := by
      rw [← Bool.not_eq_true]
      intro herr
      rw [hf.inErrors, herr, if_pos rfl] at herrors
      -- one more error was counted, and the counter has more than one value
      have hne : c.agent.stats.statsFramesInErrorsTotal + 1
        ≠ c.agent.stats.statsFramesInErrorsTotal := by simp
      exact hne herrors.symm
    exact ⟨hok, hlast.trans (received_of_identity hs hid hok hf).2.1⟩
  · rintro ⟨hok, hlast⟩
    obtain ⟨d, hd⟩ := rxProcessFrame_total env
      (c := { c with agent := (c.agent.arrived f).takesUp }) rfl hsize
    have hrun : rxAcceptFrame env f c = .ok (settle env d) := by
      rw [rxAcceptFrame_eq hr.2.1, runRxSm_frame hr, hd]
      rfl
    have hf := accept_received hr hrun
    obtain ⟨hrxTTL, hlast', htimer⟩ := received_of_identity hs hid hok hf
    refine ⟨_, hrun, ?_⟩
    unfold SameTiming
    rw [hrxTTL, hlast', htimer, hf.inErrors, hf.discarded, hok]
    exact ⟨hlast, hlast, rfl, (UInt32.add_zero _).symm, (UInt32.add_zero _).symm⟩

/-- In an agent that is at rest, the short cut for a frame is as good as processing the
frame if and only if the condition holds. -/
theorem refreshOk_of_sound {c : Ctx μ} (hs : AgentSound c.agent)
    (hsize : f.size ≠ 0) : RefreshOk env f c ↔ RefreshMeets env f c := by
  refine (and_congr_right fun hload => ?_).trans (and_assoc (a := _ = true))
  obtain ⟨hadmin, hid⟩ := hload
  by_cases hwait : c.port.portEnabled = true ∧ c.agent.rx.state = .rxWaitForFrame
  · rw [if_pos hwait]
    cases hage : c.agent.rx.rxInfoAge with
    | true =>
      refine ⟨?_, fun h => absurd h.1 nofun⟩
      rintro ⟨c', hc', -⟩
      exact absurd hc' (rxAcceptFrame_aged ⟨hwait.1, hwait.2, hadmin, hage⟩ c')
    | false =>
      refine (sameTiming_of_receives hs hsize ⟨hwait.1, hadmin, hwait.2, hage⟩ hid).trans ?_
      exact (and_iff_right rfl).symm
  · rw [if_neg hwait]
    obtain ⟨d, hd, htimers, hstats⟩ := accept_idle env hs hsize hadmin hwait
    constructor
    · rintro ⟨c', hc', hrxTTL, -⟩
      rw [hd] at hc'
      cases hc'
      rw [htimers] at hrxTTL
      exact hrxTTL.symm
    · intro httl
      refine ⟨d, hd, ?_⟩
      unfold SameTiming
      rw [htimers, hstats]
      exact ⟨httl.symm, rfl, rfl, rfl, rfl⟩

theorem see_loads {s : AdminStatus} {nb : Neighbour} (n : Nat) :
    (see s f nb n).1.loads = if 3 ≤ n ∧ TakesTtl s f nb then
      { frame := f, adminStatus := s, msap := (see s f nb 2).1.msap } :: nb.loads
    else nb.loads := by
  match n with
  | 0 => rfl
  | 1 =>
    rw [see, seeChassisId_same]
    rfl
  | 2 =>
    rw [see_two_same]
    rfl
  | n + 3 =>
    rw [see_three]
    by_cases htakes : TakesTtl s f nb
    · simp [htakes]
    · rw [if_neg htakes, see_two_same]
      simp [htakes]

/-! ### Runs -/

theorem see_half {s : AdminStatus} {b : Neighbour} (h₁ : b.msap.msap1 ≠ none)
    (h₂ : b.msap.msap2 = none) :
    (see s f b 2).1.msap.msap1 = b.msap.msap1 ∧
      (see s f b 2).1.msap.msap2 = some f.portId ∧
      (TakesTtl s f b ↔ b.tooManyNghbrs = false) := by
  obtain ⟨x, hx⟩ := Option.ne_none_iff_exists'.mp h₁
  obtain ⟨m, hone, hgood⟩ : ∃ m, Neighbour.seeChassisId f.chassisId (b, {}) = (b, m) ∧
      m.good = false := by
    unfold Neighbour.seeChassisId
    simp only [hx]
    split_ifs <;> exact ⟨_, rfl, rfl⟩
  have htwo : see s f b 2 = Neighbour.seePortId f.portId (b, m) := by
    rw [← hone]
    rfl
  unfold TakesTtl
  rw [htwo]
  unfold Neighbour.seePortId
  simp [h₂, hgood]

/-- A load that processing a frame makes is for the neighbour on record, unless the frame
completes a record of another chassis ID. -/
theorem received_loads {c c' : Ctx μ} (hs : AgentSound c.agent)
    (hr : Receives c.port c.agent) (hnot : ¬CompletesForeign env f c)
    (htrack : OnlyTracked c.agent) (h : Received env f c c') : OnlyTracked c'.agent := by
  unfold OnlyTracked
  rw [h.loads, Ctx.heard, see_loads]
  split_ifs with hload
  · obtain ⟨hlen, htakes⟩ := hload
    intro l hl
    rcases List.mem_cons.mp hl with rfl | hl
    · refine ⟨hr.2.1, ?_⟩
      have hwf := see_wf (s := c.agent.adminStatus) (f := f) (b := c.agent.neighbour) hs.msap 2
      show (see c.agent.adminStatus f c.agent.neighbour 2).1.msap = f.identity
      cases h₁ : c.agent.msap.msap1 with
      | none =>
        -- the frame is recorded
        exact see_msap_of_empty (b := c.agent.neighbour) (hs.msap.empty h₁) 2
      | some x =>
        cases h₂ : c.agent.msap.msap2 with
        | none =>
          -- the frame completes the record
          have hsome : c.agent.msap.msap1 ≠ none := by
            rw [h₁]
            exact Option.some_ne_none x
          obtain ⟨hm₁, hm₂, hmany⟩ := see_half (s := c.agent.adminStatus) (f := f)
            (b := c.agent.neighbour) hsome h₂
          have hx : c.agent.msap.msap1 = some f.chassisId :=
            Classical.not_not.mp fun hne => hnot ⟨hr, hlen, hmany.mp htakes, h₂, hsome, hne⟩
          exact hwf.eq_identity (hm₁.trans hx) hm₂
        | some y =>
          -- somebody is on record, and the frame is his
          have hsame := see_msap_of_full (s := c.agent.adminStatus) (f := f)
            (b := c.agent.neighbour) h₁ h₂ 2
          by_cases hxy : f.chassisId = x ∧ f.portId = y
          · rw [hsame]
            exact hs.msap.eq_identity (by rw [h₁, hxy.1]) (by rw [h₂, hxy.2])
          · exact absurd (see_other (s := c.agent.adminStatus) (b := c.agent.neighbour) h₁ h₂ hxy)
              htakes
    · exact htrack l hl
  · exact htrack

/-- Every turn that meets the condition loads the time to live for the neighbour on record
only. -/
theorem agentHandle_onlyTracked (ev : AgentEvent) (c c' : Ctx μ)
    (hkeep : KeepsTracked env ev c) (hs : AgentSound c.agent) (htrack : OnlyTracked c.agent)
    (h : agentHandle env ev c = .ok c') : OnlyTracked c'.agent := by
  cases turn_kind hs.toAgentAtRest hs.barred h with
  | idled hidle =>
    unfold OnlyTracked
    rw [hidle.subsides.loads]
    exact htrack
  | received hr hf => exact received_loads hs hr hkeep htrack hf
  | repeated hc =>
    subst hc
    intro l hl
    rcases List.mem_cons.mp hl with rfl | hl
    · exact ⟨hkeep.1, hkeep.2.1⟩
    · exact htrack l hl

/-- In a run all of whose turns meet the condition, the time to live is loaded for the
neighbour on record only. -/
theorem onlyTracked_of_guarded {s : PortState μ}
    (h : (lldpSystem env).ReachableWhere (TurnsMeet env (KeepsTracked env)) s) :
    ∀ a ∈ s.agents, AgentSound a ∧ OnlyTracked a := by
  refine agents_invariant (P := fun a => AgentSound a ∧ OnlyTracked a) ?_ ?_ h
  · intro w type
    refine ⟨lldpInitAgent_sound env w type, ?_⟩
    have hhistory := (rxInitializeLLDP_agent env { w with
      agent := { type := type, adminStatus := (env.adminConfig type).getD .disabled } }).1
    have hloads := congrArg RxHistory.loads hhistory
    intro l hl
    rw [show (lldpInitAgent env w type).agent.history.loads = _ from hloads] at hl
    cases hl
  · exact fun ev c c' hkeep hs hstep => ⟨agentHandle_sound ev c c' hs.1 hstep,
      agentHandle_onlyTracked ev c c' hkeep hs.1 hs.2 hstep⟩

/-- In every reachable state the short cut is as good as processing the frame if and only
if the condition holds, and in a run all of whose turns meet the condition the time to live
is loaded for the neighbour on record only. -/
theorem refresh_iff (env : Env μ) :
    (∀ s, (lldpSystem env).Reachable s → ∀ f a, f.size ≠ 0 →
      receiver f s.agents = some (.repeated f, a) →
        (RefreshOk env f { s.toWorld with agent := a } ↔
          RefreshMeets env f { s.toWorld with agent := a })) ∧
    ∀ s, (lldpSystem env).ReachableWhere (TurnsMeet env (KeepsTracked env)) s →
      ∀ a ∈ s.agents, OnlyTracked a := by
  refine ⟨fun s h f a hsize hrecv => ?_, fun s h a ha => (onlyTracked_of_guarded h a ha).2⟩
  have ha := (receiver_eq_some hrecv).1
  exact refreshOk_of_sound (c := { s.toWorld with agent := a })
    (agentSound_of_reachable h a ha) hsize

/-! ### A short cut for somebody else -/

/-- A frame of the second station, number 6. -/
def secondFrame : Frame := stationFrame 6 (stationTlvs 6 120 ++ [0x00, 0x00])

/-- Two stations send, and a tick passes. -/
def twoStations : List (Event Unit) := portUp ++ [.frame goodFrame, .frame secondFrame, .tick]

/-- The frame of the second station is the stored one, the first station is on record. Once
more the frame of the second station comes in. -/
theorem twoStations_run :
    ∃ s a c' t b l, (lldpSystem stationEnv).run stationPort twoStations = .ok s ∧
      s.agents = [a] ∧ a.holdsFrame secondFrame = true ∧ a.timers.lastrxTTL = 120 ∧
      rxAcceptFrame stationEnv secondFrame { s.toWorld with agent := a } = .ok c' ∧
      c'.agent.timers.rxTTL = 119 ∧
      lldpStep stationEnv s (.frame secondFrame) = .ok t ∧ t.agents = [b] ∧
      b.history.loads.head? = some l ∧ l.frame = secondFrame ∧ l.msap = goodFrame.identity :=
  ⟨_, _, _, _, _, _, rfl, rfl, rfl, rfl, rfl, rfl, rfl, rfl, rfl, rfl, rfl⟩

/-- The time to live is not only loaded for the neighbour on record, and the short cut is
not always as good as processing the frame. -/
theorem not_refresh :
    (¬ ∀ s, (lldpSystem stationEnv).Reachable s → ∀ a ∈ s.agents, OnlyTracked a) ∧
    ¬ ∀ s, (lldpSystem stationEnv).Reachable s → ∀ f a, f.size ≠ 0 →
      receiver f s.agents = some (.repeated f, a) →
        RefreshOk stationEnv f { s.toWorld with agent := a } := by
  obtain ⟨s, a, c', t, b, l, hrun, hagents, hholds, hlast, hfull, hrxTTL, hstep, hagents', hload,
    hframe, hmsap⟩ := twoStations_run
  have hreach : (lldpSystem stationEnv).Reachable s := ⟨stationPort, _, ⟨rfl, rfl⟩, hrun⟩
  constructor
  · intro hall
    have hl : l ∈ b.history.loads := List.mem_of_head? hload
    have hok := (hall t (hreach.step (e := .frame secondFrame) hstep) b (by simp [hagents']) l hl).2
    rw [hframe, hmsap] at hok
    exact absurd (congrArg Msap.msap1 hok) (by decide)
  · intro hall
    have hrecv : receiver secondFrame s.agents = some (.repeated secondFrame, a) := by
      rw [hagents, receiver, if_pos hholds]
    obtain ⟨-, d, hd, httl, -⟩ := hall s hreach secondFrame a (by decide) hrecv
    rw [hfull] at hd
    cases hd
    rw [hrxTTL] at httl
    exact absurd (hlast.symm.trans httl) (by decide)

/-- The only station repeats its frame, and the short cut does what it is for. -/
theorem oneStation_refresh :
    ∃ s a, (lldpSystem stationEnv).run stationPort (portUp ++ [.frame goodFrame, .tick]) = .ok s ∧
      s.agents = [a] ∧ a.timers.rxTTL = 119 ∧
      RefreshOk stationEnv goodFrame { s.toWorld with agent := a } := by
  obtain ⟨s, a, hrun, hagents, httl, hholds, hadmin, hid, hup, hstate, hage, herr, hlast⟩ : ∃ s a,
      (lldpSystem stationEnv).run stationPort (portUp ++ [.frame goodFrame, .tick]) = .ok s ∧
        s.agents = [a] ∧ a.timers.rxTTL = 119 ∧ a.holdsFrame goodFrame = true ∧
        a.adminStatus = .enabledRxTx ∧ a.msap = goodFrame.identity ∧
        s.port.portEnabled = true ∧ a.rx.state = .rxWaitForFrame ∧ a.rx.rxInfoAge = false ∧
        (Ctx.outcome stationEnv { s.toWorld with agent := a } goodFrame).error = false ∧
        a.timers.lastrxTTL = goodFrame.ttl :=
    ⟨_, _, rfl, rfl, rfl, rfl, rfl, rfl, rfl, rfl, rfl, rfl, rfl⟩
  refine ⟨s, a, hrun, hagents, httl, ?_⟩
  have hrecv : receiver goodFrame s.agents = some (.repeated goodFrame, a) := by
    rw [hagents, receiver, if_pos hholds]
  refine ((refresh_iff stationEnv).1 s ⟨stationPort, _, ⟨rfl, rfl⟩, hrun⟩ goodFrame a (by decide)
    hrecv).mpr ⟨?_, hid, ?_⟩
  · rw [show a.adminStatus = _ from hadmin]
    rfl
  · rw [if_pos ⟨hup, hstate⟩]
    exact ⟨hage, herr, hlast⟩

end Lldpad.Lldp
