import Lldpad.Proofs.Lldp.Idle
import Lldpad.Proofs.Lldp.Walk

/-!
# `Lldpad.Proofs.Lldp.Arrival`: the frame that an agent processes

* `runRxSm_frame`: the receive machine processes the frame and settles. It deletes the
  neighbour when no time to live is left, and it waits for the next frame.
* `Received`, `accept_received`: what the agent knows of its neighbours afterwards, by
  `see` and `replay`.
* `AgentSound`: what holds of every agent between two events, `agentSound_of_reachable`.
-/

namespace Lldpad.Lldp

open Lldpad.Lib

variable {μ : Type}

/-! ### The run of the receive machine -/

/-- The agent once frame `f` has arrived. -/
def LldpAgent.arrived (a : LldpAgent) (f : Frame) : LldpAgent :=
  { a with
    rx := { a.rx with framein := some f, rcvFrame := true }
    stats := { a.stats with statsFramesInTotal := a.stats.statsFramesInTotal + 1 } }

/-- The agent when `rxProcessFrame` starts on the frame. -/
def LldpAgent.takesUp (a : LldpAgent) : LldpAgent :=
  { a with
    rxChanges := false
    rx := { a.rx with state := .rxFrame, remoteChange := false, rcvFrame := false } }

/-- What the receive machine does once a frame was processed. -/
def settle (env : Env μ) (d : Ctx μ) : Ctx μ :=
  let e :=
    if d.agent.timers.rxTTL = 0 then
      processDeleteInfo env { d with agent := d.agent.withRxState .deleteInfo }
    else if d.agent.rxChanges then
      { d with agent := processUpdateInfo (d.agent.withRxState .updateInfo) }
    else d
  { e with agent := processWaitForFrame (e.agent.withRxState .rxWaitForFrame) }

variable {a : LldpAgent} {c : Ctx μ} {p : Port}

theorem nextRx_frame (hup : p.portEnabled = true) (hs : a.rx.state = .rxFrame) :
    nextRx p a = (if a.timers.rxTTL = 0 then (.deleteInfo, true)
      else if a.rxChanges then (.updateInfo, true) else (.rxWaitForFrame, true)) := by
  unfold nextRx
  simp [hup, hs]

theorem nextRx_back (hup : p.portEnabled = true)
    (hs : a.rx.state = .deleteInfo ∨ a.rx.state = .updateInfo) :
    nextRx p a = (.rxWaitForFrame, true) := by
  unfold nextRx
  rcases hs with hs | hs <;> simp [hup, hs]

theorem nextRx_wait (hup : p.portEnabled = true)
    (hadmin : a.adminStatus.allowsRx = true) (hs : a.rx.state = .rxWaitForFrame)
    (hage : a.rx.rxInfoAge = false) (hrcv : a.rx.rcvFrame = false) :
    nextRx p a = (.rxWaitForFrame, false) := by
  unfold nextRx
  simp [hup, hs, hadmin, hage, hrcv]

variable {env : Env μ}

theorem waits {e : Ctx μ} (hup : e.port.portEnabled = true)
    (hadmin : e.agent.adminStatus.allowsRx = true) (hrcv : e.agent.rx.rcvFrame = false)
    (fuel : Nat) :
    iterate (rxMachine env).round (fuel + 1)
        { e with agent := e.agent.withRxState .rxWaitForFrame }
      = .ok { e with agent := processWaitForFrame (e.agent.withRxState .rxWaitForFrame) } := by
  let a := processWaitForFrame (e.agent.withRxState .rxWaitForFrame)
  have hnext : nextRx e.port a = (.rxWaitForFrame, false) :=
    nextRx_wait hup hadmin rfl rfl hrcv
  refine Machine.iterate_round_final (t := { e with agent := a }) rfl ?_
  rw [rxMachine_move]
  show Except.ok ({ e with agent := a.withRxState (nextRx e.port a).1 }, (nextRx e.port a).2) = _
  rw [hnext]
  rfl

theorem settles (env : Env μ) {d : Ctx μ} (hup : d.port.portEnabled = true)
    (hadmin : d.agent.adminStatus.allowsRx = true) (hs : d.agent.rx.state = .rxFrame)
    (hrcv : d.agent.rx.rcvFrame = false) (fuel : Nat) :
    ∃ e, (rxMachine env).move d = .ok (e, true) ∧
      iterate (rxMachine env).round (fuel + 2) e = .ok (settle env d) := by
  have hmove := rxMachine_move env d
  have hgo : (nextRx d.port d.agent).2 = true := by
    rw [nextRx_frame hup hs]
    split_ifs <;> rfl
  rw [hgo] at hmove
  refine ⟨_, hmove, ?_⟩
  rw [nextRx_frame hup hs]
  unfold settle
  split_ifs with httl hchg
  · have hkeep := mibDeleteObjects_rxKeeps env { d with agent := d.agent.withRxState .deleteInfo }
    let e := processDeleteInfo env { d with agent := d.agent.withRxState .deleteInfo }
    have hport : e.port.portEnabled = true := by
      show (mibDeleteObjects env _).port.portEnabled = true
      rw [hkeep.port]
      exact hup
    have hstate : e.agent.rx.state = .deleteInfo := by
      show (mibDeleteObjects env _).agent.rx.state = _
      rw [mibDeleteObjects_rx]
      rfl
    have hadm : e.agent.adminStatus.allowsRx = true := by
      show (mibDeleteObjects env _).agent.adminStatus.allowsRx = true
      rw [mibDeleteObjects_adminStatus]
      exact hadmin
    have hfrm : e.agent.rx.rcvFrame = false := by
      show (mibDeleteObjects env _).agent.rx.rcvFrame = false
      rw [mibDeleteObjects_rx]
      exact hrcv
    refine (Machine.iterate_round_again (t := e) rfl ?_).trans (waits hport hadm hfrm fuel)
    rw [rxMachine_move, nextRx_back hport (.inl hstate)]
  · refine (Machine.iterate_round_again
      (t := { d with agent := processUpdateInfo (d.agent.withRxState .updateInfo) }) rfl ?_).trans
      (waits (e := { d with agent := processUpdateInfo (d.agent.withRxState .updateInfo) })
        hup hadmin hrcv fuel)
    rw [rxMachine_move, nextRx_back hup (.inr rfl)]
  · exact waits hup hadmin hrcv (fuel + 1)

theorem runRxSm_frame {f : Frame} (h : Receives c.port c.agent) :
    runRxSm env { c with agent := c.agent.arrived f }
      = rxProcessFrame env { c with agent := (c.agent.arrived f).takesUp } >>=
        fun d => .ok (settle env d) := by
  obtain ⟨hup, hadmin, hs, hage⟩ := h
  let s : Ctx μ := { c with agent := (c.agent.arrived f).withRxState .rxFrame }
  have hfirst : (rxMachine env).move { c with agent := c.agent.arrived f } = .ok (s, true) := by
    rw [rxMachine_move]
    have hnext : nextRx c.port (c.agent.arrived f) = (.rxFrame, true) := by
      unfold nextRx
      simp [LldpAgent.arrived, hup, hs, hage, hadmin]
    rw [hnext]
  have hact : (rxMachine env).act s
      = rxProcessFrame env { c with agent := (c.agent.arrived f).takesUp } := rfl
  show (rxMachine env).run smFuel _ = _
  rw [Machine.run, hfirst, bind_ok]
  cases hd : rxProcessFrame env { c with agent := (c.agent.arrived f).takesUp } with
  | error e =>
    show iterate (rxMachine env).round (63 + 1) s = .error e
    rw [iterate, Machine.round, hact, hd]
    rfl
  | ok d =>
    obtain ⟨hstate, -, hrcv, -⟩ := rxProcessFrame_rx hd
    have hkeep := rxProcessFrame_rxKeeps hd
    obtain ⟨e, he, hend⟩ := settles env (d := d) (by rw [hkeep.port]; exact hup)
      (by rw [hkeep.sameTxSide.adminStatus]; exact hadmin) hstate hrcv 61
    exact (Machine.iterate_round_again (hact.trans hd) he).trans hend

/-! ### What the agent knows afterwards -/

/-- What the agent knows of its neighbours once it went through frame `f`, before the
receive machine settles. -/
def Ctx.heard (env : Env μ) (c : Ctx μ) (f : Frame) : Neighbour :=
  (see c.agent.adminStatus f c.agent.neighbour (c.outcome env f).created.length).1

/-- A frame was processed and the receive machine settled. -/
structure Received (env : Env μ) (f : Frame) (c c' : Ctx μ) : Prop where
  msap : c'.agent.msap = if (c.heard env f).rxTTL = 0 then {} else (c.heard env f).msap
  remote : c'.agent.history.remote
    = if (c.heard env f).rxTTL = 0 then {} else (c.heard env f).remote
  tooManyNghbrs : c'.agent.rx.tooManyNghbrs = (c.heard env f).tooManyNghbrs
  tooManyNghbrsTimer : c'.agent.timers.tooManyNghbrsTimer = (c.heard env f).tooManyNghbrsTimer
  rxTTL : c'.agent.timers.rxTTL = (c.heard env f).rxTTL
  lastrxTTL : c'.agent.timers.lastrxTTL = (c.heard env f).lastrxTTL
  loads : c'.agent.history.loads = (c.heard env f).loads
  processed : c'.agent.history.processed
    = (f, !(c.outcome env f).error) :: c.agent.history.processed
  framesIn : c'.agent.stats.statsFramesInTotal = c.agent.stats.statsFramesInTotal + 1
  discarded : c'.agent.stats.statsFramesDiscardedTotal
    = c.agent.stats.statsFramesDiscardedTotal + if (c.outcome env f).error then 1 else 0
  inErrors : c'.agent.stats.statsFramesInErrorsTotal
    = c.agent.stats.statsFramesInErrorsTotal + if (c.outcome env f).error then 1 else 0
  state : c'.agent.rx.state = .rxWaitForFrame

/-- What settling leaves of the agent. -/
structure Settled (a b : LldpAgent) : Prop where
  record : b.msap = (if a.timers.rxTTL = 0 then {} else a.msap) ∧
    b.history.remote = if a.timers.rxTTL = 0 then {} else a.history.remote
  tooManyNghbrs : b.rx.tooManyNghbrs = a.rx.tooManyNghbrs
  timers : b.timers = a.timers
  stats : b.stats = a.stats
  loads : b.history.loads = a.history.loads
  processed : b.history.processed = a.history.processed
  state : b.rx.state = .rxWaitForFrame

theorem settle_settled (env : Env μ) (d : Ctx μ) : Settled d.agent (settle env d).agent := by
  unfold settle
  by_cases httl : d.agent.timers.rxTTL = 0
  · obtain ⟨b, hb⟩ := mibDeleteObjects_agent env { d with
      agent := d.agent.withRxState .deleteInfo }
    simp only [if_pos httl, processDeleteInfo, hb]
    exact ⟨by simp [httl, processWaitForFrame, LldpAgent.withRxState],
      by simp [processWaitForFrame, LldpAgent.withRxState], kick_timers _ b, kick_stats _ b,
      rfl, rfl, rfl⟩
  · simp only [if_neg httl]
    split_ifs <;> exact ⟨by simp [httl, processWaitForFrame, processUpdateInfo,
      LldpAgent.withRxState], rfl, rfl, rfl, rfl, rfl, rfl⟩

theorem rxAcceptFrame_eq {f : Frame} (h : c.agent.adminStatus.allowsRx = true) :
    rxAcceptFrame env f c = runRxSm env { c with agent := c.agent.arrived f } := by
  have hadmin : ¬(c.agent.adminStatus = .disabled ∨ c.agent.adminStatus = .enabledTxOnly) := by
    rw [← allowsRx_eq_false, Bool.not_eq_false]
    exact h
  unfold rxAcceptFrame
  rw [if_neg hadmin]
  rfl

theorem accept_received {f : Frame} {c' : Ctx μ} (hr : Receives c.port c.agent)
    (h : rxAcceptFrame env f c = .ok c') : Received env f c c' := by
  rw [rxAcceptFrame_eq hr.2.1, runRxSm_frame hr] at h
  obtain ⟨d, hd, h⟩ := bind_eq_ok.mp h
  cases h
  -- the walk does not see what the arrival changed
  have hspec : Processed { c with agent := (c.agent.arrived f).takesUp } f (c.outcome env f) d :=
    rxProcessFrame_spec rfl hd
  have hset := settle_settled env d
  have hnb : d.agent.neighbour = c.heard env f := hspec.neighbour
  have hrxTTL : d.agent.timers.rxTTL = (c.heard env f).rxTTL := congrArg Neighbour.rxTTL hnb
  have hmsap : d.agent.msap = (c.heard env f).msap := congrArg Neighbour.msap hnb
  have hremote : d.agent.history.remote = (c.heard env f).remote :=
    congrArg Neighbour.remote hnb
  have hrec := hset.record
  rw [hrxTTL, hmsap, hremote] at hrec
  exact
    { msap := hrec.1
      remote := hrec.2
      tooManyNghbrs := hset.tooManyNghbrs.trans (congrArg Neighbour.tooManyNghbrs hnb)
      tooManyNghbrsTimer := by
        rw [hset.timers]
        exact congrArg Neighbour.tooManyNghbrsTimer hnb
      rxTTL := by rw [hset.timers]; exact hrxTTL
      lastrxTTL := by rw [hset.timers]; exact congrArg Neighbour.lastrxTTL hnb
      loads := hset.loads.trans (congrArg Neighbour.loads hnb)
      processed := hset.processed.trans hspec.history
      framesIn := by rw [hset.stats]; exact hspec.framesIn
      discarded := by rw [hset.stats]; exact hspec.discarded
      inErrors := by rw [hset.stats]; exact hspec.inErrors
      state := hset.state }

/-! ### Every turn -/

/-- A turn takes up nothing, or it processes a frame, or it takes the short cut for a copy
of the stored frame. -/
inductive TurnKind (env : Env μ) (c c' : Ctx μ) : AgentEvent → Prop
  | idled {ev : AgentEvent} (h : Idled ev c c') : TurnKind env c c' ev
  | received {f : Frame} (hr : Receives c.port c.agent) (h : Received env f c c') :
      TurnKind env c c' (.accept f)
  | repeated {f : Frame} (h : c' = { c with agent := rxRepeatFrame f c.agent }) :
      TurnKind env c c' (.repeated f)

theorem turn_kind {ev : AgentEvent} {c' : Ctx μ} (hrest : AgentAtRest c.agent)
    (hbarred : Barred c.agent) (h : agentHandle env ev c = .ok c') : TurnKind env c c' ev := by
  by_cases hfree : FrameFree ev c
  · exact .idled (turn_idled hfree hrest hbarred h)
  · cases ev with
    | accept f =>
      have hr : Receives c.port c.agent := Decidable.not_not.mp hfree
      exact .received hr (accept_received hr h)
    | repeated f => exact .repeated (Except.ok.inj h).symm
    | tick | setAdmin | portEnable | reinit | localChange | updateTtl => exact absurd trivial hfree

/-- An identity on record: the second identifier comes with the first, and the lengths are
those of the identifiers. -/
structure Msap.Wf (m : Msap) : Prop where
  empty : m.msap1 = none → m = {}
  length1 : ∀ id, m.msap1 = some id → m.length1 = id.length
  length2 : ∀ id, m.msap2 = some id → m.length2 = id.length

theorem Msap.wf_empty : Msap.Wf {} := ⟨fun _ => rfl, nofun, nofun⟩

theorem seeChassisId_wf (id : Bytes) {x : Neighbour × Matches} (h : x.1.msap.Wf) :
    (Neighbour.seeChassisId id x).1.msap.Wf ∧
      (Neighbour.seeChassisId id x).1.msap.msap1 ≠ none := by
  obtain ⟨nb, m⟩ := x
  unfold Neighbour.seeChassisId
  cases hid : nb.msap.msap1 with
  | none =>
    have hempty := h.empty hid
    simp only [hid]
    exact ⟨⟨nofun, fun i hi => congrArg List.length (Option.some.inj hi),
      fun i hi => by rw [hempty] at hi; cases hi⟩, nofun⟩
  | some i =>
    simp only [hid]
    exact ⟨h, by simp⟩

theorem seePortId_wf (id : Bytes) {x : Neighbour × Matches} (h : x.1.msap.Wf)
    (hfirst : x.1.msap.msap1 ≠ none) : (Neighbour.seePortId id x).1.msap.Wf := by
  obtain ⟨nb, m⟩ := x
  unfold Neighbour.seePortId
  cases hid : nb.msap.msap2 with
  | none =>
    simp only [hid]
    exact ⟨fun hn => absurd hn hfirst, h.length1,
      fun i hi => congrArg List.length (Option.some.inj hi)⟩
  | some i =>
    simp only [hid]
    split_ifs <;> exact h

/-! ### What a frame says about the neighbours -/

theorem seeChassisId_same (id : Bytes) (x : Neighbour × Matches) :
    (Neighbour.seeChassisId id x).1 = { x.1 with
      msap := (Neighbour.seeChassisId id x).1.msap
      remote := (Neighbour.seeChassisId id x).1.remote } := by
  unfold Neighbour.seeChassisId
  dsimp only
  split <;> rfl

theorem seePortId_same (id : Bytes) (x : Neighbour × Matches) :
    (Neighbour.seePortId id x).1 = { x.1 with
      msap := (Neighbour.seePortId id x).1.msap
      remote := (Neighbour.seePortId id x).1.remote
      tooManyNghbrs := (Neighbour.seePortId id x).1.tooManyNghbrs } := by
  unfold Neighbour.seePortId
  dsimp only
  split
  · rfl
  · split_ifs <;> rfl

section

variable {s : AdminStatus} {f : Frame} {b : Neighbour}

/-- The time to live of frame `f` is loaded, once its walk gets there. -/
def TakesTtl (s : AdminStatus) (f : Frame) (b : Neighbour) : Prop :=
  ¬((see s f b 2).1.tooManyNghbrs = true ∧ (see s f b 2).2.good = false)

instance : Decidable (TakesTtl s f b) := inferInstanceAs (Decidable ¬_)

theorem see_two_same : (see s f b 2).1 = { b with
    msap := (see s f b 2).1.msap
    remote := (see s f b 2).1.remote
    tooManyNghbrs := (see s f b 2).1.tooManyNghbrs } := by
  have h₁ := seeChassisId_same f.chassisId (b, {})
  have h₂ := seePortId_same f.portId (Neighbour.seeChassisId f.chassisId (b, {}))
  rw [h₁] at h₂
  exact h₂

theorem see_three (n : Nat) : (see s f b (n + 3)).1 =
    if TakesTtl s f b then
      { (see s f b 2).1 with
        rxTTL := f.ttl
        lastrxTTL := f.ttl
        loads := { frame := f, adminStatus := s, msap := (see s f b 2).1.msap } :: b.loads }
    else
      { (see s f b 2).1 with
        tooManyNghbrsTimer := max f.ttl b.tooManyNghbrsTimer } := by
  have htimer : (see s f b 2).1.tooManyNghbrsTimer = b.tooManyNghbrsTimer := by
    rw [see_two_same]
  have hloads : (see s f b 2).1.loads = b.loads := by
    rw [see_two_same]
  show (Neighbour.seeTtl s f (see s f b 2)).1 = _
  unfold Neighbour.seeTtl TakesTtl
  by_cases hmany : (see s f b 2).1.tooManyNghbrs = true ∧ (see s f b 2).2.good = false
  · simp only [eq_true hmany, not_true_eq_false, if_true, if_false, htimer]
  · simp only [eq_false hmany, not_false_eq_true, if_true, if_false, hloads]

theorem see_msap_of_empty (h : b.msap = {}) (n : Nat) :
    (see s f b n).1.msap = match n with
      | 0 => {}
      | 1 => { length1 := f.chassisId.length, msap1 := some f.chassisId }
      | _ + 2 => { length1 := f.chassisId.length, msap1 := some f.chassisId
                   length2 := f.portId.length, msap2 := some f.portId } := by
  have h₁ : Neighbour.seeChassisId f.chassisId (b, {}) = ({ b with
      msap := { length1 := f.chassisId.length, msap1 := some f.chassisId }
      remote := (Neighbour.seeChassisId f.chassisId (b, {})).1.remote }, {}) := by
    unfold Neighbour.seeChassisId
    simp only [h]
  have h₂ : (see s f b 2).1.msap = { length1 := f.chassisId.length, msap1 := some f.chassisId
                                     length2 := f.portId.length, msap2 := some f.portId } := by
    show (Neighbour.seePortId f.portId (Neighbour.seeChassisId f.chassisId (b, {}))).1.msap = _
    rw [h₁]
    rfl
  match n with
  | 0 => exact h
  | 1 => exact congrArg (fun x => x.1.msap) h₁
  | 2 => exact h₂
  | n + 3 =>
    rw [see_three]
    split_ifs <;> exact h₂

variable {x y : Bytes}

theorem see_msap_of_full (h₁ : b.msap.msap1 = some x)
    (h₂ : b.msap.msap2 = some y) (n : Nat) : (see s f b n).1.msap = b.msap := by
  have hone : (Neighbour.seeChassisId f.chassisId (b, {})).1 = b := by
    unfold Neighbour.seeChassisId
    simp only [h₁]
  have htwo : (see s f b 2).1.msap = b.msap := by
    show (Neighbour.seePortId f.portId (Neighbour.seeChassisId f.chassisId (b, {}))).1.msap = _
    unfold Neighbour.seePortId
    simp only [hone, h₂]
    split_ifs <;> rfl
  match n with
  | 0 => rfl
  | 1 => exact congrArg Neighbour.msap hone
  | 2 => exact htwo
  | n + 3 =>
    rw [see_three]
    split_ifs <;> exact htwo

theorem see_other (h₁ : b.msap.msap1 = some x) (h₂ : b.msap.msap2 = some y)
    (hne : ¬(f.chassisId = x ∧ f.portId = y)) :
    (see s f b 2).1.tooManyNghbrs = true ∧ (see s f b 2).2.good = false := by
  have hone : Neighbour.seeChassisId f.chassisId (b, {})
      = (b, { compare1 := decide (f.chassisId.length = b.msap.length1 ∧ f.chassisId = x) }) := by
    unfold Neighbour.seeChassisId
    simp only [h₁]
    split_ifs with h
    · rw [decide_eq_true h]
    · rw [decide_eq_false h]
  show (Neighbour.seePortId f.portId (Neighbour.seeChassisId f.chassisId (b, {}))).1.tooManyNghbrs
      = true ∧ (Neighbour.seePortId f.portId (Neighbour.seeChassisId f.chassisId (b, {}))).2.good
      = false
  rw [hone]
  unfold Neighbour.seePortId
  simp only [h₂]
  split_ifs <;> simp_all

/-- The same neighbour is on record: the record and the flag stay, the time to live is
loaded. -/
theorem see_same (hwf : b.msap.Wf) (h₁ : b.msap.msap1 = some x)
    (h₂ : b.msap.msap2 = some y) (hx : f.chassisId = x) (hy : f.portId = y) :
    (see s f b 2).1 = b ∧ TakesTtl s f b := by
  have hone : Neighbour.seeChassisId f.chassisId (b, {}) = (b, { compare1 := true }) := by
    unfold Neighbour.seeChassisId
    simp only [h₁]
    rw [if_pos ⟨by rw [hwf.length1 x h₁, hx], hx⟩]
  have htwo : see s f b 2 = (b, { good := true }) := by
    show Neighbour.seePortId f.portId (Neighbour.seeChassisId f.chassisId (b, {})) = _
    rw [hone]
    unfold Neighbour.seePortId
    have hmatch : f.portId.length = b.msap.length2 ∧ f.portId = y :=
      ⟨by rw [hwf.length2 y h₂, hy], hy⟩
    simp only [h₂, if_pos hmatch, and_self, if_true]
  exact ⟨by rw [htwo], by simp [TakesTtl, htwo]⟩

theorem see_wf (h : b.msap.Wf) (n : Nat) : (see s f b n).1.msap.Wf := by
  obtain ⟨hone, hfirst⟩ := seeChassisId_wf f.chassisId (x := (b, {})) h
  have htwo := seePortId_wf f.portId hone hfirst
  match n with
  | 0 => exact h
  | 1 => exact hone
  | 2 => exact htwo
  | n + 3 =>
    rw [see_three]
    split_ifs <;> exact htwo

theorem see_ttl (n : Nat) :
    (see s f b n).1.rxTTL = (if 3 ≤ n ∧ TakesTtl s f b then f.ttl else b.rxTTL) ∧
      (see s f b n).1.lastrxTTL
        = (if 3 ≤ n ∧ TakesTtl s f b then f.ttl else b.lastrxTTL) := by
  match n with
  | 0 => exact ⟨rfl, rfl⟩
  | 1 =>
    rw [see, seeChassisId_same]
    exact ⟨rfl, rfl⟩
  | 2 =>
    rw [see_two_same]
    exact ⟨rfl, rfl⟩
  | n + 3 =>
    rw [see_three]
    by_cases htakes : TakesTtl s f b
    · simp [htakes]
    · rw [if_neg htakes, see_two_same]
      simp [htakes]

end

/-! ### Between two events -/

/-- What holds of an agent between two events: the machines are at rest, and the record is
well-formed. -/
structure AgentSound (a : LldpAgent) : Prop extends AgentAtRest a where
  barred : Barred a
  msap : a.msap.Wf
  ttl : a.timers.rxTTL ≤ a.timers.lastrxTTL

theorem lldpInitAgent_sound (env : Env μ) (w : World μ) (type : AgentType) :
    AgentSound (lldpInitAgent env w type).agent where
  toAgentAtRest := lldpInitAgent_atRest env w type
  barred := by
    intro hs
    have hstate := (rxInitializeLLDP_agent env { w with
      agent := { type := type, adminStatus := (env.adminConfig type).getD .disabled } }).2.2
    rw [show (lldpInitAgent env w type).agent.rx.state = _ from hstate] at hs
    cases hs
  msap := Msap.wf_empty
  ttl := by
    have htimers := (rxInitializeLLDP_agent env { w with
      agent := { type := type, adminStatus := (env.adminConfig type).getD .disabled } }).2.1
    show (rxInitializeLLDP env _).agent.timers.rxTTL ≤
        (rxInitializeLLDP env _).agent.timers.lastrxTTL
    exact Nat.le_of_eq (by rw [htimers])

theorem Subsides.wf {b : LldpAgent} (h : Subsides a b) (ha : a.msap.Wf) : b.msap.Wf := by
  rcases h.record with h' | h'
  · rw [h']
    exact ha
  · rw [h']
    exact Msap.wf_empty

theorem agentHandle_sound (ev : AgentEvent) (c c' : Ctx μ)
    (hs : AgentSound c.agent) (h : agentHandle env ev c = .ok c') : AgentSound c'.agent := by
  have hrest := agentHandle_atRest ev c c' hs.toAgentAtRest h
  cases turn_kind hs.toAgentAtRest hs.barred h with
  | idled hi =>
    refine ⟨hrest, hi.barred, hi.subsides.wf hs.msap, ?_⟩
    rw [hi.subsides.lastrxTTL]
    exact Nat.le_trans hi.subsides.rxTTL hs.ttl
  | received hr hf =>
    refine ⟨hrest, fun hinit => ?_, ?_, ?_⟩
    · rw [hf.state] at hinit
      cases hinit
    · rw [hf.msap]
      split_ifs
      · exact Msap.wf_empty
      · exact see_wf hs.msap _
    · obtain ⟨hrx, hlast⟩ := see_ttl (s := c.agent.adminStatus) (b := c.agent.neighbour)
        (c.outcome env _).created.length
      rw [hf.rxTTL, hf.lastrxTTL, Ctx.heard, hrx, hlast]
      split_ifs
      · exact Nat.le_refl _
      · exact hs.ttl
  | repeated hc =>
    subst hc
    exact ⟨hrest, hs.barred, hs.msap, Nat.le_refl _⟩

theorem agentSound_of_reachable {s : PortState μ}
    (h : (lldpSystem env).Reachable s) : ∀ a ∈ s.agents, AgentSound a :=
  agents_invariant_of_reachable (lldpInitAgent_sound env) agentHandle_sound h

end Lldpad.Lldp
