import Lldpad.Proofs.Lldp.Reentry

/-!
# `Lldpad.Proofs.Lldp.RxRun`: every run of the receive machine ends

The receive machine may hold a frame, and then its rank needs the flag `rcvFrame`: a frame is
taken up once (`rxFrameRank_move`). A hook may run both machines while the frame is processed.
That run finds no frame, so it ends too, and it leaves the outer run at rest (`InFrame`).

`rxProcessFrame` has an assertion of its own. It fails for a frame that arrives while an
age-out is pending, because the deletion drops the frame and leaves the flag
(`runRxSm_aged`). That is the only other way in which a run ends (`runRxSm_ends`).
-/

namespace Lldpad.Lldp

open Lldpad.Lib

variable {μ : Type}

/-! ### Between two events -/

/-- What holds of an agent between two events. -/
structure AgentAtRest (a : LldpAgent) : Prop where
  timersReady : TimersReady a
  reinitDelay : a.timers.reinitDelay = reinitDelayDefault
  rxAtRest : RxAtRest a
  shutdownWhile : a.tx.state = .txShutdownFrame → a.timers.txShutdownWhile ≠ 0

variable {a b : LldpAgent}

theorem RxAtRest.of_rx (h : RxAtRest a)
    (hstate : b.rx.state = a.rx.state) (hframe : b.rx.rcvFrame = a.rx.rcvFrame) :
    RxAtRest b :=
  ⟨by rw [hstate]; exact h.state, by rw [hstate, hframe]; exact h.noFrame⟩

theorem SameRxSide.rxAtRest (h : SameRxSide a b) (hr : RxAtRest a) :
    RxAtRest b :=
  hr.of_rx (by rw [h.rx]) (by rw [h.rx])

/-- The intervals of the timer machine and the delay of the shutdown state are set. -/
def DelaysSet (a : LldpAgent) : Prop :=
  TimersReady a ∧ a.timers.reinitDelay = reinitDelayDefault

theorem txInitializeLLDP_delays (env : Env μ) (a : LldpAgent) :
    DelaysSet (txInitializeLLDP env a) :=
  ⟨⟨Nat.one_pos, Nat.succ_pos 29⟩, rfl⟩

section Transmit

variable {env : Env μ} {c c' : Ctx μ}

theorem txAction_delays {c : Ctx μ} (h : DelaysSet c.agent) :
    DelaysSet (txAction env c).agent := by
  unfold txAction
  split
  · exact txInitializeLLDP_delays env c.agent
  · exact h
  · obtain ⟨d, hd, heq⟩ := processTxShutdownFrame_eq env c
    rw [heq]
    rw [hd.agent]
    exact h
  · obtain ⟨d, hd, heq⟩ := processTxInfoFrame_eq env c
    rw [heq]
    rw [hd.agent]
    exact h

theorem runTxSm_delays (h : runTxSm env c = .ok c')
    (hd : DelaysSet c.agent) : DelaysSet c'.agent := by
  refine Machine.run_preserves (I := fun d : Ctx μ => DelaysSet d.agent) ?_ ?_ hd h
  · intro s t hs ht
    cases ht
    exact txAction_delays hs
  · intro s t b hs ht
    obtain ⟨rfl, -⟩ := txMove_of_ok ht
    exact hs

/-- A run of the transmit machine that stops in the shutdown state stops there because
`txShutdownWhile` is running. -/
theorem runTxSm_shutdownWhile (h : runTxSm env c = .ok c')
    (hs : c'.agent.tx.state = .txShutdownFrame) : c'.agent.timers.txShutdownWhile ≠ 0 := by
  obtain ⟨t, -, ht⟩ := Machine.run_final (P := fun _ => True) (I := fun _ => True)
    (J := fun _ => True) (fun _ _ _ _ _ => trivial) (fun _ _ _ _ => trivial)
    (fun _ _ _ _ _ => trivial) trivial h
  obtain ⟨rfl, hb⟩ := txMove_of_ok ht
  change (nextTx t.port t.agent).1 = _ at hs
  change t.agent.timers.txShutdownWhile ≠ 0
  by_cases hfall : t.port.portEnabled = false ∧ t.port.prevPortEnabled = true
  · rw [nextTx_of_falls _ hfall] at hs
    cases hs
  · rw [nextTx_of_not_falls _ hfall] at hs hb
    cases hst : t.agent.tx.state with
    | txLldpInitialize => simp only [hst] at hs; split_ifs at hs
    | txIdle =>
      simp only [hst] at hs hb
      split_ifs at hs hb
    | txShutdownFrame =>
      simp only [hst] at hs
      split_ifs at hs with hw
      exact hw
    | txInfoFrame => simp [hst] at hs

end Transmit

/-! ### The receive machine with a frame -/

/-- The frame that the flag `rcvFrame` announces is there. -/
def FrameStored (a : LldpAgent) : Prop := ∃ f, a.rx.framein = some f ∧ f.size ≠ 0

/-- The states in which the machine has been initialised. Anywhere else a frame is dropped
before it is looked at. -/
def RxState.listens : RxState → Bool
  | .rxWaitForFrame | .rxFrame | .deleteInfo | .updateInfo => true
  | .lldpWaitPortOperational | .deleteAgedInfo | .rxLldpInitialize => false

/-- The receive machine after a move. `up` says that the port is enabled, `aged` that the run
started with a frame that arrived while an age-out was pending. -/
structure RxRuns (up aged : Prop) (a : LldpAgent) : Prop where
  noAge : a.rx.state = .lldpWaitPortOperational → a.rx.rxInfoAge = false
  took : a.rx.state = .rxFrame → a.rx.rcvFrame = true ∧ up
  deletes : a.rx.state = .deleteInfo → a.rx.rcvFrame = true → aged
  stored : a.rx.state.listens = true → a.rx.rcvFrame = true → FrameStored a ∨ aged

/-- The receive machine after an action on `a` that is not about a frame -/
structure RxActs (aged : Prop) (a b : LldpAgent) : Prop where
  state : b.rx.state = a.rx.state
  adminStatus : b.adminStatus = a.adminStatus
  rcvFrame : b.rx.rcvFrame = true → a.rx.rcvFrame = true ∧ a.rx.state ≠ .rxLldpInitialize
  noAge : a.rx.state = .lldpWaitPortOperational ∨ a.rx.state = .deleteAgedInfo ∨
    a.rx.state = .rxWaitForFrame → b.rx.rxInfoAge = false
  stored : a.rx.state.listens = true → b.rx.rcvFrame = true → FrameStored b ∨ aged

/-- The receive machine while a frame is processed: it is in the state for that, or a run within
the frame left it at rest. -/
structure InFrame (a : LldpAgent) : Prop where
  state : a.rx.state = .rxFrame ∨ RxAtRest a
  noFrame : a.rx.rcvFrame = false

/-- The receive machine after an action on `a` -/
def RxLeaves (aged : Prop) (a b : LldpAgent) : Prop :=
  a.rx.state ≠ .rxFrame ∧ RxActs aged a b ∨ a.rx.state = .rxFrame ∧ InFrame b

/-- How far the receive machine still can move. A frame that waits is worth the round that
takes it up. -/
def rxFrameRank (a : LldpAgent) : Nat :=
  match a.rx.state with
  | .deleteAgedInfo => 6
  | .lldpWaitPortOperational => 5
  | .rxLldpInitialize => if a.adminStatus.allowsRx then 4 else 3
  | .rxWaitForFrame =>
    if a.adminStatus.allowsRx then if a.rx.rcvFrame then 8 else 3 else 4
  | .rxFrame => 7
  | .deleteInfo | .updateInfo => if a.rx.rcvFrame then 9 else 5

theorem rxFrameRank_lt (a : LldpAgent) : rxFrameRank a < smFuel := by
  unfold rxFrameRank smFuel
  cases a.rx.state <;> dsimp only
  case rxWaitForFrame =>
    split
    · split <;> omega
    · omega
  all_goals first | omega | (split <;> omega)


/-! ### One action and one move -/

/-- What the transmit side of an agent keeps to -/
structure TxReady (a : LldpAgent) : Prop where
  delays : DelaysSet a
  shutdownWhile : a.tx.state = .txShutdownFrame → a.timers.txShutdownWhile ≠ 0

theorem SameTxSide.txReady {a b : LldpAgent} (h : SameTxSide a b) (ha : TxReady a) :
    TxReady b := by
  refine ⟨⟨h.timersReady ha.delays.1, ?_⟩, ?_⟩
  · rw [h.timers]
    exact ha.delays.2
  · rw [h.txState, h.txShutdownWhile]
    exact ha.shutdownWhile

theorem TxReady.congr {a b : LldpAgent} (h : TxReady a) (hstate : b.tx.state = a.tx.state)
    (htimers : b.timers = a.timers) : TxReady b := by
  refine ⟨?_, ?_⟩
  · unfold DelaysSet TimersReady
    rw [htimers]
    exact h.delays
  · rw [hstate, htimers]
    exact h.shutdownWhile

theorem AgentAtRest.txReady {a : LldpAgent} (h : AgentAtRest a) : TxReady a :=
  ⟨⟨h.timersReady, h.reinitDelay⟩, h.shutdownWhile⟩

theorem TxReady.atRest {a : LldpAgent} (h : TxReady a) (hrx : RxAtRest a) : AgentAtRest a :=
  ⟨h.delays.1, h.delays.2, hrx, h.shutdownWhile⟩

/-- A move that goes on after an action that is not about a frame lowers the rank: the machine
takes a frame up once, and without one it moves towards the state in which it waits. -/
theorem rxFrameRank_move {aged : Prop} {p : Port} {a b : LldpAgent} (hne : a.rx.state ≠ .rxFrame)
    (h : RxActs aged a b) (hgo : (nextRx p b).2 = true) :
    RxRuns (p.portEnabled = true) aged (b.withRxState (nextRx p b).1) ∧
      rxFrameRank (b.withRxState (nextRx p b).1) < rxFrameRank a := by
  have hadmin := h.adminStatus
  have hrcv := h.rcvFrame
  have hage := h.noAge
  have hstored := h.stored
  rw [← h.state] at hne hrcv hage hstored
  have hnext := nextRx_cases p b
  generalize nextRx p b = r at hnext hgo ⊢
  -- the final moves contradict `hgo`, those of an age-out `hage`, those of a frame `hne`
  cases hnext with
  | down | disabled | waits => cases hgo
  | aged hs haged => exact absurd (haged.symm.trans (hage (.inl hs))) (by decide)
  | ages hs _ haged => exact absurd (haged.symm.trans (hage (.inr (.inr hs)))) (by decide)
  | shutdown hs | changes hs => exact absurd hs hne
  | up hs =>
    refine ⟨by constructor <;> rintro ⟨⟩, ?_⟩
    by_cases hrx : b.adminStatus.allowsRx = true <;>
      simp [rxFrameRank, LldpAgent.withRxState, ← h.state, hs, hrx]
  | deleted hs =>
    refine ⟨⟨fun _ => hage (.inr (.inl hs)), by rintro ⟨⟩, by rintro ⟨⟩, by rintro ⟨⟩⟩,
      ?_⟩
    simp [rxFrameRank, LldpAgent.withRxState, ← h.state, hs]
  | listens hs hrx =>
    have hnoframe : b.rx.rcvFrame ≠ true := fun hr => (hrcv hr).2 hs
    refine ⟨⟨by rintro ⟨⟩, by rintro ⟨⟩, by rintro ⟨⟩,
      fun _ hr => absurd hr hnoframe⟩, ?_⟩
    simp [rxFrameRank, LldpAgent.withRxState, ← h.state, hs, ← hadmin, hrx, hnoframe]
  | disables hs hrx =>
    refine ⟨by constructor <;> rintro ⟨⟩, ?_⟩
    simp [rxFrameRank, LldpAgent.withRxState, ← h.state, hs, ← hadmin, hrx]
  | frame hs hrx _ hup hframe =>
    refine ⟨⟨by rintro ⟨⟩, fun _ => ⟨hframe, hup⟩, by rintro ⟨⟩,
      fun _ => hstored (by rw [hs]; rfl)⟩, ?_⟩
    simp [rxFrameRank, LldpAgent.withRxState, ← h.state, hs, ← hadmin, hrx, (hrcv hframe).1]
  | back hs =>
    -- from 9 to 8 with a frame that waits, and from 5 to at most 4 without one
    have hs' := hs.resolve_left hne
    refine ⟨⟨by rintro ⟨⟩, by rintro ⟨⟩, by rintro ⟨⟩,
      fun _ => hstored (by rcases hs' with hs | hs <;> rw [hs] <;> rfl)⟩, ?_⟩
    by_cases hr : b.rx.rcvFrame = true
    · by_cases hrx : b.adminStatus.allowsRx = true <;> rcases hs' with hs | hs <;>
        simp [rxFrameRank, LldpAgent.withRxState, ← h.state, hs, hr, hrx, (hrcv hr).1]
    · rw [Bool.not_eq_true] at hr
      by_cases hrx : b.adminStatus.allowsRx = true <;> rcases hs' with hs | hs <;>
        simp [rxFrameRank, LldpAgent.withRxState, ← h.state, hs, hr, hrx] <;> split_ifs <;> decide

/-- A move out of a frame finds no other one. -/
theorem InFrame.runs {up aged : Prop} {p : Port} {a : LldpAgent} (h : InFrame a) :
    RxRuns up aged (a.withRxState (nextRx p a).1) := by
  have hnone : a.rx.rcvFrame ≠ true := Bool.eq_false_iff.mp h.noFrame
  have hnext := nextRx_cases p a
  generalize nextRx p a = r at hnext ⊢
  refine ⟨fun hs => ?_, fun hs => ?_, fun _ hr => absurd hr hnone, fun _ hr => absurd hr hnone⟩
  · cases hnext with
    | down hage => exact hage
    | deleted hst => rcases h.state with hs' | ⟨hs' | hs' | hs', -⟩ <;> cases hst.symm.trans hs'
    | _ => cases hs
  · -- the one move to a frame needs the flag
    cases hnext with
    | frame _ _ _ _ hr => exact absurd hr hnone
    | _ => cases hs

/-- A move that goes on after a frame lowers the rank. -/
theorem InFrame.rank_lt {p : Port} {a : LldpAgent} (h : InFrame a) (hgo : (nextRx p a).2 = true) :
    rxFrameRank (a.withRxState (nextRx p a).1) < 7 := by
  have hnone := h.noFrame
  have hnext := nextRx_cases p a
  generalize nextRx p a = r at hnext hgo ⊢
  cases hnext with
  | frame _ _ _ _ hr => exact absurd (hr.symm.trans hnone) (by decide)
  | _ =>
    simp only [rxFrameRank, LldpAgent.withRxState, hnone, Bool.false_eq_true, if_false]
    first | omega | (split_ifs <;> omega)

/-- A move that goes on after any action -/
theorem RxLeaves.move {aged : Prop} {p : Port} {a b : LldpAgent} (h : RxLeaves aged a b)
    (hgo : (nextRx p b).2 = true) :
    RxRuns (p.portEnabled = true) aged (b.withRxState (nextRx p b).1) ∧
      rxFrameRank (b.withRxState (nextRx p b).1) < rxFrameRank a := by
  rcases h with ⟨hne, hacts⟩ | ⟨hs, hframe⟩
  · exact rxFrameRank_move hne hacts hgo
  · refine ⟨hframe.runs, ?_⟩
    rw [show rxFrameRank a = 7 by rw [rxFrameRank, hs]]
    exact hframe.rank_lt hgo

theorem RxLeaves.stop {aged : Prop} {p : Port} {a b : LldpAgent} (h : RxLeaves aged a b)
    (hstop : (nextRx p b).2 = false) : RxAtRest (b.withRxState (nextRx p b).1) := by
  refine atRest_of_final (fun hs => ?_) hstop
  rcases h with ⟨-, hacts⟩ | ⟨-, hframe⟩
  · rw [Bool.eq_false_iff]
    exact fun hr => (hacts.rcvFrame hr).2 (hacts.state.symm.trans hs)
  · exact hframe.noFrame

/-! ### Runs within a frame -/

/-- What surrounds the receive machine in a run: the link does not change, and the transmit side
keeps to what it has. -/
structure RunKeeps (up : Bool) (c : Ctx μ) : Prop where
  link : c.port.portEnabled = up
  tx : TxReady c.agent

/-- Both machines return within a frame. -/
def Returns (up : Bool) (sms : Ctx μ → Except Fault (Ctx μ)) : Prop :=
  ∀ c : Ctx μ, RunKeeps up c → InFrame c.agent →
    ∃ d, sms c = .ok d ∧ RunKeeps up d ∧ InFrame d.agent

theorem RxKeeps.runKeeps {up : Bool} {c d : Ctx μ} (h : RxKeeps c d) (hc : RunKeeps up c) :
    RunKeeps up d :=
  ⟨by rw [h.port]; exact hc.link, h.sameTxSide.txReady hc.tx⟩

theorem InFrame.of_rx {a b : LldpAgent} (h : InFrame a) (hstate : b.rx.state = a.rx.state)
    (hrcv : b.rx.rcvFrame = a.rx.rcvFrame) : InFrame b :=
  ⟨by rw [hstate]; exact h.state.imp_right fun hr => hr.of_rx hstate hrcv, hrcv.trans h.noFrame⟩

variable {sms : Ctx μ → Except Fault (Ctx μ)} {env : RaisingEnv μ} {c : Ctx μ} {up : Bool}
  {aged R : Prop}

theorem setAgentAdmin_returns (hsms : Returns up sms) (admin : AdminStatus) (hc : RunKeeps up c)
    (hframe : InFrame c.agent) :
    ∃ d, Reentry.setAgentAdmin sms admin c = .ok d ∧ RunKeeps up d ∧ InFrame d.agent := by
  unfold Reentry.setAgentAdmin
  split
  · exact hsms _ ⟨hc.link, hc.tx.congr rfl rfl⟩ (hframe.of_rx rfl rfl)
  · exact ⟨c, rfl, hc, hframe⟩

/-- The frame is processed, if it is there, whatever runs within it. -/
theorem processRxFrame_returns (hsms : Returns up sms) (hc : RunKeeps up c)
    (hs : c.agent.rx.state = .rxFrame) (hstored : FrameStored c.agent) :
    ∃ d, Reentry.processRxFrame sms env c = .ok d ∧ RunKeeps up d ∧ InFrame d.agent := by
  obtain ⟨f, hf, hsize⟩ := hstored
  let a := c.agent
  let c₁ : Ctx μ := { c with
    agent := { a with
      rxChanges := false
      rx := { a.rx with remoteChange := false, rcvFrame := false } } }
  obtain ⟨r, hr, hkeeps, hframe⟩ := Reentry.rxProcessFrame_returns (c := c₁)
    (P := fun d => RunKeeps up d ∧ InFrame d.agent)
    (fun d e hkeep hd => ⟨hkeep.rxKeeps.runKeeps hd.1,
      hd.2.of_rx (by rw [hkeep.rx]) (by rw [hkeep.rx])⟩)
    (fun d hd => setAgentAdmin_returns hsms .enabledRxTx hd.1 hd.2) env hf hsize
    ⟨⟨hc.link, hc.tx.congr rfl rfl⟩, ⟨.inl hs, rfl⟩⟩
  refine ⟨_, hr, (endFrame_rxKeeps f r).runKeeps hkeeps, hframe.of_rx ?_ ?_⟩
  all_goals
    rw [endFrame, clearManifest_agent]
    unfold countFrame
    split_ifs <;> rfl

theorem rxProcessFrame_gone (h : ¬FrameStored c.agent) :
    Reentry.processRxFrame sms env c = .error .assertFailed := by
  unfold Reentry.processRxFrame Reentry.rxProcessFrame
  dsimp only
  cases hf : c.agent.rx.framein with
  | none => rfl
  | some f =>
    have hsize : f.size = 0 := not_not.mp fun hsize => h ⟨f, hf, hsize⟩
    simp only [hsize, ne_eq, not_true_eq_false, decide_false, assert_false, bind_error]

/-- The receive machine before an action. `R` is what it needs to process a frame. -/
structure Goes (up : Bool) (aged R : Prop) (c : Ctx μ) : Prop where
  keeps : RunKeeps up c
  runs : RxRuns (up = true) aged c.agent
  frame : c.agent.rx.rcvFrame = true → R

/-- The receive machine after an action -/
structure Went (up : Bool) (aged R : Prop) (a : LldpAgent) (d : Ctx μ) : Prop where
  keeps : RunKeeps up d
  leaves : RxLeaves aged a d.agent
  frame : d.agent.rx.rcvFrame = true → R

/-- An action that is not about a frame is that of the plain machine. -/
theorem rxAction_plain (hne : c.agent.rx.state ≠ .rxFrame) :
    Reentry.rxAction sms env c = Lldp.rxAction env.toEnv c := by
  unfold Reentry.rxAction Lldp.rxAction
  cases hs : c.agent.rx.state with
  | rxFrame => exact absurd hs hne
  | _ => rfl

theorem rxAction_acts (env : Env μ) (h : RxRuns (up = true) aged c.agent)
    (hne : c.agent.rx.state ≠ .rxFrame) :
    ∃ d, Lldp.rxAction env c = .ok d ∧ RxActs aged c.agent d.agent := by
  have hstored := h.stored
  unfold Lldp.rxAction
  cases hs : c.agent.rx.state with
  | lldpWaitPortOperational =>
    exact ⟨c, rfl, rfl, rfl, fun hr => ⟨hr, by simp [hs]⟩, fun _ => h.noAge hs, hstored⟩
  | deleteAgedInfo =>
    refine ⟨_, rfl, ?_, ?_, ?_, fun _ => rfl, ?_⟩
    · simp [processDeleteAgedInfo]
    · simp [processDeleteAgedInfo]
    · intro hr
      exact ⟨by simpa [processDeleteAgedInfo] using hr, by simp [hs]⟩
    · simp [hs, RxState.listens]
  | rxLldpInitialize =>
    refine ⟨_, rfl, ?_, ?_, ?_, ?_, ?_⟩
    · simp [processRxLldpInitialize, rxInitializeLLDP]
    · simp [processRxLldpInitialize, rxInitializeLLDP]
    · simp [processRxLldpInitialize]
    · simp [hs]
    · simp [hs, RxState.listens]
  | rxWaitForFrame =>
    exact ⟨_, rfl, rfl, rfl, fun hr => ⟨hr, by simp [hs]⟩, fun _ => rfl, hstored⟩
  | rxFrame => exact absurd hs hne
  | deleteInfo =>
    refine ⟨_, rfl, ?_, ?_, ?_, by simp [hs], ?_⟩
    · simp [processDeleteInfo]
    · simp [processDeleteInfo]
    · intro hr
      exact ⟨by simpa [processDeleteInfo] using hr, by simp [hs]⟩
    · intro _ hr
      exact .inr (h.deletes hs (by simpa [processDeleteInfo] using hr))
  | updateInfo =>
    exact ⟨_, rfl, rfl, rfl, fun hr => ⟨hr, by simp [hs]⟩, by simp [hs], hstored⟩

/-- An action of the receive machine returns, or the assertion about the stored frame
fails. -/
theorem rxAction_ends (hR : R → Returns up sms) (h : Goes up aged R c) :
    (∃ d, Reentry.rxAction sms env c = .ok d ∧ Went up aged R c.agent d) ∨
      (up = true ∧ aged) ∧ Reentry.rxAction sms env c = .error .assertFailed := by
  by_cases hs : c.agent.rx.state = .rxFrame
  · have hact : Reentry.rxAction sms env c = Reentry.processRxFrame sms env c := by
      rw [Reentry.rxAction, hs]
    obtain ⟨hrcv, hup⟩ := h.runs.took hs
    rw [hact]
    by_cases hstored : FrameStored c.agent
    · obtain ⟨d, hd, hkeeps, hframe⟩ :=
        processRxFrame_returns (hR (h.frame hrcv)) h.keeps hs hstored
      exact .inl ⟨d, hd, hkeeps, .inr ⟨hs, hframe⟩, fun _ => h.frame hrcv⟩
    · -- the frame that was announced is gone: it arrived while an age-out was pending
      have haged := (h.runs.stored (by rw [hs]; rfl) hrcv).resolve_left hstored
      exact .inr ⟨⟨hup, haged⟩, rxProcessFrame_gone hstored⟩
  · obtain ⟨d, hd, hacts⟩ := rxAction_acts env.toEnv h.runs hs
    rw [rxAction_plain hs]
    exact .inl ⟨d, hd, (rxAction_rxKeeps hd).runKeeps h.keeps, .inl ⟨hs, hacts⟩,
      fun hr => h.frame (hacts.rcvFrame hr).1⟩

theorem rxMachine_moves (c : Ctx μ) :
    (Reentry.rxMachine sms env).move c =
      .ok ({ c with agent := c.agent.withRxState (nextRx c.port c.agent).1 },
        (nextRx c.port c.agent).2) :=
  rxMachine_move env.toEnv c

theorem Went.again {a : LldpAgent} {d : Ctx μ} (h : Went up aged R a d)
    (hgo : (nextRx d.port d.agent).2 = true) :
    Goes up aged R { d with agent := d.agent.withRxState (nextRx d.port d.agent).1 } := by
  have hruns := (h.leaves.move hgo).1
  rw [h.keeps.link] at hruns
  exact ⟨⟨h.keeps.link, h.keeps.tx.congr rfl rfl⟩, hruns, h.frame⟩

/-- A run comes to rest, or it stops at a frame that arrived while an age-out was pending. -/
theorem machineRun_ends (hR : R → Returns up sms)
    (hfirst : Goes up aged R
      { c with agent := c.agent.withRxState (nextRx c.port c.agent).1 }) :
    (∃ d, (Reentry.rxMachine sms env).run smFuel c = .ok d ∧ RunKeeps up d ∧ RxAtRest d.agent ∧
        (d.agent.rx.rcvFrame = true → R)) ∨
      (up = true ∧ aged) ∧ (Reentry.rxMachine sms env).run smFuel c = .error .assertFailed := by
  have hrun := Machine.run_ends (m := Reentry.rxMachine sms env)
    (I := Goes up aged R) (fun d : Ctx μ => rxFrameRank d.agent) ?_
    ⟨_, _, rxMachine_moves c, hfirst, rxFrameRank_lt _⟩
  · rcases hrun with ⟨d, hd⟩ | ⟨d, e, hd, hact, hrun⟩
    · -- a run that returns ends with an action and a final move
      refine .inl ⟨d, hd, ?_⟩
      refine Machine.run_rule (P := fun e => e = c) (I := Goes up aged R)
        (J := fun e => ∃ a, Went up aged R a e)
        (Q := fun e => RunKeeps up e ∧ RxAtRest e.agent ∧ (e.agent.rx.rcvFrame = true → R))
        ?_ ?_ ?_ ?_ rfl hd
      · rintro _ e b rfl he
        cases (rxMachine_moves _).symm.trans he
        exact hfirst
      · intro e e' hgoes he
        rcases rxAction_ends hR hgoes with ⟨e'', hok, hwent⟩ | ⟨-, herr⟩
        · cases hok.symm.trans he
          exact ⟨_, hwent⟩
        · cases herr.symm.trans he
      · rintro e e' ⟨a, hwent⟩ he
        obtain ⟨rfl, hgo⟩ := Prod.mk.inj (Except.ok.inj ((rxMachine_moves e).symm.trans he))
        exact hwent.again hgo
      · rintro e e' ⟨a, hwent⟩ he
        obtain ⟨rfl, hstop⟩ := Prod.mk.inj (Except.ok.inj ((rxMachine_moves e).symm.trans he))
        exact ⟨⟨hwent.keeps.link, hwent.keeps.tx.congr rfl rfl⟩, hwent.leaves.stop hstop,
          hwent.frame⟩
    · rcases rxAction_ends hR hd with ⟨d', hok, -⟩ | ⟨haged, herr⟩
      · cases hok.symm.trans hact
      · cases herr.symm.trans hact
        exact .inr ⟨haged, hrun⟩
  · intro d hd
    rcases rxAction_ends hR hd with ⟨e, hok, hwent⟩ | ⟨-, herr⟩
    · exact .inr ⟨e, _, _, hok, rxMachine_moves e, fun hgo =>
        ⟨hwent.again hgo, (hwent.leaves.move hgo).2⟩⟩
    · exact .inl ⟨_, herr⟩

/-- Within a frame no frame waits, so both machines come to rest there. -/
theorem sms_returns (env : RaisingEnv μ) (depth : Nat) (up : Bool) :
    Returns up fun d => runTxSm env.toEnv d >>= Reentry.runRxSmWithin env (depth + 1) := by
  intro c hc hframe
  obtain ⟨d, hd⟩ := runTxSm_total env.toEnv c
  have hkeep := runTxSm_keeps hd
  have hkeeps : RunKeeps up d :=
    ⟨hkeep.portEnabled.trans hc.link, runTxSm_delays hd hc.tx.delays, runTxSm_shutdownWhile hd⟩
  have hinner : InFrame d.agent :=
    hframe.of_rx (by rw [hkeep.sameRxSide.rx]) (by rw [hkeep.sameRxSide.rx])
  have hnone : d.agent.rx.rcvFrame ≠ true := Bool.eq_false_iff.mp hinner.noFrame
  have hfirst : Goes up False False
      { d with agent := d.agent.withRxState (nextRx d.port d.agent).1 } :=
    ⟨⟨hkeeps.link, hkeeps.tx.congr rfl rfl⟩, hinner.runs, fun hr => absurd hr hnone⟩
  -- no frame waits, so this run starts no further one
  rcases machineRun_ends False.elim hfirst with
    ⟨e, he, hkeeps', hrest, hframe'⟩ | ⟨⟨-, haged⟩, -⟩
  · refine ⟨e, ?_, hkeeps', .inr hrest, Bool.eq_false_iff.mpr hframe'⟩
    show (runTxSm env.toEnv c >>= _) = _
    rw [hd, bind_ok]
    exact he
  · exact haged.elim

/-! ### Runs of the receive machine -/

/-- The agent waits for a frame on an enabled port, and an age-out is pending. -/
def AgePending (p : Port) (a : LldpAgent) : Prop :=
  p.portEnabled = true ∧ a.rx.state = .rxWaitForFrame ∧ a.adminStatus.allowsRx = true ∧
    a.rx.rxInfoAge = true

theorem rxRuns_of_atRest {p : Port} {a : LldpAgent}
    (hstate : a.rx.state = .lldpWaitPortOperational ∨ a.rx.state = .rxLldpInitialize ∨
      a.rx.state = .rxWaitForFrame)
    (hstored : a.rx.state ≠ .lldpWaitPortOperational → a.rx.rcvFrame = true → FrameStored a) :
    RxRuns (p.portEnabled = true) (a.rx.state = .rxWaitForFrame ∧ a.adminStatus.allowsRx = true ∧
      a.rx.rxInfoAge = true ∧ a.rx.rcvFrame = true) (a.withRxState (nextRx p a).1) := by
  have hnext := nextRx_cases p a
  generalize nextRx p a = r at hnext ⊢
  cases hnext with
  | down hage => exact ⟨fun _ => hage, nofun, nofun, nofun⟩
  | aged | up | disabled | disables => exact ⟨nofun, nofun, nofun, nofun⟩
  | listens hs | waits hs =>
    exact ⟨nofun, nofun, nofun, fun _ hr => .inl (hstored (by simp [hs]) hr)⟩
  | ages hs hrx hage =>
    exact ⟨nofun, nofun, fun _ hr => ⟨hs, hrx, hage, hr⟩,
      fun _ hr => .inl (hstored (by simp [hs]) hr)⟩
  | frame hs _ _ hup hframe =>
    exact ⟨nofun, fun _ => ⟨hframe, hup⟩, nofun, fun _ hr => .inl (hstored (by simp [hs]) hr)⟩
  | deleted hs | shutdown hs | changes hs =>
    rcases hstate with hs' | hs' | hs' <;> cases hs.symm.trans hs'
  | back hs =>
    rcases hstate with hs' | hs' | hs' <;> simp [hs'] at hs

/-- A run of the receive machine comes to rest. The one exception is a frame that arrived
while an age-out was pending: the assertion of `rxProcessFrame` stops the program. -/
theorem runRxSm_ends (env : RaisingEnv μ) (htx : TxReady c.agent)
    (hstate : c.agent.rx.state = .lldpWaitPortOperational ∨
      c.agent.rx.state = .rxLldpInitialize ∨ c.agent.rx.state = .rxWaitForFrame)
    (hstored : c.agent.rx.state ≠ .lldpWaitPortOperational → c.agent.rx.rcvFrame = true →
      FrameStored c.agent) :
    (∃ d, Reentry.runRxSm env c = .ok d ∧ AgentAtRest d.agent) ∨
      (AgePending c.port c.agent ∧ c.agent.rx.rcvFrame = true) ∧
        Reentry.runRxSm env c = .error .assertFailed := by
  have hfirst : Goes c.port.portEnabled (c.agent.rx.state = .rxWaitForFrame ∧
      c.agent.adminStatus.allowsRx = true ∧ c.agent.rx.rxInfoAge = true ∧
      c.agent.rx.rcvFrame = true) True
      { c with agent := c.agent.withRxState (nextRx c.port c.agent).1 } :=
    ⟨⟨rfl, htx.congr rfl rfl⟩, rxRuns_of_atRest hstate hstored, fun _ => trivial⟩
  rcases machineRun_ends (fun _ => sms_returns env 0 c.port.portEnabled) hfirst with
    ⟨d, hd, hkeeps, hrest, -⟩ | ⟨⟨hup, hs, hrx, hage, hrcv⟩, herr⟩
  · exact .inl ⟨d, hd, hkeeps.tx.atRest hrest⟩
  · exact .inr ⟨⟨⟨hup, hs, hrx, hage⟩, hrcv⟩, herr⟩

/-- A frame that waits while an age-out is pending: the deletion drops it, and the machine goes on
to process it. -/
theorem runRxSm_aged (env : RaisingEnv μ) (h : AgePending c.port c.agent)
    (hrcv : c.agent.rx.rcvFrame = true) :
    Reentry.runRxSm env c = .error .assertFailed := by
  obtain ⟨hup, hs, hrx, hage⟩ := h
  let m := Reentry.rxMachine (fun d => runTxSm env.toEnv d >>= Reentry.runRxSmWithin env 1) env
  let c₁ : Ctx μ := { c with agent := c.agent.withRxState .deleteInfo }
  let c₂ := processDeleteInfo env.toEnv c₁
  let c₃ : Ctx μ := { c₂ with agent := c₂.agent.withRxState .rxWaitForFrame }
  let c₄ : Ctx μ := { c₃ with agent := processWaitForFrame c₃.agent }
  let c₅ : Ctx μ := { c₄ with agent := c₄.agent.withRxState .rxFrame }
  have hdelete : m.move c = .ok (c₁, true) := by
    have hnext : nextRx c.port c.agent = (.deleteInfo, true) := by
      simp [nextRx, hup, hs, hrx, hage]
    rw [rxMachine_moves, hnext]
  have hport : c₂.port.portEnabled = true := by
    rw [(show RxKeeps c₁ c₂ from
      (mibDeleteObjects_rxKeeps env.toEnv c₁).trans ⟨by constructor <;> rfl, rfl, rfl⟩).port]
    exact hup
  have hadmin : c₂.agent.adminStatus.allowsRx = true := by
    show (mibDeleteObjects env.toEnv c₁).agent.adminStatus.allowsRx = true
    rw [mibDeleteObjects_adminStatus]
    exact hrx
  have hstate₂ : c₂.agent.rx.state = .deleteInfo := by
    show (mibDeleteObjects env.toEnv c₁).agent.rx.state = _
    rw [mibDeleteObjects_rx]
    rfl
  have hrcv₂ : c₂.agent.rx.rcvFrame = true := by
    show (mibDeleteObjects env.toEnv c₁).agent.rx.rcvFrame = true
    rw [mibDeleteObjects_rx]
    exact hrcv
  have hwait : m.move c₂ = .ok (c₃, true) := by
    have hnext : nextRx c₂.port c₂.agent = (.rxWaitForFrame, true) := by
      simp [nextRx, hport, hstate₂]
    rw [rxMachine_moves, hnext]
  have htake : m.move c₄ = .ok (c₅, true) := by
    have hnext : nextRx c₄.port c₄.agent = (.rxFrame, true) := by
      have hstate : c₄.agent.rx.state = .rxWaitForFrame := rfl
      have hnoage : c₄.agent.rx.rxInfoAge = false := rfl
      have hframe : c₄.agent.rx.rcvFrame = true := hrcv₂
      have hallows : c₄.agent.adminStatus.allowsRx = true := hadmin
      have hlink : c₄.port.portEnabled = true := hport
      simp [nextRx, hlink, hstate, hnoage, hframe, hallows]
    rw [rxMachine_moves, hnext]
  have hstop : m.act c₅ = .error .assertFailed := rfl
  show m.run smFuel c = _
  rw [Machine.run, hdelete, bind_ok, show smFuel = 61 + 1 + 1 + 1 from rfl]
  dsimp only
  rw [Machine.iterate_round_again rfl hwait, Machine.iterate_round_again rfl htake, iterate,
    Machine.round, hstop]
  rfl

theorem agentAtRest_runRxSm (env : RaisingEnv μ) (htx : TxReady c.agent)
    (h : RxAtRest c.agent) : ∃ d, Reentry.runRxSm env c = .ok d ∧ AgentAtRest d.agent := by
  have hnone : c.agent.rx.state ≠ .lldpWaitPortOperational → c.agent.rx.rcvFrame ≠ true :=
    fun hs => Bool.eq_false_iff.mp (h.noFrame hs)
  rcases runRxSm_ends env htx h.state (fun hs hr => absurd hr (hnone hs)) with
    hrun | ⟨⟨⟨-, hs, -⟩, hr⟩, -⟩
  · exact hrun
  · exact absurd hr (hnone (by simp [hs]))

/-! ### The machine without a hook that runs it -/

theorem runRxSm_total_of_atRest (env : Env μ) {c : Ctx μ} (htx : TxReady c.agent)
    (h : RxAtRest c.agent) : ∃ d, runRxSm env c = .ok d := by
  obtain ⟨d, hd, -⟩ := agentAtRest_runRxSm env.quiet htx h
  exact ⟨d, Reentry.runRxSm_quiet env ▸ hd⟩

end Lldpad.Lldp
