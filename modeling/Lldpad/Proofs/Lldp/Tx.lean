import Mathlib.Tactic.SplitIfs
import Lldpad.Lldp.Tx

/-!
# `Lldpad.Proofs.Lldp.Tx`: what the transmit side does to an agent

* `setTxState_eq`, `txChangeState` never stops the program: no assertion of the
  transmit machine can fail.
* `SameRxSide`: the fields of an agent that only the receive side writes, and
  `runTxSm_keeps`, `runTxTimersSm_keeps`.
* `runTxSm_total`, `runTxTimersSm_total`: both machines come to rest.
* `runTxTimersSm_of_barred`: an agent that may not transmit has its timers reset.
-/

namespace Lldpad.Lldp

open Lldpad.Lib

variable {μ : Type}

/-- The agent may transmit: the link is up and the administrator lets it. -/
def maySend (p : Port) (a : LldpAgent) : Bool := p.portEnabled && a.adminStatus.allowsTx

theorem allowsTx_eq_false {s : AdminStatus} :
    s.allowsTx = false ↔ s = .disabled ∨ s = .enabledRxOnly := by
  cases s <;> simp [AdminStatus.allowsTx]

theorem allowsRx_eq_false {s : AdminStatus} :
    s.allowsRx = false ↔ s = .disabled ∨ s = .enabledTxOnly := by
  cases s <;> simp [AdminStatus.allowsRx]

theorem allowsRx_eq_true {s : AdminStatus} :
    s.allowsRx = true ↔ s = .enabledRxTx ∨ s = .enabledRxOnly := by
  cases s <;> simp [AdminStatus.allowsRx]

/-! ### The moves of the transmit machine -/

/-- The state that the transmit machine moves to, and whether it goes on. -/
def nextTx (p : Port) (a : LldpAgent) : TxState × Bool :=
  match (if p.portEnabled = false ∧ p.prevPortEnabled = true then TxState.txLldpInitialize
    else a.tx.state) with
  | .txLldpInitialize =>
    if p.portEnabled ∧ a.adminStatus.allowsTx then (.txIdle, true)
    else (.txLldpInitialize, false)
  | .txIdle =>
    if a.adminStatus.allowsTx = false then (.txShutdownFrame, true)
    else if a.tx.txNow ∧ a.timers.txCredit > 0 then (.txInfoFrame, true)
    else (.txIdle, false)
  | .txShutdownFrame =>
    if a.timers.txShutdownWhile = 0 then (.txLldpInitialize, true)
    else (.txShutdownFrame, false)
  | .txInfoFrame => (.txIdle, true)

/-- The agent with its transmit machine in another state. -/
def LldpAgent.withTxState (a : LldpAgent) (s : TxState) : LldpAgent :=
  { a with tx := { a.tx with state := s } }

/-- The effect of a move to state `s`. -/
def Ctx.txMove (c : Ctx μ) (s : TxState) : Ctx μ :=
  { c with
    port := { c.port with prevPortEnabled := c.port.portEnabled }
    agent := c.agent.withTxState s }

theorem withTxState_self (a : LldpAgent) : a.withTxState a.tx.state = a := rfl

/-- No assertion fails on a move to the initial state: it asks for `portEnabled` only
where `portEnabled` holds. -/
theorem txChangeState_initialize (p : Port) (a : LldpAgent) :
    txChangeState p a .txLldpInitialize = .ok (a.withTxState .txLldpInitialize) := by
  rw [txChangeState]
  split
  · next h => rw [h.2]; rfl
  · rfl

theorem setTxState_eq (c : Ctx μ) :
    setTxState c = .ok (c.txMove (nextTx c.port c.agent).1, (nextTx c.port c.agent).2) := by
  rw [setTxState, nextTx]
  by_cases hfall : c.port.portEnabled = false ∧ c.port.prevPortEnabled = true
  · simp only [if_pos hfall, txChangeState_initialize, bind_ok, pure_eq_ok]
    simp [LldpAgent.withTxState, hfall.1, Ctx.txMove]
  · simp only [if_neg hfall, bind_ok, pure_eq_ok]
    cases hs : c.agent.tx.state with
    | txLldpInitialize | txShutdownFrame =>
      simp only
      split
      · simp [txChangeState, hs, Ctx.txMove, LldpAgent.withTxState]
      · rw [← hs]
        rfl
    | txIdle =>
      simp only [← allowsTx_eq_false]
      split
      · simp [txChangeState, hs, Ctx.txMove, LldpAgent.withTxState]
      · split
        · simp [txChangeState, hs, Ctx.txMove, LldpAgent.withTxState]
        · rw [← hs]
          rfl
    | txInfoFrame => simp [txChangeState, hs, Ctx.txMove, LldpAgent.withTxState]

theorem txMove_of_ok {env : Env μ} {c c' : Ctx μ} {b : Bool}
    (h : (txMachine env).move c = .ok (c', b)) :
    c' = c.txMove (nextTx c.port c.agent).1 ∧ b = (nextTx c.port c.agent).2 := by
  have h' := (setTxState_eq c).symm.trans h
  simp only [Except.ok.injEq, Prod.mk.injEq] at h'
  exact ⟨h'.1.symm, h'.2.symm⟩

/-! ### What the transmit side leaves alone -/

/-- Two agents agree in what only the receive side and the administrator write. The
transmit timers reset `newNeighbor`, so that flag may differ. -/
structure SameRxSide (a b : LldpAgent) : Prop where
  adminStatus : b.adminStatus = a.adminStatus
  type : b.type = a.type
  rx : b.rx = { a.rx with newNeighbor := b.rx.newNeighbor }
  rxChanges : b.rxChanges = a.rxChanges
  history : b.history = a.history
  rxTTL : b.timers.rxTTL = a.timers.rxTTL
  lastrxTTL : b.timers.lastrxTTL = a.timers.lastrxTTL
  tooManyNghbrsTimer : b.timers.tooManyNghbrsTimer = a.timers.tooManyNghbrsTimer
  framesIn : b.stats.statsFramesInTotal = a.stats.statsFramesInTotal
  framesInErrors : b.stats.statsFramesInErrorsTotal = a.stats.statsFramesInErrorsTotal
  framesDiscarded : b.stats.statsFramesDiscardedTotal = a.stats.statsFramesDiscardedTotal

namespace SameRxSide

theorem refl (a : LldpAgent) : SameRxSide a a := by
  constructor <;> rfl

theorem trans {a b c : LldpAgent} (h : SameRxSide a b) (h' : SameRxSide b c) :
    SameRxSide a c where
  adminStatus := h'.adminStatus.trans h.adminStatus
  type := h'.type.trans h.type
  rx := by rw [h'.rx, h.rx]
  rxChanges := h'.rxChanges.trans h.rxChanges
  history := h'.history.trans h.history
  rxTTL := h'.rxTTL.trans h.rxTTL
  lastrxTTL := h'.lastrxTTL.trans h.lastrxTTL
  tooManyNghbrsTimer := h'.tooManyNghbrsTimer.trans h.tooManyNghbrsTimer
  framesIn := h'.framesIn.trans h.framesIn
  framesInErrors := h'.framesInErrors.trans h.framesInErrors
  framesDiscarded := h'.framesDiscarded.trans h.framesDiscarded

end SameRxSide

theorem setFrameout_eq (a : LldpAgent) (o : Option Bytes) :
    setFrameout a o = { a with tx := { a.tx with
      frameout := (setFrameout a o).tx.frameout, sizeout := (setFrameout a o).tx.sizeout } } := by
  unfold setFrameout; split
  · rfl
  · split <;> rfl

/-- The effect of sending a frame: the frame buffer, the shared data and the counter of
sent frames change. -/
structure SendsOnly (c c' : Ctx μ) : Prop where
  port : c'.port = c.port
  tlvs : c'.tlvs = c.tlvs
  agent : c'.agent = { c.agent with
    tx := { c.agent.tx with
      frameout := c'.agent.tx.frameout, sizeout := c'.agent.tx.sizeout }
    stats := { c.agent.stats with
      statsFramesOutTotal := c'.agent.stats.statsFramesOutTotal } }

theorem mibConstrInfoLLDPDU_sendsOnly (env : Env μ) (c : Ctx μ) :
    SendsOnly c (mibConstrInfoLLDPDU env c) := by
  refine ⟨rfl, rfl, ?_⟩
  unfold mibConstrInfoLLDPDU
  simp only
  rw [setFrameout_eq]

theorem mibConstrShutdownLLDPDU_sendsOnly (env : Env μ) (c : Ctx μ) :
    SendsOnly c (mibConstrShutdownLLDPDU env c).1 := by
  unfold mibConstrShutdownLLDPDU
  simp only
  split
  · exact ⟨rfl, rfl, by rw [setFrameout_eq]⟩
  · exact ⟨rfl, rfl, by rw [setFrameout_eq]⟩

theorem txFrame_sendsOnly (c : Ctx μ) : SendsOnly c (txFrame c) := ⟨rfl, rfl, rfl⟩

theorem SendsOnly.trans {c d e : Ctx μ} (h : SendsOnly c d) (h' : SendsOnly d e) :
    SendsOnly c e where
  port := h'.port.trans h.port
  tlvs := h'.tlvs.trans h.tlvs
  agent := by rw [h'.agent, h.agent]

theorem SendsOnly.refl (c : Ctx μ) : SendsOnly c c := ⟨rfl, rfl, rfl⟩

theorem processTxShutdownFrame_eq (env : Env μ) (c : Ctx μ) :
    ∃ d, SendsOnly c d ∧ processTxShutdownFrame env c =
      { d with agent := { d.agent with timers := { d.agent.timers with
        txShutdownWhile :=
          if c.agent.timers.txShutdownWhile = 0 then c.agent.timers.reinitDelay
          else c.agent.timers.txShutdownWhile } } } := by
  unfold processTxShutdownFrame
  split
  · have hs := mibConstrShutdownLLDPDU_sendsOnly env c
    cases hsent : (mibConstrShutdownLLDPDU env c).2 with
    | true =>
      refine ⟨_, hs.trans (txFrame_sendsOnly _), ?_⟩
      simp only [hsent, if_true]
      rw [(hs.trans (txFrame_sendsOnly _)).agent]
    | false =>
      refine ⟨_, hs, ?_⟩
      simp only [hsent, Bool.false_eq_true, if_false]
      rw [hs.agent]
  · exact ⟨c, SendsOnly.refl c, rfl⟩

theorem processTxInfoFrame_eq (env : Env μ) (c : Ctx μ) :
    ∃ d, SendsOnly c d ∧ processTxInfoFrame env c =
      { d with agent := { d.agent with
        timers := { d.agent.timers with txCredit := c.agent.timers.txCredit - 1 }
        tx := { d.agent.tx with txNow := false } } } := by
  have h := (mibConstrInfoLLDPDU_sendsOnly env c).trans (txFrame_sendsOnly _)
  refine ⟨_, h, ?_⟩
  have hcredit : (txFrame (mibConstrInfoLLDPDU env c)).agent.timers.txCredit
      = c.agent.timers.txCredit := by
    rw [h.agent]
  unfold processTxInfoFrame
  dsimp only
  rw [hcredit]

theorem SendsOnly.sameRxSide {c d : Ctx μ} (h : SendsOnly c d) :
    SameRxSide c.agent d.agent := by
  rw [h.agent]
  constructor <;> rfl

/-- An action of the transmit machine keeps the receive side, the link flags and the
received TLVs. -/
theorem txAction_keeps (env : Env μ) (c : Ctx μ) :
    SameRxSide c.agent (txAction env c).agent ∧ (txAction env c).port = c.port ∧
      (txAction env c).tlvs = c.tlvs := by
  unfold txAction
  split
  · exact ⟨by constructor <;> rfl, rfl, rfl⟩
  · exact ⟨.refl _, rfl, rfl⟩
  · obtain ⟨d, hd, heq⟩ := processTxShutdownFrame_eq env c
    rw [heq]
    exact ⟨hd.sameRxSide.trans (by constructor <;> rfl), hd.port, hd.tlvs⟩
  · obtain ⟨d, hd, heq⟩ := processTxInfoFrame_eq env c
    rw [heq]
    exact ⟨hd.sameRxSide.trans (by constructor <;> rfl), hd.port, hd.tlvs⟩

/-- What a run of the transmit machine keeps: the receive side of the agent, the link
state and the received TLVs. -/
structure TxKeeps (c c' : Ctx μ) : Prop where
  sameRxSide : SameRxSide c.agent c'.agent
  portEnabled : c'.port.portEnabled = c.port.portEnabled
  tlvs : c'.tlvs = c.tlvs

theorem runTxSm_keeps {env : Env μ} {c c' : Ctx μ} (h : runTxSm env c = .ok c') :
    TxKeeps c c' := by
  refine Machine.run_preserves (I := TxKeeps c) ?_ ?_ ⟨.refl _, rfl, rfl⟩ h
  · intro s t hs ht
    cases ht
    obtain ⟨h₁, h₂, h₃⟩ := txAction_keeps env s
    exact ⟨hs.sameRxSide.trans h₁, by rw [h₂, hs.portEnabled], h₃.trans hs.tlvs⟩
  · intro s t b hs ht
    obtain ⟨rfl, -⟩ := txMove_of_ok ht
    exact ⟨hs.sameRxSide.trans (by constructor <;> rfl), hs.portEnabled, hs.tlvs⟩

/-! ### The transmit machine comes to rest -/

/-- How far the transmit machine still can move. An agent that may transmit runs from
the shutdown state towards idle, any other agent towards the initial state. -/
def txRank (c : Ctx μ) : Nat :=
  if c.agent.adminStatus.allowsTx then
    match c.agent.tx.state with
    | .txShutdownFrame => 5
    | .txLldpInitialize => 4
    | .txIdle => if c.agent.tx.txNow then 3 else 1
    | .txInfoFrame => 2
  else
    match c.agent.tx.state with
    | .txInfoFrame => 4
    | .txIdle => 3
    | .txShutdownFrame => 2
    | .txLldpInitialize => 1

theorem txRank_lt (c : Ctx μ) : txRank c < smFuel := by
  unfold txRank smFuel
  split <;> split <;> try omega
  split <;> omega

theorem txAction_state (env : Env μ) (c : Ctx μ) :
    (txAction env c).agent.tx.state = c.agent.tx.state ∧
      (c.agent.tx.state = .txInfoFrame → (txAction env c).agent.tx.txNow = false) ∧
      (c.agent.tx.state = .txIdle → (txAction env c).agent.tx.txNow = c.agent.tx.txNow) := by
  unfold txAction
  split
  · next hs => exact ⟨hs.symm, by simp [hs], by simp [hs]⟩
  · next hs => exact ⟨rfl, by simp [hs], fun _ => rfl⟩
  · next hs =>
    obtain ⟨d, hd, heq⟩ := processTxShutdownFrame_eq env c
    rw [heq, hd.agent]
    exact ⟨rfl, by simp [hs], by simp [hs]⟩
  · next hs =>
    obtain ⟨d, hd, heq⟩ := processTxInfoFrame_eq env c
    rw [heq, hd.agent]
    exact ⟨rfl, fun _ => rfl, by simp [hs]⟩

variable {p : Port} {a : LldpAgent}

theorem nextTx_of_falls (a : LldpAgent) (h : p.portEnabled = false ∧ p.prevPortEnabled = true) :
    nextTx p a = (.txLldpInitialize, false) := by
  simp [nextTx, h.1, h.2]

theorem nextTx_of_not_falls (a : LldpAgent)
    (h : ¬(p.portEnabled = false ∧ p.prevPortEnabled = true)) :
    nextTx p a =
      match a.tx.state with
      | .txLldpInitialize =>
        if p.portEnabled ∧ a.adminStatus.allowsTx then (.txIdle, true)
        else (.txLldpInitialize, false)
      | .txIdle =>
        if a.adminStatus.allowsTx = false then (.txShutdownFrame, true)
        else if a.tx.txNow ∧ a.timers.txCredit > 0 then (.txInfoFrame, true)
        else (.txIdle, false)
      | .txShutdownFrame =>
        if a.timers.txShutdownWhile = 0 then (.txLldpInitialize, true)
        else (.txShutdownFrame, false)
      | .txInfoFrame => (.txIdle, true) := by
  rw [nextTx, if_neg h]

/-- A move that goes on, away from where an action left the machine, lowers the rank. -/
theorem txRank_move {env : Env μ} {c : Ctx μ}
    (hgo : (nextTx (txAction env c).port (txAction env c).agent).2 = true) :
    txRank ((txAction env c).txMove (nextTx (txAction env c).port (txAction env c).agent).1)
      < txRank c := by
  obtain ⟨hstate, hinfo, hidle⟩ := txAction_state env c
  have hadmin := (txAction_keeps env c).1.adminStatus
  generalize txAction env c = d at *
  have hnofall : ¬(d.port.portEnabled = false ∧ d.port.prevPortEnabled = true) := by
    intro hfall
    rw [nextTx_of_falls _ hfall] at hgo
    cases hgo
  rw [nextTx_of_not_falls _ hnofall, hadmin, hstate] at hgo ⊢
  simp only [txRank, Ctx.txMove, LldpAgent.withTxState, hadmin]
  cases hs : c.agent.tx.state with
  | txLldpInitialize =>
    simp only [hs] at hgo ⊢
    split at hgo
    · next hup =>
      simp only [if_pos hup, if_pos hup.2]
      split <;> omega
    · cases hgo
  | txIdle =>
    simp only [hs] at hgo ⊢
    by_cases htx : c.agent.adminStatus.allowsTx = true
    · simp only [htx, Bool.true_eq_false, if_false, if_true] at hgo ⊢
      split at hgo
      · next hnow =>
        rw [if_pos hnow, ← hidle hs, if_pos hnow.1]
        simp
      · cases hgo
    · simp [htx]
  | txShutdownFrame =>
    simp only [hs] at hgo ⊢
    split at hgo
    · next hw =>
      simp only [if_pos hw]
      split <;> simp
    · cases hgo
  | txInfoFrame =>
    simp only [hinfo hs, Bool.false_eq_true, if_false]
    split <;> omega

theorem runTxSm_total (env : Env μ) (c : Ctx μ) : ∃ c', runTxSm env c = .ok c' := by
  refine Machine.run_total (I := fun _ => True) txRank ?_ ⟨_, _, setTxState_eq c, trivial,
    txRank_lt _⟩
  intro s _
  exact ⟨_, _, _, rfl, setTxState_eq _, fun hgo => ⟨trivial, txRank_move hgo⟩⟩

/-! ### The timer machine -/

/-- What a run of the timer machine keeps. -/
structure TimersKeep (a b : LldpAgent) : Prop where
  sameRxSide : SameRxSide a b
  msap : b.msap = a.msap
  lldpdu : b.lldpdu = a.lldpdu
  stats : b.stats = a.stats
  txState : b.tx.state = a.tx.state
  msgFastTx : b.timers.msgFastTx = a.timers.msgFastTx
  msgTxInterval : b.timers.msgTxInterval = a.timers.msgTxInterval
  reinitDelay : b.timers.reinitDelay = a.timers.reinitDelay

namespace TimersKeep

theorem refl (a : LldpAgent) : TimersKeep a a := ⟨.refl a, rfl, rfl, rfl, rfl, rfl, rfl, rfl⟩

theorem trans {a b c : LldpAgent} (h : TimersKeep a b) (h' : TimersKeep b c) :
    TimersKeep a c where
  sameRxSide := h.sameRxSide.trans h'.sameRxSide
  msap := h'.msap.trans h.msap
  lldpdu := h'.lldpdu.trans h.lldpdu
  stats := h'.stats.trans h.stats
  txState := h'.txState.trans h.txState
  msgFastTx := h'.msgFastTx.trans h.msgFastTx
  msgTxInterval := h'.msgTxInterval.trans h.msgTxInterval
  reinitDelay := h'.reinitDelay.trans h.reinitDelay

end TimersKeep

theorem txTimerChangeState_keeps (a : LldpAgent) (s : TxTimerState) :
    TimersKeep a (txTimerChangeState a s) := by
  constructor
  · constructor <;> rfl
  all_goals rfl

/-- The state that the timer machine moves to, and whether it goes on. -/
def nextTxTimers (p : Port) (a : LldpAgent) : TxTimerState × Bool :=
  if maySend p a = false then (.txTimerInitialize, false)
  else
    match a.timers.state with
    | .txTimerBegin | .txTimerInitialize | .signalTx | .txTick => (.txTimerIdle, true)
    | .txTimerExpires => (.signalTx, true)
    | .txFastStart => (.txTimerExpires, true)
    | .txTimerIdle =>
      if a.tx.localChange then (.signalTx, true)
      else if a.timers.txTTR = 0 then (.txTimerExpires, true)
      else if a.rx.newNeighbor then (.txFastStart, true)
      else if a.timers.txTick then (.txTick, true)
      else (.txTimerIdle, false)

theorem setTxTimersState_eq (p : Port) (a : LldpAgent) :
    setTxTimersState p a =
      (txTimerChangeState a (nextTxTimers p a).1, (nextTxTimers p a).2) := by
  unfold setTxTimersState nextTxTimers
  cases hmay : maySend p a with
  | false =>
    have hbar : a.timers.state = .txTimerBegin ∨ p.portEnabled = false ∨
        a.adminStatus = .disabled ∨ a.adminStatus = .enabledRxOnly := by
      rw [maySend, Bool.and_eq_false_iff, allowsTx_eq_false] at hmay
      exact .inr hmay
    have hnot : ¬(p.portEnabled = true ∧ a.adminStatus.allowsTx = true) := by
      rw [← Bool.and_eq_true_iff]
      exact Bool.eq_false_iff.mp hmay
    simp only [if_pos hbar, txTimerChangeState, if_neg hnot, if_true]
  | true =>
    have hup := Bool.and_eq_true_iff.mp hmay
    have hnot : ¬(p.portEnabled = false ∨ a.adminStatus = .disabled ∨
        a.adminStatus = .enabledRxOnly) := by
      rw [← allowsTx_eq_false]
      simp [hup.1, hup.2]
    by_cases hbegin : a.timers.state = .txTimerBegin
    · simp [hbegin, txTimerChangeState, hup.1, hup.2]
    · simp only [hbegin, hnot, or_self, if_false]
      cases hs : a.timers.state with
      | txTimerBegin => exact absurd hs hbegin
      | txTimerInitialize => simp [hup.1, hup.2]
      | txTimerIdle =>
        simp only [Bool.true_eq_false, if_false]
        split_ifs <;> first | rfl | (rw [← hs]; rfl)
      | txTimerExpires | txTick | signalTx | txFastStart => rfl

theorem txTimersAction_keeps (a : LldpAgent) : TimersKeep a (txTimersAction a) := by
  unfold txTimersAction
  split <;> (constructor <;> first | rfl | (constructor <;> rfl))

theorem setTxTimersState_keeps (p : Port) (a : LldpAgent) :
    TimersKeep a (setTxTimersState p a).1 := by
  rw [setTxTimersState_eq]
  exact txTimerChangeState_keeps a _

theorem runTxTimersSm_keeps {a b : LldpAgent} (h : runTxTimersSm p a = .ok b) :
    TimersKeep a b := by
  refine Machine.run_preserves (I := TimersKeep a) ?_ ?_ (.refl a) h
  · intro s t hs ht
    cases ht
    exact hs.trans (txTimersAction_keeps s)
  · intro s t b hs ht
    have hst : setTxTimersState p s = (t, b) := Except.ok.inj ht
    have hk := setTxTimersState_keeps p s
    rw [hst] at hk
    exact hs.trans hk

theorem runTxTimersSm_of_barred (h : maySend p a = false) :
    runTxTimersSm p a = .ok (txTimerChangeState
      (txInitializeTimers (txTimerChangeState a .txTimerInitialize)) .txTimerInitialize) := by
  have hmove : ∀ b, maySend p b = false → setTxTimersState p b
      = (txTimerChangeState b .txTimerInitialize, false) := by
    intro b hb
    rw [setTxTimersState_eq, nextTxTimers, if_pos hb]
  refine Machine.run_eq_of_final (m := txTimersMachine p) (congrArg Except.ok (hmove a h)) rfl ?_
  exact congrArg Except.ok (hmove _ h)

/-- The intervals that the timer machine loads are not zero. -/
def TimersReady (a : LldpAgent) : Prop := 0 < a.timers.msgFastTx ∧ 0 < a.timers.msgTxInterval

theorem TimersReady.of_keep {a b : LldpAgent} (h : TimersReady a) (hk : TimersKeep a b) :
    TimersReady b := by
  unfold TimersReady
  rw [hk.msgFastTx, hk.msgTxInterval]
  exact h

/-- How far the timer machine still can move, once the agent may transmit: a pending
transmission, a new neighbour and a tick are each served once. -/
def txTimersRank (a : LldpAgent) : Nat :=
  let due := 4 * (a.tx.localChange || a.timers.txTTR == 0).toNat
  let neighbor := 8 * a.rx.newNeighbor.toNat
  let tick := 2 * a.timers.txTick.toNat
  match a.timers.state with
  | .txTimerBegin | .txTimerInitialize => 0
  | .txTimerIdle => due + neighbor + tick
  | .txTimerExpires => neighbor + tick + 2
  | .signalTx => neighbor + tick + 1
  | .txFastStart => tick + 3
  | .txTick => neighbor + due + 1

theorem txTimersRank_lt (a : LldpAgent) : txTimersRank a < smFuel := by
  have hdue := Bool.toNat_le (a.tx.localChange || a.timers.txTTR == 0)
  have hneighbor := Bool.toNat_le a.rx.newNeighbor
  have htick := Bool.toNat_le a.timers.txTick
  unfold txTimersRank smFuel
  dsimp only
  split <;> omega

/-- The state of a machine whose agent may transmit, after a move. -/
def TimersRunning (p : Port) (a : LldpAgent) : Prop :=
  maySend p a = true ∧ TimersReady a ∧ a.timers.state ≠ .txTimerBegin ∧
    a.timers.state ≠ .txTimerInitialize

theorem maySend_of_keep {a b : LldpAgent} (hk : TimersKeep a b) :
    maySend p b = maySend p a := by
  rw [maySend, maySend, hk.sameRxSide.adminStatus]

theorem nextTxTimers_running (h : maySend p a = true) :
    (nextTxTimers p a).1 ≠ .txTimerBegin ∧ (nextTxTimers p a).1 ≠ .txTimerInitialize := by
  rw [nextTxTimers, h, if_neg (by decide)]
  split <;> try simp
  split_ifs <;> simp

theorem setTxTimersState_running (h : maySend p a = true)
    (hr : TimersReady a) : TimersRunning p (setTxTimersState p a).1 := by
  have hk := setTxTimersState_keeps p a
  refine ⟨(maySend_of_keep hk).trans h, hr.of_keep hk, ?_⟩
  rw [setTxTimersState_eq]
  exact nextTxTimers_running h

theorem txTimersRank_round (h : TimersRunning p a)
    (hgo : (setTxTimersState p (txTimersAction a)).2 = true) :
    txTimersRank (setTxTimersState p (txTimersAction a)).1 < txTimersRank a := by
  obtain ⟨hmay, ⟨hfast, hint⟩, hbegin, hinit⟩ := h
  have hmay' : maySend p (txTimersAction a) = true :=
    (maySend_of_keep (txTimersAction_keeps a)).trans hmay
  rw [setTxTimersState_eq] at hgo ⊢
  rw [nextTxTimers, if_neg (by simp [hmay'])] at hgo ⊢
  unfold txTimersAction at hgo ⊢
  cases hs : a.timers.state with
  | txTimerBegin => exact absurd hs hbegin
  | txTimerInitialize => exact absurd hs hinit
  | txTimerIdle =>
    simp only [hs] at hgo ⊢
    simp only [txTimersRank, txTimerChangeState, hs]
    split_ifs at hgo ⊢ <;> simp_all <;> omega
  | txTimerExpires =>
    simp only [hs, txTimersRank, txTimerChangeState]
    omega
  | signalTx =>
    have httr : (if a.tx.txFast ≠ 0 then a.timers.msgFastTx else a.timers.msgTxInterval) ≠ 0 := by
      split <;> omega
    simp only [hs, txTimersRank, txTimerChangeState, beq_eq_false_iff_ne.mpr httr, Bool.or_self,
      Bool.toNat_false]
    omega
  | txFastStart | txTick =>
    simp only [hs, txTimersRank, txTimerChangeState, Bool.toNat_false]
    omega

theorem runTxTimersSm_total (h : TimersReady a) :
    ∃ b, runTxTimersSm p a = .ok b := by
  cases hmay : maySend p a with
  | false => exact ⟨_, runTxTimersSm_of_barred hmay⟩
  | true =>
    refine Machine.run_total (I := TimersRunning p) txTimersRank ?_
      ⟨_, _, rfl, setTxTimersState_running hmay h, txTimersRank_lt _⟩
    intro s hs
    refine ⟨_, _, _, rfl, rfl, fun hgo => ⟨?_, txTimersRank_round hs hgo⟩⟩
    have hk := txTimersAction_keeps s
    exact setTxTimersState_running ((maySend_of_keep hk).trans hs.1) (hs.2.1.of_keep hk)

theorem txCredit_tick (a : LldpAgent) :
    (txTimersAction (txTimerChangeState a .txTick)).timers.txCredit
      = if a.timers.txCredit < a.timers.txMaxCredit then a.timers.txCredit + 1
        else a.timers.txCredit := rfl

/-- The invariant rule of the timer machine of an agent that may transmit. A round goes to the
next state, which is never the initial one, and does the work of that state. -/
theorem runTxTimersSm_rule {J : LldpAgent → Prop} {a b : LldpAgent} (hmay : maySend p a = true)
    (hround : ∀ s, maySend p s = true → J s → (nextTxTimers p s).1 ≠ .txTimerInitialize →
      J (txTimersAction (txTimerChangeState s (nextTxTimers p s).1)))
    (hJ : J a) (h : runTxTimersSm p a = .ok b) :
    ∃ t, maySend p t = true ∧ J t ∧ (nextTxTimers p t).2 = false ∧
      txTimerChangeState t (nextTxTimers p t).1 = b := by
  let I : LldpAgent → Prop := fun s =>
    ∃ r, maySend p r = true ∧ J r ∧ s = txTimerChangeState r (nextTxTimers p r).1
  have hmove : ∀ s t b, maySend p s = true ∧ J s → (txTimersMachine p).move s = .ok (t, b) →
      I t := by
    intro s t b hs ht
    have hst : setTxTimersState p s = (t, b) := Except.ok.inj ht
    rw [setTxTimersState_eq] at hst
    cases hst
    exact ⟨s, hs.1, hs.2, rfl⟩
  have hact : ∀ s t, I s → (txTimersMachine p).act s = .ok t → maySend p t = true ∧ J t := by
    rintro _ t ⟨r, hup, hr, rfl⟩ ht
    cases ht
    exact ⟨(maySend_of_keep (txTimersAction_keeps _)).trans hup,
      hround r hup hr (nextTxTimers_running hup).2⟩
  obtain ⟨t, ⟨hup, ht⟩, hlast⟩ := Machine.run_final hmove hact hmove ⟨hmay, hJ⟩ h
  have hst : setTxTimersState p t = (b, false) := Except.ok.inj hlast
  rw [setTxTimersState_eq] at hst
  exact ⟨t, hup, ht, congrArg Prod.snd hst, congrArg Prod.fst hst⟩

/-- While the agent may transmit the timer machine leaves `txShutdownWhile` alone: it
skips the state that would reset it. -/
theorem runTxTimersSm_shutdownWhile {a b : LldpAgent} (hmay : maySend p a = true)
    (h : runTxTimersSm p a = .ok b) : b.timers.txShutdownWhile = a.timers.txShutdownWhile := by
  let J : LldpAgent → Prop := fun s => s.timers.txShutdownWhile = a.timers.txShutdownWhile
  have hround : ∀ s x, J s → x ≠ .txTimerInitialize →
      J (txTimersAction (txTimerChangeState s x)) := by
    intro s x hs hne
    cases x with
    | txTimerInitialize => exact absurd rfl hne
    | _ => exact hs
  obtain ⟨t, -, ht, -, rfl⟩ := runTxTimersSm_rule hmay (fun s _ => hround s _) (rfl : J a) h
  exact ht

end Lldpad.Lldp
