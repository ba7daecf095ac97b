import Lldpad.Proofs.Lldp.Tx
import Lldpad.Proofs.Lldp.Pass

/-!
# `Lldpad.Proofs.Lldp.Rx`: what the receive side does to an agent

* `nextRx_cases`: the moves of the receive machine.
* `setRxState_eq`: no assertion of `rx_change_state` can fail.
* `SameTxSide`: the fields of an agent that the receive side does not write, and
  `runRxSm_keeps`.
* `RxAtRest`: where a run of the receive machine stops, and `runRxSm_atRest`.
-/

namespace Lldpad.Lldp

open Lldpad.Lib

variable {μ : Type}

/-! ### The moves of the receive machine -/

/-- The state that the receive machine moves to, and whether it goes on. -/
def nextRx (p : Port) (a : LldpAgent) : RxState × Bool :=
  match (if a.rx.rxInfoAge = false ∧ p.portEnabled = false then
    RxState.lldpWaitPortOperational else a.rx.state) with
  | .lldpWaitPortOperational =>
    if a.rx.rxInfoAge then (.deleteAgedInfo, true)
    else if p.portEnabled then (.rxLldpInitialize, true)
    else (.lldpWaitPortOperational, false)
  | .deleteAgedInfo => (.lldpWaitPortOperational, true)
  | .rxLldpInitialize =>
    if a.adminStatus.allowsRx then (.rxWaitForFrame, true) else (.rxLldpInitialize, false)
  | .rxWaitForFrame =>
    if a.adminStatus.allowsRx = false then (.rxLldpInitialize, true)
    else if a.rx.rxInfoAge then (.deleteInfo, true)
    else if a.rx.rcvFrame then (.rxFrame, true)
    else (.rxWaitForFrame, false)
  | .deleteInfo => (.rxWaitForFrame, true)
  | .rxFrame =>
    if a.timers.rxTTL = 0 then (.deleteInfo, true)
    else if a.rxChanges then (.updateInfo, true)
    else (.rxWaitForFrame, true)
  | .updateInfo => (.rxWaitForFrame, true)

/-- The agent with its receive machine in another state. -/
def LldpAgent.withRxState (a : LldpAgent) (s : RxState) : LldpAgent :=
  { a with rx := { a.rx with state := s } }

theorem setRxState_eq (p : Port) (a : LldpAgent) :
    setRxState p a = .ok (a.withRxState (nextRx p a).1, (nextRx p a).2) := by
  rw [setRxState, nextRx]
  by_cases hdown : a.rx.rxInfoAge = false ∧ p.portEnabled = false
  · simp [rxChangeState, LldpAgent.withRxState, hdown.1, hdown.2]
  · simp only [if_neg hdown, bind_ok, pure_eq_ok]
    cases hs : a.rx.state with
    | lldpWaitPortOperational =>
      simp only
      split_ifs <;> simp [rxChangeState, hs, LldpAgent.withRxState]
      rw [← hs]
    | deleteAgedInfo => simp [rxChangeState, LldpAgent.withRxState]
    | rxLldpInitialize =>
      simp only [← allowsRx_eq_true]
      split_ifs <;> simp [rxChangeState, hs, LldpAgent.withRxState]
      rw [← hs]
    | rxWaitForFrame =>
      simp only [← allowsRx_eq_false]
      split_ifs <;> simp [rxChangeState, hs, LldpAgent.withRxState]
      rw [← hs]
    | deleteInfo | updateInfo => simp [rxChangeState, hs, LldpAgent.withRxState]
    | rxFrame =>
      by_cases httl : a.timers.rxTTL = 0
      · simp [rxChangeState, hs, httl, LldpAgent.withRxState]
      · by_cases hchg : a.rxChanges = true
        · simp [rxChangeState, hs, httl, hchg, LldpAgent.withRxState]
        · simp [rxChangeState, hs, httl, hchg, LldpAgent.withRxState]

/-- The moves of the receive machine -/
inductive RxNext (p : Port) (a : LldpAgent) : RxState × Bool → Prop
  | down (hage : a.rx.rxInfoAge = false) (hdown : p.portEnabled = false) :
      RxNext p a (.lldpWaitPortOperational, false)
  | aged (hs : a.rx.state = .lldpWaitPortOperational) (hage : a.rx.rxInfoAge = true) :
      RxNext p a (.deleteAgedInfo, true)
  | up (hs : a.rx.state = .lldpWaitPortOperational) (hage : a.rx.rxInfoAge = false) :
      RxNext p a (.rxLldpInitialize, true)
  | deleted (hs : a.rx.state = .deleteAgedInfo) : RxNext p a (.lldpWaitPortOperational, true)
  | listens (hs : a.rx.state = .rxLldpInitialize) (hrx : a.adminStatus.allowsRx = true) :
      RxNext p a (.rxWaitForFrame, true)
  | disabled (hs : a.rx.state = .rxLldpInitialize) (hrx : a.adminStatus.allowsRx = false) :
      RxNext p a (.rxLldpInitialize, false)
  | disables (hs : a.rx.state = .rxWaitForFrame) (hrx : a.adminStatus.allowsRx = false) :
      RxNext p a (.rxLldpInitialize, true)
  | ages (hs : a.rx.state = .rxWaitForFrame) (hrx : a.adminStatus.allowsRx = true)
      (hage : a.rx.rxInfoAge = true) : RxNext p a (.deleteInfo, true)
  | frame (hs : a.rx.state = .rxWaitForFrame) (hrx : a.adminStatus.allowsRx = true)
      (hage : a.rx.rxInfoAge = false) (hup : p.portEnabled = true)
      (hrcv : a.rx.rcvFrame = true) : RxNext p a (.rxFrame, true)
  | waits (hs : a.rx.state = .rxWaitForFrame) (hage : a.rx.rxInfoAge = false)
      (hrcv : a.rx.rcvFrame = false) : RxNext p a (.rxWaitForFrame, false)
  | shutdown (hs : a.rx.state = .rxFrame) : RxNext p a (.deleteInfo, true)
  | changes (hs : a.rx.state = .rxFrame) : RxNext p a (.updateInfo, true)
  | back (hs : a.rx.state = .rxFrame ∨ a.rx.state = .deleteInfo ∨ a.rx.state = .updateInfo) :
      RxNext p a (.rxWaitForFrame, true)

theorem nextRx_cases (p : Port) (a : LldpAgent) : RxNext p a (nextRx p a) := by
  unfold nextRx
  by_cases hdown : a.rx.rxInfoAge = false ∧ p.portEnabled = false
  · simp only [hdown.1, hdown.2, Bool.false_eq_true, if_false]
    exact .down hdown.1 hdown.2
  · simp only [if_neg hdown]
    cases hs : a.rx.state with
    | lldpWaitPortOperational =>
      simp only
      split_ifs with hage hup
      · exact .aged hs hage
      · exact .up hs (Bool.eq_false_iff.mpr hage)
      · exact .down (Bool.eq_false_iff.mpr hage) (Bool.eq_false_iff.mpr hup)
    | deleteAgedInfo => exact .deleted hs
    | rxLldpInitialize =>
      simp only
      split_ifs with hrx
      · exact .listens hs hrx
      · exact .disabled hs (Bool.eq_false_iff.mpr hrx)
    | rxWaitForFrame =>
      simp only
      split_ifs with hrx hage hrcv
      · exact .disables hs hrx
      · exact .ages hs (Bool.of_not_eq_false hrx) hage
      · have hnoage := Bool.eq_false_iff.mpr hage
        exact .frame hs (Bool.of_not_eq_false hrx) hnoage
          (Bool.of_not_eq_false fun hport => hdown ⟨hnoage, hport⟩) hrcv
      · exact .waits hs (Bool.eq_false_iff.mpr hage) (Bool.eq_false_iff.mpr hrcv)
    | deleteInfo => exact .back (.inr (.inl hs))
    | rxFrame =>
      simp only
      split_ifs
      · exact .shutdown hs
      · exact .changes hs
      · exact .back (.inl hs)
    | updateInfo => exact .back (.inr (.inr hs))

theorem rxMachine_move (env : Env μ) (c : Ctx μ) :
    (rxMachine env).move c = .ok ({ c with agent := c.agent.withRxState (nextRx c.port c.agent).1 },
      (nextRx c.port c.agent).2) := by
  show (setRxState c.port c.agent >>= _) = _
  rw [setRxState_eq]
  rfl

variable {c c' : Ctx μ} {env : Env μ}

theorem rxMove_of_ok {b : Bool} (h : (rxMachine env).move c = .ok (c', b)) :
    c' = { c with agent := c.agent.withRxState (nextRx c.port c.agent).1 } ∧
      b = (nextRx c.port c.agent).2 := by
  have h' := (rxMachine_move env c).symm.trans h
  simp only [Except.ok.injEq, Prod.mk.injEq] at h'
  exact ⟨h'.1.symm, h'.2.symm⟩

/-! ### What the receive side leaves alone -/

/-- Two agents agree in what only the transmit side and the administrator write. The
modules may ask for a transmission, so `localChange` and `txFast` may differ. -/
structure SameTxSide (a b : LldpAgent) : Prop where
  adminStatus : b.adminStatus = a.adminStatus
  type : b.type = a.type
  tx : b.tx = { a.tx with localChange := b.tx.localChange, txFast := b.tx.txFast }
  timers : b.timers = { a.timers with
    tooManyNghbrsTimer := b.timers.tooManyNghbrsTimer
    rxTTL := b.timers.rxTTL
    lastrxTTL := b.timers.lastrxTTL }
  framesOut : b.stats.statsFramesOutTotal = a.stats.statsFramesOutTotal

namespace SameTxSide

theorem refl (a : LldpAgent) : SameTxSide a a := by
  constructor <;> rfl

theorem trans {a b c : LldpAgent} (h : SameTxSide a b) (h' : SameTxSide b c) :
    SameTxSide a c where
  adminStatus := h'.adminStatus.trans h.adminStatus
  type := h'.type.trans h.type
  tx := by rw [h'.tx, h.tx]
  timers := by rw [h'.timers, h.timers]
  framesOut := h'.framesOut.trans h.framesOut

theorem txState {a b : LldpAgent} (h : SameTxSide a b) : b.tx.state = a.tx.state := by
  rw [h.tx]

theorem txShutdownWhile {a b : LldpAgent} (h : SameTxSide a b) :
    b.timers.txShutdownWhile = a.timers.txShutdownWhile := by
  rw [h.timers]

theorem timersReady {a b : LldpAgent} (h : SameTxSide a b) (hr : TimersReady a) :
    TimersReady b := by
  unfold TimersReady
  rw [h.timers]
  exact hr

end SameTxSide

theorem kick_sameTxSide (a : LldpAgent) (b : Bool) : SameTxSide a (kick a b) := by
  cases b <;> (constructor <;> rfl)

/-- What the receive side keeps: the transmit side of the agent, the link flags and
what went out. -/
structure RxKeeps (c c' : Ctx μ) : Prop where
  sameTxSide : SameTxSide c.agent c'.agent
  port : c'.port = c.port
  wire : c'.wire = c.wire

namespace RxKeeps

theorem refl (c : Ctx μ) : RxKeeps c c := ⟨.refl _, rfl, rfl⟩

theorem trans {c d e : Ctx μ} (h : RxKeeps c d) (h' : RxKeeps d e) : RxKeeps c e :=
  ⟨h.sameTxSide.trans h'.sameTxSide, h'.port.trans h.port, h'.wire.trans h.wire⟩

end RxKeeps

theorem callHooks_rxKeeps
    (hook : LldpModule μ → Option (Port → AgentView → μ → HookResult μ))
    (nps : List (LldpModule μ)) (c : Ctx μ) : RxKeeps c (callHooks hook nps c) := by
  obtain ⟨hport, hwire, b, hb⟩ := callHooks_frame hook nps c
  exact ⟨hb ▸ kick_sameTxSide _ _, hport, hwire⟩

theorem mibDeleteObjects_rxKeeps (env : Env μ) (c : Ctx μ) :
    RxKeeps c (mibDeleteObjects env c) :=
  (callHooks_rxKeeps _ _ c).trans ⟨by constructor <;> rfl, rfl, rfl⟩

theorem rxInitializeLLDP_rxKeeps (env : Env μ) (c : Ctx μ) :
    RxKeeps c (rxInitializeLLDP env c) := by
  refine RxKeeps.trans ?_ (mibDeleteObjects_rxKeeps env _)
  exact ⟨by constructor <;> rfl, rfl, rfl⟩

/-! ### A whole frame -/

theorem WalkKeeps.rxKeeps {c d : Ctx μ} (h : WalkKeeps c d) : RxKeeps c d where
  sameTxSide := ⟨h.adminStatus, h.type, h.tx, h.timers, by rw [h.stats]⟩
  port := h.port
  wire := h.wire

theorem clearManifest_rxKeeps (c : Ctx μ) : RxKeeps c (clearManifest c) := by
  unfold clearManifest
  split
  · exact .refl c
  · exact ⟨⟨rfl, rfl, rfl, rfl, rfl⟩, rfl, rfl⟩

theorem endFrame_rxKeeps (f : Frame) (r : Ctx μ × Bool) : RxKeeps r.1 (endFrame f r) := by
  refine RxKeeps.trans ?_ (clearManifest_rxKeeps _)
  refine ⟨?_, rfl, rfl⟩
  unfold countFrame
  split_ifs <;> exact ⟨rfl, rfl, rfl, rfl, rfl⟩

theorem rxProcessFrame_rxKeeps (h : rxProcessFrame env c = .ok c') :
    RxKeeps c c' := by
  obtain ⟨f, r, -, -, hwalk, rfl⟩ := rxProcessFrame_eq_ok.mp h
  have hbegin : RxKeeps c { c with agent := beginFrame c.agent } :=
    ⟨⟨rfl, rfl, rfl, rfl, rfl⟩, rfl, rfl⟩
  exact hbegin.trans ((walk_keeps hwalk).rxKeeps.trans (endFrame_rxKeeps f r))

theorem rxProcessFrame_rx (h : rxProcessFrame env c = .ok c') :
    c'.agent.rx.state = c.agent.rx.state ∧ c'.agent.rx.framein = c.agent.rx.framein ∧
      c'.agent.rx.rcvFrame = c.agent.rx.rcvFrame ∧
      c'.agent.rx.rxInfoAge = c.agent.rx.rxInfoAge := by
  obtain ⟨f, r, -, -, hwalk, rfl⟩ := rxProcessFrame_eq_ok.mp h
  have hrx := (walk_keeps hwalk).rx
  have hend : (endFrame f r).agent.rx.state = r.1.agent.rx.state ∧
      (endFrame f r).agent.rx.framein = r.1.agent.rx.framein ∧
      (endFrame f r).agent.rx.rcvFrame = r.1.agent.rx.rcvFrame ∧
      (endFrame f r).agent.rx.rxInfoAge = r.1.agent.rx.rxInfoAge := by
    rw [endFrame, clearManifest_agent]
    unfold countFrame
    split_ifs <;> exact ⟨rfl, rfl, rfl, rfl⟩
  rw [hend.1, hend.2.1, hend.2.2.1, hend.2.2.2, hrx]
  exact ⟨rfl, rfl, rfl, rfl⟩

/-! ### Runs of the receive machine -/

theorem rxAction_rxKeeps (h : rxAction env c = .ok c') :
    RxKeeps c c' := by
  unfold rxAction at h
  split at h
  · cases h
    exact .refl c
  · cases h
    exact (mibDeleteObjects_rxKeeps env c).trans ⟨by constructor <;> rfl, rfl, rfl⟩
  · cases h
    exact (rxInitializeLLDP_rxKeeps env c).trans ⟨by constructor <;> rfl, rfl, rfl⟩
  · cases h
    exact ⟨by constructor <;> rfl, rfl, rfl⟩
  · refine RxKeeps.trans ?_ (rxProcessFrame_rxKeeps h)
    exact ⟨by constructor <;> rfl, rfl, rfl⟩
  · cases h
    exact (mibDeleteObjects_rxKeeps env c).trans ⟨by constructor <;> rfl, rfl, rfl⟩
  · cases h
    exact ⟨by constructor <;> rfl, rfl, rfl⟩

theorem runRxSm_keeps (h : runRxSm env c = .ok c') :
    RxKeeps c c' := by
  refine Machine.run_preserves (I := RxKeeps c) ?_ ?_ (.refl c) h
  · intro s t hs ht
    exact hs.trans (rxAction_rxKeeps ht)
  · intro s t b hs ht
    obtain ⟨rfl, -⟩ := rxMove_of_ok ht
    exact hs.trans ⟨by constructor <;> rfl, rfl, rfl⟩

/-- Where a run of the receive machine stops: it waits for the link, for the
administrator or for a frame, and it holds no frame that it has yet to process except
while it waits for the link. -/
structure RxAtRest (a : LldpAgent) : Prop where
  state : a.rx.state = .lldpWaitPortOperational ∨ a.rx.state = .rxLldpInitialize ∨
    a.rx.state = .rxWaitForFrame
  noFrame : a.rx.state ≠ .lldpWaitPortOperational → a.rx.rcvFrame = false

@[simp] theorem mibDeleteObjects_rx (env : Env μ) (c : Ctx μ) :
    (mibDeleteObjects env c).agent.rx = c.agent.rx := by
  obtain ⟨-, -, b, hb⟩ := callHooks_frame LldpModule.mibdelete env.modules c
  unfold mibDeleteObjects
  dsimp only
  rw [hb, kick_rx]

@[simp] theorem mibDeleteObjects_adminStatus (env : Env μ) (c : Ctx μ) :
    (mibDeleteObjects env c).agent.adminStatus = c.agent.adminStatus :=
  (mibDeleteObjects_rxKeeps env c).sameTxSide.adminStatus

/-- A final move finds the machine at rest, provided that the action of the
initialisation dropped a pending frame. -/
theorem atRest_of_final {p : Port} {a : LldpAgent}
    (hinit : a.rx.state = .rxLldpInitialize → a.rx.rcvFrame = false)
    (hstop : (nextRx p a).2 = false) : RxAtRest (a.withRxState (nextRx p a).1) := by
  have hnext := nextRx_cases p a
  generalize nextRx p a = r at hnext hstop ⊢
  cases hnext with
  | down => exact ⟨.inl rfl, fun h => absurd rfl h⟩
  | disabled hs => exact ⟨.inr (.inl rfl), fun _ => hinit hs⟩
  | waits _ _ hrcv => exact ⟨.inr (.inr rfl), fun _ => hrcv⟩
  | _ => cases hstop

theorem rxAction_state (h : rxAction env c = .ok c') :
    c'.agent.rx.state = c.agent.rx.state := by
  unfold rxAction at h
  split at h
  · cases h; rfl
  · cases h; simp [processDeleteAgedInfo]
  · cases h; simp [processRxLldpInitialize, rxInitializeLLDP]
  · cases h; rfl
  · exact (rxProcessFrame_rx h).1
  · cases h; simp [processDeleteInfo]
  · cases h; rfl

theorem runRxSm_atRest (h : runRxSm env c = .ok c') :
    RxAtRest c'.agent := by
  let J : Ctx μ → Prop := fun d =>
    d.agent.rx.state = .rxLldpInitialize → d.agent.rx.rcvFrame = false
  have hact : ∀ s t : Ctx μ, True → (rxMachine env).act s = .ok t → J t := by
    intro s t _ ht hst
    have hs : s.agent.rx.state = .rxLldpInitialize := (rxAction_state ht).symm.trans hst
    change rxAction env s = .ok t at ht
    rw [rxAction, hs] at ht
    cases ht
    rfl
  obtain ⟨t, hJ, ht⟩ := Machine.run_final (P := fun _ => True) (I := fun _ => True) (J := J)
    (fun _ _ _ _ _ => trivial) hact (fun _ _ _ _ _ => trivial) trivial h
  obtain ⟨rfl, hb⟩ := rxMove_of_ok ht
  exact atRest_of_final hJ hb.symm

end Lldpad.Lldp
