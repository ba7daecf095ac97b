import Lldpad.Proofs.Lldp.Shutdown

/-!
# `Lldpad.Proofs.Lldp.Idle`: what an agent keeps of its neighbour while no frame comes in

Without a frame an agent can only forget: the record of the neighbour stays or goes, the
time to live runs down.

* `Receives`: the agent would process a frame that arrives now.
* `runRxSm_idle`: a run of the receive machine that has no frame to process.
* `Subsides`, `Together`: what a turn without a frame can do to the record, and to the
  record next to what the receive side alone would keep.
* `turn_idled`: every turn without a frame is of this kind, but for
  the link going down on a neighbour that has run out, and but for the transmit machine's
  initialisation.
-/

namespace Lldpad.Lldp

open Lldpad.Lib

variable {μ : Type}

/-- The agent processes a frame that arrives now. -/
def Receives (p : Port) (a : LldpAgent) : Prop :=
  p.portEnabled = true ∧ a.adminStatus.allowsRx = true ∧ a.rx.state = .rxWaitForFrame ∧
    a.rx.rxInfoAge = false

instance (p : Port) (a : LldpAgent) : Decidable (Receives p a) :=
  inferInstanceAs (Decidable (_ ∧ _ ∧ _ ∧ _))

/-! ### Runs of the receive machine without a frame -/

/-- What a run without a frame keeps: the timers, the counters and what was recorded so
far. The neighbour is kept or deleted. -/
structure RxIdle (a b : LldpAgent) : Prop where
  timers : b.timers = a.timers
  stats : b.stats = a.stats
  loads : b.history.loads = a.history.loads
  processed : b.history.processed = a.history.processed
  record : b.msap = a.msap ∧ b.history.remote = a.history.remote ∨
    b.msap = {} ∧ b.history.remote = {}
  age : a.rx.rxInfoAge = true → b.rx.rxInfoAge = true ∨ b.msap = {}

/-- No frame to process, after a move. -/
structure IdleMoved (a b : LldpAgent) : Prop extends RxIdle a b where
  frame : b.rx.state = .rxFrame → b.rx.framein = none
  noUpdate : b.rx.state ≠ .updateInfo
  noFrame : b.rx.state = .rxWaitForFrame → b.rx.rcvFrame = false ∨ b.rx.framein = none
  aged : b.rx.state = .rxWaitForFrame → b.rx.rxInfoAge = true → b.msap = {}

/-- No frame to process, after an action. -/
structure IdleActed (a b : LldpAgent) : Prop extends RxIdle a b where
  state : b.rx.state ≠ .rxFrame ∧ b.rx.state ≠ .updateInfo
  noFrame : b.rx.state = .rxLldpInitialize ∨ b.rx.state = .rxWaitForFrame ∨
    b.rx.state = .deleteInfo → b.rx.rcvFrame = false ∨ b.rx.framein = none
  cleared : b.rx.state = .rxLldpInitialize ∨ b.rx.state = .deleteInfo → b.msap = {}
  aged : b.rx.state = .rxWaitForFrame → b.rx.rxInfoAge = false

/-- The machine starts a run without a frame: it is at rest, and it does not hold a frame
that it would process. -/
structure IdleStart (p : Port) (a : LldpAgent) : Prop where
  state : a.rx.state = .lldpWaitPortOperational ∨ a.rx.state = .rxLldpInitialize ∨
    a.rx.state = .rxWaitForFrame
  initialized : a.rx.state = .rxLldpInitialize → a.rx.rcvFrame = false ∧ a.msap = {}
  noFrame : Receives p a → a.rx.rcvFrame = false

theorem RxIdle.refl (a : LldpAgent) : RxIdle a a :=
  ⟨rfl, rfl, rfl, rfl, .inl ⟨rfl, rfl⟩, .inl⟩

variable {a b : LldpAgent} {c c' : Ctx μ} {env : Env μ}

theorem RxIdle.withRxState (h : RxIdle a b) (s : RxState) :
    RxIdle a (b.withRxState s) :=
  ⟨h.timers, h.stats, h.loads, h.processed, h.record, h.age⟩

theorem RxIdle.deleted {a b c : LldpAgent} (h : RxIdle a b) (htimers : c.timers = b.timers)
    (hstats : c.stats = b.stats) (hloads : c.history.loads = b.history.loads)
    (hprocessed : c.history.processed = b.history.processed) (hmsap : c.msap = {})
    (hremote : c.history.remote = {}) : RxIdle a c :=
  ⟨htimers.trans h.timers, hstats.trans h.stats, hloads.trans h.loads,
    hprocessed.trans h.processed, .inr ⟨hmsap, hremote⟩, fun _ => .inr hmsap⟩

theorem mibDeleteObjects_agent (env : Env μ) (c : Ctx μ) :
    ∃ b, (mibDeleteObjects env c).agent = { kick c.agent b with
      msap := {}, history := { c.agent.history with remote := {} } } := by
  obtain ⟨-, -, b, hb⟩ := callHooks_frame LldpModule.mibdelete env.modules c
  refine ⟨b, ?_⟩
  unfold mibDeleteObjects
  dsimp only
  rw [hb, kick_history]

theorem RxIdle.mibDelete (env : Env μ) {a : LldpAgent} {c : Ctx μ} (h : RxIdle a c.agent) :
    RxIdle a (mibDeleteObjects env c).agent := by
  obtain ⟨b, hb⟩ := mibDeleteObjects_agent env c
  rw [hb]
  exact h.deleted (kick_timers _ _) (kick_stats _ _) rfl rfl rfl rfl

theorem idleMoved_of_start {p : Port} {a : LldpAgent} (h : IdleStart p a) :
    IdleMoved a (a.withRxState (nextRx p a).1) := by
  have hbase := (RxIdle.refl a).withRxState (nextRx p a).1
  have hnext := nextRx_cases p a
  generalize nextRx p a = r at hnext hbase ⊢
  cases hnext with
  | listens hs =>
    obtain ⟨hrcv, hmsap⟩ := h.initialized hs
    exact ⟨hbase, nofun, nofun, fun _ => .inl hrcv, fun _ _ => hmsap⟩
  | frame hs hrx hage hup hrcv =>
    -- a frame would be processed here
    exact absurd (hrcv.symm.trans (h.noFrame ⟨hup, hrx, hs, hage⟩)) (by decide)
  | waits _ hage hrcv =>
    exact ⟨hbase, nofun, nofun, fun _ => .inl hrcv, fun _ h => absurd (hage.symm.trans h) (by decide)⟩
  | shutdown hs | changes hs => rcases h.state with hs' | hs' | hs' <;> cases hs.symm.trans hs'
  | back hs => rcases h.state with hs' | hs' | hs' <;> simp [hs'] at hs
  | _ => exact ⟨hbase, nofun, nofun, nofun, nofun⟩

theorem idleMoved_of_acted {p : Port} (h : IdleActed a b) :
    IdleMoved a (b.withRxState (nextRx p b).1) := by
  have hbase := h.toRxIdle.withRxState (nextRx p b).1
  have hnext := nextRx_cases p b
  generalize nextRx p b = r at hnext hbase ⊢
  cases hnext with
  | listens hs =>
    exact ⟨hbase, nofun, nofun, fun _ => h.noFrame (.inl hs), fun _ _ => h.cleared (.inl hs)⟩
  | frame hs _ _ _ hrcv =>
    -- the flag is set, but the frame is gone
    exact ⟨hbase, fun _ => (h.noFrame (.inr (.inl hs))).resolve_left (by simp [hrcv]),
      nofun, nofun, nofun⟩
  | waits _ hage hrcv =>
    exact ⟨hbase, nofun, nofun, fun _ => .inl hrcv, fun _ h => absurd (hage.symm.trans h) (by decide)⟩
  | shutdown hs => exact absurd hs h.state.1
  | changes hs => exact absurd hs h.state.1
  | back hs =>
    have hs' := (hs.resolve_left h.state.1).resolve_right h.state.2
    exact ⟨hbase, nofun, nofun, fun _ => h.noFrame (.inr (.inr hs')),
      fun _ _ => h.cleared (.inr hs')⟩
  | _ => exact ⟨hbase, nofun, nofun, nofun, nofun⟩

/-- An action of a run without a frame. -/
theorem idleActed_of_moved {a : LldpAgent}
    (h : IdleMoved a c.agent) (hact : rxAction env c = .ok c') : IdleActed a c'.agent := by
  have hstate := rxAction_state hact
  have hbase := h.toRxIdle
  unfold rxAction at hact
  cases hs : c.agent.rx.state with
  | lldpWaitPortOperational =>
    simp only [hs] at hact
    cases hact
    exact ⟨hbase, by simp [hs], by simp [hs], by simp [hs], by simp [hs]⟩
  | deleteAgedInfo =>
    simp only [hs] at hact
    cases hact
    have hdel := hbase.mibDelete env
    refine ⟨hdel.deleted rfl rfl rfl rfl rfl rfl, ?_, ?_, ?_, ?_⟩
    all_goals simp [hstate, hs]
  | rxLldpInitialize =>
    simp only [hs] at hact
    cases hact
    obtain ⟨b, hb⟩ := mibDeleteObjects_agent env { c with
      agent := { c.agent with
        rx := { c.agent.rx with
          rcvFrame := false, badFrame := false, tooManyNghbrs := false
          rxInfoAge := false, framein := none } } }
    have hagent : (rxInitializeLLDP env c).agent = _ := hb
    refine ⟨hbase.deleted ?_ ?_ ?_ ?_ rfl rfl, by simp [hstate, hs], fun _ => .inl rfl,
      fun _ => rfl, by simp [hstate, hs]⟩
    · rw [processRxLldpInitialize, hagent, kick_timers]
    · rw [processRxLldpInitialize, hagent, kick_stats]
    · rw [processRxLldpInitialize, hagent]
    · rw [processRxLldpInitialize, hagent]
  | rxWaitForFrame =>
    simp only [hs] at hact
    cases hact
    have haged := h.aged hs
    refine ⟨⟨hbase.timers, hbase.stats, hbase.loads, hbase.processed, hbase.record, ?_⟩, ?_,
      fun _ => h.noFrame hs, ?_, fun _ => rfl⟩
    · -- a pending age-out is dropped here, but only once the neighbour is gone
      intro hage
      rcases hbase.age hage with h' | h'
      · exact .inr (haged h')
      · exact .inr h'
    all_goals
      change (processWaitForFrame c.agent).rx.state = _ at hstate
      simp [hstate, hs]
  | rxFrame =>
    -- the frame is gone, so the program would stop here
    simp only [hs] at hact
    have hnone := h.frame hs
    unfold processRxFrame rxProcessFrame at hact
    simp only [hnone] at hact
    cases hact
  | deleteInfo =>
    simp only [hs] at hact
    cases hact
    have hdel := hbase.mibDelete env
    refine ⟨hdel.deleted rfl rfl rfl rfl rfl rfl, ?_, fun _ => .inr rfl, fun _ => rfl, ?_⟩
    all_goals simp [hstate, hs]
  | updateInfo => exact absurd hs h.noUpdate

theorem of_nextRx_initialize {p : Port} {a : LldpAgent}
    (h : nextRx p a = (.rxLldpInitialize, false)) :
    a.rx.state = .rxLldpInitialize ∧ a.adminStatus.allowsRx = false := by
  have hnext := nextRx_cases p a
  rw [h] at hnext
  cases hnext with
  | disabled hs hrx => exact ⟨hs, hrx⟩

theorem runRxSm_idle (hs : IdleStart c.port c.agent) (h : runRxSm env c = .ok c') :
    IdleMoved c.agent c'.agent ∧
      (c'.agent.rx.state = .rxLldpInitialize →
        c'.agent.msap = {} ∧ c'.agent.adminStatus.allowsRx = false) := by
  obtain ⟨t, hacted, ht⟩ := Machine.run_final
    (P := fun d : Ctx μ => d = c)
    (I := fun d => IdleMoved c.agent d.agent) (J := fun d => IdleActed c.agent d.agent)
    (by
      rintro _ d b rfl hd
      obtain ⟨rfl, -⟩ := rxMove_of_ok hd
      exact idleMoved_of_start hs)
    (fun d e hd he => idleActed_of_moved hd he)
    (by
      intro d e b hd he
      obtain ⟨rfl, -⟩ := rxMove_of_ok he
      exact idleMoved_of_acted hd)
    rfl h
  obtain ⟨rfl, hstop⟩ := rxMove_of_ok ht
  refine ⟨idleMoved_of_acted hacted, fun hinit => ?_⟩
  change (nextRx t.port t.agent).1 = _ at hinit
  obtain ⟨hst, hrx⟩ := of_nextRx_initialize (Prod.ext hinit hstop.symm)
  exact ⟨hacted.cleared (.inl hst), hrx⟩

theorem runRxSm_down {c : Ctx μ} (hage : c.agent.rx.rxInfoAge = false)
    (hdown : c.port.portEnabled = false) :
    runRxSm env c = .ok { c with agent := c.agent.withRxState .lldpWaitPortOperational } := by
  have hnext : ∀ a : LldpAgent, a.rx.rxInfoAge = false →
      nextRx c.port a = (.lldpWaitPortOperational, false) := by
    intro a ha
    simp [nextRx, ha, hdown]
  let d : Ctx μ := { c with agent := c.agent.withRxState .lldpWaitPortOperational }
  have hmove : ∀ a : LldpAgent, a.rx.rxInfoAge = false →
      (rxMachine env).move { c with agent := a }
        = .ok ({ c with agent := a.withRxState .lldpWaitPortOperational }, false) := by
    intro a ha
    rw [rxMachine_move]
    show Except.ok ({ c with agent := a.withRxState (nextRx c.port a).1 }, (nextRx c.port a).2) = _
    rw [hnext a ha]
  exact Machine.run_eq_of_final (hmove c.agent hage) (rfl : (rxMachine env).act d = .ok d)
    (hmove d.agent hage)

/-! ### The transmit machine and the record -/

theorem txAction_record (env : Env μ) (c : Ctx μ) :
    (c.agent.tx.state = .txLldpInitialize ∧ (txAction env c).agent.msap = {} ∧
        (txAction env c).agent.lldpdu = 0) ∨
      (c.agent.tx.state ≠ .txLldpInitialize ∧ (txAction env c).agent.msap = c.agent.msap ∧
        (txAction env c).agent.lldpdu = c.agent.lldpdu ∧
        (txAction env c).agent.timers.reinitDelay = c.agent.timers.reinitDelay ∧
        (c.agent.timers.reinitDelay ≠ 0 → c.agent.tx.state = .txShutdownFrame →
          (txAction env c).agent.timers.txShutdownWhile ≠ 0)) := by
  unfold txAction
  cases hs : c.agent.tx.state with
  | txLldpInitialize => exact .inl ⟨rfl, rfl, rfl⟩
  | txIdle => exact .inr ⟨nofun, rfl, rfl, rfl, nofun⟩
  | txShutdownFrame =>
    obtain ⟨d, hd, heq⟩ := processTxShutdownFrame_eq env c
    refine .inr ⟨nofun, ?_⟩
    rw [heq, hd.agent]
    refine ⟨rfl, rfl, rfl, fun hdelay _ => ?_⟩
    split_ifs with hw
    · exact hdelay
    · exact hw
  | txInfoFrame =>
    obtain ⟨d, hd, heq⟩ := processTxInfoFrame_eq env c
    refine .inr ⟨nofun, ?_⟩
    dsimp only
    rw [heq, hd.agent]
    exact ⟨rfl, rfl, rfl, nofun⟩

theorem runTxSm_record (h : runTxSm env c = .ok c') :
    c'.agent.msap = c.agent.msap ∧ c'.agent.lldpdu = c.agent.lldpdu ∨
      c'.agent.msap = {} ∧ c'.agent.lldpdu = 0 := by
  refine Machine.run_preserves (I := fun d : Ctx μ =>
    d.agent.msap = c.agent.msap ∧ d.agent.lldpdu = c.agent.lldpdu ∨
      d.agent.msap = {} ∧ d.agent.lldpdu = 0) ?_ ?_ (.inl ⟨rfl, rfl⟩) h
  · intro s t hs ht
    cases ht
    rcases txAction_record env s with ⟨-, hmsap, hlldpdu⟩ | ⟨-, hmsap, hlldpdu, -⟩
    · exact .inr ⟨hmsap, hlldpdu⟩
    · rw [hmsap, hlldpdu]
      exact hs
  · intro s t b hs ht
    obtain ⟨rfl, -⟩ := txMove_of_ok ht
    exact hs

/-- The transmit machine starts with its initialisation. -/
def TxInitializes (p : Port) (a : LldpAgent) : Prop := (nextTx p a).1 = .txLldpInitialize

instance (p : Port) (a : LldpAgent) : Decidable (TxInitializes p a) :=
  inferInstanceAs (Decidable (_ = _))

/-- A run of the transmit machine that does not start with the initialisation does not get
to it. -/
theorem runTxSm_record_of_not
    (hnot : ¬TxInitializes c.port c.agent) (hdelay : c.agent.timers.reinitDelay ≠ 0)
    (h : runTxSm env c = .ok c') :
    c'.agent.msap = c.agent.msap ∧ c'.agent.lldpdu = c.agent.lldpdu := by
  -- after a move: not in the initial state, and no edge of the link to come
  let I : Ctx μ → Prop := fun d => d.agent.tx.state ≠ .txLldpInitialize ∧
    d.port.prevPortEnabled = d.port.portEnabled ∧ d.agent.msap = c.agent.msap ∧
    d.agent.lldpdu = c.agent.lldpdu ∧ d.agent.timers.reinitDelay ≠ 0
  -- after an action: the same, and the shutdown timer runs in the shutdown state
  let J : Ctx μ → Prop := fun d => I d ∧
    (d.agent.tx.state = .txShutdownFrame → d.agent.timers.txShutdownWhile ≠ 0)
  have hend : I c' := by
    refine Machine.run_induction (P := fun d => d = c) (I := I) (J := J) ?_ ?_ ?_ rfl h
    · rintro _ d b rfl hd
      obtain ⟨rfl, -⟩ := txMove_of_ok hd
      exact ⟨hnot, rfl, rfl, rfl, hdelay⟩
    · rintro d e ⟨hs, hport, hmsap, hlldpdu, hd⟩ he
      cases he
      obtain ⟨hstate, -, -⟩ := txAction_state env d
      have hp := (txAction_keeps env d).2.1
      rcases txAction_record env d with ⟨hinit, -⟩ | ⟨-, hmsap', hlldpdu', hdelay', hwhile⟩
      · exact absurd hinit hs
      · exact ⟨⟨by rw [hstate]; exact hs, by rw [hp]; exact hport, hmsap'.trans hmsap,
          hlldpdu'.trans hlldpdu, by rw [hdelay']; exact hd⟩,
          fun hshut => hwhile hd (hstate ▸ hshut)⟩
    · rintro d e b ⟨⟨hs, hport, hmsap, hlldpdu, hd⟩, hwhile⟩ he
      obtain ⟨rfl, -⟩ := txMove_of_ok he
      refine ⟨?_, rfl, hmsap, hlldpdu, hd⟩
      have hnofall : ¬(d.port.portEnabled = false ∧ d.port.prevPortEnabled = true) := by
        rw [hport]
        simp
      show (nextTx d.port d.agent).1 ≠ _
      rw [nextTx_of_not_falls _ hnofall]
      cases hst : d.agent.tx.state with
      | txLldpInitialize => exact absurd hst hs
      | txIdle => dsimp only; split_ifs <;> simp
      | txShutdownFrame => simp [hwhile hst]
      | txInfoFrame => simp
  exact ⟨hend.2.2.1, hend.2.2.2.1⟩

theorem runTxSm_record_of_initializes
    (hinit : TxInitializes c.port c.agent) (h : runTxSm env c = .ok c') :
    c'.agent.msap = {} ∧ c'.agent.lldpdu = 0 := by
  -- after the first move the machine is in its initial state, and its action wipes
  obtain ⟨t, hwiped, ht⟩ := Machine.run_final (P := fun d : Ctx μ => d = c)
    (I := fun d => d.agent.tx.state = .txLldpInitialize ∨ d.agent.msap = {} ∧ d.agent.lldpdu = 0)
    (J := fun d => d.agent.msap = {} ∧ d.agent.lldpdu = 0)
    (by
      rintro _ d b rfl hd
      obtain ⟨rfl, -⟩ := txMove_of_ok hd
      exact .inl hinit)
    (by
      rintro d e hd he
      cases he
      rcases txAction_record env d with ⟨-, hrecord⟩ | ⟨hs, hmsap, hlldpdu, -⟩
      · exact hrecord
      · obtain ⟨h₁, h₂⟩ := hd.resolve_left hs
        exact ⟨hmsap.trans h₁, hlldpdu.trans h₂⟩)
    (by
      rintro d e b hd he
      obtain ⟨rfl, -⟩ := txMove_of_ok he
      exact .inr hd)
    rfl h
  obtain ⟨rfl, -⟩ := txMove_of_ok ht
  exact hwiped

/-! ### Turns without a frame -/

/-- The time to live runs, or an age-out is pending. -/
def Alive (a : LldpAgent) : Prop := a.timers.rxTTL ≠ 0 ∨ a.rx.rxInfoAge = true

/-- From `a` to `b` the agent took up nothing about a neighbour. -/
structure Subsides (a b : LldpAgent) : Prop where
  loads : b.history.loads = a.history.loads
  processed : b.history.processed = a.history.processed
  lastrxTTL : b.timers.lastrxTTL = a.timers.lastrxTTL
  rxTTL : b.timers.rxTTL ≤ a.timers.rxTTL
  record : b.msap = a.msap ∨ b.msap = {}

/-- From `a` to `b` a neighbour that stays on record stays alive. -/
def StaysAlive (a b : LldpAgent) : Prop := b.msap ≠ {} → Alive a → Alive b

/-- From `a` to `b` the record and what the receive side alone would keep did the same. -/
def Together (a b : LldpAgent) : Prop :=
  b.msap = a.msap ∧ b.history.remote = a.history.remote ∨ b.msap = {} ∧ b.history.remote = {}

theorem Subsides.refl (a : LldpAgent) : Subsides a a := ⟨rfl, rfl, rfl, Nat.le_refl _, .inl rfl⟩

theorem Subsides.trans {a b c : LldpAgent} (h : Subsides a b) (h' : Subsides b c) :
    Subsides a c where
  loads := h'.loads.trans h.loads
  processed := h'.processed.trans h.processed
  lastrxTTL := h'.lastrxTTL.trans h.lastrxTTL
  rxTTL := Nat.le_trans h'.rxTTL h.rxTTL
  record := by
    rcases h'.record with h'' | h''
    · rw [h'']
      exact h.record
    · exact .inr h''

theorem StaysAlive.refl (a : LldpAgent) : StaysAlive a a := fun _ => id

theorem StaysAlive.trans {a b c : LldpAgent} (h : StaysAlive a b) (hbc : Subsides b c)
    (h' : StaysAlive b c) : StaysAlive a c := by
  intro hc ha
  refine h' hc (h ?_ ha)
  rcases hbc.record with h'' | h''
  · rwa [← h'']
  · exact absurd h'' hc

theorem Together.refl (a : LldpAgent) : Together a a := .inl ⟨rfl, rfl⟩

theorem Together.trans {a b c : LldpAgent} (h : Together a b) (h' : Together b c) :
    Together a c := by
  rcases h' with ⟨h₁, h₂⟩ | h'
  · rcases h with ⟨h₃, h₄⟩ | ⟨h₃, h₄⟩
    · exact .inl ⟨h₁.trans h₃, h₂.trans h₄⟩
    · exact .inr ⟨h₁.trans h₃, h₂.trans h₄⟩
  · exact .inr h'

theorem RxIdle.subsides (h : RxIdle a b) : Subsides a b where
  loads := h.loads
  processed := h.processed
  lastrxTTL := by rw [h.timers]
  rxTTL := Nat.le_of_eq (by rw [h.timers])
  record := by
    rcases h.record with ⟨h', -⟩ | ⟨h', -⟩
    · exact .inl h'
    · exact .inr h'

theorem RxIdle.staysAlive (h : RxIdle a b) : StaysAlive a b := by
  rintro hne (httl | hage)
  · exact .inl (by rw [h.timers]; exact httl)
  · exact .inr ((h.age hage).resolve_right hne)

theorem SameRxSide.subsides (h : SameRxSide a b)
    (hrecord : b.msap = a.msap ∨ b.msap = {}) : Subsides a b where
  loads := by rw [h.history]
  processed := by rw [h.history]
  lastrxTTL := h.lastrxTTL
  rxTTL := Nat.le_of_eq h.rxTTL
  record := hrecord

theorem SameRxSide.staysAlive (h : SameRxSide a b) : StaysAlive a b := by
  intro _ ha
  unfold Alive
  rw [h.rxTTL, h.rx]
  exact ha

theorem SameRxSide.together (h : SameRxSide a b) (hmsap : b.msap = a.msap) :
    Together a b :=
  .inl ⟨hmsap, by rw [h.history]⟩

theorem updateRxTimers_subsides (a : LldpAgent) :
    Subsides a (updateRxTimers a) ∧ StaysAlive a (updateRxTimers a) ∧
      Together a (updateRxTimers a) := by
  unfold updateRxTimers
  dsimp only
  split_ifs <;>
    exact ⟨⟨rfl, rfl, rfl, by simp, .inl rfl⟩, fun _ ha => by simp_all [Alive], .refl _⟩

theorem kick_subsides (a : LldpAgent) (b : Bool) :
    Subsides a (kick a b) ∧ StaysAlive a (kick a b) ∧ Together a (kick a b) := by
  cases b <;> exact ⟨⟨rfl, rfl, rfl, Nat.le_refl _, .inl rfl⟩, fun _ => id, .refl _⟩

/-- What the receive machine's rest in its initial state tells. -/
def Initialized (a : LldpAgent) : Prop := a.rx.state = .rxLldpInitialize → a.msap = {}

theorem idleStart_of_atRest {p : Port} {a : LldpAgent} (hrest : RxAtRest a)
    (hinit : Initialized a) : IdleStart p a where
  state := hrest.state
  initialized := fun hs => ⟨hrest.noFrame (by simp [hs]), hinit hs⟩
  noFrame := fun hr => hrest.noFrame (by simp [hr.2.2.1])

/-- An agent that is at rest in the initial state of its receive machine holds no record,
and it may not receive. -/
def Barred (a : LldpAgent) : Prop :=
  a.rx.state = .rxLldpInitialize → a.msap = {} ∧ a.adminStatus.allowsRx = false

theorem runSms_subsides (hrest : RxAtRest c.agent)
    (hinit : Initialized c.agent) (h : runSms env c = .ok c') :
    Subsides c.agent c'.agent ∧ StaysAlive c.agent c'.agent ∧
      (c.agent.timers.reinitDelay ≠ 0 → ¬TxInitializes c.port c.agent ∨ c.agent.msap = {} →
        Together c.agent c'.agent) ∧ Barred c'.agent ∧
      (TxInitializes c.port c.agent → c'.agent.msap = {}) := by
  obtain ⟨d, htx, hrx⟩ := bind_eq_ok.mp h
  have hsame := (runTxSm_keeps htx).sameRxSide
  have hrecord : d.agent.msap = c.agent.msap ∨ d.agent.msap = {} := by
    rcases runTxSm_record htx with ⟨h', -⟩ | ⟨h', -⟩
    · exact .inl h'
    · exact .inr h'
  have hinit' : Initialized d.agent := by
    intro hs
    rcases hrecord with h' | h'
    · rw [h']
      exact hinit (by rw [← hs, hsame.rx])
    · exact h'
  obtain ⟨hidle, hstop⟩ := runRxSm_idle (idleStart_of_atRest (hsame.rxAtRest hrest) hinit') hrx
  refine ⟨(hsame.subsides hrecord).trans hidle.subsides,
    hsame.staysAlive.trans hidle.subsides hidle.staysAlive, ?_, hstop, ?_⟩
  · intro hdelay hkeep
    refine Together.trans (hsame.together ?_) hidle.record
    rcases hkeep with hnot | hempty
    · exact (runTxSm_record_of_not hnot hdelay htx).1
    · rcases hrecord with h' | h'
      · exact h'
      · exact h'.trans hempty.symm
  · intro hwipe
    exact hidle.subsides.record.elim
      (fun h' => h'.trans (runTxSm_record_of_initializes hwipe htx).1) id

/-- A turn in which no frame is processed, and none is repeated. -/
def FrameFree : AgentEvent → Ctx μ → Prop
  | .accept _, c => ¬Receives c.port c.agent
  | .repeated _, _ => False
  | _, _ => True

/-- A turn starts with the transmit machine's initialisation while a neighbour is on
record. On a tick the shutdown state is left by way of it when the agent may not
transmit. -/
def Wipes : AgentEvent → Ctx μ → Prop
  | .tick, c => c.agent.msap ≠ {} ∧ (TxInitializes c.port c.agent ∨
      c.agent.tx.state = .txShutdownFrame ∧ maySend c.port c.agent = false)
  | .setAdmin admin, c => c.agent.msap ≠ {} ∧ c.agent.adminStatus ≠ admin ∧
      TxInitializes c.port (somethingChangedLocal { c.agent with adminStatus := admin })
  | .portEnable _, c => c.agent.msap ≠ {} ∧ TxInitializes c.port c.agent
  | _, _ => False

/-- The link goes down on a neighbour whose time to live has run out, and the transmit
machine does not wipe the record. -/
def DropsAged : AgentEvent → Ctx μ → Prop
  | .portEnable false, c => c.agent.msap ≠ {} ∧ c.agent.timers.rxTTL = 0 ∧
      ¬TxInitializes c.port c.agent
  | _, _ => False

theorem txInitializes_iff {p : Port} {a : LldpAgent} :
    TxInitializes p a ↔ (p.portEnabled = false ∧ p.prevPortEnabled = true) ∨
      (a.tx.state = .txLldpInitialize ∧ maySend p a = false) ∨
      (a.tx.state = .txShutdownFrame ∧ a.timers.txShutdownWhile = 0) := by
  unfold TxInitializes
  by_cases hfall : p.portEnabled = false ∧ p.prevPortEnabled = true
  · rw [nextTx_of_falls _ hfall]
    simp [hfall]
  · rw [nextTx_of_not_falls _ hfall]
    cases hs : a.tx.state with
    | txLldpInitialize =>
      by_cases hmay : p.portEnabled = true ∧ a.adminStatus.allowsTx = true
      · simp [hmay, maySend]
      · have hbar : maySend p a = false := by
          rw [maySend, ← Bool.not_eq_true, Bool.and_eq_true]
          exact hmay
        simp [if_neg hmay, hbar]
    | txIdle => dsimp only; split_ifs <;> simp_all
    | txShutdownFrame => by_cases hw : a.timers.txShutdownWhile = 0 <;> simp_all
    | txInfoFrame => simp_all

/-- What a turn without a frame does. -/
structure Idled (ev : AgentEvent) (c c' : Ctx μ) : Prop where
  subsides : Subsides c.agent c'.agent
  alive : ¬DropsAged ev c → StaysAlive c.agent c'.agent
  together : ¬Wipes ev c → Together c.agent c'.agent
  barred : Barred c'.agent

/-- The tick, as a turn without a frame. -/
theorem agentTick_idled (hrest : AgentAtRest c.agent)
    (hbarred : Barred c.agent) (h : agentTick env c = .ok c') : Idled .tick c c' := by
  obtain ⟨a, d, ha, hd, rfl⟩ := agentTick_eq_ok.mp h
  have hk := runTxTimersSm_keeps ha
  have hsame : SameRxSide c.agent a := by
    have h₀ : SameRxSide c.agent (updateTxTimers c.agent) := by constructor <;> rfl
    exact h₀.trans hk.sameRxSide
  have hmsap : a.msap = c.agent.msap := hk.msap
  have hinit : Initialized a := by
    intro hs
    rw [hmsap]
    exact (hbarred (by rw [← hs, hsame.rx])).1
  obtain ⟨hsub, halive, htog, hbar, -⟩ :=
    runSms_subsides (c := { c with agent := a }) (hsame.rxAtRest hrest.rxAtRest) hinit hd
  -- the receive timers, and the modules' hooks
  obtain ⟨hsub', halive', htog'⟩ := updateRxTimers_subsides d.agent
  obtain ⟨-, -, b, hb⟩ := callHooks_frame LldpModule.timer env.modules
    { d with agent := updateRxTimers d.agent }
  obtain ⟨hsub'', halive'', htog''⟩ := kick_subsides (updateRxTimers d.agent) b
  have hstart := hsame.subsides (.inl hmsap)
  refine ⟨?_, fun _ => ?_, fun hwipe => ?_, ?_⟩
  · rw [hb]
    exact hstart.trans (hsub.trans (hsub'.trans hsub''))
  · rw [hb]
    exact hsame.staysAlive.trans (hsub.trans (hsub'.trans hsub''))
      (halive.trans (hsub'.trans hsub'') (halive'.trans hsub'' halive''))
  · rw [hb]
    refine (hsame.together hmsap).trans (Together.trans ?_ (htog'.trans htog''))
    refine htog ?_ ?_
    · show a.timers.reinitDelay ≠ 0
      rw [hk.reinitDelay]
      exact (by rw [show (updateTxTimers c.agent).timers.reinitDelay = _ from hrest.reinitDelay]
                decide)
    · by_cases hempty : c.agent.msap = {}
      · exact .inr (hmsap.trans hempty)
      · refine .inl fun htx => hwipe ⟨hempty, ?_⟩
        have hstate : a.tx.state = c.agent.tx.state := hk.txState
        have hmay : maySend c.port a = maySend c.port c.agent :=
          (maySend_of_keep hk).trans rfl
        rcases txInitializes_iff.mp htx with hfall | ⟨hs, hbar⟩ | ⟨hs, hw⟩
        · exact .inl (txInitializes_iff.mpr (.inl hfall))
        · exact .inl (txInitializes_iff.mpr (.inr (.inl ⟨hstate ▸ hs, hmay ▸ hbar⟩)))
        · cases hm : maySend c.port c.agent with
          | false => exact .inr ⟨hstate ▸ hs, rfl⟩
          | true =>
            -- the timer machine does not touch a timer that runs
            rw [runTxTimersSm_shutdownWhile (a := updateTxTimers c.agent) hm ha] at hw
            exact .inl (txInitializes_iff.mpr (.inr (.inr ⟨hstate ▸ hs, hw⟩)))
  · rw [hb]
    intro hs
    rw [kick_rx, (updateRxTimers_rx d.agent).1] at hs
    obtain ⟨hempty, hrx⟩ := hbar hs
    refine ⟨?_, ?_⟩
    · rw [kick_msap]
      exact hsub'.record.elim (fun h => h.trans hempty) id
    · rw [kick_adminStatus, (updateRxTimers_sameTxSide d.agent).adminStatus]
      exact hrx

/-- What `reinit_port` leaves of an agent. -/
structure Reinitialized (a b : LldpAgent) : Prop where
  loads : b.history.loads = a.history.loads
  processed : b.history.processed = a.history.processed
  remote : b.history.remote = {}
  rxTTL : b.timers.rxTTL = a.timers.rxTTL
  lastrxTTL : b.timers.lastrxTTL = a.timers.lastrxTTL
  state : b.rx.state = .lldpWaitPortOperational

theorem rxInitializeLLDP_agent (env : Env μ) (c : Ctx μ) :
    (rxInitializeLLDP env c).agent.history = { c.agent.history with remote := {} } ∧
      (rxInitializeLLDP env c).agent.timers = c.agent.timers ∧
      (rxInitializeLLDP env c).agent.rx.state = c.agent.rx.state := by
  obtain ⟨b, hb⟩ := mibDeleteObjects_agent env { c with
    agent := { c.agent with
      rx := { c.agent.rx with
        rcvFrame := false, badFrame := false, tooManyNghbrs := false
        rxInfoAge := false, framein := none } } }
  have hagent : (rxInitializeLLDP env c).agent = _ := hb
  rw [hagent]
  exact ⟨rfl, by simp, by simp⟩

theorem reinitAgent_agent (env : Env μ) (c : Ctx μ) :
    Reinitialized c.agent (reinitAgent env c).agent := by
  obtain ⟨hhistory, htimers, hstate⟩ := rxInitializeLLDP_agent env { c with
    agent := { c.agent with
      tx := { c.agent.tx with state := .txLldpInitialize }
      rx := { c.agent.rx with state := .lldpWaitPortOperational }
      msap := { length1 := 0, msap1 := none, length2 := 0, msap2 := none }
      lldpdu := 0
      timers := { c.agent.timers with state := .txTimerBegin } } }
  have hloads := congrArg RxHistory.loads hhistory
  have hprocessed := congrArg RxHistory.processed hhistory
  have hremote := congrArg RxHistory.remote hhistory
  have hrxTTL := congrArg AgentTimers.rxTTL htimers
  have hlast := congrArg AgentTimers.lastrxTTL htimers
  exact ⟨hloads, hprocessed, hremote, hrxTTL, hlast, hstate⟩

/-- A turn without a frame takes up nothing about a neighbour. -/
theorem turn_idled {ev : AgentEvent} (hfree : FrameFree ev c)
    (hrest : AgentAtRest c.agent) (hbarred : Barred c.agent)
    (h : agentHandle env ev c = .ok c') : Idled ev c c' := by
  have hinit : Initialized c.agent := fun hs => (hbarred hs).1
  have hdelay : c.agent.timers.reinitDelay ≠ 0 := by
    rw [hrest.reinitDelay]
    decide
  cases ev with
  | tick => exact agentTick_idled hrest hbarred h
  | setAdmin admin =>
    rcases setAgentAdmin_eq_ok h with ⟨hchange, h⟩ | ⟨-, rfl⟩
    · have hrest' : RxAtRest (somethingChangedLocal { c.agent with adminStatus := admin }) :=
        hrest.rxAtRest.of_rx rfl rfl
      obtain ⟨hsub, halive, htog, hbar, -⟩ := runSms_subsides (c := { c with
        agent := somethingChangedLocal { c.agent with adminStatus := admin } }) hrest' hinit h
      refine ⟨⟨hsub.loads, hsub.processed, hsub.lastrxTTL, hsub.rxTTL, hsub.record⟩,
        fun _ => halive, fun hwipe => htog hdelay ?_, hbar⟩
      by_cases hempty : c.agent.msap = {}
      · exact .inr hempty
      · exact .inl fun htx => hwipe ⟨hempty, hchange, htx⟩
    · exact ⟨.refl _, fun _ => .refl _, fun _ => .refl _, hbarred⟩
  | portEnable enable =>
    let a := if enable then c.agent else dropInfoAge c.agent
    have hsame : Subsides c.agent a ∧ Together c.agent a ∧ a.msap = c.agent.msap := by
      cases enable <;> exact ⟨⟨rfl, rfl, rfl, Nat.le_refl _, .inl rfl⟩, .refl _, rfl⟩
    have hrest' : RxAtRest a := by
      cases enable <;> exact hrest.rxAtRest.of_rx rfl rfl
    have hinit' : Initialized a := by
      cases enable <;> exact hinit
    obtain ⟨hsub, halive, htog, hbar, hwiped⟩ :=
      runSms_subsides (c := { c with agent := a }) hrest' hinit' h
    have htx : TxInitializes c.port a ↔ TxInitializes c.port c.agent := by
      cases enable <;> exact Iff.rfl
    refine ⟨hsame.1.trans hsub, fun hdrop hne ha => halive hne ?_,
      fun hwipe => hsame.2.1.trans (htog ?_ ?_), hbar⟩
    · cases enable with
      | true => exact ha
      | false =>
        -- the time to live runs, so the age-out that is dropped is not needed
        refine .inl fun httl => hdrop ⟨?_, httl, fun hinit => hne (hwiped (htx.mpr hinit))⟩
        rcases hsub.record with h' | h'
        · rw [h'] at hne
          exact hne
        · exact absurd h' hne
    · cases enable <;> exact hdelay
    · by_cases hempty : c.agent.msap = {}
      · exact .inr (hsame.2.2.trans hempty)
      · refine .inl fun htx => hwipe ⟨hempty, ?_⟩
        cases enable <;> exact htx
  | reinit =>
    cases h
    have hframe := reinitAgent_agent env c
    refine ⟨⟨hframe.loads, hframe.processed, hframe.lastrxTTL, Nat.le_of_eq hframe.rxTTL, .inr rfl⟩,
      fun _ hne => absurd rfl hne, fun _ => .inr ⟨rfl, hframe.remote⟩, fun hs => ?_⟩
    rw [hframe.state] at hs
    cases hs
  | accept f =>
    rcases rxAcceptFrame_eq_ok h with ⟨-, rfl⟩ | ⟨hadmin, h⟩
    · exact ⟨.refl _, fun _ => .refl _, fun _ => .refl _, hbarred⟩
    · have hrx : c.agent.adminStatus.allowsRx = true :=
        Bool.not_eq_false _ ▸ fun hno => hadmin (allowsRx_eq_false.mp hno)
      have hstart : IdleStart c.port { c.agent with
          rx := { c.agent.rx with framein := some f, rcvFrame := true }
          stats := { c.agent.stats with
            statsFramesInTotal := c.agent.stats.statsFramesInTotal + 1 } } := by
        refine ⟨hrest.rxAtRest.state, fun hs => ?_, fun hr => absurd hr hfree⟩
        exact absurd hrx (by simp [(hbarred hs).2])
      obtain ⟨hidle, hbar⟩ := runRxSm_idle (c := { c with agent := _ }) hstart h
      have hsub := hidle.subsides
      exact ⟨⟨hsub.loads, hsub.processed, hsub.lastrxTTL, hsub.rxTTL, hsub.record⟩,
        fun _ => hidle.staysAlive, fun _ => hidle.record, hbar⟩
  | repeated f => exact absurd hfree id
  | localChange =>
    cases h
    obtain ⟨hsub, halive, htog⟩ := kick_subsides c.agent true
    exact ⟨hsub, fun _ => halive, fun _ => htog, hbarred⟩
  | updateTtl ttl =>
    cases h
    exact ⟨⟨rfl, rfl, rfl, Nat.le_refl _, .inl rfl⟩, fun _ _ => id, fun _ => .refl _, hbarred⟩

end Lldpad.Lldp
