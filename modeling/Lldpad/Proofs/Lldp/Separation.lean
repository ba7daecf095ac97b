import Lldpad.Proofs.Lldp.Refresh
import Lldpad.Proofs.Lldp.AgentRuns

/-!
# `Lldpad.Proofs.Lldp.Separation`: what the transmit side does to the receive side

The transmit machine's initialisation wipes the record of the neighbour. The machine is in
its initial state, and runs the initialisation on every tick, as long as the agent may not
transmit. So an agent that only receives forgets its neighbour once a second, and takes a
second neighbour for the first one. A copy of the second neighbour's stored frame does not get
as far as that: `rxReceiveFrame` counts it for the first one.

* `txKeepsRecord_iff`: the two machines keep the record if and only if the transmit machine
  does not start with its initialisation, or there is nothing to wipe.
* `remembers_of_unwiped`: from a state in which the receive side's neighbour is on record, the
  record is what the receive side alone would keep, as long as the turns of the agent do not wipe
  it.
* `txSide_iff`: both, with what follows for a frame of a second neighbour.
-/

namespace Lldpad.Lldp

open Lldpad.Lib

variable {μ : Type}

/-! ### The property -/

/-- The recorded identity, the marks and the stored frame are the same. -/
def SameRecord (a b : LldpAgent) : Prop :=
  b.msap = a.msap ∧ b.lldpdu = a.lldpdu ∧ b.rx.framein = a.rx.framein

/-- The two machines of the transmit side leave the record alone. -/
def TxKeepsRecord (env : Env μ) (c : Ctx μ) : Prop :=
  (∀ a, runTxTimersSm c.port c.agent = .ok a → SameRecord c.agent a) ∧
    ∀ c', runTxSm env c = .ok c' → SameRecord c.agent c'.agent

/-- The receive side took up the identity `x`, `y`, and its time to live runs. -/
def Tracks (a : LldpAgent) (x y : Bytes) : Prop :=
  a.history.remote.msap1 = some x ∧ a.history.remote.msap2 = some y ∧ a.timers.rxTTL ≠ 0

/-- The agent told a frame from those of the neighbour on record: the flag is set, and the first
neighbour keeps its record and its time. -/
def ToldApart (a b : LldpAgent) : Prop :=
  b.rx.tooManyNghbrs = true ∧ b.timers.rxTTL = a.timers.rxTTL ∧ b.msap = a.msap

/-- A frame for agent `a` comes in that is not from the neighbour `x`, `y` whose time to live
runs. The agent may receive, and the walk over the frame gets to its port ID. -/
structure SecondFrame (env : Env μ) (s : PortState μ) (f : Frame) (a : LldpAgent)
    (x y : Bytes) : Prop where
  size : f.size ≠ 0
  arrives : ∃ ev, receiver f s.agents = some (ev, a)
  tracks : Tracks a x y
  other : ¬(f.chassisId = x ∧ f.portId = y)
  receives : Receives s.port a
  reaches : 2 ≤ (Ctx.outcome env { s.toWorld with agent := a } f).created.length

/-- The turn that an event gives the agent of a type meets a condition. -/
def OwnTurnMeets (env : Env μ) (type : AgentType) (cond : AgentEvent → Ctx μ → Prop)
    (s : PortState μ) (e : Event μ) : Prop :=
  ∀ ev c, turnOf env type s e = some (ev, c) → cond ev c

/-- The frame is not a copy of the stored one. If it is, the flag is still set and no time has
passed for the first neighbour. -/
def SeenAsSecond (f : Frame) (a : LldpAgent) : Prop :=
  a.holdsFrame f = true → a.rx.tooManyNghbrs = true ∧ a.timers.lastrxTTL = a.timers.rxTTL

/-! ### The machines -/

/-- The machines of the transmit side keep the record if and only if the transmit machine
does not start with its initialisation, or there is nothing to wipe. -/
theorem txKeepsRecord_iff (env : Env μ) {c : Ctx μ} (hrest : AgentAtRest c.agent) :
    TxKeepsRecord env c ↔
      ¬TxInitializes c.port c.agent ∨ c.agent.msap = {} ∧ c.agent.lldpdu = 0 := by
  have hframe : ∀ {c' : Ctx μ}, runTxSm env c = .ok c' →
      c'.agent.rx.framein = c.agent.rx.framein := by
    intro c' h
    rw [(runTxSm_keeps h).sameRxSide.rx]
  constructor
  · rintro ⟨-, hkeep⟩
    by_cases hinit : TxInitializes c.port c.agent
    · -- the machine returns, and it has wiped the record
      obtain ⟨c', hc'⟩ := runTxSm_total env c
      obtain ⟨hmsap, hlldpdu, -⟩ := hkeep c' hc'
      obtain ⟨hmsap', hlldpdu'⟩ := runTxSm_record_of_initializes hinit hc'
      exact .inr ⟨hmsap.symm.trans hmsap', hlldpdu.symm.trans hlldpdu'⟩
    · exact .inl hinit
  · intro hcond
    refine ⟨fun a ha => ?_, fun c' hc' => ?_⟩
    · have hk := runTxTimersSm_keeps ha
      exact ⟨hk.msap, hk.lldpdu, by rw [hk.sameRxSide.rx]⟩
    · rcases hcond with hnot | ⟨hmsap, hlldpdu⟩
      · have hdelay : c.agent.timers.reinitDelay ≠ 0 := by
          rw [hrest.reinitDelay]
          decide
        obtain ⟨h₁, h₂⟩ := runTxSm_record_of_not hnot hdelay hc'
        exact ⟨h₁, h₂, hframe hc'⟩
      · rcases runTxSm_record hc' with ⟨h₁, h₂⟩ | ⟨h₁, h₂⟩
        · exact ⟨h₁, h₂, hframe hc'⟩
        · exact ⟨h₁.trans hmsap.symm, h₂.trans hlldpdu.symm, hframe hc'⟩

/-! ### Runs in which nothing is wiped -/

/-- The record is what the receive side alone would keep. -/
def Remembers (a : LldpAgent) : Prop := a.msap = a.history.remote

theorem see_remote {s : AdminStatus} {f : Frame} {b : Neighbour} (h : b.msap = b.remote)
    (n : Nat) : (see s f b n).1.msap = (see s f b n).1.remote := by
  have hone : ∀ (id : Bytes) (x : Neighbour × Matches), x.1.msap = x.1.remote →
      (Neighbour.seeChassisId id x).1.msap = (Neighbour.seeChassisId id x).1.remote := by
    rintro id ⟨b, m⟩ h
    unfold Neighbour.seeChassisId
    cases hid : b.msap.msap1 with
    | none =>
      have hid' : b.remote.msap1 = none := by rw [← show b.msap = b.remote from h, hid]
      simp only [hid, hid', if_true]
      rw [show b.msap = b.remote from h]
    | some i =>
      simp only [hid]
      exact h
  have htwo : ∀ (id : Bytes) (x : Neighbour × Matches), x.1.msap = x.1.remote →
      (Neighbour.seePortId id x).1.msap = (Neighbour.seePortId id x).1.remote := by
    rintro id ⟨b, m⟩ h
    unfold Neighbour.seePortId
    cases hid : b.msap.msap2 with
    | none =>
      have hid' : b.remote.msap2 = none := by rw [← show b.msap = b.remote from h, hid]
      simp only [hid, hid', if_true]
      rw [show b.msap = b.remote from h]
    | some i =>
      simp only [hid]
      split_ifs <;> exact h
  have h₁ := hone f.chassisId (b, {}) h
  have h₂ : (see s f b 2).1.msap = (see s f b 2).1.remote := htwo f.portId _ h₁
  match n with
  | 0 => exact h
  | 1 => exact h₁
  | 2 => exact h₂
  | n + 3 =>
    rw [see_three]
    split_ifs <;> exact h₂

theorem Together.remembers {a b : LldpAgent} (h : Together a b) (ha : Remembers a) :
    Remembers b := by
  unfold Remembers at *
  rcases h with ⟨h₁, h₂⟩ | ⟨h₁, h₂⟩
  · rw [h₁, h₂, ha]
  · rw [h₁, h₂]

theorem agentHandle_remembers {env : Env μ} (ev : AgentEvent) (c c' : Ctx μ)
    (hkeep : ¬Wipes ev c) (hs : AgentSound c.agent) (hr : Remembers c.agent)
    (h : agentHandle env ev c = .ok c') : Remembers c'.agent := by
  cases turn_kind hs.toAgentAtRest hs.barred h with
  | idled hidle => exact (hidle.together hkeep).remembers hr
  | received hrecv hf =>
    unfold Remembers
    rw [hf.msap, hf.remote]
    split_ifs
    · rfl
    · exact see_remote (b := c.agent.neighbour) hr _
  | repeated hc =>
    subst hc
    exact hr

/-- From a state in which the agent of a type remembers its neighbour, it does so as long as its
turns wipe nothing. -/
theorem remembers_of_unwiped {env : Env μ} {type : AgentType} {s t : PortState μ}
    {es : List (Event μ)} {a : LldpAgent} (hs : (lldpSystem env).Reachable s)
    (ha : ofType type s.agents = some a) (hr : Remembers a)
    (h : (lldpSystem env).RunWhere (OwnTurnMeets env type fun ev c => ¬Wipes ev c) s es t) :
    (lldpSystem env).Reachable t ∧ ∃ b, ofType type t.agents = some b ∧ Remembers b := by
  refine h.invariant (I := fun s => (lldpSystem env).Reachable s ∧
    ∃ a, ofType type s.agents = some a ∧ Remembers a) ?_ ⟨hs, a, ha, hr⟩
  rintro s e t ⟨hs, a, ha, hr⟩ hcond hstep
  obtain ⟨b, hb, hturn⟩ := agentOf_step (typesDistinct_of_reachable hs) hstep ha
  refine ⟨hs.step hstep, b, hb, ?_⟩
  cases hturn with
  | idle _ hba =>
    rw [hba]
    exact hr
  | @turn ev c c' hev hc hrun hbc _ =>
    subst hc hbc
    exact agentHandle_remembers ev c c' (hcond ev c hev)
      (agentSound_of_reachable hs c.agent (mem_of_ofType ha)) hr hrun

/-- A frame of a second neighbour that is processed is told from those of the first one. -/
theorem toldApart_of_remembers {env : Env μ} {c c' : Ctx μ} {f : Frame} {x y : Bytes}
    (hr : Remembers c.agent) (htracks : Tracks c.agent x y) (hrecv : Receives c.port c.agent)
    (hne : ¬(f.chassisId = x ∧ f.portId = y)) (hlen : 2 ≤ (c.outcome env f).created.length)
    (h : rxAcceptFrame env f c = .ok c') : ToldApart c.agent c'.agent := by
  obtain ⟨hx, hy, httl⟩ := htracks
  rw [← show c.agent.msap = c.agent.history.remote from hr] at hx hy
  have hf := accept_received hrecv h
  obtain ⟨hmany, hgood⟩ := see_other (s := c.agent.adminStatus) (b := c.agent.neighbour) hx hy hne
  have hnot : ¬TakesTtl c.agent.adminStatus f c.agent.neighbour := fun htakes =>
    htakes ⟨hmany, hgood⟩
  have hrxTTL : (c.heard env f).rxTTL = c.agent.timers.rxTTL := by
    rw [Ctx.heard, (see_ttl _).1, if_neg fun h => hnot h.2]
    rfl
  refine ⟨?_, hf.rxTTL.trans hrxTTL, ?_⟩
  · rw [hf.tooManyNghbrs, Ctx.heard]
    obtain ⟨k, hk⟩ := Nat.exists_eq_add_of_le' hlen
    rw [hk]
    cases k with
    | zero => exact hmany
    | succ k =>
      rw [see_three, if_neg hnot]
      exact hmany
  · rw [hf.msap, if_neg (by rw [hrxTTL]; exact httl)]
    exact see_msap_of_full (b := c.agent.neighbour) hx hy _

/-- The short cut is for a copy of the stored frame. -/
theorem receiver_event {f : Frame} {as : List LldpAgent} {ev : AgentEvent} {a : LldpAgent}
    (h : receiver f as = some (ev, a)) :
    ev = if a.holdsFrame f = true then .repeated f else .accept f := by
  induction as with
  | nil => cases h
  | cons b as ih =>
    rw [receiver] at h
    split at h
    · rename_i hholds
      cases h
      exact (if_pos hholds).symm
    · rename_i hholds
      split at h
      · cases h
      · split at h
        · cases h
          exact (if_neg hholds).symm
        · exact ih h

/-- The arrival of a frame is a turn of the agent that it is for. -/
theorem frame_turn {env : Env μ} {type : AgentType} {s t : PortState μ} {f : Frame}
    {ev : AgentEvent} {a b : LldpAgent} (hs : (lldpSystem env).Reachable s)
    (ha : ofType type s.agents = some a) (hsize : f.size ≠ 0)
    (hrecv : receiver f s.agents = some (ev, a)) (hstep : lldpStep env s (.frame f) = .ok t)
    (hb : ofType type t.agents = some b) :
    ∃ c', agentHandle env ev { s.toWorld with agent := a } = .ok c' ∧ b = c'.agent := by
  obtain ⟨b', hb', hturn⟩ := agentOf_step (typesDistinct_of_reachable hs) hstep ha
  cases hb.symm.trans hb'
  have hof : turnOf env type s (.frame f) = some (ev, { s.toWorld with agent := a }) := by
    rw [turnOf, if_neg hsize, hrecv]
    exact if_pos (type_of_ofType ha)
  cases hturn with
  | idle hnone _ =>
    rw [hof] at hnone
    cases hnone
  | turn hev _ hrun hbc _ =>
    rw [hof] at hev
    cases hev
    exact ⟨_, hrun, hbc⟩

/-- The transmit side leaves the record of an agent alone if and only if its machine does not start
with its initialisation, or there is nothing to wipe. And from a state in which the receive side's
neighbour is on record: as long as no turn of the agent wipes it, a frame of a second neighbour is
told from those of the first one, if and only if it is not mistaken for a copy. -/
theorem txSide_iff (env : Env μ) :
    (∀ s, (lldpSystem env).Reachable s → ∀ a ∈ s.agents,
      (TxKeepsRecord env { s.toWorld with agent := a } ↔
        ¬TxInitializes s.port a ∨ a.msap = {} ∧ a.lldpdu = 0)) ∧
    ∀ type s₁ a₁, (lldpSystem env).Reachable s₁ → ofType type s₁.agents = some a₁ →
      a₁.msap = a₁.history.remote → ∀ es s₂,
      (lldpSystem env).RunWhere (OwnTurnMeets env type fun ev c => ¬Wipes ev c) s₁ es s₂ →
      ∀ f a x y s₃ b, ofType type s₂.agents = some a → SecondFrame env s₂ f a x y →
        lldpStep env s₂ (.frame f) = .ok s₃ → ofType type s₃.agents = some b →
          (ToldApart a b ↔ SeenAsSecond f a) := by
  refine ⟨fun s h a ha => ?_, ?_⟩
  · exact txKeepsRecord_iff env (c := { s.toWorld with agent := a })
      (agentAtRest_of_reachable h a ha)
  intro type s₁ a₁ h₁ ha₁ hr₁ es s₂ hrun f a x y s₃ b ha hsecond hstep hb
  obtain ⟨h₂, a', ha', hr⟩ := remembers_of_unwiped h₁ ha₁ hr₁ hrun
  cases ha.symm.trans ha'
  obtain ⟨ev, hrecv⟩ := hsecond.arrives
  obtain ⟨c', hc', rfl⟩ := frame_turn h₂ ha hsecond.size hrecv hstep hb
  have hev := receiver_event hrecv
  by_cases hholds : a.holdsFrame f = true
  · -- the short cut only reloads the time
    rw [if_pos hholds] at hev
    subst hev
    cases hc'
    refine ⟨fun ⟨hmany, httl, _⟩ _ => ⟨hmany, httl⟩, fun h => ?_⟩
    obtain ⟨hmany, httl⟩ := h hholds
    exact ⟨hmany, httl, rfl⟩
  · rw [if_neg hholds] at hev
    subst hev
    refine ⟨fun _ h => absurd h hholds, fun _ => ?_⟩
    exact toldApart_of_remembers (c := { s₂.toWorld with agent := a }) hr hsecond.tracks
      hsecond.receives hsecond.other hsecond.reaches hc'

/-! ### An agent that only receives -/

/-- A daemon without modules whose agents are configured to receive only. -/
def listenerEnv : Env Unit where
  modules := []
  adminConfig := fun _ => some .enabledRxOnly

theorem listener_wipes :
    ∃ s a, (lldpSystem listenerEnv).run stationPort (portUp ++ [.frame goodFrame]) = .ok s ∧
      s.agents = [a] ∧ a.msap = goodFrame.identity ∧ (nextTx s.port a).1 = .txLldpInitialize :=
  ⟨_, _, rfl, rfl, rfl, rfl⟩

/-- One second after the first station's frame the only agent of a port tracks that station and
may receive. -/
structure Tracking (env : Env Unit) (s : PortState Unit) (a : LldpAgent) : Prop where
  agents : s.agents = [a]
  type : a.type = .nearestBridge
  msap1 : a.history.remote.msap1 = some goodFrame.chassisId
  msap2 : a.history.remote.msap2 = some goodFrame.portId
  rxTTL : a.timers.rxTTL = 119
  receives : Receives s.port a
  fresh : a.holdsFrame secondFrame = false
  dest : secondFrame.hDest = a.macAddr
  created : (Ctx.outcome env { s.toWorld with agent := a } secondFrame).created.length = 4

theorem Tracking.second {env : Env Unit} {s : PortState Unit} {a : LldpAgent}
    (h : Tracking env s a) :
    SecondFrame env s secondFrame a goodFrame.chassisId goodFrame.portId where
  size := by decide
  arrives := by
    rw [h.agents, receiver, if_neg (by rw [h.fresh]; decide), if_neg (fun hne => hne rfl),
      if_pos h.dest]
    exact ⟨_, rfl⟩
  tracks := ⟨h.msap1, h.msap2, by rw [h.rxTTL]; decide⟩
  other := by decide
  receives := h.receives
  reaches := by rw [h.created]; decide

theorem ofType_only {type : AgentType} {as : List LldpAgent} {a : LldpAgent} (has : as = [a])
    (htype : a.type = type) : ofType type as = some a := by
  rw [has]
  exact List.find?_cons_of_pos (by simpa using htype)

/-- One tick later the listener tracks the first station, and a frame of the second one
comes in. -/
theorem listener_forgets :
    ∃ s a t b, (lldpSystem listenerEnv).run stationPort (portUp ++ [.frame goodFrame, .tick])
        = .ok s ∧ Tracking listenerEnv s a ∧
      lldpStep listenerEnv s (.frame secondFrame) = .ok t ∧ t.agents = [b] ∧
      b.type = .nearestBridge ∧ b.rx.tooManyNghbrs = false :=
  ⟨_, _, _, _, rfl, ⟨rfl, rfl, rfl, rfl, rfl, ⟨rfl, rfl, rfl, rfl⟩, rfl, rfl, rfl⟩, rfl, rfl,
    rfl, rfl⟩

/-- The transmit side does not always leave the record alone, and a second neighbour is not
always told from the first one. -/
theorem not_txSide :
    (¬ ∀ s, (lldpSystem listenerEnv).Reachable s → ∀ a ∈ s.agents,
      TxKeepsRecord listenerEnv { s.toWorld with agent := a }) ∧
    ¬ ∀ s, (lldpSystem listenerEnv).Reachable s → ∀ type f a x y t b,
      ofType type s.agents = some a → SecondFrame listenerEnv s f a x y →
        lldpStep listenerEnv s (.frame f) = .ok t → ofType type t.agents = some b →
          ToldApart a b := by
  constructor
  · intro hall
    obtain ⟨s, a, hrun, hagents, hmsap, hinit⟩ := listener_wipes
    have hreach : (lldpSystem listenerEnv).Reachable s := ⟨stationPort, _, ⟨rfl, rfl⟩, hrun⟩
    have ha : a ∈ s.agents := by simp [hagents]
    have hrest := agentAtRest_of_reachable hreach a ha
    rcases (txKeepsRecord_iff listenerEnv (c := { s.toWorld with agent := a }) hrest).mp
      (hall s hreach a ha) with hnot | ⟨hempty, -⟩
    · exact hnot hinit
    · rw [show a.msap = {} from hempty] at hmsap
      exact absurd (congrArg Msap.msap1 hmsap) nofun
  · intro hall
    obtain ⟨s, a, t, b, hrun, hs, hstep, hagents', htype', hmany⟩ := listener_forgets
    have hreach : (lldpSystem listenerEnv).Reachable s := ⟨stationPort, _, ⟨rfl, rfl⟩, hrun⟩
    have htold := hall s hreach .nearestBridge secondFrame a _ _ t b
      (ofType_only hs.agents hs.type) hs.second hstep (ofType_only hagents' htype')
    exact absurd (hmany.symm.trans htold.1) nofun

/-- The station is up, and nothing happens to its transmit machine in the next tick. -/
theorem station_quiet :
    ∃ s a c, (lldpSystem stationEnv).run stationPort (portUp ++ [.frame goodFrame]) = .ok s ∧
      s.agents = [a] ∧ a.type = .nearestBridge ∧ a.msap = a.history.remote ∧
      turnOf stationEnv .nearestBridge s .tick = some (.tick, c) ∧
      (nextTx c.port c.agent).1 = .txIdle ∧ c.agent.tx.state = .txIdle :=
  ⟨_, _, _, rfl, rfl, rfl, rfl, rfl, rfl, rfl⟩

/-- After the tick a frame of the second station comes in. -/
theorem station_second :
    ∃ t a u b, (lldpSystem stationEnv).run stationPort (portUp ++ [.frame goodFrame, .tick])
        = .ok t ∧ Tracking stationEnv t a ∧ (nextTx t.port a).1 = .txIdle ∧
      lldpStep stationEnv t (.frame secondFrame) = .ok u ∧ u.agents = [b] ∧
      b.type = .nearestBridge :=
  ⟨_, _, _, _, rfl, ⟨rfl, rfl, rfl, rfl, rfl, ⟨rfl, rfl, rfl, rfl⟩, rfl, rfl, rfl⟩, rfl, rfl,
    rfl, rfl⟩

/-- A station that also transmits keeps its record over a tick, and tells the second station from
the first one. -/
theorem station_keeps :
    ∃ t u a b, (lldpSystem stationEnv).run stationPort (portUp ++ [.frame goodFrame, .tick]) = .ok t ∧
      lldpStep stationEnv t (.frame secondFrame) = .ok u ∧ t.agents = [a] ∧ u.agents = [b] ∧
      TxKeepsRecord stationEnv { t.toWorld with agent := a } ∧ ToldApart a b := by
  obtain ⟨s, a₁, d, hrun₁, hagents₁, htype₁, hr₁, hturn, hidle, hstate₁⟩ := station_quiet
  obtain ⟨t, a, u, b, hrun, ht, hnext, hstep, hagents', htype'⟩ := station_second
  have hreach₁ : (lldpSystem stationEnv).Reachable s := ⟨stationPort, _, ⟨rfl, rfl⟩, hrun₁⟩
  have hreach : (lldpSystem stationEnv).Reachable t := ⟨stationPort, _, ⟨rfl, rfl⟩, hrun⟩
  have htick : lldpStep stationEnv s .tick = .ok t := by
    have happ := System.run_append (S := lldpSystem stationEnv) stationPort
      (portUp ++ [.frame goodFrame]) [.tick]
    rw [hrun₁, bind_ok] at happ
    obtain ⟨t', ht', hnil⟩ := bind_eq_ok.mp (happ.symm.trans hrun)
    cases hnil
    exact ht'
  have hkept : (lldpSystem stationEnv).RunWhere
      (OwnTurnMeets stationEnv .nearestBridge fun ev c => ¬Wipes ev c) s [.tick] t := by
    refine .cons (fun ev c hof hwipes => ?_) htick (.nil t)
    cases hturn.symm.trans hof
    obtain ⟨-, hinit | ⟨hshut, -⟩⟩ := hwipes
    · cases hidle.symm.trans hinit
    · cases hstate₁.symm.trans hshut
  refine ⟨t, u, a, b, hrun, hstep, ht.agents, hagents', ?_, ?_⟩
  · refine ((txSide_iff stationEnv).1 t hreach a (by simp [ht.agents])).mpr (.inl fun hinit => ?_)
    cases hnext.symm.trans hinit
  · refine ((txSide_iff stationEnv).2 .nearestBridge s a₁ hreach₁ (ofType_only hagents₁ htype₁) hr₁
      [.tick] t hkept secondFrame a goodFrame.chassisId goodFrame.portId u b
      (ofType_only ht.agents ht.type) ht.second hstep (ofType_only hagents' htype')).mpr
        fun hholds => ?_
    rw [ht.fresh] at hholds
    cases hholds

end Lldpad.Lldp
