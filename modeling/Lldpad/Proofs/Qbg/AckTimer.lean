import Lldpad.Proofs.Qbg.Ecp22Rest

/-!
# `Lldpad.Proofs.Qbg.AckTimer`: one ack timer for each transmission

The transmit machine of ECP starts a timer with every transmission and does nothing else
about timers. In particular it does not wait for the timer of the last transmission that it
is allowed: it gives the frame up at once, and the timer stays behind.

* `AckTimerDiscipline`: one timer at most, pending exactly while a frame waits for its
  acknowledgement, and a full timeout for every transmission.
* `OneTimer`: the same, where a frame waits until the machine has seen its acknowledgement.
* `GivesUpAtOnce`, `AcceptsAck`: the steps that break the discipline.
* `ackTimer_of_guarded`: no assertion ever fails, and runs without such steps keep the
  discipline.
-/

namespace Lldpad.Qbg

open Lldpad.Lib
open Lldpad.Lldp (Bytes Port)

/-! ### The property -/

/-- The latest transmission of the payload in the transmit buffer. -/
def lastTransmit : List TxStep → Option Nat
  | [] => none
  | .transmit n :: _ => some n
  | .timeout _ :: log => lastTransmit log
  | .build :: _ | .done _ :: _ => none

/-- The latest transmission was given its timeout. -/
def TimedOut (log : List TxStep) : Prop :=
  ∀ n, lastTransmit log = some n → .timeout n ∈ log

/-- Every transmission was given its timeout before the next one, and before the payload was
dropped without an acknowledgement. -/
def FullTimeouts : List TxStep → Prop
  | [] => True
  | .transmit _ :: log | .done false :: log => TimedOut log ∧ FullTimeouts log
  | .done true :: log | .timeout _ :: log | .build :: log => FullTimeouts log

/-- The discipline of the ack timer. -/
structure AckTimerDiscipline (c : Ecp22Ctx) : Prop where
  atMostOne : c.timers.length ≤ 1
  pending : c.timers ≠ [] ↔ c.ecp.tx.state = .txTxmitEcpdu ∧ c.ecp.tx.ackReceived = false
  timeouts : FullTimeouts c.trace.log

/-- The discipline of the ack timer, for a machine that takes note of an acknowledgement
when the timer expires. -/
structure OneTimer (c : Ecp22Ctx) : Prop where
  pending : c.timers.map AckTimer.sent
    = if c.ecp.tx.state = .txTxmitEcpdu then [c.trace.sent] else []
  last : c.ecp.tx.state = .txTxmitEcpdu → lastTransmit c.trace.log = some c.trace.sent
  timedOut : c.ecp.tx.state ≠ .txTxmitEcpdu → TimedOut c.trace.log
  timeouts : FullTimeouts c.trace.log

/-! ### The steps that break it -/

/-- The machine would send the frame in the transmit buffer once more. -/
def Retransmits (c : Ecp22Ctx) (p : Port) : Prop :=
  c.ecp.tx.state = .txTxmitEcpdu ∧ falls p = false ∧ c.ecp.tx.ackReceived = false ∧
    ¬c.ecp.tx.retries > c.ecp.maxRetries

instance (c : Ecp22Ctx) (p : Port) : Decidable (Retransmits c p) :=
  inferInstanceAs (Decidable (_ ∧ _))

/-- A run of the transmit machine makes a transmission that exceeds the retries: one of the
frame in the transmit buffer, or the first one of the next frame. -/
def Overruns (c : Ecp22Ctx) (p : Port) : Prop :=
  if Retransmits c p then c.ecp.tx.retries + 1 > c.ecp.maxRetries
  else c.ecp.inuse ≠ [] ∧ c.ecp.maxRetries = 0

/-- The step makes a transmission that exceeds the retries. The machine gives the frame up
without waiting for the timer of this transmission. -/
def GivesUpAtOnce (c : Ecp22Ctx) : Ecp22Event → Prop
  | .payload du => du.length < ecp22MaxpayloadLen ∧ c.ecp.tx.ecpduReceived = false ∧
      c.port ≠ none ∧ c.ecp.maxRetries = 0
  | .ackTimeout i => i < c.timers.length ∧ ∃ p, c.port = some p ∧ Overruns c p
  | .frame _ | .fromEvb _ _ | .port _ => False

/-- The step takes an acknowledgement for the frame in the transmit buffer. -/
def AcceptsAck (c : Ecp22Ctx) : Ecp22Event → Prop
  | .frame buf => c.port ≠ none ∧ knownHdr (c.stored buf).rxVerOpSub ∧
      ecp22HdrReadOp (c.stored buf).rxVerOpSub = ecp22Ack ∧
      c.ecp.tx.ecpduReceived = true ∧ c.ecp.tx.seqno = (c.stored buf).rxHdrSeqno
  | .payload _ | .ackTimeout _ | .fromEvb _ _ | .port _ => False

/-! ### A run of the transmit machine -/

theorem timedOut_build (log : List TxStep) : TimedOut (.build :: log) := nofun

theorem timedOut_done (acked : Bool) (log : List TxStep) : TimedOut (.done acked :: log) := nofun

theorem timedOut_timeout {log : List TxStep} {n : Nat} (h : lastTransmit log = some n) :
    TimedOut (.timeout n :: log) := by
  intro m hm
  cases h.symm.trans hm
  exact List.mem_cons_self ..

/-- Before a run: no timer is pending, and the run will not give up at once. -/
structure Due (c : Ecp22Ctx) : Prop where
  rest : TxRest c
  timers : c.timers = []
  timedOut : TimedOut c.trace.log
  timeouts : FullTimeouts c.trace.log
  spare : ∀ p, c.port = some p → ¬Overruns c p

/-- Between a move and an action of such a run. -/
structure Ready (c : Ecp22Ctx) : Prop extends TxMoved c where
  linkSeen : LinkSeen c
  timers : c.timers = []
  timedOut : TimedOut c.trace.log
  timeouts : FullTimeouts c.trace.log
  sends : c.port ≠ none → c.ecp.tx.state = .txTxmitEcpdu →
    c.ecp.tx.ackReceived = false ∧ ¬c.ecp.tx.retries + 1 > c.ecp.maxRetries
  spare : c.port ≠ none → c.ecp.tx.state ≠ .txTxmitEcpdu →
    c.ecp.inuse = [] ∨ c.ecp.maxRetries ≠ 0

/-- Between an action and a move of such a run. -/
structure Sent (c : Ecp22Ctx) : Prop extends TxActed c, OneTimer c where
  linkSeen : LinkSeen c
  sends : c.port ≠ none → c.ecp.tx.state = .txTxmitEcpdu →
    c.ecp.tx.ackReceived = false ∧ ¬c.ecp.tx.retries > c.ecp.maxRetries
  spare : c.port ≠ none → c.ecp.tx.state ≠ .txTxmitEcpdu →
    c.ecp.inuse = [] ∨ c.ecp.maxRetries ≠ 0

/-- An action keeps the discipline: a transmission starts the one timer. -/
theorem Ready.act {c : Ecp22Ctx} (h : Ready c) : Sent (ecp22TxAction c) := by
  have hacted := h.toTxMoved.act
  have hlink : LinkSeen (ecp22TxAction c) := by
    intro p hp
    exact h.linkSeen p ((txAction_port c).symm.trans hp)
  have hstate := txAction_state c
  cases hs : c.ecp.tx.state with
  | txTxmitEcpdu =>
    rw [hs] at hstate
    have heq : ecp22TxAction c = ecp22EsTxmit c := by rw [ecp22TxAction, hs]
    rw [heq] at hacted hlink hstate ⊢
    refine
      { toTxActed := hacted
        linkSeen := hlink
        pending := ?_
        last := fun _ => rfl
        timedOut := fun hne => absurd hstate hne
        timeouts := ⟨h.timedOut, h.timeouts⟩
        sends := fun hp _ => h.sends hp hs
        spare := fun _ hne => absurd hstate hne }
    rw [if_pos hstate]
    show (c.timers ++ [_]).map AckTimer.sent = _
    rw [h.timers]
    rfl
  | txWaitForreq =>
    rw [hs] at hstate
    have heq : ecp22TxAction c = ecp22EsWaitforreq c := by rw [ecp22TxAction, hs]
    have hne : c.ecp.tx.state ≠ .txTxmitEcpdu := by rw [hs]; nofun
    rw [heq] at hacted hlink hstate ⊢
    refine
      { toTxActed := hacted
        linkSeen := hlink
        pending := ?_
        last := fun htx => absurd htx hne
        timedOut := fun _ => timedOut_done _ _
        timeouts := ?_
        sends := fun _ htx => absurd htx hne
        spare := fun hp _ => h.spare hp hne }
    · rw [if_neg (show (ecp22EsWaitforreq c).ecp.tx.state ≠ .txTxmitEcpdu from hne)]
      show c.timers.map AckTimer.sent = []
      rw [h.timers]
      rfl
    · show FullTimeouts (.done c.ecp.tx.ackReceived :: c.trace.log)
      cases c.ecp.tx.ackReceived with
      | true => exact h.timeouts
      | false => exact ⟨h.timedOut, h.timeouts⟩
  | txBegin | txInit | txWaitOndata | txError =>
    have hne : c.ecp.tx.state ≠ .txTxmitEcpdu := by rw [hs]; nofun
    obtain ⟨htimers, hlog, hmax⟩ : (ecp22TxAction c).timers = c.timers ∧
        (ecp22TxAction c).trace.log = c.trace.log ∧
        (ecp22TxAction c).ecp.maxRetries = c.ecp.maxRetries := by
      rw [ecp22TxAction, hs]
      exact ⟨rfl, rfl, rfl⟩
    have hne' : (ecp22TxAction c).ecp.tx.state ≠ .txTxmitEcpdu := by rwa [hstate]
    refine
      { toTxActed := hacted
        linkSeen := hlink
        pending := by rw [if_neg hne', htimers, h.timers]; rfl
        last := fun htx => absurd htx hne'
        timedOut := fun _ => by rw [hlog]; exact h.timedOut
        timeouts := by rw [hlog]; exact h.timeouts
        sends := fun _ htx => absurd htx hne'
        spare := fun hp _ => by
          rw [txAction_inuse, hmax]
          exact h.spare (by rwa [txAction_port] at hp) hne }

variable {c d : Ecp22Ctx}

theorem TxMove.keeps {b : Bool} (h : TxMove c d b) :
    d.timers = c.timers ∧ d.ecp.maxRetries = c.ecp.maxRetries ∧ d.trace.sent = c.trace.sent ∧
      (d.trace.log = c.trace.log ∨ d.ecp.tx.state = .txTxmitEcpdu ∧
        d.trace.log = .build :: c.trace.log) := by
  cases h with
  | build hp hs hdata =>
    unfold ecp22BuildEcpdu
    split
    · next hnil => exact absurd hnil hdata
    · refine ⟨rfl, ?_, rfl, .inr ⟨rfl, rfl⟩⟩
      show (ecp22Putnode _).maxRetries = _
      unfold ecp22Putnode
      split <;> rfl
  | _ => exact ⟨rfl, rfl, rfl, .inl rfl⟩

theorem ecp22BuildEcpdu_counters (c : Ecp22Ctx) :
    (ecp22BuildEcpdu c).ecp.tx.ackReceived = c.ecp.tx.ackReceived ∧
      (ecp22BuildEcpdu c).ecp.tx.retries = c.ecp.tx.retries := by
  unfold ecp22BuildEcpdu
  split
  · exact ⟨rfl, rfl⟩
  · simp

theorem not_first_gt {retries maxRetries : UInt8} (h : retries = 0) (hzero : maxRetries ≠ 0) :
    ¬retries + 1 > maxRetries := by
  subst h
  intro hgt
  have hlt : maxRetries.toNat < 1 := UInt8.lt_iff_toNat_lt.mp hgt
  exact hzero (UInt8.toNat_inj.mp (by show maxRetries.toNat = 0; omega))

/-- The first move of a run. -/
theorem Due.move {b : Bool} (h : Due c) (hm : TxMove c d b) : Ready d := by
  have hmoved := h.rest.move hm
  obtain ⟨htimers, hmax, -, hlog⟩ := hm.keeps
  have hlink := hm.linkSeen
  have htimed : TimedOut d.trace.log := by
    rcases hlog with hlog | ⟨-, hlog⟩
    · rw [hlog]; exact h.timedOut
    · rw [hlog]; exact timedOut_build _
  have hfull : FullTimeouts d.trace.log := by
    rcases hlog with hlog | ⟨-, hlog⟩
    · rw [hlog]; exact h.timeouts
    · rw [hlog]; exact h.timeouts
  have hready : (d.port ≠ none → d.ecp.tx.state = .txTxmitEcpdu →
        d.ecp.tx.ackReceived = false ∧ ¬d.ecp.tx.retries + 1 > d.ecp.maxRetries) →
      (d.port ≠ none → d.ecp.tx.state ≠ .txTxmitEcpdu → d.ecp.inuse = [] ∨ d.ecp.maxRetries ≠ 0) →
      Ready d := fun hsends hspare =>
    { toTxMoved := hmoved, linkSeen := hlink, timers := htimers.trans h.timers, timedOut := htimed
      timeouts := hfull, sends := hsends, spare := hspare }
  -- a run that does not send the frame again has the retries for the next one
  have hnext : ∀ p, c.port = some p → ¬Retransmits c p →
      c.ecp.inuse = [] ∨ c.ecp.maxRetries ≠ 0 := by
    intro p hp hnot
    have hspare := h.spare p hp
    rw [Overruns, if_neg hnot] at hspare
    exact Decidable.or_iff_not_not_and_not.mpr fun hboth =>
      hspare ⟨hboth.1, Decidable.not_not.mp hboth.2⟩
  cases hm with
  | noPort hp => exact hready (fun hne => absurd hp hne) (fun hne => absurd hp hne)
  | @restart p hp hs =>
    have hnot : ¬Retransmits c p := by
      rintro ⟨hstate, hfall, -⟩
      rw [Ecp22Ctx.startState, hfall, if_neg Bool.false_ne_true, hstate] at hs
      exact absurd hs (by decide)
    exact hready (fun _ htx => by cases htx) (fun _ _ => hnext p hp hnot)
  | idle hp hs hdata =>
    exact hready (fun _ htx => absurd (hs.symm.trans htx) (by decide)) (fun _ _ => .inl hdata)
  | ready hp hs | request hp hs | counted hp hs =>
    have hrest := h.rest.rests
    rw [(startState_of_ne hs (by decide)).1] at hrest
    exact absurd hrest Bool.false_ne_true
  | @build p hp hs hdata =>
    have hstate := (startState_of_ne hs (by decide)).1
    have hfree := h.rest.free (by rw [hstate]; decide)
    have hnot : ¬Retransmits c p := fun hre => absurd (hstate.symm.trans hre.1) (by decide)
    have hzero : c.ecp.maxRetries ≠ 0 := (hnext p hp hnot).resolve_left hdata
    obtain ⟨hack, hretries⟩ := ecp22BuildEcpdu_counters (c.seen p)
    refine hready (fun _ _ => ⟨hack.trans hfree.ackReceived, ?_⟩) (fun _ hne => absurd rfl hne)
    rw [hmax]
    show ¬(ecp22BuildEcpdu (c.seen p)).ecp.tx.retries + 1 > _
    rw [hretries]
    exact not_first_gt hfree.retries hzero
  | @acked p hp hs hack =>
    have hnot : ¬Retransmits c p := fun hre => absurd (hack.symm.trans hre.2.2.1) (by decide)
    exact hready (fun _ htx => by cases htx) (fun _ _ => hnext p hp hnot)
  | @giveUp p hp hs hack hretries =>
    have hnot : ¬Retransmits c p := fun hre => hre.2.2.2 hretries
    exact hready (fun _ htx => by cases htx) (fun _ _ => hnext p hp hnot)
  | @wait p hp hs hack hretries =>
    obtain ⟨hstate, hfall⟩ := startState_of_ne hs (by decide)
    have hspare := h.spare p hp
    rw [Overruns, if_pos ⟨hstate, hfall, hack, hretries⟩] at hspare
    exact hready (fun _ _ => ⟨hack, hspare⟩) (fun _ hne => absurd hs hne)

theorem OneTimer.timers_eq_nil {c : Ecp22Ctx} (h : OneTimer c)
    (hne : c.ecp.tx.state ≠ .txTxmitEcpdu) : c.timers = [] := by
  have hmap := h.pending
  rw [if_neg hne] at hmap
  exact List.map_eq_nil_iff.mp hmap

theorem OneTimer.congr (h : OneTimer c) (hstate : d.ecp.tx.state = c.ecp.tx.state)
    (htimers : d.timers = c.timers) (hsent : d.trace.sent = c.trace.sent)
    (hlog : d.trace.log = c.trace.log) : OneTimer d := by
  obtain ⟨hpending, hlast, htimed, hfull⟩ := h
  refine ⟨?_, ?_, ?_, ?_⟩
  · rw [htimers, hstate, hsent]; exact hpending
  · rw [hstate, hlog, hsent]; exact hlast
  · rw [hstate, hlog]; exact htimed
  · rw [hlog]; exact hfull

/-- A later move of a run that goes on. It is not one after a transmission. -/
theorem Sent.again (h : Sent c) (hm : TxMove c d true) : Ready d := by
  have hmoved := (h.toTxActed.move hm).1
  obtain ⟨htimers, hmax, -, hlog⟩ := hm.keeps
  have hlink := hm.linkSeen
  have hready (hne : c.ecp.tx.state ≠ .txTxmitEcpdu) (hsends : d.ecp.tx.state = .txTxmitEcpdu →
      d.ecp.tx.ackReceived = false ∧ ¬d.ecp.tx.retries + 1 > d.ecp.maxRetries)
      (hspare : d.ecp.tx.state ≠ .txTxmitEcpdu → d.ecp.inuse = [] ∨ d.ecp.maxRetries ≠ 0) :
      Ready d :=
    { toTxMoved := hmoved
      linkSeen := hlink
      timers := htimers.trans (h.timers_eq_nil hne)
      timedOut := by
        rcases hlog with hlog | ⟨-, hlog⟩
        · rw [hlog]; exact h.timedOut hne
        · rw [hlog]; exact timedOut_build _
      timeouts := by
        rcases hlog with hlog | ⟨-, hlog⟩
        · rw [hlog]; exact h.timeouts
        · rw [hlog]; exact h.timeouts
      sends := fun _ => hsends
      spare := fun _ => hspare }
  cases hm with
  | @restart p hp hs =>
    have hstate : c.ecp.tx.state = .txBegin := by
      rw [Ecp22Ctx.startState, h.linkSeen p hp, if_neg Bool.false_ne_true] at hs
      exact hs
    have hne : c.ecp.tx.state ≠ .txTxmitEcpdu := by rw [hstate]; decide
    exact hready hne (fun htx => by cases htx) (fun _ => h.spare (by simp [hp]) hne)
  | ready hp hs | request hp hs | counted hp hs =>
    have hne : c.ecp.tx.state ≠ .txTxmitEcpdu := by rw [(startState_of_ne hs (by decide)).1]; decide
    exact hready hne (fun htx => by cases htx) (fun _ => h.spare (by simp [hp]) hne)
  | @build p hp hs hdata =>
    have hstate := (startState_of_ne hs (by decide)).1
    have hne : c.ecp.tx.state ≠ .txTxmitEcpdu := by rw [hstate]; decide
    have hfree := h.free (.inr hstate)
    have hzero : c.ecp.maxRetries ≠ 0 :=
      (h.spare (by simp [hp]) hne).resolve_left hdata
    obtain ⟨hack, hretries⟩ := ecp22BuildEcpdu_counters (c.seen p)
    refine hready hne (fun _ => ⟨hack.trans hfree.ackReceived, ?_⟩) (fun hne => absurd rfl hne)
    rw [hmax]
    show ¬(ecp22BuildEcpdu (c.seen p)).ecp.tx.retries + 1 > _
    rw [hretries]
    exact not_first_gt hfree.retries hzero
  | acked hp hs hack =>
    -- the flag is down when a transmission went out
    have hsends := h.sends (by simp [hp]) (startState_of_ne hs (by decide)).1
    exact absurd (hack.symm.trans hsends.1) (by decide)
  | giveUp hp hs hack hretries =>
    -- the transmission was within the retries
    exact absurd hretries (h.sends (by simp [hp]) (startState_of_ne hs (by decide)).1).2

theorem Sent.last_move (h : Sent c) (hm : TxMove c d false) : OneTimer d := by
  cases hm with
  | noPort hp => exact h.toOneTimer
  | idle hp hs hdata =>
    exact h.toOneTimer.congr (hs.trans (startState_of_ne hs nofun).1.symm) rfl rfl rfl
  | wait hp hs hack hretries =>
    exact h.toOneTimer.congr (hs.trans (startState_of_ne hs nofun).1.symm) rfl rfl rfl

theorem ecp22TxRunSm_oneTimer {c c' : Ecp22Ctx} (hc : Due c) (h : ecp22TxRunSm c = .ok c') :
    OneTimer c' :=
  txRun_rule (I := Ready) (J := Sent) (fun _ _ _ hp hm => Due.move hp hm) (fun _ hi => hi.act)
    (fun _ _ hj hm => hj.again hm) (fun _ _ hj hm => hj.last_move hm) hc h

/-! ### Every step -/

theorem OneTimer.frame {buf : Bytes} (h : OneTimer c) (hr : FrameResult c buf d) : OneTimer d := by
  rcases hr.sameTx with hsame | ⟨seqno, hsame⟩
  · exact h.congr (by rw [hsame.tx]) hsame.timers (by rw [hsame.trace]) (by rw [hsame.trace])
  · have hack : OneTimer (ecp22RecackFrame c seqno) := by
      unfold ecp22RecackFrame
      split
      · exact h.congr rfl rfl rfl rfl
      · exact h
    exact hack.congr (by rw [hsame.tx]) hsame.timers (by rw [hsame.trace]) (by rw [hsame.trace])

theorem OneTimer.expired {c : Ecp22Ctx} {i : Nat} {t : AckTimer} (h : OneTimer c)
    (ht : c.timers[i]? = some t) :
    c.ecp.tx.state = .txTxmitEcpdu ∧ (c.expired i t).timers = [] ∧
      TimedOut (c.expired i t).trace.log := by
  have hi : i < c.timers.length := (List.getElem?_eq_some_iff.mp ht).1
  have hstate : c.ecp.tx.state = .txTxmitEcpdu := by
    refine Decidable.not_not.mp fun hne => ?_
    rw [h.timers_eq_nil hne] at hi
    exact absurd hi (Nat.not_lt_zero i)
  have hmap := h.pending
  rw [if_pos hstate] at hmap
  obtain ⟨t', hone⟩ : ∃ t', c.timers = [t'] := by
    have hlen : c.timers.length = 1 := by simpa using congrArg List.length hmap
    exact List.length_eq_one_iff.mp hlen
  have hzero : i = 0 := by
    rw [hone] at hi
    exact Nat.lt_one_iff.mp hi
  subst hzero
  rw [hone] at ht hmap
  obtain rfl : t' = t := by simpa using ht
  have hsent : t'.sent = c.trace.sent := by simpa using hmap
  refine ⟨hstate, ?_, ?_⟩
  · show c.timers.eraseIdx 0 = []
    rw [hone]
    rfl
  · exact timedOut_timeout ((h.last hstate).trans (congrArg some hsent.symm))

/-- A step that does not give a frame up at once keeps the discipline. -/
theorem ecp22Step_oneTimer {c c' : Ecp22Ctx} {e : Ecp22Event} (hrest : Ecp22Rest c)
    (h : OneTimer c) (hguard : ¬GivesUpAtOnce c e) (hstep : ecp22Step c e = .ok c') :
    OneTimer c' := by
  cases e with
  | payload du =>
    have hqueue : OneTimer (c.queue du) := h.congr (by rw [queue_tx]) rfl rfl rfl
    rcases payload_cases hstep with rfl | ⟨hlen, ⟨hfree, hrun⟩ | rfl⟩
    · exact h
    · have hne := hrest.tx.state_ne hfree
      refine ecp22TxRunSm_oneTimer ⟨hrest.tx.congr (queue_tx c du), h.timers_eq_nil hne,
        h.timedOut hne, h.timeouts, fun p hp hover => ?_⟩ hrun
      have hnot : ¬Retransmits (c.queue du) p := fun hre => hne (by
        rw [← queue_tx c du]
        exact hre.1)
      rw [Overruns, if_neg hnot, queue_maxRetries] at hover
      exact hguard ⟨hlen, hfree, fun hnone => absurd (hnone.symm.trans hp) nofun, hover.2⟩
    · exact hqueue
  | frame buf => exact h.frame (frameResult_of_ok hrest.rx hstep)
  | ackTimeout i =>
    rcases ackTimeout_cases hstep with rfl | ⟨t, ht, hrun⟩
    · exact h
    · obtain ⟨-, hnone, htimed⟩ := h.expired ht
      refine ecp22TxRunSm_oneTimer
        ⟨hrest.tx.congr (d := c.expired i t) rfl, hnone, htimed, h.timeouts,
        fun p hp hover => hguard ⟨(List.getElem?_eq_some_iff.mp ht).1, p, hp, hover⟩⟩ hrun
  | fromEvb maxRetry maxRte =>
    cases hstep
    exact h.congr rfl rfl rfl rfl
  | port p =>
    cases hstep
    exact h.congr rfl rfl rfl rfl

theorem ecp22Start_oneTimer {c : Ecp22Ctx} {port : Option Port} {ownSrcAddr : MacAddr}
    (h : ecp22Start port ownSrcAddr = .ok c) : OneTimer c := by
  rw [ecp22Start_eq] at h
  have hsame := rxRun_sameTx { port := port, ownSrcAddr := ownSrcAddr }
  refine ecp22TxRunSm_oneTimer ⟨(newEcp22_rest port ownSrcAddr).tx, hsame.timers, ?_, ?_, ?_⟩ h
  · rw [show (newEcp22 port ownSrcAddr).trace = _ from hsame.trace]
    exact nofun
  · rw [show (newEcp22 port ownSrcAddr).trace = _ from hsame.trace]
    exact trivial
  · intro p hp hover
    have hnot : ¬Retransmits (newEcp22 port ownSrcAddr) p := fun hre => by
      have hstate := hre.1
      rw [show (newEcp22 port ownSrcAddr).ecp.tx = _ from hsame.tx] at hstate
      exact absurd hstate nofun
    rw [Overruns, if_neg hnot] at hover
    exact hover.1 hsame.inuse

/-! ### Acknowledgements -/

/-- The frame in the transmit buffer, if there is one, has not been acknowledged. -/
def Unacked (c : Ecp22Ctx) : Prop := c.ecp.tx.ackReceived = false

theorem ecp22TxRunSm_unacked {c c' : Ecp22Ctx} (hc : Unacked c) (h : ecp22TxRunSm c = .ok c') :
    Unacked c' := by
  have hmove : ∀ d e b, Unacked d → TxMove d e b → Unacked e := by
    intro d e b hd hm
    cases hm with
    | build hp hs hdata => exact (ecp22BuildEcpdu_counters _).1.trans hd
    | _ => exact hd
  have hact : ∀ d, Unacked d → Unacked (ecp22TxAction d) := by
    intro d hd
    unfold ecp22TxAction
    split
    · exact hd
    · exact hd
    · rfl
    · exact hd
    · exact hd
    · exact hd
  exact txRun_rule hmove hact (fun d e => hmove d e true) (fun d e => hmove d e false) hc h

/-- A step that accepts no acknowledgement. -/
theorem ecp22Step_unacked {c c' : Ecp22Ctx} {e : Ecp22Event} (hrest : Ecp22Rest c)
    (h : Unacked c) (hguard : ¬AcceptsAck c e) (hstep : ecp22Step c e = .ok c') : Unacked c' := by
  cases e with
  | payload du =>
    have hqueue : Unacked (c.queue du) := by
      rw [Unacked, queue_tx]
      exact h
    rcases payload_cases hstep with rfl | ⟨-, ⟨-, hrun⟩ | rfl⟩
    · exact h
    · exact ecp22TxRunSm_unacked hqueue hrun
    · exact hqueue
  | frame buf =>
    cases frameResult_of_ok hrest.rx hstep with
    | noPort => exact h
    | ignored => exact h
    | request =>
      show (rxRun (c.stored buf).requested).ecp.tx.ackReceived = false
      rw [(rxRun_sameTx (c.stored buf).requested).tx]
      exact h
    | ack hp hknown hop =>
      have hnot : ¬((c.stored buf).ecp.tx.ecpduReceived = true ∧
          (c.stored buf).ecp.tx.seqno = (c.stored buf).rxHdrSeqno) := fun hack =>
        hguard ⟨hp, hknown, hop, hack⟩
      rw [ecp22RecackFrame, if_neg hnot]
      exact h
  | ackTimeout i =>
    rcases ackTimeout_cases hstep with rfl | ⟨t, -, hrun⟩
    · exact h
    · exact ecp22TxRunSm_unacked (c := c.expired i t) h hrun
  | fromEvb maxRetry maxRte =>
    cases hstep
    exact h
  | port p =>
    cases hstep
    exact h

theorem OneTimer.discipline {c : Ecp22Ctx} (h : OneTimer c) (hack : Unacked c) :
    AckTimerDiscipline c := by
  have hmap := h.pending
  by_cases hstate : c.ecp.tx.state = .txTxmitEcpdu
  · rw [if_pos hstate] at hmap
    have hlen : c.timers.length = 1 := by simpa using congrArg List.length hmap
    refine ⟨Nat.le_of_eq hlen, ⟨fun _ => ⟨hstate, hack⟩, fun _ hnil => ?_⟩, h.timeouts⟩
    rw [hnil] at hlen
    exact absurd hlen nofun
  · have hnil := h.timers_eq_nil hstate
    refine ⟨?_, ⟨fun hne => absurd hnil hne, fun hboth => absurd hboth.1 hstate⟩, h.timeouts⟩
    rw [hnil]
    exact Nat.zero_le 1

/-! ### Every run -/

/-- No state-transition assertion ever fails. In a run in which no frame is given up at
once, at most one ack timer is pending, and only while the machine waits for an
acknowledgement, and every transmission is given its timeout. If no acknowledgement is
accepted either, the timer is pending exactly while a frame waits for one. -/
theorem ackTimer_of_guarded (c : Ecp22Ctx) :
    (ecp22System.Reachable c → ∀ e, ecp22Step c e ≠ .error .assertFailed) ∧
      (ecp22System.ReachableWhere (fun c e => ¬GivesUpAtOnce c e) c → OneTimer c) ∧
      (ecp22System.ReachableWhere (fun c e => ¬GivesUpAtOnce c e ∧ ¬AcceptsAck c e) c →
        AckTimerDiscipline c) := by
  refine ⟨fun h e herr => ?_, fun h => ?_, fun h => ?_⟩
  · rcases ecp22Step_safe (ecp22Rest_of_reachable h) e with ⟨c', hok⟩ | hbounds
    · exact absurd (herr.symm.trans hok) nofun
    · exact absurd (herr.symm.trans hbounds) nofun
  · have hboth : Ecp22Rest c ∧ OneTimer c := by
      refine h.invariant (I := fun c => Ecp22Rest c ∧ OneTimer c) ?_ ?_
      · rintro d ⟨port, ownSrcAddr, hstart⟩
        refine ⟨?_, ecp22Start_oneTimer hstart⟩
        rw [ecp22Start_eq] at hstart
        exact (newEcp22_rest port ownSrcAddr).txRun hstart
      · rintro d e d' ⟨hrest, hone⟩ hguard hstep
        exact ⟨ecp22Step_rest hrest hstep, ecp22Step_oneTimer hrest hone hguard hstep⟩
    exact hboth.2
  · have hall : Ecp22Rest c ∧ OneTimer c ∧ Unacked c := by
      refine h.invariant (I := fun c => Ecp22Rest c ∧ OneTimer c ∧ Unacked c) ?_ ?_
      · rintro d ⟨port, ownSrcAddr, hstart⟩
        have hone := ecp22Start_oneTimer hstart
        rw [ecp22Start_eq] at hstart
        refine ⟨(newEcp22_rest port ownSrcAddr).txRun hstart, hone, ?_⟩
        refine ecp22TxRunSm_unacked ?_ hstart
        rw [Unacked, newEcp22, (rxRun_sameTx _).tx]
      · rintro d e d' ⟨hrest, hone, hack⟩ hguard hstep
        exact ⟨ecp22Step_rest hrest hstep, ecp22Step_oneTimer hrest hone hguard.1 hstep,
          ecp22Step_unacked hrest hack hguard.2 hstep⟩
    exact hall.2.1.discipline hall.2.2

/-! ### A timer that stays behind -/

/-- An enabled port. -/
def upPort : Port := { portEnabled := true, prevPortEnabled := true }

/-- The address of a station. -/
def stationAddr : MacAddr := ⟨[0x02, 0x00, 0x00, 0x00, 0x00, 0x05], rfl⟩

/-- A payload goes out four times, and nobody answers. -/
def unanswered : List Ecp22Event :=
  [.payload [0x0a], .ackTimeout 0, .ackTimeout 0, .ackTimeout 0]

theorem unanswered_run : ∃ s c, ecp22Start (some upPort) stationAddr = .ok s ∧
    ecp22System.run s unanswered = .ok c ∧ c.ecp.tx.state = .txWaitOndata ∧
    c.timers.map AckTimer.sent = [4] :=
  ⟨_, _, rfl, rfl, rfl, rfl⟩

/-- The ack timers do not keep the discipline. -/
theorem not_ackTimer : ¬ ∀ c, ecp22System.Reachable c → AckTimerDiscipline c := by
  intro hall
  obtain ⟨s, c, hstart, hrun, hstate, htimers⟩ := unanswered_run
  have hd := hall c ⟨s, unanswered, ⟨_, _, hstart⟩, hrun⟩
  have hne : c.timers ≠ [] := by
    intro hnil
    rw [hnil] at htimers
    exact absurd htimers nofun
  have hwaits := (hd.pending.mp hne).1
  exact absurd (hwaits.symm.trans hstate) nofun

/-- A payload goes out twice within the retries, and the discipline is kept. -/
theorem twice_disciplined :
    ∃ s d, ecp22Start (some upPort) stationAddr = .ok s ∧
      ecp22System.run s [.payload [0x0a], .ackTimeout 0] = .ok d ∧
      d.timers.map AckTimer.sent = [2] ∧ AckTimerDiscipline d := by
  obtain ⟨s, c, d, hstart, hmax, hfirst, hretries, hmax', hstate, hport, hack, hsecond, hsent⟩ :
      ∃ s c d, ecp22Start (some upPort) stationAddr = .ok s ∧ s.ecp.maxRetries = 3 ∧
        ecp22Step s (.payload [0x0a]) = .ok c ∧ c.ecp.tx.retries = 1 ∧ c.ecp.maxRetries = 3 ∧
        c.ecp.tx.state = .txTxmitEcpdu ∧ c.port = some upPort ∧
        c.ecp.tx.ackReceived = false ∧ ecp22Step c (.ackTimeout 0) = .ok d ∧
        d.timers.map AckTimer.sent = [2] :=
    ⟨_, _, _, rfl, rfl, rfl, rfl, rfl, rfl, rfl, rfl, rfl, rfl⟩
  have hguard₁ : ¬GivesUpAtOnce s (.payload [0x0a]) := by
    rintro ⟨-, -, -, hzero⟩
    rw [hmax] at hzero
    exact absurd hzero (by decide)
  have hguard₂ : ¬GivesUpAtOnce c (.ackTimeout 0) := by
    rintro ⟨-, p, hp, hover⟩
    obtain rfl : upPort = p := Option.some.inj (hport.symm.trans hp)
    have hre : Retransmits c upPort :=
      ⟨hstate, rfl, hack, by rw [hretries, hmax']; decide⟩
    rw [Overruns, if_pos hre, hretries, hmax'] at hover
    exact absurd hover (by decide)
  have hrun : ecp22System.RunWhere (fun c e => ¬GivesUpAtOnce c e ∧ ¬AcceptsAck c e) s
      [.payload [0x0a], .ackTimeout 0] d :=
    .cons ⟨hguard₁, id⟩ hfirst (.cons ⟨hguard₂, id⟩ hsecond (.nil d))
  exact ⟨s, d, hstart, hrun.run_eq, hsent,
    (ackTimer_of_guarded d).2.2 ⟨s, _, ⟨_, _, hstart⟩, hrun⟩⟩

end Lldpad.Qbg
