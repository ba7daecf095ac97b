import Lldpad.Qbg.Ecp22

/-!
# `Lldpad.Proofs.Qbg.Ecp22Rx`: the receive machine of ECP

At rest the receive machine waits for a request. What a run makes of a request can then be
written down as a function.

* `rxRun`, `ecp22RxRunSm_eq`: a run of the receive machine from rest. No assertion fails.
* `frameResult_of_ok`: what a frame does.
-/

namespace Lldpad.Qbg

open Lldpad.Lib
open Lldpad.Lldp (Bytes Port)

/-! ### Runs -/

/-- The instance with its receive machine in another state. -/
def Ecp22Ctx.withRxState (c : Ecp22Ctx) (s : Ecp22RxState) : Ecp22Ctx :=
  { c with ecp := { c.ecp with rx := { c.ecp.rx with state := s } } }

/-- The machine comes to rest in these states. -/
def Ecp22RxState.rests : Ecp22RxState → Bool
  | .rxBegin | .rxWait | .rxWait2 => true
  | .rxFirst | .rxRecEcpdu | .rxNewEcpdu | .rxSendAck => false

/-- A request is new: its sequence number is not the last one. -/
def Ecp22Ctx.rxNew (c : Ecp22Ctx) : Prop := c.rxHdrSeqno ≠ c.ecp.rx.lastSeqno

instance (c : Ecp22Ctx) : Decidable c.rxNew := inferInstanceAs (Decidable (_ ≠ _))

/-- The request in the buffer is read, handed up if it is new, and acknowledged. -/
def rxRequest (c : Ecp22Ctx) : Ecp22Ctx :=
  let d := ecp22EsRecEcpdu (c.withRxState .rxRecEcpdu)
  let d := if c.rxNew then ecp22EsNewEcpdu (d.withRxState .rxNewEcpdu) else d
  ecp22EsWait ((ecp22EsSendAck (d.withRxState .rxSendAck)).withRxState .rxWait2)

/-- A run of the receive machine from rest. -/
def rxRun (c : Ecp22Ctx) : Ecp22Ctx :=
  match c.port with
  | none => ecp22RxAction c
  | some p =>
    if p.portEnabled = false then ecp22EsWait (c.withRxState .rxWait)
    else match c.ecp.rx.state, c.ecp.rx.ecpduReceived with
      | .rxWait, true => rxRequest (ecp22EsFirst (c.withRxState .rxFirst))
      | .rxWait2, true => rxRequest c
      | .rxBegin, _ => ecp22EsWait (c.withRxState .rxWait)
      | _, _ => ecp22EsWait c

/-- The changes of state that the assertions let pass. -/
def rxFollows : Ecp22RxState → Ecp22RxState → Bool
  | _, .rxBegin => true
  | .rxBegin, .rxWait => true
  | .rxWait, .rxFirst => true
  | .rxFirst, .rxRecEcpdu | .rxWait2, .rxRecEcpdu => true
  | .rxRecEcpdu, .rxNewEcpdu => true
  | .rxRecEcpdu, .rxSendAck | .rxNewEcpdu, .rxSendAck => true
  | .rxSendAck, .rxWait2 => true
  | _, _ => false

theorem ecp22RxChangeState_ok {c : Ecp22Ctx} {s newstate : Ecp22RxState}
    (hs : c.ecp.rx.state = s) (h : rxFollows s newstate = true) :
    ecp22RxChangeState c newstate = .ok (c.withRxState newstate) := by
  unfold ecp22RxChangeState
  cases newstate
  all_goals
    cases s
    all_goals first
      | exact absurd h Bool.false_ne_true
      | simp [hs, Ecp22Ctx.withRxState]

theorem rxMove_enabled {c : Ecp22Ctx} {p : Port} (hp : c.port = some p)
    (hup : p.portEnabled = true) {x : Except Fault (Ecp22Ctx × Bool)}
    (hnext : ecp22NextRxState c = x) : ecp22RxMachine.move c = x := by
  show ecp22SetRxState c = _
  unfold ecp22SetRxState
  rw [hp]
  dsimp only
  rw [if_neg (by rw [hup]; nofun), pure_eq_ok, bind_ok, hnext]

theorem rxMove_disabled {c : Ecp22Ctx} {p : Port} (hp : c.port = some p)
    (hdown : p.portEnabled = false) :
    ecp22RxMachine.move c = .ok (c.withRxState .rxWait, false) := by
  show ecp22SetRxState c = _
  unfold ecp22SetRxState
  rw [hp]
  dsimp only
  rw [if_pos hdown, ecp22RxChangeState_ok rfl (by cases c.ecp.rx.state <;> rfl), bind_ok]
  rfl

theorem rxAction_port (c : Ecp22Ctx) : (ecp22RxAction c).port = c.port := by
  unfold ecp22RxAction
  split <;> rfl

section

variable {c d : Ecp22Ctx} {p : Port} (hp : c.port = some p) (hup : p.portEnabled = true)

include hp hup

theorem rxRound_again (hnext : ecp22NextRxState (ecp22RxAction c) = .ok (d, true)) (fuel : Nat) :
    iterate ecp22RxMachine.round (fuel + 1) c = iterate ecp22RxMachine.round fuel d :=
  Machine.iterate_round_again rfl (rxMove_enabled ((rxAction_port c).trans hp) hup hnext)

theorem rxRound_final (hnext : ecp22NextRxState (ecp22RxAction c) = .ok (d, false)) (fuel : Nat) :
    iterate ecp22RxMachine.round (fuel + 1) c = .ok d :=
  Machine.iterate_round_final rfl (rxMove_enabled ((rxAction_port c).trans hp) hup hnext)

end

section

variable {c : Ecp22Ctx} {p : Port} (hp : c.port = some p) (hup : p.portEnabled = true)

include hp hup

theorem rxRounds_sendAck (fuel : Nat) :
    iterate ecp22RxMachine.round (fuel + 2) (c.withRxState .rxSendAck)
      = .ok (ecp22EsWait ((ecp22EsSendAck (c.withRxState .rxSendAck)).withRxState .rxWait2)) := by
  let d := (ecp22EsSendAck (c.withRxState .rxSendAck)).withRxState .rxWait2
  have hack : iterate ecp22RxMachine.round (fuel + 2) (c.withRxState .rxSendAck)
      = iterate ecp22RxMachine.round (fuel + 1) d :=
    rxRound_again (c := c.withRxState .rxSendAck) (d := d) hp hup rfl (fuel + 1)
  have hwait : iterate ecp22RxMachine.round (fuel + 1) d = .ok (ecp22EsWait d) :=
    rxRound_final (c := d) (d := ecp22EsWait d) hp hup rfl fuel
  exact hack.trans hwait

theorem rxRounds_recEcpdu (fuel : Nat) :
    iterate ecp22RxMachine.round (fuel + 4) (c.withRxState .rxRecEcpdu)
      = .ok (rxRequest c) := by
  let d := ecp22EsRecEcpdu (c.withRxState .rxRecEcpdu)
  unfold rxRequest
  dsimp only
  by_cases hnew : c.rxNew
  · have hread : iterate ecp22RxMachine.round (fuel + 4) (c.withRxState .rxRecEcpdu)
        = iterate ecp22RxMachine.round (fuel + 3) (d.withRxState .rxNewEcpdu) :=
      rxRound_again (c := c.withRxState .rxRecEcpdu) (d := d.withRxState .rxNewEcpdu) hp hup
        (if_neg hnew) (fuel + 3)
    have hup' : iterate ecp22RxMachine.round (fuel + 3) (d.withRxState .rxNewEcpdu)
        = iterate ecp22RxMachine.round (fuel + 2)
          ((ecp22EsNewEcpdu (d.withRxState .rxNewEcpdu)).withRxState .rxSendAck) :=
      rxRound_again (c := d.withRxState .rxNewEcpdu) hp hup rfl (fuel + 2)
    rw [if_pos hnew, hread, hup']
    exact rxRounds_sendAck (c := ecp22EsNewEcpdu (d.withRxState .rxNewEcpdu)) hp hup fuel
  · have hread : iterate ecp22RxMachine.round (fuel + 4) (c.withRxState .rxRecEcpdu)
        = iterate ecp22RxMachine.round (fuel + 3) (d.withRxState .rxSendAck) :=
      rxRound_again (c := c.withRxState .rxRecEcpdu) (d := d.withRxState .rxSendAck) hp hup
        (if_pos (Decidable.not_not.mp hnew)) (fuel + 3)
    rw [if_neg hnew, hread]
    exact rxRounds_sendAck (c := d) hp hup (fuel + 1)

theorem rxNext_idle (hs : c.ecp.rx.state = .rxWait ∨ c.ecp.rx.state = .rxWait2)
    (hreceived : c.ecp.rx.ecpduReceived = false) : ecp22RxMachine.move c = .ok (c, false) := by
  refine rxMove_enabled hp hup ?_
  unfold ecp22NextRxState
  rcases hs with hs | hs
  · rw [hs]
    rw [hreceived]
    rfl
  · rw [hs]
    rw [hreceived]
    rfl

end

/-- A run of the receive machine from rest. -/
theorem ecp22RxRunSm_eq {c : Ecp22Ctx} (hrest : c.ecp.rx.state.rests = true) :
    ecp22RxRunSm c = .ok (rxRun c) := by
  unfold ecp22RxRunSm rxRun
  cases hp : c.port with
  | none =>
    have hmove : ∀ d : Ecp22Ctx, d.port = none → ecp22RxMachine.move d = .ok (d, false) := by
      intro d hd
      show ecp22SetRxState d = _
      rw [ecp22SetRxState, hd]
      rfl
    exact Machine.run_eq_of_final (hmove c hp) rfl (hmove _ ((rxAction_port c).trans hp))
  | some p =>
    dsimp only
    cases hup : p.portEnabled with
    | false =>
      rw [if_pos rfl]
      have hlast := rxMove_disabled (c := ecp22EsWait (c.withRxState .rxWait)) hp hup
      exact Machine.run_eq_of_final (rxMove_disabled hp hup) rfl hlast
    | true =>
      rw [if_neg nofun]
      cases hs : c.ecp.rx.state with
      | rxBegin =>
        have hnext : ecp22NextRxState c = .ok (c.withRxState .rxWait, false) := by
          unfold ecp22NextRxState
          rw [hs]
          rw [ecp22RxChangeState_ok hs rfl]
          rfl
        exact Machine.run_eq_of_final (rxMove_enabled hp hup hnext) rfl
          (rxNext_idle (c := ecp22EsWait (c.withRxState .rxWait)) hp hup (.inl rfl) rfl)
      | rxWait =>
        cases hreceived : c.ecp.rx.ecpduReceived with
        | false =>
          have hact : ecp22RxMachine.act c = .ok (ecp22EsWait c) := by
            show Except.ok (ecp22RxAction c) = _
            rw [ecp22RxAction, hs]
          exact Machine.run_eq_of_final (rxNext_idle hp hup (.inl hs) hreceived) hact
            (rxNext_idle (c := ecp22EsWait c) hp hup (.inl hs) rfl)
        | true =>
          have hnext : ecp22NextRxState c = .ok (c.withRxState .rxFirst, true) := by
            unfold ecp22NextRxState
            rw [hs]
            dsimp only
            rw [if_pos hreceived, ecp22RxChangeState_ok hs rfl]
            rfl
          rw [Machine.run, rxMove_enabled hp hup hnext, bind_ok]
          show iterate ecp22RxMachine.round (7 + 1) (c.withRxState .rxFirst) = _
          rw [rxRound_again (c := c.withRxState .rxFirst)
            (d := (ecp22EsFirst (c.withRxState .rxFirst)).withRxState .rxRecEcpdu) hp hup rfl]
          exact rxRounds_recEcpdu (c := ecp22EsFirst (c.withRxState .rxFirst)) hp hup 3
      | rxWait2 =>
        cases hreceived : c.ecp.rx.ecpduReceived with
        | false =>
          have hact : ecp22RxMachine.act c = .ok (ecp22EsWait c) := by
            show Except.ok (ecp22RxAction c) = _
            rw [ecp22RxAction, hs]
          exact Machine.run_eq_of_final (rxNext_idle hp hup (.inr hs) hreceived) hact
            (rxNext_idle (c := ecp22EsWait c) hp hup (.inr hs) rfl)
        | true =>
          have hnext : ecp22NextRxState c = .ok (c.withRxState .rxRecEcpdu, true) := by
            unfold ecp22NextRxState
            rw [hs]
            dsimp only
            rw [if_pos hreceived, ecp22RxChangeState_ok hs rfl]
            rfl
          rw [Machine.run, rxMove_enabled hp hup hnext, bind_ok]
          exact rxRounds_recEcpdu hp hup 4
      | rxFirst | rxRecEcpdu | rxNewEcpdu | rxSendAck =>
        rw [hs] at hrest
        exact absurd hrest Bool.false_ne_true

/-! ### At rest -/

/-- The receive machine is at rest: its buffer is free. -/
structure RxRest (c : Ecp22Ctx) : Prop where
  rests : c.ecp.rx.state.rests = true
  free : c.ecp.rx.ecpduReceived = false

theorem rxRequest_rest (c : Ecp22Ctx) : RxRest (rxRequest c) := ⟨rfl, rfl⟩

theorem rxRun_rest {c : Ecp22Ctx} (h : c.ecp.rx.state.rests = true)
    (hport : c.port = none → c.ecp.rx.ecpduReceived = false) : RxRest (rxRun c) := by
  unfold rxRun
  split
  · next hp =>
    unfold ecp22RxAction
    split
    · exact ⟨h, rfl⟩
    · exact ⟨h, rfl⟩
    · next hs => rw [hs] at h; exact absurd h Bool.false_ne_true
    · next hs => rw [hs] at h; exact absurd h Bool.false_ne_true
    · next hs => rw [hs] at h; exact absurd h Bool.false_ne_true
    · next hs => rw [hs] at h; exact absurd h Bool.false_ne_true
    · exact ⟨h, hport hp⟩
  · split
    · exact ⟨rfl, rfl⟩
    · split
      · exact rxRequest_rest _
      · exact rxRequest_rest _
      · exact ⟨rfl, rfl⟩
      · exact ⟨h, rfl⟩

/-- Two instances agree in everything that the transmit side works on. -/
structure SameTx (c d : Ecp22Ctx) : Prop where
  tx : d.ecp.tx = c.ecp.tx
  inuse : d.ecp.inuse = c.ecp.inuse
  freecnt : d.ecp.freecnt = c.ecp.freecnt
  maxRetries : d.ecp.maxRetries = c.ecp.maxRetries
  port : d.port = c.port
  ownSrcAddr : d.ownSrcAddr = c.ownSrcAddr
  timers : d.timers = c.timers
  trace : d.trace = c.trace

theorem SameTx.refl (c : Ecp22Ctx) : SameTx c c := ⟨rfl, rfl, rfl, rfl, rfl, rfl, rfl, rfl⟩

theorem SameTx.trans {c d e : Ecp22Ctx} (h : SameTx c d) (h' : SameTx d e) : SameTx c e :=
  ⟨h'.tx.trans h.tx, h'.inuse.trans h.inuse, h'.freecnt.trans h.freecnt,
    h'.maxRetries.trans h.maxRetries, h'.port.trans h.port, h'.ownSrcAddr.trans h.ownSrcAddr,
    h'.timers.trans h.timers, h'.trace.trans h.trace⟩

theorem withRxState_sameTx (c : Ecp22Ctx) (s : Ecp22RxState) : SameTx c (c.withRxState s) :=
  ⟨rfl, rfl, rfl, rfl, rfl, rfl, rfl, rfl⟩

theorem rxAction_sameTx (c : Ecp22Ctx) : SameTx c (ecp22RxAction c) := by
  unfold ecp22RxAction
  split
  all_goals exact ⟨rfl, rfl, rfl, rfl, rfl, rfl, rfl, rfl⟩

theorem rxEnter_sameTx (c : Ecp22Ctx) (s : Ecp22RxState) :
    SameTx c (ecp22RxAction (c.withRxState s)) :=
  (withRxState_sameTx c s).trans (rxAction_sameTx _)

theorem rxRequest_sameTx (c : Ecp22Ctx) : SameTx c (rxRequest c) := by
  have hend : ∀ d : Ecp22Ctx, SameTx d
      (ecp22EsWait ((ecp22EsSendAck (d.withRxState .rxSendAck)).withRxState .rxWait2)) :=
    fun d => (rxEnter_sameTx d .rxSendAck).trans (rxEnter_sameTx _ .rxWait2)
  have hread := rxEnter_sameTx c .rxRecEcpdu
  unfold rxRequest
  dsimp only
  by_cases hnew : c.rxNew
  · rw [if_pos hnew]
    exact hread.trans ((rxEnter_sameTx _ .rxNewEcpdu).trans (hend _))
  · rw [if_neg hnew]
    exact hread.trans (hend _)

theorem rxRun_sameTx (c : Ecp22Ctx) : SameTx c (rxRun c) := by
  unfold rxRun
  split
  · exact rxAction_sameTx c
  · split
    · exact rxEnter_sameTx c .rxWait
    · split
      · exact (rxEnter_sameTx c .rxFirst).trans (rxRequest_sameTx _)
      · exact rxRequest_sameTx c
      · exact rxEnter_sameTx c .rxWait
      · exact ⟨rfl, rfl, rfl, rfl, rfl, rfl, rfl, rfl⟩

/-! ### Frames -/

/-- The version and the subtype of the header are known ones. -/
def knownHdr (verOpSub : UInt16) : Prop :=
  ecp22HdrReadVersion verOpSub = 1 ∧
    (ecp22HdrReadSubtype verOpSub = ecp22Pecsp ∨ ecp22HdrReadSubtype verOpSub = ecp22Vdp)

/-- What a frame can do. -/
inductive FrameResult (c : Ecp22Ctx) (buf : Bytes) : Ecp22Ctx → Prop
  | noPort (h : c.port = none) : FrameResult c buf c
  | ignored (h : c.port ≠ none) : FrameResult c buf (c.stored buf)
  | request (h : c.port ≠ none) (hknown : knownHdr (c.stored buf).rxVerOpSub)
      (hop : ecp22HdrReadOp (c.stored buf).rxVerOpSub = ecp22Request) :
      FrameResult c buf (rxRun (c.stored buf).requested)
  | ack (h : c.port ≠ none) (hknown : knownHdr (c.stored buf).rxVerOpSub)
      (hop : ecp22HdrReadOp (c.stored buf).rxVerOpSub = ecp22Ack) :
      FrameResult c buf (ecp22RecackFrame (c.stored buf) (c.stored buf).rxHdrSeqno)

/-- A frame that fits into the buffer does one of these things, a longer one runs over its
end. -/
theorem frameResult_exists {c : Ecp22Ctx} (hrest : RxRest c) (buf : Bytes) :
    (∃ d, ecp22RxReceiveframe buf c = .ok d ∧ FrameResult c buf d) ∨
      ecp22RxReceiveframe buf c = .error .outOfBounds := by
  unfold ecp22RxReceiveframe
  by_cases hport : c.port = none
  · rw [if_pos (.inl hport)]
    exact .inl ⟨c, rfl, .noPort hport⟩
  · rw [if_neg (by simp [hport, hrest.free])]
    by_cases hfit : buf.length > Lldp.ethFrameLen
    · rw [if_pos hfit]
      exact .inr rfl
    · rw [if_neg hfit, ecp22RxStoredframe]
      left
      by_cases hver : ecp22HdrReadVersion (c.stored buf).rxVerOpSub = 1
      · rw [if_neg (not_not_intro hver)]
        by_cases hsub : ecp22HdrReadSubtype (c.stored buf).rxVerOpSub = ecp22Pecsp ∨
            ecp22HdrReadSubtype (c.stored buf).rxVerOpSub = ecp22Vdp
        · rw [if_neg (by rw [← not_or]; exact not_not_intro hsub)]
          by_cases hreq : ecp22HdrReadOp (c.stored buf).rxVerOpSub = ecp22Request
          · rw [if_pos hreq]
            exact ⟨_, ecp22RxRunSm_eq (c := (c.stored buf).requested) hrest.rests,
              .request hport ⟨hver, hsub⟩ hreq⟩
          · rw [if_neg hreq]
            by_cases hack : ecp22HdrReadOp (c.stored buf).rxVerOpSub = ecp22Ack
            · rw [if_pos hack]
              exact ⟨_, rfl, .ack hport ⟨hver, hsub⟩ hack⟩
            · rw [if_neg hack]
              exact ⟨_, rfl, .ignored hport⟩
        · rw [if_pos (not_or.mp hsub)]
          exact ⟨_, rfl, .ignored hport⟩
      · rw [if_pos hver]
        exact ⟨_, rfl, .ignored hport⟩

theorem frameResult_of_ok {c d : Ecp22Ctx} {buf : Bytes} (hrest : RxRest c)
    (h : ecp22RxReceiveframe buf c = .ok d) : FrameResult c buf d := by
  rcases frameResult_exists hrest buf with ⟨d', h', hr⟩ | h'
  · cases h'.symm.trans h
    exact hr
  · exact absurd (h'.symm.trans h) nofun

theorem FrameResult.rest {c d : Ecp22Ctx} {buf : Bytes} (hrest : RxRest c)
    (h : FrameResult c buf d) : RxRest d := by
  cases h with
  | noPort => exact hrest
  | ignored => exact ⟨hrest.rests, hrest.free⟩
  | request h =>
    exact rxRun_rest (c := (c.stored buf).requested) hrest.rests fun hnone => absurd hnone h
  | ack =>
    unfold ecp22RecackFrame
    split
    · exact ⟨hrest.rests, hrest.free⟩
    · exact ⟨hrest.rests, hrest.free⟩

/-- All that a frame can do to the transmit side is to acknowledge the frame in the transmit
buffer. -/
theorem FrameResult.sameTx {c d : Ecp22Ctx} {buf : Bytes} (h : FrameResult c buf d) :
    SameTx c d ∨ ∃ seqno, SameTx (ecp22RecackFrame c seqno) d := by
  cases h with
  | noPort => exact .inl (.refl c)
  | ignored => exact .inl ⟨rfl, rfl, rfl, rfl, rfl, rfl, rfl, rfl⟩
  | request =>
    have hstored : SameTx c (c.stored buf).requested := ⟨rfl, rfl, rfl, rfl, rfl, rfl, rfl, rfl⟩
    exact .inl (hstored.trans (rxRun_sameTx _))
  | ack =>
    refine .inr ⟨(c.stored buf).rxHdrSeqno, ?_⟩
    unfold ecp22RecackFrame
    by_cases hack : c.ecp.tx.ecpduReceived = true ∧ c.ecp.tx.seqno = (c.stored buf).rxHdrSeqno
    · rw [if_pos hack, if_pos (show (c.stored buf).ecp.tx.ecpduReceived = true ∧
        (c.stored buf).ecp.tx.seqno = (c.stored buf).rxHdrSeqno from hack)]
      exact ⟨rfl, rfl, rfl, rfl, rfl, rfl, rfl, rfl⟩
    · rw [if_neg hack, if_neg (show ¬((c.stored buf).ecp.tx.ecpduReceived = true ∧
        (c.stored buf).ecp.tx.seqno = (c.stored buf).rxHdrSeqno) from hack)]
      exact ⟨rfl, rfl, rfl, rfl, rfl, rfl, rfl, rfl⟩

end Lldpad.Qbg
