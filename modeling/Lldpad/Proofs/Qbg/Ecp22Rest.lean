import Lldpad.Proofs.Qbg.Ecp22Rx
import Lldpad.Proofs.Qbg.Ecp22Tx

/-!
# `Lldpad.Proofs.Qbg.Ecp22Rest`: an ECP instance between two events

Between two events both machines of an instance are at rest, and no event makes an assertion
fail.

* `Ecp22Ctx.queue`, `Ecp22Ctx.expired`: what stands before a run of the transmit machine.
* `Ecp22Rest`, `ecp22Step_rest`: every step leaves both machines at rest.
* `ecp22Step_safe`: no step from rest fails an assertion.
-/

namespace Lldpad.Qbg

open Lldpad.Lib
open Lldpad.Lldp (Bytes Port)

/-! ### The events of the transmit side -/

/-- A payload of the upper layer, as it is queued. -/
def payloadNode (du : Bytes) : Ecp22PayloadNode :=
  { ptlv := du, subtype := ecp22Vdp, mac := nearestCustomerBridge }

/-- The instance with one more payload in its queue. -/
def Ecp22Ctx.queue (c : Ecp22Ctx) (du : Bytes) : Ecp22Ctx :=
  { c with
    ecp := { ecp22Getnode c.ecp with inuse := (ecp22Getnode c.ecp).inuse ++ [payloadNode du] }
    trace := { c.trace with queued := c.trace.queued ++ [du] } }

/-- The instance without the timer at place `i`, which has expired. -/
def Ecp22Ctx.expired (c : Ecp22Ctx) (i : Nat) (t : AckTimer) : Ecp22Ctx :=
  { c with
    timers := c.timers.eraseIdx i
    trace := { c.trace with log := .timeout t.sent :: c.trace.log } }

theorem dataFromVdp_eq (du : Bytes) (c : Ecp22Ctx) :
    dataFromVdp du c =
      if du.length ≥ ecp22MaxpayloadLen then .ok c
      else if c.ecp.tx.ecpduReceived = false then ecp22TxRunSm (c.queue du)
      else .ok (c.queue du) := by
  unfold dataFromVdp ecp22Req2send ecp22AddPayload
  have htx : (ecp22Getnode c.ecp).tx = c.ecp.tx := by
    unfold ecp22Getnode
    split <;> rfl
  by_cases hlen : du.length ≥ ecp22MaxpayloadLen
  · rw [if_pos hlen, if_pos hlen]
  · rw [if_neg hlen, if_neg hlen]
    show (if (ecp22Getnode c.ecp).tx.ecpduReceived = false then ecp22TxRunSm (c.queue du)
      else .ok (c.queue du)) = _
    rw [htx]

theorem ackTimeout_eq_some {c : Ecp22Ctx} {i : Nat} {t : AckTimer} (h : c.timers[i]? = some t) :
    ecp22AckTimeoutHandler i c = ecp22TxRunSm (c.expired i t) := by
  rw [ecp22AckTimeoutHandler, h]
  rfl

theorem ackTimeout_eq_none {c : Ecp22Ctx} {i : Nat} (h : c.timers[i]? = none) :
    ecp22AckTimeoutHandler i c = .ok c := by
  rw [ecp22AckTimeoutHandler, h]

/-- A payload is dropped, or it is queued, and the machine runs if it waits for one. -/
theorem payload_cases {c c' : Ecp22Ctx} {du : Bytes} (h : ecp22Step c (.payload du) = .ok c') :
    c = c' ∨ du.length < ecp22MaxpayloadLen ∧
      (c.ecp.tx.ecpduReceived = false ∧ ecp22TxRunSm (c.queue du) = .ok c' ∨ c.queue du = c') := by
  replace h := (dataFromVdp_eq du c).symm.trans h
  split_ifs at h with hlen hfree
  · exact .inl (Except.ok.inj h)
  · exact .inr ⟨Nat.not_le.mp hlen, .inl ⟨hfree, h⟩⟩
  · exact .inr ⟨Nat.not_le.mp hlen, .inr (Except.ok.inj h)⟩

/-- The machine runs, if the timer is there. -/
theorem ackTimeout_cases {c c' : Ecp22Ctx} {i : Nat} (h : ecp22Step c (.ackTimeout i) = .ok c') :
    c = c' ∨ ∃ t, c.timers[i]? = some t ∧ ecp22TxRunSm (c.expired i t) = .ok c' := by
  replace h : ecp22AckTimeoutHandler i c = .ok c' := h
  cases ht : c.timers[i]? with
  | none => exact .inl (Except.ok.inj ((ackTimeout_eq_none ht).symm.trans h))
  | some t => exact .inr ⟨t, rfl, (ackTimeout_eq_some ht).symm.trans h⟩

section

variable (c : Ecp22Ctx) (du : Bytes)

@[simp] theorem queue_tx : (c.queue du).ecp.tx = c.ecp.tx := by
  show (ecp22Getnode c.ecp).tx = _
  unfold ecp22Getnode
  split <;> rfl

@[simp] theorem queue_rx : (c.queue du).ecp.rx = c.ecp.rx := by
  show (ecp22Getnode c.ecp).rx = _
  unfold ecp22Getnode
  split <;> rfl

@[simp] theorem queue_maxRetries : (c.queue du).ecp.maxRetries = c.ecp.maxRetries := by
  show (ecp22Getnode c.ecp).maxRetries = _
  unfold ecp22Getnode
  split <;> rfl

@[simp] theorem queue_inuse : (c.queue du).ecp.inuse = c.ecp.inuse ++ [payloadNode du] := by
  show (ecp22Getnode c.ecp).inuse ++ _ = _
  unfold ecp22Getnode
  split <;> rfl

end

/-! ### Rest -/

/-- Both machines are at rest. -/
structure Ecp22Rest (c : Ecp22Ctx) : Prop where
  tx : TxRest c
  rx : RxRest c

theorem RxRest.congr {c d : Ecp22Ctx} (h : RxRest c) (hrx : d.ecp.rx = c.ecp.rx) : RxRest d :=
  ⟨by rw [hrx]; exact h.rests, by rw [hrx]; exact h.free⟩

theorem TxRest.congr {c d : Ecp22Ctx} (h : TxRest c) (htx : d.ecp.tx = c.ecp.tx) : TxRest d := by
  refine ⟨by rw [htx]; exact h.rests, by rw [htx]; exact h.busy, fun hne => ?_⟩
  rw [htx] at hne
  obtain ⟨hreceived, hack, hretries⟩ := h.free hne
  exact ⟨by rw [htx]; exact hreceived, by rw [htx]; exact hack, by rw [htx]; exact hretries⟩

theorem TxRest.state_ne {c : Ecp22Ctx} (h : TxRest c) (hfree : c.ecp.tx.ecpduReceived = false) :
    c.ecp.tx.state ≠ .txTxmitEcpdu := fun htx =>
  absurd ((h.busy htx).symm.trans hfree) nofun

theorem TxRest.recack {c : Ecp22Ctx} (h : TxRest c) (seqno : UInt16) :
    TxRest (ecp22RecackFrame c seqno) := by
  unfold ecp22RecackFrame
  by_cases hack : c.ecp.tx.ecpduReceived = true ∧ c.ecp.tx.seqno = seqno
  · rw [if_pos hack]
    exact ⟨h.rests, h.busy, fun hne => absurd (hack.1.symm.trans (h.free hne).received) nofun⟩
  · rw [if_neg hack]
    exact h

theorem TxMove.rx {c d : Ecp22Ctx} {b : Bool} (h : TxMove c d b) :
    d.ecp.rx = c.ecp.rx ∧ d.ulp = c.ulp ∧ d.ownSrcAddr = c.ownSrcAddr := by
  cases h with
  | build hp hs hdata =>
    unfold ecp22BuildEcpdu
    split
    · exact ⟨rfl, rfl, rfl⟩
    · refine ⟨?_, rfl, rfl⟩
      show (ecp22Putnode _).rx = _
      unfold ecp22Putnode
      split <;> rfl
  | _ => exact ⟨rfl, rfl, rfl⟩

theorem ecp22TxRunSm_rx {c c' : Ecp22Ctx} (h : ecp22TxRunSm c = .ok c') :
    c'.ecp.rx = c.ecp.rx ∧ c'.ulp = c.ulp ∧ c'.ownSrcAddr = c.ownSrcAddr := by
  let I : Ecp22Ctx → Prop := fun d =>
    d.ecp.rx = c.ecp.rx ∧ d.ulp = c.ulp ∧ d.ownSrcAddr = c.ownSrcAddr
  have hmove : ∀ d e b, I d → TxMove d e b → I e := by
    intro d e b hd hm
    obtain ⟨hrx, hulp, haddr⟩ := hm.rx
    exact ⟨hrx.trans hd.1, hulp.trans hd.2.1, haddr.trans hd.2.2⟩
  have hact : ∀ d, I d → I (ecp22TxAction d) := by
    intro d hd
    unfold ecp22TxAction
    split
    all_goals exact hd
  exact txRun_preserves hact hmove ⟨rfl, rfl, rfl⟩ h

theorem Ecp22Rest.txRun {c c' : Ecp22Ctx} (h : Ecp22Rest c) (hrun : ecp22TxRunSm c = .ok c') :
    Ecp22Rest c' :=
  ⟨ecp22TxRunSm_rest h.tx hrun, h.rx.congr (ecp22TxRunSm_rx hrun).1⟩

theorem ecp22Step_rest {c c' : Ecp22Ctx} {e : Ecp22Event} (h : Ecp22Rest c)
    (hstep : ecp22Step c e = .ok c') : Ecp22Rest c' := by
  cases e with
  | payload du =>
    have hqueue : Ecp22Rest (c.queue du) :=
      ⟨h.tx.congr (queue_tx c du), h.rx.congr (queue_rx c du)⟩
    rcases payload_cases hstep with rfl | ⟨-, ⟨-, hrun⟩ | rfl⟩
    · exact h
    · exact hqueue.txRun hrun
    · exact hqueue
  | frame buf =>
    have hr := frameResult_of_ok h.rx hstep
    refine ⟨?_, hr.rest h.rx⟩
    rcases hr.sameTx with hsame | ⟨seqno, hsame⟩
    · exact h.tx.congr hsame.tx
    · exact (h.tx.recack seqno).congr hsame.tx
  | ackTimeout i =>
    rcases ackTimeout_cases hstep with rfl | ⟨t, -, hrun⟩
    · exact h
    · have hexpired : Ecp22Rest (c.expired i t) := ⟨h.tx.congr rfl, h.rx.congr rfl⟩
      exact hexpired.txRun hrun
  | fromEvb maxRetry maxRte =>
    cases hstep
    exact ⟨h.tx.congr rfl, h.rx.congr rfl⟩
  | port p =>
    cases hstep
    exact ⟨h.tx.congr rfl, h.rx.congr rfl⟩

/-- No step from rest fails an assertion: a step returns, or a frame ran over the end of the
receive buffer. -/
theorem ecp22Step_safe {c : Ecp22Ctx} (h : Ecp22Rest c) (e : Ecp22Event) :
    (∃ c', ecp22Step c e = .ok c') ∨ ecp22Step c e = .error .outOfBounds := by
  cases e with
  | payload du =>
    left
    show ∃ c', dataFromVdp du c = .ok c'
    rw [dataFromVdp_eq]
    split
    · exact ⟨c, rfl⟩
    · split
      · exact ecp22TxRunSm_total _
      · exact ⟨_, rfl⟩
  | frame buf =>
    rcases frameResult_exists h.rx buf with ⟨d, hd, -⟩ | herr
    · exact .inl ⟨d, hd⟩
    · exact .inr herr
  | ackTimeout i =>
    left
    show ∃ c', ecp22AckTimeoutHandler i c = .ok c'
    cases ht : c.timers[i]? with
    | none => exact ⟨c, ackTimeout_eq_none ht⟩
    | some t =>
      rw [ackTimeout_eq_some ht]
      exact ecp22TxRunSm_total _
  | fromEvb maxRetry maxRte => exact .inl ⟨_, rfl⟩
  | port p => exact .inl ⟨_, rfl⟩

/-! ### The start -/

/-- The new instance that `ecp22_start` works on, once its receive machine has run. -/
def newEcp22 (port : Option Port) (ownSrcAddr : MacAddr) : Ecp22Ctx :=
  rxRun { port := port, ownSrcAddr := ownSrcAddr }

theorem ecp22Start_eq (port : Option Port) (ownSrcAddr : MacAddr) :
    ecp22Start port ownSrcAddr = ecp22TxRunSm (newEcp22 port ownSrcAddr) := by
  rw [ecp22Start, ecp22RxRunSm_eq rfl, bind_ok]
  rfl

theorem newEcp22_rest (port : Option Port) (ownSrcAddr : MacAddr) :
    Ecp22Rest (newEcp22 port ownSrcAddr) := by
  have hsame := rxRun_sameTx { port := port, ownSrcAddr := ownSrcAddr }
  have hrest : TxRest { port := port, ownSrcAddr := ownSrcAddr } :=
    ⟨rfl, nofun, fun _ => ⟨rfl, rfl, rfl⟩⟩
  exact ⟨hrest.congr hsame.tx, rxRun_rest rfl fun _ => rfl⟩

theorem ecp22Rest_of_reachable {c : Ecp22Ctx} (h : ecp22System.Reachable c) : Ecp22Rest c := by
  refine h.invariant (I := Ecp22Rest) ?_ (fun d e d' hrest hstep => ecp22Step_rest hrest hstep)
  rintro c ⟨port, ownSrcAddr, hstart⟩
  rw [ecp22Start_eq] at hstart
  exact (newEcp22_rest port ownSrcAddr).txRun hstart

end Lldpad.Qbg
