import Lldpad.Proofs.Qbg.Delivery

/-!
# `Lldpad.Proofs.Qbg.Wraparound`: a payload that looks like the last one

The sequence numbers wrap around after 65535 payloads. When that many are lost in a row, the
next payload has the number of the last one that arrived. The receiver acknowledges it and
does not hand it up.

* `lostLink_eq`, `lostLink_reachable`: any number of payloads is lost.
* `not_delivered`: the payload behind them is acknowledged and never handed up.
-/

namespace Lldpad.Qbg

open Lldpad.Lib
open Lldpad.Lldp (Bytes)

/-! ### The first payload -/

/-- A link of two stations. -/
def stations : Except Fault Ecp22Link := do
  let s ← ecp22Start (some upPort) stationAddr
  let r ← ecp22Start (some upPort) stationAddr
  pure { sender := s, receiver := r }

theorem stations_fresh : ∃ l, stations = .ok l ∧ l.Fresh :=
  ⟨_, rfl, upPort, upPort, stationAddr, stationAddr, _, _, rfl, rfl, rfl, rfl, rfl⟩

/-- A payload is delivered and acknowledged, and then the retries are set to none. -/
def firstPayload : List LinkEvent :=
  [.payload [1], .request, .ack, .ackTimeout 0, .fromEvb 0 8]

/-- The link after the first payload. -/
def firstLink : Ecp22Link :=
  (stations >>= fun s => linkSystem.run s firstPayload).toOption.get rfl

theorem firstLink_run : ∃ s, stations = .ok s ∧ linkSystem.run s firstPayload = .ok firstLink :=
  ⟨_, rfl, rfl⟩

/-! ### Payloads that are lost -/

/-- `firstLink` when `k` payloads have been put into the transmit buffer and the next one gets
the number `seqno`. What no step looks at, such as the pending timers, is that of `l`. -/
def behind (seqno : UInt16) (k : Nat) (l : Ecp22Link) : Ecp22Link :=
  { firstLink with
    sender := { firstLink.sender with
      ecp := { firstLink.sender.ecp with
        tx := { firstLink.sender.ecp.tx with
          frame := l.sender.ecp.tx.frame
          frameLen := l.sender.ecp.tx.frameLen
          errors := l.sender.ecp.tx.errors
          seqno := seqno } }
      timers := l.sender.timers
      trace := { l.sender.trace with places := [], built := k, acked := [0] } } }

/-- A payload is queued, and its frame is lost. -/
def lossOfPayload : List LinkEvent := [.payload [], .loseRequest 0]

def losePayload (l : Ecp22Link) : Ecp22Link :=
  (linkSystem.run l lossOfPayload).toOption.getD l

/-- The link after the loss of `n` payloads behind the first one. -/
def lostLink (n : Nat) : Ecp22Link := losePayload^[n] firstLink

variable (seqno : UInt16) (k n : Nat) (l : Ecp22Link)

theorem getnode_behind : ecp22Getnode (behind seqno k l).sender.ecp =
    { (behind seqno k l).sender.ecp with freecnt := 0 } :=
  congrArg (fun n => { (behind seqno k l).sender.ecp with freecnt := n })
    (by decide : (1 : UInt16) - 1 = 0)

/-- A machine without retries gives the payload up at once. -/
theorem losePayload_behind :
    linkSystem.run (behind seqno k l) lossOfPayload = .ok (losePayload (behind seqno k l)) ∧
      losePayload (behind seqno k l) =
        behind (incSeqno seqno) (k + 1) (losePayload (behind seqno k l)) := by
  obtain ⟨l', hrun, hl'⟩ : ∃ l', linkSystem.run (behind seqno k l) lossOfPayload = .ok l' ∧
      l' = behind (incSeqno seqno) (k + 1) l' := by
    show ∃ l', ((ecp22TxRunSm (Ecp22Ctx.queue _ []) >>= _) >>= _ : Except Fault _) = .ok l' ∧ _
    rw [Ecp22Ctx.queue, getnode_behind]
    refine ⟨_, rfl, ?_⟩
    rfl
  have hlose : losePayload (behind seqno k l) = l' := by
    rw [losePayload, hrun]
    rfl
  rw [hlose]
  exact ⟨hrun, hl'⟩

theorem lostLink_succ : lostLink (n + 1) = losePayload (lostLink n) :=
  Function.iterate_succ_apply' _ _ _

theorem lostLink_eq : lostLink n = behind (seqOf n.succ) n.succ (lostLink n) := by
  induction n with
  | zero => rfl
  | succ n ih =>
    rw [lostLink_succ, ih, ← incSeqno_seqOf n.succ]
    exact (losePayload_behind _ _ _).2

theorem lostLink_reachable : linkSystem.Reachable (lostLink n) := by
  induction n with
  | zero =>
    obtain ⟨s, hs, hrun⟩ := firstLink_run
    obtain ⟨s₀, hs₀, hfresh⟩ := stations_fresh
    obtain rfl : s₀ = s := Except.ok.inj (hs₀.symm.trans hs)
    exact ⟨s₀, firstPayload, hfresh, hrun⟩
  | succ n ih =>
    rw [lostLink_eq] at ih
    rw [lostLink_succ, lostLink_eq]
    exact ih.of_run (losePayload_behind _ _ _).1

/-- With retries again, another payload is sent and acknowledged. -/
def nextPayload : List LinkEvent := [.fromEvb 3 8, .payload [2], .request, .ack]

/-- The payload that has the sequence number of the first one is acknowledged, and it is not
handed up. -/
theorem lostLink_mistaken : ∃ l, linkSystem.run (lostLink 65534) nextPayload = .ok l ∧
    l.receiver.ulp.length = 1 ∧ l.sender.trace.acked = [0, 65535] := by
  rw [lostLink_eq]
  exact ⟨_, rfl, rfl, rfl⟩

/-! ### The claim's property does not hold -/

theorem shortPayload_run : ∃ s l, stations = .ok s ∧
    linkSystem.run s [.payload [1], .request] = .ok l ∧
    l.receiver.ulp.map Ecp22ToUlp.payload = [padded [1]] ∧ l.sender.trace.queued = [[1]] :=
  ⟨_, _, rfl, rfl, rfl, rfl⟩

/-- The payloads of a run are not handed up as they were queued. When the sequence numbers
wrap around, moreover, a payload is acknowledged and not handed up. -/
theorem not_delivered : (¬ ∀ l, linkSystem.Reachable l → DeliveredAs id l) ∧
    ¬ ∀ l, linkSystem.Reachable l → Delivered l := by
  constructor
  · intro hall
    obtain ⟨s₀, hs₀, hfresh⟩ := stations_fresh
    obtain ⟨s, l, hs, hrun, hulp, hqueued⟩ := shortPayload_run
    obtain rfl : s₀ = s := Except.ok.inj (hs₀.symm.trans hs)
    obtain ⟨places, -, hrange, hhanded, -⟩ := hall l ⟨s₀, _, hfresh, hrun⟩
    rw [hulp, hqueued] at hhanded
    -- the only payload in the queue has one byte, and 42 bytes are handed up
    have hmem : padded [1] ∈ places.map fun i => id (([[1]] : List Bytes).getD i []) := by
      rw [← hhanded]
      exact List.mem_singleton.mpr rfl
    obtain ⟨i, hi, heq⟩ := List.mem_map.mp hmem
    have hlt := hrange i hi
    rw [hqueued] at hlt
    obtain rfl : i = 0 := Nat.lt_one_iff.mp hlt
    exact absurd heq (by decide)
  · intro hall
    obtain ⟨l, hrun, hulp, hacked⟩ := lostLink_mistaken
    obtain ⟨places, -, -, hmap, hsub⟩ := hall l ((lostLink_reachable 65534).of_run hrun)
    -- one payload was handed up, and two were acknowledged
    have hone : places.length = 1 := by
      have hlength := congrArg List.length hmap
      rw [List.length_map, List.length_map, hulp] at hlength
      exact hlength.symm
    obtain ⟨k, rfl⟩ := List.length_eq_one_iff.mp hone
    rw [hacked] at hsub
    have h₁ := List.mem_singleton.mp (hsub 0 (by decide))
    have h₂ := List.mem_singleton.mp (hsub 65535 (by decide))
    exact absurd (h₁.trans h₂.symm) (by decide)

/-- A payload whose frame is lost once and whose acknowledgement is doubled is handed up
once. -/
theorem stations_delivered : ∃ s l, stations = .ok s ∧
    linkSystem.run s [.payload [1], .loseRequest 0, .ackTimeout 0, .duplicateRequest 0, .request,
      .request, .ack, .ack, .ackTimeout 0] = .ok l ∧
    l.handed = [0] ∧ l.sender.trace.acked = [0, 0] ∧ Delivered l := by
  obtain ⟨s, l, hs, hrun, hbuilt, hhanded, hacked⟩ : ∃ s l, stations = .ok s ∧
      linkSystem.run s [.payload [1], .loseRequest 0, .ackTimeout 0, .duplicateRequest 0, .request,
        .request, .ack, .ack, .ackTimeout 0] = .ok l ∧ l.sender.trace.built = 1 ∧
      l.handed = [0] ∧ l.sender.trace.acked = [0, 0] :=
    ⟨_, _, rfl, rfl, rfl, rfl, rfl⟩
  obtain ⟨s₀, hs₀, hfresh⟩ := stations_fresh
  obtain rfl : s₀ = s := Except.ok.inj (hs₀.symm.trans hs)
  refine ⟨s₀, l, hs, hrun, hhanded, hacked, ?_⟩
  exact (delivered_of_unambiguous l).2 ⟨s₀, _, hfresh, hrun⟩ (by rw [hbuilt]; decide)

end Lldpad.Qbg
