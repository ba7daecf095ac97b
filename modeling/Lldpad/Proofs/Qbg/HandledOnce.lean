import Lldpad.Lib.Mailbox
import Lldpad.Proofs.Qbg.EcpCopies
import Lldpad.Qbg.Vdp22Receive

/-!
# `Lldpad.Proofs.Qbg.HandledOnce`: the messages that wait for VDP

ECP acknowledges a request and hands its payload up at once. VDP keeps it in one buffer until its
timer expires, so the buffer is a mailbox (`Vdp22Port.mailbox`): a message is put over the one
that waits, and every timer reads what stands there.

`handled_once_iff`: in every run, each message is handled once and in order exactly when no
message arrives while another one waits.
-/

namespace Lldpad.Qbg

open Lldpad.Lib
open Lldpad.Lldp (Bytes Port ethFrameLen)

/-! ### What an event hands up -/

theorem dataFromVdp_ulp {du : Bytes} {c d : Ecp22Ctx} (h : dataFromVdp du c = .ok d) :
    d.ulp = c.ulp := by
  rw [dataFromVdp_eq] at h
  split_ifs at h
  · cases h
    rfl
  · exact (ecp22TxRunSm_rx h).2.1
  · cases h
    rfl

theorem ackTimeout_ulp {i : Nat} {c d : Ecp22Ctx} (h : ecp22AckTimeoutHandler i c = .ok d) :
    d.ulp = c.ulp := by
  unfold ecp22AckTimeoutHandler at h
  split at h
  · cases h
    rfl
  · exact (ecp22TxRunSm_rx h).2.1

theorem receiveframe_ulp {buf : Bytes} {c d : Ecp22Ctx} (hrest : Ecp22Rest c)
    (h : ecp22RxReceiveframe buf c = .ok d) :
    ∃ m : Option Ecp22ToUlp, d.ulp = c.ulp ++ m.toList := by
  by_cases htakes : c.takes
  · by_cases hfit : buf.length ≤ ethFrameLen
    · obtain ⟨d', hd', hulp⟩ := receive_ulp hrest.rx htakes hfit
      cases h.symm.trans hd'
      by_cases hup : c.handsUp buf
      · rw [if_pos hup] at hulp
        exact ⟨some _, hulp⟩
      · rw [if_neg hup] at hulp
        exact ⟨none, hulp⟩
    · unfold ecp22RxReceiveframe at h
      rw [if_neg (by rw [not_or, Bool.not_eq_true]; exact htakes), if_pos (Nat.not_le.mp hfit)] at h
      cases h
  · cases (receive_not_taken htakes buf).symm.trans h
    exact ⟨none, (List.append_nil _).symm⟩

theorem ecp22Step_ulp {e : Ecp22Event} {c d : Ecp22Ctx} (hrest : Ecp22Rest c)
    (h : ecp22Step c e = .ok d) : ∃ m : Option Ecp22ToUlp, d.ulp = c.ulp ++ m.toList := by
  cases e with
  | payload du => exact ⟨none, by rw [dataFromVdp_ulp h]; exact (List.append_nil _).symm⟩
  | frame buf => exact receiveframe_ulp hrest h
  | ackTimeout i => exact ⟨none, by rw [ackTimeout_ulp h]; exact (List.append_nil _).symm⟩
  | fromEvb maxRetry maxRte =>
    cases h
    exact ⟨none, (List.append_nil _).symm⟩
  | port p =>
    cases h
    exact ⟨none, (List.append_nil _).symm⟩

theorem ecp22Start_ulp {port : Option Port} {ownSrcAddr : MacAddr} {c : Ecp22Ctx}
    (h : ecp22Start port ownSrcAddr = .ok c) : c.ulp = [] := by
  rw [ecp22Start_eq] at h
  rw [(ecp22TxRunSm_rx h).2.1]
  unfold newEcp22 rxRun
  cases port with
  | none => rfl
  | some p =>
    dsimp only
    split_ifs <;> rfl

/-! ### The buffer as a mailbox -/

theorem dataFromEcp_message {x y : Vdp22Input} {m : Ecp22ToUlp} (h : dataFromEcp x m = .ok y) :
    y.message = m.payload := by
  obtain ⟨input, hinput, h⟩ := bind_eq_ok.mp h
  cases h
  unfold Octets.memcpy at hinput
  split_ifs at hinput with hfit
  cases hinput
  show (m.data.take m.len ++ x.input.bytes.drop m.len).take m.len = m.data.take m.len
  exact List.take_left' (List.length_take_of_le hfit.2)

/-- The messages of the port -/
def Vdp22Port.mailbox (s : Vdp22Port) : Mailbox Bytes where
  slot := s.data.message
  calls := s.timers
  arrived := s.ecp.ulp.map Ecp22ToUlp.payload
  read := s.handled

/-- No message arrives while another one waits, unless they are the same. -/
def NothingWaits (s : Vdp22Port) (e : Vdp22PortEvent) : Prop :=
  ∀ e' d, e = .ecp e' → ecp22Step s.ecp e' = .ok d →
    ∀ m ∈ handedUp s.ecp d, s.timers = 0 ∨ m.payload = s.data.message

/-- What an event does to the messages. -/
inductive MailMove (s t : Vdp22Port) : Vdp22PortEvent → Prop
  | arrival (e : Ecp22Event) (m : Ecp22ToUlp) (d : Ecp22Ctx) (hstep : ecp22Step s.ecp e = .ok d)
      (hup : handedUp s.ecp d = [m]) (hbox : t.mailbox = s.mailbox.put m.payload) :
      MailMove s t (.ecp e)
  | silent (e : Ecp22Event) (d : Ecp22Ctx) (hstep : ecp22Step s.ecp e = .ok d)
      (hup : handedUp s.ecp d = []) (hbox : t.mailbox = s.mailbox) : MailMove s t (.ecp e)
  | vdp (e : Vdp22Event) (hbox : t.mailbox = s.mailbox) : MailMove s t (.vdp e)
  | noTimer (hbox : t.mailbox = s.mailbox) : MailMove s t .inputTimer
  | timer (hcalls : s.timers ≠ 0) (hbox : t.mailbox = s.mailbox.call) : MailMove s t .inputTimer

theorem vdp22PortStep_cases {s t : Vdp22Port} {e : Vdp22PortEvent} (hrest : Ecp22Rest s.ecp)
    (h : vdp22PortStep s e = .ok t) : Ecp22Rest t.ecp ∧ MailMove s t e := by
  cases e with
  | ecp e =>
    obtain ⟨d, hd, h⟩ := bind_eq_ok.mp h
    obtain ⟨data, hdata, h⟩ := bind_eq_ok.mp h
    cases h
    refine ⟨ecp22Step_rest hrest hd, ?_⟩
    obtain ⟨m, hulp⟩ := ecp22Step_ulp hrest hd
    have hup := handedUp_eq hulp
    cases m with
    | none =>
      rw [hup] at hdata
      cases hdata
      refine .silent e d hd hup ?_
      have hsame : d.ulp = s.ecp.ulp := hulp.trans (List.append_nil _)
      simp only [Vdp22Port.mailbox, hup, hsame]
      rfl
    | some m =>
      rw [hup, Option.toList_some, List.foldlM_cons] at hdata
      obtain ⟨y, hy, hdata⟩ := bind_eq_ok.mp hdata
      cases hdata
      refine .arrival e m d hd hup ?_
      simp only [Vdp22Port.mailbox, Mailbox.put, hup, hulp, dataFromEcp_message hy,
        Option.toList_some, List.map_append, List.map_cons, List.map_nil, List.length_singleton]
  | vdp e =>
    obtain ⟨vdp, -, h⟩ := bind_eq_ok.mp h
    cases h
    exact ⟨hrest, .vdp e rfl⟩
  | inputTimer =>
    unfold vdp22PortStep at h
    dsimp only at h
    split_ifs at h with hzero
    · cases h
      exact ⟨hrest, .noTimer rfl⟩
    · obtain ⟨x, -, h⟩ := bind_eq_ok.mp h
      cases h
      exact ⟨hrest, .timer hzero rfl⟩

/-- Each message is handled once and in order: those that were handed up are those that were
handled, and those that the pending timers will find. -/
def HandledOnce (s : Vdp22Port) : Prop :=
  s.ecp.ulp.map Ecp22ToUlp.payload = s.handled ++ List.replicate s.timers s.data.message

instance (s : Vdp22Port) : Decidable (HandledOnce s) := inferInstanceAs (Decidable (_ = _))

theorem handledOnce_step {s t : Vdp22Port} {e : Vdp22PortEvent}
    (hbox : s.mailbox.NewestInSlot) (h : MailMove s t e) :
    t.mailbox.NewestInSlot ∧ (HandledOnce t ↔ HandledOnce s ∧ NothingWaits s e) := by
  show _ ∧ (t.mailbox.InOrder ↔ s.mailbox.InOrder ∧ _)
  cases h with
  | arrival e m d hstep hup hput =>
    rw [hput]
    refine ⟨Mailbox.newestInSlot_put _ _, (Mailbox.inOrder_put hbox m.payload).trans ?_⟩
    refine and_congr_right' ⟨fun hor e' d' he hd' x hx => ?_, fun hwaits => ?_⟩
    · cases he
      cases hstep.symm.trans hd'
      rw [hup, List.mem_singleton] at hx
      rw [hx]
      exact hor
    · exact hwaits e d rfl hstep m (by rw [hup]; exact List.mem_singleton_self m)
  | silent e d hstep hup hsame =>
    rw [hsame]
    refine ⟨hbox, (and_iff_left fun e' d' he hd' x hx => ?_).symm⟩
    cases he
    cases hstep.symm.trans hd'
    rw [hup] at hx
    cases hx
  | vdp e hsame =>
    rw [hsame]
    exact ⟨hbox, (and_iff_left fun e' d' he => nomatch he).symm⟩
  | noTimer hsame =>
    rw [hsame]
    exact ⟨hbox, (and_iff_left fun e' d' he => nomatch he).symm⟩
  | timer hcalls hcall =>
    rw [hcall]
    refine ⟨hbox.call, (Mailbox.inOrder_call hcalls).trans ?_⟩
    exact (and_iff_left fun e' d' he => nomatch he).symm

/-- **No acknowledged message is lost or handled twice.** In every run of a port: every message
that was handed up is handled once and in order exactly when none of them arrived while another
one waited in the buffer. -/
theorem handled_once_iff {s t : Vdp22Port} {es : List Vdp22PortEvent}
    (hinit : vdp22PortSystem.init s) (hrun : vdp22PortSystem.run s es = .ok t) :
    HandledOnce t ↔ vdp22PortSystem.StepsMeet NothingWaits s es := by
  obtain ⟨⟨port, ownSrcAddr, hstart⟩, -, -, -, htimers, hhandled⟩ := hinit
  have hstarted : Ecp22Rest s.ecp :=
    ecp22Rest_of_reachable (System.reachable_of_init ⟨port, ownSrcAddr, hstart⟩)
  have hfirst : HandledOnce s := by
    unfold HandledOnce
    rw [htimers, hhandled, ecp22Start_ulp hstart]
    rfl
  have hnewest : s.mailbox.NewestInSlot := fun hcalls => absurd htimers hcalls
  refine (System.run_iff (I := fun s => Ecp22Rest s.ecp ∧ s.mailbox.NewestInSlot)
    (P := HandledOnce) ?_ ?_ ⟨hstarted, hnewest⟩ hrun).trans (and_iff_right hfirst)
  · rintro s e t ⟨hrest, hbox⟩ hstep
    obtain ⟨hrest', hmove⟩ := vdp22PortStep_cases hrest hstep
    exact ⟨hrest', (handledOnce_step hbox hmove).1⟩
  · rintro s e t ⟨hrest, hbox⟩ hstep
    exact (handledOnce_step hbox (vdp22PortStep_cases hrest hstep).2).2

/-- A message with nothing but a manager ID and an END TLV -/
def emptyMessage (x : UInt8) : Bytes :=
  append2o (ptlvHead vdp22Mgrid mgr22TlvSz) ++ List.replicate 16 x ++ append2o 0

/-- Its frame arrives. -/
def messageFrame (seqno : UInt16) (x : UInt8) : Ecp22Event :=
  .frame (requestFrame stationAddr seqno (payloadNode (emptyMessage x)))

/-- One message, and its timer -/
def oneMessage : List Vdp22PortEvent := [.ecp (messageFrame 1 1), .inputTimer]

/-- Two messages before the first timer -/
def twoMessages : List Vdp22PortEvent :=
  [.ecp (messageFrame 1 1), .ecp (messageFrame 2 2), .inputTimer, .inputTimer]

theorem exists_station : ∃ c, ecp22Start (some upPort) stationAddr = .ok c ∧
    vdp22PortSystem.init { ecp := c, vdp := vdp22Create .station } := by
  obtain ⟨c, hc⟩ : ∃ c, ecp22Start (some upPort) stationAddr = .ok c := ⟨_, rfl⟩
  exact ⟨c, hc, ⟨_, _, hc⟩, ⟨_, rfl⟩, rfl, rfl, rfl, rfl⟩

/-- A message that is handled before the next one arrives is handled once. -/
theorem one_message_handled : ∃ s t, vdp22PortSystem.init s ∧
    vdp22PortSystem.run s oneMessage = .ok t ∧ t.handled = [padded (emptyMessage 1)] ∧
    vdp22PortSystem.StepsMeet NothingWaits s oneMessage := by
  obtain ⟨c, hc, hinit⟩ := exists_station
  obtain ⟨t, hrun, hcheck⟩ := System.exists_run vdp22PortSystem
    { ecp := c, vdp := vdp22Create .station } oneMessage
    (fun t => decide (HandledOnce t ∧ t.handled = [padded (emptyMessage 1)]))
    (by cases hc; decide +kernel)
  obtain ⟨honce, hhandled⟩ := of_decide_eq_true hcheck
  exact ⟨_, t, hinit, hrun, hhandled, (handled_once_iff hinit hrun).mp honce⟩

/-- Both messages are acknowledged. The first one is lost, and the second one handled twice. -/
theorem message_lost : ∃ s t, vdp22PortSystem.init s ∧
    vdp22PortSystem.run s twoMessages = .ok t ∧ t.timers = 0 ∧ t.ecp.wire.length = 2 ∧
    t.ecp.ulp.map Ecp22ToUlp.payload = [padded (emptyMessage 1), padded (emptyMessage 2)] ∧
    t.handled = [padded (emptyMessage 2), padded (emptyMessage 2)] := by
  obtain ⟨c, hc, hinit⟩ := exists_station
  obtain ⟨t, hrun, hcheck⟩ := System.exists_run vdp22PortSystem
    { ecp := c, vdp := vdp22Create .station } twoMessages
    (fun t => decide (t.timers = 0 ∧ t.ecp.wire.length = 2 ∧
      t.ecp.ulp.map Ecp22ToUlp.payload = [padded (emptyMessage 1), padded (emptyMessage 2)] ∧
      t.handled = [padded (emptyMessage 2), padded (emptyMessage 2)])) (by cases hc; decide +kernel)
  exact ⟨_, t, hinit, hrun, of_decide_eq_true hcheck⟩

end Lldpad.Qbg
