import Mathlib.Data.List.GetD
import Lldpad.Proofs.Qbg.Ecp22Rest

/-!
# `Lldpad.Proofs.Qbg.Ecp22Frames`: the frames of ECP

* `ntohs_htons`: a word in network order is read back.
* `requestFrame`, `ecp22Frame_take`: the frame of a payload, padded to the smallest
  Ethernet frame.
* `receive_request`, `receive_ack`: what the other side reads in it.
-/

namespace Lldpad.Qbg

open Lldpad.Lib
open Lldpad.Lldp (Bytes Port ethAlen ethHlen ethZlen ethFrameLen)

/-! ### Words -/

@[simp] theorem htons_length (x : UInt16) : (htons x).length = 2 := rfl

theorem ntohs_htons (before after : Bytes) (x : UInt16) :
    ntohs (before ++ htons x ++ after) before.length = x := by
  have hhigh : (before ++ htons x ++ after).getD before.length 0
      = UInt8.ofNat (x.toNat / 256) := by
    rw [List.append_assoc, List.getD_append_right _ _ _ _ (Nat.le_refl _), Nat.sub_self]
    rfl
  have hlow : (before ++ htons x ++ after).getD (before.length + 1) 0
      = UInt8.ofNat (x.toNat % 256) := by
    rw [List.append_assoc, List.getD_append_right _ _ _ (before.length + 1) (by omega),
      Nat.add_sub_cancel_left]
    rfl
  have hlt : x.toNat < 65536 := x.toNat_lt
  have hvalue : x.toNat / 256 % 256 * 256 + x.toNat % 256 % 256 = x.toNat := by omega
  rw [ntohs, hhigh, hlow, UInt8.toNat_ofNat', UInt8.toNat_ofNat', hvalue, UInt16.ofNat_toNat]

/-! ### Requests -/

/-- The frame of a payload. A short one is padded with zeros. -/
def requestFrame (ownSrcAddr : MacAddr) (seqno : UInt16) (p : Ecp22PayloadNode) : Bytes :=
  p.mac.bytes ++ ownSrcAddr.bytes ++ ethPEcp22 ++ htons ecp22RequestHdr ++ htons seqno ++
    (p.ptlv ++ List.replicate (ethZlen - (ethHlen + ecp22HdrLen + p.ptlv.length)) 0)

/-- The buffer holds `b`, and zeros behind it. -/
def filled (b : Bytes) : Bytes × Nat := (b ++ List.replicate (ethFrameLen - b.length) 0, b.length)

theorem ecp22Append_filled {b data : Bytes} (h : b.length + data.length ≤ ethFrameLen) :
    ecp22Append (filled b) data = filled (b ++ data) := by
  have hfit : ¬b.length + data.length > ethFrameLen := Nat.not_lt.mpr h
  unfold ecp22Append filled
  rw [if_neg hfit, List.take_left, List.length_append]
  congr 1
  have hdrop : (b ++ List.replicate (ethFrameLen - b.length) (0 : UInt8)).drop
      (b.length + data.length) = List.replicate (ethFrameLen - (b.length + data.length)) 0 := by
    rw [← List.drop_drop, List.drop_left, List.drop_replicate, Nat.sub_sub]
  rw [hdrop]

/-- The frame that is sent for a payload that fits. -/
theorem ecp22Frame_take (ownSrcAddr : MacAddr) (seqno : UInt16) {p : Ecp22PayloadNode}
    (h : p.ptlv.length < ecp22MaxpayloadLen) :
    (ecp22Frame ownSrcAddr seqno p).1.take (ecp22Frame ownSrcAddr seqno p).2
      = requestFrame ownSrcAddr seqno p := by
  have hfit : p.ptlv.length < 1494 := h
  have hmac := p.mac.length_eq
  have haddr := ownSrcAddr.length_eq
  have hempty : (List.replicate ethFrameLen (0 : UInt8), 0) = filled [] := by
    simp [filled]
  let hdr := p.mac.bytes ++ ownSrcAddr.bytes ++ ethPEcp22
  let hdrs := hdr ++ (htons ecp22RequestHdr ++ htons seqno)
  have hhdr : hdr.length = 14 := by
    show (p.mac.bytes ++ ownSrcAddr.bytes ++ ethPEcp22).length = 14
    rw [List.length_append, List.length_append, hmac, haddr]
    rfl
  have hhdrs : hdrs.length = 18 := by
    show (hdr ++ (htons ecp22RequestHdr ++ htons seqno)).length = 18
    rw [List.length_append, hhdr]
    rfl
  have hframe : ecp22Frame ownSrcAddr seqno p
      = ((filled (hdrs ++ p.ptlv)).1, max (filled (hdrs ++ p.ptlv)).2 ethZlen) := by
    unfold ecp22Frame
    dsimp only
    have hfirst : ecp22Append (filled []) hdr = filled hdr :=
      ecp22Append_filled (b := []) (by rw [hhdr]; decide)
    have hsecond : ecp22Append (filled hdr) (htons ecp22RequestHdr ++ htons seqno) = filled hdrs :=
      ecp22Append_filled (by rw [hhdr]; show 14 + 4 ≤ 1514; decide)
    have hthird : ecp22Append (filled hdrs) p.ptlv = filled (hdrs ++ p.ptlv) :=
      ecp22Append_filled (by rw [hhdrs]; show 18 + p.ptlv.length ≤ 1514; omega)
    rw [hempty, hfirst, hsecond, hthird]
  have hlen : (hdrs ++ p.ptlv).length = 18 + p.ptlv.length := by
    rw [List.length_append, hhdrs]
  rw [hframe]
  dsimp only [filled]
  rw [List.take_append, List.take_replicate, hlen, List.take_of_length_le (by rw [hlen]; omega)]
  have hpad : min (max (18 + p.ptlv.length) ethZlen - (18 + p.ptlv.length))
      (ethFrameLen - (18 + p.ptlv.length)) = ethZlen - (18 + p.ptlv.length) := by
    show min (max (18 + p.ptlv.length) 60 - (18 + p.ptlv.length)) (1514 - (18 + p.ptlv.length))
      = 60 - (18 + p.ptlv.length)
    omega
  rw [hpad]
  show hdr ++ (htons ecp22RequestHdr ++ htons seqno) ++ p.ptlv ++ _ = _
  simp only [requestFrame, List.append_assoc, hdr]
  rfl

theorem requestFrame_eq (ownSrcAddr : MacAddr) (seqno : UInt16) (p : Ecp22PayloadNode) :
    ∃ before after : Bytes, before.length = ethHlen ∧
      requestFrame ownSrcAddr seqno p
        = before ++ htons ecp22RequestHdr ++ (htons seqno ++ after) ∧
      after = p.ptlv ++ List.replicate (ethZlen - (ethHlen + ecp22HdrLen + p.ptlv.length)) 0 := by
  refine ⟨p.mac.bytes ++ ownSrcAddr.bytes ++ ethPEcp22, _, ?_, ?_, rfl⟩
  · rw [List.length_append, List.length_append, p.mac.length_eq, ownSrcAddr.length_eq]
    rfl
  · simp only [requestFrame, List.append_assoc]

/-! ### Reading -/

variable {c : Ecp22Ctx}

/-- What the receive buffer says about a frame that starts with `before`, the header `h` and
the sequence number `s`. -/
theorem stored_hdr {buf before after : Bytes} {h s : UInt16}
    (hlen : before.length = ethHlen) (hbuf : buf = before ++ htons h ++ (htons s ++ after)) :
    (c.stored buf).rxVerOpSub = h ∧ (c.stored buf).rxHdrSeqno = s := by
  subst hbuf
  constructor
  · show ntohs (_ ++ _) ethHlen = h
    rw [← hlen, List.append_assoc]
    exact ntohs_htons before _ h
  · show ntohs (_ ++ _) (ethHlen + 2) = s
    have hlen' : (before ++ htons h).length = ethHlen + 2 := by
      rw [List.length_append, hlen]
      rfl
    have hsplit : before ++ htons h ++ (htons s ++ after) ++ c.ecp.rx.frame.drop
        (before ++ htons h ++ (htons s ++ after)).length
        = (before ++ htons h) ++ htons s ++ (after ++ c.ecp.rx.frame.drop
          (before ++ htons h ++ (htons s ++ after)).length) := by
      simp only [List.append_assoc]
    rw [hsplit, ← hlen']
    exact ntohs_htons _ _ s

theorem requestHdr_op : ecp22HdrReadOp ecp22RequestHdr = ecp22Request := by decide

theorem requestHdr_subtype : ecp22HdrReadSubtype ecp22RequestHdr = ecp22Vdp := by decide

/-- The header of the acknowledgement of a request. -/
def ecp22AckHdr : UInt16 := ecp22HdrSetOp ecp22RequestHdr ecp22Ack

theorem ackHdr_op : ecp22HdrReadOp ecp22AckHdr = ecp22Ack := by decide

/-- What is handed up of a payload: it is padded to the smallest frame. -/
def padded (du : Bytes) : Bytes :=
  du ++ List.replicate (ethZlen - (ethHlen + ecp22HdrLen + du.length)) 0

/-- The bytes that the upper layer is given. -/
def Ecp22ToUlp.payload (x : Ecp22ToUlp) : Bytes := x.data.take x.len

/-! ### A request that arrives -/

/-- What is handed up of the frame in the receive buffer. -/
def Ecp22Ctx.up (c : Ecp22Ctx) : Ecp22ToUlp :=
  { len := (c.ecp.rx.frameLen + 65536 - (ethHlen + ecp22HdrLen)) % 65536
    data := c.ecp.rx.frame.drop (ethHlen + ecp22HdrLen) }

/-- The acknowledgement of the frame in the receive buffer. -/
def Ecp22Ctx.ackFrame (c : Ecp22Ctx) : Bytes :=
  nearestCustomerBridge.bytes ++ c.ownSrcAddr.bytes ++ (c.ecp.rx.frame.drop (2 * ethAlen)).take 2
    ++ htons (ecp22HdrSetOp c.rxVerOpSub ecp22Ack) ++ htons c.rxHdrSeqno

/-- What comes of a request: it is the last one, it is acknowledged, and it is handed up if
it is new. -/
theorem rxRequest_spec (hsub : ecp22HdrReadSubtype c.rxVerOpSub = ecp22Vdp) :
    (rxRequest c).ecp.rx.lastSeqno = c.rxHdrSeqno ∧
      (rxRequest c).wire = c.ackFrame :: c.wire ∧
      (rxRequest c).ulp = if c.rxNew then c.ulp ++ [c.up] else c.ulp := by
  unfold rxRequest
  by_cases hnew : c.rxNew
  · simp only [if_pos hnew]
    exact ⟨rfl, rfl, if_pos hsub⟩
  · simp only [if_neg hnew]
    exact ⟨(Decidable.not_not.mp hnew).symm, rfl, rfl⟩

theorem ne_pred (x : UInt16) : x ≠ x - 1 := by
  intro h
  have hsucc : x - 1 + 1 = x := UInt16.sub_add_cancel x 1
  rw [← h] at hsucc
  simp at hsucc

/-- The request that the receiver sees is not the one it handed up last. -/
def Ecp22Ctx.isNew (c : Ecp22Ctx) (s : UInt16) : Prop :=
  c.ecp.rx.state = .rxWait ∨ s ≠ c.ecp.rx.lastSeqno

instance (c : Ecp22Ctx) (s : UInt16) : Decidable (c.isNew s) :=
  inferInstanceAs (Decidable (_ ∨ _))

/-- What a request of the given sequence number does to a receiver that waits for one. -/
structure Answered (c : Ecp22Ctx) (buf : Bytes) (s : UInt16) (d : Ecp22Ctx) : Prop where
  rest : RxRest d
  state : d.ecp.rx.state = .rxWait2
  lastSeqno : d.ecp.rx.lastSeqno = s
  wire : d.wire = (c.stored buf).ackFrame :: c.wire
  ulp : d.ulp = if c.isNew s then c.ulp ++ [(c.stored buf).up] else c.ulp
  sameTx : SameTx c d

/-- A request arrives at a receiver that waits for one. -/
theorem receive_request {p : Port} (hp : c.port = some p)
    (hup : p.portEnabled = true) (hrest : RxRest c) (hwait : c.ecp.rx.state ≠ .rxBegin)
    {buf : Bytes} {s : UInt16} (hfit : buf.length ≤ ethFrameLen)
    (hhdr : (c.stored buf).rxVerOpSub = ecp22RequestHdr ∧ (c.stored buf).rxHdrSeqno = s) :
    ∃ d, ecp22RxReceiveframe buf c = .ok d ∧ Answered c buf s d := by
  have hrun : ecp22RxReceiveframe buf c = .ok (rxRun (c.stored buf).requested) := by
    unfold ecp22RxReceiveframe
    rw [if_neg (by rw [hp, hrest.free]; simp), if_neg (Nat.not_lt.mpr hfit), ecp22RxStoredframe,
      hhdr.1, if_neg (by decide), if_neg (by decide), if_pos requestHdr_op]
    exact ecp22RxRunSm_eq (c := (c.stored buf).requested) hrest.rests
  refine ⟨_, hrun, ?_⟩
  have hsame : SameTx c (rxRun (c.stored buf).requested) :=
    (show SameTx c (c.stored buf).requested from
      ⟨rfl, rfl, rfl, rfl, rfl, rfl, rfl, rfl⟩).trans
      (rxRun_sameTx _)
  have hsub : ecp22HdrReadSubtype (c.stored buf).rxVerOpSub = ecp22Vdp := by
    rw [hhdr.1]
    exact requestHdr_subtype
  have hport : (c.stored buf).requested.port = some p := hp
  have hreceived : (c.stored buf).requested.ecp.rx.ecpduReceived = true := rfl
  cases hs : c.ecp.rx.state with
  | rxWait =>
    have hstate : (c.stored buf).requested.ecp.rx.state = .rxWait := hs
    let e := ecp22EsFirst ((c.stored buf).requested.withRxState .rxFirst)
    have hrun' : rxRun (c.stored buf).requested = rxRequest e := by
      rw [rxRun, hport]
      dsimp only
      rw [if_neg (by rw [hup]; simp), hstate, hreceived]
    obtain ⟨hlast, hwire, hulp⟩ := rxRequest_spec (c := e) hsub
    rw [hrun'] at hsame ⊢
    refine ⟨rxRequest_rest e, rfl, hlast.trans hhdr.2, hwire, ?_, hsame⟩
    -- the last sequence number is made different from this one
    have hnew : e.rxNew := by
      show (c.stored buf).rxHdrSeqno ≠ (c.stored buf).rxHdrSeqno - 1
      exact ne_pred _
    rw [hulp, if_pos hnew, if_pos (.inl hs)]
    rfl
  | rxWait2 =>
    have hstate : (c.stored buf).requested.ecp.rx.state = .rxWait2 := hs
    have hrun' : rxRun (c.stored buf).requested = rxRequest (c.stored buf).requested := by
      rw [rxRun, hport]
      dsimp only
      rw [if_neg (by rw [hup]; simp), hstate, hreceived]
    obtain ⟨hlast, hwire, hulp⟩ := rxRequest_spec (c := (c.stored buf).requested) hsub
    rw [hrun'] at hsame ⊢
    refine ⟨rxRequest_rest _, rfl, hlast.trans hhdr.2, hwire, hulp.trans ?_, hsame⟩
    refine if_congr ?_ rfl rfl
    show (c.stored buf).rxHdrSeqno ≠ c.ecp.rx.lastSeqno ↔ _
    rw [hhdr.2]
    exact ⟨.inr, fun h => h.resolve_left fun hw => absurd (hs.symm.trans hw) (by decide)⟩
  | rxBegin => exact absurd hs hwait
  | rxFirst | rxRecEcpdu | rxNewEcpdu | rxSendAck =>
    have hrests := hrest.rests
    rw [hs] at hrests
    exact absurd hrests Bool.false_ne_true

theorem up_payload {buf : Bytes} (hmin : ethHlen + ecp22HdrLen ≤ buf.length)
    (hfit : buf.length ≤ ethFrameLen) :
    (c.stored buf).up.payload = buf.drop (ethHlen + ecp22HdrLen) := by
  have hmin' : 18 ≤ buf.length := hmin
  have hfit' : buf.length ≤ 1514 := hfit
  have hlen : (buf.length + 65536 - 18) % 65536 = (buf.drop 18).length := by
    rw [List.length_drop]
    omega
  show ((buf ++ c.ecp.rx.frame.drop buf.length).drop 18).take ((buf.length + 65536 - 18) % 65536)
    = buf.drop 18
  rw [List.drop_append_of_le_length hmin', hlen, List.take_left]

theorem requestFrame_length (ownSrcAddr : MacAddr) (seqno : UInt16) (p : Ecp22PayloadNode) :
    (requestFrame ownSrcAddr seqno p).length = ethHlen + ecp22HdrLen + (padded p.ptlv).length := by
  obtain ⟨before, after, hlen, hframe, hafter⟩ := requestFrame_eq ownSrcAddr seqno p
  rw [hframe, hafter, padded]
  simp only [List.length_append, hlen, htons_length]
  show 14 + 2 + (2 + _) = 14 + 4 + _
  omega

theorem requestFrame_drop (ownSrcAddr : MacAddr) (seqno : UInt16) (p : Ecp22PayloadNode) :
    (requestFrame ownSrcAddr seqno p).drop (ethHlen + ecp22HdrLen) = padded p.ptlv := by
  obtain ⟨before, after, hlen, hframe, hafter⟩ := requestFrame_eq ownSrcAddr seqno p
  have hhdrs : (before ++ htons ecp22RequestHdr ++ htons seqno).length = ethHlen + ecp22HdrLen := by
    rw [List.length_append, List.length_append, hlen]
    rfl
  rw [hframe, ← List.append_assoc, ← hhdrs, List.drop_left, hafter]
  rfl

theorem requestFrame_fits (ownSrcAddr : MacAddr) (seqno : UInt16) {p : Ecp22PayloadNode}
    (h : p.ptlv.length < ecp22MaxpayloadLen) :
    (requestFrame ownSrcAddr seqno p).length ≤ ethFrameLen := by
  have h' : p.ptlv.length < 1494 := h
  rw [requestFrame_length, padded, List.length_append, List.length_replicate]
  show 14 + 4 + (p.ptlv.length + (60 - (14 + 4 + p.ptlv.length))) ≤ 1514
  omega

theorem ackFrame_eq {buf : Bytes} {s : UInt16}
    (hhdr : (c.stored buf).rxVerOpSub = ecp22RequestHdr ∧ (c.stored buf).rxHdrSeqno = s)
    (hmin : ethHlen ≤ buf.length) :
    ∃ before : Bytes, before.length = ethHlen ∧
      (c.stored buf).ackFrame = before ++ htons ecp22AckHdr ++ (htons s ++ []) := by
  refine ⟨_, ?_, by rw [Ecp22Ctx.ackFrame, hhdr.1, hhdr.2, List.append_nil]; rfl⟩
  have hmin' : 14 ≤ buf.length := hmin
  have hproto : (((c.stored buf).ecp.rx.frame.drop (2 * ethAlen)).take 2).length = 2 := by
    rw [List.length_take, List.length_drop]
    show min 2 ((buf ++ c.ecp.rx.frame.drop buf.length).length - 12) = 2
    rw [List.length_append]
    omega
  rw [List.length_append, List.length_append, nearestCustomerBridge.length_eq,
    (c.stored buf).ownSrcAddr.length_eq, hproto]
  rfl

theorem receive_ack {p : Port} (hp : c.port = some p) (hrest : RxRest c)
    {buf : Bytes} {s : UInt16} (hfit : buf.length ≤ ethFrameLen)
    (hhdr : (c.stored buf).rxVerOpSub = ecp22AckHdr ∧ (c.stored buf).rxHdrSeqno = s) :
    ecp22RxReceiveframe buf c = .ok (ecp22RecackFrame (c.stored buf) s) := by
  unfold ecp22RxReceiveframe
  rw [if_neg (by rw [hp, hrest.free]; nofun), if_neg (Nat.not_lt.mpr hfit), ecp22RxStoredframe,
    hhdr.1, if_neg (by decide), if_neg (by decide), if_neg (by decide), if_pos ackHdr_op, hhdr.2]
  rfl

end Lldpad.Qbg
