import Lldpad.Proofs.Qbg.AckTimer
import Lldpad.Proofs.Qbg.Ecp22Frames
import Lldpad.Qbg.EcpInput

/-!
# `Lldpad.Proofs.Qbg.EcpCopies`: the copies of a received frame

The receive functions of ECP do not look at the length of a frame. `receive_ulp` says which
frames are handed up to VDP, also frames that end inside their headers: the header is read from
the buffer, where an older frame may have left the rest of it.

`copies_fit_iff` says when the copies of a frame fit, and when the payload is as long as what
stands behind the headers.
-/

namespace Lldpad.Qbg

open Lldpad.Lib
open Lldpad.Lldp (Bytes Port ethHlen ethDataLen ethFrameLen)

/-! ### Copies -/

theorem Octets.memcpy_returns {n : Nat} (dst : Octets n) (src : Bytes) (len : Nat) :
    Returns (dst.memcpy src len) ↔ len ≤ n ∧ len ≤ src.length := by
  unfold Octets.memcpy
  split_ifs with h
  · exact iff_of_true (returns_ok _) h
  · exact iff_of_false (not_returns_error _) h

theorem dataFromEcp_returns (x : Vdp22Input) (ptr : Ecp22ToUlp) :
    Returns (dataFromEcp x ptr) ↔ ptr.len ≤ ethDataLen ∧ ptr.len ≤ ptr.data.length := by
  unfold dataFromEcp
  rw [returns_bind_pure, Octets.memcpy_returns]

/-! ### What is handed up -/

/-- The buffer of an instance that has a port and no frame yet -/
def Ecp22Ctx.takes (c : Ecp22Ctx) : Prop := c.port ≠ none ∧ c.ecp.rx.ecpduReceived = false

/-- The header in the buffer is that of a VDP request. -/
def vdpRequestHdr (verOpSub : UInt16) : Prop :=
  ecp22HdrReadVersion verOpSub = 1 ∧ ecp22HdrReadSubtype verOpSub = ecp22Vdp ∧
    ecp22HdrReadOp verOpSub = ecp22Request

instance (verOpSub : UInt16) : Decidable (vdpRequestHdr verOpSub) :=
  inferInstanceAs (Decidable (_ ∧ _))

/-- The frame is handed up to VDP: the link is up, the machine waits for a request, and what
the buffer then holds is a VDP request that is new. -/
def Ecp22Ctx.handsUp (c : Ecp22Ctx) (buf : Bytes) : Prop :=
  c.port.any (·.portEnabled) = true ∧ c.ecp.rx.state ≠ .rxBegin ∧
    vdpRequestHdr (c.stored buf).rxVerOpSub ∧ c.isNew (c.stored buf).rxHdrSeqno

instance (c : Ecp22Ctx) (buf : Bytes) : Decidable (c.handsUp buf) :=
  inferInstanceAs (Decidable (_ ∧ _))

theorem rxRequest_ulp (c : Ecp22Ctx) :
    (rxRequest c).ulp =
      if c.rxNew ∧ ecp22HdrReadSubtype c.rxVerOpSub = ecp22Vdp then c.ulp ++ [c.up] else c.ulp := by
  by_cases hsub : ecp22HdrReadSubtype c.rxVerOpSub = ecp22Vdp
  · rw [(rxRequest_spec hsub).2.2]
    simp [hsub]
  · rw [if_neg (fun h => hsub h.2)]
    unfold rxRequest
    by_cases hnew : c.rxNew
    · simp only [if_pos hnew]
      exact if_neg hsub
    · simp only [if_neg hnew]
      rfl

variable {c : Ecp22Ctx}

theorem rxRun_ulp {p : Port} (hp : c.port = some p)
    (hrests : c.ecp.rx.state.rests = true) (hreceived : c.ecp.rx.ecpduReceived = true) :
    (rxRun c).ulp =
      if p.portEnabled = true ∧ c.ecp.rx.state ≠ .rxBegin ∧ c.isNew c.rxHdrSeqno ∧
        ecp22HdrReadSubtype c.rxVerOpSub = ecp22Vdp then c.ulp ++ [c.up] else c.ulp := by
  unfold rxRun
  rw [hp]
  dsimp only
  by_cases hup : p.portEnabled = true
  · rw [if_neg (by rw [hup]; nofun)]
    cases hs : c.ecp.rx.state with
    | rxWait =>
      -- The last sequence number is made different from this one.
      rw [hreceived]
      show (rxRequest (ecp22EsFirst (c.withRxState .rxFirst))).ulp = _
      have hnew : (ecp22EsFirst (c.withRxState .rxFirst)).rxNew := ne_pred _
      rw [rxRequest_ulp]
      simp only [hnew, hup, true_and, ne_eq, reduceCtorEq, not_false_eq_true,
        show c.isNew c.rxHdrSeqno from .inl hs]
      rfl
    | rxWait2 =>
      rw [hreceived]
      show (rxRequest c).ulp = _
      have hnew : c.isNew c.rxHdrSeqno ↔ c.rxNew :=
        ⟨fun h => h.resolve_left fun hw => absurd (hs.symm.trans hw) nofun, .inr⟩
      rw [rxRequest_ulp]
      simp only [hup, hnew, true_and, ne_eq, reduceCtorEq, not_false_eq_true]
    | rxBegin => simp [ecp22EsWait, Ecp22Ctx.withRxState]
    | rxFirst | rxRecEcpdu | rxNewEcpdu | rxSendAck =>
      rw [hs] at hrests
      exact absurd hrests Bool.false_ne_true
  · rw [if_pos (Bool.eq_false_iff.mpr hup), if_neg (fun h => hup h.1)]
    rfl

theorem handedUp_eq {c d : Ecp22Ctx} {ms : List Ecp22ToUlp} (h : d.ulp = c.ulp ++ ms) :
    handedUp c d = ms := by
  unfold handedUp
  rw [h, List.drop_left]

/-- A frame that fits into the buffer, and what is handed up of it. -/
theorem receive_ulp (hrest : RxRest c) (htakes : c.takes) {buf : Bytes}
    (hfit : buf.length ≤ ethFrameLen) :
    ∃ d, ecp22RxReceiveframe buf c = .ok d ∧
      d.ulp = c.ulp ++ if c.handsUp buf then [(c.stored buf).up] else [] := by
  obtain ⟨p, hp⟩ := Option.ne_none_iff_exists'.mp htakes.1
  -- A frame that is no request of VDP is not handed up.
  have hother : ∀ d : Ecp22Ctx, d.ulp = c.ulp → ¬ vdpRequestHdr (c.stored buf).rxVerOpSub →
      d.ulp = c.ulp ++ if c.handsUp buf then [(c.stored buf).up] else [] := by
    intro d hd hnot
    rw [hd, if_neg (fun h => hnot h.2.2.1), List.append_nil]
  unfold ecp22RxReceiveframe
  rw [if_neg (by rw [not_or]; exact ⟨htakes.1, by rw [htakes.2]; nofun⟩),
    if_neg (Nat.not_lt.mpr hfit), ecp22RxStoredframe]
  by_cases hver : ecp22HdrReadVersion (c.stored buf).rxVerOpSub = 1
  · rw [if_neg (not_not_intro hver)]
    by_cases hsub : ecp22HdrReadSubtype (c.stored buf).rxVerOpSub ≠ ecp22Pecsp ∧
        ecp22HdrReadSubtype (c.stored buf).rxVerOpSub ≠ ecp22Vdp
    · rw [if_pos hsub]
      exact ⟨_, rfl, hother _ rfl fun h => hsub.2 h.2.1⟩
    · rw [if_neg hsub]
      by_cases hreq : ecp22HdrReadOp (c.stored buf).rxVerOpSub = ecp22Request
      · rw [if_pos hreq]
        refine ⟨_, ecp22RxRunSm_eq (c := (c.stored buf).requested) hrest.rests, ?_⟩
        have hiff : (p.portEnabled = true ∧ c.ecp.rx.state ≠ .rxBegin ∧
            c.isNew (c.stored buf).rxHdrSeqno ∧
            ecp22HdrReadSubtype (c.stored buf).rxVerOpSub = ecp22Vdp) ↔ c.handsUp buf := by
          constructor
          · rintro ⟨hup, hbegin, hnew, hvdp⟩
            exact ⟨by rw [hp]; exact hup, hbegin, ⟨hver, hvdp, hreq⟩, hnew⟩
          · rintro ⟨hup, hbegin, ⟨-, hvdp, -⟩, hnew⟩
            rw [hp] at hup
            exact ⟨hup, hbegin, hnew, hvdp⟩
        refine (rxRun_ulp (c := (c.stored buf).requested) hp hrest.rests rfl).trans ?_
        by_cases hup : c.handsUp buf
        · rw [if_pos hup]
          exact if_pos (hiff.mpr hup)
        · rw [if_neg hup, List.append_nil]
          exact if_neg fun h => hup (hiff.mp h)
      · rw [if_neg hreq]
        have hnot : ¬ vdpRequestHdr (c.stored buf).rxVerOpSub := fun h => hreq h.2.2
        by_cases hack : ecp22HdrReadOp (c.stored buf).rxVerOpSub = ecp22Ack
        · rw [if_pos hack]
          refine ⟨_, rfl, hother _ ?_ hnot⟩
          unfold ecp22RecackFrame
          split_ifs <;> rfl
        · rw [if_neg hack]
          exact ⟨_, rfl, hother _ rfl hnot⟩
  · rw [if_pos hver]
    exact ⟨_, rfl, hother _ rfl fun h => hver h.1⟩

/-! ### The copies of a frame -/

/-- The copies of a frame fit, and what is handed up is as long as what stands behind the
headers. -/
structure CopiesFit (c : Ecp22Ctx) (x : Vdp22Input) (frame : Bytes) : Prop where
  inside : Returns (ecp22Input frame c x)
  payload : ∀ d, ecp22RxReceiveframe (l2PacketReceive frame) c = .ok d →
    ∀ m ∈ handedUp c d, m.len + (ethHlen + ecp22HdrLen) = (l2PacketReceive frame).length

/-- A frame that the instance takes is no longer than the buffer, and one that it hands up has
both headers. -/
def FrameLengthOk (c : Ecp22Ctx) (frame : Bytes) : Prop :=
  c.takes → (l2PacketReceive frame).length ≤ ethFrameLen ∧
    (c.handsUp (l2PacketReceive frame) →
      ethHlen + ecp22HdrLen ≤ (l2PacketReceive frame).length)

/-- What is handed up of a frame that fits into the receive buffer fits into the buffer of VDP
when both headers are there. -/
theorem up_fits {buf : Bytes} (hfit : buf.length ≤ ethFrameLen) :
    ((c.stored buf).up.len ≤ ethDataLen ∧
        (c.stored buf).up.len ≤ (c.stored buf).up.data.length) ↔
      ethHlen + ecp22HdrLen ≤ buf.length := by
  have hlen : (c.stored buf).up.len = (buf.length + 65536 - 18) % 65536 := rfl
  have hdata : (c.stored buf).up.data.length =
      buf.length + (c.ecp.rx.frame.drop buf.length).length - 18 := by
    show ((buf ++ c.ecp.rx.frame.drop buf.length).drop 18).length = _
    rw [List.length_drop, List.length_append]
  have hfit' : buf.length ≤ 1514 := hfit
  show _ ∧ _ ↔ 18 ≤ buf.length
  rw [hlen, hdata, show ethDataLen = 1500 from rfl]
  omega

theorem up_length {buf : Bytes} (hfit : buf.length ≤ ethFrameLen)
    (hmin : ethHlen + ecp22HdrLen ≤ buf.length) :
    (c.stored buf).up.len + (ethHlen + ecp22HdrLen) = buf.length := by
  have hfit' : buf.length ≤ 1514 := hfit
  have hmin' : 18 ≤ buf.length := hmin
  show (buf.length + 65536 - 18) % 65536 + 18 = buf.length
  omega

theorem receive_not_taken (hnot : ¬ c.takes) (buf : Bytes) :
    ecp22RxReceiveframe buf c = .ok c := by
  refine if_pos ?_
  by_contra hcon
  rw [not_or, Bool.not_eq_true] at hcon
  exact hnot hcon

theorem copiesFit_iff (hrest : RxRest c) (x : Vdp22Input) (frame : Bytes) :
    CopiesFit c x frame ↔ FrameLengthOk c frame := by
  unfold FrameLengthOk
  by_cases htakes : c.takes
  · simp only [htakes, true_implies]
    by_cases hfit : (l2PacketReceive frame).length ≤ ethFrameLen
    · obtain ⟨d, hd, hulp⟩ := receive_ulp hrest htakes hfit
      replace hulp := handedUp_eq hulp
      have hinput : ecp22Input frame c x =
          ((handedUp c d).foldlM dataFromEcp x >>= fun x => pure (d, x)) := by
        unfold ecp22Input
        rw [hd]
        rfl
      by_cases hup : c.handsUp (l2PacketReceive frame)
      · rw [if_pos hup] at hulp
        simp only [hfit, hup, true_and, true_implies]
        rw [← up_fits (c := c) hfit, ← dataFromEcp_returns x]
        constructor
        · intro h
          have hinside := h.inside
          rw [hinput, returns_bind_pure, hulp, List.foldlM_cons] at hinside
          exact (returns_bind_pure (f := id)).mp hinside
        · intro h
          refine ⟨?_, fun d' hd' m hm => ?_⟩
          · rw [hinput, returns_bind_pure, hulp, List.foldlM_cons]
            exact (returns_bind_pure (f := id)).mpr h
          · cases hd.symm.trans hd'
            rw [hulp, List.mem_singleton] at hm
            subst hm
            exact up_length hfit ((up_fits hfit).mp ((dataFromEcp_returns x _).mp h))
      · rw [if_neg hup] at hulp
        refine iff_of_true ⟨?_, fun d' hd' m hm => ?_⟩ ⟨hfit, fun h => absurd h hup⟩
        · rw [hinput, hulp]
          exact returns_ok _
        · cases hd.symm.trans hd'
          rw [hulp] at hm
          cases hm
    · -- The frame runs over the end of the buffer.
      have herror : ecp22RxReceiveframe (l2PacketReceive frame) c = .error .outOfBounds := by
        unfold ecp22RxReceiveframe
        rw [if_neg (by rw [not_or, Bool.not_eq_true]; exact htakes), if_pos (Nat.not_le.mp hfit)]
      refine iff_of_false (fun h => ?_) (fun h => hfit h.1)
      have hinside := h.inside
      unfold ecp22Input at hinside
      rw [herror] at hinside
      exact not_returns_error _ hinside
  · have hkeeps := receive_not_taken htakes (l2PacketReceive frame)
    have hnone : handedUp c c = [] := List.drop_length
    refine iff_of_true ⟨?_, fun d hd m hm => ?_⟩ fun h => absurd h htakes
    · unfold ecp22Input
      rw [hkeeps, bind_ok, hnone]
      exact returns_ok _
    · cases hkeeps.symm.trans hd
      rw [hnone] at hm
      cases hm

theorem ecpRxReceiveFrame_returns (buf : Bytes) (c : EcpRxCtx) :
    Returns (ecpRxReceiveFrame buf c) ↔
      (c.port ≠ none ∧ c.enabletx = true → buf.length ≤ ethFrameLen) := by
  unfold ecpRxReceiveFrame
  by_cases htakes : c.port ≠ none ∧ c.enabletx = true
  · rw [imp_iff_right htakes, if_neg (by rw [not_or, Bool.not_eq_false]; exact htakes)]
    by_cases hfit : buf.length ≤ ethFrameLen
    · rw [if_neg (fun h => Nat.not_lt.mpr hfit h.2)]
      refine iff_of_true ?_ hfit
      split_ifs with hsame
      · exact returns_ok _
      · rw [returns_bind_pure, Octets.memcpy_returns]
        exact ⟨hfit, Nat.le_refl _⟩
    · refine iff_of_false ?_ hfit
      split_ifs with hlast hsame
      · exact not_returns_error _
      · -- The last frame was no longer than the buffer.
        intro _
        have hlen := congrArg List.length hsame.2
        rw [List.length_take, c.frame.length_eq] at hlen
        omega
      · rw [returns_bind_pure, Octets.memcpy_returns]
        exact fun h => hfit h.1
  · rw [if_pos (by rw [← Bool.not_eq_true, ← not_ne_iff, ← not_and_or]; exact htakes)]
    exact iff_of_true (returns_ok _) fun h => absurd h htakes

/-- **The copies of a received frame.** Whatever the link layer delivers: the copies of both
ECPs fit, and the payload is as long as what stands behind the headers, exactly when a frame
that is taken is no longer than `ETH_FRAME_LEN`, and one that is handed up to VDP is not shorter
than its headers. -/
theorem copies_fit_iff (c : Ecp22Ctx) (h : ecp22System.Reachable c) (x : Vdp22Input)
    (vd : EcpRxCtx) (frame : Bytes) :
    (CopiesFit c x frame ↔ FrameLengthOk c frame) ∧
      (Returns (ecpRxReceiveFrame (l2PacketReceive frame) vd) ↔
        (vd.port ≠ none ∧ vd.enabletx = true →
          (l2PacketReceive frame).length ≤ ethFrameLen)) :=
  ⟨copiesFit_iff (ecp22Rest_of_reachable h).rx x frame, ecpRxReceiveFrame_returns _ vd⟩

/-- A frame that ends behind the first word of the ECP header: a VDP request -/
def shortFrame : Bytes := List.replicate 12 0 ++ ethPEcp22 ++ htons ecp22RequestHdr

/-- A frame as long as the buffer of the link layer -/
def longFrame : Bytes := List.replicate l2BufferLen 0

/-- The short frame is handed up with a length of 65534, the long one runs over the end of both
receive buffers. -/
theorem frames_overrun :
    ∃ c, ecp22Start (some upPort) stationAddr = .ok c ∧
      ((ecp22RxReceiveframe (l2PacketReceive shortFrame) c).toOption.map fun d =>
        (handedUp c d).map Ecp22ToUlp.len) = some [65534] ∧
      ecp22Input shortFrame c {} = .error .outOfBounds ∧
      ecp22Input longFrame c {} = .error .outOfBounds ∧
      ecpRxReceiveFrame (l2PacketReceive longFrame) { enabletx := true, port := some upPort } =
        .error .outOfBounds := by
  refine ⟨_, rfl, ?_, ?_, ?_, ?_⟩ <;> decide +kernel

/-- A frame of the full length is copied by both. -/
theorem full_frame_fits :
    ∃ c, ecp22Start (some upPort) stationAddr = .ok c ∧
      CopiesFit c {} (longFrame.take ethFrameLen) ∧
      Returns (ecpRxReceiveFrame (l2PacketReceive (longFrame.take ethFrameLen))
        { enabletx := true, port := some upPort }) := by
  obtain ⟨c, hstart⟩ : ∃ c, ecp22Start (some upPort) stationAddr = .ok c := ⟨_, rfl⟩
  have hreach : ecp22System.Reachable c := System.reachable_of_init ⟨_, _, hstart⟩
  have hlen : (l2PacketReceive (longFrame.take ethFrameLen)).length = ethFrameLen := by
    decide +kernel
  obtain ⟨hnew, hdraft⟩ := copies_fit_iff c hreach {} { enabletx := true, port := some upPort }
    (longFrame.take ethFrameLen)
  refine ⟨c, hstart, hnew.mpr fun _ => ?_, hdraft.mpr fun _ => Nat.le_of_eq hlen⟩
  rw [hlen]
  exact ⟨Nat.le_refl _, fun _ => by decide⟩

end Lldpad.Qbg
