import Lldpad.Lldp.Rx
import Lldpad.Qbg.Ecp

/-!
# `Lldpad.Qbg.EcpRx`: the frame of the draft 0.2 ECP receive machine

`qbg/ecp.c`: `ecp_rx_ProcessFrame` walks through the VSI TLVs of an ECP frame and hands them to
VDP. `vdp_indicate` and `vdp_advance_sm` are a parameter, over a type that holds what VDP keeps.

The handle of a TLV is its number in the frame.
-/

namespace Lldpad.Qbg

open Lldpad.Lib
open Lldpad.Lldp (Frame UnpackedTlv ethHlen bytesFrom)

/-- What the walk calls: `vdp_indicate` on a TLV, with its answer, and `vdp_advance_sm` -/
structure VdpUlp (σ : Type) where
  indicate : σ → UnpackedTlv → σ × Bool
  advanceSm : σ → σ

/-- The counters of `vd->ecp.stats` that the walk writes, and what VDP keeps -/
structure EcpRxData (σ : Type) where
  vdp : σ
  statsTLVsUnrecognizedTotal : UInt32 := 0
  statsFramesDiscardedTotal : UInt32 := 0
  statsFramesInErrorsTotal : UInt32 := 0

variable {σ : Type}

/-- `sizeof(struct ecp_hdr)` -/
def ecpHdrLen : Nat := 9

/-- `ecp_hdr->mode` -/
def ecpMode (f : Frame) : Nat := (f.byte (ethHlen + 6)).toNat

def ecpAck : Nat := 1

/-- The locals of `ecp_rx_ProcessFrame` -/
structure EcpRxLocals where
  tlvOffset : Nat := ethHlen + ecpHdrLen
  tlvCnt : Nat := 0
  vdpCalled : Nat := 0

/-- The header of the TLV at `tlvOffset`, when it passes the checks -/
def ecpReadTlv (f : Frame) (tlvOffset : Nat) : Option (Nat × Nat) :=
  if tlvOffset > f.size then none  -- frame overrun
  else if tlvOffset + 2 > f.size then none  -- the header does not fit
  else
    let tlvLength := f.word tlvOffset % 512
    let tlvType := f.word tlvOffset / 512
    -- the overflow check leaves the two bytes of the header out
    if tlvOffset + tlvLength > f.size then none else some (tlvType, tlvLength)

/-- A VSI TLV is given to VDP; the answer tells whether it keeps the TLV. -/
def ecpGiveToVdp (ulp : VdpUlp σ) (d : EcpRxData σ) (tlv : UnpackedTlv) : EcpRxData σ × Bool :=
  if tlv.type = 127 then
    let (vdp, rc) := ulp.indicate d.vdp tlv
    ({ d with vdp := vdp }, rc)
  else (d, false)

/-- A TLV that nobody keeps is counted. -/
def ecpCountUnstored (d : EcpRxData σ) (tlv : UnpackedTlv) (tlvStored : Bool) : EcpRxData σ :=
  if tlv.type ≠ 0 ∧ tlvStored = false then
    { d with statsTLVsUnrecognizedTotal := d.statsTLVsUnrecognizedTotal + 1 }
  else d

/-- One pass of the loop of `ecp_rx_ProcessFrame`. The loop is left with the flag `frame_error`
and the number of TLVs that VDP keeps. -/
def ecpRxTlv (ulp : VdpUlp σ) (f : Frame) (s : EcpRxData σ × EcpRxLocals) :
    Pass (EcpRxData σ × EcpRxLocals) (EcpRxData σ × Bool × Nat) :=
  let (d, l) := s
  let l := { l with tlvCnt := l.tlvCnt + 1 }
  match ecpReadTlv f l.tlvOffset with
  | none => .leave (d, true, l.vdpCalled)
  | some (tlvType, tlvLength) =>
    let info := f.slice (l.tlvOffset + 2) tlvLength
    let tlv : UnpackedTlv := { ref := l.tlvCnt, type := 0, length := 0, info := [] }
    -- the type is compared before it is filled in, so this exit is never taken
    if tlvLength = 0 ∧ tlv.type ≠ 0 then .leave (d, false, l.vdpCalled)
    else
      let tlv := { tlv with type := tlvType, length := tlvLength, info := info }
      let (d, tlvStored) := ecpGiveToVdp ulp d tlv
      let d := ecpCountUnstored d tlv tlvStored
      let l := { l with
        tlvOffset := l.tlvOffset + 2 + tlvLength
        vdpCalled := if tlvStored then l.vdpCalled + 1 else l.vdpCalled }
      if l.tlvOffset < f.size then .again (d, l) else .leave (d, false, l.vdpCalled)

/-- What follows the loop, from the label `out` on -/
def ecpRxOut (ulp : VdpUlp σ) (r : EcpRxData σ × Bool × Nat) : EcpRxData σ :=
  let (d, frameError, vdpCalled) := r
  let d :=
    if frameError then
      { d with
        statsFramesDiscardedTotal := d.statsFramesDiscardedTotal + 1
        statsFramesInErrorsTotal := d.statsFramesInErrorsTotal + 1 }
    else d
  if vdpCalled ≠ 0 then { d with vdp := ulp.advanceSm d.vdp } else d

/-- The passes that the loop is given; `ecpRxProcessFrame_total` shows that no frame needs
more. -/
def ecpTlvFuel (f : Frame) : Nat := f.size + 1

def ecpRxProcessFrame (ulp : VdpUlp σ) (f : Frame) (d : EcpRxData σ) :
    Except Fault (EcpRxData σ) :=
  if ecpMode f = ecpAck then .ok d
  else do
    let r ← iterate (fun s => .ok (ecpRxTlv ulp f s)) (ecpTlvFuel f) (d, {})
    pure (ecpRxOut ulp r)

/-! ### The bytes that are read -/

/-- One pass of the loop -/
def ecpPassReads (f : Frame) (tlvOffset : Nat) : List Nat :=
  if tlvOffset > f.size ∨ tlvOffset + 2 > f.size then []
  else
    bytesFrom tlvOffset 2 ++
      match ecpReadTlv f tlvOffset with
      | none => []
      | some (_, tlvLength) => bytesFrom (tlvOffset + 2) tlvLength

/-- The loop -/
def ecpWalkReads (ulp : VdpUlp σ) (f : Frame) : Nat → EcpRxData σ × EcpRxLocals → List Nat
  | 0, _ => []
  | fuel + 1, s =>
    ecpPassReads f s.2.tlvOffset ++
      match ecpRxTlv ulp f s with
      | .again s => ecpWalkReads ulp f fuel s
      | .leave _ => []

/-- `ecp_rx_ProcessFrame`: the subtype, the mode and the sequence number of the ECP header, and
the TLVs of a frame that is no acknowledgement -/
def ecpProcessReads (ulp : VdpUlp σ) (f : Frame) (d : EcpRxData σ) : List Nat :=
  bytesFrom (ethHlen + 4) 5 ++
    if ecpMode f = ecpAck then [] else ecpWalkReads ulp f (ecpTlvFuel f) (d, {})

end Lldpad.Qbg
