import Lldpad.Lib.Buffer
import Lldpad.Qbg.Vdp22
import Lldpad.Qbg.Ecp

/-!
# `Lldpad.Qbg.EcpInput`: the buffers that a received frame is copied into

A frame comes from `l2_packet_receive`, which reads into a buffer of 2300 bytes. The receive
functions of both ECPs copy it into a buffer of `ETH_FRAME_LEN` bytes. The newer one hands the
payload to VDP, and `data_from_ecp` copies it into a buffer of `ETH_DATA_LEN` bytes.

A copy that does not fit stops the program here.
-/

namespace Lldpad.Qbg

open Lldpad.Lib
open Lldpad.Lldp (Bytes Port AgentType ethAlen ethHlen ethDataLen ethFrameLen)

/-! ### Copies -/

/-- `memcpy(dst, src, len)`, to the start of a buffer -/
def Octets.memcpy {n : Nat} (dst : Octets n) (src : Bytes) (len : Nat) : Except Fault (Octets n) :=
  if h : len ≤ n ∧ len ≤ src.length then
    .ok ⟨src.take len ++ dst.bytes.drop len, by
      rw [List.length_append, List.length_take, List.length_drop, dst.length_eq]
      omega⟩
  else .error .outOfBounds

/-- The buffer of `l2_packet_receive` -/
def l2BufferLen : Nat := 2300

/-- What `l2_packet_receive` delivers of a frame. `recvfrom` cuts off the rest. -/
def l2PacketReceive (frame : Bytes) : Bytes := frame.take l2BufferLen

/-! ### From ECP to VDP -/

/-- `input` and `input_len` of `struct vdp22` -/
structure Vdp22Input where
  input : Octets ethDataLen := .zero ethDataLen
  inputLen : Nat := 0
  deriving DecidableEq

/-- `data_from_ecp`, for an interface that has VDP data -/
def dataFromEcp (x : Vdp22Input) (ptr : Ecp22ToUlp) : Except Fault Vdp22Input := do
  let input ← x.input.memcpy ptr.data ptr.len
  pure { input := input, inputLen := ptr.len }

/-- What is handed up while an instance `c` becomes `d` -/
def handedUp (c d : Ecp22Ctx) : List Ecp22ToUlp := d.ulp.drop c.ulp.length

/-- A frame on its way through `l2_packet_receive`, `ecp22_rx_receiveframe` and
`data_from_ecp` -/
def ecp22Input (frame : Bytes) (c : Ecp22Ctx) (x : Vdp22Input) :
    Except Fault (Ecp22Ctx × Vdp22Input) := do
  let d ← ecp22RxReceiveframe (l2PacketReceive frame) c
  let x ← (handedUp c d).foldlM dataFromEcp x
  pure (d, x)

/-! ### The draft 0.2 ECP -/

/-- What `ecp_rx_ReceiveFrame` works on -/
structure EcpRxCtx where
  enabletx : Bool
  port : Option Port
  frame : Octets ethFrameLen := .zero ethFrameLen
  frameLen : Nat := 0
  rcvFrame : Bool := false
  seqECPDU : UInt16 := 0
  ackReceived : Bool := false
  statsFramesInTotal : UInt32 := 0
  deriving DecidableEq

/-- The machine that `ecp_rx_ReceiveFrame` runs in the end -/
inductive EcpRxNext where
  | none
  /-- `ecp_rx_run_sm` -/
  | request
  /-- `vdp_ack_profiles` and `ecp_tx_run_sm` -/
  | ack
  deriving DecidableEq, Repr

/-- `ecp_rx_ReceiveFrame` with the frame in its buffer -/
def ecpRxStoredFrame (c : EcpRxCtx) : EcpRxCtx × EcpRxNext :=
  let b := c.frame.bytes
  if b.take ethAlen ≠ AgentType.nearestBridge.groupMac then (c, .none)
  else if (b.drop (2 * ethAlen)).take 2 ≠ ethPEcp then (c, .none)
  else
    let c := { c with
      statsFramesInTotal := c.statsFramesInTotal + 1
      rcvFrame := true
      seqECPDU := ntohs b (ethHlen + 7) }
    match (b.getD (ethHlen + 6) 0).toNat with
    | 0 => ({ c with ackReceived := false }, .request)
    | 1 => ({ c with ackReceived := true }, .ack)
    | _ => (c, .none)

/-- `ecp_rx_ReceiveFrame`. Its comparison with the last frame reads that buffer, too. -/
def ecpRxReceiveFrame (buf : Bytes) (c : EcpRxCtx) : Except Fault (EcpRxCtx × EcpRxNext) :=
  if c.port = none ∨ c.enabletx = false then .ok (c, .none)
  else if c.frameLen = buf.length ∧ buf.length > ethFrameLen then .error .outOfBounds
  else if c.frameLen = buf.length ∧ buf = c.frame.bytes.take buf.length then
    .ok ({ c with statsFramesInTotal := c.statsFramesInTotal + 1 }, .none)
  else do
    let frame ← c.frame.memcpy buf buf.length
    pure (ecpRxStoredFrame { c with frame := frame, frameLen := buf.length % 65536 })

end Lldpad.Qbg
