import Lldpad.Lib.Machine
import Lldpad.Lib.Transition
import Lldpad.Lldp.Types

/-!
# `Lldpad.Qbg.Ecp22`: the Edge Control Protocol

`qbg/ecp22.c`: one ECP instance of one interface, from `ecp22_start` to `ecp22_stop`.
The transmit machine (`ecp22TxRunSm`) sends one payload at a time and waits for its
acknowledgement. The receive machine (`ecp22RxRunSm`) acknowledges every request and hands
new ones to the upper layer.

`Ecp22Ctx` is an instance with what it works on: the port, the pending timers of the event
loop, the frames it sent and the payloads it handed up. An ack timer carries a ghost, the
number of the transmission that started it. `Ecp22Trace` is a ghost altogether: nothing
reads it, and the theorems about whole runs talk about it.

Memory is always available here. Log messages are left out.
-/

namespace Lldpad.Qbg

open Lldpad.Lib
open Lldpad.Lldp (Bytes Port AgentType ethAlen ethHlen ethZlen ethDataLen ethFrameLen)

/-! ### Constants -/

def ecp22MaxRetriesDefault : UInt8 := 3

def ecp22AckTimerDefault : UInt8 := 8

/-- `ETH_P_ECP22` as the two bytes of a frame. -/
def ethPEcp22 : Bytes := [0x89, 0x40]

/-- `sizeof(struct ecp22_hdr)` -/
def ecp22HdrLen : Nat := 4

def ecp22MaxpayloadLen : Nat := ethDataLen - ecp22HdrLen - 2

/-- `ecp22_maxpayload`: the free list keeps that many nodes. -/
def ecp22Maxpayload : UInt16 := 64

def ecp22Request : UInt16 := 0

def ecp22Ack : UInt16 := 1

def ecp22Vdp : UInt16 := 1

def ecp22Pecsp : UInt16 := 2

/-! ### Headers -/

/-- A MAC address. -/
structure MacAddr where
  bytes : Bytes
  length_eq : bytes.length = ethAlen
  deriving DecidableEq

def nearestCustomerBridge : MacAddr := ⟨AgentType.nearestCustomerBridge.groupMac, rfl⟩

/-- Two bytes in network order. -/
def htons (x : UInt16) : Bytes := [UInt8.ofNat (x.toNat / 256), UInt8.ofNat (x.toNat % 256)]

/-- The 16-bit word at an offset, in network order. -/
def ntohs (b : Bytes) (i : Nat) : UInt16 :=
  UInt16.ofNat ((b.getD i 0).toNat * 256 + (b.getD (i + 1) 0).toNat)

def ecp22HdrSetOp (verOpSub op : UInt16) : UInt16 :=
  (verOpSub &&& 0xf3ff : UInt16) ||| ((op &&& 0x3 : UInt16) <<< (10 : UInt16))

def ecp22HdrReadOp (verOpSub : UInt16) : UInt16 := (verOpSub >>> 10) &&& 3

def ecp22HdrSetSubtype (verOpSub sub : UInt16) : UInt16 :=
  (verOpSub &&& 0xfc00) ||| (sub &&& 0x3ff)

def ecp22HdrReadSubtype (verOpSub : UInt16) : UInt16 := verOpSub &&& 0x3ff

def ecp22HdrSetVersion (verOpSub ver : UInt16) : UInt16 :=
  (verOpSub &&& 0xfff : UInt16) ||| ((ver &&& 0xf : UInt16) <<< (12 : UInt16))

def ecp22HdrReadVersion (verOpSub : UInt16) : UInt16 := (verOpSub >>> 12) &&& 0xf

/-- `inc_seqno`: the next sequence number, never zero -/
def incSeqno (x : UInt16) : UInt16 :=
  let x := x + 1
  if x = 0 then x + 1 else x

/-! ### The instance -/

/-- The receive states. -/
inductive Ecp22RxState where
  | rxBegin
  | rxWait
  | rxWait2
  | rxFirst
  | rxRecEcpdu
  | rxNewEcpdu
  | rxSendAck
  deriving DecidableEq, Repr

/-- The transmit states. -/
inductive Ecp22TxState where
  | txBegin
  | txInit
  | txTxmitEcpdu
  | txWaitForreq
  | txWaitOndata
  | txError
  deriving DecidableEq, Repr

/-- `struct ecp22_buffer`, for the states `σ` of one direction -/
structure Ecp22Buffer (σ : Type) where
  frame : Bytes := List.replicate ethFrameLen 0
  frameLen : Nat := 0
  state : σ
  ecpduReceived : Bool := false
  ackReceived : Bool := false
  retries : UInt8 := 0
  lastSeqno : UInt16 := 0
  seqno : UInt16 := 0
  errors : UInt64 := 0
  deriving DecidableEq

/-- `struct ecp22_payload_node` -/
structure Ecp22PayloadNode where
  ptlv : Bytes
  subtype : UInt16
  mac : MacAddr
  deriving DecidableEq

/-- `struct ecp22`. The free list is the number of its nodes. -/
structure Ecp22 where
  rx : Ecp22Buffer Ecp22RxState := { state := .rxBegin }
  tx : Ecp22Buffer Ecp22TxState := { state := .txBegin }
  statsFramesInTotal : UInt32 := 0
  inuse : List Ecp22PayloadNode := []
  freecnt : UInt16 := 0
  maxRetries : UInt8 := ecp22MaxRetriesDefault
  maxRte : UInt8 := ecp22AckTimerDefault
  deriving DecidableEq

/-- A pending call of `ecp22_ack_timeout_handler`. `sent` is a ghost: the number of the
transmission that registered it. -/
structure AckTimer where
  usec : Nat
  sent : Nat
  deriving DecidableEq, Repr

/-- Ghost: what the transmit side did. -/
inductive TxStep where
  /-- a payload was put into the transmit buffer -/
  | build
  /-- transmission number `n` went out -/
  | transmit (n : Nat)
  /-- the timer of transmission number `n` expired -/
  | timeout (n : Nat)
  /-- the machine is done with the transmit buffer -/
  | done (acked : Bool)
  deriving DecidableEq, Repr

/-- Ghost: what an instance did. -/
structure Ecp22Trace where
  /-- the steps of the transmit side, latest first -/
  log : List TxStep := []
  /-- the number of transmissions -/
  sent : Nat := 0
  /-- what the transmissions carried, by its place in `queued`, latest first -/
  places : List Nat := []
  /-- the payloads that the upper layer queued, in order -/
  queued : List Bytes := []
  /-- the number of payloads that were put into the transmit buffer -/
  built : Nat := 0
  /-- the payloads whose acknowledgement was accepted, by their place in `queued` -/
  acked : List Nat := []
  deriving DecidableEq

/-- `struct ecp22_to_ulp`. `data` is the memory from the pointer on. -/
structure Ecp22ToUlp where
  len : Nat
  data : Bytes
  deriving DecidableEq

/-- An instance and what it works on. `wire` is what went out, latest first, and `ulp` what
was handed up, in order. `port` is what `port_find_by_ifindex` finds. -/
structure Ecp22Ctx where
  ecp : Ecp22 := {}
  port : Option Port
  ownSrcAddr : MacAddr
  timers : List AckTimer := []
  wire : List Bytes := []
  ulp : List Ecp22ToUlp := []
  trace : Ecp22Trace := {}
  deriving DecidableEq

/-! ### Transmit -/

def ecp22Txframe (c : Ecp22Ctx) (frame : Bytes) : Ecp22Ctx := { c with wire := frame :: c.wire }

/-- `ecp22_append` on a buffer and the position in it -/
def ecp22Append (x : Bytes × Nat) (data : Bytes) : Bytes × Nat :=
  if x.2 + data.length > ethFrameLen then x
  else (x.1.take x.2 ++ data ++ x.1.drop (x.2 + data.length), x.2 + data.length)

def ecp22Putnode (ecp : Ecp22) : Ecp22 :=
  if ecp.freecnt > ecp22Maxpayload then ecp else { ecp with freecnt := ecp.freecnt + 1 }

def ecp22Getnode (ecp : Ecp22) : Ecp22 :=
  if ecp.freecnt = 0 then ecp else { ecp with freecnt := ecp.freecnt - 1 }

/-- The header of a request. The setters write every bit, so it does not matter what stood
in the local variable before. -/
def ecp22RequestHdr : UInt16 :=
  ecp22HdrSetSubtype (ecp22HdrSetOp (ecp22HdrSetVersion 0 1) ecp22Request) ecp22Vdp

/-- The frame that `ecp22_build_ecpdu` makes of a payload: the buffer and the length. -/
def ecp22Frame (ownSrcAddr : MacAddr) (seqno : UInt16) (p : Ecp22PayloadNode) : Bytes × Nat :=
  let x := (List.replicate ethFrameLen 0, 0)
  let x := ecp22Append x (p.mac.bytes ++ ownSrcAddr.bytes ++ ethPEcp22)
  let x := ecp22Append x (htons ecp22RequestHdr ++ htons seqno)
  let x := ecp22Append x p.ptlv
  (x.1, max x.2 ethZlen)

def ecp22BuildEcpdu (c : Ecp22Ctx) : Ecp22Ctx :=
  match c.ecp.inuse with
  | [] => c
  | p :: inuse =>
    let x := ecp22Frame c.ownSrcAddr c.ecp.tx.seqno p
    { c with
      ecp := ecp22Putnode { c.ecp with
        tx := { c.ecp.tx with ecpduReceived := true, frame := x.1, frameLen := x.2 }
        inuse := inuse }
      trace := { c.trace with log := .build :: c.trace.log, built := c.trace.built + 1 } }

def ecp22EsWaitforreq (c : Ecp22Ctx) : Ecp22Ctx :=
  { c with
    ecp := { c.ecp with
      tx := { c.ecp.tx with
        retries := 0
        ackReceived := false
        ecpduReceived := false
        seqno := incSeqno c.ecp.tx.seqno } }
    trace := { c.trace with log := .done c.ecp.tx.ackReceived :: c.trace.log } }

def ecp22EsCounterror (c : Ecp22Ctx) : Ecp22Ctx :=
  { c with ecp := { c.ecp with tx := { c.ecp.tx with errors := c.ecp.tx.errors + 1 } } }

def ecp22EsInittransmit (c : Ecp22Ctx) : Ecp22Ctx :=
  { c with ecp := { c.ecp with tx := { c.ecp.tx with errors := 0, seqno := 0 } } }

/-- `rtevalue`, in microseconds. Nothing depends on the value. -/
def rtevalue (rte : UInt8) : Nat := 2 ^ rte.toNat * 10

def ecp22TxStartAcktimer (c : Ecp22Ctx) : Ecp22Ctx :=
  { c with timers := c.timers ++ [{ usec := rtevalue c.ecp.maxRte, sent := c.trace.sent }] }

def ecp22TxChangeState (c : Ecp22Ctx) (newstate : Ecp22TxState) : Except Fault Ecp22Ctx := do
  let s := c.ecp.tx.state
  match newstate with
  | .txBegin => pure ()
  | .txInit => assert (s = .txBegin)
  | .txWaitForreq => assert (s = .txInit ∨ s = .txError ∨ s = .txTxmitEcpdu)
  | .txWaitOndata => assert (s = .txWaitForreq)
  | .txTxmitEcpdu => assert (s = .txWaitOndata)
  | .txError => assert (s = .txTxmitEcpdu)
  pure { c with ecp := { c.ecp with tx := { c.ecp.tx with state := newstate } } }

def ecp22EsTxmit (c : Ecp22Ctx) : Ecp22Ctx :=
  let c := { c with
    ecp := { c.ecp with tx := { c.ecp.tx with retries := c.ecp.tx.retries + 1 } }
    trace := { c.trace with
      sent := c.trace.sent + 1
      places := (c.trace.built - 1) :: c.trace.places
      log := .transmit (c.trace.sent + 1) :: c.trace.log } }
  ecp22TxStartAcktimer (ecp22Txframe c (c.ecp.tx.frame.take c.ecp.tx.frameLen))

/-- The first lines of `ecp22_set_tx_state`: the machine starts over when the link went
down. -/
def ecp22TxSeePort (c : Ecp22Ctx) (p : Port) : Except Fault Ecp22Ctx := do
  let c ←
    if p.portEnabled = false ∧ p.prevPortEnabled = true then ecp22TxChangeState c .txBegin
    else pure c
  pure { c with port := some { p with prevPortEnabled := p.portEnabled } }

/-- The `switch` of `ecp22_set_tx_state`. -/
def ecp22NextTxState (c : Ecp22Ctx) : Except Fault (Ecp22Ctx × Bool) :=
  match c.ecp.tx.state with
  | .txBegin => do
    let c ← ecp22TxChangeState c .txInit
    pure (c, true)
  | .txInit => do
    let c ← ecp22TxChangeState c .txWaitForreq
    pure (c, true)
  | .txWaitForreq => do
    let c ← ecp22TxChangeState c .txWaitOndata
    pure (c, true)
  | .txWaitOndata =>
    if c.ecp.inuse ≠ [] then do
      let c ← ecp22TxChangeState (ecp22BuildEcpdu c) .txTxmitEcpdu
      pure (c, true)
    else pure (c, false)
  | .txTxmitEcpdu =>
    if c.ecp.tx.ackReceived then do
      let c ← ecp22TxChangeState c .txWaitForreq
      pure (c, true)
    else if c.ecp.tx.retries > c.ecp.maxRetries then do
      let c ← ecp22TxChangeState c .txError
      pure (c, true)
    else pure (c, false)
  | .txError => do
    let c ← ecp22TxChangeState c .txWaitForreq
    pure (c, true)

def ecp22SetTxState (c : Ecp22Ctx) : Except Fault (Ecp22Ctx × Bool) :=
  match c.port with
  | none => pure (c, false)
  | some p => ecp22TxSeePort c p >>= ecp22NextTxState

/-- The `switch` of `ecp22_tx_run_sm`. -/
def ecp22TxAction (c : Ecp22Ctx) : Ecp22Ctx :=
  match c.ecp.tx.state with
  | .txBegin => c
  | .txInit => ecp22EsInittransmit c
  | .txWaitForreq => ecp22EsWaitforreq c
  | .txWaitOndata => c
  | .txTxmitEcpdu => ecp22EsTxmit c
  | .txError => ecp22EsCounterror c

/-- The transmit machine. -/
def ecp22TxMachine : Machine Ecp22Ctx where
  move := ecp22SetTxState
  act c := .ok (ecp22TxAction c)

/-- The rounds that the transmit machine is given: every payload takes at most five.
`ecp22TxRunSm_total` shows that no run needs more. -/
def ecp22TxFuel (c : Ecp22Ctx) : Nat := 5 * c.ecp.inuse.length + 8

def ecp22TxRunSm (c : Ecp22Ctx) : Except Fault Ecp22Ctx := ecp22TxMachine.run (ecp22TxFuel c) c

/-- `ecp22_ack_timeout_handler`, for the pending timer at place `i` -/
def ecp22AckTimeoutHandler (i : Nat) (c : Ecp22Ctx) : Except Fault Ecp22Ctx :=
  match c.timers[i]? with
  | none => .ok c
  | some t => ecp22TxRunSm { c with
      timers := c.timers.eraseIdx i
      trace := { c.trace with log := .timeout t.sent :: c.trace.log } }

/-! ### Receive -/

def ecp22RxChangeState (c : Ecp22Ctx) (newstate : Ecp22RxState) : Except Fault Ecp22Ctx := do
  let s := c.ecp.rx.state
  match newstate with
  | .rxBegin => pure ()
  | .rxWait => assert (s = .rxBegin)
  | .rxFirst => assert (s = .rxWait)
  | .rxRecEcpdu => assert (s = .rxFirst ∨ s = .rxWait2)
  | .rxNewEcpdu => assert (s = .rxRecEcpdu)
  | .rxSendAck => assert (s = .rxRecEcpdu ∨ s = .rxNewEcpdu)
  | .rxWait2 => assert (s = .rxSendAck)
  pure { c with ecp := { c.ecp with rx := { c.ecp.rx with state := newstate } } }

/-- `ntohs(hdr->ver_op_sub)` of the received frame -/
def Ecp22Ctx.rxVerOpSub (c : Ecp22Ctx) : UInt16 := ntohs c.ecp.rx.frame ethHlen

/-- `ntohs(hdr->seqno)` of the received frame -/
def Ecp22Ctx.rxHdrSeqno (c : Ecp22Ctx) : UInt16 := ntohs c.ecp.rx.frame (ethHlen + 2)

def ecp22EsSendAck (c : Ecp22Ctx) : Ecp22Ctx :=
  ecp22Txframe c (nearestCustomerBridge.bytes ++ c.ownSrcAddr.bytes
    ++ (c.ecp.rx.frame.drop (2 * ethAlen)).take 2
    ++ htons (ecp22HdrSetOp c.rxVerOpSub ecp22Ack) ++ htons c.ecp.rx.seqno)

/-- `ecp22_to_ulp`. The length is an `unsigned short`. -/
def ecp22ToUlp (ulp : UInt16) (c : Ecp22Ctx) : Ecp22Ctx :=
  let offset := ethHlen + ecp22HdrLen
  { c with
    ulp :=
      if ulp = ecp22Vdp then c.ulp ++
        [{ len := (c.ecp.rx.frameLen + 65536 - offset) % 65536
           data := c.ecp.rx.frame.drop offset }]
      else c.ulp }

def ecp22EsNewEcpdu (c : Ecp22Ctx) : Ecp22Ctx :=
  ecp22ToUlp (ecp22HdrReadSubtype c.rxVerOpSub)
    { c with ecp := { c.ecp with rx := { c.ecp.rx with lastSeqno := c.ecp.rx.seqno } } }

def ecp22EsRecEcpdu (c : Ecp22Ctx) : Ecp22Ctx :=
  { c with ecp := { c.ecp with rx := { c.ecp.rx with seqno := c.rxHdrSeqno } } }

def ecp22EsFirst (c : Ecp22Ctx) : Ecp22Ctx :=
  { c with ecp := { c.ecp with rx := { c.ecp.rx with lastSeqno := c.rxHdrSeqno - 1 } } }

def ecp22EsWait (c : Ecp22Ctx) : Ecp22Ctx :=
  { c with ecp := { c.ecp with rx := { c.ecp.rx with ecpduReceived := false } } }

/-- The `switch` of `ecp22_set_rx_state`. -/
def ecp22NextRxState (c : Ecp22Ctx) : Except Fault (Ecp22Ctx × Bool) :=
  match c.ecp.rx.state with
  | .rxBegin => do
    let c ← ecp22RxChangeState c .rxWait
    pure (c, false)
  | .rxWait =>
    if c.ecp.rx.ecpduReceived then do
      let c ← ecp22RxChangeState c .rxFirst
      pure (c, true)
    else pure (c, false)
  | .rxWait2 =>
    if c.ecp.rx.ecpduReceived then do
      let c ← ecp22RxChangeState c .rxRecEcpdu
      pure (c, true)
    else pure (c, false)
  | .rxFirst => do
    let c ← ecp22RxChangeState c .rxRecEcpdu
    pure (c, true)
  | .rxRecEcpdu =>
    if c.ecp.rx.seqno = c.ecp.rx.lastSeqno then do
      let c ← ecp22RxChangeState c .rxSendAck
      pure (c, true)
    else do
      let c ← ecp22RxChangeState c .rxNewEcpdu
      pure (c, true)
  | .rxNewEcpdu => do
    let c ← ecp22RxChangeState c .rxSendAck
    pure (c, true)
  | .rxSendAck => do
    let c ← ecp22RxChangeState c .rxWait2
    pure (c, true)

def ecp22SetRxState (c : Ecp22Ctx) : Except Fault (Ecp22Ctx × Bool) :=
  match c.port with
  | none => pure (c, false)
  | some p =>
    (if p.portEnabled = false then ecp22RxChangeState c .rxBegin else pure c)
      >>= ecp22NextRxState

/-- The `switch` of `ecp22_rx_run_sm`. -/
def ecp22RxAction (c : Ecp22Ctx) : Ecp22Ctx :=
  match c.ecp.rx.state with
  | .rxWait | .rxWait2 => ecp22EsWait c
  | .rxFirst => ecp22EsFirst c
  | .rxRecEcpdu => ecp22EsRecEcpdu c
  | .rxNewEcpdu => ecp22EsNewEcpdu c
  | .rxSendAck => ecp22EsSendAck c
  | .rxBegin => c

/-- The receive machine. -/
def ecp22RxMachine : Machine Ecp22Ctx where
  move := ecp22SetRxState
  act c := .ok (ecp22RxAction c)

/-- `ecp22_rx_run_sm`. `ecp22RxRunSm_eq` shows that no run needs more than eight
rounds. -/
def ecp22RxRunSm (c : Ecp22Ctx) : Except Fault Ecp22Ctx := ecp22RxMachine.run 8 c

def ecp22RecackFrame (c : Ecp22Ctx) (seqno : UInt16) : Ecp22Ctx :=
  if c.ecp.tx.ecpduReceived ∧ c.ecp.tx.seqno = seqno then
    { c with
      ecp := { c.ecp with tx := { c.ecp.tx with ackReceived := true } }
      trace := { c.trace with acked := c.trace.acked ++ [c.trace.built - 1] } }
  else c

/-- The instance with a frame in its receive buffer. What stood behind the new frame stays. -/
def Ecp22Ctx.stored (c : Ecp22Ctx) (buf : Bytes) : Ecp22Ctx :=
  { c with
    ecp := { c.ecp with
      rx := { c.ecp.rx with
        frame := buf ++ c.ecp.rx.frame.drop buf.length
        frameLen := buf.length }
      statsFramesInTotal := c.ecp.statsFramesInTotal + 1 } }

/-- The instance with a request in its receive buffer. -/
def Ecp22Ctx.requested (c : Ecp22Ctx) : Ecp22Ctx :=
  { c with ecp := { c.ecp with rx := { c.ecp.rx with ecpduReceived := true } } }

/-- What `ecp22_rx_receiveframe` does with the frame that it stored. -/
def ecp22RxStoredframe (c : Ecp22Ctx) : Except Fault Ecp22Ctx :=
  let h := c.rxVerOpSub
  if ecp22HdrReadVersion h ≠ 1 then pure c
  else if ecp22HdrReadSubtype h ≠ ecp22Pecsp ∧ ecp22HdrReadSubtype h ≠ ecp22Vdp then pure c
  else if ecp22HdrReadOp h = ecp22Request then ecp22RxRunSm c.requested
  else if ecp22HdrReadOp h = ecp22Ack then pure (ecp22RecackFrame c c.rxHdrSeqno)
  else pure c

/-- `ecp22_rx_receiveframe`. The `memcpy` into `ecp->rx.frame` does not look at the size of
the buffer. -/
def ecp22RxReceiveframe (buf : Bytes) (c : Ecp22Ctx) : Except Fault Ecp22Ctx :=
  if c.port = none ∨ c.ecp.rx.ecpduReceived then .ok c
  else if buf.length > ethFrameLen then .error .outOfBounds
  else ecp22RxStoredframe (c.stored buf)

/-! ### Start, and the upper layer -/

/-- `ecp22_start` on a new instance -/
def ecp22Start (port : Option Port) (ownSrcAddr : MacAddr) : Except Fault Ecp22Ctx := do
  let c ← ecp22RxRunSm { port := port, ownSrcAddr := ownSrcAddr }
  ecp22TxRunSm c

def ecp22DataFromEvb (maxRetry maxRte : UInt8) (c : Ecp22Ctx) : Ecp22Ctx :=
  { c with ecp := { c.ecp with maxRetries := maxRetry, maxRte := maxRte } }

def ecp22AddPayload (elem : Ecp22PayloadNode) (c : Ecp22Ctx) : Except Fault Ecp22Ctx :=
  let c := { c with
    ecp := { c.ecp with inuse := c.ecp.inuse ++ [elem] }
    trace := { c.trace with queued := c.trace.queued ++ [elem.ptlv] } }
  if c.ecp.tx.ecpduReceived = false then ecp22TxRunSm c else .ok c

def ecp22Req2send (subtype : UInt16) (mac : MacAddr) (du : Bytes) (c : Ecp22Ctx) :
    Except Fault Ecp22Ctx :=
  if du.length ≥ ecp22MaxpayloadLen then .ok c
  else ecp22AddPayload { ptlv := du, subtype := subtype, mac := mac }
    { c with ecp := ecp22Getnode c.ecp }

def dataFromVdp (du : Bytes) (c : Ecp22Ctx) : Except Fault Ecp22Ctx :=
  ecp22Req2send ecp22Vdp nearestCustomerBridge du c

/-! ### The system -/

/-- What reaches an instance. -/
inductive Ecp22Event where
  /-- the upper layer queues a payload: `data_from_vdp` -/
  | payload (du : Bytes)
  /-- a frame on the wire: `ecp22_rx_receiveframe` -/
  | frame (buf : Bytes)
  /-- the pending ack timer at place `i` expires -/
  | ackTimeout (i : Nat)
  /-- `ecp22_data_from_evb` -/
  | fromEvb (maxRetry maxRte : UInt8)
  /-- whatever the rest of the daemon does to the port -/
  | port (p : Option Port)

/-- One event. -/
def ecp22Step (c : Ecp22Ctx) : Ecp22Event → Except Fault Ecp22Ctx
  | .payload du => dataFromVdp du c
  | .frame buf => ecp22RxReceiveframe buf c
  | .ackTimeout i => ecp22AckTimeoutHandler i c
  | .fromEvb maxRetry maxRte => .ok (ecp22DataFromEvb maxRetry maxRte c)
  | .port p => .ok { c with port := p }

/-- An instance and everything that reaches it. -/
def ecp22System : System Ecp22Ctx Ecp22Event where
  init c := ∃ port ownSrcAddr, ecp22Start port ownSrcAddr = .ok c
  step := ecp22Step

/-! ## A sender, a receiver and the wire between them

Two ECP instances on one link. The upper layer of the sender queues payloads, the receiver
hands them to its own upper layer. The wire may lose and duplicate frames in both
directions, and it keeps their order. Both ports stay enabled, so neither side starts over.

`Flight.place` and `Ecp22Link.handed` are ghosts: the place in the sender's queue of the
payload that a frame carries or acknowledges, and the places of the payloads that were
handed up.
-/

/-- A frame on the wire. -/
structure Flight where
  place : Nat
  frame : Bytes
  deriving DecidableEq

/-- A sender, a receiver and what is on the wire, first in front. -/
structure Ecp22Link where
  sender : Ecp22Ctx
  receiver : Ecp22Ctx
  requests : List Flight := []
  acks : List Flight := []
  handed : List Nat := []
  deriving DecidableEq

/-- What happens on a link. -/
inductive LinkEvent where
  /-- the sender's upper layer queues a payload -/
  | payload (du : Bytes)
  /-- the pending ack timer of the sender at place `i` expires -/
  | ackTimeout (i : Nat)
  /-- the sender's retry parameters change -/
  | fromEvb (maxRetry maxRte : UInt8)
  /-- the first request on the wire arrives -/
  | request
  | loseRequest (i : Nat)
  | duplicateRequest (i : Nat)
  /-- the first acknowledgement on the wire arrives -/
  | ack
  | loseAck (i : Nat)
  | duplicateAck (i : Nat)

/-- The frame at place `i` is on the wire twice. -/
def duplicateFlight (fs : List Flight) (i : Nat) : List Flight := fs.take (i + 1) ++ fs.drop i

/-- The sender handles an event. What it sends goes on the wire. -/
def Ecp22Link.sendStep (l : Ecp22Link) (e : Ecp22Event) : Except Fault Ecp22Link := do
  let c ← ecp22Step l.sender e
  pure { l with
    sender := { c with wire := [], trace := { c.trace with places := [] } }
    requests := l.requests ++ (List.zipWith Flight.mk c.trace.places c.wire).reverse }

/-- The receiver takes the frame `f`. What it sends goes on the wire. -/
def Ecp22Link.receiveStep (l : Ecp22Link) (f : Flight) : Except Fault Ecp22Link := do
  let c ← ecp22Step l.receiver (.frame f.frame)
  pure { l with
    receiver := { c with wire := [] }
    acks := l.acks ++ c.wire.reverse.map (Flight.mk f.place)
    handed := l.handed ++ List.replicate (c.ulp.length - l.receiver.ulp.length) f.place }

/-- One event. -/
def linkStep (l : Ecp22Link) : LinkEvent → Except Fault Ecp22Link
  | .payload du => l.sendStep (.payload du)
  | .ackTimeout i => l.sendStep (.ackTimeout i)
  | .fromEvb maxRetry maxRte => l.sendStep (.fromEvb maxRetry maxRte)
  | .request =>
    match l.requests with
    | [] => .ok l
    | f :: fs => { l with requests := fs }.receiveStep f
  | .loseRequest i => .ok { l with requests := l.requests.eraseIdx i }
  | .duplicateRequest i => .ok { l with requests := duplicateFlight l.requests i }
  | .ack =>
    match l.acks with
    | [] => .ok l
    | f :: fs => { l with acks := fs }.sendStep (.frame f.frame)
  | .loseAck i => .ok { l with acks := l.acks.eraseIdx i }
  | .duplicateAck i => .ok { l with acks := duplicateFlight l.acks i }

/-- Both sides have started on enabled ports, and nothing is on the wire. -/
def Ecp22Link.Fresh (l : Ecp22Link) : Prop :=
  ∃ (p q : Port) (a b : MacAddr) (s r : Ecp22Ctx),
    p.portEnabled = true ∧ q.portEnabled = true ∧
      ecp22Start (some p) a = .ok s ∧ ecp22Start (some q) b = .ok r ∧
      l = { sender := s, receiver := r }

/-- A link and everything that happens on it. -/
def linkSystem : System Ecp22Link LinkEvent where
  init := Ecp22Link.Fresh
  step := linkStep

end Lldpad.Qbg
