import Lldpad.Qbg.Ecp22

/-!
# `Lldpad.Qbg.Ecp`: the transmit machine of the draft 0.2 ECP

`qbg/ecp.c`: the transmit side of the ECP of one interface, which lives in the `struct
vdp_data` of that interface. It packs every changed profile into one frame and waits for the
acknowledgement.

A profile carries what `vdp_gettlv` makes of it. The receive machine and the profiles' own
machines are not here. `EcpEvent` has what they do to the data of the transmit machine.

Unlike the other machines, `ecp_tx_run_sm` executes the present state before it asks for the
next one.
-/

namespace Lldpad.Qbg

open Lldpad.Lib
open Lldpad.Lldp (Bytes Port AgentType ethZlen ethFrameLen)

/-! ### Data -/

def ecpMaxRetries : Int := 3

/-- `ECP_ACK_TIMER_DEFAULT`, in microseconds -/
def ecpAckTimerDefault : Int := 500000

def ecpAckTimerStopped : Int := -1

/-- `ETH_P_ECP` as the two bytes of a frame. -/
def ethPEcp : Bytes := [0x88, 0xb7]

/-- The transmit states. -/
inductive EcpTxState where
  | initTransmit
  | transmitEcpdu
  | waitForAck
  | requestPdu
  deriving DecidableEq, Repr

/-- The transmit buffer: `struct ecp_buffer` -/
structure EcpTx where
  frame : Bytes := List.replicate ethFrameLen 0
  frameLen : Nat := 0
  state : EcpTxState := .initTransmit
  localChange : Bool := false
  deriving DecidableEq

/-- The fields of `struct ecp` that the transmit side uses. -/
structure Ecp where
  retries : Int := 0
  ackReceived : Bool := false
  ackTimer : Int := 0
  lastSequence : UInt16 := 0
  seqECPDU : UInt16 := 0
  tx : EcpTx := {}
  statsFramesOutTotal : UInt32 := 0
  deriving DecidableEq

/-- The fields of `struct vsi_profile` that the transmit side uses, and what `vdp_gettlv`
makes of the profile. -/
structure VsiProfile where
  localChange : Bool := false
  txmit : Bool := false
  ackReceived : Bool := false
  seqnr : UInt16 := 0
  tlv : Option Bytes := none
  deriving DecidableEq

/-- `struct vdp_data` with what the transmit side works on: the port, the pending timers, and
the frames that went out, latest first. -/
structure VdpData where
  enabletx : Bool
  ecp : Ecp := {}
  profiles : List VsiProfile := []
  ownSrcAddr : MacAddr
  port : Option Port
  /-- pending calls of `ecp_ack_timeout_handler` -/
  ackTimers : Nat := 0
  /-- pending calls of `ecp_localchange_handler` -/
  localchangeTimers : Nat := 0
  wire : List Bytes := []
  deriving DecidableEq

/-! ### Frames -/

/-- `ecp_append` on a buffer and the position in it, and whether the data fitted -/
def ecpAppend (x : Bytes × Nat) (data : Bytes) : (Bytes × Nat) × Bool :=
  if x.2 + data.length > ethFrameLen - 2 then (x, false)
  else ((x.1.take x.2 ++ data ++ x.1.drop (x.2 + data.length), x.2 + data.length), true)

/-- The loop of `ecp_build_ECPDU`: the frame, and the profiles with the sequence number of
the frame that they went into. It stops at the first TLV that does not fit. -/
def ecpPackProfiles (seqnr : UInt16) :
    List VsiProfile → Bytes × Nat → (Bytes × Nat) × List VsiProfile
  | [], x => (x, [])
  | p :: ps, x =>
    match (if p.localChange then p.tlv else none) with
    | none =>
      let r := ecpPackProfiles seqnr ps x
      (r.1, p :: r.2)
    | some tlv =>
      match ecpAppend x tlv with
      | (x, false) => (x, p :: ps)
      | (x, true) =>
        let r := ecpPackProfiles seqnr ps x
        (r.1, { p with seqnr := seqnr } :: r.2)

def ecpBuildECPDU (vd : VdpData) : VdpData :=
  let seqnr := vd.ecp.lastSequence + 1
  let x := (List.replicate ethFrameLen 0, 0)
  let x := (ecpAppend x (AgentType.nearestBridge.groupMac ++ vd.ownSrcAddr.bytes ++ ethPEcp)).1
  let x := (ecpAppend x ([0x00, 0x1b, 0x3f, 0, 0, 0, 0] ++ htons seqnr)).1
  let (x, profiles) := ecpPackProfiles seqnr vd.profiles x
  let x := (ecpAppend x [0, 0]).1
  { vd with
    ecp := { vd.ecp with
      lastSequence := seqnr
      tx := { vd.ecp.tx with frame := x.1, frameLen := max x.2 ethZlen } }
    profiles := profiles }

def ecpTxFrame (vd : VdpData) : VdpData :=
  { vd with
    wire := vd.ecp.tx.frame.take vd.ecp.tx.frameLen :: vd.wire
    ecp := { vd.ecp with
      statsFramesOutTotal := vd.ecp.statsFramesOutTotal + 1
      tx := { vd.ecp.tx with frameLen := 0 } } }

/-! ### Timers -/

def ecpSomethingChangedLocal (vd : VdpData) (flag : Bool) : VdpData :=
  { vd with
    ecp := { vd.ecp with tx := { vd.ecp.tx with localChange := flag } }
    localchangeTimers := vd.localchangeTimers + 1 }

def ecpTxStartAckTimer (vd : VdpData) : VdpData :=
  { vd with
    ecp := { vd.ecp with ackTimer := ecpAckTimerDefault }
    ackTimers := vd.ackTimers + 1 }

def ecpTxStopAckTimer (vd : VdpData) : VdpData :=
  { vd with ecp := { vd.ecp with ackTimer := ecpAckTimerStopped }, ackTimers := 0 }

def ecpAckTimerExpired (vd : VdpData) : Bool := vd.ecp.ackTimer == 0

def vdpVsisPending (vd : VdpData) : Nat :=
  (vd.profiles.filter fun p => p.localChange && !p.txmit).length

def vdpAckProfiles (vd : VdpData) (seqnr : UInt16) : VdpData :=
  { vd with profiles := vd.profiles.map fun p =>
      if p.seqnr = seqnr then { p with ackReceived := false, txmit := true } else p }

/-! ### The machine -/

def ecpTxInitialize (vd : VdpData) : VdpData :=
  let vd := { vd with ecp := { vd.ecp with
    tx := { vd.ecp.tx with frame := List.replicate ethFrameLen 0 } } }
  let vd := ecpSomethingChangedLocal vd true
  { vd with ecp := { vd.ecp with
    lastSequence := 0
    statsFramesOutTotal := 0
    ackTimer := ecpAckTimerStopped
    retries := 0 } }

def ecpTxCreateFrame (vd : VdpData) : VdpData :=
  let vd := if vd.ecp.tx.localChange then ecpTxFrame (ecpBuildECPDU vd) else vd
  ecpSomethingChangedLocal vd false

def ecpTxChangeState (vd : VdpData) (newstate : EcpTxState) : Except Fault VdpData := do
  let s := vd.ecp.tx.state
  match newstate with
  | .initTransmit => pure ()
  | .transmitEcpdu => assert (s = .initTransmit ∨ s = .waitForAck ∨ s = .requestPdu)
  | .waitForAck => assert (s = .transmitEcpdu)
  | .requestPdu => assert (s = .waitForAck)
  pure { vd with ecp := { vd.ecp with tx := { vd.ecp.tx with state := newstate } } }

/-- A state change, and whether the machine goes on. -/
def ecpTxGoto (vd : VdpData) (newstate : EcpTxState) (again : Bool) :
    Except Fault (VdpData × Bool) := do
  let vd ← ecpTxChangeState vd newstate
  pure (vd, again)

/-- The first lines of `ecp_set_tx_state`: the machine starts over when the link went
down. -/
def ecpTxSeePort (vd : VdpData) (p : Port) : Except Fault VdpData := do
  let vd ←
    if p.portEnabled = false ∧ p.prevPortEnabled = true then ecpTxChangeState vd .initTransmit
    else pure vd
  pure { vd with port := some { p with prevPortEnabled := p.portEnabled } }

/-- The end of `ECP_TX_WAIT_FOR_ACK`: the acknowledgement of the last frame is there, or it is
not. -/
def ecpTxAnswered (vd : VdpData) : Except Fault (VdpData × Bool) :=
  if vd.ecp.ackReceived ∧ vd.ecp.seqECPDU = vd.ecp.lastSequence then
    let vd := { vd with ecp := { vd.ecp with ackReceived := false } }
    let vd := if vdpVsisPending vd ≠ 0 then ecpSomethingChangedLocal vd true else vd
    ecpTxGoto vd .requestPdu true
  else pure (vd, false)

/-- The `switch` of `ecp_set_tx_state`. -/
def ecpNextTxState (vd : VdpData) (p : Port) : Except Fault (VdpData × Bool) :=
  match vd.ecp.tx.state with
  | .initTransmit =>
    if p.portEnabled ∧ vd.enabletx ∧ vd.ecp.tx.localChange then ecpTxGoto vd .transmitEcpdu true
    else pure (vd, false)
  | .transmitEcpdu =>
    if vd.enabletx = false then ecpTxGoto vd .initTransmit true
    else ecpTxGoto vd .waitForAck false
  | .waitForAck =>
    if ecpAckTimerExpired vd then
      let vd := { vd with ecp := { vd.ecp with retries := vd.ecp.retries + 1 } }
      if vd.ecp.retries < ecpMaxRetries then
        ecpTxGoto (ecpSomethingChangedLocal vd true) .transmitEcpdu true
      else if vd.ecp.retries = ecpMaxRetries then ecpTxGoto (ecpTxStopAckTimer vd) .requestPdu true
      else ecpTxAnswered vd
    else ecpTxAnswered vd
  | .requestPdu =>
    if vd.ecp.tx.localChange then ecpTxGoto vd .transmitEcpdu true else pure (vd, false)

def ecpSetTxState (vd : VdpData) : Except Fault (VdpData × Bool) :=
  match vd.port with
  | none => pure (vd, false)
  | some p => do
    let vd ← ecpTxSeePort vd p
    ecpNextTxState vd p

/-- The `switch` of `ecp_tx_run_sm`. -/
def ecpTxAction (vd : VdpData) : VdpData :=
  match vd.ecp.tx.state with
  | .initTransmit => ecpTxInitialize vd
  | .transmitEcpdu => ecpSomethingChangedLocal (ecpTxStartAckTimer (ecpTxCreateFrame vd)) false
  | .waitForAck =>
    if vd.ecp.ackReceived then ecpTxStopAckTimer (ecpSomethingChangedLocal vd false) else vd
  | .requestPdu => { vd with ecp := { vd.ecp with retries := 0 } }

/-- The transmit machine. -/
def ecpTxMachine : Machine VdpData where
  move := ecpSetTxState
  act vd := .ok (ecpTxAction vd)

/-- `ecp_tx_run_sm`. `ecpTxRunSm_total` shows that no run needs more than eight rounds. -/
def ecpTxRunSm (vd : VdpData) : Except Fault VdpData := iterate ecpTxMachine.round 8 vd

/-! ### What reaches the machine -/

def ecpLocalchangeHandler (vd : VdpData) : Except Fault VdpData :=
  if vd.ecp.tx.localChange then ecpTxRunSm vd else .ok vd

def ecpAckTimeoutHandler (vd : VdpData) : Except Fault VdpData :=
  let vd :=
    if vd.ecp.ackTimer > 0 then
      { vd with ecp := { vd.ecp with ackTimer := vd.ecp.ackTimer - ecpAckTimerDefault } }
    else vd
  if ecpAckTimerExpired vd then ecpTxRunSm vd else .ok vd

/-- `ecp_rx_ReceiveFrame` for an acknowledgement with the sequence number `seqnr` -/
def ecpRxAck (seqnr : UInt16) (vd : VdpData) : Except Fault VdpData :=
  if vd.enabletx = false then .ok vd
  else do
    let vd := { vd with ecp := { vd.ecp with seqECPDU := seqnr, ackReceived := true } }
    let vd ← ecpTxRunSm (vdpAckProfiles vd seqnr)
    pure { vd with ecp := { vd.ecp with ackReceived := false } }

/-- What `ecp_rx_ReceiveFrame` does to the transmit side for a request: the acknowledgement
goes out through the transmit buffer. -/
def ecpRxRequest (seqnr : UInt16) (ack : Bytes) (vd : VdpData) : VdpData :=
  ecpTxFrame { vd with ecp := { vd.ecp with
    seqECPDU := seqnr
    ackReceived := false
    tx := { vd.ecp.tx with frame := ack, frameLen := ack.length } } }

/-- What reaches the transmit machine. -/
inductive EcpEvent where
  /-- a pending ack timer expires -/
  | ackTimeout
  /-- a pending local-change timer expires -/
  | localchange
  /-- an acknowledgement arrives -/
  | ack (seqnr : UInt16)
  /-- a request arrives, and `ack` is its acknowledgement -/
  | request (seqnr : UInt16) (ack : Bytes)
  /-- VDP changes its profiles -/
  | profiles (ps : List VsiProfile)
  /-- VDP calls `ecp_somethingChangedLocal` -/
  | changed (flag : Bool)

/-- One event. -/
def ecpHandle (vd : VdpData) : EcpEvent → Except Fault VdpData
  | .ackTimeout =>
    if vd.ackTimers = 0 then .ok vd
    else ecpAckTimeoutHandler { vd with ackTimers := vd.ackTimers - 1 }
  | .localchange =>
    if vd.localchangeTimers = 0 then .ok vd
    else ecpLocalchangeHandler { vd with localchangeTimers := vd.localchangeTimers - 1 }
  | .ack seqnr => ecpRxAck seqnr vd
  | .request seqnr ack => .ok (ecpRxRequest seqnr ack vd)
  | .profiles ps => .ok { vd with profiles := ps }
  | .changed flag => .ok (ecpSomethingChangedLocal vd flag)

/-- `ecp_init`, but for the receive machine -/
def ecpInit (vd : VdpData) : VdpData := ecpSomethingChangedLocal vd true

def ecpDeinit (vd : VdpData) : VdpData := ecpTxStopAckTimer { vd with localchangeTimers := 0 }

end Lldpad.Qbg
