import Mathlib.Logic.Basic

/-!
# `Lldpad.Lldp.Types`: ports, agents and frames

The records of `lldp/agent.h`, `lldp/ports.h` and `lldp/mibdata.h`, and the
states of `lldp/states.h`. A pointer that may be `NULL` is an `Option`. The
timers and lengths are `u16` in C. Every value stored in them is a constant, two
bytes of a frame or a smaller value of the same field, so they are naturals here.
The `u32` statistics counters wrap, so they are `UInt32`.

`LldpAgent.history` is not a field of `struct lldp_agent`. It is a ghost: it
records what the receive side did, nothing reads it, and the theorems about whole
runs talk about it.
-/

namespace Lldpad.Lldp

/-- A string of bytes. -/
abbrev Bytes := List UInt8

/-! ### Constants -/

/-- `ETH_ALEN`: the length of a MAC address. -/
def ethAlen : Nat := 6

/-- `sizeof(struct l2_ethhdr)`: two addresses and the protocol. -/
def ethHlen : Nat := 14

/-- `ETH_ZLEN`: the smallest frame. -/
def ethZlen : Nat := 60

/-- `ETH_MIN_DATA_LEN`: the smallest payload. -/
def ethMinDataLen : Nat := ethZlen - ethHlen

/-- `ETH_DATA_LEN`: the largest payload. -/
def ethDataLen : Nat := 1500

/-- `ETH_FRAME_LEN`: the largest frame. -/
def ethFrameLen : Nat := 1514

/-- The buffer that a frame is received into. -/
def l2BufferLen : Nat := 2300

/-- `ETH_P_LLDP` as the two bytes of a frame. -/
def ethPLldp : Nat := 0x88cc

/-- `REINIT_DELAY` -/
def reinitDelayDefault : Nat := 2

def defaultTxHold : Nat := 4

def defaultTxInterval : Nat := 30

def fastTxInterval : Nat := 1

/-- `TX_FAST_INIT` -/
def txFastInitDefault : Nat := 4

def txCreditMax : Nat := 5

/-- `DORMANT_DELAY` -/
def dormantDelayDefault : Nat := 15

/-! ### Enumerations -/

/-- `enum agentAdminStatus` -/
inductive AdminStatus where
  | disabled
  | enabledTxOnly
  | enabledRxOnly
  | enabledRxTx
  deriving DecidableEq, Repr

/-- The administrator lets the agent receive. -/
def AdminStatus.allowsRx : AdminStatus → Bool
  | .enabledRxOnly | .enabledRxTx => true
  | .disabled | .enabledTxOnly => false

/-- The administrator lets the agent transmit. -/
def AdminStatus.allowsTx : AdminStatus → Bool
  | .enabledTxOnly | .enabledRxTx => true
  | .disabled | .enabledRxOnly => false

/-- `enum agent_type`: the scopes of an LLDP agent. -/
inductive AgentType where
  | nearestBridge
  | nearestNontpmrBridge
  | nearestCustomerBridge
  deriving DecidableEq, Repr

/-- `agent_groupmacs`: the group address of each scope. -/
def AgentType.groupMac : AgentType → Bytes
  | .nearestBridge => [0x01, 0x80, 0xc2, 0x00, 0x00, 0x0e]
  | .nearestNontpmrBridge => [0x01, 0x80, 0xc2, 0x00, 0x00, 0x03]
  | .nearestCustomerBridge => [0x01, 0x80, 0xc2, 0x00, 0x00, 0x00]

/-- The states of the transmit timer machine. -/
inductive TxTimerState where
  | txTimerBegin
  | txTimerInitialize
  | txTimerIdle
  | txTimerExpires
  | txTick
  | signalTx
  | txFastStart
  deriving DecidableEq, Repr

/-- The states of the transmit machine. -/
inductive TxState where
  | txLldpInitialize
  | txIdle
  | txShutdownFrame
  | txInfoFrame
  deriving DecidableEq, Repr

/-- The states of the receive machine. -/
inductive RxState where
  | lldpWaitPortOperational
  | deleteAgedInfo
  | rxLldpInitialize
  | rxWaitForFrame
  | rxFrame
  | deleteInfo
  | updateInfo
  deriving DecidableEq, Repr

/-! ### Frames -/

/-- A received frame. `past` is what stands in memory behind the buffer: the code
can read up to a TLV beyond the end of a frame. -/
structure Frame where
  bytes : Bytes
  past : Bytes
  bytes_le : bytes.length ≤ l2BufferLen
  deriving DecidableEq

namespace Frame

/-- The length that the socket reported. -/
def size (f : Frame) : Nat := f.bytes.length

/-- The byte at an offset from the start of the buffer. -/
def byte (f : Frame) (i : Nat) : UInt8 := (f.bytes ++ f.past).getD i 0

/-- The big-endian 16-bit word at an offset. -/
def word (f : Frame) (i : Nat) : Nat := (f.byte i).toNat * 256 + (f.byte (i + 1)).toNat

/-- `n` bytes from an offset on. -/
def slice (f : Frame) (i n : Nat) : Bytes := (List.range n).map fun j => f.byte (i + j)

/-- `hdr->h_dest` -/
def hDest (f : Frame) : Bytes := f.slice 0 ethAlen

/-- `hdr->h_proto` -/
def hProto (f : Frame) : Nat := f.word (2 * ethAlen)

end Frame

/-- `struct unpacked_tlv`. `ref` is the pointer to it: the number of TLVs that
were created before. -/
structure UnpackedTlv where
  ref : Nat
  type : Nat
  length : Nat
  info : Bytes
  deriving DecidableEq, Repr

/-- `ntohs(*(u16 *)tlv->info)` -/
def UnpackedTlv.word (tlv : UnpackedTlv) : Nat :=
  (tlv.info.getD 0 0).toNat * 256 + (tlv.info.getD 1 0).toNat

/-! ### Records of an agent -/

/-- `struct msap`: the identity of the remembered neighbour. -/
structure Msap where
  length1 : Nat := 0
  msap1 : Option Bytes := none
  length2 : Nat := 0
  msap2 : Option Bytes := none
  deriving DecidableEq, Repr

/-- `struct agenttimers` -/
structure AgentTimers where
  state : TxTimerState := .txTimerBegin
  reinitDelay : Nat := 0
  msgTxHold : Nat := 0
  msgTxInterval : Nat := 0
  msgFastTx : Nat := 0
  txFastInit : Nat := 0
  txTTR : Nat := 0
  txShutdownWhile : Nat := 0
  txCredit : Nat := 0
  txMaxCredit : Nat := 0
  txTick : Bool := false
  tooManyNghbrsTimer : Nat := 0
  rxTTL : Nat := 0
  lastrxTTL : Nat := 0
  deriving DecidableEq, Repr

/-- `struct agenttx` -/
structure AgentTx where
  frameout : Option Bytes := none
  sizeout : Nat := 0
  state : TxState := .txLldpInitialize
  localChange : Bool := false
  txTTL : Nat := 0
  txNow : Bool := false
  txFast : Nat := 0
  deriving DecidableEq, Repr

/-- The counters of `struct agentstats` that the code writes. -/
structure AgentStats where
  statsFramesOutTotal : UInt32 := 0
  statsFramesDiscardedTotal : UInt32 := 0
  statsFramesInErrorsTotal : UInt32 := 0
  statsFramesInTotal : UInt32 := 0
  statsTLVsUnrecognizedTotal : UInt32 := 0
  deriving DecidableEq, Repr

/-- `rxmanifest`: the TLVs of types 1 to 8 of the frame in work. -/
structure RxManifest where
  chassis : Option Nat := none
  portid : Option Nat := none
  ttl : Option Nat := none
  portdesc : Option Nat := none
  sysname : Option Nat := none
  sysdesc : Option Nat := none
  syscap : Option Nat := none
  mgmtadd : Option Nat := none
  deriving DecidableEq, Repr

/-- `struct agentrx`. The length `sizein` is that of `framein`. -/
structure AgentRx where
  framein : Option Frame := none
  state : RxState := .lldpWaitPortOperational
  badFrame : Bool := false
  rcvFrame : Bool := false
  rxInfoAge : Bool := false
  remoteChange : Bool := false
  tooManyNghbrs : Bool := false
  dupTlvs : Nat := 0
  dcbxSt : Nat := 0
  newNeighbor : Bool := false
  manifest : Option RxManifest := none
  deriving DecidableEq

/-- Ghost: one load of `rxTTL`, with the frame in work, the admin status and the
identity on record once the load was done. -/
structure TtlLoad where
  frame : Frame
  adminStatus : AdminStatus
  msap : Msap
  deriving DecidableEq

/-- Ghost: what the receive side did, latest first. -/
structure RxHistory where
  /-- the loads of `rxTTL` -/
  loads : List TtlLoad := []
  /-- the frames that `rxProcessFrame` went through, and whether without error -/
  processed : List (Frame × Bool) := []
  /-- the identity as the receive side alone keeps it -/
  remote : Msap := {}
  deriving DecidableEq

/-- `struct lldp_agent` -/
structure LldpAgent where
  adminStatus : AdminStatus := .disabled
  type : AgentType
  rx : AgentRx := {}
  tx : AgentTx := {}
  stats : AgentStats := {}
  timers : AgentTimers := {}
  rxChanges : Bool := false
  lldpdu : BitVec 16 := 0
  msap : Msap := {}
  history : RxHistory := {}
  deriving DecidableEq

/-- `agent->mac_addr` -/
def LldpAgent.macAddr (a : LldpAgent) : Bytes := a.type.groupMac

/-- The fields of `struct port` that the agents and their machines use. -/
structure Port where
  hwResetting : Bool := false
  portEnabled : Bool := false
  prevPortEnabled : Bool := false
  dormantDelay : Nat := 0
  deriving DecidableEq, Repr

end Lldpad.Lldp
