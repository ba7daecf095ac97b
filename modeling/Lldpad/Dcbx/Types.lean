import Lldpad.Lldp.Types
import Mathlib.Algebra.Ring.Nat

/-!
# `Lldpad.Dcbx.Types`: the stores of DCBX

The data of `include/dcb_types.h`. A feature keeps three copies of its attributes: the local
ones, the peer's, and the operational ones. `Stores` is the three of one feature. The
configuration is a parameter of it, because the feature state machine does not look into it.

An array with one entry for each user priority, bandwidth group or traffic class has eight
entries. It is a function on `Fin 8` here.
-/

namespace Lldpad.Dcbx

open Lldpad.Lldp (Bytes)

/-- `cmd_status`, as far as these functions return it -/
inductive CmdStatus where
  | success
  | failed
  | deviceNotFound
  | badParams
  | ctrlVersNotCompatible
  deriving DecidableEq, Repr

/-- `pfc_type` -/
inductive PfcType where
  | disabled
  | enabled
  | invalid
  deriving DecidableEq, Repr

/-- `peer_dcb_tlv_state` -/
inductive PeerDcbTlvState where
  | none
  | present
  | expired
  | reset
  deriving DecidableEq, Repr

/-- `dcb_strict_priority_type` -/
inductive StrictPriority where
  | none
  | group
  | link
  | invalid
  deriving DecidableEq, Repr

/-- `DCB_CLOSED`, `DCB_INIT`, `DCB_LISTEN` -/
inductive DcbState where
  | closed
  | init
  | listen
  deriving DecidableEq, Repr

/-- `DCBX_SUBTYPE1`, the CIN version of DCBX -/
def dcbxSubtype1 : Nat := 1

/-- `DCBX_SUBTYPE2`, the CEE version of DCBX -/
def dcbxSubtype2 : Nat := 2

def linkStrictPgid : UInt8 := 15

def bwPercent : UInt8 := 100

/-! ### Error flags -/

def featErrNone : UInt8 := 0x00

def featErrMismatch : UInt8 := 0x01

def featErrCfg : UInt8 := 0x02

def featErrMultiTlv : UInt8 := 0x04

def featErrPeer : UInt8 := 0x08

def featErrMultiPeer : UInt8 := 0x10

def featErrNoTlv : UInt8 := 0x20

def dupDcbxTlvCtrl : UInt8 := 0x01

def dupDcbxTlvPg : UInt8 := 0x02

def dupDcbxTlvPfc : UInt8 := 0x04

def dupDcbxTlvApp : UInt8 := 0x10

def dupDcbxTlvLlink : UInt8 := 0x20

def tooManyNghbrs : UInt8 := 0x40

/-- `x & bit` as a condition -/
def hasFlag (x bit : UInt8) : Bool := x &&& bit != 0

/-- `x |= bit` where `b` holds, `x &= ~bit` elsewhere -/
def putFlag (x bit : UInt8) (b : Bool) : UInt8 := if b then x ||| bit else x &&& ~~~bit

/-- `x |= bit` where `b` holds -/
def orFlag (x bit : UInt8) (b : Bool) : UInt8 := if b then x ||| bit else x

/-! ### State variables -/

/-- `struct feature_protocol_attribs` -/
structure FeatureProtocolAttribs where
  enable : Bool := false
  willing : Bool := false
  advertise : Bool := false
  advertisePrev : Bool := false
  operMode : Bool := false
  peerWilling : Bool := false
  error : Bool := false
  syncd : Bool := false
  operVersion : Nat := 0
  maxVersion : Nat := 0
  featureSeqNo : UInt32 := 0
  tlvPresent : Bool := false
  tlvSent : Bool := false
  forceSend : Bool := false
  dcbxSt : Nat := 0
  state : DcbState := .closed
  errorFlag : UInt8 := 0
  deriving DecidableEq, Repr

/-- `struct control_protocol_attribs` -/
structure ControlProtocolAttribs where
  operVersion : Nat := 0
  maxVersion : Nat := 0
  seqNo : UInt32 := 0
  ackNo : UInt32 := 0
  myAckNo : UInt32 := 0
  rxDcbTlvState : PeerDcbTlvState := .none
  state : DcbState := .closed
  errorFlag : UInt8 := 0
  deriving DecidableEq, Repr

/-! ### Configurations -/

scoped instance neZeroThree : NeZero 3 := ⟨by decide⟩

scoped instance neZeroEight : NeZero 8 := ⟨by decide⟩

/-- Two arrays are equal when all their entries are. -/
instance decidableEqEight {α : Type} [DecidableEq α] : DecidableEq (Fin 8 → α) := fun _ _ =>
  decidable_of_iff _ funext_iff.symm

/-- `struct dcb_user_priority_attribs` -/
structure UserPriorityAttribs where
  pgid : UInt8 := 0
  bwgid : UInt8 := 0
  percentOfPgCap : UInt8 := 0
  strictPriority : StrictPriority := .none
  deriving DecidableEq

/-- `struct dcb_traffic_attribs` -/
structure TrafficAttribs where
  pgPercent : Fin 8 → UInt8 := fun _ => 0
  up : Fin 8 → UserPriorityAttribs := fun _ => {}
  deriving DecidableEq

/-- What `struct pg_attribs` adds to the protocol variables. -/
structure PgConfig where
  tx : TrafficAttribs := {}
  rx : TrafficAttribs := {}
  numTcs : Nat := 0
  deriving DecidableEq

/-- What `struct pfc_attribs` adds to the protocol variables. -/
structure PfcConfig where
  admin : Fin 8 → PfcType := fun _ => .disabled
  numTcs : Nat := 0
  deriving DecidableEq

/-- What `struct app_attribs` adds to the protocol variables. `AppData` is zero behind the
bytes of `appData`. -/
structure AppConfig where
  length : Nat := 0
  appData : Bytes := []
  deriving DecidableEq

/-- `struct llink_cfg` -/
structure LlinkConfig where
  llinkStatus : UInt8 := 0
  deriving DecidableEq

/-- The first `n` bytes of an array that is zero behind the bytes given -/
def takeBytes (n : Nat) (data : Bytes) : Bytes :=
  data.take n ++ List.replicate (n - data.length) 0

/-- `memcpy` of `n` bytes to the start of an array -/
def copyBytes (n : Nat) (src dst : Bytes) : Bytes := takeBytes n src ++ dst.drop n

/-- `memcmp` of two arrays that are zero behind the bytes given -/
def sameBytes (a b : Bytes) : Bool :=
  takeBytes (max a.length b.length) a = takeBytes (max a.length b.length) b

/-! ### Stores -/

/-- `struct pg_attribs` and its siblings -/
structure Attribs (C : Type) where
  protocol : FeatureProtocolAttribs := {}
  config : C
  deriving DecidableEq

/-- The three stores of a feature, and what the driver was asked to set for it: the
configuration, with `OperMode` where the driver reads it. -/
structure Stores (C : Type) where
  loc : Attribs C
  peer : Attribs C
  oper : Attribs C
  hw : List (C × Option Bool) := []
  deriving DecidableEq

namespace Stores

variable {C : Type}

/-- `feat_prot`, the protocol variables of the local store -/
abbrev feat (v : Stores C) : FeatureProtocolAttribs := v.loc.protocol

/-- `peer_feat_prot`, the protocol variables of the peer's store -/
abbrev peerFeat (v : Stores C) : FeatureProtocolAttribs := v.peer.protocol

/-- The stores with other local protocol variables. -/
def withFeat (v : Stores C) (p : FeatureProtocolAttribs) : Stores C :=
  { v with loc := { v.loc with protocol := p } }

@[simp] theorem withFeat_peer (v : Stores C) (p : FeatureProtocolAttribs) :
    (v.withFeat p).peer = v.peer := rfl

end Stores

end Lldpad.Dcbx
