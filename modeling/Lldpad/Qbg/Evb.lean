import Lldpad.Lib.CString
import Lldpad.Lib.Transition
import Lldpad.Lldp.Types

/-!
# `Lldpad.Qbg.Evb`: the EVB TLV of draft 0.2

`lldp_evb.c` and the settings of `lldp_evb_cmds.c`, for the one agent that they serve. The module
keeps three TLVs: the policy, the one received last, and the one that is sent (`tie`), which
`evb_update_tlv` brings up to date from the other two.

The TLV received last is kept as its bytes: a shorter TLV overwrites only the first of them. A
longer one would be written behind them and stops the program.

`vdp_vsis`, what the configuration says and whether VDP can be started are data of the events.
`EvbState.neighbour` and `EvbState.start` are ghosts: the TLV that the present neighbour sent
last, and the policy that the module started with.
-/

namespace Lldpad.Qbg.Evb

open Lldpad.Lib
open Lldpad.Lldp (Bytes)

/-! ### Constants -/

/-- `LLDP_EVB_CAPABILITY_FORWARD_STANDARD` -/
def forwardStandard : UInt8 := 0x80

/-- `LLDP_EVB_CAPABILITY_FORWARD_REFLECTIVE_RELAY` -/
def forwardReflectiveRelay : UInt8 := 0x40

/-- `LLDP_EVB_CAPABILITY_PROTOCOL_RTE` -/
def protocolRte : UInt8 := 0x04

/-- `LLDP_EVB_CAPABILITY_PROTOCOL_ECP` -/
def protocolEcp : UInt8 := 0x02

/-- `LLDP_EVB_CAPABILITY_PROTOCOL_VDP` -/
def protocolVdp : UInt8 := 0x01

/-- `LLDP_EVB_DEFAULT_MAX_RTE` -/
def defaultMaxRte : Int := 31

/-- `LLDP_EVB_DEFAULT_MAX_VSI` -/
def defaultMaxVsi : Int := 65535

/-- `sizeof(struct tlv_info_evb)` -/
def tlvInfoEvbSz : Nat := 13

/-- `LLDP_OUI_SUBTYPE` -/
def ouiSubtype : Bytes := [0x00, 0x1b, 0x3f, 0x00]

/-! ### Data -/

/-- `struct tlv_info_evb` without its OUI and subtype. Numbers are in host order. -/
structure TlvInfoEvb where
  smode : UInt8 := 0
  scap : UInt8 := 0
  cmode : UInt8 := 0
  ccap : UInt8 := 0
  svsi : UInt16 := 0
  cvsi : UInt16 := 0
  rte : UInt8 := 0
  deriving DecidableEq

/-- `struct evb_data` -/
structure EvbData where
  txmit : Bool
  vdpStart : Bool := false
  tie : TlvInfoEvb := {}
  last : Bytes := List.replicate tlvInfoEvbSz 0
  policy : TlvInfoEvb := {}
  deriving DecidableEq

/-- The fields that are read of the information of a TLV -/
def smodeOf (info : Bytes) : UInt8 := info.getD 4 0
def scapOf (info : Bytes) : UInt8 := info.getD 5 0
def rteOf (info : Bytes) : UInt8 := info.getD 12 0

/-! ### The TLV that is sent -/

/-- A capability that both sides support is configured, any other one is not. -/
def configure (bit recv policy ccap : UInt8) : UInt8 :=
  if recv &&& policy &&& bit ≠ 0 then ccap ||| bit else ccap &&& ~~~bit

/-- `evb_update_tlv`, where `vsis` is what `vdp_vsis` says -/
def evbUpdateTlv (vsis : Nat) (ed : EvbData) : EvbData :=
  let smode := smodeOf ed.last
  let scap := scapOf ed.last
  let rte := rteOf ed.last
  if smode &&& (forwardStandard ||| forwardReflectiveRelay) = 0 then ed
  else
    let cmode :=
      if smode &&& ed.policy.smode &&& forwardReflectiveRelay ≠ 0 then forwardReflectiveRelay
      else forwardStandard
    let ccap := configure protocolRte scap ed.policy.scap ed.tie.ccap
    let tieRte :=
      if ed.tie.scap &&& protocolRte ≠ 0 ∧ rte > 0 ∧ ed.policy.rte > 0 then
        max ed.policy.rte rte
      else ed.tie.rte
    let ccap := configure protocolEcp scap ed.policy.scap ccap
    let ccap := configure protocolVdp scap ed.policy.scap ccap
    let vdp := scap &&& ed.policy.scap &&& protocolVdp ≠ 0
    { ed with
      tie := { ed.tie with
        cmode := cmode
        ccap := ccap
        rte := tieRte
        cvsi := if vdp then UInt16.ofNat vsis else 0
        svsi := if vdp then ed.policy.svsi else 0 } }

def evbBuildTlv (vsis : Nat) (ed : EvbData) : EvbData × Option TlvInfoEvb :=
  if ed.txmit then
    let ed := evbUpdateTlv vsis ed
    (ed, some ed.tie)
  else (ed, none)

/-- What `evb_conf_enabletx`, `evb_conf_fmode` and so on make of the configuration -/
structure EvbConf where
  enabletx : Bool
  fmode : UInt8
  capa : UInt8
  rte : UInt8
  vsis : UInt16
  deriving DecidableEq

/-- The policy that the configuration asks for -/
def EvbConf.policy (conf : EvbConf) : TlvInfoEvb :=
  { smode := conf.fmode, scap := conf.capa, rte := conf.rte, svsi := conf.vsis }

/-- `evb_init_tlv`. The neighbour is taken to know both forwarding modes. -/
def evbInitTlv (conf : EvbConf) (vsis : Nat) : EvbData :=
  evbUpdateTlv vsis
    { txmit := conf.enabletx
      policy := conf.policy
      tie := { smode := conf.fmode, scap := conf.capa, svsi := conf.vsis, rte := conf.rte }
      last := (List.replicate tlvInfoEvbSz 0).set 4 (forwardStandard ||| forwardReflectiveRelay) }

/-! ### The settings

The answer is the data after the command, or `none` when it is refused. -/

/-- `!strcasecmp(...)` -/
def sameText (s : CStr) (t : String) : Bool := s.map Char.toLower == t.toList.map Char.toLower

/-- `_set_arg_tlvtxenable`, with the test that comes before it: `evb22` is that the TLV of the
ratified standard is enabled. -/
def setArgTlvtxenable (argvalue : CStr) (evb22 : Bool) (vsis : Nat) (ed : EvbData) :
    Option EvbData :=
  if sameText argvalue "yes" then
    if evb22 ∨ vsis ≠ 0 then none else some { ed with txmit := true }
  else if sameText argvalue "no" then
    if vsis ≠ 0 then none else some { ed with txmit := false }
  else none

def setArgFmode (argvalue : CStr) (vsis : Nat) (ed : EvbData) : Option EvbData :=
  let smode :=
    if sameText argvalue "reflectiverelay" then forwardReflectiveRelay
    else if sameText argvalue "bridge" then forwardStandard
    else 0
  if smode = 0 ∨ vsis ≠ 0 then none
  else some { ed with policy := { ed.policy with smode := smode } }

/-- `check_capabilities`, over the words of the argument -/
def checkCapabilities : List CStr → UInt8 → Option UInt8
  | [], scap => some scap
  | cp :: cps, scap =>
    if sameText cp "rte" then checkCapabilities cps (scap ||| protocolRte)
    else if sameText cp "ecp" then checkCapabilities cps (scap ||| protocolEcp)
    else if sameText cp "vdp" then checkCapabilities cps (scap ||| protocolVdp)
    else if sameText cp "none" then if scap ≠ 0 then none else some scap
    else none

/-- `_set_arg_capabilities`. The words are separated by commas and blanks. -/
def setArgCapabilities (argvalue : CStr) (vsis : Nat) (ed : EvbData) : Option EvbData :=
  let words := (tokens ' ' (argvalue.map fun c => if c = ',' then ' ' else c)).map (·.text)
  match checkCapabilities words 0 with
  | none => none
  | some scap =>
    if vsis ≠ 0 then none else some { ed with policy := { ed.policy with scap := scap } }

def setArgRte (argvalue : CStr) (vsis : Nat) (ed : EvbData) : Option EvbData :=
  let value := atoi argvalue
  if value < 0 ∨ value > defaultMaxRte ∨ vsis ≠ 0 then none
  else some { ed with policy := { ed.policy with rte := UInt8.ofNat value.toNat } }

def setArgVsis (argvalue : CStr) (vsis : Nat) (ed : EvbData) : Option EvbData :=
  let value := atoi argvalue
  if value < 0 ∨ value > defaultMaxVsi ∨ vsis ≠ 0 then none
  else some { ed with policy := { ed.policy with svsi := UInt16.ofNat value.toNat } }

/-- The commands -/
inductive EvbSetting where
  | tlvtxenable (evb22 : Bool)
  | fmode
  | capabilities
  | rte
  | vsis
  deriving DecidableEq

/-- The handler of a command -/
def EvbSetting.handle : EvbSetting → CStr → Nat → EvbData → Option EvbData
  | .tlvtxenable evb22 => fun argvalue => setArgTlvtxenable argvalue evb22
  | .fmode => setArgFmode
  | .capabilities => setArgCapabilities
  | .rte => setArgRte
  | .vsis => setArgVsis

/-! ### The module in time -/

/-- The data of the module, and the `vdpbit_on` of VDP, if there is a `struct vdp_data` -/
structure EvbState where
  ed : EvbData
  vdp : Option Bool := none
  /-- the TLV that the present neighbour sent last -/
  neighbour : Option Bytes := none
  /-- the policy of the start -/
  start : TlvInfoEvb
  deriving DecidableEq

def vdpUpdate (ccap : UInt8) (vdp : Option Bool) : Option Bool :=
  vdp.map fun _ => ccap &&& protocolVdp ≠ 0

/-- `evb_rchange`, for an organizationally specific TLV -/
def evbRchange (info : Bytes) (vsis : Nat) (s : EvbState) : Except Fault EvbState :=
  if info.length < ouiSubtype.length ∨ info.take ouiSubtype.length ≠ ouiSubtype then .ok s
  else if s.ed.txmit = false then .ok { s with neighbour := some info }
  else if info.length > tlvInfoEvbSz then .error .outOfBounds
  else
    let ed := evbUpdateTlv vsis { s.ed with last := info ++ s.ed.last.drop info.length }
    .ok { s with ed := ed, neighbour := some info, vdp := vdpUpdate ed.tie.ccap s.vdp }

def evbMibdelete (s : EvbState) : EvbState :=
  { s with
    ed := { s.ed with last := List.replicate tlvInfoEvbSz 0 }
    neighbour := none
    vdp := vdpUpdate 0 s.vdp }

/-- `evb_timer`; `started` is that there is a `struct vdp_data` after `vdp_ifup`. -/
def evbTimer (dormantDelay : Nat) (started : Bool) (s : EvbState) : EvbState :=
  let bits := protocolEcp ||| protocolVdp
  if s.ed.vdpStart = false ∧ (dormantDelay = 1 ∨ bits &&& s.ed.tie.ccap = bits) then
    { s with
      ed := { s.ed with vdpStart := true }
      vdp := vdpUpdate s.ed.tie.ccap (if started then some (s.vdp.getD false) else none) }
  else s

/-- What happens to the module -/
inductive EvbEvent where
  | set (setting : EvbSetting) (argvalue : CStr) (vsis : Nat)
  | rchange (info : Bytes) (vsis : Nat)
  | mibdelete
  | timer (dormantDelay : Nat) (started : Bool)
  | gettlv (vsis : Nat)
  deriving DecidableEq

/-- One event -/
def EvbState.step (s : EvbState) : EvbEvent → Except Fault EvbState
  | .set setting argvalue vsis =>
    match setting.handle argvalue vsis s.ed with
    | none => .ok s
    | some ed => .ok { s with ed := ed }
  | .rchange info vsis => evbRchange info vsis s
  | .mibdelete => .ok (evbMibdelete s)
  | .timer dormantDelay started => .ok (evbTimer dormantDelay started s)
  | .gettlv vsis => .ok { s with ed := (evbBuildTlv vsis s.ed).1 }

/-- The module of an interface that came up, `evb_ifup` -/
def evbSystem : System EvbState EvbEvent where
  init s := ∃ conf vsis, s = { ed := evbInitTlv conf vsis, start := conf.policy }
  step := EvbState.step

end Lldpad.Qbg.Evb
