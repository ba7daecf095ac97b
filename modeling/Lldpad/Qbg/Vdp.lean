import Lldpad.Lib.Keyed
import Lldpad.Qbg.Ecp
import Lldpad.Qbg.Vdp22

/-!
# `Lldpad.Qbg.Vdp`: the profiles of the draft 0.2 VDP

`struct vsi_profile` of `include/qbg_vdp.h`, and the functions of `qbg/vdp.c` that look at one
or two profiles. `VsiProfile` are the fields that the transmit side of ECP uses. `VdpProfile`
adds those of VDP.

`entries` is the length of the list of MAC/VLAN pairs, as an `unsigned short`. An `int` that is
only compared and cut off is a word of 32 bits.
-/

namespace Lldpad.Qbg

open Lldpad.Lib

/-! ### Constants -/

def vdpModePreassociate : UInt32 := 0

def vdpModePreassociateWithRr : UInt32 := 1

def vdpModeAssociate : UInt32 := 2

def vdpModeDeassociate : UInt32 := 3

def vdpResponseSuccess : UInt8 := 0

def vdpResponseOutOfSync : UInt8 := 6

def vdpResponseNoResponse : UInt8 := 0xff

def vdpFilterInfoFormatMacvid : UInt8 := 2

/-- `VDP_KEEPALIVE_TIMER_DEFAULT`, in microseconds -/
def vdpKeepaliveTimerDefault : Int := 10000000

def vdpAckTimerDefault : Int := 2 * ecpAckTimerDefault * ecpMaxRetries

def vdpKeepaliveTimerStopped : Int := -1

/-! ### Profiles -/

/-- `struct mac_vlan` -/
structure MacVlan where
  mac : MacAddr := .zero
  vlan : UInt16 := 0
  qos : UInt8 := 0
  reqPid : Int := 0
  reqSeq : UInt64 := 0
  deriving DecidableEq

/-- The states of a profile. -/
inductive VsiState where
  | unassociated
  | assocProcessing
  | associated
  | preassocProcessing
  | preassociated
  | deassocProcessing
  | exit
  deriving DecidableEq, Repr

/-- `struct vsi_profile` -/
structure VdpProfile extends VsiProfile where
  mode : UInt32 := 0
  response : UInt8 := 0
  noNlmsg : Bool := false
  mgrid : UInt8 := 0
  id : UInt32 := 0
  version : UInt8 := 0
  /-- `instance` -/
  instanceId : Octets 16 := .zero 16
  format : UInt8 := 0
  /-- `macvid_head` -/
  macvid : List MacVlan := []
  ackTimer : Int := 0
  keepaliveTimer : Int := 0
  state : VsiState := .unassociated
  remoteChange : Bool := false
  deriving DecidableEq

namespace VdpProfile

def entries (p : VdpProfile) : UInt16 := UInt16.ofNat p.macvid.length

end VdpProfile

def vdpProfileEqual (p1 p2 : VdpProfile) : Bool :=
  p1.mgrid == p2.mgrid && p1.id == p2.id && p1.version == p2.version &&
    p1.instanceId == p2.instanceId

def vdpVsiNegativeResponse (p : VdpProfile) : Bool := 0 < p.response && p.response < 255

def vdpAckTimerExpired (p : VdpProfile) : Bool := p.ackTimer == 0

def vdpKeepaliveTimerExpired (p : VdpProfile) : Bool := p.keepaliveTimer == 0

/-- What `vdp_macvlan_equal` compares -/
def MacVlan.pair (mv : MacVlan) : MacAddr × UInt16 := (mv.mac, mv.vlan)

def haveMacvlan (macvid : List MacVlan) (new : MacVlan) : List MacVlan :=
  (modifyKey MacVlan.pair new.pair
    (fun mv => { mv with reqPid := new.reqPid, reqSeq := new.reqSeq, qos := new.qos }) macvid).getD
    (new :: macvid)

/-- `vdp_takeover_macvlans`: the list of the first profile, with the pairs of the second one -/
def vdpTakeoverMacvlans (macvid new : List MacVlan) : List MacVlan := new.foldl haveMacvlan macvid

end Lldpad.Qbg
