import Lldpad.Lib.Hex
import Lldpad.Qbg.Vdp22

/-!
# `Lldpad.Qbg.Vdpnl`: an association request by netlink

`qbg/vdpnl.c`: `vdpnl_setlink` reads a SETLINK message and makes a request of VDP, and
`vdpnl_getlink` first reads the interface of a GETLINK message.

The functions of libnl that read a message are a parameter, with what is documented of them:
`Libnl.Lawful`. The host is little-endian. A name is taken up to its NUL or the end of its attribute.
Log messages are left out.
-/

namespace Lldpad.Qbg

open Lldpad.Lib
open Lldpad.Lldp (Bytes)

/-! ### Attributes -/

/-- `struct nlattr`, with what follows it -/
structure Nlattr where
  type : Nat
  payload : Bytes
  deriving DecidableEq, Repr

/-- A number of `n` bytes at offset `i`, the lowest byte first -/
def leNat (b : Bytes) (i n : Nat) : Nat := beNat ((b.drop i).take n).reverse

/-- `NLA_UNSPEC`, `NLA_U8`, `NLA_U16`, `NLA_U32`, `NLA_STRING` -/
inductive NlaType where
  | unspec
  | u8
  | u16
  | u32
  | string
  deriving DecidableEq

/-- `struct nla_policy` -/
structure NlaPolicy where
  type : NlaType := .unspec
  minlen : Nat := 0
  maxlen : Nat := 0

/-- The least length of a payload: `minlen`, or that of the type -/
def NlaPolicy.least (pt : NlaPolicy) : Nat :=
  if pt.minlen ≠ 0 then pt.minlen
  else
    match pt.type with
    | .unspec => 0
    | .u8 | .string => 1
    | .u16 => 2
    | .u32 => 4

/-- A filled table: the payload of the attribute of a type -/
abbrev NlaTable := Nat → Option Bytes

/-- What `nla_parse` does to a table: the entries that it writes, and what is in them unless it
refuses the attributes -/
structure NlaParsed where
  written : List Nat
  table : Option NlaTable

/-- A table of `size` entries is passed to `nla_parse`. -/
def NlaParsed.into (size : Nat) (r : NlaParsed) : Except Fault (Option NlaTable) :=
  if r.written.all (· < size) then .ok r.table else .error .outOfBounds

/-! ### Messages -/

/-- `RTM_SETLINK`, `RTM_GETLINK`, or another type -/
inductive NlmsgType where
  | setlink
  | getlink
  | other
  deriving DecidableEq, Repr

/-- A netlink message: what its `struct nlmsghdr` says, and the bytes behind it -/
structure Nlmsg where
  type : NlmsgType
  pid : Int
  seq : UInt64
  payload : Bytes
  deriving DecidableEq

/-- `sizeof(struct ifinfomsg)` -/
def sizeofIfinfomsg : Nat := 16

/-- `ifi_index` -/
def Nlmsg.ifindex (m : Nlmsg) : Nat := leNat m.payload 4 4

/-- The functions of libnl that read a message. `attrs` is what `nla_for_each_nested` goes through,
`nlaParse` has the largest type, the policies and the attributes, `nlmsgParse` first has the length
of the header, and `nlaStrlcpy` has an attribute and the size of a buffer. -/
structure Libnl where
  attrs : Bytes → List Nlattr
  nlaParse : Nat → (Nat → NlaPolicy) → Bytes → NlaParsed
  nlmsgParse : Nat → Nat → (Nat → NlaPolicy) → Nlmsg → NlaParsed
  nlaStrlcpy : Bytes → Nat → Bytes

/-- The table is cleared and filled from 0 to `max`, and the policies are applied. -/
def NlaParsed.Fills (max : Nat) (policy : Nat → NlaPolicy) (r : NlaParsed) : Prop :=
  (∀ i, i ∈ r.written ↔ i ≤ max) ∧
    ∀ tb, r.table = some tb → ∀ i payload, tb i = some payload → (policy i).least ≤ payload.length

/-- What is documented of these functions -/
structure Libnl.Lawful (nl : Libnl) : Prop where
  nlaParse : ∀ max policy b, (nl.nlaParse max policy b).Fills max policy
  nlmsgParse : ∀ {hdrlen m} max policy, hdrlen ≤ m.payload.length →
    (nl.nlmsgParse hdrlen max policy m).Fills max policy
  nlmsgShort : ∀ {hdrlen m} max policy, m.payload.length < hdrlen →
    nl.nlmsgParse hdrlen max policy m = { written := [], table := none }

/-! ### Constants -/

/-- `IFLA_IFNAME`, `IFLA_VFINFO_LIST`, `IFLA_VF_PORTS`, `IFLA_MAX` -/
def iflaIfname : Nat := 3
def iflaVfinfoList : Nat := 22
def iflaVfPorts : Nat := 24
def iflaMax : Nat := 33

/-- `IFLA_VF_INFO`, and in it `IFLA_VF_MAC`, `IFLA_VF_VLAN`, `IFLA_VF_MAX` -/
def iflaVfInfo : Nat := 1
def iflaVfMac : Nat := 1
def iflaVfVlan : Nat := 2
def iflaVfMax : Nat := 3

/-- `IFLA_VF_PORT`, and in it `IFLA_PORT_VF` to `IFLA_PORT_RESPONSE`, which is `IFLA_PORT_MAX` -/
def iflaVfPort : Nat := 1
def iflaPortVf : Nat := 1
def iflaPortProfile : Nat := 2
def iflaPortVsiType : Nat := 3
def iflaPortInstanceUuid : Nat := 4
def iflaPortHostUuid : Nat := 5
def iflaPortRequest : Nat := 6
def iflaPortResponse : Nat := 7
def iflaPortMax : Nat := 7

/-- The sizes of `struct ifla_vf_mac`, `struct ifla_vf_vlan` and `struct ifla_port_vsi` -/
def iflaVfPolicy (type : Nat) : NlaPolicy :=
  if type = iflaVfMac then { minlen := 36, maxlen := 36 }
  else if type = iflaVfVlan then { minlen := 12, maxlen := 12 }
  else {}

def iflaPortPolicy (type : Nat) : NlaPolicy :=
  if type = iflaPortVf then { type := .u32 }
  else if type = iflaPortProfile then { type := .string }
  else if type = iflaPortVsiType then { minlen := 8 }
  else if type = iflaPortInstanceUuid ∨ type = iflaPortHostUuid then { minlen := 16, maxlen := 16 }
  else if type = iflaPortRequest then { type := .u8 }
  else if type = iflaPortResponse then { type := .u16 }
  else {}

/-- `pc_max`: `IFNAMSIZ` is 16. -/
def pcMax (type : Nat) : NlaPolicy :=
  if type = iflaIfname then { type := .string, minlen := 1, maxlen := 17 } else {}

def noPolicy (_ : Nat) : NlaPolicy := {}

/-- A request of VDP, with its interface -/
structure VdpnlRequest where
  ifname : Bytes
  ifindex : Nat
  vsi : VdpnlVsi
  deriving DecidableEq

/-! ### SETLINK -/

/-- `n` bytes at offset `i` -/
def octetsAt (n : Nat) (b : Bytes) (i : Nat) : Octets n where
  bytes := (b.drop i ++ List.replicate n 0).take n
  length_eq := by
    rw [List.length_take, List.length_append, List.length_replicate]
    omega

def macAt (b : Bytes) (i : Nat) : MacAddr :=
  ⟨(octetsAt Lldp.ethAlen b i).bytes, (octetsAt Lldp.ethAlen b i).length_eq⟩

/-- `*vsi->maclist` is written. -/
def VdpnlVsi.onMac (vsi : VdpnlVsi) (f : VdpnlMac → VdpnlMac) : VdpnlVsi :=
  { vsi with maclist := vsi.maclist.modifyHead f }

/-- What is written into the VSI if there is an attribute, of which `n` bytes are read -/
def onAttr (attr : Option Bytes) (n : Nat) (write : Bytes → VdpnlVsi → VdpnlVsi) (vsi : VdpnlVsi) :
    Except Fault VdpnlVsi :=
  match attr with
  | none => .ok vsi
  | some b => if b.length < n then .error .outOfBounds else .ok (write b vsi)

/-- A loop over attributes. The first pass that returns an error ends it. -/
def nlaForEach (pass : VdpnlVsi → Nlattr → Except Fault (Option VdpnlVsi)) (vsi : VdpnlVsi) :
    List Nlattr → Except Fault (Option VdpnlVsi)
  | [] => .ok (some vsi)
  | a :: rest => do
    match ← pass vsi a with
    | none => pure none
    | some vsi => nlaForEach pass vsi rest

/-- From `struct ifla_vf_mac` -/
def takeMac (mac : Bytes) (vsi : VdpnlVsi) : VdpnlVsi :=
  vsi.onMac fun e => { e with mac := macAt mac 4 }

/-- From `struct ifla_vf_vlan` -/
def takeVlan (vlan : Bytes) (vsi : VdpnlVsi) : VdpnlVsi :=
  vsi.onMac fun e =>
    { e with vlan := UInt16.ofNat (leNat vlan 4 4), qos := UInt8.ofNat (leNat vlan 8 4) }

/-- From `struct ifla_port_vsi` -/
def takeVsiType (pvsi : Bytes) (vsi : VdpnlVsi) : VdpnlVsi :=
  { vsi with
    vsiMgrid := pvsi.getD 0 0
    vsiTypeversion := pvsi.getD 4 0
    vsiTypeid := UInt64.ofNat (leNat pvsi 1 3) }

def takeUuid (uuid : Bytes) (vsi : VdpnlVsi) : VdpnlVsi := { vsi with vsiUuid := octetsAt 16 uuid 0 }

def takeRequest (request : Bytes) (vsi : VdpnlVsi) : VdpnlVsi :=
  { vsi with request := request.getD 0 0 }

def takeResponse (response : Bytes) (vsi : VdpnlVsi) : VdpnlVsi :=
  { vsi with response := UInt16.ofNat (leNat response 0 2) }

section

variable (nl : Libnl)

/-- One pass of the loop of `vdpnl_vfinfolist` -/
def vfinfoPass (vsi : VdpnlVsi) (le1 : Nlattr) : Except Fault (Option VdpnlVsi) :=
  if le1.type ≠ iflaVfInfo then .ok none
  else do
    match ← (nl.nlaParse iflaVfMax iflaVfPolicy le1.payload).into (iflaVfMax + 1) with
    | none => pure none
    | some vf =>
      let vsi ← onAttr (vf iflaVfMac) 10 takeMac vsi
      let vsi ← onAttr (vf iflaVfVlan) 12 takeVlan vsi
      let haveMac := (vf iflaVfMac).isSome
      let haveVid := (vf iflaVfVlan).isSome
      if haveVid && haveMac then pure (some { vsi with filterFmt := vdp22FfmtMacvid })
      else if haveVid then pure (some { vsi with filterFmt := vdp22FfmtVid })
      else pure none

def vdpnlVfinfolist (vfinfolist : Option Bytes) (vsi : VdpnlVsi) :
    Except Fault (Option VdpnlVsi) :=
  match vfinfolist with
  | none => .ok none
  | some b => nlaForEach (vfinfoPass nl) vsi (nl.attrs b)

/-- One pass of the loop of `vdpnl_vfports`. What is no port is skipped. -/
def vfportPass (vsi : VdpnlVsi) (tbVfPorts : Nlattr) : Except Fault (Option VdpnlVsi) :=
  if tbVfPorts.type ≠ iflaVfPort then .ok (some vsi)
  else do
    match ← (nl.nlaParse iflaPortMax iflaPortPolicy tbVfPorts.payload).into (iflaPortMax + 1) with
    | none => pure none
    | some tb3 =>
      let vsi ← onAttr (tb3 iflaPortVsiType) 5 takeVsiType vsi
      let vsi ← onAttr (tb3 iflaPortInstanceUuid) 16 takeUuid vsi
      let vsi ← onAttr (tb3 iflaPortRequest) 1 takeRequest vsi
      let vsi ← onAttr (tb3 iflaPortResponse) 2 takeResponse vsi
      pure (some vsi)

def vdpnlVfports (vfports : Option Bytes) (vsi : VdpnlVsi) : Except Fault (Option VdpnlVsi) :=
  match vfports with
  | none => .ok none
  | some b => nlaForEach (vfportPass nl) vsi (nl.attrs b)

/-- `sizeof vsi->ifname` -/
def sizeofIfname : Nat := 17

/-- The name of the interface in `vdpnl_set`: that of the message, or what `if_indextoname` says -/
def setIfname (names : Nat → Option Bytes) (m : Nlmsg) (tb : NlaTable) : Option Bytes :=
  match tb iflaIfname with
  | some name => some ((name.takeWhile (· ≠ 0)).take sizeofIfname)
  | none => names m.ifindex

/-- `vdpnl_set`, into the VSI that `vdpnl_setlink` passes. There is no request when it returns an
error. -/
def vdpnlSet (names : Nat → Option Bytes) (m : Nlmsg) (vsi : VdpnlVsi) :
    Except Fault (Option VdpnlRequest) := do
  match ← (nl.nlmsgParse sizeofIfinfomsg iflaMax noPolicy m).into (iflaMax + 1) with
  | none => pure none
  | some tb =>
    match setIfname names m tb with
    | none => pure none
    | some ifname =>
      let vsi := { vsi with reqPid := m.pid, reqSeq := m.seq }
      match ← vdpnlVfinfolist nl (tb iflaVfinfoList) vsi with
      | none => pure none
      | some vsi =>
        match ← vdpnlVfports nl (tb iflaVfPorts) vsi with
        | none => pure none
        | some vsi => pure (some { ifname := ifname, ifindex := m.ifindex, vsi := vsi })

/-- `vdpnl_setlink`, up to the call of `vdp22_request` or `vdp_request`: there is one entry for a
MAC/VLAN pair. -/
def vdpnlSetlink (names : Nat → Option Bytes) (m : Nlmsg) : Except Fault (Option VdpnlRequest) :=
  vdpnlSet nl names m { vsiIdfmt := vdp22IdUuid, maclist := [{}] }

/-! ### GETLINK -/

def vdpnlIfname (names : Nat → Option Bytes) (m : Nlmsg) (tb : Option Bytes) : Option Bytes :=
  match tb with
  | some name => some (nl.nlaStrlcpy name sizeofIfname)
  | none => names m.ifindex

/-- `vdpnl_get`. The table has `IFLA_MAX + 1` entries, and this is also passed as the largest
type. -/
def vdpnlGet (names : Nat → Option Bytes) (m : Nlmsg) : Except Fault (Option Bytes) := do
  match ← (nl.nlaParse (iflaMax + 1) pcMax (m.payload.drop sizeofIfinfomsg)).into (iflaMax + 1)
  with
  | none => pure none
  | some tb => pure (vdpnlIfname nl names m (tb iflaIfname))

end

end Lldpad.Qbg
