import Lldpad.Lib.Transition
import Lldpad.Lldp.Tx
import Lldpad.Tlv.Pack

/-!
# `Lldpad.Lldp.Mand`: the mandatory TLVs

`lldp_mand.c`: the chassis ID, the port ID and the time to live, which are kept for an agent of an
interface and rebuilt under different conditions, and the hook that packs them.

What the system and the configuration answer to a build is data of the build (`Lookups`), and so
is what the shared memory has for the interface. Memory does not run out, but no block is larger
than half of the address space. A record of the shared memory that is larger than the struct it
is copied to stops the program.

The End TLV is built, but never sent.
-/

namespace Lldpad.Mand

open Lldpad.Lib
open Lldpad.Lldp (Bytes AgentType LldpModule Env)
open Lldpad.Tlv (UnpackedTlv PackedTlv packTlvAfter htons)

/-! ### Constants -/

/-- `CHASSIS_ID_TLV`, `PORT_ID_TLV`, `TIME_TO_LIVE_TLV` -/
def chassisIdTlv : UInt8 := 1
def portIdTlv : UInt8 := 2
def timeToLiveTlv : UInt8 := 3

/-- `CHASSIS_ID_MAC_ADDRESS`, `CHASSIS_ID_NETWORK_ADDRESS`, `CHASSIS_ID_INTERFACE_NAME` -/
def chassisIdMacAddress : UInt8 := 4
def chassisIdNetworkAddress : UInt8 := 5
def chassisIdInterfaceName : UInt8 := 6

/-- `PORT_ID_MAC_ADDRESS`, `PORT_ID_NETWORK_ADDRESS`, `PORT_ID_INTERFACE_NAME` -/
def portIdMacAddress : UInt8 := 3
def portIdNetworkAddress : UInt8 := 4
def portIdInterfaceName : UInt8 := 5

/-- `MANADDR_IPV4`, `MANADDR_IPV6` -/
def manaddrIpv4 : UInt8 := 1
def manaddrIpv6 : UInt8 := 2

/-- `sizeof(struct tlv_info_chassis)`, which is that of `struct tlv_info_portid` -/
def sizeofInfo : Nat := 256

/-! ### Data -/

/-- The name of an interface: `IFNAMSIZ` is 16. -/
structure IfName where
  name : Bytes
  pos : 0 < name.length
  lt : name.length < 16
  deriving DecidableEq

/-- A chassis ID or a port ID: the subtype, and the identifier behind it -/
structure Ident where
  info : Bytes
  pos : 0 < info.length
  le : info.length ≤ sizeofInfo
  deriving DecidableEq

/-- `struct mand_data`, for one agent. The TLVs have their information only. -/
structure MandData where
  ifname : IfName
  chassis : Option Ident := none
  portid : Option Ident := none
  ttl : Option UInt16 := none
  rebuildChassis : Bool := false
  rebuildPortid : Bool := false
  readShm : Bool := false
  deriving DecidableEq

/-- What a build is told -/
structure Lookups where
  /-- `port_find_by_ifindex` finds the port. -/
  port : Bool
  /-- the chassis ID and the port ID in the shared memory; empty when it has none -/
  shmChassis : Bytes
  shmPortid : Bytes
  /-- `is_tlv_txenabled` of LLDP-MED -/
  medTx : Bool
  /-- `get_med_devtype` -/
  devtype : Int
  /-- the subtypes in the configuration, 0 when there is none -/
  chassisSubtype : Int
  portidSubtype : Int
  /-- `get_mac`, which leaves zeros when it fails -/
  mac : Vector UInt8 6
  /-- `get_ipaddr` -/
  ipaddr : Option (Vector UInt8 4)
  /-- `getifaddrs`, with the IPv6 address of the interface -/
  ifaddrs : Option (Option (Vector UInt8 16))
  /-- what is on the stack where `get_ipaddr6` has its `struct sockaddr_in6` -/
  stack : Vector UInt8 16
  deriving DecidableEq

/-! ### The identifiers -/

def isValidMac (mac : Vector UInt8 6) : Bool :=
  !mac.toList.all (· = 0) && !mac.toList.all (· = 0xff)

/-- `get_ipaddr6`. The answer of `get_saddr6` is that of `getifaddrs`, whether the interface has an
address or not. -/
def getIpaddr6 (l : Lookups) : Option (Vector UInt8 16) := l.ifaddrs.map (·.getD l.stack)

/-- The name of the interface as an identifier -/
def ifnameId (sub : UInt8) (ifname : IfName) : Ident where
  info := sub :: ifname.name
  pos := Nat.succ_pos _
  le := by
    have hlt := ifname.lt
    simp only [List.length_cons, sizeofInfo]
    omega

/-- The MAC address as an identifier -/
def macId (sub : UInt8) (mac : Vector UInt8 6) : Ident where
  info := sub :: mac.toList
  pos := Nat.succ_pos _
  le := by simp [sizeofInfo]

/-- A network address as an identifier -/
def ipv4Id (sub : UInt8) (ip : Vector UInt8 4) : Ident where
  info := sub :: manaddrIpv4 :: ip.toList
  pos := Nat.succ_pos _
  le := by simp [sizeofInfo]

def ipv6Id (sub : UInt8) (ip : Vector UInt8 16) : Ident where
  info := sub :: manaddrIpv6 :: ip.toList
  pos := Nat.succ_pos _
  le := by simp [sizeofInfo]

/-- An `int` that becomes a `size_t` -/
def toSizeT (x : Int) : Nat := (x % 2 ^ 64).toNat

/-- `malloc` of the bytes of an identifier. It fails from `PTRDIFF_MAX` on. -/
def mallocInfo (length : Nat) (id : Option Ident) : Option Ident :=
  if length < 2 ^ 63 then id else none

/-- `mand_bld_ip_chassis`: the length, or -1 -/
def mandBldIpChassis (l : Lookups) : Int × Option Ident :=
  match l.ipaddr with
  | some ip => (6, some (ipv4Id chassisIdNetworkAddress ip))
  | none =>
    match getIpaddr6 l with
    | some ip => (18, some (ipv6Id chassisIdNetworkAddress ip))
    | none => (-1, none)

/-- `mand_bld_mac_chassis`. Without a valid address the subtype stays zero. -/
def mandBldMacChassis (l : Lookups) : Ident :=
  macId (if isValidMac l.mac then chassisIdMacAddress else 0) l.mac

def mandBldIfnameChassis (ifname : IfName) : Ident := ifnameId chassisIdInterfaceName ifname

/-- An IP chassis ID, or what the `switch` falls through to. `length` is unsigned. -/
def ipChassisOr (l : Lookups) (other : Ident) : Option Ident :=
  let (length, id) := mandBldIpChassis l
  if toSizeT length > 0 then mallocInfo (toSizeT length) id else some other

/-- The chassis ID from scratch, as `mand_bld_chassis_tlv` chooses it -/
def chassisFromScratch (l : Lookups) (ifname : IfName) : Option Ident :=
  if l.medTx = false then
    if l.chassisSubtype = 6 then some (mandBldIfnameChassis ifname)
    else if l.chassisSubtype = 5 then ipChassisOr l (mandBldMacChassis l)
    else some (mandBldMacChassis l)
  else if l.devtype = 1 ∨ l.devtype = 2 ∨ l.devtype = 3 then
    ipChassisOr l (mandBldIfnameChassis ifname)
  else some (mandBldIfnameChassis ifname)

/-- `LLDP_MED_DEVTYPE_DEFINED` -/
def devtypeDefined (devtype : Int) : Bool :=
  devtype = 1 ∨ devtype = 2 ∨ devtype = 3 ∨ devtype = 4

/-- The port ID from scratch. The `switch` of `mand_bld_portid_tlv` falls through until there is an
address. -/
def portidFromScratch (l : Lookups) (ifname : IfName) : Ident :=
  let subtype : Int := if devtypeDefined l.devtype ∧ l.medTx then 3 else l.portidSubtype
  let ifnameCase := ifnameId portIdInterfaceName ifname
  let networkCase :=
    match l.ipaddr, getIpaddr6 l with
    | some ip, _ => ipv4Id portIdNetworkAddress ip
    | none, some ip => ipv6Id portIdNetworkAddress ip
    | none, none => ifnameCase
  if subtype = 5 then ifnameCase
  else if subtype = 4 then networkCase
  else if isValidMac l.mac then macId portIdMacAddress l.mac
  else networkCase

/-! ### Building -/

/-- `lldpad_shm_get_msap`, where it is asked: only for the nearest bridge, and until the interface
was up -/
def shmMsap (type : AgentType) (d : MandData) (record : Bytes) : Option Bytes :=
  if d.readShm = false ∧ type = .nearestBridge ∧ record ≠ [] then some record else none

/-- A record of the shared memory, in the struct that it is copied to -/
def msapIdent (record : Bytes) : Except Fault Ident :=
  if h : 0 < record.length ∧ record.length ≤ sizeofInfo then
    .ok { info := record, pos := h.1, le := h.2 }
  else .error .outOfBounds

/-- `mand_bld_chassis_tlv`, and whether it succeeds -/
def mandBldChassisTlv (type : AgentType) (l : Lookups) (d : MandData) :
    Except Fault (MandData × Bool) :=
  if d.rebuildChassis = false ∧ d.chassis.isSome then .ok (d, true)
  else
    match shmMsap type d l.shmChassis with
    | some record => do
      let id ← msapIdent record
      pure ({ d with chassis := some id, rebuildChassis := false }, true)
    | none =>
      match chassisFromScratch l d.ifname with
      | some id => .ok ({ d with chassis := some id, rebuildChassis := false }, true)
      | none => .ok ({ d with chassis := none, rebuildChassis := true }, false)

/-- `mand_bld_portid_tlv`, which always succeeds -/
def mandBldPortidTlv (type : AgentType) (l : Lookups) (d : MandData) : Except Fault MandData :=
  if d.rebuildPortid = false ∧ d.portid.isSome then .ok d
  else
    match shmMsap type d l.shmPortid with
    | some record => do
      let id ← msapIdent record
      pure { d with portid := some id, rebuildPortid := false }
    | none => .ok { d with portid := some (portidFromScratch l d.ifname), rebuildPortid := false }

def mandBldTtlTlv (txTTL : Nat) (d : MandData) : MandData :=
  { d with ttl := some (UInt16.ofNat txTTL) }

/-- `mand_bld_tlv`, and whether it succeeds -/
def mandBldTlv (type : AgentType) (txTTL : Nat) (l : Lookups) (d : MandData) :
    Except Fault (MandData × Bool) :=
  if l.port = false then .ok (d, false)
  else do
    let (d, built) ← mandBldChassisTlv type l d
    if built = false then pure (d, false)
    else
      let d ← mandBldPortidTlv type l d
      pure (mandBldTtlTlv txTTL d, true)

/-! ### Packing -/

/-- An identifier in its `struct unpacked_tlv` -/
def identTlv (type : UInt8) (id : Ident) : UnpackedTlv where
  type := type
  length := UInt16.ofNat id.info.length
  info := id.info
  info_length := by
    have hle := id.le
    have hsize : sizeofInfo < 2 ^ 16 := by decide
    rw [UInt16.toNat_ofNat', Nat.mod_eq_of_lt (by omega)]

/-- The time to live in its `struct unpacked_tlv` -/
def ttlTlv (ttl : UInt16) : UnpackedTlv where
  type := timeToLiveTlv
  length := 2
  info := htons ttl
  info_length := rfl

/-- The TLVs of `struct mand_data` in the order in which they are packed -/
def mandTlvs (d : MandData) : List (Option UnpackedTlv) :=
  [d.chassis.map (identTlv chassisIdTlv), d.portid.map (identTlv portIdTlv), d.ttl.map ttlTlv]

def tlvSize (tlv : Option UnpackedTlv) : Nat :=
  match tlv with
  | none => 0
  | some tlv => 2 + tlv.length.toNat

/-- `PACK_TLV_AFTER`, for one TLV after the other. A TLV that cannot be packed ends it. -/
def packAll (size : Nat) : List (Option UnpackedTlv) → PackedTlv →
    Except Fault (Option PackedTlv)
  | [], ptlv => .ok (some ptlv)
  | tlv :: tlvs, ptlv => do
    let (rc, ptlv) ← packTlvAfter tlv ptlv size
    if rc ≠ 0 then pure none else packAll size tlvs ptlv

/-- The end of `mand_gettlv`: the TLVs that there are are packed. -/
def packMand (d : MandData) : Except Fault (Option Bytes) :=
  let size := ((mandTlvs d).map tlvSize).sum
  if size = 0 then .ok none
  else do
    let ptlv ← packAll size (mandTlvs d) { size := 0, tlv := List.replicate size 0 }
    pure (ptlv.map fun ptlv => ptlv.tlv.take ptlv.size.toNat)

/-- `mand_gettlv`. Whether the build succeeded is logged and nothing else. -/
def mandGettlv (type : AgentType) (txTTL : Nat) (l : Lookups) (md : Option MandData) :
    Except Fault (Option MandData × Option Bytes) :=
  match md with
  | none => .ok (none, none)
  | some d => do
    let (d, _) ← mandBldTlv type txTTL l d
    let ptlv ← packMand d
    pure (some d, ptlv)

/-! ### The interface comes up and goes down -/

/-- `mand_ifup`. Data whose build fails are removed. -/
def mandIfup (ifname : IfName) (type : AgentType) (txTTL : Nat) (l : Lookups)
    (md : Option MandData) : Except Fault (Option MandData) := do
  let (d, built) ← mandBldTlv type txTTL l (md.getD { ifname := ifname })
  pure (if built then some { d with readShm := true } else none)

def mandIfdown (md : Option MandData) : Option MandData :=
  md.map fun d => { d with
    chassis := none, portid := none, ttl := none, rebuildChassis := true, rebuildPortid := true }

/-- `_set_mand_subtype`, as far as it reaches the data: the setting is one of the lookups. -/
def setMandSubtype (md : Option MandData) : Option MandData :=
  md.map fun d => { d with readShm := true, rebuildChassis := true, rebuildPortid := true }

/-! ### The module among the others -/

variable {σ : Type}

/-- What the modules keep: the mandatory module's data for the agent with what the next build is
told, and the data of the others -/
structure MandModules (σ : Type) where
  md : Option MandData
  lookups : Lookups
  rest : σ

/-- The mandatory module. A build that stops the program hands nothing over. -/
def mandModule : LldpModule (MandModules σ) where
  isMand := true
  gettlv := some fun _ a m =>
    match mandGettlv a.type a.tx.txTTL m.lookups m.md with
    | .ok (md, ptlv) => ({ m with md := md }, ptlv)
    | .error _ => (m, none)

/-- One of the other modules -/
def restModule (np : LldpModule σ) : LldpModule (MandModules σ) where
  gettlv := np.gettlv.map fun f p a m => ({ m with rest := (f p a m.rest).1 }, (f p a m.rest).2)

/-- The daemon, with the mandatory module first -/
def mandEnv (others : List (LldpModule σ)) (ownSrcAddr : Bytes) : Env (MandModules σ) where
  modules := mandModule :: others.map restModule
  ownSrcAddr := ownSrcAddr

/-! ### The module in time -/

/-- What reaches the module -/
inductive MandEvent where
  | ifup (txTTL : Nat) (l : Lookups)
  | ifdown
  | setSubtype
  /-- `mibConstrInfoLLDPDU` -/
  | info (txTTL : Nat) (l : Lookups)
  /-- `mibConstrShutdownLLDPDU` -/
  | shutdown (txTTL : Nat) (l : Lookups)

/-- One event -/
def mandStep (ifname : IfName) (type : AgentType) (md : Option MandData) :
    MandEvent → Except Fault (Option MandData)
  | .ifup txTTL l => mandIfup ifname type txTTL l md
  | .ifdown => .ok (mandIfdown md)
  | .setSubtype => .ok (setMandSubtype md)
  | .info txTTL l | .shutdown txTTL l => do
    let (md, _) ← mandGettlv type txTTL l md
    pure md

/-- The module for one agent of an interface, which has no data before the interface is up -/
def mandSystem (ifname : IfName) (type : AgentType) : System (Option MandData) MandEvent where
  init md := md = none
  step := mandStep ifname type

end Lldpad.Mand
