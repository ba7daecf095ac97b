import Lldpad.Dcbx.System
import Lldpad.Lib.Scan
import Lldpad.Lldp.Mand

/-!
# `Lldpad.Lldp.Basman`: the optional TLVs, and the strings of the configuration

`lldp_basman.c`: the port description, the system name and description, the system capabilities
and the management address. They are freed and built again whenever they are asked for. The
location of LLDP-MED (`med_bld_locid_tlv`) is here too, as it reads its string the same way.

`get_config_tlvfield_str` copies a string with `strncpy`. An array that has no room for the NUL
then has none, and what looks for the end of the string goes on behind the array.

What the system and the configuration answer to a build is data of the build (`SysInfo`,
`BasmanConfig`). `inet_pton` and `inet_ntop` are a parameter (`Inet`). Memory does not run out, and
a setting can be written.
-/

namespace Lldpad.Basman

open Lldpad.Lib
open Lldpad.Dcbx (hexBytes)
open Lldpad.Lldp (Bytes)
open Lldpad.Mand (packAll tlvSize)
open Lldpad.Tlv (UnpackedTlv)

/-! ### Strings of the configuration -/

/-- An array that `strncpy` has filled: the characters before the first NUL, and whether there is
a NUL in it -/
structure CharArray where
  text : CStr
  terminated : Bool
  deriving DecidableEq

/-- `strncpy` into an array of `size` characters -/
def strncpy (src : CStr) (size : Nat) : CharArray where
  text := src.take size
  terminated := src.length < size

/-- The array as a string, for what looks for its end -/
def CharArray.string (a : CharArray) : Except Fault CStr :=
  if a.terminated then .ok a.text else .error .outOfBounds

/-- `get_config_tlvfield_str`, where `value` is what the configuration has -/
def getConfigTlvfieldStr (value : Option CStr) (size : Nat) : Option CharArray :=
  value.map fun str => strncpy str size

/-! ### Addresses -/

/-- `MANADDR_IPV4`, `MANADDR_IPV6`, `MANADDR_ALL802` -/
inductive Masub where
  | ipv4
  | ipv6
  | all802
  deriving DecidableEq, Repr

def Masub.num : Masub → UInt8
  | .ipv4 => 1
  | .ipv6 => 2
  | .all802 => 6

/-- The size of an address -/
def Masub.size : Masub → Nat
  | .ipv4 => 4
  | .ipv6 => 16
  | .all802 => 6

/-- `inet_pton` and `inet_ntop` -/
structure Inet where
  pton4 : CStr → Option (Vector UInt8 4)
  pton6 : CStr → Option (Vector UInt8 16)
  ntop4 : Vector UInt8 4 → CStr
  ntop6 : Vector UInt8 16 → CStr

/-- What `uname` says -/
structure Utsname where
  sysname : CStr
  nodename : CStr
  release : CStr
  version : CStr
  machine : CStr
  deriving DecidableEq

/-- What the system answers -/
structure SysInfo where
  /-- `port_find_by_ifindex` finds the port. -/
  port : Bool
  ifname : CStr
  /-- `if_nametoindex` -/
  ifindex : UInt32
  uname : Option Utsname
  /-- `get_caps` and `is_active` -/
  caps : UInt16
  active : Bool
  /-- `get_ipaddr` -/
  ipaddr : Option (Vector UInt8 4)
  /-- `getifaddrs`, with the IPv6 address of the interface -/
  ifaddrs : Option (Option (Vector UInt8 16))
  /-- what is on the stack where `get_ipaddr6` has its `struct sockaddr_in6` -/
  stack : Vector UInt8 16
  /-- `get_mac` -/
  mac : Option (Vector UInt8 6)
  deriving DecidableEq

def str2mac (src : CStr) : Option (Vector UInt8 6) := do
  if src.length ≠ 17 then none
  else
    let (b0, _) ← scanHexByte src
    let (b1, _) ← scanHexByte (src.drop 3)
    let (b2, _) ← scanHexByte (src.drop 6)
    let (b3, _) ← scanHexByte (src.drop 9)
    let (b4, _) ← scanHexByte (src.drop 12)
    let (b5, _) ← scanHexByte (src.drop 15)
    pure #v[b0, b1, b2, b3, b4, b5]

/-- A digit of `%02X` -/
def upperHex (n : Nat) : Char := (Nat.digitChar n).toUpper

def mac2str (mac : Vector UInt8 6) : CStr :=
  [':'].intercalate (mac.toList.map fun b => [upperHex (b.toNat / 16), upperHex (b.toNat % 16)])

def str2addr (inet : Inet) : (sub : Masub) → CStr → Option (Vector UInt8 sub.size)
  | .ipv4, src => inet.pton4 src
  | .ipv6, src => inet.pton6 src
  | .all802, src => str2mac src

def addr2str (inet : Inet) : (sub : Masub) → Vector UInt8 sub.size → CStr
  | .ipv4, a => inet.ntop4 a
  | .ipv6, a => inet.ntop6 a
  | .all802, a => mac2str a

/-- `get_addr`. The answer of `get_saddr6` is that of `getifaddrs`, whether the interface has an
address or not. -/
def getAddr (sys : SysInfo) : (sub : Masub) → Option (Vector UInt8 sub.size)
  | .ipv4 => sys.ipaddr
  | .ipv6 => sys.ifaddrs.map (·.getD sys.stack)
  | .all802 => sys.mac

/-! ### Data -/

/-- The TLVs of the module, in the order in which they are packed -/
inductive BasmanTlv where
  | portDescription
  | systemName
  | systemDescription
  | systemCapabilities
  | managementAddress
  deriving DecidableEq, Repr

/-- `PORT_DESCRIPTION_TLV` to `MANAGEMENT_ADDRESS_TLV` -/
def BasmanTlv.type : BasmanTlv → UInt8
  | .portDescription => 4
  | .systemName => 5
  | .systemDescription => 6
  | .systemCapabilities => 7
  | .managementAddress => 8

/-- What the configuration has for an agent of an interface -/
structure BasmanConfig where
  /-- `is_tlv_txenabled` -/
  txEnabled : BasmanTlv → Bool
  /-- the field `info` of each TLV -/
  info : BasmanTlv → Option CStr
  /-- the fields `ipv4`, `ipv6` and `mac` of the management address -/
  maddr : Masub → Option CStr

/-- The information of a TLV that is a text -/
structure Desc where
  info : Bytes
  le : info.length ≤ 255
  deriving DecidableEq

/-- `struct tlv_info_maddr` -/
structure Maddr where
  sub : Masub
  a : Vector UInt8 sub.size
  deriving DecidableEq

/-- `struct basman_data`. The TLVs have their information only, and there is one management address
at most. -/
structure BasmanData where
  portdesc : Option Desc := none
  sysname : Option Desc := none
  sysdesc : Option Desc := none
  syscaps : Option (Vector UInt8 4) := none
  manaddr : Option Maddr := none
  deriving DecidableEq

/-! ### Building -/

/-- `sizeof(desc)` -/
def descSize : Nat := 256

/-- The characters of `desc` that are sent. The length is cut off at `sizeof(desc) - 1`. -/
def Desc.ofText (desc : CStr) : Desc where
  info := textBytes (desc.take (descSize - 1))
  le := by
    rw [textBytes, List.length_map, List.length_take]
    exact Nat.min_le_left ..

/-- A TLV that is a text: that of the configuration, or one that the system has, which is cut off at
the end of the array. -/
def bldTextTlv (t : BasmanTlv) (cfg : BasmanConfig) (built : CStr) :
    Except Fault (Option Desc) :=
  if cfg.txEnabled t = false then .ok none
  else
    match getConfigTlvfieldStr (cfg.info t) descSize with
    | some desc => do
      let desc ← desc.string
      pure (some (Desc.ofText desc))
    | none => .ok (some (Desc.ofText built))

def basmanBldPortdescTlv (cfg : BasmanConfig) (sys : SysInfo) : Except Fault (Option Desc) :=
  bldTextTlv .portDescription cfg
    ("Interface ".toList ++ padded 3 sys.ifindex.toNat ++ " as ".toList ++ sys.ifname)

/-- `SYSNAME_DEFAULT` is for a system that `uname` says nothing about. -/
def basmanBldSysnameTlv (cfg : BasmanConfig) (sys : SysInfo) : Except Fault (Option Desc) :=
  bldTextTlv .systemName cfg ((sys.uname.map (·.nodename)).getD "localhost".toList)

def basmanBldSysdescTlv (cfg : BasmanConfig) (sys : SysInfo) : Except Fault (Option Desc) :=
  bldTextTlv .systemDescription cfg
    (match sys.uname with
    | none => "Unknown system".toList
    | some uts =>
      [' '].intercalate [uts.sysname, uts.nodename, uts.release, uts.version, uts.machine])

/-- The capabilities from scratch, and those that are enabled -/
def syscapsFromScratch (sys : SysInfo) : Vector UInt8 4 :=
  let caps := sys.caps
  let enabled := if sys.active then caps else 0
  #v[(caps >>> 8).toUInt8, caps.toUInt8, (enabled >>> 8).toUInt8, enabled.toUInt8]

/-- `basman_bld_syscaps_tlv`. The text of the configuration is hexadecimal digits. -/
def basmanBldSyscapsTlv (cfg : BasmanConfig) (sys : SysInfo) : Option (Vector UInt8 4) :=
  if cfg.txEnabled .systemCapabilities = false then none
  else
    match (cfg.info .systemCapabilities).bind (hexBytes 4) with
    | some [c0, c1, e0, e1] => some #v[c0, c1, e0, e1]
    | _ => some (syscapsFromScratch sys)

/-- `sizeof(maddr)` -/
def maddrSize : Nat := 128

/-- `basman_get_manaddr_sub`: the address, and the string that is then set in the configuration -/
def basmanGetManaddrSub (inet : Inet) (cfg : BasmanConfig) (sys : SysInfo) (sub : Masub) :
    Except Fault (Option (Maddr × CStr)) := do
  let configured : Option (Maddr × CStr) ←
    match getConfigTlvfieldStr (cfg.maddr sub) maddrSize with
    | none => pure none
    | some maddr => do
      let maddr ← maddr.string
      pure ((str2addr inet sub maddr).map fun a => ({ sub, a }, maddr))
  match configured with
  | some r => pure (some r)
  | none => pure ((getAddr sys sub).map fun a => ({ sub, a }, addr2str inet sub a))

/-- `set_config_tlvfield_str` of an address -/
def BasmanConfig.setMaddr (cfg : BasmanConfig) (sub : Masub) (str : CStr) : BasmanConfig :=
  { cfg with maddr := fun s => if s = sub then some str else cfg.maddr s }

/-- The address in `bd`, and its string in the configuration -/
def keepManaddr (cfg : BasmanConfig) (r : Maddr × CStr) : Option Maddr × BasmanConfig :=
  (some r.1, cfg.setMaddr r.1.sub r.2)

/-- `basman_bld_manaddr_tlv`: whether it succeeds, the address, and the configuration. What is said
about the MAC address is not looked at. -/
def basmanBldManaddrTlv (inet : Inet) (cfg : BasmanConfig) (sys : SysInfo) :
    Except Fault (Bool × Option Maddr × BasmanConfig) :=
  if cfg.txEnabled .managementAddress = false then .ok (true, none, cfg)
  else do
    match ← basmanGetManaddrSub inet cfg sys .ipv4 with
    | some r => pure (true, keepManaddr cfg r)
    | none =>
      match ← basmanGetManaddrSub inet cfg sys .ipv6 with
      | some r => pure (true, keepManaddr cfg r)
      | none =>
        match ← basmanGetManaddrSub inet cfg sys .all802 with
        | some r => pure (false, keepManaddr cfg r)
        | none => pure (false, none, cfg)

/-- `basman_bld_tlv`, after `basman_free_tlv`: whether it succeeds, the data, and the
configuration -/
def basmanBldTlv (inet : Inet) (cfg : BasmanConfig) (sys : SysInfo) :
    Except Fault (Bool × BasmanData × BasmanConfig) :=
  if sys.port = false then .ok (false, {}, cfg)
  else do
    let portdesc ← basmanBldPortdescTlv cfg sys
    let sysname ← basmanBldSysnameTlv cfg sys
    let sysdesc ← basmanBldSysdescTlv cfg sys
    let syscaps := basmanBldSyscapsTlv cfg sys
    let (ok, manaddr, cfg) ← basmanBldManaddrTlv inet cfg sys
    pure (ok, { portdesc, sysname, sysdesc, syscaps, manaddr }, cfg)

/-! ### Packing -/

/-- A text in its `struct unpacked_tlv` -/
def descTlv (t : BasmanTlv) (desc : Desc) : UnpackedTlv where
  type := t.type
  length := UInt16.ofNat desc.info.length
  info := desc.info
  info_length := by
    have hle := desc.le
    rw [UInt16.toNat_ofNat', Nat.mod_eq_of_lt (by omega)]

def syscapsTlv (syscaps : Vector UInt8 4) : UnpackedTlv where
  type := BasmanTlv.systemCapabilities.type
  length := 4
  info := syscaps.toList
  info_length := by
    rw [Vector.length_toList]
    rfl

/-- `struct tlv_info_manaddr`, with the index of the interface (`IFNUM_SUBTYPE_IFINDEX`) and no
OID -/
def maddrInfo (ifindex : UInt32) (m : Maddr) : Bytes :=
  let maif : Bytes :=
    [2, (ifindex >>> 24).toUInt8, (ifindex >>> 16).toUInt8, (ifindex >>> 8).toUInt8,
      ifindex.toUInt8]
  UInt8.ofNat (m.sub.size + 1) :: m.sub.num :: (m.a.toList ++ maif ++ [0])

theorem length_maddrInfo (ifindex : UInt32) (m : Maddr) :
    (maddrInfo ifindex m).length = m.sub.size + 8 := by
  simp [maddrInfo]

def manaddrTlv (ifindex : UInt32) (m : Maddr) : UnpackedTlv where
  type := BasmanTlv.managementAddress.type
  length := UInt16.ofNat (m.sub.size + 8)
  info := maddrInfo ifindex m
  info_length := by
    rw [length_maddrInfo]
    cases m.sub <;> rfl

/-- The TLVs of `struct basman_data` in the order in which they are packed -/
def basmanTlvs (ifindex : UInt32) (bd : BasmanData) : List (Option UnpackedTlv) :=
  [bd.portdesc.map (descTlv .portDescription), bd.sysname.map (descTlv .systemName),
    bd.sysdesc.map (descTlv .systemDescription), bd.syscaps.map syscapsTlv,
    bd.manaddr.map (manaddrTlv ifindex)]

/-- `basman_gettlv` for an agent that has its data: the packed TLVs, and the configuration -/
def basmanGettlv (inet : Inet) (cfg : BasmanConfig) (sys : SysInfo) :
    Except Fault (Option Bytes × BasmanConfig) := do
  let (ok, bd, cfg) ← basmanBldTlv inet cfg sys
  let tlvs := basmanTlvs sys.ifindex bd
  let size := (tlvs.map tlvSize).sum
  if ok = false ∨ size = 0 then pure (none, cfg)
  else
    let ptlv ← packAll size tlvs { size := 0, tlv := List.replicate size 0 }
    pure (ptlv.map fun ptlv => ptlv.tlv.take ptlv.size.toNat, cfg)

/-! ### The location of LLDP-MED -/

/-- `sizeof(struct tlv_info_locid)`: the OUI, the subtype and the format, and the location -/
def locidSize : Nat := 261

/-- The size of the fixed header of `struct tlv_info_locid` -/
def locidHeader : Nat := 5

/-- `LLDP_MED_LOCID_FORMAT_INVALID` -/
def locidFormatInvalid (format : UInt8) : Bool := format = 0 || format > 3

/-- `med_bld_locid_tlv`: the information of the TLV, if there is one. `stack` is what is there
before `locid`, and `value` what the configuration has. -/
def medBldLocidTlv (txEnabled : Bool) (value : Option CStr) (stack : Vector UInt8 locidSize) :
    Except Fault (Option Bytes) :=
  if txEnabled = false then .ok none
  else
    match getConfigTlvfieldStr value (locidSize * 2 + 1) with
    | none => .ok none
    | some locstr => do
      let locstr ← locstr.string
      let length := locstr.length / 2
      match hexBytes length locstr with
      | none => pure none
      | some bytes =>
        let locid := bytes ++ stack.toList.drop length
        -- the format is the last byte of the header
        if locidFormatInvalid (locid.getD (locidHeader - 1) 0) then pure none
        else pure (some (locid.take length))

end Lldpad.Basman
