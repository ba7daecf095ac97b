import Lldpad.Qbg.Vdp
import Lldpad.Qbg.Vdp22Tlv

/-!
# `Lldpad.Qbg.VdpTlv`: the VSI TLV of the draft 0.2 VDP

`vdp_gettlv` packs a profile, `vdp_validate_tlv` and `make_profile` take a TLV apart. `info` is
the content of a TLV behind its header of two bytes, and its length is that of the bytes. A
reader stops with `Fault.outOfBounds` at the end of it.

`struct tlv_info_vdp` is the fixed part of the content. The bytes of a number of 24 or 16 bits
are in network order.
-/

namespace Lldpad.Qbg

open Lldpad.Lib
open Lldpad.Lldp (Bytes ethAlen)

def ouiIeee8021Qbg : Bytes := [0x00, 0x1b, 0x3f]

def lldpVdpSubtype : UInt8 := 2

def orgSpecificTlv : UInt8 := 127

/-- `sizeof(struct tlv_info_vdp)` -/
def tlvInfoVdpSz : Nat := 30

/-- `sizeof(struct mac_vlan_p)` -/
def macVlanPSz : Nat := 8

/-- `struct tlv_info_vdp` -/
structure TlvInfoVdp where
  oui : Bytes
  sub : UInt8
  mode : UInt8
  response : UInt8
  mgrid : UInt8
  id : UInt32
  version : UInt8
  instanceId : Octets 16
  format : UInt8
  entries : UInt16

/-! ### Building -/

def hton24 (x : UInt32) : Bytes := append3o x.toUInt64

/-- `struct mac_vlan_p` -/
def macVlanP (mv : MacVlan) : Bytes := mv.mac.bytes ++ append2o mv.vlan

/-- `size` of `vdp_bld_vsi_tlv` -/
def vdpVsiTlvSz (p : VdpProfile) : Nat := tlvInfoVdpSz + p.entries.toNat * macVlanPSz

/-- What `vdp_bld_vsi_tlv` writes. A list that is longer than `entries` goes beyond the end of
the memory. -/
def vdpVsiInfo (p : VdpProfile) : Except Fault Bytes :=
  if p.macvid.length ≤ p.entries.toNat then
    .ok (ouiIeee8021Qbg ++ [lldpVdpSubtype, p.mode.toUInt8, 0, p.mgrid] ++ hton24 p.id ++
      [p.version] ++ p.instanceId.bytes ++ [vdpFilterInfoFormatMacvid] ++ append2o p.entries ++
      p.macvid.flatMap macVlanP)
  else .error .outOfBounds

/-- `vdp_bld_vsi_tlv`: the content of the TLV. The length is an `unsigned short`. -/
def vdpBldVsiTlv (p : VdpProfile) : Except Fault Bytes := do
  let vdp ← vdpVsiInfo p
  pure (vdp.take (UInt16.ofNat (vdpVsiTlvSz p)).toNat)

def tlvOk (type : UInt8) (info : Bytes) : Bool := !(info.length == 0 && type != 0)

def packTlv (type : UInt8) (info : Bytes) : Option Bytes :=
  if tlvOk type info then
    some (append2o ((type.toUInt16 <<< (9 : UInt16)) |||
      (UInt16.ofNat info.length &&& 0x1ff : UInt16)) ++ info)
  else none

/-- `vdp_gettlv`: the packed TLV, when there is one. There is room for it. -/
def vdpGettlv (p : VdpProfile) : Except Fault (Option Bytes) := do
  let info ← vdpBldVsiTlv p
  pure (packTlv orgSpecificTlv info)

/-! ### Reading -/

/-- The header that `vdp_indicate` copies -/
def tlvInfoVdpAt (info : Bytes) : Except Fault TlvInfoVdp := do
  let oui ← sliceAt info 0 3
  let sub ← readAt info 3
  let mode ← readAt info 4
  let response ← readAt info 5
  let mgrid ← readAt info 6
  let id ← extract3o info 7
  let version ← readAt info 10
  let instanceId ← extractNo info 11 16
  let format ← readAt info 27
  let entries ← extract2o info 28
  pure {
    oui := oui.1
    sub := sub
    mode := mode
    response := response
    mgrid := mgrid
    id := id.toUInt32
    version := version
    instanceId := instanceId
    format := format
    entries := entries }

/-- `vdp_validate_tlv`. The header was read, so `tlv->length - sizeof *vdp` is not negative. -/
def vdpValidateTlv (vdp : TlvInfoVdp) (info : Bytes) : Bool :=
  let pairs := (info.length - tlvInfoVdpSz) / macVlanPSz
  vdp.oui == ouiIeee8021Qbg && vdp.sub == lldpVdpSubtype &&
    vdp.mode.toUInt32 ≤ vdpModeDeassociate && vdp.response ≤ vdpResponseOutOfSync &&
    vdp.format == vdpFilterInfoFormatMacvid && 1 ≤ vdp.entries && vdp.entries.toNat == pairs

/-- The loop of `make_profile`, which puts every pair in front of the list -/
def makeMacvid (info : Bytes) : Nat → Nat → List MacVlan → Except Fault (List MacVlan)
  | 0, _, macvid => pure macvid
  | n + 1, pos, macvid => do
    let mac ← sliceAt info pos ethAlen
    let vlan ← extract2o info (pos + ethAlen)
    makeMacvid info n (pos + macVlanPSz) ({ mac := .ofSlice mac, vlan := vlan } :: macvid)

/-- `make_profile`, into a profile of zeros -/
def makeProfile (vdp : TlvInfoVdp) (info : Bytes) : Except Fault VdpProfile := do
  let macvid ← makeMacvid info vdp.entries.toNat tlvInfoVdpSz []
  pure {
    mode := vdp.mode.toUInt32
    response := vdp.response
    mgrid := vdp.mgrid
    id := vdp.id
    version := vdp.version
    instanceId := vdp.instanceId
    format := vdp.format
    macvid := macvid }

/-- The beginning of `vdp_indicate`: the profile of a valid TLV -/
def vdpProfileOfTlv (info : Bytes) : Except Fault (Option VdpProfile) := do
  let vdp ← tlvInfoVdpAt info
  if vdpValidateTlv vdp info then some <$> makeProfile vdp info else pure none

end Lldpad.Qbg
