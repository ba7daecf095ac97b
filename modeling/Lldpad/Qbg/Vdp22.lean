import Lldpad.Qbg.Ecp22

/-!
# `Lldpad.Qbg.Vdp22`: the data of the VSI Discovery Protocol

`include/qbg_vdp22.h`, `include/qbg_vdp22def.h`, `include/qbg_vdpnl.h` and the parts of
`qbg/vdp22.c` that make a VSI node out of a request or out of a received TLV.

A VSI node (`Vsi22`) is one association of a virtual station interface. Its state machine
variables are `Vdp22smi`. The station and the bridge number their states apart in one `int`,
so the state is a sum here. `no_fdata` is the length of `fdata`.

OUI data of a VSI is left out. It adds TLVs behind the VSI TLV that a station sends, and
nothing else looks at it. Log messages are left out too, and memory is always available.
-/

namespace Lldpad.Qbg

open Lldpad.Lib
open Lldpad.Lldp (Bytes ethAlen)

/-! ### Constants -/

def vdp22Endtlv : UInt8 := 0

def vdp22Preassoc : UInt8 := 1

def vdp22PreassocWithRr : UInt8 := 2

def vdp22Assoc : UInt8 := 3

def vdp22Deassoc : UInt8 := 4

def vdp22Mgrid : UInt8 := 5

def vdp22Oui : UInt8 := 0x7f

def vdp22FfmtVid : UInt8 := 1

def vdp22FfmtMacvid : UInt8 := 2

def vdp22FfmtGroupvid : UInt8 := 3

def vdp22FfmtGroupmacvid : UInt8 := 4

def vdp22IdIp4 : UInt8 := 1

def vdp22IdIp6 : UInt8 := 2

def vdp22IdMac : UInt8 := 3

def vdp22IdLocal : UInt8 := 4

def vdp22IdUuid : UInt8 := 5

def vdp22RespSuccess : UInt8 := 0

def vdp22RespNoResources : UInt8 := 2

def vdp22RespNoaddr : UInt8 := 5

def vdp22RespDeassoc : UInt8 := 252

def vdp22RespTimeout : UInt8 := 253

def vdp22RespKeep : UInt8 := 254

def vdp22RespNone : UInt8 := 255

def vdp22Resbit : UInt8 := 0x80

def vdp22Ackbit : UInt8 := 0x40

def vdp22Keepbit : UInt8 := 0x20

def vdp22StatusMask : UInt8 := 0x0f

/-- The negative `errno` codes that requests are answered with. -/
def errEnodev : Int := -19

def errEinval : Int := -22

def errEbusy : Int := -16

def errEprotonosupport : Int := -93

def errEopnotsupp : Int := -95

/-! ### VSI nodes -/

/-- A field of `n` bytes. -/
structure Octets (n : Nat) where
  bytes : Bytes
  length_eq : bytes.length = n
  deriving DecidableEq

/-- A field of zeros. -/
def Octets.zero (n : Nat) : Octets n := ⟨List.replicate n 0, List.length_replicate⟩

/-- A MAC address of zeros. -/
def MacAddr.zero : MacAddr := ⟨List.replicate ethAlen 0, List.length_replicate⟩

/-- `struct vsi_origin` -/
structure VsiOrigin where
  reqPid : Int := 0
  reqSeq : UInt64 := 0
  deriving DecidableEq

/-- `struct fid22`: one filter entry -/
structure Fid22 where
  grpid : UInt64 := 0
  mac : MacAddr := .zero
  vlan : UInt16 := 0
  requestor : VsiOrigin := {}
  deriving DecidableEq

/-- The states of the station machine. -/
inductive Vdp22State where
  | begin
  | init
  | stationProc
  | stationProcwait
  | stationProcwait2
  | assocNew
  | assocCompl
  | preassocNew
  | waitSyscmd
  | waitSyscmd2
  | txmitKa
  | txmitKawait
  | txmitKawait2
  | txmitDeassoc
  | txmitDeawait
  | txmitDeawait2
  | vdpEnd
  deriving DecidableEq, Repr

/-- The states of the bridge machine. -/
inductive Vdp22brState where
  | begin
  | init
  | process
  | send
  | waitcmd
  | waitcmd2
  | keep
  | deassoc
  | alive
  | deassociated
  | vdpEnd
  deriving DecidableEq, Repr

/-- `int state`. A new node has none yet. -/
inductive Vdp22SmState where
  | none
  | station (s : Vdp22State)
  | bridge (s : Vdp22brState)
  deriving DecidableEq, Repr

/-- `struct vdp22smi` -/
structure Vdp22smi where
  state : Vdp22SmState := .none
  kato : Bool := false
  ackreceived : Bool := false
  acktimeout : Bool := false
  localchg : Bool := false
  deassoc : Bool := false
  txmit : Bool := false
  respOk : Bool := false
  txmitError : Int := 0
  deriving DecidableEq

/-- `enum vsi22_flags`: the bits of `flags` -/
structure Vsi22Flags where
  busy : Bool := false
  deleteMe : Bool := false
  returnVid : Bool := false
  notify : Bool := false
  nlcmd : Bool := false
  deriving DecidableEq

/-- `struct vsi22` -/
structure Vsi22 where
  mgrid : Octets 16 := .zero 16
  ccVsiMode : UInt8 := 0
  vsiMode : UInt8 := 0
  respVsiMode : UInt8 := 0
  status : UInt8 := 0
  hints : UInt8 := 0
  typeId : UInt64 := 0
  typeVer : UInt8 := 0
  vsiFmt : UInt8 := 0
  vsi : Octets 16 := .zero 16
  fif : UInt8 := 0
  fdata : List Fid22 := []
  flags : Vsi22Flags := {}
  smi : Vdp22smi := {}
  deriving DecidableEq

def vdp22GetPs (x : UInt16) : UInt16 := (x >>> 15) &&& 0x1

def vdp22GetQos (x : UInt16) : UInt16 := (x >>> 12) &&& 0xf

def vdp22SetQos (x : UInt16) : UInt16 := (x &&& 0xf : UInt16) <<< (12 : UInt16)

/-- `vdp22_get_vlanid` and `vdp22_set_vlanid`, which are the same function -/
def vdp22GetVlanid (x : UInt16) : UInt16 := x &&& 0xfff

/-! ### Requests -/

/-- `struct vdpnl_mac` -/
structure VdpnlMac where
  vlan : UInt16 := 0
  mac : MacAddr := .zero
  qos : UInt8 := 0
  changed : UInt8 := 0
  gpid : UInt64 := 0
  deriving DecidableEq

/-- The message format of a request: `vdpnl_nlf1` or `vdpnl_nlf2` -/
inductive VdpnlVersion where
  | nlf1
  | nlf2
  deriving DecidableEq, Repr

/-- `struct vdpnl_vsi`. `macsz` is the length of `maclist`. -/
structure VdpnlVsi where
  hints : UInt8 := 0
  request : UInt8 := 0
  response : UInt16 := 0
  vsiMgrid : UInt8 := 0
  vsiTypeversion : UInt8 := 0
  vsiIdfmt : UInt8 := 0
  vsiUuid : Octets 16 := .zero 16
  vsiMgrid2 : Octets 16 := .zero 16
  nlVersion : VdpnlVersion := .nlf1
  vsiTypeid : UInt64 := 0
  reqSeq : UInt64 := 0
  reqPid : Int := 0
  filterFmt : UInt8 := 0
  maclist : List VdpnlMac := []
  deriving DecidableEq

def isZeroes (b : Bytes) : Bool := b.all (· == 0)

def isValidMac (mac : Bytes) : Bool :=
  !(mac.foldl (· ||| ·) 0 == 0) && !(mac.foldl (· &&& ·) 0xff == 0xff)

def isIpv4 (cp : Octets 16) : Bool :=
  isZeroes (cp.bytes.take 10) &&
    !(cp.bytes.getD 10 0 != 0xff && cp.bytes.getD 11 0 != 0xff) &&
    !isZeroes (cp.bytes.drop 12)

def isMac (cp : Octets 16) : Bool := isZeroes (cp.bytes.take 10) && isValidMac (cp.bytes.drop 10)

def isIpv6 (cp : Octets 16) : Bool := !isZeroes cp.bytes

def checkVsirequest (request : UInt8) : Bool :=
  request == vdp22Preassoc || request == vdp22PreassocWithRr || request == vdp22Assoc ||
    request == vdp22Deassoc || request == vdp22Mgrid || request == vdp22Oui

def checkFilterfmt (filterFmt : UInt8) : Bool :=
  filterFmt == vdp22FfmtVid || filterFmt == vdp22FfmtMacvid || filterFmt == vdp22FfmtGroupvid ||
    filterFmt == vdp22FfmtGroupmacvid

/-- `check_vsiid`. For a UUID the source takes the size of the pointer, so it looks at the
first eight bytes only. -/
def checkVsiid (fmt : UInt8) (vsiUuid : Octets 16) : Bool :=
  if fmt = vdp22IdIp4 then isIpv4 vsiUuid
  else if fmt = vdp22IdIp6 then isIpv6 vsiUuid
  else if fmt = vdp22IdMac then isMac vsiUuid
  else if fmt = vdp22IdUuid then !isZeroes (vsiUuid.bytes.take 8)
  else fmt == vdp22IdLocal

def checkVsinl (vsi : VdpnlVsi) : Bool :=
  checkVsiid vsi.vsiIdfmt vsi.vsiUuid && checkVsirequest vsi.request &&
    checkFilterfmt vsi.filterFmt

def checkVsi (vsi : Vsi22) : Bool :=
  checkVsiid vsi.vsiFmt vsi.vsi && checkVsirequest vsi.vsiMode && checkFilterfmt vsi.fif

/-- `copy_filter`, into an entry of zeros -/
def copyFilter (fif : UInt8) (from' : VdpnlMac) : Fid22 :=
  let vlan := vdp22GetVlanid from'.vlan ||| vdp22SetQos from'.qos.toUInt16
  if fif = vdp22FfmtGroupmacvid then { grpid := from'.gpid, mac := from'.mac, vlan := vlan }
  else if fif = vdp22FfmtGroupvid then { grpid := from'.gpid, vlan := vlan }
  else if fif = vdp22FfmtMacvid then { mac := from'.mac, vlan := vlan }
  else if fif = vdp22FfmtVid then { vlan := vlan }
  else {}

def checkMac (fp : Fid22) : Bool := isValidMac fp.mac.bytes

def checkVid (fp : Fid22) : Bool :=
  let num := vdp22GetVlanid fp.vlan
  !(num > 0 && (num < 2 || num > 4094))

def checkGroup (fp : Fid22) : Bool := fp.grpid != 0

def filterOk (ffmt : UInt8) (fp : Fid22) (gpidOn : Bool) : Bool :=
  if ffmt = vdp22FfmtVid then checkVid fp
  else if ffmt = vdp22FfmtMacvid then checkVid fp && checkMac fp
  else if ffmt = vdp22FfmtGroupvid then gpidOn && (checkVid fp && checkGroup fp)
  else if ffmt = vdp22FfmtGroupmacvid then
    gpidOn && (checkVid fp && checkMac fp && checkGroup fp)
  else false

/-- One filter entry of a request passes the checks of `vdp22_alloc_vsi_int`. -/
def allocFilterOk (vsi : VdpnlVsi) (gpid : Bool) (from' : VdpnlMac) : Bool :=
  !(from'.vlan == 0 && vsi.maclist.length > 1 && vsi.filterFmt == vdp22FfmtVid) &&
    filterOk vsi.filterFmt (copyFilter vsi.filterFmt from') gpid

/-- `vdp22_alloc_vsi_int`. `gpid` is `vdp->gpid`. `no_fdata` is an `unsigned short`. -/
def vdp22AllocVsiInt (vsi : VdpnlVsi) (gpid vsinlChk : Bool) : Except Int Vsi22 :=
  if vsinlChk && !checkVsinl vsi then .error errEinval
  else if vsi.maclist.all (allocFilterOk vsi gpid) then
    .ok {
      vsiMode := vsi.request
      ccVsiMode := vdp22Deassoc
      hints := vsi.hints
      status := vdp22RespNone
      flags := {
        busy := true
        nlcmd := true
        returnVid := vsi.maclist.any (·.vlan == 0) }
      mgrid :=
        match vsi.nlVersion with
        | .nlf2 => vsi.vsiMgrid2
        | .nlf1 => ⟨vsi.vsiMgrid :: List.replicate 15 0, rfl⟩
      typeVer := vsi.vsiTypeversion
      typeId := vsi.vsiTypeid
      vsiFmt := vdp22IdUuid
      vsi := vsi.vsiUuid
      fif := vsi.filterFmt
      fdata := (vsi.maclist.take (vsi.maclist.length % 65536)).map fun from' =>
        { copyFilter vsi.filterFmt from' with
          requestor := { reqPid := vsi.reqPid, reqSeq := vsi.reqSeq } } }
  else .error errEinval

/-- One filter entry of a received TLV passes the checks of `vdp22_copy_vsi`. -/
def copyFilterOk (old : Vsi22) (gpid : Bool) (fp : Fid22) : Bool :=
  !(fp.vlan == 0 && old.fdata.length > 1 && old.fif == vdp22FfmtVid) && filterOk old.fif fp gpid

def vdp22CopyVsi (old : Vsi22) (gpid : Bool) : Option Vsi22 :=
  if checkVsi old && old.fdata.all (copyFilterOk old gpid) then
    some { old with flags := {}, ccVsiMode := vdp22Deassoc }
  else none

end Lldpad.Qbg
