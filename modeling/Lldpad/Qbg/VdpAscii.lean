import Lldpad.Clif.Request
import Lldpad.Lib.Checked
import Lldpad.Lib.Scan
import Lldpad.Qbg.Vdp22

/-!
# `Lldpad.Qbg.VdpAscii`: a VSI request as text

`vdp22_parse_str_vdpnl` of `qbg/vdp_ascii.c` reads the arguments of a VSI request, and
`set_arg_vsi3` of `qbg/vdp22_cmds.c` answers the client. The command word of the message says how
many filters and how many OUI entries to expect: `maclist` and `oui_list` have this many entries,
all zero at first.

A string is its characters up to the NUL. The handlers of OUI data are a parameter, and so is the
byte on the stack that `oui_str2vdpnl` reads when the length of a name has no two hexadecimal
digits. `idx` and `oui_idx` are 16 bits wide, and a message is too short to wrap them around. What
a refused argument leaves in `vsi` is left out, as nobody looks at it. Memory is always available,
and log messages are left out.
-/

namespace Lldpad.Qbg

open Lldpad.Lib
open Lldpad.Lldp (Bytes ethAlen)
open Lldpad.Clif (countArgs LenStack getArgValList opArg opArgval)

/-! ### Keys -/

/-- `enum vsi_key_arg` -/
inductive VsiKeyArg where
  | mode
  | mgrid2
  | typeid
  | typeidver
  | vsiid
  | filter
  | hints
  | oui
  | invalid
  deriving DecidableEq, Repr

/-- The numbers of `enum vsi_key_arg`. Those below `VSI_MAND_NUM_ARG` are mandatory. -/
def VsiKeyArg.num : VsiKeyArg → Nat
  | .mode => 0
  | .mgrid2 => 1
  | .typeid => 2
  | .typeidver => 3
  | .vsiid => 4
  | .filter => 5
  | .hints => 7
  | .oui => 8
  | .invalid => 9

def vsiMandNumArg : Nat := 6

def vsiKeyHandle : List (CStr × VsiKeyArg) :=
  [("mode".toList, .mode), ("mgrid2".toList, .mgrid2), ("typeid".toList, .typeid),
    ("typeidver".toList, .typeidver), ("uuid".toList, .vsiid), ("hints".toList, .hints),
    ("filter".toList, .filter), ("oui".toList, .oui)]

def getKeyworkVal (keyword : CStr) : VsiKeyArg :=
  ((vsiKeyHandle.find? fun h => h.1 = keyword).map Prod.snd).getD .invalid

/-! ### Values -/

/-- `VDP22_MIGTO`, `VDP22_MIGFROM` -/
def vdp22Migto : UInt8 := 16
def vdp22Migfrom : UInt8 := 32

/-- `getnumber`: the `long` that `strtol` gives is stored in 32 bits. -/
def getnumber (s : CStr) (min max : UInt32) : Option UInt32 :=
  let r := strtol 0 s
  let no := UInt32.ofInt r.value
  if r.rest = [] ∧ min ≤ no ∧ no ≤ max then some no else none

/-- The loop of `vdp_str2uuid` with room for this many bytes: the bytes, and what is left. A byte
takes two characters, also where its second character is no digit. -/
def uuidLoop : Nat → CStr → List UInt8 × CStr
  | _, [] => ([], [])
  | 0, s => ([], s)
  | room + 1, c :: s =>
    if c = '-' then uuidLoop (room + 1) s
    else
      match scanHexByte (c :: s) with
      | none => uuidLoop (room + 1) s
      | some (b, _) =>
        match s with
        | [] => ([b], [])
        | _ :: s =>
          let r := uuidLoop room s
          (b :: r.1, r.2)

/-- A field of sixteen bytes with these first -/
def Octets.ofBytes (bytes : Bytes) : Octets 16 where
  bytes := (bytes ++ List.replicate 16 0).take 16
  length_eq := by simp

/-- `vdp_str2uuid` for a field of sixteen bytes: what is in the field then, and the answer -/
def vdpStr2uuid (old : Octets 16) (buffer : CStr) : Octets 16 × Int :=
  if buffer.all fun c => (digitValue 16 c).isSome || c = '-' then
    let r := uuidLoop 16 buffer
    (Octets.ofBytes r.1, if r.2 = [] then 0 else -2)
  else (old, -1)

/-- `getmgr2id`. A text that is no UUID is stored in front of what is there. -/
def getmgr2id (p : VdpnlVsi) (s : CStr) : Option VdpnlVsi :=
  let (field, rc) := vdpStr2uuid p.vsiMgrid2 s
  if rc = 0 then some { p with vsiMgrid2 := field }
  else if s.all Char.isAlphanum ∧ s.length < 16 then
    let text := s.map fun c => UInt8.ofNat c.toNat
    some { p with vsiMgrid2 := Octets.ofBytes (text ++ field.bytes.drop text.length) }
  else none

/-- `strcasecmp` of a word in lower case -/
def isWord (word : String) (s : CStr) : Bool := s.map Char.toLower = word.toList

def gethints (p : VdpnlVsi) (s : CStr) : Option VdpnlVsi :=
  if isWord "to" s then some { p with hints := vdp22Migto }
  else if isWord "from" s then some { p with hints := vdp22Migfrom }
  else if isWord "none" s ∨ isWord "-" s then some { p with hints := 0 }
  else none

/-- The words of `getmode` -/
def modeWord (s : CStr) : Option UInt8 :=
  if isWord "assoc" s then some vdp22Assoc
  else if isWord "preassoc" s then some vdp22Preassoc
  else if isWord "preassoc-rr" s then some vdp22PreassocWithRr
  else if isWord "deassoc" s then some vdp22Deassoc
  else none

/-- The digits of `getmode`, for draft 0.2 -/
def modeDigit : CStr → Option UInt8
  | ['0'] => some (vdp22Preassoc - 1)
  | ['1'] => some (vdp22PreassocWithRr - 1)
  | ['2'] => some (vdp22Assoc - 1)
  | ['3'] => some (vdp22Deassoc - 1)
  | _ => none

/-- The error code in brackets, which `getmode` stores, and the word before it -/
def readBracket (p : VdpnlVsi) (s : CStr) : Option (CStr × VdpnlVsi) :=
  match strchr '[' s with
  | none => some (s, p)
  | some (word, behind) =>
    let r := strtol 0 behind
    if r.rest.head? = some ']' then some (word, { p with response := UInt16.ofInt r.value })
    else none

def getmode (p : VdpnlVsi) (s : CStr) : Option VdpnlVsi :=
  if s.length = 1 then
    (modeDigit s).map fun request => { p with request, nlVersion := .nlf1 }
  else do
    let (word, p) ← readBracket p s
    let request ← modeWord word
    some { p with request, nlVersion := .nlf2 }

/-! ### Filters -/

/-- How `getfid` takes a filter apart: the VLAN, the MAC address and the group -/
def splitFid (value : CStr) : CStr × Option CStr × Option CStr :=
  match strchr '-' value with
  | none => (value, none, none)
  | some (vlan, behind) =>
    match strchr '-' behind with
    | none => (vlan, some behind, none)
    | some ([], group) => (vlan, none, some group)
    | some (mac, group) => (vlan, some mac, some group)

/-- Six bytes as a MAC address -/
def macOfBytes (bytes : Bytes) : Option MacAddr :=
  if h : bytes.length = ethAlen then some ⟨bytes, h⟩ else none

/-- A filter as `getfid` reads it, where the MAC address and the group may be missing -/
structure Fid where
  vlan : UInt32
  mac : Option MacAddr
  gpid : Option UInt32
  deriving DecidableEq

/-- `fif` of `getfid` -/
def Fid.fif (f : Fid) : UInt8 :=
  let fif := if f.mac.isSome then vdp22FfmtMacvid else vdp22FfmtVid
  if f.gpid.isSome then fif + 2 else fif

/-- The entry that `getfid` appends -/
def Fid.entry (f : Fid) : VdpnlMac where
  vlan := vdp22GetVlanid f.vlan.toUInt16
  qos := (vdp22GetQos f.vlan.toUInt16).toUInt8
  gpid := (f.gpid.getD 0).toUInt64
  mac := f.mac.getD .zero

/-- The MAC address of a filter, when it has one -/
def readMac : Option CStr → Option (Option MacAddr)
  | none => some none
  | some s => ((scanHexBytes ethAlen s).bind macOfBytes).map some

/-- The group of a filter, when it has one. Nothing behind the dash is no group. -/
def readGroup : Option CStr → Option (Option UInt32)
  | none | some [] => some none
  | some group => (getnumber group 1 0xffffffff).map some

/-- What `getfid` reads before it looks at the list -/
def readFid (value : CStr) : Option Fid := do
  let vlan ← getnumber (splitFid value).1 0 0xffff
  let mac ← readMac (splitFid value).2.1
  let gpid ← readGroup (splitFid value).2.2
  some { vlan, mac, gpid }

/-- `getfid`. A MAC address is compared with all entries of the list, also with those that are not
filled yet. -/
def getfid (p : VdpnlVsi) (value : CStr) (idx : Nat) : Option VdpnlVsi := do
  let f ← readFid value
  if p.filterFmt ≠ 0 ∧ p.filterFmt ≠ f.fif then none
  else if p.maclist.any fun m => f.mac = some m.mac then none
  else
    some { p with
      filterFmt := f.fif
      maclist := p.maclist.modify idx fun m => { f.entry with changed := m.changed } }

/-! ### OUI data -/

/-- `struct vdpnl_oui_data_s`. An entry without data is all zero. -/
structure VdpnlOuiData (δ : Type) where
  ouiName : CStr := []
  data : Option δ := none
  deriving DecidableEq

/-- The handlers `str2vdpnl_hndlr` by the names that are registered. A name may have none. -/
abbrev OuiReaders (δ : Type) := CStr → Option (Option (CStr → Option δ))

variable {δ : Type}

def vdp22OuiMaxName : Nat := 20

/-- `oui_str2vdpnl`. `stale` is `oui_name_len` before it is read. -/
def ouiStr2vdpnl (readers : OuiReaders δ) (stale : UInt8) (ouiList : List (VdpnlOuiData δ))
    (p : CStr) (idx : Nat) : Except Fault (Option (List (VdpnlOuiData δ))) :=
  let ouiNameLen := hexNat 1 p stale.toNat
  if vdp22OuiMaxName ≤ ouiNameLen then .ok none
  else if p.length < 2 ∧ ouiNameLen ≠ 0 then .error .outOfBounds
  else
    let ouiName := (p.drop 2).take ouiNameLen
    match readers ouiName with
    | none => .ok none
    | some str2vdpnl =>
      if ouiList.length ≤ idx then .error .outOfBounds
      else
        match str2vdpnl with
        | none => .ok none
        | some str2vdpnl =>
          if p.length < 2 + ouiNameLen then .error .outOfBounds
          else
            .ok ((str2vdpnl (p.drop (2 + ouiNameLen))).map fun data =>
              ouiList.set idx { ouiName, data := some data })

/-! ### Requests -/

/-- The variables of `vdp22_parse_str_vdpnl`. `macsz` and `ouisz` are the lengths of the lists. -/
structure VsiText (δ : Type) where
  vsi : VdpnlVsi
  ouiList : List (VdpnlOuiData δ)
  idx : Nat := 0
  ouiIdx : Nat := 0
  numArgKeys : Nat := 0

/-- The request of `set_arg_vsi3` before its text is read -/
def VsiText.zero (δ : Type) (size ouiSize : Nat) : VsiText δ where
  vsi := { maclist := List.replicate size {} }
  ouiList := List.replicate ouiSize {}

/-- The branches of `vdp22_parse_str_vdpnl` -/
def parseValue (readers : OuiReaders δ) (stale : UInt8) (s : VsiText δ) (key : VsiKeyArg)
    (value : CStr) : Except Fault (Option (VsiText δ)) :=
  match key with
  | .mode => .ok ((getmode s.vsi value).map fun vsi => { s with vsi })
  | .mgrid2 => .ok ((getmgr2id s.vsi value).map fun vsi => { s with vsi })
  | .typeid =>
    .ok ((getnumber value 0 0xffffff).map fun no =>
      { s with vsi := { s.vsi with vsiTypeid := no.toUInt64 } })
  | .typeidver =>
    .ok ((getnumber value 0 0xff).map fun no =>
      { s with vsi := { s.vsi with vsiTypeversion := no.toUInt8 } })
  | .vsiid =>
    let (field, rc) := vdpStr2uuid s.vsi.vsiUuid value
    .ok (if rc ≠ 0 then none
      else some { s with vsi := { s.vsi with vsiUuid := field, vsiIdfmt := vdp22IdUuid } })
  | .filter =>
    if s.idx < s.vsi.maclist.length then
      .ok ((getfid s.vsi value s.idx).map fun vsi => { s with vsi, idx := s.idx + 1 })
    else .ok (some { s with idx := s.idx + 1 })
  | .hints => .ok ((gethints s.vsi value).map fun vsi => { s with vsi })
  | .oui => do
    let ouiList ← ouiStr2vdpnl readers stale s.ouiList value s.ouiIdx
    pure (ouiList.map fun ouiList => { s with ouiList, ouiIdx := s.ouiIdx + 1 })
  | .invalid => .ok none

/-- One turn of the loop of `vdp22_parse_str_vdpnl` -/
def parseArg (readers : OuiReaders δ) (stale : UInt8) (s : VsiText δ) (a : CStr × CStr) :
    Except Fault (Option (VsiText δ)) := do
  let key := getKeyworkVal a.1
  let r ← parseValue readers stale s key a.2
  pure (r.map fun s => { s with numArgKeys := s.numArgKeys ||| 2 ^ key.num })

/-- `ENOMEM` -/
def errEnomem : Int := -12

/-- `vdp22_parse_str_vdpnl`: the answer, and the request that was read -/
def vdp22ParseStrVdpnl (readers : OuiReaders δ) (stale : UInt8) (stack : LenStack)
    (vsi : VsiText δ) (origArgvalue : CStr) : Except Fault (Int × VsiText δ) := do
  let numargs := countArgs origArgvalue.length
  if numargs = 0 then pure (errEnomem, vsi)
  else
    let args ← getArgValList stack numargs origArgvalue
    if args = [] then pure (errEnomem, vsi)
    else
      let args := args.filterMap fun a =>
        a.arg.bind fun key => a.value.map fun value => (key, value)
      match ← checkAll (parseArg readers stale) vsi args with
      | none => pure (errEinval, vsi)
      | some vsi => pure (0, vsi)

/-- `str2vdpnl`. A request without all mandatory keys is only logged. -/
def str2vdpnl (readers : OuiReaders δ) (stale : UInt8) (stack : LenStack) (vsi : VsiText δ)
    (origArgvalue : CStr) : Except Fault (Int × VsiText δ) := do
  let vsiMandMask := 2 ^ vsiMandNumArg - 1
  let (rc, vsi) ← vdp22ParseStrVdpnl readers stale stack vsi origArgvalue
  if rc ≠ 0 then pure (rc, vsi)
  else if vsi.numArgKeys &&& vsiMandMask = vsiMandMask then pure (0, vsi)
  else pure (rc, vsi)

/-! ### Commands -/

/-- The answers of `cmd_status` and `enum vdp22_cmd_status` -/
def cmdSuccess : Int := 0
def cmdFailed : Int := 1
def cmdDeviceNotFound : Int := 2
def cmdBadParams : Int := 5
def cmdNotCapable : Int := 8
def cmdMaxStatus : Int := 12
def cmdVdpProtNoSupport : Int := cmdMaxStatus + 1
def cmdVdpNomem : Int := cmdMaxStatus + 2
def cmdVdpBusy : Int := cmdMaxStatus + 3

def getVdp22Retval (rc : Int) : Int :=
  if rc = 0 then cmdSuccess
  else if rc = errEprotonosupport then cmdVdpProtNoSupport
  else if rc = errEopnotsupp then cmdNotCapable
  else if rc = errEinval then cmdBadParams
  else if rc = errEnomem then cmdVdpNomem
  else if rc = errEbusy then cmdVdpBusy
  else if rc = errEnodev then cmdDeviceNotFound
  else cmdFailed

/-- What the command handlers ask the rest of the daemon -/
structure CmdEnv (δ : Type) where
  /-- `vdp22_cmdok` -/
  cmdok : Int
  /-- `port_find_by_ifindex` -/
  portFound : Bool
  /-- `ifok` -/
  ifok : Int
  /-- `vdp22_request` -/
  request : VsiText δ → Int

def setArgVsi3 (env : CmdEnv δ) (readers : OuiReaders δ) (stale : UInt8) (stack : LenStack)
    (argvalue : CStr) (test : Bool) (size ouiSize : Nat) : Except Fault Int := do
  if env.cmdok ≠ cmdSuccess then pure env.cmdok
  else
    let (rc, vsi) ← str2vdpnl readers stale stack (VsiText.zero δ size ouiSize) argvalue
    if rc ≠ 0 then pure (getVdp22Retval rc)
    else if !env.portFound then pure cmdDeviceNotFound
    else if env.ifok ≠ cmdSuccess ∨ test then pure env.ifok
    else pure (getVdp22Retval (env.request vsi))

/-- The number of filters that the command word announces -/
def fidNo (ops : Nat) : Nat := (ops >>> 8) &&& 0xff

/-- The number of OUI entries that the command word announces -/
def ouiNo (ops : Nat) : Nat := (ops >>> 16) &&& 0xff

def setArgVsi2 (env : CmdEnv δ) (readers : OuiReaders δ) (stale : UInt8) (stack : LenStack)
    (ops : Nat) (argvalue : CStr) (test : Bool) : Except Fault Int :=
  if fidNo ops = 0 then .ok errEinval
  else if ops &&& opArg ≠ 0 ∧ ops &&& opArgval ≠ 0 then
    setArgVsi3 env readers stale stack argvalue test (fidNo ops) (ouiNo ops)
  else .ok cmdFailed

end Lldpad.Qbg
