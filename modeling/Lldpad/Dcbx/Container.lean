import Lldpad.Dcbx.Tlv
import Lldpad.Lib.Buffer
import Lldpad.Tlv.Pack

/-!
# `Lldpad.Dcbx.Container`: the TLV around the sub-TLVs

`unpack_dcbx1_tlvs`, `unpack_dcbx2_tlvs`, `bld_dcbx1_tlv` and `bld_dcbx2_tlv` of `tlv_dcbx.c`, with
their memory: the block of the TLV, which is as long as the TLV, and the copy of each sub-TLV. A
read or a write behind the end of a block stops the program, and so does a failed `assert`.
-/

namespace Lldpad.Dcbx

open Lldpad.Lib
open Lldpad.Lldp (Bytes)
open Lldpad.Tlv (UnpackedTlv tlvOk packTlv copyTo)

/-! ### Sub-TLVs -/

/-- `DCB_CONTROL_TLV` and `DCB_CONTROL_TLV2` -/
def dcbControlTlv : UInt8 := 1

/-- `DCB_PRIORITY_GROUPS_TLV` and `DCB_PRIORITY_GROUPS_TLV2` -/
def dcbPriorityGroupsTlv : UInt8 := 2

/-- `DCB_PRIORITY_FLOW_CONTROL_TLV` and `DCB_PRIORITY_FLOW_CONTROL_TLV2` -/
def dcbPriorityFlowControlTlv : UInt8 := 3

def dcbApplicationTlv : UInt8 := 5

def dcbApplicationTlv2 : UInt8 := 4

def dcbLlinkTlv : UInt8 := 6

def rcvdDcbx1TlvCtrl : UInt16 := 0x01

def rcvdDcbx2TlvCtrl : UInt16 := 0x02

def rcvdDcbxTlvPg : UInt16 := 0x04

def rcvdDcbxTlvPfc : UInt16 := 0x08

def rcvdDcbxTlvApp : UInt16 := 0x20

def rcvdDcbxTlvLlink : UInt16 := 0x40

/-- `DCB_OUI_LEN + OUI_SUBTYPE_LEN` -/
def dcbOuiSubtypeLen : Nat := 4

def dcbxHdrSubTypeOffset : Nat := 3

/-! ### What is stored -/

/-- What the loops write: `manifest` and `dcbdu` of the module, `dcbx_st` and `dupTlvs` of the
receive side of the agent. `hasDcbx1` says that `manifest->dcbx1` is set. -/
structure DcbxRx where
  manifest : Manifest := {}
  hasDcbx1 : Bool := false
  dcbdu : UInt16 := 0
  dcbxSt : Nat := 0
  dupTlvs : UInt8 := 0
  deriving DecidableEq

/-- A sub-TLV goes into its place `slot`, or counts as a duplicate. -/
def DcbxRx.keep (s : DcbxRx) (slot : Option Bytes) (m : Manifest) (rcvd : UInt16) (dup : UInt8) :
    DcbxRx :=
  if slot.isNone then { s with manifest := m, dcbdu := s.dcbdu ||| rcvd }
  else { s with dupTlvs := s.dupTlvs ||| dup }

/-- The places of the features, which both loops fill alike -/
def DcbxRx.keepPg (s : DcbxRx) (info : Bytes) : DcbxRx :=
  s.keep s.manifest.pg { s.manifest with pg := some info } rcvdDcbxTlvPg dupDcbxTlvPg

def DcbxRx.keepPfc (s : DcbxRx) (info : Bytes) : DcbxRx :=
  s.keep s.manifest.pfc { s.manifest with pfc := some info } rcvdDcbxTlvPfc dupDcbxTlvPfc

def DcbxRx.keepApp (s : DcbxRx) (info : Bytes) : DcbxRx :=
  s.keep s.manifest.app { s.manifest with app := some info } rcvdDcbxTlvApp dupDcbxTlvApp

def DcbxRx.keepLlink (s : DcbxRx) (info : Bytes) : DcbxRx :=
  s.keep s.manifest.llink { s.manifest with llink := some info } rcvdDcbxTlvLlink dupDcbxTlvLlink

/-- `DCB_CONTROL_TLV` in `unpack_dcbx1_tlvs`, where the mark decides and not the place -/
def DcbxRx.keepCtrl1 (s : DcbxRx) (info : Bytes) : DcbxRx :=
  if s.dcbdu &&& rcvdDcbx1TlvCtrl = 0 then
    { s with
      manifest := { s.manifest with ctrl := some info }
      dcbdu := s.dcbdu ||| rcvdDcbx1TlvCtrl }
  else { s with dupTlvs := s.dupTlvs ||| dupDcbxTlvCtrl }

/-- `DCB_CONTROL_TLV` in `unpack_dcbx2_tlvs` -/
def DcbxRx.keepCtrl2 (s : DcbxRx) (info : Bytes) : DcbxRx :=
  if s.hasDcbx1 then s
  else if s.manifest.ctrl.isNone then
    { s with
      manifest := { s.manifest with ctrl := some info }
      dcbdu := s.dcbdu ||| rcvdDcbx2TlvCtrl }
  else if s.dcbdu &&& rcvdDcbx2TlvCtrl ≠ 0 then
    { s with dupTlvs := s.dupTlvs ||| dupDcbxTlvCtrl }
  else s

/-- A sub-TLV with a sub-type, of which only the first application or link is kept -/
def DcbxRx.keepSubtype0 (s : DcbxRx) (dcbtlv : UnpackedTlv) (keep : DcbxRx → Bytes → DcbxRx) :
    Except Fault DcbxRx := do
  let subtype ← readAt dcbtlv.info dcbxHdrSubTypeOffset
  pure (if subtype = 0 then keep s dcbtlv.info else s)

/-- The `switch` of `unpack_dcbx1_tlvs`. `APP_FCOE_STYPE` and `LLINK_FCOE_STYPE` are 0. -/
def takeDcbx1 (dcbtlv : UnpackedTlv) (s : DcbxRx) : Except Fault DcbxRx :=
  -- `store if subtype 2 is not present`
  let onlyCin : Bool := s.dcbxSt = dcbxSubtype1
  if dcbtlv.type = dcbControlTlv then .ok (s.keepCtrl1 dcbtlv.info)
  else if dcbtlv.type = dcbPriorityGroupsTlv then
    .ok (if onlyCin then s.keepPg dcbtlv.info else s)
  else if dcbtlv.type = dcbPriorityFlowControlTlv then
    .ok (if onlyCin then s.keepPfc dcbtlv.info else s)
  else if dcbtlv.type = dcbApplicationTlv then
    if onlyCin then s.keepSubtype0 dcbtlv DcbxRx.keepApp else .ok s
  else if dcbtlv.type = dcbLlinkTlv then s.keepSubtype0 dcbtlv DcbxRx.keepLlink
  else .ok s

/-- The `switch` of `unpack_dcbx2_tlvs` -/
def takeDcbx2 (dcbtlv : UnpackedTlv) (s : DcbxRx) : Except Fault DcbxRx :=
  if dcbtlv.type = dcbControlTlv then .ok (s.keepCtrl2 dcbtlv.info)
  else if dcbtlv.type = dcbPriorityGroupsTlv then .ok (s.keepPg dcbtlv.info)
  else if dcbtlv.type = dcbPriorityFlowControlTlv then .ok (s.keepPfc dcbtlv.info)
  else if dcbtlv.type = dcbApplicationTlv2 then s.keepSubtype0 dcbtlv DcbxRx.keepApp
  else .ok s

/-! ### The loops -/

/-- The copy of a sub-TLV with the header `tl` -/
def copySubTlv (info : Bytes) (offset : Nat) (tl : UInt16) : Except Fault UnpackedTlv := do
  let body ← sliceAt info offset (tl &&& 0x01ff).toNat
  pure
    { type := (tl >>> 9).toUInt8
      length := tl &&& 0x01ff
      info := body
      info_length := body.property }

/-- The header at an offset, and the copy of what follows it -/
def readSubTlv (info : Bytes) (offset : Nat) : Except Fault UnpackedTlv := do
  let head ← sliceAt info offset 2
  copySubTlv info (offset + 2) (Tlv.ntohs head)

/-- The loop over the sub-TLVs. `last` is `end`, `current` counts the bytes so far. Nothing is
copied and nothing stored when the length is 0. -/
def unpackLoop (take : UnpackedTlv → DcbxRx → Except Fault DcbxRx) (info : Bytes) (last : Nat) :
    Nat → Nat → DcbxRx → Except Fault (DcbxRx × Bool)
  | 0, _, _ => .error .outOfFuel
  | fuel + 1, current, s => do
    let dcbtlv ← readSubTlv info (dcbOuiSubtypeLen + current)
    if dcbtlv.length = 0 then pure (s, false)
    else
      let s ← take dcbtlv s
      let current := current + (dcbtlv.length.toNat + 2)
      if current < last then unpackLoop take info last fuel current s
      else pure (s, true)

/-- What both functions share. A pass is over three bytes or more. -/
def unpackTlvs (take : UnpackedTlv → DcbxRx → Except Fault DcbxRx) (info : Bytes) (s : DcbxRx) :
    Except Fault (DcbxRx × Bool) := do
  -- `store highest dcbx subtype received`
  let subtype ← readAt info 3
  let s := { s with dcbxSt := max s.dcbxSt subtype.toNat }
  unpackLoop take info (info.length - dcbOuiSubtypeLen) (info.length + 1) 0 s

def unpackDcbx1Tlvs (info : Bytes) (s : DcbxRx) : Except Fault (DcbxRx × Bool) :=
  unpackTlvs takeDcbx1 info s

def unpackDcbx2Tlvs (info : Bytes) (s : DcbxRx) : Except Fault (DcbxRx × Bool) :=
  unpackTlvs takeDcbx2 info s

/-! ### Building -/

/-- A sub-TLV, as its `bld_` function leaves it. Its length is a `u16`. -/
def subTlv (type : UInt8) (info : Bytes) : UnpackedTlv where
  type := type
  length := UInt16.ofNat info.length
  info := info.take (UInt16.ofNat info.length).toNat
  info_length := by
    rw [List.length_take, UInt16.toNat_ofNat']
    exact Nat.min_eq_left (Nat.mod_le _ _)

/-- What a sub-TLV adds to the length -/
def addLength (length : UInt16) (dcbtlv : Option UnpackedTlv) : UInt16 :=
  match dcbtlv with
  | none => length
  | some t => if t.length ≠ 0 then length + t.length + 2 else length + t.length

/-- What an application adds to the length -/
def addAppLength (length : UInt16) (dcbtlv : Option UnpackedTlv) : UInt16 :=
  match dcbtlv with
  | none => length
  | some t => length + t.length + 2

/-- A sub-TLV goes behind `offset` bytes of the block. There is none behind the label `error`. -/
def appendSubTlv (built : Option (Bytes × Nat)) (dcbtlv : Option UnpackedTlv) :
    Except Fault (Option (Bytes × Nat)) :=
  match built, dcbtlv with
  | some (info, offset), some t =>
    if tlvOk t then do
      match ← packTlv t with
      | none => pure none
      | some ptlv =>
        if ptlv.size.toNat + offset > info.length then pure none
        else
          let info ← copyTo info offset (ptlv.tlv.take ptlv.size.toNat)
          pure (some (info, offset + ptlv.size.toNat))
    else .ok built
  | _, _ => .ok built

/-- The block with `INIT_DCB_OUI` and the subtype in front -/
def containerHead (subtype : UInt8) (length : UInt16) : Except Fault (Option (Bytes × Nat)) :=
  if dcbOuiSubtypeLen > length.toNat then .ok none
  else do
    let info ← copyTo (List.replicate length.toNat 0) 0 [0x00, 0x1b, 0x21]
    let info ← copyTo info 3 [subtype]
    pure (some (info, dcbOuiSubtypeLen))

/-- What both functions share: the block, whose length is that of the TLV -/
def bldContainer (subtype : UInt8) (length : UInt16) (dcbtlvs : List (Option UnpackedTlv)) :
    Except Fault (Option Bytes) := do
  let built ← containerHead subtype length
  match ← dcbtlvs.foldlM appendSubTlv built with
  | none => pure none
  | some (info, offset) =>
    -- `assert(offset == tlv->length)`
    assert (offset = length.toNat)
    pure (some info)

/-- `tlv->length` in `bld_dcbx1_tlv` -/
def dcbx1Length (control pg1 pfc1 app1 llink : Option UnpackedTlv) : UInt16 :=
  addLength (addAppLength (addLength (addLength (addLength 4 control) pg1) pfc1) app1) llink

/-- `tlv->length` in `bld_dcbx2_tlv` -/
def dcbx2Length (control pg2 pfc2 app2 : Option UnpackedTlv) : UInt16 :=
  addAppLength (addLength (addLength (addLength 4 control) pg2) pfc2) app2

def bldDcbx1Tlv (control pg1 pfc1 app1 llink : Option UnpackedTlv) : Except Fault (Option Bytes) :=
  bldContainer 1 (dcbx1Length control pg1 pfc1 app1 llink) [control, pg1, pfc1, app1, llink]

def bldDcbx2Tlv (control pg2 pfc2 app2 : Option UnpackedTlv) : Except Fault (Option Bytes) :=
  bldContainer 2 (dcbx2Length control pg2 pfc2 app2) [control, pg2, pfc2, app2]

/-- The container of the sub-TLVs that `dcbx_bld_tlv` has built for `dcbx_st` of the device -/
def bldDcbxTlv (st : Nat) (m : Manifest) : Except Fault (Option Bytes) :=
  let control := m.ctrl.map (subTlv dcbControlTlv)
  let pg := m.pg.map (subTlv dcbPriorityGroupsTlv)
  let pfc := m.pfc.map (subTlv dcbPriorityFlowControlTlv)
  if st = dcbxSubtype2 then bldDcbx2Tlv control pg pfc (m.app.map (subTlv dcbApplicationTlv2))
  else
    bldDcbx1Tlv control pg pfc (m.app.map (subTlv dcbApplicationTlv))
      (m.llink.map (subTlv dcbLlinkTlv))

end Lldpad.Dcbx
