import Lldpad.Dcbx.Setters

/-!
# `Lldpad.Dcbx.Tlv`: the TLVs of DCBX

`tlv_dcbx.c`: the sub-TLVs inside the organizationally specific TLV of DCBX, as the bytes
behind their headers. The `bld_` functions write them and mark the feature as sent, the
`process_` functions read them into the stores of the peer.

`Manifest` is what `unpack_dcbx1_tlvs` or `unpack_dcbx2_tlvs` found in a frame.
-/

namespace Lldpad.Dcbx

open Lldpad.Lib
open Lldpad.Lldp (Bytes)

/-! ### Numbers -/

def htonl (x : UInt32) : Bytes :=
  [(x >>> 24).toUInt8, (x >>> 16).toUInt8, (x >>> 8).toUInt8, x.toUInt8]

/-- `ntohl` of the four bytes at an offset -/
def ntohl (info : Bytes) (i : Nat) : UInt32 :=
  (info.getD i 0).toUInt32 <<< 24 ||| (info.getD (i + 1) 0).toUInt32 <<< 16 |||
    (info.getD (i + 2) 0).toUInt32 <<< 8 ||| (info.getD (i + 3) 0).toUInt32

/-- The value of the enumeration -/
def PfcType.toNat : PfcType → Nat
  | .disabled => 0
  | .enabled => 1
  | .invalid => 2

/-- The value of the enumeration -/
def StrictPriority.toNat : StrictPriority → Nat
  | .none => 0
  | .group => 1
  | .link => 2
  | .invalid => 3

/-- The member of the enumeration with the value of the two bits -/
def StrictPriority.ofByte (b : UInt8) : StrictPriority :=
  if b &&& 3 = 0 then .none
  else if b &&& 3 = 1 then .group
  else if b &&& 3 = 2 then .link
  else .invalid

/-- `BIT7`, `Enable` -/
def bit7 : UInt8 := 0x80

/-- `BIT6`, `Willing` -/
def bit6 : UInt8 := 0x40

/-- `BIT5`, `Error` -/
def bit5 : UInt8 := 0x20

/-! ### Building -/

/-- `struct dcbx_tlv_header` -/
def tlvHeader (p : FeatureProtocolAttribs) (subtype : Nat) : Bytes :=
  [UInt8.ofNat p.operVersion, UInt8.ofNat p.maxVersion,
    orFlag (orFlag (orFlag 0 bit7 p.enable) bit6 p.willing) bit5 p.error,
    UInt8.ofNat subtype]

/-- The feature counts as sent: `mark_pg_sent` and its siblings -/
def Stores.markSent {C : Type} (v : Stores C) : Stores C :=
  v.withFeat { v.feat with tlvSent := true }

def bldDcbxCtrlTlv (c : ControlProtocolAttribs) : Bytes :=
  [UInt8.ofNat c.operVersion, UInt8.ofNat c.maxVersion] ++ htonl c.seqNo ++ htonl c.ackNo

/-- A sub-TLV of a feature, if it advertises -/
def advertised {C : Type} (a : Attribs C) (info : Bytes) : Option Bytes :=
  if a.protocol.advertise then some info else none

def bldDcbx1PgTlv (a : Attribs PgConfig) : Option Bytes :=
  let up (i : Fin 8) : Bytes :=
    let p := a.config.tx.up i
    [p.bwgid <<< 5 ||| UInt8.ofNat p.strictPriority.toNat <<< 3, p.percentOfPgCap]
  advertised a (tlvHeader a.protocol 0 ++ List.ofFn a.config.tx.pgPercent ++
    (List.finRange 8).flatMap up)

/-- The nibble of a user priority in `pg_ids` -/
def pgNibble (t : TrafficAttribs) (i : Fin 8) : UInt8 :=
  if (t.up i).strictPriority = .link then 0xf else (t.up i).pgid &&& 0xf

def bldDcbx2PgTlv (a : Attribs PgConfig) : Option Bytes :=
  let n := pgNibble a.config.tx
  advertised a (tlvHeader a.protocol 0 ++
    [n 0 <<< 4 ||| n 1, n 2 <<< 4 ||| n 3, n 4 <<< 4 ||| n 5, n 6 <<< 4 ||| n 7] ++
    List.ofFn a.config.tx.pgPercent ++ [UInt8.ofNat a.config.numTcs])

/-- The byte `admin_map` -/
def adminMap (admin : Fin 8 → PfcType) : UInt8 :=
  (List.finRange 8).foldl (fun m i => m ||| UInt8.ofNat ((admin i).toNat <<< i.val)) 0

def bldDcbx1PfcTlv (a : Attribs PfcConfig) : Option Bytes :=
  advertised a (tlvHeader a.protocol 0 ++ [adminMap a.config.admin])

def bldDcbx2PfcTlv (a : Attribs PfcConfig) : Option Bytes :=
  advertised a (tlvHeader a.protocol 0 ++
    [adminMap a.config.admin, UInt8.ofNat a.config.numTcs])

def bldDcbx1AppTlv (a : Attribs AppConfig) (subtype : Nat) : Option Bytes :=
  advertised a (tlvHeader a.protocol subtype ++ takeBytes a.config.length a.config.appData)

/-- `PROTO_ID_FCOE` and its siblings, as they stand in a frame -/
def protoId : Fin 3 → Bytes
  | 0 => [0x89, 0x06]
  | 1 => [0x0c, 0xbc]
  | 2 => [0x89, 0x14]

/-- `PROTO_ID_L2_ETH_TYPE` and `PROTO_ID_SOCK_NUM`, the selector of the subtype -/
def selField : Fin 3 → UInt8
  | 0 => 0
  | 1 => 1
  | 2 => 0

/-- `set_proto`, and the map of the user priorities -/
def appEntry (i : Fin 3) (a : Attribs AppConfig) : Bytes :=
  protoId i ++ [selField i, 0x1b, 0x21] ++ takeBytes 1 a.config.appData

/-- `bld_dcbx2_app_tlv`. The header is that of the first application that is advertised. -/
def bldDcbx2AppTlv (d : Device) : Option Bytes :=
  ((List.finRange 3).find? fun i => (d.app i).feat.advertise).map fun first =>
    tlvHeader (d.app first).feat 0 ++
      ((List.finRange 3).filter fun i => (d.app i).feat.advertise).flatMap fun i =>
        appEntry i (d.app i).loc

def bldDcbxLlinkTlv (a : Attribs LlinkConfig) : Option Bytes :=
  advertised a (tlvHeader a.protocol llinkFcoeStype ++
    [orFlag 0 bit7 (a.config.llinkStatus = 1)])

/-- The sub-TLVs of a frame -/
structure Manifest where
  ctrl : Option Bytes := none
  pg : Option Bytes := none
  pfc : Option Bytes := none
  app : Option Bytes := none
  llink : Option Bytes := none
  deriving DecidableEq

def markAppSent (d : Device) : Device :=
  { d with
    appFcoe := d.appFcoe.markSent
    appIscsi := d.appIscsi.markSent
    appFip := d.appFip.markSent }

/-- The marks of a frame. In the CEE version the applications are marked only when one of
them is advertised. -/
def markSent (st : Nat) (d : Device) : Device :=
  let d := { d with pg := d.pg.markSent, pfc := d.pfc.markSent, llink := d.llink.markSent }
  if st = dcbxSubtype2 ∧ (bldDcbx2AppTlv d).isNone then d else markAppSent d

/-- `dcbx_bld_tlv` with `dcbx_st` of the device, where the administrator lets it send. The
logical link goes into a CIN frame only. -/
def dcbxBldTlv (st : Nat) (d : Device) : Device × Option Manifest :=
  if !d.active then (d, none)
  else if st = dcbxSubtype2 then
    (markSent st d, some {
      ctrl := some (bldDcbxCtrlTlv d.ctrl)
      pg := bldDcbx2PgTlv d.pg.loc
      pfc := bldDcbx2PfcTlv d.pfc.loc
      app := bldDcbx2AppTlv d })
  else
    (markSent st d, some {
      ctrl := some (bldDcbxCtrlTlv d.ctrl)
      pg := bldDcbx1PgTlv d.pg.loc
      pfc := bldDcbx1PfcTlv d.pfc.loc
      app := bldDcbx1AppTlv d.appFcoe.loc 0
      llink := bldDcbxLlinkTlv d.llink.loc })

/-! ### Reading -/

/-- What the agent knows about the frame: `dcbx_st`, `dupTlvs` and `tooManyNghbrs` of its
receive side -/
structure RxInfo where
  dcbxSt : Nat
  dupTlvs : UInt8 := 0
  tooManyNghbrs : Bool := false

/-- The header of a sub-TLV -/
def headerProtocol (info : Bytes) : FeatureProtocolAttribs where
  operVersion := (info.getD 0 0).toNat
  maxVersion := (info.getD 1 0).toNat
  enable := hasFlag (info.getD 2 0) bit7
  willing := hasFlag (info.getD 2 0) bit6
  error := hasFlag (info.getD 2 0) bit5

/-- The flags of double TLVs that go into the store of a feature -/
def dupBits (rx : RxInfo) (flag : UInt8) : UInt8 :=
  orFlag (orFlag 0 dupDcbxTlvCtrl (hasFlag rx.dupTlvs dupDcbxTlvCtrl)) flag
    (hasFlag rx.dupTlvs flag)

/-- The protocol variables of a feature of the peer that has a TLV -/
def peerProtocol (rx : RxInfo) (flag : UInt8) (info : Bytes) : FeatureProtocolAttribs :=
  { headerProtocol info with
    advertise := true
    tlvPresent := true
    dcbxSt := rx.dcbxSt
    errorFlag := dupBits rx flag }

def processDcbxCtrlTlv (rx : RxInfo) (info : Bytes) (d : Device) : Device :=
  if info.length ≠ 10 then d
  else putPeerControl {
    operVersion := (info.getD 0 0).toNat
    maxVersion := (info.getD 1 0).toNat
    seqNo := ntohl info 2
    ackNo := ntohl info 6
    rxDcbTlvState := .present
    errorFlag := orFlag (orFlag 0 dupDcbxTlvCtrl (hasFlag rx.dupTlvs dupDcbxTlvCtrl))
      tooManyNghbrs rx.tooManyNghbrs } d

/-- The nibble of a user priority in a CEE sub-TLV -/
def readNibble (info : Bytes) (i : Fin 8) : UInt8 :=
  let b := info.getD (4 + i.val / 2) 0
  if i.val % 2 = 0 then b >>> 4 else b &&& 0xf

/-- The lowest group that no user priority is in. There is none when all eight are used. -/
def unusedPgid (nibble : Fin 8 → UInt8) : UInt8 :=
  match (List.finRange 8).find? fun j : Fin 8 => ∀ i, (nibble i).toNat ≠ j.val with
  | some j => UInt8.ofNat j
  | none => 8

/-- A direction of the priority groups of a CEE sub-TLV -/
def readTraffic2 (info : Bytes) : TrafficAttribs where
  pgPercent i := info.getD (8 + i.val) 0
  up i :=
    let n := readNibble info i
    { pgid := if n = linkStrictPgid then unusedPgid (readNibble info) else n
      bwgid := UInt8.ofNat i
      strictPriority := if n = linkStrictPgid then .link else .none }

/-- A direction of the priority groups of a CIN sub-TLV -/
def readTraffic1 (info : Bytes) : TrafficAttribs where
  pgPercent i := info.getD (4 + i.val) 0
  up i :=
    let b := info.getD (12 + 2 * i.val) 0
    { pgid := UInt8.ofNat i
      bwgid := b >>> 5
      percentOfPgCap := info.getD (13 + 2 * i.val) 0
      strictPriority := StrictPriority.ofByte (b >>> 3) }

/-- `process_dcbx_pg_tlv`, and whether it is taken. The array `used` has eight entries. -/
def processDcbxPgTlv (rx : RxInfo) (info : Bytes) (d : Device) :
    Except Fault (Device × Bool) :=
  let protocol := peerProtocol rx dupDcbxTlvPg info
  if rx.dcbxSt = dcbxSubtype2 then
    if info.length ≠ 17 then .ok (d, false)
    else if ∃ i, 8 ≤ (readNibble info i).toNat ∧ readNibble info i ≠ linkStrictPgid then
      .error .outOfBounds
    else
      let t := readTraffic2 info
      .ok (putPeerPg { protocol, config := { tx := t, rx := t
                                             numTcs := (info.getD 16 0).toNat } } d, true)
  else
    if info.length ≠ 28 then .ok (d, false)
    else
      let t := readTraffic1 info
      .ok (putPeerPg { protocol, config := { tx := t, rx := t } } d, true)

/-- `process_dcbx_pfc_tlv`, and whether it is taken -/
def processDcbxPfcTlv (rx : RxInfo) (info : Bytes) (d : Device) : Device × Bool :=
  let cee : Bool := rx.dcbxSt = dcbxSubtype2
  if info.length ≠ (if cee then 6 else 5) then (d, false)
  else
    (putPeerPfc {
      protocol := peerProtocol rx dupDcbxTlvPfc info
      config := {
        admin := fun i =>
          if info.getD 4 0 >>> UInt8.ofNat i &&& 1 = 1 then .enabled else .disabled
        numTcs := if cee then (info.getD 5 0).toNat else 0 } } d, true)

/-- What the loop over the entries of a CEE application sub-TLV carries on. `subtype` is left
as it is by an entry whose selector does not belong to its protocol. -/
structure AppLoop where
  dev : Device
  subtype : Nat := 0
  found : List Nat := []

/-- The subtype of an entry with this selector and this protocol -/
def entrySubtype (sel : UInt8) (proto : Bytes) : Option (Fin 3) :=
  (List.finRange 3).find? fun i => sel = selField i ∧ proto = protoId i

/-- The loop over the entries -/
def readAppEntries (protocol : FeatureProtocolAttribs) : Bytes → AppLoop → AppLoop
  | p0 :: p1 :: b :: o1 :: o2 :: up :: rest, s =>
    let sel := b &&& 3
    if (sel ≠ 0 ∧ sel ≠ 1) ∨ (∀ i, [p0, p1] ≠ protoId i) ∨
        (b &&& 0xfc ≠ 0 ∨ o1 ≠ 0x1b ∨ o2 ≠ 0x21) then
      readAppEntries protocol rest s
    else
      let s :=
        match entrySubtype sel [p0, p1] with
        | some i => { s with subtype := i.val, found := i.val :: s.found }
        | none => s
      readAppEntries protocol rest { s with
        dev := putPeerApp s.subtype
          { protocol := { protocol with tlvPresent := true }
            config := { length := 1, appData := [up] } } s.dev }
  | _, s => s

/-- An application that the peer does not send -/
def nullApp : Attribs AppConfig := { config := {} }

/-- The applications that are not in `found` -/
def nullApps (found : List Nat) (d : Device) : Device :=
  (List.range dcbMaxApptlv).foldl
    (fun d i => if i ∈ found then d else putPeerApp i nullApp d) d

def dcbMaxTlvLength : Nat := 507

/-- `process_dcbx_app_tlv`, and whether it is taken -/
def processDcbxAppTlv (rx : RxInfo) (info : Bytes) (d : Device) : Device × Bool :=
  let protocol : FeatureProtocolAttribs :=
    { headerProtocol info with
      dcbxSt := rx.dcbxSt
      errorFlag := dupBits rx dupDcbxTlvApp }
  if info.length < 4 then (d, false)
  else if rx.dcbxSt = dcbxSubtype2 then
    let s := readAppEntries protocol (info.drop 4) { dev := d }
    (nullApps s.found s.dev, true)
  else if rx.dcbxSt = dcbxSubtype1 then
    if dcbMaxTlvLength < info.length - 4 then (d, false)
    else
      (putPeerApp (info.getD 3 0).toNat
        { protocol := { protocol with tlvPresent := true }
          config := { length := info.length - 4, appData := info.drop 4 } } d, true)
  else (d, false)

/-- `process_dcbx_llink_tlv`, and whether it is taken -/
def processDcbxLlinkTlv (rx : RxInfo) (info : Bytes) (d : Device) : Device × Bool :=
  if info.length ≠ 5 then (d, false)
  else
    (putPeerLlink {
      protocol := peerProtocol rx dupDcbxTlvLlink info
      config := { llinkStatus := if hasFlag (info.getD 4 0) bit7 then 1 else 0 } } d, true)

/-! ### The stores of the peer after a frame -/

/-- A feature of the peer that is not present -/
def Attribs.absent {C : Type} (a : Attribs C) : Attribs C :=
  { a with protocol := { a.protocol with tlvPresent := false } }

/-- `check_feature_not_present` of the priority groups -/
def notPresentPg (d : Device) : Device :=
  if d.pg.peerFeat.tlvPresent then putPeerPg d.pg.peer.absent d else d

/-- `check_feature_not_present` of PFC -/
def notPresentPfc (d : Device) : Device :=
  if d.pfc.peerFeat.tlvPresent then putPeerPfc d.pfc.peer.absent d else d

/-- `check_feature_not_present` of the logical link -/
def notPresentLlink (d : Device) : Device :=
  if d.llink.peerFeat.tlvPresent then putPeerLlink d.llink.peer.absent d else d

/-- The priority groups of a frame -/
def readPg (rx : RxInfo) (m : Manifest) (d : Device) : Except Fault Device :=
  match m.pg with
  | none => .ok (notPresentPg d)
  | some info => do
    let (d, ok) ← processDcbxPgTlv rx info d
    pure (if ok then d else notPresentPg d)

/-- PFC of a frame -/
def readPfc (rx : RxInfo) (m : Manifest) (d : Device) : Device :=
  match m.pfc with
  | none => notPresentPfc d
  | some info =>
    let (d, ok) := processDcbxPfcTlv rx info d
    if ok then d else notPresentPfc d

/-- The applications of a frame, and whether the feature machines run for them -/
def readApp (rx : RxInfo) (m : Manifest) (d : Device) : Device × Bool :=
  match m.app with
  | none => (nullApps [] d, true)
  | some info => processDcbxAppTlv rx info d

/-- The logical link of a frame -/
def readLlink (rx : RxInfo) (m : Manifest) (d : Device) : Device :=
  match m.llink with
  | none => notPresentLlink d
  | some info =>
    let (d, ok) := processDcbxLlinkTlv rx info d
    if ok then d else notPresentLlink d

/-- `EventFlag` of `mibUpdateObjects`. It has every feature but applications whose TLV was not
taken. -/
def remoteFlags (apps : Bool) : EventFlag :=
  [.pg .rem, .pfc .rem] ++ (if apps then (List.range dcbMaxApptlv).map (.app .rem) else []) ++
    [.llink .rem]

/-- The stores after a frame, and whether the applications are part of the event -/
def readManifest (rx : RxInfo) (m : Manifest) (d : Device) : Except Fault (Device × Bool) := do
  let d := match m.ctrl with
    | none => d
    | some info => processDcbxCtrlTlv rx info d
  let d ← readPg rx m d
  let (d, apps) := readApp rx m (readPfc rx m d)
  pure (readLlink rx m d, apps)

/-- `mibUpdateObjects`, up to the run of the protocol -/
def writeManifest (rx : RxInfo) (m : Manifest) (d : Device) : Except Fault Write := do
  let (d, apps) ← readManifest rx m d
  pure { dev := d, run := .protocol (remoteFlags apps) (dcbMaxApptlv + 1) }

def mibUpdateObjects (drv : Driver) (rx : RxInfo) (m : Manifest) (d : Device) :
    Except Fault Device := do
  let w ← writeManifest rx m d
  w.finish drv

/-! ### `dcbx_mibDeleteObjects` -/

/-- The event of a feature of the peer that was present -/
def goneFlags (d : Device) : EventFlag :=
  (if d.pg.peerFeat.tlvPresent then [.pg .rem] else []) ++
  (if d.pfc.peerFeat.tlvPresent then [.pfc .rem] else []) ++
  ((List.finRange 3).filter fun i => (d.app i).peerFeat.tlvPresent).map (.app .rem ·) ++
  (if d.llink.peerFeat.tlvPresent then [.llink .rem] else [])

/-- An application of the peer that was present -/
def goneApp (d : Device) (i : Fin 3) : Device :=
  if (d.app i).peerFeat.tlvPresent then
    putPeerApp i
      { (d.app i).peer.absent with config := { (d.app i).peer.config with length := 0 } } d
  else d

/-- The stores after the peer expired -/
def expirePeer (d : Device) : Device :=
  let d := notPresentPfc (notPresentPg d)
  let d := (List.finRange 3).foldl goneApp d
  let d := notPresentLlink d
  putPeerControl { d.peerCtrl with rxDcbTlvState := .expired } d

/-- `dcbx_mibDeleteObjects`, up to the run of the protocol -/
def writeExpiry (d : Device) : Write where
  dev := expirePeer d
  run := if (goneFlags d).isEmpty then .idle
    else .protocol (goneFlags d) (dcbMaxApptlv + 1)

def dcbxMibDeleteObjects (drv : Driver) (d : Device) : Except Fault Device :=
  (writeExpiry d).finish drv

/-! ## The priority groups as the hardware gets them

`set_hw_pg` (`lldp_dcbx_nl.c`) makes two messages of a configuration, one for each direction. A
message has a `struct tc_config` for each traffic class and a percentage for each bandwidth group.

The eight `struct tc_config` are on the stack. Only `up_to_tc_bitmap` is cleared, so what stands
there before (`stack`) is an argument. The second message starts from what the first one left.
What the driver answers is `Driver.setHw`.
-/

/-- `struct tc_config`, in the order in which its members are sent -/
structure TcConfig where
  bwgid : UInt8
  upToTcBitmap : UInt8
  prioType : UInt8
  tcPercent : UInt8
  deriving DecidableEq

/-- `DCB_CMD_PGTX_SCFG` and `DCB_CMD_PGRX_SCFG` -/
inductive PgCommand where
  | pgtxScfg
  | pgrxScfg
  deriving DecidableEq

/-- What `set_pg_cfg` sends: the four parameters of each class, and the percentage of each bandwidth
group -/
structure PgCfg where
  cmd : PgCommand
  tc : Fin 8 → TcConfig
  bwg : Fin 8 → UInt8
  deriving DecidableEq

/-- One user priority, in the direction `t`: it is entered where its group is the number of a
class. The groups are those of `groups`. -/
def enterPriority (groups t : TrafficAttribs) (tc : Fin 8 → TcConfig) (i : Fin 8) :
    Fin 8 → TcConfig := fun j =>
  if (groups.up i).pgid.toNat = j then
    { tc j with
      upToTcBitmap := (tc j).upToTcBitmap ||| 1 <<< UInt8.ofNat i
      prioType := UInt8.ofNat (t.up i).strictPriority.toNat
      tcPercent := (t.up i).percentOfPgCap }
  else tc j

/-- The classes of the direction `t`, from those that are there before -/
def tcConfigs (groups t : TrafficAttribs) (tc : Fin 8 → TcConfig) : Fin 8 → TcConfig :=
  (List.finRange 8).foldl (enterPriority groups t) fun j => { tc j with upToTcBitmap := 0 }

/-- The message of the direction `t` -/
def pgMessage (cmd : PgCommand) (groups t : TrafficAttribs) (tc : Fin 8 → TcConfig) : PgCfg where
  cmd := cmd
  tc i := { tcConfigs groups t tc i with bwgid := (t.up i).bwgid }
  bwg i := t.pgPercent i

/-- `set_hw_pg`: both messages. The groups of the second one are those of the first one. -/
def setHwPg (defCfg pg : PgConfig) (operMode : Bool) (stack : Fin 8 → TcConfig) : PgCfg × PgCfg :=
  let pgTemp := if operMode then pg else defCfg
  let tx := pgMessage .pgtxScfg pgTemp.tx pgTemp.tx stack
  let rx := pgMessage .pgrxScfg pgTemp.tx pgTemp.rx tx.tc
  (tx, rx)

end Lldpad.Dcbx
