import Lldpad.Dcbx.Feature
import Lldpad.Dcbx.RuleChk

/-!
# `Lldpad.Dcbx.Device`: a device and its state machines

`Device` is what `dcb_protocol.c` keeps for one device between `dcbx_add_adapter` and
`dcbx_remove_adapter`. All the stores exist then, so a search by a device name succeeds, and
one by a subtype succeeds for the subtypes in use.

`runDcbProtocol` runs the feature machines of an event and then the control machine. The
driver is a parameter.
-/

namespace Lldpad.Dcbx

open Lldpad.Lib

/-! ### Features -/

/-- A feature, with its subtype -/
inductive Feature where
  | pg
  | pfc
  | appFcoe
  | appIscsi
  | appFip
  | llink
  deriving DecidableEq, Repr

/-- The configuration of a feature -/
abbrev Config : Feature → Type
  | .pg => PgConfig
  | .pfc => PfcConfig
  | .appFcoe | .appIscsi | .appFip => AppConfig
  | .llink => LlinkConfig

def dcbMaxApptlv : Nat := 3

def subtypeDefault : Nat := 0

def llinkFcoeStype : Nat := 0

def apptlvFind : Nat → Option Feature
  | 0 => some .appFcoe
  | 1 => some .appIscsi
  | 2 => some .appFip
  | _ => none

def llinkFind : Nat → Option Feature
  | 0 => some .llink
  | _ => none

/-- The features, in the order in which the source goes through them -/
def features : List Feature := [.pg, .pfc, .appFcoe, .appIscsi, .appFip, .llink]

/-- The flag of a double TLV of the feature -/
def dupFlag : Feature → UInt8
  | .pg => dupDcbxTlvPg
  | .pfc => dupDcbxTlvPfc
  | .appFcoe | .appIscsi | .appFip => dupDcbxTlvApp
  | .llink => dupDcbxTlvLlink

/-! ### Devices -/

/-- A device -/
structure Device where
  /-- `active` of its `struct dcbx_tlvs` -/
  active : Bool := false
  ctrl : ControlProtocolAttribs
  peerCtrl : ControlProtocolAttribs := {}
  pg : Stores PgConfig
  pfc : Stores PfcConfig
  appFcoe : Stores AppConfig
  appIscsi : Stores AppConfig
  appFip : Stores AppConfig
  llink : Stores LlinkConfig
  /-- the calls of `somethingChangedLocal` -/
  changes : Nat := 0
  deriving DecidableEq

namespace Device

/-- The stores of a feature -/
def get (d : Device) : (f : Feature) → Stores (Config f)
  | .pg => d.pg
  | .pfc => d.pfc
  | .appFcoe => d.appFcoe
  | .appIscsi => d.appIscsi
  | .appFip => d.appFip
  | .llink => d.llink

/-- The device with other stores of a feature -/
def set (d : Device) : (f : Feature) → Stores (Config f) → Device
  | .pg, v => { d with pg := v }
  | .pfc, v => { d with pfc := v }
  | .appFcoe, v => { d with appFcoe := v }
  | .appIscsi, v => { d with appIscsi := v }
  | .appFip, v => { d with appFip := v }
  | .llink, v => { d with llink := v }

/-- The local protocol variables of a feature -/
abbrev prot (d : Device) (f : Feature) : FeatureProtocolAttribs := (d.get f).loc.protocol

/-- The peer's protocol variables of a feature -/
abbrev peerProt (d : Device) (f : Feature) : FeatureProtocolAttribs := (d.get f).peer.protocol

/-- The device with other local protocol variables of every feature -/
def mapProt (d : Device) (g : FeatureProtocolAttribs → FeatureProtocolAttribs) : Device :=
  { d with
    pg := d.pg.withFeat (g d.pg.feat)
    pfc := d.pfc.withFeat (g d.pfc.feat)
    appFcoe := d.appFcoe.withFeat (g d.appFcoe.feat)
    appIscsi := d.appIscsi.withFeat (g d.appIscsi.feat)
    appFip := d.appFip.withFeat (g d.appFip.feat)
    llink := d.llink.withFeat (g d.llink.feat) }

@[simp] theorem set_get_self (d : Device) (f : Feature) (v : Stores (Config f)) :
    (d.set f v).get f = v := by
  cases f <;> rfl

theorem set_get_of_ne (d : Device) {f g : Feature} (v : Stores (Config f)) (h : g ≠ f) :
    (d.set f v).get g = d.get g := by
  cases f <;> cases g <;> first | rfl | exact absurd rfl h

@[simp] theorem set_active (d : Device) (f : Feature) (v : Stores (Config f)) :
    (d.set f v).active = d.active := by
  cases f <;> rfl

@[simp] theorem set_ctrl (d : Device) (f : Feature) (v : Stores (Config f)) :
    (d.set f v).ctrl = d.ctrl := by
  cases f <;> rfl

@[simp] theorem set_peerCtrl (d : Device) (f : Feature) (v : Stores (Config f)) :
    (d.set f v).peerCtrl = d.peerCtrl := by
  cases f <;> rfl

@[simp] theorem mapProt_get (d : Device) (g : FeatureProtocolAttribs → FeatureProtocolAttribs)
    (f : Feature) : (d.mapProt g).get f = (d.get f).withFeat (g (d.prot f)) := by
  cases f <;> rfl

theorem mem_features (f : Feature) : f ∈ features := by
  cases f <;> decide

end Device

/-! ### The operations of a feature -/

/-- The answers of the driver: `set_hw_pg`, `set_hw_pfc` and `set_hw_app` succeed or fail. The
second argument is `OperMode`, which `set_hw_app` does not read. -/
structure Driver where
  setHw : (f : Feature) → Config f → Bool → Bool

/-- `CopyConfigToOper` of the priority groups: everything but `num_tcs` -/
def copyPg (oper src : PgConfig) : PgConfig := { oper with tx := src.tx, rx := src.rx }

/-- `CopyConfigToOper` of PFC: the map -/
def copyPfc (oper src : PfcConfig) : PfcConfig := { oper with admin := src.admin }

/-- `CopyConfigToOper` of an application -/
def copyApp (oper src : AppConfig) : AppConfig where
  length := src.length
  appData := copyBytes src.length src.appData oper.appData

/-- `CopyConfigToOper` of the logical link -/
def copyLlink (_ src : LlinkConfig) : LlinkConfig := src

/-- `LocalPeerCompatible` of the priority groups. Only CIN compares them. -/
def compatiblePg (v : Stores PgConfig) : Bool :=
  if v.peerFeat.dcbxSt = dcbxSubtype1 then
    decide ((∀ i,
        (v.loc.config.tx.up i).bwgid = (v.peer.config.tx.up i).bwgid ∧
        (v.loc.config.tx.up i).strictPriority = (v.peer.config.tx.up i).strictPriority ∧
        (v.loc.config.tx.up i).percentOfPgCap = (v.peer.config.tx.up i).percentOfPgCap) ∧
      v.loc.config.tx.pgPercent = v.peer.config.tx.pgPercent)
  else true

/-- `LocalPeerCompatible` of PFC -/
def compatiblePfc (v : Stores PfcConfig) : Bool := v.loc.config.admin = v.peer.config.admin

/-- `LocalPeerCompatible` of an application -/
def compatibleApp (v : Stores AppConfig) : Bool :=
  v.loc.config.length = v.peer.config.length ∧
    takeBytes v.loc.config.length v.loc.config.appData =
      takeBytes v.loc.config.length v.peer.config.appData

/-- `set_configuration` of the priority groups. Only a remote change has the rules
checked. -/
def configurePg (drv : Driver) (pfc : PfcConfig) (side : Side) (v : Stores PgConfig) :
    Except Fault (Configured PgConfig) := do
  let oper := { v.oper.config with numTcs := v.loc.config.numTcs }
  let (oper, status) ←
    if side = .rem then dcbCheckConfig oper (some pfc) else pure (oper, .success)
  if status ≠ .success then pure { oper := oper, hw := [], ok := false }
  else pure {
    oper := oper
    hw := [(oper, some v.feat.operMode)]
    ok := drv.setHw .pg oper v.feat.operMode }

/-- `set_configuration` of PFC -/
def configurePfc (drv : Driver) (v : Stores PfcConfig) : Configured PfcConfig where
  oper := v.oper.config
  hw := [(v.oper.config, some v.feat.operMode)]
  ok := drv.setHw .pfc v.oper.config v.feat.operMode

/-- `appgroup_attribs`, the argument of `set_hw_app` -/
structure AppgroupAttribs where
  dcbAppIdtype : UInt8
  dcbAppId : UInt16
  dcbAppPriority : UInt8
  deriving DecidableEq, Repr

/-- The selector and the protocol of an application for the driver. They are
`DCB_APP_IDTYPE_ETHTYPE` with `APP_FCOE_ETHTYPE`, `DCB_APP_IDTYPE_PORTNUM` with
`APP_ISCSI_PORT`, and `DCB_APP_IDTYPE_ETHTYPE` with `APP_FIP_ETHTYPE`. -/
def appSelector : Fin 3 → UInt8 × UInt16
  | 0 => (0x00, 0x8906)
  | 1 => (0x01, 3260)
  | 2 => (0x00, 0x8914)

/-- `app_data` of `set_configuration`, from the operational store -/
def appgroup (i : Fin 3) (oper : AppConfig) : AppgroupAttribs where
  dcbAppIdtype := (appSelector i).1
  dcbAppId := (appSelector i).2
  dcbAppPriority := oper.appData.getD 0 0

/-- `set_configuration` of the FCoE application -/
def configureFcoe (drv : Driver) (v : Stores AppConfig) : Configured AppConfig where
  oper := v.oper.config
  hw := [(v.oper.config, none)]
  ok := drv.setHw .appFcoe v.oper.config true

/-- `set_configuration` of the iSCSI application -/
def configureIscsi (drv : Driver) (v : Stores AppConfig) : Configured AppConfig where
  oper := v.oper.config
  hw := [(v.oper.config, none)]
  ok := drv.setHw .appIscsi v.oper.config true

/-- `set_configuration` of the FIP application. It reads `OperMode` in the operational
store. -/
def configureFip (drv : Driver) (v : Stores AppConfig) : Configured AppConfig :=
  if v.oper.protocol.operMode then
    { oper := v.oper.config
      hw := [(v.oper.config, none)]
      ok := drv.setHw .appFip v.oper.config true }
  else { oper := v.oper.config, hw := [], ok := true }

/-- `set_configuration` of the logical link -/
def configureLlink (v : Stores LlinkConfig) : Configured LlinkConfig where
  oper := v.oper.config
  hw := []
  ok := true

/-- The operations of a feature of the device -/
def ops (drv : Driver) (d : Device) : (f : Feature) → FeatureOps (Config f)
  | .pg => { copy := copyPg
             localPeerCompatible := compatiblePg
             setConfiguration := configurePg drv d.pfc.oper.config }
  | .pfc => { copy := copyPfc
              localPeerCompatible := compatiblePfc
              setConfiguration := fun _ v => .ok (configurePfc drv v) }
  | .appFcoe => { copy := copyApp
                  localPeerCompatible := compatibleApp
                  setConfiguration := fun _ v => .ok (configureFcoe drv v) }
  | .appIscsi => { copy := copyApp
                   localPeerCompatible := compatibleApp
                   setConfiguration := fun _ v => .ok (configureIscsi drv v) }
  | .appFip => { copy := copyApp
                 localPeerCompatible := compatibleApp
                 setConfiguration := fun _ v => .ok (configureFip drv v) }
  | .llink => { copy := copyLlink
                localPeerCompatible := fun _ => false
                setConfiguration := fun _ v => .ok (configureLlink v) }

/-! ### `run_feature_protocol` -/

/-- One bit of `EventFlag` -/
inductive ChangeEvent where
  /-- `DCB_LOCAL_CHANGE_PG`, `DCB_REMOTE_CHANGE_PG` -/
  | pg (side : Side)
  /-- `DCB_LOCAL_CHANGE_PFC`, `DCB_REMOTE_CHANGE_PFC` -/
  | pfc (side : Side)
  /-- `DCB_LOCAL_CHANGE_APPTLV`, `DCB_REMOTE_CHANGE_APPTLV` -/
  | app (side : Side) (subtype : Nat)
  /-- `DCB_LOCAL_CHANGE_LLINK`, `DCB_REMOTE_CHANGE_LLINK` -/
  | llink (side : Side)
  deriving DecidableEq, Repr

/-- `EventFlag`, as the list of its bits -/
abbrev EventFlag := List ChangeEvent

/-- Where the change comes from -/
def ChangeEvent.side : ChangeEvent → Side
  | .pg s => s
  | .pfc s => s
  | .app s _ => s
  | .llink s => s

/-- The feature whose stores `run_feature_protocol` finds -/
def findFeature (subtype : Nat) : ChangeEvent → Option Feature
  | .pg _ => some .pg
  | .pfc _ => some .pfc
  | .app _ i => if i = subtype then apptlvFind subtype else none
  | .llink _ => llinkFind subtype

/-- `run_feature_protocol`. The caller sets one bit of `EventFlag`. -/
def runFeatureProtocol (drv : Driver) (d : Device) (e : ChangeEvent) (subtype : Nat) :
    Except Fault (Device × CmdStatus) :=
  if !d.active then .ok (d, .success)
  else
    match findFeature subtype e with
    | none => .ok (d, .deviceNotFound)
    | some f => do
      let flag := (d.peerProt f).errorFlag
      let dup := hasFlag flag dupDcbxTlvCtrl || hasFlag flag (dupFlag f)
      let (v, status) ← (d.get f).featureMachine (ops drv d f) e.side dup
        (e = .pfc .loc) d.ctrl d.peerCtrl
      pure (d.set f v, status)

/-! ### `run_control_protocol` -/

def featuresSynched (d : Device) : Bool :=
  features.all fun f =>
    (d.prot f).state != .listen || (d.prot f).syncd && (d.prot f).tlvSent

/-- `update_feature_syncd` for one feature -/
def updateSyncd (p : FeatureProtocolAttribs) : FeatureProtocolAttribs :=
  { p with syncd := p.syncd || !p.advertise || p.forceSend }

def updateFeatureSyncd (d : Device) : Device := d.mapProt updateSyncd

def Device.somethingChangedLocal (d : Device) : Device := { d with changes := d.changes + 1 }

/-- A new sequence number, and a frame with it -/
def sendNew (d : Device) : Device :=
  let d := updateFeatureSyncd d
  Device.somethingChangedLocal { d with ctrl := { d.ctrl with seqNo := d.ctrl.seqNo + 1 } }

/-- The peer has everything that was sent, and a feature has more to send. -/
def newToSend (d : Device) : Bool := d.ctrl.seqNo == d.ctrl.myAckNo && !featuresSynched d

/-- The label `send` of `run_control_protocol` -/
def controlSend (sendDcbTlv : Bool) (d : Device) : Device :=
  if newToSend d then sendNew d
  else if sendDcbTlv then d.somethingChangedLocal
  else d

/-- The numbers start again when the TLVs of the peer expired. -/
def resetNumbers (d : Device) : Device :=
  { d with
    ctrl := { d.ctrl with
      seqNo := 0, ackNo := 0, myAckNo := 0, operVersion := d.ctrl.maxVersion }
    peerCtrl := { d.peerCtrl with rxDcbTlvState := .reset } }

/-- The acknowledgement of the peer, and the answer to a new TLV of the peer. `MyAckNo` 0
means that the peer has started over. -/
def takeAck (d : Device) : Device × Bool :=
  let d := { d with ctrl := { d.ctrl with myAckNo := d.peerCtrl.ackNo } }
  if (d.ctrl.ackNo ≠ d.peerCtrl.seqNo ∨ d.ctrl.myAckNo = 0) ∧
      !hasFlag d.peerCtrl.errorFlag tooManyNghbrs then
    ({ d with ctrl := { d.ctrl with ackNo := d.peerCtrl.seqNo } }, true)
  else (d, false)

/-- `run_control_protocol`, a remote change -/
def controlRemote (d : Device) : Device :=
  if d.peerCtrl.rxDcbTlvState = .expired then
    let d := resetNumbers d
    if d.pg.feat.dcbxSt = dcbxSubtype2 then d else controlSend true d
  else if hasFlag d.peerCtrl.errorFlag dupDcbxTlvCtrl then controlSend false d
  else if d.ctrl.operVersion ≠ min d.peerCtrl.maxVersion d.ctrl.maxVersion then
    controlSend true { d with ctrl := { d.ctrl with
      operVersion := min d.peerCtrl.maxVersion d.ctrl.maxVersion } }
  else if d.ctrl.operVersion ≠ d.peerCtrl.operVersion then controlSend false d
  else
    let (d, send) := takeAck d
    controlSend send d

/-- The first run of `run_control_protocol` -/
def controlStart (d : Device) : Device :=
  if d.ctrl.state = .init then
    { d with ctrl := { d.ctrl with operVersion := d.ctrl.maxVersion, state := .listen } }
  else d

def runControlProtocol (d : Device) (flags : EventFlag) : Device :=
  if !d.active then d
  else
    let d := controlStart d
    if d.ctrl.state ≠ .listen then d
    else if flags.any (·.side = .loc) then if newToSend d then sendNew d else d
    else if flags.any (·.side = .rem) then controlRemote d
    else d

/-! ### `run_dcb_protocol` -/

/-- `SubTypeMin` and up to `SubTypeMax` -/
def subtypes (subtype : Nat) : List Nat :=
  if subtype < dcbMaxApptlv then [subtype] else List.range dcbMaxApptlv

/-- Some application has an event of this side. -/
def anyApp (side : Side) (flags : EventFlag) : Bool :=
  (List.range dcbMaxApptlv).any fun i => .app side i ∈ flags

/-- The loop index `i` of `run_dcb_protocol` where the logical link comes. The loop over the
masks leaves the number of subtypes in it, the loop over the applications `SubTypeMax`. -/
def leftoverIndex (flags : EventFlag) (subtype : Nat) : Nat :=
  if anyApp .loc flags && subtype < dcbMaxApptlv then subtype + 1 else dcbMaxApptlv

/-- The subtype that `run_dcb_protocol` passes on for the logical link -/
def llinkSubtype (flags : EventFlag) (subtype : Nat) : Side → Nat
  | .loc => leftoverIndex flags subtype
  | .rem => subtypeDefault

/-- The calls of `run_feature_protocol` in `run_dcb_protocol` for one side. A block is left out
after a version that is not compatible. -/
def featureCalls (side : Side) (flags : EventFlag) (subtype : Nat) :
    List (List (ChangeEvent × Nat)) :=
  [ if .pfc side ∈ flags then [(.pfc side, subtypeDefault)] else [],
    if .pg side ∈ flags then [(.pg side, subtypeDefault)] else [],
    if anyApp side flags then (subtypes subtype).map fun i => (.app side i, i) else [],
    if .llink side ∈ flags then [(.llink side, llinkSubtype flags subtype side)] else [] ]

/-- A call of `run_feature_protocol`, after another one -/
def callFeature (drv : Driver) (x : Device × CmdStatus) (call : ChangeEvent × Nat) :
    Except Fault (Device × CmdStatus) :=
  runFeatureProtocol drv x.1 call.1 call.2

/-- A block of calls -/
def callBlock (drv : Driver) (x : Device × CmdStatus) (calls : List (ChangeEvent × Nat)) :
    Except Fault (Device × CmdStatus) :=
  if x.2 = .ctrlVersNotCompatible then .ok x else calls.foldlM (callFeature drv) x

/-- `LocalChange`: the event has a local change, and the remote ones wait. -/
def changeSide (flags : EventFlag) (subtype : Nat) : Side :=
  if (featureCalls .loc flags subtype).all (·.isEmpty) then .rem else .loc

/-- The feature state machines of `run_dcb_protocol` -/
def runFeatures (drv : Driver) (d : Device) (flags : EventFlag) (subtype : Nat) :
    Except Fault Device := do
  let side := changeSide flags subtype
  let x ← (featureCalls side flags subtype).foldlM (callBlock drv) (d, .success)
  pure x.1

/-- `run_dcb_protocol`. It returns what `run_control_protocol` returns, which is
`cmd_success`. -/
def runDcbProtocol (drv : Driver) (d : Device) (flags : EventFlag) (subtype : Nat) :
    Except Fault Device :=
  if !d.active then .ok d
  else do
    let d ← runFeatures drv d flags subtype
    pure (runControlProtocol d flags)

end Lldpad.Dcbx
