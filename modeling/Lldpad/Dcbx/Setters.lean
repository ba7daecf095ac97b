import Mathlib.Logic.Function.Basic
import Lldpad.Dcbx.Device

/-!
# `Lldpad.Dcbx.Setters`: the setters of a device

`put_pg`, `put_pfc`, `put_app` and `put_llink` of `dcb_protocol.c`, their siblings for the
stores of the peer, and `dcbx_add_adapter`.

A setter writes the stores and then runs the protocol. `Write` is what it leaves behind
before it runs the protocol. `Persist` says for which features `set_persistent` succeeds.
-/

namespace Lldpad.Dcbx

open Lldpad.Lib

/-- The answers of `set_persistent` -/
abbrev Persist := Feature → Bool

/-- What runs after the stores are written. -/
inductive Run where
  | idle
  /-- `run_dcb_protocol` -/
  | protocol (flags : EventFlag) (subtype : Nat)
  /-- the state machines of `dcbx_add_adapter` -/
  | adapter

/-- What a setter leaves behind: the stores, what it runs then, and what it returns. -/
structure Write where
  dev : Device
  run : Run := .idle
  status : CmdStatus := .success

/-- The calls of `run_feature_protocol` in `dcbx_add_adapter` -/
def addCalls : List (ChangeEvent × Nat) :=
  [(.pg .loc, subtypeDefault), (.pfc .loc, subtypeDefault), (.app .loc 0, 0),
    (.app .loc 1, 1), (.app .loc 2, 2), (.llink .loc, 0)]

/-- The feature state machines of `dcbx_add_adapter`. It goes on while they succeed. -/
def runAdded (drv : Driver) : List (ChangeEvent × Nat) → Device → Except Fault (Device × Bool)
  | [], d => .ok (d, true)
  | call :: calls, d => do
    let (d, status) ← runFeatureProtocol drv d call.1 call.2
    if status = .success then runAdded drv calls d else pure (d, false)

/-- The state machines of `dcbx_add_adapter` -/
def startMachines (drv : Driver) (d : Device) : Except Fault Device := do
  let (d, ok) ← runAdded drv addCalls d
  pure (if ok then runControlProtocol d (addCalls.map (·.1)) else d)

/-- The rest of a setter -/
def Write.finish (drv : Driver) (w : Write) : Except Fault Device :=
  match w.run with
  | .idle => .ok w.dev
  | .protocol flags subtype => runDcbProtocol drv w.dev flags subtype
  | .adapter => startMachines drv w.dev

/-! ### The local stores -/

/-- The writable protocol variables -/
def FeatureProtocolAttribs.takeLocal (p new : FeatureProtocolAttribs) :
    FeatureProtocolAttribs :=
  { p with
    advertisePrev := p.advertise
    advertise := new.advertise
    enable := new.enable
    willing := new.willing }

namespace Stores

variable {C : Type}

/-- The local store takes the protocol variables and a configuration. -/
def takeLocal (v : Stores C) (new : FeatureProtocolAttribs) (config : C) : Stores C :=
  { v with loc := { protocol := v.feat.takeLocal new, config := config } }

/-- The same, and the TLV of the feature has to be sent. -/
def putLocal (v : Stores C) (new : FeatureProtocolAttribs) (config : C) : Stores C :=
  let v := v.takeLocal new config
  v.withFeat { v.feat with tlvSent := false }

/-- `put_app` writes these into the siblings of its subtype. -/
def putSibling (v : Stores C) (new : FeatureProtocolAttribs) : Stores C :=
  v.withFeat { v.feat with enable := new.enable, willing := new.willing }

end Stores

/-- The local configuration that `put_pg` stores -/
def storedPg (st : Nat) (old new : PgConfig) : PgConfig where
  tx := new.tx
  rx := new.rx
  numTcs := if st = dcbxSubtype2 then new.numTcs else old.numTcs

/-- The local configuration that `put_pfc` stores -/
def storedPfc (st : Nat) (old new : PfcConfig) : PfcConfig where
  admin := new.admin
  numTcs := if st = dcbxSubtype2 then new.numTcs else old.numTcs

/-- The local configuration that `put_app` stores -/
def storedApp (old new : AppConfig) : AppConfig :=
  if new.length = 0 then old
  else { length := new.length, appData := copyBytes new.length new.appData old.appData }

/-- `put_pg`, up to the run of the protocol -/
def writePg (persist : Persist) (pgData : Attribs PgConfig) (pfcData : Option PfcConfig)
    (d : Device) : Except Fault Write :=
  if d.pg.loc = pgData then .ok { dev := d }
  else do
    let (config, status) ← dcbCheckConfig pgData.config pfcData
    if status ≠ .success then pure { dev := d, status := .badParams }
    else if !persist .pg then pure { dev := d, status := .deviceNotFound }
    else pure {
      dev := { d with pg := d.pg.putLocal pgData.protocol
                        (storedPg d.pg.feat.dcbxSt d.pg.loc.config config) }
      run := .protocol [.pg .loc] subtypeDefault }

/-- `put_pfc`, up to the run of the protocol -/
def writePfc (persist : Persist) (pfcData : Attribs PfcConfig) (d : Device) : Write :=
  if d.pfc.loc = pfcData then { dev := d }
  else if !persist .pfc then { dev := d, status := .deviceNotFound }
  else {
    dev := { d with pfc := d.pfc.putLocal pfcData.protocol
                      (storedPfc d.pfc.feat.dcbxSt d.pfc.loc.config pfcData.config) }
    run := .protocol [.pfc .loc] subtypeDefault }

/-- `memcmp` of the local store of an application -/
def sameApp (a b : Attribs AppConfig) : Bool :=
  a.protocol = b.protocol ∧ a.config.length = b.config.length ∧
    sameBytes a.config.appData b.config.appData

namespace Device

/-- The stores of an application -/
def app (d : Device) : Fin 3 → Stores AppConfig
  | 0 => d.appFcoe
  | 1 => d.appIscsi
  | 2 => d.appFip

/-- The calls of `set_hw_app` for a selector and a protocol, oldest first. Each application has
its own. -/
def setHwAppCalls (d : Device) (selector : UInt8 × UInt16) : List AppgroupAttribs :=
  ((List.finRange 3).flatMap fun i => (d.app i).hw.map fun c => appgroup i c.1).filter fun a =>
    (a.dcbAppIdtype, a.dcbAppId) = selector

/-- The device with other stores of an application -/
def setApp (d : Device) (v : Stores AppConfig) : Fin 3 → Device
  | 0 => { d with appFcoe := v }
  | 1 => { d with appIscsi := v }
  | 2 => { d with appFip := v }

end Device

/-- The feature of an application subtype -/
def appFeature : Fin 3 → Feature
  | 0 => .appFcoe
  | 1 => .appIscsi
  | 2 => .appFip

/-- The loop of `put_app` over the siblings of its subtype. It stops where `set_persistent`
fails, with the sibling written. -/
def putSiblings (persist : Persist) (new : FeatureProtocolAttribs) :
    List (Fin 3) → Device → Device × Bool
  | [], d => (d, true)
  | i :: is, d =>
    let d := d.setApp ((d.app i).putSibling new) i
    if persist (appFeature i) then putSiblings persist new is d else (d, false)

/-- The siblings of a subtype, in the order of the loop -/
def siblings (i : Fin 3) : List (Fin 3) := (List.finRange 3).filter (· ≠ i)

/-- `put_app`, up to the run of the protocol. Without stores of the subtype the data goes to
persistent storage only, which has the subtype as a byte. -/
def writeApp (persist : Persist) (subtype : Nat) (appData : Attribs AppConfig) (d : Device) :
    Write :=
  if h : subtype < 3 then
    let i : Fin 3 := ⟨subtype, h⟩
    if sameApp (d.app i).loc appData then { dev := d }
    else if !persist (appFeature i) then { dev := d, status := .deviceNotFound }
    else
      let (d, ok) := putSiblings persist appData.protocol (siblings i) d
      if !ok then { dev := d, status := .deviceNotFound }
      else {
        dev := d.setApp ((d.app i).putLocal appData.protocol
          (storedApp (d.app i).loc.config appData.config)) i
        run := .protocol [.app .loc subtype] subtype }
  else { dev := d
         status := if (apptlvFind (subtype % 256)).any persist then .success
                   else .deviceNotFound }

/-- `put_llink`, up to the run of the protocol -/
def writeLlink (persist : Persist) (subtype : Nat) (llinkData : Attribs LlinkConfig)
    (d : Device) : Write :=
  if subtype = llinkFcoeStype then
    if d.llink.loc = llinkData then { dev := d }
    else if !persist .llink then { dev := d, status := .deviceNotFound }
    else {
      dev := { d with llink := d.llink.putLocal llinkData.protocol llinkData.config }
      run := .protocol [.llink .loc] subtypeDefault }
  else { dev := d, status := if persist .llink then .success else .deviceNotFound }

/-- The local changes -/
inductive Put where
  /-- `put_pg` -/
  | pg (pgData : Attribs PgConfig) (pfcData : Option PfcConfig)
  /-- `put_pfc` -/
  | pfc (pfcData : Attribs PfcConfig)
  /-- `put_app` -/
  | app (subtype : Nat) (appData : Attribs AppConfig)
  /-- `put_llink` -/
  | llink (subtype : Nat) (llinkData : Attribs LlinkConfig)

/-- A local change, up to the run of the protocol -/
def Put.write (persist : Persist) (d : Device) : Put → Except Fault Write
  | .pg pgData pfcData => writePg persist pgData pfcData d
  | .pfc pfcData => .ok (writePfc persist pfcData d)
  | .app subtype appData => .ok (writeApp persist subtype appData d)
  | .llink subtype llinkData => .ok (writeLlink persist subtype llinkData d)

/-- `put_pg`, `put_pfc`, `put_app` and `put_llink` -/
def put (drv : Driver) (persist : Persist) (p : Put) (d : Device) :
    Except Fault (Device × CmdStatus) := do
  let w ← p.write persist d
  let d ← w.finish drv
  pure (d, w.status)

/-! ### The stores of the peer -/

/-- What a store of the peer takes over from a TLV -/
def FeatureProtocolAttribs.takePeer (p new : FeatureProtocolAttribs) :
    FeatureProtocolAttribs :=
  { p with
    advertisePrev := p.advertise
    advertise := new.advertise
    enable := new.enable
    willing := new.willing
    operVersion := new.operVersion
    maxVersion := new.maxVersion
    tlvPresent := new.tlvPresent
    error := new.error
    dcbxSt := new.dcbxSt
    errorFlag := new.errorFlag }

/-- The store of the peer takes the protocol variables and a configuration. -/
def Stores.takePeer {C : Type} (v : Stores C) (new : FeatureProtocolAttribs) (config : C) :
    Stores C :=
  { v with peer := { protocol := v.peerFeat.takePeer new, config := config } }

def putPeerPg (data : Attribs PgConfig) (d : Device) : Device :=
  let data :=
    if data.protocol.dcbxSt = dcbxSubtype2 then
      { data with config := rebalanceUppcts data.config }
    else data
  if d.pg.peer = data then d
  else { d with pg := d.pg.takePeer data.protocol
                  (storedPg data.protocol.dcbxSt d.pg.peer.config data.config) }

def putPeerPfc (data : Attribs PfcConfig) (d : Device) : Device :=
  if d.pfc.peer = data then d
  else { d with pfc := d.pfc.takePeer data.protocol
                  (storedPfc data.protocol.dcbxSt d.pfc.peer.config data.config) }

def putPeerApp (subtype : Nat) (data : Attribs AppConfig) (d : Device) : Device :=
  if h : subtype < 3 then
    let i : Fin 3 := ⟨subtype, h⟩
    if sameApp (d.app i).peer data then d
    else d.setApp ((d.app i).takePeer data.protocol
      { length := data.config.length
        appData := copyBytes data.config.length data.config.appData
          (d.app i).peer.config.appData }) i
  else d

def putPeerLlink (data : Attribs LlinkConfig) (d : Device) : Device :=
  if d.llink.peer = data then d
  else { d with llink := d.llink.takePeer data.protocol data.config }

def putPeerControl (data : ControlProtocolAttribs) (d : Device) : Device :=
  if hasFlag data.errorFlag dupDcbxTlvCtrl || hasFlag data.errorFlag tooManyNghbrs then
    { d with peerCtrl := { d.peerCtrl with errorFlag := data.errorFlag } }
  else
    { d with peerCtrl := { d.peerCtrl with
        seqNo := data.seqNo
        ackNo := data.ackNo
        maxVersion := data.maxVersion
        operVersion := data.operVersion
        rxDcbTlvState := data.rxDcbTlvState
        errorFlag := data.errorFlag } }

/-! ### `dcbx_add_adapter` -/

/-- `struct dcbx_state`: what the last `lldpad` left behind -/
structure DcbxState where
  seqNo : UInt32 := 0
  ackNo : UInt32 := 0
  fcoeEnable : Bool := false
  iscsiEnable : Bool := false
  fipEnable : Bool := false

def validSubtype (state : DcbxState) : Fin 3 → Bool
  | 0 => state.fcoeEnable
  | 1 => state.iscsiEnable
  | 2 => state.fipEnable

/-- `struct full_dcb_attribs`, as `get_persistent` fills it. Of the protocol variables it
sets `Enable`, `Willing` and `Advertise`. -/
structure FullDcbAttribs where
  pg : Attribs PgConfig
  pfc : Attribs PfcConfig
  app : Fin 3 → Attribs AppConfig
  llink : Attribs LlinkConfig

/-- `add_apptlv` enables an application that the state says is enabled. -/
def enableApp (state : DcbxState) (i : Fin 3) (a : Attribs AppConfig) : Attribs AppConfig :=
  { a with protocol := { a.protocol with enable := a.protocol.enable || validSubtype state i } }

def initControlProt (state : DcbxState) : ControlProtocolAttribs where
  state := .init
  seqNo := state.seqNo
  ackNo := state.ackNo
  myAckNo := state.seqNo

/-- `init_pg` and its siblings: the store of a new device -/
def initLocal {C : Type} (st : Nat) (a : Attribs C) : Attribs C where
  protocol :=
    { enable := a.protocol.enable
      willing := a.protocol.willing
      advertise := a.protocol.advertise
      state := .init
      dcbxSt := st }
  config := a.config

/-- The stores of a feature of a new device -/
def initStores {C : Type} (st : Nat) (a : Attribs C) (peer oper : C) : Stores C where
  loc := initLocal st a
  peer := { config := peer }
  oper := { config := oper }

/-- One direction of the default priority groups of `add_pg_defaults` -/
def defaultTraffic : TrafficAttribs where
  pgPercent i := if i.val < 4 then 13 else 12
  up i := { pgid := UInt8.ofNat i, bwgid := UInt8.ofNat i, percentOfPgCap := 100 }

def initOperPg : PgConfig where
  tx := defaultTraffic
  rx := defaultTraffic

/-- The stores of a new device -/
def newStores (st : Nat) (attribs : FullDcbAttribs) (state : DcbxState) : Device where
  ctrl := initControlProt state
  pg := initStores st attribs.pg {} initOperPg
  pfc := initStores st attribs.pfc {} {}
  appFcoe := initStores st (enableApp state 0 (attribs.app 0)) {} {}
  appIscsi := initStores st (enableApp state 1 (attribs.app 1)) {} {}
  appFip := initStores st (enableApp state 2 (attribs.app 2)) {} {}
  llink := initStores st attribs.llink {} {}

/-- The attributes as the rule checker leaves them. Its result is only logged. -/
def checkedAttribs (attribs : FullDcbAttribs) : Except Fault FullDcbAttribs := do
  let (pg, _) ← dcbCheckConfig attribs.pg.config (some attribs.pfc.config)
  pure { attribs with pg := { attribs.pg with config := pg } }

/-- `dcbx_add_adapter` for a new device. It is not active yet, so the state machines do not
run. -/
def newDevice (st : Nat) (attribs : FullDcbAttribs) (state : DcbxState) :
    Except Fault Device := do
  let attribs ← checkedAttribs attribs
  pure (newStores st attribs state)

/-- The configuration of an application that `add_apptlv` stores -/
def addedApp (old new : AppConfig) : AppConfig where
  length := new.length
  appData := copyBytes new.length new.appData old.appData

/-- The stores that `dcbx_add_adapter` leaves for a device that it knows. The numbers of the
control machine start again while the interface is dormant. -/
def readd (dormant : Bool) (attribs : FullDcbAttribs) (state : DcbxState) (d : Device) :
    Device :=
  let app (i : Fin 3) : Stores AppConfig :=
    let a := enableApp state i (attribs.app i)
    (d.app i).takeLocal a.protocol (addedApp (d.app i).loc.config a.config)
  { d with
    ctrl := if dormant then initControlProt state else d.ctrl
    pg := d.pg.takeLocal attribs.pg.protocol
      { d.pg.loc.config with tx := attribs.pg.config.tx, rx := attribs.pg.config.rx }
    pfc := d.pfc.takeLocal attribs.pfc.protocol
      { d.pfc.loc.config with admin := attribs.pfc.config.admin }
    appFcoe := app 0
    appIscsi := app 1
    appFip := app 2
    llink := d.llink.takeLocal attribs.llink.protocol attribs.llink.config }

/-- `dcbx_add_adapter` for a device that it knows, up to the state machines -/
def writeAdapter (dormant : Bool) (attribs : FullDcbAttribs) (state : DcbxState)
    (d : Device) : Except Fault Write := do
  let attribs ← checkedAttribs attribs
  pure { dev := readd dormant attribs state d, run := .adapter }

/-- `dcbx_add_adapter` for a device that it knows -/
def addAdapter (drv : Driver) (dormant : Bool) (attribs : FullDcbAttribs) (state : DcbxState)
    (d : Device) : Except Fault Device := do
  let w ← writeAdapter dormant attribs state d
  w.finish drv

/-! ## The configuration file behind the setters

What `set_persistent` of `lldp_dcbx_cfg.c` writes to the configuration file, and which of its
calls a setter makes. The entry of the device exists, and a call that fails leaves the file as
it was.
-/

/-- The protocol variables that go to the file -/
def savedProtocol (p : FeatureProtocolAttribs) : FeatureProtocolAttribs where
  enable := p.enable
  willing := p.willing
  advertise := p.advertise

/-- An application in the file. `app_cfg` has the first `Length` bytes of `AppData`. -/
def savedApp (a : Attribs AppConfig) : Attribs AppConfig where
  protocol := savedProtocol a.protocol
  config := { length := a.config.length
              appData := takeBytes a.config.length a.config.appData }

/-- The file that has the local stores of a device. It has no traffic classes and no status of
the logical link. -/
def written (d : Device) : FullDcbAttribs where
  pg := { protocol := savedProtocol d.pg.feat
          config := { d.pg.loc.config with numTcs := 0 } }
  pfc := { protocol := savedProtocol d.pfc.feat
           config := { d.pfc.loc.config with numTcs := 0 } }
  app i := savedApp (d.app i).loc
  llink := { protocol := savedProtocol d.llink.feat, config := {} }

/-- `set_persistent` of an application -/
def FullDcbAttribs.setApp (file : FullDcbAttribs) (i : Fin 3) (a : Attribs AppConfig) :
    FullDcbAttribs :=
  { file with app := Function.update file.app i (savedApp a) }

/-- The file after the loop of `put_app` over the siblings of its subtype -/
def saveSiblings (persist : Persist) (new : FeatureProtocolAttribs) :
    List (Fin 3) → Device → FullDcbAttribs → FullDcbAttribs
  | [], _, file => file
  | i :: is, d, file =>
    let v := (d.app i).putSibling new
    if persist (appFeature i) then
      saveSiblings persist new is (d.setApp v i) (file.setApp i v.loc)
    else file

/-- The file after a setter that fails. Only `put_app` writes it more than once, so the others
have written nothing then. -/
def Put.fileAfterFailure (persist : Persist) (d : Device) (file : FullDcbAttribs) :
    Put → FullDcbAttribs
  | .app subtype data =>
    if h : subtype < 3 then
      let i : Fin 3 := ⟨subtype, h⟩
      if persist (appFeature i) then
        saveSiblings persist data.protocol (siblings i) d (file.setApp i data)
      else file
    else file
  | _ => file

end Lldpad.Dcbx
