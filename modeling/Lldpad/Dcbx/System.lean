import Lldpad.Lib.Hex
import Lldpad.Lib.Transition
import Lldpad.Dcbx.Tlv

/-!
# `Lldpad.Dcbx.System`: a station that runs DCBX

A station is a device with what reaches it, in any order: the local changes, the frames that
it builds, the frames of the peer, the expiry of the peer, and `dcbx_add_adapter`.

`sent`, `changed`, `acked` and `mid` are ghosts. Nothing reads them, and the theorems about
whole runs talk about them.
-/

namespace Lldpad.Dcbx

open Lldpad.Lib
open Lldpad.Lldp (Bytes)

instance (f : Feature) : DecidableEq (Config f) := by
  cases f <;> exact inferInstance

/-- The values of a feature that a local change can set. -/
def localValues (d : Device) (f : Feature) : Bool × Bool × Bool × Config f :=
  ((d.prot f).enable, (d.prot f).willing, (d.prot f).advertise, (d.get f).loc.config)

/-- A station -/
structure Station where
  dev : Device
  /-- `dcbx_st` of its `struct dcbx_tlvs` -/
  dcbxSt : Nat
  /-- the sequence numbers of the frames that it built, oldest first -/
  sent : List UInt32 := []
  /-- for each feature, how many frames were built when it changed last -/
  changed : Feature → Nat := fun _ => 0
  /-- the frame that the stored acknowledgement of the peer is about -/
  acked : Option Nat := none
  /-- the device between the feature machines and the control machine of the last event -/
  mid : Device

/-- What reaches a station. -/
inductive Event where
  /-- a local change -/
  | put (p : Put)
  /-- `dcbx_add_adapter` for a device that it knows. The interface is dormant or not. -/
  | addAdapter (dormant : Bool) (attribs : FullDcbAttribs) (state : DcbxState)
  /-- `active` is set or cleared. -/
  | setActive (active : Bool)
  /-- `dcbx_bld_tlv` -/
  | build
  /-- a frame of the peer. `ack` is the frame of ours that it acknowledges. -/
  | frame (rx : RxInfo) (m : Manifest) (ack : Option Nat)
  /-- the TLVs of the peer expire. -/
  | expire

/-- An event, with the answers of the driver and of the persistent storage -/
structure Input where
  drv : Driver
  persist : Persist
  event : Event

/-- The stores after an event, and what runs then -/
def Event.write (persist : Persist) (s : Station) : Event → Except Fault Write
  | .put p => p.write persist s.dev
  | .addAdapter dormant attribs state => writeAdapter dormant attribs state s.dev
  | .setActive active => .ok { dev := { s.dev with active } }
  | .build => .ok { dev := (dcbxBldTlv s.dcbxSt s.dev).1 }
  | .frame rx m _ => writeManifest rx m s.dev
  | .expire => .ok (writeExpiry s.dev)

/-- The device after the feature machines, and whether the control machine runs -/
def Write.features (drv : Driver) (w : Write) : Except Fault (Device × Bool) :=
  match w.run with
  | .idle => .ok (w.dev, false)
  | .protocol flags subtype => do
    let d ← runFeatures drv w.dev flags subtype
    pure (d, true)
  | .adapter => runAdded drv addCalls w.dev

/-- The event that the control machine runs for -/
def Write.flags (w : Write) : EventFlag :=
  match w.run with
  | .idle => []
  | .protocol flags _ => flags
  | .adapter => addCalls.map (·.1)

/-- The sequence numbers of the frames built so far -/
def Event.sent (s : Station) : Event → List UInt32
  | .build => if s.dev.active then s.sent ++ [s.dev.ctrl.seqNo] else s.sent
  | _ => s.sent

/-- The control sub-TLV whose acknowledgement is stored -/
def storedCtrl (rx : RxInfo) (m : Manifest) : Option Bytes :=
  if hasFlag rx.dupTlvs dupDcbxTlvCtrl || rx.tooManyNghbrs then none
  else m.ctrl.filter (·.length = 10)

/-- The frame that the stored acknowledgement is about -/
def Event.acked (s : Station) : Event → Option Nat
  | .frame rx m ack => if (storedCtrl rx m).isSome then ack else s.acked
  | _ => s.acked

/-- When each feature changed last. -/
def Event.changed (s : Station) (w : Write) (e : Event) : Feature → Nat :=
  match e with
  | .put _ | .addAdapter .. =>
    fun f => if localValues w.dev f = localValues s.dev f then s.changed f else s.sent.length
  | _ => s.changed

/-- One event -/
def dcbxStep (s : Station) (i : Input) : Except Fault Station := do
  let w ← i.event.write i.persist s
  let (mid, _) ← w.features i.drv
  let dev ← w.finish i.drv
  pure {
    dev, mid
    dcbxSt := s.dcbxSt
    sent := i.event.sent s
    changed := i.event.changed s w
    acked := i.event.acked s }

/-- A station after `dcbx_ifup` -/
def FreshStation (s : Station) : Prop :=
  ∃ attribs state, newDevice s.dcbxSt attribs state = .ok s.dev ∧
    s.sent = [] ∧ s.acked = none ∧ ∀ f, s.changed f = 0

/-- Stations and everything that reaches them -/
def dcbxSystem : System Station Input where
  init := FreshStation
  step := dcbxStep

/-! ## Where the data of an application comes from

The local store of an application is filled from the configuration file (`get_persistent` of
`lldp_dcbx_cfg.c`), from the defaults, and by a client (`set_app_config` of
`lldp_dcbx_cmds.c`). Both texts are hexadecimal digits. What the peer sends goes into stores
of its own.
-/

/-- `hexstr2bin` of all the bytes, or nothing where it fails -/
def hexBytes : Nat → CStr → Option Bytes
  | 0, _ => some []
  | n + 1, a :: b :: hex => do
    let x ← hex2byte a b
    let xs ← hexBytes n hex
    pure (x :: xs)
  | _ + 1, _ => none

/-- The first bytes of `AppData` are written, the others stay as they are. -/
def AppConfig.write (old : AppConfig) (data : Bytes) : AppConfig where
  length := data.length
  appData := copyBytes data.length data old.appData

/-- `set_app_config`, up to its `put_app`: `ibuf` is the message behind the protocol settings,
`old` what `get_app` found. The command sends `applen` digits. -/
def setAppConfig (ibuf : CStr) (old : AppConfig) : Option AppConfig :=
  let applen : Nat := hexNat 1 ibuf 0
  if ibuf.length = 2 + applen then (hexBytes (applen / 2) (ibuf.drop 2)).map old.write
  else if ibuf.length ≠ 0 then none
  else some old

/-- `app_cfg` of the configuration file in `get_persistent`, where there is one. `old` is the
default. Without a valid text the defaults are taken. -/
def readAppCfg (appCfgHex : Option CStr) (old : AppConfig) : Option AppConfig :=
  match appCfgHex with
  | none => some old
  | some hex =>
    if hex.length % 2 ≠ 0 ∨ hex.length > dcbMaxTlvLength then none
    else (hexBytes (hex.length / 2) hex).map old.write

/-- `APP_FCOE_DEFAULT_DATA` and its siblings -/
def appDefaultData : Fin 3 → UInt8
  | 0 => 0x08
  | 1 => 0x10
  | 2 => 0x08

/-- `add_app_defaults` -/
def appDefault (i : Fin 3) : AppConfig := { length := 1, appData := [appDefaultData i] }

/-- The application data of `get_persistent` for a device -/
def persistentApp (appCfgHex : Option CStr) (i : Fin 3) : AppConfig :=
  (readAppCfg appCfgHex (appDefault i)).getD (appDefault i)

/-- The attributes are those of a configuration file. -/
def FromConfig (attribs : FullDcbAttribs) : Prop :=
  ∀ i, ∃ appCfgHex, (attribs.app i).config = persistentApp appCfgHex i

/-- The data of an application comes from a client or from the configuration file. -/
def AppsFromOutside (s : Station) (i : Input) : Prop :=
  match i.event with
  | .put (.app subtype appData) =>
    ∀ k : Fin 3, k.val = subtype →
      ∃ ibuf, setAppConfig ibuf (s.dev.app k).loc.config = some appData.config
  | .addAdapter _ attribs _ => FromConfig attribs
  | _ => True

end Lldpad.Dcbx
