import Lldpad.Lib.Keyed
import Lldpad.Qaz.Types

/-!
# `Lldpad.Qaz.Sm`: the state machines of 802.1Qaz and the application table

`run_all_sm` chooses between the local and the remote configuration and hands the choice to
the driver. The functions of the application table mark its entries, and
`ieee8021qaz_app_sethw` carries the marks out.

What the driver answers is not looked at. Memory does not run out.
-/

namespace Lldpad.Qaz

open Lldpad.Lldp (Bytes)

/-! ### Priorities -/

def getPrioMap (prioMap : UInt32) (prio : Nat) : UInt8 :=
  if prio > 7 then 0 else ((prioMap >>> (4 * (7 - prio)).toUInt32) &&& 0xF).toUInt8

def setPrioMap (prioMap : UInt32) (prio : Nat) (tc : UInt8) : UInt32 :=
  let shift := (4 * (7 - prio)).toUInt32
  (prioMap &&& ~~~((0xF : UInt32) <<< shift)) ||| (tc.toUInt32 <<< shift)

/-! ### The state machines -/

def etsSm (ets : EtsAttrib) : EtsAttrib :=
  { ets with currentState := if ets.cfgl.willing ∧ ets.recr.isSome then .rxRecommend else .init }

def cmpMacAddrs : Bytes → Bytes → Bool
  | a :: as, b :: bs => if a = b then cmpMacAddrs as bs else !(a < b)
  | _, _ => false

def pfcSm (tlvs : QazTlvs) : QazTlvs :=
  let localWilling := tlvs.pfc.localPfc.willing
  let remoteWilling := tlvs.pfc.remotePfc.willing
  let remoteParam := tlvs.pfc.remoteParam
  let cmpMac := cmpMacAddrs tlvs.localMac tlvs.remoteMac
  if localWilling && !remoteWilling && remoteParam ||
      localWilling && remoteWilling && !cmpMac then
    { tlvs with pfc := { tlvs.pfc with currentState := .rxRecommend } }
  else if !localWilling || !remoteParam || localWilling && remoteWilling && cmpMac then
    { tlvs with pfc := { tlvs.pfc with currentState := .init } }
  else tlvs

/-! ### The application table -/

/-- The first entry for `app` is written. -/
def updateApp (app : DcbApp) (f : AppObj → AppObj) (head : List AppObj) : Option (List AppObj) :=
  Lib.modifyKey (·.app) app f head

/-- `ieee8021qaz_mod_app` -/
def modApp (head : List AppObj) (peer : Bool) (app : DcbApp) (delete : Bool) : List AppObj :=
  match updateApp app (fun np => if delete then { np with hw := .del } else np) head with
  | some head => head
  | none => if delete then head else { app := app, peer := peer, hw := .set } :: head

/-- `ieee8021qaz_app_reset` -/
def appReset (head : List AppObj) : List AppObj :=
  head.map fun np => if np.peer then { np with hw := .del } else np

/-- `__ieee8021qaz_app_sethw`: the table, and what the driver is told -/
def appSethw' (head : List AppObj) : List AppObj × List AppMsg :=
  let sets := (head.filter (·.hw = .set)).map fun np => AppMsg.set np.app
  let head := head.map fun np => if np.hw = .set then { np with hw := .done } else np
  let dels := (head.filter (·.hw = .del)).map fun np => AppMsg.del np.app
  (head.filter (·.hw ≠ .del), sets ++ dels)

/-- `ieee8021qaz_check_active` -/
def checkActive (tlvs : QazTlvs) : Bool := tlvs.active && !tlvs.pending

/-- `ieee8021qaz_app_sethw` -/
def appSethw (tlvs : QazTlvs) : QazTlvs :=
  if checkActive tlvs then
    let (head, msgs) := appSethw' tlvs.appHead
    { tlvs with
      appHead := head
      hw := { tlvs.hw with apps := tlvs.hw.apps ++ msgs, flushes := tlvs.hw.flushes + 1 } }
  else tlvs

/-! ### Running the machines -/

/-- The priorities of a map, one by one -/
def prioTable (prioMap : UInt32) : Bytes := (List.range 8).map (getPrioMap prioMap)

def etsCfgToIeee (cfg : EtscfgObj) : IeeeEts :=
  { tcTxBw := cfg.tcBw
    tcRxBw := cfg.tcBw
    tcTsa := cfg.tsaMap
    prioTc := prioTable cfg.prioMap
    tcRecoBw := cfg.tcBw
    tcRecoTsa := cfg.tsaMap
    recoPrioTc := prioTable cfg.prioMap }

def etsRecToIeee (rec' : EtsrecObj) : IeeeEts :=
  { tcTxBw := rec'.tcBw
    tcRxBw := rec'.tcBw
    tcTsa := rec'.tsaMap
    prioTc := prioTable rec'.prioMap
    tcRecoBw := rec'.tcBw
    tcRecoTsa := rec'.tsaMap
    recoPrioTc := prioTable rec'.prioMap }

/-- The ETS configuration that `run_all_sm` chooses. In `RX_RECOMMEND` there is a
recommendation. -/
def operEts (ets : EtsAttrib) : IeeeEts :=
  match ets.currentState, ets.recr with
  | .rxRecommend, some recr => etsRecToIeee recr
  | _, _ => etsCfgToIeee ets.cfgl

/-- `pfc_obj` of `run_all_sm`: the PFC configuration that it chooses -/
def pfcObj (pfc : PfcAttrib) : PfcObj :=
  match pfc.currentState with
  | .rxRecommend => pfc.remotePfc
  | .init => pfc.localPfc

def runAllSm (tlvs : QazTlvs) : QazTlvs :=
  let tlvs := { tlvs with ets := etsSm tlvs.ets }
  let ets := operEts tlvs.ets
  let tlvs := pfcSm tlvs
  let obj := pfcObj tlvs.pfc
  let pfc : IeeePfc := { pfcEn := obj.pfcEnable, mbc := obj.mbc, delay := obj.delay.toUInt16 }
  if checkActive tlvs then
    appSethw { tlvs with hw := { tlvs.hw with ets := some ets, pfc := some pfc } }
  else tlvs

end Lldpad.Qaz
