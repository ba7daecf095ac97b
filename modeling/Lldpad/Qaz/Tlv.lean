import Lldpad.Lib.Buffer
import Lldpad.Lldp.Modules
import Lldpad.Qaz.Sm

/-!
# `Lldpad.Qaz.Tlv`: the TLVs of 802.1Qaz

`gettlv` builds them, `ieee8021qaz_rchange` gets the TLVs of an LLDPDU one by one and works on
them when the LLDPDU ends. The bytes of a TLV are read where the source reads them. A TLV that
is too short stops the program.

`apps` is what `get_ieee_hw` says: the driver's application table, or nothing when it fails.
`dcbx` is the answer of `dcbx_tlvs_rxed`. The agent's admin status, which a TLV of the peer may
change, is left out.
-/

namespace Lldpad.Qaz

open Lldpad.Lib
open Lldpad.Lldp (Bytes Answer)

/-! ### Building -/

/-- A flag at a bit of a byte -/
def flagBit (b : Bool) (shift : UInt8) : UInt8 := b.toUInt8 <<< shift

/-- `htonl`, as bytes -/
def htonl (x : UInt32) : Bytes :=
  [(x >>> 24).toUInt8, (x >>> 16).toUInt8, (x >>> 8).toUInt8, x.toUInt8]

/-- The OUI and the subtype, which every TLV starts with -/
def tlvHeader (subtype : UInt8) : Bytes := ieee8021qazOui ++ [subtype]

/-- `bld_ieee8021qaz_etscfg_tlv` -/
def bldEtscfgTlv (ets : EtsAttrib) : Except Fault Bytes :=
  let cfgl := ets.cfgl
  let wcrt := flagBit cfgl.willing 7 ||| flagBit cfgl.cbs 6 ||| (cfgl.maxTcs &&& 0x7)
  match ets.currentState, ets.recr with
  | .init, _ =>
    .ok (tlvHeader ieee8021qazEtscfgTlv ++ [wcrt] ++ htonl cfgl.prioMap ++ cfgl.tcBw ++ cfgl.tsaMap)
  | .rxRecommend, some recr =>
    .ok (tlvHeader ieee8021qazEtscfgTlv ++ [wcrt] ++ htonl recr.prioMap ++ recr.tcBw ++ recr.tsaMap)
  | .rxRecommend, none => .error (.useAfterFree 0)

/-- `bld_ieee8021qaz_etsrec_tlv` -/
def bldEtsrecTlv (ets : EtsAttrib) : Bytes :=
  tlvHeader ieee8021qazEtsrecTlv ++ [0] ++ htonl ets.recl.prioMap ++ ets.recl.tcBw ++
    ets.recl.tsaMap

/-- `bld_ieee8021qaz_pfc_tlv` -/
def bldPfcTlv (pfc : PfcAttrib) : Bytes :=
  let own := pfc.localPfc
  let wmrc := flagBit own.willing 7 ||| flagBit own.mbc 6 ||| own.pfcCap
  let pfcEnable :=
    match pfc.currentState with
    | .init => own.pfcEnable
    | .rxRecommend => pfc.remotePfc.pfcEnable
  tlvHeader ieee8021qazPfcTlv ++ [wmrc, pfcEnable]

/-- `struct app_prio` -/
def appPrio (app : DcbApp) : Bytes :=
  [(app.priority <<< 5) ||| app.selector, (app.protocol >>> 8).toUInt8, app.protocol.toUInt8]

/-- `bld_ieee8021qaz_app_tlv` -/
def bldAppTlv (apps : Option (List DcbApp)) : Option Bytes :=
  apps.map fun apps => tlvHeader ieee8021qazAppTlv ++ [0] ++ apps.flatMap appPrio

/-- `ieee8021qaz_bld_tlv` -/
def qazBldTlv (tlvs : QazTlvs) (apps : Option (List DcbApp)) : Except Fault (List Bytes) :=
  if tlvs.active then do
    let etscfg ← if tlvs.tx.etscfg then some <$> bldEtscfgTlv tlvs.ets else pure none
    let etsrec := if tlvs.tx.etsrec then some (bldEtsrecTlv tlvs.ets) else none
    let pfc := if tlvs.tx.pfc then some (bldPfcTlv tlvs.pfc) else none
    let app := if tlvs.tx.app then bldAppTlv apps else none
    pure (etscfg.toList ++ etsrec.toList ++ pfc.toList ++ app.toList)
  else .ok []

/-- `ieee8021qaz_gettlv`, with the TLVs -/
def qazGettlv (apps : Option (List DcbApp)) (tlvs : QazTlvs) :
    Except Fault (QazTlvs × List Bytes) := do
  let tlvs := runAllSm tlvs
  let out ← qazBldTlv tlvs apps
  pure (tlvs, out)

/-! ### Reading -/

/-- The loop that reads a priority map. A byte has two entries. -/
def readPrioMap (info : Bytes) (offset : Nat) : Except Fault UInt32 :=
  (List.range 4).foldlM (fun prioMap i => do
    let b ← readAt info (offset + i)
    pure (setPrioMap (setPrioMap prioMap (2 * i) ((b >>> 4) &&& 0xF)) (2 * i + 1) (b &&& 0xF))) 0

/-- The loop that reads an entry for each traffic class. -/
def readTcs (info : Bytes) (offset : Nat) : Except Fault Bytes :=
  (List.range maxTcs).mapM fun i => readAt info (offset + i)

/-- `process_ieee8021qaz_etscfg_tlv` -/
def processEtscfgTlv (info : Bytes) : Except Fault EtscfgObj := do
  let wcrt ← readAt info ouiSubSize
  let prioMap ← readPrioMap info (ouiSubSize + 1)
  let tcBw ← readTcs info (ouiSubSize + 5)
  let tsaMap ← readTcs info (ouiSubSize + 13)
  pure {
    willing := wcrt &&& 0x80 ≠ 0
    cbs := wcrt &&& 0x40 ≠ 0
    maxTcs := wcrt &&& 0x07
    prioMap := prioMap
    tcBw := tcBw
    tsaMap := tsaMap }

/-- `process_ieee8021qaz_etsrec_tlv` -/
def processEtsrecTlv (info : Bytes) : Except Fault EtsrecObj := do
  let prioMap ← readPrioMap info (ouiSubSize + 1)
  let tcBw ← readTcs info (ouiSubSize + 5)
  let tsaMap ← readTcs info (ouiSubSize + 13)
  pure { prioMap := prioMap, tcBw := tcBw, tsaMap := tsaMap }

/-- `process_ieee8021qaz_pfc_tlv` -/
def processPfcTlv (info : Bytes) (pfc : PfcAttrib) : Except Fault PfcAttrib := do
  let wmrc ← readAt info ouiSubSize
  let pfcEnable ← readAt info (ouiSubSize + 1)
  pure { pfc with
    remotePfc := { pfc.remotePfc with
      willing := wmrc &&& 0x80 ≠ 0
      mbc := wmrc &&& 0x40 ≠ 0
      pfcCap := wmrc &&& 0x0F
      pfcEnable := pfcEnable }
    remoteParam := true }

/-- One entry of the peer in `process_ieee8021qaz_app_tlv` -/
def peerApp (head : List AppObj) (app : DcbApp) : List AppObj :=
  match updateApp app (fun np => { np with hw := .set }) head with
  | some head => head
  | none => modApp head true app false

/-- An entry of an application TLV -/
def appOfBytes (prs hi lo : UInt8) : DcbApp :=
  { selector := prs &&& 0x07
    priority := (prs &&& 0xE0) >>> 5
    protocol := (hi.toUInt16 <<< 8) ||| lo.toUInt16 }

/-- The loop of `process_ieee8021qaz_app_tlv`. A last entry that is cut off is read beyond the
end of the TLV. -/
def processAppEntries : Bytes → List AppObj → Except Fault (List AppObj)
  | [], head => .ok head
  | prs :: hi :: lo :: rest, head => processAppEntries rest (peerApp head (appOfBytes prs hi lo))
  | _, _ => .error .outOfBounds

/-- `process_ieee8021qaz_app_tlv` -/
def processAppTlv (info : Bytes) (head : List AppObj) : Except Fault (List AppObj) :=
  processAppEntries (info.drop (ouiSubSize + 1)) (appReset head)

/-- `ieee8021qaz_mibUpdateObjects`, for PFC -/
def mibUpdatePfc (rx : UnpkdTlvs) (pfc : PfcAttrib) : Except Fault PfcAttrib :=
  match rx.pfc with
  | some info => processPfcTlv info pfc
  | none => .ok { pfc with remoteParam := false }

/-- `ieee8021qaz_mibUpdateObjects`, for the application table -/
def mibUpdateApp (rx : UnpkdTlvs) (head : List AppObj) : Except Fault (List AppObj) :=
  match rx.app with
  | some info => processAppTlv info head
  | none => .ok (appReset head)

/-- `ieee8021qaz_mibUpdateObjects` -/
def mibUpdateObjects (rx : UnpkdTlvs) (tlvs : QazTlvs) : Except Fault QazTlvs := do
  let cfgr ← rx.etscfg.mapM processEtscfgTlv
  let recr ← rx.etsrec.mapM processEtsrecTlv
  let pfc ← mibUpdatePfc rx tlvs.pfc
  let appHead ← mibUpdateApp rx tlvs.appHead
  pure { tlvs with
    ets := { tlvs.ets with cfgr := cfgr, recr := recr }
    pfc := pfc
    appHead := appHead }

/-! ### The hooks of the module -/

/-- `unpack_ieee8021qaz_tlvs`, with its answer. A TLV of a kind that was there is not kept. -/
def unpackQazTlvs (info : Bytes) (tlvs : QazTlvs) : Except Fault (QazTlvs × Bool) :=
  match tlvs.rx with
  | none => .error (.useAfterFree 0)
  | some rx => do
    let subtype ← readAt info 3
    let keep (rx : UnpkdTlvs) : Except Fault (QazTlvs × Bool) :=
      pure ({ tlvs with rx := some rx, qazdu := true }, true)
    if subtype = ieee8021qazEtscfgTlv then
      if rx.etscfg = none then keep { rx with etscfg := some info } else pure (tlvs, false)
    else if subtype = ieee8021qazEtsrecTlv then
      if rx.etsrec = none then keep { rx with etsrec := some info } else pure (tlvs, false)
    else if subtype = ieee8021qazPfcTlv then
      if rx.pfc = none then keep { rx with pfc := some info } else pure (tlvs, false)
    else if subtype = ieee8021qazAppTlv then
      if rx.app = none then keep { rx with app := some info } else pure (tlvs, false)
    else pure (tlvs, false)

/-- The end of an LLDPDU in `ieee8021qaz_rchange` -/
def qazEnd (dcbx : Bool) (tlvs : QazTlvs) : Except Fault QazTlvs :=
  let tlvs :=
    if tlvs.active && dcbx && !tlvs.qazdu then { tlvs with active := false } else tlvs
  if tlvs.active then
    match tlvs.rx with
    | none => .error (.useAfterFree 0)
    | some rx => do
      let tlvs := if tlvs.qazdu then { tlvs with pending := false } else tlvs
      let tlvs ← mibUpdateObjects rx tlvs
      let tlvs := runAllSm tlvs
      pure { tlvs with rx := none }.somethingChangedLocal
  else .ok tlvs

/-- `ieee8021qaz_rchange`, with its answer. `mac` is the sender. -/
def qazRchange (mac : Bytes) (dcbx : Bool) (tlvs : QazTlvs) (tlv : Tlv) :
    Except Fault (QazTlvs × Answer) :=
  if tlv.type = type1 then .ok ({ tlvs with rx := some {}, qazdu := false }, .tlvOk)
  else if tlv.type = type127 then
    if tlv.info.length < ouiSubSize then .ok (tlvs, .tlvErr)
    else if tlv.info.take 3 ≠ ieee8021qazOui then .ok (tlvs, .subtypeInvalid)
    else do
      let (tlvs, _) ← unpackQazTlvs tlv.info { tlvs with remoteMac := mac }
      pure (tlvs, .tlvOk)
  else if tlv.type = type0 then do
    let tlvs ← qazEnd dcbx tlvs
    pure (tlvs, .tlvOk)
  else .ok (tlvs, .tlvOk)

/-- `ieee8021qaz_mibDeleteObject` -/
def mibDeleteObject (tlvs : QazTlvs) : QazTlvs :=
  { tlvs with
    rx := tlvs.rx.map fun _ => {}
    ets := { tlvs.ets with recr := none, cfgr := none }
    pfc := { tlvs.pfc with
      remoteParam := false
      remotePfc := { tlvs.pfc.remotePfc with
        willing := false, mbc := false, pfcCap := 0, pfcEnable := 0 } }
    appHead := appReset tlvs.appHead }.somethingChangedLocal

/-- `ieee8021qaz_check_pending`, in the second in which `dormantDelay` is one -/
def checkPending (tlvs : QazTlvs) : QazTlvs :=
  if tlvs.active && tlvs.pending then
    (runAllSm { tlvs with
      pending := false, appHead := appReset tlvs.appHead }).somethingChangedLocal
  else tlvs

end Lldpad.Qaz
