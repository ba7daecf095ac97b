import Lldpad.Lib.Fault
import Lldpad.Dcbx.Types

/-!
# `Lldpad.Dcbx.Feature`: the feature state machine

`run_feature_protocol` of `dcb_protocol.c`, for one feature. It looks into a configuration
only through three operations, so the configuration is a parameter here and `FeatureOps` are
the operations.

`featureMachine` is the machine. Its parts carry the labels that the source writes to its
log: F5, F6.2, F8, F9.1, F16, F18, F20, F22, F23.
-/

namespace Lldpad.Dcbx

open Lldpad.Lib

/-- Where a change comes from. -/
inductive Side where
  /-- `DCB_LOCAL_CHANGE_..` -/
  | loc
  /-- `DCB_REMOTE_CHANGE_..` -/
  | rem
  deriving DecidableEq, Repr

/-- What `set_configuration` does: the operational configuration that it leaves behind, what
it asks the driver to set, and whether it succeeds. -/
structure Configured (C : Type) where
  oper : C
  hw : List (C × Option Bool)
  ok : Bool

/-- What the machine does with the configuration of a feature. -/
structure FeatureOps (C : Type) where
  /-- `CopyConfigToOper`: the operational configuration and the one to copy -/
  copy : C → C → C
  /-- `LocalPeerCompatible` -/
  localPeerCompatible : Stores C → Bool
  /-- `set_configuration` -/
  setConfiguration : Side → Stores C → Except Fault (Configured C)

variable {C : Type}

namespace Stores

/-- `CopyConfigToOper` with `LOCAL_STORE` or `PEER_STORE` -/
def copyConfigToOper (o : FeatureOps C) (src : Side) (v : Stores C) : Stores C :=
  { v with oper := { v.oper with
      config := o.copy v.oper.config (if src = .loc then v.loc.config else v.peer.config) } }

/-- `set_configuration`, and whether it succeeds -/
def setConfiguration (o : FeatureOps C) (side : Side) (v : Stores C) :
    Except Fault (Stores C × Bool) := do
  let r ← o.setConfiguration side v
  pure ({ v with oper := { v.oper with config := r.oper }, hw := v.hw ++ r.hw }, r.ok)

/-- `set_configuration`, with its result ignored -/
def trySetConfiguration (o : FeatureOps C) (side : Side) (v : Stores C) :
    Except Fault (Stores C) := do
  let (v, _) ← v.setConfiguration o side
  pure v

/-- `set_configuration`, with `FEAT_ERR_CFG` for a failure -/
def setOrFlag (o : FeatureOps C) (side : Side) (v : Stores C) :
    Except Fault (Stores C) := do
  let (v, ok) ← v.setConfiguration o side
  pure (v.withFeat { v.feat with errorFlag := orFlag v.feat.errorFlag featErrCfg !ok })

/-- `set_configuration`, with `Error` and `FEAT_ERR_CFG` for a failure -/
def setOrFail (o : FeatureOps C) (side : Side) (v : Stores C) :
    Except Fault (Stores C) := do
  let (v, ok) ← v.setConfiguration o side
  pure (v.withFeat { v.feat with
    error := !ok
    errorFlag := orFlag v.feat.errorFlag featErrCfg !ok })

/-! ### Before the event -/

/-- The error flags for double TLVs and for several neighbours. With several neighbours there
is no TLV of the peer. -/
def noteErrors (dup tooMany : Bool) (v : Stores C) : Stores C :=
  { v.withFeat { v.feat with
      errorFlag := putFlag (putFlag v.feat.errorFlag featErrMultiTlv dup)
        featErrMultiPeer tooMany } with
    peer := { v.peer with
      protocol := { v.peerFeat with tlvPresent := v.peerFeat.tlvPresent && !tooMany } } }

/-- `DCB_INIT` -/
def start (ctrl : ControlProtocolAttribs) (v : Stores C) : Stores C :=
  if v.feat.state = .init then
    v.withFeat { v.feat with
      operVersion := v.feat.maxVersion
      operMode := false
      error := false
      featureSeqNo := ctrl.seqNo + 1
      syncd := !v.feat.advertise
      state := .listen }
  else v

/-- A local change of a feature that is in sync. One that is not waits until the peer has
answered the earlier change. -/
def localChange (ctrl : ControlProtocolAttribs) (v : Stores C) : Stores C :=
  if v.feat.syncd then
    let sends := v.feat.advertise || v.feat.advertisePrev
    v.withFeat { v.feat with
      featureSeqNo := ctrl.seqNo + 1
      syncd := !sends
      tlvSent := v.feat.tlvSent || !sends }
  else v

/-! ### The branches -/

/-- `Err = feat_prot->Error_Flag`, where `Err` is a `bool` -/
def errorFlagAsBool (flag : UInt8) : UInt8 := if flag = 0 then 0 else 1

/-- F5, advertise mode off -/
def advertiseOff (o : FeatureOps C) (side : Side) (v : Stores C) : Except Fault (Stores C) :=
  let v := v.copyConfigToOper o .loc
  let err := errorFlagAsBool v.feat.errorFlag
  let flag := orFlag featErrNone featErrMultiPeer (hasFlag err featErrMultiPeer)
  let flag := orFlag flag (err &&& featErrMultiTlv) (hasFlag err featErrMultiTlv)
  (v.withFeat { v.feat with
    error := false
    errorFlag := flag
    operMode := v.feat.enable }).trySetConfiguration o side

/-- F6.2, the TLVs of the peer expired -/
def peerExpired (o : FeatureOps C) (v : Stores C) : Except Fault (Stores C) :=
  let v := v.copyConfigToOper o .loc
  (v.withFeat { v.feat with
    operMode := false
    syncd := false
    error := true
    featureSeqNo := 1
    errorFlag := v.feat.errorFlag ||| featErrNoTlv }).trySetConfiguration o .rem

/-- F8, the feature is not present -/
def notPresent (o : FeatureOps C) (v : Stores C) : Except Fault (Stores C) :=
  let v := v.copyConfigToOper o .loc
  (v.withFeat { v.feat with
    operMode := false
    syncd := true
    operVersion := v.feat.maxVersion
    error := v.feat.dcbxSt = dcbxSubtype2
    errorFlag := v.feat.errorFlag ||| featErrNoTlv }).trySetConfiguration o .rem

/-- F9.1, several TLVs of the peer -/
def multipleTlvs (o : FeatureOps C) (v : Stores C) : Except Fault (Stores C) :=
  let v := v.copyConfigToOper o .loc
  (v.withFeat { v.feat with
    operMode := false
    error := true
    forceSend := true }).setOrFlag o .rem

/-- The feature gets `OperMode` and a configuration, the local one or that of the peer. The
errors of an earlier round are gone. -/
def settle (o : FeatureOps C) (src : Side) (operMode : Bool) (v : Stores C) :
    Except Fault (Stores C) :=
  let v := v.copyConfigToOper o src
  let v := v.withFeat { v.feat with errorFlag := featErrNone, operMode := operMode }
  if v.feat.dcbxSt = dcbxSubtype2 then
    (v.withFeat { v.feat with syncd := !v.feat.error, error := false }).setOrFlag o .rem
  else v.setOrFail o .rem

/-- `OperMode` of a feature that the two sides agree on -/
def agreedMode (v : Stores C) : Bool :=
  if v.feat.dcbxSt = dcbxSubtype2 then !v.peerFeat.error else true

/-- F16, the feature is disabled -/
def disabled (o : FeatureOps C) (v : Stores C) : Except Fault (Stores C) :=
  v.settle o .loc false

/-- F18, local willing, peer not willing -/
def localWilling (o : FeatureOps C) (v : Stores C) : Except Fault (Stores C) :=
  v.settle o (if v.agreedMode then .rem else .loc) v.agreedMode

/-- F20, local not willing, peer willing -/
def peerWilling (o : FeatureOps C) (v : Stores C) : Except Fault (Stores C) :=
  v.settle o .loc v.agreedMode

/-- F22, the same willingness, and compatible -/
def compatible (o : FeatureOps C) (v : Stores C) : Except Fault (Stores C) :=
  v.settle o .loc v.agreedMode

/-- F23, not compatible -/
def incompatible (o : FeatureOps C) (v : Stores C) : Except Fault (Stores C) := do
  let v := v.copyConfigToOper o .loc
  let v := v.withFeat { v.feat with
    operMode := false
    syncd := if v.feat.dcbxSt = dcbxSubtype2 then v.feat.error else v.feat.syncd
    error := true }
  let v ← v.setOrFlag o .rem
  pure (v.withFeat { v.feat with errorFlag := v.feat.errorFlag ||| featErrMismatch })

/-- F15 to F23 -/
def decideOper (o : FeatureOps C) (v : Stores C) : Except Fault (Stores C) :=
  let v := v.withFeat { v.feat with peerWilling := v.peerFeat.willing }
  if !v.feat.enable || !v.peerFeat.enable then v.disabled o
  else if v.feat.willing && !v.feat.peerWilling then v.localWilling o
  else if !v.feat.willing && v.feat.peerWilling then v.peerWilling o
  else if o.localPeerCompatible v then v.compatible o
  else v.incompatible o

/-- CIN has no `OperMode` with an error on either side. -/
def stopOnError (o : FeatureOps C) (v : Stores C) : Except Fault (Stores C) :=
  if v.feat.dcbxSt = dcbxSubtype1 ∧ (v.feat.error || v.peerFeat.error) ∧ v.feat.operMode then
    (v.withFeat { v.feat with operMode := false }).trySetConfiguration o .rem
  else .ok v

/-- A change of `Error` takes a new sequence number. CIN has it acknowledged, too. -/
def errorChange (ctrl : ControlProtocolAttribs) (v : Stores C) : Stores C :=
  v.withFeat { v.feat with
    syncd := v.feat.syncd && v.feat.dcbxSt != dcbxSubtype1
    featureSeqNo := ctrl.seqNo + 1 }

/-- `ErrProt`. `err` is `Error` as it was before the branch. -/
def errProt (o : FeatureOps C) (ctrl : ControlProtocolAttribs) (err : Bool) (v : Stores C) :
    Except Fault (Stores C) := do
  let w ← (v.withFeat { v.feat with
    errorFlag := orFlag v.feat.errorFlag featErrPeer v.peerFeat.error }).stopOnError o
  pure (if err = v.feat.error then w else w.errorChange ctrl)

/-! ### The machine -/

/-- The version of the control protocol is settled. -/
def versionsAgree (ctrl peerCtrl : ControlProtocolAttribs) : Bool :=
  ctrl.operVersion = min peerCtrl.maxVersion ctrl.maxVersion ∧
    ctrl.operVersion = peerCtrl.operVersion

/-- A remote change of a feature whose TLV the peer sends, once the peer has answered -/
def answered (o : FeatureOps C) (ctrl : ControlProtocolAttribs) (v : Stores C) :
    Except Fault (Stores C) :=
  if hasFlag v.feat.errorFlag featErrMultiTlv then do
    let w ← v.multipleTlvs o
    w.errProt o ctrl v.feat.error
  else if v.feat.operVersion ≠ min v.peerFeat.maxVersion v.feat.maxVersion then
    .ok (v.withFeat { v.feat with
      operVersion := min v.peerFeat.maxVersion v.feat.maxVersion
      syncd := false
      featureSeqNo := ctrl.seqNo + 1 })
  else
    let v := v.withFeat { v.feat with syncd := true }
    if v.feat.operVersion ≠ v.peerFeat.operVersion then
      -- The peer has not taken over the version yet.
      .ok v
    else do
      let w ← v.decideOper o
      w.errProt o ctrl v.feat.error

/-- The peer has not answered the change that the feature waits for. -/
def waits (peerCtrl : ControlProtocolAttribs) (v : Stores C) : Bool :=
  !v.feat.syncd && peerCtrl.ackNo != v.feat.featureSeqNo

/-- A remote change, once the version of the control protocol is settled -/
def remoteChange (o : FeatureOps C) (ctrl peerCtrl : ControlProtocolAttribs) (v : Stores C) :
    Except Fault (Stores C) :=
  if v.feat.dcbxSt = dcbxSubtype2 ∧ peerCtrl.rxDcbTlvState = .expired then v.peerExpired o
  else if !v.peerFeat.tlvPresent then v.notPresent o
  else
    let v := v.withFeat { v.feat with errorFlag := putFlag v.feat.errorFlag featErrNoTlv false }
    if v.waits peerCtrl then .ok v else v.answered o ctrl

/-- `DCB_LISTEN` -/
def listen (o : FeatureOps C) (side : Side) (justAdded : Bool)
    (ctrl peerCtrl : ControlProtocolAttribs) (v : Stores C) :
    Except Fault (Stores C × CmdStatus) := do
  let v := if side = .loc then v.localChange ctrl else v
  if !v.feat.advertise then
    let v ← v.advertiseOff o side
    pure (v, .success)
  else
    let v ← if justAdded then (v.copyConfigToOper o .loc).trySetConfiguration o side else pure v
    if side = .loc then pure (v, .success)
    else if !versionsAgree ctrl peerCtrl then pure (v, .ctrlVersNotCompatible)
    else
      let v ← v.remoteChange o ctrl peerCtrl
      pure (v, .success)

/-- The part of `run_feature_protocol` behind the search for the stores. `dup` says that the
peer sent the TLV twice, `adds` that the event is the one that comes first for a new device. -/
def featureMachine (o : FeatureOps C) (side : Side) (dup adds : Bool)
    (ctrl peerCtrl : ControlProtocolAttribs) (v : Stores C) :
    Except Fault (Stores C × CmdStatus) :=
  let v := v.noteErrors dup (hasFlag peerCtrl.errorFlag tooManyNghbrs)
  let justAdded := v.feat.state = .init ∧ adds
  let v := v.start ctrl
  if v.feat.state = .listen then v.listen o side justAdded ctrl peerCtrl
  else .ok (v, .success)

end Stores

end Lldpad.Dcbx
