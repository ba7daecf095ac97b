import Lldpad.Lib.Transition
import Lldpad.Qaz.Tlv

/-!
# `Lldpad.Qaz.System`: a port that runs 802.1Qaz, and two of them

`QazEvent` is what reaches the module of one port: LLDPDUs, the loss of the neighbour, the
request to build TLVs, and commands. `AppPort` is the module beside what was asked of it: the
entries that are configured here, and those of the neighbour's last LLDPDU.

`Link` are two ports that send each other their LLDPDUs. Any LLDPDU that was sent may arrive, in
any order, more than once or never.

A command reaches the module when its arguments are valid. The ETS commands and the mode of the
port are left out.
-/

namespace Lldpad.Qaz

open Lldpad.Lib
open Lldpad.Lldp (Bytes)

/-! ### Commands -/

/-- The checks of `_set_arg_app` -/
def validApp (prio sel pid : Int) : Bool :=
  0 ≤ prio && prio ≤ 7 && (1 ≤ sel && sel ≤ 4) && (0 ≤ pid && pid ≤ 65535) &&
    !(sel == 1 && (pid < 1536 && pid != 0))

/-- The entry that a command names -/
def appOfArgs (prio sel pid : Int) : DcbApp :=
  { selector := (sel.toNat).toUInt8, priority := (prio.toNat).toUInt8,
    protocol := (pid.toNat).toUInt16 }

/-- A set command -/
inductive QazCommand where
  /-- `_set_arg_willing`, for ETS -/
  | etsWilling (willing : Bool)
  /-- `_set_arg_willing`, for PFC -/
  | pfcWilling (willing : Bool)
  /-- `_set_arg_enabled`, with the mask that it makes of its argument -/
  | enabled (mask : UInt8)
  /-- `_set_arg_delay` -/
  | delay (delay : UInt32)
  /-- `_set_arg_app` -/
  | app (prio sel pid : Int) (delete : Bool)
  /-- `_set_arg_tlvtxenable`, with the settings behind it -/
  | tlvtxenable (tx : TxConfig)
  deriving DecidableEq

/-- The PFC configuration of this port is written. -/
def QazTlvs.setLocalPfc (tlvs : QazTlvs) (f : PfcObj → PfcObj) : QazTlvs :=
  { tlvs with pfc := { tlvs.pfc with localPfc := f tlvs.pfc.localPfc } }

/-- The effect of a command -/
def setArg (command : QazCommand) (tlvs : QazTlvs) : QazTlvs :=
  match command with
  | .etsWilling willing =>
    { tlvs with ets := { tlvs.ets with
      cfgl := { tlvs.ets.cfgl with willing := willing } } }.somethingChangedLocal
  | .pfcWilling willing =>
    (tlvs.setLocalPfc fun pfc => { pfc with willing := willing }).somethingChangedLocal
  | .enabled mask =>
    (tlvs.setLocalPfc fun pfc => { pfc with pfcEnable := mask }).somethingChangedLocal
  | .delay delay => (tlvs.setLocalPfc fun pfc => { pfc with delay := delay }).somethingChangedLocal
  | .app prio sel pid delete =>
    if validApp prio sel pid then
      (appSethw { tlvs with
        appHead :=
          modApp tlvs.appHead false (appOfArgs prio sel pid) delete }).somethingChangedLocal
    else tlvs
  | .tlvtxenable tx => { tlvs with tx := tx }.somethingChangedLocal

/-! ### One port -/

/-- An LLDPDU, as far as the module sees it: its organizationally specific TLVs, and whether it
has TLVs of the older protocols of DCBX. -/
structure Lldpdu where
  tlvs : List Bytes
  dcbx : Bool := false
  deriving DecidableEq

/-- The TLVs of an LLDPDU one by one, until one is in error. -/
def rxTlvs (mac : Bytes) (dcbx : Bool) : List Tlv → QazTlvs → Except Fault QazTlvs
  | [], tlvs => .ok tlvs
  | tlv :: rest, tlvs => do
    let (tlvs, answer) ← qazRchange mac dcbx tlvs tlv
    if answer = .tlvErr then pure tlvs else rxTlvs mac dcbx rest tlvs

/-- What the module sees of `rxProcessFrame` -/
def rxLldpdu (mac : Bytes) (p : Lldpdu) (tlvs : QazTlvs) : Except Fault QazTlvs :=
  rxTlvs mac p.dcbx ({ type := type1, info := [] } ::
    (p.tlvs.map fun info => { type := type127, info := info }) ++
    [{ type := type0, info := [] }]) tlvs

/-- What reaches the module of a port -/
inductive QazEvent where
  /-- an LLDPDU arrives that is not the last one again -/
  | lldpdu (mac : Bytes) (p : Lldpdu)
  /-- `ieee8021qaz_mibDeleteObject`: the neighbour is lost -/
  | mibDelete
  /-- `ieee8021qaz_check_pending` -/
  | checkPending
  /-- `ieee8021qaz_gettlv`: the agent sends -/
  | gettlv (apps : Option (List DcbApp))
  | command (command : QazCommand)
  deriving DecidableEq

/-- One event -/
def qazStep (tlvs : QazTlvs) : QazEvent → Except Fault QazTlvs
  | .lldpdu mac p => rxLldpdu mac p tlvs
  | .mibDelete => .ok (mibDeleteObject tlvs)
  | .checkPending => .ok (checkPending tlvs)
  | .gettlv apps => do
    let (tlvs, _) ← qazGettlv apps tlvs
    pure { tlvs with localChange := false }
  | .command command => .ok (setArg command tlvs)

/-- What `read_cfg_file` and the driver say about a port. `legacy` is the answer of
`dcbx_get_legacy_version`. -/
structure QazConfig where
  mac : Bytes
  cfgl : EtscfgObj := {}
  recl : EtsrecObj := {}
  pfc : PfcObj := {}
  apps : List DcbApp := []
  tx : TxConfig := {}
  legacy : Bool := false

/-- `ieee8021qaz_ifup` -/
def qazIfup (cfg : QazConfig) : QazTlvs :=
  { active := !cfg.legacy
    pending := !cfg.legacy
    localMac := cfg.mac
    ets := { cfgl := cfg.cfgl, recl := cfg.recl }
    pfc := { localPfc := cfg.pfc }
    appHead := cfg.apps.foldl (fun head app => modApp head false app false) []
    tx := cfg.tx }

/-! ### One port and its neighbour's entries -/

/-- The TLV is one of 802.1Qaz with this subtype. -/
def isQazTlv (subtype : UInt8) (info : Bytes) : Bool :=
  info.take 3 == ieee8021qazOui && info[3]? == some subtype

/-- The entries of an application TLV. What is left of a last one that is cut off is no entry. -/
def appsOfTlv : Bytes → List DcbApp
  | prs :: hi :: lo :: rest => appOfBytes prs hi lo :: appsOfTlv rest
  | _ => []

/-- The entries that an LLDPDU announces: those of its first application TLV -/
def appsOfLldpdu (p : Lldpdu) : List DcbApp :=
  match p.tlvs.find? (isQazTlv ieee8021qazAppTlv) with
  | some info => appsOfTlv (info.drop (ouiSubSize + 1))
  | none => []

/-- No TLV is shorter than an OUI and a subtype. -/
def Lldpdu.wellFormed (p : Lldpdu) : Bool := p.tlvs.all (ouiSubSize ≤ ·.length)

/-- A port with what was asked of it: the entries that are configured here, and those of the
neighbour's last LLDPDU that the module worked on. Both are ghosts. -/
structure AppPort where
  tlvs : QazTlvs
  configured : List DcbApp
  announced : List DcbApp := []

/-- One event. The module works on a well-formed LLDPDU unless the port has left 802.1Qaz. -/
def appPortStep (port : AppPort) (e : QazEvent) : Except Fault AppPort := do
  let tlvs ← qazStep port.tlvs e
  pure {
    tlvs := tlvs
    configured :=
      match e with
      | .command (.app prio sel pid delete) =>
        let app := appOfArgs prio sel pid
        if validApp prio sel pid = false then port.configured
        else if delete then port.configured.filter (· ≠ app)
        else app :: port.configured
      | _ => port.configured
    announced :=
      match e with
      | .lldpdu _ p => if p.wellFormed && tlvs.active then appsOfLldpdu p else port.announced
      | .mibDelete => []
      | _ => port.announced }

/-- A port whose application table is looked at -/
def appPortSystem : System AppPort QazEvent where
  init port := ∃ cfg, port = { tlvs := qazIfup cfg, configured := cfg.apps }
  step := appPortStep

/-! ### Two ports -/

/-- The two ends of a link -/
inductive Side where
  | left
  | right
  deriving DecidableEq, Repr

/-- The other end -/
def Side.other : Side → Side
  | .left => .right
  | .right => .left

/-- One end of a link. -/
structure LinkEnd where
  tlvs : QazTlvs
  /-- every LLDPDU that was sent -/
  sent : List Lldpdu := []
  /-- ghost: the last LLDPDU of the neighbour that the module worked on had a PFC TLV, and the
  neighbour was not lost since -/
  peerPfc : Bool := false
  /-- ghost: the PFC machine has not run since the PFC configuration was written or the
  neighbour was lost -/
  stale : Bool := false

/-- Two ports with a link between them -/
structure Link where
  left : LinkEnd
  right : LinkEnd

namespace Link

def get (l : Link) : Side → LinkEnd
  | .left => l.left
  | .right => l.right

def set (l : Link) (s : Side) (x : LinkEnd) : Link :=
  match s with
  | .left => { l with left := x }
  | .right => { l with right := x }

end Link

/-- What happens on a link -/
inductive LinkEvent where
  | command (s : Side) (command : QazCommand)
  /-- the agent sends an LLDPDU, with or without TLVs of the older protocols -/
  | transmit (s : Side) (apps : Option (List DcbApp)) (dcbx : Bool)
  /-- the `i`-th LLDPDU of the other end arrives -/
  | deliver (s : Side) (i : Nat)
  | mibDelete (s : Side)
  | checkPending (s : Side)
  deriving DecidableEq

/-- The command writes the PFC configuration. -/
def QazCommand.writesPfc : QazCommand → Bool
  | .pfcWilling _ | .enabled _ | .delay _ => true
  | .etsWilling _ | .app .. | .tlvtxenable _ => false

/-- An LLDPDU has a PFC TLV. -/
def Lldpdu.hasPfc (p : Lldpdu) : Bool := p.tlvs.any (isQazTlv ieee8021qazPfcTlv)

/-- One event of a link -/
def linkStep (l : Link) : LinkEvent → Except Fault Link
  | .command s command =>
    let x := l.get s
    .ok (l.set s { x with
      tlvs := setArg command x.tlvs, stale := x.stale || command.writesPfc })
  | .transmit s apps dcbx => do
    let x := l.get s
    let (tlvs, out) ← qazGettlv apps x.tlvs
    pure (l.set s { x with
      tlvs := { tlvs with localChange := false }
      sent := x.sent ++ [{ tlvs := out, dcbx := dcbx }]
      stale := false })
  | .deliver s i =>
    let x := l.get s
    match (l.get s.other).sent[i]? with
    | none => .ok l
    | some p => do
      let tlvs ← rxLldpdu (l.get s.other).tlvs.localMac p x.tlvs
      let worked := p.wellFormed && tlvs.active
      pure (l.set s { x with
        tlvs := tlvs
        peerPfc := if worked then p.hasPfc else x.peerPfc
        stale := if worked then false else x.stale })
  | .mibDelete s =>
    let x := l.get s
    .ok (l.set s { x with tlvs := mibDeleteObject x.tlvs, peerPfc := false, stale := true })
  | .checkPending s =>
    let x := l.get s
    .ok (l.set s { x with
      tlvs := checkPending x.tlvs
      stale := if x.tlvs.active && x.tlvs.pending then false else x.stale })

/-- `pfc_cap` is the number of traffic classes that may have PFC (`linux/dcbnl.h`). -/
def QazConfig.pfcCapOk (cfg : QazConfig) : Prop := cfg.pfc.pfcCap.toNat ≤ maxTcs

/-- Two ports with different addresses -/
def linkSystem : System Link LinkEvent where
  init l := ∃ cfg cfg' : QazConfig, cfg.mac ≠ cfg'.mac ∧
    cfg.mac.length = Lldp.ethAlen ∧ cfg'.mac.length = Lldp.ethAlen ∧
    cfg.pfcCapOk ∧ cfg'.pfcCapOk ∧
    l = { left := { tlvs := qazIfup cfg }, right := { tlvs := qazIfup cfg' } }
  step := linkStep

end Lldpad.Qaz
