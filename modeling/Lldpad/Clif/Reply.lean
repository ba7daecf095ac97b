import Lldpad.Clif.Request
import Lldpad.Qaz.Settings

/-!
# `Lldpad.Clif.Reply`: the reply to a query of the configuration

The get handlers of the mandatory TLVs (`lldp_mand_cmds.c`) and of 802.1Qaz
(`lldp_8021qaz_cmds.c`), the two ways in which `mand_clif_cmd` asks them, and `print_arg_value`
(`lldptool_cmds.c`), which takes the reply apart.

The settings are what `get_config_setting` finds for an interface and a scope. The get handlers of
the other modules print a value behind its own length; which one is arbitrary. A reply is the text
behind the interface name and the TLV ID.
-/

namespace Lldpad.Clif

open Lldpad.Lib
open Lldpad.Qaz (AppObj AppHw maxAppEntries u8 u32)

/-! ### Settings -/

/-- What the get handlers read -/
structure Settings where
  /-- a number at `tlvid` and a name, or at a name alone -/
  int : Option UInt32 → CStr → Option Int
  /-- a string at `tlvid` and a name -/
  string : UInt32 → CStr → Option CStr
  /-- what is on the stack where a number that is not there was to go -/
  stale : Int
  /-- `lldpad_shm_get_dcbx` -/
  dcbx : Int
  /-- `app_head`, if there are data of 802.1Qaz for the interface -/
  appHead : Option (List AppObj)

/-! ### What a handler answers -/

/-- `cmd_status`, other than `cmd_success` -/
inductive CmdErr where
  | failed
  | deviceNotFound
  | agentNotFound
  | invalid
  | badParams
  | peerNotPresent
  | ctrlVersNotCompatible
  | notCapable
  | notApplicable
  | noAccess
  | agentNotSupported
  deriving DecidableEq, Repr

/-- What is printed behind the name of an argument -/
inductive Value where
  /-- a text behind its own length -/
  | own (text : CStr)
  /-- a text behind a length that is a constant of the source -/
  | fixed (len : UInt8) (text : CStr)
  /-- a text that goes first through a buffer, which has room for so many characters -/
  | buffered (room : Nat) (text : CStr)
  deriving DecidableEq, Repr

/-- The text that the handler has for the argument -/
def Value.meant : Value → CStr
  | .own text | .fixed _ text | .buffered _ text => text

/-- The text that is printed -/
def Value.printed : Value → CStr
  | .own text | .fixed _ text => text
  | .buffered room text => text.take room

/-- The length that is printed before it -/
def Value.declared : Value → Nat
  | .own text => text.length
  | .fixed len _ => len.toNat
  | .buffered room text => (text.take room).length

/-- `"%02x%s%04x%s"` -/
def Value.field (v : Value) (arg : CStr) : CStr :=
  hexField 2 arg.length ++ (arg ++ (hexField 4 v.declared ++ v.printed))

/-- The answer for a setting: `"%02x%s%04d"` of a zero when it was not found -/
def Value.ofSetting {α : Type} (found : Option α) (get : α → Value) : Value :=
  match found with
  | some setting => get setting
  | none => .own []

/-- The switch on the command and the TLV that a get handler starts with -/
def onTlv (wrong : CmdErr) (known : List UInt32) (get : UInt32 → Value) (cmd : LldpCmd) :
    Except CmdErr Value :=
  match cmd with
  | .gettlv tlvid =>
    if tlvid ∈ known then .ok (get tlvid)
    else if tlvid.toNat = invalidTlvid then .error .invalid
    else .error .notApplicable
  | _ => .error wrong

/-- `VAL_YES` or `VAL_NO` -/
def yesNo (b : Bool) : CStr := if b then "yes".toList else "no".toList

/-! ### The mandatory TLVs -/

/-- `CHASSIS_ID_TLV`, `PORT_ID_TLV`, `TIME_TO_LIVE_TLV`, `END_OF_LLDPDU_TLV` -/
def chassisIdTlv : UInt32 := 1
def portIdTlv : UInt32 := 2
def timeToLiveTlv : UInt32 := 3
def endOfLldpduTlv : UInt32 := 0

/-- `get_arg_adminstatus`. Its TLV ID is `INVALID_TLVID` when the command is `cmd_get_lldp`. -/
def getArgAdminstatus (s : Settings) (arg : CStr) (cmd : LldpCmd) : Except CmdErr Value :=
  match cmd with
  | .getLldp =>
    match (s.int none arg).getD 0 with
    | 0 => .ok (.own "disabled".toList)
    | 1 => .ok (.own "tx".toList)
    | 2 => .ok (.own "rx".toList)
    | 3 => .ok (.own "rxtx".toList)
    | _ => .error .invalid
  | _ => .error .badParams

/-- `get_arg_tlvtxenable` of the mandatory TLVs, which are always sent -/
def mandGetArgTlvtxenable : LldpCmd → Except CmdErr Value :=
  onTlv .badParams [chassisIdTlv, portIdTlv, timeToLiveTlv, endOfLldpduTlv] fun _ =>
    .own (yesNo true)

/-- The name of a chassis ID subtype -/
def chassisSubtype (subtype : Int) : CStr :=
  match subtype with
  | 1 => "CHASSIS_ID_CHASSIS_COMPONENT".toList
  | 2 => "CHASSIS_ID_INTERFACE_ALIAS".toList
  | 3 => "CHASSIS_ID_PORT_COMPONENT".toList
  | 4 => "CHASSIS_ID_MAC_ADDRESS".toList
  | 5 => "CHASSIS_ID_NETWORK_ADDRESS".toList
  | 6 => "CHASSIS_ID_INTERFACE_NAME".toList
  | 7 => "CHASSIS_ID_LOCALLY_ASSIGNED".toList
  | _ => "DEFAULT".toList

/-- The name of a port ID subtype -/
def portSubtype (subtype : Int) : CStr :=
  match subtype with
  | 1 => "PORT_ID_INTERFACE_ALIAS".toList
  | 2 => "PORT_ID_PORT_COMPONENT".toList
  | 3 => "PORT_ID_MAC_ADDRESS".toList
  | 4 => "PORT_ID_NETWORK_ADDRESS".toList
  | 5 => "PORT_ID_INTERFACE_NAME".toList
  | 6 => "PORT_ID_AGENT_CIRCUIT_ID".toList
  | 7 => "PORT_ID_LOCALLY_ASSIGNED".toList
  | _ => "DEFAULT".toList

/-- `get_mand_subtype`, which does not look whether the setting was found -/
def getMandSubtype (s : Settings) (arg : CStr) : LldpCmd → Except CmdErr Value :=
  onTlv .invalid [chassisIdTlv, portIdTlv] fun tlvid =>
    let subtype := (s.int (some tlvid) arg).getD s.stale
    .own (if tlvid = chassisIdTlv then chassisSubtype subtype else portSubtype subtype)

/-- `get_mand_ttl_value`, which does not look either. Its buffer has eight bytes. -/
def getMandTtlValue (s : Settings) (arg : CStr) : LldpCmd → Except CmdErr Value :=
  onTlv .invalid [timeToLiveTlv] fun tlvid =>
    .buffered 7 (decimal ((s.int (some tlvid) arg).getD s.stale))

/-! ### 802.1Qaz -/

/-- `(OUI_IEEE_8021 << 8) | sub` -/
def tlvid8021 (sub : UInt32) : UInt32 := (0x0080c2 : UInt32) <<< 8 ||| sub

/-- `LLDP_8021QAZ_ETSCFG`, `LLDP_8021QAZ_ETSREC`, `LLDP_8021QAZ_PFC`, `LLDP_8021QAZ_APP` behind
the OUI -/
def etscfgTlv : UInt32 := tlvid8021 9
def etsrecTlv : UInt32 := tlvid8021 10
def pfcTlv : UInt32 := tlvid8021 11
def appTlv : UInt32 := tlvid8021 12

def getArgDcbxMode (s : Settings) : LldpCmd → Except CmdErr Value :=
  onTlv .invalid [tlvid8021 0] fun _ =>
    match s.dcbx with
    | 0 => .own "auto".toList
    | 1 => .own "CIN".toList
    | 2 => .own "CEE".toList
    | _ => .own "unknown".toList

/-- `get_arg_tlvtxenable` of 802.1Qaz: `is_tlv_txenabled` for each TLV -/
def qazGetArgTlvtxenable (s : Settings) (arg : CStr) : LldpCmd → Except CmdErr Value :=
  onTlv .invalid [etscfgTlv, pfcTlv, etsrecTlv, appTlv] fun tlvid =>
    .own (yesNo ((s.int (some tlvid) arg).getD 0 != 0))

def getArgWilling (s : Settings) (arg : CStr) : LldpCmd → Except CmdErr Value :=
  onTlv .invalid [etscfgTlv, pfcTlv] fun tlvid =>
    .ofSetting (s.int (some tlvid) arg) fun willing => .own (yesNo (willing != 0))

/-- `get_arg_numtc`, which prints a length of one -/
def getArgNumtc (s : Settings) (arg : CStr) : LldpCmd → Except CmdErr Value :=
  onTlv .invalid [etscfgTlv] fun tlvid =>
    .ofSetting (s.int (some tlvid) arg) fun maxTcs => .fixed 1 (decimal maxTcs)

/-- `get_arg_up2tc`, `get_arg_tcbw` and `get_arg_tsa`: the text of the setting -/
def getArgTable (s : Settings) (arg : CStr) : LldpCmd → Except CmdErr Value :=
  onTlv .invalid [etscfgTlv, etsrecTlv] fun tlvid =>
    .ofSetting (s.string tlvid arg) .own

/-- `get_arg_enabled`, which prints a length of two before a decimal number -/
def getArgEnabled (s : Settings) (arg : CStr) : LldpCmd → Except CmdErr Value :=
  onTlv .invalid [pfcTlv] fun tlvid =>
    .ofSetting (s.int (some tlvid) arg) fun pfc => .fixed 2 (decimal pfc)

/-- `get_arg_delay`, which prints a length of two before at least two digits -/
def getArgDelay (s : Settings) (arg : CStr) : LldpCmd → Except CmdErr Value :=
  onTlv .invalid [pfcTlv] fun tlvid =>
    .ofSetting (s.int (some tlvid) arg) fun delay => .fixed 2 (hexField 2 (u32 delay).toNat)

/-! ### The application table -/

/-- `arg_app_strncat_hw`. The size that it computes wraps around, so all of the text is copied.
`none` stands for a number that is none of the three. -/
def argAppStrncatHw : Option AppHw → CStr
  | some .set => "hw (pending set)\n".toList
  | some .del => "hw (pending delete)\n".toList
  | some .done => "hw (set)\n".toList
  | none => " hw (unknown)\n".toList

/-- A line of the table. A protocol of selector one is printed in hexadecimal digits. -/
def appLine (i : Nat) (prio sel : UInt8) (proto : Int) (whose : CStr) (hw : Option AppHw) : CStr :=
  decimal i ++ ":(".toList ++ decimal prio.toNat ++ ",".toList ++ decimal sel.toNat ++
    ",".toList ++
    (if sel = 1 then "0x".toList ++ hexField 4 (u32 proto).toNat else decimal proto) ++
    ") ".toList ++ whose ++ " ".toList ++ argAppStrncatHw hw

/-- The loop over `app_head` that looks for a local entry. The last one counts. -/
def localHw (head : List AppObj) (prio sel : UInt8) (proto : Int) (hw : Option AppHw) :
    Option AppHw :=
  head.foldl (fun hw np =>
    if np.app.selector = sel ∧ (np.app.protocol.toNat : Int) = proto ∧ np.app.priority = prio ∧
        np.peer = false then some np.hw
    else hw) hw

/-- The loop of `get_arg_app` over the settings: the lines, and the index where it stops. `hw` is
kept from one turn to the next. -/
def localApps (s : Settings) : List Nat → Option AppHw → List CStr × Nat
  | [], _ => ([], maxAppEntries)
  | i :: rest, hw =>
    match s.string appTlv ("APP".toList ++ decimal i) with
    | none => localApps s rest hw
    | some app =>
      match tokens ',' app with
      | prio :: sel :: proto :: _ =>
        let prio := u8 (atoi prio.text)
        let sel := u8 (atoi sel.text)
        let proto := toInt32 (strtol 0 proto.text).value
        let hw := localHw (s.appHead.getD []) prio sel proto hw
        let apps := localApps s rest hw
        (appLine i prio sel proto "local".toList hw :: apps.1, apps.2)
      | _ => ([], i)

/-- The loop of `get_arg_app` over the entries of the peer, which all have one index -/
def peerApps (s : Settings) (i : Nat) : List CStr :=
  ((s.appHead.getD []).filter (·.peer)).map fun np =>
    appLine i np.app.priority np.app.selector np.app.protocol.toNat "peer".toList (some np.hw)

/-- All that `get_arg_app` has for `app_buf` -/
def appTable (s : Settings) : CStr :=
  let apps := localApps s (List.range maxAppEntries) none
  "(prio,sel,proto)\n".toList ++ (apps.1 ++ peerApps s apps.2).flatten

/-- The characters that `app_buf` takes: `strncat` leaves two bytes -/
def appBufRoom : Nat := 2048 - 2

def getArgApp (s : Settings) : LldpCmd → Except CmdErr Value :=
  onTlv .invalid [appTlv] fun _ => .buffered appBufRoom (appTable s)

/-! ### The handlers -/

/-- A get handler of another module. The names of the arguments are constants of the source. -/
structure OtherHandler where
  arg : CStr
  arg_ne : arg ≠ []
  arg_lt : arg.length < 256
  /-- the class is `TLV_ARG` -/
  tlvArg : Bool
  handleGet : LldpCmd → Except CmdErr CStr

/-- `struct arg_handlers`, where it has a `handle_get` -/
inductive ArgHandler where
  | adminStatus
  | mandEnableTx
  | subtype
  | ttlValue
  | mode
  | qazEnableTx
  | willing
  | numtcs
  | up2tc
  | tcbw
  | tsa
  | enabled
  | delay
  | app
  | other (h : OtherHandler)

/-- `ah->arg` -/
def ArgHandler.arg : ArgHandler → CStr
  | .adminStatus => "adminStatus".toList
  | .mandEnableTx | .qazEnableTx => "enableTx".toList
  | .subtype => "subtype".toList
  | .ttlValue => "value".toList
  | .mode => "mode".toList
  | .willing => "willing".toList
  | .numtcs => "numtcs".toList
  | .up2tc => "up2tc".toList
  | .tcbw => "tcbw".toList
  | .tsa => "tsa".toList
  | .enabled => "enabled".toList
  | .delay => "delay".toList
  | .app => "APP".toList
  | .other h => h.arg

/-- `ah->arg_class == TLV_ARG` -/
def ArgHandler.tlvArg : ArgHandler → Bool
  | .adminStatus => false
  | .other h => h.tlvArg
  | _ => true

/-- `ah->handle_get` -/
def ArgHandler.handleGet (s : Settings) (ah : ArgHandler) (cmd : LldpCmd) : Except CmdErr Value :=
  match ah with
  | .adminStatus => getArgAdminstatus s ah.arg cmd
  | .mandEnableTx => mandGetArgTlvtxenable cmd
  | .subtype => getMandSubtype s ah.arg cmd
  | .ttlValue => getMandTtlValue s ah.arg cmd
  | .mode => getArgDcbxMode s cmd
  | .qazEnableTx => qazGetArgTlvtxenable s ah.arg cmd
  | .willing => getArgWilling s ah.arg cmd
  | .numtcs => getArgNumtc s ah.arg cmd
  | .up2tc | .tcbw | .tsa => getArgTable s ah.arg cmd
  | .enabled => getArgEnabled s ah.arg cmd
  | .delay => getArgDelay s ah.arg cmd
  | .app => getArgApp s cmd
  | .other h => (h.handleGet cmd).map .own

/-- A module of `lldp_head` -/
inductive Module where
  | mand
  | ieee8021qaz
  | other (handlers : List OtherHandler)

/-- `np->ops->get_arg_handler` -/
def Module.argHandlers : Module → List ArgHandler
  | .mand => [.adminStatus, .mandEnableTx, .subtype, .ttlValue]
  | .ieee8021qaz =>
    [.mode, .qazEnableTx, .willing, .numtcs, .up2tc, .tcbw, .tsa, .enabled, .delay, .app]
  | .other handlers => handlers.map .other

/-! ### The daemon -/

/-- `snprintf` into a buffer of the given size -/
def snprintf (obufLen : Nat) (text : CStr) : CStr := text.take (obufLen - 1)

/-- The loop of `handle_get_args` over the handlers for TLVs -/
def getArgsLoop (s : Settings) (cmd : LldpCmd) :
    List ArgHandler → Nat → Except CmdErr Unit × CStr
  | [], _ => (.ok (), [])
  | ah :: rest, nbufLen =>
    match ah.handleGet s cmd with
    | .ok v =>
      let nbuf := snprintf nbufLen (v.field ah.arg)
      let r := getArgsLoop s cmd rest (nbufLen - nbuf.length)
      (r.1, nbuf ++ r.2)
    | .error .notApplicable => getArgsLoop s cmd rest nbufLen
    | .error rval => (.error rval, [])

/-- The handlers for TLVs of all modules -/
def tlvHandlers (mods : List Module) : List ArgHandler :=
  (mods.flatMap Module.argHandlers).filter ArgHandler.tlvArg

def handleGetArgs (mods : List Module) (s : Settings) (cmd : LldpCmd) (obufLen : Nat) :
    Except CmdErr Unit × CStr :=
  getArgsLoop s cmd (tlvHandlers mods) obufLen

/-- The loop of `handle_get_arg` over the handlers that it calls. All of them print at one
place. -/
def getArgLoop (s : Settings) (cmd : LldpCmd) (obufLen : Nat) :
    List ArgHandler → Except CmdErr Unit × CStr → Except CmdErr Unit × CStr
  | [], r => r
  | ah :: rest, r =>
    match ah.handleGet s cmd with
    | .ok v => getArgLoop s cmd obufLen rest (.ok (), snprintf obufLen (v.field ah.arg))
    | .error .notApplicable => getArgLoop s cmd obufLen rest r
    | .error rval => (.error rval, r.2)

/-- The first handler of each module for an argument. `strcasecmp` compares the names. -/
def argHandlersFor (mods : List Module) (arg : CStr) : List ArgHandler :=
  mods.filterMap fun np =>
    np.argHandlers.find? fun ah => ah.arg.map Char.toLower == arg.map Char.toLower

def handleGetArg (mods : List Module) (s : Settings) (cmd : LldpCmd) (arg : CStr)
    (obufLen : Nat) : Except CmdErr Unit × CStr :=
  getArgLoop s cmd obufLen (argHandlersFor mods arg) (.error .notApplicable, [])

/-- A query of the configuration: of one TLV (`cmd_gettlv`), or of what belongs to none
(`cmd_get_lldp`). All arguments of a TLV are meant when none is named. -/
structure ConfigQuery where
  ifname : CStr
  ifname_le : ifname.length ≤ ifNameSize
  tlvid : Option UInt32
  args : List CStr

namespace ConfigQuery

/-- `cmd.cmd`, and the TLV ID with it -/
def cmd (q : ConfigQuery) : LldpCmd :=
  match q.tlvid with
  | some tlvid => .gettlv tlvid
  | none => .getLldp

/-- The buffer behind the command, its flags, the interface name and the TLV ID: of the buffer of
the control interface, four bytes are taken before `mand_clif_cmd` -/
def obufLen (q : ConfigQuery) : Nat :=
  maxClifMsgbuf - 4 - (14 + q.ifname.length + if q.tlvid.isSome then 8 else 0)

/-- All arguments are asked for. -/
def All (q : ConfigQuery) : Prop := q.tlvid.isSome ∧ q.args = []

instance (q : ConfigQuery) : Decidable q.All := inferInstanceAs (Decidable (_ ∧ _))

end ConfigQuery

/-- The loop of `mand_clif_cmd` over the arguments of a query. The status of the last one counts. -/
def askArgs (mods : List Module) (s : Settings) (cmd : LldpCmd) :
    List CStr → Nat → Except CmdErr Unit → Except CmdErr Unit × CStr
  | [], _, rstatus => (rstatus, [])
  | arg :: args, obufLen, _ =>
    let r := handleGetArg mods s cmd arg obufLen
    let r' := askArgs mods s cmd args (obufLen - r.2.length) r.1
    (r'.1, r.2 ++ r'.2)

/-- What `mand_clif_cmd` does with a query of the configuration -/
def mandClifReply (mods : List Module) (s : Settings) (q : ConfigQuery) :
    Except CmdErr Unit × CStr :=
  if q.All then handleGetArgs mods s q.cmd q.obufLen
  else askArgs mods s q.cmd q.args q.obufLen (.error .invalid)

/-! ### The client -/

/-- `print_arg_value`: the arguments and values that are shown -/
def printArgValue (stack : LenStack) (ibuf : CStr) : Except Fault (List Arg) :=
  getArgValList stack (countArgs ibuf.length) ibuf

end Lldpad.Clif
