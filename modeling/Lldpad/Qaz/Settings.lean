import Lldpad.Lib.CString
import Lldpad.Qaz.System
import Mathlib.Data.UInt

/-!
# `Lldpad.Qaz.Settings`: the settings of 802.1Qaz in memory and in the file

The set commands of `lldp_8021qaz_cmds.c` write the memory of the module and the configuration
file, and `read_cfg_file` reads the file back. The two have parsers of their own.

A command carries one argument. `mand_clif_cmd` lets `handle_test` look at it before `handle_set`
runs. The file is a map from the paths of the settings to typed values; a setting that was
written is read back unchanged. The text that a command answers with is left out.

`get_config_setting` looks into the section `common` where the interface has no value. The set
commands write none there, and the file that is modelled has none of these settings in it.
-/

namespace Lldpad.Qaz

open Lldpad.Lib
open Lldpad.Lldp (Bytes AgentType)

/-! ### Constants and conversions -/

def maxAppEntries : Nat := 32

def ieee8021qTsaCbshaper : UInt8 := 1

def ieee8021qTsaEts : UInt8 := 2

def ieee8021qTsaVendor : UInt8 := 0xFF

/-- An integer stored as a `u8` -/
def u8 (n : Int) : UInt8 := (n % 256).toNat.toUInt8

/-- An integer stored as a `u16` -/
def u16 (n : Int) : UInt16 := (n % 65536).toNat.toUInt16

/-- An integer stored as a `u32` -/
def u32 (n : Int) : UInt32 := (n % 4294967296).toNat.toUInt32

/-- The argument that resets a map -/
def none' : CStr := "none".toList

/-! ### The configuration file -/

/-- `cmd->tlvid` -/
inductive TlvId where
  | etscfg
  | etsrec
  | pfc
  | app
  /-- another TLV -/
  | other
  /-- `INVALID_TLVID` -/
  | invalid
  deriving DecidableEq, Repr

/-- The names of the arguments, which are those of the settings -/
inductive ArgName where
  | willing
  | up2tc
  | tcbw
  | tsa
  | enabled
  | delay
  | app
  deriving DecidableEq, Repr

/-- The path of a setting in the section of an interface -/
structure Setting where
  tlvid : TlvId
  arg : ArgName
  index : Option Nat := none
  deriving DecidableEq, Repr

/-- A value of the file -/
inductive ConfigValue where
  | int (n : Int)
  | string (s : CStr)
  deriving DecidableEq, Repr

/-- The file: the settings of one interface in the section of each scope. The section `common` has
none. -/
abbrev Config := AgentType → Setting → Option ConfigValue

def agentType2section (type : UInt8) : AgentType :=
  if type = 1 then .nearestNontpmrBridge
  else if type = 2 then .nearestCustomerBridge
  else .nearestBridge

namespace Config

/-- `get_config_setting`, for `CONFIG_TYPE_INT` -/
def getInt (config : Config) (type : AgentType) (path : Setting) : Option Int :=
  match config type path with
  | some (.int n) => some n
  | _ => none

/-- `get_config_setting`, for `CONFIG_TYPE_STRING` -/
def getString (config : Config) (type : AgentType) (path : Setting) : Option CStr :=
  match config type path with
  | some (.string s) => some s
  | _ => none

/-- A setting of the file is written or taken away. -/
def put (config : Config) (type : AgentType) (path : Setting) (value : Option ConfigValue) :
    Config :=
  fun type' path' => if type' = type ∧ path' = path then value else config type' path'

end Config

/-! ### Reading the file -/

/-- The two objects with the tables of ETS -/
inductive EtsObj where
  /-- `tlvs->ets->cfgl` -/
  | cfgl
  /-- `tlvs->ets->recl` -/
  | recl
  deriving DecidableEq, Repr

/-- The TLV of an object -/
def EtsObj.tlvid : EtsObj → TlvId
  | .cfgl => .etscfg
  | .recl => .etsrec

/-- The tables of an object -/
def EtsObj.tables (ets : EtsObj) (tlvs : QazTlvs) : EtsrecObj :=
  match ets with
  | .cfgl =>
    { prioMap := tlvs.ets.cfgl.prioMap, tcBw := tlvs.ets.cfgl.tcBw, tsaMap := tlvs.ets.cfgl.tsaMap }
  | .recl => tlvs.ets.recl

/-- The tables of an object are written. -/
def EtsObj.write (ets : EtsObj) (tables : EtsrecObj) (tlvs : QazTlvs) : QazTlvs :=
  match ets with
  | .cfgl => { tlvs with ets := { tlvs.ets with cfgl := { tlvs.ets.cfgl with
      prioMap := tables.prioMap, tcBw := tables.tcBw, tsaMap := tables.tsaMap } } }
  | .recl => { tlvs with ets := { tlvs.ets with recl := tables } }

/-- The string at `&token[n]`, which must lie in the buffer -/
def tokenAt (token : Token) (n : Nat) : Except Fault CStr :=
  match token.drop n with
  | some s => .ok s
  | none => .error .outOfBounds

/-- One turn of `set_ets_prio_map` -/
def orPrioMap (prioMap : UInt32) (token : Token) : Except Fault UInt32 := do
  let arg ← tokenAt token 2
  let prio := (atoi token.text % 8).toNat
  let tc := u32 (atoi arg % 8)
  pure (prioMap ||| tc <<< (4 * (7 - prio)).toUInt32)

def setEtsPrioMap (arg : CStr) (prioMap : UInt32) : Except Fault UInt32 :=
  (tokens ',' arg).foldlM orPrioMap prioMap

/-- The algorithm that a name stands for, if it is one -/
def tsaOfName (name : CStr) : Option UInt8 :=
  if name = "strict".toList then some ieee8021qTsaStrict
  else if name = "cb_shaper".toList then some ieee8021qTsaCbshaper
  else if name = "ets".toList then some ieee8021qTsaEts
  else if name = "vendor".toList then some ieee8021qTsaVendor
  else none

/-- An entry of a table with one for each traffic class is written. -/
def writeTc (table : Bytes) (tc : Int) (x : UInt8) : Except Fault Bytes :=
  if 0 ≤ tc ∧ tc < maxTcs then .ok (table.set tc.toNat x) else .error .outOfBounds

/-- One turn of `set_ets_tsa_map` -/
def readTsaEntry (tsaMap : Bytes) (token : Token) : Except Fault Bytes := do
  let name ← tokenAt token 2
  writeTc tsaMap (atoi token.text) ((tsaOfName name).getD ieee8021qTsaStrict)

def setEtsTsaMap (arg : CStr) (tsaMap : Bytes) : Except Fault Bytes :=
  (tokens ',' arg).foldlM readTsaEntry tsaMap

/-- The loop of `read_cfg_file` over the percentages, from entry `i` on -/
def readTcbwFrom : Nat → List Token → Bytes → Except Fault Bytes
  | _, [], tcBw => .ok tcBw
  | i, token :: rest, tcBw => do
    let tcBw ← writeTc tcBw i (u8 (atoi token.text))
    readTcbwFrom (i + 1) rest tcBw

/-- The application of three tokens of the file -/
def appOfTokens (prio sel pid : Token) : DcbApp :=
  { selector := u8 (atoi sel.text), priority := u8 (atoi prio.text),
    protocol := u16 (strtol 0 pid.text).value }

/-- The loop of `read_cfg_file` over the applications -/
def readApps (config : Config) (type : AgentType) : List Nat → List AppObj → List AppObj
  | [], head => head
  | i :: rest, head =>
    match config.getString type { tlvid := .app, arg := .app, index := some i } with
    | none => readApps config type rest head
    | some arg =>
      match tokens ',' arg with
      | prio :: sel :: pid :: _ =>
        readApps config type rest
          (if (strtol 0 pid.text).range then head
          else modApp head false (appOfTokens prio sel pid) false)
      | _ => head

/-- The priority map of an object -/
def readUp2tc (config : Config) (type : AgentType) (ets : EtsObj) (prioMap : UInt32) :
    Except Fault UInt32 :=
  match config.getString type { tlvid := ets.tlvid, arg := .up2tc } with
  | some arg => setEtsPrioMap arg prioMap
  | none => .ok 0

/-- The percentages of an object. Without a setting they are left as they are. -/
def readTcbw (config : Config) (type : AgentType) (ets : EtsObj) (tcBw : Bytes) :
    Except Fault Bytes :=
  match config.getString type { tlvid := ets.tlvid, arg := .tcbw } with
  | some arg => readTcbwFrom 0 (tokens ',' arg) tcBw
  | none => .ok tcBw

/-- The algorithms of an object -/
def readTsa (config : Config) (type : AgentType) (ets : EtsObj) (tsaMap : Bytes) :
    Except Fault Bytes :=
  match config.getString type { tlvid := ets.tlvid, arg := .tsa } with
  | some arg => setEtsTsaMap arg tsaMap
  | none => .ok (List.replicate maxTcs ieee8021qTsaStrict)

/-- What `read_cfg_file` makes of the tables of an object -/
def readTables (config : Config) (type : AgentType) (ets : EtsObj) (tlvs : QazTlvs) :
    Except Fault QazTlvs := do
  let prioMap ← readUp2tc config type ets (ets.tables tlvs).prioMap
  let tcBw ← readTcbw config type ets (ets.tables tlvs).tcBw
  let tsaMap ← readTsa config type ets (ets.tables tlvs).tsaMap
  pure (ets.write { prioMap := prioMap, tcBw := tcBw, tsaMap := tsaMap } tlvs)

/-- What `read_cfg_file` makes of the settings of PFC -/
def readPfc (config : Config) (type : AgentType) (pfc : PfcObj) : PfcObj :=
  { pfc with
    willing := ((config.getInt type { tlvid := .pfc, arg := .willing }).getD 1) != 0
    pfcEnable := ((config.getInt type { tlvid := .pfc, arg := .enabled }).map u8).getD pfc.pfcEnable
    delay := ((config.getInt type { tlvid := .pfc, arg := .delay }).map u32).getD pfc.delay
    pfcCap := maxTcs.toUInt8 }

def readCfgFile (config : Config) (type : AgentType) (tlvs : QazTlvs) : Except Fault QazTlvs :=
  if type ≠ .nearestBridge then pure tlvs
  else do
    let willing := ((config.getInt type { tlvid := .etscfg, arg := .willing }).getD 1) != 0
    let tlvs := { tlvs with ets := { tlvs.ets with cfgl := { tlvs.ets.cfgl with
      willing := willing, maxTcs := maxTcs.toUInt8 } } }
    let tlvs ← readTables config type .cfgl tlvs
    let tlvs ← readTables config type .recl tlvs
    let tlvs := tlvs.setLocalPfc (readPfc config type)
    pure { tlvs with appHead := readApps config type (List.range maxAppEntries) tlvs.appHead }

/-! ### Set commands -/

/-- The answers of the command handlers -/
inductive CmdRc where
  | success
  | failed
  | invalid
  | notApplicable
  | notCapable
  deriving DecidableEq, Repr

/-- A command that sets one argument: `cmd->type`, `cmd->tlvid`, `op_delete` of `cmd->ops`, and
the argument with its value -/
structure SetCmd where
  type : UInt8 := 0
  tlvid : TlvId
  delete : Bool := false
  arg : ArgName
  value : CStr
  deriving DecidableEq, Repr

/-- The file beside the memory of the module -/
structure QazStore where
  config : Config
  tlvs : QazTlvs

/-- The answer of a handler for a TLV that it does not know -/
def TlvId.refused : TlvId → CmdRc
  | .invalid => .invalid
  | _ => .notApplicable

/-- The end of a handler: a test asks for the driver, and a set has written the memory and writes
the setting. `capable` is the answer of `is_dcbx_hw`. -/
def finish (test capable : Bool) (s : QazStore) (cmd : SetCmd) (tlvs : QazTlvs)
    (value : ConfigValue) : CmdRc × QazStore :=
  if test then (if capable then .success else .notCapable, s)
  else
    (.success,
      { config := s.config.put (agentType2section cmd.type) { tlvid := cmd.tlvid, arg := cmd.arg }
          (some value)
        tlvs := if cmd.type = 0 then tlvs.somethingChangedLocal else tlvs })

/-- The number that `_set_arg_willing` takes from its argument -/
def willingOfArg (value : CStr) : Option Int :=
  if value.map Char.toLower = "yes".toList then some 1
  else if value.map Char.toLower = "no".toList then some 0
  else
    let r := strtol 10 value
    let willing := toInt32 r.value
    if !r.moved || r.rest ≠ [] then none
    else if r.range || willing < 0 then none
    else some willing

def setArgWilling (test capable : Bool) (cmd : SetCmd) (s : QazStore) : CmdRc × QazStore :=
  match willingOfArg cmd.value with
  | none => (.invalid, s)
  | some willing =>
    match cmd.tlvid with
    | .etscfg =>
      finish test capable s cmd { s.tlvs with ets := { s.tlvs.ets with
        cfgl := { s.tlvs.ets.cfgl with willing := willing != 0 } } } (.int willing)
    | .pfc =>
      finish test capable s cmd
        (s.tlvs.setLocalPfc fun pfc => { pfc with willing := willing != 0 }) (.int willing)
    | tlvid => (tlvid.refused, s)

/-- The checks of `_set_arg_up2tc` on one entry: the priority and the traffic class, or nothing
for an entry that is refused -/
def up2tcEntry (max : UInt8) (token : Token) : Except Fault (Option (Nat × UInt8)) :=
  let r := strtol 10 token.text
  let prio := toInt32 r.value
  if r.rest.head? ≠ some ':' then .ok none
  else if r.range || prio < 0 then .ok none
  else if prio > 7 then .ok none
  else do
    let arg ← tokenAt token 2
    let r := strtol 10 arg
    let tc := toInt32 r.value
    if !r.moved || r.rest ≠ [] then pure none
    else if r.range || tc < 0 then pure none
    else if tc > (max.toNat : Int) - 1 then pure none
    else pure (some (prio.toNat, u8 tc))

/-- The loop of `_set_arg_up2tc`: whether the list was accepted, and the map, which is written
entry by entry -/
def up2tcLoop (max : UInt8) : List Token → UInt32 → Except Fault (Bool × UInt32)
  | [], prioMap => .ok (true, prioMap)
  | token :: rest, prioMap => do
    match ← up2tcEntry max token with
    | none => pure (false, prioMap)
    | some (prio, tc) => up2tcLoop max rest (setPrioMap prioMap prio tc)

/-- What `_set_arg_up2tc` makes of a map -/
def up2tcList (max : UInt8) (value : CStr) (prioMap : UInt32) : Except Fault (Bool × UInt32) :=
  if value = none' then .ok (true, 0) else up2tcLoop max (tokens ',' value) prioMap

/-- `_set_arg_up2tc`, for one object -/
def setUp2tc (test capable : Bool) (cmd : SetCmd) (ets : EtsObj) (max : UInt8) (s : QazStore) :
    Except Fault (CmdRc × QazStore) := do
  let (accepted, prioMap) ← up2tcList max cmd.value (ets.tables s.tlvs).prioMap
  let tlvs := ets.write { ets.tables s.tlvs with prioMap := prioMap } s.tlvs
  if accepted then pure (finish test capable s cmd tlvs (.string cmd.value))
  else pure (.invalid, if test then s else { s with tlvs := tlvs })

def setArgUp2tc (test capable : Bool) (cmd : SetCmd) (s : QazStore) :
    Except Fault (CmdRc × QazStore) :=
  match cmd.tlvid with
  | .etscfg => setUp2tc test capable cmd .cfgl s.tlvs.ets.cfgl.maxTcs s
  | .etsrec => setUp2tc test capable cmd .recl maxTcs.toUInt8 s
  | tlvid => .ok (tlvid.refused, s)

/-- The percentages of `_set_arg_tcbw`: eight entries of the list at most -/
def percents (value : CStr) : Bytes :=
  let listed := ((tokens ',' value).take 8).map fun token => u8 (atoi token.text)
  listed ++ List.replicate (8 - listed.length) 0

/-- `_set_arg_tcbw`, for one object. The total is a byte. -/
def setTcbw (test capable : Bool) (cmd : SetCmd) (ets : EtsObj) (s : QazStore) :
    CmdRc × QazStore :=
  if (percents cmd.value).sum ≠ 100 then (.invalid, s)
  else
    finish test capable s cmd
      (ets.write { ets.tables s.tlvs with tcBw := percents cmd.value } s.tlvs) (.string cmd.value)

def setArgTcbw (test capable : Bool) (cmd : SetCmd) (s : QazStore) : CmdRc × QazStore :=
  match cmd.tlvid with
  | .etscfg => setTcbw test capable cmd .cfgl s
  | .etsrec => setTcbw test capable cmd .recl s
  | tlvid => (tlvid.refused, s)

/-- The checks of `_set_arg_tsa` on one entry: the traffic class and the algorithm, or nothing
for an entry that is refused -/
def tsaEntry (token : Token) : Option (Int × UInt8) :=
  if (token.text.drop 1).head? ≠ some ':' then none
  else if atoi token.text > 7 then none
  else (tsaOfName (token.text.drop 2)).map fun type => (atoi token.text, type)

/-- The loop of `_set_arg_tsa`: whether the list was accepted, and the map, which is written
entry by entry -/
def tsaLoop : List Token → Bytes → Except Fault (Bool × Bytes)
  | [], tsaMap => .ok (true, tsaMap)
  | token :: rest, tsaMap =>
    match tsaEntry token with
    | none => .ok (false, tsaMap)
    | some (tc, type) => do
      let tsaMap ← writeTc tsaMap tc type
      tsaLoop rest tsaMap

/-- What `_set_arg_tsa` makes of a map -/
def tsaList (value : CStr) (tsaMap : Bytes) : Except Fault (Bool × Bytes) :=
  if value = none' then .ok (true, zeroTcs) else tsaLoop (tokens ',' value) tsaMap

/-- `_set_arg_tsa`, for one object -/
def setTsa (test capable : Bool) (cmd : SetCmd) (ets : EtsObj) (s : QazStore) :
    Except Fault (CmdRc × QazStore) := do
  let (accepted, tsaMap) ← tsaList cmd.value (ets.tables s.tlvs).tsaMap
  let tlvs := ets.write { ets.tables s.tlvs with tsaMap := tsaMap } s.tlvs
  if accepted then pure (finish test capable s cmd tlvs (.string cmd.value))
  else pure (.invalid, if test then s else { s with tlvs := tlvs })

def setArgTsa (test capable : Bool) (cmd : SetCmd) (s : QazStore) :
    Except Fault (CmdRc × QazStore) :=
  match cmd.tlvid with
  | .etscfg => setTsa test capable cmd .cfgl s
  | .etsrec => setTsa test capable cmd .recl s
  | tlvid => .ok (tlvid.refused, s)

/-- The loop of `_set_arg_enabled` over the priorities -/
def enabledLoop : List Token → Nat → Option Nat
  | [], mask => some mask
  | token :: rest, mask =>
    let r := strtol 10 token.text
    let prio := toInt32 r.value
    if !r.moved || r.rest ≠ [] then none
    else if r.range || prio < 0 then none
    else if prio > 7 then none
    else enabledLoop rest (mask ||| 1 <<< prio.toNat)

def setArgEnabled (test capable : Bool) (cmd : SetCmd) (s : QazStore) : CmdRc × QazStore :=
  match cmd.tlvid with
  | .pfc =>
    match if cmd.value = none' then some 0 else enabledLoop (tokens ',' cmd.value) 0 with
    | none => (.invalid, s)
    | some mask =>
      finish test capable s cmd (s.tlvs.setLocalPfc fun pfc => { pfc with pfcEnable := u8 mask })
        (.int mask)
  | tlvid => (tlvid.refused, s)

def setArgDelay (test capable : Bool) (cmd : SetCmd) (s : QazStore) : CmdRc × QazStore :=
  match cmd.tlvid with
  | .pfc =>
    finish test capable s cmd
      (s.tlvs.setLocalPfc fun pfc => { pfc with delay := u32 (atoi cmd.value) })
      (.int (atoi cmd.value))
  | tlvid => (tlvid.refused, s)

/-- The numbers that `_set_arg_app` takes from its argument -/
def appArgs (value : CStr) : Option (Int × Int × Int) :=
  match tokens ',' value with
  | prio :: sel :: pid :: _ =>
    let r := strtol 0 pid.text
    if r.range then none
    else if !r.moved || r.rest ≠ [] then none
    else some (atoi prio.text, atoi sel.text, r.value)
  | _ => none

/-- `new_argval`: what the file holds for an application -/
def appString (app : DcbApp) : CStr :=
  padded 1 app.priority.toNat ++ ',' :: padded 1 app.selector.toNat ++
    ',' :: padded 5 app.protocol.toNat

/-- The path of an application in the file -/
def appPath (i : Nat) : Setting := { tlvid := .app, arg := .app, index := some i }

/-- The scan of `_set_arg_app` over the applications of the file: the entry `new` is taken away
when it is to be deleted. `unused` is the first entry that is free. -/
def scanApps (delete : Bool) (new : CStr) (type : AgentType) :
    List Nat → Option Nat → Config → Option Nat × Config
  | [], unused, config => (unused, config)
  | i :: rest, unused, config =>
    match config.getString type (appPath i) with
    | none => scanApps delete new type rest (unused.or (some i)) config
    | some dummy =>
      if dummy = new ∧ delete then
        scanApps delete new type rest (some 1) (config.put type (appPath i) none)
      else scanApps delete new type rest unused config

def setArgApp (test capable : Bool) (cmd : SetCmd) (s : QazStore) : CmdRc × QazStore :=
  match cmd.tlvid with
  | .app =>
    match appArgs cmd.value with
    | none => (.invalid, s)
    | some (prio, sel, pid) =>
      if !validApp prio sel pid then (.invalid, s)
      else if test then (if capable then .success else .notCapable, s)
      else
        let app := appOfArgs prio sel pid
        let type := agentType2section cmd.type
        match scanApps cmd.delete (appString app) type (List.range maxAppEntries) none s.config with
        | (none, config) => (.failed, { s with config := config })
        | (some unused, config) =>
          let tlvs := appSethw { s.tlvs with appHead := modApp s.tlvs.appHead false app cmd.delete }
          (.success,
            { config :=
                if cmd.delete then config
                else config.put type (appPath unused) (some (.string (appString app)))
              tlvs := if cmd.type = 0 then tlvs.somethingChangedLocal else tlvs })
  | tlvid => (tlvid.refused, s)

/-- `handle_test` or `handle_set` of the argument -/
def handleArg (test capable : Bool) (cmd : SetCmd) (s : QazStore) :
    Except Fault (CmdRc × QazStore) :=
  match cmd.arg with
  | .willing => .ok (setArgWilling test capable cmd s)
  | .up2tc => setArgUp2tc test capable cmd s
  | .tcbw => .ok (setArgTcbw test capable cmd s)
  | .tsa => setArgTsa test capable cmd s
  | .enabled => .ok (setArgEnabled test capable cmd s)
  | .delay => .ok (setArgDelay test capable cmd s)
  | .app => .ok (setArgApp test capable cmd s)

/-- `cmd_settlv` of `mand_clif_cmd`: the argument is tested and then set. -/
def setTlv (capable : Bool) (cmd : SetCmd) (s : QazStore) : Except Fault (CmdRc × QazStore) := do
  let (rc, _) ← handleArg true capable cmd s
  if rc = .success ∨ rc = .notApplicable then handleArg false capable cmd s
  else pure (rc, s)

end Lldpad.Qaz
