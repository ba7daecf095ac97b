import Lldpad.Clif.InPlace

/-!
# `Lldpad.Clif.SetCmd`: the arguments of a set command and the modules

`handle_test_arg`, `handle_set_arg` and the two set commands of `mand_clif_cmd`
(`lldp_mand_cmds.c`), for any modules. `Lldpad.Clif.InPlace` has how the arguments are read.

A handler answers and may change the state of the daemon, of the type `σ`. The calls that were made
are kept for each argument. The last section has the handlers of the mandatory TLVs.
-/

namespace Lldpad.Clif.SetCmd

open Lldpad.Lib
open Lldpad.Clif.InPlace (CmdHead passed)

/-! ### The modules -/

/-- A handler, which is given its own name and the value of the argument -/
abbrev Handler (σ : Type) := CmdHead → CStr → CStr → σ → Except CmdErr Unit × σ

/-- `struct arg_handlers`. The get handler is in `Lldpad.Clif.Reply`. -/
structure ArgHandlers (σ : Type) where
  arg : CStr
  handleTest : Option (Handler σ)
  handleSet : Option (Handler σ)

/-- A call of a handler: the state that it found and the one that it left, and its answer -/
structure Call (σ : Type) where
  before : σ
  after : σ
  answer : Except CmdErr Unit

/-- What the modules made of one argument -/
structure Offered (σ : Type) where
  status : Except CmdErr Unit
  state : σ
  calls : List (Call σ)

section Modules

variable {σ : Type}

/-- The first handler of a module that has the name of the argument, with its own name -/
def findHandler (handle : ArgHandlers σ → Option (Handler σ)) (arg : CStr)
    (ahs : List (ArgHandlers σ)) : Option (CStr × Handler σ) :=
  ahs.findSome? fun ah =>
    if ah.arg.map Char.toLower = arg.map Char.toLower then (handle ah).map fun h => (ah.arg, h)
    else none

/-- The loop of `handle_test_arg` and `handle_set_arg` over the modules. A module without
`get_arg_handler` has no handlers. -/
def offer (handle : ArgHandlers σ → Option (Handler σ)) (cmd : CmdHead) (a : CStr × CStr) :
    List (List (ArgHandlers σ)) → Except CmdErr Unit → σ → Offered σ
  | [], status, s => { status := status, state := s, calls := [] }
  | np :: modules, status, s =>
    match findHandler handle a.1 np with
    | none => offer handle cmd a modules status s
    | some (arg, h) =>
      let (rval, after) := h cmd arg a.2 s
      let call : Call σ := { before := s, after := after, answer := rval }
      match rval with
      | .ok () =>
        let rest := offer handle cmd a modules (.ok ()) after
        { rest with calls := call :: rest.calls }
      | .error .notApplicable =>
        let rest := offer handle cmd a modules status after
        { rest with calls := call :: rest.calls }
      | .error e => { status := .error e, state := after, calls := [call] }

def handleTestArg (modules : List (List (ArgHandlers σ))) (cmd : CmdHead) (a : CStr × CStr)
    (s : σ) : Offered σ :=
  offer (·.handleTest) cmd a modules (.error .notApplicable) s

def handleSetArg (modules : List (List (ArgHandlers σ))) (cmd : CmdHead) (a : CStr × CStr)
    (s : σ) : Offered σ :=
  offer (·.handleSet) cmd a modules (.error .notApplicable) s

/-! ### The command -/

/-- What a set command leaves: `rstatus`, the state, and the calls of the test pass and of the set
pass for each argument that they came to -/
structure SetRun (σ : Type) where
  status : Except CmdErr Unit
  state : σ
  tests : List (List (Call σ))
  sets : List (List (Call σ))

/-- The loop over `handle_test_arg`: `test_failed` and what was called -/
def testPass (modules : List (List (ArgHandlers σ))) (cmd : CmdHead) :
    List (CStr × CStr) → SetRun σ → Bool × SetRun σ
  | [], r => (false, r)
  | a :: args, r =>
    let o := handleTestArg modules cmd a r.state
    let r := { r with status := o.status, state := o.state, tests := r.tests ++ [o.calls] }
    if passed o.status then testPass modules cmd args r else (true, r)

/-- One turn of the loop over `handle_set_arg` -/
def setOne (modules : List (List (ArgHandlers σ))) (cmd : CmdHead) (r : SetRun σ)
    (a : CStr × CStr) : SetRun σ :=
  let o := handleSetArg modules cmd a r.state
  { r with status := o.status, state := o.state, sets := r.sets ++ [o.calls] }

/-- `cmd_settlv` and `cmd_set_lldp` of `mand_clif_cmd`, for a valid port -/
def setCmd (modules : List (List (ArgHandlers σ))) (cmd : CmdHead) (args : List (CStr × CStr))
    (s : σ) : SetRun σ :=
  let start : SetRun σ := { status := .error .invalid, state := s, tests := [], sets := [] }
  match cmd.cmd with
  -- cmd_settlv
  | 2 =>
    let tested := testPass modules cmd args start
    if tested.1 then tested.2 else args.foldl (setOne modules cmd) tested.2
  -- cmd_set_lldp, which has no test pass
  | 4 => args.foldl (setOne modules cmd) start
  | _ => start

end Modules

/-! ### The mandatory TLVs -/

/-- What comes of a write to the configuration: there is no place for the setting, its value is
refused, the file cannot be written, or all is well -/
inductive SettingWrite where
  | missing
  | refused
  | unsaved
  | saved
  deriving DecidableEq

/-- What the set handlers of the mandatory TLVs read and write, for an interface and its agent -/
structure MandState where
  /-- the numbers of the configuration, by their paths -/
  setting : CStr → Option Int
  /-- what comes of a write to a path -/
  write : CStr → SettingWrite
  /-- `read_shm`, `rebuild_chassis` and `rebuild_portid`, if there is a `struct mand_data` -/
  rebuild : Option Bool
  adminStatus : Int
  txTTL : UInt16
  localChange : Bool

/-- `set_config_setting` of a number, which answers with success when there is no setting -/
def MandState.setConfigSetting (s : MandState) (path : CStr) (value : Int) :
    Except CmdErr Unit × MandState :=
  let stored := { s with setting := fun p => if p = path then some value else s.setting p }
  match s.write path with
  | .missing => (.ok (), s)
  | .refused => (.error .failed, s)
  | .unsaved => (.error .failed, stored)
  | .saved => (.ok (), stored)

/-- `"%s%08x.%s"` of a TLV ID and a name -/
def argPath (tlvid : Nat) (arg : CStr) : CStr := "tlvid".toList ++ hexField 8 tlvid ++ ['.'] ++ arg

/-- `strtoul`, whose value is taken for an `int`, and `errno || *end != '\0'` -/
def strtoul (base : Nat) (s : CStr) : Int × CStr × Bool :=
  let t := s.dropWhile isSpace
  let (negative, t) :=
    match t with
    | '-' :: t => (true, t)
    | '+' :: t => (false, t)
    | t => (false, t)
  let (base, t) := chooseBase base t
  let (n, rest) := readDigits base 0 t
  if rest.length = t.length then (0, s, false)
  else if 2 ^ 64 ≤ n then (-1, rest, true)
  else (toInt32 (if negative then -n else n), rest, false)

/-- The switch on the command and the TLV that the set handlers of the mandatory TLVs start with -/
def onMandTlv (known : List Nat) (set : MandState → Except CmdErr Unit × MandState)
    (cmd : CmdHead) (s : MandState) : Except CmdErr Unit × MandState :=
  if cmd.cmd ≠ 2 then (.error .invalid, s)
  else if cmd.tlvid ∈ known then set s
  else if cmd.tlvid = invalidTlvid then (.error .invalid, s)
  else (.error .notApplicable, s)

/-- The subtypes of a TLV by their names, and by their numbers -/
def mandSubtypes (tlvid : Nat) : List (CStr × Int) :=
  if tlvid = 1 then
    [("CHASSIS_ID_MAC_ADDRESS".toList, 4), ("CHASSIS_ID_NETWORK_ADDRESS".toList, 5),
      ("CHASSIS_ID_INTERFACE_NAME".toList, 6)]
  else
    [("PORT_ID_MAC_ADDRESS".toList, 3), ("PORT_ID_NETWORK_ADDRESS".toList, 4),
      ("PORT_ID_INTERFACE_NAME".toList, 5)]

/-- The subtype that a text stands for -/
def mandSubtype (tlvid : Nat) (value : CStr) : Option Int :=
  let (subtype, rest, range) := strtoul 0 value
  let known := mandSubtypes tlvid
  if range ∨ rest ≠ [] then
    (known.find? fun k => value.map Char.toLower = k.1.map Char.toLower).map Prod.snd
  else if subtype ∈ known.map Prod.snd then some subtype
  else none

def setMandSubtype (test : Bool) : Handler MandState := fun cmd arg value =>
  onMandTlv [1, 2] (fun s =>
    match mandSubtype cmd.tlvid value with
    | none => (.error .invalid, s)
    | some subtype =>
      if test then (.ok (), s)
      else
        let s := { s with rebuild := s.rebuild.map fun _ => true }
        let s := (s.setConfigSetting (argPath cmd.tlvid arg) subtype).2
        (.ok (), { s with localChange := true })) cmd

def setMandTtlValue (test : Bool) : Handler MandState := fun cmd arg value =>
  onMandTlv [3] (fun s =>
    let (ttl, rest, _) := strtoul 0 value
    if rest ≠ [] ∨ ttl < 0 ∨ 0xffff < ttl then (.error .badParams, s)
    else if test then (.ok (), s)
    else
      let s := (s.setConfigSetting (argPath cmd.tlvid arg) ttl).2
      (.ok (), { s with txTTL := UInt16.ofNat ttl.toNat })) cmd

def setArgAdminstatus (test : Bool) : Handler MandState := fun cmd arg value s =>
  if cmd.cmd ≠ 4 ∨ cmd.tlvid ≠ invalidTlvid then (.error .badParams, s)
  else
    let word := value.map Char.toLower
    let status : Option Int :=
      if word = "rxtx".toList then some 3
      else if word = "rx".toList then some 2
      else if word = "tx".toList then some 1
      else if word = "disabled".toList then some 0
      else none
    match status with
    | none => (.error .invalid, s)
    | some status =>
      if test then (.ok (), s)
      else
        match s.setConfigSetting arg status with
        | (.error _, s) => (.error .failed, s)
        | (.ok (), s) => (.ok (), { s with adminStatus := status })

/-- `set_arg_tlvtxenable` of the mandatory TLVs, which cannot be changed -/
def mandSetArgTlvtxenable : Handler MandState := fun cmd _ _ s =>
  if cmd.cmd ≠ 2 then (.error .badParams, s)
  else if cmd.tlvid ∈ [0, 1, 2, 3, invalidTlvid] then (.error .invalid, s)
  else (.error .notApplicable, s)

/-- `arg_handlers` of `lldp_mand_cmds.c` -/
def mandArgHandlers : List (ArgHandlers MandState) :=
  [{ arg := "adminStatus".toList
     handleTest := some (setArgAdminstatus true)
     handleSet := some (setArgAdminstatus false) },
   { arg := "enableTx".toList
     handleTest := some mandSetArgTlvtxenable
     handleSet := some mandSetArgTlvtxenable },
   { arg := "subtype".toList
     handleTest := some (setMandSubtype true)
     handleSet := some (setMandSubtype false) },
   { arg := "value".toList
     handleTest := some (setMandTtlValue true)
     handleSet := some (setMandTtlValue false) }]

end Lldpad.Clif.SetCmd
