import Lldpad.Clif.Args
import Lldpad.Lldp.Types

/-!
# `Lldpad.Clif.Request`: a command on its way to the daemon

A command of `lldptool` (`lldptool.c`, `lldptool_cmds.c`) or a VSI command (`clif.c`), the message
that is made of it, and what `mand_clif_cmd` (`lldp_mand_cmds.c`) takes from that message.

A TLV ID is a number already. Only messages for the mandatory module are looked at, and VSI
messages, which have the same form. What is done with a command that was read is left out.
-/

namespace Lldpad.Clif

open Lldpad.Lib
open Lldpad.Lldp (AgentType)

/-! ### Constants -/

def maxClifMsgbuf : Nat := 4096

def clifMsgVersion : Nat := 3

/-- `IFNAMSIZ` -/
def ifNameSize : Nat := 16

def invalidTlvid : Nat := 127

/-- `LLDP_MOD_MAND`, `LLDP_MOD_VDP22` -/
def lldpModMand : Nat := 1
def lldpModVdp22 : Nat := 0x80c4

/-- `op_local`, `op_neighbor`, `op_arg`, `op_argval`, `op_config`, `op_delete` -/
def opLocal : Nat := 0x01
def opNeighbor : Nat := 0x02
def opArg : Nat := 0x04
def opArgval : Nat := 0x08
def opConfig : Nat := 0x10
def opDelete : Nat := 0x20

/-- `enum agent_type` as a number -/
def agentCode : AgentType → Nat
  | .nearestBridge => 0
  | .nearestNontpmrBridge => 1
  | .nearestCustomerBridge => 2

/-! ### What is typed -/

/-- The commands for the daemon. Only a TLV command has a TLV ID. -/
inductive LldpCmd where
  | getstats
  | gettlv (tlvid : UInt32)
  | settlv (tlvid : UInt32)
  | getLldp
  | setLldp
  deriving DecidableEq, Repr

/-- `lldp_cmd` as a number -/
def LldpCmd.code : LldpCmd → Nat
  | .getstats => 0
  | .gettlv _ => 1
  | .settlv _ => 2
  | .getLldp => 3
  | .setLldp => 4

/-- The TLV ID of a TLV command -/
def LldpCmd.tlvid : LldpCmd → Option UInt32
  | .gettlv tlvid | .settlv tlvid => some tlvid
  | .getstats | .getLldp | .setLldp => none

/-- A command of `lldptool`, with its options and its arguments -/
structure ToolCmd where
  cmd : LldpCmd
  config : Bool
  neighbor : Bool
  delete : Bool
  type : AgentType
  ifname : CStr
  argv : List CStr

/-! ### The client -/

def isPrint (c : Char) : Bool := ' ' ≤ c && c ≤ '~'

/-- An argument is a key, or a key and a value behind the first `=`. -/
def splitArg (str : CStr) : Arg :=
  match str.dropWhile (· ≠ '=') with
  | [] => { arg := some str, value := none }
  | _ :: value => { arg := some (str.takeWhile (· ≠ '=')), value := some value }

/-- `get_arg_value`, over entries that are `NULL` before -/
def getArgValue (str : CStr) : Arg :=
  if str.all isPrint then splitArg str else { arg := none, value := none }

/-- `snprintf` behind what is in a message buffer already -/
def append (obuf text : CStr) : CStr := obuf ++ text.take (maxClifMsgbuf - 1 - obuf.length)

/-- A length of at least the given width and the text, unless that is `NULL` -/
def appendField (width : Nat) (obuf : CStr) (text : Option CStr) : CStr :=
  match text with
  | none => obuf
  | some text => append obuf (hexField width text.length ++ text)

/-- The start of a command message, up to the interface name -/
def messageHead (moduleId cmd ops : Nat) (ifname : CStr) (type : AgentType) : CStr :=
  'M' :: (hexField 8 moduleId ++ ('C' :: (hexField 1 clifMsgVersion ++ (hexField 2 cmd ++
    (hexField 8 ops ++ (hexField 2 ifname.length ++ (ifname ++ hexField 2 (agentCode type))))))))

/-- `render_cmd`, with the interface name that is in `struct cmd` -/
def renderCmd (t : ToolCmd) (ifname : CStr) (ops : Nat) (args : List Arg) : CStr :=
  let obuf := append [] (messageHead lldpModMand t.cmd.code ops ifname t.type)
  let obuf :=
    match t.cmd.tlvid with
    | some tlvid => append obuf (hexField 8 tlvid.toNat)
    | none => obuf
  args.foldl (fun obuf a => appendField 4 (appendField 2 obuf a.arg) a.value) obuf

/-- The flags that the options set -/
def ToolCmd.userOps (t : ToolCmd) : Nat :=
  (if t.config then opConfig else 0) ||| (if t.delete then opDelete else 0) |||
    (if t.neighbor then opNeighbor else 0)

/-- `request` puts the interface name into `struct cmd`: `strncpy` of `IFNAMSIZ` characters. -/
def ToolCmd.ifnameField (t : ToolCmd) : CStr := t.ifname.take ifNameSize

/-- `cli_cmd_getstats`, which has a slot for each argument and fills none -/
def cliCmdGetstats (t : ToolCmd) : Option CStr :=
  some (renderCmd t t.ifnameField t.userOps (t.argv.map fun _ => { arg := none, value := none }))

def cliCmdGettlv (t : ToolCmd) : Option CStr :=
  let args := t.argv.map getArgValue
  -- default is local tlv query
  let ops := if t.neighbor = false then t.userOps ||| opLocal else t.userOps
  if t.argv ≠ [] ∧ (t.config = false ∨ t.neighbor = true) then none
  else
    let ops := if t.argv ≠ [] then ops ||| opArg else ops
    if args.any fun a => a.value.isSome then none
    else some (renderCmd t t.ifnameField ops args)

/-- `cli_cmd_settlv`, which is `cli_cmd_setlldp` -/
def cliCmdSettlv (t : ToolCmd) : Option CStr :=
  let args := t.argv.map getArgValue
  if args.any fun a => a.value.isNone then none
  else
    let ops := if t.argv ≠ [] then t.userOps ||| (opArg ||| opArgval) else t.userOps
    some (renderCmd t t.ifnameField ops args)

def cliCmdGetlldp (t : ToolCmd) : Option CStr :=
  let args := t.argv.map getArgValue
  if t.argv = [] ∨ args.any fun a => a.value.isSome then none
  else some (renderCmd t t.ifnameField (t.userOps ||| opArg) args)

/-- The message of a command, if the client does not refuse it -/
def ToolCmd.message (t : ToolCmd) : Option CStr :=
  match t.cmd with
  | .getstats => cliCmdGetstats t
  | .gettlv _ => cliCmdGettlv t
  | .settlv _ | .setLldp => cliCmdSettlv t
  | .getLldp => cliCmdGetlldp t

/-- The text that `hdr_set` prints -/
def hdrText (ifname : CStr) (tlvid : UInt32) (cmd : CStr) : CStr :=
  messageHead lldpModVdp22 (LldpCmd.settlv tlvid).code (opArg ||| opArgval ||| opConfig) ifname
      .nearestCustomerBridge ++
    (hexField 8 tlvid.toNat ++ (['0', '3', 'v', 's', 'i'] ++ (hexField 4 cmd.length ++ cmd)))

/-- `hdr_set`, over a buffer of `MAX_CLIF_MSGBUF` bytes -/
def hdrSet (ifname : CStr) (tlvid : UInt32) (cmd : CStr) : Option CStr :=
  let text := hdrText ifname tlvid cmd
  if text.length > maxClifMsgbuf then none else some (text.take (maxClifMsgbuf - 1))

/-! ### The daemon -/

/-- What is on the stack of `mand_clif_cmd` and of the functions that it calls -/
structure CmdStack where
  version : Nat
  cmd : Nat
  ops : Nat
  len : Nat
  type : Nat
  tlvid : Nat
  lens : LenStack

/-- `struct cmd` and the arguments, as `mand_clif_cmd` has read them -/
structure Decoded where
  cmd : Nat
  ops : Nat
  ifname : CStr
  type : Nat
  tlvid : Nat
  args : List Arg
  deriving DecidableEq, Repr

/-- The arguments, by the flags of the command -/
def readArgs (stack : LenStack) (ops : Nat) (rest : CStr) : Except Fault (List Arg) :=
  let numargs := countArgs rest.length
  if ops &&& opArg ≠ 0 ∧ ops &&& opArgval ≠ 0 then getArgValList stack numargs rest
  else if ops &&& opArg ≠ 0 then getArgList stack numargs rest
  else .ok (List.replicate numargs { arg := none, value := none })

/-- `mand_clif_cmd` up to the arguments. `none` stands for an interface name that is too long. -/
def mandClifCmd (stack : CmdStack) (ibuf : CStr) : Except Fault (Option Decoded) :=
  let version := hexNat 1 (ibuf.drop 1) stack.version / 16
  let cmd := hexNat 1 (ibuf.drop 2) stack.cmd
  let ops := hexNat 4 (ibuf.drop 4) stack.ops
  let len := hexNat 1 (ibuf.drop 12) stack.len
  if len < ifNameSize + 1 then
    let ifname := (ibuf.drop 14).take len
    let rest := ibuf.drop (14 + len)
    let (type, rest) :=
      if version = clifMsgVersion then (hexNat 1 rest stack.type, rest.drop 2)
      else (agentCode .nearestBridge, rest)
    let (tlvid, rest) :=
      if cmd = 1 ∨ cmd = 2 then (hexNat 4 rest stack.tlvid, rest.drop 8)
      else (invalidTlvid, rest)
    do
      let args ← readArgs stack.lens ops rest
      pure (some { cmd := cmd, ops := ops, ifname := ifname, type := type, tlvid := tlvid
                   args := args })
  else .ok none

/-- `clif_iface_module`: the command starts behind the module. -/
def cmdStart (msg : CStr) : CStr := msg.drop 9

end Lldpad.Clif
