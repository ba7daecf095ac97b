import Lldpad.Clif.Reply
import Lldpad.Lib.Spans

/-!
# `Lldpad.Clif.InPlace`: a command taken apart in its buffer

`mand_clif_cmd` (`lldp_mand_cmds.c`) gives its handlers pointers into the message. It counts the
slots of the arrays first, `get_arg_val_list` and `get_arg_list` (`lldp_util.c`) fill them, and
end each text with a NUL where it stands. `Lldpad.Clif.Args` has the same functions over texts.

The buffer has any contents, also behind the message. Memory does not run out, and the reply is
left out. What the handlers answer may depend on what they were asked before.
-/

namespace Lldpad.Clif.InPlace

open Lldpad.Lib

/-! ### The buffer -/

/-- The character that ends a string -/
def nul : Char := '\x00'

/-- The string at a pointer -/
def stringAt (ibuf : CStr) (start : Nat) : CStr := (ibuf.drop start).takeWhile (· ≠ nul)

/-- The buffer of `ctrl_iface_receive` behind the module of a message, and the length of what was
received behind it. That is negative when not even the module is whole. Room for a NUL is left. -/
structure ClientMsg where
  ibuf : CStr
  ilen : Int
  length_ibuf : ibuf.length = maxClifMsgbuf - 9
  ilen_lt : ilen < ibuf.length

/-- A message that was received into a buffer of zeros, behind its module -/
def ClientMsg.received (text : CStr) (h : text.length < maxClifMsgbuf - 9) : ClientMsg where
  ibuf := text ++ List.replicate (maxClifMsgbuf - 9 - text.length) nul
  ilen := text.length
  length_ibuf := by
    rw [List.length_append, List.length_replicate]
    omega
  ilen_lt := by
    rw [List.length_append, List.length_replicate]
    omega

/-- A slot of `args` and of `argvals`, each of which may be `NULL`, with `arglens` and
`argvallens` -/
structure Slot where
  arg : Option Span
  value : Option Span
  deriving DecidableEq, Repr

/-- What the handlers find at the pointers of a slot -/
def Slot.entry (ibuf : CStr) (s : Slot) : Arg :=
  { arg := s.arg.map fun a => stringAt ibuf a.start
    value := s.value.map fun v => stringAt ibuf v.start }

/-! ### The arguments -/

/-- The end of `get_arg_val_list` and `get_arg_list`: a NUL goes behind each text that is pointed
to, or nothing is left at the early exit. -/
def endTexts (msg : ClientMsg) (pointers : List Slot → List (Option Span))
    (args : Option (List Slot)) : Except Fault (List Slot × CStr) :=
  match args with
  | none => .ok ([], msg.ibuf)
  | some args => do
    let ibuf ← markEach nul msg.ibuf (pointers args)
    pure (args, ibuf)

/-- The value of an argument, which is passed over when it runs past the end of the message -/
def valueAt (ilen : Int) (ioff argvalueLen : Nat) : Option Span :=
  if ilen - ioff ≥ argvalueLen then some { start := ioff, len := argvalueLen } else none

/-- `*ioff` behind a value -/
def pastValue (ioff : Nat) (value : Option Span) : Nat :=
  match value with
  | some v => v.stop
  | none => ioff

theorem le_pastValue (ilen : Int) (ioff argvalueLen : Nat) :
    ioff ≤ pastValue ioff (valueAt ilen ioff argvalueLen) := by
  unfold valueAt
  split
  · exact Nat.le_add_right ioff argvalueLen
  · exact Nat.le_refl ioff

/-- The loop of `get_arg_val_list`, from slot `i` of `slots` on. `none` stands for the early
exit. -/
def argValLoop (slots : Nat) (ibuf : CStr) (ilen : Int) (ioff i arglen argvalueLen : Nat) :
    Except Fault (Option (List Slot)) :=
  if ilen - ioff > 2 then
    let arglen := hexNat 1 (ibuf.drop ioff) arglen
    let arg : Span := { start := ioff + 2, len := arglen }
    if ilen - arg.start ≥ arglen then
      if slots ≤ i then .error .outOfBounds
      else if ilen - arg.stop ≥ 4 then
        let argvalueLen := hexNat 2 (ibuf.drop arg.stop) argvalueLen
        let value := valueAt ilen (arg.stop + 4) argvalueLen
        do
          let rest ← argValLoop slots ibuf ilen (pastValue (arg.stop + 4) value) (i + 1) arglen
            argvalueLen
          pure (rest.map ({ arg := some arg, value := value } :: ·))
      else .ok none
    else .ok none
  else .ok (some [])
termination_by (ilen - ioff).toNat
decreasing_by
  refine Nat.lt_of_le_of_lt (Int.toNat_le_toNat (Int.sub_le_sub_left
    (Int.ofNat_le.mpr (le_pastValue ilen _ _)) ilen)) ?_
  show (ilen - ((ioff + 2 + _ + 4 : Nat) : Int)).toNat < (ilen - ioff).toNat
  omega

/-- `get_arg_val_list`: the slots, and the buffer in which the texts are ended -/
def getArgValList (stack : LenStack) (slots : Nat) (msg : ClientMsg) (ioff : Nat) :
    Except Fault (List Slot × CStr) := do
  let args ← argValLoop slots msg.ibuf msg.ilen ioff 0 stack.arglen stack.argvalueLen
  endTexts msg (fun args => args.flatMap fun a => [a.arg, a.value]) args

/-- The loop of `get_arg_list` -/
def argLoop (slots : Nat) (ibuf : CStr) (ilen : Int) (ioff i arglen : Nat) :
    Except Fault (Option (List Slot)) :=
  if ilen - ioff > 2 then
    let arglen := hexNat 1 (ibuf.drop ioff) arglen
    let arg : Span := { start := ioff + 2, len := arglen }
    if ilen - arg.start ≥ arglen then
      if slots ≤ i then .error .outOfBounds
      else do
        let rest ← argLoop slots ibuf ilen arg.stop (i + 1) arglen
        pure (rest.map ({ arg := some arg, value := none } :: ·))
    else .ok none
  else .ok (some [])
termination_by (ilen - ioff).toNat
decreasing_by
  show (ilen - ((ioff + 2 + _ : Nat) : Int)).toNat < (ilen - ioff).toNat
  omega

def getArgList (stack : LenStack) (slots : Nat) (msg : ClientMsg) (ioff : Nat) :
    Except Fault (List Slot × CStr) := do
  let args ← argLoop slots msg.ibuf msg.ilen ioff 0 stack.arglen
  endTexts msg (fun args => args.map fun a => a.arg) args

/-! ### The command -/

/-- `struct cmd`, and where the arguments begin -/
structure CmdHead where
  cmd : Nat
  ops : Nat
  ifname : CStr
  type : Nat
  tlvid : Nat
  ioff : Nat
  deriving DecidableEq, Repr

/-- The command elements of `mand_clif_cmd`. `none` stands for an interface name that is too
long. -/
def readHead (stack : CmdStack) (ibuf : CStr) : Option CmdHead :=
  let version := hexNat 1 (ibuf.drop 1) stack.version / 16
  let cmd := hexNat 1 (ibuf.drop 2) stack.cmd
  let ops := hexNat 4 (ibuf.drop 4) stack.ops
  let len := hexNat 1 (ibuf.drop 12) stack.len
  if len < ifNameSize + 1 then
    let ifname := ((ibuf.drop 14).take len).takeWhile (· ≠ nul)
    let ioff := 14 + len
    let (type, ioff) :=
      if version = clifMsgVersion then (hexNat 1 (ibuf.drop ioff) stack.type, ioff + 2)
      else (agentCode .nearestBridge, ioff)
    let (tlvid, ioff) :=
      if cmd = 1 ∨ cmd = 2 then (hexNat 4 (ibuf.drop ioff) stack.tlvid, ioff + 8)
      else (invalidTlvid, ioff)
    some { cmd := cmd, ops := ops, ifname := ifname, type := type, tlvid := tlvid, ioff := ioff }
  else none

/-- The arrays of `mand_clif_cmd`, by the flags of the command -/
def readArgs (stack : LenStack) (ops : Nat) (msg : ClientMsg) (ioff : Nat) :
    Except Fault (List Slot × CStr) :=
  let numargs := countArgs (msg.ilen - ioff).toNat
  if ops &&& opArg ≠ 0 ∧ ops &&& opArgval ≠ 0 then getArgValList stack numargs msg ioff
  else if ops &&& opArg ≠ 0 then getArgList stack numargs msg ioff
  else .ok (List.replicate numargs { arg := none, value := none }, msg.ibuf)

/-! ### The handlers -/

/-- A call of `handle_get_args`, `handle_get_arg`, `handle_test_arg` or `handle_set_arg` -/
inductive HandlerCall where
  | getArgs
  | getArg (arg : Option CStr)
  | testArg (arg : Arg)
  | setArg (arg : Arg)
  deriving DecidableEq, Repr

/-- What the other parts of the daemon answer -/
structure Others where
  /-- `get_ifidx` and `is_valid_lldp_device` -/
  validPort : CStr → Bool
  /-- `get_agent_stats` -/
  agentStats : CmdHead → Except CmdErr Unit
  /-- `get_tlvs` -/
  tlvs : CmdHead → Except CmdErr Unit
  /-- a handler, after the calls that were made already -/
  handle : CmdHead → List HandlerCall → HandlerCall → Except CmdErr Unit

/-- The calls that were made, and `rstatus` -/
structure Handled where
  calls : List HandlerCall
  rstatus : Except CmdErr Unit

/-- One call -/
def call (o : Others) (cmd : CmdHead) (h : Handled) (c : HandlerCall) : Handled :=
  { calls := h.calls ++ [c], rstatus := o.handle cmd h.calls c }

/-- `cmd_success` or `cmd_not_applicable` -/
def passed : Except CmdErr Unit → Bool
  | .ok () | .error .notApplicable => true
  | .error _ => false

/-- The loop over `handle_test_arg`: `test_failed` and what was called -/
def testLoop (o : Others) (cmd : CmdHead) : List Arg → Handled → Bool × Handled
  | [], h => (false, h)
  | a :: args, h =>
    let h := call o cmd h (.testArg a)
    if passed h.rstatus then testLoop o cmd args h else (true, h)

/-- The switch of `mand_clif_cmd` on the command -/
def handleCmd (o : Others) (cmd : CmdHead) (args : List Arg) : Handled :=
  let start : Handled := { calls := [], rstatus := .error .invalid }
  match cmd.cmd with
  -- cmd_getstats
  | 0 => if args = [] then { start with rstatus := o.agentStats cmd } else start
  -- cmd_gettlv
  | 1 =>
    if args = [] then
      if cmd.ops &&& opConfig ≠ 0 then
        if cmd.ops &&& opNeighbor ≠ 0 then start else call o cmd start .getArgs
      else { start with rstatus := o.tlvs cmd }
    else if cmd.ops &&& opConfig ≠ 0 ∧ cmd.ops &&& opNeighbor = 0 then
      (args.map fun a => .getArg a.arg).foldl (call o cmd) start
    else start
  -- cmd_settlv
  | 2 =>
    let tested := testLoop o cmd args start
    if tested.1 then tested.2 else (args.map .setArg).foldl (call o cmd) tested.2
  -- cmd_get_lldp
  | 3 => (args.map fun a => .getArg a.arg).foldl (call o cmd) start
  -- cmd_set_lldp
  | 4 => (args.map .setArg).foldl (call o cmd) start
  | _ => start

/-- What a command leaves: the arrays, the buffer and what was called -/
structure CmdRun where
  slots : List Slot
  ibuf : CStr
  handled : Handled

def mandClifCmd (stack : CmdStack) (o : Others) (msg : ClientMsg) : Except Fault CmdRun :=
  match readHead stack msg.ibuf with
  | none =>
    .ok { slots := [], ibuf := msg.ibuf, handled := { calls := [], rstatus := .error .failed } }
  | some cmd => do
    let (slots, ibuf) ← readArgs stack.lens cmd.ops msg cmd.ioff
    let handled :=
      if o.validPort cmd.ifname then handleCmd o cmd (slots.map (Slot.entry ibuf))
      else { calls := [], rstatus := .error .deviceNotFound }
    pure { slots := slots, ibuf := ibuf, handled := handled }

end Lldpad.Clif.InPlace
