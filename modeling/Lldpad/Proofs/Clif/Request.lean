import Lldpad.Clif.Request
import Lldpad.Proofs.Clif.Args
import Mathlib.Algebra.Order.BigOperators.Group.List

/-!
# `Lldpad.Proofs.Clif.Request`: which commands reach the daemon as they were typed

`asTyped_iff` says for every command of `lldptool` and every VSI command when the daemon reads the
interface, the TLV ID and the arguments that were typed, unless the client refuses the command.
-/

namespace Lldpad.Clif

open Lldpad.Lib
open Lldpad.Lldp (AgentType)

/-! ### The message -/

/-- The room for the characters of a message -/
def msgRoom : Nat := maxClifMsgbuf - 1

theorem append_take (s text : CStr) :
    append (s.take msgRoom) text = (s ++ text).take msgRoom := by
  unfold append
  rw [List.take_append, List.length_take]
  rcases Nat.le_total s.length msgRoom with hle | hge
  · rw [Nat.min_eq_right hle]
    rfl
  · have hzero : msgRoom - s.length = 0 := Nat.sub_eq_zero_of_le hge
    rw [Nat.min_eq_left hge, hzero]
    exact congrArg (s.take msgRoom ++ ·) (congrArg (text.take ·) (Nat.sub_self msgRoom))

/-- A field that may be missing -/
def fieldText (width : Nat) : Option CStr → CStr
  | none => []
  | some text => hexField width text.length ++ text

theorem appendField_take (width : Nat) (s : CStr) (text : Option CStr) :
    appendField width (s.take msgRoom) text = (s ++ fieldText width text).take msgRoom := by
  cases text with
  | none =>
    unfold appendField fieldText
    rw [List.append_nil]
  | some text => exact append_take s _

/-- The fields of an entry -/
def entryText (a : Arg) : CStr := fieldText 2 a.arg ++ fieldText 4 a.value

theorem foldl_appendField (args : List Arg) : ∀ s : CStr,
    args.foldl (fun obuf a => appendField 4 (appendField 2 obuf a.arg) a.value)
      (s.take msgRoom) = (s ++ args.flatMap entryText).take msgRoom := by
  induction args with
  | nil =>
    intro s
    rw [List.flatMap_nil, List.append_nil]
    rfl
  | cons a args ih =>
    intro s
    rw [List.foldl_cons, appendField_take, appendField_take, ih, List.flatMap_cons, entryText]
    simp only [List.append_assoc]

/-- The TLV ID of a TLV command -/
def tlvidText (cmd : LldpCmd) : CStr :=
  match cmd.tlvid with
  | some tlvid => hexField 8 tlvid.toNat
  | none => []

theorem renderCmd_eq (t : ToolCmd) (ifname : CStr) (ops : Nat) (args : List Arg) :
    renderCmd t ifname ops args = (messageHead lldpModMand t.cmd.code ops ifname t.type ++
      (tlvidText t.cmd ++ args.flatMap entryText)).take msgRoom := by
  have hhead : append [] (messageHead lldpModMand t.cmd.code ops ifname t.type) =
      (messageHead lldpModMand t.cmd.code ops ifname t.type).take msgRoom :=
    append_take [] _
  unfold renderCmd tlvidText
  rw [hhead]
  cases t.cmd.tlvid with
  | none =>
    rw [foldl_appendField, List.nil_append]
  | some tlvid =>
    dsimp only
    rw [append_take, foldl_appendField, List.append_assoc]

/-! ### The head of a message -/

/-- The characters before the arguments -/
def headSize (cmd : LldpCmd) (ifname : CStr) : Nat :=
  25 + ifname.length + if cmd.tlvid.isSome then 8 else 0

theorem length_hexField_eight {n : Nat} (h : n < 2 ^ 32) : (hexField 8 n).length = 8 :=
  length_hexField (by decide) (show n < 16 ^ 8 from h)

variable {moduleId extra room : Nat} {ifname : CStr}

theorem length_messageHead {cmd ops : Nat} (hmodule : moduleId < 2 ^ 32)
    (hcmd : cmd < 256) (hops : ops < 2 ^ 32) (hname : ifname.length < 256) (type : AgentType) :
    (messageHead moduleId cmd ops ifname type).length = 25 + ifname.length := by
  have htype : (hexField 2 (agentCode type)).length = 2 := by cases type <;> rfl
  have hversion : (hexField 1 clifMsgVersion).length = 1 := rfl
  unfold messageHead
  simp only [List.length_cons, List.length_append, length_hexField_eight hmodule, hversion,
    length_lengthField hcmd, length_hexField_eight hops, length_lengthField hname, htype]
  omega

theorem code_lt (cmd : LldpCmd) : cmd.code < 16 := by
  cases cmd <;> simp [LldpCmd.code]

theorem hexField_code (cmd : LldpCmd) : ∃ d, hexField 2 cmd.code = ['0', d] := by
  have hlt := code_lt cmd
  rw [hexField_eq_hexFixed 2 cmd.code (by decide) (show cmd.code < 16 ^ 2 by omega)]
  refine ⟨Nat.digitChar (cmd.code % 16), ?_⟩
  show [Nat.digitChar (cmd.code / 16 % 16), Nat.digitChar (cmd.code % 16)] = _
  rw [Nat.div_eq_of_lt hlt]
  rfl

theorem version_eq (rest : CStr) (old : Nat) :
    hexNat 1 ('3' :: '0' :: rest) old / 16 = clifMsgVersion := by
  have htext : hexField (2 * 1) 48 = ['3', '0'] := by decide
  have hread := hexNat_hexField (k := 1) (by decide) (show 48 < 256 ^ 1 by decide) rest old
  rw [htext] at hread
  exact congrArg (· / 16) hread

/-- What the daemon reads of a message with a short interface name -/
theorem mandClifCmd_head (stack : CmdStack) {ops : Nat} (hmodule : moduleId < 2 ^ 32)
    (cmd : LldpCmd) (hops : ops < 2 ^ 32) (hname : ifname.length ≤ ifNameSize)
    (type : AgentType) (rest : CStr) :
    mandClifCmd stack (cmdStart (messageHead moduleId cmd.code ops ifname type ++
        (tlvidText cmd ++ rest))) =
      (do
        let args ← readArgs stack.lens ops rest
        pure (some
          { cmd := cmd.code, ops := ops, ifname := ifname, type := agentCode type
            tlvid := (cmd.tlvid.map (·.toNat)).getD invalidTlvid, args := args })) := by
  obtain ⟨d, hd⟩ := hexField_code cmd
  have hlt : ifname.length < 256 := Nat.lt_of_le_of_lt hname (by decide)
  have hcmd : cmd.code < 256 := Nat.lt_trans (code_lt cmd) (by decide)
  have htype : agentCode type < 256 := by cases type <;> decide
  -- the parts of the command, each with what follows it
  let behindType := tlvidText cmd ++ rest
  let behindName := hexField 2 (agentCode type) ++ behindType
  let behindLen := ifname ++ behindName
  let behindOps := hexField 2 ifname.length ++ behindLen
  let behindCmd := hexField 8 ops ++ behindOps
  have hstart : cmdStart (messageHead moduleId cmd.code ops ifname type ++
      (tlvidText cmd ++ rest)) = 'C' :: '3' :: (hexField 2 cmd.code ++ behindCmd) := by
    have hsplit : messageHead moduleId cmd.code ops ifname type ++ (tlvidText cmd ++ rest) =
        ('M' :: hexField 8 moduleId) ++ ('C' :: '3' :: (hexField 2 cmd.code ++ behindCmd)) := by
      unfold messageHead
      simp only [behindCmd, behindOps, behindLen, behindName, behindType, List.cons_append,
        List.append_assoc]
      rfl
    rw [hsplit]
    exact List.drop_left' (by rw [List.length_cons, length_hexField_eight hmodule])
  generalize hibuf : ('C' :: '3' :: (hexField 2 cmd.code ++ behindCmd) : CStr) = ibuf at hstart
  have hdrop4 : ibuf.drop 4 = behindCmd := by
    rw [← hibuf]
    exact List.drop_left' (length_lengthField hcmd)
  have hdrop12 : ibuf.drop 12 = behindOps := by
    rw [show 12 = 4 + 8 from rfl, ← List.drop_drop, hdrop4]
    exact List.drop_left' (length_hexField_eight hops)
  have hdrop14 : ibuf.drop 14 = behindLen := by
    rw [show 14 = 12 + 2 from rfl, ← List.drop_drop, hdrop12]
    exact List.drop_left' (length_lengthField hlt)
  have hdropName : ibuf.drop (14 + ifname.length) = behindName := by
    rw [← List.drop_drop, hdrop14]
    exact List.drop_left
  have hdropType : behindName.drop 2 = behindType := List.drop_left' (length_lengthField htype)
  have hversion : hexNat 1 (ibuf.drop 1) stack.version / 16 = clifMsgVersion := by
    rw [← hibuf, hd]
    exact version_eq _ _
  have hcode : hexNat 1 (ibuf.drop 2) stack.cmd = cmd.code := by
    rw [← hibuf]
    exact hexNat_hexField (k := 1) (by decide) hcmd _ _
  have hopsRead : hexNat 4 (ibuf.drop 4) stack.ops = ops := by
    rw [hdrop4]
    exact hexNat_hexField (k := 4) (by decide) hops _ _
  have hlen : hexNat 1 (ibuf.drop 12) stack.len = ifname.length := by
    rw [hdrop12]
    exact hexNat_hexField (k := 1) (by decide) hlt _ _
  have htypeRead : hexNat 1 behindName stack.type = agentCode type :=
    hexNat_hexField (k := 1) (by decide) htype _ _
  have htake : (ibuf.drop 14).take ifname.length = ifname := by
    rw [hdrop14]
    exact List.take_left
  have htlvid : (if cmd.code = 1 ∨ cmd.code = 2 then
      (hexNat 4 behindType stack.tlvid, behindType.drop 8) else (invalidTlvid, behindType)) =
      ((cmd.tlvid.map (·.toNat)).getD invalidTlvid, rest) := by
    have hread : ∀ tlvid : UInt32, (hexNat 4 (hexField 8 tlvid.toNat ++ rest) stack.tlvid,
        (hexField 8 tlvid.toNat ++ rest).drop 8) = (tlvid.toNat, rest) := by
      intro tlvid
      have hvalue := hexNat_hexField (k := 4) (by decide) tlvid.toNat_lt rest stack.tlvid
      have hrest : (hexField 8 tlvid.toNat ++ rest).drop 8 = rest :=
        List.drop_left' (length_hexField_eight tlvid.toNat_lt)
      exact Prod.ext hvalue hrest
    cases cmd with
    | getstats | getLldp | setLldp => rfl
    | gettlv tlvid | settlv tlvid => exact hread tlvid
  rw [hstart]
  unfold mandClifCmd
  dsimp only
  rw [hversion, hcode, hopsRead, hlen, if_pos (Nat.lt_succ_of_le hname), htake, hdropName,
    if_pos rfl]
  rw [htypeRead, hdropType, htlvid]

theorem mandClifCmd_message (stack : CmdStack) {ops : Nat} (hmodule : moduleId < 2 ^ 32)
    (cmd : LldpCmd) (hops : ops < 2 ^ 32) (hname : ifname.length ≤ ifNameSize)
    (type : AgentType) (text : CStr) :
    mandClifCmd stack (cmdStart ((messageHead moduleId cmd.code ops ifname type ++
        (tlvidText cmd ++ text)).take msgRoom)) =
      (do
        let args ← readArgs stack.lens ops (text.take (msgRoom - headSize cmd ifname))
        pure (some
          { cmd := cmd.code, ops := ops, ifname := ifname, type := agentCode type
            tlvid := (cmd.tlvid.map (·.toNat)).getD invalidTlvid, args := args })) := by
  have hcmd : cmd.code < 256 := Nat.lt_trans (code_lt cmd) (by decide)
  have hsixteen : ifname.length ≤ 16 := hname
  have hhead := length_messageHead hmodule hcmd hops (show ifname.length < 256 by omega) type
  have htlvid : (tlvidText cmd).length = if cmd.tlvid.isSome then 8 else 0 := by
    unfold tlvidText
    cases cmd.tlvid with
    | none => rfl
    | some tlvid => exact length_hexField_eight tlvid.toNat_lt
  have hsize : (messageHead moduleId cmd.code ops ifname type).length + (tlvidText cmd).length =
      headSize cmd ifname := by
    rw [hhead, htlvid]
    rfl
  have hle : headSize cmd ifname ≤ msgRoom := by
    have hroom : msgRoom = 4095 := rfl
    unfold headSize
    split <;> omega
  rw [List.take_append, List.take_of_length_le (by omega), List.take_append,
    List.take_of_length_le (by omega), mandClifCmd_head stack hmodule cmd hops hname,
    show msgRoom - (messageHead moduleId cmd.code ops ifname type).length -
      (tlvidText cmd).length = msgRoom - headSize cmd ifname by omega]

theorem length_ifname_le {stack : CmdStack} {ibuf : CStr} {d : Decoded}
    (h : mandClifCmd stack ibuf = .ok (some d)) : d.ifname.length ≤ ifNameSize := by
  unfold mandClifCmd at h
  dsimp only at h
  split at h
  · next hlen =>
    obtain ⟨args, _, hd⟩ := bind_eq_ok.mp h
    cases hd
    rw [List.length_take]
    omega
  · cases h

/-! ### What was typed -/

/-- A command for the daemon -/
inductive ClientCmd where
  | tool (t : ToolCmd)
  | vsi (ifname : CStr) (tlvid : UInt32) (cmd : CStr)

/-- Its message, if the client does not refuse it -/
def ClientCmd.message : ClientCmd → Option CStr
  | .tool t => t.message
  | .vsi ifname tlvid cmd => hdrSet ifname tlvid cmd

/-- The flags that a user sets -/
def userMask : Nat := opConfig ||| opDelete ||| opNeighbor

/-- What the daemon read is what was typed: the interface, the TLV ID, and each argument with its
value, in order. -/
def ClientCmd.ReadAs (c : ClientCmd) (d : Decoded) : Prop :=
  match c with
  | .tool t =>
    d.cmd = t.cmd.code ∧ d.ifname = t.ifname ∧ d.type = agentCode t.type ∧
      d.tlvid = (t.cmd.tlvid.map (·.toNat)).getD invalidTlvid ∧
      d.ops &&& userMask = t.userOps ∧ d.args = t.argv.map splitArg
  | .vsi ifname tlvid cmd =>
    d.cmd = 2 ∧ d.ifname = ifname ∧ d.type = agentCode .nearestCustomerBridge ∧
      d.tlvid = tlvid.toNat ∧ d.args = [⟨some ['v', 's', 'i'], some cmd⟩]

/-- A command that is not refused is read as it was typed, whatever is on the daemon's stack. -/
def ClientCmd.AsTyped (c : ClientCmd) : Prop :=
  ∀ msg, c.message = some msg → ∀ stack, ∃ d,
    mandClifCmd stack (cmdStart msg) = .ok (some d) ∧ c.ReadAs d

/-! ### The flags -/

theorem userOps_lt (t : ToolCmd) : t.userOps < 2 ^ 32 := by
  unfold ToolCmd.userOps
  cases t.config <;> cases t.neighbor <;> cases t.delete <;> decide

/-- What a command adds to the user's flags tells how its arguments are read. -/
structure OpsOf (t : ToolCmd) (extra ops : Nat) : Prop where
  lt : ops < 2 ^ 32
  user : ops &&& userMask = t.userOps
  arg : ops &&& opArg = extra &&& opArg
  argval : ops &&& opArgval = extra &&& opArgval

theorem opsOf_none (t : ToolCmd) : OpsOf t 0 t.userOps := by
  refine ⟨userOps_lt t, ?_, ?_, ?_⟩ <;>
    (unfold ToolCmd.userOps; cases t.config <;> cases t.neighbor <;> cases t.delete <;> decide)

variable {t : ToolCmd} {ops : Nat} {str : CStr} {argv : List CStr}

theorem OpsOf.orLocal {ops : Nat} (h : OpsOf t extra ops) :
    OpsOf t extra (ops ||| opLocal) where
  lt := Nat.or_lt_two_pow h.lt (by decide)
  user := by
    rw [Nat.and_or_distrib_right, h.user]
    exact Nat.or_zero _
  arg := by
    rw [Nat.and_or_distrib_right, h.arg]
    exact Nat.or_zero _
  argval := by
    rw [Nat.and_or_distrib_right, h.argval]
    exact Nat.or_zero _

theorem OpsOf.add (h : OpsOf t 0 ops) (bits : Nat)
    (hlt : bits < 2 ^ 32) (hbits : bits &&& userMask = 0) : OpsOf t bits (ops ||| bits) where
  lt := Nat.or_lt_two_pow h.lt hlt
  user := by rw [Nat.and_or_distrib_right, h.user, hbits, Nat.or_zero]
  arg := by rw [Nat.and_or_distrib_right, h.arg, Nat.zero_and, Nat.zero_or]
  argval := by rw [Nat.and_or_distrib_right, h.argval, Nat.zero_and, Nat.zero_or]

theorem readArgs_none (h : OpsOf t 0 ops) (stack : LenStack)
    (rest : CStr) : readArgs stack ops rest =
      .ok (List.replicate (countArgs rest.length) { arg := none, value := none }) := by
  have harg : ¬ ops &&& opArg ≠ 0 := by rw [h.arg]; decide
  unfold readArgs
  rw [if_neg fun hboth => harg hboth.1, if_neg harg]

theorem readArgs_list (h : OpsOf t opArg ops) (stack : LenStack)
    (rest : CStr) : readArgs stack ops rest = getArgList stack (countArgs rest.length) rest := by
  have harg : ops &&& opArg ≠ 0 := by rw [h.arg]; decide
  have hargval : ¬ ops &&& opArgval ≠ 0 := by rw [h.argval]; decide
  unfold readArgs
  rw [if_neg fun hboth => hargval hboth.2, if_pos harg]

theorem readArgs_val (harg : ops &&& opArg ≠ 0) (hargval : ops &&& opArgval ≠ 0)
    (stack : LenStack) (rest : CStr) :
    readArgs stack ops rest = getArgValList stack (countArgs rest.length) rest := by
  unfold readArgs
  rw [if_pos ⟨harg, hargval⟩]

/-! ### The arguments -/

/-- The argument is printable and has a value. -/
def hasValue (str : CStr) : Prop := str.all isPrint = true ∧ '=' ∈ str

instance (str : CStr) : Decidable (hasValue str) := inferInstanceAs (Decidable (_ ∧ _))

/-- The key and the value of an argument -/
def keyValue (str : CStr) : CStr × CStr :=
  (str.takeWhile (· ≠ '='), (str.dropWhile (· ≠ '=')).tail)

theorem splitArg_of_mem (h : '=' ∈ str) :
    splitArg str = ⟨some (keyValue str).1, some (keyValue str).2⟩ := by
  unfold splitArg keyValue
  split
  · next hnil =>
    have hall := List.dropWhile_eq_nil_iff.mp hnil '=' h
    simp at hall
  · next c value hcons => rw [hcons]; rfl

theorem splitArg_of_not_mem (h : '=' ∉ str) : splitArg str = ⟨some str, none⟩ := by
  have hnil : str.dropWhile (· ≠ '=') = [] := by
    refine List.dropWhile_eq_nil_iff.mpr fun c hc => ?_
    have hne : c ≠ '=' := fun heq => h (heq ▸ hc)
    simpa using hne
  unfold splitArg
  rw [hnil]

theorem length_keyValue (h : '=' ∈ str) :
    (keyValue str).1.length + (keyValue str).2.length + 1 = str.length := by
  have hne : str.dropWhile (· ≠ '=') ≠ [] := by
    intro hnil
    have hall := List.dropWhile_eq_nil_iff.mp hnil '=' h
    simp at hall
  have hsplit := congrArg List.length (List.takeWhile_append_dropWhile (p := (· ≠ '=')) (l := str))
  have hpos := List.length_pos_iff.mpr hne
  rw [List.length_append] at hsplit
  unfold keyValue
  dsimp only
  rw [List.length_tail]
  omega

theorem getArgValue_of_print (h : str.all isPrint = true) :
    getArgValue str = splitArg str := if_pos h

theorem entryText_of_not_print (h : ¬ str.all isPrint = true) :
    entryText (getArgValue str) = [] := by
  unfold getArgValue
  rw [if_neg h]
  rfl

theorem getArgValue_isSome (str : CStr) : (getArgValue str).value.isSome = true ↔ hasValue str := by
  by_cases hprint : str.all isPrint = true
  · rw [getArgValue_of_print hprint]
    by_cases hmem : '=' ∈ str
    · rw [splitArg_of_mem hmem]
      exact iff_of_true rfl ⟨hprint, hmem⟩
    · rw [splitArg_of_not_mem hmem]
      exact iff_of_false (fun h => nomatch h) fun h => hmem h.2
  · unfold getArgValue
    rw [if_neg hprint]
    exact iff_of_false (fun h => nomatch h) fun h => hprint h.1

theorem entryText_of_print (h : str.all isPrint = true) (hkey : '=' ∉ str) :
    entryText (getArgValue str) = hexField 2 str.length ++ str := by
  rw [getArgValue_of_print h, splitArg_of_not_mem hkey]
  exact List.append_nil _

/-- The text of arguments without values -/
def keysText (argv : List CStr) : CStr := (argv.map getArgValue).flatMap entryText

theorem length_keysText (hkeys : ∀ a ∈ argv, '=' ∉ a) (hall : ∀ a ∈ argv, a.length < 256) :
    (keysText argv).length ≤ argListSize argv ∧
      (argListSize argv ≤ (keysText argv).length → ∀ a ∈ argv, a.all isPrint = true) := by
  induction argv with
  | nil => exact ⟨Nat.le_refl _, fun _ => nofun⟩
  | cons a argv ih =>
    obtain ⟨hle, heq⟩ := ih (fun b hb => hkeys b (List.mem_cons_of_mem a hb))
      fun b hb => hall b (List.mem_cons_of_mem a hb)
    have hcons : keysText (a :: argv) = entryText (getArgValue a) ++ keysText argv := rfl
    have hsize : argListSize (a :: argv) = 2 + a.length + argListSize argv := List.sum_cons ..
    by_cases hprint : a.all isPrint = true
    · have hentry := entryText_of_print hprint (hkeys a List.mem_cons_self)
      have hlen : (entryText (getArgValue a)).length = 2 + a.length := by
        rw [hentry, List.length_append, length_lengthField (hall a List.mem_cons_self)]
      rw [hcons, List.length_append, hlen, hsize]
      exact ⟨by omega, fun hge => List.forall_mem_cons.mpr ⟨hprint, heq (by omega)⟩⟩
    · -- it takes no room, and would have to take some
      rw [hcons, entryText_of_not_print hprint, List.nil_append, hsize]
      exact ⟨by omega, fun hge => by omega⟩

theorem keysText_of_print (hprint : ∀ a ∈ argv, a.all isPrint = true)
    (hkeys : ∀ a ∈ argv, '=' ∉ a) : keysText argv = argListText argv := by
  induction argv with
  | nil => rfl
  | cons a argv ih =>
    have hrest := ih (fun b hb => hprint b (List.mem_cons_of_mem a hb))
      fun b hb => hkeys b (List.mem_cons_of_mem a hb)
    have hentry := entryText_of_print (hprint a List.mem_cons_self) (hkeys a List.mem_cons_self)
    show entryText (getArgValue a) ++ keysText argv = _
    rw [hentry, hrest]
    rfl

/-- Arguments without values that are read back -/
structure KeysFit (room : Nat) (argv : List CStr) : Prop where
  print : ∀ a ∈ argv, a.all isPrint = true
  length : ∀ a ∈ argv, a.length < 256
  last : argv.getLast? ≠ some []
  size : argListSize argv ≤ room
  slots : argv.length ≤ countArgs (argListSize argv)

/-- Arguments without values are read back from the room of the message if and only if they
fit. -/
theorem keys_iff (room : Nat) (hkeys : ∀ a ∈ argv, ¬ hasValue a) (stack : LenStack) :
    getArgList stack (countArgs ((keysText argv).take room).length) ((keysText argv).take room) =
      .ok (argv.map splitArg) ↔ KeysFit room argv := by
  constructor
  · intro h
    -- what is read has no values
    obtain ⟨r, _, hr⟩ := bind_eq_ok.mp h
    have hlist : listEntries (r.getD []) = argv.map splitArg := Except.ok.inj hr
    have hargv : argv.map splitArg = listEntries argv := by
      have hnone : ∀ a ∈ argv, (splitArg a).value = none := by
        intro a ha
        have hmem : splitArg a ∈ listEntries (r.getD []) :=
          hlist ▸ List.mem_map_of_mem ha
        obtain ⟨b, _, hb⟩ := List.mem_map.mp hmem
        rw [← hb]
      refine List.map_congr_left fun a ha => ?_
      by_cases hmem : '=' ∈ a
      · have hvalue := hnone a ha
        rw [splitArg_of_mem hmem] at hvalue
        cases hvalue
      · exact splitArg_of_not_mem hmem
    have hno : ∀ a ∈ argv, '=' ∉ a := by
      intro a ha hmem
      have hentry := congrArg Arg.value ((List.map_inj_left.mp hargv) a ha)
      rw [splitArg_of_mem hmem] at hentry
      cases hentry
    rw [hargv] at h
    obtain ⟨hall, hsize, hslots, hlast⟩ := getArgList_fits h
    obtain ⟨hle, heq⟩ := length_keysText hno hall
    rw [List.length_take] at hsize hslots hlast
    have hwhole : min room (keysText argv).length = argListSize argv := by omega
    rw [hwhole] at hslots hlast
    refine ⟨heq (by omega), hall, ?_, by omega, hslots⟩
    intro hempty
    obtain ⟨init, rfl⟩ := List.getLast?_eq_some_iff.mp hempty
    have hlt := hlast init [] rfl
    unfold argListSize at hlt
    rw [List.map_append, List.sum_append] at hlt
    simp at hlt
  · rintro ⟨hprint, hall, hlast, hsize, hslots⟩
    have hno : ∀ a ∈ argv, '=' ∉ a := fun a ha hmem => hkeys a ha ⟨hprint a ha, hmem⟩
    have htext := keysText_of_print hprint hno
    have hlength := length_argListText hall
    have hargv : argv.map splitArg = listEntries argv :=
      List.map_congr_left fun a ha => splitArg_of_not_mem (hno a ha)
    rw [htext, List.take_of_length_le (by omega), hlength, hargv]
    exact getArgList_text stack hall hlast hslots

/-- The room that arguments with values take: `=` gives way to the lengths. -/
def valuesSize (argv : List CStr) : Nat := (argv.map fun a => 5 + a.length).sum

theorem valuesSize_eq (h : ∀ a ∈ argv, hasValue a) :
    argValSize (argv.map keyValue) = valuesSize argv := by
  induction argv with
  | nil => rfl
  | cons a argv ih =>
    have hrest := ih fun b hb => h b (List.mem_cons_of_mem a hb)
    have hlen := length_keyValue (h a List.mem_cons_self).2
    unfold argValSize valuesSize at hrest ⊢
    simp only [List.map_cons, List.sum_cons]
    omega

theorem valuesText_eq (h : ∀ a ∈ argv, hasValue a) :
    (argv.map getArgValue).flatMap entryText = argValText (argv.map keyValue) := by
  induction argv with
  | nil => rfl
  | cons a argv ih =>
    have hrest := ih fun b hb => h b (List.mem_cons_of_mem a hb)
    obtain ⟨hprint, hmem⟩ := h a List.mem_cons_self
    have hentry : entryText (getArgValue a) = hexField 2 (keyValue a).1.length ++
        ((keyValue a).1 ++ (hexField 4 (keyValue a).2.length ++ (keyValue a).2)) := by
      rw [getArgValue_of_print hprint, splitArg_of_mem hmem]
      exact List.append_assoc ..
    show entryText (getArgValue a) ++ (argv.map getArgValue).flatMap entryText = _
    rw [hentry, hrest]
    rfl

/-- Arguments with values that are read back -/
structure ValuesFit (room : Nat) (argv : List CStr) : Prop where
  length : ∀ a ∈ argv, (keyValue a).1.length < 256
  size : valuesSize argv ≤ room
  slots : argv.length ≤ countArgs (valuesSize argv)

theorem values_iff (hroom : room < 65536) (hvalues : ∀ a ∈ argv, hasValue a) (stack : LenStack) :
    getArgValList stack (countArgs ((argValText (argv.map keyValue)).take room).length)
        ((argValText (argv.map keyValue)).take room) = .ok (argv.map splitArg) ↔
      ValuesFit room argv := by
  have hargv : argv.map splitArg = valEntries (argv.map keyValue) := by
    unfold valEntries
    rw [List.map_map]
    exact List.map_congr_left fun a ha => splitArg_of_mem (hvalues a ha).2
  have hsizeEq := valuesSize_eq hvalues
  rw [hargv]
  constructor
  · intro h
    obtain ⟨hall, hsize, hslots⟩ := getArgValList_fits h
    have hlength := length_argValText hall
    rw [List.length_take] at hsize hslots
    have hwhole : min room (argValText (argv.map keyValue)).length = valuesSize argv := by omega
    rw [hwhole, List.length_map] at hslots
    exact ⟨fun a ha => (hall (keyValue a) (List.mem_map_of_mem ha)).1, by omega, hslots⟩
  · rintro ⟨hlength, hsize, hslots⟩
    have hall : ∀ a ∈ argv.map keyValue, a.1.length < 256 ∧ a.2.length < 65536 := by
      intro b hb
      obtain ⟨a, ha, rfl⟩ := List.mem_map.mp hb
      refine ⟨hlength a ha, ?_⟩
      -- a value has its place in the room
      have hle : 5 + a.length ≤ valuesSize argv :=
        List.le_sum_of_mem (List.mem_map_of_mem ha)
      have hvalue := length_keyValue (hvalues a ha).2
      omega
    have htext := length_argValText hall
    rw [List.take_of_length_le (by omega), htext, hsizeEq]
    exact getArgValList_text stack hall (by rw [List.length_map]; exact hslots)

/-! ### A command of `lldptool` -/

/-- The client refuses the command. -/
def ToolCmd.Refused (t : ToolCmd) : Prop :=
  match t.cmd with
  | .getstats => False
  | .gettlv _ =>
    t.argv ≠ [] ∧ (t.config = false ∨ t.neighbor = true) ∨ ∃ a ∈ t.argv, hasValue a
  | .settlv _ | .setLldp => ∃ a ∈ t.argv, ¬ hasValue a
  | .getLldp => t.argv = [] ∨ ∃ a ∈ t.argv, hasValue a

/-- The arguments fit the command and its message. -/
def ToolCmd.ArgsFit (t : ToolCmd) : Prop :=
  match t.cmd with
  | .getstats => t.argv = []
  | .gettlv _ | .getLldp => KeysFit (msgRoom - headSize t.cmd t.ifname) t.argv
  | .settlv _ | .setLldp => ValuesFit (msgRoom - headSize t.cmd t.ifname) t.argv

/-- The daemon reads a message of `render_cmd` as it was typed if and only if the name of the
interface was not cut, and the arguments are read back from the room behind the head. -/
theorem renderCmd_readAs {ops : Nat} (hops : OpsOf t extra ops) (args : List Arg) :
    (∀ stack, ∃ d, mandClifCmd stack (cmdStart (renderCmd t t.ifnameField ops args)) =
        .ok (some d) ∧ (ClientCmd.tool t).ReadAs d) ↔
      t.ifname.length ≤ ifNameSize ∧ ∀ stack,
        readArgs stack ops ((args.flatMap entryText).take (msgRoom - headSize t.cmd t.ifname)) =
          .ok (t.argv.map splitArg) := by
  have hread : t.ifname.length ≤ ifNameSize → ∀ stack,
      mandClifCmd stack (cmdStart (renderCmd t t.ifnameField ops args)) =
      (do
        let args ← readArgs stack.lens ops
          ((args.flatMap entryText).take (msgRoom - headSize t.cmd t.ifname))
        pure (some
          { cmd := t.cmd.code, ops := ops, ifname := t.ifname, type := agentCode t.type
            tlvid := (t.cmd.tlvid.map (·.toNat)).getD invalidTlvid, args := args })) := by
    intro hname stack
    have hfield : t.ifnameField = t.ifname := List.take_of_length_le hname
    rw [renderCmd_eq, hfield]
    exact mandClifCmd_message stack (by decide) t.cmd hops.lt hname t.type _
  constructor
  · intro h
    have hname : t.ifname.length ≤ ifNameSize := by
      obtain ⟨d, hd, _, hifname, _⟩ := h ⟨0, 0, 0, 0, 0, 0, ⟨0, 0⟩⟩
      rw [← hifname]
      exact length_ifname_le hd
    refine ⟨hname, fun stack => ?_⟩
    obtain ⟨d, hd, _, _, _, _, _, hargs⟩ := h ⟨0, 0, 0, 0, 0, 0, stack⟩
    rw [hread hname] at hd
    obtain ⟨r, hr, hd⟩ := bind_eq_ok.mp hd
    cases hd
    rw [← hargs]
    exact hr
  · rintro ⟨hname, hargs⟩ stack
    refine ⟨{ cmd := t.cmd.code, ops := ops, ifname := t.ifname, type := agentCode t.type
              tlvid := (t.cmd.tlvid.map (·.toNat)).getD invalidTlvid
              args := t.argv.map splitArg }, ?_, rfl, rfl, rfl, rfl, hops.user, rfl⟩
    rw [hread hname, hargs stack.lens, bind_ok]
    rfl

theorem asTyped_of_message {ops : Nat} {args : List Arg}
    (hops : OpsOf t extra ops) (hmsg : t.message = some (renderCmd t t.ifnameField ops args)) :
    (ClientCmd.tool t).AsTyped ↔ t.ifname.length ≤ ifNameSize ∧ ∀ stack,
      readArgs stack ops ((args.flatMap entryText).take (msgRoom - headSize t.cmd t.ifname)) =
        .ok (t.argv.map splitArg) := by
  rw [← renderCmd_readAs hops]
  constructor
  · exact fun h => h _ hmsg
  · intro h msg heq
    cases hmsg.symm.trans heq
    exact h

theorem asTyped_of_refused (h : t.message = none) : (ClientCmd.tool t).AsTyped := by
  intro msg hmsg
  cases h.symm.trans hmsg

theorem any_hasValue (argv : List CStr) :
    ((argv.map getArgValue).any fun a => a.value.isSome) = true ↔ ∃ a ∈ argv, hasValue a := by
  simp only [List.any_map, List.any_eq_true, Function.comp_apply, getArgValue_isSome]

theorem any_not_hasValue (argv : List CStr) :
    ((argv.map getArgValue).any fun a => a.value.isNone) = true ↔ ∃ a ∈ argv, ¬ hasValue a := by
  simp only [List.any_map, List.any_eq_true, Function.comp_apply, ← getArgValue_isSome,
    Bool.not_eq_true, Option.isSome_eq_false_iff]

theorem keys_readArgs (hops : OpsOf t opArg ops) (hkeys : ∀ a ∈ t.argv, ¬ hasValue a) :
    (∀ stack, readArgs stack ops
        (((t.argv.map getArgValue).flatMap entryText).take (msgRoom - headSize t.cmd t.ifname)) =
      .ok (t.argv.map splitArg)) ↔ KeysFit (msgRoom - headSize t.cmd t.ifname) t.argv := by
  simp only [readArgs_list hops]
  constructor
  · exact fun h => (keys_iff _ hkeys ⟨0, 0⟩).mp (h ⟨0, 0⟩)
  · exact fun h stack => (keys_iff _ hkeys stack).mpr h

theorem readArgs_nil (hops : OpsOf t 0 ops) (stack : LenStack) :
    readArgs stack ops [] = .ok [] := by
  rw [readArgs_none hops]
  show Except.ok (List.replicate (countArgs 0) _) = _
  rw [countArgs, if_neg (by decide)]
  rfl

theorem keysFit_nil : KeysFit room [] :=
  ⟨nofun, nofun, nofun, Nat.zero_le _, Nat.zero_le _⟩

theorem valuesFit_nil : ValuesFit room [] :=
  ⟨nofun, Nat.zero_le _, Nat.zero_le _⟩

theorem getstats_iff (hcmd : t.cmd = .getstats) :
    (ClientCmd.tool t).AsTyped ↔ t.ifname.length ≤ ifNameSize ∧ t.argv = [] := by
  have hmsg : t.message = cliCmdGetstats t := by unfold ToolCmd.message; rw [hcmd]
  have htext : ((t.argv.map fun _ => (⟨none, none⟩ : Arg)).flatMap entryText) = [] := by
    rw [List.flatMap_map]
    exact List.flatMap_eq_nil_iff.mpr fun _ _ => rfl
  rw [asTyped_of_message (opsOf_none t) hmsg, htext, List.take_nil]
  refine and_congr_right fun _ => ?_
  simp only [readArgs_nil (opsOf_none t), Except.ok.injEq, List.nil_eq, List.map_eq_nil_iff]
  exact ⟨fun h => h ⟨0, 0⟩, fun h _ => h⟩

theorem settlv_iff (hmsg : t.message = cliCmdSettlv t) :
    (ClientCmd.tool t).AsTyped ↔ (∃ a ∈ t.argv, ¬ hasValue a) ∨
      t.ifname.length ≤ ifNameSize ∧ ValuesFit (msgRoom - headSize t.cmd t.ifname) t.argv := by
  unfold cliCmdSettlv at hmsg
  dsimp only at hmsg
  split at hmsg
  · next hany =>
    exact iff_of_true (asTyped_of_refused hmsg) (.inl ((any_not_hasValue _).mp hany))
  · next hany =>
    have hnone : ¬ ∃ a ∈ t.argv, ¬ hasValue a := fun h => hany ((any_not_hasValue _).mpr h)
    have hvalues : ∀ a ∈ t.argv, hasValue a := by
      intro a ha
      by_contra hno
      exact hnone ⟨a, ha, hno⟩
    rw [or_iff_right hnone]
    split at hmsg
    · have hops := (opsOf_none t).add (opArg ||| opArgval) (by decide) (by decide)
      rw [asTyped_of_message hops hmsg, valuesText_eq hvalues]
      refine and_congr_right fun _ => ?_
      have harg : (t.userOps ||| (opArg ||| opArgval)) &&& opArg ≠ 0 := by
        rw [hops.arg]
        decide
      have hargval : (t.userOps ||| (opArg ||| opArgval)) &&& opArgval ≠ 0 := by
        rw [hops.argval]
        decide
      have hroom : msgRoom - headSize t.cmd t.ifname < 65536 :=
        Nat.lt_of_le_of_lt (Nat.sub_le ..) (show msgRoom < 65536 by decide)
      simp only [readArgs_val harg hargval]
      constructor
      · exact fun h => (values_iff hroom hvalues ⟨0, 0⟩).mp (h ⟨0, 0⟩)
      · exact fun h stack => (values_iff hroom hvalues stack).mpr h
    · next hnil =>
      obtain hnil := not_not.mp hnil
      rw [asTyped_of_message (opsOf_none t) hmsg, hnil]
      refine and_congr_right fun _ => iff_of_true (fun stack => ?_) valuesFit_nil
      rw [List.map_nil, List.flatMap_nil, List.take_nil]
      exact readArgs_nil (opsOf_none t) stack

theorem getlldp_iff (hcmd : t.cmd = .getLldp) :
    (ClientCmd.tool t).AsTyped ↔ (t.argv = [] ∨ ∃ a ∈ t.argv, hasValue a) ∨
      t.ifname.length ≤ ifNameSize ∧ KeysFit (msgRoom - headSize t.cmd t.ifname) t.argv := by
  have hmsg : t.message = cliCmdGetlldp t := by unfold ToolCmd.message; rw [hcmd]
  unfold cliCmdGetlldp at hmsg
  dsimp only at hmsg
  split at hmsg
  · next hrefused =>
    exact iff_of_true (asTyped_of_refused hmsg) (.inl (hrefused.imp_right (any_hasValue _).mp))
  · next haccepted =>
    have hrefused : ¬ (t.argv = [] ∨ ∃ a ∈ t.argv, hasValue a) :=
      fun h => haccepted (h.imp_right (any_hasValue _).mpr)
    have hkeys : ∀ a ∈ t.argv, ¬ hasValue a := fun a ha hv => hrefused (.inr ⟨a, ha, hv⟩)
    have hops := (opsOf_none t).add opArg (by decide) (by decide)
    rw [or_iff_right hrefused, asTyped_of_message hops hmsg, keys_readArgs hops hkeys]

theorem gettlv_iff {tlvid : UInt32} (hcmd : t.cmd = .gettlv tlvid) :
    (ClientCmd.tool t).AsTyped ↔
      (t.argv ≠ [] ∧ (t.config = false ∨ t.neighbor = true) ∨ ∃ a ∈ t.argv, hasValue a) ∨
      t.ifname.length ≤ ifNameSize ∧ KeysFit (msgRoom - headSize t.cmd t.ifname) t.argv := by
  have hmsg : t.message = cliCmdGettlv t := by unfold ToolCmd.message; rw [hcmd]
  unfold cliCmdGettlv at hmsg
  dsimp only at hmsg
  have hlocal : OpsOf t 0 (if t.neighbor = false then t.userOps ||| opLocal else t.userOps) := by
    split
    · exact (opsOf_none t).orLocal
    · exact opsOf_none t
  revert hmsg hlocal
  generalize (if t.neighbor = false then t.userOps ||| opLocal else t.userOps) = ops
  intro hmsg hlocal
  split at hmsg
  · next hflags => exact iff_of_true (asTyped_of_refused hmsg) (.inl (.inl hflags))
  · next hflags =>
    split at hmsg
    · next hany =>
      exact iff_of_true (asTyped_of_refused hmsg) (.inl (.inr ((any_hasValue _).mp hany)))
    · next hany =>
      have hnone : ¬ ∃ a ∈ t.argv, hasValue a := fun h => hany ((any_hasValue _).mpr h)
      have hkeys : ∀ a ∈ t.argv, ¬ hasValue a := fun a ha hv => hnone ⟨a, ha, hv⟩
      rw [or_iff_right (not_or.mpr ⟨hflags, hnone⟩)]
      split at hmsg
      · have hops := hlocal.add opArg (by decide) (by decide)
        rw [asTyped_of_message hops hmsg, keys_readArgs hops hkeys]
      · next hnil =>
        obtain hnil := not_not.mp hnil
        rw [asTyped_of_message hlocal hmsg, hnil]
        refine and_congr_right fun _ => iff_of_true (fun stack => ?_) keysFit_nil
        rw [List.map_nil, List.flatMap_nil, List.take_nil]
        exact readArgs_nil hlocal stack

theorem tool_iff (t : ToolCmd) : (ClientCmd.tool t).AsTyped ↔
    t.Refused ∨ t.ifname.length ≤ ifNameSize ∧ t.ArgsFit := by
  have hset : (t.cmd = .setLldp ∨ ∃ tlvid, t.cmd = .settlv tlvid) →
      t.message = cliCmdSettlv t := by
    unfold ToolCmd.message
    rintro (h | ⟨tlvid, h⟩) <;> rw [h]
  unfold ToolCmd.Refused ToolCmd.ArgsFit
  cases hcmd : t.cmd with
  | getstats => exact (getstats_iff hcmd).trans (iff_of_eq (false_or _)).symm
  | gettlv tlvid =>
    have h := gettlv_iff hcmd
    rw [hcmd] at h
    exact h
  | settlv tlvid =>
    have h := settlv_iff (hset (.inr ⟨tlvid, hcmd⟩))
    rw [hcmd] at h
    exact h
  | getLldp =>
    have h := getlldp_iff hcmd
    rw [hcmd] at h
    exact h
  | setLldp =>
    have h := settlv_iff (hset (.inl hcmd))
    rw [hcmd] at h
    exact h

/-! ### A VSI command -/

theorem hdrText_eq (ifname : CStr) (tlvid : UInt32) (cmd : CStr) :
    hdrText ifname tlvid cmd = messageHead lldpModVdp22 (LldpCmd.settlv tlvid).code
        (opArg ||| opArgval ||| opConfig) ifname .nearestCustomerBridge ++
      (tlvidText (.settlv tlvid) ++ argValText [(['v', 's', 'i'], cmd)]) := by
  have harg : argValText [(['v', 's', 'i'], cmd)] =
      ['0', '3', 'v', 's', 'i'] ++ (hexField 4 cmd.length ++ cmd) := by
    have hfield : hexField 2 ([('v' : Char), 's', 'i'] : CStr).length = ['0', '3'] := by decide
    unfold argValText
    rw [List.flatMap_cons, List.flatMap_nil, List.append_nil, hfield]
    rfl
  rw [harg]
  rfl

/-- The text fits the buffer of a message, and the interface name the daemon's. -/
def VsiFits (ifname cmd : CStr) : Prop :=
  ifname.length ≤ ifNameSize ∧ 42 + ifname.length + cmd.length ≤ msgRoom

theorem vsi_iff (ifname : CStr) (tlvid : UInt32) (cmd : CStr) :
    (ClientCmd.vsi ifname tlvid cmd).AsTyped ↔
      (hdrText ifname tlvid cmd).length > maxClifMsgbuf ∨ VsiFits ifname cmd := by
  by_cases hlong : (hdrText ifname tlvid cmd).length > maxClifMsgbuf
  · refine iff_of_true (fun msg hmsg => ?_) (.inl hlong)
    have hnone : hdrSet ifname tlvid cmd = none := if_pos hlong
    cases hnone.symm.trans hmsg
  · have hmsg : (ClientCmd.vsi ifname tlvid cmd).message =
        some ((hdrText ifname tlvid cmd).take msgRoom) := if_neg hlong
    have hread : ifname.length ≤ ifNameSize → ∀ stack,
        mandClifCmd stack (cmdStart ((hdrText ifname tlvid cmd).take msgRoom)) =
        (do
          let args ← getArgValList stack.lens
            (countArgs ((argValText [(['v', 's', 'i'], cmd)]).take
              (msgRoom - (33 + ifname.length))).length)
            ((argValText [(['v', 's', 'i'], cmd)]).take (msgRoom - (33 + ifname.length)))
          pure (some
            { cmd := 2, ops := opArg ||| opArgval ||| opConfig, ifname := ifname
              type := agentCode .nearestCustomerBridge, tlvid := tlvid.toNat
              args := args })) := by
      intro hname stack
      have hsize : headSize (.settlv tlvid) ifname = 33 + ifname.length := by
        show 25 + ifname.length + 8 = _
        omega
      have hmessage := mandClifCmd_message stack (show lldpModVdp22 < 2 ^ 32 by decide)
        (.settlv tlvid) (show opArg ||| opArgval ||| opConfig < 2 ^ 32 by decide) hname
        .nearestCustomerBridge (argValText [(['v', 's', 'i'], cmd)])
      rw [hsize, readArgs_val (by decide) (by decide)] at hmessage
      rw [hdrText_eq]
      exact hmessage
    have hentries : valEntries [(['v', 's', 'i'], cmd)] = [⟨some ['v', 's', 'i'], some cmd⟩] :=
      rfl
    have hsize : argValSize [(['v', 's', 'i'], cmd)] = 9 + cmd.length := rfl
    rw [or_iff_right hlong]
    constructor
    · intro h
      have hstack := h _ hmsg ⟨0, 0, 0, 0, 0, 0, ⟨0, 0⟩⟩
      obtain ⟨d, hd, -, hifname, -, -, hargs⟩ := hstack
      have hname : ifname.length ≤ ifNameSize := hifname ▸ length_ifname_le hd
      rw [hread hname] at hd
      obtain ⟨r, hr, hd⟩ := bind_eq_ok.mp hd
      cases hd
      rw [show r = _ from hargs, ← hentries] at hr
      obtain ⟨-, hfits, -⟩ := getArgValList_fits hr
      rw [List.length_take, hsize] at hfits
      have hsixteen : ifname.length ≤ 16 := hname
      have hroom : msgRoom = 4095 := rfl
      exact ⟨hname, by omega⟩
    · rintro ⟨hname, hfits⟩ msg heq stack
      cases hmsg.symm.trans heq
      have hroom : msgRoom = 4095 := rfl
      have hall : ∀ a ∈ [((['v', 's', 'i'] : CStr), cmd)],
          a.1.length < 256 ∧ a.2.length < 65536 := by
        intro a ha
        obtain rfl := List.mem_singleton.mp ha
        exact ⟨show 3 < 256 by omega, show cmd.length < 65536 by omega⟩
      have htext := length_argValText hall
      rw [hsize] at htext
      have hslots : 1 ≤ countArgs (9 + cmd.length) := by
        rw [countArgs, if_pos (by omega)]
        exact Nat.le_add_left ..
      refine ⟨{ cmd := 2, ops := opArg ||| opArgval ||| opConfig, ifname := ifname
                type := agentCode .nearestCustomerBridge, tlvid := tlvid.toNat
                args := valEntries [(['v', 's', 'i'], cmd)] }, ?_, rfl, rfl, rfl, rfl, rfl⟩
      rw [hread hname, List.take_of_length_le (by omega), htext,
        getArgValList_text stack.lens hall hslots, bind_ok]
      rfl

/-! ### Every command -/

/-- The condition of one command -/
def ClientCmd.Delivered : ClientCmd → Prop
  | .tool t => t.Refused ∨ t.ifname.length ≤ ifNameSize ∧ t.ArgsFit
  | .vsi ifname tlvid cmd =>
    (hdrText ifname tlvid cmd).length > maxClifMsgbuf ∨ VsiFits ifname cmd

/-- A command that is not refused is read as it was typed if and only if the interface name and
the lengths fit their fields, the text fits the message, the daemon counts enough slots for the
arguments, all of them can be printed and, without values, the last one is not empty. -/
theorem asTyped_iff (c : ClientCmd) : c.AsTyped ↔ c.Delivered := by
  cases c with
  | tool t => exact tool_iff t
  | vsi ifname tlvid cmd => exact vsi_iff ifname tlvid cmd

/-- A key of 256 characters, which takes three digits for its length -/
def longKey : ToolCmd where
  cmd := .settlv 5
  config := false
  neighbor := false
  delete := false
  type := .nearestBridge
  ifname := ['e', 't', 'h', '0']
  argv := [List.replicate 256 'k' ++ ['=', '1']]

/-- It is not refused, and it is not what the daemon reads. -/
theorem not_asTyped : ¬ ∀ c : ClientCmd, c.AsTyped := by
  intro h
  rcases (tool_iff longKey).mp (h (.tool longKey)) with ⟨a, ha, hno⟩ | ⟨-, hfit⟩
  · obtain rfl := List.mem_singleton.mp ha
    exact hno (by decide +kernel)
  · have hlen := hfit.length _ List.mem_cons_self
    exact absurd hlen (by decide +kernel)

end Lldpad.Clif
