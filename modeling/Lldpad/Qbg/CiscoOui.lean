import Lldpad.Qbg.VdpPrint

/-!
# `Lldpad.Qbg.CiscoOui`: Cisco's OUI data as text

`cisco_str2vdpnl_hndlr` of `qbg/vdp22cisco_oui.c`, which reads the text that `cisco_vdpnl2str_hndlr`
prints. The text is a list of keys and values, each with its length in front, like a request.

A UUID and an address are copied into a block of just their length, so that no NUL ends the copy:
what follows it in memory is read as well (`CiscoMem`). A name that its array cannot hold is written
over the end of it. Memory does not run out.
-/

namespace Lldpad.Qbg

open Lldpad.Lib
open Lldpad.Lldp (Bytes)

/-! ### `inet_aton` -/

/-- The next number of an address, and what follows it -/
def inetAtonNum (s : CStr) : Option (Nat × CStr) :=
  if s.head?.any Char.isDigit then
    let (base, digits) := chooseBase 0 s
    some (readDigits base 0 digits)
  else none

/-- The last number fills the bytes that are left. Only white space may follow it. -/
def inetAtonLast (bytes : Bytes) (val : Nat) (rest : CStr) : Option Bytes :=
  let left := 4 - bytes.length
  if rest.head?.all isSpace ∧ val < 256 ^ left then some (bytes ++ (leBytes left val).reverse)
  else none

/-- `inet_aton` behind these bytes, where so many more dots may follow -/
def inetAtonLoop : Nat → Bytes → CStr → Option Bytes
  | 0, bytes, s => do
    let (val, rest) ← inetAtonNum s
    inetAtonLast bytes val rest
  | more + 1, bytes, s => do
    let (val, rest) ← inetAtonNum s
    if rest.head? = some '.' then
      if 0xff < val then none else inetAtonLoop more (bytes ++ [UInt8.ofNat val]) rest.tail
    else inetAtonLast bytes val rest

def inetAton (s : CStr) : Option (Octets 4) :=
  (inetAtonLoop 3 [] s).bind fun bytes => if h : bytes.length = 4 then some ⟨bytes, h⟩ else none

example : inetAton "10.1.2.3".toList = some ⟨[10, 1, 2, 3], rfl⟩ := by decide

example : inetAton "10.258".toList = some ⟨[10, 0, 1, 2], rfl⟩ := by decide

/-! ### Keys -/

def maxVmName : Nat := 100

/-- `enum oui_key_arg` -/
inductive OuiKeyArg where
  | name
  | nameUuid
  | l3v4addr
  | invalid
  deriving DecidableEq

/-- `oui_key_handle` -/
def ouiKeyHandle : List (CStr × OuiKeyArg) :=
  [("vm_name".toList, .name), ("vm_uuid".toList, .nameUuid), ("ipv4_addr".toList, .l3v4addr)]

/-- `get_oui_key`. Only so many characters are compared, so that the front of a keyword will do. -/
def getOuiKey (token : CStr) (keyLen : Nat) : OuiKeyArg :=
  ((ouiKeyHandle.find? fun h => keyLen ≤ token.length ∧ token.take keyLen = h.1.take keyLen).map
    Prod.snd).getD .invalid

/-! ### Reading -/

/-- What the reader finds in memory: `key_len` and `data_len` before anything is read into them, and
what follows a copy of this length -/
structure CiscoMem where
  keyLen : Nat
  dataLen : Nat
  behind : Nat → CStr

/-- The variables of `cisco_str2vdpnl_hndlr` -/
structure CiscoText where
  keyLen : Nat
  dataLen : Nat
  oui : VdpCiscoOui := {}
  vmNameFlag : Bool := false
  l3AddrFlag : Bool := false

/-- What the loop does with a value under its key: the answer is false (`none`), or these are the
variables, and whether the loop goes on. A second address ends it with the answer true. -/
def ciscoTake (mem : CiscoMem) (s : CiscoText) (key : OuiKeyArg) (data : CStr) :
    Except Fault (Option (CiscoText × Bool)) :=
  match key with
  | .name =>
    if s.vmNameFlag then .ok none
    else if maxVmName ≤ data.length then .error .outOfBounds
    else .ok (some ({ s with vmNameFlag := true, oui.vmName := textBytes data }, true))
  | .nameUuid =>
    let (uuid, rc) := vdpStr2uuid s.oui.uuid (data ++ mem.behind data.length)
    let oui := { s.oui with uuid := if rc = 0 then uuid else .zero 16, uuidSet := rc = 0 }
    .ok (some ({ s with oui }, true))
  | .l3v4addr =>
    if s.l3AddrFlag then .ok (some (s, false))
    else
      match inetAton (data ++ mem.behind data.length) with
      | none => .ok none
      | some l3Addr =>
        let oui := { s.oui with
          afi := manaddrIpv4
          vmAddrLen := 4
          l3Addr
          addr_ok := .inr ⟨rfl, rfl⟩ }
        .ok (some ({ s with oui, l3AddrFlag := true }, true))
  | .invalid => .ok none

/-- The loop of `cisco_str2vdpnl_hndlr`. Where a length leads behind the text the answer is false,
whatever was read there. -/
def ciscoLoop (mem : CiscoMem) (s : CiscoText) (token : CStr) : Except Fault (Option VdpCiscoOui) :=
  if token = [] then .ok (some s.oui)
  else
    let keyLen := hexNat 1 token s.keyLen
    let key := getOuiKey (token.drop 2) keyLen
    let dataLen := hexNat 2 (token.drop (2 + keyLen)) s.dataLen
    if token.length < 2 + keyLen + 4 + dataLen then .ok none
    else
      let data := (token.drop (2 + keyLen + 4)).take dataLen
      match ciscoTake mem { s with keyLen, dataLen } key data with
      | .error fault => .error fault
      | .ok none => .ok none
      | .ok (some (s, false)) => .ok (some s.oui)
      | .ok (some (s, true)) => ciscoLoop mem s (token.drop (2 + keyLen + 4 + dataLen))
termination_by token.length
decreasing_by
  have := List.length_pos_iff.mpr ‹¬token = []›
  rw [List.length_drop]
  omega

def ciscoStr2vdpnlHndlr (mem : CiscoMem) (token : CStr) : Except Fault (Option VdpCiscoOui) :=
  ciscoLoop mem { keyLen := mem.keyLen, dataLen := mem.dataLen } token

/-! ### The handlers -/

/-- The names that are registered: `cisco_oui_hndlr` is the only one. A write over the end of the
name counts as a refusal here. -/
def ciscoReaders (mem : CiscoMem) : OuiReaders VdpCiscoOui := fun name =>
  if name = "cisco".toList then
    some (some fun token =>
      match ciscoStr2vdpnlHndlr mem token with
      | .ok data => data
      | .error _ => none)
  else none

def ciscoPrinters : OuiPrinters VdpCiscoOui := fun name =>
  if name = "cisco".toList then some ciscoPrinter else none

end Lldpad.Qbg
