import Lldpad.Clif.InPlace
import Lldpad.Lldp.Basman
import Lldpad.Qbg.Vdp
import Lldpad.Qbg.VdpPrint

/-!
# `Lldpad.Qbg.VdpCmds`: the profiles of draft 0.2 as the argument `mode`

`qbg/vdp_cmds.c`: `vdp_parse_mode_line` makes a profile of a line, and `get_arg_mode` lists the
profiles of an interface with `print_mode`.

Memory does not run out. Log messages are left out.
-/

namespace Lldpad.Qbg

open Lldpad.Lib
open Lldpad.Lldp (Bytes)
open Lldpad.Clif (CmdErr invalidTlvid)
open Lldpad.Clif.InPlace (CmdHead)
open Lldpad.Basman (str2mac mac2str)

/-! ### A line -/

/-- The bytes that the loop of `str2instance` takes from a string. It goes on two characters after a
byte, whatever `sscanf` took, and one character after anything else. -/
def instanceBytes : CStr → Bytes
  | [] => []
  | [c] =>
    if c = '-' then []
    else match scanHexByte [c] with
      | none => []
      | some (b, _) => [b]
  | c :: d :: s =>
    if c = '-' then instanceBytes (d :: s)
    else match scanHexByte (c :: d :: s) with
      | none => instanceBytes (d :: s)
      | some (b, _) => b :: instanceBytes s

/-- `str2instance`. The bytes go to the array one after the other, and nothing stops them at its
end. -/
def str2instance (old : Octets 16) (buffer : CStr) : Except Fault (Octets 16) :=
  if h : (instanceBytes buffer).length ≤ 16 then
    .ok ⟨instanceBytes buffer ++ old.bytes.drop (instanceBytes buffer).length, by
      rw [List.length_append, List.length_drop, old.length_eq]
      omega⟩
  else .error .outOfBounds

/-- The fields of a line before its pairs -/
inductive ModeField where
  | mode
  | mgrid
  | typeid
  | typeidversion
  | instanceid
  | format
  deriving DecidableEq, Repr

/-- `MODE` to `FORMAT` -/
def modeFields : List ModeField :=
  [.mode, .mgrid, .typeid, .typeidversion, .instanceid, .format]

def vdpFillProfile (profile : VdpProfile) (field : ModeField) (buffer : CStr) :
    Except Fault VdpProfile :=
  match field with
  | .mode => .ok { profile with mode := .ofInt (atoi buffer) }
  | .mgrid => .ok { profile with mgrid := .ofInt (atoi buffer) }
  | .typeid => .ok { profile with id := .ofInt (atoi buffer) }
  | .typeidversion => .ok { profile with version := .ofInt (atoi buffer) }
  | .instanceid => (str2instance profile.instanceId buffer).map fun i =>
      { profile with instanceId := i }
  | .format => .ok { profile with format := .ofInt (atoi buffer) }

/-- A MAC address in the form that `str2mac` gives it -/
def octetsOfMac (mac : Vector UInt8 6) : MacAddr := ⟨mac.toList, mac.length_toList⟩

/-- The pairs of a line. Each goes to the head of the list. -/
def addMacvlans (profile : VdpProfile) : List CStr → Option VdpProfile
  | [] => some profile
  | [_] => none
  | mac :: vlan :: rest => do
    let mac ← str2mac mac
    addMacvlans
      { profile with
        macvid := { mac := octetsOfMac mac, vlan := .ofInt (atoi vlan) } :: profile.macvid } rest

/-- The tokens of a line -/
def lineTokens (argvalue : CStr) : List CStr := (tokens ',' argvalue).map Token.text

/-- `vdp_parse_mode_line`. In `Lldpad.Qbg.VdpSystem` it starts from what the line says. -/
def VdpCmds.vdpParseModeLine (argvalue : CStr) : Except Fault (Option VdpProfile) := do
  let parsed := lineTokens argvalue
  let profile ← (modeFields.zip parsed).foldlM (fun p f => vdpFillProfile p f.1 f.2) {}
  if parsed.length < modeFields.length then pure none
  else pure (addMacvlans profile (parsed.drop modeFields.length))

/-! ### A listing -/

/-- The number of a state -/
def VsiState.code : VsiState → Nat
  | .unassociated => 0
  | .assocProcessing => 1
  | .associated => 2
  | .preassocProcessing => 3
  | .preassociated => 4
  | .deassocProcessing => 5
  | .exit => 6

/-- A MAC address in the form that `mac2str` takes -/
def macOfOctets (mac : MacAddr) : Vector UInt8 6 := ⟨mac.bytes.toArray, mac.length_eq⟩

/-- The fields of a profile as `print_mode` writes them -/
def headTexts (p : VdpProfile) : List CStr :=
  [decimal p.state.code, decimal p.mgrid.toNat, decimal p.id.toInt32.toInt, decimal p.version.toNat,
    vdpUuid2str p.instanceId, decimal p.format.toNat]

def pairTexts (mv : MacVlan) : List CStr := [mac2str (macOfOctets mv.mac), decimal mv.vlan.toNat]

/-- What `print_mode` writes with one `snprintf` each -/
def profilePieces (p : VdpProfile) : List CStr :=
  [','].intercalate (headTexts p) :: p.macvid.map fun mv => ',' :: [','].intercalate (pairTexts mv)

/-- A profile as `print_mode` writes it with room for all of it -/
def profileText (p : VdpProfile) : CStr := (profilePieces p).flatten

/-- Pieces with this much room: the text, or in the error case what is written of it -/
def printPieces (room : Nat) : List CStr → Except CStr CStr
  | [] => .ok []
  | piece :: pieces =>
    match snprintf room piece with
    | .error cut => .error cut
    | .ok piece =>
      match printPieces (room - piece.length) pieces with
      | .ok text => .ok (piece ++ text)
      | .error cut => .error (piece ++ cut)

/-- `print_mode`. In the error case the caller goes on at the place where the profile starts. -/
def printMode (room : Nat) (p : VdpProfile) : Except CStr CStr := printPieces room (profilePieces p)

/-- `mode_str` of `get_arg_mode`: what is before `t`, and what stands behind it up to the NUL -/
structure ModeStr where
  done : CStr
  left : CStr
  deriving DecidableEq, Repr

def vdpBufSize : Nat := 256

/-- One turn of the loop of `get_arg_mode` -/
def ModeStr.add (m : ModeStr) (p : VdpProfile) : ModeStr :=
  match printMode (vdpBufSize - m.done.length) p with
  | .ok text => { done := m.done ++ text, left := [] }
  | .error cut => { m with left := cut }

/-- `mode_str` after the loop -/
def modeStr (profiles : List VdpProfile) : ModeStr :=
  profiles.foldl ModeStr.add { done := [], left := [] }

/-- `LLDP_MOD_VDP` with `LLDP_VDP_SUBTYPE` -/
def vdpTlvid : Nat := 0x1b4002

/-- `get_arg_mode`, where `vd` has the profiles of the interface and `obufLen` is `obuf_len`. What
does not fit is cut off. -/
def getArgMode (cmd : CmdHead) (vd : Option (List VdpProfile)) (arg : CStr) (obufLen : Nat) :
    Except CmdErr CStr :=
  -- cmd_gettlv
  if cmd.cmd ≠ 1 then .error .invalid
  else if cmd.tlvid = vdpTlvid then
    match vd with
    | none => .error .deviceNotFound
    | some profiles =>
      let m := modeStr profiles
      match snprintf obufLen (keyText arg ++ valueText (m.done ++ m.left)) with
      | .ok obuf => .ok obuf
      | .error obuf => .ok obuf
  else if cmd.tlvid = invalidTlvid then .error .invalid
  else .error .notApplicable

end Lldpad.Qbg
