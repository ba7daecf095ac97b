import Lldpad.Clif.Reply
import Lldpad.Lldp.Tx

/-!
# `Lldpad.Clif.TlvDump`: the TLVs of a stored frame as hexadecimal text

`get_tlvs` of `lldp_mand_cmds.c`, with `get_neighbor_tlvs` of `lldp/ports.c`, and `print_tlvs` and
`get_tlvid` of `lldptool_cmds.c`. `Lldpad.Lldp.Tx` has `get_local_tlvs`.

The bytes of two words that `memcpy` copies may overlap, and are copied as `memmove` does it. The
reply buffer is empty at first. The client prints what the modules make of a TLV; here it is what
they are given.
-/

namespace Lldpad.Clif

open Lldpad.Lib
open Lldpad.Lldp (Bytes AgentType LldpAgent CmdStatus getLocalTlvs ethHlen)

/-! ### The daemon -/

/-- The fields of `struct cmd` that `get_tlvs` looks at -/
structure TlvQuery where
  opLocal : Bool
  opNeighbor : Bool
  type : AgentType
  tlvid : Nat
  deriving DecidableEq, Repr

def getNeighborTlvs (agents : List LldpAgent) (type : AgentType) : CmdStatus × Int × Bytes :=
  match agents.find? fun a => a.type = type with
  | none => (.agentNotFound, 0, [])
  | some a =>
    match a.rx.framein with
    | none => (.success, 0, [])
    | some framein =>
      let size : Int := framein.size - ethHlen
      if size < 0 then (.invalid, size, []) else (.success, size, framein.bytes.drop ethHlen)

/-- The length of `tlvs` -/
def tlvsLen : Nat := 2048

/-- The id of the TLV at a place, and its length. The id is the type, or the OUI and subtype. -/
def tlvHead : Bytes → Except Fault (Nat × Nat)
  | a :: b :: info =>
    if beNat [a, b] / 512 < invalidTlvid then .ok (beNat [a, b] / 512, beNat [a, b] % 512)
    else if 4 ≤ info.length then .ok (beNat (info.take 4), beNat [a, b] % 512)
    else .error .outOfBounds
  | _ => .error .outOfBounds

/-- `tlvs` while the TLVs that match are moved to the front -/
structure TlvFilter where
  tlvs : Bytes
  off : Nat
  moff : Nat

/-- One pass of the loop of `get_tlvs` -/
def filterPass (tlvid size : Nat) (s : TlvFilter) : Except Fault (Pass TlvFilter TlvFilter) :=
  if s.off < size then do
    let (id, len) ← tlvHead (s.tlvs.drop s.off)
    if id = tlvid then do
      let tlv ← sliceAt s.tlvs s.off (2 + len)
      let tlvs ← writeAt s.tlvs s.moff tlv.val
      pure (.again { tlvs, off := s.off + (2 + len), moff := s.moff + (2 + len) })
    else pure (.again { s with off := s.off + (2 + len) })
  else pure (.leave s)

/-- The loop that prints. `snprintf` is given the room behind the text that is there, but it writes
at twice the number of the byte. -/
def hexLoop (rlen : Nat) : Nat → CStr → Bytes → Except Fault CStr
  | _, rbuf, [] => .ok rbuf
  | i, rbuf, b :: tlvs =>
    if rlen ≤ 2 * i ∧ rbuf.length < rlen then .error .outOfBounds
    else
      hexLoop rlen (i + 1)
        (rbuf.take (2 * i) ++ (hexField 2 b.toNat).take (rlen - rbuf.length - 1)) tlvs

/-- `get_tlvs` from the bytes of the frame on, where `stack` is in `tlvs` at first -/
def dumpTlvs (tlvid : Nat) (stack : Vector UInt8 tlvsLen) (rlen : Nat) (bytes : Bytes) :
    Except Fault CStr :=
  if bytes.length ≤ tlvsLen then
    if tlvid = invalidTlvid then hexLoop rlen 0 [] bytes
    else do
      let tlvs := bytes ++ stack.toList.drop bytes.length
      let s ← iterate (filterPass tlvid bytes.length) (bytes.length + 1)
        { tlvs, off := 0, moff := 0 }
      hexLoop rlen 0 [] (s.tlvs.take s.moff)
  else .error .outOfBounds

/-- `OUI_IEEE_8021Qbg` without a subtype -/
def vdpDraftTlvid : Nat := 0x001b3f00

def getTlvs (q : TlvQuery) (agents : List LldpAgent) (stack : Vector UInt8 tlvsLen) (rlen : Nat) :
    Except Fault (Except CmdErr CStr) := do
  if q.tlvid = vdpDraftTlvid ∧ q.type ≠ .nearestCustomerBridge then
    pure (.error .agentNotSupported)
  else if q.opLocal = false ∧ q.opNeighbor = false then pure (.error .failed)
  else
    let res ← if q.opLocal then getLocalTlvs agents q.type
      else pure (getNeighborTlvs agents q.type)
    match res with
    | (.agentNotFound, _, _) => pure (.error .agentNotFound)
    | (.invalid, _, _) => pure (.error .invalid)
    | (.success, _, bytes) => .ok <$> dumpTlvs q.tlvid stack rlen bytes

/-! ### The client -/

/-- What the modules are given to print a TLV -/
structure PrintedTlv where
  tlvid : Nat
  tlvLen : Nat
  info : CStr
  deriving DecidableEq, Repr

/-- `print_tlvs` of an answer that is no configuration: the TLVs, and whether a corrupted one ends
them. `oldType` and `oldId` are in the variables where the digits end. -/
def printTlvs (oldType oldId : Nat) : Nat → CStr → Except Fault (List PrintedTlv × Bool)
  | 0, _ => .error .outOfFuel
  | fuel + 1, ibuf =>
    if ibuf.length = 0 then .ok ([], false)
    else if ibuf.length < 4 then .ok ([], true)
    else
      let word := hexNat 2 ibuf oldType
      let info := ibuf.drop 4
      let len := word % 512
      if info.length < 2 * len then .ok ([], true)
      else
        let tlvid := if word / 512 < invalidTlvid then word / 512 else hexNat 4 info oldId
        if invalidTlvid < tlvid ∧ info.length < 8 then .error .outOfBounds
        else
          let printed : PrintedTlv :=
            { tlvid, tlvLen := len
              info := (info.take (2 * len)).drop (if invalidTlvid < tlvid then 8 else 0) }
          -- END_OF_LLDPDU_TLV
          if tlvid = 0 then .ok ([printed], false)
          else do
            let rest ← printTlvs oldType oldId fuel (info.drop (2 * len))
            pure (printed :: rest.1, rest.2)

end Lldpad.Clif
