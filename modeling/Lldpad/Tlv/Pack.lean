import Lldpad.Lib.Fault
import Lldpad.Lldp.Types

/-!
# `Lldpad.Tlv.Pack`: TLVs in memory and on the wire

`lldp_tlv.c`. An unpacked TLV has its type and its length beside its information, a packed one is
a block of bytes with a header of two bytes: seven bits of type and nine bits of length.

Memory does not run out. A write behind the end of a block stops the program.
-/

namespace Lldpad.Tlv

open Lldpad.Lib
open Lldpad.Lldp (Bytes)

/-! ### The two forms of a TLV -/

/-- `struct unpacked_tlv`. The information has as many bytes as the length says. -/
structure UnpackedTlv where
  type : UInt8
  length : UInt16
  info : Bytes
  info_length : info.length = length.toNat
  deriving DecidableEq

/-- `struct packed_tlv`: a block of bytes, of which the first `size` are in use -/
structure PackedTlv where
  size : UInt16
  tlv : Bytes
  deriving DecidableEq

/-- The header of a TLV: `tl`, in host order -/
def packHeader (type : UInt8) (length : UInt16) : UInt16 :=
  type.toUInt16 <<< 9 ||| length &&& 0x01ff

/-- `htons`, and the two bytes it leaves in memory -/
def htons (x : UInt16) : Bytes := [(x >>> 8).toUInt8, x.toUInt8]

/-- `ntohs` of the first two bytes of a block -/
def ntohs (tlv : Bytes) : UInt16 := (tlv.getD 0 0).toUInt16 <<< 8 ||| (tlv.getD 1 0).toUInt16

/-- `memcpy(&buf[i], bytes, ...)` -/
def copyTo (buf : Bytes) (i : Nat) (bytes : Bytes) : Except Fault Bytes :=
  if i + bytes.length ≤ buf.length then
    .ok (buf.take i ++ bytes ++ buf.drop (i + bytes.length))
  else .error .outOfBounds

/-! ### Packing -/

def tlvOk (tlv : UnpackedTlv) : Bool := !(tlv.length = 0 && tlv.type ≠ 0)

/-- The information goes behind the header, if there is any. -/
def copyInfo (tlv : UnpackedTlv) (block : Bytes) : Except Fault Bytes :=
  if tlv.length ≠ 0 then copyTo block 2 tlv.info else .ok block

/-- `pack_tlv`. The size of the block is a `u16`. -/
def packTlv (tlv : UnpackedTlv) : Except Fault (Option PackedTlv) :=
  if tlvOk tlv then do
    let block ← copyTo (List.replicate (tlv.length + 2).toNat 0) 0
      (htons (packHeader tlv.type tlv.length))
    let block ← copyInfo tlv block
    pure (some { size := tlv.length + 2, tlv := block })
  else .ok none

/-- `pack_tlv_after`: the answer, and the block that the TLV was put into -/
def packTlvAfter (tlv : Option UnpackedTlv) (mtlv : PackedTlv) (length : Int) :
    Except Fault (Int × PackedTlv) :=
  match tlv with
  | none => .ok (0, mtlv)
  | some tlv =>
    if tlvOk tlv then do
      match ← packTlv tlv with
      | none => pure (-1, mtlv)
      | some ptlv =>
        if (ptlv.size.toNat : Int) + mtlv.size.toNat > length then pure (-1, mtlv)
        else do
          let block ← copyTo mtlv.tlv mtlv.size.toNat ptlv.tlv
          pure (0, { size := mtlv.size + ptlv.size, tlv := block })
    else .ok (-1, mtlv)

def unpackTlv (tlv : PackedTlv) : Except Fault UnpackedTlv :=
  let tl := ntohs tlv.tlv
  let length := tl &&& 0x01ff
  if h : 2 + length.toNat ≤ tlv.tlv.length then
    .ok
      { type := (tl >>> 9).toUInt8
        length := length
        info := (tlv.tlv.drop 2).take length.toNat
        info_length := by
          rw [List.length_take, List.length_drop]
          omega }
  else .error .outOfBounds

end Lldpad.Tlv
