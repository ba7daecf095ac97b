import Lldpad.Lib.Buffer
import Lldpad.Qbg.Vdp22

/-!
# `Lldpad.Qbg.Vdp22Tlv`: the TLVs of VDP

The packed TLVs of `qbg/vdp22sm.c`. `mgr22ToTlv` and `vsi22ToTlv` write them, `ptlvToVsi22`
reads them. A reader takes the memory from the start of the message on and an offset in it.
It stops with `Fault.outOfBounds` at the end of the memory that it is given.

The name of a source function like `vsi22_2tlv` is spelled out: `vsi22ToTlv`.
-/

namespace Lldpad.Qbg

open Lldpad.Lib
open Lldpad.Lldp (Bytes ethAlen)

/-! ### Sizes and headers -/

def mgr22TlvSz : Nat := 16

def mgr22PtlvSz : Nat := 2 + mgr22TlvSz

def vsi22FdataSz (fif : UInt8) : Nat :=
  if fif = vdp22FfmtVid then 2
  else if fif = vdp22FfmtMacvid then 8
  else if fif = vdp22FfmtGroupvid then 6
  else if fif = vdp22FfmtGroupmacvid then 12
  else 0

/-- `vsi22_tlv_sz`, for `no_fdata` entries of the format `fif` -/
def vsi22TlvSz (noFdata : Nat) (fif : UInt8) : Nat := 23 + 2 + noFdata * vsi22FdataSz fif

def vsi22PtlvSz (noFdata : Nat) (fif : UInt8) : Nat := 2 + vsi22TlvSz noFdata fif

/-- `ptlv_head`. The length is an `unsigned short`. -/
def ptlvHead (type : UInt8) (len : Nat) : UInt16 :=
  ((type.toUInt16 &&& 0x7f : UInt16) <<< (9 : UInt16)) ||| (UInt16.ofNat len &&& 0x1ff : UInt16)

def ptlvLength (header : UInt16) : Nat := 2 + (header &&& 0x1ff : UInt16).toNat

def ptlvType (header : UInt16) : UInt8 := ((header >>> 9) &&& 0x7f : UInt16).toUInt8

/-! ### Writing -/

def append2o (data : UInt16) : Bytes := [(data >>> 8).toUInt8, data.toUInt8]

def append3o (data : UInt64) : Bytes :=
  [(data >>> 16).toUInt8, (data >>> 8).toUInt8, data.toUInt8]

def append4o (data : UInt64) : Bytes :=
  [(data >>> 24).toUInt8, (data >>> 16).toUInt8, (data >>> 8).toUInt8, data.toUInt8]

/-- `vsi22_2tlv_fdata` -/
def vsi22ToTlvFdata (p : Fid22) (fif : UInt8) : Bytes :=
  if fif = vdp22FfmtVid then append2o p.vlan
  else if fif = vdp22FfmtMacvid then p.mac.bytes ++ append2o p.vlan
  else if fif = vdp22FfmtGroupvid then append4o p.grpid ++ append2o p.vlan
  else if fif = vdp22FfmtGroupmacvid then append4o p.grpid ++ p.mac.bytes ++ append2o p.vlan
  else []

/-- `vsi22_2tlv` -/
def vsi22ToTlv (vp : Vsi22) (stat : UInt8) : Bytes :=
  append2o (ptlvHead vp.vsiMode (vsi22TlvSz vp.fdata.length vp.fif)) ++
    ([stat] ++ append3o vp.typeId ++ [vp.typeVer] ++ [vp.vsiFmt] ++ vp.vsi.bytes ++ [vp.fif] ++
      append2o (UInt16.ofNat vp.fdata.length)) ++
    vp.fdata.flatMap (vsi22ToTlvFdata · vp.fif)

/-- `mgr22_2tlv` -/
def mgr22ToTlv (vp : Vsi22) : Bytes := append2o (ptlvHead vdp22Mgrid mgr22TlvSz) ++ vp.mgrid.bytes

/-! ### Reading -/

def extract1o (mem : Bytes) (i : Nat) : Except Fault UInt8 := readAt mem i

def extract2o (mem : Bytes) (i : Nat) : Except Fault UInt16 := do
  let a ← readAt mem i
  let b ← readAt mem (i + 1)
  pure ((a.toUInt16 <<< 8 : UInt16) ||| b.toUInt16)

def extract3o (mem : Bytes) (i : Nat) : Except Fault UInt64 := do
  let a ← readAt mem i
  let b ← readAt mem (i + 1)
  let c ← readAt mem (i + 2)
  pure ((a.toUInt64 <<< 16 : UInt64) ||| (b.toUInt64 <<< 8 : UInt64) ||| c.toUInt64)

/-- An `int` of 32 bits as an `unsigned long`: its sign bit is extended. -/
def signExtend (x : UInt64) : UInt64 :=
  if x < 0x80000000 then x else x ||| 0xffffffff00000000

/-- `extract_4o`. The bytes are put together in an `int`. -/
def extract4o (mem : Bytes) (i : Nat) : Except Fault UInt64 := do
  let a ← readAt mem i
  let b ← readAt mem (i + 1)
  let c ← readAt mem (i + 2)
  let d ← readAt mem (i + 3)
  pure (signExtend ((a.toUInt64 <<< 24 : UInt64) ||| (b.toUInt64 <<< 16 : UInt64)
    ||| (c.toUInt64 <<< 8 : UInt64) ||| d.toUInt64))

/-- `extract_no` into a field of `n` bytes -/
def extractNo (mem : Bytes) (i n : Nat) : Except Fault (Octets n) := do
  let x ← sliceAt mem i n
  pure ⟨x.1, x.2⟩

/-- An address that was copied out of a buffer -/
def MacAddr.ofSlice (mac : { xs : Bytes // xs.length = ethAlen }) : MacAddr := ⟨mac.1, mac.2⟩

/-- `ptlv_2_fdata`: the entry at offset `i` -/
def ptlvToFdata (mem : Bytes) (i : Nat) (ffmt : UInt8) : Except Fault Fid22 :=
  if ffmt = vdp22FfmtVid then do
    let vlan ← extract2o mem i
    pure { vlan := vlan }
  else if ffmt = vdp22FfmtMacvid then do
    let mac ← sliceAt mem i ethAlen
    let vlan ← extract2o mem (i + ethAlen)
    pure { mac := .ofSlice mac, vlan := vlan }
  else if ffmt = vdp22FfmtGroupvid then do
    let grpid ← extract4o mem i
    let vlan ← extract2o mem (i + 4)
    pure { grpid := grpid, vlan := vlan }
  else if ffmt = vdp22FfmtGroupmacvid then do
    let grpid ← extract4o mem i
    let mac ← sliceAt mem (i + 4) ethAlen
    let vlan ← extract2o mem (i + (4 + ethAlen))
    pure { grpid := grpid, mac := .ofSlice mac, vlan := vlan }
  else pure {}

/-- The loop of `ptlv_2_vsi22` over the filter entries. `ptlv_2_fdata` returns the size of
the entry. -/
def ptlvToFdatas (mem : Bytes) (ffmt : UInt8) : Nat → Nat → Except Fault (List Fid22)
  | 0, _ => pure []
  | n + 1, i => do
    let fid ← ptlvToFdata mem i ffmt
    let fids ← ptlvToFdatas mem ffmt n (i + vsi22FdataSz ffmt)
    pure (fid :: fids)

/-- `enum vdp22_role` -/
inductive Vdp22Role where
  | bridge
  | station
  deriving DecidableEq, Repr

def responseOk (myrole : Vdp22Role) (vsip : Vsi22) : Bool :=
  match myrole with
  | .bridge => vsip.status &&& vdp22Ackbit == 0
  | .station => vsip.status &&& vdp22Ackbit != 0 || vsip.vsiMode == vdp22Deassoc

/-- The header of the packed TLV at an offset. -/
def ptlvAt (mem : Bytes) (ptlv : Nat) : Except Fault UInt16 := extract2o mem ptlv

/-- The fixed part of a VSI TLV: the node with the fields that stand in it, and the number of
filter entries that it announces. -/
def ptlvToVsi22Fixed (mem : Bytes) (ptlv : Nat) (vsip : Vsi22) : Except Fault (Vsi22 × UInt16) := do
  let cp := ptlv + 2
  let status ← extract1o mem cp
  let typeId ← extract3o mem (cp + 1)
  let typeVer ← extract1o mem (cp + 4)
  let vsiFmt ← extract1o mem (cp + 5)
  let vsi ← extractNo mem (cp + 6) 16
  let fif ← extract1o mem (cp + 22)
  let noFdata ← extract2o mem (cp + 23)
  pure ({ vsip with
    status := status
    typeId := typeId
    typeVer := typeVer
    vsiFmt := vsiFmt
    vsi := vsi
    fif := fif }, noFdata)

/-- `ptlv_2_vsi22` up to the call of the state machine, and whether it is called -/
def ptlvToVsi22 (myrole : Vdp22Role) (mem : Bytes) (ptlv : Nat) (vsip : Vsi22) :
    Except Fault (Vsi22 × Bool) := do
  let x ← ptlvToVsi22Fixed mem ptlv vsip
  let head ← ptlvAt mem ptlv
  if ptlvLength head = vsi22PtlvSz x.2.toNat x.1.fif ∧ x.2 ≠ 0 ∧ responseOk myrole x.1 then do
    let fid ← ptlvToFdatas mem x.1.fif x.2.toNat (ptlv + 2 + 25)
    pure ({ x.1 with fdata := fid }, true)
  else pure (x.1, false)

end Lldpad.Qbg
