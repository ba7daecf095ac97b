import Lldpad.Lib.Spans
import Lldpad.Qbg.Evb
import Lldpad.Qbg.Evb22
import Lldpad.Lldp.Modules
import Lldpad.Tlv.Pack

/-!
# `Lldpad.Qbg.EvbRx`: an EVB TLV on its way into the data of the module

`evb22_rchange` (`lldp_evb22.c`) and `evb_rchange` (`lldp_evb.c`) copy a received TLV into the
middle of a structure, by the length that the sender gave it. Here the structure is the block of
bytes that it is in memory. `Lldpad.Qbg.Evb22` and `Lldpad.Qbg.Evb` have its values.

`struct evb22_data` and `struct evb_data` have the same members in the same order, around TLVs of
two sizes. A write behind the end of the structure stops the program.
-/

namespace Lldpad.Qbg

open Lldpad.Lib
open Lldpad.Lldp (Bytes AgentType Answer)
open Lldpad.Tlv (UnpackedTlv)

/-! ### The structure in memory -/

/-- What one of the two modules is made of: the size of its TLV, what its TLVs begin with, and
what it sends when the TLV that it sent, the one that was received last and the policy are
given -/
structure EvbKind where
  size : Nat
  ouiSubtype : Bytes
  length_ouiSubtype : ouiSubtype.length = 4
  updateTlv : Bytes → Bytes → Bytes → Bytes
  length_updateTlv : ∀ sent last policy, (updateTlv sent last policy).length = size

namespace EvbKind

variable (k : EvbKind)

/-- Behind `ifname` and `agenttype` -/
def txmit : Nat := 20

/-- `out`, or `tie`; `vdp_start` is before it. -/
def sent : Span := { start := 22, len := k.size }

def last : Span := { start := k.sent.stop, len := k.size }

def policy : Span := { start := k.last.stop, len := k.size }

/-- `entry`, which stands at a multiple of eight -/
def entry : Span := { start := (k.policy.stop + 7) / 8 * 8, len := 16 }

end EvbKind

/-- `struct evb22_data`, or `struct evb_data` -/
structure EvbMemory (k : EvbKind) where
  bytes : Bytes
  length_bytes : bytes.length = k.entry.stop

/-! ### The reception -/

/-- `memcpy(&ed->last, tlv->info, tlv->length)` -/
def copyLast (k : EvbKind) (ed : Bytes) (tlv : UnpackedTlv) : Except Fault Bytes := do
  let info ← sliceAt tlv.info 0 tlv.length.toNat
  writeAt ed k.last.start info.val

/-- The sent TLV is brought up to date. -/
def updateSent (k : EvbKind) (ed : Bytes) : Except Fault Bytes :=
  writeAt ed k.sent.start
    (k.updateTlv (k.sent.text ed) (k.last.text ed) (k.policy.text ed))

/-- What a reception leaves: the answer, the structure after the copy if there was one, and the
structure at the end -/
structure Received where
  answer : Answer
  copied : Option Bytes
  ed : Option Bytes
  deriving DecidableEq

/-- `evb22_rchange` and `evb_rchange`, for an agent whose data is `ed` -/
def evbRchange (k : EvbKind) (type : AgentType) (ed : Option Bytes) (tlv : UnpackedTlv) :
    Except Fault Received :=
  let leave (answer : Answer) : Except Fault Received :=
    .ok { answer := answer, copied := none, ed := ed }
  if type ≠ .nearestCustomerBridge then leave .tlvOk
  else
    match ed with
    | none => leave .subtypeInvalid
    | some bytes =>
      if tlv.type ≠ 127 then leave .tlvOk
      else if tlv.length.toNat < k.ouiSubtype.length then leave .tlvErr
      else if tlv.info.take k.ouiSubtype.length ≠ k.ouiSubtype then leave .subtypeInvalid
      -- rx is disabled if tx has been disabled by the administrator
      else if bytes.getD EvbKind.txmit 0 = 0 then leave .tlvOk
      else do
        let copied ← copyLast k bytes tlv
        let updated ← updateSent k copied
        pure { answer := .tlvOk, copied := some copied, ed := some updated }

/-! ### The two modules -/

namespace Evb22

/-- `struct evb22_tlv` from its bytes -/
def Evb22Tlv.ofBytes (b : Bytes) : Evb22Tlv where
  oui := (b.getD 0 0, b.getD 1 0, b.getD 2 0)
  sub := b.getD 3 0
  bridgeS := b.getD 4 0
  stationS := b.getD 5 0
  rRte := b.getD 6 0
  evbMode := b.getD 7 0
  rlRka := b.getD 8 0

/-- The bytes of `struct evb22_tlv` -/
def Evb22Tlv.toBytes (t : Evb22Tlv) : Bytes :=
  [t.oui.1, t.oui.2.1, t.oui.2.2, t.sub, t.bridgeS, t.stationS, t.rRte, t.evbMode, t.rlRka]

/-- The values of a structure with its TLVs in bytes -/
def dataOf (txmit : UInt8) (sent last policy : Bytes) : Evb22Data where
  txmit := txmit != 0
  out := .ofBytes sent
  last := .ofBytes last
  policy := .ofBytes policy

/-- `lldp_evb22.c`. What `evb22_update_tlv` makes of the sent TLV does not depend on `txmit`. -/
def kind : EvbKind where
  size := 9
  ouiSubtype := [0x00, 0x80, 0xc2, 0x0d]
  length_ouiSubtype := rfl
  updateTlv sent last policy := (updatedTlv (dataOf 1 sent last policy)).out.toBytes
  length_updateTlv _ _ _ := rfl

/-- `evb22_rchange` -/
def rchange : AgentType → Option Bytes → UnpackedTlv → Except Fault Received := evbRchange kind

end Evb22

namespace Evb

/-- A number that the source reads with `ntohs` -/
def word (b : Bytes) (i : Nat) : UInt16 := Tlv.ntohs (b.drop i)

/-- `struct tlv_info_evb` from its bytes -/
def TlvInfoEvb.ofBytes (b : Bytes) : TlvInfoEvb where
  smode := b.getD 4 0
  scap := b.getD 5 0
  cmode := b.getD 6 0
  ccap := b.getD 7 0
  svsi := word b 8
  cvsi := word b 10
  rte := b.getD 12 0

/-- The bytes of `struct tlv_info_evb` behind its OUI and subtype -/
def TlvInfoEvb.toBytes (t : TlvInfoEvb) : Bytes :=
  [t.smode, t.scap, t.cmode, t.ccap] ++ Tlv.htons t.svsi ++ Tlv.htons t.cvsi ++ [t.rte]

/-- The values of a structure with its TLVs in bytes -/
def dataOf (txmit : UInt8) (sent last policy : Bytes) : EvbData where
  txmit := txmit != 0
  tie := .ofBytes sent
  last := last
  policy := .ofBytes policy

/-- The OUI and the subtype of a TLV -/
def headOf (b : Bytes) : Bytes := [b.getD 0 0, b.getD 1 0, b.getD 2 0, b.getD 3 0]

/-- `lldp_evb.c`, where `vsis` is what `vdp_vsis` says. What `evb_update_tlv` makes of the sent TLV
does not depend on `txmit`. -/
def kind (vsis : Nat) : EvbKind where
  size := tlvInfoEvbSz
  ouiSubtype := ouiSubtype
  length_ouiSubtype := rfl
  updateTlv sent last policy :=
    headOf sent ++ (evbUpdateTlv vsis (dataOf 1 sent last policy)).tie.toBytes
  length_updateTlv _ _ _ := rfl

/-- `evb_rchange` -/
def rchange (vsis : Nat) :
    AgentType → Option Bytes → UnpackedTlv → Except Fault Received :=
  Qbg.evbRchange (kind vsis)

end Evb

end Lldpad.Qbg
