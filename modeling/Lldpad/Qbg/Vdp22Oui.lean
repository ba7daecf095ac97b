import Lldpad.Lib.Pieces
import Lldpad.Qbg.Vdp22System

/-!
# `Lldpad.Qbg.Vdp22Oui`: the OUI data of a VSI

The OUI part of `qbg/vdp22sm.c` and `qbg/vdp22cisco_oui.c`: organizations register handlers, and
a VSI may have OUI data of any of them. `vdp22_addreq` hands new data to the handlers, and
`vdp22st_process` sends the data behind the VSI TLV.

`Vdp22OuiCtx` is an interface with the OUI data of its nodes beside it. Its events are those of
`vdp22System`, and a request comes with its OUI data as the handlers allocated it. Memory is
always available, so no data is missing.

A handler is a parameter. `Vdp22OuiHandler` has the functions that are used here, and as fields
what the interface asks for: the transmit function writes as many bytes as the size function
announced, and answers with their number or with the position that it reached.
-/

namespace Lldpad.Qbg

open Lldpad.Lib
open Lldpad.Lldp (Bytes)

/-- `struct vdp22_oui_data_s`. `δ` is what `data` points to. -/
structure Vdp22OuiData (δ : Type) where
  ouiName : Bytes
  data : δ
  deriving DecidableEq

/-- `struct vdp22_oui_handler_s` -/
structure Vdp22OuiHandler (δ : Type) where
  /-- `vsi22_mod_hndlr`: the request's data, the data of the VSI and what becomes of it -/
  vsi22ModHndlr : δ → δ → δ × Bool
  /-- `vdp_tx_hndlr`, with the message, the position of `cp` in it, and `offset` -/
  vdpTxHndlr : Vsi22 → Bytes → Nat → δ → Nat → Except Fault (Bytes × Nat)
  /-- `oui_ptlv_size_hndlr` -/
  ouiPtlvSizeHndlr : δ → Nat
  /-- the OUI fields -/
  fields : Vsi22 → δ → Bytes
  /-- the transmit function answers with the position that it reached -/
  absolute : Bool
  fields_length : ∀ v d, (fields v d).length = ouiPtlvSizeHndlr d
  tx_eq : ∀ v buf cp d offset, vdpTxHndlr v buf cp d offset = (do
    let buf ← writeAt buf (cp + offset) (fields v d)
    pure (buf, Piece.answer ⟨fields v d, absolute⟩ offset))

/-- The registered handlers: `vdp22_get_oui_hndlr` -/
abbrev OuiHandlers (δ : Type) := Bytes → Option (Vdp22OuiHandler δ)

variable {δ : Type}

/-! ### Sending -/

/-- What one entry adds to `oui22_ptlv_sz` -/
def ouiEntrySz (hs : OuiHandlers δ) (ouiStr : Vdp22OuiData δ) : Nat :=
  match hs ouiStr.ouiName with
  | none => 0
  | some ouiHndlr => ouiHndlr.ouiPtlvSizeHndlr ouiStr.data

def oui22PtlvSz (hs : OuiHandlers δ) (ouiStrData : List (Vdp22OuiData δ)) : Nat :=
  ouiStrData.foldl (fun size ouiStr => size + ouiEntrySz hs ouiStr) 0

/-- The loop of `oui22_2tlv` -/
def oui22ToTlvFrom (hs : OuiHandlers δ) (vp : Vsi22) (cp : Nat) :
    Nat → List (Vdp22OuiData δ) → Bytes → Except Fault Bytes
  | _, [], buf => .ok buf
  | offset, ouiStr :: rest, buf =>
    match hs ouiStr.ouiName with
    | none => oui22ToTlvFrom hs vp cp offset rest buf
    | some ouiHndlr => do
      let (buf, tempOffset) ← ouiHndlr.vdpTxHndlr vp buf cp ouiStr.data offset
      oui22ToTlvFrom hs vp cp (offset + tempOffset) rest buf

/-- `oui22_2tlv`, with the message and the position of `cp` in it -/
def oui22ToTlv (hs : OuiHandlers δ) (vp : Vsi22) (ouiStrData : List (Vdp22OuiData δ)) (buf : Bytes)
    (cp : Nat) : Except Fault Bytes := oui22ToTlvFrom hs vp cp 0 ouiStrData buf

/-- The length of the ECP payload in `vdp22st_process`, an `unsigned short` -/
def vdp22stProcessLen (hs : OuiHandlers δ) (vsi : Vsi22) (ouiStrData : List (Vdp22OuiData δ)) :
    UInt16 :=
  UInt16.ofNat (mgr22PtlvSz + vsi22PtlvSz vsi.fdata.length vsi.fif + oui22PtlvSz hs ouiStrData)

/-- The payload that `vdp22st_process` builds. The array is not initialized: the zeros stand for
anything, and `payload_eq` does not depend on them. -/
def vdp22stProcessBuf (hs : OuiHandlers δ) (vsi : Vsi22) (ouiStrData : List (Vdp22OuiData δ)) :
    Except Fault Bytes := do
  let buf := List.replicate (vdp22stProcessLen hs vsi ouiStrData).toNat 0
  let buf ← writeAt buf 0 (mgr22ToTlv vsi)
  let buf ← writeAt buf mgr22PtlvSz (vsi22ToTlv vsi vsi.hints)
  oui22ToTlv hs vsi ouiStrData buf (mgr22PtlvSz + vsi22PtlvSz vsi.fdata.length vsi.fif)

/-! ### Changing -/

/-- The inner loop of `vdp22_modoui`: the first entry with the name of `from'`, handed to its
handler. The handler is not checked, so an entry without one is an access through a null
pointer. -/
def ouiModFirst (hs : OuiHandlers δ) (from' : Vdp22OuiData δ) :
    List (Vdp22OuiData δ) → Option (Except Fault (List (Vdp22OuiData δ)))
  | [] => none
  | to' :: p =>
    if to'.ouiName = from'.ouiName then
      match hs to'.ouiName with
      | none => some (.error (.useAfterFree 0))
      | some ouiHndlr =>
        some (.ok ({ to' with data := (ouiHndlr.vsi22ModHndlr from'.data to'.data).1 } :: p))
    else (ouiModFirst hs from' p).map fun r => r.map (to' :: ·)

/-- `vdp22_modoui`: the entries of the VSI, and the entries of the request that were handed to a
handler. It returns behind the first one. -/
def vdp22Modoui (hs : OuiHandlers δ) (p : List (Vdp22OuiData δ)) :
    List (Vdp22OuiData δ) → Except Fault (List (Vdp22OuiData δ) × List (Vdp22OuiData δ))
  | [] => .ok (p, [])
  | from' :: rest =>
    match ouiModFirst hs from' p with
    | none => vdp22Modoui hs p rest
    | some r => do
      let p ← r
      pure (p, [from'])

/-! ### The interface -/

/-- An interface, and the OUI data of its nodes -/
structure Vdp22OuiCtx (δ : Type) where
  vdp : Vdp22Ctx
  /-- `oui_str_data` of each node -/
  oui : Nat → List (Vdp22OuiData δ) := fun _ => []

/-- A new node with its OUI data -/
def Vdp22OuiCtx.alloc (c : Vdp22OuiCtx δ) (v : Vsi22) (ouiStrData : List (Vdp22OuiData δ)) :
    Vdp22OuiCtx δ :=
  { vdp := c.vdp.alloc v, oui := Function.update c.oui c.vdp.next ouiStrData }

/-- `vdp22_addreq` on the new node `h`, with its answer and `modf_vsi` -/
def vdp22OuiAddreq (hs : OuiHandlers δ) (h : Nat) (c : Vdp22OuiCtx δ) :
    Except Fault (Vdp22OuiCtx δ × Int × Bool) :=
  let vdp := c.vdp
  let vsip := (vdp.nodes h).vsi
  if vsip.vsiMode > vdp22Deassoc ∨ vsip.vsiMode < vdp22Preassoc then .ok (c, errEinval, false)
  else
    match vdp22Findvsi vdp vsip with
    | none =>
      if vsip.vsiMode = vdp22Deassoc then .ok (c, errEinval, false)
      else do
        let vdp ← vdp22Addvsi h vdp
        pure ({ c with vdp := vdp.put h (vdp.nodes h).deref }, 0, false)
    | some p =>
      let x := vdp.nodes p
      if x.vsi.flags.busy then .ok (c, errEbusy, false)
      else if vdp22CmpFdata x.vsi vsip = false then
        .ok ({ c with vdp := vdp.put p { x with vsi := vdp22CmpStatus x.vsi vsip } },
          errEinval, false)
      else do
        let (ouiStrData, _) ← vdp22Modoui hs (c.oui p) (c.oui h)
        let (x, rc) ← vdp22Modvsi vdp.ecpRc vsip.vsiMode x
        pure ({ vdp := vdp.put p x, oui := Function.update c.oui p ouiStrData }, rc, true)

/-- `vdp22_request` from the new node on, with its answer: `vdp22_addreq`, and the node is deleted
where it was not put into the queue. -/
def vdp22OuiRequest (hs : OuiHandlers δ) (v : Vsi22) (ouiStrData : List (Vdp22OuiData δ))
    (c : Vdp22OuiCtx δ) : Except Fault (Vdp22OuiCtx δ × Int) := do
  let h := c.vdp.next
  let (c, rc, modf) ← vdp22OuiAddreq hs h (c.alloc v ouiStrData)
  pure (if rc ≠ 0 ∨ modf then
    { c with vdp := c.vdp.put h (vdp22DeleteVsi (c.vdp.nodes h)) } else c, rc)

/-- The node that `vdp22_request` allocates, if it gets that far -/
def vdp22RequestVsi (vsi : VdpnlVsi) (clif : Bool) (c : Vdp22Ctx) : Except Int Vsi22 :=
  if c.evbon = false then .error errEprotonosupport
  else if c.myrole = .bridge then .error errEopnotsupp
  else
    vdp22AllocVsiInt (if clif then vsi else { vsi with request := vsi.request + 1 }) c.gpid true

/-- What reaches an interface: a request with its OUI data, or anything else -/
inductive Vdp22OuiEvent (δ : Type) where
  | request (vsi : VdpnlVsi) (clif : Bool) (ouiStrData : List (Vdp22OuiData δ))
  | other (e : Vdp22Event)

/-- One event -/
def vdp22OuiStep (hs : OuiHandlers δ) (c : Vdp22OuiCtx δ) :
    Vdp22OuiEvent δ → Except Fault (Vdp22OuiCtx δ)
  | .request vsi clif ouiStrData =>
    match vdp22RequestVsi vsi clif c.vdp with
    | .error _ => .ok c
    | .ok v => do
      let (c, _) ← vdp22OuiRequest hs v ouiStrData c
      pure c
  | .other e => do
    let vdp ← vdp22Step c.vdp e
    pure { c with vdp := vdp }

/-- An interface with OUI data and everything that reaches it -/
def vdp22OuiSystem (hs : OuiHandlers δ) : System (Vdp22OuiCtx δ) (Vdp22OuiEvent δ) where
  init c := ∃ role, c = { vdp := vdp22Create role }
  step := vdp22OuiStep hs

/-! ### The handler of one organization -/

def vdp22OuiTypeLen : Nat := 3

def ciscoVmNameTlvLen : Nat := 35

def ciscoVmL3addrTlvLen : Nat := 20

def ciscoOuiNameSubtype : UInt8 := 0xf1

def ciscoOuiL3addrSubtype : UInt8 := 0xf2

def manaddrIpv4 : UInt16 := 1

def manaddrIpv6 : UInt16 := 2

theorem noAddr_ok : (0 : UInt16) = 0 ∧ (0 : UInt8) = 0 ∨
    (0 : UInt16) = manaddrIpv4 ∧ (0 : UInt8) = 4 :=
  .inl ⟨rfl, rfl⟩

/-- `vdp_cisco_oui_t`. `vm_name_len` is the length of `vmName`, which fits its array. The text
parser sets the family and the length of the address together, and it knows no address but an
IPv4 one. -/
structure VdpCiscoOui where
  uuid : Octets 16 := .zero 16
  uuidSet : Bool := false
  vmName : Bytes := []
  afi : UInt16 := 0
  vmAddrLen : UInt8 := 0
  /-- `l3_addr.ipv4_address`, in network order -/
  l3Addr : Octets 4 := .zero 4
  addr_ok : afi = 0 ∧ vmAddrLen = 0 ∨ afi = manaddrIpv4 ∧ vmAddrLen = 4 := by
    first | exact noAddr_ok | decide
  deriving DecidableEq

def ciscoVsi22ModHndlr (fromOui toOui : VdpCiscoOui) : VdpCiscoOui × Bool :=
  let toOui := if fromOui.vmName.length ≠ 0 then { toOui with vmName := fromOui.vmName } else toOui
  -- the UUID can be modified only if it is not set
  let toOui :=
    if toOui.uuidSet then toOui else { toOui with uuid := fromOui.uuid, uuidSet := true }
  let toOui :=
    if fromOui.vmAddrLen ≠ 0 then
      { toOui with
        vmAddrLen := fromOui.vmAddrLen
        afi := fromOui.afi
        l3Addr := fromOui.l3Addr
        addr_ok := fromOui.addr_ok }
    else toOui
  (toOui, true)

def ciscoVdpNameSubtlvLen (ptr : VdpCiscoOui) : Nat := ciscoVmNameTlvLen + ptr.vmName.length

def ciscoVdpL3addrSubtlvLen (ptr : VdpCiscoOui) : Nat := ciscoVmL3addrTlvLen + ptr.vmAddrLen.toNat

def ciscoVdpOuiPtlvsize (ptr : VdpCiscoOui) : Nat :=
  (if ptr.vmName.length ≠ 0 then 2 + vdp22OuiTypeLen + ciscoVdpNameSubtlvLen ptr else 0) +
    (if ptr.afi = manaddrIpv4 ∨ ptr.afi = manaddrIpv6 then
      2 + vdp22OuiTypeLen + ciscoVdpL3addrSubtlvLen ptr else 0)

/-- What `cisco_vdp22_gen_vmname` appends -/
def ciscoVdp22Vmname (vsi : Vsi22) (oui : VdpCiscoOui) : Bytes :=
  append2o (ptlvHead vdp22Oui (vdp22OuiTypeLen + ciscoVdpNameSubtlvLen oui)) ++ append3o 0xc ++
    [ciscoOuiNameSubtype] ++ [vsi.vsiFmt] ++ vsi.vsi.bytes ++ [vdp22IdUuid] ++ oui.uuid.bytes ++
    oui.vmName

/-- What `cisco_vdp22_gen_l3addr` appends -/
def ciscoVdp22L3addr (vsi : Vsi22) (oui : VdpCiscoOui) : Bytes :=
  append2o (ptlvHead vdp22Oui (vdp22OuiTypeLen + ciscoVdpL3addrSubtlvLen oui)) ++ append3o 0xc ++
    [ciscoOuiL3addrSubtype] ++ [vsi.vsiFmt] ++ vsi.vsi.bytes ++ append2o oui.afi ++
    (if oui.afi = manaddrIpv4 then oui.l3Addr.bytes else append4o 0)

/-- Bytes at `cp + offset`, and the offset behind them -/
def ciscoAppend (buf : Bytes) (cp offset : Nat) (bytes : Bytes) : Except Fault (Bytes × Nat) := do
  let buf ← writeAt buf (cp + offset) bytes
  pure (buf, offset + bytes.length)

def ciscoVdpTxHndlr (vsi : Vsi22) (buf : Bytes) (cp : Nat) (oui : VdpCiscoOui) (offset : Nat) :
    Except Fault (Bytes × Nat) := do
  let (buf, offset) ←
    if oui.vmName.length ≠ 0 then ciscoAppend buf cp offset (ciscoVdp22Vmname vsi oui)
    else pure (buf, offset)
  if oui.vmAddrLen ≠ 0 then ciscoAppend buf cp offset (ciscoVdp22L3addr vsi oui)
  else pure (buf, offset)

/-- All that `cisco_vdp_tx_hndlr` appends -/
def ciscoFields (vsi : Vsi22) (oui : VdpCiscoOui) : Bytes :=
  (if oui.vmName.length ≠ 0 then ciscoVdp22Vmname vsi oui else []) ++
    (if oui.vmAddrLen ≠ 0 then ciscoVdp22L3addr vsi oui else [])

theorem ciscoVdp22Vmname_length (vsi : Vsi22) (oui : VdpCiscoOui) :
    (ciscoVdp22Vmname vsi oui).length = 2 + vdp22OuiTypeLen + ciscoVdpNameSubtlvLen oui := by
  simp only [ciscoVdp22Vmname, List.length_append, vsi.vsi.length_eq, oui.uuid.length_eq,
    vdp22OuiTypeLen, ciscoVdpNameSubtlvLen, ciscoVmNameTlvLen]
  simp only [append2o, append3o, List.length_cons, List.length_nil]
  omega

theorem ciscoVdp22L3addr_length (vsi : Vsi22) {oui : VdpCiscoOui} (hafi : oui.afi = manaddrIpv4)
    (hlen : oui.vmAddrLen = 4) :
    (ciscoVdp22L3addr vsi oui).length = 2 + vdp22OuiTypeLen + ciscoVdpL3addrSubtlvLen oui := by
  simp only [ciscoVdp22L3addr, if_pos hafi, List.length_append, vsi.vsi.length_eq,
    oui.l3Addr.length_eq, ciscoVdpL3addrSubtlvLen, hlen]
  rfl

theorem ciscoFields_length (vsi : Vsi22) (oui : VdpCiscoOui) :
    (ciscoFields vsi oui).length = ciscoVdpOuiPtlvsize oui := by
  have hname : (if oui.vmName.length ≠ 0 then ciscoVdp22Vmname vsi oui else []).length =
      if oui.vmName.length ≠ 0 then 2 + vdp22OuiTypeLen + ciscoVdpNameSubtlvLen oui else 0 := by
    split_ifs
    · exact ciscoVdp22Vmname_length vsi oui
    · rfl
  unfold ciscoFields ciscoVdpOuiPtlvsize
  rw [List.length_append, hname]
  refine congrArg _ ?_
  rcases oui.addr_ok with ⟨hafi, hlen⟩ | ⟨hafi, hlen⟩
  · rw [hafi, hlen]
    rfl
  · rw [if_pos (by rw [hlen]; decide), if_pos (.inl hafi)]
    exact ciscoVdp22L3addr_length vsi hafi hlen

theorem ciscoAppend_append (buf : Bytes) (cp offset : Nat) (xs ys : Bytes) :
    (ciscoAppend buf cp offset xs >>= fun r => ciscoAppend r.1 cp r.2 ys) =
      ciscoAppend buf cp offset (xs ++ ys) := by
  have hjoin := writeAt_writeAt buf (cp + offset) xs ys
  unfold ciscoAppend
  rw [← hjoin, List.length_append, Nat.add_assoc, ← Nat.add_assoc offset]
  cases writeAt buf (cp + offset) xs with
  | error e => rfl
  | ok buf' => rfl

theorem ciscoAppend_nil (buf : Bytes) (cp offset : Nat) :
    ciscoAppend buf cp offset [] = pure (buf, offset) := by
  rw [ciscoAppend, writeAt_nil]
  rfl

theorem ciscoVdpTxHndlr_eq (vsi : Vsi22) (buf : Bytes) (cp : Nat) (oui : VdpCiscoOui)
    (offset : Nat) :
    ciscoVdpTxHndlr vsi buf cp oui offset = ciscoAppend buf cp offset (ciscoFields vsi oui) := by
  rw [ciscoFields, ← ciscoAppend_append]
  unfold ciscoVdpTxHndlr
  split_ifs <;> simp only [ciscoAppend_nil]

def ciscoOuiHndlr : Vdp22OuiHandler VdpCiscoOui where
  vsi22ModHndlr := ciscoVsi22ModHndlr
  vdpTxHndlr := ciscoVdpTxHndlr
  ouiPtlvSizeHndlr := ciscoVdpOuiPtlvsize
  fields := ciscoFields
  absolute := true
  fields_length := ciscoFields_length
  tx_eq v buf cp d offset := ciscoVdpTxHndlr_eq v buf cp d offset

/-- `"cisco"` -/
def ciscoOuiName : Bytes := [0x63, 0x69, 0x73, 0x63, 0x6f]

/-- The handlers that `vdp22_oui_init_list` has -/
def ouiHandlers : OuiHandlers VdpCiscoOui := fun name =>
  if name = ciscoOuiName then some ciscoOuiHndlr else none

end Lldpad.Qbg
