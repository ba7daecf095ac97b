import Lldpad.Lib.Enumerate
import Lldpad.Qbg.Vdp22System
import Lldpad.Qbg.VdpSystem

/-!
# `Lldpad.Qbg.StatusDump`: the status of all VSIs

The loops that ask `vdp22_status` or `vdp_status` for one VSI after the other: `vdpnl_getlink`
of the netlink clients and `catvsis` of the control interface.

The functions that build a netlink message are a parameter, with what is documented of them:
`NlBuilder.Lawful`. How a VSI is printed for the control interface is left open.
-/

namespace Lldpad.Qbg

open Lldpad.Lib
open Lldpad.Lldp (Bytes)

/-! ### A netlink message -/

/-- An attribute of an `IFLA_VF_PORT` entry -/
inductive PortAttr where
  | instanceUuid (uuid : Octets 16)
  | vf
  | response (rc : UInt16)
  deriving DecidableEq

/-- `nla_total_size` of its payload: a header of four bytes, and the payload with its padding -/
def PortAttr.size : PortAttr → Nat
  | .instanceUuid _ => 20
  | .vf => 8
  | .response _ => 8

/-- An attribute that holds others -/
inductive PortNest where
  | vfPorts
  | vfPort

/-- The functions that build a netlink message, for messages `M`. The answers of `nlmsg_put`,
`nlmsg_append` and `nla_put` are ignored. `left` is the room that is left in a message, and `ports`
what a client finds in its `IFLA_VF_PORT` entries. -/
structure NlBuilder (M : Type) where
  nlmsgAllocSize : Nat → Option M
  nlmsgPut : M → M
  nlmsgAppend : M → Nat → M
  nlaNestStart : M → PortNest → Option M
  nlaPut : M → PortAttr → M
  nlaNestEnd : M → PortNest → M
  left : M → Nat
  ports : M → List (List PortAttr)

/-- What is documented of these functions: what has no room in the message leaves it as it is, and
`nla_nest_start` answers with a null pointer then. Whether `nla_nest_end` keeps an entry without
attributes is left open. -/
structure NlBuilder.Lawful {M : Type} (nl : NlBuilder M) : Prop where
  alloc : ∀ {len msg}, nl.nlmsgAllocSize len = some msg →
    nl.left msg = len - 16 ∧ nl.ports msg = []
  header : ∀ msg, nl.left (nl.nlmsgPut msg) = nl.left msg ∧
    nl.ports (nl.nlmsgPut msg) = nl.ports msg
  append : ∀ {msg} n, n ≤ nl.left msg → nl.left (nl.nlmsgAppend msg n) + n = nl.left msg ∧
    nl.ports (nl.nlmsgAppend msg n) = nl.ports msg
  appendFull : ∀ {msg} n, nl.left msg < n → nl.nlmsgAppend msg n = msg
  nestFull : ∀ {msg} nest, nl.left msg < 4 → nl.nlaNestStart msg nest = none
  nestPorts : ∀ {msg}, 4 ≤ nl.left msg → ∃ msg', nl.nlaNestStart msg .vfPorts = some msg' ∧
    nl.left msg' + 4 = nl.left msg ∧ nl.ports msg' = nl.ports msg
  nestPort : ∀ {msg}, 4 ≤ nl.left msg → ∃ msg', nl.nlaNestStart msg .vfPort = some msg' ∧
    nl.left msg' + 4 = nl.left msg ∧ nl.ports msg' = nl.ports msg ++ [[]]
  attr : ∀ {msg ports attrs} attr, nl.ports msg = ports ++ [attrs] → attr.size ≤ nl.left msg →
    nl.left (nl.nlaPut msg attr) + attr.size = nl.left msg ∧
      nl.ports (nl.nlaPut msg attr) = ports ++ [attrs ++ [attr]]
  attrFull : ∀ {msg} attr, nl.left msg < attr.size → nl.nlaPut msg attr = msg
  endPort : ∀ {msg ports attrs}, nl.ports msg = ports ++ [attrs] →
    nl.left (nl.nlaNestEnd msg .vfPort) = nl.left msg ∧
        nl.ports (nl.nlaNestEnd msg .vfPort) = nl.ports msg ∨
      attrs = [] ∧ nl.left (nl.nlaNestEnd msg .vfPort) = nl.left msg + 4 ∧
        nl.ports (nl.nlaNestEnd msg .vfPort) = ports
  endPorts : ∀ msg, nl.ports (nl.nlaNestEnd msg .vfPorts) = nl.ports msg

/-! ### The netlink clients -/

/-- What `vdpnl_reply2` reads of a VSI -/
structure NlPort where
  vsiUuid : Octets 16
  response : UInt16
  deriving DecidableEq

def VdpnlVsi.nlPort (p : VdpnlVsi) : NlPort where
  vsiUuid := p.vsiUuid
  response := p.response

/-- `vdp_nllen`. Two of its four lines add nothing. -/
def vdpNllen : Nat := 8 + 8

/-- `mylen` in the beginning -/
def getlinkHeader : Nat := 44

def vdp22Freemaclist (vsi : VdpnlVsi) : VdpnlVsi := { vsi with maclist := [] }

section

variable {M : Type} (nl : NlBuilder M)

def vdpnlReply2 (p : NlPort) (nlh : M) : M :=
  let nlh := nl.nlaPut nlh (.instanceUuid p.vsiUuid)
  let nlh := nl.nlaPut nlh .vf
  if p.response ≠ vdpResponseNoResponse.toUInt16 then nl.nlaPut nlh (.response p.response) else nlh

/-- The body of the loop in `vdpnl_getlink`: the length that is counted, and the message. It does
not end well if `nla_nest_end` is given a null pointer. -/
def getlinkBody (len : Nat) (acc : Nat × M) (p : NlPort) : Option (Nat × M) :=
  let mylen := acc.1 + vdpNllen
  if mylen < len then
    match nl.nlaNestStart acc.2 .vfPort with
    | none => none
    | some msg => some (mylen, nl.nlaNestEnd (vdpnlReply2 nl p msg) .vfPort)
  else some (mylen, acc.2)

/-- `vdpnl_getlink` up to its loop, with a `struct ifinfomsg` of 16 bytes -/
def getlinkStart (len : Nat) : Option M :=
  match nl.nlmsgAllocSize len with
  | none => none
  | some msg => nl.nlaNestStart (nl.nlmsgAppend (nl.nlmsgPut msg) 16) .vfPorts

/-- `vdpnl_getlink` for a message of `len` bytes, over a list with `n` entries. There is no
message if there is no memory for it or `nla_nest_end` is given a null pointer. -/
def vdpnlGetlink {σ : Type} (status : Nat → VdpnlVsi → σ → σ × VdpnlVsi × Bool) (len n : Nat)
    (s : σ) : Option (σ × Option M) :=
  match getlinkStart nl len with
  | none => some (s, none)
  | some msg =>
    match walk status vdp22Freemaclist VdpnlVsi.nlPort (getlinkBody nl len) (n + 1) 0 {}
      (getlinkHeader, msg) s with
    | none => none
    | some (s, acc) => some (s, acc.map fun acc => nl.nlaNestEnd acc.2 .vfPorts)

/-- `vdpnl_getlink` for VDP22 -/
def vdp22Getlink (len : Nat) (c : Vdp22Ctx) : Option (Vdp22Ctx × Option M) :=
  vdpnlGetlink nl (fun number vsi c => vdp22Status number vsi false c) len c.que.length c

/-- `vdp_status` with its answer -/
def vdpStatusRc (number : Nat) (vsi : VdpnlVsi) (s : VdpCtx) : VdpCtx × VdpnlVsi × Bool :=
  match number with
  | 0 => (s, vsi, false)
  | number + 1 =>
    match s.que[number]? with
    | none => (s, vsi, false)
    | some h =>
      let p := (s.nodes h).profile
      (s.put h (vdpStatusHit (s.nodes h)),
        { vsi with maclist := [], response := p.response.toUInt16, vsiUuid := p.instanceId }, true)

/-- `vdpnl_getlink` for the draft 0.2 -/
def vdpGetlink (len : Nat) (s : VdpCtx) : Option (VdpCtx × Option M) :=
  vdpnlGetlink nl vdpStatusRc len s.que.length s

end

/-! ### The control interface -/

/-- The body of the loop in `catvsis`: the bytes that are used, and the VSIs that were printed.
It gives up when there is no room for the next one. -/
def catvsisBody (vdpVdpnl2str : VdpnlVsi → Nat → Option Bytes) (wantedReq : UInt8) (outLen : Nat)
    (acc : Nat × List VdpnlVsi) (vsi : VdpnlVsi) : Option (Nat × List VdpnlVsi) :=
  if wantedReq ≠ vsi.request then some acc
  else
    match vdpVdpnl2str vsi (outLen - acc.1) with
    | none => none
    | some str =>
      if str.length + 4 ≥ outLen - acc.1 then none
      else some (acc.1 + (str.length + 4), acc.2 ++ [vsi])

/-- `catvsis` for the VSIs with a mode -/
def catvsis (vdpVdpnl2str : VdpnlVsi → Nat → Option Bytes) (outLen : Nat) (wantedReq : UInt8)
    (c : Vdp22Ctx) : Option (Vdp22Ctx × Option (Nat × List VdpnlVsi)) :=
  walk (fun number vsi c => vdp22Status number vsi true c) vdp22Freemaclist id
    (catvsisBody vdpVdpnl2str wantedReq outLen) (c.que.length + 1) 0 { request := wantedReq }
    (0, []) c

end Lldpad.Qbg
