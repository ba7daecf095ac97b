import Lldpad.Qbg.VdpSm
import Lldpad.Qbg.VdpTlv
import Mathlib.Logic.Function.Basic

/-!
# `Lldpad.Qbg.VdpSystem`: the draft 0.2 VDP of an interface

`struct vdp_data` with its list of profiles, its ECP, and what reaches it: requests and queries
of the clients, VSI TLVs of the other side, timers, and the EVB module that stops and starts
it.

A profile is known by a number. `nodes` is the memory: the profiles of the list and those that
were freed. A number is never used again. `vd` is what the transmit machine of ECP works on.
Its own list of profiles is made of that of the interface whenever the machine runs
(`VdpCtx.onEcp`).

`vdp_indicate` for one TLV of a frame, `vdp_advance_sm` behind the TLVs, and the
acknowledgement of the frame are one event each. What an event of `vdpSystem` may do between
them only adds behaviour. `vd->port` may become any port: its flags belong to the agents, too.

The packed TLV of a profile with more pairs than `entries` counts is not defined
(`vdpVsiInfo`). Such a profile has none here.
-/

namespace Lldpad.Qbg

open Lldpad.Lib
open Lldpad.Lldp (Bytes Port ethFrameLen)

/-- `VDP_ROLE_STATION` and `VDP_ROLE_BRIDGE` -/
inductive VdpRole where
  | station
  | bridge
  deriving DecidableEq, Repr

/-- `struct vdp_data`, and what it works on. `back` are the messages to netlink, in order. -/
structure VdpCtx where
  vd : VdpData
  role : VdpRole
  vdpbitOn : Bool := false
  /-- `profile_head` -/
  que : List Nat := []
  nodes : Nat → ProfileCtx := fun _ => {}
  next : Nat := 0
  back : List VdpnlVsi := []

/-! ### ECP -/

/-- A number of calls of `ecp_somethingChangedLocal` with `true` -/
def ecpChanged (n : Nat) (vd : VdpData) : VdpData := n.repeat (ecpSomethingChangedLocal · true) vd

/-- A number of calls of `ecp_rx_send_ack_frame` for the frame that came last, whose
acknowledgement is `ack` -/
def ecpRxSendAckFrames (ack : Bytes) (n : Nat) (vd : VdpData) : VdpData :=
  n.repeat (fun vd => ecpTxFrame { vd with ecp := { vd.ecp with
    tx := { vd.ecp.tx with frame := ack, frameLen := ack.length } } }) vd

/-- What the transmit machine sees of a profile -/
def ecpProfile (c : ProfileCtx) : VsiProfile :=
  { c.profile.toVsiProfile with tlv := (vdpGettlv c.profile).toOption.join }

/-- Which profiles the loop of `ecp_build_ECPDU` puts into the frame, from a position on -/
def ecpPacked : List VsiProfile → Nat → List Bool
  | [], _ => []
  | p :: ps, pos =>
    match (if p.localChange then p.tlv else none) with
    | none => false :: ecpPacked ps pos
    | some tlv =>
      if pos + tlv.length > ethFrameLen - 2 then List.replicate (ps.length + 1) false
      else true :: ecpPacked ps (pos + tlv.length)

/-- The position behind the headers of a frame -/
def ecpHeaderLen : Nat := 23

/-- A profile after the transmit machine ran. A profile that went into a frame is `packed`. -/
def ProfileCtx.afterEcp (c : ProfileCtx) (p : VsiProfile) (packed : Bool) : ProfileCtx :=
  { c with
    profile := { c.profile with txmit := p.txmit, ackReceived := p.ackReceived, seqnr := p.seqnr }
    framed := c.framed || packed }

namespace VdpCtx

/-- The profile `h` after a function worked on it. -/
def put (s : VdpCtx) (h : Nat) (x : ProfileCtx) : VdpCtx :=
  { s with
    vd := ecpChanged x.changed s.vd
    que := if x.freed then s.que.erase h else s.que
    nodes := Function.update s.nodes h { x with changed := 0, acks := 0, back := [] }
    back := s.back ++ x.back }

/-- A function works on the profile `h`. -/
def on (s : VdpCtx) (h : Nat) (f : ProfileCtx → Except Fault ProfileCtx) : Except Fault VdpCtx := do
  let x ← f (s.nodes h)
  pure (s.put h x)

/-- A new profile: its number is `s.next`. -/
def alloc (s : VdpCtx) (x : ProfileCtx) : VdpCtx :=
  { s with nodes := Function.update s.nodes s.next x, next := s.next + 1 }

/-- `LIST_INSERT_HEAD` -/
def insertHead (s : VdpCtx) (h : Nat) : VdpCtx := { s with que := h :: s.que }

/-- A function works on every profile of the list. -/
def forall' (s : VdpCtx) (f : ProfileCtx → ProfileCtx) : VdpCtx :=
  { s with nodes := fun h => if h ∈ s.que then f (s.nodes h) else s.nodes h }

/-- What the transmit machine of ECP works on -/
def ecpData (s : VdpCtx) : VdpData :=
  { s.vd with profiles := s.que.map fun h => ecpProfile (s.nodes h) }

/-- The profiles after the transmit machine ran, and `framed` tells which ones went into a
frame. -/
def afterEcp (s : VdpCtx) (vd : VdpData) (framed : List Bool) : VdpCtx :=
  { s with
    vd := { vd with profiles := [] }
    nodes := fun h =>
      match (s.que.zip (vd.profiles.zip framed)).lookup h with
      | none => s.nodes h
      | some (p, packed) => (s.nodes h).afterEcp p packed }

/-- The transmit machine runs. It sends one frame at most, and builds it when it does. -/
def onEcp (s : VdpCtx) (f : VdpData → Except Fault VdpData) : Except Fault VdpCtx := do
  let vd ← f s.ecpData
  let packed :=
    if vd.wire.length = s.vd.wire.length then s.que.map fun _ => false
    else ecpPacked s.ecpData.profiles ecpHeaderLen
  pure (s.afterEcp vd packed)

end VdpCtx

/-! ### The list -/

def vdpFindProfile (s : VdpCtx) (thisone : VdpProfile) : Option Nat :=
  s.que.find? fun h => vdpProfileEqual (s.nodes h).profile thisone

/-- `vdp_add_profile`, with the profile that was found or added -/
def vdpAddProfile (profile : VdpProfile) (s : VdpCtx) : VdpCtx × Nat :=
  match vdpFindProfile s profile with
  | some h => (s.put h (vdpAddProfileHit profile (s.nodes h)), h)
  | none =>
    (((s.alloc { profile := profile }).insertHead s.next).put s.next
      (vdpAddProfileNew { profile := profile }), s.next)

/-- The profile that `vdp_request` makes of a request -/
def vdpRequestProfile (vsi : VdpnlVsi) : VdpProfile :=
  { macvid := (vsi.maclist.take 1).map fun mac =>
      { mac := mac.mac, vlan := mac.vlan, qos := mac.qos, reqPid := vsi.reqPid,
        reqSeq := vsi.reqSeq }
    mgrid := vsi.vsiMgrid
    id := vsi.vsiTypeid.toUInt32
    version := vsi.vsiTypeversion
    mode := vsi.request.toUInt32
    response := vsi.response.toUInt8
    instanceId := vsi.vsiUuid }

def vdpRequest (vsi : VdpnlVsi) (s : VdpCtx) : VdpCtx :=
  match s.vd.port with
  | none => s
  | some port =>
    if s.vdpbitOn = false ∨ (port.portEnabled = false ∧ vsi.request.toUInt32 ≠ vdpModeDeassociate)
    then s
    else
      let (s, h) := vdpAddProfile (vdpRequestProfile vsi) s
      s.put h ((s.nodes h).set fun p => { p with noNlmsg := true, txmit := false })

/-- The profile that `vdp_parse_mode_line` makes of a command: `profile` has what the line
says. -/
def vdpParseModeLine (profile : VdpProfile) : VdpProfile :=
  { mode := profile.mode
    mgrid := profile.mgrid
    id := profile.id
    version := profile.version
    instanceId := profile.instanceId
    format := profile.format
    macvid := profile.macvid.map fun mv => { mac := mv.mac, vlan := mv.vlan } }

/-- `_set_arg_mode` -/
def vdpSetArgMode (profile : VdpProfile) (s : VdpCtx) : VdpCtx :=
  match s.vd.port with
  | none => s
  | some _ => (vdpAddProfile (vdpParseModeLine profile) s).1

def vdpStatus (number : Nat) (s : VdpCtx) : VdpCtx :=
  match number with
  | 0 => s
  | number + 1 =>
    match s.que[number]? with
    | none => s
    | some h => s.put h (vdpStatusHit (s.nodes h))

/-! ### TLVs -/

/-- `vdp_indicate` of a station for the profile of a TLV. The copy is gone in the end. -/
def vdpIndicateStation (q : VdpProfile) (s : VdpCtx) : VdpCtx :=
  match vdpFindProfile s q with
  | none => s
  | some h => s.put h (vdpStationIndicate q (s.nodes h))

/-- The acknowledgements that the bridge machine sends go out. -/
def VdpCtx.sendAcks (s : VdpCtx) (ack : Bytes) (n : Nat) : VdpCtx :=
  { s with vd := ecpRxSendAckFrames ack n s.vd }

/-- `vdp_indicate` of a bridge for the profile of a TLV. The machine runs on the copy, also
when it was deleted before. -/
def vdpIndicateBridge (q : VdpProfile) (ack : Bytes) (s : VdpCtx) : Except Fault VdpCtx := do
  let known := (vdpFindProfile s q).isSome
  let x ← vdpVsiSmBridge { profile := q, freed := known }
  let h := s.next
  let s := s.alloc { profile := q }
  let s := if known then s else s.insertHead h
  pure ((s.put h x).sendAcks ack x.acks)

/-- `vdp_indicate` for the content of a TLV, in a frame whose acknowledgement is `ack` -/
def vdpIndicate (info ack : Bytes) (s : VdpCtx) : Except Fault VdpCtx :=
  match s.vd.port with
  | none => .ok s
  | some _ => do
    match ← vdpProfileOfTlv info with
    | none => pure s
    | some q =>
      match s.role with
      | .station => pure (vdpIndicateStation q s)
      | .bridge => vdpIndicateBridge q ack s

def vdpAdvanceSm (s : VdpCtx) : Except Fault VdpCtx := s.que.foldlM (fun s h => s.on h vdpAdvance) s

/-! ### Timers -/

/-- The handlers that get a profile. -/
inductive VdpTimer where
  | ack
  | keepalive
  | localchange
  deriving DecidableEq, Repr

/-- The number of pending timers. -/
def VdpTimers.count (t : VdpTimers) : VdpTimer → Nat
  | .ack => t.ack
  | .keepalive => t.keepalive
  | .localchange => t.localchange

/-- One timer less. -/
def VdpTimers.expire (t : VdpTimers) : VdpTimer → VdpTimers
  | .ack => { t with ack := t.ack - 1 }
  | .keepalive => { t with keepalive := t.keepalive - 1 }
  | .localchange => { t with localchange := t.localchange - 1 }

/-- The handler of a timer. -/
def vdpHandler : VdpTimer → ProfileCtx → Except Fault ProfileCtx
  | .ack => vdpAckTimeoutHandler
  | .keepalive => vdpKeepaliveTimeoutHandler
  | .localchange => vdpLocalchangeHandler

/-- A timer of a profile expires, if one is pending. -/
def vdpExpire (t : VdpTimer) (c : ProfileCtx) : Except Fault ProfileCtx :=
  if c.timers.count t = 0 then .ok c
  else vdpHandler t { c with timers := c.timers.expire t }

/-! ### The system -/

/-- `vdp_ifup` for an interface that has no VDP data -/
def vdpCreate (role : VdpRole) (ownSrcAddr : MacAddr) (port : Option Port) : VdpCtx :=
  { vd := ecpInit { enabletx := true, ownSrcAddr := ownSrcAddr, port := port }, role := role }

/-- `vdp_ifup` for an interface that has VDP data -/
def vdpIfupAgain (s : VdpCtx) : VdpCtx :=
  VdpCtx.forall' { s with vd := ecpInit s.vd } vdpStartTimers

def vdpIfdown (s : VdpCtx) : VdpCtx := VdpCtx.forall' { s with vd := ecpDeinit s.vd } vdpStopTimers

/-- What reaches the VDP of an interface. -/
inductive VdpEvent where
  /-- `vdp_request` -/
  | request (vsi : VdpnlVsi)
  /-- a mode command -/
  | mode (profile : VdpProfile)
  /-- `vdp_status` -/
  | status (number : Nat)
  /-- a TLV of a frame whose acknowledgement is `ack` -/
  | tlv (info ack : Bytes)
  /-- the end of the TLVs of a frame -/
  | advance
  /-- a pending timer of the profile `h` expires -/
  | timer (t : VdpTimer) (h : Nat)
  /-- a pending ack timer of ECP expires -/
  | ecpAckTimeout
  /-- a pending local-change timer of ECP expires -/
  | ecpLocalchange
  /-- an acknowledgement arrives -/
  | ecpAck (seqnr : UInt16)
  /-- a frame with TLVs arrived, and its acknowledgement goes out -/
  | ecpRequest (seqnr : UInt16) (ack : Bytes)
  /-- `vdp_ifup` -/
  | ifup
  /-- `vdp_ifdown` -/
  | ifdown
  /-- the port changes -/
  | port (port : Option Port)
  /-- `vdp_update` -/
  | update (vdpbitOn : Bool)
  /-- a role command -/
  | role (role : VdpRole)

/-- One event. -/
def vdpStep (s : VdpCtx) : VdpEvent → Except Fault VdpCtx
  | .request vsi => .ok (vdpRequest vsi s)
  | .mode profile => .ok (vdpSetArgMode profile s)
  | .status number => .ok (vdpStatus number s)
  | .tlv info ack => vdpIndicate info ack s
  | .advance => vdpAdvanceSm s
  | .timer t h => s.on h (vdpExpire t)
  | .ecpAckTimeout => s.onEcp fun vd => ecpHandle vd .ackTimeout
  | .ecpLocalchange => s.onEcp fun vd => ecpHandle vd .localchange
  | .ecpAck seqnr =>
    match s.vd.port with
    | none => .ok s
    | some _ => s.onEcp fun vd => ecpHandle vd (.ack seqnr)
  | .ecpRequest seqnr ack =>
    match s.vd.port with
    | none => .ok s
    | some _ => .ok { s with vd := ecpRxRequest seqnr ack s.vd }
  | .ifup => .ok (vdpIfupAgain s)
  | .ifdown => .ok (vdpIfdown s)
  | .port port => .ok { s with vd := { s.vd with port := port } }
  | .update vdpbitOn => .ok { s with vdpbitOn := vdpbitOn }
  | .role role => .ok { s with role := role }

/-- The VDP of an interface and everything that reaches it. -/
def vdpSystem : System VdpCtx VdpEvent where
  init s := ∃ role ownSrcAddr port, s = vdpCreate role ownSrcAddr port
  step := vdpStep

/-! ## The profiles of an interface and their counters

`VdpProfile` has no counter: `entries` is the length of the list of pairs. The source counts
the pairs where it moves them. `MacvidList` is a list with that counter, and `VdpStore` adds
the counter of each profile to the VDP of an interface, so that the two can be compared.

`storeSystem` is a store and the calls of `vdp_add_profile`. A caller counts the pairs of the
profile that it passes as `VdpProfile.entries` does.
-/

/-- `macvid_head` and `entries` of a profile -/
structure MacvidList where
  macvid : List MacVlan := []
  entries : UInt16 := 0
  deriving DecidableEq

namespace MacvidList

/-- `have_macvlan`: a pair that is there takes over the new fields, another one is added. -/
def haveMacvlan (p1 : MacvidList) (new : MacVlan) : MacvidList :=
  match modifyKey MacVlan.pair new.pair
      (fun mv => { mv with reqPid := new.reqPid, reqSeq := new.reqSeq, qos := new.qos })
      p1.macvid with
  | some macvid => { p1 with macvid := macvid }
  | none => { macvid := new :: p1.macvid, entries := p1.entries + 1 }

/-- `vdp_takeover_macvlans`: both lists, when the second one is `macvid` with `entries` -/
def takeoverMacvlans (p1 : MacvidList) : List MacVlan → UInt16 → MacvidList × MacvidList
  | [], entries => (p1, { macvid := [], entries := entries })
  | mv2 :: macvid, entries => takeoverMacvlans (p1.haveMacvlan mv2) macvid (entries - 1)

end MacvidList

/-- The VDP of an interface, and `entries` of each profile -/
structure VdpStore where
  ctx : VdpCtx
  entries : Nat → UInt16 := fun _ => 0

namespace VdpStore

/-- The list of pairs of the profile `h` -/
def macvidList (s : VdpStore) (h : Nat) : MacvidList :=
  { macvid := (s.ctx.nodes h).profile.macvid, entries := s.entries h }

/-- `vdp_add_profile`, with the counters -/
def addProfile (profile : VdpProfile) (s : VdpStore) : VdpStore :=
  { ctx := (vdpAddProfile profile s.ctx).1
    entries :=
      match vdpFindProfile s.ctx profile with
      | some h =>
        let (p1, _) := (s.macvidList h).takeoverMacvlans profile.macvid profile.entries
        Function.update s.entries h p1.entries
      | none => Function.update s.entries s.ctx.next profile.entries }

end VdpStore

/-- An interface whose profiles come from `vdp_add_profile` -/
def storeSystem : System VdpStore VdpProfile where
  init s := ∃ role ownSrcAddr port, s = { ctx := vdpCreate role ownSrcAddr port }
  step s profile := .ok (s.addProfile profile)

end Lldpad.Qbg
