import Lldpad.Qbg.Vdp22Sm
import Mathlib.Logic.Function.Basic

/-!
# `Lldpad.Qbg.Vdp22System`: the VDP instance of an interface

`struct vdp22` with its queue of VSI nodes, and what reaches it: requests and queries of the
clients, VSI TLVs of the other side, timers, and the EVB module that stops and starts it.

A node is known by a number. `nodes` is the memory: the nodes of the queue and those that
were freed. A number is never used again.

A TLV is one event. The TLVs of a message are handled one behind the other, and what an
event of `vdp22System` may do between them only adds behaviour.
-/

namespace Lldpad.Qbg

open Lldpad.Lib
open Lldpad.Lldp (Bytes)

/-- `struct vdp22`, and what it works on. `ecpRc` is what the ECP module answers. `sent` and
`back` are the messages that went to the ECP module and to the clients, in order. -/
structure Vdp22Ctx where
  myrole : Vdp22Role
  gpid : Bool := false
  evbon : Bool := false
  /-- `vsi22_que` -/
  que : List Nat := []
  nodes : Nat → Vsi22Ctx := fun _ => {}
  next : Nat := 0
  ecpRc : Int := 0
  sent : List Bytes := []
  back : List VdpnlVsi := []

namespace Vdp22Ctx

/-- The node `h` after a function worked on it. -/
def put (c : Vdp22Ctx) (h : Nat) (x : Vsi22Ctx) : Vdp22Ctx :=
  { c with
    que := if x.freed then c.que.erase h else c.que
    nodes := Function.update c.nodes h { x with sent := [], back := [] }
    sent := c.sent ++ x.sent
    back := c.back ++ x.back }

/-- A function works on the node `h`. -/
def on (c : Vdp22Ctx) (h : Nat) (f : Vsi22Ctx → Except Fault Vsi22Ctx) : Except Fault Vdp22Ctx := do
  let x ← f (c.nodes h)
  pure (c.put h x)

/-- A new node: its number is `c.next`. -/
def alloc (c : Vdp22Ctx) (v : Vsi22) : Vdp22Ctx :=
  { c with nodes := Function.update c.nodes c.next { vsi := v }, next := c.next + 1 }

/-- `LIST_INSERT_HEAD`, with the node's first state and its flags -/
def insertHead (c : Vdp22Ctx) (h : Nat) (state : Vdp22SmState) (flags : Vsi22Flags) : Vdp22Ctx :=
  let x := c.nodes h
  { c with
    que := h :: c.que
    nodes := Function.update c.nodes h
      { x with vsi := { x.vsi with flags := flags, smi := { x.vsi.smi with state := state } } } }

/-- A function works on every node of the queue. -/
def forall' (c : Vdp22Ctx) (f : Vsi22Ctx → Vsi22Ctx) : Vdp22Ctx :=
  { c with nodes := fun h => if h ∈ c.que then f (c.nodes h) else c.nodes h }

end Vdp22Ctx

/-! ### The queue -/

def vdp22VsiEqual (p1 p2 : Vsi22) : Bool :=
  p1.mgrid == p2.mgrid && p1.typeId == p2.typeId && p1.typeVer == p2.typeVer &&
    p1.vsiFmt == p2.vsiFmt && p1.vsi == p2.vsi && p1.fif == p2.fif

def vdp22Findvsi (c : Vdp22Ctx) (me : Vsi22) : Option Nat :=
  c.que.find? fun h => vdp22VsiEqual (c.nodes h).vsi me

/-! ### Station: requests -/

def vdp22Addvsi (h : Nat) (c : Vdp22Ctx) : Except Fault Vdp22Ctx :=
  (c.insertHead h (.station .begin) (c.nodes h).vsi.flags).on h (vdp22stRun c.ecpRc)

/-- `vdp22_addreq` on the new node `h`, with its answer and `modf_vsi`. The last log message
reads the node, also when the state machine removed it. -/
def vdp22Addreq (h : Nat) (c : Vdp22Ctx) : Except Fault (Vdp22Ctx × Int × Bool) :=
  let vsip := (c.nodes h).vsi
  if vsip.vsiMode > vdp22Deassoc ∨ vsip.vsiMode < vdp22Preassoc then .ok (c, errEinval, false)
  else
    match vdp22Findvsi c vsip with
    | none =>
      if vsip.vsiMode = vdp22Deassoc then .ok (c, errEinval, false)
      else do
        let c ← vdp22Addvsi h c
        pure (c.put h (c.nodes h).deref, 0, false)
    | some p =>
      let x := c.nodes p
      if x.vsi.flags.busy then .ok (c, errEbusy, false)
      else if vdp22CmpFdata x.vsi vsip = false then
        .ok (c.put p { x with vsi := vdp22CmpStatus x.vsi vsip }, errEinval, false)
      else do
        let (x, rc) ← vdp22Modvsi c.ecpRc vsip.vsiMode x
        pure (c.put p x, rc, true)

/-- `vdp22_request`, with its answer. The requests of the draft 0.2 count from zero. -/
def vdp22Request (vsi : VdpnlVsi) (clif : Bool) (c : Vdp22Ctx) : Except Fault (Vdp22Ctx × Int) :=
  if c.evbon = false then .ok (c, errEprotonosupport)
  else if c.myrole = .bridge then .ok (c, errEopnotsupp)
  else
    let vsi := if clif then vsi else { vsi with request := vsi.request + 1 }
    match vdp22AllocVsiInt vsi c.gpid true with
    | .error rc => .ok (c, rc)
    | .ok v => do
      let h := c.next
      let (c, rc, modf) ← vdp22Addreq h (c.alloc v)
      pure (if rc ≠ 0 ∨ modf then c.put h (vdp22DeleteVsi (c.nodes h)) else c, rc)

/-- `copy_vsi`: the node, and the answer to a query -/
def copyVsi (vsi : VdpnlVsi) (p : Vsi22) (clif : Bool) : Vsi22 × VdpnlVsi :=
  let vsi := { vsi with
    response := p.status.toUInt16
    vsiUuid := p.vsi
    request := p.vsiMode
    vsiTypeid := p.typeId
    vsiTypeversion := p.typeVer
    vsiMgrid2 := p.mgrid
    vsiIdfmt := p.vsiFmt
    hints := p.ccVsiMode }
  let p := { p with flags := { p.flags with nlcmd := false } }
  if clif || p.flags.returnVid then
    ({ p with flags := { p.flags with returnVid := false } },
      { vsi with
        filterFmt := p.fif
        maclist := p.fdata.map fun f =>
          { gpid := f.grpid
            vlan := vdp22GetVlanid f.vlan
            qos := (vdp22GetQos f.vlan).toUInt8
            changed := 1
            mac := f.mac } })
  else (p, vsi)

/-- What `vdp22_status` does to the node that it reports. -/
def vdp22StatusHit (clif : Bool) (x : Vsi22Ctx) : Vsi22Ctx :=
  let x := x.deref
  let x := { x with vsi := (copyVsi {} x.vsi clif).1 }
  if x.vsi.status ≠ vdp22RespNone ∧ x.vsi.flags.deleteMe then vdp22ListdelVsi x else x

/-- `vdp22_status`: the instance, the answer, and whether there is one -/
def vdp22Status (number : Nat) (vsi : VdpnlVsi) (clif : Bool) (c : Vdp22Ctx) :
    Vdp22Ctx × VdpnlVsi × Bool :=
  match c.que[number - 1]? with
  | none => (c, vsi, false)
  | some h =>
    if number = 0 then (c, vsi, false)
    else (c.put h (vdp22StatusHit clif (c.nodes h)), (copyVsi vsi (c.nodes h).vsi clif).2, true)

/-! ### TLVs -/

def vdp22BridgeInfo (vsip : Vsi22) (c : Vdp22Ctx) : Except Fault Vdp22Ctx :=
  match vdp22Findvsi c vsip with
  | none => .ok c
  | some h => c.on h (vdp22BridgeHit c.ecpRc vsip)

def vdp22brAddvsi (h : Nat) (c : Vdp22Ctx) : Except Fault Vdp22Ctx :=
  (c.insertHead h (.bridge .begin) { busy := true }).on h vdp22brRun

/-- `vdp22_station_info`. Without a node the TLV itself is sent back. -/
def vdp22StationInfo (vsip : Vsi22) (c : Vdp22Ctx) : Except Fault Vdp22Ctx :=
  match vdp22Findvsi c vsip with
  | none =>
    if vsip.vsiMode = vdp22Deassoc then
      .ok { c with sent := c.sent ++ [vdp22Msg vsip vdp22Ackbit] }
    else
      match vdp22CopyVsi vsip c.gpid with
      | some new => vdp22brAddvsi c.next (c.alloc new)
      | none => .ok { c with
          sent := c.sent ++ [vdp22Msg vsip (vdp22Ackbit ||| makeStatus vdp22RespNoResources)] }
  | some h => c.on h (vdp22StationHit vsip)

/-- The `switch` of `vdp22_input` has a case for the mode. -/
def isVsiMode (mode : UInt8) : Bool :=
  mode == vdp22Preassoc || mode == vdp22PreassocWithRr || mode == vdp22Assoc || mode == vdp22Deassoc

/-- A VSI TLV in `vdp22_input`, and the end of `ptlv_2_vsi22`. A TLV without filter entries,
or one that comes from the wrong side, is ignored. -/
def vdp22Tlv (vsip : Vsi22) (c : Vdp22Ctx) : Except Fault Vdp22Ctx :=
  if isVsiMode vsip.vsiMode ∧ vsip.fdata ≠ [] ∧ responseOk c.myrole vsip then
    match c.myrole with
    | .station => vdp22BridgeInfo vsip c
    | .bridge => vdp22StationInfo vsip c
  else .ok c

/-! ### Timers -/

/-- The handlers that get a node. -/
inductive Vdp22Timer where
  | ackto
  | kato
  | brKato
  | resto
  | localchange
  deriving DecidableEq, Repr

/-- The number of pending timers. -/
def Vsi22Timers.count (t : Vsi22Timers) : Vdp22Timer → Nat
  | .ackto => t.ackto
  | .kato => t.kato
  | .brKato => t.brKato
  | .resto => t.resto
  | .localchange => t.localchange

/-- One timer less. -/
def Vsi22Timers.expire (t : Vsi22Timers) : Vdp22Timer → Vsi22Timers
  | .ackto => { t with ackto := t.ackto - 1 }
  | .kato => { t with kato := t.kato - 1 }
  | .brKato => { t with brKato := t.brKato - 1 }
  | .resto => { t with resto := t.resto - 1 }
  | .localchange => { t with localchange := t.localchange - 1 }

/-- The handler of a timer. -/
def vdp22Handler (rc : Int) : Vdp22Timer → Vsi22Ctx → Except Fault Vsi22Ctx
  | .ackto => vdp22stHandleAckto rc
  | .kato => vdp22stHandleKato rc
  | .brKato => vdp22brHandleKato
  | .resto => vdp22brHandleResto
  | .localchange => vdp22LocalchangeHandler rc

/-- A timer of a node expires, if one is pending. -/
def vdp22Expire (rc : Int) (t : Vdp22Timer) (x : Vsi22Ctx) : Except Fault Vsi22Ctx :=
  if x.timers.count t = 0 then .ok x
  else vdp22Handler rc t { x with timers := x.timers.expire t }

/-! ### Start and stop -/

def vdp22Create (role : Vdp22Role) : Vdp22Ctx := { myrole := role }

def vdp22Stop (c : Vdp22Ctx) : Vdp22Ctx := c.forall' vdp22StopTimers

/-- `vdp22_start` on an instance that exists -/
def vdp22Start (c : Vdp22Ctx) : Vdp22Ctx := c.forall' vdp22StartLocalchange

/-- `data_from_evb`, but for the values that the timeouts are made of -/
def vdp22DataFromEvb (gpid evbon : Bool) (c : Vdp22Ctx) : Vdp22Ctx :=
  { c with gpid := gpid, evbon := evbon }

/-! ### The system -/

/-- What reaches an instance. -/
inductive Vdp22Event where
  /-- `vdp22_request` -/
  | request (vsi : VdpnlVsi) (clif : Bool)
  /-- `vdp22_status` -/
  | status (number : Nat) (clif : Bool)
  /-- a VSI TLV of the other side -/
  | tlv (vsip : Vsi22)
  /-- a pending timer of the node `h` expires -/
  | timer (t : Vdp22Timer) (h : Nat)
  /-- `vdp22_stop` -/
  | stop
  /-- `vdp22_start` -/
  | start
  /-- `data_from_evb` -/
  | fromEvb (gpid evbon : Bool)
  /-- the ECP module changes its answer -/
  | ecp (rc : Int)

/-- One event. -/
def vdp22Step (c : Vdp22Ctx) : Vdp22Event → Except Fault Vdp22Ctx
  | .request vsi clif => do
    let (c, _) ← vdp22Request vsi clif c
    pure c
  | .status number clif => .ok (vdp22Status number {} clif c).1
  | .tlv vsip => vdp22Tlv vsip c
  | .timer t h => c.on h (vdp22Expire c.ecpRc t)
  | .stop => .ok (vdp22Stop c)
  | .start => .ok (vdp22Start c)
  | .fromEvb gpid evbon => .ok (vdp22DataFromEvb gpid evbon c)
  | .ecp rc => .ok { c with ecpRc := rc }

/-- An instance and everything that reaches it. -/
def vdp22System : System Vdp22Ctx Vdp22Event where
  init c := ∃ role, c = vdp22Create role
  step := vdp22Step

end Lldpad.Qbg
