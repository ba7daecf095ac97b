import Lldpad.Lib.LinkedList
import Lldpad.Qbg.Ecp22

/-!
# `Lldpad.Qbg.Ecp22Queue`: the transmit queue of ECP in memory

`Ecp22` has the payloads that wait as a list and counts the free nodes. This is what
`qbg/ecp22.c` does with them: nodes in memory on two lists, a pointer to the last node in use,
and a counter of the free nodes.

`accepted` and `built` are ghosts: the payloads that were queued and those that went into a
frame, in order. What `calloc` answers is part of the event: whether the copy of the payload was
made, and the address of a new node. An address in use is no answer.
-/

namespace Lldpad.Qbg

open Lldpad.Lib
open Lldpad.Lldp (Bytes)

/-- The two lists of `struct ecp22` -/
inductive Ecp22List where
  /-- `inuse.head` -/
  | inuse
  /-- `isfree.head` -/
  | isfree
  deriving DecidableEq, Repr

/-- `struct ecp22_payload_node` without its links -/
structure Ecp22QueueNode where
  ptlv : Option Bytes := none
  subtype : UInt16 := 0
  mac : MacAddr := ⟨List.replicate Lldp.ethAlen 0, rfl⟩

/-- The queue of `struct ecp22` -/
structure Ecp22Queue where
  mem : ListMem Ecp22List := .empty .inuse
  nodes : Nat → Ecp22QueueNode := fun _ => {}
  /-- `inuse.last` -/
  last : Option Nat := none
  /-- `isfree.freecnt` -/
  freecnt : UInt16 := 0
  accepted : List Ecp22PayloadNode := []
  built : List Ecp22PayloadNode := []

namespace Ecp22Queue

/-- The payload of a node. Without one there is nothing to build. -/
def payload (q : Ecp22Queue) (n : Nat) : Option Ecp22PayloadNode :=
  let x := q.nodes n
  x.ptlv.map fun ptlv => { ptlv := ptlv, subtype := x.subtype, mac := x.mac }

/-- `ecp22_getnode`, with the node. `addr` is what `calloc` answers. -/
def getnode (addr : Option Nat) (q : Ecp22Queue) : Except Fault (Ecp22Queue × Option Nat) :=
  match q.mem.pointer (.first .isfree) with
  | some elem => do
    let mem ← q.mem.remove elem
    pure ({ q with mem := mem, freecnt := q.freecnt - 1 }, some elem)
  | none =>
    match addr.filter (!q.mem.live ·) with
    | none => .ok (q, none)
    | some elem =>
      .ok ({ q with
        mem := q.mem.setLive elem true
        nodes := Function.update q.nodes elem {} }, some elem)

/-- `ecp22_putnode` -/
def putnode (elm : Nat) (q : Ecp22Queue) : Except Fault Ecp22Queue := do
  q.mem.touch elm
  let q := { q with nodes := Function.update q.nodes elm { q.nodes elm with ptlv := none } }
  if q.freecnt > ecp22Maxpayload then pure { q with mem := q.mem.setLive elm false }
  else do
    let mem ← q.mem.insertHead .isfree elm
    pure { q with mem := mem, freecnt := q.freecnt + 1 }

/-- `ecp22_add_payload`, without the run of the machine -/
def addPayload (elem : Nat) (q : Ecp22Queue) : Except Fault Ecp22Queue := do
  let mem ←
    match q.mem.pointer (.first .inuse) with
    | none => q.mem.insertHead .inuse elem
    | some _ =>
      match q.last with
      | none => .error (.useAfterFree 0)
      | some last => q.mem.insertAfter last elem
  pure { q with
    mem := mem
    last := some elem
    accepted := q.accepted ++ (q.payload elem).toList }

/-- `ecp22_req2send`, as far as the queue. `copied` says whether `copy_ptlv` made its copy. -/
def req2send (copied : Bool) (subtype : UInt16) (mac : MacAddr) (du : Bytes) (addr : Option Nat)
    (q : Ecp22Queue) : Except Fault Ecp22Queue :=
  if copied = false then .ok q
  else if du.length ≥ ecp22MaxpayloadLen then .ok q
  else do
    let (q, payda) ← q.getnode addr
    match payda with
    | none => pure q
    | some elem =>
      addPayload elem { q with
        nodes := Function.update q.nodes elem { ptlv := some du, subtype := subtype, mac := mac } }

/-- `ecp22_build_ecpdu`, as far as the queue. The payload goes into the frame. -/
def buildEcpdu (q : Ecp22Queue) : Except Fault Ecp22Queue :=
  match q.mem.pointer (.first .inuse) with
  | none => .ok q
  | some p => do
    q.mem.touch p
    match q.payload p with
    | none => .error (.useAfterFree p)
    | some payload => do
      let mem ← q.mem.remove p
      putnode p { q with mem := mem, built := q.built ++ [payload] }

end Ecp22Queue

/-- What reaches the queue -/
inductive Ecp22QueueEvent where
  /-- `ecp22_req2send`, with the answers of `calloc` -/
  | send (copied : Bool) (subtype : UInt16) (mac : MacAddr) (du : Bytes) (addr : Option Nat)
  /-- `ecp22_build_ecpdu` -/
  | build

/-- The queue of a new instance, and every sequence of events -/
def queueSystem : System Ecp22Queue Ecp22QueueEvent where
  init q := q = {}
  step q e :=
    match e with
    | .send copied subtype mac du addr => q.req2send copied subtype mac du addr
    | .build => q.buildEcpdu

end Lldpad.Qbg
