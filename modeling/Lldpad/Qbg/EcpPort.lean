import Lldpad.Lldp.Agent
import Lldpad.Qbg.Ecp

/-!
# `Lldpad.Qbg.EcpPort`: a port with its agents and its ECP instances

The agents of a port and the ECP instances of its interface find the same `struct port`, and
the transmit machines among them share `prevPortEnabled`: each compares it with `portEnabled`
to see that the link went down, and then makes it equal.

`find_ecpdata` and `vdp_data` find at most one instance of each ECP. `evb22_timer` and
`evb_timer` start them, on a tick of the customer bridge agent.
-/

namespace Lldpad.Qbg

open Lldpad.Lib
open Lldpad.Lldp (Port PortState Env lldpStep)

variable {μ : Type}

/-- A port with its agents, and the ECP instances of its interface. -/
structure EcpPort (μ : Type) where
  lldp : PortState μ
  ecp22 : Option Ecp22Ctx := none
  vd : Option VdpData := none

namespace EcpPort

/-- The ECP instance finds the port and leaves it behind. -/
def withPort (s : EcpPort μ) (p : Option Port) : EcpPort μ :=
  { s with lldp := { s.lldp with port := p.getD s.lldp.port } }

/-- The ECP of the standard runs. -/
def onEcp22 (s : EcpPort μ) (f : Ecp22Ctx → Except Fault Ecp22Ctx) : Except Fault (EcpPort μ) :=
  match s.ecp22 with
  | none => .ok s
  | some x => do
    let y ← f { x with port := some s.lldp.port }
    pure { s.withPort y.port with ecp22 := some y }

/-- The draft ECP runs. -/
def onVd (s : EcpPort μ) (f : VdpData → Except Fault VdpData) : Except Fault (EcpPort μ) :=
  match s.vd with
  | none => .ok s
  | some x => do
    let y ← f { x with port := some s.lldp.port }
    pure { s.withPort y.port with vd := some y }

/-- The customer bridge agent is there. -/
def hasCustomerBridge (s : EcpPort μ) : Bool :=
  s.lldp.agents.any fun a => a.type = .nearestCustomerBridge

end EcpPort

/-- What reaches a port. -/
inductive EcpPortEvent (μ : Type) where
  /-- the agents. The ECP instances run on their own here. -/
  | lldp (e : Lldp.Event μ)
  /-- `ecp22_start` by `evb22_timer` -/
  | ecp22Start (ownSrcAddr : MacAddr)
  /-- `ecp22_stop` -/
  | ecp22Stop
  /-- the ECP of the standard. The port is that of the agents here. -/
  | ecp22 (e : Ecp22Event)
  /-- `vdp_ifup` by `evb_timer`, with VDP enabled -/
  | vdpIfup (ownSrcAddr : MacAddr)
  /-- `vdp_ifdown` -/
  | vdpIfdown
  /-- the draft ECP -/
  | ecp (e : EcpEvent)

/-- `ecp22_start` by `evb22_timer`, which does it once: `evb22_ifdown` stops the instance
before it can start again. -/
def ecp22StartOnce (ownSrcAddr : MacAddr) (s : EcpPort μ) : Except Fault (EcpPort μ) :=
  if s.hasCustomerBridge ∧ s.ecp22 = none then do
    let y ← ecp22Start (some s.lldp.port) ownSrcAddr
    pure { s.withPort y.port with ecp22 := some y }
  else .ok s

def vdpIfup (ownSrcAddr : MacAddr) (s : EcpPort μ) : EcpPort μ :=
  if s.hasCustomerBridge then
    { s with vd := some (ecpInit
        (s.vd.getD { enabletx := true, ownSrcAddr := ownSrcAddr, port := none })) }
  else s

/-- One event. -/
def ecpPortStep (env : Env μ) (s : EcpPort μ) : EcpPortEvent μ → Except Fault (EcpPort μ)
  | .lldp .ecpTx => .ok s
  | .lldp e => do
    let lldp ← lldpStep env s.lldp e
    pure { s with lldp := lldp }
  | .ecp22Start ownSrcAddr => ecp22StartOnce ownSrcAddr s
  | .ecp22Stop => .ok { s with ecp22 := none }
  | .ecp22 (.port _) => .ok s
  | .ecp22 e => s.onEcp22 fun x => ecp22Step x e
  | .vdpIfup ownSrcAddr => .ok (vdpIfup ownSrcAddr s)
  | .vdpIfdown => .ok { s with vd := s.vd.map ecpDeinit }
  | .ecp e => s.onVd fun x => ecpHandle x e

/-- A port and everything that reaches it. -/
def ecpPortSystem (env : Env μ) : System (EcpPort μ) (EcpPortEvent μ) where
  init s := s.lldp.Fresh ∧ s.ecp22 = none ∧ s.vd = none
  step := ecpPortStep env

end Lldpad.Qbg
