import Lldpad.Lib.Transition
import Lldpad.Lldp.Rx

/-!
# `Lldpad.Lldp.Agent`: a port and its agents as one system

`lldp/agent.c` and `lldp/ports.c`: the creation of an agent, the one-second timer,
the administrator's and the link's changes. `Event` lists everything that reaches a
port between its creation by `add_port` and its removal, in whatever order;
`lldpSystem` handles one event at a time.

The event loop is single-threaded: no handler starts before another one is done.
Two events stand for code outside the LLDP machines. `ecpTx` is a run of an ECP
transmit machine of the same port: it leaves `prevPortEnabled` equal to
`portEnabled`. `modulesWork` is anything the modules do on their own.
-/

namespace Lldpad.Lldp

open Lldpad.Lib

variable {μ : Type}

/-! ### Handlers of one agent -/

def lldpInitAgent (env : Env μ) (w : World μ) (type : AgentType) : Ctx μ :=
  let a : LldpAgent :=
    { type := type, adminStatus := (env.adminConfig type).getD .disabled }
  let c := rxInitializeLLDP env { w with agent := a }
  { c with agent := txInitializeLLDP env (txInitializeTimers c.agent) }

/-- The body of `timer` for one agent. -/
def agentTick (env : Env μ) (c : Ctx μ) : Except Fault (Ctx μ) := do
  let a ← runTxTimersSm c.port (updateTxTimers c.agent)
  let c ← runTxSm env { c with agent := a }
  let c ← runRxSm env c
  pure (callHooks LldpModule.timer env.modules { c with agent := updateRxTimers c.agent })

/-- `run_tx_sm` and then `run_rx_sm` -/
def runSms (env : Env μ) (c : Ctx μ) : Except Fault (Ctx μ) := do
  let c ← runTxSm env c
  runRxSm env c

/-- What `set_lldp_agent_admin` does to the agent. -/
def setAgentAdmin (env : Env μ) (admin : AdminStatus) (c : Ctx μ) : Except Fault (Ctx μ) :=
  if c.agent.adminStatus ≠ admin then
    runSms env { c with agent := somethingChangedLocal { c.agent with adminStatus := admin } }
  else .ok c

/-- The body of the loop of `reinit_port`. -/
def reinitAgent (env : Env μ) (c : Ctx μ) : Ctx μ :=
  let a := c.agent
  let c := rxInitializeLLDP env { c with
    agent := { a with
      tx := { a.tx with state := .txLldpInitialize }
      rx := { a.rx with state := .lldpWaitPortOperational }
      msap := { length1 := 0, msap1 := none, length2 := 0, msap2 := none }
      lldpdu := 0
      timers := { a.timers with state := .txTimerBegin } } }
  { c with agent := txInitializeLLDP env (txInitializeTimers c.agent) }

/-- The body of `mand_update_ttl`: the administrator's TTL for outgoing frames. -/
def mandUpdateTtl (a : LldpAgent) (ttl : Nat) : LldpAgent :=
  somethingChangedLocal { a with tx := { a.tx with txTTL := ttl } }

/-! ### The system -/

/-- What reaches a port. -/
inductive Event (μ : Type) where
  /-- a frame on the wire: `rxReceiveFrame` -/
  | frame (f : Frame)
  /-- the one-second timer: `timer` -/
  | tick
  /-- `set_lldp_agent_admin` -/
  | setAdmin (type : AgentType) (admin : AdminStatus)
  /-- `set_lldp_port_enable` -/
  | portEnable (enable : Bool)
  /-- `set_port_oper_delay` -/
  | operDelay
  /-- `reinit_port` -/
  | reinitPort
  /-- `lldp_add_agent` -/
  | addAgent (type : AgentType)
  /-- a command that ends in `somethingChangedLocal` -/
  | localChange (type : AgentType)
  /-- `mand_update_ttl` -/
  | updateTtl (ttl : Nat)
  /-- a run of an ECP transmit machine of this port -/
  | ecpTx
  /-- work that the modules do on their own -/
  | modulesWork (m : μ)

/-- A port with the results of a walk over its agents. -/
def PortState.ofPair (x : World μ × List LldpAgent) : PortState μ := { x.1 with agents := x.2 }

/-- `timer`, for one port -/
def timer (env : Env μ) (s : PortState μ) : Except Fault (PortState μ) := do
  let x ← forAgents (agentTick env) s.toWorld s.agents
  let s := PortState.ofPair x
  pure { s with port := { s.port with dormantDelay := s.port.dormantDelay - 1 } }

def setLldpAgentAdmin (env : Env μ) (type : AgentType) (admin : AdminStatus)
    (s : PortState μ) : Except Fault (PortState μ) := do
  let x ← forAgent (fun a => a.type = type) (setAgentAdmin env admin) s.toWorld s.agents
  pure (.ofPair x)

/-- `agent->rx.rxInfoAge = false` -/
def dropInfoAge (a : LldpAgent) : LldpAgent := { a with rx := { a.rx with rxInfoAge := false } }

def setLldpPortEnable (env : Env μ) (enable : Bool) (s : PortState μ) :
    Except Fault (PortState μ) := do
  let w : World μ := { s.toWorld with port := { s.port with portEnabled := enable } }
  let agents := if enable then s.agents else s.agents.map dropInfoAge
  let x ← forAgents (runSms env) w agents
  pure (.ofPair x)

def reinitPort (env : Env μ) (s : PortState μ) : Except Fault (PortState μ) := do
  let port := { s.port with
    hwResetting := false, portEnabled := false, dormantDelay := dormantDelayDefault }
  let x ← forAgents (fun c => .ok (reinitAgent env c)) { s.toWorld with port := port } s.agents
  pure (.ofPair x)

def lldpAddAgent (env : Env μ) (type : AgentType) (s : PortState μ) : PortState μ :=
  if s.agents.any fun a => a.type = type then s
  else
    let c := lldpInitAgent env s.toWorld type
    { c.toWorld with agents := c.agent :: s.agents }

/-- The agents with a change to those of one type. -/
def PortState.mapType (s : PortState μ) (type : AgentType) (f : LldpAgent → LldpAgent) :
    PortState μ :=
  { s with agents := s.agents.map fun a => if a.type = type then f a else a }

/-- One event. -/
def lldpStep (env : Env μ) (s : PortState μ) : Event μ → Except Fault (PortState μ)
  | .frame f => rxReceiveFrame env f s
  | .tick => timer env s
  | .setAdmin type admin => setLldpAgentAdmin env type admin s
  | .portEnable enable => setLldpPortEnable env enable s
  | .operDelay => .ok { s with port := { s.port with dormantDelay := dormantDelayDefault } }
  | .reinitPort => reinitPort env s
  | .addAgent type => .ok (lldpAddAgent env type s)
  | .localChange type => .ok (s.mapType type somethingChangedLocal)
  | .updateTtl ttl => .ok { s with agents := s.agents.map fun a => mandUpdateTtl a ttl }
  | .ecpTx => .ok { s with port := { s.port with prevPortEnabled := s.port.portEnabled } }
  | .modulesWork m => .ok { s with modules := m }

/-- A port as `add_port` leaves it: no agent yet, the link down. -/
def PortState.Fresh (s : PortState μ) : Prop :=
  s.agents = [] ∧ s.port = { dormantDelay := dormantDelayDefault }

/-- A port and everything that reaches it. -/
def lldpSystem (env : Env μ) : System (PortState μ) (Event μ) where
  init := PortState.Fresh
  step := lldpStep env

end Lldpad.Lldp
