import Lldpad.Lldp.Agent

/-!
# `Lldpad.Lldp.Reentry`: the machines run from within a frame

`ieee8021qaz_rchange` is a hook of the walk over a frame, and on the End TLV it may call
`set_lldp_agent_admin`: an agent that only receives goes to `enabledRxTx`, and both of its
machines run while `rxProcessFrame` is still at work on the frame.

`Rx` and `Agent` have the machines without such a hook. Here the functions between the hook
and the event are once more, over an environment whose hooks may make the call.
`runRxSm` is given how many runs may lie within each other.
-/

namespace Lldpad.Lldp

open Lldpad.Lib

variable {μ : Type}

/-- What the `lldp_mod_rchange` of a module does from its call of `set_lldp_agent_admin` on. The
part in front of the call is `LldpModule.rchange`. -/
structure Raiser (μ : Type) where
  /-- the test in front of the call -/
  raises : Port → AgentView → μ → Bool
  /-- the part behind the call -/
  rest : Port → AgentView → μ → UnpackedTlv → RchangeResult μ

/-- The daemon, with the modules that may call `set_lldp_agent_admin` within a frame -/
structure RaisingEnv (μ : Type) extends Env μ where
  hooks : List (LldpModule μ × Option (Raiser μ))
  hooks_modules : hooks.map Prod.fst = modules

/-- The daemon of an environment whose modules make no such call -/
def Env.quiet (env : Env μ) : RaisingEnv μ where
  toEnv := env
  hooks := env.modules.map fun np => (np, none)
  hooks_modules := by rw [List.map_map]; exact List.map_id _

namespace Reentry

/-! ### The walk over a frame

`sms` runs both machines of the agent.
-/

section Walk

variable (sms : Ctx μ → Except Fault (Ctx μ))

def setAgentAdmin (admin : AdminStatus) (c : Ctx μ) : Except Fault (Ctx μ) :=
  if c.agent.adminStatus ≠ admin then
    sms { c with agent := somethingChangedLocal { c.agent with adminStatus := admin } }
  else .ok c

/-- The hook from its test on, with the answer of the whole hook. `answer` is that without the
call. -/
def raise (x : Option (Raiser μ)) (tlv : UnpackedTlv) (answer : Answer) (c : Ctx μ) :
    Except Fault (Ctx μ × Answer) :=
  match x with
  | none => .ok (c, answer)
  | some x =>
    if tlv.type = 0 ∧ c.agent.adminStatus = .enabledRxOnly ∧
        x.raises c.port c.agent.view c.modules = true then do
      let c ← setAgentAdmin sms .enabledRxTx c
      let r := x.rest c.port c.agent.view c.modules tlv
      pure (c.rchange r, r.answer)
    else .ok (c, answer)

def rchangeAll : List (LldpModule μ × Option (Raiser μ)) → Ctx μ → UnpackedTlv → Bool →
    Except Fault (Ctx μ × Option Bool)
  | [], c, _, tlvStored => .ok (c, some tlvStored)
  | (np, x) :: nps, c, tlv, tlvStored =>
    match np.rchange with
    | none => rchangeAll nps c tlv tlvStored
    | some f => do
      let r := f c.port c.agent.view c.modules tlv
      let (c, answer) ← raise sms x tlv r.answer (c.rchange r)
      match answer with
      | .tlvOk => rchangeAll nps c tlv true
      | .tlvErr => pure (c, none)
      | .subtypeInvalid => rchangeAll nps c tlv tlvStored

/-- One pass of the loop of `rxProcessFrame`, as `Lldp.rxTlv` has it -/
def rxTlv (hooks : List (LldpModule μ × Option (Raiser μ))) (f : Frame) (s : Ctx μ × RxLocals) :
    Except Fault (Pass (Ctx μ × RxLocals) (Ctx μ × Bool)) :=
  let (c, l) := s
  let l := { l with tlvCnt := l.tlvCnt + 1 }
  match readTlv f l.tlvCnt l.tlvOffset with
  | none => .ok (.leave (c, true))
  | some (tlvType, tlvLength) =>
    let info := f.slice (l.tlvOffset + 2) tlvLength
    let (tlv, tlvs) := createTlv c.tlvs
    let c := { c with tlvs := tlvs }
    if tlvLength = 0 ∧ tlv.type ≠ 0 then .ok (.leave ({ c with tlvs := tlvs.free tlv.ref }, false))
    else
      let tlv := { tlv with type := tlvType, length := tlvLength, info := info }
      let l := { l with tlvOffset := l.tlvOffset + 2 + tlvLength }
      match storeTlv f c.agent l tlv with
      | none => .ok (.leave ({ c with tlvs := c.tlvs.free tlv.ref }, true))
      | some (a, l) => do
        match ← rchangeAll sms hooks { c with agent := a } tlv l.tlvStored with
        | (c, none) => pure (.leave ({ c with tlvs := c.tlvs.free tlv.ref }, true))
        | (c, some tlvStored) =>
          let c := dropUnstored c tlv tlvStored
          if tlvType ≠ 0 then pure (.again (c, { l with tlvStored := false }))
          else pure (.leave (c, false))

/-! ### The receive machine -/

variable (env : RaisingEnv μ)

def rxProcessFrame (c : Ctx μ) : Except Fault (Ctx μ) :=
  match c.agent.rx.framein with
  | none => .error .assertFailed
  | some f => do
    assert (f.size ≠ 0)
    let s ← iterate (rxTlv sms env.hooks f) (tlvFuel f)
      ({ c with agent := beginFrame c.agent }, {})
    pure (endFrame f s)

def processRxFrame (c : Ctx μ) : Except Fault (Ctx μ) :=
  let a := c.agent
  rxProcessFrame sms env { c with
    agent := { a with
      rxChanges := false
      rx := { a.rx with remoteChange := false, rcvFrame := false } } }

/-- The `switch` of `run_rx_sm` -/
def rxAction (c : Ctx μ) : Except Fault (Ctx μ) :=
  match c.agent.rx.state with
  | .lldpWaitPortOperational => .ok c
  | .deleteAgedInfo => .ok (processDeleteAgedInfo env.toEnv c)
  | .rxLldpInitialize => .ok (processRxLldpInitialize env.toEnv c)
  | .rxWaitForFrame => .ok { c with agent := processWaitForFrame c.agent }
  | .rxFrame => processRxFrame sms env c
  | .deleteInfo => .ok (processDeleteInfo env.toEnv c)
  | .updateInfo => .ok { c with agent := processUpdateInfo c.agent }

def rxMachine : Machine (Ctx μ) where
  move := (Lldp.rxMachine env.toEnv).move
  act := rxAction sms env

end Walk

/-- The receive machine, with at most `depth` runs within each other -/
def runRxSmWithin (env : RaisingEnv μ) : Nat → Ctx μ → Except Fault (Ctx μ)
  | 0, _ => .error .outOfFuel
  | depth + 1, c =>
    (rxMachine (fun d => runTxSm env.toEnv d >>= runRxSmWithin env depth) env).run smFuel c

/-- A run within a frame meets no frame: `runRxSm_ends` shows that it is the only one. -/
def runRxSm (env : RaisingEnv μ) : Ctx μ → Except Fault (Ctx μ) := runRxSmWithin env 2

/-! ### The handlers of the events

As `Lldp.Agent` has them, with the receive machine as a parameter.
-/

section Handlers

variable (env : Env μ) (rxSm : Ctx μ → Except Fault (Ctx μ))

def runSms (c : Ctx μ) : Except Fault (Ctx μ) := do
  let c ← runTxSm env c
  rxSm c

def agentTick (c : Ctx μ) : Except Fault (Ctx μ) := do
  let a ← runTxTimersSm c.port (updateTxTimers c.agent)
  let c ← runTxSm env { c with agent := a }
  let c ← rxSm c
  pure (callHooks LldpModule.timer env.modules { c with agent := updateRxTimers c.agent })

def rxAcceptFrame (f : Frame) (c : Ctx μ) : Except Fault (Ctx μ) :=
  let a := c.agent
  if a.adminStatus = .disabled ∨ a.adminStatus = .enabledTxOnly then .ok c
  else
    rxSm { c with
      agent := { a with
        rx := { a.rx with framein := some f, rcvFrame := true }
        stats := { a.stats with statsFramesInTotal := a.stats.statsFramesInTotal + 1 } } }

def rxReceiveLoop (f : Frame) :
    World μ → List LldpAgent → Except Fault (World μ × List LldpAgent)
  | w, [] => .ok (w, [])
  | w, a :: as =>
    if a.holdsFrame f then .ok (w, rxRepeatFrame f a :: as)
    else if f.hProto ≠ ethPLldp then .ok (w, a :: as)
    else if f.hDest = a.macAddr then do
      let c ← rxAcceptFrame rxSm f { w with agent := a }
      pure (c.toWorld, c.agent :: as)
    else do
      let (w', as') ← rxReceiveLoop f w as
      pure (w', a :: as')

def rxReceiveFrame (f : Frame) (s : PortState μ) : Except Fault (PortState μ) := do
  if f.size = 0 then pure s
  else
    let (w, as) ← rxReceiveLoop rxSm f s.toWorld s.agents
    pure { w with agents := as }

def timer (s : PortState μ) : Except Fault (PortState μ) := do
  let x ← forAgents (agentTick env rxSm) s.toWorld s.agents
  let s := PortState.ofPair x
  pure { s with port := { s.port with dormantDelay := s.port.dormantDelay - 1 } }

def setLldpAgentAdmin (type : AgentType) (admin : AdminStatus) (s : PortState μ) :
    Except Fault (PortState μ) := do
  let x ← forAgent (fun a => a.type = type) (setAgentAdmin (runSms env rxSm) admin) s.toWorld
    s.agents
  pure (.ofPair x)

def setLldpPortEnable (enable : Bool) (s : PortState μ) : Except Fault (PortState μ) := do
  let w : World μ := { s.toWorld with port := { s.port with portEnabled := enable } }
  let agents := if enable then s.agents else s.agents.map dropInfoAge
  let x ← forAgents (runSms env rxSm) w agents
  pure (.ofPair x)

/-- One event. The other events run no machine. -/
def lldpStep (s : PortState μ) : Event μ → Except Fault (PortState μ)
  | .frame f => rxReceiveFrame rxSm f s
  | .tick => timer env rxSm s
  | .setAdmin type admin => setLldpAgentAdmin env rxSm type admin s
  | .portEnable enable => setLldpPortEnable env rxSm enable s
  | e => Lldp.lldpStep env s e

end Handlers

/-- A port and everything that reaches it, where a hook may run the machines -/
def lldpSystem (env : RaisingEnv μ) : System (PortState μ) (Event μ) where
  init := PortState.Fresh
  step := lldpStep env.toEnv (runRxSm env)

end Reentry

end Lldpad.Lldp
