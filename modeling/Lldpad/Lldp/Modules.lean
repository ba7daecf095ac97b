import Lldpad.Lib.Fault
import Lldpad.Lldp.Types

/-!
# `Lldpad.Lldp.Modules`: what an agent's handlers work on

The core of the daemon calls the registered modules through `struct
lldp_mod_ops`. The modules are a parameter: `LldpModule μ` lists the hooks that
the machines call, over a type `μ` that holds everything the modules keep. A hook
cannot reach into the agent. It reports what it asks the core to do: the kick of
`somethingChangedLocal`, the marks in `agent->lldpdu`, the flag
`agent->rxChanges`, and the TLVs that it released.

`TlvHeap` follows the received TLVs: the number that `create_tlv` handed out and
every call of `free_unpkd_tlv` on one of them. A second release of a TLV is a
second entry.

`Ctx` is one agent with what it shares with the port's other agents, `World` is
the shared part. The agents of a port take turns on it (`forAgents`).
-/

namespace Lldpad.Lldp

open Lldpad.Lib

/-! ### The received TLVs -/

/-- The received TLVs: how many were created, and every release, latest first. -/
structure TlvHeap where
  created : Nat := 0
  freed : List Nat := []
  deriving DecidableEq, Repr

/-- `free_unpkd_tlv` -/
def TlvHeap.free (h : TlvHeap) (ref : Nat) : TlvHeap := { h with freed := ref :: h.freed }

/-- `free_unpkd_tlv` on a pointer that may be `NULL` -/
def TlvHeap.freeOpt (h : TlvHeap) : Option Nat → TlvHeap
  | none => h
  | some ref => h.free ref

/-- The releases that a module made itself. -/
def TlvHeap.freeAll (h : TlvHeap) (refs : List Nat) : TlvHeap :=
  { h with freed := refs ++ h.freed }

/-! ### The modules -/

/-- What a module's `lldp_mod_rchange` returns. -/
inductive Answer where
  | tlvOk
  | tlvErr
  | subtypeInvalid
  deriving DecidableEq, Repr

/-- What a hook sees of the agent. -/
structure AgentView where
  type : AgentType
  adminStatus : AdminStatus
  lldpdu : BitVec 16
  dupTlvs : Nat
  dcbxSt : Nat
  deriving DecidableEq, Repr

/-- What a hook leaves behind: the modules' data, the TLVs it released and whether
it called `somethingChangedLocal`. -/
structure HookResult (μ : Type) where
  modules : μ
  freed : List Nat := []
  localChange : Bool := false

/-- What `lldp_mod_rchange` leaves behind. `dcbx1` and `dcbx2` are the marks
`RCVD_LLDP_DCBX1_TLV` and `RCVD_LLDP_DCBX2_TLV` that it sets in `agent->lldpdu`,
`dupTlvs` the bits that it sets in `agent->rx.dupTlvs`, `dcbxSt` what it stores in
`agent->rx.dcbx_st`. -/
structure RchangeResult (μ : Type) extends HookResult μ where
  answer : Answer
  rxChanges : Bool := false
  dcbx1 : Bool := false
  dcbx2 : Bool := false
  dupTlvs : Nat := 0
  dcbxSt : Option Nat := none

/-- The hooks of `struct lldp_mod_ops` that the machines call. `isMand` marks the
module with the id `LLDP_MOD_MAND`. -/
structure LldpModule (μ : Type) where
  isMand : Bool := false
  gettlv : Option (Port → LldpAgent → μ → μ × Option Bytes) := none
  rchange : Option (Port → AgentView → μ → UnpackedTlv → RchangeResult μ) := none
  mibdelete : Option (Port → AgentView → μ → HookResult μ) := none
  timer : Option (Port → AgentView → μ → HookResult μ) := none

/-- What the daemon reads and does not change: the modules in the order of
`lldp_head`, the port's own address and the stored configuration. -/
structure Env (μ : Type) where
  modules : List (LldpModule μ)
  ownSrcAddr : Bytes := []
  /-- the `TTL` setting of an agent, when there is one -/
  ttlConfig : AgentType → Option Int := fun _ => none
  /-- the `adminStatus` setting of an agent, when there is one -/
  adminConfig : AgentType → Option AdminStatus := fun _ => none

/-! ### One agent and its surroundings -/

/-- What the agents of a port share. `wire` is what went out, latest first. `kicks` is a ghost: the
hooks that called `somethingChangedLocal`. -/
structure World (μ : Type) where
  port : Port
  modules : μ
  tlvs : TlvHeap := {}
  wire : List Bytes := []
  kicks : Nat := 0

/-- One agent and what it shares with the others. -/
structure Ctx (μ : Type) extends World μ where
  agent : LldpAgent

variable {μ : Type}

/-- What a hook sees of the agent. -/
def LldpAgent.view (a : LldpAgent) : AgentView :=
  { type := a.type, adminStatus := a.adminStatus, lldpdu := a.lldpdu
    dupTlvs := a.rx.dupTlvs, dcbxSt := a.rx.dcbxSt }

/-- `somethingChangedLocal`, called for the agent itself -/
def somethingChangedLocal (a : LldpAgent) : LldpAgent :=
  { a with tx := { a.tx with localChange := true, txFast := a.timers.txFastInit } }

/-- The agent after a hook that may have called `somethingChangedLocal`. -/
def kick (a : LldpAgent) (localChange : Bool) : LldpAgent :=
  if localChange then somethingChangedLocal a else a

/-- The effect of a hook. -/
def Ctx.hook (c : Ctx μ) (r : HookResult μ) : Ctx μ :=
  { c with
    modules := r.modules
    tlvs := c.tlvs.freeAll r.freed
    kicks := c.kicks + if r.localChange then 1 else 0
    agent := kick c.agent r.localChange }

/-- A walk over `lldp_head` that calls one optional hook. -/
def callHooks (hook : LldpModule μ → Option (Port → AgentView → μ → HookResult μ)) :
    List (LldpModule μ) → Ctx μ → Ctx μ
  | [], c => c
  | np :: nps, c =>
    match hook np with
    | none => callHooks hook nps c
    | some f => callHooks hook nps (c.hook (f c.port c.agent.view c.modules))

/-! ### The agents of a port -/

/-- A port with its agents. -/
structure PortState (μ : Type) extends World μ where
  agents : List LldpAgent

/-- `LIST_FOREACH(agent, &port->agent_head, entry)`: the handler runs on every
agent in turn. -/
def forAgents (f : Ctx μ → Except Fault (Ctx μ)) :
    World μ → List LldpAgent → Except Fault (World μ × List LldpAgent)
  | w, [] => .ok (w, [])
  | w, a :: as => do
    let c ← f { w with agent := a }
    let (w', as') ← forAgents f c.toWorld as
    pure (w', c.agent :: as')

/-- The handler runs on the first agent that `p` holds of, if there is one. -/
def forAgent (p : LldpAgent → Bool) (f : Ctx μ → Except Fault (Ctx μ)) :
    World μ → List LldpAgent → Except Fault (World μ × List LldpAgent)
  | w, [] => .ok (w, [])
  | w, a :: as =>
    if p a then do
      let c ← f { w with agent := a }
      pure (c.toWorld, c.agent :: as)
    else do
      let (w', as') ← forAgent p f w as
      pure (w', a :: as')

/-! ### What the hooks leave alone -/

@[simp] theorem kick_adminStatus (a : LldpAgent) (b : Bool) :
    (kick a b).adminStatus = a.adminStatus := by
  cases b <;> rfl

@[simp] theorem kick_type (a : LldpAgent) (b : Bool) : (kick a b).type = a.type := by
  cases b <;> rfl

@[simp] theorem kick_rx (a : LldpAgent) (b : Bool) : (kick a b).rx = a.rx := by
  cases b <;> rfl

@[simp] theorem kick_timers (a : LldpAgent) (b : Bool) : (kick a b).timers = a.timers := by
  cases b <;> rfl

@[simp] theorem kick_stats (a : LldpAgent) (b : Bool) : (kick a b).stats = a.stats := by
  cases b <;> rfl

@[simp] theorem kick_rxChanges (a : LldpAgent) (b : Bool) :
    (kick a b).rxChanges = a.rxChanges := by
  cases b <;> rfl

@[simp] theorem kick_lldpdu (a : LldpAgent) (b : Bool) : (kick a b).lldpdu = a.lldpdu := by
  cases b <;> rfl

@[simp] theorem kick_msap (a : LldpAgent) (b : Bool) : (kick a b).msap = a.msap := by
  cases b <;> rfl

@[simp] theorem kick_history (a : LldpAgent) (b : Bool) : (kick a b).history = a.history := by
  cases b <;> rfl

@[simp] theorem kick_tx_state (a : LldpAgent) (b : Bool) :
    (kick a b).tx.state = a.tx.state := by
  cases b <;> rfl

/-- The invariant rule of a walk over the modules: a hook changes the agent by at
most a kick. -/
theorem callHooks_induction
    (hook : LldpModule μ → Option (Port → AgentView → μ → HookResult μ)) {I : Ctx μ → Prop}
    (hstep : ∀ c r, I c → I (c.hook r)) (nps : List (LldpModule μ)) :
    ∀ c, I c → I (callHooks hook nps c) := by
  induction nps with
  | nil => intro c h; exact h
  | cons np nps ih =>
    intro c h
    rw [callHooks]
    cases hook np with
    | none => exact ih c h
    | some f => exact ih _ (hstep c _ h)

/-- A walk over the modules leaves the port and the wire alone and kicks the agent
at most. -/
theorem callHooks_frame
    (hook : LldpModule μ → Option (Port → AgentView → μ → HookResult μ))
    (nps : List (LldpModule μ)) (c : Ctx μ) :
    (callHooks hook nps c).port = c.port ∧ (callHooks hook nps c).wire = c.wire ∧
      ∃ b, (callHooks hook nps c).agent = kick c.agent b := by
  refine callHooks_induction hook (I := fun d => d.port = c.port ∧ d.wire = c.wire ∧
    ∃ b, d.agent = kick c.agent b) ?_ nps c ⟨rfl, rfl, false, rfl⟩
  rintro d r ⟨hport, hwire, b, hb⟩
  refine ⟨hport, hwire, r.localChange || b, ?_⟩
  show kick d.agent r.localChange = _
  rw [hb]
  cases r.localChange <;> cases b <;> rfl

end Lldpad.Lldp
