import Lldpad.Lib.Machine
import Lldpad.Lldp.Modules

/-!
# `Lldpad.Lldp.Tx`: the transmit machine and its timers

`lldp/tx.c`. The transmit machine (`runTxSm`) decides when a frame goes out, the
timer machine (`runTxTimersSm`) decides when one is due.
-/

namespace Lldpad.Lldp

open Lldpad.Lib

variable {μ : Type}

/-- The rounds that the machines of an agent are given. `runTxSm_total` and
`runTxTimersSm_total` show that no run needs more. -/
def smFuel : Nat := 64

/-! ### Frames -/

/-- The Ethernet header of an outgoing frame. -/
def ethHeader (env : Env μ) (a : LldpAgent) : Bytes :=
  a.macAddr ++ env.ownSrcAddr ++ [0x88, 0xcc]

/-- The frame buffer: `ETH_FRAME_LEN` bytes that start with the given ones. -/
def frameBuffer (b : Bytes) : Bytes := b ++ List.replicate (ethFrameLen - b.length) 0

def packEndTlv : Bytes := [0, 0]

/-- The TLVs of every module, one after the other. `none` stands for a TLV that no
longer fits. -/
def gettlvAll (p : Port) (a : LldpAgent) :
    List (LldpModule μ) → μ → Bytes → μ × Option Bytes
  | [], m, acc => (m, some acc)
  | np :: nps, m, acc =>
    match np.gettlv with
    | none => gettlvAll p a nps m acc
    | some f =>
      match f p a m with
      | (m', none) => gettlvAll p a nps m' acc
      | (m', some tlv) =>
        if tlv.length + acc.length > ethDataLen then (m', none)
        else gettlvAll p a nps m' (acc ++ tlv)

/-- The agent with a finished frame: header and TLVs, the End TLV last. `none`
stands for the error exit. -/
def setFrameout (a : LldpAgent) (frame : Option Bytes) : LldpAgent :=
  match frame with
  | none => { a with tx := { a.tx with frameout := none } }
  | some b =>
    if packEndTlv.length + b.length > ethDataLen then
      { a with tx := { a.tx with frameout := none } }
    else
      let b := b ++ packEndTlv
      let sizeout := if b.length - ethHlen < ethMinDataLen then ethZlen else b.length
      { a with tx := { a.tx with frameout := some (frameBuffer b), sizeout := sizeout } }

def mibConstrInfoLLDPDU (env : Env μ) (c : Ctx μ) : Ctx μ :=
  let a := { c.agent with tx := { c.agent.tx with frameout := none } }
  let (m, frame) := gettlvAll c.port a env.modules c.modules (ethHeader env a)
  { c with modules := m, agent := setFrameout a frame }

/-- `memset(&ptlv->tlv[ptlv->size - 2], 0, 2)`: the last TLV of the mandatory ones is
the TTL. -/
def zeroTtl (tlv : Bytes) : Bytes := tlv.take (tlv.length - 2) ++ [0, 0]

/-- `mibConstrShutdownLLDPDU`; the answer tells whether there is a frame. -/
def mibConstrShutdownLLDPDU (env : Env μ) (c : Ctx μ) : Ctx μ × Bool :=
  let a := { c.agent with tx := { c.agent.tx with frameout := none } }
  match (env.modules.find? fun np => np.isMand) >>= fun np => np.gettlv with
  | none => ({ c with agent := setFrameout a none }, false)
  | some f =>
    let (m, ptlv) := f c.port a c.modules
    let frame :=
      match ptlv with
      | none => some (ethHeader env a)
      | some tlv =>
        if tlv.length + (ethHeader env a).length > ethDataLen then none
        else some (ethHeader env a ++ zeroTtl tlv)
    let a := setFrameout a frame
    ({ c with modules := m, agent := a }, a.tx.frameout.isSome)

/-- `txFrame`. Without a frame buffer the socket sends nothing. -/
def txFrame (c : Ctx μ) : Ctx μ :=
  let wire :=
    match c.agent.tx.frameout with
    | none => c.wire
    | some b => b.take c.agent.tx.sizeout :: c.wire
  let stats :=
    { c.agent.stats with statsFramesOutTotal := c.agent.stats.statsFramesOutTotal + 1 }
  { c with wire := wire, agent := { c.agent with stats := stats } }

/-! ### The transmit machine -/

def getTtlInitVal (env : Env μ) (type : AgentType) : Nat :=
  match env.ttlConfig type with
  | none => defaultTxHold * defaultTxInterval
  | some v => (v % 65536).toNat

def txInitializeLLDP (env : Env μ) (a : LldpAgent) : LldpAgent :=
  { a with
    tx := { a.tx with
      frameout := none
      state := .txLldpInitialize
      localChange := false
      txTTL := getTtlInitVal env a.type }
    stats := { a.stats with statsFramesOutTotal := 0 }
    timers := { a.timers with
      reinitDelay := reinitDelayDefault
      msgTxHold := defaultTxHold
      msgTxInterval := defaultTxInterval
      msgFastTx := fastTxInterval }
    msap := { length1 := 0, msap1 := none, length2 := 0, msap2 := none }
    lldpdu := 0 }

def txInitializeTimers (a : LldpAgent) : LldpAgent :=
  { a with
    timers := { a.timers with
      txTick := false
      txTTR := 0
      txShutdownWhile := 0
      txMaxCredit := txCreditMax
      txCredit := txCreditMax
      txFastInit := txFastInitDefault
      state := .txTimerBegin }
    tx := { a.tx with txNow := false, localChange := false, txFast := 0 }
    rx := { a.rx with newNeighbor := false } }

def txChangeState (p : Port) (a : LldpAgent) (newstate : TxState) : Except Fault LldpAgent := do
  match newstate with
  | .txLldpInitialize =>
    if a.tx.state ≠ .txShutdownFrame ∧ p.portEnabled then assert p.portEnabled
  | .txIdle =>
    if ¬(a.tx.state = .txLldpInitialize ∨ a.tx.state = .txInfoFrame) then
      assert (a.tx.state = .txLldpInitialize)
      assert (a.tx.state = .txInfoFrame)
  | .txShutdownFrame | .txInfoFrame => assert (a.tx.state = .txIdle)
  pure { a with tx := { a.tx with state := newstate } }

def setTxState (c : Ctx μ) : Except Fault (Ctx μ × Bool) := do
  let p := c.port
  let a ←
    if p.portEnabled = false ∧ p.prevPortEnabled = true then
      txChangeState p c.agent .txLldpInitialize
    else pure c.agent
  let c := { c with port := { p with prevPortEnabled := p.portEnabled }, agent := a }
  match a.tx.state with
  | .txLldpInitialize =>
    if p.portEnabled ∧ a.adminStatus.allowsTx then
      let a ← txChangeState p a .txIdle
      pure ({ c with agent := a }, true)
    else pure (c, false)
  | .txIdle =>
    if a.adminStatus = .disabled ∨ a.adminStatus = .enabledRxOnly then
      let a ← txChangeState p a .txShutdownFrame
      pure ({ c with agent := a }, true)
    else if a.tx.txNow ∧ a.timers.txCredit > 0 then
      let a ← txChangeState p a .txInfoFrame
      pure ({ c with agent := a }, true)
    else pure (c, false)
  | .txShutdownFrame =>
    if a.timers.txShutdownWhile = 0 then
      let a ← txChangeState p a .txLldpInitialize
      pure ({ c with agent := a }, true)
    else pure (c, false)
  | .txInfoFrame =>
    let a ← txChangeState p a .txIdle
    pure ({ c with agent := a }, true)

def processTxShutdownFrame (env : Env μ) (c : Ctx μ) : Ctx μ :=
  if c.agent.timers.txShutdownWhile = 0 then
    let (c, sent) := mibConstrShutdownLLDPDU env c
    let c := if sent then txFrame c else c
    let timers := { c.agent.timers with txShutdownWhile := c.agent.timers.reinitDelay }
    { c with agent := { c.agent with timers := timers } }
  else c

def processTxInfoFrame (env : Env μ) (c : Ctx μ) : Ctx μ :=
  let c := txFrame (mibConstrInfoLLDPDU env c)
  let a := c.agent
  { c with
    agent := { a with
      timers := { a.timers with txCredit := a.timers.txCredit - 1 }
      tx := { a.tx with txNow := false } } }

/-- The `switch` of `run_tx_sm`. -/
def txAction (env : Env μ) (c : Ctx μ) : Ctx μ :=
  match c.agent.tx.state with
  | .txLldpInitialize => { c with agent := txInitializeLLDP env c.agent }
  | .txIdle => c
  | .txShutdownFrame => processTxShutdownFrame env c
  | .txInfoFrame => processTxInfoFrame env c

/-- The transmit machine. -/
def txMachine (env : Env μ) : Machine (Ctx μ) where
  move := setTxState
  act c := .ok (txAction env c)

def runTxSm (env : Env μ) (c : Ctx μ) : Except Fault (Ctx μ) :=
  (txMachine env).run smFuel c

/-! ### The transmit timer machine -/

def updateTxTimers (a : LldpAgent) : LldpAgent :=
  { a with timers := { a.timers with txTTR := a.timers.txTTR - 1, txTick := true } }

def txTimerChangeState (a : LldpAgent) (newstate : TxTimerState) : LldpAgent :=
  { a with timers := { a.timers with state := newstate } }

def setTxTimersState (p : Port) (a : LldpAgent) : LldpAgent × Bool :=
  let a :=
    if a.timers.state = .txTimerBegin ∨ p.portEnabled = false ∨ a.adminStatus = .disabled ∨
        a.adminStatus = .enabledRxOnly then
      txTimerChangeState a .txTimerInitialize
    else a
  match a.timers.state with
  | .txTimerInitialize =>
    if p.portEnabled ∧ a.adminStatus.allowsTx then (txTimerChangeState a .txTimerIdle, true)
    else (a, false)
  | .txTimerIdle =>
    if a.tx.localChange then (txTimerChangeState a .signalTx, true)
    else if a.timers.txTTR = 0 then (txTimerChangeState a .txTimerExpires, true)
    else if a.rx.newNeighbor then (txTimerChangeState a .txFastStart, true)
    else if a.timers.txTick then (txTimerChangeState a .txTick, true)
    else (a, false)
  | .txTimerExpires => (txTimerChangeState a .signalTx, true)
  | .signalTx | .txTick => (txTimerChangeState a .txTimerIdle, true)
  | .txFastStart => (txTimerChangeState a .txTimerExpires, true)
  | .txTimerBegin => (a, false)

/-- The `switch` of `run_tx_timers_sm`. -/
def txTimersAction (a : LldpAgent) : LldpAgent :=
  match a.timers.state with
  | .txTimerInitialize => txInitializeTimers a
  | .txTimerIdle => a
  | .txTimerExpires => { a with tx := { a.tx with txFast := a.tx.txFast - 1 } }
  | .txTick =>
    { a with
      timers := { a.timers with
        txTick := false
        txCredit :=
          if a.timers.txCredit < a.timers.txMaxCredit then a.timers.txCredit + 1
          else a.timers.txCredit } }
  | .signalTx =>
    { a with
      tx := { a.tx with txNow := true, localChange := false }
      timers := { a.timers with
        txTTR := if a.tx.txFast ≠ 0 then a.timers.msgFastTx else a.timers.msgTxInterval } }
  | .txFastStart =>
    { a with
      rx := { a.rx with newNeighbor := false }
      tx := { a.tx with
        txFast := if a.tx.txFast = 0 then a.timers.txFastInit else a.tx.txFast } }
  | .txTimerBegin => a

/-- The transmit timer machine. -/
def txTimersMachine (p : Port) : Machine LldpAgent where
  move a := .ok (setTxTimersState p a)
  act a := .ok (txTimersAction a)

def runTxTimersSm (p : Port) (a : LldpAgent) : Except Fault LldpAgent :=
  (txTimersMachine p).run smFuel a

/-! ## Builds that fail

`mibConstrInfoLLDPDU` with its answer. `malloc` may fail to give it a frame buffer, and
`pack_end_tlv` may fail to give it the End TLV: which of them succeed is a parameter. A module
that runs out of memory hands over no TLV, and that is a matter of its hook.

`get_local_tlvs` of `lldp/ports.c` reads the frame that the last build left.
-/

/-- The allocations of a build that succeed -/
structure Alloc where
  /-- the frame buffer -/
  frame : Bool := true
  /-- the End TLV -/
  endTlv : Bool := true
  deriving DecidableEq

/-- The frame of the last build is freed. -/
def LldpAgent.freeFrameout (a : LldpAgent) : LldpAgent :=
  { a with tx := { a.tx with frameout := none } }

/-- `mibConstrInfoLLDPDU`, with its answer. Without a buffer no module is asked. -/
def Alloc.mibConstrInfoLLDPDU (alloc : Alloc) (env : Env μ) (c : Ctx μ) : Ctx μ × Bool :=
  let a := c.agent.freeFrameout
  if alloc.frame then
    let (m, frame) := gettlvAll c.port a env.modules c.modules (ethHeader env a)
    let a := setFrameout a (if alloc.endTlv then frame else none)
    ({ c with modules := m, agent := a }, a.tx.frameout.isSome)
  else ({ c with agent := a }, false)

/-- `process_tx_info_frame`. Nobody looks at the answer of the build. -/
def Alloc.processTxInfoFrame (alloc : Alloc) (env : Env μ) (c : Ctx μ) : Ctx μ :=
  let c := txFrame (alloc.mibConstrInfoLLDPDU env c).1
  let a := c.agent
  { c with
    agent := { a with
      timers := { a.timers with txCredit := a.timers.txCredit - 1 }
      tx := { a.tx with txNow := false } } }

/-- The answers of `get_local_tlvs` -/
inductive CmdStatus where
  | success
  | agentNotFound
  | invalid
  deriving DecidableEq, Repr

/-- `get_local_tlvs`: the answer, the size and the bytes that are copied -/
def getLocalTlvs (agents : List LldpAgent) (type : AgentType) :
    Except Fault (CmdStatus × Int × Bytes) :=
  match agents.find? fun a => a.type = type with
  | none => .ok (.agentNotFound, 0, [])
  | some a =>
    match a.tx.frameout with
    | none => .ok (.success, 0, [])
    | some frameout =>
      let size : Int := a.tx.sizeout - ethHlen
      if size < 0 then .ok (.invalid, size, [])
      else if ethHlen + size.toNat ≤ frameout.length then
        .ok (.success, size, (frameout.drop ethHlen).take size.toNat)
      else .error .outOfBounds

end Lldpad.Lldp
