import Lldpad.Lldp.Tx

/-!
# `Lldpad.Lldp.Rx`: the receive machine

`lldp/rx.c`: the entry point of a received frame, the walk over its TLVs, the
deletion of a neighbour and the receive machine (`runRxSm`).

`rxProcessFrame` works through a frame TLV by TLV. `readTlv` is the part of one
pass that only looks at the frame, `storeTlv` keeps the TLV and the neighbour's
identity, `rchangeAll` offers it to the modules and `rxTlv` is the whole pass.
-/

namespace Lldpad.Lldp

open Lldpad.Lib

variable {μ : Type}

/-! ### Deletion -/

def mibDeleteObjects (env : Env μ) (c : Ctx μ) : Ctx μ :=
  let c := callHooks LldpModule.mibdelete env.modules c
  let a := c.agent
  { c with
    agent := { a with
      msap := { length1 := 0, msap1 := none, length2 := 0, msap2 := none }
      history := { a.history with remote := {} } } }

def rxInitializeLLDP (env : Env μ) (c : Ctx μ) : Ctx μ :=
  let a := c.agent
  mibDeleteObjects env { c with
    agent := { a with
      rx := { a.rx with
        rcvFrame := false
        badFrame := false
        tooManyNghbrs := false
        rxInfoAge := false
        framein := none } } }

/-! ### The TLVs of a frame -/

/-- The bit of a TLV type in `agent->lldpdu`: `RCVD_LLDP_TLV_TYPE0` and so on. -/
def rcvdBit (type : Nat) : BitVec 16 := 1#16 <<< type

/-- `RCVD_LLDP_DCBX1_TLV` -/
def rcvdDcbx1 : BitVec 16 := 0x0200#16

/-- `RCVD_LLDP_DCBX2_TLV` -/
def rcvdDcbx2 : BitVec 16 := 0x0400#16

/-- `create_tlv`: a zeroed TLV with a new handle. -/
def createTlv (h : TlvHeap) : UnpackedTlv × TlvHeap :=
  ({ ref := h.created, type := 0, length := 0, info := [] },
    { h with created := h.created + 1 })

/-- The header of the TLV at `tlvOffset`, when it passes the checks that come before
the TLV is created. `tlvCnt` counts the TLVs of the frame from 1. -/
def readTlv (f : Frame) (tlvCnt tlvOffset : Nat) : Option (Nat × Nat) :=
  if tlvOffset > f.size then none  -- frame overrun
  else
    let tlvLength := f.word tlvOffset % 512
    let tlvType := f.word tlvOffset / 512
    if tlvCnt ≤ 3 ∧ tlvCnt ≠ tlvType then none  -- missing or out of order
    else if tlvCnt > 3 ∧ (tlvType = 1 ∨ tlvType = 2 ∨ tlvType = 3) then none  -- extra
    else if tlvType = 3 ∧ tlvLength ≠ 2 then none  -- TTL validation
    -- the overflow check leaves the two bytes of the header out
    else if tlvOffset + tlvLength > f.size then none
    else some (tlvType, tlvLength)

/-- The locals of `rxProcessFrame` that live across the TLVs of a frame. -/
structure RxLocals where
  tlvCnt : Nat := 0
  tlvOffset : Nat := ethHlen
  msapCompare1 : Bool := false
  msapCompare2 : Bool := false
  goodNeighbor : Bool := false
  tlvStored : Bool := false
  deriving DecidableEq, Repr

/-- The agent with another manifest. -/
def LldpAgent.setManifest (a : LldpAgent) (f : RxManifest → RxManifest) : LldpAgent :=
  { a with rx := { a.rx with manifest := a.rx.manifest.map f } }

/-- `agent->lldpdu |= bit` -/
def LldpAgent.markRcvd (a : LldpAgent) (bit : BitVec 16) : LldpAgent :=
  { a with lldpdu := a.lldpdu ||| bit }

/-- Ghost: the first chassis ID since the last deletion. -/
def Msap.withChassisId (m : Msap) (tlv : UnpackedTlv) : Msap :=
  if m.msap1 = none then { m with length1 := tlv.length, msap1 := some tlv.info } else m

/-- Ghost: the first port ID since the last deletion. -/
def Msap.withPortId (m : Msap) (tlv : UnpackedTlv) : Msap :=
  if m.msap2 = none then { m with length2 := tlv.length, msap2 := some tlv.info } else m

/-- The chassis ID becomes the recorded one, or is compared with it. -/
def recordChassisId (a : LldpAgent) (l : RxLocals) (tlv : UnpackedTlv) : LldpAgent × RxLocals :=
  match a.msap.msap1 with
  | none =>
    let msap := { a.msap with length1 := tlv.length, msap1 := some tlv.info }
    let remote := a.history.remote.withChassisId tlv
    ({ a with msap := msap, history := { a.history with remote := remote } }, l)
  | some id =>
    if tlv.length = a.msap.length1 ∧ tlv.info = id then (a, { l with msapCompare1 := true })
    else (a, l)

/-- The chassis ID. `none` stands for the exit on a second one. -/
def storeChassisId (a : LldpAgent) (l : RxLocals) (tlv : UnpackedTlv) :
    Option (LldpAgent × RxLocals) :=
  if a.lldpdu &&& rcvdBit 1 ≠ 0 then none
  else
    let a := (a.markRcvd (rcvdBit 1)).setManifest fun m => { m with chassis := some tlv.ref }
    some (recordChassisId a { l with tlvStored := true } tlv)

/-- The port ID becomes the recorded one, or is compared with it. -/
def recordPortId (a : LldpAgent) (l : RxLocals) (tlv : UnpackedTlv) : LldpAgent × RxLocals :=
  match a.msap.msap2 with
  | none =>
    let msap := { a.msap with length2 := tlv.length, msap2 := some tlv.info }
    let remote := a.history.remote.withPortId tlv
    ({ a with
      msap := msap
      rx := { a.rx with newNeighbor := true }
      history := { a.history with remote := remote } }, l)
  | some id =>
    let l := if tlv.length = a.msap.length2 ∧ tlv.info = id then
      { l with msapCompare2 := true } else l
    if l.msapCompare1 = true ∧ l.msapCompare2 = true then
      (a, { l with msapCompare1 := false, msapCompare2 := false, goodNeighbor := true })
    else
      -- a new neighbour
      ({ a with rx := { a.rx with tooManyNghbrs := true, newNeighbor := true } }, l)

/-- The port ID. `none` stands for the exit on a second one. -/
def storePortId (a : LldpAgent) (l : RxLocals) (tlv : UnpackedTlv) :
    Option (LldpAgent × RxLocals) :=
  if a.lldpdu &&& rcvdBit 2 ≠ 0 then none
  else
    let a := (a.markRcvd (rcvdBit 2)).setManifest fun m => { m with portid := some tlv.ref }
    some (recordPortId a { l with tlvStored := true } tlv)

/-- Ghost: a load of `rxTTL` for a frame. -/
def recordLoad (a : LldpAgent) (f : Frame) : LldpAgent :=
  { a with
    history := { a.history with
      loads := { frame := f, adminStatus := a.adminStatus, msap := a.msap } :: a.history.loads } }

/-- The time to live is loaded, or it extends the time of too many neighbours. -/
def recordTtl (f : Frame) (a : LldpAgent) (l : RxLocals) (tlv : UnpackedTlv) :
    LldpAgent × RxLocals :=
  if a.rx.tooManyNghbrs = true ∧ l.goodNeighbor = false then
    let timer := max tlv.word a.timers.tooManyNghbrsTimer
    ({ a with timers := { a.timers with tooManyNghbrsTimer := timer } },
      { l with msapCompare1 := false, msapCompare2 := false })
  else
    let timers := { a.timers with rxTTL := tlv.word, lastrxTTL := tlv.word }
    (recordLoad { a with timers := timers } f, { l with goodNeighbor := false })

/-- The time to live. `none` stands for the exit on a second one. -/
def storeTtl (f : Frame) (a : LldpAgent) (l : RxLocals) (tlv : UnpackedTlv) :
    Option (LldpAgent × RxLocals) :=
  if a.lldpdu &&& rcvdBit 3 ≠ 0 then none
  else
    let a := (a.markRcvd (rcvdBit 3)).setManifest fun m => { m with ttl := some tlv.ref }
    some (recordTtl f a { l with tlvStored := true } tlv)

/-- The TLVs of types 4 to 8: each has its slot in the manifest. A second TLV of the
type takes the slot over. -/
def storeOptional (a : LldpAgent) (l : RxLocals) (tlv : UnpackedTlv) : LldpAgent × RxLocals :=
  let l' := { l with tlvStored := true }
  let a' := a.markRcvd (rcvdBit tlv.type)
  match tlv.type with
  | 4 => (a'.setManifest fun m => { m with portdesc := some tlv.ref }, l')
  | 5 => (a'.setManifest fun m => { m with sysname := some tlv.ref }, l')
  | 6 => (a'.setManifest fun m => { m with sysdesc := some tlv.ref }, l')
  | 7 => (a'.setManifest fun m => { m with syscap := some tlv.ref }, l')
  | 8 => (a'.setManifest fun m => { m with mgmtadd := some tlv.ref }, l')
  | _ => (a, l)

/-- What the core does with a TLV before the modules see it. -/
def storeTlv (f : Frame) (a : LldpAgent) (l : RxLocals) (tlv : UnpackedTlv) :
    Option (LldpAgent × RxLocals) :=
  match tlv.type with
  | 1 => storeChassisId a l tlv
  | 2 => storePortId a l tlv
  | 3 => storeTtl f a l tlv
  | _ => some (storeOptional a l tlv)

/-- The effect of one `lldp_mod_rchange`. -/
def Ctx.rchange (c : Ctx μ) (r : RchangeResult μ) : Ctx μ :=
  let c := c.hook r.toHookResult
  let a := c.agent
  let a := if r.dcbx1 then a.markRcvd rcvdDcbx1 else a
  let a := if r.dcbx2 then a.markRcvd rcvdDcbx2 else a
  { c with
    agent := { a with
      rx := { a.rx with
        dupTlvs := a.rx.dupTlvs ||| r.dupTlvs
        dcbxSt := r.dcbxSt.getD a.rx.dcbxSt }
      rxChanges := a.rxChanges || r.rxChanges } }

/-- The walk over the modules. The answer is the flag `tlv_stored`, or `none` when a
module rejects the TLV. -/
def rchangeAll : List (LldpModule μ) → Ctx μ → UnpackedTlv → Bool → Ctx μ × Option Bool
  | [], c, _, tlvStored => (c, some tlvStored)
  | np :: nps, c, tlv, tlvStored =>
    match np.rchange with
    | none => rchangeAll nps c tlv tlvStored
    | some f =>
      let r := f c.port c.agent.view c.modules tlv
      let c := c.rchange r
      match r.answer with
      | .tlvOk => rchangeAll nps c tlv true
      | .tlvErr => (c, none)
      | .subtypeInvalid => rchangeAll nps c tlv tlvStored

/-- A TLV that was not stored is released and counted. -/
def dropUnstored (c : Ctx μ) (tlv : UnpackedTlv) (tlvStored : Bool) : Ctx μ :=
  if tlvStored then c
  else
    let stats := c.agent.stats
    { c with
      tlvs := c.tlvs.free tlv.ref
      agent := { c.agent with
        stats := { stats with
          statsTLVsUnrecognizedTotal := stats.statsTLVsUnrecognizedTotal + 1 } } }

/-- One pass of the loop of `rxProcessFrame` over frame `f`. The loop is left with the
flag `frame_error`. -/
def rxTlv (env : Env μ) (f : Frame) (s : Ctx μ × RxLocals) :
    Pass (Ctx μ × RxLocals) (Ctx μ × Bool) :=
  let (c, l) := s
  let l := { l with tlvCnt := l.tlvCnt + 1 }
  match readTlv f l.tlvCnt l.tlvOffset with
  | none => .leave (c, true)
  | some (tlvType, tlvLength) =>
    let info := f.slice (l.tlvOffset + 2) tlvLength
    let (tlv, tlvs) := createTlv c.tlvs
    let c := { c with tlvs := tlvs }
    -- the type is compared before it is filled in, so this exit is never taken
    if tlvLength = 0 ∧ tlv.type ≠ 0 then .leave ({ c with tlvs := tlvs.free tlv.ref }, false)
    else
      let tlv := { tlv with type := tlvType, length := tlvLength, info := info }
      let l := { l with tlvOffset := l.tlvOffset + 2 + tlvLength }
      match storeTlv f c.agent l tlv with
      | none => .leave ({ c with tlvs := c.tlvs.free tlv.ref }, true)
      | some (a, l) =>
        match rchangeAll env.modules { c with agent := a } tlv l.tlvStored with
        | (c, none) => .leave ({ c with tlvs := c.tlvs.free tlv.ref }, true)
        | (c, some tlvStored) =>
          let c := dropUnstored c tlv tlvStored
          if tlvType ≠ 0 then .again (c, { l with tlvStored := false }) else .leave (c, false)

def clearManifest (c : Ctx μ) : Ctx μ :=
  match c.agent.rx.manifest with
  | none => c
  | some m =>
    let tlvs := [m.mgmtadd, m.syscap, m.sysdesc, m.sysname, m.portdesc, m.ttl, m.portid,
      m.chassis].foldl TlvHeap.freeOpt c.tlvs
    { c with
      tlvs := tlvs
      agent := { c.agent with rx := { c.agent.rx with manifest := none } } }

/-- The passes that the loop of `rxProcessFrame` is given; `walk_total` shows that no
frame needs more. -/
def tlvFuel (f : Frame) : Nat := f.size + 2

/-- The agent when the walk over frame `f` starts. -/
def beginFrame (a : LldpAgent) : LldpAgent :=
  { a with
    lldpdu := 0
    rx := { a.rx with dupTlvs := 0, dcbxSt := 0, manifest := some {} } }

/-- The agent after the counters of a walk with or without a frame error. -/
def countFrame (a : LldpAgent) (frameError : Bool) : LldpAgent :=
  if frameError then
    { a with
      stats := { a.stats with
        statsFramesDiscardedTotal := a.stats.statsFramesDiscardedTotal + 1
        statsFramesInErrorsTotal := a.stats.statsFramesInErrorsTotal + 1 }
      rx := { a.rx with badFrame := true } }
  else a

/-- Ghost: the walk over frame `f` is over. -/
def recordFrame (a : LldpAgent) (f : Frame) (frameError : Bool) : LldpAgent :=
  { a with history := { a.history with processed := (f, !frameError) :: a.history.processed } }

/-- What follows the loop of `rxProcessFrame`, from the label `out` on. -/
def endFrame (f : Frame) (s : Ctx μ × Bool) : Ctx μ :=
  let a := recordFrame (countFrame s.1.agent s.2) f s.2
  clearManifest { s.1 with agent := { a with lldpdu := 0 } }

def rxProcessFrame (env : Env μ) (c : Ctx μ) : Except Fault (Ctx μ) :=
  match c.agent.rx.framein with
  | none => .error .assertFailed
  | some f => do
    assert (f.size ≠ 0)
    let s ← iterate (fun s => .ok (rxTlv env f s)) (tlvFuel f)
      ({ c with agent := beginFrame c.agent }, {})
    pure (endFrame f s)

/-! ### The receive machine -/

def rxChangeState (a : LldpAgent) (newstate : RxState) : Except Fault LldpAgent := do
  match newstate with
  | .lldpWaitPortOperational => pure ()
  | .rxLldpInitialize =>
    assert (a.rx.state = .lldpWaitPortOperational ∨ a.rx.state = .rxWaitForFrame)
  | .deleteAgedInfo => assert (a.rx.state = .lldpWaitPortOperational)
  | .rxWaitForFrame =>
    if ¬(a.rx.state = .rxLldpInitialize ∨ a.rx.state = .deleteInfo ∨
        a.rx.state = .updateInfo ∨ a.rx.state = .rxFrame) then
      assert (a.rx.state ≠ .rxLldpInitialize)
      assert (a.rx.state ≠ .deleteInfo)
      assert (a.rx.state ≠ .updateInfo)
      assert (a.rx.state ≠ .rxFrame)
  | .rxFrame => assert (a.rx.state = .rxWaitForFrame)
  | .deleteInfo =>
    if ¬(a.rx.state = .rxWaitForFrame ∨ a.rx.state = .rxFrame) then
      assert (a.rx.state = .rxWaitForFrame)
      assert (a.rx.state = .rxFrame)
  | .updateInfo => assert (a.rx.state = .rxFrame)
  pure { a with rx := { a.rx with state := newstate } }

def setRxState (p : Port) (a : LldpAgent) : Except Fault (LldpAgent × Bool) := do
  let a ←
    if a.rx.rxInfoAge = false ∧ p.portEnabled = false then
      rxChangeState a .lldpWaitPortOperational
    else pure a
  match a.rx.state with
  | .lldpWaitPortOperational =>
    if a.rx.rxInfoAge = true then
      let a ← rxChangeState a .deleteAgedInfo
      pure (a, true)
    else if p.portEnabled = true then
      let a ← rxChangeState a .rxLldpInitialize
      pure (a, true)
    else pure (a, false)
  | .deleteAgedInfo =>
    let a ← rxChangeState a .lldpWaitPortOperational
    pure (a, true)
  | .rxLldpInitialize =>
    if a.adminStatus = .enabledRxTx ∨ a.adminStatus = .enabledRxOnly then
      let a ← rxChangeState a .rxWaitForFrame
      pure (a, true)
    else pure (a, false)
  | .rxWaitForFrame =>
    if a.adminStatus = .disabled ∨ a.adminStatus = .enabledTxOnly then
      let a ← rxChangeState a .rxLldpInitialize
      pure (a, true)
    else if a.rx.rxInfoAge = true then
      let a ← rxChangeState a .deleteInfo
      pure (a, true)
    else if a.rx.rcvFrame = true then
      let a ← rxChangeState a .rxFrame
      pure (a, true)
    else pure (a, false)
  | .deleteInfo =>
    let a ← rxChangeState a .rxWaitForFrame
    pure (a, true)
  | .rxFrame =>
    if a.timers.rxTTL = 0 then
      let a ← rxChangeState a .deleteInfo
      pure (a, true)
    else if a.timers.rxTTL ≠ 0 ∧ a.rxChanges = true then
      let a ← rxChangeState a .updateInfo
      pure (a, true)
    else
      let a ← rxChangeState a .rxWaitForFrame
      pure (a, true)
  | .updateInfo =>
    let a ← rxChangeState a .rxWaitForFrame
    pure (a, true)

def processDeleteAgedInfo (env : Env μ) (c : Ctx μ) : Ctx μ :=
  let c := mibDeleteObjects env c
  { c with agent := { c.agent with
    rx := { c.agent.rx with rxInfoAge := false, remoteChange := true } } }

def processRxLldpInitialize (env : Env μ) (c : Ctx μ) : Ctx μ :=
  let c := rxInitializeLLDP env c
  { c with agent := { c.agent with rx := { c.agent.rx with rcvFrame := false } } }

def processWaitForFrame (a : LldpAgent) : LldpAgent :=
  { a with rx := { a.rx with badFrame := false, rxInfoAge := false } }

def processRxFrame (env : Env μ) (c : Ctx μ) : Except Fault (Ctx μ) :=
  let a := c.agent
  rxProcessFrame env { c with
    agent := { a with
      rxChanges := false
      rx := { a.rx with remoteChange := false, rcvFrame := false } } }

def processDeleteInfo (env : Env μ) (c : Ctx μ) : Ctx μ :=
  let c := mibDeleteObjects env c
  { c with agent := { c.agent with
    rx := { c.agent.rx with framein := none, remoteChange := true } } }

def processUpdateInfo (a : LldpAgent) : LldpAgent :=
  { a with rx := { a.rx with remoteChange := true } }

/-- The `switch` of `run_rx_sm`. -/
def rxAction (env : Env μ) (c : Ctx μ) : Except Fault (Ctx μ) :=
  match c.agent.rx.state with
  | .lldpWaitPortOperational => .ok c
  | .deleteAgedInfo => .ok (processDeleteAgedInfo env c)
  | .rxLldpInitialize => .ok (processRxLldpInitialize env c)
  | .rxWaitForFrame => .ok { c with agent := processWaitForFrame c.agent }
  | .rxFrame => processRxFrame env c
  | .deleteInfo => .ok (processDeleteInfo env c)
  | .updateInfo => .ok { c with agent := processUpdateInfo c.agent }

/-- The receive machine. -/
def rxMachine (env : Env μ) : Machine (Ctx μ) where
  move c := do
    let (a, again) ← setRxState c.port c.agent
    pure ({ c with agent := a }, again)
  act := rxAction env

def runRxSm (env : Env μ) (c : Ctx μ) : Except Fault (Ctx μ) :=
  (rxMachine env).run smFuel c

def updateRxTimers (a : LldpAgent) : LldpAgent :=
  let a :=
    if a.timers.rxTTL ≠ 0 then
      let a := { a with timers := { a.timers with rxTTL := a.timers.rxTTL - 1 } }
      if a.timers.rxTTL = 0 then
        let a := { a with rx := { a.rx with rxInfoAge := true } }
        if a.timers.tooManyNghbrsTimer ≠ 0 then
          { a with
            timers := { a.timers with tooManyNghbrsTimer := 0 }
            rx := { a.rx with tooManyNghbrs := false } }
        else a
      else a
    else a
  if a.timers.tooManyNghbrsTimer ≠ 0 then
    let timer := a.timers.tooManyNghbrsTimer - 1
    let a := { a with timers := { a.timers with tooManyNghbrsTimer := timer } }
    if timer = 0 then { a with rx := { a.rx with tooManyNghbrs := false } } else a
  else a

/-! ### Arrival of a frame -/

/-- The rest of `rxReceiveFrame`, once the frame is known to be for the agent and not
a copy of the stored one. -/
def rxAcceptFrame (env : Env μ) (f : Frame) (c : Ctx μ) : Except Fault (Ctx μ) :=
  let a := c.agent
  if a.adminStatus = .disabled ∨ a.adminStatus = .enabledTxOnly then .ok c
  else
    runRxSm env { c with
      agent := { a with
        rx := { a.rx with framein := some f, rcvFrame := true }
        stats := { a.stats with statsFramesInTotal := a.stats.statsFramesInTotal + 1 } } }

/-- The stored frame has the same bytes. -/
def LldpAgent.holdsFrame (a : LldpAgent) (f : Frame) : Bool :=
  match a.rx.framein with
  | none => false
  | some g => g.size = f.size ∧ f.bytes = g.bytes

/-- The short cut of `rxReceiveFrame` for a copy of the stored frame. -/
def rxRepeatFrame (f : Frame) (a : LldpAgent) : LldpAgent :=
  recordLoad { a with
    timers := { a.timers with rxTTL := a.timers.lastrxTTL }
    stats := { a.stats with statsFramesInTotal := a.stats.statsFramesInTotal + 1 } } f

/-- The loop of `rxReceiveFrame` over the agents of the port, with what follows it. -/
def rxReceiveLoop (env : Env μ) (f : Frame) :
    World μ → List LldpAgent → Except Fault (World μ × List LldpAgent)
  | w, [] => .ok (w, [])
  | w, a :: as =>
    if a.holdsFrame f then .ok (w, rxRepeatFrame f a :: as)
    else if f.hProto ≠ ethPLldp then .ok (w, a :: as)
    else if f.hDest = a.macAddr then do
      let c ← rxAcceptFrame env f { w with agent := a }
      pure (c.toWorld, c.agent :: as)
    else do
      let (w', as') ← rxReceiveLoop env f w as
      pure (w', a :: as')

def rxReceiveFrame (env : Env μ) (f : Frame) (s : PortState μ) : Except Fault (PortState μ) := do
  if f.size = 0 then pure s
  else
    let (w, as) ← rxReceiveLoop env f s.toWorld s.agents
    pure { w with agents := as }

/-! ## The bytes of a frame that are read

The offsets in a received frame that `rxReceiveFrame`, `get_remote_peer_mac_addr` and
`rxProcessFrame` read. The lists follow the functions: they take the branches that the functions
take, and they end where the functions end.
-/

/-! ### The walk over the TLVs -/

/-- `n` bytes from offset `i` on -/
def bytesFrom (i n : Nat) : List Nat := (List.range n).map fun j => i + j

/-- One pass of the loop of `rxProcessFrame`: the header of the TLV, and its information if the
header passes the checks. -/
def passReads (f : Frame) (tlvCnt tlvOffset : Nat) : List Nat :=
  if tlvOffset > f.size then []
  else
    bytesFrom tlvOffset 2 ++
      match readTlv f tlvCnt tlvOffset with
      | none => []
      | some (_, tlvLength) => bytesFrom (tlvOffset + 2) tlvLength

/-- The loop of `rxProcessFrame` -/
def walkReads (env : Env μ) (f : Frame) : Nat → Ctx μ × RxLocals → List Nat
  | 0, _ => []
  | fuel + 1, s =>
    passReads f (s.2.tlvCnt + 1) s.2.tlvOffset ++
      match rxTlv env f s with
      | .again s => walkReads env f fuel s
      | .leave _ => []

/-- `get_remote_peer_mac_addr` -/
def remotePeerMacReads : List Nat := bytesFrom ethAlen ethAlen

/-- `rxProcessFrame` on frame `f` -/
def processReads (env : Env μ) (c : Ctx μ) (f : Frame) : List Nat :=
  remotePeerMacReads ++
    walkReads env f (tlvFuel f) ({ c with agent := beginFrame c.agent }, {})

/-! ### Arrival of a frame -/

/-- `memcmp(buf, agent->rx.framein, len)`, if the stored frame has that length -/
def compareReads (f : Frame) (a : LldpAgent) : List Nat :=
  match a.rx.framein with
  | none => []
  | some g => if g.size = f.size then bytesFrom 0 f.size else []

/-- The frame is copied for the agent that it is for. -/
def storeReads (f : Frame) (a : LldpAgent) : List Nat :=
  if a.adminStatus = .disabled ∨ a.adminStatus = .enabledTxOnly then [] else bytesFrom 0 f.size

/-- The loop of `rxReceiveFrame` over the agents of the port, with what follows it: the
comparison, `h_proto` and `h_dest`. -/
def receiveLoopReads (f : Frame) : List LldpAgent → List Nat
  | [] => []
  | a :: as =>
    compareReads f a ++
      if a.holdsFrame f then []
      else
        bytesFrom (2 * ethAlen) 2 ++
          if f.hProto ≠ ethPLldp then []
          else
            bytesFrom 0 ethAlen ++
              if f.hDest = a.macAddr then storeReads f a else receiveLoopReads f as

/-- `rxReceiveFrame`, up to the receive machine -/
def receiveReads (f : Frame) (s : PortState μ) : List Nat :=
  if f.size = 0 then [] else receiveLoopReads f s.agents

end Lldpad.Lldp
