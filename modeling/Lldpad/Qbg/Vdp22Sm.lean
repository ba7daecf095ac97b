import Lldpad.Qbg.Vdp22Tlv

/-!
# `Lldpad.Qbg.Vdp22Sm`: the state machines of a VSI

`qbg/vdp22sm.c` and the end of `qbg/vdp22.c`: what the functions with a `struct vsi22 *`
parameter do. They get the node, whether it was freed, the pending timers that name it, and
what they sent so far (`Vsi22Ctx`). They touch no other node.

A freed node keeps its content in the model. `stale` counts the accesses to it. A function
that reads or writes the node starts with `deref`.

A pending timer of the event loop is a call of a handler with the node as its argument. All
calls of one handler are alike, so they are counted (`Vsi22Timers`). Timeouts are not
modelled: any pending timer may expire.

`rc` is the answer of the ECP module to a message.

`vdp22br_resources` is the one of a build without `--enable-debug`.
-/

namespace Lldpad.Qbg

open Lldpad.Lib
open Lldpad.Lldp (Bytes)

/-- The pending timers that name one node. -/
structure Vsi22Timers where
  /-- `vdp22st_handle_ackto` -/
  ackto : Nat := 0
  /-- `vdp22st_handle_kato` -/
  kato : Nat := 0
  /-- `vdp22br_handle_kato` -/
  brKato : Nat := 0
  /-- `vdp22br_handle_resto` -/
  resto : Nat := 0
  /-- `vdp22_localchange_handler` -/
  localchange : Nat := 0
  deriving DecidableEq, Repr

/-- A VSI node and what happens to it. -/
structure Vsi22Ctx where
  vsi : Vsi22 := {}
  freed : Bool := false
  /-- ghost: the number of accesses after the node was freed -/
  stale : Nat := 0
  timers : Vsi22Timers := {}
  /-- the messages that were handed to the ECP module -/
  sent : List Bytes := []
  /-- the messages that were sent to netlink and to the attached clients -/
  back : List VdpnlVsi := []
  deriving DecidableEq

namespace Vsi22Ctx

/-- The node is read or written. -/
def deref (c : Vsi22Ctx) : Vsi22Ctx := if c.freed then { c with stale := c.stale + 1 } else c

/-- The state machine variables are written. -/
def setSmi (c : Vsi22Ctx) (f : Vdp22smi → Vdp22smi) : Vsi22Ctx :=
  { c with vsi := { c.vsi with smi := f c.vsi.smi } }

/-- The flags are written. -/
def setFlags (c : Vsi22Ctx) (f : Vsi22Flags → Vsi22Flags) : Vsi22Ctx :=
  { c with vsi := { c.vsi with flags := f c.vsi.flags } }

end Vsi22Ctx

/-! ### Messages to the requester -/

def vdp22DeleteVsi (c : Vsi22Ctx) : Vsi22Ctx := { c.deref with freed := true }

/-- `vdp22_listdel_vsi`. A node that was freed leaves the queue (`Vdp22Ctx.put`). -/
def vdp22ListdelVsi (c : Vsi22Ctx) : Vsi22Ctx := vdp22DeleteVsi c

def havepid (vsi : Vsi22) : Int :=
  match vsi.fdata.getLast? with
  | none => 0
  | some p => p.requestor.reqPid

def vdp22GetsmErrcode (vsi : Vsi22) : UInt16 :=
  (if vsi.smi.kato then 1 else 0) ||| (if vsi.smi.acktimeout then 2 else 0) |||
    (if vsi.smi.txmitError ≠ 0 then 4 else 0)

/-- The message that `vdp22_back` makes of a node. -/
def vdp22BackMsg (vsi : Vsi22) (pid : Int) : VdpnlVsi :=
  let requestor := (vsi.fdata.getLast?.map (·.requestor)).getD {}
  { request := if pid = 0 then vsi.vsiMode else vsi.vsiMode - 1
    response := vsi.status.toUInt16 ||| (vdp22GetsmErrcode vsi <<< 8 : UInt16)
    vsiMgrid := vsi.mgrid.bytes.getD 0 0
    vsiMgrid2 := vsi.mgrid
    vsiTypeversion := vsi.typeVer
    vsiTypeid := vsi.typeId
    vsiIdfmt := vdp22IdUuid
    vsiUuid := vsi.vsi
    filterFmt := vsi.fif
    reqPid := requestor.reqPid
    reqSeq := requestor.reqSeq
    maclist := vsi.fdata.map fun p =>
      { vlan := vdp22GetVlanid p.vlan, qos := (vdp22GetQos p.vlan).toUInt8, mac := p.mac } }

def vdp22Back (pid : Int) (c : Vsi22Ctx) : Vsi22Ctx :=
  let c := { c.deref with back := c.back ++ [vdp22BackMsg c.vsi pid] }
  if c.vsi.flags.deleteMe then vdp22ListdelVsi c else c

def vdp22Nlback (c : Vsi22Ctx) : Vsi22Ctx :=
  let c := c.deref
  if havepid c.vsi ≠ 0 then vdp22Back (havepid c.vsi) c else c

def vdp22Clntback (c : Vsi22Ctx) : Vsi22Ctx :=
  let c := c.deref
  if havepid c.vsi = 0 then vdp22Back 0 c else c

/-! ### Station: timers and actions -/

def vdp22stStartKatimer (c : Vsi22Ctx) : Vsi22Ctx :=
  let c := c.setSmi fun s => { s with kato := false }
  { c with timers := { c.timers with kato := c.timers.kato + 1 } }

def vdp22stStopKatimer (c : Vsi22Ctx) : Vsi22Ctx := { c with timers := { c.timers with kato := 0 } }

def vdp22stStartAcktimer (c : Vsi22Ctx) : Vsi22Ctx :=
  let c := c.setSmi fun s => { s with
    txmit := true
    txmitError := 0
    ackreceived := false
    acktimeout := false
    respOk := false
    localchg := false }
  { c with timers := { c.timers with ackto := c.timers.ackto + 1 } }

def vdp22stStopAcktimer (c : Vsi22Ctx) : Vsi22Ctx :=
  { c with timers := { c.timers with ackto := 0 } }

def vdp22stInit (c : Vsi22Ctx) : Vsi22Ctx :=
  { c with vsi := { c.vsi with
    status := vdp22RespNone
    smi := { c.vsi.smi with state := .station .init } } }

def vdp22stAssocCompl (c : Vsi22Ctx) : Vsi22Ctx :=
  let c := c.setFlags fun f => { f with busy := false }
  { c with vsi := { c.vsi with respVsiMode := 0 } }

def vdp22stAssocNew (c : Vsi22Ctx) (x : UInt8) : Vsi22Ctx :=
  let c := vdp22stAssocCompl c
  { c with vsi := { c.vsi with ccVsiMode := x } }

/-- The message that `vdp22st_process` and `vdp22br_reply` build. -/
def vdp22Msg (vsi : Vsi22) (stat : UInt8) : Bytes := mgr22ToTlv vsi ++ vsi22ToTlv vsi stat

def vdp22stProcess (rc : Int) (c : Vsi22Ctx) : Vsi22Ctx :=
  let c := { c with sent := c.sent ++ [vdp22Msg c.vsi c.vsi.hints] }
  let c := c.setSmi fun s => { s with txmitError := rc }
  if rc = 0 then vdp22stStartAcktimer (vdp22stStopKatimer c) else c

def vdp22stTxdea (rc : Int) (c : Vsi22Ctx) : Vsi22Ctx :=
  let c := { c with vsi := { c.vsi with vsiMode := vdp22Deassoc } }
  vdp22stProcess rc (c.setFlags fun f => { f with busy := true })

def vdp22stEnd (c : Vsi22Ctx) : Vsi22Ctx :=
  let c := vdp22stStopKatimer (vdp22stStopAcktimer c.deref)
  let c := { c with vsi := { c.vsi with vsiMode := vdp22Deassoc, ccVsiMode := vdp22Deassoc } }
  let c := c.setFlags fun f => { f with deleteMe := true, busy := false }
  let c := if c.vsi.flags.notify then vdp22Nlback c else c
  vdp22Clntback c

/-! ### Station: the machine -/

def vdp22stChangeState (c : Vsi22Ctx) (newstate : Vdp22State) : Except Fault Vsi22Ctx := do
  let s := c.vsi.smi.state
  match newstate with
  | .begin => pure ()
  | .init => assert (s = .station .begin)
  | .stationProc => assert (s = .station .init ∨ s = .station .waitSyscmd2)
  | .stationProcwait => assert (s = .station .stationProc)
  | .stationProcwait2 => assert (s = .station .stationProcwait)
  | .preassocNew => assert (s = .station .stationProcwait2)
  | .assocNew => assert (s = .station .stationProcwait2)
  | .assocCompl => assert (s = .station .assocNew ∨ s = .station .stationProcwait2)
  | .waitSyscmd =>
    assert (s = .station .assocCompl ∨ s = .station .preassocNew ∨ s = .station .txmitKawait2)
  | .waitSyscmd2 => assert (s = .station .waitSyscmd)
  | .txmitKa => assert (s = .station .waitSyscmd2)
  | .txmitKawait => assert (s = .station .txmitKa)
  | .txmitKawait2 => assert (s = .station .txmitKawait)
  | .txmitDeassoc => assert (s = .station .txmitKawait2)
  | .txmitDeawait => assert (s = .station .txmitDeassoc)
  | .txmitDeawait2 => assert (s = .station .txmitDeawait)
  | .vdpEnd =>
    assert (s = .station .stationProcwait ∨ s = .station .stationProcwait2 ∨
      s = .station .txmitKawait ∨ s = .station .txmitKawait2 ∨ s = .station .waitSyscmd2 ∨
      s = .station .txmitDeassoc ∨ s = .station .txmitDeawait ∨ s = .station .txmitDeawait2)
  pure (c.setSmi fun s => { s with state := .station newstate })

def badError (x : UInt8) : Bool := x != 0 && x &&& vdp22Keepbit == 0

def keepError (x : UInt8) : Bool := x != 0 && x &&& vdp22Keepbit != 0

def getError (x : UInt8) : UInt8 :=
  if x &&& vdp22StatusMask ≠ 0 then x &&& ~~~(vdp22Resbit ||| vdp22Ackbit) else 0

/-- A state change after which the machine goes on. -/
def vdp22stGoto (c : Vsi22Ctx) (newstate : Vdp22State) : Except Fault (Vsi22Ctx × Bool) := do
  let c ← vdp22stChangeState c newstate
  pure (c, true)

/-- Where `vdp22st_move_state` goes from `VDP22_STATION_PROCWAIT_2`. -/
def vdp22stProcAnswer (vsi : Vsi22) : Vdp22State :=
  if !vsi.smi.respOk || badError vsi.status then .vdpEnd
  else if keepError vsi.status then
    if vsi.respVsiMode = vdp22Assoc then .assocCompl else .vdpEnd
  else if vsi.respVsiMode = vdp22Preassoc ∨ vsi.respVsiMode = vdp22PreassocWithRr then .preassocNew
  else if vsi.respVsiMode = vdp22Deassoc then .vdpEnd
  else .assocNew

/-- Where `vdp22st_move_state` goes from `VDP22_TXMIT_KAWAIT_2`. -/
def vdp22stKaAnswer (vsi : Vsi22) : Vdp22State :=
  if !vsi.smi.respOk || badError vsi.status then .vdpEnd
  else if keepError vsi.status ∧ vsi.respVsiMode = vdp22Assoc then .txmitDeassoc
  else if vsi.respVsiMode = vdp22Deassoc then .vdpEnd
  else .waitSyscmd

/-- `vdp22st_move_state` in a state that waits for the bridge, and `answered` is the next one.
The three of them differ in nothing else. -/
def vdp22stWait (c : Vsi22Ctx) (answered : Vdp22State) : Except Fault (Vsi22Ctx × Bool) :=
  if c.vsi.smi.txmitError ≠ 0 ∨ c.vsi.smi.acktimeout then vdp22stGoto c .vdpEnd
  else if c.vsi.smi.ackreceived then vdp22stGoto c answered
  else pure (c, false)

/-- The `switch` of `vdp22st_move_state`. -/
def vdp22stNextState (c : Vsi22Ctx) : Except Fault (Vsi22Ctx × Bool) :=
  match c.vsi.smi.state with
  | .station .begin => vdp22stGoto c .init
  | .station .init => vdp22stGoto c .stationProc
  | .station .stationProc => vdp22stGoto c .stationProcwait
  | .station .stationProcwait => vdp22stWait c .stationProcwait2
  | .station .stationProcwait2 => vdp22stGoto c (vdp22stProcAnswer c.vsi)
  | .station .assocNew => vdp22stGoto c .assocCompl
  | .station .assocCompl => vdp22stGoto c .waitSyscmd
  | .station .preassocNew => vdp22stGoto c .waitSyscmd
  | .station .waitSyscmd => vdp22stGoto c .waitSyscmd2
  | .station .waitSyscmd2 =>
    if c.vsi.smi.kato then vdp22stGoto c .txmitKa
    else if c.vsi.smi.localchg then vdp22stGoto c .stationProc
    else if c.vsi.smi.deassoc then vdp22stGoto c .vdpEnd
    else pure (c, false)
  | .station .txmitKa => vdp22stGoto c .txmitKawait
  | .station .txmitKawait => vdp22stWait c .txmitKawait2
  | .station .txmitKawait2 => vdp22stGoto c (vdp22stKaAnswer c.vsi)
  | .station .txmitDeassoc => vdp22stGoto c .txmitDeawait
  | .station .txmitDeawait => vdp22stWait c .txmitDeawait2
  | .station .txmitDeawait2 => vdp22stGoto c .vdpEnd
  | .station .vdpEnd | .bridge _ | .none => pure (c, false)

def vdp22stMoveState (c : Vsi22Ctx) : Except Fault (Vsi22Ctx × Bool) := vdp22stNextState c.deref

/-- The `switch` of `vdp22st_run`. -/
def vdp22stAction (rc : Int) (c : Vsi22Ctx) : Vsi22Ctx :=
  let c := c.deref
  match c.vsi.smi.state with
  | .station .init => vdp22stInit c
  | .station .stationProc => vdp22stProcess rc c
  | .station .assocNew | .station .preassocNew =>
    vdp22Clntback (vdp22stAssocNew c c.vsi.respVsiMode)
  | .station .assocCompl => vdp22stAssocCompl c
  | .station .waitSyscmd => vdp22stStartKatimer c
  | .station .txmitKa => vdp22stProcess rc c
  | .station .txmitDeassoc => vdp22stTxdea rc c
  | .station .txmitDeawait2 => vdp22stAssocCompl c
  | _ => c

/-- The station machine. -/
def vdp22stMachine (rc : Int) : Machine Vsi22Ctx where
  move := vdp22stMoveState
  act c := .ok (vdp22stAction rc c)

/-- `vdp22st_run`. `vdp22stRun_total` shows that no run needs more than sixteen rounds. -/
def vdp22stRun (rc : Int) (c : Vsi22Ctx) : Except Fault Vsi22Ctx := do
  let c ← (vdp22stMachine rc).run 16 c
  let c := c.deref
  pure (if c.vsi.smi.state = .station .vdpEnd then vdp22stEnd c else c)

/-! ### Station: the timers expire -/

def vdp22stHandleKato (rc : Int) (c : Vsi22Ctx) : Except Fault Vsi22Ctx :=
  vdp22stRun rc (c.deref.setSmi fun s => { s with kato := true })

def vdp22stHandleAckto (rc : Int) (c : Vsi22Ctx) : Except Fault Vsi22Ctx :=
  let c := c.deref
  if c.vsi.smi.ackreceived = false then
    vdp22stRun rc (c.setSmi fun s => { s with acktimeout := true })
  else .ok c

def vdp22LocalchangeHandler (rc : Int) (c : Vsi22Ctx) : Except Fault Vsi22Ctx :=
  let c := c.deref
  if c.vsi.smi.localchg then vdp22stRun rc c else .ok c

def vdp22StopTimers (c : Vsi22Ctx) : Vsi22Ctx := vdp22stStopKatimer (vdp22stStopAcktimer c.deref)

/-- `vdp22_start_localchange_timer` with the line in front of its call -/
def vdp22StartLocalchange (c : Vsi22Ctx) : Vsi22Ctx :=
  let c := c.deref.setSmi fun s => { s with localchg := true }
  { c with timers := { c.timers with localchange := c.timers.localchange + 1 } }

/-! ### Station: requests and answers -/

def cmpFdata1 (p1 p2 : Fid22) (fif : UInt8) : Bool :=
  (!(fif == vdp22FfmtMacvid || fif == vdp22FfmtGroupmacvid) || p1.mac == p2.mac) &&
    (!(fif == vdp22FfmtGroupvid || fif == vdp22FfmtGroupmacvid) || p1.grpid == p2.grpid) &&
    (vdp22GetVlanid p1.vlan == 0 || vdp22GetVlanid p1.vlan == vdp22GetVlanid p2.vlan) &&
    (vdp22GetPs p1.vlan == 0 || p1.vlan == p2.vlan)

/-- `vdp22_cmp_fdata`: the answer -/
def vdp22CmpFdata (p vsip : Vsi22) : Bool :=
  p.fdata.length == vsip.fdata.length &&
    (p.fdata.zip vsip.fdata).all fun x => cmpFdata1 x.1 x.2 p.fif

/-- `vdp22_cmp_fdata`: what it does to the first node. An entry that does not match leaves a
status behind, another number of entries does not. -/
def vdp22CmpStatus (p vsip : Vsi22) : Vsi22 :=
  if p.fdata.length = vsip.fdata.length ∧ !vdp22CmpFdata p vsip then
    { p with status := vdp22RespNoaddr }
  else p

/-- `vdp22_modvsi`, with its answer -/
def vdp22Modvsi (rc : Int) (x : UInt8) (c : Vsi22Ctx) : Except Fault (Vsi22Ctx × Int) :=
  let c := c.deref
  if c.vsi.flags.deleteMe then .ok (c, errEnodev)
  else if c.vsi.vsiMode > x then .ok (c, errEinval)
  else do
    let c := { c with vsi := { c.vsi with vsiMode := x } }
    let c := c.setSmi fun s => { s with localchg := true }
    let c ← vdp22stRun rc (c.setFlags fun f => { f with busy := true, nlcmd := true })
    pure (c, 0)

def vdp22Cpfid (hit from' : Vsi22) : Vsi22 :=
  if hit.fdata.length ≠ from'.fdata.length then hit
  else { hit with
    fdata := (hit.fdata.zip from'.fdata).map fun x => { x.1 with vlan := x.2.vlan }
    flags :=
      if (hit.fdata.zip from'.fdata).all fun x => x.1.vlan == x.2.vlan then hit.flags
      else { hit.flags with returnVid := true } }

/-- `vdp22_bridge_info` on the node that it found, up to the run of the machine: an answer or a
request of the bridge -/
def vdp22BridgeSeen (vsip : Vsi22) (c : Vsi22Ctx) : Vsi22Ctx :=
  let c := c.deref.setSmi fun s =>
    { s with ackreceived := true, deassoc := false, acktimeout := false }
  let c := vdp22stStopAcktimer c
  let c := { c with vsi := { c.vsi with status := getError vsip.status } }
  let c :=
    -- an unsolicited de-assoc request from the switch
    if vsip.status &&& vdp22Ackbit = 0 ∧ vsip.vsiMode = vdp22Deassoc then
      { c with vsi := { c.vsi with status := 0, smi := { c.vsi.smi with deassoc := true } } }
    else c
  let same := vdp22CmpFdata c.vsi vsip
  let c := { c with vsi := vdp22CmpStatus c.vsi vsip }
  if same then
    let c := c.setSmi fun s => { s with respOk := true }
    let c := { c with vsi := vdp22Cpfid { c.vsi with respVsiMode := vsip.vsiMode } vsip }
    if c.vsi.ccVsiMode ≠ vdp22Deassoc ∧
        (c.vsi.respVsiMode = vdp22Deassoc ∨ badError c.vsi.status) ∧ c.vsi.flags.nlcmd = false then
      c.setFlags fun f => { f with notify := true }
    else c
  else c

/-- `vdp22_bridge_info` on the node that it found -/
def vdp22BridgeHit (rc : Int) (vsip : Vsi22) (c : Vsi22Ctx) : Except Fault Vsi22Ctx :=
  vdp22stRun rc (vdp22BridgeSeen vsip c)

/-! ### Bridge: timers and actions -/

def makeStatus (x : UInt8) : UInt8 := x &&& vdp22StatusMask

def vdp22brInit (c : Vsi22Ctx) : Vsi22Ctx :=
  { c with vsi := { c.vsi with
    flags := {}
    ccVsiMode := vdp22Deassoc
    respVsiMode := vdp22RespNone
    smi := { c.vsi.smi with
      localchg := true
      kato := false
      respOk := false
      deassoc := false
      acktimeout := false
      ackreceived := false
      txmit := false
      txmitError := 0 } } }

def vdp22brStartKatimer (c : Vsi22Ctx) : Vsi22Ctx :=
  let c := c.setSmi fun s => { s with kato := false }
  { c with timers := { c.timers with brKato := c.timers.brKato + 1 } }

def vdp22brStopKatimer (c : Vsi22Ctx) : Vsi22Ctx :=
  { c with timers := { c.timers with brKato := 0 } }

def vdp22brStartRestimer (c : Vsi22Ctx) : Vsi22Ctx :=
  let c := c.setSmi fun s => { s with respOk := false }
  { c with
    vsi := { c.vsi with respVsiMode := vdp22RespNone }
    timers := { c.timers with resto := c.timers.resto + 1 } }

def vdp22brStopRestimer (c : Vsi22Ctx) : Vsi22Ctx :=
  { c with timers := { c.timers with resto := 0 } }

/-- `vdp22br_resources`. It sets `error` to zero. -/
def vdp22brResources (p : Vsi22) : UInt8 :=
  if p.vsiMode = vdp22Deassoc then vdp22RespDeassoc else vdp22RespSuccess

/-- `vdp22br_process`. The error is always zero, so the hard bit is never set. -/
def vdp22brProcess (c : Vsi22Ctx) : Vsi22Ctx :=
  let c := vdp22brStartRestimer c
  let c := { c with vsi := { c.vsi with status := 0, respVsiMode := vdp22RespSuccess } }
  let rc := vdp22brResources c.vsi
  let answered (c : Vsi22Ctx) (status : UInt8) : Vsi22Ctx :=
    let c := vdp22brStopRestimer c
    let c := { c with vsi := { c.vsi with status := status ||| vdp22Ackbit ||| makeStatus 0 } }
    c.setSmi fun s => { s with respOk := true }
  let c :=
    if rc = vdp22RespTimeout then c
    else if rc = vdp22RespKeep then answered c vdp22Keepbit
    else if rc = vdp22RespDeassoc ∨ rc = vdp22RespSuccess then answered c 0
    else c
  { c with vsi := { c.vsi with respVsiMode := rc } }

def vdp22brEnd (c : Vsi22Ctx) : Vsi22Ctx := vdp22ListdelVsi c

def vdp22brReply (c : Vsi22Ctx) : Vsi22Ctx :=
  let c := { c with sent := c.sent ++ [vdp22Msg c.vsi c.vsi.status] }
  let c := c.setFlags fun f => { f with busy := false }
  c.setSmi fun s => { s with localchg := false }

def vdp22brSendack (c : Vsi22Ctx) (status : UInt8) : Vsi22Ctx :=
  vdp22brReply { c with vsi := { c.vsi with status := status } }

def vdp22brDeassoc (c : Vsi22Ctx) (status : UInt8) : Vsi22Ctx :=
  vdp22brSendack { c with vsi := { c.vsi with vsiMode := vdp22Deassoc } } status

/-! ### Bridge: the machine -/

def vdp22brChangeState (c : Vsi22Ctx) (newstate : Vdp22brState) : Except Fault Vsi22Ctx := do
  let s := c.vsi.smi.state
  match newstate with
  | .begin => pure ()
  | .init => assert (s = .bridge .begin)
  | .process => assert (s = .bridge .waitcmd2 ∨ s = .bridge .init)
  | .send => assert (s = .bridge .process)
  | .keep => assert (s = .bridge .process)
  | .deassoc => assert (s = .bridge .process)
  | .waitcmd => assert (s = .bridge .send ∨ s = .bridge .keep ∨ s = .bridge .alive)
  | .waitcmd2 => assert (s = .bridge .waitcmd)
  | .alive => assert (s = .bridge .waitcmd2)
  | .deassociated => assert (s = .bridge .process ∨ s = .bridge .waitcmd)
  | .vdpEnd => assert (s = .bridge .deassoc ∨ s = .bridge .deassociated)
  pure (c.setSmi fun s => { s with state := .bridge newstate })

/-- A state change after which the machine goes on. -/
def vdp22brGoto (c : Vsi22Ctx) (newstate : Vdp22brState) : Except Fault (Vsi22Ctx × Bool) := do
  let c ← vdp22brChangeState c newstate
  pure (c, true)

/-- The `switch` of `vdp22br_move_state`. -/
def vdp22brNextState (c : Vsi22Ctx) : Except Fault (Vsi22Ctx × Bool) :=
  match c.vsi.smi.state with
  | .bridge .begin => vdp22brGoto c .init
  | .bridge .init => vdp22brGoto c .process
  | .bridge .process =>
    if c.vsi.smi.respOk = false then pure (c, false)
    else if c.vsi.respVsiMode = vdp22RespNone then
      vdp22brGoto c (if c.vsi.ccVsiMode = vdp22Assoc then .keep else .deassociated)
    else if c.vsi.respVsiMode = vdp22RespSuccess then vdp22brGoto c .send
    else if c.vsi.respVsiMode = vdp22RespKeep then vdp22brGoto c .keep
    else vdp22brGoto c .deassoc
  | .bridge .send => vdp22brGoto c .waitcmd
  | .bridge .keep => vdp22brGoto c .waitcmd
  | .bridge .deassoc => vdp22brGoto c .vdpEnd
  | .bridge .waitcmd =>
    if c.vsi.smi.localchg then vdp22brGoto c .waitcmd2
    else if c.vsi.smi.kato then vdp22brGoto c .deassociated
    else pure (c, false)
  | .bridge .waitcmd2 =>
    vdp22brGoto c (if c.vsi.ccVsiMode = c.vsi.vsiMode then .alive else .process)
  | .bridge .deassociated => vdp22brGoto c .vdpEnd
  | .bridge .alive => vdp22brGoto c .waitcmd
  | .bridge .vdpEnd | .station _ | .none => pure (c, false)

def vdp22brMoveState (c : Vsi22Ctx) : Except Fault (Vsi22Ctx × Bool) := vdp22brNextState c.deref

/-- The `switch` of `vdp22br_run`. -/
def vdp22brAction (c : Vsi22Ctx) : Vsi22Ctx :=
  let c := c.deref
  match c.vsi.smi.state with
  | .bridge .init => vdp22brInit c
  | .bridge .process => vdp22brProcess c
  | .bridge .send => vdp22brReply c
  | .bridge .keep => vdp22brSendack c c.vsi.status
  | .bridge .deassoc => vdp22brDeassoc c c.vsi.status
  | .bridge .waitcmd => vdp22brStartKatimer c
  | .bridge .alive => vdp22brSendack c vdp22Ackbit
  | .bridge .deassociated => vdp22brDeassoc c 0
  | .bridge .vdpEnd => vdp22brEnd c
  | _ => c

/-- The bridge machine. -/
def vdp22brMachine : Machine Vsi22Ctx where
  move := vdp22brMoveState
  act c := .ok (vdp22brAction c)

/-- `vdp22br_run`. `vdp22brRun_total` shows that no run needs more than eight rounds. -/
def vdp22brRun (c : Vsi22Ctx) : Except Fault Vsi22Ctx := vdp22brMachine.run 8 c

def vdp22brHandleKato (c : Vsi22Ctx) : Except Fault Vsi22Ctx :=
  vdp22brRun (c.deref.setSmi fun s => { s with kato := true })

def vdp22brHandleResto (c : Vsi22Ctx) : Except Fault Vsi22Ctx :=
  vdp22brRun (c.deref.setSmi fun s => { s with respOk := true })

/-- `vdp22_station_info` on the node that it found: a request of the station -/
def vdp22StationHit (vsip : Vsi22) (c : Vsi22Ctx) : Except Fault Vsi22Ctx :=
  let c := c.deref
  if c.vsi.flags.busy then .ok c
  else
    let c := vdp22brStopKatimer c
    let same := vdp22CmpFdata c.vsi vsip
    let c := { c with vsi := vdp22CmpStatus c.vsi vsip }
    if same = false then .ok c
    else
      let c := c.setSmi fun s => { s with localchg := true }
      vdp22brRun { c with vsi := { c.vsi with vsiMode := vsip.vsiMode } }

end Lldpad.Qbg
