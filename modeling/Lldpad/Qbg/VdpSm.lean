import Lldpad.Qbg.Vdp

/-!
# `Lldpad.Qbg.VdpSm`: the state machines of a draft 0.2 profile

What the functions of `qbg/vdp.c` with one `struct vsi_profile *` do. They get the profile,
whether it was freed, the pending timers that name it, and what they asked of ECP and sent to
netlink so far (`ProfileCtx`). They touch no other profile.

A freed profile keeps its content in the model. `stale` counts the accesses to it. A function
that reads or writes the profile starts with `deref`.

A pending timer of the event loop is a call of a handler with the profile as its argument. All
calls of one handler are alike, so they are counted (`VdpTimers`). The counters `ackTimer` and
`keepaliveTimer` of the profile are data of the source, and stopping the timer of the first one
leaves its value.

`vdp_trigger` finds the interface of the profile and its index.
-/

namespace Lldpad.Qbg

open Lldpad.Lib

/-- The pending timers that name one profile. -/
structure VdpTimers where
  /-- `vdp_ack_timeout_handler` -/
  ack : Nat := 0
  /-- `vdp_keepalive_timeout_handler` -/
  keepalive : Nat := 0
  /-- `vdp_localchange_handler` -/
  localchange : Nat := 0
  deriving DecidableEq, Repr

/-- A profile and what happens to it. -/
structure ProfileCtx where
  profile : VdpProfile := {}
  freed : Bool := false
  /-- ghost: the number of accesses after the profile was freed -/
  stale : Nat := 0
  timers : VdpTimers := {}
  /-- ghost: the profile went into a frame after its last local change -/
  framed : Bool := false
  /-- the calls of `ecp_somethingChangedLocal` with `true` -/
  changed : Nat := 0
  /-- the calls of `ecp_rx_send_ack_frame` -/
  acks : Nat := 0
  /-- the messages that were sent to netlink -/
  back : List VdpnlVsi := []
  deriving DecidableEq

namespace ProfileCtx

/-- The profile is read or written. -/
def deref (c : ProfileCtx) : ProfileCtx := if c.freed then { c with stale := c.stale + 1 } else c

/-- The profile is written. -/
def set (c : ProfileCtx) (f : VdpProfile → VdpProfile) : ProfileCtx :=
  { c with profile := f c.profile }

end ProfileCtx

/-! ### Timers -/

def vdpSomethingChangedLocal (flag : Bool) (c : ProfileCtx) : ProfileCtx :=
  let c := c.set fun p => { p with localChange := flag }
  if flag then
    { c with framed := false, timers := { c.timers with localchange := c.timers.localchange + 1 } }
  else c

def vdpStopLocalchangeTimer (c : ProfileCtx) : ProfileCtx :=
  { c with timers := { c.timers with localchange := 0 } }

def vdpStartAckTimer (c : ProfileCtx) : ProfileCtx :=
  let c := c.set fun p => { p with ackTimer := vdpAckTimerDefault }
  { c with timers := { c.timers with ack := c.timers.ack + 1 } }

def vdpStopAckTimer (c : ProfileCtx) : ProfileCtx := { c with timers := { c.timers with ack := 0 } }

def vdpStartKeepaliveTimer (c : ProfileCtx) : ProfileCtx :=
  let c := c.set fun p => { p with keepaliveTimer := vdpKeepaliveTimerDefault }
  { c with timers := { c.timers with keepalive := c.timers.keepalive + 1 } }

def vdpStopKeepaliveTimer (c : ProfileCtx) : ProfileCtx :=
  let c := c.set fun p => { p with keepaliveTimer := vdpKeepaliveTimerStopped }
  { c with timers := { c.timers with keepalive := 0 } }

/-! ### Removal -/

/-- `vdp_remove_profile`. A profile that was freed leaves the list (`VdpCtx.put`): no two
profiles of a list are equal, so `vdp_find_profile` finds this one. -/
def vdpRemoveProfile (c : ProfileCtx) : ProfileCtx := { c.deref with freed := true }

/-- The message of `vdp_trigger` -/
def vdpTriggerMsg (p : VdpProfile) (macp : MacVlan) : VdpnlVsi :=
  { request := vdpModeDeassociate.toUInt8
    vsiMgrid := p.mgrid
    vsiTypeid := p.id.toUInt64
    vsiTypeversion := p.version
    vsiUuid := p.instanceId
    reqPid := macp.reqPid
    reqSeq := macp.reqSeq
    maclist := p.macvid.map fun mv => { vlan := mv.vlan, qos := mv.qos, mac := mv.mac } }

def vdpTrigger (c : ProfileCtx) : ProfileCtx :=
  let c := c.deref
  if c.profile.noNlmsg then c
  else
    match c.profile.macvid with
    | [] => c
    | macp :: _ =>
      if macp.reqPid = 0 then c
      else vdpRemoveProfile { c with back := c.back ++ [vdpTriggerMsg c.profile macp] }

/-! ### Station -/

def vdpVsiChangeStationState (c : ProfileCtx) (newstate : VsiState) : Except Fault ProfileCtx := do
  let s := c.profile.state
  match newstate with
  | .unassociated => pure ()
  | .assocProcessing => assert (s = .preassociated ∨ s = .associated ∨ s = .unassociated)
  | .associated => assert (s = .assocProcessing ∨ s = .associated)
  | .preassocProcessing => assert (s = .preassociated ∨ s = .associated ∨ s = .unassociated)
  | .preassociated => assert (s = .preassocProcessing ∨ s = .preassociated)
  | .deassocProcessing => assert (s = .preassociated ∨ s = .unassociated ∨ s = .associated)
  | .exit =>
    assert (s = .assocProcessing ∨ s = .preassocProcessing ∨ s = .deassocProcessing ∨
      s = .preassociated ∨ s = .associated)
  pure (c.set fun p => { p with state := newstate })

/-- A state change after which the machine goes on. -/
def vdpStationGoto (c : ProfileCtx) (newstate : VsiState) : Except Fault (ProfileCtx × Bool) := do
  let c ← vdpVsiChangeStationState c newstate
  pure (c, true)

/-- `vdp_vsi_set_station_state` from `VSI_UNASSOCIATED` to a state where the change is sent -/
def vdpStationBegin (c : ProfileCtx) (newstate : VsiState) : Except Fault (ProfileCtx × Bool) := do
  let c ← vdpVsiChangeStationState c newstate
  pure (vdpSomethingChangedLocal true c, true)

/-- `vdp_vsi_set_station_state` in the states that wait for the answer to a request, and
`granted` is the next one. The two of them differ in nothing else. -/
def vdpStationAnswered (c : ProfileCtx) (granted : VsiState) : Except Fault (ProfileCtx × Bool) :=
  if c.profile.ackReceived then
    vdpStationGoto c (if c.profile.response = vdpResponseSuccess then granted else .exit)
  else if vdpAckTimerExpired c.profile then vdpStationGoto c .exit
  else pure (c, false)

/-- `vdp_vsi_set_station_state` where the keep-alive is due, and `processing` is the next
state. -/
def vdpStationRenew (c : ProfileCtx) (processing : VsiState) : Except Fault (ProfileCtx × Bool) :=
  if vdpKeepaliveTimerExpired c.profile then
    vdpStationGoto (vdpSomethingChangedLocal true (vdpStopKeepaliveTimer c)) processing
  else pure (c, false)

/-- The `switch` of `vdp_vsi_set_station_state`. -/
def vdpStationNextState (c : ProfileCtx) : Except Fault (ProfileCtx × Bool) :=
  match c.profile.state with
  | .unassociated =>
    if c.profile.mode = vdpModePreassociate ∨ c.profile.mode = vdpModePreassociateWithRr then
      vdpStationBegin c .preassocProcessing
    else if c.profile.mode = vdpModeAssociate then vdpStationBegin c .assocProcessing
    else if c.profile.mode = vdpModeDeassociate then vdpStationBegin c .deassocProcessing
    else pure (c, false)
  | .assocProcessing => vdpStationAnswered c .associated
  | .associated =>
    if c.profile.mode = vdpModePreassociate then vdpStationGoto c .preassocProcessing
    else if c.profile.mode = vdpModeDeassociate then vdpStationGoto c .deassocProcessing
    else if vdpVsiNegativeResponse c.profile then vdpStationGoto c .exit
    else vdpStationRenew c .assocProcessing
  | .preassocProcessing => vdpStationAnswered c .preassociated
  | .preassociated =>
    if c.profile.mode = vdpModeAssociate then vdpStationGoto c .assocProcessing
    else if c.profile.mode = vdpModeDeassociate then vdpStationGoto c .deassocProcessing
    else vdpStationRenew c .preassocProcessing
  | .deassocProcessing =>
    if c.profile.ackReceived ∨ vdpAckTimerExpired c.profile ∨ c.profile.remoteChange then
      vdpStationGoto c .exit
    else pure (c, false)
  | .exit => pure (c, false)

def vdpVsiSetStationState (c : ProfileCtx) : Except Fault (ProfileCtx × Bool) :=
  vdpStationNextState c.deref

/-- `VSI_ASSOC_PROCESSING` and `VSI_PREASSOC_PROCESSING` -/
def vdpStationProcessing (c : ProfileCtx) : ProfileCtx :=
  let c := (vdpStopKeepaliveTimer c).set fun p => { p with response := vdpResponseNoResponse }
  if c.profile.localChange then
    vdpStartAckTimer
      { c.set (fun p => { p with ackReceived := false }) with changed := c.changed + 1 }
  else c

/-- `VSI_ASSOCIATED` and `VSI_PREASSOCIATED` -/
def vdpStationSettled (c : ProfileCtx) : ProfileCtx :=
  let c := vdpSomethingChangedLocal false (c.set fun p => { p with ackReceived := false })
  vdpStartKeepaliveTimer (vdpStopAckTimer c)

/-- `VSI_EXIT` -/
def vdpStationExit (c : ProfileCtx) : ProfileCtx :=
  let bye := c.profile.noNlmsg && !c.profile.ackReceived && vdpAckTimerExpired c.profile
  let c := vdpStopLocalchangeTimer (vdpStopKeepaliveTimer (vdpStopAckTimer c))
  if bye then vdpRemoveProfile c else vdpTrigger c

/-- The `switch` of `vdp_vsi_sm_station`. -/
def vdpStationState (c : ProfileCtx) : ProfileCtx :=
  match c.profile.state with
  | .unassociated => c
  | .assocProcessing | .preassocProcessing => vdpStationProcessing c
  | .associated | .preassociated => vdpStationSettled c
  | .deassocProcessing =>
    vdpStationProcessing (c.set fun p => { p with ackReceived := false })
  | .exit => vdpStationExit c

/-- The machine of the station. -/
def vdpStationMachine : Machine ProfileCtx where
  move := vdpVsiSetStationState
  act c := .ok (vdpStationState c.deref)

/-- `vdp_vsi_sm_station`. `vdpVsiSmStation_total` shows that no run needs more than four
rounds. -/
def vdpVsiSmStation (c : ProfileCtx) : Except Fault ProfileCtx := vdpStationMachine.run 4 c

def vdpLocalchangeHandler (c : ProfileCtx) : Except Fault ProfileCtx :=
  let c := c.deref
  if c.profile.ackReceived ∨ c.profile.localChange then vdpVsiSmStation c else .ok c

def vdpAckTimeoutHandler (c : ProfileCtx) : Except Fault ProfileCtx :=
  let c := c.deref.set fun p =>
    if p.ackTimer > 0 then { p with ackTimer := p.ackTimer - vdpAckTimerDefault } else p
  if vdpAckTimerExpired c.profile then vdpVsiSmStation c else .ok c

def vdpKeepaliveTimeoutHandler (c : ProfileCtx) : Except Fault ProfileCtx :=
  let c := c.deref.set fun p =>
    if p.keepaliveTimer > 0 then
      { p with keepaliveTimer := p.keepaliveTimer - vdpKeepaliveTimerDefault }
    else p
  if vdpKeepaliveTimerExpired c.profile then vdpVsiSmStation c else .ok c

/-- The body of the loop of `vdp_advance_sm`. The flag is written, and the next profile read,
also when the machine removed this one. -/
def vdpAdvance (c : ProfileCtx) : Except Fault ProfileCtx :=
  let c := c.deref
  if c.profile.ackReceived then do
    let c ← vdpVsiSmStation c
    pure (c.deref.set fun p => { p with ackReceived := false })
  else .ok c

/-! ### Bridge -/

def vdpVsiChangeBridgeState (c : ProfileCtx) (newstate : VsiState) : Except Fault ProfileCtx := do
  let s := c.profile.state
  match newstate with
  | .unassociated => pure ()
  | .assocProcessing => assert (s = .unassociated ∨ s = .preassociated ∨ s = .associated)
  | .associated => assert (s = .assocProcessing)
  | .preassocProcessing => assert (s = .unassociated ∨ s = .preassociated ∨ s = .associated)
  | .preassociated => assert (s = .preassocProcessing)
  | .deassocProcessing => assert (s = .unassociated ∨ s = .preassociated ∨ s = .associated)
  | .exit => assert (s = .deassocProcessing ∨ s = .preassocProcessing ∨ s = .assocProcessing)
  pure (c.set fun p => { p with state := newstate })

/-- A state change, and whether the machine goes on. -/
def vdpBridgeGoto (c : ProfileCtx) (newstate : VsiState) (again : Bool) :
    Except Fault (ProfileCtx × Bool) := do
  let c ← vdpVsiChangeBridgeState c newstate
  pure (c, again)

/-- The `switch` of `vdp_vsi_set_bridge_state`. In `VSI_ASSOCIATED` the first condition is that
of `VDP_MODE_ASSOCIATE`, so the last one never holds. -/
def vdpBridgeNextState (c : ProfileCtx) : Except Fault (ProfileCtx × Bool) :=
  match c.profile.state with
  | .unassociated =>
    if c.profile.mode = vdpModeDeassociate then vdpBridgeGoto c .deassocProcessing true
    else if c.profile.mode = vdpModeAssociate then vdpBridgeGoto c .assocProcessing true
    else if c.profile.mode = vdpModePreassociate then vdpBridgeGoto c .preassocProcessing true
    else pure (c, false)
  | .assocProcessing =>
    if c.profile.mode = vdpModeAssociate then vdpBridgeGoto c .associated true
    else pure (c, false)
  | .associated =>
    if c.profile.mode = vdpModeAssociate then vdpBridgeGoto c .deassocProcessing true
    else if c.profile.mode = vdpModePreassociate then vdpBridgeGoto c .preassocProcessing true
    else if c.profile.mode = vdpModeAssociate then vdpBridgeGoto c .assocProcessing true
    else pure (c, false)
  | .preassocProcessing =>
    if c.profile.response ≠ vdpResponseSuccess then vdpBridgeGoto c .exit true
    else vdpBridgeGoto c .preassociated false
  | .preassociated =>
    if c.profile.mode = vdpModeAssociate then vdpBridgeGoto c .assocProcessing true
    else if c.profile.mode = vdpModeDeassociate then vdpBridgeGoto c .deassocProcessing true
    else if c.profile.mode = vdpModePreassociate then vdpBridgeGoto c .preassocProcessing true
    else pure (c, false)
  | .deassocProcessing => vdpBridgeGoto c .exit false
  | .exit => pure (c, false)

def vdpVsiSetBridgeState (c : ProfileCtx) : Except Fault (ProfileCtx × Bool) :=
  vdpBridgeNextState c.deref

/-- The `switch` of `vdp_vsi_sm_bridge`. -/
def vdpBridgeState (c : ProfileCtx) : ProfileCtx :=
  match c.profile.state with
  | .preassocProcessing =>
    { c.set (fun p => { p with response := vdpResponseSuccess }) with acks := c.acks + 1 }
  | .exit => vdpRemoveProfile c
  | .unassociated | .assocProcessing | .associated | .preassociated | .deassocProcessing => c

/-- The machine of the bridge. -/
def vdpBridgeMachine : Machine ProfileCtx where
  move := vdpVsiSetBridgeState
  act c := .ok (vdpBridgeState c.deref)

/-- `vdp_vsi_sm_bridge`. A profile comes here in `VSI_UNASSOCIATED`, and `vdpVsiSmBridge_new`
shows that five rounds are enough. -/
def vdpVsiSmBridge (c : ProfileCtx) : Except Fault ProfileCtx := vdpBridgeMachine.run 5 c

/-! ### The calls that change a profile -/

/-- What `vdp_indicate` does to the profile of a station that is equal to that of the TLV. -/
def vdpStationIndicate (q : VdpProfile) (c : ProfileCtx) : ProfileCtx :=
  c.deref.set fun p =>
    if q.mode = vdpModeDeassociate ∧
        (p.response = vdpResponseNoResponse ∨ p.response = vdpResponseSuccess) ∧
        p.mode = vdpModePreassociate then p
    else
      let p := { p with ackReceived := true, keepaliveTimer := vdpKeepaliveTimerDefault }
      let p :=
        if q.mode ≠ p.mode then
          { p with
            mode := q.mode
            remoteChange := true
            noNlmsg := p.noNlmsg && q.mode != vdpModeDeassociate }
        else { p with remoteChange := false }
      let p := { p with response := q.response }
      if vdpVsiNegativeResponse p then { p with mode := vdpModeDeassociate } else p

/-- The end of `vdp_add_profile` -/
def vdpAddProfileEnd (c : ProfileCtx) : ProfileCtx :=
  if c.profile.response ≠ vdpResponseSuccess then vdpSomethingChangedLocal true c else c

/-- What `vdp_add_profile` does to a profile of the list that is equal to the new one. -/
def vdpAddProfileHit (new : VdpProfile) (c : ProfileCtx) : ProfileCtx :=
  vdpAddProfileEnd (c.deref.set fun p =>
    let p := { p with macvid := vdpTakeoverMacvlans p.macvid new.macvid }
    if p.mode ≠ new.mode then { p with mode := new.mode, response := vdpResponseNoResponse }
    else p)

/-- What `vdp_add_profile` does to a profile that is new. -/
def vdpAddProfileNew (c : ProfileCtx) : ProfileCtx :=
  vdpAddProfileEnd (c.set fun p => { p with
    response :=
      if p.mode = vdpModeDeassociate then vdpResponseSuccess else vdpResponseNoResponse })

/-- What `vdp_status` does to the profile that it reports. -/
def vdpStatusHit (c : ProfileCtx) : ProfileCtx :=
  let c := c.deref
  if c.profile.response ≠ vdpResponseNoResponse ∧ c.profile.state = .exit then vdpRemoveProfile c
  else c

/-- What `vdp_ifdown` does to a profile. -/
def vdpStopTimers (c : ProfileCtx) : ProfileCtx :=
  let c := c.deref
  let c := if c.profile.ackTimer > 0 then vdpStopAckTimer c else c
  if c.profile.keepaliveTimer > 0 then vdpStopKeepaliveTimer c else c

/-- What `vdp_ifup` does to a profile. -/
def vdpStartTimers (c : ProfileCtx) : ProfileCtx :=
  let c := c.deref
  let c :=
    if c.profile.ackTimer > 0 then vdpStartAckTimer (vdpSomethingChangedLocal true c) else c
  if c.profile.keepaliveTimer > 0 then vdpStartKeepaliveTimer c else c

end Lldpad.Qbg
