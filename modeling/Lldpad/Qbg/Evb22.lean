import Lldpad.Lib.Transition
import Mathlib.Logic.Function.Basic

/-!
# `Lldpad.Qbg.Evb22`: the EVB TLV and the values it agrees on

`lldp_evb22.c`, the settings of `lldp_evb22_cmds.c` and the timers that `ecp22.c` and
`vdp22sm.c` arm with the values they are given.

`evb22Link` is two of these modules on one link. The TLVs between them may be lost and may
overtake each other. `Evb22Side.heard` and `Evb22Msg.recent` are ghosts: the TLV that was built
after the last setting of its sender.
-/

namespace Lldpad.Qbg.Evb22

open Lldpad.Lib

/-! ### The bits of the TLV -/

def evbMaskoffRetries (value : UInt8) : UInt8 := value &&& 0x1f

def evbSetRetries (value : UInt8) : UInt8 := (value &&& 7) <<< 5

def evbExRetries (value : UInt8) : UInt8 := (value >>> 5) &&& 7

def evbMaskoffRte (value : UInt8) : UInt8 := value &&& 0xe0

def evbSetRte (value : UInt8) : UInt8 := value &&& 0x1f

def evbExRte (value : UInt8) : UInt8 := value &&& 0x1f

def evbSetEvbmode (value : UInt8) : UInt8 := (value &&& 3) <<< 6

def evbExEvbmode (value : UInt8) : UInt8 := (value >>> 6) &&& 3

def evbSetRol (value : UInt8) : UInt8 := (value &&& 1) <<< 5

def evbMaskoffRwd (value : UInt8) : UInt8 := value &&& 0xe0

def evbSetRwd (value : UInt8) : UInt8 := value &&& 0x1f

def evbExRwd (value : UInt8) : UInt8 := value &&& 0x1f

def evbMaskoffRka (value : UInt8) : UInt8 := value &&& 0xe0

def evbSetRka (value : UInt8) : UInt8 := value &&& 0x1f

def evbExRka (value : UInt8) : UInt8 := value &&& 0x1f

def evbMaskoffRrstat (value : UInt8) : UInt8 := value &&& 0xfc

def evbSetRrstat (value : UInt8) : UInt8 := value &&& 3

def evbMaskoffRrreq (value : UInt8) : UInt8 := value &&& 0xfb

def evbSetRrreq (value : UInt8) : UInt8 := (value &&& 1) <<< 2

def evbExRrreq (value : UInt8) : UInt8 := (value >>> 2) &&& 1

def evbMaskoffSgid (value : UInt8) : UInt8 := value &&& 0xf7

def evbSetSgid (value : UInt8) : UInt8 := (value &&& 1) <<< 3

def evbExSgid (value : UInt8) : UInt8 := (value >>> 3) &&& 1

def evbMaskoffRrcap (value : UInt8) : UInt8 := value &&& 0xfd

def evbSetRrcap (value : UInt8) : UInt8 := (value &&& 1) <<< 1

def evbExRrcap (value : UInt8) : UInt8 := (value >>> 1) &&& 1

def evbSetRrctr (value : UInt8) : UInt8 := value &&& 1

def evbExRrctr (value : UInt8) : UInt8 := value &&& 1

def evbMaskoffBgid (value : UInt8) : UInt8 := value &&& 0xfb

def evbSetBgid (value : UInt8) : UInt8 := (value &&& 1) <<< 2

def evbExBgid (value : UInt8) : UInt8 := (value >>> 2) &&& 1

def evbBridge : UInt8 := 1

def evbStation : UInt8 := 2

/-- `EVB_RRSTAT_YES`, `EVB_RRSTAT_NO` and `EVB_RRSTAT_DONT` -/
def evbRrstatYes : UInt8 := 1
def evbRrstatNo : UInt8 := 0
def evbRrstatDont : UInt8 := 3

/-! ### The module -/

/-- `struct evb22_tlv` -/
structure Evb22Tlv where
  oui : UInt8 × UInt8 × UInt8 := (0, 0, 0)
  sub : UInt8 := 0
  bridgeS : UInt8 := 0
  stationS : UInt8 := 0
  rRte : UInt8 := 0
  evbMode : UInt8 := 0
  rlRka : UInt8 := 0
  deriving DecidableEq

/-- `struct evb22_data`: what is sent, what was received last and the local policy -/
structure Evb22Data where
  txmit : Bool := true
  out : Evb22Tlv := {}
  last : Evb22Tlv := {}
  policy : Evb22Tlv := {}
  deriving DecidableEq

def commonTlv (ed : Evb22Data) : Evb22Data :=
  let recv := ed.last
  let mine := ed.policy
  let retries := if evbExRetries mine.rRte > evbExRetries recv.rRte then evbExRetries mine.rRte
    else evbExRetries recv.rRte
  let rte := if evbExRte mine.rRte > evbExRte recv.rRte then evbExRte mine.rRte
    else evbExRte recv.rRte
  let mode := evbSetEvbmode (evbExEvbmode mine.evbMode)
  let evbMode :=
    if evbExRwd mine.evbMode > evbExRwd recv.evbMode then
      mode ||| evbSetRwd (evbExRwd mine.evbMode)
    else mode ||| evbSetRol 1 ||| evbSetRwd (evbExRwd recv.evbMode)
  let rlRka :=
    if evbExRka mine.rlRka > evbExRka recv.rlRka then 0 ||| evbSetRka (evbExRka mine.rlRka)
    else evbSetRol 1 ||| evbSetRka (evbExRka recv.rlRka)
  { ed with
    out := { ed.out with
      rRte := evbSetRetries retries ||| evbSetRte rte, evbMode := evbMode, rlRka := rlRka } }

def bridgeTlv (ed : Evb22Data) : Evb22Data :=
  let recv := ed.last
  let mine := ed.policy
  let bridgeS :=
    if evbExRrreq recv.stationS ≠ 0 ∧ evbExRrcap mine.bridgeS ≠ 0 then
      mine.bridgeS ||| evbSetRrctr 1
    else mine.bridgeS
  commonTlv { ed with out := { ed.out with stationS := recv.stationS, bridgeS := bridgeS } }

def stationTlv (ed : Evb22Data) : Evb22Data :=
  let recv := ed.last
  let mine := ed.policy
  let val :=
    if recv.oui.2.1 = 0 then evbRrstatDont
    else if evbExRrctr recv.bridgeS ≠ 0 then evbRrstatYes
    else evbRrstatNo
  commonTlv { ed with
    out := { ed.out with
      bridgeS := recv.bridgeS
      stationS := evbMaskoffRrstat mine.stationS ||| evbSetRrstat val } }

/-- `struct evb22_to_ecp22` -/
structure Evb22ToEcp22 where
  maxRetry : UInt8
  maxRte : UInt8
  deriving DecidableEq

/-- `struct evb22_to_vdp22` -/
structure Evb22ToVdp22 where
  maxRetry : UInt8
  maxRte : UInt8
  maxRwd : UInt8
  maxRka : UInt8
  gpid : Bool
  evbon : Bool
  deriving DecidableEq

/-- What `evb22_update_tlv` makes of the data. -/
def updatedTlv (ed : Evb22Data) : Evb22Data :=
  if evbExEvbmode ed.policy.evbMode = evbStation then stationTlv ed else bridgeTlv ed

/-- What `evb22_update_tlv` tells ECP22. -/
def toEcp22 (ed : Evb22Data) : Evb22ToEcp22 where
  maxRetry := evbExRetries ed.out.rRte
  maxRte := evbExRte ed.out.rRte

/-- What `evb22_update_tlv` tells VDP22. -/
def toVdp22 (ed : Evb22Data) : Evb22ToVdp22 where
  maxRetry := evbExRetries ed.out.rRte
  maxRte := evbExRte ed.out.rRte
  maxRwd := evbExRwd ed.out.evbMode
  maxRka := evbExRka ed.out.rlRka
  gpid := evbExBgid ed.out.bridgeS ≠ 0 && evbExSgid ed.out.stationS ≠ 0
  evbon := ed.txmit

/-- What the configuration says. -/
structure Evb22Config where
  txmit : Bool
  bridge : Bool
  rwd : UInt8
  gid : UInt8
  rrreq : UInt8
  rrcap : UInt8
  retries : UInt8
  rte : UInt8
  rka : UInt8

def evb22InitTlv (conf : Evb22Config) : Evb22Data where
  txmit := conf.txmit
  last := {}
  out := { oui := (0x00, 0x80, 0xc2), sub := 0xd }
  policy :=
    { oui := (0x00, 0x80, 0xc2)
      sub := 0xd
      evbMode := evbSetRol 0 ||| evbSetRwd conf.rwd |||
        evbSetEvbmode (if conf.bridge then evbBridge else evbStation)
      stationS := if conf.bridge then 0
        else evbSetRrstat evbRrstatDont ||| evbSetSgid conf.gid ||| evbSetRrreq conf.rrreq
      bridgeS := if conf.bridge then evbSetRrcap conf.rrcap ||| evbSetBgid conf.gid else 0
      rRte := evbSetRetries conf.retries ||| evbSetRte conf.rte
      rlRka := evbSetRol 0 ||| evbSetRka conf.rka }

/-! ### The settings -/

def setRetries (ed : Evb22Data) (value : UInt8) : Evb22Data :=
  { ed with policy := { ed.policy with
      rRte := evbMaskoffRetries ed.policy.rRte ||| evbSetRetries value } }

def setRte (ed : Evb22Data) (value : UInt8) : Evb22Data :=
  { ed with policy := { ed.policy with
      rRte := evbMaskoffRte ed.policy.rRte ||| evbSetRte value } }

def setRwd (ed : Evb22Data) (value : UInt8) : Evb22Data :=
  { ed with policy := { ed.policy with
      evbMode := evbMaskoffRwd ed.policy.evbMode ||| evbSetRwd value } }

def setRka (ed : Evb22Data) (value : UInt8) : Evb22Data :=
  { ed with policy := { ed.policy with
      rlRka := evbMaskoffRka ed.policy.rlRka ||| evbSetRka value } }

def setGpid (ed : Evb22Data) (value : UInt8) : Evb22Data :=
  if evbExEvbmode ed.policy.evbMode = evbStation then
    { ed with policy := { ed.policy with
        stationS := evbMaskoffSgid ed.policy.stationS ||| evbSetSgid value } }
  else
    { ed with policy := { ed.policy with
        bridgeS := evbMaskoffBgid ed.policy.bridgeS ||| evbSetBgid value } }

def setRrcap (ed : Evb22Data) (value : UInt8) : Evb22Data :=
  { ed with policy := { ed.policy with
      bridgeS := evbMaskoffRrcap ed.policy.bridgeS ||| evbSetRrcap value } }

def setRrreq (ed : Evb22Data) (value : UInt8) : Evb22Data :=
  { ed with policy := { ed.policy with
      stationS := evbMaskoffRrreq ed.policy.stationS ||| evbSetRrreq value } }

def setTxmit (ed : Evb22Data) (value : Bool) : Evb22Data := { ed with txmit := value }

/-- The values that both sides take the maximum of. -/
inductive Param where
  | retries
  | rte
  | rwd
  | rka
  deriving DecidableEq

/-- A value in a TLV. -/
def Param.value : Param → Evb22Tlv → UInt8
  | .retries, t => evbExRetries t.rRte
  | .rte, t => evbExRte t.rRte
  | .rwd, t => evbExRwd t.evbMode
  | .rka, t => evbExRka t.rlRka

/-- The handlers of the settings and their limits. -/
def Param.set : Param → Evb22Data → UInt8 → Evb22Data
  | .retries => setRetries
  | .rte => setRte
  | .rwd => setRwd
  | .rka => setRka

def Param.limit : Param → Int
  | .retries => 7
  | .rte | .rwd | .rka => 31

/-- `scan_31bit`, with the `int` that the argument stands for. Only the upper limit is tested;
the handler takes the low byte. -/
def scan31bit (ed : Evb22Data) (p : Param) (value : Int) : Option Evb22Data :=
  if value > p.limit then none else some (p.set ed (UInt8.ofNat (value % 256).toNat))

/-! ### The timers

The products are taken in `int`, whatever they are assigned to. -/

/-- An `int`, after an operation of its width. -/
def int32 (x : Int) : Int := x.bmod (2 ^ 32)

/-- `1 << n` -/
def shift1 (n : UInt8) : Int := int32 (2 ^ n.toNat)

/-- The microseconds of a timer that was registered with seconds and microseconds, both
`unsigned int`. -/
def registered (secs usecs : Int) : Int := secs % 2 ^ 32 * 1000000 + usecs % 2 ^ 32

/-- `secs = towait / USEC_PER_SEC; usecs = towait % USEC_PER_SEC`, for an `unsigned long long` -/
def registeredU64 (towait : Int) : Int :=
  registered (towait % 2 ^ 64 / 1000000) (towait % 2 ^ 64 % 1000000)

def rtevalue (rte : UInt8) : Int := int32 (shift1 rte * 10)

def ecp22TxStartAcktimer (ecp : Evb22ToEcp22) : Int :=
  registered ((rtevalue ecp.maxRte).tdiv 1000000) ((rtevalue ecp.maxRte).tmod 1000000)

def vdp22stStartKatimer (vdp : Evb22ToVdp22) : Int :=
  registeredU64 (int32 (shift1 vdp.maxRka * 10))

def vdp22Timeout (vdp : Evb22ToVdp22) (exp : UInt8) : Int :=
  let towait := int32 (int32 (int32 (1 + 2 * vdp.maxRetry.toNat) * shift1 vdp.maxRte) * 10) % 2 ^ 64
  let towait := (towait + int32 (shift1 exp * 10)) % 2 ^ 64
  registeredU64 (towait + towait / 2)

def vdp22stStartAcktimer (vdp : Evb22ToVdp22) : Int := vdp22Timeout vdp vdp.maxRwd

def vdp22brStartKatimer (vdp : Evb22ToVdp22) : Int := vdp22Timeout vdp vdp.maxRka

def vdp22brStartRestimer (vdp : Evb22ToVdp22) : Int :=
  registeredU64 (int32 (shift1 vdp.maxRwd * 10))

/-! ### Two modules on a link -/

/-- The two ends of the link. -/
inductive End where
  | one
  | other
  deriving DecidableEq

def End.peer : End → End
  | .one => .other
  | .other => .one

/-- One end: its data, what ECP22 and VDP22 were told last, and whether the TLV that it took
last was built after the last setting of the peer. -/
structure Evb22Side where
  ed : Evb22Data
  ecp22 : Evb22ToEcp22
  vdp22 : Evb22ToVdp22
  heard : Bool := false
  deriving DecidableEq

/-- A TLV on the wire, and whether it was built after the last setting of its sender. -/
structure Evb22Msg where
  tlv : Evb22Tlv
  recent : Bool
  deriving DecidableEq

/-- Both ends, and what is on the way to each. -/
structure Evb22Link where
  side : End → Evb22Side
  wire : End → List Evb22Msg

/-- What happens on the link. -/
inductive Evb22Event where
  /-- one of the values is set -/
  | set (d : End) (p : Param) (value : Int)
  | gpid (d : End) (value : Bool)
  | rrcap (d : End) (value : Bool)
  | rrreq (d : End) (value : Bool)
  | txmit (d : End) (value : Bool)
  /-- a frame is built and sent -/
  | send (d : End)
  /-- the TLV at place `i` on the way to an end arrives -/
  | deliver (d : End) (i : Nat)
  | lose (d : End) (i : Nat)
  /-- what an end has received grows too old -/
  | ageOut (d : End)
  deriving DecidableEq

def evb22UpdateTlv (s : Evb22Side) : Evb22Side :=
  let ed := updatedTlv s.ed
  { s with ed := ed, ecp22 := toEcp22 ed, vdp22 := toVdp22 ed }

/-- `evb22_rchange`, for a TLV that is this module's -/
def evb22Rchange (s : Evb22Side) (m : Evb22Msg) : Evb22Side :=
  if s.ed.txmit then
    evb22UpdateTlv { s with ed := { s.ed with last := m.tlv }, heard := m.recent }
  else s

def evb22Mibdelete (s : Evb22Side) : Evb22Side :=
  { s with ed := { s.ed with last := {} }, heard := false }

/-- The number that a truth value is stored as. -/
def boolValue (value : Bool) : UInt8 := if value then 1 else 0

namespace Evb22Link

/-- One end changes. -/
def put (l : Evb22Link) (d : End) (s : Evb22Side) : Evb22Link :=
  { l with side := Function.update l.side d s }

/-- One end is set to other values: from here on all that was built before is old. -/
def change (l : Evb22Link) (d : End) (ed : Evb22Data) : Evb22Link where
  side := Function.update (Function.update l.side d { l.side d with ed := ed }) d.peer
    { l.side d.peer with heard := false }
  wire := Function.update l.wire d.peer
    ((l.wire d.peer).map fun m => { m with recent := false })

/-- What is on the way to an end. -/
def setWire (l : Evb22Link) (d : End) (ms : List Evb22Msg) : Evb22Link :=
  { l with wire := Function.update l.wire d ms }

/-- One event on the link. -/
def step (l : Evb22Link) : Evb22Event → Evb22Link
  | .set d p value =>
    match scan31bit (l.side d).ed p value with
    | some ed => l.change d ed
    | none => l
  | .gpid d value => l.change d (setGpid (l.side d).ed (boolValue value))
  | .rrcap d value =>
    l.put d { l.side d with ed := setRrcap (l.side d).ed (boolValue value) }
  | .rrreq d value =>
    l.put d { l.side d with ed := setRrreq (l.side d).ed (boolValue value) }
  | .txmit d value => l.put d { l.side d with ed := setTxmit (l.side d).ed value }
  | .send d =>
    if (l.side d).ed.txmit then
      let s := evb22UpdateTlv (l.side d)
      (l.put d s).setWire d.peer (l.wire d.peer ++ [{ tlv := s.ed.out, recent := true }])
    else l
  | .deliver d i =>
    match (l.wire d)[i]? with
    | some m => (l.put d (evb22Rchange (l.side d) m)).setWire d ((l.wire d).eraseIdx i)
    | none => l
  | .lose d i => l.setWire d ((l.wire d).eraseIdx i)
  | .ageOut d => l.put d (evb22Mibdelete (l.side d))

/-- Both modules have been set up, and nothing has been sent. What ECP22 and VDP22 hold does not
matter yet. -/
def Init (l : Evb22Link) : Prop :=
  (∀ d, ∃ conf, (l.side d).ed = evb22InitTlv conf ∧ (l.side d).heard = false) ∧
    ∀ d, l.wire d = []

end Evb22Link

/-- Two EVB modules on a link. -/
def evb22Link : System Evb22Link Evb22Event where
  init := Evb22Link.Init
  step l e := .ok (l.step e)

end Lldpad.Qbg.Evb22
