import Lldpad.Qbg.EcpInput
import Lldpad.Qbg.Vdp22System

/-!
# `Lldpad.Qbg.Vdp22Receive`: the messages that ECP hands to VDP

A message waits in the one buffer of the instance until a timer of two milliseconds expires, and
`vdp22_from_ecp22` starts a timer for every message. The timer's handler is `vdp22_ecp22in`. It
checks the TLVs of the message in one loop, and `vdp22_input` reads them in another.

Both loops walk the buffer by the lengths in the TLVs. They get the memory from the message on,
and stop with `Fault.outOfBounds` at its end. A TLV has two bytes at least, so no walk takes more
turns than the memory has bytes.

`Vdp22Port` is the VDP instance with its buffer, the timers that are pending and the ECP instance
below. What VDP sends is an event of the ECP instance like any other payload.
-/

namespace Lldpad.Qbg

open Lldpad.Lib
open Lldpad.Lldp (Bytes)

/-! ### The checks -/

/-- What the `switch` of `vdp22_ecp22in` does with a TLV. -/
inductive TlvCheck where
  /-- the message ends here -/
  | ended
  /-- the message is dropped -/
  | dropped
  /-- so many bytes are taken off -/
  | taken (ptlvLen : Nat)
  deriving DecidableEq

/-- The `switch` of `vdp22_ecp22in`, with `totalLen` bytes to go -/
def ecp22inSwitch (head : UInt16) (totalLen : Int) : TlvCheck :=
  let ptlvLen := ptlvLength head
  if ptlvType head = vdp22Endtlv then .ended
  else if ptlvType head = vdp22Mgrid then .dropped
  else if isVsiMode (ptlvType head) then
    if (ptlvLen : Int) > totalLen then .dropped else .taken ptlvLen
  else .taken (if ptlvLen = 0 then 2 else ptlvLen)

/-- The `do` loop of `vdp22_ecp22in` from the TLV at `ptlv` on: the `total_len` that it leaves, if
it does not drop the message -/
def ecp22inLoop (mem : Bytes) : Nat → Nat → Int → Except Fault (Option Int)
  | 0, _, _ => .error .outOfFuel
  | fuel + 1, ptlv, totalLen => do
    let head ← ptlvAt mem ptlv
    match ecp22inSwitch head totalLen with
    | .ended => pure (some 0)
    | .dropped => pure none
    | .taken ptlvLen =>
      if totalLen - ptlvLen > 0 then ecp22inLoop mem fuel (ptlv + ptlvLen) (totalLen - ptlvLen)
      else pure (some (totalLen - ptlvLen))

/-- `vdp22_ecp22in` up to the call of `vdp22_input`, and whether that is called -/
def ecp22inAccepts (mem : Bytes) (inputLen : Nat) : Except Fault Bool := do
  let head ← ptlvAt mem 0
  if ptlvType head ≠ vdp22Mgrid then pure false
  else if ptlvLength head > inputLen then pure false
  else do
    let left := (inputLen : Int) - ptlvLength head
    let totalLen ← ecp22inLoop mem (mem.length + 1) (ptlvLength head) left
    pure (totalLen.any (0 ≤ ·))

/-! ### The TLVs of a message -/

/-- The `switch` of `vdp22_input` for the TLV at `ptlv`. `vsi` is the node on its stack. -/
def vdp22InputTlv (mem : Bytes) (ptlv : Nat) (mode : UInt8) (vsi : Vsi22) (c : Vdp22Ctx) :
    Except Fault (Vsi22 × Vdp22Ctx) :=
  if mode = vdp22Mgrid then do
    let mgrid ← extractNo mem (ptlv + 2) 16
    pure ({ vsi with mgrid := mgrid }, c)
  else if isVsiMode mode then do
    let x ← ptlvToVsi22 c.myrole mem ptlv { vsi with vsiMode := mode }
    let c ← if x.2 then vdp22Tlv x.1 c else pure c
    pure (x.1, c)
  else pure (vsi, c)

/-- The loop of `vdp22_input`, which an END TLV ends -/
def vdp22InputLoop (mem : Bytes) : Nat → Nat → Vsi22 → Vdp22Ctx → Except Fault Vdp22Ctx
  | 0, _, _, _ => .error .outOfFuel
  | fuel + 1, ptlv, vsi, c => do
    let head ← ptlvAt mem ptlv
    if ptlvType head = vdp22Endtlv then pure c
    else do
      let x ← vdp22InputTlv mem ptlv (ptlvType head) vsi c
      vdp22InputLoop mem fuel (ptlv + ptlvLength head) x.1 x.2

def vdp22Input (mem : Bytes) (c : Vdp22Ctx) : Except Fault Vdp22Ctx :=
  vdp22InputLoop mem (mem.length + 1) 0 {} c

/-- `vdp22_ecp22in`, and whether it took the message -/
def vdp22Ecp22in (brDown : Bool) (mem : Bytes) (inputLen : Nat) (c : Vdp22Ctx) :
    Except Fault (Vdp22Ctx × Bool) :=
  if c.myrole = .bridge ∧ brDown = true then pure (c, false)
  else do
    let accepted ← ecp22inAccepts mem inputLen
    if accepted then do
      let c ← vdp22Input mem c
      pure (c, true)
    else pure (c, false)

/-! ### The instance on top of ECP -/

/-- The message in the buffer -/
def Vdp22Input.message (x : Vdp22Input) : Bytes := x.input.bytes.take x.inputLen

/-- The two instances of a port. `timers` is the number of pending timers of `vdp22_ecp22in`, and
`handled` the messages that it was called for, in order. Nothing in the source sets `br_down`. -/
structure Vdp22Port where
  ecp : Ecp22Ctx
  vdp : Vdp22Ctx
  brDown : Bool := false
  data : Vdp22Input := {}
  timers : Nat := 0
  handled : List Bytes := []

/-- What reaches a port. -/
inductive Vdp22PortEvent where
  | ecp (e : Ecp22Event)
  | vdp (e : Vdp22Event)
  /-- a pending timer of `vdp22_ecp22in` expires -/
  | inputTimer

/-- One event. -/
def vdp22PortStep (s : Vdp22Port) : Vdp22PortEvent → Except Fault Vdp22Port
  | .ecp e => do
    let d ← ecp22Step s.ecp e
    let data ← (handedUp s.ecp d).foldlM dataFromEcp s.data
    pure { s with ecp := d, data := data, timers := s.timers + (handedUp s.ecp d).length }
  | .vdp e => do
    let vdp ← vdp22Step s.vdp e
    pure { s with vdp := vdp }
  | .inputTimer =>
    if s.timers = 0 then .ok s
    else do
      let x ← vdp22Ecp22in s.brDown s.data.input.bytes s.data.inputLen s.vdp
      pure { s with
        vdp := x.1
        timers := s.timers - 1
        handled := s.handled ++ [s.data.message] }

/-- A port and everything that reaches it. -/
def vdp22PortSystem : System Vdp22Port Vdp22PortEvent where
  init s := ecp22System.init s.ecp ∧ (∃ role, s.vdp = vdp22Create role) ∧ s.brDown = false ∧
    s.data = {} ∧ s.timers = 0 ∧ s.handled = []
  step := vdp22PortStep

end Lldpad.Qbg
