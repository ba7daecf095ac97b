import Lldpad.Lib.Transition
import Mathlib.Data.List.Range

/-!
# `Lldpad.Eloop`: the timeouts of the event loop

`eloop.c` keeps the registered timeouts in a list. A pass of `eloop_run` sleeps until the first one
is due, calls its handler, if it is due then, and goes on with the sockets. What the handlers of
timeouts, sockets and signals register and cancel are the events that come after the pass.

Handlers and contexts are of any type. Memory does not run out, and the clock is not set back.
-/

namespace Lldpad.Eloop

open Lldpad.Lib

/-! ### Time -/

/-- `struct os_time` -/
structure OsTime where
  sec : Nat
  usec : Nat
  usec_lt : usec < 1000000
  deriving DecidableEq

def OsTime.zero : OsTime where
  sec := 0
  usec := 0
  usec_lt := by decide

def osTimeBefore (a b : OsTime) : Bool :=
  a.sec < b.sec || (a.sec = b.sec && a.usec < b.usec)

/-- `os_time_sub` of a time that is not after the other one -/
def osTimeSub (a b : OsTime) : OsTime :=
  if h : a.usec < b.usec then
    { sec := a.sec - b.sec - 1
      usec := a.usec + 1000000 - b.usec
      usec_lt := by omega }
  else
    { sec := a.sec - b.sec
      usec := a.usec - b.usec
      usec_lt := Nat.lt_of_le_of_lt (Nat.sub_le ..) a.usec_lt }

/-- A time later on. The loop of `eloop_register_timeout` moves whole seconds out of the
microseconds. -/
def OsTime.later (now : OsTime) (secs usecs : Nat) : OsTime where
  sec := now.sec + secs + (now.usec + usecs) / 1000000
  usec := (now.usec + usecs) % 1000000
  usec_lt := Nat.mod_lt _ (by decide)

/-! ### The list -/

variable {η γ : Type}

/-- `struct eloop_timeout`. The registrations are numbered. -/
structure EloopTimeout (η γ : Type) where
  time : OsTime
  handler : η
  eloopData : γ
  userData : γ
  number : Nat
  deriving DecidableEq

/-- The walk of `eloop_register_timeout`: a timeout goes in front of the first later one. -/
def insertTimeout (timeout : EloopTimeout η γ) : List (EloopTimeout η γ) → List (EloopTimeout η γ)
  | [] => [timeout]
  | tmp :: rest =>
    if osTimeBefore timeout.time tmp.time then timeout :: tmp :: rest
    else tmp :: insertTimeout timeout rest

/-- `eloop_cancel_timeout` removes the timeout. -/
def cancels [DecidableEq η] [DecidableEq γ] (allCtx : γ) (handler : η) (eloopData userData : γ)
    (timeout : EloopTimeout η γ) : Bool :=
  timeout.handler = handler &&
    (timeout.eloopData = eloopData || eloopData = allCtx) &&
    (timeout.userData = userData || userData = allCtx)

/-- How long `select` waits: until the first timeout is due, if there is one -/
def selectTimeout (now : OsTime) : List (EloopTimeout η γ) → Option OsTime
  | [] => none
  | first :: _ =>
    if osTimeBefore now first.time then some (osTimeSub first.time now)
    else some .zero

/-! ### The system -/

/-- `struct eloop_data` with the clock. `called` and `cancelled` are the timeouts of the past. -/
structure EloopData (η γ : Type) where
  now : OsTime
  timeout : List (EloopTimeout η γ) := []
  registered : Nat := 0
  called : List (EloopTimeout η γ) := []
  cancelled : List (EloopTimeout η γ) := []
  deriving DecidableEq

inductive EloopEvent (η γ : Type) where
  /-- time goes by -/
  | wait (secs usecs : Nat)
  /-- `eloop_register_timeout` -/
  | register (secs usecs : Nat) (handler : η) (eloopData userData : γ)
  /-- `eloop_cancel_timeout` -/
  | cancel (handler : η) (eloopData userData : γ)
  /-- a pass of `eloop_run` -/
  | pass

def eloopRegisterTimeout (secs usecs : Nat) (handler : η) (eloopData userData : γ)
    (s : EloopData η γ) : EloopData η γ :=
  let time := s.now.later secs usecs
  { s with
    timeout := insertTimeout { time, handler, eloopData, userData, number := s.registered } s.timeout
    registered := s.registered + 1 }

variable [DecidableEq η] [DecidableEq γ]

/-- `eloop_cancel_timeout`, with its answer -/
def eloopCancelTimeout (allCtx : γ) (handler : η) (eloopData userData : γ) (s : EloopData η γ) :
    Nat × EloopData η γ :=
  let removed := s.timeout.filter (cancels allCtx handler eloopData userData)
  (removed.length, { s with
    timeout := s.timeout.filter fun t => !cancels allCtx handler eloopData userData t
    cancelled := s.cancelled ++ removed })

/-- The timeouts in a pass of `eloop_run` -/
def eloopPass (s : EloopData η γ) : EloopData η γ :=
  match s.timeout with
  | [] => s
  | tmp :: rest =>
    if osTimeBefore s.now tmp.time then s
    else { s with timeout := rest, called := s.called ++ [tmp] }

/-- The event loop after `eloop_init` -/
def eloopSystem (allCtx : γ) : System (EloopData η γ) (EloopEvent η γ) where
  init s := ∃ now, s = { now }
  step s
    | .wait secs usecs => .ok { s with now := s.now.later secs usecs }
    | .register secs usecs handler eloopData userData =>
      .ok (eloopRegisterTimeout secs usecs handler eloopData userData s)
    | .cancel handler eloopData userData =>
      .ok (eloopCancelTimeout allCtx handler eloopData userData s).2
    | .pass => .ok (eloopPass s)

end Lldpad.Eloop
