import Mathlib.Tactic.SplitIfs
import Lldpad.Qbg.Ecp22

/-!
# `Lldpad.Proofs.Qbg.Ecp22Tx`: the transmit machine of ECP

* `TxMove`: what a move of the transmit machine can do. `txMove_of_ok` is the only place
  that unfolds `ecp22SetTxState`.
* `ecp22SetTxState_total`: no assertion of the transmit machine can fail.
* `ecp22TxRunSm_total`: the machine comes to rest.
* `TxRest`: what holds of the transmit buffer when it does.
-/

namespace Lldpad.Qbg

open Lldpad.Lib
open Lldpad.Lldp (Port)

/-! ### The moves -/

/-- The instance with its transmit machine in another state. -/
def Ecp22Ctx.withTxState (c : Ecp22Ctx) (s : Ecp22TxState) : Ecp22Ctx :=
  { c with ecp := { c.ecp with tx := { c.ecp.tx with state := s } } }

/-- The link of `p` went down, and the transmit machine has not seen it yet. -/
def falls (p : Port) : Bool := !p.portEnabled && p.prevPortEnabled

/-- The state from which the machine moves: the initial one after the link went down. -/
def Ecp22Ctx.startState (c : Ecp22Ctx) (p : Port) : Ecp22TxState :=
  if falls p then .txBegin else c.ecp.tx.state

/-- What a move makes of the instance before it looks at the state. -/
def Ecp22Ctx.seen (c : Ecp22Ctx) (p : Port) : Ecp22Ctx :=
  { c.withTxState (c.startState p) with port := some { p with prevPortEnabled := p.portEnabled } }

/-- What a move of the transmit machine can do. -/
inductive TxMove (c : Ecp22Ctx) : Ecp22Ctx → Bool → Prop
  | noPort (h : c.port = none) : TxMove c c false
  | restart {p : Port} (h : c.port = some p) (hs : c.startState p = .txBegin) :
      TxMove c ((c.seen p).withTxState .txInit) true
  | ready {p : Port} (h : c.port = some p) (hs : c.startState p = .txInit) :
      TxMove c ((c.seen p).withTxState .txWaitForreq) true
  | request {p : Port} (h : c.port = some p) (hs : c.startState p = .txWaitForreq) :
      TxMove c ((c.seen p).withTxState .txWaitOndata) true
  | build {p : Port} (h : c.port = some p) (hs : c.startState p = .txWaitOndata)
      (hdata : c.ecp.inuse ≠ []) :
      TxMove c ((ecp22BuildEcpdu (c.seen p)).withTxState .txTxmitEcpdu) true
  | idle {p : Port} (h : c.port = some p) (hs : c.startState p = .txWaitOndata)
      (hdata : c.ecp.inuse = []) : TxMove c (c.seen p) false
  | acked {p : Port} (h : c.port = some p) (hs : c.startState p = .txTxmitEcpdu)
      (hack : c.ecp.tx.ackReceived = true) :
      TxMove c ((c.seen p).withTxState .txWaitForreq) true
  | giveUp {p : Port} (h : c.port = some p) (hs : c.startState p = .txTxmitEcpdu)
      (hack : c.ecp.tx.ackReceived = false) (hretries : c.ecp.tx.retries > c.ecp.maxRetries) :
      TxMove c ((c.seen p).withTxState .txError) true
  | wait {p : Port} (h : c.port = some p) (hs : c.startState p = .txTxmitEcpdu)
      (hack : c.ecp.tx.ackReceived = false) (hretries : ¬c.ecp.tx.retries > c.ecp.maxRetries) :
      TxMove c (c.seen p) false
  | counted {p : Port} (h : c.port = some p) (hs : c.startState p = .txError) :
      TxMove c ((c.seen p).withTxState .txWaitForreq) true

/-- The changes of state that the assertions let pass. -/
def txFollows : Ecp22TxState → Ecp22TxState → Bool
  | _, .txBegin => true
  | .txBegin, .txInit => true
  | .txInit, .txWaitForreq | .txError, .txWaitForreq | .txTxmitEcpdu, .txWaitForreq => true
  | .txWaitForreq, .txWaitOndata => true
  | .txWaitOndata, .txTxmitEcpdu => true
  | .txTxmitEcpdu, .txError => true
  | _, _ => false

theorem ecp22TxChangeState_ok {c : Ecp22Ctx} {s newstate : Ecp22TxState}
    (hs : c.ecp.tx.state = s) (h : txFollows s newstate = true) :
    ecp22TxChangeState c newstate = .ok (c.withTxState newstate) := by
  unfold ecp22TxChangeState
  cases newstate
  all_goals
    cases s
    all_goals first
      | exact absurd h Bool.false_ne_true
      | simp [hs, Ecp22Ctx.withTxState]

@[simp] theorem withTxState_self (c : Ecp22Ctx) : c.withTxState c.ecp.tx.state = c := rfl

@[simp] theorem ecp22Putnode_tx (ecp : Ecp22) : (ecp22Putnode ecp).tx = ecp.tx := by
  unfold ecp22Putnode
  split <;> rfl

theorem ecp22BuildEcpdu_state (c : Ecp22Ctx) :
    (ecp22BuildEcpdu c).ecp.tx.state = c.ecp.tx.state := by
  unfold ecp22BuildEcpdu
  split
  · rfl
  · simp

theorem ecp22TxSeePort_eq (c : Ecp22Ctx) (p : Port) : ecp22TxSeePort c p = .ok (c.seen p) := by
  unfold ecp22TxSeePort Ecp22Ctx.seen Ecp22Ctx.startState
  by_cases hfall : p.portEnabled = false ∧ p.prevPortEnabled = true
  · have hfalls : falls p = true := by simp [falls, hfall]
    rw [if_pos hfall, ecp22TxChangeState_ok rfl (by cases c.ecp.tx.state <;> rfl), bind_ok,
      if_pos hfalls]
    rfl
  · rw [if_neg hfall, pure_eq_ok, bind_ok, if_neg (by simpa [falls] using hfall), withTxState_self]
    rfl

/-- Every move of the transmit machine is one of the cases. -/
theorem txMove_exists (c : Ecp22Ctx) :
    ∃ d b, ecp22SetTxState c = .ok (d, b) ∧ TxMove c d b := by
  unfold ecp22SetTxState
  cases hp : c.port with
  | none => exact ⟨c, false, rfl, .noPort hp⟩
  | some p =>
    simp only [ecp22TxSeePort_eq, bind_ok]
    unfold ecp22NextTxState
    have hstate : (c.seen p).ecp.tx.state = c.startState p := rfl
    rw [hstate]
    cases hs : c.startState p with
    | txBegin =>
      rw [hs] at hstate
      exact ⟨_, true, by rw [ecp22TxChangeState_ok hstate rfl]; rfl, .restart hp hs⟩
    | txInit =>
      rw [hs] at hstate
      dsimp only
      exact ⟨_, true, by rw [ecp22TxChangeState_ok hstate rfl]; rfl, .ready hp hs⟩
    | txTxmitEcpdu =>
      rw [hs] at hstate
      dsimp only
      by_cases hack : c.ecp.tx.ackReceived = true
      · rw [if_pos (show (c.seen p).ecp.tx.ackReceived = true from hack)]
        exact ⟨_, true, by rw [ecp22TxChangeState_ok hstate rfl]; rfl,
          .acked hp hs hack⟩
      · rw [if_neg (show ¬(c.seen p).ecp.tx.ackReceived = true from hack)]
        rw [Bool.not_eq_true] at hack
        by_cases hretries : c.ecp.tx.retries > c.ecp.maxRetries
        · rw [if_pos (show (c.seen p).ecp.tx.retries > (c.seen p).ecp.maxRetries from hretries)]
          exact ⟨_, true, by rw [ecp22TxChangeState_ok hstate rfl]; rfl,
            .giveUp hp hs hack hretries⟩
        · rw [if_neg (show ¬(c.seen p).ecp.tx.retries > (c.seen p).ecp.maxRetries from hretries)]
          exact ⟨_, false, rfl, .wait hp hs hack hretries⟩
    | txWaitForreq =>
      rw [hs] at hstate
      dsimp only
      exact ⟨_, true, by rw [ecp22TxChangeState_ok hstate rfl]; rfl, .request hp hs⟩
    | txWaitOndata =>
      rw [hs] at hstate
      by_cases hdata : c.ecp.inuse = []
      · rw [if_neg (show ¬(c.seen p).ecp.inuse ≠ [] from not_not_intro hdata)]
        exact ⟨_, false, rfl, .idle hp hs hdata⟩
      · rw [if_pos (show (c.seen p).ecp.inuse ≠ [] from hdata)]
        have hbuilt : (ecp22BuildEcpdu (c.seen p)).ecp.tx.state = .txWaitOndata :=
          (ecp22BuildEcpdu_state _).trans hstate
        exact ⟨_, true, by rw [ecp22TxChangeState_ok hbuilt rfl]; rfl, .build hp hs hdata⟩
    | txError =>
      rw [hs] at hstate
      dsimp only
      exact ⟨_, true, by rw [ecp22TxChangeState_ok hstate rfl]; rfl, .counted hp hs⟩

variable {c d : Ecp22Ctx}

theorem txMove_of_ok {b : Bool} (h : ecp22TxMachine.move c = .ok (d, b)) :
    TxMove c d b := by
  obtain ⟨d', b', h', hmove⟩ := txMove_exists c
  cases h'.symm.trans h
  exact hmove

theorem ecp22SetTxState_total (c : Ecp22Ctx) : ∃ d b, ecp22TxMachine.move c = .ok (d, b) := by
  obtain ⟨d, b, h, -⟩ := txMove_exists c
  exact ⟨d, b, h⟩

theorem startState_of_ne {c : Ecp22Ctx} {p : Port} {s : Ecp22TxState}
    (hs : c.startState p = s) (hne : s ≠ .txBegin) : c.ecp.tx.state = s ∧ falls p = false := by
  unfold Ecp22Ctx.startState at hs
  split at hs
  · exact absurd hs.symm hne
  · next hfall => exact ⟨hs, Bool.not_eq_true _ ▸ hfall⟩

/-! ### Runs -/

theorem txRun_rule {P I J Q : Ecp22Ctx → Prop}
    (hfirst : ∀ c d b, P c → TxMove c d b → I d)
    (hact : ∀ c, I c → J (ecp22TxAction c))
    (hagain : ∀ c d, J c → TxMove c d true → I d)
    (hlast : ∀ c d, J c → TxMove c d false → Q d)
    {c c' : Ecp22Ctx} (hP : P c) (h : ecp22TxRunSm c = .ok c') : Q c' :=
  Machine.run_rule (fun c d b hc hm => hfirst c d b hc (txMove_of_ok hm))
    (fun c d hc ha => by cases ha; exact hact c hc)
    (fun c d hc hm => hagain c d hc (txMove_of_ok hm))
    (fun c d hc hm => hlast c d hc (txMove_of_ok hm)) hP h

/-- What every move keeps, and what the actions have nothing to do with, a run keeps. -/
theorem txRun_preserves {I : Ecp22Ctx → Prop} (hact : ∀ c, I c → I (ecp22TxAction c))
    (hmove : ∀ c d b, I c → TxMove c d b → I d) {c c' : Ecp22Ctx} (hI : I c)
    (h : ecp22TxRunSm c = .ok c') : I c' :=
  txRun_rule hmove hact (fun c d => hmove c d true) (fun c d => hmove c d false) hI h

/-- How far the machine is from rest: every payload takes at most five rounds. -/
def txRank (c : Ecp22Ctx) : Nat :=
  5 * c.ecp.inuse.length + match c.ecp.tx.state with
    | .txBegin => 5
    | .txTxmitEcpdu | .txInit => 4
    | .txError => 3
    | .txWaitForreq => 2
    | .txWaitOndata => 1

@[simp] theorem withTxState_inuse (c : Ecp22Ctx) (s : Ecp22TxState) :
    (c.withTxState s).ecp.inuse = c.ecp.inuse := rfl

@[simp] theorem seen_inuse (c : Ecp22Ctx) (p : Port) :
    (c.seen p).ecp.inuse = c.ecp.inuse := rfl

@[simp] theorem ecp22Putnode_inuse (ecp : Ecp22) : (ecp22Putnode ecp).inuse = ecp.inuse := by
  unfold ecp22Putnode
  split <;> rfl

theorem ecp22BuildEcpdu_inuse (c : Ecp22Ctx) :
    (ecp22BuildEcpdu c).ecp.inuse = c.ecp.inuse.tail := by
  unfold ecp22BuildEcpdu
  split
  · next h => rw [h]; rfl
  · next h => rw [h]; simp

theorem txAction_inuse (c : Ecp22Ctx) : (ecp22TxAction c).ecp.inuse = c.ecp.inuse := by
  unfold ecp22TxAction
  split <;> rfl

theorem txAction_state (c : Ecp22Ctx) : (ecp22TxAction c).ecp.tx.state = c.ecp.tx.state := by
  unfold ecp22TxAction
  split <;> rfl

theorem txAction_rank (c : Ecp22Ctx) : txRank (ecp22TxAction c) = txRank c := by
  rw [txRank, txAction_inuse, txAction_state, txRank]

theorem TxMove.rank_lt (h : TxMove c d true)
    (hup : ∀ p, c.port = some p → falls p = false) : txRank d < txRank c := by
  have hstart : ∀ p, c.port = some p → c.startState p = c.ecp.tx.state := by
    intro p hp
    rw [Ecp22Ctx.startState, hup p hp]
    rfl
  cases h with
  | restart hp hs | ready hp hs | request hp hs | acked hp hs _ | giveUp hp hs _ _
  | counted hp hs =>
    rw [hstart _ hp] at hs
    simp only [txRank, withTxState_inuse, seen_inuse, hs]
    exact Nat.lt_of_lt_of_le (Nat.lt_succ_self _) (by simp [Ecp22Ctx.withTxState])
  | build hp hs hdata =>
    rw [hstart _ hp] at hs
    have hpos : 0 < c.ecp.inuse.length := List.length_pos_iff.mpr hdata
    simp only [txRank, withTxState_inuse, ecp22BuildEcpdu_inuse, seen_inuse, hs, List.length_tail]
    show 5 * (c.ecp.inuse.length - 1) + 4 < _
    omega

theorem ecp22BuildEcpdu_port (c : Ecp22Ctx) : (ecp22BuildEcpdu c).port = c.port := by
  unfold ecp22BuildEcpdu
  split <;> rfl

theorem txAction_port (c : Ecp22Ctx) : (ecp22TxAction c).port = c.port := by
  unfold ecp22TxAction
  split <;> rfl

/-- The machine has seen the state of the link. -/
def LinkSeen (c : Ecp22Ctx) : Prop := ∀ p, c.port = some p → falls p = false

theorem TxMove.linkSeen {b : Bool} (h : TxMove c d b) : LinkSeen d := by
  have hseen : ∀ p : Port, falls { p with prevPortEnabled := p.portEnabled } = false := by
    intro p
    cases p.portEnabled <;> rfl
  intro q hq
  cases h with
  | noPort h => exact absurd (h.symm.trans hq) nofun
  | build hp hs hdata =>
    have hport := (ecp22BuildEcpdu_port (c.seen _)).symm.trans hq
    cases hport
    exact hseen _
  | restart | ready | request | idle | acked | giveUp | wait | counted =>
    cases hq
    exact hseen _

theorem TxMove.inuse_le {b : Bool} (h : TxMove c d b) :
    d.ecp.inuse.length ≤ c.ecp.inuse.length := by
  cases h with
  | build hp hs hdata =>
    rw [withTxState_inuse, ecp22BuildEcpdu_inuse, seen_inuse, List.length_tail]
    omega
  | _ => exact Nat.le_refl _

theorem ecp22TxRunSm_total (c : Ecp22Ctx) : ∃ c', ecp22TxRunSm c = .ok c' := by
  refine Machine.run_total (I := LinkSeen) txRank ?_ ?_
  · intro s hs
    obtain ⟨d, b, hmove⟩ := ecp22SetTxState_total (ecp22TxAction s)
    have htx := txMove_of_ok hmove
    refine ⟨_, d, b, rfl, hmove, fun hb => ?_⟩
    subst hb
    have hlt := htx.rank_lt (by rw [txAction_port]; exact hs)
    rw [txAction_rank] at hlt
    exact ⟨htx.linkSeen, hlt⟩
  · obtain ⟨d, b, hmove⟩ := ecp22SetTxState_total c
    have htx := txMove_of_ok hmove
    refine ⟨d, b, hmove, htx.linkSeen, ?_⟩
    have hle := htx.inuse_le
    unfold txRank ecp22TxFuel
    split <;> omega

/-! ### At rest -/

/-- The transmit buffer is free, and the counters of the last payload are reset. -/
structure TxCleared (c : Ecp22Ctx) : Prop where
  received : c.ecp.tx.ecpduReceived = false
  ackReceived : c.ecp.tx.ackReceived = false
  retries : c.ecp.tx.retries = 0

/-- The machine comes to rest in these states. -/
def Ecp22TxState.rests : Ecp22TxState → Bool
  | .txBegin | .txWaitOndata | .txTxmitEcpdu => true
  | .txInit | .txWaitForreq | .txError => false

/-- The transmit machine is at rest. -/
structure TxRest (c : Ecp22Ctx) : Prop where
  rests : c.ecp.tx.state.rests = true
  busy : c.ecp.tx.state = .txTxmitEcpdu → c.ecp.tx.ecpduReceived = true
  free : c.ecp.tx.state ≠ .txTxmitEcpdu → TxCleared c

/-- What holds of the transmit buffer between a move and an action. -/
structure TxMoved (c : Ecp22Ctx) : Prop where
  noPort : c.port = none → c.ecp.tx.state.rests = true
  busy : c.ecp.tx.state = .txTxmitEcpdu → c.ecp.tx.ecpduReceived = true
  free : c.ecp.tx.state = .txBegin ∨ c.ecp.tx.state = .txWaitOndata → TxCleared c

/-- What holds of the transmit buffer between an action and a move. -/
structure TxActed (c : Ecp22Ctx) : Prop extends TxMoved c where
  forreq : c.ecp.tx.state = .txWaitForreq → TxCleared c

theorem TxMoved.act {c : Ecp22Ctx} (h : TxMoved c) : TxActed (ecp22TxAction c) := by
  have hstate := txAction_state c
  refine ⟨⟨?_, ?_, ?_⟩, ?_⟩
  · rw [txAction_port, hstate]
    exact h.noPort
  · rw [hstate]
    intro hs
    unfold ecp22TxAction
    rw [hs]
    exact h.busy hs
  · rw [hstate]
    intro hs
    have hsame : ecp22TxAction c = c := by
      unfold ecp22TxAction
      rcases hs with hs | hs
      · rw [hs]
      · rw [hs]
    rw [hsame]
    exact h.free hs
  · rw [hstate]
    intro hs
    unfold ecp22TxAction
    rw [hs]
    exact ⟨rfl, rfl, rfl⟩

theorem ecp22BuildEcpdu_received {c : Ecp22Ctx} (h : c.ecp.inuse ≠ []) :
    (ecp22BuildEcpdu c).ecp.tx.ecpduReceived = true := by
  unfold ecp22BuildEcpdu
  split
  · next hnil => exact absurd hnil h
  · simp

theorem TxRest.move {b : Bool} (h : TxRest c) (hm : TxMove c d b) :
    TxMoved d := by
  cases hm with
  | noPort hp =>
    refine ⟨fun _ => h.rests, h.busy, fun hs => h.free fun htx => ?_⟩
    rw [htx] at hs
    exact absurd hs nofun
  | restart | ready | acked | giveUp | counted => exact ⟨nofun, nofun, nofun⟩
  | request hp hs =>
    have hrest := h.rests
    rw [(startState_of_ne hs nofun).1] at hrest
    exact absurd hrest Bool.false_ne_true
  | build hp hs hdata =>
    refine ⟨fun hport => ?_, fun _ => ecp22BuildEcpdu_received hdata, nofun⟩
    have hport' := (ecp22BuildEcpdu_port _).symm.trans hport
    exact absurd hport' nofun
  | idle hp hs hdata =>
    have hstate := (startState_of_ne hs nofun).1
    refine ⟨nofun, fun htx => absurd (hs.symm.trans htx) nofun, fun _ => ?_⟩
    obtain ⟨hreceived, hack, hretries⟩ := h.free (by rw [hstate]; nofun)
    exact ⟨hreceived, hack, hretries⟩
  | wait hp hs hack hretries =>
    have hstate := (startState_of_ne hs nofun).1
    exact ⟨nofun, fun _ => h.busy hstate,
      fun hor => absurd (hor.imp hs.symm.trans hs.symm.trans) nofun⟩

theorem TxActed.move {b : Bool} (h : TxActed c) (hm : TxMove c d b) :
    TxMoved d ∧ (b = false → TxRest d) := by
  cases hm with
  | noPort hp =>
    refine ⟨h.toTxMoved, fun _ => ⟨h.noPort hp, h.busy, fun hne => h.free ?_⟩⟩
    have hrest := h.noPort hp
    cases hs : c.ecp.tx.state with
    | txBegin => exact .inl rfl
    | txWaitOndata => exact .inr rfl
    | txTxmitEcpdu => exact absurd hs hne
    | txInit | txWaitForreq | txError =>
      rw [hs] at hrest
      exact absurd hrest Bool.false_ne_true
  | restart | ready | acked | giveUp | counted => exact ⟨⟨nofun, nofun, nofun⟩, nofun⟩
  | request hp hs =>
    have hstate := (startState_of_ne hs nofun).1
    obtain ⟨hreceived, hack, hretries⟩ := h.forreq hstate
    exact ⟨⟨nofun, nofun, fun _ => ⟨hreceived, hack, hretries⟩⟩, nofun⟩
  | build hp hs hdata =>
    refine ⟨⟨fun hport => ?_, fun _ => ecp22BuildEcpdu_received hdata, nofun⟩, nofun⟩
    have hport' := (ecp22BuildEcpdu_port _).symm.trans hport
    exact absurd hport' nofun
  | idle hp hs hdata =>
    have hstate := (startState_of_ne hs nofun).1
    obtain ⟨hreceived, hack, hretries⟩ := h.free (.inr hstate)
    refine ⟨⟨nofun, fun htx => absurd (hs.symm.trans htx) nofun,
      fun _ => ⟨hreceived, hack, hretries⟩⟩,
      fun _ => ⟨?_, fun htx => absurd (hs.symm.trans htx) nofun,
      fun _ => ⟨hreceived, hack, hretries⟩⟩⟩
    show (c.startState _).rests = true
    rw [hs]
    rfl
  | wait hp hs hack hretries =>
    have hstate := (startState_of_ne hs nofun).1
    refine ⟨⟨nofun, fun _ => h.busy hstate,
      fun hor => absurd (hor.imp hs.symm.trans hs.symm.trans) nofun⟩,
      fun _ => ⟨?_, fun _ => h.busy hstate, fun hne => absurd hs hne⟩⟩
    show (c.startState _).rests = true
    rw [hs]
    rfl

theorem ecp22TxRunSm_rest {c c' : Ecp22Ctx} (hc : TxRest c) (h : ecp22TxRunSm c = .ok c') :
    TxRest c' :=
  txRun_rule (I := TxMoved) (J := TxActed) (fun _ _ _ hp hm => TxRest.move hp hm)
    (fun _ hi => hi.act) (fun _ _ hj hm => (hj.move hm).1) (fun _ _ hj hm => (hj.move hm).2 rfl)
    hc h

end Lldpad.Qbg
