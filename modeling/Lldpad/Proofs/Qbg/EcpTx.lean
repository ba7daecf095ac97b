import Lldpad.Proofs.Qbg.Ecp22Rest
import Lldpad.Qbg.Ecp

/-!
# `Lldpad.Proofs.Qbg.EcpTx`: the transmit machines of ECP and the port

Both ECPs look at the port of their interface in every move. `PortOf p` says what they leave
of it: the port `p`, or the port `p` with the flag up to date.

* `EcpMove`: what a move of the draft ECP does. `ecpMove_of_ok` is the only place that
  unfolds `ecpSetTxState`.
* `ecpTxRunSm_total`: the machine of the draft ECP comes to rest.
* `ecpTxRunSm_keepsOn`: it does not get to its initial state on its own.
* `ecp22TxRunSm_started`: the machine of the standard's ECP does not rest in its initial state.
-/

namespace Lldpad.Qbg

open Lldpad.Lib
open Lldpad.Lldp (Port)

/-- What the machines leave of the port `p`. -/
def PortOf (p : Port) (q : Option Port) : Prop :=
  q = some p ∨ q = some { p with prevPortEnabled := p.portEnabled }

theorem PortOf.seen {p q : Port} (h : PortOf p (some q)) :
    PortOf p (some { q with prevPortEnabled := q.portEnabled }) := by
  rcases h with h | h
  · cases h
    exact .inr rfl
  · cases h
    exact .inr rfl

/-! ### The draft ECP -/

/-- The changes of state of the draft ECP, for the link state and `enabletx`, and whether the
machine goes on. -/
inductive EcpFollows (up enabletx : Bool) : EcpTxState → EcpTxState → Bool → Prop
  | start (hup : up = true) (htx : enabletx = true) :
      EcpFollows up enabletx .initTransmit .transmitEcpdu true
  | stays : EcpFollows up enabletx .initTransmit .initTransmit false
  | off (htx : enabletx = false) : EcpFollows up enabletx .transmitEcpdu .initTransmit true
  | sent (htx : enabletx = true) : EcpFollows up enabletx .transmitEcpdu .waitForAck false
  | retry : EcpFollows up enabletx .waitForAck .transmitEcpdu true
  | answered : EcpFollows up enabletx .waitForAck .requestPdu true
  | waits : EcpFollows up enabletx .waitForAck .waitForAck false
  | more : EcpFollows up enabletx .requestPdu .transmitEcpdu true
  | idle : EcpFollows up enabletx .requestPdu .requestPdu false

/-- The state from which the machine moves: the initial one after the link went down. -/
def VdpData.startState (vd : VdpData) (p : Port) : EcpTxState :=
  if falls p then .initTransmit else vd.ecp.tx.state

/-- What a move does while the port is `p`. -/
structure EcpMove (p : Port) (vd d : VdpData) (b : Bool) : Prop where
  port : d.port = some { p with prevPortEnabled := p.portEnabled }
  enabletx : d.enabletx = vd.enabletx
  follows : EcpFollows p.portEnabled vd.enabletx (vd.startState p) d.ecp.tx.state b

/-- The instance in another state. -/
def VdpData.withTxState (vd : VdpData) (s : EcpTxState) : VdpData :=
  { vd with ecp := { vd.ecp with tx := { vd.ecp.tx with state := s } } }

theorem ecpTxGoto_ok {vd : VdpData} {s newstate : EcpTxState} {up enabletx again : Bool}
    (hs : vd.ecp.tx.state = s) (hf : EcpFollows up enabletx s newstate again)
    (hne : s ≠ newstate) :
    ecpTxGoto vd newstate again = .ok (vd.withTxState newstate, again) := by
  unfold ecpTxGoto ecpTxChangeState
  cases hf
  case waits | idle => exact absurd rfl hne
  all_goals simp [hs, VdpData.withTxState]

theorem ecpTxSeePort_eq (vd : VdpData) (p : Port) :
    ecpTxSeePort vd p = .ok { vd.withTxState (vd.startState p) with
      port := some { p with prevPortEnabled := p.portEnabled } } := by
  unfold ecpTxSeePort VdpData.startState
  by_cases hfall : p.portEnabled = false ∧ p.prevPortEnabled = true
  · rw [if_pos hfall, if_pos (by simp [falls, hfall])]
    rfl
  · rw [if_neg hfall, if_neg (by simpa [falls] using hfall)]
    rfl

/-- What the `switch` leaves of an instance in the state `s`. -/
def Switched (up : Bool) (vd : VdpData) (s : EcpTxState)
    (r : Except Fault (VdpData × Bool)) : Prop :=
  ∃ d b, r = .ok (d, b) ∧ d.port = vd.port ∧ d.enabletx = vd.enabletx ∧
    EcpFollows up vd.enabletx s d.ecp.tx.state b

theorem Switched.goto {up again : Bool} {vd x : VdpData} {s newstate : EcpTxState}
    (hs : x.ecp.tx.state = s) (hport : x.port = vd.port) (henabletx : x.enabletx = vd.enabletx)
    (hf : EcpFollows up vd.enabletx s newstate again) (hne : s ≠ newstate) :
    Switched up vd s (ecpTxGoto x newstate again) :=
  ⟨_, again, ecpTxGoto_ok hs hf hne, hport, henabletx, hf⟩

theorem Switched.stay {up : Bool} {vd x : VdpData} {s : EcpTxState} (hs : x.ecp.tx.state = s)
    (hport : x.port = vd.port) (henabletx : x.enabletx = vd.enabletx)
    (hf : EcpFollows up vd.enabletx s s false) : Switched up vd s (.ok (x, false)) :=
  ⟨x, false, rfl, hport, henabletx, by rw [hs]; exact hf⟩

theorem ecpTxAnswered_switched {up : Bool} {vd x : VdpData} (hs : x.ecp.tx.state = .waitForAck)
    (hport : x.port = vd.port) (henabletx : x.enabletx = vd.enabletx) :
    Switched up vd .waitForAck (ecpTxAnswered x) := by
  unfold ecpTxAnswered
  split
  · dsimp only
    split
    · exact .goto hs hport henabletx .answered nofun
    · exact .goto hs hport henabletx .answered nofun
  · exact .stay hs hport henabletx .waits

theorem ecpNextTxState_switched (vd : VdpData) (p : Port) :
    Switched p.portEnabled vd vd.ecp.tx.state (ecpNextTxState vd p) := by
  unfold ecpNextTxState
  cases hs : vd.ecp.tx.state with
  | initTransmit =>
    dsimp only
    split
    · next h => exact .goto hs rfl rfl (.start h.1 h.2.1) nofun
    · exact .stay hs rfl rfl .stays
  | transmitEcpdu =>
    dsimp only
    split
    · next h => exact .goto hs rfl rfl (.off h) nofun
    · next h => exact .goto hs rfl rfl (.sent (Bool.not_eq_false _ ▸ h)) nofun
  | waitForAck =>
    dsimp only
    split
    · split
      · exact .goto hs rfl rfl .retry nofun
      · split
        · exact .goto hs rfl rfl .answered nofun
        · exact ecpTxAnswered_switched hs rfl rfl
    · exact ecpTxAnswered_switched hs rfl rfl
  | requestPdu =>
    dsimp only
    split
    · exact .goto hs rfl rfl .more nofun
    · exact .stay hs rfl rfl .idle

variable {p : Port} {vd vd' : VdpData}

theorem ecpMove_exists {vd : VdpData} (hp : vd.port = some p) :
    ∃ d b, ecpTxMachine.move vd = .ok (d, b) ∧ EcpMove p vd d b := by
  obtain ⟨d, b, hnext, hport, henabletx, hf⟩ := ecpNextTxState_switched
    { vd.withTxState (vd.startState p) with
      port := some { p with prevPortEnabled := p.portEnabled } } p
  refine ⟨d, b, ?_, hport, henabletx, hf⟩
  show ecpSetTxState vd = _
  unfold ecpSetTxState
  rw [hp]
  dsimp only
  rw [ecpTxSeePort_eq, bind_ok]
  exact hnext

theorem ecpMove_of_ok {vd d : VdpData} {b : Bool} (hp : vd.port = some p)
    (h : ecpTxMachine.move vd = .ok (d, b)) : EcpMove p vd d b := by
  obtain ⟨d', b', h', hmove⟩ := ecpMove_exists hp
  cases h'.symm.trans h
  exact hmove

theorem ecpTxAction_keeps (vd : VdpData) :
    (ecpTxAction vd).port = vd.port ∧ (ecpTxAction vd).enabletx = vd.enabletx ∧
      (ecpTxAction vd).ecp.tx.state = vd.ecp.tx.state := by
  unfold ecpTxAction
  cases hs : vd.ecp.tx.state with
  | initTransmit | requestPdu => exact ⟨rfl, rfl, hs⟩
  | transmitEcpdu =>
    dsimp only
    unfold ecpTxCreateFrame
    split
    · exact ⟨rfl, rfl, hs⟩
    · exact ⟨rfl, rfl, hs⟩
  | waitForAck =>
    dsimp only
    split
    · exact ⟨rfl, rfl, hs⟩
    · exact ⟨rfl, rfl, hs⟩

/-! ### Runs of the draft ECP -/

/-- How far the machine is from rest. -/
def ecpTxRank (vd : VdpData) : Nat :=
  match vd.ecp.tx.state with
  | .waitForAck => 4
  | .requestPdu => 3
  | .initTransmit => if vd.enabletx then 2 else 1
  | .transmitEcpdu => if vd.enabletx then 1 else 2

theorem EcpMove.last_of_falls {vd d : VdpData} {b : Bool} (h : EcpMove p vd d b)
    (hfall : falls p = true) : b = false := by
  have hdown : p.portEnabled = false := by
    unfold falls at hfall
    cases hup : p.portEnabled with
    | false => rfl
    | true => rw [hup] at hfall; cases hfall
  have hf := h.follows
  rw [VdpData.startState, if_pos hfall, hdown] at hf
  generalize d.ecp.tx.state = s at hf
  cases hf with
  | start hup htx => cases hup
  | stays => rfl

theorem EcpMove.follows_of_again {vd d : VdpData} (h : EcpMove p vd d true) :
    EcpFollows p.portEnabled vd.enabletx vd.ecp.tx.state d.ecp.tx.state true := by
  have hf := h.follows
  unfold VdpData.startState at hf
  split at hf
  · next hfall => exact absurd (h.last_of_falls hfall) nofun
  · exact hf

theorem ecpTxRunSm_total (vd : VdpData) : ∃ vd', ecpTxRunSm vd = .ok vd' := by
  refine Machine.loop_total (I := fun _ => True) ecpTxRank (fun x _ => ?_) trivial ?_
  · obtain ⟨-, henabletx, hstate⟩ := ecpTxAction_keeps x
    cases hp : (ecpTxAction x).port with
    | none =>
      have hm : ecpSetTxState (ecpTxAction x) = .ok (ecpTxAction x, false) := by
        unfold ecpSetTxState
        rw [hp]
        rfl
      exact ⟨_, _, false, rfl, hm, nofun⟩
    | some p =>
      obtain ⟨d, b, hm, hmove⟩ := ecpMove_exists hp
      refine ⟨_, d, b, rfl, hm, fun hb => ⟨trivial, ?_⟩⟩
      subst hb
      have hf := hmove.follows_of_again
      rw [hstate, henabletx] at hf
      unfold ecpTxRank
      rw [hmove.enabletx, henabletx]
      generalize x.ecp.tx.state = s at hf ⊢
      generalize d.ecp.tx.state = s' at hf ⊢
      cases hf with
      | start hup htx => simp [htx]
      | off htx => simp [htx]
      | retry | more => dsimp only; split <;> decide
      | answered => exact Nat.lt_succ_self 3
  · unfold ecpTxRank
    split <;> try split
    all_goals decide

theorem ecpRun_rule {I J Q : VdpData → Prop}
    (hport : ∀ vd, J vd → ∃ q, vd.port = some q ∧ PortOf p (some q))
    (hact : ∀ vd, I vd → J (ecpTxAction vd))
    (hagain : ∀ vd d q, J vd → EcpMove q vd d true → PortOf p (some q) → I d)
    (hlast : ∀ vd d q, J vd → EcpMove q vd d false → PortOf p (some q) → Q d)
    (hI : I vd) (h : ecpTxRunSm vd = .ok vd') : Q vd' := by
  refine Machine.loop_rule (m := ecpTxMachine) (I := I) (J := J) (fun x y hx hy => ?_)
    (fun x y hx hm => ?_) (fun x y hx hm => ?_) hI h
  · cases hy
    exact hact x hx
  · obtain ⟨q, hq, hp⟩ := hport x hx
    exact hagain x y q hx (ecpMove_of_ok hq hm) hp
  · obtain ⟨q, hq, hp⟩ := hport x hx
    exact hlast x y q hx (ecpMove_of_ok hq hm) hp

/-- The draft ECP of an interface that runs VDP: its machine is at rest. -/
structure EcpRest (vd : VdpData) : Prop where
  enabletx : vd.enabletx = true
  state : vd.ecp.tx.state ≠ .transmitEcpdu

theorem ecpTxRunSm_rest (h : ecpTxRunSm vd = .ok vd')
    (hp : PortOf p vd.port) (hrest : EcpRest vd) : EcpRest vd' ∧ PortOf p vd'.port := by
  let I : VdpData → Prop := fun d => d.enabletx = true ∧ PortOf p d.port
  refine ecpRun_rule (p := p) (I := I) (J := I) (Q := fun d => EcpRest d ∧ PortOf p d.port)
    ?_ ?_ ?_ ?_ ⟨hrest.enabletx, hp⟩ h
  · rintro x ⟨-, hx | hx⟩
    · exact ⟨_, hx, .inl rfl⟩
    · exact ⟨_, hx, .inr rfl⟩
  · rintro x ⟨htx, hx⟩
    obtain ⟨hport, henabletx, -⟩ := ecpTxAction_keeps x
    exact ⟨henabletx.trans htx, hport ▸ hx⟩
  · rintro x d q ⟨htx, -⟩ hm hq
    exact ⟨hm.enabletx.trans htx, by rw [hm.port]; exact hq.seen⟩
  · rintro x d q ⟨htx, -⟩ hm hq
    refine ⟨⟨hm.enabletx.trans htx, fun hstate => ?_⟩, by rw [hm.port]; exact hq.seen⟩
    have hf := hm.follows
    rw [hstate] at hf
    generalize x.startState q = s at hf
    cases hf

theorem ecpTxRunSm_keepsOn (h : ecpTxRunSm vd = .ok vd')
    (hp : vd.port = some p) (hfall : falls p = false) (htx : vd.enabletx = true)
    (hinit : vd.ecp.tx.state ≠ .initTransmit) : vd'.ecp.tx.state ≠ .initTransmit := by
  let I : VdpData → Prop := fun d =>
    d.enabletx = true ∧ (∃ q, d.port = some q ∧ falls q = false) ∧ d.ecp.tx.state ≠ .initTransmit
  have hmove : ∀ x d b, I x → ecpTxMachine.move x = .ok (d, b) → I d := by
    rintro x d b ⟨hx, ⟨q, hq, hnofall⟩, hstate⟩ hm
    have hmove := ecpMove_of_ok hq hm
    refine ⟨hmove.enabletx.trans hx, ⟨_, hmove.port, by unfold falls; cases q.portEnabled <;> rfl⟩,
      fun hd => ?_⟩
    have hf := hmove.follows
    rw [VdpData.startState, hnofall, hd, hx] at hf
    generalize x.ecp.tx.state = s at hf hstate
    cases hf with
    | stays => exact hstate rfl
    | off htx => cases htx
  have hrun := Machine.loop_rule (m := ecpTxMachine) (I := I) (J := I) (Q := I)
      (fun x y hx hy => ?_)
    (fun x y hx hm => hmove x y true hx hm) (fun x y hx hm => hmove x y false hx hm)
    ⟨htx, ⟨p, hp, hfall⟩, hinit⟩ h
  · exact hrun.2.2
  · cases hy
    obtain ⟨hport, henabletx, hstate⟩ := ecpTxAction_keeps x
    refine ⟨henabletx.trans hx.1, ?_, ?_⟩
    · rw [hport]
      exact hx.2.1
    · rw [hstate]
      exact hx.2.2

theorem ecpTxRunSm_init {vd : VdpData} (hp : vd.port = some p)
    (hdown : p.portEnabled = false) (hinit : vd.ecp.tx.state = .initTransmit) :
    ∃ vd', ecpTxRunSm vd = .ok vd' ∧ vd'.ecp.tx.state = .initTransmit := by
  obtain ⟨hport, -, hstate⟩ := ecpTxAction_keeps vd
  obtain ⟨d, b, hm, hmove⟩ := ecpMove_exists (hport.trans hp)
  have hf := hmove.follows
  have hstart : (ecpTxAction vd).startState p = .initTransmit := by
    unfold VdpData.startState
    split
    · rfl
    · exact hstate.trans hinit
  rw [hstart, hdown] at hf
  generalize hd : d.ecp.tx.state = s at hf
  cases hf with
  | start hup htx => cases hup
  | stays => exact ⟨d, Machine.iterate_round_final rfl hm, hd⟩

/-- The event runs the transmit machine of the draft ECP. -/
def EcpEvent.runsTx : EcpEvent → Bool
  | .ackTimeout | .localchange | .ack _ => true
  | .request _ _ | .profiles _ | .changed _ => false

/-- Every event leaves the machine at rest. -/
theorem ecpHandle_rest {e : EcpEvent}
    (h : ecpHandle vd e = .ok vd') (hp : vd.port = some p) (hrest : EcpRest vd) :
    EcpRest vd' ∧ PortOf p vd'.port := by
  have hport : PortOf p vd.port := .inl hp
  cases e with
  | ackTimeout =>
    change (if vd.ackTimers = 0 then _ else _) = _ at h
    split at h
    · cases h
      exact ⟨hrest, hport⟩
    · unfold ecpAckTimeoutHandler at h
      dsimp only at h
      split at h
      · split at h
        · exact ecpTxRunSm_rest h (.inl hp) ⟨hrest.enabletx, hrest.state⟩
        · cases h
          exact ⟨⟨hrest.enabletx, hrest.state⟩, hport⟩
      · split at h
        · exact ecpTxRunSm_rest h (.inl hp) ⟨hrest.enabletx, hrest.state⟩
        · cases h
          exact ⟨⟨hrest.enabletx, hrest.state⟩, hport⟩
  | localchange =>
    change (if vd.localchangeTimers = 0 then _ else _) = _ at h
    split at h
    · cases h
      exact ⟨hrest, hport⟩
    · unfold ecpLocalchangeHandler at h
      split at h
      · exact ecpTxRunSm_rest h (.inl hp) ⟨hrest.enabletx, hrest.state⟩
      · cases h
        exact ⟨⟨hrest.enabletx, hrest.state⟩, hport⟩
  | ack seqnr =>
    change ecpRxAck seqnr vd = _ at h
    unfold ecpRxAck at h
    rw [if_neg (by rw [hrest.enabletx]; decide)] at h
    obtain ⟨d, hd, h⟩ := bind_eq_ok.mp h
    cases h
    obtain ⟨hdrest, hdport⟩ := ecpTxRunSm_rest hd (.inl hp) ⟨hrest.enabletx, hrest.state⟩
    exact ⟨⟨hdrest.enabletx, hdrest.state⟩, hdport⟩
  | request seqnr ack => cases h; exact ⟨⟨hrest.enabletx, hrest.state⟩, hport⟩
  | profiles ps => cases h; exact ⟨⟨hrest.enabletx, hrest.state⟩, hport⟩
  | changed flag => cases h; exact ⟨⟨hrest.enabletx, hrest.state⟩, hport⟩

theorem ecpHandle_state {e : EcpEvent} (he : e.runsTx = false)
    (h : ecpHandle vd e = .ok vd') : vd'.ecp.tx.state = vd.ecp.tx.state ∧ vd'.port = vd.port := by
  cases e with
  | ackTimeout | localchange | ack => cases he
  | request | profiles | changed => cases h; exact ⟨rfl, rfl⟩

/-! ### The ECP of the standard -/

theorem ecp22TxRunSm_started {c c' : Ecp22Ctx} (h : ecp22TxRunSm c = .ok c')
    (hp : PortOf p c.port) : c'.ecp.tx.state ≠ .txBegin ∧ PortOf p c'.port := by
  have hseen : ∀ d e b, PortOf p d.port → TxMove d e b → PortOf p e.port := by
    intro d e b hd hm
    cases hm with
    | noPort hnone =>
      rw [hnone] at hd
      rcases hd with hd | hd <;> cases hd
    | build hport =>
      show PortOf p (ecp22BuildEcpdu _).port
      rw [ecp22BuildEcpdu_port]
      exact (hport ▸ hd).seen
    | restart hport | ready hport | request hport | idle hport | acked hport | giveUp hport
    | wait hport | counted hport => exact (hport ▸ hd).seen
  refine txRun_rule (P := fun d => PortOf p d.port) (I := fun d => PortOf p d.port)
    (J := fun d => PortOf p d.port) (Q := fun d => d.ecp.tx.state ≠ .txBegin ∧ PortOf p d.port)
    hseen (fun d hd => by rw [txAction_port]; exact hd) (fun d e => hseen d e true)
    (fun d e hd hm => ⟨?_, hseen d e false hd hm⟩) hp h
  cases hm with
  | noPort hnone =>
    rw [hnone] at hd
    rcases hd with hd | hd <;> cases hd
  | idle hport hs | wait hport hs =>
    show Ecp22Ctx.startState _ _ ≠ _
    rw [hs]
    nofun

/-- The event runs the transmit machine of the standard's ECP. -/
def Ecp22Event.runsTx : Ecp22Event → Bool
  | .payload _ | .ackTimeout _ => true
  | .frame _ | .fromEvb _ _ | .port _ => false

theorem ecp22Step_started {c c' : Ecp22Ctx} {e : Ecp22Event}
    (h : ecp22Step c e = .ok c') (hp : c.port = some p) (hrest : Ecp22Rest c)
    (hstate : c.ecp.tx.state ≠ .txBegin) (hport : ∀ q, e ≠ .port q) :
    c'.ecp.tx.state ≠ .txBegin ∧ PortOf p c'.port := by
  cases e with
  | payload du =>
    rcases payload_cases h with rfl | ⟨-, ⟨-, hrun⟩ | rfl⟩
    · exact ⟨hstate, .inl hp⟩
    · exact ecp22TxRunSm_started hrun (.inl hp)
    · exact ⟨by rw [queue_tx]; exact hstate, .inl hp⟩
  | frame buf =>
    have hr := frameResult_of_ok hrest.rx h
    rcases hr.sameTx with hsame | ⟨seqno, hsame⟩
    · exact ⟨by rw [hsame.tx]; exact hstate, .inl (hsame.port.trans hp)⟩
    · have hrecack : (ecp22RecackFrame c seqno).ecp.tx.state = c.ecp.tx.state ∧
          (ecp22RecackFrame c seqno).port = c.port := by
        unfold ecp22RecackFrame
        split <;> exact ⟨rfl, rfl⟩
      exact ⟨by rw [hsame.tx, hrecack.1]; exact hstate,
        .inl (hsame.port.trans (hrecack.2.trans hp))⟩
  | ackTimeout i =>
    rcases ackTimeout_cases h with rfl | ⟨t, -, hrun⟩
    · exact ⟨hstate, .inl hp⟩
    · exact ecp22TxRunSm_started hrun (.inl hp)
  | fromEvb maxRetry maxRte => cases h; exact ⟨hstate, .inl hp⟩
  | port q => exact absurd rfl (hport q)

end Lldpad.Qbg
