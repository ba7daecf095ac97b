import Lldpad.Proofs.Qbg.Vdp22Station

/-!
# `Lldpad.Proofs.Qbg.Vdp22Total`: the machines of a VSI return

No move breaks an assertion, because each of them starts in the state that the assertion
names. The loops end from any node, with any flags.

A round lowers `stRank` or `brRank`. The station can go around in a circle of states only
through one in which it sends. There it starts to wait for the bridge without an answer
(`notAnswered`), or the ECP module refused the message. The bridge goes around only for a new
request, and every reply takes it.
-/

namespace Lldpad.Qbg

open Lldpad.Lib

/-! ### Station -/

/-- The machine does not get past a state in which it waits for an answer of the bridge. -/
def notAnswered (smi : Vdp22smi) : Bool :=
  !smi.ackreceived || decide (smi.txmitError ≠ 0) || smi.acktimeout

@[simp] theorem unanswered_state (smi : Vdp22smi) (s : Vdp22SmState) :
    notAnswered { smi with state := s } = notAnswered smi := rfl

/-- A bound on the rounds that are left, in a state -/
def stRankOf (notAnswered : Bool) : Vdp22SmState → Nat
  | .station .begin => 4
  | .station .init => 3
  | .station .stationProc | .station .txmitKa | .station .txmitDeassoc => 2
  | .station .stationProcwait => bif notAnswered then 1 else 8
  | .station .txmitKawait => bif notAnswered then 1 else 6
  | .station .txmitDeawait => bif notAnswered then 1 else 2
  | .station .stationProcwait2 => 7
  | .station .assocNew => 6
  | .station .assocCompl | .station .preassocNew | .station .txmitKawait2 => 5
  | .station .waitSyscmd => 4
  | .station .waitSyscmd2 => 3
  | .station .txmitDeawait2 => 1
  | .station .vdpEnd | .bridge _ | .none => 0

/-- A bound on the rounds that are left -/
def stRank (x : Vsi22Ctx) : Nat := stRankOf (notAnswered x.vsi.smi) x.vsi.smi.state

theorem stRank_le (x : Vsi22Ctx) : stRank x ≤ 8 := by
  unfold stRank stRankOf
  cases notAnswered x.vsi.smi <;> split <;> simp

theorem stRank_deref (x : Vsi22Ctx) : stRank x.deref = stRank x := by
  unfold stRank
  rw [deref_vsi]

theorem vdp22stProcess_unanswered (rc : Int) (x : Vsi22Ctx) :
    notAnswered (vdp22stProcess rc x).vsi.smi = true := by
  unfold vdp22stProcess
  split_ifs with hrc
  · rfl
  · simp [notAnswered, Vsi22Ctx.setSmi, hrc]

@[simp] theorem vdp22stProcess_state (rc : Int) (x : Vsi22Ctx) :
    (vdp22stProcess rc x).vsi.smi.state = x.vsi.smi.state := by
  unfold vdp22stProcess
  split_ifs <;> rfl

theorem vdp22stAction_state (rc : Int) (x : Vsi22Ctx) :
    (vdp22stAction rc x).vsi.smi.state = x.vsi.smi.state := by
  unfold vdp22stAction
  dsimp only
  rw [deref_vsi]
  cases hstate : x.vsi.smi.state with
  | none => simp [hstate]
  | bridge s => simp [hstate]
  | station s =>
    cases s <;> simp [hstate, vdp22stInit, vdp22stAssocNew, vdp22stAssocCompl, vdp22stTxdea,
      vdp22stStartKatimer, Vsi22Ctx.setFlags, Vsi22Ctx.setSmi]

/-- After a message was sent no answer is there. -/
def StActed (x : Vsi22Ctx) : Prop :=
  isSending x.vsi.smi.state = true → notAnswered x.vsi.smi = true

theorem vdp22stAction_acted (rc : Int) (x : Vsi22Ctx) : StActed (vdp22stAction rc x) := by
  intro hsend
  rw [vdp22stAction_state] at hsend
  unfold vdp22stAction
  dsimp only
  rw [deref_vsi]
  cases hstate : x.vsi.smi.state with
  | none => rw [hstate] at hsend; cases hsend
  | bridge s => rw [hstate] at hsend; cases hsend
  | station s =>
    rw [hstate] at hsend
    cases s with
    | stationProc | txmitKa | txmitDeassoc => exact vdp22stProcess_unanswered rc _
    | _ => cases hsend

theorem vdp22stAction_rank (rc : Int) (x : Vsi22Ctx) :
    stRank (vdp22stAction rc x) ≤ stRank x := by
  have hstate := vdp22stAction_state rc x
  unfold stRank
  rw [hstate]
  cases hs : x.vsi.smi.state with
  | none => simp [stRankOf]
  | bridge s => simp [stRankOf]
  | station s =>
    cases s with
    | stationProcwait | txmitKawait | txmitDeawait =>
      -- Nothing is done in a state that waits.
      have hsame : vdp22stAction rc x = x.deref := by
        unfold vdp22stAction
        dsimp only
        rw [deref_vsi, hs]
      rw [hsame, deref_vsi]
    | _ => simp [stRankOf]

/-! ### Station: the moves -/

/-- A move returns. If it goes on, it is closer to the end. -/
def StMoves (x : Vsi22Ctx) (r : Except Fault (Vsi22Ctx × Bool)) : Prop :=
  ∃ u b, r = .ok (u, b) ∧ (b = true → stRank u < stRank x)

/-- The assertion of the state `new` names the state `old`. -/
def StMayEnter (old : Vdp22SmState) (new : Vdp22State) : Prop :=
  ∀ x : Vsi22Ctx, x.vsi.smi.state = old → ∃ y, vdp22stChangeState x new = .ok y

theorem stMayEnter_of {old : Vdp22SmState} {new : Vdp22State}
    (h : (vdp22stChangeState { vsi := { smi := { state := old } } } new).isOk = true) :
    StMayEnter old new := by
  intro x hx
  unfold vdp22stChangeState at h ⊢
  rw [hx]
  cases new <;> dsimp only at h ⊢ <;> first
    | exact ⟨_, rfl⟩
    | (unfold assert at h ⊢
       split_ifs at h ⊢ with hold
       · exact ⟨_, rfl⟩
       · cases h)

variable {x : Vsi22Ctx}

theorem stMoves_goto {s : Vdp22State} (hassert : StMayEnter x.vsi.smi.state s)
    (hrank : stRankOf (notAnswered x.vsi.smi) (.station s) < stRank x) :
    StMoves x (vdp22stGoto x s) := by
  obtain ⟨y, hy⟩ := hassert x rfl
  have hgoto : vdp22stGoto x s = .ok (y, true) := bind_eq_ok.mpr ⟨y, hy, rfl⟩
  refine ⟨y, true, hgoto, fun _ => ?_⟩
  cases vdp22stGoto_eq_ok hgoto
  exact hrank

theorem stMoves_stay (x : Vsi22Ctx) : StMoves x (pure (x, false)) := ⟨x, false, rfl, nofun⟩

theorem stMoves_wait {s : Vdp22State}
    (hend : StMayEnter x.vsi.smi.state .vdpEnd) (hs : StMayEnter x.vsi.smi.state s)
    (hpos : 0 < stRank x)
    (hrank : notAnswered x.vsi.smi = false → stRankOf false (.station s) < stRank x) :
    StMoves x (vdp22stWait x s) := by
  unfold vdp22stWait
  split_ifs with herror hreceived
  · exact stMoves_goto hend hpos
  · have hreceived : x.vsi.smi.ackreceived = true := hreceived
    have hanswer : notAnswered x.vsi.smi = false := by
      simp only [not_or, Bool.not_eq_true, not_not] at herror
      simp [notAnswered, hreceived, herror]
    have hlt := hrank hanswer
    exact stMoves_goto hs (by rwa [hanswer])
  · exact stMoves_stay x

theorem vdp22stProcAnswer_cases (vsi : Vsi22) : vdp22stProcAnswer vsi = .vdpEnd ∨
    vdp22stProcAnswer vsi = .assocCompl ∨ vdp22stProcAnswer vsi = .preassocNew ∨
    vdp22stProcAnswer vsi = .assocNew := by
  unfold vdp22stProcAnswer
  split_ifs <;> simp

theorem vdp22stKaAnswer_cases (vsi : Vsi22) : vdp22stKaAnswer vsi = .vdpEnd ∨
    vdp22stKaAnswer vsi = .txmitDeassoc ∨ vdp22stKaAnswer vsi = .waitSyscmd := by
  unfold vdp22stKaAnswer
  split_ifs <;> simp

/-- After an action, every move returns. -/
theorem vdp22stNextState_total (hx : StActed x) :
    StMoves x (vdp22stNextState x) := by
  unfold StActed at hx
  unfold vdp22stNextState
  cases hstate : x.vsi.smi.state with
  | none => exact stMoves_stay x
  | bridge s => exact stMoves_stay x
  | station s =>
    rw [hstate] at hx
    have hrank : stRank x = stRankOf (notAnswered x.vsi.smi) (.station s) := by
      unfold stRank
      rw [hstate]
    have hgoto (new : Vdp22State) (hassert : StMayEnter (.station s) new)
        (hlt : stRankOf (notAnswered x.vsi.smi) (.station new) <
          stRankOf (notAnswered x.vsi.smi) (.station s)) : StMoves x (vdp22stGoto x new) :=
      stMoves_goto (hstate ▸ hassert) (hrank ▸ hlt)
    cases s with
    | begin | init | assocNew | assocCompl | preassocNew | waitSyscmd | txmitDeawait2 =>
      exact hgoto _ (stMayEnter_of (by decide)) (by simp [stRankOf])
    | stationProc | txmitKa | txmitDeassoc =>
      -- The machine has just sent, so it waits in the state that is entered.
      exact hgoto _ (stMayEnter_of (by decide)) (by simp [stRankOf, hx rfl])
    | stationProcwait | txmitKawait | txmitDeawait =>
      refine stMoves_wait (hstate ▸ stMayEnter_of (by decide)) (hstate ▸ stMayEnter_of (by decide))
        ?_ fun hanswer => ?_
      · rw [hrank]
        cases notAnswered x.vsi.smi <;> decide
      · simp [hrank, stRankOf, hanswer]
    | stationProcwait2 =>
      rcases vdp22stProcAnswer_cases x.vsi with h | h | h | h <;> rw [h] <;>
        exact hgoto _ (stMayEnter_of (by decide)) (by simp [stRankOf])
    | waitSyscmd2 =>
      split_ifs
      · exact hgoto .txmitKa (stMayEnter_of (by decide)) (by simp [stRankOf])
      · exact hgoto .stationProc (stMayEnter_of (by decide)) (by simp [stRankOf])
      · exact hgoto .vdpEnd (stMayEnter_of (by decide)) (by simp [stRankOf])
      · exact stMoves_stay x
    | txmitKawait2 =>
      rcases vdp22stKaAnswer_cases x.vsi with h | h | h <;> rw [h] <;>
        exact hgoto _ (stMayEnter_of (by decide)) (by simp [stRankOf])
    | vdpEnd => exact stMoves_stay x

theorem vdp22stNextState_first (x : Vsi22Ctx) : ∃ u b, vdp22stNextState x = .ok (u, b) := by
  by_cases hx : StActed x
  · obtain ⟨u, b, hu, -⟩ := vdp22stNextState_total hx
    exact ⟨u, b, hu⟩
  · -- Only the states in which the machine sends are left.
    unfold StActed at hx
    simp only [Classical.not_imp] at hx
    obtain ⟨hsend, -⟩ := hx
    have hgoto {s : Vdp22State} (hassert : StMayEnter x.vsi.smi.state s) :
        ∃ u b, vdp22stGoto x s = .ok (u, b) := by
      obtain ⟨y, hy⟩ := hassert x rfl
      exact ⟨y, true, bind_eq_ok.mpr ⟨y, hy, rfl⟩⟩
    unfold vdp22stNextState
    cases hstate : x.vsi.smi.state with
    | none => rw [hstate] at hsend; cases hsend
    | bridge s => rw [hstate] at hsend; cases hsend
    | station s =>
      rw [hstate] at hsend
      cases s with
      | stationProc | txmitKa | txmitDeassoc => exact hgoto (hstate ▸ stMayEnter_of (by decide))
      | _ => cases hsend

/-- A run of the station machine returns, from any node. No assertion fails, and the loop
ends. -/
theorem vdp22stRun_total (rc : Int) (x : Vsi22Ctx) : ∃ y, vdp22stRun rc x = .ok y := by
  obtain ⟨u, b, hfirst⟩ := vdp22stNextState_first x.deref
  have hloop : ∃ y, (vdp22stMachine rc).run 16 x = .ok y := by
    refine Machine.run_total (I := fun _ => True) stRank (fun s _ => ?_)
      ⟨u, b, hfirst, trivial, Nat.lt_of_le_of_lt (stRank_le u) (by decide)⟩
    have hacted : StActed (vdp22stAction rc s).deref := by
      unfold StActed
      rw [deref_vsi]
      exact vdp22stAction_acted rc s
    obtain ⟨v, again, hmove, hlt⟩ := vdp22stNextState_total hacted
    rw [stRank_deref] at hlt
    exact ⟨_, v, again, rfl, hmove, fun hagain =>
      ⟨trivial, Nat.lt_of_lt_of_le (hlt hagain) (vdp22stAction_rank rc s)⟩⟩
  obtain ⟨y, hy⟩ := hloop
  exact ⟨_, bind_eq_ok.mpr ⟨y, hy, rfl⟩⟩

/-! ### Bridge -/

/-- A bound on the rounds that are left, in a state -/
def brRankOf (localchg : Bool) : Vdp22SmState → Nat
  | .bridge .begin => 4
  | .bridge .init | .bridge .waitcmd2 => 3
  | .bridge .waitcmd => bif localchg then 4 else 0
  | .bridge .process => 2
  | .bridge .send | .bridge .keep | .bridge .alive => 1
  | .bridge .deassoc | .bridge .deassociated => 1
  | .bridge .vdpEnd | .station _ | .none => 0

/-- A bound on the rounds that are left -/
def brRank (x : Vsi22Ctx) : Nat := brRankOf x.vsi.smi.localchg x.vsi.smi.state

theorem brRank_le (x : Vsi22Ctx) : brRank x ≤ 4 := by
  unfold brRank brRankOf
  cases x.vsi.smi.localchg <;> split <;> simp

theorem brRank_deref (x : Vsi22Ctx) : brRank x.deref = brRank x := by
  unfold brRank
  rw [deref_vsi]

@[simp] theorem vdp22brProcess_smi (x : Vsi22Ctx) :
    (vdp22brProcess x).vsi.smi = { x.vsi.smi with respOk := true } := by
  have hres : ∀ v, vdp22brResources v = vdp22RespDeassoc ∨
      vdp22brResources v = vdp22RespSuccess := by
    intro v
    unfold vdp22brResources
    split_ifs <;> simp
  unfold vdp22brProcess
  dsimp only
  -- Both answers are the third branch.
  rw [if_neg, if_neg, if_pos (hres _)]
  · rfl
  all_goals
    rcases hres _ with h | h <;> rw [h] <;> decide

theorem vdp22brAction_state (x : Vsi22Ctx) :
    (vdp22brAction x).vsi.smi.state = x.vsi.smi.state := by
  unfold vdp22brAction
  dsimp only
  rw [deref_vsi]
  cases hstate : x.vsi.smi.state with
  | none => simp [hstate]
  | station s => simp [hstate]
  | bridge s =>
    cases s <;> simp [hstate, vdp22brInit, vdp22brReply, vdp22brSendack, vdp22brDeassoc,
      vdp22brStartKatimer, vdp22brEnd, vdp22ListdelVsi, Vsi22Ctx.setFlags, Vsi22Ctx.setSmi]

/-- The machine replies in this state. -/
def isReplying : Vdp22SmState → Bool
  | .bridge .send | .bridge .keep | .bridge .alive => true
  | _ => false

/-- A reply takes the request, and the machine waits for the keep alive timer. -/
structure BrActed (x : Vsi22Ctx) : Prop where
  replied : isReplying x.vsi.smi.state = true → x.vsi.smi.localchg = false
  waits : x.vsi.smi.state = .bridge .waitcmd → x.vsi.smi.kato = false

theorem vdp22brAction_acted (x : Vsi22Ctx) : BrActed (vdp22brAction x) := by
  constructor
  · intro hreply
    rw [vdp22brAction_state] at hreply
    unfold vdp22brAction
    dsimp only
    rw [deref_vsi]
    cases hstate : x.vsi.smi.state with
    | none => rw [hstate] at hreply; cases hreply
    | station s => rw [hstate] at hreply; cases hreply
    | bridge s =>
      rw [hstate] at hreply
      cases s <;> first | rfl | cases hreply
  · intro hwait
    rw [vdp22brAction_state] at hwait
    unfold vdp22brAction
    dsimp only
    rw [deref_vsi, hwait]
    rfl

theorem vdp22brAction_rank (x : Vsi22Ctx) : brRank (vdp22brAction x) ≤ brRank x := by
  have hstate := vdp22brAction_state x
  unfold brRank
  rw [hstate]
  cases hs : x.vsi.smi.state with
  | none => simp [brRankOf]
  | station s => simp [brRankOf]
  | bridge s =>
    cases s with
    | waitcmd =>
      -- The action starts the timer and leaves the request.
      have hsame : (vdp22brAction x).vsi.smi.localchg = x.vsi.smi.localchg := by
        unfold vdp22brAction
        dsimp only
        rw [deref_vsi, hs]
        simp [vdp22brStartKatimer, Vsi22Ctx.setSmi]
      rw [hsame]
    | _ => simp [brRankOf]

/-- A move returns. If it goes on, it is closer to the end. -/
def BrMoves (x : Vsi22Ctx) (r : Except Fault (Vsi22Ctx × Bool)) : Prop :=
  ∃ u b, r = .ok (u, b) ∧ (b = true → brRank u < brRank x)

/-- The assertion of the state `new` names the state `old`. -/
def BrMayEnter (old : Vdp22SmState) (new : Vdp22brState) : Prop :=
  ∀ x : Vsi22Ctx, x.vsi.smi.state = old → ∃ y, vdp22brChangeState x new = .ok y

theorem brMayEnter_of {old : Vdp22SmState} {new : Vdp22brState}
    (h : (vdp22brChangeState { vsi := { smi := { state := old } } } new).isOk = true) :
    BrMayEnter old new := by
  intro x hx
  unfold vdp22brChangeState at h ⊢
  rw [hx]
  cases new <;> dsimp only at h ⊢ <;> first
    | exact ⟨_, rfl⟩
    | (unfold assert at h ⊢
       split_ifs at h ⊢ with hold
       · exact ⟨_, rfl⟩
       · cases h)

theorem brMoves_goto {s : Vdp22brState} (hassert : BrMayEnter x.vsi.smi.state s)
    (hrank : brRankOf x.vsi.smi.localchg (.bridge s) < brRank x) :
    BrMoves x (vdp22brGoto x s) := by
  obtain ⟨y, hy⟩ := hassert x rfl
  have hgoto : vdp22brGoto x s = .ok (y, true) := bind_eq_ok.mpr ⟨y, hy, rfl⟩
  refine ⟨y, true, hgoto, fun _ => ?_⟩
  cases vdp22brGoto_eq_ok hgoto
  exact hrank

theorem brMoves_stay (x : Vsi22Ctx) : BrMoves x (pure (x, false)) := ⟨x, false, rfl, nofun⟩

theorem vdp22brNextState_total (hx : BrActed x) :
    BrMoves x (vdp22brNextState x) := by
  unfold vdp22brNextState
  cases hstate : x.vsi.smi.state with
  | none => exact brMoves_stay x
  | station s => exact brMoves_stay x
  | bridge s =>
    have hrank : brRank x = brRankOf x.vsi.smi.localchg (.bridge s) := by
      unfold brRank
      rw [hstate]
    have hgoto (new : Vdp22brState) (hassert : BrMayEnter (.bridge s) new)
        (hlt : brRankOf x.vsi.smi.localchg (.bridge new) <
          brRankOf x.vsi.smi.localchg (.bridge s)) : BrMoves x (vdp22brGoto x new) :=
      brMoves_goto (hstate ▸ hassert) (hrank ▸ hlt)
    cases s with
    | begin | init | deassoc | deassociated =>
      exact hgoto _ (brMayEnter_of (by decide)) (by simp [brRankOf])
    | send | keep | alive =>
      have hreplied := hx.replied (by rw [hstate]; rfl)
      exact hgoto _ (brMayEnter_of (by decide)) (by simp [brRankOf, hreplied])
    | process =>
      split_ifs <;> first
        | exact brMoves_stay x
        | exact hgoto _ (brMayEnter_of (by decide)) (by simp [brRankOf])
    | waitcmd =>
      dsimp only
      split_ifs with hlocalchg hkato
      · exact hgoto _ (brMayEnter_of (by decide)) (by simp [brRankOf, hlocalchg])
      · exact absurd (hx.waits hstate) (by simp [hkato])
      · exact brMoves_stay x
    | waitcmd2 =>
      split_ifs <;> exact hgoto _ (brMayEnter_of (by decide)) (by simp [brRankOf])
    | vdpEnd => exact brMoves_stay x

theorem vdp22brNextState_first (x : Vsi22Ctx) : ∃ u b, vdp22brNextState x = .ok (u, b) := by
  have hgoto {s : Vdp22brState} (hassert : BrMayEnter x.vsi.smi.state s) :
      ∃ u b, vdp22brGoto x s = .ok (u, b) := by
    obtain ⟨y, hy⟩ := hassert x rfl
    exact ⟨y, true, bind_eq_ok.mpr ⟨y, hy, rfl⟩⟩
  unfold vdp22brNextState
  cases hstate : x.vsi.smi.state with
  | none => exact ⟨x, false, rfl⟩
  | station s => exact ⟨x, false, rfl⟩
  | bridge s =>
    cases s <;> dsimp only <;> (try split_ifs) <;> first
      | exact ⟨x, false, rfl⟩
      | exact hgoto (hstate ▸ brMayEnter_of (by decide))

/-- A run of the bridge machine returns, from any node. No assertion fails, and the loop
ends. -/
theorem vdp22brRun_total (x : Vsi22Ctx) : ∃ y, vdp22brRun x = .ok y := by
  obtain ⟨u, b, hfirst⟩ := vdp22brNextState_first x.deref
  refine Machine.run_total (I := fun _ => True) brRank (fun s _ => ?_)
    ⟨u, b, hfirst, trivial, Nat.lt_of_le_of_lt (brRank_le u) (by decide)⟩
  have hacted : BrActed (vdp22brAction s).deref := by
    have h := vdp22brAction_acted s
    exact ⟨by rw [deref_vsi]; exact h.replied, by rw [deref_vsi]; exact h.waits⟩
  obtain ⟨v, again, hmove, hlt⟩ := vdp22brNextState_total hacted
  rw [brRank_deref] at hlt
  exact ⟨_, v, again, rfl, hmove, fun hagain =>
    ⟨trivial, Nat.lt_of_lt_of_le (hlt hagain) (vdp22brAction_rank s)⟩⟩

/-! ### Every event returns -/

theorem vdp22Handler_total (rc : Int) (t : Vdp22Timer) (x : Vsi22Ctx) :
    ∃ y, vdp22Handler rc t x = .ok y := by
  cases t with
  | ackto =>
    show ∃ y, vdp22stHandleAckto rc x = .ok y
    unfold vdp22stHandleAckto
    dsimp only
    split_ifs
    · exact vdp22stRun_total rc _
    · exact ⟨_, rfl⟩
  | kato => exact vdp22stRun_total rc _
  | brKato | resto => exact vdp22brRun_total _
  | localchange =>
    show ∃ y, vdp22LocalchangeHandler rc x = .ok y
    unfold vdp22LocalchangeHandler
    dsimp only
    split_ifs
    · exact vdp22stRun_total rc _
    · exact ⟨_, rfl⟩

theorem vdp22Expire_total (rc : Int) (t : Vdp22Timer) (x : Vsi22Ctx) :
    ∃ y, vdp22Expire rc t x = .ok y := by
  unfold vdp22Expire
  split_ifs
  · exact ⟨x, rfl⟩
  · exact vdp22Handler_total rc t _

theorem vdp22Modvsi_total (rc : Int) (mode : UInt8) (x : Vsi22Ctx) :
    ∃ r, vdp22Modvsi rc mode x = .ok r := by
  unfold vdp22Modvsi
  dsimp only
  split_ifs
  · exact ⟨_, rfl⟩
  · exact ⟨_, rfl⟩
  · obtain ⟨y, hy⟩ := vdp22stRun_total rc _
    exact ⟨(y, 0), bind_eq_ok.mpr ⟨y, hy, rfl⟩⟩

theorem vdp22StationHit_total (vsip : Vsi22) (x : Vsi22Ctx) :
    ∃ y, vdp22StationHit vsip x = .ok y := by
  unfold vdp22StationHit
  dsimp only
  split_ifs
  · exact ⟨_, rfl⟩
  · exact ⟨_, rfl⟩
  · exact vdp22brRun_total _

theorem Vdp22Ctx.on_total (c : Vdp22Ctx) (h : Nat) {f : Vsi22Ctx → Except Fault Vsi22Ctx}
    (hf : ∃ y, f (c.nodes h) = .ok y) : ∃ c', c.on h f = .ok c' := by
  obtain ⟨y, hy⟩ := hf
  exact ⟨c.put h y, bind_eq_ok.mpr ⟨y, hy, rfl⟩⟩

theorem vdp22Addreq_total (h : Nat) (c : Vdp22Ctx) : ∃ r, vdp22Addreq h c = .ok r := by
  have hadd : ∃ c', vdp22Addvsi h c = .ok c' := Vdp22Ctx.on_total _ h (vdp22stRun_total _ _)
  have hmod (p : Nat) := vdp22Modvsi_total c.ecpRc (c.nodes h).vsi.vsiMode (c.nodes p)
  unfold vdp22Addreq
  dsimp only
  cases vdp22Findvsi c (c.nodes h).vsi with
  | none =>
    split_ifs
    · exact ⟨_, rfl⟩
    · exact ⟨_, rfl⟩
    · obtain ⟨c', hc'⟩ := hadd
      exact ⟨_, bind_eq_ok.mpr ⟨c', hc', rfl⟩⟩
  | some p =>
    dsimp only
    split_ifs
    · exact ⟨_, rfl⟩
    · exact ⟨_, rfl⟩
    · exact ⟨_, rfl⟩
    · obtain ⟨r, hr⟩ := hmod p
      exact ⟨_, bind_eq_ok.mpr ⟨r, hr, rfl⟩⟩

theorem vdp22Request_total (vsi : VdpnlVsi) (clif : Bool) (c : Vdp22Ctx) :
    ∃ r, vdp22Request vsi clif c = .ok r := by
  unfold vdp22Request
  dsimp only
  split_ifs
  · exact ⟨_, rfl⟩
  · exact ⟨_, rfl⟩
  all_goals
    split
    · exact ⟨_, rfl⟩
    · rename_i v _
      obtain ⟨r, hr⟩ := vdp22Addreq_total c.next (c.alloc v)
      exact ⟨_, bind_eq_ok.mpr ⟨r, hr, rfl⟩⟩

theorem vdp22StationInfo_total (vsip : Vsi22) (c : Vdp22Ctx) :
    ∃ c', vdp22StationInfo vsip c = .ok c' := by
  unfold vdp22StationInfo
  cases vdp22Findvsi c vsip with
  | none =>
    split_ifs
    · exact ⟨_, rfl⟩
    · cases vdp22CopyVsi vsip c.gpid with
      | none => exact ⟨_, rfl⟩
      | some new => exact Vdp22Ctx.on_total _ _ (vdp22brRun_total _)
  | some h => exact c.on_total h (vdp22StationHit_total vsip _)

theorem vdp22Step_total (c : Vdp22Ctx) (e : Vdp22Event) : ∃ c', vdp22Step c e = .ok c' := by
  cases e with
  | request vsi clif =>
    obtain ⟨r, hr⟩ := vdp22Request_total vsi clif c
    exact ⟨r.1, bind_eq_ok.mpr ⟨r, hr, rfl⟩⟩
  | status | stop | start | fromEvb | ecp => exact ⟨_, rfl⟩
  | tlv vsip =>
    show ∃ c', vdp22Tlv vsip c = .ok c'
    unfold vdp22Tlv
    split_ifs
    · cases c.myrole with
      | station =>
        show ∃ c', vdp22BridgeInfo vsip c = .ok c'
        unfold vdp22BridgeInfo
        cases vdp22Findvsi c vsip with
        | none => exact ⟨_, rfl⟩
        | some h => exact c.on_total h (vdp22stRun_total _ _)
      | bridge => exact vdp22StationInfo_total vsip c
    · exact ⟨_, rfl⟩
  | timer t h => exact c.on_total h (vdp22Expire_total c.ecpRc t _)

end Lldpad.Qbg
