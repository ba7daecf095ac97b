import Lldpad.Proofs.Lldp.AgentRuns
import Lldpad.Proofs.Lldp.LocalChange
import Lldpad.Proofs.Lldp.BuildParse

/-!
# `Lldpad.Proofs.Lldp.ChangeKept`: no local change is lost

`txLog` is what matters of a run to one agent: its ticks, the calls of `somethingChangedLocal` for it
and the frames that went out. While the link is up and the administrator lets the agent transmit, there are no more
frames than ticks and credits.

A change after the last frame is still on its way (`Due`), with one exception.
`process_tx_info_frame` does not look at the answer of `mibConstrInfoLLDPDU`: when the TLVs of
the modules do not fit there is no frame, and `txNow` is cleared all the same. The sibling
`process_tx_shutdown_frame` does look at it. `changeKept_of_fits` says that no change is lost in
a run whose frames fit, `not_changeKept` loses one in a run with a frame that does not.
-/

namespace Lldpad.Lldp

open Lldpad.Lib

variable {μ : Type}

/-! ### The log of an agent -/

/-- What happens to an agent: a tick, a call of `somethingChangedLocal`, a frame on the wire. -/
inductive TxMark where
  | tick
  | change
  | frame
  deriving DecidableEq, Repr

/-- The context in which the transmit machine starts, if the event runs it. -/
def txStart : AgentEvent → Ctx μ → Option (Ctx μ)
  | .tick, c => ((runTxTimersSm c.port (updateTxTimers c.agent)).toOption).map
      fun a => { c with agent := a }
  | .setAdmin admin, c =>
    if c.agent.adminStatus ≠ admin then
      some { c with agent := somethingChangedLocal { c.agent with adminStatus := admin } }
    else none
  | .portEnable enable, c =>
    some { c with agent := if enable then c.agent else dropInfoAge c.agent }
  | _, _ => none

/-- The frames that the transmit machine sends. -/
def framesSent (env : Env μ) (c : Ctx μ) : List TxMark :=
  match runTxSm env c with
  | .ok d => List.replicate (d.wire.length - c.wire.length) .frame
  | .error _ => []

/-- A turn of a tick is one. -/
def tickMark : AgentEvent → List TxMark
  | .tick => [.tick]
  | _ => []

/-- The calls of `somethingChangedLocal` that come before the transmit machine. -/
def callMarks : AgentEvent → Ctx μ → List TxMark
  | .setAdmin admin, c => if c.agent.adminStatus ≠ admin then [.change] else []
  | .localChange, _ | .updateTtl _, _ => [.change]
  | _, _ => []

/-- The hooks that call it. They run behind the transmit machine. -/
def kickMarks (c c' : Ctx μ) : List TxMark := List.replicate (c'.kicks - c.kicks) .change

/-- What a turn means for the transmit side: the tick, the calls before the transmit machine
runs, its frames, and the calls of the hooks. -/
def turnMarks (env : Env μ) (ev : AgentEvent) (c : Ctx μ) : List TxMark :=
  tickMark ev ++ callMarks ev c ++
  (match txStart ev c with
    | some d => framesSent env d
    | none => []) ++
  match agentHandle env ev c with
    | .ok c' => kickMarks c c'
    | .error _ => []

/-- What an event means for the agent of a type. -/
def eventMarks (env : Env μ) (type : AgentType) (s : PortState μ) (e : Event μ) : List TxMark :=
  match turnOf env type s e with
  | some (ev, c) => turnMarks env ev c
  | none => []

/-- What a run means for the agent of a type. -/
def txLog (env : Env μ) (type : AgentType) : PortState μ → List (Event μ) → List TxMark
  | _, [] => []
  | s, e :: es =>
    eventMarks env type s e ++
      match lldpStep env s e with
      | .ok t => txLog env type t es
      | .error _ => []

/-- Whether there is a change that no frame has carried yet. -/
def TxMark.note (pending : Bool) : TxMark → Bool
  | .tick => pending
  | .change => true
  | .frame => false

/-- Whether a change came after the last frame. -/
def changePending (log : List TxMark) : Bool := log.foldl TxMark.note false

/-! ### The conditions on a run -/

/-- The link is up and the administrator lets the agent of a type transmit. -/
def MaySendNow (type : AgentType) (s : PortState μ) : Prop :=
  ∃ a, ofType type s.agents = some a ∧ maySend s.port a = true

/-- The same before and after an event. -/
def StaysOn (env : Env μ) (type : AgentType) (s : PortState μ) (e : Event μ) : Prop :=
  MaySendNow type s ∧ ∀ t, lldpStep env s e = .ok t → MaySendNow type t

instance (type : AgentType) (s : PortState μ) : Decidable (MaySendNow type s) :=
  decidable_of_iff ((ofType type s.agents).any (maySend s.port) = true) <| by
    rw [Option.any_eq_true]
    exact exists_congr fun a => Iff.rfl

instance (env : Env μ) (type : AgentType) (s : PortState μ) (e : Event μ) :
    Decidable (StaysOn env type s e) :=
  match h : lldpStep env s e with
  | .ok t => decidable_of_iff (MaySendNow type s ∧ MaySendNow type t) <| by
      refine and_congr_right fun _ => ⟨fun ht u hu => ?_, fun hall => hall t h⟩
      cases h.symm.trans hu
      exact ht
  | .error f => decidable_of_iff (MaySendNow type s) <| by
      refine ⟨fun hs => ⟨hs, fun u hu => ?_⟩, fun hs => hs.1⟩
      cases h.symm.trans hu

/-- The bytes that the modules supply for a frame of the agent. -/
def suppliedLength (p : Port) (a : LldpAgent) : List (LldpModule μ) → μ → Nat
  | [], _ => 0
  | np :: nps, m =>
    match np.gettlv with
    | none => suppliedLength p a nps m
    | some f =>
      ((f p a m).2.getD []).length + suppliedLength p a nps (f p a m).1

/-- When the transmit machine starts here and builds a frame, the TLVs of the modules fit between
the header and the End TLV. -/
def FitsNow (env : Env μ) (d : Ctx μ) : Prop :=
  let c := d.txMove .txInfoFrame
  let a := c.agent.freeFrameout
  Builds d.agent →
    (ethHeader env a).length + suppliedLength c.port a env.modules c.modules + packEndTlv.length ≤
      ethDataLen

/-- The same for the agent of a type in an event. -/
def FrameFits (env : Env μ) (type : AgentType) (s : PortState μ) (e : Event μ) : Prop :=
  ∀ ev c d, turnOf env type s e = some (ev, c) → txStart ev c = some d → FitsNow env d

/-! ### A turn -/

theorem informed_wire (env : Env μ) (c : Ctx μ) :
    (c.informed env).wire =
      match (mibConstrInfoLLDPDU env (c.txMove .txInfoFrame)).agent.tx.frameout with
      | none => c.wire
      | some b =>
        b.take (mibConstrInfoLLDPDU env (c.txMove .txInfoFrame)).agent.tx.sizeout :: c.wire := rfl

/-- From one state of an agent to another with these marks in between: a frame costs a credit, a
tick brings one, and a change that no frame has carried is on its way, as long as frames fit. -/
structure MarksKept (fits : Prop) (a b : LldpAgent) (marks : List TxMark) : Prop where
  credit : marks.count .frame + b.timers.txCredit ≤ a.timers.txCredit + marks.count .tick
  due : fits → ∀ pending : Bool, (pending = true → Due a) →
    marks.foldl TxMark.note pending = true → Due b

namespace MarksKept

variable {fits : Prop} {a b c : LldpAgent} {marks more : List TxMark}

theorem trans (h : MarksKept fits a b marks) (h' : MarksKept fits b c more) :
    MarksKept fits a c (marks ++ more) where
  credit := by
    have h₁ := h.credit
    have h₂ := h'.credit
    rw [List.count_append, List.count_append]
    omega
  due hfits pending ha hpending := by
    rw [List.foldl_append] at hpending
    exact h'.due hfits _ (h.due hfits pending ha) hpending

theorem of_silent (hdue : Due a → Due b) (hcredit : b.timers.txCredit ≤ a.timers.txCredit) :
    MarksKept fits a b [] where
  credit := by simpa using hcredit
  due _ _ ha hpending := hdue (ha hpending)

/-- A call for the agent, whose flag is set then -/
theorem of_call (hflag : b.tx.localChange = true)
    (hcredit : b.timers.txCredit ≤ a.timers.txCredit) : MarksKept fits a b [.change] where
  credit := by simpa using hcredit
  due _ _ _ _ := .inl hflag

/-- The calls behind the transmit machine: there are none, or the flag is set. -/
theorem of_calls (n : Nat) (h : n = 0 ∨ a.tx.localChange = true) :
    MarksKept fits a a (List.replicate n .change) where
  credit := by
    have hnone : (List.replicate n TxMark.change).count .frame = 0 := by
      rw [List.count_replicate]
      rfl
    rw [hnone, Nat.zero_add]
    exact Nat.le_add_right _ _
  due _ _ ha hpending := by
    rcases h with rfl | hflag
    · exact ha hpending
    · exact .inl hflag

end MarksKept

variable {env : Env μ}

theorem gettlvAll_isSome {p : Port} {a : LldpAgent} (nps : List (LldpModule μ)) :
    ∀ (m : μ) (acc : Bytes), acc.length + suppliedLength p a nps m ≤ ethDataLen →
      ∃ b, (gettlvAll p a nps m acc).2 = some b ∧
        b.length = acc.length + suppliedLength p a nps m := by
  induction nps with
  | nil => exact fun m acc _ => ⟨acc, rfl, rfl⟩
  | cons np nps ih =>
    intro m acc h
    rw [gettlvAll]
    rw [suppliedLength] at h ⊢
    cases hget : np.gettlv with
    | none =>
      rw [hget] at h
      exact ih m acc h
    | some f =>
      rw [hget] at h
      dsimp only at h ⊢
      rcases htlv : f p a m with ⟨m', _ | tlv⟩
      · rw [htlv] at h
        have h : acc.length + (0 + suppliedLength p a nps m') ≤ ethDataLen := h
        obtain ⟨b, hb, hlen⟩ := ih m' acc (by omega)
        refine ⟨b, hb, ?_⟩
        show b.length = acc.length + (0 + suppliedLength p a nps m')
        omega
      · rw [htlv] at h
        have h : acc.length + (tlv.length + suppliedLength p a nps m') ≤ ethDataLen := h
        have hroom : ¬ tlv.length + acc.length > ethDataLen := by omega
        dsimp only
        rw [if_neg hroom]
        obtain ⟨b, hb, hlen⟩ := ih m' (acc ++ tlv) (by rw [List.length_append]; omega)
        refine ⟨b, hb, ?_⟩
        rw [hlen, List.length_append]
        exact Nat.add_assoc ..

/-- TLVs that fit make a frame. -/
theorem FitsNow.frameout {d : Ctx μ} (h : FitsNow env d) (hb : Builds d.agent) :
    (mibConstrInfoLLDPDU env (d.txMove .txInfoFrame)).agent.tx.frameout.isSome = true := by
  have h := h hb
  obtain ⟨b, hall, hlen⟩ := gettlvAll_isSome (p := (d.txMove .txInfoFrame).port)
    (a := (d.txMove .txInfoFrame).agent.freeFrameout) env.modules (d.txMove .txInfoFrame).modules
    (ethHeader env (d.txMove .txInfoFrame).agent.freeFrameout) (by omega)
  have hroom : ¬ packEndTlv.length + b.length > ethDataLen := by omega
  unfold LldpAgent.freeFrameout at hall
  unfold mibConstrInfoLLDPDU
  dsimp only
  rw [hall, setFrameout, if_neg hroom]
  rfl

/-- The transmit machine of an agent that may transmit: a frame costs a credit, and only a frame
that is sent takes a change with it. -/
theorem runTxSm_marks {d e : Ctx μ} (hmay : maySend d.port d.agent = true)
    (hw : d.agent.tx.state = .txShutdownFrame → d.agent.timers.txShutdownWhile ≠ 0)
    (h : runTxSm env d = .ok e) :
    MarksKept (FitsNow env d) d.agent e.agent (framesSent env d) := by
  have hmarks : framesSent env d = List.replicate (e.wire.length - d.wire.length) .frame := by
    rw [framesSent, h]
  rcases runTxSm_builds hmay hw h with ⟨hb, rfl⟩ | ⟨-, s, -, rfl⟩
  · obtain ⟨-, htimers, -⟩ := informed_agent env d
    have hcredit : (d.informed env).agent.timers.txCredit = d.agent.timers.txCredit - 1 := by
      rw [htimers]
    have hpos := hb.2.2
    have hwire := informed_wire env d
    cases hout : (mibConstrInfoLLDPDU env (d.txMove .txInfoFrame)).agent.tx.frameout with
    | none =>
      rw [hout] at hwire
      have hnone : framesSent env d = [] := by
        rw [hmarks, hwire, Nat.sub_self]
        rfl
      rw [hnone]
      refine ⟨?_, fun hfits => absurd (hfits.frameout hb) (by simp [hout])⟩
      rw [hcredit]
      show 0 + _ ≤ _ + 0
      omega
    | some b =>
      rw [hout] at hwire
      have hone : framesSent env d = [.frame] := by
        rw [hmarks, hwire]
        simp
      rw [hone]
      refine ⟨?_, fun _ _ _ hpending => by cases hpending⟩
      rw [hcredit]
      show 1 + _ ≤ _ + 0
      omega
  · have hnone : framesSent env d = [] := by
      rw [hmarks]
      show List.replicate (d.wire.length - d.wire.length) TxMark.frame = []
      rw [Nat.sub_self]
      rfl
    rw [hnone]
    exact .of_silent id (Nat.le_refl _)

theorem runTxSm_kicks {d e : Ctx μ} (hmay : maySend d.port d.agent = true)
    (hw : d.agent.tx.state = .txShutdownFrame → d.agent.timers.txShutdownWhile ≠ 0)
    (h : runTxSm env d = .ok e) : e.kicks = d.kicks := by
  rcases runTxSm_builds hmay hw h with ⟨-, rfl⟩ | ⟨-, s, -, rfl⟩
  · rfl
  · rfl

/-- What the transmit machine finds in a turn. -/
structure TurnStart (ev : AgentEvent) (c d : Ctx μ) : Prop where
  may : maySend d.port d.agent = true
  waits : d.agent.tx.state = .txShutdownFrame → d.agent.timers.txShutdownWhile ≠ 0
  kicks : d.kicks = c.kicks
  marks : ∀ fits, MarksKept fits c.agent d.agent (tickMark ev ++ callMarks ev c)

/-- Flags of changes stay where the receive side runs, and the hooks that call
`somethingChangedLocal` set one. -/
structure RxFollows (c c' : Ctx μ) : Prop where
  same : SameTxSide c.agent c'.agent
  flag : c.agent.tx.localChange = true → c'.agent.tx.localChange = true
  kicks : c'.kicks = c.kicks ∨ c'.agent.tx.localChange = true

namespace RxFollows

variable {c c' c'' : Ctx μ} {fits : Prop}

theorem of_flagged (hsame : SameTxSide c.agent c'.agent)
    (h : ∀ k, c.Flagged k → c'.Flagged k) : RxFollows c c' where
  same := hsame
  flag hflag := (h (c'.kicks + 1) (.inr hflag)).resolve_left (Nat.ne_of_lt (Nat.lt_succ_self _))
  kicks := h c.kicks (.inl rfl)

theorem trans (h : RxFollows c c') (h' : RxFollows c' c'') : RxFollows c c'' where
  same := h.same.trans h'.same
  flag hflag := h'.flag (h.flag hflag)
  kicks := by
    rcases h'.kicks with hsame | hflag
    · rcases h.kicks with hsame' | hflag
      · exact .inl (hsame.trans hsame')
      · exact .inr (h'.flag hflag)
    · exact .inr hflag

theorem marksKept (h : RxFollows c c') : MarksKept fits c.agent c'.agent (kickMarks c c') := by
  have hkept : MarksKept fits c.agent c'.agent [] :=
    .of_silent (fun ha => ha.of_sameTxSide h.same h.flag) (by rw [h.same.timers])
  exact hkept.trans (.of_calls _ (h.kicks.imp_left fun hsame => by rw [hsame, Nat.sub_self]))

end RxFollows

theorem runRxSm_follows {c c' : Ctx μ} (h : runRxSm env c = .ok c') : RxFollows c c' :=
  .of_flagged (runRxSm_keeps h).sameTxSide fun _ => runRxSm_flagged h

theorem updateRxTimers_follows (c : Ctx μ) :
    RxFollows c { c with agent := updateRxTimers c.agent } := by
  refine ⟨updateRxTimers_sameTxSide c.agent, ?_, .inl rfl⟩
  show c.agent.tx.localChange = true → (updateRxTimers c.agent).tx.localChange = true
  unfold updateRxTimers
  dsimp only
  split_ifs <;> exact id

/-- The turns of an agent that may transmit: the transmit machine runs and the receive side
follows, or the machine does not run and no change is lost. -/
theorem turn_cases {ev : AgentEvent} {c c' : Ctx μ} (hev : ev ≠ .reinit)
    (hup : c.port.portEnabled = true) (hbefore : c.agent.adminStatus.allowsTx = true)
    (hafter : c'.agent.adminStatus.allowsTx = true) (hrest : AgentAtRest c.agent)
    (h : agentHandle env ev c = .ok c') :
    (txStart ev c = none ∧
      ∀ fits, MarksKept fits c.agent c'.agent (tickMark ev ++ callMarks ev c ++ kickMarks c c')) ∨
      ∃ d e, txStart ev c = some d ∧ TurnStart ev c d ∧ runTxSm env d = .ok e ∧
        RxFollows e c' := by
  have hmay : ∀ a : LldpAgent, a.adminStatus.allowsTx = true → maySend c.port a = true :=
    fun a ha => Bool.and_eq_true_iff.mpr ⟨hup, ha⟩
  cases ev with
  | tick =>
    obtain ⟨a, d, ha, hsms, rfl⟩ := agentTick_eq_ok.mp h
    obtain ⟨e, htx, hrx⟩ := bind_eq_ok.mp hsms
    have hserved := runTxTimersSm_served (a := updateTxTimers c.agent) (hmay _ hbefore) ha
    have hkeep := runTxTimersSm_keeps ha
    refine .inr ⟨{ c with agent := a }, e, ?_, ⟨?_, ?_, rfl, fun _ => ⟨?_, ?_⟩⟩, htx, ?_⟩
    · rw [txStart, ha]
      rfl
    · exact hmay _ (by rw [hkeep.sameRxSide.adminStatus]; exact hbefore)
    · have hwhile := runTxTimersSm_shutdownWhile (a := updateTxTimers c.agent) (hmay _ hbefore) ha
      show a.tx.state = _ → a.timers.txShutdownWhile ≠ 0
      rw [hkeep.txState, hwhile]
      exact hrest.shutdownWhile
    · have hticked := hserved.credit
      show 0 + a.timers.txCredit ≤ c.agent.timers.txCredit + 1
      exact Nat.le_trans (Nat.le_of_eq (Nat.zero_add _)) hticked
    · intro _ pending hdue hpending
      have hticked : Due (updateTxTimers c.agent) := by
        rcases hdue hpending with hd | hd | hd
        · exact .inl hd
        · exact .inr (.inl hd)
        · refine .inr (.inr ?_)
          show c.agent.timers.txTTR - 1 = 0
          omega
      exact .inr (.inl (hserved.txNow hticked))
    · have hfollow := (runRxSm_follows hrx).trans (updateRxTimers_follows d)
      have htimer := callHooks_rxKeeps LldpModule.timer env.modules
        { d with agent := updateRxTimers d.agent }
      exact hfollow.trans (.of_flagged htimer.sameTxSide fun _ =>
        callHooks_flagged LldpModule.timer env.modules)
  | setAdmin admin =>
    rcases setAgentAdmin_eq_ok h with ⟨hne, h⟩ | ⟨hsame, rfl⟩
    · obtain ⟨e, htx, hrx⟩ := bind_eq_ok.mp h
      have hadmin : admin.allowsTx = true := by
        have hkeep := (runRxSm_keeps hrx).sameTxSide.adminStatus.trans
          (runTxSm_keeps htx).sameRxSide.adminStatus
        rw [hkeep] at hafter
        exact hafter
      refine .inr ⟨_, e, if_pos hne, ⟨hmay _ hadmin, hrest.shutdownWhile, rfl, fun _ => ?_⟩,
        htx, runRxSm_follows hrx⟩
      -- `somethingChangedLocal` is called for the agent with its new status
      rw [show tickMark (.setAdmin admin) ++ callMarks (.setAdmin admin) c = [.change] from
        if_pos hne]
      exact .of_call rfl (Nat.le_refl _)
    · refine .inl ⟨if_neg (not_not.mpr hsame), fun _ => ?_⟩
      rw [show tickMark (.setAdmin admin) ++ callMarks (.setAdmin admin) c = [] from
        if_neg (not_not.mpr hsame), kickMarks, Nat.sub_self]
      exact .of_silent id (Nat.le_refl _)
  | portEnable enable =>
    obtain ⟨e, htx, hrx⟩ := bind_eq_ok.mp h
    refine .inr ⟨_, e, rfl, ⟨hmay _ ?_, ?_, rfl, fun _ => ?_⟩, htx, runRxSm_follows hrx⟩
    · cases enable <;> exact hbefore
    · cases enable <;> exact hrest.shutdownWhile
    · cases enable <;> exact .of_silent id (Nat.le_refl _)
  | reinit => exact absurd rfl hev
  | accept f =>
    refine .inl ⟨rfl, fun fits => ?_⟩
    rcases rxAcceptFrame_eq_ok h with ⟨-, rfl⟩ | ⟨-, h⟩
    · rw [kickMarks, Nat.sub_self]
      exact .of_silent id (Nat.le_refl _)
    · have hkept : MarksKept fits _ c'.agent (kickMarks _ c') := (runRxSm_follows h).marksKept
      exact ⟨hkept.credit, hkept.due⟩
  | repeated f =>
    cases h
    refine .inl ⟨rfl, fun _ => ?_⟩
    rw [kickMarks, Nat.sub_self]
    exact .of_silent id (Nat.le_refl _)
  | localChange | updateTtl ttl =>
    cases h
    refine .inl ⟨rfl, fun _ => ?_⟩
    rw [kickMarks, Nat.sub_self]
    exact .of_call rfl (Nat.le_refl _)

theorem turn_marks {ev : AgentEvent} {c c' : Ctx μ} {fits : Prop}
    (hev : ev ≠ .reinit) (hup : c.port.portEnabled = true)
    (hbefore : c.agent.adminStatus.allowsTx = true)
    (hafter : c'.agent.adminStatus.allowsTx = true) (hrest : AgentAtRest c.agent)
    (h : agentHandle env ev c = .ok c')
    (hfits : fits → ∀ d, txStart ev c = some d → FitsNow env d) :
    MarksKept fits c.agent c'.agent (turnMarks env ev c) := by
  rw [turnMarks, h]
  rcases turn_cases hev hup hbefore hafter hrest h with
    ⟨hnone, hkept⟩ | ⟨d, e, hd, hstart, htx, hrx⟩
  · rw [hnone]
    simpa using hkept fits
  · -- the transmit machine runs once, and the receive machine after it
    rw [hd]
    have hsent := runTxSm_marks hstart.may hstart.waits htx
    have hkicks := runTxSm_kicks hstart.may hstart.waits htx
    have hframes : MarksKept fits d.agent e.agent (framesSent env d) :=
      ⟨hsent.credit, fun hf => hsent.due (hfits hf d hd)⟩
    have hlast : kickMarks c c' = kickMarks e c' := by
      rw [kickMarks, kickMarks, hkicks, hstart.kicks]
    dsimp only
    rw [hlast]
    exact ((hstart.marks fits).trans hframes).trans hrx.marksKept

/-! ### A run -/

theorem run_marks {type : AgentType} {s t : PortState μ} {es : List (Event μ)}
    {a : LldpAgent} (hrun : (lldpSystem env).RunWhere (StaysOn env type) s es t)
    (hreach : (lldpSystem env).Reachable s) (ha : ofType type s.agents = some a) :
    ∃ b, ofType type t.agents = some b ∧ CreditOk b.timers ∧
      MarksKept ((lldpSystem env).StepsMeet (FrameFits env type) s es) a b
        (txLog env type s es) := by
  induction hrun generalizing a with
  | nil s =>
    have hcredit := creditOk_of_reachable hreach a (mem_of_ofType ha)
    exact ⟨a, ha, hcredit, .of_silent id (Nat.le_refl _)⟩
  | @cons s s' t e es hstays hstep _ ih =>
    obtain ⟨a', ha', hturn⟩ := agentOf_step (typesDistinct_of_reachable hreach) hstep ha
    obtain ⟨b, hb, hcredit, hrest⟩ := ih (hreach.step hstep) ha'
    obtain ⟨⟨a₀, ha₀, hbefore⟩, hlater⟩ := hstays
    obtain ⟨a₁, ha₁, hafter⟩ := hlater s' hstep
    cases ha.symm.trans ha₀
    cases ha'.symm.trans ha₁
    obtain ⟨hup, hon⟩ := Bool.and_eq_true_iff.mp hbefore
    obtain ⟨hup', hon'⟩ := Bool.and_eq_true_iff.mp hafter
    refine ⟨b, hb, hcredit, ?_⟩
    have hlog : txLog env type s (e :: es) = eventMarks env type s e ++ txLog env type s' es := by
      have hstep' : lldpStep env s e = .ok s' := hstep
      rw [txLog, hstep']
    have htail : MarksKept ((lldpSystem env).StepsMeet (FrameFits env type) s (e :: es)) a' b
        (txLog env type s' es) := ⟨hrest.credit, fun hf => hrest.due (hf.2 s' hstep)⟩
    rw [hlog]
    refine MarksKept.trans ?_ htail
    -- the event gives the agent one turn, or none
    rcases hturn with ⟨hnone, rfl⟩ | ⟨hsome, rfl, hhandle, rfl, hlink⟩
    · rw [eventMarks, hnone]
      exact .of_silent id (Nat.le_refl _)
    · rename_i ev c c'
      obtain ⟨hcup, hev⟩ := hlink hup hup'
      have hmem := mem_of_ofType ha
      rw [eventMarks, hsome]
      refine turn_marks hev hcup hon hon' (agentAtRest_of_reachable hreach _ hmem) hhandle ?_
      exact fun hf d hd => hf.1 ev c d hsome hd

/-- While the link is up and the agent may transmit, it sends no more frames than there are ticks
and credits, and it never has more credits than it may. No local change is lost in a run whose
frames fit. -/
theorem changeKept_of_fits {env : Env μ} {type : AgentType} {s t : PortState μ}
    {es : List (Event μ)} (hreach : (lldpSystem env).Reachable s) (hon : MaySendNow type s)
    (hrun : (lldpSystem env).RunWhere (StaysOn env type) s es t) :
    ∃ a, ofType type t.agents = some a ∧ a.timers.txCredit ≤ a.timers.txMaxCredit ∧
      (txLog env type s es).count .frame ≤ txCreditMax + (txLog env type s es).count .tick ∧
      ((lldpSystem env).StepsMeet (FrameFits env type) s es →
        changePending (txLog env type s es) = true → Due a) := by
  obtain ⟨a, ha, -⟩ := hon
  obtain ⟨b, hb, hcredit, hkept⟩ := run_marks hrun hreach ha
  have hstart := creditOk_of_reachable hreach a (mem_of_ofType ha)
  refine ⟨b, hb, hcredit.le, ?_, fun hfits => hkept.due hfits false nofun⟩
  have hspent := hkept.credit
  have hle := hstart.le
  rw [hstart.max] at hle
  omega

/-! ### Frames that fit, and one that does not -/

/-- The port gets an agent that does both, and the link comes up. -/
def upAndOn : List (Event Unit) := [.addAgent .nearestBridge, .portEnable true]

/-- A change, the tick that sends it, and another change. -/
def twoChanges : List (Event Unit) :=
  [.localChange .nearestBridge, .tick, .localChange .nearestBridge]

theorem stationEnv_fits (d : Ctx Unit) : FitsNow stationEnv d := by
  intro _
  have hown : ∀ p a m, suppliedLength p a stationEnv.modules m =
      (packAll stationLldpdu.tlvs).length := fun _ _ _ => rfl
  rw [length_ethHeader rfl, hown]
  decide

/-- The station that changes twice sends one frame, and the second change is on its way. -/
theorem twoChanges_changeKept :
    ∃ s t a, (lldpSystem stationEnv).run stationPort upAndOn = .ok s ∧
      (lldpSystem stationEnv).run s twoChanges = .ok t ∧
      txLog stationEnv .nearestBridge s twoChanges = [.change, .tick, .frame, .change] ∧
      ofType .nearestBridge t.agents = some a ∧ Due a := by
  let check := fun s e => decide (StaysOn stationEnv .nearestBridge s e)
  obtain ⟨s, hs, hboth⟩ := System.exists_run (lldpSystem stationEnv) stationPort upAndOn
    (fun s => decide (MaySendNow .nearestBridge s) &&
      (decide (txLog stationEnv .nearestBridge s twoChanges = [.change, .tick, .frame, .change]) &&
        ((lldpSystem stationEnv).checkedRun check s twoChanges).toOption.any fun _ => true))
    (by decide +kernel)
  obtain ⟨hon, hboth⟩ := Bool.and_eq_true_iff.mp hboth
  obtain ⟨hlog, hrun⟩ := Bool.and_eq_true_iff.mp hboth
  replace hlog := of_decide_eq_true hlog
  obtain ⟨t, hrun, -⟩ := System.exists_runWhere _ check (fun _ _ => of_decide_eq_true) s _ _ hrun
  obtain ⟨a, ha, -, -, hkept⟩ :=
    changeKept_of_fits ⟨stationPort, upAndOn, ⟨rfl, rfl⟩, hs⟩ (of_decide_eq_true hon) hrun
  have hfits : (lldpSystem stationEnv).StepsMeet
      (FrameFits stationEnv .nearestBridge) s twoChanges :=
    System.stepsMeet_of_forall (fun _ _ _ _ d _ _ => stationEnv_fits d) twoChanges s
  exact ⟨s, t, a, hs, hrun.run_eq, hlog, ha, hkept hfits (by rw [hlog]; rfl)⟩

/-- A module with the largest TLV that there is. -/
def largeModule : LldpModule Unit where
  gettlv := some fun _ _ m => (m, some (0xff :: 0xff :: List.replicate 511 0))

/-- A daemon with three of them. -/
def largeEnv : Env Unit :=
  { stationEnv with modules := [stationMand, largeModule, largeModule, largeModule] }

/-- A change, and the tick that should send it. -/
def oneChange : List (Event Unit) := [.localChange .nearestBridge, .tick]

/-- Not every change is kept: these TLVs do not fit into a frame, and the change is dropped. -/
theorem not_changeKept :
    ¬ ∀ (env : Env Unit) (type : AgentType) (s t : PortState Unit) (es : List (Event Unit))
        (a : LldpAgent), (lldpSystem env).Reachable s → MaySendNow type s →
      (lldpSystem env).RunWhere (StaysOn env type) s es t → ofType type t.agents = some a →
      changePending (txLog env type s es) = true → Due a := by
  intro hall
  let check := fun s e => decide (StaysOn largeEnv .nearestBridge s e)
  obtain ⟨s, hs, hboth⟩ := System.exists_run (lldpSystem largeEnv) stationPort upAndOn
    (fun s => decide (MaySendNow .nearestBridge s) &&
      (changePending (txLog largeEnv .nearestBridge s oneChange) &&
        ((lldpSystem largeEnv).checkedRun check s oneChange).toOption.any fun t =>
          (ofType .nearestBridge t.agents).any fun a => !decide (Due a)))
    (by decide +kernel)
  obtain ⟨hon, hboth⟩ := Bool.and_eq_true_iff.mp hboth
  obtain ⟨hlog, hrun⟩ := Bool.and_eq_true_iff.mp hboth
  obtain ⟨t, hrun, ht⟩ := System.exists_runWhere _ check (fun _ _ => of_decide_eq_true) s _ _ hrun
  obtain ⟨a, ha, hdue⟩ := (Option.any_eq_true ..).mp ht
  have hkept := hall largeEnv .nearestBridge s t oneChange a
    ⟨stationPort, upAndOn, ⟨rfl, rfl⟩, hs⟩ (of_decide_eq_true hon) hrun ha hlog
  simp [hkept] at hdue

end Lldpad.Lldp
