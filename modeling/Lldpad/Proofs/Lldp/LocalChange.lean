import Lldpad.Proofs.Lldp.Shutdown

/-!
# `Lldpad.Proofs.Lldp.LocalChange`: the way of a local change

`somethingChangedLocal` sets `tx.localChange`. The timer machine hands the change on to
`tx.txNow`, and the transmit machine builds a frame when it has a credit. `Due` says that
the change is somewhere on this way.

* `runRxSm_flagged`: the receive side never drops the flag, and it is set when a hook called
  `somethingChangedLocal`.
* `runTxTimersSm_served`: the timer machine hands every change on, for at most one credit.
* `runTxSm_builds`: the transmit machine builds one frame for one credit, or nothing happens.
* `creditOk_of_reachable`: no agent ever has more credits than it may.
-/

namespace Lldpad.Lldp

open Lldpad.Lib

variable {μ : Type}

/-! ### The receive side keeps a change -/

/-- No hook has called `somethingChangedLocal` since the count was `k`, or the flag `localChange`
is set. -/
def Ctx.Flagged (k : Nat) (c : Ctx μ) : Prop := c.kicks = k ∨ c.agent.tx.localChange = true

variable {a : LldpAgent} {c : Ctx μ} {env : Env μ} {k : Nat}

theorem hook_flagged (h : c.Flagged k) (r : HookResult μ) : (c.hook r).Flagged k := by
  unfold Ctx.Flagged Ctx.hook kick
  cases r.localChange with
  | false => exact h
  | true => exact .inr rfl

theorem callHooks_flagged (hook : LldpModule μ → Option (Port → AgentView → μ → HookResult μ))
    (nps : List (LldpModule μ)) (h : c.Flagged k) : (callHooks hook nps c).Flagged k :=
  callHooks_induction hook (I := Ctx.Flagged k) (fun _ r hd => hook_flagged hd r) nps c h

theorem rchange_flagged (h : c.Flagged k) (r : RchangeResult μ) :
    (c.rchange r).Flagged k := by
  have hhook : (c.hook r.toHookResult).Flagged k := hook_flagged h r.toHookResult
  unfold Ctx.Flagged Ctx.rchange at *
  split_ifs <;> exact hhook

theorem rchangeAll_flagged (nps : List (LldpModule μ)) :
    ∀ (c : Ctx μ) (tlv : UnpackedTlv) (stored : Bool), c.Flagged k →
      (rchangeAll nps c tlv stored).1.Flagged k := by
  induction nps with
  | nil => exact fun _ _ _ h => h
  | cons np nps ih =>
    intro c tlv stored h
    rw [rchangeAll]
    cases np.rchange with
    | none => exact ih c tlv stored h
    | some f =>
      dsimp only
      have hr := rchange_flagged h (f c.port c.agent.view c.modules tlv)
      cases (f c.port c.agent.view c.modules tlv).answer with
      | tlvOk => exact ih _ tlv true hr
      | tlvErr => exact hr
      | subtypeInvalid => exact ih _ tlv stored hr

theorem storeTlv_tx {f : Frame} {a a' : LldpAgent} {l l' : RxLocals} {tlv : UnpackedTlv}
    (h : storeTlv f a l tlv = some (a', l')) : a'.tx = a.tx := by
  have hsame := (recordTlv_same f (a.keeps tlv)
    { l with tlvStored := coreType tlv.type || l.tlvStored } tlv).1
  rw [storeTlv_eq_some h, SameButNeighbour] at hsame
  dsimp only at hsame
  rw [hsame]
  show (a.keeps tlv).tx = a.tx
  unfold LldpAgent.keeps
  split_ifs <;> rfl

theorem dropUnstored_flagged (h : c.Flagged k) (tlv : UnpackedTlv) (stored : Bool) :
    (dropUnstored c tlv stored).Flagged k := by
  unfold dropUnstored
  split_ifs <;> exact h

theorem TlvPass.flagged {f : Frame} {l : RxLocals}
    {p : Pass (Ctx μ × RxLocals) (Ctx μ × Bool)} (h : TlvPass env f c l p) (hc : c.Flagged k) :
    match p with
    | .again s => s.1.Flagged k
    | .leave r => r.1.Flagged k := by
  have hall' : ∀ (a : LldpAgent) (d : Ctx μ) tlv stored o, a.tx = c.agent.tx →
      rchangeAll env.modules (c.withNewTlv a) tlv stored = (d, o) → d.Flagged k := by
    intro a d tlv stored o ha hall
    have hin : (c.withNewTlv a).Flagged k := by
      refine hc.imp_right fun hflag => ?_
      show a.tx.localChange = true
      rw [ha]
      exact hflag
    have hout := rchangeAll_flagged env.modules (c.withNewTlv a) tlv stored hin
    rw [hall] at hout
    exact hout
  cases h with
  | unreadable => exact hc
  | repeated => exact hc
  | rejected hread hstore hall =>
    have hd := hall' _ _ _ _ _ (storeTlv_tx hstore) hall
    exact hd
  | next hread hstore hall hmore =>
    exact dropUnstored_flagged (hall' _ _ _ _ _ (storeTlv_tx hstore) hall) _ _
  | last hread hstore hall hend =>
    exact dropUnstored_flagged (hall' _ _ _ _ _ (storeTlv_tx hstore) hall) _ _

theorem clearManifest_kicks (c : Ctx μ) : (clearManifest c).kicks = c.kicks := by
  unfold clearManifest
  split <;> rfl

theorem rxProcessFrame_flagged {c c' : Ctx μ} (h : rxProcessFrame env c = .ok c')
    (hc : c.Flagged k) : c'.Flagged k := by
  obtain ⟨f, r, -, -, hwalk, rfl⟩ := rxProcessFrame_eq_ok.mp h
  have hstart : Ctx.Flagged k { c with agent := beginFrame c.agent } := hc
  have hr : r.1.Flagged k := by
    refine walk_induction (I := fun d _ => d.Flagged k) (Q := fun r => r.1.Flagged k) ?_ hstart hwalk
    intro d l p hd hp
    have hp := hp.flagged hd
    cases p <;> exact hp
  unfold Ctx.Flagged endFrame
  rw [clearManifest_agent, clearManifest_kicks]
  unfold countFrame
  split_ifs <;> exact hr

theorem mibDeleteObjects_flagged (env : Env μ) (h : c.Flagged k) :
    (mibDeleteObjects env c).Flagged k := callHooks_flagged _ _ h

theorem rxAction_flagged {c c' : Ctx μ} (h : rxAction env c = .ok c')
    (hc : c.Flagged k) : c'.Flagged k := by
  unfold rxAction at h
  split at h
  · cases h
    exact hc
  · cases h
    exact mibDeleteObjects_flagged env hc
  · cases h
    exact mibDeleteObjects_flagged (c := { c with agent := _ }) env hc
  · cases h
    exact hc
  · exact rxProcessFrame_flagged h hc
  · cases h
    exact mibDeleteObjects_flagged env hc
  · cases h
    exact hc

theorem runRxSm_flagged {c c' : Ctx μ} (h : runRxSm env c = .ok c')
    (hc : c.Flagged k) : c'.Flagged k := by
  refine Machine.run_preserves (I := Ctx.Flagged k) ?_ ?_ hc h
  · intro s t hs ht
    exact rxAction_flagged ht hs
  · intro s t b hs ht
    obtain ⟨rfl, -⟩ := rxMove_of_ok ht
    exact hs

/-! ### The way of a change -/

/-- A local change is on its way: flagged, or handed on to the transmit machine, or the timer
machine is about to force a transmission. -/
def Due (a : LldpAgent) : Prop :=
  a.tx.localChange = true ∨ a.tx.txNow = true ∨ a.timers.txTTR = 0

instance (a : LldpAgent) : Decidable (Due a) := inferInstanceAs (Decidable (_ ∨ _ ∨ _))

theorem Due.of_sameTxSide {a b : LldpAgent} (h : Due a) (hsame : SameTxSide a b)
    (hflag : a.tx.localChange = true → b.tx.localChange = true) : Due b := by
  rcases h with h | h | h
  · exact .inl (hflag h)
  · exact .inr (.inl (by rw [hsame.tx]; exact h))
  · exact .inr (.inr (by rw [hsame.timers]; exact h))

/-- What a run of the timer machine makes of an agent that may transmit. -/
structure TimersServed (a b : LldpAgent) : Prop where
  txNow : Due a → b.tx.txNow = true
  txTick : b.timers.txTick = false
  txMaxCredit : b.timers.txMaxCredit = a.timers.txMaxCredit
  credit : b.timers.txCredit ≤ a.timers.txCredit + a.timers.txTick.toNat
  credit_le : a.timers.txCredit ≤ a.timers.txMaxCredit → b.timers.txCredit ≤ b.timers.txMaxCredit

theorem nextTxTimers_tick {p : Port} (h : (nextTxTimers p a).1 = .txTick) :
    a.timers.txTick = true := by
  unfold nextTxTimers at h
  split at h
  · cases h
  · split at h <;> try cases h
    split_ifs at h with h₁ h₂ h₃ h₄
    exact h₄

theorem nextTxTimers_final {p : Port} (hmay : maySend p a = true)
    (h : (nextTxTimers p a).2 = false) :
    a.tx.localChange = false ∧ a.timers.txTTR ≠ 0 ∧ a.timers.txTick = false := by
  rw [nextTxTimers, if_neg (by simp [hmay])] at h
  split at h <;> try cases h
  split_ifs at h with h₁ h₂ h₃ h₄
  exact ⟨Bool.eq_false_iff.mpr h₁, h₂, Bool.eq_false_iff.mpr h₄⟩

/-- The timer machine hands every change on to the transmit machine, and it gives one credit
for a tick. -/
theorem runTxTimersSm_served {p : Port} {a b : LldpAgent} (hmay : maySend p a = true)
    (h : runTxTimersSm p a = .ok b) : TimersServed a b := by
  -- what holds while the machine runs: the change is not lost, the tick is spent once
  let J : LldpAgent → Prop := fun s => (Due a → Due s) ∧
    s.timers.txMaxCredit = a.timers.txMaxCredit ∧
    s.timers.txCredit + s.timers.txTick.toNat ≤ a.timers.txCredit + a.timers.txTick.toNat ∧
    (a.timers.txCredit ≤ a.timers.txMaxCredit → s.timers.txCredit ≤ s.timers.txMaxCredit)
  have hround : ∀ s, maySend p s = true → J s → (nextTxTimers p s).1 ≠ .txTimerInitialize →
      J (txTimersAction (txTimerChangeState s (nextTxTimers p s).1)) := by
    rintro s - ⟨hdue, hmax, hcredit, hle⟩ hne
    cases hx : (nextTxTimers p s).1 with
    | txTimerInitialize => exact absurd hx hne
    | txTimerBegin | txTimerIdle | txTimerExpires | txFastStart =>
      exact ⟨hdue, hmax, hcredit, hle⟩
    | signalTx => exact ⟨fun _ => .inr (.inl rfl), hmax, hcredit, hle⟩
    | txTick =>
      rw [nextTxTimers_tick hx, Bool.toNat_true] at hcredit
      refine ⟨hdue, hmax, ?_, fun hstart => ?_⟩
      · rw [txCredit_tick]
        show _ + 0 ≤ _
        split <;> omega
      · have := hle hstart
        rw [txCredit_tick]
        show _ ≤ s.timers.txMaxCredit
        split <;> omega
  obtain ⟨t, hup, ⟨hdue, hmax, hcredit, hle⟩, hlast, rfl⟩ :=
    runTxTimersSm_rule hmay hround ⟨id, rfl, Nat.le_refl _, id⟩ h
  obtain ⟨hflag, httr, htick⟩ := nextTxTimers_final hup hlast
  refine ⟨fun ha => ?_, htick, hmax, ?_, hle⟩
  · rcases hdue ha with hd | hd | hd
    · exact absurd hd (by simp [hflag])
    · exact hd
    · exact absurd hd httr
  · rw [htick, Bool.toNat_false] at hcredit
    exact hcredit

/-- The transmit machine of an agent that may transmit builds a frame. -/
def Builds (a : LldpAgent) : Prop :=
  a.tx.state ≠ .txShutdownFrame ∧ a.tx.txNow = true ∧ 0 < a.timers.txCredit

/-- The moves of the transmit machine of an agent that may transmit. -/
def nextTxUp (a : LldpAgent) : TxState × Bool :=
  match a.tx.state with
  | .txLldpInitialize | .txInfoFrame => (.txIdle, true)
  | .txIdle =>
    if a.tx.txNow = true ∧ 0 < a.timers.txCredit then (.txInfoFrame, true) else (.txIdle, false)
  | .txShutdownFrame =>
    if a.timers.txShutdownWhile = 0 then (.txLldpInitialize, true) else (.txShutdownFrame, false)

theorem nextTxUp_of_idle (h : a.tx.state = .txIdle) :
    nextTxUp a =
      if a.tx.txNow = true ∧ 0 < a.timers.txCredit then (.txInfoFrame, true)
      else (.txIdle, false) := by
  rw [nextTxUp, h]

theorem nextTx_of_maySend {p : Port} (h : maySend p a = true) :
    nextTx p a = nextTxUp a := by
  obtain ⟨hup, hadmin⟩ := Bool.and_eq_true_iff.mp h
  rw [nextTx_of_not_falls a (by simp [hup]), nextTxUp]
  cases a.tx.state <;> simp [hup, hadmin]

/-- What the transmit machine leaves when it has built a frame. -/
def Ctx.informed (env : Env μ) (c : Ctx μ) : Ctx μ :=
  (processTxInfoFrame env (c.txMove .txInfoFrame)).txMove .txIdle

theorem informed_agent (env : Env μ) (c : Ctx μ) :
    (c.informed env).agent.tx.txNow = false ∧
      (c.informed env).agent.timers = { c.agent.timers with
        txCredit := c.agent.timers.txCredit - 1 } ∧
      (c.informed env).port = (c.txMove .txIdle).port := by
  obtain ⟨d, hd, heq⟩ := processTxInfoFrame_eq env (c.txMove .txInfoFrame)
  unfold Ctx.informed
  rw [heq]
  refine ⟨rfl, ?_, ?_⟩
  · have htimers : d.agent.timers = c.agent.timers := by
      rw [hd.agent]
      rfl
    show { d.agent.timers with txCredit := c.agent.timers.txCredit - 1 } = _
    rw [htimers]
  · show { d.port with prevPortEnabled := d.port.portEnabled } = _
    rw [hd.port]
    rfl

theorem txMachine_move_up (env : Env μ) (hmay : maySend c.port c.agent = true) :
    (txMachine env).move c = .ok (c.txMove (nextTxUp c.agent).1, (nextTxUp c.agent).2) := by
  rw [← nextTx_of_maySend hmay]
  exact setTxState_eq c

theorem txLoop_of_infoFrame (env : Env μ) (hmay : maySend c.port c.agent = true) (fuel : Nat) :
    iterate (txMachine env).round (fuel + 2) (c.txMove .txInfoFrame) = .ok (c.informed env) := by
  obtain ⟨hup, hadmin⟩ := Bool.and_eq_true_iff.mp hmay
  obtain ⟨d, hd, heq⟩ := processTxInfoFrame_eq env (c.txMove .txInfoFrame)
  have hsent : maySend (processTxInfoFrame env (c.txMove .txInfoFrame)).port
      (processTxInfoFrame env (c.txMove .txInfoFrame)).agent = true := by
    rw [heq]
    show (d.port.portEnabled && d.agent.adminStatus.allowsTx) = true
    rw [hd.port, hd.agent]
    exact hmay
  have hstate : (processTxInfoFrame env (c.txMove .txInfoFrame)).agent.tx.state = .txInfoFrame := by
    rw [heq]
    show d.agent.tx.state = _
    rw [hd.agent]
    rfl
  have hmove := txMachine_move_up env hsent
  rw [nextTxUp, hstate] at hmove
  have hidle : maySend (c.informed env).port (c.informed env).agent = true := hsent
  have hlast := txMachine_move_up env hidle
  have hsilent : ¬((c.informed env).agent.tx.txNow = true ∧
      0 < (c.informed env).agent.timers.txCredit) := by
    rw [(informed_agent env c).1]
    simp
  have hnone : nextTxUp (c.informed env).agent = (.txIdle, false) := by
    rw [nextTxUp_of_idle rfl, if_neg hsilent]
  rw [hnone] at hlast
  rw [Machine.iterate_round_again rfl hmove, Machine.iterate_round_final rfl hlast]
  rfl

theorem txLoop_of_idle (env : Env μ) (hmay : maySend c.port c.agent = true) (fuel : Nat) :
    iterate (txMachine env).round (fuel + 3) (c.txMove .txIdle) =
      .ok (if c.agent.tx.txNow = true ∧ 0 < c.agent.timers.txCredit then c.informed env
        else c.txMove .txIdle) := by
  have hmove := txMachine_move_up env (c := c.txMove .txIdle) hmay
  by_cases hsend : c.agent.tx.txNow = true ∧ 0 < c.agent.timers.txCredit
  · have hnext : nextTxUp (c.txMove .txIdle).agent = (.txInfoFrame, true) := by
      rw [nextTxUp_of_idle rfl]
      exact if_pos hsend
    rw [hnext] at hmove
    rw [if_pos hsend, Machine.iterate_round_again rfl hmove]
    exact txLoop_of_infoFrame env hmay fuel
  · have hnext : nextTxUp (c.txMove .txIdle).agent = (.txIdle, false) := by
      rw [nextTxUp_of_idle rfl]
      exact if_neg hsend
    rw [hnext] at hmove
    rw [if_neg hsend]
    exact Machine.iterate_round_final rfl hmove

/-- The transmit machine only changes its state, and not to that of the shutdown. -/
def Ctx.Rests (c c' : Ctx μ) : Prop :=
  ∃ s, (s = .txShutdownFrame → c.agent.tx.state = .txShutdownFrame) ∧ c' = c.txMove s

/-- An agent that may transmit builds one frame if it has to and if it has the credit. -/
theorem runTxSm_builds {c c' : Ctx μ} (hmay : maySend c.port c.agent = true)
    (hw : c.agent.tx.state = .txShutdownFrame → c.agent.timers.txShutdownWhile ≠ 0)
    (h : runTxSm env c = .ok c') :
    Builds c.agent ∧ c' = c.informed env ∨
      ¬Builds c.agent ∧ c.Rests c' := by
  have hfirst := txMachine_move_up env hmay
  have hrun : runTxSm env c
      = iterate (txMachine env).round smFuel (c.txMove (nextTxUp c.agent).1) := by
    rw [runTxSm, Machine.run, hfirst, bind_ok]
  rw [hrun] at h
  have hcase : ∀ d : Ctx μ, c.agent.tx.state ≠ .txShutdownFrame →
      .ok (if c.agent.tx.txNow = true ∧ 0 < c.agent.timers.txCredit then c.informed env
        else c.txMove .txIdle) = (.ok d : Except Fault (Ctx μ)) →
      Builds c.agent ∧ d = c.informed env ∨
        ¬Builds c.agent ∧ c.Rests d := by
    intro d hs hd
    split at hd
    · next hsend =>
      cases hd
      exact .inl ⟨⟨hs, hsend⟩, rfl⟩
    · next hsend =>
      cases hd
      exact .inr ⟨fun hb => hsend hb.2, .txIdle, (fun h => by cases h), rfl⟩
  cases hs : c.agent.tx.state with
  | txLldpInitialize | txInfoFrame =>
    rw [nextTxUp, hs] at h
    exact hcase c' (by simp [hs]) ((txLoop_of_idle env hmay 61).symm.trans h)
  | txIdle =>
    rw [nextTxUp, hs] at h
    dsimp only at h
    split at h
    · next hsend =>
      rw [show smFuel = 62 + 2 from rfl, txLoop_of_infoFrame env hmay] at h
      cases h
      exact .inl ⟨⟨by simp [hs], hsend⟩, rfl⟩
    · next hsend => exact hcase c' (by simp [hs]) ((txLoop_of_idle env hmay 61).symm.trans h)
  | txShutdownFrame =>
    -- the machine waits for `txShutdownWhile`
    have hwait := hw hs
    have hnext : nextTxUp c.agent = (.txShutdownFrame, false) := by
      rw [nextTxUp, hs]
      exact if_neg hwait
    have hmove := txMachine_move_up env (c := c.txMove .txShutdownFrame) hmay
    have hagain : nextTxUp (c.txMove .txShutdownFrame).agent = (.txShutdownFrame, false) :=
      if_neg hwait
    have hact : (txMachine env).act (c.txMove .txShutdownFrame)
        = .ok (c.txMove .txShutdownFrame) := by
      show Except.ok (processTxShutdownFrame env (c.txMove .txShutdownFrame)) = _
      exact congrArg Except.ok (if_neg hwait)
    rw [hagain] at hmove
    rw [hnext, show smFuel = 63 + 1 from rfl, Machine.iterate_round_final hact hmove] at h
    cases h
    exact .inr ⟨fun hb => hb.1 hs, .txShutdownFrame, fun _ => hs, rfl⟩

/-! ### The credit -/

/-- Between two events the credit is at most its maximum, and every tick is served. -/
structure CreditOk (t : AgentTimers) : Prop where
  max : t.txMaxCredit = txCreditMax
  le : t.txCredit ≤ t.txMaxCredit
  noTick : t.txTick = false

theorem txAction_credit {c : Ctx μ} (h : CreditOk c.agent.timers) :
    CreditOk (txAction env c).agent.timers := by
  unfold txAction
  split
  · exact ⟨h.max, h.le, h.noTick⟩
  · exact h
  · obtain ⟨d, hd, heq⟩ := processTxShutdownFrame_eq env c
    rw [heq, hd.agent]
    exact ⟨h.max, h.le, h.noTick⟩
  · obtain ⟨d, hd, heq⟩ := processTxInfoFrame_eq env c
    rw [heq, hd.agent]
    exact ⟨h.max, Nat.le_trans (Nat.sub_le ..) h.le, h.noTick⟩

theorem creditOk_invariant : TxInvariant env fun a => CreditOk a.timers where
  congr h ha := by
    rw [h.timers]
    exact ⟨ha.max, ha.le, ha.noTick⟩
  act := txAction_credit
  timers {p a b} h ha := by
    cases hmay : maySend p (updateTxTimers a) with
    | true =>
      have hs := runTxTimersSm_served hmay h
      exact ⟨hs.txMaxCredit.trans ha.max, hs.credit_le ha.le, hs.txTick⟩
    | false =>
      cases (runTxTimersSm_of_barred hmay).symm.trans h
      exact ⟨rfl, Nat.le_refl _, rfl⟩
  reinit _ := ⟨rfl, Nat.le_refl _, rfl⟩

theorem creditOk_of_reachable {s : PortState μ}
    (h : (lldpSystem env).Reachable s) : ∀ a ∈ s.agents, CreditOk a.timers :=
  creditOk_invariant.of_reachable h

end Lldpad.Lldp
