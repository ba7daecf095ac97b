import Lldpad.Lldp.Reentry
import Lldpad.Proofs.Lldp.Rx

/-!
# `Lldpad.Proofs.Lldp.Reentry`: the walk over a frame that runs the machines

* `lldpSystem_quiet`: without a hook that makes the call, the system is that of `Agent`.
* `rxProcessFrame_returns`: the walk ends, and it keeps what its own passes and the runs within
  it keep.
-/

namespace Lldpad.Lldp.Reentry

open Lldpad.Lib

variable {μ : Type} {sms : Ctx μ → Except Fault (Ctx μ)}

/-! ### Without a call -/

theorem rchangeAll_quiet (nps : List (LldpModule μ)) :
    ∀ (c : Ctx μ) (tlv : UnpackedTlv) (stored : Bool),
      rchangeAll sms (nps.map fun np => (np, none)) c tlv stored =
        .ok (Lldp.rchangeAll nps c tlv stored) := by
  induction nps with
  | nil => exact fun c tlv stored => rfl
  | cons np nps ih =>
    intro c tlv stored
    rw [List.map_cons, rchangeAll, Lldp.rchangeAll]
    cases np.rchange with
    | none => exact ih c tlv stored
    | some f =>
      dsimp only [raise]
      rw [bind_ok]
      cases (f c.port c.agent.view c.modules tlv).answer with
      | tlvOk => exact ih _ tlv true
      | tlvErr => rfl
      | subtypeInvalid => exact ih _ tlv stored

theorem rxTlv_quiet (env : Env μ) (f : Frame) (s : Ctx μ × RxLocals) :
    rxTlv sms env.quiet.hooks f s = .ok (Lldp.rxTlv env f s) := by
  obtain ⟨c, l⟩ := s
  unfold rxTlv Lldp.rxTlv
  dsimp only
  cases readTlv f (l.tlvCnt + 1) l.tlvOffset with
  | none => rfl
  | some head =>
    have hdead : ¬(head.2 = 0 ∧ (createTlv c.tlvs).1.type ≠ 0) := fun h => h.2 rfl
    dsimp only
    rw [if_neg hdead, if_neg hdead]
    generalize storeTlv f c.agent _ _ = stored
    cases stored with
    | none => rfl
    | some al =>
      dsimp only [Env.quiet]
      rw [rchangeAll_quiet, bind_ok]
      generalize Lldp.rchangeAll env.modules _ _ _ = o
      obtain ⟨d, stored⟩ := o
      cases stored with
      | none => rfl
      | some stored =>
        dsimp only
        split <;> rfl

theorem runRxSm_quiet (env : Env μ) : runRxSm env.quiet = Lldp.runRxSm env := by
  funext c
  have hmachine : ∀ sms : Ctx μ → Except Fault (Ctx μ),
      rxMachine sms env.quiet = Lldp.rxMachine env := by
    intro sms
    have hact : rxAction sms env.quiet = Lldp.rxAction env := by
      funext d
      unfold rxAction Lldp.rxAction
      cases d.agent.rx.state with
      | rxFrame =>
        unfold processRxFrame rxProcessFrame
        rw [show rxTlv sms env.quiet.hooks = fun f s => .ok (Lldp.rxTlv env f s) from
          funext fun f => funext fun s => rxTlv_quiet env f s]
        rfl
      | _ => rfl
    unfold rxMachine
    rw [hact]
    rfl
  exact congrArg (fun m => Machine.run m smFuel c) (hmachine _)

theorem rxReceiveLoop_plain (env : Env μ) (f : Frame) :
    ∀ (as : List LldpAgent) (w : World μ),
      rxReceiveLoop (Lldp.runRxSm env) f w as = Lldp.rxReceiveLoop env f w as := by
  intro as
  induction as with
  | nil => exact fun w => rfl
  | cons a as ih =>
    intro w
    rw [rxReceiveLoop, Lldp.rxReceiveLoop, ih]
    rfl

/-- Without a hook that runs the machines, the system is the one without such a hook. -/
theorem lldpSystem_quiet (env : Env μ) : lldpSystem env.quiet = Lldp.lldpSystem env := by
  have hstep : lldpStep env (Lldp.runRxSm env) = Lldp.lldpStep env := by
    funext s e
    cases e with
    | frame f =>
      show rxReceiveFrame (Lldp.runRxSm env) f s = Lldp.rxReceiveFrame env f s
      unfold rxReceiveFrame Lldp.rxReceiveFrame
      rw [rxReceiveLoop_plain]
    | _ => rfl
  unfold lldpSystem Lldp.lldpSystem
  rw [runRxSm_quiet]
  exact congrArg (System.mk PortState.Fresh) hstep

/-! ### The walk -/

section Walk

variable {P : Ctx μ → Prop} (hkeep : ∀ c d, WalkKeeps c d → P c → P d)
  (hsms : ∀ c, P c → ∃ d, setAgentAdmin sms .enabledRxTx c = .ok d ∧ P d)
include hkeep hsms

theorem raise_returns (x : Option (Raiser μ)) (tlv : UnpackedTlv) (answer : Answer) {c : Ctx μ}
    (hc : P c) : ∃ d answer', raise sms x tlv answer c = .ok (d, answer') ∧ P d := by
  cases x with
  | none => exact ⟨c, answer, rfl, hc⟩
  | some x =>
    rw [raise]
    split
    · obtain ⟨d, hd, hPd⟩ := hsms c hc
      rw [hd, bind_ok]
      exact ⟨_, _, rfl, hkeep _ _ (rchange_walkKeeps d _) hPd⟩
    · exact ⟨c, answer, rfl, hc⟩

theorem rchangeAll_returns (hooks : List (LldpModule μ × Option (Raiser μ))) :
    ∀ (c : Ctx μ) (tlv : UnpackedTlv) (stored : Bool), P c →
      ∃ d o, rchangeAll sms hooks c tlv stored = .ok (d, o) ∧ P d := by
  induction hooks with
  | nil => exact fun c tlv stored hc => ⟨c, some stored, rfl, hc⟩
  | cons hook hooks ih =>
    intro c tlv stored hc
    obtain ⟨np, x⟩ := hook
    rw [rchangeAll]
    cases np.rchange with
    | none => exact ih c tlv stored hc
    | some f =>
      have hr := hkeep _ _ (rchange_walkKeeps c (f c.port c.agent.view c.modules tlv)) hc
      obtain ⟨d, answer, hd, hPd⟩ := raise_returns hkeep hsms x tlv
        (f c.port c.agent.view c.modules tlv).answer hr
      dsimp only
      rw [hd, bind_ok]
      cases answer with
      | tlvOk => exact ih d tlv true hPd
      | tlvErr => exact ⟨d, none, rfl, hPd⟩
      | subtypeInvalid => exact ih d tlv stored hPd

/-- A pass returns. It leaves the walk, or goes on behind the TLV. -/
theorem rxTlv_returns (hooks : List (LldpModule μ × Option (Raiser μ))) (f : Frame) {c : Ctx μ}
    (l : RxLocals) (hc : P c) :
    (∃ r, rxTlv sms hooks f (c, l) = .ok (.leave r) ∧ P r.1) ∨
      ∃ s, rxTlv sms hooks f (c, l) = .ok (.again s) ∧ P s.1 ∧
        f.size + 1 - s.2.tlvOffset < f.size + 1 - l.tlvOffset := by
  unfold rxTlv
  dsimp only
  cases hread : readTlv f (l.tlvCnt + 1) l.tlvOffset with
  | none => exact .inl ⟨(c, true), rfl, hc⟩
  | some head =>
    have hdead : ¬(head.2 = 0 ∧ (createTlv c.tlvs).1.type ≠ 0) := fun h => h.2 rfl
    dsimp only
    rw [if_neg hdead]
    cases hstore : storeTlv f c.agent (l.advance head) (newTlv f c l head) with
    | none =>
      have hstore' := hstore
      simp only [RxLocals.advance, newTlv] at hstore'
      simp only [createTlv, hstore']
      exact .inl ⟨_, rfl, hkeep c _ ⟨rfl, rfl, rfl, rfl, rfl, rfl, rfl, rfl, rfl⟩ hc⟩
    | some al =>
      obtain ⟨a, l'⟩ := al
      have hstored : P (c.withNewTlv a) := hkeep _ _ (storeTlv_walkKeeps hstore) hc
      have hoffset := (storeTlv_locals hstore).2.1
      obtain ⟨d, o, hd, hPd⟩ := rchangeAll_returns hkeep hsms hooks (c.withNewTlv a)
        (newTlv f c l head) l'.tlvStored hstored
      have hstore' := hstore
      have hd' := hd
      simp only [RxLocals.advance, newTlv] at hstore'
      simp only [Ctx.withNewTlv, newTlv] at hd'
      simp only [createTlv, hstore', hd', bind_ok]
      cases o with
      | none => exact .inl ⟨_, rfl, hkeep _ _ (freeTlv_walkKeeps d (newTlv f c l head)) hPd⟩
      | some stored =>
        have hdrop := hkeep _ _ (dropUnstored_walkKeeps d (newTlv f c l head) stored) hPd
        by_cases hend : head.1 = 0
        · exact .inl ⟨_, by simp only [hend, ne_eq, not_true_eq_false, if_false]; rfl, by
            simpa only [newTlv, hend] using hdrop⟩
        · refine .inr ⟨_, by simp only [ne_eq, hend, not_false_eq_true, if_true]; rfl, hdrop, ?_⟩
          have hle := readTlv_le hread
          dsimp only [RxLocals.advance] at hoffset ⊢
          omega

/-- The walk over a stored frame ends, and a run within it ends. -/
theorem rxProcessFrame_returns (env : RaisingEnv μ) {f : Frame} {c : Ctx μ}
    (hf : c.agent.rx.framein = some f) (hsize : f.size ≠ 0)
    (hbegin : P { c with agent := beginFrame c.agent }) :
    ∃ r, rxProcessFrame sms env c = .ok (endFrame f r) ∧ P r.1 := by
  obtain ⟨r, hr⟩ := iterate_total (I := fun s : Ctx μ × RxLocals => P s.1) (fun s => f.size + 1 - s.2.tlvOffset) (by
      rintro ⟨d, l⟩ hd
      rcases rxTlv_returns hkeep hsms env.hooks f l hd with ⟨r, hr, -⟩ | ⟨s, hs, hPs, hlt⟩
      · exact .inl ⟨r, hr⟩
      · exact .inr ⟨s, hs, hPs, hlt⟩) (tlvFuel f) ({ c with agent := beginFrame c.agent }, {})
    hbegin (by unfold tlvFuel; omega)
  refine ⟨r, ?_, ?_⟩
  · rw [rxProcessFrame, hf]
    have hassert : assert (f.size ≠ 0) = .ok () := assert_eq_ok.mpr (decide_eq_true hsize)
    dsimp only
    rw [hassert, bind_ok, hr]
    rfl
  · refine iterate_induction (I := fun s : Ctx μ × RxLocals => P s.1)
      (Q := fun r : Ctx μ × Bool => P r.1) ?_ ?_ _ _ r hbegin hr
    · rintro ⟨d, l⟩ s hd hs
      rcases rxTlv_returns hkeep hsms env.hooks f l hd with ⟨r, hr, -⟩ | ⟨t, ht, hPt, -⟩
      · cases hr.symm.trans hs
      · cases ht.symm.trans hs
        exact hPt
    · rintro ⟨d, l⟩ r hd hr
      rcases rxTlv_returns hkeep hsms env.hooks f l hd with ⟨r', hr', hPr⟩ | ⟨t, ht, -⟩
      · cases hr'.symm.trans hr
        exact hPr
      · cases ht.symm.trans hr

end Walk

end Lldpad.Lldp.Reentry
