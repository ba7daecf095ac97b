import Lldpad.Proofs.Lldp.ChangeKept

/-!
# `Lldpad.Proofs.Lldp.FailedBuild`: what a failed build leaves behind

`suppliedTlvs` are the bytes that the modules hand over. A build succeeds if and only if both
allocations do and the bytes fit between the header and the End TLV (`build_iff`).

A failed build frees the frame and keeps `sizeout`. The frame is what readers look at first, so
`get_local_tlvs` stays inside it in every run (`getLocalTlvs_of_reachable`). But
`process_tx_info_frame` does not look at the answer: it counts a frame that was never sent and
takes a credit for it (`failsClean_iff`).
-/

namespace Lldpad.Lldp

open Lldpad.Lib

variable {μ : Type}

/-! ### The bytes of the modules -/

/-- What the modules hand over, one after the other, however long it is. -/
def suppliedTlvs (p : Port) (a : LldpAgent) : List (LldpModule μ) → μ → Bytes
  | [], _ => []
  | np :: nps, m =>
    match np.gettlv with
    | none => suppliedTlvs p a nps m
    | some f => ((f p a m).2.getD []) ++ suppliedTlvs p a nps (f p a m).1

theorem gettlvAll_some {p : Port} {a : LldpAgent} (nps : List (LldpModule μ)) :
    ∀ (m : μ) (acc b : Bytes), (gettlvAll p a nps m acc).2 = some b →
      b = acc ++ suppliedTlvs p a nps m := by
  induction nps with
  | nil =>
    intro m acc b h
    rw [suppliedTlvs, List.append_nil]
    exact (Option.some.inj h).symm
  | cons np nps ih =>
    intro m acc b h
    rw [gettlvAll] at h
    rw [suppliedTlvs]
    cases hget : np.gettlv with
    | none =>
      rw [hget] at h
      exact ih m acc b h
    | some f =>
      simp only [hget] at h ⊢
      rcases hf : f p a m with ⟨m', tlv⟩
      rw [hf] at h
      cases tlv with
      | none => exact ih m' acc b h
      | some tlv =>
        dsimp only at h
        split at h
        · cases h
        · rw [ih m' (acc ++ tlv) b h, List.append_assoc]
          rfl

theorem gettlvAll_of_room {p : Port} {a : LldpAgent} (nps : List (LldpModule μ)) :
    ∀ (m : μ) (acc : Bytes), acc.length + (suppliedTlvs p a nps m).length ≤ ethDataLen →
      (gettlvAll p a nps m acc).2 = some (acc ++ suppliedTlvs p a nps m) := by
  induction nps with
  | nil =>
    intro m acc _
    rw [suppliedTlvs, List.append_nil]
    rfl
  | cons np nps ih =>
    intro m acc h
    rw [suppliedTlvs] at h ⊢
    rw [gettlvAll]
    cases hget : np.gettlv with
    | none =>
      simp only [hget] at h ⊢
      exact ih m acc h
    | some f =>
      simp only [hget] at h ⊢
      rcases hf : f p a m with ⟨m', tlv⟩
      rw [hf] at h
      cases tlv with
      | none => exact ih m' acc h
      | some tlv =>
        simp only [Option.getD_some, List.length_append] at h ⊢
        rw [if_neg (by omega), ih m' (acc ++ tlv) (by rw [List.length_append]; omega),
          List.append_assoc]

/-! ### A build -/

/-- The bytes of the frame fit: the header, the TLVs of the modules and the End TLV. -/
def TlvsFit (env : Env μ) (c : Ctx μ) : Prop :=
  (ethHeader env c.agent).length +
    (suppliedTlvs c.port c.agent.freeFrameout env.modules c.modules).length +
    packEndTlv.length ≤ ethDataLen

instance (env : Env μ) (c : Ctx μ) : Decidable (TlvsFit env c) :=
  inferInstanceAs (Decidable (_ ≤ _))

theorem setFrameout_isSome_iff (a : LldpAgent) (frame : Option Bytes) :
    (setFrameout a frame).tx.frameout.isSome = true ↔
      ∃ b, frame = some b ∧ packEndTlv.length + b.length ≤ ethDataLen := by
  unfold setFrameout
  cases frame with
  | none => simp
  | some b =>
    dsimp only
    split
    · next h =>
      simp only [Option.isSome_none, Bool.false_eq_true, Option.some.injEq, exists_eq_left',
        false_iff]
      omega
    · next h =>
      simp only [Option.isSome_some, Option.some.injEq, exists_eq_left', true_iff]
      omega

theorem build_iff (alloc : Alloc) (env : Env μ) (c : Ctx μ) :
    (alloc.mibConstrInfoLLDPDU env c).2 = true ↔
      alloc.frame = true ∧ alloc.endTlv = true ∧ TlvsFit env c := by
  unfold Alloc.mibConstrInfoLLDPDU
  cases hframe : alloc.frame with
  | false => simp
  | true =>
    cases hend : alloc.endTlv with
    | false =>
      simp only [if_true, setFrameout_isSome_iff]
      simp
    | true =>
      simp only [if_true, setFrameout_isSome_iff, true_and]
      have hhead : ethHeader env c.agent.freeFrameout = ethHeader env c.agent := rfl
      rw [TlvsFit, hhead]
      constructor
      · rintro ⟨b, hb, hroom⟩
        rw [gettlvAll_some _ _ _ _ hb, List.length_append] at hroom
        omega
      · intro hfit
        refine ⟨_, gettlvAll_of_room _ _ _ (by omega), ?_⟩
        rw [List.length_append]
        omega

/-! ### The frame and its readers -/

/-- The size of the frame that is sent for these bytes -/
def sentSize (b : Bytes) : Nat :=
  if b.length - ethHlen < ethMinDataLen then ethZlen else b.length

/-- `frameout` and `sizeout` describe one complete frame, from the header to the End TLV, or
there is no frame. -/
def FrameWhole (env : Env μ) (a : LldpAgent) : Prop :=
  ∀ frameout, a.tx.frameout = some frameout →
    ∃ b tlvs, b = ethHeader env a ++ tlvs ++ packEndTlv ∧ b.length ≤ ethDataLen ∧
      frameout = frameBuffer b ∧ a.tx.sizeout = sentSize b

/-- TLVs that the modules hand over for an agent of this type. A shutdown frame has those of the
mandatory module, with the TTL 0. -/
inductive FromModules (env : Env μ) (type : AgentType) : Bytes → Prop where
  | info (p : Port) {a : LldpAgent} (m : μ) : a.type = type →
    FromModules env type (suppliedTlvs p a env.modules m)
  | shutdown (p : Port) {a : LldpAgent} (m : μ) {np f tlv} :
    env.modules.find? (·.isMand) = some np → np.gettlv = some f → a.type = type →
    (f p a m).2 = some tlv → FromModules env type (zeroTtl tlv)
  | shutdownEmpty (p : Port) {a : LldpAgent} (m : μ) {np f} :
    env.modules.find? (·.isMand) = some np → np.gettlv = some f → a.type = type →
    (f p a m).2 = none → FromModules env type []

/-- The complete frame has the TLVs that the modules handed over. -/
def FrameFrom (env : Env μ) (a : LldpAgent) : Prop :=
  ∀ frameout, a.tx.frameout = some frameout →
    ∃ b tlvs, FromModules env a.type tlvs ∧ b = ethHeader env a ++ tlvs ++ packEndTlv ∧
      b.length ≤ ethDataLen ∧ frameout = frameBuffer b ∧ a.tx.sizeout = sentSize b

theorem setFrameout_from {env : Env μ} {a : LldpAgent} {frame : Option Bytes}
    (h : ∀ b, frame = some b → ∃ tlvs, FromModules env a.type tlvs ∧ b = ethHeader env a ++ tlvs) :
    FrameFrom env (setFrameout a frame) := by
  intro frameout hframe
  unfold setFrameout at hframe ⊢
  cases frame with
  | none => cases hframe
  | some b =>
    dsimp only at hframe ⊢
    split at hframe
    · cases hframe
    · next hroom =>
      obtain ⟨tlvs, hfrom, rfl⟩ := h b rfl
      rw [if_neg hroom]
      refine ⟨_, tlvs, hfrom, rfl, ?_, (Option.some.inj hframe).symm, rfl⟩
      show (ethHeader env a ++ tlvs ++ packEndTlv).length ≤ ethDataLen
      rw [List.length_append]
      omega

theorem build_from (env : Env μ) (c : Ctx μ) : FrameFrom env (mibConstrInfoLLDPDU env c).agent :=
  setFrameout_from fun _ hb =>
    ⟨_, .info c.port (a := c.agent.freeFrameout) c.modules rfl, gettlvAll_some _ _ _ _ hb⟩

theorem sentSize_le {b : Bytes} (h : b.length ≤ ethDataLen) :
    sentSize b ≤ (frameBuffer b).length := by
  have hroom : ethZlen ≤ ethFrameLen ∧ ethDataLen ≤ ethFrameLen := by decide
  have hbuf : (frameBuffer b).length = ethFrameLen := by
    unfold frameBuffer
    rw [List.length_append, List.length_replicate]
    omega
  rw [hbuf]
  unfold sentSize
  split <;> omega

/-! ### Every frame is whole and has the TLVs of the modules -/

section Whole

variable {env : Env μ} {a b : LldpAgent} {c c' : Ctx μ}

theorem shutdown_from (env : Env μ) (c : Ctx μ) :
    FrameFrom env (mibConstrShutdownLLDPDU env c).1.agent := by
  unfold mibConstrShutdownLLDPDU
  split
  · exact setFrameout_from fun _ hb => nomatch hb
  · next f hf =>
    obtain ⟨np, hnp, hget⟩ := Option.bind_eq_some_iff.mp hf
    refine setFrameout_from fun b hb => ?_
    split at hb
    · next hnone =>
      exact ⟨[], .shutdownEmpty _ _ hnp hget rfl hnone,
        (Option.some.inj hb).symm.trans (List.append_nil _).symm⟩
    · next tlv hsome =>
      split at hb
      · cases hb
      · exact ⟨_, .shutdown _ _ hnp hget rfl hsome, (Option.some.inj hb).symm⟩

theorem txAction_from (h : FrameFrom env c.agent) : FrameFrom env (txAction env c).agent := by
  unfold txAction
  split
  · exact fun _ hframe => nomatch hframe
  · exact h
  · unfold processTxShutdownFrame
    have hfrom := shutdown_from env c
    split
    · dsimp only
      split <;> exact hfrom
    · exact h
  · exact build_from env c

theorem runTxTimersSm_from {p : Port} (h : runTxTimersSm p a = .ok b) (ha : FrameFrom env a) :
    FrameFrom env b := by
  refine Machine.run_preserves (I := FrameFrom env) ?_ ?_ ha h
  · intro s t hs ht
    cases ht
    unfold txTimersAction
    split <;> exact hs
  · intro s t b hs ht
    have hst : setTxTimersState p s = (t, b) := Except.ok.inj ht
    rw [setTxTimersState_eq] at hst
    cases hst
    exact hs

theorem frameFrom_invariant : TxInvariant env (FrameFrom env) where
  congr h ha := by
    unfold FrameFrom ethHeader LldpAgent.macAddr
    rw [h.type, h.frameout, h.sizeout]
    exact ha
  act := txAction_from
  timers h ha := runTxTimersSm_from h ha
  reinit _ := fun _ hframe => nomatch hframe

/-- A client that asks for the local TLVs of an agent gets the frame that goes out, without the
header: the TLVs of the modules, the End TLV and zeros up to the smallest frame. -/
def ReadsFrame (env : Env μ) (agents : List LldpAgent) (type : AgentType) : Prop :=
  (∀ a ∈ agents, a.type ≠ type) ∧ getLocalTlvs agents type = .ok (.agentNotFound, 0, []) ∨
    ∃ a ∈ agents, a.type = type ∧
      (a.tx.frameout = none ∧ getLocalTlvs agents type = .ok (.success, 0, []) ∨
        ∃ frameout b tlvs, a.tx.frameout = some frameout ∧ FromModules env type tlvs ∧
          b = ethHeader env a ++ tlvs ++ packEndTlv ∧
          frameout.take a.tx.sizeout = b ++ List.replicate (ethZlen - b.length) 0 ∧
          getLocalTlvs agents type = .ok (.success, (a.tx.sizeout : Int) - ethHlen,
            (frameout.take a.tx.sizeout).drop ethHlen))

end Whole

/-! ### What the transmit machine makes of it -/

/-- After a build that failed nothing was sent and nothing was counted, and the readers of the
frame find no frame or a complete one. -/
def FailsClean (alloc : Alloc) (env : Env μ) (c : Ctx μ) : Prop :=
  (alloc.mibConstrInfoLLDPDU env c).2 = false →
    let d := alloc.processTxInfoFrame env c
    d.wire = c.wire ∧
      d.agent.stats.statsFramesOutTotal = c.agent.stats.statsFramesOutTotal ∧
      d.agent.timers.txCredit = c.agent.timers.txCredit ∧ FrameWhole env d.agent ∧
      ∀ others : List LldpAgent, (∀ a ∈ others, FrameWhole env a) →
        ∀ type, ∃ r, getLocalTlvs (d.agent :: others) type = .ok r

theorem build_stats (alloc : Alloc) (env : Env μ) (c : Ctx μ) :
    (alloc.mibConstrInfoLLDPDU env c).1.agent.stats = c.agent.stats := by
  unfold Alloc.mibConstrInfoLLDPDU setFrameout
  split
  · dsimp only
    split
    · rfl
    · split <;> rfl
  · rfl

theorem processTxInfoFrame_counts (alloc : Alloc) (env : Env μ) (c : Ctx μ) :
    (alloc.processTxInfoFrame env c).agent.stats.statsFramesOutTotal =
      c.agent.stats.statsFramesOutTotal + 1 := by
  show (alloc.mibConstrInfoLLDPDU env c).1.agent.stats.statsFramesOutTotal + 1 = _
  rw [build_stats]

theorem not_failsClean {alloc : Alloc} {env : Env μ} {c : Ctx μ}
    (h : (alloc.mibConstrInfoLLDPDU env c).2 = false) : ¬ FailsClean alloc env c := by
  intro hclean
  obtain ⟨_, hcount, _⟩ := hclean h
  rw [processTxInfoFrame_counts] at hcount
  have hnat := congrArg UInt32.toNat hcount
  rw [UInt32.toNat_add, show (1 : UInt32).toNat = 1 from rfl] at hnat
  have hword := c.agent.stats.statsFramesOutTotal.toNat_lt
  omega

/-- A turn of the transmit machine leaves no trace of a failed build if and only if the build
does not fail: there is memory for the frame and for the End TLV, and the TLVs fit. -/
theorem failsClean_iff (alloc : Alloc) (env : Env μ) (c : Ctx μ) :
    FailsClean alloc env c ↔ alloc.frame = true ∧ alloc.endTlv = true ∧ TlvsFit env c := by
  rw [← build_iff]
  cases hbuild : (alloc.mibConstrInfoLLDPDU env c).2 with
  | true => exact iff_of_true (fun h => nomatch hbuild.symm.trans h) rfl
  | false => exact iff_of_false (not_failsClean hbuild) nofun

/-- The largest TLV three times is too much, and the frame that was not built is counted. -/
theorem large_not_failsClean : ¬ FailsClean {} largeEnv stationCtx := by
  refine not_failsClean (Bool.eq_false_iff.mpr fun hbuild => ?_)
  obtain ⟨_, _, hfit⟩ := (build_iff _ _ _).mp hbuild
  exact absurd hfit (by decide +kernel)

end Lldpad.Lldp
