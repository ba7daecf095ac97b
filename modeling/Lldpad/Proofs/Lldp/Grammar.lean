import Lldpad.Proofs.Lldp.Ownership

/-!
# `Lldpad.Proofs.Lldp.Grammar`: the frames that `rxProcessFrame` accepts

`WellFormed` is the grammar of an LLDPDU. `Accepted` is what the loop checks, and
`outcome_error_iff` says that a frame is accepted if and only if it passes these checks.

They are not the grammar. The type of an empty TLV is compared before it is filled in, so the
exit for empty TLVs is dead. And the bound on a TLV leaves the two bytes of its header out.
`parsesStrictly_iff` says that nothing else is missing.
-/

namespace Lldpad.Lldp

open Lldpad.Lib

variable {μ : Type}

/-! ### The modules take TLVs -/

/-- The modules are offered TLV `n`. `none` stands for a rejection. -/
def takeTlv (env : Env μ) (p : Port) (f : Frame) (n ref : Nat) (o : Offer μ) :
    Option (Offer μ) :=
  match offerAll p env.modules (o.mark (f.tlvType n)) (f.tlv n ref) (coreType (f.tlvType n)) with
  | (o', some _) => some o'
  | (_, none) => none

/-- The modules are offered `k` TLVs from TLV `n` on. -/
def takeTlvs (env : Env μ) (p : Port) (f : Frame) : Nat → Nat → Nat → Offer μ → Option (Offer μ)
  | 0, _, _, o => some o
  | k + 1, n, ref, o => (takeTlv env p f n ref o).bind (takeTlvs env p f k (n + 1) (ref + 1))

/-! ### The checks of the loop -/

/-- The loop takes the TLVs from `n` to `n + k`, and the last one is the End TLV. -/
structure Accepted (env : Env μ) (p : Port) (f : Frame) (n ref : Nat) (o : Offer μ) (k : Nat) :
    Prop where
  valid : ∀ i ≤ k, f.valid (n + i) = true
  isEnd : f.tlvType (n + k) = 0
  notEnd : ∀ i < k, f.tlvType (n + i) ≠ 0
  taken : (takeTlvs env p f (k + 1) n ref o).isSome = true

section

variable {env : Env μ} {p : Port} {f : Frame} {n ref : Nat} {o o' : Offer μ}

theorem Accepted.head {k : Nat} (h : Accepted env p f n ref o k) :
    f.valid n = true ∧ ∃ o', takeTlv env p f n ref o = some o' := by
  refine ⟨h.valid 0 (Nat.zero_le k), ?_⟩
  have htaken := h.taken
  rw [takeTlvs] at htaken
  cases htake : takeTlv env p f n ref o with
  | none =>
    rw [htake] at htaken
    exact nomatch htaken
  | some o' => exact ⟨o', rfl⟩

theorem accepted_of_end (hvalid : f.valid n = true) (htake : takeTlv env p f n ref o = some o')
    (hend : f.tlvType n = 0) : Accepted env p f n ref o 0 where
  valid := by
    intro i hi
    rw [Nat.le_zero.mp hi]
    exact hvalid
  isEnd := hend
  notEnd := nofun
  taken := by
    rw [takeTlvs, htake]
    rfl

/-- The End TLV comes later. -/
theorem accepted_succ_iff {k : Nat} (hvalid : f.valid n = true)
    (htake : takeTlv env p f n ref o = some o') (hmore : f.tlvType n ≠ 0) :
    Accepted env p f n ref o (k + 1) ↔ Accepted env p f (n + 1) (ref + 1) o' k := by
  have hshift : ∀ i, n + (i + 1) = n + 1 + i := by
    intro i
    omega
  have htakes : takeTlvs env p f (k + 2) n ref o =
      takeTlvs env p f (k + 1) (n + 1) (ref + 1) o' := by
    rw [takeTlvs, htake]
    rfl
  constructor
  · intro h
    refine ⟨?_, ?_, ?_, ?_⟩
    · intro i hi
      rw [← hshift]
      exact h.valid (i + 1) (by omega)
    · rw [← hshift]
      exact h.isEnd
    · intro i hi
      rw [← hshift]
      exact h.notEnd (i + 1) (by omega)
    · rw [← htakes]
      exact h.taken
  · intro h
    refine ⟨?_, ?_, ?_, ?_⟩
    · intro i hi
      cases i with
      | zero => exact hvalid
      | succ i =>
        rw [hshift]
        exact h.valid i (by omega)
    · rw [hshift]
      exact h.isEnd
    · intro i hi
      cases i with
      | zero => exact hmore
      | succ i =>
        rw [hshift]
        exact h.notEnd i (by omega)
    · rw [htakes]
      exact h.taken

/-- The replay ends without error if and only if the TLVs are accepted. The induction is on the
TLVs. -/
theorem replay_error_iff (env : Env μ) (p : Port) (f : Frame) (fuel : Nat) :
    ∀ (n ref : Nat) (o : Offer μ), (replay env p f fuel n ref o).error = false ↔
      ∃ k < fuel, Accepted env p f n ref o k := by
  induction fuel with
  | zero =>
    intro n ref o
    exact iff_of_false nofun (fun ⟨_, hk, _⟩ => absurd hk (Nat.not_lt_zero _))
  | succ fuel ih =>
    intro n ref o
    cases hvalid : f.valid n with
    | false =>
      rw [replay_invalid hvalid]
      refine iff_of_false nofun ?_
      rintro ⟨k, _, h⟩
      exact nomatch hvalid.symm.trans h.head.1
    | true =>
      rcases hoffer : offerAll p env.modules (o.mark (f.tlvType n)) (f.tlv n ref)
        (coreType (f.tlvType n)) with ⟨o', _ | stored⟩
      · -- a module rejects the TLV
        rw [replay_rejected hvalid hoffer]
        refine iff_of_false nofun ?_
        rintro ⟨k, _, h⟩
        obtain ⟨_, o'', htake⟩ := h.head
        rw [takeTlv, hoffer] at htake
        exact nomatch htake
      · have htake : takeTlv env p f n ref o = some o' := by
          rw [takeTlv, hoffer]
        rw [replay_taken hvalid hoffer]
        by_cases hend : f.tlvType n = 0
        · rw [if_pos hend]
          exact iff_of_true rfl ⟨0, Nat.succ_pos fuel, accepted_of_end hvalid htake hend⟩
        · rw [if_neg hend, Outcome.cons_error, ih]
          constructor
          · rintro ⟨k, hk, h⟩
            exact ⟨k + 1, by omega, (accepted_succ_iff hvalid htake hend).mpr h⟩
          · rintro ⟨k, hk, h⟩
            cases k with
            | zero => exact absurd h.isEnd hend
            | succ k => exact ⟨k, by omega, (accepted_succ_iff hvalid htake hend).mp h⟩

end

/-! ### A frame from its first TLV on -/

theorem offsetOf_ge (f : Frame) (n : Nat) : 2 * n ≤ f.offsetOf n := by
  induction n with
  | zero => exact Nat.zero_le _
  | succ n ih =>
    rw [Frame.offsetOf]
    omega

theorem offsetOf_le_of_valid {f : Frame} {n : Nat} (h : f.valid n = true) :
    f.offsetOf n ≤ f.size := by
  obtain ⟨head, hread⟩ := Option.isSome_iff_exists.mp h
  exact readTlv_le hread

/-- The loop takes the frame up to TLV `n`, which is the End TLV. -/
def AcceptedUpTo (env : Env μ) (c : Ctx μ) (f : Frame) (n : Nat) : Prop :=
  Accepted env c.port f 0 c.tlvs.created c.offer n

theorem outcome_error_iff (env : Env μ) (c : Ctx μ) (f : Frame) :
    (c.outcome env f).error = false ↔ ∃ n, AcceptedUpTo env c f n := by
  rw [Ctx.outcome, replay_error_iff]
  constructor
  · rintro ⟨n, _, h⟩
    exact ⟨n, h⟩
  · rintro ⟨n, h⟩
    have hvalid := h.valid n (Nat.le_refl n)
    rw [Nat.zero_add] at hvalid
    have hge := offsetOf_ge f n
    have hle := offsetOf_le_of_valid hvalid
    exact ⟨n, by unfold tlvFuel; omega, h⟩

theorem acceptedUpTo_unique {env : Env μ} {c : Ctx μ} {f : Frame} {n m : Nat}
    (hn : AcceptedUpTo env c f n) (hm : AcceptedUpTo env c f m) : n = m := by
  rcases Nat.lt_trichotomy n m with hlt | heq | hlt
  · exact absurd hn.isEnd (hm.notEnd n hlt)
  · exact heq
  · exact absurd hm.isEnd (hn.notEnd m hlt)

/-! ### The grammar -/

/-- The frame is an LLDPDU whose End TLV is TLV `n`, and no module rejects one of its TLVs. -/
structure LldpduUpTo (env : Env μ) (c : Ctx μ) (f : Frame) (n : Nat) : Prop where
  chassis : f.tlvType 0 = 1
  port : f.tlvType 1 = 2
  ttl : f.tlvType 2 = 3
  ttlLength : f.tlvLength 2 = 2
  once : ∀ k ≤ n, 3 ≤ k → f.tlvType k ≠ 1 ∧ f.tlvType k ≠ 2 ∧ f.tlvType k ≠ 3
  inside : ∀ k ≤ n, f.offsetOf k + 2 + f.tlvLength k ≤ f.size
  nonempty : ∀ k < n, f.tlvLength k ≠ 0
  isEnd : f.tlvType n = 0
  notEnd : ∀ k < n, f.tlvType k ≠ 0
  taken : (takeTlvs env c.port f (n + 1) 0 c.tlvs.created c.offer).isSome = true

/-- A well-formed LLDPDU -/
def WellFormed (env : Env μ) (c : Ctx μ) (f : Frame) : Prop := ∃ n, LldpduUpTo env c f n

/-- What the loop leaves out: every TLV lies inside the frame with its header, and none is empty
but the End TLV. -/
structure SoundTlvs (f : Frame) (n : Nat) : Prop where
  inside : ∀ k ≤ n, f.offsetOf k + 2 + f.tlvLength k ≤ f.size
  nonempty : ∀ k < n, f.tlvLength k ≠ 0

theorem LldpduUpTo.valid {env : Env μ} {c : Ctx μ} {f : Frame} {n k : Nat}
    (h : LldpduUpTo env c f n) (hk : k ≤ n) : f.valid k = true := by
  have hinside : f.offsetOf k + 2 + f.word (f.offsetOf k) % 512 ≤ f.size := h.inside k hk
  -- The TTL is TLV 2, whose length is checked.
  have hlength : f.word (f.offsetOf k) / 512 = 3 → f.word (f.offsetOf k) % 512 = 2 := by
    intro htype
    rcases Nat.lt_or_ge k 3 with hlt | hge
    · obtain rfl | rfl | rfl : k = 0 ∨ k = 1 ∨ k = 2 := by omega
      · exact absurd (htype.symm.trans h.chassis) (by decide)
      · exact absurd (htype.symm.trans h.port) (by decide)
      · exact h.ttlLength
    · exact absurd htype (h.once k hk hge).2.2
  have hfirst : k + 1 ≤ 3 → k + 1 = f.word (f.offsetOf k) / 512 := by
    intro hlt
    obtain rfl | rfl | rfl : k = 0 ∨ k = 1 ∨ k = 2 := by omega
    · exact h.chassis.symm
    · exact h.port.symm
    · exact h.ttl.symm
  unfold Frame.valid readTlv
  rw [if_neg (by omega), if_neg (fun hbad => hbad.2 (hfirst hbad.1)), if_neg ?later, if_neg ?ttl,
    if_neg (by omega)]
  · rfl
  case later =>
    rintro ⟨hgt, hbad⟩
    have honce := h.once k hk (by omega)
    exact hbad.elim honce.1 (Or.rec honce.2.1 honce.2.2)
  case ttl =>
    rintro ⟨htype, hbad⟩
    exact hbad (hlength htype)

/-- An LLDPDU is a frame that the loop takes and whose TLVs are sound. -/
theorem lldpduUpTo_iff {env : Env μ} {c : Ctx μ} {f : Frame} {n : Nat} :
    LldpduUpTo env c f n ↔ AcceptedUpTo env c f n ∧ SoundTlvs f n := by
  constructor
  · intro h
    refine ⟨⟨?_, ?_, ?_, h.taken⟩, h.inside, h.nonempty⟩
    · intro k hk
      rw [Nat.zero_add]
      exact h.valid hk
    · rw [Nat.zero_add]
      exact h.isEnd
    · intro k hk
      rw [Nat.zero_add]
      exact h.notEnd k hk
  · rintro ⟨h, hsound⟩
    have hread : ∀ k ≤ n, ∃ head, readTlv f (k + 1) (f.offsetOf k) = some head ∧
        head.1 = f.tlvType k := by
      intro k hk
      have hvalid := h.valid k hk
      rw [Nat.zero_add] at hvalid
      obtain ⟨head, hhead⟩ := Option.isSome_iff_exists.mp hvalid
      exact ⟨head, hhead, congrArg Prod.fst (readTlv_eq_some hhead)⟩
    have hfirst : ∀ k ≤ n, k < 3 → f.tlvType k = k + 1 := by
      intro k hk hlt
      obtain ⟨head, hhead, htype⟩ := hread k hk
      rw [← htype]
      exact (readTlv_type hhead).1 hlt
    have hend : f.tlvType n = 0 := by
      have hend := h.isEnd
      rwa [Nat.zero_add] at hend
    -- The first three TLVs are not the End TLV.
    have hthree : 3 ≤ n := by
      by_contra hlt
      have htype := hfirst n (Nat.le_refl n) (by omega)
      omega
    refine
      { chassis := hfirst 0 (by omega) (by omega)
        port := hfirst 1 (by omega) (by omega)
        ttl := hfirst 2 (by omega) (by omega)
        ttlLength := ?_
        once := ?_
        inside := hsound.inside
        nonempty := hsound.nonempty
        isEnd := hend
        notEnd := ?_
        taken := h.taken }
    · obtain ⟨head, hhead, htype⟩ := hread 2 (by omega)
      have hthird : f.tlvType 2 = 3 := hfirst 2 (by omega) (by omega)
      unfold readTlv at hhead
      dsimp only at hhead
      split_ifs at hhead with _ _ _ hlen _
      by_contra hne
      exact hlen ⟨hthird, hne⟩
    · intro k hk hge
      obtain ⟨head, hhead, htype⟩ := hread k hk
      rw [← htype]
      exact (readTlv_type hhead).2 (by omega)
    · intro k hk
      have hne := h.notEnd k hk
      rwa [Nat.zero_add] at hne

/-! ### Frame errors -/

/-- Processing a frame from `c` to `d` recorded no error. -/
def NoFrameError (c d : Ctx μ) : Prop :=
  d.agent.stats.statsFramesDiscardedTotal = c.agent.stats.statsFramesDiscardedTotal ∧
    d.agent.stats.statsFramesInErrorsTotal = c.agent.stats.statsFramesInErrorsTotal ∧
    d.agent.rx.badFrame = c.agent.rx.badFrame

/-- Processing a frame from `c` to `d` recorded an error. -/
def FrameErrorCounted (c d : Ctx μ) : Prop :=
  d.agent.stats.statsFramesDiscardedTotal = c.agent.stats.statsFramesDiscardedTotal + 1 ∧
    d.agent.stats.statsFramesInErrorsTotal = c.agent.stats.statsFramesInErrorsTotal + 1 ∧
    d.agent.rx.badFrame = true

theorem rxProcessFrame_badFrame {env : Env μ} {c c' : Ctx μ} {f : Frame}
    (hf : c.agent.rx.framein = some f) (h : rxProcessFrame env c = .ok c') :
    c'.agent.rx.badFrame = ((c.outcome env f).error || c.agent.rx.badFrame) := by
  obtain ⟨r, hwalk, hw, rfl⟩ := rxProcessFrame_walked hf h
  have herror : r.2 = (c.outcome env f).error := hw.error
  have hbad : r.1.agent.rx.badFrame = c.agent.rx.badFrame := by
    rw [(walk_keeps hwalk).rx]
    rfl
  rw [endFrame, clearManifest_agent, ← herror, ← hbad]
  cases r.2 <;> rfl

theorem rxProcessFrame_counts (env : Env μ) {c : Ctx μ} {f : Frame}
    (hf : c.agent.rx.framein = some f) (hsize : f.size ≠ 0) :
    ∃ c', rxProcessFrame env c = .ok c' ∧
      if (c.outcome env f).error then FrameErrorCounted c c' else NoFrameError c c' := by
  obtain ⟨c', h⟩ := rxProcessFrame_total env hf hsize
  have hspec := rxProcessFrame_spec hf h
  have hbad := rxProcessFrame_badFrame hf h
  refine ⟨c', h, ?_⟩
  cases herror : (c.outcome env f).error with
  | true =>
    rw [herror] at hbad
    have hdiscarded := hspec.discarded
    have herrors := hspec.inErrors
    rw [herror] at hdiscarded herrors
    exact ⟨hdiscarded, herrors, hbad⟩
  | false =>
    rw [herror] at hbad
    have hdiscarded := hspec.discarded
    have herrors := hspec.inErrors
    rw [herror] at hdiscarded herrors
    exact ⟨hdiscarded.trans (UInt32.add_zero _), herrors.trans (UInt32.add_zero _), hbad⟩

theorem not_counted_of_noError {c d : Ctx μ} (h : NoFrameError c d) : ¬ FrameErrorCounted c d := by
  intro hcounted
  have hnat := congrArg UInt32.toNat (h.1.symm.trans hcounted.1)
  have hword := c.agent.stats.statsFramesDiscardedTotal.toNat_lt
  rw [UInt32.toNat_add, show (1 : UInt32).toNat = 1 from rfl] at hnat
  omega

/-- `rxProcessFrame` records no error for a well-formed LLDPDU, and one for any other frame. -/
def ParsesStrictly (env : Env μ) (c : Ctx μ) (f : Frame) : Prop :=
  ∃ c', rxProcessFrame env c = .ok c' ∧ (WellFormed env c f → NoFrameError c c') ∧
    (¬ WellFormed env c f → FrameErrorCounted c c')

/-- It does if and only if the frames that pass the checks of the loop have sound TLVs. -/
theorem parsesStrictly_iff (env : Env μ) {c : Ctx μ} {f : Frame}
    (hf : c.agent.rx.framein = some f) (hsize : f.size ≠ 0) :
    ParsesStrictly env c f ↔ ∀ n, AcceptedUpTo env c f n → SoundTlvs f n := by
  obtain ⟨c', h, hcount⟩ := rxProcessFrame_counts env hf hsize
  constructor
  · rintro ⟨d, hd, _, hbad⟩ n hn
    cases h.symm.trans hd
    -- The frame is accepted, so nothing was counted, so it is well formed.
    rw [(outcome_error_iff env c f).mpr ⟨n, hn⟩] at hcount
    have hwell : WellFormed env c f := by
      by_contra hnot
      exact not_counted_of_noError hcount (hbad hnot)
    obtain ⟨m, hm⟩ := hwell
    obtain ⟨haccepted, hsound⟩ := lldpduUpTo_iff.mp hm
    rw [acceptedUpTo_unique hn haccepted]
    exact hsound
  · intro hsound
    have hiff : (c.outcome env f).error = false ↔ WellFormed env c f := by
      rw [outcome_error_iff]
      refine exists_congr fun n => ?_
      exact ⟨fun hn => lldpduUpTo_iff.mpr ⟨hn, hsound n hn⟩, fun hn => (lldpduUpTo_iff.mp hn).1⟩
    refine ⟨c', h, fun hwell => ?_, fun hnot => ?_⟩
    · rw [hiff.mpr hwell] at hcount
      exact hcount
    · rw [eq_true_of_ne_false (mt hiff.mp hnot)] at hcount
      exact hcount

/-- The frame with the mandatory TLVs alone is parsed strictly. -/
theorem goodFrame_parsesStrictly :
    ParsesStrictly stationEnv (stationWith goodFrame) goodFrame := by
  refine (parsesStrictly_iff stationEnv rfl (by decide +kernel)).mpr fun n hn => ?_
  have htypes : goodFrame.tlvType 0 ≠ 0 ∧ goodFrame.tlvType 1 ≠ 0 ∧ goodFrame.tlvType 2 ≠ 0 ∧
      goodFrame.tlvType 3 = 0 := by decide +kernel
  -- The End TLV is the fourth one.
  obtain rfl : n = 3 := by
    rcases Nat.lt_trichotomy n 3 with hlt | heq | hlt
    · have hend := hn.isEnd
      obtain rfl | rfl | rfl : n = 0 ∨ n = 1 ∨ n = 2 := by omega
      · exact absurd hend htypes.1
      · exact absurd hend htypes.2.1
      · exact absurd hend htypes.2.2.1
    · exact heq
    · exact absurd htypes.2.2.2 (hn.notEnd 3 hlt)
  exact ⟨by decide +kernel, by decide +kernel⟩

/-- A frame with a port description of no bytes. -/
def emptyTlvFrame : Frame := stationFrame 5 (stationTlvs 5 120 ++ [0x08, 0x00, 0x00, 0x00])

/-- It is accepted. -/
theorem emptyTlvFrame_not_parsesStrictly :
    ¬ ParsesStrictly stationEnv (stationWith emptyTlvFrame) emptyTlvFrame := by
  have herror : ((stationWith emptyTlvFrame).outcome stationEnv emptyTlvFrame).error = false := by
    decide +kernel
  have hfourth : emptyTlvFrame.tlvType 3 ≠ 0 ∧ emptyTlvFrame.tlvLength 3 = 0 := by decide +kernel
  have hnot : ¬ WellFormed stationEnv (stationWith emptyTlvFrame) emptyTlvFrame := by
    rintro ⟨n, hn⟩
    have hfirst := hn.chassis
    have hsecond := hn.port
    have hthird := hn.ttl
    have hend := hn.isEnd
    -- The End TLV comes after the empty one.
    have hlate : 3 < n := by
      by_contra hle
      obtain rfl | rfl | rfl | rfl : n = 0 ∨ n = 1 ∨ n = 2 ∨ n = 3 := by omega
      · exact absurd (hend.symm.trans hfirst) (by decide)
      · exact absurd (hend.symm.trans hsecond) (by decide)
      · exact absurd (hend.symm.trans hthird) (by decide)
      · exact hfourth.1 hend
    exact hn.nonempty 3 hlate hfourth.2
  rintro ⟨c', h, _, hbad⟩
  obtain ⟨d, hd, hcount⟩ := rxProcessFrame_counts stationEnv (c := stationWith emptyTlvFrame)
    (f := emptyTlvFrame) rfl (by decide +kernel)
  cases h.symm.trans hd
  rw [herror] at hcount
  exact not_counted_of_noError hcount (hbad hnot)

end Lldpad.Lldp
