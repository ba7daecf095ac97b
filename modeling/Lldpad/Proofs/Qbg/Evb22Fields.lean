import Lldpad.Qbg.Evb22
import Mathlib.Tactic.IntervalCases

/-!
# `Lldpad.Proofs.Qbg.Evb22Fields`: what the EVB module puts where

* `value_updatedTlv`: every value that is sent is the maximum of the policy and of what was
  received.
* `value_set`, `value_set_of_ne`: a setting changes one value of the policy.
* `updatedTlv_station`, `updatedTlv_bridge`: what becomes of the group bits.
* `ecp22TxStartAcktimer_eq`, `vdp22Timeout_eq`: the timers, where the products fit an `int`.
-/

namespace Lldpad.Qbg.Evb22

/-! ### Bits -/

theorem eq_of_bits {x y : UInt8}
    (h : ∀ i < 8, x.toBitVec.getLsbD i = y.toBitVec.getLsbD i) : x = y :=
  UInt8.toBitVec_inj.mp (BitVec.eq_of_getLsbD_eq h)

variable (a b c : UInt8)

theorem exRetries_set : evbExRetries (evbSetRetries a ||| evbSetRte b) = a &&& 7 := by
  refine eq_of_bits fun i hi => ?_
  interval_cases i <;> simp [evbExRetries, evbSetRetries, evbSetRte]

theorem exRte_set : evbExRte (evbSetRetries a ||| evbSetRte b) = b &&& 0x1f := by
  refine eq_of_bits fun i hi => ?_
  interval_cases i <;> simp [evbExRte, evbSetRetries, evbSetRte]

theorem exRwd_set : evbExRwd (evbSetEvbmode a ||| evbSetRwd b) = b &&& 0x1f := by
  refine eq_of_bits fun i hi => ?_
  interval_cases i <;> simp [evbExRwd, evbSetEvbmode, evbSetRwd]

theorem exRwd_setRol :
    evbExRwd (evbSetEvbmode a ||| evbSetRol c ||| evbSetRwd b) = b &&& 0x1f := by
  refine eq_of_bits fun i hi => ?_
  interval_cases i <;> simp [evbExRwd, evbSetEvbmode, evbSetRol, evbSetRwd]

theorem exRka_setRol : evbExRka (evbSetRol c ||| evbSetRka b) = b &&& 0x1f := by
  refine eq_of_bits fun i hi => ?_
  interval_cases i <;> simp [evbExRka, evbSetRol, evbSetRka]

theorem exRetries_maskoff : evbExRetries (evbMaskoffRetries a ||| evbSetRetries b) = b &&& 7 := by
  refine eq_of_bits fun i hi => ?_
  interval_cases i <;> simp [evbExRetries, evbMaskoffRetries, evbSetRetries]

theorem exRte_maskoffRetries : evbExRte (evbMaskoffRetries a ||| evbSetRetries b) = evbExRte a := by
  refine eq_of_bits fun i hi => ?_
  interval_cases i <;> simp [evbExRte, evbMaskoffRetries, evbSetRetries]

theorem exRte_maskoff : evbExRte (evbMaskoffRte a ||| evbSetRte b) = b &&& 0x1f := by
  refine eq_of_bits fun i hi => ?_
  interval_cases i <;> simp [evbExRte, evbMaskoffRte, evbSetRte]

theorem exRetries_maskoffRte :
    evbExRetries (evbMaskoffRte a ||| evbSetRte b) = evbExRetries a := by
  refine eq_of_bits fun i hi => ?_
  interval_cases i <;> simp [evbExRetries, evbMaskoffRte, evbSetRte]

theorem exEvbmode_maskoffRwd :
    evbExEvbmode (evbMaskoffRwd a ||| evbSetRwd b) = evbExEvbmode a := by
  refine eq_of_bits fun i hi => ?_
  interval_cases i <;> simp [evbExEvbmode, evbMaskoffRwd, evbSetRwd]

theorem exBgid_rrctr : evbExBgid (a ||| evbSetRrctr b) = evbExBgid a := by
  refine eq_of_bits fun i hi => ?_
  interval_cases i <;> simp [evbExBgid, evbSetRrctr]

theorem exBgid_rrcap : evbExBgid (evbMaskoffRrcap a ||| evbSetRrcap b) = evbExBgid a := by
  refine eq_of_bits fun i hi => ?_
  interval_cases i <;> simp [evbExBgid, evbMaskoffRrcap, evbSetRrcap]

theorem exSgid_rrstat : evbExSgid (evbMaskoffRrstat a ||| evbSetRrstat b) = evbExSgid a := by
  refine eq_of_bits fun i hi => ?_
  interval_cases i <;> simp [evbExSgid, evbMaskoffRrstat, evbSetRrstat]

theorem exSgid_rrreq : evbExSgid (evbMaskoffRrreq a ||| evbSetRrreq b) = evbExSgid a := by
  refine eq_of_bits fun i hi => ?_
  interval_cases i <;> simp [evbExSgid, evbMaskoffRrreq, evbSetRrreq]

/-! ### The values -/

theorem value_and_limit (p : Param) (t : Evb22Tlv) :
    p.value t &&& UInt8.ofNat p.limit.toNat = p.value t := by
  refine eq_of_bits fun i hi => ?_
  cases p
  · interval_cases i <;> simp [Param.value, Param.limit, evbExRetries]
  · interval_cases i <;> simp [Param.value, Param.limit, evbExRte]
  · interval_cases i <;> simp [Param.value, Param.limit, evbExRwd]
  · interval_cases i <;> simp [Param.value, Param.limit, evbExRka]

theorem larger_and_limit (p : Param) (t u : Evb22Tlv) :
    (if p.value t > p.value u then p.value t else p.value u) &&& UInt8.ofNat p.limit.toNat
      = if p.value t > p.value u then p.value t else p.value u := by
  split
  · exact value_and_limit p t
  · exact value_and_limit p u

theorem toNat_larger (x y : UInt8) :
    (if x > y then x else y).toNat = max x.toNat y.toNat := by
  split
  · next h => exact (Nat.max_eq_left (Nat.le_of_lt h)).symm
  · next h => exact (Nat.max_eq_right (Nat.le_of_not_lt h)).symm

theorem value_commonTlv (ed : Evb22Data) (p : Param) :
    p.value (commonTlv ed).out
      = if p.value ed.policy > p.value ed.last then p.value ed.policy else p.value ed.last := by
  have hfits := larger_and_limit p ed.policy ed.last
  cases p with
  | retries => exact (exRetries_set ..).trans hfits
  | rte => exact (exRte_set ..).trans hfits
  | rwd =>
    by_cases hmore : evbExRwd ed.policy.evbMode > evbExRwd ed.last.evbMode
    · have hout : (commonTlv ed).out.evbMode = evbSetEvbmode (evbExEvbmode ed.policy.evbMode) |||
          evbSetRwd (evbExRwd ed.policy.evbMode) := if_pos hmore
      rw [Param.value, hout, exRwd_set, Param.value, Param.value, if_pos hmore]
      exact value_and_limit .rwd ed.policy
    · have hout : (commonTlv ed).out.evbMode = evbSetEvbmode (evbExEvbmode ed.policy.evbMode) |||
          evbSetRol 1 ||| evbSetRwd (evbExRwd ed.last.evbMode) := if_neg hmore
      rw [Param.value, hout, exRwd_setRol, Param.value, Param.value, if_neg hmore]
      exact value_and_limit .rwd ed.last
  | rka =>
    by_cases hmore : evbExRka ed.policy.rlRka > evbExRka ed.last.rlRka
    · have hout : (commonTlv ed).out.rlRka = evbSetRol 0 |||
          evbSetRka (evbExRka ed.policy.rlRka) := if_pos hmore
      rw [Param.value, hout, exRka_setRol, Param.value, Param.value, if_pos hmore]
      exact value_and_limit .rka ed.policy
    · have hout : (commonTlv ed).out.rlRka = evbSetRol 1 |||
          evbSetRka (evbExRka ed.last.rlRka) := if_neg hmore
      rw [Param.value, hout, exRka_setRol, Param.value, Param.value, if_neg hmore]
      exact value_and_limit .rka ed.last

/-- The module is a station's. -/
def isStation (ed : Evb22Data) : Prop := evbExEvbmode ed.policy.evbMode = evbStation

instance (ed : Evb22Data) : Decidable (isStation ed) := decEq _ _

/-- The maximum of the policy and of what was received. -/
def larger (p : Param) (ed : Evb22Data) : Nat :=
  max (p.value ed.policy).toNat (p.value ed.last).toNat

theorem value_updatedTlv (ed : Evb22Data) (p : Param) :
    (p.value (updatedTlv ed).out).toNat = larger p ed := by
  rw [larger, ← toNat_larger]
  unfold updatedTlv
  split
  · exact congrArg UInt8.toNat (value_commonTlv _ p)
  · exact congrArg UInt8.toNat (value_commonTlv _ p)

theorem updatedTlv_eq (ed : Evb22Data) :
    updatedTlv ed = { ed with out := (updatedTlv ed).out } := by
  unfold updatedTlv
  split <;> rfl

theorem updatedTlv_policy (ed : Evb22Data) : (updatedTlv ed).policy = ed.policy := by
  rw [updatedTlv_eq ed]

theorem updatedTlv_last (ed : Evb22Data) : (updatedTlv ed).last = ed.last := by
  rw [updatedTlv_eq ed]

theorem updatedTlv_station {ed : Evb22Data} (h : isStation ed) :
    (updatedTlv ed).out.bridgeS = ed.last.bridgeS ∧
      evbExSgid (updatedTlv ed).out.stationS = evbExSgid ed.policy.stationS := by
  have heq : updatedTlv ed = stationTlv ed := if_pos h
  rw [heq]
  exact ⟨rfl, exSgid_rrstat ..⟩

theorem updatedTlv_bridge {ed : Evb22Data} (h : ¬isStation ed) :
    (updatedTlv ed).out.stationS = ed.last.stationS ∧
      evbExBgid (updatedTlv ed).out.bridgeS = evbExBgid ed.policy.bridgeS := by
  have heq : updatedTlv ed = bridgeTlv ed := if_neg h
  rw [heq]
  refine ⟨rfl, ?_⟩
  show evbExBgid (if evbExRrreq ed.last.stationS ≠ 0 ∧ evbExRrcap ed.policy.bridgeS ≠ 0 then
    ed.policy.bridgeS ||| evbSetRrctr 1 else ed.policy.bridgeS) = _
  split
  · exact exBgid_rrctr ..
  · rfl

/-! ### The settings -/

theorem value_set (p : Param) (ed : Evb22Data) (v : UInt8) :
    p.value (p.set ed v).policy = v &&& UInt8.ofNat p.limit.toNat := by
  cases p with
  | retries => exact exRetries_maskoff ..
  | rte | rwd | rka => exact exRte_maskoff ..

theorem value_set_of_ne {p q : Param} (h : q ≠ p) (ed : Evb22Data) (v : UInt8) :
    q.value (p.set ed v).policy = q.value ed.policy := by
  cases p <;> cases q <;> first
    | exact absurd rfl h
    | rfl
    | exact exRte_maskoffRetries ..
    | exact exRetries_maskoffRte ..

theorem isStation_set (p : Param) (ed : Evb22Data) (v : UInt8) :
    isStation (p.set ed v) ↔ isStation ed := by
  cases p with
  | retries | rte | rka => exact Iff.rfl
  | rwd =>
    show evbExEvbmode (evbMaskoffRwd ed.policy.evbMode ||| evbSetRwd v) = evbStation ↔ _
    rw [exEvbmode_maskoffRwd]
    exact Iff.rfl

theorem last_set (p : Param) (ed : Evb22Data) (v : UInt8) : (p.set ed v).last = ed.last := by
  cases p <;> rfl

theorem toNat_value_set (p : Param) (ed : Evb22Data) (value : Int) :
    (p.value (p.set ed (UInt8.ofNat (value % 256).toNat)).policy).toNat
      = (value % (p.limit + 1)).toNat := by
  have hmask : ∀ k : Nat, k < 8 → ∀ v : Nat,
      (UInt8.ofNat v &&& UInt8.ofNat (2 ^ k - 1)).toNat = v % 2 ^ k := by
    intro k hk v
    have hle : 2 ^ k ∣ 2 ^ 8 := Nat.pow_dvd_pow 2 (Nat.le_of_lt hk)
    have hlt : 2 ^ k - 1 < 2 ^ 8 := by
      have := Nat.pow_lt_pow_right (a := 2) (by decide) hk
      omega
    rw [UInt8.toNat_and, UInt8.toNat_ofNat', UInt8.toNat_ofNat', Nat.mod_eq_of_lt hlt,
      Nat.and_two_pow_sub_one_eq_mod, Nat.mod_mod_of_dvd _ hle]
  rw [value_set]
  cases p with
  | retries =>
    show (UInt8.ofNat _ &&& UInt8.ofNat (2 ^ 3 - 1)).toNat = (value % 8).toNat
    rw [hmask 3 (by decide)]
    omega
  | rte | rwd | rka =>
    show (UInt8.ofNat _ &&& UInt8.ofNat (2 ^ 5 - 1)).toNat = (value % 32).toNat
    rw [hmask 5 (by decide)]
    omega

theorem setGpid_policy (ed : Evb22Data) (v : UInt8) :
    (setGpid ed v).last = ed.last ∧ (setGpid ed v).policy.rRte = ed.policy.rRte ∧
      (setGpid ed v).policy.evbMode = ed.policy.evbMode ∧
      (setGpid ed v).policy.rlRka = ed.policy.rlRka := by
  unfold setGpid
  split <;> exact ⟨rfl, rfl, rfl, rfl⟩

/-! ### The timers -/

theorem int32_of_lt {x : Int} (h₀ : 0 ≤ x) (h : x < 2 ^ 31) : int32 x = x :=
  Int.bmod_eq_of_le_mul_two (by omega) (by omega)

theorem registered_of_lt {x : Int} (h₀ : 0 ≤ x) (h : x < 2 ^ 40) :
    registered (x / 1000000) (x % 1000000) = x := by
  unfold registered
  omega

theorem registeredU64_of_lt {x : Int} (h₀ : 0 ≤ x) (h : x < 2 ^ 40) : registeredU64 x = x := by
  have hmod : x % 2 ^ 64 = x := by omega
  rw [registeredU64, hmod]
  exact registered_of_lt h₀ h

theorem shift1_of_lt {n : UInt8} (h : 2 ^ n.toNat * 10 < 2 ^ 31) :
    shift1 n = 2 ^ n.toNat ∧ int32 (shift1 n * 10) = 2 ^ n.toNat * 10 := by
  have hcast : ((2 ^ n.toNat : Nat) : Int) = 2 ^ n.toNat := by push_cast; rfl
  rw [← hcast]
  generalize 2 ^ n.toNat = x at *
  have hshift : shift1 n = x := by
    rw [shift1, ← hcast]
    exact int32_of_lt (by omega) (by omega)
  rw [hshift]
  exact ⟨rfl, int32_of_lt (by omega) (by omega)⟩

theorem registeredU64_shift1 {n : UInt8} (h : 2 ^ n.toNat * 10 < 2 ^ 31) :
    registeredU64 (int32 (shift1 n * 10)) = (2 ^ n.toNat * 10 : Nat) := by
  rw [(shift1_of_lt h).2]
  push_cast
  have hcast : ((2 ^ n.toNat : Nat) : Int) = 2 ^ n.toNat := by push_cast; rfl
  rw [← hcast]
  exact registeredU64_of_lt (by omega) (by omega)

theorem ecp22TxStartAcktimer_eq {ecp : Evb22ToEcp22} (h : 2 ^ ecp.maxRte.toNat * 10 < 2 ^ 31) :
    ecp22TxStartAcktimer ecp = (2 ^ ecp.maxRte.toNat * 10 : Nat) := by
  have hcast : ((2 ^ ecp.maxRte.toNat : Nat) : Int) = 2 ^ ecp.maxRte.toNat := by push_cast; rfl
  rw [ecp22TxStartAcktimer, rtevalue, (shift1_of_lt h).2, ← hcast]
  generalize 2 ^ ecp.maxRte.toNat = x at h
  rw [Int.tdiv_eq_ediv_of_nonneg (by omega), Int.tmod_eq_emod_of_nonneg (by omega)]
  exact (registered_of_lt (by omega) (by omega)).trans (by push_cast; rfl)

theorem vdp22Timeout_eq {vdp : Evb22ToVdp22} {exp : UInt8}
    (h : (1 + 2 * vdp.maxRetry.toNat) * 2 ^ vdp.maxRte.toNat * 10 < 2 ^ 31)
    (hexp : 2 ^ exp.toNat * 10 < 2 ^ 31) :
    vdp22Timeout vdp exp
      = (((1 + 2 * vdp.maxRetry.toNat) * 2 ^ vdp.maxRte.toNat * 10 + 2 ^ exp.toNat * 10) * 3 / 2
        : Nat) := by
  have hone : 2 ^ vdp.maxRte.toNat ≤ (1 + 2 * vdp.maxRetry.toNat) * 2 ^ vdp.maxRte.toNat :=
    Nat.le_mul_of_pos_left _ (by omega)
  have hretry := vdp.maxRetry.toNat_lt
  have hshift := (shift1_of_lt (n := vdp.maxRte) (by omega)).1
  have hproduct : int32 (int32 (int32 (1 + 2 * vdp.maxRetry.toNat) * shift1 vdp.maxRte) * 10)
      = ((1 + 2 * vdp.maxRetry.toNat) * 2 ^ vdp.maxRte.toNat * 10 : Nat) := by
    rw [hshift, int32_of_lt (x := 1 + 2 * (vdp.maxRetry.toNat : Int)) (by omega) (by omega)]
    have hcast : (1 + 2 * (vdp.maxRetry.toNat : Int)) * 2 ^ vdp.maxRte.toNat
        = ((1 + 2 * vdp.maxRetry.toNat) * 2 ^ vdp.maxRte.toNat : Nat) := by push_cast; rfl
    rw [hcast]
    generalize (1 + 2 * vdp.maxRetry.toNat) * 2 ^ vdp.maxRte.toNat = x at *
    rw [int32_of_lt (x := (x : Int)) (by omega) (by omega)]
    exact int32_of_lt (by omega) (by omega)
  have hsum : int32 (shift1 exp * 10) = (2 ^ exp.toNat * 10 : Nat) := by
    rw [(shift1_of_lt hexp).2]
    push_cast
    rfl
  unfold vdp22Timeout
  dsimp only
  rw [hproduct, hsum]
  generalize (1 + 2 * vdp.maxRetry.toNat) * 2 ^ vdp.maxRte.toNat = x at *
  generalize 2 ^ exp.toNat = y at *
  have hmod : (((x * 10 : Nat) : Int) % 2 ^ 64 + (y * 10 : Nat)) % 2 ^ 64
      = (x * 10 + y * 10 : Nat) := by omega
  rw [hmod, registeredU64_of_lt (by omega) (by omega)]
  omega

end Lldpad.Qbg.Evb22
