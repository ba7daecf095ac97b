import Lldpad.Proofs.Lldp.InsideFrame
import Lldpad.Qbg.EcpRx

/-!
# `Lldpad.Proofs.Qbg.EcpInside`: what is read of an ECP frame lies inside it

`ecp_rx_ProcessFrame` does not stop at an End TLV and no answer of VDP stops it, so the TLVs that
it comes to are a matter of the frame alone (`EcpReached`). `ecpInside_iff` is the sibling of
`processInside_iff`: here the header of a TLV is checked, its end is not, and neither is the ECP
header.

`framesInside_iff` puts the three functions together.
-/

namespace Lldpad.Qbg

open Lldpad.Lib
open Lldpad.Lldp (Frame ethHlen Inside inside_append inside_bytesFrom)

variable {σ : Type}

/-! ### The TLVs of an ECP frame -/

/-- The offset of TLV `n`, counted from 0 -/
def ecpOffsetOf (f : Frame) : Nat → Nat
  | 0 => ethHlen + ecpHdrLen
  | n + 1 => ecpOffsetOf f n + 2 + f.word (ecpOffsetOf f n) % 512

/-- TLV `n` passes the checks on its header. -/
def ecpValid (f : Frame) (n : Nat) : Bool := (ecpReadTlv f (ecpOffsetOf f n)).isSome

/-- The walk comes to TLV `n`: the ones before it pass the checks and end inside the frame. -/
def EcpReached (f : Frame) (n : Nat) : Prop :=
  ∀ k < n, ecpValid f k = true ∧ ecpOffsetOf f (k + 1) < f.size

/-- A TLV that passes the checks lies inside the frame. -/
def EcpTlvInside (f : Frame) (n : Nat) : Prop :=
  ecpValid f n = true → ecpOffsetOf f (n + 1) ≤ f.size

theorem ecpReadTlv_eq_some {f : Frame} {off : Nat} {head : Nat × Nat}
    (h : ecpReadTlv f off = some head) :
    head = (f.word off / 512, f.word off % 512) ∧ off + 2 ≤ f.size := by
  unfold ecpReadTlv at h
  dsimp only at h
  split_ifs at h with _ hhead _
  exact ⟨(Option.some.inj h).symm, by omega⟩

theorem ecpOffsetOf_ge (f : Frame) (n : Nat) : 2 * n ≤ ecpOffsetOf f n := by
  induction n with
  | zero => exact Nat.zero_le _
  | succ n ih =>
    rw [ecpOffsetOf]
    omega

/-! ### One pass -/

section

variable {ulp : VdpUlp σ} {f : Frame} {d : EcpRxData σ} {l : EcpRxLocals}

theorem ecpRxTlv_invalid (h : ecpReadTlv f l.tlvOffset = none) :
    ecpRxTlv ulp f (d, l) = .leave (d, true, l.vdpCalled) := by
  unfold ecpRxTlv
  simp only [h]

theorem ecpRxTlv_valid (ulp : VdpUlp σ) (d : EcpRxData σ) {head : Nat × Nat}
    (h : ecpReadTlv f l.tlvOffset = some head) :
    ∃ d' l', l'.tlvOffset = l.tlvOffset + 2 + head.2 ∧
      d'.statsFramesDiscardedTotal = d.statsFramesDiscardedTotal ∧
      d'.statsFramesInErrorsTotal = d.statsFramesInErrorsTotal ∧
      ecpRxTlv ulp f (d, l) =
        if l'.tlvOffset < f.size then .again (d', l') else .leave (d', false, l'.vdpCalled) := by
  have hdead : ¬(head.2 = 0 ∧ (0 : Nat) ≠ 0) := fun hbad => hbad.2 rfl
  unfold ecpRxTlv
  simp only [h, if_neg hdead]
  refine ⟨_, { tlvOffset := l.tlvOffset + 2 + head.2, tlvCnt := l.tlvCnt + 1, vdpCalled := _ }, rfl,
    ?_, ?_, rfl⟩
  all_goals
    unfold ecpCountUnstored ecpGiveToVdp
    split_ifs <;> rfl

theorem ecpPassReads_inside_iff (f : Frame) (n : Nat) :
    Inside f.size (ecpPassReads f (ecpOffsetOf f n)) ↔ EcpTlvInside f n := by
  unfold ecpPassReads EcpTlvInside ecpValid
  by_cases hover : ecpOffsetOf f n > f.size ∨ ecpOffsetOf f n + 2 > f.size
  · rw [if_pos hover]
    refine iff_of_true nofun fun hvalid => ?_
    obtain ⟨head, hread⟩ := Option.isSome_iff_exists.mp hvalid
    have hhead := (ecpReadTlv_eq_some hread).2
    omega
  · rw [if_neg hover, inside_append, inside_bytesFrom]
    cases hread : ecpReadTlv f (ecpOffsetOf f n) with
    | none =>
      refine iff_of_true ⟨.inr (by omega), nofun⟩ nofun
    | some head =>
      have hlength : head.2 = f.word (ecpOffsetOf f n) % 512 :=
        congrArg Prod.snd (ecpReadTlv_eq_some hread).1
      dsimp only
      rw [hlength, inside_bytesFrom, ecpOffsetOf]
      constructor
      · rintro ⟨_, hinfo⟩ _
        omega
      · intro hinside
        have hend := hinside rfl
        exact ⟨by omega, by omega⟩

/-! ### The walk -/

theorem EcpReached.succ {n : Nat} (h : EcpReached f n) (hvalid : ecpValid f n = true)
    (hmore : ecpOffsetOf f (n + 1) < f.size) : EcpReached f (n + 1) := by
  intro k hk
  rcases Nat.lt_succ_iff_lt_or_eq.mp hk with hlt | rfl
  · exact h k hlt
  · exact ⟨hvalid, hmore⟩

/-- The reads of the walk from TLV `n` on are those of the TLVs that it comes to. -/
theorem ecpWalkReads_inside_iff (fuel : Nat) :
    ∀ (n : Nat) (d : EcpRxData σ) (l : EcpRxLocals), l.tlvOffset = ecpOffsetOf f n →
      EcpReached f n →
      (Inside f.size (ecpWalkReads ulp f fuel (d, l)) ↔
        ∀ m, n ≤ m → m < n + fuel → EcpReached f m → EcpTlvInside f m) := by
  induction fuel with
  | zero =>
    intro n d l _ _
    exact iff_of_true nofun (fun m hge hlt => absurd hlt (by omega))
  | succ fuel ih =>
    intro n d l hoff hreach
    rw [ecpWalkReads, inside_append]
    rw [hoff, ecpPassReads_inside_iff]
    -- The walk is over: no later TLV is reached.
    have hover : (∀ m, n < m → ¬ EcpReached f m) →
        ((EcpTlvInside f n ∧ Inside f.size []) ↔
          ∀ m, n ≤ m → m < n + (fuel + 1) → EcpReached f m → EcpTlvInside f m) := by
      intro hno
      constructor
      · rintro ⟨h, _⟩ m hge _ hm
        rcases Nat.lt_or_eq_of_le hge with hlt | rfl
        · exact absurd hm (hno m hlt)
        · exact h
      · intro h
        exact ⟨h n (Nat.le_refl n) (by omega) hreach, nofun⟩
    cases hread : ecpReadTlv f l.tlvOffset with
    | none =>
      rw [ecpRxTlv_invalid hread]
      refine hover fun m hlt hm => ?_
      have hvalid := (hm n hlt).1
      rw [ecpValid, ← hoff, hread] at hvalid
      exact nomatch hvalid
    | some head =>
      obtain ⟨d', l', hoff', _, _, hpass⟩ := ecpRxTlv_valid ulp d hread
      have hnext : l'.tlvOffset = ecpOffsetOf f (n + 1) := by
        rw [hoff', (ecpReadTlv_eq_some hread).1, hoff]
        rfl
      rw [hpass]
      by_cases hmore : l'.tlvOffset < f.size
      · have hvalid : ecpValid f n = true := by
          rw [ecpValid, ← hoff, hread]
          rfl
        rw [hnext] at hmore
        rw [hnext, if_pos hmore]
        rw [ih (n + 1) d' l' hnext (hreach.succ hvalid hmore)]
        constructor
        · rintro ⟨hfirst, hrest⟩ m hge hlt hm
          rcases Nat.lt_or_eq_of_le hge with hgt | rfl
          · exact hrest m hgt (by omega) hm
          · exact hfirst
        · intro h
          exact ⟨h n (Nat.le_refl n) (by omega) hreach, fun m hge hlt hm =>
            h m (by omega) (by omega) hm⟩
      · rw [if_neg hmore]
        refine hover fun m hlt hm => ?_
        exact hmore (by rw [hnext]; exact (hm n hlt).2)

/-- The walk ends, and the errors before it are not forgotten. If it comes to a TLV that does not
pass the checks it ends with an error. -/
theorem ecpWalk_spec (ulp : VdpUlp σ) (f : Frame) (fuel : Nat) :
    ∀ (n : Nat) (d : EcpRxData σ) (l : EcpRxLocals), l.tlvOffset = ecpOffsetOf f n →
      EcpReached f n → f.size < ecpOffsetOf f n + fuel → 0 < fuel →
      ∃ r, iterate (fun s => .ok (ecpRxTlv ulp f s)) fuel (d, l) = .ok r ∧
        r.1.statsFramesDiscardedTotal = d.statsFramesDiscardedTotal ∧
        r.1.statsFramesInErrorsTotal = d.statsFramesInErrorsTotal ∧
        ((∃ m, n ≤ m ∧ EcpReached f m ∧ ecpValid f m = false) → r.2.1 = true) := by
  induction fuel with
  | zero =>
    intro n d l _ _ _ hfuel
    exact absurd hfuel (Nat.lt_irrefl 0)
  | succ fuel ih =>
    intro n d l hoff hreach hsize _
    cases hread : ecpReadTlv f l.tlvOffset with
    | none =>
      exact ⟨_, iterate_succ_of_leave (congrArg Except.ok (ecpRxTlv_invalid hread)), rfl, rfl,
        fun _ => rfl⟩
    | some head =>
      obtain ⟨d', l', hoff', hdiscarded, herrors, hpass⟩ := ecpRxTlv_valid ulp d hread
      have hnext : l'.tlvOffset = ecpOffsetOf f (n + 1) := by
        rw [hoff', (ecpReadTlv_eq_some hread).1, hoff]
        rfl
      have hvalid : ecpValid f n = true := by
        rw [ecpValid, ← hoff, hread]
        rfl
      -- A TLV that does not pass the checks comes later.
      have hlater : ∀ m, n ≤ m → ecpValid f m = false → n + 1 ≤ m := by
        intro m hge hm
        rcases Nat.lt_or_eq_of_le hge with hgt | rfl
        · exact hgt
        · exact nomatch hvalid.symm.trans hm
      by_cases hmore : l'.tlvOffset < f.size
      · rw [if_pos hmore] at hpass
        rw [hnext] at hmore
        have hstep : ecpOffsetOf f n + 2 ≤ ecpOffsetOf f (n + 1) := by
          rw [ecpOffsetOf]
          omega
        obtain ⟨r, hr, hd, he, herror⟩ := ih (n + 1) d' l' hnext (hreach.succ hvalid hmore)
          (by omega) (by omega)
        refine ⟨r, ?_, hd.trans hdiscarded, he.trans herrors, ?_⟩
        · rw [iterate_succ_of_again (congrArg Except.ok hpass)]
          exact hr
        · rintro ⟨m, hge, hm, hinvalid⟩
          exact herror ⟨m, hlater m hge hinvalid, hm, hinvalid⟩
      · rw [if_neg hmore] at hpass
        refine ⟨_, iterate_succ_of_leave (congrArg Except.ok hpass), hdiscarded, herrors, ?_⟩
        rintro ⟨m, hge, hm, hinvalid⟩
        have hlt := (hm n (hlater m hge hinvalid)).2
        rw [← hnext] at hlt
        exact absurd hlt hmore

end

/-! ### `ecp_rx_ProcessFrame` -/

/-- A frame was counted as discarded and as an error. -/
def EcpErrorCounted (d d' : EcpRxData σ) : Prop :=
  d'.statsFramesDiscardedTotal = d.statsFramesDiscardedTotal + 1 ∧
    d'.statsFramesInErrorsTotal = d.statsFramesInErrorsTotal + 1

/-- What `ecp_rx_ProcessFrame` reads lies inside the frame, and a frame that ends in a TLV that
the walk comes to is counted as an error. -/
def EcpInside (ulp : VdpUlp σ) (f : Frame) (d : EcpRxData σ) : Prop :=
  Inside f.size (ecpProcessReads ulp f d) ∧
    ∃ d', ecpRxProcessFrame ulp f d = .ok d' ∧
      (ecpMode f ≠ ecpAck → (∃ n, EcpReached f n ∧ f.size < ecpOffsetOf f (n + 1)) →
        EcpErrorCounted d d')

theorem ecpReached_lt_fuel {f : Frame} {n : Nat} (h : EcpReached f n) : n < ecpTlvFuel f := by
  unfold ecpTlvFuel
  cases n with
  | zero => omega
  | succ n =>
    have hge := ecpOffsetOf_ge f (n + 1)
    have hlt := (h n (Nat.lt_succ_self n)).2
    omega

theorem ecpProcessReads_inside_iff (ulp : VdpUlp σ) (f : Frame) (d : EcpRxData σ) :
    Inside f.size (ecpProcessReads ulp f d) ↔ ethHlen + ecpHdrLen ≤ f.size ∧
      (ecpMode f ≠ ecpAck → ∀ n, EcpReached f n → EcpTlvInside f n) := by
  have hhdr : (5 = 0 ∨ ethHlen + 4 + 5 ≤ f.size) ↔ ethHlen + ecpHdrLen ≤ f.size := by
    unfold ecpHdrLen
    omega
  rw [ecpProcessReads, inside_append, inside_bytesFrom, hhdr]
  refine and_congr_right fun _ => ?_
  by_cases hack : ecpMode f = ecpAck
  · rw [if_pos hack]
    exact iff_of_true nofun (fun hne => absurd hack hne)
  · rw [if_neg hack, ecpWalkReads_inside_iff (ecpTlvFuel f) 0 d {} rfl nofun]
    constructor
    · intro h _ n hn
      exact h n (Nat.zero_le n) (by rw [Nat.zero_add]; exact ecpReached_lt_fuel hn) hn
    · intro h n _ _ hn
      exact h hack n hn

theorem ecpRxProcessFrame_total (ulp : VdpUlp σ) (f : Frame) (d : EcpRxData σ) :
    ∃ d', ecpRxProcessFrame ulp f d = .ok d' ∧
      (ecpMode f ≠ ecpAck → (∃ n, EcpReached f n ∧ ecpValid f n = false) →
        EcpErrorCounted d d') := by
  unfold ecpRxProcessFrame
  by_cases hack : ecpMode f = ecpAck
  · rw [if_pos hack]
    exact ⟨d, rfl, fun hne => absurd hack hne⟩
  · obtain ⟨r, hr, hdiscarded, herrors, herror⟩ := ecpWalk_spec ulp f (ecpTlvFuel f) 0 d {}
      rfl nofun (by unfold ecpTlvFuel; omega) (Nat.succ_pos _)
    rw [if_neg hack, hr, bind_ok]
    refine ⟨ecpRxOut ulp r, rfl, fun _ hex => ?_⟩
    obtain ⟨n, hn, hinvalid⟩ := hex
    have hbad := herror ⟨n, Nat.zero_le n, hn, hinvalid⟩
    unfold EcpErrorCounted ecpRxOut
    simp only [hbad, if_true]
    rw [← hdiscarded, ← herrors]
    split_ifs <;> exact ⟨rfl, rfl⟩

/-- `ecp_rx_ProcessFrame` stays inside the frame if and only if the frame has an ECP header, and
the walk never comes to a TLV that passes the checks and is not inside. -/
theorem ecpInside_iff (ulp : VdpUlp σ) (f : Frame) (d : EcpRxData σ) :
    EcpInside ulp f d ↔ ethHlen + ecpHdrLen ≤ f.size ∧
      (ecpMode f ≠ ecpAck → ∀ n, EcpReached f n → EcpTlvInside f n) := by
  rw [← ecpProcessReads_inside_iff ulp f d]
  refine ⟨fun h => h.1, fun h => ⟨h, ?_⟩⟩
  obtain ⟨d', hd', hcount⟩ := ecpRxProcessFrame_total ulp f d
  refine ⟨d', hd', fun hack hex => hcount hack ?_⟩
  obtain ⟨n, hn, hout⟩ := hex
  refine ⟨n, hn, Bool.eq_false_iff.mpr fun hvalid => ?_⟩
  have hin := ((ecpProcessReads_inside_iff ulp f d).mp h).2 hack n hn hvalid
  omega

/-! ### The three functions -/

open Lldpad.Lldp (Env PortState Ctx ReceiveInside ProcessInside HeaderRead Reached TlvInside
  receiveInside_iff processInside_iff ethAlen stationEnv stationPort stationWith goodFrame
  goodFrame_tlvsInside noEndFrame noEndFrame_not_inside)

/-- The parsers stay inside their frames: `rxReceiveFrame` on frame `f` in state `s` of the port,
`rxProcessFrame` on the agent in `c` that has stored `f`, and `ecp_rx_ProcessFrame` on ECP frame
`g`. -/
def FramesInside {μ : Type} (env : Env μ) (s : PortState μ) (c : Ctx μ) (f : Frame)
    (ulp : VdpUlp σ) (g : Frame) (d : EcpRxData σ) : Prop :=
  ReceiveInside env f s ∧ ProcessInside env c f ∧ EcpInside ulp g d

/-- They do if and only if the frames have their headers, and no walk comes to a TLV that the
checks take for one inside the frame and that is not. -/
theorem framesInside_iff {μ : Type} (env : Env μ) (s : PortState μ) {c : Ctx μ} {f : Frame}
    (hf : c.agent.rx.framein = some f) (hsize : f.size ≠ 0) (ulp : VdpUlp σ) (g : Frame)
    (d : EcpRxData σ) :
    FramesInside env s c f ulp g d ↔
      (HeaderRead f s → ethHlen ≤ f.size) ∧
      (2 * ethAlen ≤ f.size ∧ ∀ n, Reached env c f n → TlvInside f n) ∧
      (ethHlen + ecpHdrLen ≤ g.size ∧
        (ecpMode g ≠ ecpAck → ∀ n, EcpReached g n → EcpTlvInside g n)) :=
  and_congr (receiveInside_iff env f s)
    (and_congr (processInside_iff env hf hsize) (ecpInside_iff ulp g d))

/-- An ECP request without VSI TLVs -/
def emptyRequest : Frame where
  bytes := [0x01, 0x80, 0xc2, 0x00, 0x00, 0x0e, 0x02, 0x00, 0x00, 0x00, 0x00, 0x05, 0x88, 0xb7,
    0x00, 0x1b, 0x3f, 0x00, 0x00, 0x00, 0x00, 0x00, 0x01, 0x00, 0x00]
  past := []
  bytes_le := by decide

/-- A VDP that keeps no TLV -/
def deafVdp : VdpUlp Unit where
  indicate d _ := (d, false)
  advanceSm d := d

theorem emptyRequest_tlvsInside (n : Nat) (h : EcpReached emptyRequest n) :
    EcpTlvInside emptyRequest n := by
  have hsecond : ¬ ecpOffsetOf emptyRequest 1 < emptyRequest.size := by decide +kernel
  cases n with
  | zero =>
    intro _
    decide +kernel
  | succ n => exact absurd (h 0 (Nat.succ_pos n)).2 hsecond

/-- An LLDPDU with the mandatory TLVs and an ECP request stay inside. -/
theorem framesInside_station :
    FramesInside stationEnv stationPort (stationWith goodFrame) goodFrame deafVdp emptyRequest
      { vdp := () } :=
  (framesInside_iff stationEnv stationPort rfl (by decide +kernel) deafVdp emptyRequest
      { vdp := () }).mpr
    ⟨fun _ => by decide +kernel, ⟨by decide +kernel, goodFrame_tlvsInside⟩,
      by decide +kernel, fun _ => emptyRequest_tlvsInside⟩

/-- An LLDPDU that ends behind its TTL does not: two bytes behind it are taken for the header of
one more TLV. -/
theorem not_framesInside :
    ¬ FramesInside stationEnv stationPort (stationWith noEndFrame) noEndFrame deafVdp emptyRequest
      { vdp := () } := fun h => noEndFrame_not_inside h.2.1

end Lldpad.Qbg
