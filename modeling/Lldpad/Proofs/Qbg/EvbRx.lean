import Lldpad.Qbg.EvbRx
import Lldpad.Proofs.Tlv.Pack

/-!
# `Lldpad.Proofs.Qbg.EvbRx`: an EVB TLV goes where it belongs if it is of the right size

Nothing compares the length of a received TLV with the size of the structure that it is copied
into. The copy of a TLV of the right size is exact. A longer TLV runs into the local policy, and
out of the structure in the end, while a shorter one leaves the rest of the TLV before it.

* `EvbTlv`: a TLV that one of the modules takes for its own.
* `Received.Exact`: the received TLV and nothing else is in `last`, and a TLV of another size is
  in no part of the structure.
* `evbRchange_exact_iff`: when a reception is exact.
-/

namespace Lldpad.Qbg

open Lldpad.Lib
open Lldpad.Lldp (Bytes AgentType)
open Lldpad.Tlv (UnpackedTlv)

/-! ### What a reception is to do -/

/-- An organisationally specific TLV of one of the modules, of a length that a TLV can have -/
structure EvbTlv (k : EvbKind) (tlv : UnpackedTlv) : Prop where
  type_eq : tlv.type = 127
  head_eq : tlv.info.take k.ouiSubtype.length = k.ouiSubtype
  from_four : 4 ≤ tlv.length.toNat
  to_max : tlv.length.toNat ≤ 511

/-- The copy changes `last` only, all of `last` comes from the TLV, and a TLV of another size is
rejected. -/
structure Received.Exact (k : EvbKind) (ed : Bytes) (tlv : UnpackedTlv) (r : Received) : Prop where
  frame : ∀ copied, r.copied = some copied →
    copied.length = ed.length ∧
      ∀ i, i < k.last.start ∨ k.last.stop ≤ i → copied[i]? = ed[i]?
  last_eq : ∀ copied, r.copied = some copied → k.last.text copied = tlv.info
  rejected : tlv.length.toNat ≠ k.size → r.copied = none ∧ r.ed = some ed

/-- The agent is not the one that the modules serve, or its TLVs are disabled. -/
def Unserved (type : AgentType) (ed : Bytes) : Prop :=
  type ≠ .nearestCustomerBridge ∨ ed.getD EvbKind.txmit 0 = 0

/-! ### The structure -/

namespace EvbKind

variable (k : EvbKind)

theorem last_start : k.last.start = 22 + k.size := rfl

theorem last_stop : k.last.stop = 22 + k.size + k.size := rfl

theorem sent_stop : k.sent.stop = k.last.start := rfl

theorem policy_stop : k.policy.stop = k.last.stop + k.size := rfl

theorem policy_stop_le : k.policy.stop ≤ k.entry.stop := by
  show k.policy.stop ≤ (k.policy.stop + 7) / 8 * 8 + 16
  omega

theorem last_stop_le : k.last.stop ≤ k.entry.stop := by
  have hpolicy := k.policy_stop_le
  rw [policy_stop] at hpolicy
  omega

theorem sent_stop_le : k.sent.stop ≤ k.entry.stop := by
  have hlast := k.last_stop_le
  rw [last_stop] at hlast
  rw [sent_stop, last_start]
  omega

end EvbKind

/-! ### The steps of a reception -/

section Reception

variable {k : EvbKind} {ed copied : Bytes} {tlv : UnpackedTlv}

theorem copyLast_eq (k : EvbKind) (ed : Bytes) (tlv : UnpackedTlv) :
    copyLast k ed tlv = writeAt ed k.last.start tlv.info := by
  have hread : sliceAt tlv.info 0 tlv.length.toNat = .ok ⟨tlv.info, tlv.info_length⟩ := by
    unfold sliceAt
    rw [dif_pos (by rw [tlv.info_length]; omega)]
    refine congrArg Except.ok (Subtype.ext ?_)
    show (tlv.info.drop 0).take tlv.length.toNat = tlv.info
    rw [List.drop_zero, ← tlv.info_length, List.take_length]
  unfold copyLast
  rw [hread, bind_ok]

theorem copyLast_returns (hed : ed.length = k.entry.stop) (hsize : tlv.length.toNat = k.size) :
    Returns (copyLast k ed tlv) := by
  have hstop := k.last_stop_le
  have hfit : k.last.start + tlv.info.length ≤ ed.length := by
    rw [tlv.info_length, hsize, hed]
    exact hstop
  rw [copyLast_eq]
  unfold writeAt
  rw [if_pos (.inr hfit)]
  exact returns_ok _

theorem copyLast_frame (hsize : tlv.length.toNat = k.size)
    (h : copyLast k ed tlv = .ok copied) :
    copied.length = ed.length ∧ ∀ i, i < k.last.start ∨ k.last.stop ≤ i → copied[i]? = ed[i]? := by
  rw [copyLast_eq] at h
  refine ⟨(writeAt_eq_ok h).2, ?_⟩
  intro i hi
  apply writeAt_getElem? h
  rw [tlv.info_length, hsize]
  exact hi

theorem copyLast_text (hed : ed.length = k.entry.stop) (hsize : tlv.length.toNat = k.size)
    (h : copyLast k ed tlv = .ok copied) : k.last.text copied = tlv.info := by
  rw [copyLast_eq] at h
  refine Span.text_writeAt ?_ ?_ h
  · rw [hed]
    exact k.last_stop_le
  · rw [tlv.info_length, hsize]
    rfl

theorem updateSent_returns (hed : ed.length = k.entry.stop) : Returns (updateSent k ed) := by
  have hstop := k.sent_stop_le
  have hfit : k.sent.start + (k.updateTlv (k.sent.text ed) (k.last.text ed)
      (k.policy.text ed)).length ≤ ed.length := by
    rw [k.length_updateTlv, hed]
    exact hstop
  unfold updateSent writeAt
  rw [if_pos (.inr hfit)]
  exact returns_ok _

theorem evbRchange_served {type : AgentType} (htlv : EvbTlv k tlv) (hserved : ¬ Unserved type ed) :
    evbRchange k type (some ed) tlv = (do
      let copied ← copyLast k ed tlv
      let updated ← updateSent k copied
      pure { answer := .tlvOk, copied := some copied, ed := some updated }) := by
  obtain ⟨htype, htxmit⟩ := not_or.mp hserved
  have hlong : ¬ tlv.length.toNat < k.ouiSubtype.length := by
    rw [k.length_ouiSubtype]
    exact Nat.not_lt.mpr htlv.from_four
  unfold evbRchange
  simp only [if_neg htype, if_neg (not_not.mpr htlv.type_eq), if_neg hlong,
    if_neg (not_not.mpr htlv.head_eq), if_neg htxmit]

theorem evbRchange_unserved {type : AgentType} (htlv : EvbTlv k tlv) (h : Unserved type ed) :
    evbRchange k type (some ed) tlv =
      .ok { answer := .tlvOk, copied := none, ed := some ed } := by
  have hlong : ¬ tlv.length.toNat < k.ouiSubtype.length := by
    rw [k.length_ouiSubtype]
    exact Nat.not_lt.mpr htlv.from_four
  unfold evbRchange
  by_cases htype : type ≠ .nearestCustomerBridge
  · rw [if_pos htype]
  · have htxmit : ed.getD EvbKind.txmit 0 = 0 := h.resolve_left htype
    simp only [if_neg htype, if_neg (not_not.mpr htlv.type_eq), if_neg hlong,
      if_neg (not_not.mpr htlv.head_eq), if_pos htxmit]

theorem copied_of_served {type : AgentType} {r : Received} (htlv : EvbTlv k tlv)
    (hserved : ¬ Unserved type ed) (h : evbRchange k type (some ed) tlv = .ok r) :
    ∃ copied updated, copyLast k ed tlv = .ok copied ∧ updateSent k copied = .ok updated ∧
      r = { answer := .tlvOk, copied := some copied, ed := some updated } := by
  rw [evbRchange_served htlv hserved] at h
  obtain ⟨copied, hcopied, h⟩ := bind_eq_ok.mp h
  obtain ⟨updated, hupdated, h⟩ := bind_eq_ok.mp h
  cases h
  exact ⟨copied, updated, hcopied, hupdated, rfl⟩

end Reception

/-! ### The exact condition -/

theorem exact_iff_size (k : EvbKind) (type : AgentType) (ed : EvbMemory k) (tlv : UnpackedTlv)
    (htlv : EvbTlv k tlv) :
    (∃ r, evbRchange k type (some ed.bytes) tlv = .ok r ∧ r.Exact k ed.bytes tlv) ↔
      Unserved type ed.bytes ∨ tlv.length.toNat = k.size := by
  by_cases hserved : Unserved type ed.bytes
  · refine iff_of_true ⟨_, evbRchange_unserved htlv hserved, ?_⟩ (.inl hserved)
    exact ⟨nofun, nofun, fun _ => ⟨rfl, rfl⟩⟩
  constructor
  · rintro ⟨r, hr, hexact⟩
    obtain ⟨copied, updated, -, -, rfl⟩ := copied_of_served htlv hserved hr
    -- something was copied, so the TLV was not one to reject
    by_contra h
    have hsize := (not_or.mp h).2
    exact absurd (hexact.rejected hsize).1 nofun
  · intro h
    have hsize := h.resolve_left hserved
    obtain ⟨copied, hcopied⟩ := copyLast_returns ed.length_bytes hsize
    have hframe := copyLast_frame hsize hcopied
    obtain ⟨updated, hupdated⟩ := updateSent_returns (hframe.1.trans ed.length_bytes)
    refine ⟨{ answer := .tlvOk, copied := some copied, ed := some updated }, ?_, ?_⟩
    · rw [evbRchange_served htlv hserved, hcopied, bind_ok, hupdated]
      rfl
    · refine ⟨?_, ?_, fun hne => absurd hsize hne⟩
      · intro _ h
        cases h
        exact hframe
      · intro _ h
        cases h
        exact copyLast_text ed.length_bytes hsize hcopied

/-! ### The two modules -/

/-- Neither module takes a TLV as it is to, except one of its own size. -/
theorem evbRchange_exact_iff (type : AgentType) (tlv : UnpackedTlv) :
    (∀ ed : EvbMemory Evb22.kind, EvbTlv Evb22.kind tlv →
      ((∃ r, Evb22.rchange type (some ed.bytes) tlv = .ok r ∧ r.Exact Evb22.kind ed.bytes tlv) ↔
        Unserved type ed.bytes ∨ tlv.length.toNat = 9)) ∧
    (∀ (vsis : Nat) (ed : EvbMemory (Evb.kind vsis)), EvbTlv (Evb.kind vsis) tlv →
      ((∃ r, Evb.rchange vsis type (some ed.bytes) tlv = .ok r ∧
          r.Exact (Evb.kind vsis) ed.bytes tlv) ↔
        Unserved type ed.bytes ∨ tlv.length.toNat = 13)) := by
  constructor
  · intro ed htlv
    exact exact_iff_size Evb22.kind type ed tlv htlv
  · intro vsis ed htlv
    exact exact_iff_size (Evb.kind vsis) type ed tlv htlv

/-- The structure of an interface that has just come up, with TLVs enabled and a policy of a
station -/
def freshMemory : EvbMemory Evb22.kind where
  bytes := List.replicate 20 0 ++ [1, 0] ++ [0x00, 0x80, 0xc2, 0x0d, 0, 0, 0, 0, 0] ++
    List.replicate 9 0 ++ [0x00, 0x80, 0xc2, 0x0d, 0, 3, 0x6f, 0x94, 0x14] ++
    List.replicate 23 0
  length_bytes := by decide

/-- A TLV of a bridge, of nine bytes, and one more that is not the OUI of the policy -/
def bridgeTlv10 : UnpackedTlv where
  type := 127
  length := 10
  info := [0x00, 0x80, 0xc2, 0x0d, 4, 0, 0x6f, 0x54, 0x14, 0xff]
  info_length := by decide

/-- The first nine bytes of it -/
def bridgeTlv9 : UnpackedTlv where
  type := 127
  length := 9
  info := bridgeTlv10.info.take 9
  info_length := by decide

theorem evbRchange_exact_iff_nine :
    ∃ r, Evb22.rchange .nearestCustomerBridge (some freshMemory.bytes) bridgeTlv9 = .ok r ∧
      r.Exact Evb22.kind freshMemory.bytes bridgeTlv9 :=
  ((evbRchange_exact_iff .nearestCustomerBridge bridgeTlv9).1 freshMemory
    ⟨rfl, rfl, by decide, by decide⟩).mpr (.inr rfl)

/-- The tenth byte of a TLV is the first one of the local policy. -/
theorem evb22_rchange_overruns :
    EvbTlv Evb22.kind bridgeTlv10 ∧
    (∃ r copied, Evb22.rchange .nearestCustomerBridge (some freshMemory.bytes) bridgeTlv10 = .ok r ∧
      r.copied = some copied ∧ (Evb22.kind.policy.text freshMemory.bytes).head? = some 0 ∧
      (Evb22.kind.policy.text copied).head? = some 0xff) ∧
    ¬ ∃ r, Evb22.rchange .nearestCustomerBridge (some freshMemory.bytes) bridgeTlv10 = .ok r ∧
      r.Exact Evb22.kind freshMemory.bytes bridgeTlv10 := by
  refine ⟨⟨rfl, rfl, by decide, by decide⟩, ⟨_, _, rfl, rfl, rfl, rfl⟩, ?_⟩
  rintro ⟨r, hr, hexact⟩
  have hcopied := (hexact.rejected (by decide)).1
  cases hr
  exact absurd hcopied nofun

end Lldpad.Qbg
