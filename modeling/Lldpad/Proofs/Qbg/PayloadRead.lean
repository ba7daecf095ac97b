import Lldpad.Proofs.Qbg.HandledOnce
import Lldpad.Proofs.Qbg.PayloadTlvs

/-!
# `Lldpad.Proofs.Qbg.PayloadRead`: what is read of a payload

The buffer of a VDP instance keeps what is left of longer payloads behind the last one. A `Walk`
takes a payload apart by the lengths in its TLVs, up to the place where that ends. The loop of
`vdp22_ecp22in` ends where the payload does, and the loop of `vdp22_input` at an END TLV only.

* `ecp22inLoop_walk`: which walks the checks let pass.
* `decodeLoop_ended`, `decodeLoop_outside`: which walks are decoded inside the payload.
* `payload_read_iff`: the payloads of which nothing behind their end is read, and of which exactly
  the TLVs that tile them are decoded.
-/

namespace Lldpad.Qbg

open Lldpad.Lib
open Lldpad.Lldp (Bytes ethDataLen)

/-! ### The TLVs of a payload -/

/-- How the TLVs behind the manager ID end -/
inductive WalkEnd where
  /-- at an END TLV -/
  | ended
  /-- at a second manager ID -/
  | duplicate
  /-- at a TLV that is longer than what is left -/
  | long
  /-- where no header is left -/
  | cut
  deriving DecidableEq

/-- The end of a walk, if no whole TLV stands first -/
def stopAt : Bytes → Option WalkEnd
  | hi :: lo :: rest =>
    if ptlvType (headOf hi lo) = vdp22Endtlv then some .ended
    else if ptlvType (headOf hi lo) = vdp22Mgrid then some .duplicate
    else if rest.length + 2 < ptlvLength (headOf hi lo) then some .long
    else none
  | _ => some .cut

/-- Whole TLVs one behind the other, up to one of the ends -/
inductive Walk : Bytes → List Ptlv → WalkEnd → Prop where
  | stop {p : Bytes} {e : WalkEnd} (h : stopAt p = some e) : Walk p [] e
  | next {t : Ptlv} {rest : Bytes} {ts : List Ptlv} {e : WalkEnd}
      (hgoes : stopAt (t.wire ++ rest) = none) (h : Walk rest ts e) :
    Walk (t.wire ++ rest) (t :: ts) e

theorem stopAt_wire {t : Ptlv} {rest : Bytes} :
    stopAt (t.wire ++ rest) = none ↔ t.type ≠ vdp22Endtlv ∧ t.type ≠ vdp22Mgrid := by
  have hfits : ¬ (t.body ++ rest).length + 2 < ptlvLength (headOf t.hi t.lo) := by
    rw [← t.length_body, List.length_append]
    omega
  show (if t.type = vdp22Endtlv then some WalkEnd.ended
    else if t.type = vdp22Mgrid then some .duplicate
    else if (t.body ++ rest).length + 2 < ptlvLength (headOf t.hi t.lo) then some .long
    else none) = none ↔ _
  rw [if_neg hfits]
  split_ifs <;> simp_all

theorem exists_ptlv {hi lo : UInt8} {rest : Bytes}
    (h : ptlvLength (headOf hi lo) ≤ rest.length + 2) :
    ∃ (t : Ptlv) (rest' : Bytes), t.hi = hi ∧ t.lo = lo ∧ hi :: lo :: rest = t.wire ++ rest' := by
  have htwo : 2 ≤ ptlvLength (headOf hi lo) := Nat.le_add_right ..
  refine ⟨⟨hi, lo, rest.take (ptlvLength (headOf hi lo) - 2), ?_⟩,
    rest.drop (ptlvLength (headOf hi lo) - 2), rfl, rfl, ?_⟩
  · rw [List.length_take]
    omega
  · exact congrArg (hi :: lo :: ·) (List.take_append_drop ..).symm

theorem exists_ptlv_of_goes {p : Bytes} (h : stopAt p = none) :
    ∃ (t : Ptlv) (rest : Bytes), p = t.wire ++ rest := by
  match p with
  | [] | [_] => cases h
  | hi :: lo :: rest =>
    rw [stopAt] at h
    split_ifs at h with _ _ hlong
    obtain ⟨t, rest', _, _, heq⟩ := exists_ptlv (Nat.not_lt.mp hlong)
    exact ⟨t, rest', heq⟩

theorem exists_walk : ∀ (n : Nat) (p : Bytes), p.length ≤ n → ∃ ts e, Walk p ts e := by
  intro n
  induction n with
  | zero =>
    intro p h
    obtain rfl := List.length_eq_zero_iff.mp (Nat.le_zero.mp h)
    exact ⟨[], .cut, .stop rfl⟩
  | succ n ih =>
    intro p h
    cases hstop : stopAt p with
    | some e => exact ⟨[], e, .stop hstop⟩
    | none =>
      obtain ⟨t, rest, rfl⟩ := exists_ptlv_of_goes hstop
      have hwire : 2 ≤ t.wire.length := Nat.le_add_left ..
      rw [List.length_append] at h
      obtain ⟨ts, e, hwalk⟩ := ih rest (by omega)
      exact ⟨t :: ts, e, .next hstop hwalk⟩

theorem eq_of_wire_append {t u : Ptlv} {rest rest' : Bytes} (h : t.wire ++ rest = u.wire ++ rest') :
    t = u ∧ rest = rest' := by
  obtain ⟨hi, lo, body, hbody⟩ := t
  obtain ⟨hi', lo', body', hbody'⟩ := u
  obtain ⟨rfl, h⟩ := List.cons.inj h
  obtain ⟨rfl, h⟩ := List.cons.inj h
  obtain ⟨rfl, rfl⟩ := List.append_inj h (Nat.add_right_cancel (hbody.trans hbody'.symm))
  exact ⟨rfl, rfl⟩

theorem Walk.unique {p : Bytes} {ts : List Ptlv} {e : WalkEnd} (h : Walk p ts e) :
    ∀ {ts' : List Ptlv} {e' : WalkEnd}, Walk p ts' e' → ts = ts' ∧ e = e' := by
  induction h with
  | stop hstop =>
    intro ts' e' h'
    cases h' with
    | stop hstop' => exact ⟨rfl, Option.some.inj (hstop.symm.trans hstop')⟩
    | next hgoes => cases hstop.symm.trans hgoes
  | @next t rest ts e hgoes _ ih =>
    intro ts' e' h'
    generalize hp : t.wire ++ rest = p at h'
    cases h' with
    | stop hstop =>
      rw [hp] at hgoes
      cases hstop.symm.trans hgoes
    | next _ hrest =>
      obtain ⟨rfl, rfl⟩ := eq_of_wire_append hp
      obtain ⟨rfl, rfl⟩ := ih hrest
      exact ⟨rfl, rfl⟩

/-! ### The checks -/

theorem ecp22inSwitch_wire {t : Ptlv} {rest : Bytes} (h : stopAt (t.wire ++ rest) = none) :
    ecp22inSwitch (headOf t.hi t.lo) ((t.wire ++ rest).length : Nat) = .taken t.wire.length := by
  obtain ⟨hend, hmgrid⟩ := stopAt_wire.mp h
  have htwo : ¬ ptlvLength (headOf t.hi t.lo) = 0 := by
    rw [← t.length_body]
    omega
  have hfits : ¬ ((ptlvLength (headOf t.hi t.lo) : Nat) : Int) >
      ((t.wire ++ rest).length : Nat) := by
    rw [List.length_append, t.length_wire]
    omega
  unfold Ptlv.type at hend hmgrid
  unfold ecp22inSwitch
  rw [if_neg hend, if_neg hmgrid, if_neg hfits, if_neg htwo, ite_self, t.length_wire]

/-- The `switch` where no whole TLV stands: the message ends, or it is dropped, at once or because
too many bytes are taken off. -/
theorem ecp22inSwitch_stop {hi lo : UInt8} {rest : Bytes} {e : WalkEnd}
    (h : stopAt (hi :: lo :: rest) = some e) :
    e = .ended ∧ ecp22inSwitch (headOf hi lo) (rest.length + 2 : Nat) = .ended ∨
      e ≠ .ended ∧ (ecp22inSwitch (headOf hi lo) (rest.length + 2 : Nat) = .dropped ∨
        ∃ n, ecp22inSwitch (headOf hi lo) (rest.length + 2 : Nat) = .taken n ∧
          rest.length + 2 < n) := by
  rw [stopAt] at h
  unfold ecp22inSwitch
  by_cases hend : ptlvType (headOf hi lo) = vdp22Endtlv
  · rw [if_pos hend] at h ⊢
    exact .inl ⟨(Option.some.inj h).symm, rfl⟩
  rw [if_neg hend] at h ⊢
  by_cases hmgrid : ptlvType (headOf hi lo) = vdp22Mgrid
  · rw [if_pos hmgrid] at h ⊢
    obtain rfl := Option.some.inj h
    exact .inr ⟨nofun, .inl rfl⟩
  rw [if_neg hmgrid] at h ⊢
  split at h
  · next hlong =>
    obtain rfl := Option.some.inj h
    refine .inr ⟨nofun, ?_⟩
    by_cases hmode : isVsiMode (ptlvType (headOf hi lo)) = true
    · rw [if_pos hmode, if_pos (by omega)]
      exact .inl rfl
    · rw [if_neg hmode, if_neg (by omega)]
      exact .inr ⟨_, rfl, hlong⟩
  · cases h

theorem Walk.two_le {p : Bytes} {ts : List Ptlv} {e : WalkEnd} (h : Walk p ts e) (hcut : e ≠ .cut) :
    2 ≤ p.length := by
  cases h with
  | stop hstop =>
    match p with
    | [] | [_] =>
      cases hstop
      exact absurd rfl hcut
    | _ :: _ :: rest => exact Nat.le_add_left ..
  | next =>
    rw [List.length_append]
    exact Nat.le_trans (Nat.le_add_left ..) (Nat.le_add_right ..)

theorem append_wire (before rest after : Bytes) (t : Ptlv) :
    before ++ (t.wire ++ rest) ++ after = before ++ t.wire ++ rest ++ after := by
  simp only [List.append_assoc]

/-- The loop of the checks over a walk that does not run out of bytes: the payload is accepted at
an END TLV, and dropped elsewhere. Nothing behind the payload matters. -/
theorem ecp22inLoop_walk {s : Bytes} {ts : List Ptlv} {e : WalkEnd} (h : Walk s ts e)
    (hcut : e ≠ .cut) (after : Bytes) : ∀ (before : Bytes) (fuel : Nat), s.length < fuel →
    ∃ left, ecp22inLoop (before ++ s ++ after) fuel before.length s.length = .ok left ∧
      (left.any (0 ≤ ·) = true ↔ e = .ended) := by
  induction h with
  | @stop s e hstop =>
    intro before fuel hfuel
    have htwo := (Walk.stop hstop).two_le hcut
    match s with
    | hi :: lo :: rest =>
      obtain ⟨fuel, rfl⟩ : ∃ n, fuel = n + 1 := ⟨fuel - 1, by omega⟩
      unfold ecp22inLoop
      rw [ptlvAt_middle, bind_ok]
      have hlen : (hi :: lo :: rest).length = rest.length + 2 := rfl
      rw [hlen]
      rcases ecp22inSwitch_stop hstop with ⟨rfl, hsw⟩ | ⟨hne, hsw | ⟨n, hsw, hlong⟩⟩
      · rw [hsw]
        exact ⟨some 0, rfl, by simp⟩
      · rw [hsw]
        exact ⟨none, rfl, by simp [hne]⟩
      · rw [hsw]
        dsimp only
        rw [if_neg (by omega)]
        refine ⟨_, rfl, iff_of_false ?_ hne⟩
        simp only [Option.any_some, decide_eq_true_eq]
        omega
  | @next t rest ts e hgoes hrest ih =>
    intro before fuel hfuel
    obtain ⟨fuel, rfl⟩ : ∃ n, fuel = n + 1 := ⟨fuel - 1, by omega⟩
    have hwire : 2 ≤ t.wire.length := Nat.le_add_left ..
    have htwo := hrest.two_le hcut
    rw [List.length_append] at hfuel
    unfold ecp22inLoop
    have hhead : ptlvAt (before ++ (t.wire ++ rest) ++ after) before.length =
        .ok (headOf t.hi t.lo) := ptlvAt_middle before after t.hi t.lo (t.body ++ rest)
    have hleft : (((t.wire ++ rest).length : Nat) : Int) - (t.wire.length : Nat) =
        (rest.length : Nat) := by
      rw [List.length_append]
      omega
    rw [hhead, bind_ok, ecp22inSwitch_wire hgoes]
    dsimp only
    rw [hleft, if_pos (by omega), append_wire, ← List.length_append]
    exact ih hcut (before ++ t.wire) fuel (by omega)

theorem cut_length {p : Bytes} {e : WalkEnd} (h : stopAt p = some e) (hcut : e = .cut) :
    p.length < 2 := by
  subst hcut
  match p with
  | [] => exact Nat.zero_lt_two
  | [_] => exact Nat.one_lt_two
  | hi :: lo :: rest =>
    rw [stopAt] at h
    split_ifs at h <;> cases h

/-- The loop over a walk that runs out of bytes, without anything behind them: what it leaves, if
it returns, is accepted. -/
theorem ecp22inLoop_cut {s : Bytes} {ts : List Ptlv} {e : WalkEnd} (h : Walk s ts e)
    (hcut : e = .cut) : ∀ (before : Bytes) (fuel : Nat) (left : Option Int),
    ecp22inLoop (before ++ s) fuel before.length s.length = .ok left →
    left.any (0 ≤ ·) = true := by
  induction h with
  | @stop s e hstop =>
    intro before fuel left hloop
    have hshort := cut_length hstop hcut
    cases fuel with
    | zero => cases hloop
    | succ fuel =>
      -- there is no header
      obtain ⟨head, hhead, _⟩ := bind_eq_ok.mp hloop
      have hread := extract2o_returns.mp ⟨head, hhead⟩
      rw [List.length_append] at hread
      omega
  | @next t rest ts e hgoes hrest ih =>
    intro before fuel left hloop
    cases fuel with
    | zero => cases hloop
    | succ fuel =>
      have hhead : ptlvAt (before ++ (t.wire ++ rest)) before.length = .ok (headOf t.hi t.lo) := by
        have h := ptlvAt_middle before [] t.hi t.lo (t.body ++ rest)
        rw [List.append_nil] at h
        exact h
      have hleft : (((t.wire ++ rest).length : Nat) : Int) - (t.wire.length : Nat) =
          (rest.length : Nat) := by
        rw [List.length_append]
        omega
      unfold ecp22inLoop at hloop
      rw [hhead, bind_ok, ecp22inSwitch_wire hgoes] at hloop
      dsimp only at hloop
      rw [hleft, ← List.append_assoc, ← List.length_append] at hloop
      split at hloop
      · exact ih hcut (before ++ t.wire) fuel left hloop
      · cases hloop
        simp

/-! ### The nodes -/

/-- The fixed part of each VSI TLV is inside, where `n` bytes are left of the payload. -/
def FixedInside : List Ptlv → Nat → Prop
  | [], _ => True
  | t :: ts, n => (isVsiMode t.type = true → 27 ≤ n) ∧ FixedInside ts (n - t.wire.length)

theorem head_middle (before rest after : Bytes) (t : Ptlv) :
    ptlvAt (before ++ (t.wire ++ rest) ++ after) before.length = .ok (headOf t.hi t.lo) :=
  ptlvAt_middle before after t.hi t.lo (t.body ++ rest)

/-- The nodes of a walk that ends at an END TLV, whatever stands behind it -/
theorem decodeLoop_ended {role : Vdp22Role} {s : Bytes} {ts : List Ptlv} {e : WalkEnd}
    {g : Octets 16} (h : Walk s ts e) (hended : e = .ended) (after : Bytes) :
    ∀ (before : Bytes) (fuel : Nat) (v : Vsi22), s.length < fuel → FixedInside ts s.length →
      OnStack g v →
      decodeLoop role (before ++ s ++ after) fuel before.length v =
        .ok (ts.filterMap (Ptlv.node role g)) := by
  induction h with
  | @stop s e hstop =>
    intro before fuel v hfuel _ _
    have htwo := (Walk.stop hstop).two_le (by rw [hended]; nofun)
    match s with
    | hi :: lo :: rest =>
      obtain ⟨fuel, rfl⟩ : ∃ n, fuel = n + 1 := ⟨fuel - 1, by omega⟩
      have hend : ptlvType (headOf hi lo) = vdp22Endtlv := by
        rw [stopAt] at hstop
        split_ifs at hstop with hend <;> cases hstop <;> first | exact hend | cases hended
      unfold decodeLoop
      rw [ptlvAt_middle, bind_ok, if_pos hend]
      rfl
  | @next t rest ts e hgoes hrest ih =>
    intro before fuel v hfuel hinside hv
    obtain ⟨hend, hmgrid⟩ := stopAt_wire.mp hgoes
    obtain ⟨hfixed, hinside⟩ := hinside
    have hwire : 2 ≤ t.wire.length := Nat.le_add_left ..
    have hlen : (t.wire ++ rest).length = t.wire.length + rest.length := List.length_append
    obtain ⟨fuel, rfl⟩ : ∃ n, fuel = n + 1 := ⟨fuel - 1, by omega⟩
    rw [hlen, Nat.add_sub_cancel_left] at hinside
    -- what is decoded of this TLV
    obtain ⟨x, hx, hstack, hkeep⟩ : ∃ x,
        decodeTlv role (before ++ (t.wire ++ rest) ++ after) before.length t.type v = .ok x ∧
          OnStack g x.1 ∧ ∀ nodes, keepNode x nodes = (t.node role g).toList ++ nodes := by
      unfold decodeTlv
      rw [if_neg hmgrid]
      split
      · next hmode => exact decode_vsi hmode (hfixed hmode) hv before after
      · next hmode =>
        refine ⟨_, rfl, hv, fun nodes => ?_⟩
        have hnode : t.node role g = none := if_neg hmode
        rw [hnode]
        rfl
    unfold decodeLoop
    rw [head_middle, bind_ok]
    show (if t.type = vdp22Endtlv then _ else
      decodeTlv role (before ++ (t.wire ++ rest) ++ after) before.length t.type v >>= _) = _
    rw [if_neg hend, hx, bind_ok, ← t.length_wire, append_wire, ← List.length_append,
      ih hended (before ++ t.wire) fuel x.1 (by omega) hinside hstack]
    show Except.ok (keepNode x _) = _
    rw [hkeep, List.filterMap_cons]
    cases t.node role g <;> rfl

/-- A walk that runs out of bytes, or a fixed part that does: the payload alone is not enough. -/
theorem decodeLoop_outside {role : Vdp22Role} {s : Bytes} {ts : List Ptlv} {e : WalkEnd}
    (h : Walk s ts e) : ∀ (before : Bytes) (fuel : Nat) (v : Vsi22),
    e = .cut ∨ ¬ FixedInside ts s.length →
    ¬ Returns (decodeLoop role (before ++ s) fuel before.length v) := by
  induction h with
  | @stop s e hstop =>
    intro before fuel v hout
    have hshort := cut_length hstop (hout.resolve_right (not_not_intro trivial))
    cases fuel with
    | zero => exact not_returns_error _
    | succ fuel =>
      rintro ⟨nodes, hnodes⟩
      obtain ⟨head, hhead, _⟩ := bind_eq_ok.mp hnodes
      have hread := extract2o_returns.mp ⟨head, hhead⟩
      rw [List.length_append] at hread
      omega
  | @next t rest ts e hgoes hrest ih =>
    intro before fuel v hout
    obtain ⟨hend, hmgrid⟩ := stopAt_wire.mp hgoes
    cases fuel with
    | zero => exact not_returns_error _
    | succ fuel =>
      rintro ⟨nodes, hnodes⟩
      have hhead := head_middle before rest [] t
      rw [List.append_nil] at hhead
      unfold decodeLoop at hnodes
      rw [hhead, bind_ok] at hnodes
      have hnodes : (if t.type = vdp22Endtlv then _ else
        decodeTlv role (before ++ (t.wire ++ rest)) before.length t.type v >>= _) = _ := hnodes
      rw [if_neg hend] at hnodes
      obtain ⟨x, hx, hnodes⟩ := bind_eq_ok.mp hnodes
      obtain ⟨nodes', hnodes', _⟩ := bind_eq_ok.mp hnodes
      rw [← t.length_wire, ← List.append_assoc, ← List.length_append] at hnodes'
      refine ih (before ++ t.wire) fuel x.1 ?_ ⟨nodes', hnodes'⟩
      refine hout.imp_right fun hout hinside => hout ⟨fun hmode => ?_, ?_⟩
      · -- the fixed part was read
        unfold decodeTlv at hx
        rw [if_neg hmgrid, if_pos hmode] at hx
        obtain ⟨y, hy, _⟩ := bind_eq_ok.mp hx
        have hread := fixed_returns.mp ⟨y, hy⟩
        rw [List.length_append] at hread
        omega
      · rw [List.length_append, Nat.add_sub_cancel_left]
        exact hinside

/-! ### What is meant -/

/-- An END TLV, or nothing -/
def EndsThere (rest : Bytes) : Prop :=
  rest = [] ∨ ∃ hi lo more, rest = hi :: lo :: more ∧ ptlvType (headOf hi lo) = vdp22Endtlv

/-- The TLVs tile the payload, with or without an END TLV. -/
def TiledBy (p : Bytes) (ts : List Ptlv) : Prop :=
  (∀ t ∈ ts, t.type ≠ vdp22Endtlv) ∧ ∃ rest, p = ts.flatMap Ptlv.wire ++ rest ∧ EndsThere rest

/-- The payload is a manager ID of 16 bytes, and TLVs of other kinds. -/
structure FormedPayload (p : Bytes) (m : Ptlv) (ts : List Ptlv) : Prop where
  tiled : TiledBy p (m :: ts)
  mgrid : m.type = vdp22Mgrid
  length_eq : m.body.length = 16
  only : ∀ t ∈ ts, t.type ≠ vdp22Mgrid

/-- The nodes that a payload means: those of the TLVs that tile it, if it is well formed -/
inductive Meant (role : Vdp22Role) (p : Bytes) : Option (List Vsi22) → Prop where
  | taken {m : Ptlv} {ts : List Ptlv} (h : FormedPayload p m ts) :
    Meant role p (some (ts.filterMap (Ptlv.node role ⟨m.body, h.length_eq⟩)))
  | refused (h : ∀ m ts, ¬ FormedPayload p m ts) : Meant role p none

theorem tiledBy_cons {p : Bytes} {m : Ptlv} {ts : List Ptlv} (h : TiledBy p (m :: ts)) :
    ∃ s, p = m.wire ++ s ∧ TiledBy s ts := by
  obtain ⟨htypes, rest, rfl, hend⟩ := h
  refine ⟨ts.flatMap Ptlv.wire ++ rest, ?_, (List.forall_mem_cons.mp htypes).2, rest, rfl, hend⟩
  rw [List.flatMap_cons, List.append_assoc]

theorem walk_of_tiled {ts : List Ptlv} : ∀ {p : Bytes}, TiledBy p ts →
    (∀ t ∈ ts, t.type ≠ vdp22Mgrid) → ∃ e, Walk p ts e ∧ (e = .ended ∨ e = .cut) := by
  induction ts with
  | nil =>
    rintro p ⟨_, rest, rfl, hend⟩ _
    rcases hend with rfl | ⟨hi, lo, more, rfl, hend⟩
    · exact ⟨.cut, .stop rfl, .inr rfl⟩
    · exact ⟨.ended, .stop (if_pos hend), .inl rfl⟩
  | cons t ts ih =>
    intro p h honly
    have htype := h.1 t List.mem_cons_self
    obtain ⟨hmgrid, honly⟩ := List.forall_mem_cons.mp honly
    obtain ⟨s, rfl, hs⟩ := tiledBy_cons h
    obtain ⟨e, hwalk, he⟩ := ih hs honly
    exact ⟨e, .next (stopAt_wire.mpr ⟨htype, hmgrid⟩) hwalk, he⟩

theorem Walk.tiled {p : Bytes} {ts : List Ptlv} {e : WalkEnd} (h : Walk p ts e) (he : e = .ended) :
    TiledBy p ts ∧ ∀ t ∈ ts, t.type ≠ vdp22Mgrid := by
  induction h with
  | @stop p e hstop =>
    subst he
    refine ⟨⟨nofun, p, rfl, .inr ?_⟩, nofun⟩
    match p with
    | [] | [_] => cases hstop
    | hi :: lo :: rest =>
      rw [stopAt] at hstop
      split_ifs at hstop with hend
      · exact ⟨hi, lo, rest, rfl, hend⟩
      all_goals cases hstop
  | @next t rest ts e hgoes _ ih =>
    obtain ⟨hend, hmgrid⟩ := stopAt_wire.mp hgoes
    obtain ⟨⟨htypes, more, hmore, hthere⟩, honly⟩ := ih he
    refine ⟨⟨List.forall_mem_cons.mpr ⟨hend, htypes⟩, more, ?_, hthere⟩,
      List.forall_mem_cons.mpr ⟨hmgrid, honly⟩⟩
    rw [List.flatMap_cons, List.append_assoc, ← hmore]

theorem FormedPayload.walk {m m' : Ptlv} {s : Bytes} {ts ts' : List Ptlv} {e : WalkEnd}
    (h : FormedPayload (m.wire ++ s) m' ts') (hwalk : Walk s ts e) :
    m' = m ∧ ts' = ts ∧ (e = .ended ∨ e = .cut) := by
  obtain ⟨s', hs, htiled⟩ := tiledBy_cons h.tiled
  obtain ⟨rfl, rfl⟩ := eq_of_wire_append hs
  obtain ⟨e', hwalk', he⟩ := walk_of_tiled htiled h.only
  obtain ⟨rfl, rfl⟩ := hwalk.unique hwalk'
  exact ⟨rfl, rfl, he⟩

/-! ### The manager ID -/

section Mgrid

variable {m : Ptlv} {s : Bytes} {ts : List Ptlv} {e : WalkEnd} {role : Vdp22Role}

theorem mgrid_head (m : Ptlv) (s after : Bytes) :
    ptlvAt (m.wire ++ s ++ after) 0 = .ok (headOf m.hi m.lo) := rfl

theorem ecp22inAccepts_mgrid (hm : m.type = vdp22Mgrid) (s after : Bytes) :
    ecp22inAccepts (m.wire ++ s ++ after) (m.wire ++ s).length =
      (ecp22inLoop (m.wire ++ s ++ after) ((m.wire ++ s ++ after).length + 1) m.wire.length
        s.length).map fun left => left.any (0 ≤ ·) := by
  have hlen : (m.wire ++ s).length = m.wire.length + s.length := List.length_append
  have hleft : (((m.wire ++ s).length : Nat) : Int) - (m.wire.length : Nat) = (s.length : Nat) := by
    omega
  have htype : ptlvType (headOf m.hi m.lo) = vdp22Mgrid := hm
  unfold ecp22inAccepts
  rw [mgrid_head, bind_ok, if_neg (not_not_intro htype), ← m.length_wire, if_neg (by omega)]
  dsimp only
  rw [hleft]
  cases ecp22inLoop (m.wire ++ s ++ after) ((m.wire ++ s ++ after).length + 1) m.wire.length
    s.length <;> rfl

theorem decodeLoop_mgrid (role : Vdp22Role) (hm : m.type = vdp22Mgrid) (s after : Bytes)
    (fuel : Nat) :
    decodeLoop role (m.wire ++ s ++ after) (fuel + 1) 0 {} =
      extractNo (m.wire ++ s ++ after) 2 16 >>= fun g =>
        decodeLoop role (m.wire ++ s ++ after) fuel m.wire.length { mgrid := g } := by
  have htype : ptlvType (headOf m.hi m.lo) = vdp22Mgrid := hm
  have hend : ¬ ptlvType (headOf m.hi m.lo) = vdp22Endtlv := by
    rw [htype]
    decide
  conv_lhs => unfold decodeLoop decodeTlv
  rw [mgrid_head, bind_ok, if_neg hend, if_pos htype, ← m.length_wire, Nat.zero_add, Nat.zero_add]
  cases extractNo (m.wire ++ s ++ after) 2 16 with
  | error e => rfl
  | ok g =>
    show (decodeLoop role (m.wire ++ s ++ after) fuel m.wire.length { mgrid := g } >>= fun nodes =>
      pure (keepNode ({ mgrid := g }, false) nodes)) =
        decodeLoop role (m.wire ++ s ++ after) fuel m.wire.length { mgrid := g }
    cases decodeLoop role (m.wire ++ s ++ after) fuel m.wire.length { mgrid := g } <;> rfl

theorem onStack_mgrid (g : Octets 16) : OnStack g { mgrid := g } :=
  ⟨⟨0, 0, 0, 0, .zero 16, 0⟩, [], 0, rfl⟩

theorem extractNo_mgrid (h : m.body.length = 16) (s : Bytes) :
    extractNo (m.wire ++ s) 2 16 = .ok ⟨m.body, h⟩ := by
  have hread := sliceAt_middle [m.hi, m.lo] m.body s (j := 0) (n := 16)
    (Nat.le_of_eq h.symm)
  have hwhole : sliceAt m.body 0 16 = .ok ⟨m.body, h⟩ := by
    unfold sliceAt
    rw [dif_pos (Nat.le_of_eq h.symm)]
    refine congrArg Except.ok (Subtype.ext ?_)
    show (m.body.drop 0).take 16 = m.body
    rw [List.drop_zero, ← h, List.take_length]
  unfold extractNo
  rw [show sliceAt (m.wire ++ s) 2 16 = _ from hread.trans hwhole]
  rfl

theorem decoded_ended {brDown : Bool} (hup : ¬ (role = .bridge ∧ brDown = true))
    (hm : m.type = vdp22Mgrid) (hwalk : Walk s ts .ended) (hlen : 18 ≤ (m.wire ++ s).length)
    (hinside : FixedInside ts s.length) :
    ∃ g, extractNo (m.wire ++ s) 2 16 = .ok g ∧ ∀ after,
      decoded brDown role (m.wire ++ s ++ after) (m.wire ++ s).length =
        .ok (some (ts.filterMap (Ptlv.node role g))) := by
  obtain ⟨g, hg⟩ := extractNo_returns.mpr (show 2 + 16 ≤ (m.wire ++ s).length from hlen)
  refine ⟨g, hg, fun after => ?_⟩
  have hg' : extractNo (m.wire ++ s ++ after) 2 16 = .ok g :=
    (extractNo_middle [] (m.wire ++ s) after (j := 2) hlen).trans hg
  have hwire : 2 ≤ m.wire.length := Nat.le_add_left ..
  have hall : (m.wire ++ s ++ after).length = m.wire.length + s.length + after.length := by
    simp only [List.length_append]
  obtain ⟨left, hleft, haccepts⟩ := ecp22inLoop_walk hwalk nofun after m.wire
    ((m.wire ++ s ++ after).length + 1) (by omega)
  unfold decoded
  rw [if_neg hup, ecp22inAccepts_mgrid hm, hleft]
  show (if left.any (0 ≤ ·) = true then _ else _) = _
  rw [if_pos (haccepts.mpr rfl), decodeLoop_mgrid role hm, hg', bind_ok,
    decodeLoop_ended hwalk rfl after m.wire _ _ (by omega) hinside (onStack_mgrid g)]
  rfl

theorem decoded_dropped {brDown : Bool} (hm : m.type = vdp22Mgrid) (hwalk : Walk s ts e)
    (he : e = .duplicate ∨ e = .long) (after : Bytes) :
    decoded brDown role (m.wire ++ s ++ after) (m.wire ++ s).length = .ok none := by
  have hcut : e ≠ .cut := by rcases he with rfl | rfl <;> nofun
  have hended : e ≠ .ended := by rcases he with rfl | rfl <;> nofun
  have hall : (m.wire ++ s ++ after).length = m.wire.length + s.length + after.length := by
    simp only [List.length_append]
  obtain ⟨left, hleft, haccepts⟩ := ecp22inLoop_walk hwalk hcut after m.wire
    ((m.wire ++ s ++ after).length + 1) (by omega)
  unfold decoded
  split
  · rfl
  · rw [ecp22inAccepts_mgrid hm, hleft]
    show (if left.any (0 ≤ ·) = true then _ else _) = _
    rw [if_neg (mt haccepts.mp hended)]
    rfl

theorem decoded_outside {brDown : Bool} (hup : ¬ (role = .bridge ∧ brDown = true))
    (hm : m.type = vdp22Mgrid) (hwalk : Walk s ts e) (he : e = .ended ∨ e = .cut)
    (hout : e = .cut ∨ (m.wire ++ s).length < 18 ∨ ¬ FixedInside ts s.length) :
    ¬ Returns (decoded brDown role (m.wire ++ s) (m.wire ++ s).length) := by
  rintro ⟨nodes, hnodes⟩
  unfold decoded at hnodes
  rw [if_neg hup] at hnodes
  obtain ⟨accepted, haccepted, hnodes⟩ := bind_eq_ok.mp hnodes
  have haccepts := ecp22inAccepts_mgrid hm s []
  rw [List.append_nil] at haccepts
  rw [haccepts] at haccepted
  -- the checks let it pass
  obtain ⟨left, hleft, rfl⟩ : ∃ left, ecp22inLoop (m.wire ++ s) ((m.wire ++ s).length + 1)
      m.wire.length s.length = .ok left ∧ left.any (0 ≤ ·) = accepted := by
    revert haccepted
    cases ecp22inLoop (m.wire ++ s) ((m.wire ++ s).length + 1) m.wire.length s.length with
    | error e => exact nofun
    | ok left => exact fun h => ⟨left, rfl, Except.ok.inj h⟩
  have hpass : left.any (0 ≤ ·) = true := by
    rcases he with rfl | rfl
    · obtain ⟨left', hleft', hends⟩ := ecp22inLoop_walk hwalk nofun [] m.wire
        ((m.wire ++ s).length + 1) (by rw [List.length_append]; omega)
      rw [List.append_nil, hleft] at hleft'
      cases hleft'
      exact hends.mpr rfl
    · exact ecp22inLoop_cut hwalk rfl m.wire _ _ hleft
  rw [if_pos hpass] at hnodes
  obtain ⟨nodes', hnodes', _⟩ := bind_eq_ok.mp hnodes
  have hloop := decodeLoop_mgrid role hm s [] (m.wire ++ s).length
  rw [List.append_nil] at hloop
  rw [hloop] at hnodes'
  obtain ⟨g, hg, hrest⟩ := bind_eq_ok.mp hnodes'
  have hlen := extractNo_returns.mp ⟨g, hg⟩
  refine decodeLoop_outside hwalk m.wire _ _ ?_ ⟨_, hrest⟩
  exact hout.imp_right fun h => h.resolve_left (by omega)

end Mgrid

/-! ### The payloads that are read as they stand -/

/-- With `mem` in the buffer, `vdp22_ecp22in` does what the payload `p` means, and it does the same
without a byte behind the payload. -/
def PayloadRead (brDown : Bool) (role : Vdp22Role) (mem p : Bytes) : Prop :=
  ∃ nodes : Option (List Vsi22),
    ((role = .bridge ∧ brDown = true) ∧ nodes = none ∨ Meant role p nodes) ∧
      ∀ c : Vdp22Ctx, c.myrole = role →
        vdp22Ecp22in brDown p p.length c = acted nodes c ∧
          vdp22Ecp22in brDown mem p.length c = acted nodes c

/-- The first TLV is no manager ID, or it is longer than the payload. -/
def NoMgrid (p : Bytes) : Prop :=
  ∃ hi lo rest, p = hi :: lo :: rest ∧
    (ptlvType (headOf hi lo) ≠ vdp22Mgrid ∨ rest.length + 2 < ptlvLength (headOf hi lo))

/-- Behind the manager ID and whole TLVs stands a second manager ID, or a TLV that is longer than
what is left. -/
def BreaksOff (p : Bytes) : Prop :=
  ∃ (m : Ptlv) (s : Bytes) (ts : List Ptlv) (e : WalkEnd), p = m.wire ++ s ∧
    m.type = vdp22Mgrid ∧ Walk s ts e ∧ (e = .duplicate ∨ e = .long)

/-- A manager ID of 16 bytes, and behind it whole TLVs up to an END TLV. The fixed part of each VSI
TLV is inside the payload. -/
def Enclosed (p : Bytes) : Prop :=
  ∃ (m : Ptlv) (s : Bytes) (ts : List Ptlv), p = m.wire ++ s ∧ m.type = vdp22Mgrid ∧
    m.body.length = 16 ∧ Walk s ts .ended ∧ FixedInside ts s.length

/-- What a payload starts with -/
inductive PayloadStart (p : Bytes) : Prop where
  | short (h : p.length < 2)
  | noMgrid (h : NoMgrid p)
  | mgrid (m : Ptlv) (s : Bytes) (ts : List Ptlv) (e : WalkEnd) (hp : p = m.wire ++ s)
      (hm : m.type = vdp22Mgrid) (hwalk : Walk s ts e)

theorem payload_start (p : Bytes) : PayloadStart p := by
  match p with
  | [] | [_] => exact .short (by simp)
  | hi :: lo :: rest =>
    by_cases hno : ptlvType (headOf hi lo) ≠ vdp22Mgrid ∨
        rest.length + 2 < ptlvLength (headOf hi lo)
    · exact .noMgrid ⟨hi, lo, rest, rfl, hno⟩
    · rw [not_or, not_not, Nat.not_lt] at hno
      obtain ⟨m, s, rfl, rfl, hp⟩ := exists_ptlv hno.2
      obtain ⟨ts, e, hwalk⟩ := exists_walk s.length s (Nat.le_refl _)
      exact .mgrid m s ts e hp hno.1 hwalk

section Read

variable {brDown : Bool} {role : Vdp22Role} {p : Bytes}

theorem payloadRead_of_decoded {after : Bytes} (nodes : Option (List Vsi22))
    (hmeant : (role = .bridge ∧ brDown = true) ∧ nodes = none ∨ Meant role p nodes)
    (h : ∀ after, decoded brDown role (p ++ after) p.length = .ok nodes) :
    PayloadRead brDown role (p ++ after) p := by
  refine ⟨nodes, hmeant, ?_⟩
  rintro c rfl
  have halone := h []
  rw [List.append_nil] at halone
  rw [vdp22Ecp22in_eq, vdp22Ecp22in_eq, halone, h after]
  exact ⟨rfl, rfl⟩

theorem PayloadRead.decoded_alone {mem : Bytes} (h : PayloadRead brDown role mem p) :
    ∃ nodes nodes' : Option (List Vsi22), decoded brDown role p p.length = .ok nodes' ∧
      nodes'.isSome = nodes.isSome ∧
        ((role = .bridge ∧ brDown = true) ∧ nodes = none ∨ Meant role p nodes) := by
  obtain ⟨nodes, hmeant, hread⟩ := h
  obtain ⟨halone, _⟩ := hread (vdp22Create role) rfl
  obtain ⟨d, hd⟩ := acted_eq nodes (vdp22Create role)
  rw [vdp22Ecp22in_eq, hd] at halone
  obtain ⟨nodes', hnodes', hacted⟩ := bind_eq_ok.mp halone
  obtain ⟨d', hd'⟩ := acted_eq nodes' (vdp22Create role)
  rw [hd'] at hacted
  exact ⟨nodes, nodes', hnodes', congrArg Prod.snd (Except.ok.inj hacted), hmeant⟩

theorem formedPayload_of_walk {m : Ptlv} {s : Bytes} {ts : List Ptlv} (hm : m.type = vdp22Mgrid)
    (hlen : m.body.length = 16) (hwalk : Walk s ts .ended) : FormedPayload (m.wire ++ s) m ts := by
  obtain ⟨⟨htypes, rest, hs, hend⟩, honly⟩ := hwalk.tiled rfl
  have hother : m.type ≠ vdp22Endtlv := by
    rw [hm]
    decide
  refine ⟨⟨List.forall_mem_cons.mpr ⟨hother, htypes⟩, rest, ?_, hend⟩, hm, hlen, honly⟩
  rw [List.flatMap_cons, List.append_assoc, ← hs]

theorem payloadRead_of_noMgrid (h : NoMgrid p) (after : Bytes) :
    PayloadRead brDown role (p ++ after) p := by
  obtain ⟨hi, lo, rest, rfl, hno⟩ := h
  refine payloadRead_of_decoded none (.inr (.refused ?_)) fun after => ?_
  · rintro m ts hformed
    obtain ⟨s, hs, _⟩ := tiledBy_cons hformed.tiled
    have hlen := congrArg List.length hs
    obtain ⟨hhi, htail⟩ := List.cons.inj hs
    obtain ⟨hlo, _⟩ := List.cons.inj htail
    subst hhi hlo
    rw [List.length_append, m.length_wire] at hlen
    refine hno.elim (· hformed.mgrid) fun hlong => ?_
    simp only [List.length_cons] at hlen
    omega
  · have hhead : ptlvAt (hi :: lo :: rest ++ after) 0 = .ok (headOf hi lo) := rfl
    unfold decoded ecp22inAccepts
    rw [hhead, bind_ok]
    split
    · rfl
    · by_cases htype : ptlvType (headOf hi lo) = vdp22Mgrid
      · rw [if_neg (not_not_intro htype),
          if_pos (show (hi :: lo :: rest).length < _ from hno.resolve_left (not_not_intro htype))]
        rfl
      · rw [if_pos htype]
        rfl

theorem payloadRead_of_breaksOff (h : BreaksOff p) (after : Bytes) :
    PayloadRead brDown role (p ++ after) p := by
  obtain ⟨m, s, ts, e, rfl, hm, hwalk, he⟩ := h
  refine payloadRead_of_decoded none (.inr (.refused ?_))
    (decoded_dropped hm hwalk he)
  intro m' ts' hformed
  obtain ⟨_, _, hend⟩ := hformed.walk hwalk
  rcases he with rfl | rfl <;> rcases hend with hend | hend <;> cases hend

theorem payloadRead_of_enclosed (hup : ¬ (role = .bridge ∧ brDown = true)) (h : Enclosed p)
    (after : Bytes) : PayloadRead brDown role (p ++ after) p := by
  obtain ⟨m, s, ts, rfl, hm, hlen, hwalk, hinside⟩ := h
  have hwire : 18 ≤ (m.wire ++ s).length := by
    have hm : m.wire.length = m.body.length + 2 := rfl
    rw [List.length_append]
    omega
  obtain ⟨g, hg, hdecoded⟩ := decoded_ended hup hm hwalk hwire hinside
  cases hg.symm.trans (extractNo_mgrid hlen s)
  exact payloadRead_of_decoded _ (.inr (.taken (formedPayload_of_walk hm hlen hwalk))) hdecoded

/-- The payloads that are read as they stand -/
theorem payload_read_iff (after : Bytes) :
    PayloadRead brDown role (p ++ after) p ↔
      (role = .bridge ∧ brDown = true) ∨ NoMgrid p ∨ BreaksOff p ∨ Enclosed p := by
  by_cases hup : role = .bridge ∧ brDown = true
  · refine iff_of_true ?_ (.inl hup)
    refine payloadRead_of_decoded none (.inl ⟨hup, rfl⟩) fun after => ?_
    unfold decoded
    rw [if_pos hup]
    rfl
  constructor
  · intro hread
    obtain ⟨nodes, nodes', hdecoded, hsome, hmeant⟩ := hread.decoded_alone
    have hmeant := hmeant.resolve_left fun h => hup h.1
    refine .inr ?_
    cases payload_start p with
    | short hshort =>
      -- there is no header
      unfold decoded at hdecoded
      rw [if_neg hup] at hdecoded
      obtain ⟨accepted, haccepted, _⟩ := bind_eq_ok.mp hdecoded
      obtain ⟨head, hhead, _⟩ := bind_eq_ok.mp haccepted
      have hread := extract2o_returns.mp ⟨head, hhead⟩
      omega
    | noMgrid h => exact .inl h
    | mgrid m s ts e hp hm hwalk =>
      subst hp
      refine .inr ?_
      cases e with
      | duplicate => exact .inl ⟨m, s, ts, _, rfl, hm, hwalk, .inl rfl⟩
      | long => exact .inl ⟨m, s, ts, _, rfl, hm, hwalk, .inr rfl⟩
      | cut =>
        exact absurd ⟨_, hdecoded⟩ (decoded_outside hup hm hwalk (.inr rfl) (.inl rfl))
      | ended =>
        have hin : 18 ≤ (m.wire ++ s).length ∧ FixedInside ts s.length := by
          by_contra hout
          rw [not_and_or, Nat.not_le] at hout
          exact decoded_outside hup hm hwalk (.inl rfl) (.inr hout) ⟨_, hdecoded⟩
        refine .inr ⟨m, s, ts, rfl, hm, ?_, hwalk, hin.2⟩
        -- the payload is taken, so it is well formed
        obtain ⟨g, _, htaken⟩ := decoded_ended hup hm hwalk hin.1 hin.2
        have halone := htaken []
        rw [List.append_nil, hdecoded] at halone
        cases halone
        cases hmeant with
        | taken hformed =>
          obtain ⟨rfl, _⟩ := hformed.walk hwalk
          exact hformed.length_eq
        | refused => cases hsome
  · rintro (h | h | h | h)
    · exact absurd h hup
    · exact payloadRead_of_noMgrid h after
    · exact payloadRead_of_breaksOff h after
    · exact payloadRead_of_enclosed hup h after

end Read

/-! ### The messages from ECP -/

theorem dataFromEcp_append {x y : Vdp22Input} {m : Ecp22ToUlp} (h : dataFromEcp x m = .ok y) :
    y.inputLen = m.payload.length ∧ ∃ after, y.input.bytes = m.payload ++ after := by
  obtain ⟨input, hinput, h⟩ := bind_eq_ok.mp h
  cases h
  unfold Octets.memcpy at hinput
  split_ifs at hinput with hfit
  cases hinput
  exact ⟨(List.length_take_of_le hfit.2).symm, _, rfl⟩

theorem dataFromEcp_all (ms : List Ecp22ToUlp)
    (h : ∀ m ∈ ms, m.len ≤ ethDataLen ∧ m.len ≤ m.data.length) :
    ∀ x, ∃ d, ms.foldlM dataFromEcp x = .ok d := by
  induction ms with
  | nil => exact fun x => ⟨x, rfl⟩
  | cons m ms ih =>
    intro x
    obtain ⟨hm, hms⟩ := List.forall_mem_cons.mp h
    obtain ⟨y, hy⟩ := (dataFromEcp_returns x m).mpr hm
    obtain ⟨d, hd⟩ := ih hms y
    refine ⟨d, ?_⟩
    rw [List.foldlM_cons, hy, bind_ok, hd]

/-- After any messages in any order, the last one is read as it stands exactly if the bridge is
down, or the checks drop it inside the payload, or it is enclosed. -/
theorem last_message_read_iff (brDown : Bool) (role : Vdp22Role) (ms : List Ecp22ToUlp)
    (m : Ecp22ToUlp) (d : Vdp22Input) (h : (ms ++ [m]).foldlM dataFromEcp {} = .ok d) :
    d.inputLen = m.payload.length ∧
      (PayloadRead brDown role d.input.bytes m.payload ↔
        (role = .bridge ∧ brDown = true) ∨ NoMgrid m.payload ∨ BreaksOff m.payload ∨
          Enclosed m.payload) := by
  rw [List.foldlM_append] at h
  obtain ⟨x, _, h⟩ := bind_eq_ok.mp h
  rw [List.foldlM_cons] at h
  obtain ⟨y, hy, h⟩ := bind_eq_ok.mp h
  cases h
  obtain ⟨hlen, after, hbytes⟩ := dataFromEcp_append hy
  rw [hbytes]
  exact ⟨hlen, payload_read_iff after⟩

/-- A manager ID of zeros -/
def mgridZeros : Bytes := 0x0a :: 0x10 :: List.replicate 16 0

/-- The last of two messages that fit -/
theorem last_message_read_iff_zeros : ∃ d : Vdp22Input,
    d.inputLen = 18 ∧ (PayloadRead false .station d.input.bytes mgridZeros ↔
      (Vdp22Role.station = .bridge ∧ false = true) ∨ NoMgrid mgridZeros ∨ BreaksOff mgridZeros ∨
        Enclosed mgridZeros) := by
  obtain ⟨d, hd⟩ :=
    dataFromEcp_all ([⟨20, List.replicate 20 7⟩] ++ [⟨18, mgridZeros⟩]) (by decide) {}
  exact ⟨d, last_message_read_iff false .station [⟨20, List.replicate 20 7⟩] ⟨18, mgridZeros⟩ d hd⟩

/-- An associate TLV with one filter entry: the VSI with ID `i`, and the VLAN 10 -/
def assocVid (i : UInt8) : Bytes :=
  [0x06, 0x1b, 0, 0, 0, 1, 1, 2] ++ List.replicate 15 0 ++ [i, 1, 0, 1, 0, 10]

/-- A message with two VSIs, and then one with the first of them only. Neither has an END TLV. -/
def twoThenOne : List Ecp22ToUlp :=
  let two := mgridZeros ++ assocVid 1 ++ assocVid 2
  let one := mgridZeros ++ assocVid 1
  [⟨two.length, two⟩, ⟨one.length, one⟩]

/-- The second message has one VSI, but two are decoded: that of the message before is still
there. -/
theorem stale_vsi_decoded : ∃ d : Vdp22Input,
    twoThenOne.foldlM dataFromEcp {} = .ok d ∧ d.message = mgridZeros ++ assocVid 1 ∧
      (∃ nodes, decoded false .bridge d.input.bytes d.inputLen = .ok (some nodes) ∧
        nodes.length = 2) ∧
      ¬ PayloadRead false .bridge d.input.bytes d.message := by
  -- what stands in the buffer
  have hrun : (twoThenOne.foldlM dataFromEcp {} >>= fun d =>
      decoded false .bridge d.input.bytes d.inputLen >>= fun nodes =>
        pure (d.message, nodes.map List.length)) =
      .ok (mgridZeros ++ assocVid 1, some 2) := by
    decide +kernel
  obtain ⟨d, hd, hrun⟩ := bind_eq_ok.mp hrun
  obtain ⟨nodes, hnodes, hrun⟩ := bind_eq_ok.mp hrun
  obtain ⟨hmessage, hlength⟩ := Prod.mk.inj (Except.ok.inj hrun)
  obtain ⟨nodes, rfl, htwo⟩ := Option.map_eq_some_iff.mp hlength
  refine ⟨d, hd, hmessage, ⟨nodes, hnodes, htwo⟩, fun hread => ?_⟩
  -- what stands in the payload
  rw [hmessage] at hread
  obtain ⟨_, nodes', halone, _⟩ := hread.decoded_alone
  have hstops : decoded false .bridge (mgridZeros ++ assocVid 1)
      (mgridZeros ++ assocVid 1).length = .error .outOfBounds := by
    decide +kernel
  cases hstops.symm.trans halone

end Lldpad.Qbg
