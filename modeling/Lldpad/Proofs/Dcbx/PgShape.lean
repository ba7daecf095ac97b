import Lldpad.Proofs.Dcbx.PgRange

/-!
# `Lldpad.Proofs.Dcbx.PgShape`: the shape of an admitted configuration

`dcb_check_config` first makes each user priority a bandwidth group of its own. The rules then
leave one choice for its percentage: nothing of the group when it is link strict, and all of it
otherwise (`checked_shape`). `rebalance_uppcts` computes just these percentages
(`rebalanceUppcts_single`), so a receiver that does not get them has them anyway.
-/

namespace Lldpad.Dcbx

open Lldpad.Lib

/-! ### What the rule checker admits -/

/-- A direction that passed the rules: each priority is a bandwidth group of its own, with all
of its bandwidth or, when it is link strict, none of it. -/
structure Shaped (t : TrafficAttribs) : Prop where
  bwgid : ∀ i, (t.up i).bwgid = UInt8.ofNat i
  percent : ∀ i, (t.up i).percentOfPgCap =
    if (t.up i).strictPriority = .link then 0 else bwPercent

theorem ofNat_class_eq {i g : Fin 8} : (UInt8.ofNat i.val).toNat = g.val ↔ i = g := by
  rw [toNat_ofNat_class, Fin.ext_iff]

variable {t : TrafficAttribs}

theorem bwSum_single (h : ∀ i, (t.up i).bwgid = UInt8.ofNat i)
    (g : Fin 8) : bwSum t g = (t.up g).percentOfPgCap := by
  have hif : ∀ (bw : UInt8) (i : Fin 8),
      (if (t.up i).bwgid.toNat = g then bw + (t.up i).percentOfPgCap else bw) =
        if i = g then bw + (t.up i).percentOfPgCap else bw := by
    intro bw i
    rw [h i, if_congr ofNat_class_eq rfl rfl]
  -- Only the priority `g` adds to the sum.
  have hfold : ∀ (l : List (Fin 8)) (bw : UInt8), l.Nodup →
      l.foldl (fun bw i => if i = g then bw + (t.up i).percentOfPgCap else bw) bw =
        if g ∈ l then bw + (t.up g).percentOfPgCap else bw := by
    intro l
    induction l with
    | nil => exact fun bw _ => rfl
    | cons j l ih =>
      intro bw hnd
      obtain ⟨hj, hnd⟩ := List.nodup_cons.mp hnd
      rw [List.foldl_cons, ih _ hnd]
      by_cases hjg : j = g
      · subst hjg
        simp [hj]
      · simp [hjg, Ne.symm hjg]
  unfold bwSum
  simp only [hif]
  rw [hfold _ 0 (List.nodup_finRange 8), if_pos (List.mem_finRange g), UInt8.zero_add]

theorem shaped_of_ok (h : ∀ i, (t.up i).bwgid = UInt8.ofNat i)
    (hok : trafficOk t = true) : Shaped t := by
  unfold trafficOk at hok
  rw [Bool.and_eq_true, Bool.and_eq_true] at hok
  obtain ⟨⟨-, hclasses⟩, hgroups⟩ := hok
  refine ⟨h, fun i => ?_⟩
  have hi := (of_decide_eq_true hclasses i).2
  split
  · rename_i hlink
    exact hi.mp hlink
  · rename_i hlink
    have hg := of_decide_eq_true hgroups i
    have hstrict : groupLinkStrict t i = false := by
      refine decide_eq_false ?_
      rintro ⟨j, hj, hjl⟩
      rw [h j, ofNat_class_eq] at hj
      exact hlink (hj ▸ hjl)
    rw [if_neg (by rw [hstrict]; decide), bwSum_single h] at hg
    exact hg.resolve_right fun h0 => hlink (hi.mpr h0)

theorem le_pgidsUsed (t : TrafficAttribs) (i : Fin 8) :
    (t.up i).pgid.toNat < pgidsUsed t := by
  -- The maximum over a list is at least the start, and each member.
  have hmax : ∀ (l : List (Fin 8)) (n : Nat),
      n ≤ l.foldl (fun n i => max n (t.up i).pgid.toNat) n ∧
        (i ∈ l → (t.up i).pgid.toNat ≤ l.foldl (fun n i => max n (t.up i).pgid.toNat) n) := by
    intro l
    induction l with
    | nil => exact fun n => ⟨Nat.le_refl n, nofun⟩
    | cons j l ih =>
      intro n
      obtain ⟨hge, hmem⟩ := ih (max n (t.up j).pgid.toNat)
      refine ⟨by simp only [List.foldl_cons]; omega, fun hi => ?_⟩
      rcases List.mem_cons.mp hi with rfl | hi
      · simp only [List.foldl_cons]
        omega
      · exact hmem hi
  exact Nat.lt_succ_of_le ((hmax (List.finRange 8) 0).2 (List.mem_finRange i))

/-- The groups that the fix-up leaves: each priority has a bandwidth group of its own, and with
at most eight traffic classes the groups are below eight. -/
theorem dcbFixupPg_shape {pg c : PgConfig} {pfc : Option PfcConfig}
    (h : dcbFixupPg pg pfc = .ok (some c)) :
    (∀ i, (c.tx.up i).bwgid = UInt8.ofNat i) ∧
      (c.numTcs ≤ 8 → ∀ i, (c.tx.up i).pgid.toNat < 8) := by
  rcases dcbFixupPg_cases h with ⟨hused, rfl⟩ | ⟨h8, m, rfl⟩
  · refine ⟨fun i => rfl, fun htcs i => ?_⟩
    have hi := le_pgidsUsed pg.tx i
    change pg.numTcs ≤ 8 at htcs
    change (pg.tx.up i).pgid.toNat < 8
    omega
  · refine ⟨fun i => rfl, fun _ i => ?_⟩
    change (if hlt : (pg.tx.up i).pgid.toNat < 8 then UInt8.ofNat (m.pgidOf ⟨_, hlt⟩)
      else (pg.tx.up i).pgid).toNat < 8
    rw [dif_pos (h8 i), toNat_ofNat_class]
    exact (m.pgidOf _).isLt

/-- What `put_pg` admits has this shape, and with at most eight traffic classes its groups are
below eight. -/
theorem checked_shape {pg c : PgConfig} {pfc : Option PfcConfig}
    (h : dcbCheckConfig pg pfc = .ok (c, .success)) :
    Shaped c.tx ∧ (c.numTcs ≤ 8 → ∀ i, (c.tx.up i).pgid.toNat < 8) := by
  obtain ⟨r, hr, h⟩ := bind_eq_ok.mp h
  cases r with
  | none => cases h
  | some c' =>
    obtain ⟨rfl, hst⟩ := Prod.mk.inj (Except.ok.inj h)
    obtain ⟨hbwgid, hpgid⟩ := dcbFixupPg_shape hr
    have hok : (trafficOk c'.tx && trafficOk c'.rx) = true := by
      refine Classical.byContradiction fun hno => ?_
      rw [if_neg hno] at hst
      cases hst
    exact ⟨shaped_of_ok hbwgid (Bool.and_eq_true_iff.mp hok).1, hpgid⟩

/-! ### The percentages that the receiver computes -/

/-- What `rebalance_uppcts` makes of a priority that is a bandwidth group of its own -/
def share (u : UserPriorityAttribs) : UserPriorityAttribs :=
  if u.strictPriority = .link then { u with percentOfPgCap := 0 }
  else { u with percentOfPgCap := bwPercent, strictPriority := .none }

theorem share_share (u : UserPriorityAttribs) : share (share u) = share u := by
  by_cases hu : u.strictPriority = .link <;> simp [share, hu]

theorem share_bwgid (u : UserPriorityAttribs) : (share u).bwgid = u.bwgid := by
  unfold share
  split <;> rfl

theorem share_pgid (u : UserPriorityAttribs) : (share u).pgid = u.pgid := by
  unfold share
  split <;> rfl

theorem share_link (u : UserPriorityAttribs) :
    (share u).strictPriority = .link ↔ u.strictPriority = .link := by
  by_cases hu : u.strictPriority = .link <;> simp [share, hu]

theorem share_percent (u : UserPriorityAttribs) :
    (share u).percentOfPgCap = if u.strictPriority = .link then 0 else bwPercent := by
  by_cases hu : u.strictPriority = .link <;> simp [share, hu]

theorem upList_single (h : ∀ i, (t.up i).bwgid = UInt8.ofNat i) (g : Fin 8) : upList t g = [g] := by
  have hfilter : ∀ g : Fin 8, (List.finRange 8).filter (fun i => decide (i = g)) = [g] := by
    decide
  rw [← hfilter g]
  refine List.filter_congr fun i _ => ?_
  rw [h i]
  exact decide_eq_decide.mpr ofNat_class_eq

theorem rebalanceGroup_single (h : ∀ i, (t.up i).bwgid = UInt8.ofNat i)
    (g : Fin 8) : rebalanceGroup t t g =
      { t with up := fun i => if i = g then share (t.up i) else t.up i } := by
  unfold rebalanceGroup
  rw [upList_single h]
  by_cases hlink : (t.up g).strictPriority = .link
  · rw [if_pos (by simp [hlink])]
    congr 1
    funext i
    by_cases hi : i = g
    · subst hi
      simp [share, hlink]
    · simp [hi]
  · rw [if_neg (by simp [hlink])]
    congr 1
    funext i
    by_cases hi : i = g
    · subst hi
      simp [share, hlink, bwFixup, bwPercent]
    · simp [hi]

theorem rebalanceUppcts_single (numTcs : Nat) (h : ∀ i, (t.up i).bwgid = UInt8.ofNat i) :
    rebalanceUppcts { tx := t, rx := t, numTcs } =
      { tx := { t with up := fun i => share (t.up i) }
        rx := { t with up := fun i => share (t.up i) }
        numTcs } := by
  -- After the groups `l`, their priorities have their shares.
  have hfold : ∀ (l : List (Fin 8)) (t : TrafficAttribs),
      (∀ i, (t.up i).bwgid = UInt8.ofNat i) →
      l.foldl (fun pg g => { pg with
          tx := rebalanceGroup pg.tx pg.tx g
          rx := rebalanceGroup pg.tx pg.rx g }) ({ tx := t, rx := t, numTcs } : PgConfig) =
        { tx := { t with up := fun i => if i ∈ l then share (t.up i) else t.up i }
          rx := { t with up := fun i => if i ∈ l then share (t.up i) else t.up i }
          numTcs } := by
    intro l
    induction l with
    | nil => exact fun t _ => rfl
    | cons g l ih =>
      intro t h
      rw [List.foldl_cons]
      rw [rebalanceGroup_single h, ih]
      · have hup : ∀ i, (if i ∈ l then share (if i = g then share (t.up i) else t.up i)
            else if i = g then share (t.up i) else t.up i) =
              if i ∈ g :: l then share (t.up i) else t.up i := by
          intro i
          by_cases hg : i = g <;> by_cases hl : i ∈ l <;> simp [hg, hl, share_share]
        simp only [hup]
      · intro i
        dsimp only
        split
        · rw [share_bwgid, h i]
        · exact h i
  unfold rebalanceUppcts
  rw [hfold _ t h]
  simp only [List.mem_finRange, if_true]

end Lldpad.Dcbx
