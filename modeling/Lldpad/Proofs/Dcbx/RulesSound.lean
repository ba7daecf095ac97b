import Lldpad.Proofs.Dcbx.GroupsKept

/-!
# `Lldpad.Proofs.Dcbx.RulesSound`: what the rules of a priority group configuration mean

The rule checker adds percentages up as bytes. A configuration that it accepts keeps the rules
with the sums taken as numbers (`Sound`), when the percentages that are not link strict stay below
256. The sums of the bandwidth groups need no such condition: after the fix-up a bandwidth group
has one priority, or only percentages of 0 and 100 (`Simple`).

The number 15 stands for no link strict group (`linkStrictOf_spec`).
-/

namespace Lldpad.Dcbx

open Lldpad.Lib

/-! ### Sums of bytes -/

theorem toNat_foldl_add {ι : Type} (f : ι → UInt8) (l : List ι) (s : UInt8) :
    (l.foldl (fun s i => s + f i) s).toNat =
      (s.toNat + (l.map fun i => (f i).toNat).sum) % 256 := by
  induction l generalizing s with
  | nil =>
    have hs := s.toNat_lt
    simp only [List.foldl_nil, List.map_nil, List.sum_nil]
    omega
  | cons i l ih =>
    rw [List.foldl_cons, ih, List.map_cons, List.sum_cons, UInt8.toNat_add]
    omega

theorem toNat_sum_bytes (f : Fin 8 → UInt8) :
    ((List.finRange 8).foldl (fun s i => s + f i) 0).toNat = (∑ i, (f i).toNat) % 256 := by
  rw [toNat_foldl_add, Fin.sum_univ_def]
  show (0 + _) % 256 = _
  rw [Nat.zero_add]

/-! ### The rules, as numbers -/

/-- The percentages of the priorities of a bandwidth group -/
def bwTotal (t : TrafficAttribs) (g : Fin 8) : Nat :=
  ∑ i, if (t.up i).bwgid.toNat = g then (t.up i).percentOfPgCap.toNat else 0

/-- The rules for one direction -/
structure Sound (t : TrafficAttribs) : Prop where
  total : otherPercents t = 100 ∨
    otherPercents t = 0 ∧ ∀ i, (t.up i).strictPriority = .link
  one : ∀ g g', LinkStrict t g → LinkStrict t g' → g = g'
  /-- A bandwidth group without a link strict priority has 100 percent, or no priority. -/
  bandwidth : ∀ g, (∀ i, (t.up i).bwgid.toNat = g.val → (t.up i).strictPriority ≠ .link) →
    bwTotal t g = 100 ∨ ∀ i, (t.up i).bwgid.toNat ≠ g.val
  /-- The other ones have no bandwidth. -/
  strict : ∀ g i, (t.up i).bwgid.toNat = g.val → (t.up i).strictPriority = .link →
    bwTotal t g = 0 ∨ t.pgPercent g = 0

/-! ### The bandwidth of the groups -/

variable {t : TrafficAttribs}

/-- The link strict group after the priorities `done`, or 15 when there is none so far -/
structure LinkOf (t : TrafficAttribs) (done : List (Fin 8)) (link : UInt8) : Prop where
  all : ∀ i ∈ done, (t.up i).strictPriority = .link → (t.up i).pgid = link
  some : link = linkStrictPgid ∨
    ∃ i ∈ done, (t.up i).strictPriority = .link ∧ (t.up i).pgid = link

/-- The loop for the link strict group, as long as none has the number 15 -/
theorem linkStrict_loop
    (h15 : ∀ i, (t.up i).strictPriority = .link → (t.up i).pgid ≠ linkStrictPgid)
    {l done : List (Fin 8)} {link link' : UInt8} (hdone : LinkOf t done link)
    (h : l.foldlM (fun link i =>
      if (t.up i).strictPriority = .link then
        if link = linkStrictPgid then Option.some (t.up i).pgid
        else if (t.up i).pgid = link then Option.some link
        else none
      else Option.some link) link = Option.some link') : LinkOf t (l.reverse ++ done) link' := by
  induction l generalizing done link with
  | nil =>
    cases h
    exact hdone
  | cons i l ih =>
    rw [List.foldlM_cons] at h
    rw [List.reverse_cons, List.append_assoc]
    obtain ⟨link₁, hlink₁, h⟩ := Option.bind_eq_some_iff.mp h
    refine ih ?_ h
    split at hlink₁
    · rename_i hi
      split at hlink₁
      · -- The first link strict priority names the group.
        rename_i hnone
        cases hlink₁
        refine ⟨fun k hk hks => ?_, .inr ⟨i, List.mem_cons_self, hi, rfl⟩⟩
        rcases List.mem_cons.mp hk with rfl | hk
        · rfl
        · exact absurd ((hdone.all k hk hks).trans hnone) (h15 k hks)
      · split at hlink₁
        · rename_i hsame
          cases hlink₁
          refine ⟨fun k hk hks => ?_, .inr ⟨i, List.mem_cons_self, hi, hsame⟩⟩
          rcases List.mem_cons.mp hk with rfl | hk
          · exact hsame
          · exact hdone.all k hk hks
        · cases hlink₁
    · rename_i hi
      cases hlink₁
      refine ⟨fun k hk hks => ?_, hdone.some.imp_right ?_⟩
      · rcases List.mem_cons.mp hk with rfl | hk
        · exact absurd hks hi
        · exact hdone.all k hk hks
      · rintro ⟨k, hk, hks⟩
        exact ⟨k, List.mem_cons_of_mem i hk, hks⟩

theorem linkStrictOf_spec {link : UInt8}
    (h15 : ∀ i, (t.up i).strictPriority = .link → (t.up i).pgid ≠ linkStrictPgid)
    (h : linkStrictOf t = some link) :
    ∀ g : Nat, LinkStrict t g ↔ g = link.toNat ∧ link ≠ linkStrictPgid := by
  have hof : LinkOf t ((List.finRange 8).reverse ++ []) link :=
    linkStrict_loop h15 ⟨nofun, .inl rfl⟩ h
  have hall : ∀ i, i ∈ (List.finRange 8).reverse ++ [] := by simp
  intro g
  constructor
  · rintro ⟨i, hi, rfl⟩
    have hlink := hof.all i (hall i) hi
    exact ⟨congrArg UInt8.toNat hlink, hlink ▸ h15 i hi⟩
  · rintro ⟨rfl, hne⟩
    obtain ⟨i, -, hi, hpgid⟩ := hof.some.resolve_left hne
    exact ⟨i, hi, congrArg UInt8.toNat hpgid⟩

theorem toNat_totalBw {link : UInt8}
    (hlink : ∀ g : Nat, LinkStrict t g ↔ g = link.toNat ∧ link ≠ linkStrictPgid) :
    (totalBw t link).toNat = otherPercents t % 256 := by
  have hall := toNat_sum_bytes t.pgPercent
  unfold totalBw otherPercents
  split
  · rename_i hlt
    have hne : link ≠ linkStrictPgid := by
      rintro rfl
      exact absurd hlt (by decide)
    have hif : ∀ g : Fin 8, (if LinkStrict t g then 0 else (t.pgPercent g).toNat) =
        if g = ⟨link.toNat, hlt⟩ then 0 else (t.pgPercent g).toNat := by
      intro g
      refine if_congr ?_ rfl rfl
      rw [hlink, Fin.ext_iff]
      exact and_iff_left hne
    have hsplit : ∑ g, (t.pgPercent g).toNat = (t.pgPercent ⟨link.toNat, hlt⟩).toNat +
        ∑ g, if g = ⟨link.toNat, hlt⟩ then 0 else (t.pgPercent g).toNat := by
      have hone : (∑ g, if g = ⟨link.toNat, hlt⟩ then (t.pgPercent g).toNat else 0) =
          (t.pgPercent ⟨link.toNat, hlt⟩).toNat := by
        rw [Finset.sum_ite_eq', if_pos (Finset.mem_univ _)]
      rw [← hone, ← Finset.sum_add_distrib]
      refine Finset.sum_congr rfl fun g _ => ?_
      split <;> simp
    have hbyte := (t.pgPercent ⟨link.toNat, hlt⟩).toNat_lt
    rw [UInt8.toNat_sub, hall, Finset.sum_congr rfl fun g _ => hif g]
    omega
  · rename_i hlt
    rw [hall]
    refine congrArg (· % 256) (Finset.sum_congr rfl fun g _ => (if_neg ?_).symm)
    rw [hlink]
    rintro ⟨hg, -⟩
    exact hlt (hg ▸ g.isLt)

/-! ### The bandwidth of the priorities -/

/-- The priorities are bandwidth groups of their own, or have all of a group or nothing. -/
def Simple (t : TrafficAttribs) : Prop :=
  (∀ i, (t.up i).bwgid = UInt8.ofNat i) ∨
    ∀ i, (t.up i).percentOfPgCap = 0 ∨ (t.up i).percentOfPgCap = 100

theorem toNat_bwSum (g : Fin 8) : (bwSum t g).toNat = bwTotal t g % 256 := by
  have hadd : ∀ (bw : UInt8) (i : Fin 8),
      (if (t.up i).bwgid.toNat = g then bw + (t.up i).percentOfPgCap else bw) =
        bw + if (t.up i).bwgid.toNat = g then (t.up i).percentOfPgCap else 0 := by
    intro bw i
    split
    · rfl
    · exact (UInt8.add_zero bw).symm
  unfold bwSum bwTotal
  simp only [hadd]
  rw [toNat_sum_bytes]
  congr 1
  refine Finset.sum_congr rfl fun i _ => ?_
  split <;> rfl

theorem bwTotal_simple (h : Simple t) (g : Fin 8) :
    bwTotal t g < 256 ∨ ∃ k ≤ 8, bwTotal t g = 100 * k := by
  rcases h with hown | hfull
  · left
    have hone : bwTotal t g = (t.up g).percentOfPgCap.toNat := by
      unfold bwTotal
      have hif : ∀ i : Fin 8, (if (t.up i).bwgid.toNat = g then (t.up i).percentOfPgCap.toNat
          else 0) = if i = g then (t.up i).percentOfPgCap.toNat else 0 := by
        intro i
        rw [hown i]
        exact if_congr ofNat_class_eq rfl rfl
      rw [Finset.sum_congr rfl fun i _ => hif i, Finset.sum_ite_eq', if_pos (Finset.mem_univ g)]
    rw [hone]
    exact UInt8.toNat_lt _
  · right
    have hin : ∀ i : Fin 8, (if (t.up i).bwgid.toNat = g.val then (t.up i).percentOfPgCap.toNat
        else 0) = 100 * if (t.up i).bwgid.toNat = g.val ∧ (t.up i).percentOfPgCap = 100 then 1
          else 0 := by
      intro i
      rcases hfull i with h0 | h100
      · simp [h0]
      · simp [h100]
    refine ⟨_, ?_, by
      unfold bwTotal
      rw [Finset.sum_congr rfl fun i _ => hin i, ← Finset.mul_sum]⟩
    refine (Finset.sum_le_card_nsmul _ _ 1 fun i _ => ?_).trans (by simp)
    split <;> omega

theorem bwTotal_exact (h : Simple t) (g : Fin 8) :
    (bwSum t g = bwPercent → bwTotal t g = 100) ∧ (bwSum t g = 0 → bwTotal t g = 0) := by
  have hmod := toNat_bwSum (t := t) g
  have hcases := bwTotal_simple h g
  constructor
  · intro hsum
    rw [hsum] at hmod
    have hmod : 100 = bwTotal t g % 256 := hmod
    rcases hcases with hlt | ⟨k, hk, htotal⟩ <;> omega
  · intro hsum
    rw [hsum] at hmod
    have hmod : 0 = bwTotal t g % 256 := hmod
    rcases hcases with hlt | ⟨k, hk, htotal⟩ <;> omega

/-- A direction that the rules accept keeps them with sums of numbers. -/
theorem sound_of_ok (hsimple : Simple t) (hsum : otherPercents t < 256)
    (h15 : ∀ i, (t.up i).strictPriority = .link → (t.up i).pgid ≠ linkStrictPgid)
    (hok : trafficOk t = true) : Sound t := by
  unfold trafficOk at hok
  rw [Bool.and_eq_true, Bool.and_eq_true] at hok
  obtain ⟨⟨htotal, hclasses⟩, hgroups⟩ := hok
  have hpercent : ∀ i, (t.up i).strictPriority = .link ↔ (t.up i).percentOfPgCap = 0 := fun i =>
    (of_decide_eq_true hclasses i).2
  have hgroups := of_decide_eq_true hgroups
  cases hlink : linkStrictOf t with
  | none =>
    unfold totalOk at htotal
    rw [hlink] at htotal
    cases htotal
  | some link =>
    have hspec := linkStrictOf_spec h15 hlink
    have hnat := (toNat_totalBw hspec).trans (Nat.mod_eq_of_lt hsum)
    unfold totalOk at htotal
    rw [hlink] at htotal
    have htotal := of_decide_eq_true htotal
    constructor
    · refine htotal.imp (fun h => ?_) (And.imp_left fun h => ?_)
      · rw [← hnat, h]
        rfl
      · rw [← hnat, h]
        rfl
    · intro g g' hg hg'
      exact ((hspec g).mp hg).1.trans ((hspec g').mp hg').1.symm
    · intro g hplain
      have hnone : groupLinkStrict t g = false := by
        refine decide_eq_false ?_
        rintro ⟨i, hi, hs⟩
        exact hplain i hi hs
      have hg := hgroups g
      rw [if_neg (by rw [hnone]; decide)] at hg
      refine hg.imp (bwTotal_exact hsimple g).1 fun h0 i hi => ?_
      -- A priority of the group has a percentage.
      have htotal := (bwTotal_exact hsimple g).2 h0
      have hle : (t.up i).percentOfPgCap.toNat ≤ bwTotal t g := by
        unfold bwTotal
        have hone := Finset.single_le_sum (f := fun i => if (t.up i).bwgid.toNat = g.val then
          (t.up i).percentOfPgCap.toNat else 0) (fun _ _ => Nat.zero_le _) (Finset.mem_univ i)
        simpa [hi] using hone
      have hzero : (t.up i).percentOfPgCap = 0 := UInt8.toNat_inj.mp (by
        show _ = 0
        omega)
      exact hplain i hi ((hpercent i).mpr hzero)
    · intro g i hi hs
      have hstrict : groupLinkStrict t g = true := decide_eq_true ⟨i, hi, hs⟩
      have hg := hgroups g
      rw [if_pos hstrict] at hg
      exact hg.imp_left (bwTotal_exact hsimple g).2

/-! ### What the rule checker promises -/

theorem dcbFixupPg_simple {pg c : PgConfig} {pfc : Option PfcConfig}
    (h : dcbFixupPg pg pfc = .ok (some c)) : Simple c.tx ∧ Simple c.rx := by
  rcases dcbFixupPg_cases h with ⟨-, rfl⟩ | ⟨-, m, rfl⟩
  · exact ⟨.inl fun i => rfl, .inl fun i => rfl⟩
  · refine ⟨.inl fun i => rfl, .inr fun i => ?_⟩
    show (if (pg.tx.up i).strictPriority = .link then (0 : UInt8) else 100) = 0 ∨
      (if (pg.tx.up i).strictPriority = .link then (0 : UInt8) else 100) = 100
    split
    · exact .inl rfl
    · exact .inr rfl

/-- When the rule checker accepts a configuration, a direction of it keeps the rules, as long as the
percentages that are not link strict do not run over a byte and the link strict group does not have
the number that stands for none. Otherwise the rule checker leaves the configuration that it was given, or what the fix-up
made of it. -/
theorem check_sound (pg c : PgConfig) (pfc : Option PfcConfig) (st : CmdStatus)
    (h : dcbCheckConfig pg pfc = .ok (c, st)) :
    (st = .success → ∀ t, t = c.tx ∨ t = c.rx → otherPercents t < 256 →
      (∀ i, (t.up i).strictPriority = .link → (t.up i).pgid ≠ linkStrictPgid) → Sound t) ∧
    (st ≠ .success → c = pg ∨ dcbFixupPg pg pfc = .ok (some c)) := by
  obtain ⟨r, hr, h⟩ := bind_eq_ok.mp h
  cases r with
  | none =>
    cases h
    exact ⟨nofun, fun _ => .inl rfl⟩
  | some c' =>
    obtain ⟨rfl, hst⟩ := Prod.mk.inj (Except.ok.inj h)
    refine ⟨fun hok t ht hsum h15 => ?_, fun _ => .inr hr⟩
    obtain ⟨hsimple, hsimple'⟩ := dcbFixupPg_simple hr
    have hboth : (trafficOk c'.tx && trafficOk c'.rx) = true := by
      refine Classical.byContradiction fun hno => ?_
      rw [if_neg hno] at hst
      cases hst.trans hok
    obtain ⟨hoktx, hokrx⟩ := Bool.and_eq_true_iff.mp hboth
    rcases ht with rfl | rfl
    · exact sound_of_ok hsimple hsum h15 hoktx
    · exact sound_of_ok hsimple' hsum h15 hokrx

/-! ### A configuration that the rule checker saw as it was -/

/-- The rules on the priority groups, with the number of traffic classes -/
structure ValidPg (c : PgConfig) : Prop where
  sound : ∀ t, t = c.tx ∨ t = c.rx → Sound t
  /-- The percentages are those of groups in use. -/
  used : ∀ t, t = c.tx ∨ t = c.rx → ∀ g, ¬ Used t g → t.pgPercent g = 0
  below : ∀ t, t = c.tx ∨ t = c.rx → ∀ i, (t.up i).pgid.toNat < c.numTcs

theorem otherPercents_le {x : Int} (h : ∑ g, percent t g = x) : (otherPercents t : Int) ≤ x := by
  rw [← h]
  unfold otherPercents percent
  rw [Nat.cast_sum]
  refine Finset.sum_le_sum fun g _ => ?_
  split <;> omega

namespace FixedUp

variable {pg c : PgConfig} {pfc : Option PfcConfig} {n : TypeCounts} {classOf : Fin 8 → Fin 8}
  {tcbw : Fin 8 → Int}

theorem sum_load_all (h : FixedUp pg pfc c n classOf tcbw) :
    ∑ k, load pg pfc n k = usedTotal pg.tx := by
  have hin : ∀ k, load pg pfc n k =
      ∑ g, if classOf g = k then if Used pg.tx g then percent pg.tx g else 0 else 0 := by
    intro k
    refine Finset.sum_congr rfl fun g _ => ?_
    rw [← if_congr h.used_class_iff rfl rfl, ← ite_and]
    exact if_congr and_comm rfl rfl
  rw [Finset.sum_congr rfl fun k _ => hin k, Finset.sum_comm]
  refine Finset.sum_congr rfl fun g _ => ?_
  rw [Finset.sum_ite_eq, if_pos (Finset.mem_univ _)]

/-- Where the rest does not take more than the class has, all classes together have 100. -/
theorem percents_exact (h : FixedUp pg pfc c n classOf tcbw) (hnum : pg.numTcs ≤ 8)
    (hseen : ∀ k, TakesRest pg n k → usedTotal pg.tx ≠ 100 →
      usedTotal pg.tx ≤ 100 + load pg pfc n k) :
    (∀ k, percent c.tx k =
      load pg pfc n k + if TakesRest pg n k then 100 - usedTotal pg.tx else 0) ∧
    ∑ k, percent c.tx k = 100 := by
  let share : Fin 8 → Int := fun k =>
    load pg pfc n k + if TakesRest pg n k then 100 - usedTotal pg.tx else 0
  have hpos : ∀ k, 0 ≤ share k := by
    intro k
    have hload := load_nonneg pg pfc n k
    have hseen := hseen k
    dsimp only [share]
    split_ifs with hk
    · by_cases hfull : usedTotal pg.tx = 100
      · omega
      · have hseen := hseen hk hfull
        omega
    · omega
  have hrest : (∑ k : Fin 8, if TakesRest pg n k then 100 - usedTotal pg.tx else 0) =
      100 - usedTotal pg.tx := by
    by_cases hfull : usedTotal pg.tx = 100
    · simp [hfull]
    · have hlt := h.rest hfull
      have hr : ∀ k : Fin 8, TakesRest pg n k ↔ k = ⟨pg.numTcs - n.strict - 1, by omega⟩ := by
        intro k
        rw [Fin.ext_iff]
        unfold TakesRest
        dsimp only
        omega
      simp only [hr]
      rw [Finset.sum_ite_eq', if_pos (Finset.mem_univ _)]
  have hsum : ∑ k, share k = 100 := by
    dsimp only [share]
    rw [Finset.sum_add_distrib, h.sum_load_all, hrest]
    omega
  have hle : ∀ k, share k ≤ 100 := by
    intro k
    rw [← hsum]
    exact Finset.single_le_sum (fun k _ => hpos k) (Finset.mem_univ k)
  have heq : ∀ k, percent c.tx k = share k := by
    intro k
    rw [h.percent_class k]
    exact Int.emod_eq_of_lt (hpos k) (Int.lt_of_le_of_lt (hle k) (by decide))
  exact ⟨heq, (Finset.sum_congr rfl fun k _ => heq k).trans hsum⟩

/-- The classes without a priority have nothing, when the one with the rest has a priority. -/
theorem unused_class (h : FixedUp pg pfc c n classOf tcbw) {k : Fin 8} (hk : ¬ Used c.tx k)
    (heq : percent c.tx k =
      load pg pfc n k + if TakesRest pg n k then 100 - usedTotal pg.tx else 0)
    (hrest : TakesRest pg n k → usedTotal pg.tx ≠ 100 →
      ∃ g, Used pg.tx g ∧ classNo pg.tx pfc n g = k) : c.tx.pgPercent k = 0 := by
  have hnone : ¬ ∃ g, Used pg.tx g ∧ classNo pg.tx pfc n g = k := by
    rintro ⟨g, hg⟩
    obtain ⟨⟨j, hj⟩, hclass⟩ := h.used_class_iff.mpr hg
    exact hk ⟨j, by rw [h.pgidTx j g hj, toNat_ofNat_class, hclass]⟩
  have hload : load pg pfc n k = 0 :=
    Finset.sum_eq_zero fun g _ => if_neg fun hg => hnone ⟨g, hg⟩
  have hzero : percent c.tx k = 0 := by
    rw [heq, hload]
    split_ifs with hk
    · have hfull : usedTotal pg.tx = 100 :=
        Classical.byContradiction fun hne => hnone (hrest hk hne)
      omega
    · rfl
  unfold percent at hzero
  exact UInt8.toNat_inj.mp (by
    show _ = 0
    omega)

end FixedUp

/-- What passed the rule checker keeps the rules, if it was seen as it was. -/
theorem Passed.valid {c : PgConfig} (h : Passed c) : ValidPg c := by
  obtain ⟨pg, pfc, hseen, hcheck⟩ := h
  obtain ⟨r, hr, hcheck⟩ := bind_eq_ok.mp hcheck
  cases r with
  | none => cases hcheck
  | some c' =>
    obtain ⟨rfl, hst⟩ := Prod.mk.inj (Except.ok.inj hcheck)
    obtain ⟨hsimple, hsimple'⟩ := dcbFixupPg_simple hr
    have hboth : (trafficOk c'.tx && trafficOk c'.rx) = true := by
      refine Classical.byContradiction fun hno => ?_
      rw [if_neg hno] at hst
      cases hst
    obtain ⟨hoktx, hokrx⟩ := Bool.and_eq_true_iff.mp hboth
    have hok : ∀ t, t = c'.tx ∨ t = c'.rx → Simple t ∧ trafficOk t = true := by
      rintro t (rfl | rfl)
      · exact ⟨hsimple, hoktx⟩
      · exact ⟨hsimple', hokrx⟩
    unfold SeenRight at hseen
    by_cases hfits : pgidsUsed pg.tx ≤ pg.numTcs
    · rw [if_pos hfits] at hseen
      unfold dcbFixupPg at hr
      rw [if_pos hfits] at hr
      cases hr
      -- The bandwidth groups are set, and no rule here is about them.
      have hdir : ∀ t, t = pg.tx.ownBwgid ∨ t = pg.rx.ownBwgid → FitsRight pg.numTcs t := by
        rintro t (rfl | rfl)
        · exact ⟨hseen.1.sum, hseen.1.strict, hseen.1.used, hseen.1.below⟩
        · exact ⟨hseen.2.sum, hseen.2.strict, hseen.2.used, hseen.2.below⟩
      exact ⟨fun t ht => sound_of_ok (hok t ht).1 (hdir t ht).sum (hdir t ht).strict (hok t ht).2,
        fun t ht => (hdir t ht).used, fun t ht => (hdir t ht).below⟩
    · rw [if_neg hfits] at hseen
      have hbig := Nat.lt_of_not_le hfits
      obtain ⟨h8, -⟩ := (dcbFixupPg_cases hr).resolve_left fun h => hfits h.1
      obtain ⟨n, classOf, tcbw, hfix⟩ := fixedUp_of_ok h8 hbig hr
      have hnum : pg.numTcs ≤ 8 := (Nat.le_of_lt hbig).trans (pgidsUsed_le h8)
      have hseen := fun k => hseen n k hfix.counts
      obtain ⟨heq, hsum⟩ := hfix.percents_exact hnum fun k hk hne => (hseen k hk hne).1
      have hpgid : ∀ i, (c'.tx.up i).pgid = UInt8.ofNat (classOf ⟨_, h8 i⟩) := fun i =>
        hfix.pgidTx i ⟨_, h8 i⟩ rfl
      -- Both directions have the same groups.
      have hdir : ∀ t, t = c'.tx ∨ t = c'.rx →
          t.pgPercent = c'.tx.pgPercent ∧ ∀ i, (t.up i).pgid = (c'.tx.up i).pgid := by
        rintro t (rfl | rfl)
        · exact ⟨rfl, fun _ => rfl⟩
        · exact ⟨funext fun k => (hfix.percentRx k).trans (hfix.percentTx k).symm, hfix.pgidRx⟩
      have hbelow : ∀ i, (c'.tx.up i).pgid.toNat < pg.numTcs := by
        intro i
        rw [hpgid, toNat_ofNat_class]
        exact hfix.classOf_lt ⟨i, rfl⟩
      refine ⟨fun t ht => ?_, fun t ht g hg => ?_, fun t ht i => ?_⟩
      · obtain ⟨hpercent, hgroup⟩ := hdir t ht
        have hother := otherPercents_le (t := t) (x := 100) (by
          rw [← hsum]
          unfold percent
          rw [hpercent])
        refine sound_of_ok (hok t ht).1 (by omega) (fun i _ h15 => ?_) (hok t ht).2
        rw [hgroup] at h15
        have hlt := hbelow i
        rw [h15] at hlt
        exact absurd (hlt.trans_le hnum) (by decide)
      · obtain ⟨hpercent, hgroup⟩ := hdir t ht
        have hunused : ¬ Used c'.tx g := by
          rintro ⟨j, hj⟩
          exact hg ⟨j, by rw [hgroup]; exact hj⟩
        rw [hpercent]
        exact hfix.unused_class hunused (heq g) fun hk hne => (hseen g hk hne).2
      · rw [(hdir t ht).2, hfix.numTcs]
        exact hbelow i

/-- No percentages at all -/
def noPercents : PgConfig := { numTcs := 8 }

/-- The bandwidth groups of a configuration that is refused were set before. -/
theorem refused_changed : ¬ ∀ (pg c : PgConfig) (pfc : Option PfcConfig) (st : CmdStatus),
    dcbCheckConfig pg pfc = .ok (c, st) → st ≠ .success → c = pg := by
  intro h
  have hsame := h noPercents
    { noPercents with tx := noPercents.tx.ownBwgid, rx := noPercents.rx.ownBwgid } none .badParams
    rfl (by decide)
  have hbwgid := congrArg (fun c : PgConfig => (c.tx.up 1).bwgid) hsame
  exact absurd hbwgid (by decide)

/-- Two groups with bandwidth, and a link strict one with the number 7 -/
def strictSeven : TrafficAttribs where
  pgPercent g := if g = 0 then 60 else if g = 3 then 40 else 0
  up i :=
    { pgid := if i.val < 4 then 0 else if i.val < 6 then 3 else 7
      bwgid := UInt8.ofNat i
      percentOfPgCap := if i.val < 6 then 100 else 0
      strictPriority := if i.val < 6 then .none else .link }

/-- The groups are moved to three traffic classes. -/
theorem strictSeven_sound : ∃ c,
    dcbCheckConfig { tx := strictSeven, rx := strictSeven, numTcs := 3 } none =
      .ok (c, .success) ∧ Sound c.tx := by
  have hst : ((dcbCheckConfig { tx := strictSeven, rx := strictSeven, numTcs := 3 }
      none).toOption.map fun r => (r.2, decide (otherPercents r.1.tx < 256 ∧
        ∀ i, (r.1.tx.up i).strictPriority = .link → (r.1.tx.up i).pgid ≠ linkStrictPgid))) =
      some (.success, true) := by decide +kernel
  cases hcheck : dcbCheckConfig { tx := strictSeven, rx := strictSeven, numTcs := 3 } none with
  | error e =>
    rw [hcheck] at hst
    cases hst
  | ok r =>
    obtain ⟨c, st⟩ := r
    rw [hcheck] at hst
    obtain ⟨rfl, hc⟩ := Prod.mk.inj (Option.some.inj hst)
    obtain ⟨hsum, h15⟩ := of_decide_eq_true hc
    exact ⟨c, rfl, (check_sound _ c none .success hcheck).1 rfl c.tx (.inl rfl) hsum h15⟩

end Lldpad.Dcbx
