import Lldpad.Proofs.Dcbx.PgShape
import Lldpad.Lib.Buffer

/-!
# `Lldpad.Proofs.Dcbx.GroupsKept`: what the fix-up of the groups preserves

`dcb_fixup_pg` moves whole groups. Those that fit stay where they are, in each direction.
Otherwise both directions get the classes of the groups that are sent, and a class has the
percentages of its groups. The type of a group is that of its first priority, so a group with
priorities of several types stays one group.

What the groups in use leave of 100 is meant for the highest class that is not strict. It goes to
class `num_tcs - cstrict - 1`, which is strict when classes above the strict ones are left over, and
no class at all when all are strict. `FixupRight` says what the fix-up should do, and
`fixup_right_iff` when it does: `SharesFit` is about the percentages, read off the configuration.
-/

namespace Lldpad.Dcbx

open Lldpad.Lib

variable {pg c : PgConfig} {pfc : Option PfcConfig} {n : TypeCounts} {classOf : Fin 8 → Fin 8}
  {tcbw : Fin 8 → Int}

/-- The group was moved to the class. -/
def MovedTo (pg c : PgConfig) (g k : Fin 8) : Prop :=
  Used pg.tx g ∧ ∀ j, (pg.tx.up j).pgid.toNat = g.val → (c.tx.up j).pgid.toNat = k.val

instance (pg c : PgConfig) (g k : Fin 8) : Decidable (MovedTo pg c g k) :=
  inferInstanceAs (Decidable (_ ∧ _))

/-- A link strict group was moved to the class. -/
def StrictClass (pg : PgConfig) (pfc : Option PfcConfig) (c : PgConfig) (k : Fin 8) : Prop :=
  ∃ g, groupType pg.tx pfc g = some .strict ∧ MovedTo pg c g k

instance (pg c : PgConfig) (pfc : Option PfcConfig) (k : Fin 8) :
    Decidable (StrictClass pg pfc c k) :=
  inferInstanceAs (Decidable (∃ _, _))

/-- What the fix-up of a configuration should preserve. -/
structure FixupRight (pg : PgConfig) (pfc : Option PfcConfig) (c : PgConfig) : Prop where
  below : ∀ i, (c.tx.up i).pgid.toNat < pg.numTcs
  together : ∀ i j, (pg.tx.up i).pgid = (pg.tx.up j).pgid →
    trafficType pg.tx pfc i = trafficType pg.tx pfc j → (c.tx.up i).pgid = (c.tx.up j).pgid
  apart : ∀ i j, trafficType pg.tx pfc i ≠ trafficType pg.tx pfc j →
    (c.tx.up i).pgid ≠ (c.tx.up j).pgid
  agree : ∀ i, (c.rx.up i).pgid = (c.tx.up i).pgid
  /-- A strict class has the percentages of its groups. -/
  strict : ∀ k, StrictClass pg pfc c k →
    percent c.tx k = ∑ g, if MovedTo pg c g k then percent pg.tx g else 0
  /-- Another class has those of its groups at least. -/
  carried : ∀ k, ¬ StrictClass pg pfc c k →
    (∑ g, if MovedTo pg c g k then percent pg.tx g else 0) ≤ percent c.tx k
  /-- The percentages that are not strict keep their sum. -/
  total : (∑ k, if StrictClass pg pfc c k then 0 else percent c.tx k) =
    ∑ g, if groupType pg.tx pfc g = some .strict then 0 else percent pg.tx g

/-- `dcb_fixup_pg` stays inside its arrays, and it preserves the configuration when it succeeds. -/
def FixesRight (pg : PgConfig) (pfc : Option PfcConfig) : Prop :=
  Returns (dcbFixupPg pg pfc) ∧ ∀ c, dcbFixupPg pg pfc = .ok (some c) → FixupRight pg pfc c

/-! ### The configurations that are fixed up rightly -/

/-- The priorities of a group have one traffic type. -/
def OneTypeEach (pg : PgConfig) (pfc : Option PfcConfig) : Prop :=
  ∀ i j, (pg.tx.up i).pgid = (pg.tx.up j).pgid →
    trafficType pg.tx pfc i = trafficType pg.tx pfc j

/-- The percentages of the groups without a priority -/
def unusedTotal (t : TrafficAttribs) : Int := ∑ g, if Used t g then 0 else percent t g

/-- The percentages of groups that do not fit, with the classes `n` for the types: a class has room
for those of its groups, and for the rest if it gets that. All eight total 100, as bytes. Where a
group without a priority has a percentage, there is a class below the strict ones for it. -/
structure SharesFit (pg : PgConfig) (pfc : Option PfcConfig) (n : TypeCounts) : Prop where
  room : ∀ k, load pg pfc n k + (if TakesRest pg n k then unusedTotal pg.tx else 0) ≤ 255
  all : (usedTotal pg.tx + unusedTotal pg.tx) % 256 = 100
  rest : usedTotal pg.tx = 100 ∨ n.strict < pg.numTcs
  class_ : unusedTotal pg.tx = 0 ∨ n.strict < pg.numTcs ∧
    ∀ g, groupType pg.tx pfc g = some .strict →
      (classNo pg.tx pfc n g : Int) ≠ pg.numTcs - n.strict - 1

/-- What `fixup_right_iff` asks of a configuration. -/
def FixupGuard (pg : PgConfig) (pfc : Option PfcConfig) : Prop :=
  if pgidsUsed pg.tx ≤ pg.numTcs then
    OneTypeEach pg pfc ∧ ∀ i, (pg.rx.up i).pgid = (pg.tx.up i).pgid
  else
    ∀ n, fixupCounts pg pfc = some n → OneTypeEach pg pfc ∧ SharesFit pg pfc n

/-! ### The classes of the groups -/

namespace FixedUp

theorem movedTo_iff (h : FixedUp pg pfc c n classOf tcbw) {g k : Fin 8} :
    MovedTo pg c g k ↔ Used pg.tx g ∧ classOf g = k := by
  have hclass : ∀ j, (pg.tx.up j).pgid.toNat = g.val → (c.tx.up j).pgid.toNat = (classOf g).val :=
    fun j hj => by rw [h.pgidTx j g hj, toNat_ofNat_class]
  constructor
  · rintro ⟨⟨j, hj⟩, hmoved⟩
    exact ⟨⟨j, hj⟩, Fin.ext ((hclass j hj).symm.trans (hmoved j hj))⟩
  · rintro ⟨hused, rfl⟩
    exact ⟨hused, hclass⟩

theorem classOf_lt (h : FixedUp pg pfc c n classOf tcbw) {g : Fin 8} (hg : Used pg.tx g) :
    (classOf g).val < pg.numTcs := by
  have hsum := (clipCounts_clipped h.counts).sum
  obtain ⟨j, hj⟩ := used_iff_head.mp hg
  obtain ⟨-, htop⟩ := h.inType g j hj
  cases htype : trafficType pg.tx pfc j <;> rw [htype] at htop <;>
    simp only [TypeCounts.base, TypeCounts.of] at htop <;> omega

theorem classOf_ne (h : FixedUp pg pfc c n classOf tcbw) {g g' : Fin 8} (hg : Used pg.tx g)
    (hg' : Used pg.tx g') (hne : groupType pg.tx pfc g ≠ groupType pg.tx pfc g') :
    classOf g ≠ classOf g' := by
  obtain ⟨j, hj⟩ := used_iff_head.mp hg
  obtain ⟨j', hj'⟩ := used_iff_head.mp hg'
  obtain ⟨hbase, htop⟩ := h.inType g j hj
  obtain ⟨hbase', htop'⟩ := h.inType g' j' hj'
  unfold groupType at hne
  rw [hj, hj'] at hne
  intro heq
  rw [heq] at hbase htop
  -- The types have their classes one behind the other.
  cases htype : trafficType pg.tx pfc j <;> cases htype' : trafficType pg.tx pfc j' <;>
    simp only [htype, htype', TypeCounts.base, TypeCounts.of, Option.map_some, ne_eq,
      not_true_eq_false] at hne hbase htop hbase' htop' <;> omega

theorem strictClass_iff (h : FixedUp pg pfc c n classOf tcbw) {g : Fin 8} (hg : Used pg.tx g) :
    StrictClass pg pfc c (classOf g) ↔ groupType pg.tx pfc g = some .strict := by
  constructor
  · rintro ⟨g', hstrict, hmoved⟩
    obtain ⟨hg', hclass⟩ := h.movedTo_iff.mp hmoved
    refine Classical.byContradiction fun hne => ?_
    exact h.classOf_ne hg hg' (by rw [hstrict]; exact hne) hclass.symm
  · intro hstrict
    exact ⟨g, hstrict, h.movedTo_iff.mpr ⟨hg, rfl⟩⟩

end FixedUp

/-! ### The percentages of the classes -/

theorem percent_le (t : TrafficAttribs) (g : Fin 8) : percent t g ≤ 255 := by
  have h := (t.pgPercent g).toNat_lt
  unfold percent
  omega

theorem unusedTotal_nonneg (t : TrafficAttribs) : 0 ≤ unusedTotal t := by
  refine Finset.sum_nonneg fun g _ => ?_
  split
  · exact Int.le_refl 0
  · exact percent_nonneg t g

/-- The groups that are not strict are those in use that are not, and those without a priority. -/
theorem sum_notStrict (pg : PgConfig) (pfc : Option PfcConfig) :
    (∑ g, if groupType pg.tx pfc g = some .strict then 0 else percent pg.tx g) =
      (∑ g, if Used pg.tx g ∧ groupType pg.tx pfc g ≠ some .strict then percent pg.tx g else 0) +
        unusedTotal pg.tx := by
  unfold unusedTotal
  rw [← Finset.sum_add_distrib]
  refine Finset.sum_congr rfl fun g _ => ?_
  by_cases hused : Used pg.tx g
  · by_cases hstrict : groupType pg.tx pfc g = some .strict <;> simp [hused, hstrict]
  · have hnone : groupType pg.tx pfc g ≠ some .strict := by
      intro hg
      obtain ⟨j, hj, -⟩ := Option.map_eq_some_iff.mp hg
      exact hused (used_iff_head.mpr ⟨j, hj⟩)
    simp [hused, hnone]

/-- The type of a group is that of each of its priorities. -/
theorem OneTypeEach.groupType_eq (h : OneTypeEach pg pfc) {i g : Fin 8}
    (hi : (pg.tx.up i).pgid.toNat = g.val) :
    groupType pg.tx pfc g = some (trafficType pg.tx pfc i) := by
  obtain ⟨j, hj⟩ := used_iff_head.mp ⟨i, hi⟩
  have hpgid : (pg.tx.up j).pgid.toNat = g.val := mem_pgidUpList.mp (List.mem_of_head? hj)
  have htype := h j i (UInt8.toNat_inj.mp (hpgid.trans hi.symm))
  unfold groupType
  rw [hj, Option.map_some, htype]

namespace FixedUp

theorem sum_moved_eq (h : FixedUp pg pfc c n classOf tcbw) (k : Fin 8) :
    (∑ g, if MovedTo pg c g k then percent pg.tx g else 0) = load pg pfc n k := by
  simp only [h.movedTo_iff, h.used_class_iff, load]

/-- The percentages that were moved to the classes that are not strict, group by group -/
theorem sum_load (h : FixedUp pg pfc c n classOf tcbw) :
    (∑ k, if StrictClass pg pfc c k then 0 else load pg pfc n k) =
      ∑ g, if Used pg.tx g ∧ groupType pg.tx pfc g ≠ some .strict then percent pg.tx g else 0 := by
  have hin : ∀ k, (if StrictClass pg pfc c k then (0 : Int) else load pg pfc n k) =
      ∑ g, if classOf g = k then
        if Used pg.tx g ∧ groupType pg.tx pfc g ≠ some .strict then percent pg.tx g else 0
      else 0 := by
    intro k
    split
    · rename_i hk
      refine (Finset.sum_eq_zero fun g _ => ?_).symm
      split_ifs with hg hne
      · subst hg
        exact absurd ((h.strictClass_iff hne.1).mp hk) hne.2
      · rfl
      · rfl
    · rename_i hk
      refine Finset.sum_congr rfl fun g _ => ?_
      rw [← if_congr h.used_class_iff rfl rfl]
      by_cases hg : classOf g = k
      · subst hg
        by_cases hused : Used pg.tx g
        · have hne := mt (h.strictClass_iff hused).mpr hk
          simp [hused, hne]
        · simp [hused]
      · simp [hg]
  rw [Finset.sum_congr rfl fun k _ => hin k, Finset.sum_comm]
  refine Finset.sum_congr rfl fun g _ => ?_
  rw [Finset.sum_ite_eq]
  simp

/-- What the class with the rest has more than its groups goes to the classes that are not strict,
if it is one of them. -/
theorem sum_add_rest (h : FixedUp pg pfc c n classOf tcbw) {x : Int}
    (hx : x = 0 ∨ ∃ r, TakesRest pg n r ∧ ¬ StrictClass pg pfc c r) :
    (∑ k, if StrictClass pg pfc c k then 0 else
      load pg pfc n k + if TakesRest pg n k then x else 0) =
      (∑ g, if Used pg.tx g ∧ groupType pg.tx pfc g ≠ some .strict then percent pg.tx g else 0) +
        x := by
  have hrest : (∑ k, if StrictClass pg pfc c k then (0 : Int) else
      if TakesRest pg n k then x else 0) = x := by
    rcases hx with rfl | ⟨r, hr, hne⟩
    · simp
    · rw [Finset.sum_eq_single r]
      · rw [if_neg hne, if_pos hr]
      · intro k _ hk
        have hkr : ¬ TakesRest pg n k := by
          intro hk'
          unfold TakesRest at hr hk'
          exact hk (Fin.ext (by omega))
        simp [hkr]
      · exact fun hr => absurd (Finset.mem_univ r) hr
  rw [← h.sum_load]
  conv_rhs => rw [← hrest]
  rw [← Finset.sum_add_distrib]
  refine Finset.sum_congr rfl fun k _ => ?_
  split
  · rfl
  · rfl

/-- A strict group's turn leads to a class exactly when the class is strict. -/
theorem strictClass_classNo (h : FixedUp pg pfc c n classOf tcbw) {k : Fin 8} :
    StrictClass pg pfc c k ↔
      ∃ g, groupType pg.tx pfc g = some .strict ∧ classNo pg.tx pfc n g = k.val := by
  refine exists_congr fun g => and_congr_right fun hstrict => ?_
  have hused : Used pg.tx g := by
    obtain ⟨j, hj, -⟩ := Option.map_eq_some_iff.mp hstrict
    exact used_iff_head.mpr ⟨j, hj⟩
  rw [h.movedTo_iff, h.used_class_iff]
  exact and_iff_right hused

end FixedUp

/-! ### When the fix-up is right -/

namespace FixedUp

/-- With room for them, the classes have the percentages of their groups, and the rest. -/
theorem percent_of_sharesFit (h : FixedUp pg pfc c n classOf tcbw) (hfit : SharesFit pg pfc n)
    (k : Fin 8) : percent c.tx k =
      load pg pfc n k + if TakesRest pg n k then unusedTotal pg.tx else 0 := by
  have hload := load_nonneg pg pfc n k
  have hunused := unusedTotal_nonneg pg.tx
  have hroom := hfit.room k
  have hall := hfit.all
  rw [h.percent_class k]
  split_ifs at hroom ⊢ <;> omega

theorem right_of_sharesFit (h : FixedUp pg pfc c n classOf tcbw) (hone : OneTypeEach pg pfc)
    (h8 : ∀ i, (pg.tx.up i).pgid.toNat < 8) (hnum : pg.numTcs ≤ 8) (hfit : SharesFit pg pfc n) :
    FixupRight pg pfc c where
  below i := by
    rw [h.pgidTx i ⟨_, h8 i⟩ rfl, toNat_ofNat_class]
    exact h.classOf_lt ⟨i, rfl⟩
  together i j hij _ := by
    rw [h.pgidTx i ⟨_, h8 i⟩ rfl, h.pgidTx j ⟨_, h8 i⟩ (congrArg UInt8.toNat hij.symm)]
  apart i j hne heq := by
    rw [h.pgidTx i ⟨_, h8 i⟩ rfl, h.pgidTx j ⟨_, h8 j⟩ rfl] at heq
    have hval := congrArg UInt8.toNat heq
    rw [toNat_ofNat_class, toNat_ofNat_class] at hval
    refine h.classOf_ne ⟨i, rfl⟩ ⟨j, rfl⟩ ?_ (Fin.ext hval)
    rw [hone.groupType_eq rfl, hone.groupType_eq rfl]
    exact fun heq => hne (Option.some.inj heq)
  agree := h.pgidRx
  strict k hk := by
    rw [h.sum_moved_eq, h.percent_of_sharesFit hfit k]
    split
    · rename_i hrest
      obtain ⟨g, hg, hclass⟩ := h.strictClass_classNo.mp hk
      rcases hfit.class_ with hzero | ⟨-, hne⟩
      · rw [hzero, add_zero]
      · refine absurd ?_ (hne g hg)
        rw [hclass]
        exact hrest
    · exact add_zero _
  carried k _ := by
    have hunused := unusedTotal_nonneg pg.tx
    rw [h.sum_moved_eq, h.percent_of_sharesFit hfit k]
    split <;> omega
  total := by
    simp only [h.percent_of_sharesFit hfit]
    rw [sum_notStrict]
    refine h.sum_add_rest (hfit.class_.imp_right ?_)
    rintro ⟨hlt, hne⟩
    have hsum := (clipCounts_clipped h.counts).sum
    refine ⟨⟨pg.numTcs - n.strict - 1, by omega⟩, ?_, fun hk => ?_⟩
    · unfold TakesRest
      dsimp only
      omega
    · obtain ⟨g, hg, hclass⟩ := h.strictClass_classNo.mp hk
      refine hne g hg ?_
      rw [hclass]
      dsimp only
      omega

/-- The percentages fit when the fix-up was right. -/
theorem sharesFit_of_right (h : FixedUp pg pfc c n classOf tcbw) (hnum : pg.numTcs ≤ 8)
    (hright : FixupRight pg pfc c) : SharesFit pg pfc n := by
  have hsum := (clipCounts_clipped h.counts).sum
  have hunused := unusedTotal_nonneg pg.tx
  have htop := fun k => percent_le c.tx k
  have hload := fun k => load_nonneg pg pfc n k
  -- No class loses a percentage of its groups.
  have hle : ∀ k, load pg pfc n k ≤ percent c.tx k := by
    intro k
    by_cases hk : StrictClass pg pfc c k
    · exact ((h.sum_moved_eq k).symm.trans (hright.strict k hk).symm).le
    · rw [← h.sum_moved_eq k]
      exact hright.carried k hk
  have hother : ∀ k, ¬ TakesRest pg n k → percent c.tx k = load pg pfc n k := by
    intro k hk
    have hclass := h.percent_class k
    rw [if_neg hk, add_zero] at hclass
    have hlek := hle k
    have htopk := htop k
    have hloadk := hload k
    omega
  have hstrict : ∀ k, StrictClass pg pfc c k → percent c.tx k = load pg pfc n k := fun k hk =>
    (hright.strict k hk).trans (h.sum_moved_eq k)
  have htotal := hright.total
  rw [sum_notStrict] at htotal
  by_cases hlt : n.strict < pg.numTcs
  · let r : Fin 8 := ⟨pg.numTcs - n.strict - 1, by omega⟩
    have hr : TakesRest pg n r := by
      show ((pg.numTcs - n.strict - 1 : Nat) : Int) = _
      omega
    have honly : ∀ k, TakesRest pg n k → k = r := by
      intro k hk
      unfold TakesRest at hr hk
      exact Fin.ext (by omega)
    have hclass := h.percent_class r
    rw [if_pos hr] at hclass
    have hler := hle r
    have htopr := htop r
    have hloadr := hload r
    -- The class of the rest has what the groups without a priority have.
    have hgain : percent c.tx r = load pg pfc n r + unusedTotal pg.tx ∧
        (unusedTotal pg.tx = 0 ∨ ¬ StrictClass pg pfc c r) := by
      have hclasses : ∀ x, percent c.tx r = load pg pfc n r + x →
          ∀ k, percent c.tx k = load pg pfc n k + if TakesRest pg n k then x else 0 := by
        intro x hx k
        split
        · rename_i hk
          rw [honly k hk]
          exact hx
        · rename_i hk
          rw [hother k hk, add_zero]
      by_cases hrs : StrictClass pg pfc c r
      · have hzero := hclasses 0 (by rw [hstrict r hrs, add_zero])
        simp only [hzero] at htotal
        rw [h.sum_add_rest (.inl rfl)] at htotal
        have hnone : unusedTotal pg.tx = 0 := by omega
        exact ⟨by rw [hnone, hstrict r hrs, add_zero], .inl hnone⟩
      · have hgain := hclasses (percent c.tx r - load pg pfc n r) (by omega)
        rw [Finset.sum_congr rfl fun k _ => by rw [hgain k],
          h.sum_add_rest (.inr ⟨r, hr, hrs⟩)] at htotal
        exact ⟨by omega, .inr hrs⟩
    obtain ⟨hgain, hclass_⟩ := hgain
    refine ⟨fun k => ?_, by omega, .inr hlt, hclass_.imp_right fun hrs => ⟨hlt, ?_⟩⟩
    · split
      · rename_i hk
        rw [honly k hk]
        omega
      · rename_i hk
        have hk := hother k hk
        have htopk := htop k
        omega
    · intro g hg hclassNo
      refine hrs (h.strictClass_classNo.mpr ⟨g, hg, ?_⟩)
      unfold TakesRest at hr
      omega
  · have hfull : usedTotal pg.tx = 100 := Classical.byContradiction fun hne => hlt (h.rest hne)
    have hnone : ∀ k, ¬ TakesRest pg n k := by
      intro k hk
      unfold TakesRest at hk
      omega
    have hclasses : ∀ k, percent c.tx k =
        load pg pfc n k + if TakesRest pg n k then 0 else 0 := by
      intro k
      rw [hother k (hnone k), ite_self, add_zero]
    simp only [hclasses] at htotal
    rw [h.sum_add_rest (.inl rfl)] at htotal
    have hzero : unusedTotal pg.tx = 0 := by omega
    refine ⟨fun k => ?_, by omega, .inl hfull, .inl hzero⟩
    rw [if_neg (hnone k), ← hother k (hnone k), add_zero]
    exact htop k

end FixedUp

/-- Groups that fit are kept as they are. -/
theorem right_of_fits (hfits : pgidsUsed pg.tx ≤ pg.numTcs) :
    FixupRight pg pfc { pg with tx := pg.tx.ownBwgid, rx := pg.rx.ownBwgid } ↔
      OneTypeEach pg pfc ∧ ∀ i, (pg.rx.up i).pgid = (pg.tx.up i).pgid := by
  have hmoved : ∀ g k, MovedTo pg { pg with tx := pg.tx.ownBwgid, rx := pg.rx.ownBwgid } g k ↔
      Used pg.tx g ∧ g = k := by
    intro g k
    refine and_congr_right fun ⟨j, hj⟩ => ⟨fun h => ?_, ?_⟩
    · exact Fin.ext (hj.symm.trans (h j hj))
    · rintro rfl i hi
      exact hi
  have hused : ∀ g, groupType pg.tx pfc g = some .strict → Used pg.tx g := by
    intro g hg
    obtain ⟨j, hj, -⟩ := Option.map_eq_some_iff.mp hg
    exact used_iff_head.mpr ⟨j, hj⟩
  have hstrict : ∀ k, StrictClass pg pfc
      { pg with tx := pg.tx.ownBwgid, rx := pg.rx.ownBwgid } k ↔
        groupType pg.tx pfc k = some .strict := by
    intro k
    constructor
    · rintro ⟨g, hg, hm⟩
      rw [← ((hmoved g k).mp hm).2]
      exact hg
    · exact fun hk => ⟨k, hk, (hmoved k k).mpr ⟨hused k hk, rfl⟩⟩
  have hsum : ∀ k, (∑ g, if Used pg.tx g ∧ g = k then percent pg.tx g else 0) =
      if Used pg.tx k then percent pg.tx k else 0 := by
    intro k
    rw [Finset.sum_eq_single k]
    · simp
    · intro g _ hg
      exact if_neg fun hand => hg hand.2
    · exact fun hk => absurd (Finset.mem_univ k) hk
  constructor
  · intro h
    exact ⟨fun i j hij => Classical.byContradiction fun hne => h.apart i j hne hij, h.agree⟩
  · rintro ⟨hone, hrx⟩
    refine ⟨fun i => Nat.lt_of_lt_of_le (le_pgidsUsed pg.tx i) hfits, fun i j hij _ => hij,
      fun i j hne heq => hne (hone i j heq), hrx, fun k hk => ?_, fun k _ => ?_, ?_⟩
    · simp only [hmoved]
      rw [hsum, if_pos (hused k ((hstrict k).mp hk))]
      rfl
    · simp only [hmoved]
      rw [hsum]
      split
      · exact Int.le_refl _
      · exact percent_nonneg pg.tx k
    · simp only [hstrict]
      rfl

/-- Three groups for two traffic classes -/
def threeGroups : TrafficAttribs where
  pgPercent g := if g = 0 then 50 else if g = 3 then 30 else if g = 5 then 20 else 0
  up i := { pgid := if i.val < 4 then 0 else if i.val < 6 then 3 else 5, percentOfPgCap := 100 }

/-- Group 2 has a percentage and no priority. Groups 0 and 1 are link strict. -/
def strictRest : TrafficAttribs where
  pgPercent g := if g = 0 ∨ g = 1 then 20 else if g = 2 ∨ g = 7 then 30 else 0
  up i :=
    { pgid := if i.val < 2 then 0 else if i.val < 4 then 1 else 7
      strictPriority := if i.val < 4 then .link else .none }

end Lldpad.Dcbx
