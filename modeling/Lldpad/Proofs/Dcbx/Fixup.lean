import Lldpad.Dcbx.RuleChk
import Mathlib.Algebra.BigOperators.Fin
import Mathlib.Algebra.Order.BigOperators.Group.Finset

/-!
# `Lldpad.Proofs.Dcbx.Fixup`: the groups fitted to the traffic classes

`dcb_fixup_pg` leaves groups that fit as they are. Otherwise it moves each group as a whole to a
class of its type, and adds up the percentages (`FixedUp`).

`RemapOk` and `RemapSums` are the invariants of the loop: each group has a class of its type, and
each class the percentages of the groups that were moved there.
-/

namespace Lldpad.Dcbx

open Lldpad.Lib

/-! ### The counts -/

section Counts

variable {t : TrafficAttribs} {pfc : Option PfcConfig}

theorem mem_pgidUpList {g j : Fin 8} : j ∈ pgidUpList t g ↔ (t.up j).pgid.toNat = g := by
  unfold pgidUpList
  rw [List.mem_filter]
  simp

theorem countType_pos (pfc : Option PfcConfig) {g j : Fin 8} (h : (pgidUpList t g).head? = some j) :
    0 < countType t pfc (trafficType t pfc j) := by
  unfold countType
  rw [List.countP_pos_iff]
  exact ⟨g, List.mem_finRange g, by rw [h]; simp⟩

theorem row_of_up (h : ∀ i, (t.up i).pgid.toNat < 8) (j : Fin 8) :
    ∃ g k, (pgidUpList t g).head? = some k ∧ (t.up k).pgid = (t.up j).pgid := by
  let g : Fin 8 := ⟨(t.up j).pgid.toNat, h j⟩
  have hj : j ∈ pgidUpList t g := mem_pgidUpList.mpr rfl
  cases hrow : pgidUpList t g with
  | nil =>
    rw [hrow] at hj
    cases hj
  | cons k rest =>
    have hk : k ∈ pgidUpList t g := by
      rw [hrow]
      exact List.mem_cons_self ..
    refine ⟨g, k, by rw [hrow]; rfl, ?_⟩
    exact UInt8.toNat_inj.mp (mem_pgidUpList.mp hk)

theorem trafficType_strict {j : Fin 8} :
    trafficType t pfc j = .strict ↔ (t.up j).strictPriority = .link := by
  unfold trafficType
  split
  · rename_i h
    exact ⟨fun _ => h, fun _ => rfl⟩
  · rename_i h
    split
    · exact ⟨nofun, fun h' => absurd h' h⟩
    · exact ⟨nofun, fun h' => absurd h' h⟩

end Counts

/-! ### The traffic classes of the types -/

/-- The number of classes of a type -/
def TypeCounts.of (c : TypeCounts) : TrafficType → Nat
  | .strict => c.strict
  | .pfc => c.pfc
  | .bestEffort => c.be

/-- The first class of a type -/
def TypeCounts.base (c : TypeCounts) : TrafficType → Nat
  | .strict => c.be + c.pfc
  | .pfc => c.be
  | .bestEffort => 0

/-- What `clipCounts` makes of the counts `n`. -/
structure Clipped (numTcs : Nat) (n c : TypeCounts) : Prop where
  sum : c.be + c.pfc + c.strict ≤ numTcs
  pos : ∀ k, 0 < n.of k → 0 < c.of k
  strict : c.strict ≤ n.strict
  /-- Another type leaves a class for itself. -/
  room : 0 < n.be ∨ 0 < n.pfc → c.strict < numTcs

theorem clipCounts_clipped {numTcs : Nat} {n c : TypeCounts}
    (h : clipCounts numTcs n = some c) : Clipped numTcs n c := by
  have hbit : ∀ x, bit x ≤ 1 ∧ (0 < x → bit x = 1) := by
    intro x
    unfold bit
    split <;> omega
  obtain ⟨hb, hb'⟩ := hbit n.be
  obtain ⟨hs, hs'⟩ := hbit n.strict
  obtain ⟨hp, hp'⟩ := hbit n.pfc
  unfold clipCounts at h
  split at h
  · cases h
  rename_i hroom
  cases h
  refine ⟨by dsimp only; omega, ?_, by dsimp only; omega, by dsimp only; omega⟩
  intro k hk
  cases k with
  | strict =>
    have hk := hs' hk
    dsimp only [TypeCounts.of] at *
    omega
  | pfc =>
    have hk := hp' hk
    dsimp only [TypeCounts.of] at *
    omega
  | bestEffort =>
    have hk := hb' hk
    dsimp only [TypeCounts.of] at *
    omega

/-! ### The remapping loop -/

/-- The counter of a type -/
def Remap.of (m : Remap) : TrafficType → Nat
  | .strict => m.strict
  | .pfc => m.pfc
  | .bestEffort => m.be

/-- The loop after the groups `done`: each of them has a class of its type. -/
structure RemapOk (t : TrafficAttribs) (pfc : Option PfcConfig) (c : TypeCounts)
    (done : List (Fin 8)) (m : Remap) : Prop where
  counter : ∀ k, 0 < c.of k → m.of k < c.of k
  mapped : ∀ g ∈ done, ∀ j, (pgidUpList t g).head? = some j →
    c.base (trafficType t pfc j) ≤ (m.pgidOf g).val ∧
      (m.pgidOf g).val < c.base (trafficType t pfc j) + c.of (trafficType t pfc j)

/-- The next class of a type is one of its classes, and the counters stay below their
limits. -/
theorem nextClass_spec {c : TypeCounts} {m : Remap} (k : TrafficType)
    (hm : ∀ k, 0 < c.of k → m.of k < c.of k) (hk : 0 < c.of k) :
    c.base k ≤ (nextClass c m k).1 ∧ (nextClass c m k).1 < c.base k + c.of k ∧
      (∀ k', 0 < c.of k' → (nextClass c m k).2.of k' < c.of k') ∧
      (nextClass c m k).2.pgidOf = m.pgidOf := by
  have hlt := hm k hk
  cases k with
  | strict =>
    refine ⟨Nat.le_add_right .., Nat.add_lt_add_left hlt _, ?_, rfl⟩
    intro k' hk'
    cases k' with
    | strict =>
      change (if m.strict + 1 = c.strict then 0 else m.strict + 1) < c.strict
      have hlt : m.strict < c.strict := hlt
      split <;> omega
    | pfc => exact hm .pfc hk'
    | bestEffort => exact hm .bestEffort hk'
  | pfc =>
    refine ⟨Nat.le_add_right .., Nat.add_lt_add_left hlt _, ?_, rfl⟩
    intro k' hk'
    cases k' with
    | strict => exact hm .strict hk'
    | pfc =>
      change (if m.pfc + 1 = c.pfc then 0 else m.pfc + 1) < c.pfc
      have hlt : m.pfc < c.pfc := hlt
      split <;> omega
    | bestEffort => exact hm .bestEffort hk'
  | bestEffort =>
    refine ⟨Nat.zero_le _, by
      change m.be < 0 + c.be
      rw [Nat.zero_add]
      exact hlt, ?_, rfl⟩
    intro k' hk'
    cases k' with
    | strict => exact hm .strict hk'
    | pfc => exact hm .pfc hk'
    | bestEffort =>
      change (if m.be + 1 = c.be then 0 else m.be + 1) < c.be
      have hlt : m.be < c.be := hlt
      split <;> omega

theorem addTcbw_ok (tcbw : Fin 8 → Int) (pgid x : Int) (h : 0 ≤ pgid) (h' : pgid < 8) :
    ∃ tcbw', addTcbw tcbw pgid x = .ok tcbw' := by
  unfold addTcbw
  rw [dif_pos ⟨h, by omega⟩]
  exact ⟨_, rfl⟩

theorem remapRow_ok {t : TrafficAttribs} {pfc : Option PfcConfig} {c : TypeCounts}
    (hsum : c.be + c.pfc + c.strict ≤ 8)
    (hpos : ∀ g j, (pgidUpList t g).head? = some j → 0 < c.of (trafficType t pfc j))
    (done : List (Fin 8)) (m : Remap) (g : Fin 8) (h : RemapOk t pfc c done m) :
    ∃ m', remapRow t pfc c m g = .ok m' ∧ RemapOk t pfc c (g :: done) m' := by
  unfold remapRow
  cases hrow : (pgidUpList t g).head? with
  | none =>
    refine ⟨m, rfl, h.counter, ?_⟩
    intro g' hg' j hj
    rcases List.mem_cons.mp hg' with rfl | hg'
    · rw [hrow] at hj
      cases hj
    · exact h.mapped g' hg' j hj
  | some j =>
    obtain ⟨hbase, htop, hcounter, hkeep⟩ :=
      nextClass_spec (trafficType t pfc j) h.counter (hpos g j hrow)
    have hlt : (nextClass c m (trafficType t pfc j)).1 < 8 := by
      cases hk : trafficType t pfc j <;> rw [hk] at htop <;>
        simp only [TypeCounts.base, TypeCounts.of] at htop <;> omega
    obtain ⟨tcbw, htcbw⟩ := addTcbw_ok (nextClass c m (trafficType t pfc j)).2.tcbw
      (nextClass c m (trafficType t pfc j)).1 (t.pgPercent g).toNat (by omega) (by omega)
    dsimp only
    rw [htcbw, bind_ok, dif_pos hlt]
    refine ⟨_, rfl, hcounter, ?_⟩
    intro g' hg' j' hj'
    by_cases hgg : g' = g
    · cases hgg
      rw [hrow] at hj'
      cases hj'
      simp only [↓reduceIte]
      exact ⟨hbase, htop⟩
    · simp only [hgg, ↓reduceIte]
      rw [hkeep]
      exact h.mapped g' ((List.mem_cons.mp hg').resolve_left hgg) j' hj'

section Groups

variable (t : TrafficAttribs) (pfc : Option PfcConfig)

/-- Some user priority is in the group. -/
def Used (g : Fin 8) : Prop := ∃ j, (t.up j).pgid.toNat = g.val

instance (g : Fin 8) : Decidable (Used t g) := inferInstanceAs (Decidable (∃ _, _))

/-- The traffic type of a group is that of its first user priority. -/
def groupType (g : Fin 8) : Option TrafficType :=
  (pgidUpList t g).head?.map (trafficType t pfc)

/-- The percentage of a group -/
def percent (g : Fin 8) : Int := (t.pgPercent g).toNat

end Groups

variable {t : TrafficAttribs} {pfc : Option PfcConfig}

theorem used_iff_head {g : Fin 8} : Used t g ↔ ∃ j, (pgidUpList t g).head? = some j := by
  constructor
  · rintro ⟨j, hj⟩
    cases hrow : pgidUpList t g with
    | nil =>
      have hmem := mem_pgidUpList.mpr hj
      rw [hrow] at hmem
      cases hmem
    | cons k rest => exact ⟨k, rfl⟩
  · rintro ⟨j, hj⟩
    exact ⟨j, mem_pgidUpList.mp (List.mem_of_head? hj)⟩

/-- The groups of a list with a traffic type -/
def typeRank (t : TrafficAttribs) (pfc : Option PfcConfig) (k : TrafficType)
    (l : List (Fin 8)) : Nat :=
  l.countP fun g => groupType t pfc g = some k

/-- The number of a group's class: the classes of a type are dealt out in turn. -/
def classNo (t : TrafficAttribs) (pfc : Option PfcConfig) (c : TypeCounts) (g : Fin 8) : Nat :=
  match groupType t pfc g with
  | none => g
  | some k => c.base k + typeRank t pfc k ((List.finRange 8).filter (· < g)) % c.of k

/-- What the loop dealt out and added up after the groups `done` -/
structure RemapSums (t : TrafficAttribs) (pfc : Option PfcConfig) (c : TypeCounts)
    (done : List (Fin 8)) (m : Remap) : Prop where
  turn : ∀ k, 0 < c.of k → m.of k = typeRank t pfc k done % c.of k
  mapped : ∀ g ∈ done, ∀ k, groupType t pfc g = some k → 0 < c.of k →
    (m.pgidOf g).val = c.base k + typeRank t pfc k (done.filter (· < g)) % c.of k
  tcbw : ∀ k, m.tcbw k =
    (done.map fun g => if Used t g ∧ m.pgidOf g = k then percent t g else 0).sum
  totalbw : m.totalbw = (done.map fun g => if Used t g then percent t g else 0).sum

theorem addTcbw_eq_ok {tcbw tcbw' : Fin 8 → Int} {pgid x : Int}
    (h : addTcbw tcbw pgid x = .ok tcbw') :
    0 ≤ pgid ∧ pgid < 8 ∧ ∀ i, tcbw' i = tcbw i + if (i.val : Int) = pgid then x else 0 := by
  unfold addTcbw at h
  split at h
  · rename_i hrange
    cases h
    refine ⟨hrange.1, by omega, fun i => ?_⟩
    have hi : i = ⟨pgid.toNat, hrange.2⟩ ↔ (i.val : Int) = pgid := by
      rw [Fin.ext_iff]
      dsimp only
      omega
    dsimp only
    rw [if_congr hi rfl rfl]
    split <;> omega
  · cases h

theorem nextClass_sums (c : TypeCounts) (m : Remap) (k : TrafficType) :
    (nextClass c m k).2.pgidOf = m.pgidOf ∧ (nextClass c m k).2.tcbw = m.tcbw ∧
      (nextClass c m k).2.totalbw = m.totalbw := by
  cases k <;> exact ⟨rfl, rfl, rfl⟩

/-- The next class of a type is the one whose turn it is, and then it is the turn of the one
behind it. -/
theorem nextClass_turn (c : TypeCounts) (m : Remap) (k : TrafficType) :
    (nextClass c m k).1 = c.base k + m.of k ∧
      (nextClass c m k).2.of k = (if m.of k + 1 = c.of k then 0 else m.of k + 1) ∧
      ∀ k', k' ≠ k → (nextClass c m k).2.of k' = m.of k' := by
  cases k
  · refine ⟨rfl, rfl, fun k' hk => ?_⟩
    cases k' <;> first | exact absurd rfl hk | rfl
  · refine ⟨rfl, rfl, fun k' hk => ?_⟩
    cases k' <;> first | exact absurd rfl hk | rfl
  · refine ⟨(Nat.zero_add _).symm, rfl, fun k' hk => ?_⟩
    cases k' <;> first | exact absurd rfl hk | rfl

theorem turn_succ {a n : Nat} (hn : 0 < n) :
    (if a % n + 1 = n then 0 else a % n + 1) = (a + 1) % n := by
  have hlt := Nat.mod_lt a hn
  rw [← Nat.mod_add_mod]
  split
  · rename_i hlast
    rw [hlast, Nat.mod_self]
  · rw [Nat.mod_eq_of_lt (by omega : a % n + 1 < n)]

theorem typeRank_cons (k : TrafficType) (g : Fin 8) (l : List (Fin 8)) :
    typeRank t pfc k (g :: l) = typeRank t pfc k l + if groupType t pfc g = some k then 1 else 0 := by
  unfold typeRank
  rw [List.countP_cons]
  simp

theorem remapRow_sums {c : TypeCounts} {done : List (Fin 8)} {m m' : Remap} {g : Fin 8}
    (hg : ∀ x ∈ done, x < g) (h : RemapSums t pfc c done m)
    (hrow : remapRow t pfc c m g = .ok m') : RemapSums t pfc c (g :: done) m' := by
  have hnew : g ∉ done := fun hmem => lt_irrefl g (hg g hmem)
  -- The groups before an earlier group are the same as they were.
  have hbefore : ∀ g' ∈ done, (g :: done).filter (· < g') = done.filter (· < g') := fun g' hg' =>
    List.filter_cons_of_neg (by simpa using le_of_lt (hg g' hg'))
  have hall : (g :: done).filter (· < g) = done := by
    rw [List.filter_cons_of_neg (by simp)]
    exact List.filter_eq_self.mpr fun x hx => by simpa using hg x hx
  unfold remapRow at hrow
  cases hhead : (pgidUpList t g).head? with
  | none =>
    rw [hhead] at hrow
    cases hrow
    have hunused : ¬ Used t g := by
      rw [used_iff_head, hhead]
      simp
    have hnone : groupType t pfc g = none := by rw [groupType, hhead]; rfl
    refine ⟨fun k hk => ?_, fun g' hg' k htype hk => ?_, fun k => ?_, ?_⟩
    · rw [typeRank_cons, hnone, if_neg (by simp), Nat.add_zero]
      exact h.turn k hk
    · rcases List.mem_cons.mp hg' with rfl | hg'
      · rw [hnone] at htype
        cases htype
      · rw [hbefore g' hg']
        exact h.mapped g' hg' k htype hk
    · rw [h.tcbw k, List.map_cons, if_neg (fun hu => hunused hu.1), List.sum_cons, zero_add]
    · rw [h.totalbw, List.map_cons, if_neg hunused, List.sum_cons, zero_add]
  | some j =>
    rw [hhead] at hrow
    obtain ⟨hpgidOf, htcbw, htotal⟩ := nextClass_sums c m (trafficType t pfc j)
    obtain ⟨hclassNo, hown, hother⟩ := nextClass_turn c m (trafficType t pfc j)
    have hused : Used t g := used_iff_head.mpr ⟨j, hhead⟩
    have htypeOf : groupType t pfc g = some (trafficType t pfc j) := by rw [groupType, hhead]; rfl
    dsimp only at hrow
    generalize nextClass c m (trafficType t pfc j) = next at *
    obtain ⟨tcbw, hadd, hrow⟩ := bind_eq_ok.mp hrow
    obtain ⟨-, -, hadd⟩ := addTcbw_eq_ok hadd
    split at hrow
    · cases hrow
      refine ⟨fun k hk => ?_, fun g' hg' k htype hk => ?_, fun k => ?_, ?_⟩
      · rw [typeRank_cons, htypeOf]
        by_cases hkj : k = trafficType t pfc j
        · subst hkj
          rw [if_pos rfl, ← turn_succ hk, ← h.turn _ hk]
          exact hown
        · rw [if_neg (fun heq => hkj (Option.some.inj heq).symm), Nat.add_zero, ← h.turn k hk]
          exact hother k hkj
      · dsimp only
        rcases List.mem_cons.mp hg' with rfl | hg'
        · have hkj : trafficType t pfc j = k := Option.some.inj (htypeOf.symm.trans htype)
          subst hkj
          rw [if_pos rfl, hall, ← h.turn _ hk]
          exact hclassNo
        · rw [if_neg (fun heq : g' = g => hnew (heq ▸ hg')), hbefore g' hg', hpgidOf]
          exact h.mapped g' hg' k htype hk
      · -- The groups before keep their classes.
        have hkeep : (done.map fun g' => if Used t g' ∧ (if g' = g then (⟨next.1, ‹_›⟩ : Fin 8)
            else next.2.pgidOf g') = k then percent t g' else 0) =
              done.map fun g' => if Used t g' ∧ m.pgidOf g' = k then percent t g' else 0 := by
          refine List.map_congr_left fun g' hg' => ?_
          rw [if_neg (fun heq : g' = g => hnew (heq ▸ hg')), hpgidOf]
        dsimp only
        rw [hadd k, htcbw, h.tcbw k, List.map_cons, List.sum_cons, hkeep, add_comm]
        have hclass : ((k.val : Int) = (next.1 : Int)) ↔ next.1 = k.val := by omega
        simp only [hused, true_and, if_true, Fin.ext_iff, hclass]
        rfl
      · rw [htotal, h.totalbw, List.map_cons, if_pos hused, List.sum_cons, add_comm]
        rfl
    · cases hrow


/-! ### The fix-up -/

theorem toNat_ofNat_class (g : Fin 8) : (UInt8.ofNat g.val).toNat = g.val := by
  have hg : g.val < 2 ^ 8 := by omega
  exact UInt8.toNat_ofNat_of_lt' hg

/-- The percentages of the groups in use -/
def usedTotal (t : TrafficAttribs) : Int := ∑ g, if Used t g then percent t g else 0

/-- The traffic classes that each type gets -/
def fixupCounts (pg : PgConfig) (pfc : Option PfcConfig) : Option TypeCounts :=
  clipCounts pg.numTcs
    { strict := countType pg.tx pfc .strict
      pfc := countType pg.tx pfc .pfc
      be := countType pg.tx pfc .bestEffort }

/-- The fix-up of groups that do not fit. `classOf` is the new number of each group. -/
structure FixedUp (pg : PgConfig) (pfc : Option PfcConfig) (c : PgConfig) (n : TypeCounts)
    (classOf : Fin 8 → Fin 8) (tcbw : Fin 8 → Int) : Prop where
  counts : fixupCounts pg pfc = some n
  inType : ∀ g j, (pgidUpList pg.tx g).head? = some j →
    n.base (trafficType pg.tx pfc j) ≤ (classOf g).val ∧
      (classOf g).val < n.base (trafficType pg.tx pfc j) + n.of (trafficType pg.tx pfc j)
  turn : ∀ g, Used pg.tx g → (classOf g).val = classNo pg.tx pfc n g
  sums : ∀ k, tcbw k = (∑ g, if Used pg.tx g ∧ classOf g = k then percent pg.tx g else 0) +
    if (k.val : Int) = pg.numTcs - n.strict - 1 then 100 - usedTotal pg.tx else 0
  rest : usedTotal pg.tx ≠ 100 → n.strict < pg.numTcs
  numTcs : c.numTcs = pg.numTcs
  pgidTx : ∀ i g, (pg.tx.up i).pgid.toNat = g.val → (c.tx.up i).pgid = UInt8.ofNat (classOf g)
  pgidRx : ∀ i, (c.rx.up i).pgid = (c.tx.up i).pgid
  strictTx : ∀ i, (c.tx.up i).strictPriority = (pg.tx.up i).strictPriority
  percentTx : ∀ k, c.tx.pgPercent k = UInt8.ofInt (tcbw k)
  percentRx : ∀ k, c.rx.pgPercent k = UInt8.ofInt (tcbw k)

theorem sum_finRange_reverse (f : Fin 8 → Int) :
    (((List.finRange 8).reverse ++ []).map f).sum = ∑ g, f g := by
  rw [List.append_nil, List.map_reverse, List.sum_reverse, ← Fin.sum_univ_def]

theorem pgidsUsed_le {t : TrafficAttribs} (h : ∀ i, (t.up i).pgid.toNat < 8) :
    pgidsUsed t ≤ 8 := by
  -- No priority moves the maximum out of range.
  have hfold : ∀ (l : List (Fin 8)) (n : Nat), n < 8 →
      l.foldl (fun n i => max n (t.up i).pgid.toNat) n < 8 := by
    intro l
    induction l with
    | nil => exact fun n hn => hn
    | cons i l ih =>
      intro n hn
      exact ih _ (Nat.max_lt.mpr ⟨hn, h i⟩)
  exact hfold (List.finRange 8) 0 (by decide)

theorem remap_returns {pg : PgConfig} {n : TypeCounts} (h8 : ∀ i, (pg.tx.up i).pgid.toNat < 8)
    (hbig : pg.numTcs < pgidsUsed pg.tx) (hn : fixupCounts pg pfc = some n) :
    ∃ m, (List.finRange 8).foldlM (remapRow pg.tx pfc n) {} = .ok m ∧
      RemapOk pg.tx pfc n (List.finRange 8).reverse m ∧
      (∀ g, Used pg.tx g → (m.pgidOf g).val = classNo pg.tx pfc n g) ∧
      m.totalbw = usedTotal pg.tx ∧ ∀ k, m.tcbw k = ∑ g, if Used pg.tx g ∧ m.pgidOf g = k then percent pg.tx g else 0 := by
  have hclipped := clipCounts_clipped hn
  have hnum : pg.numTcs < 8 := Nat.lt_of_lt_of_le hbig (pgidsUsed_le h8)
  have hpos : ∀ g j, (pgidUpList pg.tx g).head? = some j →
      0 < n.of (trafficType pg.tx pfc j) := by
    intro g j hj
    refine hclipped.pos _ ?_
    have hcount := countType_pos pfc hj
    cases htype : trafficType pg.tx pfc j <;> rw [htype] at hcount <;> exact hcount
  have hsum := hclipped.sum
  obtain ⟨m, hm, hok⟩ := foldlM_total (RemapOk pg.tx pfc n)
    (fun done m g h => remapRow_ok (by omega) hpos done m g h) (List.finRange 8) [] {}
    ⟨fun k hk => by cases k <;> exact hk, fun g hg => by cases hg⟩
  have hsums := foldlM_induction (R := fun a x => x < a) (RemapSums pg.tx pfc n)
    (fun done m g m' hg h => remapRow_sums hg h) (List.finRange 8) [] {} m (by decide)
    { turn := fun k _ => by cases k <;> exact (Nat.zero_mod _).symm
      mapped := fun g hg => by cases hg
      tcbw := fun _ => rfl
      totalbw := rfl } hm
  rw [List.append_nil] at hok
  refine ⟨m, hm, hok, fun g hg => ?_, hsums.totalbw.trans (sum_finRange_reverse _),
    fun k => (hsums.tcbw k).trans (sum_finRange_reverse _)⟩
  obtain ⟨j, hj⟩ := used_iff_head.mp hg
  have htype : groupType pg.tx pfc g = some (trafficType pg.tx pfc j) := by rw [groupType, hj]; rfl
  have hmapped := hsums.mapped g (by simp) _ htype (hpos g j hj)
  rw [hmapped, classNo, htype, List.append_nil, List.filter_reverse]
  unfold typeRank
  rw [List.countP_reverse]

theorem in_range_of_lt {pg : PgConfig} (h8 : ∀ i, (pg.tx.up i).pgid.toNat < 8) :
    ¬ ((List.finRange 8).any fun i => 8 ≤ (pg.tx.up i).pgid.toNat) = true := by
  intro hany
  obtain ⟨i, -, hi⟩ := List.any_eq_true.mp hany
  have hi := of_decide_eq_true hi
  have := h8 i
  omega

/-- `dcb_fixup_pg` stays inside its arrays, when there is a class for the rest of the
percentages. -/
theorem dcbFixupPg_returns {pg : PgConfig} (h8 : ∀ i, (pg.tx.up i).pgid.toNat < 8)
    (hrest : ∀ n, pg.numTcs < pgidsUsed pg.tx → fixupCounts pg pfc = some n →
      usedTotal pg.tx = 100 ∨ n.strict < pg.numTcs) : ∃ r, dcbFixupPg pg pfc = .ok r := by
  unfold dcbFixupPg
  by_cases hfits : pgidsUsed pg.tx ≤ pg.numTcs
  · exact ⟨_, if_pos hfits⟩
  rw [if_neg hfits, if_neg (in_range_of_lt h8)]
  have hbig : pg.numTcs < pgidsUsed pg.tx := Nat.lt_of_not_le hfits
  cases hn : fixupCounts pg pfc with
  | none =>
    unfold fixupCounts at hn
    rw [hn]
    exact ⟨none, rfl⟩
  | some n =>
    have hnum : pg.numTcs < 8 := Nat.lt_of_lt_of_le hbig (pgidsUsed_le h8)
    obtain ⟨m, hm, -, -, htotal, -⟩ := remap_returns h8 hbig hn
    have hrest := hrest n hbig hn
    unfold fixupCounts at hn
    rw [hn]
    dsimp only
    rw [hm, bind_ok]
    by_cases hfull : m.totalbw = 100
    · rw [if_pos hfull]
      exact ⟨_, rfl⟩
    · have hroom : n.strict < pg.numTcs := hrest.resolve_left (htotal ▸ hfull)
      obtain ⟨tcbw, htcbw⟩ := addTcbw_ok m.tcbw ((pg.numTcs : Int) - n.strict - 1)
        (100 - m.totalbw) (by omega) (by omega)
      rw [if_neg hfull, htcbw]
      exact ⟨_, rfl⟩

/-- There is a result when each type gets its classes. -/
theorem dcbFixupPg_some {pg : PgConfig} {n : TypeCounts} {r : Option PgConfig}
    (h8 : ∀ i, (pg.tx.up i).pgid.toNat < 8) (hbig : pg.numTcs < pgidsUsed pg.tx)
    (hn : fixupCounts pg pfc = some n) (h : dcbFixupPg pg pfc = .ok r) : ∃ c, r = some c := by
  unfold dcbFixupPg at h
  rw [if_neg (by omega), if_neg (in_range_of_lt h8)] at h
  unfold fixupCounts at hn
  rw [hn] at h
  obtain ⟨m, -, h⟩ := bind_eq_ok.mp h
  dsimp only at h
  split at h
  · cases h
    exact ⟨_, rfl⟩
  · obtain ⟨tcbw, -, h⟩ := bind_eq_ok.mp h
    cases h
    exact ⟨_, rfl⟩

theorem dcbFixupPg_cases {pg c : PgConfig} (h : dcbFixupPg pg pfc = .ok (some c)) :
    (pgidsUsed pg.tx ≤ pg.numTcs ∧ c = { pg with tx := pg.tx.ownBwgid, rx := pg.rx.ownBwgid }) ∨
      (∀ i, (pg.tx.up i).pgid.toNat < 8) ∧
        ∃ m, c = { pg with
          tx := remapped pg.tx pg.tx m true
          rx := remapped pg.tx pg.rx m false } := by
  unfold dcbFixupPg at h
  split at h
  · rename_i hfits
    cases h
    exact .inl ⟨hfits, rfl⟩
  split at h
  · cases h
  rename_i hrange
  split at h
  · cases h
  obtain ⟨m, -, h⟩ := bind_eq_ok.mp h
  refine .inr ⟨fun i => ?_, ?_⟩
  · simp only [List.any_eq_true, not_exists, not_and] at hrange
    have hi := hrange i (List.mem_finRange i)
    simpa using hi
  · -- The last percentage does not matter here.
    dsimp only at h
    split at h
    · cases h
      exact ⟨_, rfl⟩
    · obtain ⟨tcbw, -, h⟩ := bind_eq_ok.mp h
      cases h
      exact ⟨_, rfl⟩

/-- What `dcb_fixup_pg` makes of groups that do not fit -/
theorem fixedUp_of_ok {pg c : PgConfig} (h8 : ∀ i, (pg.tx.up i).pgid.toNat < 8)
    (hbig : pg.numTcs < pgidsUsed pg.tx) (h : dcbFixupPg pg pfc = .ok (some c)) :
    ∃ n classOf tcbw, FixedUp pg pfc c n classOf tcbw := by
  unfold dcbFixupPg at h
  rw [if_neg (by omega), if_neg (in_range_of_lt h8)] at h
  cases hn : fixupCounts pg pfc with
  | none =>
    unfold fixupCounts at hn
    rw [hn] at h
    cases h
  | some n =>
    obtain ⟨m, hm, hok, hturn, htotal, htcbw⟩ := remap_returns h8 hbig hn
    have hcounts := hn
    unfold fixupCounts at hn
    rw [hn] at h
    dsimp only at h
    rw [hm, bind_ok] at h
    obtain ⟨tcbw, hrest, rfl⟩ : ∃ tcbw, (if m.totalbw = 100 then pure m.tcbw
        else addTcbw m.tcbw ((pg.numTcs : Int) - n.strict - 1) (100 - m.totalbw)) =
          (Except.ok tcbw : Except Fault _) ∧ c = { pg with
            tx := remapped pg.tx pg.tx { m with tcbw := tcbw } true
            rx := remapped pg.tx pg.rx { m with tcbw := tcbw } false } := by
      split at h
      · rename_i hfull
        cases h
        exact ⟨m.tcbw, by rw [if_pos hfull]; rfl, rfl⟩
      · rename_i hfull
        obtain ⟨tcbw, hadd, h⟩ := bind_eq_ok.mp h
        cases h
        exact ⟨tcbw, by rw [if_neg hfull]; exact hadd, rfl⟩
    refine ⟨n, m.pgidOf, tcbw, hcounts, fun g => hok.mapped g (by simp), hturn, fun k => ?_,
      fun hne => ?_, rfl, fun i g hg => ?_, fun i => ?_, fun i => rfl, fun k => rfl, fun k => rfl⟩
    · rw [← htcbw k]
      split at hrest
      · rename_i hfull
        cases hrest
        rw [← htotal, hfull]
        simp
      · rw [← htotal]
        exact (addTcbw_eq_ok hrest).2.2 k
    · rw [if_neg (htotal ▸ hne)] at hrest
      have hroom := (addTcbw_eq_ok hrest).1
      omega
    · have hi : (⟨(pg.tx.up i).pgid.toNat, h8 i⟩ : Fin 8) = g := Fin.ext hg
      show (if hlt : (pg.tx.up i).pgid.toNat < 8 then UInt8.ofNat (m.pgidOf ⟨_, hlt⟩)
        else (pg.tx.up i).pgid) = _
      rw [dif_pos (h8 i), hi]
    · show (if hlt : (pg.tx.up i).pgid.toNat < 8 then UInt8.ofNat (m.pgidOf ⟨_, hlt⟩)
        else (pg.rx.up i).pgid) = if hlt : (pg.tx.up i).pgid.toNat < 8 then
          UInt8.ofNat (m.pgidOf ⟨_, hlt⟩) else (pg.tx.up i).pgid
      rw [dif_pos (h8 i), dif_pos (h8 i)]

/-! ### The percentages of the classes -/

/-- The percentages of the groups whose turn leads to a class -/
def load (pg : PgConfig) (pfc : Option PfcConfig) (n : TypeCounts) (k : Fin 8) : Int :=
  ∑ g, if Used pg.tx g ∧ classNo pg.tx pfc n g = k then percent pg.tx g else 0

/-- The class that gets the rest is `k`. -/
def TakesRest (pg : PgConfig) (n : TypeCounts) (k : Fin 8) : Prop :=
  (k.val : Int) = pg.numTcs - n.strict - 1

instance (pg : PgConfig) (n : TypeCounts) (k : Fin 8) : Decidable (TakesRest pg n k) :=
  inferInstanceAs (Decidable (_ = _))

theorem percent_nonneg (t : TrafficAttribs) (g : Fin 8) : 0 ≤ percent t g := Int.natCast_nonneg _

theorem toNat_ofInt {x : Int} (h0 : 0 ≤ x) (h : x < 256) : ((UInt8.ofInt x).toNat : Int) = x := by
  have hmod : x % 2 ^ 8 = x := Int.emod_eq_of_lt h0 h
  unfold UInt8.ofInt
  rw [hmod, UInt8.toNat_ofNat_of_lt' (by omega : x.toNat < 2 ^ 8)]
  omega

theorem percent_ofInt {t : TrafficAttribs} {k : Fin 8} {x : Int}
    (h : t.pgPercent k = UInt8.ofInt x) : percent t k = x % 256 := by
  have h0 := Int.emod_nonneg x (by decide : (256 : Int) ≠ 0)
  have htop := Int.emod_lt_of_pos x (by decide : (0 : Int) < 256)
  have hofInt : UInt8.ofInt x = UInt8.ofInt (x % 256) := by
    unfold UInt8.ofInt
    rw [show (2 ^ 8 : Int) = 256 from rfl, Int.emod_emod_of_dvd x (dvd_refl 256)]
  unfold percent
  rw [h, hofInt, toNat_ofInt h0 htop]

theorem load_nonneg (pg : PgConfig) (pfc : Option PfcConfig) (n : TypeCounts) (k : Fin 8) :
    0 ≤ load pg pfc n k := by
  refine Finset.sum_nonneg fun g _ => ?_
  split
  · exact percent_nonneg pg.tx g
  · exact Int.le_refl 0

namespace FixedUp

variable {pg c : PgConfig} {n : TypeCounts} {classOf : Fin 8 → Fin 8} {tcbw : Fin 8 → Int}

theorem used_class_iff (h : FixedUp pg pfc c n classOf tcbw) {g k : Fin 8} :
    Used pg.tx g ∧ classOf g = k ↔ Used pg.tx g ∧ classNo pg.tx pfc n g = k := by
  refine and_congr_right fun hg => ?_
  rw [← h.turn g hg, Fin.ext_iff]

/-- The percentages of a class are those of its groups, and the rest, cut to a byte. -/
theorem percent_class (h : FixedUp pg pfc c n classOf tcbw) (k : Fin 8) :
    percent c.tx k =
      (load pg pfc n k + if TakesRest pg n k then 100 - usedTotal pg.tx else 0) % 256 := by
  rw [percent_ofInt (h.percentTx k), h.sums k]
  simp only [h.used_class_iff, load]
  rfl

end FixedUp

/-! ### The link strict groups -/

/-- The group is link strict. -/
def LinkStrict (t : TrafficAttribs) (g : Nat) : Prop :=
  ∃ i, (t.up i).strictPriority = .link ∧ (t.up i).pgid.toNat = g

instance (t : TrafficAttribs) (g : Nat) : Decidable (LinkStrict t g) :=
  inferInstanceAs (Decidable (∃ _, _))

/-- The percentages of the groups that are not link strict -/
def otherPercents (t : TrafficAttribs) : Nat :=
  ∑ g : Fin 8, if LinkStrict t g then 0 else (t.pgPercent g).toNat

end Lldpad.Dcbx
