import Lldpad.Proofs.Dcbx.PgShape

/-!
# `Lldpad.Proofs.Dcbx.HwPg`: when the hardware gets the groups of the configuration

The messages say what the configuration says if every class has a priority and both directions
have the same groups. The type and the percentage of a class without a priority are those that the
stack had, and the receive message has the groups of the transmit direction.

* `SideExact`: a message says what one direction of the configuration says.
* `testBit_tcConfigs`: what the loop over the priorities leaves in a class.
* `setHwPg_exact_iff`: the messages are exact if and only if the groups are a permutation of the
  classes, the same one in both directions.
-/

namespace Lldpad.Dcbx

open Lldpad.Lib

/-! ### What the messages are to say -/

/-- A message says of each class what one direction says of its priorities, and its bandwidth group
is the one of `dcb_fixup_pg`, which makes them stand 1:1 for the classes. -/
structure SideExact (t : TrafficAttribs) (msg : PgCfg) : Prop where
  bitmap : ∀ j i : Fin 8,
    (msg.tc j).upToTcBitmap.toNat.testBit i = true ↔ (t.up i).pgid.toNat = j
  priorities : ∀ j i : Fin 8, (t.up i).pgid.toNat = j →
    (msg.tc j).prioType = UInt8.ofNat (t.up i).strictPriority.toNat ∧
      (msg.tc j).tcPercent = (t.up i).percentOfPgCap
  bwgid : ∀ j : Fin 8, (msg.tc j).bwgid = UInt8.ofNat j
  percents : ∀ j : Fin 8, msg.bwg j = t.pgPercent j

/-- Both messages are exact, and they are made of the configuration only. -/
structure HwExact (defCfg pg : PgConfig) : Prop where
  tx : ∀ stack, SideExact pg.tx (setHwPg defCfg pg true stack).1
  rx : ∀ stack, SideExact pg.rx (setHwPg defCfg pg true stack).2
  determined : ∀ stack stack', setHwPg defCfg pg true stack = setHwPg defCfg pg true stack'

/-- Every class has a priority, and both directions have the same groups. -/
def AllClassesUsed (pg : PgConfig) : Prop :=
  (∀ j : Fin 8, ∃ i, (pg.tx.up i).pgid.toNat = j) ∧
    ∀ i, (pg.rx.up i).pgid = (pg.tx.up i).pgid

/-! ### The loop over the priorities -/

section Loop

variable {groups t : TrafficAttribs}

theorem testBit_shift (i k : Fin 8) :
    ((1 : UInt8) <<< UInt8.ofNat i).toNat.testBit k = decide (k = i) := by
  revert i k
  decide

theorem testBit_foldl_enterPriority (l : List (Fin 8)) (tc : Fin 8 → TcConfig) (j k : Fin 8) :
    (l.foldl (enterPriority groups t) tc j).upToTcBitmap.toNat.testBit k =
      ((tc j).upToTcBitmap.toNat.testBit k ||
        (decide (k ∈ l) && decide ((groups.up k).pgid.toNat = j))) := by
  induction l generalizing tc with
  | nil => simp
  | cons i l ih =>
    rw [List.foldl_cons, ih]
    have henter : (enterPriority groups t tc i j).upToTcBitmap.toNat.testBit k =
        ((tc j).upToTcBitmap.toNat.testBit k ||
          (decide (k = i) && decide ((groups.up k).pgid.toNat = j))) := by
      unfold enterPriority
      by_cases hgroup : (groups.up i).pgid.toNat = j
      · rw [if_pos hgroup]
        show ((tc j).upToTcBitmap ||| 1 <<< UInt8.ofNat i).toNat.testBit k = _
        rw [UInt8.toNat_or, Nat.testBit_or, testBit_shift]
        by_cases hk : k = i
        · subst hk
          simp [hgroup]
        · simp [hk]
      · rw [if_neg hgroup]
        by_cases hk : k = i
        · subst hk
          simp [hgroup]
        · simp [hk]
    rw [henter, Bool.or_assoc, ← Bool.and_or_distrib_right, ← Bool.decide_or]
    simp only [List.mem_cons]

theorem foldl_enterPriority_bitmap (j : Fin 8) (l : List (Fin 8)) :
    ∀ tc tc' : Fin 8 → TcConfig, (tc j).upToTcBitmap = (tc' j).upToTcBitmap →
      (l.foldl (enterPriority groups t) tc j).upToTcBitmap =
        (l.foldl (enterPriority groups t) tc' j).upToTcBitmap := by
  induction l with
  | nil => exact fun _ _ h => h
  | cons i l ih =>
    intro tc tc' h
    rw [List.foldl_cons, List.foldl_cons]
    apply ih
    unfold enterPriority
    by_cases hgroup : (groups.up i).pgid.toNat = j
    · rw [if_pos hgroup, if_pos hgroup]
      show (tc j).upToTcBitmap ||| _ = (tc' j).upToTcBitmap ||| _
      rw [h]
    · rw [if_neg hgroup, if_neg hgroup, h]

theorem foldl_enterPriority_empty {j : Fin 8} (hempty : ∀ i, (groups.up i).pgid.toNat ≠ j)
    (l : List (Fin 8)) (tc : Fin 8 → TcConfig) : l.foldl (enterPriority groups t) tc j = tc j := by
  induction l generalizing tc with
  | nil => rfl
  | cons i l ih =>
    rw [List.foldl_cons, ih]
    unfold enterPriority
    rw [if_neg (hempty i)]

theorem foldl_enterPriority_single {i j : Fin 8}
    (hsingle : ∀ k, (groups.up k).pgid.toNat = j ↔ k = i) (l : List (Fin 8))
    (tc : Fin 8 → TcConfig)
    (h : i ∈ l ∨ (tc j).prioType = UInt8.ofNat (t.up i).strictPriority.toNat ∧
      (tc j).tcPercent = (t.up i).percentOfPgCap) :
    (l.foldl (enterPriority groups t) tc j).prioType =
        UInt8.ofNat (t.up i).strictPriority.toNat ∧
      (l.foldl (enterPriority groups t) tc j).tcPercent = (t.up i).percentOfPgCap := by
  induction l generalizing tc with
  | nil => exact h.resolve_left List.not_mem_nil
  | cons k l ih =>
    rw [List.foldl_cons]
    apply ih
    by_cases hk : k = i
    · -- the priority of the class is entered
      right
      subst hk
      unfold enterPriority
      rw [if_pos ((hsingle k).mpr rfl)]
      exact ⟨rfl, rfl⟩
    · -- another priority leaves the class as it is
      have hother : enterPriority groups t tc k j = tc j := by
        unfold enterPriority
        rw [if_neg fun hgroup => hk ((hsingle k).mp hgroup)]
      rw [hother]
      rcases h with hmem | hset
      · exact .inl ((List.mem_cons.mp hmem).resolve_left (Ne.symm hk))
      · exact .inr hset

theorem testBit_tcConfigs (tc : Fin 8 → TcConfig) (j k : Fin 8) :
    (tcConfigs groups t tc j).upToTcBitmap.toNat.testBit k =
      decide ((groups.up k).pgid.toNat = j) := by
  unfold tcConfigs
  rw [testBit_foldl_enterPriority]
  show ((0 : UInt8).toNat.testBit k || _) = _
  simp [List.mem_finRange]

theorem tcConfigs_empty {j : Fin 8} (hempty : ∀ i, (groups.up i).pgid.toNat ≠ j)
    (tc : Fin 8 → TcConfig) : (tcConfigs groups t tc j).prioType = (tc j).prioType := by
  unfold tcConfigs
  rw [foldl_enterPriority_empty hempty]

theorem tcConfigs_single {i j : Fin 8} (hsingle : ∀ k, (groups.up k).pgid.toNat = j ↔ k = i)
    (tc : Fin 8 → TcConfig) :
    (tcConfigs groups t tc j).prioType = UInt8.ofNat (t.up i).strictPriority.toNat ∧
      (tcConfigs groups t tc j).tcPercent = (t.up i).percentOfPgCap :=
  foldl_enterPriority_single hsingle _ _ (.inl (List.mem_finRange i))

end Loop

/-! ### The groups as a permutation -/

theorem single_of_used {t : TrafficAttribs} (h : ∀ j : Fin 8, ∃ i, (t.up i).pgid.toNat = j)
    (i : Fin 8) : ∃ j : Fin 8, (t.up i).pgid.toNat = j ∧
      ∀ k, (t.up k).pgid.toNat = j ↔ k = i := by
  choose up hup using h
  have hinjective : Function.Injective up := by
    intro j j' heq
    apply Fin.ext
    rw [← hup j, ← hup j', heq]
  -- eight classes with different priorities have all eight of them
  have hsurjective := Finite.injective_iff_surjective.mp hinjective
  obtain ⟨j, rfl⟩ := hsurjective i
  refine ⟨j, hup j, fun k => ?_⟩
  constructor
  · intro hk
    obtain ⟨j', rfl⟩ := hsurjective k
    rw [hup j'] at hk
    rw [Fin.ext hk]
  · rintro rfl
    exact hup j

theorem bwgid_of_used {pg c : PgConfig} {pfc : Option PfcConfig}
    (h : dcbFixupPg pg pfc = .ok (some c)) (hused : ∀ j : Fin 8, ∃ i, (c.tx.up i).pgid.toNat = j) :
    (∀ i, (c.tx.up i).bwgid = UInt8.ofNat i) ∧ ∀ i, (c.rx.up i).bwgid = UInt8.ofNat i := by
  rcases dcbFixupPg_cases h with ⟨-, rfl⟩ | ⟨h8, -, -⟩
  · exact ⟨fun i => rfl, fun i => rfl⟩
  by_cases hfits : pgidsUsed pg.tx ≤ pg.numTcs
  · unfold dcbFixupPg at h
    rw [if_pos hfits] at h
    cases h
    exact ⟨fun i => rfl, fun i => rfl⟩
  · have hbig := Nat.not_le.mp hfits
    obtain ⟨n, classOf, tcbw, hfixed⟩ := fixedUp_of_ok h8 hbig h
    have hle := pgidsUsed_le h8
    obtain ⟨i, hi⟩ := hused 7
    -- the highest class is none of those that the groups were moved to
    have hrow := row_of_up h8 i
    obtain ⟨g, j, hhead, hj⟩ := hrow
    have hclass := (hfixed.inType g j hhead).2
    have hsum := (clipCounts_clipped hfixed.counts).sum
    have hmem : j ∈ pgidUpList pg.tx g := List.mem_of_mem_head? hhead
    have hpgid := hfixed.pgidTx i g (hj ▸ mem_pgidUpList.mp hmem)
    rw [hpgid, toNat_ofNat_class] at hi
    have hseven : (7 : Fin 8).val = 7 := rfl
    cases htype : trafficType pg.tx pfc j <;>
      simp only [htype, TypeCounts.base, TypeCounts.of] at hclass <;> omega

/-! ### The exact condition -/

theorem fixup_of_checked {pg c : PgConfig} {pfc : Option PfcConfig}
    (h : dcbCheckConfig pg pfc = .ok (c, .success)) : dcbFixupPg pg pfc = .ok (some c) := by
  obtain ⟨r, hr, h⟩ := bind_eq_ok.mp h
  cases r with
  | none => cases h
  | some c' =>
    obtain ⟨rfl, -⟩ := Prod.mk.inj (Except.ok.inj h)
    exact hr

/-- The stack content that has one type in all classes -/
def filledStack (prioType : UInt8) : Fin 8 → TcConfig := fun _ =>
  { bwgid := 0, upToTcBitmap := 0, prioType := prioType, tcPercent := 0 }

theorem used_of_determined {defCfg pg : PgConfig} (h : HwExact defCfg pg) (j : Fin 8) :
    ∃ i, (pg.tx.up i).pgid.toNat = j := by
  by_contra hnone
  have hempty : ∀ i, (pg.tx.up i).pgid.toNat ≠ j := fun i hi => hnone ⟨i, hi⟩
  have hleft (p : UInt8) : ((setHwPg defCfg pg true (filledStack p)).1.tc j).prioType = p :=
    tcConfigs_empty hempty (filledStack p)
  have hsame := congrArg (fun m : PgCfg × PgCfg => (m.1.tc j).prioType)
    (h.determined (filledStack 0) (filledStack 1))
  simp only [hleft] at hsame
  exact absurd hsame (by decide)

theorem pgMessage_exact {groups t : TrafficAttribs} (cmd : PgCommand)
    (hused : ∀ j : Fin 8, ∃ i, (groups.up i).pgid.toNat = j)
    (hsame : ∀ i, (t.up i).pgid = (groups.up i).pgid)
    (hbwgid : ∀ i, (t.up i).bwgid = UInt8.ofNat i) (tc : Fin 8 → TcConfig) :
    SideExact t (pgMessage cmd groups t tc) := by
  refine ⟨?_, ?_, hbwgid, fun j => rfl⟩
  · intro j i
    rw [hsame i]
    show (tcConfigs groups t tc j).upToTcBitmap.toNat.testBit i = true ↔ _
    rw [testBit_tcConfigs, decide_eq_true_iff]
  · intro j i hi
    obtain ⟨j', hj', hsingle⟩ := single_of_used hused i
    rw [hsame i, hj'] at hi
    obtain rfl := Fin.ext hi
    exact tcConfigs_single hsingle tc

theorem pgMessage_determined {groups : TrafficAttribs} (cmd : PgCommand) (t : TrafficAttribs)
    (hused : ∀ j : Fin 8, ∃ i, (groups.up i).pgid.toNat = j) (tc tc' : Fin 8 → TcConfig) :
    pgMessage cmd groups t tc = pgMessage cmd groups t tc' := by
  have hclass (j : Fin 8) :
      (pgMessage cmd groups t tc).tc j = (pgMessage cmd groups t tc').tc j := by
    obtain ⟨i, hi⟩ := hused j
    obtain ⟨j', hj', hsingle⟩ := single_of_used hused i
    obtain rfl : j = j' := Fin.ext (hi.symm.trans hj')
    obtain ⟨htype, hpercent⟩ := tcConfigs_single (t := t) hsingle tc
    obtain ⟨htype', hpercent'⟩ := tcConfigs_single (t := t) hsingle tc'
    have hbitmap : (tcConfigs groups t tc j).upToTcBitmap =
        (tcConfigs groups t tc' j).upToTcBitmap := foldl_enterPriority_bitmap j _ _ _ rfl
    unfold pgMessage
    simp only [htype, htype', hpercent, hpercent', hbitmap]
  unfold pgMessage at hclass ⊢
  simp only [PgCfg.mk.injEq, true_and, and_true]
  exact funext hclass

/-- The messages say what a checked configuration says if and only if its groups are a permutation
of the classes, the same one in both directions. -/
theorem setHwPg_exact_iff (pg₀ pg defCfg : PgConfig) (pfc : Option PfcConfig)
    (hchecked : dcbCheckConfig pg₀ pfc = .ok (pg, .success)) :
    HwExact defCfg pg ↔ AllClassesUsed pg := by
  constructor
  · intro h
    have hused := used_of_determined h
    refine ⟨hused, fun i => ?_⟩
    -- The bit of a priority is in the class of its transmit group, in both messages.
    obtain ⟨j, hj, -⟩ := single_of_used hused i
    have hbit : (((setHwPg defCfg pg true (filledStack 0)).2.tc j).upToTcBitmap.toNat.testBit i) =
        decide ((pg.tx.up i).pgid.toNat = j) := testBit_tcConfigs _ _ _
    have hrx := ((h.rx (filledStack 0)).bitmap j i).mp (hbit.trans (decide_eq_true hj))
    exact UInt8.toNat_inj.mp (hrx.trans hj.symm)
  · rintro ⟨hused, hsame⟩
    obtain ⟨htx, hrx⟩ := bwgid_of_used (fixup_of_checked hchecked) hused
    refine ⟨?_, ?_, ?_⟩
    · intro stack
      exact pgMessage_exact .pgtxScfg hused (fun _ => rfl) htx stack
    · intro stack
      exact pgMessage_exact .pgrxScfg hused hsame hrx _
    · intro stack stack'
      exact Prod.ext (pgMessage_determined .pgtxScfg pg.tx hused stack stack')
        (pgMessage_determined .pgrxScfg pg.rx hused _ _)

/-- Eight groups, one for each priority, in the order of the classes -/
def ownClasses : PgConfig where
  tx := {
    pgPercent := fun i => if i.val < 4 then 13 else 12
    up := fun i => { pgid := UInt8.ofNat i, bwgid := UInt8.ofNat i, percentOfPgCap := 100 } }
  rx := {
    pgPercent := fun i => if i.val < 4 then 13 else 12
    up := fun i => { pgid := UInt8.ofNat i, bwgid := UInt8.ofNat i, percentOfPgCap := 100 } }
  numTcs := 8

theorem ownClasses_checked : dcbCheckConfig ownClasses none = .ok (ownClasses, .success) := by
  decide +kernel

theorem setHwPg_exact_ownClasses : HwExact {} ownClasses :=
  (setHwPg_exact_iff ownClasses ownClasses {} none ownClasses_checked).mpr
    ⟨fun j => ⟨j, toNat_ofNat_class j⟩, fun _ => rfl⟩

/-- All priorities in the first group, which has all of the bandwidth -/
def firstGroupOnly : PgConfig where
  tx := {
    pgPercent := fun i => if i = 0 then 100 else 0
    up := fun i => { pgid := 0, bwgid := UInt8.ofNat i, percentOfPgCap := 100 } }
  rx := {
    pgPercent := fun i => if i = 0 then 100 else 0
    up := fun i => { pgid := 0, bwgid := UInt8.ofNat i, percentOfPgCap := 100 } }
  numTcs := 8

/-- The classes without a priority have the type that the stack had. -/
theorem setHwPg_undetermined :
    dcbCheckConfig firstGroupOnly none = .ok (firstGroupOnly, .success) ∧
      ((setHwPg {} firstGroupOnly true (filledStack 0)).1.tc 1).prioType = 0 ∧
      ((setHwPg {} firstGroupOnly true (filledStack 7)).1.tc 1).prioType = 7 ∧
      ¬ HwExact {} firstGroupOnly := by
  refine ⟨by decide +kernel, rfl, rfl, ?_⟩
  intro hexact
  have hsame := congrArg (fun m : PgCfg × PgCfg => (m.1.tc 1).prioType)
    (hexact.determined (filledStack 0) (filledStack 7))
  exact absurd hsame (by decide)

end Lldpad.Dcbx
