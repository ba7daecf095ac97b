import Lldpad.Dcbx.RuleChk
import Mathlib.Data.List.FinRange

/-!
# `Lldpad.Proofs.Dcbx.Rebalance`: equal shares of a bandwidth group

`rebalance_uppcts` gives the user priorities of a bandwidth group equal shares of it. 100 may not
be a multiple of their number. Then the first ones get one percent more, as many of them as the
table `bw_fixup` says.

`rebalanceUppcts_even` is the main result: the shares of a group without a link strict priority
are even (`EvenShares`), and both directions get the same. The groups are those of `tx`. A pass
for one group leaves the priorities of the others alone (`rebalanceGroup_other`), so the passes
before and after that of a group do not change its shares.
-/

namespace Lldpad.Dcbx

open Lldpad.Lib

/-- The priorities of a bandwidth group have all of it, in shares that differ by one at most. -/
structure EvenShares (t : TrafficAttribs) (g : Fin 8) : Prop where
  total : ((upList t g).map fun i => (t.up i).percentOfPgCap.toNat).sum = 100
  even : ∀ i ∈ upList t g, ∀ j ∈ upList t g,
    (t.up i).percentOfPgCap.toNat ≤ (t.up j).percentOfPgCap.toNat + 1

/-! ### The shares -/

/-- The share of the priority at place `k` of `n` -/
def shareOf (n k : Nat) : Nat := 100 / n + if k < bwFixup n then 1 else 0

theorem shareOf_le (n k : Nat) : shareOf n k ≤ 101 := by
  have hdiv : 100 / n ≤ 100 := Nat.div_le_self 100 n
  unfold shareOf
  split <;> omega

theorem shareOf_even (n k k' : Nat) : shareOf n k ≤ shareOf n k' + 1 := by
  unfold shareOf
  split <;> split <;> omega

theorem shareOf_total : ∀ n ≤ 8, 0 < n → ((List.range n).map (shareOf n)).sum = 100 := by
  decide

theorem map_idxOf {α : Type} [DecidableEq α] (f : Nat → Nat) {l : List α} (hl : l.Nodup) :
    l.map (fun a => f (l.idxOf a)) = (List.range l.length).map f := by
  refine List.ext_getElem (by simp) fun k hk hk' => ?_
  simp only [List.getElem_map, List.getElem_range]
  rw [hl.idxOf_getElem]

/-! ### A pass for one group -/

section Pass

variable {tx t : TrafficAttribs} {g i : Fin 8}

theorem mem_upList : i ∈ upList t g ↔ (t.up i).bwgid.toNat = g := by
  simp [upList]

theorem nodup_upList : (upList t g).Nodup :=
  (List.nodup_finRange 8).filter _

theorem length_upList_le : (upList t g).length ≤ 8 := by
  have h := List.length_filter_le (fun i : Fin 8 => decide ((t.up i).bwgid.toNat = g))
    (List.finRange 8)
  rw [List.length_finRange] at h
  exact h

theorem rebalanceGroup_other (h : i ∉ upList tx g) :
    (rebalanceGroup tx t g).up i = t.up i := by
  unfold rebalanceGroup
  dsimp only
  split
  · exact if_neg fun hi => h hi.1
  · exact if_neg h

theorem rebalanceGroup_bwgid : ((rebalanceGroup tx t g).up i).bwgid = (t.up i).bwgid := by
  unfold rebalanceGroup
  dsimp only
  split
  · dsimp only
    split <;> rfl
  · dsimp only
    split <;> rfl

theorem rebalanceGroup_percent (hlink : groupLinkStrict tx g = false) (hi : i ∈ upList tx g) :
    ((rebalanceGroup tx t g).up i).percentOfPgCap.toNat =
      shareOf (upList tx g).length ((upList tx g).idxOf i) := by
  have hany : ¬ (upList tx g).any (fun i => (tx.up i).strictPriority = .link) = true := by
    intro hany
    obtain ⟨j, hj, hstrict⟩ := List.any_eq_true.mp hany
    exact of_decide_eq_false hlink ⟨j, mem_upList.mp hj, of_decide_eq_true hstrict⟩
  have hle := shareOf_le (upList tx g).length ((upList tx g).idxOf i)
  have hpass : (rebalanceGroup tx t g).up i =
      { t.up i with
        percentOfPgCap := UInt8.ofNat (shareOf (upList tx g).length ((upList tx g).idxOf i))
        strictPriority := .none } := by
    unfold rebalanceGroup
    rw [if_neg hany]
    exact if_pos hi
  rw [hpass]
  show (UInt8.ofNat _).toNat = _
  rw [UInt8.toNat_ofNat']
  exact Nat.mod_eq_of_lt (by omega)

end Pass

/-! ### All groups -/

/-- One pass of the loop, in both directions -/
def PgConfig.rebalanced (pg : PgConfig) (g : Fin 8) : PgConfig :=
  { pg with tx := rebalanceGroup pg.tx pg.tx g, rx := rebalanceGroup pg.tx pg.rx g }

/-- The priorities of `g` are the same in two configurations. -/
structure SameGroup (g : Fin 8) (pg pg' : PgConfig) : Prop where
  list : upList pg'.tx g = upList pg.tx g
  tx : ∀ i ∈ upList pg.tx g, pg'.tx.up i = pg.tx.up i
  rx : ∀ i ∈ upList pg.tx g, pg'.rx.up i = pg.rx.up i

theorem foldl_rebalanced_bwgid (gs : List (Fin 8)) (pg : PgConfig) (i : Fin 8) :
    ((gs.foldl PgConfig.rebalanced pg).tx.up i).bwgid = (pg.tx.up i).bwgid ∧
      ((gs.foldl PgConfig.rebalanced pg).rx.up i).bwgid = (pg.rx.up i).bwgid := by
  induction gs generalizing pg with
  | nil => exact ⟨rfl, rfl⟩
  | cons g gs ih =>
    obtain ⟨htx, hrx⟩ := ih (pg.rebalanced g)
    exact ⟨htx.trans rebalanceGroup_bwgid, hrx.trans rebalanceGroup_bwgid⟩

theorem upList_congr {t t' : TrafficAttribs} (h : ∀ i, (t'.up i).bwgid = (t.up i).bwgid)
    (g : Fin 8) : upList t' g = upList t g := by
  simp only [upList, h]

theorem sameGroup_foldl {g : Fin 8} (gs : List (Fin 8)) (hg : g ∉ gs) (pg : PgConfig) :
    SameGroup g pg (gs.foldl PgConfig.rebalanced pg) := by
  induction gs generalizing pg with
  | nil => exact ⟨rfl, fun i _ => rfl, fun i _ => rfl⟩
  | cons g' gs ih =>
    have hne : g ≠ g' := fun h => hg (h ▸ List.mem_cons_self ..)
    have hlist : upList (pg.rebalanced g').tx g = upList pg.tx g :=
      upList_congr (fun i => rebalanceGroup_bwgid) g
    have h := ih (fun hmem => hg (List.mem_cons_of_mem _ hmem)) (pg.rebalanced g')
    -- a priority of `g` is not one of `g'`
    have hother : ∀ i ∈ upList pg.tx g, i ∉ upList pg.tx g' := by
      intro i hi hi'
      exact hne (Fin.ext ((mem_upList.mp hi).symm.trans (mem_upList.mp hi')))
    refine ⟨h.list.trans hlist, ?_, ?_⟩
    · intro i hi
      exact (h.tx i (hlist ▸ hi)).trans (rebalanceGroup_other (hother i hi))
    · intro i hi
      exact (h.rx i (hlist ▸ hi)).trans (rebalanceGroup_other (hother i hi))

theorem rebalanceUppcts_upList (pg : PgConfig) (g : Fin 8) :
    upList (rebalanceUppcts pg).tx g = upList pg.tx g ∧
      upList (rebalanceUppcts pg).rx g = upList pg.rx g :=
  ⟨upList_congr (fun i => (foldl_rebalanced_bwgid (List.finRange 8) pg i).1) g,
    upList_congr (fun i => (foldl_rebalanced_bwgid (List.finRange 8) pg i).2) g⟩

theorem rebalanceUppcts_percent {pg : PgConfig} {g : Fin 8}
    (hlink : groupLinkStrict pg.tx g = false) {i : Fin 8} (hi : i ∈ upList pg.tx g) :
    ((rebalanceUppcts pg).tx.up i).percentOfPgCap.toNat =
        shareOf (upList pg.tx g).length ((upList pg.tx g).idxOf i) ∧
      ((rebalanceUppcts pg).rx.up i).percentOfPgCap.toNat =
        shareOf (upList pg.tx g).length ((upList pg.tx g).idxOf i) := by
  -- the passes before that of `g`, and those after it
  obtain ⟨before, after, hsplit⟩ := List.append_of_mem (List.mem_finRange g)
  have hnodup := List.nodup_finRange 8
  rw [hsplit] at hnodup
  have hbefore : g ∉ before := fun h =>
    (List.nodup_append.mp hnodup).2.2 g h g (List.mem_cons_self ..) rfl
  have hafter : g ∉ after := (List.nodup_cons.mp (List.nodup_append.mp hnodup).2.1).1
  have hrun : rebalanceUppcts pg = after.foldl PgConfig.rebalanced
      ((before.foldl PgConfig.rebalanced pg).rebalanced g) := by
    show (List.finRange 8).foldl PgConfig.rebalanced pg = _
    rw [hsplit, List.foldl_append, List.foldl_cons]
  rw [hrun]
  have hone := sameGroup_foldl before hbefore pg
  generalize before.foldl PgConfig.rebalanced pg = one at hone
  have htwo := sameGroup_foldl after hafter (one.rebalanced g)
  have hlist : upList (one.rebalanced g).tx g = upList pg.tx g :=
    (upList_congr (fun i => rebalanceGroup_bwgid) g).trans hone.list
  have hi' : i ∈ upList one.tx g := hone.list ▸ hi
  have hlink' : groupLinkStrict one.tx g = false := by
    refine decide_eq_false fun hstrict => of_decide_eq_false hlink ?_
    obtain ⟨j, hj, hstrict⟩ := hstrict
    have hj' : j ∈ upList pg.tx g := hone.list ▸ mem_upList.mpr hj
    exact ⟨j, mem_upList.mp hj', hone.tx j hj' ▸ hstrict⟩
  rw [htwo.tx i (hlist ▸ hi), htwo.rx i (hlist ▸ hi), ← hone.list]
  exact ⟨rebalanceGroup_percent hlink' hi', rebalanceGroup_percent hlink' hi'⟩

theorem evenShares_of_percent {t : TrafficAttribs} {g : Fin 8} (hne : upList t g ≠ [])
    (h : ∀ i ∈ upList t g, (t.up i).percentOfPgCap.toNat =
      shareOf (upList t g).length ((upList t g).idxOf i)) : EvenShares t g where
  total := by
    rw [List.map_congr_left h, map_idxOf _ nodup_upList]
    exact shareOf_total _ length_upList_le (List.length_pos_iff.mpr hne)
  even i hi j hj := by
    rw [h i hi, h j hj]
    exact shareOf_even ..

/-- After `rebalance_uppcts`, the priorities of a group without a link strict one have even
shares. The receive direction has the same shares, which are even where its group has the same
priorities. -/
theorem rebalanceUppcts_even (pg : PgConfig) (g : Fin 8) (hne : upList pg.tx g ≠ [])
    (hlink : groupLinkStrict pg.tx g = false) :
    EvenShares (rebalanceUppcts pg).tx g ∧
      (∀ i ∈ upList pg.tx g, ((rebalanceUppcts pg).rx.up i).percentOfPgCap =
        ((rebalanceUppcts pg).tx.up i).percentOfPgCap) ∧
      (upList pg.rx g = upList pg.tx g → EvenShares (rebalanceUppcts pg).rx g) := by
  obtain ⟨htx, hrx⟩ := rebalanceUppcts_upList pg g
  refine ⟨evenShares_of_percent (by rwa [htx]) ?_, ?_, fun hsame => ?_⟩
  · intro i hi
    rw [htx] at hi ⊢
    exact (rebalanceUppcts_percent hlink hi).1
  · intro i hi
    have h := rebalanceUppcts_percent hlink hi
    exact UInt8.toNat_inj.mp (h.2.trans h.1.symm)
  · rw [hsame] at hrx
    refine evenShares_of_percent (by rwa [hrx]) ?_
    intro i hi
    rw [hrx] at hi ⊢
    exact (rebalanceUppcts_percent hlink hi).2

/-- Three priorities share group 1, next to a link strict group. -/
def threeSharers : TrafficAttribs where
  up i :=
    if i < 3 then { bwgid := 1, percentOfPgCap := 7, strictPriority := .group }
    else { bwgid := 2, percentOfPgCap := 20, strictPriority := .link }

/-- They get 34, 33 and 33 percent. -/
theorem rebalanceUppcts_even_three :
    upList threeSharers 1 = [0, 1, 2] ∧
      EvenShares (rebalanceUppcts { tx := threeSharers, rx := threeSharers }).rx 1 :=
  ⟨by decide,
    (rebalanceUppcts_even { tx := threeSharers, rx := threeSharers } 1 (by decide)
      (by decide)).2.2 rfl⟩

end Lldpad.Dcbx
