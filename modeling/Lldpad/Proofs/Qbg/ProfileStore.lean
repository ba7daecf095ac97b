import Lldpad.Proofs.Qbg.VdpMoves
import Mathlib.Data.List.Dedup

/-!
# `Lldpad.Proofs.Qbg.ProfileStore`: the profiles that `vdp_add_profile` keeps

A profile is known by its key, a MAC/VLAN pair by its two numbers. `addProfile_keys` and
`addProfile_merged` hold of every call: no two profiles are equal, and a profile that was there
has the union of both lists.

A profile that is new enters the list as it is, so its pairs are not compared. `Fits` says when
the lists stay without repetition and the counters right. `profileStore_iff` is the whole run.
-/

namespace Lldpad.Qbg

open Lldpad.Lib
open Lldpad.Lldp (Port)

/-! ### The pairs of one profile -/

/-- What `vdp_macvlan_equal` compares, for each entry of a list -/
def pairsOf (macvid : List MacVlan) : List (MacAddr × UInt16) := macvid.map MacVlan.pair

theorem modifyKey_pairs {new : MacVlan} {l l' : List MacVlan}
    (h : modifyKey MacVlan.pair new.pair
      (fun mv => { mv with reqPid := new.reqPid, reqSeq := new.reqSeq, qos := new.qos }) l =
        some l') : pairsOf l' = pairsOf l := by
  refine modifyKey_keys ?_ h
  exact fun _ => rfl

theorem haveMacvlan_pairs (l : List MacVlan) (new : MacVlan) :
    pairsOf (haveMacvlan l new) = (pairsOf l).insert new.pair := by
  unfold haveMacvlan
  cases h : modifyKey MacVlan.pair new.pair
      (fun mv => { mv with reqPid := new.reqPid, reqSeq := new.reqSeq, qos := new.qos }) l with
  | none =>
    have hnot : new.pair ∉ l.map MacVlan.pair := rowOf_eq_none.mp (modifyKey_none.mp h)
    exact (List.insert_of_not_mem hnot).symm
  | some l' =>
    have hmem : new.pair ∈ l.map MacVlan.pair := exists_rowOf.mp (exists_rowOf_of_modifyKey h)
    exact (modifyKey_pairs h).trans (List.insert_of_mem hmem).symm

theorem takeover_mem (l new : List MacVlan) (k : MacAddr × UInt16) :
    k ∈ pairsOf (vdpTakeoverMacvlans l new) ↔ k ∈ pairsOf l ∨ k ∈ pairsOf new := by
  unfold vdpTakeoverMacvlans
  induction new generalizing l with
  | nil => simp [pairsOf]
  | cons mv new ih =>
    rw [List.foldl_cons, ih, haveMacvlan_pairs, List.mem_insert_iff]
    simp only [pairsOf, List.map_cons, List.mem_cons]
    tauto

theorem takeover_nodup {l : List MacVlan} (hl : (pairsOf l).Nodup) (new : List MacVlan) :
    (pairsOf (vdpTakeoverMacvlans l new)).Nodup := by
  induction new generalizing l with
  | nil => exact hl
  | cons mv new ih =>
    refine ih ?_
    rw [haveMacvlan_pairs]
    exact hl.insert

theorem length_takeover {l : List MacVlan} (hl : (pairsOf l).Nodup) (new : List MacVlan) :
    (vdpTakeoverMacvlans l new).length = (pairsOf l ++ pairsOf new).dedup.length := by
  have hperm : (pairsOf (vdpTakeoverMacvlans l new)).Perm (pairsOf l ++ pairsOf new).dedup := by
    refine (List.perm_ext_iff_of_nodup (takeover_nodup hl new) (List.nodup_dedup _)).mpr ?_
    intro k
    rw [takeover_mem, List.mem_dedup, List.mem_append]
  rw [← hperm.length_eq, pairsOf, List.length_map]

/-! ### The counter of one profile -/

/-- The counter is the length of the list, as far as it can count. -/
def MacvidList.Counts (l : MacvidList) : Prop := l.entries = UInt16.ofNat l.macvid.length

theorem MacvidList.haveMacvlan_macvid (p1 : MacvidList) (new : MacVlan) :
    (p1.haveMacvlan new).macvid = Qbg.haveMacvlan p1.macvid new := by
  unfold MacvidList.haveMacvlan Qbg.haveMacvlan
  cases modifyKey MacVlan.pair new.pair _ p1.macvid <;> rfl

theorem MacvidList.Counts.haveMacvlan {p1 : MacvidList} (h : p1.Counts) (new : MacVlan) :
    (p1.haveMacvlan new).Counts := by
  unfold MacvidList.haveMacvlan MacvidList.Counts
  cases hm : modifyKey MacVlan.pair new.pair
      (fun mv => { mv with reqPid := new.reqPid, reqSeq := new.reqSeq, qos := new.qos })
      p1.macvid with
  | none =>
    show p1.entries + 1 = UInt16.ofNat (p1.macvid.length + 1)
    rw [h, UInt16.ofNat_add]
    rfl
  | some l' =>
    have hlen : l'.length = p1.macvid.length := by
      simpa [pairsOf] using congrArg List.length (modifyKey_pairs hm)
    show p1.entries = UInt16.ofNat l'.length
    rw [h, hlen]

theorem takeoverMacvlans_spec {p1 : MacvidList} (h : p1.Counts) (macvid : List MacVlan) :
    ((p1.takeoverMacvlans macvid (UInt16.ofNat macvid.length)).1.macvid =
        vdpTakeoverMacvlans p1.macvid macvid ∧
      (p1.takeoverMacvlans macvid (UInt16.ofNat macvid.length)).1.Counts) ∧
      (p1.takeoverMacvlans macvid (UInt16.ofNat macvid.length)).2 = {} := by
  induction macvid generalizing p1 with
  | nil => exact ⟨⟨rfl, h⟩, rfl⟩
  | cons mv2 macvid ih =>
    have hcount : UInt16.ofNat (mv2 :: macvid).length - 1 = UInt16.ofNat macvid.length := by
      rw [List.length_cons, UInt16.ofNat_add]
      exact UInt16.add_sub_cancel _ _
    rw [MacvidList.takeoverMacvlans, hcount]
    have hrest := ih (h.haveMacvlan mv2)
    rw [MacvidList.haveMacvlan_macvid] at hrest
    exact hrest

/-! ### One call -/

theorem vdpAddProfileEnd_macvid (c : ProfileCtx) :
    (vdpAddProfileEnd c).profile.macvid = c.profile.macvid := by
  unfold vdpAddProfileEnd vdpSomethingChangedLocal
  split_ifs <;> rfl

theorem vdpAddProfileEnd_freed (c : ProfileCtx) : (vdpAddProfileEnd c).freed = c.freed := by
  unfold vdpAddProfileEnd vdpSomethingChangedLocal
  split_ifs <;> rfl

theorem vdpAddProfileHit_macvid (new : VdpProfile) (c : ProfileCtx) :
    (vdpAddProfileHit new c).profile.macvid =
      vdpTakeoverMacvlans c.profile.macvid new.macvid := by
  unfold vdpAddProfileHit
  rw [vdpAddProfileEnd_macvid, ← c.deref_profile]
  unfold ProfileCtx.set
  dsimp only
  split_ifs <;> rfl

theorem vdpAddProfileHit_freed (new : VdpProfile) (c : ProfileCtx) :
    (vdpAddProfileHit new c).freed = c.freed := by
  unfold vdpAddProfileHit
  rw [vdpAddProfileEnd_freed]
  unfold ProfileCtx.set ProfileCtx.deref
  split_ifs <;> rfl

theorem vdpAddProfileNew_macvid (c : ProfileCtx) :
    (vdpAddProfileNew c).profile.macvid = c.profile.macvid := vdpAddProfileEnd_macvid _

namespace VdpStore

/-- The pairs of the profile `h` -/
def pairs (s : VdpStore) (h : Nat) : List (MacAddr × UInt16) :=
  pairsOf (s.ctx.nodes h).profile.macvid

/-- No two profiles of the list are equal. -/
def Differ (s : VdpStore) : Prop :=
  ∀ h ∈ s.ctx.que, ∀ k ∈ s.ctx.que,
    vdpProfileEqual (s.ctx.nodes h).profile (s.ctx.nodes k).profile = true → h = k

/-- What every call keeps: the profiles are different, and their counters count. -/
structure Inv (s : VdpStore) : Prop where
  wf : s.ctx.Wf
  differ : s.Differ
  counts : ∀ h ∈ s.ctx.que, (s.macvidList h).Counts

/-- No list of pairs has a repetition, and each counter is the length of its list. -/
structure Sound (s : VdpStore) : Prop where
  distinct : ∀ h ∈ s.ctx.que, (s.pairs h).Nodup
  counted : ∀ h ∈ s.ctx.que, (s.entries h).toNat = (s.ctx.nodes h).profile.macvid.length

/-- What a call that finds the profile `h` leaves -/
structure Hit (s : VdpStore) (profile : VdpProfile) (h : Nat) (t : VdpStore) : Prop where
  que : t.ctx.que = s.ctx.que
  macvid : (t.ctx.nodes h).profile.macvid =
    vdpTakeoverMacvlans (s.ctx.nodes h).profile.macvid profile.macvid
  counts : (t.macvidList h).Counts
  same : ∀ k, k ≠ h → (t.ctx.nodes k = s.ctx.nodes k ∧ t.entries k = s.entries k)

/-- What a call that finds no profile leaves -/
structure Added (s : VdpStore) (profile : VdpProfile) (t : VdpStore) : Prop where
  que : t.ctx.que = s.ctx.next :: s.ctx.que
  macvid : (t.ctx.nodes s.ctx.next).profile.macvid = profile.macvid
  key : (t.ctx.nodes s.ctx.next).profile.key = profile.key
  entries : t.entries s.ctx.next = profile.entries
  same : ∀ k, k ≠ s.ctx.next → (t.ctx.nodes k = s.ctx.nodes k ∧ t.entries k = s.entries k)

variable {profile : VdpProfile} {s : VdpStore}

theorem addProfile_hit (hs : s.Inv) {h : Nat}
    (hfind : vdpFindProfile s.ctx profile = some h) : Hit s profile h (s.addProfile profile) := by
  have hmem : h ∈ s.ctx.que := mem_of_findProfile hfind
  have hctx : (s.addProfile profile).ctx =
      s.ctx.put h (vdpAddProfileHit profile (s.ctx.nodes h)) := by
    unfold addProfile vdpAddProfile
    rw [hfind]
  have hentries : (s.addProfile profile).entries = Function.update s.entries h
      ((s.macvidList h).takeoverMacvlans profile.macvid profile.entries).1.entries := by
    unfold addProfile
    rw [hfind]
  have hlive : (vdpAddProfileHit profile (s.ctx.nodes h)).freed = false := by
    rw [vdpAddProfileHit_freed, hs.wf.live h hmem]
  have hmacvid : ((s.addProfile profile).ctx.nodes h).profile.macvid =
      vdpTakeoverMacvlans (s.ctx.nodes h).profile.macvid profile.macvid := by
    rw [hctx, VdpCtx.put_nodes_self]
    exact vdpAddProfileHit_macvid profile _
  refine ⟨?_, hmacvid, ?_, fun k hne => ⟨?_, ?_⟩⟩
  · rw [hctx]
    unfold VdpCtx.put
    rw [hlive]
    rfl
  · obtain ⟨⟨hlist, hcounts⟩, -⟩ := takeoverMacvlans_spec (hs.counts h hmem) profile.macvid
    unfold MacvidList.Counts at hcounts ⊢
    unfold macvidList
    rw [hentries, hmacvid, Function.update_self]
    rw [hlist] at hcounts
    exact hcounts
  · rw [hctx, VdpCtx.put_nodes_of_ne _ _ hne]
  · rw [hentries, Function.update_of_ne hne]

theorem addProfile_added
    (hfind : vdpFindProfile s.ctx profile = none) : Added s profile (s.addProfile profile) := by
  have hctx : (s.addProfile profile).ctx =
      ((s.ctx.alloc { profile := profile }).insertHead s.ctx.next).put s.ctx.next
        (vdpAddProfileNew { profile := profile }) := by
    unfold addProfile vdpAddProfile
    rw [hfind]
  have hentries : (s.addProfile profile).entries =
      Function.update s.entries s.ctx.next profile.entries := by
    unfold addProfile
    rw [hfind]
  refine ⟨?_, ?_, ?_, ?_, fun k hne => ⟨?_, ?_⟩⟩
  · rw [hctx]
    unfold VdpCtx.put
    rw [show (vdpAddProfileNew { profile := profile }).freed = false from vdpAddProfileEnd_freed _]
    rfl
  · rw [hctx, VdpCtx.put_nodes_self]
    exact vdpAddProfileNew_macvid _
  · rw [hctx, VdpCtx.put_nodes_self]
    exact vdpAddProfileEnd_key _
  · rw [hentries, Function.update_self]
  · rw [hctx, put_insert_nodes_of_ne _ _ _ hne]
  · rw [hentries, Function.update_of_ne hne]

theorem key_ne_of_find
    (hfind : vdpFindProfile s.ctx profile = none) {h : Nat} (hmem : h ∈ s.ctx.que) :
    (s.ctx.nodes h).profile.key ≠ profile.key := by
  intro hkey
  have hnot := List.find?_eq_none.mp hfind h hmem
  exact hnot (vdpProfileEqual_iff.mpr hkey)

theorem Inv.ne_next (hs : s.Inv) {h : Nat} (hmem : h ∈ s.ctx.que) :
    h ≠ s.ctx.next := (hs.wf.lt h hmem).ne

theorem addProfile_keys (hs : s.Inv) (profile : VdpProfile) :
    (s.addProfile profile).Differ := by
  intro h hh k hk hequal
  have hkey := vdpProfileEqual_iff.mp hequal
  cases hfind : vdpFindProfile s.ctx profile with
  | some i =>
    have hhit := addProfile_hit hs hfind
    -- The keys are those of before.
    have hkeys (j : Nat) : ((s.addProfile profile).ctx.nodes j).profile.key =
        (s.ctx.nodes j).profile.key := by
      rcases eq_or_ne j i with rfl | hne
      · unfold addProfile vdpAddProfile
        rw [hfind]
        simp only [VdpCtx.put_nodes_self]
        exact vdpAddProfileHit_key profile _
      · rw [(hhit.same j hne).1]
    rw [hkeys, hkeys] at hkey
    rw [hhit.que] at hh hk
    exact hs.differ h hh k hk (vdpProfileEqual_iff.mpr hkey)
  | none =>
    have hadd := addProfile_added hfind
    rw [hadd.que] at hh hk
    rcases List.mem_cons.mp hh with rfl | hh <;> rcases List.mem_cons.mp hk with rfl | hk
    · rfl
    · rw [hadd.key, (hadd.same k (hs.ne_next hk)).1] at hkey
      exact absurd hkey.symm (key_ne_of_find hfind hk)
    · rw [hadd.key, (hadd.same h (hs.ne_next hh)).1] at hkey
      exact absurd hkey (key_ne_of_find hfind hh)
    · rw [(hadd.same h (hs.ne_next hh)).1, (hadd.same k (hs.ne_next hk)).1] at hkey
      exact hs.differ h hh k hk (vdpProfileEqual_iff.mpr hkey)

theorem Inv.step (hs : s.Inv) (profile : VdpProfile) :
    (s.addProfile profile).Inv where
  wf := by
    rcases vdpAddProfile_cases profile s.ctx with ⟨h, hmem, heq⟩ | ⟨-, heq⟩
    · show (vdpAddProfile profile s.ctx).1.Wf
      rw [heq]
      exact hs.wf.put (hs.wf.lt h hmem)
    · show (vdpAddProfile profile s.ctx).1.Wf
      rw [heq]
      exact hs.wf.put_insert profile _
  differ := addProfile_keys hs profile
  counts h hmem := by
    cases hfind : vdpFindProfile s.ctx profile with
    | some i =>
      have hhit := addProfile_hit hs hfind
      rw [hhit.que] at hmem
      rcases eq_or_ne h i with rfl | hne
      · exact hhit.counts
      · unfold macvidList
        rw [(hhit.same h hne).1, (hhit.same h hne).2]
        exact hs.counts h hmem
    | none =>
      have hadd := addProfile_added hfind
      rw [hadd.que] at hmem
      unfold macvidList
      rcases List.mem_cons.mp hmem with rfl | hmem
      · rw [hadd.entries, hadd.macvid]
        rfl
      · rw [(hadd.same h (hs.ne_next hmem)).1, (hadd.same h (hs.ne_next hmem)).2]
        exact hs.counts h hmem

theorem addProfile_merged (hs : s.Inv) {h : Nat}
    (hfind : vdpFindProfile s.ctx profile = some h) (k : MacAddr × UInt16) :
    k ∈ (s.addProfile profile).pairs h ↔ k ∈ s.pairs h ∨ k ∈ pairsOf profile.macvid := by
  unfold pairs
  rw [(addProfile_hit hs hfind).macvid]
  exact takeover_mem _ _ k

/-! ### The condition -/

/-- The counter reaches this far. -/
def maxEntries : Nat := 2 ^ 16

/-- A new profile comes with different pairs, and no list outgrows its counter. -/
def Fits (s : VdpStore) (profile : VdpProfile) : Prop :=
  match vdpFindProfile s.ctx profile with
  | some h => (s.pairs h ++ pairsOf profile.macvid).dedup.length < maxEntries
  | none => (pairsOf profile.macvid).Nodup ∧ profile.macvid.length < maxEntries

instance (s : VdpStore) (profile : VdpProfile) : Decidable (Fits s profile) := by
  unfold Fits
  split <;> infer_instance

/-- What a call from `s` for `profile` should leave -/
structure Kept (s : VdpStore) (profile : VdpProfile) (t : VdpStore) : Prop where
  differ : t.Differ
  sound : t.Sound
  merged : ∀ h, vdpFindProfile s.ctx profile = some h →
    ∀ k, k ∈ t.pairs h ↔ k ∈ s.pairs h ∨ k ∈ pairsOf profile.macvid

theorem counts_iff {l : MacvidList} (h : l.Counts) :
    l.entries.toNat = l.macvid.length ↔ l.macvid.length < maxEntries := by
  have hlt := l.entries.toNat_lt
  have hmod : l.entries.toNat = l.macvid.length % 2 ^ 16 := by
    rw [h]
    rfl
  unfold maxEntries
  omega

theorem sound_hit_iff {s t : VdpStore} (hsound : s.Sound)
    {h : Nat} (hmem : h ∈ s.ctx.que) (hhit : Hit s profile h t) :
    t.Sound ↔ (s.pairs h ++ pairsOf profile.macvid).dedup.length < maxEntries := by
  have hlen : (t.macvidList h).macvid.length =
      (s.pairs h ++ pairsOf profile.macvid).dedup.length := by
    show (t.ctx.nodes h).profile.macvid.length = _
    rw [hhit.macvid]
    exact length_takeover (hsound.distinct h hmem) profile.macvid
  rw [← hlen, ← counts_iff hhit.counts]
  constructor
  · intro ht
    exact ht.counted h (hhit.que ▸ hmem)
  · intro hcount
    refine ⟨fun k hk => ?_, fun k hk => ?_⟩ <;> rw [hhit.que] at hk
    · rcases eq_or_ne k h with rfl | hne
      · unfold pairs
        rw [hhit.macvid]
        exact takeover_nodup (hsound.distinct k hk) _
      · unfold pairs
        rw [(hhit.same k hne).1]
        exact hsound.distinct k hk
    · rcases eq_or_ne k h with rfl | hne
      · exact hcount
      · rw [(hhit.same k hne).1, (hhit.same k hne).2]
        exact hsound.counted k hk

theorem sound_added_iff {s t : VdpStore} (hs : s.Inv) (hsound : s.Sound)
    (hadd : Added s profile t) :
    t.Sound ↔ (pairsOf profile.macvid).Nodup ∧ profile.macvid.length < maxEntries := by
  have hcounts : profile.entries.toNat = profile.macvid.length ↔
      profile.macvid.length < maxEntries :=
    counts_iff (l := ⟨profile.macvid, profile.entries⟩) rfl
  have hhead : s.ctx.next ∈ t.ctx.que := hadd.que ▸ List.mem_cons_self ..
  constructor
  · intro ht
    have hdistinct := ht.distinct _ hhead
    have hcounted := ht.counted _ hhead
    unfold pairs at hdistinct
    rw [hadd.macvid] at hdistinct hcounted
    rw [hadd.entries] at hcounted
    exact ⟨hdistinct, hcounts.mp hcounted⟩
  · rintro ⟨hdistinct, hlt⟩
    refine ⟨fun k hk => ?_, fun k hk => ?_⟩ <;> rw [hadd.que] at hk <;>
      rcases List.mem_cons.mp hk with rfl | hk
    · unfold pairs
      rw [hadd.macvid]
      exact hdistinct
    · unfold pairs
      rw [(hadd.same k (hs.ne_next hk)).1]
      exact hsound.distinct k hk
    · rw [hadd.entries, hadd.macvid]
      exact hcounts.mpr hlt
    · rw [(hadd.same k (hs.ne_next hk)).1, (hadd.same k (hs.ne_next hk)).2]
      exact hsound.counted k hk

theorem kept_iff_fits (hs : s.Inv) (hsound : s.Sound) (profile : VdpProfile) :
    Kept s profile (s.addProfile profile) ↔ Fits s profile := by
  have hsound_iff : (s.addProfile profile).Sound ↔ Fits s profile := by
    unfold Fits
    cases hfind : vdpFindProfile s.ctx profile with
    | some h => exact sound_hit_iff hsound (mem_of_findProfile hfind) (addProfile_hit hs hfind)
    | none => exact sound_added_iff hs hsound (addProfile_added hfind)
  rw [← hsound_iff]
  constructor
  · exact Kept.sound
  · intro ht
    exact ⟨addProfile_keys hs profile, ht, fun h hfind k => addProfile_merged hs hfind k⟩

end VdpStore

open VdpStore in
/-- **The profile store.** In a run of calls each call leaves different profiles, lists without
repetitions, counters that count them, and the union of both lists where a profile was there,
exactly when each call fits: a new profile comes with different pairs, and no list outgrows its
counter. Different profiles and the union need no condition. -/
theorem profileStore_iff (role : VdpRole) (ownSrcAddr : MacAddr) (port : Option Port)
    (profiles : List VdpProfile) :
    let start : VdpStore := { ctx := vdpCreate role ownSrcAddr port }
    (storeSystem.StepsMeet (fun s profile => Kept s profile (s.addProfile profile)) start profiles ↔
        storeSystem.StepsMeet Fits start profiles) ∧
      storeSystem.StepsMeet (fun s profile => (s.addProfile profile).Differ ∧
        ∀ h, vdpFindProfile s.ctx profile = some h → ∀ k, k ∈ (s.addProfile profile).pairs h ↔
          k ∈ s.pairs h ∨ k ∈ pairsOf profile.macvid) start profiles := by
  intro start
  have hinv : start.Inv := by
    refine ⟨wf_vdpCreate ⟨role, ownSrcAddr, port, rfl⟩, nofun, nofun⟩
  have hsound : start.Sound := ⟨nofun, nofun⟩
  constructor
  · refine System.stepsMeet_iff (I := fun s => s.Inv ∧ s.Sound)
      (fun s profile hI => kept_iff_fits hI.1 hI.2 profile) ?_ profiles start ⟨hinv, hsound⟩
    rintro s profile t ⟨hs, -⟩ hkept ⟨⟩
    exact ⟨hs.step profile, hkept.sound⟩
  · refine (System.stepsMeet_iff (I := VdpStore.Inv) ?_ ?_ profiles start hinv).mpr
      (System.stepsMeet_of_forall (fun _ _ => trivial) profiles start)
    · intro s profile hs
      exact iff_of_true ⟨addProfile_keys hs profile,
        fun h hfind k => addProfile_merged hs hfind k⟩ trivial
    · rintro s profile t hs - ⟨⟩
      exact hs.step profile

/-- A mode command that names a pair twice -/
def twicePair : VdpProfile :=
  { mode := vdpModeAssociate
    mgrid := 5
    id := 6
    version := 7
    format := vdpFilterInfoFormatMacvid
    macvid := [{ vlan := 100 }, { vlan := 100 }] }

/-- The new profile keeps the pair twice. -/
theorem pair_kept_twice :
    let s : VdpStore := VdpStore.addProfile twicePair { ctx := vdpCreate .station .zero none }
    s.ctx.que = [0] ∧ s.pairs 0 = [(.zero, 100), (.zero, 100)] ∧ ¬ s.Sound := by
  refine ⟨by decide +kernel, by decide +kernel, fun hsound => ?_⟩
  exact absurd (hsound.distinct 0 (by decide +kernel)) (by decide +kernel)

end Lldpad.Qbg
