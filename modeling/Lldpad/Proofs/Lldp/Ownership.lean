import Mathlib.Data.List.Range
import Mathlib.Tactic.IntervalCases
import Lldpad.Proofs.Lldp.Identity

/-!
# `Lldpad.Proofs.Lldp.Ownership`: who releases the TLVs of a frame

A TLV that `rxProcessFrame` creates has three possible owners. The core owns the TLVs of
types 1 to 8 through its manifest and releases them at the end. A module owns a TLV that it
keeps. Nobody owns the rest, and the core releases and counts it at once.

Whom a TLV belongs to is not written down anywhere. The core takes an answer `TLV_OK` for
ownership, it releases a rejected TLV even when the manifest holds it, and a second TLV of
a type pushes the first one out of the manifest.

* `Accounted`: every TLV of a frame was released once or has one holder, and the counter
  grew by the number of TLVs that nobody took.
* `TakesRight`: no module rejects a TLV, and the modules take every TLV that the core does
  not release, and no other, once.
* `accounted_iff`: the first holds if and only if the second does.
-/

namespace Lldpad.Lldp

open Lldpad.Lib

variable {μ : Type}

/-! ### The property -/

section

variable (held : μ → List Nat)

/-- Every TLV that was created between `c` and `c'` was released once or is held once. -/
def Owned (c c' : Ctx μ) : Prop :=
  ∀ ref, c.tlvs.created ≤ ref → ref < c'.tlvs.created →
    c'.tlvs.freed.count ref - c.tlvs.freed.count ref + (held c'.modules).count ref = 1

namespace Outcome

/-- How often the modules took a TLV: they released it themselves, or they hold it. -/
def takes (o : Outcome μ) (ref : Nat) : Nat :=
  o.offer.freed.count ref + (held o.offer.modules).count ref

/-- The TLVs that no holder took: the core does not keep the type, and no module took it. -/
def unheld (o : Outcome μ) : List UnpackedTlv :=
  o.created.filter fun tlv => !coreType tlv.type && o.takes held tlv.ref == 0

end Outcome

/-- The TLVs of frame `f` are accounted for. -/
structure Accounted (env : Env μ) (f : Frame) (c c' : Ctx μ) : Prop where
  owned : Owned held c c'
  counted : c'.agent.stats.statsTLVsUnrecognizedTotal
    = c.agent.stats.statsTLVsUnrecognizedTotal
      + UInt32.ofNat ((c.outcome env f).unheld held).length

namespace Outcome

/-- A later TLV of the same type takes the slot over. -/
def Superseded (o : Outcome μ) (tlv : UnpackedTlv) : Prop :=
  ∃ later ∈ o.created, later.type = tlv.type ∧ tlv.ref < later.ref

instance (o : Outcome μ) (tlv : UnpackedTlv) : Decidable (o.Superseded tlv) :=
  inferInstanceAs (Decidable (∃ later ∈ o.created, _))

/-- How often the modules have to take a TLV: once if the core keeps the type but loses the
TLV to a later one, or if the core does not keep the type and a module acknowledged it. -/
def due (o : Outcome μ) (x : UnpackedTlv × Bool) : Nat :=
  if coreType x.1.type then (if o.Superseded x.1 then 1 else 0) else if x.2 then 1 else 0

end Outcome

/-- No module rejects a TLV, and the modules take every TLV as often as they have to. -/
structure TakesRight (o : Outcome μ) : Prop where
  accepted : o.rejected = none
  taken : ∀ x ∈ o.taken, o.takes held x.1.ref = o.due x

end

/-! ### The handles of a frame -/

theorem replay_refs (env : Env μ) (p : Port) (f : Frame) :
    ∀ (fuel n ref : Nat) (o : Offer μ),
      (replay env p f fuel n ref o).created.map UnpackedTlv.ref
          = List.range' ref (replay env p f fuel n ref o).created.length ∧
        (replay env p f fuel n ref o).created.length ≤ fuel := by
  intro fuel
  induction fuel with
  | zero => intro n ref o; exact ⟨rfl, Nat.le_refl 0⟩
  | succ fuel ih =>
    intro n ref o
    cases hvalid : f.valid n with
    | false =>
      rw [replay_invalid hvalid]
      exact ⟨rfl, Nat.zero_le _⟩
    | true =>
      rcases hoffer : offerAll p env.modules (o.mark (f.tlvType n)) (f.tlv n ref)
        (coreType (f.tlvType n)) with ⟨o', _ | stored⟩
      · rw [replay_rejected hvalid hoffer]
        exact ⟨rfl, Nat.succ_le_succ (Nat.zero_le _)⟩
      · rw [replay_taken hvalid hoffer]
        split_ifs
        · exact ⟨rfl, Nat.succ_le_succ (Nat.zero_le _)⟩
        · obtain ⟨hrefs, hlen⟩ := ih (n + 1) (ref + 1) o'
          rw [Outcome.cons_created, List.map_cons, hrefs, List.length_cons, List.range'_succ]
          exact ⟨rfl, Nat.succ_le_succ hlen⟩

theorem offerAll_stored {p : Port} (nps : List (LldpModule μ)) :
    ∀ (o o' : Offer μ) (tlv : UnpackedTlv) (stored : Bool),
      offerAll p nps o tlv true = (o', some stored) → stored = true := by
  induction nps with
  | nil => intro o o' tlv stored h; cases h; rfl
  | cons np nps ih =>
    intro o o' tlv stored h
    rw [offerAll] at h
    cases hr : np.rchange with
    | none =>
      rw [hr] at h
      exact ih _ _ _ _ h
    | some g =>
      rw [hr] at h
      dsimp only at h
      cases ha : (g p o.view o.modules tlv).answer with
      | tlvOk | subtypeInvalid => rw [ha] at h; exact ih _ _ _ _ h
      | tlvErr => rw [ha] at h; cases h

variable {env : Env μ} {f : Frame} {t : Nat}

theorem replay_stored {p : Port} :
    ∀ (fuel n ref : Nat) (o : Offer μ), ∀ x ∈ (replay env p f fuel n ref o).taken,
      coreType x.1.type = true → x.2 = true := by
  intro fuel
  induction fuel with
  | zero => intro n ref o x hx; simp [replay] at hx
  | succ fuel ih =>
    intro n ref o x hx hcore
    cases hvalid : f.valid n with
    | false =>
      rw [replay_invalid hvalid] at hx
      simp at hx
    | true =>
      rcases hoffer : offerAll p env.modules (o.mark (f.tlvType n)) (f.tlv n ref)
        (coreType (f.tlvType n)) with ⟨o', _ | stored⟩
      · rw [replay_rejected hvalid hoffer] at hx
        simp at hx
      · have hhead : coreType (f.tlvType n) = true → stored = true := by
          intro hc
          rw [hc] at hoffer
          exact offerAll_stored _ _ _ _ _ hoffer
        rw [replay_taken hvalid hoffer] at hx
        split_ifs at hx
        · rw [List.mem_singleton] at hx
          subst hx
          exact hhead hcore
        · rcases List.mem_cons.mp hx with rfl | hx
          · exact hhead hcore
          · exact ih _ _ _ x hx hcore

/-! ### The manifest -/

/-- The slot of a type. -/
def RxManifest.slot (m : RxManifest) : Nat → Option Nat
  | 1 => m.chassis
  | 2 => m.portid
  | 3 => m.ttl
  | 4 => m.portdesc
  | 5 => m.sysname
  | 6 => m.sysdesc
  | 7 => m.syscap
  | 8 => m.mgmtadd
  | _ => none

theorem place_slot (m : RxManifest) (tlv : UnpackedTlv) (ht : coreType t = true) :
    (m.place tlv).slot t = if tlv.type = t then some tlv.ref else m.slot t := by
  obtain ⟨ref, type, length, info⟩ := tlv
  have hle : 1 ≤ t ∧ t ≤ 8 := by simpa [coreType] using ht
  obtain ⟨h₁, h₈⟩ := hle
  unfold RxManifest.place
  interval_cases t
  all_goals
    split <;> simp_all [RxManifest.slot]

theorem foldl_place_slot (ht : coreType t = true) (created : List UnpackedTlv) :
    ∀ m : RxManifest, (created.foldl RxManifest.place m).slot t
      = ((created.reverse.find? fun tlv => tlv.type = t).map UnpackedTlv.ref).or (m.slot t) := by
  induction created with
  | nil => intro m; rfl
  | cons tlv created ih =>
    intro m
    rw [List.foldl_cons, ih, List.reverse_cons, List.find?_append, place_slot m tlv ht]
    cases hfind : created.reverse.find? fun tlv => tlv.type = t with
    | some later => rfl
    | none =>
      by_cases htype : tlv.type = t
      · simp [htype]
      · simp [htype]

/-- The types with a slot. -/
def slotTypes : List Nat := [8, 7, 6, 5, 4, 3, 2, 1]

theorem slots_eq (m : RxManifest) : m.slots = slotTypes.map m.slot := rfl

theorem mem_slotTypes : t ∈ slotTypes ↔ coreType t = true := by
  simp only [slotTypes, coreType, List.mem_cons, List.not_mem_nil, or_false, decide_eq_true_eq]
  omega

theorem refs_count (m : RxManifest) (ref : Nat) :
    m.refs.count ref = slotTypes.countP fun t => m.slot t = some ref := by
  have hcount : ∀ slots : List (Option Nat),
      slots.reduceOption.count ref = slots.countP fun s => s = some ref := by
    intro slots
    induction slots with
    | nil => rfl
    | cons s slots ih =>
      cases s with
      | none =>
        rw [List.reduceOption_cons_of_none, ih, List.countP_cons]
        simp
      | some x =>
        rw [List.reduceOption_cons_of_some, List.count_cons, ih, List.countP_cons]
        simp [beq_iff_eq]
  rw [RxManifest.refs, hcount, slots_eq, List.countP_map]
  rfl

/-- The handles of a frame's TLVs ascend. -/
def Outcome.Ascends (o : Outcome μ) : Prop := o.created.Pairwise fun x y => x.ref < y.ref

theorem outcome_ascends (env : Env μ) (c : Ctx μ) (f : Frame) : (c.outcome env f).Ascends := by
  have hrefs := (replay_refs env c.port f (tlvFuel f) 0 c.tlvs.created
    c.offer).1
  have hlt : ((c.outcome env f).created.map UnpackedTlv.ref).Pairwise (· < ·) := by
    rw [show (c.outcome env f).created.map UnpackedTlv.ref = _ from hrefs]
    exact List.pairwise_lt_range'
  exact List.pairwise_map.mp hlt

namespace Outcome

variable {o : Outcome μ}

variable {x y : UnpackedTlv}

theorem Ascends.inj (h : o.Ascends) (hx : x ∈ o.created)
    (hy : y ∈ o.created) (href : x.ref = y.ref) : x = y := by
  obtain ⟨before, after, hsplit⟩ := List.append_of_mem hx
  rw [Ascends, hsplit, List.pairwise_append, List.pairwise_cons] at h
  obtain ⟨-, ⟨hafter, -⟩, hbefore⟩ := h
  rw [hsplit] at hy
  rcases List.mem_append.mp hy with hmem | hmem
  · have := hbefore y hmem x (List.mem_cons_self ..)
    omega
  · rcases List.mem_cons.mp hmem with rfl | hmem
    · rfl
    · have := hafter y hmem
      omega

theorem Ascends.find?_latest (h : o.Ascends) (hx : x ∈ o.created) :
    (o.created.reverse.find? fun tlv => tlv.type = x.type) = some x ↔ ¬o.Superseded x := by
  obtain ⟨before, after, hsplit⟩ := List.append_of_mem hx
  have hord := h
  rw [Ascends, hsplit, List.pairwise_append, List.pairwise_cons] at hord
  obtain ⟨-, ⟨hafter, -⟩, hbefore⟩ := hord
  constructor
  · rintro hfind ⟨later, hlater, htype, hlt⟩
    obtain ⟨-, as, bs, happ, hnone⟩ := List.find?_eq_some_iff_append.mp hfind
    have hrev : o.created = bs.reverse ++ x :: as.reverse := by
      rw [← List.reverse_reverse o.created, happ]
      simp
    have hord' := h
    rw [Ascends, hrev, List.pairwise_append] at hord'
    rw [hrev] at hlater
    rcases List.mem_append.mp hlater with hmem | hmem
    · have := hord'.2.2 later hmem x (List.mem_cons_self ..)
      omega
    · rcases List.mem_cons.mp hmem with rfl | hmem
      · omega
      · have := hnone later (List.mem_reverse.mp hmem)
        simp [htype] at this
  · intro hnot
    refine List.find?_eq_some_iff_append.mpr ⟨by simp, after.reverse, before.reverse, ?_, ?_⟩
    · rw [hsplit]
      simp
    · intro later hmem
      have hmem' := List.mem_reverse.mp hmem
      have hlt := hafter later hmem'
      have hne : later.type ≠ x.type := fun htype =>
        hnot ⟨later, by rw [hsplit]; simp [hmem'], htype, hlt⟩
      simp [hne]

/-- A TLV stands in the manifest once if the core keeps its type and no later one took its
slot, and not at all otherwise. -/
theorem Ascends.manifest_count (h : o.Ascends) (hx : x ∈ o.created) :
    o.manifest.refs.count x.ref
      = if coreType x.type = true ∧ ¬o.Superseded x then 1 else 0 := by
  have hslot : ∀ t ∈ slotTypes, (o.manifest.slot t = some x.ref ↔
      t = x.type ∧ ¬o.Superseded x) := by
    intro t ht
    rw [manifest, foldl_place_slot (mem_slotTypes.mp ht)]
    have hnone : RxManifest.slot {} t = none := by
      unfold RxManifest.slot
      split <;> rfl
    rw [hnone, Option.or_none, Option.map_eq_some_iff]
    constructor
    · rintro ⟨y, hfind, href⟩
      have hy : y ∈ o.created := List.mem_reverse.mp (List.mem_of_find?_eq_some hfind)
      obtain rfl := h.inj hy hx href
      have htype : y.type = t := by simpa using List.find?_some hfind
      subst htype
      exact ⟨rfl, (h.find?_latest hx).mp hfind⟩
    · rintro ⟨rfl, hnot⟩
      exact ⟨x, (h.find?_latest hx).mpr hnot, rfl⟩
  rw [refs_count]
  have hcongr : slotTypes.countP (fun t => o.manifest.slot t = some x.ref)
      = slotTypes.countP fun t => t = x.type ∧ ¬o.Superseded x :=
    List.countP_congr fun t ht => by simpa using hslot t ht
  rw [hcongr]
  by_cases hsup : o.Superseded x
  · simp [hsup]
  · simp only [hsup, not_false_eq_true, and_true]
    have hcount : slotTypes.countP (fun t => decide (t = x.type)) = slotTypes.count x.type := by
      rw [List.count]
      exact List.countP_congr fun t _ => by simp [beq_iff_eq]
    rw [hcount]
    have hnodup : slotTypes.Nodup := by decide
    rw [hnodup.count]
    exact if_congr mem_slotTypes rfl rfl

theorem Ascends.released_count (h : o.Ascends) {x : UnpackedTlv × Bool} (hx : x ∈ o.taken) :
    o.released.count x.1.ref = if x.2 then 0 else 1 := by
  obtain ⟨before, after, hsplit⟩ := List.append_of_mem hx
  rw [Ascends, created, hsplit, List.map_append, List.map_cons, List.append_assoc,
    List.cons_append, List.pairwise_append, List.pairwise_cons] at h
  obtain ⟨-, ⟨hlater, -⟩, hearlier⟩ := h
  have hbefore : ((before.filter fun y => !y.2).map fun y => y.1.ref).count x.1.ref = 0 := by
    refine List.count_eq_zero_of_not_mem fun hmem => ?_
    obtain ⟨y, hy, href⟩ := List.mem_map.mp hmem
    have hlt := hearlier y.1 (List.mem_map_of_mem (List.mem_of_mem_filter hy)) x.1
      (List.mem_cons_self ..)
    omega
  have hafter : ((after.filter fun y => !y.2).map fun y => y.1.ref).count x.1.ref = 0 := by
    refine List.count_eq_zero_of_not_mem fun hmem => ?_
    obtain ⟨y, hy, href⟩ := List.mem_map.mp hmem
    have hlt := hlater y.1 (List.mem_append_left _
      (List.mem_map_of_mem (List.mem_of_mem_filter hy)))
    omega
  have hrejected : (o.rejected.toList.map (·.ref)).count x.1.ref = 0 := by
    refine List.count_eq_zero_of_not_mem fun hmem => ?_
    obtain ⟨y, hy, href⟩ := List.mem_map.mp hmem
    have hlt := hlater y (List.mem_append_right _ hy)
    omega
  rw [released, hsplit, List.filter_append, List.map_append, List.count_append,
    List.count_append, hbefore, hrejected, List.filter_cons]
  cases hstored : x.2 with
  | true => simp [hafter]
  | false => simp [hafter]

theorem Ascends.released_rejected (h : o.Ascends) (hy : o.rejected = some y) :
    o.released.count y.ref = 1 := by
  rw [Ascends, created, hy, List.pairwise_append] at h
  have htaken : ((o.taken.filter fun x => !x.2).map fun x => x.1.ref).count y.ref = 0 := by
    refine List.count_eq_zero_of_not_mem fun hmem => ?_
    obtain ⟨x, hx, href⟩ := List.mem_map.mp hmem
    have hlt := h.2.2 x.1 (List.mem_map_of_mem (List.mem_of_mem_filter hx)) y
      (List.mem_singleton.mpr rfl)
    omega
  rw [released, List.count_append, htaken, hy]
  simp

theorem Ascends.not_superseded (h : o.Ascends) (hy : o.rejected = some y) :
    ¬o.Superseded y := by
  rw [Ascends, created, hy, List.pairwise_append] at h
  rintro ⟨later, hlater, -, hlt⟩
  rw [created, hy] at hlater
  rcases List.mem_append.mp hlater with hmem | hmem
  · have := h.2.2 later hmem y (List.mem_singleton.mpr rfl)
    omega
  · rw [List.mem_singleton.mp hmem] at hlt
    omega

end Outcome

/-! ### The books -/

variable {held : μ → List Nat}

theorem mem_created_iff {c : Ctx μ} {ref : Nat} :
    (∃ x ∈ (c.outcome env f).created, x.ref = ref) ↔
      c.tlvs.created ≤ ref ∧ ref < c.tlvs.created + (c.outcome env f).created.length := by
  have hrefs := (replay_refs env c.port f (tlvFuel f) 0 c.tlvs.created
    c.offer).1
  rw [← List.mem_map, show (c.outcome env f).created.map UnpackedTlv.ref = _ from hrefs,
    List.mem_range'_1]
  rfl

/-- A frame's TLVs are owned when for each of them the releases of the core and what the
modules took come to one. -/
theorem owned_iff {c c' : Ctx μ} (h : Processed c f (c.outcome env f) c') :
    Owned held c c' ↔ ∀ x ∈ (c.outcome env f).created,
      (c.outcome env f).takes held x.ref + (c.outcome env f).released.count x.ref
        + (c.outcome env f).manifest.refs.count x.ref = 1 := by
  have hsum : ∀ ref, c'.tlvs.freed.count ref - c.tlvs.freed.count ref
      + (held c'.modules).count ref = (c.outcome env f).takes held ref
        + (c.outcome env f).released.count ref + (c.outcome env f).manifest.refs.count ref := by
    intro ref
    rw [h.freed ref, h.modules, Outcome.takes]
    omega
  unfold Owned
  rw [h.created]
  constructor
  · intro howned x hx
    rw [← hsum]
    obtain ⟨hlow, hhigh⟩ := mem_created_iff.mp ⟨x, hx, rfl⟩
    exact howned x.ref hlow hhigh
  · intro hall ref hlow hhigh
    obtain ⟨x, hx, rfl⟩ := mem_created_iff.mpr ⟨hlow, hhigh⟩
    rw [hsum]
    exact hall x hx

theorem core_count {o : Outcome μ} (h : o.Ascends) {x : UnpackedTlv × Bool} (hx : x ∈ o.taken) :
    o.released.count x.1.ref + o.manifest.refs.count x.1.ref
      = (if x.2 then 0 else 1)
        + if coreType x.1.type = true ∧ ¬o.Superseded x.1 then 1 else 0 := by
  have hmem : x.1 ∈ o.created := List.mem_append_left _ (List.mem_map_of_mem hx)
  rw [h.released_count hx, h.manifest_count hmem]

/-- A TLV that was taken has one owner if and only if the modules took it as often as they
have to. -/
theorem taken_owned_iff {o : Outcome μ} (h : o.Ascends) {x : UnpackedTlv × Bool}
    (hx : x ∈ o.taken) (hstored : coreType x.1.type = true → x.2 = true) :
    o.takes held x.1.ref + o.released.count x.1.ref + o.manifest.refs.count x.1.ref = 1 ↔
      o.takes held x.1.ref = o.due x := by
  have hcore := core_count h hx
  rw [Nat.add_assoc, hcore, Outcome.due]
  by_cases htype : coreType x.1.type = true
  · by_cases hsup : o.Superseded x.1
    · simp [htype, hsup, hstored htype]
    · simp [htype, hsup, hstored htype]
  · cases x.2 with
    | true => simp [htype]
    | false => simp [htype]

theorem unheld_taken {o : Outcome μ}
    (hstored : ∀ x ∈ o.taken, coreType x.1.type = true → x.2 = true)
    (htakes : ∀ x ∈ o.taken, o.takes held x.1.ref = o.due x) :
    ((o.taken.map Prod.fst).filter fun tlv =>
      !coreType tlv.type && o.takes held tlv.ref == 0).length
      = o.unkept := by
  rw [List.filter_map, List.length_map, Outcome.unkept]
  congr 1
  refine List.filter_congr fun x hx => ?_
  have hdue := htakes x hx
  have hkeep := hstored x hx
  by_cases htype : coreType x.1.type = true
  · simp [htype, hkeep htype]
  · rw [Outcome.due, if_neg htype] at hdue
    cases hx2 : x.2 with
    | true => simp [htype, hdue, hx2]
    | false => simp [htype, hdue, hx2]

/-- Every TLV of a frame has one owner and the counter is right if and only if no module
rejects a TLV and the modules take what they have to. -/
theorem accounted_iff (held : μ → List Nat) (env : Env μ) {c : Ctx μ} {f : Frame}
    (hf : c.agent.rx.framein = some f) (hsize : f.size ≠ 0) :
    ∃ c', rxProcessFrame env c = .ok c' ∧
      (Accounted held env f c c' ↔ TakesRight held (c.outcome env f)) := by
  obtain ⟨c', hrun⟩ := rxProcessFrame_total env hf hsize
  refine ⟨c', hrun, ?_⟩
  have hproc := rxProcessFrame_spec hf hrun
  have hasc := outcome_ascends env c f
  have hstored : ∀ x ∈ (c.outcome env f).taken, coreType x.1.type = true → x.2 = true :=
    replay_stored _ _ _ _
  have htaken : Owned held c c' →
      ∀ x ∈ (c.outcome env f).taken, (c.outcome env f).takes held x.1.ref
        = (c.outcome env f).due x := fun howned x hx =>
    (taken_owned_iff hasc hx (hstored x hx)).mp
      ((owned_iff hproc).mp howned x.1 (List.mem_append_left _ (List.mem_map_of_mem hx)))
  constructor
  · rintro ⟨howned, hcounted⟩
    refine ⟨?_, htaken howned⟩
    cases hrejected : (c.outcome env f).rejected with
    | none => rfl
    | some y =>
      have hy : y ∈ (c.outcome env f).created :=
        List.mem_append_right _ (by simp [hrejected])
      have hone := (owned_iff hproc).mp howned y hy
      rw [hasc.released_rejected hrejected, hasc.manifest_count hy] at hone
      by_cases htype : coreType y.type = true
      · -- the core releases it twice: on its own and with the manifest
        rw [if_pos ⟨htype, hasc.not_superseded hrejected⟩] at hone
        omega
      · -- nobody took it, and the core does not count it
        have htakes : (c.outcome env f).takes held y.ref = 0 := by omega
        have hlen : ((c.outcome env f).unheld held).length = (c.outcome env f).unkept + 1 := by
          rw [Outcome.unheld, Outcome.created, hrejected, List.filter_append, List.length_append,
            unheld_taken hstored (htaken howned)]
          simp [htype, htakes]
        rw [hproc.unrecognized, hlen] at hcounted
        simp at hcounted
  · rintro ⟨haccepted, htakes⟩
    have hcreated : (c.outcome env f).created = (c.outcome env f).taken.map Prod.fst := by
      simp [Outcome.created, haccepted]
    refine ⟨(owned_iff hproc).mpr fun x hx => ?_, ?_⟩
    · rw [hcreated] at hx
      obtain ⟨y, hy, rfl⟩ := List.mem_map.mp hx
      exact (taken_owned_iff hasc hy (hstored y hy)).mpr (htakes y hy)
    · rw [hproc.unrecognized, Outcome.unheld, hcreated, unheld_taken hstored htakes]

/-! ### A TLV that nobody owns -/

/-- A frame of station 5 that names the system twice. -/
def twoNamesFrame : Frame :=
  stationFrame 5 (stationTlvs 5 120 ++ [0x0a, 0x01, 0x61, 0x0a, 0x01, 0x62, 0x00, 0x00])

/-- A port without modules whose agent has stored a frame. -/
def stationWith (f : Frame) : Ctx Unit :=
  let c := lldpInitAgent stationEnv
    { port := { portEnabled := true }, modules := () } .nearestBridge
  { c with agent := { c.agent with rx := { c.agent.rx with framein := some f } } }

theorem twoNames_run : ∃ c', rxProcessFrame stationEnv (stationWith twoNamesFrame) = .ok c' ∧
    c'.tlvs.created = 6 ∧ c'.tlvs.freed.count 3 = 0 :=
  ⟨_, rfl, rfl, rfl⟩

/-- Not every TLV of every frame has one owner. -/
theorem not_accounted :
    ¬ ∀ (c c' : Ctx Unit) (f : Frame), c.agent.rx.framein = some f → f.size ≠ 0 →
      rxProcessFrame stationEnv c = .ok c' → Accounted (fun _ => []) stationEnv f c c' := by
  intro hall
  obtain ⟨c', hrun, hcreated, hfreed⟩ := twoNames_run
  have hacc := hall _ c' twoNamesFrame rfl (by decide) hrun
  have hone := hacc.owned 3 (by decide) (by rw [hcreated]; decide)
  rw [hfreed] at hone
  simp at hone

/-- Every TLV of a frame that names nothing twice has one owner. -/
theorem goodFrame_accounted :
    ∃ c', rxProcessFrame stationEnv (stationWith goodFrame) = .ok c' ∧
      Accounted (fun _ => []) stationEnv goodFrame (stationWith goodFrame) c' := by
  obtain ⟨c', hrun, hiff⟩ := accounted_iff (fun _ => []) stationEnv (c := stationWith goodFrame)
    (f := goodFrame) rfl (by decide)
  exact ⟨c', hrun, hiff.mpr ⟨rfl, by decide⟩⟩

end Lldpad.Lldp
