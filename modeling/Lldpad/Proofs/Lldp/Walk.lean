import Mathlib.Data.List.ReduceOption
import Lldpad.Proofs.Lldp.Replay

/-!
# `Lldpad.Proofs.Lldp.Walk`: the walk over a frame, taken apart

`walk_spec`: what the loop of `rxProcessFrame` makes of a frame is what `see` makes of the
neighbours and `replay` of the modules. In particular a frame is in error exactly when
`replay` says so, the identity and the time to live come from the first three TLVs, and
every TLV that was created is accounted for.

`rxProcessFrame_spec` is the same for the whole function.
-/

namespace Lldpad.Lldp

open Lldpad.Lib

variable {μ : Type}

/-! ### The neighbours -/

variable {o o' : Offer μ} {tlv : UnpackedTlv} {head : Nat × Nat} {b : LldpAgent} {d : Ctx μ}
  {p : Port}

theorem recordChassisId_seen (a : LldpAgent) (l : RxLocals) (hlen : tlv.length = tlv.info.length) :
    ((recordChassisId a l tlv).1.neighbour, (recordChassisId a l tlv).2.matches)
      = Neighbour.seeChassisId tlv.info (a.neighbour, l.matches) := by
  unfold recordChassisId Neighbour.seeChassisId Msap.withChassisId
  cases hid : a.msap.msap1 with
  | none =>
    by_cases hremote : a.history.remote.msap1 = none <;>
      simp [LldpAgent.neighbour, RxLocals.matches, hid, hlen, hremote]
  | some id =>
    simp only [LldpAgent.neighbour, hid, hlen]
    by_cases hmatch : tlv.info.length = a.msap.length1 ∧ tlv.info = id
    · simp only [eq_true hmatch, if_true]
      rfl
    · simp only [eq_false hmatch, if_false]

theorem recordPortId_seen (a : LldpAgent) (l : RxLocals)
    (hlen : tlv.length = tlv.info.length) (hgood : l.goodNeighbor = false) :
    ((recordPortId a l tlv).1.neighbour, (recordPortId a l tlv).2.matches)
      = Neighbour.seePortId tlv.info (a.neighbour, l.matches) := by
  unfold recordPortId Neighbour.seePortId Msap.withPortId
  cases hid : a.msap.msap2 with
  | none =>
    by_cases hremote : a.history.remote.msap2 = none <;>
      simp [LldpAgent.neighbour, RxLocals.matches, hid, hlen, hremote]
  | some id =>
    simp only [LldpAgent.neighbour, hid, hlen]
    by_cases hmatch : tlv.info.length = a.msap.length2 ∧ tlv.info = id
    · simp only [eq_true hmatch, if_true]
      by_cases hboth : l.msapCompare1 = true <;> simp [RxLocals.matches, hboth, hgood]
    · simp only [eq_false hmatch, if_false]
      by_cases hboth : l.msapCompare1 = true ∧ l.msapCompare2 = true <;>
        simp [RxLocals.matches, hboth]

theorem recordTtl_seen (f : Frame) (a : LldpAgent) (l : RxLocals) (tlv : UnpackedTlv)
    (hword : tlv.word = f.ttl) :
    ((recordTtl f a l tlv).1.neighbour, (recordTtl f a l tlv).2.matches)
      = Neighbour.seeTtl a.adminStatus f (a.neighbour, l.matches) := by
  unfold recordTtl Neighbour.seeTtl
  simp only [LldpAgent.neighbour, hword]
  by_cases hmany : a.rx.tooManyNghbrs = true ∧ l.goodNeighbor = false
  · simp only [RxLocals.matches, eq_true hmany, if_true]
  · simp only [RxLocals.matches, eq_false hmany, if_false]
    rfl

theorem see_one_good (s : AdminStatus) (f : Frame) (nb : Neighbour) :
    (see s f nb 1).2.good = false := by
  unfold see Neighbour.seeChassisId
  dsimp only
  split
  · rfl
  · split_ifs <;> rfl

variable {a : LldpAgent} {f : Frame} {l : RxLocals} {n : Nat} {c : Ctx μ} {nb : Neighbour}

theorem recordTlv_seen (nb : Neighbour) (ref : Nat) (hvalid : f.valid n = true)
    (hseen : (a.neighbour, l.matches) = see a.adminStatus f nb n) :
    ((recordTlv f a l (f.tlv n ref)).1.neighbour, (recordTlv f a l (f.tlv n ref)).2.matches)
      = see a.adminStatus f nb (n + 1) := by
  obtain ⟨head, hread⟩ := Option.isSome_iff_exists.mp hvalid
  obtain ⟨hfirst, hlater⟩ := readTlv_type hread
  rw [readTlv_eq_some hread] at hfirst hlater
  have hlen : (f.tlv n ref).length = (f.tlv n ref).info.length := (f.info_length n).symm
  rcases n with _ | _ | _ | m
  · have htype : (f.tlv 0 ref).type = 1 := hfirst (by omega)
    simp only [recordTlv, htype]
    rw [recordChassisId_seen a l hlen, hseen]
    rfl
  · have htype : (f.tlv 1 ref).type = 2 := hfirst (by omega)
    have hgood : l.goodNeighbor = false := by
      have h := see_one_good a.adminStatus f nb
      rw [← hseen] at h
      exact h
    simp only [Nat.zero_add, recordTlv, htype]
    rw [recordPortId_seen a l hlen hgood, hseen]
    rfl
  · have htype : (f.tlv 2 ref).type = 3 := hfirst (by omega)
    simp only [Nat.zero_add, Nat.reduceAdd, recordTlv, htype]
    rw [recordTtl_seen f a l (f.tlv 2 ref) rfl, hseen]
    rfl
  · -- a later TLV has none of the first three types
    obtain ⟨h₁, h₂, h₃⟩ : (f.tlv (m + 3) ref).type ≠ 1 ∧ (f.tlv (m + 3) ref).type ≠ 2 ∧
        (f.tlv (m + 3) ref).type ≠ 3 := hlater (by omega)
    have hsame : recordTlv f a l (f.tlv (m + 3) ref) = (a, l) := by
      unfold recordTlv
      split <;> first | contradiction | rfl
    rw [hsame, hseen]
    rfl

/-! ### The marks -/

/-- The marks of the first three types that are still to come are not set. -/
def Unmarked (a : LldpAgent) (n : Nat) : Prop :=
  ∀ k, n < k → k ≤ 3 → a.lldpdu &&& rcvdBit k = 0

theorem and_or_eq_zero {x y z : BitVec 16} (hx : x &&& z = 0) (hy : y &&& z = 0) :
    (x ||| y) &&& z = 0 := by
  rw [BitVec.and_comm, BitVec.and_or_distrib_left, BitVec.and_comm, hx, BitVec.and_comm, hy]
  rfl

theorem Unmarked.mark (h : Unmarked a n) {bit : BitVec 16}
    (hbit : ∀ k, n < k → k ≤ 3 → bit &&& rcvdBit k = 0) : Unmarked (a.markRcvd bit) n :=
  fun k hk hk3 => and_or_eq_zero (h k hk hk3) (hbit k hk hk3)

theorem Unmarked.of_lldpdu {a : LldpAgent} (h : Unmarked a n)
    (hb : b.lldpdu = a.lldpdu) : Unmarked b n := by
  intro k hk hk3
  rw [hb]
  exact h k hk hk3

theorem Unmarked.mono {n m : Nat} (h : Unmarked a n) (hle : n ≤ m) :
    Unmarked a m :=
  fun k hk hk3 => h k (by omega) hk3

theorem rcvdDcbx_and (k : Nat) (h₁ : 0 < k) (h₃ : k ≤ 3) :
    rcvdDcbx1 &&& rcvdBit k = 0 ∧ rcvdDcbx2 &&& rcvdBit k = 0 := by
  obtain rfl | rfl | rfl : k = 1 ∨ k = 2 ∨ k = 3 := by omega
  all_goals exact ⟨by decide, by decide⟩

theorem Unmarked.rchange (h : Unmarked c.agent n) (r : RchangeResult μ) :
    Unmarked (c.rchange r).agent n := by
  have hdcbx := fun k (hk : n < k) => rcvdDcbx_and k (by omega)
  have hkick : Unmarked (kick c.agent r.localChange) n := h.of_lldpdu (kick_lldpdu _ _)
  have h₁ : Unmarked (if r.dcbx1 then (kick c.agent r.localChange).markRcvd rcvdDcbx1
      else kick c.agent r.localChange) n := by
    split
    · exact hkick.mark fun k hk hk3 => (hdcbx k hk hk3).1
    · exact hkick
  have h₂ : ∀ a : LldpAgent, Unmarked a n →
      Unmarked (if r.dcbx2 then a.markRcvd rcvdDcbx2 else a) n := by
    intro a ha
    split
    · exact ha.mark fun k hk hk3 => (hdcbx k hk hk3).2
    · exact ha
  exact (h₂ _ h₁).of_lldpdu rfl

theorem Unmarked.rchangeAll (nps : List (LldpModule μ)) :
    ∀ (c : Ctx μ) (tlv : UnpackedTlv) (stored : Bool), Unmarked c.agent n →
      Unmarked (rchangeAll nps c tlv stored).1.agent n := by
  induction nps with
  | nil => intro c tlv stored h; exact h
  | cons np nps ih =>
    intro c tlv stored h
    rw [Lldp.rchangeAll]
    cases np.rchange with
    | none => exact ih c tlv stored h
    | some f =>
      dsimp only
      have hr := h.rchange (f c.port c.agent.view c.modules tlv)
      cases (f c.port c.agent.view c.modules tlv).answer with
      | tlvOk => exact ih _ tlv true hr
      | tlvErr => exact hr
      | subtypeInvalid => exact ih _ tlv stored hr

theorem Unmarked.keeps (h : Unmarked a n) (tlv : UnpackedTlv)
    (htype : n + 1 ≤ 3 → tlv.type = n + 1) : Unmarked (a.keeps tlv) (n + 1) := by
  have hnext := h.mono (Nat.le_succ n)
  unfold LldpAgent.keeps
  split_ifs
  · refine (hnext.mark ?_).of_lldpdu rfl
    intro k hk hk3
    rw [htype (by omega)]
    obtain ⟨rfl, rfl⟩ | ⟨rfl, rfl⟩ | ⟨rfl, rfl⟩ :
        n = 0 ∧ k = 2 ∨ n = 0 ∧ k = 3 ∨ n = 1 ∧ k = 3 := by omega
    all_goals decide
  · exact hnext

/-! ### The modules -/

/-- The modules in `c` are those of the offer. -/
structure Offered (p : Port) (c : Ctx μ) (o : Offer μ) : Prop where
  port : c.port = p
  modules : c.modules = o.modules
  view : c.agent.view = o.view

/-- Between `c` and `d` the modules released `new`, and the rest of what the walk is about
stayed. -/
structure ModulesOnly (c d : Ctx μ) (new : List Nat) : Prop where
  neighbour : d.agent.neighbour = c.agent.neighbour
  manifest : d.agent.rx.manifest = c.agent.rx.manifest
  stats : d.agent.stats = c.agent.stats
  created : d.tlvs.created = c.tlvs.created
  freed : d.tlvs.freed = new ++ c.tlvs.freed

theorem ModulesOnly.refl (c : Ctx μ) : ModulesOnly c c [] := ⟨rfl, rfl, rfl, rfl, rfl⟩

theorem ModulesOnly.trans {c e : Ctx μ} {new new' : List Nat} (h : ModulesOnly c d new)
    (h' : ModulesOnly d e new') : ModulesOnly c e (new' ++ new) where
  neighbour := h'.neighbour.trans h.neighbour
  manifest := h'.manifest.trans h.manifest
  stats := h'.stats.trans h.stats
  created := h'.created.trans h.created
  freed := by rw [h'.freed, h.freed, List.append_assoc]

theorem rchange_offered (h : Offered p c o) (r : RchangeResult μ) :
    Offered p (c.rchange r) (o.answered r) ∧ ModulesOnly c (c.rchange r) r.freed := by
  refine ⟨⟨h.port, rfl, ?_⟩, ?_⟩
  · simp only [Offer.answered, ← h.view]
    unfold Ctx.rchange Ctx.hook kick
    cases r.localChange <;> cases r.dcbx1 <;> cases r.dcbx2 <;> rfl
  · unfold Ctx.rchange Ctx.hook kick
    cases r.localChange <;> cases r.dcbx1 <;> cases r.dcbx2 <;> exact ⟨rfl, rfl, rfl, rfl, rfl⟩

theorem rchangeAll_offered (nps : List (LldpModule μ)) :
    ∀ (c : Ctx μ) (o : Offer μ) (tlv : UnpackedTlv) (stored : Bool), Offered p c o →
      (rchangeAll nps c tlv stored).2 = (offerAll p nps o tlv stored).2 ∧
      Offered p (rchangeAll nps c tlv stored).1 (offerAll p nps o tlv stored).1 ∧
      ∃ new, ModulesOnly c (rchangeAll nps c tlv stored).1 new ∧
        (offerAll p nps o tlv stored).1.freed = new ++ o.freed := by
  induction nps with
  | nil => intro c o tlv stored h; exact ⟨rfl, h, [], .refl c, rfl⟩
  | cons np nps ih =>
    intro c o tlv stored h
    rw [rchangeAll, offerAll]
    cases np.rchange with
    | none => exact ih c o tlv stored h
    | some f =>
      dsimp only
      rw [h.port, h.view, h.modules]
      obtain ⟨hoffered, honly⟩ := rchange_offered h (f p o.view o.modules tlv)
      -- the rest of the modules, when the walk over them goes on
      have hrest : ∀ b, _ := fun b => ih _ _ tlv b hoffered
      cases (f p o.view o.modules tlv).answer with
      | tlvErr => exact ⟨rfl, hoffered, _, honly, rfl⟩
      | tlvOk =>
        obtain ⟨hans, hoff, new, hnew, hfreed⟩ := hrest true
        refine ⟨hans, hoff, _, honly.trans hnew, hfreed.trans ?_⟩
        rw [List.append_assoc]
        rfl
      | subtypeInvalid =>
        obtain ⟨hans, hoff, new, hnew, hfreed⟩ := hrest stored
        refine ⟨hans, hoff, _, honly.trans hnew, hfreed.trans ?_⟩
        rw [List.append_assoc]
        rfl

/-! ### One TLV -/

/-- The walk over frame `f` has come to TLV `n`; `nb` is what the agent knew of its
neighbours when it started. -/
structure AtTlv (f : Frame) (nb : Neighbour) (n : Nat) (c : Ctx μ) (l : RxLocals) : Prop where
  cnt : l.tlvCnt = n
  offset : l.tlvOffset = f.offsetOf n
  stored : l.tlvStored = false
  unmarked : Unmarked c.agent n
  seen : (c.agent.neighbour, l.matches) = see c.agent.adminStatus f nb n

/-- TLV `n` was created in `c` and offered to the modules, who turned `o` into `o'`. -/
structure Taken (f : Frame) (nb : Neighbour) (n : Nat) (c : Ctx μ) (o : Offer μ) (d : Ctx μ)
    (l : RxLocals) (o' : Offer μ) : Prop where
  cnt : l.tlvCnt = n + 1
  offset : l.tlvOffset = f.offsetOf (n + 1)
  unmarked : Unmarked d.agent (n + 1)
  adminStatus : d.agent.adminStatus = c.agent.adminStatus
  seen : (d.agent.neighbour, l.matches) = see c.agent.adminStatus f nb (n + 1)
  offered : Offered c.port d o'
  created : d.tlvs.created = c.tlvs.created + 1
  freed : ∀ ref, d.tlvs.freed.count ref + o.freed.count ref
    = c.tlvs.freed.count ref + o'.freed.count ref
  manifest : d.agent.rx.manifest = c.agent.rx.manifest.map (·.place (f.tlv n c.tlvs.created))
  stats : d.agent.stats = c.agent.stats

theorem newTlv_eq (h : AtTlv f nb n c l)
    (hread : readTlv f (l.tlvCnt + 1) l.tlvOffset = some head) :
    newTlv f c l head = f.tlv n c.tlvs.created ∧ f.valid n = true ∧ head.1 = f.tlvType n := by
  have hhead := readTlv_eq_some hread
  rw [h.cnt, h.offset] at hread
  rw [newTlv, hhead, h.offset]
  exact ⟨rfl, by rw [Frame.valid, hread]; rfl, rfl⟩

theorem place_of_not_coreType {m : RxManifest}
    (h : coreType tlv.type = false) : m.place tlv = m := by
  unfold RxManifest.place
  split <;> first | rfl | simp_all [coreType]

theorem keeps_eq (a : LldpAgent) (tlv : UnpackedTlv) :
    (a.keeps tlv).neighbour = a.neighbour ∧ (a.keeps tlv).adminStatus = a.adminStatus ∧
      (a.keeps tlv).stats = a.stats ∧
      (a.keeps tlv).rx.manifest = a.rx.manifest.map (·.place tlv) := by
  unfold LldpAgent.keeps
  split_ifs with hcore
  · exact ⟨rfl, rfl, rfl, rfl⟩
  · refine ⟨rfl, rfl, rfl, ?_⟩
    have hplace : (fun m : RxManifest => m.place tlv) = id := by
      funext m
      exact place_of_not_coreType (Bool.eq_false_iff.mpr hcore)
    rw [hplace, Option.map_id]
    rfl

theorem keeps_view (h : a.view = o.view) (tlv : UnpackedTlv) :
    (a.keeps tlv).view = (o.mark tlv.type).view := by
  unfold LldpAgent.keeps Offer.mark
  split_ifs
  · rw [← h]
    rfl
  · exact h

theorem SameButNeighbour.view {a : LldpAgent} (h : SameButNeighbour a b) : b.view = a.view := by
  rw [SameButNeighbour] at h
  rw [h]
  rfl

theorem SameButNeighbour.fields {a : LldpAgent} (h : SameButNeighbour a b) :
    b.adminStatus = a.adminStatus ∧ b.lldpdu = a.lldpdu ∧ b.stats = a.stats ∧
      b.rx.manifest = a.rx.manifest := by
  rw [SameButNeighbour] at h
  rw [h]
  exact ⟨rfl, rfl, rfl, rfl⟩

theorem mark_eq (o : Offer μ) (type : Nat) :
    (o.mark type).modules = o.modules ∧ (o.mark type).freed = o.freed := by
  unfold Offer.mark
  split_ifs <;> exact ⟨rfl, rfl⟩

/-- What the core and the modules make of a valid TLV. -/
theorem taken_of_valid (env : Env μ) (h : AtTlv f nb n c l) (ho : Offered c.port c o)
    (hread : readTlv f (l.tlvCnt + 1) l.tlvOffset = some head) {l' : RxLocals}
    (hstore : storeTlv f c.agent (l.advance head) (newTlv f c l head) = some (a, l')) :
    ∃ o', offerAll c.port env.modules (o.mark (f.tlvType n)) (f.tlv n c.tlvs.created)
        (coreType (f.tlvType n))
          = (o', (rchangeAll env.modules (c.withNewTlv a) (newTlv f c l head) l'.tlvStored).2) ∧
      Taken f nb n c o
        (rchangeAll env.modules (c.withNewTlv a) (newTlv f c l head) l'.tlvStored).1 l' o' := by
  obtain ⟨hnew, hvalid, -⟩ := newTlv_eq h hread
  have hhead := readTlv_eq_some hread
  rw [hnew] at hstore ⊢
  obtain ⟨hcnt, hoff, hstored⟩ := storeTlv_locals hstore
  have hrec := storeTlv_eq_some hstore
  have hsame : SameButNeighbour (c.agent.keeps (f.tlv n c.tlvs.created)) a := by
    have hs := (recordTlv_same f (c.agent.keeps (f.tlv n c.tlvs.created))
      { l.advance head with
        tlvStored := coreType (f.tlv n c.tlvs.created).type || (l.advance head).tlvStored }
      (f.tlv n c.tlvs.created)).1
    rw [hrec] at hs
    exact hs
  obtain ⟨hadm, hlldpdu, hstats, hmanifest⟩ := hsame.fields
  obtain ⟨hknb, hkadm, hkstats, hkman⟩ := keeps_eq c.agent (f.tlv n c.tlvs.created)
  -- the neighbours
  have hseen : (a.neighbour, l'.matches) = see c.agent.adminStatus f nb (n + 1) := by
    have hs := recordTlv_seen nb (a := c.agent.keeps (f.tlv n c.tlvs.created))
      (l := { l.advance head with
        tlvStored := coreType (f.tlv n c.tlvs.created).type || (l.advance head).tlvStored })
      c.tlvs.created hvalid (by rw [hknb, hkadm]; exact h.seen)
    rw [hrec, hkadm] at hs
    exact hs
  -- the marks
  have hunmarked : Unmarked a (n + 1) := by
    refine (h.unmarked.keeps (f.tlv n c.tlvs.created) ?_).of_lldpdu ?_
    · intro hle
      have htype := (readTlv_type hread).1 (by rw [h.cnt]; exact hle)
      rw [hhead, h.offset, h.cnt] at htype
      exact htype
    · exact hlldpdu
  -- the modules
  have hmark : Offered c.port (c.withNewTlv a) (o.mark (f.tlvType n)) := by
    refine ⟨rfl, ?_, ?_⟩
    · rw [(mark_eq o _).1]
      exact ho.modules
    · exact hsame.view.trans (keeps_view ho.view _)
  obtain ⟨hans, hoffered, new, honly, hfreed⟩ := rchangeAll_offered env.modules (c.withNewTlv a)
    (o.mark (f.tlvType n)) (f.tlv n c.tlvs.created) l'.tlvStored hmark
  have hst : l'.tlvStored = coreType (f.tlvType n) := by
    rw [hstored]
    show (coreType (f.tlvType n) || l.tlvStored) = _
    rw [h.stored, Bool.or_false]
  rw [← hst]
  refine ⟨_, Prod.ext rfl hans.symm, ?_⟩
  have hall := rchangeAll_walkKeeps env.modules (c.withNewTlv a) (f.tlv n c.tlvs.created)
    l'.tlvStored
  exact
    { cnt := by rw [hcnt]; exact congrArg (· + 1) h.cnt
      offset := by
        rw [hoff]
        show l.tlvOffset + 2 + head.2 = _
        rw [hhead, h.offset]
        rfl
      unmarked := Unmarked.rchangeAll env.modules (c.withNewTlv a) _ _ hunmarked
      adminStatus := hall.adminStatus.trans (hadm.trans hkadm)
      seen := by rw [honly.neighbour]; exact hseen
      offered := hoffered
      created := honly.created
      freed := by
        intro ref
        rw [honly.freed, hfreed, (mark_eq o _).2, List.count_append, List.count_append]
        show _ + c.tlvs.freed.count ref + _ = _
        omega
      manifest := honly.manifest.trans (hmanifest.trans hkman)
      stats := honly.stats.trans (hstats.trans hkstats) }

/-- The core's own types are never repeated: the order of the first three is checked before
the marks are. -/
theorem storeTlv_isSome (h : AtTlv f nb n c l)
    (hread : readTlv f (l.tlvCnt + 1) l.tlvOffset = some head) :
    storeTlv f c.agent (l.advance head) (newTlv f c l head) ≠ none := by
  obtain ⟨hfirst, hlater⟩ := readTlv_type hread
  rw [h.cnt] at hfirst hlater
  have hnot : ¬Repeated c.agent (newTlv f c l head) := by
    rintro ⟨hlow, hhigh, hmark⟩
    change 1 ≤ head.1 at hlow
    change head.1 ≤ 3 at hhigh
    by_cases hn : n + 1 ≤ 3
    · -- this one's mark is still to come
      exact hmark (h.unmarked head.1 (by rw [hfirst hn]; omega) hhigh)
    · obtain ⟨h₁, h₂, h₃⟩ := hlater (by omega)
      omega
  rw [storeTlv_eq, if_neg hnot]
  exact Option.some_ne_none _

/-! ### The whole walk -/

/-- The walk from TLV `n` on, with the modules offered as in `o`, came to `r`; `out` is what
`replay` makes of it. -/
structure Walked (f : Frame) (nb : Neighbour) (n : Nat) (c : Ctx μ) (o : Offer μ)
    (out : Outcome μ) (r : Ctx μ × Bool) : Prop where
  error : r.2 = out.error
  neighbour : r.1.agent.neighbour
    = (see c.agent.adminStatus f nb (n + out.created.length)).1
  modules : r.1.modules = out.offer.modules
  created : r.1.tlvs.created = c.tlvs.created + out.created.length
  freed : ∀ ref, r.1.tlvs.freed.count ref + o.freed.count ref
    = c.tlvs.freed.count ref + out.offer.freed.count ref + out.released.count ref
  manifest : r.1.agent.rx.manifest
    = c.agent.rx.manifest.map fun m => out.created.foldl RxManifest.place m
  unrecognized : r.1.agent.stats.statsTLVsUnrecognizedTotal
    = c.agent.stats.statsTLVsUnrecognizedTotal + UInt32.ofNat out.unkept

theorem dropUnstored_eq (d : Ctx μ) (tlv : UnpackedTlv) (stored : Bool) :
    (dropUnstored d tlv stored).agent.neighbour = d.agent.neighbour ∧
      (dropUnstored d tlv stored).port = d.port ∧
      (dropUnstored d tlv stored).modules = d.modules ∧
      (dropUnstored d tlv stored).agent.view = d.agent.view ∧
      (dropUnstored d tlv stored).agent.lldpdu = d.agent.lldpdu ∧
      (dropUnstored d tlv stored).agent.rx.manifest = d.agent.rx.manifest ∧
      (dropUnstored d tlv stored).tlvs.created = d.tlvs.created ∧
      (dropUnstored d tlv stored).tlvs.freed
        = (if stored then [] else [tlv.ref]) ++ d.tlvs.freed ∧
      (dropUnstored d tlv stored).agent.stats.statsTLVsUnrecognizedTotal
        = d.agent.stats.statsTLVsUnrecognizedTotal + UInt32.ofNat (if stored then 0 else 1) := by
  cases stored with
  | true => exact ⟨rfl, rfl, rfl, rfl, rfl, rfl, rfl, rfl, (UInt32.add_zero _).symm⟩
  | false => exact ⟨rfl, rfl, rfl, rfl, rfl, rfl, rfl, rfl, rfl⟩

theorem Taken.next {c : Ctx μ} (h : Taken f nb n c o d l o') (tlv : UnpackedTlv) (stored : Bool) :
    AtTlv f nb (n + 1) (dropUnstored d tlv stored) { l with tlvStored := false } ∧
      Offered c.port (dropUnstored d tlv stored) o' ∧
      (dropUnstored d tlv stored).tlvs.created = c.tlvs.created + 1 := by
  obtain ⟨hnb, hport, hmod, hview, hlldpdu, -, hcreated, -⟩ := dropUnstored_eq d tlv stored
  have hadm := (dropUnstored_walkKeeps d tlv stored).adminStatus.trans h.adminStatus
  refine ⟨⟨h.cnt, h.offset, rfl, h.unmarked.of_lldpdu hlldpdu, ?_⟩, ?_, hcreated.trans h.created⟩
  · rw [hnb, hadm]
    exact h.seen
  · exact ⟨hport.trans h.offered.port, hmod.trans h.offered.modules, hview.trans h.offered.view⟩

theorem Taken.walked {c : Ctx μ}
    (h : Taken f nb n c o d l o') {stored : Bool} {out : Outcome μ} {r : Ctx μ × Bool}
    (hrest : Walked f nb (n + 1) (dropUnstored d (f.tlv n c.tlvs.created) stored) o' out r) :
    Walked f nb n c o (out.cons (f.tlv n c.tlvs.created, stored)) r := by
  obtain ⟨-, -, -, -, -, hman, hcreated, hfreed, hcount⟩ :=
    dropUnstored_eq d (f.tlv n c.tlvs.created) stored
  have hadm := (dropUnstored_walkKeeps d (f.tlv n c.tlvs.created) stored).adminStatus
  exact
    { error := hrest.error
      neighbour := by
        rw [hrest.neighbour, hadm, h.adminStatus, Outcome.cons_created, List.length_cons,
          Nat.add_assoc, Nat.add_comm 1]
      modules := hrest.modules
      created := by
        rw [hrest.created, hcreated, h.created, Outcome.cons_created, List.length_cons]
        omega
      freed := fun ref => by
        have h₁ := h.freed ref
        have h₂ := hrest.freed ref
        rw [hfreed, List.count_append] at h₂
        rw [Outcome.cons_released, List.count_append, Outcome.cons_offer]
        dsimp only
        omega
      manifest := by
        rw [hrest.manifest, hman, h.manifest, Option.map_map]
        rfl
      unrecognized := by
        rw [hrest.unrecognized, hcount, h.stats, Outcome.cons_unkept, UInt32.ofNat_add,
          UInt32.add_assoc] }

theorem Walked.stop (hat : AtTlv f nb n c l) (ho : Offered p c o) (error : Bool) :
    Walked f nb n c o { offer := o, error := error } (c, error) where
  error := rfl
  neighbour := congrArg Prod.fst hat.seen
  modules := ho.modules
  created := rfl
  freed := fun ref => by simp [Outcome.released]
  manifest := by simp [Outcome.created]
  unrecognized := (UInt32.add_zero _).symm

theorem Taken.rejected {c : Ctx μ} (h : Taken f nb n c o d l o') :
    Walked f nb n c o
      { offer := o', rejected := some (f.tlv n c.tlvs.created), error := true }
      (d.freeTlv (f.tlv n c.tlvs.created), true) where
  error := rfl
  neighbour := congrArg Prod.fst h.seen
  modules := h.offered.modules
  created := h.created
  freed := fun ref => by
    have hfreed := h.freed ref
    simp only [Ctx.freeTlv, TlvHeap.free, Outcome.released, List.filter_nil, List.map_nil,
      Option.toList_some, List.map_cons, List.nil_append, List.count_cons,
      List.count_nil] at hfreed ⊢
    omega
  manifest := h.manifest
  unrecognized := by
    show d.agent.stats.statsTLVsUnrecognizedTotal = _ + 0
    rw [UInt32.add_zero, h.stats]

/-- The walk over a frame, from TLV `n` on, is `see` for the neighbours and `replay` for the
modules. The induction is on the passes. -/
theorem walk_spec (env : Env μ) (f : Frame) (nb : Neighbour) :
    ∀ (fuel n : Nat) (c : Ctx μ) (l : RxLocals) (o : Offer μ) (r : Ctx μ × Bool),
      AtTlv f nb n c l → Offered p c o →
      iterate (fun s => .ok (rxTlv env f s)) fuel (c, l) = .ok r →
        Walked f nb n c o (replay env p f fuel n c.tlvs.created o) r := by
  intro fuel
  induction fuel with
  | zero => intro n c l o r _ _ h; simp [iterate] at h
  | succ fuel ih =>
    intro n c l o r hat ho h
    obtain rfl := ho.port
    have hpass := tlvPass_rxTlv env f c l
    rw [iterate_succ_eq_ok] at h
    generalize rxTlv env f (c, l) = p at hpass h
    cases hpass with
    | unreadable hread =>
      obtain rfl : (c, true) = r := by simpa using h
      have hinvalid : f.valid n = false := by
        rw [hat.cnt, hat.offset] at hread
        rw [Frame.valid, hread]
        rfl
      rw [replay_invalid hinvalid]
      exact .stop hat ho true
    | repeated hread hstore => exact absurd hstore (storeTlv_isSome hat hread)
    | rejected hread hstore hall =>
      obtain ⟨hnew, hvalid, htype⟩ := newTlv_eq hat hread
      obtain ⟨o', hoffer, htaken⟩ := taken_of_valid env hat ho hread hstore
      rw [hall] at hoffer htaken
      obtain rfl := by simpa using h
      rw [replay_rejected hvalid hoffer, hnew]
      exact htaken.rejected
    | next hread hstore hall hmore =>
      obtain ⟨hnew, hvalid, htype⟩ := newTlv_eq hat hread
      obtain ⟨o', hoffer, htaken⟩ := taken_of_valid env hat ho hread hstore
      rw [hall] at hoffer htaken
      obtain ⟨hat', ho', hcreated⟩ := htaken.next (f.tlv n c.tlvs.created) _
      rw [htype] at hmore
      rw [hnew] at h
      have hrest := ih _ _ _ _ r hat' ho' (by simpa using h)
      rw [hcreated] at hrest
      rw [replay_taken hvalid hoffer, if_neg hmore]
      exact htaken.walked hrest
    | last hread hstore hall hend =>
      obtain ⟨hnew, hvalid, htype⟩ := newTlv_eq hat hread
      obtain ⟨o', hoffer, htaken⟩ := taken_of_valid env hat ho hread hstore
      rw [hall] at hoffer htaken
      obtain ⟨hat', ho', hcreated⟩ := htaken.next (f.tlv n c.tlvs.created) _
      obtain rfl := by simpa using h
      rw [htype] at hend
      rw [replay_taken hvalid hoffer, if_pos hend, hnew]
      exact htaken.walked (.stop hat' ho' false)

/-! ### A whole frame -/

/-- What the modules are when the walk over a frame starts. -/
def Ctx.offer (c : Ctx μ) : Offer μ :=
  { modules := c.modules, view := (beginFrame c.agent).view, freed := [] }

/-- What becomes of frame `f` when it is processed. -/
def Ctx.outcome (env : Env μ) (c : Ctx μ) (f : Frame) : Outcome μ :=
  replay env c.port f (tlvFuel f) 0 c.tlvs.created c.offer

/-- The manifest that the TLVs of a frame leave. -/
def Outcome.manifest (o : Outcome μ) : RxManifest := o.created.foldl RxManifest.place {}

/-- The slots of a manifest, in the order in which `clear_manifest` releases them. -/
def RxManifest.slots (m : RxManifest) : List (Option Nat) :=
  [m.mgmtadd, m.syscap, m.sysdesc, m.sysname, m.portdesc, m.ttl, m.portid, m.chassis]

/-- The TLVs in a manifest. -/
def RxManifest.refs (m : RxManifest) : List Nat := m.slots.reduceOption

theorem freeOpt_foldl (slots : List (Option Nat)) :
    ∀ h : TlvHeap, (slots.foldl TlvHeap.freeOpt h).created = h.created ∧
      ∀ ref, (slots.foldl TlvHeap.freeOpt h).freed.count ref
        = slots.reduceOption.count ref + h.freed.count ref := by
  induction slots with
  | nil => intro h; exact ⟨rfl, fun ref => (Nat.zero_add _).symm⟩
  | cons s slots ih =>
    intro h
    rw [List.foldl_cons]
    obtain ⟨hcreated, hcount⟩ := ih (h.freeOpt s)
    cases s with
    | none => exact ⟨hcreated, hcount⟩
    | some x =>
      refine ⟨hcreated, fun ref => ?_⟩
      rw [hcount ref, List.reduceOption_cons_of_some, List.count_cons]
      show _ + (x :: h.freed).count ref = _
      rw [List.count_cons]
      omega

theorem endFrame_eq {r : Ctx μ × Bool} {m : RxManifest} (h : r.1.agent.rx.manifest = some m) :
    (endFrame f r).agent = { recordFrame (countFrame r.1.agent r.2) f r.2 with
        lldpdu := 0
        rx := { (countFrame r.1.agent r.2).rx with manifest := none } } ∧
      (endFrame f r).modules = r.1.modules ∧ (endFrame f r).port = r.1.port ∧
      (endFrame f r).tlvs = m.slots.foldl TlvHeap.freeOpt r.1.tlvs := by
  unfold endFrame clearManifest
  have hm : (recordFrame (countFrame r.1.agent r.2) f r.2).rx.manifest = some m := by
    rw [← h]
    unfold countFrame
    split_ifs <;> rfl
  dsimp only
  rw [hm]
  exact ⟨rfl, rfl, rfl, rfl⟩

/-- What `rxProcessFrame` makes of the agent, the modules and the TLVs. -/
structure Processed (c : Ctx μ) (f : Frame) (out : Outcome μ) (c' : Ctx μ) : Prop where
  neighbour : c'.agent.neighbour
    = (see c.agent.adminStatus f c.agent.neighbour out.created.length).1
  modules : c'.modules = out.offer.modules
  created : c'.tlvs.created = c.tlvs.created + out.created.length
  freed : ∀ ref, c'.tlvs.freed.count ref = c.tlvs.freed.count ref
    + out.offer.freed.count ref + out.released.count ref + out.manifest.refs.count ref
  manifest : c'.agent.rx.manifest = none
  lldpdu : c'.agent.lldpdu = 0
  history : c'.agent.history.processed = (f, !out.error) :: c.agent.history.processed
  framesIn : c'.agent.stats.statsFramesInTotal = c.agent.stats.statsFramesInTotal
  discarded : c'.agent.stats.statsFramesDiscardedTotal
    = c.agent.stats.statsFramesDiscardedTotal + if out.error then 1 else 0
  inErrors : c'.agent.stats.statsFramesInErrorsTotal
    = c.agent.stats.statsFramesInErrorsTotal + if out.error then 1 else 0
  unrecognized : c'.agent.stats.statsTLVsUnrecognizedTotal
    = c.agent.stats.statsTLVsUnrecognizedTotal + UInt32.ofNat out.unkept

theorem rxProcessFrame_walked {env : Env μ} {c c' : Ctx μ}
    (hf : c.agent.rx.framein = some f) (h : rxProcessFrame env c = .ok c') :
    ∃ r, iterate (fun s => .ok (rxTlv env f s)) (tlvFuel f)
        ({ c with agent := beginFrame c.agent }, {}) = .ok r ∧
      Walked f c.agent.neighbour 0 { c with agent := beginFrame c.agent } c.offer
        (c.outcome env f) r ∧
      endFrame f r = c' := by
  obtain ⟨g, r, hg, -, hwalk, hend⟩ := rxProcessFrame_eq_ok.mp h
  obtain rfl : f = g := Option.some.inj (hf.symm.trans hg)
  have hat : AtTlv f c.agent.neighbour 0 { c with agent := beginFrame c.agent } {} :=
    ⟨rfl, rfl, rfl, fun _ _ _ => BitVec.zero_and, rfl⟩
  exact ⟨r, hwalk, walk_spec env f c.agent.neighbour (p := c.port) _ 0 _ _ c.offer r hat
    ⟨rfl, rfl, rfl⟩ hwalk, hend⟩

/-- The agent, the modules and the TLVs after a frame, in terms of `see` and `replay`. -/
theorem rxProcessFrame_spec {env : Env μ} {c c' : Ctx μ}
    (hf : c.agent.rx.framein = some f) (h : rxProcessFrame env c = .ok c') :
    Processed c f (c.outcome env f) c' := by
  obtain ⟨r, hwalk, hw, rfl⟩ := rxProcessFrame_walked hf h
  have hkeep := walk_keeps hwalk
  have hman : r.1.agent.rx.manifest = some (c.outcome env f).manifest := hw.manifest
  have herror : r.2 = (c.outcome env f).error := hw.error
  obtain ⟨hagent, hmodules, -, htlvs⟩ := endFrame_eq (f := f) hman
  obtain ⟨hcreated, hfreed⟩ := freeOpt_foldl (c.outcome env f).manifest.slots r.1.tlvs
  have hnb := hw.neighbour
  rw [Nat.zero_add] at hnb
  have hin : r.1.agent.stats.statsFramesInTotal = c.agent.stats.statsFramesInTotal := by
    rw [hkeep.stats]
    rfl
  have hdiscarded : r.1.agent.stats.statsFramesDiscardedTotal
      = c.agent.stats.statsFramesDiscardedTotal := by
    rw [hkeep.stats]
    rfl
  have herrors : r.1.agent.stats.statsFramesInErrorsTotal
      = c.agent.stats.statsFramesInErrorsTotal := by
    rw [hkeep.stats]
    rfl
  have hunrec : r.1.agent.stats.statsTLVsUnrecognizedTotal
      = c.agent.stats.statsTLVsUnrecognizedTotal + UInt32.ofNat (c.outcome env f).unkept :=
    hw.unrecognized
  rw [herror] at hagent
  refine
    { neighbour := ?_
      modules := hmodules.trans hw.modules
      created := by rw [htlvs, hcreated]; exact hw.created
      freed := fun ref => ?_
      manifest := by rw [hagent]
      lldpdu := by rw [hagent]
      history := ?_
      framesIn := ?_
      discarded := ?_
      inErrors := ?_
      unrecognized := ?_ }
  · refine Eq.trans ?_ hnb
    rw [hagent, countFrame]
    split_ifs <;> rfl
  · have hcount : r.1.tlvs.freed.count ref + 0 = _ := hw.freed ref
    rw [htlvs, hfreed, RxManifest.refs]
    change _ = c.tlvs.freed.count ref + (c.outcome env f).offer.freed.count ref
      + (c.outcome env f).released.count ref at hcount
    omega
  · have hprocessed : r.1.agent.history.processed = c.agent.history.processed :=
      hkeep.processed
    rw [hagent, ← hprocessed, countFrame]
    split_ifs <;> rfl
  all_goals
    rw [hagent]
    unfold countFrame recordFrame
    split_ifs
    all_goals simp [hin, hdiscarded, herrors, hunrec]

end Lldpad.Lldp
