import Mathlib.Tactic.SplitIfs
import Lldpad.Lldp.Rx

/-!
# `Lldpad.Proofs.Lldp.Pass`: one pass of the walk over a frame

* `TlvPass`, `tlvPass_rxTlv`: the five ways in which a pass ends.
* `storeTlv_eq`: what the core does with a TLV, once for all types.
* `walk_induction`, `walk_total`: the invariant rule of the walk, and that it ends.
* `WalkKeeps`: the fields that the walk leaves alone, and `rchange_walkKeeps`, `freeTlv_walkKeeps`.
-/

namespace Lldpad.Lldp

open Lldpad.Lib

variable {μ : Type}

/-! ### The ends of a pass -/

/-- The TLV that a pass creates. -/
def newTlv (f : Frame) (c : Ctx μ) (l : RxLocals) (head : Nat × Nat) : UnpackedTlv :=
  { ref := c.tlvs.created
    type := head.1
    length := head.2
    info := f.slice (l.tlvOffset + 2) head.2 }

/-- The locals once a TLV with the given header is unpacked. -/
def RxLocals.advance (l : RxLocals) (head : Nat × Nat) : RxLocals :=
  { l with tlvCnt := l.tlvCnt + 1, tlvOffset := l.tlvOffset + 2 + head.2 }

/-- The context once a TLV was created and the agent took it up. -/
def Ctx.withNewTlv (c : Ctx μ) (a : LldpAgent) : Ctx μ :=
  { c with tlvs := { c.tlvs with created := c.tlvs.created + 1 }, agent := a }

/-- The context once a TLV was released. -/
def Ctx.freeTlv (c : Ctx μ) (tlv : UnpackedTlv) : Ctx μ := { c with tlvs := c.tlvs.free tlv.ref }

/-- The ways in which a pass of the walk over frame `f` ends. -/
inductive TlvPass (env : Env μ) (f : Frame) (c : Ctx μ) (l : RxLocals) :
    Pass (Ctx μ × RxLocals) (Ctx μ × Bool) → Prop
  /-- there is no valid TLV at the offset -/
  | unreadable (hread : readTlv f (l.tlvCnt + 1) l.tlvOffset = none) :
      TlvPass env f c l (.leave (c, true))
  /-- the frame had one of this type already -/
  | repeated {head : Nat × Nat} (hread : readTlv f (l.tlvCnt + 1) l.tlvOffset = some head)
      (hstore : storeTlv f c.agent (l.advance head) (newTlv f c l head) = none) :
      TlvPass env f c l (.leave ((c.withNewTlv c.agent).freeTlv (newTlv f c l head), true))
  /-- a module rejects it -/
  | rejected {head : Nat × Nat} {a : LldpAgent} {l' : RxLocals} {d : Ctx μ}
      (hread : readTlv f (l.tlvCnt + 1) l.tlvOffset = some head)
      (hstore : storeTlv f c.agent (l.advance head) (newTlv f c l head) = some (a, l'))
      (hall : rchangeAll env.modules (c.withNewTlv a) (newTlv f c l head) l'.tlvStored
        = (d, none)) :
      TlvPass env f c l (.leave (d.freeTlv (newTlv f c l head), true))
  /-- it is taken, and more follow -/
  | next {head : Nat × Nat} {a : LldpAgent} {l' : RxLocals} {d : Ctx μ} {stored : Bool}
      (hread : readTlv f (l.tlvCnt + 1) l.tlvOffset = some head)
      (hstore : storeTlv f c.agent (l.advance head) (newTlv f c l head) = some (a, l'))
      (hall : rchangeAll env.modules (c.withNewTlv a) (newTlv f c l head) l'.tlvStored
        = (d, some stored))
      (hmore : head.1 ≠ 0) :
      TlvPass env f c l (.again (dropUnstored d (newTlv f c l head) stored,
        { l' with tlvStored := false }))
  /-- it is taken, and it is the End TLV -/
  | last {head : Nat × Nat} {a : LldpAgent} {l' : RxLocals} {d : Ctx μ} {stored : Bool}
      (hread : readTlv f (l.tlvCnt + 1) l.tlvOffset = some head)
      (hstore : storeTlv f c.agent (l.advance head) (newTlv f c l head) = some (a, l'))
      (hall : rchangeAll env.modules (c.withNewTlv a) (newTlv f c l head) l'.tlvStored
        = (d, some stored))
      (hend : head.1 = 0) :
      TlvPass env f c l (.leave (dropUnstored d (newTlv f c l head) stored, false))

/-- A pass ends in one of these ways. The exit for an empty TLV is dead: it compares the
type of a TLV that was only just created. -/
theorem tlvPass_rxTlv (env : Env μ) (f : Frame) (c : Ctx μ) (l : RxLocals) :
    TlvPass env f c l (rxTlv env f (c, l)) := by
  unfold rxTlv
  dsimp only
  cases hread : readTlv f (l.tlvCnt + 1) l.tlvOffset with
  | none => exact .unreadable hread
  | some head =>
    have hdead : ¬(head.2 = 0 ∧ (createTlv c.tlvs).1.type ≠ 0) := fun h => h.2 rfl
    dsimp only
    rw [if_neg hdead]
    cases hstore : storeTlv f c.agent (l.advance head) (newTlv f c l head) with
    | none =>
      have hstore' := hstore
      simp only [RxLocals.advance, newTlv] at hstore'
      simp only [createTlv, hstore']
      exact .repeated hread hstore
    | some al =>
      obtain ⟨a, l'⟩ := al
      have hstore' := hstore
      simp only [RxLocals.advance, newTlv] at hstore'
      simp only [createTlv, hstore']
      cases hd : rchangeAll env.modules (c.withNewTlv a) (newTlv f c l head) l'.tlvStored with
      | mk d answer =>
        have hd' := hd
        simp only [Ctx.withNewTlv, newTlv] at hd'
        simp only [hd']
        cases answer with
        | none => exact .rejected hread hstore hd
        | some stored =>
          by_cases hend : head.1 = 0
          · simp only [hend, ne_eq, not_true_eq_false, if_false]
            have hlast := TlvPass.last hread hstore hd hend
            simp only [newTlv, hend] at hlast
            exact hlast
          · simp only [ne_eq, hend, not_false_eq_true, if_true]
            exact .next hread hstore hd hend

variable {f : Frame}

variable {l l' : RxLocals} {tlv : UnpackedTlv} {c : Ctx μ} {env : Env μ} {a' a : LldpAgent}

theorem walk_induction {I : Ctx μ → RxLocals → Prop} {Q : Ctx μ × Bool → Prop}
    (hpass : ∀ c l p, I c l → TlvPass env f c l p →
      match p with
      | .again s => I s.1 s.2
      | .leave r => Q r)
    {fuel : Nat} {c : Ctx μ} {l : RxLocals} {r : Ctx μ × Bool} (hI : I c l)
    (h : iterate (fun s => .ok (rxTlv env f s)) fuel (c, l) = .ok r) : Q r := by
  refine iterate_induction (I := fun s : Ctx μ × RxLocals => I s.1 s.2) (Q := Q)
    ?_ ?_ fuel (c, l) r hI h
  · rintro ⟨c, l⟩ s' hI hs
    have hp := hpass c l _ hI (tlvPass_rxTlv env f c l)
    rw [Except.ok.inj hs] at hp
    exact hp
  · rintro ⟨c, l⟩ r hI hs
    have hp := hpass c l _ hI (tlvPass_rxTlv env f c l)
    rw [Except.ok.inj hs] at hp
    exact hp

/-! ### The core's part -/

/-- The manifest once a TLV has its slot. -/
def RxManifest.place (m : RxManifest) (tlv : UnpackedTlv) : RxManifest :=
  match tlv.type with
  | 1 => { m with chassis := some tlv.ref }
  | 2 => { m with portid := some tlv.ref }
  | 3 => { m with ttl := some tlv.ref }
  | 4 => { m with portdesc := some tlv.ref }
  | 5 => { m with sysname := some tlv.ref }
  | 6 => { m with sysdesc := some tlv.ref }
  | 7 => { m with syscap := some tlv.ref }
  | 8 => { m with mgmtadd := some tlv.ref }
  | _ => m

/-- The types that the core itself keeps. -/
def coreType (type : Nat) : Bool := 1 ≤ type ∧ type ≤ 8

/-- The agent once a TLV of a type that the core keeps has its mark and its slot. -/
def LldpAgent.keeps (a : LldpAgent) (tlv : UnpackedTlv) : LldpAgent :=
  if coreType tlv.type then (a.markRcvd (rcvdBit tlv.type)).setManifest (·.place tlv) else a

/-- Two agents differ at most in what they know of their neighbours. -/
def SameButNeighbour (a b : LldpAgent) : Prop :=
  b = { a with
    msap := b.msap
    rx := { a.rx with tooManyNghbrs := b.rx.tooManyNghbrs, newNeighbor := b.rx.newNeighbor }
    timers := { a.timers with
      tooManyNghbrsTimer := b.timers.tooManyNghbrsTimer
      rxTTL := b.timers.rxTTL
      lastrxTTL := b.timers.lastrxTTL }
    history := { a.history with loads := b.history.loads, remote := b.history.remote } }

/-- Two sets of locals differ at most in the comparisons. -/
def SameButMatches (l l' : RxLocals) : Prop :=
  l' = { l with
    msapCompare1 := l'.msapCompare1
    msapCompare2 := l'.msapCompare2
    goodNeighbor := l'.goodNeighbor }

theorem recordChassisId_same (a : LldpAgent) (l : RxLocals) (tlv : UnpackedTlv) :
    SameButNeighbour a (recordChassisId a l tlv).1 ∧
      SameButMatches l (recordChassisId a l tlv).2 := by
  unfold recordChassisId
  split
  · exact ⟨rfl, rfl⟩
  · split_ifs <;> exact ⟨rfl, rfl⟩

theorem recordPortId_same (a : LldpAgent) (l : RxLocals) (tlv : UnpackedTlv) :
    SameButNeighbour a (recordPortId a l tlv).1 ∧ SameButMatches l (recordPortId a l tlv).2 := by
  unfold recordPortId
  split
  · exact ⟨rfl, rfl⟩
  · dsimp only
    split_ifs <;> exact ⟨rfl, rfl⟩

theorem recordTtl_same (f : Frame) (a : LldpAgent) (l : RxLocals) (tlv : UnpackedTlv) :
    SameButNeighbour a (recordTtl f a l tlv).1 ∧ SameButMatches l (recordTtl f a l tlv).2 := by
  unfold recordTtl
  split_ifs <;> exact ⟨rfl, rfl⟩

/-- The core's work on the neighbours, by the type of the TLV. -/
def recordTlv (f : Frame) (a : LldpAgent) (l : RxLocals) (tlv : UnpackedTlv) :
    LldpAgent × RxLocals :=
  match tlv.type with
  | 1 => recordChassisId a l tlv
  | 2 => recordPortId a l tlv
  | 3 => recordTtl f a l tlv
  | _ => (a, l)

theorem recordTlv_same (f : Frame) (a : LldpAgent) (l : RxLocals) (tlv : UnpackedTlv) :
    SameButNeighbour a (recordTlv f a l tlv).1 ∧ SameButMatches l (recordTlv f a l tlv).2 := by
  unfold recordTlv
  split
  · exact recordChassisId_same a l tlv
  · exact recordPortId_same a l tlv
  · exact recordTtl_same f a l tlv
  · exact ⟨rfl, rfl⟩

/-- One of the first three types was marked before. -/
def Repeated (a : LldpAgent) (tlv : UnpackedTlv) : Prop :=
  1 ≤ tlv.type ∧ tlv.type ≤ 3 ∧ a.lldpdu &&& rcvdBit tlv.type ≠ 0

instance (a : LldpAgent) (tlv : UnpackedTlv) : Decidable (Repeated a tlv) :=
  inferInstanceAs (Decidable (_ ∧ _ ∧ _))

/-- What the core does with a TLV: a type that it keeps gets its mark and its slot, and
then the neighbours are looked at. -/
theorem storeTlv_eq (f : Frame) (a : LldpAgent) (l : RxLocals) (tlv : UnpackedTlv) :
    storeTlv f a l tlv =
      if Repeated a tlv then none
      else some (recordTlv f (a.keeps tlv)
        { l with tlvStored := coreType tlv.type || l.tlvStored } tlv) := by
  obtain ⟨ref, type, length, info⟩ := tlv
  match type with
  | 1 =>
    simp only [storeTlv, storeChassisId, Repeated, recordTlv, LldpAgent.keeps]
    split_ifs <;> simp_all [coreType, RxManifest.place]
  | 2 =>
    simp only [storeTlv, storePortId, Repeated, recordTlv, LldpAgent.keeps]
    split_ifs <;> simp_all [coreType, RxManifest.place]
  | 3 =>
    simp only [storeTlv, storeTtl, Repeated, recordTlv, LldpAgent.keeps]
    split_ifs <;> simp_all [coreType, RxManifest.place]
  | 4 | 5 | 6 | 7 | 8 =>
    simp [storeTlv, storeOptional, Repeated, recordTlv, LldpAgent.keeps, coreType,
      RxManifest.place]
  | 0 =>
    simp [storeTlv, storeOptional, Repeated, recordTlv, LldpAgent.keeps, coreType]
  | n + 9 =>
    simp [storeTlv, storeOptional, Repeated, recordTlv, LldpAgent.keeps, coreType]

theorem storeTlv_eq_some (h : storeTlv f a l tlv = some (a', l')) :
    recordTlv f (a.keeps tlv) { l with tlvStored := coreType tlv.type || l.tlvStored } tlv
      = (a', l') := by
  rw [storeTlv_eq] at h
  split_ifs at h
  exact Option.some.inj h

theorem storeTlv_locals (h : storeTlv f a l tlv = some (a', l')) :
    l'.tlvCnt = l.tlvCnt ∧ l'.tlvOffset = l.tlvOffset ∧
      l'.tlvStored = (coreType tlv.type || l.tlvStored) := by
  have hsame := (recordTlv_same f (a.keeps tlv)
    { l with tlvStored := coreType tlv.type || l.tlvStored } tlv).2
  rw [storeTlv_eq_some h, SameButMatches] at hsame
  dsimp only at hsame
  rw [hsame]
  exact ⟨rfl, rfl, rfl⟩

/-! ### The walk ends -/

theorem readTlv_le {cnt off : Nat} {head : Nat × Nat}
    (h : readTlv f cnt off = some head) : off ≤ f.size := by
  unfold readTlv at h
  split_ifs at h with hover
  omega

theorem walk_total (env : Env μ) (f : Frame) (c : Ctx μ) :
    ∃ r, iterate (fun s => .ok (rxTlv env f s)) (tlvFuel f) (c, {}) = .ok r := by
  refine iterate_total (I := fun _ => True) (fun s => f.size + 1 - s.2.tlvOffset) ?_ _ _ trivial
    (by unfold tlvFuel; omega)
  rintro ⟨c, l⟩ -
  have hp := tlvPass_rxTlv env f c l
  cases hr : rxTlv env f (c, l) with
  | leave r => exact .inl ⟨r, rfl⟩
  | again s =>
    refine .inr ⟨s, rfl, trivial, ?_⟩
    rw [hr] at hp
    cases hp with
    | next hread hstore hall hmore =>
      have hle := readTlv_le hread
      have hoff := (storeTlv_locals hstore).2.1
      dsimp only [RxLocals.advance] at hoff ⊢
      omega

/-! ### What the walk leaves alone -/

/-- The fields that the walk over a frame leaves alone, as equations that name the others. -/
structure WalkKeeps (c d : Ctx μ) : Prop where
  port : d.port = c.port
  wire : d.wire = c.wire
  adminStatus : d.agent.adminStatus = c.agent.adminStatus
  type : d.agent.type = c.agent.type
  tx : d.agent.tx = { c.agent.tx with
    localChange := d.agent.tx.localChange, txFast := d.agent.tx.txFast }
  timers : d.agent.timers = { c.agent.timers with
    tooManyNghbrsTimer := d.agent.timers.tooManyNghbrsTimer
    rxTTL := d.agent.timers.rxTTL
    lastrxTTL := d.agent.timers.lastrxTTL }
  stats : d.agent.stats = { c.agent.stats with
    statsTLVsUnrecognizedTotal := d.agent.stats.statsTLVsUnrecognizedTotal }
  rx : d.agent.rx = { c.agent.rx with
    tooManyNghbrs := d.agent.rx.tooManyNghbrs
    newNeighbor := d.agent.rx.newNeighbor
    dupTlvs := d.agent.rx.dupTlvs
    dcbxSt := d.agent.rx.dcbxSt
    manifest := d.agent.rx.manifest }
  processed : d.agent.history.processed = c.agent.history.processed

namespace WalkKeeps

theorem refl (c : Ctx μ) : WalkKeeps c c := ⟨rfl, rfl, rfl, rfl, rfl, rfl, rfl, rfl, rfl⟩

theorem trans {c d e : Ctx μ} (h : WalkKeeps c d) (h' : WalkKeeps d e) : WalkKeeps c e where
  port := h'.port.trans h.port
  wire := h'.wire.trans h.wire
  adminStatus := h'.adminStatus.trans h.adminStatus
  type := h'.type.trans h.type
  tx := by rw [h'.tx, h.tx]
  timers := by rw [h'.timers, h.timers]
  stats := by rw [h'.stats, h.stats]
  rx := by rw [h'.rx, h.rx]
  processed := h'.processed.trans h.processed

end WalkKeeps

theorem keeps_walkKeeps (c : Ctx μ) (tlv : UnpackedTlv) :
    WalkKeeps c { c with agent := c.agent.keeps tlv } := by
  unfold LldpAgent.keeps
  split_ifs
  · exact ⟨rfl, rfl, rfl, rfl, rfl, rfl, rfl, rfl, rfl⟩
  · exact .refl c

theorem SameButNeighbour.walkKeeps
    (h : SameButNeighbour c.agent a) : WalkKeeps c { c with agent := a } := by
  rw [SameButNeighbour] at h
  rw [h]
  exact ⟨rfl, rfl, rfl, rfl, rfl, rfl, rfl, rfl, rfl⟩

theorem storeTlv_walkKeeps (h : storeTlv f c.agent l tlv = some (a', l')) :
    WalkKeeps c (c.withNewTlv a') := by
  have hsame := (recordTlv_same f (c.agent.keeps tlv)
    { l with tlvStored := coreType tlv.type || l.tlvStored } tlv).1
  rw [storeTlv_eq_some h] at hsame
  have hkeep := SameButNeighbour.walkKeeps (c := { c with agent := c.agent.keeps tlv }) hsame
  have hall := (keeps_walkKeeps c tlv).trans hkeep
  exact ⟨hall.port, hall.wire, hall.adminStatus, hall.type, hall.tx, hall.timers, hall.stats,
    hall.rx, hall.processed⟩

theorem rchange_walkKeeps (c : Ctx μ) (r : RchangeResult μ) : WalkKeeps c (c.rchange r) := by
  unfold Ctx.rchange Ctx.hook kick
  split_ifs <;> exact ⟨rfl, rfl, rfl, rfl, rfl, rfl, rfl, rfl, rfl⟩

theorem rchangeAll_walkKeeps (nps : List (LldpModule μ)) :
    ∀ (c : Ctx μ) (tlv : UnpackedTlv) (stored : Bool),
      WalkKeeps c (rchangeAll nps c tlv stored).1 := by
  induction nps with
  | nil => intro c tlv stored; exact .refl c
  | cons np nps ih =>
    intro c tlv stored
    rw [rchangeAll]
    cases np.rchange with
    | none => exact ih c tlv stored
    | some f =>
      dsimp only
      have hr := rchange_walkKeeps c (f c.port c.agent.view c.modules tlv)
      cases (f c.port c.agent.view c.modules tlv).answer with
      | tlvOk => exact hr.trans (ih _ tlv true)
      | tlvErr => exact hr
      | subtypeInvalid => exact hr.trans (ih _ tlv stored)

theorem dropUnstored_walkKeeps (c : Ctx μ) (tlv : UnpackedTlv) (stored : Bool) :
    WalkKeeps c (dropUnstored c tlv stored) := by
  unfold dropUnstored
  split_ifs
  · exact .refl c
  · exact ⟨rfl, rfl, rfl, rfl, rfl, rfl, rfl, rfl, rfl⟩

theorem freeTlv_walkKeeps (c : Ctx μ) (tlv : UnpackedTlv) : WalkKeeps c (c.freeTlv tlv) :=
  ⟨rfl, rfl, rfl, rfl, rfl, rfl, rfl, rfl, rfl⟩

theorem TlvPass.walkKeeps {p : Pass (Ctx μ × RxLocals) (Ctx μ × Bool)} (h : TlvPass env f c l p) :
    match p with
    | .again s => WalkKeeps c s.1
    | .leave r => WalkKeeps c r.1 := by
  have hall' : ∀ (d e : Ctx μ) tlv stored o, rchangeAll env.modules d tlv stored = (e, o) →
      WalkKeeps d e := by
    intro d e tlv stored o hall
    have h := rchangeAll_walkKeeps env.modules d tlv stored
    rw [hall] at h
    exact h
  cases h with
  | unreadable => exact .refl _
  | repeated => exact ⟨rfl, rfl, rfl, rfl, rfl, rfl, rfl, rfl, rfl⟩
  | rejected hread hstore hall =>
    exact (storeTlv_walkKeeps hstore).trans
      ((hall' _ _ _ _ _ hall).trans (freeTlv_walkKeeps _ _))
  | next hread hstore hall hmore =>
    exact (storeTlv_walkKeeps hstore).trans
      ((hall' _ _ _ _ _ hall).trans (dropUnstored_walkKeeps _ _ _))
  | last hread hstore hall hend =>
    exact (storeTlv_walkKeeps hstore).trans
      ((hall' _ _ _ _ _ hall).trans (dropUnstored_walkKeeps _ _ _))

theorem walk_keeps {fuel : Nat}
    {r : Ctx μ × Bool} (h : iterate (fun s => .ok (rxTlv env f s)) fuel (c, l) = .ok r) :
    WalkKeeps c r.1 := by
  refine walk_induction (I := fun d _ => WalkKeeps c d) (Q := fun r => WalkKeeps c r.1)
    ?_ (.refl c) h
  intro d l p hd hp
  have h := hp.walkKeeps
  cases p with
  | again s => exact hd.trans h
  | leave r => exact hd.trans h

/-! ### A whole frame -/

/-- A frame was processed: there was one, the walk over it came to `r`, and what follows
the loop was done. -/
theorem rxProcessFrame_eq_ok {c' : Ctx μ} :
    rxProcessFrame env c = .ok c' ↔
      ∃ f r, c.agent.rx.framein = some f ∧ f.size ≠ 0 ∧
        iterate (fun s => .ok (rxTlv env f s)) (tlvFuel f)
          ({ c with agent := beginFrame c.agent }, {}) = .ok r ∧
        endFrame f r = c' := by
  unfold rxProcessFrame
  cases hf : c.agent.rx.framein with
  | none => simp
  | some f =>
    simp only [bind_eq_ok, assert_eq_ok, decide_eq_true_eq, pure_eq_ok, Except.ok.injEq]
    constructor
    · rintro ⟨-, hsize, r, hr, hend⟩
      exact ⟨f, r, rfl, hsize, hr, hend⟩
    · rintro ⟨g, r, hg, hsize, hr, hend⟩
      cases hg
      exact ⟨(), hsize, r, hr, hend⟩

theorem rxProcessFrame_total (env : Env μ) (hf : c.agent.rx.framein = some f) (hsize : f.size ≠ 0) :
    ∃ c', rxProcessFrame env c = .ok c' := by
  obtain ⟨r, hr⟩ := walk_total env f { c with agent := beginFrame c.agent }
  exact ⟨_, rxProcessFrame_eq_ok.mpr ⟨f, r, hf, hsize, hr, rfl⟩⟩

theorem clearManifest_agent (c : Ctx μ) :
    (clearManifest c).agent = { c.agent with rx := { c.agent.rx with manifest := none } } := by
  unfold clearManifest
  cases h : c.agent.rx.manifest with
  | none => simp only [← h]
  | some m => rfl

end Lldpad.Lldp
