import Lldpad.Proofs.Qbg.AddreqAtomic

/-!
# `Lldpad.Proofs.Qbg.RequestTable`: the table of the requests

A comment of `qbg/vdp22sm.c` says what a request does to a VSI, by the mode that the VSI is in
and the mode that is asked for: `requestTable`. A VSI that is busy, or that has other filter
entries, refuses every request.

`vdp22_modvsi` has no table. It refuses a request for a VSI that is to be deleted, and one whose
mode is smaller as a number. So it refuses a pre-association behind one with resources, and
everything for a VSI that the bridge rejected and whose requester did not ask for the answer yet.

The mode that a VSI is in is `cc_vsi_mode`, the one that the bridge confirmed, or `vsi_mode`, the
one that was asked for last. The statements have a parameter for it. They are different only when
the bridge confirms another mode than it was asked for.

`requestTable_iff` is every run, `prescribed_iff` one call. `tableAgrees_deleted` and
`tableAgrees_asked` list the cells.
-/

namespace Lldpad.Qbg

open Lldpad.Lib

/-! ### The table -/

/-- The columns: the mode that a VSI is in. -/
inductive CurrentMode where
  | none
  | preassoc
  | preassocRr
  | assoc
  deriving DecidableEq, Repr

/-- The column of a mode -/
def columnOf (mode : UInt8) : CurrentMode :=
  if mode = vdp22Preassoc then .preassoc
  else if mode = vdp22PreassocWithRr then .preassocRr
  else if mode = vdp22Assoc then .assoc
  else .none

/-- The mode that a VSI is in: none when it is to be deleted -/
def currentMode (confirmed : Bool) (x : Vsi22) : CurrentMode :=
  if x.flags.deleteMe then .none else columnOf (if confirmed then x.ccVsiMode else x.vsiMode)

/-- The table: true where it says `do`, false where it says `error`. The rows are the modes that
are asked for. -/
def requestTable (current : CurrentMode) (mode : UInt8) : Bool :=
  if mode = vdp22Assoc then true
  else if mode = vdp22Deassoc then current != .none
  else current != .assoc

/-- What becomes of a request -/
inductive Outcome where
  /-- it is refused as invalid or unknown -/
  | error
  | busy
  /-- a new VSI -/
  | queued
  /-- the VSI `h` changes its mode -/
  | changed (h : Nat)

/-- What the table says of a request for the VSI `h`, which has the content `x` -/
def tableOutcome (confirmed : Bool) (x : Vsi22) (h : Nat) (mode : UInt8) : Outcome :=
  if requestTable (currentMode confirmed x) mode then .changed h else .error

/-- What is prescribed for the new node `v` -/
def prescribed (confirmed : Bool) (c : Vdp22Ctx) (v : Vsi22) : Outcome :=
  if v.vsiMode > vdp22Deassoc ∨ v.vsiMode < vdp22Preassoc then .error
  else
    match vdp22Findvsi c v with
    | none => if requestTable .none v.vsiMode then .queued else .error
    | some h =>
      let x := (c.nodes h).vsi
      if x.flags.busy then .busy
      else if vdp22CmpFdata x v = false then .error
      else tableOutcome confirmed x h v.vsiMode

/-- The call for the new node `v` came to this outcome. -/
def CameTo (c : Vdp22Ctx) (v : Vsi22) (c' : Vdp22Ctx) (rc : Int) : Outcome → Prop
  | .error => (rc = errEinval ∨ rc = errEnodev) ∧ c'.que = c.que ∧
      ∀ h ∈ c.que, (c'.nodes h).vsi.vsiMode = (c.nodes h).vsi.vsiMode ∧
        (c'.nodes h).vsi.smi = (c.nodes h).vsi.smi
  | .busy => rc = errEbusy ∧ c' = c.alloc v
  | .queued => rc = 0 ∧ ∃ y, vdp22Addvsi c.next (c.alloc v) = .ok y ∧
      c' = y.put c.next (y.nodes c.next).deref
  | .changed h => rc = 0 ∧ ∃ y, vdp22stRun c.ecpRc (modeChanged (c.nodes h) v.vsiMode) = .ok y ∧
      c' = (c.alloc v).put h y

/-- A call comes to what is prescribed. -/
def Prescribed (confirmed : Bool) (c : Vdp22Ctx) (v : Vsi22) : Prop :=
  ∃ c' rc modf, vdp22Addreq c.next (c.alloc v) = .ok (c', rc, modf) ∧
    CameTo c v c' rc (prescribed confirmed c v)

/-! ### The condition -/

/-- The deletion mark and the numbers of the modes say what the table says. -/
def TableAgrees (confirmed : Bool) (x : Vsi22) (mode : UInt8) : Prop :=
  requestTable (currentMode confirmed x) mode = false ↔
    x.flags.deleteMe = true ∨ x.vsiMode > mode

instance (confirmed : Bool) (x : Vsi22) (mode : UInt8) : Decidable (TableAgrees confirmed x mode) :=
  inferInstanceAs (Decidable (_ ↔ _))

/-- The call does not get to the table, or the VSI that it gets to agrees with it. -/
def CallOnTable (confirmed : Bool) (c : Vdp22Ctx) (v : Vsi22) : Prop :=
  ¬ (v.vsiMode > vdp22Deassoc ∨ v.vsiMode < vdp22Preassoc) →
    ∀ h, vdp22Findvsi c v = some h → (c.nodes h).vsi.flags.busy = false →
      vdp22CmpFdata (c.nodes h).vsi v = true → TableAgrees confirmed (c.nodes h).vsi v.vsiMode

theorem requestTable_none (mode : UInt8) :
    requestTable .none mode = true ↔ mode ≠ vdp22Deassoc := by
  unfold requestTable
  by_cases hdeassoc : mode = vdp22Deassoc
  · rw [hdeassoc]
    decide
  · simp [hdeassoc]

/-- For a VSI that is to be deleted, only a de-association is refused by both. -/
theorem tableAgrees_deleted (confirmed : Bool) {x : Vsi22} (h : x.flags.deleteMe = true)
    (mode : UInt8) : TableAgrees confirmed x mode ↔ mode = vdp22Deassoc := by
  have hnone : currentMode confirmed x = .none := if_pos h
  have htable := requestTable_none mode
  unfold TableAgrees
  rw [hnone]
  constructor
  · intro hagrees
    have hrefused := hagrees.mpr (.inl h)
    by_contra hne
    rw [htable.mpr hne] at hrefused
    cases hrefused
  · intro hmode
    refine iff_of_true ?_ (.inl h)
    rw [hmode]
    decide

/-- For a VSI that the bridge confirmed as it was asked, only a pre-association behind one with
resources is off the table. -/
theorem tableAgrees_asked (confirmed : Bool) {x : Vsi22} (hlive : x.flags.deleteMe = false)
    (hsame : x.ccVsiMode = x.vsiMode)
    (hx : x.vsiMode = vdp22Preassoc ∨ x.vsiMode = vdp22PreassocWithRr ∨ x.vsiMode = vdp22Assoc)
    {mode : UInt8} (hmode : isVsiMode mode = true) : TableAgrees confirmed x mode ↔
      ¬(x.vsiMode = vdp22PreassocWithRr ∧ mode = vdp22Preassoc) := by
  have hcolumn : currentMode confirmed x = columnOf x.vsiMode := by
    unfold currentMode
    rw [hlive, if_neg Bool.false_ne_true, hsame, ite_self]
  have hmodes : ((mode = vdp22Preassoc ∨ mode = vdp22PreassocWithRr) ∨ mode = vdp22Assoc) ∨
      mode = vdp22Deassoc := by
    simpa only [isVsiMode, Bool.or_eq_true, beq_iff_eq] using hmode
  unfold TableAgrees
  rw [hcolumn, hlive]
  rcases hx with hx | hx | hx <;> rw [hx]
  all_goals
    rcases hmodes with ((rfl | rfl) | rfl) | rfl <;> decide

/-! ### One call -/

variable {c : Vdp22Ctx}

theorem vdp22Addreq_found (hc : c.Wf) {v : Vsi22} {h : Nat}
    (hmode : ¬ (v.vsiMode > vdp22Deassoc ∨ v.vsiMode < vdp22Preassoc))
    (hfind : vdp22Findvsi c v = some h) :
    vdp22Addreq c.next (c.alloc v) =
      if (c.nodes h).vsi.flags.busy then .ok (c.alloc v, errEbusy, false)
      else if vdp22CmpFdata (c.nodes h).vsi v = false then
        .ok ((c.alloc v).put h { c.nodes h with vsi := vdp22CmpStatus (c.nodes h).vsi v },
          errEinval, false)
      else
        vdp22Modvsi c.ecpRc v.vsiMode (c.nodes h) >>= fun r =>
          .ok ((c.alloc v).put h r.1, r.2, true) := by
  have hne : h ≠ c.next := (hc.lt h (mem_of_findvsi hfind)).ne
  unfold vdp22Addreq
  dsimp only
  rw [Vdp22Ctx.alloc_nodes_self, hc.findvsi_alloc, hfind, if_neg hmode]
  dsimp only
  rw [Vdp22Ctx.alloc_nodes_of_ne c v hne]
  rfl

theorem cameTo_error_alloc (hc : c.Wf) (v : Vsi22) :
    CameTo c v (c.alloc v) errEinval .error := by
  refine ⟨.inl rfl, rfl, fun h hmem => ?_⟩
  rw [Vdp22Ctx.alloc_nodes_of_ne c v (hc.lt h hmem).ne]
  exact ⟨rfl, rfl⟩

theorem cameTo_error_put (hc : c.Wf) (v : Vsi22) {h : Nat} {x : Vsi22Ctx} {rc : Int}
    (hrc : rc = errEinval ∨ rc = errEnodev) (hlive : x.freed = false)
    (hmode : x.vsi.vsiMode = (c.nodes h).vsi.vsiMode) (hsmi : x.vsi.smi = (c.nodes h).vsi.smi) :
    CameTo c v ((c.alloc v).put h x) rc .error := by
  obtain ⟨-, -, halloc⟩ := cameTo_error_alloc hc v
  refine ⟨hrc, ?_, fun i hi => ?_⟩
  · show (if x.freed then _ else c.que) = c.que
    rw [hlive]
    rfl
  · rcases eq_or_ne i h with rfl | hne
    · rw [Vdp22Ctx.put_nodes_self]
      exact ⟨hmode, hsmi⟩
    · rw [Vdp22Ctx.put_nodes_of_ne _ x hne]
      exact halloc i hi

theorem vdp22Addreq_new (hc : c.Wf) {v : Vsi22}
    (hmode : ¬ (v.vsiMode > vdp22Deassoc ∨ v.vsiMode < vdp22Preassoc))
    (hfind : vdp22Findvsi c v = none) :
    vdp22Addreq c.next (c.alloc v) =
      if v.vsiMode = vdp22Deassoc then .ok (c.alloc v, errEinval, false)
      else vdp22Addvsi c.next (c.alloc v) >>= fun y =>
        .ok (y.put c.next (y.nodes c.next).deref, 0, false) := by
  unfold vdp22Addreq
  dsimp only
  rw [Vdp22Ctx.alloc_nodes_self, hc.findvsi_alloc, hfind, if_neg hmode]
  rfl

theorem vdp22CmpStatus_mode (p vsip : Vsi22) : (vdp22CmpStatus p vsip).vsiMode = p.vsiMode := by
  unfold vdp22CmpStatus
  split_ifs <;> rfl

theorem modvsi_iff {confirmed : Bool} (hc : c.Wf) (v : Vsi22) {h : Nat} (hmem : h ∈ c.que) :
    (∃ c' rc modf, (vdp22Modvsi c.ecpRc v.vsiMode (c.nodes h) >>= fun r =>
        .ok ((c.alloc v).put h r.1, r.2, true)) = .ok (c', rc, modf) ∧
      CameTo c v c' rc (tableOutcome confirmed (c.nodes h).vsi h v.vsiMode)) ↔
      TableAgrees confirmed (c.nodes h).vsi v.vsiMode := by
  have hlive := hc.live h hmem
  obtain ⟨⟨y, rc⟩, hy⟩ := vdp22Modvsi_total c.ecpRc v.vsiMode (c.nodes h)
  have hspec := vdp22Modvsi_spec hlive hy
  have hone : (∃ c' rc' modf, (vdp22Modvsi c.ecpRc v.vsiMode (c.nodes h) >>= fun r =>
        .ok ((c.alloc v).put h r.1, r.2, true)) = .ok (c', rc', modf) ∧
      CameTo c v c' rc' (tableOutcome confirmed (c.nodes h).vsi h v.vsiMode)) ↔
      CameTo c v ((c.alloc v).put h y) rc
        (tableOutcome confirmed (c.nodes h).vsi h v.vsiMode) := by
    rw [hy]
    constructor
    · rintro ⟨c', rc', modf, ⟨⟩, hcame⟩
      exact hcame
    · exact fun hcame => ⟨_, _, _, rfl, hcame⟩
  rw [hone, tableOutcome, TableAgrees]
  by_cases hno : (c.nodes h).vsi.flags.deleteMe = true ∨ (c.nodes h).vsi.vsiMode > v.vsiMode
  · rw [if_pos hno] at hspec
    obtain ⟨hrc, rfl⟩ := hspec
    rw [iff_true_right hno]
    by_cases htable : requestTable (currentMode confirmed (c.nodes h).vsi) v.vsiMode = true
    · rw [if_pos htable, htable]
      exact iff_of_false (fun hcame => refusal_ne_zero hrc hcame.1) (by decide)
    · rw [if_neg htable]
      exact iff_of_true (cameTo_error_put hc v hrc hlive rfl rfl) (Bool.eq_false_iff.mpr htable)
  · rw [if_neg hno] at hspec
    obtain ⟨rfl, hrun⟩ := hspec
    rw [iff_false_right hno]
    by_cases htable : requestTable (currentMode confirmed (c.nodes h).vsi) v.vsiMode = true
    · rw [if_pos htable, htable]
      exact iff_of_true ⟨rfl, y, hrun, rfl⟩ (by decide)
    · rw [if_neg htable]
      refine iff_of_false (fun hcame => refusal_ne_zero hcame.1 rfl) (not_not.mpr ?_)
      exact Bool.eq_false_iff.mpr htable

/-- **One call** comes to what is prescribed exactly when it does not get to the table, or the
VSI agrees with it. -/
theorem prescribed_iff (confirmed : Bool) (hc : c.Wf) (v : Vsi22) :
    Prescribed confirmed c v ↔ CallOnTable confirmed c v := by
  unfold Prescribed CallOnTable prescribed
  by_cases hmode : v.vsiMode > vdp22Deassoc ∨ v.vsiMode < vdp22Preassoc
  · have hadd : vdp22Addreq c.next (c.alloc v) = .ok (c.alloc v, errEinval, false) := by
      unfold vdp22Addreq
      rw [Vdp22Ctx.alloc_nodes_self, if_pos hmode]
    rw [if_pos hmode]
    exact iff_of_true ⟨_, _, _, hadd, cameTo_error_alloc hc v⟩ fun h => absurd hmode h
  rw [if_neg hmode]
  cases hfind : vdp22Findvsi c v with
  | none =>
    -- There is no VSI yet: the first column.
    refine iff_of_true ?_ nofun
    rw [vdp22Addreq_new hc hmode hfind]
    by_cases hdeassoc : v.vsiMode = vdp22Deassoc
    · have hrefused : ¬ requestTable .none v.vsiMode = true :=
        fun h => (requestTable_none _).mp h hdeassoc
      rw [if_pos hdeassoc, if_neg hrefused]
      exact ⟨_, _, _, rfl, cameTo_error_alloc hc v⟩
    · obtain ⟨y, hy⟩ : ∃ y, vdp22Addvsi c.next (c.alloc v) = .ok y :=
        Vdp22Ctx.on_total _ _ (vdp22stRun_total _ _)
      rw [if_neg hdeassoc, if_pos ((requestTable_none _).mpr hdeassoc), hy]
      exact ⟨_, _, _, rfl, rfl, y, hy, rfl⟩
  | some h =>
    have hmem := mem_of_findvsi hfind
    have hlive := hc.live h hmem
    have hcond : (¬ (v.vsiMode > vdp22Deassoc ∨ v.vsiMode < vdp22Preassoc) →
        ∀ h', some h = some h' → (c.nodes h').vsi.flags.busy = false →
          vdp22CmpFdata (c.nodes h').vsi v = true →
            TableAgrees confirmed (c.nodes h').vsi v.vsiMode) ↔
        ((c.nodes h).vsi.flags.busy = false → vdp22CmpFdata (c.nodes h).vsi v = true →
          TableAgrees confirmed (c.nodes h).vsi v.vsiMode) := by
      constructor
      · exact fun hall => hall hmode h rfl
      · rintro hone - h' ⟨⟩
        exact hone
    rw [hcond, vdp22Addreq_found hc hmode hfind]
    dsimp only
    by_cases hbusy : (c.nodes h).vsi.flags.busy = true
    · rw [if_pos hbusy, if_pos hbusy]
      refine iff_of_true ⟨_, _, _, rfl, rfl, rfl⟩ fun hidle => ?_
      rw [hbusy] at hidle
      cases hidle
    rw [if_neg hbusy, if_neg hbusy]
    rw [Bool.not_eq_true] at hbusy
    by_cases hcmp : vdp22CmpFdata (c.nodes h).vsi v = false
    · rw [if_pos hcmp, if_pos hcmp]
      refine iff_of_true ⟨_, _, _, rfl, ?_⟩ fun _ htrue => ?_
      · exact cameTo_error_put hc v (.inl rfl) hlive (vdp22CmpStatus_mode _ _)
          (vdp22CmpStatus_smi _ _)
      · rw [hcmp] at htrue
        cases htrue
    rw [if_neg hcmp, if_neg hcmp]
    rw [Bool.not_eq_false] at hcmp
    rw [imp_iff_right hbusy, imp_iff_right hcmp]
    exact modvsi_iff hc v hmem

/-! ### Every run -/

/-- A request that gets to `vdp22_addreq` comes to what is prescribed. -/
def RequestPrescribed (confirmed : Bool) (c : Vdp22Ctx) : Vdp22Event → Prop
  | .request vsi clif => ∀ v, vdp22RequestVsi vsi clif c = .ok v → Prescribed confirmed c v
  | _ => True

/-- The condition on a request -/
def RequestOnTable (confirmed : Bool) (c : Vdp22Ctx) : Vdp22Event → Prop
  | .request vsi clif => ∀ v, vdp22RequestVsi vsi clif c = .ok v → CallOnTable confirmed c v
  | _ => True

/-- **The table.** In every run each request comes to what the table prescribes, exactly when the
deletion mark and the numbers of the modes of every VSI that is asked, idle and with the same
filter entries, say what the table says. -/
theorem requestTable_iff (confirmed : Bool) (role : Vdp22Role) (es : List Vdp22Event) :
    vdp22System.StepsMeet (RequestPrescribed confirmed) (vdp22Create role) es ↔
      vdp22System.StepsMeet (RequestOnTable confirmed) (vdp22Create role) es := by
  refine System.stepsMeet_iff (I := Vdp22Ctx.Wf) ?_ ?_ es _ (vdp22Create_wf role)
  · intro c e hc
    cases e with
    | request vsi clif =>
      exact forall_congr' fun v => imp_congr_right fun _ => prescribed_iff confirmed hc v
    | _ => exact Iff.rfl
  · exact fun c e c' hc _ he => (vdp22Step_moves hc he).wf

/-- The bridge rejects a request. -/
def rejectAnswer (mode : UInt8) (vlan : UInt16) : Vsi22 :=
  { vlanAnswer mode vlan with status := vdp22Ackbit ||| vdp22RespNoResources }

/-- A request of a process, which asks for the answer later -/
def pidRequest (mode : UInt8) (vlan : UInt16) : VdpnlVsi :=
  { vlanVdpnl mode vlan with reqPid := 7 }

/-- A request that the table keeps or moves, behind the events of a run, fails. -/
theorem off_table {es : List Vdp22Event} {vsi : VdpnlVsi} {clif : Bool} {rc : Int}
    (h : ∃ c v c', vdp22System.run (vdp22Create .station) es = .ok c ∧
      vdp22RequestVsi vsi clif c = .ok v ∧ vdp22Addreq c.next (c.alloc v) = .ok (c', rc, true) ∧
      prescribed false c v = .changed 0 ∧ prescribed true c v = .changed 0) (hrc : rc ≠ 0) :
    ∃ c, vdp22System.run (vdp22Create .station) es = .ok c ∧
      ∀ confirmed, ¬ RequestPrescribed confirmed c (.request vsi clif) := by
  obtain ⟨c, v, c', hrun, hv, hadd, hasked, hconfirmed⟩ := h
  refine ⟨c, hrun, fun confirmed hall => ?_⟩
  obtain ⟨c₁, rc₁, modf₁, hadd₁, hcame⟩ := hall v hv
  rw [hadd] at hadd₁
  cases hadd₁
  have hchanged : prescribed confirmed c v = .changed 0 := by
    cases confirmed
    · exact hasked
    · exact hconfirmed
  rw [hchanged] at hcame
  exact hrc hcame.1

/-- A pre-association behind one with resources is refused as invalid, and the repetition of a
request that the bridge rejected is refused as unknown. -/
theorem refused_off_table :
    (∃ c, vdp22System.run (vdp22Create .station)
        [.fromEvb true true, .request (vlanVdpnl vdp22PreassocWithRr 5) true,
          .tlv (vlanAnswer vdp22PreassocWithRr 5)] = .ok c ∧
      ∀ confirmed, ¬ RequestPrescribed confirmed c (.request (vlanVdpnl vdp22Preassoc 5) true)) ∧
    ∃ c, vdp22System.run (vdp22Create .station)
        [.fromEvb true true, .request (pidRequest 2 5) false, .tlv (rejectAnswer vdp22Assoc 5)] =
        .ok c ∧
      ∀ confirmed, ¬ RequestPrescribed confirmed c (.request (pidRequest 2 5) false) := by
  constructor
  · exact off_table ⟨_, _, _, rfl, rfl, rfl, rfl, rfl⟩ (show errEinval ≠ 0 by decide)
  · exact off_table ⟨_, _, _, rfl, rfl, rfl, rfl, rfl⟩ (show errEnodev ≠ 0 by decide)

end Lldpad.Qbg
