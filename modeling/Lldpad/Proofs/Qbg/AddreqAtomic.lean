import Lldpad.Proofs.Qbg.OuiWritten
import Lldpad.Proofs.Qbg.VsiReport

/-!
# `Lldpad.Proofs.Qbg.AddreqAtomic`: a request that is refused

`vdp22_addreq` answers an error where it refuses a request, and the VSIs of the queue should be
as before. Two writes come before a check that may fail. `vdp22_cmp_fdata` leaves a status behind
when an entry does not match. `vdp22_modoui` runs before `vdp22_modvsi`, which may still refuse
the mode.

`addreq_atomic` is one call in a state in which the queue is well-formed, and
`addreqAtomic_iff` is every run.
-/

namespace Lldpad.Qbg

open Lldpad.Lib

variable {δ : Type}

/-! ### The interface without the OUI data -/

variable {c c' : Vdp22OuiCtx δ} {hs : OuiHandlers δ}

theorem vdp22OuiAddreq_vdp {h : Nat} {rc : Int}
    {modf : Bool} (he : vdp22OuiAddreq hs h c = .ok (c', rc, modf)) :
    vdp22Addreq h c.vdp = .ok (c'.vdp, rc, modf) := by
  unfold vdp22OuiAddreq at he
  unfold vdp22Addreq
  dsimp only at he ⊢
  by_cases hmode : (c.vdp.nodes h).vsi.vsiMode > vdp22Deassoc ∨
      (c.vdp.nodes h).vsi.vsiMode < vdp22Preassoc
  · rw [if_pos hmode] at he ⊢
    cases he
    rfl
  rw [if_neg hmode] at he ⊢
  cases hfind : vdp22Findvsi c.vdp (c.vdp.nodes h).vsi with
  | none =>
    rw [hfind] at he
    dsimp only at he ⊢
    split_ifs at he ⊢
    · cases he
      rfl
    · obtain ⟨vdp, hadd, he⟩ := bind_eq_ok.mp he
      cases he
      rw [hadd]
      rfl
  | some p =>
    rw [hfind] at he
    dsimp only at he ⊢
    split_ifs at he ⊢
    · cases he
      rfl
    · cases he
      rfl
    · obtain ⟨⟨ouiStrData, handed⟩, -, he⟩ := bind_eq_ok.mp he
      obtain ⟨⟨x, rc'⟩, hmod, he⟩ := bind_eq_ok.mp he
      cases he
      rw [hmod]
      rfl

/-- An event, without its OUI data -/
def Vdp22OuiEvent.forget : Vdp22OuiEvent δ → Vdp22Event
  | .request vsi clif _ => .request vsi clif
  | .other e => e

/-- `vdp22_request` behind its new node -/
def vdp22RequestNew (v : Vsi22) (c : Vdp22Ctx) : Except Fault (Vdp22Ctx × Int) := do
  let h := c.next
  let (c, rc, modf) ← vdp22Addreq h (c.alloc v)
  pure (if rc ≠ 0 ∨ modf then c.put h (vdp22DeleteVsi (c.nodes h)) else c, rc)

theorem vdp22Request_eq (vsi : VdpnlVsi) (clif : Bool) (c : Vdp22Ctx) :
    vdp22Request vsi clif c =
      match vdp22RequestVsi vsi clif c with
      | .error rc => .ok (c, rc)
      | .ok v => vdp22RequestNew v c := by
  unfold vdp22Request vdp22RequestVsi
  by_cases hevb : c.evbon = false
  · rw [if_pos hevb, if_pos hevb]
  rw [if_neg hevb, if_neg hevb]
  by_cases hrole : c.myrole = .bridge
  · rw [if_pos hrole, if_pos hrole]
  rw [if_neg hrole, if_neg hrole]
  dsimp only
  cases vdp22AllocVsiInt (if clif = true then vsi else { vsi with request := vsi.request + 1 })
    c.gpid true <;> rfl

theorem vdp22OuiRequest_vdp {v : Vsi22} {ouiStrData : List (Vdp22OuiData δ)}
    {rc : Int} (he : vdp22OuiRequest hs v ouiStrData c = .ok (c', rc)) :
    vdp22RequestNew v c.vdp = .ok (c'.vdp, rc) := by
  obtain ⟨⟨c₂, rc', modf⟩, hadd, he⟩ := bind_eq_ok.mp he
  have hvdp : vdp22Addreq c.vdp.next (c.vdp.alloc v) = .ok (c₂.vdp, rc', modf) :=
    vdp22OuiAddreq_vdp hadd
  unfold vdp22RequestNew
  dsimp only
  rw [hvdp, bind_ok]
  dsimp only at he ⊢
  split_ifs at he ⊢ <;> (cases he; rfl)

/-- **The interface with OUI data is the interface.** An event does to the nodes what it does
without the data. -/
theorem vdp22OuiStep_vdp {e : Vdp22OuiEvent δ}
    (he : vdp22OuiStep hs c e = .ok c') : vdp22Step c.vdp e.forget = .ok c'.vdp := by
  cases e with
  | other e =>
    obtain ⟨vdp, hstep, he⟩ := bind_eq_ok.mp he
    cases he
    exact hstep
  | request vsi clif ouiStrData =>
    unfold vdp22OuiStep at he
    dsimp only at he
    have hstep : vdp22Step c.vdp (.request vsi clif) =
        vdp22Request vsi clif c.vdp >>= fun r => pure r.1 := rfl
    rw [Vdp22OuiEvent.forget, hstep, vdp22Request_eq]
    cases hvsi : vdp22RequestVsi vsi clif c.vdp with
    | error rc =>
      rw [hvsi] at he
      cases he
      rfl
    | ok v =>
      rw [hvsi] at he
      obtain ⟨⟨c₁, rc⟩, hreq, he⟩ := bind_eq_ok.mp he
      cases he
      dsimp only
      rw [vdp22OuiRequest_vdp hreq]
      rfl

theorem wf_ouiStep {e : Vdp22OuiEvent δ}
    (hc : c.vdp.Wf) (he : vdp22OuiStep hs c e = .ok c') : c'.vdp.Wf :=
  (vdp22Step_moves hc (vdp22OuiStep_vdp he)).wf

/-! ### One call -/

/-- The VSIs of the queue are as before. -/
structure LeftAlone (c c' : Vdp22OuiCtx δ) : Prop where
  que : c'.vdp.que = c.vdp.que
  vsi : ∀ h ∈ c.vdp.que, (c'.vdp.nodes h).vsi = (c.vdp.nodes h).vsi
  oui : ∀ h ∈ c.vdp.que, c'.oui h = c.oui h

/-- A call for the new node `v` that answers an error leaves the VSIs of the queue alone. -/
def AddreqAtomic (hs : OuiHandlers δ) (c : Vdp22OuiCtx δ) (v : Vsi22)
    (ouiStrData : List (Vdp22OuiData δ)) : Prop :=
  ∀ c' rc modf, vdp22OuiAddreq hs c.vdp.next (c.alloc v ouiStrData) = .ok (c', rc, modf) →
    rc ≠ 0 → LeftAlone c c'

/-- The first entry of the request with a counterpart changes nothing. -/
def FirstKeeps (hs : OuiHandlers δ) (p ouiStrData : List (Vdp22OuiData δ)) : Prop :=
  ∀ from', (counterparts p ouiStrData).head? = some from' → ouiApply hs p from' = p

/-- What a refusal of `v` by the VSI `x` would leave behind is there already: the status behind
filter entries of which one does not match, and the OUI data behind a mode that is refused. -/
def RefusalKeeps (hs : OuiHandlers δ) (x v : Vsi22) (p ouiStrData : List (Vdp22OuiData δ)) : Prop :=
  if vdp22CmpFdata x v = false then x.fdata.length = v.fdata.length → x.status = vdp22RespNoaddr
  else x.flags.deleteMe = true ∨ x.vsiMode > v.vsiMode → FirstKeeps hs p ouiStrData

/-- The condition: the mode is one of the four, and the VSI that is found is not busy, so that
the call gets to the writes. -/
def CallKeeps (hs : OuiHandlers δ) (c : Vdp22OuiCtx δ) (v : Vsi22)
    (ouiStrData : List (Vdp22OuiData δ)) : Prop :=
  ¬ (v.vsiMode > vdp22Deassoc ∨ v.vsiMode < vdp22Preassoc) →
    ∀ h, vdp22Findvsi c.vdp v = some h → (c.vdp.nodes h).vsi.flags.busy = false →
      RefusalKeeps hs (c.vdp.nodes h).vsi v (c.oui h) ouiStrData

theorem vdp22Modoui_first (hs : OuiHandlers δ) (p ouiStrData : List (Vdp22OuiData δ)) :
    (∃ e, vdp22Modoui hs p ouiStrData = .error e ∧ FirstKeeps hs p ouiStrData) ∨
      ∃ q handed, vdp22Modoui hs p ouiStrData = .ok (q, handed) ∧
        (q = p ↔ FirstKeeps hs p ouiStrData) := by
  unfold FirstKeeps
  induction ouiStrData with
  | nil => exact .inr ⟨p, [], rfl, iff_of_true rfl nofun⟩
  | cons from' rest ih =>
    cases hany : p.any fun to' => to'.ouiName == from'.ouiName with
    | false =>
      rw [counterparts_cons_of_none hany, vdp22Modoui, ouiModFirst_none hany]
      exact ih
    | true =>
      rw [counterparts_cons_of_some hany, vdp22Modoui]
      simp only [List.head?_cons, Option.some.injEq, forall_eq']
      unfold ouiApply
      rcases ouiModFirst_some hs hany with ⟨q, hq, -⟩ | ⟨e, he, -⟩
      · rw [hq]
        exact .inr ⟨q, [from'], rfl, Iff.rfl⟩
      · rw [he]
        exact .inl ⟨e, rfl, rfl⟩

theorem leftAlone_alloc {c : Vdp22OuiCtx δ} (hc : c.vdp.Wf) (v : Vsi22)
    (ouiStrData : List (Vdp22OuiData δ)) : LeftAlone c (c.alloc v ouiStrData) where
  que := rfl
  vsi h hmem := by
    show ((c.vdp.alloc v).nodes h).vsi = _
    rw [Vdp22Ctx.alloc_nodes_of_ne _ v (hc.lt h hmem).ne]
  oui h hmem := Function.update_of_ne (hc.lt h hmem).ne ..

/-- A VSI that a refused call leaves as `y`, with `q` for its OUI data, is untouched if neither is
new. -/
theorem leftAlone_put_iff {c : Vdp22OuiCtx δ} (hc : c.vdp.Wf) (v : Vsi22)
    (ouiStrData q : List (Vdp22OuiData δ)) {h : Nat} (hmem : h ∈ c.vdp.que) {y : Vsi22Ctx}
    (hlive : y.freed = false) :
    LeftAlone c { vdp := (c.vdp.alloc v).put h y
                  oui := Function.update (c.alloc v ouiStrData).oui h q } ↔
      y.vsi = (c.vdp.nodes h).vsi ∧ q = c.oui h := by
  constructor
  · intro hun
    have hvsi := hun.vsi h hmem
    have houi := hun.oui h hmem
    dsimp only at hvsi houi
    rw [Vdp22Ctx.put_nodes_self] at hvsi
    rw [Function.update_self] at houi
    exact ⟨hvsi, houi⟩
  · rintro ⟨hvsi, rfl⟩
    have halloc := leftAlone_alloc hc v ouiStrData
    refine ⟨?_, fun i hi => ?_, fun i hi => ?_⟩
    · show (if y.freed then _ else c.vdp.que) = c.vdp.que
      rw [hlive]
      rfl
    · rcases eq_or_ne i h with rfl | hne
      · rw [Vdp22Ctx.put_nodes_self]
        exact hvsi
      · rw [Vdp22Ctx.put_nodes_of_ne _ y hne]
        exact halloc.vsi i hi
    · dsimp only
      rcases eq_or_ne i h with rfl | hne
      · rw [Function.update_self]
      · rw [Function.update_of_ne hne]
        exact halloc.oui i hi

theorem vdp22CmpStatus_eq_iff {x v : Vsi22} (hcmp : vdp22CmpFdata x v = false) :
    vdp22CmpStatus x v = x ↔ (x.fdata.length = v.fdata.length → x.status = vdp22RespNoaddr) := by
  unfold vdp22CmpStatus
  rw [hcmp]
  by_cases hlen : x.fdata.length = v.fdata.length
  · rw [if_pos ⟨hlen, rfl⟩]
    constructor
    · exact fun heq _ => (congrArg Vsi22.status heq).symm
    · intro hstatus
      rw [← hstatus hlen]
  · rw [if_neg fun h => hlen h.1]
    exact iff_of_true rfl fun h => absurd h hlen

/-- A node with a new mode, whose machine runs next -/
def modeChanged (x : Vsi22Ctx) (mode : UInt8) : Vsi22Ctx :=
  let x := x.deref
  let x := { x with vsi := { x.vsi with vsiMode := mode } }
  (x.setSmi fun s => { s with localchg := true }).setFlags fun f =>
    { f with busy := true, nlcmd := true }

theorem vdp22Modvsi_spec {rc rc' : Int} {mode : UInt8} {x y : Vsi22Ctx}
    (hlive : x.freed = false) (h : vdp22Modvsi rc mode x = .ok (y, rc')) :
    if x.vsi.flags.deleteMe = true ∨ x.vsi.vsiMode > mode then
      (rc' = errEinval ∨ rc' = errEnodev) ∧ y = x
    else rc' = 0 ∧ vdp22stRun rc (modeChanged x mode) = .ok y := by
  unfold vdp22Modvsi at h
  have hderef := deref_of_live hlive
  dsimp only at h
  rw [hderef] at h
  split_ifs at h with hdelete hmode
  · cases h
    rw [if_pos (.inl hdelete)]
    exact ⟨.inr rfl, rfl⟩
  · cases h
    rw [if_pos (.inr hmode)]
    exact ⟨.inl rfl, rfl⟩
  · obtain ⟨z, hz, hy⟩ := bind_eq_ok.mp h
    cases hy
    rw [if_neg (not_or.mpr ⟨hdelete, hmode⟩), modeChanged, hderef]
    exact ⟨rfl, hz⟩

theorem refusal_ne_zero {rc : Int} (hrc : rc = errEinval ∨ rc = errEnodev) : rc ≠ 0 := by
  rcases hrc with rfl | rfl <;> decide

/-- **One call** leaves the VSIs of the queue alone when it answers an error, exactly when the
refusal has nothing to leave behind. -/
theorem addreq_atomic (hs : OuiHandlers δ) {c : Vdp22OuiCtx δ} (hc : c.vdp.Wf) (v : Vsi22)
    (ouiStrData : List (Vdp22OuiData δ)) :
    AddreqAtomic hs c v ouiStrData ↔ CallKeeps hs c v ouiStrData := by
  have hself : ((c.alloc v ouiStrData).vdp.nodes c.vdp.next).vsi = v := by
    show ((c.vdp.alloc v).nodes c.vdp.next).vsi = v
    rw [Vdp22Ctx.alloc_nodes_self]
  have hfound : vdp22Findvsi (c.alloc v ouiStrData).vdp v = vdp22Findvsi c.vdp v :=
    hc.findvsi_alloc v v
  have hrefl := leftAlone_alloc hc v ouiStrData
  unfold AddreqAtomic CallKeeps vdp22OuiAddreq
  dsimp only
  rw [hself, hfound]
  by_cases hmode : v.vsiMode > vdp22Deassoc ∨ v.vsiMode < vdp22Preassoc
  · rw [if_pos hmode]
    refine iff_of_true (fun c' rc modf he _ => ?_) fun h => absurd hmode h
    cases he
    exact hrefl
  rw [if_neg hmode]
  cases hfind : vdp22Findvsi c.vdp v with
  | none =>
    refine iff_of_true (fun c' rc modf he hrc => ?_) nofun
    split_ifs at he
    · cases he
      exact hrefl
    · obtain ⟨vdp, -, he⟩ := bind_eq_ok.mp he
      cases he
      exact absurd rfl hrc
  | some h =>
    have hmem := mem_of_findvsi hfind
    have hlive := hc.live h hmem
    have hnode : (c.alloc v ouiStrData).vdp.nodes h = c.vdp.nodes h :=
      Vdp22Ctx.alloc_nodes_of_ne _ v (hc.lt h hmem).ne
    have hnew : (c.alloc v ouiStrData).oui c.vdp.next = ouiStrData := Function.update_self ..
    have hold : (c.alloc v ouiStrData).oui h = c.oui h :=
      Function.update_of_ne (hc.lt h hmem).ne ..
    dsimp only
    rw [hnode, hnew, hold]
    by_cases hbusy : (c.vdp.nodes h).vsi.flags.busy = true
    · rw [if_pos hbusy]
      refine iff_of_true (fun c' rc modf he _ => ?_) fun _ h' hh' hidle => ?_
      · cases he
        exact hrefl
      · cases hh'
        rw [hbusy] at hidle
        cases hidle
    rw [if_neg hbusy]
    rw [Bool.not_eq_true] at hbusy
    have hcond : (¬ (v.vsiMode > vdp22Deassoc ∨ v.vsiMode < vdp22Preassoc) →
        ∀ h', some h = some h' → (c.vdp.nodes h').vsi.flags.busy = false →
          RefusalKeeps hs (c.vdp.nodes h').vsi v (c.oui h') ouiStrData) ↔
        RefusalKeeps hs (c.vdp.nodes h).vsi v (c.oui h) ouiStrData := by
      constructor
      · exact fun hall => hall hmode h rfl hbusy
      · rintro hkeeps - h' ⟨⟩ -
        exact hkeeps
    rw [hcond, RefusalKeeps]
    by_cases hcmp : vdp22CmpFdata (c.vdp.nodes h).vsi v = false
    · -- The comparison of the filter entries refuses the request.
      rw [if_pos hcmp, if_pos hcmp, ← vdp22CmpStatus_eq_iff hcmp]
      have hput := leftAlone_put_iff hc v ouiStrData (c.oui h) hmem
        (y := { c.vdp.nodes h with vsi := vdp22CmpStatus (c.vdp.nodes h).vsi v }) hlive
      have hupdate : Function.update (c.alloc v ouiStrData).oui h (c.oui h) =
          (c.alloc v ouiStrData).oui := Function.update_eq_self_iff.mpr hold.symm
      rw [hupdate] at hput
      constructor
      · exact fun hall => (hput.mp (hall _ _ _ rfl (by decide))).1
      · rintro hsame c' rc modf ⟨⟩ -
        exact hput.mpr ⟨hsame, rfl⟩
    · -- The handlers change the OUI data, and then the mode is checked.
      rw [if_neg hcmp, if_neg hcmp]
      rcases vdp22Modoui_first hs (c.oui h) ouiStrData with ⟨e, herr, hkeeps⟩ |
        ⟨q, handed, hmod, hkeeps⟩
      · rw [herr]
        exact iff_of_true (fun c' rc modf he _ => nomatch he) fun _ => hkeeps
      · rw [hmod, ← hkeeps]
        obtain ⟨⟨y, rc⟩, hvsi⟩ := vdp22Modvsi_total (c.alloc v ouiStrData).vdp.ecpRc v.vsiMode
          (c.vdp.nodes h)
        have hrefused := vdp22Modvsi_spec hlive hvsi
        rw [bind_ok, hvsi]
        by_cases hno : (c.vdp.nodes h).vsi.flags.deleteMe = true ∨
            (c.vdp.nodes h).vsi.vsiMode > v.vsiMode
        · rw [if_pos hno] at hrefused
          obtain ⟨hrc, rfl⟩ := hrefused
          have hput := leftAlone_put_iff hc v ouiStrData q hmem hlive
          constructor
          · exact fun hall _ => (hput.mp (hall _ _ _ rfl (refusal_ne_zero hrc))).2
          · rintro hsame c' rc' modf ⟨⟩ -
            exact hput.mpr ⟨rfl, hsame hno⟩
        · rw [if_neg hno] at hrefused
          refine iff_of_true ?_ fun h => absurd h hno
          rintro c' rc' modf ⟨⟩ hrc
          exact absurd hrefused.1 hrc

/-! ### Every run -/

/-- A request that gets to `vdp22_addreq` leaves the VSIs of the queue alone when it is refused
there. -/
def RequestAtomic (hs : OuiHandlers δ) (c : Vdp22OuiCtx δ) : Vdp22OuiEvent δ → Prop
  | .request vsi clif ouiStrData =>
    ∀ v, vdp22RequestVsi vsi clif c.vdp = .ok v → AddreqAtomic hs c v ouiStrData
  | .other _ => True

/-- The condition on a request -/
def RequestKeeps (hs : OuiHandlers δ) (c : Vdp22OuiCtx δ) : Vdp22OuiEvent δ → Prop
  | .request vsi clif ouiStrData =>
    ∀ v, vdp22RequestVsi vsi clif c.vdp = .ok v → CallKeeps hs c v ouiStrData
  | .other _ => True

/-- **Refused requests.** In every run of an interface, whatever the handlers do, each refused
request leaves the VSIs of the queue as they are, exactly when each request that is refused for a
filter entry finds the status there already, and each that is refused for its mode has no OUI
data that a handler changes first. -/
theorem addreqAtomic_iff (hs : OuiHandlers δ) (role : Vdp22Role) (es : List (Vdp22OuiEvent δ)) :
    (vdp22OuiSystem hs).StepsMeet (RequestAtomic hs) { vdp := vdp22Create role } es ↔
      (vdp22OuiSystem hs).StepsMeet (RequestKeeps hs) { vdp := vdp22Create role } es := by
  refine System.stepsMeet_iff (I := fun c => c.vdp.Wf) ?_ ?_ es _ (vdp22Create_wf role)
  · intro c e hc
    cases e with
    | other e => exact Iff.rfl
    | request vsi clif ouiStrData =>
      exact forall_congr' fun v => imp_congr_right fun _ => addreq_atomic hs hc v ouiStrData
  · exact fun c e c' hc _ he => wf_ouiStep hc he

/-- A request for the VLAN `vlan`, with an entry of the name `name` -/
def ouiRequest (mode : UInt8) (vlan : UInt16) (name : UInt8) : Vdp22OuiEvent VdpCiscoOui :=
  .request (vlanVdpnl mode vlan) true [namedOui name]

/-- A VSI that the bridge pre-associated with resources -/
def preassociated : List (Vdp22OuiEvent VdpCiscoOui) :=
  [.other (.fromEvb true true), ouiRequest vdp22PreassocWithRr 5 97,
    .other (.tlv (vlanAnswer vdp22PreassocWithRr 5))]

theorem not_requestAtomic {c : Vdp22OuiCtx VdpCiscoOui} {vsi : VdpnlVsi} {clif : Bool}
    {ouiStrData : List (Vdp22OuiData VdpCiscoOui)} {v : Vsi22}
    {c' : Vdp22OuiCtx VdpCiscoOui} {modf : Bool}
    (hv : vdp22RequestVsi vsi clif c.vdp = .ok v)
    (hadd : vdp22OuiAddreq ouiHandlers c.vdp.next (c.alloc v ouiStrData) =
      .ok (c', errEinval, modf))
    (hmem : 0 ∈ c.vdp.que)
    (hne : (c'.vdp.nodes 0).vsi.status ≠ (c.vdp.nodes 0).vsi.status ∨ c'.oui 0 ≠ c.oui 0) :
    ¬ RequestAtomic ouiHandlers c (.request vsi clif ouiStrData) := by
  intro hall
  have hun := hall v hv c' errEinval modf hadd (by decide)
  rcases hne with hstatus | houi
  · exact hstatus (congrArg Vsi22.status (hun.vsi 0 hmem))
  · exact houi (hun.oui 0 hmem)

/-- A request without resources is refused, and changes the OUI data. A request for another VLAN
is refused, and leaves a status behind. -/
theorem refused_not_atomic :
    ∃ c, (vdp22OuiSystem ouiHandlers).run { vdp := vdp22Create .station } preassociated = .ok c ∧
      ¬ RequestAtomic ouiHandlers c (ouiRequest vdp22Preassoc 5 98) ∧
      ¬ RequestAtomic ouiHandlers c (ouiRequest vdp22Assoc 6 97) := by
  obtain ⟨c, v, w, c₁, c₂, hrun, hmem, hv, hadd, houi, hw, hadd', hstatus⟩ : ∃ c v w c₁ c₂,
      (vdp22OuiSystem ouiHandlers).run { vdp := vdp22Create .station } preassociated = .ok c ∧
      0 ∈ c.vdp.que ∧
      vdp22RequestVsi (vlanVdpnl vdp22Preassoc 5) true c.vdp = .ok v ∧
      vdp22OuiAddreq ouiHandlers c.vdp.next (c.alloc v [namedOui 98]) =
        .ok (c₁, errEinval, true) ∧
      c₁.oui 0 ≠ c.oui 0 ∧
      vdp22RequestVsi (vlanVdpnl vdp22Assoc 6) true c.vdp = .ok w ∧
      vdp22OuiAddreq ouiHandlers c.vdp.next (c.alloc w [namedOui 97]) =
        .ok (c₂, errEinval, false) ∧
      (c₂.vdp.nodes 0).vsi.status ≠ (c.vdp.nodes 0).vsi.status :=
    ⟨_, _, _, _, _, rfl, List.mem_cons_self .., rfl, rfl, by decide, rfl, rfl, by decide⟩
  exact ⟨c, hrun, not_requestAtomic hv hadd hmem (.inr houi),
    not_requestAtomic hw hadd' hmem (.inl hstatus)⟩

end Lldpad.Qbg
