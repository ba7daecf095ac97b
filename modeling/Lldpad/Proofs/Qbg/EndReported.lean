import Lldpad.Proofs.Qbg.StatusDump
import Lldpad.Proofs.Qbg.VsiReport

/-!
# `Lldpad.Proofs.Qbg.EndReported`: the end of a VSI is reported once

The requestor of a VSI learns of its end by a message, when the VSI ends, or by a poll, when it is
a netlink client. Then the VSI leaves the queue, and the same VSI can be requested again.

* `EndGuard`: what must not happen. A VSI of a netlink client must not end before the bridge
  answered, a dump of the control interface must not meet an ended VSI, and no timer may run on a
  VSI that is gone.
* `StepSpec`: what one step preserves and how often it reports.
* `endHandled_of_guarded`: the same for a whole run.
-/

namespace Lldpad.Qbg

open Lldpad.Lib

/-! ### Reports -/

/-- The VSI that a request asks for, if the instance takes requests. -/
def Vdp22Ctx.requested (c : Vdp22Ctx) (vsi : VdpnlVsi) (clif : Bool) : Option Vsi22 :=
  if c.evbon = false ∨ c.myrole = .bridge then none
  else
    let vsi := if clif then vsi else { vsi with request := vsi.request + 1 }
    (vdp22AllocVsiInt vsi c.gpid true).toOption

/-- The node that an event works on. A request for an unknown VSI works on the new node. -/
def Vdp22Ctx.target (c : Vdp22Ctx) : Vdp22Event → Option Nat
  | .request vsi clif => (c.requested vsi clif).map fun v => (vdp22Findvsi c v).getD c.next
  | .status number _ => if number = 0 then none else c.que[number - 1]?
  | .tlv vsip => vdp22Findvsi c vsip
  | .timer _ h => some h
  | _ => none

/-- How often a step reports the end of the VSI `h` to its requestor: by messages, or by the
answer to the poll of a netlink client. -/
def endReports (c : Vdp22Ctx) (e : Vdp22Event) (c' : Vdp22Ctx) (h : Nat) : Nat :=
  if c.target e = some h ∧ (c'.nodes h).ended = true then
    match e with
    | .status _ clif => if clif = false ∧ (c.nodes h).vsi.status ≠ vdp22RespNone then 1 else 0
    | _ => (c'.back.drop c.back.length).count (endMsg (c'.nodes h).vsi)
  else 0

/-- How often a run reports the end of the VSI `h`. -/
def runReports : Vdp22Ctx → List Vdp22Event → Nat → Nat
  | _, [], _ => 0
  | c, e :: es, h =>
    match vdp22Step c e with
    | .error _ => 0
    | .ok c' => endReports c e c' h + runReports c' es h

/-! ### The condition -/

/-- The requestor polls: it is a netlink client. -/
def polls (v : Vsi22) : Prop := havepid v ≠ 0

/-- A mode that asks for an association -/
def associates (v : Vsi22) : Prop := vdp22Preassoc ≤ v.vsiMode ∧ v.vsiMode < vdp22Deassoc

/-- A VSI of a netlink client does not end before the bridge has answered: its first message is
not refused, and its ack timer does not expire. The control interface does not poll an ended VSI
of a netlink client. The timer of a local change does not run on a VSI that was removed. -/
def EndGuard (c : Vdp22Ctx) : Vdp22Event → Prop
  | .request vsi clif => ∀ v, c.requested vsi clif = some v → associates v →
      vdp22Findvsi c v = none → polls v → c.ecpRc = 0
  | .timer .ackto h => (c.nodes h).timers.ackto ≠ 0 → (c.nodes h).freed = false →
      polls (c.nodes h).vsi → (c.nodes h).vsi.status ≠ vdp22RespNone
  | .timer .localchange h => (c.nodes h).timers.localchange ≠ 0 → (c.nodes h).freed = true →
      (c.nodes h).vsi.smi.localchg = false
  | .status number true => ∀ h, c.target (.status number true) = some h →
      (c.nodes h).ended = false
  | _ => True

/-! ### One step -/

/-- The VSI ended and left the queue. -/
def Vsi22Ctx.gone (x : Vsi22Ctx) : Bool := x.ended && x.freed

/-- What holds between two events -/
structure EndInv (c : Vdp22Ctx) : Prop where
  wf : c.Wf
  role : c.myrole = .station
  node : ∀ h < c.next, EndNode (c.nodes h)
  live : ∀ h < c.next, (h ∈ c.que ↔ (c.nodes h).freed = false)
  older : ∀ i ∈ c.que, ∀ h < c.next, h ∈ c.que ∨ (c.nodes h).gone = true →
    vsiKey (c.nodes h).vsi = vsiKey (c.nodes i).vsi → h ≤ i

/-- What a step does, and how often it reports the end of a VSI. -/
structure StepSpec (c : Vdp22Ctx) (e : Vdp22Event) (c' : Vdp22Ctx) : Prop where
  inv : EndInv c'
  next : c.next ≤ c'.next
  reports : ∀ h, endReports c e c' h = if (c'.nodes h).gone && !(c.nodes h).gone then 1 else 0
  gone : ∀ h, (c.nodes h).gone = true → (c'.nodes h).gone = true

variable {c' : Vdp22Ctx} {y x : Vsi22Ctx} {vsi : VdpnlVsi} {clif : Bool} {h t : Nat}

theorem gone_iff : x.gone = true ↔ x.ended = true ∧ x.freed = true := by
  unfold Vsi22Ctx.gone
  rw [Bool.and_eq_true]

theorem EndNode.reset (hy : EndNode y) : EndNode y.reset :=
  ⟨hy.foreign, hy.rest, hy.waiting, hy.running, hy.stopped, hy.gone⟩

variable {c : Vdp22Ctx} {e : Vdp22Event} {v : Vsi22}

theorem mem_put_of_ne {i : Nat} (y : Vsi22Ctx) (hne : i ≠ h) :
    i ∈ (c.put h y).que ↔ i ∈ c.que := by
  unfold Vdp22Ctx.put
  split_ifs
  · exact List.mem_erase_of_ne hne
  · rfl

theorem mem_put_self (hc : c.Wf) (y : Vsi22Ctx) :
    h ∈ (c.put h y).que ↔ h ∈ c.que ∧ y.freed = false := by
  unfold Vdp22Ctx.put
  split_ifs with hfreed
  · simp [hfreed, hc.nodup.not_mem_erase]
  · simp [hfreed]

/-- What a step makes of the node that it works on -/
structure NodeSpec (x y : Vsi22Ctx) : Prop where
  key : vsiKey y.vsi = vsiKey x.vsi
  node : EndNode y
  freed : x.freed = true → y.freed = true ∧ y.ended = x.ended
  removed : x.freed = false → y.freed = true → y.ended = true

theorem NodeStep.spec (h : NodeStep x y) : NodeSpec x y :=
  ⟨h.key, h.node, fun hf => ⟨(h.freed hf).1, (h.freed hf).2.1⟩, h.removed⟩

theorem EndInv.put (hc : EndInv c) (hlt : t < c.next)
    (hy : NodeSpec (c.nodes t) y) : EndInv (c.put t y) := by
  have hself : (c.put t y).nodes t = y.reset := Vdp22Ctx.put_nodes_self c t y
  have hother := fun i (hne : i ≠ t) => Vdp22Ctx.put_nodes_of_ne c y hne
  have hkey : ∀ i, vsiKey ((c.put t y).nodes i).vsi = vsiKey (c.nodes i).vsi := by
    intro i
    rcases eq_or_ne i t with rfl | hne
    · rw [hself]
      exact hy.key
    · rw [hother i hne]
  refine ⟨hc.wf.put fun hle => absurd hlt (Nat.not_lt.mpr hle), hc.role, fun h hh => ?_,
    fun h hh => ?_, fun i hi h hh hgone heq => ?_⟩
  · rcases eq_or_ne h t with rfl | hne
    · rw [hself]
      exact hy.node.reset
    · rw [hother h hne]
      exact hc.node h hh
  · rcases eq_or_ne h t with rfl | hne
    · rw [mem_put_self hc.wf, hself, hc.live h hlt]
      constructor
      · exact fun hboth => hboth.2
      · intro hfreed
        refine ⟨?_, hfreed⟩
        cases hx : (c.nodes h).freed with
        | false => rfl
        | true => exact Bool.noConfusion (hfreed.symm.trans (hy.freed hx).1)
    · rw [mem_put_of_ne y hne, hother h hne]
      exact hc.live h hh
  · rw [hkey, hkey] at heq
    refine hc.older i (Vdp22Ctx.mem_of_mem_put hi) h hh ?_ heq
    rcases hgone with hmem | hgone
    · exact .inl (Vdp22Ctx.mem_of_mem_put hmem)
    · rcases eq_or_ne h t with rfl | hne
      · cases hx : (c.nodes h).freed with
        | false => exact .inl ((hc.live h hlt).mpr hx)
        | true =>
          rw [hself, gone_iff] at hgone
          exact .inr (gone_iff.mpr ⟨(hy.freed hx).2 ▸ hgone.1, hx⟩)
      · rw [hother h hne] at hgone
        exact .inr hgone

/-- An event works on a VSI of the memory, and may send messages about it. -/
theorem EndInv.step_put (hc : EndInv c)
    (htarget : c.target e = some t) (hevent : ∀ number clif, e ≠ .status number clif)
    (hlt : t < c.next) (hy : NodeStep (c.nodes t) y) : StepSpec c e (c.put t y) := by
  have hself : (c.put t y).nodes t = y.reset := Vdp22Ctx.put_nodes_self c t y
  have hsaid : (c.put t y).back.drop c.back.length = y.back := List.drop_left
  have hcount : endReports c e (c.put t y) t =
      if y.ended = true then y.back.count (endMsg y.vsi) else 0 := by
    have heq : endReports c e (c.put t y) t = if c.target e = some t ∧
        ((c.put t y).nodes t).ended = true then
      ((c.put t y).back.drop c.back.length).count (endMsg ((c.put t y).nodes t).vsi) else 0 := by
      cases e with
      | status number clif => exact absurd rfl (hevent number clif)
      | _ => rfl
    have hended : y.reset.ended = y.ended := rfl
    rw [heq, hsaid, hself, htarget, hended]
    simp only [true_and]
    rfl
  have hgone : (c.nodes t).gone = true → y.gone = true := by
    rw [gone_iff, gone_iff]
    intro ⟨hended, hfreed⟩
    exact ⟨hy.ended hended, (hy.freed hfreed).1⟩
  refine ⟨hc.put hlt hy.spec, Nat.le_refl _, fun h => ?_, fun h hg => ?_⟩
  · rcases eq_or_ne h t with rfl | hne
    · rw [hcount, hself]
      have hreset : y.reset.gone = y.gone := rfl
      rw [hreset]
      cases hx : (c.nodes h).freed with
      | true =>
        obtain ⟨hfreed, hended, hback⟩ := hy.freed hx
        have hsame : y.gone = (c.nodes h).gone := by
          unfold Vsi22Ctx.gone
          rw [hfreed, hx, hended]
        rw [hback, hsame]
        simp
      | false =>
        have hbefore : (c.nodes h).gone = false := by
          unfold Vsi22Ctx.gone
          rw [hx, Bool.and_false]
        rw [hbefore]
        cases hended : y.ended with
        | false =>
          have hno : y.gone = false := by
            unfold Vsi22Ctx.gone
            rw [hended, Bool.false_and]
          rw [hno]
          rfl
        | true =>
          have hall : y.gone = y.freed := by
            unfold Vsi22Ctx.gone
            rw [hended, Bool.true_and]
          rw [if_pos rfl, hy.told hx hended, hall]
          simp
    · have hno : ¬ (c.target e = some h ∧ ((c.put t y).nodes h).ended = true) := by
        rintro ⟨hsame, -⟩
        exact hne (Option.some.inj (hsame.symm.trans htarget))
      unfold endReports
      rw [if_neg hno, Vdp22Ctx.put_nodes_of_ne c y hne]
      simp
  · rcases eq_or_ne h t with rfl | hne
    · rw [hself]
      exact hgone hg
    · rw [Vdp22Ctx.put_nodes_of_ne c y hne]
      exact hg

theorem endReports_silent {c : Vdp22Ctx}
    (hevent : ∀ number clif, e ≠ .status number clif) (hback : c'.back = c.back) (h : Nat) :
    endReports c e c' h = 0 := by
  unfold endReports
  split_ifs
  · cases e with
    | status number clif => exact absurd rfl (hevent number clif)
    | _ => simp [hback]
  · rfl

theorem EndInv.step_quiet {c : Vdp22Ctx} (hc : EndInv c)
    (hzero : ∀ h, endReports c e c' h = 0) (hwf : c'.Wf)
    (hrole : c'.myrole = c.myrole) (hque : c'.que = c.que) (hnext : c'.next = c.next)
    (hnodes : ∀ h < c.next, EndNode (c'.nodes h) ∧
      vsiKey (c'.nodes h).vsi = vsiKey (c.nodes h).vsi ∧
      (c'.nodes h).freed = (c.nodes h).freed ∧ (c'.nodes h).ended = (c.nodes h).ended) :
    StepSpec c e c' := by
  have hgone : ∀ h, (c'.nodes h).gone = (c.nodes h).gone := by
    intro h
    unfold Vsi22Ctx.gone
    rcases Nat.lt_or_ge h c.next with hlt | hge
    · rw [(hnodes h hlt).2.2.1, (hnodes h hlt).2.2.2]
    · rw [hwf.fresh h (hnext ▸ hge), hc.wf.fresh h hge]
  refine ⟨⟨hwf, hrole.trans hc.role, fun h hh => ?_, fun h hh => ?_,
    fun i hi h hh hg heq => ?_⟩, Nat.le_of_eq hnext.symm, fun h => ?_, fun h => ?_⟩
  · exact (hnodes h (hnext ▸ hh)).1
  · rw [hque, (hnodes h (hnext ▸ hh)).2.2.1]
    exact hc.live h (hnext ▸ hh)
  · rw [hnext] at hh
    rw [hque] at hi hg
    rw [hgone] at hg
    rw [(hnodes h hh).2.1, (hnodes i (hc.wf.lt i hi)).2.1] at heq
    exact hc.older i hi h hh hg heq
  · rw [hzero, hgone]
    simp
  · rw [hgone]
    exact id

/-- Behind a step, a new node that is refused comes and goes. -/
theorem StepSpec.refuse {c c₁ : Vdp22Ctx} (h₁ : StepSpec c e c₁)
    (hsmi : v.smi = {}) (hwf : c'.Wf) (hrole : c'.myrole = c₁.myrole)
    (hque : c'.que = c₁.que) (hback : c'.back = c₁.back) (hnext₁ : c₁.next = c.next)
    (hnext : c'.next = c.next + 1) (hnew : c'.nodes c.next = (vdp22DeleteVsi { vsi := v }).reset)
    (hold : ∀ h, h ≠ c.next → c'.nodes h = c₁.nodes h) : StepSpec c e c' := by
  have hended : (c'.nodes c.next).ended = false := by
    rw [hnew]
    show decide ((vdp22DeleteVsi { vsi := v }).vsi.smi.state = _) = false
    rw [deleteVsi_vsi, hsmi]
    rfl
  have hfreed : (c'.nodes c.next).freed = true := by
    rw [hnew]
    rfl
  have hgone : ∀ h, (c'.nodes h).gone = (c₁.nodes h).gone := by
    intro h
    rcases eq_or_ne h c.next with rfl | hne
    · unfold Vsi22Ctx.gone
      rw [hended, h₁.inv.wf.fresh c.next (Nat.le_of_eq hnext₁)]
      rfl
    · rw [hold h hne]
  have hin : ∀ i ∈ c₁.que, i ≠ c.next := fun i hi => by
    have hlt := h₁.inv.wf.lt i hi
    omega
  refine ⟨⟨hwf, hrole.trans h₁.inv.role, fun h hh => ?_, fun h hh => ?_,
    fun i hi h hh hg heq => ?_⟩, by omega, fun h => ?_, fun h hg => ?_⟩
  · rcases eq_or_ne h c.next with rfl | hne
    · refine ⟨?_, ?_, fun hf => ?_, fun hf => ?_, fun hend => ?_, fun _ _ => ?_⟩
      · rw [hnew]
        show NoForeignTimers (vdp22DeleteVsi { vsi := v }).timers _
        rw [deleteVsi_timers]
        exact ⟨rfl, rfl⟩
      · rw [hnew]
        show AtRest (vdp22DeleteVsi { vsi := v }).vsi.smi
        rw [deleteVsi_vsi, hsmi]
        trivial
      · exact Bool.noConfusion (hf.symm.trans hfreed)
      · exact Bool.noConfusion (hf.symm.trans hfreed)
      · exact Bool.noConfusion (hended.symm.trans hend)
      · rw [hnew]
        exact deleteVsi_timers _
    · rw [hold h hne]
      exact h₁.inv.node h (by omega)
  · rw [hque]
    rcases eq_or_ne h c.next with rfl | hne
    · rw [hfreed]
      exact ⟨fun hmem => absurd rfl (hin _ hmem), fun hno => Bool.noConfusion hno⟩
    · rw [hold h hne]
      exact h₁.inv.live h (by omega)
  · rw [hque] at hi hg
    have hhne : h ≠ c.next := by
      rintro rfl
      rcases hg with hmem | hg
      · exact hin _ hmem rfl
      · rw [gone_iff, hended] at hg
        exact Bool.noConfusion hg.1
    rw [hold h hhne] at heq hg
    rw [hold i (hin i hi)] at heq
    exact h₁.inv.older i hi h (by omega) hg heq
  · rw [hgone, ← h₁.reports h]
    unfold endReports
    rcases eq_or_ne h c.next with rfl | hne
    · have hno : (c₁.nodes c.next).ended = false := by
        rw [h₁.inv.wf.fresh c.next (Nat.le_of_eq hnext₁)]
        rfl
      rw [hended, hno]
      simp
    · rw [hold h hne, hback]
  · rw [hgone]
    exact h₁.gone h hg

/-- A node that is the same but for its messages and the count of its accesses -/
structure SameNode (x y : Vsi22Ctx) : Prop where
  vsi : y.vsi = x.vsi
  timers : y.timers = x.timers
  freed : y.freed = x.freed

theorem SameNode.ended (h : SameNode x y) : y.ended = x.ended := by
  unfold Vsi22Ctx.ended
  rw [h.vsi]

theorem SameNode.node (h : SameNode x y) (hx : EndNode x) : EndNode y := by
  refine ⟨?_, ?_, ?_, ?_, ?_, ?_⟩
  · rw [h.timers]
    exact hx.foreign
  · rw [h.vsi]
    exact hx.rest
  · rw [h.freed, h.ended, h.vsi]
    exact hx.waiting
  · rw [h.freed, h.ended, h.vsi]
    exact hx.running
  · rw [h.ended, h.timers]
    exact hx.stopped
  · rw [h.freed, h.ended, h.timers]
    exact hx.gone

/-- A request makes a new VSI. -/
theorem EndInv.step_new {c : Vdp22Ctx} (hc : EndInv c) (htarget : c.target e = some c.next)
    (hevent : ∀ number clif, e ≠ .status number clif) (hfind : vdp22Findvsi c v = none)
    (hx : x.freed = false) (hkey : vsiKey x.vsi = vsiKey v) (hy : NodeStep x y)
    (hwf : c'.Wf) (hrole : c'.myrole = c.myrole) (hnext : c'.next = c.next + 1)
    (hque : ∀ i, i ∈ c'.que ↔ i ∈ c.que ∨ i = c.next ∧ y.freed = false)
    (hback : c'.back = c.back ++ y.back) (hnew : SameNode y (c'.nodes c.next))
    (hold : ∀ h, h ≠ c.next → c'.nodes h = c.nodes h) : StepSpec c e c' := by
  have hin : ∀ i ∈ c.que, i ≠ c.next := fun i hi => by
    have hlt := hc.wf.lt i hi
    omega
  have hunknown : ∀ i ∈ c.que, vsiKey (c'.nodes c.next).vsi ≠ vsiKey (c'.nodes i).vsi := by
    intro i hi heq
    rw [hnew.vsi, hy.key, hkey, hold i (hin i hi)] at heq
    have hno := List.find?_eq_none.mp hfind i hi
    exact hno ((vdp22VsiEqual_iff _ _).mpr heq.symm)
  have hnone : (c.nodes c.next).gone = false := by
    rw [hc.wf.fresh c.next (Nat.le_refl _)]
    rfl
  refine ⟨⟨hwf, hrole.trans hc.role, fun h hh => ?_, fun h hh => ?_,
    fun i hi h hh hg heq => ?_⟩, by omega, fun h => ?_, fun h hg => ?_⟩
  · rcases eq_or_ne h c.next with rfl | hne
    · exact hnew.node hy.node
    · rw [hold h hne]
      exact hc.node h (by omega)
  · rw [hque]
    rcases eq_or_ne h c.next with rfl | hne
    · rw [hnew.freed]
      exact ⟨fun hmem => hmem.elim (fun hmem => absurd rfl (hin _ hmem)) fun h => h.2,
        fun hno => .inr ⟨rfl, hno⟩⟩
    · rw [hold h hne, ← hc.live h (by omega)]
      exact ⟨fun hmem => hmem.resolve_right fun h => hne h.1, .inl⟩
  · rcases (hque i).mp hi with hi | ⟨rfl, -⟩
    · rcases eq_or_ne h c.next with rfl | hne
      · exact absurd heq (hunknown i hi)
      · rw [hold h hne, hold i (hin i hi)] at heq
        rw [hold h hne] at hg
        refine hc.older i hi h (by omega) (hg.imp_left fun hmem => ?_) heq
        exact ((hque h).mp hmem).resolve_right fun h => hne h.1
    · omega
  · unfold endReports
    rcases eq_or_ne h c.next with rfl | hne
    · have hgone : (c'.nodes c.next).gone = y.gone := by
        unfold Vsi22Ctx.gone
        rw [hnew.ended, hnew.freed]
      rw [htarget, hnew.ended, hgone, hnone, hnew.vsi, hback, List.drop_left]
      unfold Vsi22Ctx.gone
      cases hended : y.ended with
      | false => simp
      | true =>
        have htold := hy.told hx hended
        cases e with
        | status number clif => exact absurd rfl (hevent number clif)
        | _ => simpa using htold
    · have hno : ¬ (c.target e = some h ∧ (c'.nodes h).ended = true) := by
        rintro ⟨hsame, -⟩
        exact hne (Option.some.inj (hsame.symm.trans htarget))
      rw [if_neg hno, hold h hne]
      simp
  · have hne : h ≠ c.next := by
      rintro rfl
      exact Bool.noConfusion (hnone.symm.trans hg)
    rw [hold h hne]
    exact hg

/-! ### A poll -/

theorem copyVsi_kept (v : Vsi22) (clif : Bool) :
    ∃ nlcmd returnVid, (copyVsi {} v clif).1 =
      { v with flags := { v.flags with nlcmd := nlcmd, returnVid := returnVid } } := by
  unfold copyVsi
  dsimp only
  split_ifs
  · exact ⟨_, _, rfl⟩
  · exact ⟨false, v.flags.returnVid, rfl⟩

/-- A query removes a VSI that ended, and changes two flags of another one. -/
theorem vdp22StatusHit_spec (hx : EndNode x) (hlive : x.freed = false) (clif : Bool) :
    NodeSpec x (vdp22StatusHit clif x) ∧ (vdp22StatusHit clif x).freed = x.ended ∧
      (vdp22StatusHit clif x).ended = x.ended ∧ (vdp22StatusHit clif x).back = x.back := by
  obtain ⟨nlcmd, returnVid, hcopy⟩ := copyVsi_kept x.vsi clif
  let u : Vsi22Ctx := { x with vsi := (copyVsi {} x.vsi clif).1 }
  have hulive : u.freed = false := hlive
  have hstatus : u.vsi.status = x.vsi.status := congrArg (·.status) hcopy
  have hdelete : u.vsi.flags.deleteMe = x.vsi.flags.deleteMe := congrArg (·.flags.deleteMe) hcopy
  have hkey : vsiKey u.vsi = vsiKey x.vsi := Eq.trans (congrArg vsiKey hcopy) rfl
  have hsmi : u.vsi.smi = x.vsi.smi := congrArg (·.smi) hcopy
  have hsame : u.ended = x.ended := by
    unfold Vsi22Ctx.ended
    rw [hsmi]
  have hhit : vdp22StatusHit clif x =
      if u.vsi.status ≠ vdp22RespNone ∧ u.vsi.flags.deleteMe = true then vdp22ListdelVsi u
      else u := by
    unfold vdp22StatusHit
    rw [deref_of_live hlive]
  rw [hstatus, hdelete] at hhit
  cases hended : x.ended with
  | true =>
    obtain ⟨hmark, -, hsome, -⟩ := hx.waiting hlive hended
    rw [if_pos ⟨hsome, hmark⟩] at hhit
    have hgone : vdp22ListdelVsi u = { u with freed := true } := by
      unfold vdp22ListdelVsi vdp22DeleteVsi
      rw [deref_of_live hulive]
    rw [hhit, hgone]
    refine ⟨⟨hkey, ⟨hx.foreign, ?_, nofun, nofun, ?_, ?_⟩, ?_, ?_⟩, rfl, ?_, rfl⟩
    · show AtRest u.vsi.smi
      rw [hsmi]
      exact hx.rest
    · exact fun _ => hx.stopped hended
    · intro _ hno
      exact Bool.noConfusion (hno.symm.trans (hsame.trans hended))
    · exact fun hf => Bool.noConfusion (hlive.symm.trans hf)
    · exact fun _ _ => hsame.trans hended
    · exact hsame.trans hended
  | false =>
    obtain ⟨hkeep, hwait⟩ := hx.running hlive hended
    rw [if_neg (by simp [hkeep])] at hhit
    have hopen : u.ended = false := hsame.trans hended
    rw [hhit]
    refine ⟨⟨hkey, ⟨hx.foreign, ?_, ?_, ?_, ?_, ?_⟩, ?_, ?_⟩, hlive, hopen, rfl⟩
    · rw [hsmi]
      exact hx.rest
    · exact fun _ h => Bool.noConfusion (hopen.symm.trans h)
    · intro _ _
      rw [hdelete, hstatus, hsmi]
      exact ⟨hkeep, hwait⟩
    · exact fun h => Bool.noConfusion (hopen.symm.trans h)
    · exact fun hf => Bool.noConfusion (hulive.symm.trans hf)
    · exact fun hf => Bool.noConfusion (hlive.symm.trans hf)
    · exact fun _ hf => Bool.noConfusion (hulive.symm.trans hf)

/-- A poll of a netlink client, or a dump that meets no VSI that ended -/
theorem EndInv.step_poll (hc : EndInv c) {number : Nat}
    (htarget : c.target (.status number clif) = some t) (hmem : t ∈ c.que)
    (hguard : clif = true → (c.nodes t).ended = false) :
    StepSpec c (.status number clif) (c.put t (vdp22StatusHit clif (c.nodes t))) := by
  have hlive := hc.wf.live t hmem
  have hlt := hc.wf.lt t hmem
  obtain ⟨hspec, hfreed, hended, -⟩ := vdp22StatusHit_spec (hc.node t hlt) hlive clif
  have hself := Vdp22Ctx.put_nodes_self c t (vdp22StatusHit clif (c.nodes t))
  have hgone : ((c.put t (vdp22StatusHit clif (c.nodes t))).nodes t).gone = (c.nodes t).ended := by
    rw [hself]
    show ((vdp22StatusHit clif (c.nodes t)).ended && (vdp22StatusHit clif (c.nodes t)).freed) = _
    rw [hfreed, hended, Bool.and_self]
  have hbefore : (c.nodes t).gone = false := by
    unfold Vsi22Ctx.gone
    rw [hlive, Bool.and_false]
  refine ⟨hc.put hlt hspec, Nat.le_refl _, fun h => ?_, fun h hg => ?_⟩
  · rcases eq_or_ne h t with rfl | hne
    · rw [hgone, hbefore]
      have hsame : ((c.put h (vdp22StatusHit clif (c.nodes h))).nodes h).ended =
          (c.nodes h).ended := by
        rw [hself]
        exact hended
      unfold endReports
      rw [htarget, hsame]
      cases hend : (c.nodes h).ended with
      | false => simp
      | true =>
        -- by the guard the poll is that of a netlink client
        have hpoll : clif = false := by
          cases clif with
          | false => rfl
          | true => exact Bool.noConfusion ((hguard rfl).symm.trans hend)
        have hsome := ((hc.node h hlt).waiting hlive hend).2.2.1
        simp [hpoll, hsome]
    · have hno : ¬ (c.target (.status number clif) = some h ∧
          ((c.put t (vdp22StatusHit clif (c.nodes t))).nodes h).ended = true) := by
        rintro ⟨hsame, -⟩
        exact hne (Option.some.inj (hsame.symm.trans htarget))
      unfold endReports
      rw [if_neg hno, Vdp22Ctx.put_nodes_of_ne c _ hne]
      simp
  · rcases eq_or_ne h t with rfl | hne
    · exact Bool.noConfusion (hbefore.symm.trans hg)
    · rw [Vdp22Ctx.put_nodes_of_ne c _ hne]
      exact hg

/-! ### Every event -/

theorem EndInv.step_refl (hc : EndInv c)
    (hevent : ∀ number clif, e ≠ .status number clif) : StepSpec c e c :=
  hc.step_quiet (endReports_silent hevent rfl) hc.wf rfl rfl rfl
    fun h hlt => ⟨hc.node h hlt, rfl, rfl, rfl⟩

theorem vdp22stRun_added {rc : Int} (hsmi : v.smi = {})
    (hkeep : v.flags.deleteMe = false) (hguard : polls v → rc = 0)
    (h : vdp22stRun rc { vsi := { v with smi := { v.smi with state := .station .begin } } }
      = .ok y) :
    NodeStep { vsi := { v with smi := { v.smi with state := .station .begin } } } y := by
  have htold : Told { vsi := { v with smi := { v.smi with state := .station .begin } } } :=
    ⟨Saying.of_nil rfl (by simp) (by simp), by simp⟩
  refine NodeStep.run rfl rfl rfl hkeep rfl ⟨rfl, rfl⟩ htold h ?_
  have hstart : ({ v.smi with state := .station .begin } : Vdp22smi) =
      { state := .station .begin } := by rw [hsmi]
  rcases vdp22stRun_new rfl hkeep hstart h with hwait | ⟨hended, hrc⟩
  · exact .inr (.inl hwait)
  · refine .inr (.inr ⟨hended, ?_⟩)
    have hclif : havepid v = 0 := not_not.mp fun hpolls => hrc (hguard hpolls)
    unfold endReported
    rw [Bool.or_eq_true]
    exact .inl (decide_eq_true hclif)

theorem deref_reset_same (y : Vsi22Ctx) : SameNode y y.reset.deref.reset := by
  unfold Vsi22Ctx.deref
  split_ifs <;> exact ⟨rfl, rfl, rfl⟩

/-- What a request leaves behind when its new node is refused. `c₁` is the instance without
the new node. -/
theorem StepSpec.refused {c c₁ c₂ : Vdp22Ctx} (h₁ : StepSpec c e c₁) (hsmi : v.smi = {})
    (hwf : (c₂.put c.next (vdp22DeleteVsi { vsi := v })).Wf)
    (hrole : c₂.myrole = c₁.myrole) (hque : c₂.que = c₁.que) (hback : c₂.back = c₁.back)
    (hnext₁ : c₁.next = c.next) (hnext : c₂.next = c.next + 1)
    (hold : ∀ h, h ≠ c.next → c₂.nodes h = c₁.nodes h) :
    StepSpec c e (c₂.put c.next (vdp22DeleteVsi { vsi := v })) := by
  have hnot : c.next ∉ c₂.que := fun hmem => by
    rw [hque] at hmem
    have hlt := h₁.inv.wf.lt _ hmem
    omega
  have hdeleted : (vdp22DeleteVsi { vsi := v }).freed = true := rfl
  refine h₁.refuse hsmi hwf hrole ?_ ?_ hnext₁ hnext (Vdp22Ctx.put_nodes_self ..) fun h hne => ?_
  · unfold Vdp22Ctx.put
    rw [if_pos hdeleted]
    exact (List.erase_of_not_mem hnot).trans hque
  · show c₂.back ++ [] = _
    rw [List.append_nil, hback]
  · rw [Vdp22Ctx.put_nodes_of_ne _ _ hne]
    exact hold h hne

theorem vdp22AllocVsiInt_new {gpid check : Bool}
    (h : vdp22AllocVsiInt vsi gpid check = .ok v) : v.smi = {} ∧ v.flags.deleteMe = false := by
  unfold vdp22AllocVsiInt at h
  split_ifs at h
  cases h
  exact ⟨rfl, rfl⟩

theorem EndInv.back (hc : EndInv c) (h : Nat) : (c.nodes h).back = [] :=
  (congrArg (·.back) (hc.wf.taken h)).symm

theorem put_alloc_nodes (c : Vdp22Ctx) (v : Vsi22) (t : Nat) (y : Vsi22Ctx)
    (hne : h ≠ c.next) : ((c.alloc v).put t y).nodes h = (c.put t y).nodes h := by
  rcases eq_or_ne h t with rfl | ht
  · rw [Vdp22Ctx.put_nodes_self, Vdp22Ctx.put_nodes_self]
  · rw [Vdp22Ctx.put_nodes_of_ne _ _ ht, Vdp22Ctx.put_nodes_of_ne _ _ ht,
      Vdp22Ctx.alloc_nodes_of_ne c v hne]

theorem vdp22Request_spec {c : Vdp22Ctx} (hc : EndInv c)
    {rc : Int} (hguard : EndGuard c (.request vsi clif))
    (he : vdp22Request vsi clif c = .ok (c', rc)) : StepSpec c (.request vsi clif) c' := by
  have hevent : ∀ number clif', (Vdp22Event.request vsi clif) ≠ .status number clif' := nofun
  have hmoved := vdp22Request_moves hc.wf he
  unfold vdp22Request at he
  by_cases hevb : c.evbon = false
  · rw [if_pos hevb] at he
    cases he
    exact hc.step_refl hevent
  rw [if_neg hevb, if_neg (by rw [hc.role]; decide)] at he
  dsimp only at he
  cases halloc : vdp22AllocVsiInt (if clif then vsi else { vsi with request := vsi.request + 1 })
      c.gpid true with
  | error e =>
    rw [halloc] at he
    cases he
    exact hc.step_refl hevent
  | ok v =>
    have hrequested : c.requested vsi clif = some v := by
      unfold Vdp22Ctx.requested
      rw [if_neg (by simp [hevb, hc.role])]
      dsimp only
      rw [halloc]
      rfl
    have htarget : c.target (.request vsi clif) = some ((vdp22Findvsi c v).getD c.next) := by
      show (c.requested vsi clif).map _ = _
      rw [hrequested]
      rfl
    have hnew := vdp22AllocVsiInt_new halloc
    rw [halloc] at he
    have hself := Vdp22Ctx.alloc_nodes_self c v
    obtain ⟨⟨c₁, rc₁, modf⟩, hadd, he⟩ := bind_eq_ok.mp he
    cases he
    dsimp only at hmoved ⊢
    rcases vdp22Addreq_cases hc.wf hadd with ⟨hrc, rfl⟩ | ⟨rfl, rfl, hfind, hmode, y, hrun, rfl⟩ |
      ⟨h, hfind, hrc, rfl⟩ | ⟨rfl, h, hfind, y, hbusy, hmod, rfl⟩
    · -- nothing is queued, and the new node is freed again
      rw [if_pos (.inl hrc), hself] at hmoved ⊢
      exact (hc.step_refl hevent).refused hnew.1 hmoved.wf rfl rfl rfl rfl rfl fun h hne =>
        Vdp22Ctx.alloc_nodes_of_ne c v hne
    · -- the VSI is new: it goes to the head of the queue, and its machine runs
      rw [if_neg (by simp)] at hmoved ⊢
      rw [hfind] at htarget
      have hstep := vdp22stRun_added hnew.1 hnew.2 (hguard v hrequested hmode hfind) hrun
      have hinsert := hc.wf.insertHead v (.station .begin) v.flags
      have hput : (((c.alloc v).insertHead c.next (.station .begin) v.flags).put c.next y).Wf :=
        hinsert.put fun hle => absurd hle (Nat.not_succ_le_self _)
      have hsame : y.reset.deref.freed = y.freed := deref_freed _
      have hsilent : y.reset.deref.back = [] := by
        unfold Vsi22Ctx.deref
        split_ifs <;> rfl
      have hnot : c.next ∉ c.que := fun hmem => Nat.lt_irrefl _ (hc.wf.lt _ hmem)
      refine hc.step_new htarget hevent hfind rfl rfl hstep hmoved.wf rfl rfl ?_ ?_ ?_ ?_
      · intro i
        rcases eq_or_ne i c.next with rfl | hne
        · rw [mem_put_self hput, mem_put_self hinsert, hsame]
          simp [Vdp22Ctx.insertHead, hnot]
        · rw [mem_put_of_ne _ hne, mem_put_of_ne _ hne]
          simp [Vdp22Ctx.insertHead, Vdp22Ctx.alloc, hne]
      · show (c.back ++ y.back) ++ y.reset.deref.back = _
        rw [hsilent, List.append_nil]
      · rw [Vdp22Ctx.put_nodes_self]
        exact deref_reset_same y
      · intro h hne
        rw [Vdp22Ctx.put_nodes_of_ne _ _ hne, Vdp22Ctx.put_nodes_of_ne _ _ hne,
          Vdp22Ctx.insertHead_nodes_of_ne c v _ _ hne]
    · -- its filters are not those of the VSI in the queue
      have hmem := mem_of_findvsi hfind
      have hlt := hc.wf.lt h hmem
      have hne : c.next ≠ h := Nat.ne_of_gt hlt
      have hstep := (hc.node h hlt).mismatched (hc.wf.live h hmem) (hc.back h) v
      rw [if_pos (.inl hrc), Vdp22Ctx.put_nodes_of_ne _ _ hne, hself] at hmoved ⊢
      rw [hfind] at htarget
      exact (hc.step_put htarget hevent hlt hstep).refused hnew.1 hmoved.wf rfl rfl rfl rfl rfl
        fun i hi => put_alloc_nodes c v h _ hi
    · -- the VSI in the queue takes the request over
      have hmem := mem_of_findvsi hfind
      have hlt := hc.wf.lt h hmem
      have hne : c.next ≠ h := Nat.ne_of_gt hlt
      have hstep := (hc.node h hlt).modvsi (hc.wf.live h hmem) (hc.back h) hmod
      rw [if_pos (.inr rfl), Vdp22Ctx.put_nodes_of_ne _ _ hne, hself] at hmoved ⊢
      rw [hfind] at htarget
      exact (hc.step_put htarget hevent hlt hstep).refused hnew.1 hmoved.wf rfl rfl rfl rfl rfl
        fun i hi => put_alloc_nodes c v h _ hi

theorem vdp22Tlv_spec {c : Vdp22Ctx} (hc : EndInv c) {vsip : Vsi22}
    (hsettled : ∀ h ∈ c.que, Settled (c.nodes h).vsi) (he : vdp22Tlv vsip c = .ok c') :
    StepSpec c (.tlv vsip) c' := by
  have hevent : ∀ number clif, (Vdp22Event.tlv vsip) ≠ .status number clif := nofun
  unfold vdp22Tlv at he
  rw [hc.role] at he
  split_ifs at he
  · dsimp only at he
    unfold vdp22BridgeInfo at he
    cases hfind : vdp22Findvsi c vsip with
    | none =>
      rw [hfind] at he
      cases he
      exact hc.step_refl hevent
    | some h =>
      rw [hfind] at he
      obtain ⟨y, hrun, hput⟩ := bind_eq_ok.mp he
      cases hput
      have hmem := mem_of_findvsi hfind
      have hlt := hc.wf.lt h hmem
      exact hc.step_put hfind hevent hlt
        ((hc.node h hlt).answered (hsettled h hmem) (hc.wf.live h hmem) (hc.back h) hrun)
  · cases he
    exact hc.step_refl hevent

theorem vdp22Timer_spec {c : Vdp22Ctx} (hc : EndInv c) {t : Vdp22Timer}
    (hsettled : ∀ h ∈ c.que, Settled (c.nodes h).vsi) (hguard : EndGuard c (.timer t h))
    (he : c.on h (vdp22Expire c.ecpRc t) = .ok c') : StepSpec c (.timer t h) c' := by
  have hevent : ∀ number clif, (Vdp22Event.timer t h) ≠ .status number clif := nofun
  obtain ⟨y, hrun, hput⟩ := bind_eq_ok.mp he
  cases hput
  rcases Nat.lt_or_ge h c.next with hlt | hge
  · refine hc.step_put rfl hevent hlt ?_
    have hx := hc.node h hlt
    cases hfreed : (c.nodes h).freed with
    | true =>
      refine hx.expired_gone hfreed (hc.back h) ?_ hrun
      rintro rfl hpending
      exact hguard hpending hfreed
    | false =>
      refine hx.expired (hsettled h ((hc.live h hlt).mpr hfreed)) hfreed (hc.back h) ?_ hrun
      rintro rfl hpending
      by_cases hclif : havepid (c.nodes h).vsi = 0
      · exact .inl hclif
      · exact .inr (hguard hpending hfreed hclif)
  · -- a number that is not used yet has no timers
    have hfresh := hc.wf.fresh h hge
    have hnone : vdp22Expire c.ecpRc t {} = .ok {} := if_pos (by cases t <;> rfl)
    rw [hfresh, hnone] at hrun
    cases hrun
    have hnodes : (c.put h {}).nodes = c.nodes := Function.update_eq_self_iff.mpr hfresh.symm
    refine hc.step_quiet (endReports_silent hevent (List.append_nil _)) (hc.wf.put fun _ => rfl)
      rfl rfl rfl ?_
    intro i hi
    rw [hnodes]
    exact ⟨hc.node i hi, rfl, rfl, rfl⟩

theorem EndInv.step_forall (hc : EndInv c)
    (hevent : ∀ number clif, e ≠ .status number clif) {f : Vsi22Ctx → Vsi22Ctx}
    (hmoved : c.Moved e (c.forall' f)) (hf : ∀ x : Vsi22Ctx, (f x).vsi.smi.state = x.vsi.smi.state)
    (hstep : ∀ h ∈ c.que, NodeStep (c.nodes h) (f (c.nodes h))) :
    StepSpec c e (c.forall' f) := by
  refine hc.step_quiet (endReports_silent hevent rfl) hmoved.wf rfl rfl rfl fun h hlt => ?_
  by_cases hmem : h ∈ c.que
  · have hnode : (c.forall' f).nodes h = f (c.nodes h) := if_pos hmem
    have hlive := hmoved.wf.live h hmem
    rw [hnode] at hlive ⊢
    refine ⟨(hstep h hmem).node, (hstep h hmem).key, ?_, ?_⟩
    · rw [hlive, hc.wf.live h hmem]
    · unfold Vsi22Ctx.ended
      rw [hf]
  · have hnode : (c.forall' f).nodes h = c.nodes h := if_neg hmem
    rw [hnode]
    exact ⟨hc.node h hlt, rfl, rfl, rfl⟩

/-- One step under the condition -/
theorem vdp22Step_spec {c : Vdp22Ctx} (hc : EndInv c)
    (hsettled : ∀ h ∈ c.que, Settled (c.nodes h).vsi) (hguard : EndGuard c e)
    (he : vdp22Step c e = .ok c') : StepSpec c e c' := by
  have hmoved := vdp22Step_moves hc.wf he
  cases e with
  | request vsi clif =>
    obtain ⟨⟨c₁, rc⟩, hreq, he⟩ := bind_eq_ok.mp he
    cases he
    exact vdp22Request_spec hc hguard hreq
  | status number clif =>
    cases he
    unfold vdp22Status
    have hnone : c.target (.status number clif) = none → StepSpec c (.status number clif) c := by
      intro hno
      refine hc.step_quiet (fun h => ?_) hc.wf rfl rfl rfl
        fun h hlt => ⟨hc.node h hlt, rfl, rfl, rfl⟩
      unfold endReports
      rw [hno]
      simp
    cases hnum : c.que[number - 1]? with
    | none =>
      refine hnone ?_
      unfold Vdp22Ctx.target
      dsimp only
      rw [hnum, ite_self]
    | some h =>
      split_ifs with hzero
      · exact hnone (if_pos hzero)
      · have htarget : c.target (.status number clif) = some h := (if_neg hzero).trans hnum
        refine hc.step_poll htarget (List.mem_of_getElem? hnum) fun hclif => ?_
        subst hclif
        exact hguard h htarget
  | tlv vsip => exact vdp22Tlv_spec hc hsettled he
  | timer t h => exact vdp22Timer_spec hc hsettled hguard he
  | stop =>
    cases he
    have hevent : ∀ number clif, Vdp22Event.stop ≠ .status number clif := nofun
    refine hc.step_forall hevent hmoved (fun x => congrArg (·.smi.state) (deref_vsi x)) ?_
    intro h hmem
    exact (hc.node h (hc.wf.lt h hmem)).stop (hc.wf.live h hmem) (hc.back h)
  | start =>
    cases he
    have hevent : ∀ number clif, Vdp22Event.start ≠ .status number clif := nofun
    refine hc.step_forall hevent hmoved (fun x => congrArg (·.smi.state) (deref_vsi x)) ?_
    intro h hmem
    exact (hc.node h (hc.wf.lt h hmem)).start (hc.wf.live h hmem) (hc.back h)
  | fromEvb gpid evbon =>
    cases he
    exact hc.step_quiet (endReports_silent nofun rfl) hmoved.wf rfl rfl rfl
      fun h hlt => ⟨hc.node h hlt, rfl, rfl, rfl⟩
  | ecp rc =>
    cases he
    exact hc.step_quiet (endReports_silent nofun rfl) hmoved.wf rfl rfl rfl
      fun h hlt => ⟨hc.node h hlt, rfl, rfl, rfl⟩

/-! ### Runs -/

theorem vdp22Create_endInv : EndInv (vdp22Create .station) where
  wf := vdp22Create_wf .station
  role := rfl
  node h hlt := absurd hlt (Nat.not_lt_zero h)
  live h hlt := absurd hlt (Nat.not_lt_zero h)
  older _ hi := absurd hi List.not_mem_nil

theorem runReports_eq {c : Vdp22Ctx} {es : List Vdp22Event} (hc : EndInv c)
    (hreach : vdp22System.Reachable c) (hrun : vdp22System.RunWhere EndGuard c es c') :
    EndInv c' ∧ ∀ h, runReports c es h + (if (c.nodes h).gone then 1 else 0) =
      if (c'.nodes h).gone then 1 else 0 := by
  induction hrun with
  | nil c => exact ⟨hc, fun h => Nat.zero_add _⟩
  | @cons c d c' e es hguard hstep hrest ih =>
    have hsettled := (settled_of_reachable hreach hc.role).2
    have hspec := vdp22Step_spec hc hsettled hguard hstep
    obtain ⟨hinv, hcount⟩ := ih hspec.inv (hreach.step hstep)
    refine ⟨hinv, fun h => ?_⟩
    have hruns : runReports c (e :: es) h = endReports c e d h + runReports d es h := by
      have hstep' : vdp22Step c e = .ok d := hstep
      show (match vdp22Step c e with | .error _ => 0 | .ok c' => _) = _
      rw [hstep']
    rw [hruns, hspec.reports h, ← hcount h]
    cases hgone : (c.nodes h).gone with
    | false =>
      cases (d.nodes h).gone <;> (simp; try omega)
    | true =>
      rw [hspec.gone h hgone]
      simp

/-- The requestor of a VSI that ended is told once, and the VSI leaves the queue: at once when the
requestor is on the control interface, with the next poll when it is a netlink client. From then
on the same VSI can be requested again. `reports` counts what was told so far. -/
structure EndHandled (c : Vdp22Ctx) (reports : Nat → Nat) : Prop where
  running : ∀ h, (c.nodes h).ended = false → reports h = 0
  removed : ∀ h, (c.nodes h).ended = true → h ∉ c.que → reports h = 1
  waiting : ∀ h ∈ c.que, (c.nodes h).ended = true → polls (c.nodes h).vsi ∧ reports h = 0 ∧
    ∀ number c', c.target (.status number false) = some h →
      vdp22Step c (.status number false) = .ok c' →
      h ∉ c'.que ∧ endReports c (.status number false) c' h = 1
  accepted : ∀ h, (c.nodes h).ended = true → h ∉ c.que → ∀ vsi clif v,
    c.requested vsi clif = some v → associates v → vdp22VsiEqual (c.nodes h).vsi v = true →
    (∃ i ∈ c.que, h < i ∧ vdp22VsiEqual (c.nodes i).vsi v = true) ∨
      ∃ c', vdp22Request vsi clif c = .ok (c', 0) ∧ c'.next = c.next + 1 ∧
        vdp22VsiEqual (c'.nodes c.next).vsi v = true

/-- A request for an unknown VSI is accepted. -/
theorem vdp22Request_new (hc : EndInv c)
    (hrequested : c.requested vsi clif = some v) (hassoc : associates v)
    (hfind : vdp22Findvsi c v = none) :
    ∃ c', vdp22Request vsi clif c = .ok (c', 0) ∧ c'.next = c.next + 1 ∧
      vdp22VsiEqual (c'.nodes c.next).vsi v = true := by
  let x : Vsi22Ctx := { vsi := { v with smi := { v.smi with state := .station .begin } } }
  obtain ⟨y, hy⟩ := vdp22stRun_total c.ecpRc x
  have halloc : vdp22AllocVsiInt (if clif then vsi else { vsi with request := vsi.request + 1 })
      c.gpid true = .ok v ∧ c.evbon = true := by
    unfold Vdp22Ctx.requested at hrequested
    by_cases hoff : c.evbon = false ∨ c.myrole = .bridge
    · rw [if_pos hoff] at hrequested
      cases hrequested
    rw [if_neg hoff] at hrequested
    rw [not_or, Bool.not_eq_false] at hoff
    refine ⟨?_, hoff.1⟩
    dsimp only at hrequested
    cases hresult : vdp22AllocVsiInt
        (if clif then vsi else { vsi with request := vsi.request + 1 }) c.gpid true with
    | error e =>
      rw [hresult] at hrequested
      cases hrequested
    | ok w =>
      rw [hresult] at hrequested
      cases hrequested
      rfl
  have hnew := vdp22AllocVsiInt_new halloc.1
  let i := (c.alloc v).insertHead c.next (.station .begin) v.flags
  have hadd : vdp22Addreq c.next (c.alloc v) =
      .ok ((i.put c.next y).put c.next y.reset.deref, 0, false) := by
    have hmode : ¬ (v.vsiMode > vdp22Deassoc ∨ v.vsiMode < vdp22Preassoc) := by
      rw [not_or]
      exact ⟨UInt8.not_lt.mpr (UInt8.le_of_lt hassoc.2), UInt8.not_lt.mpr hassoc.1⟩
    have hdeassoc : ¬ v.vsiMode = vdp22Deassoc := UInt8.ne_of_lt hassoc.2
    have hon : vdp22Addvsi c.next (c.alloc v) = .ok (i.put c.next y) := by
      unfold vdp22Addvsi Vdp22Ctx.on
      rw [Vdp22Ctx.alloc_nodes_self, Vdp22Ctx.insertHead_nodes_self]
      have hrun : vdp22stRun c.ecpRc
          { vsi := { v with smi := { v.smi with state := .station .begin } } } = .ok y := hy
      show (vdp22stRun c.ecpRc _ >>= _) = _
      rw [hrun]
      rfl
    unfold vdp22Addreq
    dsimp only
    rw [Vdp22Ctx.alloc_nodes_self, hc.wf.findvsi_alloc, if_neg hmode, hfind]
    rw [if_neg hdeassoc, hon, bind_ok, Vdp22Ctx.put_nodes_self]
    rfl
  refine ⟨(i.put c.next y).put c.next y.reset.deref, ?_, rfl, ?_⟩
  · unfold vdp22Request
    rw [halloc.2, hc.role]
    dsimp only
    rw [halloc.1]
    dsimp only
    rw [hadd]
    rfl
  · rw [Vdp22Ctx.put_nodes_self, (deref_reset_same y).vsi, vdp22VsiEqual_iff]
    have htold : Told x := ⟨Saying.of_nil rfl (by simp [x]) (by simp [x]), by simp [x]⟩
    exact (vdp22stRun_spec rfl hnew.2 htold hy).key

/-- In every run under the condition, the end of each VSI is handled. -/
theorem endHandled_of_guarded {es : List Vdp22Event} {c : Vdp22Ctx}
    (hrun : vdp22System.RunWhere EndGuard (vdp22Create .station) es c) :
    EndHandled c (runReports (vdp22Create .station) es) := by
  have hstart : vdp22System.Reachable (vdp22Create .station) :=
    System.reachable_of_init ⟨.station, rfl⟩
  obtain ⟨hc, hcount⟩ := runReports_eq vdp22Create_endInv hstart hrun
  have hreports : ∀ h, runReports (vdp22Create .station) es h =
      if (c.nodes h).gone then 1 else 0 := fun h => hcount h
  have hused : ∀ h, (c.nodes h).ended = true → h < c.next := by
    intro h hended
    by_contra hge
    rw [hc.wf.fresh h (Nat.not_lt.mp hge)] at hended
    cases hended
  have hgone : ∀ h, (c.nodes h).ended = true → h ∉ c.que → (c.nodes h).gone = true := by
    intro h hended hnot
    refine gone_iff.mpr ⟨hended, ?_⟩
    rw [← Bool.not_eq_false]
    exact fun hlive => hnot ((hc.live h (hused h hended)).mpr hlive)
  refine ⟨fun h hopen => ?_, fun h hended hnot => ?_, fun h hmem hended => ⟨?_, ?_, ?_⟩,
    fun h hended hnot vsi clif v hrequested hassoc hequal => ?_⟩
  · rw [hreports, if_neg]
    rw [gone_iff, hopen]
    exact fun hg => Bool.noConfusion hg.1
  · rw [hreports, if_pos (hgone h hended hnot)]
  · obtain ⟨-, hno, -⟩ := (hc.node h (hc.wf.lt h hmem)).waiting (hc.wf.live h hmem) hended
    unfold endReported at hno
    rw [Bool.or_eq_false_iff] at hno
    exact of_decide_eq_false hno.1
  · rw [hreports, if_neg]
    rw [gone_iff, hc.wf.live h hmem]
    exact fun hg => Bool.noConfusion hg.2
  · -- the next poll of this VSI reports it and takes it out of the queue
    intro number c' htarget hstep
    have hlive := hc.wf.live h hmem
    have hlt := hc.wf.lt h hmem
    have hzero : number ≠ 0 := by
      rintro rfl
      cases htarget
    have hnum : c.que[number - 1]? = some h := (if_neg hzero).symm.trans htarget
    have hput : c' = c.put h (vdp22StatusHit false (c.nodes h)) := by
      cases hstep
      unfold vdp22Status
      rw [hnum]
      dsimp only
      rw [if_neg hzero]
    obtain ⟨-, hfreed, hsame, -⟩ := vdp22StatusHit_spec (hc.node h hlt) hlive false
    have hspec := hc.step_poll htarget hmem nofun
    rw [hended] at hfreed hsame
    have hgone' : ((c.put h (vdp22StatusHit false (c.nodes h))).nodes h).gone = true := by
      rw [Vdp22Ctx.put_nodes_self]
      exact gone_iff.mpr ⟨hsame, hfreed⟩
    have hbefore : (c.nodes h).gone = false := by
      unfold Vsi22Ctx.gone
      rw [hlive, Bool.and_false]
    rw [hput, hspec.reports h, hgone', hbefore, mem_put_self hc.wf, hfreed]
    simp
  · cases hfind : vdp22Findvsi c v with
    | none => exact .inr (vdp22Request_new hc hrequested hassoc hfind)
    | some i =>
      -- an equal VSI in the queue is a newer one
      have hmem := mem_of_findvsi hfind
      have hfound : vdp22VsiEqual (c.nodes i).vsi v = true := by
        have hpred := List.find?_some hfind
        exact hpred
      refine .inl ⟨i, hmem, ?_, hfound⟩
      have hkeys :=
        ((vdp22VsiEqual_iff _ _).mp hequal).trans ((vdp22VsiEqual_iff _ _).mp hfound).symm
      have hle := hc.older i hmem h (hused h hended) (.inr (hgone h hended hnot)) hkeys
      refine Nat.lt_of_le_of_ne hle ?_
      rintro rfl
      exact hnot hmem

/-- A netlink client requests a VSI, the bridge refuses it, and the client polls. Then it requests
the VSI again. -/
def pollHistory : List Vdp22Event :=
  [.fromEvb true true, .request (netlinkRequest 5 1) false, .tlv (refusal 5 1), .status 1 false,
    .request (netlinkRequest 5 1) false]

/-- The first VSI of this history has ended, and the second one is in the queue. -/
theorem pollHistory_endHandled :
    ∃ c, vdp22System.RunWhere EndGuard (vdp22Create .station) pollHistory c ∧
      (c.nodes 0).ended = true ∧ c.que = [1] ∧
      EndHandled c (runReports (vdp22Create .station) pollHistory) := by
  obtain ⟨c, hrun, hc⟩ := System.exists_runWhere vdp22System
    (fun c e => match e with
      | .request _ _ => decide (c.ecpRc = 0)
      | .timer _ _ => false
      | .status _ clif => !clif
      | _ => true)
    (fun c e h => show EndGuard c e by
      cases e with
      | request vsi clif => exact fun _ _ _ _ _ => of_decide_eq_true h
      | timer t h' => cases h
      | status number clif =>
        cases clif with
        | false => trivial
        | true => cases h
      | _ => trivial)
    (vdp22Create .station) pollHistory
    (fun c => (c.nodes 0).ended && decide (c.que = [1])) (by decide +kernel)
  rw [Bool.and_eq_true, decide_eq_true_iff] at hc
  exact ⟨c, hrun, hc.1, hc.2, endHandled_of_guarded hrun⟩

/-- When the bridge does not answer the first request of a netlink client, the VSI ends and stays
in the queue: a poll neither reports it nor removes it. -/
theorem not_endHandled :
    ¬ ∀ es c, vdp22System.run (vdp22Create .station) es = .ok c →
      EndHandled c (runReports (vdp22Create .station) es) := by
  intro hall
  obtain ⟨c, hrun, hc⟩ := System.exists_run vdp22System (vdp22Create .station)
    [.fromEvb true true, .request (netlinkRequest 5 1) false, .timer .ackto 0]
    (fun c => (c.nodes 0).ended && decide (c.que = [0]) &&
      decide ((vdp22Status 1 {} false c).1.que = [0])) (by decide +kernel)
  rw [Bool.and_eq_true, Bool.and_eq_true, decide_eq_true_iff, decide_eq_true_iff] at hc
  obtain ⟨⟨hended, hque⟩, hpoll⟩ := hc
  have hmem : 0 ∈ c.que := by rw [hque]; exact List.mem_singleton_self 0
  have htarget : c.target (.status 1 false) = some 0 := by
    show c.que[0]? = some 0
    rw [hque]
    rfl
  have hleft := (((hall _ c hrun).waiting 0 hmem hended).2.2 1 _ htarget rfl).1
  rw [hpoll] at hleft
  exact hleft (List.mem_singleton_self 0)

end Lldpad.Qbg
