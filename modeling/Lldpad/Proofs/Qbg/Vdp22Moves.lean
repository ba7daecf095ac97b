import Lldpad.Qbg.Vdp22System
import Mathlib.Data.List.Find

/-!
# `Lldpad.Proofs.Qbg.Vdp22Moves`: what an event does to a node

`vdp22Step_moves` says what one event of an interface does to the node `h`: nothing, or one
of the moves of `Vsi22Move`. The invariants of the nodes look at one node and at one move.

`Vdp22Ctx.Wf` is what every queue of nodes fulfils: the nodes in it are different, and none
was freed.
-/

namespace Lldpad.Qbg

open Lldpad.Lib

/-- The node without the messages that it sent. -/
def Vsi22Ctx.reset (x : Vsi22Ctx) : Vsi22Ctx := { x with sent := [], back := [] }

/-- A queue of different nodes that are not freed. What a node sent was taken from it. The
numbers from `next` on are not used yet. -/
structure Vdp22Ctx.Wf (c : Vdp22Ctx) : Prop where
  taken : ∀ h, (c.nodes h).reset = c.nodes h
  nodup : c.que.Nodup
  lt : ∀ h ∈ c.que, h < c.next
  live : ∀ h ∈ c.que, (c.nodes h).freed = false
  fresh : ∀ h, c.next ≤ h → c.nodes h = {}

/-- What an event may do to the node `h`, and the node behind it. -/
inductive Vsi22Move (c : Vdp22Ctx) : Vdp22Event → Nat → Vsi22Ctx → Prop
  /-- a request made the node, and the station machine ran -/
  | added {vsi : VdpnlVsi} {clif : Bool} {v : Vsi22} {y : Vsi22Ctx} (hrole : c.myrole = .station)
      (hrun : vdp22stRun c.ecpRc
        { vsi := { v with smi := { v.smi with state := .station .begin } } } = .ok y)
      (hnew : v.smi = {} ∧ v.flags.deleteMe = false ∧ v.flags.notify = false) :
      Vsi22Move c (.request vsi clif) c.next y.deref
  /-- a request made the node, and it was not put into the queue -/
  | refused {vsi : VdpnlVsi} {clif : Bool} {v : Vsi22} (hrole : c.myrole = .station)
      (hnew : v.smi = {}) :
      Vsi22Move c (.request vsi clif) c.next (vdp22DeleteVsi { vsi := v })
  /-- a request for a node that is there -/
  | modified {vsi : VdpnlVsi} {clif : Bool} {h : Nat} {x : UInt8} {y : Vsi22Ctx} {rc : Int}
      (hrole : c.myrole = .station) (hmem : h ∈ c.que)
      (hbusy : (c.nodes h).vsi.flags.busy = false)
      (hrun : vdp22Modvsi c.ecpRc x (c.nodes h) = .ok (y, rc)) :
      Vsi22Move c (.request vsi clif) h y
  /-- a request for a node that is there, with other filter entries -/
  | mismatched {vsi : VdpnlVsi} {clif : Bool} {h : Nat} {v : Vsi22} (hrole : c.myrole = .station)
      (hmem : h ∈ c.que) :
      Vsi22Move c (.request vsi clif) h
        { c.nodes h with vsi := vdp22CmpStatus (c.nodes h).vsi v }
  /-- a query -/
  | queried {number h : Nat} {clif : Bool} (hmem : h ∈ c.que)
      (hnumber : c.que[number - 1]? = some h) :
      Vsi22Move c (.status number clif) h (vdp22StatusHit clif (c.nodes h))
  /-- an answer of the bridge -/
  | answered {vsip : Vsi22} {h : Nat} {y : Vsi22Ctx} (hrole : c.myrole = .station)
      (hmem : h ∈ c.que) (hfind : vdp22Findvsi c vsip = some h)
      (hok : responseOk .station vsip = true)
      (hrun : vdp22BridgeHit c.ecpRc vsip (c.nodes h) = .ok y) : Vsi22Move c (.tlv vsip) h y
  /-- a TLV of the station made the node, and the bridge machine ran -/
  | brAdded {vsip v : Vsi22} {y : Vsi22Ctx} (hrole : c.myrole = .bridge)
      (hmode : v.vsiMode ≠ vdp22Deassoc)
      (hrun : vdp22brRun
        { vsi := { v with
          flags := { busy := true }
          smi := { v.smi with state := .bridge .begin } } } = .ok y) :
      Vsi22Move c (.tlv vsip) c.next y
  /-- a request of the station -/
  | asked {vsip : Vsi22} {h : Nat} {y : Vsi22Ctx} (hrole : c.myrole = .bridge)
      (hmem : h ∈ c.que) (hfind : vdp22Findvsi c vsip = some h)
      (hok : isVsiMode vsip.vsiMode ∧ vsip.fdata ≠ [] ∧ responseOk .bridge vsip)
      (hrun : vdp22StationHit vsip (c.nodes h) = .ok y) : Vsi22Move c (.tlv vsip) h y
  /-- a timer -/
  | expired {t : Vdp22Timer} {h : Nat} {y : Vsi22Ctx} (hlt : h < c.next)
      (hrun : vdp22Expire c.ecpRc t (c.nodes h) = .ok y) : Vsi22Move c (.timer t h) h y
  | stopped {h : Nat} (hmem : h ∈ c.que) : Vsi22Move c .stop h (vdp22StopTimers (c.nodes h))
  | started {h : Nat} (hmem : h ∈ c.que) : Vsi22Move c .start h (vdp22StartLocalchange (c.nodes h))

/-- Every node is as before, or an event moved it. -/
structure Vdp22Ctx.Moved (c : Vdp22Ctx) (e : Vdp22Event) (c' : Vdp22Ctx) : Prop where
  wf : c'.Wf
  myrole : c'.myrole = c.myrole
  node : ∀ h, (c'.nodes h = c.nodes h ∧ (h ∈ c'.que → h ∈ c.que) ∧ (h < c'.next → h < c.next)) ∨
    ∃ y, Vsi22Move c e h y ∧ c'.nodes h = y.reset

namespace Vdp22Ctx

@[simp] theorem put_nodes_self (c : Vdp22Ctx) (h : Nat) (x : Vsi22Ctx) :
    (c.put h x).nodes h = x.reset := Function.update_self ..

variable {y : Vsi22Ctx} {h : Nat} {v : Vsi22}

theorem put_nodes_of_ne (c : Vdp22Ctx) {i : Nat} (x : Vsi22Ctx) (hne : i ≠ h) :
    (c.put h x).nodes i = c.nodes i := Function.update_of_ne hne ..

variable {c : Vdp22Ctx} {e : Vdp22Event}

theorem mem_of_mem_put {i : Nat} {x : Vsi22Ctx} (hi : i ∈ (c.put h x).que) :
    i ∈ c.que := by
  unfold put at hi
  split_ifs at hi
  · exact List.mem_of_mem_erase hi
  · exact hi

theorem Wf.put (hc : c.Wf) {x : Vsi22Ctx}
    (hfresh : c.next ≤ h → x.reset = {}) : (c.put h x).Wf where
  taken i := by
    rcases eq_or_ne i h with rfl | hne
    · rw [put_nodes_self]
      rfl
    · rw [put_nodes_of_ne c x hne]
      exact hc.taken i
  nodup := by
    unfold Vdp22Ctx.put
    split_ifs
    · exact hc.nodup.erase h
    · exact hc.nodup
  lt i hi := hc.lt i (mem_of_mem_put hi)
  live i hi := by
    rcases eq_or_ne i h with rfl | hne
    · rw [put_nodes_self]
      by_contra hfreed
      rw [Bool.not_eq_false] at hfreed
      have hfreed' : x.freed = true := hfreed
      unfold Vdp22Ctx.put at hi
      rw [if_pos hfreed'] at hi
      exact hc.nodup.not_mem_erase hi
    · rw [put_nodes_of_ne c x hne]
      exact hc.live i (mem_of_mem_put hi)
  fresh i hi := by
    rcases eq_or_ne i h with rfl | hne
    · rw [put_nodes_self]
      exact hfresh hi
    · rw [put_nodes_of_ne c x hne]
      exact hc.fresh i hi

theorem Wf.moved_put (hc : c.Wf)
    (hmove : Vsi22Move c e h y) (hfresh : c.next ≤ h → y.reset = {}) : c.Moved e (c.put h y) where
  wf := hc.put hfresh
  myrole := rfl
  node i := by
    rcases eq_or_ne i h with rfl | hne
    · exact .inr ⟨y, hmove, put_nodes_self c i y⟩
    · exact .inl ⟨put_nodes_of_ne c y hne, mem_of_mem_put, fun hlt => hlt⟩

theorem Wf.moved_of_eq {c c' : Vdp22Ctx} (hc : c.Wf) (hrole : c'.myrole = c.myrole)
    (hque : c'.que = c.que) (hnodes : c'.nodes = c.nodes) (hnext : c'.next = c.next) :
    c.Moved e c' where
  wf := by
    constructor
    · rw [hnodes]; exact hc.taken
    · rw [hque]; exact hc.nodup
    · rw [hque, hnext]; exact hc.lt
    · rw [hque, hnodes]; exact hc.live
    · rw [hnodes, hnext]; exact hc.fresh
  myrole := hrole
  node h := .inl ⟨congrFun hnodes h, fun hmem => hque ▸ hmem, fun hlt => hnext ▸ hlt⟩

theorem Wf.moved_forall (hc : c.Wf) {f : Vsi22Ctx → Vsi22Ctx}
    (hfreed : ∀ x, (f x).freed = x.freed) (hreset : ∀ x : Vsi22Ctx, (f x).reset = f x.reset)
    (hmove : ∀ h ∈ c.que, Vsi22Move c e h (f (c.nodes h))) : c.Moved e (c.forall' f) := by
  have hin : ∀ h ∈ c.que, (c.forall' f).nodes h = f (c.nodes h) := fun h hmem => if_pos hmem
  have hout : ∀ h, h ∉ c.que → (c.forall' f).nodes h = c.nodes h := fun h hmem => if_neg hmem
  have htaken : ∀ h, (f (c.nodes h)).reset = f (c.nodes h) := fun h => by
    rw [hreset, hc.taken h]
  refine ⟨⟨fun h => ?_, hc.nodup, hc.lt, fun h hmem => ?_, fun h hle => ?_⟩, rfl, fun h => ?_⟩
  · by_cases hmem : h ∈ c.que
    · rw [hin h hmem, htaken h]
    · rw [hout h hmem, hc.taken h]
  · rw [hin h hmem, hfreed]
    exact hc.live h hmem
  · rw [hout h fun hmem => absurd (hc.lt h hmem) (Nat.not_lt.mpr hle)]
    exact hc.fresh h hle
  · by_cases hmem : h ∈ c.que
    · exact .inr ⟨_, hmove h hmem, by rw [hin h hmem, htaken h]⟩
    · exact .inl ⟨hout h hmem, fun hmem' => hmem', fun hlt => hlt⟩

theorem Wf.alloc (hc : c.Wf) (v : Vsi22) : (c.alloc v).Wf where
  taken h := by
    rcases eq_or_ne h c.next with rfl | hne
    · show (Function.update c.nodes c.next _ c.next).reset = Function.update c.nodes c.next _ c.next
      rw [Function.update_self]
      rfl
    · show (Function.update c.nodes c.next _ h).reset = Function.update c.nodes c.next _ h
      rw [Function.update_of_ne hne]
      exact hc.taken h
  nodup := hc.nodup
  lt h hmem := Nat.lt_succ_of_lt (hc.lt h hmem)
  live h hmem := by
    show (Function.update c.nodes c.next _ h).freed = false
    rw [Function.update_of_ne (Nat.ne_of_lt (hc.lt h hmem))]
    exact hc.live h hmem
  fresh h hle := by
    show Function.update c.nodes c.next _ h = {}
    rw [Function.update_of_ne (Nat.ne_of_gt (Nat.lt_of_succ_le hle))]
    exact hc.fresh h ((Nat.le_succ _).trans hle)

theorem alloc_nodes_self (c : Vdp22Ctx) (v : Vsi22) : (c.alloc v).nodes c.next = { vsi := v } :=
  Function.update_self ..

theorem alloc_nodes_of_ne (c : Vdp22Ctx) (v : Vsi22) (hne : h ≠ c.next) :
    (c.alloc v).nodes h = c.nodes h := Function.update_of_ne hne ..

theorem Wf.findvsi_alloc (hc : c.Wf) (v me : Vsi22) :
    vdp22Findvsi (c.alloc v) me = vdp22Findvsi c me := by
  show c.que.find? _ = c.que.find? _
  refine List.find?_congr fun h hmem => ?_
  rw [alloc_nodes_of_ne c v (Nat.ne_of_lt (hc.lt h hmem))]

theorem insertHead_nodes_self (c : Vdp22Ctx) (v : Vsi22) (state : Vdp22SmState)
    (flags : Vsi22Flags) : ((c.alloc v).insertHead c.next state flags).nodes c.next =
      { vsi := { v with flags := flags, smi := { v.smi with state := state } } } := by
  show Function.update _ _ _ _ = _
  rw [Function.update_self, alloc_nodes_self]

theorem insertHead_nodes_of_ne (c : Vdp22Ctx) (v : Vsi22) (state : Vdp22SmState)
    (flags : Vsi22Flags) (hne : h ≠ c.next) :
    ((c.alloc v).insertHead c.next state flags).nodes h = c.nodes h := by
  show Function.update _ _ _ _ = _
  rw [Function.update_of_ne hne, alloc_nodes_of_ne c v hne]

theorem Wf.insertHead (hc : c.Wf) (v : Vsi22) (state : Vdp22SmState)
    (flags : Vsi22Flags) : ((c.alloc v).insertHead c.next state flags).Wf := by
  have hnot : c.next ∉ c.que := fun hmem => Nat.lt_irrefl _ (hc.lt _ hmem)
  have hself := insertHead_nodes_self c v state flags
  have hother := fun h hne => insertHead_nodes_of_ne c v state flags (h := h) hne
  refine ⟨fun h => ?_, List.nodup_cons.mpr ⟨hnot, hc.nodup⟩, fun h hmem => ?_, fun h hmem => ?_,
    fun h hle => ?_⟩
  · rcases eq_or_ne h c.next with rfl | hne
    · rw [hself]
      rfl
    · rw [hother h hne, hc.taken h]
  · rcases List.mem_cons.mp hmem with rfl | hmem
    · exact Nat.lt_succ_self _
    · exact Nat.lt_succ_of_lt (hc.lt h hmem)
  · rcases List.mem_cons.mp hmem with rfl | hmem
    · rw [hself]
    · rw [hother h (Nat.ne_of_lt (hc.lt h hmem))]
      exact hc.live h hmem
  · rw [hother h (Nat.ne_of_gt (Nat.lt_of_succ_le hle))]
    exact hc.fresh h ((Nat.le_succ _).trans hle)

theorem Wf.moved_insert (hc : c.Wf)
    {state : Vdp22SmState} {flags : Vsi22Flags} (hmove : Vsi22Move c e c.next y) :
    c.Moved e (((c.alloc v).insertHead c.next state flags).put c.next y) where
  wf := (hc.insertHead v state flags).put fun hle => absurd hle (Nat.not_succ_le_self _)
  myrole := rfl
  node h := by
    rcases eq_or_ne h c.next with rfl | hne
    · exact .inr ⟨y, hmove, put_nodes_self ..⟩
    · refine .inl ⟨?_, fun hmem => ?_, fun hlt => Nat.lt_of_le_of_ne (Nat.le_of_lt_succ hlt) hne⟩
      · rw [put_nodes_of_ne _ y hne, insertHead_nodes_of_ne c v _ _ hne]
      · exact (List.mem_cons.mp (mem_of_mem_put hmem)).resolve_left hne

theorem Wf.moved_insert_put (hc : c.Wf)
    {state : Vdp22SmState} {flags : Vsi22Flags} {z w : Vsi22Ctx} (hmove : Vsi22Move c e c.next z)
    (hw : w.reset = z.reset) :
    c.Moved e ((((c.alloc v).insertHead c.next state flags).put c.next y).put c.next w) where
  wf := by
    have hput : (((c.alloc v).insertHead c.next state flags).put c.next y).Wf :=
      (hc.insertHead v state flags).put fun hle => absurd hle (Nat.not_succ_le_self _)
    exact hput.put fun hle => absurd hle (Nat.not_succ_le_self _)
  myrole := rfl
  node h := by
    rcases eq_or_ne h c.next with rfl | hne
    · exact .inr ⟨z, hmove, by rw [put_nodes_self, hw]⟩
    · refine .inl ⟨?_, fun hmem => ?_, fun hlt => Nat.lt_of_le_of_ne (Nat.le_of_lt_succ hlt) hne⟩
      · rw [put_nodes_of_ne _ w hne, put_nodes_of_ne _ y hne, insertHead_nodes_of_ne c v _ _ hne]
      · exact (List.mem_cons.mp (mem_of_mem_put (mem_of_mem_put hmem))).resolve_left hne

theorem Wf.moved_alloc (hc : c.Wf)
    (hmove : Vsi22Move c e c.next y) : c.Moved e ((c.alloc v).put c.next y) where
  wf := (hc.alloc v).put fun hle => absurd hle (Nat.not_succ_le_self _)
  myrole := rfl
  node h := by
    rcases eq_or_ne h c.next with rfl | hne
    · exact .inr ⟨y, hmove, put_nodes_self ..⟩
    · refine .inl ⟨?_, mem_of_mem_put, fun hlt => Nat.lt_of_le_of_ne (Nat.le_of_lt_succ hlt) hne⟩
      rw [put_nodes_of_ne _ y hne, alloc_nodes_of_ne c v hne]

theorem Wf.moved_both (hc : c.Wf)
    {x : Vsi22Ctx} (hmem : h ∈ c.que) (hx : Vsi22Move c e h x) (hy : Vsi22Move c e c.next y) :
    c.Moved e (((c.alloc v).put h x).put c.next y) where
  wf := by
    have hlt := hc.lt h hmem
    have hput : ((c.alloc v).put h x).Wf :=
      (hc.alloc v).put fun hle => absurd hle (by show ¬ c.next + 1 ≤ h; omega)
    exact hput.put fun hle => absurd hle (Nat.not_succ_le_self _)
  myrole := rfl
  node i := by
    rcases eq_or_ne i c.next with rfl | hne
    · exact .inr ⟨y, hy, put_nodes_self ..⟩
    · rcases eq_or_ne i h with rfl | hneh
      · exact .inr ⟨x, hx, by rw [put_nodes_of_ne _ y hne, put_nodes_self]⟩
      · refine .inl ⟨?_, fun hi => mem_of_mem_put (mem_of_mem_put hi),
          fun hlt => Nat.lt_of_le_of_ne (Nat.le_of_lt_succ hlt) hne⟩
        rw [put_nodes_of_ne _ y hne, put_nodes_of_ne _ x hneh, alloc_nodes_of_ne c v hne]

end Vdp22Ctx

/-! ### One event -/

theorem mem_of_findvsi {c : Vdp22Ctx} {me : Vsi22} {h : Nat} (hfind : vdp22Findvsi c me = some h) :
    h ∈ c.que := List.mem_of_find?_eq_some hfind

variable {c c' : Vdp22Ctx} {x : Vsi22Ctx} {r : Vsi22Ctx × Bool}

variable {y : Vsi22Ctx} {rc : Int}

/-- What `vdp22_addreq` does with the new node: it refuses the request, it runs the state
machine on the new node, or it changes the node that is there. -/
theorem vdp22Addreq_cases (hc : c.Wf) {v : Vsi22} {modf : Bool}
    (he : vdp22Addreq c.next (c.alloc v) = .ok (c', rc, modf)) :
    (rc ≠ 0 ∧ c' = c.alloc v) ∨
    (rc = 0 ∧ modf = false ∧ vdp22Findvsi c v = none ∧
      (vdp22Preassoc ≤ v.vsiMode ∧ v.vsiMode < vdp22Deassoc) ∧ ∃ y, vdp22stRun c.ecpRc
        { vsi := { v with smi := { v.smi with state := .station .begin } } } = .ok y ∧
      c' = (((c.alloc v).insertHead c.next (.station .begin) v.flags).put c.next y).put c.next
        y.reset.deref) ∨
    (∃ h, vdp22Findvsi c v = some h ∧ rc ≠ 0 ∧ c' = (c.alloc v).put h
      { c.nodes h with vsi := vdp22CmpStatus (c.nodes h).vsi v }) ∨
    (modf = true ∧ ∃ h, vdp22Findvsi c v = some h ∧ ∃ y, (c.nodes h).vsi.flags.busy = false ∧
      vdp22Modvsi c.ecpRc v.vsiMode (c.nodes h) = .ok (y, rc) ∧ c' = (c.alloc v).put h y) := by
  unfold vdp22Addreq at he
  dsimp only at he
  rw [Vdp22Ctx.alloc_nodes_self, hc.findvsi_alloc] at he
  by_cases hmode : v.vsiMode > vdp22Deassoc ∨ v.vsiMode < vdp22Preassoc
  · rw [if_pos hmode] at he
    cases he
    exact .inl ⟨by decide, rfl⟩
  rw [if_neg hmode] at he
  cases hfind : vdp22Findvsi c v with
  | none =>
    rw [hfind] at he
    dsimp only at he
    by_cases hdeassoc : v.vsiMode = vdp22Deassoc
    · rw [if_pos hdeassoc] at he
      cases he
      exact .inl ⟨by decide, rfl⟩
    · rw [if_neg hdeassoc] at he
      obtain ⟨c₂, hadd, he⟩ := bind_eq_ok.mp he
      cases he
      obtain ⟨y, hrun, hput⟩ := bind_eq_ok.mp hadd
      cases hput
      rw [Vdp22Ctx.alloc_nodes_self, Vdp22Ctx.insertHead_nodes_self] at hrun
      rw [Vdp22Ctx.alloc_nodes_self]
      rw [not_or] at hmode
      have hassoc : vdp22Preassoc ≤ v.vsiMode ∧ v.vsiMode < vdp22Deassoc :=
        ⟨UInt8.not_lt.mp hmode.2, UInt8.lt_of_le_of_ne (UInt8.not_lt.mp hmode.1) hdeassoc⟩
      refine .inr (.inl ⟨rfl, rfl, rfl, hassoc, y, hrun, ?_⟩)
      rw [Vdp22Ctx.put_nodes_self]
  | some h =>
    have hmem : h ∈ c.que := mem_of_findvsi hfind
    have hne : h ≠ c.next := Nat.ne_of_lt (hc.lt h hmem)
    rw [hfind] at he
    dsimp only at he
    rw [Vdp22Ctx.alloc_nodes_of_ne c v hne] at he
    cases hbusy : (c.nodes h).vsi.flags.busy with
    | true =>
      rw [if_pos hbusy] at he
      cases he
      exact .inl ⟨by decide, rfl⟩
    | false =>
      rw [if_neg (by rw [hbusy]; decide)] at he
      by_cases hcmp : vdp22CmpFdata (c.nodes h).vsi v = false
      · rw [if_pos hcmp] at he
        cases he
        exact .inr (.inr (.inl ⟨h, rfl, by decide, rfl⟩))
      · rw [if_neg hcmp] at he
        obtain ⟨⟨y, rc'⟩, hmod, he⟩ := bind_eq_ok.mp he
        cases he
        exact .inr (.inr (.inr ⟨rfl, h, rfl, y, hbusy, hmod, rfl⟩))

/-- A request makes no node, makes one that is not put into the queue, makes one that is, or
changes the one that is there. -/
theorem vdp22Request_moves (hc : c.Wf) {vsi : VdpnlVsi} {clif : Bool}
    (he : vdp22Request vsi clif c = .ok (c', rc)) : c.Moved (.request vsi clif) c' := by
  unfold vdp22Request at he
  by_cases hevb : c.evbon = false
  · rw [if_pos hevb] at he
    cases he
    exact hc.moved_of_eq rfl rfl rfl rfl
  rw [if_neg hevb] at he
  cases hrole : c.myrole with
  | bridge =>
    rw [if_pos hrole] at he
    cases he
    exact hc.moved_of_eq rfl rfl rfl rfl
  | station =>
    rw [if_neg (by rw [hrole]; decide)] at he
    dsimp only at he
    generalize (if clif = true then vsi else { vsi with request := vsi.request + 1 }) = req at he
    cases halloc : vdp22AllocVsiInt req c.gpid true with
    | error e =>
      rw [halloc] at he
      cases he
      exact hc.moved_of_eq rfl rfl rfl rfl
    | ok v =>
      rw [halloc] at he
      have hnew : v.smi = {} ∧ v.flags.deleteMe = false ∧ v.flags.notify = false := by
        unfold vdp22AllocVsiInt at halloc
        split_ifs at halloc
        cases halloc
        exact ⟨rfl, rfl, rfl⟩
      have hself := Vdp22Ctx.alloc_nodes_self c v
      have hrefused : Vsi22Move c (.request vsi clif) c.next (vdp22DeleteVsi { vsi := v }) :=
        .refused hrole hnew.1
      obtain ⟨⟨c₁, rc₁, modf⟩, hadd, he⟩ := bind_eq_ok.mp he
      cases he
      rcases vdp22Addreq_cases hc hadd with ⟨hrc, rfl⟩ | ⟨rfl, rfl, -, -, y, hrun, rfl⟩ |
        ⟨h, hfind, hrc, rfl⟩ | ⟨rfl, h, hfind, y, hbusy, hmod, rfl⟩
      · rw [if_pos (.inl hrc), hself]
        exact hc.moved_alloc hrefused
      · rw [if_neg (by simp)]
        refine hc.moved_insert_put (.added hrole hrun hnew) ?_
        unfold Vsi22Ctx.deref
        split_ifs with hreset hfreed hfreed
        · rfl
        · exact absurd hreset hfreed
        · exact absurd hfreed hreset
        · rfl
      · have hmem := mem_of_findvsi hfind
        have hne : c.next ≠ h := Nat.ne_of_gt (hc.lt h hmem)
        rw [if_pos (.inl hrc), Vdp22Ctx.put_nodes_of_ne _ _ hne, hself]
        exact hc.moved_both hmem (.mismatched hrole hmem) hrefused
      · have hmem := mem_of_findvsi hfind
        have hne : c.next ≠ h := Nat.ne_of_gt (hc.lt h hmem)
        rw [if_pos (.inr rfl), Vdp22Ctx.put_nodes_of_ne _ _ hne, hself]
        exact hc.moved_both hmem (.modified hrole hmem hbusy hmod) hrefused

/-- A TLV is about one node: the one that it names, or the one that it makes. -/
theorem vdp22Tlv_moves (hc : c.Wf) {vsip : Vsi22}
    (he : vdp22Tlv vsip c = .ok c') : c.Moved (.tlv vsip) c' := by
  unfold vdp22Tlv at he
  by_cases htlv : isVsiMode vsip.vsiMode ∧ vsip.fdata ≠ [] ∧ responseOk c.myrole vsip
  · rw [if_pos htlv] at he
    cases hrole : c.myrole with
    | station =>
      rw [hrole] at he htlv
      dsimp only at he
      unfold vdp22BridgeInfo at he
      cases hfind : vdp22Findvsi c vsip with
      | none =>
        rw [hfind] at he
        cases he
        exact hc.moved_of_eq rfl rfl rfl rfl
      | some h =>
        rw [hfind] at he
        obtain ⟨y, hrun, hput⟩ := bind_eq_ok.mp he
        cases hput
        have hmem := mem_of_findvsi hfind
        exact hc.moved_put (.answered hrole hmem hfind htlv.2.2 hrun)
          fun hle => absurd (hc.lt h hmem) (Nat.not_lt.mpr hle)
    | bridge =>
      rw [hrole] at he htlv
      dsimp only at he
      unfold vdp22StationInfo at he
      cases hfind : vdp22Findvsi c vsip with
      | none =>
        rw [hfind] at he
        dsimp only at he
        by_cases hdeassoc : vsip.vsiMode = vdp22Deassoc
        · rw [if_pos hdeassoc] at he
          cases he
          exact hc.moved_of_eq rfl rfl rfl rfl
        · rw [if_neg hdeassoc] at he
          cases hcopy : vdp22CopyVsi vsip c.gpid with
          | none =>
            rw [hcopy] at he
            cases he
            exact hc.moved_of_eq rfl rfl rfl rfl
          | some v =>
            rw [hcopy] at he
            obtain ⟨y, hrun, hput⟩ := bind_eq_ok.mp he
            cases hput
            rw [Vdp22Ctx.insertHead_nodes_self] at hrun
            have hmode : v.vsiMode ≠ vdp22Deassoc := by
              unfold vdp22CopyVsi at hcopy
              split_ifs at hcopy
              cases hcopy
              exact hdeassoc
            exact hc.moved_insert (.brAdded hrole hmode hrun)
      | some h =>
        rw [hfind] at he
        obtain ⟨y, hrun, hput⟩ := bind_eq_ok.mp he
        cases hput
        have hmem := mem_of_findvsi hfind
        exact hc.moved_put (.asked hrole hmem hfind htlv hrun)
          fun hle => absurd (hc.lt h hmem) (Nat.not_lt.mpr hle)
  · rw [if_neg htlv] at he
    cases he
    exact hc.moved_of_eq rfl rfl rfl rfl

theorem vdp22Expire_moves (hc : c.Wf) {t : Vdp22Timer} {h : Nat}
    (he : c.on h (vdp22Expire c.ecpRc t) = .ok c') : c.Moved (.timer t h) c' := by
  obtain ⟨y, hrun, hput⟩ := bind_eq_ok.mp he
  cases hput
  by_cases hlt : h < c.next
  · exact hc.moved_put (.expired hlt hrun) fun hle => absurd hlt (Nat.not_lt.mpr hle)
  · -- a number that is not used yet has no timers
    have hfresh := hc.fresh h (Nat.not_lt.mp hlt)
    have hnone : vdp22Expire c.ecpRc t {} = .ok {} := if_pos (by cases t <;> rfl)
    rw [hfresh, hnone] at hrun
    cases hrun
    refine hc.moved_of_eq rfl rfl ?_ rfl
    show Function.update c.nodes h _ = c.nodes
    exact Function.update_eq_self_iff.mpr hfresh.symm

/-- One event moves the nodes. -/
theorem vdp22Step_moves (hc : c.Wf) {e : Vdp22Event}
    (he : vdp22Step c e = .ok c') : c.Moved e c' := by
  cases e with
  | request vsi clif =>
    obtain ⟨⟨c₁, rc⟩, hreq, he⟩ := bind_eq_ok.mp he
    cases he
    exact vdp22Request_moves hc hreq
  | status number clif =>
    cases he
    unfold vdp22Status
    cases hnum : c.que[number - 1]? with
    | none => exact hc.moved_of_eq rfl rfl rfl rfl
    | some h =>
      split_ifs
      · exact hc.moved_of_eq rfl rfl rfl rfl
      · have hmem := List.mem_of_getElem? hnum
        exact hc.moved_put (.queried hmem hnum)
          fun hle => absurd (hc.lt h hmem) (Nat.not_lt.mpr hle)
  | tlv vsip => exact vdp22Tlv_moves hc he
  | timer t h => exact vdp22Expire_moves hc he
  | stop =>
    cases he
    refine hc.moved_forall (fun x => ?_) (fun x => ?_) fun h hmem => .stopped hmem
    · unfold vdp22StopTimers Vsi22Ctx.deref
      split_ifs <;> rfl
    · unfold vdp22StopTimers Vsi22Ctx.deref
      split_ifs with h₁ h₂ h₂
      · rfl
      · exact absurd h₁ h₂
      · exact absurd h₂ h₁
      · rfl
  | start =>
    cases he
    refine hc.moved_forall (fun x => ?_) (fun x => ?_) fun h hmem => .started hmem
    · unfold vdp22StartLocalchange Vsi22Ctx.deref
      split_ifs <;> rfl
    · unfold vdp22StartLocalchange Vsi22Ctx.deref
      split_ifs with h₁ h₂ h₂
      · rfl
      · exact absurd h₁ h₂
      · exact absurd h₂ h₁
      · rfl
  | fromEvb gpid evbon =>
    cases he
    exact hc.moved_of_eq rfl rfl rfl rfl
  | ecp rc =>
    cases he
    exact hc.moved_of_eq rfl rfl rfl rfl

theorem vdp22Create_wf (role : Vdp22Role) : (vdp22Create role).Wf where
  taken _ := rfl
  nodup := List.nodup_nil
  lt _ hmem := absurd hmem (List.not_mem_nil)
  live _ hmem := absurd hmem (List.not_mem_nil)
  fresh _ _ := rfl

/-- A property of the nodes that every move keeps holds in every state of a run. The moves
may use that it holds of all nodes before, and what the run's steps meet. -/
theorem nodes_of_reachableWhere {cond : Vdp22Ctx → Vdp22Event → Prop}
    {Q : Vdp22Role → Vsi22Ctx → Prop}
    (hmove : ∀ {c e h y}, c.Wf → (∀ h < c.next, Q c.myrole (c.nodes h)) → cond c e →
      Vsi22Move c e h y → Q c.myrole y.reset)
    {c : Vdp22Ctx} (hreach : vdp22System.ReachableWhere cond c) :
    c.Wf ∧ ∀ h < c.next, Q c.myrole (c.nodes h) := by
  refine hreach.invariant (I := fun c => c.Wf ∧ ∀ h < c.next, Q c.myrole (c.nodes h)) ?_ ?_
  · rintro _ ⟨role, rfl⟩
    exact ⟨vdp22Create_wf role, fun h hlt => absurd hlt (Nat.not_lt_zero h)⟩
  · rintro c e c' ⟨hwf, hQ⟩ hcond he
    have hmoved := vdp22Step_moves hwf he
    refine ⟨hmoved.wf, fun h hlt => ?_⟩
    rw [hmoved.myrole]
    rcases hmoved.node h with ⟨hsame, -, hlt'⟩ | ⟨y, hm, hy⟩
    · rw [hsame]
      exact hQ h (hlt' hlt)
    · rw [hy]
      exact hmove hwf hQ hcond hm

/-! ### A freed node stays freed -/

theorem deref_of_live (hlive : x.freed = false) : x.deref = x := by
  rw [Vsi22Ctx.deref, if_neg (by rw [hlive]; decide)]

@[simp] theorem deref_freed (x : Vsi22Ctx) : x.deref.freed = x.freed := by
  unfold Vsi22Ctx.deref
  split_ifs <;> rfl

@[simp] theorem deref_vsi (x : Vsi22Ctx) : x.deref.vsi = x.vsi := by
  unfold Vsi22Ctx.deref
  split_ifs <;> rfl

@[simp] theorem deref_timers (x : Vsi22Ctx) : x.deref.timers = x.timers := by
  unfold Vsi22Ctx.deref
  split_ifs <;> rfl

theorem vdp22Back_freed (pid : Int) (hfreed : x.freed = true) :
    (vdp22Back pid x).freed = true := by
  unfold vdp22Back
  dsimp only
  split_ifs
  · rfl
  · simpa using hfreed

theorem vdp22Nlback_freed (hfreed : x.freed = true) :
    (vdp22Nlback x).freed = true := by
  unfold vdp22Nlback
  dsimp only
  split_ifs
  · exact vdp22Back_freed _ (by simpa using hfreed)
  · simpa using hfreed

theorem vdp22Clntback_freed (hfreed : x.freed = true) :
    (vdp22Clntback x).freed = true := by
  unfold vdp22Clntback
  dsimp only
  split_ifs
  · exact vdp22Back_freed _ (by simpa using hfreed)
  · simpa using hfreed

@[simp] theorem vdp22stProcess_freed (rc : Int) (x : Vsi22Ctx) :
    (vdp22stProcess rc x).freed = x.freed := by
  unfold vdp22stProcess
  split_ifs <;> rfl

theorem vdp22stAction_freed (rc : Int) (hfreed : x.freed = true) :
    (vdp22stAction rc x).freed = true := by
  have hderef : x.deref.freed = true := by rw [deref_freed, hfreed]
  unfold vdp22stAction
  dsimp only
  split
  all_goals
    first
    | exact vdp22Clntback_freed hderef
    | exact (vdp22stProcess_freed rc _).trans hderef
    | exact hderef

theorem vdp22stGoto_eq_ok {s : Vdp22State} (h : vdp22stGoto x s = .ok r) :
    r = (x.setSmi fun smi => { smi with state := .station s }, true) := by
  obtain ⟨y, hy, hr⟩ := bind_eq_ok.mp h
  cases hr
  cases s with
  | begin => cases hy; rfl
  | _ =>
    obtain ⟨_, -, hy⟩ := bind_eq_ok.mp hy
    cases hy
    rfl

/-- The station waits for the bridge in this state. -/
def isWaiting : Vdp22SmState → Bool
  | .station .stationProcwait | .station .txmitKawait | .station .txmitDeawait => true
  | _ => false

/-- The machine has nothing to do. -/
def AtRest (smi : Vdp22smi) : Prop :=
  match smi.state with
  | .station .stationProcwait | .station .txmitKawait | .station .txmitDeawait =>
    smi.txmitError = 0 ∧ smi.acktimeout = false ∧ smi.ackreceived = false
  | .station .waitSyscmd2 | .station .vdpEnd | .bridge _ | .none => True
  | _ => False

/-- The bridge will not answer any more. -/
def Failed (smi : Vdp22smi) : Prop := smi.txmitError ≠ 0 ∨ smi.acktimeout = true

/-- Where the station machine goes from a state -/
inductive StNext (v : Vsi22) : Vdp22State → Vdp22State → Prop
  | begin : StNext v .begin .init
  | init : StNext v .init .stationProc
  | stationProc : StNext v .stationProc .stationProcwait
  | assocNew : StNext v .assocNew .assocCompl
  | assocCompl : StNext v .assocCompl .waitSyscmd
  | preassocNew : StNext v .preassocNew .waitSyscmd
  | waitSyscmd : StNext v .waitSyscmd .waitSyscmd2
  | txmitKa : StNext v .txmitKa .txmitKawait
  | txmitDeassoc : StNext v .txmitDeassoc .txmitDeawait
  | txmitDeawait2 : StNext v .txmitDeawait2 .vdpEnd
  | failed {s : Vdp22State} (hs : isWaiting (.station s) = true) (h : Failed v.smi) :
      StNext v s .vdpEnd
  | answered (hno : ¬ Failed v.smi) (h : v.smi.ackreceived = true) :
      StNext v .stationProcwait .stationProcwait2
  | kaAnswered (hno : ¬ Failed v.smi) (h : v.smi.ackreceived = true) :
      StNext v .txmitKawait .txmitKawait2
  | deaAnswered (hno : ¬ Failed v.smi) (h : v.smi.ackreceived = true) :
      StNext v .txmitDeawait .txmitDeawait2
  | judged : StNext v .stationProcwait2 (vdp22stProcAnswer v)
  | renewed : StNext v .txmitKawait2 (vdp22stKaAnswer v)
  | kato (h : v.smi.kato = true) : StNext v .waitSyscmd2 .txmitKa
  | localchg (h : v.smi.localchg = true) : StNext v .waitSyscmd2 .stationProc
  | deassoc (h : v.smi.deassoc = true) : StNext v .waitSyscmd2 .vdpEnd

/-- The machine goes on to another state. -/
def StGoes (x y : Vsi22Ctx) (b : Bool) : Prop :=
  b = true ∧ ∃ s t, x.vsi.smi.state = .station s ∧ StNext x.vsi s t ∧
    y = x.setSmi fun smi => { smi with state := .station t }

/-- A move of the station machine leads on, or there is nothing to do. -/
theorem vdp22stNextState_cases {b : Bool} (h : vdp22stNextState x = .ok (y, b)) :
    (b = false ∧ y = x ∧ AtRest x.vsi.smi) ∨ StGoes x y b := by
  have hgoto : ∀ {s t : Vdp22State}, x.vsi.smi.state = .station s → StNext x.vsi s t →
      vdp22stGoto x t = .ok (y, b) → StGoes x y b := by
    intro s t hstate hnext h
    cases vdp22stGoto_eq_ok h
    exact ⟨rfl, s, t, hstate, hnext, rfl⟩
  unfold vdp22stNextState vdp22stWait at h
  cases hstate : x.vsi.smi.state with
  | none | bridge =>
    rw [hstate] at h
    cases h
    exact .inl ⟨rfl, rfl, by simp [AtRest, hstate]⟩
  | station s =>
    rw [hstate] at h
    cases s with
    | stationProcwait | txmitKawait | txmitDeawait =>
      -- each of the three waits looks for a failure first
      dsimp only at h
      split_ifs at h with herror hreceived
      · exact .inr (hgoto hstate (.failed rfl herror) h)
      · exact .inr (hgoto hstate (by constructor <;> assumption) h)
      · cases h
        rw [not_or, not_not, Bool.not_eq_true] at herror
        exact .inl ⟨rfl, rfl, by simp [AtRest, hstate, herror, hreceived]⟩
    | waitSyscmd2 =>
      dsimp only at h
      split_ifs at h with hkato hlocalchg hdeassoc
      · exact .inr (hgoto hstate (.kato hkato) h)
      · exact .inr (hgoto hstate (.localchg hlocalchg) h)
      · exact .inr (hgoto hstate (.deassoc hdeassoc) h)
      · cases h
        exact .inl ⟨rfl, rfl, by simp [AtRest, hstate]⟩
    | vdpEnd =>
      cases h
      exact .inl ⟨rfl, rfl, by simp [AtRest, hstate]⟩
    | _ => exact .inr (hgoto hstate (by constructor) h)

theorem vdp22stNextState_eq_ok (h : vdp22stNextState x = .ok r) :
    r = (x, false) ∨ ∃ s, r = (x.setSmi fun smi => { smi with state := .station s }, true) := by
  obtain ⟨y, b⟩ := r
  obtain ⟨rfl, rfl, -⟩ | ⟨rfl, s, t, -, -, rfl⟩ := vdp22stNextState_cases h
  · exact .inl rfl
  · exact .inr ⟨t, rfl⟩

theorem vdp22stEnd_freed (hfreed : x.freed = true) :
    (vdp22stEnd x).freed = true := by
  have hderef : x.deref.freed = true := by rw [deref_freed, hfreed]
  unfold vdp22stEnd
  dsimp only
  split_ifs
  · exact vdp22Clntback_freed (vdp22Nlback_freed hderef)
  · exact vdp22Clntback_freed hderef

theorem vdp22stRun_freed {x : Vsi22Ctx} (hfreed : x.freed = true)
    (h : vdp22stRun rc x = .ok y) : y.freed = true := by
  obtain ⟨z, hz, hy⟩ := bind_eq_ok.mp h
  cases hy
  have hzfreed : z.freed = true := by
    refine Machine.run_preserves (I := fun x => x.freed = true) ?_ ?_ hfreed hz
    · intro s t hs ht
      cases ht
      exact vdp22stAction_freed rc hs
    · intro s t b hs ht
      have hderef : s.deref.freed = true := by rw [deref_freed, hs]
      rcases vdp22stNextState_eq_ok ht with hr | ⟨_, hr⟩ <;> (cases hr; exact hderef)
  have hderef : z.deref.freed = true := by rw [deref_freed, hzfreed]
  split_ifs
  · exact vdp22stEnd_freed hderef
  · exact hderef

/-- A run of a machine that has nothing to do -/
theorem vdp22stRun_still {x : Vsi22Ctx} (hlive : x.freed = false)
    (hmove : vdp22stNextState x = .ok (x, false)) (hact : vdp22stAction rc x = x) :
    vdp22stRun rc x =
      .ok (if x.vsi.smi.state = .station .vdpEnd then vdp22stEnd x else x) := by
  have hderef := deref_of_live hlive
  have hfinal : (vdp22stMachine rc).move x = .ok (x, false) := by
    show vdp22stNextState x.deref = _
    rw [hderef, hmove]
  unfold vdp22stRun
  rw [Machine.run_eq_of_final hfinal (congrArg Except.ok hact) hfinal, bind_ok, hderef]
  rfl

theorem vdp22brGoto_eq_ok {s : Vdp22brState} (h : vdp22brGoto x s = .ok r) :
    r = (x.setSmi fun smi => { smi with state := .bridge s }, true) := by
  obtain ⟨y, hy, hr⟩ := bind_eq_ok.mp h
  cases hr
  cases s with
  | begin => cases hy; rfl
  | _ =>
    obtain ⟨_, -, hy⟩ := bind_eq_ok.mp hy
    cases hy
    rfl

theorem vdp22brNextState_eq_ok (h : vdp22brNextState x = .ok r) :
    r = (x, false) ∨ ∃ s, r = (x.setSmi fun smi => { smi with state := .bridge s }, true) := by
  unfold vdp22brNextState at h
  split at h
  all_goals
    first
    | exact .inr ⟨_, vdp22brGoto_eq_ok h⟩
    | (split_ifs at h
       all_goals
         first
         | exact .inr ⟨_, vdp22brGoto_eq_ok h⟩
         | (cases h; exact .inl rfl))
    | (cases h; exact .inl rfl)

theorem vdp22brAction_freed (hfreed : x.freed = true) :
    (vdp22brAction x).freed = true := by
  have hderef : x.deref.freed = true := by rw [deref_freed, hfreed]
  unfold vdp22brAction
  dsimp only
  split
  all_goals
    first
    | exact hderef
    | rfl
    | (unfold vdp22brProcess
       dsimp only
       split_ifs <;> exact hderef)

theorem vdp22brRun_freed {x : Vsi22Ctx} (hfreed : x.freed = true) (h : vdp22brRun x = .ok y) :
    y.freed = true := by
  refine Machine.run_preserves (I := fun x => x.freed = true) ?_ ?_ hfreed h
  · intro s t hs ht
    cases ht
    exact vdp22brAction_freed hs
  · intro s t b hs ht
    have hderef : s.deref.freed = true := by rw [deref_freed, hs]
    rcases vdp22brNextState_eq_ok ht with hr | ⟨_, hr⟩ <;> (cases hr; exact hderef)

theorem vdp22Expire_freed {t : Vdp22Timer} {x : Vsi22Ctx} (hfreed : x.freed = true)
    (h : vdp22Expire rc t x = .ok y) : y.freed = true := by
  have hderef : ∀ z : Vsi22Ctx, z.freed = true → z.deref.freed = true := fun z hz => by
    rw [deref_freed, hz]
  unfold vdp22Expire at h
  split_ifs at h
  · cases h
    exact hfreed
  · cases t with
    | ackto =>
      unfold vdp22Handler vdp22stHandleAckto at h
      dsimp only at h
      split_ifs at h
      · exact vdp22stRun_freed (by exact hderef _ hfreed) h
      · cases h
        exact hderef _ hfreed
    | kato => exact vdp22stRun_freed (by exact hderef _ hfreed) h
    | brKato | resto => exact vdp22brRun_freed (by exact hderef _ hfreed) h
    | localchange =>
      unfold vdp22Handler vdp22LocalchangeHandler at h
      dsimp only at h
      split_ifs at h
      · exact vdp22stRun_freed (by exact hderef _ hfreed) h
      · cases h
        exact hderef _ hfreed

end Lldpad.Qbg
