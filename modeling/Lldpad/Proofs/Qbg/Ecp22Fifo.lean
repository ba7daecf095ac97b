import Lldpad.Proofs.Qbg.Ecp22Rest
import Lldpad.Qbg.Ecp22Queue
import Mathlib.Data.Option.Basic

/-!
# `Lldpad.Proofs.Qbg.Ecp22Fifo`: the transmit queue of ECP

`Good` ties the memory to two lists of nodes: those in use and the free ones. Each operation is
one lemma about it (`Good.getnode`, `Good.putnode`, `Good.addPayload`, `Good.buildEcpdu`), and
none stops the program.

* `queue_fifo`: the four relations of the queue, in every reachable state.
* `queue_refines`: in every run the lists in memory do what the list and the counter of `Ecp22`
  do. `ecp22Step_moves` says which moves an event of an instance makes.
-/

namespace Lldpad.Qbg

open Lldpad.Lib
open Lldpad.Lldp (Bytes)

namespace Ecp22Queue

/-- The nodes in use and the free nodes of a queue -/
structure Good (q : Ecp22Queue) (used free : List Nat) : Prop where
  inuse : q.mem.Linked (.first .inuse) used
  isfree : q.mem.Linked (.first .isfree) free
  nodup : (used ++ free).Nodup
  last : ∀ n, used.getLast? = some n → q.last = some n
  freecnt : q.freecnt.toNat = free.length
  bound : free.length ≤ ecp22Maxpayload.toNat + 1
  full : ∀ n ∈ used, (q.payload n).isSome = true
  order : q.accepted.map some = q.built.map some ++ used.map q.payload

/-- A node that was taken from the free list or allocated, and is on no list -/
structure Taken (q : Ecp22Queue) (used free : List Nat) (n : Nat) : Prop where
  good : q.Good used free
  live : q.mem.live n = true
  notUsed : n ∉ used
  notFree : n ∉ free

variable {q : Ecp22Queue} {used free : List Nat}

theorem Good.disjoint (h : q.Good used free) {n : Nat} (hn : n ∈ used) : n ∉ free :=
  fun hfree => List.disjoint_of_nodup_append h.nodup hn hfree

theorem map_payload_write {n : Nat} (hn : n ∉ used) (q : Ecp22Queue) (x : Ecp22QueueNode) :
    used.map (payload { q with nodes := Function.update q.nodes n x }) = used.map q.payload := by
  refine List.map_congr_left fun k hk => ?_
  have hkn : k ≠ n := fun heq => hn (heq ▸ hk)
  unfold payload
  dsimp only
  rw [Function.update_of_ne hkn]

theorem Good.write (h : q.Good used free) {n : Nat} (hn : n ∉ used) (x : Ecp22QueueNode) :
    Good { q with nodes := Function.update q.nodes n x } used free := by
  have hpayload := map_payload_write hn q x
  refine ⟨h.inuse, h.isfree, h.nodup, h.last, h.freecnt, h.bound, fun k hk => ?_, ?_⟩
  · rw [List.map_inj_left.mp hpayload k hk]
    exact h.full k hk
  · rw [hpayload]
    exact h.order

/-- `ecp22_getnode` -/
theorem Good.getnode (h : q.Good used free) (addr : Option Nat) :
    (q.getnode addr = .ok (q, none) ∧ free = []) ∨
      ∃ q' n, q.getnode addr = .ok (q', some n) ∧ q'.Taken used free.tail n ∧
        q'.freecnt = (if q.freecnt = 0 then 0 else q.freecnt - 1) ∧
        used.map q'.payload = used.map q.payload := by
  have hhead := h.isfree.head
  unfold Ecp22Queue.getnode
  cases free with
  | cons n rest =>
    right
    rw [hhead]
    obtain ⟨hnodupUsed, hnodupFree, hdisj⟩ := List.nodup_append.mp h.nodup
    obtain ⟨mem, hmem, hfree, hsame⟩ := ListMem.remove_first_linked h.isfree hnodupFree
    obtain ⟨hn, hnodupRest⟩ := List.nodup_cons.mp hnodupFree
    have hnotUsed : n ∉ used := fun hu => h.disjoint hu (List.mem_cons_self ..)
    have hcount : q.freecnt.toNat = rest.length + 1 := h.freecnt
    have hne : q.freecnt ≠ 0 := by
      intro hzero
      rw [hzero] at hcount
      cases hcount
    refine ⟨{ q with mem := mem, freecnt := q.freecnt - 1 }, n, ?_,
      ⟨⟨?_, hfree, ?_, h.last, ?_, ?_, h.full, h.order⟩, ?_, hnotUsed, hn⟩, (if_neg hne).symm,
      rfl⟩
    · dsimp only [List.head?]
      rw [hmem]
      rfl
    · refine h.inuse.frame hsame (by simp) (fun k hk => by simp) fun k hk hrest => ?_
      exact h.disjoint hk (List.mem_cons_of_mem n hrest)
    · exact h.nodup.sublist ((List.sublist_cons_self n rest).append_left used)
    · show (q.freecnt - 1).toNat = rest.length
      have hone : (1 : UInt16) ≤ q.freecnt := by
        rw [UInt16.le_iff_toNat_le, hcount]
        exact Nat.le_add_left 1 _
      rw [UInt16.toNat_sub_of_le _ _ hone, hcount]
      rfl
    · exact Nat.le_trans (Nat.le_succ _) h.bound
    · rw [hsame.live]
      exact h.isfree.1.live (List.mem_cons_self ..)
  | nil =>
    rw [hhead]
    have hzero : q.freecnt = 0 := UInt16.toNat_inj.mp h.freecnt
    cases haddr : addr.filter (!q.mem.live ·) with
    | none => exact .inl ⟨rfl, rfl⟩
    | some n =>
      right
      have hdead : q.mem.live n = false := by
        have hcond := (Option.filter_eq_some_iff.mp haddr).2
        simpa using hcond
      have hnotUsed : n ∉ used := fun hu => by
        rw [h.inuse.1.live hu] at hdead
        cases hdead
      refine ⟨{ q with mem := q.mem.setLive n true, nodes := Function.update q.nodes n {} }, n,
        rfl, ⟨?_, Function.update_self .., hnotUsed, List.not_mem_nil⟩, ?_,
        map_payload_write hnotUsed q {}⟩
      · have hwritten := h.write hnotUsed {}
        exact { hwritten with
          inuse := h.inuse.setLive hnotUsed true
          isfree := h.isfree.setLive List.not_mem_nil true }
      · rw [hzero]
        rfl

theorem Taken.putnode {n : Nat} (h : q.Taken used free n) :
    ∃ q' free', q.putnode n = .ok q' ∧ q'.Good used free' ∧
      q'.freecnt = (if q.freecnt > ecp22Maxpayload then q.freecnt else q.freecnt + 1) ∧
      used.map q'.payload = used.map q.payload := by
  have hwritten := h.good.write h.notUsed { q.nodes n with ptlv := none }
  have hpayload := map_payload_write h.notUsed q { q.nodes n with ptlv := none }
  unfold Ecp22Queue.putnode
  rw [ListMem.touch_live h.live, bind_ok]
  by_cases hmany : q.freecnt > ecp22Maxpayload
  · rw [if_pos hmany]
    refine ⟨_, free, rfl, ?_, (if_pos hmany).symm, hpayload⟩
    exact { hwritten with
      inuse := h.good.inuse.setLive h.notUsed false
      isfree := h.good.isfree.setLive h.notFree false }
  · rw [if_neg hmany]
    have hnodupFree : free.Nodup := (List.nodup_append.mp h.good.nodup).2.1
    obtain ⟨mem, hmem, hfree, hsame⟩ :=
      ListMem.insert_linked h.good.isfree hnodupFree h.live h.notFree
    rw [hmem]
    have hle : free.length ≤ ecp22Maxpayload.toNat := by
      rw [← h.good.freecnt]
      exact UInt16.le_iff_toNat_le.mp (UInt16.not_lt.mp hmany)
    refine ⟨_, n :: free, rfl, ?_, (if_neg hmany).symm, hpayload⟩
    refine { hwritten with
      inuse := ?_, isfree := hfree, nodup := ?_, freecnt := ?_, bound := Nat.succ_le_succ hle }
    · refine h.good.inuse.frame hsame (by simp) (fun k hk => ?_) fun k hk hmem => ?_
      · have hkn : k ≠ n := fun heq => h.notUsed (heq ▸ hk)
        simpa using hkn
      · rcases List.mem_cons.mp hmem with rfl | hmem
        · exact h.notUsed hk
        · exact h.good.disjoint hk hmem
    · refine (List.perm_middle.nodup_iff).mpr (List.nodup_cons.mpr ⟨?_, h.good.nodup⟩)
      rw [List.mem_append, not_or]
      exact ⟨h.notUsed, h.notFree⟩
    · show (q.freecnt + 1).toNat = free.length + 1
      have hbound : free.length ≤ 64 := hle
      rw [UInt16.toNat_add, h.good.freecnt]
      exact Nat.mod_eq_of_lt (by show free.length + 1 < 65536; omega)

/-- `ecp22_add_payload` of a node with a payload -/
theorem Taken.addPayload {n : Nat} (h : q.Taken used free n) {x : Ecp22PayloadNode}
    (hx : q.payload n = some x) :
    ∃ q', q.addPayload n = .ok q' ∧ q'.Good (used ++ [n]) free ∧ q'.freecnt = q.freecnt ∧
      q'.payload = q.payload := by
  have hnodupUsed : used.Nodup := (List.nodup_append.mp h.good.nodup).1
  -- The node is the last one, whichever way it was inserted.
  suffices hinsert : ∃ mem : ListMem Ecp22List,
      q.addPayload n = .ok { q with
        mem := mem, last := some n, accepted := q.accepted ++ [x] } ∧
      mem.Linked (.first .inuse) (used ++ [n]) ∧ mem.Linked (.first .isfree) free by
    obtain ⟨mem, hadd, hinuse, hisfree⟩ := hinsert
    refine ⟨_, hadd, ⟨hinuse, hisfree, ?_, ?_, h.good.freecnt, h.good.bound, ?_, ?_⟩, rfl, rfl⟩
    · rw [List.append_assoc, List.singleton_append]
      refine (List.perm_middle.nodup_iff).mpr (List.nodup_cons.mpr ⟨?_, h.good.nodup⟩)
      rw [List.mem_append, not_or]
      exact ⟨h.notUsed, h.notFree⟩
    · intro k hk
      rw [List.getLast?_append, List.getLast?_singleton, Option.some_or] at hk
      exact hk
    · intro k hk
      rcases List.mem_append.mp hk with hk | hk
      · exact h.good.full k hk
      · rw [List.mem_singleton.mp hk]
        exact Option.isSome_of_eq_some hx
    · show (q.accepted ++ [x]).map some = q.built.map some ++ (used ++ [n]).map q.payload
      rw [List.map_append, List.map_append, h.good.order, List.append_assoc]
      simp [hx]
  have hhead := h.good.inuse.head
  unfold Ecp22Queue.addPayload
  rw [hx, hhead]
  rcases List.eq_nil_or_concat' used with rfl | ⟨before, k, rfl⟩
  · obtain ⟨mem, hmem, hinuse, hsame⟩ :=
      ListMem.insert_linked h.good.inuse hnodupUsed h.live List.not_mem_nil
    refine ⟨mem, ?_, hinuse, ?_⟩
    · dsimp only [List.head?]
      rw [hmem]
      rfl
    · refine h.good.isfree.frame hsame (by simp) (fun j hj => ?_) fun j hj hmem => ?_
      · have hjn : j ≠ n := fun heq => h.notFree (heq ▸ hj)
        simpa using hjn
      · exact h.notFree (List.mem_singleton.mp hmem ▸ hj)
  · -- `last` is the last node.
    have hlast : q.last = some k := h.good.last k (by simp)
    obtain ⟨mem, hmem, hinuse, hsame⟩ :=
      ListMem.insert_last_linked h.good.inuse hnodupUsed h.live h.notUsed
    refine ⟨mem, ?_, hinuse, ?_⟩
    · rw [hlast]
      cases hb : (before ++ [k]).head? with
      | none => simp at hb
      | some j =>
        dsimp only
        rw [hmem]
        rfl
    · refine h.good.isfree.frame hsame (by simp) (fun j hj => ?_) fun j hj hmem => ?_
      · have hjn : j ≠ n := fun heq => h.notFree (heq ▸ hj)
        have hjk : j ≠ k := fun heq =>
          h.good.disjoint (List.mem_append_right _ (by simp)) (heq ▸ hj)
        simp [hjn, hjk]
      · exact h.notFree (List.mem_singleton.mp hmem ▸ hj)

theorem Good.req2send (h : q.Good used free) (copied : Bool) (subtype : UInt16) (mac : MacAddr)
    (du : Bytes) (addr : Option Nat) :
    (q.req2send copied subtype mac du addr = .ok q ∧
        (copied = false ∨ ecp22MaxpayloadLen ≤ du.length ∨ free = [])) ∨
      copied = true ∧ du.length < ecp22MaxpayloadLen ∧
      ∃ q' n, q.req2send copied subtype mac du addr = .ok q' ∧ q'.Good (used ++ [n]) free.tail ∧
        q'.freecnt = (if q.freecnt = 0 then 0 else q.freecnt - 1) ∧
        (used ++ [n]).map q'.payload =
          used.map q.payload ++ [some { ptlv := du, subtype := subtype, mac := mac }] := by
  unfold Ecp22Queue.req2send
  cases copied with
  | false => exact .inl ⟨if_pos rfl, .inl rfl⟩
  | true =>
  rw [if_neg Bool.noConfusion]
  by_cases hlong : du.length ≥ ecp22MaxpayloadLen
  · rw [if_pos hlong]
    exact .inl ⟨rfl, .inr (.inl hlong)⟩
  · rw [if_neg hlong]
    rcases h.getnode addr with ⟨hnone, hfree⟩ | ⟨q₁, n, hsome, htaken, hcount, hkept⟩
    · rw [hnone]
      exact .inl ⟨rfl, .inr (.inr hfree)⟩
    · right
      rw [hsome, bind_ok]
      let x : Ecp22QueueNode := { ptlv := some du, subtype := subtype, mac := mac }
      let q₂ : Ecp22Queue := { q₁ with nodes := Function.update q₁.nodes n x }
      have hfilled : q₂.Taken used free.tail n :=
        ⟨htaken.good.write htaken.notUsed x, htaken.live, htaken.notUsed, htaken.notFree⟩
      have hpayload : q₂.payload n = some { ptlv := du, subtype := subtype, mac := mac } := by
        unfold payload
        simp [q₂, x]
      obtain ⟨q', hadd, hgood, hcount', hsame⟩ := hfilled.addPayload hpayload
      refine ⟨rfl, Nat.not_le.mp hlong, q', n, hadd, hgood, hcount'.trans hcount, ?_⟩
      rw [hsame, List.map_append, map_payload_write htaken.notUsed q₁ x, hkept]
      exact congrArg _ (congrArg (· :: []) hpayload)

/-- `ecp22_build_ecpdu` -/
theorem Good.buildEcpdu (h : q.Good used free) :
    (q.buildEcpdu = .ok q ∧ used = []) ∨
      ∃ q' n rest free', used = n :: rest ∧ q.buildEcpdu = .ok q' ∧ q'.Good rest free' ∧
        q'.freecnt = (if q.freecnt > ecp22Maxpayload then q.freecnt else q.freecnt + 1) ∧
        rest.map q'.payload = rest.map q.payload := by
  have hhead := h.inuse.head
  unfold Ecp22Queue.buildEcpdu
  rw [hhead]
  cases used with
  | nil => exact .inl ⟨rfl, rfl⟩
  | cons n rest =>
    right
    obtain ⟨hnodupUsed, -, -⟩ := List.nodup_append.mp h.nodup
    obtain ⟨hn, hnodupRest⟩ := List.nodup_cons.mp hnodupUsed
    have hlive : q.mem.live n = true := h.inuse.1.live (List.mem_cons_self ..)
    obtain ⟨x, hx⟩ := Option.isSome_iff_exists.mp (h.full n (List.mem_cons_self ..))
    obtain ⟨mem, hmem, hinuse, hsame⟩ := ListMem.remove_first_linked h.inuse hnodupUsed
    let q₁ : Ecp22Queue := { q with mem := mem, built := q.built ++ [x] }
    have htaken : q₁.Taken rest free n := by
      refine ⟨⟨hinuse, ?_, ?_, fun k hk => ?_, h.freecnt, h.bound,
        fun k hk => h.full k (List.mem_cons_of_mem n hk), ?_⟩, ?_, hn,
        h.disjoint (List.mem_cons_self ..)⟩
      · exact h.isfree.frame hsame (by simp) (fun k _ => by simp) fun k hk hrest =>
          h.disjoint (List.mem_cons_of_mem n hrest) hk
      · exact (List.nodup_cons.mp h.nodup).2
      · -- The last node is the same one.
        refine h.last k ?_
        cases rest with
        | nil => cases hk
        | cons j rest => rwa [List.getLast?_cons_cons]
      · show q.accepted.map some = (q.built ++ [x]).map some ++ rest.map q.payload
        rw [h.order, List.map_cons, hx, List.map_append, List.append_assoc]
        rfl
      · show mem.live n = true
        rw [hsame.live]
        exact hlive
    obtain ⟨q', free', hput, hgood, hcount, hkept⟩ := htaken.putnode
    refine ⟨q', n, rest, free', rfl, ?_, hgood, hcount, hkept⟩
    dsimp only [List.head?]
    rw [ListMem.touch_live hlive, bind_ok, hx]
    dsimp only
    rw [hmem, bind_ok]
    exact hput

/-! ### Runs -/

theorem good_empty : Good {} [] [] :=
  ⟨ListMem.linked_empty _ _, ListMem.linked_empty _ _, List.nodup_nil, nofun, rfl,
    Nat.zero_le _, nofun, rfl⟩

theorem Good.step (h : q.Good used free) (e : Ecp22QueueEvent) :
    ∃ q' used' free', queueSystem.step q e = .ok q' ∧ q'.Good used' free' := by
  cases e with
  | send copied subtype mac du addr =>
    rcases h.req2send copied subtype mac du addr with
      ⟨hsame, -⟩ | ⟨-, -, q', n, hsend, hgood, -, -⟩
    · exact ⟨q, used, free, hsame, h⟩
    · exact ⟨q', _, _, hsend, hgood⟩
  | build =>
    rcases h.buildEcpdu with ⟨hsame, -⟩ | ⟨q', n, rest, free', -, hbuild, hgood, -, -⟩
    · exact ⟨q, used, free, hsame, h⟩
    · exact ⟨q', rest, free', hbuild, hgood⟩

theorem good_of_reachable (h : queueSystem.Reachable q) : ∃ used free, q.Good used free := by
  refine h.invariant (I := fun q => ∃ used free, q.Good used free) ?_ ?_
  · rintro _ rfl
    exact ⟨[], [], good_empty⟩
  · rintro s e t ⟨used, free, hgood⟩ hstep
    obtain ⟨q', used', free', hok, hgood'⟩ := hgood.step e
    cases hok.symm.trans hstep
    exact ⟨used', free', hgood'⟩

theorem Good.waiting (h : q.Good used free) :
    ∃ waiting, used.map q.payload = waiting.map some ∧ q.accepted = q.built ++ waiting := by
  obtain ⟨waiting, hwaiting⟩ : ∃ waiting : List Ecp22PayloadNode,
      used.map q.payload = waiting.map some := by
    refine ⟨used.filterMap q.payload, ?_⟩
    rw [List.map_filterMap_some_eq_filter_map_isSome, List.filter_eq_self.mpr]
    intro x hx
    obtain ⟨n, hn, rfl⟩ := List.mem_map.mp hx
    exact h.full n hn
  refine ⟨waiting, hwaiting, ?_⟩
  have horder := h.order
  rw [hwaiting, ← List.map_append] at horder
  exact List.map_injective_iff.mpr (Option.some_injective _) horder

/-! ### The list and the counter of `Ecp22` -/

/-- The payloads that wait, and the counter of the free nodes -/
abbrev Payloads := List Ecp22PayloadNode × UInt16

/-- The payloads are those of the nodes in use, and the counter is the same. -/
def Represents (q : Ecp22Queue) (x : Payloads) : Prop :=
  (∃ used free, q.Good used free ∧ used.map q.payload = x.1.map some) ∧ q.freecnt = x.2

/-- What an event does with the list and the counter -/
inductive QueueMove : Payloads → Ecp22QueueEvent → Payloads → Prop
  | queued {waiting : List Ecp22PayloadNode} {freecnt subtype : UInt16} {mac : MacAddr}
      {du : Bytes} {addr : Option Nat} : du.length < ecp22MaxpayloadLen →
        QueueMove (waiting, freecnt) (.send true subtype mac du addr)
          (waiting ++ [{ ptlv := du, subtype := subtype, mac := mac }],
            if freecnt = 0 then 0 else freecnt - 1)
  /-- A payload is refused only if it was not copied, it is too long, or no node is free. -/
  | refused {x : Payloads} {copied : Bool} {subtype : UInt16} {mac : MacAddr} {du : Bytes}
      {addr : Option Nat} : copied = false ∨ ecp22MaxpayloadLen ≤ du.length ∨ x.2 = 0 →
        QueueMove x (.send copied subtype mac du addr) x
  | built {p : Ecp22PayloadNode} {waiting : List Ecp22PayloadNode} {freecnt : UInt16} :
      QueueMove (p :: waiting, freecnt) .build
        (waiting, if freecnt > ecp22Maxpayload then freecnt else freecnt + 1)
  | empty {freecnt : UInt16} : QueueMove ([], freecnt) .build ([], freecnt)

theorem Represents.step {x : Payloads} (h : q.Represents x) (e : Ecp22QueueEvent) :
    ∃ q' y, queueSystem.step q e = .ok q' ∧ QueueMove x e y ∧ q'.Represents y := by
  obtain ⟨waiting, freecnt⟩ := x
  obtain ⟨⟨used, free, hgood, hinuse⟩, hcount⟩ := h
  dsimp only at hinuse hcount
  subst hcount
  cases e with
  | send copied subtype mac du addr =>
    rcases hgood.req2send copied subtype mac du addr with
      ⟨hsend, hwhy⟩ | ⟨rfl, hshort, q', n, hsend, hgood', hcount', hused⟩
    · refine ⟨q, _, hsend, .refused (hwhy.imp_right (Or.imp_right ?_)),
        ⟨used, free, hgood, hinuse⟩, rfl⟩
      rintro rfl
      exact UInt16.toNat_inj.mp hgood.freecnt
    · refine ⟨q', _, hsend, .queued hshort, ⟨_, _, hgood', ?_⟩, hcount'⟩
      rw [hused, hinuse, List.map_append]
      rfl
  | build =>
    rcases hgood.buildEcpdu with
      ⟨hbuild, rfl⟩ | ⟨q', n, rest, free', rfl, hbuild, hgood', hcount', hrest⟩
    · obtain rfl := List.map_eq_nil_iff.mp hinuse.symm
      exact ⟨q, _, hbuild, .empty, ⟨[], free, hgood, hinuse⟩, rfl⟩
    · obtain ⟨p, waiting, rfl, -, hmap⟩ := List.map_eq_cons_iff.mp hinuse.symm
      exact ⟨q', _, hbuild, .built, ⟨rest, free', hgood', hrest.trans hmap.symm⟩, hcount'⟩

/-! ### The moves of an instance

Each event of `Ecp22` makes moves of the queue: a payload is one request, and the transmit
machine builds.
-/

end Ecp22Queue

/-- The queue of an instance -/
def Ecp22.payloads (ecp : Ecp22) : Ecp22Queue.Payloads := (ecp.inuse, ecp.freecnt)

namespace Ecp22Queue

theorem ecp22Getnode_freecnt (ecp : Ecp22) :
    (ecp22Getnode ecp).freecnt = if ecp.freecnt = 0 then 0 else ecp.freecnt - 1 := by
  unfold ecp22Getnode
  by_cases hzero : ecp.freecnt = 0
  · rw [if_pos hzero, if_pos hzero]
    exact hzero
  · rw [if_neg hzero, if_neg hzero]

theorem queueMove_build (c : Ecp22Ctx) :
    QueueMove c.ecp.payloads .build (ecp22BuildEcpdu c).ecp.payloads := by
  unfold Ecp22.payloads ecp22BuildEcpdu
  cases hinuse : c.ecp.inuse with
  | nil =>
    rw [hinuse]
    exact .empty
  | cons p waiting =>
    unfold ecp22Putnode
    dsimp only
    have hmove := @QueueMove.built p waiting c.ecp.freecnt
    by_cases hmany : c.ecp.freecnt > ecp22Maxpayload
    · rw [if_pos hmany] at hmove ⊢
      exact hmove
    · rw [if_neg hmany] at hmove ⊢
      exact hmove

theorem queueMove_send (c : Ecp22Ctx) {du : Bytes} (hshort : du.length < ecp22MaxpayloadLen)
    (addr : Option Nat) :
    QueueMove c.ecp.payloads (.send true ecp22Vdp nearestCustomerBridge du addr)
      (c.queue du).ecp.payloads := by
  have hmove := @QueueMove.queued c.ecp.inuse c.ecp.freecnt ecp22Vdp nearestCustomerBridge du addr
    hshort
  rw [← ecp22Getnode_freecnt] at hmove
  have hqueue : (c.queue du).ecp.payloads =
      (c.ecp.inuse ++ [payloadNode du], (ecp22Getnode c.ecp).freecnt) :=
    congrArg (·, (ecp22Getnode c.ecp).freecnt) (queue_inuse c du)
  rw [hqueue]
  exact hmove

/-- The builds of a run, one behind the other -/
def Builds (x y : Payloads) : Prop :=
  ∃ n, System.Path QueueMove x (List.replicate n .build) y

theorem Builds.refl (x : Payloads) : Builds x x := ⟨0, .nil x⟩

theorem Builds.move {x y z : Payloads} (h : Builds x y) (hmove : QueueMove y .build z) :
    Builds x z := by
  obtain ⟨n, hpath⟩ := h
  refine ⟨n + 1, ?_⟩
  rw [List.replicate_succ']
  exact hpath.append (.cons hmove (.nil z))

theorem txMove_builds {c d : Ecp22Ctx} {b : Bool} {x : Payloads} (h : TxMove c d b)
    (hx : Builds x c.ecp.payloads) : Builds x d.ecp.payloads := by
  cases h with
  | build hp hs hdata => exact hx.move (queueMove_build (c.seen _))
  | _ => exact hx

theorem txRun_builds {c c' : Ecp22Ctx} (h : ecp22TxRunSm c = .ok c') :
    Builds c.ecp.payloads c'.ecp.payloads := by
  refine txRun_preserves (I := fun d => Builds c.ecp.payloads d.ecp.payloads) ?_ ?_
    (Builds.refl _) h
  · intro d hd
    unfold ecp22TxAction
    split <;> exact hd
  · intro d d' b hd hmove
    exact txMove_builds hmove hd

/-- The request of an event, if it makes one -/
def sent : Ecp22Event → List Ecp22QueueEvent
  | .payload du => [.send true ecp22Vdp nearestCustomerBridge du none]
  | _ => []

/-- An event is a request, if it is a payload, and builds. -/
theorem ecp22Step_moves {c c' : Ecp22Ctx} {e : Ecp22Event} (hrest : Ecp22Rest c)
    (h : ecp22Step c e = .ok c') :
    ∃ y, System.Path QueueMove c.ecp.payloads (sent e) y ∧ Builds y c'.ecp.payloads := by
  cases e with
  | payload du =>
    replace h := (dataFromVdp_eq du c).symm.trans h
    split_ifs at h with hlong hfree
    · cases h
      exact ⟨_, .cons (.refused (.inr (.inl hlong))) (.nil _), .refl _⟩
    · exact ⟨_, .cons (queueMove_send c (Nat.not_le.mp hlong) none) (.nil _), txRun_builds h⟩
    · cases h
      exact ⟨_, .cons (queueMove_send c (Nat.not_le.mp hlong) none) (.nil _), .refl _⟩
  | frame buf =>
    refine ⟨_, .nil _, ?_⟩
    have hsame : c'.ecp.payloads = c.ecp.payloads := by
      rcases (frameResult_of_ok hrest.rx h).sameTx with hsame | ⟨seqno, hsame⟩
      · exact Prod.ext hsame.inuse hsame.freecnt
      · have hrecack : (ecp22RecackFrame c seqno).ecp.payloads = c.ecp.payloads := by
          unfold ecp22RecackFrame
          split <;> rfl
        exact (Prod.ext hsame.inuse hsame.freecnt).trans hrecack
    rw [hsame]
    exact .refl _
  | ackTimeout i =>
    refine ⟨_, .nil _, ?_⟩
    rcases ackTimeout_cases h with rfl | ⟨t, -, hrun⟩
    · exact .refl _
    · exact txRun_builds (c := c.expired i t) hrun
  | fromEvb maxRetry maxRte =>
    cases h
    exact ⟨_, .nil _, .refl _⟩
  | port p =>
    cases h
    exact ⟨_, .nil _, .refl _⟩

end Ecp22Queue

open Ecp22Queue in
/-- **The queue is a FIFO.** In every reachable state there are nodes `used` in use and nodes
`free` on the free list, no node is on both, `last` is the last node in use when there is one,
the counter is the length of the free list, and what was queued is what was built, followed by
what is in use. The next event does not stop the program. -/
theorem queue_fifo (q : Ecp22Queue) (h : queueSystem.Reachable q) :
    (∃ used free, q.mem.Linked (.first .inuse) used ∧ q.mem.Linked (.first .isfree) free ∧
      (used ++ free).Nodup ∧ (∀ n, used.getLast? = some n → q.last = some n) ∧
      q.freecnt.toNat = free.length ∧
      ∃ waiting, used.map q.payload = waiting.map some ∧ q.accepted = q.built ++ waiting) ∧
    ∀ e, ∃ q', queueSystem.step q e = .ok q' := by
  obtain ⟨used, free, hgood⟩ := good_of_reachable h
  refine ⟨⟨used, free, hgood.inuse, hgood.isfree, hgood.nodup, hgood.last, hgood.freecnt,
    hgood.waiting⟩, fun e => ?_⟩
  obtain ⟨q', -, -, hstep, -⟩ := hgood.step e
  exact ⟨q', hstep⟩

/-- Two payloads are queued and built, and the next two use the node that became free. -/
def queueRun : List Ecp22QueueEvent :=
  [.send true ecp22Vdp nearestCustomerBridge [1] (some 7), .build,
    .send true ecp22Vdp nearestCustomerBridge [2] (some 8),
    .send false ecp22Vdp nearestCustomerBridge [4] (some 9),
    .send true ecp22Vdp nearestCustomerBridge [3] (some 8), .build]

/-- The queue is a FIFO in this run. -/
theorem queueRun_fifo :
    ∃ q used free, queueSystem.run {} queueRun = .ok q ∧ q.built.map (·.ptlv) = [[1], [2]] ∧
      q.mem.Linked (.first .inuse) used ∧ q.mem.Linked (.first .isfree) free ∧
      (used ++ free).Nodup ∧ (∀ n, used.getLast? = some n → q.last = some n) ∧
      q.freecnt.toNat = free.length ∧
      ∃ waiting, used.map q.payload = waiting.map some ∧ q.accepted = q.built ++ waiting := by
  obtain ⟨q, hrun, hbuilt⟩ := System.exists_run queueSystem {} queueRun
    (fun q => decide (q.built.map (·.ptlv) = [[1], [2]])) (by decide +kernel)
  obtain ⟨⟨used, free, hinuse, hisfree, hnodup, hlast, hcount, hwaiting⟩, -⟩ :=
    queue_fifo q ⟨{}, queueRun, rfl, hrun⟩
  exact ⟨q, used, free, hrun, of_decide_eq_true hbuilt, hinuse, hisfree, hnodup, hlast, hcount,
    hwaiting⟩

end Lldpad.Qbg
