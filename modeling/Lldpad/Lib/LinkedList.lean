import Lldpad.Lib.Fault
import Mathlib.Data.List.Nodup
import Mathlib.Logic.Function.Basic

/-!
# `Lldpad.Lib.LinkedList`: the lists of `<sys/queue.h>`

An element of a `LIST` has a pointer to the next element and the address of the pointer that
points to it. `ListMem` is a memory with lists `κ` and numbered elements. An access to an
element that was freed stops the program.

`Linked` says that a pointer leads through given elements to the end. Each operation is one
rule about it:

* `insert_linked`: `LIST_INSERT_HEAD`, where the pointer is the first one of a list.
* `insert_last_linked`: `LIST_INSERT_AFTER` behind the last element.
* `remove_first_linked`: `LIST_REMOVE` of the first element.

The frame of each operation is `SameBut`: what is not named is as before. `Linked.frame` brings
another list over it.
-/

namespace Lldpad.Lib

/-- The address of a pointer: the first pointer of a list, or the next pointer of an element -/
inductive Link (κ : Type) where
  | first (l : κ)
  | next (n : Nat)
  deriving DecidableEq

/-- A memory that holds lists. -/
structure ListMem (κ : Type) where
  /-- `lh_first` and `le_next`, by their addresses -/
  pointer : Link κ → Option Nat
  /-- `le_prev` -/
  prev : Nat → Link κ
  /-- the elements that are allocated -/
  live : Nat → Bool

namespace ListMem

variable {κ : Type}

/-- A memory with empty lists and no element -/
def empty (l : κ) : ListMem κ where
  pointer _ := none
  prev _ := .first l
  live _ := false

/-! ### Lists -/

/-- The pointer behind the elements -/
def endOf (p : Link κ) : List Nat → Link κ
  | [] => p
  | n :: ns => endOf (.next n) ns

/-- The pointers in front of the elements -/
def cells (p : Link κ) : List Nat → List (Link κ)
  | [] => []
  | n :: ns => p :: cells (.next n) ns

/-- A pointer leads through the elements, and they are allocated. -/
def Path (m : ListMem κ) (p : Link κ) : List Nat → Prop
  | [] => True
  | n :: ns => m.pointer p = some n ∧ m.prev n = p ∧ m.live n = true ∧ m.Path (.next n) ns

/-- The elements are those of the list that starts at a pointer. -/
def Linked (m : ListMem κ) (p : Link κ) (ns : List Nat) : Prop :=
  m.Path p ns ∧ m.pointer (endOf p ns) = none

variable {m m' : ListMem κ} {p : Link κ} {l : κ} {n : Nat} {ns : List Nat}

theorem linked_empty (l l' : κ) : (ListMem.empty l).Linked (.first l') [] := ⟨trivial, rfl⟩

theorem linked_cons : m.Linked p (n :: ns) ↔
    m.pointer p = some n ∧ m.prev n = p ∧ m.live n = true ∧ m.Linked (.next n) ns := by
  simp only [Linked, Path, endOf, and_assoc]

/-- The pointer is null exactly when there are no elements. -/
theorem Linked.head (h : m.Linked p ns) : m.pointer p = ns.head? := by
  cases ns with
  | nil => exact h.2
  | cons n ns => exact (linked_cons.mp h).1

theorem endOf_append (p : Link κ) (ns : List Nat) (n : Nat) : endOf p (ns ++ [n]) = .next n := by
  induction ns generalizing p with
  | nil => rfl
  | cons k ns ih => exact ih (.next k)

theorem path_append (p : Link κ) (ns : List Nat) (n : Nat) :
    m.Path p (ns ++ [n]) ↔
      m.Path p ns ∧ m.pointer (endOf p ns) = some n ∧ m.prev n = endOf p ns ∧ m.live n = true := by
  induction ns generalizing p with
  | nil => simp [Path, endOf]
  | cons k ns ih => simp only [List.cons_append, Path, endOf, ih, and_assoc]

theorem Path.live (h : m.Path p ns) (hn : n ∈ ns) : m.live n = true := by
  induction ns generalizing p with
  | nil => cases hn
  | cons k ns ih =>
    rcases List.mem_cons.mp hn with rfl | hn
    · exact h.2.2.1
    · exact ih h.2.2.2 hn

theorem mem_cells {c : Link κ} (hc : c ∈ cells p ns) : c = p ∨ ∃ n ∈ ns, c = .next n := by
  induction ns generalizing p with
  | nil => cases hc
  | cons n ns ih =>
    rcases List.mem_cons.mp hc with rfl | hc
    · exact .inl rfl
    · rcases ih hc with rfl | ⟨k, hk, rfl⟩
      · exact .inr ⟨n, List.mem_cons_self .., rfl⟩
      · exact .inr ⟨k, List.mem_cons_of_mem n hk, rfl⟩

theorem endOf_eq (p : Link κ) (ns : List Nat) :
    endOf p ns = p ∨ ∃ n ∈ ns, endOf p ns = .next n := by
  induction ns generalizing p with
  | nil => exact .inl rfl
  | cons k ns ih =>
    rcases ih (.next k) with h | ⟨n, hn, h⟩
    · exact .inr ⟨k, List.mem_cons_self .., h⟩
    · exact .inr ⟨n, List.mem_cons_of_mem k hn, h⟩

/-- A pointer stands in front of each element once, and the last one in front of none. -/
theorem endOf_notMem_cells (hp : ∀ n ∈ ns, p ≠ .next n) (hnodup : ns.Nodup) :
    endOf p ns ∉ cells p ns := by
  induction ns generalizing p with
  | nil => exact List.not_mem_nil
  | cons k ns ih =>
    obtain ⟨hk, hnodup⟩ := List.nodup_cons.mp hnodup
    have hnext : ∀ n ∈ ns, (Link.next k : Link κ) ≠ .next n := by
      rintro n hn heq
      cases heq
      exact hk hn
    show endOf (.next k) ns ∉ p :: cells (.next k) ns
    rw [List.mem_cons, not_or]
    refine ⟨?_, ih hnext hnodup⟩
    rcases endOf_eq (Link.next k) ns with h | ⟨n, hn, h⟩
    · rw [h]
      exact (hp k (List.mem_cons_self ..)).symm
    · rw [h]
      exact (hp n (List.mem_cons_of_mem k hn)).symm

/-! ### Frames -/

theorem Path.congr (h : m.Path p ns) (hpointer : ∀ c ∈ cells p ns, m'.pointer c = m.pointer c)
    (hprev : ∀ n ∈ ns, m'.prev n = m.prev n) (hlive : ∀ n ∈ ns, m'.live n = m.live n) :
    m'.Path p ns := by
  induction ns generalizing p with
  | nil => trivial
  | cons k ns ih =>
    obtain ⟨hk, hp, hl, hns⟩ := h
    have hmem : k ∈ k :: ns := List.mem_cons_self ..
    refine ⟨(hpointer p (List.mem_cons_self ..)).trans hk, (hprev k hmem).trans hp,
      (hlive k hmem).trans hl, ih hns (fun c hc => hpointer c (List.mem_cons_of_mem p hc))
        (fun n hn => hprev n (List.mem_cons_of_mem k hn))
        (fun n hn => hlive n (List.mem_cons_of_mem k hn))⟩

/-- What an operation leaves alone: everything but some pointers and some elements. -/
structure SameBut (ps : List (Link κ)) (ns : List Nat) (m m' : ListMem κ) : Prop where
  pointer : ∀ c, c ∉ ps → m'.pointer c = m.pointer c
  prev : ∀ n, n ∉ ns → m'.prev n = m.prev n
  live : m'.live = m.live

/-- A list that an operation does not touch is as before. -/
theorem Linked.frame {ps : List (Link κ)} {ks : List Nat} (h : m.Linked p ns)
    (hsame : SameBut ps ks m m') (hp : p ∉ ps) (hps : ∀ n ∈ ns, Link.next n ∉ ps)
    (hks : ∀ n ∈ ns, n ∉ ks) : m'.Linked p ns := by
  refine ⟨h.1.congr (fun c hc => hsame.pointer c ?_) (fun n hn => hsame.prev n (hks n hn))
    (fun n _ => by rw [hsame.live]), ?_⟩
  · rcases mem_cells hc with rfl | ⟨n, hn, rfl⟩
    · exact hp
    · exact hps n hn
  · rw [hsame.pointer, h.2]
    rcases endOf_eq p ns with hend | ⟨n, hn, hend⟩
    · rw [hend]
      exact hp
    · rw [hend]
      exact hps n hn

/-! ### Memory -/

/-- An element is allocated or freed. -/
def setLive (m : ListMem κ) (n : Nat) (b : Bool) : ListMem κ :=
  { m with live := Function.update m.live n b }

/-- A list without the element is as before. -/
theorem Linked.setLive (h : m.Linked p ns) (hn : n ∉ ns) (b : Bool) :
    (m.setLive n b).Linked p ns := by
  refine ⟨h.1.congr (fun _ _ => rfl) (fun _ _ => rfl) fun k hk => ?_, h.2⟩
  have hkn : k ≠ n := fun heq => hn (heq ▸ hk)
  exact Function.update_of_ne hkn ..

/-! ### Operations -/

/-- An element is accessed. -/
def touch (m : ListMem κ) (n : Nat) : Except Fault Unit :=
  if m.live n then .ok () else .error (.useAfterFree n)

/-- `le_prev` of an element is written, if there is one. -/
def setPrev (m : ListMem κ) (x : Option Nat) (p : Link κ) : Except Fault (ListMem κ) :=
  match x with
  | none => .ok m
  | some n => do
    m.touch n
    pure { m with prev := Function.update m.prev n p }

theorem touch_live (h : m.live n = true) : m.touch n = .ok () := if_pos h

theorem setPrev_eq {x : Option Nat} (h : ∀ k, x = some k → m.live k = true) (p : Link κ) :
    m.setPrev x p = .ok { m with prev := x.elim m.prev (Function.update m.prev · p) } := by
  cases x with
  | none => rfl
  | some k =>
    show (m.touch k >>= _) = _
    rw [touch_live (h k rfl)]
    rfl

variable [DecidableEq κ]

/-- A pointer is written. -/
def store (m : ListMem κ) (p : Link κ) (x : Option Nat) : Except Fault (ListMem κ) := do
  match p with
  | .first _ => pure ()
  | .next n => m.touch n
  pure { m with pointer := Function.update m.pointer p x }

/-- An element is inserted at a pointer. -/
def insertAt (m : ListMem κ) (p : Link κ) (n : Nat) : Except Fault (ListMem κ) := do
  let m ← m.store (.next n) (m.pointer p)
  let m ← m.setPrev (m.pointer p) (.next n)
  let m ← m.store p (some n)
  m.setPrev (some n) p

/-- `LIST_INSERT_HEAD` -/
def insertHead (m : ListMem κ) (l : κ) (n : Nat) : Except Fault (ListMem κ) :=
  m.insertAt (.first l) n

/-- `LIST_INSERT_AFTER` -/
def insertAfter (m : ListMem κ) (k n : Nat) : Except Fault (ListMem κ) := do
  m.touch k
  m.insertAt (.next k) n

/-- `LIST_REMOVE` -/
def remove (m : ListMem κ) (n : Nat) : Except Fault (ListMem κ) := do
  m.touch n
  let m ← m.setPrev (m.pointer (.next n)) (m.prev n)
  m.store (m.prev n) (m.pointer (.next n))

/-! ### What the operations leave -/

/-- The element that a pointer is in is allocated. -/
def Reachable (m : ListMem κ) : Link κ → Prop
  | .first _ => True
  | .next n => m.live n = true

theorem store_eq (h : m.Reachable p) (x : Option Nat) :
    m.store p x = .ok { m with pointer := Function.update m.pointer p x } := by
  cases p with
  | first l => rfl
  | next k =>
    show (m.touch k >>= _) = _
    rw [touch_live h]
    rfl

/-- The memory behind an insertion -/
def inserted (m : ListMem κ) (p : Link κ) (n : Nat) : ListMem κ where
  pointer := Function.update (Function.update m.pointer (.next n) (m.pointer p)) p (some n)
  prev := Function.update
    ((m.pointer p).elim m.prev (Function.update m.prev · (.next n))) n p
  live := m.live

theorem insertAt_eq (hp : m.Reachable p) (hpn : p ≠ .next n) (hn : m.live n = true)
    (hnext : ∀ k, m.pointer p = some k → m.live k = true) :
    m.insertAt p n = .ok (m.inserted p n) := by
  let m₁ : ListMem κ := { m with pointer := Function.update m.pointer (.next n) (m.pointer p) }
  let m₂ : ListMem κ := { m₁ with
    prev := (m.pointer p).elim m.prev (Function.update m.prev · (.next n)) }
  let m₃ : ListMem κ := { m₂ with pointer := Function.update m₁.pointer p (some n) }
  have hkeep : m₁.pointer p = m.pointer p := Function.update_of_ne hpn ..
  have hlink : m.store (.next n) (m.pointer p) = .ok m₁ :=
    store_eq (p := .next n) hn _
  have hback : m₁.setPrev (m.pointer p) (.next n) = .ok m₂ := setPrev_eq (m := m₁) hnext _
  have hfront : m₂.store p (some n) = .ok m₃ := by
    refine store_eq ?_ _
    cases p <;> exact hp
  have hself : m₃.setPrev (some n) p = .ok (m.inserted p n) := by
    refine setPrev_eq (m := m₃) ?_ p
    rintro k ⟨⟩
    exact hn
  show (m.store (.next n) (m.pointer p) >>= fun m => m.setPrev (m.pointer p) (.next n) >>=
    fun m => m.store p (some n) >>= fun m => m.setPrev (some n) p) = _
  rw [hlink, bind_ok, hkeep, hback, bind_ok, hfront, bind_ok, hself]

/-- The memory behind a removal -/
def removed (m : ListMem κ) (n : Nat) : ListMem κ where
  pointer := Function.update m.pointer (m.prev n) (m.pointer (.next n))
  prev := (m.pointer (.next n)).elim m.prev (Function.update m.prev · (m.prev n))
  live := m.live

theorem remove_eq (hn : m.live n = true) (hp : m.Reachable (m.prev n))
    (hne : m.pointer (.next n) ≠ some n)
    (hnext : ∀ k, m.pointer (.next n) = some k → m.live k = true) :
    m.remove n = .ok (m.removed n) := by
  have hkeep : (m.pointer (.next n)).elim m.prev (Function.update m.prev · (m.prev n)) n =
      m.prev n := by
    cases hx : m.pointer (.next n) with
    | none => rfl
    | some k =>
      have hkn : n ≠ k := fun h => hne (h ▸ hx)
      exact Function.update_of_ne hkn ..
  unfold remove
  rw [touch_live hn, bind_ok, setPrev_eq hnext, bind_ok]
  dsimp only
  rw [hkeep, store_eq ?_]
  · rfl
  · revert hp
    cases m.prev n <;> exact id

theorem sameBut_inserted (m : ListMem κ) (p : Link κ) (n : Nat) :
    SameBut [p, .next n] (n :: (m.pointer p).toList) m (m.inserted p n) := by
  refine ⟨fun c hc => ?_, fun k hk => ?_, rfl⟩
  · simp only [List.mem_cons, List.not_mem_nil, or_false, not_or] at hc
    simp [inserted, hc.1, hc.2]
  · obtain ⟨hkn, hk⟩ := not_or.mp (mt List.mem_cons.mpr hk)
    unfold inserted
    dsimp only
    rw [Function.update_of_ne hkn]
    cases hx : m.pointer p with
    | none => rfl
    | some j =>
      rw [hx] at hk
      exact Function.update_of_ne (by simpa using hk) ..

theorem sameBut_removed (m : ListMem κ) (n : Nat) :
    SameBut [m.prev n] (m.pointer (.next n)).toList m (m.removed n) := by
  refine ⟨fun c hc => ?_, fun k hk => ?_, rfl⟩
  · exact Function.update_of_ne (by simpa using hc) ..
  · unfold removed
    cases hx : m.pointer (.next n) with
    | none => rfl
    | some j =>
      rw [hx] at hk
      exact Function.update_of_ne (by simpa using hk) ..

/-! ### The operations on lists -/

/-- `LIST_INSERT_HEAD` -/
theorem insert_linked (h : m.Linked (.first l) ns) (hnodup : ns.Nodup) (hlive : m.live n = true)
    (hn : n ∉ ns) :
    ∃ m', m.insertHead l n = .ok m' ∧ m'.Linked (.first l) (n :: ns) ∧
      SameBut [.first l, .next n] (n :: ns) m m' := by
  have hhead := h.head
  have hsame := m.sameBut_inserted (.first l) n
  refine ⟨m.inserted (.first l) n, insertAt_eq trivial nofun hlive ?_, ?_, ?_⟩
  · intro k hk
    rw [hhead] at hk
    exact h.1.live (List.mem_of_head? hk)
  · have hnext : (m.inserted (.first l) n).pointer (.next n) = m.pointer (.first l) := by
      simp [inserted]
    refine linked_cons.mpr ⟨by simp [inserted], by simp [inserted], hlive, ?_⟩
    cases ns with
    | nil => exact ⟨trivial, hnext.trans hhead⟩
    | cons k ns =>
      obtain ⟨hk, hprev, hlivek, hrest⟩ := linked_cons.mp h
      have hkn : k ≠ n := fun h => hn (h ▸ List.mem_cons_self ..)
      have hnotin : ∀ j ∈ ns, j ≠ n ∧ j ≠ k := fun j hj =>
        ⟨fun h => hn (h ▸ List.mem_cons_of_mem k hj),
          fun h => (List.nodup_cons.mp hnodup).1 (h ▸ hj)⟩
      refine linked_cons.mpr ⟨hnext.trans hk, ?_, hlivek, ?_⟩
      · unfold inserted
        dsimp only
        rw [Function.update_of_ne hkn, hk]
        exact Function.update_self ..
      · -- The rest of the list is not touched.
        refine hrest.frame hsame (by simpa using hkn) (fun j hj => ?_) (fun j hj => ?_)
        · simpa using (hnotin j hj).1
        · rw [hk]
          simpa using hnotin j hj
  · refine ⟨hsame.pointer, fun k hk => hsame.prev k fun hmem => hk ?_, hsame.live⟩
    rcases List.mem_cons.mp hmem with rfl | hmem
    · exact List.mem_cons_self ..
    · rw [hhead] at hmem
      exact List.mem_cons_of_mem n (List.mem_of_head? (Option.mem_toList.mp hmem))

/-- `LIST_INSERT_AFTER` behind the last element -/
theorem insert_last_linked {k : Nat} (h : m.Linked (.first l) (ns ++ [k]))
    (hnodup : (ns ++ [k]).Nodup) (hlive : m.live n = true) (hn : n ∉ ns ++ [k]) :
    ∃ m', m.insertAfter k n = .ok m' ∧ m'.Linked (.first l) (ns ++ [k] ++ [n]) ∧
      SameBut [.next k, .next n] [n] m m' := by
  have hlivek : m.live k = true := h.1.live (by simp)
  have hkn : k ≠ n := fun h => hn (by simp [h])
  have hnull : m.pointer (.next k) = none := by
    have hend := h.2
    rwa [endOf_append] at hend
  have hsame := m.sameBut_inserted (.next k) n
  rw [hnull] at hsame
  refine ⟨m.inserted (.next k) n, ?_, ?_, hsame⟩
  · unfold insertAfter
    rw [touch_live hlivek, bind_ok]
    exact insertAt_eq hlivek (by simpa using hkn) hlive (by rw [hnull]; nofun)
  · have hend := endOf_append (Link.first l) ns k
    refine ⟨(path_append _ _ _).mpr ⟨?_, ?_, ?_, hlive⟩, ?_⟩
    · refine h.1.congr (fun c hc => hsame.pointer c ?_) (fun j hj => hsame.prev j ?_) fun _ _ => rfl
      · have hnot : Link.next k ∉ cells (.first l) (ns ++ [k]) := by
          rw [← hend]
          exact endOf_notMem_cells (fun _ _ => nofun) hnodup
        have hnot' : c ≠ .next n := by
          rintro rfl
          rcases mem_cells hc with hc | ⟨j, hj, hc⟩
          · cases hc
          · cases hc
            exact hn hj
        simp only [List.mem_cons, List.not_mem_nil, or_false, not_or]
        exact ⟨fun h => hnot (h ▸ hc), hnot'⟩
      · intro hmem
        exact hn (List.mem_singleton.mp hmem ▸ hj)
    · rw [hend]
      simp [inserted]
    · rw [hend]
      simp [inserted]
    · rw [endOf_append]
      have hne : Link.next n ≠ (Link.next k : Link κ) := by simpa using hkn.symm
      unfold inserted
      dsimp only
      rw [Function.update_of_ne hne, Function.update_self, hnull]

/-- `LIST_REMOVE` of the first element -/
theorem remove_first_linked (h : m.Linked (.first l) (n :: ns)) (hnodup : (n :: ns).Nodup) :
    ∃ m', m.remove n = .ok m' ∧ m'.Linked (.first l) ns ∧ SameBut [.first l] ns m m' := by
  obtain ⟨hfirst, hprev, hlive, hrest⟩ := linked_cons.mp h
  obtain ⟨hn, hnodup⟩ := List.nodup_cons.mp hnodup
  have hhead := hrest.head
  have hsame := m.sameBut_removed n
  rw [hprev, hhead] at hsame
  refine ⟨m.removed n, remove_eq hlive (by rw [hprev]; trivial) ?_ ?_, ?_, ?_⟩
  · intro hself
    rw [hhead] at hself
    exact hn (List.mem_of_head? hself)
  · intro k hk
    rw [hhead] at hk
    exact hrest.1.live (List.mem_of_head? hk)
  · have hnext : (m.removed n).pointer (.first l) = m.pointer (.next n) := by
      simp [removed, hprev]
    cases ns with
    | nil => exact ⟨trivial, hnext.trans hhead⟩
    | cons k ns =>
      obtain ⟨hk, hprevk, hlivek, hrest'⟩ := linked_cons.mp hrest
      refine linked_cons.mpr ⟨hnext.trans hk, ?_, hlivek, ?_⟩
      · unfold removed
        rw [hk, ← hprev]
        exact Function.update_self ..
      · refine hrest'.frame hsame (by simp) (fun _ _ => by simp) fun j hj hmem => ?_
        have hjk : j = k := by simpa using hmem
        exact (List.nodup_cons.mp hnodup).1 (hjk ▸ hj)
  · refine ⟨hsame.pointer, fun k hk => hsame.prev k fun hmem => hk ?_, hsame.live⟩
    exact List.mem_of_head? (Option.mem_toList.mp hmem)

end ListMem

end Lldpad.Lib
