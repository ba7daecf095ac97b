import Lldpad.Clif.InPlace

/-!
# `Lldpad.Proofs.Clif.InPlace`: what the arrays of a command hold

The count of the slots and the two loops that fill them go by rules of their own. A `Shape` says
how the lengths in a message divide it, whatever the slots are.

* `le_countArgs_iff`: how many slots there are.
* `argValLoop_shape`, `argLoop_shape`: a loop stops the program, leaves nothing or fills its slots
  by the shape of the message.
* `getArgValList_arrays`, `getArgList_arrays`: what is in the slots then, and in the buffer.
-/

namespace Lldpad.Clif.InPlace

open Lldpad.Lib

/-! ### The slots -/

/-- So many arguments have a slot each when so many characters are left. -/
def EnoughSlots (left args : Nat) : Prop :=
  7 * args ≤ left + 4 ∨ 7 * args = left + 7 ∨ 7 * args = left + 8

theorem countArgs_add_seven {left : Nat} (h : 0 < left) :
    countArgs (left + 7) = countArgs left + 1 := by
  have hleft : (if left + 7 - 3 > 4 then left + 7 - 3 - 4 else left + 7 - 3) = left := by
    rw [if_pos (by omega)]
    omega
  conv_lhs => rw [countArgs, if_pos (by omega)]
  dsimp only
  rw [hleft]

theorem countArgs_few {left : Nat} (h : left < 8) :
    countArgs left = if left ≤ 2 then 0 else if left ≤ 5 then 1 else 2 := by
  interval_cases left <;> simp [countArgs]

theorem le_countArgs_iff : ∀ (left args : Nat), 0 < left →
    (args ≤ countArgs left ↔ EnoughSlots left args) := by
  intro left
  induction left using Nat.strongRecOn with
  | ind left ih =>
    intro args hpos
    unfold EnoughSlots
    by_cases hfew : left < 8
    · rw [countArgs_few hfew]
      split_ifs <;> omega
    · -- one slot, and the slots of what is left behind its characters
      obtain ⟨rest, rfl⟩ : ∃ rest, left = rest + 7 := ⟨left - 7, by omega⟩
      rw [countArgs_add_seven (by omega)]
      cases args with
      | zero => omega
      | succ args =>
        have hrest := ih rest (by omega) args (by omega)
        unfold EnoughSlots at hrest
        rw [Nat.succ_le_succ_iff, hrest]
        omega

/-! ### The shape of a message -/

/-- How the lengths in a message divide it -/
structure Shape where
  /-- the arguments that end inside the message, up to the first place where it stops -/
  args : Nat
  /-- an argument, or the length of a value, runs past the end -/
  stops : Bool
  /-- a value runs past the end -/
  cut : Bool
  deriving DecidableEq, Repr

/-- One more argument, in front -/
def Shape.cons (cut : Bool) (s : Shape) : Shape :=
  { args := s.args + 1, stops := s.stops, cut := cut || s.cut }

/-- The shape of arguments with values. Behind the length of a value that runs past the end, the
next argument is looked for. -/
def argValShape (ibuf : CStr) (ilen : Int) (ioff arglen argvalueLen : Nat) : Shape :=
  if ilen - ioff > 2 then
    let arglen := hexNat 1 (ibuf.drop ioff) arglen
    let arg : Span := { start := ioff + 2, len := arglen }
    if ilen - arg.start ≥ arglen then
      if ilen - arg.stop ≥ 4 then
        let argvalueLen := hexNat 2 (ibuf.drop arg.stop) argvalueLen
        let value := valueAt ilen (arg.stop + 4) argvalueLen
        (argValShape ibuf ilen (pastValue (arg.stop + 4) value) arglen argvalueLen).cons
          value.isNone
      else { args := 1, stops := true, cut := false }
    else { args := 0, stops := true, cut := false }
  else { args := 0, stops := false, cut := false }
termination_by (ilen - ioff).toNat
decreasing_by
  refine Nat.lt_of_le_of_lt (Int.toNat_le_toNat (Int.sub_le_sub_left
    (Int.ofNat_le.mpr (le_pastValue ilen _ _)) ilen)) ?_
  show (ilen - ((ioff + 2 + _ + 4 : Nat) : Int)).toNat < (ilen - ioff).toNat
  omega

/-- The shape of arguments without values -/
def argShape (ibuf : CStr) (ilen : Int) (ioff arglen : Nat) : Shape :=
  if ilen - ioff > 2 then
    let arglen := hexNat 1 (ibuf.drop ioff) arglen
    let arg : Span := { start := ioff + 2, len := arglen }
    if ilen - arg.start ≥ arglen then (argShape ibuf ilen arg.stop arglen).cons false
    else { args := 0, stops := true, cut := false }
  else { args := 0, stops := false, cut := false }
termination_by (ilen - ioff).toNat
decreasing_by
  show (ilen - ((ioff + 2 + _ : Nat) : Int)).toNat < (ilen - ioff).toNat
  omega

/-- Texts one behind the other, with something between them, up to the end of the message -/
def Laid (ilen : Int) : Nat → List Span → Prop
  | _, [] => True
  | ioff, s :: rest => ioff < s.start ∧ s.stop ≤ ilen ∧ Laid ilen s.stop rest

variable {P : List Slot → Prop} {slots ioff i n : Nat} {ilen : Int} {s : Shape}

theorem Laid.mem : ∀ {spans : List Span} {ioff : Nat}, Laid ilen ioff spans →
    ∀ s ∈ spans, ioff < s.start ∧ s.stop ≤ ilen := by
  intro spans
  induction spans with
  | nil => exact fun _ => nofun
  | cons s spans ih =>
    rintro ioff ⟨hstart, hstop, hrest⟩
    refine List.forall_mem_cons.mpr ⟨⟨hstart, hstop⟩, ?_⟩
    intro t ht
    obtain ⟨hbehind, hin⟩ := ih hrest t ht
    have hle : s.start ≤ s.stop := Nat.le_add_right ..
    exact ⟨by omega, hin⟩

theorem Laid.apart : ∀ {spans : List Span} {ioff : Nat}, Laid ilen ioff spans →
    Apart spans := by
  intro spans
  induction spans with
  | nil => exact fun _ => List.Pairwise.nil
  | cons s spans ih =>
    rintro ioff ⟨_, _, hrest⟩
    exact List.pairwise_cons.mpr ⟨fun t ht => (hrest.mem t ht).1, ih hrest⟩

/-- The pointers in slots, in the order in which their texts are ended -/
def pointers (slots : List Slot) : List (Option Span) := slots.flatMap fun a => [a.arg, a.value]

/-! ### The loops -/

/-- What a loop leaves from slot `i` on, where the rest of the message has the shape `s` -/
def LeavesBy (slots i : Nat) (s : Shape) (P : List Slot → Prop)
    (r : Except Fault (Option (List Slot))) : Prop :=
  if slots < i + s.args then r = .error .outOfBounds
  else if s.stops then r = .ok none
  else ∃ args, r = .ok (some args) ∧ args.length = s.args ∧ P args

theorem leavesBy_full (h : slots < i + s.args)
    (P : List Slot → Prop) : LeavesBy slots i s P (.error .outOfBounds) := by
  unfold LeavesBy
  rw [if_pos h]

theorem leavesBy_stops {args : Nat} (h : i + args ≤ slots) (cut : Bool) (P : List Slot → Prop) :
    LeavesBy slots i { args := args, stops := true, cut := cut } P (.ok none) := by
  unfold LeavesBy
  rw [if_neg (Nat.not_lt.mpr h), if_pos rfl]

theorem leavesBy_nil (h : i ≤ slots) (hP : P []) :
    LeavesBy slots i { args := 0, stops := false, cut := false } P (.ok (some [])) := by
  have hslots : ¬ slots < i + 0 := by omega
  unfold LeavesBy
  rw [if_neg hslots, if_neg Bool.false_ne_true]
  exact ⟨[], rfl, rfl, hP⟩

theorem LeavesBy.cons {Q : List Slot → Prop}
    {r : Except Fault (Option (List Slot))} (h : LeavesBy slots (i + 1) s P r) (cut : Bool)
    {a : Slot} (hQ : ∀ args, P args → Q (a :: args)) :
    LeavesBy slots i (s.cons cut) Q (r >>= fun rest => pure (rest.map (a :: ·))) := by
  have hargs : i + (s.args + 1) = i + 1 + s.args := by omega
  unfold LeavesBy at h ⊢
  unfold Shape.cons
  rw [hargs]
  split at h
  · next hfull =>
    rw [if_pos hfull, h]
    rfl
  · next hfull =>
    rw [if_neg hfull]
    split at h
    · next hstops =>
      rw [if_pos hstops, h]
      rfl
    · next hstops =>
      obtain ⟨args, rfl, hlen, hP⟩ := h
      rw [if_neg hstops]
      exact ⟨a :: args, rfl, congrArg (· + 1) hlen, hQ args hP⟩

/-- What is left of arguments with values: texts one behind the other, or a pointer that was never
set. -/
def ValuesLaid (ilen : Int) (ioff : Nat) (cut : Bool) (args : List Slot) : Prop :=
  if cut then none ∈ pointers args
  else ∃ spans : List Span, pointers args = spans.map some ∧ Laid ilen ioff spans

theorem valueAt_of_le (h : ilen - ioff ≥ n) :
    valueAt ilen ioff n = some { start := ioff, len := n } := if_pos h

theorem valueAt_of_gt (h : ¬ ilen - ioff ≥ n) :
    valueAt ilen ioff n = none := if_neg h

theorem ValuesLaid.cons {arg : Span} {cut : Bool} {args : List Slot}
    (hstart : ioff < arg.start) (hstop : arg.stop ≤ ilen)
    (h : ValuesLaid ilen (pastValue (arg.stop + 4) (valueAt ilen (arg.stop + 4) n)) cut args) :
    ValuesLaid ilen ioff ((valueAt ilen (arg.stop + 4) n).isNone || cut)
      ({ arg := some arg, value := valueAt ilen (arg.stop + 4) n } :: args) := by
  by_cases hfits : ilen - (arg.stop + 4 : Nat) ≥ n
  · rw [valueAt_of_le hfits] at h ⊢
    show ValuesLaid ilen ioff cut _
    unfold ValuesLaid at h ⊢
    split at h
    · next hcut =>
      rw [if_pos hcut]
      exact List.mem_append_right _ h
    · next hcut =>
      obtain ⟨spans, hspans, hlaid⟩ := h
      rw [if_neg hcut]
      let value : Span := { start := arg.stop + 4, len := n }
      have hvalue : (value.stop : Int) ≤ ilen := by
        show ((arg.stop + 4 + n : Nat) : Int) ≤ ilen
        omega
      have hbetween : arg.stop < value.start := by
        show arg.stop < arg.stop + 4
        omega
      refine ⟨arg :: value :: spans, ?_, hstart, hstop, hbetween, hvalue, hlaid⟩
      show [some arg, some value] ++ pointers args = _
      rw [hspans]
      rfl
  · rw [valueAt_of_gt hfits]
    exact List.mem_append_left _ (List.mem_cons_of_mem _ List.mem_cons_self)

theorem argValLoop_shape (slots : Nat) (ibuf : CStr) (ilen : Int)
    (ioff arglen argvalueLen : Nat) : ∀ i ≤ slots,
    let s := argValShape ibuf ilen ioff arglen argvalueLen
    LeavesBy slots i s (ValuesLaid ilen ioff s.cut)
      (argValLoop slots ibuf ilen ioff i arglen argvalueLen) := by
  fun_induction argValShape ibuf ilen ioff arglen argvalueLen with
  | case1 ioff arglen₀ argvalueLen₀ hmore arglen arg hlen hvalue argvalueLen value ih =>
    intro i hi
    rw [argValLoop, if_pos hmore]
    rw [if_pos hlen]
    by_cases hfull : slots ≤ i
    · rw [if_pos hfull]
      refine leavesBy_full ?_ _
      show slots < i + (_ + 1)
      omega
    · rw [if_neg hfull, if_pos hvalue]
      have hstart : ioff < arg.start := by
        show ioff < ioff + 2
        omega
      have hstop : (arg.stop : Int) ≤ ilen := by omega
      exact (ih (i + 1) (by omega)).cons _ fun args hargs => hargs.cons hstart hstop
  | case2 ioff arglen₀ argvalueLen₀ hmore arglen arg hlen hvalue =>
    -- the argument is stored before the length of its value is missed
    intro i hi
    rw [argValLoop, if_pos hmore]
    rw [if_pos hlen]
    by_cases hfull : slots ≤ i
    · rw [if_pos hfull]
      exact leavesBy_full (Nat.lt_succ_of_le hfull) _
    · rw [if_neg hfull, if_neg hvalue]
      exact leavesBy_stops (by omega) _ _
  | case3 ioff arglen₀ argvalueLen₀ hmore arglen arg hlen =>
    intro i hi
    rw [argValLoop, if_pos hmore]
    rw [if_neg hlen]
    exact leavesBy_stops hi _ _
  | case4 ioff arglen₀ argvalueLen₀ hmore =>
    intro i hi
    rw [argValLoop, if_neg hmore]
    exact leavesBy_nil hi ⟨[], rfl, trivial⟩

/-- What is left of arguments without values -/
def ArgsLaid (ilen : Int) (ioff : Nat) (args : List Slot) : Prop :=
  ∃ spans : List Span, args = spans.map (fun a => { arg := some a, value := none }) ∧
    Laid ilen ioff spans

theorem argLoop_shape (slots : Nat) (ibuf : CStr) (ilen : Int) (ioff arglen : Nat) :
    ∀ i ≤ slots, LeavesBy slots i (argShape ibuf ilen ioff arglen) (ArgsLaid ilen ioff)
      (argLoop slots ibuf ilen ioff i arglen) := by
  fun_induction argShape ibuf ilen ioff arglen with
  | case1 ioff arglen₀ hmore arglen arg hlen ih =>
    intro i hi
    rw [argLoop, if_pos hmore]
    rw [if_pos hlen]
    by_cases hfull : slots ≤ i
    · rw [if_pos hfull]
      refine leavesBy_full ?_ _
      show slots < i + (_ + 1)
      omega
    · rw [if_neg hfull]
      refine (ih (i + 1) (by omega)).cons _ ?_
      rintro args ⟨spans, rfl, hlaid⟩
      have hstart : ioff < arg.start := by
        show ioff < ioff + 2
        omega
      have hstop : (arg.stop : Int) ≤ ilen := by
        have hfits : ilen - ((ioff + 2 : Nat) : Int) ≥ arglen := hlen
        show ((ioff + 2 + arglen : Nat) : Int) ≤ ilen
        omega
      exact ⟨arg :: spans, rfl, hstart, hstop, hlaid⟩
  | case2 ioff arglen₀ hmore arglen arg hlen =>
    intro i hi
    rw [argLoop, if_pos hmore]
    rw [if_neg hlen]
    exact leavesBy_stops hi _ _
  | case3 ioff arglen₀ hmore =>
    intro i hi
    rw [argLoop, if_neg hmore]
    exact leavesBy_nil hi ⟨[], rfl, trivial⟩

/-! ### The arrays -/

/-- A text that a handler gets is a part of the message, and ended inside the buffer. -/
def EndedInside (msg : ClientMsg) (ibuf : CStr) (s : Span) : Prop :=
  s.stop ≤ msg.ilen ∧ s.Ended nul msg.ibuf ibuf

/-- What is in the arrays is what an array function leaves by the shape of the message. `present`
says what the slots have. -/
def ArraysBy (slots : Nat) (msg : ClientMsg) (s : Shape) (present : Slot → Prop)
    (r : Except Fault (List Slot × CStr)) : Prop :=
  if s.args ≤ slots ∧ (s.cut → s.stops) then
    ∃ args ibuf, r = .ok (args, ibuf) ∧ (∀ a ∈ args, present a) ∧
      (∀ a ∈ args, ∀ t, a.arg = some t ∨ a.value = some t → EndedInside msg ibuf t) ∧
      args.length = if s.stops then 0 else s.args
  else ¬ Returns r

/-- From the loop to the arrays: what is left for the end of a function is that a value that was
never found stops the program, and that all else is ended. -/
theorem LeavesBy.arrays {msg : ClientMsg}
    {present : Slot → Prop} {r : Except Fault (Option (List Slot))}
    {pointers : List Slot → List (Option Span)} (h : LeavesBy slots 0 s P r)
    (hcut : s.cut = true → ∀ args, P args → ¬ Returns (markEach nul msg.ibuf (pointers args)))
    (hwhole : s.cut = false → ∀ args, P args → ∃ ibuf,
      markEach nul msg.ibuf (pointers args) = .ok ibuf ∧ (∀ a ∈ args, present a) ∧
        ∀ a ∈ args, ∀ t, a.arg = some t ∨ a.value = some t → EndedInside msg ibuf t) :
    ArraysBy slots msg s present (r >>= endTexts msg pointers) := by
  unfold LeavesBy at h
  rw [Nat.zero_add] at h
  unfold ArraysBy
  split at h
  · -- an argument without a slot
    next hfull =>
    rw [h, if_neg fun h => absurd h.1 (Nat.not_le.mpr hfull)]
    exact not_returns_error _
  · next hfull =>
    have hslots : s.args ≤ slots := Nat.not_lt.mp hfull
    split at h
    · next hstops =>
      rw [h, if_pos ⟨hslots, fun _ => hstops⟩, if_pos hstops]
      exact ⟨[], msg.ibuf, rfl, nofun, nofun, rfl⟩
    · next hstops =>
      obtain ⟨args, rfl, hlen, hP⟩ := h
      rw [bind_ok, endTexts]
      cases hc : s.cut with
      | true =>
        rw [if_neg fun h => hstops (h.2 rfl)]
        rintro ⟨r, hr⟩
        obtain ⟨ibuf, hibuf, _⟩ := bind_eq_ok.mp hr
        exact hcut hc args hP ⟨ibuf, hibuf⟩
      | false =>
        obtain ⟨ibuf, hibuf, hpresent, hended⟩ := hwhole hc args hP
        rw [if_pos ⟨hslots, nofun⟩, if_neg hstops, hibuf]
        exact ⟨args, ibuf, rfl, hpresent, hended, hlen⟩

theorem laid_ended {msg : ClientMsg} {spans : List Span} (h : Laid msg.ilen ioff spans) :
    ∃ ibuf, markEach nul msg.ibuf (spans.map some) = .ok ibuf ∧
      ∀ s ∈ spans, EndedInside msg ibuf s := by
  have hin : ∀ s ∈ spans, s.stop < msg.ibuf.length := by
    intro s hs
    have hstop := (h.mem s hs).2
    have hroom := msg.ilen_lt
    omega
  obtain ⟨ibuf, hok, hended⟩ := markEach_ended nul h.apart hin
  exact ⟨ibuf, hok, fun s hs => ⟨(h.mem s hs).2, hended s hs⟩⟩

theorem mem_pointers {a : Slot} {args : List Slot} (h : a ∈ args) :
    a.arg ∈ pointers args ∧ a.value ∈ pointers args :=
  ⟨List.mem_flatMap.mpr ⟨a, h, List.mem_cons_self⟩,
    List.mem_flatMap.mpr ⟨a, h, List.mem_cons_of_mem _ List.mem_cons_self⟩⟩

theorem getArgValList_arrays (stack : LenStack) (slots : Nat) (msg : ClientMsg) (ioff : Nat) :
    ArraysBy slots msg (argValShape msg.ibuf msg.ilen ioff stack.arglen stack.argvalueLen)
      (fun a => a.arg.isSome ∧ a.value.isSome) (getArgValList stack slots msg ioff) := by
  refine LeavesBy.arrays (argValLoop_shape slots msg.ibuf msg.ilen ioff stack.arglen
    stack.argvalueLen 0 (Nat.zero_le slots)) ?_ ?_
  · intro hcut args hargs
    unfold ValuesLaid at hargs
    rw [if_pos hcut] at hargs
    exact markEach_unset nul _ _ hargs
  · intro hcut args hargs
    unfold ValuesLaid at hargs
    rw [hcut, if_neg Bool.false_ne_true] at hargs
    obtain ⟨spans, hspans, hlaid⟩ := hargs
    obtain ⟨ibuf, hibuf, hended⟩ := laid_ended hlaid
    -- each pointer is one of the texts
    have hmem : ∀ p ∈ pointers args, ∃ t ∈ spans, some t = p := by
      intro p hp
      rw [hspans] at hp
      exact List.mem_map.mp hp
    refine ⟨ibuf, ?_, ?_, ?_⟩
    · show markEach nul msg.ibuf (pointers args) = .ok ibuf
      rw [hspans, hibuf]
    · intro a ha
      obtain ⟨t, _, ht⟩ := hmem _ (mem_pointers ha).1
      obtain ⟨u, _, hu⟩ := hmem _ (mem_pointers ha).2
      rw [← ht, ← hu]
      exact ⟨rfl, rfl⟩
    · intro a ha t ht
      have hp : some t ∈ pointers args := by
        rcases ht with ht | ht
        · exact ht ▸ (mem_pointers ha).1
        · exact ht ▸ (mem_pointers ha).2
      obtain ⟨u, hu, hut⟩ := hmem _ hp
      exact Option.some.inj hut ▸ hended u hu

theorem argShape_cut (ibuf : CStr) (ilen : Int) (ioff arglen : Nat) :
    (argShape ibuf ilen ioff arglen).cut = false := by
  fun_induction argShape ibuf ilen ioff arglen with
  | case1 ioff arglen₀ hmore arglen arg hlen ih => exact ih
  | case2 => rfl
  | case3 => rfl

theorem getArgList_arrays (stack : LenStack) (slots : Nat) (msg : ClientMsg) (ioff : Nat) :
    ArraysBy slots msg (argShape msg.ibuf msg.ilen ioff stack.arglen)
      (fun a => a.arg.isSome ∧ a.value = none) (getArgList stack slots msg ioff) := by
  refine LeavesBy.arrays (argLoop_shape slots msg.ibuf msg.ilen ioff stack.arglen 0
    (Nat.zero_le slots)) ?_ ?_
  · intro hcut
    rw [argShape_cut] at hcut
    cases hcut
  · rintro - args ⟨spans, rfl, hlaid⟩
    obtain ⟨ibuf, hibuf, hended⟩ := laid_ended hlaid
    refine ⟨ibuf, ?_, ?_, ?_⟩
    · rw [List.map_map]
      exact hibuf
    · intro a ha
      obtain ⟨t, _, rfl⟩ := List.mem_map.mp ha
      exact ⟨rfl, rfl⟩
    · intro a ha t ht
      obtain ⟨u, hu, rfl⟩ := List.mem_map.mp ha
      rcases ht with ht | ht
      · exact Option.some.inj ht ▸ hended u hu
      · cases ht

end Lldpad.Clif.InPlace
