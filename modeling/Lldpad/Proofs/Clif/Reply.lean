import Lldpad.Clif.Reply
import Lldpad.Proofs.Clif.Args
import Mathlib.Algebra.Order.BigOperators.Group.List

/-!
# `Lldpad.Proofs.Clif.Reply`: which replies show the settings

A reply is put together from fields, each with the lengths of its name and of its value. The
client takes it apart by these lengths, so one length that is wrong moves all that follows.

* `reply_text`: the reply is one place after the other, each with the last answer that was printed
  there.
* `slotsText_read_iff`: what the client shows is what the handlers meant, if and only if there is
  one answer in each place, all lengths are right, and there is room for all.
* `queryShown_iff` says the same of the settings.
-/

namespace Lldpad.Clif

open Lldpad.Lib
open Lldpad.Qaz (u32)

/-! ### What was meant -/

/-- A handler that answered, and its answer -/
abbrev HandlerAnswer := ArgHandler × Value

/-- The answers of handlers that are asked one after the other, up to one that refuses -/
def answers (s : Settings) (cmd : LldpCmd) : List ArgHandler → List HandlerAnswer
  | [] => []
  | ah :: rest =>
    match ah.handleGet s cmd with
    | .ok v => (ah, v) :: answers s cmd rest
    | .error .notApplicable => answers s cmd rest
    | .error _ => []

/-- The arguments and the values of some answers -/
def meantOf (as : List HandlerAnswer) : List (CStr × CStr) := as.map fun a => (a.1.arg, a.2.meant)

/-- The answers that are printed at one place, for each place: a handler of its own when all are
asked, an argument of its own when some are named -/
def ConfigQuery.slots (mods : List Module) (s : Settings) (q : ConfigQuery) :
    List (List HandlerAnswer) :=
  if q.All then (answers s q.cmd (tlvHandlers mods)).map ([·])
  else q.args.map fun arg => answers s q.cmd (argHandlersFor mods arg)

/-- The arguments and values that the handlers meant, in order -/
def ConfigQuery.meant (mods : List Module) (s : Settings) (q : ConfigQuery) :
    List (CStr × CStr) := meantOf (q.slots mods s).flatten

/-- A query that succeeds shows all of them, and nothing else. -/
def ConfigQuery.Shown (stack : LenStack) (mods : List Module) (s : Settings) (q : ConfigQuery) :
    Prop :=
  (mandClifReply mods s q).1 = .ok () →
    printArgValue stack (mandClifReply mods s q).2 = .ok (valEntries (q.meant mods s))

/-! ### The text of a reply -/

/-- What is left at a place after all its answers were printed there -/
def slotText (obufLen : Nat) (slot : List HandlerAnswer) : CStr :=
  (slot.getLast?.map fun a => snprintf obufLen (a.2.field a.1.arg)).getD []

/-- One place after the other -/
def slotsText : Nat → List (List HandlerAnswer) → CStr
  | _, [] => []
  | obufLen, slot :: rest =>
    slotText obufLen slot ++ slotsText (obufLen - (slotText obufLen slot).length) rest

theorem getArgsLoop_text (s : Settings) (cmd : LldpCmd) (hs : List ArgHandler) : ∀ nbufLen,
    (getArgsLoop s cmd hs nbufLen).2 = slotsText nbufLen ((answers s cmd hs).map ([·])) := by
  induction hs with
  | nil => intro nbufLen; rfl
  | cons ah hs ih =>
    intro nbufLen
    unfold getArgsLoop answers
    cases ah.handleGet s cmd with
    | ok v =>
      dsimp only
      rw [ih, List.map_cons, slotsText]
      rfl
    | error rval =>
      cases rval with
      | notApplicable => exact ih nbufLen
      | _ => rfl

theorem getArgLoop_text (s : Settings) (cmd : LldpCmd) (obufLen : Nat) (hs : List ArgHandler) :
    ∀ r, (getArgLoop s cmd obufLen hs r).2 =
      ((answers s cmd hs).getLast?.map fun a => snprintf obufLen (a.2.field a.1.arg)).getD r.2 := by
  induction hs with
  | nil => intro r; rfl
  | cons ah hs ih =>
    intro r
    unfold getArgLoop answers
    cases ah.handleGet s cmd with
    | ok v =>
      -- a later answer takes the place of this one
      rw [ih, List.getLast?_cons]
      cases (answers s cmd hs).getLast? with
      | none => rfl
      | some a => rfl
    | error rval =>
      cases rval with
      | notApplicable => exact ih r
      | _ => rfl

theorem askArgs_text (mods : List Module) (s : Settings) (cmd : LldpCmd) (args : List CStr) :
    ∀ obufLen rstatus, (askArgs mods s cmd args obufLen rstatus).2 =
      slotsText obufLen (args.map fun arg => answers s cmd (argHandlersFor mods arg)) := by
  induction args with
  | nil => intro obufLen rstatus; rfl
  | cons arg args ih =>
    intro obufLen rstatus
    have hslot : (handleGetArg mods s cmd arg obufLen).2 =
        slotText obufLen (answers s cmd (argHandlersFor mods arg)) :=
      getArgLoop_text s cmd obufLen _ _
    unfold askArgs
    dsimp only
    rw [ih, hslot, List.map_cons, slotsText]

theorem reply_text (mods : List Module) (s : Settings) (q : ConfigQuery) :
    (mandClifReply mods s q).2 = slotsText q.obufLen (q.slots mods s) := by
  unfold mandClifReply ConfigQuery.slots
  split
  · exact getArgsLoop_text s q.cmd _ _
  · exact askArgs_text mods s q.cmd q.args _ _

/-! ### The status of a reply -/

/-- A handler answers with an error. -/
def ArgHandler.Refuses (s : Settings) (cmd : LldpCmd) (ah : ArgHandler) : Prop :=
  ∃ rval, ah.handleGet s cmd = .error rval ∧ rval ≠ .notApplicable

/-- A handler answers with a value. -/
def ArgHandler.Answers (s : Settings) (cmd : LldpCmd) (ah : ArgHandler) : Prop :=
  ∃ v, ah.handleGet s cmd = .ok v

/-- Some handlers do not refuse a command. -/
def NoRefusal (s : Settings) (cmd : LldpCmd) (hs : List ArgHandler) : Prop :=
  ∀ ah ∈ hs, ¬ ah.Refuses s cmd

/-- A query succeeds: no handler refuses it, when all are asked; otherwise none of those for the
last argument refuses, and one of them answers. -/
def ConfigQuery.Accepted (mods : List Module) (s : Settings) (q : ConfigQuery) : Prop :=
  if q.All then NoRefusal s q.cmd (tlvHandlers mods)
  else ∃ arg, q.args.getLast? = some arg ∧ NoRefusal s q.cmd (argHandlersFor mods arg) ∧
    ∃ ah ∈ argHandlersFor mods arg, ah.Answers s q.cmd

variable {ah : ArgHandler} {cmd : LldpCmd} {s : Settings} {v : Value}

theorem noRefusal_cons {hs : List ArgHandler} :
    NoRefusal s cmd (ah :: hs) ↔ ¬ ah.Refuses s cmd ∧ NoRefusal s cmd hs :=
  List.forall_mem_cons

theorem not_refuses_of_ok (h : ah.handleGet s cmd = .ok v) : ¬ ah.Refuses s cmd := by
  rintro ⟨rval, hrval, -⟩
  rw [h] at hrval
  cases hrval

theorem refuses_iff {rval : CmdErr}
    (h : ah.handleGet s cmd = .error rval) : ah.Refuses s cmd ↔ rval ≠ .notApplicable := by
  constructor
  · rintro ⟨rval', hrval', hne⟩
    rw [h] at hrval'
    cases hrval'
    exact hne
  · intro hne
    exact ⟨rval, h, hne⟩

theorem not_answers_of_error {rval : CmdErr}
    (h : ah.handleGet s cmd = .error rval) : ¬ ah.Answers s cmd := by
  rintro ⟨v, hv⟩
  rw [h] at hv
  cases hv

theorem getArgsLoop_ok_iff (s : Settings) (cmd : LldpCmd) (hs : List ArgHandler) : ∀ nbufLen,
    (getArgsLoop s cmd hs nbufLen).1 = .ok () ↔ NoRefusal s cmd hs := by
  induction hs with
  | nil =>
    intro nbufLen
    exact ⟨fun _ => nofun, fun _ => rfl⟩
  | cons ah hs ih =>
    intro nbufLen
    rw [noRefusal_cons]
    unfold getArgsLoop
    cases hget : ah.handleGet s cmd with
    | ok v =>
      rw [ih]
      exact (and_iff_right (not_refuses_of_ok hget)).symm
    | error rval =>
      rw [refuses_iff hget]
      cases rval with
      | notApplicable =>
        rw [ih]
        exact (and_iff_right (by decide)).symm
      | _ => exact ⟨nofun, fun h => absurd nofun h.1⟩

theorem getArgLoop_ok_iff (s : Settings) (cmd : LldpCmd) (obufLen : Nat) (hs : List ArgHandler) :
    ∀ r, (getArgLoop s cmd obufLen hs r).1 = .ok () ↔
      NoRefusal s cmd hs ∧ ((∃ ah ∈ hs, ah.Answers s cmd) ∨ r.1 = .ok ()) := by
  induction hs with
  | nil =>
    intro r
    constructor
    · intro h
      exact ⟨nofun, .inr h⟩
    · rintro ⟨-, h⟩
      exact h.resolve_left (by simp)
  | cons ah hs ih =>
    intro r
    rw [noRefusal_cons]
    unfold getArgLoop
    cases hget : ah.handleGet s cmd with
    | ok v =>
      rw [ih]
      simp [not_refuses_of_ok hget, show ah.Answers s cmd from ⟨v, hget⟩]
    | error rval =>
      rw [refuses_iff hget]
      cases rval with
      | notApplicable =>
        rw [ih]
        simp [not_answers_of_error hget]
      | _ => exact ⟨nofun, fun h => absurd nofun h.1.1⟩

theorem handleGetArg_ok_iff (mods : List Module) (s : Settings) (cmd : LldpCmd) (arg : CStr)
    (obufLen : Nat) : (handleGetArg mods s cmd arg obufLen).1 = .ok () ↔
      NoRefusal s cmd (argHandlersFor mods arg) ∧
        ∃ ah ∈ argHandlersFor mods arg, ah.Answers s cmd := by
  unfold handleGetArg
  rw [getArgLoop_ok_iff]
  exact and_congr_right fun _ => or_iff_left nofun

theorem askArgs_ok_iff (mods : List Module) (s : Settings) (cmd : LldpCmd) (args : List CStr) :
    ∀ obufLen rstatus, (askArgs mods s cmd args obufLen rstatus).1 = .ok () ↔
      (args = [] ∧ rstatus = .ok ()) ∨ ∃ arg, args.getLast? = some arg ∧
        NoRefusal s cmd (argHandlersFor mods arg) ∧
          ∃ ah ∈ argHandlersFor mods arg, ah.Answers s cmd := by
  induction args with
  | nil =>
    intro obufLen rstatus
    simp [askArgs]
  | cons arg args ih =>
    intro obufLen rstatus
    unfold askArgs
    rw [ih]
    cases args with
    | nil => simp [handleGetArg_ok_iff]
    | cons arg' args => simp [List.getLast?_cons_cons]

theorem reply_ok_iff (mods : List Module) (s : Settings) (q : ConfigQuery) :
    (mandClifReply mods s q).1 = .ok () ↔ q.Accepted mods s := by
  unfold mandClifReply ConfigQuery.Accepted
  split
  · exact getArgsLoop_ok_iff s q.cmd _ _
  · rw [askArgs_ok_iff]
    exact or_iff_right (fun h => nomatch h.2)

/-! ### What is shown -/

/-- Length and text are those that the handler meant. -/
def Value.Exact (v : Value) : Prop := v.declared = v.meant.length ∧ v.printed = v.meant

theorem printed_length_le (v : Value) : v.printed.length ≤ v.meant.length := by
  cases v with
  | own text => exact Nat.le_refl _
  | fixed len text => exact Nat.le_refl _
  | buffered room text => exact List.length_take_le' room text

theorem printed_eq_of_length (h : v.meant.length ≤ v.printed.length) :
    v.printed = v.meant := by
  cases v with
  | own text => rfl
  | fixed len text => rfl
  | buffered room text =>
    have hlen : text.length ≤ (text.take room).length := h
    rw [List.length_take] at hlen
    exact List.take_of_length_le (by omega)

theorem declared_lt (h : v.meant.length < 65536) : v.declared < 65536 := by
  cases v with
  | own text => exact h
  | fixed len text => exact Nat.lt_trans len.toNat_lt (by decide)
  | buffered room text => exact Nat.lt_of_le_of_lt (List.length_take_le' room text) h

theorem arg_length_lt (ah : ArgHandler) : ah.arg.length < 256 := by
  cases ah with
  | other h => exact h.arg_lt
  | _ => decide

theorem arg_length_pos (ah : ArgHandler) : 0 < ah.arg.length := by
  cases ah with
  | other h => exact List.length_pos_iff.mpr h.arg_ne
  | _ => decide

theorem length_field (h : v.meant.length < 65536) (ah : ArgHandler) :
    (v.field ah.arg).length = 6 + ah.arg.length + v.printed.length := by
  unfold Value.field
  simp only [List.length_append, length_lengthField (arg_length_lt ah),
    length_valueField (declared_lt h)]
  omega

/-- The fields of some answers, none of them cut -/
def fieldsText (as : List HandlerAnswer) : CStr := as.flatMap fun a => a.2.field a.1.arg

theorem meantOf_append (as as' : List HandlerAnswer) :
    meantOf (as ++ as') = meantOf as ++ meantOf as' := List.map_append

theorem argValSize_append (args args' : List (CStr × CStr)) :
    argValSize (args ++ args') = argValSize args + argValSize args' := by
  unfold argValSize
  rw [List.map_append, List.sum_append]

/-- The values have lengths that four digits can tell. -/
def Short (as : List HandlerAnswer) : Prop := ∀ a ∈ as, a.2.meant.length < 65536

theorem short_append {as as' : List HandlerAnswer} (h : Short (as ++ as')) :
    Short as ∧ Short as' := List.forall_mem_append.mp h

theorem slotText_concat (obufLen : Nat) (init : List HandlerAnswer) (a : HandlerAnswer) :
    slotText obufLen (init ++ [a]) = snprintf obufLen (a.2.field a.1.arg) := by
  unfold slotText
  rw [List.getLast?_concat]
  rfl

theorem length_snprintf_le (obufLen : Nat) (text : CStr) :
    (snprintf obufLen text).length ≤ text.length := List.length_take_le' _ _

variable {slot : List HandlerAnswer} {obufLen : Nat}

theorem length_slotText_le (h : Short slot) (obufLen : Nat) :
    (slotText obufLen slot).length ≤ argValSize (meantOf slot) := by
  rcases List.eq_nil_or_concat slot with rfl | ⟨init, a, rfl⟩
  · exact Nat.zero_le _
  · have hlen := length_field (h a (by simp)) a.1
    have hcut := length_snprintf_le obufLen (a.2.field a.1.arg)
    have hprinted := printed_length_le a.2
    have hsize : argValSize (meantOf [a]) = 6 + a.1.arg.length + a.2.meant.length := rfl
    rw [List.concat_eq_append] at h ⊢
    rw [slotText_concat, meantOf_append, argValSize_append, hsize]
    omega

theorem slot_exact (h : Short slot)
    (hsize : argValSize (meantOf slot) ≤ (slotText obufLen slot).length) :
    slot.length ≤ 1 ∧ (∀ a ∈ slot, a.2.printed = a.2.meant) ∧
      slotText obufLen slot = fieldsText slot := by
  rcases List.eq_nil_or_concat slot with rfl | ⟨init, a, rfl⟩
  · exact ⟨Nat.zero_le _, nofun, rfl⟩
  · rw [List.concat_eq_append] at h hsize ⊢
    have hlen := length_field (h a (by simp)) a.1
    have hprinted := printed_length_le a.2
    have hlast : argValSize (meantOf [a]) = 6 + a.1.arg.length + a.2.meant.length := rfl
    rw [slotText_concat, meantOf_append, argValSize_append, hlast] at hsize
    have hcut := length_snprintf_le obufLen (a.2.field a.1.arg)
    cases init with
    | cons b init =>
      -- an answer that was printed over needs room of its own
      have hb : argValSize (meantOf (b :: init)) =
          6 + b.1.arg.length + b.2.meant.length + argValSize (meantOf init) := List.sum_cons ..
      omega
    | nil =>
      have hnil : argValSize (meantOf []) = 0 := rfl
      refine ⟨Nat.le_refl 1, ?_, ?_⟩
      · intro a' ha'
        obtain rfl : a' = a := by simpa using ha'
        exact printed_eq_of_length (by omega)
      · have hwhole : snprintf obufLen (a.2.field a.1.arg) = a.2.field a.1.arg := by
          unfold snprintf at hsize hcut ⊢
          rw [List.length_take] at hsize
          exact List.take_of_length_le (by omega)
        rw [List.nil_append, ← List.nil_append [a], slotText_concat, hwhole]
        simp [fieldsText]

theorem length_slotsText_le (slots : List (List HandlerAnswer)) : ∀ obufLen,
    Short slots.flatten →
    (slotsText obufLen slots).length ≤ argValSize (meantOf slots.flatten) := by
  induction slots with
  | nil => intro obufLen _; exact Nat.zero_le _
  | cons slot rest ih =>
    intro obufLen h
    rw [List.flatten_cons] at h ⊢
    have hslot := length_slotText_le (short_append h).1 obufLen
    have hrest := ih (obufLen - (slotText obufLen slot).length) (short_append h).2
    rw [slotsText, List.length_append, meantOf_append, argValSize_append]
    omega

theorem slots_exact (slots : List (List HandlerAnswer)) : ∀ obufLen, Short slots.flatten →
    argValSize (meantOf slots.flatten) ≤ (slotsText obufLen slots).length →
    (∀ slot ∈ slots, slot.length ≤ 1) ∧ (∀ a ∈ slots.flatten, a.2.printed = a.2.meant) ∧
      slotsText obufLen slots = fieldsText slots.flatten := by
  induction slots with
  | nil => intro obufLen _ _; exact ⟨nofun, nofun, rfl⟩
  | cons slot rest ih =>
    intro obufLen h hsize
    rw [List.flatten_cons] at h hsize ⊢
    obtain ⟨hshort, hshorts⟩ := short_append h
    have hslot := length_slotText_le hshort obufLen
    have hrest := length_slotsText_le rest (obufLen - (slotText obufLen slot).length) hshorts
    rw [slotsText, List.length_append, meantOf_append, argValSize_append] at hsize
    -- neither part takes less than its answers need
    have hslotSize : argValSize (meantOf slot) ≤ (slotText obufLen slot).length := by omega
    obtain ⟨hone, hprinted, htext⟩ := slot_exact hshort hslotSize
    have hrestSize : argValSize (meantOf rest.flatten) ≤
        (slotsText (obufLen - (slotText obufLen slot).length) rest).length := by omega
    obtain ⟨hones, hprinteds, htexts⟩ := ih _ hshorts hrestSize
    refine ⟨List.forall_mem_cons.mpr ⟨hone, hones⟩,
      List.forall_mem_append.mpr ⟨hprinted, hprinteds⟩, ?_⟩
    rw [slotsText, htexts, htext]
    exact List.flatMap_append.symm

/-- Fields that are read as they were meant have lengths that are right. Each wrong one would
give another value. -/
theorem declared_of_read {slots : Nat} (as : List HandlerAnswer) :
    ∀ i arglen argvalueLen, Short as → (∀ a ∈ as, a.2.printed = a.2.meant) →
    argValLoop slots (fieldsText as) i arglen argvalueLen =
      .ok (some ((meantOf as).map fun a => (a.1, some a.2))) →
    ∀ a ∈ as, a.2.declared = a.2.meant.length := by
  induction as with
  | nil => intro i arglen argvalueLen _ _ _; exact nofun
  | cons a as ih =>
    intro i arglen argvalueLen hshort hprinted h
    have hlt := declared_lt (hshort a List.mem_cons_self)
    have htext : fieldsText (a :: as) = hexField 2 a.1.arg.length ++ (a.1.arg ++
        (hexField 4 a.2.declared ++ (a.2.meant ++ fieldsText as))) := by
      unfold fieldsText Value.field
      rw [List.flatMap_cons, hprinted a List.mem_cons_self]
      simp only [List.append_assoc]
    rw [htext, argValLoop_field (arg_length_lt a.1) hlt] at h
    split at h
    · cases h
    · obtain ⟨r, hr, hargs⟩ := bind_eq_ok.mp h
      cases r with
      | none => cases hargs
      | some r =>
        obtain ⟨hhead, htail⟩ := List.cons.inj (Option.some.inj (Except.ok.inj hargs))
        have hvalue : (takeValue (a.2.meant ++ fieldsText as) a.2.declared).1 = some a.2.meant :=
          congrArg Prod.snd hhead
        have hlen : a.2.declared = a.2.meant.length := by
          unfold takeValue at hvalue
          split at hvalue
          · have htake := congrArg List.length (Option.some.inj hvalue)
            rw [List.length_take] at htake
            omega
          · cases hvalue
        rw [hlen, takeValue_append, htail] at hr
        exact List.forall_mem_cons.mpr ⟨hlen, ih _ _ _
          (fun b hb => hshort b (List.mem_cons_of_mem a hb))
          (fun b hb => hprinted b (List.mem_cons_of_mem a hb)) hr⟩

/-! ### Fields that are right -/

theorem field_exact (h : v.Exact) (arg : CStr) :
    v.field arg = argValText [(arg, v.meant)] := by
  unfold Value.field argValText
  rw [h.1, h.2]
  simp

theorem slotText_of_exact (hone : slot.length ≤ 1) (hexact : ∀ a ∈ slot, a.2.Exact)
    (hroom : (argValText (meantOf slot)).length < obufLen) :
    slotText obufLen slot = argValText (meantOf slot) := by
  cases slot with
  | nil => rfl
  | cons a slot =>
    have hnil : slot = [] := by
      rw [List.length_cons] at hone
      exact List.eq_nil_of_length_eq_zero (by omega)
    subst hnil
    have hfield : a.2.field a.1.arg = argValText (meantOf [a]) :=
      field_exact (hexact a List.mem_cons_self) a.1.arg
    have htext := slotText_concat obufLen [] a
    rw [List.nil_append] at htext
    rw [htext, hfield]
    exact List.take_of_length_le (by omega)

theorem slotsText_of_exact (slots : List (List HandlerAnswer)) : ∀ obufLen,
    (∀ slot ∈ slots, slot.length ≤ 1) → (∀ a ∈ slots.flatten, a.2.Exact) →
    (argValText (meantOf slots.flatten)).length < obufLen →
    slotsText obufLen slots = argValText (meantOf slots.flatten) := by
  induction slots with
  | nil => intro obufLen _ _ _; rfl
  | cons slot rest ih =>
    intro obufLen hone hexact hroom
    have happend : argValText (meantOf (slot ++ rest.flatten)) =
        argValText (meantOf slot) ++ argValText (meantOf rest.flatten) := by
      rw [meantOf_append]
      exact List.flatMap_append
    rw [List.flatten_cons] at hexact hroom ⊢
    rw [happend] at hroom ⊢
    rw [List.length_append] at hroom
    have hslotRoom : (argValText (meantOf slot)).length < obufLen := by omega
    have hslot := slotText_of_exact (hone slot List.mem_cons_self)
      (fun a ha => hexact a (List.mem_append_left _ ha)) hslotRoom
    rw [slotsText, hslot, ih _ (fun s hs => hone s (List.mem_cons_of_mem slot hs))
      (fun a ha => hexact a (List.mem_append_right slot ha)) (by omega)]

theorem length_meantOf_le (as : List HandlerAnswer) :
    7 * (meantOf as).length ≤ argValSize (meantOf as) := by
  induction as with
  | nil => exact Nat.le_refl 0
  | cons a as ih =>
    have hpos := arg_length_pos a.1
    have hcons : argValSize (meantOf (a :: as)) =
        6 + a.1.arg.length + a.2.meant.length + argValSize (meantOf as) := List.sum_cons ..
    have hlen : (meantOf (a :: as)).length = (meantOf as).length + 1 := rfl
    omega

theorem length_slotsText_lt (slots : List (List HandlerAnswer)) : ∀ obufLen, 0 < obufLen →
    (slotsText obufLen slots).length < obufLen := by
  induction slots with
  | nil => intro obufLen h; exact h
  | cons slot rest ih =>
    intro obufLen h
    have hslot : (slotText obufLen slot).length < obufLen := by
      unfold slotText
      cases slot.getLast? with
      | none => exact h
      | some a =>
        show (snprintf obufLen _).length < obufLen
        unfold snprintf
        rw [List.length_take]
        omega
    have hrest := ih (obufLen - (slotText obufLen slot).length) (by omega)
    rw [slotsText, List.length_append]
    omega

/-- The client shows what was meant, if and only if each place has one answer at most, all lengths
are right, and there is room for all of them. -/
theorem slotsText_read_iff (stack : LenStack) (hpos : 0 < obufLen)
    (hlt : obufLen ≤ 65536) (slots : List (List HandlerAnswer)) :
    printArgValue stack (slotsText obufLen slots) = .ok (valEntries (meantOf slots.flatten)) ↔
      (∀ slot ∈ slots, slot.length ≤ 1) ∧ (∀ a ∈ slots.flatten, a.2.Exact) ∧
        argValSize (meantOf slots.flatten) < obufLen := by
  constructor
  · intro h
    obtain ⟨hall, hsize, -⟩ := getArgValList_fits h
    have hshort : Short slots.flatten := fun a ha =>
      (hall (a.1.arg, a.2.meant) (List.mem_map.mpr ⟨a, ha, rfl⟩)).2
    obtain ⟨hone, hprinted, htext⟩ := slots_exact slots obufLen hshort hsize
    have hroom := length_slotsText_lt slots obufLen hpos
    refine ⟨hone, ?_, by omega⟩
    intro a ha
    rcases getArgValList_loop h with hnil | hloop
    · -- nothing was read, so there was no answer
      have hempty : slots.flatten = [] := List.map_eq_nil_iff.mp hnil
      rw [hempty] at ha
      cases ha
    · rw [htext] at hloop
      exact ⟨declared_of_read slots.flatten _ _ _ hshort hprinted hloop a ha, hprinted a ha⟩
  · rintro ⟨hone, hexact, hsize⟩
    have hall : ∀ m ∈ meantOf slots.flatten, m.1.length < 256 ∧ m.2.length < 65536 := by
      intro m hm
      obtain ⟨a, ha, rfl⟩ := List.mem_map.mp hm
      have hle : 6 + a.1.arg.length + a.2.meant.length ≤ argValSize (meantOf slots.flatten) :=
        List.single_le_sum (fun _ _ => Nat.zero_le _) _ (List.mem_map.mpr ⟨_, hm, rfl⟩)
      have hvalue : a.2.meant.length < 65536 := by omega
      exact ⟨arg_length_lt a.1, hvalue⟩
    have hlen := length_argValText hall
    have hcount := length_meantOf_le slots.flatten
    rw [slotsText_of_exact slots obufLen hone hexact (by omega)]
    exact getArgValList_text stack hall (le_countArgs _ _ (by omega))

/-! ### The settings -/

/-- The setting of a handler has the length that is printed, and room in the handler's buffer. -/
def ArgHandler.Fits (s : Settings) : ArgHandler → Prop
  | .ttlValue =>
    let n := (s.int (some timeToLiveTlv) "value".toList).getD s.stale
    (-1000000 < n ∧ n < 10000000)
  | .numtcs => ∀ n, s.int (some etscfgTlv) "numtcs".toList = some n → 0 ≤ n ∧ n < 10
  | .enabled => ∀ n, s.int (some pfcTlv) "enabled".toList = some n →
      10 ≤ n ∧ n < 100 ∨ -10 < n ∧ n < 0
  | .delay => ∀ n, s.int (some pfcTlv) "delay".toList = some n → (u32 n).toNat < 256
  | .app => (appTable s).length ≤ appBufRoom
  | _ => True

/-- The settings that answer a query fit: each has its length, no two modules answer for an
argument that is named, and there is room for all of them. -/
structure ConfigQuery.Fits (mods : List Module) (s : Settings) (q : ConfigQuery) : Prop where
  lengths : ∀ a ∈ (q.slots mods s).flatten, a.1.Fits s
  one : ∀ slot ∈ q.slots mods s, slot.length ≤ 1
  room : argValSize (q.meant mods s) < q.obufLen

theorem exact_own (text : CStr) : (Value.own text).Exact := ⟨rfl, rfl⟩

theorem exact_fixed (len : UInt8) (text : CStr) :
    (Value.fixed len text).Exact ↔ text.length = len.toNat :=
  ⟨fun h => h.1.symm, fun h => ⟨h.symm, rfl⟩⟩

theorem exact_buffered (room : Nat) (text : CStr) :
    (Value.buffered room text).Exact ↔ text.length ≤ room := by
  constructor
  · rintro ⟨hlen, -⟩
    have htake : (text.take room).length = text.length := hlen
    rw [List.length_take] at htake
    omega
  · intro h
    have htake := List.take_of_length_le h
    exact ⟨congrArg List.length htake, htake⟩

theorem onTlv_ok {wrong : CmdErr} {known : List UInt32} {get : UInt32 → Value}
    (h : onTlv wrong known get cmd = .ok v) : ∃ tlvid ∈ known, v = get tlvid := by
  unfold onTlv at h
  split at h
  · next tlvid =>
    split at h
    · next hknown => exact ⟨tlvid, hknown, (Except.ok.inj h).symm⟩
    · split at h <;> cases h
  · cases h

theorem onTlv_ok_one {wrong : CmdErr} {known : UInt32} {get : UInt32 → Value}
    (h : onTlv wrong [known] get cmd = .ok v) : v = get known := by
  obtain ⟨tlvid, hknown, rfl⟩ := onTlv_ok h
  rw [List.mem_singleton.mp hknown]

theorem exact_ofSetting {α : Type} {found : Option α} {get : α → Value} {P : α → Prop}
    (h : ∀ x, (get x).Exact ↔ P x) :
    (Value.ofSetting found get).Exact ↔ ∀ x, found = some x → P x := by
  cases found with
  | none => exact ⟨fun _ => nofun, fun _ => exact_own []⟩
  | some x =>
    constructor
    · rintro hx y ⟨⟩
      exact (h x).mp hx
    · intro hall
      exact (h x).mpr (hall x rfl)

theorem exact_ofSetting_own {α : Type} (found : Option α) (text : α → CStr) :
    (Value.ofSetting found fun x => .own (text x)).Exact := by
  cases found with
  | none => exact exact_own []
  | some x => exact exact_own (text x)

theorem length_decimal_one (n : Int) : (decimal n).length = 1 ↔ 0 ≤ n ∧ n < 10 := by
  have hone : (decimal n).length ≤ 1 ↔ -1 < n ∧ n < 10 := length_decimal_le_iff (k := 0)
  have hpos : 0 < (decimal n).length := by
    unfold decimal
    split
    · exact Nat.succ_pos _
    · exact Nat.length_toDigits_pos
  omega

theorem length_decimal_two (n : Int) :
    (decimal n).length = 2 ↔ 10 ≤ n ∧ n < 100 ∨ -10 < n ∧ n < 0 := by
  have hone : (decimal n).length ≤ 1 ↔ -1 < n ∧ n < 10 := length_decimal_le_iff (k := 0)
  have htwo : (decimal n).length ≤ 2 ↔ -10 < n ∧ n < 100 := length_decimal_le_iff (k := 1)
  omega

theorem length_hexField_two (n : Nat) : (hexField 2 n).length = 2 ↔ n < 256 := by
  have hdigits : (Nat.toDigits 16 n).length ≤ 2 ↔ n < 256 :=
    Nat.length_toDigits_le_iff (by decide) (by decide)
  unfold hexField
  rw [List.length_append, List.length_replicate]
  omega

theorem exact_adminStatus {arg : CStr} (h : getArgAdminstatus s arg cmd = .ok v) : v.Exact := by
  unfold getArgAdminstatus at h
  split at h
  · split at h <;> cases h <;> exact exact_own _
  · cases h

theorem exact_mode (h : getArgDcbxMode s cmd = .ok v) : v.Exact := by
  have hv := onTlv_ok_one h
  split at hv <;> exact hv ▸ exact_own _

theorem exact_iff_fits (h : ah.handleGet s cmd = .ok v) : v.Exact ↔ ah.Fits s := by
  cases ah with
  | adminStatus => exact iff_of_true (exact_adminStatus h) ⟨⟩
  | mode => exact iff_of_true (exact_mode h) ⟨⟩
  | mandEnableTx | subtype | qazEnableTx =>
    obtain ⟨tlvid, -, rfl⟩ := onTlv_ok h
    exact iff_of_true (exact_own _) ⟨⟩
  | willing | up2tc | tcbw | tsa =>
    obtain ⟨tlvid, -, rfl⟩ := onTlv_ok h
    exact iff_of_true (exact_ofSetting_own _ _) ⟨⟩
  | ttlValue =>
    rw [onTlv_ok_one h, exact_buffered]
    exact length_decimal_le_iff (k := 6)
  | numtcs =>
    rw [onTlv_ok_one h]
    exact exact_ofSetting fun n => (exact_fixed 1 _).trans (length_decimal_one n)
  | enabled =>
    rw [onTlv_ok_one h]
    exact exact_ofSetting fun n => (exact_fixed 2 _).trans (length_decimal_two n)
  | delay =>
    rw [onTlv_ok_one h]
    exact exact_ofSetting fun n => (exact_fixed 2 _).trans (length_hexField_two _)
  | app =>
    rw [onTlv_ok_one h]
    exact exact_buffered _ _
  | other other =>
    change (other.handleGet cmd).map Value.own = .ok v at h
    cases hother : other.handleGet cmd with
    | error rval =>
      rw [hother] at h
      cases h
    | ok text =>
      rw [hother] at h
      cases h
      exact iff_of_true (exact_own text) ⟨⟩

theorem handleGet_of_mem {hs : List ArgHandler} {a : HandlerAnswer}
    (h : a ∈ answers s cmd hs) : a.1.handleGet s cmd = .ok a.2 := by
  induction hs with
  | nil => cases h
  | cons ah hs ih =>
    unfold answers at h
    cases hget : ah.handleGet s cmd with
    | ok v =>
      rw [hget] at h
      rcases List.mem_cons.mp h with rfl | hmem
      · exact hget
      · exact ih hmem
    | error rval =>
      rw [hget] at h
      cases rval with
      | notApplicable => exact ih h
      | _ => cases h

theorem handleGet_of_mem_slots {mods : List Module} {q : ConfigQuery}
    {a : HandlerAnswer} (h : a ∈ (q.slots mods s).flatten) :
    a.1.handleGet s q.cmd = .ok a.2 := by
  obtain ⟨slot, hslot, ha⟩ := List.mem_flatten.mp h
  unfold ConfigQuery.slots at hslot
  split at hslot
  · obtain ⟨a', ha', rfl⟩ := List.mem_map.mp hslot
    rw [List.mem_singleton.mp ha]
    exact handleGet_of_mem ha'
  · obtain ⟨arg, -, rfl⟩ := List.mem_map.mp hslot
    exact handleGet_of_mem ha

theorem obufLen_pos (q : ConfigQuery) : 0 < q.obufLen := by
  have hname : q.ifname.length ≤ 16 := q.ifname_le
  have hmax : maxClifMsgbuf = 4096 := rfl
  unfold ConfigQuery.obufLen
  split <;> omega

theorem obufLen_le (q : ConfigQuery) : q.obufLen ≤ 65536 := by
  have hmax : maxClifMsgbuf = 4096 := rfl
  unfold ConfigQuery.obufLen
  omega

/-- The client shows what the handlers meant, if and only if each value has the length that is
printed, and all fields are in the reply. -/
theorem shown_iff_exact (stack : LenStack) (mods : List Module) (s : Settings) (q : ConfigQuery) :
    q.Shown stack mods s ↔ (q.Accepted mods s →
      (∀ slot ∈ q.slots mods s, slot.length ≤ 1) ∧
        (∀ a ∈ (q.slots mods s).flatten, a.2.Exact) ∧
          argValSize (q.meant mods s) < q.obufLen) := by
  unfold ConfigQuery.Shown
  rw [reply_ok_iff, reply_text]
  exact imp_congr_right fun _ => slotsText_read_iff stack (obufLen_pos q) (obufLen_le q) _

/-- For every set of modules, all settings and every query: a query that succeeds shows just the
arguments and values that the handlers meant, in order, if and only if these settings fit. -/
theorem queryShown_iff (stack : LenStack) (mods : List Module) (s : Settings) (q : ConfigQuery) :
    q.Shown stack mods s ↔ (q.Accepted mods s → q.Fits mods s) := by
  rw [shown_iff_exact]
  refine imp_congr_right fun _ => ?_
  have hfits : (∀ a ∈ (q.slots mods s).flatten, a.2.Exact) ↔
      ∀ a ∈ (q.slots mods s).flatten, a.1.Fits s :=
    forall₂_congr fun _ ha => exact_iff_fits (handleGet_of_mem_slots ha)
  rw [hfits]
  constructor
  · rintro ⟨hone, hlengths, hroom⟩
    exact { lengths := hlengths, one := hone, room := hroom }
  · intro h
    exact ⟨h.one, h.lengths, h.room⟩

/-- Priority 3 has flow control, so the setting is 8. -/
def pfcOfPriority3 : Settings where
  int tlvid arg := if tlvid = some pfcTlv ∧ arg = "enabled".toList then some 8 else none
  string _ _ := none
  stale := 0
  dcbx := 0
  appHead := none

/-- All arguments of the TLV of flow control -/
def pfcQuery : ConfigQuery where
  ifname := "eth0".toList
  ifname_le := by decide
  tlvid := some pfcTlv
  args := []

/-- The length of this setting is two, and its text one digit: nothing is shown as it was meant. -/
theorem pfc_not_shown : ¬ pfcQuery.Shown ⟨0, 0⟩ [.mand, .ieee8021qaz] pfcOfPriority3 := by
  rw [shown_iff_exact]
  intro h
  have hok : pfcQuery.Accepted [.mand, .ieee8021qaz] pfcOfPriority3 := by
    rw [← reply_ok_iff]
    decide +kernel
  have hanswer : (ArgHandler.enabled, Value.fixed 2 (decimal 8)) ∈
      (pfcQuery.slots [.mand, .ieee8021qaz] pfcOfPriority3).flatten :=
    List.mem_of_getElem? (i := 2) rfl
  have hexact := (h hok).2.1 _ hanswer
  rw [exact_fixed] at hexact
  exact absurd hexact (by decide)

end Lldpad.Clif
