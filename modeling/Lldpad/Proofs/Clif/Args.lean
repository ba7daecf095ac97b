import Lldpad.Clif.Args

/-!
# `Lldpad.Proofs.Clif.Args`: what the arguments of a message are read as

`argLoop_text` and `argValLoop_text` read a text of arguments back, if no length is too large for
its digits, the slots are enough and, without values, the last argument is not empty. The other
direction holds of any text: what is read out of it was in it (`argLoop_fits`,
`argValLoop_fits`), in slots that are there.
-/

namespace Lldpad.Clif

open Lldpad.Lib

/-! ### The texts -/

/-- Arguments as text, each behind its length -/
def argListText (args : List CStr) : CStr :=
  args.flatMap fun a => hexField 2 a.length ++ a

/-- Arguments and values as text, each behind its length -/
def argValText (args : List (CStr × CStr)) : CStr :=
  args.flatMap fun a => hexField 2 a.1.length ++ (a.1 ++ (hexField 4 a.2.length ++ a.2))

/-- The room that arguments take when their lengths have two digits -/
def argListSize (args : List CStr) : Nat := (args.map fun a => 2 + a.length).sum

/-- The room that arguments and values take when their lengths have two and four digits -/
def argValSize (args : List (CStr × CStr)) : Nat :=
  (args.map fun a => 6 + a.1.length + a.2.length).sum

theorem length_lengthField {n : Nat} (h : n < 256) : (hexField 2 n).length = 2 :=
  length_hexField (by decide) (show n < 16 ^ 2 from h)

theorem length_valueField {n : Nat} (h : n < 65536) : (hexField 4 n).length = 4 :=
  length_hexField (by decide) (show n < 16 ^ 4 from h)

theorem length_argListText {args : List CStr} (h : ∀ a ∈ args, a.length < 256) :
    (argListText args).length = argListSize args := by
  induction args with
  | nil => rfl
  | cons a args ih =>
    have hrest := ih fun b hb => h b (List.mem_cons_of_mem a hb)
    have hfield := length_lengthField (h a List.mem_cons_self)
    unfold argListText argListSize at hrest ⊢
    rw [List.flatMap_cons, List.length_append, List.length_append, hfield, hrest, List.map_cons,
      List.sum_cons]

variable {args : List (CStr × CStr)} {text : CStr} {slots : Nat}

theorem length_argValText (h : ∀ a ∈ args, a.1.length < 256 ∧ a.2.length < 65536) :
    (argValText args).length = argValSize args := by
  induction args with
  | nil => rfl
  | cons a args ih =>
    have hrest := ih fun b hb => h b (List.mem_cons_of_mem a hb)
    obtain ⟨harg, hvalue⟩ := h a List.mem_cons_self
    have hargField := length_lengthField harg
    have hvalueField := length_valueField hvalue
    unfold argValText argValSize at hrest ⊢
    simp only [List.flatMap_cons, List.length_append, hargField, hvalueField, hrest, List.map_cons,
      List.sum_cons]
    omega

/-! ### Arguments without values -/

theorem argLoop_of_le (slots : Nat) (h : text.length ≤ 2) (i arglen : Nat) :
    argLoop slots text i arglen = .ok (some []) := by
  rw [argLoop, dif_neg (by omega)]

variable {stack : LenStack} {arglen i : Nat} {a : CStr}

theorem argLoop_of_gt (slots : Nat) (h : 2 < text.length)
    (hlen : hexNat 1 text arglen ≤ (text.drop 2).length) (hslot : i < slots) :
    argLoop slots text i arglen =
      (do
        let args ← argLoop slots ((text.drop 2).drop (hexNat 1 text arglen)) (i + 1)
          (hexNat 1 text arglen)
        pure (args.map ((text.drop 2).take (hexNat 1 text arglen) :: ·))) := by
  conv_lhs => rw [argLoop]
  rw [dif_pos h]
  rw [if_pos hlen, if_neg (by omega)]

theorem argLoop_cons {args : List CStr} (h : argLoop slots text i arglen = .ok (some (a :: args))) :
    2 < text.length ∧ i < slots ∧ a.length < 256 ∧ ∃ rest arglen',
      argLoop slots rest (i + 1) arglen' = .ok (some args) ∧
      2 + a.length + rest.length = text.length := by
  rw [argLoop] at h
  split at h
  · next hmore =>
    dsimp only at h
    split at h
    · next hlen =>
      split at h
      · cases h
      · next hslot =>
        obtain ⟨r, hr, hargs⟩ := bind_eq_ok.mp h
        have hbyte := hexNat_lt 1 text arglen
        cases r with
        | none => cases hargs
        | some r =>
          cases hargs
          rw [List.length_drop] at hlen
          refine ⟨hmore, by omega, ?_, _, _, hr, ?_⟩
          · rw [List.length_take]
            omega
          · simp only [List.length_take, List.length_drop]
            omega
    · cases h
  · cases h

/-- What was read was in the text, in slots that are there. The last argument that was read began
before the last two characters. -/
theorem argLoop_fits : ∀ (args : List CStr) (text : CStr) (i arglen : Nat),
    argLoop slots text i arglen = .ok (some args) →
    (∀ a ∈ args, a.length < 256) ∧ argListSize args ≤ text.length ∧
      (args = [] ∨ i + args.length ≤ slots) ∧
      ∀ init last, args = init ++ [last] → argListSize init + 2 < text.length := by
  intro args
  induction args with
  | nil =>
    intro text i arglen _
    refine ⟨nofun, Nat.zero_le _, .inl rfl, ?_⟩
    intro init last h
    exact absurd h.symm (List.append_ne_nil_of_right_ne_nil _ (List.cons_ne_nil _ _))
  | cons a args ih =>
    intro text i arglen h
    obtain ⟨hmore, hslot, ha, rest, arglen', hrest, hlen⟩ := argLoop_cons h
    obtain ⟨hall, hsize, hslots, hlast⟩ := ih rest (i + 1) arglen' hrest
    have hcons : argListSize (a :: args) = 2 + a.length + argListSize args := List.sum_cons ..
    refine ⟨List.forall_mem_cons.mpr ⟨ha, hall⟩, by omega, .inr ?_, ?_⟩
    · rw [List.length_cons]
      rcases hslots with rfl | hslots
      · exact hslot
      · omega
    · intro init last heq
      cases init with
      | nil => exact hmore
      | cons b init =>
        obtain ⟨rfl, hargs⟩ := List.cons.inj heq
        have hinit := hlast init last hargs
        have hcons' : argListSize (a :: init) = 2 + a.length + argListSize init :=
          List.sum_cons ..
        omega

/-- A text of arguments is read back, unless its last argument is empty. -/
theorem argLoop_text : ∀ (args : List CStr) (i arglen : Nat),
    (∀ a ∈ args, a.length < 256) → args.getLast? ≠ some [] → i + args.length ≤ slots →
    argLoop slots (argListText args) i arglen = .ok (some args) := by
  intro args
  induction args with
  | nil =>
    intro i arglen _ _ _
    have hnil : (argListText []).length ≤ 2 := Nat.zero_le 2
    exact argLoop_of_le slots hnil i arglen
  | cons a args ih =>
    intro i arglen hall hlast hslots
    have ha := hall a List.mem_cons_self
    have hrest : ∀ b ∈ args, b.length < 256 := fun b hb => hall b (List.mem_cons_of_mem a hb)
    have htext : argListText (a :: args) = hexField 2 a.length ++ (a ++ argListText args) := by
      unfold argListText
      rw [List.flatMap_cons, List.append_assoc]
    have hfield := length_lengthField ha
    have hread : hexNat 1 (argListText (a :: args)) arglen = a.length := by
      rw [htext]
      exact hexNat_hexField (k := 1) (by decide) ha _ arglen
    have hdrop : (argListText (a :: args)).drop 2 = a ++ argListText args := by
      rw [htext]
      exact List.drop_left' hfield
    have hlast' : args.getLast? ≠ some [] := by
      cases args with
      | nil => exact nofun
      | cons b args => rwa [List.getLast?_cons_cons] at hlast
    -- something is left: this argument is not empty, or another one follows it
    have hmore : 2 < (argListText (a :: args)).length := by
      rw [htext, List.length_append, hfield, List.length_append]
      cases args with
      | nil =>
        have hne : a ≠ [] := fun h => hlast (by rw [h]; rfl)
        have hpos := List.length_pos_iff.mpr hne
        omega
      | cons b args =>
        rw [length_argListText hrest]
        show 2 < 2 + (a.length + (2 + b.length + argListSize args))
        omega
    rw [argLoop_of_gt slots hmore (by rw [hread, hdrop, List.length_append]; omega)
      (by rw [List.length_cons] at hslots; omega), hread, hdrop, List.drop_left, List.take_left,
      ih (i + 1) a.length hrest hlast' (by rw [List.length_cons] at hslots; omega), bind_ok]
    rfl

/-! ### Arguments with values -/

theorem argValLoop_of_le (slots : Nat) (h : text.length ≤ 2) (i arglen argvalueLen : Nat) :
    argValLoop slots text i arglen argvalueLen = .ok (some []) := by
  rw [argValLoop, dif_neg (by omega)]

theorem argValLoop_cons {argvalueLen : Nat} {v : CStr} {args : List (CStr × Option CStr)}
    (h : argValLoop slots text i arglen argvalueLen = .ok (some ((a, some v) :: args))) :
    i < slots ∧ a.length < 256 ∧ v.length < 65536 ∧ ∃ rest arglen' argvalueLen',
      argValLoop slots rest (i + 1) arglen' argvalueLen' = .ok (some args) ∧
      6 + a.length + v.length + rest.length = text.length := by
  rw [argValLoop] at h
  split at h
  · next hmore =>
    dsimp only at h
    split at h
    · next hlen =>
      split at h
      · cases h
      · next hslot =>
        split at h
        · next hvalue =>
          obtain ⟨r, hr, hargs⟩ := bind_eq_ok.mp h
          cases r with
          | none => cases hargs
          | some r =>
            have hbyte := hexNat_lt 1 text arglen
            have hword := hexNat_lt 2 ((text.drop 2).drop (hexNat 1 text arglen)) argvalueLen
            unfold takeValue at hr hargs
            split at hargs
            · next hfits =>
              rw [if_pos hfits] at hr
              cases hargs
              simp only [List.length_drop] at hlen hvalue hfits
              refine ⟨by omega, ?_, ?_, _, _, _, hr, ?_⟩
              · rw [List.length_take]
                omega
              · rw [List.length_take]
                omega
              · simp only [List.length_take, List.length_drop]
                omega
            · cases hargs
        · cases h
    · cases h
  · cases h

theorem argValLoop_fits : ∀ (args : List (CStr × CStr)) (text : CStr) (i arglen argvalueLen : Nat),
    argValLoop slots text i arglen argvalueLen =
      .ok (some (args.map fun a => (a.1, some a.2))) →
    (∀ a ∈ args, a.1.length < 256 ∧ a.2.length < 65536) ∧ argValSize args ≤ text.length ∧
      (args = [] ∨ i + args.length ≤ slots) := by
  intro args
  induction args with
  | nil =>
    intro text i arglen argvalueLen _
    exact ⟨nofun, Nat.zero_le _, .inl rfl⟩
  | cons a args ih =>
    intro text i arglen argvalueLen h
    obtain ⟨hslot, ha, hv, rest, _, _, hrest, hlen⟩ := argValLoop_cons h
    obtain ⟨hall, hsize, hslots⟩ := ih rest (i + 1) _ _ hrest
    have hcons : argValSize (a :: args) = 6 + a.1.length + a.2.length + argValSize args :=
      List.sum_cons ..
    refine ⟨List.forall_mem_cons.mpr ⟨⟨ha, hv⟩, hall⟩, by omega, .inr ?_⟩
    rw [List.length_cons]
    rcases hslots with rfl | hslots
    · exact hslot
    · omega

theorem argValLoop_field {len : Nat} (ha : a.length < 256)
    (hlen : len < 65536) (behind : CStr) (i arglen argvalueLen : Nat) :
    argValLoop slots (hexField 2 a.length ++ (a ++ (hexField 4 len ++ behind))) i arglen
        argvalueLen =
      if slots ≤ i then .error .outOfBounds
      else argValLoop slots (takeValue behind len).2 (i + 1) a.length len >>= fun args =>
        pure (args.map ((a, (takeValue behind len).1) :: ·)) := by
  have hargField := length_lengthField ha
  have hvalueField := length_valueField hlen
  have hread : hexNat 1 (hexField 2 a.length ++ (a ++ (hexField 4 len ++ behind))) arglen =
      a.length := hexNat_hexField (k := 1) (by decide) ha _ arglen
  have hdrop : (hexField 2 a.length ++ (a ++ (hexField 4 len ++ behind))).drop 2 =
      a ++ (hexField 4 len ++ behind) := List.drop_left' hargField
  have hreadValue : hexNat 2 (hexField 4 len ++ behind) argvalueLen = len :=
    hexNat_hexField (k := 2) (by decide) hlen _ argvalueLen
  have hdropValue : (hexField 4 len ++ behind).drop 4 = behind := List.drop_left' hvalueField
  conv_lhs => rw [argValLoop]
  dsimp only
  rw [hread, hdrop, List.drop_left, List.take_left, hreadValue, hdropValue,
    dif_pos (by simp only [List.length_append, hargField, hvalueField]; omega),
    if_pos (by rw [List.length_append]; omega)]
  split
  · rfl
  · rw [if_pos (by rw [List.length_append, hvalueField]; omega)]

theorem takeValue_append (v rest : CStr) : takeValue (v ++ rest) v.length = (some v, rest) := by
  unfold takeValue
  rw [if_pos (by rw [List.length_append]; omega), List.take_left, List.drop_left]

theorem argValText_cons (a : CStr × CStr) (args : List (CStr × CStr)) :
    argValText (a :: args) = hexField 2 a.1.length ++ (a.1 ++
      (hexField 4 a.2.length ++ (a.2 ++ argValText args))) := by
  unfold argValText
  simp only [List.flatMap_cons, List.append_assoc]

theorem argValLoop_text : ∀ (args : List (CStr × CStr)) (i arglen argvalueLen : Nat),
    (∀ a ∈ args, a.1.length < 256 ∧ a.2.length < 65536) → i + args.length ≤ slots →
    argValLoop slots (argValText args) i arglen argvalueLen =
      .ok (some (args.map fun a => (a.1, some a.2))) := by
  intro args
  induction args with
  | nil =>
    intro i arglen argvalueLen _ _
    have hnil : (argValText []).length ≤ 2 := Nat.zero_le 2
    exact argValLoop_of_le slots hnil i arglen argvalueLen
  | cons a args ih =>
    intro i arglen argvalueLen hall hslots
    obtain ⟨ha, hv⟩ := hall a List.mem_cons_self
    have hrest : ∀ b ∈ args, b.1.length < 256 ∧ b.2.length < 65536 :=
      fun b hb => hall b (List.mem_cons_of_mem a hb)
    have hslot : ¬ slots ≤ i := by
      rw [List.length_cons] at hslots
      omega
    rw [argValText_cons, argValLoop_field ha hv, if_neg hslot, takeValue_append,
      ih (i + 1) _ _ hrest (by rw [List.length_cons] at hslots; omega), bind_ok]
    rfl

/-! ### Slots -/

theorem le_countArgs (k : Nat) : ∀ left, 7 * k ≤ left → k ≤ countArgs left := by
  induction k with
  | zero => intro left _; exact Nat.zero_le _
  | succ k ih =>
    intro left h
    have hleft : 7 * k ≤ if left - 3 > 4 then left - 3 - 4 else left - 3 := by split <;> omega
    have hrest := ih _ hleft
    rw [countArgs, if_pos (by omega)]
    exact Nat.succ_le_succ hrest

/-! ### The lists -/

/-- Arguments as their entries -/
def listEntries (args : List CStr) : List Arg := args.map fun a => ⟨some a, none⟩

/-- Arguments and values as their entries -/
def valEntries (args : List (CStr × CStr)) : List Arg := args.map fun a => ⟨some a.1, some a.2⟩

theorem listEntries_inj {args args' : List CStr} (h : listEntries args = listEntries args') :
    args = args' :=
  (List.map_inj_right fun _ _ h => Option.some.inj (Arg.mk.inj h).1).mp h

theorem getArgList_text (stack : LenStack) {args : List CStr}
    (hall : ∀ a ∈ args, a.length < 256) (hlast : args.getLast? ≠ some [])
    (hslots : args.length ≤ slots) :
    getArgList stack slots (argListText args) = .ok (listEntries args) := by
  unfold getArgList
  rw [argLoop_text args 0 stack.arglen hall hlast (by omega), bind_ok]
  rfl

theorem getArgValList_text (stack : LenStack)
    (hall : ∀ a ∈ args, a.1.length < 256 ∧ a.2.length < 65536) (hslots : args.length ≤ slots) :
    getArgValList stack slots (argValText args) = .ok (valEntries args) := by
  have hsome : (args.map fun a => (a.1, some a.2)).all (fun a => a.2.isSome) = true := by
    simp
  unfold getArgValList
  rw [argValLoop_text args 0 stack.arglen stack.argvalueLen hall (by omega), bind_ok]
  dsimp only
  rw [if_pos hsome, List.map_map]
  rfl

theorem argValLoop_begins : ∀ (args : List (CStr × CStr)) (rest : CStr)
    (i arglen argvalueLen : Nat) (r : List (CStr × Option CStr)),
    (∀ a ∈ args, a.1.length < 256 ∧ a.2.length < 65536) →
    argValLoop slots (argValText args ++ rest) i arglen argvalueLen = .ok (some r) →
    ∃ behind, r = args.map (fun a => (a.1, some a.2)) ++ behind := by
  intro args
  induction args with
  | nil => exact fun _ _ _ _ r _ _ => ⟨r, rfl⟩
  | cons a args ih =>
    intro rest i arglen argvalueLen r hall h
    obtain ⟨ha, hv⟩ := hall a List.mem_cons_self
    simp only [argValText_cons, List.append_assoc] at h
    rw [argValLoop_field ha hv, takeValue_append] at h
    split_ifs at h
    obtain ⟨x, hx, hr⟩ := bind_eq_ok.mp h
    cases x with
    | none => cases hr
    | some x =>
      obtain ⟨behind, rfl⟩ := ih rest _ _ _ x (fun b hb => hall b (List.mem_cons_of_mem a hb)) hx
      cases hr
      exact ⟨behind, rfl⟩

theorem getArgValList_begins
    {rest : CStr} (hall : ∀ a ∈ args, a.1.length < 256 ∧ a.2.length < 65536) {r : List Arg}
    (h : getArgValList stack slots (argValText args ++ rest) = .ok r) :
    r = [] ∨ ∃ behind, r = valEntries args ++ behind := by
  obtain ⟨x, hx, hr⟩ := bind_eq_ok.mp h
  cases x with
  | none =>
    cases hr
    exact .inl rfl
  | some x =>
    obtain ⟨behind, rfl⟩ := argValLoop_begins args rest _ _ _ x hall hx
    dsimp only at hr
    split_ifs at hr
    cases hr
    refine .inr ⟨behind.map fun a => ⟨some a.1, a.2⟩, ?_⟩
    rw [List.map_append, List.map_map]
    rfl

theorem argValLoop_short : ∀ (args : List (CStr × CStr)) (i arglen argvalueLen : Nat),
    (∀ a ∈ args, a.1.length < 256 ∧ a.2.length < 65536) → args ≠ [] → slots < i + args.length →
    argValLoop slots (argValText args) i arglen argvalueLen = .error .outOfBounds := by
  intro args
  induction args with
  | nil => exact fun _ _ _ _ h => absurd rfl h
  | cons a args ih =>
    intro i arglen argvalueLen hall _ hslots
    obtain ⟨ha, hv⟩ := hall a List.mem_cons_self
    have hrest : ∀ b ∈ args, b.1.length < 256 ∧ b.2.length < 65536 :=
      fun b hb => hall b (List.mem_cons_of_mem a hb)
    rw [argValText_cons, argValLoop_field ha hv, takeValue_append]
    rw [List.length_cons] at hslots
    split_ifs with hfull
    · rfl
    · -- There is a slot for this argument, so there are others behind it.
      have hne : args ≠ [] := by
        rintro rfl
        rw [List.length_nil] at hslots
        omega
      rw [ih (i + 1) _ _ hrest hne (by omega)]
      rfl

theorem getArgValList_short (stack : LenStack)
    (hall : ∀ a ∈ args, a.1.length < 256 ∧ a.2.length < 65536) (hne : args ≠ [])
    (hslots : slots < args.length) :
    getArgValList stack slots (argValText args) = .error .outOfBounds := by
  unfold getArgValList
  rw [argValLoop_short args 0 stack.arglen stack.argvalueLen hall hne (by omega)]
  rfl

theorem getArgList_fits {args : List CStr}
    (h : getArgList stack slots text = .ok (listEntries args)) :
    (∀ a ∈ args, a.length < 256) ∧ argListSize args ≤ text.length ∧ args.length ≤ slots ∧
      ∀ init last, args = init ++ [last] → argListSize init + 2 < text.length := by
  obtain ⟨r, hr, hargs⟩ := bind_eq_ok.mp h
  have heq := listEntries_inj (Except.ok.inj hargs)
  cases r with
  | none =>
    -- the early exit, which leaves no argument
    obtain rfl : [] = args := heq
    refine ⟨nofun, Nat.zero_le _, Nat.zero_le _, ?_⟩
    intro init last h
    exact absurd h.symm (List.append_ne_nil_of_right_ne_nil _ (List.cons_ne_nil _ _))
  | some r =>
    obtain rfl : r = args := heq
    obtain ⟨hall, hsize, hslots, hlast⟩ := argLoop_fits r text 0 stack.arglen hr
    refine ⟨hall, hsize, ?_, hlast⟩
    rcases hslots with rfl | hslots
    · exact Nat.zero_le _
    · omega

theorem getArgValList_loop (h : getArgValList stack slots text = .ok (valEntries args)) :
    args = [] ∨ argValLoop slots text 0 stack.arglen stack.argvalueLen =
      .ok (some (args.map fun a => (a.1, some a.2))) := by
  obtain ⟨r, hr, hargs⟩ := bind_eq_ok.mp h
  cases r with
  | none =>
    have hnil : ([] : List Arg) = valEntries args := Except.ok.inj hargs
    exact .inl (List.map_eq_nil_iff.mp hnil.symm)
  | some r =>
    dsimp only at hargs
    split at hargs
    · have heq : r.map (fun a => (⟨some a.1, a.2⟩ : Arg)) = valEntries args :=
        Except.ok.inj hargs
      have hread : r = args.map fun a => (a.1, some a.2) := by
        have hinj : ∀ a b : CStr × Option CStr,
            (⟨some a.1, a.2⟩ : Arg) = ⟨some b.1, b.2⟩ → a = b := by
          intro a b h
          obtain ⟨ha, hv⟩ := Arg.mk.inj h
          exact Prod.ext (Option.some.inj ha) hv
        refine (List.map_inj_right hinj).mp ?_
        rw [heq, List.map_map]
        rfl
      exact .inr (hread ▸ hr)
    · cases hargs

theorem getArgValList_fits (h : getArgValList stack slots text = .ok (valEntries args)) :
    (∀ a ∈ args, a.1.length < 256 ∧ a.2.length < 65536) ∧ argValSize args ≤ text.length ∧
      args.length ≤ slots := by
  rcases getArgValList_loop h with rfl | hr
  · exact ⟨nofun, Nat.zero_le _, Nat.zero_le _⟩
  · obtain ⟨hall, hsize, hslots⟩ := argValLoop_fits args text 0 stack.arglen stack.argvalueLen hr
    refine ⟨hall, hsize, ?_⟩
    rcases hslots with rfl | hslots
    · exact Nat.zero_le _
    · omega

end Lldpad.Clif
