import Lldpad.Proofs.Clif.InPlace

/-!
# `Lldpad.Proofs.Clif.ParsedSafely`: the commands that are taken apart safely

The arrays have room, what is in them are texts of the message, and each handler gets what it
needs. `Proofs.Clif.InPlace` has the arrays. Which handlers are called with them is a matter of the
command and its flags.

* `calls_present_iff`: when the handlers get what they need, if all slots are alike.
* `parsedSafely_iff`: the messages of which all of it holds.
-/

namespace Lldpad.Clif.InPlace

open Lldpad.Lib

/-! ### The calls -/

/-- The call has an argument, and a value if something is set. `handle_get_args` takes neither. -/
def HandlerCall.Present : HandlerCall → Prop
  | .getArgs => True
  | .getArg arg => arg.isSome
  | .testArg a | .setArg a => a.arg.isSome ∧ a.value.isSome

/-- `cmd_settlv` and `cmd_set_lldp` -/
def IsSet (cmd : CmdHead) : Prop := cmd.cmd = 2 ∨ cmd.cmd = 4

/-- The command is one for the handlers of arguments. -/
def Asks (cmd : CmdHead) : Prop :=
  IsSet cmd ∨ cmd.cmd = 3 ∨
    (cmd.cmd = 1 ∧ cmd.ops &&& opConfig ≠ 0 ∧ cmd.ops &&& opNeighbor = 0)

instance (cmd : CmdHead) : Decidable (IsSet cmd) := inferInstanceAs (Decidable (_ ∨ _))

/-- The calls for one argument -/
def CallFor (cmd : CmdHead) (a : Arg) (c : HandlerCall) : Prop :=
  if IsSet cmd then c = .testArg a ∨ c = .setArg a else c = .getArg a.arg

variable {cmd : CmdHead} {msg : ClientMsg} {stack : CmdStack} {o : Others}

theorem callFor_set (h : IsSet cmd) {a : Arg} {c : HandlerCall} :
    CallFor cmd a c ↔ c = .testArg a ∨ c = .setArg a := by
  unfold CallFor
  rw [if_pos h]

theorem callFor_get (h : ¬ IsSet cmd) {a : Arg} {c : HandlerCall} :
    CallFor cmd a c ↔ c = .getArg a.arg := by
  unfold CallFor
  rw [if_neg h]

theorem CallFor.present_iff {a : Arg} {c : HandlerCall} (h : CallFor cmd a c) :
    c.Present ↔ a.arg.isSome ∧ (IsSet cmd → a.value.isSome) := by
  by_cases hset : IsSet cmd
  · rcases (callFor_set hset).mp h with rfl | rfl <;> simp [HandlerCall.Present, hset]
  · obtain rfl := (callFor_get hset).mp h
    simp [HandlerCall.Present, hset]

theorem foldl_calls (o : Others) (cmd : CmdHead) : ∀ (cs : List HandlerCall) (h : Handled),
    (cs.foldl (call o cmd) h).calls = h.calls ++ cs := by
  intro cs
  induction cs with
  | nil =>
    intro h
    exact (List.append_nil _).symm
  | cons c cs ih =>
    intro h
    rw [List.foldl_cons, ih]
    exact List.append_assoc ..

theorem testLoop_calls (o : Others) (cmd : CmdHead) : ∀ (args : List Arg) (h : Handled),
    ∃ tested, (testLoop o cmd args h).2.calls = h.calls ++ tested.map .testArg ∧
      (∀ a ∈ tested, a ∈ args) ∧ (args ≠ [] → tested ≠ []) := by
  intro args
  induction args with
  | nil =>
    intro h
    exact ⟨[], (List.append_nil _).symm, nofun, fun h => absurd rfl h⟩
  | cons a args ih =>
    intro h
    unfold testLoop
    dsimp only
    split
    · obtain ⟨tested, hcalls, hmem, _⟩ := ih (call o cmd h (.testArg a))
      refine ⟨a :: tested, ?_, ?_, fun _ => List.cons_ne_nil _ _⟩
      · rw [hcalls]
        exact List.append_assoc ..
      · intro b hb
        rcases List.mem_cons.mp hb with rfl | hb
        · exact List.mem_cons_self
        · exact List.mem_cons_of_mem a (hmem b hb)
    · refine ⟨[a], rfl, ?_, fun _ => List.cons_ne_nil _ _⟩
      intro b hb
      exact List.mem_singleton.mp hb ▸ List.mem_cons_self

/-- What a command calls is `handle_get_args` without arguments, or handlers for its arguments. An
argument that is there is asked for. -/
structure CallsOf (cmd : CmdHead) (args : List Arg) (calls : List HandlerCall) : Prop where
  only : ∀ c ∈ calls, c = .getArgs ∨ Asks cmd ∧ ∃ a ∈ args, CallFor cmd a c
  some_of_asks : Asks cmd → args ≠ [] → ∃ c ∈ calls, ∃ a ∈ args, CallFor cmd a c

theorem callsOf_map (hasks : Asks cmd) (args : List Arg) {f : Arg → HandlerCall}
    (hf : ∀ a, CallFor cmd a (f a)) : CallsOf cmd args (args.map f) := by
  constructor
  · intro c hc
    obtain ⟨a, ha, rfl⟩ := List.mem_map.mp hc
    exact .inr ⟨hasks, a, ha, hf a⟩
  · intro _ hne
    obtain ⟨a, ha⟩ := List.exists_mem_of_ne_nil args hne
    exact ⟨f a, List.mem_map_of_mem ha, a, ha, hf a⟩

theorem callsOf_nil {args : List Arg} (h : Asks cmd → args = []) :
    CallsOf cmd args [] :=
  ⟨nofun, fun hasks hne => absurd (h hasks) hne⟩

theorem handleCmd_calls (o : Others) (cmd : CmdHead) (args : List Arg) :
    CallsOf cmd args (handleCmd o cmd args).calls := by
  -- a command with a code is of one kind only
  have hget : ∀ {n : Nat}, cmd.cmd = n → n ≠ 2 → n ≠ 4 → ¬ IsSet cmd := by
    rintro n hn h2 h4 (h | h)
    · exact h2 (hn.symm.trans h)
    · exact h4 (hn.symm.trans h)
  unfold handleCmd
  dsimp only
  split
  · next hcmd =>
    have hnot : ¬ Asks cmd := by
      rintro (h | h | ⟨h, -⟩)
      · exact hget hcmd (by decide) (by decide) h
      · omega
      · omega
    split <;> exact callsOf_nil fun h => absurd h hnot
  · next hcmd =>
    have hset := hget hcmd (by decide) (by decide)
    split
    · next hargs =>
      split
      · split
        · exact callsOf_nil fun _ => hargs
        · -- `handle_get_args`
          exact ⟨fun c hc => .inl (List.mem_singleton.mp hc), fun _ hne => absurd hargs hne⟩
      · exact callsOf_nil fun _ => hargs
    · split
      · next hops =>
        rw [foldl_calls]
        exact callsOf_map (.inr (.inr ⟨hcmd, hops⟩)) args fun a => (callFor_get hset).mpr rfl
      · next hops =>
        refine callsOf_nil ?_
        rintro (h | h | ⟨-, h⟩)
        · exact absurd h hset
        · omega
        · exact absurd h hops
  · next hcmd =>
    have hset : IsSet cmd := .inl hcmd
    obtain ⟨tested, hcalls, hmem, hne⟩ :=
      testLoop_calls o cmd args { calls := [], rstatus := .error .invalid }
    rw [List.nil_append] at hcalls
    have htest : ∀ c ∈ tested.map HandlerCall.testArg,
        c = .getArgs ∨ Asks cmd ∧ ∃ a ∈ args, CallFor cmd a c := by
      intro c hc
      obtain ⟨a, ha, rfl⟩ := List.mem_map.mp hc
      exact .inr ⟨.inl hset, a, hmem a ha, (callFor_set hset).mpr (.inl rfl)⟩
    have hsome : args ≠ [] → ∃ c ∈ tested.map HandlerCall.testArg, ∃ a ∈ args, CallFor cmd a c := by
      intro hargs
      obtain ⟨a, ha⟩ := List.exists_mem_of_ne_nil tested (hne hargs)
      exact ⟨.testArg a, List.mem_map_of_mem ha, a, hmem a ha, (callFor_set hset).mpr (.inl rfl)⟩
    split
    · rw [hcalls]
      exact ⟨htest, fun _ => hsome⟩
    · -- all tests have passed
      rw [foldl_calls, hcalls]
      constructor
      · intro c hc
        rcases List.mem_append.mp hc with hc | hc
        · exact htest c hc
        · obtain ⟨a, ha, rfl⟩ := List.mem_map.mp hc
          exact .inr ⟨.inl hset, a, ha, (callFor_set hset).mpr (.inr rfl)⟩
      · intro _ hargs
        obtain ⟨c, hc, ha⟩ := hsome hargs
        exact ⟨c, List.mem_append_left _ hc, ha⟩
  · next hcmd =>
    have hset := hget hcmd (by decide) (by decide)
    rw [foldl_calls]
    exact callsOf_map (.inr (.inl hcmd)) args fun a => (callFor_get hset).mpr rfl
  · next hcmd =>
    have hset : IsSet cmd := .inr hcmd
    rw [foldl_calls]
    exact callsOf_map (.inl hset) args fun a => (callFor_set hset).mpr (.inr rfl)
  · next h0 h1 h2 h3 h4 =>
    refine callsOf_nil ?_
    rintro ((h | h) | h | ⟨h, -⟩)
    · exact absurd h h2
    · exact absurd h h4
    · exact absurd h h3
    · exact absurd h h1

theorem calls_present_iff (o : Others) (cmd : CmdHead) {args : List Arg} {p q : Prop}
    (hall : ∀ a ∈ args, (a.arg.isSome ↔ p) ∧ (a.value.isSome ↔ q)) :
    (∀ c ∈ (handleCmd o cmd args).calls, c.Present) ↔
      (Asks cmd → args ≠ [] → p ∧ (IsSet cmd → q)) := by
  obtain ⟨honly, hsome⟩ := handleCmd_calls o cmd args
  have hneeds : ∀ {a c}, a ∈ args → CallFor cmd a c → (c.Present ↔ p ∧ (IsSet cmd → q)) := by
    intro a c ha hc
    rw [hc.present_iff, (hall a ha).1, (hall a ha).2]
  constructor
  · intro h hasks hne
    obtain ⟨c, hmem, a, ha, hc⟩ := hsome hasks hne
    exact (hneeds ha hc).mp (h c hmem)
  · intro h c hmem
    rcases honly c hmem with rfl | ⟨hasks, a, ha, hc⟩
    · trivial
    · exact (hneeds ha hc).mpr (h hasks (List.ne_nil_of_mem ha))

/-! ### The messages -/

/-- How the lengths behind the head divide a message. Its flags say which lengths there are. -/
def msgShape (stack : CmdStack) (msg : ClientMsg) (cmd : CmdHead) : Shape :=
  if cmd.ops &&& opArg ≠ 0 ∧ cmd.ops &&& opArgval ≠ 0 then
    argValShape msg.ibuf msg.ilen cmd.ioff stack.lens.arglen stack.lens.argvalueLen
  else if cmd.ops &&& opArg ≠ 0 then argShape msg.ibuf msg.ilen cmd.ioff stack.lens.arglen
  else { args := 0, stops := false, cut := false }

/-- A length in the message runs past its end. -/
def Shape.Overruns (s : Shape) : Prop := s.stops ∨ s.cut

/-- What is left of a command that was taken apart safely -/
structure SafeRun (stack : CmdStack) (msg : ClientMsg) (run : CmdRun) : Prop where
  /-- arguments and values are texts of the message, ended inside the buffer -/
  ended : ∀ a ∈ run.slots, ∀ t, a.arg = some t ∨ a.value = some t → EndedInside msg run.ibuf t
  /-- a length that runs past the end leaves no arguments -/
  none_of_overruns : ∀ cmd, readHead stack msg.ibuf = some cmd →
    (msgShape stack msg cmd).Overruns → run.slots = []
  /-- the handlers get what they need -/
  present : ∀ c ∈ run.handled.calls, c.Present

/-- A message is taken apart without a write that the arrays or the buffer have no room for, and
what is left is safe. -/
def ParsedSafely (stack : CmdStack) (o : Others) (msg : ClientMsg) : Prop :=
  ∃ run, mandClifCmd stack o msg = .ok run ∧ SafeRun stack msg run

/-- The characters that are left for the arguments -/
def leftOver (msg : ClientMsg) (cmd : CmdHead) : Nat := (msg.ilen - cmd.ioff).toNat

/-- The messages that are taken apart safely -/
structure WellMade (stack : CmdStack) (o : Others) (msg : ClientMsg) (cmd : CmdHead) : Prop where
  /-- the slots are enough -/
  enough : EnoughSlots (leftOver msg cmd) (msgShape stack msg cmd).args
  /-- a value runs past the end only if an argument behind it, or the length of a value, does -/
  whole : (msgShape stack msg cmd).cut → (msgShape stack msg cmd).stops
  /-- without the flag for arguments, there is nothing where they stand -/
  unnamed : cmd.ops &&& opArg = 0 → o.validPort cmd.ifname → Asks cmd → leftOver msg cmd ≤ 2
  /-- without the flag for values, nothing is set: the arguments run past the end, or there are
  none -/
  unvalued : cmd.ops &&& opArg ≠ 0 → cmd.ops &&& opArgval = 0 → o.validPort cmd.ifname →
    IsSet cmd → (msgShape stack msg cmd).stops ∨ leftOver msg cmd ≤ 2

theorem msgShape_some (h : 0 < (msgShape stack msg cmd).args) : 2 < leftOver msg cmd := by
  unfold leftOver
  by_contra hle
  have hmore : ¬ msg.ilen - cmd.ioff > 2 := by omega
  unfold msgShape at h
  split at h
  · rw [argValShape, if_neg hmore] at h
    exact absurd h (Nat.lt_irrefl 0)
  · split at h
    · rw [argShape, if_neg hmore] at h
      exact absurd h (Nat.lt_irrefl 0)
    · exact absurd h (Nat.lt_irrefl 0)

theorem argShape_none {ibuf : CStr} {ilen : Int} {ioff arglen : Nat} (h : ilen - ioff > 2)
    (hnone : (argShape ibuf ilen ioff arglen).args = 0) :
    (argShape ibuf ilen ioff arglen).stops = true := by
  rw [argShape, if_pos h] at hnone ⊢
  dsimp only at hnone ⊢
  split at hnone
  · exact absurd hnone (Nat.succ_ne_zero _)
  · next hlen => rw [if_neg hlen]

theorem enough_iff (stack : CmdStack) (msg : ClientMsg) (cmd : CmdHead) :
    (msgShape stack msg cmd).args ≤ countArgs (leftOver msg cmd) ↔
      EnoughSlots (leftOver msg cmd) (msgShape stack msg cmd).args := by
  rcases Nat.eq_zero_or_pos (msgShape stack msg cmd).args with hzero | hpos
  · rw [hzero]
    exact iff_of_true (Nat.zero_le _) (.inl (Nat.zero_le _))
  · have hsome := msgShape_some hpos
    exact le_countArgs_iff _ _ (by omega)

/-- From the arrays to the command: what is left to say is what the handlers get. -/
theorem parsedSafely_of_arrays
    {slots : List Slot} {ibuf : CStr} {p q : Prop} (hhead : readHead stack msg.ibuf = some cmd)
    (hread : readArgs stack.lens cmd.ops msg cmd.ioff = .ok (slots, ibuf))
    (hended : ∀ a ∈ slots, ∀ t, a.arg = some t ∨ a.value = some t → EndedInside msg ibuf t)
    (hnone : (msgShape stack msg cmd).Overruns → slots = [])
    (hall : ∀ a ∈ slots, (a.arg.isSome ↔ p) ∧ (a.value.isSome ↔ q)) :
    ParsedSafely stack o msg ↔
      (o.validPort cmd.ifname → Asks cmd → slots ≠ [] → p ∧ (IsSet cmd → q)) := by
  let handled : Handled :=
    if o.validPort cmd.ifname then handleCmd o cmd (slots.map (Slot.entry ibuf))
    else { calls := [], rstatus := .error .deviceNotFound }
  have hrun : mandClifCmd stack o msg =
      .ok { slots := slots, ibuf := ibuf, handled := handled } := by
    unfold mandClifCmd
    rw [hhead]
    dsimp only
    rw [hread]
    rfl
  have hentries : ∀ a ∈ slots.map (Slot.entry ibuf),
      (a.arg.isSome ↔ p) ∧ (a.value.isSome ↔ q) := by
    intro a ha
    obtain ⟨s, hs, rfl⟩ := List.mem_map.mp ha
    unfold Slot.entry
    rw [Option.isSome_map, Option.isSome_map]
    exact hall s hs
  have hcalls : (∀ c ∈ handled.calls, c.Present) ↔
      (o.validPort cmd.ifname → Asks cmd → slots ≠ [] → p ∧ (IsSet cmd → q)) := by
    by_cases hport : o.validPort cmd.ifname
    · have hhandled : handled = handleCmd o cmd (slots.map (Slot.entry ibuf)) := if_pos hport
      rw [hhandled, calls_present_iff o cmd hentries]
      simp [hport]
    · have hhandled : handled = { calls := [], rstatus := .error .deviceNotFound } := if_neg hport
      rw [hhandled]
      simp [hport]
  rw [← hcalls]
  constructor
  · rintro ⟨run, h, hsafe⟩
    obtain rfl := Except.ok.inj (hrun.symm.trans h)
    exact hsafe.present
  · intro h
    refine ⟨_, hrun, hended, ?_, h⟩
    intro cmd' hhead' hover
    obtain rfl := Option.some.inj (hhead.symm.trans hhead')
    exact hnone hover

theorem not_parsedSafely (hhead : readHead stack msg.ibuf = some cmd)
    (hread : ¬ Returns (readArgs stack.lens cmd.ops msg cmd.ioff)) :
    ¬ ParsedSafely stack o msg := by
  rintro ⟨run, h, -⟩
  unfold mandClifCmd at h
  rw [hhead] at h
  obtain ⟨r, hr, -⟩ := bind_eq_ok.mp h
  exact hread ⟨r, hr⟩

theorem parsedSafely_of_shape
    {q : Prop} {present : Slot → Prop} (hhead : readHead stack msg.ibuf = some cmd)
    (harrays : ArraysBy (countArgs (leftOver msg cmd)) msg (msgShape stack msg cmd) present
      (readArgs stack.lens cmd.ops msg cmd.ioff))
    (hpresent : ∀ a, present a → a.arg.isSome ∧ (a.value.isSome ↔ q)) :
    ParsedSafely stack o msg ↔
      EnoughSlots (leftOver msg cmd) (msgShape stack msg cmd).args ∧
      ((msgShape stack msg cmd).cut → (msgShape stack msg cmd).stops) ∧
      (o.validPort cmd.ifname → Asks cmd →
        ¬ (msgShape stack msg cmd).stops → (msgShape stack msg cmd).args ≠ 0 →
        IsSet cmd → q) := by
  rw [← enough_iff]
  generalize hs : msgShape stack msg cmd = s at harrays ⊢
  unfold ArraysBy at harrays
  split at harrays
  · next hgood =>
    obtain ⟨slots, ibuf, hread, hall, hended, hlen⟩ := harrays
    have hnone : (msgShape stack msg cmd).Overruns → slots = [] := by
      rw [hs]
      intro hover
      have hstops : s.stops = true := hover.elim id hgood.2
      rw [if_pos hstops] at hlen
      exact List.length_eq_zero_iff.mp hlen
    rw [parsedSafely_of_arrays (p := True) hhead hread hended hnone fun a ha =>
      ⟨iff_true_intro (hpresent a (hall a ha)).1, (hpresent a (hall a ha)).2⟩]
    -- there are slots where the message does not run past its end
    have hne : slots ≠ [] ↔ ¬ s.stops = true ∧ s.args ≠ 0 := by
      rw [← List.length_pos_iff, hlen]
      split <;> simp_all [Nat.pos_iff_ne_zero]
    constructor
    · intro h
      exact ⟨hgood.1, hgood.2, fun hport hasks hstops hargs =>
        (h hport hasks (hne.mpr ⟨hstops, hargs⟩)).2⟩
    · rintro ⟨-, -, h⟩ hport hasks hslots
      exact ⟨trivial, h hport hasks (hne.mp hslots).1 (hne.mp hslots).2⟩
  · next hbad =>
    refine iff_of_false (not_parsedSafely hhead harrays) ?_
    rintro ⟨henough, hwhole, -⟩
    exact hbad ⟨henough, hwhole⟩

theorem parsedSafely_values
    (hhead : readHead stack msg.ibuf = some cmd) (harg : cmd.ops &&& opArg ≠ 0)
    (hargval : cmd.ops &&& opArgval ≠ 0) :
    ParsedSafely stack o msg ↔ WellMade stack o msg cmd := by
  have harrays := getArgValList_arrays stack.lens (countArgs (leftOver msg cmd)) msg cmd.ioff
  have hread : readArgs stack.lens cmd.ops msg cmd.ioff =
      getArgValList stack.lens (countArgs (leftOver msg cmd)) msg cmd.ioff :=
    if_pos ⟨harg, hargval⟩
  have hshape : msgShape stack msg cmd =
      argValShape msg.ibuf msg.ilen cmd.ioff stack.lens.arglen stack.lens.argvalueLen :=
    if_pos ⟨harg, hargval⟩
  rw [← hread, ← hshape] at harrays
  rw [parsedSafely_of_shape (q := True) hhead harrays fun a ha => ⟨ha.1, iff_true_intro ha.2⟩]
  constructor
  · rintro ⟨henough, hwhole, -⟩
    exact ⟨henough, hwhole, fun h => absurd h harg, fun _ h => absurd h hargval⟩
  · rintro ⟨henough, hwhole, -, -⟩
    exact ⟨henough, hwhole, fun _ _ _ _ _ => trivial⟩

theorem parsedSafely_args
    (hhead : readHead stack msg.ibuf = some cmd) (harg : cmd.ops &&& opArg ≠ 0)
    (hargval : cmd.ops &&& opArgval = 0) :
    ParsedSafely stack o msg ↔ WellMade stack o msg cmd := by
  have harrays := getArgList_arrays stack.lens (countArgs (leftOver msg cmd)) msg cmd.ioff
  have hboth : ¬ (cmd.ops &&& opArg ≠ 0 ∧ cmd.ops &&& opArgval ≠ 0) := fun h => h.2 hargval
  have hread : readArgs stack.lens cmd.ops msg cmd.ioff =
      getArgList stack.lens (countArgs (leftOver msg cmd)) msg cmd.ioff :=
    (if_neg hboth).trans (if_pos harg)
  have hshape : msgShape stack msg cmd =
      argShape msg.ibuf msg.ilen cmd.ioff stack.lens.arglen :=
    (if_neg hboth).trans (if_pos harg)
  rw [← hread, ← hshape] at harrays
  rw [parsedSafely_of_shape (q := False) hhead harrays fun a ha => ⟨ha.1, by simp [ha.2]⟩]
  -- a text that is left and does not run past the end has arguments
  have hsome : (msgShape stack msg cmd).args ≠ 0 → 2 < leftOver msg cmd :=
    fun h => msgShape_some (Nat.pos_of_ne_zero h)
  have hstops : 2 < leftOver msg cmd → (msgShape stack msg cmd).args = 0 →
      (msgShape stack msg cmd).stops = true := by
    intro hmore
    rw [hshape]
    exact argShape_none (by unfold leftOver at hmore; omega)
  constructor
  · rintro ⟨henough, hwhole, hset⟩
    refine ⟨henough, hwhole, fun h => absurd h harg, ?_⟩
    intro _ _ hport his
    by_cases hmore : 2 < leftOver msg cmd
    · left
      by_contra hgoes
      have hargs : (msgShape stack msg cmd).args ≠ 0 := fun h => hgoes (hstops hmore h)
      exact hset hport (.inl his) hgoes hargs his
    · exact .inr (Nat.not_lt.mp hmore)
  · rintro ⟨henough, hwhole, -, hset⟩
    refine ⟨henough, hwhole, ?_⟩
    intro hport _ hgoes hargs his
    rcases hset harg hargval hport his with h | h
    · exact hgoes h
    · exact absurd (hsome hargs) (Nat.not_lt.mpr h)

theorem parsedSafely_none
    (hhead : readHead stack msg.ibuf = some cmd) (harg : cmd.ops &&& opArg = 0) :
    ParsedSafely stack o msg ↔ WellMade stack o msg cmd := by
  have hboth : ¬ (cmd.ops &&& opArg ≠ 0 ∧ cmd.ops &&& opArgval ≠ 0) := fun h => h.1 harg
  have hread : readArgs stack.lens cmd.ops msg cmd.ioff =
      .ok (List.replicate (countArgs (leftOver msg cmd)) { arg := none, value := none },
        msg.ibuf) :=
    (if_neg hboth).trans (if_neg (not_not_intro harg))
  have hshape : msgShape stack msg cmd = { args := 0, stops := false, cut := false } :=
    (if_neg hboth).trans (if_neg (not_not_intro harg))
  have hmem : ∀ a ∈ List.replicate (countArgs (leftOver msg cmd))
      ({ arg := none, value := none } : Slot), a = { arg := none, value := none } :=
    fun a ha => (List.mem_replicate.mp ha).2
  have hslots : List.replicate (countArgs (leftOver msg cmd))
      ({ arg := none, value := none } : Slot) ≠ [] ↔ ¬ leftOver msg cmd ≤ 2 := by
    rw [Ne, List.replicate_eq_nil_iff, countArgs]
    split
    · exact iff_of_true (Nat.succ_ne_zero _) (by omega)
    · exact iff_of_false (fun h => h rfl) (by omega)
  rw [parsedSafely_of_arrays (p := False) (q := False) hhead hread]
  · constructor
    · intro h
      refine ⟨?_, ?_, ?_, fun h => absurd harg h⟩
      · rw [hshape]
        exact .inl (Nat.zero_le _)
      · rw [hshape]
        intro hstops
        cases hstops
      · intro _ hport hasks
        by_contra hmore
        exact (h hport hasks (hslots.mpr hmore)).1
    · rintro ⟨-, -, hnone, -⟩ hport hasks hne
      exact absurd (hnone harg hport hasks) (hslots.mp hne)
  · intro a ha t ht
    rw [hmem a ha] at ht
    rcases ht with ht | ht <;> cases ht
  · rw [hshape]
    rintro (h | h) <;> cases h
  · intro a ha
    rw [hmem a ha]
    exact ⟨by simp, by simp⟩

/-- Exactly the messages whose head is read and whose arguments are well made, as well as those
whose interface name is too long, are taken apart safely. -/
theorem parsedSafely_iff (stack : CmdStack) (o : Others) (msg : ClientMsg) :
    ParsedSafely stack o msg ↔
      ∀ cmd, readHead stack msg.ibuf = some cmd → WellMade stack o msg cmd := by
  cases hhead : readHead stack msg.ibuf with
  | none =>
    refine iff_of_true ?_ nofun
    have hrun : mandClifCmd stack o msg = .ok { slots := [], ibuf := msg.ibuf
                                                handled := ⟨[], .error .failed⟩ } := by
      unfold mandClifCmd
      rw [hhead]
    exact ⟨_, hrun, nofun, fun _ _ _ => rfl, nofun⟩
  | some cmd =>
    have hcmd : (∀ cmd', some cmd = some cmd' → WellMade stack o msg cmd') ↔
        WellMade stack o msg cmd := by
      simp
    rw [hcmd]
    by_cases harg : cmd.ops &&& opArg = 0
    · exact parsedSafely_none hhead harg
    · by_cases hargval : cmd.ops &&& opArgval = 0
      · exact parsedSafely_args hhead harg hargval
      · exact parsedSafely_values hhead harg hargval

/-- `cmd_get_lldp` for an interface, and four arguments of length zero behind it -/
def emptyArgs : ClientMsg :=
  .received "C3030000000404eth000000000000".toList (by decide)

/-- A daemon that has every port, and whose handlers are content -/
def content : Others where
  validPort := fun _ => true
  agentStats := fun _ => .ok ()
  tlvs := fun _ => .ok ()
  handle := fun _ _ _ => .ok ()

/-- Zeros on the stack -/
def zeroStack : CmdStack := ⟨0, 0, 0, 0, 0, 0, ⟨0, 0⟩⟩

/-- There is one slot for the four arguments. -/
theorem emptyArgs_unsafe : ¬ ParsedSafely zeroStack content emptyArgs := by
  have hhead : readHead zeroStack emptyArgs.ibuf =
      some { cmd := 3, ops := 4, ifname := "eth0".toList, type := 0
             tlvid := 127, ioff := 20 } := by decide +kernel
  have hslots : countArgs 9 = 1 := by simp [countArgs]
  have hfirst : hexNat 1 (emptyArgs.ibuf.drop 20) 0 = 0 := by decide +kernel
  have hsecond : hexNat 1 (emptyArgs.ibuf.drop 22) 0 = 0 := by decide +kernel
  have hbehind : argLoop 1 emptyArgs.ibuf 29 22 1 0 = .error .outOfBounds := by
    rw [argLoop]
    simp [hsecond]
  have hloop : argLoop 1 emptyArgs.ibuf 29 20 0 0 = .error .outOfBounds := by
    rw [argLoop]
    simp [hfirst, Span.stop, hbehind]
  refine not_parsedSafely hhead ?_
  have hread : readArgs zeroStack.lens 4 emptyArgs 20 = .error .outOfBounds := by
    show getArgList zeroStack.lens (countArgs 9) emptyArgs 20 = _
    rw [hslots]
    show argLoop 1 emptyArgs.ibuf 29 20 0 0 >>= _ = _
    rw [hloop]
    rfl
  rw [hread]
  exact not_returns_error _


end Lldpad.Clif.InPlace
