import Lldpad.Clif.SetCmd

/-!
# `Lldpad.Proofs.Clif.SetCmd`: when a set command is all or nothing

A module takes an argument, refuses it, or says that it is not its own. The answer to a set command
is the one to its last argument, and an argument that no module has passes the test pass;
`cmd_set_lldp` has no test pass at all. So a command may apply some of its arguments and answer with
success or with an error, by their order.

* `Honest`: success only if every argument was taken by a module, and nothing was applied or
  changed if the error is one about an argument. Which errors are is arbitrary.
* `Known`, `Refused`, `Changes`: what the handlers of the modules do with one argument.
* `offer_status`, `mem_offer_calls`: what the loop over the modules makes of that.
* `setCmd_honest_iff`: the exact condition, on the arguments and the modules.
-/

namespace Lldpad.Clif.SetCmd

open Lldpad.Lib
open Lldpad.Clif.InPlace (CmdHead passed)

variable {σ : Type}

/-! ### What a set command is to do -/

/-- A module answered with success. -/
def Taken (calls : List (Call σ)) : Prop := ∃ c ∈ calls, c.answer = .ok ()

/-- The calls had no effect. -/
def Quiet (calls : List (Call σ)) : Prop := ∀ c ∈ calls, c.after = c.before

/-- Success says that every argument was taken by a module. After an error about an argument no
argument was applied: no set handler answered with success, and no handler changed anything. -/
structure Honest (aboutArg : CmdErr → Prop) (args : List (CStr × CStr)) (r : SetRun σ) : Prop where
  success : r.status = .ok () → r.sets.length = args.length ∧ ∀ calls ∈ r.sets, Taken calls
  nothing : ∀ e, r.status = .error e → aboutArg e →
    (∀ calls ∈ r.sets, ¬ Taken calls ∧ Quiet calls) ∧ ∀ calls ∈ r.tests, Quiet calls

/-- The answers that were given for each argument -/
def answers (calls : List (List (Call σ))) : List (List (Except CmdErr Unit)) :=
  calls.map fun calls => calls.map Call.answer

theorem taken_iff (calls : List (Call σ)) : Taken calls ↔ .ok () ∈ calls.map Call.answer :=
  List.mem_map.symm

theorem forall_taken_iff (p : Prop → Prop) (calls : List (List (Call σ))) :
    (∀ c ∈ calls, p (Taken c)) ↔ ∀ answer ∈ answers calls, p (.ok () ∈ answer) := by
  unfold answers
  rw [List.forall_mem_map]
  simp only [taken_iff]

/-! ### One argument and the modules -/

section Argument

variable (handle : ArgHandlers σ → Option (Handler σ)) (cmd : CmdHead)

/-- What the handler of a module makes of an argument, if the module has one for it -/
def callOf (a : CStr × CStr) (np : List (ArgHandlers σ)) (s : σ) : Option (Call σ) :=
  (findHandler handle a.1 np).map fun (arg, h) =>
    { before := s, after := (h cmd arg a.2 s).2, answer := (h cmd arg a.2 s).1 }

/-- A module is asked about an argument in this way: the modules before it do not have the
argument, or have answered that they took it or that it is not theirs. -/
inductive Asked (a : CStr × CStr) : List (List (ArgHandlers σ)) → σ → Call σ → Prop where
  | here {np modules s c} : callOf handle cmd a np s = some c → Asked a (np :: modules) s c
  | skip {np modules s c} : callOf handle cmd a np s = none → Asked a modules s c →
    Asked a (np :: modules) s c
  | behind {np modules s c d} : callOf handle cmd a np s = some d → passed d.answer = true →
    Asked a modules d.after c → Asked a (np :: modules) s c

/-- A turn: an argument, and the state before it -/
abbrev Turn (σ : Type) := (CStr × CStr) × σ

variable (modules : List (List (ArgHandlers σ)))

/-- A module takes the argument. -/
def Known (t : Turn σ) : Prop := ∃ c, Asked handle cmd t.1 modules t.2 c ∧ c.answer = .ok ()

/-- A module answers the argument with an error. -/
def Refused (t : Turn σ) (e : CmdErr) : Prop :=
  e ≠ .notApplicable ∧ ∃ c, Asked handle cmd t.1 modules t.2 c ∧ c.answer = .error e

/-- A module changes something on account of the argument. -/
def Changes (t : Turn σ) : Prop := ∃ c, Asked handle cmd t.1 modules t.2 c ∧ c.after ≠ c.before

/-- The turns of some arguments, one after the other -/
def turns : List (CStr × CStr) → σ → List (Turn σ)
  | [], _ => []
  | a :: args, s => (a, s) :: turns args (offer handle cmd a modules (.error .notApplicable) s).state

/-- The state behind the turns -/
def turnsEnd (args : List (CStr × CStr)) (s : σ) : σ :=
  args.foldl (fun s a => (offer handle cmd a modules (.error .notApplicable) s).state) s

end Argument

/-! ### The condition -/

/-- The last argument decides. If a module takes it and none refuses it, a module takes each of the
others. If it is refused with an error about an argument, or no module has it, then no module takes
any argument, and neither the set handlers nor the tests (`tests`) change anything. -/
def LastDecides (aboutArg : CmdErr → Prop) (modules : List (List (ArgHandlers σ))) (cmd : CmdHead)
    (tests ts : List (Turn σ)) : Prop :=
  ∀ pre t, ts = pre ++ [t] →
    ((∀ e, ¬ Refused (·.handleSet) cmd modules t e) → Known (·.handleSet) cmd modules t →
      ∀ u ∈ pre, Known (·.handleSet) cmd modules u) ∧
    ∀ e, aboutArg e →
      (Refused (·.handleSet) cmd modules t e ∨
        (e = .notApplicable ∧ (∀ e, ¬ Refused (·.handleSet) cmd modules t e) ∧
          ¬ Known (·.handleSet) cmd modules t)) →
      (∀ u ∈ ts, ¬ Known (·.handleSet) cmd modules u ∧ ¬ Changes (·.handleSet) cmd modules u) ∧
        ∀ u ∈ tests, ¬ Changes (·.handleTest) cmd modules u

/-- For `cmd_settlv`: where a test refuses an argument with an error about it, the tests so far
change nothing. Where no test refuses an argument, the last argument decides. -/
def HonestWhen (aboutArg : CmdErr → Prop) (modules : List (List (ArgHandlers σ))) (cmd : CmdHead)
    (args : List (CStr × CStr)) (s : σ) : Prop :=
  if cmd.cmd = 2 then
    let tests := turns (·.handleTest) cmd modules args s
    (∀ pre t post e, tests = pre ++ t :: post →
      (∀ u ∈ pre, ∀ e, ¬ Refused (·.handleTest) cmd modules u e) →
      Refused (·.handleTest) cmd modules t e → aboutArg e →
      ∀ u ∈ pre ++ [t], ¬ Changes (·.handleTest) cmd modules u) ∧
    ((∀ u ∈ tests, ∀ e, ¬ Refused (·.handleTest) cmd modules u e) →
      LastDecides aboutArg modules cmd tests
        (turns (·.handleSet) cmd modules args (turnsEnd (·.handleTest) cmd modules args s)))
  else LastDecides aboutArg modules cmd [] (turns (·.handleSet) cmd modules args s)

/-! ### The loop over the modules -/

section Offer

variable {handle : ArgHandlers σ → Option (Handler σ)} {cmd : CmdHead} {a : CStr × CStr}

theorem not_passed {e : CmdErr} (h : e ≠ .notApplicable) :
    ¬ passed (.error e) = true := by
  cases e <;> first
    | exact absurd rfl h
    | exact Bool.false_ne_true

/-- The answer so far, behind a module that took the argument or said that it is not its own -/
def answerAfter (answer status : Except CmdErr Unit) : Except CmdErr Unit :=
  match answer with
  | .ok () => .ok ()
  | .error _ => status

/-- A module that does not have the argument -/
theorem offer_skip {np : List (ArgHandlers σ)} {modules : List (List (ArgHandlers σ))}
    {status : Except CmdErr Unit} {s : σ} (h : callOf handle cmd a np s = none) :
    offer handle cmd a (np :: modules) status s = offer handle cmd a modules status s := by
  rw [offer, Option.map_eq_none_iff.mp h]

/-- A module that has the argument. An error ends the loop. -/
theorem offer_call {np : List (ArgHandlers σ)} {modules : List (List (ArgHandlers σ))}
    {status : Except CmdErr Unit} {s : σ} {c : Call σ} (h : callOf handle cmd a np s = some c) :
    (∀ e, e ≠ .notApplicable → c.answer = .error e →
      offer handle cmd a (np :: modules) status s =
        { status := .error e, state := c.after, calls := [c] }) ∧
    (passed c.answer = true →
      let rest := offer handle cmd a modules (answerAfter c.answer status) c.after
      offer handle cmd a (np :: modules) status s = { rest with calls := c :: rest.calls }) := by
  obtain ⟨found, hfind, rfl⟩ := Option.map_eq_some_iff.mp h
  rw [offer, hfind]
  dsimp only
  generalize found.2 cmd found.1 a.2 s = r
  obtain ⟨answer, after⟩ := r
  cases answer with
  | ok u => exact ⟨nofun, fun _ => rfl⟩
  | error e =>
    cases e with
    | notApplicable => exact ⟨fun e he heq => absurd (Except.error.inj heq).symm he, fun _ => rfl⟩
    | _ =>
      refine ⟨fun e he heq => ?_, nofun⟩
      cases heq
      rfl

theorem asked_skip {np : List (ArgHandlers σ)} {modules : List (List (ArgHandlers σ))} {s : σ}
    (hcall : callOf handle cmd a np s = none) (c : Call σ) :
    Asked handle cmd a (np :: modules) s c ↔ Asked handle cmd a modules s c := by
  refine ⟨fun h => ?_, .skip hcall⟩
  cases h with
  | here h => exact nomatch hcall.symm.trans h
  | skip _ h => exact h
  | behind h _ _ => exact nomatch hcall.symm.trans h

theorem asked_call {np : List (ArgHandlers σ)} {modules : List (List (ArgHandlers σ))} {s : σ}
    {d : Call σ} (hcall : callOf handle cmd a np s = some d) (c : Call σ) :
    Asked handle cmd a (np :: modules) s c ↔
      c = d ∨ (passed d.answer = true ∧ Asked handle cmd a modules d.after c) := by
  constructor
  · intro h
    cases h with
    | here h => exact .inl (Option.some.inj (h.symm.trans hcall))
    | skip h _ => exact nomatch hcall.symm.trans h
    | behind h hp hrest =>
      cases hcall.symm.trans h
      exact .inr ⟨hp, hrest⟩
  · rintro (rfl | ⟨hp, h⟩)
    · exact .here hcall
    · exact .behind hcall hp h

theorem mem_offer_calls (modules : List (List (ArgHandlers σ))) (status : Except CmdErr Unit)
    (s : σ) (c : Call σ) :
    c ∈ (offer handle cmd a modules status s).calls ↔ Asked handle cmd a modules s c := by
  induction modules generalizing status s with
  | nil => exact ⟨nofun, nofun⟩
  | cons np modules ih =>
    cases hcall : callOf handle cmd a np s with
    | none => rw [offer_skip hcall, ih, asked_skip hcall]
    | some d =>
      obtain ⟨hstop, hgo⟩ := offer_call hcall
      rw [asked_call hcall]
      by_cases hpass : passed d.answer = true
      · rw [hgo hpass, List.mem_cons, ih, and_iff_right hpass]
      · obtain ⟨e, hans, hne⟩ : ∃ e, d.answer = .error e ∧ e ≠ .notApplicable := by
          cases hans : d.answer with
          | ok u => exact absurd (by rw [hans]; rfl) hpass
          | error e =>
            refine ⟨e, rfl, ?_⟩
            rintro rfl
            exact hpass (by rw [hans]; rfl)
        rw [hstop e hne hans, List.mem_singleton]
        exact ⟨.inl, fun h => h.resolve_right fun ⟨hp, _⟩ => hpass hp⟩

/-- The error of a module that refuses the argument, success if a module takes it, or else what
the answer was before. -/
theorem offer_status (modules : List (List (ArgHandlers σ))) (status : Except CmdErr Unit)
    (s : σ) :
    (∀ e, Refused handle cmd modules (a, s) e →
      (offer handle cmd a modules status s).status = .error e) ∧
    ((∀ e, ¬ Refused handle cmd modules (a, s) e) →
      (Known handle cmd modules (a, s) →
        (offer handle cmd a modules status s).status = .ok ()) ∧
      (¬ Known handle cmd modules (a, s) →
        (offer handle cmd a modules status s).status = status)) := by
  induction modules generalizing status s with
  | nil =>
    have hnone : ∀ c, ¬ Asked handle cmd a [] s c := nofun
    exact ⟨fun e ⟨_, c, hc, _⟩ => absurd hc (hnone c),
      fun _ => ⟨fun ⟨c, hc, _⟩ => absurd hc (hnone c), fun _ => rfl⟩⟩
  | cons np modules ih =>
    cases hcall : callOf handle cmd a np s with
    | none =>
      rw [offer_skip hcall]
      simpa only [Refused, Known, asked_skip hcall] using ih status s
    | some d =>
      obtain ⟨hstop, hgo⟩ := offer_call hcall
      -- Another answer than this one comes from a module behind.
      have hbehind {v : Except CmdErr Unit} (hpass : passed d.answer = true) (hv : d.answer ≠ v) :
          (∃ c, Asked handle cmd a (np :: modules) s c ∧ c.answer = v) ↔
            ∃ c, Asked handle cmd a modules d.after c ∧ c.answer = v := by
        simp only [asked_call hcall, and_iff_right hpass]
        refine exists_congr fun c => and_congr_left fun hc => or_iff_right ?_
        rintro rfl
        exact hv hc
      cases hans : d.answer with
      | error e =>
        by_cases hne : e = .notApplicable
        · subst hne
          have hpass : passed d.answer = true := by rw [hans]; rfl
          have hrest := ih status d.after
          rw [hgo hpass, hans]
          dsimp only [answerAfter]
          have hrefused : ∀ e, Refused handle cmd (np :: modules) (a, s) e ↔
              Refused handle cmd modules (a, d.after) e := fun e =>
            and_congr_right fun hne => hbehind hpass fun h =>
              hne (Except.error.inj (hans.symm.trans h)).symm
          have hknown : Known handle cmd (np :: modules) (a, s) ↔
              Known handle cmd modules (a, d.after) :=
            hbehind hpass (by rw [hans]; nofun)
          simpa only [hrefused, hknown] using hrest
        · -- The module ends the loop.
          have hends : ¬ passed d.answer = true := by
            rw [hans]
            exact not_passed hne
          rw [hstop e hne hans]
          refine ⟨fun e' ⟨_, c, hc, hce⟩ => ?_, fun hno => ?_⟩
          · rcases (asked_call hcall c).mp hc with rfl | ⟨hp, -⟩
            · exact hans.symm.trans hce
            · exact absurd hp hends
          · exact absurd ⟨hne, d, .here hcall, hans⟩ (hno e)
      | ok u =>
        have hpass : passed d.answer = true := by rw [hans]; rfl
        have hrefused : ∀ e, Refused handle cmd (np :: modules) (a, s) e ↔
            Refused handle cmd modules (a, d.after) e := fun e =>
          and_congr_right fun _ => hbehind hpass (by rw [hans]; nofun)
        obtain ⟨herr, hfine⟩ := ih (.ok ()) d.after
        rw [hgo hpass, hans]
        dsimp only [answerAfter]
        simp only [hrefused]
        refine ⟨herr, fun hno => ⟨fun _ => ?_, fun hunknown => ?_⟩⟩
        · by_cases hk : Known handle cmd modules (a, d.after)
          · exact (hfine hno).1 hk
          · exact (hfine hno).2 hk
        · exact absurd ⟨d, .here hcall, hans⟩ hunknown

/-- The calls of a turn -/
def Turn.calls (handle : ArgHandlers σ → Option (Handler σ)) (cmd : CmdHead)
    (modules : List (List (ArgHandlers σ))) (t : Turn σ) : List (Call σ) :=
  (offer handle cmd t.1 modules (.error .notApplicable) t.2).calls

/-- The answer to a turn -/
def Turn.status (handle : ArgHandlers σ → Option (Handler σ)) (cmd : CmdHead)
    (modules : List (List (ArgHandlers σ))) (t : Turn σ) : Except CmdErr Unit :=
  (offer handle cmd t.1 modules (.error .notApplicable) t.2).status

variable {modules : List (List (ArgHandlers σ))} (t : Turn σ)

theorem taken_calls : Taken (t.calls handle cmd modules) ↔ Known handle cmd modules t :=
  exists_congr fun c => and_congr_left fun _ => mem_offer_calls modules _ t.2 c

theorem quiet_calls : Quiet (t.calls handle cmd modules) ↔ ¬ Changes handle cmd modules t := by
  unfold Quiet Changes Turn.calls
  simp only [mem_offer_calls]
  exact ⟨fun h ⟨c, hc, hne⟩ => hne (h c hc), fun h c hc => by_contra fun hne => h ⟨c, hc, hne⟩⟩

theorem status_eq_error {e : CmdErr} :
    t.status handle cmd modules = .error e ↔
      Refused handle cmd modules t e ∨
        (e = .notApplicable ∧ (∀ e, ¬ Refused handle cmd modules t e) ∧
          ¬ Known handle cmd modules t) := by
  obtain ⟨herr, hfine⟩ := offer_status (a := t.1) modules
    (.error .notApplicable) t.2
  unfold Turn.status
  by_cases href : ∃ e, Refused handle cmd modules t e
  · obtain ⟨e', he'⟩ := href
    rw [herr e' he']
    constructor
    · intro h
      cases h
      exact .inl he'
    · rintro (h | ⟨-, hno, -⟩)
      · exact (herr e' he').symm.trans (herr e h)
      · exact absurd he' (hno e')
  · have hno := not_exists.mp href
    by_cases hk : Known handle cmd modules t
    · rw [(hfine hno).1 hk]
      exact ⟨nofun, fun h => (h.resolve_left (hno e)).2.2.elim hk⟩
    · rw [(hfine hno).2 hk]
      exact ⟨fun h => .inr ⟨(Except.error.inj h).symm, hno, hk⟩,
        fun h => congrArg _ (h.resolve_left (hno e)).1.symm⟩

theorem status_eq_ok :
    t.status handle cmd modules = .ok () ↔
      (∀ e, ¬ Refused handle cmd modules t e) ∧ Known handle cmd modules t := by
  obtain ⟨herr, hfine⟩ := offer_status (a := t.1) modules
    (.error .notApplicable) t.2
  constructor
  · intro hok
    have hno : ∀ e, ¬ Refused handle cmd modules t e :=
      fun e he => nomatch hok.symm.trans (herr e he)
    refine ⟨hno, by_contra fun hk => ?_⟩
    exact nomatch hok.symm.trans ((hfine hno).2 hk)
  · rintro ⟨hno, hk⟩
    exact (hfine hno).1 hk

theorem passed_status :
    passed (t.status handle cmd modules) = true ↔ ∀ e, ¬ Refused handle cmd modules t e := by
  constructor
  · intro hpass e he
    rw [(status_eq_error t).mpr (.inl he)] at hpass
    exact not_passed he.1 hpass
  · intro hno
    cases hs : t.status handle cmd modules with
    | ok u => rfl
    | error e =>
      rw [((status_eq_error t).mp hs).resolve_left (hno e) |>.1]
      rfl

end Offer

/-! ### The two passes -/

section Passes

variable {modules : List (List (ArgHandlers σ))} {cmd : CmdHead}

theorem length_turns (handle : ArgHandlers σ → Option (Handler σ)) (args : List (CStr × CStr))
    (s : σ) : (turns handle cmd modules args s).length = args.length := by
  induction args generalizing s with
  | nil => rfl
  | cons a args ih => exact congrArg (· + 1) (ih _)

/-- The set pass: every turn has its calls, and the answer is that of the last turn. -/
theorem foldl_setOne (args : List (CStr × CStr)) (r : SetRun σ) :
    let ts := turns (·.handleSet) cmd modules args r.state
    (args.foldl (setOne modules cmd) r).tests = r.tests ∧
    (args.foldl (setOne modules cmd) r).sets =
      r.sets ++ ts.map (Turn.calls (·.handleSet) cmd modules) ∧
    (args.foldl (setOne modules cmd) r).status =
      (ts.getLast?.map (Turn.status (·.handleSet) cmd modules)).getD r.status := by
  induction args generalizing r with
  | nil => exact ⟨rfl, (List.append_nil _).symm, rfl⟩
  | cons a args ih =>
    obtain ⟨htests, hsets, hstatus⟩ := ih (setOne modules cmd r a)
    rw [List.foldl_cons]
    refine ⟨htests, ?_, ?_⟩
    · rw [hsets]
      show r.sets ++ [_] ++ _ = r.sets ++ (_ :: _)
      rw [List.append_assoc]
      rfl
    · rw [hstatus]
      show _ = (((a, r.state) ::
        turns _ cmd modules args (setOne modules cmd r a).state).getLast?.map _).getD _
      rw [List.getLast?_cons]
      cases (turns (·.handleSet) cmd modules args (setOne modules cmd r a).state).getLast? <;> rfl

/-- The test pass where no test refuses an argument -/
theorem testPass_of_passed (args : List (CStr × CStr)) (r : SetRun σ)
    (h : ∀ u ∈ turns (·.handleTest) cmd modules args r.state,
      ∀ e, ¬ Refused (·.handleTest) cmd modules u e) :
    (testPass modules cmd args r).1 = false ∧
    (testPass modules cmd args r).2.sets = r.sets ∧
    (testPass modules cmd args r).2.tests = r.tests ++
      (turns (·.handleTest) cmd modules args r.state).map (Turn.calls (·.handleTest) cmd modules) ∧
    (testPass modules cmd args r).2.state = turnsEnd (·.handleTest) cmd modules args r.state := by
  induction args generalizing r with
  | nil => exact ⟨rfl, rfl, (List.append_nil _).symm, rfl⟩
  | cons a args ih =>
    obtain ⟨hfirst, hrest⟩ := List.forall_mem_cons.mp h
    have hpass := (passed_status (a, r.state)).mpr hfirst
    obtain ⟨hok, hsets, htests, hstate⟩ := ih { r with
      status := (handleTestArg modules cmd a r.state).status
      state := (handleTestArg modules cmd a r.state).state
      tests := r.tests ++ [(handleTestArg modules cmd a r.state).calls] } hrest
    unfold testPass
    rw [if_pos (show passed (handleTestArg modules cmd a r.state).status = true from hpass)]
    refine ⟨hok, hsets, ?_, hstate⟩
    rw [htests, List.append_assoc]
    rfl

/-- The test pass that ends with a test that refuses an argument -/
theorem testPass_of_refused (args : List (CStr × CStr)) (r : SetRun σ) {pre post : List (Turn σ)}
    {t : Turn σ} {e : CmdErr}
    (hturns : turns (·.handleTest) cmd modules args r.state = pre ++ t :: post)
    (hpre : ∀ u ∈ pre, ∀ e, ¬ Refused (·.handleTest) cmd modules u e)
    (ht : Refused (·.handleTest) cmd modules t e) :
    (testPass modules cmd args r).1 = true ∧
    (testPass modules cmd args r).2.sets = r.sets ∧
    (testPass modules cmd args r).2.tests =
      r.tests ++ (pre ++ [t]).map (Turn.calls (·.handleTest) cmd modules) ∧
    (testPass modules cmd args r).2.status = .error e := by
  induction args generalizing r pre with
  | nil => exact absurd hturns (by simp [turns])
  | cons a args ih =>
    unfold testPass
    dsimp only
    cases pre with
    | nil =>
      rw [List.nil_append] at hturns
      obtain ⟨rfl, -⟩ := List.cons.inj hturns
      have hstatus : (handleTestArg modules cmd a r.state).status = .error e :=
        (status_eq_error (a, r.state)).mpr (.inl ht)
      rw [hstatus, if_neg (not_passed ht.1)]
      exact ⟨rfl, rfl, rfl, rfl⟩
    | cons u pre =>
      rw [List.cons_append] at hturns
      obtain ⟨rfl, hrest⟩ := List.cons.inj hturns
      obtain ⟨hfirst, hpre⟩ := List.forall_mem_cons.mp hpre
      have hpass := (passed_status (a, r.state)).mpr hfirst
      obtain ⟨hfail, hsets, htests, hstatus⟩ := ih { r with
        status := (handleTestArg modules cmd a r.state).status
        state := (handleTestArg modules cmd a r.state).state
        tests := r.tests ++ [(handleTestArg modules cmd a r.state).calls] } hrest hpre
      rw [if_pos (show passed (handleTestArg modules cmd a r.state).status = true from hpass)]
      refine ⟨hfail, hsets, ?_, hstatus⟩
      rw [htests, List.append_assoc]
      rfl

/-- There is a first argument that a test refuses, or none. -/
theorem first_refused (ts : List (Turn σ)) :
    (∀ u ∈ ts, ∀ e, ¬ Refused (·.handleTest) cmd modules u e) ∨
      ∃ pre t post e, ts = pre ++ t :: post ∧
        (∀ u ∈ pre, ∀ e, ¬ Refused (·.handleTest) cmd modules u e) ∧
        Refused (·.handleTest) cmd modules t e := by
  induction ts with
  | nil => exact .inl nofun
  | cons t ts ih =>
    by_cases ht : ∃ e, Refused (·.handleTest) cmd modules t e
    · obtain ⟨e, he⟩ := ht
      exact .inr ⟨[], t, ts, e, rfl, nofun, he⟩
    · have hfirst := not_exists.mp ht
      rcases ih with hall | ⟨pre, u, post, e, rfl, hpre, hu⟩
      · exact .inl (List.forall_mem_cons.mpr ⟨hfirst, hall⟩)
      · exact .inr ⟨t :: pre, u, post, e, rfl, List.forall_mem_cons.mpr ⟨hfirst, hpre⟩, hu⟩

end Passes

/-! ### The exact condition -/

section Exact

variable {aboutArg : CmdErr → Prop} {modules : List (List (ArgHandlers σ))} {cmd : CmdHead}

/-- A set pass is honest if and only if the last argument decides. -/
theorem setPass_honest_iff (args : List (CStr × CStr)) (r : SetRun σ) (tests : List (Turn σ))
    (hsets : r.sets = [])
    (htests : r.tests = tests.map (Turn.calls (·.handleTest) cmd modules))
    (hstart : args = [] → r.status = .error .invalid ∧ tests = []) :
    Honest aboutArg args (args.foldl (setOne modules cmd) r) ↔
      LastDecides aboutArg modules cmd tests (turns (·.handleSet) cmd modules args r.state) := by
  obtain ⟨htests', hsets', hstatus⟩ := @foldl_setOne σ modules cmd args r
  have hlength := @length_turns σ modules cmd (·.handleSet) args r.state
  generalize args.foldl (setOne modules cmd) r = r' at htests' hsets' hstatus ⊢
  generalize turns (·.handleSet) cmd modules args r.state = ts at hsets' hstatus hlength ⊢
  rw [hsets, List.nil_append] at hsets'
  rw [htests] at htests'
  have hnothing : (∀ calls ∈ r'.sets, ¬ Taken calls ∧ Quiet calls) ∧
        (∀ calls ∈ r'.tests, Quiet calls) ↔
      (∀ u ∈ ts, ¬ Known (·.handleSet) cmd modules u ∧ ¬ Changes (·.handleSet) cmd modules u) ∧
        ∀ u ∈ tests, ¬ Changes (·.handleTest) cmd modules u := by
    rw [hsets', htests', List.forall_mem_map, List.forall_mem_map]
    simp only [taken_calls, quiet_calls]
  have hall : (∀ calls ∈ r'.sets, Taken calls) ↔ ∀ u ∈ ts, Known (·.handleSet) cmd modules u := by
    rw [hsets', List.forall_mem_map]
    simp only [taken_calls]
  rcases List.eq_nil_or_concat ts with rfl | ⟨pre, t, hts⟩
  · -- There are no arguments, and the answer is `cmd_invalid`.
    have hargs : args = [] := List.length_eq_zero_iff.mp hlength.symm
    obtain ⟨hinvalid, rfl⟩ := hstart hargs
    have hstatus : r'.status = .error .invalid := hstatus.trans hinvalid
    refine iff_of_true ⟨fun hok => ?_, fun _ _ _ => hnothing.mpr ⟨nofun, nofun⟩⟩ ?_
    · exact nomatch hok.symm.trans hstatus
    · intro pre t hnil
      exact absurd hnil (by simp)
  · rw [List.concat_eq_append] at hts
    subst hts
    have hlast : r'.status = t.status (·.handleSet) cmd modules := by
      rw [hstatus]
      simp
    constructor
    · intro h pre' t' heq
      obtain ⟨rfl, hone⟩ := List.append_inj' heq rfl
      cases hone
      constructor
      · intro hno hknown u hu
        have hok := hlast.trans ((status_eq_ok t).mpr ⟨hno, hknown⟩)
        exact hall.mp (h.success hok).2 u (List.mem_append_left _ hu)
      · intro e habout herr
        exact hnothing.mp (h.nothing e (hlast.trans ((status_eq_error t).mpr herr)) habout)
    · intro h
      obtain ⟨hevery, hnone⟩ := h pre t rfl
      refine ⟨fun hok => ⟨?_, hall.mpr ?_⟩, fun e he habout => hnothing.mpr ?_⟩
      · rw [hsets', List.length_map, hlength]
      · obtain ⟨hno, hknown⟩ := (status_eq_ok t).mp (hlast.symm.trans hok)
        exact List.forall_mem_append.mpr ⟨hevery hno hknown, by simpa using hknown⟩
      · exact hnone e habout ((status_eq_error t).mp (hlast.symm.trans he))

/-- The state before any argument -/
def startRun (s : σ) : SetRun σ :=
  { status := .error .invalid, state := s, tests := [], sets := [] }

/-- A set command is all or nothing and honestly answered if and only if the arguments and the
modules meet the condition. -/
theorem setCmd_honest_iff (aboutArg : CmdErr → Prop) (modules : List (List (ArgHandlers σ)))
    (cmd : CmdHead) (hcmd : cmd.cmd = 2 ∨ cmd.cmd = 4) (args : List (CStr × CStr)) (s : σ) :
    Honest aboutArg args (setCmd modules cmd args s) ↔ HonestWhen aboutArg modules cmd args s := by
  rcases hcmd with hcmd | hcmd
  · -- cmd_settlv
    have hset : setCmd modules cmd args s =
        if (testPass modules cmd args (startRun s)).1 then (testPass modules cmd args (startRun s)).2
        else args.foldl (setOne modules cmd) (testPass modules cmd args (startRun s)).2 := by
      unfold setCmd
      rw [hcmd]
      rfl
    unfold HonestWhen
    rw [hset, if_pos hcmd]
    rcases first_refused
      (turns (·.handleTest) cmd modules args s) with hall | ⟨pre, t, post, e, hts, hpre, ht⟩
    · obtain ⟨hok, hsets, htests, hstate⟩ := testPass_of_passed args (startRun s) hall
      have hfail : ¬ (testPass modules cmd args (startRun s)).1 = true := by
        rw [hok]
        exact Bool.false_ne_true
      rw [if_neg hfail]
      refine (setPass_honest_iff args _ _ hsets htests ?_).trans ?_
      · rintro rfl
        exact ⟨rfl, rfl⟩
      · rw [hstate]
        refine ⟨fun h => ⟨fun pre t post e hts _ ht => ?_, fun _ => h⟩, fun h => h.2 hall⟩
        exact absurd ht (hall t (by rw [hts]; simp) e)
    · obtain ⟨hfail, hsets, htests, hstatus⟩ := testPass_of_refused args (startRun s) hts hpre ht
      rw [if_pos hfail]
      have hquiet : (∀ calls ∈ (testPass modules cmd args (startRun s)).2.tests, Quiet calls) ↔
          ∀ u ∈ pre ++ [t], ¬ Changes (·.handleTest) cmd modules u := by
        rw [htests]
        show (∀ calls ∈ [] ++ _, Quiet calls) ↔ _
        rw [List.nil_append, List.forall_mem_map]
        simp only [quiet_calls]
      have hnone : ∀ calls ∈ (testPass modules cmd args (startRun s)).2.sets,
          ¬ Taken calls ∧ Quiet calls := by
        rw [hsets]
        exact nofun
      constructor
      · intro h
        refine ⟨fun pre' t' post' e' hts' hpre' ht' habout => ?_, fun hall => ?_⟩
        · -- There is only one first argument that a test refuses.
          obtain ⟨-, -, htests', hstatus'⟩ :=
            testPass_of_refused args (startRun s) hts' hpre' ht'
          have hquiet' := (h.nothing e' hstatus' habout).2
          rw [htests'] at hquiet'
          have hquiet'' : ∀ calls ∈ (pre' ++ [t']).map (Turn.calls (·.handleTest) cmd modules),
              Quiet calls := hquiet'
          rw [List.forall_mem_map] at hquiet''
          simpa only [quiet_calls] using hquiet''
        · exact absurd ht (hall t (by rw [hts]; simp) e)
      · rintro ⟨hrefused, -⟩
        refine ⟨fun hok => (nomatch hok.symm.trans hstatus), fun e' he' habout => ⟨hnone, ?_⟩⟩
        cases hstatus.symm.trans he'
        exact hquiet.mpr (hrefused pre t post e hts hpre ht habout)
  · -- cmd_set_lldp
    have hset : setCmd modules cmd args s = args.foldl (setOne modules cmd) (startRun s) := by
      unfold setCmd
      rw [hcmd]
      rfl
    unfold HonestWhen
    rw [hset, if_neg (by omega)]
    exact setPass_honest_iff args (startRun s) [] rfl rfl fun _ => ⟨rfl, rfl⟩

end Exact

/-! ### The mandatory TLVs -/

/-- An error that says that an argument is unknown or has an invalid value -/
def AboutArgument (e : CmdErr) : Prop := e = .notApplicable ∨ e = .invalid ∨ e = .badParams

/-- `cmd_settlv` on the TTL TLV of an interface -/
def setTtl : CmdHead where
  cmd := 2
  ops := opArg ||| opArgval
  ifname := "eth0".toList
  type := 0
  tlvid := 3
  ioff := 28

/-- Nothing is configured, and everything can be. -/
def emptyConfig : MandState where
  setting _ := none
  write _ := .saved
  rebuild := none
  adminStatus := 0
  txTTL := 120
  localChange := false

/-- Two values for the TTL are both taken. -/
theorem setTtl_honest :
    Honest AboutArgument [("value".toList, "90".toList), ("VALUE".toList, "0x1e".toList)]
      (setCmd [mandArgHandlers] setTtl
        [("value".toList, "90".toList), ("VALUE".toList, "0x1e".toList)] emptyConfig) := by
  have htests : (turns (·.handleTest) setTtl [mandArgHandlers]
      [("value".toList, "90".toList), ("VALUE".toList, "0x1e".toList)] emptyConfig).map
        (Turn.status (·.handleTest) setTtl [mandArgHandlers]) = [.ok (), .ok ()] := by decide
  have hsets : (turns (·.handleSet) setTtl [mandArgHandlers]
      [("value".toList, "90".toList), ("VALUE".toList, "0x1e".toList)] (turnsEnd (·.handleTest)
        setTtl [mandArgHandlers] [("value".toList, "90".toList), ("VALUE".toList, "0x1e".toList)]
        emptyConfig)).map
        (Turn.status (·.handleSet) setTtl [mandArgHandlers]) = [.ok (), .ok ()] := by decide
  have hpair : ∀ (handle : ArgHandlers MandState → Option (Handler MandState))
      (ts : List (Turn MandState)),
      ts.map (Turn.status handle setTtl [mandArgHandlers]) = [.ok (), .ok ()] → ∀ u ∈ ts,
        (∀ e, ¬ Refused handle setTtl [mandArgHandlers] u e) ∧
          Known handle setTtl [mandArgHandlers] u := by
    intro handle ts hts u hu
    have hmem : Turn.status handle setTtl [mandArgHandlers] u ∈ [.ok (), .ok ()] := by
      rw [← hts]
      exact List.mem_map_of_mem hu
    refine (status_eq_ok u).mp ?_
    rcases List.mem_pair.mp hmem with h | h <;> exact h
  refine (setCmd_honest_iff AboutArgument [mandArgHandlers] setTtl (.inl rfl) _ emptyConfig).mpr
    ⟨fun pre t post e hts _ ht => ?_, fun _ pre t hts => ⟨fun _ _ u hu => ?_, fun e _ he => ?_⟩⟩
  · exact absurd ht ((hpair _ _ htests t (by rw [hts]; simp)).1 e)
  · exact (hpair _ _ hsets u (by rw [hts]; exact List.mem_append_left _ hu)).2
  · obtain ⟨hno, hknown⟩ := hpair _ _ hsets t (by rw [hts]; simp)
    rcases he with he | ⟨-, -, hunknown⟩
    · exact absurd he (hno e)
    · exact absurd hknown hunknown

/-- The TTL is set although the command answers that an argument is not applicable, and in the other
order the command answers with success although no module has the argument. -/
theorem setTtl_half_applied :
    (setCmd [mandArgHandlers] setTtl
      [("value".toList, "90".toList), ("foo".toList, "1".toList)] emptyConfig).status =
        .error .notApplicable ∧
    (setCmd [mandArgHandlers] setTtl
      [("value".toList, "90".toList), ("foo".toList, "1".toList)] emptyConfig).state.txTTL = 90 ∧
    ¬ Honest AboutArgument [("value".toList, "90".toList), ("foo".toList, "1".toList)]
      (setCmd [mandArgHandlers] setTtl
        [("value".toList, "90".toList), ("foo".toList, "1".toList)] emptyConfig) ∧
    (setCmd [mandArgHandlers] setTtl
      [("foo".toList, "1".toList), ("value".toList, "90".toList)] emptyConfig).status = .ok () ∧
    ¬ Honest AboutArgument [("foo".toList, "1".toList), ("value".toList, "90".toList)]
      (setCmd [mandArgHandlers] setTtl
        [("foo".toList, "1".toList), ("value".toList, "90".toList)] emptyConfig) := by
  refine ⟨by decide, by decide, ?_, by decide, ?_⟩
  · intro h
    have hnone := (h.nothing .notApplicable (by decide) (.inl rfl)).1
    have hnothing := (forall_taken_iff Not _).mp fun calls hcalls => (hnone calls hcalls).1
    have hanswers : answers (setCmd [mandArgHandlers] setTtl
        [("value".toList, "90".toList), ("foo".toList, "1".toList)] emptyConfig).sets =
          [[.ok ()], []] := by decide
    rw [hanswers] at hnothing
    exact hnothing _ List.mem_cons_self List.mem_cons_self
  · intro h
    have hall := (forall_taken_iff id _).mp (h.success (by decide)).2
    have hanswers : answers (setCmd [mandArgHandlers] setTtl
        [("foo".toList, "1".toList), ("value".toList, "90".toList)] emptyConfig).sets =
          [[], [.ok ()]] := by decide
    rw [hanswers] at hall
    exact List.not_mem_nil (hall [] List.mem_cons_self)

end Lldpad.Clif.SetCmd
