import Lldpad.Proofs.Qaz.Rx

/-!
# `Lldpad.Proofs.Qaz.AppTable`: the application table

An entry of the table has one owner, this port or the neighbour, and one pending action. The
table is right (`AppTable`) when every live entry of this port is configured, every live entry
of the neighbour is announced, and every configured or announced entry has a live one.

`appPortStep_cases` says what an event does to the marks, and `AppMove` lists the ways. Each
way keeps the table right under `OneOwner`: no entry is wanted by its owner and the other side
in turn. A flush carries the marks out, and then the table is the union
(`AppTable.mem_flush`).
-/

namespace Lldpad.Qaz

open Lldpad.Lib
open Lldpad.Lldp (Bytes)

/-- The row of an entry -/
abbrev appRow (head : List AppObj) (app : DcbApp) : Option AppObj := rowOf (·.app) head app

/-! ### The functions of the table, row by row -/

theorem appRow_modApp (head : List AppObj) (peer : Bool) (app : DcbApp) (delete : Bool)
    (j : DcbApp) :
    appRow (modApp head peer app delete) j =
      if j = app then
        match appRow head j with
        | some np => some (if delete then { np with hw := .del } else np)
        | none => if delete then none else some { app := app, peer := peer, hw := .set }
      else appRow head j := by
  have hkeep : ∀ np : AppObj, (if delete then { np with hw := .del } else np).app = np.app := by
    intro np
    split_ifs <;> rfl
  unfold modApp updateApp
  cases h : modifyKey (·.app) app (fun np : AppObj => if delete then { np with hw := .del } else np)
      head with
  | some head' =>
    rw [appRow, rowOf_modifyKey hkeep h j]
    by_cases hj : j = app
    · -- The row was written, so it is there.
      subst hj
      obtain ⟨np, hnp⟩ := exists_rowOf_of_modifyKey h
      simp [appRow, hnp]
    · simp [hj]
  | none =>
    have hnone := modifyKey_none.mp h
    by_cases hj : j = app
    · subst hj
      cases delete <;> simp [appRow, hnone, rowOf_cons]
    · cases delete <;> simp [appRow, hj, rowOf_cons, Ne.symm hj]

theorem uniqueKeys_modApp {head : List AppObj} (peer : Bool) (app : DcbApp) (delete : Bool)
    (h : UniqueKeys (·.app) head) : UniqueKeys (·.app) (modApp head peer app delete) := by
  unfold modApp updateApp
  cases hm : modifyKey (·.app) app
      (fun np : AppObj => if delete then { np with hw := .del } else np) head with
  | some head' =>
    refine uniqueKeys_modifyKey ?_ hm h
    intro np
    split_ifs <;> rfl
  | none =>
    cases delete with
    | true => exact h
    | false => exact uniqueKeys_cons (modifyKey_none.mp hm) h

theorem appRow_peerApp (head : List AppObj) (app j : DcbApp) :
    appRow (peerApp head app) j =
      if j = app then
        some { (appRow head j).getD { app := app, peer := true, hw := .set } with hw := .set }
      else appRow head j := by
  unfold peerApp updateApp
  cases h : modifyKey (·.app) app (fun np : AppObj => { np with hw := .set }) head with
  | some head' =>
    have hkeep : ∀ np : AppObj, ({ np with hw := .set } : AppObj).app = np.app := fun _ => rfl
    rw [appRow, rowOf_modifyKey hkeep h j]
    by_cases hj : j = app
    · obtain ⟨np, hnp⟩ : ∃ np, appRow head j = some np := by
        rw [← Option.ne_none_iff_exists', hj, ne_eq, ← modifyKey_none (f := _), h]
        simp
      simp [hj ▸ hnp, hj]
    · simp [hj]
  | none =>
    have hnone := modifyKey_none.mp h
    rw [appRow_modApp]
    by_cases hj : j = app
    · subst hj
      simp [appRow, hnone]
    · simp [hj]

theorem uniqueKeys_peerApp {head : List AppObj} (app : DcbApp) (h : UniqueKeys (·.app) head) :
    UniqueKeys (·.app) (peerApp head app) := by
  unfold peerApp updateApp
  cases hm : modifyKey (·.app) app (fun np : AppObj => { np with hw := .set }) head with
  | some head' =>
    have hkeep : ∀ np : AppObj, ({ np with hw := .set } : AppObj).app = np.app := fun _ => rfl
    exact uniqueKeys_modifyKey hkeep hm h
  | none => exact uniqueKeys_modApp true app false h

theorem processAppEntries_eq {bytes : Bytes} {head head' : List AppObj}
    (h : processAppEntries bytes head = .ok head') :
    head' = (appsOfTlv bytes).foldl peerApp head := by
  fun_induction processAppEntries bytes head with
  | case1 head => cases h; rfl
  | case2 head prs hi lo rest ih =>
    rw [appsOfTlv, List.foldl_cons]
    exact ih h
  | case3 => cases h

theorem appRow_foldl_peerApp (apps : List DcbApp) (head : List AppObj) (j : DcbApp) :
    appRow (apps.foldl peerApp head) j =
      if j ∈ apps then
        some { (appRow head j).getD { app := j, peer := true, hw := .set } with hw := .set }
      else appRow head j := by
  induction apps generalizing head with
  | nil => simp
  | cons app rest ih =>
    rw [List.foldl_cons, ih, appRow_peerApp]
    by_cases hj : j = app
    · subst hj
      by_cases hmem : j ∈ rest <;> simp [hmem]
    · simp [hj]

theorem uniqueKeys_foldl_peerApp (apps : List DcbApp) {head : List AppObj}
    (h : UniqueKeys (·.app) head) : UniqueKeys (·.app) (apps.foldl peerApp head) := by
  induction apps generalizing head with
  | nil => exact h
  | cons app rest ih => exact ih (uniqueKeys_peerApp app h)

/-- `ieee8021qaz_app_reset` on one row -/
def resetRow (np : AppObj) : AppObj := if np.peer then { np with hw := .del } else np

theorem resetRow_app (np : AppObj) : (resetRow np).app = np.app := by
  unfold resetRow
  split_ifs <;> rfl

theorem appRow_appReset (head : List AppObj) (j : DcbApp) :
    appRow (appReset head) j = (appRow head j).map resetRow := rowOf_map resetRow_app head j

theorem uniqueKeys_appReset {head : List AppObj} :
    UniqueKeys (·.app) (appReset head) ↔ UniqueKeys (·.app) head := uniqueKeys_map resetRow_app

/-- What a flush makes of a row that it keeps -/
def doneRow (np : AppObj) : AppObj := if np.hw = .set then { np with hw := .done } else np

theorem doneRow_app (np : AppObj) : (doneRow np).app = np.app := by
  unfold doneRow
  split_ifs <;> rfl

theorem appRow_flush {head : List AppObj} (h : UniqueKeys (·.app) head) (j : DcbApp) :
    appRow (appSethw' head).1 j = ((appRow head j).map doneRow).filter (·.hw ≠ .del) := by
  have hmap := (uniqueKeys_map doneRow_app).mpr h
  have hfilter := rowOf_filter (fun np : AppObj => decide (np.hw ≠ .del)) hmap j
  rw [rowOf_map doneRow_app] at hfilter
  exact hfilter

theorem uniqueKeys_flush {head : List AppObj} (h : UniqueKeys (·.app) head) :
    UniqueKeys (·.app) (appSethw' head).1 :=
  uniqueKeys_filter _ ((uniqueKeys_map doneRow_app).mpr h)

/-! ### The right table -/

/-- What a row says of its entry, where `c` is that the entry is configured and `a` that it is
announced -/
def Backed (row : Option AppObj) (c a : Prop) : Prop :=
  match row with
  | none => ¬c ∧ ¬a
  | some np => if np.hw = .del then ¬c ∧ ¬a else if np.peer then a else c

/-- The table is right. -/
structure AppTable (head : List AppObj) (configured announced : List DcbApp) : Prop where
  unique : UniqueKeys (·.app) head
  backed : ∀ app, Backed (appRow head app) (app ∈ configured) (app ∈ announced)

namespace AppTable

variable {head : List AppObj} {configured announced : List DcbApp}

theorem add (h : AppTable head configured announced) (app : DcbApp)
    (hone : ∀ np ∈ head, np.app = app → np.hw ≠ .del) :
    AppTable (modApp head false app false) (app :: configured) announced := by
  refine ⟨uniqueKeys_modApp false app false h.unique, fun j => ?_⟩
  have hj := h.backed j
  rw [appRow_modApp]
  by_cases happ : j = app
  · subst happ
    cases hrow : appRow head j with
    | none => simp [Backed]
    | some np =>
      have hlive := hone np (rowOf_mem hrow) (rowOf_key hrow)
      rw [hrow] at hj
      simp only [Backed, hlive, if_false] at hj
      cases hp : np.peer
      · simp [Backed, hlive, hp]
      · rw [hp] at hj
        simpa [Backed, hlive, hp] using hj
  · simpa [happ] using hj

theorem delete (h : AppTable head configured announced) (app : DcbApp)
    (hone : app ∉ announced) :
    AppTable (modApp head false app true) (configured.filter (· ≠ app)) announced := by
  refine ⟨uniqueKeys_modApp false app true h.unique, fun j => ?_⟩
  have hj := h.backed j
  rw [appRow_modApp]
  by_cases happ : j = app
  · subst happ
    cases appRow head j <;> simp [Backed, hone]
  · simpa [happ] using hj

theorem announce (h : AppTable head configured announced) (apps : List DcbApp)
    (hone : ∀ np ∈ head, (np.peer = true → np.app ∈ configured → np.app ∈ apps) ∧
      (np.peer = false → np.hw = .del → np.app ∉ apps)) :
    AppTable (apps.foldl peerApp (appReset head)) configured apps := by
  refine ⟨uniqueKeys_foldl_peerApp apps (uniqueKeys_appReset.mpr h.unique), fun j => ?_⟩
  have hj := h.backed j
  rw [appRow_foldl_peerApp, appRow_appReset]
  cases hrow : appRow head j with
  | none =>
    rw [hrow] at hj
    by_cases hmem : j ∈ apps
    · simp [Backed, hmem]
    · simp only [hmem, if_false, Option.map_none, Backed]
      exact ⟨hj.1, fun h => h⟩
  | some np =>
    have happ : np.app = j := rowOf_key hrow
    have hnp := hone np (rowOf_mem hrow)
    rw [happ] at hnp
    rw [hrow] at hj
    simp only [Backed] at hj
    cases hp : np.peer with
    | true =>
      -- A row of the neighbour lives on exactly when it is announced.
      by_cases hmem : j ∈ apps
      · simp [Backed, resetRow, hp, hmem]
      · have hc : j ∉ configured := fun hc => hmem (hnp.1 hp hc)
        simp [Backed, resetRow, hp, hmem, hc]
    | false =>
      by_cases hdel : np.hw = .del
      · have hmem := hnp.2 hp hdel
        rw [if_pos hdel] at hj
        simp [Backed, resetRow, hp, hmem, hdel, hj.1]
      · rw [if_neg hdel, hp] at hj
        have hc : j ∈ configured := by simpa using hj
        by_cases hmem : j ∈ apps <;> simp [Backed, resetRow, hp, hmem, hdel, hc]

theorem withdraw (h : AppTable head configured announced)
    (hone : ∀ np ∈ head, np.peer = true → np.app ∉ configured) :
    AppTable (appReset head) configured [] :=
  h.announce [] fun np hnp => ⟨fun hp hc => (hone np hnp hp hc).elim, fun _ _ => List.not_mem_nil⟩

theorem flush (h : AppTable head configured announced) :
    AppTable (appSethw' head).1 configured announced := by
  refine ⟨uniqueKeys_flush h.unique, fun j => ?_⟩
  have hj := h.backed j
  rw [appRow_flush h.unique]
  cases hrow : appRow head j with
  | none => rw [hrow] at hj; exact hj
  | some np =>
    rw [hrow] at hj
    cases hhw : np.hw <;> simpa [Backed, doneRow, hhw, Option.filter_some] using hj

theorem mem_flush (h : AppTable head configured announced) (app : DcbApp) :
    app ∈ (appSethw' head).1.map (·.app) ↔ app ∈ configured ∨ app ∈ announced := by
  have hb := h.flush.backed app
  rw [← exists_rowOf]
  constructor
  · rintro ⟨np, hrow⟩
    have hlive : np.hw ≠ .del := by
      have hmem := rowOf_mem hrow
      simpa using (List.mem_filter.mp hmem).2
    rw [appRow, hrow] at hb
    simp only [Backed, hlive, if_false] at hb
    cases hp : np.peer <;> simp only [hp] at hb
    · exact .inl (by simpa using hb)
    · exact .inr (by simpa using hb)
  · intro hca
    cases hrow : appRow (appSethw' head).1 app with
    | some np => exact ⟨np, hrow⟩
    | none =>
      rw [hrow] at hb
      exact (hca.elim hb.1 hb.2).elim

end AppTable

/-! ### What an event does to the marks -/

/-- What an event makes of the table before the flush, and of what is asked of it -/
inductive AppMove (port : AppPort) :
    QazEvent → List AppObj → List DcbApp → List DcbApp → Prop
  | keep (e : QazEvent) : AppMove port e port.tlvs.appHead port.configured port.announced
  | add {prio sel pid : Int} : validApp prio sel pid = true →
      AppMove port (.command (.app prio sel pid false))
        (modApp port.tlvs.appHead false (appOfArgs prio sel pid) false)
        (appOfArgs prio sel pid :: port.configured) port.announced
  | delete {prio sel pid : Int} : validApp prio sel pid = true →
      AppMove port (.command (.app prio sel pid true))
        (modApp port.tlvs.appHead false (appOfArgs prio sel pid) true)
        (port.configured.filter (· ≠ appOfArgs prio sel pid)) port.announced
  | announce {mac : Bytes} {p : Lldpdu} : worksOn port.tlvs p = true →
      AppMove port (.lldpdu mac p)
        ((appsOfLldpdu p).foldl peerApp (appReset port.tlvs.appHead))
        port.configured (appsOfLldpdu p)
  | lost : AppMove port .mibDelete (appReset port.tlvs.appHead) port.configured []
  | expire : port.tlvs.pending = true →
      AppMove port .checkPending (appReset port.tlvs.appHead) port.configured port.announced

/-- The table after an event: flushed or not, and no port comes back to 802.1Qaz or waits
again. A port that left 802.1Qaz does not flush. -/
structure AppEnd (port port' : AppPort) (head : List AppObj) (flushed : Bool) : Prop where
  appHead : port'.tlvs.appHead = if flushed then (appSethw' head).1 else head
  flushes : port'.tlvs.hw.flushes = port.tlvs.hw.flushes + flushed.toNat
  acts : flushed = true → port.tlvs.active = true
  active : port'.tlvs.active = true → port.tlvs.active = true
  pending : port'.tlvs.pending = true → port.tlvs.pending = true ∧
    (port'.announced = [] ∨ port'.announced = port.announced)

theorem active_of_checkActive {tlvs : QazTlvs} (h : checkActive tlvs = true) :
    tlvs.active = true := (Bool.and_eq_true_iff.mp h).1

theorem mibUpdateApp_eq {p : Lldpdu} {head head' : List AppObj}
    (h : mibUpdateApp (rxOf p.tlvs) head = .ok head') :
    head' = (appsOfLldpdu p).foldl peerApp (appReset head) := by
  unfold mibUpdateApp at h
  unfold appsOfLldpdu
  rw [rxOf_app] at h
  cases hfind : p.tlvs.find? (isQazTlv ieee8021qazAppTlv) with
  | some info =>
    rw [hfind] at h
    exact processAppEntries_eq h
  | none =>
    rw [hfind] at h
    exact (Except.ok.inj h).symm

theorem appsOfLldpdu_eq_nil {p : Lldpdu} (h : (rxOf p.tlvs).app = none) :
    appsOfLldpdu p = [] := by
  unfold appsOfLldpdu
  rw [← rxOf_app, h]

variable {e : QazEvent} {port : AppPort}

theorem appPortStep_cases {port port' : AppPort} (h : appPortStep port e = .ok port') :
    ∃ head flushed, AppMove port e head port'.configured port'.announced ∧
      AppEnd port port' head flushed := by
  obtain ⟨tlvs, hstep, h⟩ := bind_eq_ok.mp h
  cases h
  cases e with
  | lldpdu mac p =>
    dsimp only
    rcases rxLldpdu_cases hstep with ⟨hwork, hidle⟩ | ⟨hwork, mid, hw⟩
    · rw [if_neg (by simp [hwork])]
      have hsame := hidle.same
      refine ⟨port.tlvs.appHead, false, .keep _, ⟨?_, ?_, nofun, hidle.active, ?_⟩⟩
      · rw [hsame]
        rfl
      · rw [hsame]
        rfl
      · intro hp
        rw [hsame] at hp
        exact ⟨hp, .inr rfl⟩
    · rw [if_pos hwork]
      obtain ⟨qazdu, remoteMac, -, hmid⟩ := hw.objects
      obtain ⟨cfgr, recr, pfc, head, -, happ, rfl⟩ := mibUpdateObjects_eq_ok hmid
      have hhead := mibUpdateApp_eq happ
      have hworks : worksOn port.tlvs p = true := hw.worksOn (Bool.and_eq_true_iff.mp hwork).1
      have hres := hw.result
      refine ⟨head, checkActive tlvs, hhead ▸ .announce hworks,
        ⟨?_, ?_, fun _ => hw.active, fun _ => hw.active, ?_⟩⟩
      · rw [hres]
        show (runAllSm _).appHead = _
        rw [runAllSm_appHead]
        simp [checkActive]
      · rw [hres]
        show (runAllSm _).hw.flushes = _
        rw [runAllSm_flushes]
        simp [checkActive]
      · intro hp
        rw [hres] at hp
        have hmidp : (if qazdu then false else port.tlvs.pending) = true := by simpa using hp
        have hport : port.tlvs.pending = true := by
          split_ifs at hmidp
          exact hmidp
        refine ⟨hport, .inl (appsOfLldpdu_eq_nil ?_)⟩
        -- An application TLV would have ended the wait.
        by_contra happ
        have hnot : (if qazdu then false else port.tlvs.pending) = false :=
          (hw.noted (.inr (Option.isSome_iff_ne_none.mpr happ))).1
        rw [hnot] at hmidp
        cases hmidp
  | mibDelete =>
    cases hstep
    exact ⟨_, false, .lost, ⟨rfl, rfl, nofun, fun h => h, fun h => ⟨h, .inl rfl⟩⟩⟩
  | checkPending =>
    cases hstep
    unfold checkPending
    by_cases hwait : (port.tlvs.active && port.tlvs.pending) = true
    · obtain ⟨hactive, hpending⟩ := Bool.and_eq_true_iff.mp hwait
      rw [if_pos hwait]
      refine ⟨_, true, .expire hpending, ⟨?_, ?_, fun _ => hactive, fun _ => hactive, fun h => ?_⟩⟩
      · show (runAllSm _).appHead = _
        rw [runAllSm_appHead]
        simp [checkActive, hactive]
      · show (runAllSm _).hw.flushes = _
        rw [runAllSm_flushes]
        simp [checkActive, hactive]
      · cases (runAllSm_pending _).symm.trans h
    · rw [if_neg hwait]
      exact ⟨_, false, .keep _, ⟨rfl, rfl, nofun, fun h => h, fun h => ⟨h, .inr rfl⟩⟩⟩
  | gettlv apps =>
    obtain ⟨⟨tlvs', out⟩, hget, hstep⟩ := bind_eq_ok.mp hstep
    obtain ⟨out', -, hget⟩ := bind_eq_ok.mp hget
    cases hget
    cases hstep
    refine ⟨_, checkActive port.tlvs, .keep _, ⟨runAllSm_appHead _, runAllSm_flushes _,
      active_of_checkActive, ?_, ?_⟩⟩
    · intro h
      exact (runAllSm_active _).symm.trans h
    · intro h
      exact ⟨(runAllSm_pending _).symm.trans h, .inr rfl⟩
  | command command =>
    cases hstep
    cases command with
    | app prio sel pid delete =>
      dsimp only [setArg]
      by_cases hvalid : validApp prio sel pid = true
      · simp only [hvalid, if_true, Bool.true_eq_false, if_false]
        have hend (head : List AppObj) (configured : List DcbApp) : AppEnd port
            { tlvs := (appSethw { port.tlvs with appHead := head }).somethingChangedLocal,
              configured := configured, announced := port.announced }
            head (checkActive port.tlvs) :=
          ⟨appSethw_appHead _, appSethw_flushes _, active_of_checkActive,
            fun h => by simpa [QazTlvs.somethingChangedLocal] using h,
            fun h => ⟨by simpa [QazTlvs.somethingChangedLocal] using h, .inr rfl⟩⟩
        cases delete with
        | true => exact ⟨_, _, .delete hvalid, hend _ _⟩
        | false => exact ⟨_, _, .add hvalid, hend _ _⟩
      · rw [Bool.not_eq_true] at hvalid
        simp only [hvalid, if_true, Bool.false_eq_true, if_false]
        exact ⟨_, false, .keep _, ⟨rfl, rfl, nofun, fun h => h, fun h => ⟨h, .inr rfl⟩⟩⟩
    | _ => exact ⟨_, false, .keep _, ⟨rfl, rfl, nofun, fun h => h, fun h => ⟨h, .inr rfl⟩⟩⟩

/-! ### What holds in every run -/

/-- No entry is twice in the table, and a port that waits has heard nothing. -/
structure AppTidy (port : AppPort) : Prop where
  unique : UniqueKeys (·.app) port.tlvs.appHead
  waits : port.tlvs.pending = true → port.announced = [] ∧
    ∀ app np, appRow port.tlvs.appHead app = some np → np.peer = false

theorem AppMove.unique {head : List AppObj}
    {configured announced : List DcbApp} (h : AppMove port e head configured announced)
    (hu : UniqueKeys (·.app) port.tlvs.appHead) : UniqueKeys (·.app) head := by
  cases h with
  | keep => exact hu
  | add | delete => exact uniqueKeys_modApp _ _ _ hu
  | announce => exact uniqueKeys_foldl_peerApp _ (uniqueKeys_appReset.mpr hu)
  | lost | expire => exact uniqueKeys_appReset.mpr hu

theorem AppMove.own {head : List AppObj}
    {configured : List DcbApp} (h : AppMove port e head configured [])
    (hown : ∀ app np, appRow port.tlvs.appHead app = some np → np.peer = false) :
    ∀ app np, appRow head app = some np → np.peer = false := by
  have hreset : ∀ app np, appRow (appReset port.tlvs.appHead) app = some np →
      np.peer = false := by
    intro app np hnp
    rw [appRow_appReset] at hnp
    obtain ⟨old, hold, rfl⟩ := Option.map_eq_some_iff.mp hnp
    simp [resetRow, hown app old hold]
  have hmod (app' : DcbApp) (delete : Bool) :
      ∀ app np, appRow (modApp port.tlvs.appHead false app' delete) app = some np →
        np.peer = false := by
    intro app np hnp
    rw [appRow_modApp] at hnp
    by_cases happ : app = app'
    · rw [if_pos happ] at hnp
      cases hold : appRow port.tlvs.appHead app with
      | none =>
        rw [hold] at hnp
        cases delete <;> cases hnp
        rfl
      | some old =>
        rw [hold] at hnp
        cases delete <;> cases hnp <;> exact hown app old hold
    · rw [if_neg happ] at hnp
      exact hown app np hnp
  generalize hann : ([] : List DcbApp) = announced at h
  cases h with
  | keep => exact hown
  | add | delete => exact hmod _ _
  | announce =>
    rw [← hann]
    exact hreset
  | lost | expire => exact hreset

theorem AppTidy.step {port port' : AppPort} (h : AppTidy port)
    (hstep : appPortStep port e = .ok port') : AppTidy port' := by
  obtain ⟨head, flushed, hmove, hend⟩ := appPortStep_cases hstep
  have hu := hmove.unique h.unique
  refine ⟨?_, fun hp => ?_⟩
  · rw [hend.appHead]
    split_ifs
    · exact uniqueKeys_flush hu
    · exact hu
  · obtain ⟨hpending, hann⟩ := hend.pending hp
    obtain ⟨hnil, hown⟩ := h.waits hpending
    have hnil' : port'.announced = [] := hann.elim id fun h => h.trans hnil
    refine ⟨hnil', ?_⟩
    rw [hnil'] at hmove
    have hrows := hmove.own hown
    rw [hend.appHead]
    split_ifs
    · intro app np hnp
      rw [appRow_flush hu] at hnp
      obtain ⟨old, hold, rfl⟩ := Option.map_eq_some_iff.mp (Option.filter_eq_some_iff.mp hnp).1
      have hpeer := hrows app old hold
      unfold doneRow
      split_ifs <;> exact hpeer
    · exact hrows

theorem appTable_foldl_modApp (apps : List DcbApp) {head : List AppObj}
    {configured : List DcbApp} (h : AppTable head configured [])
    (hset : ∀ np ∈ head, np.peer = false ∧ np.hw = .set) :
    AppTable (apps.foldl (fun head app => modApp head false app false) head)
      (apps.reverse ++ configured) [] ∧
    ∀ np ∈ apps.foldl (fun head app => modApp head false app false) head,
      np.peer = false ∧ np.hw = .set := by
  induction apps generalizing head configured with
  | nil => exact ⟨h, hset⟩
  | cons app rest ih =>
    rw [List.foldl_cons, List.reverse_cons, List.append_assoc]
    have hadd := h.add app fun np hnp _ => by rw [(hset np hnp).2]; decide
    refine ih hadd fun np hnp => ?_
    have hrow := rowOf_of_mem hadd.unique hnp
    have hmod := appRow_modApp head false app false np.app
    rw [appRow, hrow] at hmod
    by_cases happ : np.app = app
    · rw [if_pos happ] at hmod
      cases hold : appRow head np.app with
      | none =>
        rw [hold] at hmod
        cases hmod
        exact ⟨rfl, rfl⟩
      | some old =>
        rw [hold] at hmod
        cases hmod
        exact hset _ (rowOf_mem hold)
    · rw [if_neg happ] at hmod
      exact hset np (rowOf_mem hmod.symm)

theorem appTable_init (h : appPortSystem.init port) :
    AppTable port.tlvs.appHead port.configured port.announced ∧ AppTidy port := by
  obtain ⟨cfg, rfl⟩ := h
  have hempty : AppTable [] [] [] := ⟨List.nodup_nil, fun app => by simp [Backed, appRow]⟩
  obtain ⟨htable, hset⟩ := appTable_foldl_modApp cfg.apps hempty fun np hnp => by cases hnp
  refine ⟨⟨htable.unique, fun app => ?_⟩, ⟨htable.unique, fun _ => ⟨rfl, fun app np hnp => ?_⟩⟩⟩
  · have hb := htable.backed app
    simp only [List.append_nil, List.mem_reverse] at hb
    exact hb
  · exact (hset np (rowOf_mem hnp)).1

theorem appTidy_of_reachable (h : appPortSystem.Reachable port) :
    AppTidy port :=
  h.invariant (fun _ h₀ => (appTable_init h₀).2) fun _ _ _ h he => h.step he

/-! ### What holds while no entry has two owners -/

/-- No entry is wanted by both sides where the marks have room for one of them: no command adds
an entry that is to be deleted, or deletes one that the neighbour announces. No LLDPDU leaves
out an entry of the neighbour that is also configured, or announces one of this port that is to
be deleted. -/
def OneOwner (port : AppPort) : QazEvent → Prop
  | .command (.app prio sel pid delete) => port.tlvs.active = true → validApp prio sel pid = true →
    if delete then appOfArgs prio sel pid ∉ port.announced
    else ∀ np ∈ port.tlvs.appHead, np.app = appOfArgs prio sel pid → np.hw ≠ .del
  | .lldpdu _ p => worksOn port.tlvs p = true → ∀ np ∈ port.tlvs.appHead,
    (np.peer = true → np.app ∈ port.configured → np.app ∈ appsOfLldpdu p) ∧
      (np.peer = false → np.hw = .del → np.app ∉ appsOfLldpdu p)
  | .mibDelete => port.tlvs.active = true →
    ∀ np ∈ port.tlvs.appHead, np.peer = true → np.app ∉ port.configured
  | _ => True

theorem AppMove.table {head : List AppObj}
    {configured announced : List DcbApp} (h : AppMove port e head configured announced)
    (hactive : port.tlvs.active = true) (htidy : AppTidy port) (hone : OneOwner port e)
    (htable : AppTable port.tlvs.appHead port.configured port.announced) :
    AppTable head configured announced := by
  cases h with
  | keep => exact htable
  | add hvalid => exact htable.add _ (hone hactive hvalid)
  | delete hvalid => exact htable.delete _ (hone hactive hvalid)
  | announce hworks => exact htable.announce _ (hone hworks)
  | lost => exact htable.withdraw (hone hactive)
  | expire hpending =>
    -- A port that waits has no entries of the neighbour.
    obtain ⟨hnil, hown⟩ := htidy.waits hpending
    rw [hnil] at htable ⊢
    refine htable.withdraw fun np hnp hp => ?_
    rw [hown np.app np (rowOf_of_mem htable.unique hnp)] at hp
    cases hp

/-- Under `OneOwner` the table of a port that runs 802.1Qaz stays right, and the port flushes
into the union. -/
theorem appTable_step {port port' : AppPort} (htidy : AppTidy port)
    (htable : port.tlvs.active = true →
      AppTable port.tlvs.appHead port.configured port.announced)
    (hone : OneOwner port e) (h : appPortStep port e = .ok port') :
    (port'.tlvs.active = true →
      AppTable port'.tlvs.appHead port'.configured port'.announced) ∧
    (port'.tlvs.hw.flushes ≠ port.tlvs.hw.flushes → ∀ app,
      app ∈ port'.tlvs.appHead.map (·.app) ↔ app ∈ port'.configured ∨ app ∈ port'.announced) := by
  obtain ⟨head, flushed, hmove, hend⟩ := appPortStep_cases h
  have hmarks : port.tlvs.active = true → AppTable head port'.configured port'.announced :=
    fun hactive => hmove.table hactive htidy hone (htable hactive)
  rw [hend.appHead, hend.flushes]
  cases flushed with
  | true =>
    have hright := hmarks (hend.acts rfl)
    exact ⟨fun _ => hright.flush, fun _ => hright.mem_flush⟩
  | false => exact ⟨fun hactive => hmarks (hend.active hactive), fun h => (h rfl).elim⟩

theorem appTable_of_reachableWhere (h : appPortSystem.ReachableWhere OneOwner port) :
    AppTidy port ∧ (port.tlvs.active = true →
      AppTable port.tlvs.appHead port.configured port.announced) := by
  refine h.invariant (I := fun port => AppTidy port ∧ (port.tlvs.active = true →
    AppTable port.tlvs.appHead port.configured port.announced))
    (fun s h₀ => ?_) fun s e t hI hc he => ?_
  · exact ⟨(appTable_init h₀).2, fun _ => (appTable_init h₀).1⟩
  · exact ⟨hI.1.step he, (appTable_step hI.1 hI.2 hc he).1⟩

/-- No entry is ever twice in the table. While no entry has two owners, a flush leaves the union
of the configured entries and those of the neighbour's last LLDPDU. -/
theorem app_table_flushed_union (port port' : AppPort) (e : QazEvent) :
    (appPortSystem.Reachable port → (port.tlvs.appHead.map (·.app)).Nodup) ∧
    (appPortSystem.ReachableWhere OneOwner port → OneOwner port e →
      appPortStep port e = .ok port' → port'.tlvs.hw.flushes ≠ port.tlvs.hw.flushes →
      ∀ app, app ∈ port'.tlvs.appHead.map (·.app) ↔
        app ∈ port'.configured ∨ app ∈ port'.announced) := by
  refine ⟨fun h => (appTidy_of_reachable h).unique, fun h hone hstep => ?_⟩
  obtain ⟨htidy, htable⟩ := appTable_of_reachableWhere h
  exact (appTable_step htidy htable hone hstep).2

/-! ### An entry that is deleted and added again -/

/-- A port of which the neighbour is not known yet -/
def newPort : AppPort := { tlvs := qazIfup { mac := [2, 0, 0, 0, 0, 1] }, configured := [] }

theorem newPort_init : appPortSystem.init newPort := ⟨{ mac := [2, 0, 0, 0, 0, 1] }, rfl⟩

/-- The commands that add and delete the entry of FCoE -/
def fcoeApp (delete : Bool) : QazEvent := .command (.app 3 1 0x8906 delete)

/-- The port is waiting. The entry is added, deleted and added again, and the wait ends: the
flush drops it. -/
theorem app_table_readd_lost :
    ∃ port port', appPortSystem.Reachable port ∧ appPortStep port .checkPending = .ok port' ∧
      port'.tlvs.hw.flushes ≠ port.tlvs.hw.flushes ∧
      ¬∀ app, app ∈ port'.tlvs.appHead.map (·.app) ↔
        app ∈ port'.configured ∨ app ∈ port'.announced := by
  obtain ⟨port, hrun, hport⟩ := appPortSystem.exists_run newPort
    [fcoeApp false, fcoeApp true, fcoeApp false]
    (fun port => (appPortStep port .checkPending).toOption.any fun port' =>
      port'.tlvs.hw.flushes != port.tlvs.hw.flushes && port'.tlvs.appHead = [] &&
        port'.configured = [appOfArgs 3 1 0x8906]) (by decide +kernel)
  cases hstep : appPortStep port .checkPending with
  | error f => rw [hstep] at hport; cases hport
  | ok port' =>
    rw [hstep] at hport
    simp only [Except.toOption, Option.any_some, Bool.and_eq_true, decide_eq_true_eq,
      bne_iff_ne] at hport
    obtain ⟨⟨hflushes, hhead⟩, hconf⟩ := hport
    refine ⟨port, port', ⟨newPort, _, newPort_init, hrun⟩, hstep, hflushes, fun hall => ?_⟩
    have hmem : appOfArgs 3 1 0x8906 ∈ port'.configured := by
      rw [hconf]
      exact List.mem_singleton_self _
    have hk := (hall (appOfArgs 3 1 0x8906)).mpr (.inl hmem)
    rw [hhead] at hk
    cases hk

/-- The neighbour announces the entry of iSCSI. -/
def iscsiLldpdu : Lldpdu where
  tlvs := [[0x00, 0x80, 0xc2, 0x0c, 0x00, 0x82, 0x0c, 0xbc]]

def iscsiAnnounced : QazEvent := .lldpdu [2, 0, 0, 0, 0, 9] iscsiLldpdu

/-- Behind the wait, the entry that was added here and the one of the neighbour are both there. -/
theorem app_table_flushed_union_fcoe :
    ∃ port port', (port.tlvs.appHead.map (·.app)).Nodup ∧
      appPortStep port iscsiAnnounced = .ok port' ∧
      port'.configured = [appOfArgs 3 1 0x8906] ∧ port'.announced = [appOfArgs 4 2 3260] ∧
      ∀ app, app ∈ port'.tlvs.appHead.map (·.app) ↔
        app ∈ port'.configured ∨ app ∈ port'.announced := by
  obtain ⟨port, hrun, hport⟩ := appPortSystem.exists_run newPort [fcoeApp false, .checkPending]
    (fun port => port.tlvs.appHead.all (fun np => !np.peer && np.hw != .del) &&
      (appPortStep port iscsiAnnounced).toOption.any fun port' =>
        port'.tlvs.hw.flushes != port.tlvs.hw.flushes &&
          port'.configured = [appOfArgs 3 1 0x8906] && port'.announced = [appOfArgs 4 2 3260])
    (by decide +kernel)
  obtain ⟨hown, hport⟩ := (Bool.and_eq_true _ _).mp hport
  cases hstep : appPortStep port iscsiAnnounced with
  | error f => rw [hstep] at hport; cases hport
  | ok port' =>
    rw [hstep] at hport
    simp only [Except.toOption, Option.any_some, Bool.and_eq_true, decide_eq_true_eq,
      bne_iff_ne] at hport
    obtain ⟨⟨hflushes, hconf⟩, hann⟩ := hport
    have hmeet : appPortSystem.StepsMeet OneOwner newPort [fcoeApp false, .checkPending] :=
      ⟨fun _ _ _ hnp => (nomatch hnp), fun _ _ => ⟨trivial, fun _ _ => trivial⟩⟩
    -- The table has only an entry of this port, which stays.
    have hone : OneOwner port iscsiAnnounced := by
      intro _ np hnp
      have hnp := List.all_eq_true.mp hown np hnp
      simp only [Bool.and_eq_true, Bool.not_eq_true', bne_iff_ne] at hnp
      exact ⟨fun hpeer => absurd hpeer (by rw [hnp.1]; nofun), fun _ hdel => absurd hdel hnp.2⟩
    have hunion := app_table_flushed_union port port' iscsiAnnounced
    have hwhere : appPortSystem.ReachableWhere OneOwner port :=
      ⟨newPort, _, newPort_init, System.runWhere_of_run hrun hmeet⟩
    exact ⟨port, port', hunion.1 ⟨newPort, _, newPort_init, hrun⟩, hstep, hconf, hann,
      hunion.2 hwhere hone hstep hflushes⟩

end Lldpad.Qaz
