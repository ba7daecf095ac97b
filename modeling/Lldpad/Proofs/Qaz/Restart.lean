import Lldpad.Proofs.Qaz.AppTable
import Lldpad.Proofs.Qaz.EtsLists

/-!
# `Lldpad.Proofs.Qaz.Restart`: settings that survive a restart

A restart reads the file into a fresh structure. `Survives` says that the local objects are then
those that were in memory, and that the file has each local entry of the application table in one
place. It is the invariant of the set commands that keep what earlier ones said
(`KeepsSettings`).

* `Kept` is `Survives` setting by setting, and an accepted command changes one of them.
* `scanApps_delete` and `scanApps_add` say what the scan over the applications of the file does.
* `survives_of_reachableWhere` is the result. A list that leaves out what an earlier list named is
  lost (`not_survives`).
-/

namespace Lldpad.Qaz

open Lldpad.Lib
open Lldpad.Lldp (Bytes AgentType)

/-! ### What is compared -/

/-- The structure that `ieee8021qaz_ifup` reads the file into -/
def freshTlvs (mac : Bytes) : QazTlvs := { localMac := mac }

/-- The local objects are the same. What the driver says about itself is not among them. -/
structure SameObjects (t u : QazTlvs) : Prop where
  cfgl : { t.ets.cfgl with maxTcs := 0 } = { u.ets.cfgl with maxTcs := 0 }
  recl : t.ets.recl = u.ets.recl
  pfc : { t.pfc.localPfc with pfcCap := 0 } = { u.pfc.localPfc with pfcCap := 0 }

/-- The local entries of the application table. An entry that is to be deleted is none. -/
def localApps (head : List AppObj) : List DcbApp :=
  (head.filter fun np => !np.peer && np.hw ≠ .del).map (·.app)

/-- The application that `read_cfg_file` takes from a string, if it takes one -/
def fileApp (arg : CStr) : Option DcbApp :=
  match tokens ',' arg with
  | prio :: sel :: pid :: _ =>
    if (strtol 0 pid.text).range then none else some (appOfTokens prio sel pid)
  | _ => none

/-- The application in a place of the file -/
def slotApp (config : Config) (i : Nat) : Option DcbApp :=
  (config.getString .nearestBridge (appPath i)).bind fileApp

/-- What is in memory survives a restart. -/
def Survives (s : QazStore) : Prop :=
  (∃ t, readCfgFile s.config .nearestBridge (freshTlvs s.tlvs.localMac) = .ok t ∧
    SameObjects t s.tlvs ∧ ∀ app, app ∈ localApps t.appHead ↔ app ∈ localApps s.tlvs.appHead) ∧
  (∀ app, (∃ i < maxAppEntries, slotApp s.config i = some app) ↔
    app ∈ localApps s.tlvs.appHead) ∧
  ∀ i < maxAppEntries, ∀ j < maxAppEntries, slotApp s.config i ≠ none →
    slotApp s.config i = slotApp s.config j → i = j

/-- The places of the file hold what the command writes there, or nothing. -/
def Written (config : Config) : Prop :=
  ∀ i < maxAppEntries, ∀ v, config .nearestBridge (appPath i) = some v →
    ∃ app, v = .string (appString app)

/-! ### The text of an application -/

theorem u8_toNat (x : UInt8) : u8 x.toNat = x := by
  unfold u8
  have hlt := x.toNat_lt
  rw [Int.emod_eq_of_lt (by omega) (by omega)]
  simp

theorem u16_toNat (x : UInt16) : u16 x.toNat = x := by
  unfold u16
  have hlt := x.toNat_lt
  rw [Int.emod_eq_of_lt (by omega) (by omega)]
  simp

theorem tokens_appString (app : DcbApp) : tokens ',' (appString app) =
    [{ text := padded 1 app.priority.toNat
       behind := some (padded 1 app.selector.toNat ++ ',' :: padded 5 app.protocol.toNat) },
      { text := padded 1 app.selector.toNat, behind := some (padded 5 app.protocol.toNat) },
      { text := padded 5 app.protocol.toNat, behind := none }] := by
  have hcomma : ∀ width n, ',' ∉ padded width n := not_mem_padded rfl (by decide)
  unfold appString
  rw [List.append_assoc, List.cons_append, tokens_append (hcomma _ _) (padded_ne_nil _ _),
    tokens_append (hcomma _ _) (padded_ne_nil _ _), tokens_last (hcomma _ _) (padded_ne_nil _ _)]

theorem appOfTokens_padded (app : DcbApp) (behind behind' behind'' : Option CStr) :
    appOfTokens { text := padded 1 app.priority.toNat, behind := behind }
      { text := padded 1 app.selector.toNat, behind := behind' }
      { text := padded 5 app.protocol.toNat, behind := behind'' } = app := by
  have hprio := app.priority.toNat_lt
  have hsel := app.selector.toNat_lt
  have hpid := app.protocol.toNat_lt
  unfold appOfTokens
  rw [strtol_padded (.inr rfl) 5 (by omega), atoi_padded 1 (by omega), atoi_padded 1 (by omega),
    u8_toNat, u8_toNat, u16_toNat]

theorem range_padded (app : DcbApp) :
    (strtol 0 (padded 5 app.protocol.toNat)).range = false := by
  have hpid := app.protocol.toNat_lt
  rw [strtol_padded (.inr rfl) 5 (by omega)]

theorem fileApp_appString (app : DcbApp) : fileApp (appString app) = some app := by
  unfold fileApp
  rw [tokens_appString]
  dsimp only
  rw [range_padded, if_neg (by decide), appOfTokens_padded]

variable {config' : Config} {v : ConfigValue} {app : DcbApp} {path : Setting} {arg : ArgName}

theorem appString_inj {app' : DcbApp} (h : appString app = appString app') : app = app' := by
  have hread := congrArg fileApp h
  rw [fileApp_appString, fileApp_appString] at hread
  exact Option.some.inj hread

/-! ### The local entries of the table -/

variable {head : List AppObj} {tlvs : QazTlvs} {config : Config} {capable : Bool} {cmd : SetCmd}
  {s s' : QazStore}

theorem mem_localApps (h : UniqueKeys (·.app) head) (app : DcbApp) :
    app ∈ localApps head ↔
      ∃ np, appRow head app = some np ∧ np.peer = false ∧ np.hw ≠ .del := by
  unfold localApps
  rw [List.mem_map]
  constructor
  · rintro ⟨np, hmem, rfl⟩
    obtain ⟨hmem, hlocal⟩ := List.mem_filter.mp hmem
    exact ⟨np, rowOf_of_mem h hmem, by simpa using hlocal⟩
  · rintro ⟨np, hrow, hpeer, hlive⟩
    exact ⟨np, List.mem_filter.mpr ⟨rowOf_mem hrow, by simp [hpeer, hlive]⟩, rowOf_key hrow⟩

theorem localApps_add (h : UniqueKeys (·.app) head) (hnew : app ∉ head.map (·.app)) (j : DcbApp) :
    j ∈ localApps (modApp head false app false) ↔ j = app ∨ j ∈ localApps head := by
  rw [mem_localApps (uniqueKeys_modApp false app false h), mem_localApps h, appRow_modApp]
  by_cases hj : j = app
  · subst hj
    have hnone : appRow head j = none := rowOf_eq_none.mpr hnew
    simp [hnone]
  · simp [hj]

theorem localApps_delete (h : UniqueKeys (·.app) head) (app j : DcbApp) :
    j ∈ localApps (modApp head false app true) ↔ j ≠ app ∧ j ∈ localApps head := by
  rw [mem_localApps (uniqueKeys_modApp false app true h), mem_localApps h, appRow_modApp]
  by_cases hj : j = app
  · subst hj
    cases appRow head j <;> simp
  · simp [hj]

theorem localApps_appSethw (h : UniqueKeys (·.app) tlvs.appHead) (j : DcbApp) :
    UniqueKeys (·.app) (appSethw tlvs).appHead ∧
      (j ∈ localApps (appSethw tlvs).appHead ↔ j ∈ localApps tlvs.appHead) := by
  unfold appSethw
  split_ifs
  · refine ⟨uniqueKeys_flush h, ?_⟩
    show j ∈ localApps (appSethw' tlvs.appHead).1 ↔ _
    rw [mem_localApps (uniqueKeys_flush h), mem_localApps h, appRow_flush h]
    cases appRow tlvs.appHead j with
    | none => simp
    | some np => cases hhw : np.hw <;> simp [doneRow, hhw, Option.filter_some]
  · exact ⟨h, Iff.rfl⟩

theorem mem_localApps_foldl (apps : List DcbApp) (app : DcbApp) :
    app ∈ localApps (apps.foldl (fun head app => modApp head false app false) []) ↔
      app ∈ apps := by
  have hempty : AppTable [] [] [] := ⟨List.nodup_nil, fun app => by simp [Backed, appRow]⟩
  obtain ⟨htable, hset⟩ := appTable_foldl_modApp apps hempty (by simp)
  have hback := htable.backed app
  rw [mem_localApps htable.unique]
  simp only [List.append_nil, List.mem_reverse] at hback
  cases hrow : appRow (apps.foldl (fun head app => modApp head false app false) []) app with
  | none =>
    rw [hrow] at hback
    simpa using hback.1
  | some np =>
    obtain ⟨hpeer, hhw⟩ := hset np (rowOf_mem hrow)
    rw [hrow] at hback
    simp only [Backed, hpeer, hhw] at hback
    simpa [hpeer, hhw] using hback

/-! ### The applications of the file -/

theorem slot_cases (h : Written config) {i : Nat} (hi : i < maxAppEntries) :
    (config.getString .nearestBridge (appPath i) = none ∧ slotApp config i = none) ∨
      ∃ app, config.getString .nearestBridge (appPath i) = some (appString app) ∧
        slotApp config i = some app := by
  unfold slotApp Config.getString
  cases hv : config .nearestBridge (appPath i) with
  | none => exact .inl ⟨rfl, rfl⟩
  | some v =>
    obtain ⟨app, rfl⟩ := h i hi v hv
    exact .inr ⟨app, rfl, fileApp_appString app⟩

theorem readApps_eq (h : Written config) {places : List Nat}
    (hplaces : ∀ i ∈ places, i < maxAppEntries) (head : List AppObj) :
    readApps config .nearestBridge places head =
      (places.filterMap (slotApp config)).foldl (fun head app => modApp head false app false)
        head := by
  induction places generalizing head with
  | nil => rfl
  | cons i rest ih =>
    have hrest := ih fun j hj => hplaces j (List.mem_cons_of_mem _ hj)
    rw [readApps]
    rcases slot_cases h (hplaces i List.mem_cons_self) with ⟨hget, hslot⟩ | ⟨app, hget, hslot⟩
    · rw [show config.getString .nearestBridge { tlvid := .app, arg := .app, index := some i } =
        none from hget, List.filterMap_cons_none hslot]
      exact hrest head
    · rw [show config.getString .nearestBridge { tlvid := .app, arg := .app, index := some i } =
        some (appString app) from hget, List.filterMap_cons_some hslot, List.foldl_cons]
      dsimp only
      rw [tokens_appString]
      dsimp only
      rw [range_padded, if_neg (by decide), appOfTokens_padded]
      exact hrest _

theorem scanApps_add (new : CStr) (config : Config) {places : List Nat} {unused : Option Nat}
    {u : Nat} (h : scanApps false new .nearestBridge places unused config = (some u, config')) :
    config' = config ∧ (unused = some u ∨
      u ∈ places ∧ config.getString .nearestBridge (appPath u) = none) := by
  induction places generalizing unused with
  | nil =>
    cases h
    exact ⟨rfl, .inl rfl⟩
  | cons i rest ih =>
    rw [scanApps] at h
    cases hget : config.getString .nearestBridge (appPath i) with
    | none =>
      rw [hget] at h
      obtain ⟨hconfig, hu⟩ := ih h
      refine ⟨hconfig, ?_⟩
      rcases hu with hu | ⟨hmem, hfree⟩
      · cases unused with
        | none =>
          obtain rfl : i = u := Option.some.inj hu
          exact .inr ⟨List.mem_cons_self, hget⟩
        | some u' => exact .inl hu
      · exact .inr ⟨List.mem_cons_of_mem i hmem, hfree⟩
    | some dummy =>
      rw [hget] at h
      simp only [Bool.false_eq_true, and_false, if_false] at h
      obtain ⟨hconfig, hu⟩ := ih h
      exact ⟨hconfig, hu.imp_right fun hu => ⟨List.mem_cons_of_mem i hu.1, hu.2⟩⟩

theorem put_self (config : Config) (path : Setting) (v : Option ConfigValue) :
    config.put .nearestBridge path v .nearestBridge path = v := if_pos ⟨rfl, rfl⟩

theorem put_ne (config : Config) {path' : Setting} (v : Option ConfigValue) (h : path' ≠ path) :
    config.put .nearestBridge path v .nearestBridge path' = config .nearestBridge path' :=
  if_neg fun hsame => h hsame.2

theorem getString_eq_some {type : AgentType} {s : CStr} :
    config.getString type path = some s ↔ config type path = some (.string s) := by
  unfold Config.getString
  split <;> simp_all

theorem appPath_inj {i j : Nat} (h : appPath i = appPath j) : i = j := by
  cases h
  rfl

/-- The scan takes the entry out of every place that it stands in. -/
theorem scanApps_delete (new : CStr) (places : List Nat) (unused : Option Nat) (config : Config) :
    (∀ path : Setting, path.tlvid ≠ .app →
      (scanApps true new .nearestBridge places unused config).2 .nearestBridge path =
        config .nearestBridge path) ∧
    ∀ i, (scanApps true new .nearestBridge places unused config).2 .nearestBridge (appPath i) =
      if i ∈ places ∧ config .nearestBridge (appPath i) = some (.string new) then none
      else config .nearestBridge (appPath i) := by
  induction places generalizing unused config with
  | nil => exact ⟨fun _ _ => rfl, fun i => by simp [scanApps]⟩
  | cons k rest ih =>
    rw [scanApps]
    by_cases hk : config.getString .nearestBridge (appPath k) = some new
    · -- The entry stands here, and is taken away.
      rw [hk]
      dsimp only
      rw [if_pos ⟨rfl, rfl⟩]
      obtain ⟨hother, happ⟩ := ih (some 1) (config.put .nearestBridge (appPath k) none)
      refine ⟨fun path hpath => ?_, fun i => ?_⟩
      · rw [hother path hpath]
        exact put_ne config none fun hsame => hpath (hsame ▸ rfl)
      · rw [happ i]
        by_cases hik : i = k
        · subst hik
          rw [put_self, getString_eq_some.mp hk]
          simp
        · rw [put_ne config none fun hsame => hik (appPath_inj hsame)]
          simp [hik]
    · -- Another entry stands here, or none.
      have hrest : ∀ unused', (∀ path : Setting, path.tlvid ≠ .app →
          (scanApps true new .nearestBridge rest unused' config).2 .nearestBridge path =
            config .nearestBridge path) ∧
          ∀ i, (scanApps true new .nearestBridge rest unused' config).2 .nearestBridge
            (appPath i) =
            if i ∈ k :: rest ∧ config .nearestBridge (appPath i) = some (.string new) then none
            else config .nearestBridge (appPath i) := by
        intro unused'
        obtain ⟨hother, happ⟩ := ih unused' config
        refine ⟨hother, fun i => (happ i).trans ?_⟩
        have hik : config .nearestBridge (appPath i) = some (.string new) → i ≠ k := by
          rintro hi rfl
          exact hk (getString_eq_some.mpr hi)
        by_cases hi : config .nearestBridge (appPath i) = some (.string new)
        · simp [hi, hik hi]
        · simp [hi]
      cases hget : config.getString .nearestBridge (appPath k) with
      | none => exact hrest _
      | some dummy =>
        have hne : dummy ≠ new := fun hsame => hk (hget.trans (congrArg some hsame))
        dsimp only
        rw [if_neg fun h => hne h.1]
        exact hrest _

/-! ### The invariant, setting by setting -/

/-- The willing bit that a restart reads -/
def fileWilling (config : Config) : Bool :=
  ((config.getInt .nearestBridge { tlvid := .etscfg, arg := .willing }).getD 1) != 0

/-- The tables of an object are read as they are in memory. -/
structure TablesKept (config : Config) (ets : EtsObj) (tables : EtsrecObj) : Prop where
  up2tc : readUp2tc config .nearestBridge ets 0 = .ok tables.prioMap
  tcbw : readTcbw config .nearestBridge ets zeroTcs = .ok tables.tcBw
  tsa : readTsa config .nearestBridge ets zeroTcs = .ok tables.tsaMap

/-- The entries of the file are the local ones, and each stands in one place. -/
structure AppsKept (config : Config) (head : List AppObj) : Prop where
  written : Written config
  unique : UniqueKeys (·.app) head
  same : ∀ app, (∃ i < maxAppEntries, slotApp config i = some app) ↔ app ∈ localApps head
  once : ∀ i < maxAppEntries, ∀ j < maxAppEntries, slotApp config i ≠ none →
    slotApp config i = slotApp config j → i = j

/-- What is in memory survives a restart, setting by setting. -/
structure Kept (config : Config) (tlvs : QazTlvs) : Prop where
  willing : fileWilling config = tlvs.ets.cfgl.willing
  cbs : tlvs.ets.cfgl.cbs = false
  tables : ∀ ets : EtsObj, TablesKept config ets (ets.tables tlvs)
  pfc : { readPfc config .nearestBridge {} with pfcCap := 0 } =
    { tlvs.pfc.localPfc with pfcCap := 0 }
  apps : AppsKept config tlvs.appHead

theorem readTables_fresh {ets : EtsObj} {tlvs t : QazTlvs}
    (h : ets.tables tlvs = {}) : readTables config .nearestBridge ets tlvs = .ok t ↔
      ∃ tables, TablesKept config ets tables ∧ t = ets.write tables tlvs := by
  unfold readTables
  rw [h]
  constructor
  · intro hread
    obtain ⟨p, hp, hread⟩ := bind_eq_ok.mp hread
    obtain ⟨b, hb, hread⟩ := bind_eq_ok.mp hread
    obtain ⟨a, ha, hread⟩ := bind_eq_ok.mp hread
    exact ⟨⟨p, b, a⟩, ⟨hp, hb, ha⟩, (Except.ok.inj hread).symm⟩
  · rintro ⟨tables, hkept, rfl⟩
    exact bind_eq_ok.mpr ⟨_, hkept.up2tc, bind_eq_ok.mpr ⟨_, hkept.tcbw,
      bind_eq_ok.mpr ⟨_, hkept.tsa, rfl⟩⟩⟩

theorem readCfgFile_eq_ok {mac : Bytes} {t : QazTlvs} (hw : Written config) :
    readCfgFile config .nearestBridge (freshTlvs mac) = .ok t ↔
      ∃ cfgl recl, TablesKept config .cfgl cfgl ∧ TablesKept config .recl recl ∧
        t = { freshTlvs mac with
          ets := {
            cfgl := {
              willing := fileWilling config, maxTcs := 8, prioMap := cfgl.prioMap,
              tcBw := cfgl.tcBw, tsaMap := cfgl.tsaMap }
            recl := recl }
          pfc := { localPfc := readPfc config .nearestBridge {} }
          appHead := ((List.range maxAppEntries).filterMap (slotApp config)).foldl
            (fun head app => modApp head false app false) [] } := by
  have happs := readApps_eq hw (fun i hi => List.mem_range.mp hi) []
  unfold readCfgFile
  rw [if_neg (by simp), ← happs]
  constructor
  · intro h
    obtain ⟨t₁, h₁, h⟩ := bind_eq_ok.mp h
    obtain ⟨t₂, h₂, h⟩ := bind_eq_ok.mp h
    obtain ⟨cfgl, hcfgl, rfl⟩ := (readTables_fresh rfl).mp h₁
    obtain ⟨recl, hrecl, rfl⟩ := (readTables_fresh rfl).mp h₂
    exact ⟨cfgl, recl, hcfgl, hrecl, (Except.ok.inj h).symm⟩
  · rintro ⟨cfgl, recl, hcfgl, hrecl, rfl⟩
    exact bind_eq_ok.mpr ⟨_, (readTables_fresh rfl).mpr ⟨cfgl, hcfgl, rfl⟩,
      bind_eq_ok.mpr ⟨_, (readTables_fresh rfl).mpr ⟨recl, hrecl, rfl⟩, rfl⟩⟩

theorem mem_localApps_read (config : Config) (app : DcbApp) :
    app ∈ localApps (((List.range maxAppEntries).filterMap (slotApp config)).foldl
      (fun head app => modApp head false app false) []) ↔
      ∃ i < maxAppEntries, slotApp config i = some app := by
  rw [mem_localApps_foldl, List.mem_filterMap]
  simp only [List.mem_range]

theorem Kept.survives {s : QazStore} (h : Kept s.config s.tlvs) : Survives s := by
  refine ⟨⟨_, (readCfgFile_eq_ok h.apps.written).mpr
    ⟨_, _, h.tables .cfgl, h.tables .recl, rfl⟩, ⟨?_, rfl, h.pfc⟩, fun app => ?_⟩,
    h.apps.same, h.apps.once⟩
  · show ({
      willing := fileWilling s.config, prioMap := s.tlvs.ets.cfgl.prioMap
      tcBw := s.tlvs.ets.cfgl.tcBw, tsaMap := s.tlvs.ets.cfgl.tsaMap } : EtscfgObj) = _
    rw [h.willing, ← h.cbs]
  · exact (mem_localApps_read s.config app).trans (h.apps.same app)

theorem Survives.kept {s : QazStore} (h : Survives s) (hw : Written s.config)
    (hu : UniqueKeys (·.app) s.tlvs.appHead) : Kept s.config s.tlvs := by
  obtain ⟨⟨t, hread, hsame, -⟩, happs, honce⟩ := h
  obtain ⟨cfgl, recl, hcfgl, hrecl, rfl⟩ := (readCfgFile_eq_ok hw).mp hread
  have hobj := hsame.cfgl
  obtain ⟨hwilling, hcbs, hprio, hbw, htsa⟩ : fileWilling s.config = s.tlvs.ets.cfgl.willing ∧
      false = s.tlvs.ets.cfgl.cbs ∧ cfgl.prioMap = s.tlvs.ets.cfgl.prioMap ∧
      cfgl.tcBw = s.tlvs.ets.cfgl.tcBw ∧ cfgl.tsaMap = s.tlvs.ets.cfgl.tsaMap :=
    ⟨congrArg EtscfgObj.willing hobj, congrArg EtscfgObj.cbs hobj, congrArg EtscfgObj.prioMap hobj,
      congrArg EtscfgObj.tcBw hobj, congrArg EtscfgObj.tsaMap hobj⟩
  refine ⟨hwilling, hcbs.symm, fun ets => ?_, hsame.pfc, ⟨hw, hu, happs, honce⟩⟩
  cases ets with
  | cfgl =>
    refine ⟨hcfgl.up2tc.trans ?_, hcfgl.tcbw.trans ?_, hcfgl.tsa.trans ?_⟩
    · exact congrArg _ hprio
    · exact congrArg _ hbw
    · exact congrArg _ htsa
  | recl =>
    have hrecl' : recl = s.tlvs.ets.recl := hsame.recl
    rw [hrecl'] at hrecl
    exact hrecl

/-! ### A setting is written -/

/-- Two files that agree on the settings of a TLV -/
def SameAt (tlvid : TlvId) (config config' : Config) : Prop :=
  ∀ path : Setting, path.tlvid = tlvid →
    config' .nearestBridge path = config .nearestBridge path

theorem sameAt_put (config : Config) {tlvid : TlvId} (v : Option ConfigValue)
    (h : path.tlvid ≠ tlvid) : SameAt tlvid config (config.put .nearestBridge path v) :=
  fun _ hpath' => put_ne config v fun hsame => h (hsame ▸ hpath')

theorem TablesKept.frame {config : Config} {ets : EtsObj} {tables : EtsrecObj}
    (h : TablesKept config ets tables) (hsame : SameAt ets.tlvid config config') :
    TablesKept config' ets tables := by
  obtain ⟨hup, hbw, htsa⟩ := h
  refine ⟨?_, ?_, ?_⟩
  · unfold readUp2tc Config.getString
    rwa [hsame _ rfl]
  · unfold readTcbw Config.getString
    rwa [hsame _ rfl]
  · unfold readTsa Config.getString
    rwa [hsame _ rfl]

theorem readPfc_frame {config : Config} (hsame : SameAt .pfc config config') :
    readPfc config' .nearestBridge {} = readPfc config .nearestBridge {} := by
  unfold readPfc Config.getInt
  rw [hsame _ rfl, hsame _ rfl, hsame _ rfl]

theorem AppsKept.frame {config : Config}
    (h : AppsKept config head) (hsame : SameAt .app config config') : AppsKept config' head := by
  have hslot : ∀ i, slotApp config' i = slotApp config i := by
    intro i
    unfold slotApp Config.getString
    rw [hsame _ rfl]
  refine ⟨fun i hi v hv => h.written i hi v ((hsame _ rfl).symm.trans hv), h.unique, ?_, ?_⟩
  · intro app
    simpa only [hslot] using h.same app
  · intro i hi j hj
    simpa only [hslot] using h.once i hi j hj

theorem tables_write_self (ets : EtsObj) (tables : EtsrecObj) (tlvs : QazTlvs) :
    ets.tables (ets.write tables tlvs) = tables := by
  cases ets <;> rfl

theorem tables_write_ne {ets ets' : EtsObj} (h : ets' ≠ ets) (tables : EtsrecObj)
    (tlvs : QazTlvs) : ets'.tables (ets.write tables tlvs) = ets'.tables tlvs := by
  cases ets <;> cases ets' <;> first | rfl | exact absurd rfl h

theorem Kept.write (h : Kept config tlvs) {ets : EtsObj}
    {tables : EtsrecObj} (harg : arg ≠ .willing) (htables : TablesKept
      (config.put .nearestBridge { tlvid := ets.tlvid, arg := arg } (some v)) ets tables) :
    Kept (config.put .nearestBridge { tlvid := ets.tlvid, arg := arg } (some v))
      (ets.write tables tlvs) := by
  have hpfc : ets.tlvid ≠ .pfc := by cases ets <;> decide
  have happ : ets.tlvid ≠ .app := by cases ets <;> decide
  have hwilling : fileWilling
      (config.put .nearestBridge { tlvid := ets.tlvid, arg := arg } (some v)) =
      fileWilling config := by
    unfold fileWilling Config.getInt
    rw [put_ne config (some v) fun hsame => harg (congrArg Setting.arg hsame).symm]
  refine ⟨hwilling.trans ?_, ?_, fun ets' => ?_, ?_, ?_⟩
  · rw [h.willing]
    cases ets <;> rfl
  · rw [← h.cbs]
    cases ets <;> rfl
  · by_cases hets : ets' = ets
    · subst hets
      rw [tables_write_self]
      exact htables
    · rw [tables_write_ne hets]
      refine (h.tables ets').frame (sameAt_put config (some v) ?_)
      cases ets <;> cases ets' <;> first | exact absurd rfl hets | nofun
  · rw [readPfc_frame (sameAt_put config (some v) hpfc), h.pfc]
    cases ets <;> rfl
  · have hhead : (ets.write tables tlvs).appHead = tlvs.appHead := by cases ets <;> rfl
    rw [hhead]
    exact h.apps.frame (sameAt_put config (some v) happ)

theorem Kept.writeWilling (h : Kept config tlvs) (n : Int) :
    Kept (config.put .nearestBridge { tlvid := .etscfg, arg := .willing } (some (.int n)))
      { tlvs with ets := { tlvs.ets with
        cfgl := { tlvs.ets.cfgl with willing := n != 0 } } } := by
  refine ⟨?_, h.cbs, fun ets => ?_, ?_, h.apps.frame (sameAt_put config _ (by decide))⟩
  · unfold fileWilling Config.getInt
    rw [put_self]
    rfl
  · have htables : TablesKept config ets (ets.tables tlvs) := h.tables ets
    -- No table is read from the path of the willing bit.
    have hne : ∀ arg : ArgName, arg ≠ .willing →
        config.put .nearestBridge { tlvid := .etscfg, arg := .willing } (some (.int n))
          .nearestBridge { tlvid := ets.tlvid, arg := arg } =
        config .nearestBridge { tlvid := ets.tlvid, arg := arg } :=
      fun arg harg => put_ne config _ fun hsame => harg (congrArg Setting.arg hsame)
    have hkept : TablesKept
        (config.put .nearestBridge { tlvid := .etscfg, arg := .willing } (some (.int n))) ets
        (ets.tables tlvs) := by
      obtain ⟨hup, hbw, htsa⟩ := htables
      refine ⟨?_, ?_, ?_⟩
      · unfold readUp2tc Config.getString
        rwa [hne .up2tc (by decide)]
      · unfold readTcbw Config.getString
        rwa [hne .tcbw (by decide)]
      · unfold readTsa Config.getString
        rwa [hne .tsa (by decide)]
    cases ets <;> exact hkept
  · rw [readPfc_frame (sameAt_put config _ (by decide))]
    exact h.pfc

theorem Kept.writePfc (h : Kept config tlvs) {f : PfcObj → PfcObj}
    (hpfc : { readPfc (config.put .nearestBridge { tlvid := .pfc, arg := arg } (some v))
        .nearestBridge {} with pfcCap := 0 } = { f tlvs.pfc.localPfc with pfcCap := 0 }) :
    Kept (config.put .nearestBridge { tlvid := .pfc, arg := arg } (some v))
      (tlvs.setLocalPfc f) := by
  refine ⟨?_, h.cbs, fun ets => ?_, hpfc, h.apps.frame (sameAt_put config _ nofun)⟩
  · unfold fileWilling Config.getInt
    rw [put_ne config (some v) fun hsame => by cases congrArg Setting.tlvid hsame]
    exact h.willing
  · have hets : (Setting.mk .pfc arg none).tlvid ≠ ets.tlvid := by cases ets <;> nofun
    have hkept := (h.tables ets).frame (sameAt_put config (some v) hets)
    cases ets <;> exact hkept

theorem readPfc_put (config : Config) (arg : ArgName) (n : Int) :
    readPfc (config.put .nearestBridge { tlvid := .pfc, arg := arg } (some (.int n)))
      .nearestBridge {} =
      { readPfc config .nearestBridge {} with
        willing := if arg = .willing then n != 0
          else (readPfc config .nearestBridge {}).willing
        pfcEnable := if arg = .enabled then u8 n
          else (readPfc config .nearestBridge {}).pfcEnable
        delay := if arg = .delay then u32 n
          else (readPfc config .nearestBridge {}).delay } := by
  have hget : ∀ arg' : ArgName,
      (config.put .nearestBridge { tlvid := .pfc, arg := arg } (some (.int n))).getInt
        .nearestBridge { tlvid := .pfc, arg := arg' } =
      if arg = arg' then some n
      else config.getInt .nearestBridge { tlvid := .pfc, arg := arg' } := by
    intro arg'
    unfold Config.getInt
    by_cases harg : arg = arg'
    · subst harg
      rw [put_self, if_pos rfl]
    · rw [put_ne config _ fun hsame => harg (congrArg Setting.arg hsame).symm, if_neg harg]
  unfold readPfc
  rw [hget, hget, hget]
  cases arg <;> rfl

/-- A new application goes to a free place. -/
theorem AppsKept.add {head head' : List AppObj} (h : AppsKept config head)
    {u : Nat} (hu : u < maxAppEntries)
    (hfree : config.getString .nearestBridge (appPath u) = none) (hnew : app ∉ localApps head)
    (hunique : UniqueKeys (·.app) head')
    (hhead : ∀ j, j ∈ localApps head' ↔ j = app ∨ j ∈ localApps head) :
    AppsKept (config.put .nearestBridge (appPath u) (some (.string (appString app)))) head' := by
  have hself : slotApp (config.put .nearestBridge (appPath u) (some (.string (appString app)))) u =
      some app := by
    unfold slotApp Config.getString
    rw [put_self]
    exact fileApp_appString app
  have hne : ∀ i, i ≠ u →
      slotApp (config.put .nearestBridge (appPath u) (some (.string (appString app)))) i =
        slotApp config i := by
    intro i hi
    unfold slotApp Config.getString
    rw [put_ne config _ fun hsame => hi (appPath_inj hsame)]
  have hold : slotApp config u = none := by
    unfold slotApp
    rw [hfree]
    rfl
  -- The new entry stands nowhere else.
  have hother : ∀ i < maxAppEntries, slotApp config i ≠ some app :=
    fun i hi hslot => hnew ((h.same app).mp ⟨i, hi, hslot⟩)
  refine ⟨fun i hi v hv => ?_, hunique, fun j => ?_, fun i hi j hj hsome heq => ?_⟩
  · by_cases hiu : i = u
    · subst hiu
      rw [put_self] at hv
      exact ⟨app, (Option.some.inj hv).symm⟩
    · rw [put_ne config _ fun hsame => hiu (appPath_inj hsame)] at hv
      exact h.written i hi v hv
  · rw [hhead, ← h.same]
    constructor
    · rintro ⟨i, hi, hslot⟩
      by_cases hiu : i = u
      · subst hiu
        rw [hself] at hslot
        exact .inl (Option.some.inj hslot).symm
      · rw [hne i hiu] at hslot
        exact .inr ⟨i, hi, hslot⟩
    · rintro (rfl | ⟨i, hi, hslot⟩)
      · exact ⟨u, hu, hself⟩
      · have hiu : i ≠ u := by
          rintro rfl
          rw [hold] at hslot
          cases hslot
        exact ⟨i, hi, (hne i hiu).trans hslot⟩
  · by_cases hiu : i = u
    · by_cases hju : j = u
      · rw [hiu, hju]
      · subst hiu
        rw [hself, hne j hju] at heq
        exact absurd heq.symm (hother j hj)
    · by_cases hju : j = u
      · subst hju
        rw [hself, hne i hiu] at heq
        exact absurd heq (hother i hi)
      · rw [hne i hiu] at hsome heq
        rw [hne j hju] at heq
        exact h.once i hi j hj hsome heq

/-- An application is taken out of the file. -/
theorem AppsKept.delete {config : Config} {head head' : List AppObj} (h : AppsKept config head)
    (hconfig : ∀ i, config' .nearestBridge (appPath i) =
      if i ∈ List.range maxAppEntries ∧
        config .nearestBridge (appPath i) = some (.string (appString app)) then none
      else config .nearestBridge (appPath i))
    (hunique : UniqueKeys (·.app) head')
    (hhead : ∀ j, j ∈ localApps head' ↔ j ≠ app ∧ j ∈ localApps head) :
    AppsKept config' head' := by
  have hslot : ∀ i < maxAppEntries, slotApp config' i =
      if slotApp config i = some app then none else slotApp config i := by
    intro i hi
    have hmem : i ∈ List.range maxAppEntries := List.mem_range.mpr hi
    unfold slotApp Config.getString
    rw [hconfig]
    cases hv : config .nearestBridge (appPath i) with
    | none => simp
    | some v =>
      obtain ⟨app', rfl⟩ := h.written i hi v hv
      by_cases happ : app' = app
      · subst happ
        simp [hmem, fileApp_appString]
      · have hne : appString app' ≠ appString app := fun hsame => happ (appString_inj hsame)
        simp [hne, fileApp_appString, happ]
  have hsome : ∀ i < maxAppEntries, ∀ j, slotApp config' i = some j ↔
      j ≠ app ∧ slotApp config i = some j := by
    intro i hi j
    rw [hslot i hi]
    by_cases happ : slotApp config i = some app
    · rw [if_pos happ, happ]
      constructor
      · exact nofun
      · rintro ⟨hj, hsame⟩
        exact absurd (Option.some.inj hsame).symm hj
    · rw [if_neg happ]
      exact ⟨fun hj => ⟨fun hsame => happ (hsame ▸ hj), hj⟩, And.right⟩
  refine ⟨fun i hi v hv => ?_, hunique, fun j => ?_, fun i hi j hj hne heq => ?_⟩
  · rw [hconfig] at hv
    split_ifs at hv
    exact h.written i hi v hv
  · rw [hhead, ← h.same]
    constructor
    · rintro ⟨i, hi, hj⟩
      obtain ⟨hjapp, hj⟩ := (hsome i hi j).mp hj
      exact ⟨hjapp, i, hi, hj⟩
    · rintro ⟨hjapp, i, hi, hj⟩
      exact ⟨i, hi, (hsome i hi j).mpr ⟨hjapp, hj⟩⟩
  · obtain ⟨a, ha⟩ := Option.ne_none_iff_exists'.mp hne
    obtain ⟨-, hi'⟩ := (hsome i hi a).mp ha
    obtain ⟨-, hj'⟩ := (hsome j hj a).mp (heq ▸ ha)
    exact h.once i hi j hj (by rw [hi']; nofun) (hi'.trans hj'.symm)

theorem Kept.withApps {config : Config} {tlvs tlvs' : QazTlvs} (h : Kept config tlvs)
    (hsame : ∀ path : Setting, path.tlvid ≠ .app →
      config' .nearestBridge path = config .nearestBridge path)
    (hets : tlvs'.ets = tlvs.ets) (hpfc : tlvs'.pfc = tlvs.pfc)
    (happs : AppsKept config' tlvs'.appHead) : Kept config' tlvs' := by
  have hat : ∀ tlvid : TlvId, tlvid ≠ .app → SameAt tlvid config config' :=
    fun tlvid hne path hpath => hsame path (hpath ▸ hne)
  refine ⟨?_, ?_, fun ets => ?_, ?_, happs⟩
  · rw [hets]
    unfold fileWilling Config.getInt
    rw [hat .etscfg (by decide) _ rfl]
    exact h.willing
  · rw [hets]
    exact h.cbs
  · have hne : ets.tlvid ≠ .app := by cases ets <;> decide
    have htables : ets.tables tlvs' = ets.tables tlvs := by
      cases ets <;> simp [EtsObj.tables, hets]
    rw [htables]
    exact (h.tables ets).frame (hat _ hne)
  · rw [readPfc_frame (hat .pfc (by decide)), hpfc]
    exact h.pfc

theorem Kept.changed (h : Kept config tlvs) :
    Kept config tlvs.somethingChangedLocal :=
  ⟨h.willing, h.cbs, fun ets => by cases ets <;> exact h.tables _, h.pfc, h.apps⟩

/-! ### Commands -/

/-- One accepted command after another, from a store that agrees with itself -/
def storeSystem : System QazStore (Bool × SetCmd) where
  init s := Written s.config ∧ UniqueKeys (·.app) s.tlvs.appHead ∧ Survives s
  step s e := (setTlv e.1 e.2 s).map (·.2)

/-- A command is accepted. -/
def Accepted (s : QazStore) (e : Bool × SetCmd) : Prop :=
  (setTlv e.1 e.2 s).map (·.1) = .ok .success

instance (s : QazStore) (e : Bool × SetCmd) : Decidable (Accepted s e) :=
  inferInstanceAs (Decidable (_ = _))

/-- The object whose tables a command writes -/
def TlvId.ets : TlvId → Option EtsObj
  | .etscfg => some .cfgl
  | .etsrec => some .recl
  | _ => none

/-- The number of traffic classes that the entries of a list are checked against -/
def EtsObj.max (ets : EtsObj) (tlvs : QazTlvs) : UInt8 :=
  match ets with
  | .cfgl => tlvs.ets.cfgl.maxTcs
  | .recl => maxTcs.toUInt8

/-- What a command must do for the file to follow the memory: it is one of the nearest bridge's
agent. A list of traffic classes or algorithms resets the table or keeps what earlier lists said,
a list of percentages has at most eight, and an application that is added has no entry in the
table. -/
def KeepsSettings (s : QazStore) (cmd : SetCmd) : Prop :=
  agentType2section cmd.type = .nearestBridge ∧
  match cmd.arg, cmd.tlvid.ets with
  | .up2tc, some ets => cmd.value = none' ∨ Up2tcKeeps (ets.tables s.tlvs).prioMap
    ((tokens ',' cmd.value).filterMap (up2tcOf (ets.max s.tlvs)))
  | .tsa, some ets => cmd.value = none' ∨
    TsaKeeps (ets.tables s.tlvs).tsaMap (tokens ',' cmd.value)
  | .tcbw, _ => (tokens ',' cmd.value).length ≤ 8
  | .app, _ => cmd.delete = true ∨
    match appArgs cmd.value with
    | some (prio, sel, pid) => appOfArgs prio sel pid ∉ s.tlvs.appHead.map (·.app)
    | none => True
  | _, _ => True

theorem handleArg_of_accepted (h : setTlv capable cmd s = .ok (.success, s')) :
    handleArg false capable cmd s = .ok (.success, s') := by
  obtain ⟨⟨rc, s₁⟩, -, h⟩ := bind_eq_ok.mp h
  dsimp only at h
  split_ifs at h with hrc
  · exact h
  · cases h
    exact absurd (.inl rfl) hrc

theorem finish_eq (htype : agentType2section cmd.type = .nearestBridge)
    (h : finish false capable s cmd tlvs v = (.success, s')) :
    s'.config = s.config.put .nearestBridge { tlvid := cmd.tlvid, arg := cmd.arg } (some v) ∧
      (s'.tlvs = tlvs ∨ s'.tlvs = tlvs.somethingChangedLocal) := by
  unfold finish at h
  rw [if_neg (by decide), htype] at h
  cases h
  refine ⟨rfl, ?_⟩
  split_ifs
  · exact .inr rfl
  · exact .inl rfl

theorem Kept.finish (htype : agentType2section cmd.type = .nearestBridge)
    (h : finish false capable s cmd tlvs v = (.success, s'))
    (hkept : Kept (s.config.put .nearestBridge { tlvid := cmd.tlvid, arg := cmd.arg } (some v))
      tlvs) : Kept s'.config s'.tlvs := by
  obtain ⟨hconfig, htlvs⟩ := finish_eq htype h
  rw [hconfig]
  rcases htlvs with htlvs | htlvs <;> rw [htlvs]
  · exact hkept
  · exact hkept.changed

theorem arg_ne {tlvid : TlvId} {arg' : ArgName} (h : arg' ≠ arg) :
    (Setting.mk tlvid arg' none) ≠ Setting.mk tlvid arg none :=
  fun hsame => h (congrArg Setting.arg hsame)

theorem Kept.setUp2tc
    (h : Kept s.config s.tlvs) (ets : EtsObj) (htype : agentType2section cmd.type = .nearestBridge)
    (htlv : cmd.tlvid = ets.tlvid) (harg : cmd.arg = .up2tc)
    (hkeeps : cmd.value = none' ∨ Up2tcKeeps (ets.tables s.tlvs).prioMap
      ((tokens ',' cmd.value).filterMap (up2tcOf (ets.max s.tlvs))))
    (hset : setUp2tc false capable cmd ets (ets.max s.tlvs) s = .ok (.success, s')) :
    Kept s'.config s'.tlvs := by
  obtain ⟨⟨accepted, prioMap⟩, hloop, hset⟩ := bind_eq_ok.mp hset
  dsimp only at hset
  cases accepted with
  | false => cases hset
  | true =>
    refine Kept.finish htype (Except.ok.inj hset) ?_
    rw [htlv, harg]
    have htables := h.tables ets
    refine h.write (by decide) ⟨?_, ?_, ?_⟩
    · -- The list that is stored is read as it was accepted.
      unfold readUp2tc Config.getString
      rw [put_self]
      unfold up2tcList at hloop
      split_ifs at hloop with hnone
      · cases hloop
        rw [hnone]
        rfl
      · exact up2tc_kept hloop (hkeeps.resolve_left hnone)
    · have hbw := htables.tcbw
      unfold readTcbw Config.getString at hbw ⊢
      rwa [put_ne _ _ (arg_ne (by decide))]
    · have htsa := htables.tsa
      unfold readTsa Config.getString at htsa ⊢
      rwa [put_ne _ _ (arg_ne (by decide))]

theorem Kept.tsa_length (h : Kept config tlvs)
    (ets : EtsObj) : (ets.tables tlvs).tsaMap.length = maxTcs := by
  have htsa := (h.tables ets).tsa
  unfold readTsa at htsa
  split at htsa
  · rw [readTsa_length htsa]
    rfl
  · rw [← Except.ok.inj htsa]
    rfl

theorem Kept.setTsa
    (h : Kept s.config s.tlvs) (ets : EtsObj) (htype : agentType2section cmd.type = .nearestBridge)
    (htlv : cmd.tlvid = ets.tlvid) (harg : cmd.arg = .tsa)
    (hkeeps : cmd.value = none' ∨ TsaKeeps (ets.tables s.tlvs).tsaMap (tokens ',' cmd.value))
    (hset : setTsa false capable cmd ets s = .ok (.success, s')) : Kept s'.config s'.tlvs := by
  obtain ⟨⟨accepted, tsaMap⟩, hloop, hset⟩ := bind_eq_ok.mp hset
  dsimp only at hset
  cases accepted with
  | false => cases hset
  | true =>
    refine Kept.finish htype (Except.ok.inj hset) ?_
    rw [htlv, harg]
    have htables := h.tables ets
    refine h.write (by decide) ⟨?_, ?_, ?_⟩
    · have hup := htables.up2tc
      unfold readUp2tc Config.getString at hup ⊢
      rwa [put_ne _ _ (arg_ne (by decide))]
    · have hbw := htables.tcbw
      unfold readTcbw Config.getString at hbw ⊢
      rwa [put_ne _ _ (arg_ne (by decide))]
    · unfold readTsa Config.getString
      rw [put_self]
      unfold tsaList at hloop
      split_ifs at hloop with hnone
      · cases hloop
        rw [hnone]
        rfl
      · exact tsa_kept hloop (h.tsa_length ets) (hkeeps.resolve_left hnone)

theorem Kept.setTcbw
    (h : Kept s.config s.tlvs) (ets : EtsObj) (htype : agentType2section cmd.type = .nearestBridge)
    (htlv : cmd.tlvid = ets.tlvid) (harg : cmd.arg = .tcbw)
    (hkeeps : (tokens ',' cmd.value).length ≤ 8)
    (hset : setTcbw false capable cmd ets s = (.success, s')) : Kept s'.config s'.tlvs := by
  unfold Qaz.setTcbw at hset
  split_ifs at hset with htotal
  · cases hset
  · refine Kept.finish htype hset ?_
    rw [htlv, harg]
    have htables := h.tables ets
    refine h.write (by decide) ⟨?_, ?_, ?_⟩
    · have hup := htables.up2tc
      unfold readUp2tc Config.getString at hup ⊢
      rwa [put_ne _ _ (arg_ne (by decide))]
    · unfold readTcbw Config.getString
      rw [put_self]
      exact tcbw_kept hkeeps
    · have htsa := htables.tsa
      unfold readTsa Config.getString at htsa ⊢
      rwa [put_ne _ _ (arg_ne (by decide))]

/-- `_set_arg_app` -/
theorem Kept.setApp (h : Kept s.config s.tlvs) (htype : agentType2section cmd.type = .nearestBridge)
    (hkeeps : cmd.delete = true ∨
      match appArgs cmd.value with
      | some (prio, sel, pid) => appOfArgs prio sel pid ∉ s.tlvs.appHead.map (·.app)
      | none => True)
    (hset : setArgApp false capable cmd s = (.success, s')) : Kept s'.config s'.tlvs := by
  unfold setArgApp at hset
  cases htlv : cmd.tlvid <;> rw [htlv] at hset
  case app =>
    dsimp only at hset
    cases hargs : appArgs cmd.value with
    | none =>
      rw [hargs] at hset
      cases hset
    | some args =>
      obtain ⟨prio, sel, pid⟩ := args
      rw [hargs] at hset hkeeps
      dsimp only at hset hkeeps
      by_cases hvalid : (!validApp prio sel pid) = true
      · rw [if_pos hvalid] at hset
        cases hset
      · rw [if_neg hvalid, if_neg (by decide), htype] at hset
        have hunique := h.apps.unique
        have hchanged : ∀ {config : Config} {tlvs : QazTlvs}, Kept config tlvs →
            Kept config (if cmd.type = 0 then tlvs.somethingChangedLocal else tlvs) := by
          intro config tlvs hkept
          split_ifs
          · exact hkept.changed
          · exact hkept
        have hrest : ∀ tlvs : QazTlvs, (appSethw tlvs).ets = tlvs.ets ∧
            (appSethw tlvs).pfc = tlvs.pfc := by
          intro tlvs
          unfold appSethw
          split_ifs <;> exact ⟨rfl, rfl⟩
        cases hdelete : cmd.delete with
        | true =>
          -- The entry leaves the file and the table.
          rw [hdelete] at hset
          obtain ⟨hother, happ⟩ := scanApps_delete (appString (appOfArgs prio sel pid))
            (List.range maxAppEntries) none s.config
          have hmod := uniqueKeys_modApp false (appOfArgs prio sel pid) true hunique
          cases hscan : scanApps true (appString (appOfArgs prio sel pid)) .nearestBridge
              (List.range maxAppEntries) none s.config with
          | mk unused config =>
            rw [hscan] at hset hother happ
            cases unused with
            | none => cases hset
            | some u =>
              cases hset
              refine hchanged (h.withApps hother (hrest _).1 (hrest _).2 ?_)
              refine h.apps.delete happ
                (localApps_appSethw hmod (appOfArgs prio sel pid)).1 fun j => ?_
              rw [(localApps_appSethw hmod j).2]
              exact localApps_delete hunique _ j
        | false =>
          rw [hdelete] at hset hkeeps
          have hnew := hkeeps.resolve_left (by decide)
          have hmod := uniqueKeys_modApp false (appOfArgs prio sel pid) false hunique
          cases hscan : scanApps false (appString (appOfArgs prio sel pid)) .nearestBridge
              (List.range maxAppEntries) none s.config with
          | mk unused config =>
            rw [hscan] at hset
            cases unused with
            | none => cases hset
            | some u =>
              obtain ⟨rfl, hfree⟩ := scanApps_add _ _ hscan
              obtain ⟨hmem, hfree⟩ := hfree.resolve_left nofun
              cases hset
              have hlocal : appOfArgs prio sel pid ∉ localApps s.tlvs.appHead := by
                intro hlocal
                obtain ⟨np, hnp, -⟩ := (mem_localApps hunique _).mp hlocal
                exact hnew (exists_rowOf.mp ⟨np, hnp⟩)
              refine hchanged (h.withApps (fun path hpath => put_ne s.config _ fun hsame =>
                hpath (hsame ▸ rfl)) (hrest _).1 (hrest _).2 ?_)
              refine h.apps.add (List.mem_range.mp hmem) hfree hlocal
                (localApps_appSethw hmod (appOfArgs prio sel pid)).1 fun j => ?_
              rw [(localApps_appSethw hmod j).2]
              exact localApps_add hunique hnew j
  all_goals cases hset

theorem Kept.setPfc {f : PfcObj → PfcObj}
    {n : Int} (h : Kept s.config s.tlvs) (htype : agentType2section cmd.type = .nearestBridge)
    (htlv : cmd.tlvid = .pfc)
    (hset : Qaz.finish false capable s cmd (s.tlvs.setLocalPfc f) (.int n) = (.success, s'))
    (hf : { f s.tlvs.pfc.localPfc with pfcCap := 0 } =
      { s.tlvs.pfc.localPfc with
        willing := if cmd.arg = .willing then n != 0 else s.tlvs.pfc.localPfc.willing
        pfcEnable := if cmd.arg = .enabled then u8 n else s.tlvs.pfc.localPfc.pfcEnable
        delay := if cmd.arg = .delay then u32 n else s.tlvs.pfc.localPfc.delay
        pfcCap := 0 }) : Kept s'.config s'.tlvs := by
  refine Kept.finish htype hset ?_
  rw [htlv]
  refine h.writePfc ?_
  rw [readPfc_put, hf]
  have hpfc := h.pfc
  simp only [PfcObj.mk.injEq, true_and] at hpfc
  obtain ⟨hwilling, hmbc, henable, hdelay⟩ := hpfc
  dsimp only
  rw [hwilling, henable, hdelay, hmbc]

/-- An accepted command that keeps what earlier ones said -/
theorem Kept.step (h : Kept s.config s.tlvs) (hkeeps : KeepsSettings s cmd)
    (hset : setTlv capable cmd s = .ok (.success, s')) : Kept s'.config s'.tlvs := by
  have hset := handleArg_of_accepted hset
  obtain ⟨htype, hkeeps⟩ := hkeeps
  unfold handleArg at hset
  -- One case for each argument, and within it one for each TLV that has it.
  cases harg : cmd.arg <;> rw [harg] at hset hkeeps
  case willing =>
    have hset := Except.ok.inj hset
    unfold setArgWilling at hset
    cases hwilling : willingOfArg cmd.value with
    | none =>
      rw [hwilling] at hset
      cases hset
    | some n =>
      rw [hwilling] at hset
      cases htlv : cmd.tlvid <;> rw [htlv] at hset
      case etscfg =>
        refine Kept.finish htype hset ?_
        rw [htlv, harg]
        exact h.writeWilling n
      case pfc => exact h.setPfc htype htlv hset (by rw [harg]; rfl)
      all_goals cases hset
  case up2tc =>
    unfold setArgUp2tc at hset
    cases htlv : cmd.tlvid <;> rw [htlv] at hset hkeeps
    case etscfg => exact h.setUp2tc .cfgl htype htlv harg hkeeps hset
    case etsrec => exact h.setUp2tc .recl htype htlv harg hkeeps hset
    all_goals cases hset
  case tcbw =>
    have hset := Except.ok.inj hset
    unfold setArgTcbw at hset
    cases htlv : cmd.tlvid <;> rw [htlv] at hset hkeeps
    case etscfg => exact h.setTcbw .cfgl htype htlv harg hkeeps hset
    case etsrec => exact h.setTcbw .recl htype htlv harg hkeeps hset
    all_goals cases hset
  case tsa =>
    unfold setArgTsa at hset
    cases htlv : cmd.tlvid <;> rw [htlv] at hset hkeeps
    case etscfg => exact h.setTsa .cfgl htype htlv harg hkeeps hset
    case etsrec => exact h.setTsa .recl htype htlv harg hkeeps hset
    all_goals cases hset
  case enabled =>
    have hset := Except.ok.inj hset
    unfold setArgEnabled at hset
    cases htlv : cmd.tlvid <;> rw [htlv] at hset
    case pfc =>
      dsimp only at hset
      split at hset
      · cases hset
      · exact h.setPfc htype htlv hset (by rw [harg]; rfl)
    all_goals cases hset
  case delay =>
    have hset := Except.ok.inj hset
    unfold setArgDelay at hset
    cases htlv : cmd.tlvid <;> rw [htlv] at hset
    case pfc => exact h.setPfc htype htlv hset (by rw [harg]; rfl)
    all_goals cases hset
  case app =>
    refine h.setApp htype ?_ (Except.ok.inj hset)
    cases cmd.tlvid <;> exact hkeeps

/-- The command of an event is accepted, and keeps what earlier ones said. -/
def AcceptedKeeps (s : QazStore) (e : Bool × SetCmd) : Prop :=
  Accepted s e ∧ KeepsSettings s e.2

instance (prioMap : UInt32) (entries : List (Nat × UInt8)) :
    Decidable (Up2tcKeeps prioMap entries) :=
  -- the classes of the list are tried, not all bytes
  have (p : Nat) (last : UInt8) : Decidable (∀ c ∈ classesOf entries p, c ||| last = last) :=
    List.decidableBAll _ _
  have (p : Nat) : Decidable (∀ last ∈ (classesOf entries p).getLast?,
      ∀ c ∈ classesOf entries p, c ||| last = last) := Option.decidableForallMem _
  inferInstanceAs (Decidable (_ ∧ _))

instance (tsaMap : Bytes) (toks : List Token) : Decidable (TsaKeeps tsaMap toks) := by
  unfold TsaKeeps
  infer_instance

instance (s : QazStore) (cmd : SetCmd) : Decidable (KeepsSettings s cmd) := by
  unfold KeepsSettings
  split
  all_goals first | infer_instance | (split <;> infer_instance)

instance (s : QazStore) (e : Bool × SetCmd) : Decidable (AcceptedKeeps s e) := by
  unfold AcceptedKeeps
  infer_instance

/-- The settings survive every run of accepted commands that keep what earlier ones said. -/
theorem survives_of_reachableWhere {s : QazStore}
    (h : storeSystem.ReachableWhere AcceptedKeeps s) : Survives s := by
  refine Kept.survives (h.invariant (I := fun s => Kept s.config s.tlvs) (fun s hs => ?_)
    fun s e s' hs he hstep => ?_)
  · obtain ⟨hw, hu, hsurvives⟩ := hs
    exact hsurvives.kept hw hu
  · obtain ⟨hacc, hkeeps⟩ := he
    obtain ⟨capable, cmd⟩ := e
    unfold Accepted at hacc
    change (setTlv capable cmd s).map (·.2) = .ok s' at hstep
    cases hset : setTlv capable cmd s with
    | error f =>
      rw [hset] at hstep
      cases hstep
    | ok result =>
      obtain ⟨rc, s₁⟩ := result
      rw [hset] at hacc hstep
      cases hacc
      cases hstep
      exact hs.step hkeeps hset

/-! ### A store that was set up, and one that loses a list -/

/-- A port without settings that came up -/
def bareStore : QazStore :=
  { config := fun _ _ => none
    tlvs := { freshTlvs [2, 0, 0, 0, 0, 1] with
      pending := false
      ets := { cfgl := { willing := true, maxTcs := 8 } }
      pfc := { localPfc := { willing := true, pfcCap := 8 } } } }

theorem bareStore_init : storeSystem.init bareStore := by
  have hw : Written bareStore.config := fun _ _ _ hv => by cases hv
  have hslot : ∀ i, slotApp bareStore.config i = none := fun _ => rfl
  refine ⟨hw, List.nodup_nil, ⟨?_, fun app => ?_, fun i _ j _ hne => absurd (hslot i) hne⟩⟩
  · exact ⟨_, rfl, ⟨rfl, rfl, rfl⟩, fun _ => Iff.rfl⟩
  · constructor
    · rintro ⟨i, -, h⟩
      rw [hslot] at h
      cases h
    · exact nofun

/-- A set of ETS-CFG up2tc -/
def setMap (value : String) : Bool × SetCmd :=
  (true, { tlvid := .etscfg, arg := .up2tc, value := value.toList })

/-- A run of commands that keep what earlier ones said, on every setting -/
theorem survives_bareStore : ∃ s, storeSystem.ReachableWhere AcceptedKeeps s ∧ Survives s ∧
    s.tlvs.ets.cfgl.prioMap = 0x01234567 ∧ localApps s.tlvs.appHead = [⟨2, 4, 3260⟩] := by
  have hrun : (storeSystem.checkedRun (fun s e => decide (AcceptedKeeps s e)) bareStore
      [setMap "0:1", setMap "0:0,1:1,2:2,3:3,4:4,5:5,6:6,7:7",
        (true, { tlvid := .etscfg, arg := .tsa, value := "0:ets,1:strict".toList }),
        (true, { tlvid := .etsrec, arg := .tcbw, value := "50,50".toList }),
        (true, { tlvid := .pfc, arg := .enabled, value := "3,4".toList }),
        (true, { tlvid := .app, arg := .app, value := "3,1,0x8906".toList }),
        (true, { tlvid := .app, arg := .app, value := "4,2,3260".toList }),
        (true, { tlvid := .app, delete := true, arg := .app, value := "3,1,35078".toList })]
      ).toOption.any (fun s => decide (s.tlvs.ets.cfgl.prioMap = 0x01234567 ∧
        localApps s.tlvs.appHead = [⟨2, 4, 3260⟩])) = true := by
    decide +kernel
  obtain ⟨s, hwhere, hs⟩ := System.exists_runWhere storeSystem
    (fun s e => decide (AcceptedKeeps s e)) (fun _ _ => of_decide_eq_true) bareStore _ _ hrun
  have hreach : storeSystem.ReachableWhere AcceptedKeeps s := ⟨bareStore, _, bareStore_init, hwhere⟩
  exact ⟨s, hreach, survives_of_reachableWhere hreach, of_decide_eq_true hs⟩

/-- Two lists for two priorities: the file keeps the second one only. -/
theorem not_survives : ¬∀ s, storeSystem.ReachableWhere Accepted s → Survives s := by
  intro hall
  have hrun : (storeSystem.checkedRun (fun s e => decide (Accepted s e)) bareStore
      [setMap "0:1", setMap "1:2"]).toOption.any (fun s =>
        match readCfgFile s.config .nearestBridge (freshTlvs s.tlvs.localMac) with
        | .ok t => decide (t.ets.cfgl.prioMap ≠ s.tlvs.ets.cfgl.prioMap)
        | .error _ => false) = true := by
    decide +kernel
  obtain ⟨s, hwhere, hs⟩ := System.exists_runWhere storeSystem
    (fun s e => decide (Accepted s e)) (fun _ _ => of_decide_eq_true) bareStore _ _ hrun
  obtain ⟨⟨t, hread, hsame, -⟩, -⟩ := hall s ⟨bareStore, _, bareStore_init, hwhere⟩
  rw [hread] at hs
  have hmap := hsame.cfgl
  simp only [EtscfgObj.mk.injEq] at hmap
  exact of_decide_eq_true hs hmap.2.2.2.1

end Lldpad.Qaz
