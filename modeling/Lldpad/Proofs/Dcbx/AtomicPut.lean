import Lldpad.Proofs.Dcbx.Station
import Mathlib.Order.Fin.Basic

/-!
# `Lldpad.Proofs.Dcbx.AtomicPut`: setters that fail

`put_pg`, `put_pfc` and `put_llink` ask for everything that can fail before they write a store.
`put_app` writes `Enable` and `Willing` of the siblings of its subtype between its calls of
`set_persistent`. `attempted` are the siblings that it has written when one of the calls fails.
-/

namespace Lldpad.Dcbx

open Lldpad.Lib

variable {persist : Persist} {new : FeatureProtocolAttribs} {d : Device}

/-! ### The loop over the siblings -/

/-- The siblings that the loop of `put_app` writes: up to the first one that persistent storage
refuses. -/
def attempted (persist : Persist) : List (Fin 3) → List (Fin 3)
  | [] => []
  | i :: is => i :: if persist (appFeature i) then attempted persist is else []

theorem mem_of_mem_attempted {is : List (Fin 3)} {j : Fin 3} (h : j ∈ attempted persist is) :
    j ∈ is := by
  induction is with
  | nil => exact h
  | cons i is ih =>
    rcases List.mem_cons.mp h with rfl | h
    · exact List.mem_cons_self ..
    · split at h
      · exact List.mem_cons_of_mem _ (ih h)
      · cases h

variable (persist new) in
theorem putSiblings_ok (is : List (Fin 3)) (d : Device) :
    (putSiblings persist new is d).2 = is.all fun j => persist (appFeature j) := by
  induction is generalizing d with
  | nil => rfl
  | cons i is ih =>
    rw [putSiblings, List.all_cons]
    split
    · rename_i hi
      rw [ih, hi, Bool.true_and]
    · rename_i hi
      rw [Bool.eq_false_iff.mpr hi, Bool.false_and]

variable (persist new) in
theorem putSiblings_app {is : List (Fin 3)} (hnd : is.Nodup) (d : Device) (j : Fin 3) :
    (putSiblings persist new is d).1.app j =
      if j ∈ attempted persist is then (d.app j).putSibling new else d.app j := by
  induction is generalizing d with
  | nil => rfl
  | cons i is ih =>
    obtain ⟨hi, hnd⟩ := List.nodup_cons.mp hnd
    rw [putSiblings, attempted]
    split
    · -- The rest of the loop leaves this one alone.
      rw [ih hnd, app_setApp]
      by_cases hj : j = i
      · cases hj
        rw [if_neg fun h => hi (mem_of_mem_attempted h), if_pos rfl,
          if_pos (List.mem_cons_self ..)]
      · rw [if_neg hj]
        simp only [List.mem_cons, hj, false_or]
    · rw [app_setApp]
      simp only [List.mem_cons, List.not_mem_nil, or_false]
      by_cases hj : j = i
      · rw [if_pos hj, if_pos hj, hj]
      · rw [if_neg hj, if_neg hj]

variable (persist new) in
theorem putSiblings_others (is : List (Fin 3)) (d : Device) :
    (putSiblings persist new is d).1.pg = d.pg ∧ (putSiblings persist new is d).1.pfc = d.pfc ∧
      (putSiblings persist new is d).1.llink = d.llink := by
  induction is generalizing d with
  | nil => exact ⟨rfl, rfl, rfl⟩
  | cons i is ih =>
    have hset : ∀ v : Stores AppConfig, (d.setApp v i).pg = d.pg ∧ (d.setApp v i).pfc = d.pfc ∧
        (d.setApp v i).llink = d.llink := by
      intro v
      match i with
      | 0 | 1 | 2 => exact ⟨rfl, rfl, rfl⟩
    rw [putSiblings]
    split
    · obtain ⟨hpg, hpfc, hllink⟩ := ih (d.setApp ((d.app i).putSibling new) i)
      exact ⟨hpg.trans (hset _).1, hpfc.trans (hset _).2.1, hllink.trans (hset _).2.2⟩
    · exact hset _

variable (persist new) in
theorem saveSiblings_app {is : List (Fin 3)} (hnd : is.Nodup) (d : Device)
    (file : FullDcbAttribs) (j : Fin 3) :
    (saveSiblings persist new is d file).app j =
      if j ∈ attempted persist is ∧ persist (appFeature j) = true then
        savedApp ((d.app j).putSibling new).loc
      else file.app j := by
  induction is generalizing d file with
  | nil => rw [if_neg fun h => by cases h.1]; rfl
  | cons i is ih =>
    obtain ⟨hi, hnd⟩ := List.nodup_cons.mp hnd
    rw [saveSiblings, attempted]
    split
    · rename_i hp
      rw [ih hnd, app_setApp]
      show (if _ then _ else Function.update file.app i _ j) = _
      by_cases hj : j = i
      · cases hj
        rw [if_neg fun h => hi (mem_of_mem_attempted h.1), Function.update_self,
          if_pos ⟨List.mem_cons_self .., hp⟩]
      · rw [Function.update_of_ne hj, if_neg hj]
        simp only [List.mem_cons, hj, false_or]
    · rename_i hp
      rw [if_neg]
      rintro ⟨hj, hpj⟩
      rw [List.mem_singleton.mp hj] at hpj
      exact hp hpj

theorem saveSiblings_others (is : List (Fin 3)) (d : Device) (file : FullDcbAttribs) :
    saveSiblings persist new is d file =
      { file with app := (saveSiblings persist new is d file).app } := by
  induction is generalizing d file with
  | nil => rfl
  | cons i is ih =>
    rw [saveSiblings]
    split
    · exact ih ..
    · rfl

/-! ### Setters that fail -/

/-- `put_app` fails at a sibling. -/
structure FailsAtSibling (persist : Persist) (d : Device) (i : Fin 3) (data : Attribs AppConfig) :
    Prop where
  changes : sameApp (d.app i).loc data = false
  own : persist (appFeature i) = true
  sibling : (siblings i).all (fun j => persist (appFeature j)) = false

theorem writeApp_failsAtSibling {i : Fin 3} {data : Attribs AppConfig}
    (h : FailsAtSibling persist d i data) :
    writeApp persist i.val data d =
      { dev := (putSiblings persist data.protocol (siblings i) d).1
        status := .deviceNotFound } := by
  have hok := putSiblings_ok persist data.protocol (siblings i) d
  rw [h.sibling] at hok
  unfold writeApp
  rw [dif_pos i.isLt]
  dsimp only
  rw [if_neg (by rw [h.changes]; decide), if_neg (by rw [h.own]; decide), hok]
  rfl

/-- A setter that fails writes nothing, or it is `put_app` and fails at a sibling. -/
theorem write_failed {p : Put} {w : Write} (h : p.write persist d = .ok w)
    (hst : w.status ≠ .success) :
    w = { dev := d, status := w.status } ∧ (∀ file, p.fileAfterFailure persist d file = file) ∨
      ∃ (i : Fin 3) (data : Attribs AppConfig), p = .app i.val data ∧
        FailsAtSibling persist d i data := by
  cases p with
  | pg data pfcData =>
    have h : writePg persist data pfcData d = .ok w := h
    unfold writePg at h
    split at h
    · cases h
      exact absurd rfl hst
    obtain ⟨⟨config, status⟩, -, h⟩ := bind_eq_ok.mp h
    dsimp only at h
    split at h
    · cases h
      exact .inl ⟨rfl, fun _ => rfl⟩
    split at h
    · cases h
      exact .inl ⟨rfl, fun _ => rfl⟩
    · cases h
      exact absurd rfl hst
  | pfc data =>
    cases h
    revert hst
    unfold writePfc
    split
    · exact fun hst => absurd rfl hst
    split
    · exact fun _ => .inl ⟨rfl, fun _ => rfl⟩
    · exact fun hst => absurd rfl hst
  | app subtype data =>
    have hw : writeApp persist subtype data d = w := Except.ok.inj h
    rw [← hw] at hst ⊢
    by_cases hi : subtype < 3
    · by_cases hfails : FailsAtSibling persist d ⟨subtype, hi⟩ data
      · exact .inr ⟨⟨subtype, hi⟩, data, rfl, hfails⟩
      refine .inl ?_
      revert hst
      unfold writeApp
      rw [dif_pos hi]
      dsimp only
      split
      · exact fun hst => absurd rfl hst
      rename_i hchanges
      split
      · rename_i hown
        refine fun _ => ⟨rfl, fun file => ?_⟩
        rw [Put.fileAfterFailure, dif_pos hi]
        exact if_neg (by simpa using hown)
      rename_i hown
      split
      · -- It fails at a sibling after all.
        rename_i hok
        rw [putSiblings_ok] at hok
        exact absurd ⟨by simpa using hchanges, by simpa using hown, by simpa using hok⟩ hfails
      · exact fun hst => absurd rfl hst
    · refine .inl ⟨?_, fun file => ?_⟩
      · unfold writeApp
        rw [dif_neg hi]
      · rw [Put.fileAfterFailure, dif_neg hi]
  | llink subtype data =>
    cases h
    revert hst
    unfold writeLlink
    split
    · split
      · exact fun hst => absurd rfl hst
      split
      · exact fun _ => .inl ⟨rfl, fun _ => rfl⟩
      · exact fun hst => absurd rfl hst
    · exact fun _ => .inl ⟨rfl, fun _ => rfl⟩

/-! ### The stores and the file -/

/-- The local stores are as they were, and a file that had them still has them. -/
structure KeptOnFailure (persist : Persist) (d : Device) (p : Put) (d' : Device) : Prop where
  stores : ∀ f, (d'.get f).loc = (d.get f).loc
  file : p.fileAfterFailure persist d (written d) = written d'

/-- A setter that fails leaves everything as it was. -/
def Atomic (drv : Driver) (persist : Persist) (d : Device) (p : Put) : Prop :=
  ∀ d' st, put drv persist p d = .ok (d', st) → st ≠ .success → KeptOnFailure persist d p d'

/-- Where a failure does no harm: `put_app` does not get as far as a sibling that it changes, and
what it has written of its own to the file was there before. -/
def SafeToFail (persist : Persist) (d : Device) : Put → Prop
  | .app subtype data => ∀ h : subtype < 3, FailsAtSibling persist d ⟨subtype, h⟩ data →
      savedApp data = savedApp (d.app ⟨subtype, h⟩).loc ∧
        ∀ j ∈ attempted persist (siblings ⟨subtype, h⟩),
          (d.app j).feat.enable = data.protocol.enable ∧
            (d.app j).feat.willing = data.protocol.willing
  | _ => True

theorem putSibling_eq_self_iff (v : Stores AppConfig) (new : FeatureProtocolAttribs) :
    (v.putSibling new).loc = v.loc ↔
      v.feat.enable = new.enable ∧ v.feat.willing = new.willing := by
  constructor
  · intro h
    exact ⟨(congrArg (·.protocol.enable) h).symm, (congrArg (·.protocol.willing) h).symm⟩
  · rintro ⟨he, hw⟩
    show ({ v.loc with protocol := { v.feat with enable := new.enable, willing := new.willing } } :
      Attribs AppConfig) = v.loc
    rw [← he, ← hw]

theorem siblings_nodup (i : Fin 3) : (siblings i).Nodup := by
  match i with
  | 0 | 1 | 2 => decide

theorem not_mem_siblings (i : Fin 3) : i ∉ siblings i := by
  match i with
  | 0 | 1 | 2 => decide

theorem stores_kept_iff {d d' : Device}
    (hothers : d'.pg = d.pg ∧ d'.pfc = d.pfc ∧ d'.llink = d.llink) :
    (∀ f, (d'.get f).loc = (d.get f).loc) ↔ ∀ j, (d'.app j).loc = (d.app j).loc := by
  obtain ⟨hpg, hpfc, hllink⟩ := hothers
  constructor
  · intro h j
    match j with
    | 0 => exact h .appFcoe
    | 1 => exact h .appIscsi
    | 2 => exact h .appFip
  · intro h f
    cases f with
    | pg => exact congrArg (·.loc) hpg
    | pfc => exact congrArg (·.loc) hpfc
    | appFcoe => exact h 0
    | appIscsi => exact h 1
    | appFip => exact h 2
    | llink => exact congrArg (·.loc) hllink

theorem written_of_others {d d' : Device}
    (hothers : d'.pg = d.pg ∧ d'.pfc = d.pfc ∧ d'.llink = d.llink) :
    written d' = { written d with app := fun j => savedApp (d'.app j).loc } := by
  obtain ⟨hpg, hpfc, hllink⟩ := hothers
  unfold written
  rw [hpg, hpfc, hllink]

/-- A failure of `put_app` at a sibling -/
theorem keptOnFailure_iff {i : Fin 3} {data : Attribs AppConfig}
    (h : FailsAtSibling persist d i data) :
    KeptOnFailure persist d (.app i.val data)
        (putSiblings persist data.protocol (siblings i) d).1 ↔
      savedApp data = savedApp (d.app i).loc ∧
        ∀ j ∈ attempted persist (siblings i), (d.app j).feat.enable = data.protocol.enable ∧
          (d.app j).feat.willing = data.protocol.willing := by
  have hfile : (Put.app i.val data).fileAfterFailure persist d (written d) =
      saveSiblings persist data.protocol (siblings i) d ((written d).setApp i data) := by
    rw [Put.fileAfterFailure, dif_pos i.isLt]
    exact if_pos h.own
  have hothers := putSiblings_others persist data.protocol (siblings i) d
  have happ := putSiblings_app persist data.protocol (siblings_nodup i) d
  have hsaved := saveSiblings_app persist data.protocol (siblings_nodup i) d
    ((written d).setApp i data)
  constructor
  · rintro ⟨hstores, hwritten⟩
    rw [stores_kept_iff hothers] at hstores
    rw [hfile] at hwritten
    constructor
    · -- Its own entry is the first that was written.
      have hown := congrFun (congrArg FullDcbAttribs.app hwritten) i
      rw [hsaved, if_neg fun hi => not_mem_siblings i (mem_of_mem_attempted hi.1)] at hown
      change Function.update (written d).app i (savedApp data) i = savedApp _ at hown
      rwa [Function.update_self, hstores i] at hown
    · intro j hj
      have hj' := hstores j
      rw [happ, if_pos hj] at hj'
      exact (putSibling_eq_self_iff _ _).mp hj'
  · rintro ⟨hown, hsame⟩
    have hstores : ∀ j, ((putSiblings persist data.protocol (siblings i) d).1.app j).loc =
        (d.app j).loc := by
      intro j
      rw [happ]
      split
      · rename_i hj
        exact (putSibling_eq_self_iff _ _).mpr (hsame j hj)
      · rfl
    refine ⟨(stores_kept_iff hothers).mpr hstores, ?_⟩
    rw [hfile, saveSiblings_others, written_of_others hothers]
    congr 1
    funext j
    rw [hsaved, hstores j]
    split
    · rename_i hj
      rw [(putSibling_eq_self_iff _ _).mpr (hsame j hj.1)]
    · show Function.update (written d).app i (savedApp data) j = _
      by_cases hj : j = i
      · rw [hj, Function.update_self, hown]
      · rw [Function.update_of_ne hj]
        rfl

/-- A setter that fails leaves the stores and the file as they were exactly where it is safe to
fail. -/
theorem put_atomic_iff (drv : Driver) (persist : Persist) (d : Device) (p : Put) :
    Atomic drv persist d p ↔ SafeToFail persist d p := by
  constructor
  · intro hatomic
    cases p with
    | app subtype data =>
      intro hi hfails
      refine (keptOnFailure_iff hfails).mp (hatomic _ .deviceNotFound ?_ (by decide))
      have hw : (Put.app subtype data).write persist d = .ok _ :=
        congrArg Except.ok (writeApp_failsAtSibling hfails)
      unfold put
      rw [hw]
      rfl
    | pg | pfc | llink => exact trivial
  · intro hsafe d' st hput hst
    obtain ⟨w, hw, h⟩ := bind_eq_ok.mp hput
    obtain ⟨dev, hdev, h⟩ := bind_eq_ok.mp h
    cases h
    rcases write_failed hw hst with ⟨hself, hfile⟩ | ⟨i, data, rfl, hfails⟩
    · -- Nothing was written.
      rw [hself] at hdev
      cases hdev
      exact ⟨fun _ => rfl, hfile _⟩
    · have hw' : w = _ := (Except.ok.inj hw).symm.trans (writeApp_failsAtSibling hfails)
      rw [hw'] at hdev
      cases hdev
      exact (keptOnFailure_iff hfails).mpr (hsafe i.isLt hfails)

/-- FCoE becomes willing, and persistent storage refuses iSCSI: iSCSI is willing, too. -/
theorem willing_left_behind :
    ¬ Atomic obedientDriver (fun f => f != .appIscsi) (newStores dcbxSubtype2 plainAttribs {})
      (.app 0 { protocol := { enable := true, willing := true, advertise := true }
                config := { length := 1, appData := [8] } }) := by
  intro h
  have hkept := (h _ _ rfl (by decide)).stores .appIscsi
  exact absurd (congrArg (·.protocol.willing) hkept) (by decide)

end Lldpad.Dcbx
