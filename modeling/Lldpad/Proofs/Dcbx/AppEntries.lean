import Lldpad.Proofs.Dcbx.LocalChange
import Mathlib.Data.List.GetD
import Mathlib.Data.List.Induction

/-!
# `Lldpad.Proofs.Dcbx.AppEntries`: the applications of a CEE peer

`process_dcbx_app_tlv` goes through the entries of the sub-TLV. An entry with a known selector,
protocol and OUI is stored under the application of the last entry that had the three together,
also when its own do not belong together. So such an entry may overwrite the one before it.

The loop is a fold over `appEntriesOf`, and the store of an application is what was written to it
last (`writtenLast`). `apps_classified_iff` says when that is the last entry of the application.
-/

namespace Lldpad.Dcbx

open Lldpad.Lib
open Lldpad.Lldp (Bytes)

/-! ### The entries -/

/-- An entry with a known selector, protocol and OUI: its application, when the selector belongs
to the protocol, and its priority map -/
structure AppEntry where
  app : Option (Fin 3)
  up : UInt8
  deriving DecidableEq

/-- The six bytes of an entry -/
def readEntry (p0 p1 b o1 o2 up : UInt8) : Option AppEntry :=
  if (b &&& 3 ≠ 0 ∧ b &&& 3 ≠ 1) ∨ (∀ i, [p0, p1] ≠ protoId i) ∨
      (b &&& 0xfc ≠ 0 ∨ o1 ≠ 0x1b ∨ o2 ≠ 0x21) then none
  else some { app := entrySubtype (b &&& 3) [p0, p1], up := up }

/-- The entries of a CEE application sub-TLV behind its header -/
def appEntriesOf : Bytes → List AppEntry
  | p0 :: p1 :: b :: o1 :: o2 :: up :: rest =>
    (readEntry p0 p1 b o1 o2 up).toList ++ appEntriesOf rest
  | _ => []

/-- The last entry of an application -/
def lastEntry (i : Fin 3) (es : List AppEntry) : Option AppEntry :=
  (es.filter (·.app = some i)).getLast?

/-- What the store of the peer gets for an entry -/
def entryApp (protocol : FeatureProtocolAttribs) (up : UInt8) : Attribs AppConfig :=
  { protocol := { protocol with tlvPresent := true }, config := { length := 1, appData := [up] } }

/-- The protocol variables of the entries -/
def appProtocol (rx : RxInfo) (info : Bytes) : FeatureProtocolAttribs :=
  { headerProtocol info with dcbxSt := rx.dcbxSt, errorFlag := dupBits rx dupDcbxTlvApp }

/-- What a store of the peer took over from a TLV: the protocol variables, and the data -/
def taken (a : Attribs AppConfig) : FeatureProtocolAttribs × Bytes :=
  (FeatureProtocolAttribs.takePeer {} a.protocol, takeBytes a.config.length a.config.appData)

/-! ### One pass -/

/-- One entry in the loop -/
def entryStep (protocol : FeatureProtocolAttribs) (s : AppLoop) (e : AppEntry) : AppLoop :=
  let s : AppLoop :=
    match e.app with
    | some i => { s with subtype := i.val, found := i.val :: s.found }
    | none => s
  { s with dev := putPeerApp s.subtype (entryApp protocol e.up) s.dev }

theorem readAppEntries_eq (protocol : FeatureProtocolAttribs) (info : Bytes) (s : AppLoop) :
    readAppEntries protocol info s = (appEntriesOf info).foldl (entryStep protocol) s := by
  induction info, s using readAppEntries.induct protocol with
  | case1 p0 p1 b o1 o2 up rest s sel hskip ih =>
    have hnone : readEntry p0 p1 b o1 o2 up = none := if_pos hskip
    rw [readAppEntries, if_pos hskip, appEntriesOf, hnone]
    exact ih
  | case2 p0 p1 b o1 o2 up rest s sel hskip s' ih =>
    have hsome : readEntry p0 p1 b o1 o2 up =
        some { app := entrySubtype (b &&& 3) [p0, p1], up := up } := if_neg hskip
    rw [readAppEntries, if_neg hskip, appEntriesOf, hsome]
    exact ih
  | case3 s info hshort =>
    rw [readAppEntries, appEntriesOf]
    · rfl
    · exact hshort
    · exact hshort

theorem takeBytes_eq_map (n : Nat) (data : Bytes) :
    takeBytes n data = (List.range n).map fun k => data.getD k 0 := by
  unfold takeBytes
  refine List.ext_getElem (by simp; omega) fun k hk hk' => ?_
  rw [List.getElem_map, List.getElem_range]
  rcases Nat.lt_or_ge k data.length with hlt | hge
  · have hn : k < n := by simpa using hk'
    rw [List.getElem_append_left (by rw [List.length_take]; omega), List.getElem_take,
      List.getD_eq_getElem _ _ hlt]
  · rw [List.getElem_append_right (by rw [List.length_take]; omega), List.getElem_replicate,
      List.getD_eq_default _ _ hge]

theorem takeBytes_of_same {a b : Bytes} (h : sameBytes a b = true) (n : Nat) :
    takeBytes n a = takeBytes n b := by
  have h := of_decide_eq_true h
  rw [takeBytes_eq_map, takeBytes_eq_map] at h
  rw [takeBytes_eq_map, takeBytes_eq_map]
  refine List.map_congr_left fun k _ => ?_
  by_cases hk : k < max a.length b.length
  · exact List.map_inj_left.mp h k (List.mem_range.mpr hk)
  · rw [List.getD_eq_default _ _ (by omega), List.getD_eq_default _ _ (by omega)]

theorem taken_putPeerApp (i j : Fin 3) (data : Attribs AppConfig) (d : Device) :
    taken ((putPeerApp i data d).app j).peer =
      if j = i then taken data else taken (d.app j).peer := by
  unfold putPeerApp
  rw [dif_pos i.isLt]
  dsimp only
  split
  · rename_i hsame
    split
    · -- The store has the data already.
      rename_i hj
      subst hj
      obtain ⟨hprotocol, hlength, hbytes⟩ := of_decide_eq_true hsame
      unfold taken
      rw [hprotocol, hlength, takeBytes_of_same hbytes]
    · rfl
  · rw [app_setApp]
    split
    · unfold taken Stores.takePeer
      rw [takeBytes_copyBytes]
      rfl
    · rfl

/-! ### The loop -/

/-- What was written to an application last: the entries under the subtype `sub`, which an entry
of a known application changes -/
def writtenLast (i : Fin 3) : List AppEntry → Nat → Option UInt8 → Option UInt8
  | [], _, w => w
  | e :: es, sub, w =>
    let sub := e.app.elim sub (·.val)
    writtenLast i es sub (if sub = i.val then some e.up else w)

theorem foldl_entryStep (protocol : FeatureProtocolAttribs) (i : Fin 3) (es : List AppEntry)
    (s : AppLoop) (w : Option UInt8) (old : Attribs AppConfig) (hsub : s.subtype < 3)
    (hw : taken (s.dev.app i).peer = w.elim (taken old) fun up => taken (entryApp protocol up)) :
    taken (((es.foldl (entryStep protocol) s).dev).app i).peer =
      (writtenLast i es s.subtype w).elim (taken old) fun up => taken (entryApp protocol up) := by
  induction es generalizing s w with
  | nil => exact hw
  | cons e es ih =>
    rw [List.foldl_cons, writtenLast]
    have hstep : (entryStep protocol s e).subtype = e.app.elim s.subtype (·.val) := by
      unfold entryStep
      cases e.app <;> rfl
    have hlt : e.app.elim s.subtype (·.val) < 3 := by
      cases happ : e.app with
      | none => exact hsub
      | some j => exact j.isLt
    have hdev : (entryStep protocol s e).dev = putPeerApp (e.app.elim s.subtype (·.val))
        (entryApp protocol e.up) s.dev := by
      unfold entryStep
      cases e.app <;> rfl
    rw [ih (entryStep protocol s e)
      (if e.app.elim s.subtype (·.val) = i.val then some e.up else w) (hstep ▸ hlt), hstep]
    have hput := taken_putPeerApp ⟨_, hlt⟩ i (entryApp protocol e.up) s.dev
    rw [hdev, hput]
    by_cases hi : e.app.elim s.subtype (·.val) = i.val
    · rw [if_pos (Fin.ext hi.symm), if_pos hi]
      rfl
    · rw [if_neg (fun h => hi (congrArg Fin.val h).symm), if_neg hi, hw]

theorem foldl_entryStep_found (protocol : FeatureProtocolAttribs) (i : Fin 3)
    (es : List AppEntry) (s : AppLoop) :
    i.val ∈ (es.foldl (entryStep protocol) s).found ↔
      (∃ e ∈ es, e.app = some i) ∨ i.val ∈ s.found := by
  induction es generalizing s with
  | nil => simp
  | cons e es ih =>
    rw [List.foldl_cons, ih]
    cases happ : e.app with
    | none => simp [entryStep, happ]
    | some j =>
      have hij : i.val = j.val ↔ j = i := by
        rw [Fin.ext_iff]
        exact eq_comm
      simp only [entryStep, happ, List.mem_cons, hij, exists_eq_or_imp, Option.some.injEq]
      exact or_left_comm.trans (or_assoc.symm)

theorem taken_nullApps (found : List Nat) (d : Device) (j : Fin 3) :
    taken ((nullApps found d).app j).peer =
      if j.val ∈ found then taken (d.app j).peer else taken nullApp := by
  have hpass : ∀ (i : Fin 3) (d : Device),
      taken ((if i.val ∈ found then d else putPeerApp i nullApp d).app j).peer =
        if j = i ∧ j.val ∉ found then taken nullApp else taken (d.app j).peer := by
    intro i d
    by_cases hij : j = i
    · subst hij
      by_cases hfound : j.val ∈ found
      · simp [hfound]
      · simp [hfound, taken_putPeerApp]
    · rw [if_neg (c := j = i ∧ j.val ∉ found) fun h => hij h.1]
      split
      · rfl
      · rw [taken_putPeerApp, if_neg hij]
  have hfold : ∀ (is : List (Fin 3)) (d : Device),
      taken (((is.map Fin.val).foldl
        (fun d i => if i ∈ found then d else putPeerApp i nullApp d) d).app j).peer =
          if j ∈ is ∧ j.val ∉ found then taken nullApp else taken (d.app j).peer := by
    intro is
    induction is with
    | nil => simp
    | cons i is ih =>
      intro d
      rw [List.map_cons, List.foldl_cons, ih, hpass]
      by_cases hfound : j.val ∈ found
      · simp [hfound]
      · by_cases hj : j ∈ is <;> simp [hfound, hj]
  have hrange : List.range dcbMaxApptlv = (List.finRange 3).map Fin.val := by decide
  unfold nullApps
  rw [hrange, hfold]
  simp

/-! ### The last entry of an application -/

/-- The entries behind the last one of an application -/
def behindLast (i : Fin 3) (es : List AppEntry) : List AppEntry :=
  (es.reverse.takeWhile fun e => e.app ≠ some i).reverse

/-- The entries without an application right behind the last one of an application: they are
stored under it, too. -/
def strays (i : Fin 3) (es : List AppEntry) : List AppEntry :=
  (behindLast i es).takeWhile fun e => e.app = none

variable {es : List AppEntry} {e : AppEntry} {i : Fin 3}

theorem exists_lastEntry (h : lastEntry i es = some e) :
    e.app = some i ∧ ∃ pre, es = pre ++ e :: behindLast i es := by
  induction es using List.reverseRecOn with
  | nil => cases h
  | append_singleton es x ih =>
    unfold lastEntry at h
    unfold behindLast
    rw [List.filter_append] at h
    rw [List.reverse_append, List.reverse_singleton, List.singleton_append]
    by_cases hx : x.app = some i
    · -- The last entry of all is one of the application.
      have hfilter : [x].filter (fun e => decide (e.app = some i)) = [x] := by simp [hx]
      rw [hfilter, List.getLast?_append, List.getLast?_singleton] at h
      cases h
      refine ⟨hx, es, ?_⟩
      rw [List.takeWhile_cons_of_neg (by simp [hx])]
      rfl
    · have hfilter : [x].filter (fun e => decide (e.app = some i)) = [] := by simp [hx]
      rw [hfilter, List.append_nil] at h
      obtain ⟨happ, pre, hpre⟩ := ih h
      refine ⟨happ, pre, ?_⟩
      rw [List.takeWhile_cons_of_pos (by simp [hx]), List.reverse_cons]
      calc es ++ [x] = (pre ++ e :: behindLast i es) ++ [x] := congrArg (· ++ [x]) hpre
        _ = pre ++ e :: (behindLast i es ++ [x]) := List.append_assoc ..

theorem writtenLast_of_entry (happ : e.app = some i)
    (pre post : List AppEntry) (sub : Nat) (w : Option UInt8) :
    writtenLast i (pre ++ e :: post) sub w = writtenLast i post i (some e.up) := by
  induction pre generalizing sub w with
  | nil =>
    rw [List.nil_append, writtenLast, happ]
    simp
  | cons x pre ih => exact ih ..

theorem writtenLast_behind {post : List AppEntry}
    (hpost : ∀ e ∈ post, e.app ≠ some i) (sub : Nat) (w : Option UInt8) :
    writtenLast i post sub w =
      if sub = i.val then ((post.takeWhile fun e => e.app = none).getLast?.map (·.up)).or w
      else w := by
  induction post generalizing sub w with
  | nil => simp [writtenLast]
  | cons e post ih =>
    rw [writtenLast, ih fun x hx => hpost x (List.mem_cons_of_mem e hx)]
    cases happ : e.app with
    | none =>
      rw [List.takeWhile_cons_of_pos (by simp [happ])]
      by_cases hsub : sub = i.val
      · simp only [Option.elim_none, hsub, if_true, List.getLast?_cons]
        cases (post.takeWhile fun e => decide (e.app = none)).getLast? <;> rfl
      · simp only [Option.elim_none, hsub, if_false]
    | some j =>
      have hij : ¬ j.val = i.val := fun h =>
        hpost e List.mem_cons_self (happ.trans (congrArg some (Fin.ext h)))
      rw [List.takeWhile_cons_of_neg (by simp [happ])]
      simp [hij]

theorem mem_behindLast (h : e ∈ behindLast i es) : e.app ≠ some i := by
  have hall := List.all_eq_true.mp List.all_takeWhile e (List.mem_reverse.mp h)
  exact of_decide_eq_true hall

theorem writtenLast_eq (h : lastEntry i es = some e) (sub : Nat) (w : Option UInt8) :
    writtenLast i es sub w = some (((strays i es).getLast?.map (·.up)).getD e.up) := by
  obtain ⟨happ, pre, hes⟩ := exists_lastEntry h
  have hwritten : writtenLast i es sub w = writtenLast i (behindLast i es) i (some e.up) :=
    (congrArg (writtenLast i · sub w) hes).trans
      (writtenLast_of_entry happ pre (behindLast i es) sub w)
  rw [hwritten, writtenLast_behind fun x hx => mem_behindLast hx, if_pos rfl]
  show ((strays i es).getLast?.map (·.up)).or (some e.up) = _
  cases (strays i es).getLast? <;> rfl

/-! ### The applications of a frame -/

/-- The applications of the peer after a frame with this sub-TLV: each has its last entry, or is
emptied. A sub-TLV without a header leaves none. -/
def AppsClassified (rx : RxInfo) (m : Manifest) (info : Bytes) (d : Device) : Prop :=
  if 4 ≤ info.length then
    ∀ i, taken ((readApp rx m d).1.app i).peer =
      (lastEntry i (appEntriesOf (info.drop 4))).elim (taken nullApp)
        fun e => taken (entryApp (appProtocol rx info) e.up)
  else ∀ i, ((readApp rx m d).1.app i).peerFeat.tlvPresent = false

/-- The last entry without an application behind the last one of an application has the same
priority map. -/
def Undisturbed (es : List AppEntry) : Prop :=
  ∀ i, ∀ e ∈ lastEntry i es, ∀ x ∈ (strays i es).getLast?, x.up = e.up

instance (es : List AppEntry) : Decidable (Undisturbed es) := Nat.decidableForallFin _

theorem taken_entryApp_inj {p : FeatureProtocolAttribs} {up up' : UInt8} :
    taken (entryApp p up) = taken (entryApp p up') ↔ up = up' := by
  constructor
  · intro h
    exact (List.cons.inj (Prod.mk.inj h).2).1
  · rintro rfl
    rfl

theorem taken_readApp {rx : RxInfo} {m : Manifest} {info : Bytes} (d : Device)
    (hm : m.app = some info) (hcee : rx.dcbxSt = dcbxSubtype2) (hlen : 4 ≤ info.length)
    (i : Fin 3) :
    taken ((readApp rx m d).1.app i).peer =
      (lastEntry i (appEntriesOf (info.drop 4))).elim (taken nullApp) fun e =>
        taken (entryApp (appProtocol rx info)
          (((strays i (appEntriesOf (info.drop 4))).getLast?.map (·.up)).getD e.up)) := by
  have hread : (readApp rx m d).1 =
      nullApps (readAppEntries (appProtocol rx info) (info.drop 4) { dev := d }).found
        (readAppEntries (appProtocol rx info) (info.drop 4) { dev := d }).dev := by
    unfold readApp
    rw [hm]
    dsimp only
    unfold processDcbxAppTlv
    rw [if_neg (by omega), if_pos hcee]
    rfl
  rw [hread, taken_nullApps, readAppEntries_eq]
  generalize appEntriesOf (info.drop 4) = es
  have hfound : i.val ∈ (es.foldl (entryStep (appProtocol rx info)) { dev := d }).found ↔
      ∃ e ∈ es, e.app = some i := by
    rw [foldl_entryStep_found]
    simp
  cases hlast : lastEntry i es with
  | none =>
    have hno : ¬ ∃ e ∈ es, e.app = some i := by
      unfold lastEntry at hlast
      simpa using hlast
    rw [if_neg (mt hfound.mp hno)]
    rfl
  | some e =>
    have hyes : ∃ e ∈ es, e.app = some i := by
      obtain ⟨happ, pre, hes⟩ := exists_lastEntry hlast
      exact ⟨e, by rw [hes]; simp, happ⟩
    rw [if_pos (hfound.mpr hyes), foldl_entryStep (appProtocol rx info) i es { dev := d } none
      (d.app i).peer (Nat.zero_lt_succ 2) rfl, writtenLast_eq hlast]
    rfl

/-- The applications of a frame are those of its entries exactly when no entry without an
application disturbs them. A sub-TLV without a header does no harm exactly when the peer had no
application before. -/
theorem apps_classified_iff (rx : RxInfo) (m : Manifest) (info : Bytes) (d : Device)
    (hm : m.app = some info) (hcee : rx.dcbxSt = dcbxSubtype2) :
    AppsClassified rx m info d ↔
      if 4 ≤ info.length then Undisturbed (appEntriesOf (info.drop 4))
      else ∀ i, (d.app i).peerFeat.tlvPresent = false := by
  unfold AppsClassified
  split
  · rename_i hlen
    constructor
    · intro h i e he x hx
      have hi := h i
      rw [taken_readApp d hm hcee hlen, he, hx] at hi
      exact taken_entryApp_inj.mp hi
    · intro h i
      rw [taken_readApp d hm hcee hlen]
      cases hlast : lastEntry i (appEntriesOf (info.drop 4)) with
      | none => rfl
      | some e =>
        refine taken_entryApp_inj.mpr ?_
        cases hstray : (strays i (appEntriesOf (info.drop 4))).getLast? with
        | none => rfl
        | some x => exact h i e hlast x hstray
  · rename_i hlen
    have hsame : (readApp rx m d).1 = d := by
      unfold readApp
      rw [hm]
      dsimp only
      unfold processDcbxAppTlv
      rw [if_pos (by omega)]
    rw [hsame]

/-- A frame of a CEE peer with this application sub-TLV -/
def appFrame (entries : Bytes) : Manifest := { app := some ([0, 0, bit7, 0] ++ entries) }

/-- FCoE with the priority map 8, and then its protocol ID with the selector of sockets -/
def strayEntries : Bytes :=
  [0x89, 0x06, 0, 0x1b, 0x21, 0x08] ++ [0x89, 0x06, 1, 0x1b, 0x21, 0x10]

/-- The second entry is no application, and is stored as FCoE. -/
theorem stray_stored : ¬ ∀ (rx : RxInfo) (m : Manifest) (info : Bytes) (d : Device),
    m.app = some info → rx.dcbxSt = dcbxSubtype2 → AppsClassified rx m info d := by
  intro h
  have hfcoe := h { dcbxSt := dcbxSubtype2 } (appFrame strayEntries) _ (plainStation 2).dev rfl
    rfl 0
  have hdata := congrArg Prod.snd hfcoe
  revert hdata
  decide +kernel

/-- Two applications, and an entry of another protocol between them -/
def plainEntries : Bytes :=
  [0x89, 0x06, 0, 0x1b, 0x21, 0x08] ++ [0x89, 0x07, 0, 0x1b, 0x21, 0x20] ++
    [0x0c, 0xbc, 1, 0x1b, 0x21, 0x10]

theorem plain_classified :
    AppsClassified { dcbxSt := dcbxSubtype2 } (appFrame plainEntries)
      ([0, 0, bit7, 0] ++ plainEntries) (plainStation 2).dev :=
  (apps_classified_iff _ _ _ _ rfl rfl).mpr (by decide +kernel)

end Lldpad.Dcbx
