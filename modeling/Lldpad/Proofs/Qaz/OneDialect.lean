import Lldpad.Proofs.Qaz.Rx
import Lldpad.Qaz.Dialect

/-!
# `Lldpad.Proofs.Qaz.OneDialect`: at most one DCBX protocol is active

`oneDialect_iff` says for every list of events which of its steps keep the rule that at most one
of the two modules is active, and that an LLDPDU that is rejected switches neither. Two things
break it:

* A TLV of the older protocols that cannot be unpacked is found after the switch
  (`LldpduClean`). The module that gets the TLVs first has switched by then, and the other one
  never sees the end of the LLDPDU.
* When the interface comes up each module decides for itself, from the shared memory and from what
  the kernel answers to it (`IfupClean`).

`Shows.rchange` is the link to the module of 802.1Qaz in full: `qazRchangeCtl` decides about
`active` as `ieee8021qaz_rchange` does. `qazActive_of_run` says when that module gives up while the
interface stays up. The walk over the TLVs comes next. Up to the end of an
LLDPDU nothing is switched (`rxLldpdu_of_not_reaches`, `rxLldpdu_of_reaches`), and what the modules
know then is a fact about the LLDPDU alone (`known_atEnd`).
-/

namespace Lldpad.Qaz.Dialect

open Lldpad.Lib
open Lldpad.Lldp (Bytes Answer)

/-! ### The module of 802.1Qaz in full -/

/-- The TLV of a subtype in `rx` -/
def slot (rx : UnpkdTlvs) (subtype : UInt8) : Option Bytes :=
  if subtype = ieee8021qazEtscfgTlv then rx.etscfg
  else if subtype = ieee8021qazEtsrecTlv then rx.etsrec
  else if subtype = ieee8021qazPfcTlv then rx.pfc
  else if subtype = ieee8021qazAppTlv then rx.app
  else none

/-- What the module keeps, as far as it decides about `active` -/
structure Shows (tlvs : QazTlvs) (q : QazCtl) : Prop where
  active : tlvs.active = q.active
  qazdu : tlvs.qazdu = q.qazdu
  rx : ∀ rx, tlvs.rx = some rx → ∀ subtype, subtype ∈ q.rx ↔ slot rx subtype ≠ none

variable {tlvs tlvs' : QazTlvs} {s : DialectPort}

theorem Shows.kind {q : QazCtl} (h : Shows tlvs q) {rx rx' : UnpkdTlvs}
    (hrx : tlvs.rx = some rx) {subtype : UInt8} {taken : Bool} (hsub : subtype ∈ qazSubtypes)
    (hok : (if slot rx subtype = none then
        (pure ({ tlvs with rx := some rx', qazdu := true }, true) : Except Fault _)
      else pure (tlvs, false)) = .ok (tlvs', taken))
    (hput : slot rx' subtype ≠ none) (hsame : ∀ x, x ≠ subtype → slot rx' x = slot rx x) :
    Shows tlvs' (if subtype ∈ qazSubtypes ∧ subtype ∉ q.rx then
      { q with rx := subtype :: q.rx, qazdu := true } else q) := by
  have hmem := h.rx rx hrx
  by_cases hnone : slot rx subtype = none
  · rw [if_pos hnone] at hok
    cases hok
    rw [if_pos ⟨hsub, fun hin => (hmem subtype).mp hin hnone⟩]
    refine ⟨h.active, rfl, ?_⟩
    intro rx'' hrx'' x
    cases hrx''
    rw [List.mem_cons, hmem]
    by_cases hx : x = subtype
    · subst hx
      exact iff_of_true (.inl rfl) hput
    · rw [hsame x hx]
      exact or_iff_right hx
  · -- A TLV of the kind was there.
    rw [if_neg hnone] at hok
    cases hok
    rw [if_neg (fun hnew => hnew.2 ((hmem subtype).mpr hnone))]
    exact h

theorem Shows.unpack {q : QazCtl} (h : Shows tlvs q) {info : Bytes}
    {taken : Bool} (hok : unpackQazTlvs info tlvs = .ok (tlvs', taken)) :
    Shows tlvs' (unpackQaz info q) := by
  unfold unpackQazTlvs at hok
  cases hrx : tlvs.rx with
  | none =>
    rw [hrx] at hok
    cases hok
  | some rx =>
    rw [hrx] at hok
    obtain ⟨subtype, hread, hok⟩ := bind_eq_ok.mp hok
    have hsub : info.getD 3 0 = subtype := by
      rw [List.getD_eq_getElem?_getD, readAt_eq_ok.mp hread]
      rfl
    unfold unpackQaz
    rw [hsub]
    dsimp only at hok ⊢
    by_cases hcfg : subtype = ieee8021qazEtscfgTlv
    · subst hcfg
      exact h.kind hrx (by decide) hok (Option.some_ne_none info) fun x hx => by
        simp only [slot, if_neg hx]
    · rw [if_neg hcfg] at hok
      by_cases hrec : subtype = ieee8021qazEtsrecTlv
      · subst hrec
        exact h.kind hrx (by decide) hok (Option.some_ne_none info) fun x hx => by
          simp only [slot, if_neg hx]
      · rw [if_neg hrec] at hok
        by_cases hpfc : subtype = ieee8021qazPfcTlv
        · subst hpfc
          exact h.kind hrx (by decide) hok (Option.some_ne_none info) fun x hx => by
            simp only [slot, if_neg hx]
        · rw [if_neg hpfc] at hok
          by_cases happ : subtype = ieee8021qazAppTlv
          · subst happ
            exact h.kind hrx (by decide) hok (Option.some_ne_none info) fun x hx => by
              simp only [slot, if_neg hx]
          · rw [if_neg happ] at hok
            cases hok
            have hother : subtype ∉ qazSubtypes := by
              simp [qazSubtypes, hcfg, hrec, hpfc, happ]
            rw [if_neg (fun hnew => hother hnew.1)]
            exact h

theorem runAllSm_qazdu (tlvs : QazTlvs) : (runAllSm tlvs).qazdu = tlvs.qazdu := by
  have happ : ∀ t : QazTlvs, (appSethw t).qazdu = t.qazdu := by
    intro t
    unfold appSethw
    split_ifs <;> rfl
  rw [runAllSm_eq]
  by_cases hactive : checkActive tlvs
  · rw [if_pos hactive, happ]
  · rw [if_neg hactive]

theorem Shows.lldpduEnd {q : QazCtl} (h : Shows tlvs q) {dcbx : Bool}
    (hok : qazEnd dcbx tlvs = .ok tlvs') : Shows tlvs' (qazEndCtl dcbx q) := by
  unfold qazEnd at hok
  unfold qazEndCtl
  rw [h.active, h.qazdu] at hok
  dsimp only at hok ⊢
  by_cases hleave : (q.active && dcbx && !q.qazdu) = true
  · rw [if_pos hleave] at hok ⊢
    cases hok
    rw [if_neg Bool.false_ne_true]
    exact ⟨rfl, rfl, h.rx⟩
  · rw [if_neg hleave] at hok ⊢
    rw [h.active] at hok
    by_cases hactive : q.active = true
    · rw [if_pos hactive] at hok ⊢
      cases hrx : tlvs.rx with
      | none =>
        rw [hrx] at hok
        cases hok
      | some rx =>
        rw [hrx] at hok
        obtain ⟨mid, hmid, hok⟩ := bind_eq_ok.mp hok
        cases hok
        obtain ⟨cfgr, recr, pfc, appHead, -, -, rfl⟩ := mibUpdateObjects_eq_ok hmid
        refine ⟨?_, ?_, nofun⟩
        · show (runAllSm _).active = q.active
          rw [runAllSm_active]
          split
          · rfl
          · exact h.active
        · show (runAllSm _).qazdu = q.qazdu
          rw [runAllSm_qazdu]
          split
          · exact h.qazdu
          · exact h.qazdu
    · rw [if_neg hactive] at hok ⊢
      cases hok
      exact h

theorem Shows.rchange {q : QazCtl} (h : Shows tlvs q) {mac : Bytes}
    {dcbx : Bool} {tlv : Tlv} {answer : Answer}
    (hok : Qaz.qazRchange mac dcbx tlvs tlv = .ok (tlvs', answer)) :
    Shows tlvs' (qazRchangeCtl dcbx tlv q).1 ∧ answer = (qazRchangeCtl dcbx tlv q).2 := by
  unfold Qaz.qazRchange at hok
  unfold qazRchangeCtl
  by_cases hone : tlv.type = type1
  · rw [if_pos hone] at hok ⊢
    cases hok
    refine ⟨⟨h.active, rfl, ?_⟩, rfl⟩
    intro rx hrx x
    cases hrx
    simp [slot]
  · rw [if_neg hone] at hok ⊢
    by_cases horg : tlv.type = type127
    · rw [if_pos horg] at hok ⊢
      by_cases hlen : tlv.info.length < ouiSubSize
      · rw [if_pos hlen] at hok ⊢
        cases hok
        exact ⟨h, rfl⟩
      · rw [if_neg hlen] at hok ⊢
        by_cases houi : tlv.info.take 3 ≠ ieee8021qazOui
        · rw [if_pos houi] at hok ⊢
          cases hok
          exact ⟨h, rfl⟩
        · rw [if_neg houi] at hok ⊢
          obtain ⟨⟨mid, taken⟩, hmid, hok⟩ := bind_eq_ok.mp hok
          cases hok
          -- The address of the sender is noted first.
          have hnoted : Shows { tlvs with remoteMac := mac } q := ⟨h.active, h.qazdu, h.rx⟩
          exact ⟨hnoted.unpack hmid, rfl⟩
    · rw [if_neg horg] at hok ⊢
      by_cases hend : tlv.type = type0
      · rw [if_pos hend] at hok ⊢
        obtain ⟨mid, hmid, hok⟩ := bind_eq_ok.mp hok
        cases hok
        exact ⟨h.lldpduEnd hmid, rfl⟩
      · rw [if_neg hend] at hok ⊢
        cases hok
        exact ⟨h, rfl⟩

/-! ### What an LLDPDU has -/

/-- The subtype of a TLV of the older protocols -/
def legacySubtype (info : Bytes) : Option UInt8 :=
  if info.take 3 = dcbOui then info[3]?.filter fun subtype => subtype = 1 ∨ subtype = 2 else none

/-- A TLV of 802.1Qaz -/
def isIeee (info : Bytes) : Bool :=
  info.take 3 = ieee8021qazOui ∧ info.getD 3 0 ∈ qazSubtypes

/-- The LLDPDU has a TLV of the older protocols. -/
def Lldpdu.legacy (p : Lldpdu) : Bool := p.tlvs.any fun info => (legacySubtype info).isSome

/-- The LLDPDU has a TLV of 802.1Qaz. -/
def Lldpdu.ieee (p : Lldpdu) : Bool := p.tlvs.any isIeee

/-- The last TLV of one subtype of the older protocols -/
def lastLegacy (subtype : UInt8) (tlvs : List Bytes) : Option Bytes :=
  (tlvs.filter fun info => legacySubtype info = some subtype).getLast?

/-- The TLVs of the older protocols that the daemon looks at can be unpacked. -/
def Lldpdu.unpacks (v : DcbxVersion) (p : Lldpdu) : Bool :=
  (lastLegacy v.st p.tlvs).all fun info => unpackDcbxTlvs info (p.behind info)

/-- The modules see the end of the LLDPDU: no TLV is too short, and no subtype of the older
protocols comes twice. -/
structure DialectPort.Reaches (s : DialectPort) (p : Lldpdu) : Prop where
  ends : p.ends = true
  length : s.dcbx.isSome ∨ s.qaz.isSome → ∀ info ∈ p.tlvs, ouiSubSize ≤ info.length
  single : s.dcbx.isSome → (p.tlvs.filterMap legacySubtype).Nodup

/-! ### One TLV -/

/-- What a TLV leaves in the module of the older protocols -/
def takeLegacy (v : DcbxVersion) (info : Bytes) (d : DcbxTlvs) : DcbxTlvs :=
  match legacySubtype info with
  | none => d
  | some subtype =>
    { d with
      rxedTlvs := true
      dcbx1 := if subtype = 1 ∧ v.st = 1 then some info else d.dcbx1
      dcbx2 := if subtype = 2 ∧ v.st = 2 then some info else d.dcbx2 }

/-- What a TLV leaves in the module of 802.1Qaz -/
def takeIeee (info : Bytes) (q : QazCtl) : QazCtl :=
  if info.take 3 = ieee8021qazOui then unpackQaz info q else q

/-- What a TLV leaves in the marks -/
def DcbxMarks.add (m : DcbxMarks) (info : Bytes) : DcbxMarks :=
  { dcbx1 := m.dcbx1 || legacySubtype info = some 1
    dcbx2 := m.dcbx2 || legacySubtype info = some 2 }

/-- The subtype is marked. -/
def DcbxMarks.Has (m : DcbxMarks) (subtype : UInt8) : Prop :=
  (subtype = 1 ∧ m.dcbx1 = true) ∨ (subtype = 2 ∧ m.dcbx2 = true)

instance (m : DcbxMarks) (subtype : UInt8) : Decidable (m.Has subtype) :=
  inferInstanceAs (Decidable (_ ∨ _))

theorem legacySubtype_eq_some {info : Bytes} {subtype : UInt8} :
    legacySubtype info = some subtype ↔
      info.take 3 = dcbOui ∧ info[3]? = some subtype ∧ (subtype = 1 ∨ subtype = 2) := by
  unfold legacySubtype
  by_cases houi : info.take 3 = dcbOui
  · simp only [houi, if_true, Option.filter_eq_some_iff, decide_eq_true_eq, true_and]
  · simp only [houi, if_false, false_and, reduceCtorEq]

theorem dcbxRchangeTlv_eq (v : DcbxVersion) {info : Bytes} (hlen : ouiSubSize ≤ info.length)
    (m : DcbxMarks) (d : DcbxTlvs) :
    dcbxRchangeTlv v info m d =
      match legacySubtype info with
      | none => (d, m, .subtypeInvalid)
      | some subtype =>
        if m.Has subtype then (d, m, .tlvErr) else (takeLegacy v info d, m.add info, .tlvOk) := by
  unfold dcbxRchangeTlv
  rw [if_neg (by omega)]
  by_cases houi : info.take 3 = dcbOui
  · rw [if_neg (not_not.mpr houi)]
    obtain ⟨subtype, hsub⟩ : ∃ subtype, info[3]? = some subtype :=
      ⟨info[3], List.getElem?_eq_getElem (by unfold ouiSubSize at hlen; omega)⟩
    rw [hsub]
    by_cases htwo : subtype = 2
    · subst htwo
      have hlegacy : legacySubtype info = some 2 :=
        legacySubtype_eq_some.mpr ⟨houi, hsub, .inr rfl⟩
      unfold takeLegacy DcbxMarks.add DcbxMarks.Has
      simp only [hlegacy]
      cases m.dcbx2 <;> simp
    · by_cases hone : subtype = 1
      · subst hone
        have hlegacy : legacySubtype info = some 1 :=
          legacySubtype_eq_some.mpr ⟨houi, hsub, .inl rfl⟩
        unfold takeLegacy DcbxMarks.add DcbxMarks.Has
        simp only [hlegacy]
        cases m.dcbx1 <;> simp
      · have hlegacy : legacySubtype info = none := by
          unfold legacySubtype
          rw [if_pos houi, hsub]
          simp [hone, htwo]
        simp [hlegacy, hone, htwo]
  · have hlegacy : legacySubtype info = none := if_neg houi
    rw [if_pos houi, hlegacy]

/-- What a TLV leaves in the two modules -/
def take (v : DcbxVersion) (info : Bytes) (s : DialectPort) : DialectPort :=
  { s with dcbx := s.dcbx.map (takeLegacy v info), qaz := s.qaz.map (takeIeee info) }

/-- Neither module is switched. -/
structure Unswitched (s s' : DialectPort) : Prop where
  dcbx : s'.dcbxActive = s.dcbxActive
  qaz : s'.qazActive = s.qazActive

theorem Unswitched.trans {s t u : DialectPort} (h : Unswitched s t) (h' : Unswitched t u) :
    Unswitched s u := ⟨h'.dcbx.trans h.dcbx, h'.qaz.trans h.qaz⟩

theorem takeLegacy_active (v : DcbxVersion) (info : Bytes) (d : DcbxTlvs) :
    (takeLegacy v info d).active = d.active := by
  unfold takeLegacy
  split <;> rfl

theorem takeIeee_active (info : Bytes) (q : QazCtl) : (takeIeee info q).active = q.active := by
  unfold takeIeee unpackQaz
  dsimp only
  split_ifs <;> rfl

theorem unswitched_take (v : DcbxVersion) (info : Bytes) (s : DialectPort) :
    Unswitched s (take v info s) := by
  refine ⟨?_, ?_⟩
  · unfold take DialectPort.dcbxActive
    cases s.dcbx with
    | none => rfl
    | some d => exact takeLegacy_active v info d
  · unfold take DialectPort.qazActive
    cases s.qaz with
    | none => rfl
    | some q => exact takeIeee_active info q

/-- The older module rejects a TLV that is too short, and a subtype that came before. -/
def DcbxRefuses (s : DialectPort) (m : DcbxMarks) (info : Bytes) : Prop :=
  s.dcbx.isSome ∧ (info.length < ouiSubSize ∨
    ∃ subtype, legacySubtype info = some subtype ∧ m.Has subtype)

/-- The module of 802.1Qaz rejects a TLV that is too short. -/
def QazRefuses (s : DialectPort) (info : Bytes) : Prop :=
  s.qaz.isSome ∧ info.length < ouiSubSize

/-- The marks after a TLV. Only the older module sets them. -/
def marksAfter (s : DialectPort) (m : DcbxMarks) (info : Bytes) : DcbxMarks :=
  if s.dcbx.isSome then m.add info else m

section Walk

variable (order : Registered) (v : DcbxVersion) (p : Lldpdu) (written : Bool)

variable {info : Bytes} {s : DialectPort} {m : DcbxMarks}

theorem take_of_none (h : legacySubtype info = none) (d : DcbxTlvs) (m : DcbxMarks) :
    takeLegacy v info d = d ∧ m.add info = m := by
  unfold takeLegacy DcbxMarks.add
  simp [h]

theorem dcbxRchange_tlv {d : DcbxTlvs} (h : s.dcbx = some d) (m : DcbxMarks) (info : Bytes) :
    dcbxRchange v p written { type := type127, info := info } m s =
      ({ s with dcbx := some (dcbxRchangeTlv v info m d).1 },
        (dcbxRchangeTlv v info m d).2.1, (dcbxRchangeTlv v info m d).2.2) := by
  unfold dcbxRchange
  rw [h]
  rfl

theorem dcbxRchange_none (h : s.dcbx = none) (m : DcbxMarks) (tlv : Tlv) :
    dcbxRchange v p written tlv m s = (s, m, .subtypeInvalid) := by
  unfold dcbxRchange
  rw [h]

theorem qazRchange_none (h : s.qaz = none) (tlv : Tlv) :
    qazRchange tlv s = (s, .subtypeInvalid) := by
  unfold qazRchange
  rw [h]

theorem qazRchange_some {q : QazCtl} (h : s.qaz = some q) (tlv : Tlv) :
    qazRchange tlv s =
      ({ s with qaz := some (qazRchangeCtl s.dcbxTlvsRxed tlv q).1 },
        (qazRchangeCtl s.dcbxTlvsRxed tlv q).2) := by
  unfold qazRchange
  rw [h]

theorem dcbxRchange_refused (h : DcbxRefuses s m info) :
    dcbxRchange v p written { type := type127, info := info } m s = (s, m, .tlvErr) := by
  obtain ⟨hsome, hbad⟩ := h
  obtain ⟨d, hd⟩ := Option.isSome_iff_exists.mp hsome
  have htlv : dcbxRchangeTlv v info m d = (d, m, .tlvErr) := by
    by_cases hlen : info.length < ouiSubSize
    · unfold dcbxRchangeTlv
      rw [if_pos hlen]
    · obtain ⟨subtype, hsub, hhas⟩ := hbad.resolve_left hlen
      rw [dcbxRchangeTlv_eq v (Nat.not_lt.mp hlen), hsub]
      exact if_pos hhas
  have hs : { s with dcbx := some d } = s := by rw [← hd]
  rw [dcbxRchange_tlv v p written hd, htlv, hs]

theorem dcbxRchange_taken (h : ¬ DcbxRefuses s m info) :
    ∃ answer, dcbxRchange v p written { type := type127, info := info } m s =
      ({ s with dcbx := s.dcbx.map (takeLegacy v info) }, marksAfter s m info, answer) ∧
      answer ≠ .tlvErr := by
  unfold marksAfter
  cases hd : s.dcbx with
  | none =>
    have hs : { s with dcbx := none } = s := by rw [← hd]
    exact ⟨.subtypeInvalid, by rw [dcbxRchange_none v p written hd, Option.map_none, hs]; rfl,
      nofun⟩
  | some d =>
    have hsome : s.dcbx.isSome := by rw [hd]; rfl
    have hlen : ouiSubSize ≤ info.length := by
      by_contra hshort
      exact h ⟨hsome, .inl (Nat.not_le.mp hshort)⟩
    have htlv : ∃ answer, dcbxRchangeTlv v info m d = (takeLegacy v info d, m.add info, answer) ∧
        answer ≠ .tlvErr := by
      rw [dcbxRchangeTlv_eq v hlen]
      cases hsub : legacySubtype info with
      | none =>
        obtain ⟨htake, hadd⟩ := take_of_none v hsub d m
        exact ⟨.subtypeInvalid, by rw [htake, hadd], nofun⟩
      | some subtype =>
        have hnew : ¬ m.Has subtype := fun hhas => h ⟨hsome, .inr ⟨subtype, hsub, hhas⟩⟩
        exact ⟨.tlvOk, if_neg hnew, nofun⟩
    obtain ⟨answer, heq, hne⟩ := htlv
    exact ⟨answer, by rw [dcbxRchange_tlv v p written hd, heq]; rfl, hne⟩

theorem qazRchangeCtl_refused {q : QazCtl} {dcbx : Bool} (hlen : info.length < ouiSubSize) :
    qazRchangeCtl dcbx { type := type127, info := info } q = (q, .tlvErr) := by
  unfold qazRchangeCtl
  rw [if_neg (show ¬ type127 = type1 by decide), if_pos rfl, if_pos hlen]

theorem qazRchangeCtl_taken (q : QazCtl) (dcbx : Bool) (hlen : ¬ info.length < ouiSubSize) :
    ∃ answer, qazRchangeCtl dcbx { type := type127, info := info } q = (takeIeee info q, answer) ∧
      answer ≠ .tlvErr := by
  unfold qazRchangeCtl takeIeee
  rw [if_neg (show ¬ type127 = type1 by decide), if_pos rfl, if_neg hlen]
  by_cases houi : info.take 3 = ieee8021qazOui
  · rw [if_neg (not_not.mpr houi), if_pos houi]
    exact ⟨.tlvOk, rfl, nofun⟩
  · rw [if_pos houi, if_neg houi]
    exact ⟨.subtypeInvalid, rfl, nofun⟩

theorem qazRchange_refused (h : QazRefuses s info) :
    qazRchange { type := type127, info := info } s = (s, .tlvErr) := by
  obtain ⟨hsome, hlen⟩ := h
  obtain ⟨q, hq⟩ := Option.isSome_iff_exists.mp hsome
  have hs : { s with qaz := some q } = s := by rw [← hq]
  rw [qazRchange_some hq, qazRchangeCtl_refused hlen, hs]

theorem qazRchange_taken (h : ¬ QazRefuses s info) :
    ∃ answer, qazRchange { type := type127, info := info } s =
      ({ s with qaz := s.qaz.map (takeIeee info) }, answer) ∧ answer ≠ .tlvErr := by
  cases hq : s.qaz with
  | none =>
    have hs : { s with qaz := none } = s := by rw [← hq]
    exact ⟨.subtypeInvalid, by rw [qazRchange_none hq, Option.map_none, hs], nofun⟩
  | some q =>
    have hlen : ¬ info.length < ouiSubSize := by
      intro hshort
      exact h ⟨by rw [hq]; rfl, hshort⟩
    obtain ⟨answer, heq, hne⟩ := qazRchangeCtl_taken q s.dcbxTlvsRxed hlen
    exact ⟨answer, by rw [qazRchange_some hq, heq]; rfl, hne⟩

theorem unswitched_dcbx {f : DcbxTlvs → DcbxTlvs}
    (h : ∀ d, (f d).active = d.active) : Unswitched s { s with dcbx := s.dcbx.map f } := by
  refine ⟨?_, rfl⟩
  unfold DialectPort.dcbxActive
  cases s.dcbx with
  | none => rfl
  | some d => exact h d

theorem unswitched_qaz {f : QazCtl → QazCtl}
    (h : ∀ q, (f q).active = q.active) : Unswitched s { s with qaz := s.qaz.map f } := by
  refine ⟨rfl, ?_⟩
  unfold DialectPort.qazActive
  cases s.qaz with
  | none => rfl
  | some q => exact h q

theorem rchange_refused (h : DcbxRefuses s m info ∨ QazRefuses s info) :
    ∃ t m', rchange order v p written { type := type127, info := info } m s = (t, m', true) ∧
      Unswitched s t := by
  unfold rchange
  cases order with
  | dcbxFirst =>
    dsimp only
    by_cases hdcbx : DcbxRefuses s m info
    · rw [dcbxRchange_refused v p written hdcbx]
      exact ⟨s, m, rfl, rfl, rfl⟩
    · obtain ⟨answer, heq, hne⟩ := dcbxRchange_taken v p written hdcbx
      have hqaz : QazRefuses { s with dcbx := s.dcbx.map (takeLegacy v info) } info :=
        h.resolve_left hdcbx
      rw [heq]
      rw [if_neg hne, qazRchange_refused hqaz]
      exact ⟨_, _, rfl, unswitched_dcbx (takeLegacy_active v info)⟩
  | qazFirst =>
    dsimp only
    by_cases hqaz : QazRefuses s info
    · rw [qazRchange_refused hqaz]
      exact ⟨s, m, rfl, rfl, rfl⟩
    · obtain ⟨answer, heq, hne⟩ := qazRchange_taken hqaz
      have hdcbx : DcbxRefuses { s with qaz := s.qaz.map (takeIeee info) } m info :=
        h.resolve_right hqaz
      rw [heq]
      rw [if_neg hne, dcbxRchange_refused v p written hdcbx]
      exact ⟨_, _, rfl, unswitched_qaz (takeIeee_active info)⟩

theorem rchange_taken (hdcbx : ¬ DcbxRefuses s m info) (hqaz : ¬ QazRefuses s info) :
    rchange order v p written { type := type127, info := info } m s =
      (take v info s, marksAfter s m info, false) := by
  unfold rchange
  cases order with
  | dcbxFirst =>
    obtain ⟨answer, heq, hne⟩ := dcbxRchange_taken v p written hdcbx
    obtain ⟨answer', heq', hne'⟩ := qazRchange_taken
      (s := { s with dcbx := s.dcbx.map (takeLegacy v info) }) hqaz
    dsimp only
    rw [heq]
    rw [if_neg hne, heq']
    rw [decide_eq_false hne']
    rfl
  | qazFirst =>
    obtain ⟨answer, heq, hne⟩ := qazRchange_taken hqaz
    obtain ⟨answer', heq', hne'⟩ := dcbxRchange_taken v p written
      (s := { s with qaz := s.qaz.map (takeIeee info) }) hdcbx
    dsimp only
    rw [heq]
    rw [if_neg hne, heq']
    rw [decide_eq_false hne']
    rfl

/-! ### All TLVs -/

/-- No TLV of the list is rejected. -/
structure AllTaken (s : DialectPort) (m : DcbxMarks) (tlvs : List Bytes) : Prop where
  length : s.dcbx.isSome ∨ s.qaz.isSome → ∀ info ∈ tlvs, ouiSubSize ≤ info.length
  single : s.dcbx.isSome → (tlvs.filterMap legacySubtype).Nodup
  fresh : s.dcbx.isSome → ∀ subtype ∈ tlvs.filterMap legacySubtype, ¬ m.Has subtype

@[simp] theorem take_dcbx_isSome (info : Bytes) (s : DialectPort) :
    (take v info s).dcbx.isSome = s.dcbx.isSome := Option.isSome_map

@[simp] theorem take_qaz_isSome (info : Bytes) (s : DialectPort) :
    (take v info s).qaz.isSome = s.qaz.isSome := Option.isSome_map

theorem has_add {subtype : UInt8} :
    (m.add info).Has subtype ↔ m.Has subtype ∨ legacySubtype info = some subtype := by
  unfold DcbxMarks.Has DcbxMarks.add
  simp only [Bool.or_eq_true, decide_eq_true_eq]
  constructor
  · rintro (⟨rfl, hmark | hsub⟩ | ⟨rfl, hmark | hsub⟩)
    · exact .inl (.inl ⟨rfl, hmark⟩)
    · exact .inr hsub
    · exact .inl (.inr ⟨rfl, hmark⟩)
    · exact .inr hsub
  · rintro ((⟨rfl, hmark⟩ | ⟨rfl, hmark⟩) | hsub)
    · exact .inl ⟨rfl, .inl hmark⟩
    · exact .inr ⟨rfl, .inl hmark⟩
    · rcases (legacySubtype_eq_some.mp hsub).2.2 with rfl | rfl
      · exact .inl ⟨rfl, .inr hsub⟩
      · exact .inr ⟨rfl, .inr hsub⟩

theorem mem_legacySubtypes {subtype : UInt8} {rest : List Bytes} :
    subtype ∈ (info :: rest).filterMap legacySubtype ↔
      legacySubtype info = some subtype ∨ subtype ∈ rest.filterMap legacySubtype := by
  cases h : legacySubtype info with
  | none => simp [h]
  | some k => simp [h, eq_comm]

theorem nodup_legacySubtypes {rest : List Bytes} :
    ((info :: rest).filterMap legacySubtype).Nodup ↔
      (∀ subtype, legacySubtype info = some subtype → subtype ∉ rest.filterMap legacySubtype) ∧
        (rest.filterMap legacySubtype).Nodup := by
  cases h : legacySubtype info with
  | none => simp [h]
  | some k => simp [h, List.nodup_cons]

/-- The TLVs of a list one by one -/
theorem allTaken_cons {rest : List Bytes} :
    AllTaken s m (info :: rest) ↔
      (¬ DcbxRefuses s m info ∧ ¬ QazRefuses s info) ∧
        AllTaken (take v info s) (marksAfter s m info) rest := by
  have hmarks : s.dcbx.isSome → marksAfter s m info = m.add info := fun hs => if_pos hs
  constructor
  · intro h
    have hlen : s.dcbx.isSome ∨ s.qaz.isSome → ¬ info.length < ouiSubSize := fun hs =>
      Nat.not_lt.mpr (h.length hs info (List.mem_cons_self ..))
    refine ⟨⟨?_, fun hqaz => hlen (.inr hqaz.1) hqaz.2⟩, ?_, ?_, ?_⟩
    · rintro ⟨hs, hshort | ⟨subtype, hsub, hhas⟩⟩
      · exact hlen (.inl hs) hshort
      · exact h.fresh hs subtype (mem_legacySubtypes.mpr (.inl hsub)) hhas
    · intro hs info' hmem
      rw [take_dcbx_isSome, take_qaz_isSome] at hs
      exact h.length hs info' (List.mem_cons_of_mem _ hmem)
    · intro hs
      rw [take_dcbx_isSome] at hs
      exact (nodup_legacySubtypes.mp (h.single hs)).2
    · intro hs subtype hmem
      rw [take_dcbx_isSome] at hs
      rw [hmarks hs, has_add]
      rintro (hhas | hsub)
      · exact h.fresh hs subtype (mem_legacySubtypes.mpr (.inr hmem)) hhas
      · exact (nodup_legacySubtypes.mp (h.single hs)).1 subtype hsub hmem
  · rintro ⟨⟨hdcbx, hqaz⟩, h⟩
    refine ⟨?_, ?_, ?_⟩
    · intro hs info' hmem
      rcases List.mem_cons.mp hmem with rfl | hmem
      · -- The module that has data would have rejected a TLV that is too short.
        rcases hs with hs | hs
        · exact Nat.not_lt.mp fun hshort => hdcbx ⟨hs, .inl hshort⟩
        · exact Nat.not_lt.mp fun hshort => hqaz ⟨hs, hshort⟩
      · exact h.length (by rwa [take_dcbx_isSome, take_qaz_isSome]) info' hmem
    · intro hs
      have hs' : (take v info s).dcbx.isSome := by rwa [take_dcbx_isSome]
      refine nodup_legacySubtypes.mpr ⟨fun subtype hsub hmem => ?_, h.single hs'⟩
      refine h.fresh hs' subtype hmem ?_
      rw [hmarks hs]
      exact has_add.mpr (.inr hsub)
    · intro hs subtype hmem hhas
      have hs' : (take v info s).dcbx.isSome := by rwa [take_dcbx_isSome]
      rcases mem_legacySubtypes.mp hmem with hsub | hmem
      · exact hdcbx ⟨hs, .inr ⟨subtype, hsub, hhas⟩⟩
      · refine h.fresh hs' subtype hmem ?_
        rw [hmarks hs]
        exact has_add.mpr (.inl hhas)

theorem rxTlvs_taken (rest : List Tlv) (tlvs : List Bytes) :
    ∀ (m : DcbxMarks) (s : DialectPort), AllTaken s m tlvs →
      ∃ m', rxTlvs order v p written
          ((tlvs.map fun info => { type := type127, info := info }) ++ rest) m s =
        rxTlvs order v p written rest m' (tlvs.foldl (fun s info => take v info s) s) := by
  induction tlvs with
  | nil => exact fun m s _ => ⟨m, rfl⟩
  | cons info tlvs ih =>
    intro m s h
    obtain ⟨⟨hdcbx, hqaz⟩, hrest⟩ := (allTaken_cons v).mp h
    obtain ⟨m', hm'⟩ := ih _ _ hrest
    refine ⟨m', ?_⟩
    rw [List.map_cons, List.cons_append, rxTlvs, rchange_taken order v p written hdcbx hqaz]
    exact hm'

theorem rxTlvs_refused (rest : List Tlv) (tlvs : List Bytes) :
    ∀ (m : DcbxMarks) (s : DialectPort), ¬ AllTaken s m tlvs →
      ∃ t, rxTlvs order v p written
          ((tlvs.map fun info => { type := type127, info := info }) ++ rest) m s = (t, true) ∧
        Unswitched s t := by
  induction tlvs with
  | nil => exact fun m s h => absurd ⟨nofun, fun _ => List.nodup_nil, nofun⟩ h
  | cons info tlvs ih =>
    intro m s h
    rw [List.map_cons, List.cons_append, rxTlvs]
    by_cases hbad : DcbxRefuses s m info ∨ QazRefuses s info
    · obtain ⟨t, m', ht, hsame⟩ := rchange_refused order v p written hbad
      rw [ht]
      exact ⟨t, rfl, hsame⟩
    · obtain ⟨hdcbx, hqaz⟩ := not_or.mp hbad
      have hrest : ¬ AllTaken (take v info s) (marksAfter s m info) tlvs := fun hall =>
        h ((allTaken_cons v).mpr ⟨⟨hdcbx, hqaz⟩, hall⟩)
      obtain ⟨t, ht, hsame⟩ := ih _ _ hrest
      rw [rchange_taken order v p written hdcbx hqaz]
      exact ⟨t, ht, (unswitched_take v info s).trans hsame⟩

end Walk

/-! ### What the modules know at the end -/

/-- What a list of TLVs leaves in the older module -/
def takeLegacies (v : DcbxVersion) (tlvs : List Bytes) (d : DcbxTlvs) : DcbxTlvs :=
  tlvs.foldl (fun d info => takeLegacy v info d) d

/-- What a list of TLVs leaves in the module of 802.1Qaz -/
def takeIeees (tlvs : List Bytes) (q : QazCtl) : QazCtl :=
  tlvs.foldl (fun q info => takeIeee info q) q

theorem foldl_take (v : DcbxVersion) (tlvs : List Bytes) :
    ∀ s : DialectPort, tlvs.foldl (fun s info => take v info s) s =
      { s with dcbx := s.dcbx.map (takeLegacies v tlvs), qaz := s.qaz.map (takeIeees tlvs) } := by
  induction tlvs with
  | nil =>
    intro s
    show s = { s with dcbx := s.dcbx.map id, qaz := s.qaz.map id }
    rw [Option.map_id, Option.map_id]
    rfl
  | cons info tlvs ih =>
    intro s
    rw [List.foldl_cons, ih]
    unfold take
    rw [Option.map_map, Option.map_map]
    rfl

theorem takeLegacies_active (v : DcbxVersion) (tlvs : List Bytes) :
    ∀ d : DcbxTlvs, (takeLegacies v tlvs d).active = d.active := by
  induction tlvs with
  | nil => exact fun d => rfl
  | cons info tlvs ih =>
    intro d
    show (takeLegacies v tlvs (takeLegacy v info d)).active = d.active
    rw [ih, takeLegacy_active]

theorem takeLegacies_rxedTlvs (v : DcbxVersion) (tlvs : List Bytes) :
    ∀ d : DcbxTlvs, (takeLegacies v tlvs d).rxedTlvs =
      (d.rxedTlvs || tlvs.any fun info => (legacySubtype info).isSome) := by
  induction tlvs with
  | nil => exact fun d => (Bool.or_false _).symm
  | cons info tlvs ih =>
    intro d
    show (takeLegacies v tlvs (takeLegacy v info d)).rxedTlvs = _
    rw [ih, List.any_cons, ← Bool.or_assoc]
    congr 1
    unfold takeLegacy
    cases legacySubtype info with
    | none => exact (Bool.or_false _).symm
    | some subtype => exact (Bool.or_true _).symm

theorem lastLegacy_cons (subtype : UInt8) (info : Bytes) (tlvs : List Bytes) :
    lastLegacy subtype (info :: tlvs) =
      (lastLegacy subtype tlvs).or
        (if legacySubtype info = some subtype then some info else none) := by
  unfold lastLegacy
  by_cases h : legacySubtype info = some subtype
  · rw [List.filter_cons_of_pos (by simpa using h), List.getLast?_cons, if_pos h]
    cases (tlvs.filter fun info => legacySubtype info = some subtype).getLast? <;> rfl
  · rw [List.filter_cons_of_neg (by simpa using h), if_neg h, Option.or_none]

/-- The manifest after a list of TLVs: of each subtype the last TLV, if the daemon looks at the
subtype. -/
theorem takeLegacies_manifest (v : DcbxVersion) (tlvs : List Bytes) :
    ∀ d : DcbxTlvs,
      (takeLegacies v tlvs d).dcbx1 =
        (if v.st = 1 then (lastLegacy 1 tlvs).or d.dcbx1 else d.dcbx1) ∧
      (takeLegacies v tlvs d).dcbx2 =
        (if v.st = 2 then (lastLegacy 2 tlvs).or d.dcbx2 else d.dcbx2) := by
  induction tlvs with
  | nil =>
    intro d
    unfold lastLegacy
    simp [takeLegacies]
  | cons info tlvs ih =>
    intro d
    show (takeLegacies v tlvs (takeLegacy v info d)).dcbx1 = _ ∧
      (takeLegacies v tlvs (takeLegacy v info d)).dcbx2 = _
    obtain ⟨hone, htwo⟩ := ih (takeLegacy v info d)
    rw [hone, htwo, lastLegacy_cons, lastLegacy_cons, Option.or_assoc, Option.or_assoc]
    unfold takeLegacy
    cases legacySubtype info with
    | none => simp
    | some subtype =>
      constructor
      · by_cases hst : v.st = 1 <;> by_cases hsub : subtype = 1 <;> simp [hst, hsub]
      · by_cases hst : v.st = 2 <;> by_cases hsub : subtype = 2 <;> simp [hst, hsub]

theorem unpackManifest_takeLegacies (v : DcbxVersion) (p : Lldpdu) (active : Bool) :
    unpackManifest p.behind (takeLegacies v p.tlvs { active := active }) = p.unpacks v := by
  obtain ⟨hone, htwo⟩ := takeLegacies_manifest v p.tlvs { active := active }
  unfold unpackManifest Lldpdu.unpacks
  rw [hone, htwo]
  cases v <;>
    simp only [DcbxVersion.st, if_true, Option.or_none, show ¬ (1 : UInt8) = 2 by decide,
      show ¬ (2 : UInt8) = 1 by decide, if_false]
  all_goals
    first
    | cases lastLegacy 1 p.tlvs <;> rfl
    | cases lastLegacy 2 p.tlvs <;> rfl

theorem takeIeees_active (tlvs : List Bytes) :
    ∀ q : QazCtl, (takeIeees tlvs q).active = q.active := by
  induction tlvs with
  | nil => exact fun q => rfl
  | cons info tlvs ih =>
    intro q
    show (takeIeees tlvs (takeIeee info q)).active = q.active
    rw [ih, takeIeee_active]

theorem takeIeee_qazdu (info : Bytes) {q : QazCtl} (h : ∀ x ∈ q.rx, q.qazdu = true) :
    (takeIeee info q).qazdu = (q.qazdu || isIeee info) ∧
      ∀ x ∈ (takeIeee info q).rx, (takeIeee info q).qazdu = true := by
  unfold takeIeee isIeee unpackQaz
  by_cases houi : info.take 3 = ieee8021qazOui
  · rw [if_pos houi]
    by_cases hsub : info.getD 3 0 ∈ qazSubtypes
    · by_cases hold : info.getD 3 0 ∈ q.rx
      · rw [if_neg (fun hnew => hnew.2 hold), h _ hold]
        exact ⟨rfl, fun _ _ => rfl⟩
      · rw [if_pos ⟨hsub, hold⟩, decide_eq_true (And.intro houi hsub), Bool.or_true]
        exact ⟨rfl, fun _ _ => rfl⟩
    · rw [if_neg (fun hnew => hsub hnew.1)]
      simp only [hsub, and_false, decide_false, Bool.or_false, true_and]
      exact h
  · rw [if_neg houi]
    simp only [houi, false_and, decide_false, Bool.or_false, true_and]
    exact h

theorem takeIeees_qazdu (tlvs : List Bytes) :
    ∀ q : QazCtl, (∀ x ∈ q.rx, q.qazdu = true) →
      (takeIeees tlvs q).qazdu = (q.qazdu || tlvs.any isIeee) := by
  induction tlvs with
  | nil => exact fun q _ => (Bool.or_false _).symm
  | cons info tlvs ih =>
    intro q h
    obtain ⟨hdu, hrx⟩ := takeIeee_qazdu info h
    show (takeIeees tlvs (takeIeee info q)).qazdu = _
    rw [ih _ hrx, hdu, List.any_cons, Bool.or_assoc]

/-! ### The end of an LLDPDU -/

section LldpduEnd

variable (order : Registered) (v : DcbxVersion) (p : Lldpdu) (written : Bool)

/-- The older module, and what it knows at the end of the LLDPDU -/
def dcbxAtEnd (d : DcbxTlvs) : DcbxTlvs := takeLegacies v p.tlvs { active := d.active }

/-- The module of 802.1Qaz, and what it knows at the end of the LLDPDU -/
def qazAtEnd (q : QazCtl) : QazCtl := takeIeees p.tlvs { active := q.active }

/-- The interface at the end of the LLDPDU -/
def atEnd (s : DialectPort) : DialectPort :=
  { s with dcbx := s.dcbx.map (dcbxAtEnd v p), qaz := s.qaz.map (qazAtEnd p) }

/-- The interface behind the chassis ID -/
def begun (s : DialectPort) : DialectPort :=
  { s with
    dcbx := s.dcbx.map fun d => { active := d.active }
    qaz := s.qaz.map fun q => { active := q.active } }

theorem rchange_chassis (m : DcbxMarks) (s : DialectPort) :
    rchange order v p written { type := type1, info := [] } m s = (begun s, m, false) := by
  obtain ⟨shm, dcbx, qaz⟩ := s
  cases dcbx <;> cases qaz <;> cases order <;> rfl

theorem allTaken_begun (s : DialectPort) :
    p.ends = true ∧ AllTaken (begun s) {} p.tlvs ↔ s.Reaches p := by
  have hd : (begun s).dcbx.isSome = s.dcbx.isSome := Option.isSome_map
  have hq : (begun s).qaz.isSome = s.qaz.isSome := Option.isSome_map
  constructor
  · rintro ⟨hends, hlength, hsingle, _⟩
    rw [hd, hq] at hlength
    rw [hd] at hsingle
    exact ⟨hends, hlength, hsingle⟩
  · rintro ⟨hends, hlength, hsingle⟩
    refine ⟨hends, by rwa [hd, hq], by rwa [hd], fun _ subtype _ hhas => ?_⟩
    rcases hhas with ⟨_, hmark⟩ | ⟨_, hmark⟩ <;> cases hmark

theorem unswitched_begun (s : DialectPort) : Unswitched s (begun s) := by
  obtain ⟨shm, dcbx, qaz⟩ := s
  cases dcbx <;> cases qaz <;> exact ⟨rfl, rfl⟩

theorem foldl_take_begun (s : DialectPort) :
    p.tlvs.foldl (fun s info => take v info s) (begun s) = atEnd v p s := by
  rw [foldl_take]
  unfold begun atEnd
  rw [Option.map_map, Option.map_map]
  rfl

theorem unswitched_atEnd (s : DialectPort) : Unswitched s (atEnd v p s) := by
  obtain ⟨shm, dcbx, qaz⟩ := s
  refine ⟨?_, ?_⟩
  · cases dcbx with
    | none => rfl
    | some d => exact takeLegacies_active v p.tlvs { active := d.active }
  · cases qaz with
    | none => rfl
    | some q => exact takeIeees_active p.tlvs { active := q.active }

theorem rxTlvs_received (s : DialectPort) :
    rxTlvs order v p written p.received {} s =
      rxTlvs order v p written ((p.tlvs.map fun info => { type := type127, info := info }) ++
        if p.ends then [{ type := type0, info := [] }] else []) {} (begun s) := by
  unfold Lldpdu.received
  rw [rxTlvs, rchange_chassis]
  rfl

theorem rxLldpdu_of_not_reaches {s : DialectPort} (h : ¬ s.Reaches p) :
    (rxLldpdu order v p written s).2 = true ∧ Unswitched s (rxLldpdu order v p written s).1 := by
  unfold rxLldpdu
  rw [rxTlvs_received]
  by_cases hall : AllTaken (begun s) {} p.tlvs
  · -- The agent or another module has rejected the LLDPDU.
    have hends : p.ends = false := by
      by_contra hends
      exact h ((allTaken_begun p s).mp ⟨by simpa using hends, hall⟩)
    obtain ⟨m, hm⟩ := rxTlvs_taken order v p written
      (if p.ends then [{ type := type0, info := [] }] else []) p.tlvs {} (begun s) hall
    rw [hm, foldl_take_begun, hends]
    exact ⟨rfl, unswitched_atEnd v p s⟩
  · obtain ⟨t, ht, hsame⟩ := rxTlvs_refused order v p written
      (if p.ends then [{ type := type0, info := [] }] else []) p.tlvs {} (begun s) hall
    rw [ht]
    exact ⟨rfl, (unswitched_begun s).trans hsame⟩

theorem rxLldpdu_of_reaches {s : DialectPort} (h : s.Reaches p) :
    ∃ m, rxLldpdu order v p written s =
      ((rchange order v p written { type := type0, info := [] } m (atEnd v p s)).1,
        (rchange order v p written { type := type0, info := [] } m (atEnd v p s)).2.2) := by
  obtain ⟨hends, hall⟩ := (allTaken_begun p s).mpr h
  obtain ⟨m, hm⟩ := rxTlvs_taken order v p written
    (if p.ends then [{ type := type0, info := [] }] else []) p.tlvs {} (begun s) hall
  refine ⟨m, ?_⟩
  unfold rxLldpdu
  rw [rxTlvs_received, hm, foldl_take_begun, hends, if_pos rfl, rxTlvs]
  generalize rchange order v p written { type := type0, info := [] } m (atEnd v p s) = r
  obtain ⟨t, m', rejected⟩ := r
  cases rejected <;> rfl

/-- The manifest of the older module cannot be unpacked. -/
def badManifest (s : DialectPort) : Bool := s.dcbx.any fun d => !unpackManifest p.behind d

theorem dcbxRchange_end (m : DcbxMarks) (s : DialectPort) :
    ∃ t answer, dcbxRchange v p written { type := type0, info := [] } m s = (t, m, answer) ∧
      t.dcbxActive =
        (s.dcbxActive || (!s.dcbxActive && !s.qazTlvsRxed && s.dcbxTlvsRxed && p.enabled)) ∧
      t.qaz = s.qaz ∧ t.dcbxTlvsRxed = s.dcbxTlvsRxed ∧
      (answer = .tlvErr ↔ badManifest p s = true) := by
  obtain ⟨shm, dcbx, qaz⟩ := s
  cases dcbx with
  | none =>
    refine ⟨_, _, rfl, ?_, rfl, rfl, iff_of_false nofun nofun⟩
    simp [DialectPort.dcbxActive, DialectPort.dcbxTlvsRxed]
  | some d =>
    have hend : dcbxRchange v p written { type := type0, info := [] } m
        { shm := shm, dcbx := some d, qaz := qaz } =
      ((dcbxRchangeEnd v p written d { shm := shm, dcbx := some d, qaz := qaz }).1, m,
        (dcbxRchangeEnd v p written d { shm := shm, dcbx := some d, qaz := qaz }).2) := rfl
    refine ⟨_, _, hend, ?_⟩
    unfold dcbxRchangeEnd badManifest
    dsimp only [Option.any_some]
    cases hunpack : unpackManifest p.behind d with
    | true =>
      rw [if_pos rfl]
      exact ⟨rfl, rfl, rfl, iff_of_false nofun nofun⟩
    | false =>
      rw [if_neg Bool.false_ne_true]
      exact ⟨rfl, rfl, rfl, iff_of_true rfl rfl⟩

theorem qazEndCtl_flags (seen : Bool) (q : QazCtl) :
    (qazEndCtl seen q).active = (q.active && !(seen && !q.qazdu)) ∧
      (qazEndCtl seen q).qazdu = q.qazdu := by
  unfold qazEndCtl
  cases hactive : q.active <;> cases hdu : q.qazdu <;> cases seen <;> simp [hactive, hdu]

theorem qazRchange_end (s : DialectPort) :
    ∃ t answer, qazRchange { type := type0, info := [] } s = (t, answer) ∧
      t.qazActive = (s.qazActive && !(s.dcbxTlvsRxed && !s.qazTlvsRxed)) ∧
      t.dcbx = s.dcbx ∧ t.qazTlvsRxed = s.qazTlvsRxed ∧ answer ≠ .tlvErr := by
  obtain ⟨shm, dcbx, qaz⟩ := s
  cases qaz with
  | none => exact ⟨_, _, rfl, rfl, rfl, rfl, nofun⟩
  | some q =>
    exact ⟨_, _, rfl, (qazEndCtl_flags _ q).1, rfl, (qazEndCtl_flags _ q).2, nofun⟩

theorem known_atEnd (s : DialectPort) :
    (atEnd v p s).dcbxTlvsRxed = (s.dcbx.isSome && p.legacy) ∧
      (atEnd v p s).qazTlvsRxed = (s.qaz.isSome && p.ieee) ∧
      badManifest p (atEnd v p s) = (s.dcbx.isSome && !p.unpacks v) := by
  obtain ⟨shm, dcbx, qaz⟩ := s
  refine ⟨?_, ?_, ?_⟩
  · cases dcbx with
    | none => rfl
    | some d => exact takeLegacies_rxedTlvs v p.tlvs { active := d.active }
  · cases qaz with
    | none => rfl
    | some q => exact takeIeees_qazdu p.tlvs { active := q.active } nofun
  · cases dcbx with
    | none => rfl
    | some d =>
      show (!unpackManifest p.behind (takeLegacies v p.tlvs { active := d.active })) = _
      rw [unpackManifest_takeLegacies]
      rfl

theorem legacy_of_not_unpacks (h : p.unpacks v = false) : p.legacy = true := by
  unfold Lldpdu.unpacks at h
  cases hlast : lastLegacy v.st p.tlvs with
  | none =>
    rw [hlast] at h
    cases h
  | some info =>
    obtain ⟨hmem, hsub⟩ := List.mem_filter.mp (List.mem_of_getLast? hlast)
    refine List.any_eq_true.mpr ⟨info, hmem, ?_⟩
    rw [of_decide_eq_true hsub]
    rfl

end LldpduEnd

/-! ### One event -/

/-- At most one module is active, and an LLDPDU that is rejected switches neither. -/
structure OneDialect (s : DialectPort) (r : DialectPort × Bool) : Prop where
  one : ¬ (r.1.dcbxActive = true ∧ r.1.qazActive = true)
  rejected : r.2 = true → Unswitched s r.1

/-- An LLDPDU with a TLV of the older protocols that cannot be unpacked would switch nothing: the
older module is active, or has a reason not to go active, and the module of 802.1Qaz has not
given up before. -/
def LldpduClean (order : Registered) (v : DcbxVersion) (s : DialectPort) (p : Lldpdu) : Prop :=
  s.Reaches p → s.dcbx.isSome = true → p.unpacks v = false →
    (s.dcbxActive = true ∨ (s.qaz.isSome = true ∧ p.ieee = true) ∨ p.enabled = false) ∧
      (order = .qazFirst → s.qazActive = true → p.ieee = true)

theorem isSome_of_qazActive (h : s.qazActive = true) : s.qaz.isSome = true := by
  unfold DialectPort.qazActive at h
  cases hq : s.qaz with
  | none =>
    rw [hq] at h
    cases h
  | some q => rfl

/-- The older module goes active at the end of the LLDPDU. -/
def switches (s : DialectPort) (p : Lldpdu) : Bool :=
  !s.dcbxActive && !(s.qaz.isSome && p.ieee) && (s.dcbx.isSome && p.legacy) && p.enabled

/-- The module of 802.1Qaz gives up at the end of the LLDPDU, if it sees it. -/
def givesUp (s : DialectPort) (p : Lldpdu) : Bool :=
  (s.dcbx.isSome && p.legacy) && !(s.qaz.isSome && p.ieee)

/-- The flags after an LLDPDU whose end the modules see -/
theorem rxLldpdu_flags (order : Registered) (v : DcbxVersion) (p : Lldpdu) (written : Bool)
    (hreach : s.Reaches p) :
    (rxLldpdu order v p written s).2 = (s.dcbx.isSome && !p.unpacks v) ∧
      (rxLldpdu order v p written s).1.dcbxActive = (s.dcbxActive || switches s p) ∧
      (rxLldpdu order v p written s).1.qazActive =
        (s.qazActive && !(givesUp s p &&
          !(order = .dcbxFirst && (s.dcbx.isSome && !p.unpacks v)))) := by
  obtain ⟨m, hm⟩ := rxLldpdu_of_reaches order v p written hreach
  obtain ⟨hrxed, hieee, hbad⟩ := known_atEnd v p s
  have hsame := unswitched_atEnd v p s
  unfold switches givesUp
  rw [hm, ← hbad, ← hrxed, ← hieee, ← hsame.dcbx, ← hsame.qaz]
  generalize atEnd v p s = u
  unfold rchange
  cases order with
  | dcbxFirst =>
    obtain ⟨t, answer, ht, hactive, hkept, hrxed', herr⟩ := dcbxRchange_end v p written m u
    have htqaz : t.qazActive = u.qazActive ∧ t.qazTlvsRxed = u.qazTlvsRxed := by
      unfold DialectPort.qazActive DialectPort.qazTlvsRxed
      rw [hkept]
      exact ⟨rfl, rfl⟩
    obtain ⟨w, answer', hw, hactive', hkept', _, hok⟩ := qazRchange_end t
    have hwdcbx : w.dcbxActive = t.dcbxActive := by
      unfold DialectPort.dcbxActive
      rw [hkept']
    dsimp only
    rw [ht]
    by_cases hrej : answer = .tlvErr
    · -- The module of 802.1Qaz does not see the end.
      rw [if_pos hrej, herr.mp hrej]
      simp [hactive, htqaz.1]
    · have hbad' : badManifest p u = false := by
        by_contra hbad'
        exact hrej (herr.mpr (by simpa using hbad'))
      rw [if_neg hrej, hw, hbad']
      simp [hok, hwdcbx, hactive, hactive', htqaz, hrxed']
  | qazFirst =>
    obtain ⟨t, answer, ht, hactive, hkept, hdu, hok⟩ := qazRchange_end u
    have htdcbx : t.dcbxActive = u.dcbxActive ∧ t.dcbxTlvsRxed = u.dcbxTlvsRxed ∧
        badManifest p t = badManifest p u := by
      unfold DialectPort.dcbxActive DialectPort.dcbxTlvsRxed badManifest
      rw [hkept]
      exact ⟨rfl, rfl, rfl⟩
    obtain ⟨w, answer', hw, hactive', hkept', _, herr⟩ := dcbxRchange_end v p written m t
    have hwqaz : w.qazActive = t.qazActive := by
      unfold DialectPort.qazActive
      rw [hkept']
    dsimp only
    rw [ht]
    rw [if_neg hok, hw]
    rw [hwqaz, hactive, hactive', hdu, htdcbx.1, htdcbx.2.1]
    refine ⟨?_, rfl, by simp⟩
    rw [htdcbx.2.2] at herr
    rw [Bool.eq_iff_iff, decide_eq_true_iff]
    exact herr

/-- An LLDPDU whose end the modules see -/
theorem lldpdu_end_iff (order : Registered) (v : DcbxVersion) (p : Lldpdu) (written : Bool)
    (hs : ¬ (s.dcbxActive = true ∧ s.qazActive = true)) (hreach : s.Reaches p) :
    OneDialect s (rxLldpdu order v p written s) ↔ LldpduClean order v s p := by
  obtain ⟨hrej, hdcbx, hqaz⟩ := rxLldpdu_flags order v p written hreach
  have hdata := isSome_of_qazActive (s := s)
  generalize rxLldpdu order v p written s = r at hrej hdcbx hqaz
  by_cases hbad : s.dcbx.isSome = true ∧ p.unpacks v = false
  · -- The LLDPDU is rejected.
    have hlegacy := legacy_of_not_unpacks v p hbad.2
    unfold switches at hdcbx
    unfold givesUp at hqaz
    rw [hbad.1, hbad.2] at hrej
    rw [hbad.1, hlegacy] at hdcbx
    rw [hbad.1, hbad.2, hlegacy] at hqaz
    have hkeptDcbx : r.1.dcbxActive = s.dcbxActive ↔
        s.dcbxActive = true ∨ (s.qaz.isSome = true ∧ p.ieee = true) ∨ p.enabled = false := by
      rw [hdcbx]
      cases s.dcbxActive <;> cases s.qaz.isSome <;> cases p.ieee <;> cases p.enabled <;> decide
    have hkeptQaz : r.1.qazActive = s.qazActive ↔
        (order = .qazFirst → s.qazActive = true → p.ieee = true) := by
      rw [hqaz]
      cases hactive : s.qazActive with
      | false => exact iff_of_true rfl nofun
      | true =>
        rw [hdata hactive]
        cases order <;> cases p.ieee <;> decide
    constructor
    · intro h _ _ _
      have hsame := h.rejected hrej
      exact ⟨hkeptDcbx.mp hsame.dcbx, hkeptQaz.mp hsame.qaz⟩
    · intro h
      obtain ⟨hd, hq⟩ := h hreach hbad.1 hbad.2
      have hsame : Unswitched s r.1 := ⟨hkeptDcbx.mpr hd, hkeptQaz.mpr hq⟩
      refine ⟨?_, fun _ => hsame⟩
      rw [hsame.dcbx, hsame.qaz]
      exact hs
  · -- The LLDPDU is taken. If the older module goes active, the other one gives up.
    have hrej' : (s.dcbx.isSome && !p.unpacks v) = false := by
      by_contra h
      simp only [Bool.not_eq_false, Bool.and_eq_true, Bool.not_eq_true'] at h
      exact hbad h
    rw [hrej'] at hrej hqaz
    refine iff_of_true ⟨?_, fun h => ?_⟩ fun _ hd hu => absurd ⟨hd, hu⟩ hbad
    · rw [hdcbx, hqaz]
      unfold switches givesUp
      rintro ⟨hd, hq⟩
      simp only [Bool.and_false, Bool.not_false, Bool.and_true, Bool.and_eq_true,
        Bool.not_eq_true'] at hq
      rw [Bool.or_eq_true] at hd
      rcases hd with hd | hd
      · exact hs ⟨hd, hq.1⟩
      · simp only [Bool.and_eq_true, Bool.not_eq_true'] at hd
        obtain ⟨⟨⟨_, hnone⟩, hdata', hlegacy⟩, _⟩ := hd
        rw [hdata', hlegacy, hnone] at hq
        exact nomatch hq.2
    · rw [hrej] at h
      cases h

theorem lldpdu_iff (order : Registered) (v : DcbxVersion) (p : Lldpdu) (written : Bool)
    (hs : ¬ (s.dcbxActive = true ∧ s.qazActive = true)) :
    OneDialect s (rxLldpdu order v p written s) ↔ LldpduClean order v s p := by
  by_cases hreach : s.Reaches p
  · exact lldpdu_end_iff order v p written hs hreach
  · obtain ⟨_, hsame⟩ := rxLldpdu_of_not_reaches order v p written hreach
    refine iff_of_true ⟨?_, fun _ => hsame⟩ fun h => absurd h hreach
    rw [hsame.dcbx, hsame.qaz]
    exact hs

/-- The older module decides when the interface comes up. -/
def DcbxRuns (u : IfupData) (s : DialectPort) : Prop :=
  u.port = true ∧ (s.dcbx.isSome = true ∨
    (u.hwState = true ∧ ¬ (u.newSupport ≠ 0 ∧ u.newSupport &&& dcbCapDcbxHost = 0)))

/-- The module of 802.1Qaz decides when the interface comes up. -/
def QazRuns (u : IfupData) (s : DialectPort) : Prop :=
  (∃ dcbx, u.dcbxHw = some dcbx ∧ dcbx &&& dcbCapDcbxLldManaged = 0) ∧
    (s.qaz.isSome = true ∨ u.port = true)

/-- The older module decides to be active. -/
def Wants (v : DcbxVersion) (u : IfupData) (s : DialectPort) : Prop :=
  u.enable = true ∧ (u.support = 0 ∨ v.forced = true ∨ s.shm ≠ .auto)

/-- The modules do not both decide to be active when the interface comes up, and one that decides
alone does not meet the other one active. -/
structure IfupClean (order : Registered) (v : DcbxVersion) (s : DialectPort) (u : IfupData) :
    Prop where
  both : DcbxRuns u s → QazRuns u s → u.enable = true → u.support = 0 →
    dcbxGetLegacyVersion v s = false → order = .dcbxFirst ∧ u.written = true
  dcbxOnly : DcbxRuns u s → ¬ QazRuns u s → Wants v u s → s.qazActive = false
  qazOnly : ¬ DcbxRuns u s → QazRuns u s → dcbxGetLegacyVersion v s = false → s.dcbxActive = false

section Ifup

variable (order : Registered) (v : DcbxVersion) (u : IfupData)

theorem dcbxActive_congr {s t : DialectPort} (h : t.dcbx = s.dcbx) :
    t.dcbxActive = s.dcbxActive := by
  unfold DialectPort.dcbxActive
  rw [h]

theorem qazActive_congr {s t : DialectPort} (h : t.qaz = s.qaz) : t.qazActive = s.qazActive := by
  unfold DialectPort.qazActive
  rw [h]

theorem dcbxRuns_congr {s t : DialectPort} (h : t.dcbx = s.dcbx) :
    DcbxRuns u t ↔ DcbxRuns u s := by
  unfold DcbxRuns
  rw [h]

theorem qazRuns_congr {s t : DialectPort} (h : t.qaz = s.qaz) : QazRuns u t ↔ QazRuns u s := by
  unfold QazRuns
  rw [h]

variable {s : DialectPort}

theorem dcbxIfup_of_not_runs (h : ¬ DcbxRuns u s) : dcbxIfup v u s = s := by
  unfold dcbxIfup
  by_cases hport : u.port = false
  · rw [if_pos hport]
  · rw [if_neg hport]
    have hport' : u.port = true := by simpa using hport
    cases hd : s.dcbx with
    | some d => exact absurd ⟨hport', .inl (by rw [hd]; rfl)⟩ h
    | none =>
      by_cases hhw : u.hwState = false
      · rw [if_pos hhw]
      · rw [if_neg hhw, if_pos]
        by_contra hcap
        exact h ⟨hport', .inr ⟨by simpa using hhw, hcap⟩⟩

theorem dcbxIfup_of_runs (h : DcbxRuns u s) :
    ((dcbxIfup v u s).dcbxActive = true ↔ Wants v u s) ∧ (dcbxIfup v u s).qaz = s.qaz ∧
      (Wants v u s → (dcbxIfup v u s).shm = v.setShm u.written s.shm) := by
  have hactive : ∀ d, ((dcbxIfupActive v u d s).dcbxActive = true ↔ Wants v u s) ∧
      (dcbxIfupActive v u d s).qaz = s.qaz ∧
      (Wants v u s → (dcbxIfupActive v u d s).shm = v.setShm u.written s.shm) := by
    intro d
    by_cases hwants : Wants v u s
    · have heq : dcbxIfupActive v u d s = { s with
          shm := v.setShm u.written s.shm, dcbx := some { d with active := true } } := if_pos hwants
      rw [heq]
      exact ⟨iff_of_true rfl hwants, rfl, fun _ => rfl⟩
    · have heq : dcbxIfupActive v u d s = { s with dcbx := some { d with active := false } } :=
        if_neg hwants
      rw [heq]
      exact ⟨iff_of_false nofun hwants, rfl, fun hw => absurd hw hwants⟩
  obtain ⟨hport, hrest⟩ := h
  unfold dcbxIfup
  rw [if_neg (by rw [hport]; nofun)]
  cases hd : s.dcbx with
  | some d => exact hactive d
  | none =>
    rw [hd] at hrest
    obtain ⟨hhw, hcap⟩ := hrest.resolve_left nofun
    rw [if_neg (by rw [hhw]; nofun), if_neg hcap]
    exact hactive {}

theorem qazIfup_of_not_runs (h : ¬ QazRuns u s) : qazIfup v u s = s := by
  unfold qazIfup
  cases hhw : u.dcbxHw with
  | none => rfl
  | some dcbx =>
    dsimp only
    by_cases hmanaged : dcbx &&& dcbCapDcbxLldManaged ≠ 0
    · rw [if_pos hmanaged]
    · rw [if_neg hmanaged]
      have hasked : ∃ dcbx, u.dcbxHw = some dcbx ∧ dcbx &&& dcbCapDcbxLldManaged = 0 :=
        ⟨dcbx, hhw, not_not.mp hmanaged⟩
      cases hq : s.qaz with
      | some q => exact absurd ⟨hasked, .inl (by rw [hq]; rfl)⟩ h
      | none =>
        rw [if_pos]
        by_contra hport
        exact h ⟨hasked, .inr (by simpa using hport)⟩

theorem qazIfup_of_runs (h : QazRuns u s) :
    (qazIfup v u s).qazActive = !dcbxGetLegacyVersion v s ∧ (qazIfup v u s).dcbx = s.dcbx ∧
      (qazIfup v u s).shm = s.shm := by
  obtain ⟨⟨dcbx, hhw, hmanaged⟩, hrest⟩ := h
  unfold qazIfup
  rw [hhw]
  dsimp only
  rw [if_neg (not_not.mpr hmanaged)]
  cases hq : s.qaz with
  | some q => exact ⟨rfl, rfl, rfl⟩
  | none =>
    rw [hq] at hrest
    rw [if_neg (by rw [hrest.resolve_left nofun]; nofun)]
    exact ⟨rfl, rfl, rfl⟩

/-- After a write to the shared memory the module of 802.1Qaz knows that the older one is in use,
unless the version is forced anyway. -/
theorem legacyVersion_setShm {s t : DialectPort} {written : Bool}
    (h : t.shm = v.setShm written s.shm) :
    dcbxGetLegacyVersion v t = (dcbxGetLegacyVersion v s || written) := by
  unfold dcbxGetLegacyVersion
  rw [h]
  cases v <;> cases written <;> cases s.shm <;> rfl

/-- Without a version that is in use the older module decides to be active when the kernel does not
tell what it supports. -/
theorem wants_iff (h : dcbxGetLegacyVersion v s = false) :
    Wants v u s ↔ u.enable = true ∧ u.support = 0 := by
  unfold dcbxGetLegacyVersion at h
  rw [Bool.or_eq_false_iff, decide_eq_false_iff_not, not_not] at h
  unfold Wants
  rw [h.1, h.2]
  simp

theorem ifup_both_iff (hd : DcbxRuns u s) (hq : QazRuns u s) :
    ¬ ((ifup order v u s).dcbxActive = true ∧ (ifup order v u s).qazActive = true) ↔
      (u.enable = true → u.support = 0 → dcbxGetLegacyVersion v s = false →
        order = .dcbxFirst ∧ u.written = true) := by
  cases order with
  | dcbxFirst =>
    obtain ⟨hdcbx, hkept, hshm⟩ := dcbxIfup_of_runs v u hd
    obtain ⟨hqaz, hkept', _⟩ := qazIfup_of_runs v u ((qazRuns_congr u hkept).mpr hq)
    show ¬ ((qazIfup v u (dcbxIfup v u s)).dcbxActive = true ∧
      (qazIfup v u (dcbxIfup v u s)).qazActive = true) ↔ _
    rw [dcbxActive_congr hkept', hdcbx, hqaz, Bool.not_eq_true']
    constructor
    · intro h henable hsupport hlegacy
      have hwants := (wants_iff v u hlegacy).mpr ⟨henable, hsupport⟩
      refine ⟨rfl, ?_⟩
      -- Without the write the other module would be active.
      by_contra hwritten
      refine h ⟨hwants, ?_⟩
      rw [legacyVersion_setShm v (hshm hwants), hlegacy]
      simpa using hwritten
    · rintro h ⟨hwants, hafter⟩
      rw [legacyVersion_setShm v (hshm hwants), Bool.or_eq_false_iff] at hafter
      obtain ⟨henable, hsupport⟩ := (wants_iff v u hafter.1).mp hwants
      have hwritten := (h henable hsupport hafter.1).2
      exact nomatch hwritten.symm.trans hafter.2
  | qazFirst =>
    obtain ⟨hqaz, hkept, hshm⟩ := qazIfup_of_runs v u hq
    obtain ⟨hdcbx, hkept', _⟩ := dcbxIfup_of_runs v u ((dcbxRuns_congr u hkept).mpr hd)
    have hwants : Wants v u (qazIfup v u s) ↔ Wants v u s := by
      unfold Wants
      rw [hshm]
    show ¬ ((dcbxIfup v u (qazIfup v u s)).dcbxActive = true ∧
      (dcbxIfup v u (qazIfup v u s)).qazActive = true) ↔ _
    rw [qazActive_congr hkept', hdcbx, hwants, hqaz, Bool.not_eq_true']
    constructor
    · intro h henable hsupport hlegacy
      exact absurd ⟨(wants_iff v u hlegacy).mpr ⟨henable, hsupport⟩, hlegacy⟩ h
    · rintro h ⟨hw, hlegacy⟩
      obtain ⟨henable, hsupport⟩ := (wants_iff v u hlegacy).mp hw
      exact nomatch (h henable hsupport hlegacy).1

theorem ifup_dcbx_iff (hd : DcbxRuns u s) (hq : ¬ QazRuns u s) :
    ¬ ((ifup order v u s).dcbxActive = true ∧ (ifup order v u s).qazActive = true) ↔
      (Wants v u s → s.qazActive = false) := by
  obtain ⟨hdcbx, hkept, _⟩ := dcbxIfup_of_runs v u hd
  have heq : ifup order v u s = dcbxIfup v u s := by
    cases order with
    | dcbxFirst => exact qazIfup_of_not_runs v u (fun h => hq ((qazRuns_congr u hkept).mp h))
    | qazFirst => exact congrArg (dcbxIfup v u) (qazIfup_of_not_runs v u hq)
  rw [heq, qazActive_congr hkept, hdcbx, not_and, Bool.not_eq_true]

theorem ifup_qaz_iff (hd : ¬ DcbxRuns u s) (hq : QazRuns u s) :
    ¬ ((ifup order v u s).dcbxActive = true ∧ (ifup order v u s).qazActive = true) ↔
      (dcbxGetLegacyVersion v s = false → s.dcbxActive = false) := by
  obtain ⟨hqaz, hkept, _⟩ := qazIfup_of_runs v u hq
  have heq : ifup order v u s = qazIfup v u s := by
    cases order with
    | dcbxFirst => exact congrArg (qazIfup v u) (dcbxIfup_of_not_runs v u hd)
    | qazFirst => exact dcbxIfup_of_not_runs v u (fun h => hd ((dcbxRuns_congr u hkept).mp h))
  rw [heq, dcbxActive_congr hkept, hqaz, Bool.not_eq_true', and_comm, not_and, Bool.not_eq_true]

theorem ifup_iff (hs : ¬ (s.dcbxActive = true ∧ s.qazActive = true)) :
    OneDialect s (ifup order v u s, false) ↔ IfupClean order v s u := by
  have hone : OneDialect s (ifup order v u s, false) ↔
      ¬ ((ifup order v u s).dcbxActive = true ∧ (ifup order v u s).qazActive = true) :=
    ⟨fun h => h.one, fun h => ⟨h, nofun⟩⟩
  rw [hone]
  by_cases hd : DcbxRuns u s <;> by_cases hq : QazRuns u s
  · rw [ifup_both_iff order v u hd hq]
    exact ⟨fun h => ⟨fun _ _ => h, fun _ hnot => absurd hq hnot, fun hnot => absurd hd hnot⟩,
      fun h => h.both hd hq⟩
  · rw [ifup_dcbx_iff order v u hd hq]
    exact ⟨fun h => ⟨fun _ hyes => absurd hyes hq, fun _ _ => h, fun hnot => absurd hd hnot⟩,
      fun h => h.dcbxOnly hd hq⟩
  · rw [ifup_qaz_iff order v u hd hq]
    exact ⟨fun h => ⟨fun hyes => absurd hyes hd, fun hyes => absurd hyes hd, fun _ _ => h⟩,
      fun h => h.qazOnly hd hq⟩
  · -- Neither module decides.
    have heq : ifup order v u s = s := by
      cases order with
      | dcbxFirst =>
        show qazIfup v u (dcbxIfup v u s) = s
        rw [dcbxIfup_of_not_runs v u hd, qazIfup_of_not_runs v u hq]
      | qazFirst =>
        show dcbxIfup v u (qazIfup v u s) = s
        rw [qazIfup_of_not_runs v u hq, dcbxIfup_of_not_runs v u hd]
    rw [heq]
    exact iff_of_true hs ⟨fun hyes => absurd hyes hd, fun hyes => absurd hyes hd,
      fun _ hyes => absurd hyes hq⟩

end Ifup

/-! ### Every run -/

/-- The condition of one event -/
def Clean (order : Registered) (v : DcbxVersion) (s : DialectPort) : DialectEvent → Prop
  | .ifup u => IfupClean order v s u
  | .lldpdu p _ => LldpduClean order v s p
  | .ifdown .. | .modeReset .. => True

theorem ifdown_dcbxActive (order : Registered) (dcbMode written : Bool) (s : DialectPort) :
    (ifdown order dcbMode written s).dcbxActive = false := by
  obtain ⟨shm, dcbx, qaz⟩ := s
  cases order <;> cases dcbx <;> rfl

theorem next_iff (order : Registered) (v : DcbxVersion) (e : DialectEvent)
    (hs : ¬ (s.dcbxActive = true ∧ s.qazActive = true)) :
    OneDialect s (s.next order v e) ↔ Clean order v s e := by
  cases e with
  | ifup u => exact ifup_iff order v u hs
  | lldpdu p written => exact lldpdu_iff order v p written hs
  | ifdown dcbMode written =>
    refine iff_of_true ⟨?_, nofun⟩ trivial
    rintro ⟨hactive, -⟩
    exact Bool.false_ne_true ((ifdown_dcbxActive order dcbMode written s).symm.trans hactive)
  | modeReset dcbxHw written =>
    refine iff_of_true ⟨?_, nofun⟩ trivial
    show ¬ ((modeReset dcbxHw written s).dcbxActive = true ∧
      (modeReset dcbxHw written s).qazActive = true)
    unfold modeReset
    split
    · exact hs
    · exact hs

/-- In every run of an interface the steps after which at most one protocol is active, and which
switch nothing when they reject an LLDPDU, are those that are clean. -/
theorem oneDialect_iff (order : Registered) (v : DcbxVersion) (shm : DcbxMode)
    (es : List DialectEvent) :
    (dialectSystem order v).StepsMeet (fun s e => OneDialect s (s.next order v e))
        { shm := shm } es ↔
      (dialectSystem order v).StepsMeet (Clean order v) { shm := shm } es := by
  refine System.stepsMeet_iff
    (I := fun s : DialectPort => ¬ (s.dcbxActive = true ∧ s.qazActive = true))
    (fun s e hs => next_iff order v e hs) ?_ es { shm := shm } (fun h => nomatch h.1)
  intro s e t _ hone hstep
  cases hstep
  exact hone.one

/-- The kernel supports both protocols and leaves them to the daemon. -/
def bothSupported : IfupData :=
  { port := true, hwState := true, newSupport := 0x0d, support := 0x0d, enable := true
    written := true, dcbxHw := some 0x0d }

/-- An LLDPDU with a CEE TLV whose first sub-TLV has the length zero -/
def emptySubTlv : Lldpdu :=
  { tlvs := [dcbOui ++ [2, 0, 0]], ends := true, behind := fun _ _ => 0, enabled := true }

/-- After that LLDPDU, which is rejected, both protocols are active. -/
theorem not_oneDialect : ¬ ∀ order v shm es,
    (dialectSystem order v).StepsMeet (fun s e => OneDialect s (s.next order v e))
      { shm := shm } es := by
  intro h
  obtain ⟨_, hrest⟩ := h .dcbxFirst .subtype2 .auto
    [.ifup bothSupported, .lldpdu emptySubTlv true]
  obtain ⟨hone, _⟩ := hrest _ rfl
  exact hone.one (by decide +kernel)

/-! ### While the interface stays up -/

/-- The interface neither comes up nor goes down. -/
def DialectEvent.staysUp : DialectEvent → Bool
  | .lldpdu .. | .modeReset .. => true
  | .ifup _ | .ifdown .. => false

/-- The module of 802.1Qaz gives up on an LLDPDU: it sees the end, and there is a TLV of the older
protocols, which have data for the interface, and none of its own. The older module is not in the
way when it gets the TLVs first. -/
structure DialectPort.LeavesBy (order : Registered) (v : DcbxVersion) (s : DialectPort)
    (p : Lldpdu) : Prop where
  reaches : s.Reaches p
  data : s.dcbx.isSome = true
  legacy : p.legacy = true
  noIeee : p.ieee = false
  unpacks : order = .dcbxFirst → p.unpacks v = true

section StaysUp

variable {order : Registered} {v : DcbxVersion} {t : DialectPort}

/-- The modules with data for the interface are the same ones. -/
structure SameData (s t : DialectPort) : Prop where
  dcbx : t.dcbx.isSome = s.dcbx.isSome
  qaz : t.qaz.isSome = s.qaz.isSome

theorem SameData.trans {u : DialectPort} (h : SameData s t) (h' : SameData t u) : SameData s u :=
  ⟨h'.dcbx.trans h.dcbx, h'.qaz.trans h.qaz⟩

theorem sameData_dcbxRchange (p : Lldpdu) (written : Bool) (tlv : Tlv) (m : DcbxMarks) :
    SameData s (dcbxRchange v p written tlv m s).1 := by
  unfold dcbxRchange
  cases hd : s.dcbx with
  | none => exact ⟨rfl, rfl⟩
  | some d =>
    unfold dcbxRchangeEnd
    dsimp only
    split_ifs <;> refine ⟨?_, rfl⟩ <;> rw [hd] <;> rfl

theorem sameData_qazRchange (tlv : Tlv) : SameData s (qazRchange tlv s).1 := by
  cases hq : s.qaz with
  | none =>
    rw [qazRchange_none hq]
    exact ⟨rfl, rfl⟩
  | some q =>
    rw [qazRchange_some hq]
    exact ⟨rfl, by rw [hq]; rfl⟩

theorem sameData_rchange (p : Lldpdu) (written : Bool) (tlv : Tlv) (m : DcbxMarks) :
    SameData s (rchange order v p written tlv m s).1 := by
  have hdcbx := fun s => sameData_dcbxRchange (s := s) (v := v) p written tlv m
  have hqaz := fun s => sameData_qazRchange (s := s) tlv
  unfold rchange
  cases order with
  | dcbxFirst =>
    dsimp only
    split
    · exact hdcbx s
    · exact (hdcbx s).trans (hqaz _)
  | qazFirst =>
    dsimp only
    split
    · exact hqaz s
    · exact (hqaz s).trans (hdcbx _)

theorem sameData_rxTlvs (p : Lldpdu) (written : Bool) (tlvs : List Tlv) (m : DcbxMarks) :
    SameData s (rxTlvs order v p written tlvs m s).1 := by
  induction tlvs generalizing s m with
  | nil => exact ⟨rfl, rfl⟩
  | cons tlv rest ih =>
    have hone : SameData s (rchange order v p written tlv m s).1 :=
      sameData_rchange p written tlv m
    rw [rxTlvs]
    dsimp only
    split
    · exact hone
    · exact hone.trans (ih _)

theorem sameData_next {e : DialectEvent} (he : e.staysUp = true) :
    SameData s (s.next order v e).1 := by
  cases e with
  | ifup u => cases he
  | ifdown dcbMode written => cases he
  | modeReset dcbxHw written =>
    show SameData s (modeReset dcbxHw written s)
    unfold modeReset
    split <;> exact ⟨rfl, rfl⟩
  | lldpdu p written => exact sameData_rxTlvs p written p.received {}

theorem leavesBy_congr (h : SameData s t) (p : Lldpdu) :
    t.LeavesBy order v p ↔ s.LeavesBy order v p := by
  have hdata : ∀ {s t : DialectPort}, SameData s t → s.LeavesBy order v p →
      t.LeavesBy order v p := by
    intro s t h hleaves
    obtain ⟨⟨hends, hlength, hsingle⟩, hsome, hlegacy, hieee, hunpacks⟩ := hleaves
    refine ⟨⟨hends, ?_, ?_⟩, h.dcbx.trans hsome, hlegacy, hieee, hunpacks⟩
    · rwa [h.dcbx, h.qaz]
    · rwa [h.dcbx]
  exact ⟨hdata ⟨h.dcbx.symm, h.qaz.symm⟩, hdata h⟩

theorem qazActive_of_lldpdu (p : Lldpdu) (written : Bool) :
    (rxLldpdu order v p written s).1.qazActive = true ↔
      s.qazActive = true ∧ ¬ s.LeavesBy order v p := by
  by_cases hreach : s.Reaches p
  · obtain ⟨-, -, hqaz⟩ := rxLldpdu_flags order v p written hreach
    rw [hqaz, Bool.and_eq_true]
    refine and_congr_right fun hactive => ?_
    have hdata := isSome_of_qazActive hactive
    have hleaves : s.LeavesBy order v p ↔ s.dcbx.isSome = true ∧ p.legacy = true ∧
        p.ieee = false ∧ (order = .dcbxFirst → p.unpacks v = true) :=
      ⟨fun h => ⟨h.data, h.legacy, h.noIeee, h.unpacks⟩,
        fun ⟨hd, hl, hi, hu⟩ => ⟨hreach, hd, hl, hi, hu⟩⟩
    rw [hleaves]
    unfold givesUp
    rw [hdata]
    cases order <;> cases s.dcbx.isSome <;> cases p.legacy <;> cases p.ieee <;>
      cases p.unpacks v <;> decide
  · obtain ⟨-, hsame⟩ := rxLldpdu_of_not_reaches order v p written hreach
    rw [hsame.qaz]
    exact ⟨fun h => ⟨h, fun hleaves => hreach hleaves.reaches⟩, And.left⟩

theorem qazActive_of_next {e : DialectEvent} (he : e.staysUp = true) :
    (s.next order v e).1.qazActive = true ↔
      s.qazActive = true ∧ ∀ p written, e = .lldpdu p written → ¬ s.LeavesBy order v p := by
  cases e with
  | ifup u => cases he
  | ifdown dcbMode written => cases he
  | modeReset dcbxHw written =>
    have hsame : (modeReset dcbxHw written s).qazActive = s.qazActive := by
      unfold modeReset
      split <;> rfl
    show (modeReset dcbxHw written s).qazActive = true ↔ _
    rw [hsame]
    exact ⟨fun h => ⟨h, nofun⟩, And.left⟩
  | lldpdu p written =>
    refine (qazActive_of_lldpdu p written).trans (and_congr_right fun _ => ?_)
    exact ⟨fun h _ _ heq => by cases heq; exact h, fun h => h p written rfl⟩

/-- **When a port leaves 802.1Qaz.** While the interface stays up nothing else switches the module
off, and nothing switches it on again. -/
theorem qazActive_of_run {es : List DialectEvent} (hup : ∀ e ∈ es, e.staysUp = true)
    (hrun : (dialectSystem order v).run s es = .ok t) :
    t.qazActive = true ↔ s.qazActive = true ∧
      ∀ p written, .lldpdu p written ∈ es → ¬ s.LeavesBy order v p := by
  induction es generalizing s with
  | nil =>
    cases hrun
    exact ⟨fun h => ⟨h, nofun⟩, And.left⟩
  | cons e es ih =>
    obtain ⟨he, hes⟩ := List.forall_mem_cons.mp hup
    obtain ⟨mid, hmid, hrest⟩ := bind_eq_ok.mp hrun
    cases hmid
    have hsame : SameData s (s.next order v e).1 := sameData_next he
    have hleaves := fun p => @leavesBy_congr _ order v _ hsame p
    rw [ih hes hrest, qazActive_of_next he]
    simp only [hleaves, List.mem_cons]
    constructor
    · rintro ⟨⟨hactive, hfirst⟩, hrest⟩
      refine ⟨hactive, fun p written hmem => ?_⟩
      rcases hmem with heq | hmem
      · exact hfirst p written heq.symm
      · exact hrest p written hmem
    · rintro ⟨hactive, hall⟩
      exact ⟨⟨hactive, fun p written heq => hall p written (.inl heq.symm)⟩,
        fun p written hmem => hall p written (.inr hmem)⟩

/-- A CEE TLV with one sub-TLV of ten bytes -/
def ceeTlv : Bytes := dcbOui ++ [2, 0x02, 0x0a] ++ List.replicate 10 0

/-- An interface that runs 802.1Qaz keeps to it when an LLDPDU has the CEE TLV twice, as its end is
not seen, and when an LLDPDU has a TLV of 802.1Qaz beside it. It leaves with the CEE TLV alone. -/
theorem legacyPeer_leaves :
    let s := ifup .dcbxFirst .subtype2 bothSupported { shm := .auto }
    let cee : Lldpdu := { tlvs := [ceeTlv], ends := true, behind := fun _ _ => 0, enabled := true }
    let twice : Lldpdu := { cee with tlvs := [ceeTlv, ceeTlv] }
    let both : Lldpdu := { cee with tlvs := [ceeTlv, ieee8021qazOui ++ [ieee8021qazPfcTlv]] }
    (∃ t, (dialectSystem .dcbxFirst .subtype2).run s [.lldpdu twice true, .lldpdu both true]
        = .ok t ∧ t.qazActive = true) ∧
      ∃ t, (dialectSystem .dcbxFirst .subtype2).run s
        [.lldpdu twice true, .lldpdu cee true, .lldpdu both true] = .ok t ∧
        t.qazActive = false := by
  intro s cee twice both
  have hactive : s.qazActive = true := by decide
  have hup : ∀ ps : List Lldpdu, ∀ e ∈ ps.map (DialectEvent.lldpdu · true), e.staysUp = true := by
    intro ps e he
    obtain ⟨p, -, rfl⟩ := List.mem_map.mp he
    rfl
  refine ⟨⟨_, rfl, (qazActive_of_run (hup [twice, both]) rfl).mpr ⟨hactive, ?_⟩⟩, ⟨_, rfl, ?_⟩⟩
  · intro p written hmem hleaves
    obtain ⟨p, hp, heq⟩ := List.mem_map.mp hmem
    cases heq
    rcases List.mem_pair.mp hp with rfl | rfl
    · exact absurd (hleaves.reaches.single hleaves.data) (by decide)
    · exact absurd hleaves.noIeee (by decide)
  · rw [← Bool.not_eq_true, qazActive_of_run (hup [twice, cee, both]) rfl]
    rintro ⟨-, hstays⟩
    exact hstays cee true (by simp) ⟨⟨rfl, fun _ => by decide, fun _ => by decide⟩, by decide,
      by decide, by decide, fun _ => by decide⟩

end StaysUp

end Lldpad.Qaz.Dialect
