import Lldpad.Qaz.System

/-!
# `Lldpad.Proofs.Qaz.Rx`: an LLDPDU at the module

The module keeps the first TLV of each kind (`rxOf`) and works on them when the LLDPDU ends.
`Receiving` is the state between two TLVs. `rxLldpdu_cases` says what an LLDPDU does: the
module works on it (`Worked`), or only the received TLVs, the sender's address and `active`
change (`Idle`).

The simp lemmas are the frames of `run_all_sm` and `mibUpdateObjects`.
-/

namespace Lldpad.Qaz

open Lldpad.Lib
open Lldpad.Lldp (Bytes)

/-! ### The received TLVs -/

/-- The TLVs that are kept after one more has come. -/
def UnpkdTlvs.add (rx : UnpkdTlvs) (info : Bytes) : UnpkdTlvs :=
  let keep (subtype : UInt8) (old : Option Bytes) :=
    old.or (if isQazTlv subtype info then some info else none)
  { etscfg := keep ieee8021qazEtscfgTlv rx.etscfg
    etsrec := keep ieee8021qazEtsrecTlv rx.etsrec
    pfc := keep ieee8021qazPfcTlv rx.pfc
    app := keep ieee8021qazAppTlv rx.app }

/-- The TLVs that are kept of an LLDPDU -/
def rxOf (infos : List Bytes) : UnpkdTlvs := infos.foldl UnpkdTlvs.add {}

theorem foldl_add {subtype : UInt8} (get : UnpkdTlvs → Option Bytes)
    (hget : ∀ rx info, get (UnpkdTlvs.add rx info) =
      (get rx).or (if isQazTlv subtype info then some info else none))
    (infos : List Bytes) (rx : UnpkdTlvs) :
    get (infos.foldl UnpkdTlvs.add rx) = (get rx).or (infos.find? (isQazTlv subtype)) := by
  induction infos generalizing rx with
  | nil => simp
  | cons info rest ih =>
    rw [List.foldl_cons, ih, List.find?_cons, hget]
    cases h : isQazTlv subtype info <;> simp

/-! The first one of a kind is kept. -/

theorem rxOf_etscfg (infos : List Bytes) :
    (rxOf infos).etscfg = infos.find? (isQazTlv ieee8021qazEtscfgTlv) := by
  rw [rxOf, foldl_add UnpkdTlvs.etscfg (fun _ _ => rfl), Option.none_or]

theorem rxOf_etsrec (infos : List Bytes) :
    (rxOf infos).etsrec = infos.find? (isQazTlv ieee8021qazEtsrecTlv) := by
  rw [rxOf, foldl_add UnpkdTlvs.etsrec (fun _ _ => rfl), Option.none_or]

theorem rxOf_pfc (infos : List Bytes) :
    (rxOf infos).pfc = infos.find? (isQazTlv ieee8021qazPfcTlv) := by
  rw [rxOf, foldl_add UnpkdTlvs.pfc (fun _ _ => rfl), Option.none_or]

theorem rxOf_app (infos : List Bytes) :
    (rxOf infos).app = infos.find? (isQazTlv ieee8021qazAppTlv) := by
  rw [rxOf, foldl_add UnpkdTlvs.app (fun _ _ => rfl), Option.none_or]

/-- The module works on an LLDPDU: no TLV is too short, and the port does not leave 802.1Qaz to
the older protocols. -/
def worksOn (tlvs : QazTlvs) (p : Lldpdu) : Bool :=
  p.wellFormed && tlvs.active && !(p.dcbx && rxOf p.tlvs = {})

/-- The module in the middle of an LLDPDU of `mac`, that came to `old`: it has kept `rx`. -/
structure Receiving (mac : Bytes) (old : QazTlvs) (rx : UnpkdTlvs) (tlvs : QazTlvs) : Prop where
  same : tlvs = { old with rx := some rx, qazdu := tlvs.qazdu, remoteMac := tlvs.remoteMac }
  remoteMac : tlvs.remoteMac = mac ∨ tlvs.remoteMac = old.remoteMac
  kept : rx.pfc.isSome = true ∨ rx.app.isSome = true → tlvs.qazdu = true ∧ tlvs.remoteMac = mac
  /-- The LLDPDU has a TLV of 802.1Qaz when one is kept. -/
  nonempty : tlvs.qazdu = true ↔ rx ≠ {}

variable {mac : Bytes} {rx : UnpkdTlvs}

variable {old tlvs tlvs' : QazTlvs}

theorem Receiving.skip {rx rx' : UnpkdTlvs}
    (h : Receiving mac old rx tlvs) (hrx : rx' = rx) : Receiving mac old rx' tlvs := hrx ▸ h

/-- A TLV of 802.1Qaz: the sender is noted, and the TLV is kept unless there is one of its
kind. -/
theorem Receiving.unpack {info : Bytes}
    (h : Receiving mac old rx tlvs) (hlen : ouiSubSize ≤ info.length)
    (houi : info.take 3 = ieee8021qazOui) :
    ∃ tlvs' kept, unpackQazTlvs info { tlvs with remoteMac := mac } = .ok (tlvs', kept) ∧
      Receiving mac old (rx.add info) tlvs' := by
  obtain ⟨b, hb⟩ : ∃ b, info[3]? = some b :=
    ⟨info[3], List.getElem?_eq_getElem (by unfold ouiSubSize at hlen; omega)⟩
  have hkind (s : UInt8) : isQazTlv s info = (b == s) := by
    unfold isQazTlv
    rw [houi, hb]
    simp
  have hrx : tlvs.rx = some rx := by rw [h.same]
  have hkept : Receiving mac old rx { tlvs with remoteMac := mac, rx := some rx } :=
    ⟨by rw [h.same], .inl rfl, fun hsome => ⟨(h.kept hsome).1, rfl⟩, h.nonempty⟩
  -- The TLV is the first of its kind.
  have hfirst (rx' : UnpkdTlvs) (hadd : rx.add info = rx') (hne : rx' ≠ {}) :
      Receiving mac old (rx.add info)
        { tlvs with remoteMac := mac, rx := some rx', qazdu := true } := by
    rw [hadd]
    exact ⟨by rw [h.same], .inl rfl, fun _ => ⟨rfl, rfl⟩, ⟨fun _ => hne, fun _ => rfl⟩⟩
  unfold unpackQazTlvs
  rw [hrx, readAt_eq_ok.mpr hb]
  simp only [bind_ok, pure_eq_ok]
  split_ifs with hb hnew hb hnew hb hnew hb hnew
  all_goals first
    | subst hb
      refine ⟨_, true, rfl, hfirst _ ?_ (by simp)⟩
      simp [UnpkdTlvs.add, hkind, hnew, ieee8021qazEtscfgTlv, ieee8021qazEtsrecTlv,
        ieee8021qazPfcTlv, ieee8021qazAppTlv]
    | refine ⟨_, false, rfl, hkept.skip ?_⟩
      -- The TLV is not the first of its kind, or of no kind.
      cases rx
      simp_all [UnpkdTlvs.add, Option.ne_none_iff_exists', ieee8021qazEtscfgTlv,
        ieee8021qazEtsrecTlv, ieee8021qazPfcTlv, ieee8021qazAppTlv]
      try (obtain ⟨v, hv⟩ := hnew; simp [hv])

theorem Receiving.tlv {info : Bytes}
    (dcbx : Bool) (h : Receiving mac old rx tlvs) (hlen : ouiSubSize ≤ info.length) :
    ∃ tlvs' answer, qazRchange mac dcbx tlvs { type := type127, info := info } =
        .ok (tlvs', answer) ∧ answer ≠ .tlvErr ∧ Receiving mac old (rx.add info) tlvs' := by
  unfold qazRchange
  rw [if_neg (show type127 ≠ type1 by decide), if_pos rfl, if_neg (Nat.not_lt.mpr hlen)]
  by_cases houi : info.take 3 = ieee8021qazOui
  · rw [if_neg (by simpa using houi)]
    obtain ⟨tlvs', kept, hunpack, hr⟩ := h.unpack hlen houi
    exact ⟨tlvs', .tlvOk, bind_eq_ok.mpr ⟨(tlvs', kept), hunpack, rfl⟩, by decide, hr⟩
  · rw [if_pos houi]
    have hkind (s : UInt8) : isQazTlv s info = false := by
      unfold isQazTlv
      simp [houi]
    exact ⟨tlvs, .subtypeInvalid, rfl, by decide, h.skip (by simp [UnpkdTlvs.add, hkind])⟩

/-- The TLVs of an LLDPDU one by one. The end follows when none is too short, and is not
reached otherwise. -/
theorem Receiving.rxTlvs (dcbx : Bool) (infos : List Bytes) (h : Receiving mac old rx tlvs) :
    ∃ rx' tlvs', Receiving mac old rx' tlvs' ∧
      if infos.all (ouiSubSize ≤ ·.length) then
        rx' = infos.foldl UnpkdTlvs.add rx ∧
          Qaz.rxTlvs mac dcbx (infos.map (fun info => { type := type127, info := info }) ++
            [{ type := type0, info := [] }]) tlvs = qazEnd dcbx tlvs'
      else
        Qaz.rxTlvs mac dcbx (infos.map (fun info => { type := type127, info := info }) ++
            [{ type := type0, info := [] }]) tlvs = .ok tlvs' := by
  induction infos generalizing tlvs rx with
  | nil =>
    refine ⟨rx, tlvs, h, rfl, ?_⟩
    -- Only the end is left.
    show (qazRchange mac dcbx tlvs { type := type0, info := [] } >>= _) = _
    unfold qazRchange
    rw [if_neg (by decide), if_neg (by decide), if_pos rfl]
    cases qazEnd dcbx tlvs <;> rfl
  | cons info rest ih =>
    rw [List.all_cons, List.map_cons, List.cons_append, Qaz.rxTlvs]
    by_cases hlen : ouiSubSize ≤ info.length
    · obtain ⟨tlvs₁, answer, hstep, hanswer, h₁⟩ := h.tlv dcbx hlen
      obtain ⟨rx', tlvs', hr, hrest⟩ := ih h₁
      refine ⟨rx', tlvs', hr, ?_⟩
      rw [hstep, bind_ok, decide_eq_true hlen, Bool.true_and]
      dsimp only
      rw [if_neg hanswer]
      exact hrest
    · -- The TLV is in error.
      refine ⟨rx, tlvs, h, ?_⟩
      have hstep : qazRchange mac dcbx tlvs { type := type127, info := info } =
          .ok (tlvs, .tlvErr) := by
        unfold qazRchange
        rw [if_neg (by show ¬ type127 = type1; decide), if_pos rfl, if_pos (Nat.not_le.mp hlen)]
      rw [hstep, decide_eq_false hlen]
      rfl

theorem receiving_start (mac : Bytes) (tlvs : QazTlvs) :
    Receiving mac tlvs {} { tlvs with rx := some {}, qazdu := false } :=
  ⟨rfl, .inr rfl, fun h => by simp at h, ⟨nofun, fun h => absurd rfl h⟩⟩

/-! ### Frames -/

@[simp] theorem appSethw_active (tlvs : QazTlvs) : (appSethw tlvs).active = tlvs.active := by
  unfold appSethw
  split_ifs <;> rfl

@[simp] theorem appSethw_pending (tlvs : QazTlvs) : (appSethw tlvs).pending = tlvs.pending := by
  unfold appSethw
  split_ifs <;> rfl

@[simp] theorem appSethw_pfc (tlvs : QazTlvs) : (appSethw tlvs).pfc = tlvs.pfc := by
  unfold appSethw
  split_ifs <;> rfl

@[simp] theorem appSethw_localMac (tlvs : QazTlvs) : (appSethw tlvs).localMac = tlvs.localMac := by
  unfold appSethw
  split_ifs <;> rfl

@[simp] theorem appSethw_remoteMac (tlvs : QazTlvs) :
    (appSethw tlvs).remoteMac = tlvs.remoteMac := by
  unfold appSethw
  split_ifs <;> rfl

@[simp] theorem appSethw_tx (tlvs : QazTlvs) : (appSethw tlvs).tx = tlvs.tx := by
  unfold appSethw
  split_ifs <;> rfl

theorem appSethw_appHead (tlvs : QazTlvs) :
    (appSethw tlvs).appHead =
      if checkActive tlvs then (appSethw' tlvs.appHead).1 else tlvs.appHead := by
  unfold appSethw
  split_ifs <;> rfl

theorem appSethw_flushes (tlvs : QazTlvs) :
    (appSethw tlvs).hw.flushes = tlvs.hw.flushes + (checkActive tlvs).toNat := by
  unfold appSethw
  split_ifs with h
  · simp [h]
  · simp [Bool.eq_false_iff.mpr h]

@[simp] theorem appSethw_hwPfc (tlvs : QazTlvs) : (appSethw tlvs).hw.pfc = tlvs.hw.pfc := by
  unfold appSethw
  split_ifs <;> rfl

theorem runAllSm_eq (tlvs : QazTlvs) :
    runAllSm tlvs =
      let pfc := (pfcSm tlvs).pfc
      let next := { tlvs with ets := etsSm tlvs.ets, pfc := pfc }
      let obj := pfcObj pfc
      if checkActive tlvs then
        appSethw { next with hw := { tlvs.hw with
          ets := some (operEts (etsSm tlvs.ets))
          pfc := some { pfcEn := obj.pfcEnable, mbc := obj.mbc, delay := obj.delay.toUInt16 } } }
      else next := by
  have hsm : pfcSm { tlvs with ets := etsSm tlvs.ets } =
      { tlvs with ets := etsSm tlvs.ets, pfc := (pfcSm tlvs).pfc } := by
    unfold pfcSm
    dsimp only
    split_ifs <;> rfl
  unfold runAllSm
  dsimp only
  rw [hsm]
  rfl

@[simp] theorem runAllSm_active (tlvs : QazTlvs) : (runAllSm tlvs).active = tlvs.active := by
  rw [runAllSm_eq]
  split_ifs <;> simp

@[simp] theorem runAllSm_pending (tlvs : QazTlvs) : (runAllSm tlvs).pending = tlvs.pending := by
  rw [runAllSm_eq]
  split_ifs <;> simp

@[simp] theorem runAllSm_localMac (tlvs : QazTlvs) :
    (runAllSm tlvs).localMac = tlvs.localMac := by
  rw [runAllSm_eq]
  split_ifs <;> simp

@[simp] theorem runAllSm_remoteMac (tlvs : QazTlvs) :
    (runAllSm tlvs).remoteMac = tlvs.remoteMac := by
  rw [runAllSm_eq]
  split_ifs <;> simp

@[simp] theorem runAllSm_pfc (tlvs : QazTlvs) : (runAllSm tlvs).pfc = (pfcSm tlvs).pfc := by
  rw [runAllSm_eq]
  split_ifs <;> simp

theorem runAllSm_appHead (tlvs : QazTlvs) :
    (runAllSm tlvs).appHead =
      if checkActive tlvs then (appSethw' tlvs.appHead).1 else tlvs.appHead := by
  rw [runAllSm_eq]
  split_ifs with h
  · rw [appSethw_appHead]
    exact if_pos h
  · rfl

theorem runAllSm_flushes (tlvs : QazTlvs) :
    (runAllSm tlvs).hw.flushes = tlvs.hw.flushes + (checkActive tlvs).toNat := by
  rw [runAllSm_eq]
  split_ifs with h
  · rw [appSethw_flushes]
    rfl
  · simp [Bool.eq_false_iff.mpr h]

theorem mibUpdateObjects_eq_ok (h : mibUpdateObjects rx tlvs = .ok tlvs') :
    ∃ cfgr recr pfc appHead, mibUpdatePfc rx tlvs.pfc = .ok pfc ∧
      mibUpdateApp rx tlvs.appHead = .ok appHead ∧ tlvs' = { tlvs with
        ets := { tlvs.ets with cfgr := cfgr, recr := recr }, pfc := pfc, appHead := appHead } := by
  obtain ⟨cfgr, _, h⟩ := bind_eq_ok.mp h
  obtain ⟨recr, _, h⟩ := bind_eq_ok.mp h
  obtain ⟨pfc, hpfc, h⟩ := bind_eq_ok.mp h
  obtain ⟨appHead, happ, h⟩ := bind_eq_ok.mp h
  exact ⟨cfgr, recr, pfc, appHead, hpfc, happ, (Except.ok.inj h).symm⟩

/-! ### What an LLDPDU does -/

/-- The module did not work on an LLDPDU of `mac`. -/
structure Idle (mac : Bytes) (old tlvs' : QazTlvs) : Prop where
  same : tlvs' = { old with
    active := tlvs'.active, rx := tlvs'.rx, qazdu := tlvs'.qazdu, remoteMac := tlvs'.remoteMac }
  remoteMac : tlvs'.remoteMac = mac ∨ tlvs'.remoteMac = old.remoteMac
  active : tlvs'.active = true → old.active = true

/-- The module worked on the TLVs `rx` of an LLDPDU of `mac`: `mid` are the new objects. -/
structure Worked (mac : Bytes) (dcbx : Bool) (old : QazTlvs) (rx : UnpkdTlvs)
    (mid tlvs' : QazTlvs) : Prop where
  active : old.active = true
  stays : dcbx = true → rx ≠ {}
  objects : ∃ qazdu remoteMac, (remoteMac = mac ∨ remoteMac = old.remoteMac) ∧
    mibUpdateObjects rx { old with
      rx := some rx, qazdu := qazdu, remoteMac := remoteMac
      pending := if qazdu then false else old.pending } = .ok mid
  /-- With a PFC or an application TLV the port is no longer pending, and knows the sender. -/
  noted : rx.pfc.isSome = true ∨ rx.app.isSome = true → mid.pending = false ∧ mid.remoteMac = mac
  result : tlvs' = { runAllSm mid with rx := none, localChange := true }

theorem Worked.worksOn {p : Lldpdu} {mid : QazTlvs}
    (h : Worked mac p.dcbx old (rxOf p.tlvs) mid tlvs') (hwf : p.wellFormed = true) :
    worksOn old p = true := by
  unfold Qaz.worksOn
  cases hd : p.dcbx with
  | true => simp [hwf, h.active, h.stays hd]
  | false => simp [hwf, h.active]

theorem qazEnd_cases {dcbx : Bool}
    (hr : Receiving mac old rx tlvs) (h : qazEnd dcbx tlvs = .ok tlvs') :
    (tlvs'.active = false ∧ Idle mac old tlvs') ∨ ∃ mid, Worked mac dcbx old rx mid tlvs' := by
  have hsame := hr.same
  have hactive : tlvs.active = old.active := by rw [hsame]
  unfold qazEnd at h
  by_cases hleave : (tlvs.active && dcbx && !tlvs.qazdu) = true
  · -- The port leaves 802.1Qaz to the older protocols.
    rw [if_pos hleave] at h
    cases h
    exact .inl ⟨rfl, ⟨by rw [hsame], hr.remoteMac, nofun⟩⟩
  · rw [if_neg hleave] at h
    by_cases hact : tlvs.active = true
    · rw [if_pos hact, show tlvs.rx = some rx by rw [hsame]] at h
      obtain ⟨mid, hmid, h⟩ := bind_eq_ok.mp h
      have hstays : dcbx = true → rx ≠ {} := by
        intro hdcbx
        refine hr.nonempty.mp ?_
        simpa [hact, hdcbx] using hleave
      refine .inr ⟨mid, hactive.symm.trans hact, hstays,
        ⟨tlvs.qazdu, tlvs.remoteMac, hr.remoteMac, ?_⟩,
        ?_,
        (Except.ok.inj h).symm⟩
      · rw [← hmid, hsame]
        split_ifs <;> rfl
      · intro hsome
        obtain ⟨cfgr, recr, pfc, appHead, -, -, rfl⟩ := mibUpdateObjects_eq_ok hmid
        rw [if_pos (hr.kept hsome).1]
        exact ⟨rfl, (hr.kept hsome).2⟩
    · rw [if_neg hact] at h
      cases h
      exact .inl ⟨Bool.eq_false_iff.mpr hact,
        ⟨by rw [hsame], hr.remoteMac, fun h => by rw [← hactive]; exact h⟩⟩

theorem rxLldpdu_cases {p : Lldpdu} (h : rxLldpdu mac p old = .ok tlvs') :
    ((p.wellFormed && tlvs'.active) = false ∧ Idle mac old tlvs') ∨
      (p.wellFormed && tlvs'.active) = true ∧
        ∃ mid, Worked mac p.dcbx old (rxOf p.tlvs) mid tlvs' := by
  obtain ⟨rx', t, hr, hrun⟩ := (receiving_start mac old).rxTlvs p.dcbx p.tlvs
  have hstart : rxLldpdu mac p old = rxTlvs mac p.dcbx
      (p.tlvs.map (fun info => { type := type127, info := info }) ++
        [{ type := type0, info := [] }]) { old with rx := some {}, qazdu := false } := rfl
  rw [hstart] at h
  unfold Lldpdu.wellFormed
  split_ifs at hrun with hwf
  · obtain ⟨rfl, hrun⟩ := hrun
    rw [hwf, Bool.true_and]
    rcases qazEnd_cases hr (hrun.symm.trans h) with ⟨hactive, hidle⟩ | ⟨mid, hw⟩
    · exact .inl ⟨hactive, hidle⟩
    · refine .inr ⟨?_, mid, hw⟩
      obtain ⟨qazdu, remoteMac, -, hmid⟩ := hw.objects
      obtain ⟨cfgr, recr, pfc, appHead, -, -, rfl⟩ := mibUpdateObjects_eq_ok hmid
      rw [hw.result]
      simpa using hw.active
  · cases hrun.symm.trans h
    have hsame := hr.same
    rw [Bool.not_eq_true] at hwf
    rw [hwf, Bool.false_and]
    exact .inl ⟨rfl, ⟨by rw [hsame], hr.remoteMac, fun h => by rw [hsame] at h; exact h⟩⟩

end Lldpad.Qaz
