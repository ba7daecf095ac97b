import Lldpad.Proofs.Qaz.Rx

/-!
# `Lldpad.Proofs.Qaz.PfcAgreement`: two ports agree on PFC

`pfc_sm` always decides (`pfcSm_pfc`), by the two willing bits, the two addresses and
whether the neighbour's TLV is there. After a run of the machine the driver has the decision
(`Ran`). What a port knows of its neighbour is the neighbour's (`Processed.knows`).

Two ports that have worked on each other's TLV hold the same four facts, and the comparison of
the addresses is opposite at the two ends (`cmpMacAddrs_comm`). So one of them decides for its
own configuration and the other one follows it (`pfc_agreement`).

A port that gets no PFC TLV any more forgets that there is one, and not that the neighbour was
willing. `NoStaleWilling` is the condition under which this does no harm.
-/

namespace Lldpad.Qaz

open Lldpad.Lib
open Lldpad.Lldp (Bytes)

/-! ### The decision of `pfc_sm` -/

theorem cmpMacAddrs_comm {a b : Bytes} (hlen : a.length = b.length) (hne : a ≠ b) :
    cmpMacAddrs a b = !cmpMacAddrs b a := by
  induction a generalizing b with
  | nil =>
    cases b with
    | nil => exact (hne rfl).elim
    | cons => cases hlen
  | cons x a ih =>
    cases b with
    | nil => cases hlen
    | cons y b =>
      rw [cmpMacAddrs, cmpMacAddrs]
      by_cases hxy : x = y
      · subst hxy
        rw [if_pos rfl, if_pos rfl]
        exact ih (Nat.succ.inj hlen) fun h => hne (by rw [h])
      · rw [if_neg hxy, if_neg (Ne.symm hxy)]
        rcases UInt8.lt_or_lt_of_ne hxy with hlt | hlt
        · simp [hlt, UInt8.not_lt.mpr (UInt8.le_of_lt hlt)]
        · simp [hlt, UInt8.not_lt.mpr (UInt8.le_of_lt hlt)]

/-- The state that `pfc_sm` decides for -/
def pfcDecision (willing remoteWilling remoteParam cmpMac : Bool) : QazState :=
  if willing && (if remoteWilling then !cmpMac else remoteParam) then .rxRecommend else .init

/-- The decision for a port as it is -/
def QazTlvs.pfcChoice (tlvs : QazTlvs) : QazState :=
  pfcDecision tlvs.pfc.localPfc.willing tlvs.pfc.remotePfc.willing tlvs.pfc.remoteParam
    (cmpMacAddrs tlvs.localMac tlvs.remoteMac)

theorem pfcSm_pfc (tlvs : QazTlvs) :
    (pfcSm tlvs).pfc = { tlvs.pfc with currentState := tlvs.pfcChoice } := by
  unfold pfcSm QazTlvs.pfcChoice pfcDecision
  cases tlvs.pfc.localPfc.willing <;> cases tlvs.pfc.remotePfc.willing <;>
    cases tlvs.pfc.remoteParam <;> cases cmpMacAddrs tlvs.localMac tlvs.remoteMac <;> rfl

/-- What the driver gets of a PFC configuration -/
def PfcObj.toIeee (obj : PfcObj) : IeeePfc :=
  { pfcEn := obj.pfcEnable, mbc := obj.mbc, delay := obj.delay.toUInt16 }

/-- The machine has run: the state is the decision, and the driver has the configuration that
goes with it. -/
structure Ran (tlvs : QazTlvs) : Prop where
  state : tlvs.pfc.currentState = tlvs.pfcChoice
  driver : checkActive tlvs = true → tlvs.hw.pfc = some (pfcObj tlvs.pfc).toIeee

theorem ran_runAllSm (tlvs : QazTlvs) : Ran (runAllSm tlvs) := by
  refine ⟨?_, fun hactive => ?_⟩
  · unfold QazTlvs.pfcChoice
    rw [runAllSm_pfc, pfcSm_pfc, runAllSm_localMac, runAllSm_remoteMac]
    rfl
  · have hchecked : checkActive tlvs = true := by
      unfold checkActive at hactive ⊢
      rwa [runAllSm_active, runAllSm_pending] at hactive
    rw [runAllSm_pfc, runAllSm_eq]
    rw [if_pos hchecked, appSethw_hwPfc]
    rfl

/-! ### The PFC TLV -/

theorem flags_read (w c : Bool) {n : UInt8} (hn : n < 64) :
    decide ((flagBit w 7 ||| flagBit c 6 ||| n) &&& 0x80 ≠ 0) = w ∧
      decide ((flagBit w 7 ||| flagBit c 6 ||| n) &&& 0x40 ≠ 0) = c ∧
      (flagBit w 7 ||| flagBit c 6 ||| n) &&& 0x0F = n &&& 0x0F := by
  have hall : ∀ (k : Fin 64) (w c : Bool),
      decide ((flagBit w 7 ||| flagBit c 6 ||| UInt8.ofNat k) &&& 0x80 ≠ 0) = w ∧
        decide ((flagBit w 7 ||| flagBit c 6 ||| UInt8.ofNat k) &&& 0x40 ≠ 0) = c ∧
        (flagBit w 7 ||| flagBit c 6 ||| UInt8.ofNat k) &&& 0x0F = UInt8.ofNat k &&& 0x0F := by
    decide +kernel
  have hread := hall ⟨n.toNat, UInt8.lt_iff_toNat_lt.mp hn⟩ w c
  rwa [UInt8.ofNat_toNat] at hread

/-- The value of `pfc_enable` that a port announces -/
def PfcAttrib.announcedEnable (pfc : PfcAttrib) : UInt8 :=
  match pfc.currentState with
  | .init => pfc.localPfc.pfcEnable
  | .rxRecommend => pfc.remotePfc.pfcEnable

theorem processPfcTlv_eq {own : PfcAttrib} (hcap : own.localPfc.pfcCap < 64) (pfc : PfcAttrib) :
    processPfcTlv (bldPfcTlv own) pfc = .ok { pfc with
      remotePfc := { pfc.remotePfc with
        willing := own.localPfc.willing
        mbc := own.localPfc.mbc
        pfcCap := own.localPfc.pfcCap &&& 0x0F
        pfcEnable := own.announcedEnable }
      remoteParam := true } := by
  obtain ⟨hwilling, hmbc, hread⟩ := flags_read own.localPfc.willing own.localPfc.mbc hcap
  have hbuilt : bldPfcTlv own = tlvHeader ieee8021qazPfcTlv ++
      [flagBit own.localPfc.willing 7 ||| flagBit own.localPfc.mbc 6 ||| own.localPfc.pfcCap,
        own.announcedEnable] := rfl
  have hat := at_append (tlvHeader ieee8021qazPfcTlv) [flagBit own.localPfc.willing 7 |||
    flagBit own.localPfc.mbc 6 ||| own.localPfc.pfcCap, own.announcedEnable] []
  rw [List.append_nil, ← hbuilt] at hat
  unfold processPfcTlv
  rw [show ouiSubSize = (tlvHeader ieee8021qazPfcTlv).length from rfl, readAt_of_at hat, bind_ok,
    readAt_of_at hat.tail, bind_ok, hwilling, hmbc, hread]
  rfl

theorem processPfcTlv_bldPfcTlv {other pfc pfc' : PfcAttrib}
    (hcap : other.localPfc.pfcCap.toNat ≤ maxTcs)
    (h : processPfcTlv (bldPfcTlv other) pfc = .ok pfc') :
    pfc'.remoteParam = true ∧ pfc'.remotePfc.willing = other.localPfc.willing ∧
      pfc'.remotePfc.pfcEnable = other.announcedEnable := by
  have hfits : other.localPfc.pfcCap < 64 :=
    UInt8.lt_iff_toNat_lt.mpr (Nat.lt_of_le_of_lt hcap (by decide))
  rw [processPfcTlv_eq hfits] at h
  cases h
  exact ⟨rfl, rfl, rfl⟩

/-! ### What an event does to one end -/

/-- What an event makes of the end that it is about -/
inductive PfcMove (l : Link) (s : Side) : LinkEvent → LinkEnd → Prop
  | command (c : QazCommand) :
      PfcMove l s (.command s c) { l.get s with
        tlvs := setArg c (l.get s).tlvs, stale := (l.get s).stale || c.writesPfc }
  | transmit (apps : Option (List DcbApp)) (dcbx : Bool) (sent : List Lldpdu) :
      PfcMove l s (.transmit s apps dcbx) { l.get s with
        tlvs := { runAllSm (l.get s).tlvs with localChange := false }
        sent := sent
        stale := false }
  | idle (i : Nat) (tlvs' : QazTlvs) :
      Idle (l.get s.other).tlvs.localMac (l.get s).tlvs tlvs' →
      PfcMove l s (.deliver s i) { l.get s with tlvs := tlvs' }
  | worked (i : Nat) (p : Lldpdu) (mid tlvs' : QazTlvs) :
      (l.get s.other).sent[i]? = some p → worksOn (l.get s).tlvs p = true →
      Worked (l.get s.other).tlvs.localMac p.dcbx (l.get s).tlvs (rxOf p.tlvs) mid tlvs' →
      PfcMove l s (.deliver s i) { l.get s with tlvs := tlvs', peerPfc := p.hasPfc, stale := false }
  | mibDelete :
      PfcMove l s (.mibDelete s) { l.get s with
        tlvs := mibDeleteObject (l.get s).tlvs, peerPfc := false, stale := true }
  | checkPending :
      PfcMove l s (.checkPending s) { l.get s with
        tlvs := Qaz.checkPending (l.get s).tlvs
        stale :=
          if (l.get s).tlvs.active && (l.get s).tlvs.pending then false else (l.get s).stale }

variable {l : Link} {e : LinkEvent} {t' t : QazTlvs} {s : Side}

theorem linkStep_cases {l' : Link} (h : linkStep l e = .ok l') :
    l' = l ∨ ∃ s x, PfcMove l s e x ∧ l' = l.set s x := by
  cases e with
  | command s c => exact .inr ⟨s, _, .command c, (Except.ok.inj h).symm⟩
  | mibDelete s => exact .inr ⟨s, _, .mibDelete, (Except.ok.inj h).symm⟩
  | checkPending s => exact .inr ⟨s, _, .checkPending, (Except.ok.inj h).symm⟩
  | transmit s apps dcbx =>
    obtain ⟨⟨tlvs, out⟩, hget, h⟩ := bind_eq_ok.mp h
    obtain ⟨out', -, hget⟩ := bind_eq_ok.mp hget
    cases hget
    exact .inr ⟨s, _, .transmit apps dcbx _, (Except.ok.inj h).symm⟩
  | deliver s i =>
    unfold linkStep at h
    dsimp only at h
    cases hp : (l.get s.other).sent[i]? with
    | none =>
      rw [hp] at h
      exact .inl (Except.ok.inj h).symm
    | some p =>
      rw [hp] at h
      obtain ⟨tlvs', hrx, h⟩ := bind_eq_ok.mp h
      refine .inr ?_
      rcases rxLldpdu_cases hrx with ⟨hwork, hidle⟩ | ⟨hwork, mid, hw⟩
      · rw [hwork] at h
        exact ⟨s, _, .idle i tlvs' hidle, (Except.ok.inj h).symm⟩
      · rw [hwork] at h
        have hwf := (Bool.and_eq_true_iff.mp hwork).1
        exact ⟨s, _, .worked i p mid tlvs' hp (hw.worksOn hwf) hw, (Except.ok.inj h).symm⟩

/-! ### What holds at one end -/

/-- The end with the address `mac`, whose neighbour has the address `other` -/
structure PfcEnd (x : LinkEnd) (mac other : Bytes) : Prop where
  localMac : x.tlvs.localMac = mac
  remoteMac : x.tlvs.pfc.remoteParam = true ∨ x.tlvs.pfc.remotePfc.willing = true →
    x.tlvs.remoteMac = other
  param : x.tlvs.pfc.remoteParam = x.peerPfc
  heard : x.tlvs.pfc.remoteParam = true → x.tlvs.pending = false
  ran : x.stale = false → Ran x.tlvs
  cap : x.tlvs.pfc.localPfc.pfcCap.toNat ≤ maxTcs

/-- Nothing changes that PFC depends on. A port may leave 802.1Qaz, and the address of the
neighbour may be noted. -/
structure PfcKept (other : Bytes) (t t' : QazTlvs) : Prop where
  pfc : t'.pfc = t.pfc
  localMac : t'.localMac = t.localMac
  remoteMac : t'.remoteMac = other ∨ t'.remoteMac = t.remoteMac
  active : t'.active = true → t.active = true
  pending : t'.pending = t.pending
  driver : t'.hw.pfc = t.hw.pfc

theorem pfcChoice_congr (hpfc : t'.pfc = t.pfc) (hlocal : t'.localMac = t.localMac)
    (hremote : t.pfc.remotePfc.willing = true → t'.remoteMac = t.remoteMac) :
    t'.pfcChoice = t.pfcChoice := by
  unfold QazTlvs.pfcChoice
  rw [hpfc, hlocal]
  cases hw : t.pfc.remotePfc.willing with
  | false => rfl
  | true => rw [hremote hw]

variable {mac other : Bytes} {x : LinkEnd}

theorem PfcEnd.kept (h : PfcEnd x mac other)
    (hk : PfcKept other x.tlvs t') : PfcEnd { x with tlvs := t' } mac other := by
  have hmac (hknown : x.tlvs.pfc.remoteParam = true ∨ x.tlvs.pfc.remotePfc.willing = true) :
      t'.remoteMac = other := hk.remoteMac.elim id fun hsame => hsame.trans (h.remoteMac hknown)
  refine ⟨hk.localMac.trans h.localMac, ?_, ?_, ?_, fun hs => ⟨?_, fun hactive => ?_⟩, ?_⟩
  · show t'.pfc.remoteParam = true ∨ t'.pfc.remotePfc.willing = true → _
    rw [hk.pfc]
    exact hmac
  · rw [hk.pfc]
    exact h.param
  · show t'.pfc.remoteParam = true → t'.pending = false
    rw [hk.pfc, hk.pending]
    exact h.heard
  · rw [hk.pfc, (h.ran hs).state]
    refine (pfcChoice_congr hk.pfc hk.localMac fun hw => ?_).symm
    rw [hmac (.inr hw), h.remoteMac (.inr hw)]
  · obtain ⟨hact, hpend⟩ := Bool.and_eq_true_iff.mp hactive
    have hchecked : checkActive x.tlvs = true := by
      unfold checkActive
      rw [hk.active hact, ← hk.pending]
      exact hpend
    rw [hk.driver, hk.pfc]
    exact (h.ran hs).driver hchecked
  · show t'.pfc.localPfc.pfcCap.toNat ≤ maxTcs
    rw [hk.pfc]
    exact h.cap

theorem pfcEnd_of_run (x : LinkEnd) (mid : QazTlvs) (peer b : Bool)
    (r : Option UnpkdTlvs) (hlocal : mid.localMac = mac)
    (hremote : mid.pfc.remoteParam = true ∨ mid.pfc.remotePfc.willing = true →
      mid.remoteMac = other)
    (hparam : mid.pfc.remoteParam = peer)
    (hheard : mid.pfc.remoteParam = true → mid.pending = false)
    (hcap : mid.pfc.localPfc.pfcCap.toNat ≤ maxTcs) :
    PfcEnd { x with
      tlvs := { runAllSm mid with rx := r, localChange := b }, peerPfc := peer, stale := false }
      mac other := by
  have hpfc : (runAllSm mid).pfc = { mid.pfc with currentState := mid.pfcChoice } := by
    rw [runAllSm_pfc, pfcSm_pfc]
  have hran := ran_runAllSm mid
  refine ⟨?_, ?_, ?_, ?_, fun _ => ⟨hran.state, hran.driver⟩, ?_⟩
  · simpa using hlocal
  · simp only [runAllSm_remoteMac, hpfc]
    exact hremote
  · simp only [hpfc]
    exact hparam
  · simp only [hpfc, runAllSm_pending]
    exact hheard
  · simp only [hpfc]
    exact hcap

theorem PfcEnd.written (h : PfcEnd x mac other)
    {f : PfcObj → PfcObj} (hf : ∀ obj, (f obj).pfcCap = obj.pfcCap) :
    PfcEnd { x with tlvs := (x.tlvs.setLocalPfc f).somethingChangedLocal, stale := true }
      mac other := by
  refine ⟨h.localMac, h.remoteMac, h.param, h.heard, nofun, ?_⟩
  show (f x.tlvs.pfc.localPfc).pfcCap.toNat ≤ maxTcs
  rw [hf]
  exact h.cap

theorem PfcEnd.command (h : PfcEnd x mac other) (c : QazCommand) :
    PfcEnd { x with tlvs := setArg c x.tlvs, stale := x.stale || c.writesPfc } mac other := by
  cases c with
  | pfcWilling | enabled | delay =>
    simp only [QazCommand.writesPfc, Bool.or_true]
    exact h.written fun _ => rfl
  | etsWilling | tlvtxenable =>
    simp only [QazCommand.writesPfc, Bool.or_false]
    exact h.kept ⟨rfl, rfl, .inr rfl, fun h => h, rfl, rfl⟩
  | app prio sel pid delete =>
    simp only [QazCommand.writesPfc, Bool.or_false]
    refine h.kept ?_
    unfold setArg
    dsimp only
    split_ifs
    · constructor <;> simp [QazTlvs.somethingChangedLocal]
    · exact ⟨rfl, rfl, .inr rfl, fun h => h, rfl, rfl⟩

theorem mibUpdatePfc_cases {p : Lldpdu} {pfc pfc' : PfcAttrib}
    (h : mibUpdatePfc (rxOf p.tlvs) pfc = .ok pfc') :
    pfc'.localPfc = pfc.localPfc ∧ pfc'.remoteParam = p.hasPfc ∧
      (p.hasPfc = true → (rxOf p.tlvs).pfc.isSome = true) ∧
      (p.hasPfc = false → pfc'.remotePfc = pfc.remotePfc) := by
  have hhas : p.hasPfc = (rxOf p.tlvs).pfc.isSome := by
    rw [rxOf_pfc, List.isSome_find?]
    rfl
  unfold mibUpdatePfc at h
  cases hrx : (rxOf p.tlvs).pfc with
  | none =>
    rw [hrx] at h hhas
    cases h
    exact ⟨rfl, hhas.symm, fun h => hhas ▸ h, fun _ => rfl⟩
  | some info =>
    rw [hrx] at h hhas
    obtain ⟨wmrc, -, h⟩ := bind_eq_ok.mp h
    obtain ⟨pfcEnable, -, h⟩ := bind_eq_ok.mp h
    cases h
    exact ⟨rfl, hhas.symm, fun _ => rfl, fun h => by rw [h] at hhas; cases hhas⟩

/-- Every event leaves what holds at an end. -/
theorem PfcMove.pfcEnd (h : PfcMove l s e x) (hs : PfcEnd (l.get s) mac other)
    (ho : (l.get s.other).tlvs.localMac = other) : PfcEnd x mac other := by
  cases h with
  | command c => exact hs.command c
  | transmit apps dcbx sent =>
    exact pfcEnd_of_run { l.get s with sent := sent } (l.get s).tlvs (l.get s).peerPfc false _
      hs.localMac hs.remoteMac hs.param hs.heard hs.cap
  | idle i tlvs' hidle =>
    have hsame := hidle.same
    refine hs.kept ⟨?_, ?_, ?_, hidle.active, ?_, ?_⟩
    · rw [hsame]
    · rw [hsame]
    · rw [← ho]
      exact hidle.remoteMac
    · rw [hsame]
    · rw [hsame]
  | worked i p mid tlvs' hp hworks hw =>
    obtain ⟨qazdu, remoteMac, hfrom, hmid⟩ := hw.objects
    obtain ⟨cfgr, recr, pfc, appHead, hpfc, -, rfl⟩ := mibUpdateObjects_eq_ok hmid
    obtain ⟨hlocal, hparam, hsome, hkept⟩ := mibUpdatePfc_cases hpfc
    rw [hw.result]
    refine pfcEnd_of_run _ _ p.hasPfc true none hs.localMac (fun hknown => ?_) hparam
      (fun hrp => ?_) ?_
    · cases hhas : p.hasPfc with
      | true => exact (hw.noted (.inl (hsome hhas))).2.trans ho
      | false =>
        -- The willing bit is an old one, and the address with it.
        have hwilling : (l.get s).tlvs.pfc.remotePfc.willing = true := by
          rw [← hkept hhas]
          rw [hparam, hhas] at hknown
          exact hknown.resolve_left Bool.false_ne_true
        rcases hfrom with rfl | rfl
        · exact ho
        · exact hs.remoteMac (.inr hwilling)
    · exact (hw.noted (.inl (hsome (hparam.symm.trans hrp)))).1
    · rw [hlocal]
      exact hs.cap
  | mibDelete =>
    refine ⟨hs.localMac, fun h => ?_, rfl, nofun, nofun, hs.cap⟩
    exact (h.elim Bool.false_ne_true Bool.false_ne_true).elim
  | checkPending =>
    unfold Qaz.checkPending
    split_ifs with hwait
    · have hrun := pfcEnd_of_run (l.get s)
        { (l.get s).tlvs with pending := false, appHead := appReset (l.get s).tlvs.appHead }
        (l.get s).peerPfc true (runAllSm
          { (l.get s).tlvs with pending := false, appHead := appReset (l.get s).tlvs.appHead }).rx
        hs.localMac hs.remoteMac hs.param (fun _ => rfl) hs.cap
      exact hrun
    · exact hs

/-! ### What is left of a neighbour that sends no PFC TLV -/

/-- The neighbour was willing, and its address is the higher one. -/
def staleWilling (tlvs : QazTlvs) : Bool :=
  tlvs.pfc.remotePfc.willing && !cmpMacAddrs tlvs.localMac tlvs.remoteMac

theorem staleWilling_congr (hpfc : t'.pfc.remotePfc = t.pfc.remotePfc)
    (hlocal : t'.localMac = t.localMac)
    (hremote : t.pfc.remotePfc.willing = true → t'.remoteMac = t.remoteMac) :
    staleWilling t' = staleWilling t := by
  unfold staleWilling
  rw [hpfc, hlocal]
  cases hw : t.pfc.remotePfc.willing with
  | false => rfl
  | true => rw [hremote hw]

/-- No port that is willing is left with a willing neighbour of a higher address whose PFC TLV
is gone, and no port becomes willing then. -/
def NoStaleWilling (l : Link) : LinkEvent → Prop
  | .deliver s i => ∀ p, (l.get s.other).sent[i]? = some p → worksOn (l.get s).tlvs p = true →
    p.hasPfc = false → (l.get s).tlvs.pfc.localPfc.willing = true →
    staleWilling (l.get s).tlvs = false
  | .command s (.pfcWilling true) => (l.get s).tlvs.active = true →
    (l.get s).tlvs.pfc.remoteParam = false → staleWilling (l.get s).tlvs = false
  | _ => True

/-- A willing port whose neighbour sends no PFC TLV goes by its own configuration. -/
def PfcAlone (tlvs : QazTlvs) : Prop :=
  tlvs.active = true → tlvs.pfc.remoteParam = false → tlvs.pfc.localPfc.willing = true →
    staleWilling tlvs = false

theorem PfcAlone.congr (h : PfcAlone t) (hactive : t'.active = t.active)
    (hparam : t'.pfc.remoteParam = t.pfc.remoteParam)
    (hwilling : t'.pfc.localPfc.willing = t.pfc.localPfc.willing)
    (hstale : staleWilling t' = staleWilling t) : PfcAlone t' := by
  intro ha hp hw
  rw [hstale]
  exact h (hactive ▸ ha) (hparam ▸ hp) (hwilling ▸ hw)

theorem PfcAlone.run (h : PfcAlone t) : PfcAlone (runAllSm t) := by
  refine h.congr (runAllSm_active t) ?_ ?_ (staleWilling_congr ?_ (runAllSm_localMac t) ?_)
  all_goals simp [pfcSm_pfc]

theorem PfcMove.alone (h : PfcMove l s e x) (hs : PfcEnd (l.get s) mac other)
    (ho : (l.get s.other).tlvs.localMac = other) (hc : NoStaleWilling l e)
    (ha : PfcAlone (l.get s).tlvs) : PfcAlone x.tlvs := by
  cases h with
  | command c =>
    cases c with
    | pfcWilling willing =>
      cases willing with
      | true => exact fun hactive hparam _ => hc hactive hparam
      | false => exact fun _ _ hw => (Bool.false_ne_true hw).elim
    | app prio sel pid delete =>
      show PfcAlone (setArg _ _)
      unfold setArg
      dsimp only
      split_ifs
      · refine ha.congr ?_ ?_ ?_ (staleWilling_congr ?_ ?_ ?_)
        all_goals simp [QazTlvs.somethingChangedLocal]
      · exact ha
    | _ => exact ha
  | transmit apps dcbx sent => exact ha.run
  | idle i tlvs' hidle =>
    have hsame := hidle.same
    have hremote : (l.get s).tlvs.pfc.remotePfc.willing = true →
        tlvs'.remoteMac = (l.get s).tlvs.remoteMac := by
      intro hw
      have hother := hs.remoteMac (.inr hw)
      exact hidle.remoteMac.elim (fun h => h.trans (ho.trans hother.symm)) id
    intro hactive
    have hstale : staleWilling tlvs' = staleWilling (l.get s).tlvs :=
      staleWilling_congr (by rw [hsame]) (by rw [hsame]) hremote
    have halone := ha (hidle.active hactive)
    rw [hstale, hsame]
    exact halone
  | worked i p mid tlvs' hp hworks hw =>
    obtain ⟨qazdu, remoteMac, hfrom, hmid⟩ := hw.objects
    obtain ⟨cfgr, recr, pfc, appHead, hpfc, -, hnew⟩ := mibUpdateObjects_eq_ok hmid
    obtain ⟨hlocal, hparam, hsome, hkept⟩ := mibUpdatePfc_cases hpfc
    rw [hw.result]
    refine PfcAlone.run fun _ hrp hwilling => ?_
    have hhas : p.hasPfc = false := by
      rw [← hparam, ← hrp, hnew]
    have hold := hc p hp hworks hhas (by rw [hnew] at hwilling; rw [← hlocal]; exact hwilling)
    have hsame : staleWilling mid = staleWilling (l.get s).tlvs := by
      refine staleWilling_congr ?_ (by rw [hnew]) fun hw' => ?_
      · rw [hnew]
        exact hkept hhas
      · rw [hnew]
        exact hfrom.elim (fun h => h.trans (ho.trans (hs.remoteMac (.inr hw')).symm)) id
    exact hsame.trans hold
  | mibDelete => exact fun _ _ _ => rfl
  | checkPending =>
    unfold Qaz.checkPending
    split_ifs with hwait
    · exact PfcAlone.run (t := { (l.get s).tlvs with
        pending := false, appHead := appReset (l.get s).tlvs.appHead }) ha
    · exact ha

/-! ### What holds on a link -/

theorem Link.get_set (l : Link) (s s' : Side) (x : LinkEnd) :
    (l.set s x).get s' = if s' = s then x else l.get s' := by
  cases s <;> cases s' <;> rfl

/-- What holds at both ends -/
structure PfcLink (l : Link) : Prop where
  ends : ∃ mac : Side → Bytes, (∀ s, mac s ≠ mac s.other) ∧
    (∀ s, (mac s).length = (mac s.other).length) ∧ ∀ s, PfcEnd (l.get s) (mac s) (mac s.other)

theorem PfcLink.step {l' : Link} (h : PfcLink l) (he : linkStep l e = .ok l') :
    PfcLink l' := by
  obtain ⟨mac, hne, hlen, hends⟩ := h.ends
  rcases linkStep_cases he with rfl | ⟨s, x, hmove, rfl⟩
  · exact ⟨mac, hne, hlen, hends⟩
  · refine ⟨mac, hne, hlen, fun s' => ?_⟩
    rw [Link.get_set]
    split_ifs with hs
    · rw [hs]
      exact hmove.pfcEnd (hends s) (hends s.other).localMac
    · exact hends s'

theorem pfcEnd_init {cfg : QazConfig} (hcap : cfg.pfcCapOk) (other : Bytes) :
    PfcEnd { tlvs := qazIfup cfg } cfg.mac other := by
  refine ⟨rfl, fun h => ?_, rfl, nofun, fun _ => ⟨?_, fun hactive => ?_⟩, hcap⟩
  · exact (h.elim Bool.false_ne_true Bool.false_ne_true).elim
  · show QazState.init = pfcDecision cfg.pfc.willing false false _
    unfold pfcDecision
    simp
  · -- A port that is active is waiting.
    have hflags : (!cfg.legacy && !(!cfg.legacy)) = true := hactive
    simp at hflags

theorem pfcLink_init (h : linkSystem.init l) :
    PfcLink l ∧ ∀ s, PfcAlone (l.get s).tlvs := by
  obtain ⟨cfg, cfg', hne, hlen, hlen', hcap, hcap', rfl⟩ := h
  refine ⟨⟨Side.rec cfg.mac cfg'.mac, ?_, ?_, ?_⟩, ?_⟩
  · rintro (_ | _)
    · exact hne
    · exact hne.symm
  · rintro (_ | _)
    · exact hlen.trans hlen'.symm
    · exact hlen'.trans hlen.symm
  · rintro (_ | _)
    · exact pfcEnd_init hcap _
    · exact pfcEnd_init hcap' _
  · rintro (_ | _) <;> exact fun _ _ _ => rfl

theorem pfcLink_of_reachableWhere (h : linkSystem.ReachableWhere NoStaleWilling l) :
    PfcLink l ∧ ∀ s, PfcAlone (l.get s).tlvs := by
  refine h.invariant (I := fun l => PfcLink l ∧ ∀ s, PfcAlone (l.get s).tlvs)
    (fun l₀ h₀ => pfcLink_init h₀) fun l₁ e l₂ hI hc he => ⟨hI.1.step he, ?_⟩
  obtain ⟨mac, -, -, hends⟩ := hI.1.ends
  rcases linkStep_cases he with rfl | ⟨s, x, hmove, rfl⟩
  · exact hI.2
  · intro s'
    rw [Link.get_set]
    split_ifs with hs
    · exact hmove.alone (hends s) (hends s.other).localMac hc (hI.2 s)
    · exact hI.2 s'

/-! ### Agreement -/

/-- An end has worked on the PFC TLV that its neighbour sends, and the machine has run on the
configuration of this end. -/
structure Processed (l : Link) (s : Side) : Prop where
  active : (l.get s).tlvs.active = true
  ran : (l.get s).stale = false
  current : processPfcTlv (bldPfcTlv (l.get s.other).tlvs.pfc) (l.get s).tlvs.pfc =
    .ok (l.get s).tlvs.pfc

/-- One end goes by its own configuration, the other one follows it, and both drivers have its
`pfc_enable`. -/
def PfcAgree (l : Link) : Prop :=
  ∃ s : Side, (l.get s).tlvs.pfc.currentState = .init ∧
    (l.get s.other).tlvs.pfc.currentState = .rxRecommend ∧
    (l.get s).tlvs.hw.pfc.map (·.pfcEn) = some (l.get s).tlvs.pfc.localPfc.pfcEnable ∧
    (l.get s.other).tlvs.hw.pfc.map (·.pfcEn) = some (l.get s).tlvs.pfc.localPfc.pfcEnable

theorem Processed.knows (h : Processed l s)
    (hcap : (l.get s.other).tlvs.pfc.localPfc.pfcCap.toNat ≤ maxTcs) :
    (l.get s).tlvs.pfc.remoteParam = true ∧
      (l.get s).tlvs.pfc.remotePfc.willing = (l.get s.other).tlvs.pfc.localPfc.willing ∧
      (l.get s).tlvs.pfc.remotePfc.pfcEnable = (l.get s.other).tlvs.pfc.announcedEnable :=
  processPfcTlv_bldPfcTlv hcap h.current

theorem pfcDecision_opposite {w w' c : Bool} (hw : w = true ∨ w' = true) :
    (pfcDecision w w' true c = .init ∧ pfcDecision w' w true (!c) = .rxRecommend) ∨
      (pfcDecision w w' true c = .rxRecommend ∧ pfcDecision w' w true (!c) = .init) := by
  cases w <;> cases w' <;> cases c <;> simp_all [pfcDecision]

theorem PfcLink.agree (hl : PfcLink l) (hp : ∀ s, Processed l s)
    (hw : ∃ s, (l.get s).tlvs.pfc.localPfc.willing = true) : PfcAgree l := by
  obtain ⟨mac, hne, hlen, hends⟩ := hl.ends
  have hknows (s : Side) := (hp s).knows (hends s.other).cap
  have hran (s : Side) := (hends s).ran (hp s).ran
  have hstate (s : Side) : (l.get s).tlvs.pfc.currentState =
      pfcDecision (l.get s).tlvs.pfc.localPfc.willing (l.get s.other).tlvs.pfc.localPfc.willing
        true (cmpMacAddrs (mac s) (mac s.other)) := by
    rw [(hran s).state, QazTlvs.pfcChoice, (hknows s).1, (hknows s).2.1, (hends s).localMac,
      (hends s).remoteMac (.inl (hknows s).1)]
  have hdriver (s : Side) : (l.get s).tlvs.hw.pfc = some (pfcObj (l.get s).tlvs.pfc).toIeee := by
    refine (hran s).driver ?_
    unfold checkActive
    rw [(hp s).active, (hends s).heard (hknows s).1]
    rfl
  -- The end that decides for itself
  have hone : ∃ s : Side, (l.get s).tlvs.pfc.currentState = .init ∧
      (l.get s.other).tlvs.pfc.currentState = .rxRecommend := by
    have hcmp := cmpMacAddrs_comm (hlen .right) (hne .right)
    have hboth : (l.get .left).tlvs.pfc.localPfc.willing = true ∨
        (l.get .right).tlvs.pfc.localPfc.willing = true := by
      obtain ⟨s, hs⟩ := hw
      cases s with
      | left => exact .inl hs
      | right => exact .inr hs
    have hright := hstate .right
    rw [hcmp] at hright
    rcases pfcDecision_opposite hboth with ⟨hl, hr⟩ | ⟨hl, hr⟩
    · exact ⟨.left, (hstate .left).trans hl, hright.trans hr⟩
    · exact ⟨.right, hright.trans hr, (hstate .left).trans hl⟩
  obtain ⟨s, hinit, hrx⟩ := hone
  refine ⟨s, hinit, hrx, ?_, ?_⟩
  · rw [hdriver s, pfcObj, hinit]
    rfl
  · have henable := (hknows s.other).2.2
    rw [hdriver s.other, pfcObj, hrx]
    show some (l.get s.other).tlvs.pfc.remotePfc.pfcEnable = _
    rw [henable]
    have hback : s.other.other = s := by cases s <;> rfl
    rw [hback, PfcAttrib.announcedEnable, hinit]

theorem PfcEnd.alone (h : PfcEnd x mac other)
    (ha : PfcAlone x.tlvs) (hactive : x.tlvs.active = true) (hstale : x.stale = false)
    (hpeer : x.peerPfc = false) :
    pfcObj x.tlvs.pfc = x.tlvs.pfc.localPfc ∧
      (checkActive x.tlvs = true → x.tlvs.hw.pfc = some x.tlvs.pfc.localPfc.toIeee) := by
  have hparam := h.param.trans hpeer
  have hinit : x.tlvs.pfc.currentState = .init := by
    rw [(h.ran hstale).state, QazTlvs.pfcChoice, pfcDecision, hparam]
    cases hw : x.tlvs.pfc.localPfc.willing with
    | false => rfl
    | true =>
      have hs := ha hactive hparam hw
      unfold staleWilling at hs
      cases hr : x.tlvs.pfc.remotePfc.willing with
      | false => rfl
      | true =>
        rw [hr] at hs
        simp [Bool.and_eq_false_imp.mp hs rfl]
  have hobj : pfcObj x.tlvs.pfc = x.tlvs.pfc.localPfc := by
    unfold pfcObj
    rw [hinit]
  exact ⟨hobj, fun hchecked => hobj ▸ (h.ran hstale).driver hchecked⟩

/-- Two ports that have worked on each other's PFC TLV use the same `pfc_enable` when one of
them is willing, and a port whose neighbour sends no PFC TLV uses its own configuration. -/
theorem pfc_agreement (l : Link) (h : linkSystem.ReachableWhere NoStaleWilling l) :
    ((∀ s, Processed l s) → (∃ s, (l.get s).tlvs.pfc.localPfc.willing = true) → PfcAgree l) ∧
    ∀ s, (l.get s).tlvs.active = true → (l.get s).stale = false → (l.get s).peerPfc = false →
      pfcObj (l.get s).tlvs.pfc = (l.get s).tlvs.pfc.localPfc ∧
      (checkActive (l.get s).tlvs = true →
        (l.get s).tlvs.hw.pfc = some (l.get s).tlvs.pfc.localPfc.toIeee) := by
  obtain ⟨hl, halone⟩ := pfcLink_of_reachableWhere h
  obtain ⟨mac, -, -, hends⟩ := hl.ends
  exact ⟨hl.agree, fun s => (hends s).alone (halone s)⟩

/-! ### A neighbour that stops sending its PFC TLV -/

/-- A willing port -/
def willingConfig (last pfcEnable : UInt8) : QazConfig where
  mac := [2, 0, 0, 0, 0, last]
  pfc := { willing := true, pfcCap := 8, pfcEnable := pfcEnable }

/-- Two willing ports. The right one has the higher address. -/
def willingLink : Link where
  left := { tlvs := qazIfup (willingConfig 1 0x08) }
  right := { tlvs := qazIfup (willingConfig 2 0x10) }

theorem willingLink_init : linkSystem.init willingLink :=
  ⟨willingConfig 1 0x08, willingConfig 2 0x10, by decide, rfl, rfl, Nat.le_refl 8,
    Nat.le_refl 8, rfl⟩

/-- The left port follows the right one, whose PFC TLV is then switched off. The left port still
follows it. -/
theorem pfc_alone_follows :
    ∃ l, linkSystem.Reachable l ∧ (l.get .left).tlvs.active = true ∧
      (l.get .left).stale = false ∧ (l.get .left).peerPfc = false ∧
      checkActive (l.get .left).tlvs = true ∧
      (l.get .left).tlvs.hw.pfc.map (·.pfcEn) = some 0x10 ∧
      (l.get .left).tlvs.pfc.localPfc.pfcEnable = 0x08 := by
  obtain ⟨l, hrun, hl⟩ := linkSystem.exists_run willingLink
    [.transmit .right none false, .deliver .left 0, .command .right (.tlvtxenable { pfc := false }),
      .transmit .right none false, .deliver .left 1]
    (fun l => (l.get .left).tlvs.active && !(l.get .left).stale && !(l.get .left).peerPfc &&
      checkActive (l.get .left).tlvs &&
      ((l.get .left).tlvs.hw.pfc.map (·.pfcEn) = some 0x10 : Bool) &&
      ((l.get .left).tlvs.pfc.localPfc.pfcEnable = 0x08 : Bool)) (by decide +kernel)
  simp only [Bool.and_eq_true, Bool.not_eq_true', decide_eq_true_eq] at hl
  exact ⟨l, ⟨willingLink, _, willingLink_init, hrun⟩, hl.1.1.1.1.1, hl.1.1.1.1.2, hl.1.1.1.2,
    hl.1.1.2, hl.1.2, hl.2⟩

/-- No neighbour was willing before the event. -/
def freshWilling (l : Link) : LinkEvent → Bool
  | .deliver s _ | .command s _ => !staleWilling (l.get s).tlvs
  | _ => true

theorem noStaleWilling_of_fresh (l : Link) (e : LinkEvent) (h : freshWilling l e = true) :
    NoStaleWilling l e := by
  cases e with
  | deliver s i => exact fun _ _ _ _ _ => (Bool.not_eq_true' _).mp h
  | command s c =>
    cases c with
    | pfcWilling willing =>
      cases willing with
      | true => exact fun _ _ => (Bool.not_eq_true' _).mp h
      | false => trivial
    | _ => trivial
  | _ => trivial

/-- The two ports have worked on each other's TLV: the left one follows the right one. -/
theorem pfc_agreement_willing :
    ∃ l : Link, (∀ s, Processed l s) ∧ PfcAgree l := by
  obtain ⟨l, hrun, hl⟩ :=
    linkSystem.exists_runWhere freshWilling noStaleWilling_of_fresh willingLink
    [.transmit .right none false, .deliver .left 0, .transmit .left none false, .deliver .right 0]
    (fun l => (([.left, .right] : List Side).all fun s =>
      (l.get s).tlvs.active && !(l.get s).stale &&
        ((processPfcTlv (bldPfcTlv (l.get s.other).tlvs.pfc) (l.get s).tlvs.pfc).toOption =
          some (l.get s).tlvs.pfc : Bool)) && (l.get .left).tlvs.pfc.localPfc.willing)
    (by decide +kernel)
  have hproc (s : Side) : Processed l s := by
    have hall := List.all_eq_true.mp (Bool.and_eq_true_iff.mp hl).1 s (by cases s <;> simp)
    simp only [Bool.and_eq_true, Bool.not_eq_true', decide_eq_true_eq] at hall
    refine ⟨hall.1.1, hall.1.2, ?_⟩
    have hread := hall.2
    cases hp : processPfcTlv (bldPfcTlv (l.get s.other).tlvs.pfc) (l.get s).tlvs.pfc with
    | error f => rw [hp] at hread; cases hread
    | ok pfc => rw [hp] at hread; rw [Option.some.inj hread]
  have hreach : linkSystem.ReachableWhere NoStaleWilling l :=
    ⟨willingLink, _, willingLink_init, hrun⟩
  exact ⟨l, hproc, (pfc_agreement l hreach).1 hproc ⟨.left, (Bool.and_eq_true_iff.mp hl).2⟩⟩

end Lldpad.Qaz
