import Lldpad.Proofs.Qbg.Confirmed

/-!
# `Lldpad.Proofs.Qbg.VsiEnd`: how a run of the station machine ends a VSI

`vdp22st_end` tells the requestor that its VSI ended and removes it, or leaves it in the queue for
the next poll: `vdp22stEnd_spec`.

A run that ends a VSI may have sent another message before, from `VDP22_ASSOC_NEW` or
`VDP22_PREASSOC_NEW`. `Talk` follows the messages of a run. After such a message the machine only
comes to the end when a transmission fails, and `vdp22_back` puts the failure into the message.
So no message before the last one looks like it: `vdp22stRun_spec`.
-/

namespace Lldpad.Qbg

open Lldpad.Lib

/-! ### The end -/

/-- The VSI reached `VDP22_END`. -/
def Vsi22Ctx.ended (x : Vsi22Ctx) : Bool := x.vsi.smi.state = .station .vdpEnd

/-- What the requestor is told of the end of a VSI. -/
def endMsg (v : Vsi22) : VdpnlVsi := vdp22BackMsg v (havepid v)

/-- The requestor is told at once: it is on the control interface, or it does not poll. -/
def endReported (v : Vsi22) : Bool := havepid v = 0 || v.flags.notify

/-- What `vdp22st_end` makes of a VSI. -/
def endedVsi (v : Vsi22) : Vsi22 :=
  { v with
    vsiMode := vdp22Deassoc
    ccVsiMode := vdp22Deassoc
    flags := { v.flags with deleteMe := true, busy := false } }

variable {x : Vsi22Ctx}

theorem vdp22Back_live (pid : Int) (hlive : x.freed = false)
    (hkeep : x.vsi.flags.deleteMe = false) :
    vdp22Back pid x = { x with back := x.back ++ [vdp22BackMsg x.vsi pid] } := by
  unfold vdp22Back
  rw [deref_of_live hlive]
  exact if_neg (by simp [hkeep])

theorem vdp22Back_deleted (pid : Int) (hlive : x.freed = false)
    (hdelete : x.vsi.flags.deleteMe = true) :
    vdp22Back pid x =
      { x with back := x.back ++ [vdp22BackMsg x.vsi pid], freed := true } := by
  unfold vdp22Back vdp22ListdelVsi vdp22DeleteVsi
  rw [deref_of_live hlive]
  rw [if_pos hdelete, Vsi22Ctx.deref, if_neg (by simp [hlive])]

theorem vdp22Clntback_eq (x : Vsi22Ctx) :
    vdp22Clntback x = if havepid x.vsi = 0 then vdp22Back 0 x.deref else x.deref := by
  unfold vdp22Clntback
  dsimp only
  rw [deref_vsi]

theorem vdp22Nlback_eq (x : Vsi22Ctx) :
    vdp22Nlback x =
      if havepid x.vsi = 0 then x.deref else vdp22Back (havepid x.vsi) x.deref := by
  unfold vdp22Nlback
  dsimp only
  rw [deref_vsi]
  split_ifs <;> first | rfl | contradiction

theorem vdp22stEnd_spec (hlive : x.freed = false) :
    (vdp22stEnd x).vsi = endedVsi x.vsi ∧
      (vdp22stEnd x).freed = endReported x.vsi ∧
      (vdp22stEnd x).back =
        x.back ++ if endReported x.vsi then [endMsg (endedVsi x.vsi)] else [] := by
  let e : Vsi22Ctx :=
    { x with vsi := endedVsi x.vsi, timers := { x.timers with ackto := 0, kato := 0 } }
  have hend : vdp22stEnd x = vdp22Clntback (if e.vsi.flags.notify then vdp22Nlback e else e) := by
    unfold vdp22stEnd vdp22stStopKatimer vdp22stStopAcktimer Vsi22Ctx.setFlags
    rw [deref_of_live hlive]
    rfl
  have helive : e.freed = false := hlive
  have hedelete : e.vsi.flags.deleteMe = true := rfl
  have hpid : havepid e.vsi = havepid x.vsi := rfl
  rw [hend, vdp22Clntback_eq, vdp22Nlback_eq, deref_of_live helive, hpid]
  unfold endReported endMsg
  by_cases hzero : havepid x.vsi = 0
  · -- the control interface is told, whatever the flag says
    rw [if_pos hzero, ite_self, hpid, if_pos hzero, deref_of_live helive,
      vdp22Back_deleted 0 helive hedelete]
    simp [hzero, e]
  · rw [if_neg hzero]
    cases hnotify : x.vsi.flags.notify with
    | false =>
      have hsame : e.vsi.flags.notify = false := hnotify
      rw [hsame, if_neg Bool.false_ne_true, hpid, if_neg hzero, deref_of_live helive]
      simp [hzero, e, hlive]
    | true =>
      have hsame : e.vsi.flags.notify = true := hnotify
      rw [hsame, if_pos rfl, vdp22Back_deleted _ helive hedelete]
      have hkept : ¬ havepid (endedVsi x.vsi) = 0 := hzero
      simp [hkept, e, Vsi22Ctx.deref]
      rfl

/-! ### What a run leaves alone -/

/-- What identifies a VSI -/
def vsiKey (v : Vsi22) : Octets 16 × UInt64 × UInt8 × UInt8 × Octets 16 × UInt8 :=
  (v.mgrid, v.typeId, v.typeVer, v.vsiFmt, v.vsi, v.fif)

theorem vdp22VsiEqual_iff (p q : Vsi22) : vdp22VsiEqual p q = true ↔ vsiKey p = vsiKey q := by
  simp [vdp22VsiEqual, vsiKey, and_assoc]

/-- A node in a run that found the VSI as `v`, which is not to be deleted -/
structure Undisturbed (v : Vsi22) (x : Vsi22Ctx) : Prop where
  live : x.freed = false
  keep : x.vsi.flags.deleteMe = false
  notify : x.vsi.flags.notify = v.flags.notify
  fdata : x.vsi.fdata = v.fdata
  key : vsiKey x.vsi = vsiKey v
  deassoc : x.vsi.smi.deassoc = v.smi.deassoc

variable {y : Vsi22Ctx} {v : Vsi22} {rc : Int} {b : Bool}

theorem Undisturbed.process (hx : Undisturbed v x) (rc : Int) :
    Undisturbed v (vdp22stProcess rc x) := by
  unfold vdp22stProcess
  split_ifs <;> exact ⟨hx.live, hx.keep, hx.notify, hx.fdata, hx.key, hx.deassoc⟩

theorem Undisturbed.clntback (hx : Undisturbed v x) :
    Undisturbed v (vdp22Clntback x) := by
  rw [vdp22Clntback_eq, deref_of_live hx.live, vdp22Back_live 0 hx.live hx.keep]
  split_ifs
  · exact ⟨hx.live, hx.keep, hx.notify, hx.fdata, hx.key, hx.deassoc⟩
  · exact hx

theorem Undisturbed.act (hx : Undisturbed v x) (rc : Int) :
    Undisturbed v (vdp22stAction rc x) := by
  unfold vdp22stAction
  rw [deref_of_live hx.live]
  dsimp only
  split
  case h_2 | h_7 => exact hx.process rc
  case h_3 | h_4 =>
    exact Undisturbed.clntback ⟨hx.live, hx.keep, hx.notify, hx.fdata, hx.key, hx.deassoc⟩
  case h_8 =>
    refine Undisturbed.process ?_ rc
    exact ⟨hx.live, hx.keep, hx.notify, hx.fdata, hx.key, hx.deassoc⟩
  case h_10 => exact hx
  all_goals exact ⟨hx.live, hx.keep, hx.notify, hx.fdata, hx.key, hx.deassoc⟩

theorem Undisturbed.move {x : Vsi22Ctx} (hx : Undisturbed v x)
    (h : vdp22stMoveState x = .ok (y, b)) : Undisturbed v y := by
  unfold vdp22stMoveState at h
  rw [deref_of_live hx.live] at h
  rcases vdp22stNextState_eq_ok h with hr | ⟨s, hr⟩
  · cases hr
    exact hx
  · cases hr
    exact ⟨hx.live, hx.keep, hx.notify, hx.fdata, hx.key, hx.deassoc⟩

/-! ### The messages of a run -/

/-- A message that reports a transmission that failed -/
def reportsTxmitError (m : VdpnlVsi) : Bool := m.response.toNat.testBit 10

theorem backMsg_txmitError (v : Vsi22) (pid : Int) :
    reportsTxmitError (vdp22BackMsg v pid) = decide (v.smi.txmitError ≠ 0) := by
  have hstatus : v.status.toNat.testBit 10 = false :=
    Nat.testBit_lt_two_pow (v.status.toNat_lt.trans (by decide))
  have hcode : (vdp22GetsmErrcode v <<< 8 : UInt16).toNat.testBit 10 =
      decide (v.smi.txmitError ≠ 0) := by
    unfold vdp22GetsmErrcode
    by_cases herror : v.smi.txmitError = 0
    · rw [if_neg (not_not.mpr herror)]
      cases v.smi.kato <;> cases v.smi.acktimeout <;> simp [herror] <;> decide
    · rw [if_pos herror]
      cases v.smi.kato <;> cases v.smi.acktimeout <;> simp [herror] <;> decide
  show (v.status.toUInt16 ||| (vdp22GetsmErrcode v <<< 8 : UInt16)).toNat.testBit 10 = _
  rw [UInt16.toNat_or, Nat.testBit_or, hcode, UInt8.toNat_toUInt16, hstatus, Bool.false_or]

/-- Nothing was heard since the last transmission, or it failed. -/
def Quiet (smi : Vdp22smi) : Prop :=
  smi.txmitError ≠ 0 ∨ smi.ackreceived = false ∧ smi.acktimeout = false

/-- What was heard of the bridge: only its request to disassociate sets the flag. -/
def Heard (v : Vsi22) : Prop :=
  v.smi.respOk = true → v.smi.deassoc = true → v.respVsiMode = vdp22Deassoc

/-- Where the machine may be after a message to the control interface -/
def SaidAt (smi : Vdp22smi) : Prop :=
  match smi.state with
  | .station .assocNew | .station .preassocNew | .station .assocCompl | .station .waitSyscmd
  | .station .waitSyscmd2 | .station .stationProc | .station .txmitKa => True
  | .station .stationProcwait | .station .txmitKawait => Quiet smi
  | .station .vdpEnd => smi.txmitError ≠ 0
  | _ => False

/-- The messages of a run -/
structure Saying (x : Vsi22Ctx) : Prop where
  wait : x.vsi.smi.state = .station .stationProcwait →
    Quiet x.vsi.smi ∨ x.back = [] ∧ Heard x.vsi
  answer : x.vsi.smi.state = .station .stationProcwait2 →
    x.back = [] ∧ Heard x.vsi ∧ x.vsi.smi.txmitError = 0
  said : x.back ≠ [] → x.vsi.smi.deassoc = false ∧ SaidAt x.vsi.smi
  msgs : ∀ m ∈ x.back, reportsTxmitError m = false

/-- The states in which a message is sent to the control interface -/
def isNew (s : Vdp22SmState) : Prop := s = .station .assocNew ∨ s = .station .preassocNew

/-- Before an action -/
structure Talk (x : Vsi22Ctx) : Prop extends Saying x where
  new : isNew x.vsi.smi.state →
    x.back = [] ∧ x.vsi.smi.deassoc = false ∧ x.vsi.smi.txmitError = 0

/-- After an action -/
structure Told (x : Vsi22Ctx) : Prop extends Saying x where
  sending : x.vsi.smi.state = .station .stationProc ∨ x.vsi.smi.state = .station .txmitKa →
    Quiet x.vsi.smi

theorem Saying.congr {x : Vsi22Ctx} (hx : Saying x) (hback : y.back = x.back)
    (hdeassoc : y.vsi.smi.deassoc = x.vsi.smi.deassoc)
    (hwait : y.vsi.smi.state ≠ .station .stationProcwait)
    (hanswer : y.vsi.smi.state ≠ .station .stationProcwait2)
    (hsaid : SaidAt x.vsi.smi → SaidAt y.vsi.smi) : Saying y where
  wait h := absurd h hwait
  answer h := absurd h hanswer
  said h := by
    rw [hback] at h
    exact ⟨hdeassoc.trans (hx.said h).1, hsaid (hx.said h).2⟩
  msgs := by rw [hback]; exact hx.msgs

theorem Saying.nil (hx : Saying x) (hstate : ¬ SaidAt x.vsi.smi) : x.back = [] := by
  by_contra hne
  exact hstate (hx.said hne).2

theorem Saying.of_nil (hback : x.back = []) (hwait : x.vsi.smi.state ≠ .station .stationProcwait)
    (hanswer : x.vsi.smi.state ≠ .station .stationProcwait2) : Saying x where
  wait h := absurd h hwait
  answer h := absurd h hanswer
  said h := absurd hback h
  msgs := by rw [hback]; exact fun _ hm => absurd hm List.not_mem_nil

theorem vdp22stProcess_quiet (rc : Int) (x : Vsi22Ctx) : Quiet (vdp22stProcess rc x).vsi.smi := by
  unfold vdp22stProcess
  split_ifs with hrc
  · exact .inr ⟨rfl, rfl⟩
  · exact .inl hrc

theorem vdp22stProcess_said (rc : Int) (x : Vsi22Ctx) :
    (vdp22stProcess rc x).back = x.back ∧
      (vdp22stProcess rc x).vsi.smi.deassoc = x.vsi.smi.deassoc := by
  unfold vdp22stProcess
  split_ifs <;> exact ⟨rfl, rfl⟩

theorem Talk.process (hx : Talk x) (rc : Int)
    (hstate : x.vsi.smi.state = .station .stationProc ∨ x.vsi.smi.state = .station .txmitKa) :
    Told (vdp22stProcess rc x) := by
  have hsame := vdp22stProcess_state rc x
  obtain ⟨hback, hdeassoc⟩ := vdp22stProcess_said rc x
  refine ⟨hx.toSaying.congr hback hdeassoc ?_ ?_ fun _ => ?_, fun _ => vdp22stProcess_quiet rc x⟩
  · rcases hstate with hstate | hstate <;> rw [hsame, hstate] <;> simp
  · rcases hstate with hstate | hstate <;> rw [hsame, hstate] <;> simp
  · unfold SaidAt
    rw [hsame]
    rcases hstate with hstate | hstate <;> rw [hstate] <;> trivial

theorem Talk.clntback (hx : Talk x) (hlive : x.freed = false)
    (hkeep : x.vsi.flags.deleteMe = false) (mode : UInt8) (hnew : isNew x.vsi.smi.state) :
    Told (vdp22Clntback (vdp22stAssocNew x mode)) := by
  obtain ⟨hback, hdeassoc, herror⟩ := hx.new hnew
  have hlive' : (vdp22stAssocNew x mode).freed = false := hlive
  have hkeep' : (vdp22stAssocNew x mode).vsi.flags.deleteMe = false := hkeep
  have hsmi : (vdp22stAssocNew x mode).vsi.smi = x.vsi.smi := rfl
  have hback' : (vdp22stAssocNew x mode).back = [] := hback
  rw [vdp22Clntback_eq, deref_of_live hlive', vdp22Back_live 0 hlive' hkeep', hback']
  have hsaid : SaidAt x.vsi.smi := by
    unfold SaidAt
    rcases hnew with hstate | hstate <;> rw [hstate] <;> trivial
  have hother : x.vsi.smi.state ≠ .station .stationProcwait ∧
      x.vsi.smi.state ≠ .station .stationProcwait2 ∧
      ¬ (x.vsi.smi.state = .station .stationProc ∨ x.vsi.smi.state = .station .txmitKa) := by
    rcases hnew with hstate | hstate <;> rw [hstate] <;> simp
  split_ifs
  · refine ⟨⟨fun h => absurd h hother.1, fun h => absurd h hother.2.1,
      fun _ => ⟨hdeassoc, hsaid⟩, fun m hm => ?_⟩, fun h => absurd h hother.2.2⟩
    rw [List.nil_append, List.mem_singleton] at hm
    rw [hm, backMsg_txmitError, hsmi]
    exact decide_eq_false (not_not.mpr herror)
  · refine ⟨⟨fun h => absurd h hother.1, fun h => absurd h hother.2.1,
      fun h => absurd hback' h, fun m hm => ?_⟩, fun h => absurd h hother.2.2⟩
    rw [hback'] at hm
    cases hm

theorem Talk.act (hx : Talk x) (hlive : x.freed = false)
    (hkeep : x.vsi.flags.deleteMe = false) (rc : Int) : Told (vdp22stAction rc x) := by
  have hdefault : ¬ (x.vsi.smi.state = .station .stationProc ∨
      x.vsi.smi.state = .station .txmitKa) → Told x :=
    fun hsend => ⟨hx.toSaying, fun h => absurd h hsend⟩
  unfold vdp22stAction
  rw [deref_of_live hlive]
  dsimp only
  cases hstate : x.vsi.smi.state with
  | none => exact hdefault (by simp [hstate])
  | bridge s => exact hdefault (by simp [hstate])
  | station s =>
    cases s with
    | stationProc => exact hx.process rc (.inl hstate)
    | txmitKa => exact hx.process rc (.inr hstate)
    | assocNew => exact hx.clntback hlive hkeep _ (.inl hstate)
    | preassocNew => exact hx.clntback hlive hkeep _ (.inr hstate)
    | init =>
      refine ⟨hx.toSaying.congr rfl rfl (by simp [vdp22stInit]) (by simp [vdp22stInit]) ?_, ?_⟩
      · simp [SaidAt, hstate]
      · simp [vdp22stInit]
    | assocCompl | txmitDeawait2 =>
      have hsmi : (vdp22stAssocCompl x).vsi.smi = x.vsi.smi := rfl
      refine ⟨hx.toSaying.congr rfl rfl ?_ ?_ ?_, ?_⟩ <;> rw [hsmi] <;> simp [hstate]
    | waitSyscmd =>
      have hsmi : (vdp22stStartKatimer x).vsi.smi.state = x.vsi.smi.state := rfl
      refine ⟨hx.toSaying.congr rfl rfl ?_ ?_ ?_, ?_⟩
      · rw [hsmi]; simp [hstate]
      · rw [hsmi]; simp [hstate]
      · intro _
        unfold SaidAt
        rw [hsmi, hstate]
        trivial
      · rw [hsmi]; simp [hstate]
    | txmitDeassoc =>
      -- the machine comes here from an answer, before any message
      have hback : x.back = [] := hx.nil (by simp [SaidAt, hstate])
      have hback' : (vdp22stTxdea rc x).back = [] := (vdp22stProcess_said rc _).1.trans hback
      have hsame : (vdp22stTxdea rc x).vsi.smi.state = .station .txmitDeassoc :=
        (vdp22stProcess_state rc _).trans hstate
      refine ⟨Saying.of_nil hback' ?_ ?_, ?_⟩ <;> rw [hsame] <;> simp
    | _ => exact hdefault (by simp [hstate])

theorem Heard.new (hv : Heard v) (hnew : isNew (.station (vdp22stProcAnswer v))) :
    v.smi.deassoc = false := by
  unfold vdp22stProcAnswer at hnew
  cases hdeassoc : v.smi.deassoc with
  | false => rfl
  | true =>
    split_ifs at hnew with hbad hkeep hassoc hpre hmode
    all_goals simp [isNew] at hnew
    · -- a mode of a pre-association is not the one that disassociates
      simp only [Bool.or_eq_true, Bool.not_eq_true', not_or, Bool.not_eq_false] at hbad
      have hresp := hv hbad.1 hdeassoc
      rw [hresp] at hpre
      rcases hpre with hpre | hpre <;> cases hpre
    · simp only [Bool.or_eq_true, Bool.not_eq_true', not_or, Bool.not_eq_false] at hbad
      exact absurd (hv hbad.1 hdeassoc) hmode

theorem Told.goto (hx : Told x) {s : Vdp22State}
    (hs : s ∉ [.assocNew, .preassocNew, .stationProcwait, .stationProcwait2])
    (hsaid : x.back ≠ [] → SaidAt { x.vsi.smi with state := .station s }) :
    Talk (x.setSmi fun smi => { smi with state := .station s }) where
  wait h := absurd (Vdp22SmState.station.inj h) fun h => hs (by simp [h])
  answer h := absurd (Vdp22SmState.station.inj h) fun h => hs (by simp [h])
  said h := ⟨(hx.said h).1, hsaid h⟩
  msgs := hx.msgs
  new h := by
    rcases h with h | h <;> cases h <;> exact absurd hs (by decide)

theorem AtRest.not_new {smi : Vdp22smi} (h : AtRest smi) : ¬ isNew smi.state := by
  rintro (hstate | hstate) <;> simp [AtRest, hstate] at h

theorem Told.move {x : Vsi22Ctx} (hx : Told x) (h : vdp22stNextState x = .ok (y, b)) : Talk y := by
  obtain ⟨rfl, rfl, hrest⟩ | ⟨rfl, s, t, hstate, hnext, rfl⟩ := vdp22stNextState_cases h
  · exact ⟨hx.toSaying, fun hnew => absurd hnew hrest.not_new⟩
  have hnil : ¬ SaidAt x.vsi.smi → ∀ {p : Prop}, x.back ≠ [] → p :=
    fun hsaid _ hne => absurd (hx.nil hsaid) hne
  have hquiet (hs : SaidAt x.vsi.smi → Quiet x.vsi.smi) (hne : x.back ≠ []) : Quiet x.vsi.smi :=
    hs (hx.said hne).2
  cases hnext with
  | begin | init | txmitDeassoc | txmitDeawait2 | deaAnswered =>
    exact hx.goto (by decide) (hnil (by simp [SaidAt, hstate]))
  | assocNew | preassocNew | assocCompl | waitSyscmd | kato | localchg =>
    exact hx.goto (by decide) (fun _ => trivial)
  | stationProc =>
    have hquiet := hx.sending (.inl hstate)
    exact ⟨⟨fun _ => .inl hquiet, (fun h => by cases h), fun hne => ⟨(hx.said hne).1, hquiet⟩,
      hx.msgs⟩, by simp [isNew, Vsi22Ctx.setSmi]⟩
  | txmitKa => exact hx.goto (by decide) fun _ => hx.sending (.inr hstate)
  | failed hs hfailed =>
    refine hx.goto (by decide) fun hne => ?_
    cases s with
    | stationProcwait | txmitKawait =>
      rcases hquiet (by simp [SaidAt, hstate]) hne with hbad | hno
      · exact hbad
      · exact hfailed.resolve_right (by simp [hno.2])
    | txmitDeawait => exact hnil (by simp [SaidAt, hstate]) hne
    | _ => cases hs
  | answered hno hreceived =>
    -- an answer is there, so no message was sent in this run
    have hnot : ¬ Quiet x.vsi.smi := by
      rintro (hbad | hnone)
      · exact hno (.inl hbad)
      · exact Bool.noConfusion (hreceived.symm.trans hnone.1)
    obtain ⟨hback, hheard⟩ := (hx.wait hstate).resolve_left hnot
    refine ⟨⟨(fun h => by cases h), fun _ => ⟨hback, hheard, not_not.mp (not_or.mp hno).1⟩,
      fun hne => absurd hback hne, hx.msgs⟩, by simp [isNew, Vsi22Ctx.setSmi]⟩
  | kaAnswered hno hreceived =>
    refine hx.goto (by decide) fun hne => ?_
    rcases hquiet (by simp [SaidAt, hstate]) hne with hbad | hnone
    · exact absurd (.inl hbad) hno
    · exact Bool.noConfusion (hreceived.symm.trans hnone.1)
  | judged =>
    obtain ⟨hback, hheard, herror⟩ := hx.answer hstate
    refine ⟨Saying.of_nil hback ?_ ?_, fun hnew => ⟨hback, hheard.new hnew, herror⟩⟩
    all_goals
      rcases vdp22stProcAnswer_cases x.vsi with hs | hs | hs | hs <;> rw [hs] <;>
        simp [Vsi22Ctx.setSmi]
  | renewed =>
    have hback : x.back = [] := hx.nil (by simp [SaidAt, hstate])
    rcases vdp22stKaAnswer_cases x.vsi with hs | hs | hs <;> rw [hs] <;>
      exact hx.goto (by decide) fun hne => absurd hback hne
  | deassoc hdeassoc =>
    exact hx.goto (by decide) fun hne => Bool.noConfusion ((hx.said hne).1.symm.trans hdeassoc)

/-! ### A run -/

theorem atRest_of_final {x : Vsi22Ctx} (h : vdp22stNextState x = .ok (y, false)) :
    y = x ∧ AtRest x.vsi.smi := by
  obtain ⟨-, hrest⟩ | ⟨hb, -⟩ := vdp22stNextState_cases h
  · exact hrest
  · cases hb

/-- What a run makes of a VSI -/
structure StRun (x y : Vsi22Ctx) : Prop where
  key : vsiKey y.vsi = vsiKey x.vsi
  pid : havepid y.vsi = havepid x.vsi
  rest : AtRest y.vsi.smi
  notify : y.vsi.flags.notify = x.vsi.flags.notify
  deleteMe : y.vsi.flags.deleteMe = y.ended
  freed : y.freed = (y.ended && endReported x.vsi)
  told : y.ended = true →
    y.back.count (endMsg y.vsi) = if endReported x.vsi then 1 else 0
  cc : y.ended = true → y.vsi.ccVsiMode = vdp22Deassoc
  timers : y.ended = true → y.timers.ackto = 0 ∧ y.timers.kato = 0

/-- A run on a VSI that is not to be deleted. When it ends the VSI, the requestor is told once,
if it is told at once. -/
theorem vdp22stRun_spec {x : Vsi22Ctx} (hlive : x.freed = false)
    (hkeep : x.vsi.flags.deleteMe = false) (hx : Told x) (h : vdp22stRun rc x = .ok y) :
    StRun x y := by
  obtain ⟨z, hz, hy⟩ := bind_eq_ok.mp h
  obtain ⟨hun, htalk, hrest⟩ : Undisturbed x.vsi z ∧ Talk z ∧ AtRest z.vsi.smi := by
    refine Machine.run_rule (P := fun s => Undisturbed x.vsi s ∧ Told s)
      (I := fun s => Undisturbed x.vsi s ∧ Talk s) (J := fun s => Undisturbed x.vsi s ∧ Told s)
      (Q := fun s => Undisturbed x.vsi s ∧ Talk s ∧ AtRest s.vsi.smi) ?_ ?_ ?_ ?_
      ⟨⟨hlive, hkeep, rfl, rfl, rfl, rfl⟩, hx⟩ hz
    · rintro s t b ⟨hun, htold⟩ ht
      have hmove : vdp22stNextState s = .ok (t, b) := by rwa [← deref_of_live hun.live]
      exact ⟨hun.move ht, htold.move hmove⟩
    · rintro s t ⟨hun, htalk⟩ ht
      cases ht
      exact ⟨hun.act rc, htalk.act hun.live hun.keep rc⟩
    · rintro s t ⟨hun, htold⟩ ht
      have hmove : vdp22stNextState s = .ok (t, true) := by rwa [← deref_of_live hun.live]
      exact ⟨hun.move ht, htold.move hmove⟩
    · rintro s t ⟨hun, htold⟩ ht
      have hmove : vdp22stNextState s = .ok (t, false) := by rwa [← deref_of_live hun.live]
      refine ⟨hun.move ht, htold.move hmove, ?_⟩
      obtain ⟨rfl, hrest⟩ := atRest_of_final hmove
      exact hrest
  have hreported : endReported z.vsi = endReported x.vsi := by
    unfold endReported havepid
    rw [hun.fdata, hun.notify]
  have hpid : havepid z.vsi = havepid x.vsi := by
    unfold havepid
    rw [hun.fdata]
  rw [deref_of_live hun.live] at hy
  cases hy
  split_ifs with hend
  · obtain ⟨hvsi, hfreed, hback⟩ := vdp22stEnd_spec hun.live
    have htimers := vdp22stEnd_timers z
    have hended : (vdp22stEnd z).ended = true := by
      unfold Vsi22Ctx.ended
      rw [hvsi]
      exact decide_eq_true hend
    -- a message before the last one does not report the failure that ended the VSI
    have hnone : z.back.count (endMsg (endedVsi z.vsi)) = 0 := by
      refine List.count_eq_zero.mpr fun hmem => ?_
      have hne : z.back ≠ [] := List.ne_nil_of_mem hmem
      have herror : z.vsi.smi.txmitError ≠ 0 := by
        simpa [SaidAt, hend] using (htalk.said hne).2
      have hlast : reportsTxmitError (endMsg (endedVsi z.vsi)) = true :=
        (backMsg_txmitError _ _).trans (decide_eq_true herror)
      exact Bool.noConfusion ((htalk.msgs _ hmem).symm.trans hlast)
    refine ⟨?_, ?_, ?_, ?_, ?_, ?_, fun _ => ?_, fun _ => ?_, fun _ => ?_⟩
    · rw [hvsi]; exact hun.key
    · rw [hvsi]; exact hpid
    · rw [hvsi]; exact hrest
    · rw [hvsi]; exact hun.notify
    · rw [hended, hvsi]; rfl
    · rw [hfreed, hended, hreported]; rfl
    · rw [hback, hvsi, List.count_append, hnone, hreported]
      split_ifs <;> simp
    · rw [hvsi]; rfl
    · rw [htimers]; exact ⟨rfl, rfl⟩
  · have hopen : z.ended = false := decide_eq_false hend
    refine ⟨hun.key, hpid, hrest, hun.notify, ?_, ?_, ?_, ?_, ?_⟩
    · rw [hopen]; exact hun.keep
    · rw [hopen]; exact hun.live
    all_goals
      intro hended
      rw [hopen] at hended
      cases hended

/-! ### The status -/

/-- A state behind the first two -/
def isBegun (s : Vdp22SmState) : Prop := s ≠ .station .begin ∧ s ≠ .station .init

theorem vdp22stNextState_begun {x : Vsi22Ctx} (hx : isBegun x.vsi.smi.state)
    (h : vdp22stNextState x = .ok (y, b)) : isBegun y.vsi.smi.state := by
  obtain ⟨-, rfl, -⟩ | ⟨-, s, t, hstate, hnext, rfl⟩ := vdp22stNextState_cases h
  · exact hx
  · show isBegun (.station t)
    cases hnext with
    | begin => exact absurd hstate hx.1
    | judged => rcases vdp22stProcAnswer_cases x.vsi with hs | hs | hs | hs <;> simp [hs, isBegun]
    | renewed => rcases vdp22stKaAnswer_cases x.vsi with hs | hs | hs <;> simp [hs, isBegun]
    | _ => simp [isBegun]

theorem vdp22stAction_status (rc : Int) (hx : isBegun x.vsi.smi.state) :
    (vdp22stAction rc x).vsi.status = x.vsi.status := by
  have hprocess : ∀ u : Vsi22Ctx, (vdp22stProcess rc u).vsi.status = u.vsi.status := by
    intro u
    unfold vdp22stProcess
    split_ifs <;> rfl
  unfold vdp22stAction
  dsimp only
  rw [deref_vsi]
  cases hstate : x.vsi.smi.state with
  | none => simp
  | bridge s => simp
  | station s =>
    cases s with
    | init => exact absurd hstate hx.2
    | stationProc | txmitKa => simp [hprocess]
    | txmitDeassoc => simp [vdp22stTxdea, hprocess, Vsi22Ctx.setFlags]
    | _ =>
      simp [vdp22stAssocCompl, vdp22stAssocNew, vdp22stStartKatimer, Vsi22Ctx.setFlags,
        Vsi22Ctx.setSmi]

theorem vdp22stRun_status {x : Vsi22Ctx} (hlive : x.freed = false)
    (hkeep : x.vsi.flags.deleteMe = false) (hx : isBegun x.vsi.smi.state)
    (h : vdp22stRun rc x = .ok y) : y.vsi.status = x.vsi.status := by
  obtain ⟨z, hz, hy⟩ := bind_eq_ok.mp h
  obtain ⟨hun, -, hsame⟩ : Undisturbed x.vsi z ∧ isBegun z.vsi.smi.state ∧
      z.vsi.status = x.vsi.status := by
    refine Machine.run_preserves (I := fun s => Undisturbed x.vsi s ∧ isBegun s.vsi.smi.state ∧
      s.vsi.status = x.vsi.status) ?_ ?_ ⟨⟨hlive, hkeep, rfl, rfl, rfl, rfl⟩, hx, rfl⟩ hz
    · rintro s t ⟨hun, hbegun, hs⟩ ht
      cases ht
      refine ⟨hun.act rc, ?_, (vdp22stAction_status rc hbegun).trans hs⟩
      have hstate := vdp22stAction_state rc s
      rwa [hstate]
    · rintro s t b ⟨hun, hbegun, hs⟩ ht
      have hmove : vdp22stNextState s = .ok (t, b) := by rwa [← deref_of_live hun.live]
      refine ⟨hun.move ht, vdp22stNextState_begun hbegun hmove, ?_⟩
      rcases vdp22stNextState_eq_ok hmove with hr | ⟨_, hr⟩ <;> (cases hr; exact hs)
  rw [deref_of_live hun.live] at hy
  cases hy
  split_ifs
  · rw [(vdp22stEnd_spec hun.live).1]
    exact hsame
  · exact hsame

theorem vdp22stRun_waiting (rc : Int) (hlive : x.freed = false)
    (hstate : x.vsi.smi.state = .station .stationProcwait) (hrest : AtRest x.vsi.smi) :
    vdp22stRun rc x = .ok x := by
  obtain ⟨herror, hto, hreceived⟩ := hrest.waiting (by rw [hstate]; rfl)
  rw [vdp22stRun_still hlive, if_neg (by rw [hstate]; decide)]
  · unfold vdp22stNextState vdp22stWait
    rw [hstate]
    simp [herror, hto, hreceived]
  · unfold vdp22stAction
    rw [deref_of_live hlive]
    dsimp only
    rw [hstate]

/-- Nothing was heard of a new VSI. -/
structure Unheard (v : Vsi22) : Prop where
  ackreceived : v.smi.ackreceived = false
  acktimeout : v.smi.acktimeout = false

/-- The message about a new VSI was sent, unless the ECP module refused it. -/
structure Asked (rc : Int) (v : Vsi22) : Prop extends Unheard v where
  status : v.status = vdp22RespNone
  sent : rc = 0 → v.smi.txmitError = 0

/-- A new VSI before an action -/
def Starting (rc : Int) (v : Vsi22) : Prop :=
  match v.smi.state with
  | .station .init => Unheard v
  | .station .stationProc => v.status = vdp22RespNone ∧ Unheard v
  | .station .stationProcwait => Asked rc v
  | .station .vdpEnd => rc ≠ 0
  | _ => False

/-- A new VSI after an action -/
def Started (rc : Int) (v : Vsi22) : Prop :=
  match v.smi.state with
  | .station .init => v.status = vdp22RespNone ∧ Unheard v
  | .station .stationProc => Asked rc v
  | .station .stationProcwait => Asked rc v
  | .station .vdpEnd => rc ≠ 0
  | _ => False

theorem vdp22stProcess_asked (rc : Int) (hstatus : x.vsi.status = vdp22RespNone)
    (hx : Unheard x.vsi) : Asked rc (vdp22stProcess rc x).vsi := by
  unfold vdp22stProcess
  split_ifs with hrc
  · exact ⟨⟨rfl, rfl⟩, hstatus, fun _ => rfl⟩
  · exact ⟨⟨hx.ackreceived, hx.acktimeout⟩, hstatus, fun h => absurd h hrc⟩

theorem Starting.act (hlive : x.freed = false)
    (hx : Starting rc x.vsi) : Started rc (vdp22stAction rc x).vsi := by
  unfold vdp22stAction
  rw [deref_of_live hlive]
  unfold Starting at hx
  dsimp only
  cases hstate : x.vsi.smi.state with
  | none => rw [hstate] at hx; exact hx.elim
  | bridge s => rw [hstate] at hx; exact hx.elim
  | station s =>
    rw [hstate] at hx
    cases s with
    | init => exact ⟨rfl, hx.ackreceived, hx.acktimeout⟩
    | stationProc =>
      have hasked := vdp22stProcess_asked rc hx.1 hx.2
      have hsame : (vdp22stProcess rc x).vsi.smi.state = .station .stationProc :=
        (vdp22stProcess_state rc x).trans hstate
      unfold Started
      rw [hsame]
      exact hasked
    | stationProcwait | vdpEnd =>
      unfold Started
      rw [hstate]
      exact hx
    | _ => exact hx.elim

theorem Started.move {x : Vsi22Ctx} (hx : Started rc x.vsi)
    (h : vdp22stNextState x = .ok (y, b)) : Starting rc y.vsi := by
  unfold Started at hx
  obtain ⟨-, rfl, hrest⟩ | ⟨-, s, t, hstate, hnext, rfl⟩ := vdp22stNextState_cases h
  · unfold Starting
    split at hx
    · next hstate => simp [AtRest, hstate] at hrest
    · next hstate => simp [AtRest, hstate] at hrest
    · next hstate => exact hx
    · next hstate => exact hx
    · exact hx.elim
  · rw [hstate] at hx
    cases hnext with
    | init => exact ⟨hx.1, hx.2.ackreceived, hx.2.acktimeout⟩
    | stationProc => exact ⟨⟨hx.ackreceived, hx.acktimeout⟩, hx.status, hx.sent⟩
    | failed hs hfailed =>
      cases s with
      | stationProcwait =>
        -- the bridge had no time to answer: ECP refused the message
        intro hrc
        rcases hfailed with herror | hto
        · exact herror (hx.sent hrc)
        · exact Bool.noConfusion (hx.acktimeout.symm.trans hto)
      | txmitKawait | txmitDeawait => exact hx.elim
      | _ => cases hs
    | answered _ hreceived => exact Bool.noConfusion (hx.ackreceived.symm.trans hreceived)
    | _ => exact hx.elim

/-- A new VSI waits for the bridge, or ECP refused its message. -/
theorem vdp22stRun_new {x : Vsi22Ctx} (hlive : x.freed = false)
    (hkeep : x.vsi.flags.deleteMe = false) (hsmi : x.vsi.smi = { state := .station .begin })
    (h : vdp22stRun rc x = .ok y) :
    y.vsi.smi.state = .station .stationProcwait ∨ y.ended = true ∧ rc ≠ 0 := by
  obtain ⟨z, hz, hy⟩ := bind_eq_ok.mp h
  obtain ⟨hun, hstarting, hrest⟩ : Undisturbed x.vsi z ∧ Starting rc z.vsi ∧ AtRest z.vsi.smi := by
    refine Machine.run_rule
      (P := fun s => s = x)
      (I := fun s => Undisturbed x.vsi s ∧ Starting rc s.vsi)
      (J := fun s => Undisturbed x.vsi s ∧ Started rc s.vsi)
      (Q := fun s => Undisturbed x.vsi s ∧ Starting rc s.vsi ∧ AtRest s.vsi.smi) ?_ ?_ ?_ ?_
      rfl hz
    · rintro s t b rfl ht
      have hun : Undisturbed s.vsi s := ⟨hlive, hkeep, rfl, rfl, rfl, rfl⟩
      have hmove : vdp22stNextState s = .ok (t, b) := by rwa [← deref_of_live hlive]
      refine ⟨hun.move ht, ?_⟩
      unfold vdp22stNextState at hmove
      rw [hsmi] at hmove
      cases vdp22stGoto_eq_ok hmove
      exact ⟨congrArg (·.ackreceived) hsmi, congrArg (·.acktimeout) hsmi⟩
    · rintro s t ⟨hun, hs⟩ ht
      cases ht
      exact ⟨hun.act rc, hs.act hun.live⟩
    · rintro s t ⟨hun, hs⟩ ht
      have hmove : vdp22stNextState s = .ok (t, true) := by rwa [← deref_of_live hun.live]
      exact ⟨hun.move ht, hs.move hmove⟩
    · rintro s t ⟨hun, hs⟩ ht
      have hmove : vdp22stNextState s = .ok (t, false) := by rwa [← deref_of_live hun.live]
      obtain ⟨hsame, hrest⟩ := atRest_of_final hmove
      rw [← hsame] at hrest
      exact ⟨hun.move ht, hs.move hmove, hrest⟩
  rw [deref_of_live hun.live] at hy
  cases hy
  split_ifs with hend
  · unfold Starting at hstarting
    rw [hend] at hstarting
    refine .inr ⟨?_, hstarting⟩
    unfold Vsi22Ctx.ended
    rw [(vdp22stEnd_spec hun.live).1]
    exact decide_eq_true hend
  · refine .inl ?_
    unfold Starting at hstarting
    unfold AtRest at hrest
    cases hstate : z.vsi.smi.state with
    | none => rw [hstate] at hstarting; exact hstarting.elim
    | bridge s => rw [hstate] at hstarting; exact hstarting.elim
    | station s =>
      rw [hstate] at hstarting hrest
      cases s with
      | stationProcwait => rfl
      | vdpEnd => exact absurd hstate hend
      | init | stationProc => exact hrest.elim
      | _ => exact hstarting.elim

end Lldpad.Qbg
