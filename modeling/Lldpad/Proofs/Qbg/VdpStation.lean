import Lldpad.Qbg.VdpSm
import Mathlib.Tactic.SplitIfs

/-!
# `Lldpad.Proofs.Qbg.VdpStation`: a run of the station machine of a profile

`StationMove` is what one call of `vdp_vsi_set_station_state` does. Every fact about a run goes
over its cases, and `vdpVsiSetStationState_total` says that there are no others: no assertion of
`vdp_vsi_change_station_state` fails.

`vdpStationRemoves` looks at a profile before a run and tells whether the run removes it. It has
one function for each state, in the order in which a run goes back through them.
-/

namespace Lldpad.Qbg

open Lldpad.Lib

/-! ### Functions on a profile -/

namespace ProfileCtx

@[simp] theorem deref_profile (c : ProfileCtx) : c.deref.profile = c.profile := by
  unfold deref; split_ifs <;> rfl

@[simp] theorem deref_freed (c : ProfileCtx) : c.deref.freed = c.freed := by
  unfold deref; split_ifs <;> rfl

@[simp] theorem deref_timers (c : ProfileCtx) : c.deref.timers = c.timers := by
  unfold deref; split_ifs <;> rfl

@[simp] theorem deref_framed (c : ProfileCtx) : c.deref.framed = c.framed := by
  unfold deref; split_ifs <;> rfl

@[simp] theorem deref_changed (c : ProfileCtx) : c.deref.changed = c.changed := by
  unfold deref; split_ifs <;> rfl

theorem deref_of_live {c : ProfileCtx} (h : c.freed = false) : c.deref = c := by
  unfold deref
  rw [if_neg (by simp [h])]

end ProfileCtx

/-! ### One call of `vdp_vsi_set_station_state` -/

/-- The first state of a profile with this mode -/
inductive StationBegins : UInt32 → VsiState → Prop
  | preassoc {mode : UInt32} (h : mode = vdpModePreassociate ∨ mode = vdpModePreassociateWithRr) :
      StationBegins mode .preassocProcessing
  | assoc {mode : UInt32} (h : mode = vdpModeAssociate) : StationBegins mode .assocProcessing
  | deassoc {mode : UInt32} (h : mode = vdpModeDeassociate) :
      StationBegins mode .deassocProcessing

/-- A state that waits for the answer to a request, and the one behind a good answer -/
inductive StationGrants : VsiState → VsiState → Prop
  | assoc : StationGrants .assocProcessing .associated
  | preassoc : StationGrants .preassocProcessing .preassociated

/-- The profile does not leave its state. -/
def StationRests (p : VdpProfile) : Prop :=
  match p.state with
  | .unassociated => vdpModeDeassociate < p.mode
  | .assocProcessing | .preassocProcessing =>
    p.ackReceived = false ∧ vdpAckTimerExpired p = false
  | .associated =>
    p.mode ≠ vdpModePreassociate ∧ p.mode ≠ vdpModeDeassociate ∧
      vdpVsiNegativeResponse p = false ∧ vdpKeepaliveTimerExpired p = false
  | .preassociated =>
    p.mode ≠ vdpModeAssociate ∧ p.mode ≠ vdpModeDeassociate ∧ vdpKeepaliveTimerExpired p = false
  | .deassocProcessing =>
    p.ackReceived = false ∧ vdpAckTimerExpired p = false ∧ p.remoteChange = false
  | .exit => True

/-- What one call of `vdp_vsi_set_station_state` does, and what it answers. -/
inductive StationMove (c : ProfileCtx) : ProfileCtx → Bool → Prop
  /-- a new profile -/
  | begins {s : VsiState} (hs : c.profile.state = .unassociated)
      (hmode : StationBegins c.profile.mode s) :
      StationMove c (vdpSomethingChangedLocal true (c.set fun p => { p with state := s })) true
  /-- a good answer -/
  | granted {s t : VsiState} (hs : c.profile.state = s) (hst : StationGrants s t)
      (hack : c.profile.ackReceived = true) (hresponse : c.profile.response = vdpResponseSuccess) :
      StationMove c (c.set fun p => { p with state := t }) true
  /-- another answer, or none -/
  | failed {s t : VsiState} (hs : c.profile.state = s) (hst : StationGrants s t)
      (h : (c.profile.ackReceived = true ∧ c.profile.response ≠ vdpResponseSuccess) ∨
        (c.profile.ackReceived = false ∧ vdpAckTimerExpired c.profile = true)) :
      StationMove c (c.set fun p => { p with state := .exit }) true
  /-- a new mode between the two kinds of association -/
  | turns {t : VsiState}
      (hs : (c.profile.state = .associated ∧ c.profile.mode = vdpModePreassociate ∧
          t = .preassocProcessing) ∨
        (c.profile.state = .preassociated ∧ c.profile.mode = vdpModeAssociate ∧
          t = .assocProcessing)) :
      StationMove c (c.set fun p => { p with state := t }) true
  /-- the mode of a disassociation -/
  | leaves (hs : c.profile.state = .associated ∨ c.profile.state = .preassociated)
      (hmode : c.profile.mode = vdpModeDeassociate) :
      StationMove c (c.set fun p => { p with state := .deassocProcessing }) true
  /-- the other side withdraws the association -/
  | refused (hs : c.profile.state = .associated) (hpre : c.profile.mode ≠ vdpModePreassociate)
      (hde : c.profile.mode ≠ vdpModeDeassociate)
      (hneg : vdpVsiNegativeResponse c.profile = true) :
      StationMove c (c.set fun p => { p with state := .exit }) true
  /-- the keep-alive is due -/
  | renews {t : VsiState}
      (hs : (c.profile.state = .associated ∧ c.profile.mode ≠ vdpModePreassociate ∧
          t = .assocProcessing) ∨
        (c.profile.state = .preassociated ∧ c.profile.mode ≠ vdpModeAssociate ∧
          t = .preassocProcessing)) :
      StationMove c ((vdpSomethingChangedLocal true (vdpStopKeepaliveTimer c)).set
        fun p => { p with state := t }) true
  /-- the end of a disassociation -/
  | ended (hs : c.profile.state = .deassocProcessing)
      (h : c.profile.ackReceived = true ∨ vdpAckTimerExpired c.profile = true ∨
        c.profile.remoteChange = true) :
      StationMove c (c.set fun p => { p with state := .exit }) true
  /-- nothing -/
  | rests (h : StationRests c.profile) : StationMove c c false

theorem deassociate_lt {mode : UInt32} (hpre : mode ≠ vdpModePreassociate)
    (hrr : mode ≠ vdpModePreassociateWithRr) (ha : mode ≠ vdpModeAssociate)
    (hde : mode ≠ vdpModeDeassociate) : vdpModeDeassociate < mode := by
  rw [UInt32.lt_iff_toNat_lt]
  simp only [ne_eq, ← UInt32.toNat_inj, vdpModePreassociate, vdpModePreassociateWithRr,
    vdpModeAssociate, vdpModeDeassociate, UInt32.reduceToNat] at *
  omega

variable {c : ProfileCtx}

theorem vdpStationGoto_ok {t : VsiState}
    (h : vdpVsiChangeStationState c t = .ok (c.set fun p => { p with state := t })) :
    vdpStationGoto c t = .ok (c.set fun p => { p with state := t }, true) := by
  rw [vdpStationGoto, h]
  rfl

theorem vdpStationAnswered_move {s t : VsiState} (hs : c.profile.state = s)
    (hst : StationGrants s t) :
    ∃ d b, vdpStationAnswered c t = .ok (d, b) ∧ StationMove c d b := by
  have hgrant : vdpVsiChangeStationState c t = .ok (c.set fun p => { p with state := t }) := by
    cases hst <;> simp [vdpVsiChangeStationState, hs]
  have hexit : vdpVsiChangeStationState c .exit =
      .ok (c.set fun p => { p with state := .exit }) := by
    cases hst <;> simp [vdpVsiChangeStationState, hs]
  unfold vdpStationAnswered
  cases hack : c.profile.ackReceived with
  | true =>
    by_cases hresponse : c.profile.response = vdpResponseSuccess
    · rw [if_pos rfl, if_pos hresponse]
      exact ⟨_, _, vdpStationGoto_ok hgrant, .granted hs hst hack hresponse⟩
    · rw [if_pos rfl, if_neg hresponse]
      exact ⟨_, _, vdpStationGoto_ok hexit, .failed hs hst (.inl ⟨hack, hresponse⟩)⟩
  | false =>
    rw [if_neg (by decide)]
    cases hexpired : vdpAckTimerExpired c.profile with
    | true =>
      rw [if_pos rfl]
      exact ⟨_, _, vdpStationGoto_ok hexit, .failed hs hst (.inr ⟨hack, hexpired⟩)⟩
    | false =>
      refine ⟨c, false, rfl, .rests ?_⟩
      cases hst <;> simp only [StationRests, hs] <;> exact ⟨hack, hexpired⟩

/-- Every call returns, and does one of the things above. -/
theorem vdpVsiSetStationState_total (c : ProfileCtx) :
    ∃ d b, vdpVsiSetStationState c = .ok (d, b) ∧ StationMove c.deref d b := by
  unfold vdpVsiSetStationState
  generalize c.deref = c
  -- the assertion of a state change that the state admits
  have hgo : ∀ t, vdpVsiChangeStationState c t = .ok (c.set fun p => { p with state := t }) →
      vdpStationGoto c t = .ok (c.set fun p => { p with state := t }, true) :=
    fun t => vdpStationGoto_ok
  cases hs : c.profile.state with
  | unassociated =>
    have hbegin : ∀ t, StationBegins c.profile.mode t →
        vdpStationBegin c t =
          .ok (vdpSomethingChangedLocal true (c.set fun p => { p with state := t }), true) := by
      intro t ht
      cases ht <;> simp [vdpStationBegin, vdpVsiChangeStationState, hs]
    by_cases hpre : c.profile.mode = vdpModePreassociate ∨
        c.profile.mode = vdpModePreassociateWithRr
    · have hmode := StationBegins.preassoc hpre
      exact ⟨_, _, by rw [vdpStationNextState, hs]; simp only [if_pos hpre]; exact hbegin _ hmode,
        .begins hs hmode⟩
    · by_cases ha : c.profile.mode = vdpModeAssociate
      · have hmode : StationBegins c.profile.mode .assocProcessing := .assoc ha
        exact ⟨_, _, by
          rw [vdpStationNextState, hs]; simp only [if_neg hpre, if_pos ha]; exact hbegin _ hmode,
          .begins hs hmode⟩
      · by_cases hde : c.profile.mode = vdpModeDeassociate
        · have hmode : StationBegins c.profile.mode .deassocProcessing := .deassoc hde
          exact ⟨_, _, by
            rw [vdpStationNextState, hs]
            simp only [if_neg hpre, if_neg ha, if_pos hde]
            exact hbegin _ hmode, .begins hs hmode⟩
        · refine ⟨c, false, ?_, .rests ?_⟩
          · rw [vdpStationNextState, hs]
            simp only [if_neg hpre, if_neg ha, if_neg hde]
            rfl
          · rw [not_or] at hpre
            simp only [StationRests, hs]
            exact deassociate_lt hpre.1 hpre.2 ha hde
  | assocProcessing =>
    rw [vdpStationNextState, hs]
    exact vdpStationAnswered_move hs .assoc
  | preassocProcessing =>
    rw [vdpStationNextState, hs]
    exact vdpStationAnswered_move hs .preassoc
  | associated =>
    rw [vdpStationNextState, hs]
    dsimp only
    split_ifs with hpre hde hneg
    · exact ⟨_, _, hgo _ (by simp [vdpVsiChangeStationState, hs]),
        .turns (.inl ⟨hs, hpre, rfl⟩)⟩
    · exact ⟨_, _, hgo _ (by simp [vdpVsiChangeStationState, hs]), .leaves (.inl hs) hde⟩
    · exact ⟨_, _, hgo _ (by simp [vdpVsiChangeStationState, hs]), .refused hs hpre hde hneg⟩
    · unfold vdpStationRenew
      split_ifs with hkeep
      · refine ⟨_, _, vdpStationGoto_ok ?_, .renews (.inl ⟨hs, hpre, rfl⟩)⟩
        simp [vdpVsiChangeStationState, vdpSomethingChangedLocal, vdpStopKeepaliveTimer,
          ProfileCtx.set, hs]
      · refine ⟨c, false, rfl, .rests ?_⟩
        simp only [StationRests, hs]
        exact ⟨hpre, hde, by simpa using hneg, by simpa using hkeep⟩
  | preassociated =>
    rw [vdpStationNextState, hs]
    dsimp only
    split_ifs with ha hde
    · exact ⟨_, _, hgo _ (by simp [vdpVsiChangeStationState, hs]),
        .turns (.inr ⟨hs, ha, rfl⟩)⟩
    · exact ⟨_, _, hgo _ (by simp [vdpVsiChangeStationState, hs]), .leaves (.inr hs) hde⟩
    · unfold vdpStationRenew
      split_ifs with hkeep
      · refine ⟨_, _, vdpStationGoto_ok ?_, .renews (.inr ⟨hs, ha, rfl⟩)⟩
        simp [vdpVsiChangeStationState, vdpSomethingChangedLocal, vdpStopKeepaliveTimer,
          ProfileCtx.set, hs]
      · refine ⟨c, false, rfl, .rests ?_⟩
        simp only [StationRests, hs]
        exact ⟨ha, hde, by simpa using hkeep⟩
  | deassocProcessing =>
    rw [vdpStationNextState, hs]
    dsimp only
    split_ifs with hend
    · exact ⟨_, _, hgo _ (by simp [vdpVsiChangeStationState, hs]), .ended hs hend⟩
    · refine ⟨c, false, rfl, .rests ?_⟩
      simp only [StationRests, hs]
      simpa [not_or] using hend
  | exit =>
    refine ⟨c, false, ?_, .rests ?_⟩
    · rw [vdpStationNextState, hs]
      rfl
    · simp only [StationRests, hs]

theorem vdpVsiSetStationState_move {c d : ProfileCtx} {b : Bool}
    (h : vdpVsiSetStationState c = .ok (d, b)) : StationMove c.deref d b := by
  obtain ⟨d', b', h', hmove⟩ := vdpVsiSetStationState_total c
  cases h.symm.trans h'
  exact hmove

/-! ### One action -/

/-- The profile after the action of a state that processes a request. -/
def stationProcessed (p : VdpProfile) : VdpProfile :=
  { p with
    keepaliveTimer := vdpKeepaliveTimerStopped
    response := vdpResponseNoResponse
    ackReceived := p.ackReceived && !p.localChange
    ackTimer := if p.localChange then vdpAckTimerDefault else p.ackTimer }

/-- The profile after the action of `VSI_ASSOCIATED` or `VSI_PREASSOCIATED`. -/
def stationSettled (p : VdpProfile) : VdpProfile :=
  { p with
    ackReceived := false
    localChange := false
    keepaliveTimer := vdpKeepaliveTimerDefault }

/-- The profile after the action of its state. -/
def stationActed (p : VdpProfile) : VdpProfile :=
  match p.state with
  | .unassociated => p
  | .assocProcessing | .preassocProcessing => stationProcessed p
  | .associated | .preassociated => stationSettled p
  | .deassocProcessing => stationProcessed { p with ackReceived := false }
  | .exit => { p with keepaliveTimer := vdpKeepaliveTimerStopped }

theorem stationActed_state (p : VdpProfile) : (stationActed p).state = p.state := by
  unfold stationActed
  split <;> rfl

@[simp] theorem vdpRemoveProfile_profile (c : ProfileCtx) :
    (vdpRemoveProfile c).profile = c.profile := ProfileCtx.deref_profile c

@[simp] theorem vdpTrigger_profile (c : ProfileCtx) : (vdpTrigger c).profile = c.profile := by
  unfold vdpTrigger
  dsimp only
  split_ifs
  · exact c.deref_profile
  · split
    · exact c.deref_profile
    · split_ifs
      · exact c.deref_profile
      · exact (vdpRemoveProfile_profile _).trans c.deref_profile

theorem vdpStationProcessing_profile (c : ProfileCtx) :
    (vdpStationProcessing c).profile = stationProcessed c.profile := by
  rcases c with ⟨⟨⟨change⟩⟩⟩
  cases change <;>
    simp [vdpStationProcessing, stationProcessed, vdpStopKeepaliveTimer, vdpStartAckTimer,
      ProfileCtx.set]

theorem vdpStationState_profile (c : ProfileCtx) :
    (vdpStationState c).profile = stationActed c.profile := by
  unfold vdpStationState stationActed
  cases hs : c.profile.state with
  | unassociated | associated | preassociated => rfl
  | assocProcessing | preassocProcessing => exact vdpStationProcessing_profile c
  | deassocProcessing => simp [vdpStationProcessing_profile, ProfileCtx.set, hs]
  | exit =>
    unfold vdpStationExit
    dsimp only
    split_ifs <;> simp [vdpStopLocalchangeTimer, vdpStopKeepaliveTimer, vdpStopAckTimer,
      ProfileCtx.set, hs]

/-! ### A run returns -/

/-- How many rounds the machine needs at most behind a state -/
def stationRank : VsiState → Nat
  | .exit => 0
  | .assocProcessing | .preassocProcessing | .deassocProcessing => 1
  | .associated | .preassociated => 2
  | .unassociated => 3

/-- No run of the station machine is too long, and none stops at an assertion. -/
theorem vdpVsiSmStation_total (c : ProfileCtx) : ∃ d, vdpVsiSmStation c = .ok d := by
  refine Machine.run_total (I := fun _ => True) (fun c => stationRank c.profile.state) ?_ ?_
  · intro c _
    obtain ⟨d, b, hmove, hcase⟩ := vdpVsiSetStationState_total (vdpStationState c.deref)
    refine ⟨_, d, b, rfl, hmove, ?_⟩
    rintro rfl
    refine ⟨trivial, ?_⟩
    -- the action has left the state alone, and an answer that it erased is not a good one
    have hstate : (vdpStationState c.deref).deref.profile.state = c.profile.state := by
      rw [ProfileCtx.deref_profile, vdpStationState_profile, stationActed_state,
        ProfileCtx.deref_profile]
    cases hcase with
    | begins hs hmode =>
      rw [hstate] at hs
      cases hmode <;> simp [hs, stationRank, vdpSomethingChangedLocal, ProfileCtx.set]
    | granted hs hst _ hresponse =>
      rw [ProfileCtx.deref_profile, vdpStationState_profile, ProfileCtx.deref_profile] at hresponse
      rw [hstate] at hs
      subst hs
      unfold stationActed at hresponse
      generalize c.profile.state = s at hst hresponse
      cases hst <;>
        simp [stationProcessed, vdpResponseNoResponse, vdpResponseSuccess] at hresponse
    | failed hs hst =>
      rw [hstate] at hs
      cases hst <;> simp [hs, stationRank, ProfileCtx.set]
    | turns hs | renews hs =>
      rw [hstate] at hs
      rcases hs with ⟨hs, -, rfl⟩ | ⟨hs, -, rfl⟩ <;> simp [hs, stationRank, ProfileCtx.set]
    | leaves hs =>
      rw [hstate] at hs
      rcases hs with hs | hs <;> simp [hs, stationRank, ProfileCtx.set]
    | refused hs | ended hs =>
      rw [hstate] at hs
      simp [hs, stationRank, ProfileCtx.set]
  · obtain ⟨d, b, hmove, -⟩ := vdpVsiSetStationState_total c
    refine ⟨d, b, hmove, trivial, ?_⟩
    cases d.profile.state <;> decide

/-! ### What a run removes -/

/-- The action of `VSI_EXIT` removes the profile: nobody waits for its answer and there is none,
or the message that it is gone was sent. -/
def vdpExitRemoves (p : VdpProfile) : Bool :=
  if p.noNlmsg then !p.ackReceived && vdpAckTimerExpired p
  else (p.macvid.head?.map (·.reqPid)).any (· != 0)

/-- Before the action of a state that processes a request. The action of a changed profile
starts the ack timer. -/
def vdpProcessingRemoves (p : VdpProfile) : Bool :=
  !p.localChange && (p.ackReceived || vdpAckTimerExpired p) && vdpExitRemoves p

/-- Before the action of `VSI_DEASSOC_PROCESSING` -/
def vdpDeassocRemoves (p : VdpProfile) : Bool :=
  let p := { p with
    ackReceived := false
    ackTimer := if p.localChange then vdpAckTimerDefault else p.ackTimer }
  (vdpAckTimerExpired p || p.remoteChange) && vdpExitRemoves p

/-- Before a call of `vdp_vsi_set_station_state` in `VSI_ASSOCIATED` -/
def vdpAssociatedRemoves (p : VdpProfile) : Bool :=
  if p.mode = vdpModePreassociate then vdpProcessingRemoves p
  else if p.mode = vdpModeDeassociate then vdpDeassocRemoves p
  else vdpVsiNegativeResponse p && vdpExitRemoves p

/-- Before a call of `vdp_vsi_set_station_state` in `VSI_PREASSOCIATED` -/
def vdpPreassociatedRemoves (p : VdpProfile) : Bool :=
  if p.mode = vdpModeAssociate then vdpProcessingRemoves p
  else if p.mode = vdpModeDeassociate then vdpDeassocRemoves p
  else false

/-- The profile behind the action of `VSI_ASSOCIATED` or `VSI_PREASSOCIATED`, as far as it
matters here -/
def vdpSettled (p : VdpProfile) : VdpProfile :=
  { p with ackReceived := false, localChange := false }

/-- A run of the station machine removes the profile. -/
def vdpStationRemoves (p : VdpProfile) : Bool :=
  match p.state with
  | .unassociated =>
    p.mode == vdpModeDeassociate && vdpDeassocRemoves { p with localChange := true }
  | .assocProcessing =>
    if p.ackReceived ∧ p.response = vdpResponseSuccess then vdpAssociatedRemoves (vdpSettled p)
    else (p.ackReceived || vdpAckTimerExpired p) && vdpExitRemoves p
  | .associated => vdpAssociatedRemoves p
  | .preassocProcessing =>
    if p.ackReceived ∧ p.response = vdpResponseSuccess then vdpPreassociatedRemoves (vdpSettled p)
    else (p.ackReceived || vdpAckTimerExpired p) && vdpExitRemoves p
  | .preassociated => vdpPreassociatedRemoves p
  | .deassocProcessing =>
    (p.ackReceived || vdpAckTimerExpired p || p.remoteChange) && vdpExitRemoves p
  | .exit => vdpExitRemoves p

/-- The run removes the profile from the action of its state on. -/
def vdpStationActRemoves (p : VdpProfile) : Bool :=
  match p.state with
  | .assocProcessing | .preassocProcessing => vdpProcessingRemoves p
  | .deassocProcessing => vdpDeassocRemoves p
  | .associated => vdpAssociatedRemoves (vdpSettled p)
  | .preassociated => vdpPreassociatedRemoves (vdpSettled p)
  | .unassociated | .exit => vdpStationRemoves p

theorem vdpTrigger_live (hlive : c.freed = false)
    (h : c.profile.noNlmsg = true ∨ (c.profile.macvid.head?.map (·.reqPid)).any (· != 0) = false) :
    vdpTrigger c = c := by
  rw [vdpTrigger, ProfileCtx.deref_of_live hlive]
  split_ifs with hno
  · rfl
  · have hpid := h.resolve_left hno
    cases hmv : c.profile.macvid with
    | nil => rfl
    | cons mv mvs =>
      have hzero : mv.reqPid = 0 := by simpa [hmv] using hpid
      dsimp only
      rw [if_pos hzero]

theorem vdpStationExit_live (hlive : c.freed = false) (h : vdpExitRemoves c.profile = false) :
    vdpStationExit c = vdpStopLocalchangeTimer (vdpStopKeepaliveTimer (vdpStopAckTimer c)) := by
  have hstay :
      (c.profile.noNlmsg && !c.profile.ackReceived && vdpAckTimerExpired c.profile) = false ∧
      (c.profile.noNlmsg = true ∨
        (c.profile.macvid.head?.map (·.reqPid)).any (· != 0) = false) := by
    unfold vdpExitRemoves at h
    cases hno : c.profile.noNlmsg with
    | true =>
      rw [if_pos hno] at h
      exact ⟨by rw [Bool.true_and, h], .inl rfl⟩
    | false =>
      rw [if_neg (by simp [hno])] at h
      exact ⟨rfl, .inr h⟩
  rw [vdpStationExit, if_neg (by simp [hstay.1])]
  exact vdpTrigger_live hlive hstay.2

theorem vdpStationRemoves_acted {p : VdpProfile} (h : vdpStationActRemoves p = false) :
    vdpStationRemoves (stationActed p) = false := by
  rcases p with ⟨⟨change, _, ack, _, _⟩, mode, response, no, _, _, _, _, _, macvid, ackTimer, _,
    state, remote⟩
  cases state with
  | unassociated | exit | associated | preassociated => exact h
  | assocProcessing | preassocProcessing =>
    -- a changed profile has a new ack timer, and the answer of any other one is not a good one
    cases change with
    | true =>
      simp [vdpStationRemoves, stationActed, stationProcessed, vdpAckTimerExpired,
        vdpAckTimerDefault, ecpAckTimerDefault, ecpMaxRetries]
    | false =>
      simpa [vdpStationActRemoves, vdpStationRemoves, stationActed, stationProcessed,
        vdpProcessingRemoves, vdpExitRemoves, vdpAckTimerExpired, vdpResponseNoResponse,
        vdpResponseSuccess] using h
  | deassocProcessing =>
    cases change <;>
      simpa [vdpStationActRemoves, vdpStationRemoves, stationActed, stationProcessed,
        vdpDeassocRemoves, vdpExitRemoves, vdpAckTimerExpired, vdpAckTimerDefault,
        ecpAckTimerDefault, ecpMaxRetries] using h

theorem vdpStationActRemoves_of_rests {p : VdpProfile} (hrest : StationRests p)
    (h : vdpStationRemoves p = false) : vdpStationActRemoves p = false := by
  unfold vdpStationActRemoves
  unfold StationRests at hrest
  cases hs : p.state with
  | unassociated => exact h
  | exit => exact h
  | assocProcessing | preassocProcessing =>
    simp only [hs] at hrest
    simp [vdpProcessingRemoves, hrest.1, hrest.2]
  | deassocProcessing =>
    simp only [hs] at hrest
    have htimer : (if p.localChange then vdpAckTimerDefault else p.ackTimer) ≠ 0 := by
      split_ifs
      · decide
      · simpa [vdpAckTimerExpired] using hrest.2.1
    simp [vdpDeassocRemoves, vdpAckTimerExpired, htimer, hrest.2.2]
  | associated =>
    simp only [hs] at hrest
    obtain ⟨hpre, hde, hneg, -⟩ := hrest
    have hneg' : vdpVsiNegativeResponse (vdpSettled p) = false := hneg
    have hpre' : (vdpSettled p).mode ≠ vdpModePreassociate := hpre
    have hde' : (vdpSettled p).mode ≠ vdpModeDeassociate := hde
    simp [vdpAssociatedRemoves, hneg', hpre', hde']
  | preassociated =>
    simp only [hs] at hrest
    obtain ⟨ha, hde, -⟩ := hrest
    simp [vdpPreassociatedRemoves, vdpSettled, ha, hde]

/-- What was true of a call is true of the action behind it. -/
theorem vdpStationActRemoves_moved {c d : ProfileCtx} {b : Bool} (hmove : StationMove c d b)
    (h : vdpStationRemoves c.profile = false) : vdpStationActRemoves d.profile = false := by
  rcases c with ⟨p, freed, stale, timers, framed, changed, acks, back⟩
  cases hmove with
  | begins hs hmode =>
    rw [vdpStationRemoves, hs] at h
    cases hmode with
    | preassoc => rfl
    | assoc => rfl
    | deassoc hmode =>
      rw [show (p.mode == vdpModeDeassociate) = true from beq_iff_eq.mpr hmode] at h
      exact h
  | granted hs hst hack hresponse =>
    subst hs
    unfold vdpStationRemoves at h
    generalize hs : p.state = s at hst h
    cases hst <;> exact (if_pos (And.intro hack hresponse)).symm.trans h
  | failed hs hst hfail =>
    subst hs
    unfold vdpStationRemoves at h
    -- the answer, or the timer, is what the condition in front of the exit asks for
    have hgone : ¬ (p.ackReceived = true ∧ p.response = vdpResponseSuccess) ∧
        (p.ackReceived || vdpAckTimerExpired p) = true := by
      rcases hfail with ⟨hack, hresponse⟩ | ⟨hack, hexpired⟩
      · exact ⟨fun hgood => hresponse hgood.2, by simp_all⟩
      · exact ⟨by simp_all, by simp_all⟩
    have hexit : vdpExitRemoves p = false := by
      generalize p.state = s at hst h
      cases hst <;> simpa [if_neg hgone.1, hgone.2] using h
    exact hexit
  | turns hs =>
    rcases hs with ⟨hs, hmode, rfl⟩ | ⟨hs, hmode, rfl⟩ <;> rw [vdpStationRemoves, hs] at h
    · exact (if_pos hmode).symm.trans h
    · exact (if_pos hmode).symm.trans h
  | leaves hs hmode =>
    have hother : vdpDeassocRemoves p = false := by
      rcases hs with hs | hs <;> rw [vdpStationRemoves, hs] at h
      · exact (if_pos hmode).symm.trans ((if_neg (hmode ▸ by decide)).symm.trans h)
      · exact (if_pos hmode).symm.trans ((if_neg (hmode ▸ by decide)).symm.trans h)
    exact hother
  | refused hs hpre hde hneg =>
    rw [vdpStationRemoves, hs] at h
    have hexit : vdpExitRemoves p = false := by
      simpa [vdpAssociatedRemoves, if_neg hpre, if_neg hde, hneg] using h
    exact hexit
  | renews hs => rcases hs with ⟨hs, -, rfl⟩ | ⟨hs, -, rfl⟩ <;> rfl
  | ended hs hend =>
    rw [vdpStationRemoves, hs] at h
    have hgone : (p.ackReceived || vdpAckTimerExpired p || p.remoteChange) = true := by
      rcases hend with hend | hend | hend <;> simp_all
    have hexit : vdpExitRemoves p = false := by simpa [hgone] using h
    exact hexit
  | rests hrest => exact vdpStationActRemoves_of_rests hrest h

/-- The profile was not removed, and nobody looked at a freed one. -/
structure ProfileCtx.Kept (n : Nat) (c : ProfileCtx) : Prop where
  freed : c.freed = false
  stale : c.stale = n

theorem StationMove.kept {n : Nat} {c d : ProfileCtx} {b : Bool} (hmove : StationMove c d b)
    (hc : c.Kept n) : d.Kept n := by
  cases hmove <;> exact ⟨hc.freed, hc.stale⟩

theorem vdpStationProcessing_kept {n : Nat} (hc : c.Kept n) :
    (vdpStationProcessing c).Kept n := by
  unfold vdpStationProcessing
  dsimp only
  split_ifs <;> exact ⟨hc.freed, hc.stale⟩

theorem vdpStationState_kept {n : Nat} (hc : c.Kept n)
    (h : vdpStationActRemoves c.profile = false) : (vdpStationState c).Kept n := by
  unfold vdpStationState
  cases hs : c.profile.state with
  | unassociated => exact hc
  | assocProcessing | preassocProcessing => exact vdpStationProcessing_kept hc
  | associated | preassociated => exact ⟨hc.freed, hc.stale⟩
  | deassocProcessing => exact vdpStationProcessing_kept ⟨hc.freed, hc.stale⟩
  | exit =>
    have hexit : vdpExitRemoves c.profile = false := by
      simpa only [vdpStationActRemoves, vdpStationRemoves, hs] using h
    rw [vdpStationExit_live hc.freed hexit]
    exact ⟨hc.freed, hc.stale⟩

theorem vdpVsiSmStation_kept {c d : ProfileCtx} (hlive : c.freed = false)
    (h : vdpStationRemoves c.profile = false) (hrun : vdpVsiSmStation c = .ok d) :
    d.freed = false ∧ d.stale = c.stale := by
  -- what holds before a call of `vdp_vsi_set_station_state`, and what holds before an action
  let J : ProfileCtx → Prop := fun x => x.Kept c.stale ∧ vdpStationRemoves x.profile = false
  let I : ProfileCtx → Prop := fun x => x.Kept c.stale ∧ vdpStationActRemoves x.profile = false
  have hmove : ∀ x y b, J x → vdpStationMachine.move x = .ok (y, b) → I y := by
    intro x y b ⟨hx, hremoves⟩ hm
    have hcase := vdpVsiSetStationState_move hm
    rw [ProfileCtx.deref_of_live hx.freed] at hcase
    exact ⟨hcase.kept hx, vdpStationActRemoves_moved hcase hremoves⟩
  have hact : ∀ x y, I x → vdpStationMachine.act x = .ok y → J y := by
    rintro x y ⟨hx, hremoves⟩ ⟨⟩
    rw [ProfileCtx.deref_of_live hx.freed]
    refine ⟨vdpStationState_kept hx hremoves, ?_⟩
    rw [vdpStationState_profile]
    exact vdpStationRemoves_acted hremoves
  have hkept : d.Kept c.stale := (Machine.run_induction hmove hact hmove ⟨⟨hlive, rfl⟩, h⟩ hrun).1
  exact ⟨hkept.freed, hkept.stale⟩

/-! ### What identifies a profile -/

/-- What `vdp_profile_equal` compares -/
def VdpProfile.key (p : VdpProfile) : UInt8 × UInt32 × UInt8 × Octets 16 :=
  (p.mgrid, p.id, p.version, p.instanceId)

theorem vdpProfileEqual_iff {p q : VdpProfile} : vdpProfileEqual p q = true ↔ p.key = q.key := by
  simp only [vdpProfileEqual, VdpProfile.key, Bool.and_eq_true, beq_iff_eq, Prod.mk.injEq,
    and_assoc]

end Lldpad.Qbg
