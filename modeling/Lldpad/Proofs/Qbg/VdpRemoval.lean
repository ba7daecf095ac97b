import Lldpad.Proofs.Qbg.EcpTx
import Lldpad.Proofs.Qbg.VdpBridge

/-!
# `Lldpad.Proofs.Qbg.VdpRemoval`: profiles that were removed

No assertion fails, in any state (`vdpStep_stopsOnly`): the only thing that stops the program
is a TLV that is too short for its header.

A profile that the action of `VSI_EXIT` removes is always looked at afterwards, because the
condition of the loop reads its state. A profile that `vdp_status` removes is looked at when one
of its timers is pending. The machine of a bridge runs on the copy of a known profile that was
deleted. `SafeStep` leaves these three out, and `removed_untouched` says that there is no other
access.
-/

namespace Lldpad.Qbg

open Lldpad.Lib
open Lldpad.Lldp (Bytes)

/-! ### Every step returns -/

theorem vdpExpire_total (t : VdpTimer) (c : ProfileCtx) : ∃ d, vdpExpire t c = .ok d := by
  unfold vdpExpire
  split_ifs
  · exact ⟨c, rfl⟩
  · cases t with
    | ack =>
      show ∃ d, vdpAckTimeoutHandler _ = .ok d
      unfold vdpAckTimeoutHandler
      dsimp only
      split_ifs
      · exact vdpVsiSmStation_total _
      · exact ⟨_, rfl⟩
    | keepalive =>
      show ∃ d, vdpKeepaliveTimeoutHandler _ = .ok d
      unfold vdpKeepaliveTimeoutHandler
      dsimp only
      split_ifs
      · exact vdpVsiSmStation_total _
      · exact ⟨_, rfl⟩
    | localchange =>
      show ∃ d, vdpLocalchangeHandler _ = .ok d
      unfold vdpLocalchangeHandler
      dsimp only
      split_ifs
      · exact vdpVsiSmStation_total _
      · exact ⟨_, rfl⟩

theorem vdpAdvance_total (c : ProfileCtx) : ∃ d, vdpAdvance c = .ok d := by
  unfold vdpAdvance
  dsimp only
  split_ifs
  · obtain ⟨d, hd⟩ := vdpVsiSmStation_total c.deref
    rw [hd]
    exact ⟨_, rfl⟩
  · exact ⟨_, rfl⟩

theorem ecpHandle_total (vd : VdpData) (e : EcpEvent) : ∃ vd', ecpHandle vd e = .ok vd' := by
  cases e with
  | ackTimeout =>
    unfold ecpHandle ecpAckTimeoutHandler
    dsimp only
    split_ifs
    · exact ⟨_, rfl⟩
    all_goals first | exact ecpTxRunSm_total _ | exact ⟨_, rfl⟩
  | localchange =>
    unfold ecpHandle ecpLocalchangeHandler
    split_ifs
    · exact ⟨_, rfl⟩
    all_goals first | exact ecpTxRunSm_total _ | exact ⟨_, rfl⟩
  | ack seqnr =>
    unfold ecpHandle ecpRxAck
    dsimp only
    split_ifs
    · exact ⟨_, rfl⟩
    · obtain ⟨vd', h⟩ := ecpTxRunSm_total (vdpAckProfiles
        { vd with ecp := { vd.ecp with seqECPDU := seqnr, ackReceived := true } } seqnr)
      rw [h]
      exact ⟨_, rfl⟩
  | request seqnr ack => exact ⟨_, rfl⟩
  | profiles ps => exact ⟨_, rfl⟩
  | changed flag => exact ⟨_, rfl⟩

theorem onEcp_total (s : VdpCtx) (e : EcpEvent) :
    ∃ s', s.onEcp (fun vd => ecpHandle vd e) = .ok s' := by
  obtain ⟨vd, hvd⟩ := ecpHandle_total s.ecpData e
  unfold VdpCtx.onEcp
  dsimp only
  rw [hvd]
  exact ⟨_, rfl⟩

theorem tlvInfoVdpAt_stopsOnly (info : Bytes) : StopsOnly .outOfBounds (tlvInfoVdpAt info) := by
  have hbyte := fun i => readAt_stopsOnly info i
  have hslice := fun i n => sliceAt_stopsOnly info i n
  refine (hslice 0 3).bind fun _ _ => (hbyte 3).bind fun _ _ => (hbyte 4).bind fun _ _ =>
    (hbyte 5).bind fun _ _ => (hbyte 6).bind fun _ _ => ?_
  refine (StopsOnly.bind ((hbyte 7).bind fun _ _ => (hbyte 8).bind fun _ _ =>
    (hbyte 9).bind fun _ _ => stopsOnly_of_ok ⟨_, rfl⟩)) fun _ _ => (hbyte 10).bind fun _ _ => ?_
  refine (StopsOnly.bind ((hslice 11 16).bind fun _ _ => stopsOnly_of_ok ⟨_, rfl⟩)) fun _ _ =>
    (hbyte 27).bind fun _ _ => ?_
  exact (StopsOnly.bind ((hbyte 28).bind fun _ _ => (hbyte 29).bind fun _ _ =>
    stopsOnly_of_ok ⟨_, rfl⟩)) fun _ _ => stopsOnly_of_ok ⟨_, rfl⟩

theorem makeMacvid_stopsOnly (info : Bytes) (n : Nat) : ∀ (pos : Nat) (macvid : List MacVlan),
    StopsOnly .outOfBounds (makeMacvid info n pos macvid) := by
  induction n with
  | zero => exact fun pos macvid => stopsOnly_of_ok ⟨_, rfl⟩
  | succ n ih =>
    intro pos macvid
    refine (sliceAt_stopsOnly info pos _).bind fun mac _ => StopsOnly.bind ?_ fun _ _ => ih _ _
    exact (readAt_stopsOnly info _).bind fun _ _ => (readAt_stopsOnly info _).bind fun _ _ =>
      stopsOnly_of_ok ⟨_, rfl⟩

theorem vdpProfileOfTlv_stopsOnly (info : Bytes) :
    StopsOnly .outOfBounds (vdpProfileOfTlv info) := by
  refine (tlvInfoVdpAt_stopsOnly info).bind fun vdp _ => ?_
  split_ifs
  · have hmake : StopsOnly .outOfBounds (makeProfile vdp info) :=
      (makeMacvid_stopsOnly info _ _ _).bind fun _ _ => stopsOnly_of_ok ⟨_, rfl⟩
    intro g hg
    cases hp : makeProfile vdp info with
    | ok p =>
      rw [hp] at hg
      cases hg
    | error f =>
      rw [hp] at hg
      cases hg
      exact hmake _ hp
  · exact stopsOnly_of_ok ⟨_, rfl⟩

/-- No assertion fails, and no loop is too long. -/
theorem vdpStep_stopsOnly (s : VdpCtx) (e : VdpEvent) :
    StopsOnly .outOfBounds (vdpStep s e) := by
  cases e with
  | request vsi => exact stopsOnly_of_ok ⟨_, rfl⟩
  | mode p => exact stopsOnly_of_ok ⟨_, rfl⟩
  | status number => exact stopsOnly_of_ok ⟨_, rfl⟩
  | tlv info ack =>
    show StopsOnly _ (vdpIndicate info ack s)
    unfold vdpIndicate
    split
    · exact stopsOnly_of_ok ⟨_, rfl⟩
    · refine (vdpProfileOfTlv_stopsOnly info).bind fun q htlv => ?_
      split
      · exact stopsOnly_of_ok ⟨_, rfl⟩
      · split
        · exact stopsOnly_of_ok ⟨_, rfl⟩
        · obtain ⟨hnew, -⟩ := vdpProfileOfTlv_new htlv
          obtain ⟨n, acks, hrun⟩ := vdpVsiSmBridge_new hnew (vdpFindProfile s _).isSome
          refine StopsOnly.bind (stopsOnly_of_ok ⟨_, hrun⟩) fun _ _ => stopsOnly_of_ok ⟨_, rfl⟩
  | advance =>
    obtain ⟨s', hs', -⟩ := foldlM_total (f := fun s h => VdpCtx.on s h vdpAdvance)
      (fun _ _ => True) (fun _ t h _ => by
        obtain ⟨y, hy⟩ := vdpAdvance_total (t.nodes h)
        exact ⟨t.put h y, by rw [VdpCtx.on, hy]; rfl, trivial⟩) s.que [] s trivial
    exact stopsOnly_of_ok ⟨s', hs'⟩
  | timer t h =>
    obtain ⟨y, hy⟩ := vdpExpire_total t (s.nodes h)
    exact (stopsOnly_of_ok ⟨y, hy⟩).bind fun _ _ => stopsOnly_of_ok ⟨_, rfl⟩
  | ecpAckTimeout => exact stopsOnly_of_ok (onEcp_total s .ackTimeout)
  | ecpLocalchange => exact stopsOnly_of_ok (onEcp_total s .localchange)
  | ecpAck seqnr =>
    simp only [vdpStep]
    split
    · exact stopsOnly_of_ok ⟨_, rfl⟩
    · exact stopsOnly_of_ok (onEcp_total s (.ack seqnr))
  | ecpRequest seqnr ack =>
    simp only [vdpStep]
    split
    · exact stopsOnly_of_ok ⟨_, rfl⟩
    · exact stopsOnly_of_ok ⟨_, rfl⟩
  | ifup | ifdown => exact stopsOnly_of_ok ⟨_, rfl⟩
  | port port => exact stopsOnly_of_ok ⟨_, rfl⟩
  | update on => exact stopsOnly_of_ok ⟨_, rfl⟩
  | role role => exact stopsOnly_of_ok ⟨_, rfl⟩

/-! ### Removed profiles -/

/-- The handler of a timer runs the machine, and the run removes the profile. -/
def vdpTimerRemoves : VdpTimer → VdpProfile → Bool
  | .ack, p =>
    let p := if p.ackTimer > 0 then { p with ackTimer := p.ackTimer - vdpAckTimerDefault } else p
    vdpAckTimerExpired p && vdpStationRemoves p
  | .keepalive, p =>
    let p :=
      if p.keepaliveTimer > 0 then
        { p with keepaliveTimer := p.keepaliveTimer - vdpKeepaliveTimerDefault }
      else p
    vdpKeepaliveTimerExpired p && vdpStationRemoves p
  | .localchange, p => (p.ackReceived || p.localChange) && vdpStationRemoves p

/-- No run of the station machine removes the profile that it works on, a query removes no
profile with a pending timer, and no TLV of a station names a profile that the bridge knows. -/
def SafeStep (s : VdpCtx) : VdpEvent → Prop
  | .timer t h =>
    (s.nodes h).timers.count t = 0 ∨ vdpTimerRemoves t (s.nodes h).profile = false
  | .advance => ∀ h ∈ s.que, (s.nodes h).profile.ackReceived = true →
    vdpStationRemoves (s.nodes h).profile = false
  | .status (number + 1) => ∀ h, s.que[number]? = some h →
    (s.nodes h).profile.response ≠ vdpResponseNoResponse → (s.nodes h).profile.state = .exit →
    (s.nodes h).timers = {}
  | .tlv info _ => s.role = .bridge → ∀ q, vdpProfileOfTlv info = .ok (some q) →
    vdpFindProfile s q = none
  | _ => True

/-- Nobody looked at the profile after it was freed, and no timer is left that would. -/
structure Untouched (x : ProfileCtx) : Prop where
  stale : x.stale = 0
  timers : x.freed = true → x.timers = {}

theorem ProfileCtx.Kept.untouched {x : ProfileCtx} (hx : x.Kept 0) : Untouched x :=
  ⟨hx.stale, fun h => absurd (hx.freed.symm.trans h) (by decide)⟩

theorem ProfileCtx.Kept.new (p : VdpProfile) : ProfileCtx.Kept 0 { profile := p } := ⟨rfl, rfl⟩

/-! The functions that look at a profile and free none -/

variable {c : ProfileCtx} {n : Nat}

theorem vdpAddProfileEnd_kept (hc : c.Kept n) :
    (vdpAddProfileEnd c).Kept n := by
  unfold vdpAddProfileEnd vdpSomethingChangedLocal
  split_ifs <;> exact ⟨hc.freed, hc.stale⟩

theorem vdpAddProfileHit_kept (hc : c.Kept n) (new : VdpProfile) :
    (vdpAddProfileHit new c).Kept n := by
  unfold vdpAddProfileHit
  rw [ProfileCtx.deref_of_live hc.freed]
  exact vdpAddProfileEnd_kept ⟨hc.freed, hc.stale⟩

theorem vdpAddProfileNew_kept (hc : c.Kept n) :
    (vdpAddProfileNew c).Kept n := vdpAddProfileEnd_kept ⟨hc.freed, hc.stale⟩

theorem vdpRequested_kept (hc : c.Kept n) :
    (vdpRequested c).Kept n := ⟨hc.freed, hc.stale⟩

theorem vdpStationIndicate_kept (hc : c.Kept n) (q : VdpProfile) :
    (vdpStationIndicate q c).Kept n := by
  unfold vdpStationIndicate
  rw [ProfileCtx.deref_of_live hc.freed]
  exact ⟨hc.freed, hc.stale⟩

theorem vdpStartTimers_kept (hc : c.Kept n) :
    (vdpStartTimers c).Kept n := by
  unfold vdpStartTimers vdpStartAckTimer vdpStartKeepaliveTimer vdpSomethingChangedLocal
  rw [ProfileCtx.deref_of_live hc.freed]
  dsimp only
  split_ifs <;> exact ⟨hc.freed, hc.stale⟩

theorem vdpStopTimers_kept (hc : c.Kept n) :
    (vdpStopTimers c).Kept n := by
  unfold vdpStopTimers vdpStopAckTimer vdpStopKeepaliveTimer
  rw [ProfileCtx.deref_of_live hc.freed]
  dsimp only
  split_ifs <;> exact ⟨hc.freed, hc.stale⟩

theorem vdpStatusHit_untouched (hc : c.Kept 0)
    (htimers : c.profile.response ≠ vdpResponseNoResponse → c.profile.state = .exit →
      c.timers = {}) : Untouched (vdpStatusHit c) := by
  unfold vdpStatusHit
  rw [ProfileCtx.deref_of_live hc.freed]
  dsimp only
  split_ifs with hexit
  · unfold vdpRemoveProfile
    rw [ProfileCtx.deref_of_live hc.freed]
    exact ⟨hc.stale, fun _ => htimers hexit.1 hexit.2⟩
  · exact hc.untouched

theorem ProfileCtx.Kept.station {c d : ProfileCtx} (hc : c.Kept n)
    (h : vdpStationRemoves c.profile = false) (hrun : vdpVsiSmStation c = .ok d) : d.Kept n := by
  obtain ⟨hfreed, hsame⟩ := vdpVsiSmStation_kept hc.freed h hrun
  exact ⟨hfreed, hsame.trans hc.stale⟩

theorem vdpAdvance_kept {c d : ProfileCtx} (hc : c.Kept n)
    (h : c.profile.ackReceived = true → vdpStationRemoves c.profile = false)
    (hrun : vdpAdvance c = .ok d) : d.Kept n := by
  unfold vdpAdvance at hrun
  rw [ProfileCtx.deref_of_live hc.freed] at hrun
  dsimp only at hrun
  split_ifs at hrun with hack
  · obtain ⟨x, hx, hd⟩ := bind_eq_ok.mp hrun
    have hkept := hc.station (h hack) hx
    cases hd
    rw [ProfileCtx.deref_of_live hkept.freed]
    exact ⟨hkept.freed, hkept.stale⟩
  · cases hrun
    exact hc

theorem vdpHandler_kept {t : VdpTimer} {c d : ProfileCtx} (hc : c.Kept n)
    (h : vdpTimerRemoves t c.profile = false) (hrun : vdpHandler t c = .ok d) : d.Kept n := by
  -- the machine runs, so the run is the part of the condition that is false
  have hrest : ∀ {a b : Bool}, (a && b) = false → a = true → b = false := by
    intro a b hab ha
    rwa [ha, Bool.true_and] at hab
  cases t with
  | ack =>
    simp only [vdpHandler, vdpAckTimeoutHandler, ProfileCtx.deref_of_live hc.freed] at hrun
    split_ifs at hrun with hexpired
    · exact ProfileCtx.Kept.station (c := c.set _) ⟨hc.freed, hc.stale⟩ (hrest h hexpired) hrun
    · cases hrun
      exact ⟨hc.freed, hc.stale⟩
  | keepalive =>
    simp only [vdpHandler, vdpKeepaliveTimeoutHandler, ProfileCtx.deref_of_live hc.freed] at hrun
    split_ifs at hrun with hexpired
    · exact ProfileCtx.Kept.station (c := c.set _) ⟨hc.freed, hc.stale⟩ (hrest h hexpired) hrun
    · cases hrun
      exact ⟨hc.freed, hc.stale⟩
  | localchange =>
    simp only [vdpHandler, vdpLocalchangeHandler, ProfileCtx.deref_of_live hc.freed] at hrun
    split_ifs at hrun with hchanged
    · exact hc.station (hrest h (Bool.or_eq_true_iff.mpr hchanged)) hrun
    · cases hrun
      exact hc

theorem vdpExpire_untouched {t : VdpTimer} {c d : ProfileCtx} (hc : Untouched c)
    (h : c.timers.count t = 0 ∨ vdpTimerRemoves t c.profile = false)
    (hrun : vdpExpire t c = .ok d) : Untouched d := by
  unfold vdpExpire at hrun
  split_ifs at hrun with hcount
  · cases hrun
    exact hc
  · have hlive : c.freed = false := by
      by_contra hfreed
      rw [Bool.not_eq_false] at hfreed
      refine hcount ?_
      rw [hc.timers hfreed]
      cases t <;> rfl
    have hremoves := h.resolve_left hcount
    let x : ProfileCtx := { c with timers := c.timers.expire t }
    refine (vdpHandler_kept (c := x) ?_ hremoves hrun).untouched
    exact ⟨hlive, hc.stale⟩

theorem untouched_of_move {s : VdpCtx} (hs : s.Wf) (huntouched : ∀ h, Untouched (s.nodes h))
    {e : VdpEvent} (hsafe : SafeStep s e) {h : Nat} {y : ProfileCtx} (hmove : VdpMove s e h y) :
    Untouched y := by
  -- the profiles of the list were not freed
  have hkept : ∀ h ∈ s.que, (s.nodes h).Kept 0 := fun h hmem =>
    ⟨hs.live h hmem, (huntouched h).stale⟩
  cases hmove with
  | requestedNew => exact (vdpRequested_kept (vdpAddProfileNew_kept (.new _))).untouched
  | requestedHit hmem =>
    exact (vdpRequested_kept (vdpAddProfileHit_kept (hkept _ hmem) _)).untouched
  | modeNew => exact (vdpAddProfileNew_kept (.new _)).untouched
  | modeHit hmem => exact (vdpAddProfileHit_kept (hkept _ hmem) _).untouched
  | queried hmem hnumber => exact vdpStatusHit_untouched (hkept _ hmem) (hsafe _ hnumber)
  | indicated hrole hmem => exact (vdpStationIndicate_kept (hkept _ hmem) _).untouched
  | bridged hrole htlv hrun =>
    obtain ⟨n, acks, hnew⟩ := vdpVsiSmBridge_new (vdpProfileOfTlv_new htlv).1 false
    rw [hsafe hrole _ htlv] at hrun
    cases hnew.symm.trans hrun
    exact ProfileCtx.Kept.untouched ⟨rfl, rfl⟩
  | advanced hmem hrun => exact (vdpAdvance_kept (hkept _ hmem) (hsafe _ hmem) hrun).untouched
  | expired hlt hrun => exact vdpExpire_untouched (huntouched _) hsafe hrun
  | transmitted hmem =>
    exact ProfileCtx.Kept.untouched ⟨(hkept _ hmem).freed, (hkept _ hmem).stale⟩
  | started hmem => exact (vdpStartTimers_kept (hkept _ hmem)).untouched
  | stopped hmem => exact (vdpStopTimers_kept (hkept _ hmem)).untouched

/-- In a run of safe steps nobody looks at a profile that was freed, and no assertion fails in
the next step. -/
theorem removed_untouched {s : VdpCtx} (h : vdpSystem.ReachableWhere SafeStep s) :
    (∀ i, (s.nodes i).stale = 0) ∧
      ∀ e f, vdpStep s e = .error f → f = .outOfBounds := by
  have hinv : s.Wf ∧ ∀ i, Untouched (s.nodes i) := by
    refine System.ReachableWhere.invariant (I := fun s => s.Wf ∧ ∀ i, Untouched (s.nodes i))
      (fun s hs => ⟨wf_vdpCreate hs, fun i => ?_⟩) ?_ h
    · obtain ⟨role, own, port, rfl⟩ := hs
      exact ⟨rfl, fun _ => rfl⟩
    · rintro s e t ⟨hs, huntouched⟩ hsafe hstep
      have hmoved := vdpStep_moved hs hstep
      refine ⟨hmoved.wf, fun i => ?_⟩
      rcases hmoved.node i with ⟨heq, -⟩ | ⟨y, hmove, heq, -⟩
      · rw [heq]
        exact huntouched i
      · rw [heq]
        have hy := untouched_of_move hs huntouched hsafe hmove
        exact ⟨hy.stale, hy.timers⟩
  exact ⟨fun i => (hinv.2 i).stale, fun e f => vdpStep_stopsOnly s e f⟩

/-- A station at the start -/
def newStation : VdpCtx := vdpCreate .station .zero (some { portEnabled := true })

theorem newStation_init : vdpSystem.init newStation := ⟨.station, .zero, _, rfl⟩

/-- A request to associate -/
def associateRequest : VdpnlVsi :=
  { request := 2, vsiMgrid := 1, reqPid := 7, reqSeq := 1, maclist := [{ vlan := 100 }] }

/-- A request, its frame, the answer of the bridge, and a query -/
def answeredEvents : List VdpEvent :=
  [.update true, .request associateRequest, .timer .localchange 0, .ecpLocalchange, .ecpAck 1,
    .tlv ([0x00, 0x1b, 0x3f, 2, 2, 0, 1, 0, 0, 0, 0] ++ List.replicate 16 0 ++ [2, 0, 1] ++
      [0, 0, 0, 0, 0, 0, 0, 100]) [], .advance, .ecpRequest 9 [], .status 1]

/-- What is checked of these events -/
def answeredCheck (s : VdpCtx) : VdpEvent → Bool
  | .timer t h =>
    (s.nodes h).timers.count t == 0 || !vdpTimerRemoves t (s.nodes h).profile
  | .advance => s.que.all fun h => !vdpStationRemoves (s.nodes h).profile
  | .status (number + 1) => (s.que[number]?).all fun h => (s.nodes h).profile.state != .exit
  | .tlv _ _ => s.role != .bridge
  | _ => true

theorem safeStep_of_answeredCheck {s : VdpCtx} {e : VdpEvent} (h : answeredCheck s e = true) :
    SafeStep s e := by
  cases e with
  | timer t h' => simpa [answeredCheck, SafeStep] using h
  | advance =>
    simp only [answeredCheck, List.all_eq_true, Bool.not_eq_true'] at h
    exact fun i hmem _ => h i hmem
  | status number =>
    cases number with
    | zero => trivial
    | succ number =>
      intro i hi _ hexit
      simp [answeredCheck, hi, hexit] at h
  | tlv info ack =>
    intro hrole
    simp [answeredCheck, hrole] at h
  | _ => trivial

theorem newStation_answered :
    ∃ s, vdpSystem.RunWhere SafeStep newStation answeredEvents s ∧ (s.nodes 0).stale = 0 ∧
      (s.nodes 0).profile.state = .associated := by
  obtain ⟨s, hrun, hstate⟩ := System.exists_runWhere vdpSystem answeredCheck
    (fun s e => safeStep_of_answeredCheck) newStation answeredEvents
    (fun s => (s.nodes 0).profile.state == .associated) (by decide +kernel)
  exact ⟨s, hrun, (removed_untouched ⟨_, _, newStation_init, hrun⟩).1 0, by simpa using hstate⟩

/-- Nobody answers a request, and the machine looks at the profile that it removed. -/
theorem removed_profile_read :
    ¬ ∀ s, vdpSystem.Reachable s → (∀ i, (s.nodes i).stale = 0) ∧
      ∀ e, vdpStep s e ≠ .error .assertFailed := by
  intro hall
  obtain ⟨s, hrun, hstale⟩ := System.exists_run vdpSystem newStation
    [.update true, .request associateRequest, .timer .localchange 0, .timer .ack 0]
    (fun s => (s.nodes 0).stale != 0) (by decide +kernel)
  have hzero := (hall s ⟨_, _, newStation_init, hrun⟩).1 0
  simp [hzero] at hstale

end Lldpad.Qbg
