import Lldpad.Proofs.Qbg.VsiEnd

/-!
# `Lldpad.Proofs.Qbg.VsiReport`: what the requestor of a VSI is told of its end

`EndNode` is what one VSI of a station keeps between two events, and `NodeStep` what an event
does to it. There is one lemma for each event that reaches a VSI: a timer, an answer of the
bridge, a request of the client and a failed transmission.
-/

namespace Lldpad.Qbg

open Lldpad.Lib

/-! ### A VSI between two events -/

/-- A VSI of a station between two events. When it ended and is still there, its requestor polls
and was not told yet, and there is a status to tell. -/
structure EndNode (x : Vsi22Ctx) : Prop where
  foreign : NoForeignTimers x.timers .station
  rest : AtRest x.vsi.smi
  waiting : x.freed = false → x.ended = true → x.vsi.flags.deleteMe = true ∧
    endReported x.vsi = false ∧ x.vsi.status ≠ vdp22RespNone ∧ x.vsi.ccVsiMode = vdp22Deassoc
  running : x.freed = false → x.ended = false → x.vsi.flags.deleteMe = false ∧
    (x.vsi.status = vdp22RespNone → x.vsi.smi.state = .station .stationProcwait)
  stopped : x.ended = true → x.timers.ackto = 0 ∧ x.timers.kato = 0
  gone : x.freed = true → x.ended = false → x.timers = {}

/-- What an event other than a poll does to a VSI: `y` is the VSI behind it, with the messages
that were sent about it. -/
structure NodeStep (x y : Vsi22Ctx) : Prop where
  key : vsiKey y.vsi = vsiKey x.vsi
  node : EndNode y
  ended : x.ended = true → y.ended = true
  freed : x.freed = true → y.freed = true ∧ y.ended = x.ended ∧ y.back = []
  removed : x.freed = false → y.freed = true → y.ended = true
  told : x.freed = false → y.ended = true →
    y.back.count (endMsg y.vsi) = if y.freed then 1 else 0

variable {x : Vsi22Ctx}

theorem ended_iff : x.ended = true ↔ x.vsi.smi.state = .station .vdpEnd :=
  decide_eq_true_iff

variable {y u : Vsi22Ctx} {rc : Int} {smi : Vdp22smi} {v w : Vsi22}

theorem atRest_of_ended (h : smi.state = .station .vdpEnd) : AtRest smi := by
  unfold AtRest
  rw [h]
  trivial

theorem EndNode.still {x : Vsi22Ctx} (hx : EndNode x) (hlive : x.freed = false)
    (hkey : vsiKey y.vsi = vsiKey x.vsi) (hfreed : y.freed = false) (hback : y.back = [])
    (hforeign : NoForeignTimers y.timers .station) (hrest : AtRest y.vsi.smi)
    (hstate : y.vsi.smi.state = x.vsi.smi.state)
    (hflags : y.vsi.flags.deleteMe = x.vsi.flags.deleteMe)
    (hreported : endReported y.vsi = endReported x.vsi) (hcc : y.vsi.ccVsiMode = x.vsi.ccVsiMode)
    (htimers : x.timers.ackto = 0 ∧ x.timers.kato = 0 → y.timers.ackto = 0 ∧ y.timers.kato = 0)
    (hstatus : y.vsi.status = vdp22RespNone → x.vsi.status = vdp22RespNone) : NodeStep x y := by
  have hended : y.ended = x.ended := by
    unfold Vsi22Ctx.ended
    rw [hstate]
  refine ⟨hkey, ⟨hforeign, hrest, fun _ hend => ?_, fun _ hopen => ?_, fun hend => ?_, fun h => ?_⟩,
    ?_, ?_, ?_, ?_⟩
  · rw [hended] at hend
    obtain ⟨hdelete, hno, hsome, hccx⟩ := hx.waiting hlive hend
    exact ⟨hflags.trans hdelete, hreported.trans hno, fun h => hsome (hstatus h), hcc.trans hccx⟩
  · rw [hended] at hopen
    obtain ⟨hkeep, hwait⟩ := hx.running hlive hopen
    exact ⟨hflags.trans hkeep, fun h => hstate.trans (hwait (hstatus h))⟩
  · exact htimers (hx.stopped (hended ▸ hend))
  · rw [hfreed] at h
    cases h
  · exact fun h => hended.trans h
  · intro h
    rw [hlive] at h
    cases h
  · intro _ h
    rw [hfreed] at h
    cases h
  · intro _ _
    rw [hback, hfreed]
    rfl

/-- A run of the machine on a VSI that had not ended. It was changed to `u` before. -/
theorem NodeStep.run {x : Vsi22Ctx} (hlive : x.freed = false)
    (hopen : x.ended = false) (hulive : u.freed = false) (hkeep : u.vsi.flags.deleteMe = false)
    (hkey : vsiKey u.vsi = vsiKey x.vsi) (hforeign : NoForeignTimers u.timers .station)
    (htold : Told u) (h : vdp22stRun rc u = .ok y)
    (hstatus : y.vsi.status ≠ vdp22RespNone ∨ y.vsi.smi.state = .station .stationProcwait ∨
      y.ended = true ∧ endReported u.vsi = true) : NodeStep x y := by
  have hrun := vdp22stRun_spec hulive hkeep htold h
  have hreported : endReported y.vsi = endReported u.vsi := by
    unfold endReported
    rw [hrun.pid, hrun.notify]
  have hother := vdp22stRun_otherTimers h
  refine ⟨hrun.key.trans hkey, ⟨?_, hrun.rest, fun hfreed hend => ?_, fun hfreed hend => ?_,
    hrun.timers, fun hfreed hno => ?_⟩, ?_, ?_, ?_, ?_⟩
  · exact ⟨(congrArg (·.1) hother).trans hforeign.1, (congrArg (·.2.1) hother).trans hforeign.2⟩
  · have hno : endReported u.vsi = false := by
      have heq := hrun.freed
      rwa [hfreed, hend, Bool.true_and, eq_comm] at heq
    refine ⟨hrun.deleteMe.trans hend, hreported.trans hno, ?_, hrun.cc hend⟩
    rcases hstatus with hstatus | hwait | ⟨-, hyes⟩
    · exact hstatus
    · rw [ended_iff, hwait] at hend
      cases hend
    · exact Bool.noConfusion (hno.symm.trans hyes)
  · refine ⟨hrun.deleteMe.trans hend, fun hnone => ?_⟩
    rcases hstatus with hstatus | hwait | ⟨hyes, -⟩
    · exact absurd hnone hstatus
    · exact hwait
    · exact Bool.noConfusion (hend.symm.trans hyes)
  · have heq := hrun.freed
    rw [hfreed, eq_comm, Bool.and_eq_true] at heq
    exact Bool.noConfusion (hno.symm.trans heq.1)
  · intro hend
    exact Bool.noConfusion (hopen.symm.trans hend)
  · intro hfreed
    exact Bool.noConfusion (hlive.symm.trans hfreed)
  · intro _ hfreed
    have heq := hrun.freed
    rw [hfreed, eq_comm, Bool.and_eq_true] at heq
    exact heq.1
  · intro _ hend
    rw [hrun.told hend, hrun.freed, hend, Bool.true_and]

theorem EndNode.told {x : Vsi22Ctx} (hx : EndNode x) (hstate : u.vsi.smi.state = x.vsi.smi.state)
    (hback : u.back = [])
    (hwait : x.vsi.smi.state = .station .stationProcwait → Quiet u.vsi.smi ∨ Heard u.vsi) :
    Told u := by
  have hrest := hx.rest
  unfold AtRest at hrest
  refine ⟨⟨fun h => ?_, fun h => ?_, fun h => absurd hback h, ?_⟩, fun h => ?_⟩
  · rw [hstate] at h
    exact (hwait h).imp_right fun hheard => ⟨hback, hheard⟩
  · rw [hstate] at h
    rw [h] at hrest
    exact hrest.elim
  · rw [hback]
    exact fun _ hm => absurd hm List.not_mem_nil
  · rw [hstate] at h
    rcases h with h | h <;> rw [h] at hrest <;> exact hrest.elim

theorem EndNode.begun (hx : EndNode x) : isBegun x.vsi.smi.state := by
  have hrest := hx.rest
  unfold AtRest at hrest
  constructor <;> intro h <;> rw [h] at hrest <;> exact hrest.elim

theorem vdp22stRun_ended (rc : Int) (hlive : x.freed = false)
    (hended : x.ended = true) : vdp22stRun rc x = .ok (vdp22stEnd x) := by
  have hstate := ended_iff.mp hended
  rw [vdp22stRun_still hlive, if_pos hstate]
  · unfold vdp22stNextState
    rw [hstate]
    rfl
  · unfold vdp22stAction
    rw [deref_of_live hlive]
    dsimp only
    rw [hstate]

theorem NodeStep.again {x : Vsi22Ctx} (hx : EndNode x) (hlive : x.freed = false)
    (hended : x.ended = true) (hulive : u.freed = false) (hback : u.back = [])
    (hstate : u.vsi.smi.state = x.vsi.smi.state) (hkey : vsiKey u.vsi = vsiKey x.vsi)
    (hforeign : NoForeignTimers u.timers .station)
    (hreported : endReported u.vsi = endReported x.vsi) (hstatus : u.vsi.status ≠ vdp22RespNone)
    (h : vdp22stRun rc u = .ok y) : NodeStep x y := by
  obtain ⟨hdelete, hno, -, hcc⟩ := hx.waiting hlive hended
  have huended : u.ended = true := by
    rw [ended_iff] at hended ⊢
    rw [hstate, hended]
  rw [vdp22stRun_ended rc hulive huended] at h
  cases h
  obtain ⟨hvsi, hfreed, hsaid⟩ := vdp22stEnd_spec hulive
  rw [hreported, hno] at hfreed hsaid
  refine hx.still hlive ?_ hfreed ?_ ?_ ?_ ?_ ?_ ?_ ?_ ?_ ?_
  · rw [hvsi]
    exact hkey
  · rw [hsaid, hback]
    rfl
  · rw [vdp22stEnd_timers]
    exact hforeign
  · rw [hvsi]
    exact atRest_of_ended (ended_iff.mp huended)
  · rw [hvsi]
    exact hstate
  · rw [hvsi, hdelete]
    rfl
  · rw [hvsi]
    exact hreported
  · rw [hvsi, hcc]
    rfl
  · rw [vdp22stEnd_timers]
    exact fun _ => ⟨rfl, rfl⟩
  · rw [hvsi]
    exact fun h => absurd h hstatus

/-! ### The events -/

theorem EndNode.refl (hx : EndNode x) (hback : x.back = []) : NodeStep x x where
  key := rfl
  node := hx
  ended := id
  freed h := ⟨h, rfl, hback⟩
  removed h h' := Bool.noConfusion (h.symm.trans h')
  told hlive _ := by
    rw [hback, hlive]
    rfl

/-- The machine waits for the same as before. -/
structure SameWait (smi smi' : Vdp22smi) : Prop where
  state : smi'.state = smi.state
  txmitError : smi'.txmitError = smi.txmitError
  acktimeout : smi'.acktimeout = smi.acktimeout
  ackreceived : smi'.ackreceived = smi.ackreceived

theorem AtRest.congr {smi' : Vdp22smi} (h : AtRest smi) (hsame : SameWait smi smi') :
    AtRest smi' := by
  unfold AtRest at h ⊢
  rw [hsame.state, hsame.txmitError, hsame.acktimeout, hsame.ackreceived]
  exact h

theorem AtRest.quiet (h : AtRest smi)
    (hstate : smi.state = .station .stationProcwait) : Quiet smi := by
  unfold AtRest at h
  rw [hstate] at h
  exact .inr ⟨h.2.2, h.2.1⟩

/-- A run on a VSI that waits for the same as before: a VSI that was not answered goes on
waiting. -/
theorem NodeStep.nudge {x : Vsi22Ctx} (hx : EndNode x) (hlive : x.freed = false)
    (hulive : u.freed = false) (hback : u.back = []) (hsmi : SameWait x.vsi.smi u.vsi.smi)
    (hkey : vsiKey u.vsi = vsiKey x.vsi) (hforeign : NoForeignTimers u.timers .station)
    (hdelete : u.vsi.flags.deleteMe = x.vsi.flags.deleteMe)
    (hreported : endReported u.vsi = endReported x.vsi) (hstatus : u.vsi.status = x.vsi.status)
    (h : vdp22stRun rc u = .ok y) : NodeStep x y := by
  cases hended : x.ended with
  | true =>
    refine NodeStep.again hx hlive hended hulive hback hsmi.state hkey hforeign hreported ?_ h
    rw [hstatus]
    exact (hx.waiting hlive hended).2.2.1
  | false =>
    obtain ⟨hkeep, hwait⟩ := hx.running hlive hended
    have hukeep := hdelete.trans hkeep
    have htold : Told u := hx.told hsmi.state hback fun hstate =>
      .inl ((hx.rest.congr hsmi).quiet (hsmi.state.trans hstate))
    refine NodeStep.run hlive hended hulive hukeep hkey hforeign htold h ?_
    by_cases hnone : x.vsi.status = vdp22RespNone
    · -- the answer to the first request is still missing
      have hstate := hsmi.state.trans (hwait hnone)
      rw [vdp22stRun_waiting rc hulive hstate (hx.rest.congr hsmi)] at h
      cases h
      exact .inr (.inl hstate)
    · have hbegun : isBegun u.vsi.smi.state := by
        rw [hsmi.state]
        exact hx.begun
      rw [vdp22stRun_status hulive hukeep hbegun h, hstatus]
      exact .inl hnone

theorem EndNode.modvsi {rc' : Int} {mode : UInt8} {x : Vsi22Ctx} (hx : EndNode x)
    (hlive : x.freed = false) (hback : x.back = []) (h : vdp22Modvsi rc mode x = .ok (y, rc')) :
    NodeStep x y := by
  unfold vdp22Modvsi at h
  rw [deref_of_live hlive] at h
  dsimp only at h
  split_ifs at h with hdelete hmode
  · cases h
    exact hx.refl hback
  · cases h
    exact hx.refl hback
  · obtain ⟨z, hz, hy⟩ := bind_eq_ok.mp h
    cases hy
    refine NodeStep.nudge hx hlive ?_ ?_ ?_ ?_ ?_ ?_ ?_ ?_ hz
    · exact hlive
    · exact hback
    · exact ⟨rfl, rfl, rfl, rfl⟩
    · rfl
    · exact hx.foreign
    · rfl
    · rfl
    · rfl

theorem vdp22CmpStatus_kept (p vsip : Vsi22) :
    vsiKey (vdp22CmpStatus p vsip) = vsiKey p ∧ (vdp22CmpStatus p vsip).fdata = p.fdata ∧
      (vdp22CmpStatus p vsip).flags = p.flags ∧
      (p.status ≠ vdp22RespNone → (vdp22CmpStatus p vsip).status ≠ vdp22RespNone) := by
  unfold vdp22CmpStatus
  split_ifs
  · exact ⟨rfl, rfl, rfl, fun _ => (by decide : vdp22RespNoaddr ≠ vdp22RespNone)⟩
  · exact ⟨rfl, rfl, rfl, id⟩

theorem EndNode.mismatched (hx : EndNode x) (hlive : x.freed = false)
    (hback : x.back = []) (v : Vsi22) :
    NodeStep x { x with vsi := vdp22CmpStatus x.vsi v } := by
  obtain ⟨hkey, hfdata, hflags, hstatus⟩ := vdp22CmpStatus_kept x.vsi v
  have hsmi := vdp22CmpStatus_smi x.vsi v
  refine hx.still hlive hkey hlive hback hx.foreign ?_ ?_ ?_ ?_ ?_ id ?_
  · show AtRest (vdp22CmpStatus x.vsi v).smi
    rw [hsmi]
    exact hx.rest
  · exact congrArg (·.state) hsmi
  · exact congrArg (·.deleteMe) hflags
  · show endReported (vdp22CmpStatus x.vsi v) = _
    unfold endReported havepid
    rw [hfdata, hflags]
  · exact vdp22CmpStatus_ccVsiMode x.vsi v
  · exact fun h => Classical.byContradiction fun hne => hstatus hne h

theorem EndNode.stop (hx : EndNode x) (hlive : x.freed = false)
    (hback : x.back = []) : NodeStep x (vdp22StopTimers x) := by
  unfold vdp22StopTimers
  rw [deref_of_live hlive]
  exact hx.still hlive rfl hlive hback hx.foreign hx.rest rfl rfl rfl rfl
    (fun _ => ⟨rfl, rfl⟩) id

theorem EndNode.start (hx : EndNode x) (hlive : x.freed = false)
    (hback : x.back = []) : NodeStep x (vdp22StartLocalchange x) := by
  unfold vdp22StartLocalchange
  rw [deref_of_live hlive]
  exact hx.still hlive rfl hlive hback hx.foreign (hx.rest.congr ⟨rfl, rfl, rfl, rfl⟩)
    rfl rfl rfl rfl id id

/-- A timer of a VSI that is gone -/
theorem EndNode.expired_gone {t : Vdp22Timer} {x : Vsi22Ctx} (hx : EndNode x)
    (hfreed : x.freed = true) (hback : x.back = [])
    (hlocal : t = .localchange → x.timers.localchange ≠ 0 → x.vsi.smi.localchg = false)
    (h : vdp22Expire rc t x = .ok y) : NodeStep x y := by
  unfold vdp22Expire at h
  split_ifs at h with hcount
  · cases h
    exact hx.refl hback
  have hended : x.ended = true := by
    cases hended : x.ended with
    | true => rfl
    | false =>
      rw [hx.gone hfreed hended] at hcount
      cases t <;> exact absurd rfl hcount
  obtain ⟨hackto, hkato⟩ := hx.stopped hended
  rw [vdp22Handler_eq] at h
  cases t with
  | ackto => exact absurd hackto hcount
  | kato => exact absurd hkato hcount
  | brKato => exact absurd hx.foreign.1 hcount
  | resto => exact absurd hx.foreign.2 hcount
  | localchange =>
    let z : Vsi22Ctx := { x with timers := x.timers.expire .localchange }
    have hvsi : z.deref.vsi = x.vsi := deref_vsi z
    have htimers : z.deref.timers = x.timers.expire .localchange := deref_timers z
    have hsame : z.deref.ended = x.ended := by
      unfold Vsi22Ctx.ended
      rw [hvsi]
    have hgone : z.deref.freed = true := (deref_freed z).trans hfreed
    have hsilent : z.deref.back = [] := by
      unfold Vsi22Ctx.deref
      split_ifs <;> exact hback
    have hno : Vdp22Timer.runs z.vsi.smi .localchange = false := hlocal rfl hcount
    change (if Vdp22Timer.runs z.vsi.smi .localchange then _ else Except.ok z.deref) = _ at h
    rw [hno, if_neg Bool.false_ne_true] at h
    cases h
    refine ⟨congrArg vsiKey hvsi, ⟨?_, ?_, ?_, ?_, ?_, ?_⟩, ?_, ?_, ?_, ?_⟩
    · rw [htimers]
      exact hx.foreign
    · rw [hvsi]
      exact hx.rest
    · exact fun h => Bool.noConfusion (h.symm.trans hgone)
    · exact fun h => Bool.noConfusion (h.symm.trans hgone)
    · intro _
      rw [htimers]
      exact ⟨hackto, hkato⟩
    · exact fun _ h => Bool.noConfusion (h.symm.trans (hsame.trans hended))
    · exact fun h => hsame.trans h
    · exact fun _ => ⟨hgone, hsame, hsilent⟩
    · exact fun h => Bool.noConfusion (h.symm.trans hfreed)
    · exact fun h => Bool.noConfusion (h.symm.trans hfreed)

/-- A timer of a VSI that is there. A time-out must not end a VSI that has nothing to tell its
requestor, when the requestor polls. -/
theorem EndNode.expired {t : Vdp22Timer} {x : Vsi22Ctx} (hx : EndNode x)
    (hsettled : Settled x.vsi) (hlive : x.freed = false) (hback : x.back = [])
    (hackto : t = .ackto → x.timers.ackto ≠ 0 →
      havepid x.vsi = 0 ∨ x.vsi.status ≠ vdp22RespNone)
    (h : vdp22Expire rc t x = .ok y) : NodeStep x y := by
  unfold vdp22Expire at h
  split_ifs at h with hcount
  · cases h
    exact hx.refl hback
  let z : Vsi22Ctx := { x with timers := x.timers.expire t }
  have hz : z.deref = z := deref_of_live hlive
  have hforeign : NoForeignTimers z.timers .station := hx.foreign.expire t
  change vdp22Handler rc t z = .ok y at h
  rw [vdp22Handler_eq, hz] at h
  split_ifs at h with hruns
  · rw [machine_of_pending hx.foreign hcount] at h
    let u : Vsi22Ctx := z.setSmi fun smi => t.mark smi
    change vdp22stRun rc u = .ok y at h
    have hulive : u.freed = false := hlive
    have huback : u.back = [] := hback
    cases t with
    | brKato => exact absurd hx.foreign.1 hcount
    | resto => exact absurd hx.foreign.2 hcount
    | kato | localchange =>
      exact NodeStep.nudge hx hlive hulive huback ⟨rfl, rfl, rfl, rfl⟩ rfl hforeign rfl rfl rfl h
    | ackto =>
      have hstate : u.vsi.smi.state = x.vsi.smi.state := rfl
      cases hended : x.ended with
      | true =>
        exact NodeStep.again hx hlive hended hulive huback rfl rfl hforeign rfl
          (hx.waiting hlive hended).2.2.1 h
      | false =>
        obtain ⟨hkeep, hwait⟩ := hx.running hlive hended
        have htold : Told u := hx.told hstate hback fun hproc => .inr fun hok => by
          -- an answer would have been taken at once
          have hno : u.vsi.smi.respOk = false := (hsettled.wait hproc).2
          exact Bool.noConfusion (hno.symm.trans hok)
        refine NodeStep.run hlive hended hulive hkeep rfl hforeign htold h ?_
        by_cases hnone : x.vsi.status = vdp22RespNone
        · have hpid := (hackto rfl hcount).resolve_right (not_not.mpr hnone)
          have hwaiting : isWaiting u.vsi.smi.state = true := by
            rw [hstate, hwait hnone]
            rfl
          obtain ⟨y', hy', hend, -⟩ := vdp22stRun_timeout rc hulive hwaiting rfl
          cases h.symm.trans hy'
          refine .inr (.inr ⟨ended_iff.mpr hend, ?_⟩)
          unfold endReported
          rw [Bool.or_eq_true]
          exact .inl (decide_eq_true hpid)
        · have hbegun : isBegun u.vsi.smi.state := hx.begun
          rw [vdp22stRun_status hulive hkeep hbegun h]
          exact .inl hnone
  · rw [← Except.ok.inj h]
    refine hx.still hlive rfl hlive hback hforeign hx.rest rfl rfl rfl rfl ?_ id
    rintro ⟨hno, hkato⟩
    show (x.timers.expire t).ackto = 0 ∧ (x.timers.expire t).kato = 0
    cases t <;> simp [Vsi22Timers.expire, hno, hkato]

/-! ### An answer of the bridge -/

theorem havepid_congr (h : w.fdata.map (·.requestor) = v.fdata.map (·.requestor)) :
    havepid w = havepid v := by
  have hlast : ∀ v : Vsi22, havepid v =
      ((v.fdata.map (·.requestor)).getLast?.map (·.reqPid)).getD 0 := by
    intro v
    unfold havepid
    rw [List.getLast?_map]
    cases v.fdata.getLast? <;> rfl
  rw [hlast, hlast, h]

theorem vdp22Cpfid_requestor (hit from' : Vsi22) :
    vsiKey (vdp22Cpfid hit from') = vsiKey hit ∧ havepid (vdp22Cpfid hit from') = havepid hit ∧
      (vdp22Cpfid hit from').flags.deleteMe = hit.flags.deleteMe ∧
      (vdp22Cpfid hit from').flags.notify = hit.flags.notify := by
  unfold vdp22Cpfid
  by_cases hlen : hit.fdata.length ≠ from'.fdata.length
  · rw [if_pos hlen]
    exact ⟨rfl, rfl, rfl, rfl⟩
  · rw [if_neg hlen]
    refine ⟨rfl, havepid_congr ?_, ?_, ?_⟩
    · have hzip : ((hit.fdata.zip from'.fdata).map Prod.fst).map (·.requestor) =
          hit.fdata.map (·.requestor) := by
        rw [List.map_fst_zip (Nat.le_of_eq (not_not.mp hlen))]
      rw [← hzip, List.map_map, List.map_map]
      rfl
    · split_ifs <;> rfl
    · split_ifs <;> rfl

theorem getError_ne_none (x : UInt8) : getError x ≠ vdp22RespNone := by
  unfold getError
  split_ifs
  · intro h
    have hbit := congrArg (· &&& vdp22Resbit) h
    have hclear : (x &&& ~~~(vdp22Resbit ||| vdp22Ackbit)) &&& vdp22Resbit = 0 := by
      rw [UInt8.and_assoc]
      exact UInt8.and_zero
    exact absurd (hclear.symm.trans hbit) (by decide)
  · decide

/-- What a TLV of the bridge leaves alone up to the comparison of the filter entries, and that it
leaves a status behind -/
structure Heeded (v w : Vsi22) : Prop where
  key : vsiKey w = vsiKey v
  pid : havepid w = havepid v
  deleteMe : w.flags.deleteMe = v.flags.deleteMe
  status : w.status ≠ vdp22RespNone
  notify : v.ccVsiMode = vdp22Deassoc → w.flags.notify = v.flags.notify

theorem Heeded.cmpStatus (h : Heeded v w) (vsip : Vsi22) :
    Heeded v (vdp22CmpStatus w vsip) := by
  obtain ⟨hkey, hfdata, hflags, hstatus⟩ := vdp22CmpStatus_kept w vsip
  refine ⟨hkey.trans h.key, Eq.trans ?_ h.pid, ?_, hstatus h.status, ?_⟩
  · unfold havepid
    rw [hfdata]
  · rw [hflags]
    exact h.deleteMe
  · rw [hflags]
    exact h.notify

theorem Heeded.cpfid (h : Heeded v w) (vsip : Vsi22) :
    Heeded v (vdp22Cpfid w vsip) := by
  obtain ⟨hkey, hpid, hdelete, hnotify⟩ := vdp22Cpfid_requestor w vsip
  refine ⟨hkey.trans h.key, hpid.trans h.pid, hdelete.trans h.deleteMe, ?_,
    fun hcc => hnotify.trans (h.notify hcc)⟩
  rw [(vdp22Cpfid_kept w vsip).1]
  exact h.status

/-- A VSI that heard of the bridge -/
def heardVsi (status : UInt8) (deassoc : Bool) (v : Vsi22) : Vsi22 :=
  { v with
    status := status
    smi := { v.smi with ackreceived := true, deassoc := deassoc, acktimeout := false } }

/-- A VSI that took the answer -/
def takenVsi (vsip w : Vsi22) : Vsi22 :=
  let u := vdp22CmpStatus w vsip
  vdp22Cpfid { u with smi := { u.smi with respOk := true }, respVsiMode := vsip.vsiMode } vsip

/-- `vdp22_bridge_info` up to the comparison of the filter entries -/
def heardCtx (vsip : Vsi22) (c : Vsi22Ctx) : Vsi22Ctx :=
  let c := c.deref.setSmi fun s =>
    { s with ackreceived := true, deassoc := false, acktimeout := false }
  let c := vdp22stStopAcktimer c
  let c := { c with vsi := { c.vsi with status := getError vsip.status } }
  if vsip.status &&& vdp22Ackbit = 0 ∧ vsip.vsiMode = vdp22Deassoc then
    { c with vsi := { c.vsi with status := 0, smi := { c.vsi.smi with deassoc := true } } }
  else c

/-- `vdp22_bridge_info` from the comparison of the filter entries on -/
def compared (vsip : Vsi22) (c : Vsi22Ctx) : Vsi22Ctx :=
  let same := vdp22CmpFdata c.vsi vsip
  let c := { c with vsi := vdp22CmpStatus c.vsi vsip }
  if same then
    let c := c.setSmi fun s => { s with respOk := true }
    let c := { c with vsi := vdp22Cpfid { c.vsi with respVsiMode := vsip.vsiMode } vsip }
    if c.vsi.ccVsiMode ≠ vdp22Deassoc ∧
        (c.vsi.respVsiMode = vdp22Deassoc ∨ badError c.vsi.status) ∧ c.vsi.flags.nlcmd = false then
      c.setFlags fun f => { f with notify := true }
    else c
  else c

theorem vdp22BridgeSeen_eq (vsip : Vsi22) (c : Vsi22Ctx) :
    vdp22BridgeSeen vsip c = compared vsip (heardCtx vsip c) := rfl

theorem heardCtx_eq (vsip : Vsi22) (hlive : x.freed = false) :
    ∃ status deassoc, (status = getError vsip.status ∨ status = 0) ∧
      (deassoc = true → vsip.vsiMode = vdp22Deassoc) ∧
      heardCtx vsip x = { x with
        vsi := heardVsi status deassoc x.vsi
        timers := { x.timers with ackto := 0 } } := by
  unfold heardCtx
  rw [deref_of_live hlive]
  split_ifs with hask
  · exact ⟨0, true, .inr rfl, fun _ => hask.2, rfl⟩
  · exact ⟨getError vsip.status, false, .inl rfl, nofun, rfl⟩

theorem vdp22BridgeSeen_compared (vsip : Vsi22) (hlive : x.freed = false) :
    ∃ status deassoc, (status = getError vsip.status ∨ status = 0) ∧
      (deassoc = true → vsip.vsiMode = vdp22Deassoc) ∧
      vdp22BridgeSeen vsip x = compared vsip
        { x with
          vsi := heardVsi status deassoc x.vsi
          timers := { x.timers with ackto := 0 } } := by
  obtain ⟨status, deassoc, hstatus, hdeassoc, heq⟩ := heardCtx_eq vsip hlive
  refine ⟨status, deassoc, hstatus, hdeassoc, ?_⟩
  rw [vdp22BridgeSeen_eq, heq]

theorem compared_cases (vsip : Vsi22) (c : Vsi22Ctx) :
    (compared vsip c).freed = c.freed ∧ (compared vsip c).back = c.back ∧
      ((compared vsip c).vsi = vdp22CmpStatus c.vsi vsip ∨
        (compared vsip c).vsi = takenVsi vsip c.vsi ∨
        (takenVsi vsip c.vsi).ccVsiMode ≠ vdp22Deassoc ∧
          (compared vsip c).vsi = { takenVsi vsip c.vsi with
            flags := { (takenVsi vsip c.vsi).flags with notify := true } }) := by
  unfold compared
  dsimp only
  split_ifs with hsame hnotify
  · exact ⟨rfl, rfl, .inr (.inr ⟨hnotify.1, rfl⟩)⟩
  · exact ⟨rfl, rfl, .inr (.inl rfl)⟩
  · exact ⟨rfl, rfl, .inl rfl⟩

theorem takenVsi_heeded (h : Heeded v w) (vsip : Vsi22) :
    Heeded v (takenVsi vsip w) :=
  Heeded.cpfid (w := { vdp22CmpStatus w vsip with
    smi := { (vdp22CmpStatus w vsip).smi with respOk := true }, respVsiMode := vsip.vsiMode })
    ⟨(h.cmpStatus vsip).key, (h.cmpStatus vsip).pid, (h.cmpStatus vsip).deleteMe,
      (h.cmpStatus vsip).status, (h.cmpStatus vsip).notify⟩ vsip

theorem vdp22BridgeSeen_heeded (vsip : Vsi22) (hlive : x.freed = false) :
    Heeded x.vsi (vdp22BridgeSeen vsip x).vsi := by
  obtain ⟨status, deassoc, hstatus, -, hseen⟩ := vdp22BridgeSeen_compared vsip hlive
  have hsome : status ≠ vdp22RespNone := by
    rcases hstatus with rfl | rfl
    · exact getError_ne_none _
    · decide
  have hheard : Heeded x.vsi (heardVsi status deassoc x.vsi) := ⟨rfl, rfl, rfl, hsome, fun _ => rfl⟩
  rw [hseen]
  rcases (compared_cases vsip _).2.2 with h | h | ⟨hcc, h⟩ <;> rw [h]
  · exact hheard.cmpStatus vsip
  · exact takenVsi_heeded hheard vsip
  · have htaken := takenVsi_heeded hheard vsip
    refine ⟨htaken.key, htaken.pid, htaken.deleteMe, htaken.status, fun hdeassoc => absurd ?_ hcc⟩
    show (vdp22Cpfid _ vsip).ccVsiMode = _
    rw [(vdp22Cpfid_kept _ vsip).2.2]
    exact (vdp22CmpStatus_ccVsiMode _ vsip).trans hdeassoc

theorem vdp22BridgeSeen_heard (vsip : Vsi22) (hlive : x.freed = false)
    (hno : x.vsi.smi.respOk = false) : Heard (vdp22BridgeSeen vsip x).vsi := by
  obtain ⟨status, deassoc, -, hdeassoc, hseen⟩ := vdp22BridgeSeen_compared vsip hlive
  have hmode : (takenVsi vsip (heardVsi status deassoc x.vsi)).respVsiMode = vsip.vsiMode :=
    (vdp22Cpfid_kept _ vsip).2.1
  have hflag : (takenVsi vsip (heardVsi status deassoc x.vsi)).smi.deassoc = deassoc := by
    show (vdp22Cpfid _ vsip).smi.deassoc = _
    rw [vdp22Cpfid_smi]
    show (vdp22CmpStatus _ vsip).smi.deassoc = _
    rw [vdp22CmpStatus_smi]
    rfl
  rw [hseen]
  rcases (compared_cases vsip _).2.2 with h | h | ⟨-, h⟩ <;> rw [h] <;> intro hok hset
  · rw [vdp22CmpStatus_smi] at hok
    exact Bool.noConfusion (hno.symm.trans hok)
  · exact hmode.trans (hdeassoc (hflag.symm.trans hset))
  · exact hmode.trans (hdeassoc (hflag.symm.trans hset))

theorem EndNode.answered {vsip : Vsi22} {x : Vsi22Ctx} (hx : EndNode x)
    (hsettled : Settled x.vsi) (hlive : x.freed = false) (hback : x.back = [])
    (h : vdp22BridgeHit rc vsip x = .ok y) : NodeStep x y := by
  have hkept := vdp22BridgeSeen_heeded vsip hlive
  obtain ⟨deassoc, respOk, hsmi, htimers⟩ := vdp22BridgeSeen_smi vsip x
  obtain ⟨hulive, huback⟩ : (vdp22BridgeSeen vsip x).freed = false ∧
      (vdp22BridgeSeen vsip x).back = [] := by
    obtain ⟨status, deassoc, -, -, hseen⟩ := vdp22BridgeSeen_compared vsip hlive
    rw [hseen]
    exact ⟨(compared_cases vsip _).1.trans hlive, (compared_cases vsip _).2.1.trans hback⟩
  have hstate : (vdp22BridgeSeen vsip x).vsi.smi.state = x.vsi.smi.state := by rw [hsmi]
  have hforeign : NoForeignTimers (vdp22BridgeSeen vsip x).timers .station := by
    rw [htimers]
    exact hx.foreign
  cases hended : x.ended with
  | true =>
    obtain ⟨-, -, -, hcc⟩ := hx.waiting hlive hended
    refine NodeStep.again hx hlive hended hulive huback hstate hkept.key hforeign ?_ hkept.status h
    unfold endReported
    rw [hkept.pid, hkept.notify hcc]
  | false =>
    obtain ⟨hkeep, -⟩ := hx.running hlive hended
    have hukeep := hkept.deleteMe.trans hkeep
    have htold := hx.told hstate huback fun hproc =>
      .inr (vdp22BridgeSeen_heard vsip hlive (hsettled.wait hproc).2)
    refine NodeStep.run hlive hended hulive hukeep hkept.key hforeign htold h (.inl ?_)
    have hbegun : isBegun (vdp22BridgeSeen vsip x).vsi.smi.state := by
      rw [hstate]
      exact hx.begun
    rw [vdp22stRun_status hulive hukeep hbegun h]
    exact hkept.status

end Lldpad.Qbg
